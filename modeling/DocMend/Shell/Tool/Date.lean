import DocMend.Shell.Filing
import DocMend.Shell.Print.Moment
import DocMend.Shell.Tool.Show
/-!
Dates in words, and the tool that prints dates. A date is told by parts in any order: a date of the
calendar, a time of day, a zone, a day of the week, and steps from there.
-/

set_option autoImplicit false
set_option relaxedAutoImplicit false

namespace DocMend.Shell.Tool

/-- A part of the text of a date: a number with its digits, and its sign if it has one, a word in small
letters, or another character. -/
inductive DateToken where
  | number (sign : Option Char) (digits : Octets) (fraction : Option Octets)
  | word (text : String)
  | mark (c : Char)
deriving DecidableEq, Repr

namespace DateToken

/-- Skips what stands between parentheses. -/
def afterComment : Nat → Octets → Octets
  | _, [] => []
  | depth, c :: rest =>
    if c == '(' then afterComment (depth + 1) rest
    else if c == ')' then (if depth ≤ 1 then rest else afterComment (depth - 1) rest)
    else afterComment depth rest

/-- Reads a number after its sign. -/
def readNumber (sign : Option Char) (cs : Octets) : DateToken × Octets :=
  let digits := cs.takeWhile Char.isDigit
  match cs.drop digits.length with
  | c :: d :: more =>
    if (c == '.' || c == ',') && d.isDigit then
      let fraction := (d :: more).takeWhile Char.isDigit
      (number sign digits (some fraction), (d :: more).drop fraction.length)
    else (number sign digits none, c :: d :: more)
  | rest => (number sign digits none, rest)

/-- Reads the parts of a text. -/
def readAll : Nat → Octets → List DateToken
  | 0, _ => []
  | _, [] => []
  | fuel + 1, c :: rest =>
    if Octets.isSpace c then readAll fuel rest
    else if c == '(' then readAll fuel (afterComment 0 (c :: rest))
    else if c.isDigit then
      let (token, rest) := readNumber none (c :: rest)
      token :: readAll fuel rest
    else if c == '+' || c == '-' then
      let after := rest.dropWhile Octets.isSpace
      if after.head?.any Char.isDigit then
        let (token, rest) := readNumber (some c) after
        token :: readAll fuel rest
      else if c == '-' then readAll fuel rest
      else mark c :: readAll fuel rest
    else if c.isAlpha then
      let text := (c :: rest).takeWhile fun c => c.isAlpha || c == '.'
      word (String.ofList (text.map Char.toLower)) :: readAll fuel ((c :: rest).drop text.length)
    else mark c :: readAll fuel rest

end DateToken

/-- Units of time in which steps are counted. -/
inductive DateUnit where
  | years
  | months
  | days (each : Nat)
  | seconds (each : Nat)
deriving DecidableEq, Repr

/-- What the text of a date says. -/
structure DateReading where
  date : Option Calendar.Date := none
  /-- The digits in which the year was written, if one was. -/
  hasYear : Bool := false
  /-- The second of the day, and the rest in billionths. -/
  time : Option (Nat × Nat) := none
  /-- How many minutes the zone is ahead. -/
  zone : Option Int := none
  weekday : Option (Int × Nat) := none
  years : Int := 0
  months : Int := 0
  days : Int := 0
  seconds : Int := 0
  fraction : Nat := 0
  hasSteps : Bool := false
deriving DecidableEq, Repr

namespace DateReading

/-- The months by the beginnings of their names. -/
def month? (word : String) : Option Nat :=
  let word := (word.toList.filter (· ≠ '.'))
  let names := Moment.months.map fun name => name.toList.map Char.toLower
  if word == "sept".toList then some 9
  else
    match names.findIdx? fun name => name == word || word.length = 3 && word.isPrefixOf name with
    | some n => some (n + 1)
    | none => none

/-- The days of the week by the beginnings of their names. -/
def weekday? (word : String) : Option Nat :=
  let word := (word.toList.filter (· ≠ '.'))
  let names := Moment.weekdays.map fun name => name.toList.map Char.toLower
  if word == "tues".toList then some 2
  else if word == "wednes".toList then some 3
  else if word == "thur".toList || word == "thurs".toList then some 4
  else names.findIdx? fun name => name == word || word.length = 3 && word.isPrefixOf name

/-- Words that count. -/
def ordinal? (word : String) : Option Int :=
  [("last", (-1 : Int)), ("this", 0), ("next", 1), ("first", 1), ("third", 3), ("fourth", 4),
   ("fifth", 5), ("sixth", 6), ("seventh", 7), ("eighth", 8), ("ninth", 9), ("tenth", 10),
   ("eleventh", 11), ("twelfth", 12)].lookup word

/-- Units of time by their names. -/
def unit? (word : String) : Option DateUnit :=
  let table : List (String × DateUnit) :=
    [("year", .years), ("month", .months), ("fortnight", .days 14), ("week", .days 7),
     ("day", .days 1), ("hour", .seconds 3600), ("minute", .seconds 60), ("min", .seconds 60),
     ("second", .seconds 1), ("sec", .seconds 1)]
  match table.lookup word with
  | some unit => some unit
  | none =>
    match word.toList.reverse with
    | 's' :: rest => table.lookup (String.ofList rest.reverse)
    | _ => none

/-- Words that step by days. -/
def dayShift? (word : String) : Option Int :=
  [("tomorrow", (1 : Int)), ("yesterday", -1), ("today", 0), ("now", 0)].lookup word

/-- How many minutes the zone of a name is ahead. -/
def zone? (word : String) : Option Int :=
  let table : List (String × Int) :=
    [("gmt", 0), ("ut", 0), ("utc", 0), ("z", 0), ("wet", 0), ("west", 60), ("bst", 60), ("art", -180),
     ("brt", -180), ("brst", -120), ("nst", -210), ("ndt", -150), ("ast", -240), ("adt", -180),
     ("clt", -240), ("clst", -180), ("est", -300), ("edt", -240), ("cst", -360), ("cdt", -300),
     ("mst", -420), ("mdt", -360), ("pst", -480), ("pdt", -420), ("akst", -540), ("akdt", -480),
     ("hst", -600), ("hast", -600), ("hadt", -540), ("sst", -720), ("wat", 60), ("cet", 60),
     ("cest", 120), ("met", 60), ("mez", 60), ("mest", 120), ("mesz", 120), ("eet", 120),
     ("eest", 180), ("cat", 120), ("sast", 120), ("eat", 180), ("msk", 180), ("msd", 240),
     ("ist", 330), ("sgt", 480), ("kst", 540), ("jst", 540), ("gst", 600), ("nzst", 720),
     ("nzdt", 780)]
  match table.lookup word with
  | some zone => some zone
  | none =>
    match word.toList with
    | [c] =>
      match "abcdefghiklm".toList.findIdx? (· == c), "nopqrsuvwxy".toList.findIdx? (· == c) with
      | some n, _ => some (60 * ((n : Int) + 1))
      | _, some n =>
        -- One letter in the row marks a time instead.
        some (-60 * ((if n < 6 then n else n + 1 : Nat) + 1 : Int))
      | _, _ => none
    | _ => none

/-- The hour of a time by its half of the day, if it is a half. -/
def half? (word : String) : Option Bool :=
  if word = "am" || word = "a.m." || word = "a.m" then some false
  else if word = "pm" || word = "p.m." || word = "p.m" then some true
  else none

/-- A year of two digits lies around the end of a century. -/
def yearOf (digits : Octets) : Int :=
  let n : Int := Text.digitsValue digits
  if digits.length = 2 then (if n < 69 then n + 2000 else n + 1900) else n

/-- Sets the date, once. -/
def withDate (r : DateReading) (year? : Option Octets) (month day : Nat) (thisYear : Int) :
    Option DateReading :=
  if r.date.isSome then none
  else
    some { r with
      date := some ⟨(year?.map yearOf).getD thisYear, month, day⟩, hasYear := year?.isSome }

/-- Sets the time of day, once. -/
def withTime (r : DateReading) (hour minute second fraction : Nat) : Option DateReading :=
  if r.time.isSome || 23 < hour || 59 < minute || 60 < second then none
  else some { r with time := some (hour * 3600 + minute * 60 + second, fraction) }

/-- Sets the zone, once. -/
def withZone (r : DateReading) (minutes : Int) : Option DateReading :=
  if r.zone.isSome then none else some { r with zone := some minutes }

/-- Adds a step. -/
def withStep (r : DateReading) (count : Int) (unit : DateUnit) : DateReading :=
  let r := { r with hasSteps := true }
  match unit with
  | .years => { r with years := r.years + count }
  | .months => { r with months := r.months + count }
  | .days each => { r with days := r.days + count * each }
  | .seconds each => { r with seconds := r.seconds + count * each }

/-- The minutes of a zone that digits write: hours, or hours and minutes. -/
def zoneMinutes (sign : Char) (digits : Octets) (minutes? : Option Nat) : Int :=
  let n := Text.digitsValue digits
  let total : Int := match minutes? with
    | some minutes => n * 60 + minutes
    | none => if digits.length ≤ 2 then n * 60 else n / 100 * 60 + n % 100
  if sign = '-' then -total else total

/-- Billionths of a second from the digits of a fraction. -/
def billionths (digits : Octets) : Nat :=
  Text.digitsValue ((digits ++ List.replicate 9 '0').take 9)

/-- The number that a signed token stands for. -/
def signed (sign : Char) (digits : Octets) : Int :=
  if sign = '-' then -(Text.digitsValue digits : Int) else Text.digitsValue digits

/-- A zone behind a time, and the rest. -/
def readZone (r : DateReading) : List DateToken → Option (DateReading × List DateToken)
  | .number (some sign) digits none :: .mark ':' :: .number none minutes none :: rest =>
    (r.withZone (zoneMinutes sign digits (some (Text.digitsValue minutes)))).map fun r => (r, rest)
  | .number (some sign) digits none :: rest =>
    (r.withZone (zoneMinutes sign digits none)).map fun r => (r, rest)
  | rest => some (r, rest)

/-- The half of the day or the zone behind a time, and the rest. -/
def readTimeEnd (r : DateReading) (hour minute second fraction : Nat) (rest : List DateToken) :
    Option (DateReading × List DateToken) := do
  match rest with
  | .word text :: more =>
    match half? text with
    | some isLate =>
      if hour = 0 || 12 < hour then none
      else
        let r ← r.withTime (hour % 12 + if isLate then 12 else 0) minute second fraction
        return (r, more)
    | none => return (← r.withTime hour minute second fraction, rest)
  | _ =>
    let r ← r.withTime hour minute second fraction
    r.readZone rest

/-- A step with a count, which may go back. -/
def readStep (r : DateReading) (count : Int) (unit : DateUnit) (rest : List DateToken) :
    DateReading × List DateToken :=
  match rest with
  | .word "ago" :: more => (r.withStep (-count) unit, more)
  | _ => (r.withStep count unit, rest)

/-- A number that says nothing by its surroundings: a year, a date, or a time. -/
def withNumber (r : DateReading) (digits : Octets) : Option DateReading :=
  let n := Text.digitsValue digits
  if r.date.isSome && !r.hasYear && !r.hasSteps && (r.time.isSome || 2 < digits.length) then
    some { r with
      date := r.date.map fun d => { d with year := yearOf digits }, hasYear := true }
  else if 4 < digits.length then
    if r.date.isSome then none
    else
      some { r with
        date := some ⟨yearOf (digits.take (digits.length - 4)), n / 100 % 100, n % 100⟩
        hasYear := true }
  else if digits.length ≤ 2 then r.withTime n 0 0 0
  else r.withTime (n / 100) (n % 100) 0 0

/-- Reads one part: what it says is added. -/
def readPart (thisYear : Int) (r : DateReading) (tokens : List DateToken) :
    Option (DateReading × List DateToken) := do
  let isMonth (word : String) : Bool := (month? word).isSome
  let isUnit (word : String) : Bool := (unit? word).isSome
  match tokens with
  -- A time of day.
  | .number none h none :: .mark ':' :: .number none m none :: .mark ':' :: .number none s f :: rest =>
    r.readTimeEnd (Text.digitsValue h) (Text.digitsValue m) (Text.digitsValue s)
      ((f.map billionths).getD 0) rest
  | .number none h none :: .mark ':' :: .number none m none :: rest =>
    r.readTimeEnd (Text.digitsValue h) (Text.digitsValue m) 0 0 rest
  -- A date of the calendar.
  | .number none y none :: .number (some '-') m none :: .number (some '-') d none :: rest =>
    return (← r.withDate (some y) (Text.digitsValue m) (Text.digitsValue d) thisYear, rest)
  | .number none a none :: .mark '/' :: .number none b none :: .mark '/' :: .number none c none :: rest =>
    if 4 ≤ a.length then
      return (← r.withDate (some a) (Text.digitsValue b) (Text.digitsValue c) thisYear, rest)
    else return (← r.withDate (some c) (Text.digitsValue a) (Text.digitsValue b) thisYear, rest)
  | .number none a none :: .mark '/' :: .number none b none :: rest =>
    return (← r.withDate none (Text.digitsValue a) (Text.digitsValue b) thisYear, rest)
  | .number none d none :: .word w :: rest =>
    let n := Text.digitsValue d
    match month? w, half? w, weekday? w, unit? w with
    | some month, _, _, _ =>
      match rest with
      | .number (some '-') y none :: rest => return (← r.withDate (some y) month n thisYear, rest)
      | .number none y none :: rest =>
        match rest with
        | .mark ':' :: _ => return (← r.withDate none month n thisYear, .number none y none :: rest)
        | _ => return (← r.withDate (some y) month n thisYear, rest)
      | _ => return (← r.withDate none month n thisYear, rest)
    | none, some _, _, _ => r.readTimeEnd n 0 0 0 (.word w :: rest)
    | _, _, some weekday, _ =>
      if r.weekday.isSome then none else return ({ r with weekday := some (n, weekday) }, rest)
    | _, _, _, some unit => return r.readStep n unit rest
    | none, none, none, none => return (← r.withNumber d, .word w :: rest)
  | .word w :: .number none d none :: .mark ',' :: .number none y none :: rest =>
    if isMonth w then
      return (← r.withDate (some y) ((month? w).getD 0) (Text.digitsValue d) thisYear, rest)
    else none
  | .word w :: .number (some '-') d none :: .number (some '-') y none :: rest =>
    if isMonth w then
      return (← r.withDate (some y) ((month? w).getD 0) (Text.digitsValue d) thisYear, rest)
    else
      match zone? w with
      | some zone =>
        return (← r.withZone (zone + zoneMinutes '-' d none), .number (some '-') y none :: rest)
      | none => none
  | .number (some sign) digits none :: .word w :: rest =>
    match unit? w with
    | some unit => return r.readStep (signed sign digits) unit rest
    | none => none
  | .number none digits none :: rest => return (← r.withNumber digits, rest)
  | .word w :: rest =>
    match month? w, weekday? w, ordinal? w, unit? w, dayShift? w with
    | some month, _, _, _, _ =>
      match rest with
      | .number none d none :: rest => return (← r.withDate none month (Text.digitsValue d) thisYear, rest)
      | _ => none
    | _, some weekday, _, _, _ =>
      if r.weekday.isSome then none
      else
        let rest := match rest with
          | .mark ',' :: rest => rest
          | rest => rest
        return ({ r with weekday := some (0, weekday) }, rest)
    | _, _, some count, _, _ =>
      match rest with
      | .word next :: rest =>
        match unit? next, weekday? next with
        | some unit, _ => return r.readStep count unit rest
        | _, some weekday =>
          if r.weekday.isSome then none
          else return ({ r with weekday := some (count, weekday) }, rest)
        | none, none => none
      | _ => none
    | _, _, _, some unit, _ => return r.readStep 1 unit rest
    | _, _, _, _, some shift => return (r.withStep shift (.days 1), rest)
    | none, none, none, none, none =>
      if w = "t" && r.date.isSome then return (r, rest)
      else
        match zone? w with
        | some zone =>
          match rest with
          | .number (some sign) digits none :: .mark ':' :: .number none minutes none :: rest =>
            return (← r.withZone (zone + zoneMinutes sign digits (some (Text.digitsValue minutes))),
              rest)
          | .number (some sign) digits none :: .word next :: rest =>
            if isUnit next then
              return (← r.withZone zone, .number (some sign) digits none :: .word next :: rest)
            else
              return (← r.withZone (zone + zoneMinutes sign digits none), .word next :: rest)
          | .number (some sign) digits none :: rest =>
            return (← r.withZone (zone + zoneMinutes sign digits none), rest)
          | _ => return (← r.withZone zone, rest)
        | none => none
  | .mark ',' :: rest => return (r, rest)
  | _ => none

/-- Reads all parts. -/
def readParts (thisYear : Int) : Nat → DateReading → List DateToken → Option DateReading
  | _, r, [] => some r
  | 0, _, _ => none
  | fuel + 1, r, tokens =>
    match readPart thisYear r tokens with
    | some (r, rest) => readParts thisYear fuel r rest
    | none => none

/-- The day of a date whose month may lie outside the year. -/
def dayOf (year : Int) (month : Int) (day : Int) : Int :=
  let month := month - 1
  let year := year + month / 12
  (Calendar.Date.mk year (month % 12).toNat.succ 1).toDay + day - 1

/-- The moment that a reading stands for. -/
def moment? (r : DateReading) (now : Moment) : Option Moment :=
  let date := r.date.getD now.date
  if !date.isValid then none
  else
    let isWholeDay := r.time.isNone && (r.date.isSome || r.weekday.isSome)
    let (second, fraction) : Nat × Nat := match r.time with
      | some (second, fraction) => (second, fraction)
      | none => if isWholeDay then (0, 0) else ((now.seconds % 86400).toNat, now.fraction)
    let base := dayOf (date.year + r.years) (date.month + r.months) date.day
    let onWeekday : Int := match r.weekday, r.date with
      | some (count, weekday), none =>
        let current := ((base + 4) % 7).toNat
        let ahead : Int := (weekday + 7 - current) % 7
        ahead + 7 * (count - if 0 < count && current ≠ weekday then 1 else 0)
      | _, _ => 0
    let days := base + onWeekday + r.days
    some ⟨days * 86400 + second - (r.zone.getD 0) * 60 + r.seconds, fraction⟩

end DateReading

/-- The moment that a text tells, seen from now. -/
def readMoment (now : Moment) (text : Octets) : Option Moment :=
  let start := text.dropWhile Octets.isSpace
  match start with
  | '@' :: rest =>
    let rest := rest.dropWhile Octets.isSpace
    let (negative, digits) : Bool × Octets := match rest with
      | '-' :: more => (true, more)
      | '+' :: more => (false, more)
      | more => (false, more)
    if digits.head?.any Char.isDigit then
      match DateToken.readNumber none digits with
      | (.number _ whole fraction, after) =>
        if !(after.all Octets.isSpace) then none
        else
          let n : Int := Text.digitsValue whole
          let part := (fraction.map DateReading.billionths).getD 0
          if !negative then some ⟨n, part⟩
          else if part = 0 then some ⟨-n, 0⟩
          else some ⟨-n - 1, 1000000000 - part⟩
      | _ => none
    else none
  | _ =>
    let tokens := DateToken.readAll (text.length + 1) text
    match DateReading.readParts now.date.year (tokens.length + 1) {} tokens with
    | some r =>
      let r := if tokens.isEmpty then { r with date := some now.date } else r
      r.moment? now
    | none => none

/-- The format of a date by a standard, and how precise it is. -/
def standardFormat? (mark : Char) (precision : Octets) : Option String :=
  let middle := String.ofList [mark]
  let zone := "%:z"
  match Octets.name precision with
  | "" => some "%Y-%m-%d"
  | "date" => some "%Y-%m-%d"
  | "hours" => some ("%Y-%m-%d" ++ middle ++ "%H" ++ zone)
  | "minutes" => some ("%Y-%m-%d" ++ middle ++ "%H:%M" ++ zone)
  | "seconds" => some ("%Y-%m-%d" ++ middle ++ "%H:%M:%S" ++ zone)
  | "ns" =>
    some ("%Y-%m-%d" ++ middle ++ "%H:%M:%S" ++ (if mark = 'T' then "," else ".") ++ "%N" ++ zone)
  | _ => none

/-- The options of the tool that prints dates. -/
def dateOptions : Options where
  letters := "d:f:I::r:Rs:u"
  names := ["date=d", "debug", "file=f", "iso-8601=I", "reference=r", "resolution", "rfc-email=R",
    "rfc-822=R", "rfc-2822=R", "rfc-3339:", "set=s", "utc=u", "uct=u", "universal=u"]

/-- Prints a moment. -/
def date : Tool := fun arguments => do
  let (given, operands) ← options "date" 1 dateOptions arguments
  let now := Moment.ofThousandths (← Run.machine).now
  let standard? ← match lastOf? given ["I", "R", "rfc-3339"] with
    | none => pure none
    | some g =>
      let text := g.argument.getD []
      if g.key = "R" then pure (some "%a, %d %b %Y %H:%M:%S %z")
      else
        let found := if g.key = "I" then standardFormat? 'T' text
          else if text.isEmpty || text == "hours".toList || text == "minutes".toList then none
          else standardFormat? ' ' text
        match found with
        | some format => pure (some format)
        | none =>
          let (name, words) : String × List String :=
            if g.key = "I" then
              ("--iso-8601", ["hours", "minutes", "date", "seconds", "ns"])
            else ("--rfc-3339", ["date", "seconds", "ns"])
          complain "date" ("invalid argument " ++ marked text ++ " for " ++ marked name)
          Run.note "Valid arguments are:"
          for word in words do
            Run.note ("  - " ++ marked word)
          giveUp "date" 1
  let tellsDate := (lastOf? given ["d", "f", "r", "s"]).isSome
  let format? ← match operands with
    | [] => pure none
    | [('+' :: format)] => pure (some format)
    | [operand] =>
      if tellsDate then
        complain "date" ("the argument " ++ marked operand ++ " lacks a leading \x27+\x27;")
        Run.note "when using an option to specify date(s), any non-option"
        Run.note "argument must be a format string beginning with \x27+\x27"
        giveUp "date" 1
      abandon "date" 1 ("invalid date " ++ marked operand)
    | _ :: extra :: _ => refuse "date" 1 ("extra operand " ++ marked extra)
  if format?.isSome && standard?.isSome then
    abandon "date" 1 "multiple output formats specified"
  let format : Octets := match format?, standard? with
    | some format, _ => format
    | _, some format => format.toList
    | none, none => "%a %b %e %H:%M:%S %Z %Y"
  let tell (moment : Moment) : Run Unit :=
    Run.printLine (moment.format format true)
  match lastOf? given ["d", "f", "r", "s"] with
  | none =>
    tell now
    return 0
  | some g =>
    let argument := g.argument.getD []
    match g.key with
    | "r" =>
      match ← Run.placeOf argument with
      | .ok (path, some _) =>
        tell (Moment.ofThousandths ((← Run.machine).timeOf path))
        return 0
      | .ok (_, none) =>
        complain "date" (shownName argument ++ ": " ++ reason .missing)
        return 1
      | .error refusal =>
        complain "date" (shownName argument ++ ": " ++ reason refusal)
        return 1
    | "f" =>
      match ← readSource argument with
      | .error refusal => abandon "date" 1 (shownName argument ++ ": " ++ reason refusal)
      | .ok text =>
        let mut status := 0
        for line in Octets.lines text do
          match readMoment now line with
          | some moment => tell moment
          | none =>
            complain "date" ("invalid date " ++ marked line)
            status := 1
        return status
    | key =>
      match readMoment now argument with
      | none => abandon "date" 1 ("invalid date " ++ marked argument)
      | some moment =>
        if key == "s" then
          complain "date" "cannot set date: Operation not permitted"
          tell moment
          return 1
        tell moment
        return 0

end DocMend.Shell.Tool
