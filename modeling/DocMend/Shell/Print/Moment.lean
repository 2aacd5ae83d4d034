import DocMend.Calendar
import DocMend.Shell.Octets
/-!
Moments as texts. A format holds conversions, each of which a percent sign begins: flags and a width
may stand between the sign and the letter. All moments are told by coordinated universal time.
-/

set_option autoImplicit false
set_option relaxedAutoImplicit false

namespace DocMend.Shell

/-- A moment: its seconds since the beginning of 1970, and the rest in billionths of a second. -/
structure Moment where
  seconds : Int
  fraction : Nat := 0
deriving DecidableEq, Repr

namespace Moment

/-- The days of the week, from Sunday on. -/
def weekdays : List String :=
  ["Sunday", "Monday", "Tuesday", "Wednesday", "Thursday", "Friday", "Saturday"]

/-- The months. -/
def months : List String :=
  ["January", "February", "March", "April", "May", "June", "July", "August", "September", "October",
   "November", "December"]

/-- The moment at a number of thousandths of a second. -/
def ofThousandths (n : Int) : Moment :=
  ⟨n / 1000, (n % 1000).toNat * 1000000⟩

/-- The day of a moment, counted from the first of January 1970. -/
def day (m : Moment) : Int :=
  m.seconds / 86400

/-- The date of a moment. -/
def date (m : Moment) : Calendar.Date :=
  Calendar.dateOfDay m.day

/-- The time of day of a moment. -/
def time (m : Moment) : Calendar.Time :=
  Calendar.timeOfSecond (m.seconds % 86400).toNat

/-- The day of the week, from Sunday on. -/
def weekday (m : Moment) : Nat :=
  ((m.day + 4) % 7).toNat

/-- How many days of the year are over. -/
def dayOfYear (m : Moment) : Nat :=
  (m.day - (Calendar.Date.mk m.date.year 1 1).toDay).toNat

/-- The week of the year, where weeks begin with a day of the week. -/
def weekFrom (m : Moment) (first : Nat) : Nat :=
  (m.dayOfYear + 7 - (m.weekday + 7 - first) % 7) / 7

/-- The year and the number of the week that holds the day, where a week belongs to the year that holds
its Thursday. -/
def weekOfYear (m : Moment) : Int × Nat :=
  let thursday := m.day - ((m.weekday + 6) % 7 : Nat) + 3
  let year := (Calendar.dateOfDay thursday).year
  (year, ((thursday - (Calendar.Date.mk year 1 1).toDay) / 7).toNat + 1)

/-- How a conversion fills its field, changes the case, and how wide it is. -/
structure Field where
  pad : Option Char := none
  upper : Bool := false
  swaps : Bool := false
  width : Option Nat := none
  colons : Nat := 0
deriving DecidableEq, Repr

namespace Field

/-- Writes a number with at least so many digits, filled up with a character. -/
def number (f : Field) (digits : Nat) (usual : Char) (n : Int) : Octets :=
  let pad := f.pad.getD usual
  let text := Octets.ofNat n.natAbs
  let sign : Octets := if n < 0 then ['-'] else []
  let width := f.width.getD digits
  if pad = '-' then sign ++ text
  else if pad = '_' then
    List.replicate (width - text.length - sign.length) ' ' ++ sign ++ text
  else sign ++ List.replicate (width - text.length - sign.length) '0' ++ text

/-- Writes a text. -/
def text (f : Field) (cs : Octets) : Octets :=
  let shown := if f.upper then cs.map Char.toUpper else cs
  let fill := if f.pad = some '0' then '0' else ' '
  let width := if f.pad = some '-' then 0 else f.width.getD 0
  List.replicate (width - shown.length) fill ++ shown

/-- Writes a name, which is in capitals where the case is swapped. -/
def name (f : Field) (cs : String) : Octets :=
  { f with upper := f.upper || f.swaps }.text cs.toList

end Field

/-- Writes a moment by the conversion with a letter; parts of conversions that stand for several ones
are written by a format. A letter that stands for nothing has none. -/
def converted? (m : Moment) (f : Field) (letter : Char) : Option (Octets ⊕ String) :=
  let date := m.date
  let time := m.time
  let hour := (time.hour + 11) % 12 + 1
  let weekday := weekdays.getD m.weekday ""
  let month := months.getD (date.month - 1) ""
  let short (name : String) : String := String.ofList (name.toList.take 3)
  let (weekYear, week) := m.weekOfYear
  let number (digits : Nat) (n : Int) : Option (Octets ⊕ String) :=
    some (.inl (f.number digits '0' n))
  let filled (digits : Nat) (n : Int) : Option (Octets ⊕ String) :=
    some (.inl (f.number digits '_' n))
  let name (text : String) : Option (Octets ⊕ String) := some (.inl (f.name text))
  let half := if time.hour < 12 then "AM" else "PM"
  match letter with
  | '%' => some (.inl (f.text ['%']))
  | 'n' => some (.inl (f.text ['\n']))
  | 't' => some (.inl (f.text ['\t']))
  | 'a' => name (short weekday)
  | 'A' => name weekday
  | 'b' => name (short month)
  | 'h' => name (short month)
  | 'B' => name month
  | 'c' => some (.inr "%a %b %e %H:%M:%S %Y")
  | 'C' => number 2 (date.year / 100)
  | 'd' => number 2 date.day
  | 'D' => some (.inr "%m/%d/%y")
  | 'e' => filled 2 date.day
  | 'F' => some (.inr "%Y-%m-%d")
  | 'g' => number 2 (weekYear % 100)
  | 'G' => number 4 weekYear
  | 'H' => number 2 time.hour
  | 'I' => number 2 hour
  | 'j' => number 3 (m.dayOfYear + 1)
  | 'k' => filled 2 time.hour
  | 'l' => filled 2 hour
  | 'm' => number 2 date.month
  | 'M' => number 2 time.minute
  | 'p' =>
    some (.inl (if f.swaps then f.text (half.toList.map Char.toLower) else f.text half.toList))
  | 'P' => some (.inl (f.text (half.toList.map Char.toLower)))
  | 'q' => number 1 ((date.month - 1) / 3 + 1 : Nat)
  | 'r' => some (.inr "%I:%M:%S %p")
  | 'R' => some (.inr "%H:%M")
  | 's' => number 1 m.seconds
  | 'S' => number 2 time.second
  | 'T' => some (.inr "%H:%M:%S")
  | 'u' => number 1 ((m.weekday + 6) % 7 + 1 : Nat)
  | 'U' => number 2 (m.weekFrom 0)
  | 'V' => number 2 week
  | 'w' => number 1 m.weekday
  | 'W' => number 2 (m.weekFrom 1)
  | 'x' => some (.inr "%m/%d/%y")
  | 'X' => some (.inr "%H:%M:%S")
  | 'y' => number 2 (date.year % 100)
  | 'Y' => number 4 date.year
  | 'z' =>
    some (.inl (f.text (match f.colons with
      | 0 => "+0000".toList
      | 1 => "+00:00".toList
      | 2 => "+00:00:00".toList
      | _ => "+00".toList)))
  | 'Z' => some (.inl (if f.swaps then f.text "utc".toList else f.text "UTC".toList))
  | _ => none

/-- The flags of a conversion, and the rest. -/
def readField : Field → Octets → Field × Octets
  | f, c :: rest =>
    if c == '-' || c == '_' || c == '0' || c == '+' then
      readField { f with pad := some (if c == '+' then '0' else c) } rest
    else if c == '^' then readField { f with upper := true } rest
    else if c == '#' then readField { f with swaps := true } rest
    else (f, c :: rest)
  | f, [] => (f, [])

/-- Writes a moment by a format. Where it is asked for, billionths of a second can be written. -/
def written (m : Moment) (billionths : Bool) : Nat → Octets → Octets
  | 0, _ => []
  | _, [] => []
  | fuel + 1, '%' :: rest =>
    let (f, after) := readField {} rest
    let digits := after.takeWhile Char.isDigit
    let after := after.drop digits.length
    let colons := (after.takeWhile (· == ':')).length
    let after := after.drop colons
    let modifier := (after.head?.filter fun c => c == 'E' || c == 'O').isSome
    let after := if modifier then after.drop 1 else after
    let f := { f with
      width := if digits.isEmpty then none else some (Text.digitsValue digits), colons }
    match after with
    | [] => '%' :: rest
    | letter :: after =>
      let source := '%' :: rest.take (rest.length - after.length)
      if letter == 'N' && billionths then
        let width := f.width.getD 9
        let all := (Calendar.padded 9 m.fraction).take width
        let short := (all.reverse.dropWhile (· == '0')).reverse
        let short := if short.isEmpty then all.take 1 else short
        let filled (c : Char) (cs : Octets) : Octets := cs ++ List.replicate (width - cs.length) c
        let shown := match f.pad with
          | some '_' => filled ' ' short
          | some '-' => if f.width.isSome then short else all
          | _ => filled '0' all
        shown ++ written m billionths fuel after
      else
        match m.converted? f letter with
        | none => source ++ written m billionths fuel after
        | some (.inl text) => text ++ written m billionths fuel after
        | some (.inr format) =>
          let text := written m billionths fuel format.toList
          f.text text ++ written m billionths fuel after
  | fuel + 1, c :: rest => c :: written m billionths fuel rest

/-- Writes a moment by a format, in which conversions may stand for formats. -/
def format (m : Moment) (text : Octets) (billionths : Bool := false) : Octets :=
  m.written billionths (text.length + 32) text

end Moment

end DocMend.Shell
