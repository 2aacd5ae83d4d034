import DocMend.Shell.Tool.Show
import DocMend.Shell.Tool.Version
import DocMend.Shell.Print.Decimal
/-!
Tools that sort lines, and tools for sorted lines.
-/

set_option autoImplicit false
set_option relaxedAutoImplicit false

namespace DocMend.Shell.Tool

/-- How the texts of a key are compared. -/
inductive Measure where
  | text
  | number
  | general
  | human
  | month
  | random
  | version
deriving DecidableEq, Repr

/-- How lines are ordered; some measures do not go together. -/
structure Manner where
  measures : List Measure := []
  reverse : Bool := false
  fold : Bool := false
  dictionary : Bool := false
  printable : Bool := false
  skipsStart : Bool := false
  skipsEnd : Bool := false
deriving DecidableEq, Repr

namespace Manner

/-- Whether nothing but the direction is asked for. -/
def isUsual (m : Manner) : Bool :=
  { m with reverse := false } == {}

/-- Adds a measure. -/
def adding (m : Manner) (measure : Measure) : Manner :=
  if m.measures.contains measure then m else { m with measures := measure :: m.measures }

/-- The measure that counts. -/
def measure (m : Manner) : Measure :=
  let order : List Measure := [.number, .general, .human, .month, .random, .version]
  (order.find? m.measures.contains).getD .text

/-- The letters of what is asked for where it does not go together. -/
def conflict? (m : Manner) : Option Octets :=
  let has (measure : Measure) : Bool := m.measures.contains measure
  let numeric := [Measure.number, .general, .human, .month].filter has
  let others := has .version || has .random || m.dictionary || m.printable
  if numeric.length + (if others then 1 else 0) ≤ 1 then none
  else
    let letters : List (Char × Bool) :=
      [('d', m.dictionary), ('f', m.fold), ('g', has .general), ('h', has .human),
       ('i', m.printable && !m.dictionary), ('M', has .month), ('n', has .number),
       ('R', has .random), ('V', has .version)]
    some ((letters.filter Prod.snd).map Prod.fst)

/-- Adds what a letter asks for; blanks are skipped at the beginning, the end or both. -/
def withLetter (atStart atEnd : Bool) (m : Manner) (c : Char) : Option Manner :=
  match c with
  | 'b' => some { m with skipsStart := m.skipsStart || atStart, skipsEnd := m.skipsEnd || atEnd }
  | 'd' => some { m with dictionary := true }
  | 'f' => some { m with fold := true }
  | 'g' => some (m.adding .general)
  | 'h' => some (m.adding .human)
  | 'i' => some { m with printable := true }
  | 'M' => some (m.adding .month)
  | 'n' => some (m.adding .number)
  | 'r' => some { m with reverse := true }
  | 'R' => some (m.adding .random)
  | 'V' => some (m.adding .version)
  | _ => none

/-- Reads letters as far as they say something. -/
def read (atStart atEnd : Bool) (m : Manner) : Octets → Manner × Octets
  | [] => (m, [])
  | c :: rest =>
    match m.withLetter atStart atEnd c with
    | some m => read atStart atEnd m rest
    | none => (m, c :: rest)

end Manner

/-- A key of lines: the field and the character at which it begins, those at which it ends, and how it
is compared. -/
structure SortKey where
  firstField : Nat := 0
  firstChar : Nat := 0
  lastField : Option Nat := none
  lastChar : Nat := 0
  manner : Manner := {}
deriving DecidableEq, Repr

namespace SortKey

/-- Skips fields at the beginning of a line. -/
def skipFields (separator : Option Char) : Nat → Octets → Octets
  | 0, cs => cs
  | n + 1, cs =>
    match separator with
    | some mark => skipFields separator n ((cs.dropWhile (· ≠ mark)).drop 1)
    | none =>
      let isGap (c : Char) : Bool := Octets.isBlank c || c == '\n'
      skipFields separator n ((cs.dropWhile isGap).dropWhile fun c => !isGap c)

/-- What is left of a line behind its first fields; the separator after the last of them stays. -/
def behindFields (separator : Option Char) (n : Nat) (cs : Octets) : Octets :=
  match separator, n with
  | some mark, n + 1 => (skipFields separator n cs).dropWhile (· ≠ mark)
  | _, n => skipFields separator n cs

/-- The part of a line that a key takes. -/
def part (key : SortKey) (separator : Option Char) (line : Octets) : Octets :=
  let isGap (c : Char) : Bool := Octets.isBlank c || c == '\n'
  let fromField := skipFields separator key.firstField line
  let start := if key.manner.skipsStart then fromField.dropWhile isGap else fromField
  let start := start.drop key.firstChar
  let after := match key.lastField with
    | none => []
    | some n =>
      if key.lastChar = 0 then behindFields separator (n + 1) line
      else
        let field := skipFields separator n line
        let field := if key.manner.skipsEnd then field.dropWhile isGap else field
        field.drop key.lastChar
  start.take (start.length - after.length)

/-- Reads a number that has to be there. -/
def count (cs : Octets) : Except String (Nat × Octets) :=
  match Octets.readDecimal cs with
  | some (n, rest) => .ok (n, rest)
  | none => .error ""

/-- Reads a key such as 2.3b,4n. A failure says what is wrong, or that a number is missing and where. -/
def read (text : Octets) : Except Octets SortKey :=
  let spec (fault : String) : Octets := fault.toList ++ ": invalid field specification ".toList ++ marked text
  let noNumber (fault : String) (rest : Octets) : Octets :=
    fault.toList ++ ": invalid count at start of ".toList ++ marked rest
  let number (fault : String) (rest : Octets) : Except Octets (Nat × Octets) :=
    match Octets.readDecimal rest with
    | some found => .ok found
    | none => .error (noNumber fault rest)
  do
  let (field, rest) ← number "invalid number at field start" text
  if field = 0 then throw (spec "field number is zero")
  let (char, rest) ← match rest with
    | '.' :: rest => number "invalid number after \x27.\x27" rest
    | rest => pure (1, rest)
  if char = 0 then throw (spec "character offset is zero")
  let (manner, rest) := ({} : Manner).read true false rest
  let key : SortKey := { firstField := field - 1, firstChar := char - 1, manner }
  match rest with
  | [] => return key
  | ',' :: rest =>
    let (last, rest) ← number "invalid number after \x27,\x27" rest
    if last = 0 then throw (spec "field number is zero")
    let (lastChar, rest) ← match rest with
      | '.' :: rest => number "invalid number after \x27.\x27" rest
      | rest => pure (0, rest)
    let (manner, rest) := manner.read false true rest
    if !rest.isEmpty then throw (spec "stray character in field spec")
    return { key with lastField := some (last - 1), lastChar, manner }
  | _ => throw (spec "stray character in field spec")

/-- The sign and the digits before and after the point of the number at the beginning of a text. -/
def digits (text : Octets) : Bool × Octets × Octets :=
  let cs := text.dropWhile fun c => Octets.isBlank c || c == '\n'
  let (negative, cs) := match cs with
    | '-' :: rest => (true, rest)
    | cs => (false, cs)
  let whole := cs.takeWhile Char.isDigit
  let fraction := match cs.drop whole.length with
    | '.' :: rest => rest.takeWhile Char.isDigit
    | _ => []
  (negative, whole.dropWhile (· == '0'), (fraction.reverse.dropWhile (· == '0')).reverse)

/-- Compares texts byte by byte. -/
def compareBytes (a b : Octets) : Ordering :=
  if a == b then .eq else if textBefore a b then .lt else .gt

/-- Compares texts by the numbers at their beginning. -/
def compareNumbers (a b : Octets) : Ordering :=
  let (m, x, u) := digits a
  let (n, y, v) := digits b
  let isZero (whole fraction : Octets) : Bool := whole.isEmpty && fraction.isEmpty
  let magnitude := (compare x.length y.length).then ((compareBytes x y).then (compareBytes u v))
  match m && !isZero x u, n && !isZero y v with
  | true, false => .lt
  | false, true => .gt
  | true, true => magnitude.swap
  | false, false => magnitude

/-- The rank of the unit that follows the number at the beginning of a text. -/
def unitRank (text : Octets) : Nat :=
  let cs := text.dropWhile fun c => Octets.isBlank c || c == '\n'
  let cs := if cs.head? = some '-' then cs.drop 1 else cs
  let rest := cs.dropWhile Char.isDigit
  let rest := match rest with
    | '.' :: more => more.dropWhile Char.isDigit
    | rest => rest
  match rest.head? with
  | some 'k' => 1
  | some c => (("KMGTPEZYRQ".toList.idxOf? c).map (· + 1)).getD 0
  | none => 0

/-- Compares texts by the numbers at their beginning and the units of these. -/
def compareHuman (a b : Octets) : Ordering :=
  let sign (text : Octets) : Int :=
    let (negative, whole, fraction) := digits text
    if whole.isEmpty && fraction.isEmpty then 0 else if negative then -1 else 1
  let rank (text : Octets) : Int := sign text * unitRank text
  (compare (sign a) (sign b)).then ((compare (rank a) (rank b)).then (compareNumbers a b))

/-- The number of the month whose short name a text begins with. -/
def monthOf (text : Octets) : Nat :=
  let name := ((text.dropWhile Octets.isBlank).take 3).map Char.toUpper
  let names := ["JAN", "FEB", "MAR", "APR", "MAY", "JUN", "JUL", "AUG", "SEP", "OCT", "NOV", "DEC"]
  ((names.idxOf? (String.ofList name)).map (· + 1)).getD 0

/-- Compares texts by the floating-point numbers at their beginning; texts without a number come
first. -/
def compareGeneral (a b : Octets) : Ordering :=
  let value (text : Octets) : Nat × Rat :=
    let cs := text.dropWhile Octets.isSpace
    let parsed := Decimal.parse cs
    if parsed.rest.length = cs.length then (0, 0)
    else
      match parsed.magnitude with
      | .undefined => (1, 0)
      | .infinite => (if parsed.negative then 2 else 4, 0)
      | .finite q => (3, if parsed.negative then -q else q)
  let (m, x) := value a
  let (n, y) := value b
  (compare m n).then (if x < y then .lt else if y < x then .gt else .eq)

/-- Compares the texts of a key. -/
def compareTexts (manner : Manner) (a b : Octets) : Ordering :=
  let seen (cs : Octets) : Octets :=
    let cs := if manner.dictionary then cs.filter fun c => c.isAlphanum || Octets.isBlank c else cs
    let cs := if manner.printable then cs.filter fun c => ' ' ≤ c && c ≤ '~' else cs
    if manner.fold then cs.map Char.toUpper else cs
  match manner.measure with
  | .number => compareNumbers a b
  | .general => compareGeneral a b
  | .human => compareHuman a b
  | .month => compare (monthOf a) (monthOf b)
  | .version => Version.compareTexts (seen a) (seen b)
  | .random => compareBytes (seen a) (seen b)
  | .text => compareBytes (seen a) (seen b)

/-- Compares two lines by a key. -/
def compare (key : SortKey) (separator : Option Char) (first second : Octets) : Ordering :=
  let order := compareTexts key.manner (key.part separator first) (key.part separator second)
  if key.manner.reverse then order.swap else order

end SortKey

/-- The options of the tool that sorts. -/
def sortOptions : Options where
  letters := "bcCdfghik:mMno:rRsS:t:T:uVy:z"
  names := ["ignore-leading-blanks=b", "check::", "dictionary-order=d", "ignore-case=f",
    "general-numeric-sort=g", "human-numeric-sort=h", "ignore-nonprinting=i", "key=k", "merge=m",
    "month-sort=M", "numeric-sort=n", "output=o", "random-sort=R", "reverse=r", "stable=s",
    "buffer-size=S", "field-separator=t", "unique=u", "version-sort=V", "zero-terminated=z", "sort:",
    "files0-from:", "batch-size:", "compress-program:", "debug", "parallel:", "random-source:",
    "temporary-directory=T"]

/-- An order of lines: the keys, the separator of fields, and what decides in the end. -/
structure LineOrder where
  keys : List SortKey
  separator : Option Char
  /-- Whether lines with equal keys stay in their order. -/
  stable : Bool
  reverse : Bool

namespace LineOrder

/-- Compares lines by the keys. -/
def byKeys (o : LineOrder) (a b : Octets) : Ordering :=
  o.keys.foldl (fun order key =>
    match order with
    | .eq => key.compare o.separator a b
    | order => order) .eq

/-- Compares lines. -/
def compare (o : LineOrder) (a b : Octets) : Ordering :=
  match o.byKeys a b with
  | .eq =>
    if o.stable && !o.keys.isEmpty then .eq
    else
      let order := SortKey.compareBytes a b
      if o.reverse then order.swap else order
  | order => order

/-- Lines in order. -/
def sorted (o : LineOrder) (lines : List Octets) : List Octets :=
  lines.mergeSort fun a b => o.compare a b != .gt

/-- The smallest head of several lists, and what is left of these; of equal heads the first one counts. -/
def smallest? (o : LineOrder) : List (List Octets) → Option (Octets × List (List Octets))
  | [] => none
  | [] :: lists => smallest? o lists
  | (line :: lines) :: lists =>
    match smallest? o lists with
    | none => some (line, [lines])
    | some (other, rest) =>
      if o.compare other line == .lt then some (other, (line :: lines) :: rest)
      else some (line, lines :: lists)

/-- Merges lists of lines, by their heads. -/
def merged (o : LineOrder) : Nat → List (List Octets) → List Octets
  | 0, _ => []
  | fuel + 1, lists =>
    match o.smallest? lists with
    | none => []
    | some (line, rest) => line :: merged o fuel rest

/-- Lines of which only the first one of several equal neighbours is kept. -/
def withoutRepeats (o : LineOrder) (lines : List Octets) : List Octets :=
  (lines.foldl (fun kept line =>
    match kept with
    | last :: _ => if o.compare last line == .eq then kept else line :: kept
    | [] => [line]) []).reverse

/-- The first line that is out of order, with its number counted from one. -/
def firstWrong? (o : LineOrder) (strict : Bool) : Nat → List Octets → Option (Nat × Octets)
  | n, a :: b :: rest =>
    match o.compare a b with
    | .gt => some (n + 1, b)
    | .eq => if strict then some (n + 1, b) else firstWrong? o strict (n + 1) (b :: rest)
    | .lt => firstWrong? o strict (n + 1) (b :: rest)
  | _, _ => none

end LineOrder

/-- The order that options ask for. -/
def orderOf (given : List Given) : Run LineOrder := do
  let fail {α : Type} (text : Octets) : Run α := abandon "sort" 2 text
  let words : List (String × Char) :=
    [("general-numeric", 'g'), ("human-numeric", 'h'), ("month", 'M'), ("numeric", 'n'),
     ("random", 'R'), ("version", 'V')]
  let letters := given.filterMap fun g =>
    if g.key == "sort" then words.lookup (Octets.name (g.argument.getD []))
    else match g.key.toList with
      | [c] => some c
      | _ => none
  let plain := letters.foldl (fun (m : Manner) c => (m.withLetter true true c).getD m) {}
  let keys ← (valuesOf given "k").mapM fun text =>
    match SortKey.read text with
    | .ok key => pure key
    | .error fault => fail fault
  let keys := keys.map fun key =>
    if key.manner == {} then { key with manner := plain } else key
  let keys := if keys.isEmpty && !plain.isUsual then [({ manner := plain } : SortKey)] else keys
  match keys.findSome? fun key => key.manner.conflict? with
  | some letters => fail ("options " ++ marked ('-' :: letters) ++ " are incompatible")
  | none => pure ()
  let separator ← match valueOf? given "t" with
    | none => pure none
    | some [c] => pure (some c)
    | some ['\\', '0'] => pure (some '\x00')
    | some [] => fail "empty tab"
    | some text => fail ("multi-character tab " ++ marked text)
  return { keys, separator, stable := has given "s" || has given "u", reverse := plain.reverse }

/-- The lines of several files. -/
def linesOf (tool : String) (status : Nat) (finish : Char) (names : List Octets) :
    Run (List (List Octets)) := do
  let mut lines : List (List Octets) := []
  for name in if names.isEmpty then [['-']] else names do
    match ← readSource name with
    | .ok text =>
      lines := ((countedParts false finish text).map fun line =>
        if line.getLast? == some finish then line.dropLast else line) :: lines
    | .error .isFolder =>
      abandon tool.toList status ("read failed: " ++ shownName name ++ ": " ++ reason .isFolder)
    | .error refusal =>
      abandon tool.toList status ("cannot read: " ++ shownName name ++ ": " ++ reason refusal)
  return lines.reverse

/-- Sorts lines. -/
def sort : Tool := fun arguments => do
  let (given, names) ← options "sort" 2 sortOptions arguments
  let isQuiet (g : Given) : Bool :=
    g.key == "C" || g.key == "check" &&
      (g.argument == some "quiet".toList || g.argument == some "silent".toList)
  let checks := given.filter fun g => g.key == "c" || g.key == "C" || g.key == "check"
  let quiet := checks.any isQuiet
  if quiet && checks.any fun g => !isQuiet g then
    abandon "sort" 2 ("options " ++ marked "-cC" ++ " are incompatible")
  let order ← orderOf given
  let finish := finishOf given
  if !checks.isEmpty then
    match names with
    | _ :: extra :: _ => refuse "sort" 2 ("extra operand " ++ quotedName extra ++ " not allowed with -c")
    | names =>
      if has given "o" then
        abandon "sort" 2 ("options " ++ marked (if quiet then "-Co" else "-co") ++ " are incompatible")
      let lines ← linesOf "sort" 2 finish names
      match order.firstWrong? (has given "u") 1 lines.flatten with
      | some (n, line) =>
        if !quiet then
          complain "sort" (names.headD ['-'] ++ ":" ++ Octets.ofNat n ++ ": disorder: " ++ line)
        return 1
      | none => return 0
  let lines ← linesOf "sort" 2 finish names
  let all := lines.flatten
  let sorted := if has given "m" then order.merged (all.length + 1) lines else order.sorted all
  let sorted := if has given "u" then order.withoutRepeats sorted else sorted
  let text := sorted.flatMap fun line => line ++ [finish]
  match valueOf? given "o" with
  | some name =>
    match ← Run.openName name { writes := true, creates := true, empties := true } with
    | .ok index =>
      match (← Run.machine).write index text with
      | .ok m => Run.modifyMachine fun _ => m
      | .error _ => pure ()
    | .error refusal => abandon "sort" 2 ("open failed: " ++ shownName name ++ ": " ++ reason refusal)
  | none => Run.print text
  return 0

/-- The options of the tool that joins equal lines. -/
def uniqOptions : Options where
  letters := "cdDf:is:uw:z"
  names := ["count=c", "repeated=d", "all-repeated::", "group::", "ignore-case=i", "unique=u",
    "skip-fields=f", "skip-chars=s", "check-chars=w", "zero-terminated=z"]

/-- Lines in groups of equal neighbours. -/
def groupedBy (key : Octets → Octets) (lines : List Octets) : List (List Octets) :=
  let groups := lines.foldl (fun (groups : List (List Octets)) line =>
    match groups with
    | (last :: more) :: rest =>
      if key last == key line then (line :: last :: more) :: rest else [line] :: groups
    | _ => [line] :: groups) []
  (groups.map List.reverse).reverse

/-- Joins equal lines that follow one another. -/
def uniq : Tool := fun arguments => do
  let old (word : Octets) : List Octets := match word with
    | '-' :: c :: rest => if Text.isDigits (c :: rest) then [['-', 'f'], c :: rest] else [word]
    | '+' :: c :: rest => if Text.isDigits (c :: rest) then [['-', 's'], c :: rest] else [word]
    | word => [word]
  let (given, names) ← options "uniq" 1 uniqOptions (arguments.flatMap old)
  match names with
  | _ :: _ :: extra :: _ => refuse "uniq" 1 ("extra operand " ++ quotedName extra)
  | _ => pure ()
  let number (key : String) (fault : Octets) : Run (Option Nat) := do
    match valueOf? given key with
    | none => return none
    | some text =>
      match scaled? text with
      | some n => return some n
      | none => abandon "uniq" 1 (text ++ ": " ++ fault)
  let fields ← number "f" "invalid number of fields to skip"
  let skipped ← number "s" "invalid number of bytes to skip"
  let compared ← number "w" "invalid number of bytes to compare"
  let finish := finishOf given
  let name := names.head?.getD ['-']
  let text ← match ← readSource name with
    | .error .isFolder => abandon "uniq" 1 ("error reading " ++ quotedName name)
    | .error refusal => abandon "uniq" 1 (shownName name ++ ": " ++ reason refusal)
    | .ok text => pure text
  let key (line : Octets) : Octets :=
    let rest := (SortKey.skipFields none (fields.getD 0) line).drop (skipped.getD 0)
    let rest := match compared with
      | some n => rest.take n
      | none => rest
    if has given "i" then rest.map Char.toLower else rest
  let lines := (countedParts false finish text).map fun line =>
    if line.getLast? == some finish then line.dropLast else line
  let groups := groupedBy key lines
  let showsAll := has given "D" || has given "all-repeated"
  let method : Octets := ((valueOf? given "all-repeated").orElse fun _ => valueOf? given "group").getD
    (if has given "group" then "separate" else "none")
  let ended (line : Octets) : Octets := line ++ [finish]
  let output :=
    if has given "group" || showsAll then
      let shown := groups.filter fun group => has given "group" || 1 < group.length
      let texts := shown.map fun group => group.flatMap ended
      let gap := [finish]
      if method == "none".toList then texts.flatten
      else if method == "prepend".toList then texts.flatMap fun text => gap ++ text
      else if method == "append".toList then texts.flatMap fun text => text ++ gap
      else if method == "both".toList then
        (if texts.isEmpty then [] else gap) ++ texts.flatMap fun text => text ++ gap
      else Text.joined gap texts
    else
      groups.flatMap fun group =>
        let n := group.length
        let wanted := (!has given "d" || 1 < n) && (!has given "u" || n = 1)
        if wanted then
          (if has given "c" then toRight 7 (Octets.ofNat n) ++ [' '] else []) ++
            ended (group.headD [])
        else []
  match names with
  | _ :: target :: _ =>
    if target == ['-'] then Run.print output
    else
      match ← Run.openName target { writes := true, creates := true, empties := true } with
      | .ok index =>
        match (← Run.machine).write index output with
        | .ok m => Run.modifyMachine fun _ => m
        | .error _ => pure ()
      | .error refusal => abandon "uniq" 1 (shownName target ++ ": " ++ reason refusal)
  | _ => Run.print output
  return 0

/-- The lines of a file that is one of exactly two. -/
def pairedLines (tool : String) (finish : Char) (name : Octets) : Run (List Octets) := do
  match ← readSource name with
  | .ok text =>
    return (countedParts false finish text).map fun line =>
      if line.getLast? == some finish then line.dropLast else line
  | .error refusal => abandon tool.toList 1 (shownName name ++ ": " ++ reason refusal)

/-- The two operands that a tool needs. -/
def twoOperands (tool : String) (status : Nat) (names : List Octets) : Run (Octets × Octets) := do
  match names with
  | [] => refuse tool.toList status "missing operand"
  | [name] => refuse tool.toList status ("missing operand after " ++ quotedName name)
  | [first, second] => return (first, second)
  | _ :: _ :: extra :: _ => refuse tool.toList status ("extra operand " ++ quotedName extra)

/-- Which of two sorted files has a line: the first one, the second one, or both. -/
inductive Side where
  | first
  | second
  | both
deriving DecidableEq, Repr

/-- The lines of two sorted files and where they are, with the numbers of the files whose next line
is out of order. -/
def sides : Nat → List Octets → List Octets → List (Side × Octets × List Nat)
  | 0, _, _ => []
  | fuel + 1, as, bs =>
    let falls (list : List Octets) : Bool := match list with
      | a :: b :: _ => SortKey.compareBytes a b == .gt
      | _ => false
    let first := if falls as then [1] else []
    let second := if falls bs then [2] else []
    match as, bs with
    | [], [] => []
    | [], b :: bs => (.second, b, second) :: sides fuel [] bs
    | a :: as, [] => (.first, a, first) :: sides fuel as []
    | a :: as, b :: bs =>
      match SortKey.compareBytes a b with
      | .eq => (.both, a, first ++ second) :: sides fuel as bs
      | .lt => (.first, a, first) :: sides fuel as (b :: bs)
      | .gt => (.second, b, second) :: sides fuel (a :: as) bs

/-- The options of the tool that compares sorted files. -/
def commOptions : Options where
  letters := "123z"
  names := ["check-order", "nocheck-order", "output-delimiter:", "total", "zero-terminated=z"]

/-- Compares sorted files line by line. -/
def comm : Tool := fun arguments => do
  let (given, names) ← options "comm" 1 commOptions arguments
  let (first, second) ← twoOperands "comm" 1 names
  let finish := finishOf given
  let left ← pairedLines "comm" finish first
  let right ← pairedLines "comm" finish second
  let separator := (valueOf? given "output-delimiter").getD ['\t']
  let rows := sides (left.length + right.length + 1) left right
  let before (side : Side) : Octets := match side with
    | .first => []
    | .second => if has given "1" then [] else separator
    | .both => (if has given "1" then [] else separator) ++ (if has given "2" then [] else separator)
  let hidden (side : Side) : Bool := match side with
    | .first => has given "1"
    | .second => has given "2"
    | .both => has given "3"
  let strict := has given "check-order"
  let mut unpaired := strict
  let mut failed : List Nat := []
  for (side, line, wrong) in rows do
    if !hidden side then Run.print (before side ++ line ++ [finish])
    if side != .both then unpaired := true
    if unpaired && !has given "nocheck-order" then
      for file in wrong do
        if !failed.contains file then
          complain "comm" ("file " ++ Octets.ofNat file ++ " is not in sorted order")
          failed := file :: failed
          if strict then return 1
  if has given "total" then
    let count (side : Side) : Octets := Octets.ofNat (rows.countP fun row => row.1 == side)
    Run.print (Text.joined separator [count .first, count .second, count .both, "total".toList] ++
      [finish])
  if !failed.isEmpty then
    complain "comm" "input is not in sorted order"
    return 1
  return 0

end DocMend.Shell.Tool
