import DocMend.Shell.Builtin.Declaration
/-!
Builtins that read lines into variables, and options out of parameters.
-/

set_option autoImplicit false
set_option relaxedAutoImplicit false

namespace DocMend.Shell

namespace Builtin

/-- The state of reading a line: the segments before, and the characters since the last one that
was escaped, all in reverse order. -/
structure LineReading where
  segments : List Segment := []
  current : Octets := []
  count : Nat := 0

namespace LineReading

/-- Ends the text that is cut at separators. -/
def cut (l : LineReading) : LineReading :=
  { l with
    segments := .fields (l.current.reverse.map fun c => (c, true)) :: l.segments, current := [] }

/-- Reads up to the end of a line. A backslash takes the meaning off the character after it, and joins
two lines; a raw reading knows no backslashes. The result says whether the end of the line was
found. -/
def read (raw : Bool) (ending : Char) : Octets → LineReading → LineReading × Bool
  | [], l => (l.cut, false)
  | c :: rest, l =>
    let l := { l with count := l.count + 1 }
    if c = '\x00' && ending ≠ c then read raw ending rest l
    else if c = '\\' && !raw then
      match rest with
      | [] => (l.cut, false)
      | d :: rest =>
        let l := { l with count := l.count + 1 }
        if d = '\n' then read raw ending rest l
        else
          let l := l.cut
          read raw ending rest { l with segments := .fixed [(d, true)] :: l.segments }
    else if c = ending then (l.cut, true)
    else read raw ending rest { l with current := c :: l.current }

end LineReading

/-- Assigns fields to variables; variables without a field become empty. -/
def assignFields : List Octets → List Octets → Run Unit
  | [], _ => return
  | name :: names, fields => do
    Run.assign name (fields.head?.getD [])
    assignFields names fields.tail

/-- The descriptor that an option names: the standard input where there is none. -/
def descriptorOf (flags : List Flag) : Run (Option Nat) := do
  match argument? flags 'u' with
  | none => return some 0
  | some text =>
    if !Text.isDigits text then
      Run.warn (text ++ ": invalid file descriptor specification")
      return none
    let n := Text.digitsValue text
    if (← Run.channel? n).isSome then return some n
    Run.warn (text ++ ": invalid file descriptor: " ++ Refusal.badDescriptor.text)
    return none

/-- Whether a text names what can take a text: a variable, or an element in the extended language. -/
def takesText (name : Octets) : Bool :=
  Octets.isName (splitElement name).1

/-- Reads a line into a variable as a whole: whether its end was found. -/
def readWhole (descriptor : Nat) (name : Octets) : Run Bool := do
  let text ← match ← Run.available descriptor with
    | .ok text => pure text
    | .error _ => pure []
  let (l, found) := LineReading.read false '\n' text {}
  Run.consume descriptor l.count
  Run.assign name ((textOf l.segments.reverse).map Prod.fst)
  return found

/-- Puts fields of what was read into variables. -/
def takeFields (names : List Octets) (segments : List Segment) : Run Unit := do
  let separators := (← Run.self).separators
  let fields := (fieldsOf separators (some names.length) segments).map fun field =>
    field.map Prod.fst
  assignFields names fields

/-- The number of characters that an option asks for, if it is one. -/
def limitOf (flags : List Flag) : Run (Option (Option Nat)) := do
  match (argument? flags 'n').orElse fun _ => argument? flags 'N' with
  | none => return some none
  | some text =>
    match Octets.decimal? text with
    | some n => if 0 ≤ n then return some (some n.toNat)
    | none => pure ()
    Run.warn (text ++ ": invalid number")
    return none

/-- Whether a text is a span of time in seconds. -/
def isTime (text : Octets) : Bool :=
  let whole := text.takeWhile Char.isDigit
  match text.drop whole.length with
  | [] => !whole.isEmpty
  | '.' :: rest => rest.all Char.isDigit
  | _ => false

/-- The builtin of the extended language that reads a line, or as many characters as it is asked for. -/
def readExtended (flags : List Flag) (names : List Octets) : Run Nat := do
  for name in names.take 1 do
    if !takesText name then
      Run.warn (inMarks name ++ ": not a valid identifier")
      return 1
  let some descriptor ← descriptorOf flags | return 1
  let some limit ← limitOf flags | return 1
  match argument? flags 't' with
  | some time =>
    if !isTime time then
      Run.warn (time ++ ": invalid timeout specification")
      return 1
    if time == ['0'] then return 0
  | none => pure ()
  if limit = some 0 then
    for name in names do
      Run.assign name []
    return 0
  let ending := match argument? flags 'd' with
    | some text => text.head?.getD '\x00'
    | none => '\n'
  let available ← match ← Run.available descriptor with
    | .ok text => pure text
    | .error _ => pure []
  let isExact := given flags 'N'
  let text := match limit with
    | some n => available.take n
    | none => available
  if isExact then
    Run.consume descriptor text.length
    let name := names.headD "REPLY"
    Run.assign name (text.filter (· ≠ '\x00'))
    for other in names.drop 1 do
      Run.assign other []
    return if some text.length = limit then 0 else 1
  let (l, found) := LineReading.read (given flags 'r') ending text {}
  Run.consume descriptor l.count
  let segments := l.segments.reverse
  match argument? flags 'a', names with
  | some name, _ =>
    let fields := (fieldsOf (← Run.self).separators none segments).map fun field =>
      field.map Prod.fst
    Run.setElements ((← Run.self).referent name) fields
  | none, [] => Run.assign "REPLY" ((textOf segments).map Prod.fst)
  | none, names =>
    for name in names do
      if !takesText name then Run.fail (inMarks name ++ ": not a valid identifier")
    takeFields names segments
  return if found || some text.length = limit then 0 else 1

/-- The builtin that reads a line into variables. -/
def readLine : Builtin := fun e arguments => do
  if ← Run.isExtended then
    let (flags, names) ← flags "ersa:d:i:n:N:p:t:u:" arguments
    return ← readExtended flags (← names.mapM (Expansion.indexed e))
  let (flags, names) ← flags "p:r" arguments
  if names.isEmpty then Run.fail "arg count"
  let text ← match ← Run.available 0 with
    | .ok text => pure text
    | .error _ => pure []
  let (l, found) := LineReading.read (given flags 'r') '\n' text {}
  Run.consume 0 l.count
  takeFields names l.segments.reverse
  return if found then 0 else 1

/-- Cuts a text into lines with their ends, at most so many. -/
def linesOf (ending : Char) : Nat → Octets → List Octets
  | 0, _ => []
  | _, [] => []
  | n + 1, text =>
    let line := text.takeWhile (· ≠ ending)
    match text.drop line.length with
    | [] => [line]
    | _ :: rest => (line ++ [ending]) :: linesOf ending n rest

/-- A number that an option gives and that is not negative, or a complaint. -/
def countOf (flags : List Flag) (letter : Char) (standard : Nat) (what : String) :
    Run (Option Nat) := do
  match argument? flags letter with
  | none => return some standard
  | some text =>
    match Octets.decimal? text with
    | some n => if 0 ≤ n then return some n.toNat
    | none => pure ()
    Run.warn (text ++ ": invalid " ++ what)
    return none

/-- Puts lines into an array from a number on. A command is run for every so many of them, before the
line is there, with the number and the line. -/
def takeLines (e : Engine) (name : Octets) (trims : Char → Bool) (action : Option (Octets × Nat)) :
    (count index : Nat) → List Octets → Run Unit
  | _, _, [] => return
  | count, index, line :: rest => do
    let text := if line.getLast?.any trims then line.dropLast else line
    let text := text.filter (· ≠ '\x00')
    match action with
    | some (command, quantum) =>
      if count % quantum = 0 then
        e.script {
          text := command ++ [' '] ++ Octets.ofNat index ++ [' '] ++ Quoting.single text }
    | none => pure ()
    Run.assignTo { name, key := some (.number index) } text
    takeLines e name trims action (count + 1) (index + 1) rest

/-- The builtin of the extended language that reads lines into an array. -/
def readLines : Builtin := fun e arguments => do
  let (flags, names) ← flags "d:n:O:s:tu:C:c:" arguments
  let some descriptor ← descriptorOf flags | return 1
  let some count ← countOf flags 'n' 0 "line count" | return 1
  let some origin ← countOf flags 'O' 0 "array origin" | return 1
  let some skipped ← countOf flags 's' 0 "line count" | return 1
  let some quantum ← countOf flags 'c' 5000 "callback quantum" | return 1
  if quantum = 0 then
    Run.warn "0: invalid callback quantum"
    return 1
  let name := names.headD "MAPFILE"
  if !Octets.isName name then
    Run.warn (inMarks name ++ ": not a valid identifier")
    return 1
  let name := (← Run.self).referent name
  let old := (getKey (← Run.self).vars name).getD {}
  if old.content.isTable then
    Run.warn (name ++ ": not an indexed array")
    return 1
  if old.fixed then
    Run.warnFixed name
    return 1
  let ending := match argument? flags 'd' with
    | some text => text.head?.getD '\x00'
    | none => '\n'
  let text ← match ← Run.available descriptor with
    | .ok text => pure text
    | .error _ => pure []
  let most := if count = 0 then text.length + 1 else skipped + count
  let lines := linesOf ending most text
  Run.consume descriptor (lines.flatten.length)
  if given flags 'O' then
    Run.putVariable name { old with content := .list old.content.numbered, isBare := false }
  else Run.setElements name []
  let action := (argument? flags 'C').map fun command => (command, quantum)
  let trims (c : Char) : Bool := given flags 't' && c == ending
  takeLines e name trims action 1 origin (lines.drop skipped)
  return 0

/-- The result of looking for the next option: its letter, what is known of its argument, and the
position after it. -/
structure OptionFound where
  letter : Char
  argument : Option Octets := none
  complaint : Option Octets := none
  index : Nat
  offset : Nat := 0
  isOver : Bool := false

/-- Looks for the next option among arguments. -/
def nextOption (extended : Bool) (letters : Octets) (arguments : List Octets) (index offset : Nat) :
    OptionFound :=
  let silent := letters.head? = some ':'
  let word (n : Nat) : Option Octets := if n = 0 then none else arguments[n - 1]?
  let open? : Octets := if offset = 0 then [] else ((word (index - 1)).getD []).drop offset
  let start : Option (Octets × Nat) × Nat := match open? with
    | c :: rest => (some (c :: rest, index), index)
    | [] =>
      match word index with
      | some ['-', '-'] => (none, index + 1)
      | some ('-' :: c :: rest) => (some (c :: rest, index + 1), index)
      | _ => (none, index)
  match start with
  | (none, index) => { letter := '?', index, isOver := true }
  | (some ([], index), _) => { letter := '?', index, isOver := true }
  | (some (c :: rest, index), _) =>
    let here := ((word (index - 1)).getD []).length - rest.length
    let offset := if rest.isEmpty then 0 else here
    match takesArgument? letters c with
    | none =>
      if silent then { letter := '?', argument := some [c], index, offset }
      else
        let text : Octets := if extended then "illegal option -- ".toList ++ [c]
          else "Illegal option -".toList ++ [c]
        { letter := '?', complaint := some text, index, offset }
    | some false => { letter := c, argument := if extended then none else some [], index, offset }
    | some true =>
      match rest, word index with
      | [], none =>
        if silent then { letter := ':', argument := some [c], index, offset }
        else
          let text : Octets := if extended then "option requires an argument -- ".toList ++ [c]
            else "No arg for -".toList ++ [c] ++ " option".toList
          { letter := '?', complaint := some text, index, offset }
      | [], some value => { letter := c, argument := some value, index := index + 1 }
      | value, _ => { letter := c, argument := some value, index }

/-- The builtin that reads options out of parameters one by one. -/
def getOptions : Builtin := fun _ arguments => do
  let extended ← Run.isExtended
  let s ← Run.self
  match (if arguments.head? = some ['-', '-'] then arguments.tail else arguments) with
  | letters :: name :: rest =>
    let words := if rest.isEmpty then s.parameters else rest
    let (index, offset) := if words.length + 1 < s.optionIndex then (1, 0)
      else (max 1 s.optionIndex, s.optionOffset)
    let found := nextOption extended letters words index offset
    match found.complaint with
    | some text => Run.note (if extended then s.name ++ ": " ++ text else text)
    | none => pure ()
    match found.argument with
    | some value => Run.assign "OPTARG" value
    | none => if !found.isOver then Run.unset "OPTARG"
    let shown := if extended && 0 < found.offset then found.index - 1 else found.index
    Run.assign "OPTIND" (Octets.ofNat shown)
    Run.modifySelf fun s => { s with optionIndex := found.index, optionOffset := found.offset }
    if extended && (getKey s.vars name).any fun v => v.fixed then
      Run.warnFixed name
      return 2
    Run.assign name [found.letter]
    return if found.isOver then 1 else 0
  | _ =>
    if extended then usage
    Run.fail "Usage: getopts optstring var [arg...]"

/-- The builtin of the extended language that evaluates expressions: it fails where the last one is
zero. -/
def evaluate : Builtin := fun _ arguments => do
  if arguments.isEmpty then
    Run.warn "expression expected"
    return 1
  try
    let mut last : Int := 0
    for expression in arguments do
      last ← Run.compute expression
    return if last = 0 then 1 else 0
  catch r =>
    match r with
    | .abandoned => return 1
    | r => throw r

end Builtin

end DocMend.Shell
