import DocMend.Shell.Edit.Reading
import DocMend.Shell.Tool.Show
/-!
Carrying out of scripts. For each line of the input the instructions are gone through; what is left of
the line is printed at the end, unless that is only done on demand. A second line is kept apart, and
texts can be put off until the line is over.
-/

set_option autoImplicit false
set_option relaxedAutoImplicit false

namespace DocMend.Shell.Edit

/-- Whether a range of lines has begun, and how it ends. -/
inductive Span where
  | idle
  | active (stop : Option Nat)
  | past
deriving DecidableEq, Repr

/-- What is printed when a line is over. -/
inductive Delayed where
  | text (cs : Octets)
  | file (name : Octets)
  | line (cs : Option (Octets × Bool))
deriving DecidableEq, Repr

/-- How the input is treated. -/
structure Manner where
  quiet : Bool := false
  separate : Bool := false
  /-- Whether files are replaced, and the ending of the names under which the old ones are kept. -/
  inPlace : Option Octets := none
  finish : Char := '\n'
  width : Nat := 70
  texts : Nat := 1

/-- Where the editing stands. -/
structure State where
  space : Octets := []
  /-- Whether the line has an end. -/
  ended : Bool := true
  kept : Octets := []
  number : Nat := 0
  delayed : List Delayed := []
  replaced : Bool := false
  spans : Array Span := #[]
  last : Option Finder := none
  file : Octets := ['-']
  lines : List (Octets × Bool) := []
  /-- The file that was opened to see whether there is another line. -/
  ahead : Option (Octets × List (Octets × Bool)) := none
  files : List Octets := []
  /-- The text of the file that is being replaced, the latest first. -/
  replacing : Option (List Octets) := none
  /-- Whether the output lacks the end of its last line. -/
  open_ : Bool := false
  /-- The files that are written: their channels, and whether they lack the end of their last line. -/
  targets : List (Octets × Nat × Bool) := []
  /-- The files of which lines are read one by one. -/
  readers : List (Octets × List (Octets × Bool)) := []
  status : Nat := 0

/-- Computations that edit. -/
abbrev Editing := StateT State Run

/-- Why the editing of a line stops. -/
inductive Ending where
  /-- The line is printed, and the next one is read. -/
  | done
  /-- The next line is read. -/
  | dropped
  /-- The instructions are gone through again. -/
  | again
  /-- Nothing more is read. -/
  | quit (prints : Bool) (status : Nat)
deriving DecidableEq, Repr

namespace State

/-- The lines of a text, and whether they have ends. -/
def linesOf (finish : Char) (text : Octets) : List (Octets × Bool) :=
  (Tool.countedParts false finish text).map fun part =>
    if part.getLast? = some finish then (part.dropLast, true) else (part, false)

end State

namespace Editing

/-- Writes to the output, or to the file that is replaced. -/
def put (manner : Manner) (text : Octets) (ended : Bool) : Editing Unit := do
  let s ← get
  let first : Octets := if s.open_ then [manner.finish] else []
  let all := first ++ text
  set { s with open_ := !ended }
  match s.replacing with
  | some list => modify fun s => { s with replacing := some (all :: list) }
  | none => Run.print all

/-- Writes a line to a target. -/
def putTo (manner : Manner) (target : Target) (text : Octets) (ended : Bool) : Editing Unit := do
  let line := if ended then text ++ [manner.finish] else text
  match target with
  | .output =>
    let s ← get
    if s.replacing.isSome then Run.print line else put manner line ended
  | .error =>
    let _ ← Run.write 2 line
  | .file name =>
    let s ← get
    match s.targets.find? fun t => t.1 == name with
    | none => return
    | some (_, index, isOpen) =>
      let all := (if isOpen then [manner.finish] else []) ++ line
      match (← Run.machine).write index all with
      | .ok changed => Run.modifyMachine fun _ => changed
      | .error _ => pure ()
      set { s with
        targets := s.targets.map fun (t : Octets × Nat × Bool) =>
          if t.1 == name then (name, index, !ended) else t }

/-- Prints the line. -/
def printSpace (manner : Manner) (text : Octets) : Editing Unit := do
  let s ← get
  put manner (if s.ended then text ++ [manner.finish] else text) s.ended

/-- Prints what was put off until the line is over. -/
def flush (manner : Manner) : Editing Unit := do
  let list := (← get).delayed.reverse
  modify fun s => { s with delayed := [] }
  for item in list do
    match item with
    | .text cs => put manner cs true
    | .line none => pure ()
    | .line (some (cs, _)) => put manner (cs ++ [manner.finish]) true
    | .file name =>
      let text ← if name == "/dev/stdin".toList then Run.readAll 0 else Run.readFile name
      match text with
      | .ok text => if !text.isEmpty then put manner text true
      | .error _ => pure ()

/-- The bytes of an input file; complaints name it. -/
def openInput (manner : Manner) (name : Octets) : Editing (Option Octets) := do
  let fail (text : Octets) (status : Nat) : Editing (Option Octets) := do
    Tool.complain "sed" text
    modify fun s => { s with status := max s.status status }
    return none
  if name == ['-'] && manner.inPlace.isNone then
    match ← Run.readAll 0 with
    | .ok text => return some text
    | .error .isFolder => fail ("read error on stdin: " ++ Refusal.isFolder.text) 4
    | .error refusal => fail ("read error on stdin: " ++ refusal.text) 4
  else
    match ← Tool.readSource (if name == ['-'] then "./-".toList else name) with
    | .ok text => return some text
    | .error .isFolder =>
      if manner.inPlace.isSome then
        fail ("couldn\x27t edit " ++ name ++ ": not a regular file") 4
      else fail ("read error on " ++ name ++ ": " ++ Refusal.isFolder.text) 4
    | .error refusal => fail ("can\x27t read " ++ name ++ ": " ++ refusal.text) 2

/-- Puts the new text of a file in the place of the old one. -/
def closeFile (manner : Manner) : Editing Unit := do
  let s ← get
  match manner.inPlace, s.replacing with
  | some ending, some list =>
    set { s with replacing := none, open_ := false }
    match ← Run.locate s.file with
    | .error _ => return
    | .ok path =>
      if !ending.isEmpty then
        let base := Octets.ofText path.baseName
        let name := if ending.contains '*' then
            ending.flatMap fun c => if c == '*' then base else [c]
          else base ++ ending
        let folder := Octets.ofText (Path.text path.dropLast)
        match ← Run.locate (folder ++ ['/'] ++ name) with
        | .ok other =>
          Run.modifyMachine fun m =>
            let m := if m.isPresent other then m
              else { m with disk := { m.disk with files := setAt m.disk.files other [] } }
            m.replace other (m.contents path)
        | .error refusal => Tool.abandon "sed" 4 ("cannot rename " ++ s.file ++ ": " ++ refusal.text)
      Run.modifyMachine fun m => m.replace path list.reverse.flatten
  | _, _ => return

/-- Opens the next file that can be opened, if there is one. -/
def openNext (manner : Manner) : Nat → Editing (Option (Octets × List (Octets × Bool)))
  | 0 => return none
  | fuel + 1 => do
    match (← get).files with
    | [] => return none
    | name :: rest =>
      modify fun s => { s with files := rest }
      match ← openInput manner name with
      | some text => return some (name, State.linesOf manner.finish text)
      | none => openNext manner fuel

/-- Looks for another line in files that were not opened yet: whether there is one. -/
def lookAhead (manner : Manner) : Nat → Editing Bool
  | 0 => return false
  | fuel + 1 => do
    match (← get).ahead with
    | some (_, _ :: _) => return true
    | _ =>
      match ← openNext manner ((← get).files.length + 1) with
      | some file =>
        modify fun s => { s with ahead := some file }
        lookAhead manner fuel
      | none =>
        modify fun s => { s with ahead := none }
        return false

/-- Whether there is no other line. -/
def isLast (manner : Manner) : Editing Bool := do
  let s ← get
  if !s.lines.isEmpty then return false
  if manner.separate then return true
  return !(← lookAhead manner (s.files.length + 2))

/-- Begins with a file. -/
def enter (manner : Manner) (file : Octets × List (Octets × Bool)) : Editing Unit := do
  modify fun s =>
    { s with
      file := file.1, lines := file.2, ahead := none
      number := if manner.separate then 0 else s.number
      spans := if manner.separate then s.spans.map fun _ => .idle else s.spans
      replacing := if manner.inPlace.isSome then some [] else none }

/-- Reads the next line, if there is one. -/
def readLine (manner : Manner) : Nat → Editing (Option (Octets × Bool))
  | 0 => return none
  | fuel + 1 => do
    let s ← get
    match s.lines with
    | line :: rest =>
      set { s with lines := rest, number := s.number + 1 }
      return some line
    | [] =>
      match s.ahead with
      | some file =>
        closeFile manner
        enter manner file
        readLine manner fuel
      | none =>
        closeFile manner
        match ← openNext manner (s.files.length + 1) with
        | some file =>
          enter manner file
          readLine manner fuel
        | none => return none

/-- Reads the next line in place of the old one, or behind it: whether there is one. -/
def advance (manner : Manner) (adds : Bool) : Editing Bool := do
  flush manner
  modify fun s => { s with replaced := if adds then s.replaced else s.replaced }
  match ← readLine manner ((← get).files.length + 3) with
  | none => return false
  | some (line, ended) =>
    modify fun s =>
      { s with space := if adds then s.space ++ [manner.finish] ++ line else line, ended }
    return true

/-- The finder that is meant: the one given, or the last one used. -/
def used (manner : Manner) (finder : Finder) : Editing Finder := do
  match finder with
  | .given x lines =>
    modify fun s => { s with last := some (.given x lines) }
    return .given x lines
  | .last =>
    match (← get).last with
    | some finder => return finder
    | none =>
      Tool.complain "sed" ("-e expression #" ++ Octets.ofNat manner.texts ++ ", char 0: " ++
        Fault.noLast.text)
      Run.setStatus 1
      throw .failure

/-- Looks for something from a place in the line on. -/
def find? (finder : Finder) (subject : Array Char) (place : Nat) : Option (Regex.Match × Regex.Subject) :=
  match finder with
  | .last => none
  | .given x lines =>
    let s : Regex.Subject := { text := subject, lines }
    (x.find? s place).map fun found => (found, s)

/-- Whether an address stands for the line. -/
def isAt (manner : Manner) (address : Address) : Editing Bool := do
  let s ← get
  match address with
  | .line n => return s.number = n
  | .every first step =>
    return if s.number < first then false else (s.number - first) % step = 0
  | .final => isLast manner
  | .found finder =>
    let finder ← used manner finder
    return (find? finder s.space.toArray 0).isSome
  | .behind _ => return false
  | .multiple _ => return false

/-- Whether an instruction acts on the line. A range goes on from line to line. -/
def selects (manner : Manner) (index : Nat) (selection : Selection) : Editing Bool := do
  let setSpan (span : Span) : Editing Unit :=
    modify fun s => { s with spans := s.spans.setIfInBounds index span }
  let s ← get
  let hit ← match selection.first, selection.second with
    | none, _ => pure true
    | some first, none => isAt manner first
    | some first, some second =>
      let isZero := match first with
        | .line 0 => true
        | _ => false
      let span : Span := match (s.spans[index]?).getD .idle with
        | .idle => if isZero then .active none else .idle
        | span => span
      match span with
      | .active stop =>
        match stop with
        | some n =>
          if n ≤ s.number then setSpan .past
          pure (decide (s.number ≤ n) || (match first with
            | .line m => s.number == m
            | _ => false))
        | none =>
          let ends ← isAt manner second
          setSpan (if ends then Span.past else .active none)
          pure true
      | span =>
        let begins ← match first with
          | .line n => pure (decide (s.number = n) && !(span == .past && isZero))
          | first => isAt manner first
        if !begins then pure false
        else
          match second with
          | .line n => setSpan (if n ≤ s.number then Span.past else .active (some n))
          | .behind n => setSpan (if n = 0 then Span.past else .active (some (s.number + n)))
          | .multiple n =>
            setSpan (if n = 0 then Span.past else .active (some ((s.number / n + 1) * n)))
          | _ => setSpan (.active none)
          pure true
  return hit != selection.inverted

/-- Changes the case of letters. -/
def cased (c : Casing) (cs : Octets) : Octets :=
  match c with
  | .none => cs
  | .upper => cs.map Char.toUpper
  | .lower => cs.map Char.toLower

/-- The text that takes the place of a match. -/
def replacement (pieces : List Piece) (found : Regex.Match) (subject : Regex.Subject) : Octets :=
  let add (state : List Octets × Casing × Casing) (cs : Octets) : List Octets × Casing × Casing :=
    let (out, all, first) := state
    match cs with
    | [] => state
    | c :: rest =>
      let head := if first = .none then cased all [c] else cased first [c]
      ((head ++ cased all rest) :: out, all, .none)
  let (out, _, _) := pieces.foldl (fun state piece =>
    let (out, all, first) := state
    match piece with
    | .text cs => add state cs
    | .group n => add state (found.text subject n)
    | .casing c => (out, c, first)
    | .next c => (out, all, c)) ([], .none, .none)
  out.reverse.flatten

/-- Replaces matches from a place on: what comes of the rest of the line, and whether something was
replaced. -/
def replaceFrom (sub : Substitution) (finder : Finder) (subject : Array Char) :
    Nat → (place count : Nat) → (last : Option Nat) → List Octets × Bool
  | 0, _, _, _ => ([], false)
  | fuel + 1, place, count, last =>
    let rest (start stop : Nat) : Octets := (subject.extract start stop).toList
    match if subject.size < place then none else find? finder subject place with
    | none => ([rest place subject.size], false)
    | some (found, s) =>
      let isEmpty := found.start = found.stop
      if isEmpty && last = some found.start then
        let (more, done) := replaceFrom sub finder subject fuel (found.stop + 1) count none
        (rest place (found.stop + 1) :: more, done)
      else
        let before := rest place found.start
        let count := count + 1
        if count < sub.number then
          let next := if isEmpty then found.stop + 1 else found.stop
          let (more, done) := replaceFrom sub finder subject fuel next count (some found.stop)
          (before :: rest found.start next :: more, done)
        else
          let new := replacement sub.pieces found s
          if !sub.everywhere then
            ([before, new, rest found.stop subject.size], true)
          else
            let next := if isEmpty then found.stop + 1 else found.stop
            let (more, _) := replaceFrom sub finder subject fuel next count (some found.stop)
            (before :: new :: rest found.stop next :: more, true)

/-- How the characters of a line are shown so that nothing is in doubt. -/
def shownPlainly (c : Char) : Octets :=
  if c == '\\' then ['\\', '\\']
  else if 32 ≤ c.toNat && c.toNat < 127 then [c]
  else
    match Tool.controlLetter? c with
    | some letter => ['\\', letter]
    | none =>
      let digit (n : Nat) : Char := Nat.digitChar (n % 8)
      ['\\', digit (c.toNat / 64), digit (c.toNat / 8), digit c.toNat]

/-- A line so that nothing is in doubt, cut into parts that are not too wide. -/
def plainly (width : Nat) (cs : Octets) : Octets :=
  let (out, _) := cs.foldl (fun (done : List Octets × Nat) c =>
    let (out, place) := done
    let shown := shownPlainly c
    if 0 < width && width - 1 < place + shown.length then
      (shown :: ['\\', '\n'] :: out, shown.length)
    else (shown :: out, place + shown.length)) ([], 0)
  out.reverse.flatten ++ ['$', '\n']

/-- The next line of a file of which lines are read one by one. -/
def nextLineOf (manner : Manner) (name : Octets) : Editing (Option (Octets × Bool)) := do
  let s ← get
  let lines ← match s.readers.find? fun r => r.1 == name with
    | some (_, lines) => pure lines
    | none =>
      let text ← if name == "/dev/stdin".toList then Run.readAll 0 else Run.readFile name
      match text with
      | .ok text => pure (State.linesOf manner.finish text)
      | .error _ => pure []
  modify fun s =>
    { s with readers := (name, lines.drop 1) :: s.readers.filter fun r => r.1 != name }
  return lines.head?

/-- How commands are run: their output is the answer. -/
abbrev Launch := Octets → Run Octets

/-- Carries out a replacement. -/
def substitute (manner : Manner) (launch : Launch) (sub : Substitution) : Editing Unit := do
  let finder ← used manner sub.finder
  let subject := (← get).space.toArray
  let (parts, done) := replaceFrom sub finder subject (subject.size + 2) 0 0 none
  if !done then return
  modify fun s => { s with space := parts.flatten, replaced := true }
  if sub.prints = 1 && sub.runs then printSpace manner (← get).space
  if sub.runs then
    let text ← launch (← get).space
    let text := if text.getLast? = some manner.finish then text.dropLast else text
    modify fun s => { s with space := text }
  if sub.prints = 2 || sub.prints = 1 && !sub.runs then printSpace manner (← get).space
  match sub.target with
  | some target =>
    let s ← get
    putTo manner target s.space s.ended
  | none => pure ()

/-- Carries out instructions from a number on. -/
def carryOut (manner : Manner) (launch : Launch) (script : Script) : Nat → (index : Nat) → Editing Ending
  | 0, _ => return .quit false 1
  | fuel + 1, index => do
    match script.instructions[index]? with
    | none => return .done
    | some instruction =>
      let go := carryOut manner launch script fuel (index + 1)
      let hit ← selects manner index instruction.selection
      if !hit then
        match instruction.action with
        | .block stop => carryOut manner launch script fuel stop
        | _ => go
      else
        let s ← get
        let line : Octets := [manner.finish]
        match instruction.action with
        | .block _ => go
        | .nothing => go
        | .append text =>
          set { s with delayed := .text text :: s.delayed }
          go
        | .insert text =>
          put manner text true
          go
        | .change text =>
          let inside := instruction.selection.second.isSome && !instruction.selection.inverted &&
            (match s.spans[index]? with
              | some (.active _) => true
              | _ => false)
          if !inside then put manner text true
          return .dropped
        | .jump goal => carryOut manner launch script fuel goal
        | .jumpIf replaced goal =>
          set { s with replaced := false }
          if s.replaced == replaced then carryOut manner launch script fuel goal else go
        | .quit prints status => return .quit prints status
        | .list width =>
          put manner (plainly (width.getD manner.width) s.space) true
          go
        | .number =>
          put manner (Octets.ofNat s.number ++ ['\n']) true
          go
        | .delete => return .dropped
        | .deleteFirst =>
          if s.space.contains manner.finish then
            set { s with space := (s.space.dropWhile (· ≠ manner.finish)).drop 1 }
            return .again
          return .dropped
        | .fileName =>
          put manner (s.file ++ ['\n']) true
          go
        | .fetch adds =>
          set { s with space := if adds then s.space ++ line ++ s.kept else s.kept }
          go
        | .keep adds =>
          set { s with kept := if adds then s.kept ++ line ++ s.space else s.space }
          go
        | .swap =>
          set { s with space := s.kept, kept := s.space }
          go
        | .next adds =>
          if ← isLast manner then
            if s.files.isEmpty && s.ahead.isNone || !manner.separate then return .quit true 0
            return .done
          if !adds && !manner.quiet then printSpace manner s.space
          if ← advance manner adds then go else return .quit false 0
        | .print =>
          printSpace manner s.space
          go
        | .printFirst =>
          put manner (s.space.takeWhile (· ≠ manner.finish) ++ line) true
          go
        | .empty =>
          set { s with space := [] }
          go
        | .readFile name =>
          set { s with delayed := .file name :: s.delayed }
          go
        | .readLine name =>
          let found ← nextLineOf manner name
          modify fun s => { s with delayed := .line found :: s.delayed }
          go
        | .write whole target =>
          if whole then putTo manner target s.space s.ended
          else putTo manner target (s.space.takeWhile (· ≠ manner.finish)) true
          go
        | .substitute sub =>
          substitute manner launch sub
          go
        | .translate table =>
          set { s with space := s.space.map fun c => (table.lookup c).getD c }
          go
        | .run command =>
          if command.isEmpty then
            let text ← launch s.space
            let text := if text.getLast? = some manner.finish then text.dropLast else text
            modify fun s => { s with space := text }
          else put manner (← launch command) true
          go

/-- How many instructions are carried out for one line before it is given up. -/
def patience : Nat := 20000000

/-- Edits all lines. -/
def all (manner : Manner) (launch : Launch) (script : Script) : Nat → (reads : Bool) → Editing Nat
  | 0, _ => return 1
  | fuel + 1, reads => do
    let isThere ← if reads then advance manner false else pure true
    if !isThere then
      return (← get).status
    modify fun s => { s with replaced := if reads then false else s.replaced }
    match ← carryOut manner launch script patience 0 with
    | .done =>
      if !manner.quiet then printSpace manner (← get).space
      all manner launch script fuel true
    | .dropped => all manner launch script fuel true
    | .again =>
      flush manner
      all manner launch script fuel false
    | .quit prints status =>
      if prints && !manner.quiet then printSpace manner (← get).space
      flush manner
      let s ← get
      if s.replacing.isSome then
        for (line, ended) in s.lines do
          put manner (if ended then line ++ [manner.finish] else line) ended
      closeFile manner
      return if status = 0 then s.status else status

end Editing

end DocMend.Shell.Edit
