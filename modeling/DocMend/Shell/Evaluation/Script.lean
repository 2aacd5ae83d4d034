import DocMend.Shell.Evaluation.Command
/-!
Running of scripts. A script is read and run one line at a time, so that what the first lines do bears
on how the later ones are read.
-/

set_option autoImplicit false
set_option relaxedAutoImplicit false

namespace DocMend.Shell

namespace Evaluation

/-- The beginning of a complaint about the text of a script in the extended language. -/
def scriptHead (script : Script) (line : Nat) : Run Octets := do
  let s ← Run.self
  let file := match s.frames with
    | frame :: _ => frame.file
    | [] => s.name
  let source : Octets := match script.source, s.command, s.frames with
    | some source, _, _ => ": ".toList ++ source
    | none, some command, _ => ": ".toList ++ command
    | none, none, [] => if script.main && s.origin = .argument then ": -c" else []
    | none, none, _ => []
  return file ++ source ++ ": line " ++ Octets.ofNat line ++ ": "

/-- The text of a line of a script that begins in a given line. -/
def lineOf (text : Octets) (first line : Nat) : Octets :=
  ((Text.pieces '\n' text)[line - first]?).getD []

/-- The last token of what was read of a line, and what stands before it without a blank. -/
def lastToken (read : Octets) : Octets :=
  let isEdge (c : Char) : Bool := c == ' ' || c == '\n' || c == '\t' || c == ';' || c == '|' || c == '&'
  match read.reverse.dropWhile Octets.isGap with
  | [] => read.take 1
  | last :: before =>
    if isEdge last then [last]
    else
      let token := (last :: before).takeWhile fun c => !isEdge c
      match before.drop (token.length - 1) with
      | edge :: _ => if Octets.isGap edge then token.reverse else edge :: token.reverse
      | [] => token.reverse

/-- Says in the words of the extended language what is wrong with a script. -/
def complainOf (script : Script) (text : Octets) (first : Nat) (flaw : Flaw) : Run Unit := do
  let head ← scriptHead script flaw.line
  let shown : Octets := ['\x60'] ++ lineOf text first flaw.line ++ ['\x27']
  let marked (text : String) : Octets := ['\x60'] ++ text.toList ++ ['\x27']
  match flaw.fault with
  | .unexpected .ending _ =>
    let line := if text.getLast? = some '\n' then flaw.line else flaw.line + 1
    Run.note ((← scriptHead script line) ++ "syntax error: unexpected end of file")
  | .unexpected .newline _ =>
    let head ← scriptHead script (flaw.line - 1)
    Run.note (head ++ "syntax error near unexpected token " ++ marked Token.newline.written)
    Run.note (head ++ "\x60" ++ lineOf text first (flaw.line - 1) ++ "\x27")
  | .unexpected token _ =>
    Run.note (head ++ "syntax error near unexpected token " ++ marked token.written)
    Run.note (head ++ shown)
  | .unterminated closer _ =>
    Run.note (head ++ "unexpected EOF while looking for matching " ++ marked closer)
  | .openCommands => Run.note (head ++ "unexpected EOF while looking for matching " ++ marked ")")
  | .condition complaints place =>
    for (line, complaint) in complaints do
      Run.note ((← scriptHead script line) ++ complaint)
    match place with
    | .ending => Run.note (head ++ "syntax error: unexpected end of file")
    | .near left =>
      let line := lineOf text first flaw.line
      let read := match left with
        | some n => line.take (line.length - n + 1)
        | none => line
      Run.note (head ++ "syntax error near \x60" ++ lastToken read ++ "\x27")
      Run.note (head ++ shown)
  | fault => Run.note (head ++ "syntax error: " ++ fault.text)

/-- Warns of here-documents without an end. -/
def warnOfUnended (unended : List Unended) : Run Unit := do
  let s ← Run.self
  let name := match s.frames with
    | frame :: _ => frame.file
    | [] => s.name
  for document in unended do
    Run.note (name ++ ": line " ++ Octets.ofNat document.last ++
      ": warning: here-document at line " ++ Octets.ofNat document.first ++
      " delimited by end-of-file (wanted \x60" ++ document.mark ++ "\x27)")

/-- The text of a script with an end of its last line. In the extended language a text that ends with a
backslash stays as it is, unless it comes from a file. -/
def endedText (dialect : Dialect) (fromFile : Bool) (text : Octets) : Octets :=
  match dialect, text.getLast? with
  | .posix, _ => text
  | .extended, none => text
  | .extended, some '\n' => text
  | .extended, some c => if c == '\\' && !fromFile then text else text ++ ['\n']

/-- Refuses a script. -/
def refuseScript (script : Script) (text : Octets) (first : Nat) (flaw : Flaw) : Run Unit := do
  if ← Run.isExtended then
    warnOfUnended flaw.unended
    complainOf script text first flaw
    if flaw.inElements then
      Run.setStatus 1
      if !script.main then throw .failure
      return
    let s ← Run.self
    let keeps := match flaw.fault with
      | .unterminated _ _ => script.main && s.origin = .file && s.status ≠ 0
      | _ => false
    if !keeps then Run.setStatus 2
    if script.main then throw .exit
    throw .failure
  Run.modifySelf fun s => { s with line := flaw.line }
  Run.fail ("Syntax error: " ++ flaw.fault.text)

/-- The aliases that are replaced. -/
def activeAliases (s : Interpreter) : List (Octets × Octets) :=
  if s.dialect = .posix || s.options.contains "expand_aliases" then s.aliases else []

/-- Runs the commands of a line. In the extended language an error ends the line only, and a subshell
altogether. -/
def runLine (e : Engine) (command : Command) (tested last : Bool) : Run Unit := do
  try e.run command tested last
  catch r =>
    let s ← Run.self
    match r, s.dialect with
    | .failure, .extended | .abandoned, .extended =>
      if s.status = 0 then Run.setStatus 1
      if s.process ≠ s.root then throw .exit
    | r, _ => throw r

/-- Runs the lines of a script. -/
def runLines (e : Engine) (script : Script) (first : Nat) : Nat → Reading → Bool → Run Unit
  | 0, _, _ => return
  | fuel + 1, reading, ran => do
    let s ← Run.self
    let rest : Octets ← do
      if script.fromInput then
        match ← Run.available 0 with
        | .ok text => pure (endedText s.dialect true text)
        | .error _ => pure []
      else pure reading.rest
    let start : Reading :=
      { reading with
        rest, aliases := activeAliases s, documents := s.documents
        alternatives := s.options.contains "extglob" }
    match readLine.run start with
    | .error flaw =>
      let (text, line) := if script.fromInput then (rest, reading.line) else (script.text, first)
      refuseScript script text line flaw
      let later := Octets.afterLines (flaw.line + 1 - line) text
      if script.fromInput then Run.consume 0 (text.length - later.length)
      let next : Reading := { rest := later, line := flaw.line + 1, dialect := s.dialect }
      if !later.isEmpty then runLines e script first fuel next ran
    | .ok (none, _) => if !ran then Run.setStatus 0
    | .ok (some command, after) =>
      if script.fromInput then Run.consume 0 (rest.length - after.rest.length)
      Run.modifySelf fun s => { s with documents := after.documents, readerLine := after.line }
      if s.dialect == .extended then warnOfUnended after.unended
      let after := { after with unended := [] }
      let atEnd := after.rest.isEmpty && !after.pushed || after.pushed && (match after.last with
        | .ending => true
        | _ => false)
      runLine e command script.tested (script.last && atEnd)
      let ran := match command with
        | .nothing => ran
        | _ => true
      if (← Run.self).skip.isNone then runLines e script first fuel after ran

/-- Runs a script. -/
def runScript (e : Engine) (script : Script) : Run Unit := do
  let s ← Run.self
  let continues := s.dialect == .extended && !script.main && !script.isFile
  let first := if continues then s.line else 1
  let fromFile := script.isFile || script.main && s.origin == .file
  let script := { script with text := endedText s.dialect fromFile script.text }
  let start : Reading := { rest := script.text, line := first, dialect := s.dialect }
  let fuel := if script.fromInput then mostRounds else script.text.length + 2
  if !script.main then Run.modifySelf fun s => { s with level := s.level + 1 }
  let restore : Run Unit := Run.modifySelf fun now => { now with level := s.level }
  closing restore (runLines e script first fuel start false)
  Run.modifySelf fun now => { now with readerLine := s.readerLine }

end Evaluation

namespace Engine

/-- What commands and words are made of, where each may contain others to a given depth. -/
def ofDepth : Nat → Engine
  | 0 =>
    { run := fun _ _ _ => throw .exhausted
      script := fun _ => throw .exhausted
      expand := fun _ _ => throw .exhausted }
  | depth + 1 =>
    let inner := ofDepth depth
    { run := Evaluation.run inner
      script := Evaluation.runScript inner
      expand := Expansion.segments inner }

end Engine

end DocMend.Shell
