import DocMend.Shell.Lookup
import DocMend.Shell.Start
import DocMend.Shell.Tool.Table
/-!
Running of programs. A program takes the place of the process: it ends the process, unless it cannot
be run at all. A program is a scripted one, a tool, a shell, or a file of commands, whose first line
may name the program that reads it.
-/

set_option autoImplicit false
set_option relaxedAutoImplicit false

namespace DocMend.Shell

namespace Run

/-- Ends the process with a status. -/
def leaveWith {α : Type} (status : Nat) : Run α := do
  setStatus status
  throw .exit

/-- The scripted program at a place. -/
def scripted? (place : Octets) : Run (Option Program) := do
  let path := Path.resolve (← self).folder (Octets.toText place)
  return (← machine).programs.find? fun program =>
    (!place.contains '/' && program.name == some (Octets.toText place)) ||
      program.places.contains path

/-- Lets a scripted program answer. -/
def answer {α : Type} (program : Program) (arguments : List Octets) : Run α := do
  let reply := program.reply
  modifyMachine fun m =>
    { m with
      programs := m.programs.map fun other =>
        if other.isSame program then other.called (arguments.map Octets.toText) else other }
  let _ ← write 1 (Octets.ofBytes reply.stdout)
  let _ ← write 2 (Octets.ofBytes reply.stderr)
  leaveWith reply.status

end Run

namespace Engine

/-- Reads the commands of a file. -/
def runFile (e : Engine) (name : Octets) (parameters : List Octets) : Run Unit := do
  match ← Run.scripted? name with
  | some program => Run.answer program parameters
  | none =>
    let extended ← Run.isExtended
    let opened ← do
      match ← Run.openName name { reads := true } with
      | .error refusal => pure (.error refusal)
      | .ok index => pure ((← Run.machine).available index)
    match opened with
    | .ok text =>
      if extended && text.isBinary then
        Run.note (name ++ ": " ++ name ++ ": cannot execute binary file")
        Run.leaveWith 126
      Run.modifySelf fun s => { s with name, origin := .file }
      e.script { text := text.withoutZeros, main := true }
    | .error .isFolder =>
      if extended then
        Run.note (name ++ ": " ++ name ++ ": " ++ Refusal.isFolder.text)
        Run.leaveWith 126
    | .error refusal =>
      let s ← Run.self
      if extended then
        Run.note (s.name ++ ": " ++ name ++ ": " ++ refusal.text)
        Run.leaveWith 127
      let isAbsent := refusal = .missing || refusal = .notFolder
      Run.note (s.name ++ ": 0: cannot open " ++ name ++ ": " ++
        (if isAbsent then "No such file" else refusal.text))
      Run.leaveWith 2

/-- Carries out a task of a shell. In the extended language the last command of an argument may take
the place of the shell. -/
def runTask (e : Engine) (parameters : List Octets) : Task → Run Unit
  | .text text => do
    Run.modifySelf fun s => { s with origin := .argument }
    e.script { text, last := ← Run.isExtended, main := true }
  | .file name => e.runFile name parameters
  | .input => do
    let extended ← Run.isExtended
    Run.modifySelf fun s => { s with origin := .input, options := "stdin" :: s.options }
    if extended then e.script { main := true, fromInput := true }
    else
      match ← Run.readAll 0 with
      | .ok text => e.script { text := text.withoutZeros, main := true }
      | .error _ => pure ()

/-- Lets a shell take the place of the process. -/
def runShell {α : Type} (e : Engine) (dialect : Dialect) (name : Octets) (find : Run Start) :
    Run α := do
  let m ← Run.machine
  let s ← Run.self
  Run.modifySelf fun s => s.started m dialect name
  match dialect, (s.releveled 1).2 with
  | .extended, some level =>
    Run.note ("bash: warning: shell level (" ++ Octets.ofInt level ++ ") too high, resetting to 1")
  | _, _ => pure ()
  e.concluding (do
    let start ← find
    Run.modifySelf fun s =>
      { s with name := start.name.getD s.name, parameters := start.parameters }
    match start.tasks with
    | [.file _] => Run.modifySelf fun s => { s with name }
    | _ => pure ()
    start.tasks.forM (e.runTask start.parameters))
  throw .exit

end Engine

namespace Run

/-- The program that the first line of a file names, with its argument. -/
def reader? (text : Octets) : Option (Octets × Option Octets) :=
  match text with
  | '#' :: '!' :: rest =>
    let line := (rest.takeWhile (· ≠ '\n')).dropWhile Octets.isBlank
    let name := line.takeWhile fun c => !Octets.isBlank c
    let after := (line.drop name.length).dropWhile Octets.isBlank
    let argument := (after.reverse.dropWhile Octets.isBlank).reverse
    if name.isEmpty then none
    else some (name, if argument.isEmpty then none else some argument)
  | _ => none

/-- The folders in which programs are looked for where there is no search path. -/
def usualFolders : List Octets := ["/bin", "/usr/bin"]

/-- The place of a program that a tool names. -/
def launchPlace (name : Octets) : Run (Except Refusal Octets) := do
  if name.isEmpty then return .error .missing
  let found ← match (← self).value? "PATH" with
    | some _ => place? name
    | none => if name.contains '/' then pure (some name) else placeIn name usualFolders
  match found with
  | some place => return .ok place
  | none => return .error .missing

/-- How tools run programs, by what takes the place of a process. -/
def launcherOf (take : (place : Octets) → (words : List Octets) → Run Refusal) : Launcher :=
  let become (words : List Octets) : Run Refusal := do
    match ← launchPlace (words.headD []) with
    | .error refusal => return refusal
    | .ok place =>
      modifySelf fun s => { s with dialect := .posix }
      take place words
  { become
    spawn := fun prepare words refused => do
      child (fun s => s) (do
        prepare
        let refusal ← become words
        leaveWith (← refused refusal)) }

/-- Runs a program with its words, of which the first one is its name. The answer says why it cannot
be run. -/
def execute (e : Engine) : Nat → (place : Octets) → (words : List Octets) → Run Refusal
  | 0, _, _ => throw .exhausted
  | fuel + 1, place, words => do
    let s ← self
    let m ← machine
    let name := words.headD []
    let arguments := words.drop 1
    let path := Path.resolve s.folder (Octets.toText place)
    match ← scripted? place with
    | some program => answer program arguments
    | none =>
      let standard := if programFolders.contains path.dropLast then path.baseName else ""
      if standard = "sh" || standard = "dash" then
        e.runShell .posix name (Start.ofArguments arguments)
      else if standard = "bash" then e.runShell .extended name (Start.ofArguments arguments)
      else
        match Tool.named? (launcherOf (execute e fuel)) standard with
        | some tool =>
          modifySelf fun s => { s with traps := s.traps.filter fun t => t.2.isEmpty }
          leaveWith (← Tool.perform name tool arguments)
        | none =>
          match m.locate s.folder (Octets.toText place) with
          | .error refusal => return refusal
          | .ok path =>
            match m.disk.find path with
            | .error fault => return Refusal.ofFault fault
            | .ok .folder => return .isFolder
            | .ok (.file bytes) =>
              if !m.isExecutable path then return .permission
              match reader? (Octets.ofBytes bytes) with
              | some (reader, argument) =>
                execute e fuel reader (reader :: argument.toList ++ place :: arguments)
              | none =>
                e.runShell s.dialect place
                  (return { tasks := [.file place], name := some place, parameters := arguments })

/-- Complains that a program cannot be run: the status for it. -/
def refuseProgram (name place : Octets) (refusal : Refusal) : Run Nat := do
  if ← isExtended then
    let isThere := (← node? place).isSome
    warn (place ++ ": " ++ (match refusal with
      | .missing => if isThere then "cannot execute: required file not found"
        else "No such file or directory"
      | .notExecutable => "cannot execute binary file: " ++ Refusal.notExecutable.text
      | refusal => refusal.text))
    return if refusal = .missing then 127 else 126
  let text := match refusal with
    | .missing => "not found"
    | .notFolder => "not found"
    | .isFolder => Refusal.permission.text
    | refusal => refusal.text
  warn (name ++ ": " ++ text)
  return if refusal = .missing || refusal = .notFolder || refusal = .nameTooLong then 127 else 126

/-- How many programs may take the place of one process in turn. -/
def longestChain : Nat := 64

/-- The text of a program that is a file without a line that names its reader. -/
def plainText? (place : Octets) : Run (Option Octets) := do
  if (← scripted? place).isSome then return none
  let m ← machine
  match m.locate (← self).folder (Octets.toText place) with
  | .error _ => return none
  | .ok path =>
    match m.disk.find path with
    | .ok (.file bytes) =>
      let text := Octets.ofBytes bytes
      return if m.isExecutable path && (reader? text).isNone then some text else none
    | _ => return none

/-- Lets a program take the place of the process, or says why it cannot be run. A binary file is
none. -/
def attempt (e : Engine) (place : Octets) (words : List Octets) : Run Refusal := do
  e.runJobs
  if (← plainText? place).any Octets.isBinary then return .notExecutable
  modifySelf Interpreter.exposed
  execute e longestChain place words

/-- Lets a program take the place of the process; a program that cannot be run ends it too. -/
def becomeProgram {α : Type} (e : Engine) (name place : Octets) (words : List Octets) : Run α := do
  let refusal ← attempt e place words
  leaveWith (← refuseProgram name place refusal)

end Run

end DocMend.Shell
