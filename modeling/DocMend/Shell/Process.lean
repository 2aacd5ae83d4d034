import DocMend.Shell.Fields
import DocMend.Shell.Variables
/-!
Child processes. A child is a copy of the process that starts it; when it is over, the machine stays
as the child has left it, and nothing else of it is left but how it ended.
-/

set_option autoImplicit false
set_option relaxedAutoImplicit false

namespace DocMend.Shell

/-- How a word is expanded: whether into fields, where a tilde stands for a folder, and whether bare
characters are cut like the text of an expansion. -/
structure Spread where
  full : Bool := false
  tilde : Bool := false
  tildeAfterColon : Bool := false
  cutsBare : Bool := false
deriving DecidableEq, Repr

/-- A script that is read and run: its text, whether its failure is looked at, whether the last
command may take the place of the process, whether the text is what the shell was started for, whether
it is that of a file, and whether it is read line by line from the input instead. -/
structure Script where
  text : Octets := []
  /-- What a script is called in complaints that stands in another one. -/
  source : Option String := none
  tested : Bool := false
  last : Bool := false
  main : Bool := false
  isFile : Bool := false
  fromInput : Bool := false

/-- What commands and words are made of: running a command, running a script, and expanding a word.
A tested command is one whose failure is looked at; a last one may take the place of the process. -/
structure Engine where
  run : Command → (tested last : Bool) → Run Unit
  script : Script → Run Unit
  expand : Spread → Word → Run (List Segment)

namespace Run

/-- The end of a process by the result of its computation. -/
def exitOf (result : Except Raise Unit) (s : Interpreter) : Exit :=
  match result with
  | .ok () => .status (s.status % 256)
  | .error .exit => .status (s.status % 256)
  | .error .failure => .status (s.status % 256)
  | .error .abandoned => .status (s.status % 256)
  | .error (.signalled n) => .signal n
  | .error .exhausted => .signal 11

/-- Takes signals that were sent to this process while it waited. -/
def receiveSignals : Run Unit := do
  let s ← self
  let (mine, others) := (← machine).signals.partition fun e => e.1 == s.process
  if mine.isEmpty then return
  modifyMachine fun m => { m with signals := others }
  for (_, n) in mine do
    match (← self).traps.find? fun e => e.1 == n && n != 9 with
    | some (_, action) =>
      if !action.isEmpty then modifySelf fun s => { s with caught := s.caught ++ [n] }
    | none => if !Signal.isHarmless n then throw (.signalled n)

/-- Sends a signal to a process: to this one, or to one that waits for it. -/
def sendSignal (process n : Nat) : Run Unit := do
  modifyMachine fun m => { m with signals := m.signals ++ [(process, n)] }
  receiveSignals

/-- Runs a computation as a child process. -/
def child (prepare : Interpreter → Interpreter) (body : Run Unit) : Run Exit := do
  let w ← get
  let number := w.machine.nextProcess
  let start := prepare { w.self with
    process := number, ancestors := w.self.process :: w.self.ancestors, jobs := [], caught := []
    readers := [] }
  let machine := { w.machine with nextProcess := number + 1 }
  let (result, after) := body.run.run ⟨start, machine⟩
  set { w with machine := after.machine }
  receiveSignals
  return exitOf result after.self

/-- Whether a subshell or a function keeps an action: those on commands, failures and returns may be
kept, ignored signals are. -/
def keepsTrap (s : Interpreter) (n : Nat) (action : Octets) : Bool :=
  if n = Signal.failure then s.options.contains "errtrace"
  else if n = Signal.command || n = Signal.conclusion then s.options.contains "functrace"
  else action.isEmpty

/-- A copy of a shell that runs commands apart: actions on signals are dropped, but ignored signals
stay ignored. It no longer reads a script that was given as an argument. -/
def apart (s : Interpreter) : Interpreter :=
  { s with
    traps := s.traps.filter fun e => keepsTrap s e.1 e.2, loops := 0, skip := none
    depth := s.depth + 1
    subshell := .other
    readerLine := if s.origin = .argument then 1 else s.readerLine }

/-- Says which signal ended a child. -/
def reportSignal (exit : Exit) : Run Unit := do
  match exit with
  | .status _ => return
  | .signal n =>
    if !Signal.isQuiet n then
      if !(← isExtended) then note (Signal.description n).toList

end Run

namespace Engine

/-- Runs the action for the end of a shell, if there is one. The status stays unless the action itself
leaves the shell or fails. -/
def runExitTrap (e : Engine) : Run Unit := do
  let s ← Run.self
  match s.traps.find? fun t => t.1 == 0 with
  | some (_, action) =>
    let status := s.status
    Run.modifySelf fun s =>
      { s with
        traps := s.traps.filter fun t => t.1 != 0, skip := none, held := some status,
        command := none }
    try
      e.script { text := action, source := some "exit trap" }
      Run.modifySelf fun s => { s with status, skip := some (.function true) }
    catch r =>
      match r with
      | .exit => pure ()
      | .failure => pure ()
      | .abandoned => pure ()
      | r => throw r
  | none => return

/-- Carries out an action that is not on a signal, unless one is being carried out. The status stays as
it was. -/
def runAction (e : Engine) (n : Nat) : Run Unit := do
  let s ← Run.self
  match s.traps.find? fun t => t.1 == n with
  | some (_, action) =>
    if !action.isEmpty && !s.inAction then
      let restore : Run Unit := Run.modifySelf fun now => { now with inAction := s.inAction }
      Run.modifySelf fun s => { s with inAction := true }
      let source :=
        if n = Signal.failure then "error trap"
        else if n = Signal.command then "debug trap"
        else "return trap"
      try
        e.script { text := action, source := some source }
        restore
        if (← Run.self).skip ≠ some (.function true) then Run.setStatus s.status
      catch r =>
        restore
        throw r
  | none => return

/-- Runs the commands that wait to run beside the shell. -/
def runJobs (e : Engine) : Run Unit := do
  let waiting := (← Run.self).jobs.filter fun job => job.exit?.isNone
  for job in waiting do
    let w ← get
    let body : Run Unit := do
      e.run job.body false true
    let (result, after) := body.run.run ⟨{ job.start with process := job.process }, w.machine⟩
    set { w with machine := after.machine }
    let exit := Run.exitOf result after.self
    Run.modifySelf fun s =>
      { s with
        jobs := s.jobs.map fun other =>
          if other.process == job.process then { other with exit? := some exit } else other }

/-- Runs processes that wait for their input, each in a copy of the shell. -/
def runReaders (e : Engine) (readers : List (Command × Nat)) : Run Unit := do
  for (command, index) in readers do
    let body : Run Unit := do
      Run.connect 0 index
      e.run command false true
    let _ ← Run.child Run.apart (do
      try body
      catch r =>
        match r with
        | .exit => pure ()
        | .failure => pure ()
        | .abandoned => pure ()
        | r => throw r
      e.runExitTrap
      e.runJobs)

/-- Ends a shell: after its last command, however that ended, the action for the end is carried out,
and the commands beside the shell and processes that take what it has written come to their end. -/
def concluding (e : Engine) (body : Run Unit) : Run Unit := do
  let finish : Run Unit := do
    e.runExitTrap
    e.runJobs
    let readers := (← Run.self).readers
    if !readers.isEmpty then
      Run.modifySelf fun s => { s with readers := [] }
      e.runReaders readers
  try
    body
  catch r =>
    match r with
    | .exit => pure ()
    | .failure => pure ()
    | .abandoned => pure ()
    | r => throw r
  finish

/-- Runs a command in a copy of the shell. -/
def subshell (e : Engine) (prepare : Run Unit) (command : Command) (tested : Bool) : Run Exit :=
  Run.child Run.apart (e.concluding (do
    prepare
    e.run command tested true))

/-- The number of a free descriptor, from the highest one down. -/
def freeDescriptor (taken : List Nat) : (highest : Nat) → Nat
  | 0 => 0
  | n + 1 => if taken.contains (n + 1) then freeDescriptor taken n else n + 1

/-- The file name of a process: what it writes can be read from it, or what is written to it becomes
the input of the process once nothing more is written. -/
def processName (e : Engine) (body : Command) (takesInput : Bool) : Run Octets := do
  let w ← get
  let (index, machine) := w.machine.addChannel (.pipe [] [])
  set { w with machine }
  let descriptor := freeDescriptor (w.self.descriptors.map Prod.fst) 63
  if takesInput then Run.modifySelf fun s => { s with readers := s.readers ++ [(body, index)] }
  else
    let _ ← e.subshell (Run.connect 1 index) body false
  Run.connect descriptor index
  Run.modifySelf fun s => { s with fileProcesses := descriptor :: s.fileProcesses }
  return "/dev/fd/" ++ Octets.ofNat descriptor

/-- Closes the descriptors of processes with file names that were opened by a command, and runs the
processes to which nothing more is written. -/
def closeProcesses (e : Engine) (before : List Nat) : Run Unit := do
  let s ← Run.self
  let opened := s.fileProcesses.filter fun d => !before.contains d
  if opened.isEmpty then return
  let descriptors := s.descriptors.filter fun d => !opened.contains d.1
  let (held, closed) := s.readers.partition fun r => descriptors.any fun d => d.2 == r.2
  Run.modifySelf fun s => { s with descriptors, fileProcesses := before, readers := held }
  e.runReaders closed

/-- The output of a command, without the line ends after it. -/
def outputOf (e : Engine) (command : Command) : Run Octets := do
  let w ← get
  let (index, machine) := w.machine.addChannel (.pipe [] [])
  set { w with machine }
  let prepare : Run Unit := do
    Run.connect 1 index
    Run.modifySelf fun s => { s with level := s.level + 1 }
  let exit ← e.subshell prepare command false
  Run.reportSignal exit
  Run.modifySelf fun s => { s with substituted := exit.code }
  let text := match (← Run.machine).available index with
    | .ok text => text
    | .error _ => []
  Run.modifyMachine fun m => m.consume index text.length
  let text := text.filter (· ≠ '\x00')
  return (text.reverse.dropWhile (· == '\n')).reverse

end Engine

end DocMend.Shell
