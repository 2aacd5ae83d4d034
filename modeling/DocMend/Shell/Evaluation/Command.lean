import DocMend.Shell.Evaluation.Loop
import DocMend.Shell.Evaluation.Simple
/-!
Commands of every form. A command leaves its status behind.
-/

set_option autoImplicit false
set_option relaxedAutoImplicit false

namespace DocMend.Shell

namespace Evaluation

/-- Notes how the processes of a pipeline ended. -/
def notePipe (codes : List Nat) : Run Unit := do
  if ← Run.isExtended then
    Run.putVariable "PIPESTATUS" { content := .ofTexts (codes.map Octets.ofNat) }

/-- Runs the commands of a pipeline one after the other: each reads what the one before it has
written. The last one may be run by the shell itself. -/
def runStages (e : Engine) (tested here : Bool) : Option Nat → List Command → Run (List Exit)
  | _, [] => return []
  | input, stage :: rest => do
    let output ← do
      if rest.isEmpty then pure none
      else
        let (index, machine) := (← Run.machine).addChannel (.pipe [] [])
        Run.modifyMachine fun _ => machine
        pure (some index)
    let isSimple := match stage with
      | .simple _ _ _ _ => true
      | _ => false
    let prepare : Run Unit := do
      if isSimple then Run.modifySelf fun s => { s with subshell := .stage }
      match input with
      | some index => Run.connect 0 index
      | none => pure ()
      match output with
      | some index => Run.connect 1 index
      | none => pure ()
    if here && rest.isEmpty then
      let before := (← Run.self).descriptors
      prepare
      closing (Run.restoreDescriptors before [0]) (e.run stage tested false)
      return [.status (← Run.self).status]
    if isSimple then announce e stage
    let exit ← e.subshell prepare stage tested
    return exit :: (← runStages e tested here output rest)

/-- Runs a pipeline. Its status is that of the last command, or that of the last one that failed. -/
def runPipeline (e : Engine) (stages : List Command) (tested : Bool) : Run Unit := do
  e.runJobs
  let exits ← runStages e tested (← Run.has "lastpipe") none stages
  exits.forM Run.reportSignal
  let codes := exits.map Exit.code
  notePipe codes
  let last := codes.getLast?.getD 0
  let failed := (codes.filter (· ≠ 0)).getLast?.getD 0
  Run.setStatus (if ← Run.has "pipefail" then failed else last)

/-- Starts a command that runs beside the shell. -/
def runBeside (body : Command) : Run Unit := do
  let (empty, machine) := (← Run.machine).addChannel .nothing
  let number := machine.nextProcess
  Run.modifyMachine fun _ => { machine with nextProcess := number + 1 }
  Run.modifySelf fun s =>
    let own := Run.apart s
    let start : Interpreter :=
      { own with
        process := number, ancestors := s.process :: s.ancestors, jobs := [], caught := []
        descriptors := (0, empty) :: s.descriptors.filter fun d => d.1 != 0 }
    { s with jobs := s.jobs ++ [⟨number, body, start, none⟩], lastBackground := some number, status := 0 }

/-- The commands of a sequence. -/
def flattened : Command → List Command
  | .sequence first second => flattened first ++ flattened second
  | command => [command]

/-- Runs commands one after the other until something is skipped. -/
def runAll (e : Engine) (tested last : Bool) : List Command → Run Unit
  | [] => return
  | [command] => e.run command tested last
  | command :: rest => do
    e.run command tested false
    if (← Run.self).skip.isNone then runAll e tested last rest

/-- Runs a subshell. -/
def runSubshell (e : Engine) (body : Command) (redirections : List Redirection)
    (tested last : Bool) : Run Unit := do
  let targets ← Redirection.allExpanded e redirections
  let prepare : Run Unit := do
    Run.modifySelf fun s => { s with subshell := .parentheses }
    if !(← Redirection.applyAll e targets) then throw .failure
  if ← replaces last then
    prepare
    e.run body tested true
  else
    e.runJobs
    takeExit (← e.subshell prepare body tested)

/-- Runs a command with redirections. -/
def runRedirected (e : Engine) (body : Command) (redirections : List Redirection)
    (tested : Bool) : Run Unit := do
  let targets ← Redirection.allExpanded e redirections
  let before := (← Run.self).descriptors
  closing (Run.restoreDescriptors before (Redirection.touched targets)) do
    if ← Redirection.applyAll e targets then e.run body tested false
    else leaveOnFailure e tested

/-- Whether the command that a choice leads to may take the place of the process: in the extended
language it may not. -/
def through (last : Bool) : Run Bool := do
  return last && !(← Run.isExtended)

/-- A text that tells times: letters after percent signs stand for them. -/
def timeText : Nat → Octets → Octets
  | 0, cs => cs
  | fuel + 1, cs =>
    match cs with
    | [] => []
    | '%' :: '%' :: rest => '%' :: timeText fuel rest
    | '%' :: rest =>
      let digits := rest.takeWhile Char.isDigit
      let long := (rest.drop digits.length).takeWhile (· == 'l')
      let places := if digits.isEmpty then 3 else min 6 (Text.digitsValue digits)
      let fraction := if places = 0 then [] else '.' :: List.replicate places '0'
      match rest.drop (digits.length + long.length) with
      | 'P' :: after => "0.00".toList ++ timeText fuel after
      | _ :: after =>
        (if long.isEmpty then ['0'] ++ fraction else "0m0".toList ++ fraction ++ ['s']) ++
          timeText fuel after
      | [] => []
    | c :: rest => c :: timeText fuel rest

/-- Runs a command whose time is taken, and tells the time: nothing takes any. -/
def runTimed (e : Engine) (portable : Bool) (body : Command) (tested : Bool) : Run Unit := do
  e.run body tested false
  match portable, (← Run.self).value? "TIMEFORMAT" with
  | true, _ =>
    for name in ["real", "user", "sys"] do
      Run.note (name ++ " 0.00".toList)
  | false, none =>
    Run.note []
    for name in ["real", "user", "sys"] do
      Run.note (name ++ "\t0m0.000s".toList)
  | false, some form =>
    if !form.isEmpty then Run.note (timeText (form.length + 1) form)

/-- Defines a function, unless there is one that may not be changed. -/
def define (line : Nat) (name : Octets) (body : Command) : Run Unit := do
  let s ← Run.self
  let old := getKey s.functions name
  if old.any Function.fixed then
    Run.warn (name ++ ": readonly function")
    Run.setStatus 1
  else
    let f : Function :=
      { body, file := s.baseFile, line, exported := old.any Function.exported
        traced := old.any Function.traced }
    Run.modifySelf fun s => { s with functions := setKey s.functions name f, status := 0 }

/-- Refuses a name that no variable can have. -/
def refuseLoopName (name : Octets) : Run Unit := do
  Run.warn (Builtin.inMarks name ++ ": not a valid identifier")
  Run.setStatus 1

/-- Runs a command by its form. -/
def runForm (e : Engine) (tested last : Bool) : Command → Run Unit
  | .nothing => return
  | .simple line assignments words redirections => do
    atLine line
    announce e (.simple line assignments words redirections)
    runSimple e assignments words redirections tested last
    let status := (← Run.self).status
    notePipe [status]
    leaveOnFailure e tested
  | .pipeline stages => do
    runPipeline e stages tested
    leaveOnFailure e tested
  | .negated body => do
    e.run body true false
    if (← Run.self).skip.isNone then
      Run.modifySelf fun s => { s with status := if s.status = 0 then 1 else 0 }
  | .both first second => do
    e.run first true false
    let s ← Run.self
    if s.status = 0 && s.skip.isNone then e.run second tested last
  | .either first second => do
    e.run first true false
    let s ← Run.self
    if s.status ≠ 0 && s.skip.isNone then e.run second tested last
  | .sequence first second => runAll e tested last (flattened first ++ flattened second)
  | .background body => runBeside body
  | .subshell line body redirections => do
    atLine line
    runSubshell e body redirections tested last
    leaveOnFailure e tested
  | .redirected line body redirections => do
    atLine line
    runRedirected e body redirections tested
  | .choice test yes no => do
    e.run test true false
    let s ← Run.self
    if s.skip.isNone then
      if s.status = 0 then e.run yes tested (← through last)
      else
        match no with
        | .nothing => Run.setStatus 0
        | no => e.run no tested (← through last)
  | .loop untilTrue test body =>
    asLoop (runRounds e untilTrue test body tested mostRounds 0)
  | .group body => do e.run body tested (← through last)
  | .each line name words body => do
    atLine line
    let fields ← Expansion.words e words
    if !Octets.isName name then refuseLoopName name
    else asLoop (runEach e (.each line name words .nothing) name body tested 0 fields)
  | .menu line name words body => do
    atLine line
    let items ← Expansion.words e words
    if !Octets.isName name then refuseLoopName name
    else if items.isEmpty then Run.setStatus 0
    else
      Trace.show1 e (headText (.menu line name words .nothing))
      asLoop (runMenu e name items body tested mostRounds true)
  | .select line subject arms => do
    atLine line
    announce e (.select line subject [])
    Trace.show1 e (headText (.select line subject []))
    let text ← Expansion.text e subject
    runArms e text tested (← through last) false false arms
  | .define line name body => define line name body
  | .unread text => e.script { text, source := some "command substitution" }
  | .timed portable body => runTimed e portable body tested
  | .condition line test => do
    atLine line
    announce e (.condition line test)
    decideCondition e test
    leaveOnFailure e tested
  | .compute line expression => do
    atLine line
    let value ← arithmetic e expression
    Run.setStatus (if value = none || value = some 0 then 1 else 0)
    leaveOnFailure e tested
  | .count line start test step body => do
    atLine line
    if (← arithmetic e start).isNone then Run.setStatus 1
    else asLoop (runCount e test step body tested mostRounds 0)

/-- Runs a command. Actions on signals are carried out before and after it. -/
def run (e : Engine) (command : Command) (tested last : Bool) : Run Unit := do
  if ← Run.has "noexec" then return
  match command with
  | .nothing => return
  | command =>
    let before := (← Run.self).fileProcesses
    runTraps e
    runForm e tested last command
    e.closeProcesses before
    runTraps e

end Evaluation

end DocMend.Shell
