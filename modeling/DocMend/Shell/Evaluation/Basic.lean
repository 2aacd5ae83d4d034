import DocMend.Shell.Execute
/-!
What surrounds every command: actions on signals that were caught, and leaving the shell after a
failure. A tested command is one whose failure is looked at, and a last one may take the place of the
process.
-/

set_option autoImplicit false
set_option relaxedAutoImplicit false

namespace DocMend.Shell

namespace Evaluation

/-- Carries out the actions on signals that were caught, the lowest number first. The status stays as
it was, unless an action returns with one. -/
def runTraps (e : Engine) : Run Unit := do
  let s ← Run.self
  if s.caught.isEmpty then return
  let status := s.held.getD s.status
  Run.modifySelf fun s => { s with held := some status }
  for n in List.range (Signal.largest + 1) do
    let now ← Run.self
    if now.skip.isNone && now.caught.contains n then
      Run.modifySelf fun s => { s with caught := s.caught.filter (· != n) }
      match now.traps.find? fun t => t.1 == n with
      | some (_, action) =>
        e.script { text := action, source := some "trap" }
        if (← Run.self).skip ≠ some (.function true) then Run.setStatus status
      | none => pure ()
  Run.modifySelf fun now => { now with held := s.held }

/-- Carries out the action on a failure that nobody looks at, and leaves the shell after it where this
is asked for. -/
def leaveOnFailure (e : Engine) (tested : Bool) : Run Unit := do
  let s ← Run.self
  if !tested && s.status ≠ 0 then
    e.runAction Signal.failure
    if s.options.contains "errexit" then throw .exit

/-- Notes a command before it is run, and carries out the action before every command. -/
def announce (e : Engine) (command : Command) : Run Unit := do
  let s ← Run.self
  if s.dialect == .extended && !s.inAction then
    Run.modifySelf fun s => { s with running := command }
    e.runAction Signal.command

/-- Notes the line of a command. -/
def atLine (line : Nat) : Run Unit :=
  Run.modifySelf fun s => { s with line }

/-- Whether a command may take the place of the process: nothing has to be done after it. -/
def replaces (last : Bool) : Run Bool :=
  return last && !(← Run.self).traps.any fun t => !t.2.isEmpty

/-- Waits for a child that was run, and takes its status. -/
def takeExit (exit : Exit) : Run Unit := do
  Run.reportSignal exit
  Run.setStatus exit.code

/-- Runs a computation, and another one after it however it ends. -/
def closing {α : Type} (after : Run Unit) (body : Run α) : Run α := do
  try
    let value ← body
    after
    return value
  catch r =>
    after
    throw r

end Evaluation

end DocMend.Shell
