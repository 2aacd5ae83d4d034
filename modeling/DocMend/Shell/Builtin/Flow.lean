import DocMend.Shell.Builtin.Basic
import DocMend.Shell.Expansion
import DocMend.Shell.Lookup
import DocMend.Shell.Print.Format
/-!
Builtins that print, that leave loops, functions and the shell, and that read further scripts.
-/

set_option autoImplicit false
set_option relaxedAutoImplicit false

namespace DocMend.Shell

namespace Builtin

/-- The builtin that does nothing, with a given status. -/
def nothing (status : Nat) : Builtin := fun _ _ => return status

/-- The builtin that prints its arguments. -/
def echo : Builtin := fun _ arguments => do
  Run.print (if ← Run.isExtended then extendedEcho arguments else posixEcho arguments)
  return 0

/-- Prints arguments by a format. -/
def printBy (format : Octets) (arguments : List Octets) (store : Octets → Run Unit) : Run Nat := do
  let dialect := (← Run.self).dialect
  let printed := Shell.printed { dialect, now := (← Run.machine).now } format arguments
  let describe := if dialect == .extended then PrintFault.extendedText else PrintFault.posixText
  let (before, last) : List PrintFault × Option PrintFault :=
    if printed.fatal then (printed.complaints.dropLast, printed.complaints.getLast?)
    else (printed.complaints, none)
  for fault in before do
    Run.warn (describe fault)
  store printed.output
  match last with
  | some fault => Run.fail (describe fault)
  | none => return if printed.complaints.any (PrintFault.counts dialect) then 1 else 0

/-- The builtin that prints by a format, or into a variable in the extended language. -/
def printf : Builtin := fun e arguments => do
  let extended ← Run.isExtended
  let (flags, rest) ← flags (if extended then "v:" else "") arguments
  match argument? flags 'v' with
  | some name =>
    if !Octets.isName (splitElement name).1 then
      Run.warn (inMarks name ++ ": not a valid identifier")
      return 2
  | none => pure ()
  match rest with
  | [] =>
    if extended then usage
    Run.fail "usage: printf format [arg ...]"
  | format :: rest =>
    match argument? flags 'v' with
    | some name =>
      let name ← Expansion.indexed e name
      printBy format rest fun text => Run.assign name (text.filter (· ≠ '\x00'))
    | none => printBy format rest Run.print

/-- The number of loops that a command leaves. -/
def loopCount (arguments : List Octets) : Run (Option Nat) := do
  match arguments with
  | [] => return some 1
  | text :: _ =>
    if ← Run.isExtended then
      match Octets.decimal? text with
      | some n =>
        if n ≤ 0 then
          Run.warn (text ++ ": loop count out of range")
          return none
        return some n.toNat
      | none =>
        Run.warn (text ++ ": numeric argument required")
        Run.setStatus 128
        throw .exit
    let n ← number text
    if n = 0 then refuseNumber text
    return some n

/-- Leaves loops, or goes on with the next round of one. -/
def leaveLoops (skip : Nat → Skip) : Builtin := fun _ arguments => do
  let s ← Run.self
  if s.dialect == .extended && s.loops = 0 then
    Run.warn "only meaningful in a \x60for\x27, \x60while\x27, or \x60until\x27 loop"
    return 0
  match ← loopCount arguments with
  | some n =>
    let n := min n s.loops
    if n ≠ 0 then Run.modifySelf fun s => { s with skip := some (skip n) }
    return 0
  | none =>
    Run.modifySelf fun s => { s with skip := some (.leave s.loops) }
    return 1

/-- The builtin that leaves a function or a script. -/
def leaveFunction : Builtin := fun _ arguments => do
  let s ← Run.self
  let skip (asked : Bool) : Run Unit :=
    Run.modifySelf fun s => { s with skip := some (.function asked) }
  if s.dialect == .extended then
    if s.frames.isEmpty then
      Run.warn "can only \x60return\x27 from a function or sourced script"
      return 2
    match arguments with
    | [] =>
      skip false
      return s.status
    | [text] =>
      skip true
      match Octets.decimal? text with
      | some n => return (n % 256).toNat
      | none =>
        Run.warn (text ++ ": numeric argument required")
        return 2
    | _ =>
      Run.warn "too many arguments"
      Run.setStatus 1
      throw .failure
  else
    match arguments with
    | [] =>
      skip false
      return s.status
    | text :: _ =>
      let n ← number text
      skip true
      return n

/-- The builtin that leaves the shell. -/
def leaveShell : Builtin := fun _ arguments => do
  let s ← Run.self
  let extended := s.dialect == .extended
  match arguments with
  | [] => Run.setStatus (s.held.getD s.status)
  | text :: rest =>
    if extended then
      match Octets.decimal? text with
      | some n =>
        if !rest.isEmpty then
          Run.warn "too many arguments"
          return 1
        Run.setStatus (n % 256).toNat
      | none =>
        Run.warn (text ++ ": numeric argument required")
        Run.setStatus 2
    else Run.setStatus (← number text)
  throw .exit

/-- Reads its arguments as a script. -/
def evaluateText (tested : Bool) : Builtin := fun e arguments => do
  let (_, arguments) ← if ← Run.isExtended then flags "" arguments else pure ([], arguments)
  e.script { text := Text.joined [' '] arguments, tested }
  return (← Run.self).status

/-- The place of a script that is read by its name. -/
def scriptPlace? (name : Octets) : Run (Option Octets) := do
  if name.contains '/' then return some name
  let s ← Run.self
  let m ← Run.machine
  let folders := Text.pieces ':' (s.text "PATH")
  let places := folders.map fun folder => if folder.isEmpty then name else folder ++ ['/'] ++ name
  let isFile (place : Octets) : Bool := m.isFile (Path.resolve s.folder (Octets.toText place))
  match places.find? isFile with
  | some place => return some place
  | none => return if s.dialect == .extended then some name else none

/-- The builtin that reads a script from a file. -/
def readScript : Builtin := fun e arguments => do
  let extended ← Run.isExtended
  let (_, arguments) ← flags "" arguments
  match arguments with
  | [] =>
    if extended then
      Run.warn "filename argument required"
      usage
    return 0
  | name :: rest =>
    match ← scriptPlace? name with
    | none => Run.fail (name ++ ": not found")
    | some place =>
      let text : Octets ← match ← Run.openName place { reads := true } with
        | .ok index =>
          match (← Run.machine).available index with
          | .ok text =>
            Run.modifyMachine fun m => m.consume index text.length
            pure text
          | .error _ =>
            if extended then
              Run.warn (name ++ ": is a directory")
              return 1
            pure []
        | .error refusal =>
          if extended then
            let builtin := (← Run.self).command
            Run.modifySelf fun s => { s with command := none }
            Run.warn (name ++ ": " ++ refusal.text)
            Run.modifySelf fun s => { s with command := builtin }
            return 1
          let isAbsent := refusal = .missing || refusal = .notFolder
          Run.fail ("cannot open " ++ place ++ ": " ++
            (if isAbsent then "No such file" else refusal.text))
      let before ← Run.self
      let arguments := if extended && !rest.isEmpty then rest else before.parameters
      if extended then
        Run.modifySelf fun s =>
          { s with
            frames := ⟨"source", place, s.line, false⟩ :: s.frames, parameters := arguments
            command := none }
      else Run.modifySelf fun s => { s with command := some place }
      let restore : Run Unit := Run.modifySelf fun s =>
        { s with
          frames := before.frames, command := before.command
          parameters := if extended && !rest.isEmpty then before.parameters else s.parameters
          skip := match s.skip with
            | some (.function _) => none
            | skip => skip }
      try
        e.script { text := text.withoutZeros, isFile := true }
        e.runAction Signal.conclusion
        restore
      catch r =>
        restore
        throw r
      return (← Run.self).status

end Builtin

end DocMend.Shell
