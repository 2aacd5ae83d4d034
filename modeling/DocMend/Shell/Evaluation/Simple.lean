import DocMend.Shell.Builtin.Table
import DocMend.Shell.Evaluation.Assigning
import DocMend.Shell.Evaluation.Heading
import DocMend.Shell.Trace
/-!
Simple commands: words and redirections are expanded, redirections are carried out, assignments are
made, and the builtin, function or program is run.
-/

set_option autoImplicit false
set_option relaxedAutoImplicit false

namespace DocMend.Shell

namespace Evaluation

/-- Runs a builtin. Its errors end the script only if it is special. -/
def runBuiltin (e : Engine) (special tested : Bool) (name : Octets) (arguments : List Octets) :
    Run Unit := do
  match Builtin.of? tested name with
  | none => return
  | some builtin =>
    let before := (← Run.self).command
    Run.modifySelf fun s => { s with command := some name, writeFailed := false }
    let restore : Run Unit := Run.modifySelf fun s => { s with command := before }
    try
      let status ← builtin e arguments
      if (← Run.self).writeFailed then
        Run.modifySelf fun s => { s with command := some name, writeFailed := false }
        Run.warnIn (name ++ ": I/O error") "write error: Bad file descriptor"
        Run.setStatus (status ||| 1)
      else Run.setStatus status
      restore
    catch r =>
      restore
      match r with
      | .failure => if special && !(← Run.isExtended) then throw .failure
      | r => throw r

/-- How many functions may be at work inside each other in the POSIX language. -/
def deepestFunction : Nat := 1000

/-- Whether a function keeps an action that is not on a signal. -/
def keepsAction (f : Function) (s : Interpreter) (n : Nat) : Bool :=
  if n = Signal.failure then s.options.contains "errtrace"
  else if n = Signal.command || n = Signal.conclusion then
    f.traced || s.options.contains "functrace"
  else true

/-- Runs a function. -/
def callFunction (e : Engine) (name : Octets) (f : Function) (arguments : List Octets)
    (tested : Bool) : Run Unit := do
  let before ← Run.self
  let isPosix := before.dialect == .posix
  if isPosix && deepestFunction ≤ before.functionDepth then
    Run.fail ("Maximum function recursion depth (" ++ Octets.ofNat deepestFunction ++ ") reached")
  let (kept, hidden) := before.traps.partition fun t => keepsAction f before t.1
  Run.modifySelf fun s =>
    { s with
      parameters := arguments, loops := 0, traps := kept
      functionDepth := s.functionDepth + 1
      frames := if isPosix then s.frames else ⟨name, f.file, s.line, true⟩ :: s.frames
      optionIndex := if isPosix then 1 else s.optionIndex
      optionOffset := if isPosix then 0 else s.optionOffset }
  let restore : Run Unit := Run.modifySelf fun s =>
    { s with
      parameters := before.parameters, loops := before.loops, frames := before.frames
      functionDepth := before.functionDepth
      traps := s.traps ++ hidden.filter fun t => !s.traps.any fun other => other.1 == t.1
      line := if isPosix then s.line else before.line
      optionIndex := if isPosix then before.optionIndex else s.optionIndex
      optionOffset := if isPosix then before.optionOffset else s.optionOffset
      skip := match s.skip with
        | some (.function _) => none
        | skip => skip }
  closing restore (do
    e.run f.body tested false
    if !isPosix && (← Run.self).traps.any (fun t => t.1 == Signal.conclusion) then
      let skip := (← Run.self).skip
      Run.modifySelf fun s => { s with skip := none }
      e.runAction Signal.conclusion
      Run.modifySelf fun s => { s with skip })

/-- The place of a program from the root of all folders. -/
def fullPlace (place : Octets) : Run Octets := do
  match place with
  | '/' :: _ => return place
  | _ =>
    let rest := if place.take 2 == ['.', '/'] then place.drop 2 else place
    let folder := Octets.ofText (← Run.self).route.text
    return (if folder == ['/'] then folder else folder ++ ['/']) ++ rest

/-- Lets a program take the place of a shell of the extended language. The answer is the status where it
cannot be run: a second complaint tells most of the reasons. -/
def becomeCalled (e : Engine) (name : Octets) (words : List Octets) : Run Nat := do
  match ← Run.place? name with
  | none =>
    if (← Run.node? name) == some .folder then
      Run.warn (name ++ ": cannot execute: " ++ Refusal.isFolder.text)
      return 126
    Run.warn (name ++ ": not found")
    return 127
  | some place =>
    let place ← fullPlace place
    let isEmpty := (← Run.plainText? place).any List.isEmpty
    let refusal ← if isEmpty then pure .notExecutable else Run.attempt e place words
    Run.modifySelf fun s => { s with command := none }
    let status ← if isEmpty then pure 0 else Run.refuseProgram name place refusal
    match refusal with
    | .missing => pure ()
    | .notExecutable => Run.warn (place ++ ": Success")
    | refusal => Run.warn ("exec: " ++ place ++ ": cannot execute: " ++ refusal.text)
    return status

/-- Lets the program that is named take the place of the shell. In the extended language options give
it another name, or a name that begins with a hyphen, or take its environment away. -/
def replaceShell (e : Engine) (words : List Octets) : Run Unit := do
  let before := (← Run.self).command
  Run.modifySelf fun s => { s with command := some "exec" }
  let extended ← Run.isExtended
  let (flags, words) ← if !extended then pure ([], words) else
    try Builtin.flags "cla:" words
    catch _ =>
      Run.modifySelf fun s => { s with command := before }
      return
  match words with
  | [] =>
    Run.modifySelf fun s => { s with command := before }
    Run.setStatus 0
  | name :: arguments =>
    if extended then
      let s ← Run.self
      if Builtin.given flags 'c' then
        Run.modifySelf fun s =>
          { s with
            vars := s.vars.map fun (name, v) => (name, { v with exported := false })
            functions := s.functions.map fun (name, f) => (name, { f with exported := false }) }
      else if s.subshell != .parentheses then
        Run.modifySelf fun s => (s.releveled (-1)).1
      let called := (Builtin.argument? flags 'a').getD name
      let called := if Builtin.given flags 'l' then '-' :: called else called
      let status ← becomeCalled e name (called :: arguments)
      if s.depth = 0 && (s.options.contains "execfail") then
        Run.modifySelf fun _ => { s with command := before, status }
        return
      Run.leaveWith status
    match ← Run.place? name with
    | some place => Run.becomeProgram e name place words
    | none =>
      if (← Run.obstacle? name).isSome then
        Run.warn (name ++ ": " ++ Refusal.permission.text)
        Run.leaveWith 126
      Run.warn (name ++ ": not found")
      Run.leaveWith 127

/-- Says that there is no command of a name. -/
def refuseCommand (name : Octets) : Run Unit := do
  if ← Run.isExtended then Run.warn (Quoting.fileName name ++ ": command not found")
  else if (← Run.obstacle? name).isSome then Run.warn (name ++ ": " ++ Refusal.permission.text)
  else Run.warn (name ++ ": not found")
  Run.setStatus 127

/-- Notes in the environment of a program of the extended language where it is. -/
def withPlace (place : Octets) (s : Interpreter) : Interpreter :=
  if s.dialect == .extended then
    { s with vars := setKey s.vars ['_'] (.ofText place true) }
  else s

/-- Runs what a command name leads to. -/
def invoke (e : Engine) (h : Heading) (found : Found) (tested last : Bool) : Run Unit := do
  let words := h.fields.drop h.skipped
  let name := h.name
  let arguments := words.drop 1
  match found with
  | .missing => refuseCommand name
  | .function f => callFunction e name f arguments tested
  | .builtin _ =>
    if name == "exec".toList then replaceShell e arguments
    else runBuiltin e (h.special == some true) tested name arguments
  | .program place =>
    Run.remember name place
    if ← replaces last then
      let isStage := (← Run.self).subshell == .stage
      Run.modifySelf fun s =>
        let s := withPlace place s
        if s.dialect == .extended && !isStage then (s.releveled (-1)).1 else s
      Run.becomeProgram e name place words
    else
      e.runJobs
      takeExit (← Run.child (withPlace place) (Run.becomeProgram e name place words))

/-- Notes the last field of a command in the variable that has it for the next one. -/
def noteLast (fields : List Octets) : Run Unit := do
  if ← Run.isExtended then
    Run.modifySelf fun s =>
      { s with vars := setKey s.vars ['_'] (.ofText (fields.getLast?.getD [])) }

/-- Runs a simple command. -/
def runSimple (e : Engine) (assignments words : List Word) (redirections : List Redirection)
    (tested last : Bool) : Run Unit := do
  Run.modifySelf fun s => { s with substituted := 0 }
  let extended ← Run.isExtended
  let h ← Heading.ofWords e words
  let isNull := h.fields.isEmpty
  let isSpecial := h.special == some true && !extended
  let isExec := h.name == "exec".toList && !isNull && h.special == some true
  let before ← Run.self
  let channel ← Run.channel? 2
  let targets ← Redirection.allExpanded e redirections
  let found ← if isNull then pure .missing else h.find
  let isFunction := match found with
    | .function _ => true
    | _ => false
  let isOwn := !isNull && !isSpecial
  let body : Run Unit := do
    if !(← Redirection.applyAll e targets) then
      if isSpecial then throw .failure
      return
    let exports := isOwn || isExec && 1 < h.fields.length - h.skipped
    let assigned ← assignAll e channel isOwn exports assignments
    if !isNull || !assigned.isEmpty then Trace.command e channel assigned h.fields
    if isNull then
      Run.setStatus (← Run.self).substituted
      noteLast []
    else
      noteLast h.fields
      invoke e h found tested last
  let hasLayer := isOwn && (!extended || isFunction || !assignments.isEmpty)
  let whole := if hasLayer then Run.inLayer isFunction body else body
  let keeps := isExec && h.fields.length = h.skipped + 1
  if keeps then whole
  else closing (Run.restoreDescriptors before.descriptors (Redirection.touched targets)) whole

end Evaluation

end DocMend.Shell
