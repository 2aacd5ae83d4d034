import DocMend.Shell.Builtin.Basic
/-!
Builtins for processes: signals and the actions on them, commands that run beside the shell, and what
new files may be used for.
-/

set_option autoImplicit false
set_option relaxedAutoImplicit false

namespace DocMend.Shell

namespace Builtin

/-- The number of a signal or of another action by its number or its name. The extended language knows
names with a common beginning too. -/
def signal? (dialect : Dialect) (text : Octets) : Option Nat :=
  let upper := text.map Char.toUpper
  match dialect, Text.afterStart? "SIG".toList upper with
  | .posix, _ => Signal.number? text
  | .extended, found =>
    let name := found.getD upper
    match Signal.further.find? fun entry => entry.2 == name with
    | some (n, _) => some n
    | none => if name == "STKFLT".toList then some 16 else Signal.number? name

/-- A signal by its name, but not the end of a shell or another action. -/
def sentSignal? (dialect : Dialect) (text : Octets) : Option Nat :=
  match signal? dialect text with
  | some 0 => if Text.isDigits text then some 0 else none
  | some n => if Signal.largest < n then none else some n
  | none => none

/-- The name of a signal or of another action in a language. -/
def signalName (dialect : Dialect) (n : Nat) : Octets :=
  match dialect, Signal.further.lookup n with
  | .extended, some name => name
  | .extended, none => if n = 16 then "STKFLT" else Signal.name n
  | .posix, _ => Signal.name n

/-- The signals of the extended language in rows of five. -/
def signalRows : List Octets :=
  let shown := ((List.range (Signal.largest + 1)).filter fun n => n ≠ 0 && n ≠ 32 && n ≠ 33).map fun n =>
    (if n < 10 then [' '] else []) ++ Octets.ofNat n ++ ") SIG".toList ++ signalName .extended n
  let rows := (List.range (shown.length / 5 + 1)).map fun k => (shown.drop (5 * k)).take 5
  rows.map fun row => Text.joined ['\t'] row ++ (if row.length = 5 then [] else ['\t'])

/-- The job that a text names: by its number, or as the latest one. -/
def job? (text : Octets) : Run (Option Job) := do
  let jobs := (← Run.self).jobs
  match text with
  | '%' :: rest =>
    if Text.isDigits rest then
      let n := Text.digitsValue rest
      return if n = 0 then none else jobs[n - 1]?
    if rest.isEmpty || rest == ['%'] || rest == ['+'] then return jobs.getLast?
    return none
  | _ =>
    match Octets.decimal? text with
    | some n => return jobs.find? fun job => (job.process : Int) == n
    | none => return none

/-- Replaces a job. -/
def putJob (job : Job) : Run Unit :=
  Run.modifySelf fun s =>
    { s with
      jobs := s.jobs.map fun other => if other.process == job.process then job else other }

/-- Sends a signal to a process: whether there is such a process. -/
def sendTo (process : Int) (n : Nat) : Run Bool := do
  let s ← Run.self
  match s.jobs.find? fun job => (job.process : Int) == process with
  | some job =>
    if job.exit?.isSome then return false
    let ignored := job.start.traps.any fun t => t.1 == n && t.2.isEmpty
    if !Signal.isHarmless n && !ignored then putJob { job with exit? := some (.signal n) }
    return true
  | none =>
    if process = 0 then
      Run.sendSignal s.process n
      return true
    match (s.process :: s.ancestors).find? fun (known : Nat) => Int.ofNat known == process with
    | some known =>
      if n ≠ 0 then Run.sendSignal known n
      return true
    | none => return false

/-- How to send signals. -/
def killUsage {α : Type} : Run α := do
  if ← Run.isExtended then usage
  Run.fail ("Usage: kill [-s sigspec | -signum | -sigspec] [pid | job]... or\n" ++
    "kill -l [exitstatus]")

/-- Names a signal that is given by its number or by the status of a process that it ended; in the
extended language its number is told where its name is given. -/
def listSignal (text : Octets) : Run Nat := do
  let s ← Run.self
  let extended := s.dialect == .extended
  match extended, sentSignal? s.dialect text with
  | true, some n =>
    if !Text.isDigits text then
      Run.printLine (Octets.ofNat n)
      return 0
  | _, _ => pure ()
  if extended && !Text.isDigits text then
    Run.warn (text ++ ": invalid signal specification")
    return 1
  let n ← number text
  let n := if 128 < n then n - 128 else n
  if 0 < n && n ≤ Signal.largest then
    Run.printLine (signalName s.dialect n)
    return 0
  if extended then
    Run.warn (text ++ ": invalid signal specification")
    return 1
  Run.fail ("invalid signal number or exit status: " ++ text)

/-- Names signals: all of them, or those that are given. -/
def listSignals (texts : List Octets) : Run Nat := do
  let extended ← Run.isExtended
  match texts with
  | [] =>
    if extended then
      for row in signalRows do
        Run.printLine row
      return 0
    Run.printLine "0"
    for n in (List.range Signal.largest).map (· + 1) do
      Run.printLine (Signal.name n)
    return 0
  | texts =>
    let mut status := 0
    for text in if extended then texts else texts.take 1 do
      if (← listSignal text) ≠ 0 then status := 1
    return status

/-- Sends a signal to all processes that are named. -/
def sendToAll (n : Nat) (targets : List Octets) : Run Nat := do
  let extended ← Run.isExtended
  let mut status := 0
  for target in targets do
    let found ← match target with
      | '%' :: _ =>
        match ← job? target with
        | some job => if extended then sendTo job.process n else pure false
        | none =>
          if extended then
            Run.warn (target ++ ": no such job")
            return 1
          Run.fail ("No such job: " ++ target)
      | target =>
        let (negative, digits) := match target with
          | '-' :: rest => (true, rest)
          | rest => (false, rest)
        if extended && (Octets.decimal? target).isNone then
          Run.warn (target ++ ": arguments must be process or job IDs")
          status := 1
          continue
        let process ← number digits
        sendTo (if negative then -(process : Int) else process) n
    if !found then
      if extended then Run.warn ("(" ++ target ++ ") - No such process")
      else Run.warn "No such process\n"
      status := 1
  return status

/-- The builtin that sends signals. -/
def kill : Builtin := fun _ arguments => do
  let s ← Run.self
  let extended := s.dialect == .extended
  let send (signal : Option Nat) (targets : List Octets) : Run Nat := do
    if targets.isEmpty then killUsage
    sendToAll (signal.getD 15) targets
  match arguments with
  | [] => killUsage
  | ('-' :: text) :: rest =>
    match sentSignal? s.dialect text with
    | some n =>
      let rest := match extended, rest with
        | true, ['-', '-'] :: rest => rest
        | _, rest => rest
      send (some n) rest
    | none =>
      if extended then
        match text, rest with
        | ['-'], rest => send none rest
        | ['l'], rest => listSignals rest
        | ['L'], rest => listSignals rest
        | [c], name :: rest =>
          if c == 's' || c == 'n' then
            match sentSignal? s.dialect name with
            | some n => send (some n) rest
            | none =>
              Run.warn (name ++ ": invalid signal specification")
              return 1
          else
            Run.warn ([c] ++ ": invalid signal specification")
            return 1
        | text, _ =>
          Run.warn (text ++ ": invalid signal specification")
          return 1
      else
        let (flags, rest) ← flags "ls:" arguments
        let signal ← match argument? flags 's' with
          | some name =>
            match sentSignal? s.dialect name with
            | some n => pure (some n)
            | none => Run.fail ("invalid signal number or name: " ++ name)
          | none => pure none
        if given flags 'l' then
          if signal.isSome then killUsage
          listSignals rest
        else send signal rest
  | rest => send none rest

/-- The name of a signal in a list of actions. -/
def listedName (dialect : Dialect) (n : Nat) : Octets :=
  if dialect == .extended && n ≠ 0 && n ≤ Signal.largest then "SIG" ++ signalName dialect n
  else signalName dialect n

/-- Lists the actions on signals that are chosen. -/
def listTraps (isChosen : Nat → Bool) : Run Unit := do
  let s ← Run.self
  let quote := if s.dialect == .extended then Quoting.single else Octets.quoted
  for (n, action) in s.traps.mergeSort fun a b => a.1 ≤ b.1 do
    if isChosen n then
      Run.printLine ("trap -- " ++ quote action ++ [' '] ++ listedName s.dialect n)

/-- Lists the actions on signals that are named. -/
def listNamedTraps (names : List Octets) : Run Nat := do
  let mut status := 0
  for name in names do
    match signal? .extended name with
    | some n => listTraps fun m => m == n
    | none =>
      Run.warn (name ++ ": invalid signal specification")
      status := 1
  return status

/-- Sets or resets the action on signals. -/
def setTraps (action : Option Octets) (names : List Octets) : Run Nat := do
  let dialect := (← Run.self).dialect
  let mut status := 0
  for name in names do
    match signal? dialect name with
    | some n =>
      Run.modifySelf fun s =>
        let others := s.traps.filter fun t => t.1 != n
        { s with traps := match action with
            | some action => (n, action) :: others
            | none => others }
    | none =>
      if dialect == .extended then
        Run.warn (name ++ ": invalid signal specification")
        status := 1
      else
        Run.note ("trap: " ++ name ++ ": bad trap")
        return 1
  return status

/-- The builtin that sets actions on signals. -/
def trap : Builtin := fun _ arguments => do
  let extended ← Run.isExtended
  let (flags, rest) ← flags (if extended then "lp" else "") arguments
  if given flags 'l' then listSignals []
  else if given flags 'p' && !rest.isEmpty then listNamedTraps rest
  else
    match rest with
    | [] =>
      listTraps fun _ => true
      return 0
    | [name] =>
      if extended && (signal? .extended name).isNone then usage
      setTraps none [name]
    | first :: names =>
      if Text.isDigits first && (Signal.number? first).isSome then setTraps none (first :: names)
      else setTraps (if first == ['-'] then none else some first) names

/-- The status of a job that is over. -/
def statusOf (job : Job) : Nat :=
  (job.exit?.map Exit.code).getD 0

/-- The builtin that waits for jobs. -/
def wait : Builtin := fun e arguments => do
  let extended ← Run.isExtended
  let (_, names) ← flags (if extended then "fnp:" else "") arguments
  if names.isEmpty then
    e.runJobs
    if extended then Run.modifySelf fun s => { s with jobs := [] }
    return 0
  let mut status := 0
  for name in names do
    let isJob := name.head? = some '%'
    if !isJob then
      if extended then
        if (Octets.decimal? name).isNone then
          Run.warn (inMarks name ++ ": not a pid or valid job spec")
          return 1
      else
        let _ ← number name
    e.runJobs
    match ← job? name with
    | some job =>
      match job.exit? with
      | some exit => if (← Run.self).process != job.process then Run.reportSignal exit
      | none => pure ()
      status := statusOf job
    | none =>
      if extended then
        Run.warn (if isJob then name ++ ": no such job"
          else "pid " ++ name ++ " is not a child of this shell")
      else if isJob then Run.fail ("No such job: " ++ name)
      status := 127
  return status

/-- Says that there is no job of the first of some names. -/
def refuseJob (names : List Octets) : Run Unit := do
  match names with
  | name :: _ => Run.fail ("No such job: " ++ name)
  | [] => return

/-- The state of a job in words. -/
def jobState (job : Job) : Octets :=
  match job.exit? with
  | none => "Running"
  | some (.status 0) => "Done"
  | some (.status n) => "Done(" ++ Octets.ofNat n ++ [')']
  | some (.signal n) => (Signal.description n).toList

/-- The line for a job in a list: its number, a mark for the two latest ones, its process where that is
asked for, its state, and in the extended language its commands. -/
def jobLine (s : Interpreter) (shows : Bool) (n : Nat) (job : Job) : Octets :=
  let count := s.jobs.length
  let mark := if n = count then '+' else if n + 1 = count then '-' else ' '
  let state := jobState job
  let padded := state ++ List.replicate ((if s.dialect == .extended then 24 else 27) - state.length) ' '
  let process : Octets := if shows then Octets.ofNat job.process ++ [' '] else []
  match s.dialect with
  | .posix => ['['] ++ Octets.ofNat n ++ [']', ' ', mark, ' '] ++ process ++ padded
  | .extended =>
    ['['] ++ Octets.ofNat n ++ [']', mark, ' '] ++ (if shows then process else [' ']) ++ padded ++
      Layout.inLine s.documents job.body ++ [' ', '&']

/-- The builtin that lists jobs, the latest first in the POSIX language. That one lists jobs that are
over too, and forgets them. -/
def listJobs : Builtin := fun _ arguments => do
  let extended ← Run.isExtended
  let (flags, names) ← flags (if extended then "lnprsx" else "lp") arguments
  let s ← Run.self
  if !extended && s.jobs.isEmpty then refuseJob names
  let mut status := 0
  let mut asked : List Nat := []
  for name in names do
    match ← job? name with
    | some job => asked := asked ++ [job.process]
    | none =>
      if extended then
        Run.warn (name ++ ": no such job")
        status := 1
  let numbered := (List.range s.jobs.length).zip s.jobs
  let shown := numbered.filter fun (_, job) =>
    (names.isEmpty || asked.contains job.process) && (!extended || job.exit?.isNone)
  for (n, job) in if extended then shown else shown.reverse do
    if given flags 'p' then Run.printLine (Octets.ofNat job.process)
    else Run.printLine (jobLine s (given flags 'l') (n + 1) job)
  if !extended && !shown.isEmpty then
    Run.modifySelf fun s => { s with jobs := s.jobs.filter fun job => job.exit?.isNone }
  return status

/-- The builtins that bring jobs back, which needs control over jobs. -/
def resume : Builtin := fun _ arguments => do
  if ← Run.isExtended then
    Run.warn "no job control"
    return 1
  let (_, names) ← flags "" arguments
  if (← Run.self).jobs.isEmpty then
    refuseJob names
    Run.fail "No current job"
  Run.fail "job not created under job control"

/-- The builtin that tells times. -/
def times : Builtin := fun _ _ => do
  let zero : Octets := if ← Run.isExtended then "0m0.000s 0m0.000s" else "0m0.000000s 0m0.000000s"
  Run.printLine zero
  Run.printLine zero
  return 0

/-- The rights in three bits, as letters. -/
def rights (bits : Nat) : Octets :=
  (if bits / 4 % 2 = 1 then ['r'] else []) ++ (if bits / 2 % 2 = 1 then ['w'] else []) ++
    (if bits % 2 = 1 then ['x'] else [])

/-- The bits of rights as letters. -/
def bitsOf (letters : Octets) : Nat :=
  (if letters.contains 'r' then 4 else 0) + (if letters.contains 'w' then 2 else 0) +
    (if letters.contains 'x' || letters.contains 'X' then 1 else 0)

/-- Applies changes such as +r-w to the rights of some: of the user, the group, the others, or all of
them. Letters for rights stand after each sign, or one of the three whose rights are taken over. -/
def applyChanges (who : Octets) : Nat → Nat → Octets → Option Nat
  | 0, mode, _ => some mode
  | fuel + 1, mode, changes =>
    match changes with
    | [] => some mode
    | sign :: rest =>
      let isRight (c : Char) : Bool := "rwxXs".toList.contains c
      let isOwner (c : Char) : Bool := "ugo".toList.contains c
      let letters := rest.takeWhile isRight
      let owner := if letters.isEmpty then (rest.take 1).filter isOwner else []
      let mayRun := mode &&& 73 ≠ 0
      let runLetters := if mayRun then letters else letters.filter (· ≠ 'X')
      let bits := match owner with
        | ['u'] => mode / 64 % 8
        | ['g'] => mode / 8 % 8
        | ['o'] => mode % 8
        | _ => bitsOf runLetters
      let concerns (c : Char) : Bool := who.isEmpty || who.contains 'a' || who.contains c
      let change (c : Char) (old : Nat) : Nat :=
        if !concerns c then old
        else if sign == '=' then bits
        else if sign == '+' then old ||| bits
        else old &&& (7 - bits)
      if sign == '=' || sign == '+' || sign == '-' then
        let changed := change 'u' (mode / 64 % 8) * 64 + change 'g' (mode / 8 % 8) * 8 +
          change 'o' (mode % 8)
        applyChanges who fuel changed (rest.drop (letters.length + owner.length))
      else none

/-- The letters at the beginning of a clause that say whose rights change. -/
def ownersOf (clause : Octets) : Octets :=
  clause.takeWhile fun c => c == 'u' || c == 'g' || c == 'o' || c == 'a'

/-- Applies clauses such as u=rw and go-w to rights. The last one may be empty, or change nothing. -/
def applyClauses (mode : Nat) : List Octets → Option Nat
  | [] => some mode
  | [last] =>
    let who := ownersOf last
    applyChanges who (last.length + 1) mode (last.drop who.length)
  | clause :: rest =>
    let who := ownersOf clause
    let changes := clause.drop who.length
    if changes.isEmpty then none
    else (applyChanges who (changes.length + 1) mode changes).bind (applyClauses · rest)

/-- What is wrong with clauses of rights in the extended language. -/
inductive RightsFault where
  | wrongOperator (c : Char)
  | wrongLetter (c : Char)
deriving DecidableEq, Repr

/-- The text of a complaint about clauses of rights. -/
def RightsFault.text : RightsFault → Octets
  | .wrongOperator c => inMarks [c] ++ ": invalid symbolic mode operator"
  | .wrongLetter c => inMarks [c] ++ ": invalid symbolic mode character"

/-- Applies clauses of the extended language, each of them with one sign and with plain letters. -/
def applyPlainClauses (mode : Nat) : List Octets → Except RightsFault Nat
  | [] => .ok mode
  | clause :: rest =>
    let who := ownersOf clause
    match clause.drop who.length with
    | [] => .error (.wrongOperator (if rest.isEmpty then '\x00' else ','))
    | sign :: letters =>
      if sign != '=' && sign != '+' && sign != '-' then .error (.wrongOperator sign)
      else
        match letters.filter fun c => c != 'r' && c != 'w' && c != 'x' with
        | [] => applyPlainClauses ((applyChanges who 2 mode (sign :: letters)).getD mode) rest
        | c :: _ => .error (.wrongLetter c)

/-- The builtin that says what new files may not be used for. -/
def mask : Builtin := fun _ arguments => do
  let extended ← Run.isExtended
  let (flags, rest) ← flags (if extended then "pS" else "S") arguments
  let value := (← Run.self).mask
  match rest with
  | [] =>
    if given flags 'S' then
      let allowed := 511 - value
      Run.printLine ("u=" ++ rights (allowed / 64 % 8) ++ ",g=" ++ rights (allowed / 8 % 8) ++ ",o=" ++
        rights (allowed % 8))
    else
      let digits := Nat.toDigits 8 value
      let first : Octets := if given flags 'p' then "umask " else []
      Run.printLine (first ++ List.replicate (4 - digits.length) '0' ++ digits)
    return 0
  | text :: _ =>
    let clauses := Text.pieces ',' text
    if text.head?.any Char.isDigit then
      let mask := Octets.valueIn 8 text
      let isOctal := text.all fun c => '0' ≤ c && c ≤ '7'
      if isOctal && (!extended || mask < 4096) then
        Run.modifySelf fun s => { s with mask := mask % 512 }
        return 0
      if extended then
        Run.warn (text ++ ": octal number out of range")
        return 1
      Run.fail ("Illegal number: " ++ text)
    else if extended then
      match applyPlainClauses (511 - value) clauses with
      | .ok mode =>
        Run.modifySelf fun s => { s with mask := 511 - mode }
        return 0
      | .error fault =>
        Run.warn fault.text
        return 1
    else
      match applyClauses (511 - value) clauses with
      | some mode =>
        Run.modifySelf fun s => { s with mask := 511 - mode }
        return 0
      | none => Run.fail ("Illegal mode: " ++ text)

/-- The builtin that tells limits, of which there are none. -/
def limits : Builtin := fun _ arguments => do
  let (_, values) ← flags "HSatfdsmcnlpvwr" arguments
  match values with
  | [] => Run.printLine "unlimited"
  | [value] =>
    if !Text.isDigits value && value ≠ "unlimited".toList then Run.fail "bad number"
  | _ => Run.fail "too many arguments"
  return 0

end Builtin

end DocMend.Shell
