import DocMend.Shell.Builtin.Test
import DocMend.Shell.Filing
import DocMend.Shell.Lookup
import DocMend.Shell.Print.Format
import DocMend.Shell.Tool.Numbers
/-!
Tools that tell something about the system and the environment, and tools that run others: in another
environment, or for a time only.
-/

set_option autoImplicit false
set_option relaxedAutoImplicit false

namespace DocMend.Shell.Tool

/-- Prints its arguments. -/
def echo : Tool := fun arguments => do
  if arguments == ["--help".toList] then
    Run.print (helpOf "echo")
    return 0
  if arguments == ["--version".toList] then
    Run.print (versionOf "echo")
    return 0
  Run.print (extendedEcho arguments)
  return 0

/-- What the printing tool says of a fault. -/
def printFault : PrintFault → Octets
  | .noNumber argument => marked argument ++ ": expected a numeric value"
  | .partly argument => marked argument ++ ": value not completely converted"
  | .outOfRange argument => marked argument ++ ": Numerical result out of range"
  | .noConversion source _ => source ++ ": invalid conversion specification"
  | .incomplete source => source ++ ": invalid conversion specification"
  | .tooWide => "write error: Value too large for defined data type"
  | .noTime _ => "%(: invalid conversion specification"

/-- A format up to the escape that ends the printing, and whether there is one. -/
def upToEnd : Octets → Octets × Bool
  | [] => ([], false)
  | '\\' :: 'c' :: _ => ([], true)
  | '\\' :: c :: rest =>
    let (before, ends) := upToEnd rest
    ('\\' :: c :: before, ends)
  | c :: rest =>
    let (before, ends) := upToEnd rest
    (c :: before, ends)

/-- Whether a format takes arguments. -/
def takesArguments : Octets → Bool
  | '%' :: '%' :: rest => takesArguments rest
  | '%' :: _ => true
  | _ :: rest => takesArguments rest
  | [] => false

/-- Prints its arguments by a format. -/
def printf : Tool := fun arguments => do
  let arguments := match arguments with
    | ['-', '-'] :: rest => rest
    | rest => rest
  match arguments with
  | [] => refuse "printf" 1 "missing operand"
  | format :: rest =>
    let (format, ends) := upToEnd format
    let printed := Shell.printed { dialect := .extended, quote := shownName } format
      (if ends && !takesArguments format then [] else rest)
    Run.print printed.output
    for fault in printed.complaints do
      complain "printf" (printFault fault)
    if !takesArguments format && !ends then
      match rest with
      | [] => pure ()
      | first :: _ =>
        complain "printf" ("warning: ignoring excess arguments, starting with " ++ shownName first)
    return if printed.complaints.isEmpty then 0 else 1

/-- Prints the working folder. -/
def pwd : Tool := fun arguments => do
  let _ ← options "pwd" 1 { letters := "LP", names := ["logical=L", "physical=P"] } arguments
  Run.printLine (Octets.ofText (← Run.self).folder.text)
  return 0

/-- Prints all variables of the environment. -/
def printAll (finish : Char) : Run Unit := do
  for (name, value) in (← Run.self).environment do
    Run.print (name ++ ['='] ++ value ++ [finish])

/-- Prints the values of variables of the environment, or all variables. -/
def printenv : Tool := fun arguments => do
  let (given, names) ← options "printenv" 2
    { letters := "0", names := ["null=0"], leading := true } arguments
  let finish := if has given "0" then '\x00' else '\n'
  let environment := (← Run.self).environment
  if names.isEmpty then
    printAll finish
    return 0
  let mut status := 0
  for name in names do
    match environment.find? fun entry => entry.1 == name with
    | some entry => Run.print (entry.2 ++ [finish])
    | none => status := 1
  return status

/-- Tests its arguments. -/
def test (closed : Bool) : Tool := fun arguments => do
  let tool : Octets := if closed then "[" else "test"
  if closed && arguments.getLast? ≠ some [']'] then abandon tool 2 ("missing " ++ marked "]")
  match Test.extended (← Builtin.view) (if closed then arguments.dropLast else arguments) with
  | .ok holds => return if holds then 0 else 1
  | .error text => abandon tool 2 text

/-- Does nothing, with a status. -/
def constant (name : String) (status : Nat) : Tool := fun arguments => do
  if arguments == ["--help".toList] then
    Run.print (helpOf name)
  else if arguments == ["--version".toList] then
    Run.print (versionOf name)
  return status

/-- The name of the machine. -/
def hostName : Octets := "localhost"

/-- Names the system. -/
def uname : Tool := fun arguments => do
  let (given, operands) ← options "uname" 1
    { letters := "asnrvmpio"
      names := ["all=a", "kernel-name=s", "nodename=n", "kernel-release=r", "kernel-version=v",
        "machine=m", "processor=p", "hardware-platform=i", "operating-system=o"] } arguments
  match operands with
  | extra :: _ => refuse "uname" 1 ("extra operand " ++ marked extra)
  | [] => pure ()
  let all : List (String × Octets) :=
    [("s", "Linux"), ("n", hostName), ("r", "6.1.0"), ("v", "#1 SMP"), ("m", "x86_64"),
     ("p", "unknown"), ("i", "unknown"), ("o", "GNU/Linux")]
  let shown := all.filter fun entry =>
    has given entry.1 || has given "a" && entry.2 != "unknown".toList ||
      given.isEmpty && entry.1 == "s"
  Run.printLine (Text.joined [' '] (shown.map Prod.snd))
  return 0

/-- Prints one line; there are no operands. -/
def telling (name : String) (text : Octets) (status : Nat) : Tool := fun arguments => do
  let (_, operands) ← options name 1 {} arguments
  match operands with
  | extra :: _ => refuse name 1 ("extra operand " ++ marked extra)
  | [] => pure ()
  Run.printLine text
  return status

/-- Prints the name of the machine. -/
def hostname : Tool := fun _ => do
  Run.printLine hostName
  return 0

/-- Tells the name of the terminal, which there is none of. -/
def tty : Tool := fun arguments => do
  let (given, _) ← options "tty" 2 { letters := "s", names := ["quiet=s", "silent=s"] } arguments
  if !has given "s" then Run.printLine "not a tty"
  return 1

/-- Complains that there is no user who has logged in. -/
def logname : Tool := fun arguments => do
  let _ ← options "logname" 1 {} arguments
  complain "logname" "no login name"
  return 1

/-- Tells the numbers of the user and of the groups. -/
def id : Tool := fun arguments => do
  let (given, names) ← options "id" 1
    { letters := "agGnruzZ"
      names := ["group=g", "groups=G", "name=n", "real=r", "user=u", "zero=z", "context=Z"] } arguments
  let mut status := 0
  let asked := given.any fun g => g.key = "u" || g.key = "g" || g.key = "G"
  if has given "n" && !asked then
    abandon "id" 1 "cannot print only names or real IDs in default format"
  if has given "r" && !asked then
    abandon "id" 1 "cannot print only names or real IDs in default format"
  for name in if names.isEmpty then ["root".toList] else names do
    if name == "root".toList || name == ['0'] then
      Run.printLine (
        if !asked then "uid=0(root) gid=0(root) groups=0(root)"
        else if has given "n" then "root"
        else "0")
    else
      complain "id" (marked name ++ ": no such user")
      status := 1
  return status

/-- Tells the groups of users. -/
def groups : Tool := fun arguments => do
  let (_, names) ← options "groups" 1 {} arguments
  if names.isEmpty then Run.printLine "root"
  let mut status := 0
  for name in names do
    if name == "root".toList then Run.printLine "root : root"
    else
      complain "groups" (marked name ++ ": no such user")
      status := 1
  return status

/-- Prints the places of programs. -/
def which : Tool := fun arguments => do
  let letters := arguments.takeWhile fun word => word.head? = some '-' && word.length ≠ 1
  let names := arguments.drop letters.length
  let all := letters.any fun word => word.contains 'a'
  match letters.find? fun word => (word.drop 1).any fun c => c != 'a' && c != 's' && c != '-' with
  | some word =>
    let c := ((word.drop 1).find? fun c => c != 'a' && c != 's').getD '-'
    Run.note ("Illegal option -" ++ [c])
    Run.note "Usage: /usr/bin/which [-a] args"
    return 2
  | none => pure ()
  let mut status := if names.isEmpty then 1 else 0
  for name in names do
    if name.contains '/' then
      if ← Run.isProgram name then Run.printLine name else status := 1
    else
      let folders := match (← Run.self).value? "PATH" with
        | some list => Text.pieces ':' list
        | none => []
      let places := folders.map fun folder =>
        (if folder.isEmpty then ['.'] else folder) ++ ['/'] ++ name
      let mut found := false
      for place in places do
        if !found || all then
          if ← Run.isProgram place then
            Run.printLine place
            found := true
      if !found then status := 1
  return status

/-- A length of time in thousandths of a second. -/
def duration? (text : Octets) : Option Nat :=
  let parsed := Decimal.parse (text.dropWhile Octets.isSpace)
  let unit? : Option Nat := match parsed.rest with
    | [] => some 1
    | ['s'] => some 1
    | ['m'] => some 60
    | ['h'] => some 3600
    | ['d'] => some 86400
    | _ => none
  match unit?, parsed.magnitude with
  | some unit, .finite q =>
    if parsed.negative && q ≠ 0 || parsed.rest.length = text.length then none
    else some ((q * (unit * 1000 : Nat)).ceil).toNat
  | some _, .infinite => if parsed.negative then none else some 1000000000000
  | _, _ => none

/-- Lets time pass. A process that may only run for a time is ended when that is over. -/
def pass (thousandths : Nat) : Run Unit := do
  let s ← Run.self
  let m ← Run.machine
  let goal := m.slept + thousandths
  match s.deadline with
  | some (stop, signal, process) =>
    if stop ≤ goal then
      Run.modifyMachine fun m => { m with slept := max m.slept stop }
      let others := s.ancestors.takeWhile (· ≠ process)
      let all := if s.process = process then [] else others ++ [process]
      Run.modifyMachine fun m =>
        { m with signals := m.signals ++ all.map fun other => (other, signal) }
      throw (.signalled signal)
    else Run.modifyMachine fun m => { m with slept := goal }
  | none => Run.modifyMachine fun m => { m with slept := goal }

/-- Waits. -/
def sleep : Tool := fun arguments => do
  let (_, words) ← options "sleep" 1 {} arguments
  if words.isEmpty then refuse "sleep" 1 "missing operand"
  let mut sum := 0
  let mut wrong := false
  for word in words do
    match duration? word with
    | some n => sum := sum + n
    | none =>
      complain "sleep" ("invalid time interval " ++ marked word)
      wrong := true
  if wrong then giveUp "sleep" 1
  pass sum
  return 0

/-- The status of a tool that could not run a program. -/
def statusOf (refusal : Refusal) : Nat :=
  if refusal = .missing || refusal = .notFolder then 127 else 126

/-- Assigns variables of the environment. -/
def assignEnvironment (entries : List Octets) : Run Unit := do
  for entry in entries do
    let (name, value) := Octets.splitEquals entry
    match value with
    | some value => Run.putVariable name (.ofText value true)
    | none => Run.putVariable name { exported := true }

/-- Splits a text into words, where quotation marks and backslashes keep white space. -/
def splitWords : Nat → Octets → (word : Option Octets) → List Octets
  | 0, _, word => word.toList
  | _, [], word => word.toList
  | fuel + 1, c :: rest, word =>
    let add (cs : Octets) : Option Octets := some (word.getD [] ++ cs)
    if Octets.isSpace c then word.toList ++ splitWords fuel rest none
    else if c == '\x27' then
      let inner := rest.takeWhile (· ≠ '\x27')
      splitWords fuel (rest.drop (inner.length + 1)) (add inner)
    else if c == '"' then
      let inner := rest.takeWhile (· ≠ '"')
      splitWords fuel (rest.drop (inner.length + 1)) (add inner)
    else if c == '\\' then
      match rest with
      | d :: rest => splitWords fuel rest (add [if d == '_' then ' ' else d])
      | [] => word.toList
    else splitWords fuel rest (add [c])

/-- Runs a program in a changed environment, or prints the environment. -/
def env (launcher : Launcher) : Tool := fun arguments => do
  let o : Options :=
    { letters := "iu:0C:vS:", leading := true
      names := ["ignore-environment=i", "null=0", "unset=u", "chdir=C", "debug=v", "split-string=S",
        "default-signal::", "ignore-signal::", "block-signal::", "list-signal-handling"] }
  let (given, rest) ← options "env" 125 o arguments
  let split := (valueOf? given "S").map fun text => splitWords (text.length + 1) text none
  let rest := (split.getD []) ++ rest
  let bare := rest.head? = some ['-']
  if has given "i" || bare then
    Run.modifySelf fun s => { s with vars := [], functions := [] }
  for name in valuesOf given "u" do
    if name.isEmpty || name.contains '=' then
      abandon "env" 125 ("cannot unset " ++ marked name ++ ": Invalid argument")
    Run.modifySelf fun s => { s with vars := dropKey s.vars name }
  let rest := if bare then rest.drop 1 else rest
  let assigned := rest.takeWhile fun word => word.contains '='
  assignEnvironment assigned
  let command := rest.drop assigned.length
  match valueOf? given "C" with
  | some folder =>
    if command.isEmpty then refuse "env" 125 "must specify command with --chdir (-C)"
    match ← Run.placeOf folder with
    | .ok (path, some .folder) => Run.modifySelf fun s => { s with folder := path }
    | .ok (_, some _) =>
      abandon "env" 125 ("cannot change directory to " ++ quotedName folder ++ ": " ++ reason .notFolder)
    | .ok (_, none) =>
      abandon "env" 125 ("cannot change directory to " ++ quotedName folder ++ ": " ++ reason .missing)
    | .error refusal =>
      abandon "env" 125 ("cannot change directory to " ++ quotedName folder ++ ": " ++ reason refusal)
  | none => pure ()
  match command with
  | [] =>
    printAll (if has given "0" then '\x00' else '\n')
    return 0
  | name :: _ =>
    if has given "0" then refuse "env" 125 "cannot specify --null (-0) with command"
    let refusal ← launcher.become command
    complain "env" (quotedName name ++ ": " ++ reason refusal)
    if refusal = .missing && name.contains ' ' then
      complain "env" "use -[v]S to pass options in shebang lines"
    return statusOf refusal

/-- Runs a program that is ended when a time is over. -/
def timeout (launcher : Launcher) : Tool := fun arguments => do
  let o : Options :=
    { letters := "k:s:v", leading := true
      names := ["foreground", "kill-after=k", "preserve-status", "signal=s", "verbose=v"] }
  let (given, rest) ← options "timeout" 125 o arguments
  let signal ← match valueOf? given "s" with
    | none => pure 15
    | some name =>
      let plain := (Text.afterStart? "SIG".toList (name.map Char.toUpper)).getD name
      match Signal.number? plain with
      | some n => pure n
      | none => refuse "timeout" 125 (marked name ++ ": invalid signal")
  match rest with
  | [] => giveUp "timeout" 125
  | [_] => giveUp "timeout" 125
  | time :: name :: words =>
    match duration? time with
    | none => refuse "timeout" 125 ("invalid time interval " ++ marked time)
    | some thousandths =>
      let stop := (← Run.machine).slept + thousandths
      let prepare : Run Unit :=
        Run.modifySelf fun s =>
          let earlier := s.deadline.any fun d => d.1 ≤ stop
          if thousandths = 0 || earlier then s
          else { s with deadline := some (stop, signal, s.process) }
      let refused (refusal : Refusal) : Run Nat := do
        complain "timeout" ("failed to run command " ++ quotedName name ++ ": " ++ reason refusal)
        return statusOf refusal
      let exit ← launcher.spawn prepare (name :: words) refused
      let isOver := thousandths ≠ 0 && stop ≤ (← Run.machine).slept
      match exit with
      | .status n => return if isOver && !has given "preserve-status" then 124 else n
      | .signal n =>
        if !isOver || n = 9 then throw (.signalled n)
        if n = signal then
          return if has given "preserve-status" then 128 + n else 124
        return 128 + n

/-- Runs a program with another priority. -/
def nice (launcher : Launcher) : Tool := fun arguments => do
  let arguments := arguments.map fun word => match word with
    | '-' :: d :: ds => if (d :: ds).all Char.isDigit then "-n".toList ++ d :: ds else word
    | _ => word
  let (given, rest) ← options "nice" 125
    { letters := "n:", names := ["adjustment=n"], leading := true } arguments
  match valueOf? given "n" with
  | some text =>
    if (Octets.decimal? text).isNone then abandon "nice" 125 ("invalid adjustment " ++ marked text)
  | none => pure ()
  match rest with
  | [] =>
    if has given "n" then refuse "nice" 125 "a command must be given with an adjustment"
    Run.printLine ['0']
    return 0
  | name :: _ =>
    let refusal ← launcher.become rest
    complain "nice" (quotedName name ++ ": " ++ reason refusal)
    return statusOf refusal

/-- Runs a program that outlives its terminal. -/
def nohup (launcher : Launcher) : Tool := fun arguments => do
  let (_, rest) ← options "nohup" 125 { leading := true } arguments
  match rest with
  | [] => refuse "nohup" 125 "missing operand"
  | name :: _ =>
    let refusal ← launcher.become rest
    complain "nohup" ("failed to run command " ++ quotedName name ++ ": " ++ reason refusal)
    return statusOf refusal

/-- Runs a program whose output is kept back in another way. -/
def stdbuf (launcher : Launcher) : Tool := fun arguments => do
  let (given, rest) ← options "stdbuf" 125
    { letters := "e:i:o:", names := ["error=e", "input=i", "output=o"], leading := true } arguments
  match rest with
  | [] => refuse "stdbuf" 125 "missing operand"
  | name :: _ =>
    if given.isEmpty then refuse "stdbuf" 125 "you must specify a buffering mode option"
    let refusal ← launcher.become rest
    complain "stdbuf" ("failed to run command " ++ quotedName name ++ ": " ++ reason refusal)
    return statusOf refusal

end DocMend.Shell.Tool
