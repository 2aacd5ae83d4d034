import DocMend.Shell.Content
import DocMend.Shell.Grammar
import DocMend.Shell.Machine
import DocMend.Shell.Octets
/-!
Signals: their numbers, names and descriptions, and which of them end a process that does not catch
them.

The state of a shell process, and computations on it. A computation ends with a value or is broken
off: by an error, because the shell is left, or by a signal. What it has changed until then stays.
-/

set_option autoImplicit false
set_option relaxedAutoImplicit false

namespace DocMend.Shell.Signal

/-- The numbers, names and descriptions of the signals. -/
def table : List (Nat × String × String) :=
  [(1, "HUP", "Hangup"), (2, "INT", "Interrupt"), (3, "QUIT", "Quit"),
   (4, "ILL", "Illegal instruction"), (5, "TRAP", "Trace/breakpoint trap"), (6, "ABRT", "Aborted"),
   (7, "BUS", "Bus error"), (8, "FPE", "Floating point exception"), (9, "KILL", "Killed"),
   (10, "USR1", "User defined signal 1"), (11, "SEGV", "Segmentation fault"),
   (12, "USR2", "User defined signal 2"), (13, "PIPE", "Broken pipe"), (14, "ALRM", "Alarm clock"),
   (15, "TERM", "Terminated"), (17, "CHLD", "Child exited"),
   (18, "CONT", "Continued"), (19, "STOP", "Stopped (signal)"), (20, "TSTP", "Stopped"),
   (21, "TTIN", "Stopped (tty input)"), (22, "TTOU", "Stopped (tty output)"),
   (23, "URG", "Urgent I/O condition"), (24, "XCPU", "CPU time limit exceeded"),
   (25, "XFSZ", "File size limit exceeded"), (26, "VTALRM", "Virtual timer expired"),
   (27, "PROF", "Profiling timer expired"), (28, "WINCH", "Window changed"),
   (29, "IO", "I/O possible"), (30, "PWR", "Power failure"), (31, "SYS", "Bad system call")]

/-- The signal for a process that writes what nobody reads. -/
def brokenPipe : Nat := 13

/-- The largest number of a signal. -/
def largest : Nat := 64

/-- The number of the action before every command. -/
def command : Nat := 65

/-- The number of the action after a failure. -/
def failure : Nat := 66

/-- The number of the action at the end of a function or a script. -/
def conclusion : Nat := 67

/-- The names of the actions that are not on signals. -/
def further : List (Nat × Octets) :=
  [(command, "DEBUG".toList), (failure, "ERR".toList), (conclusion, "RETURN".toList)]

/-- The name of a signal. The upper numbers are counted from either end of their range. -/
def name (number : Nat) : Octets :=
  match table.find? fun row => row.1 = number with
  | some (_, name, _) => name.toList
  | none =>
    if number = 0 then "EXIT".toList
    else if number = 34 then "RTMIN".toList
    else if number = 64 then "RTMAX".toList
    else if 34 < number ∧ number < 50 then "RTMIN+".toList ++ Octets.ofNat (number - 34)
    else if 50 ≤ number ∧ number < 64 then "RTMAX-".toList ++ Octets.ofNat (64 - number)
    else Octets.ofNat number

/-- What is said of a process that a signal has ended. -/
def description (number : Nat) : String :=
  match table.find? fun row => row.1 = number with
  | some (_, _, text) => text
  | none => if number = 16 then "Stack fault" else "Real-time signal " ++ toString (number - 34)

/-- Signals that leave a process running or stopped. -/
def isHarmless (number : Nat) : Bool :=
  number == 0 || number == 17 || number == 18 || number == 23 || number == 28 ||
    (19 ≤ number && number ≤ 22)

/-- Signals whose victims are not reported. -/
def isQuiet (number : Nat) : Bool :=
  number == 2 || number == 13

/-- The number of a signal that is given by its number or by its name in any case. -/
def number? (text : Octets) : Option Nat :=
  if Text.isDigits text then
    let n := Text.digitsValue text
    if n ≤ largest then some n else none
  else
    let upper := text.map Char.toUpper
    (List.range (largest + 1)).find? fun n => name n = upper

end DocMend.Shell.Signal

namespace DocMend.Shell

/-- How a variable changes the letters of a text that it takes. -/
inductive LetterCase where
  | upper
  | lower
  | capital
deriving DecidableEq, Repr

/-- A variable: what it holds, whether programs see it, whether it may be changed, whether texts are
evaluated as numbers before it takes them, how it changes letters, whether its text is the name of
another variable, whether it is marked for tracing, and whether it is an array that was declared but
not set. -/
structure Variable where
  content : Content := .nothing
  exported : Bool := false
  fixed : Bool := false
  integer : Bool := false
  letterCase : Option LetterCase := none
  isReference : Bool := false
  traced : Bool := false
  isBare : Bool := false
deriving DecidableEq, Repr

/-- A variable with a text. -/
def Variable.ofText (text : Octets) (exported : Bool := false) : Variable :=
  { content := .text text, exported }

/-- A function is a command that has a name. It remembers the file and the line in which it was
defined, and may be shown to programs, kept from being changed, or traced. -/
structure Function where
  body : Command
  file : Octets := []
  line : Nat := 1
  exported : Bool := false
  fixed : Bool := false
  traced : Bool := false

/-- A function or a script that is at work: its name, the file it comes from, and the line from which
it was called. -/
structure Frame where
  name : Octets
  file : Octets
  line : Nat
  isFunction : Bool
deriving DecidableEq, Repr

/-- What is known of a program that was looked up: its place, and how often it was used. -/
structure Known where
  place : Octets
  uses : Nat
deriving DecidableEq, Repr

/-- What a subshell was started for: for commands in parentheses, for a simple command of a pipeline, or
for something else. -/
inductive Subshell where
  | none
  | parentheses
  | stage
  | other
deriving DecidableEq, Repr

/-- Variables, and options if they are kept, that are restored when a function or a command with
assignments is over. -/
structure Layer where
  covered : List (Octets × Option Variable) := []
  ofFunction : Bool := false
  options : Option (List String) := none
deriving DecidableEq, Repr

/-- Where the commands of a shell come from: an argument, a file, or its input. -/
inductive Origin where
  | argument
  | file
  | input
deriving DecidableEq, Repr

/-- How a process ended. -/
inductive Exit where
  | status (n : Nat)
  | signal (n : Nat)
deriving DecidableEq, Repr

namespace Exit

/-- The status that a shell sees. -/
def code : Exit → Nat
  | status n => n
  | signal n => 128 + n

end Exit

/-- What is skipped after a command that leaves a loop, a function or a script; the latter with a
status that was asked for, or not. -/
inductive Skip where
  | leave (loops : Nat)
  | again (loops : Nat)
  | function (asked : Bool)
deriving DecidableEq, Repr

mutual
/-- The state of a shell process. -/
structure Interpreter where
  dialect : Dialect
  /-- The name of the shell in complaints, and the parameter 0. -/
  name : Octets
  parameters : List Octets := []
  vars : List (Octets × Variable) := []
  functions : List (Octets × Function) := []
  aliases : List (Octets × Octets) := []
  folder : Path
  /-- The path by which the folder was reached, where symbolic links led to it. -/
  route? : Option Path := none
  /-- The channels of the descriptors. -/
  descriptors : List (Nat × Nat)
  /-- The names of the options that are set. -/
  options : List String := []
  status : Nat := 0
  /-- The status of the last command whose output was substituted. -/
  substituted : Nat := 0
  process : Nat := 1000
  /-- The process whose number stands for the shell in scripts. -/
  root : Nat := 1000
  /-- The processes that wait for this one, the nearest first. -/
  ancestors : List Nat := [999]
  lastBackground : Option Nat := none
  traps : List (Nat × Octets) := []
  /-- Signals that were caught and wait for their actions. -/
  caught : List Nat := []
  /-- The status from before the action on a signal that is carried out. -/
  held : Option Nat := none
  /-- The line of the command, and the line up to which the script was read. -/
  line : Nat := 1
  readerLine : Nat := 1
  /-- The builtin that is at work. -/
  command : Option Octets := none
  skip : Option Skip := none
  loops : Nat := 0
  /-- How many functions the command stands in. -/
  functionDepth : Nat := 0
  /-- The functions and scripts that are at work, the innermost first. -/
  frames : List Frame := []
  layers : List Layer := []
  documents : Array Word := #[]
  jobs : List Job := []
  /-- The next argument that getopts looks at, and how far it has gone in the one before. -/
  optionIndex : Nat := 1
  optionOffset : Nat := 0
  /-- Programs that were looked up, the latest first. -/
  known : List (Octets × Known) := []
  mask : Nat := 18
  /-- When a process that may only run for a time is ended, by which signal, and its number. -/
  deadline : Option (Nat × Nat × Nat) := none
  /-- Whether something could not be written. -/
  writeFailed : Bool := false
  origin : Origin := .argument
  /-- How many subshells the shell stands in, and what the innermost one was started for. -/
  depth : Nat := 0
  subshell : Subshell := .none
  /-- How many scripts the command stands in that were started by others. -/
  level : Nat := 0
  /-- The command that is run. -/
  running : Command := .nothing
  /-- Whether an action on a failure or on a command is carried out. -/
  inAction : Bool := false
  /-- The names of the folders on the stack below the working one. -/
  stack : List Octets := []
  /-- Builtins that are not found. -/
  disabled : List Octets := []
  /-- The descriptors of processes that have file names. -/
  fileProcesses : List Nat := []
  /-- Processes whose input is what a command writes to a file name, with their channels. -/
  readers : List (Command × Nat) := []

/-- A command that runs beside the shell: it starts when the shell waits. -/
structure Job where
  process : Nat
  body : Command
  start : Interpreter
  exit? : Option Exit := none
end

/-- The path by which the working folder was reached. -/
def Interpreter.route (s : Interpreter) : Path :=
  s.route?.getD s.folder

/-- Why a computation is broken off. -/
inductive Raise where
  /-- An error that ends a script. -/
  | failure
  /-- An error in an expression, which also ends the builtin that evaluates it. -/
  | abandoned
  /-- The shell is left with its status. -/
  | exit
  /-- A signal ends the process. -/
  | signalled (number : Nat)
  /-- The script nests too deeply. -/
  | exhausted
deriving DecidableEq, Repr

/-- A process and the machine it runs on. -/
structure World where
  self : Interpreter
  machine : Machine

/-- Computations of a process. -/
abbrev Run := ExceptT Raise (StateM World)

namespace Run

/-- The state of the process. -/
def self : Run Interpreter :=
  return (← get).self

/-- Changes the state of the process. -/
def modifySelf (f : Interpreter → Interpreter) : Run Unit :=
  modify fun w => { w with self := f w.self }

/-- The machine. -/
def machine : Run Machine :=
  return (← get).machine

/-- Changes the machine. -/
def modifyMachine (f : Machine → Machine) : Run Unit :=
  modify fun w => { w with machine := f w.machine }

/-- Whether the process reads the extended language. -/
def isExtended : Run Bool :=
  return (← self).dialect = .extended

/-- Whether an option is set. -/
def has (option : String) : Run Bool :=
  return (← self).options.contains option

/-- Sets the status of the last command. -/
def setStatus (status : Nat) : Run Unit :=
  modifySelf fun s => { s with status }

/-- The channel of a descriptor. -/
def channel? (descriptor : Nat) : Run (Option Nat) :=
  return ((← self).descriptors.find? fun entry => entry.1 == descriptor).map Prod.snd

/-- Connects a descriptor with a channel. -/
def connect (descriptor channel : Nat) : Run Unit :=
  modifySelf fun s =>
    { s with
      descriptors := (descriptor, channel) :: s.descriptors.filter fun e => e.1 != descriptor }

/-- Closes a descriptor. -/
def disconnect (descriptor : Nat) : Run Unit :=
  modifySelf fun s => { s with descriptors := s.descriptors.filter fun e => e.1 != descriptor }

/-- Connects some descriptors as they were before; all others stay as they are. -/
def restoreDescriptors (before : List (Nat × Nat)) (touched : List Nat) : Run Unit :=
  modifySelf fun s =>
    { s with
      descriptors := (before.filter fun d => touched.contains d.1) ++
        s.descriptors.filter fun d => !touched.contains d.1 }

/-- Connects a descriptor with a new channel. -/
def connectNew (descriptor : Nat) (channel : Channel) : Run Nat := do
  let (index, machine) := (← Run.machine).addChannel channel
  modifyMachine fun _ => machine
  connect descriptor index
  return index

/-- Writes to a descriptor; the answer says why it was not possible. -/
def write (descriptor : Nat) (text : Octets) : Run (Option Refusal) := do
  if text.isEmpty then return none
  match ← channel? descriptor with
  | none => return some .badDescriptor
  | some index =>
    match (← machine).write index text with
    | .ok changed =>
      modifyMachine fun _ => changed
      return none
    | .error .brokenPipe =>
      if (← self).traps.any fun t => t.1 == Signal.brokenPipe && t.2.isEmpty then
        return some .brokenPipe
      throw (.signalled Signal.brokenPipe)
    | .error refusal => return some refusal

/-- Prints a text; the process notes if this was not possible. -/
def print (text : Octets) : Run Unit := do
  if (← write 1 text).isSome then modifySelf fun s => { s with writeFailed := true }

/-- Prints a line. -/
def printLine (text : Octets) : Run Unit :=
  print (text ++ ['\n'])

/-- Writes a line to standard error. -/
def note (text : Octets) : Run Unit := do
  let _ ← write 2 (text ++ ['\n'])

/-- The beginning of a complaint: the name of the shell, the line, and the builtin at work. -/
def head : Run Octets := do
  let s ← self
  match s.dialect with
  | .posix =>
    let command : Octets := match s.command with
      | some name => name ++ ": "
      | none => []
    return s.name ++ ": " ++ Octets.ofNat s.line ++ ": " ++ command
  | .extended =>
    let name : Octets := match s.frames with
      | frame :: _ => frame.file
      | [] => s.name
    let line : Octets :=
      if s.origin = .input && s.frames.isEmpty then []
      else "line " ++ Octets.ofNat s.line ++ ": "
    let command : Octets := match s.command with
      | some ['e', 'v', 'a', 'l'] => []
      | some ['.'] => []
      | some ['s', 'o', 'u', 'r', 'c', 'e'] => []
      | some name => name ++ ": "
      | none => []
    return name ++ ": " ++ line ++ command

/-- Complains on standard error. -/
def warn (text : Octets) : Run Unit := do
  note ((← head) ++ text)

/-- Complains in the words of the language at hand. -/
def warnIn (posix extended : Octets) : Run Unit := do
  warn (if ← isExtended then extended else posix)

/-- Complains and breaks off. -/
def fail {α : Type} (text : Octets) : Run α := do
  warn text
  setStatus (if ← isExtended then 1 else 2)
  throw .failure

/-- Complains of an expression and breaks off. -/
def abandon {α : Type} (text : Octets) : Run α := do
  warn text
  setStatus 1
  throw .abandoned

/-- Complains in the words of the language at hand and breaks off. -/
def failIn {α : Type} (posix extended : Octets) : Run α := do
  fail (if ← isExtended then extended else posix)

/-- What can be read from a descriptor. -/
def available (descriptor : Nat) : Run (Except Refusal Octets) := do
  match ← channel? descriptor with
  | none => return .error .badDescriptor
  | some index => return (← machine).available index

/-- Takes characters that were read from a descriptor. -/
def consume (descriptor count : Nat) : Run Unit := do
  match ← channel? descriptor with
  | none => return
  | some index => modifyMachine fun m => m.consume index count

/-- Reads all that a descriptor holds. -/
def readAll (descriptor : Nat) : Run (Except Refusal Octets) := do
  match ← available descriptor with
  | .error refusal => return .error refusal
  | .ok text =>
    consume descriptor text.length
    return .ok text

/-- The path of a file name; symbolic links are followed, the last one only if it is asked for. -/
def locate (name : Octets) (follows : Bool := true) : Run (Except Refusal Path) := do
  return (← machine).locate (← self).folder (Octets.toText name) follows

/-- What a file name leads to. -/
def node? (name : Octets) : Run (Option Disk.Node) := do
  match ← locate name with
  | .ok path => return ((← machine).disk.find path).toOption
  | .error _ => return none

/-- The bytes of a file. -/
def readFile (name : Octets) : Run (Except Refusal Octets) := do
  match ← locate name with
  | .error refusal => return .error refusal
  | .ok path =>
    match (← machine).disk.read path with
    | .ok bytes => return .ok (Octets.ofBytes bytes)
    | .error fault => return .error (Refusal.ofFault fault)

end Run

end DocMend.Shell
