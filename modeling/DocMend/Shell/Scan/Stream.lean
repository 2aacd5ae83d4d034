import DocMend.Shell.Scan.Record
import DocMend.Shell.Scan.Token
/-!
Streams of scanning programs. What is printed waits until there is enough of it, or until a command is
run; a command that is printed to runs when its stream is closed.
-/

set_option autoImplicit false
set_option relaxedAutoImplicit false

namespace DocMend.Shell.Scan

/-- The number by which a program sees how a command ended. -/
def codeOf : Exit → Nat
  | .status n => n
  | .signal n => 256 + n

namespace Scanning

/-- How many bytes wait at most to be printed. -/
def mostWaiting : Nat := 4096

/-- Prints what waits. -/
def flushOutput : Scanning Unit := do
  let text := (← get).waiting.reverse.flatten
  modify fun s => { s with waiting := [], waitingSize := 0 }
  run (Run.print text)

/-- Prints a text. -/
def put (text : Octets) : Scanning Unit := do
  modify fun s =>
    { s with waiting := text :: s.waiting, waitingSize := s.waitingSize + text.length }
  if mostWaiting ≤ (← get).waitingSize then flushOutput

/-- Writes what waits for a file: the stream without it. -/
def flushed (stream : Stream) : Scanning Stream := do
  match stream.purpose, stream.channel with
  | .writes, some index =>
    match (← run Run.machine).write index stream.waiting.reverse.flatten with
    | .ok changed => run (Run.modifyMachine fun _ => changed)
    | .error _ => pure ()
    return { stream with waiting := [] }
  | _, _ => return stream

/-- Writes all that waits. -/
def flushAll : Scanning Unit := do
  flushOutput
  let streams ← (← get).streams.mapM flushed
  modify fun s => { s with streams }

/-- The open stream of a name, which moves to the front. -/
def openStream? (name : Octets) (purpose : Purpose) : Scanning (Option Stream) := do
  let isIt (stream : Stream) : Bool := stream.name == name && stream.purpose == purpose
  match (← get).streams.find? isIt with
  | none => return none
  | some stream =>
    modify fun s => { s with streams := stream :: s.streams.filter fun other => !isIt other }
    return some stream

/-- Adds a stream in front of the others. -/
def addStream (stream : Stream) : Scanning Unit :=
  modify fun s => { s with streams := stream :: s.streams }

/-- Replaces the stream in front. -/
def setFirst (stream : Stream) : Scanning Unit :=
  modify fun s => { s with streams := stream :: s.streams.drop 1 }

/-- Writes to a file that is named. -/
def putTo (name : Octets) (appends : Bool) (text : Octets) : Scanning Unit := do
  if name == "/dev/stdout".toList || name == ['-'] then put text
  else if name == "/dev/stderr".toList then
    let _ ← run (Run.write 2 text)
  else
    let stream ← match ← openStream? name .writes with
      | some stream => pure stream
      | none =>
        let access : Machine.Access := { writes := true, creates := true, empties := !appends, appends }
        match ← run (Run.openName name access) with
        | .ok index =>
          let stream : Stream := { name, purpose := .writes, channel := some index }
          addStream stream
          pure stream
        | .error refusal =>
          give ("cannot open \"" ++ name ++ "\" for output (" ++ Tool.reason refusal ++ ")")
    setFirst { stream with waiting := text :: stream.waiting }

/-- Writes to a command. -/
def putToCommand (line text : Octets) : Scanning Unit := do
  let stream ← match ← openStream? line .writesCommand with
    | some stream => pure stream
    | none =>
      flushAll
      let stream : Stream := { name := line, purpose := .writesCommand }
      addStream stream
      pure stream
  setFirst { stream with waiting := text :: stream.waiting }

/-- Runs a command with a text as its input. -/
def feed (launcher : Launcher) (stream : Stream) : Scanning Nat := do
  let text := stream.waiting.reverse.flatten
  let exit ← run (do
    let (index, machine) := (← Run.machine).addChannel (.pipe text [])
    Run.modifyMachine fun _ => machine
    launcher.spawn (Run.connect 0 index) ["/bin/sh", "-c", stream.name] fun _ => return 127)
  return codeOf exit

/-- Runs a command and waits for it: how it ended. -/
def system (launcher : Launcher) (line : Octets) : Scanning Nat := do
  flushAll
  return codeOf (← run (launcher.spawn (pure ()) ["sh", "-c", line] fun _ => return 127))

/-- Closes the streams of a name: the status of the last of them. -/
def close (launcher : Launcher) (name : Octets) : Scanning (Option Nat) := do
  let (these, others) := (← get).streams.partition fun (stream : Stream) => stream.name == name
  modify fun s => { s with streams := others }
  let mut status : Option Nat := none
  for stream in these do
    match stream.purpose with
    | .writesCommand => status := some (← feed launcher stream)
    | .readsCommand => status := some stream.status
    | _ =>
      let _ ← flushed stream
      status := some 0
  return status

/-- Closes all streams. -/
def closeAll (launcher : Launcher) : Scanning Unit := do
  let streams := (← get).streams
  modify fun s => { s with streams := [] }
  for stream in streams do
    match stream.purpose with
    | .writesCommand =>
      let _ ← feed launcher stream
    | _ =>
      let _ ← flushed stream
  flushOutput

/-- The text of what can be read under a name. -/
def contents (name : Octets) : Scanning (Except Refusal Octets) := do
  let text ← run (if name == ['-'] || name == "/dev/stdin".toList then Run.readAll 0
    else Tool.readSource name)
  match text with
  | .error .isFolder => give ("read error (" ++ Tool.reason .isFolder ++ ")")
  | text => return text

/-- The next line of a file or of a command: nothing is left, or the stream could not be opened. -/
def nextLine (launcher : Launcher) (name : Octets) (purpose : Purpose) :
    Scanning (Except Bool Octets) := do
  let stream? ← match ← openStream? name purpose with
    | some stream => pure (some stream)
    | none =>
      match purpose with
      | .readsCommand => do
        flushAll
        let (text, exit) ← run (do
          let (index, machine) := (← Run.machine).addChannel (.pipe [] [])
          Run.modifyMachine fun _ => machine
          let exit ← launcher.spawn (Run.connect 1 index) ["/bin/sh", "-c", name] fun _ => return 127
          match (← Run.machine).available index with
          | .ok text => return (text, exit)
          | .error _ => return (([] : Octets), exit))
        let stream : Stream := { name, purpose, reader := .ofOctets text, status := codeOf exit }
        addStream stream
        pure (some stream)
      | _ =>
        match ← contents name with
        | .error _ => pure none
        | .ok text =>
          let stream : Stream := { name, purpose, reader := .ofOctets text }
          addStream stream
          pure (some stream)
  match stream? with
  | none => return .error true
  | some stream =>
    match stream.reader.next? (← recordSeparation) with
    | none => return .error false
    | some (text, reader) =>
      setFirst { stream with reader }
      return .ok text

/-- Assigns a variable of the program as an argument says. -/
def assignNamed (program : Program) (name value : Octets) : Scanning Unit := do
  let clash {α : Type} : Scanning α :=
    giveAtRecord ("cannot command line assign to " ++ name ++ "\n\ttype clash or keyword")
  if Lexing.words.contains (Octets.name name) then clash
  if program.functions.any fun f => f.name == name then clash
  match program.names.findIdx? fun entry => entry.1 == name with
  | none => return
  | some index =>
    match ← slotAt (.program index) with
    | .table _ => clash
    | .value _ =>
      setVariable (.program index) (.input (Lexing.unescaped (value.length + 1) value))

/-- An argument. -/
def argument (n : Nat) : Scanning Octets := do
  let index ← tableIndex (.program (specialNames.length + specialTables.idxOf "ARGV"))
  let (isThere, value) ← withTable index fun table =>
    let (isThere, table) := table.has (.integer n)
    if isThere then
      let (value, table) := table.get .missing (.integer n)
      ((true, value), table)
    else ((false, .missing), table)
  if isThere then textOf value else return []

/-- Opens the next input that arguments name, if there is one. -/
def openNext (program : Program) : Nat → Scanning Bool
  | 0 => return false
  | fuel + 1 => do
    let number := (← get).argument
    let count := toInteger (← special "ARGC").toNumber
    let start (name text : Octets) : Scanning Bool := do
      setSpecial "FILENAME" (.text name)
      setSpecial "FNR" (.number 0)
      modify fun s => { s with main := some (.ofOctets text), opened := true }
      return true
    if count ≤ number then
      if (← get).opened then return false
      match ← contents ['-'] with
      | .ok text => start ['-'] text
      | .error _ => start ['-'] []
    else
      modify fun s => { s with argument := number + 1 }
      let name ← argument number
      if name.isEmpty then openNext program fuel
      else if Octets.isAssignment name then
        let (target, value) := Octets.splitEquals name
        assignNamed program target (value.getD [])
        openNext program fuel
      else
        match ← contents name with
        | .ok text => start name text
        | .error refusal => give ("cannot open \"" ++ name ++ "\" (" ++ Tool.reason refusal ++ ")")

/-- The next record of the input. -/
def nextRecord? (program : Program) : Nat → Scanning (Option Octets)
  | 0 => return none
  | fuel + 1 => do
    match (← get).main with
    | none =>
      let count := (toInteger (← special "ARGC").toNumber).toNat
      if ← openNext program (count + 2) then nextRecord? program fuel else return none
    | some reader =>
      match reader.next? (← recordSeparation) with
      | none =>
        modify fun s => { s with main := none }
        nextRecord? program fuel
      | some (text, reader) =>
        modify fun s => { s with main := some reader }
        setSpecial "NR" (.number ((← special "NR").toNumber + 1))
        setSpecial "FNR" (.number ((← special "FNR").toNumber + 1))
        return some text

/-- How many inputs are opened for one record. -/
def mostInputs : Nat := 1000000

/-- Takes the next record. -/
def advance (program : Program) : Scanning (Option Octets) :=
  nextRecord? program mostInputs

end Scanning

end DocMend.Shell.Scan
