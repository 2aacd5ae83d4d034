import DocMend.Shell.Scan.Program
import DocMend.Shell.Scan.Value
import DocMend.Shell.Tool.Basic
/-!
The state of a scanning program that is carried out: its variables and tables, the record at hand with its
fields, and the streams that it has opened. A record is only cut into fields when one of them is asked
for, and only put together again when the whole of it is.
-/

set_option autoImplicit false
set_option relaxedAutoImplicit false

namespace DocMend.Shell.Scan

/-- What a name holds: a value, or the number of a table. -/
inductive Slot where
  | value (value : Value)
  | table (index : Nat)

/-- How records or fields are told apart. -/
inductive Separation where
  /-- Runs of white space; it is also dropped at both ends. -/
  | space
  /-- Every character by itself. -/
  | each
  | character (c : Char)
  | regex (searcher : Regex.Searcher)
  /-- Empty lines. -/
  | paragraph

/-- A text that is read record by record. -/
structure Reader where
  text : Array Char := #[]
  place : Nat := 0

/-- What a stream is for. -/
inductive Purpose where
  | reads
  | readsCommand
  | writes
  | writesCommand
deriving DecidableEq, Repr

/-- An open stream: its name, the channel that is written to, what waits to be written with the latest
first, what is read from it, and the status of the command that wrote it. -/
structure Stream where
  name : Octets
  purpose : Purpose
  channel : Option Nat := none
  waiting : List Octets := []
  reader : Reader := {}
  status : Nat := 0

/-- Why the carrying out of statements is left. -/
inductive Leave where
  | next
  | nextFile
  | exit
  | return (value : Value)
  | break
  | continue
  /-- A complaint was made. -/
  | fault

/-- The state of a program. -/
structure State where
  slots : Array Slot := #[]
  tables : Array (Table Value) := #[]
  /-- The parameters of the function at work. -/
  frame : Array Slot := #[]
  record : Octets := []
  fields : Array Value := #[]
  /-- Whether the fields are those of the record. -/
  isCut : Bool := true
  /-- Whether the record is that of the fields. -/
  isJoined : Bool := true
  /-- The input at hand, the number of the next argument, and whether an input was opened. -/
  main : Option Reader := none
  argument : Nat := 1
  opened : Bool := false
  streams : List Stream := []
  waiting : List Octets := []
  waitingSize : Nat := 0
  /-- Expressions that were made ready. -/
  ready : List (Octets × Regex.Searcher) := []
  /-- Which ranges of records have begun. -/
  begun : Array Bool := #[]
  seed : Value := .missing
  random : Array Nat := #[]
  status : Nat := 0

/-- Computations of a program. -/
abbrev Scanning := ExceptT Leave (StateT State Run)

namespace Scanning

/-- Carries out a computation of the process. -/
def run {α : Type} (body : Run α) : Scanning α :=
  ExceptT.lift (StateT.lift body)

/-- The name under which the program complains. -/
def name : Scanning Octets := do
  let name := (← run Run.self).name
  return (name.reverse.takeWhile (· ≠ '/')).reverse

/-- Complains and gives up. -/
def give {α : Type} (text : Octets) : Scanning α := do
  run (Tool.complain (← name) text)
  modify fun s => { s with status := 2 }
  throw .fault

/-- The place of a special variable. -/
def specialPlace (name : String) : Nat :=
  specialNames.findIdx (· == name)

/-- The place of the number of fields. -/
def countPlace : Place :=
  .program (specialPlace "NF")

/-- The place of what tells fields apart. -/
def fieldPlace : Place :=
  .program (specialPlace "FS")

/-- The place of what stands between fields that are put together. -/
def joinPlace : Place :=
  .program (specialPlace "OFS")

/-- The place of the format of numbers that become texts. -/
def formatPlace : Place :=
  .program (specialPlace "CONVFMT")

/-- What a name of the program holds. -/
def slotAt (place : Place) : Scanning Slot := do
  let s ← get
  return match place with
  | .program index => s.slots.getD index (.value .missing)
  | .parameter index => s.frame.getD index (.value .missing)

/-- What a variable holds, as it was last set. -/
def lastSet (place : Place) : Scanning Value := do
  match ← slotAt place with
  | .value v => return v
  | .table _ => return .missing

/-- A special variable, as it was last set. -/
def special (name : String) : Scanning Value :=
  lastSet (.program (specialPlace name))

/-- The format of numbers that become texts. -/
def textFormat : Scanning Octets := do
  return (← lastSet formatPlace).toText []

/-- Sets a variable without what this means for the record. -/
def setSlot (place : Place) (v : Value) : Scanning Unit :=
  modify fun s =>
    match place with
    | .program index => { s with slots := s.slots.setIfInBounds index (.value v) }
    | .parameter index => { s with frame := s.frame.setIfInBounds index (.value v) }

/-- Sets a special variable. -/
def setSpecial (name : String) (v : Value) : Scanning Unit :=
  setSlot (.program (specialPlace name)) v

/-- The text that a value stands for. -/
def textOf (v : Value) : Scanning Octets := do
  match v with
  | .number x =>
    match digits? x with
    | some digits => return digits
    | none => return written (← textFormat) x
  | v => return v.toText []

/-- Complains of something that went wrong at a record, and gives up. -/
def giveAtRecord {α : Type} (text : Octets) : Scanning α := do
  let file ← textOf (← special "FILENAME")
  let inFile ← textOf (← special "FNR")
  let all ← textOf (← special "NR")
  give ("run time error: " ++ text ++ "\n\tFILENAME=\"" ++ file ++ "\" FNR=" ++ inFile ++ " NR=" ++ all)

end Scanning

end DocMend.Shell.Scan
