import DocMend.Json.Basic
import DocMend.Repair.Run
/-!
A workspace in memory. Its trace keeps every call of the linter, every access to a file and every
report in the order in which they happened.
-/

set_option autoImplicit false
set_option relaxedAutoImplicit false

namespace DocMend.Repair

/-- One entry of a trace. -/
inductive Activity where
  | diagnosed
  | read (path : String)
  | write (path : String) (accepted : Bool)
  | reported (event : Event)
deriving DecidableEq, Repr

/-- Files, the paths that refuse to be written, what the linter gives call after call, and the trace
so far. -/
structure Memory where
  files : List (String × String)
  readOnly : List String := []
  passes : List (Except String String) := []
  trace : List Activity := []

namespace Memory

/-- How often the linter was called. -/
def calls (memory : Memory) : Nat :=
  memory.trace.countP fun activity => match activity with
    | .diagnosed => true
    | _ => false

/-- The paths of all attempts to read, in order. -/
def reads (memory : Memory) : List String :=
  memory.trace.filterMap fun activity => match activity with
    | .read path => some path
    | _ => none

/-- The paths of all accepted writes, in order. -/
def writes (memory : Memory) : List String :=
  memory.trace.filterMap fun activity => match activity with
    | .write path true => some path
    | _ => none

/-- The reports, in order. -/
def events (memory : Memory) : List Event :=
  memory.trace.filterMap fun activity => match activity with
    | .reported event => some event
    | _ => none

/-- Adds to the trace. -/
def note (memory : Memory) (activity : Activity) : Memory :=
  { memory with trace := memory.trace ++ [activity] }

/-- The detail of reading a file that is missing. -/
def missing : String := "ENOENT"

/-- The detail of writing a file that is read-only. -/
def refused : String := "EACCES"

/-- Reads a file. -/
def read (path : String) (memory : Memory) : Except String String × Memory :=
  let answer := match memory.files.lookup path with
    | some text => .ok text
    | none => .error missing
  (answer, memory.note (.read path))

/-- Writes a file. -/
def write (path text : String) (memory : Memory) : Except String Unit × Memory :=
  if path ∈ memory.readOnly then (.error refused, memory.note (.write path false))
  else
    (.ok (), { memory with files := setEntry memory.files path text }.note (.write path true))

/-- What the linter gives on its next call; its last pass repeats. -/
def pass (memory : Memory) : Except String String :=
  match memory.passes[memory.calls]? with
  | some pass => pass
  | none => memory.passes.getLast?.getD (.ok "")

instance : FileStore (StateM Memory) where
  read path := fun memory => memory.read path
  write path text := fun memory => memory.write path text

instance : Workspace (StateM Memory) where
  diagnose := fun memory => (memory.pass, memory.note .diagnosed)
  report event := fun memory => ((), memory.note (.reported event))

end Memory

end DocMend.Repair
