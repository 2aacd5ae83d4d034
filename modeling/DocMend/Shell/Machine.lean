import DocMend.Disk.Basic
import DocMend.Launch.Outcome
import DocMend.Shell.Octets
/-!
Scripted programs: such a program answers one call after the other with given replies and remembers
its arguments.

The machine that processes share: a disk, channels to read from and to write to, scripted programs,
and signals that are on their way. A channel keeps its position, so that processes that share one
read and write one after the other.
-/

set_option autoImplicit false
set_option relaxedAutoImplicit false

namespace DocMend.Shell

/-- What a scripted program writes on one call, and its exit status. -/
structure Reply where
  stdout : List UInt8 := []
  stderr : List UInt8 := []
  status : Nat := 0
deriving DecidableEq, Repr

/-- A scripted program: the name and the places under which it is found, its replies, of which the
last one repeats, and the arguments of its calls. -/
structure Program where
  name : Option String := none
  places : List Path := []
  replies : List Reply := []
  calls : List (List String) := []
deriving DecidableEq, Repr

namespace Program

/-- The reply to the next call. -/
def reply (program : Program) : Reply :=
  match program.replies[program.calls.length]? with
  | some reply => reply
  | none => program.replies.getLast?.getD {}

/-- Notes a call. -/
def called (program : Program) (arguments : List String) : Program :=
  { program with calls := program.calls ++ [arguments] }

/-- Whether two programs are found under the same name and places. -/
def isSame (first second : Program) : Bool :=
  first.name == second.name && first.places == second.places

end Program

/-- What a descriptor leads to. -/
inductive Channel where
  /-- One of the captured streams. -/
  | stream (stream : Launch.Stream)
  /-- A position in a file. -/
  | file (path : Path) (position : Nat) (appends readable writable : Bool)
  /-- A folder, which cannot be read as a file. -/
  | folder
  /-- The empty device. -/
  | nothing
  /-- Text that was written and not yet read, the latest first after what comes next, and how often
  something was written. -/
  | pipe (front : Octets) (back : List Octets) (writes : Nat := 0)
deriving DecidableEq, Repr

/-- Why an access to a file or a channel is refused. -/
inductive Refusal where
  | missing
  | notFolder
  | isFolder
  | exists
  | nameTooLong
  | permission
  | noDevice
  | badDescriptor
  | tooManyLinks
  | brokenPipe
  | notExecutable
deriving DecidableEq, Repr

namespace Refusal

/-- The wording of a refusal. -/
def text : Refusal → String
  | missing => "No such file or directory"
  | notFolder => "Not a directory"
  | isFolder => "Is a directory"
  | «exists» => "File exists"
  | nameTooLong => "File name too long"
  | permission => "Permission denied"
  | noDevice => "No such device or address"
  | badDescriptor => "Bad file descriptor"
  | tooManyLinks => "Too many levels of symbolic links"
  | brokenPipe => "Broken pipe"
  | notExecutable => "Exec format error"

/-- The refusal that stands for a fault of the disk. -/
def ofFault : Disk.Fault → Refusal
  | .missing _ => missing
  | .notFolder _ => notFolder
  | .nameTooLong _ => nameTooLong
  | .nullByte _ => missing
  | .readsFolder => isFolder
  | .writesFolder _ => isFolder

end Refusal

/-- What processes share. -/
structure Machine where
  disk : Disk
  programs : List Program := []
  channels : Array Channel := #[.nothing, .stream .stdout, .stream .stderr]
  /-- What was written to the captured streams, the latest first. -/
  stdout : List Octets := []
  stderr : List Octets := []
  /-- The number of the next process. -/
  nextProcess : Nat := 1001
  /-- Signals to processes that wait for another one. -/
  signals : List (Nat × Nat) := []
  /-- Symbolic links and the names that they hold. -/
  links : List (Path × Octets) := []
  /-- What may be done with files and folders, where it is not what is usual. -/
  modes : List (Path × Nat) := []
  /-- Names that stand for one file. -/
  twins : List (List Path) := []
  /-- When files and folders were changed, where it was after the start; in thousandths of a second. -/
  times : List (Path × Int) := []
  /-- How long processes have slept, in thousandths of a second. -/
  slept : Nat := 0

namespace Machine

/-- Adds a channel: its index. -/
def addChannel (m : Machine) (channel : Channel) : Nat × Machine :=
  (m.channels.size, { m with channels := m.channels.push channel })

/-- The bytes of a file. -/
def contents (m : Machine) (path : Path) : Octets :=
  match m.disk.read path with
  | .ok bytes => Octets.ofBytes bytes
  | .error _ => []

/-- The time at which processes start: the first day of a year, in thousandths of a second. -/
def firstInstant : Int := 1767225600000

/-- The time. -/
def now (m : Machine) : Int :=
  firstInstant + m.slept

/-- Notes that a file or a folder is changed now. -/
def touched (m : Machine) (path : Path) : Machine :=
  if m.slept = 0 && (m.times.lookup path).isNone then m
  else { m with times := setAt m.times path m.now }

/-- When a file or a folder was changed. -/
def timeOf (m : Machine) (path : Path) : Int :=
  (m.times.lookup path).getD firstInstant

/-- All names of the file at a path. -/
def namesAt (m : Machine) (path : Path) : List Path :=
  (m.twins.find? fun names => names.contains path).getD [path]

/-- Replaces the bytes of a file. -/
def replace (m : Machine) (path : Path) (cs : Octets) : Machine :=
  let bytes := Octets.toBytes cs
  (m.namesAt path).foldl (fun m name =>
    match m.disk.write name bytes with
    | .ok disk => { m with disk }.touched name
    | .error _ => m) m

/-- What can be read from a channel. -/
def available (m : Machine) (index : Nat) : Except Refusal Octets :=
  match m.channels[index]? with
  | none => .error .badDescriptor
  | some (.stream _) => .ok []
  | some .nothing => .ok []
  | some .folder => .error .isFolder
  | some (.pipe front back _) => .ok (front ++ back.reverse.flatten)
  | some (.file path position _ readable _) =>
    if readable then .ok ((m.contents path).drop position) else .error .badDescriptor

/-- Takes characters that were read from a channel. -/
def consume (m : Machine) (index count : Nat) : Machine :=
  let set (channel : Channel) : Machine :=
    { m with channels := m.channels.setIfInBounds index channel }
  match m.channels[index]? with
  | some (.pipe front back _) => set (.pipe ((front ++ back.reverse.flatten).drop count) [])
  | some (.file path position appends readable writable) =>
    set (.file path (position + count) appends readable writable)
  | _ => m

/-- How often something can be written to a pipe before it is read: a process that goes on writing is
one that only stops when nobody reads it any more. -/
def mostWrites : Nat := 100000

/-- How many bytes count as another time. -/
def bytesPerWrite : Nat := 16

/-- Writes to a channel. -/
def write (m : Machine) (index : Nat) (cs : Octets) : Except Refusal Machine :=
  let set (m : Machine) (channel : Channel) : Machine :=
    { m with channels := m.channels.setIfInBounds index channel }
  match m.channels[index]? with
  | none => .error .badDescriptor
  | some (.stream .stdout) => .ok { m with stdout := cs :: m.stdout }
  | some (.stream .stderr) => .ok { m with stderr := cs :: m.stderr }
  | some .nothing => .ok m
  | some .folder => .error .badDescriptor
  | some (.pipe front back writes) =>
    if mostWrites ≤ writes then .error .brokenPipe
    else .ok (set m (.pipe front (cs :: back) (writes + 1 + cs.length / bytesPerWrite)))
  | some (.file path position appends readable writable) =>
    if !writable then .error .badDescriptor
    else
      let old := m.contents path
      let position := if appends then old.length else position
      let gap := List.replicate (position - old.length) '\x00'
      let new := old.take position ++ gap ++ cs ++ old.drop (position + cs.length)
      .ok (set (m.replace path new)
        (.file path (position + cs.length) appends readable writable))

/-- Whether a path leads to something. -/
def isPresent (m : Machine) (path : Path) : Bool :=
  (m.disk.find path).toOption.isSome

/-- Whether a path leads to a file. -/
def isFile (m : Machine) (path : Path) : Bool :=
  match m.disk.find path with
  | .ok (.file _) => true
  | _ => false

/-- What a symbolic link holds, if there is one at a path. -/
def link? (m : Machine) (path : Path) : Option Octets :=
  m.links.lookup path

/-- How many symbolic links a name may lead through. -/
def mostLinks : Nat := 40

/-- Walks from a folder by the components of a name: every component but the last one has to be a
folder. Symbolic links are followed; the last one only if it is asked for. -/
def walk (m : Machine) (follows : Bool) : Nat → Path → List String → Except Refusal Path
  | _, path, [] => .ok path
  | fuel, path, component :: rest =>
    match m.disk.find path with
    | .error fault => .error (Refusal.ofFault fault)
    | .ok (.file _) => .error .notFolder
    | .ok .folder =>
      let next := Path.walk path component
      match m.link? next with
      | none => walk m follows fuel next rest
      | some target =>
        if rest.isEmpty && !follows then .ok next
        else
          match fuel with
          | 0 => .error .tooManyLinks
          | fuel + 1 =>
            let name := Octets.toText target
            walk m follows fuel (if Path.isAbsolute name then [] else path)
              (Path.components name ++ rest)
  termination_by fuel _ components => (fuel, components.length)

/-- The path of a file name. -/
def locate (m : Machine) (folder : Path) (name : String) (follows : Bool := true) :
    Except Refusal Path :=
  if name = "" then .error .missing
  else m.walk follows mostLinks (if Path.isAbsolute name then [] else folder) (Path.components name)

/-- What may be done with a file or a folder, as three octal digits. -/
def modeOf (m : Machine) (path : Path) : Nat :=
  (m.modes.lookup path).getD (if m.disk.isFolder path then 493 else 420)

/-- Whether a file may be run as a program. -/
def isExecutable (m : Machine) (path : Path) : Bool :=
  m.modeOf path &&& 73 ≠ 0

/-- Sets what may be done with a file or a folder. -/
def setMode (m : Machine) (path : Path) (mode : Nat) : Machine :=
  (m.namesAt path).foldl (fun m name => { m with modes := setAt m.modes name mode }) m

/-- How a file is opened. -/
structure Access where
  reads : Bool := false
  writes : Bool := false
  creates : Bool := false
  empties : Bool := false
  appends : Bool := false

/-- Opens a file of the disk. -/
def openFile (m : Machine) (path : Path) (access : Access) : Except Refusal (Channel × Machine) :=
  match m.disk.find path with
  | .ok .folder =>
    if access.writes then .error .isFolder else .ok (.folder, m)
  | .ok (.file _) =>
    let m := if access.empties then m.replace path [] else m
    .ok (.file path 0 access.appends access.reads access.writes, m)
  | .error fault =>
    match fault with
    | .missing _ =>
      if access.creates then
        match m.disk.write path [] with
        | .ok disk =>
          .ok (.file path 0 access.appends access.reads access.writes, { m with disk })
        | .error fault => .error (Refusal.ofFault fault)
      else .error .missing
    | fault => .error (Refusal.ofFault fault)

end Machine

end DocMend.Shell
