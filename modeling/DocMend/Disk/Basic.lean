import DocMend.Json.Basic
import DocMend.Text.Quoted
import DocMend.Text.Search
import DocMend.Text.Utf8
/-!
Absolute paths. A path is the list of its components; a name is resolved against a folder by walking
its components, where a point stays and two points go one step up.

A disk: folders and the bytes of files. A path leads through folders only, and every way in which an
access can be refused has its own cause and wording.
-/

set_option autoImplicit false
set_option relaxedAutoImplicit false

namespace DocMend

/-- The components of an absolute path; the root has none. -/
abbrev Path := List String

namespace Path

/-- Goes on from a folder by one component of a name. -/
def walk (path : Path) (component : String) : Path :=
  if component = "" ∨ component = "." then path
  else if component = ".." then path.dropLast
  else path ++ [component]

/-- The components that a name writes. -/
def components (name : String) : List String :=
  (Text.pieces '/' name.toList).map String.ofList

/-- Whether a name starts at the root. -/
def isAbsolute (name : String) : Bool :=
  Text.beginsWith name "/"

/-- The path that a name stands for in a folder. -/
def resolve (folder : Path) (name : String) : Path :=
  (components name).foldl walk (if isAbsolute name then [] else folder)

/-- The text of a path. -/
def text (path : Path) : String :=
  "/" ++ Text.joinedBy "/" path

/-- The last component; the root has the empty one. -/
def baseName (path : Path) : String :=
  path.getLast?.getD ""

end Path

end DocMend

namespace DocMend

/-- Sets what a path leads to: in place where the path is present, else at the end. -/
def setAt {α : Type} (entries : List (Path × α)) (path : Path) (value : α) : List (Path × α) :=
  match entries with
  | [] => [(path, value)]
  | entry :: rest =>
    if entry.1 = path then (path, value) :: rest else entry :: setAt rest path value

/-- Files with their bytes, and folders. The root is a folder without being listed. -/
structure Disk where
  files : List (Path × List UInt8) := []
  folders : List Path := []
deriving DecidableEq, Repr

namespace Disk

/-- What a path leads to. -/
inductive Node where
  | file (bytes : List UInt8)
  | folder
deriving DecidableEq, Repr

/-- Why an access is refused. -/
inductive Fault where
  | missing (path : Path)
  | notFolder (path : Path)
  | nameTooLong (path : Path)
  | nullByte (path : Path)
  | readsFolder
  | writesFolder (path : Path)
deriving DecidableEq, Repr

/-- The text of a path in single quotation marks. -/
def shown (path : Path) : String :=
  "'" ++ path.text ++ "'"

/-- The wording of a refusal. -/
def Fault.detail : Fault → String
  | missing path => "ENOENT: no such file or directory, open " ++ shown path
  | notFolder path => "ENOTDIR: not a directory, open " ++ shown path
  | nameTooLong path => "ENAMETOOLONG: name too long, open " ++ shown path
  | nullByte path =>
    "The argument 'path' must be a string, Uint8Array, or URL without null bytes. Received " ++
      Text.Quoted.shown path.text
  | readsFolder => "EISDIR: illegal operation on a directory, read"
  | writesFolder path => "EISDIR: illegal operation on a directory, open " ++ shown path

/-- The longest name of a file, in bytes. -/
def longestName : Nat := 255

/-- The longest path, in bytes. -/
def longestPath : Nat := 4095

/-- The empty device: a file that is always there and always empty. -/
def emptyDevice : Path := ["dev", "null"]

/-- What a path leads to, without looking at the folders on the way. -/
def node? (disk : Disk) (path : Path) : Option Node :=
  if path = emptyDevice then some (.file [])
  else
    match disk.files.lookup path with
    | some bytes => some (.file bytes)
    | none =>
      if path = [] ∨ path = emptyDevice.dropLast ∨ path ∈ disk.folders then some .folder else none

/-- Walks from a path through the remaining components of `target`. -/
def findFrom (disk : Disk) (target walked : Path) : List String → Except Fault Node
  | [] =>
    match disk.node? walked with
    | some node => .ok node
    | none => .error (.missing target)
  | component :: rest =>
    match disk.node? walked with
    | some .folder =>
      if longestName < component.utf8ByteSize then .error (.nameTooLong target)
      else findFrom disk target (walked ++ [component]) rest
    | some (.file _) => .error (.notFolder target)
    | none => .error (.missing target)

/-- Whether a path can be handed to the system at all. -/
def isSpeakable (path : Path) : Bool :=
  path.all fun component => !(component.toList.contains '\x00')

/-- What a path leads to. -/
def find (disk : Disk) (path : Path) : Except Fault Node :=
  if !isSpeakable path then .error (.nullByte path)
  else if longestPath < path.text.utf8ByteSize then .error (.nameTooLong path)
  else disk.findFrom path [] path

/-- The bytes of a file. -/
def read (disk : Disk) (path : Path) : Except Fault (List UInt8) :=
  match disk.find path with
  | .ok (.file bytes) => .ok bytes
  | .ok .folder => .error .readsFolder
  | .error fault => .error fault

/-- Whether a file may be written at a path: where there is one already, or where only the last
component is missing. -/
def writable (disk : Disk) (path : Path) : Except Fault Unit :=
  match disk.find path with
  | .ok (.file _) => .ok ()
  | .ok .folder => .error (.writesFolder path)
  | .error (.missing _) =>
    match disk.findFrom path [] path.dropLast with
    | .ok .folder => .ok ()
    | .ok (.file _) => .error (.notFolder path)
    | .error fault => .error fault
  | .error fault => .error fault

/-- Replaces the bytes of a file. What is written to the empty device is lost. -/
def write (disk : Disk) (path : Path) (bytes : List UInt8) : Except Fault Disk :=
  match disk.writable path with
  | .ok () =>
    .ok (if path = emptyDevice then disk else { disk with files := setAt disk.files path bytes })
  | .error fault => .error fault

/-- Whether a path leads to a folder. -/
def isFolder (disk : Disk) (path : Path) : Bool :=
  match disk.find path with
  | .ok .folder => true
  | _ => false

/-- Adds a folder and the folders above it. -/
def addFolder (disk : Disk) (path : Path) : Disk :=
  let all := (List.range path.length).map fun n => path.take (n + 1)
  { disk with folders := disk.folders ++ all.filter fun folder => !disk.folders.contains folder }

/-- A disk with the folders that every system has. -/
def standard : Disk where
  folders :=
    [["bin"], ["boot"], ["dev"], ["etc"], ["home"], ["lib"], ["lib64"], ["media"], ["mnt"], ["opt"],
     ["proc"], ["root"], ["run"], ["sbin"], ["srv"], ["sys"], ["tmp"], ["usr"], ["usr", "bin"],
     ["usr", "lib"], ["usr", "local"], ["usr", "local", "bin"], ["usr", "local", "sbin"],
     ["usr", "sbin"], ["usr", "share"], ["var"], ["var", "log"], ["var", "tmp"]]

/-- Adds a file and the folders above it. -/
def addFile (disk : Disk) (path : Path) (bytes : List UInt8) : Disk :=
  let disk := disk.addFolder path.dropLast
  { disk with files := setAt disk.files path bytes }

end Disk

end DocMend
