import DocMend.Disk.Basic
import DocMend.Repair.Workspace
/-!
A working tree: a disk seen from one of its folders. File names are resolved against the folder,
bytes are read as UTF-8 with malformed parts replaced, and texts are written as UTF-8.
-/

set_option autoImplicit false
set_option relaxedAutoImplicit false

namespace DocMend

/-- A disk and the folder from which it is seen. -/
structure WorkingTree where
  disk : Disk
  folder : Path
deriving DecidableEq, Repr

namespace WorkingTree

/-- The path of a file name. -/
def path (tree : WorkingTree) (name : String) : Path :=
  Path.resolve tree.folder name

/-- The text of a file. -/
def read (tree : WorkingTree) (name : String) : Except Disk.Fault String :=
  match tree.disk.read (tree.path name) with
  | .ok bytes => .ok (String.ofList (Text.Utf8.decode bytes))
  | .error fault => .error fault

/-- Replaces the text of a file. -/
def write (tree : WorkingTree) (name text : String) : Except Disk.Fault WorkingTree :=
  match tree.disk.write (tree.path name) (Text.Utf8.encode text.toList) with
  | .ok disk => .ok { tree with disk }
  | .error fault => .error fault

instance : Repair.FileStore (StateM WorkingTree) where
  read name := fun tree =>
    match tree.read name with
    | .ok text => (.ok text, tree)
    | .error fault => (.error fault.detail, tree)
  write name text := fun tree =>
    match tree.write name text with
    | .ok written => (.ok (), written)
    | .error fault => (.error fault.detail, tree)

end WorkingTree

end DocMend
