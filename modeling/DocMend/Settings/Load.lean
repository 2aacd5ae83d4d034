import DocMend.Disk.WorkingTree
import DocMend.Json.Reader
import DocMend.Settings.Basic
/-!
Loading of settings from a file. A file that was asked for must be there and hold a JSON document;
the file that is looked for by default may be missing or broken.
-/

set_option autoImplicit false
set_option relaxedAutoImplicit false

namespace DocMend.Settings

/-- Why a settings file cannot be used. -/
inductive LoadCause where
  | inaccessible (fault : Disk.Fault)
  | notJson
deriving DecidableEq, Repr

/-- The wording of a cause. -/
def LoadCause.detail : LoadCause → String
  | inaccessible fault => fault.detail
  | notJson => "not a JSON document"

/-- A settings file that cannot be used. -/
structure LoadError where
  path : Path
  cause : LoadCause
deriving DecidableEq, Repr

/-- The document in a settings file. -/
def document (tree : WorkingTree) (name : String) : Except LoadCause Json :=
  match tree.read name with
  | .error fault => .error (.inaccessible fault)
  | .ok text =>
    match Json.read text with
    | .ok document => .ok document
    | .error _ => .error .notJson

/-- The settings in a working tree: those of the file `asked`, or of the default file. -/
def load (tree : WorkingTree) (environment : List (String × String)) (asked : Option String) :
    Except LoadError Settings :=
  let defaults := standard environment
  match asked with
  | none =>
    match document tree fileName with
    | .ok document => .ok (merge document defaults)
    | .error _ => .ok defaults
  | some name =>
    match document tree name with
    | .ok document => .ok (merge document defaults)
    | .error cause => .error ⟨tree.path name, cause⟩

end DocMend.Settings
