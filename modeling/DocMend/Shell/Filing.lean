import DocMend.Shell.Folder
import DocMend.Shell.Interpreter
/-!
Changes to what a machine holds: removal, copies, new names, and links. Names that stand for one file
are twins: what is written to one of them is read from all.
-/

set_option autoImplicit false
set_option relaxedAutoImplicit false

namespace DocMend.Shell

/-- What a name stands for, if links are not followed. -/
inductive Thing where
  | file (bytes : List UInt8)
  | folder
  | link (target : Octets)
deriving DecidableEq, Repr

namespace Machine

/-- What is at a path. -/
def thing? (m : Machine) (path : Path) : Option Thing :=
  match m.link? path with
  | some target => some (.link target)
  | none =>
    match m.disk.find path with
    | .ok (.file bytes) => some (.file bytes)
    | .ok .folder => some .folder
    | .error _ => none

/-- Removes whatever is at a path and below it. -/
def erase (m : Machine) (path : Path) : Machine :=
  let isBelow (other : Path) : Bool := path.isPrefixOf other
  { m with
    disk := { m.disk with
      files := m.disk.files.filter fun entry => !isBelow entry.1
      folders := m.disk.folders.filter fun folder => !isBelow folder }
    links := m.links.filter fun entry => !isBelow entry.1
    modes := m.modes.filter fun entry => !isBelow entry.1
    times := m.times.filter fun entry => !isBelow entry.1
    twins := m.twins.map fun names => names.filter fun name => !isBelow name }

/-- Adds a symbolic link. -/
def addLink (m : Machine) (path : Path) (target : Octets) : Machine :=
  { m with links := (path, target) :: m.links }.touched path

/-- Adds a folder under a mask of what may not be done with it. -/
def addFolder (m : Machine) (mask : Nat) (path : Path) : Machine :=
  let m := { m with disk := m.disk.addFolder path }.touched path
  let mode := 511 - (511 &&& mask)
  if mode = 493 then m else m.setMode path mode

/-- Copies whatever is at a path and below it to another path. -/
def duplicate (m : Machine) (source target : Path) : Machine :=
  let moved {α : Type} (entries : List (Path × α)) : List (Path × α) :=
    entries.filterMap fun (path, value) =>
      if source.isPrefixOf path then some (target ++ path.drop source.length, value) else none
  let folders := (moved (m.disk.folders.map fun folder => (folder, ()))).map Prod.fst
  let disk := { m.disk with
    folders := m.disk.folders ++ folders.filter fun folder => !m.disk.folders.contains folder }
  let disk := (moved m.disk.files).foldl
    (fun disk (path, bytes) => { disk with files := setAt disk.files path bytes }) disk
  let add {α : Type} (entries : List (Path × α)) : List (Path × α) :=
    (moved entries).foldl (fun list (path, value) => setAt list path value) entries
  { m with disk, links := add m.links, modes := add m.modes, times := add m.times }

/-- Moves whatever is at a path and below it to another path. -/
def move (m : Machine) (source target : Path) : Machine :=
  let twins := m.twins.map fun names =>
    names.map fun name =>
      if source.isPrefixOf name then target ++ name.drop source.length else name
  { (m.duplicate source target).erase source with twins }

/-- Gives a file a second name. -/
def addTwin (m : Machine) (source target : Path) : Machine :=
  let copied := m.duplicate source target
  if m.twins.any fun names => names.contains source then
    { copied with
      twins := m.twins.map fun names => if names.contains source then target :: names else names }
  else { copied with twins := [target, source] :: m.twins }

/-- Which components of a name may be missing. -/
inductive Lenience where
  | nothing
  | last
  | everything
deriving DecidableEq, Repr

/-- Walks on where nothing has to be there. -/
def walkFreely (m : Machine) : Nat → Path → List String → Except Refusal Path
  | _, path, [] => .ok path
  | fuel, path, component :: rest =>
    let next := Path.walk path component
    match m.link? next with
    | none => walkFreely m fuel next rest
    | some target =>
      match fuel with
      | 0 => .error .tooManyLinks
      | fuel + 1 =>
        let name := Octets.toText target
        walkFreely m fuel (if Path.isAbsolute name then [] else path) (Path.components name ++ rest)
  termination_by fuel _ components => (fuel, components.length)

/-- The path of a file name, with all links followed. -/
def canonical (m : Machine) (folder : Path) (lenience : Lenience) (name : String) :
    Except Refusal Path :=
  if name = "" then .error .missing
  else
    match lenience with
    | .everything =>
      m.walkFreely mostLinks (if Path.isAbsolute name then [] else folder) (Path.components name)
    | lenience =>
      let plain := String.ofList ((name.toList.reverse.dropWhile (· == '/')).reverse)
      let ended := plain ≠ name && plain ≠ ""
      match m.locate folder (if plain = "" then "/" else plain) with
      | .error refusal => .error refusal
      | .ok path =>
        match m.disk.find path with
        | .ok .folder => .ok path
        | .ok (.file _) => if ended then .error .notFolder else .ok path
        | .error fault =>
          match Refusal.ofFault fault with
          | .missing => if lenience = .last then .ok path else .error .missing
          | refusal => .error refusal

end Machine

namespace Run

/-- What a name stands for, and where; what is missing may still be made there. -/
def placeOf (name : Octets) (follows : Bool := true) : Run (Except Refusal (Path × Option Thing)) := do
  match ← locate name follows with
  | .error refusal => return .error refusal
  | .ok path =>
    let m ← machine
    if !follows then
      match m.link? path with
      | some target => return .ok (path, some (.link target))
      | none => pure ()
    match m.disk.find path with
    | .ok (.file bytes) => return .ok (path, some (.file bytes))
    | .ok .folder => return .ok (path, some .folder)
    | .error (.missing _) => return .ok (path, none)
    | .error fault => return .error (Refusal.ofFault fault)

/-- Whether a name leads to a folder. -/
def isFolder (name : Octets) : Run Bool := do
  match ← placeOf name with
  | .ok (_, some .folder) => return true
  | _ => return false

end Run

end DocMend.Shell
