import DocMend.Shell.Builtin.Basic
/-!
Builtins for the working folder.
-/

set_option autoImplicit false
set_option relaxedAutoImplicit false

namespace DocMend.Shell

namespace Builtin

/-- Makes a folder the working folder, and notes the path by which it is reached, and the last one, in
variables. -/
def enter (folder route : Path) : Run Unit := do
  let noteIn (name value : Octets) : Run Unit := do
    Run.assign name value
    let v := (getKey (← Run.self).vars name).getD {}
    Run.putVariable name { v with exported := true }
  let before := Octets.ofText (← Run.self).route.text
  Run.modifySelf fun s => { s with folder, route? := some route }
  noteIn "OLDPWD" before
  noteIn "PWD" (Octets.ofText route.text)

/-- Walks by the components of a name, where two points undo the component before them. Where it is
asked for, that has to be a folder. -/
def walkByName (m : Machine) (checks : Bool) : Path → List String → Except Refusal Path
  | route, [] => .ok route
  | route, component :: rest =>
    if component = ".." && checks then
      match m.locate [] route.text with
      | .error refusal => .error refusal
      | .ok path => if m.disk.isFolder path then walkByName m checks (Path.walk route component) rest
        else .error .missing
    else walkByName m checks (Path.walk route component) rest

/-- The path of a folder name, and the path by which it is reached, or why it does not lead to a folder.
Two points undo the component before them, unless links are to be resolved; only in the extended language
that has to be a folder. -/
def folderAt (resolves : Bool) (name : Octets) : Run (Except Refusal (Path × Path)) := do
  let s ← Run.self
  let m ← Run.machine
  let text := Octets.toText name
  let found : Except Refusal (Path × Path) := do
    if resolves then
      let path ← m.locate s.folder text
      return (path, path)
    let route ← walkByName m (s.dialect == .extended)
      (if Path.isAbsolute text then [] else s.route) (Path.components text)
    return (← m.locate [] route.text, route)
  match found with
  | .error refusal => return .error refusal
  | .ok (path, route) =>
    match m.disk.find path with
    | .ok .folder => return .ok (path, route)
    | .ok (.file _) => return .error .notFolder
    | .error fault => return .error (Refusal.ofFault fault)

/-- Folders in which others are looked for, with the names under which they are reached. -/
def candidates (name : Octets) : Run (List (Octets × Bool)) := do
  let components := Path.components (Octets.toText name)
  let isDirect := name.head? = some '/' || components.head? = some "." ||
    components.head? = some ".."
  let s ← Run.self
  let isDirect := isDirect && !name.isEmpty
  let name := if name.isEmpty then ['.'] else name
  if isDirect then return [(name, false)]
  match s.value? "CDPATH" with
  | none => return [(name, false)]
  | some list =>
    let places := (Text.pieces ':' list).map fun folder =>
      if folder.isEmpty then (name, false) else (folder ++ ['/'] ++ name, true)
    return places ++ [(name, false)]

/-- The first of some names under which a folder is; the last one if there is none. -/
def firstFolder (resolves : Bool) : List (Octets × Bool) → Run (Except Refusal (Path × Path × Bool))
  | [] => return .error .missing
  | (name, shows) :: rest => do
    let isThere := match ← Run.node? name with
      | some .folder => true
      | _ => false
    if isThere || rest.isEmpty then
      match ← folderAt resolves name with
      | .ok (path, route) => return .ok (path, route, shows)
      | .error refusal => return .error refusal
    else firstFolder resolves rest

/-- Whether symbolic links are resolved, by the last of the letters that say so. -/
def resolvesLinks (letters : List Flag) : Run Bool := do
  match letters.reverse.find? fun flag => flag.1 == 'L' || flag.1 == 'P' with
  | some flag => return flag.1 == 'P'
  | none => Run.has "physical"

/-- The builtin that changes the working folder. -/
def changeFolder : Builtin := fun _ arguments => do
  let s ← Run.self
  let extended := s.dialect == .extended
  let (letters, names) ← flags (if extended then "LPe@" else "LP") arguments
  let resolves := ← resolvesLinks letters
  let refuse (name : Octets) (refusal : Refusal) : Run Nat := do
    if extended then
      Run.warn (Quoting.fileName name ++ ": " ++ refusal.text)
      return 1
    Run.fail ("can\x27t cd to " ++ name)
  let go (name : Octets) (shows : Bool) : Run Nat := do
    match ← firstFolder resolves (← candidates name) with
    | .ok (path, route, found) =>
      enter path route
      if shows || found then Run.printLine (Octets.ofText route.text)
      return 0
    | .error refusal => refuse name refusal
  if extended && 1 < names.length then
    Run.warn "too many arguments"
    return 1
  match names.head? with
  | none =>
    match s.value? "HOME" with
    | some home => go home false
    | none =>
      if extended then
        Run.warn "HOME not set"
        return 1
      go [] false
  | some ['-'] =>
    match s.value? "OLDPWD" with
    | some old => go old true
    | none =>
      if extended then
        Run.warn "OLDPWD not set"
        return 1
      go [] true
  | some name => go name false

/-- The builtin that prints the working folder. -/
def printFolder : Builtin := fun _ arguments => do
  let (letters, _) ← flags "LP" arguments
  let s ← Run.self
  Run.printLine (Octets.ofText (if ← resolvesLinks letters then s.folder else s.route).text)
  return 0

end Builtin

end DocMend.Shell
