import DocMend.Shell.Machine
import DocMend.Shell.Pattern
import DocMend.Shell.Tree
/-!
Contents of folders, and file names that take part in a pattern. A name that begins with a point is
taken only by a pattern that begins with one.
-/

set_option autoImplicit false
set_option relaxedAutoImplicit false

namespace DocMend.Shell

/-- The name of a direct child of a folder, if a path leads to one. -/
def childName? (folder path : Path) : Option String :=
  if path.dropLast == folder && !path.isEmpty then path.getLast? else none

/-- How file names take part in patterns: whether patterns have alternatives, whether names that begin
with a point are taken by all patterns, whether the folder itself and the one above are taken, whether
the case of letters counts, and whether two asterisks stand for all folders below. -/
structure Globbing where
  groups : Bool := false
  takesHidden : Bool := false
  takesPoints : Bool := true
  folds : Bool := false
  deep : Bool := false
deriving DecidableEq, Repr

/-- How deeply folders are looked through. -/
def deepestFolder : Nat := 2048

namespace Machine

/-- The names in a folder. -/
def entries (m : Machine) (folder : Path) : List String :=
  let files := m.disk.files.filterMap fun entry => childName? folder entry.1
  let folders := m.disk.folders.filterMap (childName? folder)
  let links := m.links.filterMap fun entry => childName? folder entry.1
  (files ++ folders ++ links).eraseDups

/-- Whether a file name, seen from a folder, leads to something. -/
def hasName (m : Machine) (folder : Path) (name : Octets) : Bool :=
  match m.locate folder (Octets.toText name) with
  | .ok path => m.isPresent path
  | .error _ => false

/-- The names in a folder that a pattern takes. -/
def matchingNames (m : Machine) (g : Globbing) (folder : Path) (base : Octets)
    (pattern : PatternText) : List Octets :=
  let place := if base.isEmpty then "." else Octets.toText base
  match m.locate folder place with
  | .error _ => []
  | .ok path =>
    if !m.disk.isFolder path then []
    else
      let hidden := pattern.head?.map Prod.fst = some '.'
      let all : List Octets := (m.entries path).map Octets.ofText
      let points : List Octets := if hidden && g.takesPoints then [['.'], ['.', '.']] else []
      let names : List Octets :=
        if hidden || g.takesHidden then points ++ all
        else all.filter fun name => name.head? ≠ some '.'
      if g.folds then
        let atoms := Pattern.ofText (pattern.map fun (c, quoted) => (c.toLower, quoted)) g.groups
        names.filter fun name => Pattern.matchesAll atoms (name.map Char.toLower)
      else
        let atoms := Pattern.ofText pattern g.groups
        names.filter (Pattern.matchesAll atoms)

/-- The names of everything below a folder, after its own name, to a given depth. -/
def namesBelow (m : Machine) (g : Globbing) (folder : Path) : Nat → Octets → List Octets
  | 0, _ => []
  | depth + 1, base =>
    let names := (m.matchingNames g folder base [('*', false)]).map fun name => base ++ name
    names.flatMap fun name =>
      name :: (match m.locate folder (Octets.toText name) false with
        | .ok path =>
          if m.disk.isFolder path && (m.link? path).isNone then
            namesBelow m g folder depth (name ++ ['/'])
          else []
        | .error _ => [])

/-- The file names that a pattern takes, after the name of a folder that was found already. -/
def glob (m : Machine) (g : Globbing) (folder : Path) : Nat → Octets → PatternText → List Octets
  | 0, _, _ => []
  | fuel + 1, base, pattern =>
    let component := pattern.takeWhile fun e => e.1 ≠ '/'
    let after := pattern.drop component.length
    let slashes := after.takeWhile fun e => e.1 = '/'
    let rest := after.drop slashes.length
    let ending := slashes.map Prod.fst
    if g.deep && component == [('*', false), ('*', false)] then
      let below := m.namesBelow g folder deepestFolder base
      if after.isEmpty then (if base.isEmpty then [] else [base]) ++ below
      else
        let folders := below.filter fun name =>
          match m.locate folder (Octets.toText name) with
          | .ok path => m.disk.isFolder path
          | .error _ => false
        let starts := folders.map fun name => name ++ ending
        if rest.isEmpty then (if base.isEmpty then [] else [base]) ++ starts
        else (base :: starts).flatMap fun name => glob m g folder fuel name rest
    else
      let names := match Pattern.plain? (Pattern.ofText component g.groups) with
        | some name => [base ++ name]
        | none => (m.matchingNames g folder base component).map fun name => base ++ name
      if rest.isEmpty then (names.map (· ++ ending)).filter (m.hasName folder)
      else names.flatMap fun name => glob m g folder fuel (name ++ ending) rest

end Machine

/-- Whether a text begins alternatives of a pattern somewhere. -/
def hasGroup : PatternText → Bool
  | [] => false
  | first :: rest => (Pattern.groupStart? (first :: rest)).isSome || hasGroup rest

/-- Whether a text has characters that make it a pattern. -/
def isPattern (groups : Bool) (text : PatternText) : Bool :=
  text.any (fun e => !e.2 && (e.1 == '*' || e.1 == '?' || e.1 == '[')) || groups && hasGroup text

/-- How file names take part in patterns while options are set. -/
def Globbing.ofOptions (dialect : Dialect) (options : List String) : Globbing :=
  { groups := options.contains "extglob", takesHidden := options.contains "dotglob"
    takesPoints := dialect == .posix, folds := options.contains "nocaseglob"
    deep := options.contains "globstar" }

end DocMend.Shell
