import DocMend.Shell.Tool.Sort
/-!
The tool that puts names in an order in which the first one of each of its pairs comes before the second
one. Names that nothing has to come before wait in a queue; a loop is cut open and reported.
-/

set_option autoImplicit false
set_option relaxedAutoImplicit false

namespace DocMend.Shell.Tool

/-- Names that are put in order: all of them, sorted; the pairs that count, the latest first; and the
names that have a place. -/
structure Precedence where
  names : List Octets
  pairs : List (Octets × Octets)
  placed : List Octets := []

namespace Precedence

/-- Names with the pairs that a list makes. -/
def ofPairs (pairs : List (Octets × Octets)) : Precedence :=
  { names := sortedTexts (pairs.flatMap fun (a, b) => [a, b]).eraseDups
    pairs := (pairs.filter fun (a, b) => a ≠ b).reverse }

/-- Whether a name has to wait for another one. -/
def waits (p : Precedence) (name : Octets) : Bool :=
  p.pairs.any fun pair => pair.2 == name

/-- Gives the first name of a queue its place, until the queue is empty. -/
def advance : Nat → (queue : List Octets) → Precedence → Precedence
  | 0, _, p => p
  | _, [], p => p
  | fuel + 1, name :: queue, p =>
    let followers := (p.pairs.filter fun pair => pair.1 == name).map Prod.snd
    let left := { p with
      pairs := p.pairs.filter fun pair => pair.1 != name, placed := name :: p.placed }
    advance fuel (queue ++ (followers.filter fun other => !left.waits other).eraseDups) left

/-- A search for a loop: the name that was reached last, and the name from which each one was reached. -/
structure Trail where
  head : Option Octets := none
  links : List (Octets × Octets) := []

/-- The names on a trail from one name to another. -/
def Trail.names (t : Trail) (last : Octets) : Nat → Octets → List Octets
  | 0, _ => []
  | fuel + 1, name =>
    if name == last then [name]
    else
      match t.links.lookup name with
      | some next => name :: t.names last fuel next
      | none => [name]

/-- Looks at a name: goes on with the trail, or closes a loop and takes away the pair that closes it. -/
def look (p : Precedence) (t : Trail) (name : Octets) : Trail × Option (List Octets × Precedence) :=
  if !p.waits name then (t, none)
  else
    match t.head with
    | none => ({ t with head := some name }, none)
    | some head =>
      if !p.pairs.contains (name, head) then (t, none)
      else if (t.links.lookup name).isSome then
        let found := t.names name (p.names.length + 1) head
        (t, some (found, { p with pairs := p.pairs.erase (name, head) }))
      else ({ head := some name, links := setKey t.links name head }, none)

/-- Looks at names one after the other until a loop is found. -/
def lookAll (p : Precedence) : Trail → List Octets → Trail × Option (List Octets × Precedence)
  | t, [] => (t, none)
  | t, name :: rest =>
    match p.look t name with
    | (t, none) => lookAll p t rest
    | found => found

/-- A loop, and what is left when it is cut open. -/
def loop? (p : Precedence) : Nat → Trail → Option (List Octets × Precedence)
  | 0, _ => none
  | fuel + 1, t =>
    match p.lookAll t p.names with
    | (_, some found) => some found
    | (t, none) => loop? p fuel t

/-- Gives all names their places: what was placed, the latest first, before each loop, and the loops. -/
def run : Nat → Precedence → List (Precedence × List Octets)
  | 0, _ => []
  | fuel + 1, p =>
    let free := p.names.filter fun name => !p.waits name && !p.placed.contains name
    let after := advance (p.names.length + 1) free p
    if after.placed.length = after.names.length then [(after, [])]
    else
      match after.loop? (2 * after.names.length + 2) {} with
      | some (found, left) => (after, found) :: run fuel left
      | none => [(after, [])]

end Precedence

/-- Sorts names by pairs of them. -/
def tsort : Tool := fun arguments => do
  let (_, names) ← options "tsort" 1 {} arguments
  match names with
  | _ :: extra :: _ => refuse "tsort" 1 ("extra operand " ++ quotedName extra)
  | _ => pure ()
  let name := names.headD ['-']
  match ← readSource name with
  | .error .isFolder => abandon "tsort" 1 (shownName name ++ ": read error: " ++ reason .isFolder)
  | .error refusal => abandon "tsort" 1 (shownName name ++ ": " ++ reason refusal)
  | .ok text =>
    let words := (Text.pieces ' ' (text.map fun c => if Octets.isGap c then ' ' else c)).filter (· ≠ [])
    if words.length % 2 = 1 then
      abandon "tsort" 1 (shownName name ++ ": input contains an odd number of tokens")
    let rec pairUp : List Octets → List (Octets × Octets)
      | a :: b :: rest => (a, b) :: pairUp rest
      | _ => []
    let pairs := pairUp words
    let stages := Precedence.run (pairs.length + 1) (.ofPairs pairs)
    for (_, found) in stages do
      if !found.isEmpty then
        complain "tsort" (shownName name ++ ": input contains a loop:")
        for member in found do
          complain "tsort" member
    match stages.getLast? with
    | some (last, _) => Run.print (withEnds last.placed.reverse)
    | none => pure ()
    return if stages.all fun stage => stage.2.isEmpty then 0 else 1

end DocMend.Shell.Tool
