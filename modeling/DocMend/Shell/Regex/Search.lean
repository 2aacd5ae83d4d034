import DocMend.Shell.Regex.Basic
/-!
Matching. Of all matches the leftmost counts, and of those that begin there the longest; the texts of
the groups are those along the first way through the graph that leads to its end.
-/

set_option autoImplicit false
set_option relaxedAutoImplicit false

namespace DocMend.Shell.Regex

/-- A text in which an expression is looked for, and whether its lines begin and end at line ends. -/
structure Subject where
  text : Array Char
  lines : Bool := false

namespace Subject

/-- A text as it is searched. -/
def ofOctets (text : Octets) : Subject :=
  { text := text.toArray }

/-- The part of a text from one place to another. -/
def part (s : Subject) (start stop : Nat) : Octets :=
  (s.text.extract start stop).toList

/-- Whether a word character is at a place. -/
def isWord (s : Subject) (place : Nat) : Bool :=
  (s.text[place]?).any Octets.inName

/-- Whether a word character is in front of a place. -/
def isWordBefore (s : Subject) (place : Nat) : Bool :=
  place ≠ 0 && s.isWord (place - 1)

/-- Whether an assertion holds at a place. -/
def holds (s : Subject) (place : Nat) : Assertion → Bool
  | .textStart => place = 0
  | .textEnd => place = s.text.size
  | .lineStart => place = 0 || s.lines && s.text[place - 1]? = some '\n'
  | .lineEnd => place = s.text.size || s.lines && s.text[place]? = some '\n'
  | .wordStart => !s.isWordBefore place && s.isWord place
  | .wordEnd => s.isWordBefore place && !s.isWord place
  | .wordEdge => s.isWordBefore place != s.isWord place
  | .noWordEdge => s.isWordBefore place == s.isWord place

end Subject

namespace Graph

/-- The nodes that are reached from others without taking anything: those that take a byte or end the
match. The numbers in `seen` are the bits of the nodes that were looked at. -/
def settle (g : Graph) (s : Subject) (place : Nat) :
    Nat → List Nat → (seen : Nat) → List Nat → List Nat × Nat
  | 0, _, seen, found => (found, seen)
  | _ + 1, [], seen, found => (found, seen)
  | fuel + 1, n :: rest, seen, found =>
    if seen.testBit n then settle g s place fuel rest seen found
    else
      let seen := seen ||| (1 <<< n)
      match g.nodes[n]? with
      | some (.check assertion next) =>
        settle g s place fuel (if s.holds place assertion then next :: rest else rest) seen found
      | some (.opens _ next) => settle g s place fuel (next :: rest) seen found
      | some (.closes _ _ next) => settle g s place fuel (next :: rest) seen found
      | some (.fork first second) => settle g s place fuel (first :: second :: rest) seen found
      | some _ => settle g s place fuel rest seen (n :: found)
      | none => settle g s place fuel rest seen found

/-- Enough steps to look at every node from any of a number of them. -/
def steps (g : Graph) (count : Nat) : Nat :=
  2 * g.nodes.size + count + 1

/-- The end of the longest match from a place with some active nodes, after the end found so far. -/
def longestFrom (g : Graph) (s : Subject) : Nat → (place : Nat) → List Nat → Option Nat → Option Nat
  | 0, _, _, found => found
  | fuel + 1, place, active, found =>
    let here := (g.settle s place (g.steps active.length) active 0 []).1
    let found := if here.any fun n => g.nodes[n]? = some .done then some place else found
    match s.text[place]? with
    | none => found
    | some c =>
      let next := here.filterMap fun (n : Nat) => match g.nodes[n]? with
        | some (.take set next) => if set.contains c then some next else none
        | _ => none
      if next.isEmpty then found else longestFrom g s fuel (place + 1) next found

/-- The bits of the nodes from which one of the nodes in `good` is reached without taking
anything. -/
def sources (g : Graph) (s : Subject) (place : Nat) : Nat → Nat → Nat
  | 0, good => good
  | fuel + 1, good =>
    let more := (List.range g.nodes.size).foldr (fun n good =>
      let leads := match g.nodes[n]? with
        | some (.check assertion next) => good.testBit next && s.holds place assertion
        | some (.opens _ next) => good.testBit next
        | some (.closes _ _ next) => good.testBit next
        | some (.fork first second) => good.testBit first || good.testBit second
        | _ => false
      if leads then good ||| (1 <<< n) else good) good
    if more = good then good else sources g s place fuel more

/-- For each place from `start` to `stop` the bits of the nodes from which the match can still be
completed at `stop`; the list is built from the last place back. -/
def completing (g : Graph) (s : Subject) (start stop : Nat) : List Nat :=
  (List.range (stop + 1 - start)).foldl (fun list back =>
    let place := stop - back
    let here := (List.range g.nodes.size).foldl (fun bits n =>
      let leads := match g.nodes[n]?, list with
        | some (.take set next), good :: _ =>
          (s.text[place]?).any set.contains && good.testBit next
        | some .done, [] => true
        | _, _ => false
      if leads then bits ||| (1 <<< n) else bits) 0
    g.sources s place (g.nodes.size + 1) here :: list) []

end Graph

/-- Where a group began, and where it ended if it has. -/
abbrev Span := Option (Nat × Option Nat)

/-- The groups along a way through a graph, and as they were when one of them last took something. -/
structure Groups where
  now : Array Span
  before : Array Span
deriving DecidableEq, Repr

namespace Groups

/-- Groups that have not begun. -/
def none (count : Nat) : Groups :=
  let fresh := Array.replicate (count + 1) Option.none
  ⟨fresh, fresh⟩

/-- Begins a group. -/
def opened (groups : Groups) (number place : Nat) : Groups :=
  { groups with now := groups.now.setIfInBounds number (some (place, Option.none)) }

/-- Ends a group. -/
def closed (groups : Groups) (number place : Nat) (optional : Bool) : Groups :=
  match (groups.now[number]?).join with
  | some (start, _) =>
    let now := groups.now.setIfInBounds number (some (start, some place))
    if start < place then ⟨now, now⟩
    else if optional && ((groups.before[number]?).join).isSome then
      { groups with now := groups.before }
    else { groups with now }
  | Option.none => groups

/-- Where a group began and ended. -/
def span? (groups : Groups) (number : Nat) : Option (Nat × Nat) :=
  match (groups.now[number]?).join with
  | some (start, some stop) => some (start, stop)
  | _ => Option.none

end Groups

/-- A match: where it begins and ends, and where its groups do. -/
structure Match where
  start : Nat
  stop : Nat
  groups : Groups := .none 0

namespace Match

/-- Where a group begins and ends; the group of number zero is the match itself. -/
def span? (m : Match) (number : Nat) : Option (Nat × Nat) :=
  if number = 0 then some (m.start, m.stop) else m.groups.span? number

/-- The text of a group, empty where the group takes no part. -/
def text (m : Match) (s : Subject) (number : Nat) : Octets :=
  match m.span? number with
  | some (start, stop) => s.part start stop
  | none => []

end Match

namespace Graph

/-- Follows the first way that leads to the end of a match: the groups along it. The nodes in `seen`
were passed since the last byte was taken. -/
def follow (g : Graph) (s : Subject) :
    Nat → (place node : Nat) → (good : List Nat) → (seen : List Nat) → Groups → Groups
  | 0, _, _, _, _, groups => groups
  | fuel + 1, place, node, good, seen, groups =>
    let bits := good.headD 0
    let passed := node :: seen
    match g.nodes[node]? with
    | some (.take _ next) => follow g s fuel (place + 1) next (good.drop 1) [] groups
    | some (.check _ next) => follow g s fuel place next good passed groups
    | some (.opens number next) =>
      follow g s fuel place next good passed (groups.opened number place)
    | some (.closes number optional next) =>
      follow g s fuel place next good passed (groups.closed number place optional)
    | some (.fork first second) =>
      let next := if !bits.testBit first then second
        else if bits.testBit second && passed.contains first then second
        else first
      follow g s fuel place next good passed groups
    | _ => groups

/-- A way through a graph that is being tried: where it is, what it passed since the last byte was
taken, and its groups. -/
structure Way where
  node : Nat
  place : Nat
  passed : List Nat := []
  groups : Groups

/-- Tries ways one after the other and keeps the first of those that end last. -/
def tryAll (g : Graph) (s : Subject) : Nat → List Way → Option Way → Option Way
  | 0, _, best => best
  | _ + 1, [], best => best
  | fuel + 1, way :: rest, best =>
    let go (next : Nat) (groups : Groups) : Way :=
      { way with node := next, passed := way.node :: way.passed, groups }
    if way.passed.contains way.node then tryAll g s fuel rest best
    else
      match g.nodes[way.node]? with
      | some (.take set next) =>
        let rest := if (s.text[way.place]?).any set.contains then
            { way with node := next, place := way.place + 1, passed := [] } :: rest
          else rest
        tryAll g s fuel rest best
      | some (.check assertion next) =>
        tryAll g s fuel
          (if s.holds way.place assertion then go next way.groups :: rest else rest) best
      | some (.opens number next) =>
        tryAll g s fuel (go next (way.groups.opened number way.place) :: rest) best
      | some (.closes number optional next) =>
        tryAll g s fuel (go next (way.groups.closed number way.place optional) :: rest) best
      | some (.fork first second) =>
        tryAll g s fuel (go first way.groups :: go second way.groups :: rest) best
      | some (.back number next) =>
        match way.groups.span? number with
        | some (start, stop) =>
          let length := stop - start
          let rest :=
            if s.part start stop = s.part way.place (way.place + length) then
              if length = 0 then go next way.groups :: rest
              else { way with node := next, place := way.place + length, passed := [] } :: rest
            else rest
          tryAll g s fuel rest best
        | none => tryAll g s fuel rest best
      | some .done =>
        tryAll g s fuel rest (match best with
          | some other => if other.place < way.place then some way else best
          | none => some way)
      | none => tryAll g s fuel rest best

/-- The steps after which the search for a match that refers back to groups is given up. -/
def patience : Nat := 2000000

/-- The longest match that begins at a place. -/
def matchAt? (g : Graph) (s : Subject) (start : Nat) : Option Match :=
  if g.refersBack then
    (g.tryAll s patience [{ node := g.start, place := start, groups := .none g.groups }] none).map
      fun way => ⟨start, way.place, way.groups⟩
  else
    match g.longestFrom s (s.text.size + 1 - start) start [g.start] none with
    | none => none
    | some stop =>
      if g.groups = 0 then some { start, stop }
      else
        let fuel := 2 * (g.nodes.size + 1) * (stop + 2 - start)
        let good := g.completing s start stop
        some ⟨start, stop, g.follow s fuel start g.start good [] (.none g.groups)⟩

/-- The bytes with which a match may begin, unless it may take nothing. -/
def firstBytes? (g : Graph) : Option ByteSet :=
  let passing (node : Node) : Option (List Nat) := match node with
    | .check _ next => some [next]
    | .opens _ next => some [next]
    | .closes _ _ next => some [next]
    | .fork first second => some [first, second]
    | _ => none
  let rec go : Nat → List Nat → List Nat → ByteSet → Option ByteSet
    | 0, _, _, _ => none
    | _ + 1, [], _, set => some set
    | fuel + 1, n :: rest, seen, set =>
      if seen.contains n then go fuel rest seen set
      else
        match g.nodes[n]? with
        | some (.take more _) => go fuel rest (n :: seen) (set.union more)
        | some node =>
          match passing node with
          | some next => go fuel (next ++ rest) (n :: seen) set
          | none => none
        | none => none
  go (g.steps 1) [g.start] [] (.ofTest fun _ => false)

end Graph

/-- An expression made ready for searching. -/
structure Searcher where
  graph : Graph
  first? : Option ByteSet

/-- Makes an expression ready for searching. -/
def searcher (r : Regex) : Searcher :=
  let graph := r.graph
  ⟨graph, graph.firstBytes?⟩

namespace Searcher

/-- Looks for a match from a place on. -/
def findFrom (x : Searcher) (s : Subject) : Nat → (place : Nat) → Option Match
  | 0, _ => none
  | fuel + 1, place =>
    let mayBegin := match x.first? with
      | some set => (s.text[place]?).any set.contains
      | none => true
    match if mayBegin then x.graph.matchAt? s place else none with
    | some found => some found
    | none => findFrom x s fuel (place + 1)

/-- The leftmost match that begins at a place or after it. -/
def find? (x : Searcher) (s : Subject) (place : Nat) : Option Match :=
  x.findFrom s (s.text.size + 1 - place) place

/-- Whether there is a match in a text. -/
def occurs (x : Searcher) (text : Octets) : Bool :=
  (x.find? (.ofOctets text) 0).isSome

end Searcher

end DocMend.Shell.Regex
