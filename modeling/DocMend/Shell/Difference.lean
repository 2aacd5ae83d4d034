import DocMend.Shell.Octets
/-!
Differences of two lists of lines. Lines are numbers here, equal ones where lines count as equal. A
shortest list of changes is found by searching from both ends at once; runs of changes are then moved
along equal lines, so that they merge and end as far down as they can.
-/

set_option autoImplicit false
set_option relaxedAutoImplicit false

namespace DocMend.Shell.Difference

/-- A change: where the lines are in the first list and how many are taken away, and the same for the
lines that are put in their place in the second list. -/
structure Change where
  first : Nat
  removed : Nat
  second : Nat
  added : Nat
deriving DecidableEq, Repr

/-- Two lists of lines that are compared. -/
structure Pair where
  first : Array Nat
  second : Array Nat

/-- The lines of both lists that are not in common, one mark for each line. -/
structure Marks where
  first : Array Bool
  second : Array Bool

/-- A part of both lists: where it begins and ends in each of them. -/
structure Region where
  left : Nat
  right : Nat
  top : Nat
  bottom : Nat
deriving DecidableEq, Repr

namespace Pair

/-- Whether a line of the first list equals one of the second. -/
def same (p : Pair) (x y : Nat) : Bool :=
  match p.first[x]?, p.second[y]? with
  | some a, some b => a == b
  | _, _ => false

/-- Goes forwards along equal lines: how far in the first list. -/
def slideDown (p : Pair) (r : Region) : Nat → (x y : Nat) → Nat
  | 0, x, _ => x
  | fuel + 1, x, y =>
    if x < r.right && y < r.bottom && p.same x y then slideDown p r fuel (x + 1) (y + 1) else x

/-- Goes backwards along equal lines: how far in the first list. -/
def slideUp (p : Pair) (r : Region) : Nat → (x y : Nat) → Nat
  | 0, x, _ => x
  | fuel + 1, x, y =>
    if r.left < x && r.top < y && p.same (x - 1) (y - 1) then slideUp p r fuel (x - 1) (y - 1) else x

end Pair

/-- How far the search has come on each diagonal, from the beginning and from the end, and the limits of
the diagonals that it has reached. A diagonal is the difference of two places. -/
structure Front where
  down : Array Int
  up : Array Int
  downLow : Int
  downHigh : Int
  upLow : Int
  upHigh : Int

namespace Front

/-- The place of a diagonal in the arrays. -/
def place (r : Region) (diagonal : Int) : Nat :=
  (diagonal + r.bottom + 2).toNat

/-- A step from the beginning, on one diagonal: where it ends. -/
def stepDown (p : Pair) (r : Region) (down : Array Int) (diagonal : Int) : Int :=
  let value (d : Int) : Int := (down[place r d]?).getD (-1)
  let low := value (diagonal - 1)
  let high := value (diagonal + 1)
  let x := if low < high then high else low + 1
  (p.slideDown r (r.right - r.left + 1) x.toNat (x - diagonal).toNat : Nat)

/-- A step from the end, on one diagonal: where it ends. -/
def stepUp (p : Pair) (r : Region) (up : Array Int) (diagonal : Int) : Int :=
  let value (d : Int) : Int := (up[place r d]?).getD 0
  let low := value (diagonal - 1)
  let high := value (diagonal + 1)
  let x := if low < high then low else high - 1
  (p.slideUp r (r.right - r.left + 1) x.toNat (x - diagonal).toNat : Nat)

/-- A place that lies beyond every line. -/
def beyond : Int := 1000000000000

/-- Every other diagonal from a higher one down to a lower one. -/
def diagonals (low high : Int) : List Int :=
  (List.range ((high - low) / 2 + 1).toNat).map fun (n : Nat) => high - 2 * (n : Int)

/-- Goes on from the beginning on all diagonals: the front, or the place where it meets the other one. -/
def advance (p : Pair) (r : Region) (odd : Bool) (f : Front) : Front × Option (Nat × Nat) := Id.run do
  let lowest : Int := (r.left : Int) - r.bottom
  let highest : Int := (r.right : Int) - r.top
  let mut down := f.down
  let mut low := f.downLow + 1
  let mut high := f.downHigh - 1
  if lowest < f.downLow then
    low := f.downLow - 1
    down := down.setIfInBounds (place r (low - 1)) (-1)
  if f.downHigh < highest then
    high := f.downHigh + 1
    down := down.setIfInBounds (place r (high + 1)) (-1)
  for d in diagonals low high do
    let x := stepDown p r down d
    down := down.setIfInBounds (place r d) x
    if odd && f.upLow ≤ d && d ≤ f.upHigh && (f.up[place r d]?).getD beyond ≤ x then
      return (f, some (x.toNat, (x - d).toNat))
  return ({ f with down, downLow := low, downHigh := high }, none)

/-- Goes on from the end on all diagonals: the front, or the place where it meets the other one. -/
def retreat (p : Pair) (r : Region) (odd : Bool) (f : Front) : Front × Option (Nat × Nat) := Id.run do
  let lowest : Int := (r.left : Int) - r.bottom
  let highest : Int := (r.right : Int) - r.top
  let mut up := f.up
  let mut low := f.upLow + 1
  let mut high := f.upHigh - 1
  if lowest < f.upLow then
    low := f.upLow - 1
    up := up.setIfInBounds (place r (low - 1)) beyond
  if f.upHigh < highest then
    high := f.upHigh + 1
    up := up.setIfInBounds (place r (high + 1)) beyond
  for d in diagonals low high do
    let x := stepUp p r up d
    up := up.setIfInBounds (place r d) x
    if !odd && f.downLow ≤ d && d ≤ f.downHigh && x ≤ (f.down[place r d]?).getD (-1) then
      return (f, some (x.toNat, (x - d).toNat))
  return ({ f with up, upLow := low, upHigh := high }, none)

/-- Goes on from both ends in turn until they meet. -/
def meet (p : Pair) (r : Region) (odd : Bool) : Nat → Front → Nat × Nat
  | 0, _ => (r.left, r.top)
  | fuel + 1, f =>
    match advance p r odd f with
    | (_, some found) => found
    | (f, none) =>
      match retreat p r odd f with
      | (_, some found) => found
      | (f, none) => meet p r odd fuel f

end Front

/-- A place in the middle of a shortest way through a region. -/
def middle (p : Pair) (r : Region) : Nat × Nat :=
  let start : Int := (r.left : Int) - r.top
  let finish : Int := (r.right : Int) - r.bottom
  let size := r.right + r.bottom + 6
  let down := (Array.replicate size (-1 : Int)).setIfInBounds (Front.place r start) r.left
  let up := (Array.replicate size Front.beyond).setIfInBounds (Front.place r finish) r.right
  Front.meet p r ((start - finish) % 2 ≠ 0) (r.right + r.bottom + 2)
    ⟨down, up, start, start, finish, finish⟩

/-- Marks the lines of a region that are not in common. -/
def compare (p : Pair) : Nat → Region → Marks → Marks
  | 0, _, marks => marks
  | fuel + 1, r, marks =>
    let x := p.slideDown r (r.right - r.left + 1) r.left r.top
    let r := { r with left := x, top := r.top + (x - r.left) }
    let x := p.slideUp r (r.right - r.left + 1) r.right r.bottom
    let r := { r with right := x, bottom := r.bottom - (r.right - x) }
    if r.left = r.right then
      let second := (List.range (r.bottom - r.top)).foldl
        (fun list n => list.setIfInBounds (r.top + n) true) marks.second
      { marks with second }
    else if r.top = r.bottom then
      let first := (List.range (r.right - r.left)).foldl
        (fun list n => list.setIfInBounds (r.left + n) true) marks.first
      { marks with first }
    else
      let (x, y) := middle p r
      compare p fuel { r with left := x, top := y }
        (compare p fuel { r with right := x, bottom := y } marks)

/-- Marks the lines that are not in common. Lines that are in one list only are marked first and take no
part in the search. -/
def marks (p : Pair) : Marks :=
  let lone (own other : Array Nat) : Array Bool := own.map fun line => !other.contains line
  let first := lone p.first p.second
  let second := lone p.second p.first
  let left (list : Array Bool) : Array Nat :=
    ((list.toList.zip (List.range list.size)).filter fun e => !e.1).map Prod.snd |>.toArray
  let firstPlaces := left first
  let secondPlaces := left second
  let pick (list places : Array Nat) : Array Nat := places.map fun n => (list[n]?).getD 0
  let inner : Pair := ⟨pick p.first firstPlaces, pick p.second secondPlaces⟩
  let found := compare inner (firstPlaces.size + secondPlaces.size + 1)
    ⟨0, firstPlaces.size, 0, secondPlaces.size⟩
    ⟨Array.replicate firstPlaces.size false, Array.replicate secondPlaces.size false⟩
  let merge (whole : Array Bool) (places : Array Nat) (part : Array Bool) : Array Bool :=
    (places.toList.zip part.toList).foldl
      (fun list (place, mark) => if mark then list.setIfInBounds place true else list) whole
  ⟨merge first firstPlaces found.first, merge second secondPlaces found.second⟩

/-- Where runs of changes are moved: the marks of the list at hand, and how far one has come in both
lists. -/
structure Shift where
  marks : Array Bool
  start : Nat
  stop : Nat
  other : Nat
  /-- The last place where the run ended beside a run of the other list. -/
  beside : Option Nat := none

namespace Shift

/-- Whether a line has a mark; there are none beyond the ends. -/
def marked (marks : Array Bool) (n : Nat) : Bool :=
  (marks[n]?).getD false

/-- The end of a run of marks. -/
def runEnd (marks : Array Bool) : Nat → Nat → Nat
  | 0, n => n
  | fuel + 1, n => if marked marks n then runEnd marks fuel (n + 1) else n

/-- The beginning of a run of marks that ends in front of a line. -/
def runStart (marks : Array Bool) : Nat → Nat
  | 0 => 0
  | n + 1 => if marked marks n then runStart marks n else n + 1

/-- The last line without a mark in front of a line. -/
def freeBefore (marks : Array Bool) : Nat → Nat
  | 0 => 0
  | n + 1 => if marked marks n then freeBefore marks n else n

/-- Moves a run back along equal lines. -/
def back (lines : Array Nat) (others : Array Bool) : Nat → Shift → Shift
  | 0, s => s
  | fuel + 1, s =>
    if s.start = 0 || lines[s.start - 1]? != lines[s.stop - 1]? then s
    else
      let marks := (s.marks.setIfInBounds (s.start - 1) true).setIfInBounds (s.stop - 1) false
      back lines others fuel { s with
        marks, start := runStart marks (s.start - 1), stop := s.stop - 1
        other := freeBefore others s.other }

/-- Moves a run on along equal lines. -/
def ahead (lines : Array Nat) (others : Array Bool) : Nat → Shift → Shift
  | 0, s => s
  | fuel + 1, s =>
    if s.stop = lines.size || lines[s.start]? != lines[s.stop]? then s
    else
      let marks := (s.marks.setIfInBounds s.start false).setIfInBounds s.stop true
      let stop := runEnd marks lines.size (s.stop + 1)
      let other := runEnd others others.size (s.other + 1)
      ahead lines others fuel { s with
        marks, start := s.start + 1, stop, other
        beside := if other = s.other + 1 then s.beside else some stop }

/-- Moves a run back and on again until it no longer grows. -/
def settle (lines : Array Nat) (others : Array Bool) : Nat → Shift → Shift
  | 0, s => s
  | fuel + 1, s =>
    let length := s.stop - s.start
    let s := back lines others (lines.size + 1) s
    let s := { s with beside := if s.other ≠ 0 && marked others (s.other - 1) then some s.stop else none }
    let s := ahead lines others (lines.size + 1) s
    if s.stop - s.start = length then s else settle lines others fuel s

/-- Moves a run back to where it last was beside a run of the other list. -/
def align (others : Array Bool) : Nat → Shift → Shift
  | 0, s => s
  | fuel + 1, s =>
    match s.beside with
    | none => s
    | some place =>
      if s.stop ≤ place then s
      else
        align others fuel { s with
          marks := (s.marks.setIfInBounds (s.start - 1) true).setIfInBounds (s.stop - 1) false
          start := s.start - 1, stop := s.stop - 1, other := freeBefore others s.other }

/-- Goes to the next run, from a line that has no mark. -/
def next (others : Array Bool) (size : Nat) : Nat → Shift → Shift
  | 0, s => s
  | fuel + 1, s =>
    if s.start < size && !marked s.marks s.start then
      next others size fuel { s with
        start := s.start + 1, other := runEnd others others.size s.other + 1 }
    else s

/-- Moves all runs of a list, beside the marks of the other list. -/
def all (lines : Array Nat) (others : Array Bool) : Nat → Shift → Array Bool
  | 0, s => s.marks
  | fuel + 1, s =>
    let s := next others lines.size (lines.size + 1) s
    if lines.size ≤ s.start then s.marks
    else
      let s := { s with
        stop := runEnd s.marks lines.size s.start
        other := runEnd others others.size s.other }
      let s := settle lines others (lines.size + 1) s
      let s := align others (lines.size + 1) s
      all lines others fuel { s with start := s.stop, beside := none }

end Shift

/-- Moves runs of changes along equal lines, in both lists. -/
def shifted (p : Pair) (m : Marks) : Marks :=
  let first := Shift.all p.first m.second (p.first.size + 1) ⟨m.first, 0, 0, 0, none⟩
  let second := Shift.all p.second first (p.second.size + 1) ⟨m.second, 0, 0, 0, none⟩
  ⟨first, second⟩

/-- The changes that marks stand for. -/
def changesOf (m : Marks) : Nat → (x y : Nat) → List Change
  | 0, _, _ => []
  | fuel + 1, x, y =>
    if m.first.size ≤ x && m.second.size ≤ y then []
    else
      let right := Shift.runEnd m.first m.first.size x
      let bottom := Shift.runEnd m.second m.second.size y
      if right = x && bottom = y then changesOf m fuel (x + 1) (y + 1)
      else ⟨x, right - x, y, bottom - y⟩ :: changesOf m fuel right bottom

/-- The changes between two lists. Equal lines at the beginning and at the end are left out, but for as
many as are wanted around changes. -/
def changes (around : Nat) (p : Pair) : List Change :=
  let common := p.slideDown ⟨0, p.first.size, 0, p.second.size⟩ (p.first.size + 1) 0 0
  if common = p.first.size && common = p.second.size then []
  else
    let skipped := common - around
    let ending := p.first.size -
      p.slideUp ⟨skipped, p.first.size, skipped, p.second.size⟩ (p.first.size + 1)
        p.first.size p.second.size
    let dropped := ending - around
    let inner : Pair :=
      ⟨p.first.extract skipped (p.first.size - dropped),
        p.second.extract skipped (p.second.size - dropped)⟩
    let list := changesOf (shifted inner (marks inner)) (inner.first.size + inner.second.size + 1) 0 0
    list.map fun c => { c with first := c.first + skipped, second := c.second + skipped }

end DocMend.Shell.Difference
