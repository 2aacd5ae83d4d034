import DocMend.Shell.Print.Moment
import DocMend.Shell.Scan.Stream
/-!
What the functions that are there from the start compute: parts of texts, substitutions, moments and
random numbers.
-/

set_option autoImplicit false
set_option relaxedAutoImplicit false

namespace DocMend.Shell.Scan

/-- Rounds to the nearest whole number, a half to the even neighbour. -/
def rounded (x : Float) : Float :=
  if x - x.floor == 0.5 then 2 * (x / 2).round else x.round

/-- The part of a text from a place on, which is counted from one; a length may be given. Places before
the beginning count, but there is nothing at them. -/
def substring (text : Octets) (start : Float) (length? : Option Float) : Octets :=
  let size := Float.ofNat text.length
  let first := rounded start
  let stop := match length? with
    | some n => rounded (start + n)
    | none => size + 1
  let first := if first < 1 then 1 else first
  let stop := if size + 1 < stop then size + 1 else stop
  if first < stop then
    (text.drop ((toInteger first).toNat - 1)).take ((toInteger stop).toNat - (toInteger first).toNat)
  else []

/-- The place at which a text stands in another one, counted from one, or zero. -/
def indexOf (part : Octets) : Nat → Octets → Nat
  | place, cs =>
    if part.isPrefixOf cs then place
    else
      match cs with
      | [] => 0
      | _ :: rest => indexOf part (place + 1) rest

/-- The text that takes the place of a match. An ampersand stands for the match, unless a backslash is
before it. -/
def filled (whole : Octets) : Nat → Octets → Octets
  | 0, cs => cs
  | _, [] => []
  | fuel + 1, '&' :: rest => whole ++ filled whole fuel rest
  | fuel + 1, '\\' :: cs =>
    let more := cs.takeWhile (· == '\\')
    let count := more.length + 1
    match cs.drop more.length with
    | '&' :: rest =>
      List.replicate (count / 2) '\\' ++ (if count % 2 = 0 then whole else ['&']) ++
        filled whole fuel rest
    | rest => '\\' :: more ++ filled whole fuel rest
  | fuel + 1, c :: rest => c :: filled whole fuel rest

/-- Replaces matches from a place on: the parts of the result with the latest first, and how many matches
there were. An empty match right behind another one does not count. -/
def replaced (x : Regex.Searcher) (s : Regex.Subject) (fill : Octets → Octets) (everywhere : Bool) :
    Nat → (place : Nat) → (last : Option Nat) → List Octets → Nat → List Octets × Nat
  | 0, _, _, done, count => (done, count)
  | fuel + 1, place, last, done, count =>
    let size := s.text.size
    let rest := s.part place size
    if size < place then (done, count)
    else
      match x.find? s place with
      | none => (rest :: done, count)
      | some m =>
        let before := s.part place m.start
        if m.start = m.stop then
          let next := s.part m.start (m.start + 1)
          if last = some m.start then
            replaced x s fill everywhere fuel (m.start + 1) none (next :: before :: done) count
          else if everywhere then
            replaced x s fill everywhere fuel (m.start + 1) none (next :: fill [] :: before :: done)
              (count + 1)
          else (s.part m.start size :: fill [] :: before :: done, count + 1)
        else
          let done := fill (s.part m.start m.stop) :: before :: done
          if everywhere then replaced x s fill everywhere fuel m.stop (some m.stop) done (count + 1)
          else (s.part m.stop size :: done, count + 1)

/-- The moment that six numbers tell: year, month, day, hour, minute and second. Numbers that are too
large run over. -/
def momentOf (text : Octets) : Option Int :=
  let parts := (Separation.words (text.length + 1) text).map Octets.decimal?
  match parts with
  | some year :: some month :: some day :: some hour :: some minute :: some second :: _ =>
    let months := year * 12 + month - 1
    let first := (Calendar.Date.mk (months / 12) ((months % 12).toNat + 1) 1).toDay
    some ((first + day - 1) * 86400 + hour * 3600 + minute * 60 + second)
  | _ => none

namespace Random

/-- The numbers from which the next one follows: it is the sum of the first one and the last but two. -/
def step (numbers : Array Nat) : Array Nat :=
  (numbers.extract 1 numbers.size).push ((numbers.getD 0 0 + numbers.getD 28 0) % 4294967296)

/-- The numbers behind a seed: each is the product of the one before with a constant, and the first
results of all are left out. -/
def ofSeed (seed : Nat) : Array Nat :=
  let seed := if seed % 4294967296 = 0 then 1 else seed % 4294967296
  let signed : Int := if 2147483648 ≤ seed then (seed : Int) - 4294967296 else seed
  let follow (list : List Int × Int) (_ : Nat) : List Int × Int :=
    let next := (16807 * list.2) % 2147483647
    (next :: list.1, next)
  let (others, _) := (List.range 30).foldl follow ([], signed)
  let numbers := ((seed : Int) :: others.reverse).map fun n => (n % 4294967296).toNat
  (List.range 313).foldl (fun numbers n =>
    if n < 3 then (numbers.extract 1 numbers.size).push (numbers.getD 0 0) else step numbers)
    numbers.toArray

/-- The number that comes next, between zero and one, and the numbers behind it. -/
def next (numbers : Array Nat) : Float × Array Nat :=
  let numbers := step numbers
  (Float.ofNat (numbers.getD 30 0 / 2) / 2147483647.0, numbers)

end Random

end DocMend.Shell.Scan
