import DocMend.Shell.Octets
/-!
The order of versions. Texts are compared in turn by their parts that are no digits, in which a tilde
comes before everything and letters come before other signs, and by the numbers between these. What
looks like the ending of a file name counts only in the end.
-/

set_option autoImplicit false
set_option relaxedAutoImplicit false

namespace DocMend.Shell.Version

/-- The rank of a character outside numbers; the end of a text comes right after the tilde. -/
def rank : Option Char → Int
  | none => -1
  | some c =>
    if c.isDigit then 0
    else if c.isAlpha then c.toNat
    else if c == '~' then -2
    else c.toNat + 256

/-- Compares texts from here on: first up to the next number in both, then by these numbers. -/
def compareFrom : Nat → Octets → Octets → Ordering
  | 0, _, _ => .eq
  | fuel + 1, a, b =>
    let isText (cs : Octets) : Bool := cs.head?.any fun c => !c.isDigit
    if a.isEmpty && b.isEmpty then .eq
    else if isText a || isText b then
      let order := compare (rank a.head?) (rank b.head?)
      if order = .eq then
        -- A digit on one side waits while the other side goes on.
        compareFrom fuel (if isText a then a.drop 1 else a) (if isText b then b.drop 1 else b)
      else order
    else
      let number (cs : Octets) : Octets := (cs.takeWhile Char.isDigit).dropWhile (· == '0')
      let x := number a
      let y := number b
      let order := (compare x.length y.length).then (compare (Text.digitsValue x) (Text.digitsValue y))
      if order = .eq then
        compareFrom fuel (a.dropWhile Char.isDigit) (b.dropWhile Char.isDigit)
      else order

/-- The length of a text without its endings: parts that begin with a point and a letter. -/
def stemLength (cs : Octets) : Nat :=
  let rec go : Nat → Octets → Octets
    | 0, rest => rest
    | fuel + 1, reversed =>
      let tail := reversed.takeWhile fun c => c.isAlphanum || c == '~'
      match tail.getLast?, reversed.drop tail.length with
      | some first, '.' :: before =>
        if first.isAlpha || first == '~' then go fuel before else reversed
      | _, _ => reversed
  (go cs.length cs.reverse).length

/-- Compares two texts by the order of versions. -/
def compareTexts (a b : Octets) : Ordering :=
  let special (cs : Octets) : Nat :=
    if cs.isEmpty then 0 else if cs == ['.'] then 1 else if cs == ['.', '.'] then 2
    else if cs.head? = some '.' then 3 else 4
  let bySpecial := compare (special a) (special b)
  if bySpecial ≠ .eq then bySpecial
  else if special a < 3 then .eq
  else
    let fuel := a.length + b.length + 1
    let x := stemLength a
    let y := stemLength b
    let short := compareFrom fuel (a.take x) (b.take y)
    if short ≠ .eq || x = a.length && y = b.length then short
    else compareFrom fuel a b

end DocMend.Shell.Version
