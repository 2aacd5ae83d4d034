import DocMend.Number.Basic
/-!
Decimal text of numbers. A number is written with the fewest digits that read back as the same
number, of two such digit strings the nearer one; it is written positionally where the decimal
point stands near the digits and with a power of ten elsewhere.
-/

set_option autoImplicit false
set_option relaxedAutoImplicit false

namespace DocMend.Number

/-- A decimal: the point stands before the first of `digits`, moved `point` places to the right. -/
structure Decimal where
  digits : List Char
  point : Int
deriving DecidableEq, Repr

/-- How far the decimal point may be from the first digit in positional text. -/
structure Layout where
  furthestRight : Int
  furthestLeft : Int

/-- Up to 21 places before the point, and up to five zeros between the point and the digits. -/
def layout : Layout := ⟨21, -6⟩

/-- Ten to an integer power. -/
def powerOfTen (e : Int) : Rat :=
  if 0 ≤ e then ((Nat.pow 10 e.toNat : Nat) : Rat) else mkRat 1 (Nat.pow 10 (-e).toNat)

/-- How many digits a positive rational has before the point; negative or zero where its first
digits after the point are zeros. -/
def pointOf (q : Rat) : Int :=
  let guess : Int := ((Nat.toDigits 10 q.num.natAbs).length : Int) - (Nat.toDigits 10 q.den).length
  if powerOfTen guess ≤ q then guess + 1 else guess

/-- Whether a rational rounds to the given number. -/
def readsBack (q candidate : Rat) : Bool :=
  round candidate == .finite q

/-- The neighbour of `q` on the grid of `count` digits that reads back as `q`, if one does: the
nearer of two, and of two equally near ones the even one. -/
def neighbour? (q : Rat) (point : Int) (count : Nat) : Option Nat :=
  let unit := powerOfTen (point - count)
  let low := (q / unit).floor.toNat
  let high := low + 1
  let below : Rat := (low : Rat) * unit
  let above : Rat := (high : Rat) * unit
  match readsBack q below, readsBack q above with
  | true, true =>
    if q - below < above - q then some low
    else if above - q < q - below then some high
    else if low % 2 = 0 then some low
    else some high
  | true, false => some low
  | false, true => some high
  | false, false => none

/-- The digits of a natural number without the zeros at its end. -/
def significantDigits (n : Nat) : List Char :=
  ((Nat.toDigits 10 n).reverse.dropWhile (· == '0')).reverse

/-- The shortest decimal that reads back as the positive rational `q`, looking at `count` digits
and more. -/
def shortestFrom (q : Rat) (point : Int) (count : Nat) : Nat → Decimal
  | 0 => ⟨significantDigits (q / powerOfTen (point - count)).floor.toNat, point⟩
  | more + 1 =>
    match neighbour? q point count with
    | some n => ⟨significantDigits n, point - count + (Nat.toDigits 10 n).length⟩
    | none => shortestFrom q point (count + 1) more

/-- The shortest decimal of a positive number; seventeen digits are always enough. -/
def shortest (q : Rat) : Decimal :=
  shortestFrom q (pointOf q) 1 17

/-- Text of a positive decimal. -/
def Decimal.text (d : Decimal) : List Char :=
  let size : Int := d.digits.length
  if size ≤ d.point ∧ d.point ≤ layout.furthestRight then
    d.digits ++ List.replicate (d.point - size).toNat '0'
  else if 0 < d.point ∧ d.point ≤ layout.furthestRight then
    d.digits.take d.point.toNat ++ ['.'] ++ d.digits.drop d.point.toNat
  else if layout.furthestLeft < d.point ∧ d.point ≤ 0 then
    ['0', '.'] ++ List.replicate (-d.point).toNat '0' ++ d.digits
  else
    let power := d.point - 1
    let sign := if power < 0 then '-' else '+'
    let lead := d.digits.take 1
    let rest := d.digits.drop 1
    lead ++ (if rest.isEmpty then [] else '.' :: rest) ++ ['e', sign] ++
      Nat.toDigits 10 power.natAbs

/-- Text of a rational number. -/
def rationalText (q : Rat) : List Char :=
  let sign := if q.num < 0 then ['-'] else []
  if q.den = 1 ∧ q.num.natAbs ≤ exactBound then sign ++ Nat.toDigits 10 q.num.natAbs
  else sign ++ (shortest (if q.num < 0 then -q else q)).text

/-- Text of a number. -/
def text : Number → String
  | .finite q => String.ofList (rationalText q)
  | .infinite false => "Infinity"
  | .infinite true => "-Infinity"

instance : ToString Number := ⟨text⟩

/-- Decimal exponents beyond which every number is infinite, or zero. -/
def exponentBound : Int := 400

/-- The number nearest to `significand * 10 ^ exponent`. -/
def ofDecimal (negative : Bool) (significand : Nat) (exponent : Int) : Number :=
  let reach := exponent + (Nat.toDigits 10 significand).length
  if significand = 0 then 0
  else if exponentBound < reach then .infinite negative
  else if reach < -exponentBound then 0
  else
    let magnitude := (significand : Rat) * powerOfTen exponent
    round (if negative then -magnitude else magnitude)

end DocMend.Number
