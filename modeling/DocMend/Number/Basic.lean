/-!
Numbers of double precision. A number is an exact rational with at most 53 significant bits, or an
infinity; every operation computes the exact result and rounds it once, to nearest with ties to the
even neighbour. Whole numbers up to 2^53 are exact, so line arithmetic below that bound is the
arithmetic of the integers.

Whole numbers among the numbers of double precision. Up to the exact bound nothing is rounded: sums,
differences and comparisons are those of the integers, and `toNat?` gives a natural number back.
-/

set_option autoImplicit false
set_option relaxedAutoImplicit false

namespace DocMend

/-- A number of double precision; there is one zero and no undefined value. -/
inductive Number where
  | finite (value : Rat)
  | infinite (negative : Bool)
deriving DecidableEq, Repr

namespace Number

/-- A power of two. -/
def powerOfTwo (n : Nat) : Nat := Nat.pow 2 n

/-- Rounds the quotient of two natural numbers to the nearest one, a tie to the even one. -/
def roundQuotient (numerator denominator : Nat) : Nat :=
  let whole := numerator / denominator
  let twice := 2 * (numerator % denominator)
  if twice < denominator then whole
  else if denominator < twice then whole + 1
  else if whole % 2 = 0 then whole
  else whole + 1

/-- The exponent of the highest bit of a positive quotient. -/
def leadingBit (numerator denominator : Nat) : Int :=
  let e : Int := (numerator.log2 : Int) - denominator.log2
  let reaches :=
    if 0 ≤ e then denominator * powerOfTwo e.toNat ≤ numerator
    else denominator ≤ numerator * powerOfTwo (-e).toNat
  if reaches then e else e - 1

/-- The exponent of the last bit that a number with this leading bit can hold. -/
def lastBit (leading : Int) : Int :=
  max (leading - 52) (-1074)

/-- The first magnitude that is out of range. -/
def overflow : Nat := powerOfTwo 1024

/-- Rounds a magnitude: the nearest number with 53 significant bits. -/
def roundMagnitude (numerator denominator : Nat) : Rat :=
  if numerator = 0 then 0
  else
    let e := lastBit (leadingBit numerator denominator)
    if 0 ≤ e then
      let step := powerOfTwo e.toNat
      ((roundQuotient numerator (denominator * step) * step : Nat) : Rat)
    else
      let step := powerOfTwo (-e).toNat
      mkRat (roundQuotient (numerator * step) denominator) step

/-- Two to the power of 53: up to this bound every whole number is exact. -/
def exactBound : Nat := 9007199254740992

/-- Whether a rational is an integer. -/
def isWhole (q : Rat) : Bool :=
  q.den == 1

/-- The number nearest to a rational. -/
def round (q : Rat) : Number :=
  if isWhole q ∧ q.num.natAbs ≤ exactBound then .finite q
  else
    let magnitude := roundMagnitude q.num.natAbs q.den
    if (overflow : Rat) ≤ magnitude then .infinite (q.num < 0)
    else .finite (if q.num < 0 then -magnitude else magnitude)

/-- The number nearest to an integer; the integer itself up to the exact bound. -/
def ofInt (i : Int) : Number :=
  if i.natAbs ≤ exactBound then .finite i else round i

/-- The number nearest to a natural number. -/
def ofNat (n : Nat) : Number :=
  ofInt n

instance (n : Nat) : OfNat Number n := ⟨ofNat n⟩

instance : Inhabited Number := ⟨0⟩

/-- Sum, which for two integers is that of the integers; an infinite first operand stays as it is. -/
def add : Number → Number → Number
  | .finite a, .finite b =>
    if isWhole a && isWhole b then ofInt (a.num + b.num) else round (a + b)
  | .infinite negative, _ => .infinite negative
  | .finite _, .infinite negative => .infinite negative

/-- Change of sign. -/
def neg : Number → Number
  | .finite a => .finite (-a)
  | .infinite negative => .infinite (!negative)

instance : Add Number := ⟨add⟩

instance : Neg Number := ⟨neg⟩

instance : Sub Number := ⟨fun a b => add a (neg b)⟩

/-- Whether the first number is below the second. -/
def below : Number → Number → Bool
  | .finite a, .finite b => if isWhole a && isWhole b then a.num < b.num else a < b
  | .infinite negative, .finite _ => negative
  | .finite _, .infinite negative => !negative
  | .infinite first, .infinite second => first && !second

instance : LT Number := ⟨fun a b => below a b = true⟩

instance : LE Number := ⟨fun a b => below b a = false⟩

instance (a b : Number) : Decidable (a < b) :=
  inferInstanceAs (Decidable (below a b = true))

instance (a b : Number) : Decidable (a ≤ b) :=
  inferInstanceAs (Decidable (below b a = false))

/-- The integer that a number is, if it is one. -/
def toInt? : Number → Option Int
  | .finite a => if isWhole a then some a.num else none
  | .infinite _ => none

/-- The natural number that a number is, if it is one. -/
def toNat? (x : Number) : Option Nat :=
  match x.toInt? with
  | some (.ofNat n) => some n
  | _ => none

/-- Drops the fraction of a finite number, towards zero. -/
def truncate? : Number → Option Int
  | .finite a => some (a.num.tdiv a.den)
  | .infinite _ => none

/-- A positive whole number. -/
def isPositiveWhole (x : Number) : Bool :=
  match x.toInt? with
  | some i => 0 < i
  | none => false

end Number

end DocMend

namespace DocMend.Number

theorem isWhole_intCast (i : Int) : isWhole (i : Rat) = true := by
  simp [isWhole]

theorem ofInt_eq_finite {i : Int} (small : i.natAbs ≤ exactBound) : ofInt i = .finite (i : Rat) := by
  simp [ofInt, small]

/-- Two integers within the exact bound add as integers do, before any rounding. -/
theorem ofInt_add {a b : Int} (ha : a.natAbs ≤ exactBound) (hb : b.natAbs ≤ exactBound) :
    ofInt a + ofInt b = ofInt (a + b) := by
  rw [ofInt_eq_finite ha, ofInt_eq_finite hb]
  show add (.finite (a : Rat)) (.finite (b : Rat)) = ofInt (a + b)
  simp [add, isWhole_intCast]

theorem neg_ofInt {a : Int} (ha : a.natAbs ≤ exactBound) : -ofInt a = ofInt (-a) := by
  rw [ofInt_eq_finite ha, ofInt_eq_finite (by omega)]
  show Number.finite (-(a : Rat)) = .finite ((-a : Int) : Rat)
  rw [Rat.intCast_neg]

theorem ofInt_sub {a b : Int} (ha : a.natAbs ≤ exactBound) (hb : b.natAbs ≤ exactBound) :
    ofInt a - ofInt b = ofInt (a - b) := by
  show ofInt a + -ofInt b = ofInt (a - b)
  rw [neg_ofInt hb, ofInt_add ha (by omega), Int.sub_eq_add_neg]

/-- The order of integers within the exact bound is that of the numbers they are. -/
theorem below_ofInt {a b : Int} (ha : a.natAbs ≤ exactBound) (hb : b.natAbs ≤ exactBound) :
    below (ofInt a) (ofInt b) = decide (a < b) := by
  rw [ofInt_eq_finite ha, ofInt_eq_finite hb]
  by_cases h : a < b <;> simp [below, isWhole_intCast, h]

theorem ofInt_lt {a b : Int} (ha : a.natAbs ≤ exactBound) (hb : b.natAbs ≤ exactBound) :
    ofInt a < ofInt b ↔ a < b := by
  show below (ofInt a) (ofInt b) = true ↔ a < b
  simp [below_ofInt ha hb]

theorem ofInt_le {a b : Int} (ha : a.natAbs ≤ exactBound) (hb : b.natAbs ≤ exactBound) :
    ofInt a ≤ ofInt b ↔ a ≤ b := by
  show below (ofInt b) (ofInt a) = false ↔ a ≤ b
  simp [below_ofInt hb ha]

theorem toInt?_ofInt {a : Int} (ha : a.natAbs ≤ exactBound) : (ofInt a).toInt? = some a := by
  rw [ofInt_eq_finite ha]
  simp [toInt?, isWhole_intCast]

theorem toNat?_ofNat {n : Nat} (small : n ≤ exactBound) : (ofNat n).toNat? = some n := by
  have whole : (ofNat n).toInt? = some (n : Int) := toInt?_ofInt (a := n) small
  simp only [toNat?, whole]

end DocMend.Number
