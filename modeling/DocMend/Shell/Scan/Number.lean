import DocMend.Shell.Print.Format
/-!
Numbers of scanning programs: floating-point numbers of double precision, their exact values, the texts
that they are read from, and the texts that they are written as.
-/

set_option autoImplicit false
set_option relaxedAutoImplicit false

namespace DocMend.Shell.Scan

/-- The floating-point number with an exact value. -/
def ofRat (q : Rat) : Float :=
  let magnitude := (Float.ofNat q.num.natAbs).scaleB (-(q.den.log2 : Int))
  if q.num < 0 then -magnitude else magnitude

/-- The exact value of a finite floating-point number. -/
def toRat (x : Float) : Rat :=
  let bits := x.toBits.toNat
  let fraction := bits % 4503599627370496
  let exponent := bits / 4503599627370496 % 2048
  let magnitude : Rat :=
    if exponent = 0 then (fraction : Rat) * Decimal.binaryPower (-1074)
    else ((fraction + 4503599627370496 : Nat) : Rat) * Decimal.binaryPower ((exponent : Int) - 1075)
  if 9223372036854775808 ≤ bits then -magnitude else magnitude

/-- Whether a number is below zero or is the negative zero. -/
def isNegative (x : Float) : Bool :=
  9223372036854775808 ≤ x.toBits.toNat

/-- The integer part of a number, towards zero. -/
def truncated (x : Float) : Float :=
  if x < 0 then x.ceil else x.floor

/-- A number as an integer within the range of 64 bits; what is no number is the smallest one. -/
def toInteger (x : Float) : Int :=
  if x.isNaN then smallestInteger
  else if x.isInf then (if x < 0 then smallestInteger else largestInteger)
  else
    let q := toRat x
    clamped (q.num.tdiv q.den)

/-- The remainder of a division, with the sign of the first number. -/
def remainder (x y : Float) : Float :=
  if x.isNaN || y.isNaN || x.isInf || y == 0 then 0.0 / 0.0
  else if y.isInf then x
  else
    let a := toRat x
    let b := toRat y
    let quotient := a / b
    ofRat (a - b * ((quotient.num.tdiv quotient.den : Int) : Rat))

/-- A power. A whole exponent multiplies. -/
def power (x y : Float) : Float :=
  x.pow y

/-- Reads the number at the beginning of a text: it, and the rest. -/
def readNumber (cs : Octets) : Float × Octets :=
  let parsed := Decimal.parse cs
  if parsed.rest.length = cs.length then (0, cs)
  else
    let magnitude : Float := match parsed.magnitude with
      | .finite q => ofRat q
      | .infinite => 1.0 / 0.0
      | .undefined => 0.0 / 0.0
    (if parsed.negative then -magnitude else magnitude, parsed.rest)

/-- The number that a text begins with, or zero. -/
def numberOf (cs : Octets) : Float :=
  (readNumber cs).1

/-- The number that a text is, but for white space around it. Names of infinity and the like are no
numbers. -/
def wholeNumber? (cs : Octets) : Option Float :=
  let start := cs.dropWhile Octets.isSpace
  let first := match start with
    | '-' :: c :: _ => c
    | '+' :: c :: _ => c
    | c :: _ => c
    | [] => ' '
  if !(first.isDigit || first == '.') then none
  else
    let (x, rest) := readNumber cs
    if rest.length = cs.length || !rest.all Octets.isSpace then none else some x

/-- The magnitude of a number as it is printed. -/
def magnitudeOf (x : Float) : Decimal.Magnitude :=
  if x.isNaN then .undefined
  else if x.isInf then .infinite
  else
    let q := toRat x
    .finite (if q.num < 0 then -q else q)

/-- Prints a number by a conversion; what is no number has a sign. -/
def printed (c : Conversion) (x : Float) : Octets :=
  c.decimal (x.isNaN || isNegative x) (magnitudeOf x)

/-- The largest natural number of 64 bits. -/
def largestNatural : Nat := 18446744073709551615

/-- The digits of a number that is an integer within the range of 64 bits. -/
def digits? (x : Float) : Option Octets :=
  if x.isNaN || x.isInf then none
  else
    let q := toRat x
    if q.den != 1 then none
    else if q.num < smallestInteger then none
    else if (largestNatural : Int) + 1 < q.num then none
    else some (Octets.ofInt (min q.num (largestNatural : Int)))

end DocMend.Shell.Scan
