import DocMend.Number.Decimal
import DocMend.Shell.Octets
/-!
Numbers of double precision in the fixed and the scientific style: the exact value is rounded to the
places that are asked for, a tie to the even neighbour.
-/

set_option autoImplicit false
set_option relaxedAutoImplicit false

namespace DocMend.Shell.Decimal

/-- A number that a text writes: its sign, and its value without it; an infinite one, or none at
all. -/
inductive Magnitude where
  | finite (value : Rat)
  | infinite
  | undefined

/-- A number read from a text, with the rest of the text, and whether it was out of range. -/
structure Parsed where
  negative : Bool
  magnitude : Magnitude
  rest : Octets
  overflow : Bool := false

/-- The smallest magnitude that is held with all its bits. -/
def smallestNormal : Rat :=
  mkRat 1 (Number.powerOfTwo 1022)

/-- The exponents of two that are told apart: a magnitude beyond them is infinite, or zero. -/
def binaryBound : Int := 2000

/-- Two to an integer power. -/
def binaryPower (e : Int) : Rat :=
  if 0 ≤ e then ((Number.powerOfTwo e.toNat : Nat) : Rat) else mkRat 1 (Number.powerOfTwo (-e).toNat)

/-- Whether a magnitude that an exact value was rounded to has lost bits because it is too small. -/
def isUnderflow (exact rounded : Rat) : Bool :=
  decide (rounded < smallestNormal) && decide (rounded ≠ exact)

/-- The magnitude nearest to a decimal, and whether it is out of range. -/
def nearest (significand : Nat) (exponent : Int) : Magnitude × Bool :=
  match Number.ofDecimal false significand exponent with
  | .infinite _ => (.infinite, true)
  | .finite q =>
    if q.num = 0 then (.finite q, significand ≠ 0)
    else (.finite q, isUnderflow ((significand : Rat) * Number.powerOfTen exponent) q)

/-- The magnitude nearest to a number times a power of two, and whether it is out of range. -/
def nearestBinary (significand : Nat) (exponent : Int) : Magnitude × Bool :=
  let reach := exponent + significand.log2
  if significand = 0 then (.finite 0, false)
  else if binaryBound < reach then (.infinite, true)
  else if reach < -binaryBound then (.finite 0, true)
  else
    let exact := (significand : Rat) * binaryPower exponent
    match Number.round exact with
    | .infinite _ => (.infinite, true)
    | .finite q => (.finite q, isUnderflow exact q)

/-- The digits of a number in a base, before the point and after it, and the rest. -/
def readDigits (base : Nat) (cs : Octets) : Octets × Octets × Octets :=
  let isDigit (c : Char) : Bool := (Octets.digit? base c).isSome
  let whole := cs.takeWhile isDigit
  match cs.drop whole.length with
  | '.' :: after =>
    let fraction := after.takeWhile isDigit
    if whole.isEmpty && fraction.isEmpty then ([], [], cs)
    else (whole, fraction, after.drop fraction.length)
  | rest => (whole, [], rest)

/-- Reads an exponent after its letter, if there is one, and gives the rest. -/
def readExponent (letter : Char) (cs : Octets) : Int × Octets :=
  match cs with
  | e :: after =>
    if e.toLower == letter then
      let (sign, digits) : Int × Octets := match after with
        | '-' :: digits => (-1, digits)
        | '+' :: digits => (1, digits)
        | _ => (1, after)
      let run := digits.takeWhile Char.isDigit
      if run.isEmpty then (0, cs) else (sign * Text.digitsValue run, digits.drop run.length)
    else (0, cs)
  | [] => (0, [])

/-- Reads a number in hexadecimal digits, after the letter that announces them. -/
def readHexadecimal (cs : Octets) : Option (Magnitude × Bool × Octets) :=
  let (whole, fraction, rest) := readDigits 16 cs
  if whole.isEmpty && fraction.isEmpty then none
  else
    let (exponent, rest) := readExponent 'p' rest
    let (value, outside) :=
      nearestBinary (Octets.valueIn 16 (whole ++ fraction)) (exponent - 4 * fraction.length)
    some (value, outside, rest)

/-- Reads the digits of a number: its magnitude, whether it is out of range, and the rest. -/
def readMagnitude (cs : Octets) : Option (Magnitude × Bool × Octets) :=
  let lower (cs : Octets) : Octets := cs.map Char.toLower
  let hexadecimal : Option (Magnitude × Bool × Octets) := match cs with
    | '0' :: x :: rest => if x.toLower == 'x' then readHexadecimal rest else none
    | _ => none
  match Text.afterStart? "infinity".toList (lower (cs.take 8)),
      Text.afterStart? "inf".toList (lower (cs.take 3)),
      Text.afterStart? "nan".toList (lower (cs.take 3)), hexadecimal with
  | some _, _, _, _ => some (.infinite, false, cs.drop 8)
  | _, some _, _, _ => some (.infinite, false, cs.drop 3)
  | _, _, some _, _ => some (.undefined, false, cs.drop 3)
  | _, _, _, some read => some read
  | _, _, _, none =>
    let (whole, fraction, rest) := readDigits 10 cs
    if whole.isEmpty && fraction.isEmpty then none
    else
      let (exponent, rest) := readExponent 'e' rest
      let (value, outside) :=
        nearest (Text.digitsValue (whole ++ fraction)) (exponent - fraction.length)
      some (value, outside, rest)

/-- Reads a number; a text without one has the whole of it as the rest. -/
def parse (cs : Octets) : Parsed :=
  let start := cs.dropWhile Octets.isSpace
  let (negative, digits) := match start with
    | '-' :: rest => (true, rest)
    | '+' :: rest => (false, rest)
    | _ => (false, start)
  match readMagnitude digits with
  | some (magnitude, overflow, rest) => ⟨negative, magnitude, rest, overflow⟩
  | none => ⟨false, .finite 0, cs, false⟩

/-- Digits with zeros in front up to a width. -/
def padded (width : Nat) (cs : Octets) : Octets :=
  List.replicate (width - cs.length) '0' ++ cs

/-- Digits with a point before the last ones. -/
def pointed (alternate : Bool) (places : Nat) (digits : Octets) : Octets :=
  let whole := digits.take (digits.length - places)
  let fraction := digits.drop (digits.length - places)
  if fraction.isEmpty && !alternate then whole else whole ++ ['.'] ++ fraction

/-- The fixed style. -/
def fixed (alternate : Bool) (places : Nat) (q : Rat) : Octets :=
  let n := Number.roundQuotient (q.num.natAbs * Nat.pow 10 places) q.den
  pointed alternate places (padded (places + 1) (Octets.ofNat n))

/-- The digits and the exponent of the scientific style. -/
def scientificParts (places : Nat) (q : Rat) : Octets × Int :=
  if q.num = 0 then (List.replicate (places + 1) '0', 0)
  else
    let e := Number.pointOf q - 1
    let scaled := q / Number.powerOfTen (e - places)
    let n := Number.roundQuotient scaled.num.natAbs scaled.den
    if Nat.pow 10 (places + 1) ≤ n then (Octets.ofNat (n / 10), e + 1) else (Octets.ofNat n, e)

/-- The scientific style. -/
def scientific (alternate : Bool) (places : Nat) (q : Rat) : Octets :=
  let (digits, e) := scientificParts places q
  pointed alternate places digits ++ ['e', if e < 0 then '-' else '+'] ++
    padded 2 (Octets.ofNat e.natAbs)

/-- Takes the zeros after the point away, and the point if nothing follows it. -/
def trimmed (cs : Octets) : Octets :=
  if cs.contains '.' then
    match cs.reverse.dropWhile (· == '0') with
    | '.' :: rest => rest.reverse
    | rest => rest.reverse
  else cs

/-- The style that fits the exponent: fixed near one, scientific elsewhere, without zeros at the
end. -/
def general (alternate : Bool) (precision : Nat) (q : Rat) : Octets :=
  let significant := if precision = 0 then 1 else precision
  let (_, e) := scientificParts (significant - 1) q
  if -4 ≤ e ∧ e < significant then
    let text := fixed alternate ((significant : Int) - 1 - e).toNat q
    if alternate then text else trimmed text
  else
    let text := scientific alternate (significant - 1) q
    if alternate then text
    else trimmed (text.takeWhile (· ≠ 'e')) ++ text.dropWhile (· ≠ 'e')

/-- Hexadecimal digits after which a magnitude has no more bits. -/
def hexadecimalPlaces : Nat := 13

/-- The hexadecimal style, with as many places as the magnitude has where none are asked for: one
digit before the point, and a power of two. -/
def hexadecimal (alternate : Bool) (places : Option Nat) (q : Rat) : Octets :=
  let e : Int := if q.num = 0 then 0 else max (Number.leadingBit q.num.natAbs q.den) (-1022)
  let scaled := q / binaryPower e
  let shown := places.getD hexadecimalPlaces
  let n := Number.roundQuotient (scaled.num.natAbs * Nat.pow 16 shown) scaled.den
  let digits := padded (shown + 1) (Nat.toDigits 16 n)
  let kept := match places with
    | some _ => digits
    | none => digits.take 1 ++ ((digits.drop 1).reverse.dropWhile (· == '0')).reverse
  pointed alternate (kept.length - 1) kept ++ ['p', if e < 0 then '-' else '+'] ++
    Octets.ofNat e.natAbs

end DocMend.Shell.Decimal
