import DocMend.Text.Search
import DocMend.Text.Utf8
/-!
The texts of the shell. A shell knows bytes only, so its texts are lists of characters that stand
for one byte each; `ofText` and `toText` lead from texts to their UTF-8 bytes and back.
-/

set_option autoImplicit false
set_option relaxedAutoImplicit false

namespace DocMend.Shell

/-- A text of bytes, each written as the character with its number. -/
abbrev Octets := List Char

namespace Octets

/-- Bytes as characters. -/
def ofBytes (bytes : List UInt8) : Octets :=
  bytes.map fun b => Char.ofNat b.toNat

/-- Characters as bytes. -/
def toBytes (cs : Octets) : List UInt8 :=
  cs.map fun c => UInt8.ofNat c.toNat

/-- The bytes of a text. -/
def ofText (text : String) : Octets :=
  ofBytes (Text.Utf8.encode text.toList)

/-- The text that bytes encode. -/
def toText (cs : Octets) : String :=
  String.ofList (Text.Utf8.decode (toBytes cs))

/-- The characters themselves as a string, for comparison with plain names. -/
def name (cs : Octets) : String :=
  String.ofList cs

instance : Coe String Octets := ⟨String.toList⟩

/-- The decimal digits of a number. -/
def ofNat (n : Nat) : Octets :=
  Nat.toDigits 10 n

/-- The decimal digits of a number after its sign. -/
def ofInt (n : Int) : Octets :=
  if n < 0 then '-' :: ofNat n.natAbs else ofNat n.natAbs

/-- The byte of a character. -/
def byte (c : Char) : Char :=
  Char.ofNat (c.toNat % 256)

/-- A space or a tab. -/
def isBlank (c : Char) : Bool :=
  c == ' ' || c == '\t'

/-- A space, a tab or a line end. -/
def isGap (c : Char) : Bool :=
  isBlank c || c == '\n'

/-- White space in numbers: a gap, a carriage return, a vertical tab or a form feed. -/
def isSpace (c : Char) : Bool :=
  isGap c || c == '\r' || c == '\x0b' || c == '\x0c'

/-- Whether a character may begin a name. -/
def startsName (c : Char) : Bool :=
  c.isAlpha || c == '_'

/-- Whether a character may stand in a name. -/
def inName (c : Char) : Bool :=
  Text.isWordChar c

/-- Whether a text is a name. -/
def isName : Octets → Bool
  | [] => false
  | c :: cs => startsName c && cs.all inName

/-- Splits a text at its first equals sign. -/
def splitEquals (cs : Octets) : Octets × Option Octets :=
  match cs.dropWhile (· ≠ '=') with
  | _ :: value => (cs.takeWhile (· ≠ '='), some value)
  | [] => (cs, none)

/-- Whether a text begins with a name and an equals sign. -/
def isAssignment (cs : Octets) : Bool :=
  let (before, value) := splitEquals cs
  value.isSome && isName before

/-- Writes parts of a text between single quotation marks in turn with runs of such marks between
double ones. -/
def quotedParts : Nat → Octets → Octets
  | 0, _ => []
  | fuel + 1, cs =>
    let plain := cs.takeWhile (· ≠ '\x27')
    let marks := (cs.drop plain.length).takeWhile (· = '\x27')
    let rest := cs.drop (plain.length + marks.length)
    let shown := ['\x27'] ++ plain ++ ['\x27']
    let shown := if marks.isEmpty then shown else shown ++ ['"'] ++ marks ++ ['"']
    if rest.isEmpty then shown else shown ++ quotedParts fuel rest

/-- A text as a shell reads it back: between single quotation marks. -/
def quoted (cs : Octets) : Octets :=
  quotedParts (cs.length + 1) cs

/-- Splits a text into lines without their ends; a last line without an end counts. -/
def lines (cs : Octets) : List Octets :=
  let all := Text.pieces '\n' cs
  match all.getLast? with
  | some [] => all.dropLast
  | _ => all

/-- The value of a digit in a base up to 36. -/
def digit? (base : Nat) (c : Char) : Option Nat :=
  let value :=
    if c.isDigit then c.toNat - '0'.toNat
    else if c.isLower then c.toNat - 'a'.toNat + 10
    else if c.isUpper then c.toNat - 'A'.toNat + 10
    else 99
  if value < base then some value else none

/-- The number that digits in a base write. -/
def valueIn (base : Nat) (cs : Octets) : Nat :=
  cs.foldl (fun value c => base * value + (digit? base c).getD 0) 0

/-- Reads an unsigned number with the base in front, as in 0x1f and 017: its value and the rest. -/
def readNatural (cs : Octets) : Option (Nat × Octets) :=
  let run (base : Nat) (cs : Octets) : Nat × Octets :=
    let digits := cs.takeWhile fun c => (digit? base c).isSome
    (valueIn base digits, cs.drop digits.length)
  match cs with
  | '0' :: x :: d :: rest =>
    if (x == 'x' || x == 'X') && (digit? 16 d).isSome then some (run 16 (d :: rest))
    else some (run 8 cs)
  | '0' :: _ => some (run 8 cs)
  | c :: _ => if c.isDigit then some (run 10 cs) else none
  | [] => none

/-- Reads a number after white space and a sign: its value and the rest. A text without a number has
none. -/
def readInteger (read : Octets → Option (Nat × Octets)) (cs : Octets) : Option (Int × Octets) :=
  match cs.dropWhile isSpace with
  | '-' :: rest => (read rest).map fun (n, rest) => (-(n : Int), rest)
  | '+' :: rest => (read rest).map fun (n, rest) => ((n : Int), rest)
  | rest => (read rest).map fun (n, rest) => ((n : Int), rest)

/-- Reads an unsigned decimal number. -/
def readDecimal (cs : Octets) : Option (Nat × Octets) :=
  let digits := cs.takeWhile Char.isDigit
  if digits.isEmpty then none else some (Text.digitsValue digits, cs.drop digits.length)

/-- The number that a text writes in decimal digits, after a sign and with white space around it. -/
def decimal? (cs : Octets) : Option Int :=
  match readInteger readDecimal cs with
  | some (n, rest) => if rest.all isSpace then some n else none
  | none => none

/-- Whether a text is that of a binary file: its first line, as far as it belongs to the first eighty
bytes, holds a byte that is zero. -/
def isBinary (text : Octets) : Bool :=
  ((text.take 80).takeWhile (· ≠ '\n')).contains '\x00'

/-- What follows so many lines of a text. -/
def afterLines : Nat → Octets → Octets
  | 0, text => text
  | n + 1, text => afterLines n ((text.dropWhile (· ≠ '\n')).drop 1)

/-- A text without bytes that are zero. -/
def withoutZeros (text : Octets) : Octets :=
  text.filter (· ≠ '\x00')

end Octets

/-- The largest integer of the shell. -/
def largestInteger : Int := 9223372036854775807

/-- The smallest integer of the shell. -/
def smallestInteger : Int := -9223372036854775808

/-- Brings an integer into the range of 64 bits, by wrapping around. -/
def wrapped (n : Int) : Int :=
  Int.bmod n 18446744073709551616

/-- Brings an integer into the range of 64 bits, by stopping at the ends. -/
def clamped (n : Int) : Int :=
  if n < smallestInteger then smallestInteger
  else if largestInteger < n then largestInteger
  else n

end DocMend.Shell
