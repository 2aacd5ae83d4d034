import DocMend.Shell.Scan.Number
import DocMend.Shell.Scan.Table
/-!
Values of scanning programs, and formats that write them. A text from outside counts as a number where it
is written like one; a variable without a value is zero and the empty text at once.
-/

set_option autoImplicit false
set_option relaxedAutoImplicit false

namespace DocMend.Shell.Scan

/-- A value. -/
inductive Value where
  | missing
  | number (x : Float)
  | text (text : Octets)
  /-- A text from outside. -/
  | input (text : Octets)

/-- What is wrong with a format: a value for it is missing, or one of its conversions is none. -/
inductive FormatFault where
  | missing
  | improper (number : Nat)
deriving DecidableEq, Repr

/-- The wording of a fault in a format that was given to a function. -/
def FormatFault.text (fault : FormatFault) (function format : Octets) : Octets :=
  let place := function ++ "(\"" ++ format ++ "\")"
  match fault with
  | missing => "not enough arguments passed to " ++ place
  | improper number => "improper conversion(number " ++ Octets.ofNat number ++ ") in " ++ place

/-- Orders texts by their bytes. -/
def order : Octets → Octets → Ordering
  | [], [] => .eq
  | [], _ :: _ => .lt
  | _ :: _, [] => .gt
  | c :: cs, d :: ds => if c.toNat < d.toNat then .lt else if d.toNat < c.toNat then .gt else order cs ds

/-- Orders numbers; what is no number is equal to every one. -/
def orderNumbers (x y : Float) : Ordering :=
  if x < y then .lt else if y < x then .gt else .eq

namespace Value

/-- The number that a value stands for. -/
def toNumber : Value → Float
  | missing => 0
  | number x => x
  | text cs => numberOf cs
  | input cs => numberOf cs

/-- A text from outside as the number or the text that it stands for. -/
def settled : Value → Value
  | input cs =>
    match wholeNumber? cs with
    | some x => number x
    | none => text cs
  | v => v

/-- Whether a value counts as true. -/
def holds (v : Value) : Bool :=
  match v.settled with
  | missing => false
  | number x => x != 0
  | text cs => !cs.isEmpty
  | input cs => !cs.isEmpty

/-- A whole number as a value. -/
def ofNat (n : Nat) : Value :=
  number (Float.ofNat n)

/-- The value of a condition. -/
def ofBool (b : Bool) : Value :=
  number (if b then 1 else 0)

end Value

namespace Formatting

/-- The flags of a conversion, and the rest. -/
def flags (cs : Octets) : Octets × Octets :=
  let isFlag (c : Char) : Bool := c == '-' || c == '+' || c == ' ' || c == '#' || c == '0'
  (cs.takeWhile isFlag, cs.dropWhile isFlag)

/-- The widest field that is written out. -/
def widest : Nat := 1000000

/-- A width or a precision, which a star takes from the values. -/
def extent (cs : Octets) (values : List Value) : Option Int × Octets × List Value :=
  match cs with
  | '*' :: rest =>
    match values with
    | v :: values => (some (toInteger v.toNumber), rest, values)
    | [] => (none, rest, [])
  | cs =>
    let digits := cs.takeWhile Char.isDigit
    let n := if digits.isEmpty then none else some (Text.digitsValue digits : Int)
    (n, cs.drop digits.length, values)

/-- A number as a natural number for conversions without a sign. -/
def unsigned (x : Float) : Int :=
  if x.isNaN || x < 0 then toInteger x
  else if x.isInf then (largestNatural : Int)
  else
    let q := toRat x
    min (q.num.tdiv q.den) (largestNatural : Int)

/-- The character that a value stands for: the one with its number, or the first one of its text. -/
def character (v : Value) : Char :=
  match v.settled with
  | .text cs => cs.headD '\x00'
  | v => Escape.byteOf (toInteger v.toNumber % 256).toNat

/-- Writes a value by a conversion; the letter has to be one that there is. -/
def converted? (text : Value → Octets) (c : Conversion) (sized : Bool) (v : Value) : Option Octets :=
  let letter := c.letter
  if letter == 's' then if sized then none else some (c.text (text v))
  else if letter == 'c' then
    if sized then none else some ({ c with precision := none }.text [character v])
  else if letter == 'd' || letter == 'i' then
    some ({ c with letter := 'd' }.integer (toInteger v.toNumber))
  else if letter == 'u' || letter == 'o' || letter == 'x' || letter == 'X' then
    some (c.integer (unsigned v.toNumber))
  else if "eEfFgG".toList.contains letter then some (printed c v.toNumber)
  else none

/-- Writes values by a format: the text up to a fault, and the fault. -/
def write (text : Value → Octets) :
    Nat → (number : Nat) → Octets → List Value → List Octets → List Octets × Option FormatFault
  | 0, _, _, _, done => (done, none)
  | _, _, [], _, done => (done, none)
  | fuel + 1, number, '%' :: '%' :: rest, values, done =>
    write text fuel (number + 1) rest values (['%'] :: done)
  | fuel + 1, number, '%' :: rest, values, done =>
    let (signs, rest) := flags rest
    let (width, rest, values) := extent rest values
    let (precision, rest, values) := match rest with
      | '.' :: rest =>
        let (n, rest, values) := extent rest values
        (some (n.getD 0), rest, values)
      | rest => (none, rest, values)
    let sizes := rest.takeWhile fun c => c == 'l' || c == 'h'
    let rest := rest.drop sizes.length
    let width := width.getD 0
    let conversion : Conversion :=
      { flags := if width < 0 then '-' :: signs else signs
        width := min width.natAbs widest
        precision := precision.bind fun n => if n < 0 then none else some (min n.toNat widest)
        letter := rest.headD '\x00' }
    match values with
    | [] => (done, some .missing)
    | v :: values =>
      match converted? text conversion (!sizes.isEmpty) v with
      | none => (done, some (.improper number))
      | some cs => write text fuel (number + 1) (rest.drop 1) values (cs :: done)
  | fuel + 1, number, cs, values, done =>
    let plain := cs.takeWhile (· ≠ '%')
    write text fuel number (cs.drop plain.length) values (plain :: done)

end Formatting

/-- Writes values by a format. The text stands up to the first fault. -/
def formatted (text : Value → Octets) (format : Octets) (values : List Value) :
    Octets × Option FormatFault :=
  let (done, fault) := Formatting.write text (format.length + 1) 1 format values []
  (done.reverse.flatten, fault)

/-- Writes a number: the digits of an integer, or what a format makes of it. -/
def written (format : Octets) (x : Float) : Octets :=
  match digits? x with
  | some digits => digits
  | none => (formatted (fun _ => []) format [.number x]).1

/-- The text that a value stands for, where a format writes fractions. -/
def Value.toText (format : Octets) : Value → Octets
  | missing => []
  | number x => written format x
  | text cs => cs
  | input cs => cs

/-- Compares values: as numbers, unless one of them is a text. -/
def Value.compare (format : Octets) (v w : Value) : Ordering :=
  match v.settled, w.settled with
  | .text _, _ => order (v.toText format) (w.toText format)
  | _, .text _ => order (v.toText format) (w.toText format)
  | a, b => orderNumbers a.toNumber b.toNumber

/-- The key that a value stands for. -/
def Value.toKey (format : Octets) : Value → Key
  | missing => .text []
  | number x =>
    match digits? x with
    | some digits =>
      let n := toInteger x
      if Octets.ofInt n == digits then .integer n else .text digits
    | none => .text (written format x)
  | text cs => .text cs
  | input cs => .text cs

end DocMend.Shell.Scan
