import DocMend.Shell.Print.Decimal
import DocMend.Shell.Print.Escape
import DocMend.Shell.Print.Moment
import DocMend.Shell.Print.Quoting
/-!
The two printing commands. A format is gone over again while arguments are left; arguments that are
no numbers are complained of, and the printing goes on with what could be read of them.
-/

set_option autoImplicit false
set_option relaxedAutoImplicit false

namespace DocMend.Shell

/-- What is wrong with a format or with an argument for it: the argument is no number, is one only at its
beginning, or is too large; the conversion is none, is not complete, or prints more than can be; or a
time has no form. -/
inductive PrintFault where
  | noNumber (argument : Octets)
  | partly (argument : Octets)
  | outOfRange (argument : Octets)
  | noConversion (source : Octets) (letter : Char)
  | incomplete (source : Octets)
  | tooWide
  | noTime (letter : Char)
deriving DecidableEq, Repr

namespace PrintFault

/-- What the POSIX language says of a fault. -/
def posixText : PrintFault → Octets
  | noNumber argument => argument ++ ": expected numeric value"
  | partly argument => argument ++ ": not completely converted"
  | outOfRange argument => argument ++ ": Numerical result out of range"
  | noConversion source _ => source ++ ": invalid directive"
  | incomplete _ => "missing format character"
  | tooWide => "xvsnprintf failed"
  | noTime _ => []

/-- What the extended language says of an argument that is no number. -/
def numberText (argument : Octets) : Octets :=
  argument ++ (match argument with
    | '0' :: 'x' :: _ => ": invalid hex number"
    | '0' :: c :: _ => if c.isDigit then ": invalid octal number" else ": invalid number"
    | _ => ": invalid number")

/-- What the extended language says of a fault. -/
def extendedText : PrintFault → Octets
  | noNumber argument => numberText argument
  | partly argument => numberText argument
  | outOfRange argument => "warning: " ++ argument ++ ": Numerical result out of range"
  | noConversion _ letter => ['\x60', letter] ++ "\x27: invalid format character".toList
  | incomplete source => ['\x60'] ++ source ++ "\x27: missing format character".toList
  | tooWide => []
  | noTime letter => "warning: \x60" ++ [letter] ++ "\x27: invalid time format specification".toList

/-- Whether a fault makes the command fail. -/
def counts (dialect : Dialect) : PrintFault → Bool
  | outOfRange _ => dialect == .posix
  | noTime _ => false
  | _ => true

end PrintFault

/-- How a command prints: its language, how it quotes, and what time it is, in thousandths of a
second. -/
structure PrintRules where
  dialect : Dialect
  quote : Octets → Octets := Quoting.backslashed
  now : Int := 0

/-- What a printing command wrote, what it complained of, and whether it gave up. -/
structure Printed where
  output : Octets := []
  complaints : List PrintFault := []
  fatal : Bool := false

namespace Printed

/-- One printed text after another. -/
def append (first second : Printed) : Printed :=
  ⟨first.output ++ second.output, first.complaints ++ second.complaints,
    first.fatal || second.fatal⟩

end Printed

/-- What echo prints in the POSIX language: its arguments with escapes replaced. -/
def posixEcho (arguments : List Octets) : Octets :=
  let (words, ends) := match arguments with
    | ['-', 'n'] :: rest => (rest, false)
    | _ => (arguments, true)
  let (text, whole) := Escape.text .posix (Text.joined [' '] words)
  if ends && whole then text ++ ['\n'] else text

/-- Whether a word is one of the options of echo in the extended language. -/
def isEchoOption (word : Octets) : Bool :=
  match word with
  | '-' :: c :: letters => (c :: letters).all fun c => c == 'n' || c == 'e' || c == 'E'
  | _ => false

/-- What echo prints in the extended language, where escapes are replaced on demand. -/
def extendedEcho (arguments : List Octets) : Octets :=
  let options := arguments.takeWhile isEchoOption
  let letters := options.flatten.filter (· ≠ '-')
  let ends := !letters.contains 'n'
  let escapes := (letters.filter (· ≠ 'n')).getLast? = some 'e'
  let words := Text.joined [' '] (arguments.drop options.length)
  let (text, whole) := if escapes then Escape.text .extended words else (words, true)
  if ends && whole then text ++ ['\n'] else text

/-- A conversion of a format: its flags, width and precision, and its letter. -/
structure Conversion where
  flags : Octets := []
  width : Nat := 0
  precision : Option Nat := none
  letter : Char

namespace Conversion

/-- Fills a text up to the width. -/
def fill (c : Conversion) (text : Octets) : Octets :=
  let padding := List.replicate (c.width - text.length) ' '
  if c.flags.contains '-' then text ++ padding else padding ++ text

/-- Fills a number up to the width, with zeros between its sign and its digits where they are asked
for. -/
def fillNumber (c : Conversion) (zeros : Bool) (sign digits : Octets) : Octets :=
  if c.flags.contains '0' && !c.flags.contains '-' && zeros then
    sign ++ Decimal.padded (c.width - sign.length) digits
  else c.fill (sign ++ digits)

/-- The sign of a number that is or is not negative. -/
def sign (c : Conversion) (negative : Bool) : Octets :=
  if negative then ['-']
  else if c.flags.contains '+' then ['+']
  else if c.flags.contains ' ' then [' ']
  else []

/-- Prints a text, of which the precision may cut the end. -/
def text (c : Conversion) (cs : Octets) : Octets :=
  c.fill (match c.precision with
  | some n => cs.take n
  | none => cs)

/-- Prints an integer. -/
def integer (c : Conversion) (n : Int) : Octets :=
  let isSigned := c.letter == 'd' || c.letter == 'i'
  let magnitude := if isSigned then n.natAbs else (n % 18446744073709551616).toNat
  let base := if c.letter == 'o' then 8 else if c.letter == 'x' || c.letter == 'X' then 16 else 10
  let digits := if magnitude = 0 && c.precision = some 0 then [] else Nat.toDigits base magnitude
  let digits := if c.letter == 'X' then digits.map Char.toUpper else digits
  let digits := Decimal.padded (c.precision.getD 0) digits
  let alternate := c.flags.contains '#'
  let digits :=
    if alternate && c.letter == 'o' && digits.head? ≠ some '0' then '0' :: digits else digits
  let lead :=
    if isSigned then c.sign (n < 0)
    else if alternate && magnitude ≠ 0 && c.letter == 'x' then ['0', 'x']
    else if alternate && magnitude ≠ 0 && c.letter == 'X' then ['0', 'X']
    else []
  c.fillNumber c.precision.isNone lead digits

/-- Prints a number with a fraction. -/
def decimal (c : Conversion) (negative : Bool) (magnitude : Decimal.Magnitude) : Octets :=
  let alternate := c.flags.contains '#'
  let places := c.precision.getD 6
  let lower := c.letter.toLower
  let upper (cs : Octets) : Octets := if c.letter.isUpper then cs.map Char.toUpper else cs
  match magnitude with
  | .infinite => c.fill (upper (c.sign negative ++ "inf".toList))
  | .undefined => c.fill (upper (c.sign negative ++ "nan".toList))
  | .finite q =>
    if lower == 'a' then
      let digits := Decimal.hexadecimal alternate c.precision q
      c.fillNumber true (c.sign negative ++ upper ['0', 'x']) (upper digits)
    else
    let digits :=
      if lower == 'f' then Decimal.fixed alternate places q
      else if lower == 'g' then Decimal.general alternate places q
      else Decimal.scientific alternate places q
    c.fillNumber true (c.sign negative) (upper digits)

end Conversion

/-- What a format works on: the arguments that are left, what was printed so far in reverse order,
and whether any argument was asked for. -/
structure Printing where
  arguments : List Octets
  output : List Octets := []
  complaints : List PrintFault := []
  asked : Bool := false

namespace Printing

/-- Takes the next argument. -/
def take (p : Printing) : Option Octets × Printing :=
  (p.arguments.head?, { p with arguments := p.arguments.drop 1, asked := true })

/-- Adds a text. -/
def put (p : Printing) (text : Octets) : Printing :=
  { p with output := text :: p.output }

/-- Adds a complaint. -/
def complain (p : Printing) (fault : PrintFault) : Printing :=
  { p with complaints := fault :: p.complaints }

/-- Complains of an argument that was not read to its end. -/
def checkRest (p : Printing) (argument rest : Octets) (outOfRange : Bool) : Printing :=
  if !rest.isEmpty then
    p.complain (if rest.length = argument.length then .noNumber argument else .partly argument)
  else if outOfRange then p.complain (.outOfRange argument)
  else p

/-- Takes an argument as an integer. A quotation mark stands for the number of the character after
it. -/
def takeInteger (isSigned : Bool) (p : Printing) : Int × Printing :=
  match p.take with
  | (none, p) => (0, p)
  | (some argument, p) =>
    match argument with
    | '"' :: rest => ((rest.head?.getD '\x00').toNat, p)
    | '\x27' :: rest => ((rest.head?.getD '\x00').toNat, p)
    | _ =>
      match Octets.readInteger Octets.readNatural argument with
      | none => (0, checkRest p argument argument false)
      | some (n, rest) =>
        let low := if isSigned then smallestInteger else -18446744073709551615
        let high := if isSigned then largestInteger else 18446744073709551615
        let value := if n < low then (if isSigned then low else high)
          else if high < n then high else n
        (value, checkRest p argument rest (value ≠ n))

/-- Takes an argument as a number with a fraction. -/
def takeDecimal (p : Printing) : Bool × Decimal.Magnitude × Printing :=
  match p.take with
  | (none, p) => (false, .finite 0, p)
  | (some argument, p) =>
    match argument with
    | '"' :: rest => (false, .finite ((rest.head?.getD '\x00').toNat : Rat), p)
    | '\x27' :: rest => (false, .finite ((rest.head?.getD '\x00').toNat : Rat), p)
    | _ =>
      let parsed := Decimal.parse argument
      (parsed.negative, parsed.magnitude, checkRest p argument parsed.rest parsed.overflow)

/-- Ends the printing. -/
def finish (p : Printing) (fatal : Bool) : Printed :=
  ⟨p.output.reverse.flatten, p.complaints.reverse, fatal⟩

/-- Gives up with a complaint. -/
def giveUp (p : Printing) (fault : PrintFault) : Printing ⊕ Printed :=
  .inr ((p.complain fault).finish true)

/-- The first width or precision that no text can have. -/
def tooLarge : Nat := 2147483648

/-- The longest run of blanks or zeros that is written out: more than any reader of the output
takes. -/
def longestPadding : Nat := 33554464

/-- Reads a number of a format: digits, or an asterisk that takes an argument, of which 32 bits
count. -/
def takeSize (dialect : Dialect) (p : Printing) (cs : Octets) : Int × Octets × Printing :=
  match cs with
  | '*' :: rest =>
    let (n, p) := p.takeInteger true
    let size := if dialect == .extended then max (-(tooLarge : Int)) (min n (tooLarge - 1))
      else Int.bmod n (2 * tooLarge)
    (size, rest, p)
  | _ =>
    let digits := cs.takeWhile Char.isDigit
    (Text.digitsValue digits, cs.drop digits.length, p)

/-- Takes an argument as a time, in seconds: without one, or with a negative one, it is now. -/
def takeTime (now : Int) (p : Printing) : Moment × Printing :=
  match p.arguments with
  | [] => (Moment.ofThousandths now, { p with asked := true })
  | _ =>
    let (n, p) := p.takeInteger true
    (Moment.ofThousandths (if n < 0 then now else n * 1000), p)

/-- Splits a text at the parenthesis that closes one before it. -/
def splitParentheses : Nat → Octets → Octets × Octets
  | _, [] => ([], [])
  | depth, '(' :: rest =>
    let (inside, after) := splitParentheses (depth + 1) rest
    ('(' :: inside, after)
  | 0, ')' :: rest => ([], rest)
  | depth + 1, ')' :: rest =>
    let (inside, after) := splitParentheses depth rest
    (')' :: inside, after)
  | depth, c :: rest =>
    let (inside, after) := splitParentheses depth rest
    (c :: inside, after)

/-- Prints one argument by a conversion; the printing may be over after it. -/
def convert (rules : PrintRules) (source : Octets) (c : Conversion) (p : Printing) :
    Printing ⊕ Printed :=
  let letter := c.letter
  let dialect := rules.dialect
  if letter == 's' then
    let (argument, p) := p.take
    .inl (p.put (c.text (argument.getD [])))
  else if letter == 'b' then
    let (argument, p) := p.take
    let (text, whole) := Escape.text dialect (argument.getD [])
    let p := p.put (c.text text)
    if whole then .inl p else .inr (p.finish false)
  else if letter == 'q' && dialect == .extended then
    let (argument, p) := p.take
    .inl (p.put (c.text (rules.quote (argument.getD []))))
  else if letter == 'Q' && dialect == .extended then
    let (argument, p) := p.take
    let cut := match c.precision with
      | some n => (argument.getD []).take n
      | none => argument.getD []
    .inl (p.put (c.fill (rules.quote cut)))
  else if letter == 'c' then
    let (argument, p) := p.take
    let text := match argument with
      | some (d :: _) => [d]
      | _ => if dialect == .extended then [] else ['\x00']
    .inl (p.put (c.fill text))
  else if letter == 'n' && dialect == .extended then .inl p.take.2
  else if letter == 'd' || letter == 'i' then
    let (n, p) := p.takeInteger true
    .inl (p.put (c.integer n))
  else if letter == 'o' || letter == 'u' || letter == 'x' || letter == 'X' then
    let (n, p) := p.takeInteger false
    .inl (p.put (c.integer n))
  else if "aAeEfFgG".toList.contains letter then
    let (negative, magnitude, p) := p.takeDecimal
    .inl (p.put (c.decimal negative magnitude))
  else p.giveUp (.noConversion source letter)

/-- Reads a conversion after its percent sign and prints it: the rest of the format, or what was
printed in all. -/
def directive (rules : PrintRules) (cs : Octets) (p : Printing) :
    (Octets × Printing) ⊕ Printed :=
  let dialect := rules.dialect
  let marks : Octets := if dialect == .extended then "#-+ 0\x27" else "#-+ 0"
  let flags := cs.takeWhile fun c => marks.contains c
  let rest := cs.drop flags.length
  let (width, rest, p) := p.takeSize dialect rest
  let flags := if width < 0 then '-' :: flags else flags
  let (precision, rest, p) : Option Nat × Octets × Printing := match rest with
    | '.' :: after =>
      let (n, rest, p) := p.takeSize dialect after
      (if n < 0 then none else some n.toNat, rest, p)
    | _ => (none, rest, p)
  let isExtended := dialect == .extended
  let rest := if isExtended then rest.dropWhile fun c => "hjlLtz".toList.contains c else rest
  match rest with
  | [] => .inr ((p.complain (.incomplete ('%' :: cs))).finish true)
  | letter :: rest =>
    if isExtended && letter == '(' then
      let (form, after) := splitParentheses 0 rest
      match after with
      | 'T' :: after =>
        let (moment, p) := p.takeTime rules.now
        let form : Octets := if form.isEmpty then "%X" else form
        let c : Conversion := ⟨flags, min width.natAbs longestPadding, precision, 's'⟩
        .inl (after, p.put (c.text (moment.format form)))
      | after =>
        let p := p.complain (.noTime (after.head?.getD '\x00'))
        .inl (cs, p.put ['%'])
    else
    let source := '%' :: cs.take (cs.length - rest.length)
    if tooLarge ≤ max width.natAbs (precision.getD 0) then
      if isExtended then .inl (rest, p.take.2)
      else .inr ((p.complain .tooWide).finish true)
    else
      let width := min width.natAbs longestPadding
      let precision := precision.map (min · longestPadding)
      match p.convert rules source ⟨flags, width, precision, letter⟩ with
      | .inl p => .inl (rest, p)
      | .inr printed => .inr printed

/-- Goes over a format once. -/
def once (rules : PrintRules) : Nat → Octets → Printing → Printing ⊕ Printed
  | 0, _, p => .inl p
  | fuel + 1, cs, p =>
    match cs with
    | [] => .inl p
    | '\\' :: rest =>
      let (text, rest) := Escape.read rules.dialect rest
      once rules fuel rest (p.put text)
    | '%' :: '%' :: rest => once rules fuel rest (p.put ['%'])
    | '%' :: rest =>
      match p.directive rules rest with
      | .inl (rest, p) => once rules fuel rest p
      | .inr printed => .inr printed
    | _ =>
      let plain := cs.takeWhile fun c => c ≠ '\\' && c ≠ '%'
      once rules fuel (cs.drop plain.length) (p.put plain)

/-- Goes over a format again and again while arguments are left. -/
def run (rules : PrintRules) (format : Octets) : Nat → Printing → Printed
  | 0, p => p.finish false
  | fuel + 1, p =>
    match p.once rules (format.length + 1) format with
    | .inr printed => printed
    | .inl p =>
      if p.asked && !p.arguments.isEmpty then run rules format fuel { p with asked := false }
      else p.finish false

end Printing

/-- What printf prints for a format and its arguments. -/
def printed (rules : PrintRules) (format : Octets) (arguments : List Octets) : Printed :=
  Printing.run rules format (arguments.length + 1) { arguments }

end DocMend.Shell
