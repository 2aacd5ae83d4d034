import DocMend.Shell.Print.Format
import DocMend.Shell.Regex.Reading
import DocMend.Shell.Regex.Search
import DocMend.Shell.Tool.Show
/-!
Tools that calculate: sequences of numbers, expressions, and factors.
-/

set_option autoImplicit false
set_option relaxedAutoImplicit false

namespace DocMend.Shell.Tool

/-- A number of a sequence: its value, the width of its text, and its places behind the point, if they
are known. -/
structure SequenceNumber where
  value : Rat
  width : Nat
  places : Option Nat
deriving DecidableEq, Repr

namespace SequenceNumber

/-- Reads a number of a sequence. -/
def read? (text : Octets) : Option SequenceNumber :=
  let cs := text.dropWhile fun c => Octets.isSpace c || c == '+'
  let parsed := Decimal.parse cs
  if !parsed.rest.isEmpty || cs.isEmpty then none
  else
    match parsed.magnitude with
    | .finite _ =>
      let (whole, rest) := cs.span fun c => c ≠ '.' && c ≠ 'e' && c ≠ 'E'
      if cs.any fun c => c == 'x' || c == 'X' || c == 'p' || c == 'P' then
        match parsed.magnitude with
        | .finite q => some ⟨if parsed.negative then -q else q, cs.length, if cs.contains '.' then none else some 0⟩
        | _ => none
      else
        let fraction := match rest with
          | '.' :: more => more.takeWhile Char.isDigit
          | _ => []
        let hasPoint := rest.head? = some '.'
        let exponentText := cs.dropWhile fun c => c ≠ 'e' && c ≠ 'E'
        let exponent : Int := (Octets.decimal? (exponentText.drop 1)).getD 0
        let digits := (whole ++ fraction).filter Char.isDigit
        let magnitude : Rat :=
          (Text.digitsValue digits : Rat) * Number.powerOfTen (exponent - fraction.length)
        let places : Nat :=
          if exponent < 0 then fraction.length + exponent.natAbs
          else fraction.length - min fraction.length exponent.natAbs
        let width : Nat := cs.length
        let width := if hasPoint && fraction.isEmpty then width - 1
          else if hasPoint && !(whole.getLast?.any Char.isDigit) then width + 1
          else width
        let width : Nat :=
          if exponentText.isEmpty then width
          else
            let width := width - exponentText.length
            if exponent < 0 then
              let shifted := exponent.natAbs
              if hasPoint then
                (if whole.isEmpty then width else width + shifted)
              else width + shifted + 1
            else
              let shifted := exponent.natAbs
              let width := if hasPoint && places = 0 && !fraction.isEmpty then width - 1 else width
              width + (shifted - min fraction.length shifted)
        some ⟨if parsed.negative then -magnitude else magnitude, width, some places⟩
    | .infinite =>
      let huge : Rat := Number.powerOfTen 5000
      some ⟨if parsed.negative then -huge else huge, cs.length, some 0⟩
    | .undefined => none

end SequenceNumber

/-- A format with one conversion: the text before it, the conversion, and the text behind it. -/
structure NumberFormat where
  before : Octets
  conversion : Conversion
  after : Octets

namespace NumberFormat

/-- Reads text with doubled percent signs up to a conversion: the text and the rest. -/
def plainText : Octets → Octets × Octets
  | '%' :: '%' :: rest =>
    let (text, rest) := plainText rest
    ('%' :: text, rest)
  | '%' :: rest => ([], '%' :: rest)
  | c :: rest =>
    let (text, rest) := plainText rest
    (c :: text, rest)
  | [] => ([], [])

/-- Reads a format for a number. -/
def read (format : Octets) : Except Octets NumberFormat := do
  let wrong (text : Octets) : Octets := "format ".toList ++ marked format ++ ' ' :: text
  let (before, rest) := plainText format
  match rest with
  | [] => throw (wrong "has no % directive")
  | _ :: rest =>
    let flags := rest.takeWhile fun c => "-+#0 \x27".toList.contains c
    let rest := rest.drop flags.length
    let width := rest.takeWhile Char.isDigit
    let rest := rest.drop width.length
    let (precision, rest) : Option Nat × Octets := match rest with
      | '.' :: more =>
        let digits := more.takeWhile Char.isDigit
        (some (Text.digitsValue digits), more.drop digits.length)
      | rest => (none, rest)
    let rest := match rest with
      | 'L' :: rest => rest
      | rest => rest
    match rest with
    | [] => throw (wrong "ends in %")
    | letter :: rest =>
      if !("efgaEFGA".toList.contains letter) then
        throw (wrong ("has unknown %".toList ++ [letter] ++ " directive".toList))
      let (after, more) := plainText rest
      if !more.isEmpty then throw (wrong "has too many % directives")
      return ⟨before, { flags, width := Text.digitsValue width, precision, letter }, after⟩

/-- Writes a number by a format. -/
def write (f : NumberFormat) (value : Rat) : Octets :=
  let magnitude : Rat := if value < 0 then -value else value
  f.before ++ f.conversion.decimal (value < 0) (.finite magnitude) ++ f.after

end NumberFormat

/-- How many numbers there are from one to another. -/
def sequenceLength (first step last : Rat) : Nat :=
  if step = 0 then 0 else (((last - first) / step).floor + 1).toNat

/-- The first numbers of a sequence. -/
def sequence (first step : Rat) (count : Nat) : List Rat :=
  (List.range count).map fun (n : Nat) => first + ((n : Nat) : Rat) * step

/-- The options of the tool that prints sequences. -/
def seqOptions : Options where
  letters := "f:s:w"
  names := ["equal-width=w", "format=f", "separator=s"]
  leading := true

/-- Prints numbers from one to another. -/
def seq : Tool := fun arguments => do
  -- A negative number is no option.
  let isNegative (word : Octets) : Bool := match word with
    | '-' :: c :: _ => c.isDigit || c == '.'
    | _ => false
  let early := arguments.takeWhile fun word => !isNegative word
  let early := match seqOptions.read early with
    | .ok (_, []) => early ++ [['-', '-']] ++ arguments.drop early.length
    | _ => arguments
  let (given, numbers) ← options "seq" 1 seqOptions early
  if numbers.isEmpty then refuse "seq" 1 "missing operand"
  match numbers[3]? with
  | some extra => refuse "seq" 1 ("extra operand " ++ marked extra)
  | none => pure ()
  let format? ← match valueOf? given "f" with
    | some text =>
      match NumberFormat.read text with
      | .ok format => pure (some format)
      | .error fault => abandon "seq" 1 fault
    | none => pure none
  if format?.isSome && has given "w" then
    refuse "seq" 1 "format string may not be specified when printing equal width strings"
  let values ← numbers.mapM fun text => do
    match SequenceNumber.read? text with
    | some n => pure n
    | none =>
      let isUndefined := match (Decimal.parse text).magnitude with
        | .undefined => true
        | _ => false
      refuse "seq" 1 ((if isUndefined then "invalid " ++ marked "not-a-number" ++ " argument: "
        else "invalid floating point argument: ") ++ marked text)
  let one : SequenceNumber := ⟨1, 1, some 0⟩
  let (first, step, last) := match values with
    | [last] => (one, one, last)
    | [first, last] => (first, one, last)
    | [first, step, last] => (first, step, last)
    | _ => (one, one, one)
  if step.value = 0 then
    refuse "seq" 1 ("invalid Zero increment value: " ++ marked ((numbers[1]?).getD []))
  let format : NumberFormat := match format? with
    | some format => format
    | none =>
      match first.places, step.places, last.places with
      | some a, some b, some c =>
        let places := max a b
        let widen (n : SequenceNumber) (p : Nat) : Nat :=
          n.width + places - p + (if p = 0 && 0 < places then 1 else 0)
        let lastWidth := if 0 < c && places = 0 then last.width - c - 1
          else last.width + places - c + (if c = 0 && 0 < places then 1 else 0)
        let width := if has given "w" then max (widen first a) lastWidth else 0
        let flags : Octets := if has given "w" then ['0'] else []
        ⟨[], { flags, width, precision := some places, letter := 'f' }, []⟩
      | _, _, _ => ⟨[], { letter := 'g' }, []⟩
  let between := (valueOf? given "s").getD ['\n']
  let count := sequenceLength first.value step.value last.value
  -- Who prints a sequence of this length is ended when nobody reads it any more.
  if mostRepetitions < count then
    for value in sequence first.value step.value mostRepetitions do
      Run.print (format.write value ++ between)
    return 0
  let texts := (sequence first.value step.value count).map format.write
  if !texts.isEmpty then Run.print (Text.joined between texts ++ ['\n'])
  return 0

/-- A value of an expression: a text, which may be that of a number. -/
abbrev ExprValue := Octets

/-- Why an expression has no value. -/
inductive ExprFault where
  | missingAfter (word : Octets)
  | unexpected (word : Octets)
  | expectingClose (after : Octets)
  | expectingCloseInstead (word : Octets)
  | notInteger
  | divisionByZero
  | badPattern (fault : Regex.Fault)
deriving DecidableEq, Repr

namespace ExprFault

/-- The wording of a fault. -/
def text : ExprFault → Octets
  | missingAfter word => "syntax error: missing argument after ".toList ++ marked word
  | unexpected word => "syntax error: unexpected argument ".toList ++ marked word
  | expectingClose word => "syntax error: expecting \x27)\x27 after ".toList ++ marked word
  | expectingCloseInstead word =>
    "syntax error: expecting \x27)\x27 instead of ".toList ++ marked word
  | notInteger => "non-integer argument".toList
  | divisionByZero => "division by zero".toList
  | badPattern fault => fault.text.toList

/-- The status that a fault gives. -/
def status : ExprFault → Nat
  | _ => 2

end ExprFault

namespace Expr

/-- The words that are left and the word before them. -/
structure State where
  before : Octets := []
  rest : List Octets

/-- A reader of expressions. -/
abbrev Reader := StateT State (Except ExprFault)

/-- Takes a word if it is one of some. -/
def accept? (words : List String) : Reader (Option String) := do
  let s ← get
  match s.rest with
  | word :: rest =>
    if words.contains (Octets.name word) then
      set ({ before := word, rest } : State)
      return some (Octets.name word)
    else return none
  | [] => return none

/-- Takes the next word, which has to be there. -/
def next : Reader Octets := do
  let s ← get
  match s.rest with
  | word :: rest =>
    set ({ before := word, rest } : State)
    return word
  | [] => throw (.missingAfter s.before)

/-- The integer that a text writes. -/
def integer? (text : ExprValue) : Option Int :=
  match text with
  | '-' :: digits => if Text.isDigits digits then some (-(Text.digitsValue digits : Int)) else none
  | digits => if Text.isDigits digits then some (Text.digitsValue digits) else none

/-- The integer that a text has to write. -/
def integer (text : ExprValue) : Reader Int :=
  match integer? text with
  | some n => return n
  | none => throw .notInteger

/-- Whether a value counts as nothing: the empty text, or a zero. -/
def isNothing (value : ExprValue) : Bool :=
  value.isEmpty || integer? value = some 0

/-- What a text and a pattern at its beginning have in common: the text of the first group if there is
one, and otherwise the length. -/
def matched (text pattern : Octets) : Reader ExprValue := do
  match Regex.read { extended := false } pattern with
  | .error fault => throw (.badPattern fault)
  | .ok (r, groups) =>
    let subject := Regex.Subject.ofOctets text
    match r.graph.matchAt? subject 0 with
    | some found => return if groups = 0 then Octets.ofNat found.stop else found.text subject 1
    | none => return if groups = 0 then ['0'] else []

/-- Compares values: as numbers if both are, and otherwise as texts. -/
def compareValues (a b : ExprValue) : Ordering :=
  match integer? a, integer? b with
  | some m, some n => compare m n
  | _, _ => if a == b then .eq else if textBefore a b then .lt else .gt

/-- The value of a condition. -/
def ofBool (b : Bool) : ExprValue :=
  if b then ['1'] else ['0']

/-- The operators from the loosest to the tightest. -/
def levels : List (List String) :=
  [["|"], ["&"], ["<", "<=", "=", "==", "!=", ">=", ">"], ["+", "-"], ["*", "/", "%"], [":"]]

/-- Applies an operator. -/
def apply (operator : String) (a b : ExprValue) (evaluates : Bool) : Reader ExprValue := do
  let order := compareValues a b
  match operator with
  | "|" => return if !isNothing a then a else if !isNothing b then b else ['0']
  | "&" => return if isNothing a || isNothing b then ['0'] else a
  | "<" => return ofBool (order = .lt)
  | "<=" => return ofBool (order ≠ .gt)
  | "=" => return ofBool (order = .eq)
  | "==" => return ofBool (order = .eq)
  | "!=" => return ofBool (order ≠ .eq)
  | ">=" => return ofBool (order ≠ .lt)
  | ">" => return ofBool (order = .gt)
  | ":" => if evaluates then matched a b else return ['0']
  | operator =>
    if !evaluates then return ['0']
    let m ← integer a
    let n ← integer b
    match operator with
    | "+" => return Octets.ofInt (m + n)
    | "-" => return Octets.ofInt (m - n)
    | "*" => return Octets.ofInt (m * n)
    | "/" =>
      if n = 0 then throw .divisionByZero
      return Octets.ofInt (Int.tdiv m n)
    | _ =>
      if n = 0 then throw .divisionByZero
      return Octets.ofInt (Int.tmod m n)

mutual
/-- Reads an expression of some levels. -/
def level (evaluates : Bool) : Nat → List (List String) → Reader ExprValue
  | 0, _ => return []
  | fuel + 1, levels =>
    match levels with
    | [] => keyword evaluates fuel
    | operators :: tighter => do
      let first ← level evaluates fuel tighter
      more evaluates fuel operators tighter first

/-- Reads the operators of a level and what follows them. -/
def more (evaluates : Bool) : Nat → List String → List (List String) → ExprValue → Reader ExprValue
  | 0, _, _, left => return left
  | fuel + 1, operators, tighter, left => do
    match ← accept? operators with
    | none => return left
    | some operator =>
      let evaluatesRight := evaluates &&
        !(operator == "|" && !isNothing left) && !(operator == "&" && isNothing left)
      let right ← level evaluatesRight fuel tighter
      let value ← apply operator left right evaluates
      more evaluates fuel operators tighter value

/-- Reads a function and its arguments, or a value. -/
def keyword (evaluates : Bool) : Nat → Reader ExprValue
  | 0 => return []
  | fuel + 1 => do
    match ← accept? ["+", "length", "match", "index", "substr"] with
    | some "+" => next
    | some "length" =>
      let text ← keyword evaluates fuel
      return Octets.ofNat text.length
    | some "match" =>
      let text ← keyword evaluates fuel
      let pattern ← keyword evaluates fuel
      if evaluates then matched text pattern else return []
    | some "index" =>
      let text ← keyword evaluates fuel
      let chars ← keyword evaluates fuel
      let place := (text.takeWhile fun c => !chars.contains c).length
      return Octets.ofNat (if place = text.length then 0 else place + 1)
    | some "substr" =>
      let text ← keyword evaluates fuel
      let start ← keyword evaluates fuel
      let count ← keyword evaluates fuel
      match integer? start, integer? count with
      | some m, some n =>
        if m ≤ 0 || n ≤ 0 then return []
        return (text.drop (m.toNat - 1)).take n.toNat
      | _, _ => return []
    | _ =>
      match ← accept? ["(", ")"] with
      | some "(" =>
        let value ← level evaluates fuel levels
        match (← get).rest with
        | [] => throw (.expectingClose (← get).before)
        | word :: _ =>
          match ← accept? [")"] with
          | some _ => return value
          | none => throw (.expectingCloseInstead word)
      | some _ => throw (.unexpected [')'])
      | none => next
end

end Expr

/-- Computes the value of an expression. -/
def expr : Tool := fun arguments => do
  let arguments := match arguments with
    | [['-', '-', 'h', 'e', 'l', 'p']] => arguments
    | ['-', '-'] :: rest => rest
    | rest => rest
  if arguments == ["--help".toList] then
    Run.print (helpOf "expr")
    return 0
  if arguments.isEmpty then refuse "expr" 2 "missing operand"
  let fuel := 16 * (arguments.length + 2)
  match (Expr.level true fuel Expr.levels).run { rest := arguments } with
  | .error fault => abandon "expr" fault.status fault.text
  | .ok (value, after) =>
    match after.rest with
    | word :: _ => abandon "expr" 2 (ExprFault.unexpected word).text
    | [] =>
      Run.printLine value
      return if Expr.isNothing value then 1 else 0

/-- The prime factors of a number, from a divisor on. -/
def primeFactors : Nat → (divisor n : Nat) → List Nat
  | 0, _, n => if n < 2 then [] else [n]
  | fuel + 1, divisor, n =>
    if n < divisor * divisor then (if n < 2 then [] else [n])
    else if n % divisor = 0 then divisor :: primeFactors fuel divisor (n / divisor)
    else primeFactors fuel (divisor + 1) n

/-- Prints the prime factors of numbers. -/
def factor : Tool := fun arguments => do
  let (_, numbers) ← options "factor" 1 { letters := "h", names := ["exponents=h"] } arguments
  let words ← if numbers.isEmpty then
      match ← Run.readAll 0 with
      | .ok text =>
        pure ((Text.pieces ' ' (text.map fun c => if Octets.isGap c then ' ' else c)).filter (· ≠ []))
      | .error _ => pure []
    else pure numbers
  let mut status := 0
  for word in words do
    let word := if word.head? = some '+' then word.drop 1 else word
    match natural? word with
    | some n =>
      Run.printLine (Octets.ofNat n ++ ":" ++
        (primeFactors 3000000 2 n).flatMap fun p => ' ' :: Octets.ofNat p)
    | none =>
      complain "factor" (marked word ++ " is not a valid positive integer")
      status := 1
  return status

/-- Tells how many processors there are. -/
def nproc : Tool := fun arguments => do
  let (given, operands) ← options "nproc" 1 { names := ["all", "ignore:"] } arguments
  match valueOf? given "ignore" with
  | some text =>
    if (natural? text).isNone then abandon "nproc" 1 ("invalid number to ignore: " ++ marked text)
  | none => pure ()
  match operands with
  | extra :: _ => refuse "nproc" 1 ("extra operand " ++ quotedName extra)
  | [] => pure ()
  Run.printLine ['4']
  return 0

end DocMend.Shell.Tool
