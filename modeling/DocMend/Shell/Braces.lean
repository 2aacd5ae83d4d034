import DocMend.Shell.Calculation
import DocMend.Shell.Tree
/-!
Braces in words of the extended language: a list of alternatives, or a sequence of numbers or letters,
stands for several words.
-/

set_option autoImplicit false
set_option relaxedAutoImplicit false

namespace DocMend.Shell.Braces

/-- Splits a word at its first closing brace that is not inside other braces: the alternatives before
it, and what follows. -/
def alternatives : Nat → Nat → Word → Word → List Word → Option (List Word × Word)
  | 0, _, _, _, _ => none
  | fuel + 1, depth, current, word, done =>
    match word with
    | [] => none
    | .char '\x7b' false :: rest =>
      alternatives fuel (depth + 1) (current ++ [.char '\x7b' false]) rest done
    | .char '\x7d' false :: rest =>
      if depth = 0 then some (done ++ [current], rest)
      else alternatives fuel (depth - 1) (current ++ [.char '\x7d' false]) rest done
    | .char ',' false :: rest =>
      if depth = 0 then alternatives fuel 0 [] rest (done ++ [current])
      else alternatives fuel depth (current ++ [.char ',' false]) rest done
    | piece :: rest => alternatives fuel depth (current ++ [piece]) rest done

/-- The parts of a text between pairs of points. -/
def parts (text : Octets) : Nat → List Octets
  | 0 => [text]
  | fuel + 1 =>
    let first := text.takeWhile (· ≠ '.')
    match text.drop first.length with
    | '.' :: '.' :: rest => first :: parts rest fuel
    | _ => [text]

/-- The integer that a text writes. -/
def integer? (text : Octets) : Option Int :=
  match text with
  | '-' :: digits => if Text.isDigits digits then some (-(Text.digitsValue digits : Int)) else none
  | '+' :: digits => if Text.isDigits digits then some (Text.digitsValue digits) else none
  | digits => if Text.isDigits digits then some (Text.digitsValue digits) else none

/-- Whether a number is written with zeros in front. -/
def isPadded (text : Octets) : Bool :=
  match text with
  | '0' :: _ :: _ => true
  | '-' :: '0' :: _ :: _ => true
  | _ => false

/-- A number with zeros in front, so that it has a width. -/
def padded (width : Nat) (n : Int) : Octets :=
  let digits := Octets.ofNat n.natAbs
  let sign : Octets := if n < 0 then ['-'] else []
  sign ++ List.replicate (width - sign.length - digits.length) '0' ++ digits

/-- The numbers from one to another by steps, which go the right way whatever their sign. -/
def numbers (first last step : Int) : List Int :=
  let size := if step = 0 then 1 else step.natAbs
  let count := (last - first).natAbs / size + 1
  (List.range count).map fun (n : Nat) =>
    if first ≤ last then first + (n * size : Nat) else first - (n * size : Nat)

/-- The word for a character of a sequence; a backslash quotes nothing. -/
def ofCharacter (code : Int) : Word :=
  let c := Char.ofNat code.toNat
  if c == '\\' then [.mark .double] else [.char c false]

/-- The words of a sequence of numbers or letters with two points, and a step after two more. -/
def sequence? (text : Octets) : Option (List Word) :=
  let known (first last : Octets) (step : Int) : Option (List Word) :=
    match integer? first, integer? last, first, last with
    | some a, some b, _, _ =>
      let width := if isPadded first || isPadded last then max first.length last.length else 0
      some ((numbers a b step).map fun n => Word.bare (padded width n))
    | none, none, [a], [b] =>
      if a.isAlpha && b.isAlpha then
        some ((numbers a.toNat b.toNat step).map ofCharacter)
      else none
    | _, _, _, _ => none
  match parts text 2 with
  | [first, last] => known first last 1
  | [first, last, step] => (integer? step).bind (known first last)
  | _ => none

/-- The words that a word with braces stands for. -/
def words : Nat → Word → List Word
  | 0, word => [word]
  | fuel + 1, word =>
    let isBrace (piece : Piece) : Bool := match piece with
      | .char '\x7b' false => true
      | _ => false
    let before := word.takeWhile fun piece => !isBrace piece
    match word.drop before.length with
    | [] => [word]
    | brace :: rest =>
      let found : Option (List Word × Word) :=
        match alternatives (rest.length + 1) 0 [] rest [] with
        | some ([single], after) =>
          ((Word.plain? single).bind sequence?).map fun list => (list, after)
        | other => other
      match found with
      | some (list, after) =>
        let tails := words fuel after
        (list.flatMap (words fuel)).flatMap fun middle =>
          tails.map fun tail => before ++ middle ++ tail
      | none => (words fuel rest).map fun tail => before ++ brace :: tail

end DocMend.Shell.Braces
