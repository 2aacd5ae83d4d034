import DocMend.Shell.Pattern
import DocMend.Shell.Print.Escape
import DocMend.Shell.Regex.Basic
/-!
Regular expressions of scanning programs. They are extended ones without bounds, in which a backslash
stands before special characters and for control characters also between brackets.
-/

set_option autoImplicit false
set_option relaxedAutoImplicit false

namespace DocMend.Shell.Scan

/-- What is wrong with an expression. -/
inductive RegexFault where
  | openGroup
  | openBracket
  | noOperand
deriving DecidableEq, Repr

/-- The wording of a fault. -/
def RegexFault.text : RegexFault → String
  | openGroup => "missing \x27)\x27"
  | openBracket => "bad class -- [], [^] or ["
  | noOperand => "missing operand"

namespace RegexReading

/-- The character behind a backslash, and the rest. -/
def escaped : Octets → Char × Octets
  | [] => ('\\', [])
  | c :: rest =>
    if Escape.isOctal c then
      let (n, rest) := Escape.digits 8 3 (c :: rest)
      (Escape.byteOf n, rest)
    else
      match c with
      | 'a' => ('\x07', rest)
      | 'b' => ('\x08', rest)
      | 'f' => ('\x0c', rest)
      | 'n' => ('\n', rest)
      | 'r' => ('\r', rest)
      | 't' => ('\t', rest)
      | 'v' => ('\x0b', rest)
      | c => (c, rest)

/-- A class of characters by its name between colons, behind its bracket. -/
def className? (cs : Octets) : Option ((Char → Bool) × Octets) :=
  let name := cs.takeWhile Char.isAlpha
  match cs.drop name.length with
  | ':' :: ']' :: rest => (Pattern.kind? (String.ofList name)).map fun test => (test, rest)
  | _ => none

/-- The characters between brackets, of which the first one may be a closing bracket. -/
def members : Nat → (isFirst : Bool) → Octets → Option (List (Char → Bool) × Octets)
  | 0, _, _ => none
  | _, _, [] => none
  | fuel + 1, isFirst, c :: rest =>
    if c == ']' && !isFirst then some ([], rest)
    else
      let named := match c, rest with
        | '[', ':' :: after => className? after
        | _, _ => none
      match named with
      | some (test, rest) =>
        (members fuel false rest).map fun (more, rest) => (test :: more, rest)
      | none =>
        let (low, rest) := if c == '\\' then escaped rest else (c, rest)
        let single := (members fuel false rest).map fun (more, rest) => ((· == low) :: more, rest)
        match rest with
        | '-' :: d :: after =>
          if d == ']' then single
          else
            let (high, after) := if d == '\\' then escaped after else (d, after)
            (members fuel false after).map fun (more, rest) =>
              ((fun c => low ≤ c && c ≤ high) :: more, rest)
        | _ => single

/-- The set between brackets. -/
def bracket (cs : Octets) : Except RegexFault (ByteSet × Octets) :=
  let (negated, inside) := match cs with
    | '^' :: rest => (true, rest)
    | _ => (false, cs)
  match members (inside.length + 1) true inside with
  | some (tests, rest) =>
    .ok (ByteSet.ofTest (fun c => (tests.any fun test => test c) != negated), rest)
  | none => .error .openBracket

/-- Whether an expression or a part of it may end here. -/
def endsPart (depth : Nat) : Octets → Bool
  | [] => true
  | '|' :: _ => true
  | ')' :: _ => depth ≠ 0
  | _ => false

/-- The repetitions behind an operand. -/
def repeated (r : Regex) : Octets → Regex × Octets
  | '*' :: rest => repeated (.many r) rest
  | '+' :: rest => repeated (.both r (.many r)) rest
  | '?' :: rest => repeated (.either r .empty) rest
  | rest => (r, rest)

mutual
/-- Reads choices between parts. -/
def choices (depth : Nat) : Nat → Octets → Except RegexFault (Regex × Octets)
  | 0, _ => .error .noOperand
  | fuel + 1, cs => do
    let (first, rest) ← parts depth fuel true cs
    match rest with
    | '|' :: rest =>
      let (second, rest) ← choices depth fuel rest
      return (.either first second, rest)
    | rest => return (first, rest)

/-- Reads a part: operands one after the other. -/
def parts (depth : Nat) : Nat → (isFirst : Bool) → Octets → Except RegexFault (Regex × Octets)
  | 0, _, _ => .error .noOperand
  | fuel + 1, isFirst, cs => do
    if endsPart depth cs then
      if isFirst then .error (if cs.isEmpty && depth ≠ 0 then .openGroup else .noOperand)
      else return (.empty, cs)
    else
      let (first, rest) ← operand depth fuel cs
      let (first, rest) := repeated first rest
      let (more, rest) ← parts depth fuel false rest
      return (.both first more, rest)

/-- Reads an operand. -/
def operand (depth : Nat) : Nat → Octets → Except RegexFault (Regex × Octets)
  | 0, _ => .error .noOperand
  | _, [] => .error .noOperand
  | fuel + 1, c :: rest =>
    match c with
    | '(' => do
      let (inner, rest) ← choices (depth + 1) fuel rest
      match rest with
      | ')' :: rest => return (inner, rest)
      | _ => .error .openGroup
    | '[' => do
      let (set, rest) ← bracket rest
      return (.one set, rest)
    | '.' => .ok (.one .all, rest)
    | '^' => .ok (.check .textStart, rest)
    | '$' => .ok (.check .textEnd, rest)
    | '\\' =>
      let (c, rest) := escaped rest
      .ok (.one (.single c), rest)
    | '*' => .error .noOperand
    | '+' => .error .noOperand
    | '?' => .error .noOperand
    | c => .ok (.one (.single c), rest)
end

end RegexReading

/-- Reads a regular expression. An empty one takes nothing. -/
def readRegex (cs : Octets) : Except RegexFault Regex :=
  if cs.isEmpty then .ok .empty
  else do
    let (r, rest) ← RegexReading.choices 0 (4 * cs.length + 4) cs
    -- A bracket that closes nothing is an ordinary character.
    if rest.isEmpty then return r else .error .noOperand

end DocMend.Shell.Scan
