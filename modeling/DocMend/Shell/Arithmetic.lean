import DocMend.Shell.Octets
/-!
Arithmetic expressions of the POSIX language: integers of 64 bits, variables, and the operators of C.
An expression that is skipped by a choice or by a logical operator changes nothing, and its divisions
are not carried out.
-/

set_option autoImplicit false
set_option relaxedAutoImplicit false

namespace DocMend.Shell.Arithmetic

/-- A token of an expression. -/
inductive Token where
  | number (value : Int)
  | name (text : Octets)
  | sign (text : String)
  | unknown
deriving DecidableEq, Repr

/-- Why an expression has no value. -/
inductive Fault where
  | expecting (what : String)
  | divisionByZero
  | illegalNumber (text : Octets)
deriving DecidableEq, Repr

/-- Signs of three characters, then of two, then of one. -/
def signs : List String :=
  ["<<=", ">>=", "==", "!=", "<=", ">=", "&&", "||", "<<", ">>", "+=", "-=", "*=", "/=", "%=", "&=",
   "|=", "^=", "=", "<", ">", "+", "-", "*", "/", "%", "&", "|", "^", "!", "~", "?", ":", "(", ")"]

/-- The tokens of an expression. -/
def tokens : Nat → Octets → List Token
  | 0, _ => []
  | fuel + 1, cs =>
    match cs.dropWhile Octets.isGap with
    | [] => []
    | c :: rest =>
      let here := c :: rest
      if c.isDigit then
        match Octets.readNatural here with
        | some (value, after) => .number (clamped value) :: tokens fuel after
        | none => [.unknown]
      else if Octets.startsName c then
        let name := here.takeWhile Octets.inName
        .name name :: tokens fuel (here.drop name.length)
      else
        match signs.find? fun sign => (Text.afterStart? sign.toList here).isSome with
        | some sign => .sign sign :: tokens fuel (here.drop sign.length)
        | none => [.unknown]

/-- What an expression works on: the values of variables, and what it has assigned so far. -/
structure Memory where
  value : Octets → Except Fault Int
  assigned : List (Octets × Int) := []

/-- The state of an evaluation. -/
structure State where
  memory : Memory
  rest : List Token

/-- Evaluations. -/
abbrev Eval := StateT State (Except Fault)

/-- The token at hand. -/
def peek : Eval (Option Token) :=
  return (← get).rest.head?

/-- Whether the token at hand is a sign. -/
def isAt (text : String) : Eval Bool :=
  return (← peek) = some (.sign text)

/-- Goes to the next token. -/
def advance : Eval Unit :=
  modify fun s => { s with rest := s.rest.drop 1 }

/-- Gives up because something is missing. -/
def missing {α : Type} (what : String) : Eval α :=
  throw (.expecting what)

/-- The value of a variable. -/
def lookUp (skipped : Bool) (name : Octets) : Eval Int := do
  if skipped then return 0
  let memory := (← get).memory
  match memory.assigned.find? fun entry => entry.1 == name with
  | some (_, value) => return value
  | none => memory.value name

/-- Assigns to a variable. -/
def store (skipped : Bool) (name : Octets) (value : Int) : Eval Unit := do
  if skipped then return
  modify fun s =>
    { s with memory := { s.memory with assigned := (name, value) :: s.memory.assigned } }

/-- How tightly an operator between two operands binds; a smaller number binds more tightly. -/
def precedence? (sign : String) : Option Nat :=
  match sign with
  | "*" => some 1
  | "/" => some 1
  | "%" => some 1
  | "+" => some 2
  | "-" => some 2
  | "<<" => some 3
  | ">>" => some 3
  | "<" => some 4
  | "<=" => some 4
  | ">" => some 4
  | ">=" => some 4
  | "==" => some 5
  | "!=" => some 5
  | "&" => some 6
  | "^" => some 7
  | "|" => some 8
  | _ => none

/-- One for what holds, zero for what does not. -/
def truth (holds : Bool) : Int :=
  if holds then 1 else 0

/-- The 64 bits of an integer as a natural number. -/
def bits (n : Int) : Nat :=
  (n % 18446744073709551616).toNat

/-- The result of an operator on two integers, unless it divides by zero. -/
def operate? (sign : String) (a b : Int) : Option Int :=
  match sign with
  | "*" => some (wrapped (a * b))
  | "/" => if b = 0 then none else some (wrapped (Int.tdiv a b))
  | "%" => if b = 0 then none else some (Int.tmod a b)
  | "+" => some (wrapped (a + b))
  | "-" => some (wrapped (a - b))
  | "<<" => some (wrapped (bits a * (Nat.shiftLeft 1 (bits b % 64)) : Nat))
  | ">>" => some (Int.shiftRight a (bits b % 64))
  | "<" => some (truth (decide (a < b)))
  | "<=" => some (truth (decide (a ≤ b)))
  | ">" => some (truth (decide (a > b)))
  | ">=" => some (truth (decide (a ≥ b)))
  | "==" => some (truth (decide (a = b)))
  | "!=" => some (truth (decide (a ≠ b)))
  | "&" => some (wrapped (Nat.land (bits a) (bits b) : Nat))
  | "^" => some (wrapped (Nat.xor (bits a) (bits b) : Nat))
  | "|" => some (wrapped (Nat.lor (bits a) (bits b) : Nat))
  | _ => some b

/-- The operator inside an assignment. -/
def assignmentOperator? (sign : String) : Option String :=
  if ["=", "+=", "-=", "*=", "/=", "%=", "&=", "|=", "^=", "<<=", ">>="].contains sign then
    some (String.ofList sign.toList.dropLast)
  else none

/-- Carries out an operator. -/
def apply (skipped : Bool) (sign : String) (a b : Int) : Eval Int :=
  if skipped then return b
  else
    match operate? sign a b with
    | some value => return value
    | none => throw .divisionByZero

/-- What is evaluated. -/
inductive Goal where
  | assignment
  | choice
  | logical (sign : String)
  | operators (level : Nat)
  | primary

mutual
/-- Carries on after the first operand of operators that bind equally. -/
def operatorsAfter (fuel : Nat) (skipped : Bool) (level : Nat) (a : Int) : Eval Int := do
  match fuel with
  | 0 => return a
  | fuel + 1 =>
    match ← peek with
    | some (.sign sign) =>
      if precedence? sign = some level then
        advance
        let b ← eval fuel skipped (.operators (level - 1))
        operatorsAfter fuel skipped level (← apply skipped sign a b)
      else return a
    | _ => return a

/-- Evaluates a part of an expression. -/
def eval (fuel : Nat) (skipped : Bool) (goal : Goal) : Eval Int := do
  match fuel with
  | 0 => missing "primary"
  | fuel + 1 =>
    match goal with
    | .assignment =>
      let rest := (← get).rest
      let found := match rest with
        | .name name :: .sign sign :: _ =>
          (assignmentOperator? sign).map fun operator => (name, operator)
        | _ => none
      match found with
      | some (name, operator) =>
        advance
        advance
        let b ← eval fuel skipped .assignment
        if skipped then return b
        let value ← if operator.isEmpty then pure b
          else apply skipped operator (← lookUp skipped name) b
        store skipped name value
        return value
      | none => eval fuel skipped .choice
    | .choice =>
      let a ← eval fuel skipped (.logical "||")
      if ← isAt "?" then
        advance
        let b ← eval fuel (skipped || a = 0) .assignment
        if !(← isAt ":") then missing "\x27:\x27"
        advance
        let c ← eval fuel (skipped || a ≠ 0) .choice
        return if a ≠ 0 then b else c
      else return a
    | .logical "||" =>
      let a ← eval fuel skipped (.logical "&&")
      if ← isAt "||" then
        advance
        let b ← eval fuel (skipped || a ≠ 0) (.logical "||")
        return truth (a ≠ 0 || b ≠ 0)
      else return a
    | .logical _ =>
      let a ← eval fuel skipped (.operators 8)
      if ← isAt "&&" then
        advance
        let b ← eval fuel (skipped || a = 0) (.logical "&&")
        return truth (a ≠ 0 && b ≠ 0)
      else return a
    | .operators level =>
      let a ← eval fuel skipped (if level = 0 then .primary else .operators (level - 1))
      operatorsAfter fuel skipped level a
    | .primary =>
      match ← peek with
      | some (.number value) =>
        advance
        return value
      | some (.name name) =>
        advance
        lookUp skipped name
      | some (.sign "(") =>
        advance
        let value ← eval fuel skipped .assignment
        if !(← isAt ")") then missing "\x27)\x27"
        advance
        return value
      | some (.sign "+") =>
        advance
        eval fuel skipped .primary
      | some (.sign "-") =>
        advance
        return wrapped (-(← eval fuel skipped .primary))
      | some (.sign "!") =>
        advance
        return truth ((← eval fuel skipped .primary) = 0)
      | some (.sign "~") =>
        advance
        return -(← eval fuel skipped .primary) - 1
      | _ => missing "primary"
end

/-- The value of an expression, and what it assigns, the latest first. -/
def value (value : Octets → Except Fault Int) (cs : Octets) :
    Except Fault (Int × List (Octets × Int)) := do
  let list := tokens (cs.length + 1) cs
  let start : State := { memory := { value }, rest := list }
  let (result, after) ← (eval (16 * (list.length + 2)) false .assignment).run start
  if after.rest.isEmpty then return (result, after.memory.assigned)
  throw (.expecting "EOF")

/-- The integer that the text of a variable writes; a blank text is zero. -/
def integer? (cs : Octets) : Option Int :=
  if cs.all Octets.isSpace then some 0
  else
    match Octets.readInteger Octets.readNatural cs with
    | some (n, rest) =>
      if rest.all Octets.isSpace && smallestInteger ≤ n && n ≤ largestInteger then some n else none
    | none => none

/-- The value of a variable by its text. -/
def ofText (text : Octets) : Except Fault Int :=
  match integer? text with
  | some n => .ok n
  | none => .error (.illegalNumber text)

/-- What is wrong with an expression. -/
def Fault.text (expression : Octets) (fault : Fault) : Octets :=
  let about (what : String) : Octets :=
    "arithmetic expression: " ++ what ++ ": \"" ++ expression ++ "\""
  match fault with
  | expecting what => about ("expecting " ++ what)
  | divisionByZero => about "division by zero"
  | illegalNumber text => "Illegal number: " ++ text

end DocMend.Shell.Arithmetic
