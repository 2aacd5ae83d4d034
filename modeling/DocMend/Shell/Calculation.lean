import DocMend.Shell.Arithmetic
import DocMend.Shell.Content
/-!
Arithmetic expressions of the extended language. They have steps up and down, powers, commas, elements
of arrays and numbers in any base up to 64; the text of a variable is itself an expression. What is
wrong with an expression is told with the text from the last token on that was read.
-/

set_option autoImplicit false
set_option relaxedAutoImplicit false

namespace DocMend.Shell.Calculation

/-- A token: the end, a number, a name, a sign, a step before or after a name, or an assignment with
its operator. -/
inductive Token where
  | ending
  | number
  | name
  | sign (text : String)
  | stepBefore (up : Bool)
  | stepAfter (up : Bool)
  | assign (operator : String)
deriving DecidableEq, Repr

/-- Why an expression has no value: something is wrong in a text at a token, a variable has no value
where it should, or an element cannot be assigned to. -/
inductive Fault where
  | wrong (expression : Octets) (what : String) (token : Octets)
  | unset (name : Octets)
  | badIndex (name : Octets)
deriving DecidableEq, Repr

/-- What expressions work on: texts of variables and elements, which arrays have keys, where the numbers
of an array end, whether variables need values, what was assigned so far, the latest first, and what
there is to complain of. -/
structure Memory where
  get : Slot → Option Octets
  isTable : Octets → Bool
  stop : Octets → Nat
  needsValues : Bool := false
  assigned : List (Slot × Int) := []
  complaints : List Octets := []

/-- The state of an evaluation: the expression, the text after the token at hand, the text from it on,
that token and the one before it, its value if it is a number or a name, the name with its index, the
slot of the name if it was looked up, whether effects are left out, and what the expression works
on. -/
structure State where
  expression : Octets
  rest : Octets
  start : Octets := []
  token : Token := .ending
  before : Token := .ending
  value : Int := 0
  name : Octets := []
  index : Option Octets := none
  slot : Option Slot := none
  skipped : Bool := false
  memory : Memory

/-- Evaluations. -/
abbrev Eval := StateT State (Except Fault)

/-- Gives up. -/
def fail {α : Type} (what : String) : Eval α := do
  let s ← get
  throw (.wrong (s.expression.dropWhile Octets.isBlank) what s.start)

/-- The value of a digit in any base. -/
def digit (base : Nat) (c : Char) : Nat :=
  if c.isDigit then c.toNat - '0'.toNat
  else if c.isLower then c.toNat - 'a'.toNat + 10
  else if c.isUpper then c.toNat - 'A'.toNat + (if base ≤ 36 then 10 else 36)
  else if c == '@' then 62
  else 63

/-- Whether a character may stand in a number. -/
def inNumber (c : Char) : Bool :=
  c.isAlphanum || c == '@' || c == '_'

/-- The value of digits in a base, after others; a mark ends the base itself. -/
def digitsValue (known : Bool) (base : Nat) (value : Int) : Octets → Eval Int
  | [] => return value
  | '#' :: rest => do
    if known then fail "invalid number"
    if value < 2 || 64 < value then fail "invalid arithmetic base"
    if !(rest.head?.any inNumber) then fail "invalid integer constant"
    digitsValue true value.toNat 0 rest
  | c :: rest => do
    let d := digit base c
    if base ≤ d then fail "value too great for base"
    digitsValue known base (wrapped (value * base + d)) rest

/-- The value of a number as it is written. -/
def numberValue (text : Octets) : Eval Int :=
  match text with
  | ['0'] => return 0
  | '0' :: c :: rest =>
    if c == 'x' || c == 'X' then digitsValue true 16 0 rest else digitsValue true 8 0 (c :: rest)
  | text => digitsValue false 10 0 text

/-- Whether a character is one of an operator. -/
def isOperator (c : Char) : Bool :=
  "=><+-*/%!()&|^~?:,".toList.contains c

/-- Signs of two characters or one that are no assignments and no steps. -/
def signs : List String :=
  ["==", "!=", ">=", "<=", "<<", ">>", "&&", "||", "**", ">", "<", "+", "-", "*", "/", "%", "!", "(",
   ")", "&", "|", "^", "~", "?", ":", ","]

/-- Assignments with an operator. -/
def assignments : List String :=
  ["<<=", ">>=", "*=", "/=", "%=", "+=", "-=", "&=", "^=", "|="]

/-- The sign at the beginning of a text. -/
def signAt? (list : List String) (text : Octets) : Option String :=
  list.find? fun sign => (Text.afterStart? sign.toList text).isSome

/-- Whether an assignment follows. -/
def assignFollows (text : Octets) : Bool :=
  match text.dropWhile Octets.isGap with
  | '=' :: '=' :: _ => false
  | '=' :: _ => true
  | _ => false

/-- Splits a text at the bracket that closes the one before it: the index, and what follows. -/
def splitIndex? : Nat → Octets → Option (Octets × Octets)
  | _, [] => none
  | depth, '[' :: rest => (splitIndex? (depth + 1) rest).map fun (a, b) => ('[' :: a, b)
  | 0, ']' :: rest => some ([], rest)
  | depth + 1, ']' :: rest => (splitIndex? depth rest).map fun (a, b) => (']' :: a, b)
  | depth, c :: rest => (splitIndex? depth rest).map fun (a, b) => (c :: a, b)

/-- Sets the token that was read. -/
def put (token : Token) (rest : Octets) : Eval Unit :=
  modify fun s => { s with token, before := s.token, rest }

/-- Whether a token can be followed by an operand only. -/
def Token.wantsOperand : Token → Bool
  | ending => true
  | number => false
  | name => false
  | sign ")" => true
  | _ => true

/-- Reads a sign. -/
def readSign (c : Char) (after : Octets) : Eval Unit := do
  let s ← get
  let here := c :: after
  let isStep := (c == '+' || c == '-') && after.head? = some c
  let rest := after.drop 1
  if isStep && s.token = .name then put (.stepAfter (c == '+')) rest
  else if isStep && s.token = .number && (s.before = .stepBefore true || s.before = .stepBefore false) then
    fail (if c == '+' then "++: assignment requires lvalue" else "--: assignment requires lvalue")
  else if isStep && (rest.dropWhile Octets.isGap).head?.any Octets.startsName then
    put (.stepBefore (c == '+')) rest
  else if isStep then put (.sign (String.singleton c)) after
  else
    match signAt? assignments here, c == '=' && after.head? ≠ some '=' with
    | some sign, _ => put (.assign (String.ofList sign.toList.dropLast)) (here.drop sign.length)
    | none, true => put (.assign "") after
    | none, false =>
      match signAt? signs here with
      | some sign => put (.sign sign) (here.drop sign.length)
      | none =>
        if s.token.wantsOperand then fail "syntax error: operand expected"
        fail "syntax error: invalid arithmetic operator"

/-- A power, by squares of its base; an exponent has at most so many binary digits. -/
def powered : (digits : Nat) → (base : Int) → (exponent : Nat) → Int
  | 0, _, _ => 1
  | digits + 1, base, exponent =>
    if exponent = 0 then 1
    else
      let rest := powered digits (wrapped (base * base)) (exponent / 2)
      if exponent % 2 = 1 then wrapped (base * rest) else rest

/-- The operators of each rank, from those that bind loosely to those that bind tightly. -/
def ranks : List (List String) :=
  [["|"], ["^"], ["&"], ["==", "!="], ["<=", ">=", "<", ">"], ["<<", ">>"], ["+", "-"],
   ["*", "/", "%"]]

/-- Assigns to a slot. -/
def store (slot : Slot) (value : Int) : Eval Unit := do
  if (← get).skipped then return
  modify fun s =>
    { s with memory := { s.memory with assigned := (slot, value) :: s.memory.assigned } }

/-- What is evaluated: a list of assignments, an assignment, a choice, logical choices, operators of a
rank and tighter ones, powers, signs before an operand, or an operand. -/
inductive Goal where
  | list
  | assignment
  | choice
  | disjunction
  | conjunction
  | operators (rank : Nat)
  | power
  | unary
  | operand

/-- How deeply the texts of variables may lead to each other. -/
def deepest : Nat := 1024

/-- Evaluates while some effects are left out. -/
def skipping {α : Type} (skip : Bool) (body : Eval α) : Eval α := do
  let before := (← get).skipped
  modify fun s => { s with skipped := before || skip }
  let value ← body
  modify fun s => { s with skipped := before }
  return value

/-- The result of an operator on two integers; division by zero is looked for before. -/
def operate (sign : String) (a b : Int) : Int :=
  (Arithmetic.operate? sign a b).getD 0

/-- Takes note that what was read last is no name. -/
def asNumber : Eval Unit :=
  modify fun s => { s with before := .number }

mutual
/-- The slot of a name with its index; there is none where the index is out of range. -/
def slotOf (fuel depth : Nat) (name : Octets) (index : Option Octets) : Eval (Option Slot) := do
  match fuel with
  | 0 => return none
  | fuel + 1 =>
    match index with
    | none => return some { name }
    | some text =>
      let memory := (← get).memory
      if memory.isTable name then return some { name, key := some (.text text) }
      let n ← nested fuel depth text
      let stop := (← get).memory.stop name
      let n := if n < 0 then n + stop else n
      if n < 0 then
        modify fun s =>
          { s with
            memory := { s.memory with
              complaints := s.memory.complaints ++ [name ++ ": bad array subscript"] } }
        return none
      return some { name, key := some (.number n.toNat) }

/-- The value of a name, and its slot. -/
def lookUp (fuel depth : Nat) (name : Octets) (index : Option Octets) :
    Eval (Int × Option Slot) := do
  match fuel with
  | 0 => return (0, none)
  | fuel + 1 =>
    if (← get).skipped then return (0, none)
    match ← slotOf fuel depth name index with
    | none => return (0, none)
    | some slot =>
      let memory := (← get).memory
      match memory.assigned.find? fun entry => entry.1 == slot with
      | some (_, value) => return (value, some slot)
      | none =>
        match memory.get slot with
        | none =>
          if memory.needsValues then throw (.unset name)
          return (0, some slot)
        | some text =>
          let value ← nested fuel (depth + 1) text
          return (value, some slot)

/-- The value of another expression. -/
def nested (fuel depth : Nat) (text : Octets) : Eval Int := do
  match fuel with
  | 0 => return 0
  | fuel + 1 =>
    if text.all Octets.isGap then return 0
    let outer ← get
    if deepest ≤ depth then
      throw (.wrong (text.dropWhile Octets.isBlank) "expression recursion level exceeded" text)
    set { outer with
      expression := text, rest := text, start := [], token := .ending, before := .ending }
    readToken fuel depth
    let value ← eval fuel depth .list
    if (← get).token ≠ .ending then fail "syntax error in expression"
    modify fun s => { outer with memory := s.memory }
    return value

/-- Reads a token; the value of a name is looked up unless an assignment to it follows. -/
def readToken (fuel depth : Nat) : Eval Unit := do
  match fuel with
  | 0 => return
  | fuel + 1 =>
    let s ← get
    match s.rest.dropWhile Octets.isGap with
    | [] => put .ending []
    | c :: after =>
      let here := c :: after
      modify fun s => { s with start := here }
      if Octets.startsName c then
        let name := here.takeWhile Octets.inName
        let rest := here.drop name.length
        let (index, rest) ← match rest with
          | '[' :: inside =>
            match splitIndex? 0 inside with
            | some (index, rest) => pure (some index, rest)
            | none => fail "bad array subscript"
          | rest => pure (none, rest)
        let isStep := s.token = .stepBefore true || s.token = .stepBefore false
        let (value, slot) ←
          if isStep || !assignFollows rest then lookUp fuel depth name index else pure (0, none)
        modify fun s => { s with name, index, value, slot }
        put .name rest
      else if c.isDigit then
        let text := here.takeWhile fun c => inNumber c || c == '#'
        let value ← numberValue text
        modify fun s => { s with value }
        put .number (here.drop text.length)
      else readSign c after

/-- Carries on after the first operand of operators of a rank. -/
def operatorsAfter (fuel depth : Nat) (rank : Nat) (signs : List String) (a : Int) : Eval Int := do
  match fuel with
  | 0 => return a
  | fuel + 1 =>
    match (← get).token with
    | .sign sign =>
      if signs.contains sign then
        let place := (← get).rest.dropWhile Octets.isBlank
        readToken fuel depth
        let b ← eval fuel depth (.operators (rank + 1))
        let divides := sign = "/" || sign = "%"
        if divides && b = 0 && !(← get).skipped then
          modify fun s => { s with start := place }
          fail "division by 0"
        asNumber
        operatorsAfter fuel depth rank signs (operate sign a b)
      else return a
    | _ => return a

/-- Evaluates a part of an expression. -/
def eval (fuel depth : Nat) (goal : Goal) : Eval Int := do
  match fuel with
  | 0 => fail "expression recursion level exceeded"
  | fuel + 1 =>
    match goal with
    | .list =>
      let value ← eval fuel depth .assignment
      if (← get).token = .sign "," then
        readToken fuel depth
        eval fuel depth .list
      else return value
    | .assignment =>
      let old ← eval fuel depth .choice
      match (← get).token with
      | .assign operator =>
        let s ← get
        if s.before ≠ .name then fail "attempted assignment to non-variable"
        readToken fuel depth
        let new ← eval fuel depth .assignment
        let divides := operator = "/" || operator = "%"
        if divides && new = 0 && !(← get).skipped then fail "division by 0"
        let value := if operator.isEmpty then new else operate operator old new
        if !(← get).skipped then
          let slot ← match s.slot with
            | some slot => pure (some slot)
            | none => slotOf fuel depth s.name s.index
          match slot with
          | some slot => store slot value
          | none => throw (.badIndex s.name)
        return value
      | _ => return old
    | .choice =>
      let test ← eval fuel depth .disjunction
      if (← get).token ≠ .sign "?" then return test
      readToken fuel depth
      let next := (← get).token
      if next = .ending || next = .sign ":" then fail "expression expected"
      let yes ← skipping (test = 0) (eval fuel depth .list)
      if (← get).token ≠ .sign ":" then fail "\x60:\x27 expected for conditional expression"
      let no ← skipping (test ≠ 0) (do
        readToken fuel depth
        if (← get).token = .ending then fail "expression expected"
        eval fuel depth .choice)
      asNumber
      return if test ≠ 0 then yes else no
    | .disjunction =>
      let a ← eval fuel depth .conjunction
      if (← get).token ≠ .sign "||" then return a
      let b ← skipping (a ≠ 0) (do
        readToken fuel depth
        eval fuel depth .disjunction)
      asNumber
      return Arithmetic.truth (a ≠ 0 || b ≠ 0)
    | .conjunction =>
      let a ← eval fuel depth (.operators 0)
      if (← get).token ≠ .sign "&&" then return a
      let b ← skipping (a = 0) (do
        readToken fuel depth
        eval fuel depth .conjunction)
      asNumber
      return Arithmetic.truth (a ≠ 0 && b ≠ 0)
    | .operators rank =>
      match ranks[rank]? with
      | some signs =>
        let a ← eval fuel depth (.operators (rank + 1))
        operatorsAfter fuel depth rank signs a
      | none => eval fuel depth .power
    | .power =>
      let base ← eval fuel depth .unary
      if (← get).token ≠ .sign "**" then return base
      readToken fuel depth
      let exponent ← eval fuel depth .power
      asNumber
      if exponent < 0 then fail "exponent less than 0"
      return powered 64 base exponent.toNat
    | .unary =>
      let applied (f : Int → Int) : Eval Int := do
        readToken fuel depth
        let value ← eval fuel depth .unary
        asNumber
        return f value
      match (← get).token with
      | .sign "!" => applied fun n => Arithmetic.truth (n = 0)
      | .sign "~" => applied fun n => -n - 1
      | .sign "-" => applied fun n => wrapped (-n)
      | .sign "+" => applied id
      | _ => eval fuel depth .operand
    | .operand =>
      match (← get).token with
      | .stepBefore up =>
        readToken fuel depth
        let s ← get
        let value := wrapped (if up then s.value + 1 else s.value - 1)
        match s.slot with
        | some slot => store slot value
        | none => pure ()
        modify fun s => { s with before := .stepBefore up, token := .number }
        readToken fuel depth
        return value
      | .sign "(" =>
        readToken fuel depth
        let value ← eval fuel depth .list
        if (← get).token ≠ .sign ")" then fail "missing \x60)\x27"
        readToken fuel depth
        return value
      | .number =>
        let value := (← get).value
        readToken fuel depth
        return value
      | .name =>
        let s ← get
        readToken fuel depth
        match (← get).token with
        | .stepAfter up =>
          match s.slot with
          | some slot => store slot (wrapped (if up then s.value + 1 else s.value - 1))
          | none => pure ()
          modify fun s => { s with token := .number }
          readToken fuel depth
          return s.value
        | _ =>
          modify fun now => { now with name := s.name, index := s.index, slot := s.slot }
          return s.value
      | _ => fail "syntax error: operand expected"
end

/-- The value of an expression, and the memory after it. -/
def value (memory : Memory) (expression : Octets) : Except Fault (Int × Memory) := do
  let start : State := { expression, rest := expression, memory }
  let fuel := 32 * (expression.length + deepest + 2)
  let (value, after) ← (nested fuel 0 expression).run start
  return (value, after.memory)

/-- What is wrong with an expression. -/
def Fault.text : Fault → Octets
  | wrong expression what token =>
    expression ++ ": " ++ what ++ " (error token is \"" ++ token ++ "\")"
  | unset name => name ++ ": unbound variable"
  | badIndex name => name ++ ": bad array subscript"

end DocMend.Shell.Calculation
