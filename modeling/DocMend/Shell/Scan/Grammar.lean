import DocMend.Shell.Scan.Token
/-!
The grammar of scanning programs. From the weakest to the strongest, operators are: the choice between two
values, either, both, being in a table, being taken by an expression, comparisons, putting texts
together, sums, products, signs, lines of a command, powers, and steps. A value can be assigned where
an operand of a comparison or of something weaker stands.
-/

set_option autoImplicit false
set_option relaxedAutoImplicit false

namespace DocMend.Shell.Scan

/-- A name that is given to a function as it is. -/
structure Link where
  function : Nat
  argument : Nat
  /-- The function in which the name stands. -/
  scope : Option Nat
  place : Place
  line : Nat

/-- Reading of a program. -/
structure Parsing where
  rest : List Lexeme
  complaints : List Octets := []
  names : Array (Octets × Kind) := firstNames
  functions : Array Function := #[]
  links : List Link := []
  /-- Calls: the function, the number of arguments and the line. -/
  calls : List (Nat × Nat × Nat) := []
  /-- The function whose body is read, with its parameters. -/
  scope : Option Nat := none
  parameters : List Octets := []
  kinds : List Kind := []
  loops : Nat := 0
  /-- Whether statements for records are read. -/
  inRule : Bool := false
  /-- Whether a greater-than sign or a bar ends an expression. -/
  inPrint : Bool := false
  parentheses : Nat := 0

/-- A reader of a program; it may give up. -/
abbrev Parser := ExceptT Unit (StateM Parsing)

namespace Parser

/-- The word at hand. -/
def peek : Parser Lexeme :=
  return (← get).rest.headD ⟨.finish, 1, none⟩

/-- The words after the one at hand. -/
def ahead (n : Nat) : Parser Token :=
  return (((← get).rest.drop n).headD ⟨.finish, 1, none⟩).token

/-- Whether the word at hand is a sign. -/
def isSign (sign : String) : Parser Bool := do
  match (← peek).token with
  | .sign s => return s == sign
  | _ => return false

/-- Whether the word at hand is a certain one with a meaning of its own. -/
def isWord (word : String) : Parser Bool := do
  match (← peek).token with
  | .word w => return w == word
  | _ => return false

/-- Adds a complaint about a line. -/
def complainAt (line : Nat) (text : Octets) : Parser Unit :=
  modify fun p => { p with complaints := ("line " ++ Octets.ofNat line ++ ": " ++ text) :: p.complaints }

/-- Adds a complaint about the line at hand. -/
def complain (text : Octets) : Parser Unit := do
  complainAt (← peek).line text

/-- Goes on to the next word. -/
def advance : Parser Unit := do
  let token := (← peek).token
  modify fun p =>
    let rest := p.rest.drop 1
    let told := (rest.head?.bind Lexeme.complaint).toList
    let parentheses := match token with
      | .sign "(" => p.parentheses + 1
      | .sign ")" => p.parentheses - 1
      | _ => p.parentheses
    { p with rest, parentheses, complaints := told ++ p.complaints }

/-- Gives up because of the word at hand. -/
def unexpected {α : Type} : Parser α := do
  let lexeme ← peek
  let ends := match lexeme.token with
    | .newline => true
    | .closing => true
    | .sign s => s == ";"
    | _ => false
  let isOver := match lexeme.token with
    | .finish => true
    | _ => false
  if ends && (← get).parentheses ≠ 0 then complain ("missing ) near " ++ lexeme.token.shown)
  else if isOver then complain ("missing \x7d near " ++ lexeme.token.shown)
  else complain ("syntax error at or near " ++ lexeme.token.shown)
  throw ()

/-- Takes a sign if it is at hand. -/
def take? (sign : String) : Parser Bool := do
  if ← isSign sign then
    advance
    return true
  return false

/-- Takes a sign. -/
def expect (sign : String) : Parser Unit := do
  if !(← take? sign) then unexpected

/-- Skips line ends. -/
def skipLines : Nat → Parser Unit
  | 0 => return
  | fuel + 1 => do
    match (← peek).token with
    | .newline =>
      advance
      skipLines fuel
    | _ => return

/-- Takes what ends a statement. -/
def separator : Parser Unit := do
  match (← peek).token with
  | .newline => advance
  | .closing => advance
  | .sign ";" => advance
  | _ => unexpected

/-- Whether a statement ends here. -/
def isEnd : Parser Bool := do
  match (← peek).token with
  | .newline => return true
  | .closing => return true
  | .finish => return true
  | .sign s => return s == ";" || s == "\x7d"
  | _ => return false

/-- Reads with another rule for what ends an expression. -/
def within {α : Type} (inPrint : Bool) (body : Parser α) : Parser α := do
  let before := (← get).inPrint
  modify fun p => { p with inPrint }
  let result ← body
  modify fun p => { p with inPrint := before }
  return result

/-- The place of a name. -/
def placeOf (name : Octets) : Parser Place := do
  let p ← get
  match p.parameters.findIdx? (· == name) with
  | some index => return .parameter index
  | none =>
    match p.names.findIdx? (·.1 == name) with
    | some index => return .program index
    | none =>
      set { p with names := p.names.push (name, .unknown) }
      return .program p.names.size

/-- What a place is known to be. -/
def kindAt (place : Place) : Parser Kind := do
  let p ← get
  match place with
  | .parameter index => return p.kinds.getD index .unknown
  | .program index => return (p.names.getD index ([], .unknown)).2

/-- Notes what a place is. -/
def setKind (place : Place) (kind : Kind) : Parser Unit :=
  modify fun p =>
    match place with
    | .parameter index => { p with kinds := p.kinds.set index kind }
    | .program index => { p with names := p.names.modify index fun (name, _) => (name, kind) }

/-- The place of a name that stands for a variable or for a table. -/
def use (kind : Kind) (name : Octets) : Parser Place := do
  let isFunction := (← get).functions.any fun f => f.name == name && f.body.isSome
  let place ← placeOf name
  let known ← kindAt place
  if isFunction then complain ("illegal reference to function " ++ name)
  else if known = .unknown then setKind place kind
  else if known ≠ kind then
    complain ("illegal reference to " ++ (if known = .table then "array " else "variable ") ++ name)
  return place

/-- The number of a function. -/
def functionOf (name : Octets) : Parser Nat := do
  let p ← get
  match p.functions.findIdx? fun f => f.name == name with
  | some index => return index
  | none =>
    set { p with functions := p.functions.push { name } }
    return p.functions.size

/-- Whether a name with a parenthesis right behind it calls a function. -/
def isCall (name : Octets) : Parser Bool := do
  let p ← get
  if p.parameters.contains name then return false
  return !(p.names.any fun entry => entry.1 == name && entry.2 ≠ .unknown)

/-- Makes a regular expression ready. -/
def regexOf (source : Octets) : Parser Expression := do
  match readRegex source with
  | .ok r => return .regex r.searcher source
  | .error fault =>
    complain ("regular expression compile failed (" ++ fault.text ++ ")\n" ++ source)
    return .regex Regex.empty.searcher source

/-- A constant text in the place of a regular expression is one. -/
def asPattern (e : Expression) : Parser Expression := do
  match e with
  | .text source => regexOf source
  | e => return e

/-- The sign that assigns, if one is at hand: the operation before it. -/
def assignment? : Parser (Option (Option Operation)) := do
  match (← peek).token with
  | .sign "=" => return some none
  | .sign "+=" => return some (some .add)
  | .sign "-=" => return some (some .subtract)
  | .sign "*=" => return some (some .multiply)
  | .sign "/=" => return some (some .divide)
  | .sign "%=" => return some (some .modulo)
  | .sign "^=" => return some (some .raise)
  | _ => return none

/-- The comparison at hand. -/
def comparison? : Parser (Option Comparison) := do
  match (← peek).token with
  | .sign "<" => return some .less
  | .sign "<=" => return some .lessOrEqual
  | .sign "==" => return some .equal
  | .sign "!=" => return some .unequal
  | .sign ">=" => return some .greaterOrEqual
  | .sign ">" => return if (← get).inPrint then none else some .greater
  | _ => return none

/-- Whether an operand that can be put together with another one begins here. -/
def startsOperand : Parser Bool := do
  match (← peek).token with
  | .number _ _ => return true
  | .text _ => return true
  | .regex _ => return true
  | .name _ _ => return true
  | .word w =>
    return w == "getline" || w == "split" || w == "sub" || w == "gsub" ||
      (Builtin.all.lookup w).isSome
  | .sign s => return s == "(" || s == "$" || s == "!" || s == "++" || s == "--"
  | _ => return false

/-- Whether parentheses that open here hold several values that are followed by no operator. -/
def isList : Parser Bool := do
  let rec go : Nat → Nat → Bool → List Lexeme → Bool
    | 0, _, _, _ => false
    | _, _, _, [] => false
    | fuel + 1, depth, found, lexeme :: rest =>
      match lexeme.token with
      | .sign s =>
        if s == "(" || s == "[" then go fuel (depth + 1) found rest
        else if s == ")" || s == "]" then
          if depth = 1 then
            found && !(match (rest.headD ⟨.finish, 1, none⟩).token with
              | .word "in" => true
              | _ => false)
          else go fuel (depth - 1) found rest
        else go fuel depth (found || s == "," && depth = 1) rest
      | .finish => false
      | _ => go fuel depth found rest
  let rest := (← get).rest
  return (← isSign "(") && go (rest.length + 1) 0 false rest

mutual
/-- Reads an expression. -/
def expression : Nat → Parser Expression
  | 0 => unexpected
  | fuel + 1 => do
    let condition ← alternatives fuel
    if ← take? "?" then
      let first ← expression fuel
      expect ":"
      return .choose condition first (← expression fuel)
    return condition

/-- Reads expressions between which a comma stands. -/
def expressions : Nat → Parser (List Expression)
  | 0 => unexpected
  | fuel + 1 => do
    let first ← expression fuel
    if ← take? "," then return first :: (← expressions fuel)
    return [first]

/-- Reads expressions of which one has to hold. -/
def alternatives : Nat → Parser Expression
  | 0 => unexpected
  | fuel + 1 => do moreAlternatives fuel (← conditions fuel)

/-- Reads more of these. -/
def moreAlternatives : Nat → Expression → Parser Expression
  | 0, _ => unexpected
  | fuel + 1, left => do
    if ← take? "||" then moreAlternatives fuel (.either left (← conditions fuel)) else return left

/-- Reads expressions that all have to hold. -/
def conditions : Nat → Parser Expression
  | 0 => unexpected
  | fuel + 1 => do moreConditions fuel (← membership fuel)

/-- Reads more of these. -/
def moreConditions : Nat → Expression → Parser Expression
  | 0, _ => unexpected
  | fuel + 1, left => do
    if ← take? "&&" then moreConditions fuel (.both left (← membership fuel)) else return left

/-- Reads an expression that may be looked for in a table. -/
def membership : Nat → Parser Expression
  | 0 => unexpected
  | fuel + 1 => do moreMembership fuel (← matching fuel)

/-- Reads the table in which an expression is looked for. -/
def moreMembership : Nat → Expression → Parser Expression
  | 0, _ => unexpected
  | fuel + 1, left => do
    if !(← isWord "in") then return left
    advance
    match (← peek).token with
    | .name name _ =>
      let place ← use .table name
      advance
      moreMembership fuel (.isIn [left] place)
    | _ => unexpected

/-- Reads an expression that may have to be taken by a regular one. -/
def matching : Nat → Parser Expression
  | 0 => unexpected
  | fuel + 1 => do moreMatching fuel (← comparing fuel)

/-- Reads the regular expression that has to take another one. -/
def moreMatching : Nat → Expression → Parser Expression
  | 0, _ => unexpected
  | fuel + 1, left => do
    let negated ← isSign "!~"
    if (← take? "~") || (← take? "!~") then
      let pattern ← asPattern (← comparing fuel)
      moreMatching fuel (.taken negated left pattern)
    else return left

/-- Reads a comparison. -/
def comparing : Nat → Parser Expression
  | 0 => unexpected
  | fuel + 1 => do moreComparing fuel (← assigning fuel)

/-- Reads more of a comparison. -/
def moreComparing : Nat → Expression → Parser Expression
  | 0, _ => unexpected
  | fuel + 1, left => do
    match ← comparison? with
    | some comparison =>
      advance
      moreComparing fuel (.compare comparison left (← assigning fuel))
    | none => return left

/-- Reads texts that are put together, or an assignment. -/
def assigning : Nat → Parser Expression
  | 0 => unexpected
  | fuel + 1 => do
    let left ← joining fuel
    match left, ← assignment? with
    | .target target, some operation? => do
      advance
      return .assign operation? target (← expression fuel)
    | _, _ => return left

/-- Reads texts that are put together. -/
def joining : Nat → Parser Expression
  | 0 => unexpected
  | fuel + 1 => do moreJoining fuel (← sum fuel)

/-- Reads more of these. -/
def moreJoining : Nat → Expression → Parser Expression
  | 0, _ => unexpected
  | fuel + 1, left => do
    if ← startsOperand then moreJoining fuel (.join left (← sum fuel)) else return left

/-- Reads a sum. -/
def sum : Nat → Parser Expression
  | 0 => unexpected
  | fuel + 1 => do moreSum fuel (← product fuel)

/-- Reads more of a sum. -/
def moreSum : Nat → Expression → Parser Expression
  | 0, _ => unexpected
  | fuel + 1, left => do
    if ← take? "+" then moreSum fuel (.operate .add left (← product fuel))
    else if ← take? "-" then moreSum fuel (.operate .subtract left (← product fuel))
    else return left

/-- Reads a product. -/
def product : Nat → Parser Expression
  | 0 => unexpected
  | fuel + 1 => do moreProduct fuel (← signed fuel)

/-- Reads more of a product. -/
def moreProduct : Nat → Expression → Parser Expression
  | 0, _ => unexpected
  | fuel + 1, left => do
    if ← take? "*" then moreProduct fuel (.operate .multiply left (← signed fuel))
    else if ← take? "/" then moreProduct fuel (.operate .divide left (← signed fuel))
    else if ← take? "%" then moreProduct fuel (.operate .modulo left (← signed fuel))
    else return left

/-- Reads an operand with signs before it. -/
def signed : Nat → Parser Expression
  | 0 => unexpected
  | fuel + 1 => do
    if ← take? "!" then return .no (← signed fuel)
    else if ← take? "-" then return .negate (← signed fuel)
    else if ← take? "+" then return .plus (← signed fuel)
    else piped fuel (← raised fuel)

/-- Reads lines of a command. -/
def piped : Nat → Expression → Parser Expression
  | 0, _ => unexpected
  | fuel + 1, left => do
    let isLine := match ← ahead 1 with
      | .word "getline" => true
      | _ => false
    if (← isSign "|") && !(← get).inPrint then
      advance
      if !isLine then unexpected
      advance
      piped fuel (.line (.command left) (← lineTarget fuel))
    else return left

/-- Reads a power. -/
def raised : Nat → Parser Expression
  | 0 => unexpected
  | fuel + 1 => do
    let base ← stepped fuel
    if ← take? "^" then
      let isSigned := (← isSign "-") || (← isSign "+") || (← isSign "!")
      return .operate .raise base (← if isSigned then signed fuel else raised fuel)
    return base

/-- Reads an operand that may be counted up or down after it was used. -/
def stepped : Nat → Parser Expression
  | 0 => unexpected
  | fuel + 1 => do
    match ← operand fuel with
    | .target target =>
      if ← take? "++" then return .step target true false
      else if ← take? "--" then return .step target false false
      else return .target target
    | e => return e

/-- Reads what can be assigned. -/
def target : Nat → Parser Target
  | 0 => unexpected
  | fuel + 1 => do
    match (← peek).token with
    | .name name _ =>
      advance
      if ← take? "[" then
        let place ← use .table name
        let keys ← within false (expressions fuel)
        expect "]"
        return .element place keys
      return .variable (← use .variable name)
    | .sign "$" =>
      advance
      return .field (← fieldIndex fuel)
    | _ => unexpected

/-- Reads the number of a field. -/
def fieldIndex : Nat → Parser Expression
  | 0 => unexpected
  | fuel + 1 => do
    if ← take? "++" then return .step (← target fuel) true true
    else if ← take? "--" then return .step (← target fuel) false true
    else if ← take? "-" then return .negate (← fieldIndex fuel)
    else if ← take? "+" then return .plus (← fieldIndex fuel)
    else if ← take? "!" then return .no (← fieldIndex fuel)
    else
      -- The number of fields is counted up or down before it is used as a number.
      match (← peek).token, ← ahead 1 with
      | .name ['N', 'F'] _, .sign "++" => stepped fuel
      | .name ['N', 'F'] _, .sign "--" => stepped fuel
      | _, _ => operand fuel

/-- Reads what a line is read into, if something is named. -/
def lineTarget : Nat → Parser (Option Target)
  | 0 => unexpected
  | fuel + 1 => do
    match (← peek).token with
    | .name _ _ => return some (← target fuel)
    | .sign "$" => return some (← target fuel)
    | _ => return none

/-- Reads the arguments of a function up to the closing parenthesis. -/
def callArguments : Nat → (function index : Nat) → Parser (List Expression)
  | 0, _, _ => unexpected
  | fuel + 1, function, index => do
    let isBare := match (← peek).token, ← ahead 1 with
      | .name _ _, .sign s => s == "," || s == ")"
      | _, _ => false
    let first ← match (← peek).token with
      | .name name _ =>
        if isBare then do
          let place ← placeOf name
          let line := (← peek).line
          advance
          modify fun p => { p with links := ⟨function, index, p.scope, place, line⟩ :: p.links }
          pure (Expression.target (.variable place))
        else expression fuel
      | _ => expression fuel
    if ← take? "," then return first :: (← callArguments fuel function (index + 1))
    return [first]

/-- Reads an operand. -/
def operand : Nat → Parser Expression
  | 0 => unexpected
  | fuel + 1 => do
    match (← peek).token with
    | .number x _ =>
      advance
      return .number x
    | .text text =>
      advance
      return .text text
    | .regex source =>
      let e ← regexOf source
      advance
      return e
    | .name name tight =>
      if tight && (← isCall name) then
        let line := (← peek).line
        let function ← functionOf name
        advance
        expect "("
        let arguments ← within false (do
          if ← isSign ")" then pure [] else callArguments fuel function 0)
        expect ")"
        modify fun p => { p with calls := (function, arguments.length, line) :: p.calls }
        return .call function arguments
      return .target (← target fuel)
    | .sign "$" => return .target (← target fuel)
    | .sign "++" =>
      advance
      return .step (← target fuel) true true
    | .sign "--" =>
      advance
      return .step (← target fuel) false true
    | .sign "-" => signed fuel
    | .sign "+" => signed fuel
    | .sign "!" => signed fuel
    | .sign "(" =>
      advance
      let inner ← within false (expressions fuel)
      expect ")"
      match inner with
      | [e] => return .group e
      | keys =>
        if !(← isWord "in") then unexpected
        advance
        match (← peek).token with
        | .name name _ =>
          let place ← use .table name
          advance
          return .isIn keys place
        | _ => unexpected
    | .word "getline" =>
      advance
      let target? ← lineTarget fuel
      if ← take? "<" then return .line (.file (← raised fuel)) target?
      return .line .input target?
    | .word "split" => splitting fuel
    | .word "sub" => substituting fuel false
    | .word "gsub" => substituting fuel true
    | .word "length" =>
      advance
      match (← peek).token, ← ahead 1, ← ahead 2 with
      | .sign "(", .name name _, .sign ")" =>
        let place ← placeOf name
        advance
        advance
        advance
        if (← kindAt place) = .unknown then
          match place with
          | .parameter _ => pure ()
          | .program _ => setKind place .variable
        return if (← kindAt place) = .variable then .builtin .length [.target (.variable place)]
          else .size place
      | .sign "(", .sign ")", _ =>
        advance
        advance
        return .builtin .length []
      | .sign "(", _, _ =>
        advance
        let e ← within false (expression fuel)
        expect ")"
        return .builtin .length [e]
      | _, _, _ => return .builtin .length []
    | .word word =>
      match Builtin.all.lookup word with
      | none => unexpected
      | some (builtin, least, most) =>
        advance
        expect "("
        let arguments ← within false (do
          if ← isSign ")" then pure [] else expressions fuel)
        if arguments.length < least || most < arguments.length then
          complain ("wrong number of arguments in call to " ++ word)
        expect ")"
        match builtin, arguments with
        | .match, [subject, pattern] => return .builtin .match [subject, ← asPattern pattern]
        | _, _ => return .builtin builtin arguments
    | _ => unexpected

/-- Reads the splitting of a text into a table. -/
def splitting : Nat → Parser Expression
  | 0 => unexpected
  | fuel + 1 => do
    advance
    expect "("
    let subject ← within false (expression fuel)
    expect ","
    match (← peek).token with
    | .name name _ =>
      let place ← use .table name
      advance
      let separator? ← if ← take? "," then
          pure (some (← within false (expression fuel)))
        else pure none
      expect ")"
      return .split subject place separator?
    | _ => unexpected

/-- Reads a substitution. -/
def substituting : Nat → (everywhere : Bool) → Parser Expression
  | 0, _ => unexpected
  | fuel + 1, everywhere => do
    advance
    expect "("
    let pattern ← asPattern (← within false (expression fuel))
    expect ","
    let replacement ← within false (expression fuel)
    let target? ← if ← take? "," then pure (some (← target fuel)) else pure none
    expect ")"
    return .substitute everywhere pattern replacement target?
end

/-- Reads what is printed, and where it goes. -/
def printing (fuel : Nat) : Parser (List Expression × Option Sink) := do
  let isOver : Parser Bool := do
    return (← isEnd) || (← isSign ">") || (← isSign ">>") || (← isSign "|")
  let values ← if ← isOver then pure []
    else if ← isList then do
      expect "("
      let values ← within false (expressions fuel)
      expect ")"
      pure values
    else within true (expressions fuel)
  if ← take? ">" then return (values, some (.file false (← within false (expression fuel))))
  if ← take? ">>" then return (values, some (.file true (← within false (expression fuel))))
  if ← take? "|" then return (values, some (.command (← within false (expression fuel))))
  return (values, none)

/-- Reads a statement without what ends it. -/
def simple (fuel : Nat) : Parser Statement := do
  match (← peek).token with
  | .word "print" =>
    advance
    let (values, sink?) ← printing fuel
    return .print values sink?
  | .word "printf" =>
    advance
    let (values, sink?) ← printing fuel
    if values.isEmpty then complain "no arguments in call to printf"
    return .format values sink?
  | .word "delete" =>
    advance
    match (← peek).token with
    | .name name _ =>
      let place ← use .table name
      advance
      if ← take? "[" then
        let keys ← within false (expressions fuel)
        expect "]"
        return .erase place (some keys)
      return .erase place none
    | _ => unexpected
  | .word "next" =>
    if !(← get).inRule then complain "improper use of next"
    advance
    return .next
  | .word "nextfile" =>
    if !(← get).inRule then complain "improper use of nextfile"
    advance
    return .nextFile
  | .word "break" =>
    if (← get).loops = 0 then complain "break statement outside of loop"
    advance
    return .break
  | .word "continue" =>
    if (← get).loops = 0 then complain "continue statement outside of loop"
    advance
    return .continue
  | .word "exit" =>
    advance
    return .exit (← if ← isEnd then pure none else some <$> expression fuel)
  | .word "return" =>
    if (← get).scope.isNone then complain "return outside function body"
    advance
    return .return (← if ← isEnd then pure none else some <$> expression fuel)
  | _ => return .evaluate (← expression fuel)

/-- Reads a part of a loop. -/
def inLoop {α : Type} (body : Parser α) : Parser α := do
  modify fun p => { p with loops := p.loops + 1 }
  let result ← body
  modify fun p => { p with loops := p.loops - 1 }
  return result

mutual
/-- Reads a statement. -/
def statement : Nat → Parser Statement
  | 0 => unexpected
  | fuel + 1 => do
    match (← peek).token with
    | .sign "\x7b" =>
      advance
      block fuel
    | .sign ";" =>
      advance
      return .nothing
    | .closing =>
      advance
      return .nothing
    | .word "if" =>
      advance
      let condition ← header fuel
      let first ← statement fuel
      if ← isWord "else" then
        advance
        return .choose condition first (← statement fuel)
      return .choose condition first .nothing
    | .word "while" =>
      advance
      let condition ← header fuel
      return .while condition (← inLoop (statement fuel))
    | .word "do" =>
      advance
      let body ← inLoop (statement fuel)
      if !(← isWord "while") then unexpected
      advance
      expect "("
      let condition ← within false (expression fuel)
      expect ")"
      separator
      return .until body condition
    | .word "for" =>
      advance
      counting fuel
    | _ => do
      let s ← simple fuel
      separator
      return s

/-- Reads a condition in parentheses. -/
def header : Nat → Parser Expression
  | 0 => unexpected
  | fuel + 1 => do
    expect "("
    let condition ← within false (expression fuel)
    expect ")"
    skipLines fuel
    return condition

/-- Reads a loop behind its first word. -/
def counting : Nat → Parser Statement
  | 0 => unexpected
  | fuel + 1 => do
    match ← ahead 0, ← ahead 1, ← ahead 2, ← ahead 3, ← ahead 4 with
    | .sign "(", .name name _, .word "in", .name table _, .sign ")" =>
      let place ← use .variable name
      let from? ← use .table table
      advance
      advance
      advance
      advance
      advance
      skipLines fuel
      return .each place from? (← inLoop (statement fuel))
    | _, _, _, _, _ => do
      expect "("
      let start ← if ← isSign ";" then pure none else some <$> expression fuel
      expect ";"
      let condition ← if ← isSign ";" then pure none else some <$> expression fuel
      expect ";"
      let step ← if ← isSign ")" then pure none else some <$> expression fuel
      expect ")"
      skipLines fuel
      return .count start condition step (← inLoop (statement fuel))

/-- Reads the statements of a block up to its brace. -/
def block : Nat → Parser Statement
  | 0 => unexpected
  | fuel + 1 => return .block (← statements fuel)

/-- Reads statements up to a brace. -/
def statements : Nat → Parser (List Statement)
  | 0 => unexpected
  | fuel + 1 => do
    skipLines fuel
    if ← take? "\x7d" then return []
    let first ← statement fuel
    return first :: (← statements fuel)
end

/-- Reads the parameters of a function up to the closing parenthesis. -/
def parameters : Nat → List Octets → Parser (List Octets)
  | 0, _ => unexpected
  | fuel + 1, before => do
    match (← peek).token with
    | .name name _ =>
      if before.contains name then complain (name ++ " is duplicated in argument list")
      advance
      if ← take? "," then parameters fuel (before ++ [name])
      else
        expect ")"
        return before ++ [name]
    | .sign ")" =>
      advance
      return before
    | _ => unexpected

/-- Reads a function behind its first word. -/
def function (fuel : Nat) : Parser Unit := do
  match (← peek).token with
  | .name name _ =>
    if (← get).names.any fun entry => entry.1 == name && entry.2 ≠ .unknown then
      complain ("illegal reference to variable " ++ name)
    let index ← functionOf name
    if ((← get).functions[index]?.bind Function.body).isSome then
      complain ("redefinition of " ++ name)
      throw ()
    advance
    expect "("
    let names ← parameters fuel []
    if names.contains name then complain "function parameter cannot be the function"
    skipLines fuel
    modify fun p =>
      { p with
        scope := some index, parameters := names, kinds := names.map fun _ => .unknown
        functions := p.functions.modify index fun f => { f with body := some .nothing } }
    expect "\x7b"
    let body ← block fuel
    modify fun p =>
      { p with
        scope := none, parameters := [], kinds := []
        functions := p.functions.modify index fun f =>
          { f with parameters := names.length, kinds := p.kinds, body := some body } }
  | _ => unexpected

/-- Reads the items of a program. -/
def items : Nat → Program → Parser Program
  | 0, _ => unexpected
  | fuel + 1, program => do
    skipLines fuel
    match (← peek).token with
    | .finish => return program
    | .word "BEGIN" =>
      advance
      expect "\x7b"
      let body ← block fuel
      items fuel { program with starts := program.starts ++ [body] }
    | .word "END" =>
      advance
      expect "\x7b"
      let body ← block fuel
      items fuel { program with finishes := program.finishes ++ [body] }
    | .word "function" =>
      advance
      function fuel
      items fuel program
    | _ => do
      let choice ← if ← isSign "\x7b" then pure Choice.all
        else do
          let first ← expression fuel
          if ← take? "," then pure (Choice.range first (← expression fuel)) else pure (.those first)
      modify fun p => { p with inRule := true }
      let body ← if ← take? "\x7b" then block fuel
        else do
          separator
          pure (.print [] none)
      modify fun p => { p with inRule := false }
      items fuel { program with rules := program.rules ++ [⟨choice, body⟩] }

/-- What a parameter of a function stands for. -/
def parameterKind (p : Parsing) (function index : Nat) : Kind :=
  ((((p.functions[function]?).map Function.kinds).getD [])[index]?).getD .unknown

/-- What a name that is given to a function stands for. -/
def givenKind (p : Parsing) (link : Link) : Kind :=
  match link.place, link.scope with
  | .program index, _ => (p.names.getD index ([], .unknown)).2
  | .parameter index, some function => parameterKind p function index
  | .parameter _, none => .unknown

/-- Passes on what names stand for between calls and functions, until nothing new is found. -/
def settleKinds : Nat → Parsing → Parsing
  | 0, p => p
  | fuel + 1, p =>
    let step (p : Parsing) (link : Link) : Parsing :=
      let callee := parameterKind p link.function link.argument
      let kind := givenKind p link
      if callee = .unknown && kind ≠ .unknown then
        { p with functions := p.functions.modify link.function fun f =>
          { f with kinds := f.kinds.set link.argument kind } }
      else if kind = .unknown && callee ≠ .unknown then
        match link.place, link.scope with
        | .program index, _ =>
          { p with names := p.names.modify index fun (name, _) => (name, callee) }
        | .parameter index, some f =>
          { p with functions := p.functions.modify f fun f =>
            { f with kinds := f.kinds.set index callee } }
        | _, none => p
      else p
    settleKinds fuel (p.links.foldl step p)

/-- Complaints about names that are given to functions but stand for something else there. -/
def linkComplaints (p : Parsing) : List Octets :=
  p.links.reverse.filterMap fun (link : Link) =>
    let wanted := parameterKind p link.function link.argument
    let given := givenKind p link
    match p.functions[link.function]? with
    | some f =>
      if wanted ≠ .unknown && given ≠ .unknown && wanted ≠ given then
        some ("line " ++ Octets.ofNat link.line ++ ": type error in arg(" ++
          Octets.ofNat (link.argument + 1) ++ ") in call to " ++ f.name)
      else none
    | none => none

/-- Complaints about calls. -/
def callComplaints (p : Parsing) (lastLine : Nat) : List Octets :=
  let missing := p.functions.toList.filter fun f => f.body.isNone
  let absent := missing.map fun f =>
    "line " ++ Octets.ofNat lastLine ++ ": function " ++ f.name ++ " never defined"
  let long := p.calls.reverse.filterMap fun (index, count, line) =>
    match p.functions[index]? with
    | some f =>
      if f.body.isSome && f.parameters < count then
        some ("line " ++ Octets.ofNat line ++ ": too many arguments in call to " ++ f.name)
      else none
    | none => none
  absent ++ long

end Parser

/-- Reads a program in which some names are known to be variables: it, or what is wrong with it. -/
def Program.read (known : List Octets) (text : Octets) : Except (List Octets) Program :=
  match Lexing.lexemes text with
  | .error fault => .error [fault.text]
  | .ok lexemes =>
    let told := (lexemes.head?.bind Lexeme.complaint).toList
    let fuel := 20 * lexemes.length + 100
    let others := known.filter fun name => !(firstNames.any fun entry => entry.1 == name)
    let names := firstNames ++ (others.map fun name => (name, Kind.variable)).toArray
    let (result, p) := (Parser.items fuel {}).run.run { rest := lexemes, complaints := told, names }
    match result with
    | .error () => .error p.complaints.reverse
    | .ok program =>
      let lastLine := ((lexemes.getLast?).map Lexeme.line).getD 1
      let complaints := if p.complaints.isEmpty then Parser.callComplaints p lastLine
        else p.complaints.reverse
      if !complaints.isEmpty then .error complaints
      else
        let p := Parser.settleKinds (p.links.length + 1) p
        let complaints := Parser.linkComplaints p
        if complaints.isEmpty then .ok { program with functions := p.functions, names := p.names }
        else .error complaints

end DocMend.Shell.Scan
