import DocMend.Shell.Builtin.Basic
import DocMend.Shell.Expansion
/-!
Tests of texts, numbers and files. The words of a test are read by their number first; longer tests
are expressions, in which conjunction binds closer than disjunction.
-/

set_option autoImplicit false
set_option relaxedAutoImplicit false

namespace DocMend.Shell

/-- A machine as it is seen from a folder. -/
structure View where
  machine : Machine
  folder : Path
  options : List String := []
  isSet : Octets → Bool := fun _ => false
  isReference : Octets → Bool := fun _ => false

namespace View

/-- The path of a file name. -/
def path? (v : View) (name : Octets) : Option Path :=
  (v.machine.locate v.folder (Octets.toText name)).toOption

/-- What a file name leads to. -/
def node? (v : View) (name : Octets) : Option Disk.Node :=
  (v.path? name).bind fun path => (v.machine.disk.find path).toOption

/-- The device that a file name leads to. -/
def device? (v : View) (name : Octets) : Option Device :=
  Device.at? (Path.resolve v.folder (Octets.toText name))

/-- Whether a file may be run: scripts on the disk are told apart by their places. -/
def isExecutable (v : View) (name : Octets) : Bool :=
  match v.node? name, v.path? name with
  | some .folder, _ => true
  | some (.file _), some path =>
    v.machine.isExecutable path ||
      v.machine.programs.any fun program => program.places.contains path
  | _, _ => false

/-- Whether a file name leads to a symbolic link. -/
def isLink (v : View) (name : Octets) : Bool :=
  match v.machine.locate v.folder (Octets.toText name) false with
  | .ok path => (v.machine.link? path).isSome
  | .error _ => false

/-- Whether a file has a bit of its mode. -/
def hasBit (v : View) (bit : Nat) (name : Octets) : Bool :=
  match v.path? name with
  | some path => v.machine.isPresent path && v.machine.modeOf path &&& bit ≠ 0
  | none => false

/-- Whether a test of one file holds. -/
def holds (v : View) (letter : Char) (name : Octets) : Bool :=
  match v.device? name, letter with
  | some _, 'd' => false
  | some _, 'f' => false
  | some _, 's' => false
  | some _, 'x' => false
  | some device, 'c' => device = .empty
  | some _, 'e' => true
  | some _, 'r' => true
  | some _, 'w' => true
  | _, letter =>
    let node := v.node? name
    match letter with
    | 'f' => match node with
      | some (.file _) => true
      | _ => false
    | 'd' => match node with
      | some .folder => true
      | _ => false
    | 's' => match node with
      | some (.file bytes) => !bytes.isEmpty
      | some .folder => true
      | none => false
    | 'x' => v.isExecutable name
    | 'h' => v.isLink name
    | 'L' => v.isLink name
    | 'u' => v.hasBit 2048 name
    | 'g' => v.hasBit 1024 name
    | 'k' => v.hasBit 512 name
    | 'e' => node.isSome
    | 'a' => node.isSome
    | 'r' => node.isSome
    | 'w' => node.isSome
    | 'O' => node.isSome
    | 'G' => node.isSome
    | 'N' => node.isSome
    | _ => false

/-- Whether a file was changed after another one. In the extended language it is also newer than one
that is missing. -/
def isNewer (v : View) (dialect : Dialect) (first second : Octets) : Bool :=
  match v.path? first, v.path? second with
  | some a, some b =>
    if !v.machine.isPresent a then false
    else if !v.machine.isPresent b then dialect == .extended
    else v.machine.timeOf b < v.machine.timeOf a
  | some a, none => dialect == .extended && v.machine.isPresent a
  | none, _ => false

/-- Whether two file names lead to the same file. -/
def isSameFile (v : View) (first second : Octets) : Bool :=
  match v.path? first, v.path? second with
  | some a, some b => (v.machine.namesAt a).contains b && v.machine.isPresent a
  | _, _ => false

end View

namespace Test

/-- The result of a test, or a complaint about it. -/
abbrev Answer := Except Octets

/-- Operators that compare numbers, and how. -/
def comparison? (operator : Octets) : Option (Int → Int → Bool) :=
  match Octets.name operator with
  | "-eq" => some fun a b => a == b
  | "-ne" => some fun a b => a != b
  | "-gt" => some fun a b => decide (b < a)
  | "-ge" => some fun a b => decide (b ≤ a)
  | "-lt" => some fun a b => decide (a < b)
  | "-le" => some fun a b => decide (a ≤ b)
  | _ => none

/-- Operators between two texts or files. -/
def isBinary (dialect : Dialect) (word : Octets) : Bool :=
  (comparison? word).isSome ||
    ["=", "!=", "<", ">", "-nt", "-ot", "-ef"].contains (Octets.name word) ||
    dialect == .extended && word == ['=', '=']

/-- Operators before one text or file. -/
def isUnary (dialect : Dialect) (word : Octets) : Bool :=
  match word with
  | ['-', c] =>
    "rwxefdcbpugkstznhLOGS".toList.contains c || dialect == .extended && "avoNR".toList.contains c
  | _ => false

/-- The number that a word writes. -/
def number (dialect : Dialect) (word : Octets) : Answer Int :=
  match Octets.decimal? word with
  | some n =>
    if smallestInteger ≤ n && n ≤ largestInteger then .ok n
    else .error (if dialect = .posix then "Illegal number: " ++ word
      else word ++ ": integer expression expected")
  | none =>
    .error (if dialect = .posix then "Illegal number: " ++ word
      else word ++ ": integer expression expected")

/-- Whether a test of one text or file holds. -/
def unary (dialect : Dialect) (v : View) (operator word : Octets) : Answer Bool :=
  match operator with
  | ['-', 'n'] => .ok (!word.isEmpty)
  | ['-', 'z'] => .ok word.isEmpty
  | ['-', 't'] =>
    if dialect = .posix then (number dialect word).map fun _ => false else .ok false
  | ['-', 'v'] => .ok (v.isSet word)
  | ['-', 'R'] => .ok (v.isReference word)
  | ['-', 'o'] => .ok (v.options.contains word.name)
  | ['-', c] => .ok (v.holds c word)
  | _ => .ok false

/-- Whether a test of two texts or files holds. -/
def binary (dialect : Dialect) (v : View) (operator first second : Octets) : Answer Bool := do
  match comparison? operator with
  | some compare => return compare (← number dialect first) (← number dialect second)
  | none =>
    match Octets.name operator with
    | "!=" => return first != second
    | "<" => return first != second && textBefore first second
    | ">" => return first != second && textBefore second first
    | "-nt" => return v.isNewer dialect first second
    | "-ot" => return v.isNewer dialect second first
    | "-ef" => return v.isSameFile first second
    | _ => return first == second

/-- What a word of an expression is taken for. -/
inductive Kind where
  | unary
  | binary
  | negation
  | both
  | either
  | opening
  | closing
  | operand
  | ending
deriving DecidableEq, Repr

/-- What the first of some words is taken for. An operator without anything to work on is an
operand. -/
def kind : List Octets → Kind
  | [] => .ending
  | word :: rest =>
    if isUnary .posix word then
      match rest with
      | [] => .operand
      | [_] => .unary
      | next :: _ => if isBinary .posix next then .operand else .unary
    else if isBinary .posix word then .binary
    else if word == ['!'] then .negation
    else if word == ['-', 'a'] then .both
    else if word == ['-', 'o'] then .either
    else if word == ['('] then (if rest.isEmpty then .operand else .opening)
    else if word == [')'] then .closing
    else .operand

/-- A complaint about a word. -/
def complaint (word : Octets) (text : String) : Octets :=
  if word.isEmpty then text else word ++ ": " ++ text

/-- What an expression reader looks for. -/
inductive Level where
  | either
  | both
  | negation
  | primary
deriving DecidableEq, Repr

/-- Reads an expression whose first word is taken for the given kind: its value, and the words from
the last one that was read on. -/
def expression (v : View) : Nat → Level → Kind → List Octets → Answer (Bool × List Octets)
  | 0, _, _, words => .ok (false, words)
  | fuel + 1, level, first, words =>
    match level with
    | .either => do
      let (value, words) ← expression v fuel .both first words
      if kind (words.drop 1) = .either then
        let next := words.drop 2
        let (other, words) ← expression v fuel .either (kind next) next
        return (value || other, words)
      else return (value, words)
    | .both => do
      let (value, words) ← expression v fuel .negation first words
      if kind (words.drop 1) = .both then
        let next := words.drop 2
        let (other, words) ← expression v fuel .both (kind next) next
        return (value && other, words)
      else return (value, words)
    | .negation => do
      if first = .negation then
        let next := kind (words.drop 1)
        let words := if next = .ending then words else words.drop 1
        let (value, words) ← expression v fuel .negation next words
        return (!value, words)
      else expression v fuel .primary first words
    | .primary => do
      match first, words with
      | .ending, words => return (false, words)
      | .opening, _ :: words =>
        if kind words = .closing then return (false, words)
        let (value, words) ← expression v fuel .either (kind words) words
        let words := words.drop 1
        if kind words ≠ .closing then throw "closing paren expected".toList
        return (value, words)
      | .unary, operator :: rest =>
        match rest with
        | word :: _ => return (← unary .posix v operator word, rest)
        | [] => throw (complaint operator "argument expected")
      | _, word :: operator :: rest =>
        if kind (operator :: rest) = .binary then
          match rest with
          | other :: _ => return (← binary .posix v operator word other, rest)
          | [] => throw (complaint operator "argument expected")
        else return (!word.isEmpty, words)
      | _, words => return (words.head?.any fun word => !word.isEmpty, words)

/-- The value of an expression that all the words make up. -/
def whole (v : View) (first : Kind) (words : List Octets) : Answer Bool := do
  let (value, rest) ← expression v (4 * words.length + 8) .either first words
  match rest with
  | word :: _ :: _ => throw (complaint word "unexpected operator")
  | _ => return value

/-- The value of a test in the POSIX language. Of two negations in front of a short test only one
counts. -/
def posix (v : View) (negated : Bool) : List Octets → Answer Bool
  | [] => .ok negated
  | words =>
    let signed (answer : Answer Bool) : Answer Bool := answer.map fun value => value != negated
    let general : Answer Bool := signed (whole v (kind words) words)
    let inParentheses : Option (List Octets) := match words with
      | ['('] :: rest => if rest.getLast? = some [')'] then some rest.dropLast else none
      | _ => none
    match words with
    | [first, operator, second] =>
      if isBinary .posix operator then signed (whole v .operand [first, operator, second])
      else
        match inParentheses, first with
        | some inner, _ => signed (whole v (kind inner) inner)
        | none, ['!'] => posix v true [operator, second]
        | none, _ => general
    | [first, a, b, c] =>
      match inParentheses, first with
      | some inner, _ => signed (whole v (kind inner) inner)
      | none, ['!'] => posix v true [a, b, c]
      | none, _ => general
    | _ => general

/-- Reads an expression of the extended language: its value, and the words after it. -/
def extendedExpression (v : View) : Nat → Level → List Octets → Answer (Bool × List Octets)
  | 0, _, words => .ok (false, words)
  | fuel + 1, level, words =>
    match level with
    | .either => do
      let (value, words) ← extendedExpression v fuel .both words
      match words with
      | ['-', 'o'] :: rest =>
        let (other, words) ← extendedExpression v fuel .either rest
        return (value || other, words)
      | _ => return (value, words)
    | .both => do
      let (value, words) ← extendedExpression v fuel .primary words
      match words with
      | ['-', 'a'] :: rest =>
        let (other, words) ← extendedExpression v fuel .both rest
        return (value && other, words)
      | _ => return (value, words)
    | _ => do
      match words with
      | [] => throw "argument expected".toList
      | ['!'] :: rest =>
        let (value, words) ← extendedExpression v fuel .primary rest
        return (!value, words)
      | ['('] :: rest =>
        let (value, words) ← extendedExpression v fuel .either rest
        match words with
        | [')'] :: words => return (value, words)
        | [] => throw "\x60)\x27 expected".toList
        | word :: _ => throw ("\x60)\x27 expected, found " ++ word)
      | first :: operator :: second :: rest =>
        if isBinary .extended operator then
          return (← binary .extended v operator first second, rest)
        else if isUnary .extended first then
          return (← unary .extended v first operator, second :: rest)
        else return (!first.isEmpty, operator :: second :: rest)
      | [first, second] =>
        if isUnary .extended first then return (← unary .extended v first second, [])
        else return (!first.isEmpty, [second])
      | [word] => return (!word.isEmpty, [])

/-- The value of a test in the extended language. -/
def extended (v : View) : List Octets → Answer Bool
  | [] => .ok false
  | [word] => .ok (!word.isEmpty)
  | [first, second] =>
    if first == ['!'] then .ok second.isEmpty
    else if isUnary .extended first then unary .extended v first second
    else .error (first ++ ": unary operator expected")
  | [first, operator, second] =>
    if isBinary .extended operator then binary .extended v operator first second
    else if operator == ['-', 'a'] then .ok (!first.isEmpty && !second.isEmpty)
    else if operator == ['-', 'o'] then .ok (!first.isEmpty || !second.isEmpty)
    else if first == ['!'] then (extended v [operator, second]).map not
    else if first == ['('] && second == [')'] then .ok (!operator.isEmpty)
    else .error (operator ++ ": binary operator expected")
  | words => do
    let general : Answer Bool := do
      let (value, rest) ← extendedExpression v (4 * words.length + 8) .either words
      if rest.isEmpty then return value
      throw "too many arguments".toList
    match words with
    | [first, a, b, c] =>
      if first == ['!'] then return !(← extended v [a, b, c])
      else if first == ['('] && c == [')'] then extended v [a, b]
      else general
    | _ => general

end Test

namespace Builtin

/-- The machine as the process sees it. -/
def view : Run View := do
  let s ← Run.self
  return {
    machine := ← Run.machine, folder := s.folder, options := s.options, isSet := s.hasValue
    isReference := fun name => (getKey s.vars name).any fun v => v.isReference }

/-- The name of what a test asks a value of, with its index expanded. An index that counts too far back
is complained of. -/
def asked (e : Engine) (text : Octets) : Run Octets := do
  let text ← Expansion.indexed e text
  let s ← Run.self
  match splitElement text with
  | (base, some index) =>
    let content := ((s.lookup? (s.referent base)).map Variable.content).getD .nothing
    if !content.isTable && !index.all Octets.isGap && index != ['@'] && index != ['*'] then
      match Calculation.value s.memory index with
      | .ok (n, _) =>
        if n + content.stop < 0 then
          Run.modifySelf fun s => { s with command := none }
          Run.warn (base ++ ": bad array subscript")
      | .error _ => pure ()
  | _ => pure ()
  return text

/-- The words of a test, with what stands after an operator that asks for a value made ready. -/
def askedWords (e : Engine) : List Octets → Run (List Octets)
  | [] => return []
  | [word] => return [word]
  | word :: next :: rest => do
    if word != ['-', 'v'] then return word :: (← askedWords e (next :: rest))
    return word :: (← asked e next) :: (← askedWords e rest)

/-- The status of a test. -/
def testStatus (e : Engine) (words : List Octets) : Run Nat := do
  let isExtended ← Run.isExtended
  let words ← if isExtended then askedWords e words else pure words
  let v ← view
  match (if isExtended then Test.extended v words else Test.posix v false words) with
  | .ok true => return 0
  | .ok false => return 1
  | .error text =>
    if isExtended then
      Run.warn text
      return 2
    Run.fail text

/-- The builtin that tests its arguments. -/
def test : Builtin := testStatus

/-- The builtin that tests its arguments up to a closing bracket. -/
def bracket : Builtin := fun e arguments => do
  if arguments.getLast? = some [']'] then testStatus e arguments.dropLast
  else if ← Run.isExtended then
    Run.warn "missing \x60]\x27"
    return 2
  else Run.fail "missing ]"

end Builtin

end DocMend.Shell
