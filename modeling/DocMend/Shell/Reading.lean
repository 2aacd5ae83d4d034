import DocMend.Shell.Tree
/-!
The state of reading a script: the characters that are left, the number of the line, aliases that
are being read, and here-documents whose text is still to come.
-/

set_option autoImplicit false
set_option relaxedAutoImplicit false

namespace DocMend.Shell

/-- A token of a script. -/
inductive Token where
  | ending
  | newline
  | semicolon
  | background
  | both
  | either
  | pipe
  | wholePipe
  | opening
  | closing
  | armEnd (after : ArmEnd)
  | redirection (descriptor : Descriptor) (sign : Sign)
  | word (pieces : Word) (quoted : Bool)
  | keyword (text : String)

namespace Token

/-- How a token is called in a complaint. -/
def shown : Token → String
  | ending => "end of file"
  | newline => "newline"
  | semicolon => "\";\""
  | background => "\"&\""
  | both => "\"&&\""
  | either => "\"||\""
  | pipe => "\"|\""
  | wholePipe => "\"|&\""
  | opening => "\"(\""
  | closing => "\")\""
  | armEnd _ => "\";;\""
  | redirection _ _ => "redirection"
  | word _ _ => "word"
  | keyword text => "\"" ++ text ++ "\""

/-- The text of a token as it stands in a script. -/
def written : Token → String
  | ending => "newline"
  | newline => "newline"
  | semicolon => ";"
  | background => "&"
  | both => "&&"
  | either => "||"
  | pipe => "|"
  | wholePipe => "|&"
  | opening => "("
  | closing => ")"
  | armEnd after => match after with
    | .stop => ";;"
    | .enter => ";&"
    | .test => ";;&"
  | redirection _ sign => match sign with
    | .input => "<"
    | .output => ">"
    | .force => ">|"
    | .append => ">>"
    | .both => "<>"
    | .copyInput => "<&"
    | .copyOutput => ">&"
    | .everything => "&>"
    | .everythingAppend => "&>>"
    | .text => "<<<"
    | .document _ => "<<"
  | word pieces _ => String.ofList pieces.unquoted
  | keyword text => text

/-- Keywords that end a list of commands. -/
def enders : List String :=
  ["do", "done", "elif", "else", "esac", "fi", "then", "\x7d"]

/-- Whether a token ends a list of commands. -/
def endsList : Token → Bool
  | ending => true
  | closing => true
  | armEnd _ => true
  | keyword text => enders.contains text
  | _ => false

/-- Whether a token is a given keyword. -/
def isKeyword (token : Token) (text : String) : Bool :=
  match token with
  | keyword other => other == text
  | _ => false

/-- Whether a token is a word or a keyword. -/
def isWord : Token → Bool
  | word _ _ => true
  | keyword _ => true
  | _ => false

end Token

/-- Where a condition is refused: at the end of the script, or before so many characters of a line, or
behind the whole line. -/
inductive ConditionPlace where
  | ending
  | near (left : Option Nat)
deriving DecidableEq, Repr

/-- Why a text is no script: a token in the wrong place, a construct without an end, or a name that
cannot be used. -/
inductive Fault where
  | unexpected (token : Token) (expected : Option Token)
  | unterminated (closer text : String)
  /-- The commands of an expansion have no end. -/
  | openCommands
  | loopName
  | functionName
  /-- A condition is refused with complaints about some lines. -/
  | condition (complaints : List (Nat × String)) (place : ConditionPlace)

/-- A here-document whose mark is missing: the mark, the line before its text and the last line. -/
structure Unended where
  mark : Octets
  first : Nat
  last : Nat
deriving DecidableEq, Repr

/-- A fault, the line in which it was noticed, the here-documents without an end before it, and whether it
is among the elements of an array. -/
structure Flaw where
  line : Nat
  fault : Fault
  unended : List Unended := []
  inElements : Bool := false

/-- What is wrong, in the words of the POSIX shell. -/
def Fault.text : Fault → String
  | unexpected token none => token.shown ++ " unexpected"
  | unexpected token (some expected) =>
    token.shown ++ " unexpected (expecting " ++ expected.shown ++ ")"
  | unterminated _ text => text
  | openCommands => "end of file unexpected"
  | loopName => "Bad for loop variable"
  | functionName => "Bad function name"
  | condition _ _ => "word unexpected"

/-- What is looked for when the next token is read: keywords, aliases, tokens on later lines, the mark
that ends a here-document, assignments to elements, elements of an array, and patterns with
alternatives. -/
structure Checks where
  keywords : Bool := false
  aliases : Bool := false
  newlines : Bool := false
  mark : Bool := false
  assignments : Bool := false
  elements : Bool := false
  pattern : Bool := false
deriving DecidableEq, Repr

/-- A here-document whose text is still to come. -/
structure Awaited where
  index : Nat
  mark : Octets
  expands : Bool
  stripsTabs : Bool
deriving DecidableEq, Repr

/-- An alias that is being read: its name, how much text follows its value, and whether the word
after it is looked up too. -/
structure Expanding where
  name : Octets
  following : Nat
  continues : Bool
deriving DecidableEq, Repr

/-- The state of reading. -/
structure Reading where
  rest : Octets
  line : Nat := 1
  dialect : Dialect := .posix
  /-- Whether all patterns may have alternatives. -/
  alternatives : Bool := false
  aliases : List (Octets × Octets) := []
  expanding : List Expanding := []
  pushed : Bool := false
  last : Token := .newline
  lastWord : Word := []
  checks : Checks := {}
  awaited : List Awaited := []
  unended : List Unended := []
  documents : Array Word := #[]

/-- Computations that read. -/
abbrev Reader := StateT Reading (Except Flaw)

namespace Reader

/-- Refuses the script. -/
def refuse {α : Type} (fault : Fault) : Reader α := do
  let r ← get
  throw { line := r.line, fault, unended := r.unended }

/-- Refuses the last token. -/
def refuseToken {α : Type} (expected : Option Token := none) : Reader α := do
  refuse (.unexpected (← get).last expected)

/-- Whether the extended language is read. -/
def isExtended : Reader Bool :=
  return (← get).dialect = .extended

/-- Counts a line. -/
def countLine : Reader Unit :=
  modify fun r => { r with line := r.line + 1 }

/-- Leaves aliases whose values have been read. -/
def leaveAliases : Reader Unit := do
  let r ← get
  if r.expanding.isEmpty then return
  let left := r.rest.length
  let (past, expanding) := r.expanding.partition fun e => left ≤ e.following
  let aliases := r.checks.aliases || past.any Expanding.continues
  set { r with expanding, checks := { r.checks with aliases } }

/-- The next character. -/
def next : Reader (Option Char) := do
  leaveAliases
  let r ← get
  match r.rest with
  | [] => return none
  | c :: rest =>
    set { r with rest }
    return some c

/-- Puts a character back. -/
def putBack (c : Option Char) : Reader Unit :=
  match c with
  | some c => modify fun r => { r with rest := c :: r.rest }
  | none => pure ()

/-- Drops pairs of a backslash and a line end, and counts them. -/
def dropJoints : Nat → Octets → Nat × Octets
  | n, '\\' :: '\n' :: rest => dropJoints (n + 1) rest
  | n, rest => (n, rest)

/-- The next character after pairs of a backslash and a line end. -/
def nextJoined : Reader (Option Char) := do
  modify fun r =>
    let (n, rest) := dropJoints 0 r.rest
    if n = 0 then r else { r with rest, line := r.line + n }
  next

/-- Takes the next character if it is the given one. -/
def accept (c : Char) : Reader Bool := do
  let d ← nextJoined
  if d = some c then return true
  putBack d
  return false

/-- Takes the next character if it is among some, and gives what it stands for. -/
def choose {α : Type} (otherwise : α) (choices : List (Char × α)) : Reader α := do
  let c ← nextJoined
  match c.bind fun c => choices.lookup c with
  | some choice => return choice
  | none =>
    putBack c
    return otherwise

/-- Takes the next character if it is the given one and the extended language is read. -/
def acceptExtended (c : Char) : Reader Bool := do
  if ← isExtended then accept c else return false

/-- Reads the last token once more. -/
def pushBack : Reader Unit :=
  modify fun r => { r with pushed := true }

/-- Sets what is looked for next. -/
def expect (checks : Checks) : Reader Unit :=
  modify fun r => { r with checks }

/-- Makes room for the text of a here-document. -/
def newDocument : Reader Nat := do
  let r ← get
  set { r with documents := r.documents.push [] }
  return r.documents.size

end Reader

end DocMend.Shell
