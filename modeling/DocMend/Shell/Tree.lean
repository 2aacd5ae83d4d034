import DocMend.Shell.Octets
/-!
Scripts as trees. A word is a list of pieces; the text of a here-document follows later in a script
than its redirection, which therefore holds only the number of the document.

Words that assign. Such a word begins with a name and an equals sign; in the extended language the
index of an element may stand between them, and a plus sign before the equals sign appends.
-/

set_option autoImplicit false
set_option relaxedAutoImplicit false

namespace DocMend.Shell

/-- The two languages: that of the POSIX shell, and its extension. -/
inductive Dialect where
  | posix
  | extended
deriving DecidableEq, Repr

/-- What is made of the value of a parameter. -/
inductive Use where
  | malformed
  | value
  | orElse
  | ifSet
  | orFail
  | orAssign
  | dropEnd (longest : Bool)
  | dropStart (longest : Bool)
  | length
  | slice
  | replace (everywhere : Bool)
  | upper (all : Bool)
  | lower (all : Bool)
  | swapped (all : Bool)
  /-- A rendering that a letter names. -/
  | rendered (letter : Char)
  /-- The names that begin like the parameter; they may be kept apart. -/
  | names (apart : Bool)
deriving DecidableEq, Repr

/-- A quotation mark. A faint one stands around expansions that may be of no parameters at all: there it
makes no word. -/
inductive Mark where
  | single
  | double
  | faint
deriving DecidableEq, Repr

/-- Which descriptor is redirected: one with a number, or a free one whose number a variable takes. -/
inductive Descriptor where
  | number (n : Nat)
  | free (name : Octets)
deriving DecidableEq, Repr

/-- What follows an arm of a selection: the end, the body of the next arm, or its patterns. -/
inductive ArmEnd where
  | stop
  | enter
  | test
deriving DecidableEq, Repr

/-- What a redirection does. -/
inductive Sign where
  | input
  | output
  | force
  | append
  | both
  | copyInput
  | copyOutput
  | everything
  | everythingAppend
  | text
  | document (stripsTabs : Bool)
deriving DecidableEq, Repr

mutual
/-- What an expansion takes its value from: a parameter, or an element of an array by its index; in
the indirect form that value is the name of what is meant. The name may stand between braces. -/
structure Reference where
  name : Octets
  index : Option (List Piece) := none
  indirect : Bool := false
  braced : Bool := false

/-- A part of a word: a character, a quotation mark, or an expansion. What is quoted is never cut
into several words and has no special meaning in patterns. The output of a command between backquotes
comes with its text; a process is one that is read from or written to by a file name. -/
inductive Piece where
  | char (c : Char) (quoted : Bool)
  | mark (mark : Mark)
  | parameter (source : Reference) (use : Use) (orNull quoted : Bool) (word : List Piece)
  | output (body : Command) (quoted : Bool) (text : Option Octets)
  | process (body : Command) (takesInput : Bool)
  | arithmetic (expression : List Piece) (quoted : Bool)
  | array (elements : List (List Piece))

/-- A redirection of a descriptor. -/
inductive Redirection where
  | file (descriptor : Descriptor) (sign : Sign) (target : List Piece)
  | document (descriptor : Descriptor) (index : Nat) (stripsTabs : Bool) (mark : List Piece)

/-- An arm of a selection: its patterns and its body. -/
inductive Arm where
  | mk (patterns : List (List Piece)) (body : Command) (after : ArmEnd)

/-- A condition between double brackets. -/
inductive Condition where
  | text (word : List Piece)
  | unary (operator : Octets) (word : List Piece)
  | binary (operator : Octets) (left right : List Piece)
  | negated (inner : Condition)
  | group (inner : Condition)
  | both (first second : Condition)
  | either (first second : Condition)

/-- A command. -/
inductive Command where
  | nothing
  | simple (line : Nat) (assignments words : List (List Piece)) (redirections : List Redirection)
  | pipeline (stages : List Command)
  | negated (body : Command)
  | both (first second : Command)
  | either (first second : Command)
  | sequence (first second : Command)
  | background (body : Command)
  | group (body : Command)
  | subshell (line : Nat) (body : Command) (redirections : List Redirection)
  | redirected (line : Nat) (body : Command) (redirections : List Redirection)
  | choice (test yes no : Command)
  | loop (untilTrue : Bool) (test body : Command)
  | each (line : Nat) (name : Octets) (words : List (List Piece)) (body : Command)
  | menu (line : Nat) (name : Octets) (words : List (List Piece)) (body : Command)
  | select (line : Nat) (subject : List Piece) (arms : List Arm)
  | define (line : Nat) (name : Octets) (body : Command)
  | timed (portable : Bool) (body : Command)
  | condition (line : Nat) (test : Condition)
  | compute (line : Nat) (expression : List Piece)
  | count (line : Nat) (start test step : List Piece) (body : Command)
  /-- A text that is no script: it is read once more, and refused, when it is run. -/
  | unread (text : Octets)
end

instance : Inhabited Command := ⟨.nothing⟩

/-- A word. -/
abbrev Word := List Piece

namespace Word

/-- The text of a word of unquoted characters. -/
def plain? : Word → Option Octets
  | [] => some []
  | .char c false :: rest => (plain? rest).map fun cs => c :: cs
  | _ => none

/-- The text of a word with quotation marks removed, as a here-document is ended by it. -/
def unquoted (word : Word) : Octets :=
  word.filterMap fun piece => match piece with
    | .char c _ => some c
    | _ => none

/-- The unquoted characters that a word begins with. -/
def leading : Word → Octets
  | .char c false :: rest => c :: leading rest
  | _ => []

/-- Whether a word begins with a name and an equals sign. -/
def isAssignment (word : Word) : Bool :=
  Octets.isAssignment word.leading

/-- A word of quoted characters. -/
def literal (cs : Octets) : Word :=
  cs.map fun c => .char c true

/-- A word of unquoted characters. -/
def bare (cs : Octets) : Word :=
  cs.map fun c => .char c false

end Word

/-- An assignment in a script: the name, the index of an element, whether it appends, and the value. -/
structure Assignment where
  name : Octets
  index : Option Word := none
  appends : Bool := false
  value : Word

namespace Word

/-- Adds a piece to the first part of a split word. -/
def withFirst (piece : Piece) (parts : Word × Word) : Word × Word :=
  (piece :: parts.1, parts.2)

/-- Splits a word at the bracket that closes the one before it: the index, and what follows. -/
def splitIndex? : Nat → Word → Option (Word × Word)
  | _, [] => none
  | depth, .char '[' false :: rest =>
    (splitIndex? (depth + 1) rest).map (withFirst (.char '[' false))
  | 0, .char ']' false :: rest => some ([], rest)
  | depth + 1, .char ']' false :: rest =>
    (splitIndex? depth rest).map (withFirst (.char ']' false))
  | depth, piece :: rest => (splitIndex? depth rest).map (withFirst piece)

/-- The value after an equals sign, and whether a plus sign stands before it. -/
def assigned? : Word → Option (Bool × Word)
  | .char '=' false :: value => some (false, value)
  | .char '+' false :: .char '=' false :: value => some (true, value)
  | _ => none

/-- The index at the beginning of a word, if there is one, and what follows it. -/
def index? (word : Word) : Option (Option Word × Word) :=
  match word with
  | .char '[' false :: rest => (splitIndex? 0 rest).map fun (index, after) => (some index, after)
  | _ => some (none, word)

/-- A word as an assignment. -/
def assignment? (dialect : Dialect) (word : Word) : Option Assignment :=
  let name := word.leading.takeWhile Octets.inName
  let rest := word.drop name.length
  if !Octets.isName name then none
  else
    match dialect, rest with
    | .posix, .char '=' false :: value => some { name, value }
    | .posix, _ => none
    | .extended, _ =>
      match index? rest with
      | none => none
      | some (index, after) =>
        (assigned? after).map fun (appends, value) => { name, index, appends, value }

/-- An element of an array with its index, whether it appends, and its value. -/
def element? (word : Word) : Option (Word × Bool × Word) :=
  match index? word with
  | some (some index, after) => (assigned? after).map fun (appends, value) => (index, appends, value)
  | _ => none

end Word

namespace Assignment

/-- The elements that an array is set to. -/
def list? (a : Assignment) : Option (List Word) :=
  match a.value with
  | [.array list] => some list
  | _ => none

end Assignment

end DocMend.Shell
