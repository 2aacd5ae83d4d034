import DocMend.Number.Decimal
import DocMend.Text.Search
/-!
Raw lines of a source file. A raw line holds its own terminator, a line feed with or without a
carriage return before it; only the last line of a file may have none.

Source files as lists of raw lines. Reading a text and writing it back changes nothing; inserted
lines stand right before the line of their index and take over the file's line ends.

Places in a source file that a reported line points to: the nearest line above it that ends a
comment block, and the declaration itself.
-/

set_option autoImplicit false
set_option relaxedAutoImplicit false

namespace DocMend.Line

/-- The terminator of a raw line. -/
def terminatorChars : List Char → List Char
  | [] => []
  | ['\n'] => ['\n']
  | ['\r', '\n'] => ['\r', '\n']
  | _ :: cs => terminatorChars cs

/-- A raw line without its terminator. -/
def contentChars : List Char → List Char
  | [] => []
  | ['\n'] => []
  | ['\r', '\n'] => []
  | c :: cs => c :: contentChars cs

/-- A raw line is its content followed by its terminator. -/
theorem content_append_terminator (raw : List Char) :
    contentChars raw ++ terminatorChars raw = raw := by
  fun_induction contentChars raw with
  | case1 => rfl
  | case2 => rfl
  | case3 => rfl
  | case4 c cs notFeed notPair ih =>
    rw [terminatorChars] <;> simp_all

/-- The blanks and tabs at the beginning of a line. -/
def indentChars (cs : List Char) : List Char :=
  cs.takeWhile fun c => c == ' ' || c == '\t'

/-- The terminator of a raw line; empty for an unterminated one. -/
def terminator (raw : String) : String :=
  String.ofList (terminatorChars raw.toList)

/-- The content of a raw line. -/
def content (raw : String) : String :=
  String.ofList (contentChars raw.toList)

/-- The indent of a line. -/
def indent (line : String) : String :=
  String.ofList (indentChars line.toList)

/-- Whether a raw line has no terminator. -/
def isOpen (raw : String) : Bool :=
  (terminatorChars raw.toList).isEmpty

/-- Cuts a text after each line feed; an empty text has no lines. -/
def split : List Char → List (List Char)
  | [] => []
  | c :: cs =>
    if c = '\n' then ['\n'] :: split cs
    else
      match split cs with
      | [] => [[c]]
      | line :: rest => (c :: line) :: rest

/-- Cutting loses nothing. -/
theorem flatten_split (cs : List Char) : (split cs).flatten = cs := by
  induction cs with
  | nil => rfl
  | cons c cs ih =>
    simp only [split]
    split
    · rename_i feed; simp [ih, feed]
    · split <;> simp_all

end DocMend.Line

namespace DocMend

/-- The raw lines of one file. -/
structure Source where
  lines : List String
deriving DecidableEq, Repr

/-- Lines to be put before the line with a given index, counted from zero. The lines carry no
terminators. -/
structure Insertion where
  index : Number
  lines : List String
deriving DecidableEq, Repr

/-- An insertion index that is not a whole number from zero to the number of lines. -/
structure IndexError where
  index : Number
  size : Nat
deriving DecidableEq, Repr

/-- The wording of an index error. -/
def IndexError.message (e : IndexError) : String :=
  "insertion index " ++ e.index.text ++ " outside 0.." ++ toString e.size

namespace Source

/-- Reads the lines of a text. -/
def ofText (text : String) : Source :=
  ⟨(Line.split text.toList).map String.ofList⟩

/-- The text of a file. -/
def text (source : Source) : String :=
  String.ofList (source.lines.flatMap String.toList)

/-- How many raw lines there are. -/
def size (source : Source) : Nat :=
  source.lines.length

/-- The content of the line with an index, if there is such a line. -/
def contentAt? (source : Source) (index : Number) : Option String :=
  match index.toNat? with
  | some n => (source.lines[n]?).map Line.content
  | none => none

/-- The first terminator that is not empty. -/
def firstTerminator? (lines : List String) : Option String :=
  (lines.map Line.terminator).find? fun terminator => !terminator.isEmpty

/-- The terminator of lines inserted at an index: that of the line they precede, else the first one
in the file, else a line feed. -/
def terminatorFor (source : Source) (index : Nat) : String :=
  let own := ((source.lines[index]?).map Line.terminator).getD ""
  if own.isEmpty then (firstTerminator? source.lines).getD "\n" else own

/-- Ends the last line where it is unterminated. -/
def endLast (terminator : String) : List String → List String
  | [] => []
  | [line] => [if Line.isOpen line then line ++ terminator else line]
  | line :: rest => line :: endLast terminator rest

/-- Puts lines before the line with index `index`. Behind an unterminated last line that line is
ended first, so that nothing is glued to it. -/
def splice (source : Source) (index : Nat) (added : List String) : Source :=
  let terminator := source.terminatorFor index
  let before := source.lines.take index
  let before := if index = source.lines.length then endLast terminator before else before
  ⟨before ++ added.map (· ++ terminator) ++ source.lines.drop index⟩

/-- Carries out an insertion. -/
def insert (source : Source) (insertion : Insertion) : Except IndexError Source :=
  match insertion.index.toNat? with
  | some n =>
    if n ≤ source.lines.length then .ok (source.splice n insertion.lines)
    else .error ⟨insertion.index, source.size⟩
  | none => .error ⟨insertion.index, source.size⟩

/-- Reading a text and writing it back gives the same text. -/
theorem text_ofText (t : String) : (ofText t).text = t := by
  have cut : ∀ parts : List (List Char),
      (parts.map String.ofList).flatMap String.toList = parts.flatten := by
    intro parts
    induction parts with
    | nil => rfl
    | cons part parts ih => simp [ih]
  simp only [ofText, text, cut, Line.flatten_split, String.ofList_toList]

end Source

end DocMend

namespace DocMend.Source

/-- The mark that ends a comment block. -/
def blockEnd : String := "*/"

/-- Whether the line with an index holds the end of a comment block. -/
def endsBlock (source : Source) (index : Nat) : Bool :=
  match source.lines[index]? with
  | some raw => Text.contains (Line.content raw) blockEnd
  | none => false

/-- The largest index below `bound` and above `stop` whose line ends a comment block. -/
def lastBlockEnd? (source : Source) (stop : Number) : Nat → Option Nat
  | 0 => none
  | index + 1 =>
    if stop < Number.ofNat index then
      if source.endsBlock index then some index else lastBlockEnd? source stop index
    else none

/-- The index of the nearest block end above a reported line. The search starts at the line above
the reported one and looks at no more than `window` lines. -/
def anchor? (source : Source) (line window : Number) : Option Nat :=
  let start := line - 2
  match start.toNat? with
  | some first => source.lastBlockEnd? (start - window) (min (first + 1) source.lines.length)
  | none => none

/-- The index of the declaration on a reported line, if the line exists. -/
def declaration? (source : Source) (line : Number) : Option Nat :=
  match (line - 1).toNat? with
  | some index => if index < source.lines.length then some index else none
  | none => none

end DocMend.Source
