import DocMend.Shell.Regex.Reading
import DocMend.Shell.Regex.Search
/-!
Scripts that edit a stream of lines. An instruction has addresses that select the lines it acts on, and
an action; instructions are numbered, and some of them go on with another number than the next.
-/

set_option autoImplicit false
set_option relaxedAutoImplicit false

namespace DocMend.Shell.Edit

/-- What is looked for in a line: an expression, or the one that was looked for last. -/
inductive Finder where
  | last
  | given (searcher : Regex.Searcher) (lines : Bool)

/-- The lines that an address stands for. -/
inductive Address where
  | line (n : Nat)
  /-- Every so many lines, from a line on. -/
  | every (first step : Nat)
  | final
  | found (finder : Finder)
  /-- So many lines behind the first address. -/
  | behind (count : Nat)
  /-- The next line whose number is a multiple. -/
  | multiple (n : Nat)

/-- Which lines an instruction acts on: all, those of one address, or those from one address to another;
or all others. -/
structure Selection where
  first : Option Address := none
  second : Option Address := none
  inverted : Bool := false

/-- Where text goes: to the output, to standard error, or to a file. -/
inductive Target where
  | output
  | error
  | file (name : Octets)
deriving DecidableEq, Repr

/-- How the case of letters is changed. -/
inductive Casing where
  | none
  | upper
  | lower
deriving DecidableEq, Repr

/-- A part of a replacement. -/
inductive Piece where
  | text (cs : Octets)
  | group (number : Nat)
  /-- The case of all that follows, and that of the next character. -/
  | casing (c : Casing)
  | next (c : Casing)
deriving DecidableEq, Repr

/-- A replacement of what is found. -/
structure Substitution where
  finder : Finder
  pieces : List Piece
  everywhere : Bool := false
  /-- The number of the first match that is replaced. -/
  number : Nat := 1
  prints : Nat := 0
  runs : Bool := false
  target : Option Target := none

/-- What an instruction does. -/
inductive Action where
  /-- Goes on behind the end of a block, unless the line is selected. -/
  | block (stop : Nat)
  | nothing
  | append (text : Octets)
  | insert (text : Octets)
  | change (text : Octets)
  | jump (goal : Nat)
  | jumpIf (replaced : Bool) (goal : Nat)
  | quit (prints : Bool) (status : Nat)
  | list (width : Option Nat)
  | number
  | delete
  | deleteFirst
  | fileName
  | fetch (adds : Bool)
  | keep (adds : Bool)
  | swap
  | next (adds : Bool)
  | print
  | printFirst
  | empty
  | readFile (name : Octets)
  | readLine (name : Octets)
  | write (whole : Bool) (target : Target)
  | substitute (s : Substitution)
  | translate (table : List (Char × Char))
  | run (command : Octets)

/-- An instruction. -/
structure Instruction where
  selection : Selection
  action : Action

/-- A script, and whether lines are only printed on demand. -/
structure Script where
  instructions : Array Instruction
  quiet : Bool := false
  /-- How many texts the script was put together from. -/
  texts : Nat := 1

/-- What is wrong with a script. -/
inductive Fault where
  | doubleBang
  | badComma
  | badFirst
  | badZero
  | openBlock
  | closedBlock
  | closeAddress
  | extraCharacters
  | expectedBackslash
  | labelAddress
  | labelMissing
  | commentAddress
  | missingCommand
  | oneAddress
  | openRegex
  | openSubstitution
  | openTranslation
  | unknownFlag
  | doublePrint
  | doubleGlobal
  | doubleNumber
  | zeroNumber
  | lengths
  | newerVersion
  | unknownCommand (c : Char)
  | recursiveEscape
  | missingFile
  | noLast
  | emptyModifiers
  | badReference (n : Nat)
  | regex (fault : Regex.Fault)
deriving DecidableEq, Repr

/-- A name between the marks of a quotation. -/
def inMarks (text : Octets) : Octets :=
  ['\x60'] ++ text ++ ['\x27']

/-- The wording of a fault. -/
def Fault.text : Fault → Octets
  | doubleBang => "multiple ".toList ++ inMarks ['!'] ++ ['s']
  | badComma => "unexpected ".toList ++ inMarks [',']
  | badFirst => "invalid usage of +N or ~N as first address".toList
  | badZero => "invalid usage of line address 0".toList
  | openBlock => "unmatched ".toList ++ inMarks ['\x7b']
  | closedBlock => "unexpected ".toList ++ inMarks ['\x7d']
  | closeAddress => inMarks ['\x7d'] ++ " doesn\x27t want any addresses".toList
  | extraCharacters => "extra characters after command".toList
  | expectedBackslash =>
    "expected \\ after ".toList ++ inMarks ['a'] ++ ", ".toList ++ inMarks ['c'] ++ " or ".toList ++
      inMarks ['i']
  | labelAddress => ": doesn\x27t want any addresses".toList
  | labelMissing => "\":\" lacks a label".toList
  | commentAddress => "comments don\x27t accept any addresses".toList
  | missingCommand => "missing command".toList
  | oneAddress => "command only uses one address".toList
  | openRegex => "unterminated address regex".toList
  | openSubstitution => "unterminated ".toList ++ inMarks ['s'] ++ " command".toList
  | openTranslation => "unterminated ".toList ++ inMarks ['y'] ++ " command".toList
  | unknownFlag => "unknown option to ".toList ++ inMarks ['s']
  | doublePrint =>
    "multiple ".toList ++ inMarks ['p'] ++ " options to ".toList ++ inMarks ['s'] ++ " command".toList
  | doubleGlobal =>
    "multiple ".toList ++ inMarks ['g'] ++ " options to ".toList ++ inMarks ['s'] ++ " command".toList
  | doubleNumber => "multiple number options to ".toList ++ inMarks ['s'] ++ " command".toList
  | zeroNumber => "number option to ".toList ++ inMarks ['s'] ++ " command may not be zero".toList
  | lengths => "strings for ".toList ++ inMarks ['y'] ++ " command are different lengths".toList
  | newerVersion => "expected newer version of sed".toList
  | unknownCommand c => "unknown command: ".toList ++ inMarks [c]
  | recursiveEscape => "recursive escaping after \\c not allowed".toList
  | missingFile => "missing filename in r/R/w/W commands".toList
  | noLast => "no previous regular expression".toList
  | emptyModifiers => "cannot specify modifiers on empty regexp".toList
  | badReference n =>
    "invalid reference \\".toList ++ Octets.ofNat n ++ " on ".toList ++ inMarks ['s'] ++
      " command\x27s RHS".toList
  | regex fault => fault.text.toList

end DocMend.Shell.Edit
