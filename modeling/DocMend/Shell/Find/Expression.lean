import DocMend.Shell.Regex.Search
import DocMend.Shell.Tool.Listing
/-!
Expressions about files. A test holds or not, an action does something with a file and says whether it
succeeded, and both are joined by connectives of which the second part may not be looked at.
-/

set_option autoImplicit false
set_option relaxedAutoImplicit false

namespace DocMend.Shell.Find

/-- A number that others are compared with. -/
inductive Bound where
  | exactly (n : Int)
  | above (n : Int)
  | below (n : Int)
deriving DecidableEq, Repr

/-- Whether a number is within a bound. -/
def Bound.holds : Bound → Int → Bool
  | exactly n, m => m == n
  | above n, m => n < m
  | below n, m => m < n

/-- Whether a length of time in thousandths of a second is within a bound, counted in units. Where it is
rounded up, a part of a unit counts as one, but not against what may only be below the bound; where it
is not, it may be above a lower bound by less than a second. -/
def Bound.holdsAge (bound : Bound) (unit : Int) (roundsUp : Bool) (elapsed : Int) : Bool :=
  let whole := elapsed.fdiv unit
  let counted := if roundsUp then (elapsed + unit - 1).fdiv unit else whole
  match bound with
  | exactly n => counted == n
  | above n => n < counted
  | below n => if roundsUp then whole < n else elapsed < n * unit + 1000

/-- Which bits of a mode have to be set. -/
inductive Allowance where
  | equals (bits : Nat)
  | all (bits : Nat)
  | any (bits : Nat)
deriving DecidableEq, Repr

/-- Whether a mode is as it has to be. -/
def Allowance.holds : Allowance → Nat → Bool
  | equals bits, mode => mode == bits
  | all bits, mode => mode &&& bits == bits
  | any bits, mode => bits == 0 || mode &&& bits != 0

/-- A test of a file. -/
inductive Test where
  | constant (holds : Bool)
  /-- The last component of the name, the whole name, and what a link holds; letters may be folded. -/
  | name (pattern : List Atom) (fold : Bool)
  | whole (pattern : List Atom) (fold : Bool)
  | target (pattern : List Atom) (fold : Bool)
  | regex (searcher : Regex.Searcher)
  /-- Letters for kinds of files; those behind links, or of links themselves, the other way round. -/
  | kind (letters : List Char) (other : Bool)
  | empty
  | size (bound : Bound) (unit : Nat)
  | changedAfter (time : Int)
  /-- How long before a moment a file was changed, in units of some thousandths of a second. -/
  | age (bound : Bound) (unit : Int) (roundsUp : Bool) (origin : Int)
  | mode (allowance : Allowance)
  | names (bound : Bound)
  | number (bound : Bound)
  | sameAs (path : Path)
  | allows (bits : Nat)

/-- A part of a format for what is known of a file. -/
inductive Piece where
  | text (text : Octets)
  | field (conversion : Conversion)
  | time (conversion : Conversion) (letter : Char)
  /-- Nothing is written after this. -/
  | stop

/-- A command that is run for files. -/
structure Order where
  /-- Which of the orders it is. -/
  index : Nat
  words : List Octets
  /-- Whether many files are given to one command. -/
  gathers : Bool := false
  /-- Whether the command runs in the folder of the file. -/
  nearby : Bool := false
  asks : Bool := false

/-- Something that is done with a file. The channel is that of a file for the output, if it does not go
to the usual place. -/
inductive Action where
  | print (finish : Char) (channel : Option Nat)
  | format (pieces : List Piece) (channel : Option Nat)
  | list (channel : Option Nat)
  | run (order : Order)
  | remove
  | skip
  | quit

/-- Whether an action shows files, or does so in place of the usual printing. -/
def Action.isVisible : Action → Bool
  | skip => false
  | quit => false
  | _ => true

/-- An expression. -/
inductive Expression where
  | test (test : Test)
  | action (action : Action)
  | no (expression : Expression)
  | both (first second : Expression)
  | either (first second : Expression)
  | sequence (first second : Expression)

/-- How links are dealt with. -/
inductive Follows where
  | never
  | starts
  | always
deriving DecidableEq, Repr

/-- What holds for a whole search. -/
structure Settings where
  follows : Follows := .never
  depthFirst : Bool := false
  least : Nat := 0
  most : Option Nat := none
  regexType : String := "emacs"
  /-- Whether ages are counted from the beginning of the next day. -/
  fromDay : Bool := false
  /-- Whether a file may be removed, and whether folders may be skipped. -/
  removes : Bool := false
  skips : Bool := false

end DocMend.Shell.Find
