import DocMend.Shell.Regex.Search
import DocMend.Shell.Scan.Table
/-!
Scanning programs. A program has rules: a pattern that chooses records, and statements for these. A name
stands for a variable or a table; it belongs to the program or to the function that it is a parameter
of.
-/

set_option autoImplicit false
set_option relaxedAutoImplicit false

namespace DocMend.Shell.Scan

/-- Where a variable or a table is kept. -/
inductive Place where
  | program (index : Nat)
  | parameter (index : Nat)
deriving DecidableEq, Repr

/-- An arithmetic operation. -/
inductive Operation where
  | add
  | subtract
  | multiply
  | divide
  | modulo
  | raise
deriving DecidableEq, Repr

/-- A comparison. -/
inductive Comparison where
  | less
  | lessOrEqual
  | equal
  | unequal
  | greater
  | greaterOrEqual
deriving DecidableEq, Repr

/-- The functions that are there from the start. -/
inductive Builtin where
  | length
  | index
  | substr
  | «match»
  | sprintf
  | sin
  | cos
  | atan2
  | exp
  | log
  | sqrt
  | int
  | rand
  | srand
  | system
  | close
  | flush
  | toUpper
  | toLower
  | systime
  | mktime
  | strftime
deriving DecidableEq, Repr

namespace Builtin

/-- The functions by their names, with the least and the largest number of arguments. -/
def all : List (String × Builtin × Nat × Nat) :=
  [("length", length, 0, 1), ("index", index, 2, 2), ("substr", substr, 2, 3),
   ("match", .match, 2, 2), ("sprintf", sprintf, 1, 255), ("sin", sin, 1, 1), ("cos", cos, 1, 1),
   ("atan2", atan2, 2, 2), ("exp", exp, 1, 1), ("log", log, 1, 1), ("sqrt", sqrt, 1, 1),
   ("int", int, 1, 1), ("rand", rand, 0, 0), ("srand", srand, 0, 1), ("system", system, 1, 1),
   ("close", close, 1, 1), ("fflush", flush, 0, 1), ("toupper", toUpper, 1, 1),
   ("tolower", toLower, 1, 1), ("systime", systime, 0, 0), ("mktime", mktime, 1, 1),
   ("strftime", strftime, 0, 3)]

end Builtin

mutual
/-- An expression. -/
inductive Expression where
  | number (x : Float)
  | text (text : Octets)
  | regex (searcher : Regex.Searcher) (source : Octets)
  | target (target : Target)
  | assign (operation? : Option Operation) (target : Target) (value : Expression)
  /-- Adds one or takes one away; the value is that before or after it. -/
  | step (target : Target) (adds after : Bool)
  | choose (condition first second : Expression)
  | either (first second : Expression)
  | both (first second : Expression)
  | no (operand : Expression)
  | negate (operand : Expression)
  | plus (operand : Expression)
  | operate (operation : Operation) (first second : Expression)
  | join (first second : Expression)
  | compare (comparison : Comparison) (first second : Expression)
  | taken (negated : Bool) (subject pattern : Expression)
  | isIn (keys : List Expression) (table : Place)
  | call (function : Nat) (arguments : List Expression)
  | builtin (builtin : Builtin) (arguments : List Expression)
  | split (subject : Expression) (table : Place) (separator? : Option Expression)
  | substitute (everywhere : Bool) (pattern replacement : Expression) (target : Option Target)
  | line (source : Source) (target? : Option Target)
  | group (inner : Expression)
  /-- The size of a table. -/
  | size (table : Place)

/-- What can be assigned. -/
inductive Target where
  | variable (place : Place)
  | field (index : Expression)
  | element (table : Place) (keys : List Expression)

/-- Where a line is read from. -/
inductive Source where
  | input
  | file (name : Expression)
  | command (line : Expression)
end

/-- Where output goes. -/
inductive Sink where
  | file (appends : Bool) (name : Expression)
  | command (line : Expression)

/-- A statement. -/
inductive Statement where
  | nothing
  | evaluate (expression : Expression)
  | print (values : List Expression) (sink? : Option Sink)
  | format (values : List Expression) (sink? : Option Sink)
  | choose (condition : Expression) (first second : Statement)
  | while (condition : Expression) (body : Statement)
  | until (body : Statement) (condition : Expression)
  | count (start : Option Expression) (condition : Option Expression) (step : Option Expression)
      (body : Statement)
  | each (name : Place) (table : Place) (body : Statement)
  | block (statements : List Statement)
  | next
  | nextFile
  | exit (status : Option Expression)
  | return (value : Option Expression)
  | break
  | continue
  | erase (table : Place) (keys : Option (List Expression))

/-- Which records a rule is for. -/
inductive Choice where
  | all
  | those (condition : Expression)
  | range (first last : Expression)

/-- A rule. -/
structure Rule where
  choice : Choice
  body : Statement

/-- What a name stands for. -/
inductive Kind where
  | unknown
  | variable
  | table
deriving DecidableEq, Repr

/-- A function. -/
structure Function where
  name : Octets
  parameters : Nat := 0
  kinds : List Kind := []
  body : Option Statement := none

/-- A program. -/
structure Program where
  starts : List Statement := []
  rules : List Rule := []
  finishes : List Statement := []
  functions : Array Function := #[]
  /-- The names that belong to the program, and what they stand for. -/
  names : Array (Octets × Kind) := #[]

/-- The variables that mean something from the start, in the order of their places. -/
def specialNames : List String :=
  ["NF", "NR", "FNR", "FS", "OFS", "RS", "ORS", "SUBSEP", "CONVFMT", "OFMT", "RSTART", "RLENGTH",
   "FILENAME", "ARGC"]

/-- The tables that are there from the start. -/
def specialTables : List String := ["ARGV", "ENVIRON"]

/-- The names that are there from the start. -/
def firstNames : Array (Octets × Kind) :=
  (specialNames.map (fun name => (name.toList, Kind.variable)) ++
    specialTables.map (fun name => (name.toList, Kind.table))).toArray

end DocMend.Shell.Scan
