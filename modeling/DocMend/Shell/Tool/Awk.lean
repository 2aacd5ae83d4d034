import DocMend.Shell.Scan.Evaluation
import DocMend.Shell.Scan.Grammar
/-!
The tool that carries out scanning programs.
-/

set_option autoImplicit false
set_option relaxedAutoImplicit false

namespace DocMend.Shell.Tool

/-- How the tool that carries out scanning programs is used. -/
def awkUsage : List String :=
  ["Usage: mawk [Options] [Program] [file ...]",
   "",
   "Program:",
   "    The -f option value is the name of a file containing program text.",
   "    If no -f option is given, a \"--\" ends option processing; the following",
   "    parameters are the program text.",
   "",
   "Options:",
   "    -f program-file  Program  text is read from file instead of from the",
   "                     command-line.  Multiple -f options are accepted.",
   "    -F value         sets the field separator, FS, to value.",
   "    -v var=value     assigns value to program variable var.",
   "    --               unambiguous end of options.",
   "",
   "    Implementation-specific options are prefixed with \"-W\".  They can be",
   "    abbreviated:",
   "",
   "    -W version       show version information and exit.",
   "    -W dump          show assembler-like listing of program and exit.",
   "    -W help          show this message and exit.",
   "    -W interactive   set unbuffered output, line-buffered input.",
   "    -W exec file     use file as program as well as last option.",
   "    -W random=number set initial random seed.",
   "    -W sprintf=number adjust size of sprintf buffer.",
   "    -W posix_space   do not consider \"\\n\" a space.",
   "    -W usage         show this message and exit."]

/-- What the tool tells of its version. -/
def awkVersion : List String :=
  ["mawk 1.3.4 20200120", "random-funcs:       srandom/random", "regex-funcs:        internal",
   "compiled limits:", "sprintf buffer      8192", "maximum-integer     2147483647"]

/-- What the options ask for: texts of the program, assignments, and what tells fields apart. -/
structure Scanned where
  texts : List Octets := []
  assignments : List (Octets × Octets) := []
  separator : Option Octets := none
  operands : List Octets := []
  isBare : Bool := true

namespace Scanned

/-- Complains in the name of the tool and gives up. -/
def refuse {α : Type} (text : Octets) : Run α := do
  let name := (← Run.self).name
  abandon (name.reverse.takeWhile (· ≠ '/')).reverse 2 text

/-- Adds the text of a file to the program. -/
def addFile (s : Scanned) (name : Octets) : Run Scanned := do
  match ← readSource name with
  | .ok text => return { s with texts := s.texts ++ [text] }
  | .error refusal => refuse ("cannot open \"" ++ name ++ "\" (" ++ reason refusal ++ ")")

/-- Ends the tool after a text. -/
def tell {α : Type} (lines : List String) : Run α := do
  Run.print (withEnds (lines.map String.toList))
  Run.setStatus 0
  throw .failure

/-- Reads the options and operands. -/
def read : Nat → Scanned → List Octets → Run Scanned
  | 0, s, _ => return s
  | _, s, [] => return s
  | fuel + 1, s, word :: rest => do
    let s' := { s with isBare := false }
    let special (name : Octets) (rest : List Octets) : Run Scanned := do
      let is (full : String) : Bool := !name.isEmpty && name.isPrefixOf full.toList
      let plain := name.takeWhile (· ≠ '=')
      if is "version" then tell awkVersion
      else if is "help" || is "usage" then tell awkUsage
      else if is "exec" then
        match rest with
        | file :: rest => do
          let s ← s'.addFile file
          return { s with operands := rest }
        | [] => refuse "option -W exec lacks argument"
      else
        let isKnown := is "dump" || is "interactive" || is "posix_space" ||
          plain == "random".toList || plain == "sprintf".toList
        if !isKnown then
          complain "awk" ("vacuous option: -W \"" ++ name ++ "\"")
        read fuel s' rest
    match word with
    | ['-', '-'] => return { s' with operands := rest }
    | '-' :: '-' :: name =>
      let longs := ["version", "help", "usage", "exec", "dump", "interactive", "posix_space"]
      if longs.any fun long => name.isPrefixOf long.toList then special name rest
      else refuse ("not an option: " ++ word)
    | '-' :: c :: attached =>
      if !("fFvW".toList.contains c) then refuse ("not an option: " ++ word)
      let (argument, rest) ← if !attached.isEmpty then pure (attached, rest)
        else match rest with
          | argument :: rest => pure (argument, rest)
          | [] => refuse ("option -" ++ [c] ++ " lacks argument")
      match c with
      | 'f' => read fuel (← s'.addFile argument) rest
      | 'F' => read fuel { s' with separator := some argument } rest
      | 'v' =>
        if !Octets.isAssignment argument then refuse ("improper assignment: -v " ++ argument)
        let (name, value) := Octets.splitEquals argument
        read fuel { s' with assignments := s'.assignments ++ [(name, value.getD [])] } rest
      | _ => special argument rest
    | _ => return { s with operands := word :: rest }

end Scanned

namespace AwkStart

/-- The table of texts by their keys. -/
def tableOf (entries : List (Scan.Key × Octets)) : Scan.Table Scan.Value :=
  entries.foldl (fun table (key, text) => table.set key (.input text)) .empty

/-- The values of special variables at the start. -/
def specials (count : Nat) : List (String × Scan.Value) :=
  [("NF", .ofNat 0), ("NR", .ofNat 0), ("FNR", .ofNat 0), ("FS", .text [' ']), ("OFS", .text [' ']),
   ("RS", .text ['\n']), ("ORS", .text ['\n']), ("SUBSEP", .text ['\x1c']),
   ("CONVFMT", .text "%.6g".toList), ("OFMT", .text "%.6g".toList), ("ARGC", .ofNat count)]

/-- The state in which a program starts. -/
def state (program : Scan.Program) (words : List Octets) (environment : List (Octets × Octets))
    (now : Int) : Scan.State :=
  let arguments := tableOf (words.mapIdx fun n word => (Scan.Key.integer n, word))
  let surroundings := tableOf (environment.map fun (name, value) => (Scan.Key.text name, value))
  let add (slots : Array Scan.Slot × Array (Scan.Table Scan.Value)) (entry : Octets × Scan.Kind) :
      Array Scan.Slot × Array (Scan.Table Scan.Value) :=
    let (slots, tables) := slots
    let name := Octets.name entry.1
    if entry.2 = .table then
      let table := if name = "ARGV" then arguments else if name = "ENVIRON" then surroundings else .empty
      (slots.push (.table tables.size), tables.push table)
    else (slots.push (.value (((specials words.length).lookup name).getD .missing)), tables)
  let (slots, tables) := program.names.foldl add (#[], #[])
  { slots, tables, begun := Array.replicate program.rules.length false
    seed := .number (Float.ofInt now), random := Scan.Random.ofSeed (now % 4294967296).toNat }

end AwkStart

/-- Carries out a scanning program. -/
def awk (launcher : Launcher) : Tool := fun arguments => do
  let path := (← Run.self).name
  let name := (path.reverse.takeWhile (· ≠ '/')).reverse
  if arguments.isEmpty then
    let _ ← Run.write 2 (withEnds (awkUsage.map String.toList))
    return 0
  let s ← Scanned.read (arguments.length + 1) {} arguments
  let (text, operands) ← match s.texts, s.operands with
    | [], [] => do
      Run.setStatus 0
      throw .failure
    | [], text :: operands => pure (text, operands)
    | texts, operands => pure (Text.joined ['\n'] texts, operands)
  match Scan.Program.read (s.assignments.map Prod.fst) text with
  | .error complaints =>
    for complaint in complaints do
      complain name complaint
    return 2
  | .ok program =>
    let environment := (← Run.self).environment
    let now := (← Run.machine).now / 1000
    let setting : Scan.Setting := { program, launcher }
    let body : Scan.Scanning Unit := do
      match s.separator with
      | some text => Scan.Scanning.assignNamed program "FS" text
      | none => pure ()
      for (target, value) in s.assignments do
        Scan.Scanning.assignNamed program target value
    let whole : Scan.Scanning Unit := do
      body
      Scan.Scanning.perform setting
    let (_, state) ← StateT.run (ExceptT.run whole) (AwkStart.state program (name :: operands) environment now)
    return state.status

end DocMend.Shell.Tool
