import DocMend.Shell.Builtin.Setting
/-!
The start of a shell: the variables it begins with, and what its own arguments ask for. A shell reads
its commands from an argument, from a file, or from its input.
-/

set_option autoImplicit false
set_option relaxedAutoImplicit false

namespace DocMend.Shell

/-- The search path where the environment names none. -/
def standardPath : Octets :=
  "/usr/local/sbin:/usr/local/bin:/usr/sbin:/usr/bin:/sbin:/bin"

namespace Interpreter

/-- Variables that a shell of the extended language begins with. -/
def extendedVariables : List (Octets × Variable) :=
  let number (n : Octets) : Variable := { Variable.ofText n with fixed := true, integer := true }
  [("BASH", .ofText "/usr/bin/bash"), ("BASH_VERSION", .ofText "5.2.15(1)-release"),
   ("EUID", number ['0']), ("HOSTTYPE", .ofText "x86_64"), ("MACHTYPE", .ofText "x86_64-pc-linux-gnu"),
   ("OPTERR", .ofText ['1']), ("OSTYPE", .ofText "linux-gnu"), ("UID", number ['0'])]

/-- The variable for the last folder of a shell of the extended language: it has no value if the
environment names no folder. -/
def withLastFolder (m : Machine) (s : Interpreter) : Interpreter :=
  let isThere := (s.value? "OLDPWD").any fun name =>
    match m.locate s.folder (Octets.toText name) with
    | .ok path => m.disk.isFolder path
    | .error _ => false
  if isThere then s
  else
    let v : Variable := { content := .nothing, exported := true, isBare := true }
    { s with vars := setKey s.vars "OLDPWD" v }

/-- The path by which the working folder was reached, if the environment names one. -/
def inheritedRoute? (s : Interpreter) (m : Machine) : Option Path :=
  match s.value? "PWD" with
  | some name =>
    let text := Octets.toText name
    if Path.isAbsolute text && !((Path.components text).any fun c => c = "." || c = "..") then
      match m.locate [] text with
      | .ok path => if path == s.folder then some (Path.resolve [] text) else none
      | .error _ => none
    else none
  | none => none

/-- The name of the function that an entry of the environment defines, if it defines one. -/
def functionName? (entry : Octets × Octets) : Option Octets :=
  match Text.afterStart? "BASH_FUNC_".toList entry.1, entry.2 with
  | some rest, '(' :: ')' :: ' ' :: '\x7b' :: _ =>
    match Text.afterStart? ['%', '%'] rest.reverse with
    | some name => some name.reverse
    | none => none
  | _, _ => none

/-- Takes over a function from the environment. -/
def withFunction (s : Interpreter) (entry : Octets × Octets) : Interpreter :=
  match functionName? entry with
  | none => s
  | some name =>
    let start : Reading :=
      { rest := name ++ [' '] ++ entry.2, dialect := .extended, documents := s.documents }
    match readLine.run start with
    | .ok (some (.define line _ body), after) =>
      let f : Function := { body, file := "environment", line, exported := true }
      { s with
        functions := setKey s.functions name f, documents := after.documents }
    | _ => s

/-- The state of a shell that takes the place of a process: it keeps the environment, the working
folder, the descriptors and the signals that are ignored. -/
def started (s : Interpreter) (m : Machine) (dialect : Dialect) (name : Octets) : Interpreter :=
  let extended := dialect == .extended
  let imported := s.environment.filter fun entry => Octets.isName entry.1
  let common : List (Octets × Variable) :=
    [("IFS", .ofText " \t\n"), ("OPTIND", { Variable.ofText ['1'] with integer := extended }),
     ("PPID", { Variable.ofText (Octets.ofNat (s.ancestors.head?.getD 1)) with
       fixed := extended, integer := extended }),
     ("PS4", .ofText "+ ")]
  let prompts : List (Octets × Variable) := [("PS1", .ofText "# "), ("PS2", .ofText "> ")]
  let defaults := common ++ (if extended then extendedVariables else prompts)
  let given := imported.map fun (name, value) => (name, Variable.ofText value true)
  let merged := defaults.foldl (fun list (name, v) => setKey list name v) given
  let searched := match getKey merged "PATH" with
    | some _ => merged
    | none => setKey merged "PATH" (.ofText standardPath)
  let route := (s.inheritedRoute? m).getD s.folder
  let located := setKey searched "PWD"
    (.ofText (Octets.ofText route.text) true)
  let fresh : Interpreter :=
    { dialect, name, vars := located, folder := s.folder, route? := some route, descriptors := s.descriptors
      process := s.process, root := s.process, ancestors := s.ancestors, mask := s.mask
      traps := s.traps.filter fun t => t.2.isEmpty
      options := if extended then "braceexpand" :: "hashall" :: "interactive-comments" ::
          (Builtin.switches.filter Prod.snd).map Prod.fst else [] }
  if extended then s.environment.foldl withFunction (withLastFolder m (fresh.releveled 1).1) else fresh

end Interpreter

/-- What a shell is started for. -/
inductive Task where
  | text (script : Octets)
  | file (name : Octets)
  | input
deriving DecidableEq, Repr

/-- What the arguments of a shell ask for: its tasks, its name if they give one, and its
parameters. -/
structure Start where
  tasks : List Task
  name : Option Octets := none
  parameters : List Octets := []
deriving DecidableEq, Repr

namespace Start

/-- How a shell of the extended language is started. -/
def usage : String :=
  Text.joinedBy "\n"
    ["Usage:\tbash [GNU long option] [option] ...",
     "\tbash [GNU long option] [option] script-file ...", "GNU long options:", "\t--debug",
     "\t--debugger", "\t--dump-po-strings", "\t--dump-strings", "\t--help", "\t--init-file",
     "\t--login", "\t--noediting", "\t--noprofile", "\t--norc", "\t--posix", "\t--pretty-print",
     "\t--rcfile", "\t--restricted", "\t--verbose", "\t--version", "Shell options:",
     "\t-ilrsD or -c command or -O shopt_option\t\t(invocation only)",
     "\t-abefhkmnptuvxBCEHPT or -o option"]

/-- Refuses to start. -/
def refuse {α : Type} (posix extended : Octets) (showsUsage : Bool) : Run α := do
  let s ← Run.self
  if s.dialect == .extended then
    Run.note (s.name ++ ": " ++ extended)
    if showsUsage then Run.note usage
  else Run.note (s.name ++ ": 0: " ++ posix)
  Run.setStatus 2
  throw .failure

/-- Turns an option on or off by its letter. -/
def turnLetter (on : Bool) (letter : Char) : Run Unit := do
  let s ← Run.self
  match Builtin.optionOf? s.dialect letter with
  | some name => Builtin.turn on name
  | none =>
    if s.dialect == .extended && "ilrD".toList.contains letter then return
    if s.dialect == .posix && letter == 'l' then return
    refuse ("Illegal option -" ++ [letter]) ([if on then '-' else '+', letter] ++ ": invalid option")
      true

/-- Turns an option on or off by its name. -/
def turnName (on : Bool) (name : Octets) : Run Unit := do
  let s ← Run.self
  let known := (optionLettersOf s.dialect).map Prod.fst ++ Builtin.longOptions s.dialect
  if known.contains (Octets.name name) then Builtin.turn on (Octets.name name)
  else
    refuse ("Illegal option -o " ++ name) (s.name ++ ": " ++ name ++ ": invalid option name") false

/-- Long options of the extended language. -/
def longOptions : List String :=
  ["login", "noediting", "noprofile", "norc", "posix", "restricted", "verbose"]

/-- Reads options: whether the commands are in an argument, whether they are read from the input, and
the arguments after the options. -/
def readOptions : Nat → (asText fromInput : Bool) → List Octets → Run (Bool × Bool × List Octets)
  | 0, asText, fromInput, rest => return (asText, fromInput, rest)
  | fuel + 1, asText, fromInput, arguments => do
    match arguments with
    | ['-'] :: rest => return (asText, fromInput, rest)
    | ['-', '-'] :: rest => return (asText, fromInput, rest)
    | ('-' :: '-' :: long) :: rest =>
      let s ← Run.self
      if s.dialect == .extended && longOptions.contains (Octets.name long) then
        return ← readOptions fuel asText fromInput rest
      refuse "Illegal option --" ("--" ++ long ++ ": invalid option") true
    | (sign :: letter :: letters) :: rest =>
      if sign == '-' || sign == '+' then
        let letters := letter :: letters
        let mut rest := rest
        for letter in letters do
          if letter == 'c' || letter == 's' then continue
          if letter == 'o' then
            match rest with
            | name :: others =>
              turnName (sign == '-') name
              rest := others
            | [] => continue
          else turnLetter (sign == '-') letter
        return ← readOptions fuel (asText || letters.contains 'c') (fromInput || letters.contains 's')
          rest
      return (asText, fromInput, arguments)
    | _ => return (asText, fromInput, arguments)

/-- What the arguments of a shell ask for. -/
def ofArguments (arguments : List Octets) : Run Start := do
  let (asText, fromInput, rest) ← readOptions (arguments.length + 1) false false arguments
  let extended ← Run.isExtended
  if asText then
    match rest with
    | [] => refuse "-c requires an argument" "-c: option requires an argument" false
    | text :: rest =>
      let tasks := if fromInput && !extended then [.text text, .input] else [.text text]
      return { tasks, name := rest.head?, parameters := rest.drop 1 }
  match fromInput, rest with
  | false, file :: rest => return { tasks := [.file file], name := some file, parameters := rest }
  | _, rest => return { tasks := [.input], parameters := rest }

end Start

end DocMend.Shell
