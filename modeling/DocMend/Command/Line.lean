import DocMend.Text.Search
/-!
The command line. Flags may stand anywhere; a flag with a value takes the next argument. The first
argument that is not a flag names the command, and an empty argument before it is passed over.
-/

set_option autoImplicit false
set_option relaxedAutoImplicit false

namespace DocMend.Command

/-- Options of the command that repairs. -/
structure FixOptions where
  noDedupe : Bool := false
  configPath : Option String := none
  script : Option String := none
deriving DecidableEq, Repr

/-- Options of the command that writes release notes. -/
structure NotesOptions where
  tag : String
  range : Option String := none
  description : String := ""
  configPath : Option String := none
  repository : Option String := none
deriving DecidableEq, Repr

/-- What is wrong with a command line. -/
inductive Problem where
  | missingValue (flag : String)
  | unknownOption (option : String)
  | missingTag
  | unknownCommand (command : String)
deriving DecidableEq, Repr

/-- The wording of a problem. -/
def Problem.message : Problem → String
  | missingValue flag => flag ++ " requires a value"
  | unknownOption option => "unknown option " ++ option
  | missingTag => "changelog requires a <tag>"
  | unknownCommand command => "unknown command " ++ command

/-- What a command line asks for. -/
inductive Request where
  | fix (options : FixOptions)
  | changelog (options : NotesOptions)
  | help (problem : Option Problem)
deriving DecidableEq, Repr

/-- The flags that take a value. -/
inductive ValueFlag where
  | config
  | script
  | repository
deriving DecidableEq, Repr

/-- How a flag is written. -/
def ValueFlag.text : ValueFlag → String
  | config => "--config"
  | script => "--script"
  | repository => "--repo"

/-- The flag that an argument writes. -/
def ValueFlag.ofText? (argument : String) : Option ValueFlag :=
  [config, script, repository].find? fun flag => flag.text = argument

/-- What was read of a command line so far: the latest problem and the latest value of each flag, and
the flag whose value is the next argument. -/
structure Reading where
  positionals : List String := []
  configPath : Option String := none
  script : Option String := none
  repository : Option String := none
  noDedupe : Bool := false
  help : Bool := false
  problem : Option Problem := none
  awaiting : Option ValueFlag := none
deriving DecidableEq, Repr

namespace Reading

/-- Takes the value of a flag. -/
def setValue (reading : Reading) (flag : ValueFlag) (value : String) : Reading :=
  match flag with
  | .config => { reading with configPath := some value }
  | .script => { reading with script := some value }
  | .repository => { reading with repository := some value }

/-- Whether an argument begins like a long flag. -/
def looksLikeFlag (argument : String) : Bool :=
  Text.beginsWith argument "--"

/-- Takes an argument that is not the value of a flag. An empty argument before the first positional
one says nothing. -/
def accept (reading : Reading) (argument : String) : Reading :=
  if argument = "" ∧ reading.positionals = [] then reading
  else
    match ValueFlag.ofText? argument with
    | some flag => { reading with awaiting := some flag }
    | none =>
      if argument = "--no-dedupe" then { reading with noDedupe := true }
      else if argument = "--help" ∨ argument = "-h" then { reading with help := true }
      else if looksLikeFlag argument then
        { reading with problem := some (.unknownOption argument) }
      else { reading with positionals := reading.positionals ++ [argument] }

/-- Notes that the flag whose value is due has none. -/
def giveUp (reading : Reading) : Reading :=
  match reading.awaiting with
  | some flag => { reading with awaiting := none, problem := some (.missingValue flag.text) }
  | none => reading

/-- Takes one argument. An argument that looks like a flag is never the value of another. -/
def next (reading : Reading) (argument : String) : Reading :=
  match reading.awaiting with
  | some flag =>
    if looksLikeFlag argument then reading.giveUp.accept argument
    else { reading with awaiting := none }.setValue flag argument
  | none => reading.accept argument

/-- What a whole command line says. -/
def ofArguments (arguments : List String) : Reading :=
  (arguments.foldl next {}).giveUp

/-- What the arguments read ask for. -/
def request (reading : Reading) : Request :=
  match reading.problem with
  | some problem => .help (some problem)
  | none =>
    let command := reading.positionals.head?.getD "fix"
    let rest := reading.positionals.drop 1
    if reading.help ∨ command = "help" then .help none
    else if command = "fix" then
      .fix ⟨reading.noDedupe, reading.configPath, reading.script⟩
    else if command = "changelog" then
      match rest with
      | [] => .help (some .missingTag)
      | tag :: more =>
        let range := match more.head? with
          | some range => if range = "" then none else some range
          | none => none
        .changelog ⟨tag, range, (more[1]?).getD "", reading.configPath, reading.repository⟩
    else .help (some (.unknownCommand command))

end Reading

/-- What a command line asks for. -/
def Request.ofArguments (arguments : List String) : Request :=
  (Reading.ofArguments arguments).request

/-- The usage text. -/
def usage : String :=
  Text.joinedBy "\n"
    ["Usage:",
     "  doclint-autofix fix [--script <command>] [--no-dedupe] [--config <path>]",
     "  doclint-autofix changelog <tag> [range] [description] [--repo owner/name] [--config <path>]"]

end DocMend.Command
