import DocMend.Shell.Builtin.Basic
import DocMend.Shell.Octets
import DocMend.Shell.Tool.Options
/-!
What tools say about themselves: how they are used, and of which collection they are.

Tools: programs that every machine has. Their options may stand among their operands, and a tool that
cannot deal with one file goes on with the next.
-/

set_option autoImplicit false
set_option relaxedAutoImplicit false

namespace DocMend.Shell.Tool

/-- How tools are used, where it is not the options and then files. -/
def usages : List (String × String) :=
  [("basename", "NAME [SUFFIX]\n  or:  basename OPTION... NAME..."),
   ("chmod", "[OPTION]... MODE[,MODE]... FILE...\n  or:  chmod [OPTION]... OCTAL-MODE FILE...\n" ++
      "  or:  chmod [OPTION]... --reference=RFILE FILE..."),
   ("base64", "[OPTION]... [FILE]"), ("base32", "[OPTION]... [FILE]"),
   ("comm", "[OPTION]... FILE1 FILE2"), ("cmp", "[OPTION]... FILE1 [FILE2 [SKIP1 [SKIP2]]]"),
   ("cp", "[OPTION]... [-T] SOURCE DEST\n  or:  cp [OPTION]... SOURCE... DIRECTORY\n" ++
      "  or:  cp [OPTION]... -t DIRECTORY SOURCE..."),
   ("cut", "OPTION... [FILE]..."), ("date", "[OPTION]... [+FORMAT]"), ("diff", "[OPTION]... FILES"),
   ("dirname", "[OPTION] NAME..."), ("env", "[OPTION]... [-] [NAME=VALUE]... [COMMAND [ARG]...]"),
   ("expr", "EXPRESSION\n  or:  expr OPTION"),
   ("find", "[-H] [-L] [-P] [-Olevel] [-D debugopts] [path...] [expression]"),
   ("grep", "[OPTION]... PATTERNS [FILE]..."), ("id", "[OPTION]... [USER]..."),
   ("join", "[OPTION]... FILE1 FILE2"),
   ("ln", "[OPTION]... [-T] TARGET LINK_NAME\n  or:  ln [OPTION]... TARGET\n" ++
      "  or:  ln [OPTION]... TARGET... DIRECTORY\n  or:  ln [OPTION]... -t DIRECTORY TARGET..."),
   ("mkdir", "[OPTION]... DIRECTORY..."), ("mktemp", "[OPTION]... [TEMPLATE]"),
   ("mv", "[OPTION]... [-T] SOURCE DEST\n  or:  mv [OPTION]... SOURCE... DIRECTORY\n" ++
      "  or:  mv [OPTION]... -t DIRECTORY SOURCE..."),
   ("nproc", "[OPTION]..."), ("printenv", "[OPTION]... [VARIABLE]..."),
   ("printf", "FORMAT [ARGUMENT]...\n  or:  printf OPTION"), ("pwd", "[OPTION]..."),
   ("readlink", "[OPTION]... FILE..."), ("realpath", "[OPTION]... FILE..."),
   ("rmdir", "[OPTION]... DIRECTORY..."),
   ("sed", "[OPTION]... \x7bscript-only-if-no-other-script\x7d [input-file]..."),
   ("seq", "[OPTION]... LAST\n  or:  seq [OPTION]... FIRST LAST\n" ++
      "  or:  seq [OPTION]... FIRST INCREMENT LAST"),
   ("sleep", "NUMBER[SUFFIX]...\n  or:  sleep OPTION"), ("split", "[OPTION]... [FILE [PREFIX]]"),
   ("stat", "[OPTION]... FILE..."),
   ("timeout", "[OPTION] DURATION COMMAND [ARG]...\n  or:  timeout [OPTION]"),
   ("touch", "[OPTION]... FILE..."), ("tr", "[OPTION]... STRING1 [STRING2]"),
   ("tsort", "[OPTION] [FILE]"), ("truncate", "OPTION... FILE..."), ("uname", "[OPTION]..."),
   ("uniq", "[OPTION]... [INPUT [OUTPUT]]"), ("whoami", "[OPTION]..."),
   ("xargs", "[OPTION]... COMMAND [INITIAL-ARGS]..."), ("yes", "[STRING]...\n  or:  yes OPTION")]

/-- The description of a tool. -/
def helpOf (tool : String) : Octets :=
  ("Usage: " ++ tool ++ " " ++ (usages.lookup tool).getD "[OPTION]... [FILE]..." ++ "\n").toList

/-- The collections of tools that are not in the core collection, with their versions. -/
def collections : List (String × String) :=
  [("grep", "GNU grep) 3.8"), ("sed", "GNU sed) 4.9"), ("find", "GNU findutils) 4.9.0"),
   ("xargs", "GNU findutils) 4.9.0"), ("diff", "GNU diffutils) 3.8"),
   ("cmp", "GNU diffutils) 3.8")]

/-- The version of a tool. -/
def versionOf (tool : String) : Octets :=
  (tool ++ " (" ++ (collections.lookup tool).getD "GNU coreutils) 9.1" ++ "\n").toList

end DocMend.Shell.Tool

namespace DocMend.Shell

/-- A tool turns its arguments into an exit status. -/
abbrev Tool := List Octets → Run Nat

/-- How a tool runs programs: as a child, after some preparation, or in its own place. Where a program
cannot be run, the tool says what becomes of that. -/
structure Launcher where
  spawn : (prepare : Run Unit) → (words : List Octets) → (refused : Refusal → Run Nat) → Run Exit
  become : (words : List Octets) → Run Refusal

namespace Tool

/-- A text between quotation marks. -/
def marked (text : Octets) : Octets :=
  ['\x27'] ++ text ++ ['\x27']

/-- The letter that stands for a control character after a backslash. -/
def controlLetter? (c : Char) : Option Char :=
  match c with
  | '\x07' => some 'a'
  | '\x08' => some 'b'
  | '\t' => some 't'
  | '\n' => some 'n'
  | '\x0b' => some 'v'
  | '\x0c' => some 'f'
  | '\r' => some 'r'
  | _ => none

/-- How a byte that cannot be shown is written between the marks that replace escapes. -/
def escape? (c : Char) : Option Octets :=
  match controlLetter? c with
  | some letter => some ['\\', letter]
  | none =>
    if c.toNat < 32 || 127 ≤ c.toNat then
      let digit (n : Nat) : Char := Nat.digitChar (n % 8)
      some ['\\', digit (c.toNat / 64), digit (c.toNat / 8), digit c.toNat]
    else none

/-- Whether a name has to stand between quotation marks. -/
def needsMarks (name : Octets) : Bool :=
  let isSpecial (c : Char) : Bool := " !\"$&()*;<=>[^|:?\\\x27\x60".toList.contains c
  name.isEmpty || name == ['\x7b'] || name == ['\x7d'] ||
    name.head? = some '#' || name.head? = some '~' ||
    name.any fun c => isSpecial c || (escape? c).isSome

/-- A name between single quotation marks, which are left for what cannot be shown. -/
def markedFrom (escaping : Bool) : Octets → Octets
  | [] => ['\x27']
  | c :: rest =>
    match escape? c with
    | some text =>
      (if escaping then [] else "\x27$\x27".toList) ++ text ++ markedFrom true rest
    | none =>
      if c == '\x27' then "\x27\\\x27\x27".toList ++ markedFrom false rest
      else (if escaping then ['\x27', '\x27', c] else [c]) ++ markedFrom false rest

/-- A name as it can be typed in a shell, always between quotation marks. A name that holds such a
mark and ends with an escape begins as if an escape had just ended. -/
def quotedName (name : Octets) : Octets :=
  let hasMark := name.contains '\x27'
  let endsEscaped := (name.getLast?.bind escape?).isSome
  let isPlain (c : Char) : Bool :=
    c.isAlphanum || " %+,-./:]_\x27#~\x7b\x7d".toList.contains c
  if hasMark && name.all isPlain then ['"'] ++ name ++ ['"']
  else ['\x27'] ++ markedFrom (hasMark && endsEscaped) name

/-- A name in front of a colon: between quotation marks where it has to. -/
def shownName (name : Octets) : Octets :=
  if needsMarks name then quotedName name else name

/-- Complains in the name of a tool. -/
def complain (tool text : Octets) : Run Unit :=
  Run.note (tool ++ ": " ++ text)

/-- Points to the description of a tool, and gives up with a status. -/
def giveUp {α : Type} (tool : Octets) (status : Nat) : Run α := do
  Run.note ("Try " ++ marked (tool ++ " --help") ++ " for more information.")
  Run.setStatus status
  throw .failure

/-- Complains, points to the description of a tool, and gives up. -/
def refuse {α : Type} (tool : Octets) (status : Nat) (text : Octets) : Run α := do
  complain tool text
  giveUp tool status

/-- Complains and gives up. -/
def abandon {α : Type} (tool : Octets) (status : Nat) (text : Octets) : Run α := do
  complain tool text
  Run.setStatus status
  throw .failure

/-- Reads the options of a tool; an option that does not exist ends it with a status. Every tool can
describe itself. -/
def options (tool : String) (status : Nat) (o : Options) (arguments : List Octets) :
    Run (List Given × List Octets) := do
  match o.read arguments with
  | .error fault => refuse tool.toList status fault.text
  | .ok (given, operands) =>
    match given.find? fun g => Options.common.contains g.key with
    | some g =>
      Run.print (if g.key = "help" then helpOf tool else versionOf tool)
      Run.setStatus 0
      throw .failure
    | none => return (given, operands)

/-- The text of a file, or that of the input where a hyphen is named. -/
def readSource (name : Octets) : Run (Except Refusal Octets) := do
  if name == ['-'] then Run.readAll 0
  else
    match ← Run.openName name { reads := true } with
    | .error refusal => return .error refusal
    | .ok index =>
      match (← Run.machine).available index with
      | .error refusal => return .error refusal
      | .ok text =>
        Run.modifyMachine fun m => m.consume index text.length
        return .ok text

/-- The number that an operand writes in decimal digits. -/
def natural? (text : Octets) : Option Nat :=
  if Text.isDigits text then some (Text.digitsValue text) else none

/-- The wording of a refusal. -/
def reason (refusal : Refusal) : Octets :=
  refusal.text.toList

/-- Texts with a line end after each. -/
def withEnds (lines : List Octets) : Octets :=
  lines.flatMap fun line => line ++ ['\n']

end Tool

end DocMend.Shell
