import DocMend.Shell.Redirect
/-!
Finding commands. A name without a slash is that of a builtin, of a function, or of a program in one of
the folders of the search path.
-/

set_option autoImplicit false
set_option relaxedAutoImplicit false

namespace DocMend.Shell

/-- What the shell knows of a builtin: whether it is special, so that its errors end a script and
assignments before it stay, and whether its arguments are expanded like assignments. -/
structure BuiltinKind where
  special : Bool := false
  assigns : Bool := false
deriving DecidableEq, Repr

namespace BuiltinKind

/-- The builtins of both languages that are special. -/
def specials : List String :=
  [".", ":", "break", "continue", "eval", "exec", "exit", "return", "set", "shift", "times", "trap",
   "unset"]

/-- The builtins of both languages that take assignments. -/
def assigners : List String :=
  ["export", "readonly", "local"]

/-- Further builtins of both languages. -/
def others : List String :=
  ["[", "bg", "cd", "command", "echo", "false", "fg", "getopts", "hash", "jobs", "kill", "printf",
   "pwd", "read", "test", "true", "type", "ulimit", "umask", "unalias", "wait"]

/-- The builtins of the extended language in the order in which they are listed. -/
def extendedNames : List String :=
  [".", ":", "[", "alias", "bg", "bind", "break", "builtin", "caller", "cd", "command", "compgen",
   "complete", "compopt", "continue", "declare", "dirs", "disown", "echo", "enable", "eval", "exec",
   "exit", "export", "false", "fc", "fg", "getopts", "hash", "help", "history", "jobs", "kill", "let",
   "local", "logout", "mapfile", "popd", "printf", "pushd", "pwd", "read", "readarray", "readonly",
   "return", "set", "shift", "shopt", "source", "suspend", "test", "times", "trap", "true", "type",
   "typeset", "ulimit", "umask", "unalias", "unset", "wait"]

/-- The kind of a builtin, if there is one of that name. -/
def of? (dialect : Dialect) (name : Octets) : Option BuiltinKind :=
  let name := Octets.name name
  let extended := dialect == .extended
  if specials.contains name || extended && name == "source" then some { special := true }
  else if assigners.contains name then some { special := true, assigns := true }
  else if name == "alias" then some { assigns := true }
  else if extended && (name == "declare" || name == "typeset") then some { assigns := true }
  else if others.contains name || !extended && name == "chdir" ||
      extended && extendedNames.contains name then some {}
  else none

end BuiltinKind

/-- The programs that every machine has. -/
def standardPrograms : List String :=
  ["[", "arch", "awk", "base32", "base64", "basename", "bash", "cat", "chmod", "cksum", "cmp",
   "comm", "cp", "cut", "dash", "date", "diff", "dirname", "du", "echo", "egrep", "env", "expand",
   "expr", "factor", "false", "fgrep", "find", "fold", "grep", "groups", "head", "hostname", "id",
   "join", "link", "ln", "logname", "ls", "mawk", "md5sum", "mkdir", "mktemp", "mv", "nice", "nl",
   "nohup", "nproc", "od", "paste", "printenv", "printf", "pwd", "readlink", "realpath", "rev",
   "rm", "rmdir", "sed", "seq", "sh", "sha1sum", "sha224sum", "sha256sum", "sha384sum", "sha512sum",
   "sleep", "sort", "split", "stat", "stdbuf", "sum", "tac", "tail", "tee", "test", "timeout",
   "touch", "tr", "true", "truncate", "tsort", "tty", "uname", "unexpand", "uniq", "unlink", "wc",
   "which", "whoami", "xargs", "yes"]

/-- The folders in which these programs are. -/
def programFolders : List Path :=
  [["usr", "bin"], ["bin"]]

/-- What a command name leads to. -/
inductive Found where
  | builtin (kind : BuiltinKind)
  | function (f : Function)
  /-- A program and its place. -/
  | program (place : Octets)
  | missing

namespace Run

/-- Whether a file name is the place of a program. -/
def isProgram (place : Octets) : Run Bool := do
  let s ← self
  let m ← machine
  let path := Path.resolve s.folder (Octets.toText place)
  let isStandard := programFolders.contains path.dropLast &&
    (path.getLast?.any fun name => standardPrograms.contains name)
  let isFound := match m.locate s.folder (Octets.toText place) with
    | .ok goal => m.isFile goal && m.isExecutable goal
    | .error _ => false
  return isStandard || isFound || m.programs.any fun program => program.places.contains path

/-- The place of a program in the folders of a search path. -/
def placeIn (name : Octets) : List Octets → Run (Option Octets)
  | [] => return none
  | folder :: rest => do
    let place := if folder.isEmpty then name else folder ++ ['/'] ++ name
    if ← isProgram place then return some place
    placeIn name rest

/-- The place of a program in the folders of a search path as the extended language looks for it: of a
file that can be run, or else of the first file with the name. -/
def firstPlaceIn (name : Octets) : List Octets → Option Octets → Run (Option Octets)
  | [], other => do
    match other with
    | none => return none
    | some place => return if (← node? place) == some .folder then none else some place
  | folder :: rest, other => do
    let place := (if folder.isEmpty then ['.', '/']
      else if folder.getLast? = some '/' then folder else folder ++ ['/']) ++ name
    if ← isProgram place then return some place
    let isThere := (← node? place).isSome
    firstPlaceIn name rest (other.orElse fun _ => if isThere then some place else none)

/-- The place of a program. Scripted programs with a name are found before all others. In the extended
language a name stands for itself where there is no search path. -/
def place? (name : Octets) : Run (Option Octets) := do
  if name.contains '/' then return some name
  let m ← machine
  if m.programs.any fun program => program.name == some (Octets.toText name) then return some name
  let s ← self
  match s.dialect, s.value? "PATH" with
  | .posix, some list => placeIn name (Text.pieces ':' list)
  | .posix, none => return none
  | .extended, some [] => return some name
  | .extended, none => return some name
  | .extended, some list => firstPlaceIn name (Text.pieces ':' list) none

/-- The place of something that is no program in a folder of the search path, if there is any. -/
def obstacle? (name : Octets) : Run (Option Octets) := do
  let s ← self
  let m ← machine
  return ((Text.pieces ':' (s.text "PATH")).map fun folder => folder ++ ['/'] ++ name).find?
    fun place =>
      let path := Path.resolve s.folder (Octets.toText place)
      m.isPresent path || programFolders.contains path

/-- The place of a program that was looked up before. -/
def knownPlace? (name : Octets) : Run (Option Octets) := do
  let s ← self
  match s.dialect, getKey s.known name with
  | _, none => return none
  | .posix, some known => return if known.place.head? = some '/' then some known.place else none
  | .extended, some known =>
    if !s.options.contains "hashall" then return none
    if known.place.head? = some '/' then return some known.place
    let here : Octets :=
      if known.place.take 2 == ['.', '/'] then known.place else ['.', '/'] ++ known.place
    return if ← isProgram here then some here
      else if known.place.head? = some '.' then none
      else some known.place

/-- What a command name leads to. -/
def find (name : Octets) (functions : Bool) : Run Found := do
  let s ← self
  if name.contains '/' then return .program name
  let kind := if s.disabled.contains name then none else BuiltinKind.of? s.dialect name
  let isSpecial := (kind.any BuiltinKind.special) && s.dialect == .posix
  match (if functions && !isSpecial then getKey s.functions name else none), kind with
  | some f, _ => return .function f
  | none, some kind => return .builtin kind
  | none, none =>
    let found ← match ← knownPlace? name with
      | some place => pure (some place)
      | none => place? name
    match found with
    | some place => return .program place
    | none => return .missing

/-- Remembers the place of a program that is used. -/
def remember (name place : Octets) : Run Unit := do
  let s ← self
  if name.contains '/' || s.dialect == .extended && !s.options.contains "hashall" then return
  match getKey s.known name with
  | some known =>
    modifySelf fun s =>
      { s with known := setKey s.known name { known with uses := known.uses + 1 } }
  | none =>
    if place != name then
      modifySelf fun s => { s with known := (name, { place, uses := 1 }) :: s.known }

end Run

end DocMend.Shell
