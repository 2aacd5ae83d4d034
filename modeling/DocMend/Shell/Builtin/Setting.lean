import DocMend.Shell.Builtin.Declaration
/-!
Builtins that set the options of the shell and its positional parameters.
-/

set_option autoImplicit false
set_option relaxedAutoImplicit false

namespace DocMend.Shell

namespace Builtin

/-- Names of options without letters. -/
def longOptions : Dialect → List String
  | .extended => ["emacs", "history", "ignoreeof", "interactive-comments", "nolog", "pipefail", "posix",
      "vi"]
  | .posix => ["privileged", "nolog", "debug"]

/-- The name of the option with a letter. -/
def optionOf? (dialect : Dialect) (letter : Char) : Option String :=
  ((optionLettersOf dialect).find? fun entry => entry.2 == letter).map Prod.fst

/-- Turns an option on or off. -/
def turn (on : Bool) (name : String) : Run Unit :=
  Run.modifySelf fun s =>
    let others := s.options.filter (· != name)
    { s with options := if on then name :: others else others }

/-- Switches of the extended language, and whether they are on in the beginning. -/
def switches : List (String × Bool) :=
  [("autocd", false), ("assoc_expand_once", false), ("cdable_vars", false), ("cdspell", false),
   ("checkhash", false), ("checkjobs", false), ("checkwinsize", true), ("cmdhist", true),
   ("compat31", false), ("compat32", false), ("compat40", false), ("compat41", false),
   ("compat42", false), ("compat43", false), ("compat44", false), ("complete_fullquote", true),
   ("direxpand", false), ("dirspell", false), ("dotglob", false), ("execfail", false),
   ("expand_aliases", false), ("extdebug", false), ("extglob", false), ("extquote", true),
   ("failglob", false), ("force_fignore", true), ("globasciiranges", true), ("globskipdots", true),
   ("globstar", false), ("gnu_errfmt", false), ("histappend", false), ("histreedit", false),
   ("histverify", false), ("hostcomplete", true), ("huponexit", false), ("inherit_errexit", false),
   ("interactive_comments", true), ("lastpipe", false), ("lithist", false),
   ("localvar_inherit", false), ("localvar_unset", false), ("login_shell", false),
   ("mailwarn", false), ("no_empty_cmd_completion", false), ("nocaseglob", false),
   ("nocasematch", false), ("noexpand_translation", false), ("nullglob", false),
   ("patsub_replacement", true), ("progcomp", true), ("progcomp_alias", false), ("promptvars", true),
   ("restricted_shell", false), ("shift_verbose", false), ("sourcepath", true),
   ("varredir_close", false), ("xpg_echo", false)]

/-- The order in which options are listed. -/
def optionOrder : Dialect → List String
  | .posix =>
    ["errexit", "noglob", "ignoreeof", "interactive", "monitor", "noexec", "stdin", "xtrace",
     "verbose", "vi", "emacs", "noclobber", "allexport", "notify", "nounset", "privileged", "nolog",
     "debug"]
  | .extended =>
    ["allexport", "braceexpand", "emacs", "errexit", "errtrace", "functrace", "hashall", "histexpand",
     "history", "ignoreeof", "interactive-comments", "keyword", "monitor", "noclobber", "noexec",
     "noglob", "nolog", "notify", "nounset", "onecmd", "physical", "pipefail", "posix", "privileged",
     "verbose", "vi", "xtrace"]

/-- Lists the options, for reading or for reading back. -/
def listOptions (forReading : Bool) : Run Unit := do
  let s ← Run.self
  let extended := s.dialect == .extended
  if forReading && !extended then Run.printLine "Current option settings"
  for name in optionOrder s.dialect do
    let on := s.options.contains name
    if forReading then
      let width := if extended then 15 else 16
      let padding := List.replicate (width - name.length) ' ' ++ (if extended then ['\t'] else [])
      Run.printLine (name ++ padding ++ (if on then "on" else "off"))
    else Run.printLine ("set " ++ (if on then ['-'] else ['+']) ++ "o " ++ name)

/-- Turns the options with some letters on or off; the letter o takes a name from the arguments that
follow, which are the result. -/
def turnLetters (on : Bool) : Octets → List Octets → Run (List Octets)
  | [], rest => return rest
  | 'o' :: letters, rest => do
    match rest with
    | [] =>
      listOptions on
      turnLetters on letters []
    | name :: rest =>
      let dialect := (← Run.self).dialect
      let known := (optionLettersOf dialect).map Prod.fst ++ longOptions dialect
      if !known.contains (Octets.name name) then
        if dialect == .extended then
          Run.warn (name ++ ": invalid option name")
          Run.setStatus 2
          throw .failure
        Run.fail ("Illegal option -o " ++ name)
      turn on (Octets.name name)
      turnLetters on letters rest
  | c :: letters, rest => do
    match optionOf? (← Run.self).dialect c with
    | some name =>
      turn on name
      turnLetters on letters rest
    | none =>
      if ← Run.isExtended then
        Run.warn ([if on then '-' else '+', c] ++ ": invalid option")
        usage
      Run.fail ("Illegal option -" ++ [c])

/-- Turns options on or off as arguments say: the arguments after the options, if there are any or
two hyphens say that there are none. -/
def turnOptions : Nat → List Octets → Run (Option (List Octets))
  | 0, _ => return none
  | fuel + 1, arguments => do
    match arguments with
    | ['-'] :: rest =>
      turn false "xtrace"
      turn false "verbose"
      return if rest.isEmpty then none else some rest
    | ['-', '-'] :: rest => return some rest
    | ('-' :: letters) :: rest => turnOptions fuel (← turnLetters true letters rest)
    | ('+' :: letters) :: rest => turnOptions fuel (← turnLetters false letters rest)
    | [] => return none
    | rest => return some rest

/-- The builtin that sets options and positional parameters. -/
def setOptions : Builtin := fun _ arguments => do
  if arguments.isEmpty then
    listAll
    return 0
  match ← turnOptions (arguments.length + 1) arguments with
  | some parameters =>
    Run.modifySelf fun s => { s with parameters, optionIndex := 1, optionOffset := 0 }
  | none => pure ()
  return 0

/-- The builtin that drops the first positional parameters. -/
def shift : Builtin := fun _ arguments => do
  let extended ← Run.isExtended
  let size := (← Run.self).parameters.length
  let count ← match arguments with
    | [] => pure (some 1)
    | [text] =>
      match extended, Octets.decimal? text with
      | true, some n => pure (if n < 0 then none else some n.toNat)
      | _, _ => pure (some (← number text))
    | text :: _ =>
      if extended then
        Run.warn "too many arguments"
        return 1
      pure (some (← number text))
  match arguments, count with
  | text :: _, none =>
    Run.warn (text ++ ": shift count out of range")
    return 1
  | _, count =>
    let count := count.getD 0
    if size < count then
      if extended then return 1
      Run.fail "can\x27t shift that many"
    Run.modifySelf fun s =>
      { s with parameters := s.parameters.drop count, optionIndex := 1, optionOffset := 0 }
    return 0

end Builtin

end DocMend.Shell
