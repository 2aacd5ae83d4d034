import DocMend.Shell.Redirect
/-!
Builtins: commands that the shell carries out itself. What they make of options and numbers is the
same for all of them.
-/

set_option autoImplicit false
set_option relaxedAutoImplicit false

namespace DocMend.Shell

/-- A builtin turns its arguments into a status. -/
abbrev Builtin := Engine → List Octets → Run Nat

namespace Builtin

/-- What is wrong with the options of a command. -/
inductive FlagFault where
  | unknown (c : Char)
  | noArgument (c : Char)
deriving DecidableEq, Repr

/-- An option: its letter, and its argument if it has one. -/
abbrev Flag := Char × Octets

/-- Whether a letter is an option, and whether the option has an argument: in a list of letters, a
colon follows those that have one. -/
def takesArgument? (letters : Octets) (c : Char) : Option Bool :=
  if c = ':' then none
  else
    match letters.dropWhile (· ≠ c) with
    | _ :: ':' :: _ => some true
    | _ :: _ => some false
    | [] => none

/-- Reads the options in one word: the options, and the letter of the last one if its argument is in
the next word. -/
def flagsOfWord (letters : Octets) : Octets → Except FlagFault (List Flag × Option Char)
  | [] => .ok ([], none)
  | c :: rest =>
    match takesArgument? letters c with
    | none => .error (.unknown c)
    | some true => .ok (if rest.isEmpty then ([], some c) else ([(c, rest)], none))
    | some false =>
      match flagsOfWord letters rest with
      | .ok (flags, open?) => .ok ((c, []) :: flags, open?)
      | .error fault => .error fault

/-- Reads options: them, and the arguments after them. -/
def flagsOf (letters : Octets) : List Octets → Except FlagFault (List Flag × List Octets)
  | ['-', '-'] :: rest => .ok ([], rest)
  | ('-' :: c :: cs) :: rest =>
    match flagsOfWord letters (c :: cs), rest with
    | .error fault, _ => .error fault
    | .ok (flags, none), rest =>
      match flagsOf letters rest with
      | .ok (more, rest) => .ok (flags ++ more, rest)
      | .error fault => .error fault
    | .ok (_, some d), [] => .error (.noArgument d)
    | .ok (flags, some d), argument :: rest =>
      match flagsOf letters rest with
      | .ok (more, rest) => .ok (flags ++ (d, argument) :: more, rest)
      | .error fault => .error fault
  | rest => .ok ([], rest)

/-- How builtins of the extended language are used. -/
def usages : List (String × String) :=
  [("cd", "cd [-L|[-P [-e]] [-@]] [dir]"),
   ("export", "export [-fn] [name[=value] ...] or export -p"),
   ("readonly", "readonly [-aAf] [name[=value] ...] or readonly -p"),
   ("unset", "unset [-f] [-v] [-n] [name ...]"),
   ("read", "read [-ers] [-a array] [-d delim] [-i text] [-n nchars] [-N nchars] [-p prompt]" ++
      " [-t timeout] [-u fd] [name ...]"),
   ("type", "type [-afptP] name [name ...]"),
   ("command", "command [-pVv] command [arg ...]"),
   ("wait", "wait [-fn] [-p var] [id ...]"),
   ("printf", "printf [-v var] format [arguments]"),
   ("set", "set [-abefhkmnptuvxBCEHPT] [-o option-name] [--] [-] [arg ...]"),
   ("declare", "declare [-aAfFgiIlnrtux] [name[=value] ...] or declare -p [-aAfFilnrtux] [name ...]"),
   ("exec", "exec [-cl] [-a name] [command [argument ...]] [redirection ...]"),
   ("eval", "eval [arg ...]"),
   (".", ". filename [arguments]"),
   ("source", "source filename [arguments]"),
   ("alias", "alias [-p] [name[=value] ... ]"),
   ("unalias", "unalias [-a] name [name ...]"),
   ("getopts", "getopts optstring name [arg ...]"),
   ("hash", "hash [-lr] [-p pathname] [-dt] [name ...]"),
   ("umask", "umask [-p] [-S] [mode]"),
   ("trap", "trap [-lp] [[arg] signal_spec ...]"),
   ("pwd", "pwd [-LP]"),
   ("times", "times"),
   ("local", "local [option] name[=value] ..."),
   ("kill", "kill [-s sigspec | -n signum | -sigspec] pid | jobspec ... or kill -l [sigspec]"),
   ("shopt", "shopt [-pqsu] [-o] [optname ...]"),
   ("typeset", "typeset [-aAfFgiIlnrtux] name[=value] ... or typeset -p [-aAfFilnrtux] [name ...]"),
   ("mapfile", "mapfile [-d delim] [-n count] [-O origin] [-s count] [-t] [-u fd] [-C callback]" ++
      " [-c quantum] [array]"),
   ("readarray", "readarray [-d delim] [-n count] [-O origin] [-s count] [-t] [-u fd] [-C callback]" ++
      " [-c quantum] [array]"),
   ("caller", "caller [expr]"), ("dirs", "dirs [-clpv] [+N] [-N]"),
   ("pushd", "pushd [-n] [+N | -N | dir]"), ("popd", "popd [-n] [+N | -N]"),
   ("enable", "enable [-a] [-dnps] [-f filename] [name ...]"),
   ("disown", "disown [-h] [-ar] [jobspec ... | pid ...]"),
   ("jobs", "jobs [-lnprs] [jobspec ...] or jobs -x command [args]"),
   ("compgen", "compgen [-abcdefgjksuv] [-o option] [-A action] [-G globpat] [-W wordlist]" ++
      " [-F function] [-C command] [-X filterpat] [-P prefix] [-S suffix] [word]")]

/-- Says how the builtin at work is used, and breaks off. -/
def usage {α : Type} : Run α := do
  let name := ((← Run.self).command).getD []
  match usages.lookup (Octets.name name) with
  | some text => Run.note (name ++ ": usage: " ++ text)
  | none => pure ()
  Run.setStatus 2
  throw .failure

/-- Reads options; an option that does not exist breaks off. -/
def flags (letters : Octets) (arguments : List Octets) : Run (List Flag × List Octets) := do
  match flagsOf letters arguments with
  | .ok result => return result
  | .error fault =>
    if ← Run.isExtended then
      Run.warn (match fault with
        | .unknown c => ['-', c] ++ ": invalid option".toList
        | .noArgument c => ['-', c] ++ ": option requires an argument".toList)
      usage
    else
      Run.fail (match fault with
        | .unknown c => "Illegal option -".toList ++ [c]
        | .noArgument c => "No arg for -".toList ++ [c] ++ " option".toList)

/-- Whether an option is among those that were given. -/
def given (flags : List Flag) (c : Char) : Bool :=
  flags.any fun flag => flag.1 == c

/-- The argument of the last option with a letter. -/
def argument? (flags : List Flag) (c : Char) : Option Octets :=
  (flags.reverse.find? fun flag => flag.1 == c).map Prod.snd

/-- Refuses a text that is no number. -/
def refuseNumber {α : Type} (text : Octets) : Run α := do
  Run.failIn ("Illegal number: " ++ text) (text ++ ": numeric argument required")

/-- The number that an argument writes; it is not negative. -/
def number (text : Octets) : Run Nat := do
  match Octets.decimal? text with
  | some n => if 0 ≤ n && n < 2147483648 then return n.toNat else refuseNumber text
  | none => refuseNumber text

/-- The value of the environment for a builtin: names that complain in quotation marks. -/
def inMarks (text : Octets) : Octets :=
  ['\x60'] ++ text ++ ['\x27']

end Builtin

end DocMend.Shell
