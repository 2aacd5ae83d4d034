import DocMend.Shell.Builtin.Candidate
import DocMend.Shell.Builtin.Flow
import DocMend.Shell.Builtin.Folder
import DocMend.Shell.Builtin.Job
import DocMend.Shell.Builtin.Name
import DocMend.Shell.Builtin.Test
import DocMend.Shell.Builtin.Line
import DocMend.Shell.Builtin.Setting
import DocMend.Shell.Builtin.Stack
/-!
The builtins by their names.
-/

set_option autoImplicit false
set_option relaxedAutoImplicit false

namespace DocMend.Shell

namespace Builtin

/-- The builtin that says what a name stands for; what it is asked to run is run elsewhere. -/
def command : Builtin := fun _ arguments => do
  let (flags, names) ← flags "pvV" arguments
  if !given flags 'v' && !given flags 'V' then return 0
  if !(← Run.isExtended) then
    match names with
    | [] => return 0
    | name :: _ => return ← describe (given flags 'V') true name
  let mut found := names.isEmpty
  for name in names do
    if (← describe (given flags 'V') true name) = 0 then found := true
  return if found then 0 else 1

/-- What is left of the builtin that runs builtins alone, where it does not lead to one. -/
def runBuiltinOnly : Builtin := fun _ arguments => do
  let (_, names) ← flags "" arguments
  match names with
  | [] => return 0
  | name :: _ =>
    Run.warn (name ++ ": not a shell builtin")
    return 1

/-- The builtins and their names. -/
def table : List (String × Builtin) :=
  [("[", bracket), (":", nothing 0), (".", readScript), ("source", readScript), ("alias", aliasing),
   ("bg", resume), ("bind", needsTerminal 0 "warning: line editing not enabled"),
   ("break", leaveLoops .leave), ("builtin", runBuiltinOnly), ("caller", caller),
   ("cd", changeFolder), ("chdir", changeFolder), ("command", command), ("compgen", listCandidates),
   ("complete", nothing 0), ("compopt", nothing 1), ("continue", leaveLoops .again),
   ("declare", declare), ("dirs", printFolders), ("disown", disown), ("echo", echo),
   ("enable", enable), ("exit", leaveShell), ("export", exportVariables), ("false", nothing 1),
   ("fc", nothing 0), ("fg", resume), ("getopts", getOptions), ("hash", hash), ("help", nothing 0),
   ("history", nothing 0), ("jobs", listJobs), ("kill", kill), ("let", evaluate),
   ("local", makeLocals), ("logout", needsTerminal 1 "not login shell: use \x60exit\x27"),
   ("mapfile", readLines), ("popd", popFolder), ("printf", printf), ("pushd", pushFolder),
   ("pwd", printFolder), ("read", readLine), ("readarray", readLines), ("readonly", fixVariables),
   ("return", leaveFunction), ("set", setOptions), ("shift", shift), ("shopt", switch),
   ("suspend", needsTerminal 1 "cannot suspend: no job control"), ("test", test), ("times", times),
   ("trap", trap), ("true", nothing 0), ("type", describeNames), ("typeset", declare),
   ("ulimit", limits), ("umask", mask), ("unalias", unalias), ("unset", remove), ("wait", wait)]

/-- The builtin with a name. The one that reads a text as a script knows whether its failure is looked
at. -/
def of? (tested : Bool) (name : Octets) : Option Builtin :=
  if name == "eval".toList then some (evaluateText tested) else table.lookup (Octets.name name)

end Builtin

end DocMend.Shell
