import DocMend.Shell.Tool.Awk
import DocMend.Shell.Tool.Characters
import DocMend.Shell.Tool.Checksums
import DocMend.Shell.Tool.Columns
import DocMend.Shell.Tool.Compare
import DocMend.Shell.Tool.Date
import DocMend.Shell.Tool.Dump
import DocMend.Shell.Tool.Files
import DocMend.Shell.Tool.Find
import DocMend.Shell.Tool.Grep
import DocMend.Shell.Tool.Listing
import DocMend.Shell.Tool.Names
import DocMend.Shell.Tool.Precedence
import DocMend.Shell.Tool.Sed
import DocMend.Shell.Tool.System
import DocMend.Shell.Tool.Xargs
/-!
The tools by their names.
-/

set_option autoImplicit false
set_option relaxedAutoImplicit false

namespace DocMend.Shell

namespace Tool

/-- The tools that work alone. -/
def table : List (String × Tool) :=
  (Digest.all.map fun (name, d) => (name, digest name d)) ++
  [("[", test true), ("arch", telling "arch" "x86_64" 0), ("base32", baseTool "base32" .thirtyTwo),
   ("base64", baseTool "base64" .sixtyFour), ("basename", basename), ("cat", cat), ("chmod", chmod),
   ("cksum", cksum), ("cmp", cmp), ("comm", comm), ("cp", cp), ("cut", cut), ("date", date), ("diff", diff), ("dirname", dirname), ("du", du),
   ("echo", echo), ("egrep", grepWith [⟨"E", none⟩]), ("expand", expand), ("expr", expr),
   ("factor", factor), ("false", constant "false" 1), ("fgrep", grepWith [⟨"F", none⟩]),
   ("fold", fold), ("grep", grep), ("groups", groups), ("head", head), ("hostname", hostname),
   ("id", id), ("join", join), ("link", link), ("ln", ln), ("logname", logname), ("ls", ls),
   ("mkdir", mkdir), ("mktemp", mktemp), ("mv", mv), ("nl", nl), ("nproc", nproc), ("od", od),
   ("paste", paste), ("printenv", printenv), ("printf", printf), ("pwd", pwd),
   ("readlink", readlink), ("realpath", realpath), ("rev", rev), ("rm", rm), ("rmdir", rmdir),
   ("seq", seq), ("sleep", sleep), ("sort", sort), ("stat", stat), ("sum", sum), ("tac", tac), ("tail", tail),
   ("tee", tee), ("test", test false), ("touch", touch), ("tr", tr), ("true", constant "true" 0),
   ("truncate", truncate), ("tsort", tsort), ("tty", tty), ("uname", uname),
   ("unexpand", unexpand), ("uniq", uniq), ("unlink", unlink), ("wc", wc), ("which", which),
   ("whoami", telling "whoami" "root" 0), ("yes", yes)]

/-- The tools that run others. -/
def launchers : List (String × (Launcher → Tool)) :=
  [("awk", awk), ("env", env), ("find", find), ("mawk", awk), ("nice", nice), ("nohup", nohup), ("sed", sed), ("stdbuf", stdbuf),
   ("timeout", timeout), ("xargs", xargs)]

/-- The tool of a name. -/
def named? (launcher : Launcher) (name : String) : Option Tool :=
  match table.lookup name with
  | some tool => some tool
  | none => (launchers.lookup name).map fun tool => tool launcher

/-- Runs a tool to its end: its status. What could not be written makes it fail. -/
def perform (name : Octets) (tool : Tool) (arguments : List Octets) : Run Nat := do
  Run.modifySelf fun s => { s with writeFailed := false, name }
  let status ←
    try tool arguments
    catch r =>
      match r with
      | .failure => pure (← Run.self).status
      | r => throw r
  if (← Run.self).writeFailed then
    complain name ("write error: " ++ Refusal.badDescriptor.text)
    return 1
  return status

end Tool

end DocMend.Shell
