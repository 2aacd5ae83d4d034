import DocMend.Command.Host
import DocMend.Shell.Evaluation.Script
/-!
Launching of command lines: a command line is the script of a POSIX shell whose output is captured and
whose input is empty.

The shell as the runner of the program's command lines.
-/

set_option autoImplicit false
set_option relaxedAutoImplicit false

namespace DocMend.Shell

/-- How deeply the commands of a script may stand inside each other while they run. -/
def deepestRun : Nat := 40000

/-- The name of the shell. -/
def shellName : Octets := "/bin/sh"

/-- The environment of a command line: what the host sets, a search path, and a home. -/
def environmentOf (given : List (String × String)) : List (Octets × Variable) :=
  let standard : List (String × String) :=
    [("HOME", "/root"), ("PATH", Octets.toText standardPath)]
  let all := standard.filter (fun entry => (given.lookup entry.1).isNone) ++ given
  all.map fun (name, value) =>
    (Octets.ofText name, .ofText (Octets.ofText value) true)

/-- Why a command line cannot be started in a folder, if it cannot. -/
def obstacle? (line : String) (folder : Path) (disk : Disk) : Option Launch.Obstacle :=
  if line.toList.contains '\x00' then some .nullByte
  else if line.isEmpty then some .empty
  else
    match disk.find folder with
    | .ok .folder => none
    | .ok (.file _) => some .notFolder
    | .error (.notFolder _) => some .notFolder
    | .error (.nameTooLong _) => some .nameTooLong
    | .error (.nullByte _) => some (.nullByteInFolder folder.text)
    | .error _ => some .missing

/-- Runs a command line from a folder in an environment. -/
def launch (line : String) (folder : Path) (environment : List (String × String)) (disk : Disk)
    (programs : List Program) : Launch.Outcome × Disk × List Program :=
  match obstacle? line folder disk with
  | some obstacle => (⟨[], [], .notStarted obstacle⟩, disk, programs)
  | none =>
    let e := Engine.ofDepth deepestRun
    let self : Interpreter :=
      { dialect := .posix, name := shellName, folder, vars := environmentOf environment
        descriptors := [(0, 0), (1, 1), (2, 2)] }
    let start : Start := { tasks := [.text (Octets.ofText line)] }
    let body : Run Unit := e.runShell .posix shellName (return start)
    let (result, after) := body.run.run ⟨self, { disk, programs }⟩
    let bytes (written : List Octets) : List UInt8 := Octets.toBytes written.reverse.flatten
    let ending : Launch.Ending := match Run.exitOf result after.self with
      | .status status => .exited status
      | .signal _ => .killed
    (⟨bytes after.machine.stdout, bytes after.machine.stderr, ending⟩,
      after.machine.disk, after.machine.programs)

instance : Command.Runner (List Program) where
  launch := launch

end DocMend.Shell
