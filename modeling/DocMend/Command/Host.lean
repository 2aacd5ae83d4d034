import DocMend.Disk.WorkingTree
import DocMend.Launch.Outcome
import DocMend.Repair.Console
import DocMend.Repair.Run
/-!
The host of the program: a working tree, an environment, a clock, a console, and something that runs
command lines. Which command lines were started is on record.
-/

set_option autoImplicit false
set_option relaxedAutoImplicit false

namespace DocMend.Command

open Repair (Console Event FileStore Workspace)

/-- States of something that runs command lines. -/
class Runner (σ : Type) where
  /-- Runs a command line from a folder in an environment. -/
  launch : String → Path → List (String × String) → Disk → σ → Launch.Outcome × Disk × σ

/-- What surrounds the program while it runs. -/
structure Host (σ : Type) where
  tree : WorkingTree
  runner : σ
  environment : List (String × String) := []
  clock : Int := 0
  launched : List String := []
  console : Console := {}

namespace Host

variable {σ : Type}

/-- The variable that turns on lines for issues that are passed over. -/
def debugVariable : String := "DOCLINT_AUTOFIX_DEBUG"

/-- Whether issues that are passed over are shown. -/
def debug (host : Host σ) : Bool :=
  host.environment.lookup debugVariable = some "1"

/-- Adds to the console. -/
def print (host : Host σ) (console : Console) : Host σ :=
  { host with console := host.console ++ console }

/-- Runs a command line from the working folder. -/
def launch [Runner σ] (host : Host σ) (line : String) : Launch.Outcome × Host σ :=
  let (outcome, disk, runner) :=
    Runner.launch line host.tree.folder host.environment host.tree.disk host.runner
  (outcome,
    { host with tree := { host.tree with disk }, runner, launched := host.launched ++ [line] })

/-- What a linter reports: the text on its standard error, whatever its exit status. -/
def diagnose [Runner σ] (line : String) (host : Host σ) : Except String String × Host σ :=
  let (outcome, host) := host.launch line
  match outcome.completed line Launch.standardLimit with
  | .ok completed => (.ok completed.stderr, host)
  | .error failure => (.error failure.detail, host)

/-- Computations on a host that know the command line of the linter. -/
abbrev Linting (σ : Type) : Type → Type := ReaderT String (StateM (Host σ))

instance : FileStore (Linting σ) where
  read name := fun _ host =>
    match host.tree.read name with
    | .ok text => (.ok text, host)
    | .error fault => (.error fault.detail, host)
  write name text := fun _ host =>
    match host.tree.write name text with
    | .ok tree => (.ok (), { host with tree })
    | .error fault => (.error fault.detail, host)

instance [Runner σ] : Workspace (Linting σ) where
  diagnose := fun line host => host.diagnose line
  report event := fun _ host => ((), host.print (event.console host.debug))

end Host

end DocMend.Command
