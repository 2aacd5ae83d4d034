import DocMend.Calendar
import DocMend.Command.Host
import DocMend.Command.Line
import DocMend.Commit.Basic
import DocMend.Release.Notes
import DocMend.Settings.Load
/-!
What the program does for each request, and its exit status. The status is one only where the
request could not be carried out at all; failed repairs are a normal outcome.
-/

set_option autoImplicit false
set_option relaxedAutoImplicit false

namespace DocMend.Command

open Repair (Console)

/-- The exit status of a run that was fatal or not. -/
def exitStatus (fatal : Bool) : Nat :=
  if fatal then 1 else 0

variable {σ : Type}

/-- A line on standard error. -/
def errorLine (text : String) : Console :=
  { stderr := text ++ "\n" }

/-- Why a request could not be carried out. -/
inductive Fatal where
  | settings (error : Settings.LoadError)
  | command (failure : Launch.Failure)
  | insertion (error : IndexError)
deriving DecidableEq, Repr

/-- The wording of a fatal error. -/
def Fatal.message : Fatal → String
  | settings error => "❌ Cannot load " ++ error.path.text ++ ": " ++ error.cause.detail
  | command failure => "❌ " ++ failure.command ++ " failed: " ++ failure.detail
  | insertion error => "❌ " ++ error.message

/-- Ends a request. -/
def conclude (answer : Except Fatal Unit) : StateM (Host σ) Nat := do
  match answer with
  | .ok () => return exitStatus false
  | .error fatal =>
    modify fun host => host.print (errorLine fatal.message)
    return exitStatus true

/-- The settings on a host. -/
def settings (host : Host σ) (asked : Option String) : Except Fatal Settings :=
  (Settings.load host.tree host.environment asked).mapError Fatal.settings

/-- The options of a run by settings and request. -/
def runOptions (settings : Settings) (options : FixOptions) : Repair.RunOptions :=
  { windows := settings.windows
    phrases := settings.phrases
    dedupe := settings.dedupe && !options.noDedupe }

/-- Repairs the issues that the linter reports. -/
def fix [Runner σ] (options : FixOptions) : StateM (Host σ) Nat := do
  match settings (← get) options.configPath with
  | .error fatal => conclude (.error fatal)
  | .ok settings =>
    let line := options.script.getD settings.command
    let run : Host.Linting σ (Except IndexError Repair.Tally) :=
      (Repair.run (runOptions settings options)).run
    match ← run line with
    | .ok _ => conclude (.ok ())
    | .error e => conclude (.error (.insertion e))

/-- The variable that names the commit of a release. -/
def revisionVariable : String := "GITHUB_SHA"

/-- The commit of a release where none is named. -/
def unknownRevision : String := "unknown"

/-- What the notes say of a release that is made on a host. -/
def details (host : Host σ) (settings : Settings) (options : NotesOptions) : Release.Details :=
  { project := host.tree.folder.baseName
    tag := options.tag
    repository := options.repository.getD settings.repository
    revision := (host.environment.lookup revisionVariable).getD unknownRevision
    buildDate := Calendar.buildDate host.clock
    range := options.description }

/-- The commit log of a revision range. -/
def commitLog [Runner σ] (range : Option String) :
    StateM (Host σ) (Except Launch.Failure String) := do
  let line := Commit.logCommand range
  let (outcome, host) := (← get).launch line
  set host
  return outcome.output line Launch.standardLimit

/-- Prints the notes of a release. -/
def changelog [Runner σ] (options : NotesOptions) : StateM (Host σ) Nat := do
  match settings (← get) options.configPath with
  | .error fatal => conclude (.error fatal)
  | .ok settings =>
    match ← commitLog options.range with
    | .error failure => conclude (.error (.command failure))
    | .ok log =>
      let host ← get
      let notes := Release.notesOfLog log (details host settings options)
      set (host.print (Console.line notes))
      conclude (.ok ())

/-- Prints the usage text, after the problem that led to it. -/
def help (problem : Option Problem) : StateM (Host σ) Nat := do
  match problem with
  | some problem => modify fun host => host.print (errorLine ("❌ " ++ problem.message))
  | none => pure ()
  modify fun host => host.print (Console.line usage)
  return exitStatus problem.isSome

/-- Carries out a request. -/
def perform [Runner σ] : Request → StateM (Host σ) Nat
  | .fix options => fix options
  | .changelog options => changelog options
  | .help problem => help problem

/-- Carries out what a command line asks for. -/
def execute [Runner σ] (arguments : List String) : StateM (Host σ) Nat :=
  perform (Request.ofArguments arguments)

end DocMend.Command
