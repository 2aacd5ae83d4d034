import DocMend.Diagnostic.Basic
import DocMend.Drift
import DocMend.Plan
import DocMend.Repair.Workspace
/-!
The repair of one issue: read the file, plan the insertion, carry it out and write the file back. A
step that fails changes nothing and becomes a result like any other.

A whole run: collect the issues, repair them one by one, look again, and report. No single failure
ends a run.
-/

set_option autoImplicit false
set_option relaxedAutoImplicit false

namespace DocMend.Repair

/-- How far a run has come: the drift of all files and the results so far, oldest first. -/
structure Session where
  drift : Drift := {}
  results : List Result := []
deriving DecidableEq, Repr

variable {m : Type → Type} [Monad m] [FileStore m]

/-- Reads the lines of a file. -/
def load (path : String) : m (Except Failure Source) := do
  match ← FileStore.read path with
  | .ok text => return .ok (Source.ofText text)
  | .error detail => return .error (.inaccessible path .read detail)

/-- Writes the lines of a file. -/
def save (path : String) (source : Source) : m (Except Failure Unit) := do
  match ← FileStore.write path source.text with
  | .ok () => return .ok ()
  | .error detail => return .error (.inaccessible path .write detail)

/-- Reads a file, plans one insertion on what was read, and writes the file back. A plan that does
not fit the file raises an index error and writes nothing. -/
def applyPlan (path : String) (plan : Source → Except Failure Insertion) :
    ExceptT IndexError m (Except Failure Insertion) := do
  match ← (load path : m (Except Failure Source)) with
  | .error failure => return .error failure
  | .ok source =>
    match plan source with
    | .error failure => return .error failure
    | .ok insertion =>
      match source.insert insertion with
      | .error e => throw e
      | .ok patched =>
        match ← (save path patched : m (Except Failure Unit)) with
        | .error failure => return .error failure
        | .ok () => return .ok insertion

/-- Accepts an insertion whose index lies in a file, from zero to below its number of lines. -/
def within (path : String) (insertion : Insertion) (source : Source) : Except Failure Insertion :=
  if 0 ≤ insertion.index ∧ insertion.index < Number.ofNat source.size then .ok insertion
  else .error (.anchorNotFound path (insertion.index + 1) 0)

/-- Carries out one insertion in a file. -/
def carryOut (path : String) (insertion : Insertion) :
    ExceptT IndexError m (Except Failure Insertion) :=
  applyPlan path (within path insertion)

/-- Adds a result to a session. -/
def Session.conclude (session : Session) (issue : Issue) (shape : Option Shape)
    (outcome : Outcome) : Session :=
  { session with results := session.results ++ [⟨issue, shape, outcome⟩] }

/-- The issue with its line moved to where it stands now. -/
def Session.current (session : Session) (issue : Issue) : Issue :=
  { issue with line := session.drift.resolve issue.path issue.line }

/-- Repairs one issue. -/
def step (options : Plan.Options) (session : Session) (issue : Issue) :
    ExceptT IndexError m Session := do
  match Remedy.forMessage? issue.message with
  | none => return session.conclude issue none (.skipped noRemedy)
  | some remedy =>
    let plan := fun source => Plan.ofRemedy remedy (session.current issue) source options
    match ← applyPlan issue.path plan with
    | .error failure => return session.conclude issue (some remedy.shape) (.failed failure.reason)
    | .ok insertion =>
      let session := session.conclude issue (some remedy.shape) (.applied insertion)
      return { session with drift := session.drift.record issue.path insertion }

/-- Repairs issues in their order. -/
def steps (options : Plan.Options) (session : Session) (issues : List Issue) :
    ExceptT IndexError m Session :=
  issues.foldlM (step options) session

/-- What a run depends on besides its surroundings. -/
structure RunOptions extends Plan.Options where
  dedupe : Bool := true
deriving DecidableEq, Repr

variable {m : Type → Type} [Monad m] [Workspace m]

/-- The issues that the linter reports now; a linter that cannot be run gives a warning. -/
def collect (dedupe : Bool) : m (Option (List Issue)) := do
  match ← Workspace.diagnose with
  | .ok text => return some (Diagnostic.collect dedupe text)
  | .error detail =>
    Workspace.report (.warning ("diagnostics command failed: " ++ detail))
    return none

/-- Repairs one issue and reports its result. -/
def reportedStep (options : Plan.Options) (session : Session) (issue : Issue) :
    ExceptT IndexError m Session := do
  let next ← step options session issue
  match next.results.getLast? with
  | some result => (Workspace.report (.result result) : m Unit)
  | none => pure ()
  return next

/-- Carries out a run and counts its results. -/
def run (options : RunOptions) : ExceptT IndexError m Tally := do
  (Workspace.report (.phase .idle none) : m Unit)
  (Workspace.report (.phase .collecting none) : m Unit)
  let issues := (← (collect options.dedupe : m (Option (List Issue)))).getD []
  let detail := "(" ++ toString issues.length ++ " issues)"
  (Workspace.report (.phase .fixing (some detail)) : m Unit)
  let session ← issues.foldlM (reportedStep options.toOptions) ({} : Session)
  (Workspace.report (.phase .verifying none) : m Unit)
  let remaining ← (collect options.dedupe : m (Option (List Issue)))
  let count := remaining.map fun issues => Number.ofNat issues.length
  let tally := Tally.ofResults session.results count
  (Workspace.report (.summary tally) : m Unit)
  (Workspace.report (.phase .done none) : m Unit)
  return tally

end DocMend.Repair
