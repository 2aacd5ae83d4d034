import DocMend.Plan
import DocMend.Remedy
import DocMend.Source.Basic
/-!
Results of repairs and their count. Every issue of a run ends in one result; the tally counts them.

What a run needs from its surroundings: files to read and write, a linter to ask, and someone to
report to, and what it reports while it goes on.
-/

set_option autoImplicit false
set_option relaxedAutoImplicit false

namespace DocMend.Repair

/-- How the repair of one issue ended. -/
inductive Outcome where
  | applied (insertion : Insertion)
  | failed (reason : String)
  | skipped (reason : String)
deriving DecidableEq, Repr

/-- One issue as it was reported, the shape of its message, and how its repair ended. -/
structure Result where
  issue : Issue
  shape : Option Shape
  outcome : Outcome
deriving DecidableEq, Repr

/-- Whether the outcome is an insertion. -/
def Outcome.isApplied : Outcome → Bool
  | applied _ => true
  | _ => false

/-- Whether the outcome is a failure. -/
def Outcome.isFailed : Outcome → Bool
  | failed _ => true
  | _ => false

/-- Whether the issue was passed over. -/
def Outcome.isSkipped : Outcome → Bool
  | skipped _ => true
  | _ => false

/-- Why nothing was inserted. -/
def Outcome.reason? : Outcome → Option String
  | applied _ => none
  | failed reason => some reason
  | skipped reason => some reason

/-- The reason for which issues without a remedy are passed over. -/
def noRemedy : String := "no automatic fix for this message"

/-- The count of a run, and the number of issues that a second look found, if it could be taken. -/
structure Tally where
  found : Nat
  attempted : Nat
  applied : Nat
  failed : Nat
  skipped : Nat
  remaining : Option Number
  results : List Result
deriving DecidableEq, Repr

/-- Counts results. -/
def Tally.ofResults (results : List Result) (remaining : Option Number) : Tally :=
  let applied := results.countP fun result => result.outcome.isApplied
  let failed := results.countP fun result => result.outcome.isFailed
  let skipped := results.countP fun result => result.outcome.isSkipped
  ⟨results.length, applied + failed, applied, failed, skipped, remaining, results⟩

/-- The phases of a run, in their order. -/
inductive Phase where
  | idle
  | collecting
  | fixing
  | verifying
  | done
deriving DecidableEq, Repr

/-- One report of a run. -/
inductive Event where
  | phase (phase : Phase) (detail : Option String)
  | result (result : Result)
  | warning (message : String)
  | summary (tally : Tally)
deriving DecidableEq, Repr

end DocMend.Repair

namespace DocMend.Repair

/-- Effects that reach stored files. A refused access comes with its detail. -/
class FileStore (m : Type → Type) where
  /-- The whole text of a file. -/
  read : String → m (Except String String)
  /-- Replaces the whole text of a file. -/
  write : String → String → m (Except String Unit)

/-- Effects of a whole run. -/
class Workspace (m : Type → Type) extends FileStore m where
  /-- The output of the linter, or why it could not be run. -/
  diagnose : m (Except String String)
  /-- Takes a report. -/
  report : Event → m Unit

end DocMend.Repair
