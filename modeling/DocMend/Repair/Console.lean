import DocMend.Repair.Workspace
/-!
Reports on a console. Progress and counts go to standard output; issues that were passed over are
shown on standard error, and only when asked for.
-/

set_option autoImplicit false
set_option relaxedAutoImplicit false

namespace DocMend.Repair

/-- Text for the two streams of a console. -/
structure Console where
  stdout : String := ""
  stderr : String := ""
deriving DecidableEq, Repr

namespace Console

/-- Texts of two consoles, one after the other. -/
def append (first second : Console) : Console :=
  ⟨first.stdout ++ second.stdout, first.stderr ++ second.stderr⟩

instance : Append Console := ⟨append⟩

/-- A line on standard output. -/
def line (text : String) : Console := { stdout := text ++ "\n" }

/-- A line on standard error, shown only when asked for. -/
def debugLine (debug : Bool) (text : String) : Console :=
  if debug then { stderr := "[DOCFIX-DEBUG] " ++ text ++ "\n" } else {}

end Console

/-- The banner of a phase. -/
def Phase.banner : Phase → String
  | idle => "🚀 Doc-comment autofix"
  | collecting => "🔍 Collecting diagnostics..."
  | fixing => "🔧 Applying fixes..."
  | verifying => "🔁 Re-running diagnostics..."
  | done => "🏁 Done"

/-- A result on one line. -/
def Result.text (result : Result) : String :=
  let place := result.issue.path ++ ":" ++ result.issue.line.text
  let label := Shape.labelOf result.shape
  match result.outcome with
  | .applied insertion =>
    "  ✅ " ++ label ++ " " ++ place ++ " (+" ++ toString insertion.lines.length ++
      " line(s) at " ++ (insertion.index + 1).text ++ ")"
  | .failed reason => "  ❌ " ++ label ++ " " ++ place ++ ": " ++ reason
  | .skipped reason => "  ⏭️  " ++ place ++ ": " ++ reason

/-- The lines of a tally. -/
def Tally.lines (tally : Tally) : List String :=
  let remaining := match tally.remaining with
    | some count => count.text
    | none => "unknown"
  ["",
   "✅ Applied " ++ toString tally.applied ++ " fixes",
   "📋 Found " ++ toString tally.found ++ " issues: " ++ toString tally.attempted ++
     " attempted, " ++ toString tally.failed ++ " failed, " ++ toString tally.skipped ++
     " skipped",
   "📊 Remaining issues: " ++ remaining]

/-- What a report puts on the console. -/
def Event.console (debug : Bool) : Event → Console
  | .phase current none => Console.line current.banner
  | .phase current (some detail) => Console.line (current.banner ++ " " ++ detail)
  | .result latest =>
    if latest.outcome.isSkipped then Console.debugLine debug latest.text
    else Console.line latest.text
  | .warning message => Console.line ("⚠️  " ++ message)
  | .summary tally => (tally.lines.map Console.line).foldl Console.append {}

end DocMend.Repair
