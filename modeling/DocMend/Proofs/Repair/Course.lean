import DocMend.Proofs.Repair.Transition
/-!
The course of a run in memory, told exactly: two looks of the linter with the repairs between them,
each followed by its report, and what all of this leaves on the trace.
-/

set_option autoImplicit false
set_option relaxedAutoImplicit false

namespace DocMend.Repair

namespace Memory

variable (memory : Memory)

@[simp]
theorem calls_note (activity : Activity) :
    (memory.note activity).calls =
      memory.calls + match activity with
        | .diagnosed => 1
        | _ => 0 := by
  cases activity <;> simp [calls, note]

@[simp]
theorem reads_note (activity : Activity) :
    (memory.note activity).reads =
      memory.reads ++ match activity with
        | .read path => [path]
        | _ => [] := by
  cases activity <;> simp [reads, note]

@[simp]
theorem writes_note (activity : Activity) :
    (memory.note activity).writes =
      memory.writes ++ match activity with
        | .write path true => [path]
        | _ => [] := by
  cases activity with
  | write path accepted => cases accepted <;> simp [writes, note]
  | _ => simp [writes, note]

@[simp]
theorem passes_note (activity : Activity) : (memory.note activity).passes = memory.passes :=
  rfl

/-- What the linter gives next depends on its passes and on how often it was called. -/
theorem pass_congr {memory other : Memory} (passes : memory.passes = other.passes)
    (calls : memory.calls = other.calls) : memory.pass = other.pass := by
  rw [pass, pass, passes, calls]

theorem pass_of_getElem? {memory : Memory} {pass : Except String String}
    (next : memory.passes[memory.calls]? = some pass) : memory.pass = pass := by
  rw [Memory.pass, next]

/-- The issues of the next look, if the linter can be run. -/
def found? (dedupe : Bool) : Option (List Issue) :=
  memory.pass.toOption.map (Diagnostic.collect dedupe)

/-- The next look: the linter is called, and a linter that cannot be run gives a warning. -/
def look : Memory :=
  match memory.pass with
  | .ok _ => memory.note .diagnosed
  | .error detail =>
    (memory.note .diagnosed).note (.reported (.warning ("diagnostics command failed: " ++ detail)))

@[simp]
theorem calls_look : memory.look.calls = memory.calls + 1 := by
  rw [look]
  split <;> simp

@[simp]
theorem reads_look : memory.look.reads = memory.reads := by
  rw [look]
  split <;> simp

@[simp]
theorem writes_look : memory.look.writes = memory.writes := by
  rw [look]
  split <;> simp

@[simp]
theorem passes_look : memory.look.passes = memory.passes := by
  rw [look]
  split <;> simp

/-- A look leaves nothing but notes. -/
theorem look_eq : memory.look = { memory with trace := memory.look.trace } := by
  rw [look]
  split <;> rfl

theorem collect_eq (dedupe : Bool) :
    (collect dedupe : StateM Memory (Option (List Issue))) memory =
      (memory.found? dedupe, memory.look) := by
  simp only [collect, bind, StateT.bind, Workspace.diagnose, found?, look]
  cases memory.pass with
  | ok text => rfl
  | error detail => rfl

end Memory

variable {options : Plan.Options} {issue : Issue} {session next : Session} {memory after : Memory}

/-- A repair is reported with the result that it adds. -/
theorem Stepped.perform_reportedStep
    (stepped : Stepped options issue session memory (.ok next, after)) {result : Result}
    (last : next.results.getLast? = some result) :
    memory.perform (reportedStep options session issue) =
      (.ok next, after.note (.reported (.result result))) := by
  simp only [reportedStep, Memory.perform_bind, stepped.perform_eq, last]
  rfl

theorem perform_reportedStep_error {e : IndexError}
    (stopped : memory.perform (step options session issue) = (.error e, after)) :
    memory.perform (reportedStep options session issue) = (.error e, after) := by
  simp only [reportedStep, Memory.perform_bind, stopped]

/-- Repairing a list of issues with reports, by its first issue: a repair, its report, and the rest. -/
theorem reported_cons {issues : List Issue} {final : Session} {last : Memory}
    (ends : memory.perform ((issue :: issues).foldlM (reportedStep options) session) =
      (.ok final, last)) :
    ∃ next after shape outcome, Stepped options issue session memory (.ok next, after) ∧
      next.results = session.results ++ [⟨issue, shape, outcome⟩] ∧
      (after.note (.reported (.result ⟨issue, shape, outcome⟩))).perform
        (issues.foldlM (reportedStep options) next) = (.ok final, last) := by
  have case := stepped options issue session memory
  rcases outcome : memory.perform (step options session issue) with ⟨e | next, after⟩
  · simp only [List.foldlM_cons, Memory.perform_bind, perform_reportedStep_error outcome] at ends
    exact absurd (congrArg Prod.fst ends) (by simp)
  · rw [outcome] at case
    obtain ⟨shape, outcome, results⟩ := case.results_eq
    have newest : next.results.getLast? = some ⟨issue, shape, outcome⟩ := by simp [results]
    simp only [List.foldlM_cons, Memory.perform_bind, case.perform_reportedStep newest] at ends
    exact ⟨next, after, shape, outcome, case, results, ends⟩

namespace Memory

variable (memory : Memory)

/-- The memory in which the first repair of a run begins. -/
def opened (dedupe : Bool) : Memory :=
  let looking := (memory.note (.reported (.phase .idle none))).note
    (.reported (.phase .collecting none))
  let found := (looking.found? dedupe).getD []
  let detail := "(" ++ toString found.length ++ " issues)"
  looking.look.note (.reported (.phase .fixing (some detail)))

/-- The memory in which the second look of a run is taken. -/
def verifying : Memory :=
  memory.note (.reported (.phase .verifying none))

/-- What the linter gives at the second look. -/
theorem pass_verifying {memory : Memory} {pass : Except String String}
    (next : memory.passes[memory.calls]? = some pass) : memory.verifying.pass = pass := by
  refine pass_of_getElem? ?_
  rw [verifying, calls_note, passes_note]
  exact next

/-- The memory that a run leaves behind when it ends with a tally. -/
def closed (tally : Tally) : Memory :=
  (memory.verifying.look.note (.reported (.summary tally))).note (.reported (.phase .done none))

@[simp]
theorem calls_opened (dedupe : Bool) : (memory.opened dedupe).calls = memory.calls + 1 := by
  simp [opened]

@[simp]
theorem reads_opened (dedupe : Bool) : (memory.opened dedupe).reads = memory.reads := by
  simp [opened]

@[simp]
theorem writes_opened (dedupe : Bool) : (memory.opened dedupe).writes = memory.writes := by
  simp [opened]

@[simp]
theorem passes_opened (dedupe : Bool) : (memory.opened dedupe).passes = memory.passes := by
  simp [opened]

@[simp]
theorem calls_closed (tally : Tally) : (memory.closed tally).calls = memory.calls + 1 := by
  simp [closed, verifying]

@[simp]
theorem reads_closed (tally : Tally) : (memory.closed tally).reads = memory.reads := by
  simp [closed, verifying]

@[simp]
theorem writes_closed (tally : Tally) : (memory.closed tally).writes = memory.writes := by
  simp [closed, verifying]

theorem opened_eq (dedupe : Bool) :
    memory.opened dedupe = { memory with trace := (memory.opened dedupe).trace } := by
  rw [opened, look_eq]
  rfl

theorem closed_eq (tally : Tally) :
    memory.closed tally = { memory with trace := (memory.closed tally).trace } := by
  rw [closed, look_eq]
  rfl

/-- What the linter gives at the first look. -/
theorem pass_opening : ((memory.note (.reported (.phase .idle none))).note
    (.reported (.phase .collecting none))).pass = memory.pass :=
  pass_congr rfl (by simp)

/-- A run is the repair of the issues of its first look between that look and the second one. -/
theorem perform_run (options : RunOptions) :
    memory.perform (run options) =
      match (memory.opened options.dedupe).perform
        (((memory.found? options.dedupe).getD []).foldlM (reportedStep options.toOptions) {}) with
      | (.ok session, after) =>
        let tally := Tally.ofResults session.results
          ((after.verifying.found? options.dedupe).map fun issues => Number.ofNat issues.length)
        (.ok tally, after.closed tally)
      | (.error e, after) => (.error e, after) := by
  have found : ((memory.note (.reported (.phase .idle none))).note
      (.reported (.phase .collecting none))).found? options.dedupe =
        memory.found? options.dedupe := by
    rw [found?, found?, pass_opening]
  simp only [run, perform_bind, perform_lift, perform_pure, collect_eq, Workspace.report, opened,
    verifying, closed, found]
  generalize perform _ _ = outcome
  rcases outcome with ⟨e | session, after⟩
  · rfl
  · rfl

/-- A run that ends has repaired the issues of its first look, and its tally counts the results of these
repairs and the issues of the look behind them. -/
theorem repairs_of_run {memory after : Memory} {options : RunOptions} {tally : Tally}
    (ends : memory.perform (run options) = (.ok tally, after)) :
    ∃ session last, (memory.opened options.dedupe).perform
        (((memory.found? options.dedupe).getD []).foldlM (reportedStep options.toOptions) {}) =
          (.ok session, last) ∧
      tally = Tally.ofResults session.results
        ((last.verifying.found? options.dedupe).map fun issues => Number.ofNat issues.length) ∧
      after = last.closed tally := by
  rw [perform_run] at ends
  rcases repaired : (memory.opened options.dedupe).perform
    (((memory.found? options.dedupe).getD []).foldlM (reportedStep options.toOptions) {})
      with ⟨e | session, last⟩
  · rw [repaired] at ends
    exact absurd (congrArg Prod.fst ends) (by simp)
  · rw [repaired] at ends
    obtain ⟨tallied, closed⟩ := Prod.mk.inj ends
    obtain rfl := Except.ok.inj tallied
    exact ⟨session, last, rfl, rfl, closed.symm⟩

end Memory

end DocMend.Repair
