import DocMend.Proofs.Json.Keyed
import DocMend.Proofs.Plan.Place
import DocMend.Proofs.Repair.Course
import DocMend.Proofs.Source.Splice
/-!
The states that a run comes through. A law of all of them is proved by induction on `Reached`: it
holds at the start, every step keeps it, and it does not depend on the trace. Runs that repair issues
one by one end in such a state as long as the files fit.
-/

set_option autoImplicit false
set_option relaxedAutoImplicit false

namespace DocMend.Repair

namespace Memory

/-- No file has more characters than can be counted exactly. A string is always shorter than that. -/
def Fits (memory : Memory) : Prop :=
  ∀ path text, memory.files.lookup path = some text → text.length < Number.exactBound

/-- It is enough to look at every entry. -/
theorem fits_of_entries {memory : Memory}
    (short : ∀ entry ∈ memory.files, entry.2.length < Number.exactBound) : memory.Fits := by
  intro path text found
  exact short (path, text) (mem_of_lookup found)

/-- All files are still there, and none became shorter. -/
def Grows (before after : Memory) : Prop :=
  ∀ path text, before.files.lookup path = some text →
    ∃ longer, after.files.lookup path = some longer ∧ text.length ≤ longer.length

theorem Grows.refl (memory : Memory) : memory.Grows memory :=
  fun _ text found => ⟨text, found, Nat.le_refl _⟩

theorem Grows.fits {before after : Memory} (grows : before.Grows after) (fits : after.Fits) :
    before.Fits := by
  intro path text found
  obtain ⟨longer, present, le⟩ := grows path text found
  exact Nat.lt_of_le_of_lt le (fits path longer present)

theorem Grows.setEntry {memory : Memory} {path text longer : String}
    (found : memory.files.lookup path = some text) (le : text.length ≤ longer.length) :
    memory.Grows { memory with files := setEntry memory.files path longer } := by
  intro other old present
  by_cases same : other = path
  · subst same
    obtain rfl : text = old := Option.some.inj (found.symm.trans present)
    exact ⟨longer, lookup_setEntry_same _ _ _, le⟩
  · exact ⟨old, (lookup_setEntry_other _ same _).trans present, Nat.le_refl _⟩

end Memory

variable {options : Plan.Options}

theorem Stepped.grows {issue : Issue} {session : Session} {memory after : Memory}
    {result : Except IndexError Session}
    (stepped : Stepped options issue session memory (result, after)) : memory.Grows after := by
  cases stepped with
  | skipped => exact .refl memory
  | unread => exact .refl memory
  | unplanned => exact .refl memory
  | misplaced => exact .refl memory
  | refused => exact .refl memory
  | @applied remedy text insertion patched fit present plan inside opened =>
    obtain ⟨index, -, -, rfl⟩ := Source.insert_ok inside
    refine Memory.Grows.setEntry present ?_
    have longer := Source.length_text_le_splice (Source.ofText text) index insertion.lines
    rwa [Source.text_ofText] at longer

/-- No step changes which files cannot be written. -/
theorem Stepped.readOnly_eq {issue : Issue} {session : Session} {memory after : Memory}
    {result : Except IndexError Session}
    (stepped : Stepped options issue session memory (result, after)) :
    after.readOnly = memory.readOnly := by
  cases stepped <;> rfl

/-- A plan for a file that fits can be carried out. -/
theorem insert_plan {memory : Memory} (fits : memory.Fits) {remedy : Remedy} {issue : Issue}
    {path text : String} {insertion : Insertion}
    (present : memory.files.lookup path = some text)
    (plan : Plan.ofRemedy remedy issue (Source.ofText text) options = .ok insertion) :
    ∃ index < (Source.ofText text).lines.length, insertion.index = Number.ofNat index ∧
      (Source.ofText text).insert insertion =
        .ok ((Source.ofText text).splice index insertion.lines) := by
  obtain ⟨index, inside, place⟩ := Plan.ofRemedy_inside plan
  have small : (Source.ofText text).lines.length ≤ Number.exactBound :=
    Nat.le_of_lt (Nat.lt_of_le_of_lt (Source.size_ofText_le text) (fits path text present))
  refine ⟨index, inside, place, ?_⟩
  obtain ⟨at_index, added⟩ := insertion
  obtain rfl : at_index = Number.ofNat index := place
  exact Source.insert_ofNat inside small added

/-- While the files fit, no step fails. -/
theorem Stepped.ok_of_fits {issue : Issue} {session : Session} {memory after : Memory}
    {result : Except IndexError Session}
    (stepped : Stepped options issue session memory (result, after)) (fits : memory.Fits) :
    ∃ next, result = .ok next := by
  cases stepped with
  | skipped => exact ⟨_, rfl⟩
  | unread => exact ⟨_, rfl⟩
  | unplanned => exact ⟨_, rfl⟩
  | misplaced fit present plan outside =>
    obtain ⟨index, -, -, inserted⟩ := insert_plan fits present plan
    rw [inserted] at outside
    exact absurd outside (by simp)
  | refused => exact ⟨_, rfl⟩
  | applied => exact ⟨_, rfl⟩

/-- The sessions and memories that repairing issues one by one leads to, whatever is noted down in
between. -/
inductive Reached (options : Plan.Options) (start : Memory) :
    List Issue → Session → Memory → Prop
  | start : Reached options start [] {} start
  | step {done : List Issue} {issue : Issue} {session next : Session} {memory after : Memory}
      (reached : Reached options start done session memory)
      (stepped : Stepped options issue session memory (.ok next, after)) :
      Reached options start (done ++ [issue]) next after
  | noted {done : List Issue} {session : Session} {memory : Memory}
      (reached : Reached options start done session memory) (trace : List Activity) :
      Reached options start done session { memory with trace := trace }

theorem Reached.grows {start memory : Memory} {done : List Issue} {session : Session}
    (reached : Reached options start done session memory) : start.Grows memory := by
  induction reached with
  | start => exact .refl start
  | step reached stepped ih =>
    intro path text found
    obtain ⟨longer, present, le⟩ := ih path text found
    obtain ⟨longest, still, more⟩ := stepped.grows path longer present
    exact ⟨longest, still, Nat.le_trans le more⟩
  | noted reached trace ih => exact ih

theorem Reached.readOnly_eq {start memory : Memory} {done : List Issue} {session : Session}
    (reached : Reached options start done session memory) : memory.readOnly = start.readOnly := by
  induction reached with
  | start => rfl
  | step reached stepped ih => exact stepped.readOnly_eq.trans ih
  | noted reached trace ih => exact ih

/-- Repairing issues by a step that may note something of its own. -/
private theorem fold_reached {start : Memory}
    {act : Session → Issue → ExceptT IndexError (StateM Memory) Session}
    (acts : ∀ session issue (memory : Memory), ∃ trace, memory.perform (act session issue) =
      ((memory.perform (step options session issue)).1,
        { (memory.perform (step options session issue)).2 with trace := trace }))
    {done : List Issue} {session : Session} {memory : Memory}
    (reached : Reached options start done session memory) (issues : List Issue)
    (fits : (memory.perform (issues.foldlM act session)).2.Fits) :
    ∃ final, (memory.perform (issues.foldlM act session)).1 = .ok final ∧
      Reached options start (done ++ issues) final
        (memory.perform (issues.foldlM act session)).2 := by
  induction issues generalizing done session memory with
  | nil =>
    rw [List.append_nil]
    exact ⟨session, rfl, reached⟩
  | cons issue rest ih =>
    obtain ⟨trace, acted⟩ := acts session issue memory
    have case := stepped options issue session memory
    rcases outcome : memory.perform (step options session issue) with ⟨result, after⟩
    rw [outcome] at acted case
    simp only [List.foldlM_cons, Memory.perform_bind, acted] at fits ⊢
    cases result with
    | error e =>
      have still : memory.Fits := case.grows.fits fits
      obtain ⟨next, impossible⟩ := case.ok_of_fits still
      exact absurd impossible (by simp)
    | ok next =>
      have here : Reached options start (done ++ [issue]) next { after with trace := trace } :=
        (reached.step case).noted trace
      obtain ⟨final, value, there⟩ := ih here fits
      rw [List.append_assoc] at there
      exact ⟨final, value, there⟩

/-- Repairing a list of issues ends, in a state that was reached by exactly these issues. -/
theorem steps_reached {memory : Memory} {issues : List Issue}
    (fits : (memory.perform (steps options {} issues)).2.Fits) :
    ∃ final, (memory.perform (steps options {} issues)).1 = .ok final ∧
      Reached options memory issues final (memory.perform (steps options {} issues)).2 := by
  refine fold_reached (fun session issue memory => ?_) .start issues fits
  exact ⟨(memory.perform (step options session issue)).2.trace, rfl⟩

private theorem reportedStep_noted (session : Session) (issue : Issue) (memory : Memory) :
    ∃ trace, memory.perform (reportedStep options session issue) =
      ((memory.perform (step options session issue)).1,
        { (memory.perform (step options session issue)).2 with trace := trace }) := by
  have case := stepped options issue session memory
  rcases outcome : memory.perform (step options session issue) with ⟨e | next, after⟩
  · exact ⟨after.trace, perform_reportedStep_error outcome⟩
  · rw [outcome] at case
    obtain ⟨shape, outcome, results⟩ := case.results_eq
    have newest : next.results.getLast? = some ⟨issue, shape, outcome⟩ := by simp [results]
    exact ⟨_, case.perform_reportedStep newest⟩

/-- The issues that the next call of the linter gives; none if it cannot be run. -/
def Memory.issues (memory : Memory) (dedupe : Bool) : List Issue :=
  match memory.pass with
  | .ok text => Diagnostic.collect dedupe text
  | .error _ => []

theorem Memory.issues_eq (memory : Memory) (dedupe : Bool) :
    memory.issues dedupe = (memory.found? dedupe).getD [] := by
  rw [issues, found?]
  cases memory.pass with
  | ok text => rfl
  | error detail => rfl

/-- A run ends, in a state that was reached by the issues of its first look, and its tally holds the
results of that state. -/
theorem run_reached {options : RunOptions} {memory : Memory}
    (fits : (memory.perform (run options)).2.Fits) :
    ∃ tally session, (memory.perform (run options)).1 = .ok tally ∧
      tally.results = session.results ∧
      Reached options.toOptions memory (memory.issues options.dedupe) session
        (memory.perform (run options)).2 := by
  have first : Reached options.toOptions memory [] {} (memory.opened options.dedupe) := by
    rw [Memory.opened_eq]
    exact .noted .start _
  have ends := fold_reached reportedStep_noted first (memory.issues options.dedupe)
  rw [Memory.perform_run, ← Memory.issues_eq] at fits ⊢
  rcases repaired : (memory.opened options.dedupe).perform ((memory.issues options.dedupe).foldlM
    (reportedStep options.toOptions) {}) with ⟨e | session, after⟩
  · rw [repaired] at fits ends
    obtain ⟨final, value, -⟩ := ends fits
    exact absurd value (by simp)
  · rw [repaired] at fits ends
    simp only at fits ⊢
    rw [Memory.closed_eq] at fits ⊢
    obtain ⟨final, value, reached⟩ := ends fits
    obtain rfl := Except.ok.inj value
    exact ⟨_, session, rfl, rfl, reached.noted _⟩

end DocMend.Repair
