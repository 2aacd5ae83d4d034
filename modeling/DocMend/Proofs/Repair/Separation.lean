import DocMend.Proofs.Repair.Reached
/-!
Files do not interfere. What becomes of the issues of one file depends on that file and on these
issues only: two runs that agree on a file go on agreeing on it when both repair an issue of the file,
and when one of them repairs an issue of another file. So every file can be followed in a run of its
own issues, and only the order of issues of one file matters.
-/

set_option autoImplicit false
set_option relaxedAutoImplicit false

namespace DocMend.Repair

/-- The issues that name a file, in order. -/
def issuesOf (path : String) (issues : List Issue) : List Issue :=
  issues.filter fun issue => issue.path = path

/-- The results for the issues of a file, in order. -/
def resultsOf (path : String) (results : List Result) : List Result :=
  results.filter fun result => result.issue.path = path

section Filters

variable {path : String} {issue : Issue}

theorem issuesOf_cons_same (here : issue.path = path) (issues : List Issue) :
    issuesOf path (issue :: issues) = issue :: issuesOf path issues :=
  List.filter_cons_of_pos (decide_eq_true here)

theorem issuesOf_cons_other (elsewhere : issue.path ≠ path) (issues : List Issue) :
    issuesOf path (issue :: issues) = issuesOf path issues :=
  List.filter_cons_of_neg (by simpa using elsewhere)

end Filters

/-- Two states that agree on one file: on its text, on whether it can be written, on its shifts and on
the results for it. -/
structure Agree (path : String) (session other : Session) (memory still : Memory) : Prop where
  text : memory.files.lookup path = still.files.lookup path
  readOnly : path ∈ memory.readOnly ↔ path ∈ still.readOnly
  shifts : session.drift.shifts path = other.drift.shifts path
  results : resultsOf path session.results = resultsOf path other.results

namespace Agree

variable {path : String} {session other : Session} {memory still : Memory}

theorem refl (path : String) (session : Session) (memory : Memory) :
    Agree path session session memory memory :=
  ⟨rfl, Iff.rfl, rfl, rfl⟩

theorem symm (agree : Agree path session other memory still) :
    Agree path other session still memory :=
  ⟨agree.text.symm, agree.readOnly.symm, agree.shifts.symm, agree.results.symm⟩

theorem trans {third : Session} {last : Memory} (agree : Agree path session other memory still)
    (more : Agree path other third still last) : Agree path session third memory last :=
  ⟨agree.text.trans more.text, agree.readOnly.trans more.readOnly,
    agree.shifts.trans more.shifts, agree.results.trans more.results⟩

/-- An issue of the file stands on the same line in both states. -/
theorem current_eq {issue : Issue} (agree : Agree issue.path session other memory still) :
    session.current issue = other.current issue := by
  rw [Session.current, Session.current, Drift.resolve, Drift.resolve, agree.shifts]

/-- The same result in both states. -/
theorem results_append (agree : Agree path session other memory still) (result : Result) :
    resultsOf path (session.results ++ [result]) = resultsOf path (other.results ++ [result]) := by
  have before := agree.results
  rw [resultsOf, resultsOf] at before
  rw [resultsOf, resultsOf, List.filter_append, List.filter_append, before]

theorem shifts_record (agree : Agree path session other memory still) (name : String)
    (insertion : Insertion) :
    (session.drift.record name insertion).shifts path =
      (other.drift.record name insertion).shifts path := by
  rw [Drift.shifts_record, Drift.shifts_record, agree.shifts]

end Agree

variable {options : Plan.Options} {issue : Issue} {path : String}
  {session other next : Session} {memory still after : Memory}

/-- Where two states agree on the file of an issue, its repair goes the same way in both. -/
theorem Stepped.alongside (stepped : Stepped options issue session memory (.ok next, after))
    (agree : Agree issue.path session other memory still) :
    ∃ following later, Stepped options issue other still (.ok following, later) ∧
      Agree issue.path next following after later := by
  have text := agree.text
  have current := agree.current_eq
  cases stepped with
  | skipped unfit =>
    exact ⟨_, _, .skipped unfit, text, agree.readOnly, agree.shifts, agree.results_append _⟩
  | unread fit absent =>
    exact ⟨_, _, .unread fit (text ▸ absent), text, agree.readOnly, agree.shifts,
      agree.results_append _⟩
  | unplanned fit present plan =>
    exact ⟨_, _, .unplanned fit (text ▸ present) (current ▸ plan), text, agree.readOnly,
      agree.shifts, agree.results_append _⟩
  | refused fit present plan inside closed =>
    exact ⟨_, _, .refused fit (text ▸ present) (current ▸ plan) inside (agree.readOnly.mp closed),
      text, agree.readOnly, agree.shifts, agree.results_append _⟩
  | applied fit present plan inside opened =>
    have writable : issue.path ∉ still.readOnly := fun closed => opened (agree.readOnly.mpr closed)
    refine ⟨_, _, .applied fit (text ▸ present) (current ▸ plan) inside writable, ?_,
      agree.readOnly, agree.shifts_record _ _, agree.results_append _⟩
    exact (lookup_setEntry_same _ _ _).trans (lookup_setEntry_same _ _ _).symm

/-- The repair of an issue of another file does not touch what two states agree on. -/
theorem Stepped.elsewhere (stepped : Stepped options issue session memory (.ok next, after))
    (away : issue.path ≠ path) (agree : Agree path session other memory still) :
    Agree path next other after still := by
  have results : ∀ result : Result, result.issue = issue →
      resultsOf path (session.results ++ [result]) = resultsOf path other.results := by
    rintro result rfl
    rw [← agree.results, resultsOf, resultsOf, List.filter_append,
      List.filter_cons_of_neg (by simpa using away), List.filter_nil, List.append_nil]
  cases stepped with
  | skipped => exact ⟨agree.text, agree.readOnly, agree.shifts, results _ rfl⟩
  | unread => exact ⟨agree.text, agree.readOnly, agree.shifts, results _ rfl⟩
  | unplanned => exact ⟨agree.text, agree.readOnly, agree.shifts, results _ rfl⟩
  | refused => exact ⟨agree.text, agree.readOnly, agree.shifts, results _ rfl⟩
  | applied =>
    refine ⟨?_, agree.readOnly, ?_, results _ rfl⟩
    · exact (lookup_setEntry_other _ (Ne.symm away) _).trans agree.text
    · rw [Drift.shifts_record, if_neg away, List.append_nil, agree.shifts]

section Runs

/-- The steps of a list, the first of which succeeds. -/
private theorem perform_steps_cons (issues : List Issue)
    (stepped : Stepped options issue session memory (.ok next, after)) :
    memory.perform (steps options session (issue :: issues)) =
      after.perform (steps options next issues) := by
  simp only [steps, List.foldlM_cons, Memory.perform_bind, stepped.perform_eq]

private theorem stepped_of_steps_ok {issues : List Issue} {final : Session} {last : Memory}
    (ends : memory.perform (steps options session (issue :: issues)) = (.ok final, last)) :
    ∃ next after, Stepped options issue session memory (.ok next, after) ∧
      after.perform (steps options next issues) = (.ok final, last) := by
  have case := stepped options issue session memory
  rcases outcome : memory.perform (step options session issue) with ⟨e | next, after⟩
  · simp only [steps, List.foldlM_cons, Memory.perform_bind, outcome] at ends
    exact absurd (congrArg Prod.fst ends) (by simp)
  · rw [outcome] at case
    exact ⟨next, after, case, perform_steps_cons issues case ▸ ends⟩

/-- A run that ends well has, for every file, a run of the issues of that file alone that ends well and
agrees with it there. -/
theorem alone_of_steps {issues : List Issue} {final : Session} {last : Memory}
    (ends : memory.perform (steps options session issues) = (.ok final, last))
    (agree : Agree path session other memory still) :
    ∃ ending rest, still.perform (steps options other (issuesOf path issues)) =
      (.ok ending, rest) ∧ Agree path final ending last rest := by
  induction issues generalizing session other memory still with
  | nil =>
    have same : (Except.ok session, memory) = (Except.ok final, last) := ends
    obtain ⟨rfl, rfl⟩ : session = final ∧ memory = last := by simpa using same
    exact ⟨other, still, rfl, agree⟩
  | cons issue issues ih =>
    obtain ⟨next, after, stepped, more⟩ := stepped_of_steps_ok ends
    by_cases here : issue.path = path
    · subst here
      obtain ⟨following, later, beside, now⟩ := stepped.alongside agree
      rw [issuesOf_cons_same rfl, perform_steps_cons _ beside]
      exact ih more now
    · rw [issuesOf_cons_other here]
      exact ih more (stepped.elsewhere here agree)

/-- A run ends well where the run of the issues of each file alone does. -/
theorem steps_of_alone (session : Session) (memory : Memory) (issues : List Issue)
    (alone : ∀ path, ∃ other still ending rest, Agree path other session still memory ∧
      still.perform (steps options other (issuesOf path issues)) = (.ok ending, rest)) :
    ∃ final last, memory.perform (steps options session issues) = (.ok final, last) := by
  induction issues generalizing session memory with
  | nil => exact ⟨session, memory, rfl⟩
  | cons issue issues ih =>
    obtain ⟨other, still, ending, rest, agree, ends⟩ := alone issue.path
    rw [issuesOf_cons_same rfl] at ends
    obtain ⟨following, later, beside, more⟩ := stepped_of_steps_ok ends
    obtain ⟨next, after, stepped, now⟩ := beside.alongside agree
    rw [perform_steps_cons issues stepped]
    refine ih next after fun path => ?_
    by_cases here : issue.path = path
    · subst here
      exact ⟨following, later, ending, rest, now, more⟩
    · obtain ⟨other, still, ending, rest, agree, ends⟩ := alone path
      rw [issuesOf_cons_other here] at ends
      exact ⟨other, still, ending, rest, (stepped.elsewhere here agree.symm).symm, ends⟩

/-- A run ends with one result for each of its issues, in their order. -/
theorem issues_of_steps {issues : List Issue} {final : Session} {last : Memory}
    (ends : memory.perform (steps options session issues) = (.ok final, last)) :
    final.results.map Result.issue = session.results.map Result.issue ++ issues := by
  induction issues generalizing session memory with
  | nil =>
    have same : (Except.ok session, memory) = (Except.ok final, last) := ends
    obtain ⟨rfl, rfl⟩ : session = final ∧ memory = last := by simpa using same
    rw [List.append_nil]
  | cons issue issues ih =>
    obtain ⟨next, after, stepped, more⟩ := stepped_of_steps_ok ends
    obtain ⟨shape, outcome, results⟩ := stepped.results_eq
    rw [ih more, results, List.map_append, List.append_assoc]
    rfl

/-- All results of a run over one file are results for that file. -/
theorem resultsOf_of_steps {issues : List Issue} {final : Session} {last : Memory}
    (ends : memory.perform (steps options {} (issuesOf path issues)) = (.ok final, last)) :
    resultsOf path final.results = final.results := by
  refine List.filter_eq_self.mpr fun result mem => ?_
  have listed : result.issue ∈ issuesOf path issues := by
    have all : final.results.map Result.issue = issuesOf path issues := issues_of_steps ends
    exact all ▸ List.mem_map_of_mem mem
  exact (List.mem_filter.mp listed).2

end Runs

end DocMend.Repair
