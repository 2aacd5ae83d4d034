import DocMend.Proofs.Repair.Course
import DocMend.Proofs.Repair.Separation
import DocMend.Proofs.Repair.Tracking
/-!
A run accounts for every issue and for every access. Each issue of the first look gives one result;
reads and writes on the trace are those of the results, in their order; files grow by the lines of
their applied results; and the second look gives the number of issues that remain.
-/

set_option autoImplicit false
set_option relaxedAutoImplicit false

namespace DocMend.Repair

/-- The paths of results that were not passed over, in order. -/
def attemptedPaths (results : List Result) : List String :=
  (results.filter fun result => !result.outcome.isSkipped).map fun result => result.issue.path

/-- The paths of applied results, in order. -/
def appliedPaths (results : List Result) : List String :=
  (results.filter fun result => result.outcome.isApplied).map fun result => result.issue.path

/-- How many lines an outcome put in. -/
def Outcome.lineCount : Outcome → Nat
  | .applied insertion => insertion.lines.length
  | _ => 0

/-- How many lines results put into a file. -/
def linesPut (path : String) (results : List Result) : Nat :=
  ((resultsOf path results).map fun result => result.outcome.lineCount).sum

theorem attemptedPaths_append (results : List Result) (result : Result) :
    attemptedPaths (results ++ [result]) = attemptedPaths results ++
      if result.outcome.isSkipped then [] else [result.issue.path] := by
  cases skipped : result.outcome.isSkipped <;> simp [attemptedPaths, skipped]

theorem appliedPaths_append (results : List Result) (result : Result) :
    appliedPaths (results ++ [result]) = appliedPaths results ++
      if result.outcome.isApplied then [result.issue.path] else [] := by
  cases applied : result.outcome.isApplied <;> simp [appliedPaths, applied]

theorem linesPut_append (path : String) (results : List Result) (result : Result) :
    linesPut path (results ++ [result]) = linesPut path results +
      if result.issue.path = path then result.outcome.lineCount else 0 := by
  by_cases here : result.issue.path = path <;> simp [linesPut, resultsOf, here]

/-- Every result is an insertion, a failure or an issue passed over. -/
theorem Tally.found_eq (results : List Result) (remaining : Option Number) :
    (ofResults results remaining).found = (ofResults results remaining).applied +
      (ofResults results remaining).failed + (ofResults results remaining).skipped := by
  simp only [ofResults]
  induction results with
  | nil => rfl
  | cons result results ih =>
    rw [List.length_cons, ih]
    cases outcome : result.outcome <;>
      simp [Outcome.isApplied, Outcome.isFailed, Outcome.isSkipped, outcome] <;> omega

variable {options : Plan.Options} {issue : Issue} {session next : Session}
  {first memory after : Memory} {done : List Issue}

/-- What is on record after repairs: one result for each issue, and the accesses of these results after
those that were on record before. -/
structure Accounted (first : Memory) (done : List Issue) (session : Session) (memory : Memory) :
    Prop where
  issues : session.results.map Result.issue = done
  reads : memory.reads = first.reads ++ attemptedPaths session.results
  writes : memory.writes = first.writes ++ appliedPaths session.results
  calls : memory.calls = first.calls
  passes : memory.passes = first.passes

namespace Accounted

theorem refl (memory : Memory) : Accounted memory [] {} memory where
  issues := rfl
  reads := (List.append_nil _).symm
  writes := (List.append_nil _).symm
  calls := rfl
  passes := rfl

/-- One more result, with the accesses that it stands for. -/
theorem append (accounted : Accounted first done session memory) (result : Result)
    (results : next.results = session.results ++ [result])
    (reads : after.reads =
      memory.reads ++ if result.outcome.isSkipped then [] else [result.issue.path])
    (writes : after.writes =
      memory.writes ++ if result.outcome.isApplied then [result.issue.path] else [])
    (calls : after.calls = memory.calls) (passes : after.passes = memory.passes) :
    Accounted first (done ++ [result.issue]) next after where
  issues := by rw [results, List.map_append, accounted.issues, List.map_singleton]
  reads := by rw [reads, accounted.reads, results, attemptedPaths_append, List.append_assoc]
  writes := by rw [writes, accounted.writes, results, appliedPaths_append, List.append_assoc]
  calls := calls.trans accounted.calls
  passes := passes.trans accounted.passes

/-- A report is no access. -/
theorem reported (accounted : Accounted first done session memory) (event : Event) :
    Accounted first done session (memory.note (.reported event)) where
  issues := accounted.issues
  reads := by rw [Memory.reads_note, List.append_nil, accounted.reads]
  writes := by rw [Memory.writes_note, List.append_nil, accounted.writes]
  calls := by rw [Memory.calls_note, Nat.add_zero, accounted.calls]
  passes := accounted.passes

end Accounted

/-- One repair reads its file unless its issue is passed over, and writes it exactly when its insertion
is carried out. -/
theorem Stepped.accounted (stepped : Stepped options issue session memory (.ok next, after))
    (accounted : Accounted first done session memory) :
    Accounted first (done ++ [issue]) next after := by
  -- a failed repair has read the file, and no write of it was accepted
  have failed : ∀ {later : Memory} (shape : Option Shape) (reason : String),
      later.reads = memory.reads ++ [issue.path] → later.writes = memory.writes →
      later.calls = memory.calls → later.passes = memory.passes →
      Accounted first (done ++ [issue]) (session.conclude issue shape (.failed reason)) later := by
    intro later shape reason reads writes calls passes
    exact accounted.append ⟨issue, shape, .failed reason⟩ rfl reads
      (writes.trans (List.append_nil _).symm) calls passes
  cases stepped with
  | skipped =>
    exact accounted.append ⟨issue, none, .skipped noRemedy⟩ rfl (List.append_nil _).symm
      (List.append_nil _).symm rfl rfl
  | unread => exact failed _ _ (by simp) (by simp) (by simp) rfl
  | unplanned => exact failed _ _ (by simp) (by simp) (by simp) rfl
  | refused => exact failed _ _ (by simp) (by simp) (by simp) rfl
  | @applied remedy text insertion patched fit present plan inside opened =>
    -- the text of the file is not on the trace
    have reads : ((memory.note (.read issue.path)).note (.write issue.path true)).reads =
        memory.reads ++ [issue.path] := by simp
    have writes : ((memory.note (.read issue.path)).note (.write issue.path true)).writes =
        memory.writes ++ [issue.path] := by simp
    have calls : ((memory.note (.read issue.path)).note (.write issue.path true)).calls =
        memory.calls := by simp
    exact accounted.append ⟨issue, some remedy.shape, .applied insertion⟩ rfl reads writes calls rfl

/-- The repairs of a run, each with its report, are accounted for. -/
theorem Accounted.run {issues : List Issue} {final : Session} {last : Memory}
    (ends : memory.perform (issues.foldlM (reportedStep options) session) = (.ok final, last))
    (accounted : Accounted first done session memory) :
    Accounted first (done ++ issues) final last := by
  induction issues generalizing done session memory with
  | nil =>
    have same : (Except.ok session, memory) = (Except.ok final, last) := ends
    obtain ⟨rfl, rfl⟩ : session = final ∧ memory = last := by simpa using same
    rwa [List.append_nil]
  | cons issue issues ih =>
    obtain ⟨next, after, shape, outcome, stepped, -, more⟩ := reported_cons ends
    have now := ih more ((stepped.accounted accounted).reported _)
    rwa [List.append_assoc] at now

/-- Every file has grown by the lines of its applied results. -/
theorem Reached.size_eq (reached : Reached options first done session memory)
    (fits : memory.Fits) (feedless : ∀ entry ∈ options.phrases, '\n' ∉ entry.2.toList)
    (messages : ∀ issue ∈ done, '\n' ∉ issue.message.toList) {path before : String}
    (present : first.files.lookup path = some before) :
    ∃ text, memory.files.lookup path = some text ∧
      (Source.ofText text).size = (Source.ofText before).size + linesPut path session.results := by
  induction reached with
  | start => exact ⟨before, present, rfl⟩
  | noted reached trace ih => exact ih fits messages
  | @step done issue session next memory later reached stepped ih =>
    have earlier : memory.Fits := stepped.grows.fits fits
    obtain ⟨text, now, size⟩ := ih earlier fun other mem =>
      messages other (List.mem_append_left _ mem)
    -- a result without an insertion puts no line into any file
    have still : ∀ result : Result, result.outcome.lineCount = 0 →
        (Source.ofText text).size =
          (Source.ofText before).size + linesPut path (session.results ++ [result]) := by
      intro result none
      rw [linesPut_append, none, ite_self, Nat.add_zero, size]
    cases stepped with
    | skipped => exact ⟨text, now, still _ rfl⟩
    | unread => exact ⟨text, now, still _ rfl⟩
    | unplanned => exact ⟨text, now, still _ rfl⟩
    | refused => exact ⟨text, now, still _ rfl⟩
    | @applied remedy found insertion patched fit there plan inserted opened =>
      by_cases same : issue.path = path
      · subst same
        obtain rfl : text = found := Option.some.inj (now.symm.trans there)
        have message := messages issue (List.mem_append_right _ List.mem_cons_self)
        obtain ⟨index, inside, -, reread⟩ :=
          ofText_inserted earlier feedless fit message there plan inserted
        refine ⟨patched.text, lookup_setEntry_same _ _ _, ?_⟩
        have grown := Source.size_splice (Source.ofText text) inside insertion.lines
        change _ = _ + linesPut issue.path (session.results ++ [_])
        rw [linesPut_append, if_pos rfl, ← Nat.add_assoc, ← size, reread]
        exact grown
      · refine ⟨text, (lookup_setEntry_other _ (Ne.symm same) _).trans now, ?_⟩
        change _ = _ + linesPut path (session.results ++ [_])
        rw [linesPut_append, if_neg same, Nat.add_zero, size]

end DocMend.Repair
