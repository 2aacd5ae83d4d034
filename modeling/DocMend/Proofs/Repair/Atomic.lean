import DocMend.Proofs.Repair.Reached
import DocMend.Proofs.Source.Scan
import Mathlib.Control.Monad.Basic
/-!
One repair as a whole. From every session and every memory it ends with one more result, and it either
puts one planned insertion into one file and on record, or leaves all files and the whole record alone.
-/

set_option autoImplicit false
set_option relaxedAutoImplicit false

namespace DocMend.Repair

variable {options : Plan.Options} {issue : Issue} {session next : Session} {memory after : Memory}
  {remedy : Remedy}

/-- When an issue is mended by an insertion: its message has a remedy, its file is there and can be
written, and the insertion is planned for the lines of the file. -/
def Mends (options : Plan.Options) (issue : Issue) (session : Session) (memory : Memory)
    (insertion : Insertion) : Prop :=
  issue.path ∉ memory.readOnly ∧ ∃ remedy text, Remedy.forMessage? issue.message = some remedy ∧
    memory.files.lookup issue.path = some text ∧
    Plan.ofRemedy remedy (session.current issue) (Source.ofText text) options = .ok insertion

/-- One file has the text of its lines with an insertion between them, and the insertion is on record for
that file. Nothing else is different. -/
structure Inserted (path : String) (insertion : Insertion) (session next : Session)
    (memory after : Memory) : Prop where
  text : ∃ before patched, memory.files.lookup path = some before ∧
    (Source.ofText before).insert insertion = .ok patched ∧
    after.files.lookup path = some patched.text
  others : ∀ other, other ≠ path → after.files.lookup other = memory.files.lookup other
  shifts : next.drift.shifts path =
    session.drift.shifts path ++ [⟨insertion.index, insertion.lines.length⟩]
  otherShifts : ∀ other, other ≠ path → next.drift.shifts other = session.drift.shifts other

/-- What an outcome of a repair means: one more result, for the issue as it was reported, and either an
insertion with all that belongs to it or no change of any file and of the record. -/
structure Concluded (options : Plan.Options) (issue : Issue) (outcome : Outcome)
    (session next : Session) (memory after : Memory) : Prop where
  results : next.results =
    session.results ++ [⟨issue, Remedy.shapeOf? issue.message, outcome⟩]
  files : outcome.isApplied = false → after.files = memory.files
  drift : outcome.isApplied = false → next.drift = session.drift
  inserted : ∀ insertion, outcome = .applied insertion →
    Inserted issue.path insertion session next memory after
  skipped : outcome.isSkipped = true ↔ Remedy.forMessage? issue.message = none
  applied : ∀ insertion, outcome = .applied insertion ↔
    Mends options issue session memory insertion

/-- A remedy that cannot be carried out is a failure that changes nothing. -/
theorem Concluded.failed (fit : Remedy.forMessage? issue.message = some remedy) (reason : String)
    (files : after.files = memory.files)
    (never : ∀ insertion, ¬Mends options issue session memory insertion) :
    Concluded options issue (.failed reason) session
      (session.conclude issue (some remedy.shape) (.failed reason)) memory after where
  results := by
    rw [Remedy.shapeOf?, fit]
    rfl
  files := fun _ => files
  drift := fun _ => rfl
  inserted := fun _ applied => absurd applied (by simp)
  skipped := by simp [Outcome.isSkipped, fit]
  applied := fun insertion => iff_of_false (by simp) (never insertion)

/-- The plan for an issue is the only insertion that can mend it. -/
theorem Mends.eq {text : String} {insertion : Insertion}
    (fit : Remedy.forMessage? issue.message = some remedy)
    (present : memory.files.lookup issue.path = some text)
    (mends : Mends options issue session memory insertion) :
    Plan.ofRemedy remedy (session.current issue) (Source.ofText text) options = .ok insertion := by
  obtain ⟨-, other, found, called, there, plan⟩ := mends
  obtain rfl := Option.some.inj (fit.symm.trans called)
  obtain rfl := Option.some.inj (present.symm.trans there)
  exact plan

/-- A repair that ends has an outcome. -/
theorem Stepped.concluded (stepped : Stepped options issue session memory (.ok next, after)) :
    ∃ outcome, Concluded options issue outcome session next memory after := by
  cases stepped with
  | skipped unfit =>
    refine ⟨.skipped noRemedy, ?_, fun _ => rfl, fun _ => rfl, fun _ applied => ?_, ?_, fun _ => ?_⟩
    · rw [Remedy.shapeOf?, unfit]
      rfl
    · exact absurd applied (by simp)
    · simp [Outcome.isSkipped, unfit]
    · refine iff_of_false (by simp) ?_
      rintro ⟨-, remedy, text, fit, -⟩
      exact absurd (unfit.symm.trans fit) (by simp)
  | unread fit absent =>
    refine ⟨_, .failed fit _ rfl ?_⟩
    rintro insertion ⟨-, -, text, -, present, -⟩
    exact absurd (absent.symm.trans present) (by simp)
  | unplanned fit present plan =>
    refine ⟨_, .failed fit _ rfl fun insertion mends => ?_⟩
    exact absurd (plan.symm.trans (mends.eq fit present)) (by simp)
  | refused fit present plan inside closed =>
    exact ⟨_, .failed fit _ rfl fun insertion mends => mends.1 closed⟩
  | @applied remedy text insertion patched fit present plan inside opened =>
    refine ⟨.applied insertion, ?_, fun none => ?_, fun none => ?_, ?_, ?_, fun chosen => ?_⟩
    · rw [Remedy.shapeOf?, fit]
      rfl
    · exact absurd none (by simp [Outcome.isApplied])
    · exact absurd none (by simp [Outcome.isApplied])
    · rintro chosen same
      obtain rfl := Outcome.applied.inj same
      refine ⟨⟨text, patched, present, inside, lookup_setEntry_same _ _ _⟩, ?_, ?_, ?_⟩
      · exact fun other differ => lookup_setEntry_other _ differ _
      · rw [Drift.shifts_record, if_pos rfl]
        rfl
      · intro other differ
        rw [Drift.shifts_record, if_neg (Ne.symm differ), List.append_nil]
    · simp [Outcome.isSkipped, fit]
    · constructor
      · intro same
        obtain rfl := Outcome.applied.inj same
        exact ⟨opened, remedy, text, fit, present, plan⟩
      · intro mends
        rw [Except.ok.inj (plan.symm.trans (mends.eq fit present))]

/-- Where the files fit, a repair ends and has an outcome. -/
theorem exists_concluded (options : Plan.Options) (issue : Issue) (session : Session) (fits : memory.Fits) :
    ∃ outcome next after, memory.perform (step options session issue) = (.ok next, after) ∧
      Concluded options issue outcome session next memory after := by
  have case := stepped options issue session memory
  rcases ends : memory.perform (step options session issue) with ⟨result, after⟩
  rw [ends] at case
  obtain ⟨next, rfl⟩ := case.ok_of_fits fits
  obtain ⟨outcome, concluded⟩ := case.concluded
  exact ⟨outcome, next, after, rfl, concluded⟩

end DocMend.Repair
