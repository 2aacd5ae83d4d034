import DocMend.Proofs.Json.Keyed
import DocMend.Proofs.Repair.Reached
/-!
What a run leaves alone. No file comes or goes, a file is only touched by an applied result, and the
raw lines of every file are still there in their order, whatever text was put between them.
-/

set_option autoImplicit false
set_option relaxedAutoImplicit false

namespace DocMend

/-- Writing an insertion and reading the file again loses no line and breaks none, even where the
inserted text has line feeds of its own. -/
theorem Source.sublist_splice (text : String) {index : Nat}
    (inside : index < (ofText text).lines.length) (added : List String) :
    (ofText text).lines.Sublist (ofText ((ofText text).splice index added).text).lines := by
  have joined := List.take_append_drop index (ofText text).lines
  rw [lines_ofText_splice (cut_ofText text) inside added]
  calc (ofText text).lines
      = (ofText text).lines.take index ++ (ofText text).lines.drop index := joined.symm
    List.Sublist _ (_ ++ _ ++ _) :=
      (List.sublist_append_left _ _).append (List.Sublist.refl _)

namespace Repair

/-- What repairs keep of the files that they started from. -/
structure Kept (start : List (String × String)) (results : List Result)
    (files : List (String × String)) : Prop where
  paths : files.map Prod.fst = start.map Prod.fst
  untouched : ∀ path, (∀ result ∈ results, result.issue.path = path →
    result.outcome.isApplied = false) → files.lookup path = start.lookup path
  lines : ∀ path before, start.lookup path = some before →
    ∃ after, files.lookup path = some after ∧
      (Source.ofText before).lines.Sublist (Source.ofText after).lines

namespace Kept

variable {start files : List (String × String)} {results : List Result}

theorem refl (files : List (String × String)) : Kept files [] files where
  paths := rfl
  untouched := fun _ _ => rfl
  lines := fun _ before present => ⟨before, present, List.Sublist.refl _⟩

/-- A result that comes with no write. -/
theorem unwritten (kept : Kept start results files) (result : Result) :
    Kept start (results ++ [result]) files where
  paths := kept.paths
  untouched := fun path none => kept.untouched path fun other mem =>
    none other (List.mem_append_left _ mem)
  lines := kept.lines

/-- An applied result, and the write that it stands for. -/
theorem written (kept : Kept start results files) (result : Result) {text : String}
    (present : files.lookup result.issue.path = some text)
    (applied : result.outcome.isApplied = true) {index : Nat}
    (inside : index < (Source.ofText text).lines.length) (added : List String) :
    Kept start (results ++ [result])
      (setEntry files result.issue.path ((Source.ofText text).splice index added).text) where
  paths := (map_fst_setEntry (List.mem_map_of_mem (mem_of_lookup present)) _).trans kept.paths
  untouched := by
    intro path none
    have other : path ≠ result.issue.path := by
      intro same
      have last := none result (List.mem_append_right _ List.mem_cons_self) same.symm
      rw [applied] at last
      exact absurd last (by decide)
    rw [lookup_setEntry_other _ other]
    exact kept.untouched path fun earlier mem => none earlier (List.mem_append_left _ mem)
  lines := by
    intro path before found
    obtain ⟨after, now, sub⟩ := kept.lines path before found
    by_cases same : path = result.issue.path
    · subst same
      obtain rfl : after = text := Option.some.inj (now.symm.trans present)
      exact ⟨_, lookup_setEntry_same _ _ _, sub.trans (Source.sublist_splice after inside _)⟩
    · exact ⟨after, (lookup_setEntry_other _ same _).trans now, sub⟩

end Kept

variable {options : Plan.Options} {start : List (String × String)}

/-- One repair keeps what is kept. -/
theorem Stepped.kept {issue : Issue} {session next : Session} {memory after : Memory}
    (stepped : Stepped options issue session memory (.ok next, after)) (fits : memory.Fits)
    (kept : Kept start session.results memory.files) : Kept start next.results after.files := by
  cases stepped with
  | skipped => exact kept.unwritten _
  | unread => exact kept.unwritten _
  | unplanned => exact kept.unwritten _
  | refused => exact kept.unwritten _
  | @applied remedy text insertion patched fit present plan inserted opened =>
    obtain ⟨index, inside, -, place⟩ := insert_plan fits present plan
    obtain rfl : (Source.ofText text).splice index insertion.lines = patched :=
      Except.ok.inj (place.symm.trans inserted)
    have applied : (Outcome.applied insertion).isApplied = true := rfl
    exact kept.written ⟨issue, some remedy.shape, .applied insertion⟩ present applied inside
      insertion.lines

/-- Every state of a run keeps the files that the run started from. -/
theorem Reached.kept {first memory : Memory} {done : List Issue} {session : Session}
    (reached : Reached options first done session memory) (fits : memory.Fits) :
    Kept first.files session.results memory.files := by
  induction reached with
  | start => exact .refl first.files
  | step reached stepped ih =>
    have earlier := stepped.grows.fits fits
    exact stepped.kept earlier (ih earlier)
  | noted reached trace ih => exact ih fits

/-- A run ends; no file comes or goes, files without an applied result have their text, and the raw
lines of all others are among the raw lines of their new text, in order. -/
theorem run_keeps_lines (options : RunOptions) (memory : Memory)
    (fits : (memory.perform (run options)).2.Fits) :
    ∃ tally, (memory.perform (run options)).1 = .ok tally ∧
      (memory.perform (run options)).2.files.map Prod.fst = memory.files.map Prod.fst ∧
      (∀ path, (∀ result ∈ tally.results, result.issue.path = path →
        result.outcome.isApplied = false) →
        (memory.perform (run options)).2.files.lookup path = memory.files.lookup path) ∧
      (∀ path before, memory.files.lookup path = some before →
        ∃ after, (memory.perform (run options)).2.files.lookup path = some after ∧
          (Source.ofText before).lines.Sublist (Source.ofText after).lines) := by
  obtain ⟨tally, session, value, results, reached⟩ := run_reached fits
  obtain ⟨paths, untouched, lines⟩ := reached.kept fits
  rw [← results] at untouched
  exact ⟨tally, value, paths, untouched, lines⟩

/-- A phrase of two lines in a file with both kinds of line ends and an open last line, next to a
file that cannot be written. -/
theorem run_keeps_lines_mixed :
    let options : RunOptions := { phrases := [("T", "the kind\nof things")] }
    let memory : Memory :=
      { files := [("A", "/** x\r\n */\nclass A<T>"), ("B", "*/\nint f()")]
        readOnly := ["B"]
        passes := [.ok "A:3: warning: no @param for <T>\nB:2: warning: no @return\n"] }
    (memory.perform (run options)).2.Fits ∧
      ∃ tally after, (memory.perform (run options)).1 = .ok tally ∧
        (memory.perform (run options)).2.files.lookup "A" = some after ∧
        (Source.ofText "/** x\r\n */\nclass A<T>").lines.Sublist (Source.ofText after).lines := by
  intro options memory
  have fits : (memory.perform (run options)).2.Fits := Memory.fits_of_entries (by decide +kernel)
  obtain ⟨tally, value, -, -, lines⟩ := run_keeps_lines options memory fits
  obtain ⟨after, present, sub⟩ := lines "A" _ rfl
  exact ⟨fits, tally, after, value, present, sub⟩

end Repair

end DocMend
