import DocMend.Proofs.Diagnostic.Message
import DocMend.Proofs.Drift
import DocMend.Proofs.Plan.Wording
import DocMend.Proofs.Repair.Reached
/-!
Where reported lines are during a run. The shifts of a file carry the number of each of its lines to
the place where that very line stands now, and what lay behind its end to behind its end: shown for
one insertion, and from that for every state that a run comes through.
-/

set_option autoImplicit false
set_option relaxedAutoImplicit false

namespace DocMend

/-- Nothing can be read behind the end of a source. -/
theorem Number.Beyond.contentAt?_eq_none {source : Source} {line : Number}
    (beyond : Number.Beyond source.lines.length line)
    (small : source.lines.length < Number.exactBound) : source.contentAt? (line - 1) = none := by
  have behind := beyond.le_pred (Nat.le_of_lt small)
  simp only [Source.contentAt?]
  split
  · rename_i m whole
    have above := Number.le_of_toNat?_eq_some (Nat.le_of_lt small) behind whole
    rw [List.getElem?_eq_none above]
    rfl
  · rfl

/-- Lines of an older source in a newer one: shifts carry the number of each line to its place in the
newer source, and numbers behind the end to numbers behind the end. -/
structure Tracked (shifts : List Shift) (before after : Source) : Prop where
  zero : shifts.foldl Shift.move (Number.ofNat 0) = Number.ofNat 0
  kept : ∀ i < before.lines.length, ∃ j < after.lines.length,
    shifts.foldl Shift.move (Number.ofNat (i + 1)) = Number.ofNat (j + 1) ∧
      after.lines[j]? = before.lines[i]?
  beyond : ∀ line, before.lines.length < line →
    Number.Beyond after.lines.length (shifts.foldl Shift.move (Number.ofNat line))

namespace Tracked

theorem refl {source : Source} (small : source.lines.length < Number.exactBound) :
    Tracked [] source source where
  zero := rfl
  kept := fun i inside => ⟨i, inside, rfl, rfl⟩
  beyond := fun _ above => Number.beyond_ofNat small above

/-- One more insertion: its shift comes last, and its index counts in the newer source. -/
theorem splice {shifts : List Shift} {before after : Source} (tracked : Tracked shifts before after)
    {index : Nat} (inside : index < after.lines.length) (added : List String)
    (small : after.lines.length + added.length < Number.exactBound) :
    Tracked (shifts ++ [⟨Number.ofNat index, added.length⟩]) before
      (after.splice index added) where
  zero := by
    rw [List.foldl_append, tracked.zero]
    exact Shift.move_zero (by omega)
  kept := by
    intro i old
    obtain ⟨j, place, carried, same⟩ := tracked.kept i old
    have numbered : j + 1 ≤ Number.exactBound := by omega
    have counted : index ≤ Number.exactBound := by omega
    have few : added.length ≤ Number.exactBound := by omega
    have move := Shift.move_ofNat numbered counted few
    rw [List.foldl_append, carried, List.foldl_cons, List.foldl_nil, move,
      Source.size_splice after inside]
    by_cases after_index : index ≤ j
    · refine ⟨j + added.length, by omega, ?_, ?_⟩
      · rw [if_pos after_index, Nat.add_right_comm]
      · rw [Source.getElem?_splice_after after inside added after_index, same]
    · refine ⟨j, by omega, ?_, ?_⟩
      · rw [if_neg after_index]
      · rw [Source.getElem?_splice_before after inside added (by omega), same]
  beyond := by
    intro line above
    rw [List.foldl_append, Source.size_splice after inside]
    exact Shift.move_beyond (tracked.beyond line above) inside small

/-- The content read at a carried line number is that of the line which had the number before. -/
theorem contentAt?_eq {shifts : List Shift} {before after : Source}
    (tracked : Tracked shifts before after) (old : before.lines.length < Number.exactBound)
    (new : after.lines.length < Number.exactBound) (line : Nat) :
    after.contentAt? (shifts.foldl Shift.move (Number.ofNat line) - 1) =
      before.contentAt? (Number.ofNat line - 1) := by
  cases line with
  | zero =>
    have nowhere : (Number.ofInt (-1)).toNat? = none := by decide
    rw [tracked.zero, Number.zero_sub_one]
    simp only [Source.contentAt?, nowhere]
  | succ i =>
    by_cases inside : i < before.lines.length
    · obtain ⟨j, place, carried, same⟩ := tracked.kept i inside
      have here : (Number.ofNat j).toNat? = some j := Number.toNat?_ofNat (by omega)
      have there : (Number.ofNat i).toNat? = some i := Number.toNat?_ofNat (by omega)
      rw [carried, Number.ofNat_succ_sub_one (by omega), Number.ofNat_succ_sub_one (by omega)]
      simp only [Source.contentAt?, here, there, same]
    · have above : before.lines.length < i + 1 := by omega
      rw [(tracked.beyond (i + 1) above).contentAt?_eq_none new,
        (Number.beyond_ofNat old above).contentAt?_eq_none old]

end Tracked

namespace Repair

/-- Planned lines have no line feeds where the message and the phrases have none. -/
theorem planned_feedless {options : Plan.Options}
    (feedless : ∀ entry ∈ options.phrases, '\n' ∉ entry.2.toList) {issue current : Issue}
    {remedy : Remedy} (fit : Remedy.forMessage? issue.message = some remedy)
    (message : '\n' ∉ issue.message.toList) {source : Source} {insertion : Insertion}
    (plan : Plan.ofRemedy remedy current source options = .ok insertion) :
    ∀ line ∈ insertion.lines, '\n' ∉ line.toList := by
  refine Plan.ofRemedy_unbroken (Or.inl rfl) plan fun name parameter => ⟨?_, ?_⟩
  · subst parameter
    exact fun feed => message (Remedy.mem_of_mem_name fit feed)
  · exact Plan.LineEnd.not_mem_ofParameter (Or.inl rfl) feedless name

/-- An insertion that was planned and carried out, when the file is read again: the planned lines stand
before a line of the file, each as a line of its own. -/
theorem ofText_inserted {options : Plan.Options} {memory : Memory} (fits : memory.Fits)
    (feedless : ∀ entry ∈ options.phrases, '\n' ∉ entry.2.toList) {issue current : Issue}
    {remedy : Remedy} (fit : Remedy.forMessage? issue.message = some remedy)
    (message : '\n' ∉ issue.message.toList) {path text : String}
    (present : memory.files.lookup path = some text) {insertion : Insertion} {patched : Source}
    (plan : Plan.ofRemedy remedy current (Source.ofText text) options = .ok insertion)
    (inserted : (Source.ofText text).insert insertion = .ok patched) :
    ∃ index < (Source.ofText text).lines.length, insertion.index = Number.ofNat index ∧
      Source.ofText patched.text = (Source.ofText text).splice index insertion.lines := by
  obtain ⟨index, inside, place, inserted_at⟩ := insert_plan fits present plan
  obtain rfl : (Source.ofText text).splice index insertion.lines = patched :=
    Except.ok.inj (inserted_at.symm.trans inserted)
  have unbroken := planned_feedless feedless fit message plan
  exact ⟨index, inside, place, ((Source.cut_ofText text).splice inside unbroken).ofText_text⟩

/-- Every state of a run keeps track of every file. -/
theorem Reached.tracked {options : Plan.Options} {start memory : Memory} {done : List Issue}
    {session : Session} (reached : Reached options start done session memory)
    (fits : memory.Fits) (feedless : ∀ entry ∈ options.phrases, '\n' ∉ entry.2.toList)
    (messages : ∀ issue ∈ done, '\n' ∉ issue.message.toList) {path before : String}
    (present : start.files.lookup path = some before) :
    ∃ after, memory.files.lookup path = some after ∧
      Tracked (session.drift.shifts path) (Source.ofText before) (Source.ofText after) := by
  induction reached with
  | start =>
    have small := Nat.lt_of_le_of_lt (Source.size_ofText_le before) (fits path before present)
    exact ⟨before, present, .refl small⟩
  | noted reached trace ih => exact ih fits messages
  | @step done issue session next memory later reached stepped ih =>
    have earlier : memory.Fits := stepped.grows.fits fits
    obtain ⟨after, now, tracked⟩ := ih earlier fun other mem =>
      messages other (List.mem_append_left _ mem)
    cases stepped with
    | skipped => exact ⟨after, now, tracked⟩
    | unread => exact ⟨after, now, tracked⟩
    | unplanned => exact ⟨after, now, tracked⟩
    | refused => exact ⟨after, now, tracked⟩
    | @applied remedy text insertion patched fit found plan inserted opened =>
      by_cases same : issue.path = path
      · subst same
        obtain rfl : after = text := Option.some.inj (now.symm.trans found)
        have message := messages issue (List.mem_append_right _ List.mem_cons_self)
        obtain ⟨index, inside, place, reread⟩ :=
          ofText_inserted earlier feedless fit message found plan inserted
        have written := lookup_setEntry_same memory.files issue.path patched.text
        have small := Nat.lt_of_le_of_lt (Source.size_ofText_le _) (fits issue.path _ written)
        rw [reread, Source.size_splice _ inside] at small
        refine ⟨_, written, ?_⟩
        rw [reread, Drift.shifts_record, if_pos rfl, Insertion.shift, place]
        exact tracked.splice inside insertion.lines small
      · refine ⟨after, (lookup_setEntry_other _ (Ne.symm same) _).trans now, ?_⟩
        rw [Drift.shifts_record, if_neg same, List.append_nil]
        exact tracked

/-- In every state of a run each line of a file is found at the number that its old number resolves
to, numbers behind the end resolve to numbers behind the end, and the declaration read for an issue
is the one that the linter reported. -/
theorem reported_lines_resolve (dedupe : Bool) (output : String) (options : Plan.Options)
    (feedless : ∀ entry ∈ options.phrases, '\n' ∉ entry.2.toList) (memory : Memory)
    (issues : List Issue) (first : issues <+: Diagnostic.collect dedupe output)
    (fits : (memory.perform (steps options {} issues)).2.Fits) :
    ∃ session, (memory.perform (steps options {} issues)).1 = .ok session ∧
      ∀ path before, memory.files.lookup path = some before →
        ∃ after, (memory.perform (steps options {} issues)).2.files.lookup path = some after ∧
          (∀ line, 1 ≤ line → line ≤ (Source.ofText before).size →
            ∃ now, 1 ≤ now ∧ now ≤ (Source.ofText after).size ∧
              session.drift.resolve path (Number.ofNat line) = Number.ofNat now ∧
              (Source.ofText after).lines[now - 1]? = (Source.ofText before).lines[line - 1]?) ∧
          (∀ line, (Source.ofText before).size < line →
            Number.ofNat (Source.ofText after).size <
              session.drift.resolve path (Number.ofNat line)) ∧
          (∀ issue ∈ Diagnostic.collect dedupe output, issue.path = path →
            (Source.ofText after).contentAt? ((session.current issue).line - 1) =
              (Source.ofText before).contentAt? (issue.line - 1)) := by
  obtain ⟨session, value, reached⟩ := steps_reached fits
  refine ⟨session, value, fun path before present => ?_⟩
  have messages : ∀ issue ∈ issues, '\n' ∉ issue.message.toList := fun issue mem =>
    (Diagnostic.collect_wellFormed (first.subset mem)).2
  obtain ⟨after, now, tracked⟩ := reached.tracked fits feedless messages present
  have new := Nat.lt_of_le_of_lt (Source.size_ofText_le after) (fits path after now)
  have old := Nat.lt_of_le_of_lt (Source.size_ofText_le before)
    (reached.grows.fits fits path before present)
  refine ⟨after, now, fun line positive inside => ?_, fun line above => ?_, ?_⟩
  · obtain ⟨i, rfl⟩ : ∃ i, line = i + 1 := ⟨line - 1, by omega⟩
    obtain ⟨j, place, carried, same⟩ := tracked.kept i inside
    exact ⟨j + 1, by omega, place, carried, same⟩
  · exact (tracked.beyond line above).lt (Nat.le_of_lt new)
  · intro issue mem same
    obtain ⟨line, number⟩ := (Diagnostic.collect_wellFormed mem).1
    have content := tracked.contentAt?_eq old new line
    rw [Session.current, number, same]
    exact content

/-- Two tags in a file with both kinds of line ends, the upper one first. -/
theorem reported_lines_resolve_mixed :
    let output := "A:3: warning: no @param for <T>\nA:5: warning: no @return\n"
    let issues := Diagnostic.collect true output
    let memory : Memory := { files := [("A", "/** x\r\n */\r\nclass A<T>\n/** y */\nint f()")] }
    let options : Plan.Options := { phrases := [("T", "the kind")] }
    (∀ entry ∈ options.phrases, '\n' ∉ entry.2.toList) ∧
      (memory.perform (steps options {} issues)).2.Fits ∧
      ∃ session after now, (memory.perform (steps options {} issues)).1 = .ok session ∧
        (memory.perform (steps options {} issues)).2.files.lookup "A" = some after ∧
        session.drift.resolve "A" (Number.ofNat 5) = Number.ofNat now ∧
        (Source.ofText after).lines[now - 1]? = some "int f()" := by
  intro output issues memory options
  have feedless : ∀ entry ∈ options.phrases, '\n' ∉ entry.2.toList := by decide
  have fits : (memory.perform (steps options {} issues)).2.Fits :=
    Memory.fits_of_entries (by decide +kernel)
  obtain ⟨session, value, tracked⟩ := reported_lines_resolve true output options feedless memory
    issues (List.prefix_refl _) fits
  obtain ⟨after, present, kept, -, -⟩ := tracked "A" _ rfl
  obtain ⟨now, -, -, place, same⟩ := kept 5 (by decide) (by decide +kernel)
  have last : (Source.ofText "/** x\r\n */\r\nclass A<T>\n/** y */\nint f()").lines[5 - 1]? =
      some "int f()" := by decide +kernel
  exact ⟨feedless, fits, session, after, now, value, present, place, same.trans last⟩

end Repair

end DocMend
