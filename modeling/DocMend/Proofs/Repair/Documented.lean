import DocMend.Proofs.Drift
import DocMend.Proofs.Plan.Block
import DocMend.Proofs.Repair.Atomic
import DocMend.Proofs.Repair.Separation
import DocMend.Proofs.Source.LineEnd
/-!
Tags for methods that have just got a comment. The line of such a method is carried past the new block, so
the first line that a search above it looks at is the end of that block. Whatever happens to other files in
between, the tag goes into the new block and not into an older one further up.
-/

set_option autoImplicit false
set_option relaxedAutoImplicit false

namespace DocMend

/-- A declaration in a file: the raw lines above and below it, and the terminator of lines that are put in
right before it. -/
structure Site where
  above : List String
  declaration : String
  below : List String
  terminator : String
  ends : terminator = "\n" ∨ terminator = "\r\n"

/-- The file with the lines of a comment right above the declaration. -/
def Site.source (site : Site) (comment : List String) : Source :=
  ⟨site.above ++ comment.map (· ++ site.terminator) ++ site.declaration :: site.below⟩

private theorem exists_parts {lines : List String} {index : Nat} {raw : String}
    (there : lines[index]? = some raw) :
    ∃ above below, above.length = index ∧ lines = above ++ raw :: below := by
  obtain ⟨inside, rfl⟩ := List.getElem?_eq_some_iff.mp there
  refine ⟨lines.take index, lines.drop (index + 1), List.length_take_of_le (Nat.le_of_lt inside), ?_⟩
  rw [List.getElem_cons_drop, List.take_append_drop]

namespace Repair

/-- A file that is there and has these raw lines. -/
def Memory.Holds (memory : Memory) (path : String) (source : Source) : Prop :=
  ∃ text, memory.files.lookup path = some text ∧ Source.ofText text = source

/-- The repair of an issue ends with an insertion. -/
def Applies (options : Plan.Options) (issue : Issue) (insertion : Insertion) (session next : Session)
    (memory after : Memory) : Prop :=
  memory.perform (step options session issue) = (.ok next, after) ∧
    ∃ shape, next.results = session.results ++ [⟨issue, shape, .applied insertion⟩]

variable {options : Plan.Options} {issue : Issue} {insertion : Insertion} {session next : Session}
  {memory after : Memory} {path message : String} {line : Nat}

theorem Applies.stepped (applies : Applies options issue insertion session next memory after) :
    Stepped options issue session memory (.ok next, after) :=
  applies.1 ▸ Repair.stepped options issue session memory

theorem Applies.concluded (applies : Applies options issue insertion session next memory after) :
    Concluded options issue (.applied insertion) session next memory after := by
  obtain ⟨outcome, concluded⟩ := applies.stepped.concluded
  obtain ⟨shape, results⟩ := applies.2
  have last := List.append_cancel_left (concluded.results.symm.trans results)
  obtain rfl : outcome = .applied insertion := congrArg Result.outcome (List.singleton_inj.mp last)
  exact concluded

/-- An insertion that mends an issue is applied. -/
theorem Mends.applies (mends : Mends options issue session memory insertion) (fits : memory.Fits) :
    ∃ next after, Applies options issue insertion session next memory after := by
  obtain ⟨outcome, next, after, ends, concluded⟩ := exists_concluded options issue session fits
  obtain rfl := (concluded.applied insertion).mpr mends
  exact ⟨next, after, ends, _, concluded.results⟩

/-- What an applied insertion leaves in its file. -/
theorem Applies.holds {above below added : List String} {raw : String}
    (applies : Applies options issue ⟨Number.ofNat above.length, added⟩ session next memory after)
    (holds : memory.Holds issue.path ⟨above ++ raw :: below⟩)
    (small : (above ++ raw :: below).length ≤ Number.exactBound)
    (feedless : ∀ line ∈ added, '\n' ∉ line.toList) :
    after.Holds issue.path ⟨above ++
      added.map (· ++ Source.terminatorFor ⟨above ++ raw :: below⟩ above.length) ++ raw :: below⟩ := by
  obtain ⟨text, present, read⟩ := holds
  obtain ⟨before, patched, there, put, written⟩ := (applies.concluded.inserted _ rfl).text
  obtain rfl := Option.some.inj (present.symm.trans there)
  have cut := Source.cut_ofText text
  rw [read] at put cut
  have inside : above.length < (above ++ raw :: below).length := by simp
  obtain rfl := Except.ok.inj ((Source.insert_ofNat inside small added).symm.trans put)
  exact ⟨_, written, Source.ofText_splice_between cut rfl feedless⟩

/-- A block that was put in for an issue stands right above the declaration that the line of the issue
resolves to, before and after. -/
theorem Applies.block (uncommented : Remedy.forMessage? message = some .commentBlock)
    (applies : Applies options ⟨path, Number.ofNat line, message⟩ insertion session next memory after)
    (fits : ∀ text, after.files.lookup path = some text → text.length < Number.exactBound) :
    ∃ (site : Site) (indent opening summary ending : String),
      Line.Indents (Line.content site.declaration) indent ∧
      Plan.SelfContained indent opening summary ending ∧ Line.indent ending = Line.indent summary ∧
      session.drift.resolve path (Number.ofNat line) = Number.ofNat (site.above.length + 1) ∧
      insertion = ⟨Number.ofNat site.above.length, [opening, summary, ending]⟩ ∧
      memory.Holds path (site.source []) ∧
      after.Holds path (site.source [opening, summary, ending]) ∧
      next.drift.resolve path (Number.ofNat line) = Number.ofNat (site.above.length + 4) := by
  have concluded := applies.concluded
  obtain ⟨-, remedy, text, fit, present, plan⟩ := (concluded.applied insertion).mp rfl
  obtain rfl := Option.some.inj (uncommented.symm.trans fit)
  obtain ⟨longer, written, le⟩ := applies.stepped.grows path text present
  have small : (Source.ofText text).lines.length < Number.exactBound :=
    Nat.lt_of_le_of_lt (Nat.le_trans (Source.size_ofText_le text) le) (fits longer written)
  obtain ⟨index, raw, name, found, there, called, rfl⟩ := Plan.comment_ok plan
  obtain ⟨above, below, rfl, parts⟩ := exists_parts there
  obtain ⟨place, resolved⟩ := Shift.exists_foldl_move (session.drift.shifts path) line
  have found : (Source.ofText text).declaration? (Number.ofNat place) = some above.length :=
    resolved ▸ found
  obtain rfl := Source.eq_succ_of_declaration? small found
  rw [parts, List.length_append, List.length_cons] at small
  have unbroken := Plan.selfContained_block (Line.content raw) (Phrase.methodName?_word called)
  have read : memory.Holds path ⟨above ++ raw :: below⟩ := ⟨text, present, parts ▸ rfl⟩
  refine ⟨⟨above, raw, below, _, Source.terminatorFor_cases ⟨above ++ raw :: below⟩ above.length⟩, _, _, _, _,
    Line.indents_indent _, unbroken, ?_, resolved, rfl, ?_, ?_, ?_⟩
  · exact Plan.indent_block _ _
  · rwa [Site.source, List.map_nil, List.append_nil]
  · exact applies.holds read (by simp; omega) fun line mem => (unbroken.unbroken line mem).1
  · have shifts := (concluded.inserted _ rfl).shifts
    have move := Shift.move_ofNat (by omega : above.length + 1 ≤ Number.exactBound)
      (by omega : above.length ≤ Number.exactBound) (by decide : 3 ≤ Number.exactBound)
    rw [if_pos (Nat.le_refl _)] at move
    rw [Drift.resolve, shifts, List.foldl_append, resolved]
    exact move

/-- The states that repairs of other files lead to, whatever is noted down in between. -/
inductive Elsewhere (options : Plan.Options) (path : String) (session : Session) (memory : Memory) :
    Session → Memory → Prop
  | refl : Elsewhere options path session memory session memory
  | step {issue : Issue} {passed next : Session} {still after : Memory}
      (earlier : Elsewhere options path session memory passed still) (away : issue.path ≠ path)
      (stepped : Stepped options issue passed still (.ok next, after)) :
      Elsewhere options path session memory next after
  | noted {passed : Session} {still : Memory}
      (earlier : Elsewhere options path session memory passed still) (trace : List Activity) :
      Elsewhere options path session memory passed { still with trace := trace }

theorem Elsewhere.agree (elsewhere : Elsewhere options path session memory next after) :
    Agree path next session after memory := by
  induction elsewhere with
  | refl => exact .refl path session memory
  | step earlier away stepped ih => exact stepped.elsewhere away ih
  | noted earlier trace ih => exact ⟨ih.text, ih.readOnly, ih.shifts, ih.results⟩

section Tag

variable {p r : Nat} {remedy : Remedy}
  (parameter : options.windows.parameter.toNat? = some (p + 1))
  (result : options.windows.result.toNat? = some (r + 1))
  (feedless : ∀ entry ∈ options.phrases, '\n' ∉ entry.2.toList)
  (untagged : Remedy.forMessage? message = some remedy) (tagging : remedy ≠ .commentBlock)
  (named : ∀ name, remedy = .parameterTag name → '\n' ∉ name.toList)

include parameter result feedless untagged tagging named

/-- A tag for a declaration with the end of a comment right above it goes right before that end. -/
theorem exists_applies_tag (fits : memory.Fits) (opened : path ∉ memory.readOnly)
    {above below : List String} {ending declaration terminator : String}
    (holds : memory.Holds path ⟨above ++ (ending ++ terminator) :: declaration :: below⟩)
    (ends : terminator = "\n" ∨ terminator = "\r\n") (closes : Line.Closes ending.toList)
    (unbroken : '\n' ∉ ending.toList ∧ '\r' ∉ ending.toList)
    (resolved : session.drift.resolve path (Number.ofNat line) = Number.ofNat (above.length + 2)) :
    ∃ tag final last, Applies options ⟨path, Number.ofNat line, message⟩
        ⟨Number.ofNat above.length, [tag]⟩ session final memory last ∧
      Line.indent tag = Line.indent ending ∧
      last.Holds path
        ⟨above ++ (tag ++ terminator) :: (ending ++ terminator) :: declaration :: below⟩ := by
  obtain ⟨text, present, read⟩ := holds
  have small : (Source.ofText text).lines.length < Number.exactBound :=
    Nat.lt_of_le_of_lt (Source.size_ofText_le text) (fits path text present)
  have last : (Source.ofText text).lines[above.length]? = some (ending ++ terminator) := by
    simp [read]
  have there : (Source.ofText text).lines[above.length + 1]? = some declaration := by
    rw [read, List.getElem?_append_right (Nat.le_add_right _ 1), Nat.add_sub_cancel_left]
    rfl
  have closed : Line.Closes (ending ++ terminator).toList := by
    rw [String.toList_append]
    exact closes.trans (List.prefix_append _ _).isInfix
  have apart : terminator = "\n" → ending.toList.getLast? ≠ some '\r' := fun _ ret =>
    unbroken.2 (List.mem_of_getLast? ret)
  -- the end of the block is read without its terminator, which the tag gets in its turn
  have content : Line.content (ending ++ terminator) = ending :=
    Line.content_append ends apart
  have style : Line.terminator (ending ++ terminator) = terminator :=
    Line.terminator_append ends apart
  have filled : Line.terminator (ending ++ terminator) ≠ "" := by
    rw [style]
    rcases ends with rfl | rfl <;> decide
  obtain ⟨words, plan⟩ := Plan.ofRemedy_right_above tagging parameter result small last closed there
    path message
  rw [content] at plan
  have mends : Mends options ⟨path, Number.ofNat line, message⟩ session memory
      ⟨Number.ofNat above.length, [Plan.tagLine ending words]⟩ := by
    refine ⟨opened, remedy, text, untagged, present, ?_⟩
    rw [Session.current, resolved]
    exact plan
  have plain : ∀ line ∈ [Plan.tagLine ending words], '\n' ∉ line.toList :=
    Plan.ofRemedy_unbroken (Or.inl rfl) plan fun name same =>
      ⟨named name same, Plan.LineEnd.not_mem_ofParameter (Or.inl rfl) feedless name⟩
  obtain ⟨final, after, applies⟩ := mends.applies fits
  rw [read] at small
  have written := applies.holds ⟨text, present, read⟩ (Nat.le_of_lt small) plain
  refine ⟨_, final, after, applies, Plan.indent_tagLine _ _, ?_⟩
  rwa [Source.terminatorFor_of_terminated (read ▸ last) filled, style, List.map_singleton,
    List.append_assoc, List.singleton_append] at written

/-- If the next repair in the file of a new block is a tag for the same reported line, it is applied, and the
tag stands in that block: above the declaration are then the first two lines of the block, the tag with the
indent of the second one, and the last line of the block, before which the tag was put in. -/
theorem tag_joins_new_block {missing : String} {passed : Session} {still : Memory}
    (uncommented : Remedy.forMessage? missing = some .commentBlock)
    (documents : Applies options ⟨path, Number.ofNat line, missing⟩ insertion session next memory after)
    (elsewhere : Elsewhere options path next after passed still) (fits : still.Fits) :
    ∃ (site : Site) (indent opening summary ending tag : String) (final : Session) (last : Memory),
      Line.Indents (Line.content site.declaration) indent ∧
      Plan.SelfContained indent opening summary ending ∧
      session.drift.resolve path (Number.ofNat line) = Number.ofNat (site.above.length + 1) ∧
      insertion = ⟨Number.ofNat site.above.length, [opening, summary, ending]⟩ ∧
      memory.Holds path (site.source []) ∧
      still.Holds path (site.source [opening, summary, ending]) ∧
      Applies options ⟨path, Number.ofNat line, message⟩
        ⟨Number.ofNat (site.above.length + 2), [tag]⟩ passed final still last ∧
      Line.indent tag = Line.indent summary ∧
      last.Holds path (site.source [opening, summary, tag, ending]) := by
  have agree := elsewhere.agree
  obtain ⟨site, indent, opening, summary, ending, indents, block, aligned, reported, rfl, bare, put,
      resolved⟩ :=
    documents.block uncommented fun text present => fits path text (agree.text.trans present)
  have kept : still.Holds path (site.source [opening, summary, ending]) := by
    obtain ⟨text, present, read⟩ := put
    exact ⟨text, agree.text.trans present, read⟩
  have opened : path ∉ still.readOnly := by
    obtain ⟨writable, -⟩ := (documents.concluded.applied _).mp rfl
    rwa [agree.readOnly, documents.stepped.readOnly_eq]
  obtain ⟨start, shape⟩ := block.ends
  have closes : Line.Closes ending.toList := ⟨start, [], by rw [shape, List.append_nil]⟩
  have before : site.source [opening, summary, ending] =
      ⟨(site.above ++ [opening ++ site.terminator, summary ++ site.terminator]) ++
        (ending ++ site.terminator) :: site.declaration :: site.below⟩ := by
    simp [Site.source]
  have there : passed.drift.resolve path (Number.ofNat line) =
      Number.ofNat ((site.above ++ [opening ++ site.terminator, summary ++ site.terminator]).length + 2) := by
    rw [Drift.resolve, agree.shifts, List.length_append]
    exact resolved
  obtain ⟨tag, final, last, applies, same, written⟩ := exists_applies_tag parameter result feedless untagged
    tagging named fits opened (before ▸ kept) site.ends closes (block.unbroken ending (by simp)) there
  refine ⟨site, indent, opening, summary, ending, tag, final, last, indents, block, reported, rfl, bare, kept,
    ?_, same.trans aligned, ?_⟩
  · rwa [List.length_append] at applies
  · simpa [Site.source] using written

end Tag

/-- An older comment further up in the file, an issue of another file in between, and a declaration that ends
the file without a terminator. -/
theorem tag_joins_new_block_older :
    let memory : Memory :=
      { files := [("A", "/** x */\r\nint f();\r\n\tint getSize ()"), ("B", "/** y */\nint g()")] }
    let first : Issue := ⟨"A", Number.ofNat 3, "warning: no comment"⟩
    let other : Issue := ⟨"B", Number.ofNat 2, "warning: no @return"⟩
    let second : Issue := ⟨"A", Number.ofNat 3, "warning: no @return"⟩
    let block : Insertion := ⟨Number.ofNat 2, ["\t/**", "\t * Gets the size.", "\t */"]⟩
    let next : Session := ⟨Drift.record {} "A" block, [⟨first, some .missingComment, .applied block⟩]⟩
    let after := (memory.perform (step {} {} first)).2
    let upper : Insertion := ⟨Number.ofNat 0, ["* @return the result of the operation"]⟩
    let passed : Session := ⟨next.drift.record "B" upper,
      next.results ++ [⟨other, some .missingReturn, .applied upper⟩]⟩
    let still := (after.perform (step {} next other)).2
    Applies {} first block {} next memory after ∧ Elsewhere {} "A" next after passed still ∧ still.Fits ∧
      ∃ (site : Site) (tag : String) (final : Session) (last : Memory),
        block.index = Number.ofNat site.above.length ∧
        Applies {} second ⟨Number.ofNat (site.above.length + 2), [tag]⟩ passed final still last ∧
        last.Holds "A" (site.source ["\t/**", "\t * Gets the size.", tag, "\t */"]) := by
  intro memory first other second block next after upper passed still
  have documents : Applies {} first block {} next memory after :=
    ⟨Prod.ext (by decide +kernel : (memory.perform (step {} {} first)).1 = .ok next) rfl, _, rfl⟩
  have between : Applies {} other upper next passed after still :=
    ⟨Prod.ext (by decide +kernel : (after.perform (step {} next other)).1 = .ok passed) rfl, _, rfl⟩
  have elsewhere : Elsewhere {} "A" next after passed still := .step .refl (by decide) between.stepped
  have fits : still.Fits := Memory.fits_of_entries (by decide +kernel)
  have uncommented : Remedy.forMessage? "warning: no comment" = some .commentBlock := by decide +kernel
  have untagged : Remedy.forMessage? "warning: no @return" = some .returnTag := by decide +kernel
  obtain ⟨site, indent, opening, summary, ending, tag, final, last, -, -, -, place, -, -, applies, -, holds⟩ :=
    tag_joins_new_block (by decide : Windows.standard.parameter.toNat? = some (17 + 1))
      (by decide : Windows.standard.result.toNat? = some (12 + 1)) (by decide) untagged (by decide)
      (fun name same => by cases same) uncommented documents elsewhere fits
  obtain ⟨index, lines⟩ := Insertion.mk.inj place
  simp only [List.cons.injEq, and_true] at lines
  obtain ⟨rfl, rfl, rfl⟩ := lines
  exact ⟨documents, elsewhere, fits, site, tag, final, last, index, applies, holds⟩

end Repair

end DocMend
