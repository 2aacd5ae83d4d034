import DocMend.Proofs.Plan.Place
import DocMend.Proofs.Source.BlockEnd
/-!
Whether planned tags stand inside a comment. The search looks for a line with the end of a comment;
where the comment begins is not looked at, so a comment of one line gets its tag in front of it.
-/

set_option autoImplicit false
set_option relaxedAutoImplicit false

namespace DocMend

/-- A line that ends a comment without opening one before that has a comment around its beginning. -/
theorem Source.inComment_of_ends {source : Source} (cut : source.Cut) {index : Nat}
    (inside : index < source.lines.length) {before : List Char}
    (ends : Line.LeavesOpen ((Source.text ⟨source.lines.take index⟩).toList ++ before))
    (unopened : ¬['/', '*'] <:+: before) : source.InComment index := by
  have ended : Line.Ended (Source.text ⟨source.lines.take index⟩).toList := by
    rw [toList_text, List.map_take]
    exact Line.Cut.ended_take cut (by simpa using inside)
  rcases (Line.leavesOpen_append ended before).mp ends with ⟨left, right, rfl, -⟩ | ⟨opens, -⟩
  · exact absurd ⟨left, right, by simp⟩ unopened
  · exact opens

namespace Plan

/-- A planned tag stands before a line that ends a comment. It is inside a comment exactly when a line
above leaves one open that no line in between ends, and so always when the comment that the line ends
does not begin on the line itself. -/
theorem tag_in_comment_iff {remedy : Remedy} (tagged : remedy ≠ .commentBlock) {issue : Issue}
    {text : String} {options : Options} {insertion : Insertion}
    (plan : ofRemedy remedy issue (Source.ofText text) options = .ok insertion) :
    ∃ index raw, insertion.index = Number.ofNat index ∧
      (Source.ofText text).lines[index]? = some raw ∧ Line.Closes raw.toList ∧
      ((Source.ofText text).InComment index ↔ ∃ j < index,
        (∃ opener, (Source.ofText text).lines[j]? = some opener ∧
          Line.LeavesOpen opener.toList) ∧
          ∀ k, j < k → k < index → (Source.ofText text).endsBlock k = false) ∧
      ∀ before after, raw.toList = before ++ '*' :: '/' :: after →
        Line.LeavesOpen ((Source.text ⟨(Source.ofText text).lines.take index⟩).toList ++ before) →
        ¬['/', '*'] <:+: before → (Source.ofText text).InComment index := by
  obtain ⟨window, line, index, raw, found, present, rfl⟩ := ofRemedy_tag tagged plan
  obtain ⟨inside, ends⟩ := Source.anchor?_some found
  obtain ⟨other, same, closes⟩ := Source.endsBlock_iff.mp ends
  obtain rfl : raw = other := Option.some.inj (present.symm.trans same)
  have cut := Source.cut_ofText text
  exact ⟨index, raw, rfl, present, closes, Source.inComment_iff cut inside,
    fun before after _ open_before unopened =>
      Source.inComment_of_ends cut inside open_before unopened⟩

/-- A comment of three lines takes its tag in front of its last one. -/
theorem tag_in_comment_iff_block :
    Remedy.parameterTag "T" ≠ .commentBlock ∧
      ofRemedy (.parameterTag "T") ⟨"A.java", Number.ofNat 4, "no @param for <T>"⟩
        (Source.ofText "/**\n * x\n */\nclass A<T> {}\n") {} =
          .ok ⟨Number.ofNat 2, [" * @param <T> the type parameter"]⟩ ∧
      (Source.ofText "/**\n * x\n */\nclass A<T> {}\n").InComment 2 := by
  have tagged : Remedy.parameterTag "T" ≠ .commentBlock := by decide
  have plan : ofRemedy (.parameterTag "T") ⟨"A.java", Number.ofNat 4, "no @param for <T>"⟩
      (Source.ofText "/**\n * x\n */\nclass A<T> {}\n") {} =
        .ok ⟨Number.ofNat 2, [" * @param <T> the type parameter"]⟩ := by rfl
  obtain ⟨index, raw, place, present, -, inside, -⟩ := tag_in_comment_iff tagged plan
  have few : index < 4 := (List.getElem?_eq_some_iff.mp present).1
  have third : 2 = index := by
    have whole := congrArg Number.toNat? place
    rw [Number.toNat?_ofNat (by decide), Number.toNat?_ofNat (by
      have large : 4 ≤ Number.exactBound := by decide
      omega)] at whole
    exact Option.some.inj whole
  subst third
  refine ⟨tagged, plan, inside.mpr ⟨0, by decide, ⟨"/**\n", by decide +kernel, ?_⟩, ?_⟩⟩
  · exact ⟨[], ['*', '\n'], rfl, by decide⟩
  · intro k above below
    obtain rfl : k = 1 := by omega
    decide +kernel

/-- A comment of one line takes its tag in front of it, where no comment is open. -/
theorem tag_outside_comment :
    let text := "/** x */\nclass A<T> {}\n"
    let issue : Issue := ⟨"A.java", Number.ofNat 2, "warning: no @param for <T>"⟩
    Remedy.forMessage? issue.message = some (.parameterTag "T") ∧
      ofRemedy (.parameterTag "T") issue (Source.ofText text) {} =
        .ok ⟨Number.ofNat 0, ["* @param <T> the type parameter"]⟩ ∧
      ¬(Source.ofText text).InComment 0 := by
  refine ⟨by decide +kernel, by rfl, ?_⟩
  rintro ⟨before, after, nothing, -⟩
  have empty : before ++ '/' :: '*' :: after = [] := nothing.symm
  exact absurd empty (by simp)

end Plan

end DocMend
