import DocMend.Plan
import DocMend.Proofs.Source.Anchor
/-!
Where plans point to and what they are made of: one lemma for each kind of plan says everything about
a plan that succeeds.
-/

set_option autoImplicit false
set_option relaxedAutoImplicit false

namespace DocMend

namespace Line

theorem indent_blank {line : String} {c : Char} (mem : c ∈ (indent line).toList) :
    c = ' ' ∨ c = '\t' := by
  rw [indent, String.toList_ofList, indentChars] at mem
  simpa using List.all_eq_true.mp List.all_takeWhile c mem

theorem star_not_mem_indent (line : String) : '*' ∉ (indent line).toList := by
  intro mem
  rcases indent_blank mem with h | h <;> exact absurd h (by decide)

end Line

namespace Plan

/-- A planned tag stands right before the nearest block end and takes its indent. -/
theorem tag_ok {source : Source} {issue : Issue} {window : Number} {text : String}
    {insertion : Insertion} (plan : tag source issue window text = .ok insertion) :
    ∃ index raw, source.anchor? issue.line window = some index ∧
      source.lines[index]? = some raw ∧
      insertion = ⟨Number.ofNat index, [tagLine (Line.content raw) text]⟩ := by
  simp only [tag] at plan
  split at plan
  · rename_i index found
    split at plan
    · rename_i raw present
      exact ⟨index, raw, found, present, (Except.ok.inj plan).symm⟩
    · exact absurd plan (by simp)
  · exact absurd plan (by simp)

theorem returned_ok {source : Source} {issue : Issue} {window : Number} {insertion : Insertion}
    (plan : returned source issue window = .ok insertion) :
    ∃ declaration, source.contentAt? (issue.line - 1) = some declaration ∧
      tag source issue window (returnTag declaration) = .ok insertion := by
  simp only [returned] at plan
  split at plan
  · rename_i declaration found
    exact ⟨declaration, found, plan⟩
  · exact absurd plan (by simp)

/-- A planned block stands right before the declaration and takes its indent. -/
theorem comment_ok {source : Source} {issue : Issue} {insertion : Insertion}
    (plan : comment source issue = .ok insertion) :
    ∃ index raw name, source.declaration? issue.line = some index ∧
      source.lines[index]? = some raw ∧ Phrase.methodName? (Line.content raw) = some name ∧
      insertion = ⟨Number.ofNat index,
        block (Line.indent (Line.content raw)) (Phrase.ofMethod name)⟩ := by
  simp only [comment] at plan
  split at plan
  · rename_i index found
    split at plan
    · rename_i raw present
      split at plan
      · rename_i name called
        exact ⟨index, raw, name, found, present, called, (Except.ok.inj plan).symm⟩
      · exact absurd plan (by simp)
    · exact absurd plan (by simp)
  · exact absurd plan (by simp)

/-- A planned tag of either kind stands right before a block end above the reported line. -/
theorem ofRemedy_tag {remedy : Remedy} (tagged : remedy ≠ .commentBlock) {issue : Issue}
    {source : Source} {options : Options} {insertion : Insertion}
    (plan : ofRemedy remedy issue source options = .ok insertion) :
    ∃ window text index raw, source.anchor? issue.line window = some index ∧
      source.lines[index]? = some raw ∧
      insertion = ⟨Number.ofNat index, [tagLine (Line.content raw) text]⟩ := by
  cases remedy with
  | parameterTag name => exact ⟨_, _, tag_ok plan⟩
  | returnTag =>
    obtain ⟨declaration, -, placed⟩ := returned_ok plan
    exact ⟨_, _, tag_ok placed⟩
  | commentBlock => exact absurd rfl tagged

/-- Every plan points at a line of the source it was made for. -/
theorem ofRemedy_inside {remedy : Remedy} {issue : Issue} {source : Source} {options : Options}
    {insertion : Insertion} (plan : ofRemedy remedy issue source options = .ok insertion) :
    ∃ index < source.lines.length, insertion.index = Number.ofNat index := by
  by_cases tagged : remedy = .commentBlock
  · subst tagged
    obtain ⟨index, raw, name, found, -, -, rfl⟩ := comment_ok plan
    exact ⟨index, (Source.declaration?_some found).2, rfl⟩
  · obtain ⟨window, text, index, raw, found, -, rfl⟩ := ofRemedy_tag tagged plan
    exact ⟨index, (Source.anchor?_some found).1, rfl⟩

/-- No plan is empty. -/
theorem ofRemedy_lines_ne_nil {remedy : Remedy} {issue : Issue} {source : Source} {options : Options}
    {insertion : Insertion} (plan : ofRemedy remedy issue source options = .ok insertion) :
    insertion.lines ≠ [] := by
  by_cases tagged : remedy = .commentBlock
  · subst tagged
    obtain ⟨index, raw, name, -, -, -, rfl⟩ := comment_ok plan
    exact List.cons_ne_nil _ _
  · obtain ⟨window, text, index, raw, -, -, rfl⟩ := ofRemedy_tag tagged plan
    exact List.cons_ne_nil _ _

end Plan

end DocMend
