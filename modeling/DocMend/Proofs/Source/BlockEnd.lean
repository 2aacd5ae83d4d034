import DocMend.Proofs.Source.Splice
import DocMend.Source.Basic
import DocMend.Text.Search
import Mathlib.Tactic.Tauto
/-!
Marks of two characters in texts that are put together from parts.

Ends of block comments. A line ends a comment when the mark stands anywhere in it, line ends included,
and text can be told to lie inside an open comment line by line.
-/

set_option autoImplicit false
set_option relaxedAutoImplicit false

namespace DocMend.Text

private theorem pair_prefix {x y c : Char} (rest : List Char) :
    [x, y] <+: c :: rest ↔ c = x ∧ rest.head? = some y := by
  cases rest with
  | nil => simp
  | cons d rest => simp [@eq_comm _ x c, @eq_comm _ y d]

/-- A mark of two characters stands in a joined text when it stands in one of its parts or across
the seam. -/
theorem pair_infix_append {x y : Char} (first second : List Char) :
    [x, y] <:+: first ++ second ↔
      [x, y] <:+: first ∨ [x, y] <:+: second ∨
        (first.getLast? = some x ∧ second.head? = some y) := by
  induction first with
  | nil => simp
  | cons c rest ih =>
    rw [List.cons_append, List.infix_cons_iff, ih, List.infix_cons_iff, pair_prefix, pair_prefix]
    cases rest with
    | nil => simp; tauto
    | cons d rest => simp; tauto

end DocMend.Text

namespace DocMend

namespace Line

/-- A text in which a block comment ends. -/
def Closes (cs : List Char) : Prop :=
  ['*', '/'] <:+: cs

instance (cs : List Char) : Decidable (Closes cs) :=
  decidable_of_iff _ (Text.occurs_iff ['*', '/'] cs)

/-- A text that opens a block comment and does not end it any more. -/
def LeavesOpen (cs : List Char) : Prop :=
  ∃ before after, cs = before ++ '/' :: '*' :: after ∧ ¬Closes after

private theorem Ended.getLast? {first : List Char} (ended : Ended first) :
    first.getLast? = none ∨ first.getLast? = some '\n' := by
  rcases ended with rfl | ⟨body, rfl⟩
  · exact Or.inl rfl
  · exact Or.inr (by simp)

theorem closes_append_of_last {first : List Char} (last : first.getLast? ≠ some '*')
    (second : List Char) : Closes (first ++ second) ↔ Closes first ∨ Closes second := by
  rw [Closes, Text.pair_infix_append]
  simp only [last, false_and, or_false]
  rfl

theorem closes_append_of_head (first : List Char) {second : List Char}
    (head : second.head? ≠ some '/') :
    Closes (first ++ second) ↔ Closes first ∨ Closes second := by
  rw [Closes, Text.pair_infix_append]
  simp only [head, and_false, or_false]
  rfl

/-- No mark stands across the end of a line. -/
theorem closes_append {first : List Char} (ended : Ended first) (second : List Char) :
    Closes (first ++ second) ↔ Closes first ∨ Closes second := by
  refine closes_append_of_last (fun last => ?_) second
  rcases ended.getLast? with h | h <;> exact absurd (h.symm.trans last) (by simp)

theorem closes_flatten {parts : List (List Char)} (ended : ∀ part ∈ parts, Ended part) :
    Closes parts.flatten ↔ ∃ part ∈ parts, Closes part := by
  induction parts with
  | nil => simp [Closes]
  | cons part rest ih =>
    have first := ended part List.mem_cons_self
    have others := ih fun other mem => ended other (List.mem_cons_of_mem _ mem)
    rw [List.flatten_cons, closes_append first, others]
    simp

/-- A joined text leaves a comment open when its second part does, or when its first part does and
the second does not end it. -/
theorem leavesOpen_append {first : List Char} (ended : Ended first) (second : List Char) :
    LeavesOpen (first ++ second) ↔
      LeavesOpen second ∨ (LeavesOpen first ∧ ¬Closes second) := by
  constructor
  · rintro ⟨before, after, joined, still⟩
    rcases List.append_eq_append_iff.mp joined with ⟨middle, -, tail⟩ | ⟨middle, head, tail⟩
    · exact Or.inl ⟨middle, after, tail, still⟩
    · -- the mark begins in the first part, so it lies there as a whole
      cases middle with
      | nil => exact Or.inl ⟨[], after, tail.symm, still⟩
      | cons slash middle =>
        obtain ⟨rfl, more⟩ := List.cons_eq_cons.mp tail
        cases middle with
        | nil =>
          have last : first.getLast? = some '/' := by simp [head]
          rcases ended.getLast? with h | h <;> exact absurd (h.symm.trans last) (by simp)
        | cons star middle =>
          obtain ⟨rfl, rfl⟩ := List.cons_eq_cons.mp more
          have kept : ¬Closes middle := fun closes =>
            still (closes.trans (List.infix_append' [] middle second))
          have unclosed : ¬Closes second := fun closes =>
            still (closes.trans (List.suffix_append middle second).isInfix)
          exact Or.inr ⟨⟨before, middle, head, kept⟩, unclosed⟩
  · rintro (⟨before, after, rfl, still⟩ | ⟨⟨before, after, rfl, still⟩, unclosed⟩)
    · exact ⟨first ++ before, after, (List.append_assoc _ _ _).symm, still⟩
    · have last : after.getLast? ≠ some '*' := by
        intro star
        have same : (before ++ '/' :: '*' :: after).getLast? = some '*' := by
          rw [List.getLast?_append, List.getLast?_cons_cons, List.getLast?_cons, star]
          rfl
        rcases ended.getLast? with h | h <;> exact absurd (h.symm.trans same) (by simp)
      refine ⟨before, after ++ second, by simp, fun closes => ?_⟩
      rcases (closes_append_of_last last second).mp closes with left | right
      · exact still left
      · exact unclosed right

/-- Line by line: some line leaves a comment open, and no line behind it ends one. -/
theorem leavesOpen_flatten {parts : List (List Char)} (ended : ∀ part ∈ parts, Ended part) :
    LeavesOpen parts.flatten ↔ ∃ (j : Nat) (part : List Char), parts[j]? = some part ∧
      LeavesOpen part ∧
        ∀ (k : Nat) (other : List Char), j < k → parts[k]? = some other → ¬Closes other := by
  induction parts with
  | nil => simp [LeavesOpen]
  | cons part rest ih =>
    have first := ended part List.mem_cons_self
    have later : ∀ other ∈ rest, Ended other := fun other mem =>
      ended other (List.mem_cons_of_mem _ mem)
    rw [List.flatten_cons, leavesOpen_append first, ih later, closes_flatten later]
    constructor
    · rintro (⟨j, line, found, opens, none⟩ | ⟨opens, none⟩)
      · refine ⟨j + 1, line, found, opens, fun k other above there => ?_⟩
        cases k with
        | zero => omega
        | succ k => exact none k other (by omega) there
      · refine ⟨0, part, rfl, opens, fun k other above there closes => ?_⟩
        cases k with
        | zero => omega
        | succ k => exact none ⟨other, List.mem_of_getElem? (i := k) there, closes⟩
    · rintro ⟨j, line, found, opens, none⟩
      cases j with
      | zero =>
        obtain rfl := Option.some.inj found
        refine Or.inr ⟨opens, ?_⟩
        rintro ⟨other, mem, closes⟩
        obtain ⟨k, there⟩ := List.mem_iff_getElem?.mp mem
        exact none (k + 1) other (by omega) there closes
      | succ j =>
        exact Or.inl ⟨j, line, found, opens, fun k other above there =>
          none (k + 1) other (by omega) there⟩

/-- The mark is looked for in the content of a line; it is as good as looking at all of the line. -/
theorem contains_content_iff (raw : String) :
    Text.contains (content raw) Source.blockEnd = true ↔ Closes raw.toList := by
  have whole : Closes raw.toList ↔
      Closes (contentChars raw.toList ++ terminatorChars raw.toList) := by
    rw [content_append_terminator]
  have mark : Source.blockEnd.toList = ['*', '/'] := rfl
  rw [Text.contains, Text.occurs_iff, content, String.toList_ofList, whole, Closes,
    Text.pair_infix_append, mark]
  rcases terminatorChars_cases raw.toList with h | h | h <;> rw [h] <;>
    simp [List.infix_cons_iff]

end Line

namespace Source

theorem endsBlock_iff {source : Source} {index : Nat} :
    source.endsBlock index = true ↔
      ∃ raw, source.lines[index]? = some raw ∧ Line.Closes raw.toList := by
  rw [endsBlock]
  cases found : source.lines[index]? with
  | none => simp
  | some raw => simp [Line.contains_content_iff]

/-- The text before a line leaves a comment open. -/
def InComment (source : Source) (index : Nat) : Prop :=
  Line.LeavesOpen (Source.text ⟨source.lines.take index⟩).toList

/-- What stands before a line is inside a comment when a line above it leaves one open and no line
between the two ends one. -/
theorem inComment_iff {source : Source} (cut : source.Cut) {index : Nat}
    (inside : index < source.lines.length) :
    source.InComment index ↔ ∃ j < index,
      (∃ raw, source.lines[j]? = some raw ∧ Line.LeavesOpen raw.toList) ∧
        ∀ k, j < k → k < index → source.endsBlock k = false := by
  have joined : (Source.text ⟨source.lines.take index⟩).toList =
      ((source.lines.map String.toList).take index).flatten := by
    rw [toList_text, List.map_take]
  have ended : ∀ part ∈ (source.lines.map String.toList).take index, Line.Ended part :=
    fun part mem => cut.ended_of_mem_take (by simpa using inside) mem
  have line : ∀ k, k < index → ((source.lines.map String.toList).take index)[k]? =
      (source.lines[k]?).map String.toList := by
    intro k before
    rw [List.getElem?_take, if_pos before, List.getElem?_map]
  rw [InComment, joined, Line.leavesOpen_flatten ended]
  constructor
  · rintro ⟨j, part, found, opens, none⟩
    have before : j < index := by
      have within := (List.getElem?_eq_some_iff.mp found).1
      rw [List.length_take] at within
      omega
    rw [line j before] at found
    obtain ⟨raw, there, rfl⟩ := Option.map_eq_some_iff.mp found
    refine ⟨j, before, ⟨raw, there, opens⟩, fun k above below => ?_⟩
    rw [← Bool.not_eq_true, endsBlock_iff]
    rintro ⟨other, at_k, closes⟩
    refine none k other.toList above ?_ closes
    rw [line k below, at_k]
    rfl
  · rintro ⟨j, before, ⟨raw, there, opens⟩, none⟩
    refine ⟨j, raw.toList, ?_, opens, fun k part above found closes => ?_⟩
    · rw [line j before, there]
      rfl
    · have below : k < index := by
        have within := (List.getElem?_eq_some_iff.mp found).1
        rw [List.length_take] at within
        omega
      rw [line k below] at found
      obtain ⟨other, at_k, rfl⟩ := Option.map_eq_some_iff.mp found
      have ends : source.endsBlock k = true := endsBlock_iff.mpr ⟨other, at_k, closes⟩
      rw [none k above below] at ends
      exact absurd ends (by decide)

end Source

end DocMend
