import DocMend.Number.Basic
import DocMend.Proofs.Source.Cut
import Mathlib.Algebra.GroupWithZero.Nat
/-!
Insertions into a source. Lines that are spliced in before one of its lines leave the others as they
are, at the same place or further down by the number of inserted lines, also when the text is written
and read again.
-/

set_option autoImplicit false
set_option relaxedAutoImplicit false

namespace DocMend

namespace Line

/-- A terminator is empty, a line feed, or a carriage return and a line feed. -/
theorem terminatorChars_cases (raw : List Char) :
    terminatorChars raw = [] ∨ terminatorChars raw = ['\n'] ∨
      terminatorChars raw = ['\r', '\n'] := by
  fun_induction terminatorChars raw with
  | case1 => exact Or.inl rfl
  | case2 => exact Or.inr (Or.inl rfl)
  | case3 => exact Or.inr (Or.inr rfl)
  | case4 c cs notFeed notPair ih => exact ih

end Line

namespace Source

theorem terminator_cases (raw : String) :
    Line.terminator raw = "" ∨ Line.terminator raw = "\n" ∨ Line.terminator raw = "\r\n" := by
  rcases Line.terminatorChars_cases raw.toList with h | h | h <;> simp [Line.terminator, h]

/-- Inserted lines get the terminator of a line of the file, or a line feed where no line has one. -/
theorem terminatorFor_mem (source : Source) (index : Nat) :
    (∃ raw ∈ source.lines, Line.terminator raw ≠ "" ∧
        source.terminatorFor index = Line.terminator raw) ∨
      ((∀ raw ∈ source.lines, Line.terminator raw = "") ∧ source.terminatorFor index = "\n") := by
  rw [terminatorFor]
  split
  · cases first : firstTerminator? source.lines with
    | none =>
      refine Or.inr ⟨fun raw mem => ?_, rfl⟩
      have empty := List.find?_eq_none.mp first _ (List.mem_map_of_mem mem)
      simpa using empty
    | some found =>
      have filled : (!found.isEmpty) = true :=
        List.find?_some (p := fun terminator : String => !terminator.isEmpty) first
      obtain ⟨raw, mem, rfl⟩ := List.mem_map.mp (List.mem_of_find?_eq_some first)
      exact Or.inl ⟨raw, mem, by simpa using filled, rfl⟩
  · rename_i filled
    cases present : source.lines[index]? with
    | none => simp [present] at filled
    | some raw =>
      rw [present] at filled
      exact Or.inl ⟨raw, List.mem_of_getElem? present, by simpa using filled, rfl⟩

/-- Inserted lines end in a line feed, with or without a carriage return before it. -/
theorem terminatorFor_cases (source : Source) (index : Nat) :
    source.terminatorFor index = "\n" ∨ source.terminatorFor index = "\r\n" := by
  rcases source.terminatorFor_mem index with ⟨raw, -, filled, same⟩ | ⟨-, feed⟩
  · rw [same]
    exact (terminator_cases raw).resolve_left filled
  · exact Or.inl feed

/-- Lines ended by the terminator of an insertion at an index. -/
def ended (source : Source) (index : Nat) (added : List String) : List String :=
  added.map (· ++ source.terminatorFor index)

theorem splice_inside (source : Source) {index : Nat} (inside : index < source.lines.length)
    (added : List String) :
    source.splice index added =
      ⟨source.lines.take index ++ source.ended index added ++ source.lines.drop index⟩ := by
  have other : index ≠ source.lines.length := Nat.ne_of_lt inside
  simp only [splice, if_neg other, ended]

private theorem ended_line (source : Source) (index : Nat) (line : String) :
    ∃ body, (line ++ source.terminatorFor index).toList = body ++ ['\n'] ∧
      ('\n' ∉ line.toList → '\n' ∉ body) := by
  rcases source.terminatorFor_cases index with h | h
  · exact ⟨line.toList, by simp [h], id⟩
  · refine ⟨line.toList ++ ['\r'], by simp [h], fun feedless => ?_⟩
    simp [feedless]

/-- Nothing stands behind the last line feed of inserted text. -/
theorem ended_flatten_ended (source : Source) (index : Nat) (added : List String) :
    Line.Ended ((source.ended index added).map String.toList).flatten := by
  refine Line.ended_flatten fun part mem => ?_
  simp only [ended, List.map_map, List.mem_map, Function.comp] at mem
  obtain ⟨line, -, rfl⟩ := mem
  obtain ⟨body, shape, -⟩ := ended_line source index line
  exact Or.inr ⟨body, shape⟩

/-- Inserted text falls into lines of its own; the lines around it stay as they are. -/
theorem lines_ofText_splice {source : Source} (cut : source.Cut) {index : Nat}
    (inside : index < source.lines.length) (added : List String) :
    (ofText (source.splice index added).text).lines =
      source.lines.take index ++ (ofText (Source.text ⟨source.ended index added⟩)).lines ++
        source.lines.drop index := by
  have before : Line.Ended ((source.lines.map String.toList).take index).flatten :=
    Line.Cut.ended_take cut (by simpa using inside)
  have middle := source.ended_flatten_ended index added
  rw [splice_inside source inside]
  simp only [ofText, toList_text, List.map_append, List.flatten_append, List.map_take, List.map_drop,
    List.append_assoc]
  rw [Line.split_append before, Line.split_append middle,
    (Line.Cut.take cut index).split_flatten, (Line.Cut.drop cut index).split_flatten]
  simp [Function.comp_def]

private theorem count_ended_line (source : Source) (index : Nat) (line : String) :
    (line ++ source.terminatorFor index).toList.count '\n' = line.toList.count '\n' + 1 := by
  rcases source.terminatorFor_cases index with h | h <;> simp [h]

private theorem count_ended (source : Source) (index : Nat) (added : List String) :
    ((source.ended index added).map String.toList).flatten.count '\n' =
      added.length + (added.map fun line => line.toList.count '\n').sum := by
  induction added with
  | nil => rfl
  | cons line added ih =>
    have head := count_ended_line source index line
    simp only [ended, List.map_cons, List.flatten_cons, List.count_append, List.length_cons,
      List.sum_cons] at ih ⊢
    rw [ih, head]
    omega

/-- A file grows by one raw line for each inserted line, and by one more for each line feed in the
inserted lines. -/
theorem size_ofText_splice {source : Source} (cut : source.Cut) {index : Nat}
    (inside : index < source.lines.length) (added : List String) :
    (ofText (source.splice index added).text).lines.length =
      source.lines.length + added.length + (added.map fun line => line.toList.count '\n').sum := by
  have middle : (ofText (Source.text ⟨source.ended index added⟩)).lines.length =
      added.length + (added.map fun line => line.toList.count '\n').sum := by
    rw [ofText, List.length_map, toList_text, (ended_flatten_ended source index added).length_split,
      count_ended]
  rw [lines_ofText_splice cut inside, List.length_append, List.length_append, middle,
    List.length_take, List.length_drop]
  omega

/-- Lines without line feeds become raw lines. -/
theorem ended_feedless (source : Source) (index : Nat) {added : List String}
    (feedless : ∀ line ∈ added, '\n' ∉ line.toList) :
    ∀ part ∈ (source.ended index added).map String.toList,
      ∃ body, '\n' ∉ body ∧ part = body ++ ['\n'] := by
  intro part mem
  simp only [ended, List.map_map, List.mem_map, Function.comp] at mem
  obtain ⟨line, line_mem, rfl⟩ := mem
  obtain ⟨body, shape, plain⟩ := ended_line source index line
  exact ⟨body, plain (feedless line line_mem), shape⟩

/-- Lines without line feeds keep the source cut into its lines. -/
theorem Cut.splice {source : Source} (cut : source.Cut) {index : Nat}
    (inside : index < source.lines.length) {added : List String}
    (feedless : ∀ line ∈ added, '\n' ∉ line.toList) : (source.splice index added).Cut := by
  rw [splice_inside source inside, Cut]
  simp only [List.map_append, List.map_take, List.map_drop, List.append_assoc]
  refine Line.cut_append (fun part mem => ?_) (Line.cut_append
    (source.ended_feedless index feedless) (Line.Cut.drop cut index))
  obtain ⟨i, found⟩ := List.mem_iff_getElem?.mp mem
  rw [List.getElem?_take] at found
  split at found
  · obtain ⟨body, none, line⟩ := Line.Cut.ended_of_not_last cut (n := i)
      (by simp only [List.length_map]; omega)
    rw [line] at found
    exact ⟨body, none, (Option.some.inj found).symm⟩
  · exact absurd found (by simp)

/-- A source that is written with lines put in before one of its lines, and read again. -/
theorem ofText_splice_between {source : Source} (cut : source.Cut) {above below added : List String} {raw : String}
    (lines : source.lines = above ++ raw :: below) (feedless : ∀ line ∈ added, '\n' ∉ line.toList) :
    ofText (source.splice above.length added).text =
      ⟨above ++ added.map (· ++ source.terminatorFor above.length) ++ raw :: below⟩ := by
  have inside : above.length < source.lines.length := by simp [lines]
  rw [(cut.splice inside feedless).ofText_text, splice_inside source inside, lines, List.take_left,
    List.drop_left]
  rfl

theorem size_splice (source : Source) {index : Nat} (inside : index < source.lines.length)
    (added : List String) :
    (source.splice index added).lines.length = source.lines.length + added.length := by
  rw [splice_inside source inside]
  simp only [ended, List.length_append, List.length_take, List.length_drop, List.length_map]
  omega

/-- Lines before an insertion keep their index. -/
theorem getElem?_splice_before (source : Source) {index : Nat}
    (inside : index < source.lines.length) (added : List String) {i : Nat} (before : i < index) :
    (source.splice index added).lines[i]? = source.lines[i]? := by
  rw [splice_inside source inside, List.append_assoc, List.getElem?_append_left (by
    rw [List.length_take]
    omega), List.getElem?_take, if_pos before]

/-- Lines from an insertion on move down by the number of inserted lines. -/
theorem getElem?_splice_after (source : Source) {index : Nat}
    (inside : index < source.lines.length) (added : List String) {i : Nat} (after : index ≤ i) :
    (source.splice index added).lines[i + added.length]? = source.lines[i]? := by
  have size : (source.lines.take index ++ source.ended index added).length =
      index + added.length := by
    simp only [ended, List.length_append, List.length_take, List.length_map]
    omega
  rw [splice_inside source inside, List.getElem?_append_right (by omega), size,
    List.getElem?_drop]
  congr 1
  omega

private theorem length_le_endLast (terminator : String) (lines : List String) :
    (lines.flatMap String.toList).length ≤ ((endLast terminator lines).flatMap String.toList).length := by
  fun_induction endLast terminator lines with
  | case1 => exact Nat.le_refl _
  | case2 line =>
    split
    · simp
    · exact Nat.le_refl _
  | case3 line rest more ih =>
    simp only [List.flatMap_cons, List.length_append]
    omega

/-- An insertion never shortens a text. -/
theorem length_text_le_splice (source : Source) (index : Nat) (added : List String) :
    source.text.length ≤ (source.splice index added).text.length := by
  have cut : source.lines.flatMap String.toList =
      (source.lines.take index).flatMap String.toList ++
        (source.lines.drop index).flatMap String.toList := by
    rw [← List.flatMap_append, List.take_append_drop]
  have kept := length_le_endLast (source.terminatorFor index) (source.lines.take index)
  simp only [text, splice, String.length_ofList, List.flatMap_append, List.length_append]
  rw [cut, List.length_append]
  split <;> omega

theorem insert_ok {source patched : Source} {insertion : Insertion}
    (inserted : source.insert insertion = .ok patched) :
    ∃ index, insertion.index.toNat? = some index ∧ index ≤ source.lines.length ∧
      patched = source.splice index insertion.lines := by
  simp only [insert] at inserted
  split at inserted
  · rename_i index whole
    split at inserted
    · rename_i inside
      exact ⟨index, whole, inside, (Except.ok.inj inserted).symm⟩
    · exact absurd inserted (by simp)
  · exact absurd inserted (by simp)

/-- An insertion at a line of a source is carried out there. -/
theorem insert_ofNat {source : Source} {index : Nat} (inside : index < source.lines.length)
    (small : source.lines.length ≤ Number.exactBound) (added : List String) :
    source.insert ⟨Number.ofNat index, added⟩ = .ok (source.splice index added) := by
  have place : (Number.ofNat index).toNat? = some index := Number.toNat?_ofNat (by omega)
  simp only [insert, place, if_pos (Nat.le_of_lt inside)]

end Source

end DocMend
