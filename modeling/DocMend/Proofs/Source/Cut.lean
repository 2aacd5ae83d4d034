import DocMend.Source.Basic
/-!
Raw lines and the text they make up. A text falls into raw lines in one way, and behind a line feed
the cutting starts afresh.
-/

set_option autoImplicit false
set_option relaxedAutoImplicit false

namespace DocMend

namespace Line

/-- The raw lines of a text: every line but the last ends in a line feed, no line feed stands
elsewhere, and no line is empty. -/
inductive Cut : List (List Char) → Prop
  | nil : Cut []
  | last {line : List Char} (filled : line ≠ []) (feedless : '\n' ∉ line) : Cut [line]
  | cons (body : List Char) {rest : List (List Char)} (feedless : '\n' ∉ body) (cut : Cut rest) :
      Cut ((body ++ ['\n']) :: rest)

theorem cut_split (cs : List Char) : Cut (split cs) := by
  induction cs with
  | nil => exact .nil
  | cons c cs ih =>
    simp only [split]
    split
    · exact .cons [] (by simp) ih
    · rename_i other
      cases parts : split cs with
      | nil => exact .last (by simp) (by simpa using Ne.symm other)
      | cons line rest =>
        rw [parts] at ih
        cases ih with
        | last filled feedless =>
          exact .last (by simp) (by simp [feedless, Ne.symm other])
        | cons body feedless cut =>
          exact .cons (c :: _) (by simp [feedless, Ne.symm other]) cut

/-- A text with nothing behind its last line feed. -/
def Ended (cs : List Char) : Prop :=
  cs = [] ∨ ∃ body, cs = body ++ ['\n']

theorem Ended.append {first second : List Char} (h : Ended first) (k : Ended second) :
    Ended (first ++ second) := by
  rcases k with rfl | ⟨body, rfl⟩
  · rwa [List.append_nil]
  · exact Or.inr ⟨first ++ body, (List.append_assoc _ _ _).symm⟩

theorem ended_flatten {parts : List (List Char)} (each : ∀ part ∈ parts, Ended part) :
    Ended parts.flatten := by
  induction parts with
  | nil => exact Or.inl rfl
  | cons part rest ih =>
    rw [List.flatten_cons]
    exact (each part List.mem_cons_self).append
      (ih fun other mem => each other (List.mem_cons_of_mem _ mem))

private theorem split_append_feed (body rest : List Char) :
    split (body ++ '\n' :: rest) = split (body ++ ['\n']) ++ split rest := by
  induction body with
  | nil => simp [split]
  | cons c body ih =>
    simp only [List.cons_append, split]
    split
    · rw [ih, List.cons_append]
    · have joined : (split (body ++ ['\n'])).flatten = body ++ ['\n'] := flatten_split _
      cases parts : split (body ++ ['\n']) with
      | nil => simp [parts] at joined
      | cons line others => rw [ih, parts]; rfl

/-- Behind a line feed the cutting starts afresh. -/
theorem split_append {first : List Char} (ended : Ended first) (second : List Char) :
    split (first ++ second) = split first ++ split second := by
  rcases ended with rfl | ⟨body, rfl⟩
  · rfl
  · rw [List.append_assoc]
    exact split_append_feed body second

private theorem split_feedless {line : List Char} (filled : line ≠ []) (feedless : '\n' ∉ line) :
    split line = [line] := by
  induction line with
  | nil => exact absurd rfl filled
  | cons c cs ih =>
    have other : c ≠ '\n' := fun h => feedless (h ▸ List.mem_cons_self)
    have rest : '\n' ∉ cs := fun h => feedless (List.mem_cons_of_mem _ h)
    simp only [split, if_neg other]
    cases cs with
    | nil => rfl
    | cons d ds => rw [ih (by simp) rest]

private theorem split_line {body : List Char} (feedless : '\n' ∉ body) :
    split (body ++ ['\n']) = [body ++ ['\n']] := by
  induction body with
  | nil => rfl
  | cons c cs ih =>
    have other : c ≠ '\n' := fun h => feedless (h ▸ List.mem_cons_self)
    have rest : '\n' ∉ cs := fun h => feedless (List.mem_cons_of_mem _ h)
    simp only [List.cons_append, split, if_neg other, ih rest]

/-- Cutting what was joined from raw lines gives these lines again. -/
theorem Cut.split_flatten {lines : List (List Char)} (cut : Cut lines) :
    split lines.flatten = lines := by
  induction cut with
  | nil => rfl
  | last filled feedless =>
    rw [List.flatten_singleton]
    exact split_feedless filled feedless
  | cons body feedless cut ih =>
    rw [List.flatten_cons, split_append (Or.inr ⟨_, rfl⟩), split_line feedless, ih]
    rfl

theorem Cut.take {lines : List (List Char)} (cut : Cut lines) (n : Nat) : Cut (lines.take n) := by
  induction cut generalizing n with
  | nil => rw [List.take_nil]; exact .nil
  | last filled feedless =>
    cases n with
    | zero => exact .nil
    | succ n => rw [List.take_succ_cons, List.take_nil]; exact .last filled feedless
  | cons body feedless cut ih =>
    cases n with
    | zero => exact .nil
    | succ n => exact .cons body feedless (ih n)

theorem Cut.drop {lines : List (List Char)} (cut : Cut lines) (n : Nat) : Cut (lines.drop n) := by
  induction cut generalizing n with
  | nil => rw [List.drop_nil]; exact .nil
  | last filled feedless =>
    cases n with
    | zero => exact .last filled feedless
    | succ n => rw [List.drop_succ_cons, List.drop_nil]; exact .nil
  | cons body feedless cut ih =>
    cases n with
    | zero => exact .cons body feedless cut
    | succ n => exact ih n

/-- Only the last line can be without a line feed. -/
theorem Cut.ended_of_not_last {lines : List (List Char)} (cut : Cut lines) {n : Nat}
    (before : n + 1 < lines.length) : ∃ body, '\n' ∉ body ∧ lines[n]? = some (body ++ ['\n']) := by
  induction cut generalizing n with
  | nil => simp at before
  | last filled feedless => simp at before
  | cons body feedless cut ih =>
    cases n with
    | zero => exact ⟨body, feedless, rfl⟩
    | succ n => exact ih (by simpa using before)

/-- Every line before another one ends in a line feed. -/
theorem Cut.ended_of_mem_take {lines : List (List Char)} (cut : Cut lines) {n : Nat}
    (inside : n < lines.length) {part : List Char} (mem : part ∈ lines.take n) : Ended part := by
  obtain ⟨i, found⟩ := List.mem_iff_getElem?.mp mem
  rw [List.getElem?_take] at found
  split at found
  · obtain ⟨body, -, line⟩ := cut.ended_of_not_last (n := i) (by omega)
    rw [line] at found
    exact Or.inr ⟨body, (Option.some.inj found).symm⟩
  · exact absurd found (by simp)

theorem Cut.ended_take {lines : List (List Char)} (cut : Cut lines) {n : Nat}
    (inside : n < lines.length) : Ended (lines.take n).flatten :=
  ended_flatten fun _ mem => cut.ended_of_mem_take inside mem

theorem cut_append {first second : List (List Char)}
    (lines : ∀ part ∈ first, ∃ body, '\n' ∉ body ∧ part = body ++ ['\n']) (cut : Cut second) :
    Cut (first ++ second) := by
  induction first with
  | nil => exact cut
  | cons part rest ih =>
    obtain ⟨body, feedless, rfl⟩ := lines part List.mem_cons_self
    exact .cons body feedless (ih fun other mem => lines other (List.mem_cons_of_mem _ mem))

/-- The number of raw lines is at most that of the characters. -/
theorem length_split_le (cs : List Char) : (split cs).length ≤ cs.length := by
  induction cs with
  | nil => exact Nat.le_refl _
  | cons c cs ih =>
    simp only [split]
    split
    · simpa using ih
    · split
      · simp
      · rename_i line rest parts
        rw [parts] at ih
        simp only [List.length_cons] at ih ⊢
        omega

private theorem length_split_feed (body : List Char) :
    (split (body ++ ['\n'])).length = (body ++ ['\n']).count '\n' := by
  induction body with
  | nil => rfl
  | cons c body ih =>
    simp only [List.cons_append, split]
    split
    · rename_i feed
      rw [feed, List.length_cons, List.count_cons_self, ih]
    · rename_i other
      rw [List.count_cons_of_ne other, ← ih]
      have joined : (split (body ++ ['\n'])).flatten = body ++ ['\n'] := flatten_split _
      cases parts : split (body ++ ['\n']) with
      | nil => simp [parts] at joined
      | cons line others => rfl

/-- A text with nothing behind its last line feed has one raw line for each line feed. -/
theorem Ended.length_split {cs : List Char} (ended : Ended cs) :
    (split cs).length = cs.count '\n' := by
  rcases ended with rfl | ⟨body, rfl⟩
  · rfl
  · exact length_split_feed body

end Line

namespace Source

/-- The lines of a source are the raw lines of its text. -/
def Cut (source : Source) : Prop :=
  Line.Cut (source.lines.map String.toList)

theorem cut_ofText (text : String) : (ofText text).Cut := by
  have lists : (ofText text).lines.map String.toList = Line.split text.toList := by
    simp [ofText, Function.comp_def]
  rw [Cut, lists]
  exact Line.cut_split _

theorem toList_text (source : Source) :
    source.text.toList = (source.lines.map String.toList).flatten := by
  simp [text, List.flatMap]

/-- What is written from raw lines is read back as these lines. -/
theorem Cut.ofText_text {source : Source} (cut : source.Cut) : ofText source.text = source := by
  have back : (source.lines.map String.toList).map String.ofList = source.lines := by
    simp [Function.comp_def]
  simp only [ofText, toList_text, Line.Cut.split_flatten cut, back]

theorem size_ofText_le (text : String) : (ofText text).lines.length ≤ text.length := by
  rw [ofText, List.length_map, ← String.length_toList]
  exact Line.length_split_le _

end Source

end DocMend
