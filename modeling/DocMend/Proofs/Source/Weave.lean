import DocMend.Proofs.Source.Anchor
import DocMend.Proofs.Source.BlockEnd
/-!
Lines woven into a source. Many insertions, each counted in the lines of the first source, give one
woven list of lines; the lines of the source keep their order in it, and what the planner looks for is
found where it was, moved.
-/

set_option autoImplicit false
set_option relaxedAutoImplicit false

namespace DocMend.Source

/-- Puts lines before the lines of a list: `added i` directly before the line with index `i`. -/
def weave (added : Nat → List String) : List String → List String
  | [] => []
  | raw :: rest => added 0 ++ raw :: weave (fun i => added (i + 1)) rest

/-- Where the line with an index stands among woven lines. -/
def place (added : Nat → List String) : Nat → Nat
  | 0 => (added 0).length
  | i + 1 => place added i + 1 + (added (i + 1)).length

variable {added : Nat → List String}

theorem place_lt (added : Nat → List String) {i j : Nat} (less : i < j) : place added i < place added j := by
  induction j with
  | zero => omega
  | succ j ih =>
    rw [place]
    by_cases last : i = j
    · rw [last]
      omega
    · have before := ih (by omega)
      omega

theorem place_lt_iff {i j : Nat} : place added i < place added j ↔ i < j := by
  refine ⟨fun less => ?_, place_lt added⟩
  by_cases same : i = j
  · rw [same] at less
    omega
  · by_cases above : j < i
    · have greater := place_lt added above
      omega
    · omega

theorem le_place (added : Nat → List String) (i : Nat) : i ≤ place added i := by
  induction i with
  | zero => exact Nat.zero_le _
  | succ i ih =>
    rw [place]
    omega

/-- Where nothing is put in between, lines keep their distance. -/
theorem place_add (added : Nat → List String) {i : Nat} (d : Nat) (none : ∀ k, i < k → k ≤ i + d → added k = []) :
    place added (i + d) = place added i + d := by
  induction d with
  | zero => rfl
  | succ d ih =>
    have before := ih fun k above below => none k above (by omega)
    have empty : added (i + d + 1) = [] := none (i + d + 1) (by omega) (by omega)
    rw [← Nat.add_assoc, place, before, empty, List.length_nil]
    omega

/-- Lines put in before one line move that line and those behind it. -/
theorem place_insert (new : List String) (index d : Nat) :
    place (fun i => added i ++ if i = index then new else []) d =
      if index ≤ d then place added d + new.length else place added d := by
  induction d with
  | zero =>
    by_cases first : index = 0
    · simp [place, first]
    · have behind : ¬index ≤ 0 := by omega
      simp [place, behind, Ne.symm first]
  | succ d ih =>
    rw [place, ih, place]
    by_cases here : index = d + 1
    · subst here
      have ahead : ¬d + 1 ≤ d := by omega
      simp only [if_neg ahead, if_true, Nat.le_refl, List.length_append]
      omega
    · by_cases before : index ≤ d
      · simp [before, Nat.le_succ_of_le before, Ne.symm here]
        omega
      · have behind : ¬index ≤ d + 1 := by omega
        simp [before, behind, Ne.symm here]

private theorem place_succ (added : Nat → List String) (i : Nat) :
    place added (i + 1) = (added 0).length + 1 + place (fun k => added (k + 1)) i := by
  induction i with
  | zero => simp only [place]
  | succ i ih =>
    rw [place, ih, place]
    omega

/-- Every line of the source is found at its place. -/
theorem getElem?_weave (added : Nat → List String) (lines : List String) {i : Nat}
    (inside : i < lines.length) : (weave added lines)[place added i]? = lines[i]? := by
  induction lines generalizing added i with
  | nil => simp at inside
  | cons raw rest ih =>
    rw [weave, List.getElem?_append_right]
    · cases i with
      | zero => simp [place]
      | succ i =>
        have there := ih (fun k => added (k + 1)) (by simpa using inside)
        rw [place_succ, List.getElem?_cons_succ, ← there]
        have distance : (added 0).length + 1 + place (fun k => added (k + 1)) i -
            (added 0).length = place (fun k => added (k + 1)) i + 1 := by omega
        rw [distance, List.getElem?_cons_succ]
    · cases i with
      | zero => exact Nat.le_refl _
      | succ i =>
        rw [place_succ]
        omega

theorem place_lt_length (added : Nat → List String) {lines : List String} {i : Nat}
    (inside : i < lines.length) : place added i < (weave added lines).length := by
  have found := getElem?_weave added lines inside
  rw [List.getElem?_eq_getElem inside] at found
  exact (List.getElem?_eq_some_iff.mp found).1

/-- A woven line is a line of the source at its place or one that was put in. -/
theorem weave_cases {added : Nat → List String} {lines : List String} {j : Nat} {line : String}
    (found : (weave added lines)[j]? = some line) :
    (∃ i < lines.length, j = place added i ∧ lines[i]? = some line) ∨
      ∃ i < lines.length, line ∈ added i := by
  induction lines generalizing added j with
  | nil => simp [weave] at found
  | cons raw rest ih =>
    rw [weave] at found
    by_cases early : j < (added 0).length
    · rw [List.getElem?_append_left early] at found
      exact Or.inr ⟨0, Nat.succ_pos _, List.mem_of_getElem? found⟩
    · rw [List.getElem?_append_right (by omega)] at found
      obtain ⟨k, rfl⟩ : ∃ k, j = (added 0).length + k := ⟨j - (added 0).length, by omega⟩
      rw [Nat.add_sub_cancel_left] at found
      cases k with
      | zero => exact Or.inl ⟨0, Nat.succ_pos _, rfl, found⟩
      | succ k =>
        rw [List.getElem?_cons_succ] at found
        rcases ih found with ⟨i, inside, rfl, same⟩ | ⟨i, inside, mem⟩
        · refine Or.inl ⟨i + 1, Nat.succ_lt_succ inside, ?_, same⟩
          rw [place_succ]
          omega
        · exact Or.inr ⟨i + 1, Nat.succ_lt_succ inside, mem⟩

/-- The last line of the source stays the last. -/
theorem length_weave (added : Nat → List String) (raw : String) (rest : List String) :
    (weave added (raw :: rest)).length = place added rest.length + 1 := by
  induction rest generalizing added raw with
  | nil => simp [weave, place]
  | cons next more ih =>
    rw [weave, List.length_append, List.length_cons, ih, List.length_cons, place_succ]
    omega

/-- More lines before one line of the source. -/
theorem weave_insert (added : Nat → List String) (lines new : List String) {index : Nat}
    (inside : index < lines.length) :
    weave (fun i => added i ++ if i = index then new else []) lines =
      (weave added lines).take (place added index) ++ new ++
        (weave added lines).drop (place added index) := by
  induction lines generalizing added index with
  | nil => simp at inside
  | cons raw rest ih =>
    cases index with
    | zero => simp [weave, place]
    | succ index =>
      have later := ih (fun k => added (k + 1)) (Nat.lt_of_succ_lt_succ inside)
      have behind : place added (index + 1) =
          (added 0 ++ [raw]).length + place (fun k => added (k + 1)) index := by
        rw [place_succ, List.length_append, List.length_singleton]
      have woven : weave added (raw :: rest) =
          (added 0 ++ [raw]) ++ weave (fun k => added (k + 1)) rest := by
        rw [weave, List.append_assoc, List.singleton_append]
      rw [woven, behind, List.take_length_add_append, List.drop_length_add_append, weave]
      simp [later]

end DocMend.Source
