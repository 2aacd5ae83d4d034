import DocMend.Proofs.Number.Counting
import DocMend.Source.Basic
/-!
What the search for the end of a comment block finds, told in natural numbers: the last block end among
the lines above the reported one, if it is within the window.
-/

set_option autoImplicit false
set_option relaxedAutoImplicit false

namespace DocMend

namespace Source

theorem lastBlockEnd?_some {source : Source} {stop : Number} {bound index : Nat}
    (found : source.lastBlockEnd? stop bound = some index) :
    index < bound ∧ source.endsBlock index = true := by
  induction bound with
  | zero => simp [lastBlockEnd?] at found
  | succ bound ih =>
    simp only [lastBlockEnd?] at found
    split at found
    · split at found
      · rename_i ends
        obtain rfl := Option.some.inj found
        exact ⟨Nat.lt_succ_self _, ends⟩
      · exact ⟨Nat.lt_succ_of_lt (ih found).1, (ih found).2⟩
    · exact absurd found (by simp)

theorem anchor?_some {source : Source} {line window : Number} {index : Nat}
    (found : source.anchor? line window = some index) :
    index < source.lines.length ∧ source.endsBlock index = true := by
  simp only [anchor?] at found
  split at found
  · have place := lastBlockEnd?_some found
    exact ⟨by omega, place.2⟩
  · exact absurd found (by simp)

theorem declaration?_some {source : Source} {line : Number} {index : Nat}
    (found : source.declaration? line = some index) :
    (line - 1).toNat? = some index ∧ index < source.lines.length := by
  simp only [declaration?] at found
  split at found
  · rename_i place
    split at found
    · rename_i inside
      obtain rfl := Option.some.inj found
      exact ⟨place, inside⟩
    · exact absurd found (by simp)
  · exact absurd found (by simp)

theorem lt_length_of_endsBlock {source : Source} {index : Nat}
    (ends : source.endsBlock index = true) : index < source.lines.length := by
  rw [endsBlock] at ends
  by_cases inside : index < source.lines.length
  · exact inside
  · rw [List.getElem?_eq_none (by omega)] at ends
    exact absurd ends (by simp)

/-- The search goes down to the first block end, as long as the stop is below. -/
theorem lastBlockEnd?_eq_some {source : Source} {stop : Number} {low : Int} {bound index : Nat}
    (above : ∀ i < bound, stop < Number.ofNat i ↔ low < i) :
    source.lastBlockEnd? stop bound = some index ↔
      index < bound ∧ low < index ∧ source.endsBlock index = true ∧
        ∀ j, index < j → j < bound → source.endsBlock j = false := by
  induction bound with
  | zero => simp [lastBlockEnd?]
  | succ bound ih =>
    have earlier := ih fun i lt => above i (Nat.lt_succ_of_lt lt)
    have here := above bound (Nat.lt_succ_self bound)
    simp only [lastBlockEnd?, here]
    split
    · rename_i reached
      split
      · rename_i ends
        constructor
        · intro found
          obtain rfl := Option.some.inj found
          exact ⟨Nat.lt_succ_self _, reached, ends, fun j more less => by omega⟩
        · rintro ⟨inside, -, -, none⟩
          by_cases last : index = bound
          · rw [last]
          · have missing := none bound (by omega) (Nat.lt_succ_self bound)
            rw [ends] at missing
            exact absurd missing (by decide)
      · rename_i other
        rw [earlier]
        constructor
        · rintro ⟨inside, low_lt, ends, none⟩
          refine ⟨Nat.lt_succ_of_lt inside, low_lt, ends, fun j more less => ?_⟩
          by_cases last : j = bound
          · rw [last]
            exact Bool.eq_false_iff.mpr other
          · exact none j more (by omega)
        · rintro ⟨inside, low_lt, ends, none⟩
          have less : index ≠ bound := fun same => other (same ▸ ends)
          exact ⟨by omega, low_lt, ends, fun j more before => none j more (by omega)⟩
    · constructor
      · intro found
        exact absurd found (by simp)
      · rintro ⟨inside, low_lt, -, -⟩
        omega

/-- The anchor of a line is the last block end at least two lines above it, if the window reaches
that far. -/
theorem anchor?_eq_some {source : Source} {line w : Nat} {window : Number} {index : Nat}
    (whole : window.toNat? = some w) (small : line ≤ Number.exactBound) :
    source.anchor? (Number.ofNat line) window = some index ↔
      index + 2 ≤ line ∧ line ≤ index + 1 + w ∧ source.endsBlock index = true ∧
        ∀ j, index < j → j + 2 ≤ line → source.endsBlock j = false := by
  have difference : Number.ofNat line - 2 = Number.ofInt ((line : Int) - 2) :=
    Number.ofInt_sub (a := (line : Int)) (b := 2) (by omega) (by decide)
  simp only [anchor?, difference]
  by_cases enough : 2 ≤ line
  · obtain ⟨first, rfl⟩ : ∃ first, line = first + 2 := ⟨line - 2, by omega⟩
    have start : Number.ofInt (((first + 2 : Nat) : Int) - 2) = Number.ofNat first := by
      rw [Number.ofNat]
      congr 1
      omega
    have place : (Number.ofNat first).toNat? = some first := Number.toNat?_ofNat (by omega)
    simp only [start, place]
    rw [lastBlockEnd?_eq_some fun i lt =>
      Number.sub_lt_ofNat whole (by omega) (by omega)]
    constructor
    · rintro ⟨inside, low, ends, none⟩
      refine ⟨by omega, by omega, ends, fun j more less => ?_⟩
      by_cases there : j < source.lines.length
      · exact none j more (by omega)
      · exact Bool.eq_false_iff.mpr fun ends => there (lt_length_of_endsBlock ends)
    · rintro ⟨above, reach, ends, none⟩
      have inside := lt_length_of_endsBlock ends
      exact ⟨by omega, by omega, ends, fun j more less => none j more (by omega)⟩
  · have nowhere : (Number.ofInt ((line : Int) - 2)).toNat? = none := by
      have cases : line = 0 ∨ line = 1 := by omega
      rcases cases with rfl | rfl <;> decide
    simp only [nowhere]
    constructor
    · intro found
      exact absurd found (by simp)
    · rintro ⟨above, -⟩
      omega

/-- The line right above a reported one is the first to be looked at. -/
theorem anchor?_right_above {source : Source} {index p : Nat} {window : Number} (whole : window.toNat? = some (p + 1))
    (small : index + 2 ≤ Number.exactBound) (ends : source.endsBlock index = true) :
    source.anchor? (Number.ofNat (index + 2)) window = some index :=
  (anchor?_eq_some whole small).mpr ⟨Nat.le_refl _, by omega, ends, fun j later before => by omega⟩

/-- From too far behind the end the search does not reach a line. -/
theorem anchor?_eq_none {source : Source} {line w : Nat} {window : Number}
    (whole : window.toNat? = some w) (small : line ≤ Number.exactBound)
    (far : source.lines.length + w < line) : source.anchor? (Number.ofNat line) window = none := by
  cases found : source.anchor? (Number.ofNat line) window with
  | none => rfl
  | some index =>
    obtain ⟨-, reach, ends, -⟩ := (anchor?_eq_some whole small).mp found
    have inside := lt_length_of_endsBlock ends
    omega

end Source

end DocMend
