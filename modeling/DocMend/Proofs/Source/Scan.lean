import DocMend.Proofs.Source.Anchor
/-!
The search for the end of a comment block, told index by index. It goes up through the lines until it
comes to the stop of its window, leaves the source or finds a block end. From every line number that is
counted exactly this takes finitely many indices and gives the anchor; indices behind the last line are
gone through without finding anything.
-/

set_option autoImplicit false
set_option relaxedAutoImplicit false

namespace DocMend

namespace Source

/-- The search from an index on, down to the stop. -/
inductive Scan (source : Source) (stop : Number) : Number → Option Nat → Prop
  | stopped {index : Number} (out : ¬(stop < index ∧ 0 ≤ index)) : Scan source stop index none
  | found {index : Number} {place : Nat} (inside : stop < index ∧ 0 ≤ index)
      (whole : index.toNat? = some place) (ends : source.endsBlock place = true) :
      Scan source stop index (some place)
  | further {index : Number} {answer : Option Nat} (inside : stop < index ∧ 0 ≤ index)
      (other : ∀ place, index.toNat? = some place → source.endsBlock place = false)
      (rest : Scan source stop (index - 1) answer) : Scan source stop index answer

/-- A search gives one answer only. -/
theorem Scan.unique {source : Source} {stop index : Number} {first second : Option Nat}
    (one : Scan source stop index first) (two : Scan source stop index second) :
    first = second := by
  induction one generalizing second with
  | stopped out =>
    cases two with
    | stopped => rfl
    | found inside => exact absurd inside out
    | further inside => exact absurd inside out
  | found inside whole ends =>
    cases two with
    | stopped out => exact absurd inside out
    | found _ again => exact again.symm.trans whole ▸ rfl
    | further _ other => exact absurd (other _ whole) (by simp [ends])
  | further inside other rest ih =>
    cases two with
    | stopped out => exact absurd inside out
    | found _ whole ends => exact absurd (other _ whole) (by simp [ends])
    | further _ _ more => exact ih more

/-- Where taking one away makes no difference, a search that does not find anything has no end. Lines have
to be counted exactly for it to come to one. -/
theorem Scan.endless {source : Source} {stop index : Number} {answer : Option Nat}
    (still : index - 1 = index) (inside : stop < index ∧ 0 ≤ index)
    (other : ∀ place, index.toNat? = some place → source.endsBlock place = false) :
    ¬Scan source stop index answer := by
  intro scan
  induction scan with
  | stopped out => exact out inside
  | found _ whole ends => exact absurd (other _ whole) (by simp [ends])
  | further _ _ _ ih =>
    rw [still] at ih
    exact ih still inside other

example (answer : Option Nat) :
    ¬Scan ⟨[]⟩ (Number.ofNat (2 ^ 53)) (Number.ofNat (2 ^ 53 + 4)) answer :=
  Scan.endless (by decide +kernel) (by decide +kernel) fun _ _ => rfl

/-- One index more to go through. -/
private theorem scan_of_pred {source : Source} {stop : Number} {index : Nat}
    (small : index ≤ Number.exactBound)
    (rest : Scan source stop (Number.ofNat index - 1) (source.lastBlockEnd? stop index)) :
    Scan source stop (Number.ofNat index) (source.lastBlockEnd? stop (index + 1)) := by
  have whole : (Number.ofNat index).toNat? = some index := Number.toNat?_ofNat small
  have positive : (0 : Number) ≤ Number.ofNat index :=
    (Number.ofNat_le (Nat.zero_le _) small).mpr (Nat.zero_le _)
  simp only [lastBlockEnd?]
  split
  · rename_i above
    split
    · rename_i ends
      exact .found ⟨above, positive⟩ whole ends
    · rename_i other
      refine .further ⟨above, positive⟩ (fun place here => ?_) rest
      obtain rfl := Option.some.inj (whole.symm.trans here)
      exact Bool.eq_false_iff.mpr other
  · rename_i reached
    exact .stopped fun inside => reached inside.1

/-- From a natural number on the search goes through all smaller indices above the stop. -/
theorem scan_ofNat (source : Source) (stop : Number) {index : Nat}
    (small : index ≤ Number.exactBound) :
    Scan source stop (Number.ofNat index) (source.lastBlockEnd? stop (index + 1)) := by
  induction index with
  | zero =>
    refine scan_of_pred small (.stopped ?_)
    rintro ⟨-, negative⟩
    rw [Number.zero_sub_one] at negative
    exact absurd ((Number.ofInt_le (a := 0) (by decide) (by decide)).mp negative) (by decide)
  | succ index ih =>
    refine scan_of_pred small ?_
    rw [Number.ofNat_succ_sub_one small]
    exact ih (Nat.le_of_succ_le small)

/-- Indices behind the last line make no difference to what is found. -/
private theorem lastBlockEnd?_min {source : Source} {first w : Nat} {window : Number}
    (whole : window.toNat? = some w) (small : first ≤ Number.exactBound) :
    source.lastBlockEnd? (Number.ofNat first - window) (min (first + 1) source.lines.length) =
      source.lastBlockEnd? (Number.ofNat first - window) (first + 1) := by
  have above : ∀ i < first + 1, Number.ofNat first - window < Number.ofNat i ↔ (first : Int) - w < i :=
    fun i lt => Number.sub_lt_ofNat whole small (by omega)
  refine Option.ext fun index => ?_
  rw [lastBlockEnd?_eq_some above, lastBlockEnd?_eq_some fun i lt => above i (by omega)]
  constructor
  · rintro ⟨inside, low, ends, none⟩
    refine ⟨by omega, low, ends, fun j more less => ?_⟩
    by_cases there : j < source.lines.length
    · exact none j more (by omega)
    · exact Bool.eq_false_iff.mpr fun ends => there (lt_length_of_endsBlock ends)
  · rintro ⟨inside, low, ends, none⟩
    have there := lt_length_of_endsBlock ends
    exact ⟨by omega, low, ends, fun j more less => none j more (by omega)⟩

/-- From a line number that is counted exactly the search ends, and it ends at the anchor. -/
theorem scan_anchor? (source : Source) {line w : Nat} {window : Number}
    (whole : window.toNat? = some w) (small : line ≤ Number.exactBound) :
    Scan source (Number.ofNat line - 2 - window) (Number.ofNat line - 2)
      (source.anchor? (Number.ofNat line) window) := by
  have difference : Number.ofNat line - 2 = Number.ofInt ((line : Int) - 2) :=
    Number.ofInt_sub (a := (line : Int)) (b := 2) (by omega) (by decide)
  by_cases enough : 2 ≤ line
  · obtain ⟨first, rfl⟩ : ∃ first, line = first + 2 := ⟨line - 2, by omega⟩
    have start : Number.ofNat (first + 2) - 2 = Number.ofNat first := by
      rw [difference, Number.ofNat]
      congr 1
      omega
    have place : (Number.ofNat first).toNat? = some first := Number.toNat?_ofNat (by omega)
    simp only [anchor?, start, place]
    rw [lastBlockEnd?_min whole (by omega)]
    exact scan_ofNat source _ (by omega)
  · have nowhere : (Number.ofInt ((line : Int) - 2)).toNat? = none := by
      have cases : line = 0 ∨ line = 1 := by omega
      rcases cases with rfl | rfl <;> decide
    have exactly : 2 ≤ Number.exactBound := by decide
    simp only [anchor?, difference, nowhere]
    refine .stopped ?_
    rintro ⟨-, positive⟩
    have natural := (Number.ofInt_le (a := 0) (by decide) (by omega)).mp positive
    omega

end Source

end DocMend
