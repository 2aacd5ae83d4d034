import DocMend.Drift
import DocMend.Proofs.Number.Order
import Mathlib.Algebra.GroupWithZero.Nat
/-!
Line numbers moved by one shift. Up to the exact bound a shift adds what was inserted; at the bound a
single line more makes no difference, and numbers behind the end of a file stay behind it.

The order of lines that are carried through insertions. No line is carried back or past another one, and
as long as nothing is rounded no two lines meet. Insertions before different lines carry a line to the same
place in either order, unless rounding tells the two sums of their counts apart.
-/

set_option autoImplicit false
set_option relaxedAutoImplicit false

namespace DocMend

/-- An insertion moves the lines from its index on, and no others. -/
theorem Shift.move_ofNat {line index count : Nat} (small : line + 1 ≤ Number.exactBound)
    (inside : index ≤ Number.exactBound) (few : count ≤ Number.exactBound) :
    Shift.move (Number.ofNat (line + 1)) ⟨Number.ofNat index, count⟩ =
      Number.ofNat (if index ≤ line then line + 1 + count else line + 1) := by
  simp only [Shift.move, Number.ofNat_succ_sub_one small,
    Number.ofNat_le inside (Nat.le_of_succ_le small)]
  split
  · exact Number.ofNat_add small few
  · rfl

theorem Shift.move_zero {index count : Nat} (inside : index ≤ Number.exactBound) :
    Shift.move (Number.ofNat 0) ⟨Number.ofNat index, count⟩ = Number.ofNat 0 := by
  have negative : ¬Number.ofNat index ≤ Number.ofNat 0 - 1 := by
    rw [Number.zero_sub_one, Number.ofNat, Number.ofInt_le (by omega) (by decide)]
    omega
  simp only [Shift.move, if_neg negative]

/-- The same for every index, however far behind the line. -/
theorem Shift.move_ofNat_of_le {line index count : Nat} (small : line + count ≤ Number.exactBound) :
    Shift.move (Number.ofNat line) ⟨Number.ofNat index, count⟩ =
      Number.ofNat (if index < line then line + count else line) := by
  by_cases exact : index ≤ Number.exactBound
  · cases line with
    | zero => exact Shift.move_zero exact
    | succ line =>
      rw [Shift.move_ofNat (by omega) exact (by omega)]
      simp only [Nat.lt_succ_iff]
  · have positive : 0 < Number.exactBound := by decide
    have behind : Number.Beyond (Number.exactBound - 1) (Number.ofNat index) :=
      Number.beyond_ofNat (by omega) (by omega)
    have place : Number.ofNat line - 1 = .finite (((line : Int) - 1 : Int) : Rat) := by
      rw [Number.ofNat_eq_finite (by omega)]
      exact (Number.finite_sub (b := 1)).trans (Number.ofInt_eq_finite (by omega))
    have short : ((line : Int) - 1) ≤ (Number.exactBound - 1 : Nat) := by omega
    rw [if_neg (by omega), Shift.move, place, if_neg (behind.not_le short)]

theorem Shift.move_beyond {size index count : Nat} {line : Number}
    (beyond : Number.Beyond size line) (inside : index < size)
    (small : size + count < Number.exactBound) :
    Number.Beyond (size + count) (Shift.move line ⟨Number.ofNat index, count⟩) := by
  have moved : Number.ofNat index ≤ line - 1 :=
    (beyond.mono (Nat.le_of_lt inside)).le_pred (by omega)
  simp only [Shift.move, if_pos moved]
  exact beyond.add small

/-- A shift by one line moves numbers below the bound exactly and leaves them there. -/
theorem Shift.move_min {line index : Nat} (inside : index < Number.exactBound) :
    Shift.move (Number.ofNat (min (line + 1) Number.exactBound)) ⟨Number.ofNat index, 1⟩ =
      Number.ofNat (min ((if index ≤ line then line + 1 else line) + 1) Number.exactBound) := by
  have stuck : Number.ofNat (Number.exactBound + 1) = Number.ofNat Number.exactBound := by
    decide +kernel
  have few : 1 ≤ Number.exactBound := by decide
  by_cases small : line + 1 ≤ Number.exactBound
  · rw [Nat.min_eq_left small, Shift.move_ofNat small (Nat.le_of_lt inside) few]
    split
    · by_cases last : line + 1 = Number.exactBound
      · rw [last, stuck, Nat.min_eq_right (Nat.le_succ _)]
      · rw [Nat.min_eq_left (by omega)]
    · rw [Nat.min_eq_left small]
  · obtain ⟨top, bound⟩ : ∃ top, Number.exactBound = top + 1 := ⟨Number.exactBound - 1, by omega⟩
    have whole : top + 1 ≤ Number.exactBound := by omega
    have move := Shift.move_ofNat whole (Nat.le_of_lt inside) few
    rw [if_pos (by omega), ← bound, stuck] at move
    rw [Nat.min_eq_right (by omega), move, if_pos (by omega), Nat.min_eq_right (by omega)]

open Number (ofNat exactBound)

namespace Shift

section One

variable {m n : Nat} (shift : Shift)

/-- A line that is moved has a line number again. -/
theorem exists_move (n : Nat) : ∃ k, move (ofNat n) shift = ofNat k := by
  rw [move]
  split
  · exact Number.exists_ofNat_add n shift.count
  · exact ⟨n, rfl⟩

theorem le_move (n : Nat) : ofNat n ≤ move (ofNat n) shift := by
  rw [move]
  split
  · exact Number.le_ofNat_add n shift.count
  · exact le_refl _

theorem move_mono (le : ofNat m ≤ ofNat n) : move (ofNat m) shift ≤ move (ofNat n) shift := by
  by_cases reached : shift.index ≤ ofNat m - 1
  · have further : shift.index ≤ ofNat n - 1 := le_trans reached (Number.ofNat_pred_mono le)
    rw [move, move, if_pos reached, if_pos further]
    exact Number.ofNat_add_mono le shift.count
  · have kept : move (ofNat m) shift = ofNat m := if_neg reached
    rw [kept]
    exact le_trans le (shift.le_move n)

/-- Where a line is moved to when lines are counted exactly. -/
def carry (line : Nat) (shift : Shift) : Nat :=
  if shift.index ≤ ofNat line - 1 then line + shift.count else line

theorem le_carry (n : Nat) : n ≤ carry n shift := by
  rw [carry]
  split
  · exact Nat.le_add_right n shift.count
  · exact Nat.le_refl n

theorem carry_le (n : Nat) : carry n shift ≤ n + shift.count := by
  rw [carry]
  split
  · exact Nat.le_refl _
  · exact Nat.le_add_right n shift.count

/-- Lines that are counted exactly never meet. -/
theorem carry_lt (less : m < n) : carry m shift < carry n shift := by
  by_cases reached : shift.index ≤ ofNat m - 1
  · have further : shift.index ≤ ofNat n - 1 :=
      le_trans reached (Number.ofNat_pred_mono (Number.ofNat_mono (Nat.le_of_lt less)))
    rw [carry, carry, if_pos reached, if_pos further]
    exact Nat.add_lt_add_right less shift.count
  · have kept : carry m shift = m := if_neg reached
    rw [kept]
    exact Nat.lt_of_lt_of_le less (shift.le_carry n)

/-- Up to the exact bound lines are counted exactly. -/
theorem move_eq_carry (small : carry n shift ≤ exactBound) :
    move (ofNat n) shift = ofNat (carry n shift) := by
  rw [carry] at small
  rw [move, carry]
  split
  · rename_i reached
    rw [if_pos reached] at small
    exact Number.ofNat_add (by omega) (by omega)
  · rfl

theorem carry_lt_of_move_lt (less : move (ofNat n) shift < ofNat exactBound) :
    carry n shift < exactBound := by
  rw [move] at less
  rw [carry]
  split
  · rename_i reached
    rw [if_pos reached] at less
    exact Number.add_lt_of_ofNat_add_lt less
  · rename_i missed
    rw [if_neg missed] at less
    exact Number.lt_of_ofNat_lt less

/-- A line below an insertion is moved, however far below it is. -/
theorem move_of_le {index count : Nat} (small : index + 1 ≤ exactBound)
    (below : ofNat (index + 1) ≤ ofNat n) :
    move (ofNat n) ⟨ofNat index, count⟩ = ofNat n + ofNat count := by
  have reached := Number.ofNat_pred_mono below
  rw [Number.ofNat_succ_sub_one small] at reached
  rw [move, if_pos reached]

/-- Two insertions move a line to the same number in either order if their counts can be added to it in
either order. The lower one counts the lines that the upper one has put in. -/
theorem move_comm {i j a b : Nat} (less : i < j) (few : j + a + b < exactBound) {line : Nat}
    (sums : ofNat line + ofNat a + ofNat b = ofNat line + ofNat b + ofNat a) :
    move (move (ofNat line) ⟨ofNat i, a⟩) ⟨ofNat (j + a), b⟩ =
      move (move (ofNat line) ⟨ofNat j, b⟩) ⟨ofNat i, a⟩ := by
  by_cases above : line ≤ j
  · have kept : ¬j < line := by omega
    rw [move_ofNat_of_le (by omega : line + a ≤ exactBound),
      move_ofNat_of_le (by omega : line + b ≤ exactBound), if_neg kept,
      move_ofNat_of_le (by omega : line + a ≤ exactBound)]
    by_cases between : i < line
    · rw [if_pos between, move_ofNat_of_le (by omega), if_neg (by omega)]
    · rw [if_neg between, move_ofNat_of_le (by omega), if_neg (by omega)]
  · -- both insertions are above the line, also when it is rounded between them
    have lower : ofNat (j + 1) ≤ ofNat line := Number.ofNat_mono (by omega)
    have upper : ofNat (i + 1) ≤ ofNat line := Number.ofNat_mono (by omega)
    obtain ⟨first, added⟩ := Number.exists_ofNat_add line a
    obtain ⟨second, added'⟩ := Number.exists_ofNat_add line b
    have first_below : ofNat (j + a + 1) ≤ ofNat first := by
      have further := Number.ofNat_add_mono lower a
      rwa [Number.ofNat_add (by omega) (by omega), Nat.add_right_comm, added] at further
    have second_below : ofNat (i + 1) ≤ ofNat second := by
      have further := Number.le_ofNat_add line b
      rw [added'] at further
      exact le_trans upper further
    rw [move_of_le (by omega) upper, move_of_le (by omega) lower, added, added',
      move_of_le (by omega) first_below, move_of_le (by omega) second_below, ← added, ← added',
      sums]

end One

section Several

variable {m n : Nat} (shifts : List Shift)

/-- A line that is carried through insertions has a line number again. -/
theorem exists_foldl_move (n : Nat) : ∃ k, shifts.foldl move (ofNat n) = ofNat k := by
  induction shifts generalizing n with
  | nil => exact ⟨n, rfl⟩
  | cons shift rest ih =>
    obtain ⟨k, moved⟩ := shift.exists_move n
    rw [List.foldl_cons, moved]
    exact ih k

/-- No line is carried back. -/
theorem le_foldl_move (n : Nat) : ofNat n ≤ shifts.foldl move (ofNat n) := by
  induction shifts generalizing n with
  | nil => exact le_refl _
  | cons shift rest ih =>
    obtain ⟨k, moved⟩ := shift.exists_move n
    have first := shift.le_move n
    rw [List.foldl_cons]
    rw [moved] at first ⊢
    exact le_trans first (ih k)

/-- No line is carried past another one. -/
theorem foldl_move_mono (le : ofNat m ≤ ofNat n) :
    shifts.foldl move (ofNat m) ≤ shifts.foldl move (ofNat n) := by
  induction shifts generalizing m n with
  | nil => exact le
  | cons shift rest ih =>
    obtain ⟨k, upper⟩ := shift.exists_move m
    obtain ⟨l, lower⟩ := shift.exists_move n
    have order := shift.move_mono le
    rw [upper, lower] at order
    rw [List.foldl_cons, List.foldl_cons, upper, lower]
    exact ih order

theorem le_foldl_carry (n : Nat) : n ≤ shifts.foldl carry n := by
  induction shifts generalizing n with
  | nil => exact Nat.le_refl n
  | cons shift rest ih => exact Nat.le_trans (shift.le_carry n) (ih _)

theorem foldl_carry_le (n : Nat) :
    shifts.foldl carry n ≤ n + (shifts.map count).sum := by
  induction shifts generalizing n with
  | nil => exact Nat.le_refl n
  | cons shift rest ih =>
    have first := shift.carry_le n
    have others := ih (shift.carry n)
    rw [List.foldl_cons, List.map_cons, List.sum_cons]
    omega

theorem foldl_carry_lt (less : m < n) :
    shifts.foldl carry m < shifts.foldl carry n := by
  induction shifts generalizing m n with
  | nil => exact less
  | cons shift rest ih => exact ih (shift.carry_lt less)

/-- While the exact count stays within the bound it is where the line is carried to. -/
theorem foldl_move_eq_carry (small : shifts.foldl carry n ≤ exactBound) :
    shifts.foldl move (ofNat n) = ofNat (shifts.foldl carry n) := by
  induction shifts generalizing n with
  | nil => rfl
  | cons shift rest ih =>
    have here : shift.carry n ≤ exactBound := Nat.le_trans (le_foldl_carry rest _) small
    rw [List.foldl_cons, List.foldl_cons, shift.move_eq_carry here]
    exact ih small

/-- What is carried to a number below the bound was counted exactly. -/
theorem foldl_carry_lt_of_lt (less : shifts.foldl move (ofNat n) < ofNat exactBound) :
    shifts.foldl carry n < exactBound := by
  induction shifts generalizing n with
  | nil => exact Number.lt_of_ofNat_lt less
  | cons shift rest ih =>
    have here : move (ofNat n) shift < ofNat exactBound := by
      obtain ⟨k, moved⟩ := shift.exists_move n
      rw [List.foldl_cons, moved] at less
      rw [moved]
      exact lt_of_le_of_lt (le_foldl_move rest k) less
    have exact_here := shift.carry_lt_of_move_lt here
    rw [List.foldl_cons, shift.move_eq_carry (Nat.le_of_lt exact_here)] at less
    exact ih less

/-- Two lines do not meet where the exact count of the second one stays within the bound. -/
theorem foldl_move_lt (less : m < n) (small : shifts.foldl carry n ≤ exactBound) :
    shifts.foldl move (ofNat m) < shifts.foldl move (ofNat n) := by
  have order := foldl_carry_lt shifts less
  rw [foldl_move_eq_carry shifts small, foldl_move_eq_carry shifts (by omega)]
  exact Number.ofNat_lt order small

end Several

end Shift

end DocMend
