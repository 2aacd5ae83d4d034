import DocMend.Number.Basic
import Mathlib.Tactic.SplitIfs
/-!
Rounding of natural numbers to 53 significant bits. It keeps the order, leaves alone what was rounded
before, and is exact up to the exact bound.

Whole numbers beyond the exact bound. Rounding may move them, but never back across a smaller whole
number: what lies beyond a line number still does after more lines are counted.

Counting lines with numbers: successors, predecessors and comparisons of line numbers are those of the
natural numbers up to the exact bound.
-/

set_option autoImplicit false
set_option relaxedAutoImplicit false

namespace DocMend.Number

theorem powerOfTwo_succ (n : Nat) : powerOfTwo (n + 1) = 2 * powerOfTwo n := by
  show Nat.pow 2 n * 2 = 2 * Nat.pow 2 n
  exact Nat.mul_comm _ _

theorem powerOfTwo_add (m n : Nat) :
    powerOfTwo (m + n) = powerOfTwo m * powerOfTwo n := by
  induction n with
  | zero => simp [powerOfTwo]
  | succ n ih =>
    rw [← Nat.add_assoc, powerOfTwo_succ, powerOfTwo_succ, ih]
    exact Nat.mul_left_comm _ _ _

theorem powerOfTwo_pos (n : Nat) : 0 < powerOfTwo n :=
  Nat.pow_pos (by decide)

theorem powerOfTwo_mono {m n : Nat} (le : m ≤ n) : powerOfTwo m ≤ powerOfTwo n :=
  Nat.pow_le_pow_right (by decide) le

/-- Rounding a quotient keeps the order. -/
theorem roundQuotient_mono {m n : Nat} (le : m ≤ n) (d : Nat) :
    roundQuotient m d ≤ roundQuotient n d := by
  have quotients : m / d ≤ n / d := Nat.div_le_div_right le
  by_cases same : m / d = n / d
  · have remainders : m % d ≤ n % d := by
      have split_m := Nat.div_add_mod m d
      have split_n := Nat.div_add_mod n d
      rw [same] at split_m
      omega
    unfold roundQuotient
    dsimp only
    rw [same]
    split_ifs <;> omega
  · have low : roundQuotient m d ≤ m / d + 1 := by
      unfold roundQuotient
      dsimp only
      split_ifs <;> omega
    have high : n / d ≤ roundQuotient n d := by
      unfold roundQuotient
      dsimp only
      split_ifs <;> omega
    omega

/-- A quotient without a remainder is not rounded. -/
theorem roundQuotient_mul (q : Nat) {d : Nat} (positive : 0 < d) : roundQuotient (q * d) d = q := by
  simp [roundQuotient, Nat.mul_div_cancel _ positive, positive]

/-- The natural number that a natural number is rounded to where the range has no end. -/
def rounded (n : Nat) : Nat :=
  if n ≤ exactBound then n
  else roundQuotient n (powerOfTwo (n.log2 - 52)) * powerOfTwo (n.log2 - 52)

theorem rounded_small {n : Nat} (small : n ≤ exactBound) : rounded n = n :=
  if_pos small

theorem log2_of_large {n : Nat} (large : exactBound < n) : 53 ≤ n.log2 :=
  (Nat.le_log2 (Nat.ne_zero_of_lt large)).mpr (Nat.le_of_lt large)

/-- Beyond the exact bound 53 bits are kept: the quotient by the step of the last of them. -/
theorem rounded_large {n : Nat} (large : exactBound < n) :
    ∃ k q, n.log2 = 52 + (k + 1) ∧ powerOfTwo 52 ≤ q ∧ q ≤ powerOfTwo 53 ∧
      q = roundQuotient n (powerOfTwo (k + 1)) ∧ rounded n = q * powerOfTwo (k + 1) := by
  obtain ⟨k, bits⟩ : ∃ k, n.log2 = 53 + k := Nat.exists_eq_add_of_le (log2_of_large large)
  have step : n.log2 - 52 = k + 1 := by omega
  have low : powerOfTwo 52 * powerOfTwo (k + 1) ≤ n := by
    rw [← powerOfTwo_add, show 52 + (k + 1) = n.log2 by omega]
    exact Nat.log2_self_le (Nat.ne_zero_of_lt large)
  have high : n < powerOfTwo 53 * powerOfTwo (k + 1) := by
    rw [← powerOfTwo_add, show 53 + (k + 1) = n.log2 + 1 by omega]
    exact Nat.lt_log2_self
  refine ⟨k, _, by omega, ?_, ?_, rfl, ?_⟩
  · calc powerOfTwo 52 = roundQuotient (powerOfTwo 52 * powerOfTwo (k + 1)) (powerOfTwo (k + 1)) :=
        (roundQuotient_mul _ (powerOfTwo_pos _)).symm
      _ ≤ _ := roundQuotient_mono low _
  · calc roundQuotient n (powerOfTwo (k + 1))
        ≤ roundQuotient (powerOfTwo 53 * powerOfTwo (k + 1)) (powerOfTwo (k + 1)) :=
          roundQuotient_mono (Nat.le_of_lt high) _
      _ = powerOfTwo 53 := roundQuotient_mul _ (powerOfTwo_pos _)
  · rw [rounded, if_neg (Nat.not_le_of_lt large), step]

private theorem rounded_bounds {n : Nat} (large : exactBound < n) :
    powerOfTwo n.log2 ≤ rounded n ∧ rounded n ≤ powerOfTwo (n.log2 + 1) := by
  obtain ⟨k, q, bits, low, high, -, value⟩ := rounded_large large
  rw [value, bits]
  constructor
  · rw [powerOfTwo_add]
    exact Nat.mul_le_mul_right _ low
  · rw [show 52 + (k + 1) + 1 = 53 + (k + 1) by omega, powerOfTwo_add 53]
    exact Nat.mul_le_mul_right _ high

/-- Rounding keeps the order. -/
theorem rounded_mono {m n : Nat} (le : m ≤ n) : rounded m ≤ rounded n := by
  by_cases few : n ≤ exactBound
  · rw [rounded_small (Nat.le_trans le few), rounded_small few]
    exact le
  · have large : exactBound < n := Nat.lt_of_not_le few
    have above := (rounded_bounds large).1
    by_cases small : m ≤ exactBound
    · calc rounded m = m := rounded_small small
        _ ≤ powerOfTwo 53 := small
        _ ≤ powerOfTwo n.log2 := powerOfTwo_mono (log2_of_large large)
        _ ≤ rounded n := above
    · have large_m : exactBound < m := Nat.lt_of_not_le small
      -- with one leading bit both have one step, and with two a power of two lies between them
      by_cases same : m.log2 = n.log2
      · rw [rounded, if_neg small, rounded, if_neg few, same]
        exact Nat.mul_le_mul_right _ (roundQuotient_mono le _)
      · have reach : powerOfTwo m.log2 ≤ m := Nat.log2_self_le (Nat.ne_zero_of_lt large_m)
        have bits : m.log2 ≤ n.log2 :=
          (Nat.le_log2 (Nat.ne_zero_of_lt large)).mpr (Nat.le_trans reach le)
        calc rounded m ≤ powerOfTwo (m.log2 + 1) := (rounded_bounds large_m).2
          _ ≤ powerOfTwo n.log2 := powerOfTwo_mono (by omega)
          _ ≤ rounded n := above

theorem exactBound_le_rounded {n : Nat} (large : exactBound ≤ n) : exactBound ≤ rounded n := by
  have kept := rounded_mono large
  rwa [rounded_small (Nat.le_refl _)] at kept

/-- A number that was rounded is its own rounding. -/
theorem rounded_rounded (n : Nat) : rounded (rounded n) = rounded n := by
  by_cases small : n ≤ exactBound
  · rw [rounded_small small, rounded_small small]
  · obtain ⟨k, q, bits, low, high, -, value⟩ := rounded_large (Nat.lt_of_not_le small)
    rw [value]
    by_cases few : q * powerOfTwo (k + 1) ≤ exactBound
    · exact rounded_small few
    · rw [rounded, if_neg few]
      by_cases full : q = powerOfTwo 53
      · -- carried into the next power of two, whose step is twice as long
        have next : q * powerOfTwo (k + 1) = powerOfTwo 52 * powerOfTwo (k + 2) := by
          rw [full, ← powerOfTwo_add, ← powerOfTwo_add]
          congr 1
          omega
        have step : (powerOfTwo 52 * powerOfTwo (k + 2)).log2 - 52 = k + 2 := by
          have leading : (powerOfTwo (52 + (k + 2))).log2 = 52 + (k + 2) := Nat.log2_two_pow
          rw [← powerOfTwo_add]
          omega
        rw [next, step, roundQuotient_mul _ (powerOfTwo_pos _)]
      · have leading : (q * powerOfTwo (k + 1)).log2 = 52 + (k + 1) := by
          refine (Nat.log2_eq_iff (by omega)).mpr ⟨?_, ?_⟩
          · show powerOfTwo (52 + (k + 1)) ≤ _
            rw [powerOfTwo_add]
            exact Nat.mul_le_mul_right _ low
          · show _ < powerOfTwo (52 + (k + 1) + 1)
            rw [show 52 + (k + 1) + 1 = 53 + (k + 1) by omega, powerOfTwo_add 53]
            exact Nat.mul_lt_mul_of_pos_right (by omega) (powerOfTwo_pos _)
        rw [leading, Nat.add_sub_cancel_left, roundQuotient_mul _ (powerOfTwo_pos _)]

private theorem leadingBit_one {n : Nat} (large : exactBound < n) :
    leadingBit n 1 = (n.log2 : Int) := by
  have reach : powerOfTwo n.log2 ≤ n := Nat.log2_self_le (Nat.ne_zero_of_lt large)
  have one : (Nat.log2 1 : Int) = 0 := by decide
  simp only [leadingBit, one, Int.sub_zero, Int.toNat_natCast, Nat.one_mul]
  simp only [Int.natCast_nonneg, if_true, reach]

/-- The magnitude of a natural number that is not exact. -/
theorem roundMagnitude_one {n : Nat} (large : exactBound < n) :
    roundMagnitude n 1 = (rounded n : Rat) := by
  obtain ⟨k, q, bits, -, -, quotient, value⟩ := rounded_large large
  have last : lastBit (leadingBit n 1) = ((k + 1 : Nat) : Int) := by
    rw [leadingBit_one large, bits, lastBit]
    omega
  simp only [roundMagnitude, Nat.ne_zero_of_lt large, last, Int.toNat_natCast, if_false]
  rw [if_pos (Int.natCast_nonneg _), Nat.one_mul, ← quotient, value]

/-- Beyond the exact bound a positive integer becomes an integer that is also beyond the bound, or
infinite. -/
private theorem round_large {i : Int} (large : exactBound < i.natAbs) :
    round (i : Rat) = .infinite (i < 0) ∨
      ∃ m : Nat, exactBound ≤ m ∧
        round (i : Rat) = .finite (if i < 0 then -(m : Rat) else (m : Rat)) := by
  have bound := exactBound_le_rounded (Nat.le_of_lt large)
  have value := roundMagnitude_one large
  have inexact : ¬(isWhole (i : Rat) = true ∧ (i : Rat).num.natAbs ≤ exactBound) := by
    rw [Rat.num_intCast]
    omega
  rw [round, if_neg inexact]
  simp only [Rat.num_intCast, Rat.den_intCast, value]
  split
  · exact Or.inl rfl
  · exact Or.inr ⟨_, bound, rfl⟩

theorem finite_lt {a b : Int} : Number.finite (a : Rat) < .finite (b : Rat) ↔ a < b := by
  show below (.finite (a : Rat)) (.finite (b : Rat)) = true ↔ a < b
  simp only [below, isWhole_intCast, Bool.and_self, if_true, Rat.num_intCast]
  exact decide_eq_true_iff

theorem finite_le {a b : Int} : Number.finite (a : Rat) ≤ .finite (b : Rat) ↔ a ≤ b := by
  show below (.finite (b : Rat)) (.finite (a : Rat)) = false ↔ a ≤ b
  simp only [below, isWhole_intCast, Bool.and_self, if_true, Rat.num_intCast]
  exact decide_eq_false_iff_not.trans Int.not_lt

theorem finite_add {a b : Int} :
    Number.finite (a : Rat) + .finite (b : Rat) = ofInt (a + b) := by
  show add (.finite (a : Rat)) (.finite (b : Rat)) = ofInt (a + b)
  simp [add, isWhole_intCast]

theorem finite_sub {a b : Int} :
    Number.finite (a : Rat) - .finite (b : Rat) = ofInt (a - b) := by
  show Number.finite (a : Rat) + .finite (-(b : Rat)) = ofInt (a - b)
  rw [← Rat.intCast_neg, finite_add, Int.sub_eq_add_neg]

theorem ofNat_eq_finite {n : Nat} (small : n ≤ exactBound) : ofNat n = .finite ((n : Int) : Rat) :=
  ofInt_eq_finite (i := n) small

/-- An integer that is not exact is infinite or a finite integer at least as far out as the exact
bound, on its own side of zero. -/
private theorem ofInt_large {i : Int} (large : exactBound < i.natAbs) :
    ofInt i = .infinite (i < 0) ∨
      ∃ m : Nat, exactBound ≤ m ∧
        ofInt i = .finite (((if i < 0 then -(m : Int) else (m : Int)) : Int) : Rat) := by
  have inexact : ¬i.natAbs ≤ exactBound := Nat.not_le_of_lt large
  have rounded : ofInt i = round (i : Rat) := by simp only [ofInt, inexact, if_false]
  rw [rounded]
  rcases round_large large with infinite | ⟨m, bound, value⟩
  · exact Or.inl infinite
  · refine Or.inr ⟨m, bound, value.trans ?_⟩
    split
    · rw [Rat.intCast_neg]
      rfl
    · rfl

/-- Whole numbers above `n`, and infinity. -/
def Beyond (n : Nat) (x : Number) : Prop :=
  x = .infinite false ∨ ∃ i : Int, (n : Int) < i ∧ x = .finite (i : Rat)

theorem beyond_ofInt {n : Nat} {i : Int} (small : n < exactBound) (above : (n : Int) < i) :
    Beyond n (ofInt i) := by
  by_cases exact : i.natAbs ≤ exactBound
  · exact Or.inr ⟨i, above, ofInt_eq_finite exact⟩
  · have positive : ¬i < 0 := by omega
    rcases ofInt_large (Nat.lt_of_not_le exact) with infinite | ⟨m, bound, value⟩
    · rw [decide_eq_false positive] at infinite
      exact Or.inl infinite
    · rw [if_neg positive] at value
      exact Or.inr ⟨m, by omega, value⟩

theorem beyond_ofNat {n line : Nat} (small : n < exactBound) (above : n < line) :
    Beyond n (ofNat line) :=
  beyond_ofInt small (Int.ofNat_lt.mpr above)

theorem Beyond.mono {m n : Nat} {x : Number} (beyond : Beyond n x) (le : m ≤ n) :
    Beyond m x := by
  rcases beyond with infinite | ⟨i, above, value⟩
  · exact Or.inl infinite
  · exact Or.inr ⟨i, by omega, value⟩

/-- What lies beyond `n` lies beyond `n + count` after `count` is added, rounded or not. -/
theorem Beyond.add {n count : Nat} {x : Number} (beyond : Beyond n x)
    (small : n + count < exactBound) : Beyond (n + count) (x + ofNat count) := by
  rcases beyond with rfl | ⟨i, above, rfl⟩
  · exact Or.inl rfl
  · rw [ofNat_eq_finite (by omega), finite_add]
    exact beyond_ofInt small (by omega)

theorem Beyond.lt {n : Nat} {x : Number} (beyond : Beyond n x) (small : n ≤ exactBound) :
    ofNat n < x := by
  rw [ofNat_eq_finite small]
  rcases beyond with rfl | ⟨i, above, rfl⟩
  · rfl
  · exact finite_lt.mpr above

theorem Beyond.not_le {n : Nat} {x : Number} (beyond : Beyond n x) {i : Int} (le : i ≤ n) :
    ¬x ≤ .finite (i : Rat) := by
  rcases beyond with rfl | ⟨j, above, rfl⟩
  · intro reaches
    exact absurd (show below (.finite (i : Rat)) (.infinite false) = false from reaches) (by simp [below])
  · rw [finite_le]
    omega

theorem Beyond.le_pred {n : Nat} {x : Number} (beyond : Beyond n x) (small : n ≤ exactBound) :
    ofNat n ≤ x - 1 := by
  rw [ofNat_eq_finite small]
  have one : (1 : Number) = .finite ((1 : Int) : Rat) := ofNat_eq_finite (n := 1) (by decide)
  rcases beyond with rfl | ⟨i, above, rfl⟩
  · rfl
  · rw [one, finite_sub]
    by_cases exact : (i - 1).natAbs ≤ exactBound
    · rw [ofInt_eq_finite exact, finite_le]
      omega
    · have positive : ¬i - 1 < 0 := by omega
      rcases ofInt_large (Nat.lt_of_not_le exact) with infinite | ⟨m, bound, value⟩
      · rw [infinite, decide_eq_false positive]
        rfl
      · rw [value, if_neg positive, finite_le]
        omega

theorem ofInt_lt_ofNat {i : Int} {n : Nat} (negative : i < 0) (small : n ≤ exactBound) :
    ofInt i < ofNat n := by
  rw [ofNat_eq_finite small]
  by_cases exact : i.natAbs ≤ exactBound
  · rw [ofInt_eq_finite exact, finite_lt]
    omega
  · rcases ofInt_large (Nat.lt_of_not_le exact) with infinite | ⟨m, bound, value⟩
    · rw [infinite, decide_eq_true negative]
      rfl
    · rw [value, if_pos negative, finite_lt]
      have far : 0 < m := Nat.lt_of_lt_of_le (by decide) bound
      omega

end DocMend.Number

namespace DocMend.Number

theorem ofNat_succ_sub_one {n : Nat} (small : n + 1 ≤ exactBound) :
    ofNat (n + 1) - 1 = ofNat n := by
  have difference := ofInt_sub (a := (n + 1 : Nat)) (b := (1 : Nat)) (by omega) (by decide)
  rw [show ((n + 1 : Nat) : Int) - (1 : Nat) = (n : Int) by omega] at difference
  exact difference

theorem zero_sub_one : (ofNat 0 - 1 : Number) = ofInt (-1) :=
  ofInt_sub (a := 0) (b := 1) (by decide) (by decide)

theorem ofNat_le {m n : Nat} (hm : m ≤ exactBound) (hn : n ≤ exactBound) :
    ofNat m ≤ ofNat n ↔ m ≤ n := by
  rw [ofNat, ofNat, ofInt_le (by omega) (by omega)]
  omega

theorem ofNat_add {m n : Nat} (hm : m ≤ exactBound) (hn : n ≤ exactBound) :
    ofNat m + ofNat n = ofNat (m + n) :=
  ofInt_add (a := m) (b := n) hm hn

/-- Which numbers are natural numbers. -/
theorem eq_finite_of_toNat? {x : Number} {n : Nat} (whole : x.toNat? = some n) :
    x = .finite ((n : Int) : Rat) := by
  cases x with
  | infinite negative => simp [toNat?, toInt?] at whole
  | finite q =>
    simp only [toNat?, toInt?] at whole
    by_cases integer : isWhole q = true
    · have one : q.den = 1 := by simpa [isWhole] using integer
      have value : q.num = (n : Int) := by
        rw [if_pos integer] at whole
        cases num : q.num with
        | ofNat k =>
          rw [num] at whole
          obtain rfl := Option.some.inj whole
          rfl
        | negSucc k =>
          rw [num] at whole
          exact absurd whole (by simp)
      rw [← value]
      congr 1
      exact Rat.ext (by simp) (by simp [one])
    · rw [if_neg integer] at whole
      exact absurd whole (by simp)

/-- The numbers that are a natural number. -/
theorem toNat?_eq_some_iff {n : Nat} {x : Number} : x.toNat? = some n ↔ x = .finite (n : Rat) := by
  refine ⟨eq_finite_of_toNat?, ?_⟩
  rintro rfl
  have whole : isWhole (n : Rat) = true := isWhole_intCast n
  have value : (n : Rat).num = n := rfl
  simp only [toNat?, toInt?, if_pos whole, value]

theorem le_of_toNat?_eq_some {n m : Nat} {x : Number} (small : n ≤ exactBound)
    (le : ofNat n ≤ x) (whole : x.toNat? = some m) : n ≤ m := by
  rw [ofNat_eq_finite small, eq_finite_of_toNat? whole, finite_le] at le
  omega

/-- Indices above the stop of a window, however far the window reaches. -/
theorem sub_lt_ofNat {first w i : Nat} {window : Number} (whole : window.toNat? = some w)
    (small : first ≤ exactBound) (few : i ≤ exactBound) :
    ofNat first - window < ofNat i ↔ (first : Int) - w < i := by
  have difference : ofNat first - window = ofInt ((first : Int) - w) := by
    rw [eq_finite_of_toNat? whole, ofNat_eq_finite small, finite_sub]
  rw [difference]
  by_cases exact : ((first : Int) - w).natAbs ≤ exactBound
  · exact ofInt_lt exact (by omega)
  · have negative : (first : Int) - w < 0 := by omega
    have below := ofInt_lt_ofNat negative few
    constructor
    · intro _
      omega
    · intro _
      exact below

end DocMend.Number
