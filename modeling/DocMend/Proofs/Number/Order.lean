import DocMend.Proofs.Number.Counting
import Mathlib.Algebra.Order.Ring.Unbundled.Rat
import Mathlib.Order.Defs.LinearOrder
/-!
The order of numbers, and line numbers in it. Line numbers beyond the exact bound are rounded, but adding
lines keeps their order and never takes one of them back.
-/

set_option autoImplicit false
set_option relaxedAutoImplicit false

namespace DocMend.Number

/-- Whole numbers are compared by their numerators, which is the order of the rationals. -/
theorem below_finite (a b : Rat) : below (.finite a) (.finite b) = decide (a < b) := by
  by_cases whole : (isWhole a && isWhole b) = true
  · have one : a.den = 1 ∧ b.den = 1 := by simpa [isWhole] using whole
    have numerators : a < b ↔ a.num < b.num := by
      rw [Rat.lt_iff, one.1, one.2]
      omega
    simp [below, whole, numerators]
  · simp [below, whole]

section Comparison

variable {a b : Rat} {negative other : Bool} {x y z : Number}

@[simp]
theorem finite_le_finite : Number.finite a ≤ .finite b ↔ a ≤ b := by
  show below (.finite b) (.finite a) = false ↔ a ≤ b
  simp [below_finite]

@[simp]
theorem finite_le_infinite : Number.finite a ≤ .infinite negative ↔ negative = false :=
  Iff.rfl

@[simp]
theorem infinite_le_finite : Number.infinite negative ≤ .finite a ↔ negative = true := by
  show (!negative) = false ↔ negative = true
  simp

@[simp]
theorem infinite_le_infinite :
    Number.infinite negative ≤ .infinite other ↔ negative = true ∨ other = false := by
  show (other && !negative) = false ↔ negative = true ∨ other = false
  cases negative <;> cases other <;> simp

theorem lt_iff_not_le : x < y ↔ ¬y ≤ x := by
  show below x y = true ↔ ¬below x y = false
  rw [Bool.not_eq_false]

private theorem le_or_le (x y : Number) : x ≤ y ∨ y ≤ x := by
  cases x with
  | finite a =>
    cases y with
    | finite b => simpa using le_total a b
    | infinite other => cases other <;> simp
  | infinite negative =>
    cases y with
    | finite b => cases negative <;> simp
    | infinite other => cases negative <;> cases other <;> simp

private theorem le_of_le_of_le (first : x ≤ y) (second : y ≤ z) : x ≤ z := by
  cases x with
  | finite a =>
    cases y with
    | finite b =>
      cases z with
      | finite c =>
        rw [finite_le_finite] at first second ⊢
        exact le_trans first second
      | infinite top => simpa using second
    | infinite other => cases z <;> simp_all
  | infinite negative => cases negative <;> cases y <;> cases z <;> simp_all

private theorem eq_of_le_of_le (first : x ≤ y) (second : y ≤ x) : x = y := by
  cases x with
  | finite a =>
    cases y with
    | finite b =>
      rw [finite_le_finite] at first second
      rw [le_antisymm first second]
    | infinite other => simp_all
  | infinite negative => cases y <;> cases negative <;> simp_all

instance : LinearOrder Number where
  le_refl x := (le_or_le x x).elim id id
  le_trans x y z := le_of_le_of_le
  le_antisymm x y := eq_of_le_of_le
  le_total := le_or_le
  lt_iff_le_not_ge x y := by
    rw [lt_iff_not_le]
    exact ⟨fun other => ⟨(le_or_le x y).resolve_right other, other⟩, And.right⟩
  toDecidableLE := inferInstance
  toDecidableEq := inferInstance
  toDecidableLT := inferInstance

end Comparison

/-- A natural number as a number: rounded, or out of range. -/
theorem ofNat_eq (n : Nat) : ofNat n =
    if overflow ≤ rounded n then .infinite false else .finite ((rounded n : Int) : Rat) := by
  by_cases small : n ≤ exactBound
  · have inside : ¬overflow ≤ rounded n := by
      rw [rounded_small small]
      exact Nat.not_le_of_lt (Nat.lt_of_le_of_lt small (by decide +kernel))
    rw [if_neg inside, rounded_small small, ofNat_eq_finite small]
  · have large : exactBound < n := Nat.lt_of_not_le small
    have inexact : ¬(isWhole ((n : Int) : Rat) = true ∧ ((n : Int) : Rat).num.natAbs ≤ exactBound) := by
      rw [Rat.num_intCast]
      omega
    have rounds : ofNat n = round ((n : Int) : Rat) := by
      simp only [ofNat, ofInt, Int.natAbs_natCast, if_neg small]
    have positive : ¬(n : Int) < 0 := by omega
    rw [rounds, round, if_neg inexact]
    simp only [Rat.num_intCast, Rat.den_intCast, Int.natAbs_natCast, roundMagnitude_one large,
      positive, if_false, decide_false, Rat.natCast_le_natCast]
    rfl

/-- Counting on keeps the order of line numbers, however far they are out. -/
theorem ofNat_mono {m n : Nat} (le : m ≤ n) : ofNat m ≤ ofNat n := by
  have kept := rounded_mono le
  rw [ofNat_eq m, ofNat_eq n]
  by_cases far : overflow ≤ rounded n
  · rw [if_pos far]
    split
    · exact le_refl _
    · exact finite_le_infinite.mpr rfl
  · have near : ¬overflow ≤ rounded m := fun reach => far (le_trans reach kept)
    rw [if_neg far, if_neg near]
    exact finite_le.mpr (Int.ofNat_le.mpr kept)

/-- A line number is infinite or a natural number that rounding leaves alone. -/
theorem ofNat_cases (n : Nat) : ofNat n = .infinite false ∨
    ∃ k : Nat, ofNat n = .finite ((k : Int) : Rat) ∧ ofNat k = .finite ((k : Int) : Rat) := by
  by_cases far : overflow ≤ rounded n
  · rw [ofNat_eq, if_pos far]
    exact Or.inl rfl
  · refine Or.inr ⟨rounded n, ?_, ?_⟩
    · rw [ofNat_eq, if_neg far]
    · rw [ofNat_eq, rounded_rounded, if_neg far]

theorem ofNat_le_infinite (n : Nat) : ofNat n ≤ .infinite false := by
  rcases ofNat_cases n with far | ⟨k, value, -⟩
  · rw [far]
  · rw [value]
    exact finite_le_infinite.mpr rfl

private theorem finite_add_natural (k c : Nat) :
    Number.finite ((k : Int) : Rat) + .finite ((c : Int) : Rat) = ofNat (k + c) :=
  finite_add

/-- A line number to which lines are added is a line number. -/
theorem exists_ofNat_add (m c : Nat) : ∃ n, ofNat m + ofNat c = ofNat n := by
  rcases ofNat_cases m with far | ⟨k, value, -⟩
  · exact ⟨m, by rw [far]; rfl⟩
  · rcases ofNat_cases c with far | ⟨d, count, -⟩
    · exact ⟨c, by rw [value, far]; rfl⟩
    · exact ⟨k + d, by rw [value, count, finite_add_natural]⟩

/-- Adding lines never takes a line number back. -/
theorem le_ofNat_add (m c : Nat) : ofNat m ≤ ofNat m + ofNat c := by
  rcases ofNat_cases m with far | ⟨k, value, fixed⟩
  · rw [far]
    exact le_refl _
  · rcases ofNat_cases c with far | ⟨d, count, -⟩
    · rw [value, far]
      exact finite_le_infinite.mpr rfl
    · rw [value, count, finite_add_natural, ← fixed]
      exact ofNat_mono (Nat.le_add_right k d)

private theorem natural_le {m n k l : Nat} (le : ofNat m ≤ ofNat n)
    (first : ofNat m = .finite ((k : Int) : Rat)) (second : ofNat n = .finite ((l : Int) : Rat)) :
    k ≤ l := by
  rw [first, second, finite_le] at le
  exact Int.ofNat_le.mp le

/-- Adding the same number of lines keeps the order of line numbers. -/
theorem ofNat_add_mono {m n : Nat} (le : ofNat m ≤ ofNat n) (c : Nat) :
    ofNat m + ofNat c ≤ ofNat n + ofNat c := by
  rcases ofNat_cases n with far | ⟨l, value_n, -⟩
  · obtain ⟨k, total⟩ := exists_ofNat_add m c
    rw [total, far]
    exact ofNat_le_infinite k
  · rcases ofNat_cases m with far | ⟨k, value_m, -⟩
    · rw [far, value_n, infinite_le_finite] at le
      exact absurd le (by decide)
    · have less := natural_le le value_m value_n
      rw [value_m, value_n]
      rcases ofNat_cases c with far | ⟨d, count, -⟩
      · rw [far]
        exact le_refl _
      · rw [count, finite_add_natural, finite_add_natural]
        exact ofNat_mono (Nat.add_le_add_right less d)

private theorem finite_pred (k : Nat) :
    Number.finite ((k : Int) : Rat) - 1 = if k = 0 then ofInt (-1) else ofNat (k - 1) := by
  have one : (1 : Number) = .finite ((1 : Int) : Rat) := ofNat_eq_finite (n := 1) (by decide)
  rw [one, finite_sub]
  cases k with
  | zero => rfl
  | succ k =>
    rw [if_neg (Nat.succ_ne_zero k), ofNat]
    congr 1
    omega

/-- Going back by one line keeps the order of line numbers. -/
theorem ofNat_pred_mono {m n : Nat} (le : ofNat m ≤ ofNat n) : ofNat m - 1 ≤ ofNat n - 1 := by
  rcases ofNat_cases n with far | ⟨l, value_n, -⟩
  · rw [far]
    rcases ofNat_cases m with far | ⟨k, value_m, -⟩
    · rw [far]
    · rw [value_m, finite_pred]
      split
      · rw [ofInt_eq_finite (by decide)]
        exact finite_le_infinite.mpr rfl
      · exact ofNat_le_infinite (k - 1)
  · rcases ofNat_cases m with far | ⟨k, value_m, -⟩
    · rw [far, value_n, infinite_le_finite] at le
      exact absurd le (by decide)
    · have less := natural_le le value_m value_n
      rw [value_m, value_n, finite_pred, finite_pred]
      by_cases first : k = 0
      · rw [if_pos first]
        split
        · exact le_refl _
        · have negative : ofInt (-1) < ofNat 0 := ofInt_lt_ofNat (by decide) (by decide)
          exact le_trans (le_of_lt negative) (ofNat_mono (Nat.zero_le (l - 1)))
      · rw [if_neg first, if_neg (by omega)]
        exact ofNat_mono (Nat.sub_le_sub_right less 1)

theorem lt_of_ofNat_lt {m n : Nat} (less : ofNat m < ofNat n) : m < n :=
  Nat.lt_of_not_le fun back => not_le_of_gt less (ofNat_mono back)

theorem ofNat_lt {m n : Nat} (less : m < n) (small : n ≤ exactBound) : ofNat m < ofNat n := by
  rw [ofNat_eq_finite small, ofNat_eq_finite (by omega)]
  exact finite_lt.mpr (Int.ofNat_lt.mpr less)

/-- A sum of line numbers below the exact bound was not rounded. -/
theorem add_lt_of_ofNat_add_lt {m c : Nat} (less : ofNat m + ofNat c < ofNat exactBound) :
    m + c < exactBound := by
  have first : m < exactBound := lt_of_ofNat_lt (lt_of_le_of_lt (le_ofNat_add m c) less)
  rcases ofNat_cases c with far | ⟨d, count, fixed⟩
  · rw [ofNat_eq_finite (Nat.le_of_lt first), far] at less
    exact absurd (ofNat_le_infinite exactBound) (not_le_of_gt less)
  · have total : m + d < exactBound := by
      rw [ofNat_eq_finite (Nat.le_of_lt first), count, finite_add_natural] at less
      exact lt_of_ofNat_lt less
    have second : c < exactBound := by
      refine lt_of_ofNat_lt ?_
      rw [count, ← fixed]
      exact ofNat_lt (by omega) (Nat.le_refl _)
    rw [ofNat_add (Nat.le_of_lt first) (Nat.le_of_lt second)] at less
    exact lt_of_ofNat_lt less

end DocMend.Number
