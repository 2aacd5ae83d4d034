import DocMend.Proofs.Number.Order
import Mathlib.Data.Nat.Dist
/-!
Rounding of natural numbers, told without the computation. Of the numbers with 53 significant bits the
rounded one is nearest, and of two nearest ones it is the one that 52 bits are enough for.

Such numbers lie apart: two of them differ by no less than a 2^53rd of either, so what is much nearer to one of them
than that is rounded to it.
-/

set_option autoImplicit false
set_option relaxedAutoImplicit false

namespace DocMend.Number

/-- Natural numbers that are written with `bits` significant bits and zeros behind them. -/
def HasBits (bits n : Nat) : Prop :=
  ∃ significand shift, significand ≤ powerOfTwo bits ∧ n = significand * powerOfTwo shift

/-- The number of 53 bits that is nearest to a natural number, and of two nearest ones the even one. -/
structure RoundsTo (n m : Nat) : Prop where
  bits : HasBits 53 m
  nearest : ∀ other, HasBits 53 other → Nat.dist n m ≤ Nat.dist n other
  even : ∀ other, HasBits 53 other → Nat.dist n other = Nat.dist n m → other ≠ m → HasBits 52 m

/-- A rounded quotient is off by no more than half of the divisor, and even where it is off by half. -/
theorem dist_roundQuotient (n : Nat) {d : Nat} (positive : 0 < d) :
    2 * Nat.dist n (roundQuotient n d * d) ≤ d ∧
      (2 * Nat.dist n (roundQuotient n d * d) = d → roundQuotient n d % 2 = 0) := by
  have parts := Nat.div_add_mod n d
  have less := Nat.mod_lt n positive
  rw [Nat.mul_comm] at parts
  have next : (n / d + 1) * d = n / d * d + d := Nat.succ_mul _ _
  unfold roundQuotient
  dsimp only
  split_ifs <;> simp only [next, Nat.dist] <;> omega

/-- A number of 53 bits lies on a grid of powers of two, or below the numbers that need the grid. -/
theorem HasBits.grid {m : Nat} (bits : HasBits 53 m) (step : Nat) :
    (∃ c, m = c * powerOfTwo step) ∨ 2 * m ≤ powerOfTwo 53 * powerOfTwo step := by
  obtain ⟨significand, shift, le, rfl⟩ := bits
  by_cases fine : step ≤ shift
  · obtain ⟨more, rfl⟩ := Nat.exists_eq_add_of_le fine
    exact Or.inl ⟨significand * powerOfTwo more, by
      rw [powerOfTwo_add, Nat.mul_assoc, Nat.mul_comm (powerOfTwo step)]⟩
  · have below : powerOfTwo (shift + 1) ≤ powerOfTwo step := powerOfTwo_mono (by omega)
    refine Or.inr ?_
    calc 2 * (significand * powerOfTwo shift) = significand * powerOfTwo (shift + 1) := by
          rw [powerOfTwo_succ, Nat.mul_left_comm]
      _ ≤ powerOfTwo 53 * powerOfTwo step := Nat.mul_le_mul le below

private theorem step_le_dist {a c : Nat} (other : c ≠ a) (step : Nat) :
    step ≤ Nat.dist (c * step) (a * step) := by
  rw [Nat.dist_mul_right]
  exact Nat.le_mul_of_pos_left _ (Nat.dist_pos_of_ne other)

/-- A point of a grid is a whole step away from any other one, also by way of a number between them. -/
private theorem step_le_dist_add {a c : Nat} (other : c ≠ a) (n step : Nat) :
    step ≤ Nat.dist n (c * step) + Nat.dist n (a * step) := by
  have through := Nat.dist.triangle_inequality (c * step) n (a * step)
  rw [Nat.dist_comm _ n] at through
  exact (step_le_dist other step).trans through

private theorem half_scale (step : Nat) :
    powerOfTwo 53 * powerOfTwo step = 2 * (powerOfTwo 52 * powerOfTwo step) := by
  rw [powerOfTwo_succ 52, Nat.mul_assoc]

/-- No point of the grid is nearer than the rounded quotient. -/
private theorem dist_roundQuotient_le (n c : Nat) {d : Nat} (positive : 0 < d) :
    Nat.dist n (roundQuotient n d * d) ≤ Nat.dist n (c * d) := by
  by_cases same : c = roundQuotient n d
  · rw [same]
  · have step := step_le_dist_add same n d
    obtain ⟨near, -⟩ := dist_roundQuotient n positive
    omega

/-- Where another point of the grid is as near, the rounded quotient is even. -/
private theorem roundQuotient_even {n c d : Nat} (positive : 0 < d)
    (same : Nat.dist n (c * d) = Nat.dist n (roundQuotient n d * d))
    (other : c ≠ roundQuotient n d) : roundQuotient n d % 2 = 0 := by
  have step := step_le_dist_add other n d
  obtain ⟨near, tie⟩ := dist_roundQuotient n positive
  exact tie (by omega)

private theorem roundsTo_self {n : Nat} (bits : HasBits 53 n) : RoundsTo n n where
  bits := bits
  nearest := by
    intro other _
    rw [Nat.dist_self]
    exact Nat.zero_le _
  even := by
    intro other _ same apart
    rw [Nat.dist_self] at same
    exact absurd (Nat.eq_of_dist_eq_zero same).symm apart

/-- From the first number that needs the grid on, the nearest number of 53 bits is a point of the grid. -/
private theorem roundsTo_roundQuotient {n k : Nat}
    (start : powerOfTwo 52 * powerOfTwo (k + 1) ≤ n)
    (high : roundQuotient n (powerOfTwo (k + 1)) ≤ powerOfTwo 53) :
    RoundsTo n (roundQuotient n (powerOfTwo (k + 1)) * powerOfTwo (k + 1)) := by
  have positive := powerOfTwo_pos (k + 1)
  have twice := half_scale (k + 1)
  -- below the grid nothing is as near as the first point of the grid
  have first := dist_roundQuotient_le n (powerOfTwo 52) positive
  refine ⟨⟨_, k + 1, high, rfl⟩, fun other few => ?_, fun other few same apart => ?_⟩
  · rcases few.grid (k + 1) with ⟨c, rfl⟩ | below
    · exact dist_roundQuotient_le n c positive
    · simp only [Nat.dist] at first ⊢
      omega
  · obtain ⟨c, rfl⟩ : ∃ c, other = c * powerOfTwo (k + 1) := by
      rcases few.grid (k + 1) with grid | below
      · exact grid
      · refine ⟨powerOfTwo 52, ?_⟩
        simp only [Nat.dist] at first same
        omega
    have other : c ≠ roundQuotient n (powerOfTwo (k + 1)) := fun equal => apart (by rw [equal])
    obtain ⟨p, double⟩ := Nat.dvd_of_mod_eq_zero (roundQuotient_even positive same other)
    have fewer : p ≤ powerOfTwo 52 := by
      have half : powerOfTwo 53 = 2 * powerOfTwo 52 := powerOfTwo_succ 52
      omega
    exact ⟨p, k + 2, fewer, by
      rw [double, powerOfTwo_succ (k + 1), Nat.mul_comm 2, Nat.mul_assoc]⟩

theorem roundsTo_rounded (n : Nat) : RoundsTo n (rounded n) := by
  by_cases small : n ≤ exactBound
  · rw [rounded_small small]
    exact roundsTo_self ⟨n, 0, small, (Nat.mul_one n).symm⟩
  · have large : exactBound < n := Nat.lt_of_not_le small
    obtain ⟨k, q, bits, -, high, rfl, value⟩ := rounded_large large
    have start : powerOfTwo 52 * powerOfTwo (k + 1) ≤ n := by
      rw [← powerOfTwo_add, ← bits]
      exact Nat.log2_self_le (Nat.ne_zero_of_lt large)
    rw [value]
    exact roundsTo_roundQuotient start high

/-- A large number of 53 bits is not further away from another one than by its 2^53rd part. -/
theorem le_dist_of_hasBits {m q : Nat} (large : exactBound < q) (fixed : rounded q = q)
    (bits : HasBits 53 m) (other : m ≠ q) : q ≤ powerOfTwo 53 * Nat.dist m q := by
  obtain ⟨k, a, -, low, high, -, value⟩ := rounded_large large
  rw [fixed] at value
  subst value
  have twice := half_scale (k + 1)
  rcases bits.grid (k + 1) with ⟨c, rfl⟩ | below
  · have apart : c ≠ a := fun same => other (by rw [same])
    exact Nat.mul_le_mul high (step_le_dist apart _)
  · by_cases least : a = powerOfTwo 52
    · -- just below a power of two the grid is twice as fine
      have finer : a * powerOfTwo (k + 1) = powerOfTwo 53 * powerOfTwo k := by
        rw [least, powerOfTwo_succ k, powerOfTwo_succ 52, Nat.mul_left_comm, Nat.mul_assoc]
      rw [finer] at other ⊢
      rcases bits.grid k with ⟨c, rfl⟩ | lower
      · have apart : c ≠ powerOfTwo 53 := fun same => other (by rw [same])
        exact Nat.mul_le_mul_left _ (step_le_dist apart _)
      · have half : powerOfTwo 53 * powerOfTwo k ≤
            2 * Nat.dist m (powerOfTwo 53 * powerOfTwo k) := by
          simp only [Nat.dist]
          omega
        exact half.trans (Nat.mul_le_mul_right _ (by decide))
    · have next : (powerOfTwo 52 + 1) * powerOfTwo (k + 1) ≤ a * powerOfTwo (k + 1) :=
        Nat.mul_le_mul_right _ (by omega)
      rw [Nat.succ_mul] at next
      refine Nat.mul_le_mul high ?_
      simp only [Nat.dist]
      omega

/-- What is much nearer to a number of 53 bits than its neighbours are is rounded to it. -/
theorem rounded_eq_of_near {n q : Nat} (large : exactBound < q) (fixed : rounded q = q)
    (near : powerOfTwo 53 * (2 * Nat.dist n q) < q) : rounded n = q := by
  have rounds := roundsTo_rounded n
  by_contra other
  have least := rounds.nearest q (fixed ▸ (roundsTo_rounded q).bits)
  have far := le_dist_of_hasBits large fixed rounds.bits other
  have through := Nat.dist.triangle_inequality (rounded n) n q
  rw [Nat.dist_comm _ n] at through
  have within : powerOfTwo 53 * Nat.dist (rounded n) q ≤ powerOfTwo 53 * (2 * Nat.dist n q) :=
    Nat.mul_le_mul_left _ (by omega)
  omega

/-- The number that is nearest to a natural number; out of range it is infinite. -/
def Nearest (n : Nat) (x : Number) : Prop :=
  ∃ m, RoundsTo n m ∧ x = if overflow ≤ m then .infinite false else .finite ((m : Int) : Rat)

theorem nearest_ofNat (n : Nat) : Nearest n (ofNat n) :=
  ⟨rounded n, roundsTo_rounded n, ofNat_eq n⟩

end DocMend.Number
