import DocMend.Number.Decimal
import DocMend.Proofs.Number.Rounding
import DocMend.Proofs.Text.Word
import Mathlib.Data.Rat.Floor
/-!
The shortest decimal of a large natural number. Beyond the exact bound it is found after no more digits than
the number has, and after seventeen at the latest, so it is a natural number too, written with zeros behind
its digits. It is rounded to the number that it stands for.
-/

set_option autoImplicit false
set_option relaxedAutoImplicit false

namespace DocMend.Number

theorem powerOfTen_natCast (k : Nat) : powerOfTen (k : Int) = ((10 ^ k : Nat) : Rat) := by
  rw [powerOfTen, if_pos (Int.natCast_nonneg k), Int.toNat_natCast]
  rfl

theorem round_natCast (n : Nat) : round (n : Rat) = ofNat n := by
  by_cases small : n ≤ exactBound
  · rw [ofNat_eq_finite small, round, if_pos ⟨by simp [isWhole], by simpa using small⟩]
    rfl
  · rw [ofNat, ofInt, if_neg (by simpa using small)]
    rfl

theorem lt_overflow_of_finite {n : Nat} {q : Rat} (value : ofNat n = .finite q) : n < overflow := by
  by_contra beyond
  have last : rounded overflow = overflow := by decide +kernel
  have far : overflow ≤ rounded n := last ▸ rounded_mono (Nat.le_of_not_lt beyond)
  rw [ofNat_eq, if_pos far] at value
  exact absurd value (by simp)

section Neighbours

variable {q : Rat} {point : Int} {count n low : Nat}

theorem readsBack_of_neighbour? (found : neighbour? q point count = some n) :
    readsBack q (n * powerOfTen (point - count)) = true := by
  simp only [neighbour?] at found
  split at found
  · rename_i below above
    split_ifs at found <;> obtain rfl := Option.some.inj found <;> assumption
  · rename_i below above
    obtain rfl := Option.some.inj found
    exact below
  · rename_i below above
    obtain rfl := Option.some.inj found
    exact above
  · exact absurd found (by simp)

theorem neighbour?_ne_none (grid : (q / powerOfTen (point - count)).floor.toNat = low)
    (reads : readsBack q (low * powerOfTen (point - count)) = true ∨
      readsBack q ((low + 1 : Nat) * powerOfTen (point - count)) = true) :
    neighbour? q point count ≠ none := by
  intro nothing
  simp only [neighbour?, grid] at nothing
  split at nothing
  · split_ifs at nothing
  · exact absurd nothing (by simp)
  · exact absurd nothing (by simp)
  · rename_i below above
    rcases reads with reads | reads
    · exact absurd (reads.symm.trans below) (by decide)
    · exact absurd (reads.symm.trans above) (by decide)

end Neighbours

theorem floor_div_powerOfTen (n k : Nat) :
    ((n : Rat) / powerOfTen (k : Int)).floor.toNat = n / 10 ^ k := by
  have floor : ((n : Rat) / ((10 ^ k : Nat) : Rat)).floor = ((n / 10 ^ k : Nat) : Int) :=
    Rat.floor_natCast_div_natCast n (10 ^ k)
  rw [powerOfTen_natCast, floor, Int.toNat_natCast]

theorem readsBack_natCast {q n : Nat} (k : Nat) : readsBack (q : Rat) (n * powerOfTen (k : Int)) = true ↔
    ofNat (n * 10 ^ k) = .finite (q : Rat) := by
  rw [readsBack, beq_iff_eq, powerOfTen_natCast, ← Nat.cast_mul, round_natCast]

theorem pointOf_natCast {n : Nat} (positive : 0 < n) :
    pointOf (n : Rat) = (Nat.toDigits 10 n).length := by
  have length := Nat.length_toDigits_pos (b := 10) (n := n)
  have guess : ((Nat.toDigits 10 n).length : Int) - (Nat.toDigits 10 1).length =
      ((Nat.toDigits 10 n).length - 1 : Nat) := by
    rw [show (Nat.toDigits 10 1).length = 1 by decide]
    omega
  have reaches : powerOfTen ((Nat.toDigits 10 n).length - 1 : Nat) ≤ (n : Rat) := by
    rw [powerOfTen_natCast]
    exact_mod_cast Text.pow_length_toDigits_le positive
  rw [pointOf, Rat.num_natCast, Rat.den_natCast, Int.natAbs_natCast, guess, if_pos reaches]
  omega

section Large

variable {q : Nat} (large : exactBound < q) (value : ofNat q = .finite (q : Rat))

include large value

theorem ofNat_eq_of_near {n : Nat} (near : powerOfTwo 53 * (2 * Nat.dist n q) < q) :
    ofNat n = .finite (q : Rat) := by
  have fixed : rounded q = q := by
    rw [ofNat_eq] at value
    split at value
    · exact absurd value (by simp)
    · have same : ((rounded q : Nat) : Rat) = (q : Rat) := Number.finite.inj value
      exact_mod_cast same
  have same := rounded_eq_of_near large fixed near
  rw [← value, ofNat_eq, ofNat_eq, same, fixed]

/-- With all digits of the number, or with seventeen, one of the neighbours reads back. -/
theorem neighbour?_last {count k : Nat} (length : (Nat.toDigits 10 q).length = count + k)
    (enough : k = 0 ∨ count = 17) : neighbour? q (count + k) count ≠ none := by
  have width : (count + k : Int) - count = k := by omega
  have unit : 0 < 10 ^ k := Nat.pow_pos (by decide)
  have parts := Nat.div_add_mod' q (10 ^ k)
  have rest := Nat.mod_lt q unit
  have next : (q / 10 ^ k + 1) * 10 ^ k = q / 10 ^ k * 10 ^ k + 10 ^ k := Nat.succ_mul _ _
  have reach : k = 0 ∨ 10 ^ 16 * 10 ^ k ≤ q := by
    refine enough.imp_right fun seventeen => ?_
    have least := Text.pow_length_toDigits_le (Nat.zero_lt_of_lt large)
    rwa [length, seventeen, show 17 + k - 1 = 16 + k by omega, Nat.pow_add] at least
  have fine : powerOfTwo 53 < 10 ^ 16 := by decide
  -- whichever neighbour is not further away than half a unit is near enough
  have near : ∀ d, 2 * d ≤ 10 ^ k → (k = 0 → d = 0) → powerOfTwo 53 * (2 * d) < q := by
    intro d half same
    rcases reach with unscaled | reach
    · rw [same unscaled]
      exact Nat.zero_lt_of_lt large
    · calc powerOfTwo 53 * (2 * d) ≤ powerOfTwo 53 * 10 ^ k := Nat.mul_le_mul_left _ half
        _ < 10 ^ 16 * 10 ^ k := Nat.mul_lt_mul_of_pos_right fine unit
        _ ≤ q := reach
  have grid : ((q : Rat) / powerOfTen ((count + k : Int) - count)).floor.toNat = q / 10 ^ k := by
    rw [width, floor_div_powerOfTen]
  refine neighbour?_ne_none grid ?_
  rw [width, readsBack_natCast, readsBack_natCast]
  by_cases half : 2 * (q % 10 ^ k) ≤ 10 ^ k
  · refine Or.inl (ofNat_eq_of_near large value (near _ ?_ fun none => ?_))
    · simp only [Nat.dist]
      omega
    · rw [none, Nat.pow_zero] at parts rest ⊢
      simp only [Nat.dist]
      omega
  · refine Or.inr (ofNat_eq_of_near large value (near _ ?_ fun none => ?_))
    · simp only [next, Nat.dist]
      omega
    · rw [none, Nat.pow_zero] at half rest
      omega

/-- The search for a shortest decimal ends with a natural number that reads back. -/
theorem shortestFrom_natural {last count fuel : Nat} (inside : last ≤ (Nat.toDigits 10 q).length)
    (enough : last = (Nat.toDigits 10 q).length ∨ last = 17) (before : count ≤ last)
    (fueled : last < count + fuel) :
    ∃ n k : Nat, shortestFrom q (Nat.toDigits 10 q).length count fuel =
        ⟨significantDigits n, k + (Nat.toDigits 10 n).length⟩ ∧ ofNat (n * 10 ^ k) = .finite (q : Rat) := by
  induction fuel generalizing count with
  | zero => omega
  | succ fuel ih =>
    obtain ⟨k, length⟩ : ∃ k, (Nat.toDigits 10 q).length = count + k :=
      Nat.exists_eq_add_of_le (before.trans inside)
    have width : ((Nat.toDigits 10 q).length : Int) - count = k := by omega
    cases found : neighbour? q (Nat.toDigits 10 q).length count with
    | some n =>
      have reads := readsBack_of_neighbour? found
      rw [width, readsBack_natCast] at reads
      exact ⟨n, k, by rw [shortestFrom, found, width], reads⟩
    | none =>
      have later : count ≠ last := by
        rintro rfl
        refine neighbour?_last large value length (enough.imp (fun all => by omega) id) ?_
        rwa [length, Int.natCast_add] at found
      rw [shortestFrom, found]
      exact ih (by omega) (by omega)

/-- The shortest decimal of a large natural number is one that is rounded to it. -/
theorem shortest_natural : ∃ n k : Nat,
    shortest (q : Rat) = ⟨significantDigits n, k + (Nat.toDigits 10 n).length⟩ ∧
      ofNat (n * 10 ^ k) = .finite (q : Rat) := by
  have length := Nat.length_toDigits_pos (b := 10) (n := q)
  have inside : min (Nat.toDigits 10 q).length 17 ≤ (Nat.toDigits 10 q).length := Nat.min_le_left _ _
  rw [shortest, pointOf_natCast (Nat.zero_lt_of_lt large)]
  exact shortestFrom_natural large value inside (by omega) (by omega) (by omega)

end Large

section Written

/-- Texts of natural numbers: digits without zeros in front, or a digit and the digits behind its point,
scaled by a power of ten that moves the point behind all of them. -/
inductive Writes : List Char → Nat → Prop
  | digits {cs : List Char} (digits : Text.isDigits cs = true) (lead : cs.head? = some '0' → cs = ['0']) :
      Writes cs (Text.digitsValue cs)
  | scaled {first : Char} {rest : List Char} {power : Nat} (digits : Text.isDigits (first :: rest) = true)
      (lead : first ≠ '0') (reach : rest.length ≤ power) :
      Writes ([first] ++ (if rest.isEmpty then [] else '.' :: rest) ++ ['e', '+'] ++ Nat.toDigits 10 power)
        (Text.digitsValue (first :: rest) * 10 ^ (power - rest.length))

variable {cs : List Char} {n q : Nat}

/-- The text of a natural number begins with a digit. -/
theorem Writes.exists_digit (writes : Writes cs n) : ∃ c more, cs = c :: more ∧ c.isDigit = true := by
  cases writes with
  | digits digits lead =>
    obtain ⟨filled, all⟩ := Text.isDigits_iff.mp digits
    obtain ⟨c, more, rfl⟩ := List.exists_cons_of_ne_nil filled
    exact ⟨c, more, rfl, all c List.mem_cons_self⟩
  | scaled digits lead reach =>
    exact ⟨_, _, rfl, (Text.isDigits_iff.mp digits).2 _ List.mem_cons_self⟩

/-- A decimal whose point is not in front of its last digit writes a natural number. -/
theorem Decimal.writes (digits : Text.isDigits cs = true) (lead : cs.head? ≠ some '0') (move : Nat) :
    Writes (Decimal.text ⟨cs, move + cs.length⟩) (Text.digitsValue cs * 10 ^ move) := by
  obtain ⟨filled, all⟩ := Text.isDigits_iff.mp digits
  have right : (cs.length : Int) ≤ move + cs.length := by omega
  simp only [Decimal.text]
  by_cases near : (move + cs.length : Int) ≤ layout.furthestRight
  · rw [if_pos ⟨right, near⟩, Int.add_sub_cancel, Int.toNat_natCast, ← Text.digitsValue_zeros]
    refine Writes.digits (Text.isDigits_iff.mpr ⟨by simp [filled], fun c mem => ?_⟩) fun zero => ?_
    · rcases List.mem_append.mp mem with digit | zero
      · exact all c digit
      · rw [List.eq_of_mem_replicate zero]
        rfl
    · rw [List.head?_append_of_ne_nil _ filled] at zero
      exact absurd zero lead
  · rw [if_neg (fun both => near both.2), if_neg (fun both => near both.2)]
    cases cs with
    | nil => exact absurd rfl filled
    | cons first rest =>
      have power : (move + (first :: rest).length : Int) - 1 = (move + rest.length : Nat) := by
        rw [List.length_cons]
        omega
      have positive : ¬((move + rest.length : Nat) : Int) < 0 := by omega
      have far : ¬(layout.furthestLeft < (move + (first :: rest).length : Int) ∧
          (move + (first :: rest).length : Int) ≤ 0) := by
        rw [List.length_cons]
        omega
      have scaled := Writes.scaled digits (fun zero => lead (by rw [zero]; rfl))
        (Nat.le_add_left rest.length move)
      rw [Nat.add_sub_cancel] at scaled
      rw [if_neg far, power, if_neg positive, Int.natAbs_natCast]
      exact scaled

theorem exists_zeros (n : Nat) :
    ∃ zeros, Nat.toDigits 10 n = significantDigits n ++ List.replicate zeros '0' := by
  have zeros : ∀ c ∈ ((Nat.toDigits 10 n).reverse.takeWhile (· == '0')).reverse, c = '0' := fun c mem => by
    simpa using List.all_eq_true.mp List.all_takeWhile c (List.mem_reverse.mp mem)
  have parts : significantDigits n ++ ((Nat.toDigits 10 n).reverse.takeWhile (· == '0')).reverse =
      Nat.toDigits 10 n := by
    rw [significantDigits, ← List.reverse_append, List.takeWhile_append_dropWhile, List.reverse_reverse]
  exact ⟨_, parts.symm.trans (congrArg _ (List.eq_replicate_of_mem zeros))⟩

/-- Without the zeros at its end a number is written as well, its point moved behind them. -/
theorem Decimal.writes_significantDigits (positive : 0 < n) (k : Nat) :
    Writes (Decimal.text ⟨significantDigits n, k + (Nat.toDigits 10 n).length⟩) (n * 10 ^ k) := by
  obtain ⟨zeros, whole⟩ := exists_zeros n
  have value : Text.digitsValue (significantDigits n) * 10 ^ zeros = n := by
    rw [← Text.digitsValue_zeros, ← whole, Text.digitsValue_toDigits]
  have filled : significantDigits n ≠ [] := by
    intro empty
    rw [empty, show Text.digitsValue [] = 0 from rfl, Nat.zero_mul] at value
    omega
  have digits : Text.isDigits (significantDigits n) = true :=
    Text.isDigits_iff.mpr ⟨filled, fun c mem =>
      Text.isDigit_of_mem_toDigits (n := n) (whole ▸ List.mem_append_left _ mem)⟩
  have lead : (significantDigits n).head? ≠ some '0' := by
    have first := Text.head_toDigits positive
    rwa [whole, List.head?_append_of_ne_nil _ filled] at first
  have point : (k + (Nat.toDigits 10 n).length : Int) =
      (k + zeros : Nat) + (significantDigits n).length := by
    rw [whole, List.length_append, List.length_replicate]
    omega
  have writes := Decimal.writes digits lead (k + zeros)
  rwa [← point, Nat.add_comm k, Nat.pow_add, ← Nat.mul_assoc, value] at writes

/-- The text of a natural number among the numbers writes one that is rounded to it. -/
theorem rationalText_writes (value : ofNat q = .finite (q : Rat)) :
    ∃ n, Writes (rationalText (q : Rat)) n ∧ ofNat n = .finite (q : Rat) := by
  have positive : ¬(q : Int) < 0 := by omega
  rw [rationalText, Rat.num_natCast, Rat.den_natCast, Int.natAbs_natCast, if_neg positive,
    List.nil_append, List.nil_append, if_neg positive]
  by_cases small : q ≤ exactBound
  · rw [if_pos ⟨rfl, small⟩]
    have lead : (Nat.toDigits 10 q).head? = some '0' → Nat.toDigits 10 q = ['0'] := by
      intro zero
      rcases Nat.eq_zero_or_pos q with rfl | more
      · rfl
      · exact absurd zero (Text.head_toDigits more)
    have writes := Writes.digits (Text.isDigits_toDigits q) lead
    rw [Text.digitsValue_toDigits] at writes
    exact ⟨q, writes, value⟩
  · rw [if_neg (fun both => small both.2)]
    obtain ⟨n, k, shortest, rounds⟩ := shortest_natural (Nat.lt_of_not_le small) value
    have some : 0 < n := by
      refine Nat.pos_of_ne_zero fun none => ?_
      rw [none, Nat.zero_mul, ofNat_eq_finite (Nat.zero_le _)] at rounds
      have zero : ((0 : Nat) : Rat) = (q : Rat) := Number.finite.inj rounds
      have nothing : 0 = q := by exact_mod_cast zero
      exact small (nothing ▸ Nat.zero_le _)
    rw [shortest]
    exact ⟨n * 10 ^ k, Decimal.writes_significantDigits some k, rounds⟩

end Written

end DocMend.Number
