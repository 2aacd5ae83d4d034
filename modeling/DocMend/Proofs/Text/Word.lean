import DocMend.Text.Blank
import DocMend.Text.Lowercase
import DocMend.Text.Search
import DocMend.Proofs.Text.Trim
import Mathlib.Tactic.IntervalCases
/-!
Word characters are letters, digits and the underscore of the first code points. None of them is blank, and
lower-casing keeps to them. Runs of decimal digits write numbers: a natural number is written without blanks and
without zeros in front.
-/

set_option autoImplicit false
set_option relaxedAutoImplicit false

namespace DocMend

namespace Text

/-- A word character is a code point below 128. -/
theorem isWordChar_lt {c : Char} (word : isWordChar c = true) : c.toNat < 128 := by
  have parts : (c.isUpper || c.isLower || c.isDigit || c == '_') = true := word
  have upper : c.isUpper = true → c.val ≤ 'Z'.val := fun h => (of_decide_eq_true h).2
  have lower : c.isLower = true → c.val ≤ 'z'.val := fun h =>
    of_decide_eq_true (Bool.and_eq_true_iff.mp h).2
  have digit : c.isDigit = true → c.val ≤ '9'.val := fun h =>
    of_decide_eq_true (Bool.and_eq_true_iff.mp h).2
  have below : ∀ d : Char, c.val ≤ d.val → d.toNat < 128 → c.toNat < 128 := fun d le small =>
    Nat.lt_of_le_of_lt (UInt32.le_iff_toNat_le.mp le) small
  simp only [Bool.or_eq_true, beq_iff_eq] at parts
  rcases parts with ((first | second) | third) | rfl
  · exact below 'Z' (upper first) (by decide)
  · exact below 'z' (lower second) (by decide)
  · exact below '9' (digit third) (by decide)
  · decide

private theorem inked_word_ascii : ∀ n < 128, isWordChar (Char.ofNat n) = true →
    isBlank (Char.ofNat n) = false := by
  decide

theorem isBlank_of_isWordChar {c : Char} (word : isWordChar c = true) : isBlank c = false := by
  have same : Char.ofNat c.toNat = c := Char.ofNat_toNat c
  rw [← same] at word ⊢
  exact inked_word_ascii _ (isWordChar_lt (same ▸ word)) word

private theorem toLower_word_ascii : ∀ n < 128, isWordChar (Char.ofNat n) = true →
    isWordChar (Char.ofNat n).toLower = true := by
  decide

theorem isWordChar_toLower {c : Char} (word : isWordChar c = true) :
    isWordChar c.toLower = true := by
  have same : Char.ofNat c.toNat = c := Char.ofNat_toNat c
  rw [← same] at word ⊢
  exact toLower_word_ascii _ (isWordChar_lt (same ▸ word)) word

namespace Lowercase

theorem mapped_word (before after : List Char) {c : Char} (word : isWordChar c = true) :
    mapped before c after = [c.toLower] := by
  have small := isWordChar_lt word
  have dotted : c ≠ 'İ' := by rintro rfl; exact absurd small (by decide)
  have sigma : c ≠ 'Σ' := by rintro rfl; exact absurd small (by decide)
  simp only [mapped, if_neg dotted, if_neg sigma, simple, if_pos small]

theorem lowerAfter_word (before : List Char) {cs : List Char}
    (word : ∀ c ∈ cs, isWordChar c = true) :
    ∀ c ∈ lowerAfter before cs, isWordChar c = true := by
  induction cs generalizing before with
  | nil => simp [lowerAfter]
  | cons d ds ih =>
    have head := word d List.mem_cons_self
    intro c mem
    rw [lowerAfter, mapped_word before ds head, List.singleton_append, List.mem_cons] at mem
    rcases mem with rfl | mem
    · exact isWordChar_toLower head
    · exact ih (d :: before) (fun e member => word e (List.mem_cons_of_mem _ member)) c mem

end Lowercase

/-- Lower-casing keeps to word characters. -/
theorem lowered_word {s : String} (word : ∀ c ∈ s.toList, isWordChar c = true) :
    ∀ c ∈ (lowered s).toList, isWordChar c = true := by
  rw [lowered, String.toList_ofList]
  exact Lowercase.lowerAfter_word [] word

section Digits

variable {cs rest : List Char} {n : Nat}

theorem isDigits_iff : isDigits cs = true ↔ cs ≠ [] ∧ ∀ c ∈ cs, c.isDigit = true := by
  simp [isDigits]

theorem takeWhile_digits (all : ∀ c ∈ cs, c.isDigit = true) (stop : ∀ c ∈ rest.head?, c.isDigit = false) :
    (cs ++ rest).takeWhile Char.isDigit = cs := by
  rw [List.takeWhile_append_of_pos all]
  cases rest with
  | nil => rw [List.takeWhile_nil, List.append_nil]
  | cons c rest =>
    have other : ¬c.isDigit = true := by simp [stop c rfl]
    rw [List.takeWhile_cons_of_neg other, List.append_nil]

theorem dropWhile_digits (all : ∀ c ∈ cs, c.isDigit = true) (stop : ∀ c ∈ rest.head?, c.isDigit = false) :
    (cs ++ rest).dropWhile Char.isDigit = rest := by
  rw [List.dropWhile_append_of_pos all]
  cases rest with
  | nil => rfl
  | cons c rest =>
    have other : ¬c.isDigit = true := by simp [stop c rfl]
    rw [List.dropWhile_cons_of_neg other]

theorem digitsValue_eq (cs : List Char) : digitsValue cs = Nat.ofDigitChars 10 cs 0 := by
  rw [digitsValue, Nat.ofDigitChars_eq_foldl]

theorem isDigit_of_mem_toDigits {c : Char} (mem : c ∈ Nat.toDigits 10 n) : c.isDigit = true :=
  Nat.isDigit_of_mem_toDigits (by decide) (by decide) mem

theorem digitsValue_cons (c : Char) (cs : List Char) :
    digitsValue (c :: cs) = (c.toNat - '0'.toNat) * 10 ^ cs.length + digitsValue cs := by
  rw [digitsValue_eq, digitsValue_eq, Nat.ofDigitChars_cons, Nat.ofDigitChars_eq_ofDigitChars_zero,
    Nat.mul_zero, Nat.zero_add, Nat.mul_comm]

/-- A run of digits does not write the power of ten that has one digit more. -/
theorem digitsValue_lt (all : ∀ c ∈ cs, c.isDigit = true) : digitsValue cs < 10 ^ cs.length := by
  induction cs with
  | nil => decide
  | cons c cs ih =>
    obtain ⟨here, all⟩ := List.forall_mem_cons.mp all
    have rest := ih all
    have digit : c.toNat - '0'.toNat ≤ 9 := Nat.sub_le_of_le_add (Char.isDigit_iff_toNat.mp here).2
    have units := Nat.mul_le_mul_right (10 ^ cs.length) digit
    rw [digitsValue_cons, List.length_cons, Nat.pow_succ]
    omega

/-- Every zero behind digits multiplies the number by ten. -/
theorem digitsValue_zeros (cs : List Char) (move : Nat) :
    digitsValue (cs ++ List.replicate move '0') = digitsValue cs * 10 ^ move := by
  rw [digitsValue_eq, digitsValue_eq, Nat.ofDigitChars_append, Nat.ofDigitChars_replicate_zero,
    Nat.mul_comm]

theorem digitsValue_toDigits (n : Nat) : digitsValue (Nat.toDigits 10 n) = n := by
  rw [digitsValue_eq, Nat.ofDigitChars_ten_toDigits]

theorem isDigits_toDigits (n : Nat) : isDigits (Nat.toDigits 10 n) = true :=
  isDigits_iff.mpr ⟨Nat.toDigits_ne_nil, fun _ mem => isDigit_of_mem_toDigits mem⟩

theorem isBlank_of_isDigit {c : Char} (digit : c.isDigit = true) : isBlank c = false :=
  isBlank_of_isWordChar (by rw [isWordChar, Char.isAlphanum, digit, Bool.or_true, Bool.true_or])

theorem trim_of_digits (all : ∀ c ∈ cs, c.isDigit = true) : trim cs = cs :=
  trim_eq_self_iff.mpr ⟨fun c first => isBlank_of_isDigit (all c (List.mem_of_head? first)),
    fun c last => isBlank_of_isDigit (all c (List.mem_of_getLast? last))⟩

/-- A positive number is written without a zero in front. -/
theorem head_toDigits (positive : 0 < n) : (Nat.toDigits 10 n).head? ≠ some '0' := by
  induction n using Nat.strongRecOn with
  | ind n ih =>
    by_cases small : n < 10
    · rw [Nat.toDigits_of_lt_base small]
      interval_cases n <;> decide
    · have quotient : 0 < n / 10 := by omega
      rw [Nat.toDigits_of_base_le (by decide) (by omega), List.head?_append_of_ne_nil _ Nat.toDigits_ne_nil]
      exact ih (n / 10) (by omega) quotient

/-- A number is not below the power of ten that its first digit stands for. -/
theorem pow_length_toDigits_le (positive : 0 < n) :
    10 ^ ((Nat.toDigits 10 n).length - 1) ≤ n := by
  by_cases one : (Nat.toDigits 10 n).length = 1
  · rw [one]
    exact positive
  · have length := Nat.length_toDigits_pos (b := 10) (n := n)
    by_contra less
    have shorter := (Nat.length_toDigits_le_iff (by decide) (by omega)).mpr (Nat.lt_of_not_le less)
    omega

end Digits

end Text

end DocMend
