/-!
Sixteen-bit code units. A character beyond U+FFFF counts as two units, a high and a low surrogate,
so the order of strings by units differs from the order by characters there.
-/

set_option autoImplicit false
set_option relaxedAutoImplicit false

namespace DocMend.Text

/-- The code units of one character. -/
def unitsOf (c : Char) : List Nat :=
  let n := c.toNat
  if n < 0x10000 then [n] else [0xD7C0 + n / 0x400, 0xDC00 + n % 0x400]

/-- The code units of a text. -/
def units (cs : List Char) : List Nat :=
  cs.flatMap unitsOf

/-- The text that code units spell; a surrogate without its partner becomes a replacement
character. -/
def ofUnits : List Nat → List Char
  | [] => []
  | high :: low :: rest =>
    if 0xD800 ≤ high ∧ high < 0xDC00 ∧ 0xDC00 ≤ low ∧ low < 0xE000 then
      Char.ofNat (0x10000 + (high - 0xD800) * 0x400 + (low - 0xDC00)) :: ofUnits rest
    else
      (if 0xD800 ≤ high ∧ high < 0xE000 then '\ufffd' else Char.ofNat high) :: ofUnits (low :: rest)
  | [unit] => [if 0xD800 ≤ unit ∧ unit < 0xE000 then '\ufffd' else Char.ofNat unit]

theorem units_cons (c : Char) (cs : List Char) : units (c :: cs) = unitsOf c ++ units cs := by
  rw [units, List.flatMap_cons, units]

theorem ofUnits_unitsOf (c : Char) (rest : List Nat) :
    ofUnits (unitsOf c ++ rest) = c :: ofUnits rest := by
  have valid : c.toNat < 0xD800 ∨ 0xDFFF < c.toNat ∧ c.toNat < 0x110000 := c.valid
  rw [unitsOf]
  split
  · have alone : ¬(0xD800 ≤ c.toNat ∧ c.toNat < 0xE000) := by omega
    have single : ¬(0xD800 ≤ c.toNat ∧ c.toNat < 0xDC00) := by omega
    cases rest with
    | nil => simp only [List.append_nil, ofUnits, if_neg alone, Char.ofNat_toNat]
    | cons low rest =>
      rw [List.singleton_append, ofUnits, if_neg fun pair => single ⟨pair.1, pair.2.1⟩, if_neg alone,
        Char.ofNat_toNat]
  · have pair : 0xD800 ≤ 0xD7C0 + c.toNat / 0x400 ∧ 0xD7C0 + c.toNat / 0x400 < 0xDC00 ∧
        0xDC00 ≤ 0xDC00 + c.toNat % 0x400 ∧ 0xDC00 + c.toNat % 0x400 < 0xE000 := by
      omega
    have value : 0x10000 + (0xD7C0 + c.toNat / 0x400 - 0xD800) * 0x400 +
        (0xDC00 + c.toNat % 0x400 - 0xDC00) = c.toNat := by
      omega
    rw [List.cons_append, List.singleton_append, ofUnits, if_pos pair, value, Char.ofNat_toNat]

/-- The code units of a text spell it. -/
theorem ofUnits_units (cs : List Char) : ofUnits (units cs) = cs := by
  induction cs with
  | nil => rfl
  | cons c cs ih => rw [units_cons, ofUnits_unitsOf, ih]

/-- Lexicographic order on code units, where a beginning comes before its extensions. -/
def unitsLe : List Nat → List Nat → Bool
  | [], _ => true
  | _ :: _, [] => false
  | a :: as, b :: bs => if a = b then unitsLe as bs else a < b

/-- Strings in the order of their code units. -/
def sortedByUnits (names : List String) : List String :=
  names.mergeSort fun a b => unitsLe (units a.toList) (units b.toList)

/-- The longest beginning of at most `count` code units; a character is never cut in two. -/
def takeUnits : Nat → List Char → List Char
  | _, [] => []
  | count, c :: cs =>
    let width := (unitsOf c).length
    if width ≤ count then c :: takeUnits (count - width) cs else []

example : units ['a', '\ud7ff', '😀'] = [0x61, 0xD7FF, 0xD83D, 0xDE00] := by decide

example : unitsLe (units ['😀']) (units ['\uffff']) = true := by decide

end DocMend.Text
