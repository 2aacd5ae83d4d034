import DocMend.Proofs.Command.Performed
import DocMend.Text.Utf16
import Mathlib.Data.String.Basic
/-!
What captured text leaves out. A text has no more code units than bytes, and a cut to a number of code
units leaves a beginning of the text, which is the whole text exactly when the number suffices.

A command is ended when its output has more bytes than the limit, and the text captured by then is cut to
as many code units. Where such a text is not empty it counts as the output of the command, so release notes
may be those of the beginning of a log.
-/

set_option autoImplicit false
set_option relaxedAutoImplicit false

namespace DocMend.Text

theorem length_unitsOf_pos (c : Char) : 0 < (unitsOf c).length := by
  rw [unitsOf]
  split <;> simp

/-- Only a character of one byte has to be one code unit. -/
theorem length_unitsOf_le (c : Char) : (unitsOf c).length ≤ c.utf8Size := by
  have positive := c.utf8Size_pos
  rw [unitsOf]
  split
  · exact positive
  · rename_i beyond
    have wide : c.utf8Size ≠ 1 := by
      intro one
      have ascii : c.toNat ≤ 127 :=
        UInt32.le_iff_toNat_le.mp (Char.utf8Size_eq_one_iff.mp one)
      omega
    simp only [List.length_cons, List.length_nil]
    omega

/-- A text has no more code units than bytes. -/
theorem length_units_le (text : String) : (units text.toList).length ≤ text.utf8ByteSize := by
  rw [← String.ofList_toList (s := text), String.utf8ByteSize_ofList, String.toList_ofList]
  induction text.toList with
  | nil => exact Nat.zero_le _
  | cons c cs ih =>
    rw [units_cons, List.length_append, String.utf8Len_cons]
    have := length_unitsOf_le c
    omega

/-- A cut leaves a beginning. -/
theorem takeUnits_isPrefix (count : Nat) (cs : List Char) : takeUnits count cs <+: cs := by
  induction cs generalizing count with
  | nil => exact List.prefix_rfl
  | cons c cs ih =>
    rw [takeUnits]
    split
    · exact List.cons_prefix_cons.mpr ⟨rfl, ih _⟩
    · exact List.nil_prefix

/-- A cut leaves everything exactly if the text has no more code units than the cut allows. -/
theorem takeUnits_eq_self_iff (count : Nat) (cs : List Char) :
    takeUnits count cs = cs ↔ (units cs).length ≤ count := by
  induction cs generalizing count with
  | nil => simp [takeUnits, units]
  | cons c cs ih =>
    have width := length_unitsOf_pos c
    rw [takeUnits, units_cons, List.length_append]
    split
    · rename_i fits
      rw [List.cons_inj_right, ih]
      omega
    · rename_i wide
      simp only [List.nil_eq, reduceCtorEq, false_iff]
      omega

end DocMend.Text

namespace DocMend.Launch

namespace Outcome

variable (outcome : Outcome) (limit : Nat) (stream : Stream)

theorem captured_isPrefix :
    (outcome.captured limit stream).toList <+: (outcome.text stream).toList := by
  rw [captured]
  split
  · rw [String.toList_ofList]
    exact Text.takeUnits_isPrefix limit _
  · exact List.prefix_rfl

/-- Bytes decide whether a text is cut, and code units what is left of it. -/
theorem captured_eq_text_iff :
    outcome.captured limit stream = outcome.text stream ↔
      (Text.units (outcome.text stream).toList).length ≤ limit := by
  rw [captured]
  split
  · rw [← Text.takeUnits_eq_self_iff, ← String.toList_inj, String.toList_ofList]
  · rename_i within
    have bytes : (outcome.text stream).utf8ByteSize ≤ limit := by
      simpa [overflows] using within
    exact iff_of_true rfl (Nat.le_trans (Text.length_units_le _) bytes)

variable {limit} {command text : String}

theorem output_eq_captured {outcome : Outcome} (given : outcome.output command limit = .ok text) :
    text = outcome.captured limit .stdout := by
  rw [output] at given
  split at given
  · exact (Except.ok.inj given).symm
  · simp only at given
    split at given
    · exact nomatch given
    · exact (Except.ok.inj given).symm

/-- Nothing that was captured is an error, whatever became of the command. -/
theorem output_of_captured (command : String) (captured : outcome.captured limit .stdout ≠ "") :
    outcome.output command limit = .ok (outcome.captured limit .stdout) := by
  rw [output]
  split
  · rfl
  · simp [captured]

end Outcome

open Command

end DocMend.Launch
