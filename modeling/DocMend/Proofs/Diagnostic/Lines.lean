import DocMend.Proofs.Diagnostic.Distinct
import DocMend.Proofs.Diagnostic.Printed
/-!
The issues of a text, line by line. Blanks behind a line change nothing about its issue, so it makes no difference
whether a carriage return counts to a line or to its end: the issues of two texts with a line feed
between them are those of the first and those of the second, and neither the spelling of line ends nor a line
without an issue adds or removes any.
-/

set_option autoImplicit false
set_option relaxedAutoImplicit false

namespace DocMend.Diagnostic

variable {cs after : List Char}

theorem Fields.append {file number message : List Char} (fields : Fields cs file number message)
    (after : List Char) : Fields (cs ++ after) file number (message ++ after) := by
  have filled : Text.trimStart cs ≠ [] := by
    rw [fields.whole]
    simp
  refine { fields with whole := ?_ }
  rw [Text.trimStart_append_of_ne_nil filled, fields.whole]
  simp

section Blanks

variable (blank : ∀ c ∈ after, Text.isBlank c = true)

include blank

theorem marked_append_blank : Marked (cs ++ after) ↔ Marked cs := by
  refine ⟨fun marked => ?_, fun marked => marked.of_infix (List.prefix_append _ _).isInfix⟩
  have trimmed := marked.trim
  rw [Text.trim_append_blank blank] at trimmed
  obtain ⟨before, behind, -, -, whole⟩ := Text.exists_trim cs
  exact trimmed.of_infix ⟨before, behind, by rw [List.append_assoc, ← whole]⟩

private theorem colon_not_mem_blank : ':' ∉ after := fun mem =>
  absurd (blank ':' mem) (by decide)

/-- Blanks behind a line belong to its message. -/
theorem Fields.of_append_blank {file number message : List Char}
    (fields : Fields (cs ++ after) file number message) :
    ∃ kept, message = kept ++ after ∧ Fields cs file number kept := by
  have filled : Text.trimStart cs ≠ [] := by
    intro empty
    have nothing := Text.trimStart_append_of_nil blank empty
    rw [fields.whole] at nothing
    exact absurd nothing (by simp)
  have whole : Text.trimStart cs ++ after = (file ++ ':' :: number) ++ ':' :: message := by
    rw [← Text.trimStart_append_of_ne_nil filled, fields.whole]
    simp
  obtain ⟨kept, line, rfl⟩ := Text.exists_of_not_mem_back (colon_not_mem_blank blank) whole
  exact ⟨kept, rfl, { fields with whole := by rw [line]; simp }⟩

/-- Blanks behind a line change nothing about its issue. -/
theorem readLine?_append_blank :
    readLine? (String.ofList (cs ++ after)) = readLine? (String.ofList cs) := by
  refine Option.ext fun issue => ?_
  simp only [readLine?_eq_some_iff, String.toList_ofList, marked_append_blank blank]
  refine and_congr_right fun _ => ⟨?_, ?_⟩
  · rintro ⟨file, number, message, fields, rfl⟩
    obtain ⟨kept, rfl, shorter⟩ := fields.of_append_blank blank
    exact ⟨file, number, kept, shorter, by rw [issueOf, issueOf, Text.trim_append_blank blank]⟩
  · rintro ⟨file, number, message, fields, rfl⟩
    exact ⟨file, number, message ++ after, fields.append after, by
      rw [issueOf, issueOf, Text.trim_append_blank blank]⟩

end Blanks

private theorem blind (line : List Char) :
    readLine? (String.ofList (line ++ ['\r'])) = readLine? (String.ofList line) :=
  readLine?_append_blank (List.all_eq_true.mp (by decide))

theorem readAll_append (first second : String) :
    readAll (first ++ "\n" ++ second) = readAll first ++ readAll second := by
  have chars : (first ++ "\n" ++ second).toList = first.toList ++ '\n' :: second.toList := by simp
  rw [readAll, chars]
  exact Text.filterMap_lines_append blind _ _

/-- The issues of a text are those of its lines, whichever way these end. Without repetitions, a second text
adds to a first the issues that do not occur there. -/
theorem issues_by_lines :
    (∀ first second : String, readAll (first ++ "\n" ++ second) = readAll first ++ readAll second) ∧
    (∀ text other : String, Text.Respelled text.toList other.toList → readAll other = readAll text) ∧
    (∀ (line : List Char) (text other : String), '\n' ∉ line → readLine? (String.ofList line) = none →
      Text.LineInserted line text.toList other.toList → readAll other = readAll text) ∧
    ∀ first second : String, collect true (first ++ "\n" ++ second) =
      collect true first ++ (collect true second).filter (fun issue => issue ∉ readAll first) := by
  refine ⟨readAll_append, fun text other respelled => ?_, fun line text other feedless silent inserted => ?_,
    fun first second => ?_⟩
  · exact Text.filterMap_lines_respelled blind respelled
  · exact Text.filterMap_lines_inserted blind feedless silent inserted
  · show distinct (readAll (first ++ "\n" ++ second)) = _
    rw [readAll_append]
    exact distinct_append (fun _ => counted_of_mem_readAll) fun _ => counted_of_mem_readAll

/-- A seam behind a carriage return, a line end that gets one, a line without an issue, and an issue
that both texts report. -/
theorem issues_by_lines_seam :
    readAll ("A:1:error: a\r" ++ "\n" ++ "B:2:error: b\nA:1:error: a") =
      readAll "A:1:error: a\r" ++ readAll "B:2:error: b\nA:1:error: a" ∧
    readAll "B:2:error: b\r\nA:1:error: a" = readAll "B:2:error: b\nA:1:error: a" ∧
    readAll "B:2:error: b\nfine\r\nA:1:error: a" = readAll "B:2:error: b\nA:1:error: a" ∧
    collect true ("A:1:error: a\r" ++ "\n" ++ "B:2:error: b\nA:1:error: a") =
      collect true "A:1:error: a\r" ++ [⟨"B", Number.ofNat 2, "error: b"⟩] := by
  obtain ⟨parts, respelled, inserted, distinct⟩ := issues_by_lines
  have ended : Text.Respelled "B:2:error: b\nA:1:error: a".toList "B:2:error: b\r\nA:1:error: a".toList := by
    repeat constructor
  have longer : Text.LineInserted "fine".toList "B:2:error: b\nA:1:error: a".toList
      "B:2:error: b\nfine\r\nA:1:error: a".toList :=
    @Text.LineInserted.before _ "B:2:error: b\n".toList "A:1:error: a".toList ['\r', '\n'] (Or.inr (by decide))
      (Or.inr rfl)
  have added : (collect true "B:2:error: b\nA:1:error: a").filter
      (fun issue => issue ∉ readAll "A:1:error: a\r") = [⟨"B", Number.ofNat 2, "error: b"⟩] := by
    decide +kernel
  refine ⟨parts _ _, respelled _ _ ended, inserted "fine".toList _ _ (by decide) (by decide +kernel) longer, ?_⟩
  rw [distinct, added]

end DocMend.Diagnostic
