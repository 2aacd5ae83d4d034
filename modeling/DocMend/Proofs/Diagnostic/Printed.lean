import DocMend.Proofs.Diagnostic.Grammar
/-!
Issues as they are printed. A printed issue with a mark is read as the issue, and an issue that was read
keeps a mark when it is printed: a mark does not care about blanks next to a colon, nor about the spelling of
the line number between two of them.
-/

set_option autoImplicit false
set_option relaxedAutoImplicit false

namespace DocMend.Diagnostic

variable {cs first second number message : List Char}

/-- A colon between two texts that belongs to a mark: a word in front of it, or the lead of a name that ends
behind it. -/
def MarkedAcross (first second : List Char) : Prop :=
  "warning".toList <:+ first ∨ "error".toList <:+ first ∨
    ∃ name, '>' ∉ name ∧ "no @param for <".toList ++ name <:+ first ∧ '>' ∈ second

theorem Marked.of_infix (marked : Marked first) (inside : first <:+: cs) : Marked cs := by
  rcases marked with warning | error | ⟨name, filled, free, parameter⟩
  · exact Or.inl (warning.trans inside)
  · exact Or.inr (Or.inl (error.trans inside))
  · exact Or.inr (Or.inr ⟨name, filled, free, parameter.trans inside⟩)

/-- Marks begin and end without blanks. -/
theorem Marked.trim (marked : Marked cs) : Marked (Text.trim cs) := by
  rcases marked with warning | error | ⟨name, filled, free, parameter⟩
  · exact Or.inl (Text.infix_trim (by decide) (by decide) warning)
  · exact Or.inr (Or.inl (Text.infix_trim (by decide) (by decide) error))
  · refine Or.inr (Or.inr ⟨name, filled, free, Text.infix_trim ?_ (by simp) parameter⟩)
    rw [← List.append_assoc, Text.trim_eq_self_iff, List.getLast?_concat,
      List.append_assoc, List.head?_append_of_ne_nil _ (by decide)]
    constructor
    · rintro c ⟨⟩
      decide
    · rintro c ⟨⟩
      decide

/-- A part of a text with a colon stands on one side of it, or it has the colon and stands across it. -/
private theorem infix_across {part : List Char} (inside : part <:+: first ++ ':' :: second) :
    part <:+: first ∨ part <:+: second ∨ ∃ x y, part = x ++ ':' :: y ∧ x <:+ first ∧ y <+: second := by
  rcases List.infix_append_iff_ne_nil.mp inside with left | right | ⟨x, y, -, filled, whole, ends, starts⟩
  · exact Or.inl left
  · rcases List.infix_cons_iff.mp right with here | later
    · rcases List.prefix_cons_iff.mp here with rfl | ⟨y, rfl, starts⟩
      · exact Or.inl List.nil_infix
      · exact Or.inr (Or.inr ⟨[], y, rfl, List.nil_suffix, starts⟩)
    · exact Or.inr (Or.inl later)
  · rcases List.prefix_cons_iff.mp starts with empty | ⟨y, rfl, behind⟩
    · exact absurd empty filled
    · exact Or.inr (Or.inr ⟨x, y, whole, ends, behind⟩)

private theorem word_across {word : List Char} (free : ':' ∉ word)
    (inside : word ++ [':'] <:+: first ++ ':' :: second) :
    word ++ [':'] <:+: first ∨ word ++ [':'] <:+: second ∨ word <:+ first := by
  rcases infix_across inside with left | right | ⟨x, y, whole, ends, -⟩
  · exact Or.inl left
  · exact Or.inr (Or.inl right)
  · obtain ⟨rfl, -, -⟩ := (List.append_cons_inj_of_notMem free List.not_mem_nil).mp whole
    exact Or.inr (Or.inr ends)

private theorem parameter_across {name : List Char} (filled : name ≠ []) (free : '>' ∉ name)
    (inside : "no @param for <".toList ++ (name ++ ['>']) <:+: first ++ ':' :: second) :
    ParameterMarked first ∨ ParameterMarked second ∨
      ∃ name, '>' ∉ name ∧ "no @param for <".toList ++ name <:+ first ∧ '>' ∈ second := by
  rcases infix_across inside with left | right | ⟨x, y, whole, ends, starts⟩
  · exact Or.inl ⟨name, filled, free, left⟩
  · exact Or.inr (Or.inl ⟨name, filled, free, right⟩)
  · -- neither the lead nor the bracket has a colon, so it stands in the name
    have lead : ':' ∉ "no @param for <".toList := by decide
    obtain ⟨start, rfl, tail⟩ := Text.exists_of_not_mem_front lead whole
    obtain ⟨rest, rfl, rfl⟩ := Text.exists_of_not_mem_back (by decide) tail
    exact Or.inr (Or.inr ⟨start, fun mem => free (List.mem_append_left _ mem), ends,
      starts.subset (List.mem_append_right _ List.mem_cons_self)⟩)

/-- A mark of a text with a colon stands on one side of it or across it. -/
theorem Marked.across (marked : Marked (first ++ ':' :: second)) :
    Marked first ∨ Marked second ∨ MarkedAcross first second := by
  have word : ':' ∉ "warning".toList ∧ ':' ∉ "error".toList := by decide
  rcases marked with warning | error | ⟨name, filled, free, parameter⟩
  · rcases word_across word.1 warning with left | right | seam
    · exact Or.inl (Or.inl left)
    · exact Or.inr (Or.inl (Or.inl right))
    · exact Or.inr (Or.inr (Or.inl seam))
  · rcases word_across word.2 error with left | right | seam
    · exact Or.inl (Or.inr (Or.inl left))
    · exact Or.inr (Or.inl (Or.inr (Or.inl right)))
    · exact Or.inr (Or.inr (Or.inr (Or.inl seam)))
  · rcases parameter_across filled free parameter with left | right | seam
    · exact Or.inl (Or.inr (Or.inr left))
    · exact Or.inr (Or.inl (Or.inr (Or.inr right)))
    · exact Or.inr (Or.inr (Or.inr (Or.inr seam)))

theorem MarkedAcross.marked (seam : MarkedAcross first second) : Marked (first ++ ':' :: second) := by
  rcases seam with ⟨before, rfl⟩ | ⟨before, rfl⟩ | ⟨name, free, ⟨before, rfl⟩, close⟩
  · exact Or.inl ⟨before, second, by simp⟩
  · exact Or.inr (Or.inl ⟨before, second, by simp⟩)
  · obtain ⟨rest, after, rfl, none⟩ := List.eq_append_cons_of_mem close
    have inner : '>' ∉ name ++ ':' :: rest :=
      List.not_mem_append free (List.not_mem_cons_of_ne_of_not_mem (by decide) none)
    exact Or.inr (Or.inr ⟨name ++ ':' :: rest, by simp, inner, before, after, by simp⟩)

/-- What stands across a colon stays there when the text in front of it is trimmed. -/
theorem MarkedAcross.trim {other : List Char} (seam : MarkedAcross first second)
    (close : '>' ∈ second → '>' ∈ other) : MarkedAcross (Text.trim first) other := by
  rcases seam with warning | error | ⟨name, free, ⟨before, rfl⟩, mem⟩
  · exact Or.inl (Text.suffix_trim (by decide) (by decide) warning)
  · exact Or.inr (Or.inl (Text.suffix_trim (by decide) (by decide) error))
  · refine Or.inr (Or.inr ⟨Text.trimEnd name, fun mem => free ?_, ?_, close mem⟩)
    · obtain ⟨after, -, whole⟩ := Text.exists_trimEnd name
      rw [whole]
      exact List.mem_append_left after mem
    · rw [Text.trim_append (by decide) (by decide)]
      exact List.suffix_append _ _

private theorem r_mem_of_marked (marked : Marked cs) : 'r' ∈ cs := by
  rcases marked with warning | error | ⟨name, -, -, parameter⟩
  · exact warning.subset (by decide)
  · exact error.subset (by decide)
  · exact parameter.subset (List.mem_append_left _ (by decide))

private theorem r_mem_of_markedAcross (seam : MarkedAcross first second) : 'r' ∈ first := by
  rcases seam with warning | error | ⟨name, -, parameter, -⟩
  · exact warning.subset (by decide)
  · exact error.subset (by decide)
  · exact parameter.subset (List.mem_append_left _ (by decide))

theorem isBlank_of_isAlpha {c : Char} (alpha : c.isAlpha = true) : Text.isBlank c = false :=
  Text.isBlank_of_isWordChar (by rw [Text.isWordChar, Char.isAlphanum, alpha, Bool.true_or, Bool.true_or])

/-- Trimming keeps files. -/
theorem FileField.trim {file : List Char} (place : FileField file) : FileField (Text.trim file) := by
  rcases place with free | ⟨letter, mark, rest, alpha, slash, free, rfl⟩
  · exact Or.inl fun mem => free (Text.mem_of_mem_trim mem)
  · have kept : Text.trim [letter, ':', mark] = [letter, ':', mark] := by
      refine Text.trim_eq_self_iff.mpr ⟨?_, ?_⟩
      · rintro c ⟨⟩
        exact isBlank_of_isAlpha alpha
      · rintro c ⟨⟩
        show Text.isBlank mark = false
        rcases slash with rfl | rfl <;> decide
    have whole := Text.trim_append kept (List.cons_ne_nil _ _) [] rest
    refine Or.inr ⟨letter, mark, Text.trimEnd rest, alpha, slash, fun mem => free ?_, whole⟩
    obtain ⟨after, -, more⟩ := Text.exists_trimEnd rest
    rw [more]
    exact List.mem_append_left after mem

/-- A line with fields keeps its mark when blanks at the ends of the fields are left out and the line number
is written with other digits. -/
theorem Fields.marked {line file : List Char} (fields : Fields line file number message)
    (marked : Marked line) (digits : List Char) :
    Marked (Text.trim file ++ ':' :: (digits ++ ':' :: Text.trim message)) := by
  have blank : ∀ c, Text.isBlank c = false → c.isDigit = false → c ∉ number := fun c inked other mem =>
    absurd (fields.isDigit_of_mem mem inked) (by simp [other])
  have letter : 'r' ∉ number := blank 'r' (by decide) (by decide)
  have start : Marked (Text.trimStart line) := by
    obtain ⟨after, -, whole⟩ := Text.exists_trimEnd (Text.trimStart line)
    refine marked.trim.of_infix ?_
    rw [whole]
    exact List.infix_append_left
  rw [fields.whole] at start
  rcases start.across with left | right | seam
  · exact left.trim.of_infix (List.prefix_append _ _).isInfix
  · rcases right.across with inside | last | seam
    · exact absurd (r_mem_of_marked inside) letter
    · refine last.trim.of_infix ⟨Text.trim file ++ ':' :: (digits ++ [':']), [], ?_⟩
      simp
    · exact absurd (r_mem_of_markedAcross seam) letter
  · refine (seam.trim fun mem => ?_).marked
    rcases List.mem_append.mp mem with number | later
    · exact absurd number (blank '>' (by decide) (by decide))
    · have close : '>' ∈ message := (List.mem_cons.mp later).resolve_left (by decide)
      exact List.mem_append_right _ (List.mem_cons_of_mem _ (Text.mem_trim close (by decide)))

/-- The text of an issue on a line that is counted exactly. -/
theorem text_eq {n : Nat} (small : n ≤ Number.exactBound) (path message : String) :
    Issue.text ⟨path, Number.ofNat n, message⟩ = path ++ ":" ++ toString n ++ ":" ++ message := by
  have digits : (Number.ofNat n).text = toString n := by
    have positive : ¬(n : Int) < 0 := by omega
    rw [Number.ofNat_eq_finite small, Nat.toString_eq_ofList_toDigits, Number.text, Number.rationalText,
      Rat.num_intCast, Rat.den_intCast, Int.natAbs_natCast, if_neg positive, if_pos ⟨rfl, small⟩,
      List.nil_append]
  rw [Issue.text, digits]

/-- A printed issue with a mark is read as the issue. -/
theorem readLine?_printed {path message : String} {n : Nat}
    (bare : Text.trim path.toList = path.toList) (filled : path ≠ "") (place : FileField path.toList)
    (kept : Text.trim message.toList = message.toList)
    (marked : Marked (path ++ ":" ++ toString n ++ ":" ++ message).toList) :
    readLine? (path ++ ":" ++ toString n ++ ":" ++ message) =
      some ⟨path, Number.ofNat n, message⟩ := by
  have digits : ∀ c ∈ Nat.toDigits 10 n, c.isDigit = true := fun c mem =>
    Text.isDigit_of_mem_toDigits mem
  have named : path.toList ≠ [] := fun empty => filled (String.toList_eq_nil_iff.mp empty)
  have whole : (path ++ ":" ++ toString n ++ ":" ++ message).toList =
      path.toList ++ ':' :: (Nat.toDigits 10 n ++ ':' :: message.toList) := by
    simp
  have start : Text.trimStart (path.toList ++ ':' :: (Nat.toDigits 10 n ++ ':' :: message.toList)) =
      path.toList ++ ':' :: (Nat.toDigits 10 n ++ ':' :: message.toList) := by
    rw [Text.trimStart_eq_self_iff, List.head?_append_of_ne_nil _ named]
    exact (Text.trim_eq_self_iff.mp bare).1
  have fields : Fields (path ++ ":" ++ toString n ++ ":" ++ message).toList path.toList
      (Nat.toDigits 10 n) message.toList :=
    { whole := by rw [whole, start]
      place := place
      filled := by rwa [bare]
      numbered := by rw [Text.trim_of_digits digits]; exact Nat.toDigits_ne_nil
      digits := by rwa [Text.trim_of_digits digits] }
  refine readLine?_eq_some_iff.mpr ⟨marked, _, _, _, fields, ?_⟩
  rw [issueOf, bare, kept, Text.trim_of_digits digits, Nat.ofDigitChars_ten_toDigits, String.ofList_toList,
    String.ofList_toList]

/-- An issue that is read from a line and whose line number is counted exactly is read again from its text.
So is every issue whose text has a mark, if its file has no colon but that of a drive and neither file nor
message has blanks at its ends. -/
theorem printed_issue_reads_back :
    (∀ line issue, readLine? line = some issue → issue.line < Number.ofNat (2 ^ 53) →
      (∃ n : Nat, issue.line = Number.ofNat n ∧
        issue.text = issue.path ++ ":" ++ toString n ++ ":" ++ issue.message) ∧
      readLine? issue.text = some issue) ∧
    ∀ (path message : String) (n : Nat), n < 2 ^ 53 → Text.trim path.toList = path.toList → path ≠ "" →
      FileField path.toList → Text.trim message.toList = message.toList →
      Marked (Issue.text ⟨path, Number.ofNat n, message⟩).toList →
      Issue.text ⟨path, Number.ofNat n, message⟩ = path ++ ":" ++ toString n ++ ":" ++ message ∧
      readLine? (Issue.text ⟨path, Number.ofNat n, message⟩) =
        some ⟨path, Number.ofNat n, message⟩ := by
  constructor
  · intro line issue found below
    obtain ⟨marked, file, number, message, fields, rfl⟩ := readLine?_eq_some_iff.mp found
    have small : Nat.ofDigitChars 10 (Text.trim number) 0 < 2 ^ 53 := Number.lt_of_ofNat_lt below
    have text := text_eq (Nat.le_of_lt small) (String.ofList (Text.trim file))
      (String.ofList (Text.trim message))
    refine ⟨⟨_, rfl, text⟩, ?_⟩
    show readLine? (Issue.text ⟨_, _, _⟩) = _
    rw [text]
    refine readLine?_printed ?_ ?_ ?_ ?_ ?_
    · rw [String.toList_ofList, Text.trim_trim]
    · exact fun empty => fields.filled (by rw [← String.toList_ofList (l := Text.trim file), empty]; rfl)
    · rw [String.toList_ofList]
      exact fields.place.trim
    · rw [String.toList_ofList, Text.trim_trim]
    · have printed := fields.marked marked
        (Nat.toDigits 10 (Nat.ofDigitChars 10 (Text.trim number) 0))
      simpa using printed
  · intro path message n small bare filled place kept marked
    have text := text_eq (Nat.le_of_lt small) path message
    rw [text] at marked ⊢
    exact ⟨rfl, readLine?_printed bare filled place kept marked⟩

/-- A mark that stands across the colons of a line, and a printed path with a drive. -/
theorem printed_issue_reads_back_drive :
    readLine? "no @param for <A :\t012: b> " = some ⟨"no @param for <A", Number.ofNat 12, "b>"⟩ ∧
    Number.ofNat 12 < Number.ofNat (2 ^ 53) ∧
    readLine? (Issue.text ⟨"no @param for <A", Number.ofNat 12, "b>"⟩) =
      some ⟨"no @param for <A", Number.ofNat 12, "b>"⟩ ∧
    readLine? (Issue.text ⟨"C:/A.java", Number.ofNat 3, "error: a"⟩) =
      some ⟨"C:/A.java", Number.ofNat 3, "error: a"⟩ := by
  have found : readLine? "no @param for <A :\t012: b> " =
      some ⟨"no @param for <A", Number.ofNat 12, "b>"⟩ := by
    decide +kernel
  have below : Number.ofNat 12 < Number.ofNat (2 ^ 53) := by decide +kernel
  refine ⟨found, below, (printed_issue_reads_back.1 _ _ found below).2, ?_⟩
  have place : FileField "C:/A.java".toList :=
    Or.inr ⟨'C', '/', "A.java".toList, by decide, Or.inr rfl, by decide, by decide⟩
  have marked : Marked (Issue.text ⟨"C:/A.java", Number.ofNat 3, "error: a"⟩).toList :=
    Or.inr (Or.inl ⟨"C:/A.java:3:".toList, " a".toList, by decide +kernel⟩)
  exact (printed_issue_reads_back.2 "C:/A.java" "error: a" 3 (by decide) (by decide) (by decide) place
    (by decide) marked).2

end DocMend.Diagnostic
