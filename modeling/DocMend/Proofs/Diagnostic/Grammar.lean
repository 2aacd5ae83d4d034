import DocMend.Diagnostic.Basic
import DocMend.Proofs.Number.Rounding
import DocMend.Proofs.Text.Word
import DocMend.Proofs.Text.Pieces
/-!
The grammar of reports. A line reports an issue exactly if it has a mark and falls into a file, a line number
and a message with colons between them, where a file has no colon but that of a drive at its beginning. It
falls apart so in one way only, which decides the issue. Of the reports of undocumented type parameters in a
text the first one counts.
-/

set_option autoImplicit false
set_option relaxedAutoImplicit false

namespace DocMend.Diagnostic

section Marks

variable {cs before name : List Char}

/-- A text with a report of an undocumented type parameter, whose name is not empty. -/
def ParameterMarked (cs : List Char) : Prop :=
  ∃ name, name ≠ [] ∧ '>' ∉ name ∧ "no @param for <".toList ++ (name ++ ['>']) <:+: cs

/-- A text with a mark of a report. -/
def Marked (cs : List Char) : Prop :=
  "warning:".toList <:+: cs ∨ "error:".toList <:+: cs ∨ ParameterMarked cs

theorem bracketText?_eq_some_iff :
    bracketText? cs = some name ↔ name ≠ [] ∧ '>' ∉ name ∧ ∃ rest, cs = name ++ '>' :: rest := by
  constructor
  · intro found
    simp only [bracketText?] at found
    split at found
    · rename_i c name d rest taken dropped
      obtain rfl := Option.some.inj found
      obtain ⟨free, whole⟩ := Text.eq_of_dropWhile_mark dropped
      rw [taken] at free whole
      exact ⟨List.cons_ne_nil c name, free, rest, whole⟩
    · exact absurd found (by simp)
  · rintro ⟨filled, free, rest, rfl⟩
    cases name with
    | nil => exact absurd rfl filled
    | cons c name => simp only [bracketText?, Text.takeWhile_mark free, Text.dropWhile_mark free]

/-- A report of an undocumented type parameter stands in a text behind `before`. -/
structure ParameterAt (cs before name : List Char) : Prop where
  filled : name ≠ []
  free : '>' ∉ name
  stands : before ++ ("no @param for <".toList ++ (name ++ ['>'])) <+: cs

/-- The report that stands in front of all others. -/
structure FirstParameter (cs before name : List Char) : Prop extends ParameterAt cs before name where
  first : ∀ other later, ParameterAt cs other later → before.length ≤ other.length

private theorem parameterAt_nil : ¬ParameterAt [] before name := fun reported => by
  have nothing := List.prefix_nil.mp reported.stands
  simp at nothing

private theorem parameterAt_cons {c d : Char} :
    ParameterAt (c :: cs) (d :: before) name ↔ d = c ∧ ParameterAt cs before name := by
  constructor
  · rintro ⟨filled, free, stands⟩
    obtain ⟨same, rest⟩ := List.cons_prefix_cons.mp stands
    exact ⟨same, filled, free, rest⟩
  · rintro ⟨rfl, filled, free, rest⟩
    exact ⟨filled, free, List.cons_prefix_cons.mpr ⟨rfl, rest⟩⟩

private theorem parameterAt_here :
    (Text.afterStart? parameterLead.toList cs).bind bracketText? = some name ↔ ParameterAt cs [] name := by
  rw [Option.bind_eq_some_iff]
  simp only [Text.afterStart?_eq_some, bracketText?_eq_some_iff]
  constructor
  · rintro ⟨_, whole, filled, free, rest, rfl⟩
    exact ⟨filled, free, rest, by simp [whole, parameterLead]⟩
  · rintro ⟨filled, free, rest, whole⟩
    exact ⟨_, by rw [← whole, List.nil_append, List.append_assoc]; rfl, filled, free, rest, by simp⟩

/-- A report behind the first character is one of the rest. -/
private theorem firstParameter_cons {c : Char} (later : ∀ name, ¬ParameterAt (c :: cs) [] name) :
    (∃ before, FirstParameter (c :: cs) before name) ↔ ∃ before, FirstParameter cs before name := by
  constructor
  · rintro ⟨before, reported, first⟩
    cases before with
    | nil => exact absurd reported (later name)
    | cons d before =>
      obtain ⟨rfl, inner⟩ := parameterAt_cons.mp reported
      refine ⟨before, inner, fun other name again => ?_⟩
      exact Nat.le_of_succ_le_succ (first (d :: other) name (parameterAt_cons.mpr ⟨rfl, again⟩))
  · rintro ⟨before, reported, first⟩
    refine ⟨c :: before, parameterAt_cons.mpr ⟨rfl, reported⟩, fun other name again => ?_⟩
    cases other with
    | nil => exact absurd again (later name)
    | cons d other =>
      exact Nat.succ_le_succ (first other name (parameterAt_cons.mp again).2)

theorem parameterText?_eq_some_iff :
    parameterText? cs = some name ↔ ∃ before, FirstParameter cs before name := by
  induction cs with
  | nil =>
    refine iff_of_false (by simp [parameterText?]) ?_
    rintro ⟨before, reported, -⟩
    exact parameterAt_nil reported
  | cons c cs ih =>
    rw [parameterText?]
    cases here : (Text.afterStart? parameterLead.toList (c :: cs)).bind bracketText? with
    | none =>
      rw [firstParameter_cons fun name reported => by simp [parameterAt_here.mpr reported] at here]
      exact ih
    | some found =>
      have nearest := parameterAt_here.mp here
      constructor
      · rintro ⟨⟩
        exact ⟨[], nearest, fun _ _ _ => Nat.zero_le _⟩
      · rintro ⟨before, reported, first⟩
        obtain rfl : before = [] := List.length_eq_zero_iff.mp (Nat.le_zero.mp (first [] found nearest))
        exact here.symm.trans (parameterAt_here.mpr reported)

theorem ParameterAt.marked (reported : ParameterAt cs before name) : ParameterMarked cs := by
  obtain ⟨after, whole⟩ := reported.stands
  exact ⟨name, reported.filled, reported.free, before, after, whole⟩

/-- Of all reports in a text one stands in front. -/
theorem ParameterAt.exists_first (reported : ParameterAt cs before name) :
    ∃ before name, FirstParameter cs before name := by
  classical
  have sizes : ∃ size, ∃ before name, ParameterAt cs before name ∧ before.length = size :=
    ⟨_, before, name, reported, rfl⟩
  obtain ⟨front, found, stands, least⟩ := Nat.find_spec sizes
  refine ⟨front, found, stands, fun other later again => ?_⟩
  rw [least]
  exact Nat.find_min' sizes ⟨other, later, again, rfl⟩

private theorem parameterText?_isSome_iff :
    (parameterText? cs).isSome = true ↔ ParameterMarked cs := by
  rw [Option.isSome_iff_exists]
  simp only [parameterText?_eq_some_iff]
  constructor
  · rintro ⟨name, before, reported, -⟩
    exact reported.marked
  · rintro ⟨name, filled, free, before, after, whole⟩
    have reported : ParameterAt cs before name := ⟨filled, free, after, whole⟩
    obtain ⟨front, found, first⟩ := reported.exists_first
    exact ⟨found, front, first⟩

theorem hasMark_iff {line : String} : hasMark line = true ↔ Marked line.toList := by
  simp [hasMark, marks, Text.contains, Text.occurs_iff, Marked, parameterText?_isSome_iff, or_assoc]

end Marks

/-- A file has no colon, or only that of a drive at its beginning: an ASCII letter, the colon, and a slash or
a backslash. -/
def FileField (file : List Char) : Prop :=
  ':' ∉ file ∨ ∃ letter mark rest, letter.isAlpha = true ∧ (mark = '\\' ∨ mark = '/') ∧
    ':' ∉ rest ∧ file = letter :: ':' :: mark :: rest

/-- A text without its leading blanks as file, line number and message. The file is not blank, and the line
number is a run of ASCII digits with blanks around it. -/
structure Fields (cs file number message : List Char) : Prop where
  whole : Text.trimStart cs = file ++ ':' :: (number ++ ':' :: message)
  place : FileField file
  filled : Text.trim file ≠ []
  numbered : Text.trim number ≠ []
  digits : ∀ c ∈ Text.trim number, c.isDigit = true

/-- The issue that the fields of a line report. -/
def issueOf (file number message : List Char) : Issue :=
  ⟨String.ofList (Text.trim file), Number.ofNat (Nat.ofDigitChars 10 (Text.trim number) 0),
    String.ofList (Text.trim message)⟩

private theorem splitDrive_drive {letter mark : Char} (alpha : letter.isAlpha = true)
    (slash : mark = '\\' ∨ mark = '/') (rest : List Char) :
    splitDrive (letter :: ':' :: mark :: rest) = ([letter, ':'], mark :: rest) := by
  simp only [splitDrive, if_pos (And.intro alpha slash)]

/-- A text begins with a drive, or it is not cut. -/
private theorem splitDrive_cases (cs : List Char) :
    (∃ letter mark rest, letter.isAlpha = true ∧ (mark = '\\' ∨ mark = '/') ∧
        cs = letter :: ':' :: mark :: rest ∧ splitDrive cs = ([letter, ':'], mark :: rest)) ∨
      splitDrive cs = ([], cs) := by
  unfold splitDrive
  split
  · rename_i letter mark rest
    split
    · rename_i drive
      exact Or.inl ⟨letter, mark, rest, drive.1, drive.2, rfl, rfl⟩
    · exact Or.inr rfl
  · exact Or.inr rfl

namespace Fields

variable {cs file number message : List Char}

theorem isDigit_of_mem (fields : Fields cs file number message) {c : Char} (mem : c ∈ number)
    (inked : Text.isBlank c = false) : c.isDigit = true :=
  fields.digits c (Text.mem_trim mem inked)

/-- A line whose file has no colon is read without a drive: the slash of one would be the first character
of the number, and no digit is a slash. -/
private theorem undriven (fields : Fields cs file number message) (colonless : ':' ∉ file) :
    splitDrive (Text.trimStart cs) = ([], Text.trimStart cs) := by
  refine (splitDrive_cases _).resolve_left ?_
  rintro ⟨letter, mark, rest, -, slash, whole, -⟩
  have blankless : Text.isBlank mark = false ∧ mark.isDigit = false ∧ mark ≠ ':' := by
    rcases slash with rfl | rfl <;> decide
  match file, fields.whole.symm.trans whole with
  | [], _ => exact fields.filled rfl
  | [_], whole =>
    cases number with
    | nil => exact blankless.2.2 (List.cons.inj (List.cons.inj (List.cons.inj whole).2).2).1.symm
    | cons c number =>
      obtain rfl := (List.cons.inj (List.cons.inj (List.cons.inj whole).2).2).1
      have digit := fields.isDigit_of_mem List.mem_cons_self blankless.1
      exact absurd digit (by simp [blankless.2.1])
  | _ :: c :: file, whole =>
    obtain rfl := (List.cons.inj (List.cons.inj whole).2).1
    exact colonless (List.mem_cons_of_mem _ List.mem_cons_self)

/-- The fields are the pieces between colons, the drive put back before the first. -/
theorem pieces (fields : Fields cs file number message) :
    ∃ first, file = (splitDrive (Text.trimStart cs)).1 ++ first ∧
      Text.pieces ':' (splitDrive (Text.trimStart cs)).2 =
        first :: number :: Text.pieces ':' message := by
  have free : ':' ∉ number := fun mem =>
    absurd (fields.isDigit_of_mem mem (by decide)) (by decide)
  rcases fields.place with none | ⟨letter, mark, rest, alpha, slash, none, rfl⟩
  · rw [fields.undriven none, fields.whole]
    exact ⟨file, rfl, by rw [Text.pieces_append none, Text.pieces_append free]⟩
  · have colonless : ':' ∉ mark :: rest := by
      refine List.not_mem_cons_of_ne_of_not_mem ?_ none
      rcases slash with rfl | rfl <;> decide
    rw [fields.whole, List.cons_append, List.cons_append, List.cons_append,
      splitDrive_drive alpha slash, ← List.cons_append]
    exact ⟨mark :: rest, rfl, by rw [Text.pieces_append colonless, Text.pieces_append free]⟩

/-- A line has fields in one way only. -/
theorem unique {file' number' message' : List Char} (one : Fields cs file number message)
    (two : Fields cs file' number' message') :
    file = file' ∧ number = number' ∧ message = message' := by
  obtain ⟨first, rfl, cut⟩ := one.pieces
  obtain ⟨first', rfl, again⟩ := two.pieces
  obtain ⟨rfl, same⟩ := List.cons.inj (cut.symm.trans again)
  obtain ⟨rfl, rest⟩ := List.cons.inj same
  refine ⟨rfl, rfl, ?_⟩
  rw [← Text.joined_pieces ':' message, rest, Text.joined_pieces]

end Fields

/-- What is cut at colons into three pieces or more has fields, as soon as there are digits. -/
private theorem fields_of_pieces {cs first number part : List Char} {parts : List (List Char)}
    (cut : Text.pieces ':' (splitDrive (Text.trimStart cs)).2 = first :: number :: part :: parts)
    (filled : Text.trim ((splitDrive (Text.trimStart cs)).1 ++ first) ≠ [])
    (digits : Text.isDigits (Text.trim number) = true) :
    Fields cs ((splitDrive (Text.trimStart cs)).1 ++ first) number
      (Text.joined [':'] (part :: parts)) := by
  obtain ⟨rest, free, body, inner⟩ := Text.eq_of_pieces_eq_cons cut
  obtain ⟨message, -, rfl, last⟩ := Text.eq_of_pieces_eq_cons inner
  have joined : Text.joined [':'] (part :: parts) = message := by
    rw [← last, Text.joined_pieces]
  obtain ⟨some, all⟩ := Text.isDigits_iff.mp digits
  rw [joined]
  rcases splitDrive_cases (Text.trimStart cs) with ⟨letter, mark, tail, alpha, slash, whole, drive⟩ | none
  · rw [drive] at body filled ⊢
    cases first with
    | nil =>
      rcases slash with rfl | rfl <;> exact absurd (List.cons.inj body).1 (by decide)
    | cons c first =>
      obtain ⟨rfl, rfl⟩ := List.cons.inj body
      obtain ⟨-, colonless⟩ := not_or.mp (List.mem_cons.not.mp free)
      exact ⟨whole, Or.inr ⟨letter, mark, first, alpha, slash, colonless, rfl⟩, filled, some, all⟩
  · rw [none] at body filled ⊢
    exact ⟨body, Or.inl free, filled, some, all⟩

/-- A line with a mark reports the issue of its fields. -/
theorem fields?_eq_some_iff {cs : List Char} {issue : Issue} :
    fields? cs = some issue ↔
      ∃ file number message, Fields cs file number message ∧ issue = issueOf file number message := by
  constructor
  · intro found
    simp only [fields?] at found
    split at found
    · rename_i first number part parts cut
      split at found
      · rename_i line read
        split at found
        · exact absurd found (by simp)
        · rename_i filled
          simp only [lineNumber?] at read
          split at read
          · rename_i digits
            obtain rfl := Option.some.inj read
            obtain rfl := Option.some.inj found
            refine ⟨_, _, _, fields_of_pieces cut (by simpa using filled) digits, ?_⟩
            rw [issueOf, Text.digitsValue_eq]
          · exact absurd read (by simp)
      · exact absurd found (by simp)
    · exact absurd found (by simp)
  · rintro ⟨file, number, message, fields, rfl⟩
    obtain ⟨first, rfl, cut⟩ := fields.pieces
    have digits : Text.isDigits (Text.trim number) = true :=
      Text.isDigits_iff.mpr ⟨fields.numbered, fields.digits⟩
    have filled : ¬(Text.trim ((splitDrive (Text.trimStart cs)).1 ++ first)).isEmpty = true := by
      simpa using fields.filled
    cases parts : Text.pieces ':' message with
    | nil => exact absurd parts (Text.pieces_ne_nil ':' message)
    | cons part more =>
      have whole : Text.joined [':'] (part :: more) = message := by
        rw [← parts, Text.joined_pieces]
      rw [parts] at cut
      simp only [fields?, cut, lineNumber?, if_pos digits, if_neg filled, whole, issueOf,
        Text.digitsValue_eq]

theorem readLine?_eq_some_iff {line : String} {issue : Issue} :
    readLine? line = some issue ↔ Marked line.toList ∧ ∃ file number message,
      Fields line.toList file number message ∧ issue = issueOf file number message := by
  rw [← hasMark_iff, ← fields?_eq_some_iff, readLine?]
  split
  · rename_i marked
    rw [and_iff_right marked]
  · rename_i unmarked
    exact iff_of_false (by simp) fun both => unmarked both.1

/-- A line reports an issue exactly if it has a mark and fields. The fields are the only ones, and the issue
is the trimmed file, the number nearest to the one that the digits write, and the trimmed message. -/
theorem reports_by_grammar (line : String) :
    ((readLine? line).isSome = true ↔ Marked line.toList ∧
      ∃ file number message, Fields line.toList file number message) ∧
    (∀ file number message file' number' message', Fields line.toList file number message →
      Fields line.toList file' number' message' →
      file = file' ∧ number = number' ∧ message = message') ∧
    ∀ issue, readLine? line = some issue → ∃ file number message,
      Fields line.toList file number message ∧
      issue.path = String.ofList (Text.trim file) ∧
      issue.message = String.ofList (Text.trim message) ∧
      Number.Nearest (Nat.ofDigitChars 10 (Text.trim number) 0) issue.line ∧
      (Nat.ofDigitChars 10 (Text.trim number) 0 < 2 ^ 53 →
        issue.line = .finite ((Nat.ofDigitChars 10 (Text.trim number) 0 : Int) : Rat)) := by
  refine ⟨?_, fun _ _ _ _ _ _ one two => one.unique two, fun issue found => ?_⟩
  · rw [Option.isSome_iff_exists]
    constructor
    · rintro ⟨issue, found⟩
      obtain ⟨marked, file, number, message, fields, -⟩ := readLine?_eq_some_iff.mp found
      exact ⟨marked, file, number, message, fields⟩
    · rintro ⟨marked, file, number, message, fields⟩
      exact ⟨_, readLine?_eq_some_iff.mpr ⟨marked, file, number, message, fields, rfl⟩⟩
  · obtain ⟨-, file, number, message, fields, rfl⟩ := readLine?_eq_some_iff.mp found
    exact ⟨file, number, message, fields, rfl, rfl, Number.nearest_ofNat _, fun small =>
      Number.ofNat_eq_finite (Nat.le_of_lt small)⟩

/-- A line with a drive, with blanks around all fields and with zeros before the line number. -/
theorem reports_by_grammar_drive :
    (readLine? "  C:\\A.java :\t007: warning: a: b ").isSome = true ∧
    (∀ file number message, Fields "  C:\\A.java :\t007: warning: a: b ".toList file number message →
      "C:\\A.java ".toList = file ∧ "\t007".toList = number ∧ " warning: a: b ".toList = message) ∧
    ∃ file number message, Fields "  C:\\A.java :\t007: warning: a: b ".toList file number message ∧
      "C:\\A.java" = String.ofList (Text.trim file) ∧
      "warning: a: b" = String.ofList (Text.trim message) ∧
      Number.Nearest (Nat.ofDigitChars 10 (Text.trim number) 0) (Number.ofNat 7) := by
  have marked : Marked "  C:\\A.java :\t007: warning: a: b ".toList :=
    Or.inl ⟨"  C:\\A.java :\t007: ".toList, " a: b ".toList, by decide⟩
  have fields : Fields "  C:\\A.java :\t007: warning: a: b ".toList "C:\\A.java ".toList
      "\t007".toList " warning: a: b ".toList :=
    { whole := by decide
      place := Or.inr ⟨'C', '\\', "A.java ".toList, by decide, Or.inl rfl, by decide, by decide⟩
      filled := by decide
      numbered := by decide
      digits := List.all_eq_true.mp (by decide) }
  have found : readLine? "  C:\\A.java :\t007: warning: a: b " =
      some ⟨"C:\\A.java", Number.ofNat 7, "warning: a: b"⟩ := by
    decide +kernel
  obtain ⟨reported, unique, issue⟩ := reports_by_grammar "  C:\\A.java :\t007: warning: a: b "
  obtain ⟨file, number, message, only, path, text, nearest, -⟩ := issue _ found
  exact ⟨reported.mpr ⟨marked, _, _, _, fields⟩, fun _ _ _ => unique _ _ _ _ _ _ fields,
    file, number, message, only, path, text, nearest⟩

end DocMend.Diagnostic
