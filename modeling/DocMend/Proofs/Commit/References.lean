import DocMend.Commit.Category
import DocMend.Proofs.Text.Word
import DocMend.Proofs.Text.Pieces
import Mathlib.Data.List.Nodup
/-!
References in a subject. They are the numbers behind hash marks and the texts in brackets, each once, where a
number with its hash mark in brackets counts as the number. Numbers are found at every place; texts in brackets
are those that a search from left to right comes upon, which goes on behind the closing bracket of each.
-/

set_option autoImplicit false
set_option relaxedAutoImplicit false

namespace DocMend.Commit

variable {c : Char} {cs before number text rest : List Char}

section Numbers

/-- A number that a text writes: a run of ASCII digits right behind a hash mark, to its last digit. -/
def NumberIn (cs number : List Char) : Prop :=
  Text.isDigits number = true ∧ ∃ before rest, cs = before ++ '#' :: (number ++ rest) ∧
    ∀ c ∈ rest.head?, c.isDigit = false

theorem hashNumber?_eq_some_iff : hashNumber? cs = some number ↔ Text.isDigits number = true ∧
    ∃ rest, cs = '#' :: (number ++ rest) ∧ ∀ c ∈ rest.head?, c.isDigit = false := by
  constructor
  · intro found
    unfold hashNumber? at found
    split at found
    · rename_i rest
      simp only [Option.ite_none_left_eq_some, Option.some.injEq] at found
      obtain ⟨filled, rfl⟩ := found
      refine ⟨Text.isDigits_iff.mpr ⟨by simpa using filled, List.all_eq_true.mp List.all_takeWhile⟩,
        rest.dropWhile Char.isDigit, by rw [List.takeWhile_append_dropWhile], fun c first => ?_⟩
      have stop := List.head?_dropWhile_not Char.isDigit rest
      rw [Option.mem_def.mp first] at stop
      simpa using stop
    · exact absurd found (by simp)
  · rintro ⟨digits, rest, rfl, stop⟩
    obtain ⟨filled, all⟩ := Text.isDigits_iff.mp digits
    simp [hashNumber?, Text.takeWhile_digits all stop, filled]

theorem numberIn_cons :
    NumberIn (c :: cs) number ↔ hashNumber? (c :: cs) = some number ∨ NumberIn cs number := by
  rw [hashNumber?_eq_some_iff, NumberIn, NumberIn, ← and_or_left]
  refine and_congr_right fun _ => ⟨?_, ?_⟩
  · rintro ⟨before, rest, whole, stop⟩
    cases before with
    | nil => exact Or.inl ⟨rest, whole, stop⟩
    | cons d before => exact Or.inr ⟨before, rest, (List.cons.inj whole).2, stop⟩
  · rintro (⟨rest, whole, stop⟩ | ⟨before, rest, rfl, stop⟩)
    · exact ⟨[], rest, whole, stop⟩
    · exact ⟨c :: before, rest, rfl, stop⟩

theorem mem_numbers : number ∈ numbers cs ↔ NumberIn cs number := by
  induction cs with
  | nil => simp [numbers, NumberIn]
  | cons c cs ih => rw [numbers, List.mem_append, Option.mem_toList, ih, numberIn_cons]

/-- A number in brackets with its hash mark is a number behind a hash mark. -/
theorem numberIn_of_mem_bracketedNumbers (mem : number ∈ bracketedNumbers cs) : NumberIn cs number := by
  induction cs with
  | nil => simp [bracketedNumbers] at mem
  | cons c cs ih =>
    refine numberIn_cons.mpr (Or.inr ?_)
    rw [bracketedNumbers] at mem
    rcases List.mem_append.mp mem with here | later
    · split at here
      · split at here
        · rename_i digits found
          split at here
          · obtain rfl := List.mem_singleton.mp here
            obtain ⟨digits, rest, whole, stop⟩ := hashNumber?_eq_some_iff.mp found
            exact ⟨digits, [], rest, whole, stop⟩
          · exact absurd here List.not_mem_nil
        · exact absurd here List.not_mem_nil
      · exact absurd here List.not_mem_nil
    · exact ih later

end Numbers

section Brackets

/-- A text in brackets behind `before`: it is not empty and ends at the first closing bracket. -/
structure BracketAt (cs before text rest : List Char) : Prop where
  filled : text ≠ []
  closed : ']' ∉ text
  whole : cs = before ++ '[' :: (text ++ ']' :: rest)

/-- The texts in brackets that a search from left to right comes upon: the one that begins first, and those that
the search comes upon behind it. -/
inductive Scanned : List Char → List (List Char) → Prop
  | none {cs : List Char} (free : ∀ before text rest, ¬BracketAt cs before text rest) : Scanned cs []
  | found {cs before text rest : List Char} {texts : List (List Char)} (here : BracketAt cs before text rest)
      (first : ∀ other text' rest', BracketAt cs other text' rest' → before.length ≤ other.length)
      (later : Scanned rest texts) : Scanned cs (text :: texts)

/-- What stands in brackets behind a place is decided by the place. -/
theorem BracketAt.unique {other text' rest' : List Char} (one : BracketAt cs before text rest)
    (two : BracketAt cs other text' rest') (same : before.length = other.length) :
    text = text' ∧ rest = rest' := by
  have whole := one.whole.symm.trans two.whole
  obtain ⟨-, behind⟩ := List.append_inj whole same
  have parts := (List.cons.inj behind).2
  have left := congrArg (List.takeWhile (· ≠ ']')) parts
  have right := congrArg (List.dropWhile (· ≠ ']')) parts
  rw [Text.takeWhile_mark one.closed, Text.takeWhile_mark two.closed] at left
  rw [Text.dropWhile_mark one.closed, Text.dropWhile_mark two.closed] at right
  exact ⟨left, (List.cons.inj right).2⟩

/-- A search comes upon the same texts every time. -/
theorem Scanned.unique {texts others : List (List Char)} (one : Scanned cs texts)
    (two : Scanned cs others) : texts = others := by
  induction one generalizing others with
  | none free =>
    cases two with
    | none => rfl
    | found here => exact absurd here (free _ _ _)
  | found here first later ih =>
    cases two with
    | none free => exact absurd here (free _ _ _)
    | found here' first' later' =>
      obtain ⟨rfl, rfl⟩ := here.unique here' (Nat.le_antisymm (first _ _ _ here') (first' _ _ _ here))
      rw [ih later']

/-- What a search comes upon stands in brackets. -/
theorem Scanned.exists_bracketAt {texts : List (List Char)} (scanned : Scanned cs texts)
    (mem : text ∈ texts) : ∃ before rest, BracketAt cs before text rest := by
  induction scanned with
  | none => exact absurd mem List.not_mem_nil
  | @found cs before first rest texts here _ _ ih =>
    rcases List.mem_cons.mp mem with rfl | later
    · exact ⟨before, rest, here⟩
    · obtain ⟨inner, behind, there⟩ := ih later
      refine ⟨before ++ '[' :: (first ++ ']' :: inner), behind, there.filled, there.closed, ?_⟩
      rw [here.whole, there.whole]
      simp

private theorem bracketAt_cons {d : Char} (there : BracketAt (c :: cs) (d :: before) text rest) :
    BracketAt cs before text rest :=
  ⟨there.filled, there.closed, (List.cons.inj there.whole).2⟩

/-- A search goes past a character where no text in brackets begins. -/
theorem Scanned.cons {texts : List (List Char)} (scanned : Scanned cs texts)
    (none : ∀ text rest, ¬BracketAt (c :: cs) [] text rest) : Scanned (c :: cs) texts := by
  cases scanned with
  | none free =>
    refine .none fun before text rest there => ?_
    cases before with
    | nil => exact none text rest there
    | cons d before => exact free before text rest (bracketAt_cons there)
  | @found _ before text rest texts here first later =>
    have ahead : BracketAt (c :: cs) (c :: before) text rest :=
      ⟨here.filled, here.closed, by rw [here.whole]; rfl⟩
    refine .found ahead ?_ later
    intro other text' rest' there
    cases other with
    | nil => exact absurd there (none text' rest')
    | cons d other => exact Nat.succ_le_succ (first other text' rest' (bracketAt_cons there))

theorem bracketTextsAfter_eq (skip : Nat) (cs : List Char) :
    bracketTextsAfter skip cs = bracketTexts (cs.drop skip) := by
  induction cs generalizing skip with
  | nil => simp [bracketTextsAfter, bracketTexts]
  | cons c cs ih =>
    cases skip with
    | zero => rfl
    | succ skip => rw [bracketTextsAfter, ih, List.drop_succ_cons]

theorem bracketTexts_bracket (filled : text ≠ []) (closed : ']' ∉ text) :
    bracketTexts ('[' :: (text ++ ']' :: rest)) = text :: bracketTexts rest := by
  cases text with
  | nil => exact absurd rfl filled
  | cons d text =>
    have behind : ((d :: text) ++ ']' :: rest).drop (text.length + 2) = rest := by
      rw [List.append_cons, List.drop_left' (by simp)]
    rw [bracketTexts, bracketTextsAfter, if_pos rfl, Text.takeWhile_mark closed, Text.dropWhile_mark closed]
    simp only [bracketTextsAfter_eq, behind]

theorem bracketTexts_cons (none : ∀ text rest, ¬BracketAt (c :: cs) [] text rest) :
    bracketTexts (c :: cs) = bracketTexts cs := by
  rw [bracketTexts, bracketTextsAfter]
  split
  · rename_i opening
    split
    · rename_i d text e rest taken dropped
      obtain ⟨closed, whole⟩ := Text.eq_of_dropWhile_mark dropped
      rw [taken] at closed whole
      refine absurd ⟨List.cons_ne_nil d text, closed, ?_⟩ (none (d :: text) rest)
      rw [opening, whole]
      rfl
    · rfl
  · rfl

/-- The texts between brackets are those that the search comes upon. -/
theorem scanned_bracketTexts (cs : List Char) : Scanned cs (bracketTexts cs) := by
  -- a text in brackets is left behind as a whole, so the induction is on the length
  induction size : cs.length using Nat.strongRecOn generalizing cs with
  | ind n ih =>
    cases cs with
    | nil =>
      refine .none fun before text rest there => ?_
      exact absurd there.whole (by simp)
    | cons c cs =>
      by_cases here : ∃ text rest, BracketAt (c :: cs) [] text rest
      · obtain ⟨text, rest, here⟩ := here
        have shorter : rest.length < n := by
          rw [← size, here.whole]
          simp
          omega
        have found := here.whole
        rw [List.nil_append] at found
        rw [found, bracketTexts_bracket here.filled here.closed, ← found]
        exact .found here (fun _ _ _ _ => Nat.zero_le _) (ih _ shorter rest rfl)
      · have none : ∀ text rest, ¬BracketAt (c :: cs) [] text rest := fun text rest there =>
          here ⟨text, rest, there⟩
        have shorter : cs.length < n := by
          rw [← size]
          simp
        rw [bracketTexts_cons none]
        exact (ih _ shorter cs rfl).cons none

end Brackets

section References

variable {subject reference : String}

/-- A hash mark with digits behind it and nothing else. -/
def HashForm (cs : List Char) : Prop :=
  ∃ digits, Text.isDigits digits = true ∧ cs = '#' :: digits

theorem not_hashForm_of_isDigits (digits : Text.isDigits number = true) : ¬HashForm number := by
  rintro ⟨behind, -, rfl⟩
  have mark := (Text.isDigits_iff.mp digits).2 '#' List.mem_cons_self
  exact absurd mark (by decide)

theorem bareNumber_hash (digits : Text.isDigits number = true) : bareNumber ('#' :: number) = number := by
  rw [bareNumber, if_pos digits]

theorem bareNumber_of_not_hashForm (other : ¬HashForm text) : bareNumber text = text := by
  unfold bareNumber
  split
  · rename_i rest
    split
    · rename_i digits
      exact absurd ⟨rest, digits, rfl⟩ other
    · rfl
  · rfl

theorem BracketAt.numberIn_of_hash (there : BracketAt cs before ('#' :: number) rest)
    (digits : Text.isDigits number = true) : NumberIn cs number := by
  refine ⟨digits, before ++ ['['], ']' :: rest, by rw [there.whole]; simp, ?_⟩
  rintro c ⟨⟩
  decide

private theorem mem_references_iff_exists : reference ∈ references subject ↔ reference ≠ "" ∧
    ∃ found, (NumberIn subject.toList found ∨ found ∈ bracketTexts subject.toList) ∧
      bareNumber found = reference.toList := by
  have all : ∀ found, found ∈ bracketedNumbers subject.toList ++ numbers subject.toList ++
      bracketTexts subject.toList ↔
        NumberIn subject.toList found ∨ found ∈ bracketTexts subject.toList := fun found => by
    rw [List.mem_append, List.mem_append, mem_numbers,
      or_iff_right_of_imp numberIn_of_mem_bracketedNumbers]
  simp only [references, List.mem_eraseDups, List.mem_map, List.mem_filter, all]
  constructor
  · rintro ⟨cs, ⟨⟨found, given, rfl⟩, filled⟩, rfl⟩
    refine ⟨fun empty => ?_, found, given, String.toList_ofList.symm⟩
    have none := congrArg String.toList empty
    rw [String.toList_ofList] at none
    rw [none] at filled
    exact absurd filled (by decide)
  · rintro ⟨filled, found, given, bare⟩
    refine ⟨reference.toList, ⟨⟨found, given, bare⟩, ?_⟩, String.ofList_toList⟩
    simpa using filled

/-- References are the numbers behind hash marks, and the texts in brackets that are no such number. -/
theorem mem_references : reference ∈ references subject ↔
    NumberIn subject.toList reference.toList ∨
      reference.toList ∈ bracketTexts subject.toList ∧ ¬HashForm reference.toList := by
  rw [mem_references_iff_exists]
  constructor
  · rintro ⟨-, found, number | bracket, bare⟩
    · rw [← bare, bareNumber_of_not_hashForm (not_hashForm_of_isDigits number.1)]
      exact Or.inl number
    · by_cases hash : HashForm found
      · obtain ⟨digits, run, rfl⟩ := hash
        obtain ⟨before, rest, there⟩ := (scanned_bracketTexts _).exists_bracketAt bracket
        rw [← bare, bareNumber_hash run]
        exact Or.inl (there.numberIn_of_hash run)
      · rw [← bare, bareNumber_of_not_hashForm hash]
        exact Or.inr ⟨bracket, hash⟩
  · rintro (number | ⟨bracket, plain⟩)
    · refine ⟨?_, reference.toList, Or.inl number,
        bareNumber_of_not_hashForm (not_hashForm_of_isDigits number.1)⟩
      rintro rfl
      exact absurd number.1 (by decide)
    · refine ⟨?_, reference.toList, Or.inr bracket, bareNumber_of_not_hashForm plain⟩
      rintro rfl
      obtain ⟨before, rest, there⟩ := (scanned_bracketTexts _).exists_bracketAt bracket
      exact there.filled rfl

theorem not_hashForm_of_mem_references (mem : reference ∈ references subject) :
    ¬HashForm reference.toList := by
  rcases mem_references.mp mem with number | ⟨-, plain⟩
  · exact not_hashForm_of_isDigits number.1
  · exact plain

private theorem nodup_eraseDups (texts : List String) : texts.eraseDups.Nodup := by
  match texts with
  | [] => exact List.nodup_nil
  | text :: texts =>
    rw [List.eraseDups_cons, List.nodup_cons]
    exact ⟨fun again => by simpa using List.mem_eraseDups.mp again, nodup_eraseDups _⟩
termination_by texts.length
decreasing_by exact Nat.lt_succ_of_le (List.length_filter_le _ _)

/-- The references of a subject, each once and none empty, are the numbers behind its hash marks, and the texts
that the search for brackets comes upon, but for numbers with their hash marks. So a number that is written
with a hash mark, alone or in brackets, is a reference once, without its mark. -/
theorem references_found_once (subject : String) :
    (references subject).Nodup ∧ "" ∉ references subject ∧
    (∃ texts, Scanned subject.toList texts ∧
      (∀ others, Scanned subject.toList others → others = texts) ∧
      ∀ reference, reference ∈ references subject ↔ NumberIn subject.toList reference.toList ∨
        reference.toList ∈ texts ∧ ¬HashForm reference.toList) ∧
    (∀ reference ∈ references subject, ¬HashForm reference.toList) ∧
    ∀ number, NumberIn subject.toList number.toList ∨ Text.isDigits number.toList = true ∧
        '[' :: '#' :: (number.toList ++ [']']) <:+: subject.toList →
      (references subject).count number = 1 := by
  have scanned := scanned_bracketTexts subject.toList
  have once : (references subject).Nodup := nodup_eraseDups _
  refine ⟨once, fun empty => (mem_references_iff_exists.mp empty).1 rfl,
    ⟨_, scanned, fun others again => again.unique scanned, fun reference => mem_references⟩,
    fun reference => not_hashForm_of_mem_references, fun number written => ?_⟩
  refine List.count_eq_one_of_mem once (mem_references.mpr (Or.inl ?_))
  rcases written with hash | ⟨digits, before, rest, whole⟩
  · exact hash
  · refine ⟨digits, before ++ ['['], ']' :: rest, by rw [← whole]; simp, ?_⟩
    rintro c ⟨⟩
    decide

/-- Numbers one behind the other, brackets in brackets, empty brackets, two hash marks, and a number that is
written three times. -/
theorem references_found_once_nested :
    let subject := "#7 [#12] []x [[#7] [a] [##3] [#7] #1#2 [open"
    NumberIn subject.toList "7".toList ∧ (references subject).count "7" = 1 ∧
      '[' :: '#' :: ("12".toList ++ [']']) <:+: subject.toList ∧ (references subject).count "12" = 1 ∧
      references subject = ["12", "7", "3", "1", "2", "[#7", "a", "##3"] := by
  intro subject
  obtain ⟨-, -, -, -, counts⟩ := references_found_once subject
  have seven : NumberIn subject.toList "7".toList :=
    ⟨by decide, [], " [#12] []x [[#7] [a] [##3] [#7] #1#2 [open".toList, by decide +kernel, by
      rintro c ⟨⟩
      decide⟩
  have twelve : '[' :: '#' :: ("12".toList ++ [']']) <:+: subject.toList :=
    ⟨"#7 ".toList, " []x [[#7] [a] [##3] [#7] #1#2 [open".toList, by decide +kernel⟩
  exact ⟨seven, counts _ (Or.inl seven), twelve, counts _ (Or.inr ⟨by decide, twelve⟩), by decide +kernel⟩

end References

end DocMend.Commit
