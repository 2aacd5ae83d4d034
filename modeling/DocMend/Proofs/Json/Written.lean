import DocMend.Json.Writer
import DocMend.Proofs.Json.Keyed
import DocMend.Proofs.Number.Shortest
/-!
Documents that are read as they were written. A string is read back whatever characters it has, the text of a natural
number is read as that number, and so a document of strings, truth values and natural numbers is read back from its
text.
-/

set_option autoImplicit false
set_option relaxedAutoImplicit false

namespace DocMend.Json

section Strings

theorem fourHexDigits_control : ∀ n < 0x20,
    (fourHexDigits n).length = 4 ∧ hexNumber 0 (fourHexDigits n) = .ok n := by
  decide +kernel

/-- A character is written as a letter behind a backslash, as four hexadecimal digits, or as it is. -/
theorem escaped_cases (c : Char) :
    (∃ letter, letter ≠ 'u' ∧ shortEscape? letter = some c ∧ c.toNat < 0x80 ∧ escaped c = ['\\', letter]) ∨
    (c.toNat < 0x20 ∧ escaped c = '\\' :: 'u' :: fourHexDigits c.toNat) ∨
    (c ≠ '"' ∧ c ≠ '\\' ∧ ¬c.toNat < 0x20 ∧ escaped c = [c]) := by
  unfold escaped
  split_ifs with quote slash back form feed ret tab control
  · exact Or.inl ⟨'"', by decide, by rw [quote]; rfl, by rw [quote]; decide, rfl⟩
  · exact Or.inl ⟨'\\', by decide, by rw [slash]; rfl, by rw [slash]; decide, rfl⟩
  · exact Or.inl ⟨'b', by decide, by rw [back]; rfl, by rw [back]; decide, rfl⟩
  · exact Or.inl ⟨'f', by decide, by rw [form]; rfl, by rw [form]; decide, rfl⟩
  · exact Or.inl ⟨'n', by decide, by rw [feed]; rfl, by rw [feed]; decide, rfl⟩
  · exact Or.inl ⟨'r', by decide, by rw [ret]; rfl, by rw [ret]; decide, rfl⟩
  · exact Or.inl ⟨'t', by decide, by rw [tab]; rfl, by rw [tab]; decide, rfl⟩
  · exact Or.inr (Or.inl ⟨control, rfl⟩)
  · exact Or.inr (Or.inr ⟨quote, slash, control, rfl⟩)

theorem readString_escaped (c : Char) (rest : List Char) : readString (escaped c ++ rest) =
    (readString rest).map fun read => (Text.unitsOf c ++ read.1, read.2) := by
  have narrow : c.toNat < 0x80 → Text.unitsOf c = [c.toNat] := fun low => by
    rw [Text.unitsOf, if_pos (Nat.lt_of_lt_of_le low (by decide))]
  rcases escaped_cases c with ⟨letter, other, short, low, shape⟩ | ⟨control, shape⟩ | ⟨quote, slash, visible, shape⟩
  · rw [shape, List.cons_append, List.singleton_append, readString, short, narrow low]
    · cases readString rest <;> rfl
    · exact fun _ _ _ _ _ same _ => other same
    · exact other
  · obtain ⟨width, number⟩ := fourHexDigits_control c.toNat control
    obtain ⟨x, y, z, w, digits⟩ := List.length_eq_four.mp width
    rw [digits] at number
    rw [shape, digits, narrow (Nat.lt_of_lt_of_le control (by decide))]
    simp only [List.cons_append, List.nil_append, readString, number]
    cases readString rest <;> rfl
  · rw [shape, List.singleton_append, readString, if_neg visible]
    · cases readString rest <;> rfl
    · exact quote
    · exact fun _ _ _ _ _ same _ => slash same
    · exact fun _ same _ => slash same
    · exact fun same _ => slash same
    · exact fun _ _ same _ => slash same

theorem readString_written (cs rest : List Char) :
    readString (cs.flatMap escaped ++ '"' :: rest) = .ok (Text.units cs, rest) := by
  induction cs with
  | nil => rfl
  | cons c cs ih =>
    rw [List.flatMap_cons, List.append_assoc, readString_escaped, ih, Text.units_cons]
    rfl

/-- A string is read back from behind its opening quotation mark. -/
theorem readText_written (s : String) (rest : List Char) :
    readText (s.toList.flatMap escaped ++ '"' :: rest) = .ok (s, rest) := by
  have units := readString_written s.toList rest
  rw [readText, units]
  show Except.ok (String.ofList (Text.ofUnits (Text.units s.toList)), rest) = _
  rw [Text.ofUnits_units, String.ofList_toList]

end Strings

section Numbers

variable {cs rest : List Char} {n : Nat}

/-- A text that does not carry on a number that stands in front of it. -/
def EndsNumber (rest : List Char) : Prop :=
  ∀ c ∈ rest.head?, c.isDigit = false ∧ c ≠ '.' ∧ c ≠ 'e' ∧ c ≠ 'E'

theorem endsNumber_mark (mark : Char) (stop : mark.isDigit = false ∧ mark ≠ '.' ∧ mark ≠ 'e' ∧ mark ≠ 'E')
    (rest : List Char) : EndsNumber (mark :: rest) := by
  rintro c ⟨⟩
  exact stop

theorem readExponent_written (stop : ∀ c ∈ rest.head?, c.isDigit = false) (power : Nat) :
    readExponent ('+' :: (Nat.toDigits 10 power ++ rest)) = .ok (power, rest) := by
  have all : ∀ c ∈ Nat.toDigits 10 power, c.isDigit = true := fun c mem =>
    Text.isDigit_of_mem_toDigits mem
  have some : ¬(Nat.toDigits 10 power).isEmpty = true := by simp
  simp only [readExponent, Text.takeWhile_digits all stop, Text.dropWhile_digits all stop, if_neg some,
    Text.digitsValue_toDigits]
  rfl

theorem readNumberTail_whole (stop : EndsNumber rest) (negative : Bool) (whole : List Char) :
    readNumberTail negative whole rest =
      .ok (Number.ofDecimal negative (Text.digitsValue whole) 0, rest) := by
  rw [readNumberTail]
  · simp only [bind, Except.bind]
    split
    · exact absurd rfl (stop 'e' rfl).2.2.1
    · exact absurd rfl (stop 'E' rfl).2.2.2
    · rw [List.append_nil]
      rfl
  · rintro after rfl
    exact (stop '.' rfl).2.1 rfl

theorem readNumberTail_scaled {fraction : List Char} (digits : ∀ c ∈ fraction, c.isDigit = true)
    (stop : EndsNumber rest) (negative : Bool) (whole : List Char) (power : Nat) :
    readNumberTail negative whole ((if fraction.isEmpty then [] else '.' :: fraction) ++
        'e' :: '+' :: (Nat.toDigits 10 power ++ rest)) =
      .ok (Number.ofDecimal negative (Text.digitsValue (whole ++ fraction)) (power - fraction.length), rest) := by
  have exponent := readExponent_written (fun c first => (stop c first).1) power
  cases fraction with
  | nil =>
    show readNumberTail negative whole ('e' :: '+' :: (Nat.toDigits 10 power ++ rest)) = _
    rw [readNumberTail]
    · simp only [bind, Except.bind, exponent]
    · rintro after same
      exact absurd (List.cons.inj same).1 (by decide)
  | cons c fraction =>
    have letter : ∀ d ∈ ('e' :: '+' :: (Nat.toDigits 10 power ++ rest)).head?, d.isDigit = false := by
      rintro d ⟨⟩
      decide
    have some : ¬(c :: fraction).isEmpty = true := by simp
    show readNumberTail negative whole
      ('.' :: ((c :: fraction) ++ 'e' :: '+' :: (Nat.toDigits 10 power ++ rest))) = _
    rw [readNumberTail]
    simp only [Text.takeWhile_digits digits letter, Text.dropWhile_digits digits letter, if_neg some, bind,
      Except.bind, exponent]

theorem ofDecimal_natural {k : Nat} (inside : n * 10 ^ k < Number.overflow) :
    Number.ofDecimal false n k = Number.ofNat (n * 10 ^ k) := by
  by_cases none : n = 0
  · subst none
    rw [Nat.zero_mul]
    rfl
  · have length := Nat.length_toDigits_pos (b := 10) (n := n)
    have few : (Nat.toDigits 10 n).length - 1 + k < 400 := by
      refine (Nat.pow_lt_pow_iff_right (a := 10) (by decide)).mp ?_
      calc 10 ^ ((Nat.toDigits 10 n).length - 1 + k)
          = 10 ^ ((Nat.toDigits 10 n).length - 1) * 10 ^ k := Nat.pow_add _ _ _
        _ ≤ n * 10 ^ k :=
          Nat.mul_le_mul_right _ (Text.pow_length_toDigits_le (Nat.pos_of_ne_zero none))
        _ < Number.overflow := inside
        _ < 10 ^ 400 := by decide +kernel
    have right : ¬Number.exponentBound < (k : Int) + (Nat.toDigits 10 n).length := by
      rw [Number.exponentBound]
      omega
    have left : ¬(k : Int) + (Nat.toDigits 10 n).length < -Number.exponentBound := by
      rw [Number.exponentBound]
      omega
    simp only [Number.ofDecimal, if_neg none, if_neg right, if_neg left]
    rw [if_neg (by decide), Number.powerOfTen_natCast, ← Nat.cast_mul, Number.round_natCast]

private theorem readNumber_run (filled : cs ≠ []) (all : ∀ c ∈ cs, c.isDigit = true) (lead : cs.head? ≠ some '0')
    (stop : ∀ c ∈ rest.head?, c.isDigit = false) (negative : Bool) :
    readNumber negative (cs ++ rest) = readNumberTail negative cs rest := by
  have some : ¬cs.isEmpty = true := by simpa using filled
  rw [readNumber]
  · simp only [Text.takeWhile_digits all stop, Text.dropWhile_digits all stop, if_neg some]
  · intro more same
    refine lead ?_
    rw [← List.head?_append_of_ne_nil _ filled, same]
    rfl

/-- The text of a natural number is read as the number that it is rounded to. -/
theorem readNumber_writes (writes : Number.Writes cs n) (inside : n < Number.overflow)
    (stop : EndsNumber rest) : readNumber false (cs ++ rest) = .ok (Number.ofNat n, rest) := by
  have digitless : ∀ c ∈ rest.head?, c.isDigit = false := fun c first => (stop c first).1
  cases writes with
  | digits digits lead =>
    obtain ⟨filled, all⟩ := Text.isDigits_iff.mp digits
    have value : Number.ofDecimal false (Text.digitsValue cs) 0 = Number.ofNat (Text.digitsValue cs) := by
      have natural := ofDecimal_natural (n := Text.digitsValue cs) (k := 0) (by simpa using inside)
      rwa [Nat.pow_zero, Nat.mul_one] at natural
    by_cases zero : cs.head? = some '0'
    · have alone := lead zero
      subst alone
      have last : ¬rest.head?.any Char.isDigit = true := by
        cases rest with
        | nil => decide
        | cons c rest => simp [stop c rfl]
      rw [List.singleton_append, readNumber, if_neg last, readNumberTail_whole stop, value]
    · rw [readNumber_run filled all zero digitless, readNumberTail_whole stop, value]
  | @scaled first fraction power digits lead reach =>
    obtain ⟨-, all⟩ := Text.isDigits_iff.mp digits
    have width : ((power : Int) - fraction.length) = (power - fraction.length : Nat) := by omega
    have behind : ∀ c ∈ ((if fraction.isEmpty then [] else '.' :: fraction) ++
        'e' :: '+' :: (Nat.toDigits 10 power ++ rest)).head?, c.isDigit = false := by
      split <;> rintro c ⟨⟩ <;> decide
    have alone : ∀ c ∈ [first], c.isDigit = true := by simpa using all first List.mem_cons_self
    have start : [first].head? ≠ some '0' := fun zero => lead (Option.some.inj zero)
    have parts : [first] ++ (if fraction.isEmpty then [] else '.' :: fraction) ++ ['e', '+'] ++
        Nat.toDigits 10 power ++ rest = [first] ++ ((if fraction.isEmpty then [] else '.' :: fraction) ++
          'e' :: '+' :: (Nat.toDigits 10 power ++ rest)) := by
      simp only [List.append_assoc, List.cons_append, List.nil_append]
    rw [parts, readNumber_run (by simp) alone start behind,
      readNumberTail_scaled (fun c mem => all c (List.mem_cons_of_mem _ mem)) stop, width,
      List.singleton_append, ofDecimal_natural inside]

/-- A natural number in range is written as one that is rounded to it. -/
theorem exists_writes {m : Nat} {x : Rat} (value : Number.ofNat m = .finite x) :
    ∃ n, Number.Writes (numberChars (.finite x)) n ∧ Number.ofNat n = .finite x := by
  rcases Number.ofNat_cases m with far | ⟨k, natural, fixed⟩
  · rw [far] at value
    exact absurd value (by simp)
  · rw [natural, Int.cast_natCast] at value
    obtain rfl := Number.finite.inj value
    rw [Int.cast_natCast] at fixed
    exact Number.rationalText_writes fixed

/-- A line number is read back, unless it is out of range. -/
theorem readNumber_written {m : Nat} {x : Rat} (value : Number.ofNat m = .finite x) (stop : EndsNumber rest) :
    readNumber false (numberChars (.finite x) ++ rest) = .ok (.finite x, rest) := by
  obtain ⟨n, writes, rounds⟩ := exists_writes value
  rw [readNumber_writes writes (Number.lt_overflow_of_finite rounds) stop, rounds]

end Numbers

section Documents

/-- A document with natural numbers in range, in whose objects no key comes twice. -/
inductive Natural : Json → Prop
  | null : Natural .null
  | bool (value : Bool) : Natural (.bool value)
  | number {m : Nat} {x : Rat} (value : Number.ofNat m = .finite x) : Natural (.number (.finite x))
  | string (value : String) : Natural (.string value)
  | array {items : List Json} (inner : ∀ item ∈ items, Natural item) : Natural (.array items)
  | object {members : List (String × Json)} (once : (members.map Prod.fst).Nodup)
      (inner : ∀ member ∈ members, Natural member.2) : Natural (.object members)

attribute [simp] Natural.null Natural.bool Natural.string

@[simp]
theorem natural_object_iff {members : List (String × Json)} :
    (Json.object members).Natural ↔ (members.map Prod.fst).Nodup ∧ ∀ member ∈ members, member.2.Natural := by
  constructor
  · rintro (_ | _ | _ | _ | _ | ⟨once, inner⟩)
    exact ⟨once, inner⟩
  · exact fun ⟨once, inner⟩ => .object once inner

/-- A document that is read back from its text with fuel for two calls a character, whatever follows that does not
carry on a number. The text begins with a character of its own, and not with the end of an array. -/
structure ReadBack (document : Json) : Prop where
  first : ∃ c more, chars document = c :: more ∧ isGap c = false ∧ c ≠ ']'
  read : ∀ fuel {rest}, EndsNumber rest → 2 * (chars document).length ≤ fuel →
    readValue fuel (chars document ++ rest) = .ok (document, rest)

variable {fuel : Nat} {rest : List Char}

/-- A text is not empty, so that there is fuel for its first call. -/
theorem readBack_of_succ {document : Json} (first : ∃ c more, chars document = c :: more ∧ isGap c = false ∧ c ≠ ']')
    (read : ∀ {fuel rest}, EndsNumber rest → 2 * (chars document).length ≤ fuel + 1 →
      readValue (fuel + 1) (chars document ++ rest) = .ok (document, rest)) : ReadBack document := by
  refine ⟨first, fun fuel rest stop enough => ?_⟩
  cases fuel with
  | zero =>
    obtain ⟨c, more, text, -⟩ := first
    rw [text, List.length_cons] at enough
    omega
  | succ fuel => exact read stop enough

theorem isGap_of_isDigit {c : Char} (digit : c.isDigit = true) : isGap c = false := by
  simp only [isGap, Bool.or_eq_false_iff, beq_eq_false_iff_ne]
  refine ⟨⟨⟨?_, ?_⟩, ?_⟩, ?_⟩ <;> rintro rfl <;> exact absurd digit (by decide)

theorem skipGap_cons {c : Char} (inked : isGap c = false) (cs : List Char) : skipGap (c :: cs) = c :: cs := by
  rw [skipGap, List.dropWhile_cons_of_neg (by simp [inked])]

section Values

theorem readBack_null : ReadBack .null :=
  readBack_of_succ ⟨'n', _, rfl, by decide, by decide⟩ fun _ _ => rfl

theorem readBack_bool (value : Bool) : ReadBack (.bool value) := by
  cases value with
  | true => exact readBack_of_succ ⟨'t', _, rfl, by decide, by decide⟩ fun _ _ => rfl
  | false => exact readBack_of_succ ⟨'f', _, rfl, by decide, by decide⟩ fun _ _ => rfl

theorem readBack_string (value : String) : ReadBack (.string value) := by
  refine readBack_of_succ ⟨'"', _, rfl, by decide, by decide⟩ fun {fuel rest} _ _ => ?_
  have whole : chars (.string value) ++ rest = '"' :: (value.toList.flatMap escaped ++ '"' :: rest) := by
    simp [chars, quoted]
  rw [whole]
  show (readText _ >>= _) = _
  rw [readText_written]
  rfl

/-- A value that begins with a digit is a number without a sign. -/
private theorem readValue_digit {c : Char} (digit : c.isDigit = true) (cs : List Char) :
    readValue (fuel + 1) (c :: cs) =
      (readNumber false (c :: cs)).map fun (value, after) => (.number value, after) := by
  have other : ∀ {d : Char} {more : List Char}, d.isDigit = false → c :: cs ≠ d :: more := by
    rintro d more word ⟨⟩
    exact absurd digit (by simp [word])
  unfold readValue
  rw [skipGap_cons (isGap_of_isDigit digit)]
  split
  case h_8 => rfl
  all_goals
    rename_i same
    exact absurd same (other (by decide))

theorem readBack_number {m : Nat} {x : Rat} (value : Number.ofNat m = .finite x) :
    ReadBack (.number (.finite x)) := by
  obtain ⟨n, writes, -⟩ := exists_writes value
  obtain ⟨c, more, text, digit⟩ := writes.exists_digit
  refine readBack_of_succ ⟨c, more, text, isGap_of_isDigit digit, ?_⟩ fun {fuel rest} stop _ => ?_
  · rintro rfl
    exact absurd digit (by decide)
  · have read := readNumber_written value stop
    rw [text] at read
    rw [chars, text, List.cons_append, readValue_digit digit, ← List.cons_append, read]
    rfl

end Values

section Arrays

private theorem readItems_written {items : List Json} (filled : items ≠ []) (inner : ∀ item ∈ items, ReadBack item)
    (fuel : Nat) (enough : 2 * (Text.joined [','] (itemChars items)).length + 1 ≤ fuel) (rest : List Char) :
    readItems fuel (Text.joined [','] (itemChars items) ++ ']' :: rest) = .ok (items, rest) := by
  -- every item takes one unit of fuel, and its text has a character at least
  induction items generalizing fuel with
  | nil => exact absurd rfl filled
  | cons item items ih =>
    obtain ⟨first, later⟩ := List.forall_mem_cons.mp inner
    obtain ⟨fuel, rfl⟩ : ∃ less, fuel = less + 1 := ⟨fuel - 1, by omega⟩
    cases items with
    | nil =>
      simp only [itemChars, Text.joined] at enough
      have read := first.read fuel (endsNumber_mark ']' (by decide) rest) (by omega)
      show readItems (fuel + 1) (chars item ++ ']' :: rest) = _
      rw [readItems, read]
      rfl
    | cons next items =>
      simp only [itemChars, Text.joined, List.length_append, List.length_cons, List.length_nil] at enough
      have read := first.read fuel (endsNumber_mark ',' (by decide)
        (Text.joined [','] (itemChars (next :: items)) ++ ']' :: rest)) (by omega)
      have behind := ih (List.cons_ne_nil next items) later fuel (by
        simp only [itemChars]
        omega)
      have whole : Text.joined [','] (itemChars (item :: next :: items)) ++ ']' :: rest =
          chars item ++ ',' :: (Text.joined [','] (itemChars (next :: items)) ++ ']' :: rest) := by
        simp [itemChars, Text.joined]
      rw [whole, readItems, read]
      show (readItems fuel _ >>= _) = _
      rw [behind]
      rfl

/-- An array that is not closed at once has items. -/
private theorem readValue_items {cs : List Char} (other : ∀ after, skipGap cs ≠ ']' :: after) :
    readValue (fuel + 1) ('[' :: cs) =
      (do let (items, after) ← readItems fuel cs; .ok (.array items, after)) := by
  unfold readValue
  rw [skipGap_cons (by decide)]
  split
  case h_2 rest same =>
    obtain rfl := (List.cons.inj same).2
    split
    · rename_i after closed
      exact absurd closed (other after)
    · rfl
  all_goals simp_all

theorem readBack_array {items : List Json} (inner : ∀ item ∈ items, ReadBack item) : ReadBack (.array items) := by
  refine readBack_of_succ ⟨'[', _, rfl, by decide, by decide⟩ fun {fuel rest} _ enough => ?_
  have whole : chars (.array items) ++ rest = '[' :: (Text.joined [','] (itemChars items) ++ ']' :: rest) := by
    simp [chars]
  rw [whole]
  cases items with
  | nil => rfl
  | cons item items =>
    obtain ⟨c, more, text, inked, other⟩ := (inner item List.mem_cons_self).first
    have read := readItems_written (List.cons_ne_nil item items) inner fuel (by
      simp only [chars, List.length_append, List.length_cons, List.length_nil] at enough
      omega) rest
    obtain ⟨tail, start⟩ : ∃ tail, Text.joined [','] (itemChars (item :: items)) ++ ']' :: rest = c :: tail := by
      cases items with
      | nil => exact ⟨more ++ ']' :: rest, by simp [itemChars, Text.joined, text]⟩
      | cons next items => exact ⟨_, by simp [itemChars, Text.joined, text]; rfl⟩
    rw [readValue_items, read]
    · rfl
    · intro after same
      rw [start, skipGap_cons inked] at same
      exact other (List.cons.inj same).1

end Arrays

section Objects

/-- A member is read by its value, and by the mark behind it. -/
private theorem readMembers_member (fuel : Nat) (noName : Complaint) (seen : List (String × Json)) (name : String)
    (tail : List Char) : ∃ next : Json × List Char → Except Fault (List (String × Json) × List Char),
      readMembers (fuel + 1) noName seen (quoted name ++ ':' :: tail) = readValue fuel tail >>= next ∧
      (∀ value after, next (value, '\x7d' :: after) = .ok (setEntry seen name value, after)) ∧
      ∀ value after, next (value, ',' :: after) =
        readMembers fuel .noNextName (setEntry seen name value) after := by
  have text : quoted name ++ ':' :: tail = '"' :: (name.toList.flatMap escaped ++ '"' :: ':' :: tail) := by
    simp [quoted]
  apply Exists.intro
  constructor
  · rw [text]
    show (readText _ >>= _) = _
    rw [readText_written]
    rfl
  · exact ⟨fun value after => rfl, fun value after => rfl⟩

private theorem readMembers_written {members : List (String × Json)} (filled : members ≠ [])
    (inner : ∀ member ∈ members, ReadBack member.2) (seen : List (String × Json))
    (once : ((seen ++ members).map Prod.fst).Nodup) (fuel : Nat)
    (enough : 2 * (Text.joined [','] (memberChars members)).length + 1 ≤ fuel) (noName : Complaint)
    (rest : List Char) :
    readMembers fuel noName seen (Text.joined [','] (memberChars members) ++ '\x7d' :: rest) =
      .ok (seen ++ members, rest) := by
  -- what was read before is in `seen`, and none of its names comes again
  induction members generalizing fuel seen noName with
  | nil => exact absurd rfl filled
  | cons member members ih =>
    obtain ⟨name, value⟩ := member
    obtain ⟨first, later⟩ := List.forall_mem_cons.mp inner
    have first : ReadBack value := first
    obtain ⟨fuel, rfl⟩ : ∃ less, fuel = less + 1 := ⟨fuel - 1, by omega⟩
    have fresh : name ∉ seen.map Prod.fst := by
      rw [List.map_append, List.nodup_append] at once
      exact fun mem => once.2.2 name mem name List.mem_cons_self rfl
    have set := setEntry_of_not_mem fresh value
    cases members with
    | nil =>
      simp only [memberChars, Text.joined, List.length_append, List.length_cons] at enough
      have read := first.read fuel (endsNumber_mark '\x7d' (by decide) rest) (by omega)
      have whole : Text.joined [','] (memberChars [(name, value)]) ++ '\x7d' :: rest =
          quoted name ++ ':' :: (chars value ++ '\x7d' :: rest) := by
        simp [memberChars, Text.joined]
      obtain ⟨next, named, closed, -⟩ := readMembers_member fuel noName seen name (chars value ++ '\x7d' :: rest)
      rw [whole, named, read, ← set]
      exact closed value rest
    | cons second members =>
      simp only [memberChars, Text.joined, List.length_append, List.length_cons, List.length_nil] at enough
      have read := first.read fuel (endsNumber_mark ',' (by decide)
        (Text.joined [','] (memberChars (second :: members)) ++ '\x7d' :: rest)) (by omega)
      have behind := ih (List.cons_ne_nil second members) later (seen ++ [(name, value)]) (by simpa using once) fuel
        (by
          simp only [memberChars]
          omega) .noNextName
      have whole : Text.joined [','] (memberChars ((name, value) :: second :: members)) ++ '\x7d' :: rest =
          quoted name ++ ':' :: (chars value ++ ',' ::
            (Text.joined [','] (memberChars (second :: members)) ++ '\x7d' :: rest)) := by
        simp [memberChars, Text.joined]
      obtain ⟨next, named, -, goes_on⟩ := readMembers_member fuel noName seen name (chars value ++ ',' ::
        (Text.joined [','] (memberChars (second :: members)) ++ '\x7d' :: rest))
      rw [whole, named, read]
      refine (goes_on value _).trans ?_
      rw [set, behind, List.append_assoc, List.singleton_append]

theorem readBack_object {members : List (String × Json)} (once : (members.map Prod.fst).Nodup)
    (inner : ∀ member ∈ members, ReadBack member.2) : ReadBack (.object members) := by
  refine readBack_of_succ ⟨'\x7b', _, rfl, by decide, by decide⟩ fun {fuel rest} _ enough => ?_
  have whole : chars (.object members) ++ rest =
      '\x7b' :: (Text.joined [','] (memberChars members) ++ '\x7d' :: rest) := by
    simp [chars]
  rw [whole]
  cases members with
  | nil => rfl
  | cons member members =>
    have read := readMembers_written (List.cons_ne_nil member members) inner [] (by simpa using once) fuel (by
        simp only [chars, List.length_append, List.length_cons, List.length_nil] at enough
        omega) .noFirstName rest
    obtain ⟨tail, start⟩ :
        ∃ tail, Text.joined [','] (memberChars (member :: members)) ++ '\x7d' :: rest = '"' :: tail := by
      cases members with
      | nil => exact ⟨_, by simp [memberChars, Text.joined, quoted]; rfl⟩
      | cons next members => exact ⟨_, by simp [memberChars, Text.joined, quoted]; rfl⟩
    rw [start] at read ⊢
    show (readMembers fuel .noFirstName [] ('"' :: tail) >>= _) = _
    rw [read]
    rfl

end Objects

theorem Natural.readBack {document : Json} (natural : document.Natural) : ReadBack document := by
  induction natural with
  | null => exact readBack_null
  | bool value => exact readBack_bool value
  | number value => exact readBack_number value
  | string value => exact readBack_string value
  | array inner ih => exact readBack_array ih
  | object once inner ih => exact readBack_object once ih

/-- A document with natural numbers is read back from its text. -/
theorem read_text {document : Json} (natural : document.Natural) : read document.text = .ok document := by
  have ends : EndsNumber [] := fun c none => absurd none (by simp)
  have whole := natural.readBack.read (2 * (chars document).length + 2) ends (by omega)
  rw [List.append_nil] at whole
  simp only [read, text, String.toList_ofList, whole]
  rfl

end Documents

end DocMend.Json
