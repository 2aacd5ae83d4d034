import DocMend.Proofs.Plan.Nearest
import DocMend.Proofs.Plan.Wording
import DocMend.Proofs.Text.Pieces
import DocMend.Proofs.Text.Trim
/-!
New comment blocks. A declaration gets one if a word with an opening parenthesis behind it stands on its line.
The first such parenthesis decides, and the name of the method is the whole of the word before it. The block is
a comment of its own: three lines with the indent of the declaration, of which nothing but word characters is
taken into them, so the block opens one comment at its beginning and ends it at its end.
-/

set_option autoImplicit false
set_option relaxedAutoImplicit false

namespace DocMend

namespace Phrase

variable {cs : List Char} {c : Char}

/-- A word stands in a text with an opening parenthesis behind it, blanks aside. -/
def HasCall (cs : List Char) : Prop :=
  ∃ word gap, word ≠ [] ∧ (∀ c ∈ word, Text.isWordChar c = true) ∧
    (∀ c ∈ gap, Text.isBlank c = true) ∧ word ++ (gap ++ ['(']) <:+: cs

private theorem opensCall_iff : opensCall cs = true ↔
    ∃ gap, (∀ c ∈ gap, Text.isBlank c = true) ∧ gap ++ ['('] <+: cs := by
  constructor
  · intro opens
    refine ⟨cs.takeWhile Text.isBlank, fun c => List.all_eq_true.mp List.all_takeWhile c, ?_⟩
    simp only [opensCall] at opens
    split at opens
    · rename_i rest dropped
      have whole := List.takeWhile_append_dropWhile (p := Text.isBlank) (l := cs)
      rw [dropped, List.append_cons] at whole
      exact ⟨rest, whole⟩
    · exact absurd opens (by decide)
  · rintro ⟨gap, blank, rest, rfl⟩
    have inked : ¬Text.isBlank '(' = true := by decide
    simp only [opensCall, List.append_assoc, List.dropWhile_append_of_pos blank,
      List.singleton_append, List.dropWhile_cons_of_neg inked]

/-- Neither a blank nor the parenthesis goes on with a word. -/
private theorem dropWhile_call {word gap rest : List Char} (inner : ∀ c ∈ word, Text.isWordChar c = true)
    (blank : ∀ c ∈ gap, Text.isBlank c = true) :
    (word ++ (gap ++ '(' :: rest)).dropWhile Text.isWordChar = gap ++ '(' :: rest := by
  rw [List.dropWhile_append_of_pos inner]
  cases gap with
  | nil => exact List.dropWhile_cons_of_neg (by decide)
  | cons c gap =>
    refine List.dropWhile_cons_of_neg fun word => ?_
    exact absurd (blank c List.mem_cons_self) (by simp [Text.isBlank_of_isWordChar word])

/-- A call begins with all of its word. -/
private theorem call_here : (Text.isWordChar c = true ∧
      opensCall ((c :: cs).dropWhile Text.isWordChar) = true) ↔
    ∃ word gap, word ≠ [] ∧ (∀ c ∈ word, Text.isWordChar c = true) ∧
      (∀ c ∈ gap, Text.isBlank c = true) ∧ word ++ (gap ++ ['(']) <+: c :: cs := by
  rw [opensCall_iff]
  constructor
  · rintro ⟨first, gap, blank, rest, whole⟩
    have filled : (c :: cs).takeWhile Text.isWordChar ≠ [] := by
      rw [List.takeWhile_cons_of_pos first]
      exact List.cons_ne_nil _ _
    refine ⟨_, gap, filled, fun d => List.all_eq_true.mp List.all_takeWhile d, blank, rest, ?_⟩
    rw [List.append_assoc, whole, List.takeWhile_append_dropWhile]
  · rintro ⟨word, gap, filled, inner, blank, rest, whole⟩
    obtain ⟨d, word, rfl⟩ := List.exists_cons_of_ne_nil filled
    obtain rfl : d = c := (List.cons.inj whole).1
    refine ⟨inner d List.mem_cons_self, gap, blank, rest, ?_⟩
    rw [List.append_assoc, List.append_assoc, List.singleton_append] at whole
    rw [← whole, dropWhile_call inner blank, List.append_assoc, List.singleton_append]

theorem calledWord?_isSome_iff : (calledWord? cs).isSome = true ↔ HasCall cs := by
  induction cs with
  | nil => simp [calledWord?, HasCall]
  | cons c cs ih =>
    have parts : HasCall (c :: cs) ↔
        (∃ word gap, word ≠ [] ∧ (∀ c ∈ word, Text.isWordChar c = true) ∧
          (∀ c ∈ gap, Text.isBlank c = true) ∧ word ++ (gap ++ ['(']) <+: c :: cs) ∨ HasCall cs := by
      simp only [HasCall, List.infix_cons_iff, and_or_left, exists_or]
    rw [parts, ← call_here, ← ih, calledWord?]
    split
    · rename_i here
      exact iff_of_true rfl (Or.inl here)
    · rename_i elsewhere
      simp only [elsewhere, false_or]

/-- Trimming keeps calls. -/
theorem hasCall_trim : HasCall (Text.trim cs) ↔ HasCall cs := by
  constructor
  · rintro ⟨word, gap, filled, inner, blank, inside⟩
    obtain ⟨before, after, -, -, whole⟩ := Text.exists_trim cs
    refine ⟨word, gap, filled, inner, blank, inside.trans ⟨before, after, ?_⟩⟩
    rw [List.append_assoc, ← whole]
  · rintro ⟨word, gap, filled, inner, blank, inside⟩
    refine ⟨word, gap, filled, inner, blank, Text.infix_trim ?_ (by simp [filled]) inside⟩
    refine Text.trim_eq_self_iff.mpr ⟨fun c first => ?_, fun c last => ?_⟩
    · rw [List.head?_append_of_ne_nil _ filled] at first
      exact Text.isBlank_of_isWordChar (inner c (List.mem_of_head? first))
    · rw [← List.append_assoc, List.getLast?_concat] at last
      obtain rfl := Option.some.inj last
      decide

/-- A line names a method exactly if it has a call. -/
theorem methodName?_isSome_iff {line : String} :
    (methodName? line).isSome = true ↔ HasCall line.toList := by
  rw [methodName?, Option.isSome_map, calledWord?_isSome_iff, hasCall_trim]

section FirstCall

variable {front word gap rest before after : List Char}

/-- The last character of a text that is no blank is a word character. -/
def EndsInWord (cs : List Char) : Prop :=
  ∃ front c gap, cs = front ++ c :: gap ∧ Text.isWordChar c = true ∧ ∀ d ∈ gap, Text.isBlank d = true

/-- No opening parenthesis of a text has a word before it. -/
def Uncalled (cs : List Char) : Prop :=
  ∀ before after, cs = before ++ '(' :: after → ¬EndsInWord before

/-- The first opening parenthesis of a text that has a word before it, blanks aside, and the whole of this word.
Neither the word nor the blanks have a parenthesis, so all the earlier ones stand in front of the word. -/
structure FirstCall (cs front word gap rest : List Char) : Prop where
  whole : cs = front ++ (word ++ (gap ++ '(' :: rest))
  filled : word ≠ []
  inner : ∀ c ∈ word, Text.isWordChar c = true
  longest : ∀ c ∈ front.getLast?, Text.isWordChar c = false
  blank : ∀ c ∈ gap, Text.isBlank c = true
  first : Uncalled front

private theorem endsInWord_append (filled : word ≠ []) (inner : ∀ c ∈ word, Text.isWordChar c = true)
    (blank : ∀ c ∈ gap, Text.isBlank c = true) : EndsInWord (front ++ (word ++ gap)) := by
  obtain ⟨start, c, rfl⟩ := List.eq_nil_or_concat word |>.resolve_left filled
  exact ⟨front ++ start, c, gap, by simp, inner c (by simp), blank⟩

theorem hasCall_iff : HasCall cs ↔ ∃ before after, cs = before ++ '(' :: after ∧ EndsInWord before := by
  constructor
  · rintro ⟨word, gap, filled, inner, blank, front, rest, rfl⟩
    exact ⟨front ++ (word ++ gap), rest, by simp, endsInWord_append filled inner blank⟩
  · rintro ⟨_, after, rfl, front, c, gap, rfl, inner, blank⟩
    exact ⟨[c], gap, by simp, by simpa using inner, blank, front, after, by simp⟩

private theorem uncalled_iff : Uncalled cs ↔ ¬HasCall cs := by
  rw [hasCall_iff]
  simp only [Uncalled, not_exists, not_and]

private theorem opensCall_behind (inner : ∀ c ∈ word, Text.isWordChar c = true)
    (blank : ∀ c ∈ gap, Text.isBlank c = true) :
    opensCall ((word ++ (gap ++ '(' :: rest)).dropWhile Text.isWordChar) = true := by
  rw [dropWhile_call inner blank]
  exact opensCall_iff.mpr ⟨gap, blank, rest, by simp⟩

/-- A word that is not called goes on to the parenthesis of no call. -/
private theorem uncalled_cons (later : Uncalled front) (elsewhere : ¬(Text.isWordChar c = true ∧
      opensCall ((c :: (front ++ rest)).dropWhile Text.isWordChar) = true)) : Uncalled (c :: front) := by
  rintro before after whole ⟨start, d, gap, shape, inner, blank⟩
  cases before with
  | nil => exact absurd shape (by simp)
  | cons e before =>
    obtain ⟨rfl, behind⟩ := List.cons.inj whole
    cases start with
    | nil =>
      obtain ⟨rfl, rfl⟩ := List.cons.inj shape
      refine elsewhere ⟨inner, ?_⟩
      rw [behind, List.append_eq, List.append_assoc]
      exact opensCall_behind (List.forall_mem_singleton.mpr inner) blank
    | cons e' start => exact later before after behind ⟨start, d, gap, (List.cons.inj shape).2, inner, blank⟩

theorem exists_firstCall (found : calledWord? cs = some word) :
    ∃ front gap rest, FirstCall cs front word gap rest := by
  induction cs with
  | nil => exact absurd found (by simp [calledWord?])
  | cons c cs ih =>
    rw [calledWord?] at found
    split at found
    · rename_i here
      obtain ⟨gap, blank, rest, behind⟩ := opensCall_iff.mp here.2
      obtain rfl := Option.some.inj found
      refine ⟨[], gap, rest, ?_, ?_, fun d => List.all_eq_true.mp List.all_takeWhile d, by simp, blank, ?_⟩
      · rw [List.append_assoc, List.singleton_append] at behind
        rw [behind, List.nil_append, List.takeWhile_append_dropWhile]
      · rw [List.takeWhile_cons_of_pos here.1]
        exact List.cons_ne_nil _ _
      · intro before after whole
        exact absurd whole (by simp)
    · rename_i elsewhere
      obtain ⟨front, gap, rest, call⟩ := ih found
      have whole := call.whole
      rw [whole] at elsewhere
      refine ⟨c :: front, gap, rest, by rw [whole, List.cons_append], call.filled, call.inner, ?_, call.blank,
        uncalled_cons call.first elsewhere⟩
      cases front with
      | nil =>
        rintro d last
        obtain rfl : c = d := Option.some.inj last
        refine Bool.eq_false_iff.mpr fun word => elsewhere ⟨word, ?_⟩
        exact opensCall_behind (List.forall_mem_cons.mpr ⟨word, call.inner⟩) call.blank
      | cons d front =>
        rw [List.getLast?_cons_cons]
        exact call.longest

/-- The parentheses before the one of the first call are not called. -/
private theorem FirstCall.uncalled (call : FirstCall cs front word gap rest) :
    Uncalled (front ++ (word ++ gap)) := by
  intro before after shape
  have clear : '(' ∉ word ++ gap := by
    rw [List.mem_append]
    rintro (mem | mem)
    · exact absurd (call.inner _ mem) (by decide)
    · exact absurd (call.blank _ mem) (by decide)
  obtain ⟨behind, whole, -⟩ := Text.exists_of_not_mem_back clear shape
  exact call.first before behind whole

/-- No first call ends behind another one. -/
private theorem FirstCall.not_behind {cs' front' word' gap' rest' more tail : List Char}
    (one : FirstCall cs front word gap rest) (two : FirstCall cs' front' word' gap' rest')
    (further : front' ++ (word' ++ gap') = front ++ (word ++ gap) ++ more) (same : '(' :: rest = more ++ tail) :
    more = [] := by
  cases more with
  | nil => rfl
  | cons c more =>
    obtain rfl := (List.cons.inj same).1
    exact absurd (endsInWord_append one.filled one.inner one.blank) (two.uncalled _ _ further)

/-- The word of a call is read backwards from its parenthesis. -/
private theorem FirstCall.reverse_word (call : FirstCall cs front word gap rest) : word.reverse =
    ((front ++ (word ++ gap)).reverse.dropWhile Text.isBlank).takeWhile Text.isWordChar := by
  have blank : ∀ c ∈ gap.reverse, Text.isBlank c = true := fun c mem => call.blank c (List.mem_reverse.mp mem)
  have inner : ∀ c ∈ word.reverse, Text.isWordChar c = true := fun c mem => call.inner c (List.mem_reverse.mp mem)
  have stop : front.reverse.takeWhile Text.isWordChar = [] := by
    have longest := call.longest
    rw [← List.head?_reverse] at longest
    cases shape : front.reverse with
    | nil => rfl
    | cons c more => exact List.takeWhile_cons_of_neg (by simp [longest c (shape ▸ rfl)])
  have start : (word.reverse ++ front.reverse).dropWhile Text.isBlank = word.reverse ++ front.reverse := by
    obtain ⟨c, more, shape⟩ := List.exists_cons_of_ne_nil (List.reverse_ne_nil_iff.mpr call.filled)
    rw [shape] at inner ⊢
    exact List.dropWhile_cons_of_neg (by simp [Text.isBlank_of_isWordChar (inner c List.mem_cons_self)])
  rw [List.reverse_append, List.reverse_append, List.append_assoc, List.dropWhile_append_of_pos blank, start,
    List.takeWhile_append_of_pos inner, stop, List.append_nil]

/-- A text has one first call. -/
theorem FirstCall.unique {front' word' gap' rest' : List Char} (one : FirstCall cs front word gap rest)
    (two : FirstCall cs front' word' gap' rest') : word = word' := by
  have whole : front ++ (word ++ gap) ++ '(' :: rest = front' ++ (word' ++ gap') ++ '(' :: rest' := by
    simpa only [List.append_assoc] using one.whole.symm.trans two.whole
  have before : front ++ (word ++ gap) = front' ++ (word' ++ gap') := by
    rcases List.append_eq_append_iff.mp whole with ⟨more, further, same⟩ | ⟨more, further, same⟩
    · rw [further, one.not_behind two further same, List.append_nil]
    · rw [further, two.not_behind one further same, List.append_nil]
  rw [← List.reverse_inj, one.reverse_word, two.reverse_word, before]

/-- Blanks in front call nothing. -/
private theorem Uncalled.blank_append (later : Uncalled front) (blank : ∀ c ∈ gap, Text.isBlank c = true) :
    Uncalled (gap ++ front) := by
  rintro before after whole ⟨start, c, tail, shape, inner, spaced⟩
  have closed : '(' ∉ gap := fun mem => absurd (blank _ mem) (by decide)
  have wordless : c ∉ gap := fun mem => absurd (blank c mem) (by simp [Text.isBlank_of_isWordChar inner])
  obtain ⟨before, rfl, behind⟩ := Text.exists_of_not_mem_front closed whole
  obtain ⟨start, rfl, ending⟩ := Text.exists_of_not_mem_front wordless shape
  exact later before after behind ⟨start, c, tail, ending, inner, spaced⟩

/-- Blanks around a text do not change its first call. -/
theorem FirstCall.of_trim (call : FirstCall (Text.trim cs) front word gap rest) :
    ∃ front rest, FirstCall cs front word gap rest := by
  obtain ⟨before, after, blank, -, whole⟩ := Text.exists_trim cs
  refine ⟨before ++ front, rest ++ after, ?_, call.filled, call.inner, fun c last => ?_, call.blank,
    call.first.blank_append blank⟩
  · rw [whole, call.whole]
    simp only [List.append_assoc, List.cons_append]
  · rcases List.eq_nil_or_concat front with rfl | ⟨start, d, rfl⟩
    · rw [List.append_nil] at last
      refine Bool.eq_false_iff.mpr fun word => ?_
      exact absurd (blank c (List.mem_of_getLast? last)) (by simp [Text.isBlank_of_isWordChar word])
    · rw [List.concat_eq_append, ← List.append_assoc, List.getLast?_concat] at last
      exact call.longest c (by rwa [List.concat_eq_append, List.getLast?_concat])

private theorem exists_firstCall_of_methodName? {line name : String} (found : methodName? line = some name) :
    ∃ front gap rest, FirstCall line.toList front name.toList gap rest := by
  obtain ⟨word, called, rfl⟩ := Option.map_eq_some_iff.mp found
  obtain ⟨front, gap, rest, call⟩ := exists_firstCall called
  obtain ⟨front, rest, call⟩ := call.of_trim
  rw [String.toList_ofList]
  exact ⟨front, gap, rest, call⟩

/-- The word of the first call is the name of the method. -/
theorem FirstCall.methodName?_eq {line : String} (call : FirstCall line.toList front word gap rest) :
    methodName? line = some (String.ofList word) := by
  have called : HasCall line.toList := hasCall_iff.mpr
    ⟨front ++ (word ++ gap), rest, by simpa only [List.append_assoc] using call.whole,
      endsInWord_append call.filled call.inner call.blank⟩
  obtain ⟨name, found⟩ := Option.isSome_iff_exists.mp (methodName?_isSome_iff.mpr called)
  obtain ⟨front, gap, rest, call'⟩ := exists_firstCall_of_methodName? found
  rw [found, call.unique call', String.ofList_toList]

/-- A line without a called parenthesis names nothing. Every other one names the whole word of its first call.
Neither the blanks around the line nor the ones between the word and its parenthesis matter. -/
theorem method_name_of_first_call (line : String) :
    (methodName? line = none ↔ Uncalled line.toList) ∧
    (∀ name, methodName? line = some name ↔
      ∃ front gap rest, FirstCall line.toList front name.toList gap rest) ∧
    (∀ before after : String, (∀ c ∈ before.toList, Text.isBlank c = true) →
      (∀ c ∈ after.toList, Text.isBlank c = true) → methodName? (before ++ line ++ after) = methodName? line) ∧
    ∀ front word gap rest, FirstCall line.toList front word gap rest →
      ∀ gap', (∀ c ∈ gap', Text.isBlank c = true) →
        methodName? (String.ofList (front ++ (word ++ (gap' ++ '(' :: rest)))) = methodName? line := by
  refine ⟨?_, fun name => ⟨exists_firstCall_of_methodName?, ?_⟩, fun before after first last => ?_,
    fun front word gap rest call gap' blank => ?_⟩
  · rw [uncalled_iff, ← methodName?_isSome_iff, Option.not_isSome_iff_eq_none]
  · rintro ⟨front, gap, rest, call⟩
    rw [call.methodName?_eq, String.ofList_toList]
  · rw [methodName?, String.toList_append, String.toList_append, Text.trim_append_blank last,
      Text.trim_blank_append first, methodName?]
  · have spaced : FirstCall (String.ofList (front ++ (word ++ (gap' ++ '(' :: rest)))).toList
        front word gap' rest := { call with whole := String.toList_ofList, blank := blank }
    rw [call.methodName?_eq, spaced.methodName?_eq]

/-- A space that does not break parts the word from its parenthesis, and none does. -/
theorem method_name_of_first_call_spaced :
    methodName? "(a) int getSize\u00a0(int x) f()" = some "getSize" ∧
    methodName? "\t(a) int getSize\u00a0(int x) f()\u3000" = some "getSize" ∧
    methodName? "(a) int getSize(int x) f()" = some "getSize" := by
  obtain ⟨-, -, around, between⟩ := method_name_of_first_call "(a) int getSize\u00a0(int x) f()"
  have name : methodName? "(a) int getSize\u00a0(int x) f()" = some "getSize" := by decide +kernel
  have call : FirstCall "(a) int getSize\u00a0(int x) f()".toList "(a) int ".toList "getSize".toList
      ['\u00a0'] "int x) f()".toList :=
    ⟨by decide, by decide, List.all_eq_true.mp (by decide), fun c last => Option.some.inj last ▸ by decide,
      List.forall_mem_singleton.mpr (by decide), uncalled_iff.mpr (by rw [← calledWord?_isSome_iff]; decide)⟩
  refine ⟨name, ?_, ?_⟩
  · rw [← name]
    exact around "\t" "\u3000" (List.all_eq_true.mp (by decide)) (List.all_eq_true.mp (by decide))
  · rw [← name]
    exact between _ _ _ _ call [] (List.forall_mem_nil _)

end FirstCall

end Phrase

namespace Source

variable {source : Source} {line index : Nat} {raw : String}

theorem declaration?_eq_some_iff (small : line ≤ Number.exactBound) :
    source.declaration? (Number.ofNat line) = some index ↔
      line = index + 1 ∧ index < source.lines.length := by
  cases line with
  | zero =>
    have nowhere : (Number.ofNat 0 - 1).toNat? = none := by decide
    simp [declaration?, nowhere]
  | succ n =>
    have place : (Number.ofNat (n + 1) - 1).toNat? = some n := by
      rw [Number.ofNat_succ_sub_one small, Number.toNat?_ofNat (by omega)]
    simp only [declaration?, place]
    split
    · grind
    · grind

/-- A reported line with a declaration on it is counted exactly. -/
theorem eq_succ_of_declaration? {line index : Nat} (small : source.lines.length < Number.exactBound)
    (found : source.declaration? (Number.ofNat line) = some index) : line = index + 1 := by
  have inside : line ≤ source.lines.length := by
    by_contra behind
    obtain ⟨whole, before⟩ := declaration?_some found
    have beyond := Number.beyond_ofNat small (Nat.lt_of_not_le behind)
    have above := Number.le_of_toNat?_eq_some (Nat.le_of_lt small)
      (beyond.le_pred (Nat.le_of_lt small)) whole
    omega
  exact ((declaration?_eq_some_iff (by omega)).mp found).1

end Source

namespace Plan

/-- Three lines with one indent that are a comment of their own. Joined together they open one comment, at
their beginning behind the indent, and end one, at their end; no line is broken. What the second line says
has word characters, spaces and full stops only. -/
structure SelfContained (indent first second third : String) : Prop where
  indented : ∀ line ∈ [first, second, third], indent.toList <+: line.toList
  unbroken : ∀ line ∈ [first, second, third], '\n' ∉ line.toList ∧ '\r' ∉ line.toList
  worded : ∃ summary, second = indent ++ " * " ++ summary ∧ ∀ c ∈ summary.toList, Phrase.Plain c
  opens : ∃ rest, first.toList = indent.toList ++ '/' :: '*' :: rest
  opensOnce : ∀ left right, (first ++ second ++ third).toList = left ++ '/' :: '*' :: right →
    left = indent.toList
  ends : ∃ rest, third.toList = rest ++ ['*', '/']
  endsOnce : ∀ left right, (first ++ second ++ third).toList = left ++ '*' :: '/' :: right →
    right = []

/-- A mark that stands twice in a text, the second time at its end. -/
private theorem mark_cases {mark : Char} {front middle left right : List Char}
    (free : mark ∉ front) (clear : mark ∉ middle)
    (whole : front ++ mark :: (middle ++ [mark]) = left ++ mark :: right) :
    (left = front ∧ right = middle ++ [mark]) ∨ (left = front ++ mark :: middle ∧ right = []) := by
  obtain ⟨start, rfl, behind⟩ := Text.exists_of_not_mem_front free whole
  cases start with
  | nil => exact Or.inl ⟨List.append_nil _, (List.cons.inj behind).2.symm⟩
  | cons c start =>
    obtain ⟨same, later⟩ := List.cons.inj behind
    subst same
    obtain ⟨start, rfl, last⟩ := Text.exists_of_not_mem_front clear later
    cases start with
    | nil => exact Or.inr ⟨by rw [List.append_nil], (List.cons.inj last).2.symm⟩
    | cons d start => exact absurd (List.cons.inj last).2 (by simp)

/-- A block about a method is a comment of its own. -/
theorem selfContained_block (line : String) {name : String}
    (word : ∀ c ∈ name.toList, Text.isWordChar c = true) :
    SelfContained (Line.indent line) (Line.indent line ++ "/**")
      (Line.indent line ++ " * " ++ Phrase.ofMethod name) (Line.indent line ++ " */") := by
  have sentence := Phrase.ofMethod_plain word
  have starless := Line.star_not_mem_indent line
  have slashless : '/' ∉ (Line.indent line).toList := fun mem => by
    rcases Line.indent_blank mem with h | h <;> exact absurd h (by decide)
  have unsaid : '/' ∉ (Phrase.ofMethod name).toList := fun mem =>
    absurd (sentence '/' mem) (by decide)
  -- between the slash that opens and the one that ends stands no other
  obtain ⟨middle, clear, whole⟩ : ∃ middle, '/' ∉ middle ∧
      (Line.indent line ++ "/**" ++ (Line.indent line ++ " * " ++ Phrase.ofMethod name) ++
        (Line.indent line ++ " */")).toList = (Line.indent line).toList ++ '/' :: (middle ++ ['/']) := by
    refine ⟨['*', '*'] ++ (Line.indent line).toList ++ [' ', '*', ' '] ++ (Phrase.ofMethod name).toList ++
      (Line.indent line).toList ++ [' ', '*'], ?_, ?_⟩
    · simp [slashless, unsaid]
    · simp
  have feeds := (show LineEnd '\n' from Or.inl rfl).not_mem_block line word
  have returns := (show LineEnd '\r' from Or.inr rfl).not_mem_block line word
  refine ⟨?_, fun part mem => ⟨feeds part mem, returns part mem⟩, ⟨_, rfl, sentence⟩,
    ⟨['*'], by simp⟩, fun left right same => ?_, ⟨(Line.indent line).toList ++ [' '], by simp⟩,
    fun left right same => ?_⟩
  · simp only [List.forall_mem_cons, String.toList_append, List.append_assoc]
    exact ⟨List.prefix_append _ _, List.prefix_append _ _, List.prefix_append _ _,
      fun _ none => absurd none List.not_mem_nil⟩
  · rcases mark_cases slashless clear (whole.symm.trans same) with ⟨front, -⟩ | ⟨-, none⟩
    · exact front
    · exact absurd none (by simp)
  · rw [List.append_cons] at same
    rcases mark_cases slashless clear (whole.symm.trans same) with ⟨front, -⟩ | ⟨-, none⟩
    · exact absurd (front ▸ List.mem_append_right left (List.mem_singleton_self '*')) starless
    · exact none

/-- The second and the third line of a block have one indent. -/
theorem indent_block (line summary : String) :
    Line.indent (Line.indent line ++ " */") = Line.indent (Line.indent line ++ " * " ++ summary) := by
  have blank : ∀ c ∈ (Line.indent line ++ " ").toList, c = ' ' ∨ c = '\t' := by
    intro c mem
    rw [String.toList_append, List.mem_append] at mem
    rcases mem with mem | mem
    · exact Line.indent_blank mem
    · exact Or.inl (by simpa using mem)
  have third : Line.Indents (Line.indent line ++ " */") (Line.indent line ++ " ") :=
    ⟨blank, ['*', '/'], by simp, by simp⟩
  have second : Line.Indents (Line.indent line ++ " * " ++ summary) (Line.indent line ++ " ") :=
    ⟨blank, '*' :: ' ' :: summary.toList, by simp, by simp⟩
  rw [third.indent_eq, second.indent_eq]

section Comment

variable {source : Source} {path message : String} {line : Nat}

theorem comment_of_missing (small : line ≤ Number.exactBound) (missing : ¬∃ raw, source.IsLine line raw) :
    comment source ⟨path, Number.ofNat line, message⟩ =
      .error (.anchorNotFound path (Number.ofNat line) 0) := by
  have nowhere : source.declaration? (Number.ofNat line) = none := by
    refine Option.eq_none_iff_forall_ne_some.mpr fun index found => missing ?_
    obtain ⟨place, inside⟩ := (Source.declaration?_eq_some_iff small).mp found
    exact ⟨_, index, place, List.getElem?_eq_getElem inside⟩
  rw [comment, nowhere]

theorem comment_of_isLine (small : line ≤ Number.exactBound) {raw : String}
    (there : source.IsLine line raw) :
    comment source ⟨path, Number.ofNat line, message⟩ =
      match Phrase.methodName? (Line.content raw) with
      | some name => .ok ⟨Number.ofNat (line - 1),
          block (Line.indent (Line.content raw)) (Phrase.ofMethod name)⟩
      | none => .error (.signatureNotFound path (Number.ofNat line)) := by
  obtain ⟨index, rfl, present⟩ := there
  have inside := (List.getElem?_eq_some_iff.mp present).1
  have found : source.declaration? (Number.ofNat (index + 1)) = some index :=
    (Source.declaration?_eq_some_iff small).mpr ⟨rfl, inside⟩
  cases called : Phrase.methodName? (Line.content raw) with
  | none => simp only [comment, found, present, called]
  | some name => simp only [comment, found, present, called, Nat.add_sub_cancel]

private theorem isLine_of_comment (small : line ≤ Number.exactBound) {insertion : Insertion}
    (plan : comment source ⟨path, Number.ofNat line, message⟩ = .ok insertion) :
    ∃ raw name, source.IsLine line raw ∧ Phrase.methodName? (Line.content raw) = some name ∧
      insertion = ⟨Number.ofNat (line - 1),
        block (Line.indent (Line.content raw)) (Phrase.ofMethod name)⟩ := by
  obtain ⟨index, raw, name, found, present, called, rfl⟩ := comment_ok plan
  obtain ⟨rfl, -⟩ := (Source.declaration?_eq_some_iff small).mp found
  exact ⟨raw, name, ⟨index, rfl, present⟩, called, rfl⟩

/-- A new block is planned exactly for a line that is there and has a call. It stands right before that line,
with its indent, and is a comment of its own. A line that is not there gives a missing anchor with no window,
and a line without a call a missing signature. -/
theorem block_planned_for_call (source : Source) (path message : String) (options : Options) {line : Nat}
    (small : line ≤ Number.exactBound) :
    let plan := ofRemedy .commentBlock ⟨path, Number.ofNat line, message⟩ source options
    ((∃ insertion, plan = .ok insertion) ↔
      ∃ raw, source.IsLine line raw ∧ Phrase.HasCall (Line.content raw).toList) ∧
    (∀ insertion, plan = .ok insertion → ∃ raw indent first second third, source.IsLine line raw ∧
      Line.Indents (Line.content raw) indent ∧
      insertion = ⟨Number.ofNat (line - 1), [first, second, third]⟩ ∧
      SelfContained indent first second third) ∧
    ((¬∃ raw, source.IsLine line raw) → plan = .error (.anchorNotFound path (Number.ofNat line) 0)) ∧
    ∀ raw, source.IsLine line raw → ¬Phrase.HasCall (Line.content raw).toList →
      plan = .error (.signatureNotFound path (Number.ofNat line)) := by
  intro plan
  refine ⟨⟨?_, ?_⟩, fun insertion planned => ?_, comment_of_missing small, fun raw there silent => ?_⟩
  · rintro ⟨insertion, planned⟩
    obtain ⟨raw, name, there, called, -⟩ := isLine_of_comment small planned
    exact ⟨raw, there, Phrase.methodName?_isSome_iff.mp (called ▸ rfl)⟩
  · rintro ⟨raw, there, call⟩
    obtain ⟨name, called⟩ := Option.isSome_iff_exists.mp (Phrase.methodName?_isSome_iff.mpr call)
    have planned : plan = _ := comment_of_isLine small there
    rw [called] at planned
    exact ⟨_, planned⟩
  · obtain ⟨raw, name, there, called, rfl⟩ := isLine_of_comment small planned
    exact ⟨raw, _, _, _, _, there, Line.indents_indent _, rfl,
      selfContained_block _ (Phrase.methodName?_word called)⟩
  · have planned : plan = _ := comment_of_isLine small there
    cases called : Phrase.methodName? (Line.content raw) with
    | none =>
      rw [called] at planned
      exact planned
    | some name => exact absurd (Phrase.methodName?_isSome_iff.mp (called ▸ rfl)) silent

/-- A line without a terminator whose parenthesis stands behind a space that does not break, and a line
behind the end. -/
theorem block_planned_for_call_spaced :
    let source := Source.ofText "class A \x7b\r\n\t int getSize\u00a0(int x)"
    2 ≤ Number.exactBound ∧ 3 ≤ Number.exactBound ∧ source.IsLine 2 "\t int getSize\u00a0(int x)" ∧
      (∃ insertion, ofRemedy .commentBlock ⟨"A", Number.ofNat 2, "no comment"⟩ source {} = .ok insertion) ∧
      ofRemedy .commentBlock ⟨"A", Number.ofNat 3, "no comment"⟩ source {} =
        .error (.anchorNotFound "A" (Number.ofNat 3) 0) := by
  intro source
  have two : 2 ≤ Number.exactBound := by decide
  have three : 3 ≤ Number.exactBound := by decide
  have there : source.IsLine 2 "\t int getSize\u00a0(int x)" := ⟨1, rfl, by decide +kernel⟩
  have call : Phrase.HasCall (Line.content "\t int getSize\u00a0(int x)").toList :=
    Phrase.methodName?_isSome_iff.mp (by decide +kernel)
  obtain ⟨placed, -⟩ := block_planned_for_call source "A" "no comment" {} two
  obtain ⟨-, -, missing, -⟩ := block_planned_for_call source "A" "no comment" {} three
  refine ⟨two, three, there, placed.mpr ⟨_, there, call⟩, missing ?_⟩
  rintro ⟨raw, index, place, present⟩
  have inside : index < source.lines.length := (List.getElem?_eq_some_iff.mp present).1
  have few : source.lines.length = 2 := by decide +kernel
  omega

end Comment

end Plan

end DocMend
