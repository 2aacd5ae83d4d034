import DocMend.Proofs.Json.Keyed
import DocMend.Proofs.Plan.Place
import DocMend.Proofs.Source.Woven
import DocMend.Proofs.Text.Word
/-!
What stands in planned lines. Names of methods are made of word characters and the fixed wording has
no line ends, so a line end can only come from a type parameter's name or from its own phrase. A planned tag is
inner text of a comment wherever its name and its phrase are, and the same tag is planned in a source whose lines
were moved.
-/

set_option autoImplicit false
set_option relaxedAutoImplicit false

namespace DocMend

namespace Phrase

private theorem calledWord?_word {cs word : List Char} (found : calledWord? cs = some word) :
    ∀ c ∈ word, Text.isWordChar c = true := by
  induction cs with
  | nil => simp [calledWord?] at found
  | cons d ds ih =>
    simp only [calledWord?] at found
    split at found
    · obtain rfl := Option.some.inj found
      exact fun c mem => List.all_eq_true.mp List.all_takeWhile c mem
    · exact ih found

/-- The name of a method is made of word characters. -/
theorem methodName?_word {line name : String} (found : methodName? line = some name) :
    ∀ c ∈ name.toList, Text.isWordChar c = true := by
  obtain ⟨word, called, rfl⟩ := Option.map_eq_some_iff.mp found
  rw [String.toList_ofList]
  exact calledWord?_word called

/-- Characters of a sentence about a method. -/
def Plain (c : Char) : Prop :=
  Text.isWordChar c = true ∨ c = ' ' ∨ c = '.'

instance (c : Char) : Decidable (Plain c) :=
  inferInstanceAs (Decidable (_ ∨ _))

/-- Whether a text has only characters of a sentence about a method. -/
def isPlain (text : String) : Bool :=
  text.toList.all fun c => decide (Plain c)

theorem plain_of_isPlain {text : String} (plain : isPlain text = true) : ∀ c ∈ text.toList, Plain c :=
  fun c mem => of_decide_eq_true (List.all_eq_true.mp plain c mem)

private theorem conventions_plain :
    ∀ convention ∈ conventions, isPlain convention.opening = true := by
  decide +kernel

private theorem sentence?_plain {convention : Convention} (member : convention ∈ conventions)
    {name sentence : String} (word : ∀ c ∈ name.toList, Text.isWordChar c = true)
    (made : convention.sentence? name = some sentence) : ∀ c ∈ sentence.toList, Plain c := by
  simp only [Convention.sentence?] at made
  split at made
  · rename_i subject start
    split at made
    · obtain rfl := Option.some.inj made
      have whole : name.toList = convention.lead.toList ++ subject :=
        (Text.afterStart?_eq_some _ _ _).mp start
      have subject_word : ∀ c ∈ (String.ofList subject).toList, Text.isWordChar c = true := by
        intro c mem
        rw [String.toList_ofList] at mem
        exact word c (whole ▸ List.mem_append_right _ mem)
      intro c mem
      simp only [String.toList_append, List.mem_append] at mem
      rcases mem with (opening | subject) | dot
      · exact plain_of_isPlain (conventions_plain convention member) c opening
      · exact Or.inl (Text.lowered_word subject_word c subject)
      · exact Or.inr (Or.inr (by simpa using dot))
    · exact absurd made (by simp)
  · exact absurd made (by simp)

/-- A sentence about a method has word characters, spaces and full stops only. -/
theorem ofMethod_plain {name : String} (word : ∀ c ∈ name.toList, Text.isWordChar c = true) :
    ∀ c ∈ (ofMethod name).toList, Plain c := by
  simp only [ofMethod]
  split
  · rename_i sentence found
    obtain ⟨convention, member, made⟩ := List.exists_of_findSome?_eq_some found
    exact sentence?_plain member word made
  · intro c mem
    simp only [String.toList_append, List.mem_append] at mem
    rcases mem with (lead | inner) | tail
    · exact plain_of_isPlain (by decide +kernel) c lead
    · exact Or.inl (word c inner)
    · exact plain_of_isPlain (by decide +kernel) c tail

/-- The phrase for a returned value is one of a fixed list. -/
theorem ofReturn_mem (declaration : String) :
    ofReturn declaration ∈ anyReturn :: returnHints.map Prod.snd := by
  simp only [ofReturn]
  split
  · rename_i hint found
    exact List.mem_cons_of_mem _ (List.mem_map_of_mem (List.mem_of_find?_eq_some found))
  · exact List.mem_cons_self

private theorem ofParameter_fixed {own : Phrases} {name : String} (none : own.lookup name = none) :
    ofParameter name own ∈ anyParameter :: customary.map Prod.snd := by
  simp only [ofParameter, none]
  cases found : customary.lookup name with
  | none => exact List.mem_cons_self
  | some phrase =>
    exact List.mem_cons_of_mem _ (List.mem_map_of_mem (mem_of_lookup found))

/-- What no fixed phrase has, the phrase of a type parameter has where the project's own phrase for it
does. -/
theorem ofParameter_iff {P : String → Prop}
    (fixed : ∀ phrase ∈ anyParameter :: customary.map Prod.snd, ¬P phrase) (name : String)
    (own : Phrases) :
    P (ofParameter name own) ↔ ∃ phrase, own.lookup name = some phrase ∧ P phrase := by
  cases found : own.lookup name with
  | none => simp [fixed _ (ofParameter_fixed found)]
  | some phrase => simp [ofParameter, found]

end Phrase

namespace Plan

/-- A line feed or a carriage return. -/
def LineEnd (c : Char) : Prop :=
  c = '\n' ∨ c = '\r'

private theorem LineEnd.not_plain {c : Char} (lineEnd : LineEnd c) : ¬Phrase.Plain c := by
  rcases lineEnd with rfl | rfl <;> decide

private theorem LineEnd.not_mem_indent {c : Char} (lineEnd : LineEnd c) (line : String) :
    c ∉ (Line.indent line).toList := by
  intro mem
  rcases lineEnd with rfl | rfl <;> rcases Line.indent_blank mem with h | h <;>
    exact absurd h (by decide)

private theorem LineEnd.fixed {c : Char} (lineEnd : LineEnd c) :
    (∀ phrase ∈ Phrase.anyReturn :: Phrase.returnHints.map Prod.snd, c ∉ phrase.toList) ∧
      (∀ phrase ∈ Phrase.anyParameter :: Phrase.customary.map Prod.snd, c ∉ phrase.toList) ∧
      c ∉ "* ".toList ∧ c ∉ "@param <".toList ∧ c ∉ "> ".toList ∧ c ∉ "@return ".toList ∧
      c ∉ "/**".toList ∧ c ∉ " * ".toList ∧ c ∉ " */".toList := by
  rcases lineEnd with rfl | rfl <;> decide +kernel

/-- No fixed phrase of a type parameter has a line end. -/
theorem LineEnd.not_mem_customary {c : Char} (lineEnd : LineEnd c) :
    ∀ phrase ∈ Phrase.anyParameter :: Phrase.customary.map Prod.snd, c ∉ phrase.toList :=
  lineEnd.fixed.2.1

/-- The phrase of a type parameter has no line end where the project's own phrases have none. -/
theorem LineEnd.not_mem_ofParameter {c : Char} (lineEnd : LineEnd c) {own : Phrases}
    (unbroken : ∀ entry ∈ own, c ∉ entry.2.toList) (name : String) :
    c ∉ (Phrase.ofParameter name own).toList := by
  intro mem
  obtain ⟨phrase, found, inPhrase⟩ :=
    (Phrase.ofParameter_iff lineEnd.not_mem_customary name own).mp mem
  exact unbroken (name, phrase) (mem_of_lookup found) inPhrase

private theorem LineEnd.not_mem_tagLine {c : Char} (lineEnd : LineEnd c) {raw text : String}
    (unbroken : c ∉ text.toList) : c ∉ (tagLine raw text).toList := by
  have star := lineEnd.fixed.2.2.1
  have blank := lineEnd.not_mem_indent raw
  simp only [tagLine, String.toList_append, List.mem_append, not_or]
  exact ⟨⟨blank, star⟩, unbroken⟩

/-- A block about a method has no line end. -/
theorem LineEnd.not_mem_block {c : Char} (lineEnd : LineEnd c) (raw : String)
    {name : String} (word : ∀ d ∈ name.toList, Text.isWordChar d = true) :
    ∀ line ∈ block (Line.indent raw) (Phrase.ofMethod name), c ∉ line.toList := by
  obtain ⟨-, -, -, -, -, -, first, second, third⟩ := lineEnd.fixed
  have blank := lineEnd.not_mem_indent raw
  have sentence : c ∉ (Phrase.ofMethod name).toList := fun mem =>
    lineEnd.not_plain (Phrase.ofMethod_plain word c mem)
  intro line mem
  simp only [block, List.mem_cons, List.not_mem_nil, or_false] at mem
  rcases mem with rfl | rfl | rfl <;>
    simp only [String.toList_append, List.mem_append, not_or]
  · exact ⟨blank, first⟩
  · exact ⟨⟨blank, second⟩, sentence⟩
  · exact ⟨blank, third⟩

/-- Planned lines have a line end only where the name or the phrase of a type parameter has it. -/
theorem ofRemedy_unbroken {c : Char} (lineEnd : LineEnd c) {remedy : Remedy} {issue : Issue}
    {source : Source} {options : Options} {insertion : Insertion}
    (plan : ofRemedy remedy issue source options = .ok insertion)
    (unbroken : ∀ name, remedy = .parameterTag name →
      c ∉ name.toList ∧ c ∉ (Phrase.ofParameter name options.phrases).toList) :
    ∀ line ∈ insertion.lines, c ∉ line.toList := by
  obtain ⟨returns, -, -, param, close, result, -, -, -⟩ := lineEnd.fixed
  cases remedy with
  | parameterTag name =>
    obtain ⟨index, raw, -, -, rfl⟩ := tag_ok plan
    obtain ⟨plain_name, plain_phrase⟩ := unbroken name rfl
    intro line mem
    obtain rfl := List.mem_singleton.mp mem
    apply lineEnd.not_mem_tagLine
    simp only [parameterTag, String.toList_append, List.mem_append, not_or]
    exact ⟨⟨⟨param, plain_name⟩, close⟩, plain_phrase⟩
  | returnTag =>
    obtain ⟨declaration, -, tagged⟩ := returned_ok plan
    obtain ⟨index, raw, -, -, rfl⟩ := tag_ok tagged
    intro line mem
    obtain rfl := List.mem_singleton.mp mem
    apply lineEnd.not_mem_tagLine
    simp only [returnTag, String.toList_append, List.mem_append, not_or]
    exact ⟨result, returns _ (Phrase.ofReturn_mem declaration)⟩
  | commentBlock =>
    obtain ⟨index, raw, name, -, -, called, rfl⟩ := comment_ok plan
    exact lineEnd.not_mem_block _ (Phrase.methodName?_word called)

/-- No planned line ends in a carriage return where no phrase has one: in the tag of a type parameter
something stands behind the name. -/
theorem ofRemedy_apart {remedy : Remedy} {issue : Issue} {source : Source} {options : Options}
    {insertion : Insertion} (plan : ofRemedy remedy issue source options = .ok insertion)
    (returnless : ∀ entry ∈ options.phrases, '\r' ∉ entry.2.toList) :
    ∀ line ∈ insertion.lines, line.toList.getLast? ≠ some '\r' := by
  intro line mem last
  by_cases named : ∃ name, remedy = .parameterTag name
  · obtain ⟨name, rfl⟩ := named
    obtain ⟨index, raw, -, -, rfl⟩ := tag_ok plan
    obtain rfl := List.mem_singleton.mp mem
    have phrase := LineEnd.not_mem_ofParameter (Or.inr rfl) returnless name
    have blank : "> ".toList.getLast? = some ' ' := by decide
    simp only [tagLine, parameterTag, String.toList_append, List.getLast?_append, blank] at last
    cases ends : (Phrase.ofParameter name options.phrases).toList.getLast? with
    | none => simp [ends] at last
    | some c =>
      obtain rfl : c = '\r' := by simpa [ends] using last
      exact phrase (List.mem_of_getLast? ends)
  · refine ofRemedy_unbroken (Or.inr rfl) plan (fun name same => ?_) line mem
      (List.mem_of_getLast? last)
    exact absurd ⟨name, same⟩ named

end Plan

namespace Line

theorem unclosed_indent (line : String) : ¬Closes (indent line).toList := by
  rintro ⟨before, after, whole⟩
  refine star_not_mem_indent line ?_
  rw [← whole]
  simp

end Line

namespace Plan

/-- A tag on a line of its own ends a comment only where the tag does. -/
theorem closes_tagLine (raw text : String) :
    Line.Closes (tagLine raw text).toList ↔ Line.Closes text.toList := by
  have star : ("* ".toList).head? ≠ some '/' := by decide
  have none : ¬Line.Closes "* ".toList := by decide +kernel
  simp only [tagLine, String.toList_append]
  rw [Line.closes_append_of_last (by simp), Line.closes_append_of_head _ star]
  simp only [Line.unclosed_indent, none, false_or]

/-- The tag of a type parameter ends a comment only where its name or its phrase does. -/
theorem closes_parameterTag (name : String) (phrases : Phrases) :
    Line.Closes (parameterTag name phrases).toList ↔
      Line.Closes name.toList ∨ Line.Closes (Phrase.ofParameter name phrases).toList := by
  have opened : ("@param <".toList).getLast? ≠ some '*' := by decide
  have closed : ("> ".toList).head? ≠ some '/' := by decide
  have start : ¬Line.Closes "@param <".toList := by decide +kernel
  have stop : ¬Line.Closes "> ".toList := by decide +kernel
  have blank : ("@param <".toList ++ name.toList ++ "> ".toList).getLast? ≠ some '*' := by
    have last : ("> ".toList).getLast? = some ' ' := by decide
    rw [List.getLast?_append, last]
    simp
  simp only [parameterTag, String.toList_append]
  rw [Line.closes_append_of_last blank, Line.closes_append_of_head _ closed,
    Line.closes_append_of_last opened]
  simp only [start, stop, false_or, or_false]

private theorem unclosed_returns : ∀ phrase ∈ Phrase.anyReturn :: Phrase.returnHints.map Prod.snd,
    ¬Line.Closes phrase.toList := by
  decide +kernel

/-- The tag of a returned value never ends a comment. -/
theorem unclosed_returnTag (declaration : String) :
    ¬Line.Closes (returnTag declaration).toList := by
  have blank : ("@return ".toList).getLast? ≠ some '*' := by decide
  have start : ¬Line.Closes "@return ".toList := by decide +kernel
  simp only [returnTag, String.toList_append]
  rw [Line.closes_append_of_last blank]
  rintro (first | second)
  · exact start first
  · exact unclosed_returns _ (Phrase.ofReturn_mem declaration) second

/-- The name of a type parameter and its phrase are inner text. -/
def Worded (remedy : Remedy) (phrases : Phrases) : Prop :=
  ∀ name, remedy = .parameterTag name →
    Line.Inner name ∧ Line.Inner (Phrase.ofParameter name phrases)

/-- Planned tags are inner text where their names and phrases are. -/
theorem ofRemedy_inner {remedy : Remedy} (tagged : remedy ≠ .commentBlock) {issue : Issue}
    {source : Source} {options : Options} {insertion : Insertion}
    (plan : ofRemedy remedy issue source options = .ok insertion)
    (worded : Worded remedy options.phrases) :
    ∀ line ∈ insertion.lines, Line.Inner line := by
  intro line mem
  refine ⟨?_, ?_, ?_⟩
  · exact ofRemedy_unbroken (Or.inl rfl) plan (fun name same =>
      ⟨(worded name same).1.feedless, (worded name same).2.feedless⟩) line mem
  · exact ofRemedy_unbroken (Or.inr rfl) plan (fun name same =>
      ⟨(worded name same).1.returnless, (worded name same).2.returnless⟩) line mem
  · cases remedy with
    | parameterTag name =>
      obtain ⟨index, raw, -, -, rfl⟩ := tag_ok plan
      obtain ⟨inner_name, inner_phrase⟩ := worded name rfl
      obtain rfl := List.mem_singleton.mp mem
      rw [closes_tagLine, closes_parameterTag]
      exact not_or.mpr ⟨inner_name.unclosed, inner_phrase.unclosed⟩
    | returnTag =>
      obtain ⟨declaration, -, placed⟩ := returned_ok plan
      obtain ⟨index, raw, -, -, rfl⟩ := tag_ok placed
      obtain rfl := List.mem_singleton.mp mem
      rw [closes_tagLine]
      exact unclosed_returnTag declaration
    | commentBlock => exact absurd rfl tagged

/-- What is planned for a line now is what was planned for it before, at a moved index: the same lines,
or a failure where there was a failure. -/
def Moved (move : Nat → Nat) (source : Source) :
    Except Failure Insertion → Except Failure Insertion → Prop
  | .ok before, now => ∃ index < source.lines.length, source.endsBlock index = true ∧
      before.index = Number.ofNat index ∧ now = .ok ⟨Number.ofNat (move index), before.lines⟩
  | .error _, now => ∃ failure, now = .error failure

/-- Where there is no plan now, there was none before. -/
theorem Moved.error {move : Nat → Nat} {source : Source} {before : Except Failure Insertion}
    {failure : Failure} (moved : Moved move source before (.error failure)) :
    ∃ earlier, before = .error earlier := by
  cases before with
  | ok plan =>
    obtain ⟨index, -, -, -, impossible⟩ := moved
    exact absurd impossible (by simp)
  | error earlier => exact ⟨earlier, rfl⟩

/-- Where there is a plan now, there was one before, with the same lines. -/
theorem Moved.ok {move : Nat → Nat} {source : Source} {before : Except Failure Insertion}
    {now : Insertion} (moved : Moved move source before (.ok now)) :
    ∃ plan index, before = .ok plan ∧ index < source.lines.length ∧
      source.endsBlock index = true ∧ plan.index = Number.ofNat index ∧
      now = ⟨Number.ofNat (move index), plan.lines⟩ := by
  cases before with
  | ok plan =>
    obtain ⟨index, inside, ends, at_index, same⟩ := moved
    exact ⟨plan, index, rfl, inside, ends, at_index, Except.ok.inj same⟩
  | error earlier =>
    obtain ⟨failure, impossible⟩ := moved
    exact absurd impossible (by simp)

section Moved

variable {source after : Source} {move : Nat → Nat} {issue : Issue} {now : Number}
  (raws : ∀ i < source.lines.length, after.lines[move i]? = source.lines[i]?)

include raws

private theorem tag_moved {window : Number} (text : String)
    (anchors : after.anchor? now window = (source.anchor? issue.line window).map move) :
    Moved move source (tag source issue window text)
      (tag after { issue with line := now } window text) := by
  simp only [tag, anchors]
  cases found : source.anchor? issue.line window with
  | none => exact ⟨_, rfl⟩
  | some index =>
    obtain ⟨inside, ends⟩ := Source.anchor?_some found
    simp only [Option.map_some, raws index inside, List.getElem?_eq_getElem inside]
    exact ⟨index, inside, ends, rfl, rfl⟩

/-- Planning a tag depends on the anchor, on its line and on the declaration only. -/
theorem ofRemedy_moved {remedy : Remedy} (tagged : remedy ≠ .commentBlock) {options : Options}
    (anchors : ∀ window, window = options.windows.parameter ∨ window = options.windows.result →
      after.anchor? now window = (source.anchor? issue.line window).map move)
    (declaration : after.contentAt? (now - 1) = source.contentAt? (issue.line - 1)) :
    Moved move source (ofRemedy remedy issue source options)
      (ofRemedy remedy { issue with line := now } after options) := by
  cases remedy with
  | parameterTag name => exact tag_moved raws _ (anchors _ (Or.inl rfl))
  | returnTag =>
    simp only [ofRemedy, returned, declaration]
    cases source.contentAt? (issue.line - 1) with
    | none => exact ⟨_, rfl⟩
    | some content => exact tag_moved raws _ (anchors _ (Or.inr rfl))
  | commentBlock => exact absurd rfl tagged

end Moved

end Plan

end DocMend
