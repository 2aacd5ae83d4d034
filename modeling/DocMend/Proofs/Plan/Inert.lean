import DocMend.Proofs.Diagnostic.Message
import DocMend.Proofs.Plan.Wording
import DocMend.Proofs.Settings.Merge
/-!
When planned text is inert: no line feed that would make one planned line two, and no mark that would
end the comment around it. Names come from the linter and phrases from the settings, and neither is
looked at before it is put into a line; these are the only ways in which a plan is not inert.
-/

set_option autoImplicit false
set_option relaxedAutoImplicit false

namespace DocMend

namespace Settings

/-- A phrase found after phrases were laid over others is one of them. -/
theorem mem_of_lookup_overlay {base later : Phrases} {name phrase : String}
    (found : (overlay base later).lookup name = some phrase) :
    (name, phrase) ∈ later ∨ base.lookup name = some phrase := by
  rw [lookup_overlay, Option.or_eq_some_iff] at found
  rcases found with inLater | ⟨-, before⟩
  · exact Or.inl (List.mem_reverse.mp (mem_of_lookup inLater))
  · exact Or.inr before

/-- Over the defaults, the project's own phrases are the texts that its document gives, as they stand
there; none of them is blank. -/
theorem lookup_merge_standard {document : Json} {environment : List (String × String)}
    {name phrase : String}
    (found : (merge document (standard environment)).phrases.lookup name = some phrase) :
    ∃ members, document.get? "typeParameterDescriptions" = some (.object members) ∧
      (name, Json.string phrase) ∈ members ∧ Text.isBlankText phrase = false := by
  cases document with
  | object fields =>
    rcases mem_of_lookup_overlay found with given | none
    · obtain ⟨⟨key, value⟩, member, usable⟩ := List.mem_filterMap.mp given
      obtain ⟨text, taken, pair⟩ := Option.map_eq_some_iff.mp usable
      obtain ⟨rfl, rfl⟩ := Prod.mk.inj pair
      obtain ⟨string, filled⟩ := (usableText?_eq_some_iff _).mp taken
      obtain rfl := Option.some.inj string
      cases descriptions : Json.get? "typeParameterDescriptions" (.object fields) with
      | none => simp [descriptions] at member
      | some value =>
        cases value <;> simp_all [Json.members?]
    · exact absurd none (by simp [standard])
  | _ => exact absurd found (by simp [merge, standard])

end Settings

namespace Plan

variable {remedy : Remedy} {issue : Issue} {source : Source} {options : Options}
  {insertion : Insertion}

/-- A text that a tag takes over as it is has a property: the name of a type parameter, or the project's
own phrase for it. -/
def TakenOver (remedy : Remedy) (phrases : Phrases) (P : String → Prop) : Prop :=
  ∃ name, remedy = .parameterTag name ∧
    (P name ∨ ∃ phrase, phrases.lookup name = some phrase ∧ P phrase)

private theorem unclosed_customary :
    ∀ phrase ∈ Phrase.anyParameter :: Phrase.customary.map Prod.snd, ¬Line.Closes phrase.toList := by
  decide +kernel

/-- A planned line has a line feed exactly where a text that it takes over has one. -/
theorem ofRemedy_feed_iff (plan : ofRemedy remedy issue source options = .ok insertion) :
    (∃ line ∈ insertion.lines, '\n' ∈ line.toList) ↔
      TakenOver remedy options.phrases fun text => '\n' ∈ text.toList := by
  have fixed := (show LineEnd '\n' from Or.inl rfl).not_mem_customary
  have own := fun name => Phrase.ofParameter_iff fixed name options.phrases
  constructor
  · rintro ⟨line, mem, feed⟩
    refine Classical.byContradiction fun none => ?_
    refine ofRemedy_unbroken (Or.inl rfl) plan (fun name parameter => ?_) line mem feed
    refine ⟨fun inName => none ⟨name, parameter, Or.inl inName⟩, fun inPhrase => ?_⟩
    exact none ⟨name, parameter, Or.inr ((own name).mp inPhrase)⟩
  · rintro ⟨name, rfl, feed⟩
    obtain ⟨index, raw, -, -, rfl⟩ := tag_ok plan
    rw [← own name] at feed
    refine ⟨_, List.mem_cons_self, ?_⟩
    simp only [tagLine, parameterTag, String.toList_append, List.mem_append]
    rcases feed with inName | inPhrase
    · exact Or.inr (Or.inl (Or.inl (Or.inr inName)))
    · exact Or.inr (Or.inr inPhrase)

/-- A planned tag ends the comment around it exactly where a text that it takes over does. -/
theorem ofRemedy_closes_iff (tagged : remedy ≠ .commentBlock)
    (plan : ofRemedy remedy issue source options = .ok insertion) :
    (∃ line ∈ insertion.lines, Line.Closes line.toList) ↔
      TakenOver remedy options.phrases fun text => Line.Closes text.toList := by
  cases remedy with
  | parameterTag name =>
    obtain ⟨index, raw, -, -, rfl⟩ := tag_ok plan
    have own := Phrase.ofParameter_iff unclosed_customary name options.phrases
    simp only [List.mem_singleton, exists_eq_left, closes_tagLine, closes_parameterTag, own,
      TakenOver, Remedy.parameterTag.injEq, exists_eq_left']
  | returnTag =>
    obtain ⟨declaration, -, placed⟩ := returned_ok plan
    obtain ⟨index, raw, -, -, rfl⟩ := tag_ok placed
    simp [TakenOver, closes_tagLine, unclosed_returnTag]
  | commentBlock => exact absurd rfl tagged

private theorem nothing_behind {start before after : List Char} {x y : Char} (fresh : x ∉ start)
    (whole : start ++ [x, y] = before ++ x :: y :: after) : after = [] := by
  induction start generalizing before with
  | nil =>
    have size := congrArg List.length whole
    simp only [List.nil_append, List.length_cons, List.length_append, List.length_nil] at size
    exact List.length_eq_zero_iff.mp (by omega)
  | cons c start ih =>
    cases before with
    | nil => exact absurd (List.cons_eq_cons.mp whole).1 fun same => fresh (same ▸ List.mem_cons_self)
    | cons d before =>
      exact ih (fun mem => fresh (List.mem_cons_of_mem _ mem)) (List.cons_eq_cons.mp whole).2

private theorem unclosed_plain {cs : List Char} (plain : ∀ c ∈ cs, Phrase.Plain c) :
    ¬Line.Closes cs := by
  rintro ⟨before, after, rfl⟩
  exact absurd (plain '*' (by simp)) (by decide)

/-- A block of three lines ends no comment before its third line, and that line ends one with its last
two characters only. -/
structure ClosesAtEnd (first second third : String) : Prop where
  first : ¬Line.Closes first.toList
  second : ¬Line.Closes second.toList
  ends : ∃ before, third.toList = before ++ ['*', '/']
  once : ∀ before after, third.toList = before ++ '*' :: '/' :: after → after = []

/-- A planned block ends no comment but its own. -/
theorem comment_closes (plan : comment source issue = .ok insertion) :
    ∃ first second third, insertion.lines = [first, second, third] ∧
      ClosesAtEnd first second third := by
  obtain ⟨index, raw, name, -, -, called, rfl⟩ := comment_ok plan
  have star := Line.star_not_mem_indent (Line.content raw)
  have last : (Line.indent (Line.content raw)).toList.getLast? ≠ some '*' := fun same =>
    star (List.mem_of_getLast? same)
  have sentence : ¬Line.Closes (Phrase.ofMethod name).toList :=
    unclosed_plain (Phrase.ofMethod_plain (Phrase.methodName?_word called))
  have start : ¬Line.Closes "/**".toList := by decide +kernel
  have between : ¬Line.Closes " * ".toList := by decide +kernel
  have third : (Line.indent (Line.content raw) ++ " */").toList =
      ((Line.indent (Line.content raw)).toList ++ [' ']) ++ ['*', '/'] := by
    simp
  refine ⟨_, _, _, rfl, ?_, ?_, ⟨_, third⟩, fun before after whole => ?_⟩
  · rw [String.toList_append, Line.closes_append_of_last last]
    exact not_or.mpr ⟨Line.unclosed_indent _, start⟩
  · rw [String.toList_append, String.toList_append,
      Line.closes_append_of_last (by simp [List.getLast?_append]),
      Line.closes_append_of_last last]
    exact not_or.mpr ⟨not_or.mpr ⟨Line.unclosed_indent _, between⟩, sentence⟩
  · exact nothing_behind (by simp [star]) (third.symm.trans whole)

/-- What is planned for a reported issue under the settings of any document is inert but for the texts
that tags take over as they are. A line feed comes from a phrase of the document only, and the end of a
comment in a tag from the name or from such a phrase only; a block ends no comment but its own. A file
grows by the planned lines and by one more for each line feed in them. -/
theorem planned_lines_inert_iff {dedupe : Bool} {output : String}
    (reported : issue ∈ Diagnostic.collect dedupe output)
    (called : Remedy.forMessage? issue.message = some remedy) {document : Json}
    {environment : List (String × String)} {settings : Settings}
    (merged : settings = Settings.merge document (Settings.standard environment)) {line : Number}
    (plan : ofRemedy remedy { issue with line } source ⟨settings.windows, settings.phrases⟩ =
      .ok insertion) :
    ((∃ planned ∈ insertion.lines, '\n' ∈ planned.toList) ↔
      ∃ name phrase, remedy = .parameterTag name ∧ settings.phrases.lookup name = some phrase ∧
        '\n' ∈ phrase.toList) ∧
    (remedy ≠ .commentBlock → ((∃ planned ∈ insertion.lines, Line.Closes planned.toList) ↔
      TakenOver remedy settings.phrases fun text => Line.Closes text.toList)) ∧
    (remedy = .commentBlock → ∃ first second third, insertion.lines = [first, second, third] ∧
      ClosesAtEnd first second third) ∧
    (∀ name phrase, settings.phrases.lookup name = some phrase →
      ∃ members, document.get? "typeParameterDescriptions" = some (.object members) ∧
        (name, Json.string phrase) ∈ members ∧ Text.isBlankText phrase = false) ∧
    ∃ index < source.lines.length, insertion.index = Number.ofNat index ∧
      (source.lines.length ≤ Number.exactBound →
        source.insert insertion = .ok (source.splice index insertion.lines)) ∧
      (source.Cut →
        (Source.ofText (source.splice index insertion.lines).text).lines.length =
          source.lines.length + insertion.lines.length +
            (insertion.lines.map fun planned => planned.toList.count '\n').sum) := by
  subst merged
  obtain ⟨-, feedless⟩ := Diagnostic.collect_wellFormed reported
  refine ⟨?_, fun tagged => ofRemedy_closes_iff tagged plan, ?_, fun name phrase found =>
    Settings.lookup_merge_standard found, ?_⟩
  · rw [ofRemedy_feed_iff plan]
    constructor
    · rintro ⟨name, rfl, inName | ⟨phrase, found, inPhrase⟩⟩
      · exact absurd (Remedy.mem_of_mem_name called inName) feedless
      · exact ⟨name, phrase, rfl, found, inPhrase⟩
    · rintro ⟨name, phrase, parameter, found, inPhrase⟩
      exact ⟨name, parameter, Or.inr ⟨phrase, found, inPhrase⟩⟩
  · rintro rfl
    exact comment_closes plan
  · obtain ⟨index, inside, place⟩ := ofRemedy_inside plan
    refine ⟨index, inside, place, fun small => ?_, fun cut =>
      Source.size_ofText_splice cut inside insertion.lines⟩
    have inserted := Source.insert_ofNat inside small insertion.lines
    rwa [← place] at inserted

/-- The settings document that describes `T` in two lines. -/
def twoLines : Json :=
  .object [("typeParameterDescriptions", .object [("T", .string "first\nsecond")])]

/-- A phrase of two lines makes one planned line two lines of the file. -/
theorem planned_lines_inert_iff_two_lines :
    let issue : Issue := ⟨"A.java", Number.ofNat 3, "warning: no @param for <T>"⟩
    let settings := Settings.merge twoLines (Settings.standard [])
    let source := Source.ofText "/**\n */\nclass A<T> {}\n"
    let insertion : Insertion := ⟨Number.ofNat 1, [" * @param <T> first\nsecond"]⟩
    issue ∈ Diagnostic.collect true "A.java:3: warning: no @param for <T>\n" ∧
      Remedy.forMessage? issue.message = some (.parameterTag "T") ∧
      ofRemedy (.parameterTag "T") { issue with line := Number.ofNat 3 } source
        ⟨settings.windows, settings.phrases⟩ = .ok insertion ∧
      (∃ planned ∈ insertion.lines, '\n' ∈ planned.toList) ∧
      (∀ planned ∈ insertion.lines, ¬Line.Closes planned.toList) ∧
      ∃ index, insertion.index = Number.ofNat index ∧
        (Source.ofText (source.splice index insertion.lines).text).lines.length =
          source.lines.length + 2 := by
  intro issue settings source insertion
  have reported : issue ∈ Diagnostic.collect true "A.java:3: warning: no @param for <T>\n" := by
    decide +kernel
  have called : Remedy.forMessage? issue.message = some (.parameterTag "T") := by decide +kernel
  have plan : ofRemedy (.parameterTag "T") { issue with line := Number.ofNat 3 } source
      ⟨settings.windows, settings.phrases⟩ = .ok insertion := by rfl
  have phrase : settings.phrases.lookup "T" = some "first\nsecond" := by decide +kernel
  obtain ⟨feed, closes, -, -, index, -, place, -, grows⟩ :=
    planned_lines_inert_iff reported called rfl plan
  refine ⟨reported, called, plan, feed.mpr ⟨"T", _, rfl, phrase, by decide⟩, ?_, index, place, ?_⟩
  · intro planned mem closed
    obtain ⟨name, same, inner⟩ := (closes (by simp)).mp ⟨planned, mem, closed⟩
    obtain rfl := Remedy.parameterTag.inj same
    rcases inner with inName | ⟨other, found, inPhrase⟩
    · exact absurd inName (by decide +kernel)
    · obtain rfl := Option.some.inj (phrase.symm.trans found)
      exact absurd inPhrase (by decide +kernel)
  · exact grows (Source.cut_ofText _)

/-- Not every planned text is inert: a phrase of two lines is put into one line, and a name can end the
comment around its tag. -/
theorem planned_lines_not_inert :
    let settings := Settings.merge twoLines (Settings.standard [])
    let source := Source.ofText "/**\n */\nclass A<T> {}\n"
    let named : Issue := ⟨"A.java", Number.ofNat 3, "warning: no @param for <T>"⟩
    let closing : Issue := ⟨"A.java", Number.ofNat 3, "warning: no @param for <T*/>"⟩
    (named ∈ Diagnostic.collect true "A.java:3: warning: no @param for <T>\n" ∧
      ∃ remedy insertion planned, Remedy.forMessage? named.message = some remedy ∧
        ofRemedy remedy named source ⟨settings.windows, settings.phrases⟩ = .ok insertion ∧
        planned ∈ insertion.lines ∧ '\n' ∈ planned.toList) ∧
    closing ∈ Diagnostic.collect true "A.java:3: warning: no @param for <T*/>\n" ∧
      ∃ remedy insertion planned, Remedy.forMessage? closing.message = some remedy ∧
        remedy ≠ .commentBlock ∧
        ofRemedy remedy closing source ⟨settings.windows, settings.phrases⟩ = .ok insertion ∧
        planned ∈ insertion.lines ∧ Line.Closes planned.toList := by
  intro settings source named closing
  have plan_named : ofRemedy (.parameterTag "T") named source ⟨settings.windows, settings.phrases⟩ =
      .ok ⟨Number.ofNat 1, [" * @param <T> first\nsecond"]⟩ := by rfl
  have plan_closing : ofRemedy (.parameterTag "T*/") closing source
      ⟨settings.windows, settings.phrases⟩ =
        .ok ⟨Number.ofNat 1, [" * @param <T*/> the type parameter"]⟩ := by rfl
  constructor
  · refine ⟨by decide +kernel, _, _, _, ?_, plan_named, List.mem_cons_self, by decide⟩
    decide +kernel
  · refine ⟨by decide +kernel, _, _, _, ?_, by decide, plan_closing, List.mem_cons_self, ?_⟩
    · decide +kernel
    · decide +kernel

end Plan

end DocMend
