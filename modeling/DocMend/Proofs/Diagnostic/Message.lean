import DocMend.Proofs.Diagnostic.Grammar
import DocMend.Remedy
/-!
What becomes of the text of the linter in an issue. Its message is part of one line of that text and the name of
a type parameter is part of the message, so neither has a line feed.

The remedy of a message, told by rules: the bracket text of the first report of a type parameter, if it is not
blank, else the words that the message has.
-/

set_option autoImplicit false
set_option relaxedAutoImplicit false

namespace DocMend

namespace Remedy

open Diagnostic (ParameterAt FirstParameter)

variable {message : String} {remedy : Option Remedy} {rule : Option String}

/-- No type parameter with a name that is not blank is reported first. -/
def Unnamed (message : String) : Prop :=
  ∀ before name, FirstParameter message.toList before name → Text.trim name = []

/-- The rules for messages in their order, each with the remedy that it calls for and its own name. -/
inductive Ruled (message : String) : Option Remedy → Option String → Prop
  | parameter {before name : List Char} (first : FirstParameter message.toList before name)
      (named : Text.trim name ≠ []) :
      Ruled message (some (.parameterTag (String.ofList (Text.trim name)))) (some "generic-param")
  | result (unnamed : Unnamed message) (returns : "no @return".toList <:+: message.toList) :
      Ruled message (some .returnTag) (some "missing-return")
  | comment (unnamed : Unnamed message) (other : ¬"no @return".toList <:+: message.toList)
      (bare : "no comment".toList <:+: message.toList)
      (inner : ¬"package".toList <:+: message.toList) :
      Ruled message (some .commentBlock) (some "missing-comment")
  | unknown (unnamed : Unnamed message) (other : ¬"no @return".toList <:+: message.toList)
      (outer : "no comment".toList <:+: message.toList → "package".toList <:+: message.toList) :
      Ruled message none none

private theorem ofShape?_genericParam {found : Remedy} :
    ofShape? message .genericParam = some found ↔ ∃ before name,
      FirstParameter message.toList before name ∧ Text.trim name ≠ [] ∧
        found = .parameterTag (String.ofList (Text.trim name)) := by
  simp only [ofShape?]
  constructor
  · intro fit
    split at fit
    · rename_i name taken
      obtain ⟨before, first⟩ := Diagnostic.parameterText?_eq_some_iff.mp taken
      split at fit
      · exact absurd fit (by simp)
      · rename_i named
        exact ⟨before, name, first, by simpa using named, (Option.some.inj fit).symm⟩
    · exact absurd fit (by simp)
  · rintro ⟨before, name, first, named, rfl⟩
    have taken := Diagnostic.parameterText?_eq_some_iff.mpr ⟨before, first⟩
    simp only [taken, if_neg (show ¬(Text.trim name).isEmpty = true by simpa using named)]

private theorem ofShape?_genericParam_eq_none (unnamed : Unnamed message) :
    ofShape? message .genericParam = none := by
  refine Option.eq_none_iff_forall_ne_some.mpr fun found fit => ?_
  obtain ⟨before, name, first, named, -⟩ := ofShape?_genericParam.mp fit
  exact named (unnamed before name first)

/-- A rule that a message keeps to decides its remedy. -/
theorem Ruled.decides (ruled : Ruled message remedy rule) :
    forMessage? message = remedy ∧ (shapeOf? message).map Shape.name = rule := by
  have shown : forMessage? message = remedy := by
    cases ruled with
    | parameter first named =>
      have fit := ofShape?_genericParam.mpr ⟨_, _, first, named, rfl⟩
      simp only [forMessage?, Shape.order, List.findSome?_cons, fit]
    | result unnamed returns =>
      have none := ofShape?_genericParam_eq_none unnamed
      have fit : ofShape? message .missingReturn = some returnTag :=
        if_pos ((Text.occurs_iff _ _).mpr returns)
      simp only [forMessage?, Shape.order, List.findSome?_cons, none, fit]
    | comment unnamed other bare inner =>
      have none := ofShape?_genericParam_eq_none unnamed
      have unfit : ofShape? message .missingReturn = Option.none :=
        if_neg fun has => other ((Text.occurs_iff _ _).mp has)
      have fit : ofShape? message .missingComment = some commentBlock :=
        if_pos ⟨(Text.occurs_iff _ _).mpr bare, fun has => inner ((Text.occurs_iff _ _).mp has)⟩
      simp only [forMessage?, Shape.order, List.findSome?_cons, none, unfit, fit]
    | unknown unnamed other outer =>
      have none := ofShape?_genericParam_eq_none unnamed
      have unfit : ofShape? message .missingReturn = Option.none :=
        if_neg fun has => other ((Text.occurs_iff _ _).mp has)
      have last : ofShape? message .missingComment = Option.none :=
        if_neg fun has => has.2 ((Text.occurs_iff _ _).mpr (outer ((Text.occurs_iff _ _).mp has.1)))
      simp only [forMessage?, Shape.order, List.findSome?_cons, none, unfit, last, List.findSome?_nil]
  refine ⟨shown, ?_⟩
  rw [shapeOf?, shown]
  cases ruled <;> rfl

/-- Every message keeps to a rule. -/
theorem exists_ruled (message : String) : ∃ remedy rule, Ruled message remedy rule := by
  by_cases unnamed : Unnamed message
  · by_cases returns : "no @return".toList <:+: message.toList
    · exact ⟨_, _, .result unnamed returns⟩
    · by_cases bare : "no comment".toList <:+: message.toList ∧ ¬"package".toList <:+: message.toList
      · exact ⟨_, _, .comment unnamed returns bare.1 bare.2⟩
      · exact ⟨_, _, .unknown unnamed returns fun has => by_contra fun inner => bare ⟨has, inner⟩⟩
  · simp only [Unnamed, not_forall] at unnamed
    obtain ⟨before, name, first, named⟩ := unnamed
    exact ⟨_, _, .parameter first named⟩

/-- A message calls for the remedy of the rule that it keeps to, and its shape has the name of that rule; no
shape is found where no remedy is. The name of a type parameter to be documented is a trimmed text without a
closing bracket, and its message carries a mark. -/
theorem classified_by_rules (message : String) :
    (∀ remedy rule, Ruled message remedy rule ↔
      forMessage? message = remedy ∧ (shapeOf? message).map Shape.name = rule) ∧
    (shapeOf? message = none ↔ forMessage? message = none) ∧
    ∀ name, forMessage? message = some (.parameterTag name) →
      name ≠ "" ∧ Text.trim name.toList = name.toList ∧ '>' ∉ name.toList ∧
        Diagnostic.hasMark message = true := by
  obtain ⟨kept, known, ruled⟩ := exists_ruled message
  obtain ⟨shown, called⟩ := ruled.decides
  refine ⟨fun remedy rule => ⟨Ruled.decides, ?_⟩, Option.map_eq_none_iff, fun name found => ?_⟩
  · rintro ⟨same, named⟩
    rwa [← same, ← named, shown, called]
  · obtain rfl := shown.symm.trans found
    cases ruled with
    | parameter first named =>
      rw [String.toList_ofList]
      refine ⟨fun empty => named (String.ofList_eq_empty_iff.mp empty), Text.trim_trim _,
        fun mem => first.free (Text.mem_of_mem_trim mem), ?_⟩
      exact Diagnostic.hasMark_iff.mpr (Or.inr (Or.inr first.marked))

example : forMessage? "no @param for < > and <T>, no @return" = some .returnTag := by decide +kernel

end Remedy

/-- The name of a type parameter is part of the message that reports it. -/
theorem Remedy.mem_of_mem_name {message name : String}
    (found : forMessage? message = some (.parameterTag name)) {c : Char} (mem : c ∈ name.toList) :
    c ∈ message.toList := by
  obtain ⟨remedy, rule, ruled⟩ := exists_ruled message
  obtain rfl := ruled.decides.1.symm.trans found
  cases ruled with
  | parameter first named =>
    obtain ⟨after, whole⟩ := first.stands
    rw [String.toList_ofList] at mem
    rw [← whole]
    simp [Text.mem_of_mem_trim mem]

namespace Diagnostic

/-- A line reports a natural number as its line, and a message of characters that stand in it. -/
theorem readLine?_some {line : String} {issue : Issue} (found : readLine? line = some issue) :
    (∃ n : Nat, issue.line = Number.ofNat n) ∧ ∀ c ∈ issue.message.toList, c ∈ line.toList := by
  obtain ⟨-, file, number, message, fields, rfl⟩ := readLine?_eq_some_iff.mp found
  refine ⟨⟨_, rfl⟩, fun c mem => ?_⟩
  rw [issueOf, String.toList_ofList] at mem
  have inside : c ∈ Text.trimStart line.toList := by
    rw [fields.whole]
    simp [Text.mem_of_mem_trim mem]
  exact Text.mem_of_mem_trimStart inside

theorem sublist_distinctAfter (seen : List String) (issues : List Issue) :
    (distinctAfter seen issues).Sublist issues := by
  induction issues generalizing seen with
  | nil => exact .slnil
  | cons issue rest ih =>
    simp only [distinctAfter]
    split
    · exact (ih seen).cons issue
    · exact (ih (issue.key :: seen)).cons_cons issue

/-- The issues that a text reports have natural numbers as lines and no line feed in their
messages. -/
theorem collect_wellFormed {dedupe : Bool} {text : String} {issue : Issue}
    (mem : issue ∈ collect dedupe text) :
    (∃ line : Nat, issue.line = Number.ofNat line) ∧ '\n' ∉ issue.message.toList := by
  have read : issue ∈ readAll text := by
    simp only [collect] at mem
    split at mem
    · exact (sublist_distinctAfter [] _).subset mem
    · exact mem
  obtain ⟨line, member, found⟩ := List.mem_filterMap.mp read
  obtain ⟨number, message⟩ := readLine?_some found
  refine ⟨number, fun feed => Text.lines_feedless member ?_⟩
  have inLine := message _ feed
  rwa [String.toList_ofList] at inLine

end Diagnostic

end DocMend
