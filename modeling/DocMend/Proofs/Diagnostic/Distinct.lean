import DocMend.Proofs.Diagnostic.Message
import DocMend.Proofs.Json.Written
/-!
Repeated issues. Two issues whose lines are line numbers have one key only if they are the same issue: a key is
a text that its parts are read from again, the path, the line number and the message.

Of repeated issues the first occurrences stay. What is left of two lists, one behind the other, is what is left
of the first and those of the second that do not occur in the first.
-/

set_option autoImplicit false
set_option relaxedAutoImplicit false

namespace DocMend

namespace Json

private theorem readNumber_null (rest : List Char) :
    readNumber false (numberChars (.infinite false) ++ rest) =
      refuse .noValue (numberChars (.infinite false) ++ rest) :=
  rfl

/-- A line number in front of a comma is told by its text: one in range is read from it, and the only one out
of range is no text of a number. -/
theorem numberChars_append_inj {m n : Nat} {first second : List Char}
    (same : numberChars (Number.ofNat m) ++ ',' :: first = numberChars (Number.ofNat n) ++ ',' :: second) :
    Number.ofNat m = Number.ofNat n ∧ first = second := by
  have reads := fun {m : Nat} {x : Rat} (value : Number.ofNat m = .finite x) (rest : List Char) =>
    readNumber_written value (endsNumber_mark ',' (by decide) rest)
  have again := congrArg (readNumber false) same
  rcases Number.ofNat_cases m with far | ⟨k, one, -⟩
  · rcases Number.ofNat_cases n with beyond | ⟨l, two, -⟩
    · rw [far, beyond] at same
      exact ⟨by rw [far, beyond], (List.cons.inj (List.append_cancel_left same)).2⟩
    · rw [far, readNumber_null, two, reads two] at again
      exact absurd again (by simp [refuse])
  · rcases Number.ofNat_cases n with beyond | ⟨l, two, -⟩
    · rw [beyond, readNumber_null, one, reads one] at again
      exact absurd again (by simp [refuse])
    · rw [one, two, reads one, reads two] at again
      obtain ⟨number, rest⟩ := Prod.mk.inj (Except.ok.inj again)
      exact ⟨by rw [one, two, number], (List.cons.inj rest).2⟩

theorem quoted_append_inj {s t : String} {first second : List Char}
    (same : quoted s ++ first = quoted t ++ second) : s = t ∧ first = second := by
  have left := readText_written s first
  have right := readText_written t second
  have behind : s.toList.flatMap escaped ++ '"' :: first = t.toList.flatMap escaped ++ '"' :: second := by
    simpa [quoted] using same
  rw [behind, right] at left
  have read := Except.ok.inj left
  exact ⟨(Prod.mk.inj read).1.symm, (Prod.mk.inj read).2.symm⟩

end Json

/-- An issue on a line that a line number counts. -/
def Issue.Counted (issue : Issue) : Prop :=
  ∃ n, issue.line = Number.ofNat n

theorem Issue.key_toList (issue : Issue) : issue.key.toList =
    '[' :: (Json.quoted issue.path ++ ',' :: (Json.numberChars issue.line ++
      ',' :: (Json.quoted issue.message ++ [']']))) := by
  simp [Issue.key, Json.text, Json.chars, Json.itemChars, Text.joined]

/-- Issues with one key are the same issue. -/
theorem Issue.key_inj {first second : Issue} (one : first.Counted) (two : second.Counted) :
    first.key = second.key ↔ first = second := by
  refine ⟨fun same => ?_, congrArg Issue.key⟩
  obtain ⟨m, left⟩ := one
  obtain ⟨n, right⟩ := two
  have chars := congrArg String.toList same
  rw [Issue.key_toList, Issue.key_toList] at chars
  obtain ⟨path, rest⟩ := Json.quoted_append_inj (List.cons.inj chars).2
  rw [left, right] at rest
  obtain ⟨line, more⟩ := Json.numberChars_append_inj (List.cons.inj rest).2
  rw [← left, ← right] at line
  obtain ⟨message, -⟩ := Json.quoted_append_inj more
  cases first
  cases second
  obtain rfl := path
  obtain rfl := line
  obtain rfl := message
  rfl

/-- An issue whose key occurs among those of others occurs among the others. -/
theorem Issue.key_mem_map_iff {issues : List Issue} {issue : Issue}
    (counted : ∀ other ∈ issues, other.Counted) (one : issue.Counted) :
    issue.key ∈ issues.map Issue.key ↔ issue ∈ issues := by
  rw [List.mem_map]
  constructor
  · rintro ⟨other, inside, same⟩
    exact (Issue.key_inj (counted other inside) one).mp same ▸ inside
  · exact fun inside => ⟨issue, inside, rfl⟩

namespace Diagnostic

variable {seen other more : List String} {first second issues : List Issue}

/-- Which keys were seen counts, not how often or in which order. -/
theorem distinctAfter_congr (same : ∀ key, key ∈ seen ↔ key ∈ other) :
    distinctAfter seen issues = distinctAfter other issues := by
  induction issues generalizing seen other with
  | nil => rfl
  | cons issue rest ih =>
    have next : ∀ key, key ∈ issue.key :: seen ↔ key ∈ issue.key :: other := fun key => by
      rw [List.mem_cons, List.mem_cons, same]
    simp only [distinctAfter, same, ih same, ih next]

/-- More keys that were seen take the issues with these keys away. -/
theorem distinctAfter_append_seen : distinctAfter (more ++ seen) issues =
    (distinctAfter seen issues).filter (fun issue => issue.key ∉ more) := by
  induction issues generalizing seen with
  | nil => rfl
  | cons issue rest ih =>
    simp only [distinctAfter, List.mem_append]
    by_cases old : issue.key ∈ seen
    · rw [if_pos (Or.inr old), if_pos old, ih]
    · rw [if_neg old]
      by_cases given : issue.key ∈ more
      · have known : ∀ key, key ∈ more ++ seen ↔ key ∈ more ++ issue.key :: seen := by grind
        rw [if_pos (Or.inl given), List.filter_cons_of_neg (by simpa using given), ← ih,
          distinctAfter_congr known]
      · have moved : ∀ key, key ∈ issue.key :: (more ++ seen) ↔ key ∈ more ++ issue.key :: seen := by grind
        rw [if_neg (not_or.mpr ⟨given, old⟩), List.filter_cons_of_pos (by simpa using given), ← ih,
          distinctAfter_congr moved]

theorem distinctAfter_append : distinctAfter seen (first ++ second) =
    distinctAfter seen first ++ distinctAfter (first.map Issue.key ++ seen) second := by
  induction first generalizing seen with
  | nil => rfl
  | cons issue rest ih =>
    simp only [List.cons_append, List.map_cons, distinctAfter]
    by_cases old : issue.key ∈ seen
    · have known : ∀ key, key ∈ rest.map Issue.key ++ seen ↔
          key ∈ issue.key :: (rest.map Issue.key ++ seen) := by grind
      rw [if_pos old, if_pos old, ih, distinctAfter_congr known]
    · have moved : ∀ key, key ∈ rest.map Issue.key ++ issue.key :: seen ↔
          key ∈ issue.key :: (rest.map Issue.key ++ seen) := by grind
      rw [if_neg old, if_neg old, ih, List.cons_append, distinctAfter_congr moved]

/-- What is left of two lists: what is left of the first, and of the second what does not occur in the
first. -/
theorem distinct_append (one : ∀ issue ∈ first, issue.Counted) (two : ∀ issue ∈ second, issue.Counted) :
    distinct (first ++ second) =
      distinct first ++ (distinct second).filter (fun issue => issue ∉ first) := by
  have later : distinctAfter (first.map Issue.key ++ []) second =
      (distinct second).filter (fun issue => issue ∉ first) := by
    rw [distinctAfter_append_seen]
    refine List.filter_congr fun issue mem => ?_
    have counted := two issue ((sublist_distinctAfter [] second).subset mem)
    exact decide_eq_decide.mpr (not_congr (Issue.key_mem_map_iff one counted))
  exact distinctAfter_append.trans (congrArg _ later)

/-- The issues of a list that do not occur earlier in it. -/
def firsts (issues : List Issue) : List Issue :=
  (issues.zipIdx.filter fun entry => entry.1 ∉ issues.take entry.2).map Prod.fst

/-- Behind other issues, those are left that do not occur among the others or earlier. -/
private theorem distinctAfter_map_key (before : List Issue)
    (counted : ∀ issue ∈ before ++ issues, issue.Counted) :
    distinctAfter (before.map Issue.key) issues =
      ((issues.zipIdx before.length).filter
        fun entry => entry.1 ∉ (before ++ issues).take entry.2).map Prod.fst := by
  induction issues generalizing before with
  | nil => rfl
  | cons issue rest ih =>
    have moved : before ++ issue :: rest = (before ++ [issue]) ++ rest := by simp
    have later := ih (before ++ [issue]) (moved ▸ counted)
    rw [List.length_append, List.length_singleton, List.map_append, List.map_singleton] at later
    have known : issue.key ∈ before.map Issue.key ↔ issue ∈ before :=
      Issue.key_mem_map_iff (fun other mem => counted other (List.mem_append_left _ mem))
        (counted issue (List.mem_append_right _ List.mem_cons_self))
    have here : (before ++ issue :: rest).take before.length = before := List.take_left
    simp only [distinctAfter, known, List.zipIdx_cons]
    by_cases old : issue ∈ before
    · have same : ∀ key, key ∈ before.map Issue.key ↔ key ∈ before.map Issue.key ++ [issue.key] := by
        grind
      rw [if_pos old, List.filter_cons_of_neg (by simpa [here] using old), distinctAfter_congr same,
        later, moved]
    · have same : ∀ key, key ∈ issue.key :: before.map Issue.key ↔
          key ∈ before.map Issue.key ++ [issue.key] := by grind
      rw [if_neg old, List.filter_cons_of_pos (by simpa [here] using old), List.map_cons,
        distinctAfter_congr same, later, moved]

/-- Issues that are told apart by their keys are told apart by themselves. -/
theorem distinct_eq_firsts (counted : ∀ issue ∈ issues, issue.Counted) :
    distinct issues = firsts issues :=
  distinctAfter_map_key [] counted

/-- No key is left twice, and none that was seen before. -/
theorem nodup_distinctAfter (seen : List String) (issues : List Issue) :
    ((distinctAfter seen issues).map Issue.key).Nodup ∧
    ∀ issue ∈ distinctAfter seen issues, issue.key ∉ seen := by
  induction issues generalizing seen with
  | nil => exact ⟨List.nodup_nil, fun _ mem => absurd mem List.not_mem_nil⟩
  | cons issue rest ih =>
    simp only [distinctAfter]
    split
    · exact ih seen
    · rename_i fresh
      obtain ⟨apart, unseen⟩ := ih (issue.key :: seen)
      constructor
      · rw [List.map_cons, List.nodup_cons]
        refine ⟨fun again => ?_, apart⟩
        obtain ⟨other, mem, same⟩ := List.mem_map.mp again
        exact unseen other mem (same ▸ List.mem_cons_self)
      · intro other mem
        rcases List.mem_cons.mp mem with rfl | later
        · exact fresh
        · exact fun old => unseen other later (List.mem_cons_of_mem _ old)

/-- Where no key is left to drop, all issues stay. -/
theorem distinctAfter_eq_self (apart : (issues.map Issue.key).Nodup)
    (unseen : ∀ issue ∈ issues, issue.key ∉ seen) : distinctAfter seen issues = issues := by
  induction issues generalizing seen with
  | nil => rfl
  | cons issue rest ih =>
    obtain ⟨once, apart⟩ := List.nodup_cons.mp apart
    have later : ∀ other ∈ rest, other.key ∉ issue.key :: seen := by
      intro other mem old
      rcases List.mem_cons.mp old with same | old
      · exact once (same ▸ List.mem_map_of_mem mem)
      · exact unseen other (List.mem_cons_of_mem _ mem) old
    rw [distinctAfter, if_neg (unseen issue List.mem_cons_self), ih apart later]

/-- An issue is dropped only for another one with its key. -/
theorem key_mem_distinctAfter (seen : List String) {issue : Issue} (mem : issue ∈ issues) :
    issue.key ∈ seen ∨ issue.key ∈ (distinctAfter seen issues).map Issue.key := by
  induction issues generalizing seen with
  | nil => exact absurd mem List.not_mem_nil
  | cons first rest ih =>
    simp only [distinctAfter]
    split
    · rename_i old
      rcases List.mem_cons.mp mem with rfl | later
      · exact Or.inl old
      · exact ih seen later
    · rw [List.map_cons, List.mem_cons]
      rcases List.mem_cons.mp mem with rfl | later
      · exact Or.inr (Or.inl rfl)
      · rcases ih (first.key :: seen) later with old | kept
        · exact (List.mem_cons.mp old).elim (fun same => Or.inr (Or.inl same)) Or.inl
        · exact Or.inr (Or.inr kept)

/-- No issue is lost altogether. -/
theorem mem_distinct_iff (counted : ∀ issue ∈ issues, issue.Counted) {issue : Issue} :
    issue ∈ distinct issues ↔ issue ∈ issues := by
  have kept := sublist_distinctAfter [] issues
  refine ⟨fun mem => kept.subset mem, fun mem => ?_⟩
  have key := (key_mem_distinctAfter [] mem).resolve_left List.not_mem_nil
  exact (Issue.key_mem_map_iff (fun other left => counted other (kept.subset left))
    (counted issue mem)).mp key

theorem counted_of_mem_readAll {text : String} {issue : Issue} (mem : issue ∈ readAll text) :
    issue.Counted :=
  (collect_wellFormed (show issue ∈ collect false text from mem)).1

/-- Of issues whose lines are line numbers the first occurrences stay, in their order and once each, and
nothing else is lost; what is left stays as it is. Keys tell two such issues apart exactly where their
paths, lines or messages do. The issues that a text reports are of this kind. -/
theorem first_occurrences_kept (issues : List Issue) (counted : ∀ issue ∈ issues, issue.Counted) :
    (∀ first second : Issue, first.Counted → second.Counted → (first.key = second.key ↔
      first.path = second.path ∧ first.line = second.line ∧ first.message = second.message)) ∧
    distinct issues = firsts issues ∧ (distinct issues).Nodup ∧
    (∀ issue, issue ∈ distinct issues ↔ issue ∈ issues) ∧ (distinct issues).Sublist issues ∧
    distinct (distinct issues) = distinct issues ∧
    ∀ text, collect true text = firsts (readAll text) := by
  obtain ⟨apart, unseen⟩ := nodup_distinctAfter [] issues
  have once : (distinct issues).Nodup :=
    List.Pairwise.of_map Issue.key (fun _ _ differ same => differ (congrArg Issue.key same)) apart
  refine ⟨fun first second one two => ?_, distinct_eq_firsts counted, once,
    fun issue => mem_distinct_iff counted, sublist_distinctAfter [] issues,
    distinctAfter_eq_self apart unseen, fun text => ?_⟩
  · rw [Issue.key_inj one two]
    cases first
    cases second
    simp only [Issue.mk.injEq]
  · exact distinct_eq_firsts fun issue => counted_of_mem_readAll

/-- Two issues that would have one key if texts were not quoted, and one whose line is out of range. -/
theorem first_occurrences_kept_quoted :
    let inMessage : Issue := ⟨"A", Number.ofNat 1, "\",2,\"b"⟩
    let inPath : Issue := ⟨"A\",1,\"", Number.ofNat 2, "b"⟩
    let far : Issue := ⟨"A", .infinite false, "b"⟩
    let issues := [inMessage, inPath, inMessage, far, inPath, far]
    (∀ issue ∈ issues, issue.Counted) ∧ inMessage.key ≠ inPath.key ∧
      distinct issues = [inMessage, inPath, far] ∧ distinct [inMessage, inPath, far] = [inMessage, inPath, far] := by
  intro inMessage inPath far issues
  have one : inMessage.Counted := ⟨1, rfl⟩
  have two : inPath.Counted := ⟨2, rfl⟩
  have three : far.Counted := ⟨Number.powerOfTwo 1024, by decide +kernel⟩
  have counted : ∀ issue ∈ issues, issue.Counted := by
    simp only [issues, List.forall_mem_cons]
    exact ⟨one, two, one, three, two, three, fun _ none => absurd none List.not_mem_nil⟩
  obtain ⟨keys, firsts, -, -, -, again, -⟩ := first_occurrences_kept issues counted
  have left : distinct issues = [inMessage, inPath, far] := firsts.trans (by decide +kernel)
  refine ⟨counted, fun same => ?_, left, left ▸ again⟩
  exact absurd ((keys inMessage inPath one two).mp same).1 (by decide)

end Diagnostic

end DocMend
