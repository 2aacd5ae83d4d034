import DocMend.Proofs.Drift
import DocMend.Proofs.Plan.Wording
import DocMend.Proofs.Repair.Reached
import DocMend.Proofs.Source.Woven
import Mathlib.Data.List.Forall2
/-!
Tags put in one after another, as if all at once. Every plan can be made in the file as it was before
the run: the same issues succeed with the same lines, and the file that the run leaves behind has them
woven in.
-/

set_option autoImplicit false
set_option relaxedAutoImplicit false

namespace DocMend

/-- The plan for an issue in a source, if there is one. -/
def Plan.forIssue? (options : Options) (source : Source) (issue : Issue) : Option Insertion :=
  match Remedy.forMessage? issue.message with
  | some remedy => (ofRemedy remedy issue source options).toOption
  | none => none

theorem Plan.forIssue?_of_remedy {issue : Issue} {remedy : Remedy}
    (message : Remedy.forMessage? issue.message = some remedy) (options : Options)
    (source : Source) :
    forIssue? options source issue = (ofRemedy remedy issue source options).toOption := by
  simp only [forIssue?, message]

namespace Repair

/-- Lines that can be counted while so many lines are put in: lines of the file, lines that stay within
the exact bound, and lines so far behind the end that no window reaches back to the file. -/
def Counted (windows : Windows) (size count line : Nat) : Prop :=
  line ≤ size ∨ line + count ≤ Number.exactBound ∨
    ∀ w, windows.parameter.toNat? = some w ∨ windows.result.toNat? = some w →
      size + count + w < Number.exactBound

/-- Windows of whole numbers of lines. -/
def WholeWindows (windows : Windows) : Prop :=
  ∃ w v, windows.parameter.toNat? = some w ∧ windows.result.toNat? = some v

/-- An issue that asks for a tag in a file: its wording is inner text, and the line that it reports
ends no comment. -/
structure Tagging (options : Plan.Options) (path : String) (source : Source) (count : Nat)
    (issue : Issue) : Prop where
  here : issue.path = path
  remedy : ∃ remedy, Remedy.forMessage? issue.message = some remedy ∧
    remedy ≠ .commentBlock ∧ Plan.Worded remedy options.phrases
  line : ∃ line, issue.line = Number.ofNat line ∧ line < Number.exactBound ∧
    Counted options.windows source.size count line
  plain : ∀ content, source.contentAt? (issue.line - 1) = some content →
    Text.contains content Source.blockEnd = false

/-- A result that agrees with the plan in the source as it was before the run. -/
def Settled (options : Plan.Options) (source : Source) (issue : Issue) (result : Result) : Prop :=
  result.issue = issue ∧
    match Plan.forIssue? options source issue with
    | some plan => ∃ index, result.outcome = .applied ⟨index, plan.lines⟩
    | none => ∃ reason, result.outcome = .failed reason

/-- A state of a run that has put in the tags of the issues done so far: the file is woven from the
source, and lines resolve to their places in it. -/
structure InStep (options : Plan.Options) (path : String) (source : Source) (done : List Issue)
    (plans : List Insertion) (session : Session) (files : List (String × String)) : Prop where
  woven : source.Woven (source.addedBy plans)
  text : ∃ text, files.lookup path = some text ∧ Source.ofText text = source.together plans
  few : (source.together plans).lines.length ≤ source.lines.length + done.length
  zero : session.drift.resolve path (Number.ofNat 0) = Number.ofNat 0
  resolved : ∀ d < Number.exactBound, session.drift.resolve path (Number.ofNat (d + 1)) =
    Number.ofNat (min (Source.place (source.addedBy plans) d + 1) Number.exactBound)
  results : List.Forall₂ (Settled options source) done session.results

private theorem settled_append {options : Plan.Options} {source : Source} {done : List Issue}
    {results : List Result} (settled : List.Forall₂ (Settled options source) done results)
    {issue : Issue} {result : Result} (last : Settled options source issue result) :
    List.Forall₂ (Settled options source) (done ++ [issue]) (results ++ [result]) := by
  induction settled with
  | nil => exact .cons last .nil
  | cons head tail ih => exact .cons head ih

namespace InStep

variable {options : Plan.Options} {path : String} {source : Source} {done : List Issue}
  {plans : List Insertion} {session : Session} {files : List (String × String)}

theorem start {text : String} (present : files.lookup path = some text) :
    InStep options path (Source.ofText text) [] [] {} files where
  woven := ⟨fun _ _ => rfl, fun _ line mem => absurd mem (by simp [Source.addedBy])⟩
  text := ⟨text, present, (Source.together_nil _).symm⟩
  few := by
    rw [Source.together_nil]
    exact Nat.le_refl _
  zero := rfl
  resolved := by
    intro d small
    have unmoved : Source.place ((Source.ofText text).addedBy []) d = d := by
      have counted := Source.place_add ((Source.ofText text).addedBy []) (i := 0) d
        fun _ _ _ => rfl
      rw [Nat.zero_add] at counted
      rw [counted, Source.place]
      exact Nat.zero_add d
    rw [unmoved, Nat.min_eq_left small]
    rfl
  results := .nil

/-- An issue that fails changes nothing. -/
theorem failed (inStep : InStep options path source done plans session files) {issue : Issue}
    (unplanned : Plan.forIssue? options source issue = none) (shape : Option Shape)
    (reason : String) :
    InStep options path source (done ++ [issue]) plans
      (session.conclude issue shape (.failed reason)) files where
  woven := inStep.woven
  text := inStep.text
  few := by
    have few := inStep.few
    rw [List.length_append]
    omega
  zero := inStep.zero
  resolved := inStep.resolved
  results := by
    refine settled_append inStep.results ⟨rfl, ?_⟩
    rw [unplanned]
    exact ⟨reason, rfl⟩

/-- One more tag, put in before the place of the line that it was planned for. -/
theorem applied (inStep : InStep options path source done plans session files) (cut : source.Cut)
    {issue : Issue} {plan : Insertion}
    (planned : Plan.forIssue? options source issue = some plan) {index : Nat}
    (inside : index < source.lines.length) (ends : source.endsBlock index = true)
    (at_index : plan.index = Number.ofNat index) (single : plan.lines.length = 1)
    (inner : ∀ line ∈ plan.lines, Line.Inner line) (shape : Option Shape)
    (small : (source.together plans).lines.length < Number.exactBound) :
    InStep options path source (done ++ [issue]) (plans ++ [plan])
      { session.conclude issue shape
          (.applied ⟨Number.ofNat (Source.place (source.addedBy plans) index), plan.lines⟩) with
        drift := session.drift.record path
          ⟨Number.ofNat (Source.place (source.addedBy plans) index), plan.lines⟩ }
      (setEntry files path ((source.together plans).splice
        (Source.place (source.addedBy plans) index) plan.lines).text) := by
  obtain ⟨text, present, read⟩ := inStep.text
  have placed : Source.place (source.addedBy plans) index <
      (source.together plans).lines.length := Source.place_lt_length _ inside
  have counted : index ≤ Number.exactBound := by
    have behind := Source.le_place (source.addedBy plans) index
    omega
  have together := Source.together_append inStep.woven cut at_index inside counted
  have patched : ((source.together plans).splice (Source.place (source.addedBy plans) index)
      plan.lines).Cut := by
    rw [← read] at placed ⊢
    exact (Source.cut_ofText text).splice placed fun line mem => (inner line mem).feedless
  refine ⟨?_, ?_, ?_, ?_, ?_, ?_⟩
  · exact Source.woven_append inStep.woven at_index counted ends inner
  · exact ⟨_, lookup_setEntry_same _ _ _, by rw [patched.ofText_text, together]⟩
  · have few := inStep.few
    rw [together, Source.size_splice _ placed, single, List.length_append, List.length_singleton]
    omega
  · rw [Drift.resolve_record, inStep.zero]
    exact Shift.move_zero (by omega)
  · intro d below
    rw [Drift.resolve_record, inStep.resolved d below, Insertion.shift, single,
      Shift.move_min (by omega), Source.addedBy_append at_index counted, Source.place_insert]
    have one : (source.ended index plan.lines).length = 1 := by
      rw [Source.ended, List.length_map, single]
    have order : Source.place (source.addedBy plans) index ≤
        Source.place (source.addedBy plans) d ↔ index ≤ d := by
      rw [← Nat.not_lt, ← Nat.not_lt, Source.place_lt_iff]
    simp only [one, order]
  · refine settled_append inStep.results ⟨rfl, ?_⟩
    rw [planned]
    exact ⟨_, rfl⟩

private theorem anchor?_zero (source : Source) {window : Number} {w : Nat}
    (whole : window.toNat? = some w) : source.anchor? (Number.ofNat 0) window = none := by
  cases found : source.anchor? (Number.ofNat 0) window with
  | none => rfl
  | some index =>
    obtain ⟨above, -⟩ := (Source.anchor?_eq_some whole (Nat.zero_le _)).mp found
    omega

private theorem contentAt?_behind {source : Source} {d : Nat} (behind : source.lines.length ≤ d)
    (small : d + 1 ≤ Number.exactBound) :
    source.contentAt? (Number.ofNat (d + 1) - 1) = none := by
  have whole : (Number.ofNat d).toNat? = some d := Number.toNat?_ofNat (by omega)
  rw [Number.ofNat_succ_sub_one small]
  simp only [Source.contentAt?, whole, List.getElem?_eq_none behind, Option.map_none]

/-- A line whose number has grown beyond the bound is behind the end of the source, too far for every
window to reach the source back from it; from the bound no window reaches the lines put together. -/
theorem behind_of_beyond (inStep : InStep options path source done plans session files)
    {d count : Nat} (counted : Counted options.windows source.size count (d + 1))
    (bound : done.length ≤ count)
    (small : (source.together plans).lines.length < Number.exactBound)
    (beyond : Number.exactBound < Source.place (source.addedBy plans) d + 1) :
    source.lines.length ≤ d ∧
      ∀ w, options.windows.parameter.toNat? = some w ∨ options.windows.result.toNat? = some w →
        source.lines.length + w ≤ d ∧
          (source.together plans).lines.length + w < Number.exactBound := by
  have behind : source.lines.length ≤ d := by
    by_contra inside
    have placed : Source.place (source.addedBy plans) d < (source.together plans).lines.length :=
      Source.place_lt_length _ (Nat.lt_of_not_le inside)
    omega
  have place : Source.place (source.addedBy plans) d =
      (source.together plans).lines.length + (d - source.lines.length) :=
    inStep.woven.place_behind behind
  have few := inStep.few
  refine ⟨behind, fun w whole => ?_⟩
  have reach : source.lines.length + count + w < Number.exactBound := by
    rcases counted with inside | low | far
    · have size : source.size = source.lines.length := rfl
      omega
    · omega
    · exact far w whole
  omega

/-- Wherever the line of an issue is by now, it has the anchors and the content that it had. -/
theorem seen (inStep : InStep options path source done plans session files) {line count : Nat}
    (below : line < Number.exactBound) (counted : Counted options.windows source.size count line)
    (plain : ∀ d, line = d + 1 → source.endsBlock d = false) (bound : done.length ≤ count)
    (small : (source.together plans).lines.length < Number.exactBound) :
    (∀ window w, window = options.windows.parameter ∨ window = options.windows.result →
      window.toNat? = some w → (source.together plans).anchor?
        (session.drift.resolve path (Number.ofNat line)) window =
          (source.anchor? (Number.ofNat line) window).map
            (Source.place (source.addedBy plans))) ∧
      (source.together plans).contentAt?
        (session.drift.resolve path (Number.ofNat line) - 1) =
          source.contentAt? (Number.ofNat line - 1) := by
  cases line with
  | zero =>
    have nowhere : (Number.ofInt (-1)).toNat? = none := by decide
    rw [inStep.zero]
    refine ⟨fun window w _ whole => ?_, ?_⟩
    · rw [anchor?_zero _ whole, anchor?_zero _ whole]
      rfl
    · rw [Number.zero_sub_one]
      simp only [Source.contentAt?, nowhere]
  | succ d =>
    have still := plain d rfl
    rw [inStep.resolved d (by omega)]
    by_cases exact : Source.place (source.addedBy plans) d + 1 ≤ Number.exactBound
    · rw [Nat.min_eq_left exact]
      exact ⟨fun window w _ whole => inStep.woven.anchor?_eq whole still exact,
        Source.contentAt?_woven exact⟩
    · have beyond := Nat.lt_of_not_le exact
      obtain ⟨behind, far⟩ := inStep.behind_of_beyond counted bound small beyond
      rw [Nat.min_eq_right (Nat.le_of_lt beyond)]
      refine ⟨fun window w either whole => ?_, ?_⟩
      · obtain ⟨reach, short⟩ := far w <| by
          rcases either with rfl | rfl
          · exact Or.inl whole
          · exact Or.inr whole
        have early : source.anchor? (Number.ofNat (d + 1)) window = none :=
          Source.anchor?_eq_none whole (by omega) (by omega)
        have late : (source.together plans).anchor? (Number.ofNat Number.exactBound) window =
            none := Source.anchor?_eq_none whole (Nat.le_refl _) short
        rw [early, late]
        rfl
      · obtain ⟨top, bound_eq⟩ : ∃ top, Number.exactBound = top + 1 :=
          ⟨Number.exactBound - 1, by omega⟩
        rw [contentAt?_behind behind (by omega), bound_eq,
          contentAt?_behind (by omega) (by omega)]

/-- The plan made now is the plan of the source, moved. -/
theorem planned (inStep : InStep options path source done plans session files)
    (whole : WholeWindows options.windows) {issue : Issue} {count : Nat}
    (tagging : Tagging options path source count issue) {remedy : Remedy}
    (tagged : remedy ≠ .commentBlock) (bound : done.length ≤ count)
    (small : (source.together plans).lines.length < Number.exactBound) :
    Plan.Moved (Source.place (source.addedBy plans)) source
      (Plan.ofRemedy remedy issue source options)
      (Plan.ofRemedy remedy (session.current issue) (source.together plans) options) := by
  obtain ⟨w, v, parameter, result⟩ := whole
  obtain ⟨line, number, below, counted⟩ := tagging.line
  have plain : ∀ d, line = d + 1 → source.endsBlock d = false := by
    rintro d rfl
    have position : (Number.ofNat d).toNat? = some d := Number.toNat?_ofNat (by omega)
    have content := tagging.plain
    rw [number, Number.ofNat_succ_sub_one (by omega)] at content
    simp only [Source.contentAt?, position] at content
    rw [Source.endsBlock]
    cases found : source.lines[d]? with
    | none => rfl
    | some raw => exact content _ (by rw [found]; rfl)
  obtain ⟨anchors, content⟩ := inStep.seen below counted plain bound small
  rw [← number] at anchors content
  have current : session.current issue =
      { issue with line := session.drift.resolve path issue.line } := by
    rw [Session.current, tagging.here]
  rw [current]
  refine Plan.ofRemedy_moved ?_ tagged ?_ content
  · intro i inside
    exact Source.getElem?_weave (source.addedBy plans) source.lines inside
  · rintro window (rfl | rfl)
    · exact anchors _ w (Or.inl rfl) parameter
    · exact anchors _ v (Or.inr rfl) result

end InStep

section Run

variable {options : Plan.Options} {path : String} {source : Source} {count : Nat}

/-- One repair goes as planned in the source. -/
theorem Stepped.inStep {done : List Issue} {issue : Issue} {session next : Session}
    {memory after : Memory} (stepped : Stepped options issue session memory (.ok next, after))
    (now : InStep options path source done (done.filterMap (Plan.forIssue? options source)) session
      memory.files)
    (cut : source.Cut) (whole : WholeWindows options.windows)
    (tagging : Tagging options path source count issue) (bound : done.length ≤ count)
    (writable : path ∉ memory.readOnly) (fits : memory.Fits) :
    InStep options path source (done ++ [issue])
      ((done ++ [issue]).filterMap (Plan.forIssue? options source)) next after.files := by
  obtain ⟨remedy, message, tagged, worded⟩ := tagging.remedy
  obtain ⟨text, present, read⟩ := now.text
  have here := tagging.here
  have small : (source.together (done.filterMap (Plan.forIssue? options source))).lines.length <
      Number.exactBound := by
    rw [← read]
    exact Nat.lt_of_le_of_lt (Source.size_ofText_le text) (fits path text present)
  have moved := now.planned whole tagging tagged bound small
  cases stepped with
  | skipped unfit => exact absurd (message.symm.trans unfit) (by simp)
  | unread fit absent =>
    rw [here] at absent
    exact absurd (present.symm.trans absent) (by simp)
  | refused fit found plan inside closed => exact absurd (here ▸ closed) writable
  | @unplanned other current failure fit found plan =>
    obtain rfl := Option.some.inj (message.symm.trans fit)
    rw [here] at found
    obtain rfl := Option.some.inj (present.symm.trans found)
    rw [read] at plan
    rw [plan] at moved
    obtain ⟨earlier, failed⟩ := moved.error
    have none : Plan.forIssue? options source issue = none := by
      rw [Plan.forIssue?_of_remedy message, failed]
      rfl
    rw [List.filterMap_append, List.filterMap_cons_none none, List.filterMap_nil, List.append_nil]
    exact now.failed none _ _
  | @applied other current insertion patched fit found plan inserted opened =>
    obtain rfl := Option.some.inj (message.symm.trans fit)
    rw [here] at found
    obtain rfl := Option.some.inj (present.symm.trans found)
    rw [read] at plan inserted
    rw [plan] at moved
    obtain ⟨before, index, original, inside, ends, at_index, rfl⟩ := moved.ok
    have planned : Plan.forIssue? options source issue = some before := by
      rw [Plan.forIssue?_of_remedy message, original]
      rfl
    have inner := Plan.ofRemedy_inner tagged original worded
    have single : before.lines.length = 1 := by
      obtain ⟨window, tag, at_line, raw, -, -, rfl⟩ := Plan.ofRemedy_tag tagged original
      rfl
    have placed : Source.place (source.addedBy (done.filterMap (Plan.forIssue? options source)))
        index < (source.together (done.filterMap (Plan.forIssue? options source))).lines.length :=
      Source.place_lt_length _ inside
    have carried := Source.insert_ofNat placed (Nat.le_of_lt small) before.lines
    obtain rfl := Except.ok.inj (inserted.symm.trans carried)
    rw [List.filterMap_append, List.filterMap_cons_some planned, List.filterMap_nil, here]
    exact now.applied cut planned inside ends at_index single inner _ small

/-- Every state of a run over tags for one file goes as planned in the file as it was. -/
theorem Reached.inStep {start memory : Memory} {done : List Issue} {session : Session}
    (reached : Reached options start done session memory) {text : String}
    (present : start.files.lookup path = some text) (writable : path ∉ start.readOnly)
    (whole : WholeWindows options.windows)
    (tagging : ∀ issue ∈ done, Tagging options path (Source.ofText text) count issue)
    (bound : done.length ≤ count) (fits : memory.Fits) :
    InStep options path (Source.ofText text) done
      (done.filterMap (Plan.forIssue? options (Source.ofText text))) session memory.files := by
  induction reached with
  | start => exact .start present
  | noted reached trace ih => exact ih tagging bound fits
  | step reached stepped ih =>
    rw [List.length_append, List.length_singleton] at bound
    have earlier := stepped.grows.fits fits
    have open_still := reached.readOnly_eq ▸ writable
    have now := ih (fun issue mem => tagging issue (List.mem_append_left _ mem)) (by omega) earlier
    have last := tagging _ (List.mem_append_right _ List.mem_cons_self)
    exact stepped.inStep now (Source.cut_ofText text) whole last (by omega) open_still earlier

end Run

end Repair

end DocMend
