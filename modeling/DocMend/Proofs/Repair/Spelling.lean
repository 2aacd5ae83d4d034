import DocMend.Disk.WorkingTree
import DocMend.Proofs.Diagnostic.Message
import DocMend.Proofs.Drift
import DocMend.Proofs.Plan.Place
import DocMend.Proofs.Repair.Account
import DocMend.Proofs.Repair.Effect
import Mathlib.Control.Monad.Basic
/-!
File names that are written in different ways. The record of a run goes by names, the files of a working
tree go by the paths that names stand for. So a line that is handed to a plan has been carried through
the insertions under its own name; those into the same file under another name are missing, which makes
a difference exactly where one of them was not below the line.
-/

set_option autoImplicit false
set_option relaxedAutoImplicit false

namespace DocMend.Repair

/-- Where a line is after a repair. -/
def Outcome.carry (line : Number) : Outcome → Number
  | .applied insertion => Shift.move line insertion.shift
  | _ => line

/-- Where a line is after repairs: it moves with every insertion that does not stand below it. -/
def carried (results : List Result) (line : Number) : Number :=
  results.foldl (fun line result => result.outcome.carry line) line

/-- The results for the file that a name stands for in a folder, under whatever names. -/
def resultsAt (folder : Path) (name : String) (results : List Result) : List Result :=
  results.filter fun result => Path.resolve folder result.issue.path = Path.resolve folder name

/-- How many lines results put in. -/
def lineTotal (results : List Result) : Nat :=
  (results.map fun result => result.outcome.lineCount).sum

/-- A line that is carried through the insertions into a file has met no insertion under another name of
the file that stood at its place or above it. -/
def Undisturbed (folder : Path) (name : String) (results : List Result) (line : Number) : Prop :=
  ∀ earlier result later insertion, results = earlier ++ result :: later →
    result.outcome = .applied insertion →
    Path.resolve folder result.issue.path = Path.resolve folder name → result.issue.path ≠ name →
      ¬insertion.index ≤ carried (resultsAt folder name earlier) line - 1

/-- Insertions as plans make them: at least one line, before a line with a natural number. -/
def Placed (results : List Result) : Prop :=
  ∀ result ∈ results, ∀ insertion, result.outcome = .applied insertion →
    insertion.lines ≠ [] ∧ ∃ index, insertion.index = Number.ofNat index

section Lines

variable {folder : Path} {name : String} {result : Result} {results : List Result}

@[simp]
theorem carried_cons (result : Result) (results : List Result) (line : Number) :
    carried (result :: results) line = carried results (result.outcome.carry line) :=
  rfl

@[simp]
theorem lineTotal_cons (result : Result) (results : List Result) :
    lineTotal (result :: results) = result.outcome.lineCount + lineTotal results :=
  rfl

theorem resultsAt_cons_of_same (results : List Result)
    (same : Path.resolve folder result.issue.path = Path.resolve folder name) :
    resultsAt folder name (result :: results) = result :: resultsAt folder name results := by
  simp [resultsAt, same]

theorem resultsAt_cons_of_other (results : List Result)
    (other : Path.resolve folder result.issue.path ≠ Path.resolve folder name) :
    resultsAt folder name (result :: results) = resultsAt folder name results := by
  simp [resultsAt, other]

theorem Placed.tail (placed : Placed (result :: results)) : Placed results :=
  fun other mem => placed other (List.mem_cons_of_mem _ mem)

/-- Undisturbed by one result after another, each at the place where the line has come to. -/
theorem undisturbed_cons {line : Number} :
    Undisturbed folder name (result :: results) line ↔
      (∀ insertion, result.outcome = .applied insertion →
        Path.resolve folder result.issue.path = Path.resolve folder name →
          result.issue.path ≠ name → ¬insertion.index ≤ line - 1) ∧
      Undisturbed folder name results
        (if Path.resolve folder result.issue.path = Path.resolve folder name then
          result.outcome.carry line else line) := by
  have further : ∀ earlier, carried (resultsAt folder name (result :: earlier)) line =
      carried (resultsAt folder name earlier)
        (if Path.resolve folder result.issue.path = Path.resolve folder name then
          result.outcome.carry line else line) := by
    intro earlier
    by_cases here : Path.resolve folder result.issue.path = Path.resolve folder name
    · rw [resultsAt_cons_of_same _ here, if_pos here, carried_cons]
    · rw [resultsAt_cons_of_other _ here, if_neg here]
  constructor
  · intro undisturbed
    refine ⟨fun insertion => undisturbed [] result results insertion rfl, ?_⟩
    intro earlier other later insertion parts
    rw [← further]
    exact undisturbed (result :: earlier) other later insertion (by rw [parts, List.cons_append])
  · rintro ⟨first, rest⟩ earlier other later insertion parts
    cases earlier with
    | nil =>
      obtain ⟨rfl, rfl⟩ := List.cons.inj parts
      exact first insertion
    | cons head earlier =>
      obtain ⟨rfl, behind⟩ := List.cons.inj parts
      rw [further]
      exact rest earlier other later insertion behind

/-- A result moves the lines from some number on by the lines that it put in. -/
theorem Placed.carry_ofNat (placed : Placed (result :: results)) :
    ∃ index, ∀ line, line + result.outcome.lineCount ≤ Number.exactBound →
      result.outcome.carry (Number.ofNat line) =
        Number.ofNat (if index < line then line + result.outcome.lineCount else line) := by
  cases outcome : result.outcome with
  | applied insertion =>
    obtain ⟨-, index, place⟩ := placed result List.mem_cons_self insertion outcome
    refine ⟨index, fun line small => ?_⟩
    rw [Outcome.carry, Insertion.shift, place]
    exact Shift.move_ofNat_of_le small
  | failed reason => exact ⟨0, fun line _ => by simp [Outcome.carry, Outcome.lineCount]⟩
  | skipped reason => exact ⟨0, fun line _ => by simp [Outcome.carry, Outcome.lineCount]⟩

/-- An insertion below a line does not move it. -/
theorem Outcome.carry_of_below {outcome : Outcome} {line : Number}
    (below : ∀ insertion, outcome = .applied insertion → ¬insertion.index ≤ line - 1) :
    outcome.carry line = line := by
  cases outcome with
  | applied insertion => exact if_neg (below insertion rfl)
  | failed reason => rfl
  | skipped reason => rfl

/-- A line that is not disturbed is where the insertions under its own name carry it. -/
theorem Undisturbed.carried_eq {line : Number}
    (undisturbed : Undisturbed folder name results line) :
    carried (resultsAt folder name results) line = carried (resultsOf name results) line := by
  induction results generalizing line with
  | nil => rfl
  | cons result results ih =>
    obtain ⟨first, rest⟩ := undisturbed_cons.mp undisturbed
    have here := ih rest
    by_cases spelled : result.issue.path = name
    · simp only [spelled, if_true] at here
      simpa [resultsAt, resultsOf, spelled] using here
    · by_cases same : Path.resolve folder result.issue.path = Path.resolve folder name
      · have still : result.outcome.carry line = line :=
          Outcome.carry_of_below fun insertion applied => first insertion applied same spelled
        simp only [if_pos same, still] at here
        simpa [resultsAt, resultsOf, spelled, same, still] using here
      · simp only [if_neg same] at here
        simpa [resultsAt, resultsOf, spelled, same] using here

/-- Lines that are apart stay apart: the insertions under one name carry the upper one no further than
all insertions into the file carry the lower one. -/
theorem carried_lt (folder : Path) (name : String) {upper lower : Nat} (placed : Placed results)
    (le : upper ≤ lower)
    (small : lower + lineTotal (resultsAt folder name results) ≤ Number.exactBound) :
    ∃ first second, carried (resultsOf name results) (Number.ofNat upper) = Number.ofNat first ∧
      carried (resultsAt folder name results) (Number.ofNat lower) = Number.ofNat second ∧
      second ≤ Number.exactBound ∧ first ≤ second ∧ (upper < lower → first < second) := by
  induction results generalizing upper lower with
  | nil => exact ⟨upper, lower, rfl, rfl, small, le, id⟩
  | cons result results ih =>
    obtain ⟨index, carry⟩ := placed.carry_ofNat
    by_cases same : Path.resolve folder result.issue.path = Path.resolve folder name
    · rw [resultsAt_cons_of_same _ same] at small ⊢
      rw [lineTotal_cons] at small
      by_cases spelled : result.issue.path = name
      · have closer : (if index < upper then upper + result.outcome.lineCount else upper) ≤
            if index < lower then lower + result.outcome.lineCount else lower := by
          split <;> split <;> omega
        obtain ⟨first, second, up, low, bound, ordered, strict⟩ :=
          ih placed.tail closer (by split <;> omega)
        refine ⟨first, second, ?_, ?_, bound, ordered, fun lt => strict ?_⟩
        · simpa [resultsOf, spelled, carry upper (by omega)] using up
        · simpa [carry lower (by omega)] using low
        · split <;> split <;> omega
      · have closer : upper ≤ if index < lower then lower + result.outcome.lineCount else lower := by
          split <;> omega
        obtain ⟨first, second, up, low, bound, ordered, strict⟩ :=
          ih placed.tail closer (by split <;> omega)
        refine ⟨first, second, ?_, ?_, bound, ordered, fun lt => strict ?_⟩
        · simpa [resultsOf, spelled] using up
        · simpa [carry lower (by omega)] using low
        · split <;> omega
    · have spelled : result.issue.path ≠ name := fun named => same (by rw [named])
      rw [resultsAt_cons_of_other _ same] at small ⊢
      obtain ⟨first, second, up, rest⟩ := ih placed.tail le small
      refine ⟨first, second, ?_, rest⟩
      simpa [resultsOf, spelled] using up

/-- An insertion under another name that moves a line leaves it behind for good: the insertions under its
own name can no longer carry it to where all insertions into the file do. -/
theorem not_le_of_carried_eq {line : Nat} {insertion : Insertion}
    (placed : Placed (result :: results)) (applied : result.outcome = .applied insertion)
    (same : Path.resolve folder result.issue.path = Path.resolve folder name)
    (other : result.issue.path ≠ name)
    (small : line + lineTotal (resultsAt folder name (result :: results)) ≤ Number.exactBound)
    (equal : carried (resultsAt folder name (result :: results)) (Number.ofNat line) =
      carried (resultsOf name (result :: results)) (Number.ofNat line)) :
    ¬insertion.index ≤ Number.ofNat line - 1 := by
  intro reaches
  have count : 0 < insertion.lines.length :=
    List.length_pos_iff.mpr (placed result List.mem_cons_self insertion applied).1
  rw [resultsAt_cons_of_same _ same] at small equal
  rw [lineTotal_cons, applied, Outcome.lineCount] at small
  have moved : result.outcome.carry (Number.ofNat line) =
      Number.ofNat (line + insertion.lines.length) := by
    rw [applied]
    exact (if_pos reaches).trans (Number.ofNat_add (n := insertion.lines.length) (by omega) (by omega))
  obtain ⟨up, low, upper, lower, bound, ordered, strict⟩ :=
    carried_lt folder name placed.tail (Nat.le_add_right line insertion.lines.length) (by omega)
  have together : Number.ofNat low = Number.ofNat up := by
    rw [← lower, ← upper]
    simpa [resultsOf, other, moved] using equal
  have value := congrArg Number.toNat? together
  rw [Number.toNat?_ofNat bound, Number.toNat?_ofNat (Nat.le_trans ordered bound)] at value
  have apart := strict (by omega)
  exact absurd (Option.some.inj value) (by omega)

/-- Only an undisturbed line is where the insertions under its own name carry it, as long as lines are
counted exactly. -/
theorem undisturbed_of_carried_eq {line : Nat} (placed : Placed results)
    (small : line + lineTotal (resultsAt folder name results) ≤ Number.exactBound)
    (equal : carried (resultsAt folder name results) (Number.ofNat line) =
      carried (resultsOf name results) (Number.ofNat line)) :
    Undisturbed folder name results (Number.ofNat line) := by
  induction results generalizing line with
  | nil => exact fun earlier result later insertion parts => absurd parts (by simp)
  | cons result results ih =>
    rw [undisturbed_cons]
    by_cases same : Path.resolve folder result.issue.path = Path.resolve folder name
    · by_cases spelled : result.issue.path = name
      · obtain ⟨index, carry⟩ := placed.carry_ofNat
        rw [resultsAt_cons_of_same _ same] at small equal
        rw [lineTotal_cons] at small
        have here := carry line (by omega)
        refine ⟨fun _ _ _ other => absurd spelled other, ?_⟩
        rw [if_pos same, here]
        refine ih placed.tail (by split <;> omega) ?_
        simpa [resultsOf, spelled, here] using equal
      · have first : ∀ insertion, result.outcome = .applied insertion →
            ¬insertion.index ≤ Number.ofNat line - 1 := fun insertion applied =>
          not_le_of_carried_eq placed applied same spelled small equal
        have still : result.outcome.carry (Number.ofNat line) = Number.ofNat line :=
          Outcome.carry_of_below first
        rw [resultsAt_cons_of_same _ same] at small equal
        rw [lineTotal_cons] at small
        refine ⟨fun insertion applied _ _ => first insertion applied, ?_⟩
        rw [if_pos same, still]
        refine ih placed.tail (by omega) ?_
        simpa [resultsOf, spelled, still] using equal
    · have spelled : result.issue.path ≠ name := fun named => same (by rw [named])
      rw [resultsAt_cons_of_other _ same] at small equal
      refine ⟨fun _ _ here => absurd here same, ?_⟩
      rw [if_neg same]
      refine ih placed.tail small ?_
      simpa [resultsOf, spelled] using equal

end Lines

section Runs

variable {σ : Type} [FileStore (StateM σ)] {state after : σ} {options : Plan.Options}
  {session next : Session} {issue : Issue} {done issues : List Issue}

/-- What the record of a session knows of its results. -/
structure Recorded (done : List Issue) (session : Session) : Prop where
  issues : session.results.map Result.issue = done
  resolve : ∀ name line,
    session.drift.resolve name line = carried (resultsOf name session.results) line
  placed : Placed session.results

theorem Recorded.start : Recorded [] {} where
  issues := rfl
  resolve := fun _ _ => rfl
  placed := fun _ mem => absurd mem List.not_mem_nil

/-- One more repair gives one more result. It carries the lines under the name in its issue and no others,
and an insertion that it makes has lines and a place. -/
theorem resolve_of_step (ends : performFrom state (step options session issue) = (.ok next, after)) :
    ∃ shape outcome, next.results = session.results ++ [⟨issue, shape, outcome⟩] ∧
      (∀ insertion, outcome = .applied insertion →
        insertion.lines ≠ [] ∧ ∃ index, insertion.index = Number.ofNat index) ∧
      ∀ name line, next.drift.resolve name line =
        if issue.path = name then outcome.carry (session.drift.resolve name line)
        else session.drift.resolve name line := by
  obtain ⟨shape, outcome, results, drift⟩ := step_ok ends
  refine ⟨shape, outcome, results, ?_⟩
  cases outcome with
  | skipped reason =>
    have same : next.drift = session.drift := drift
    exact ⟨by simp, fun name line => by simp [same, Outcome.carry]⟩
  | failed reason =>
    have same : next.drift = session.drift := drift
    exact ⟨by simp, fun name line => by simp [same, Outcome.carry]⟩
  | applied insertion =>
    obtain ⟨noted, remedy, text, plan⟩ := drift
    refine ⟨fun chosen applied => ?_, fun name line => ?_⟩
    · obtain rfl := Outcome.applied.inj applied
      obtain ⟨index, -, place⟩ := Plan.ofRemedy_inside plan
      exact ⟨Plan.ofRemedy_lines_ne_nil plan, index, place⟩
    · by_cases here : issue.path = name
      · subst here
        rw [if_pos rfl, noted, Drift.resolve_record]
        rfl
      · rw [if_neg here, noted, Drift.resolve, Drift.resolve, Drift.shifts_record, if_neg here,
          List.append_nil]

/-- One more repair: its result is on record under the name in its issue. -/
theorem Recorded.step (recorded : Recorded done session)
    (ends : performFrom state (step options session issue) = (.ok next, after)) :
    Recorded (done ++ [issue]) next := by
  obtain ⟨shape, outcome, results, placed, carries⟩ := resolve_of_step ends
  refine ⟨?_, fun name line => ?_, fun result mem => ?_⟩
  · rw [results, List.map_append, recorded.issues, List.map_singleton]
  · rw [carries, results, recorded.resolve]
    by_cases here : issue.path = name <;> simp [resultsOf, carried, here]
  · rw [results] at mem
    rcases List.mem_append.mp mem with old | new
    · exact recorded.placed result old
    · obtain rfl := List.mem_singleton.mp new
      exact placed

theorem Recorded.steps (recorded : Recorded done session)
    (ends : performFrom state (steps options session issues) = (.ok next, after)) :
    Recorded (done ++ issues) next := by
  induction issues generalizing done session state with
  | nil =>
    obtain rfl := Except.ok.inj (Prod.mk.inj ends).1
    rwa [List.append_nil]
  | cons issue issues ih =>
    obtain ⟨following, mid, first, rest⟩ := performFrom_bind_ok ends
    have whole := ih (recorded.step first) rest
    rwa [List.append_assoc] at whole

end Runs

/-- The line that is handed to the plan for an issue is the reported one, carried through the earlier
insertions under the very name in the issue. It is where all earlier insertions into the same file carry
it exactly if none of those under another name stood at its place or above it. Equality needs no bound
in one direction, and exact counting in the other. -/
theorem handed_line_iff_undisturbed {dedupe : Bool} {output : String} {options : Plan.Options}
    {tree mid : WorkingTree} {earlier later : List Issue} {issue : Issue} {session : Session}
    (parsed : Diagnostic.collect dedupe output = earlier ++ issue :: later)
    (ran : performFrom tree (steps options {} earlier) = (.ok session, mid)) :
    session.results.map Result.issue = earlier ∧
    (session.current issue).line = carried (resultsOf issue.path session.results) issue.line ∧
    (Undisturbed tree.folder issue.path session.results issue.line →
      (session.current issue).line =
        carried (resultsAt tree.folder issue.path session.results) issue.line) ∧
    ∃ line, issue.line = Number.ofNat line ∧
      (line + lineTotal (resultsAt tree.folder issue.path session.results) ≤ Number.exactBound →
        ((session.current issue).line =
            carried (resultsAt tree.folder issue.path session.results) issue.line ↔
          Undisturbed tree.folder issue.path session.results issue.line)) := by
  have recorded := Recorded.start.steps ran
  have handed := recorded.resolve issue.path issue.line
  have member : issue ∈ Diagnostic.collect dedupe output := by simp [parsed]
  obtain ⟨line, number⟩ := (Diagnostic.collect_wellFormed member).1
  refine ⟨recorded.issues, handed, fun undisturbed => ?_, line, number, fun small => ⟨?_, ?_⟩⟩
  · exact handed.trans undisturbed.carried_eq.symm
  · intro equal
    have same := equal.symm.trans handed
    rw [number] at same ⊢
    exact undisturbed_of_carried_eq recorded.placed small same
  · exact fun undisturbed => handed.trans undisturbed.carried_eq.symm

/-- Two methods in one file, the lower one reported first and under another name: the upper one has not
moved. -/
theorem handed_line_iff_undisturbed_below :
    let output := "./A.java:6: warning: no @return\nA.java:3: warning: no @return\n"
    let text := "/**\n */\nint f();\n/**\n */\nint g();\n"
    let tree : WorkingTree := ⟨{ files := [(["A.java"], Text.Utf8.encode text.toList)] }, []⟩
    ∃ lower upper session mid, Diagnostic.collect true output = [lower] ++ upper :: [] ∧
      performFrom tree (steps {} {} [lower]) = (.ok session, mid) ∧
      lower.path ≠ upper.path ∧ tree.path lower.path = tree.path upper.path ∧
      lineTotal (resultsAt tree.folder upper.path session.results) = 1 ∧
      (session.current upper).line =
        carried (resultsAt tree.folder upper.path session.results) upper.line := by
  intro output text tree
  let lower : Issue := ⟨"./A.java", Number.ofNat 6, "warning: no @return"⟩
  let upper : Issue := ⟨"A.java", Number.ofNat 3, "warning: no @return"⟩
  let insertion : Insertion := ⟨Number.ofNat 4, [" * @return the result of the operation"]⟩
  let session : Session :=
    ⟨Drift.record {} "./A.java" insertion, [⟨lower, some .missingReturn, .applied insertion⟩]⟩
  have parsed : Diagnostic.collect true output = [lower] ++ upper :: [] := by decide +kernel
  have ran : (performFrom tree (steps {} {} [lower])).1 = .ok session := by decide +kernel
  obtain ⟨-, -, enough, -⟩ := handed_line_iff_undisturbed parsed (Prod.ext ran rfl)
  have undisturbed : Undisturbed tree.folder upper.path session.results upper.line := by
    rw [undisturbed_cons]
    refine ⟨?_, fun earlier result later insertion parts => absurd parts (by simp)⟩
    intro chosen same
    obtain rfl := Outcome.applied.inj same
    intro _ _
    decide +kernel
  exact ⟨lower, upper, session, _, parsed, Prod.ext ran rfl, by decide, by decide +kernel,
    by decide +kernel, enough undisturbed⟩

/-- Two methods in one file, the upper one reported first and under another name: the line handed to the
second plan is one too small, and its tag goes into the comment of the upper method. -/
theorem handed_line_behind :
    let output := "A.java:3: warning: no @return\n./A.java:6: warning: no @return\n"
    let text := "/**\n */\nint f();\n/**\n */\nint g();\n"
    let tag := " * @return the result of the operation"
    let tree : WorkingTree := ⟨{ files := [(["A.java"], Text.Utf8.encode text.toList)] }, []⟩
    ∃ upper lower session mid next, Diagnostic.collect true output = [upper] ++ lower :: [] ∧
      performFrom tree (steps {} {} [upper]) = (.ok session, mid) ∧
      tree.path upper.path = tree.path lower.path ∧
      (session.current lower).line = Number.ofNat 6 ∧
      carried (resultsAt tree.folder lower.path session.results) lower.line = Number.ofNat 7 ∧
      (performFrom mid (step {} session lower)).1 = .ok next ∧
      next.results.map Result.outcome =
        [.applied ⟨Number.ofNat 1, [tag]⟩, .applied ⟨Number.ofNat 2, [tag]⟩] := by
  intro output text tag tree
  let upper : Issue := ⟨"A.java", Number.ofNat 3, "warning: no @return"⟩
  let lower : Issue := ⟨"./A.java", Number.ofNat 6, "warning: no @return"⟩
  let first : Insertion := ⟨Number.ofNat 1, [tag]⟩
  let second : Insertion := ⟨Number.ofNat 2, [tag]⟩
  let session : Session :=
    ⟨Drift.record {} "A.java" first, [⟨upper, some .missingReturn, .applied first⟩]⟩
  let next : Session :=
    ⟨session.drift.record "./A.java" second,
      session.results ++ [⟨lower, some .missingReturn, .applied second⟩]⟩
  let grown := "/**\n" ++ tag ++ "\n */\nint f();\n/**\n */\nint g();\n"
  let mid : WorkingTree := ⟨{ files := [(["A.java"], Text.Utf8.encode grown.toList)] }, []⟩
  have ran : performFrom tree (steps {} {} [upper]) = (.ok session, mid) := by decide +kernel
  exact ⟨upper, lower, session, mid, next, by decide +kernel, ran, by decide +kernel,
    by decide +kernel, by decide +kernel, by decide +kernel, rfl⟩

end DocMend.Repair
