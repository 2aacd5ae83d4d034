import DocMend.Proofs.Repair.Account
/-!
The trace of a run, from its first report to its last. Reports, calls of the linter and accesses to files
come in one fixed order: an opening without accesses, one turn for each result, in which the accesses of
the repair stand before its report, and a closing without accesses.
-/

set_option autoImplicit false
set_option relaxedAutoImplicit false

namespace DocMend.Repair

/-- The warnings that a look of the linter gives: one where it could not be run, else none. -/
def warnings : Except String String → List Event
  | .ok _ => []
  | .error detail => [.warning ("diagnostics command failed: " ++ detail)]

/-- What a look of the linter leaves on a trace. -/
def lookTrace (pass : Except String String) : List Activity :=
  .diagnosed :: (warnings pass).map Activity.reported

/-- What a run leaves on a trace before its first repair, where so many issues were found. -/
def openingTrace (pass : Except String String) (found : Nat) : List Activity :=
  [.reported (.phase .idle none), .reported (.phase .collecting none)] ++ lookTrace pass ++
    [.reported (.phase .fixing (some ("(" ++ toString found ++ " issues)")))]

/-- What a run leaves on a trace after its last repair. -/
def closingTrace (pass : Except String String) (tally : Tally) : List Activity :=
  [.reported (.phase .verifying none)] ++ lookTrace pass ++
    [.reported (.summary tally), .reported (.phase .done none)]

/-- Whether an activity reaches a file. -/
def Activity.isAccess : Activity → Bool
  | .read _ => true
  | .write _ _ => true
  | _ => false

/-- The accesses of one repair, by its result: none where the issue is passed over, one attempt to read
and an accepted write where an insertion is applied, and for a failure an attempt to read that may be
followed by a refused write. -/
inductive Accesses (result : Result) : List Activity → Prop
  | skipped {reason : String} (outcome : result.outcome = .skipped reason) : Accesses result []
  | unwritten {reason : String} (outcome : result.outcome = .failed reason) :
      Accesses result [.read result.issue.path]
  | refused {reason : String} (outcome : result.outcome = .failed reason) :
      Accesses result [.read result.issue.path, .write result.issue.path false]
  | written {insertion : Insertion} (outcome : result.outcome = .applied insertion) :
      Accesses result [.read result.issue.path, .write result.issue.path true]

/-- One turn for each result: the accesses of its repair and then its report. -/
inductive Turns : List Result → List Activity → Prop
  | nil : Turns [] []
  | cons {result : Result} {results : List Result} {accesses trace : List Activity}
      (here : Accesses result accesses) (further : Turns results trace) :
      Turns (result :: results) (accesses ++ .reported (.result result) :: trace)

/-- The reports on a trace, in order. -/
def reportsOn (trace : List Activity) : List Event :=
  ({ files := [], trace := trace } : Memory).events

theorem Memory.events_eq (memory : Memory) : memory.events = reportsOn memory.trace :=
  rfl

@[simp]
theorem reportsOn_nil : reportsOn [] = [] :=
  rfl

@[simp]
theorem reportsOn_append (first second : List Activity) :
    reportsOn (first ++ second) = reportsOn first ++ reportsOn second :=
  List.filterMap_append

@[simp]
theorem reportsOn_reported (event : Event) (trace : List Activity) :
    reportsOn (.reported event :: trace) = event :: reportsOn trace :=
  rfl

theorem reportsOn_map_reported (events : List Event) :
    reportsOn (events.map Activity.reported) = events := by
  induction events with
  | nil => rfl
  | cons event events ih => rw [List.map_cons, reportsOn_reported, ih]

/-- A look reports its warnings only. -/
theorem reportsOn_lookTrace (pass : Except String String) :
    reportsOn (lookTrace pass) = warnings pass :=
  reportsOn_map_reported (warnings pass)

/-- A look reaches no file. -/
theorem isAccess_of_mem_lookTrace {pass : Except String String} {activity : Activity}
    (mem : activity ∈ lookTrace pass) : activity.isAccess = false := by
  rw [lookTrace, List.mem_cons, List.mem_map] at mem
  rcases mem with rfl | ⟨event, -, rfl⟩
  · rfl
  · rfl

/-- Neither the opening nor the closing reaches a file. -/
theorem isAccess_of_mem_frame {first second : Except String String} {found : Nat} {tally : Tally}
    {activity : Activity} (mem : activity ∈ openingTrace first found ++ closingTrace second tally) :
    activity.isAccess = false := by
  simp only [openingTrace, closingTrace, List.mem_append, List.mem_cons, List.not_mem_nil,
    or_false] at mem
  rcases mem with (((rfl | rfl) | look) | rfl) | (rfl | look) | rfl | rfl
  case' inl.inl.inr => exact isAccess_of_mem_lookTrace look
  case' inr.inl.inr => exact isAccess_of_mem_lookTrace look
  all_goals rfl

/-- No access is a report. -/
theorem Accesses.reportsOn_eq {result : Result} {accesses : List Activity}
    (here : Accesses result accesses) : reportsOn accesses = [] := by
  cases here <;> rfl

/-- Turns report their results, each once and in order. -/
theorem Turns.reportsOn_eq {results : List Result} {trace : List Activity}
    (turns : Turns results trace) : reportsOn trace = results.map Event.result := by
  induction turns with
  | nil => rfl
  | cons here further ih =>
    rw [reportsOn_append, here.reportsOn_eq, reportsOn_reported, ih, List.nil_append, List.map_cons]

variable {options : Plan.Options} {issue : Issue} {session next : Session} {memory after : Memory}

/-- A repair leaves nothing but its accesses on the trace. -/
theorem Stepped.accesses (stepped : Stepped options issue session memory (.ok next, after))
    {result : Result} (results : next.results = session.results ++ [result]) :
    ∃ accesses, Accesses result accesses ∧ after.trace = memory.trace ++ accesses := by
  cases stepped with
  | skipped =>
    obtain rfl := List.singleton_inj.mp (List.append_cancel_left results)
    exact ⟨[], .skipped rfl, (List.append_nil _).symm⟩
  | unread =>
    obtain rfl := List.singleton_inj.mp (List.append_cancel_left results)
    exact ⟨_, .unwritten rfl, rfl⟩
  | unplanned =>
    obtain rfl := List.singleton_inj.mp (List.append_cancel_left results)
    exact ⟨_, .unwritten rfl, rfl⟩
  | refused =>
    obtain rfl := List.singleton_inj.mp (List.append_cancel_left results)
    exact ⟨_, .refused rfl, List.append_assoc _ _ _⟩
  | applied =>
    obtain rfl := List.singleton_inj.mp (List.append_cancel_left results)
    exact ⟨_, .written rfl, List.append_assoc _ _ _⟩

/-- The repairs of a list of issues, each with its report, leave one turn for each new result. -/
theorem turns_of_repairs {issues : List Issue} {final : Session} {last : Memory}
    (ends : memory.perform (issues.foldlM (reportedStep options) session) = (.ok final, last)) :
    ∃ results turns, final.results = session.results ++ results ∧ Turns results turns ∧
      last.trace = memory.trace ++ turns := by
  induction issues generalizing session memory with
  | nil =>
    obtain ⟨same, rfl⟩ := Prod.mk.inj ends
    obtain rfl := Except.ok.inj same
    exact ⟨[], [], (List.append_nil _).symm, .nil, (List.append_nil _).symm⟩
  | cons issue issues ih =>
    obtain ⟨next, after, shape, outcome, stepped, added, more⟩ := reported_cons ends
    obtain ⟨accesses, here, noted⟩ := stepped.accesses added
    obtain ⟨results, turns, rest, further, trace⟩ := ih more
    refine ⟨_, _, ?_, .cons here further, ?_⟩
    · rw [rest, added, List.append_assoc, List.singleton_append]
    · rw [trace, Memory.note, noted]
      simp only [List.append_assoc, List.singleton_append]

namespace Memory

theorem trace_look (memory : Memory) :
    memory.look.trace = memory.trace ++ lookTrace memory.pass := by
  rw [look, lookTrace]
  cases memory.pass with
  | ok text => rfl
  | error detail => simp [note, warnings]

theorem trace_opened (memory : Memory) (dedupe : Bool) :
    (memory.opened dedupe).trace = memory.trace ++
      openingTrace memory.pass ((memory.found? dedupe).getD []).length := by
  have found : ((memory.note (.reported (.phase .idle none))).note
      (.reported (.phase .collecting none))).found? dedupe = memory.found? dedupe := by
    rw [found?, found?, pass_opening]
  simp only [opened, found]
  change (look _).trace ++ [_] = _
  rw [trace_look, pass_opening]
  simp [openingTrace, note]

theorem trace_closed (memory : Memory) (tally : Tally) :
    (memory.closed tally).trace =
      memory.trace ++ closingTrace memory.verifying.pass tally := by
  simp [closed, note, trace_look, verifying, closingTrace, List.append_assoc]

end Memory

/-- A run that ends has left an opening, one turn for each of its results and a closing. The closing is
that of a second look, one call of the linter later. -/
theorem turns_of_run {options : RunOptions} {tally : Tally}
    (ends : memory.perform (run options) = (.ok tally, after)) :
    ∃ (turns : List Activity) (last : Memory), Turns tally.results turns ∧
      tally.results.map Result.issue = (memory.found? options.dedupe).getD [] ∧
      last.calls = memory.calls + 1 ∧ last.passes = memory.passes ∧
      after.trace = memory.trace ++
        openingTrace memory.pass ((memory.found? options.dedupe).getD []).length ++ turns ++
          closingTrace last.verifying.pass tally := by
  obtain ⟨session, last, repaired, rfl, closed⟩ := Memory.repairs_of_run ends
  have accounted := Accounted.run repaired (.refl _)
  obtain ⟨added, turns, whole, further, trace⟩ := turns_of_repairs repaired
  obtain rfl : session.results = added := whole
  refine ⟨turns, last, further, accounted.issues, ?_, ?_, ?_⟩
  · rw [accounted.calls, Memory.calls_opened]
  · rw [accounted.passes, Memory.passes_opened]
  · rw [closed, Memory.trace_closed, trace, Memory.trace_opened]

end DocMend.Repair
