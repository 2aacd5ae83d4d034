import DocMend.Repair.Memory
/-!
One repair in a workspace in memory, in every way that it can go. Whoever reasons about steps splits
the cases of `Stepped` and does not look into the effects again.
-/

set_option autoImplicit false
set_option relaxedAutoImplicit false

namespace DocMend.Repair

namespace Memory

/-- What an effect gives from a memory on, and the memory that it leaves behind. -/
def perform {α : Type} (memory : Memory) (effect : ExceptT IndexError (StateM Memory) α) :
    Except IndexError α × Memory :=
  effect memory

variable {α β : Type} (memory : Memory)

theorem perform_pure (a : α) : memory.perform (pure a) = (.ok a, memory) :=
  rfl

theorem perform_lift (effect : StateM Memory α) :
    memory.perform (liftM effect : ExceptT IndexError (StateM Memory) α) =
      (.ok (effect memory).1, (effect memory).2) :=
  rfl

theorem perform_bind (effect : ExceptT IndexError (StateM Memory) α)
    (next : α → ExceptT IndexError (StateM Memory) β) :
    memory.perform (effect >>= next) =
      match memory.perform effect with
      | (.ok a, after) => after.perform (next a)
      | (.error e, after) => (.error e, after) := by
  simp only [perform, bind, ExceptT.bind, ExceptT.mk, StateT.bind]
  rcases effect memory with ⟨_ | a, after⟩
  · rfl
  · rfl

theorem load_eq (path : String) :
    (load path : StateM Memory (Except Failure Source)) memory =
      (match memory.files.lookup path with
        | some text => .ok (Source.ofText text)
        | none => .error (.inaccessible path .read missing),
        memory.note (.read path)) := by
  simp only [load, bind, StateT.bind, FileStore.read, read]
  cases memory.files.lookup path with
  | none => rfl
  | some text => rfl

theorem save_eq (path : String) (source : Source) :
    (save path source : StateM Memory (Except Failure Unit)) memory =
      if path ∈ memory.readOnly then
        (.error (.inaccessible path .write refused), memory.note (.write path false))
      else
        (.ok (), { memory with files := setEntry memory.files path source.text }.note
          (.write path true)) := by
  simp only [save, bind, StateT.bind, FileStore.write, write]
  split
  · rfl
  · rfl

end Memory

/-- What becomes of a session and a memory when one issue is repaired: no remedy, no file, no plan, a
plan that does not fit the file, a file that cannot be written, or an insertion. -/
inductive Stepped (options : Plan.Options) (issue : Issue) (session : Session) (memory : Memory) :
    Except IndexError Session × Memory → Prop
  | skipped (unfit : Remedy.forMessage? issue.message = none) :
      Stepped options issue session memory
        (.ok (session.conclude issue none (.skipped noRemedy)), memory)
  | unread {remedy : Remedy} (fit : Remedy.forMessage? issue.message = some remedy)
      (absent : memory.files.lookup issue.path = none) :
      Stepped options issue session memory
        (.ok (session.conclude issue (some remedy.shape)
          (.failed (Failure.inaccessible issue.path .read Memory.missing).reason)),
          memory.note (.read issue.path))
  | unplanned {remedy : Remedy} {text : String} {failure : Failure}
      (fit : Remedy.forMessage? issue.message = some remedy)
      (present : memory.files.lookup issue.path = some text)
      (plan : Plan.ofRemedy remedy (session.current issue) (Source.ofText text) options =
        .error failure) :
      Stepped options issue session memory
        (.ok (session.conclude issue (some remedy.shape) (.failed failure.reason)),
          memory.note (.read issue.path))
  | misplaced {remedy : Remedy} {text : String} {insertion : Insertion} {e : IndexError}
      (fit : Remedy.forMessage? issue.message = some remedy)
      (present : memory.files.lookup issue.path = some text)
      (plan : Plan.ofRemedy remedy (session.current issue) (Source.ofText text) options =
        .ok insertion)
      (outside : (Source.ofText text).insert insertion = .error e) :
      Stepped options issue session memory (.error e, memory.note (.read issue.path))
  | refused {remedy : Remedy} {text : String} {insertion : Insertion} {patched : Source}
      (fit : Remedy.forMessage? issue.message = some remedy)
      (present : memory.files.lookup issue.path = some text)
      (plan : Plan.ofRemedy remedy (session.current issue) (Source.ofText text) options =
        .ok insertion)
      (inside : (Source.ofText text).insert insertion = .ok patched)
      (closed : issue.path ∈ memory.readOnly) :
      Stepped options issue session memory
        (.ok (session.conclude issue (some remedy.shape)
          (.failed (Failure.inaccessible issue.path .write Memory.refused).reason)),
          (memory.note (.read issue.path)).note (.write issue.path false))
  | applied {remedy : Remedy} {text : String} {insertion : Insertion} {patched : Source}
      (fit : Remedy.forMessage? issue.message = some remedy)
      (present : memory.files.lookup issue.path = some text)
      (plan : Plan.ofRemedy remedy (session.current issue) (Source.ofText text) options =
        .ok insertion)
      (inside : (Source.ofText text).insert insertion = .ok patched)
      (opened : issue.path ∉ memory.readOnly) :
      Stepped options issue session memory
        (.ok { session.conclude issue (some remedy.shape) (.applied insertion) with
            drift := session.drift.record issue.path insertion },
          { memory.note (.read issue.path) with
            files := setEntry memory.files issue.path patched.text }.note
              (.write issue.path true))

/-- The cases of `Stepped` are all there are. -/
theorem stepped (options : Plan.Options) (issue : Issue) (session : Session) (memory : Memory) :
    Stepped options issue session memory (memory.perform (step options session issue)) := by
  cases fit : Remedy.forMessage? issue.message with
  | none =>
    simp only [step, fit, Memory.perform_pure]
    exact .skipped fit
  | some remedy =>
    simp only [step, fit, applyPlan, Memory.perform_bind, Memory.perform_lift, Memory.load_eq]
    cases present : memory.files.lookup issue.path with
    | none => exact .unread fit present
    | some text =>
      simp only
      cases plan : Plan.ofRemedy remedy (session.current issue) (Source.ofText text) options with
      | error failure => exact .unplanned fit present plan
      | ok insertion =>
        simp only
        cases inside : (Source.ofText text).insert insertion with
        | error e => exact .misplaced fit present plan inside
        | ok patched =>
          simp only [Memory.perform_bind, Memory.perform_lift, Memory.save_eq]
          by_cases closed : issue.path ∈ memory.readOnly
          · have still : issue.path ∈ (memory.note (.read issue.path)).readOnly := closed
            simp only [if_pos still]
            exact .refused fit present plan inside closed
          · have still : issue.path ∉ (memory.note (.read issue.path)).readOnly := closed
            simp only [if_neg still]
            exact .applied fit present plan inside closed

/-- A repair goes in no other way: every case of `Stepped` is what the step does there. -/
theorem Stepped.perform_eq {options : Plan.Options} {issue : Issue} {session : Session}
    {memory : Memory} {outcome : Except IndexError Session × Memory}
    (stepped : Stepped options issue session memory outcome) :
    memory.perform (step options session issue) = outcome := by
  cases stepped with
  | skipped unfit => simp only [step, unfit, Memory.perform_pure]
  | unread fit absent =>
    simp only [step, fit, applyPlan, Memory.perform_bind, Memory.perform_lift, Memory.load_eq,
      absent, Memory.perform_pure]
  | unplanned fit present plan =>
    simp only [step, fit, applyPlan, Memory.perform_bind, Memory.perform_lift, Memory.load_eq,
      present, plan, Memory.perform_pure]
  | misplaced fit present plan outside =>
    simp only [step, fit, applyPlan, Memory.perform_bind, Memory.perform_lift, Memory.load_eq,
      present, plan, outside]
    rfl
  | refused fit present plan inside closed =>
    have still : issue.path ∈ (memory.note (.read issue.path)).readOnly := closed
    simp only [step, fit, applyPlan, Memory.perform_bind, Memory.perform_lift, Memory.load_eq,
      present, plan, inside, Memory.save_eq, if_pos still, Memory.perform_pure]
  | applied fit present plan inside opened =>
    have still : issue.path ∉ (memory.note (.read issue.path)).readOnly := opened
    simp only [step, fit, applyPlan, Memory.perform_bind, Memory.perform_lift, Memory.load_eq,
      present, plan, inside, Memory.save_eq, if_neg still, Memory.perform_pure]
    rfl

/-- A repair adds one result, for the issue as it was reported. -/
theorem Stepped.results_eq {options : Plan.Options} {issue : Issue} {session next : Session}
    {memory after : Memory} (stepped : Stepped options issue session memory (.ok next, after)) :
    ∃ shape outcome, next.results = session.results ++ [⟨issue, shape, outcome⟩] := by
  cases stepped <;> exact ⟨_, _, rfl⟩

end DocMend.Repair
