import DocMend.Repair.Run
/-!
Effects of repairs in any place that keeps files as part of a state. A repair that is applied has read
its file, planned an insertion for what was read, carried it out and written the file back.
-/

set_option autoImplicit false
set_option relaxedAutoImplicit false

namespace DocMend.Repair

variable {σ α β : Type}

/-- What an effect gives from a state on, and the state that it leaves behind. -/
def performFrom (state : σ) (effect : ExceptT IndexError (StateM σ) α) : Except IndexError α × σ :=
  effect state

theorem performFrom_pure (state : σ) (a : α) : performFrom state (pure a) = (.ok a, state) :=
  rfl

theorem performFrom_throw (state : σ) (e : IndexError) :
    performFrom state (throw e : ExceptT IndexError (StateM σ) α) = (.error e, state) :=
  rfl

/-- An effect that gives a value has come through both of its parts. -/
theorem performFrom_bind_ok {state after : σ} {effect : ExceptT IndexError (StateM σ) α}
    {next : α → ExceptT IndexError (StateM σ) β} {b : β}
    (done : performFrom state (effect >>= next) = (.ok b, after)) :
    ∃ a mid, performFrom state effect = (.ok a, mid) ∧
      performFrom mid (next a) = (.ok b, after) := by
  simp only [performFrom, bind, ExceptT.bind, ExceptT.mk, StateT.bind] at done
  rcases first : effect state with ⟨_ | a, mid⟩
  · rw [first] at done
    exact absurd (Prod.mk.inj done).1 (by simp)
  · rw [first] at done
    exact ⟨a, mid, first, done⟩

section Files

variable [FileStore (StateM σ)] {state after : σ} {path : String} {insertion : Insertion}

private theorem load_ok {source : Source}
    (done : (load path : StateM σ (Except Failure Source)) state = (.ok source, after)) :
    ∃ text, (FileStore.read path : StateM σ (Except String String)) state = (.ok text, after) ∧
      source = Source.ofText text := by
  simp only [load, bind, StateT.bind] at done
  rcases read : (FileStore.read path : StateM σ (Except String String)) state with
    ⟨detail | text, later⟩
  · rw [read] at done
    exact absurd (Prod.mk.inj done).1 (by simp)
  · rw [read] at done
    obtain ⟨same, rfl⟩ := Prod.mk.inj done
    exact ⟨text, rfl, (Except.ok.inj same).symm⟩

private theorem save_ok {source : Source}
    (done : (save path source : StateM σ (Except Failure Unit)) state = (.ok (), after)) :
    (FileStore.write path source.text : StateM σ (Except String Unit)) state = (.ok (), after) := by
  simp only [save, bind, StateT.bind] at done
  rcases written : (FileStore.write path source.text : StateM σ (Except String Unit)) state with
    ⟨detail | _, later⟩
  · rw [written] at done
    exact absurd (Prod.mk.inj done).1 (by simp)
  · rw [written] at done
    obtain ⟨-, rfl⟩ := Prod.mk.inj done
    rfl

/-- A plan that was applied fits what was read, and what it makes of that was written. -/
theorem applyPlan_ok {plan : Source → Except Failure Insertion}
    (done : performFrom state (applyPlan path plan) = (.ok (.ok insertion), after)) :
    ∃ text mid patched,
      (FileStore.read path : StateM σ (Except String String)) state = (.ok text, mid) ∧
      plan (Source.ofText text) = .ok insertion ∧
      (Source.ofText text).insert insertion = .ok patched ∧
      (FileStore.write path patched.text : StateM σ (Except String Unit)) mid = (.ok (), after) := by
  obtain ⟨loaded, mid, first, rest⟩ := performFrom_bind_ok done
  cases loaded with
  | error failure => exact absurd (congrArg Prod.fst rest) (by simp [performFrom_pure])
  | ok source =>
    obtain ⟨loaded, same⟩ := Prod.mk.inj first
    obtain ⟨text, read, rfl⟩ := load_ok (Prod.ext (Except.ok.inj loaded) same)
    cases planned : plan (Source.ofText text) with
    | error failure =>
      simp only [planned, performFrom_pure] at rest
      exact absurd (congrArg Prod.fst rest) (by simp)
    | ok chosen =>
      cases inserted : (Source.ofText text).insert chosen with
      | error e =>
        simp only [planned, inserted, performFrom_throw] at rest
        exact absurd (congrArg Prod.fst rest) (by simp)
      | ok patched =>
        simp only [planned, inserted] at rest
        obtain ⟨saved, late, second, last⟩ := performFrom_bind_ok rest
        cases saved with
        | error failure => exact absurd (congrArg Prod.fst last) (by simp [performFrom_pure])
        | ok _ =>
          obtain ⟨same, rfl⟩ := Prod.mk.inj last
          obtain rfl := Except.ok.inj (Except.ok.inj same)
          obtain ⟨saved, same⟩ := Prod.mk.inj second
          exact ⟨text, mid, patched, read, planned, inserted,
            save_ok (Prod.ext (Except.ok.inj saved) same)⟩

/-- A repair with an applied result has applied the plan of a remedy. -/
theorem step_applied {options : Plan.Options} {session next : Session} {issue : Issue}
    {shape : Option Shape} (done : performFrom state (step options session issue) = (.ok next, after))
    (applied : next.results = session.results ++ [⟨issue, shape, .applied insertion⟩]) :
    ∃ remedy, Remedy.forMessage? issue.message = some remedy ∧
      performFrom state (applyPlan issue.path fun source =>
        Plan.ofRemedy remedy (session.current issue) source options) =
          (.ok (.ok insertion), after) := by
  cases fit : Remedy.forMessage? issue.message with
  | none =>
    simp only [step, fit, performFrom_pure] at done
    obtain rfl := Except.ok.inj (Prod.mk.inj done).1
    exact absurd (List.append_cancel_left applied) (by simp)
  | some remedy =>
    refine ⟨remedy, rfl, ?_⟩
    simp only [step, fit] at done
    obtain ⟨outcome, mid, planned, rest⟩ := performFrom_bind_ok done
    cases outcome with
    | error failure =>
      obtain rfl := Except.ok.inj (Prod.mk.inj rest).1
      exact absurd (List.append_cancel_left applied) (by simp)
    | ok chosen =>
      obtain ⟨same, rfl⟩ := Prod.mk.inj rest
      obtain rfl := Except.ok.inj same
      have last := List.append_cancel_left applied
      simp only [List.cons.injEq, Result.mk.injEq, Outcome.applied.injEq, and_true] at last
      rw [planned, last.2.2]

/-- A repair that ends adds one result. An applied one was planned for lines that were read and is on
record for its file; any other leaves the record alone. -/
theorem step_ok {options : Plan.Options} {session next : Session} {issue : Issue}
    (done : performFrom state (step options session issue) = (.ok next, after)) :
    ∃ shape outcome, next.results = session.results ++ [⟨issue, shape, outcome⟩] ∧
      match outcome with
      | .applied insertion =>
        next.drift = session.drift.record issue.path insertion ∧ ∃ remedy text,
          Plan.ofRemedy remedy (session.current issue) (Source.ofText text) options = .ok insertion
      | _ => next.drift = session.drift := by
  cases fit : Remedy.forMessage? issue.message with
  | none =>
    simp only [step, fit, performFrom_pure] at done
    obtain rfl := Except.ok.inj (Prod.mk.inj done).1
    exact ⟨none, .skipped noRemedy, rfl, rfl⟩
  | some remedy =>
    simp only [step, fit] at done
    obtain ⟨planned, mid, first, rest⟩ := performFrom_bind_ok done
    cases planned with
    | error failure =>
      obtain rfl := Except.ok.inj (Prod.mk.inj rest).1
      exact ⟨some remedy.shape, .failed failure.reason, rfl, rfl⟩
    | ok insertion =>
      obtain rfl := Except.ok.inj (Prod.mk.inj rest).1
      obtain ⟨text, -, -, -, plan, -, -⟩ := applyPlan_ok first
      exact ⟨some remedy.shape, .applied insertion, rfl, rfl, remedy, text, plan⟩

end Files

end DocMend.Repair
