import DocMend.Command.Run
import DocMend.Proofs.Repair.Bytes
/-!
What it takes to carry out a request. Whoever reasons about requests splits the cases of `Performed` and
does not look into the effects again. A run of repairs comes to its end whatever becomes of the single
repairs: the only error that could stop it is raised by a plan that does not fit the file it was made
for, and no plan is of that kind while the numbers of lines are exact.
-/

set_option autoImplicit false
set_option relaxedAutoImplicit false

namespace DocMend.Command

open Repair (Console FileStore Session Workspace)

namespace Host

variable {σ α β : Type}

/-- No file of the tree has more characters than can be counted exactly. A string is always shorter
than that. -/
def Fits (host : Host σ) : Prop :=
  ∀ name text, host.tree.read name = .ok text → text.length < Number.exactBound

theorem fits_of_files {host : Host σ}
    (small : ∀ entry ∈ host.tree.disk.files, entry.2.length < Number.exactBound) : host.Fits := by
  intro name text read
  rw [WorkingTree.read] at read
  cases found : host.tree.disk.read (host.tree.path name) with
  | error fault =>
    rw [found] at read
    cases read
  | ok bytes =>
    have bounded : bytes.length < Number.exactBound := by
      rcases Disk.mem_files_of_read found with rfl | file
      · decide
      · exact small _ file
    rw [found] at read
    obtain rfl := Except.ok.inj read
    rw [String.length_ofList]
    exact Nat.lt_of_le_of_lt (Text.Utf8.length_decode_le bytes) bounded

/-- What an effect gives from a host on, and the host that it leaves behind. -/
def perform (host : Host σ) (line : String) (effect : ExceptT IndexError (Linting σ) α) :
    Except IndexError α × Host σ :=
  effect.run line host

variable {host after : Host σ} {line : String} {e : IndexError}

theorem perform_lift (effect : Linting σ α) :
    host.perform line (liftM effect : ExceptT IndexError (Linting σ) α) =
      (.ok (effect line host).1, (effect line host).2) :=
  rfl

theorem perform_bind (effect : ExceptT IndexError (Linting σ) α)
    (next : α → ExceptT IndexError (Linting σ) β) :
    host.perform line (effect >>= next) =
      match host.perform line effect with
      | (.ok a, mid) => mid.perform line (next a)
      | (.error e, mid) => (.error e, mid) := by
  simp only [perform, ExceptT.run, bind, ExceptT.bind, ExceptT.mk, ReaderT.bind, StateT.bind]
  rcases effect line host with ⟨_ | a, mid⟩
  · rfl
  · rfl

/-- Whether an effect never stops with an error on a host whose files fit. -/
def Lasts (effect : ExceptT IndexError (Linting σ) α) : Prop :=
  ∀ (line : String) (host after : Host σ) (e : IndexError),
    host.perform line effect = (.error e, after) → ¬after.Fits

theorem lasts_pure (a : α) : Lasts (pure a : ExceptT IndexError (Linting σ) α) :=
  fun _ _ _ _ raised => nomatch (Prod.mk.inj raised).1

theorem lasts_lift (effect : Linting σ α) :
    Lasts (liftM effect : ExceptT IndexError (Linting σ) α) :=
  fun _ _ _ _ raised => nomatch (Prod.mk.inj raised).1

theorem lasts_bind {effect : ExceptT IndexError (Linting σ) α}
    {next : α → ExceptT IndexError (Linting σ) β} (first : Lasts effect)
    (second : ∀ a, Lasts (next a)) : Lasts (effect >>= next) := by
  intro line host after e raised
  rw [perform_bind] at raised
  rcases performed : host.perform line effect with ⟨e | a, mid⟩
  · rw [performed] at raised
    obtain ⟨same, rfl⟩ := Prod.mk.inj raised
    exact first line host mid e performed
  · rw [performed] at raised
    exact second a line mid after _ raised

/-- A chain of effects lasts if each of them does. -/
theorem lasts_foldlM {ι : Type} {next : β → ι → ExceptT IndexError (Linting σ) β}
    (lasts : ∀ state i, Lasts (next state i)) (indices : List ι) (state : β) :
    Lasts (indices.foldlM next state) := by
  induction indices generalizing state with
  | nil => exact lasts_pure state
  | cons i indices ih =>
    rw [List.foldlM_cons]
    exact lasts_bind (lasts state i) ih

theorem load_eq (path : String) :
    (Repair.load path : Linting σ (Except Failure Source)) line host =
      (match host.tree.read path with
        | .ok text => .ok (Source.ofText text)
        | .error fault => .error (.inaccessible path .read fault.detail), host) := by
  simp only [Repair.load, bind, ReaderT.bind, StateT.bind, FileStore.read]
  cases host.tree.read path with
  | error fault => rfl
  | ok text => rfl

/-- A plan that fits what it was made for raises no error. -/
theorem lasts_applyPlan (path : String) {plan : Source → Except Failure Insertion}
    (inside : ∀ source insertion, plan source = .ok insertion → ∃ index,
      index < source.lines.length ∧ insertion.index = Number.ofNat index) :
    Lasts (Repair.applyPlan path plan : ExceptT IndexError (Linting σ) _) := by
  intro line host after e raised fits
  rw [Repair.applyPlan, perform_bind, perform_lift, load_eq] at raised
  cases read : host.tree.read path with
  | error fault =>
    rw [read] at raised
    exact lasts_pure _ _ _ _ _ raised fits
  | ok text =>
    simp only [read] at raised
    cases planned : plan (Source.ofText text) with
    | error failure =>
      rw [planned] at raised
      exact lasts_pure _ _ _ _ _ raised fits
    | ok insertion =>
      simp only [planned] at raised
      obtain ⟨index, below, place⟩ := inside _ _ planned
      cases inserted : (Source.ofText text).insert insertion with
      | error e =>
        rw [inserted] at raised
        obtain ⟨-, rfl⟩ := Prod.mk.inj raised
        have small := Nat.le_of_lt (Nat.lt_of_le_of_lt (Source.size_ofText_le text) (fits _ _ read))
        have fit := Source.insert_ofNat below small insertion.lines
        rw [← place, inserted] at fit
        exact nomatch fit
      | ok patched =>
        rw [inserted] at raised
        refine lasts_bind (lasts_lift _) (fun saved => ?_) _ _ _ _ raised fits
        cases saved with
        | error failure => exact lasts_pure _
        | ok _ => exact lasts_pure _

/-- A repair never stops a run. -/
theorem lasts_step (options : Plan.Options) (session : Session) (issue : Issue) :
    Lasts (Repair.step options session issue : ExceptT IndexError (Linting σ) Session) := by
  rw [Repair.step]
  cases Remedy.forMessage? issue.message with
  | none => exact lasts_pure _
  | some remedy =>
    refine lasts_bind (lasts_applyPlan _ fun source insertion planned => ?_) fun outcome => ?_
    · obtain ⟨place, below, same⟩ := Plan.ofRemedy_inside planned
      exact ⟨_, below, same⟩
    · cases outcome with
      | error failure => exact lasts_pure _
      | ok insertion => exact lasts_pure _

/-- A run comes to its end. -/
theorem lasts_run [Runner σ] (options : Repair.RunOptions) :
    Lasts (Repair.run options : ExceptT IndexError (Linting σ) Repair.Tally) := by
  have step (session : Session) (issue : Issue) :
      Lasts (Repair.reportedStep options.toOptions session issue :
        ExceptT IndexError (Linting σ) Session) := by
    refine lasts_bind (lasts_step _ session issue) fun next => ?_
    cases next.results.getLast? with
    | none => exact lasts_pure _
    | some result => exact lasts_bind (lasts_lift _) fun _ => lasts_pure _
  refine lasts_bind (lasts_lift _) fun _ => lasts_bind (lasts_lift _) fun _ =>
    lasts_bind (lasts_lift _) fun issues => lasts_bind (lasts_lift _) fun _ =>
      lasts_bind (lasts_foldlM step _ _) fun session => lasts_bind (lasts_lift _) fun _ =>
        lasts_bind (lasts_lift _) fun remaining => lasts_bind (lasts_lift _) fun _ =>
          lasts_bind (lasts_lift _) fun _ => lasts_pure _

end Host

variable {σ : Type} [Runner σ]

/-- What comes of a request on a host: the exit status and the host that is left behind. -/
inductive Performed (host : Host σ) : Request → Nat × Host σ → Prop
  | helped : Performed host (.help none) (0, host.print (Console.line usage))
  | corrected (problem : Problem) :
      Performed host (.help (some problem))
        (1, (host.print (errorLine ("❌ " ++ problem.message))).print (Console.line usage))
  | fixUnsettled {options : FixOptions} {fatal : Fatal}
      (unsettled : settings host options.configPath = .error fatal) :
      Performed host (.fix options) (1, host.print (errorLine fatal.message))
  | fixed {options : FixOptions} {loaded : Settings} {tally : Repair.Tally} {after : Host σ}
      (settled : settings host options.configPath = .ok loaded)
      (ran : host.perform (options.script.getD loaded.command)
        (Repair.run (runOptions loaded options)) = (.ok tally, after)) :
      Performed host (.fix options) (0, after)
  | fixStopped {options : FixOptions} {loaded : Settings} {e : IndexError} {after : Host σ}
      (settled : settings host options.configPath = .ok loaded)
      (ran : host.perform (options.script.getD loaded.command)
        (Repair.run (runOptions loaded options)) = (.error e, after)) :
      Performed host (.fix options) (1, after.print (errorLine (Fatal.insertion e).message))
  | notesUnsettled {options : NotesOptions} {fatal : Fatal}
      (unsettled : settings host options.configPath = .error fatal) :
      Performed host (.changelog options) (1, host.print (errorLine fatal.message))
  | unlogged {options : NotesOptions} {loaded : Settings} {outcome : Launch.Outcome}
      {failure : Launch.Failure} {after : Host σ}
      (settled : settings host options.configPath = .ok loaded)
      (launched : host.launch (Commit.logCommand options.range) = (outcome, after))
      (failed : outcome.output (Commit.logCommand options.range) Launch.standardLimit =
        .error failure) :
      Performed host (.changelog options)
        (1, after.print (errorLine (Fatal.command failure).message))
  | noted {options : NotesOptions} {loaded : Settings} {outcome : Launch.Outcome} {log : String}
      {after : Host σ}
      (settled : settings host options.configPath = .ok loaded)
      (launched : host.launch (Commit.logCommand options.range) = (outcome, after))
      (logged : outcome.output (Commit.logCommand options.range) Launch.standardLimit = .ok log) :
      Performed host (.changelog options)
        (0, after.print (Console.line (Release.notesOfLog log (details after loaded options))))

/-- The cases of `Performed` are all there are. -/
theorem performed (host : Host σ) (request : Request) :
    Performed host request ((perform request).run host) := by
  cases request with
  | help problem =>
    cases problem with
    | none => exact .helped
    | some problem => exact .corrected problem
  | fix options =>
    simp only [perform, fix, StateT.run_bind, StateT.run_get, pure_bind]
    cases settled : settings host options.configPath with
    | error fatal => exact .fixUnsettled settled
    | ok loaded =>
      have run_eq : StateT.run ((Repair.run (runOptions loaded options) :
          ExceptT IndexError (Host.Linting σ) Repair.Tally).run
            (options.script.getD loaded.command)) host =
          host.perform (options.script.getD loaded.command)
            (Repair.run (runOptions loaded options)) := rfl
      rcases ran : host.perform (options.script.getD loaded.command)
        (Repair.run (runOptions loaded options)) with ⟨e | tally, after⟩
      · rw [StateT.run_bind, run_eq, ran]
        exact .fixStopped settled ran
      · rw [StateT.run_bind, run_eq, ran]
        exact .fixed settled ran
  | changelog options =>
    simp only [perform, changelog, StateT.run_bind, StateT.run_get, pure_bind]
    cases settled : settings host options.configPath with
    | error fatal => exact .notesUnsettled settled
    | ok loaded =>
      rcases launched : host.launch (Commit.logCommand options.range) with ⟨outcome, after⟩
      cases logged : outcome.output (Commit.logCommand options.range) Launch.standardLimit with
      | error failure =>
        simp only [commitLog, StateT.run_bind, StateT.run_get, pure_bind, launched, logged]
        exact .unlogged settled launched logged
      | ok log =>
        simp only [commitLog, StateT.run_bind, StateT.run_get, pure_bind, launched, logged]
        exact .noted settled launched logged

end DocMend.Command
