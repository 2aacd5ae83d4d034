import DocMend.Proofs.Command.Performed
import DocMend.Proofs.Commit.Range
import DocMend.Shell.Runner
/-!
Exit status and traces of requests. The status tells whether a request was refused, and nothing else. A
refused request, and every one that repairs nothing, leaves behind what the command line for a log leaves,
and under the shell that is one call of git, unless the revision range has an expansion in it.
-/

set_option autoImplicit false
set_option relaxedAutoImplicit false

namespace DocMend.Command

variable {σ : Type}

/-- A settings file was asked for, and it cannot be read or holds no JSON document. -/
def Unsettled (host : Host σ) (asked : Option String) : Prop :=
  ∃ name cause, asked = some name ∧ Settings.document host.tree name = .error cause

theorem settings_error_iff {host : Host σ} {asked : Option String} :
    (∃ fatal, settings host asked = .error fatal) ↔ Unsettled host asked := by
  cases asked with
  | none =>
    refine iff_of_false ?_ (fun ⟨_, _, asked, _⟩ => nomatch asked)
    rintro ⟨fatal, failed⟩
    rw [settings, Settings.load] at failed
    cases read : Settings.document host.tree Settings.fileName with
    | ok document =>
      simp only [read] at failed
      exact nomatch failed
    | error cause =>
      simp only [read] at failed
      exact nomatch failed
  | some name =>
    rw [settings, Settings.load]
    cases read : Settings.document host.tree name with
    | ok document =>
      refine iff_of_false (fun ⟨_, failed⟩ => nomatch failed) ?_
      rintro ⟨other, cause, asked, failed⟩
      obtain rfl := Option.some.inj asked
      rw [read] at failed
      exact nomatch failed
    | error cause => exact iff_of_true ⟨_, rfl⟩ ⟨name, cause, rfl, read⟩

variable [Runner σ]

/-- A request that is not carried out: a command line with a problem, a settings file that cannot be used,
or a log that cannot be had. -/
def Refused (host : Host σ) : Request → Prop
  | .help problem => problem.isSome = true
  | .fix options => Unsettled host options.configPath
  | .changelog options => Unsettled host options.configPath ∨
      ∃ failure, (host.launch (Commit.logCommand options.range)).1.output
        (Commit.logCommand options.range) Launch.standardLimit = .error failure

theorem status_iff_refused (host : Host σ) (request : Request)
    (fits : ((perform request).run host).2.Fits) :
    ((perform request).run host).1 = 1 ∧ Refused host request ∨
      ((perform request).run host).1 = 0 ∧ ¬Refused host request := by
  have course := performed host request
  generalize (perform request).run host = ended at course fits
  cases course with
  | helped => exact .inr ⟨rfl, fun refused => nomatch refused⟩
  | corrected problem => exact .inl ⟨rfl, rfl⟩
  | fixUnsettled unsettled => exact .inl ⟨rfl, settings_error_iff.mp ⟨_, unsettled⟩⟩
  | fixed settled ran =>
    refine .inr ⟨rfl, fun refused => ?_⟩
    obtain ⟨fatal, failed⟩ := settings_error_iff.mpr refused
    rw [settled] at failed
    exact nomatch failed
  | fixStopped settled ran =>
    have stopped := Host.lasts_run _ _ _ _ _ ran
    exact absurd fits stopped
  | notesUnsettled unsettled => exact .inl ⟨rfl, .inl (settings_error_iff.mp ⟨_, unsettled⟩)⟩
  | unlogged settled launched failed =>
    refine .inl ⟨rfl, .inr ?_⟩
    rw [launched]
    exact ⟨_, failed⟩
  | noted settled launched logged =>
    refine .inr ⟨rfl, fun refused => ?_⟩
    rcases refused with unsettled | ⟨failure, failed⟩
    · obtain ⟨fatal, failed⟩ := settings_error_iff.mpr unsettled
      rw [settled] at failed
      exact nomatch failed
    · rw [launched, logged] at failed
      exact nomatch failed

/-- A request leaves nothing behind but what it prints and, if it asks for a log, what that leaves. -/
def Traceless (host : Host σ) (request : Request) (after : Host σ) : Prop :=
  after = { host with console := after.console } ∨
    ∃ options, request = .changelog options ∧
      after = { (host.launch (Commit.logCommand options.range)).2 with console := after.console }

theorem traceless_of_refused (host : Host σ) (request : Request)
    (idle : Refused host request ∨ ∀ options, request ≠ .fix options) :
    Traceless host request ((perform request).run host).2 := by
  have course := performed host request
  generalize (perform request).run host = ended at course
  cases course with
  | helped => exact .inl rfl
  | corrected problem => exact .inl rfl
  | fixUnsettled unsettled => exact .inl rfl
  | fixed settled ran =>
    rcases idle with unsettled | other
    · obtain ⟨fatal, failed⟩ := settings_error_iff.mpr unsettled
      rw [settled] at failed
      exact nomatch failed
    · exact absurd rfl (other _)
  | fixStopped settled ran =>
    rcases idle with unsettled | other
    · obtain ⟨fatal, failed⟩ := settings_error_iff.mpr unsettled
      rw [settled] at failed
      exact nomatch failed
    · exact absurd rfl (other _)
  | notesUnsettled unsettled => exact .inl rfl
  | unlogged settled launched failed =>
    refine .inr ⟨_, rfl, ?_⟩
    rw [launched]
    rfl
  | noted settled launched logged =>
    refine .inr ⟨_, rfl, ?_⟩
    rw [launched]
    rfl

theorem execute_status (host : Host σ) (arguments : List String)
    (fits : ((execute arguments).run host).2.Fits) :
    let request := Request.ofArguments arguments
    let ended := (execute arguments).run host
    (ended.1 = 1 ↔ Refused host request) ∧ (ended.1 = 0 ↔ ¬Refused host request) ∧
      ((ended.1 = 1 ∨ ∀ options, request ≠ .fix options) → Traceless host request ended.2) := by
  intro request ended
  rcases status_iff_refused host request fits with ⟨one, refused⟩ | ⟨zero, accepted⟩
  · have one : ended.1 = 1 := one
    refine ⟨iff_of_true one refused, ?_, fun _ => traceless_of_refused host request (.inl refused)⟩
    exact iff_of_false (by omega) fun accepted => accepted refused
  · have zero : ended.1 = 0 := zero
    refine ⟨iff_of_false (by omega) accepted, iff_of_true zero accepted, fun idle => ?_⟩
    refine traceless_of_refused host request (.inr ?_)
    rcases idle with one | other
    · omega
    · exact other

section Shell

variable {git : Shell.Program} {host after : Host (List Shell.Program)} {request : Request}

/-- A request that hands no expansions to the shell. -/
def Request.IsInert : Request → Prop
  | .changelog options => Commit.IsInert options.range
  | .fix _ => True
  | .help _ => True

/-- A request leaves all files as they are, and all programs but git, which it calls for a log at most. -/
structure Harmless (git : Shell.Program) (host : Host (List Shell.Program)) (request : Request)
    (after : Host (List Shell.Program)) : Prop where
  tree : after.tree = host.tree
  programs : after.runner = host.runner ∨ ∃ options, request = .changelog options ∧
    after.runner = git.calledIn host.runner (Commit.logArguments options.range)

theorem harmless_of_traceless (found : git.IsFound Commit.gitName host.tree.folder host.runner)
    (inert : request.IsInert) (traceless : Traceless host request after) :
    Harmless git host request after := by
  rcases traceless with same | ⟨options, rfl, same⟩
  · rw [same]
    exact ⟨rfl, .inl rfl⟩
  have frame := Commit.launch_logCommand_frame host.tree.disk host.environment inert found
  generalize launched : Shell.launch (Commit.logCommand options.range) host.tree.folder host.environment
    host.tree.disk host.runner = left at frame
  have tree : after.tree = { host.tree with disk := left.2.1 } := by
    rw [same, ← launched]
    rfl
  have runner : after.runner = left.2.2 := by
    rw [same, ← launched]
    rfl
  rcases frame with idle | called
  · rw [idle] at tree runner
    exact ⟨tree, .inl runner⟩
  · rw [called] at tree runner
    exact ⟨tree, .inr ⟨options, rfl, runner⟩⟩

end Shell

end DocMend.Command
