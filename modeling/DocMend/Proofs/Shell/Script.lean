import DocMend.Proofs.Shell.Call
import DocMend.Proofs.Shell.Line
import DocMend.Proofs.Shell.Quotation
import DocMend.Shell.Runner
/-!
Command lines that are a line of words. Where the first word leads to a scripted program, launching the line
calls that program with the other words and does nothing else: the disk and all other programs stay as they
are, and what the program writes and its status are those of the command line.
-/

set_option autoImplicit false
set_option relaxedAutoImplicit false

namespace DocMend.Shell

open Run

/-- A line of words that is one command: its words are words of text, and the first one leads to a scripted
program. -/
structure Program.IsCalled (program : Program) (w : Written) (ws : List Written) (folder : Path)
    (list : List Program) : Prop where
  command : w.IsCommand
  words : ∀ v ∈ ws, v.IsWord
  text : ∀ word ∈ w.word :: ws.map Written.word, word.IsText
  found : program.IsFound w.word.unquoted folder list

/-- The arguments of a line of words. -/
def Written.arguments (ws : List Written) : List Octets :=
  (ws.map Written.word).map Word.unquoted

namespace Evaluation

variable {e : Engine} {s : Interpreter} {m : Machine} {program : Program} {w : Written}
  {ws : List Written}

/-- Nothing is left to be run at the end of a script. -/
theorem runLines_nil (quiet : s.Quiet) {script : Script} (given : script.fromInput = false) (fuel : Nat)
    (lastWord : Word) :
    (runLines e script 1 (fuel + 1) (.state [] true .ending lastWord {}) true).run.run ⟨s, m⟩ =
      (.ok (), ⟨s, m⟩) := by
  have read := readLine_nil lastWord
  rw [Reading.state] at read ⊢
  rw [runLines, self_bind]
  simp only [given, activeAliases, quiet.posix, quiet.aliases, quiet.documents, quiet.options,
    List.contains_nil, Bool.false_eq_true, if_false, pure_bind, decide_true, Bool.true_or, if_true, read]
  rfl

/-- A script that is a line of words. -/
theorem runLines_called (depth : Nat) (quiet : s.Quiet) (machine : m.Quiet) (script : Script)
    (given : script.fromInput = false) (last : script.last = false)
    (called : program.IsCalled w ws s.folder m.programs) (fuel : Nat) :
    ∃ t, t.Quiet ∧ t.status = program.reply.status % 256 ∧
      (runLines (Engine.ofDepth (depth + 2)) script 1 (fuel + 2) { rest := w.text ++ Written.spaced ws }
        false).run.run ⟨s, m⟩ =
        (.ok (), ⟨t, m.forked.answered program (Written.arguments ws)⟩) := by
  obtain ⟨lastWord, read⟩ := readLine_run called.command called.words
  have noted : ({ s with documents := #[], readerLine := 1 } : Interpreter).Quiet :=
    { quiet with documents := rfl }
  obtain ⟨t, after, status, ran⟩ := run_found depth noted machine called.text called.found 1
    script.tested
  refine ⟨t, after, status, ?_⟩
  have line : (runLine (Engine.ofDepth (depth + 2)) (w.command ws) script.tested false).run.run
      ⟨{ s with documents := #[], readerLine := 1 }, m⟩ =
      (.ok (), ⟨t, m.forked.answered program (Written.arguments ws)⟩) := by
    rw [runLine, Engine.run_ofDepth]
    exact tryCatch_ok ran
  have posix : (Dialect.posix == Dialect.extended) = false := rfl
  have ended := runLines_nil (e := Engine.ofDepth (depth + 2))
    (m := m.forked.answered program (Written.arguments ws)) after given fuel lastWord
  rw [Reading.state] at read ended
  rw [runLines, self_bind]
  simp only [given, activeAliases, quiet.posix, quiet.aliases, quiet.documents, quiet.options,
    List.contains_nil, Bool.false_eq_true, if_false, pure_bind, decide_true, Bool.true_or, if_true, read,
    last, Bool.false_and, posix]
  rw [modifySelf_bind, bind_ok line, self_bind]
  simp only [after.skip, Option.isNone_none, if_true]
  exact ended

theorem runScript_called (depth : Nat) (quiet : s.Quiet) (machine : m.Quiet)
    (called : program.IsCalled w ws s.folder m.programs) :
    ∃ t, t.Quiet ∧ t.status = program.reply.status % 256 ∧
      (runScript (Engine.ofDepth (depth + 2)) { text := w.text ++ Written.spaced ws, main := true }).run.run
        ⟨s, m⟩ = (.ok (), ⟨t, m.forked.answered program (Written.arguments ws)⟩) := by
  obtain ⟨t, after, status, lines⟩ := runLines_called depth quiet machine
    { text := w.text ++ Written.spaced ws, main := true } rfl rfl called
    (w.text ++ Written.spaced ws).length
  have restored : ({ t with level := s.level } : Interpreter).Quiet := { after with }
  refine ⟨{ t with level := s.level, readerLine := s.readerLine }, { restored with }, status, ?_⟩
  have posix : (Dialect.posix == Dialect.extended) = false := rfl
  have text : endedText .posix (false || true && s.origin == .file) (w.text ++ Written.spaced ws) =
      w.text ++ Written.spaced ws := rfl
  rw [runScript, self_bind]
  simp only [quiet.posix, posix, Bool.false_and, Bool.false_eq_true, if_false, Bool.not_true, text]
  rw [bind_ok (closing_ok lines (modifySelf_run _))]
  rfl

end Evaluation

namespace Engine

variable {e : Engine} {s : Interpreter} {m : Machine} {program : Program} {w : Written}
  {ws : List Written}

/-- A shell that has nothing to do beside its script ends with it. -/
theorem concluding_ok {body : Run Unit} {t : Interpreter} {n : Machine} (quiet : t.Quiet)
    (ran : body.run.run ⟨s, m⟩ = (.ok (), ⟨t, n⟩)) :
    (e.concluding body).run.run ⟨s, m⟩ = (.ok (), ⟨t, n⟩) := by
  have trap : e.runExitTrap.run.run ⟨t, n⟩ = (.ok (), ⟨t, n⟩) := by
    rw [runExitTrap, self_bind, quiet.traps]
    rfl
  rw [concluding]
  refine (bind_ok (tryCatch_ok ran)).trans ?_
  rw [bind_ok trap, bind_ok (runJobs_quiet quiet), self_bind, quiet.readers]
  rfl

theorem runTask_called (depth : Nat) (quiet : s.Quiet) (machine : m.Quiet)
    (called : program.IsCalled w ws s.folder m.programs) (parameters : List Octets) :
    ∃ t, t.Quiet ∧ t.status = program.reply.status % 256 ∧
      ((ofDepth (depth + 3)).runTask parameters (.text (w.text ++ Written.spaced ws))).run.run ⟨s, m⟩ =
        (.ok (), ⟨t, m.forked.answered program (Written.arguments ws)⟩) := by
  have origin : ({ s with origin := .argument } : Interpreter).Quiet := { quiet with }
  obtain ⟨t, after, status, script⟩ := Evaluation.runScript_called depth origin machine called
  refine ⟨t, after, status, ?_⟩
  rw [runTask, modifySelf_bind, bind_ok (isExtended_run quiet.posix), script_ofDepth]
  exact script

/-- A shell that is started for a line of words calls a program, and ends with the status of that. -/
theorem runShell_called (depth : Nat) {name : Octets} (start : (s.started m .posix name).Quiet)
    (machine : m.Quiet) (called : program.IsCalled w ws s.folder m.programs) :
    ∃ t, t.status = program.reply.status % 256 ∧
      ((ofDepth (depth + 3)).runShell .posix name
        (return { tasks := [.text (w.text ++ Written.spaced ws)] }) : Run Unit).run.run ⟨s, m⟩ =
        (.error .exit, ⟨t, m.forked.answered program (Written.arguments ws)⟩) := by
  obtain ⟨u, same⟩ : ∃ u, u = s.started m .posix name := ⟨_, rfl⟩
  rw [← same] at start
  have named : ({ u with name := u.name, parameters := [] } : Interpreter).Quiet := { start with }
  have folder : u.folder = s.folder := by
    rw [same]
    rfl
  rw [← folder] at called
  obtain ⟨t, after, status, task⟩ := runTask_called depth named machine called []
  refine ⟨t, status, ?_⟩
  rw [runShell, machine_bind, self_bind, modifySelf_bind]
  simp only [← same]
  rw [bind_ok (concluding_ok after ?body)]
  · rfl
  · rw [pure_bind, modifySelf_bind]
    exact (bind_ok task).trans rfl

end Engine

/-- Texts that were written to an empty stream. -/
theorem toBytes_wrote (bytes : List UInt8) :
    Octets.toBytes (if (Octets.ofBytes bytes).isEmpty then [] else [Octets.ofBytes bytes]).reverse.flatten =
      bytes := by
  cases bytes with
  | nil => rfl
  | cons b bytes =>
    rw [Octets.ofBytes, List.map_cons, List.isEmpty_cons, if_neg Bool.false_ne_true,
      List.reverse_singleton, List.flatten_singleton]
    exact Octets.toBytes_ofBytes (b :: bytes)

/-- Launching a line of words whose first word leads to a scripted program calls the program with the other
words and does nothing else. -/
theorem launch_called {program : Program} {w : Written} {ws : List Written} {line : String} {folder : Path}
    {disk : Disk} {programs : List Program} (environment : List (String × String))
    (text : Octets.ofText line = w.text ++ Written.spaced ws)
    (free : obstacle? line folder disk = none) (called : program.IsCalled w ws folder programs) :
    launch line folder environment disk programs =
      (⟨program.reply.stdout, program.reply.stderr, .exited (program.reply.status % 256)⟩, disk,
        program.calledIn programs ((Written.arguments ws).map Octets.toText)) := by
  have depth : deepestRun = 39997 + 3 := rfl
  rw [launch, free, depth]
  simp only
  obtain ⟨s, start⟩ : ∃ s : Interpreter, s =
      { dialect := .posix, name := shellName, folder, vars := environmentOf environment
        descriptors := [(0, 0), (1, 1), (2, 2)] } := ⟨_, rfl⟩
  have quiet : (s.started { disk, programs } .posix shellName).Quiet := by
    rw [start]
    exact ⟨rfl, rfl, rfl, rfl, rfl, rfl, rfl, rfl, rfl, rfl, rfl, rfl, rfl, rfl⟩
  have machine : ({ disk, programs } : Machine).Quiet := ⟨rfl, rfl, rfl⟩
  have here : program.IsCalled w ws s.folder programs := by
    rw [start]
    exact called
  obtain ⟨t, status, ran⟩ := Engine.runShell_called 39997 quiet machine here
  rw [← start, text]
  simp only [ran, Run.exitOf, status, Nat.mod_mod]
  have stdout : Octets.toBytes ((({ disk, programs } : Machine).forked.answered program
      (Written.arguments ws)).stdout.reverse.flatten) = program.reply.stdout := toBytes_wrote _
  have stderr : Octets.toBytes ((({ disk, programs } : Machine).forked.answered program
      (Written.arguments ws)).stderr.reverse.flatten) = program.reply.stderr := toBytes_wrote _
  rw [stdout, stderr]
  rfl

end DocMend.Shell
