import DocMend.Proofs.Shell.Fields
/-!
Calls of scripted programs. A shell that has nothing to do beside its script runs a simple command whose
name leads to a scripted program: the program is called with the fields of the command, and nothing else
happens on the machine.
-/

set_option autoImplicit false
set_option relaxedAutoImplicit false

namespace DocMend.Shell

/-- A shell of the POSIX language that has nothing to do beside its script: no option is set, nothing was
defined, nothing waits to be done, and its descriptors lead to the captured streams. -/
structure Interpreter.Quiet (s : Interpreter) : Prop where
  posix : s.dialect = .posix
  options : s.options = []
  traps : s.traps = []
  caught : s.caught = []
  jobs : s.jobs = []
  functions : s.functions = []
  aliases : s.aliases = []
  documents : s.documents = #[]
  known : s.known = []
  disabled : s.disabled = []
  fileProcesses : s.fileProcesses = []
  readers : s.readers = []
  skip : s.skip = none
  descriptors : s.descriptors = [(0, 0), (1, 1), (2, 2)]

/-- A machine whose first channels are the captured streams, and on which no signal is on its way. -/
structure Machine.Quiet (m : Machine) : Prop where
  stdout : m.channels[1]? = some (.stream .stdout)
  stderr : m.channels[2]? = some (.stream .stderr)
  signals : m.signals = []

/-- A machine on which texts were written to the captured streams. -/
def Machine.wrote (m : Machine) (stdout stderr : Octets) : Machine :=
  { m with
    stdout := if stdout.isEmpty then m.stdout else stdout :: m.stdout
    stderr := if stderr.isEmpty then m.stderr else stderr :: m.stderr }

/-- Some programs after one of them was called. -/
def Program.calledIn (program : Program) (list : List Program) (arguments : List String) : List Program :=
  list.map fun other => if other.isSame program then other.called arguments else other

/-- A machine on which a scripted program was called. -/
def Machine.calling (m : Machine) (program : Program) (arguments : List Octets) : Machine :=
  { m with programs := program.calledIn m.programs (arguments.map Octets.toText) }

/-- A machine on which a scripted program was called and has answered. -/
def Machine.answered (m : Machine) (program : Program) (arguments : List Octets) : Machine :=
  (m.calling program arguments).wrote (Octets.ofBytes program.reply.stdout)
    (Octets.ofBytes program.reply.stderr)

/-- A machine on which one more process was started. -/
def Machine.forked (m : Machine) : Machine :=
  { m with nextProcess := m.nextProcess + 1 }

/-- A shell with one more layer over its variables. -/
def Interpreter.layered (s : Interpreter) : Interpreter :=
  { s with layers := {} :: s.layers }

/-- A shell as its child with a given number begins. -/
def Interpreter.asChild (s : Interpreter) (number : Nat) : Interpreter :=
  { s with
    process := number, ancestors := s.process :: s.ancestors, jobs := [], caught := [], readers := [] }

namespace Run

variable {β : Type} {w : World}

theorem modifySelf_run (f : Interpreter → Interpreter) :
    (modifySelf f).run.run w = (.ok (), { w with self := f w.self }) :=
  rfl

theorem modifySelf_bind (f : Interpreter → Interpreter) (next : Unit → Run β) :
    (modifySelf f >>= next).run.run w = (next ()).run.run { w with self := f w.self } :=
  rfl

theorem modifyMachine_bind (f : Machine → Machine) (next : Unit → Run β) :
    (modifyMachine f >>= next).run.run w = (next ()).run.run { w with machine := f w.machine } :=
  rfl

theorem get_bind (next : World → Run β) : (get >>= next).run.run w = (next w).run.run w :=
  rfl

theorem set_bind (after : World) (next : PUnit → Run β) :
    (set after >>= next).run.run w = (next ⟨⟩).run.run after :=
  rfl

theorem tryCatch_ok {body : Run β} {handler : Raise → Run β} {after : World} {value : β}
    (ran : body.run.run w = (.ok value, after)) :
    (tryCatch body handler).run.run w = (.ok value, after) := by
  have ran : body w = (.ok value, after) := ran
  simp only [tryCatch, tryCatchThe, MonadExceptOf.tryCatch, ExceptT.tryCatch, ExceptT.run, ExceptT.mk,
    StateT.run, bind, StateT.bind, ran]
  rfl

theorem channel?_quiet (quiet : w.self.Quiet) {n : Nat} (known : n < 3) :
    (channel? n).run.run w = (.ok (some n), w) := by
  rw [channel?, self_bind, quiet.descriptors]
  match n, known with
  | 0, _ => rfl
  | 1, _ => rfl
  | 2, _ => rfl

variable {s : Interpreter} {m : Machine}

theorem write_stdout (quiet : s.Quiet) (machine : m.Quiet) (text : Octets) :
    (write 1 text).run.run ⟨s, m⟩ = (.ok none, ⟨s, m.wrote text []⟩) := by
  cases text with
  | nil => rfl
  | cons c cs =>
    rw [write]
    simp only [List.isEmpty_cons, Bool.false_eq_true, if_false]
    rw [bind_ok (channel?_quiet quiet (by decide))]
    simp only
    rw [machine_bind]
    simp only [Machine.write, machine.stdout]
    rw [modifyMachine_bind]
    rfl

theorem write_stderr (quiet : s.Quiet) (machine : m.Quiet) (text : Octets) :
    (write 2 text).run.run ⟨s, m⟩ = (.ok none, ⟨s, m.wrote [] text⟩) := by
  cases text with
  | nil => rfl
  | cons c cs =>
    rw [write]
    simp only [List.isEmpty_cons, Bool.false_eq_true, if_false]
    rw [bind_ok (channel?_quiet quiet (by decide))]
    simp only
    rw [machine_bind]
    simp only [Machine.write, machine.stderr]
    rw [modifyMachine_bind]
    rfl

theorem answer_run {α : Type} (quiet : s.Quiet) (machine : m.Quiet) (program : Program)
    (arguments : List Octets) :
    (answer program arguments : Run α).run.run ⟨s, m⟩ =
      (.error .exit, ⟨{ s with status := program.reply.status }, m.answered program arguments⟩) := by
  have called : (m.calling program arguments).Quiet := { machine with }
  have printed : ((m.calling program arguments).wrote (Octets.ofBytes program.reply.stdout) []).Quiet :=
    { machine with }
  rw [answer, modifyMachine_bind]
  change (do
    let _ ← write 1 (Octets.ofBytes program.reply.stdout)
    let _ ← write 2 (Octets.ofBytes program.reply.stderr)
    leaveWith program.reply.status : Run α).run.run ⟨s, m.calling program arguments⟩ = _
  rw [bind_ok (write_stdout quiet called _), bind_ok (write_stderr quiet printed _)]
  rfl

theorem scripted?_run (place : Octets) :
    (scripted? place).run.run w = (.ok (w.machine.programs.find? fun program =>
      (!place.contains '/' && program.name == some (Octets.toText place)) ||
        program.places.contains (Path.resolve w.self.folder (Octets.toText place))), w) :=
  rfl

end Run

/-- A name that is none of the shell itself leads to a scripted program. -/
structure Program.IsFound (program : Program) (name : Octets) (folder : Path) (list : List Program) :
    Prop where
  plain : name.contains '/' = false
  ordinary : BuiltinKind.of? .posix name = none
  first : (list.find? fun other => other.name == some (Octets.toText name) ||
    other.places.contains (Path.resolve folder (Octets.toText name))) = some program
  named : program.name = some (Octets.toText name)

namespace Run

variable {e : Engine} {s : Interpreter} {m : Machine} {program : Program} {name : Octets}

theorem scripted?_found (found : program.IsFound name s.folder m.programs) :
    (scripted? name).run.run ⟨s, m⟩ = (.ok (some program), ⟨s, m⟩) := by
  have first := found.first
  rw [scripted?_run]
  simp only [found.plain, Bool.not_false, Bool.true_and, first]

theorem runJobs_quiet (quiet : s.Quiet) : e.runJobs.run.run ⟨s, m⟩ = (.ok (), ⟨s, m⟩) := by
  rw [Engine.runJobs, self_bind, quiet.jobs]
  rfl

theorem plainText?_found (found : program.IsFound name s.folder m.programs) :
    (plainText? name).run.run ⟨s, m⟩ = (.ok none, ⟨s, m⟩) := by
  rw [plainText?, bind_ok (scripted?_found found)]
  rfl

theorem execute_found (quiet : s.Quiet) (machine : m.Quiet)
    (found : program.IsFound name s.folder m.programs) (fuel : Nat) (words : List Octets) :
    (execute e (fuel + 1) name words).run.run ⟨s, m⟩ =
      (.error .exit, ⟨{ s with status := program.reply.status },
        m.answered program (words.drop 1)⟩) := by
  rw [execute, self_bind, machine_bind]
  simp only
  rw [bind_ok (scripted?_found found)]
  exact answer_run quiet machine program _

/-- A scripted program takes the place of the process: it answers, and the process is over. -/
theorem becomeProgram_found {α : Type} (quiet : s.Quiet) (machine : m.Quiet)
    (found : program.IsFound name s.folder m.programs) (words : List Octets) :
    (becomeProgram e name name words : Run α).run.run ⟨s, m⟩ =
      (.error .exit, ⟨{ s.exposed with status := program.reply.status },
        m.answered program (words.drop 1)⟩) := by
  have exposed : s.exposed.Quiet := { quiet with functions := rfl }
  have executed := execute_found (e := e) exposed machine found 63 words
  have attempted : (attempt e name words).run.run ⟨s, m⟩ =
      (.error .exit, ⟨{ s.exposed with status := program.reply.status },
        m.answered program (words.drop 1)⟩) := by
    rw [attempt, bind_ok (runJobs_quiet quiet), bind_ok (plainText?_found found)]
    simp only [Option.any_none, Bool.false_eq_true, if_false]
    rw [modifySelf_bind]
    exact executed
  rw [becomeProgram, bind_error attempted]

theorem receiveSignals_quiet (machine : m.Quiet) :
    receiveSignals.run.run ⟨s, m⟩ = (.ok (), ⟨s, m⟩) := by
  rw [receiveSignals, self_bind, machine_bind, machine.signals]
  rfl

/-- A child comes to its end in the course of the process that started it. -/
theorem child_run {prepare : Interpreter → Interpreter} {body : Run Unit} {result : Except Raise Unit}
    {after : World} (ran : body.run.run ⟨prepare (s.asChild m.nextProcess), m.forked⟩ = (result, after))
    (machine : after.machine.Quiet) :
    (child prepare body).run.run ⟨s, m⟩ = (.ok (exitOf result after.self), ⟨s, after.machine⟩) := by
  have ran : body.run.run ⟨prepare { s with
      process := m.nextProcess, ancestors := s.process :: s.ancestors, jobs := [], caught := []
      readers := [] }, { m with nextProcess := m.nextProcess + 1 }⟩ = (result, after) := ran
  rw [child, get_bind]
  simp only [ran]
  rw [set_bind, bind_ok (receiveSignals_quiet machine)]
  rfl

/-- A scripted program that runs as a child. -/
theorem child_found (quiet : s.Quiet) (machine : m.Quiet)
    (found : program.IsFound name s.folder m.programs) (words : List Octets) :
    (child (Evaluation.withPlace name) (becomeProgram e name name words)).run.run ⟨s, m⟩ =
      (.ok (.status (program.reply.status % 256)),
        ⟨s, m.forked.answered program (words.drop 1)⟩) := by
  have start : (s.asChild m.nextProcess).Quiet := { quiet with jobs := rfl, caught := rfl, readers := rfl }
  have forked : m.forked.Quiet := { machine with }
  have after : (m.forked.answered program (words.drop 1)).Quiet := { machine with }
  have placed : Evaluation.withPlace name (s.asChild m.nextProcess) = s.asChild m.nextProcess := by
    rw [Evaluation.withPlace, start.posix]
    rfl
  have became := becomeProgram_found (α := Unit) (e := e) start forked found words
  rw [← placed] at became
  exact child_run became after

theorem remember_found (quiet : s.Quiet) (name : Octets) :
    (remember name name).run.run ⟨s, m⟩ = (.ok (), ⟨s, m⟩) := by
  rw [remember, self_bind]
  split
  · rfl
  · rw [quiet.known]
    have same : (name != name) = false := bne_self_eq_false name
    simp only [getKey, List.find?_nil, Option.map_none, same, Bool.false_eq_true, if_false]
    rfl

theorem find_found (quiet : s.Quiet) (found : program.IsFound name s.folder m.programs) :
    (find name true).run.run ⟨s, m⟩ = (.ok (.program name), ⟨s, m⟩) := by
  have named : (m.programs.any fun program => program.name == some (Octets.toText name)) = true := by
    refine List.any_eq_true.mpr ⟨program, List.mem_of_find?_eq_some found.first, ?_⟩
    rw [found.named]
    exact beq_self_eq_true _
  have unknown : (knownPlace? name).run.run ⟨s, m⟩ = (.ok none, ⟨s, m⟩) := by
    rw [knownPlace?, self_bind, quiet.known, quiet.posix]
    rfl
  have place : (place? name).run.run ⟨s, m⟩ = (.ok (some name), ⟨s, m⟩) := by
    rw [place?]
    simp only [found.plain, Bool.false_eq_true, if_false]
    rw [machine_bind]
    simp only [named, if_true]
    rfl
  have noFunction : getKey ([] : List (Octets × Function)) name = none := rfl
  rw [find, self_bind]
  simp only [found.plain, quiet.disabled, quiet.posix, quiet.functions, found.ordinary,
    List.contains_nil, noFunction, ite_self, Bool.false_eq_true, if_false]
  rw [bind_ok unknown]
  simp only
  rw [bind_ok place]
  rfl

end Run

namespace Evaluation

open Run

variable {e : Engine} {s : Interpreter} {m : Machine} {program : Program}

theorem runTraps_quiet (quiet : s.Quiet) : (runTraps e).run.run ⟨s, m⟩ = (.ok (), ⟨s, m⟩) := by
  rw [runTraps, self_bind, quiet.caught]
  rfl

theorem leaveOnFailure_quiet (quiet : s.Quiet) (tested : Bool) :
    (leaveOnFailure e tested).run.run ⟨s, m⟩ = (.ok (), ⟨s, m⟩) := by
  have action : (e.runAction Signal.failure).run.run ⟨s, m⟩ = (.ok (), ⟨s, m⟩) := by
    rw [Engine.runAction, self_bind, quiet.traps]
    rfl
  rw [leaveOnFailure, self_bind]
  split
  · rw [bind_ok action, quiet.options]
    rfl
  · rfl

theorem announce_quiet (quiet : s.Quiet) (command : Command) :
    (announce e command).run.run ⟨s, m⟩ = (.ok (), ⟨s, m⟩) := by
  rw [announce, self_bind, quiet.posix]
  rfl

theorem notePipe_quiet (quiet : s.Quiet) (codes : List Nat) :
    (notePipe codes).run.run ⟨s, m⟩ = (.ok (), ⟨s, m⟩) := by
  rw [notePipe, bind_ok (isExtended_run quiet.posix)]
  rfl

theorem noteLast_quiet (quiet : s.Quiet) (fields : List Octets) :
    (noteLast fields).run.run ⟨s, m⟩ = (.ok (), ⟨s, m⟩) := by
  rw [noteLast, bind_ok (isExtended_run quiet.posix)]
  rfl

theorem trace_quiet (quiet : s.Quiet) (channel : Option Nat) (assigned fields : List Octets) :
    (Trace.command e channel assigned fields).run.run ⟨s, m⟩ = (.ok (), ⟨s, m⟩) := by
  rw [Trace.command, bind_ok has_run, quiet.options]
  rfl

theorem closeProcesses_quiet (quiet : s.Quiet) :
    (e.closeProcesses []).run.run ⟨s, m⟩ = (.ok (), ⟨s, m⟩) := by
  rw [Engine.closeProcesses, self_bind, quiet.fileProcesses]
  rfl

theorem takeExit_status (n : Nat) :
    (takeExit (.status n)).run.run ⟨s, m⟩ = (.ok (), ⟨{ s with status := n }, m⟩) :=
  rfl

/-- The fields of words of text, one after the other. -/
theorem forIn_words (depth : Nat) (quiet : s.Quiet) {words : List Word}
    (isText : ∀ word ∈ words, word.IsText) (fields : List Octets) :
    (forIn words fields fun word fields => do
      let more ← Expansion.words (Engine.ofDepth (depth + 1)) [word]
      pure (ForInStep.yield (fields ++ more)) : Run (List Octets)).run.run ⟨s, m⟩ =
      (.ok (fields ++ words.map Word.unquoted), ⟨s, m⟩) := by
  induction words generalizing fields with
  | nil =>
    rw [List.map_nil, List.append_nil]
    rfl
  | cons word words ih =>
    have head : ∀ other ∈ [word], other.IsText := by simpa using isText word (List.mem_cons_self ..)
    have first := Expansion.words_text (w := ⟨s, m⟩) depth head quiet.posix quiet.options
    have rest := ih (fun other mem => isText other (List.mem_cons_of_mem _ mem))
      (fields ++ [word.unquoted])
    rw [List.append_assoc] at rest
    rw [List.forIn_cons, bind_assoc, bind_ok first]
    exact rest

namespace Heading

/-- The heading of words of text. -/
def ofText (words : List Word) : Heading :=
  { fields := words.map Word.unquoted, rest := [] }

variable {first : Word} {rest : List Word}

theorem isEmpty_ofText : (ofText (first :: rest)).fields.isEmpty = false :=
  rfl

theorem special_ofText : (ofText (first :: rest)).special = none :=
  rfl

theorem find_ofText (quiet : s.Quiet) (found : program.IsFound first.unquoted s.folder m.programs) :
    (ofText (first :: rest)).find.run.run ⟨s, m⟩ = (.ok (.program first.unquoted), ⟨s, m⟩) :=
  find_found quiet found

/-- Words of text are expanded to their texts, where the first one leads to a scripted program. -/
theorem ofWords_found (depth : Nat) (quiet : s.Quiet) (isText : ∀ word ∈ first :: rest, word.IsText)
    (found : program.IsFound first.unquoted s.folder m.programs) :
    (ofWords (Engine.ofDepth (depth + 1)) (first :: rest)).run.run ⟨s, m⟩ =
      (.ok (ofText (first :: rest)), ⟨s, m⟩) := by
  have head : ∀ word ∈ [first], word.IsText := by simpa using isText first (List.mem_cons_self ..)
  have expanded := Expansion.words_text (w := ⟨s, m⟩) depth head quiet.posix quiet.options
  have fields : (firstFields (Engine.ofDepth (depth + 1)) (first :: rest)).run.run ⟨s, m⟩ =
      (.ok ([first.unquoted], rest), ⟨s, m⟩) := by
    rw [firstFields, bind_ok expanded]
    rfl
  have settled (fuel : Nat) : (settle (Engine.ofDepth (depth + 1)) (fuel + 1)
      { fields := [first.unquoted], rest }).run.run ⟨s, m⟩ =
      (.ok { fields := [first.unquoted], rest }, ⟨s, m⟩) := by
    have find : (find { fields := [first.unquoted], rest }).run.run ⟨s, m⟩ =
        (.ok (.program first.unquoted), ⟨s, m⟩) := find_found quiet found
    rw [settle, bind_ok find]
    rfl
  rw [ofWords, bind_ok fields]
  simp only [List.isEmpty_cons, Bool.false_eq_true, if_false]
  rw [bind_ok (settled _), self_bind]
  simp only [Bool.false_eq_true, if_false]
  have others : ∀ word ∈ rest, word.IsText := fun word mem => isText word (List.mem_cons_of_mem _ mem)
  rw [bind_ok (forIn_words depth quiet others _)]
  rfl

end Heading

/-- A command whose name leads to a scripted program calls it with its other fields. -/
theorem invoke_found (quiet : s.Quiet) (machine : m.Quiet) {h : Heading}
    (found : program.IsFound h.name s.folder m.programs) (tested : Bool) :
    (invoke e h (.program h.name) tested false).run.run ⟨s, m⟩ =
      (.ok (), ⟨{ s with status := program.reply.status % 256 },
        m.forked.answered program ((h.fields.drop h.skipped).drop 1)⟩) := by
  have notLast : (replaces false).run.run ⟨s, m⟩ = (.ok false, ⟨s, m⟩) := rfl
  rw [invoke]
  simp only
  rw [bind_ok (remember_found quiet _), bind_ok notLast]
  simp only [Bool.false_eq_true, if_false]
  rw [bind_ok (runJobs_quiet quiet), bind_ok (child_found quiet machine found _)]
  exact takeExit_status _

/-- A computation over a layer of its own leaves the layers as they were. -/
theorem inLayer_ok {body : Run Unit} {t : Interpreter} {n : Machine}
    (ran : body.run.run ⟨s.layered, m⟩ = (.ok (), ⟨t.layered, n⟩)) :
    (inLayer false body).run.run ⟨s, m⟩ = (.ok (), ⟨t, n⟩) := by
  have dropped : dropLayer.run.run ⟨t.layered, n⟩ = (.ok (), ⟨t, n⟩) := by
    cases t
    rfl
  rw [inLayer, addLayer, modifySelf_bind]
  -- the computation returns from within its handler of errors
  refine (bind_ok (a := .error ()) (v := ⟨t, n⟩) (tryCatch_ok ?_)).trans rfl
  exact (bind_ok ran).trans ((bind_ok dropped).trans rfl)

theorem closing_ok {after body : Run Unit} {first second third : World}
    (ran : body.run.run first = (.ok (), second)) (ended : after.run.run second = (.ok (), third)) :
    (closing after body).run.run first = (.ok (), third) := by
  rw [closing]
  refine (bind_ok (a := .error ()) (v := third) (tryCatch_ok ?_)).trans rfl
  exact (bind_ok ran).trans ((bind_ok ended).trans rfl)

theorem restoreDescriptors_quiet (quiet : s.Quiet) :
    (restoreDescriptors s.descriptors []).run.run ⟨s, m⟩ = (.ok (), ⟨s, m⟩) := by
  have known := quiet.descriptors
  cases s
  subst known
  rfl

/-- A simple command runs the scripted program that its name leads to. -/
theorem runSimple_found (depth : Nat) (quiet : s.Quiet) (machine : m.Quiet) {first : Word}
    {rest : List Word} (isText : ∀ word ∈ first :: rest, word.IsText)
    (found : program.IsFound first.unquoted s.folder m.programs) (tested : Bool) :
    ∃ t, t.Quiet ∧ t.status = program.reply.status % 256 ∧
      (runSimple (Engine.ofDepth (depth + 1)) [] (first :: rest) [] tested false).run.run ⟨s, m⟩ =
        (.ok (), ⟨t, m.forked.answered program (rest.map Word.unquoted)⟩) := by
  rw [runSimple, modifySelf_bind, bind_ok (isExtended_run quiet.posix)]
  obtain ⟨t, same⟩ : ∃ t, t = { s with substituted := 0 } := ⟨_, rfl⟩
  have start : t.Quiet := by
    rw [same]
    exact { quiet with }
  have found : program.IsFound first.unquoted t.folder m.programs := by
    rw [same]
    exact found
  have targets : (Redirection.allExpanded (Engine.ofDepth (depth + 1)) []).run.run ⟨t, m⟩ =
      (.ok [], ⟨t, m⟩) := rfl
  simp only [← same]
  rw [bind_ok (Heading.ofWords_found depth start isText found), self_bind,
    bind_ok (channel?_quiet start (by decide)), bind_ok targets]
  simp only [Heading.isEmpty_ofText, Heading.special_ofText, Bool.false_eq_true, if_false,
    Option.none_beq_some, Bool.and_false, Bool.and_self, Bool.not_false, Bool.true_or, Bool.false_and,
    if_true]
  rw [bind_ok (Heading.find_ofText start found)]
  have within : t.layered.Quiet := { start with }
  have applied : (Redirection.applyAll (Engine.ofDepth (depth + 1)) []).run.run ⟨t.layered, m⟩ =
      (.ok true, ⟨t.layered, m⟩) := rfl
  have assigned : (assignAll (Engine.ofDepth (depth + 1)) (.some 2) true true []).run.run
      ⟨t.layered, m⟩ = (.ok [], ⟨t.layered, m⟩) := rfl
  have called := invoke_found (e := Engine.ofDepth (depth + 1)) (h := .ofText (first :: rest)) within
    machine found tested
  have ended : ({ t with status := program.reply.status % 256 } : Interpreter).Quiet := { start with }
  have restored := restoreDescriptors_quiet (m := m.forked.answered program (rest.map Word.unquoted)) ended
  refine ⟨{ t with status := program.reply.status % 256 }, ended, rfl, closing_ok (inLayer_ok ?_) restored⟩
  rw [bind_ok applied]
  simp only [Bool.not_true, Bool.false_eq_true, if_false]
  rw [bind_ok assigned, bind_ok (trace_quiet within _ _ _), bind_ok (noteLast_quiet within _)]
  exact called

/-- A command that is one simple command calls the scripted program that its name leads to, and does
nothing else. -/
theorem run_found (depth : Nat) (quiet : s.Quiet) (machine : m.Quiet) {first : Word} {rest : List Word}
    (isText : ∀ word ∈ first :: rest, word.IsText)
    (found : program.IsFound first.unquoted s.folder m.programs) (line : Nat) (tested : Bool) :
    ∃ t, t.Quiet ∧ t.status = program.reply.status % 256 ∧
      (run (Engine.ofDepth (depth + 1)) (.simple line [] (first :: rest) []) tested false).run.run ⟨s, m⟩ =
        (.ok (), ⟨t, m.forked.answered program (rest.map Word.unquoted)⟩) := by
  have atLine : ({ s with line } : Interpreter).Quiet := { quiet with }
  obtain ⟨t, after, status, simple⟩ := runSimple_found depth atLine machine isText found tested
  have enabled : s.options.contains "noexec" = false := by
    rw [quiet.options]
    rfl
  have form : (runForm (Engine.ofDepth (depth + 1)) tested false
      (.simple line [] (first :: rest) [])).run.run ⟨s, m⟩ =
      (.ok (), ⟨t, m.forked.answered program (rest.map Word.unquoted)⟩) := by
    rw [runForm, Evaluation.atLine, modifySelf_bind, bind_ok (announce_quiet atLine _), bind_ok simple,
      self_bind, bind_ok (notePipe_quiet after _)]
    exact leaveOnFailure_quiet after tested
  refine ⟨t, after, status, ?_⟩
  rw [run, bind_ok has_run]
  · simp only [enabled, Bool.false_eq_true, if_false]
    rw [self_bind, bind_ok (runTraps_quiet quiet), bind_ok form, quiet.fileProcesses,
      bind_ok (closeProcesses_quiet after)]
    exact runTraps_quiet after
  · exact fun same => nomatch same

end Evaluation

end DocMend.Shell
