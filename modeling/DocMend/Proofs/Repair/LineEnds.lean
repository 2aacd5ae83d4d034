import DocMend.Proofs.Repair.Tracking
import DocMend.Proofs.Source.LineEnd
/-!
The line ends of files during a run. Every repair follows the line ends that a file has and leaves its
last line alone, so a run does.
-/

set_option autoImplicit false
set_option relaxedAutoImplicit false

namespace DocMend.Repair

variable {options : Plan.Options}

/-- One repair keeps the line ends of every file. -/
theorem Stepped.sameEnds {issue : Issue} {session next : Session} {memory later : Memory}
    (stepped : Stepped options issue session memory (.ok next, later)) (fits : memory.Fits)
    (feedless : ∀ entry ∈ options.phrases, '\n' ∉ entry.2.toList)
    (returnless : ∀ entry ∈ options.phrases, '\r' ∉ entry.2.toList)
    (message : '\n' ∉ issue.message.toList) {path before : String}
    (present : memory.files.lookup path = some before) :
    ∃ after, later.files.lookup path = some after ∧
      (Source.ofText before).SameEnds (Source.ofText after) := by
  cases stepped with
  | skipped => exact ⟨before, present, .refl _⟩
  | unread => exact ⟨before, present, .refl _⟩
  | unplanned => exact ⟨before, present, .refl _⟩
  | refused => exact ⟨before, present, .refl _⟩
  | @applied remedy text insertion patched fit found plan inserted opened =>
    by_cases same : path = issue.path
    · subst same
      obtain rfl : before = text := Option.some.inj (present.symm.trans found)
      obtain ⟨index, inside, -, reread⟩ :=
        ofText_inserted fits feedless fit message found plan inserted
      have apart := Plan.ofRemedy_apart plan returnless
      refine ⟨patched.text, lookup_setEntry_same _ _ _, ?_⟩
      rw [reread]
      exact .splice inside apart
    · exact ⟨before, (lookup_setEntry_other _ same _).trans present, .refl _⟩

/-- Every state of a run has kept the line ends of every file. -/
theorem Reached.sameEnds {start memory : Memory} {done : List Issue} {session : Session}
    (reached : Reached options start done session memory) (fits : memory.Fits)
    (feedless : ∀ entry ∈ options.phrases, '\n' ∉ entry.2.toList)
    (returnless : ∀ entry ∈ options.phrases, '\r' ∉ entry.2.toList)
    (messages : ∀ issue ∈ done, '\n' ∉ issue.message.toList) {path before : String}
    (present : start.files.lookup path = some before) :
    ∃ after, memory.files.lookup path = some after ∧
      (Source.ofText before).SameEnds (Source.ofText after) := by
  induction reached with
  | start => exact ⟨before, present, .refl _⟩
  | noted reached trace ih => exact ih fits messages
  | @step done issue session next memory later reached stepped ih =>
    have earlier : memory.Fits := stepped.grows.fits fits
    obtain ⟨between, now, first⟩ := ih earlier fun other mem =>
      messages other (List.mem_append_left _ mem)
    have message := messages issue (List.mem_append_right _ List.mem_cons_self)
    obtain ⟨after, written, second⟩ :=
      stepped.sameEnds earlier feedless returnless message now
    exact ⟨after, written, first.trans second⟩

/-- Repairs of reported issues keep the line ends of every file: where all terminated lines end in a
carriage return and a line feed they still do, where none does none will, and the last line is the same
one, terminated or not. -/
theorem repairs_keep_line_ends (dedupe : Bool) (output : String) (options : Plan.Options)
    (unbroken : ∀ entry ∈ options.phrases, '\n' ∉ entry.2.toList ∧ '\r' ∉ entry.2.toList)
    (memory : Memory) (issues : List Issue)
    (reported : ∀ issue ∈ issues, issue ∈ Diagnostic.collect dedupe output)
    (fits : (memory.perform (steps options {} issues)).2.Fits) :
    ∃ session, (memory.perform (steps options {} issues)).1 = .ok session ∧
      ∀ path before, memory.files.lookup path = some before →
        ∃ after, (memory.perform (steps options {} issues)).2.files.lookup path = some after ∧
          (Source.ofText before).SameEnds (Source.ofText after) := by
  obtain ⟨session, value, reached⟩ := steps_reached fits
  refine ⟨session, value, fun path before present => ?_⟩
  have messages : ∀ issue ∈ issues, '\n' ∉ issue.message.toList := fun issue mem =>
    (Diagnostic.collect_wellFormed (reported issue mem)).2
  exact reached.sameEnds fits (fun entry mem => (unbroken entry mem).1)
    (fun entry mem => (unbroken entry mem).2) messages present

/-- A name with a carriage return in a file without any, and two insertions into a file that ends every
line but the last with one. -/
theorem repairs_keep_line_ends_beside :
    let output :=
      "A:3: warning: no @param for <T\rU>\nB:2: warning: no comment\nB:2: warning: no @return\n"
    let issues := Diagnostic.collect true output
    let memory : Memory :=
      { files := [("A", "/** x\n */\nclass A<T>"), ("B", "class B\r\nint f()")] }
    let options : Plan.Options := { phrases := [("T\rU", "the kind")] }
    (∀ entry ∈ options.phrases, '\n' ∉ entry.2.toList ∧ '\r' ∉ entry.2.toList) ∧
      (memory.perform (steps options {} issues)).2.Fits ∧
      (memory.perform (steps options {} issues)).2.files.lookup "A" =
        some "/** x\n * @param <T\rU> the kind\n */\nclass A<T>" ∧
      ∃ first second,
        (memory.perform (steps options {} issues)).2.files.lookup "A" = some first ∧
        (memory.perform (steps options {} issues)).2.files.lookup "B" = some second ∧
        (Source.ofText first).Returnless ∧ (Source.ofText second).Returned ∧
        (Source.ofText second).lines.getLast? = some "int f()" := by
  intro output issues memory options
  have unbroken : ∀ entry ∈ options.phrases, '\n' ∉ entry.2.toList ∧ '\r' ∉ entry.2.toList := by
    decide
  have files : (memory.perform (steps options {} issues)).2.files =
      [("A", "/** x\n * @param <T\rU> the kind\n */\nclass A<T>"),
        ("B", "class B\r\n/**\r\n * Performs f operation.\r\n" ++
          " * @return the result of the operation\r\n */\r\nint f()")] := by decide +kernel
  have fits : (memory.perform (steps options {} issues)).2.Fits := by
    refine Memory.fits_of_entries ?_
    rw [files]
    decide +kernel
  have returnless : (Source.ofText "/** x\n */\nclass A<T>").Returnless := by decide +kernel
  have returned : (Source.ofText "class B\r\nint f()").Returned := by decide +kernel
  have last : (Source.ofText "class B\r\nint f()").lines.getLast? = some "int f()" := by
    decide +kernel
  obtain ⟨session, -, kept⟩ :=
    repairs_keep_line_ends true output options unbroken memory issues (fun _ mem => mem) fits
  obtain ⟨first, here, upper⟩ := kept "A" _ rfl
  obtain ⟨second, there, lower⟩ := kept "B" _ rfl
  exact ⟨unbroken, fits, by rw [files]; rfl, first, second, here, there,
    upper.returnless returnless, lower.returned returned, lower.last.trans last⟩

end DocMend.Repair
