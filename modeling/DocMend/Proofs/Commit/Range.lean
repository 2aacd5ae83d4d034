import DocMend.Commit.Basic
import DocMend.Proofs.Shell.Script
/-!
The words of the command line for a log. The revision range stands there as a JSON string, and the shell
reads it as a text between double quotation marks. The two agree on all ranges without dollar signs,
backquotes and control characters, and on no others.
-/

set_option autoImplicit false
set_option relaxedAutoImplicit false

namespace DocMend.Commit

open Shell

/-- The name of the command. -/
def gitName : Octets := "git"

/-- The characters of a revision range as the shell reads them, where none begins an expansion. -/
def spelledRange (range : String) : String :=
  String.ofList (range.toList.flatMap Quotation.spelled)

/-- The word of a revision range. -/
def rangeWord (range : String) : Written :=
  ⟨'"' :: Octets.ofChars (range.toList.flatMap Json.escaped) ++ ['"'],
    .mark .double :: Word.literal (Octets.ofText (spelledRange range)) ++ [.mark .double], true⟩

/-- The option that says what a line of the log holds. -/
def formatOption : Octets := "--pretty=format:"

/-- What a line of the log holds. -/
def formatText : Octets := "%h|%s|%an|%ae|%ad"

/-- The word that says what a line of the log holds. -/
def formatWord : Written :=
  ⟨formatOption ++ '\x27' :: formatText ++ ['\x27'],
    Word.bare formatOption ++ .mark .single :: Word.literal formatText ++ [.mark .single], true⟩

/-- The words after the name of the command. -/
def logWords (range : Option String) : List Written :=
  Written.bare "log" :: range.toList.map rangeWord ++
    [formatWord, Written.bare "--date=short", Written.bare "--no-merges"]

/-- The end of the command line for a log. -/
def logEnd : String :=
  " --pretty=format:'" ++ logFormat ++ "' --date=short --no-merges"

theorem logCommand_some (range : String) : logCommand (some range) =
    "git log" ++ (" " ++ (String.ofList (Json.quoted range) ++ logEnd)) := by
  have ending : logEnd = " --pretty=format:'" ++ logFormat ++ "' --date=short --no-merges" := rfl
  rw [ending]
  simp only [logCommand, String.append_assoc]

theorem ofText_quoted (range : String) :
    Octets.ofText (String.ofList (Json.quoted range)) = (rangeWord range).text := by
  rw [Octets.ofText_eq, String.toList_ofList, Json.quoted, Octets.ofChars_append, Octets.ofChars_cons]
  rfl

/-- The command line for a log is made of its words. -/
theorem ofText_logCommand (range : Option String) : Octets.ofText (logCommand range) =
    (Written.bare gitName).text ++ Written.spaced (logWords range) := by
  have behind : Octets.ofText logEnd =
      Written.spaced [formatWord, Written.bare "--date=short", Written.bare "--no-merges"] := by
    decide +kernel
  have start : Octets.ofText "git log" =
      (Written.bare gitName).text ++ Written.spaced [Written.bare "log"] := by decide
  cases range with
  | none =>
    have line : logCommand none = "git log" ++ logEnd := by decide
    rw [line, Octets.ofText_append, behind, start]
    rfl
  | some range =>
    rw [logCommand_some, Octets.ofText_append, Octets.ofText_append, Octets.ofText_append, behind, start,
      ofText_quoted, List.append_assoc]
    rfl

/-- The range is read from behind its first quotation mark. -/
theorem read_rangeWord (range : String) (rest : Octets) :
    Quotation.read ((rangeWord range).text.tail ++ rest) =
      if '$' ∈ range.toList ∨ '\x60' ∈ range.toList then .expands
      else .closed (Octets.ofText (spelledRange range)) rest := by
  have read := Quotation.read_string range.toList rest
  rw [rangeWord, List.cons_append, List.tail_cons, List.append_assoc, spelledRange, Octets.ofText_eq,
    String.toList_ofList]
  exact read

/-- Whether nothing in a range begins an expansion where it is written as a JSON string. -/
def IsInert (range : Option String) : Prop :=
  ∀ text ∈ range, '$' ∉ text.toList ∧ '\x60' ∉ text.toList

theorem visible_escaped (range : String) :
    ∀ c ∈ range.toList.flatMap Json.escaped, 0x20 ≤ c.toNat := by
  intro c mem
  obtain ⟨d, -, inside⟩ := List.mem_flatMap.mp mem
  exact Quotation.escaped_visible d c inside

theorem isWord_rangeWord {range : String} (inert : '$' ∉ range.toList ∧ '\x60' ∉ range.toList) :
    (rangeWord range).IsWord := by
  have line : '\n' ∉ Octets.ofChars (range.toList.flatMap Json.escaped) := fun mem =>
    absurd (Octets.visible_ofChars (visible_escaped range) _ mem) (by decide)
  have spells : Spells (rangeWord range).text (rangeWord range).word true := by
    refine Spells.double line fun text => ?_
    rw [Quotation.read_string, if_neg (not_or.mpr inert), spelledRange, Octets.ofText_eq,
      String.toList_ofList]
  refine ⟨spells, ⟨'"', _, rfl, by decide⟩, ?_, .inl rfl⟩
  simpa [rangeWord] using line

theorem isText_rangeWord (range : String) : (rangeWord range).word.IsText where
  pieces := Word.pieces_marked .double _
  some := List.cons_ne_nil _ _
  home := fun same => nomatch Option.some.inj same

theorem isWord_formatWord : formatWord.IsWord where
  spells := Spells.single (by decide) (by decide) (by decide)
  begins := ⟨'-', _, rfl, by decide⟩
  line := by decide
  ordinary := .inl rfl

theorem isText_formatWord : formatWord.word.IsText where
  pieces := by
    have start : ∀ piece ∈ Word.bare formatOption, piece.IsText := Word.pieces_bare (by decide)
    have behind := Word.pieces_marked .single formatText
    have whole : formatWord.word = Word.bare formatOption ++
        (.mark .single :: Word.literal formatText ++ [.mark .single]) := List.append_assoc ..
    rw [whole]
    exact List.forall_mem_append.mpr ⟨start, behind⟩
  some := List.cons_ne_nil _ _
  home := fun same => absurd (Piece.char.inj (Option.some.inj same)).1 (by decide)

theorem isWord_logWords {range : Option String} (inert : IsInert range) :
    ∀ w ∈ logWords range, w.IsWord := by
  have log : (Written.bare "log").IsWord := Written.isWord_bare (by decide) (by decide) (by decide)
  have date : (Written.bare "--date=short").IsWord :=
    Written.isWord_bare (by decide) (by decide) (by decide)
  have merges : (Written.bare "--no-merges").IsWord :=
    Written.isWord_bare (by decide) (by decide) (by decide)
  intro w mem
  rcases List.mem_append.mp mem with front | behind
  · rcases List.mem_cons.mp front with rfl | given
    · exact log
    · obtain ⟨text, inside, rfl⟩ := List.mem_map.mp given
      exact isWord_rangeWord (inert text (Option.mem_toList.mp inside))
  · simp only [List.mem_cons, List.not_mem_nil, or_false] at behind
    rcases behind with rfl | rfl | rfl
    · exact isWord_formatWord
    · exact date
    · exact merges

theorem isText_logWords (range : Option String) : ∀ w ∈ logWords range, w.word.IsText := by
  have log : (Written.bare "log").word.IsText := Word.isText_bare (by decide) (by decide)
  have date : (Written.bare "--date=short").word.IsText := Word.isText_bare (by decide) (by decide)
  have merges : (Written.bare "--no-merges").word.IsText := Word.isText_bare (by decide) (by decide)
  intro w mem
  rcases List.mem_append.mp mem with front | behind
  · rcases List.mem_cons.mp front with rfl | given
    · exact log
    · obtain ⟨text, -, rfl⟩ := List.mem_map.mp given
      exact isText_rangeWord text
  · simp only [List.mem_cons, List.not_mem_nil, or_false] at behind
    rcases behind with rfl | rfl | rfl
    · exact isText_formatWord
    · exact date
    · exact merges

/-- The arguments that git gets on the command line for the log of a range. -/
def logArguments (range : Option String) : List String :=
  "log" :: range.toList.map spelledRange ++
    ["--pretty=format:" ++ logFormat, "--date=short", "--no-merges"]

theorem arguments_logWords (range : Option String) :
    (Written.arguments (logWords range)).map Octets.toText = logArguments range := by
  have bare {text : Octets} : (Written.bare text).word.unquoted = text := Word.unquoted_bare text
  have format : formatWord.word.unquoted = formatOption ++ formatText := by
    have whole : formatWord.word = Word.bare formatOption ++
        (.mark .single :: Word.literal formatText ++ [.mark .single]) := List.append_assoc ..
    rw [whole, Word.unquoted_append, Word.unquoted_bare, Word.unquoted_marked]
  have given (range : String) : (rangeWord range).word.unquoted = Octets.ofText (spelledRange range) :=
    Word.unquoted_marked .double _
  have log : Octets.toText "log" = "log" := by decide
  have option : Octets.toText (formatOption ++ formatText) = "--pretty=format:" ++ logFormat := by decide
  have date : Octets.toText "--date=short" = "--date=short" := by decide
  have merges : Octets.toText "--no-merges" = "--no-merges" := by decide
  rw [Written.arguments, logWords, logArguments]
  cases range with
  | none =>
    simp only [Option.toList_none, List.map_nil, List.map_cons, List.nil_append, List.cons_append, bare,
      format, log, option, date, merges]
  | some range =>
    simp only [Option.toList_some, List.map_nil, List.map_cons, List.nil_append, List.cons_append, bare,
      format, given, Octets.toText_ofText, log, option, date, merges]

/-- The command line for a log has no control characters. -/
theorem visible_logCommand (range : Option String) :
    ∀ c ∈ (logCommand range).toList, 0x20 ≤ c.toNat := by
  cases range with
  | none => decide
  | some range =>
    have start : ∀ c ∈ "git log".toList, 0x20 ≤ c.toNat := by decide
    have blank : ∀ c ∈ " ".toList, 0x20 ≤ c.toNat := by decide
    have behind : ∀ c ∈ logEnd.toList, 0x20 ≤ c.toNat := by decide
    have given := visible_escaped range
    simp only [logCommand_some, String.toList_append, String.toList_ofList, Json.quoted,
      List.forall_mem_append, List.forall_mem_cons]
    exact ⟨start, blank, ⟨⟨by decide, given⟩, by decide⟩, behind⟩

theorem obstacle?_logCommand (range : Option String) {folder : Path} {disk : Disk}
    (here : disk.find folder = .ok .folder) : obstacle? (logCommand range) folder disk = none := by
  have noNull : (logCommand range).toList.contains '\x00' = false := by
    rw [List.contains_eq_mem, decide_eq_false_iff_not]
    exact fun mem => absurd (visible_logCommand range _ mem) (by decide)
  have some : (logCommand range).isEmpty = false := by
    rw [String.isEmpty_eq_false_iff]
    intro empty
    have octets := ofText_logCommand range
    rw [empty] at octets
    exact nomatch octets
  rw [obstacle?, noNull, some, here]
  rfl

/-- Launching the command line for the log of an inert range calls git and does nothing else. -/
theorem launch_logCommand {git : Program} {range : Option String} {folder : Path} {disk : Disk}
    {programs : List Program} (environment : List (String × String)) (inert : IsInert range)
    (free : obstacle? (logCommand range) folder disk = none)
    (found : git.IsFound gitName folder programs) :
    launch (logCommand range) folder environment disk programs =
      (⟨git.reply.stdout, git.reply.stderr, .exited (git.reply.status % 256)⟩, disk,
        git.calledIn programs (logArguments range)) := by
  have word : (Written.bare gitName).IsWord := Written.isWord_bare (by decide) (by decide) (by decide)
  have name : (Written.bare gitName).word.unquoted = gitName := Word.unquoted_bare gitName
  have text : (Written.bare gitName).word.IsText := Word.isText_bare (by decide) (by decide)
  have called : git.IsCalled (Written.bare gitName) (logWords range) folder programs :=
    { command := { word with assigns := rfl, declares := by decide }
      words := isWord_logWords inert
      text := List.forall_mem_cons.mpr ⟨text, by simpa using isText_logWords range⟩
      found := name ▸ found }
  rw [launch_called environment (ofText_logCommand range) free called, arguments_logWords]

/-- Whatever is in the way of the command line, an inert range leaves the disk as it is, and all programs
but git. -/
theorem launch_logCommand_frame {git : Program} {range : Option String} {folder : Path} (disk : Disk)
    {programs : List Program} (environment : List (String × String)) (inert : IsInert range)
    (found : git.IsFound gitName folder programs) :
    (launch (logCommand range) folder environment disk programs).2 = (disk, programs) ∨
      (launch (logCommand range) folder environment disk programs).2 =
        (disk, git.calledIn programs (logArguments range)) := by
  cases free : obstacle? (logCommand range) folder disk with
  | some obstacle =>
    rw [launch, free]
    exact .inl rfl
  | none => exact .inr (congrArg Prod.snd (launch_logCommand environment inert free found))

/-- Whether a range has only characters that a JSON string and the shell spell alike. -/
def IsVerbatim (range : String) : Prop :=
  ∀ c ∈ range.toList, c ≠ '$' ∧ c ≠ '\x60' ∧ 0x20 ≤ c.toNat

instance (range : String) : Decidable (IsVerbatim range) :=
  inferInstanceAs (Decidable (∀ c ∈ range.toList, _))

theorem isVerbatim_iff (range : String) :
    IsVerbatim range ↔ IsInert (some range) ∧ spelledRange range = range := by
  have spelling : spelledRange range = range ↔ ∀ c ∈ range.toList, 0x20 ≤ c.toNat := by
    rw [← Quotation.spelled_eq_self_iff, spelledRange, ← String.toList_inj, String.toList_ofList]
  rw [spelling, IsInert]
  constructor
  · intro verbatim
    refine ⟨fun text given => ?_, fun c mem => (verbatim c mem).2.2⟩
    obtain rfl := Option.some.inj given
    exact ⟨fun mem => (verbatim _ mem).1 rfl, fun mem => (verbatim _ mem).2.1 rfl⟩
  · rintro ⟨inert, visible⟩ c mem
    obtain ⟨dollar, backquote⟩ := inert range rfl
    exact ⟨fun same => dollar (same ▸ mem), fun same => backquote (same ▸ mem), visible c mem⟩

/-- The shell reads the word of a range as an expansion exactly if the range has a dollar sign or a
backquote, and as the range itself exactly if it has no control characters either. Of a range that is read
without expansions git gets the spelling of the JSON string as one argument, and nothing else happens. -/
theorem range_verbatim_iff {git : Program} {folder : Path} {disk : Disk} {programs : List Program}
    (environment : List (String × String)) (range : String) (here : disk.find folder = .ok .folder)
    (found : git.IsFound gitName folder programs) :
    let line := logCommand (some range)
    let inside := Octets.ofChars (range.toList.flatMap Json.escaped) ++ '"' :: Octets.ofText logEnd
    let arguments := ["log", range, "--pretty=format:" ++ logFormat, "--date=short", "--no-merges"]
    Octets.ofText line = Octets.ofText "git log \"" ++ inside ∧
      (Quotation.read inside = .expands ↔ ¬IsInert (some range)) ∧
      (Quotation.read inside = .closed (Octets.ofText range) (Octets.ofText logEnd) ↔
        IsVerbatim range) ∧
      (IsInert (some range) → launch line folder environment disk programs =
        (⟨git.reply.stdout, git.reply.stderr, .exited (git.reply.status % 256)⟩, disk,
          git.calledIn programs (logArguments (some range)))) ∧
      (IsInert (some range) → (logArguments (some range) = arguments ↔ IsVerbatim range)) := by
  intro line inside arguments
  have read := read_rangeWord range (Octets.ofText logEnd)
  have within : (rangeWord range).text.tail ++ Octets.ofText logEnd = inside := List.append_assoc ..
  have inert : IsInert (some range) ↔ ¬('$' ∈ range.toList ∨ '\x60' ∈ range.toList) := by
    rw [not_or, IsInert]
    exact ⟨fun all => all range rfl, fun one text given => Option.some.inj given ▸ one⟩
  have spelling : Octets.ofText (spelledRange range) = Octets.ofText range ↔ spelledRange range = range :=
    ⟨fun same => String.toList_inj.mp (Octets.ofChars_inj same), congrArg Octets.ofText⟩
  rw [within] at read
  refine ⟨?_, ?_, ?_, fun plain => ?_, fun plain => ?_⟩
  · have start : Octets.ofText "git log" ++ Octets.ofText " " ++ ['"'] = Octets.ofText "git log \"" := by
      decide
    have opened : (rangeWord range).text = '"' :: (rangeWord range).text.tail := rfl
    have whole : line = _ := logCommand_some range
    rw [← start, ← within, whole, Octets.ofText_append, Octets.ofText_append, Octets.ofText_append,
      ofText_quoted, opened]
    simp only [List.append_assoc, List.cons_append, List.nil_append, List.tail_cons]
  · rw [read, inert, Decidable.not_not]
    split
    · rename_i expands
      exact iff_of_true rfl expands
    · rename_i plain
      exact iff_of_false (fun same => nomatch same) plain
  · rw [read, isVerbatim_iff, inert]
    split
    · rename_i expands
      exact iff_of_false (fun same => nomatch same) fun plain => plain.1 expands
    · rename_i plain
      rw [and_iff_right plain, ← spelling, Quotation.closed.injEq, and_iff_left rfl]
  · exact launch_logCommand environment plain (obstacle?_logCommand _ here) found
  · rw [isVerbatim_iff, and_iff_right plain]
    refine ⟨fun same => ?_, fun same => ?_⟩
    · exact (List.cons.inj (List.cons.inj same).2).1
    · rw [logArguments, Option.toList_some, List.map_singleton, same]
      rfl

/-- A range with quotation marks and a backslash reaches git as it is. -/
theorem range_verbatim_marks :
    let git : Program := { name := some "git", replies := [{}] }
    let disk : Disk := { folders := [["w"]] }
    let range := "topic/\"x\"\\y..HEAD"
    disk.find ["w"] = .ok .folder ∧ git.IsFound gitName ["w"] [git] ∧ IsInert (some range) ∧
      IsVerbatim range ∧
      launch (logCommand (some range)) ["w"] [] disk [git] = (⟨[], [], .exited 0⟩, disk,
        git.calledIn [git]
          ["log", range, "--pretty=format:" ++ logFormat, "--date=short", "--no-merges"]) := by
  intro git disk range
  have here : disk.find ["w"] = .ok .folder := rfl
  have found : git.IsFound gitName ["w"] [git] := ⟨by decide, by decide, by decide, by decide⟩
  have verbatim : IsVerbatim range := by decide
  have inert := ((isVerbatim_iff range).mp verbatim).1
  obtain ⟨-, -, -, launched, same⟩ := range_verbatim_iff [] range here found
  refine ⟨here, found, inert, verbatim, ?_⟩
  rw [← (same inert).mpr verbatim]
  exact launched inert

/-- Of a range with an expansion in it git gets what the shell makes of it. -/
theorem range_expands :
    let git : Program := { name := some "git", replies := [{}] }
    let range := "v1..$(echo HEAD)"
    let launched := launch (logCommand (some range)) ["w"] [] { folders := [["w"]] } [git]
    Quotation.read (Octets.ofChars (range.toList.flatMap Json.escaped) ++
        '"' :: Octets.ofText logEnd) = .expands ∧
      launched.2.2.map Program.calls =
        [[["log", "v1..HEAD", "--pretty=format:" ++ logFormat, "--date=short", "--no-merges"]]] := by
  decide +kernel

end DocMend.Commit
