import DocMend.Proofs.Shell.Spelling
import DocMend.Shell.Grammar
/-!
Reading of a line of words in the POSIX language: words with a blank between them are one simple command.
-/

set_option autoImplicit false
set_option relaxedAutoImplicit false

namespace DocMend.Shell

/-- A word with the text that writes it. -/
structure Written where
  text : Octets
  word : Word
  quotes : Bool

namespace Written

/-- A text writes a word that no other rule takes: it does not begin like another token, and it is no
keyword. -/
structure IsWord (w : Written) : Prop where
  spells : Spells w.text w.word w.quotes
  begins : ∃ c rest, w.text = c :: rest ∧ c ∉ ['\n', '&', '|', ';', '(', ')', ' ', '\t', '#']
  line : '\n' ∉ w.text
  ordinary : w.quotes = true ∨ ∀ text, Word.plain? w.word = some text →
    isKeyword .posix (Octets.name text) = false

/-- The token that a word is read as. -/
def token (w : Written) : Token :=
  .word w.word w.quotes

/-- A word of characters that stand for themselves. -/
def bare (text : Octets) : Written :=
  ⟨text, Word.bare text, false⟩

theorem plain?_bare (text : Octets) : Word.plain? (Word.bare text) = some text := by
  induction text with
  | nil => rfl
  | cons c text ih =>
    rw [Word.bare] at ih
    rw [Word.bare, List.map_cons, Word.plain?, ih]
    rfl

theorem isWord_bare {text : Octets} (some : text ≠ []) (ordinary : ∀ c ∈ text, c ∉ '#' :: meaning)
    (keyword : isKeyword .posix (Octets.name text) = false) : (bare text).IsWord where
  spells := Spells.chars fun c mem inside => ordinary c mem (List.mem_cons_of_mem _ inside)
  begins := by
    have among : ['\n', '&', '|', ';', '(', ')', ' ', '\t', '#'] ⊆ '#' :: meaning := by decide
    cases text with
    | nil => exact absurd rfl some
    | cons c rest => exact ⟨c, rest, rfl, fun mem => ordinary c (List.mem_cons_self ..) (among mem)⟩
  line := fun mem => ordinary _ mem (by decide)
  ordinary := by
    refine .inr fun shown same => ?_
    obtain rfl := Option.some.inj ((plain?_bare text).symm.trans same)
    exact keyword

/-- Words with a blank before each. -/
def spaced (list : List Written) : Octets :=
  list.flatMap fun w => ' ' :: w.text

theorem line_spaced {ws : List Written} (isWord : ∀ w ∈ ws, w.IsWord) : '\n' ∉ spaced ws := by
  intro mem
  obtain ⟨w, here, mem⟩ := List.mem_flatMap.mp mem
  rcases List.mem_cons.mp mem with blank | mem
  · exact absurd blank (by decide)
  · exact (isWord w here).line mem

theorem length_le_spaced (ws : List Written) : ws.length ≤ (spaced ws).length := by
  induction ws with
  | nil => exact Nat.le_refl 0
  | cons w ws ih =>
    rw [spaced, List.flatMap_cons, List.length_append, List.length_cons, List.length_cons]
    rw [spaced] at ih
    omega

theorem spaced_ends (ws : List Written) : spaced ws = [] ∨ ∃ rest, spaced ws = ' ' :: rest := by
  cases ws with
  | nil => exact .inl rfl
  | cons w ws => exact .inr ⟨_, rfl⟩

end Written

/-- A state of reading a line: the text that is left, the last token and whether it is read again, the
last word, and what is looked for. -/
def Reading.state (text : Octets) (pushed : Bool) (last : Token) (lastWord : Word)
    (checks : Checks) : Reading :=
  { rest := text, pushed, last, lastWord, checks }

open Reading

variable {commands : CommandReader} {inner : GoalReader} {text : Octets} {last : Token} {lastWord : Word}
  {checks : Checks}

variable (text last lastWord) in
theorem inLine_state (pushed : Bool) (unmarked : checks.mark = false) :
    (state text pushed last lastWord checks).InLine :=
  ⟨rfl, rfl, unmarked⟩

variable (commands last lastWord) in
theorem readWordToken_run {w : Written} (isWord : w.IsWord) (unmarked : checks.mark = false)
    (line : '\n' ∉ text) (ends : text = [] ∨ ∃ rest, text = ' ' :: rest) :
    (readWordToken commands (w.text ++ text).head?).run
      (state (w.text ++ text).tail false last lastWord checks) =
      .ok (w.token, state text false last w.word checks) := by
  have inLine := inLine_state text last lastWord false unmarked
  have read := isWord.spells.readWord_run commands inLine line ends
  unfold readWordToken
  refine (run_bind_ok read).trans ?_
  rcases ends with rfl | ⟨rest, rfl⟩
  · rfl
  · rfl

variable (commands last lastWord) in
theorem scanToken_word {w : Written} (isWord : w.IsWord) (unmarked : checks.mark = false)
    (line : '\n' ∉ text) (ends : text = [] ∨ ∃ rest, text = ' ' :: rest) (fuel : Nat) :
    (scanToken commands (fuel + 1)).run (state (w.text ++ text) false last lastWord checks) =
      .ok (w.token, state text false last w.word checks) := by
  obtain ⟨c, rest, begins, ordinary⟩ := isWord.begins
  have whole : '\n' ∉ w.text ++ text := by simp [isWord.line, line]
  have read := readWordToken_run commands last lastWord isWord unmarked line ends
  have idle : (state (w.text ++ text) false last lastWord checks).expanding = [] := rfl
  have next := nextJoined_run idle whole
  rw [begins] at read next ⊢
  simp only [List.mem_cons, not_or, List.not_mem_nil] at ordinary
  obtain ⟨line, ampersand, bar, semicolon, opening, closing, space, tab, hash, -⟩ := ordinary
  rw [scanToken]
  refine (run_bind_ok next).trans ?_
  have blank : Octets.isBlank c = false := by simp [Octets.isBlank, space, tab]
  have mark : (c == '#') = false := by simp [hash]
  simp only [List.cons_append, List.head?_cons, blank, mark, Bool.false_eq_true, if_false]
  exact read

variable (commands text last lastWord checks) in
theorem rawToken_pushed : (rawToken commands).run (state text true last lastWord checks) =
    .ok (last, state text false last lastWord checks) :=
  rfl

theorem rawToken_nil (lastWord : Word) (checks : Checks) :
    (rawToken commands).run (state [] false last lastWord checks) =
      .ok (.ending, state [] false .ending lastWord checks) :=
  rfl

theorem rawToken_scanned {token : Token} {after : Octets} {later : Word}
    (scanned : (scanToken commands (text.length + 2)).run (state text false last lastWord checks) =
      .ok (token, state after false last later checks)) :
    (rawToken commands).run (state text false last lastWord checks) =
      .ok (token, state after false token later checks) := by
  rw [rawToken, StateT.run_bind, StateT.run_get, pure_bind]
  exact run_bind_ok scanned

variable (commands last lastWord) in
theorem rawToken_word {w : Written} (isWord : w.IsWord) (unmarked : checks.mark = false)
    (line : '\n' ∉ text) (ends : text = [] ∨ ∃ rest, text = ' ' :: rest) :
    (rawToken commands).run (state (w.text ++ text) false last lastWord checks) =
      .ok (w.token, state text false w.token w.word checks) :=
  rawToken_scanned (scanToken_word commands last lastWord isWord unmarked line ends _)

variable (commands last lastWord) in
theorem rawToken_spaced {w : Written} (isWord : w.IsWord) (unmarked : checks.mark = false)
    (line : '\n' ∉ text) (ends : text = [] ∨ ∃ rest, text = ' ' :: rest) :
    (rawToken commands).run (state (' ' :: (w.text ++ text)) false last lastWord checks) =
      .ok (w.token, state text false w.token w.word checks) := by
  have scanned := scanToken_word commands last lastWord isWord unmarked line ends
    ((w.text ++ text).length + 1)
  have idle : (state (' ' :: (w.text ++ text)) false last lastWord checks).expanding = [] := rfl
  have whole : '\n' ∉ ' ' :: (w.text ++ text) := by simp [isWord.line, line]
  refine rawToken_scanned ?_
  rw [scanToken]
  exact (run_bind_ok (nextJoined_run idle whole)).trans scanned

theorem Reader.expect_run {pushed : Bool} {expected : Checks} :
    (Reader.expect expected).run (state text pushed last lastWord checks) =
      .ok ((), state text pushed last lastWord expected) :=
  rfl

theorem Reader.isExtended_run {pushed : Bool} :
    Reader.isExtended.run (state text pushed last lastWord checks) =
      .ok (false, state text pushed last lastWord checks) :=
  rfl

theorem Grammar.fuel_run {pushed : Bool} :
    Grammar.fuel.run (state text pushed last lastWord checks) =
      .ok (text.length + 3, state text pushed last lastWord checks) :=
  rfl

theorem Reader.pushBack_run {pushed : Bool} :
    Reader.pushBack.run (state text pushed last lastWord checks) =
      .ok ((), state text true last lastWord checks) :=
  rfl

theorem aliasValue?_run {name : Octets} {pushed : Bool} :
    (aliasValue? name).run (state text pushed last lastWord checks) =
      .ok (none, state text pushed last lastWord checks) :=
  rfl

/-- Whether a token is read as it stands, as no keyword. -/
def Token.IsPlain (token : Token) : Prop :=
  ∀ pieces text, token = .word pieces false → Word.plain? pieces = some text →
    Shell.isKeyword .posix (Octets.name text) = false

theorem readTokenFor_run {token : Token} {after : Octets} {pushed : Bool} {later : Word}
    (raw : (rawToken commands).run (state text pushed last lastWord checks) =
      .ok (token, state after false token later checks))
    (here : checks.newlines = false) (plain : token.IsPlain) (fuel : Nat) :
    (readTokenFor commands (fuel + 1) checks).run (state text pushed last lastWord checks) =
      .ok (token, state after false token later {}) := by
  rw [readTokenFor]
  simp only [here, Bool.false_eq_true, if_false]
  refine (run_bind_ok raw).trans ?_
  cases token with
  | word pieces quoted =>
    cases quoted with
    | true => rfl
    | false =>
      cases shown : Word.plain? pieces with
      | none =>
        simp only [shown]
        rfl
      | some text =>
        have keyword := plain pieces text rfl shown
        simp only [shown]
        rw [StateT.run_bind, StateT.run_get, pure_bind]
        refine (run_bind_ok Reader.expect_run).trans ?_
        rw [StateT.run_bind, StateT.run_get, pure_bind]
        have posix : (state after false (.word pieces false) later {}).dialect = .posix := rfl
        simp only [posix, keyword, Bool.and_false, Bool.false_eq_true, if_false]
        split
        · exact run_bind_ok aliasValue?_run
        · rfl
  | _ => rfl

theorem readToken_run {token : Token} {after : Octets} {pushed : Bool} {later : Word}
    (raw : (rawToken commands).run (state text pushed last lastWord checks) =
      .ok (token, state after false token later checks))
    (here : checks.newlines = false) (plain : token.IsPlain) :
    (readToken commands).run (state text pushed last lastWord checks) =
      .ok (token, state after false token later {}) :=
  readTokenFor_run raw here plain 1

variable (checks) in
theorem readTokenWith_run {expected : Checks} {token : Token} {after : Octets} {pushed : Bool}
    {later : Word}
    (raw : (rawToken commands).run (state text pushed last lastWord expected) =
      .ok (token, state after false token later expected))
    (here : expected.newlines = false) (plain : token.IsPlain) :
    (readTokenWith commands expected).run (state text pushed last lastWord checks) =
      .ok (token, state after false token later {}) :=
  readToken_run raw here plain

theorem Written.IsWord.isPlain {w : Written} (isWord : w.IsWord) : w.token.IsPlain := by
  intro pieces text same shown
  obtain ⟨rfl, unquoted⟩ := Token.word.inj same
  rcases isWord.ordinary with quoted | ordinary
  · rw [quoted] at unquoted
    exact nomatch unquoted
  · exact ordinary text shown

theorem isPlain_ending : Token.IsPlain .ending :=
  fun _ _ same => nomatch same

variable (commands inner last lastWord) in
/-- The words that follow a command are read up to the end of the line. -/
theorem simple_run (line : Nat) {ws : List Written} (isWord : ∀ w ∈ ws, w.IsWord) {first : Word}
    (ordinary : Grammar.declarers.contains (Word.leading first).name = false) (fuel : Nat)
    (enough : ws.length < fuel)
    (read : List Word) (firstRead : read.getLast? = some first) :
    ∃ later, (Grammar.simple commands inner line fuel false { words := read }).run
      (state (Written.spaced ws) false last lastWord {}) =
      .ok (.simple line [] (read.reverse ++ ws.map Written.word) [], state [] true .ending later {}) := by
  induction ws generalizing read fuel last lastWord with
  | nil =>
    cases fuel with
    | zero => exact absurd enough (Nat.not_lt_zero _)
    | succ fuel =>
      refine ⟨lastWord, ?_⟩
      rw [Grammar.simple]
      simp only [firstRead, ordinary]
      refine (run_bind_ok (readTokenWith_run _ (rawToken_nil _ _) rfl isPlain_ending)).trans ?_
      rw [List.map_nil, List.append_nil]
      rfl
  | cons w ws ih =>
    cases fuel with
    | zero => exact absurd enough (Nat.not_lt_zero _)
    | succ fuel =>
      have rest : ∀ v ∈ ws, v.IsWord := fun v mem => isWord v (List.mem_cons_of_mem w mem)
      have here := isWord w (List.mem_cons_self ..)
      have unmarked : ({ aliases := false, assignments := false || false } : Checks).mark = false := rfl
      have token := rawToken_spaced commands last lastWord here unmarked (Written.line_spaced rest)
        (Written.spaced_ends ws)
      have front : (w.word :: read).getLast? = some first := by
        rw [List.getLast?_cons, firstRead]
        rfl
      obtain ⟨later, done⟩ := ih w.token w.word rest fuel (Nat.lt_of_succ_lt_succ enough)
        (w.word :: read) front
      refine ⟨later, ?_⟩
      rw [Grammar.simple]
      simp only [firstRead, ordinary]
      refine (run_bind_ok (readTokenWith_run _ token rfl here.isPlain)).trans ?_
      rw [List.reverse_cons, List.append_assoc] at done
      exact done

/-- What a line of words says: to run the first one with the others as its arguments. -/
def Written.command (w : Written) (ws : List Written) : Command :=
  .simple 1 [] (w.word :: ws.map Written.word) []

section

variable {w : Written} {ws : List Written}

/-- A word that begins no assignment, and no declaration. -/
structure Written.IsCommand (w : Written) : Prop extends w.IsWord where
  assigns : Word.assignment? .posix w.word = none
  declares : Grammar.declarers.contains (Word.leading w.word).name = false

variable (commands inner) in
/-- The first word of a line is the name of the command. -/
theorem simple_named (isCommand : w.IsCommand) (isWord : ∀ v ∈ ws, v.IsWord) :
    ∃ later, (Grammar.simple commands inner 1 ((Written.spaced ws).length + 3) true {}).run
      (state (Written.spaced ws) true w.token w.word {}) =
      .ok (w.command ws, state [] true .ending later {}) := by
  have long : ws.length < (Written.spaced ws).length + 2 := by
    have shorter := Written.length_le_spaced ws
    omega
  obtain ⟨later, rest⟩ := simple_run commands inner w.token w.word 1 isWord isCommand.declares _ long
    [w.word] rfl
  have first := readTokenWith_run {} (rawToken_pushed commands (Written.spaced ws) w.token w.word
    { aliases := true, assignments := true }) rfl isCommand.isPlain
  have line : (Grammar.lineAfter {} w.token 1).run (state (Written.spaced ws) false w.token w.word {}) =
      .ok (1, state (Written.spaced ws) false w.token w.word {}) := rfl
  have posix : (state (Written.spaced ws) false w.token w.word {}).dialect = .posix := rfl
  refine ⟨later, ?_⟩
  rw [Grammar.simple]
  refine (run_bind_ok first).trans ?_
  refine (run_bind_ok line).trans ?_
  simp only [Written.token]
  rw [StateT.run_bind, StateT.run_get, pure_bind]
  simp only [Written.token] at posix
  simp only [posix, isCommand.assigns, Option.isSome_none, Bool.and_false, Bool.false_eq_true,
    if_false]
  exact rest

variable (commands inner) in
theorem command_run (isCommand : w.IsCommand) (isWord : ∀ v ∈ ws, v.IsWord) :
    ∃ later, (Grammar.command commands inner).run
      (state (Written.spaced ws) true w.token w.word {}) =
      .ok (w.command ws, state [] true .ending later {}) := by
  have token := readToken_run (rawToken_pushed commands (Written.spaced ws) w.token w.word {}) rfl
    isCommand.isPlain
  obtain ⟨later, simple⟩ := simple_named commands inner isCommand isWord
  refine ⟨later, ?_⟩
  rw [Grammar.command, StateT.run_bind, StateT.run_get, pure_bind]
  refine (run_bind_ok token).trans ?_
  exact simple

variable (commands text) in
theorem leads_run (isWord : w.IsWord) (fuel : Nat) :
    (Grammar.leads commands (fuel + 1)).run (state text true w.token w.word {}) =
      .ok ([], state text true w.token w.word {}) := by
  have token := readToken_run (rawToken_pushed commands text w.token w.word {}) rfl isWord.isPlain
  rw [Grammar.leads]
  exact (run_bind_ok token).trans rfl

variable (commands inner) in
theorem pipeline_run (isCommand : w.IsCommand) (isWord : ∀ v ∈ ws, v.IsWord) :
    ∃ later, (Grammar.pipeline commands inner).run
      (state (Written.spaced ws) true w.token w.word {}) =
      .ok (w.command ws, state [] true .ending later {}) := by
  obtain ⟨later, command⟩ := command_run commands inner isCommand isWord
  have leads := leads_run commands (Written.spaced ws) isCommand.toIsWord
    ((Written.spaced ws).length + 2)
  refine ⟨later, ?_⟩
  rw [Grammar.pipeline]
  refine (run_bind_ok Grammar.fuel_run).trans ?_
  refine (run_bind_ok leads).trans ?_
  refine (run_bind_ok Reader.isExtended_run).trans ?_
  simp only [List.isEmpty_nil, Bool.true_or, if_true, pure_bind, Bool.false_eq_true, if_false]
  refine (run_bind_ok Grammar.fuel_run).trans ?_
  refine (run_bind_ok command).trans ?_
  rfl

variable (commands inner last lastWord checks) in
theorem list_run (isCommand : w.IsCommand) (isWord : ∀ v ∈ ws, v.IsWord) (fuel : Nat) :
    ∃ later, (Grammar.list commands inner .line (fuel + 2) false none).run
      (state (w.text ++ Written.spaced ws) false last lastWord checks) =
      .ok (some (w.command ws), state [] true .ending later {}) := by
  obtain ⟨later, pipeline⟩ := pipeline_run commands inner isCommand isWord
  have word := rawToken_word commands last lastWord isCommand.toIsWord (rfl : atCommand.mark = false)
    (Written.line_spaced isWord) (Written.spaced_ends ws)
  have first := readTokenWith_run checks word rfl isCommand.isPlain
  refine ⟨later, ?_⟩
  rw [Grammar.list]
  refine (run_bind_ok first).trans ?_
  refine (run_bind_ok Reader.pushBack_run).trans ?_
  refine (run_bind_ok Grammar.fuel_run).trans ?_
  exact run_bind_ok pipeline

theorem list_nil (fuel : Nat) :
    (Grammar.list commands inner .line (fuel + 1) false none).run
      (state [] false .ending lastWord checks) =
      .ok (none, state [] true .ending lastWord {}) := by
  rw [Grammar.list]
  exact (run_bind_ok (readTokenWith_run checks (rawToken_nil lastWord atCommand) rfl isPlain_ending)).trans
    rfl

/-- Reading a line begins with what is left of the text, whatever was read before it. -/
theorem readLine_eq (text : Octets) (pushed : Bool) (last : Token) (lastWord : Word) :
    ∃ commands inner, readLine.run (state text pushed last lastWord {}) =
      (Grammar.list commands inner .line (text.length + 3) false none).run
        (state text false last lastWord {}) := by
  have start : (modify fun r : Reading => { r with pushed := false, awaited := [], checks := {} } :
      Reader Unit).run (state text pushed last lastWord {}) =
      .ok ((), state text false last lastWord {}) := rfl
  rw [readLine, deepest, Grammar.readGoal]
  exact ⟨_, _, (run_bind_ok start).trans (run_bind_ok Grammar.fuel_run)⟩

variable (lastWord) in
theorem readLine_nil : readLine.run (state [] true .ending lastWord {}) =
    .ok (none, state [] true .ending lastWord {}) := by
  obtain ⟨commands, inner, same⟩ := readLine_eq [] true .ending lastWord
  rw [same]
  exact list_nil _

/-- A line of words is one simple command. -/
theorem readLine_run (isCommand : w.IsCommand) (isWord : ∀ v ∈ ws, v.IsWord) :
    ∃ later, readLine.run { rest := w.text ++ Written.spaced ws } =
      .ok (some (w.command ws), state [] true .ending later {}) := by
  obtain ⟨commands, inner, same⟩ := readLine_eq (w.text ++ Written.spaced ws) false .newline []
  obtain ⟨later, list⟩ := list_run commands inner .newline [] {} isCommand isWord
    ((w.text ++ Written.spaced ws).length + 1)
  exact ⟨later, same.trans list⟩

end

end DocMend.Shell
