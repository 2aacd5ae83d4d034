import DocMend.Proofs.Shell.Quotation
import DocMend.Shell.Word.Reading
/-!
Reading of single words in the POSIX language: bare characters, characters between single quotation marks,
and characters between double ones. Reading goes from character to character (`Leads`); what it gives for a
text between double quotation marks is what the rules for such texts say.
-/

set_option autoImplicit false
set_option relaxedAutoImplicit false

namespace DocMend.Shell

/-- A place in a line of the POSIX language that stands outside aliases and marks of here-documents. -/
structure Reading.InLine (r : Reading) : Prop where
  posix : r.dialect = .posix
  idle : r.expanding = []
  unmarked : r.checks.mark = false

/-- The same place with another text to be read. -/
def Reading.onText (r : Reading) (text : Octets) : Reading :=
  { r with rest := text }

variable {r : Reading} {commands : CommandReader} {c : Char} {text : Octets}

/-- What is read after something else is read from where that has come to. -/
theorem run_bind_ok {α β : Type} {first : Reader α} {next : α → Reader β} {before after : Reading} {a : α}
    (done : first.run before = .ok (a, after)) : (first >>= next).run before = (next a).run after := by
  rw [StateT.run_bind, done]
  rfl

/-- What has an end is not refused. -/
theorem run_tryCatch_ok {α : Type} {body : Reader α} {handler : Flaw → Reader α} {before : Reading}
    {result : α × Reading} (done : body.run before = .ok result) :
    (tryCatch body handler).run before = .ok result := by
  have done : body before = .ok result := done
  simp only [tryCatch, tryCatchThe, MonadExceptOf.tryCatch, StateT.run, done]
  rfl

theorem next_run (idle : r.expanding = []) (text : Octets) :
    Reader.next.run (r.onText text) = .ok (text.head?, r.onText text.tail) := by
  obtain ⟨rest, line, dialect, alternatives, aliases, expanding, pushed, last, lastWord, checks, awaited,
    unended, documents⟩ := r
  obtain rfl : expanding = [] := idle
  cases text with
  | nil => rfl
  | cons c rest => rfl

theorem dropJoints_inLine (n : Nat) (inLine : '\n' ∉ text) : Reader.dropJoints n text = (n, text) := by
  rw [Reader.dropJoints]
  rintro rest rfl
  simp at inLine

theorem nextJoined_run (idle : r.expanding = []) (inLine : '\n' ∉ text) :
    Reader.nextJoined.run (r.onText text) = .ok (text.head?, r.onText text.tail) := by
  have kept : (if (Reader.dropJoints 0 text).1 = 0 then r.onText text else
      { r with rest := (Reader.dropJoints 0 text).2, line := r.line + (Reader.dropJoints 0 text).1 }) =
      r.onText text := by
    rw [dropJoints_inLine 0 inLine, if_pos rfl]
  rw [Reader.nextJoined, StateT.run_bind, StateT.run_modify, pure_bind, ← next_run idle text]
  exact congrArg Reader.next.run kept

theorem readExtension_run (posix : r.dialect = .posix) (c : Char) (b : Building) :
    (readExtension commands c b).run r = .ok (none, r) := by
  simp only [readExtension, StateT.run_bind, StateT.run_get, pure_bind, posix]
  rfl

namespace Building

/-- A part of a word outside quotation marks. -/
def bare (pieces : Word) (quotes : Bool) : Building :=
  { pieces, hasQuotes := quotes }

/-- A part of a word with an open single quotation mark. -/
def inSingle (pieces : Word) (quotes : Bool) : Building :=
  { level := { mode := .single }, pieces, hasQuotes := quotes }

/-- A part of a word with an open double quotation mark. -/
def inDouble (pieces : Word) (quotes : Bool) : Building :=
  { level := { mode := .double, quoted := true }, pieces, hasQuotes := quotes }

/-- Characters are not an expansion of all parameters. -/
theorem isFaint_chars {pieces : Word} (chars : ∀ piece ∈ pieces, ∃ c quoted, piece = .char c quoted) :
    isFaint .posix pieces = false := by
  cases pieces with
  | nil => rfl
  | cons piece rest =>
    obtain ⟨c, quoted, rfl⟩ := chars piece (by simp)
    cases rest with
    | nil => rfl
    | cons other rest => rfl

/-- The mark behind characters between double quotation marks. -/
theorem addDouble_close (cs : Octets) (pieces : Word) (quotes : Bool) :
    addDouble .posix (bare (Word.literal cs ++ .mark .double :: pieces) quotes) =
      bare (.mark .double :: Word.literal cs ++ .mark .double :: pieces) quotes := by
  have inside {p : Piece → Bool} (chars : ∀ c, p (.char c true) = true)
      (marks : p (.mark .double) = false) :
      (Word.literal cs ++ .mark .double :: pieces).takeWhile p = Word.literal cs := by
    rw [List.takeWhile_append_of_pos, List.takeWhile_cons_of_neg (by simp [marks]), List.append_nil]
    intro piece mem
    obtain ⟨c, -, rfl⟩ := List.mem_map.mp mem
    exact chars c
  have faint : isFaint .posix (Word.literal cs) = false := by
    refine isFaint_chars fun piece mem => ?_
    obtain ⟨c, -, rfl⟩ := List.mem_map.mp mem
    exact ⟨c, true, rfl⟩
  simp only [addDouble, bare]
  rw [inside (fun _ => rfl) rfl, faint, List.drop_left]
  rfl

end Building

open Building

variable {pieces : Word} {quotes : Bool}

/-- The characters that mean something outside quotation marks. -/
def meaning : List Char :=
  ['\n', '\\', '$', '\x60', '\x7d', '\x27', '"', ' ', '\t', '<', '>', '(', ')', ';', '&', '|']

variable (commands pieces quotes) in
theorem readPiece_bare (posix : r.dialect = .posix) (ordinary : c ∉ meaning) :
    (readPiece commands none c (bare pieces quotes)).run r =
      .ok (.more (bare (.char c false :: pieces) quotes), r) := by
  simp only [meaning, List.mem_cons, not_or, List.not_mem_nil] at ordinary
  obtain ⟨line, slash, dollar, backquote, brace, single, double, space, tab, less, greater, opening, closing,
    semicolon, ampersand, bar, -⟩ := ordinary
  have inside : (Octets.isBlank c || c == '<' || c == '>' || c == '(' || c == ')' || c == ';' ||
      c == '&' || c == '|') = false := by
    simp [Octets.isBlank, *]
  unfold readPiece
  simp only [bare, line, beq_iff_eq, if_false, StateT.run_bind, readExtension_run posix, inside,
    Bool.false_and, Bool.false_eq_true]
  rfl

variable (commands pieces quotes) in
theorem readPiece_double (posix : r.dialect = .posix) (plain : Quotation.IsPlain c) (inLine : c ≠ '\n') :
    (readPiece commands none c (inDouble pieces quotes)).run r =
      .ok (.more (inDouble (.char c true :: pieces) quotes), r) := by
  obtain ⟨quote, slash, dollar, backquote⟩ := plain
  unfold readPiece
  by_cases brace : c = '\x7d'
  · subst brace
    have line : ('\x7d' == '\n') = false := rfl
    simp only [line, Bool.false_eq_true, if_false, StateT.run_bind, readExtension_run posix]
    rfl
  · simp only [inDouble, inLine, beq_iff_eq, if_false, StateT.run_bind, readExtension_run posix, quote]
    rfl

variable (commands pieces quotes) in
theorem readPiece_single (posix : r.dialect = .posix) (inside : c ≠ '\x27') (inLine : c ≠ '\n') :
    (readPiece commands none c (inSingle pieces quotes)).run r =
      .ok (.more (inSingle (.char c true :: pieces) quotes), r) := by
  unfold readPiece
  simp only [inSingle, inLine, beq_iff_eq, if_false, StateT.run_bind, readExtension_run posix, inside]
  rfl

theorem readPiece_openSingle (posix : r.dialect = .posix) :
    (readPiece commands none '\x27' (bare pieces quotes)).run r =
      .ok (.more (inSingle (.mark .single :: pieces) quotes), r) := by
  unfold readPiece
  have line : ('\x27' == '\n') = false := rfl
  simp only [line, Bool.false_eq_true, if_false, StateT.run_bind, readExtension_run posix]
  rfl

theorem readPiece_closeSingle (posix : r.dialect = .posix) :
    (readPiece commands none '\x27' (inSingle pieces quotes)).run r =
      .ok (.more (bare (.mark .single :: pieces) true), r) := by
  unfold readPiece
  have line : ('\x27' == '\n') = false := rfl
  simp only [line, Bool.false_eq_true, if_false, StateT.run_bind, readExtension_run posix]
  rfl

variable (commands quotes) in
theorem readPiece_openDouble (posix : r.dialect = .posix) :
    (readPiece commands none '"' (bare [] quotes)).run r =
      .ok (.more (inDouble [.mark .double] quotes), r) := by
  unfold readPiece
  have line : ('"' == '\n') = false := rfl
  simp only [line, Bool.false_eq_true, if_false, StateT.run_bind, readExtension_run posix]
  simp only [bare]
  rfl

theorem readPiece_closeDouble (posix : r.dialect = .posix) (cs : Octets) :
    (readPiece commands none '"' (inDouble (Word.literal cs ++ .mark .double :: pieces) quotes)).run r =
      .ok (.more (bare (.mark .double :: Word.literal cs ++ .mark .double :: pieces) true), r) := by
  unfold readPiece
  have line : ('"' == '\n') = false := rfl
  simp only [line, Bool.false_eq_true, if_false, StateT.run_bind, readExtension_run posix]
  rw [← addDouble_close, ← posix]
  rfl

variable (commands pieces quotes) in
/-- A backslash between double quotation marks. -/
theorem readPiece_slash (inLine : r.InLine) (c : Char) (rest : Octets) :
    (readPiece commands none '\\' (inDouble pieces quotes)).run (r.onText (c :: rest)) =
      .ok (.more (inDouble
        (if c = '$' ∨ c = '\x60' ∨ c = '"' ∨ c = '\\' then .char c true :: pieces
          else .char c true :: .char '\\' true :: pieces) true), r.onText rest) := by
  have escape : (readEscape none (inDouble pieces quotes)).run (r.onText (c :: rest)) = .ok (inDouble
      (if c = '$' ∨ c = '\x60' ∨ c = '"' ∨ c = '\\' then .char c true :: pieces
        else .char c true :: .char '\\' true :: pieces) true, r.onText rest) := by
    unfold readEscape
    simp only [StateT.run_bind, next_run inLine.idle, List.head?_cons, List.tail_cons]
    split
    · rename_i special
      rcases special with rfl | rfl | rfl | rfl <;> rfl
    · rename_i plain
      simp only [not_or] at plain
      simp only [inDouble, bind, Except.bind, plain, Bool.true_and, Option.isSome_none, decide_true,
        Bool.and_true, Bool.or_false, Bool.or_true, Bool.and_eq_true, bne_iff_ne, ne_eq, not_false_eq_true,
        and_self, if_true, StateT.run_pure]
      rfl
  have posix : (r.onText (c :: rest)).dialect = .posix := inLine.posix
  unfold readPiece
  have line : ('\\' == '\n') = false := rfl
  simp only [line, Bool.false_eq_true, if_false, StateT.run_bind, readExtension_run posix]
  have done : (do return Progress.more (← readEscape none (inDouble pieces quotes))).run
      (r.onText (c :: rest)) =
      .ok (.more (inDouble
        (if c = '$' ∨ c = '\x60' ∨ c = '"' ∨ c = '\\' then .char c true :: pieces
          else .char c true :: .char '\\' true :: pieces) true), r.onText rest) := by
    rw [StateT.run_bind, escape]
    rfl
  exact done

theorem readPiece_blank (posix : r.dialect = .posix) :
    (readPiece commands none ' ' (bare pieces quotes)).run r = .ok (.past (bare pieces quotes), r) := by
  unfold readPiece
  have line : (' ' == '\n') = false := rfl
  simp only [line, Bool.false_eq_true, if_false, StateT.run_bind, readExtension_run posix]
  rfl

/-- Reads on in a word from its next character. -/
def readOn (commands : CommandReader) (r : Reading) (fuel : Nat) (text : Octets) (b : Building) :
    Except Flaw ((Building × Option Char) × Reading) :=
  (readPieces commands none fuel false text.head? b).run (r.onText text.tail)

/-- Reading a word comes from one text and what was read before it to another text and what was read by
then, however much fuel there is. -/
def Leads (commands : CommandReader) (r : Reading) (text : Octets) (b : Building) (after : Octets)
    (later : Building) : Prop :=
  ∀ fuel, text.length < fuel → ∃ left, after.length < left ∧
    readOn commands r fuel text b = readOn commands r left after later

namespace Leads

variable {first second third : Octets} {b c' d : Building}

theorem refl (text : Octets) (b : Building) : Leads commands r text b text b :=
  fun fuel enough => ⟨fuel, enough, rfl⟩

theorem trans (front : Leads commands r first b second c') (back : Leads commands r second c' third d) :
    Leads commands r first b third d := by
  intro fuel enough
  obtain ⟨left, more, same⟩ := front fuel enough
  obtain ⟨last, most, equal⟩ := back left more
  exact ⟨last, most, same.trans equal⟩

/-- A character that does not end the word. -/
theorem step (inLine : r.InLine) (line : '\n' ∉ second) (shorter : second.length ≤ first.length)
    (read : (readPiece commands none c b).run (r.onText first) = .ok (.more c', r.onText second)) :
    Leads commands r (c :: first) b second c' := by
  intro fuel enough
  cases fuel with
  | zero => exact absurd enough (Nat.not_lt_zero _)
  | succ left =>
    rw [List.length_cons] at enough
    refine ⟨left, by omega, ?_⟩
    have one := next_run inLine.idle second
    have joined := nextJoined_run inLine.idle line
    rw [readOn, readPieces]
    simp only [List.head?_cons, List.tail_cons, pure_bind, Bool.false_eq_true, if_false]
    rw [run_bind_ok read]
    simp only
    split
    · rw [run_bind_ok one]
      rfl
    · rw [run_bind_ok joined]
      rfl

variable (commands) in
/-- Bare characters. -/
theorem chars (inLine : r.InLine) {cs : Octets} (ordinary : ∀ c ∈ cs, c ∉ meaning)
    (line : '\n' ∉ text) (pieces : Word) (quotes : Bool) :
    Leads commands r (cs ++ text) (bare pieces quotes) text
      (bare ((Word.bare cs).reverse ++ pieces) quotes) := by
  induction cs generalizing pieces with
  | nil => exact refl _ _
  | cons c cs ih =>
    have rest : ∀ d ∈ cs, d ∉ meaning := fun d mem => ordinary d (by simp [mem])
    have inside : '\n' ∉ cs ++ text := by
      rw [List.mem_append, not_or]
      exact ⟨fun mem => rest _ mem (by decide), line⟩
    have posix : (r.onText (cs ++ text)).dialect = .posix := inLine.posix
    have first := step inLine inside (Nat.le_refl _)
      (readPiece_bare commands pieces quotes posix (ordinary c (by simp)))
    have more := ih rest (.char c false :: pieces)
    rw [Word.bare, List.map_cons, List.reverse_cons, List.append_assoc]
    exact first.trans more

variable (commands) in
/-- Characters behind a single quotation mark, up to the next one. -/
theorem chars_single (inLine : r.InLine) {cs : Octets} (inside : '\x27' ∉ cs)
    (line : '\n' ∉ cs ++ '\x27' :: text) (around : Word) (quotes : Bool) :
    Leads commands r (cs ++ '\x27' :: text) (inSingle around quotes) text
      (bare (.mark .single :: (Word.literal cs).reverse ++ around) true) := by
  have posix (text : Octets) : (r.onText text).dialect = .posix := inLine.posix
  induction cs generalizing around with
  | nil =>
    have rest : '\n' ∉ text := fun mem => line (by simp [mem])
    exact step inLine rest (Nat.le_refl _) (readPiece_closeSingle (posix _))
  | cons c cs ih =>
    have rest : '\n' ∉ cs ++ '\x27' :: text := fun mem => line (List.mem_cons_of_mem c mem)
    have first : c ≠ '\x27' ∧ c ≠ '\n' := by
      constructor
      · rintro rfl
        exact inside (by simp)
      · rintro rfl
        exact line (by simp)
    have one := step inLine rest (Nat.le_refl _)
      (readPiece_single commands around quotes (posix _) first.1 first.2)
    have more := ih (fun mem => inside (List.mem_cons_of_mem c mem)) rest (.char c true :: around)
    simp only [Word.literal, List.map_cons, List.reverse_cons, List.append_assoc, List.cons_append,
      List.nil_append] at more ⊢
    exact one.trans more

variable (commands) in
/-- Characters between single quotation marks. -/
theorem single (inLine : r.InLine) {cs : Octets} (inside : '\x27' ∉ cs)
    (line : '\n' ∉ cs ++ '\x27' :: text) (pieces : Word) (quotes : Bool) :
    Leads commands r ('\x27' :: (cs ++ '\x27' :: text)) (bare pieces quotes) text
      (bare (.mark .single :: (Word.literal cs).reverse ++ .mark .single :: pieces) true) := by
  have posix : (r.onText (cs ++ '\x27' :: text)).dialect = .posix := inLine.posix
  exact (step inLine line (Nat.le_refl _) (readPiece_openSingle posix)).trans
    (chars_single commands inLine inside line _ _)

variable (commands) in
/-- A text between double quotation marks, by the rules for such texts. -/
theorem double (inLine : r.InLine) {inside written after : Octets}
    (closed : Quotation.read inside = .closed written after) (line : '\n' ∉ inside) (seen : Octets)
    (quotes : Bool) :
    Leads commands r inside (inDouble (Word.literal seen ++ [.mark .double]) quotes) after
      (bare (.mark .double :: Word.literal (written.reverse ++ seen) ++ [.mark .double]) true) := by
  have posix (text : Octets) : (r.onText text).dialect = .posix := inLine.posix
  induction inside using Quotation.read.induct generalizing written seen quotes with
  | case1 => cases closed
  | case2 => cases closed
  | case3 rest ih => simp at line
  | case4 c rest inside special ih =>
    rw [Quotation.read, if_neg inside, if_pos special] at closed
    obtain ⟨text, whole, rfl⟩ := Quotation.eq_closed_of_prepend closed
    have behind : '\n' ∉ rest := fun mem => line (by simp [mem])
    have one := readPiece_slash commands (Word.literal seen ++ [.mark .double]) quotes inLine c rest
    rw [if_pos special] at one
    have more := ih whole behind (c :: seen) true
    rw [List.reverse_append, List.append_assoc]
    exact (step inLine behind (Nat.le_succ _) one).trans more
  | case5 c rest inside plain ih =>
    rw [Quotation.read, if_neg inside, if_neg plain] at closed
    obtain ⟨text, whole, rfl⟩ := Quotation.eq_closed_of_prepend closed
    have behind : '\n' ∉ rest := fun mem => line (by simp [mem])
    have one := readPiece_slash commands (Word.literal seen ++ [.mark .double]) quotes inLine c rest
    rw [if_neg plain] at one
    have more := ih whole behind (c :: '\\' :: seen) true
    rw [List.reverse_append, List.append_assoc]
    exact (step inLine behind (Nat.le_succ _) one).trans more
  | case6 rest _ _ =>
    obtain ⟨rfl, rfl⟩ := Quotation.closed.inj closed
    have behind : '\n' ∉ rest := fun mem => line (by simp [mem])
    exact step inLine behind (Nat.le_refl _) (readPiece_closeDouble (posix _) seen)
  | case7 c rest single slash quote begins =>
    rw [Quotation.read, if_neg quote, if_pos begins] at closed
    · cases closed
    · exact single
    · exact slash
  | case8 c rest single slash quote plain ih =>
    rw [Quotation.read, if_neg quote, if_neg plain] at closed
    · obtain ⟨text, whole, rfl⟩ := Quotation.eq_closed_of_prepend closed
      have different : c ≠ '\\' := by
        intro same
        cases rest with
        | nil => exact single same rfl
        | cons d more => exact slash d more same rfl
      have stands : Quotation.IsPlain c :=
        ⟨quote, different, fun same => plain (.inl same), fun same => plain (.inr same)⟩
      have here : c ≠ '\n' := by
        rintro rfl
        exact line (by simp)
      have behind : '\n' ∉ rest := fun mem => line (List.mem_cons_of_mem c mem)
      have one := readPiece_double commands (Word.literal seen ++ [.mark .double]) quotes (posix rest) stands
        here
      have more := ih whole behind (c :: seen) quotes
      rw [List.reverse_append, List.append_assoc]
      exact (step inLine behind (Nat.le_refl _) one).trans more
    · exact single
    · exact slash

/-- A blank ends the word. -/
theorem readOn_blank (posix : r.dialect = .posix) (fuel : Nat) (pieces : Word) (quotes : Bool) :
    readOn commands r (fuel + 1) (' ' :: text) (bare pieces quotes) =
      .ok ((bare pieces quotes, some ' '), r.onText text) := by
  have posix : (r.onText text).dialect = .posix := posix
  rw [readOn, readPieces]
  simp only [List.head?_cons, List.tail_cons, pure_bind, Bool.false_eq_true, if_false]
  rw [run_bind_ok (readPiece_blank posix)]
  rfl

theorem readOn_nil (fuel : Nat) (b : Building) :
    readOn commands r (fuel + 1) [] b = .ok ((b, none), r.onText []) := by
  rw [readOn, readPieces]
  rfl

end Leads

/-- A text is how a word is written: read from its beginning on, it gives that word. -/
def Spells (written : Octets) (word : Word) (quotes : Bool) : Prop :=
  ∀ (commands : CommandReader) (r : Reading) (text : Octets), r.InLine → '\n' ∉ text →
    Leads commands r (written ++ text) (bare [] false) text (bare word.reverse quotes)

variable (commands) in
/-- A word is read up to the blank behind it or to the end of the line. -/
theorem Spells.readWord_run {written : Octets} {word : Word} (spells : Spells written word quotes)
    (inLine : r.InLine) (line : '\n' ∉ text)
    (ends : text = [] ∨ ∃ rest, text = ' ' :: rest) :
    (readWord commands (written ++ text).head?).run (r.onText (written ++ text).tail) =
      .ok ((word, quotes, text.head?), r.onText text.tail) := by
  have longer : (written ++ text).length < (r.onText (written ++ text).tail).rest.length + 2 := by
    rw [Reading.onText, List.length_tail]
    omega
  obtain ⟨left, more, same⟩ := spells commands r text inLine line _ longer
  have read : readOn commands r left text (bare word.reverse quotes) =
      .ok ((bare word.reverse quotes, text.head?), r.onText text.tail) := by
    cases left with
    | zero => exact absurd more (Nat.not_lt_zero _)
    | succ left =>
      rcases ends with rfl | ⟨rest, rfl⟩
      · exact Leads.readOn_nil left _
      · exact Leads.readOn_blank inLine.posix left _ _
  have pieces := same.trans read
  have finished : unfinished? none (bare word.reverse quotes) = none := rfl
  rw [readOn] at pieces
  unfold readWord
  rw [StateT.run_bind, StateT.run_get, pure_bind]
  refine run_tryCatch_ok ?_
  refine (run_bind_ok pieces).trans ?_
  simp only [finished]
  rw [bare, List.reverse_reverse]
  rfl

/-- Bare characters write themselves. -/
theorem Spells.chars {cs : Octets} (ordinary : ∀ c ∈ cs, c ∉ meaning) :
    Spells cs (Word.bare cs) false := by
  intro commands r text inLine line
  have chars := Leads.chars commands inLine ordinary line [] false
  rwa [List.append_nil] at chars

/-- Bare characters before characters between single quotation marks. -/
theorem Spells.single {cs ds : Octets} (ordinary : ∀ c ∈ cs, c ∉ meaning) (inside : '\x27' ∉ ds)
    (short : '\n' ∉ ds) :
    Spells (cs ++ '\x27' :: ds ++ ['\x27'])
      (Word.bare cs ++ .mark .single :: Word.literal ds ++ [.mark .single]) true := by
  intro commands r text inLine line
  have quoted : '\n' ∉ ds ++ '\x27' :: text := by simp [short, line]
  have opened : '\n' ∉ '\x27' :: (ds ++ '\x27' :: text) := by simpa using quoted
  have front := Leads.chars commands inLine ordinary opened [] false
  have back := Leads.single commands inLine inside quoted ((Word.bare cs).reverse ++ []) false
  have both := front.trans back
  simpa using both

/-- A text between double quotation marks writes what it is read as. -/
theorem Spells.double {inside written : Octets} (short : '\n' ∉ inside)
    (closed : ∀ text, Quotation.read (inside ++ '"' :: text) = .closed written text) :
    Spells ('"' :: inside ++ ['"']) (.mark .double :: Word.literal written ++ [.mark .double]) true := by
  intro commands r text inLine line
  have quoted : '\n' ∉ inside ++ '"' :: text := by simp [short, line]
  have posix : (r.onText (inside ++ '"' :: text)).dialect = .posix := inLine.posix
  have front := Leads.step inLine quoted (Nat.le_refl _)
    (readPiece_openDouble commands false posix)
  have back := Leads.double commands inLine (closed text) quoted [] false
  have both := front.trans back
  simpa [Word.literal] using both

end DocMend.Shell
