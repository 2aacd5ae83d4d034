import DocMend.Shell.Evaluation.Script
/-!
Expansion of words of characters and quotation marks. Such a word is one field, and that is its text: it
is not cut, and nothing in it is replaced.
-/

set_option autoImplicit false
set_option relaxedAutoImplicit false

namespace DocMend.Shell

namespace Run

variable {α β : Type} {v w : World}

/-- What is done after something else is done from where that has come to. -/
theorem bind_ok {first : Run α} {next : α → Run β} {a : α} (done : first.run.run w = (.ok a, v)) :
    (first >>= next).run.run w = (next a).run.run v := by
  have done : first w = (.ok a, v) := done
  simp only [bind, ExceptT.run, ExceptT.bind, ExceptT.mk, StateT.bind, StateT.run, done, ExceptT.bindCont]

/-- Nothing is done after what was broken off. -/
theorem bind_error {first : Run α} {next : α → Run β} {r : Raise}
    (raised : first.run.run w = (.error r, v)) :
    (first >>= next).run.run w = (.error r, v) := by
  have raised : first w = (.error r, v) := raised
  simp only [bind, ExceptT.run, ExceptT.bind, ExceptT.mk, StateT.bind, StateT.run, raised, ExceptT.bindCont]
  rfl

theorem self_bind (next : Interpreter → Run β) : (self >>= next).run.run w = (next w.self).run.run w :=
  rfl

theorem machine_bind (next : Machine → Run β) :
    (machine >>= next).run.run w = (next w.machine).run.run w :=
  rfl

theorem isExtended_run (posix : w.self.dialect = .posix) : isExtended.run.run w = (.ok false, w) := by
  rw [isExtended, self_bind, posix]
  rfl

theorem has_run {option : String} :
    (has option).run.run w = (.ok (w.self.options.contains option), w) :=
  rfl

end Run

namespace Engine

theorem run_ofDepth (depth : Nat) : (ofDepth (depth + 1)).run = Evaluation.run (ofDepth depth) :=
  rfl

theorem script_ofDepth (depth : Nat) :
    (ofDepth (depth + 1)).script = Evaluation.runScript (ofDepth depth) :=
  rfl

theorem expand_ofDepth (depth : Nat) :
    (ofDepth (depth + 1)).expand = Expansion.segments (ofDepth depth) :=
  rfl

end Engine

/-- A piece as an item of a field. -/
def Piece.item : Piece → FieldItem
  | .char c quoted => some (c, quoted)
  | _ => none

/-- A character that has no meaning in patterns where it stands, or a quotation mark. -/
inductive Piece.IsText : Piece → Prop
  | bare {c : Char} (plain : c ∉ ['*', '?', '[']) : IsText (.char c false)
  | quoted (c : Char) : IsText (.char c true)
  | single : IsText (.mark .single)
  | double : IsText (.mark .double)

/-- The items of a part of a word. -/
def Part.items : Part → List FieldItem
  | .bare text => text.map fun c => some (c, false)
  | .quoted text => text.map fun c => some (c, true)
  | .piece other => [other.item]

theorem items_partsOf (word : Word) : (partsOf word).flatMap Part.items = word.map Piece.item := by
  induction word using partsOf.induct with
  | case1 => rfl
  | case2 c rest text parts same ih =>
    rw [partsOf, same, List.map_cons, ← ih, same]
    rfl
  | case3 c rest other ih =>
    rw [partsOf, List.map_cons, ← ih]
    split
    · rename_i same
      exact (other _ _ same).elim
    · rfl
  | case4 c rest text parts same ih =>
    rw [partsOf, same, List.map_cons, ← ih, same]
    rfl
  | case5 c rest other ih =>
    rw [partsOf, List.map_cons, ← ih]
    split
    · rename_i same
      exact (other _ _ same).elim
    · rfl
  | case6 piece rest bare quoted ih =>
    rw [partsOf, List.map_cons, ← ih]
    · rfl
    · exact bare
    · exact quoted

/-- A part of a word of text: characters, or a quotation mark. -/
inductive Part.IsText : Part → Prop
  | bare (text : Octets) : IsText (.bare text)
  | quoted (text : Octets) : IsText (.quoted text)
  | mark {mark : Mark} (visible : mark ≠ .faint) : IsText (.piece (.mark mark))

theorem isText_partsOf {word : Word} (isText : ∀ piece ∈ word, piece.IsText) :
    ∀ part ∈ partsOf word, part.IsText := by
  induction word with
  | nil => exact fun _ mem => nomatch mem
  | cons piece rest ih =>
    have rest := ih fun piece mem => isText piece (List.mem_cons_of_mem _ mem)
    cases isText piece (List.mem_cons_self ..) with
    | bare plain =>
      rw [partsOf]
      split
      · rename_i same
        rw [same, List.forall_mem_cons] at rest
        exact List.forall_mem_cons.mpr ⟨.bare _, rest.2⟩
      · exact List.forall_mem_cons.mpr ⟨.bare _, rest⟩
    | quoted c =>
      rw [partsOf]
      split
      · rename_i same
        rw [same, List.forall_mem_cons] at rest
        exact List.forall_mem_cons.mpr ⟨.quoted _, rest.2⟩
      · exact List.forall_mem_cons.mpr ⟨.quoted _, rest⟩
    | single => exact List.forall_mem_cons.mpr ⟨.mark (by decide), rest⟩
    | double => exact List.forall_mem_cons.mpr ⟨.mark (by decide), rest⟩

namespace Cutting

theorem foldl_keep_fixed (text : PatternText) (cutting : Cutting) :
    cutting.segment (.fixed text) = (text.map some).foldl keep cutting := by
  rw [segment, List.foldl_map]

theorem current_foldl_keep (items : List FieldItem) (cutting : Cutting) :
    items.foldl keep cutting = { cutting with current := items.reverse ++ cutting.current } := by
  induction items generalizing cutting with
  | nil => rfl
  | cons item items ih =>
    rw [List.foldl_cons, ih, List.reverse_cons, List.append_assoc]
    rfl

end Cutting

namespace Expansion

variable {e : Engine} {spread : Spread} {w : World}

/-- A part of a word of text keeps its items as they stand. -/
theorem part_text (whole : spread.cutsBare = false) {part : Part} (isText : part.IsText) :
    ∃ segment, (Expansion.part e spread part).run.run w = (.ok [segment], w) ∧
      ∀ cutting : Cutting, cutting.segment segment = part.items.foldl Cutting.keep cutting := by
  cases isText with
  | bare text =>
    refine ⟨.fixed (text.map fun c => (c, false)), ?_, fun cutting => ?_⟩
    · rw [Expansion.part, whole]
      rfl
    · rw [Cutting.foldl_keep_fixed, List.map_map]
      rfl
  | quoted text =>
    refine ⟨.fixed (text.map fun c => (c, true)), rfl, fun cutting => ?_⟩
    rw [Cutting.foldl_keep_fixed, List.map_map]
    rfl
  | mark visible =>
    rename_i mark
    cases mark with
    | faint => exact absurd rfl visible
    | single => exact ⟨.mark, rfl, fun _ => rfl⟩
    | double => exact ⟨.mark, rfl, fun _ => rfl⟩

theorem parts_text (whole : spread.cutsBare = false) {list : List Part}
    (isText : ∀ part ∈ list, part.IsText) :
    ∃ segments, (parts e spread list).run.run w = (.ok segments, w) ∧
      ∀ cutting : Cutting, segments.foldl Cutting.segment cutting =
        (list.flatMap Part.items).foldl Cutting.keep cutting := by
  induction list with
  | nil => exact ⟨[], rfl, fun _ => rfl⟩
  | cons part list ih =>
    rw [List.forall_mem_cons] at isText
    obtain ⟨segment, first, items⟩ := part_text (e := e) (w := w) whole isText.1
    obtain ⟨segments, rest, more⟩ := ih isText.2
    refine ⟨segment :: segments, ?_, fun cutting => ?_⟩
    · rw [parts]
      exact (Run.bind_ok first).trans ((Run.bind_ok rest).trans rfl)
    · rw [List.foldl_cons, items, more, List.flatMap_cons, List.foldl_append]

end Expansion

/-- A word of characters that mean nothing where they stand, and of quotation marks. -/
structure Word.IsText (word : Word) : Prop where
  pieces : ∀ piece ∈ word, piece.IsText
  some : word ≠ []
  home : word.head? ≠ .some (.char '~' false)

namespace Word

theorem unquoted_bare (cs : Octets) : (bare cs).unquoted = cs := by
  rw [unquoted, bare, List.filterMap_map]
  exact List.filterMap_some

theorem unquoted_literal (cs : Octets) : (literal cs).unquoted = cs := by
  rw [unquoted, literal, List.filterMap_map]
  exact List.filterMap_some

theorem unquoted_append (first second : Word) :
    unquoted (first ++ second) = unquoted first ++ unquoted second :=
  List.filterMap_append

theorem unquoted_marked (mark : Mark) (cs : Octets) :
    unquoted (.mark mark :: literal cs ++ [.mark mark]) = cs := by
  have same : unquoted (.mark mark :: literal cs ++ [.mark mark]) =
      unquoted (literal cs ++ [.mark mark]) := rfl
  rw [same, unquoted_append, unquoted_literal]
  exact List.append_nil cs

theorem pieces_bare {cs : Octets} (plain : ∀ c ∈ cs, c ∉ ['*', '?', '[']) :
    ∀ piece ∈ bare cs, piece.IsText := by
  intro piece mem
  obtain ⟨c, inside, rfl⟩ := List.mem_map.mp mem
  exact .bare (plain c inside)

theorem pieces_literal (cs : Octets) : ∀ piece ∈ literal cs, piece.IsText := by
  intro piece mem
  obtain ⟨c, -, rfl⟩ := List.mem_map.mp mem
  exact .quoted c

/-- A text between quotation marks. -/
theorem pieces_marked {mark : Mark} (visible : (Piece.mark mark).IsText) (cs : Octets) :
    ∀ piece ∈ .mark mark :: literal cs ++ [.mark mark], piece.IsText := by
  rw [List.forall_mem_append, List.forall_mem_cons]
  exact ⟨⟨visible, pieces_literal cs⟩, by simpa using visible⟩

end Word

/-- A word of characters that mean nothing anywhere. -/
theorem Word.isText_bare {cs : Octets} (some : cs ≠ []) (plain : ∀ c ∈ cs, c ∉ ['~', '*', '?', '[']) :
    (bare cs).IsText where
  pieces := pieces_bare fun c mem inside => plain c mem (List.mem_cons_of_mem _ inside)
  some := by simpa [bare] using some
  home := by
    cases cs with
    | nil => exact absurd rfl some
    | cons c rest =>
      intro same
      have tilde := (Piece.char.inj (Option.some.inj same)).1
      exact plain c (List.mem_cons_self ..) (by simp [tilde])

/-- The text of the items is that of the word. -/
theorem filterMap_item (word : Word) :
    ((word.map Piece.item).filterMap id).map Prod.fst = word.unquoted := by
  induction word with
  | nil => rfl
  | cons piece rest ih =>
    cases piece with
    | char c quoted => exact congrArg (c :: ·) ih
    | _ => exact ih

theorem isPattern_item {word : Word} (isText : ∀ piece ∈ word, piece.IsText) :
    isPattern false ((word.map Piece.item).filterMap id) = false := by
  rw [isPattern, Bool.false_and, Bool.or_false, List.any_eq_false]
  intro item mem
  obtain ⟨_, inside, same⟩ := List.mem_filterMap.mp mem
  obtain ⟨piece, inWord, rfl⟩ := List.mem_map.mp inside
  cases isText piece inWord with
  | bare plain =>
    obtain rfl := Option.some.inj same
    simpa [and_assoc] using plain
  | quoted c =>
    obtain rfl := Option.some.inj same
    simp
  | single => exact nomatch same
  | double => exact nomatch same

namespace Expansion

variable {w : World} {word : Word}

theorem withTilde_text (s : Interpreter) (isText : word.IsText) : withTilde s false word = word := by
  rw [withTilde]
  rintro rest rfl
  exact isText.home rfl

theorem expand_text (depth : Nat) (isText : word.IsText) :
    ∃ segments, ((Engine.ofDepth (depth + 1)).expand { full := true, tilde := true } word).run.run w =
      (.ok segments, w) ∧
      ∀ cutting : Cutting, segments.foldl Cutting.segment cutting =
        (word.map Piece.item).foldl Cutting.keep cutting := by
  have whole : ({ full := true, tilde := true } : Spread).cutsBare = false := rfl
  obtain ⟨segments, expanded, items⟩ := parts_text (e := Engine.ofDepth depth) (w := w) whole
    (isText_partsOf isText.pieces)
  rw [items_partsOf] at items
  refine ⟨segments, ?_, items⟩
  rw [Engine.expand_ofDepth, Expansion.segments]
  rw [Run.self_bind]
  simp only [withTilde_text w.self isText, Bool.false_eq_true, if_false, if_true]
  exact expanded

theorem fieldsOf_text (separators : Octets) {segments : List Segment} (some : word ≠ [])
    (items : ∀ cutting : Cutting, segments.foldl Cutting.segment cutting =
      (word.map Piece.item).foldl Cutting.keep cutting) :
    fieldsOf separators none segments = [(word.map Piece.item).filterMap id] := by
  have current : (word.map Piece.item).isEmpty = false := by
    cases word with
    | nil => exact absurd rfl some
    | cons piece rest => rfl
  rw [fieldsOf, items, Cutting.current_foldl_keep]
  simp only [Cutting.finish, List.append_nil, List.reverse_reverse, current, Bool.false_and,
    Bool.false_eq_true, if_false]
  rw [List.reverse_singleton, List.map_singleton]

theorem withFiles_text (isText : word.IsText) (plain : w.self.options = []) :
    (withFiles [(word.map Piece.item).filterMap id]).run.run w = (.ok [word.unquoted], w) := by
  have noGlob : w.self.options.contains "noglob" = false := by rw [plain]; rfl
  have noGroups : w.self.options.contains "extglob" = false := by rw [plain]; rfl
  rw [withFiles]
  rw [Run.self_bind]
  simp only [noGlob, noGroups, Bool.false_eq_true, if_false]
  rw [Run.machine_bind]
  simp only [List.flatMap_singleton, isPattern_item isText.pieces, Bool.false_eq_true, if_false,
    filterMap_item]
  rfl

/-- A word of text is one field. -/
theorem fields_text (depth : Nat) (isText : word.IsText) (plain : w.self.options = []) :
    (fields (Engine.ofDepth (depth + 1)) word).run.run w = (.ok [word.unquoted], w) := by
  obtain ⟨segments, expanded, items⟩ := expand_text (w := w) depth isText
  have cut := fieldsOf_text w.self.separators isText.some items
  rw [fields]
  refine (Run.bind_ok expanded).trans ?_
  rw [Run.self_bind]
  rw [cut]
  exact withFiles_text isText plain

/-- Words of text are a field each. -/
theorem words_text (depth : Nat) {list : List Word} (isText : ∀ word ∈ list, word.IsText)
    (posix : w.self.dialect = .posix) (plain : w.self.options = []) :
    (words (Engine.ofDepth (depth + 1)) list).run.run w = (.ok (list.map Word.unquoted), w) := by
  induction list with
  | nil => rfl
  | cons word list ih =>
    rw [List.forall_mem_cons] at isText
    have first := fields_text depth isText.1 plain
    have rest := ih isText.2
    rw [words, Run.bind_ok (Run.isExtended_run posix), Run.bind_ok Run.has_run]
    simp only [Bool.false_and, Bool.false_eq_true, if_false, pure_bind, List.mapM_cons, List.mapM_nil]
    have one : (do return [← fields (Engine.ofDepth (depth + 1)) word]).run.run w =
        (.ok [[word.unquoted]], w) := Run.bind_ok first
    rw [Run.bind_ok one, Run.bind_ok rest]
    rfl

end Expansion

end DocMend.Shell
