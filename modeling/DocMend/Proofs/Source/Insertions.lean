import DocMend.Proofs.Number.Counting
import DocMend.Proofs.Source.LineEnd
import Mathlib.Control.Monad.Basic
/-!
Insertions into a source, one after the other. Each of them keeps the source cut into its raw lines,
also where it appends to the last line, so that at any time the file can be written and read again.

Insertions before different lines, in either order: the lower one counts the lines that the upper one
has put in.

The text of the result: the raw lines before the index, the new lines with the terminator that is chosen for it,
and the other raw lines. Behind an open last line the terminator stands once more, before the new lines.
-/

set_option autoImplicit false
set_option relaxedAutoImplicit false

namespace DocMend

namespace Line

variable {lines : List (List Char)}

/-- A raw line ends in a line feed, or it is the last one and has none. -/
theorem Cut.head {line : List Char} (cut : Cut (line :: lines)) :
    (∃ body, '\n' ∉ body ∧ line = body ++ ['\n'] ∧ Cut lines) ∨ '\n' ∉ line ∧ lines = [] := by
  cases cut with
  | last filled feedless => exact Or.inr ⟨feedless, rfl⟩
  | cons body feedless cut => exact Or.inl ⟨body, feedless, rfl, cut⟩

/-- No raw line is empty, and a line feed is the last character of its line. -/
theorem Cut.filled (cut : Cut lines) : ∀ line ∈ lines, line ≠ [] ∧ '\n' ∉ line.dropLast := by
  induction cut with
  | nil => simp
  | last filled feedless =>
    intro line mem
    obtain rfl := List.mem_singleton.mp mem
    exact ⟨filled, fun feed => feedless (List.dropLast_subset _ feed)⟩
  | cons body feedless cut ih =>
    intro line mem
    rcases List.mem_cons.mp mem with rfl | other
    · exact ⟨by simp, by rwa [List.dropLast_concat]⟩
    · exact ih line other

/-- Every raw line but the last ends in a line feed. -/
theorem Cut.ended (cut : Cut lines) : ∀ line ∈ lines.dropLast, line.getLast? = some '\n' := by
  induction cut with
  | nil => simp
  | last filled feedless => simp
  | @cons body rest feedless cut ih =>
    intro line mem
    cases rest with
    | nil => exact absurd mem (by simp)
    | cons next more =>
      rw [List.dropLast_cons_of_ne_nil (List.cons_ne_nil next more)] at mem
      rcases List.mem_cons.mp mem with rfl | other
      · exact List.getLast?_concat
      · exact ih line other

end Line

namespace Source

variable {source : Source}

/-- Where the last line is ended, every line ends in a line feed. -/
private theorem endLast_ended {lines : List String} (cut : Line.Cut (lines.map String.toList))
    {terminator : String} (ends : terminator = "\n" ∨ terminator = "\r\n") :
    ∀ line ∈ endLast terminator lines, ∃ body, '\n' ∉ body ∧ line.toList = body ++ ['\n'] := by
  fun_induction endLast terminator lines with
  | case1 => simp
  | case2 only =>
    intro line mem
    obtain rfl := List.mem_singleton.mp mem
    rcases cut.head with ⟨body, feedless, shape, -⟩ | ⟨feedless, -⟩
    · rw [if_neg (by rw [Line.isOpen_ended shape]; decide)]
      exact ⟨body, feedless, shape⟩
    · rw [if_pos (Line.isOpen_feedless feedless), String.toList_append]
      rcases ends with rfl | rfl
      · exact ⟨only.toList, feedless, rfl⟩
      · exact ⟨only.toList ++ ['\r'], by simpa using feedless, by simp⟩
  | case3 first rest more ih =>
    intro line mem
    rcases Line.Cut.head cut with ⟨body, feedless, shape, cut⟩ | ⟨-, none⟩
    · rcases List.mem_cons.mp mem with rfl | other
      · exact ⟨body, feedless, shape⟩
      · exact ih cut line other
    · exact absurd (List.map_eq_nil_iff.mp none) more

theorem splice_length (source : Source) (added : List String) :
    source.splice source.lines.length added =
      ⟨endLast (source.terminatorFor source.lines.length) source.lines ++
        source.ended source.lines.length added⟩ := by
  simp only [splice, if_true, List.take_length, List.drop_length, List.append_nil, ended]

/-- Lines without line feeds keep the source cut into its lines also where they are appended. -/
theorem Cut.append (cut : source.Cut) {added : List String}
    (feedless : ∀ line ∈ added, '\n' ∉ line.toList) :
    (source.splice source.lines.length added).Cut := by
  have before : ∀ part ∈ (endLast (source.terminatorFor source.lines.length) source.lines).map
      String.toList, ∃ body, '\n' ∉ body ∧ part = body ++ ['\n'] := by
    intro part mem
    obtain ⟨line, old, rfl⟩ := List.mem_map.mp mem
    exact endLast_ended cut (source.terminatorFor_cases _) line old
  have behind := Line.cut_append (source.ended_feedless source.lines.length feedless) .nil
  rw [List.append_nil] at behind
  rw [splice_length, Source.Cut, List.map_append]
  exact Line.cut_append before behind

/-- An insertion of lines without line feeds, wherever it is. -/
theorem Cut.insert (cut : source.Cut) {insertion : Insertion} {patched : Source}
    (inserted : source.insert insertion = .ok patched)
    (feedless : ∀ line ∈ insertion.lines, '\n' ∉ line.toList) : patched.Cut := by
  obtain ⟨index, -, inside, rfl⟩ := insert_ok inserted
  by_cases last : index = source.lines.length
  · subst last
    exact cut.append feedless
  · exact cut.splice (by omega) feedless

/-- The same for one insertion after the other. -/
theorem Cut.insert_all {insertions : List Insertion} {patched : Source} (cut : source.Cut)
    (inserted : insertions.foldlM Source.insert source = .ok patched)
    (feedless : ∀ insertion ∈ insertions, ∀ line ∈ insertion.lines, '\n' ∉ line.toList) :
    patched.Cut := by
  induction insertions generalizing source with
  | nil =>
    obtain rfl := Except.ok.inj inserted
    exact cut
  | cons insertion rest ih =>
    rw [List.foldlM_cons] at inserted
    cases first : source.insert insertion with
    | error e =>
      rw [first] at inserted
      exact absurd inserted (by simp [bind, Except.bind])
    | ok next =>
      rw [first] at inserted
      have here : next.Cut := cut.insert first (feedless insertion List.mem_cons_self)
      exact ih here inserted fun other mem => feedless other (List.mem_cons_of_mem _ mem)

/-- After any insertions into a text, appended lines included, no raw line is empty, a line feed stands
at the end of its line only, and only the last line is without one. What is written then is read again
as the same lines. -/
theorem ofText_text_inserted (text : String) {insertions : List Insertion} {source : Source}
    (inserted : insertions.foldlM Source.insert (ofText text) = .ok source)
    (feedless : ∀ insertion ∈ insertions, ∀ line ∈ insertion.lines, '\n' ∉ line.toList) :
    (∀ raw ∈ source.lines, raw ≠ "" ∧ '\n' ∉ raw.toList.dropLast) ∧
      (∀ raw ∈ source.lines.dropLast, raw.toList.getLast? = some '\n') ∧
      ofText source.text = source ∧
      (ofText text).text = text := by
  have cut : source.Cut := (cut_ofText text).insert_all inserted feedless
  refine ⟨fun raw mem => ?_, fun raw mem => ?_, cut.ofText_text, text_ofText text⟩
  · obtain ⟨filled, inner⟩ := Line.Cut.filled cut raw.toList (List.mem_map_of_mem mem)
    exact ⟨fun empty => filled (by rw [empty]; rfl), inner⟩
  · have before : raw.toList ∈ (source.lines.map String.toList).dropLast := by
      rw [← List.map_dropLast]
      exact List.mem_map_of_mem mem
    exact Line.Cut.ended cut raw.toList before

/-- Lines are appended to an open line, put in before the first line and, none of them, appended once
more. -/
theorem ofText_text_inserted_open :
    let insertions : List Insertion :=
      [⟨2, ["c", "d\r"]⟩, ⟨0, ["", "*/"]⟩, ⟨6, []⟩]
    let source : Source := ⟨["\r\n", "*/\r\n", "a\r\n", "b\r\n", "c\r\n", "d\r\r\n"]⟩
    insertions.foldlM Source.insert (ofText "a\r\nb") = .ok source ∧
      (∀ insertion ∈ insertions, ∀ line ∈ insertion.lines, '\n' ∉ line.toList) ∧
      ofText source.text = source := by
  intro insertions source
  have inserted : insertions.foldlM Source.insert (ofText "a\r\nb") = .ok source := by
    decide +kernel
  have feedless : ∀ insertion ∈ insertions, ∀ line ∈ insertion.lines, '\n' ∉ line.toList := by
    decide +kernel
  exact ⟨inserted, feedless, (ofText_text_inserted _ inserted feedless).2.2.1⟩

/-- An insertion where the lines of a source fall into two parts. -/
private theorem splice_seam {before after : List String} (parts : source.lines = before ++ after)
    (filled : after ≠ []) (added : List String) :
    source.splice before.length added =
      ⟨before ++ source.ended before.length added ++ after⟩ := by
  have inside : before.length < source.lines.length := by
    have positive := List.length_pos_iff.mpr filled
    rw [parts, List.length_append]
    omega
  rw [splice_inside source inside, parts, List.take_left, List.drop_left]

/-- The first terminator of a file stays the same where lines are put in above the last line. -/
private theorem firstTerminator?_splice (cut : source.Cut) {index : Nat}
    (above : index + 1 < source.lines.length) {added : List String}
    (plain : ∀ line ∈ added, '\n' ∉ line.toList ∧ '\r' ∉ line.toList) :
    firstTerminator? (source.splice index added).lines = firstTerminator? source.lines := by
  rw [splice_inside source (by omega)]
  cases lines : source.lines with
  | nil => exact absurd above (by simp [lines])
  | cons raw rest =>
    have first : source.lines[0]? = some raw := by rw [lines]; rfl
    have filled : Line.terminator raw ≠ "" := cut.terminator_ne (by omega) first
    have closed : ¬(Line.terminator raw).isEmpty = true := by rwa [String.isEmpty_iff]
    cases index with
    | succ index =>
      rw [List.take_succ_cons, List.cons_append, List.cons_append, firstTerminator?_cons,
        firstTerminator?_cons, if_neg closed, if_neg closed]
    | zero =>
      cases added with
      | nil => rfl
      | cons line more =>
        obtain ⟨-, returnless⟩ := plain line List.mem_cons_self
        have own := terminatorFor_of_terminated first filled
        have ending := terminator_ended returnless source 0
        rw [ended, List.map_cons, List.take_zero, List.nil_append, List.cons_append,
          firstTerminator?_cons, firstTerminator?_cons, ending, own, if_neg closed, if_neg closed]

/-- Lines above an insertion get the terminator that they would have got without it. -/
private theorem terminatorFor_before (cut : source.Cut) {i j : Nat} (less : i < j)
    (inside : j < source.lines.length) (added : List String) :
    (source.splice j added).terminatorFor i = source.terminatorFor i := by
  have found : source.lines[i]? = some source.lines[i] := List.getElem?_eq_getElem (by omega)
  have above : i + 1 < source.lines.length := by omega
  have filled := cut.terminator_ne above found
  have kept := (getElem?_splice_before source inside added less).trans found
  rw [terminatorFor_of_terminated kept filled, terminatorFor_of_terminated found filled]

/-- So do lines below an insertion of plain lines. -/
private theorem terminatorFor_after (cut : source.Cut) {i j : Nat} (less : i < j)
    (inside : j < source.lines.length) {added : List String}
    (plain : ∀ line ∈ added, '\n' ∉ line.toList ∧ '\r' ∉ line.toList) :
    (source.splice i added).terminatorFor (j + added.length) = source.terminatorFor j := by
  have here : i < source.lines.length := by omega
  have kept := getElem?_splice_after source here added (Nat.le_of_lt less)
  have above : i + 1 < source.lines.length := by omega
  have first := firstTerminator?_splice cut above plain
  rw [terminatorFor, terminatorFor, kept, first]

/-- Two insertions before different lines can be carried out in either order. -/
theorem splice_comm (cut : source.Cut) {i j : Nat} (less : i < j) (inside : j < source.lines.length)
    {xs : List String} (plain : ∀ line ∈ xs, '\n' ∉ line.toList ∧ '\r' ∉ line.toList)
    (ys : List String) :
    (source.splice i xs).splice (j + xs.length) ys = (source.splice j ys).splice i xs := by
  have upper : (source.splice j ys).ended i xs = source.ended i xs := by
    rw [ended, ended, terminatorFor_before cut less inside]
  have lower : (source.splice i xs).ended (j + xs.length) ys = source.ended j ys := by
    rw [ended, ended, terminatorFor_after cut less inside plain]
  obtain ⟨before, rest, parts, rfl⟩ : ∃ before rest, source.lines = before ++ rest ∧
      i = before.length :=
    ⟨_, _, (List.take_append_drop i _).symm, by rw [List.length_take]; omega⟩
  have size := congrArg List.length parts
  rw [List.length_append] at size
  obtain ⟨middle, after, rfl, rfl⟩ : ∃ middle after, rest = middle ++ after ∧
      j = (before ++ middle).length := by
    refine ⟨_, _, (List.take_append_drop (j - before.length) rest).symm, ?_⟩
    rw [List.length_append, List.length_take]
    omega
  rw [List.length_append] at less inside size
  have filled : after ≠ [] := by
    rintro rfl
    rw [List.length_nil] at size
    omega
  have filled' : middle ++ after ≠ [] := fun empty => filled (List.append_eq_nil_iff.mp empty).2
  have parts' : source.lines = (before ++ middle) ++ after := by rw [parts, List.append_assoc]
  have above := splice_seam parts filled' xs
  have below := splice_seam parts' filled ys
  have first : (source.splice before.length xs).lines =
      (before ++ source.ended before.length xs ++ middle) ++ after := by
    rw [above, List.append_assoc _ middle]
  have second : (source.splice (before ++ middle).length ys).lines =
      before ++ (middle ++ source.ended (before ++ middle).length ys ++ after) := by
    rw [below, List.append_assoc, List.append_assoc, List.append_assoc]
  have place : (before ++ source.ended before.length xs ++ middle).length =
      (before ++ middle).length + xs.length := by
    simp only [ended, List.length_append, List.length_map]
    omega
  calc (source.splice before.length xs).splice ((before ++ middle).length + xs.length) ys
      = ⟨before ++ source.ended before.length xs ++ middle ++
          source.ended (before ++ middle).length ys ++ after⟩ := by
        rw [← lower, ← place, splice_seam first filled ys]
    _ = (source.splice (before ++ middle).length ys).splice before.length xs := by
        rw [splice_seam second (by simp [filled]) xs, upper]
        simp only [List.append_assoc]

section Text

/-- The terminator of lines that are put in at an index: what the line there ends in, else the first terminator
of the file, else a line feed. -/
inductive Chosen (source : Source) (index : Nat) : String → Prop
  | own {raw ending : String} (here : source.lines[index]? = some raw) (ends : Line.EndsIn raw ending)
      (ended : ending ≠ "") : Chosen source index ending
  | first {before after : List String} {raw ending : String}
      (bare : ∀ raw ∈ source.lines[index]?, Line.EndsIn raw "") (parts : source.lines = before ++ raw :: after)
      (plain : ∀ other ∈ before, Line.EndsIn other "") (ends : Line.EndsIn raw ending) (ended : ending ≠ "") :
      Chosen source index ending
  | feed (plain : ∀ raw ∈ source.lines, Line.EndsIn raw "") : Chosen source index "\n"

private theorem firstTerminator?_eq_some_iff {lines : List String} {ending : String} :
    firstTerminator? lines = some ending ↔ ∃ before raw after, lines = before ++ raw :: after ∧
      (∀ other ∈ before, Line.EndsIn other "") ∧ Line.EndsIn raw ending ∧ ending ≠ "" := by
  rw [firstTerminator?, List.find?_map, Option.map_eq_some_iff]
  simp only [List.find?_eq_some_iff_append, Function.comp, Bool.not_eq_true', String.isEmpty_eq_false_iff,
    Bool.not_not, String.isEmpty_iff, Line.endsIn_iff]
  constructor
  · rintro ⟨raw, ⟨ended, before, after, parts, plain⟩, rfl⟩
    exact ⟨before, raw, after, parts, plain, rfl, ended⟩
  · rintro ⟨before, raw, after, parts, plain, rfl, ended⟩
    exact ⟨raw, ⟨ended, before, after, parts, plain⟩, rfl⟩

private theorem Chosen.terminatorFor_eq {index : Nat} {ending : String} (chosen : source.Chosen index ending) :
    source.terminatorFor index = ending := by
  cases chosen with
  | own here ends ended =>
    obtain rfl := Line.endsIn_iff.mp ends
    exact terminatorFor_of_terminated here ended
  | first bare parts plain ends ended =>
    have none : ((source.lines[index]?).map Line.terminator).getD "" = "" := by
      cases here : source.lines[index]? with
      | none => rfl
      | some raw => exact Line.endsIn_iff.mp (bare raw here)
    have found := firstTerminator?_eq_some_iff.mpr ⟨_, _, _, parts, plain, ends, ended⟩
    rw [terminatorFor, none, if_pos (by decide), found, Option.getD_some]
  | feed plain =>
    rcases source.terminatorFor_mem index with ⟨raw, mem, ended, -⟩ | ⟨-, feed⟩
    · exact absurd (Line.endsIn_iff.mp (plain raw mem)) ended
    · exact feed

private theorem chosen_terminatorFor (source : Source) (index : Nat) :
    source.Chosen index (source.terminatorFor index) := by
  rw [terminatorFor]
  split
  · rename_i none
    have bare : ∀ raw ∈ source.lines[index]?, Line.EndsIn raw "" := fun raw here => by
      rw [Option.mem_def.mp here, Option.map_some, Option.getD_some, String.isEmpty_iff] at none
      exact Line.endsIn_iff.mpr none
    cases found : firstTerminator? source.lines with
    | none =>
      refine .feed fun raw mem => Line.endsIn_iff.mpr ?_
      have empty := List.find?_eq_none.mp found _ (List.mem_map_of_mem mem)
      simpa using empty
    | some ending =>
      obtain ⟨before, raw, after, parts, plain, ends, ended⟩ := firstTerminator?_eq_some_iff.mp found
      exact .first bare parts plain ends ended
  · rename_i filled
    cases here : source.lines[index]? with
    | none => simp [here] at filled
    | some raw =>
      rw [here, Option.map_some, Option.getD_some, String.isEmpty_iff] at filled
      exact .own here (Line.endsIn_iff.mpr rfl) filled

/-- One terminator is chosen for an index, the one that the insertion takes. -/
theorem chosen_iff {index : Nat} {ending : String} :
    source.Chosen index ending ↔ ending = source.terminatorFor index :=
  ⟨fun chosen => chosen.terminatorFor_eq.symm, fun same => same ▸ chosen_terminatorFor source index⟩

/-- The last line is ended where it has no terminator. -/
private theorem join_endLast (terminator : String) (lines : List String) :
    String.join (endLast terminator lines) =
      String.join lines ++ if ∃ raw ∈ lines.getLast?, Line.EndsIn raw "" then terminator else "" := by
  fun_induction endLast terminator lines with
  | case1 => rfl
  | case2 line =>
    have bare : Line.isOpen line = true ↔ ∃ raw ∈ [line].getLast?, Line.EndsIn raw "" := by
      simp [Line.endsIn_iff, Line.isOpen, Line.terminator]
    by_cases unended : Line.isOpen line = true
    · rw [if_pos unended, if_pos (bare.mp unended)]
      simp
    · rw [if_neg unended, if_neg fun h => unended (bare.mpr h), String.append_empty]
  | case3 first rest more ih =>
    obtain ⟨second, others, rfl⟩ := List.exists_cons_of_ne_nil more
    have whole : String.join (first :: second :: others) = first ++ String.join (second :: others) :=
      String.join_cons
    rw [String.join_cons, ih, whole, List.getLast?_cons_cons, String.append_assoc]

private theorem text_eq_join (source : Source) : source.text = String.join source.lines :=
  String.toList_injective (by rw [text, String.toList_ofList, String.toList_join])

private theorem join_splice (source : Source) {index : Nat} (inside : index ≤ source.lines.length)
    (added : List String) :
    let ending := source.terminatorFor index
    String.join (source.splice index added).lines = String.join (source.lines.take index) ++
      (if index = source.lines.length ∧ ∃ raw ∈ source.lines.getLast?, Line.EndsIn raw "" then ending else "") ++
      String.join (added.map (· ++ ending)) ++ String.join (source.lines.drop index) := by
  intro ending
  rw [splice, String.join_append, String.join_append]
  by_cases last : index = source.lines.length
  · subst last
    simp only [if_true, List.take_length, join_endLast, true_and, ending]
  · simp only [last, if_false, false_and, String.append_empty, ending]

end Text

end Source

end DocMend
