import DocMend.Proofs.Plan.Place
import DocMend.Proofs.Source.BlockEnd
import Mathlib.Data.Nat.SuccPred
/-!
Where tags go, told without the search. Of the lines that a window shows above a reported line, the tag
stands before the last one that holds the end of a comment, with the indent of that line; a window without
such a line gives a failure that names the window. A tag for a returned value asks for the reported line
first.
-/

set_option autoImplicit false
set_option relaxedAutoImplicit false

namespace DocMend

namespace Line

/-- The blanks and tabs that a line begins with, all of them. -/
def Indents (line indent : String) : Prop :=
  (∀ c ∈ indent.toList, c = ' ' ∨ c = '\t') ∧
    ∃ rest, line.toList = indent.toList ++ rest ∧ ∀ c ∈ rest.head?, c ≠ ' ' ∧ c ≠ '\t'

theorem indents_indent (line : String) : Indents line (indent line) := by
  refine ⟨fun c => indent_blank, line.toList.dropWhile fun c => c == ' ' || c == '\t', ?_, ?_⟩
  · rw [indent, String.toList_ofList, indentChars, List.takeWhile_append_dropWhile]
  · intro c first
    have stopped := List.head?_dropWhile_not (fun c : Char => c == ' ' || c == '\t') line.toList
    rw [Option.mem_def.mp first] at stopped
    simpa using stopped

/-- A line has one indent. -/
theorem Indents.indent_eq {line blanks : String} (indents : Indents line blanks) :
    indent line = blanks := by
  obtain ⟨blank, rest, whole, stop⟩ := indents
  have all : ∀ c ∈ blanks.toList, (c == ' ' || c == '\t') = true := by simpa using blank
  have none : rest.takeWhile (fun c => c == ' ' || c == '\t') = [] := by
    cases rest with
    | nil => rfl
    | cons c rest =>
      have ink := stop c rfl
      exact List.takeWhile_cons_of_neg (by simpa using ink)
  rw [indent, indentChars, whole, List.takeWhile_append_of_pos all, none, List.append_nil,
    String.ofList_toList]

end Line

namespace Source

/-- The indices of the lines that a window of `w` lines shows above a line and that hold the end of a
comment. -/
def BlockEnds (source : Source) (line w : Nat) : Set Nat :=
  {index | (line : Int) - 1 - w ≤ index ∧ (index : Int) ≤ line - 2 ∧
    ∃ raw, source.lines[index]? = some raw ∧ ['*', '/'] <:+: (Line.content raw).toList}

variable {source : Source} {line w index : Nat} {window : Number}

theorem mem_blockEnds : index ∈ source.BlockEnds line w ↔
    index + 2 ≤ line ∧ line ≤ index + 1 + w ∧ source.endsBlock index = true := by
  have mark : blockEnd.toList = ['*', '/'] := rfl
  have ends : source.endsBlock index = true ↔ ∃ raw, source.lines[index]? = some raw ∧
      ['*', '/'] <:+: (Line.content raw).toList := by
    rw [endsBlock]
    cases source.lines[index]? with
    | none => simp
    | some raw => simp [Text.contains, Text.occurs_iff, mark]
  have places : (line : Int) - 1 - w ≤ index ∧ (index : Int) ≤ line - 2 ↔
      index + 2 ≤ line ∧ line ≤ index + 1 + w := by omega
  rw [BlockEnds, Set.mem_ofPred_eq, ← ends, ← and_assoc, places, and_assoc]

/-- The anchor is the last block end that the window shows. -/
theorem anchor?_eq_some_iff (whole : window.toNat? = some w) (small : line ≤ Number.exactBound) :
    source.anchor? (Number.ofNat line) window = some index ↔
      IsGreatest (source.BlockEnds line w) index := by
  rw [anchor?_eq_some whole small]
  constructor
  · rintro ⟨above, reach, ends, none⟩
    refine ⟨mem_blockEnds.mpr ⟨above, reach, ends⟩, fun other mem => ?_⟩
    obtain ⟨before, -, closes⟩ := mem_blockEnds.mp mem
    by_contra later
    rw [none other (by omega) before] at closes
    exact absurd closes (by decide)
  · rintro ⟨mem, last⟩
    obtain ⟨above, reach, ends⟩ := mem_blockEnds.mp mem
    refine ⟨above, reach, ends, fun j later before => Bool.eq_false_iff.mpr fun closes => ?_⟩
    have within : j ≤ index := last (mem_blockEnds.mpr ⟨before, by omega, closes⟩)
    omega

theorem exists_isGreatest_blockEnds (shown : (source.BlockEnds line w).Nonempty) :
    ∃ index, IsGreatest (source.BlockEnds line w) index := by
  refine BddAbove.exists_isGreatest_of_nonempty ⟨line, fun index mem => ?_⟩ shown
  have above := (mem_blockEnds.mp mem).1
  omega

theorem anchor?_eq_none_iff (whole : window.toNat? = some w) (small : line ≤ Number.exactBound) :
    source.anchor? (Number.ofNat line) window = none ↔ source.BlockEnds line w = ∅ := by
  constructor
  · intro none
    by_contra some
    obtain ⟨index, greatest⟩ := exists_isGreatest_blockEnds (Set.nonempty_iff_ne_empty.mpr some)
    rw [(anchor?_eq_some_iff whole small).mpr greatest] at none
    exact absurd none (by simp)
  · intro empty
    cases found : source.anchor? (Number.ofNat line) window with
    | none => rfl
    | some index =>
      have mem := ((anchor?_eq_some_iff whole small).mp found).1
      rw [empty] at mem
      exact absurd mem (Set.notMem_empty index)

/-- A larger window keeps the anchor. -/
theorem anchor?_of_le {wider : Number} {v : Nat} (whole : window.toNat? = some w)
    (wide : wider.toNat? = some v) (le : w ≤ v) (small : line ≤ Number.exactBound)
    (found : source.anchor? (Number.ofNat line) window = some index) :
    source.anchor? (Number.ofNat line) wider = some index := by
  obtain ⟨above, reach, ends, none⟩ := (anchor?_eq_some whole small).mp found
  exact (anchor?_eq_some wide small).mpr ⟨above, by omega, ends, none⟩

/-- The raw line that a line number, counted from one, means. -/
def IsLine (source : Source) (line : Nat) (raw : String) : Prop :=
  ∃ index, line = index + 1 ∧ source.lines[index]? = some raw

theorem contentAt?_eq_some_iff (small : line ≤ Number.exactBound) {content : String} :
    source.contentAt? (Number.ofNat line - 1) = some content ↔
      ∃ raw, source.IsLine line raw ∧ Line.content raw = content := by
  cases line with
  | zero =>
    have nowhere : (Number.ofNat 0 - 1).toNat? = none := by decide
    simp [contentAt?, nowhere, IsLine]
  | succ index =>
    have place : (Number.ofNat (index + 1) - 1).toNat? = some index := by
      rw [Number.ofNat_succ_sub_one small, Number.toNat?_ofNat (by omega)]
    simp [contentAt?, place, IsLine]

end Source

namespace Plan

/-- A tag has the indent of the line it stands before. -/
theorem indent_tagLine (raw text : String) : Line.indent (tagLine raw text) = Line.indent raw := by
  refine Line.Indents.indent_eq ⟨fun c => Line.indent_blank, ("* " ++ text).toList, ?_, ?_⟩
  · simp [tagLine]
  · simp

/-- What planning a tag above a line can come to: it stands before the last block end that the window
shows, with the indent of that line, or the window shows none. -/
inductive Tagged (source : Source) (issue : Issue) (line w : Nat) (window : Number) (tag : String) :
    Except Failure Insertion → Prop
  | placed {index : Nat} {raw indent : String}
      (nearest : IsGreatest (source.BlockEnds line w) index)
      (there : source.lines[index]? = some raw) (indents : Line.Indents (Line.content raw) indent) :
      Tagged source issue line w window tag (.ok ⟨Number.ofNat index, [indent ++ "* " ++ tag]⟩)
  | missing (none : source.BlockEnds line w = ∅) :
      Tagged source issue line w window tag
        (.error (.anchorNotFound issue.path issue.line window))

variable {source : Source} {issue : Issue} {line w : Nat} {window : Number} {text : String}

theorem tagged_tag (reported : issue.line = Number.ofNat line) (whole : window.toNat? = some w)
    (small : line ≤ Number.exactBound) :
    Tagged source issue line w window text (tag source issue window text) := by
  rw [tag, reported]
  cases found : source.anchor? (Number.ofNat line) window with
  | none =>
    rw [← reported]
    exact .missing ((Source.anchor?_eq_none_iff whole small).mp found)
  | some index =>
    have there := List.getElem?_eq_getElem (Source.anchor?_some found).1
    simp only [there]
    exact .placed ((Source.anchor?_eq_some_iff whole small).mp found) there
      (Line.indents_indent _)

/-- A tag is planned exactly when the window shows a block end. -/
theorem Tagged.ok_iff {plan : Except Failure Insertion}
    (tagged : Tagged source issue line w window text plan) :
    (∃ insertion, plan = .ok insertion) ↔ ∃ index, IsGreatest (source.BlockEnds line w) index := by
  cases tagged with
  | placed nearest => exact iff_of_true ⟨_, rfl⟩ ⟨_, nearest⟩
  | missing none =>
    refine iff_of_false (fun ⟨_, same⟩ => nomatch same) ?_
    rintro ⟨index, mem, -⟩
    rw [none] at mem
    exact Set.notMem_empty index mem

/-- A tag for a declaration with the end of a comment right above it. -/
theorem ofRemedy_right_above {remedy : Remedy} (tagging : remedy ≠ .commentBlock) {options : Options}
    {p r index : Nat} (parameter : options.windows.parameter.toNat? = some (p + 1))
    (result : options.windows.result.toNat? = some (r + 1)) {source : Source}
    (small : source.lines.length < Number.exactBound) {ending declaration : String}
    (above : source.lines[index]? = some ending) (closes : Line.Closes ending.toList)
    (there : source.lines[index + 1]? = some declaration) (path message : String) :
    ∃ text, ofRemedy remedy ⟨path, Number.ofNat (index + 2), message⟩ source options =
      .ok ⟨Number.ofNat index, [tagLine (Line.content ending) text]⟩ := by
  have inside := (List.getElem?_eq_some_iff.mp there).1
  have few : index + 2 ≤ Number.exactBound := by omega
  have ends : source.endsBlock index = true := Source.endsBlock_iff.mpr ⟨ending, above, closes⟩
  cases remedy with
  | parameterTag name =>
    refine ⟨parameterTag name options.phrases, ?_⟩
    simp only [ofRemedy, tag, Source.anchor?_right_above parameter few ends, above]
  | returnTag =>
    have content : source.contentAt? (Number.ofNat (index + 2) - 1) = some (Line.content declaration) :=
      (Source.contentAt?_eq_some_iff few).mpr ⟨declaration, ⟨index + 1, rfl, there⟩, rfl⟩
    refine ⟨returnTag (Line.content declaration), ?_⟩
    simp only [ofRemedy, returned, content, tag, Source.anchor?_right_above result few ends, above]
  | commentBlock => exact absurd rfl tagging

/-- The search finds the last block end that its window shows above the reported line, or nothing if there
is none, and keeps it in a larger window. Tags of both kinds are planned there, with the indent of the
block end; without one the failure names the window. For a line that does not exist a tag for its returned
value fails before the search. -/
theorem tags_at_nearest_blockEnd (source : Source) (path message : String) (options : Options)
    {line p r : Nat} (small : line ≤ Number.exactBound)
    (parameter : options.windows.parameter.toNat? = some p)
    (result : options.windows.result.toNat? = some r) :
    let issue : Issue := ⟨path, Number.ofNat line, message⟩
    (∀ (window : Number) (w : Nat), window.toNat? = some w →
      (∀ index, source.anchor? issue.line window = some index ↔
        IsGreatest (source.BlockEnds line w) index) ∧
      (source.anchor? issue.line window = none ↔ source.BlockEnds line w = ∅) ∧
      ∀ (wider : Number) (v index : Nat), wider.toNat? = some v → w ≤ v →
        source.anchor? issue.line window = some index →
        source.anchor? issue.line wider = some index) ∧
    (∀ name, let plan := ofRemedy (.parameterTag name) issue source options
      ((∃ insertion, plan = .ok insertion) ↔ ∃ index, IsGreatest (source.BlockEnds line p) index) ∧
      Tagged source issue line p options.windows.parameter (parameterTag name options.phrases) plan) ∧
    let plan := ofRemedy .returnTag issue source options
    ((¬∃ raw, source.IsLine line raw) → plan = .error (.signatureNotFound path issue.line)) ∧
    ∀ raw, source.IsLine line raw →
      ((∃ insertion, plan = .ok insertion) ↔ ∃ index, IsGreatest (source.BlockEnds line r) index) ∧
      Tagged source issue line r options.windows.result (returnTag (Line.content raw)) plan := by
  intro issue
  refine ⟨fun window w whole => ⟨fun index => Source.anchor?_eq_some_iff whole small,
    Source.anchor?_eq_none_iff whole small, fun wider v index wide le found =>
      Source.anchor?_of_le whole wide le small found⟩, fun name => ?_, ?_⟩
  · have tagged : Tagged source issue line p options.windows.parameter
        (parameterTag name options.phrases) (ofRemedy (.parameterTag name) issue source options) :=
      tagged_tag rfl parameter small
    exact ⟨tagged.ok_iff, tagged⟩
  · intro plan
    constructor
    · intro missing
      have nothing : source.contentAt? (issue.line - 1) = none := by
        refine Option.eq_none_iff_forall_ne_some.mpr fun content found => missing ?_
        obtain ⟨raw, there, -⟩ := (Source.contentAt?_eq_some_iff small).mp found
        exact ⟨raw, there⟩
      show returned source issue options.windows.result = _
      rw [returned, nothing]
    · intro raw there
      have content : source.contentAt? (issue.line - 1) = some (Line.content raw) :=
        (Source.contentAt?_eq_some_iff small).mpr ⟨raw, there, rfl⟩
      have same : plan =
          tag source issue options.windows.result (returnTag (Line.content raw)) := by
        show returned source issue options.windows.result = _
        rw [returned, content]
      have tagged : Tagged source issue line r options.windows.result
          (returnTag (Line.content raw)) plan := same ▸ tagged_tag rfl result small
      exact ⟨tagged.ok_iff, tagged⟩

/-- A window of two lines above the last line, which has no terminator, reaches the end of the second
comment, and a larger one stops there too; a window of one line shows no block end. -/
theorem tags_at_nearest_blockEnd_edge :
    let source := Source.ofText "/** a */\r\n\t/** b\r\n\t */\r\n\r\nint f();"
    let issue : Issue := ⟨"A.java", Number.ofNat 5, "warning: no @return"⟩
    let options : Options := { windows := ⟨1, 2⟩ }
    5 ≤ Number.exactBound ∧ options.windows.parameter.toNat? = some 1 ∧
      options.windows.result.toNat? = some 2 ∧ IsGreatest (source.BlockEnds 5 2) 2 ∧
      source.anchor? issue.line 2 = some 2 ∧ source.anchor? issue.line 18 = some 2 ∧
      source.IsLine 5 "int f();" ∧
      (∃ insertion, ofRemedy .returnTag issue source options = .ok insertion) ∧
      ¬∃ insertion, ofRemedy (.parameterTag "T") issue source options = .ok insertion := by
  intro source issue options
  have small : 5 ≤ Number.exactBound := by decide
  have parameter : options.windows.parameter.toNat? = some 1 := by decide
  have result : options.windows.result.toNat? = some 2 := by decide
  have blank : source.endsBlock 3 = false := by decide +kernel
  have greatest : IsGreatest (source.BlockEnds 5 2) 2 := by
    refine ⟨Source.mem_blockEnds.mpr ⟨by decide, by decide, by decide +kernel⟩, fun other mem => ?_⟩
    obtain ⟨above, -, ends⟩ := Source.mem_blockEnds.mp mem
    by_contra later
    obtain rfl : other = 3 := by omega
    exact absurd (blank.symm.trans ends) (by decide)
  have last : source.IsLine 5 "int f();" := ⟨4, rfl, by decide +kernel⟩
  obtain ⟨search, tags, -, returned⟩ := tags_at_nearest_blockEnd source issue.path issue.message
    options small parameter result
  have found := ((search 2 2 result).1 2).mpr greatest
  have wider := (search 2 2 result).2.2 18 18 2 (by decide) (by decide) found
  refine ⟨small, parameter, result, greatest, found, wider, last,
    (returned _ last).1.mpr ⟨2, greatest⟩, fun planned => ?_⟩
  obtain ⟨index, mem, -⟩ := (tags "T").1.mp planned
  obtain ⟨above, reach, ends⟩ := Source.mem_blockEnds.mp mem
  obtain rfl : index = 3 := by omega
  exact absurd (blank.symm.trans ends) (by decide)

end Plan

end DocMend
