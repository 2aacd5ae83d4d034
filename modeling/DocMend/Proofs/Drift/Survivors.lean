import DocMend.Proofs.Drift
/-!
What the record of a run says of the lines of a file: the numbers of its lines are carried, in order and
without a gap, onto the places that no inserted line takes.
-/

set_option autoImplicit false
set_option relaxedAutoImplicit false

namespace DocMend

open Number (ofNat exactBound)

/-- The lines of a file after insertions: each with the number that it had before them, and without a
number where it was inserted. -/
abbrev Arrangement := List (Option Nat)

namespace Arrangement

/-- A file of so many lines, numbered from one. -/
def numbered (size : Nat) : Arrangement :=
  (List.range' 1 size).map some

/-- So many lines put before the line with an index. -/
def spread (lines : Arrangement) (index count : Nat) : Arrangement :=
  lines.take index ++ List.replicate count none ++ lines.drop index

/-- An insertion before a line that is there; there is no other. -/
def insert? (lines : Arrangement) (insertion : Insertion) : Option Arrangement :=
  match insertion.index.toNat? with
  | some index =>
    if index < lines.length then some (lines.spread index insertion.lines.length) else none
  | none => none

/-- Where insertions lead to, one after the other, from a file of so many lines. -/
def after? (size : Nat) (insertions : List Insertion) : Option Arrangement :=
  insertions.foldlM insert? (numbered size)

/-- How many lines insertions put in. -/
def lineTotal (insertions : List Insertion) : Nat :=
  (insertions.map fun insertion => insertion.lines.length).sum

variable {lines next : Arrangement} {index count k line : Nat}

theorem length_spread (inside : index < lines.length) (count : Nat) :
    (lines.spread index count).length = lines.length + count := by
  simp only [spread, List.length_append, List.length_take, List.length_replicate, List.length_drop]
  omega

theorem length_numbered (size : Nat) : (numbered size).length = size := by
  rw [numbered, List.length_map, List.length_range']

/-- Lines that are put in have no number. -/
theorem numbers_spread (lines : Arrangement) (index count : Nat) :
    (lines.spread index count).filterMap id = lines.filterMap id := by
  have unnumbered : (List.replicate count (none : Option Nat)).filterMap id = [] :=
    List.filterMap_eq_nil_iff.mpr fun held mem => List.eq_of_mem_replicate mem
  rw [spread, List.filterMap_append, List.filterMap_append, unnumbered, List.append_nil,
    ← List.filterMap_append, List.take_append_drop]

/-- A numbered line stands where it stood, or below the lines that were put in. -/
theorem held_of_spread (inside : index < lines.length)
    (held : (lines.spread index count)[k]? = some (some line)) :
    (k < index ∧ lines[k]? = some (some line)) ∨
      ∃ j, index ≤ j ∧ k = j + count ∧ lines[j]? = some (some line) := by
  have upper : (lines.take index).length = index := by
    rw [List.length_take]
    omega
  have middle : (List.replicate count (none : Option Nat)).length = count := List.length_replicate
  rw [spread, List.append_assoc] at held
  by_cases before : k < index
  · rw [List.getElem?_append_left (by omega), List.getElem?_take, if_pos before] at held
    exact Or.inl ⟨before, held⟩
  · rw [List.getElem?_append_right (by omega), upper] at held
    by_cases among : k - index < count
    · rw [List.getElem?_append_left (by omega), List.getElem?_replicate, if_pos among] at held
      exact absurd held (by simp)
    · rw [List.getElem?_append_right (by omega), middle, List.getElem?_drop] at held
      refine Or.inr ⟨k - count, by omega, by omega, ?_⟩
      rw [← held]
      congr 1
      omega

theorem insert?_eq_some {insertion : Insertion} (inserted : lines.insert? insertion = some next) :
    ∃ index < lines.length, insertion.index.toNat? = some index ∧
      next = lines.spread index insertion.lines.length := by
  simp only [insert?] at inserted
  split at inserted
  · rename_i index whole
    split at inserted
    · rename_i inside
      exact ⟨index, inside, whole, (Option.some.inj inserted).symm⟩
    · exact absurd inserted (by simp)
  · exact absurd inserted (by simp)

/-- A file grows by the lines of all insertions. -/
theorem length_of_foldlM {insertions : List Insertion}
    (arranged : insertions.foldlM insert? lines = some next) :
    next.length = lines.length + lineTotal insertions := by
  induction insertions generalizing lines with
  | nil =>
    obtain rfl := Option.some.inj arranged
    rfl
  | cons insertion rest ih =>
    rw [List.foldlM_cons] at arranged
    obtain ⟨between, inserted, others⟩ := Option.bind_eq_some_iff.mp arranged
    obtain ⟨index, inside, -, rfl⟩ := insert?_eq_some inserted
    have grown := length_spread inside insertion.lines.length
    rw [ih others, grown, lineTotal, lineTotal, List.map_cons, List.sum_cons, Nat.add_assoc]

end Arrangement

/-- Shifts that carry the numbers of the lines of a file to where these lines stand in an arrangement. -/
structure Carries (size : Nat) (shifts : List Shift) (lines : Arrangement) : Prop where
  numbers : lines.filterMap id = List.range' 1 size
  places : ∀ k line, lines[k]? = some (some line) →
    shifts.foldl Shift.move (ofNat line) = ofNat (k + 1)

namespace Carries

variable {size : Nat} {shifts : List Shift} {lines next : Arrangement}

theorem start (size : Nat) : Carries size [] (Arrangement.numbered size) where
  numbers := by simp [Arrangement.numbered, List.filterMap_map]
  places := by
    intro k line held
    simp only [Arrangement.numbered, List.getElem?_map, Option.map_eq_some_iff] at held
    obtain ⟨number, found, same⟩ := held
    obtain rfl := Option.some.inj same
    obtain ⟨inside, value⟩ := List.getElem?_eq_some_iff.mp found
    rw [List.getElem_range'] at value
    rw [List.foldl_nil, ← value]
    congr 1
    omega

/-- One more insertion: its shift comes last. -/
theorem insert (carries : Carries size shifts lines) {insertion : Insertion}
    (inserted : lines.insert? insertion = some next) (small : next.length ≤ exactBound) :
    Carries size (shifts ++ [insertion.shift]) next := by
  obtain ⟨index, inside, whole, rfl⟩ := Arrangement.insert?_eq_some inserted
  have grown := Arrangement.length_spread inside insertion.lines.length
  rw [grown] at small
  have place : insertion.index = ofNat index := by
    rw [Number.eq_finite_of_toNat? whole, Number.ofNat_eq_finite (by omega)]
  refine ⟨?_, ?_⟩
  · rw [Arrangement.numbers_spread, carries.numbers]
  · intro k line held
    rw [List.foldl_append, List.foldl_cons, List.foldl_nil, Insertion.shift, place]
    rcases Arrangement.held_of_spread inside held with ⟨before, there⟩ | ⟨j, from_index, rfl, there⟩
    · rw [carries.places k line there]
      have stays : ¬index < k + 1 := by omega
      rw [Shift.move_ofNat_of_le (by omega), if_neg stays]
    · have below := (List.getElem?_eq_some_iff.mp there).1
      rw [carries.places j line there, Shift.move_ofNat_of_le (by omega), if_pos (by omega),
        Nat.add_right_comm]

/-- From one insertion to the whole sequence. -/
theorem of_foldlM {insertions : List Insertion} (carries : Carries size shifts lines)
    (arranged : insertions.foldlM Arrangement.insert? lines = some next)
    (small : next.length ≤ exactBound) :
    Carries size (shifts ++ insertions.map Insertion.shift) next := by
  induction insertions generalizing shifts lines with
  | nil =>
    obtain rfl := Option.some.inj arranged
    rw [List.map_nil, List.append_nil]
    exact carries
  | cons insertion rest ih =>
    rw [List.foldlM_cons] at arranged
    obtain ⟨between, inserted, others⟩ := Option.bind_eq_some_iff.mp arranged
    have grown := Arrangement.length_of_foldlM others
    have further := ih (carries.insert inserted (by omega)) others
    rwa [List.append_assoc] at further

/-- The lines of the file are carried exactly onto the places without an inserted line. -/
theorem carried_iff (carries : Carries size shifts lines) (place : Number) :
    (∃ line, 1 ≤ line ∧ line ≤ size ∧ shifts.foldl Shift.move (ofNat line) = place) ↔
      ∃ k < lines.length, place = ofNat (k + 1) ∧ lines[k]? ≠ some none := by
  have known : ∀ line, some line ∈ lines ↔ 1 ≤ line ∧ line ≤ size := by
    intro line
    have member : line ∈ lines.filterMap id ↔ some line ∈ lines := by simp
    rw [← member, carries.numbers, List.mem_range'_1]
    omega
  constructor
  · rintro ⟨line, positive, inside, rfl⟩
    obtain ⟨k, held⟩ := List.mem_iff_getElem?.mp ((known line).mpr ⟨positive, inside⟩)
    refine ⟨k, (List.getElem?_eq_some_iff.mp held).1, carries.places k line held, ?_⟩
    rw [held]
    simp
  · rintro ⟨k, inside, rfl, survives⟩
    rw [List.getElem?_eq_getElem inside] at survives
    cases held : lines[k] with
    | none => exact absurd (congrArg some held) survives
    | some line =>
      have there : lines[k]? = some (some line) := by rw [List.getElem?_eq_getElem inside, held]
      obtain ⟨positive, original⟩ := (known line).mp (held ▸ List.getElem_mem inside)
      exact ⟨line, positive, original, carries.places k line there⟩

end Carries

namespace Drift

/-- The record of insertions that happened one after the other, each with the path of its file. -/
def ofInsertions (recordings : List (String × Insertion)) : Drift :=
  recordings.foldl (fun drift recording => drift.record recording.1 recording.2) {}

/-- The insertions into one file. -/
def insertionsInto (path : String) (recordings : List (String × Insertion)) : List Insertion :=
  (recordings.filter fun recording => recording.1 = path).map Prod.snd

private theorem shifts_foldl_record (drift : Drift) (recordings : List (String × Insertion))
    (path : String) :
    (recordings.foldl (fun drift recording => drift.record recording.1 recording.2) drift).shifts path =
      drift.shifts path ++ (insertionsInto path recordings).map Insertion.shift := by
  induction recordings generalizing drift with
  | nil => simp [insertionsInto]
  | cons recording rest ih =>
    obtain ⟨other, insertion⟩ := recording
    rw [List.foldl_cons, ih, shifts_record, insertionsInto, insertionsInto]
    by_cases same : other = path
    · simp [same]
    · simp [same]

/-- The record of a file holds the insertions into it, in their order. -/
theorem shifts_ofInsertions (recordings : List (String × Insertion)) (path : String) :
    (ofInsertions recordings).shifts path = (insertionsInto path recordings).map Insertion.shift :=
  shifts_foldl_record {} recordings path

theorem resolve_record_other (drift : Drift) {path other : String} (apart : other ≠ path)
    (insertion : Insertion) (line : Number) :
    (drift.record other insertion).resolve path line = drift.resolve path line := by
  rw [resolve, shifts_record, if_neg apart, List.append_nil, resolve]

/-- The record of a file carries no line back and none past another one; lines whose numbers stay exact
do not meet; and the lines that the file had go exactly to the places without an inserted line. What is
recorded for other files makes no difference. -/
theorem resolve_onto_survivors {recordings : List (String × Insertion)} {path : String} {size : Nat}
    {lines : Arrangement}
    (arranged : Arrangement.after? size (insertionsInto path recordings) = some lines) :
    let drift := ofInsertions recordings
    let added := Arrangement.lineTotal (insertionsInto path recordings)
    (∀ line : Nat, ofNat line ≤ drift.resolve path (ofNat line)) ∧
    (∀ first second : Nat, first ≤ second →
      drift.resolve path (ofNat first) ≤ drift.resolve path (ofNat second)) ∧
    (∀ first second : Nat, first < second →
      second + added ≤ exactBound ∨ drift.resolve path (ofNat second) < ofNat exactBound →
      drift.resolve path (ofNat first) < drift.resolve path (ofNat second)) ∧
    lines.length = size + added ∧
    (size + added ≤ exactBound → ∀ place : Number,
      (∃ line, 1 ≤ line ∧ line ≤ size ∧ drift.resolve path (ofNat line) = place) ↔
        ∃ k < size + added, place = ofNat (k + 1) ∧ lines[k]? ≠ some none) ∧
    ∀ other insertion, other ≠ path → ∀ line : Number,
      (drift.record other insertion).resolve path line = drift.resolve path line := by
  intro drift added
  have resolves : ∀ line, drift.resolve path line =
      ((insertionsInto path recordings).map Insertion.shift).foldl Shift.move line := by
    intro line
    rw [resolve, shifts_ofInsertions]
  have length : lines.length = size + added := by
    have grown := Arrangement.length_of_foldlM arranged
    rwa [Arrangement.length_numbered] at grown
  refine ⟨fun line => ?_, fun first second le => ?_, fun first second less exact => ?_, length,
    fun small place => ?_, fun other insertion apart line => ?_⟩
  · rw [resolves]
    exact Shift.le_foldl_move _ line
  · rw [resolves, resolves]
    exact Shift.foldl_move_mono _ (Number.ofNat_mono le)
  · rw [resolves] at exact
    rw [resolves, resolves]
    refine Shift.foldl_move_lt _ less ?_
    rcases exact with few | below
    · have bound := Shift.foldl_carry_le ((insertionsInto path recordings).map Insertion.shift) second
      rw [List.map_map] at bound
      exact Nat.le_trans bound few
    · exact Nat.le_of_lt (Shift.foldl_carry_lt_of_lt _ below)
  · have carries : Carries size ((insertionsInto path recordings).map Insertion.shift) lines :=
      (Carries.start size).of_foldlM arranged (by omega)
    have onto := carries.carried_iff place
    rw [length] at onto
    simp only [resolves]
    exact onto
  · exact drift.resolve_record_other apart insertion line

/-- Three lines go before the third line of a file, then one before its second line, while another file
is written to: the place of the third line comes from no other line. -/
theorem resolve_onto_survivors_upward :
    let recordings : List (String × Insertion) :=
      [("A", ⟨ofNat 2, ["/**", " * x", " */"]⟩), ("B", ⟨ofNat 0, ["y"]⟩), ("A", ⟨ofNat 1, ["z"]⟩)]
    let drift := ofInsertions recordings
    Arrangement.after? 3 (insertionsInto "A" recordings) =
        some [some 1, none, some 2, none, none, none, some 3] ∧
      (∃ line, 1 ≤ line ∧ line ≤ 3 ∧ drift.resolve "A" (ofNat line) = ofNat 7) ∧
      ¬∃ line, 1 ≤ line ∧ line ≤ 3 ∧ drift.resolve "A" (ofNat line) = ofNat 4 := by
  intro recordings drift
  have arranged : Arrangement.after? 3 (insertionsInto "A" recordings) =
      some [some 1, none, some 2, none, none, none, some 3] := by decide +kernel
  obtain ⟨-, -, -, -, onto, -⟩ := resolve_onto_survivors arranged
  have small : 3 + Arrangement.lineTotal (insertionsInto "A" recordings) ≤ exactBound := by
    decide +kernel
  refine ⟨arranged, (onto small _).mpr ⟨6, by decide +kernel, rfl, by decide⟩, fun carried => ?_⟩
  obtain ⟨k, inside, same, survives⟩ := (onto small _).mp carried
  have third : k = 3 := by
    have few : k + 1 ≤ exactBound := by omega
    rw [Number.ofNat_eq_finite (by decide), Number.ofNat_eq_finite few] at same
    have equal : 4 = k + 1 := by exact_mod_cast Number.finite.inj same
    omega
  subst third
  exact survives rfl

/-- At the exact bound lines meet: two of them are carried to one number by two single lines. -/
theorem resolve_meets :
    let recordings : List (String × Insertion) :=
      [("A.java", ⟨ofNat 0, ["x"]⟩), ("A.java", ⟨ofNat 0, ["y"]⟩)]
    let drift := ofInsertions recordings
    Arrangement.after? 1 (insertionsInto "A.java" recordings) = some [none, none, some 1] ∧
      drift.resolve "A.java" (ofNat 9007199254740990) = ofNat 9007199254740992 ∧
      drift.resolve "A.java" (ofNat 9007199254740992) = ofNat 9007199254740992 ∧
      ¬∀ first second : Nat, 0 < first → first < second →
        drift.resolve "A.java" (ofNat first) < drift.resolve "A.java" (ofNat second) := by
  intro recordings drift
  have upper : drift.resolve "A.java" (ofNat 9007199254740990) = ofNat 9007199254740992 := by
    decide +kernel
  have lower : drift.resolve "A.java" (ofNat 9007199254740992) = ofNat 9007199254740992 := by
    decide +kernel
  refine ⟨by decide +kernel, upper, lower, fun increasing => ?_⟩
  have apart := increasing 9007199254740990 9007199254740992 (by decide) (by decide)
  rw [upper, lower] at apart
  exact lt_irrefl _ apart

end Drift

end DocMend
