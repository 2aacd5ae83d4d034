import DocMend.Proofs.Source.LineEnd
import DocMend.Proofs.Source.Weave
/-!
Comment lines woven into a source in front of lines that end comments. Such lines end no comment
themselves and take over the line ends of the source, so searches, terminators and further insertions
are those of the source.

Insertions that are all counted in the lines of one source. Carrying them out at once is carrying them
out one by one, each at the place where its line has got to.
-/

set_option autoImplicit false
set_option relaxedAutoImplicit false

namespace DocMend

/-- Text that can stand inside a comment: it has no line ends and ends no comment. -/
structure Line.Inner (text : String) : Prop where
  feedless : '\n' ∉ text.toList
  returnless : '\r' ∉ text.toList
  unclosed : ¬Line.Closes text.toList

namespace Source

variable {source : Source}

theorem unclosed_ended {body : String} (inner : Line.Inner body) (source : Source)
    (index : Nat) : ¬Line.Closes (body ++ source.terminatorFor index).toList := by
  have ending : (source.terminatorFor index).toList.head? ≠ some '/' ∧
      ¬Line.Closes (source.terminatorFor index).toList := by
    rcases source.terminatorFor_cases index with h | h <;> rw [h] <;> decide
  rw [String.toList_append, Line.closes_append_of_head _ ending.1]
  rintro (text | mark)
  · exact inner.unclosed text
  · exact ending.2 mark

private theorem alone_of_open (cut : source.Cut) {raw : String} {rest : List String}
    (lines : source.lines = raw :: rest) (unended : (Line.terminator raw).isEmpty = true) :
    rest = [] := by
  cases rest with
  | nil => rfl
  | cons next more =>
    have first : source.lines[0]? = some raw := by rw [lines]; rfl
    have filled := cut.terminator_ne (by simp [lines]) first
    exact absurd (String.isEmpty_iff.mp unended) filled

/-- Lines put into a source: inner text, ended as the source has it, in front of lines that end a
comment. -/
structure Woven (source : Source) (added : Nat → List String) : Prop where
  places : ∀ i, source.endsBlock i = false → added i = []
  lines : ∀ i, ∀ line ∈ added i, ∃ body, Line.Inner body ∧
    line = body ++ source.terminatorFor i

/-- A source with lines put in before its own. -/
def woven (source : Source) (added : Nat → List String) : Source :=
  ⟨weave added source.lines⟩

theorem woven_empty {added : Nat → List String} (empty : ∀ i, added i = []) :
    source.woven added = source := by
  have same : ∀ lines : List String, weave (fun _ => []) lines = lines := by
    intro lines
    induction lines with
    | nil => rfl
    | cons raw rest ih => rw [weave, List.nil_append, ih]
  have none : added = fun _ => [] := funext empty
  rw [woven, none, same]

/-- The content read for a line is that of the same line. -/
theorem contentAt?_woven {added : Nat → List String} {d : Nat} (small : place added d + 1 ≤ Number.exactBound) :
    (source.woven added).contentAt? (Number.ofNat (place added d + 1) - 1) =
      source.contentAt? (Number.ofNat (d + 1) - 1) := by
  have few : d + 1 ≤ Number.exactBound := Nat.le_trans (Nat.succ_le_succ (le_place added d)) small
  have here : (Number.ofNat (place added d)).toNat? = some (place added d) :=
    Number.toNat?_ofNat (by omega)
  have there : (Number.ofNat d).toNat? = some d := Number.toNat?_ofNat (by omega)
  rw [Number.ofNat_succ_sub_one small, Number.ofNat_succ_sub_one few]
  simp only [contentAt?, here, there]
  by_cases inside : d < source.lines.length
  · rw [woven, getElem?_weave added _ inside]
  · have behind : (source.woven added).lines.length ≤ place added d := by
      rw [woven]
      cases lines : source.lines with
      | nil => exact Nat.zero_le _
      | cons raw rest =>
        rw [lines, List.length_cons] at inside
        rw [length_weave]
        exact place_lt added (Nat.lt_of_succ_le (Nat.le_of_not_lt inside))
    rw [List.getElem?_eq_none behind, List.getElem?_eq_none (by omega)]

namespace Woven

variable {added : Nat → List String} (well : source.Woven added)

include well

theorem endsBlock_iff {j : Nat} : (source.woven added).endsBlock j = true ↔
    ∃ i, j = place added i ∧ source.endsBlock i = true := by
  rw [Source.endsBlock_iff]
  constructor
  · rintro ⟨line, found, closes⟩
    rcases weave_cases found with ⟨i, inside, rfl, same⟩ | ⟨i, inside, mem⟩
    · exact ⟨i, rfl, Source.endsBlock_iff.mpr ⟨line, same, closes⟩⟩
    · obtain ⟨body, inner, rfl⟩ := well.lines i line mem
      exact absurd closes (unclosed_ended inner source i)
  · rintro ⟨i, rfl, ends⟩
    obtain ⟨line, found, closes⟩ := Source.endsBlock_iff.mp ends
    exact ⟨line, (getElem?_weave added _ (lt_length_of_endsBlock ends)).trans found, closes⟩

/-- Between the places of two lines no line ends a comment exactly if none does between the lines. -/
theorem plain_between {r d : Nat} :
    (∀ k, place added r < k → k + 2 ≤ place added d + 1 →
      (source.woven added).endsBlock k = false) ↔
        ∀ k, r < k → k + 2 ≤ d + 1 → source.endsBlock k = false := by
  constructor
  · intro plain k more less
    refine Bool.eq_false_iff.mpr fun ends => ?_
    have lower := place_lt added more
    have higher := place_lt added (by omega : k < d)
    have unended := plain (place added k) lower (by omega)
    rw [well.endsBlock_iff.mpr ⟨k, rfl, ends⟩] at unended
    exact absurd unended (by decide)
  · intro plain k more less
    refine Bool.eq_false_iff.mpr fun ends => ?_
    obtain ⟨i, rfl, block⟩ := well.endsBlock_iff.mp ends
    have lower := place_lt_iff.mp more
    have higher := place_lt_iff.mp (by omega : place added i < place added d)
    rw [plain i lower (by omega)] at block
    exact absurd block (by decide)

/-- Where no line behind one and up to another ends a comment, nothing is put in between: the two lines keep
their distance. -/
theorem place_of_plain {r d : Nat} (below : r < d) (last : source.endsBlock d = false)
    (plain : ∀ k, r < k → k + 2 ≤ d + 1 → source.endsBlock k = false) :
    place added d = place added r + (d - r) := by
  have kept := place_add added (i := r) (d - r) fun k above within => by
    by_cases same : k = d
    · exact well.places k (same ▸ last)
    · exact well.places k (plain k above (by omega))
  rwa [Nat.add_sub_cancel' (Nat.le_of_lt below)] at kept

/-- Seen from a line that ends no comment itself, the nearest block end is the same line. -/
theorem anchor?_eq {window : Number} {w d : Nat} (whole : window.toNat? = some w)
    (plain : source.endsBlock d = false) (small : place added d + 1 ≤ Number.exactBound) :
    (source.woven added).anchor? (Number.ofNat (place added d + 1)) window =
      (source.anchor? (Number.ofNat (d + 1)) window).map (place added) := by
  have few : d + 1 ≤ Number.exactBound := Nat.le_trans (Nat.succ_le_succ (le_place added d)) small
  ext j
  rw [anchor?_eq_some whole small, Option.map_eq_some_iff]
  constructor
  · rintro ⟨above, reach, ends, none⟩
    obtain ⟨r, rfl, block⟩ := well.endsBlock_iff.mp ends
    have below : r < d := place_lt_iff.mp (by omega : place added r < place added d)
    have free := well.plain_between.mp none
    have apart := well.place_of_plain below plain free
    exact ⟨r, (anchor?_eq_some whole few).mpr ⟨by omega, by omega, block, free⟩, rfl⟩
  · rintro ⟨r, found, rfl⟩
    obtain ⟨above, reach, block, free⟩ := (anchor?_eq_some whole few).mp found
    have apart := well.place_of_plain (by omega) plain free
    exact ⟨by omega, by omega, well.endsBlock_iff.mpr ⟨r, rfl, block⟩, well.plain_between.mpr free⟩

/-- Behind the end of the source lines count on from the end of the woven one. -/
theorem place_behind {d : Nat} (behind : source.lines.length ≤ d) :
    place added d = (source.woven added).lines.length + (d - source.lines.length) := by
  have none : ∀ k, source.lines.length ≤ k → added k = [] := fun k above =>
    well.places k (Bool.eq_false_iff.mpr fun ends =>
      absurd (lt_length_of_endsBlock ends) (Nat.not_lt_of_le above))
  rw [woven]
  cases lines : source.lines with
  | nil =>
    rw [lines] at none
    have first : place added 0 = 0 := by rw [place, none 0 (Nat.le_refl _), List.length_nil]
    have counted := place_add added (i := 0) d fun k _ _ => none k (Nat.zero_le k)
    rw [Nat.zero_add, first] at counted
    rw [counted]
    rfl
  | cons raw rest =>
    rw [lines, List.length_cons] at behind none
    obtain ⟨more, rfl⟩ := Nat.exists_eq_add_of_le behind
    have counted := place_add added (i := rest.length) (more + 1) fun k above _ =>
      none k above
    rw [length_weave, List.length_cons, Nat.add_sub_cancel_left]
    have same : rest.length + 1 + more = rest.length + (more + 1) := by omega
    rw [same, counted]
    omega

/-- The line end of the file is that of the source. -/
theorem firstTerminator_eq (cut : source.Cut) :
    (firstTerminator? (source.woven added).lines).getD "\n" =
      (firstTerminator? source.lines).getD "\n" := by
  cases lines : source.lines with
  | nil => rw [woven, lines]; rfl
  | cons raw rest =>
    cases put : added 0 with
    | nil =>
      rw [woven, lines, weave, put, List.nil_append, firstTerminator?_cons,
        firstTerminator?_cons]
      by_cases unended : (Line.terminator raw).isEmpty = true
      · rw [if_pos unended, if_pos unended, alone_of_open cut lines unended]
        rfl
      · rw [if_neg unended, if_neg unended]
    | cons line more =>
      obtain ⟨body, inner, rfl⟩ := well.lines 0 line (put ▸ List.mem_cons_self)
      have ending := terminator_ended inner.returnless source 0
      have filled : ¬(source.terminatorFor 0).isEmpty = true := by
        rcases source.terminatorFor_cases 0 with h | h <;> rw [h] <;> decide
      rw [woven, lines, weave, put, List.cons_append, firstTerminator?_cons, ending,
        if_neg filled, Option.getD_some, terminatorFor, lines, firstTerminator?_cons]
      by_cases unended : (Line.terminator raw).isEmpty = true
      · simp [unended]
      · simp [unended]

/-- Lines put in before a line are ended as they would be in the source. -/
theorem terminatorFor_eq (cut : source.Cut) {index : Nat} (inside : index < source.lines.length) :
    (source.woven added).terminatorFor (place added index) = source.terminatorFor index := by
  have raw : (source.woven added).lines[place added index]? = source.lines[index]? :=
    getElem?_weave added _ inside
  simp only [terminatorFor, raw, well.firstTerminator_eq cut]

/-- One more insertion before a line. -/
theorem splice_eq (cut : source.Cut) {index : Nat} (inside : index < source.lines.length)
    (new : List String) :
    (source.woven added).splice (place added index) new =
      source.woven fun i => added i ++ if i = index then source.ended index new else [] := by
  have present : place added index < (source.woven added).lines.length :=
    place_lt_length added inside
  have same : (source.woven added).ended (place added index) new = source.ended index new := by
    rw [ended, ended, well.terminatorFor_eq cut inside]
  rw [splice_inside _ present, same, woven, woven, weave_insert added _ _ inside]

end Woven

end Source

end DocMend

namespace DocMend

namespace Source

/-- The lines that insertions put directly before the line with an index, in their order, each ended
as in the source. -/
def addedBy (source : Source) (plans : List Insertion) (index : Nat) : List String :=
  plans.flatMap fun plan =>
    if plan.index.toNat? = some index then source.ended index plan.lines else []

/-- A source with many insertions carried out at once, all counted in its own lines. -/
def together (source : Source) (plans : List Insertion) : Source :=
  source.woven (source.addedBy plans)

variable {source : Source} {plans : List Insertion}

theorem together_nil (source : Source) : source.together [] = source :=
  woven_empty fun _ => rfl

/-- One more insertion adds its lines at its index. -/
theorem addedBy_append {plan : Insertion} {index : Nat} (at_index : plan.index = Number.ofNat index)
    (small : index ≤ Number.exactBound) :
    source.addedBy (plans ++ [plan]) = fun i =>
      source.addedBy plans i ++ if i = index then source.ended index plan.lines else [] := by
  funext i
  have place : plan.index.toNat? = some index := by rw [at_index, Number.toNat?_ofNat small]
  rw [addedBy, List.flatMap_append, List.flatMap_singleton, place]
  by_cases same : i = index
  · rw [same, if_pos rfl, if_pos rfl]
    rfl
  · rw [if_neg (fun other => same (Option.some.inj other).symm), if_neg same]
    rfl

/-- One more insertion before a line is carried out at the place of the line. -/
theorem together_append (woven : source.Woven (source.addedBy plans)) (cut : source.Cut)
    {plan : Insertion} {index : Nat} (at_index : plan.index = Number.ofNat index)
    (inside : index < source.lines.length) (small : index ≤ Number.exactBound) :
    source.together (plans ++ [plan]) =
      (source.together plans).splice (place (source.addedBy plans) index) plan.lines := by
  rw [together, together, addedBy_append at_index small, woven.splice_eq cut inside]

/-- A tag planned before a line that ends a comment keeps the lines well put. -/
theorem woven_append (woven : source.Woven (source.addedBy plans)) {plan : Insertion} {index : Nat}
    (at_index : plan.index = Number.ofNat index) (small : index ≤ Number.exactBound)
    (ends : source.endsBlock index = true) (inner : ∀ line ∈ plan.lines, Line.Inner line) :
    source.Woven (source.addedBy (plans ++ [plan])) where
  places := by
    intro i plain
    have other : i ≠ index := by
      intro same
      rw [same, ends] at plain
      exact absurd plain (by decide)
    simp only [addedBy_append at_index small, woven.places i plain, if_neg other,
      List.append_nil]
  lines := by
    intro i line mem
    rw [addedBy_append at_index small, List.mem_append] at mem
    rcases mem with old | new
    · exact woven.lines i line old
    · split at new
      · rename_i same
        subst same
        obtain ⟨body, planned, rfl⟩ := List.mem_map.mp new
        exact ⟨body, inner body planned, rfl⟩
      · exact absurd new (by simp)

end Source

end DocMend
