import DocMend.Proofs.Disk.Write
import DocMend.Proofs.Number.Counting
import DocMend.Proofs.Plan.Place
import DocMend.Proofs.Repair.Effect
import DocMend.Proofs.Source.Splice
import DocMend.Proofs.Text.Utf8
import Mathlib.Control.Monad.Basic
/-!
What a change of a file does to its bytes on the disk. A file is read as text and written as a whole, so
the bytes around an insertion are those that are written for what was read. They are the bytes of the
file exactly where these are well formed.
-/

set_option autoImplicit false
set_option relaxedAutoImplicit false

namespace DocMend

namespace Source

/-- The bytes that are written for a source. -/
def bytes (source : Source) : List UInt8 :=
  Text.Utf8.encode source.text.toList

/-- The source that is read from bytes. -/
def ofBytes (bytes : List UInt8) : Source :=
  ofText (String.ofList (Text.Utf8.decode bytes))

theorem bytes_append (first second : List String) :
    bytes ⟨first ++ second⟩ = bytes ⟨first⟩ ++ bytes ⟨second⟩ := by
  simp only [bytes, toList_text, List.map_append, List.flatten_append, Text.Utf8.encode_append]

theorem bytes_take_drop (source : Source) (index : Nat) :
    bytes ⟨source.lines.take index⟩ ++ bytes ⟨source.lines.drop index⟩ = source.bytes := by
  rw [← bytes_append, List.take_append_drop]

/-- Reading and writing bytes keeps what they are read as. -/
theorem bytes_ofBytes (old : List UInt8) :
    (ofBytes old).bytes = Text.Utf8.encode (Text.Utf8.decode old) := by
  rw [bytes, ofBytes, text_ofText, String.toList_ofList]

/-- There are no more lines than bytes. -/
theorem length_ofBytes_le (old : List UInt8) : (ofBytes old).lines.length ≤ old.length := by
  have lines := size_ofText_le (String.ofList (Text.Utf8.decode old))
  have characters := Text.Utf8.length_decode_le old
  rw [String.length_ofList] at lines
  exact Nat.le_trans lines characters

section Splice

variable {source : Source} {index : Nat} (inside : index < source.lines.length)
  (added : List String)

include inside

theorem bytes_splice : (source.splice index added).bytes =
    bytes ⟨source.lines.take index⟩ ++ bytes ⟨source.ended index added⟩ ++
      bytes ⟨source.lines.drop index⟩ := by
  rw [splice_inside source inside, bytes_append, bytes_append]

/-- A line begins where the file does or behind a line feed, in its bytes as in its text. -/
theorem ended_bytes_take (cut : source.Cut) : Text.Utf8.Ended (bytes ⟨source.lines.take index⟩) := by
  rw [bytes, toList_text, List.map_take]
  exact Text.Utf8.ended_encode (Line.Cut.ended_take cut (by simpa using inside))

omit inside in
theorem ended_bytes_ended : Text.Utf8.Ended (bytes ⟨source.ended index added⟩) := by
  rw [bytes, toList_text]
  exact Text.Utf8.ended_encode (source.ended_flatten_ended index added)

end Splice

/-- The bytes around an insertion are those of the file exactly where the file is well formed. -/
theorem isWellFormed_iff_spliced {old : List UInt8} {index : Nat}
    (inside : index < (ofBytes old).lines.length) (added : List String) :
    Text.Utf8.isWellFormed old = true ↔
      ∃ before behind, Text.Utf8.Ended before ∧ old = before ++ behind ∧
        ((ofBytes old).splice index added).bytes =
          before ++ bytes ⟨(ofBytes old).ended index added⟩ ++ behind := by
  constructor
  · intro wellFormed
    have same : (ofBytes old).bytes = old := by
      rw [bytes_ofBytes]
      exact eq_of_beq wellFormed
    refine ⟨_, _, ended_bytes_take inside (cut_ofText _), ?_, bytes_splice inside added⟩
    rw [bytes_take_drop, same]
  · rintro ⟨before, behind, start, rfl, written⟩
    have middle : Text.Utf8.Ended (bytes ⟨(ofBytes (before ++ behind)).ended index added⟩) :=
      ended_bytes_ended added
    have whole : Text.Utf8.isWellFormed
        ((ofBytes (before ++ behind)).splice index added).bytes = true :=
      Text.Utf8.isWellFormed_encode _
    rw [written, List.append_assoc, Text.Utf8.isWellFormed_append start,
      Text.Utf8.isWellFormed_append middle] at whole
    exact (Text.Utf8.isWellFormed_append start).mpr ⟨whole.1, whole.2.2⟩

end Source

namespace Repair

variable {tree after : WorkingTree} {name : String} {insertion : Insertion} {old : List UInt8}

private theorem tree_read_ok {mid : WorkingTree} {text : String}
    (read : (FileStore.read name : StateM WorkingTree (Except String String)) tree =
      (.ok text, mid)) :
    mid = tree ∧ ∃ bytes, tree.disk.read (tree.path name) = .ok bytes ∧
      Source.ofText text = Source.ofBytes bytes := by
  simp only [FileStore.read, WorkingTree.read] at read
  cases present : tree.disk.read (tree.path name) with
  | error fault =>
    rw [present] at read
    exact absurd (congrArg Prod.fst read) (by simp)
  | ok bytes =>
    rw [present] at read
    obtain ⟨same, rfl⟩ := Prod.mk.inj read
    obtain rfl := Except.ok.inj same
    exact ⟨rfl, bytes, rfl, rfl⟩

private theorem tree_write_ok {text : String}
    (written : (FileStore.write name text : StateM WorkingTree (Except String Unit)) tree =
      (.ok (), after)) :
    ∃ disk, tree.disk.write (tree.path name) (Text.Utf8.encode text.toList) = .ok disk ∧
      after = { tree with disk } := by
  simp only [FileStore.write, WorkingTree.write] at written
  cases result : tree.disk.write (tree.path name) (Text.Utf8.encode text.toList) with
  | error fault =>
    rw [result] at written
    exact absurd (congrArg Prod.fst written) (by simp)
  | ok disk =>
    rw [result] at written
    obtain ⟨-, rfl⟩ := Prod.mk.inj written
    exact ⟨disk, rfl, rfl⟩

/-- A plan that is carried out never points behind the last line. -/
def Inside (plan : Source → Except Failure Insertion) : Prop :=
  ∀ source insertion index, source.lines.length ≤ Number.exactBound →
    plan source = .ok insertion → insertion.index.toNat? = some index → index < source.lines.length

theorem inside_ofRemedy (remedy : Remedy) (issue : Issue) (options : Plan.Options) :
    Inside fun source => Plan.ofRemedy remedy issue source options := by
  intro source insertion index small plan whole
  obtain ⟨place, inside, same⟩ := Plan.ofRemedy_inside plan
  rw [same, Number.toNat?_ofNat (by omega)] at whole
  exact Option.some.inj whole ▸ inside

theorem inside_within (path : String) (insertion : Insertion) : Inside (within path insertion) := by
  intro source chosen index small plan whole
  simp only [within] at plan
  split at plan
  · rename_i range
    obtain rfl := Except.ok.inj plan
    have below := range.2
    rw [Number.eq_finite_of_toNat? whole, Source.size, Number.ofNat_eq_finite small,
      Number.finite_lt] at below
    omega
  · exact absurd plan (by simp)

/-- A file of the tree is changed: an issue is repaired in it, or an insertion is carried out. -/
inductive Changed (tree : WorkingTree) (name : String) (insertion : Insertion)
    (after : WorkingTree) : Prop
  | repaired {options : Plan.Options} {session next : Session} {issue : Issue}
      {shape : Option Shape} (file : issue.path = name)
      (done : performFrom tree (step options session issue) = (.ok next, after))
      (applied : next.results = session.results ++ [⟨issue, shape, .applied insertion⟩])
  | carriedOut (done : performFrom tree (carryOut name insertion) = (.ok (.ok insertion), after))

theorem Changed.planned (changed : Changed tree name insertion after) :
    ∃ plan, Inside plan ∧
      performFrom tree (applyPlan name plan) = (.ok (.ok insertion), after) := by
  cases changed with
  | repaired file done applied =>
    subst file
    obtain ⟨remedy, -, planned⟩ := step_applied done applied
    exact ⟨_, inside_ofRemedy _ _ _, planned⟩
  | carriedOut done => exact ⟨_, inside_within name insertion, done⟩

/-- A changed file is written as its lines were read, with the insertion in between. -/
theorem Changed.written (changed : Changed tree name insertion after)
    (present : tree.disk.read (tree.path name) = .ok old)
    (short : old.length ≤ Number.exactBound) :
    ∃ index disk, insertion.index.toNat? = some index ∧
      index < (Source.ofBytes old).lines.length ∧
      tree.disk.write (tree.path name)
        ((Source.ofBytes old).splice index insertion.lines).bytes = .ok disk ∧
      after = { tree with disk } := by
  obtain ⟨plan, inside, done⟩ := changed.planned
  obtain ⟨text, mid, patched, read, planned, inserted, written⟩ := applyPlan_ok done
  obtain ⟨rfl, bytes, found, source⟩ := tree_read_ok read
  obtain rfl : old = bytes := Except.ok.inj (present.symm.trans found)
  rw [source] at planned inserted
  obtain ⟨index, whole, -, rfl⟩ := Source.insert_ok inserted
  obtain ⟨disk, put, rfl⟩ := tree_write_ok written
  have small := Nat.le_trans (Source.length_ofBytes_le old) short
  exact ⟨index, disk, whole, inside _ _ _ small planned whole, put, rfl⟩

/-- A changed file has the bytes that are written for what was read of it, with the bytes of the
inserted lines and their terminators at the beginning of a line, and nothing else on the disk is
changed. Every byte of the file is kept in its place exactly where the file was UTF-8 of some text. -/
theorem changed_bytes_iff (changed : Changed tree name insertion after)
    (present : tree.disk.read (tree.path name) = .ok old)
    (short : old.length ≤ Number.exactBound) :
    ∃ index first added second, insertion.index.toNat? = some index ∧
      first = Source.bytes ⟨(Source.ofBytes old).lines.take index⟩ ∧
      added = Source.bytes ⟨(Source.ofBytes old).ended index insertion.lines⟩ ∧
      Text.Utf8.Ended first ∧
      first ++ second = Text.Utf8.encode (Text.Utf8.decode old) ∧
      after.disk.read (after.path name) = .ok (first ++ added ++ second) ∧
      ((∃ cs, Text.Utf8.encode cs = old) ↔ ∃ before behind, Text.Utf8.Ended before ∧
        old = before ++ behind ∧ first ++ added ++ second = before ++ added ++ behind) ∧
      ∀ other, other ≠ tree.path name → after.disk.find other = tree.disk.find other := by
  obtain ⟨index, disk, whole, inside, written, rfl⟩ := changed.written present short
  have filled : old ≠ [] := by
    rintro rfl
    exact absurd inside (Nat.not_lt_zero index)
  have real := Disk.ne_emptyDevice present filled
  have wellFormed := Source.isWellFormed_iff_spliced inside insertion.lines
  rw [Text.Utf8.isWellFormed_iff] at wellFormed
  have reread := Disk.read_write_same present real written
  rw [Source.bytes_splice inside] at wellFormed reread
  refine ⟨index, _, _, _, whole, rfl, rfl, ?_, ?_, reread, wellFormed, ?_⟩
  · exact Source.ended_bytes_take inside (Source.cut_ofText _)
  · rw [Source.bytes_take_drop, Source.bytes_ofBytes]
  · exact fun other differ => Disk.find_write_other present real written differ

/-- An insertion with letters beyond the first code points, in a file that has such letters too. -/
theorem changed_bytes_iff_accents :
    let old := Text.Utf8.encode "/** é\r\n */\r\nint f();".toList
    let tree : WorkingTree := ⟨{ files := [(["A.java"], old)] }, []⟩
    let insertion : Insertion := ⟨Number.ofNat 1, [" * ü"]⟩
    let added := Text.Utf8.encode " * ü\r\n".toList
    ∃ after, Changed tree "A.java" insertion after ∧
      tree.disk.read (tree.path "A.java") = .ok old ∧ old.length ≤ Number.exactBound ∧
      ∃ before behind, Text.Utf8.Ended before ∧ old = before ++ behind ∧
        after.disk.read (after.path "A.java") = .ok (before ++ added ++ behind) := by
  intro old tree insertion added
  have present : tree.disk.read (tree.path "A.java") = .ok old := by decide +kernel
  have short : old.length ≤ Number.exactBound := by decide +kernel
  have done : performFrom tree (carryOut "A.java" insertion) = (.ok (.ok insertion),
      ⟨{ files := [(["A.java"],
        Text.Utf8.encode "/** é\r\n * ü\r\n */\r\nint f();".toList)] }, []⟩) := by
    decide +kernel
  have one : insertion.index.toNat? = some 1 := by decide +kernel
  have terminated : Source.bytes ⟨(Source.ofBytes old).ended 1 insertion.lines⟩ = added := by
    decide +kernel
  obtain ⟨index, first, middle, second, whole, -, same, -, -, reread, wellFormed, -⟩ :=
    changed_bytes_iff (.carriedOut done) present short
  obtain rfl : 1 = index := Option.some.inj (one.symm.trans whole)
  obtain ⟨before, behind, start, cut, spliced⟩ :=
    wellFormed.mp ⟨_, rfl⟩
  refine ⟨_, .carriedOut done, present, short, before, behind, start, cut, ?_⟩
  rw [reread, spliced, same, terminated]

/-- A repair of a file with a byte that is not UTF-8 loses that byte, on a line before the
insertion. -/
theorem changed_bytes_lost :
    let old : List UInt8 :=
      Text.Utf8.encode "/** ".toList ++ [0xE9, 0x0A] ++ Text.Utf8.encode " */\nint f();\n".toList
    let tree : WorkingTree := ⟨{ files := [(["A.java"], old)] }, []⟩
    let insertion : Insertion := ⟨Number.ofNat 1, [" * @return the result of the operation"]⟩
    ∃ after new, Changed tree "A.java" insertion after ∧
      tree.disk.read (tree.path "A.java") = .ok old ∧
      after.disk.read (after.path "A.java") = .ok new ∧ 0xE9 ∈ old ∧ 0xE9 ∉ new := by
  intro old tree insertion
  let issue : Issue := ⟨"A.java", Number.ofNat 3, "warning: no @return"⟩
  let new : List UInt8 := Text.Utf8.encode
    "/** \ufffd\n * @return the result of the operation\n */\nint f();\n".toList
  have done : performFrom tree (step {} {} issue) =
      (.ok ⟨Drift.record {} "A.java" insertion, [⟨issue, some .missingReturn, .applied insertion⟩]⟩,
        ⟨{ files := [(["A.java"], new)] }, []⟩) := by
    decide +kernel
  exact ⟨_, new, .repaired rfl done rfl, by decide +kernel, by decide +kernel, by decide +kernel,
    by decide +kernel⟩

end Repair

end DocMend
