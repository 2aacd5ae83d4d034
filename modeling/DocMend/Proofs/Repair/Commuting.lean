import DocMend.Proofs.Drift
import DocMend.Proofs.Repair.Transition
import DocMend.Proofs.Source.Insertions
import Mathlib.Control.Monad.Basic
/-!
Two insertions before different lines of one file, carried out and recorded in either order.
-/

set_option autoImplicit false
set_option relaxedAutoImplicit false

namespace DocMend

open Number (ofNat exactBound)

/-- Of two values set for a key the second one stays. -/
private theorem setEntry_setEntry {α : Type} (entries : List (String × α)) (key : String)
    (first second : α) :
    setEntry (setEntry entries key first) key second = setEntry entries key second := by
  induction entries with
  | nil => simp [setEntry]
  | cons entry rest ih =>
    by_cases same : entry.1 = key
    · simp [setEntry, same]
    · simp [setEntry, same, ih]

namespace Drift

/-- The record of two insertions before different lines, told by what it does to one line. -/
theorem resolve_comm {i j : Nat} {xs ys : List String} (less : i < j)
    (few : j + xs.length + ys.length < exactBound) {path : String} {drift : Drift} {line : Number}
    {place : Nat} (stands : drift.resolve path line = ofNat place)
    (exact : place + xs.length + ys.length ≤ exactBound ∨ xs.length = ys.length) :
    ((drift.record path ⟨ofNat i, xs⟩).record path ⟨ofNat (j + xs.length), ys⟩).resolve path line =
      ((drift.record path ⟨ofNat j, ys⟩).record path ⟨ofNat i, xs⟩).resolve path line := by
  have sums : ofNat place + ofNat xs.length + ofNat ys.length =
      ofNat place + ofNat ys.length + ofNat xs.length := by
    rcases exact with small | same
    · rw [Number.ofNat_add (by omega) (by omega), Number.ofNat_add (by omega) (by omega),
        Number.ofNat_add (by omega) (by omega), Number.ofNat_add (by omega) (by omega),
        Nat.add_right_comm]
    · rw [same]
  simp only [resolve_record, stands, Insertion.shift]
  exact Shift.move_comm less few sums

end Drift

namespace Repair

namespace Memory

variable {memory : Memory} {path text : String}

/-- What a memory becomes when one of its files is read and written. -/
def rewritten (memory : Memory) (path text : String) : Memory :=
  { memory.note (.read path) with files := setEntry memory.files path text }.note (.write path true)

/-- What is written first leaves its marks on the trace only. -/
private theorem rewritten_rewritten (memory : Memory) (path first second : String) :
    (memory.rewritten path first).rewritten path second =
      { memory with
        files := setEntry memory.files path second
        trace := memory.trace ++
          [.read path, .write path true, .read path, .write path true] } := by
  simp [rewritten, note, setEntry_setEntry]

/-- An insertion before a line of a file that can be written is carried out. -/
theorem perform_carryOut (present : memory.files.lookup path = some text)
    (opened : path ∉ memory.readOnly) {index : Nat}
    (inside : index < (Source.ofText text).lines.length)
    (small : (Source.ofText text).lines.length ≤ exactBound) (added : List String) :
    memory.perform (carryOut path ⟨ofNat index, added⟩) =
      (.ok (.ok ⟨ofNat index, added⟩),
        memory.rewritten path ((Source.ofText text).splice index added).text) := by
  have accepted : within path ⟨ofNat index, added⟩ (Source.ofText text) =
      .ok ⟨ofNat index, added⟩ := by
    have positive : (0 : Number) ≤ ofNat index := Number.ofNat_mono (Nat.zero_le index)
    exact if_pos ⟨positive, Number.ofNat_lt inside small⟩
  have inserted := Source.insert_ofNat inside small added
  have still : path ∉ (memory.note (.read path)).readOnly := opened
  simp only [carryOut, applyPlan, perform_bind, perform_lift, load_eq, present, accepted, inserted,
    save_eq, if_neg still, perform_pure]
  rfl

/-- Two insertions of which the second one counts in the lines that the first one leaves. -/
theorem perform_carryOut_both (present : memory.files.lookup path = some text)
    (opened : path ∉ memory.readOnly) {i k : Nat} {xs : List String}
    (first : i < (Source.ofText text).lines.length)
    (second : k < (Source.ofText text).lines.length + xs.length)
    (small : (Source.ofText text).lines.length + xs.length ≤ exactBound)
    (feedless : ∀ line ∈ xs, '\n' ∉ line.toList) (ys : List String) :
    memory.perform ([⟨ofNat i, xs⟩, ⟨ofNat k, ys⟩].mapM (carryOut path)) =
      (.ok [.ok ⟨ofNat i, xs⟩, .ok ⟨ofNat k, ys⟩],
        { memory with
          files := setEntry memory.files path
            (((Source.ofText text).splice i xs).splice k ys).text
          trace := memory.trace ++
            [.read path, .write path true, .read path, .write path true] }) := by
  have reread := ((Source.cut_ofText text).splice first feedless).ofText_text
  have written : (memory.rewritten path ((Source.ofText text).splice i xs).text).files.lookup path =
      some ((Source.ofText text).splice i xs).text := lookup_setEntry_same _ _ _
  have size := Source.size_splice (Source.ofText text) first xs
  have upper := perform_carryOut present opened first (by omega) xs
  have lower := perform_carryOut written opened (by rw [reread]; omega : k < _)
    (by rw [reread]; omega) ys
  rw [reread, rewritten_rewritten] at lower
  simp only [List.mapM_cons, List.mapM_nil, perform_bind, upper, lower, perform_pure]

end Memory

/-- Insertions of plain lines before two lines of a file can be carried out in either order, the lower
one moved down by the lines of the upper one: the file and the trace are the same, and so is what the
record says of any line, as long as lines are counted exactly or both insertions have equally many. -/
theorem carryOut_comm {memory : Memory} {path text : String}
    (present : memory.files.lookup path = some text) (opened : path ∉ memory.readOnly) {i j : Nat}
    (less : i < j) (inside : j < (Source.ofText text).size) {xs ys : List String}
    (plain : ∀ line ∈ xs ++ ys, '\n' ∉ line.toList ∧ '\r' ∉ line.toList)
    (small : (Source.ofText text).size + xs.length + ys.length ≤ exactBound) :
    let upper : Insertion := ⟨ofNat i, xs⟩
    let lower : Insertion := ⟨ofNat j, ys⟩
    let moved : Insertion := ⟨ofNat (j + xs.length), ys⟩
    let downward := memory.perform ([upper, moved].mapM (carryOut path))
    let upward := memory.perform ([lower, upper].mapM (carryOut path))
    downward.1 = .ok [.ok upper, .ok moved] ∧ upward.1 = .ok [.ok lower, .ok upper] ∧
      downward.2 = upward.2 ∧
      upward.2.files.lookup path =
        some (((Source.ofText text).splice j ys).splice i xs).text ∧
      ∀ (drift : Drift) (line : Number) (place : Nat), drift.resolve path line = ofNat place →
        place + xs.length + ys.length ≤ exactBound ∨ xs.length = ys.length →
        ((drift.record path upper).record path moved).resolve path line =
          ((drift.record path lower).record path upper).resolve path line := by
  intro upper lower moved downward upward
  rw [Source.size] at inside small
  have first : ∀ line ∈ xs, '\n' ∉ line.toList ∧ '\r' ∉ line.toList := fun line mem =>
    plain line (List.mem_append_left ys mem)
  have second : ∀ line ∈ ys, '\n' ∉ line.toList ∧ '\r' ∉ line.toList := fun line mem =>
    plain line (List.mem_append_right xs mem)
  have down := Memory.perform_carryOut_both present opened (by omega : i < _)
    (by omega : j + xs.length < _) (by omega) (fun line mem => (first line mem).1) ys
  have up := Memory.perform_carryOut_both present opened inside (by omega : i < _) (by omega)
    (fun line mem => (second line mem).1) xs
  rw [Source.splice_comm (Source.cut_ofText text) less inside first ys] at down
  have after : downward.2 = upward.2 := (congrArg Prod.snd down).trans (congrArg Prod.snd up).symm
  refine ⟨congrArg Prod.fst down, congrArg Prod.fst up, after, ?_, ?_⟩
  · rw [congrArg (fun outcome => outcome.2.files) up]
    exact lookup_setEntry_same _ _ _
  · intro drift line place stands exact
    exact Drift.resolve_comm less (by omega) stands exact

/-- A line above the end of a comment and two lines above an open last line. -/
theorem carryOut_comm_last :
    let text := "/** x\r\n */\nint f();\nint g()"
    let memory : Memory := { files := [("A", text)] }
    let xs := [" * y"]
    let ys := ["/**", " */"]
    let upper : Insertion := ⟨ofNat 1, xs⟩
    let lower : Insertion := ⟨ofNat 3, ys⟩
    let moved : Insertion := ⟨ofNat (3 + xs.length), ys⟩
    let downward := memory.perform ([upper, moved].mapM (carryOut "A"))
    let upward := memory.perform ([lower, upper].mapM (carryOut "A"))
    (3 < (Source.ofText text).size ∧
        (∀ line ∈ xs ++ ys, '\n' ∉ line.toList ∧ '\r' ∉ line.toList) ∧
        (Source.ofText text).size + xs.length + ys.length ≤ exactBound) ∧
      downward.2 = upward.2 ∧
      upward.2.files = [("A", "/** x\r\n * y\n */\nint f();\n/**\r\n */\r\nint g()")] ∧
      ((({} : Drift).record "A" upper).record "A" moved).resolve "A" (ofNat 4) =
        ((({} : Drift).record "A" lower).record "A" upper).resolve "A" (ofNat 4) := by
  intro text memory xs ys upper lower moved downward upward
  have present : memory.files.lookup "A" = some text := by decide
  have opened : "A" ∉ memory.readOnly := by decide
  have inside : 3 < (Source.ofText text).size := by decide +kernel
  have plain : ∀ line ∈ xs ++ ys, '\n' ∉ line.toList ∧ '\r' ∉ line.toList := by decide +kernel
  have small : (Source.ofText text).size + xs.length + ys.length ≤ exactBound := by
    decide +kernel
  have unmoved : ({} : Drift).resolve "A" (ofNat 4) = ofNat 4 := rfl
  have few : 4 + xs.length + ys.length ≤ exactBound := by decide +kernel
  obtain ⟨-, -, same, -, resolved⟩ :=
    carryOut_comm present opened (by decide : 1 < 3) inside plain small
  exact ⟨⟨inside, plain, small⟩, same, by decide +kernel, resolved {} _ 4 unmoved (Or.inl few)⟩

/-- A line number at the exact bound is rounded in one of the two orders only. -/
theorem resolve_differs :
    let memory : Memory := { files := [("A.java", "a\nb\n")] }
    let upper : Insertion := ⟨ofNat 0, ["x"]⟩
    let lower : Insertion := ⟨ofNat 1, ["y", "z"]⟩
    let moved : Insertion := ⟨ofNat 2, ["y", "z"]⟩
    let downward := ((({} : Drift).record "A.java" upper).record "A.java" moved)
    let upward := ((({} : Drift).record "A.java" lower).record "A.java" upper)
    (memory.perform ([upper, moved].mapM (carryOut "A.java"))).1 = .ok [.ok upper, .ok moved] ∧
      (memory.perform ([lower, upper].mapM (carryOut "A.java"))).1 = .ok [.ok lower, .ok upper] ∧
      downward.resolve "A.java" (ofNat 9007199254740991) = ofNat 9007199254740994 ∧
      upward.resolve "A.java" (ofNat 9007199254740991) = ofNat 9007199254740992 ∧
      ¬∀ line : Nat, downward.resolve "A.java" (ofNat line) = upward.resolve "A.java" (ofNat line) := by
  intro memory upper lower moved downward upward
  have exact : downward.resolve "A.java" (ofNat 9007199254740991) = ofNat 9007199254740994 := by
    decide +kernel
  have rounded : upward.resolve "A.java" (ofNat 9007199254740991) = ofNat 9007199254740992 := by
    decide +kernel
  refine ⟨by decide +kernel, by decide +kernel, exact, rounded, fun same => ?_⟩
  have equal := same 9007199254740991
  rw [exact, rounded] at equal
  exact absurd equal (by decide +kernel)

end Repair

end DocMend
