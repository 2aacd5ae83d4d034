import DocMend.Disk.WorkingTree
/-!
Writing a file that is there. The file has the written bytes then, and whatever any other path leads to
is as it was: a file stays a file, so every walk through the disk ends where it ended before.
-/

set_option autoImplicit false
set_option relaxedAutoImplicit false

namespace DocMend

section SetAt

variable {α : Type}

theorem lookup_setAt_same (entries : List (Path × α)) (path : Path) (value : α) :
    (setAt entries path value).lookup path = some value := by
  induction entries with
  | nil => rw [setAt, List.lookup_cons, beq_self_eq_true]
  | cons entry rest ih =>
    unfold setAt
    split
    · rw [List.lookup_cons, beq_self_eq_true]
    · rename_i differ
      rw [List.lookup_cons, beq_false_of_ne (Ne.symm differ)]
      exact ih

theorem lookup_setAt_other (entries : List (Path × α)) {path other : Path} (differ : other ≠ path)
    (value : α) : (setAt entries path value).lookup other = entries.lookup other := by
  induction entries with
  | nil => rw [setAt, List.lookup_cons, beq_false_of_ne differ]
  | cons entry rest ih =>
    unfold setAt
    split
    · rename_i same
      rw [List.lookup_cons, List.lookup_cons, same, beq_false_of_ne differ]
    · rw [List.lookup_cons, List.lookup_cons, ih]

end SetAt

namespace Disk

variable {disk : Disk} {path target walked : Path} {rest : List String} {old : List UInt8}

/-- A walk ends at what its last path leads to. -/
theorem node?_of_findFrom {node : Node} (found : disk.findFrom target walked rest = .ok node) :
    disk.node? (walked ++ rest) = some node := by
  induction rest generalizing walked with
  | nil =>
    simp only [findFrom] at found
    split at found
    · rename_i there present
      rw [List.append_nil, present, Except.ok.inj found]
    · exact absurd found (by simp)
  | cons component rest ih =>
    simp only [findFrom] at found
    split at found
    · split at found
      · exact absurd found (by simp)
      · have further := ih found
        rwa [List.append_assoc, List.singleton_append] at further
    · exact absurd found (by simp)
    · exact absurd found (by simp)

theorem read_ok (present : disk.read path = .ok old) :
    isSpeakable path = true ∧ ¬longestPath < path.text.utf8ByteSize ∧
      disk.findFrom path [] path = .ok (.file old) := by
  simp only [read, find] at present
  cases speakable : isSpeakable path with
  | false => simp [speakable] at present
  | true =>
    by_cases long : longestPath < path.text.utf8ByteSize
    · simp [speakable, long] at present
    · simp only [speakable, Bool.not_true, Bool.false_eq_true, if_false, if_neg long] at present
      refine ⟨rfl, long, ?_⟩
      cases found : disk.findFrom path [] path with
      | error fault => simp [found] at present
      | ok node =>
        rw [found] at present
        cases node with
        | file bytes => rw [Except.ok.inj present]
        | folder => exact absurd present (by simp)

theorem node?_of_read (present : disk.read path = .ok old) : disk.node? path = some (.file old) :=
  node?_of_findFrom (read_ok present).2.2

/-- What can be read is empty or one of the files. -/
theorem mem_files_of_read (present : disk.read path = .ok old) :
    old = [] ∨ (path, old) ∈ disk.files := by
  have node := node?_of_read present
  rw [node?] at node
  by_cases device : path = emptyDevice
  · rw [if_pos device] at node
    exact .inl (Node.file.inj (Option.some.inj node)).symm
  rw [if_neg device] at node
  cases listed : disk.files.lookup path with
  | some bytes =>
    simp only [listed] at node
    obtain rfl := Node.file.inj (Option.some.inj node)
    obtain ⟨before, after, entries, -⟩ := List.lookup_eq_some_iff.mp listed
    exact .inr (by simp [entries])
  | none =>
    simp only [listed] at node
    split at node
    · exact nomatch node
    · exact nomatch node

/-- Only the empty device is always empty. -/
theorem ne_emptyDevice (present : disk.read path = .ok old) (filled : old ≠ []) :
    path ≠ emptyDevice := by
  rintro rfl
  have empty := node?_of_read present
  rw [node?, if_pos rfl] at empty
  exact filled (Node.file.inj (Option.some.inj empty)).symm

section Rewritten

variable (real : path ≠ emptyDevice) (bytes : List UInt8)

include real

private theorem node?_rewritten :
    { disk with files := setAt disk.files path bytes }.node? path = some (.file bytes) := by
  rw [node?, if_neg real]
  simp only [lookup_setAt_same]

omit real in
private theorem node?_elsewhere {other : Path} (differ : other ≠ path) :
    { disk with files := setAt disk.files path bytes }.node? other = disk.node? other := by
  simp only [node?, lookup_setAt_other disk.files differ]

private theorem findFrom_rewritten (whole : walked ++ rest = path)
    (found : disk.findFrom target walked rest = .ok (.file old)) :
    { disk with files := setAt disk.files path bytes }.findFrom target walked rest =
      .ok (.file bytes) := by
  induction rest generalizing walked with
  | nil =>
    obtain rfl : walked = path := by rw [← whole, List.append_nil]
    simp only [findFrom, node?_rewritten real]
  | cons component rest ih =>
    have differ : walked ≠ path := by
      rintro rfl
      exact absurd (List.self_eq_append_right.mp whole.symm) (by simp)
    have further : (walked ++ [component]) ++ rest = path := by
      rw [← whole, List.append_assoc, List.singleton_append]
    simp only [findFrom] at found ⊢
    rw [node?_elsewhere bytes differ]
    split at found
    · split at found
      · exact absurd found (by simp)
      · rename_i short
        rw [if_neg short]
        exact ih further found
    · exact absurd found (by simp)
    · exact absurd found (by simp)

private theorem findFrom_elsewhere (file : disk.node? path = some (.file old))
    (differ : walked ++ rest ≠ path) :
    { disk with files := setAt disk.files path bytes }.findFrom target walked rest =
      disk.findFrom target walked rest := by
  induction rest generalizing walked with
  | nil =>
    rw [List.append_nil] at differ
    simp only [findFrom, node?_elsewhere bytes differ]
  | cons component rest ih =>
    by_cases same : walked = path
    · -- no walk goes on behind a file
      subst same
      simp only [findFrom, node?_rewritten real, file]
    · have further : (walked ++ [component]) ++ rest ≠ path := by
        rwa [List.append_assoc, List.singleton_append]
      simp only [findFrom, node?_elsewhere bytes same, ih further]

end Rewritten

/-- A file that is there, and not the empty device, can be written. -/
theorem write_eq (present : disk.read path = .ok old) (real : path ≠ emptyDevice)
    (bytes : List UInt8) :
    disk.write path bytes = .ok { disk with files := setAt disk.files path bytes } := by
  obtain ⟨speakable, long, found⟩ := read_ok present
  have there : disk.find path = .ok (.file old) := by
    simp only [find, speakable, Bool.not_true, Bool.false_eq_true, if_false, if_neg long, found]
  simp only [write, writable, there, if_neg real]

/-- A written file has the written bytes. -/
theorem read_write_same {after : Disk} (present : disk.read path = .ok old)
    (real : path ≠ emptyDevice) {bytes : List UInt8} (written : disk.write path bytes = .ok after) :
    after.read path = .ok bytes := by
  obtain ⟨speakable, long, found⟩ := read_ok present
  rw [write_eq present real] at written
  obtain rfl := Except.ok.inj written
  have there := findFrom_rewritten real bytes (List.nil_append path) found
  simp only [read, find, speakable, Bool.not_true, Bool.false_eq_true, if_false, if_neg long, there]

/-- Writing a file that is there changes nothing that any other path leads to. -/
theorem find_write_other {after : Disk} (present : disk.read path = .ok old)
    (real : path ≠ emptyDevice) {bytes : List UInt8} (written : disk.write path bytes = .ok after)
    {other : Path} (differ : other ≠ path) : after.find other = disk.find other := by
  rw [write_eq present real] at written
  obtain rfl := Except.ok.inj written
  have same := @findFrom_elsewhere disk path other [] other old real bytes (node?_of_read present)
    differ
  simp only [find, same]

end Disk

end DocMend
