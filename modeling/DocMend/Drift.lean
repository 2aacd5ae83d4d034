import DocMend.Source.Basic
import DocMend.Text.Utf16
/-!
Line drift: where the lines of a file have moved since the linter saw it. The record holds the
insertions of a run in the order in which they happened, and a reported line is carried through
those of its own file.
-/

set_option autoImplicit false
set_option relaxedAutoImplicit false

namespace DocMend

/-- So many lines inserted before the line with an index. -/
structure Shift where
  index : Number
  count : Nat
deriving DecidableEq, Repr

/-- Moves a line, counted from one, that stands at or below an insertion. -/
def Shift.move (line : Number) (shift : Shift) : Number :=
  if shift.index ≤ line - 1 then line + Number.ofNat shift.count else line

/-- The shift that an insertion causes. -/
def Insertion.shift (insertion : Insertion) : Shift :=
  ⟨insertion.index, insertion.lines.length⟩

/-- The shifts of a run, oldest first, each with the path of its file. -/
structure Drift where
  entries : List (String × Shift) := []
deriving DecidableEq, Repr

namespace Drift

/-- The shifts of one file, oldest first. -/
def shifts (drift : Drift) (path : String) : List Shift :=
  (drift.entries.filter fun entry => entry.1 = path).map Prod.snd

/-- Where a line reported before the run stands now. -/
def resolve (drift : Drift) (path : String) (line : Number) : Number :=
  (drift.shifts path).foldl Shift.move line

/-- Adds an insertion into a file. -/
def record (drift : Drift) (path : String) (insertion : Insertion) : Drift :=
  ⟨drift.entries ++ [(path, insertion.shift)]⟩

/-- The files with at least one shift, in the order of their code units. -/
def files (drift : Drift) : List String :=
  Text.sortedByUnits (drift.entries.map Prod.fst).eraseDups

/-- Recording appends to the shifts of its own file and leaves those of other files alone. -/
theorem shifts_record (drift : Drift) (path : String) (insertion : Insertion) (other : String) :
    (drift.record path insertion).shifts other =
      drift.shifts other ++ if path = other then [insertion.shift] else [] := by
  simp only [shifts, record, List.filter_append, List.map_append]
  split <;> simp_all

/-- A line resolves through a new insertion last. -/
theorem resolve_record (drift : Drift) (path : String) (insertion : Insertion) (line : Number) :
    (drift.record path insertion).resolve path line =
      Shift.move (drift.resolve path line) insertion.shift := by
  simp [resolve, shifts_record]

end Drift

end DocMend
