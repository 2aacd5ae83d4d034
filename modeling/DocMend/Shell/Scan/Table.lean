import DocMend.Shell.Octets
/-!
Tables of scanning programs. An entry is found by a text, or by an integer that stands for its digits;
the entries stand in rows by a hash of the text, and in other rows by the integer. An entry that is
looked up moves to the front of its row, and the rows tell the order in which the entries are gone
through.
-/

set_option autoImplicit false
set_option relaxedAutoImplicit false

namespace DocMend.Shell.Scan

/-- A key: an integer, or a text. -/
inductive Key where
  | integer (n : Int)
  | text (text : Octets)
deriving DecidableEq, Repr

/-- The text of a key. -/
def Key.toText : Key → Octets
  | .integer n => Octets.ofInt n
  | .text cs => cs

/-- An entry: its text, the hash of it, its integer if it was looked up by one, whether it stands in a row
of texts, and what it holds. -/
structure Entry (α : Type) where
  text : Octets
  hash : Nat
  integer : Option Int
  hashed : Bool
  value : α

/-- A table. The rows hold the numbers of entries. What was split from a text stands in a list by itself
as long as it is only looked up by integers. -/
structure Table (α : Type) where
  parts : Option (Array α) := none
  entries : Array (Option (Entry α)) := #[]
  count : Nat := 0
  textRows : Array (List Nat) := #[]
  integerRows : Array (List Nat) := #[]
  byText : Bool := false

namespace Table

variable {α : Type}

/-- The number of rows of a new table. -/
def firstRows : Nat := 64

/-- How many entries there may be for each row. -/
def perRow : Nat := 12

/-- The hash of a text: each byte is joined by exclusive or, and the sum multiplied by a prime. -/
def hashOf (text : Octets) : Nat :=
  text.foldl (fun h c => (h ^^^ c.toNat) * 16777619 % 4294967296) 2166136261

/-- A table that holds nothing. -/
def empty : Table α :=
  { textRows := Array.replicate firstRows [], integerRows := Array.replicate firstRows [] }

/-- A table of the parts of a text, which are counted from one. -/
def ofParts (parts : List α) : Table α :=
  { (empty : Table α) with parts := if parts.isEmpty then none else some parts.toArray
                           count := parts.length }

/-- The row of a hash or an integer. -/
def rowOf (t : Table α) (n : Int) : Nat :=
  (n % (t.textRows.size : Int)).toNat

/-- Adds an entry to the front of the row of its text. -/
def inTextRow (t : Table α) (index hash : Nat) : Table α :=
  { t with textRows := t.textRows.modify (t.rowOf hash) fun row => index :: row }

/-- Adds an entry to the front of the row of its integer. -/
def inIntegerRow (t : Table α) (index : Nat) (n : Int) : Table α :=
  { t with integerRows := t.integerRows.modify (t.rowOf n) fun row => index :: row }

/-- Brings the parts of a text into rows. -/
def unpacked (t : Table α) : Table α :=
  match t.parts with
  | none => t
  | some parts =>
    let rec enough (fuel rows : Nat) : Nat :=
      match fuel with
      | 0 => rows
      | fuel + 1 => if perRow * rows < parts.size then enough fuel (2 * rows) else rows
    let rows := enough parts.size firstRows
    let start : Table α :=
      { t with parts := none, textRows := Array.replicate rows [], integerRows := Array.replicate rows [] }
    parts.foldl (fun t value =>
      let index := t.entries.size
      let n : Int := (index + 1 : Nat)
      let entry : Entry α := ⟨Octets.ofInt n, 0, some n, false, value⟩
      { t with entries := t.entries.push (some entry) }.inIntegerRow index n) start

/-- Doubles the rows: those that belong to the new half move there in their order. -/
def doubled (t : Table α) : Table α :=
  let size := t.textRows.size
  let key (hashed : Bool) (index : Nat) : Int :=
    match t.entries[index]? with
    | some (some entry) => if hashed then (entry.hash : Int) else entry.integer.getD 0
    | _ => 0
  let double (hashed : Bool) (rows : Array (List Nat)) : Array (List Nat) :=
    let split := rows.mapIdx fun place row =>
      row.partition fun index => (key hashed index % ((2 * size : Nat) : Int)).toNat == place
    split.map Prod.fst ++ split.map Prod.snd
  { t with textRows := double true t.textRows, integerRows := double false t.integerRows }

/-- Adds an entry that is in no row yet: its number. -/
def add (t : Table α) (entry : Entry α) : Nat × Table α :=
  let index := t.entries.size
  let t := { t with entries := t.entries.push (some entry), count := t.count + 1 }
  (index, if perRow * t.textRows.size < t.count then t.doubled else t)

/-- Brings all entries into the rows of texts. -/
def hashed (t : Table α) : Table α :=
  let t := t.unpacked
  if t.byText then t
  else
    let put (t : Table α) (index : Nat) : Table α :=
      match t.entries[index]? with
      | some (some entry) =>
        if entry.hashed then t
        else
          let hash := hashOf entry.text
          { t with entries := t.entries.setIfInBounds index (some { entry with hash, hashed := true }) }.inTextRow
            index hash
      | _ => t
    { t.integerRows.foldl (fun t row => row.foldl put t) t with byText := true }

/-- Takes the first index of a row with a property out of it. -/
def takeOut (row : List Nat) (test : Nat → Bool) : Option (Nat × List Nat) :=
  (row.find? test).map fun index => (index, row.filter fun other => other != index)

/-- Looks an entry up by its text; a missing one is made where there is something for it to hold. -/
def findText (t : Table α) (new? : Option α) (text : Octets) : Option Nat × Table α :=
  let t := t.hashed
  let hash := hashOf text
  let place := t.rowOf hash
  let isIt (index : Nat) : Bool :=
    match t.entries[index]? with
    | some (some entry) => entry.hash == hash && entry.text == text
    | _ => false
  match takeOut (t.textRows.getD place []) isIt with
  | some (index, rest) =>
    (some index, { t with textRows := t.textRows.setIfInBounds place (index :: rest) })
  | none =>
    match new? with
    | none => (none, t)
    | some value =>
      let (index, t) := t.add ⟨text, hash, none, true, value⟩
      (some index, t.inTextRow index hash)

/-- Looks an entry up by its integer; a missing one is made where there is something for it to hold. -/
def findInteger (t : Table α) (new? : Option α) (n : Int) : Option Nat × Table α :=
  let place := t.rowOf n
  let isIt (index : Nat) : Bool :=
    match t.entries[index]? with
    | some (some entry) => entry.integer == some n
    | _ => false
  match takeOut (t.integerRows.getD place []) isIt with
  | some (index, rest) =>
    (some index, { t with integerRows := t.integerRows.setIfInBounds place (index :: rest) })
  | none =>
    if t.byText then
      match t.findText new? (Octets.ofInt n) with
      | (none, t) => (none, t)
      | (some index, t) =>
        let entries := t.entries.modify index fun entry? =>
          entry?.map fun entry => { entry with integer := some n }
        (some index, { t with entries }.inIntegerRow index n)
    else
      match new? with
      | none => (none, t)
      | some value =>
        let (index, t) := t.add ⟨Octets.ofInt n, 0, some n, false, value⟩
        (some index, t.inIntegerRow index n)

/-- The place of an integer among the parts of a text. -/
def partAt? (t : Table α) (key : Key) : Option Nat :=
  match t.parts, key with
  | some parts, .integer n => if 1 ≤ n ∧ n ≤ parts.size then some (n - 1).toNat else none
  | _, _ => none

/-- Looks an entry up. -/
def find (t : Table α) (new? : Option α) (key : Key) : Option Nat × Table α :=
  if t.count = 0 && new?.isNone then (none, t)
  else
    match key with
    | .text text => t.findText new? text
    | .integer n =>
      if t.parts.isSome && new?.isNone then (none, t) else t.unpacked.findInteger new? n

/-- What a table holds for a key, which is made where it is missing. -/
def get (t : Table α) (new : α) (key : Key) : α × Table α :=
  match t.partAt? key with
  | some place => ((t.parts.getD #[]).getD place new, t)
  | none =>
    match t.find (some new) key with
    | (some index, t) =>
      match t.entries[index]? with
      | some (some entry) => (entry.value, t)
      | _ => (new, t)
    | (none, t) => (new, t)

/-- Whether a table has a key. -/
def has (t : Table α) (key : Key) : Bool × Table α :=
  match t.partAt? key with
  | some _ => (true, t)
  | none =>
    match t.find none key with
    | (found, t) => (found.isSome, t)

/-- Sets what a table holds for a key. -/
def set (t : Table α) (key : Key) (value : α) : Table α :=
  match t.partAt? key with
  | some place => { t with parts := t.parts.map fun parts => parts.setIfInBounds place value }
  | none =>
    match t.find (some value) key with
    | (some index, t) =>
      let entries := t.entries.modify index fun entry? =>
        entry?.map fun entry => { entry with value }
      { t with entries }
    | (none, t) => t

/-- Removes a key. -/
def erase (t : Table α) (key : Key) : Table α :=
  let isPart := (t.partAt? key).isSome
  let t := if isPart then t.unpacked else t
  match t.find none key with
  | (none, t) => t
  | (some index, t) =>
    if t.count ≤ 1 then empty
    else
      let out (rows : Array (List Nat)) (place : Nat) : Array (List Nat) :=
        rows.modify place fun row => row.filter fun other => other != index
      match t.entries[index]? with
      | some (some entry) =>
        { t with
          entries := t.entries.setIfInBounds index none
          count := t.count - 1
          textRows := if entry.hashed then out t.textRows (t.rowOf entry.hash) else t.textRows
          integerRows := match entry.integer with
            | some n => out t.integerRows (t.rowOf n)
            | none => t.integerRows }
      | _ => t

/-- The keys in the order in which they are gone through. -/
def keys (t : Table α) : List Octets × Table α :=
  let t := t.hashed
  (t.textRows.toList.flatten.filterMap fun index =>
    match t.entries[index]? with
    | some (some entry) => some entry.text
    | _ => none, t)

end Table

end DocMend.Shell.Scan
