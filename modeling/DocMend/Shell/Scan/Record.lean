import DocMend.Shell.Scan.Regex
import DocMend.Shell.Scan.State
/-!
Records and fields. Records are cut from an input, fields from a record, both by what a variable says:
white space, a character, a regular expression, or empty lines.
-/

set_option autoImplicit false
set_option relaxedAutoImplicit false

namespace DocMend.Shell.Scan

namespace Reader

/-- A text as it is read. -/
def ofOctets (text : Octets) : Reader :=
  { text := text.toArray }

/-- The first place of a character from a place on, or the end. -/
def seek (r : Reader) (c : Char) : Nat → (place : Nat) → Nat
  | 0, place => place
  | fuel + 1, place => if (r.text[place]?).all (· == c) then place else seek r c fuel (place + 1)

/-- The first place from which there is another character, or the end. -/
def passing (r : Reader) (c : Char) : Nat → (place : Nat) → Nat
  | 0, place => place
  | fuel + 1, place => if r.text[place]? = some c then passing r c fuel (place + 1) else place

/-- The text from one place to another. -/
def part (r : Reader) (start stop : Nat) : Octets :=
  (r.text.extract start stop).toList

/-- The end of the paragraph from a place on: an empty line, or the end. -/
def paragraphEnd (r : Reader) : Nat → (place : Nat) → Nat
  | 0, place => place
  | fuel + 1, place =>
    let stop := r.seek '\n' (r.text.size + 1 - place) place
    if (r.text[stop + 1]?).all (· == '\n') then stop
    else paragraphEnd r fuel (stop + 1)

end Reader

/-- The first match from a place on that takes something. -/
def firstMatch? (x : Regex.Searcher) (s : Regex.Subject) : Nat → (place : Nat) → Option Regex.Match
  | 0, _ => none
  | fuel + 1, place =>
    match x.find? s place with
    | none => none
    | some m => if m.start = m.stop then firstMatch? x s fuel (m.start + 1) else some m

/-- The next record of an input, and what comes after it. -/
def Reader.next? (r : Reader) (how : Separation) : Option (Octets × Reader) :=
  let size := r.text.size
  let upTo (stop after : Nat) : Option (Octets × Reader) :=
    some (r.part r.place stop, { r with place := after })
  let untilChar (c : Char) : Option (Octets × Reader) :=
    let stop := r.seek c (size + 1 - r.place) r.place
    upTo stop (stop + 1)
  match how with
  | .paragraph =>
    let start := r.passing '\n' (size + 1 - r.place) r.place
    if size ≤ start then none
    else
      let stop := r.paragraphEnd (size + 1) start
      some (r.part start stop, { r with place := r.passing '\n' (size + 1 - stop) stop })
  | how =>
    if size ≤ r.place then none
    else
      match how with
      | .character c => untilChar c
      | .regex x =>
        match firstMatch? x { text := r.text } (size + 1) r.place with
        | some m => upTo m.start m.stop
        | none => upTo size size
      | _ => untilChar ' '

namespace Separation

/-- The pieces between the matches of an expression. -/
def between (x : Regex.Searcher) (s : Regex.Subject) : Nat → (place : Nat) → List Octets
  | 0, _ => []
  | fuel + 1, place =>
    match firstMatch? x s (s.text.size + 1) place with
    | some m => s.part place m.start :: between x s fuel m.stop
    | none => [s.part place s.text.size]

/-- The words between white space. -/
def words : Nat → Octets → List Octets
  | 0, _ => []
  | fuel + 1, cs =>
    let start := cs.dropWhile Octets.isGap
    let word := start.takeWhile fun c => !Octets.isGap c
    if word.isEmpty then [] else word :: words fuel (start.drop word.length)

/-- Cuts a text. -/
def cut (how : Separation) (text : Octets) : List Octets :=
  if text.isEmpty then []
  else
    match how with
    | .each => text.map fun c => [c]
    | .character c => Text.pieces c text
    | .regex x => between x (.ofOctets text) (text.length + 1) 0
    | _ => words (text.length + 1) text

end Separation

namespace Scanning

/-- How many expressions are kept ready. -/
def mostReady : Nat := 50

/-- Makes an expression ready. -/
def searcherOf (source : Octets) : Scanning Regex.Searcher := do
  match (← get).ready.lookup source with
  | some x => return x
  | none =>
    match readRegex source with
    | .error fault =>
      giveAtRecord ("regular expression compile failed (" ++ fault.text ++ ")\n" ++ source)
    | .ok r =>
      let x := r.searcher
      modify fun s => { s with ready := (source, x) :: s.ready.take mostReady }
      return x

/-- How a text tells fields apart. -/
def fieldSeparation (text : Octets) : Scanning Separation := do
  match text with
  | [] => return .each
  | [' '] => return .space
  | [c] => return .character c
  | source => return .regex (← searcherOf source)

/-- How records are told apart. -/
def recordSeparation : Scanning Separation := do
  match ← textOf (← special "RS") with
  | [] => return .paragraph
  | [c] => return .character c
  | source => return .regex (← searcherOf source)

/-- Cuts the record into fields. -/
def cutRecord : Scanning Unit := do
  let s ← get
  if s.isCut then return
  let how ← fieldSeparation (← textOf (← lastSet fieldPlace))
  let fields := ((how.cut s.record).map fun (part : Octets) => Value.input part).toArray
  modify fun s => { s with fields, isCut := true }
  setSpecial "NF" (.ofNat fields.size)

/-- The record as a text. -/
def record : Scanning Octets := do
  let s ← get
  if s.isJoined then return s.record
  let between ← textOf (← lastSet joinPlace)
  let parts ← s.fields.toList.mapM textOf
  let record := Text.joined between parts
  modify fun s => { s with record, isJoined := true }
  return record

/-- Replaces the record. -/
def setRecord (text : Octets) : Scanning Unit :=
  modify fun s => { s with record := text, isJoined := true, isCut := false }

/-- A field. -/
def field (n : Nat) : Scanning Value := do
  if n = 0 then return .input (← record)
  cutRecord
  return (← get).fields.getD (n - 1) (.text [])

/-- Changes the number of fields. -/
def resize (count : Nat) : Scanning Unit := do
  modify fun s =>
    let fields := s.fields.extract 0 count
    { s with fields := fields ++ Array.replicate (count - fields.size) (Value.text []), isJoined := false }

/-- Sets a field. -/
def setField (n : Nat) (v : Value) : Scanning Unit := do
  if n = 0 then setRecord (← textOf v)
  else
    cutRecord
    if (← get).fields.size < n then
      resize n
      setSpecial "NF" (.ofNat n)
    modify fun s => { s with fields := s.fields.setIfInBounds (n - 1) v, isJoined := false }

/-- What a variable holds. -/
def readVariable (place : Place) : Scanning Value := do
  if place = countPlace then cutRecord
  lastSet place

/-- Sets a variable. The number of fields changes the record; what tells fields apart is only for records
to come, and what stands between them for changes to come. -/
def setVariable (place : Place) (v : Value) : Scanning Unit := do
  if place = countPlace then
    cutRecord
    let n := toInteger v.toNumber
    if n < 0 then giveAtRecord "negative value assigned to NF"
    resize n.toNat
  else if place = fieldPlace then cutRecord
  else if place = joinPlace then
    let _ ← record
  setSlot place v

/-- The number of a table. -/
def tableIndex (place : Place) : Scanning Nat := do
  match ← slotAt place with
  | .table index => return index
  | .value _ =>
    -- A name that was not known to stand for a table becomes one.
    let s ← get
    let index := s.tables.size
    set { s with tables := s.tables.push .empty }
    modify fun s =>
      match place with
      | .program n => { s with slots := s.slots.setIfInBounds n (.table index) }
      | .parameter n => { s with frame := s.frame.setIfInBounds n (.table index) }
    return index

/-- Works on a table. -/
def withTable {α : Type} (index : Nat) (f : Table Value → α × Table Value) : Scanning α := do
  -- The table is taken out of the state meanwhile.
  let table ← modifyGet fun (s : State) =>
    (s.tables.getD index .empty, { s with tables := s.tables.setIfInBounds index .empty })
  let (result, table) := f table
  modify fun s => { s with tables := s.tables.setIfInBounds index table }
  return result

end Scanning

end DocMend.Shell.Scan
