import DocMend.Shell.Octets
/-!
What variables hold. A variable of the extended language may hold several elements: by their numbers,
in ascending order, or by their keys. Elements with keys are listed in the order of the hashes of
their keys, which has nothing to do with the order in which they were set.
-/

set_option autoImplicit false
set_option relaxedAutoImplicit false

namespace DocMend.Shell

/-- Sets the entry of a key: in place where it is present, else at the end. -/
def setKey {α : Type} (entries : List (Octets × α)) (key : Octets) (value : α) :
    List (Octets × α) :=
  match entries with
  | [] => [(key, value)]
  | entry :: rest =>
    if entry.1 == key then (key, value) :: rest else entry :: setKey rest key value

/-- Removes the entry of a key. -/
def dropKey {α : Type} (entries : List (Octets × α)) (key : Octets) : List (Octets × α) :=
  entries.filter fun entry => entry.1 != key

/-- The entry of a key. -/
def getKey {α : Type} (entries : List (Octets × α)) (key : Octets) : Option α :=
  (entries.find? fun entry => entry.1 == key).map Prod.snd

/-- What an element is found by: its number or its key. -/
inductive Key where
  | number (n : Nat)
  | text (key : Octets)
deriving DecidableEq, Repr

/-- What holds a text: a variable, or an element of one. -/
structure Slot where
  name : Octets
  key : Option Key := none
deriving DecidableEq, Repr

/-- What a variable holds: nothing, a text, elements by their numbers in ascending order, or elements
by their keys, the newest first. -/
inductive Content where
  | nothing
  | text (text : Octets)
  | list (elements : List (Nat × Octets))
  | table (entries : List (Octets × Octets))
deriving DecidableEq, Repr

namespace Content

/-- One step of the hash of a key: a product with a prime, and an exclusive choice with the bits of a
signed byte. -/
def hashStep (hash : Nat) (c : Char) : Nat :=
  let bits := if c.toNat < 128 then c.toNat else c.toNat + 4294967040
  Nat.xor (hash * 16777619 % 4294967296) bits

/-- The row of a key in a table of so many rows. -/
def row (rows : Nat) (key : Octets) : Nat :=
  key.foldl hashStep 2166136261 % rows

/-- How many rows the table of an array has. -/
def tableRows : Nat := 1024

/-- Entries in the order of their rows; in each row they stay in their order. -/
def byRows {α : Type} (rows : Nat) (entries : List (Octets × α)) : List (Octets × α) :=
  let placed := entries.map fun entry => (row rows entry.1, entry)
  (placed.mergeSort fun a b => a.1 ≤ b.1).map Prod.snd

/-- The row of a name in a table of so many rows of the POSIX language. -/
def plainRow (rows : Nat) (name : Octets) : Nat :=
  ((name.head?.map Char.toNat).getD 0 * 16 + (name.map Char.toNat).foldl (· + ·) 0) % rows

/-- Entries of a table of the POSIX language in the order of their rows. -/
def byPlainRows {α : Type} (rows : Nat) (entries : List (Octets × α)) : List (Octets × α) :=
  entries.mergeSort fun a b => plainRow rows a.1 ≤ plainRow rows b.1

/-- Entries, given the oldest first, in the order of a table that begins with so many rows and gets four
times as many whenever it holds two entries for each row. -/
def byGrowingRows {α : Type} (rows : Nat) (entries : List (Octets × α)) : List (Octets × α) :=
  let (rows, newest) := entries.foldl (fun (rows, newest) entry =>
    if 2 * rows ≤ newest.length then (4 * rows, entry :: (byRows rows newest).reverse)
    else (rows, entry :: newest)) (rows, [])
  byRows rows newest

/-- Elements that follow each other from the first number on. -/
def ofTexts (texts : List Octets) : Content :=
  .list ((List.range texts.length).zip texts)

/-- Puts an element in its place among others. -/
def insertAt (n : Nat) (value : Octets) : List (Nat × Octets) → List (Nat × Octets)
  | [] => [(n, value)]
  | entry :: rest =>
    if entry.1 < n then entry :: insertAt n value rest
    else if entry.1 = n then (n, value) :: rest
    else (n, value) :: entry :: rest

/-- The text that stands for the whole content: of elements it is the one with the number zero. -/
def text? : Content → Option Octets
  | nothing => none
  | text cs => some cs
  | list elements => elements.lookup 0
  | table entries => getKey entries ['0']

/-- The elements with their keys. A plain text is one element. -/
def elements : Content → List (Octets × Octets)
  | nothing => []
  | text cs => [(['0'], cs)]
  | list elements => elements.map fun (n, cs) => (Octets.ofNat n, cs)
  | table entries => byRows tableRows entries

/-- The texts of the elements. -/
def texts : Content → List Octets
  | nothing => []
  | text cs => [cs]
  | list elements => elements.map Prod.snd
  | table entries => (byRows tableRows entries).map Prod.snd

/-- The elements by their numbers. -/
def numbered : Content → List (Nat × Octets)
  | nothing => []
  | text cs => [(0, cs)]
  | list elements => elements
  | table _ => []

/-- One more than the greatest number of an element. -/
def stop (content : Content) : Nat :=
  (content.numbered.getLast?.map fun entry => entry.1 + 1).getD 0

/-- Whether elements have keys. -/
def isTable : Content → Bool
  | table _ => true
  | _ => false

/-- Whether there may be several elements. -/
def isArray : Content → Bool
  | list _ => true
  | table _ => true
  | _ => false

/-- The text of a slot. -/
def get? (content : Content) : Option Key → Option Octets
  | none => content.text?
  | some (.number n) =>
    match content with
    | table entries => getKey entries (Octets.ofNat n)
    | content => content.numbered.lookup n
  | some (.text key) =>
    match content with
    | table entries => getKey entries key
    | _ => none

/-- Sets the entry of a key, as the newest one if it is not present. -/
def setEntry (entries : List (Octets × Octets)) (key value : Octets) : List (Octets × Octets) :=
  if (getKey entries key).isSome then setKey entries key value else (key, value) :: entries

/-- Sets the text of a slot. -/
def set (content : Content) (key : Option Key) (value : Octets) : Content :=
  match content, key with
  | table entries, none => .table (setEntry entries ['0'] value)
  | table entries, some (.number n) => .table (setEntry entries (Octets.ofNat n) value)
  | table entries, some (.text key) => .table (setEntry entries key value)
  | list elements, none => .list (insertAt 0 value elements)
  | content, some (.number n) => .list (insertAt n value content.numbered)
  | _, some (.text key) => .table [(key, value)]
  | _, none => .text value

/-- Removes an element. -/
def drop (content : Content) (key : Key) : Content :=
  match content, key with
  | table entries, .text key => .table (dropKey entries key)
  | table entries, .number n => .table (dropKey entries (Octets.ofNat n))
  | list elements, .number n => .list (elements.filter fun entry => entry.1 ≠ n)
  | text cs, .number n => if n = 0 then .nothing else .text cs
  | content, _ => content

end Content

end DocMend.Shell
