import DocMend.Number.Basic
/-!
JSON documents as values. The members of an object keep the order of their first writing, and a key
occurs once.
-/

set_option autoImplicit false
set_option relaxedAutoImplicit false

namespace DocMend

/-- A JSON document. -/
inductive Json where
  | null
  | bool (value : Bool)
  | number (value : Number)
  | string (value : String)
  | array (items : List Json)
  | object (members : List (String × Json))
deriving Repr, Inhabited

/-- Sets the value of a key: in place where the key is present, else at the end. -/
def setEntry {α : Type} (entries : List (String × α)) (key : String) (value : α) :
    List (String × α) :=
  match entries with
  | [] => [(key, value)]
  | entry :: rest =>
    if entry.1 = key then (key, value) :: rest else entry :: setEntry rest key value

private theorem lookup_cons_same {α : Type} (key : String) (value : α)
    (rest : List (String × α)) : ((key, value) :: rest).lookup key = some value := by
  rw [List.lookup_cons, beq_self_eq_true]

private theorem lookup_cons_other {α : Type} {name key : String} (differ : name ≠ key) (value : α)
    (rest : List (String × α)) : ((key, value) :: rest).lookup name = rest.lookup name := by
  rw [List.lookup_cons, beq_false_of_ne differ]

/-- Setting a key decides what is found under it. -/
theorem lookup_setEntry_same {α : Type} (entries : List (String × α)) (key : String) (value : α) :
    (setEntry entries key value).lookup key = some value := by
  induction entries with
  | nil => exact lookup_cons_same key value []
  | cons entry rest ih =>
    unfold setEntry
    split
    · exact lookup_cons_same key value rest
    · rename_i differ
      exact (lookup_cons_other (Ne.symm differ) entry.2 _).trans ih

/-- Setting a key leaves what is found under any other key as it is. -/
theorem lookup_setEntry_other {α : Type} (entries : List (String × α)) {name key : String}
    (differ : name ≠ key) (value : α) :
    (setEntry entries key value).lookup name = entries.lookup name := by
  induction entries with
  | nil => exact lookup_cons_other differ value []
  | cons entry rest ih =>
    obtain ⟨k, v⟩ := entry
    unfold setEntry
    split
    · rename_i same
      subst same
      exact (lookup_cons_other differ value rest).trans (lookup_cons_other differ v rest).symm
    · by_cases here : name = k
      · subst here
        exact (lookup_cons_same name v _).trans (lookup_cons_same name v rest).symm
      · exact (lookup_cons_other here v _).trans (ih.trans (lookup_cons_other here v rest).symm)

namespace Json

/-- The members of an object; other documents have none. -/
def members? : Json → Option (List (String × Json))
  | .object members => some members
  | _ => none

/-- The value under a key of an object. -/
def get? (key : String) : Json → Option Json
  | .object members => members.lookup key
  | _ => none

/-- The text of a string document. -/
def string? : Json → Option String
  | .string value => some value
  | _ => none

/-- The value of a number document. -/
def number? : Json → Option Number
  | .number value => some value
  | _ => none

/-- The value of a truth document. -/
def bool? : Json → Option Bool
  | .bool value => some value
  | _ => none

/-- The items of an array document. -/
def items? : Json → Option (List Json)
  | .array items => some items
  | _ => none

end Json

end DocMend
