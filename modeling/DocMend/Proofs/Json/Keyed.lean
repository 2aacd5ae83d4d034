import DocMend.Json.Reader
import Mathlib.Data.List.Nodup
/-!
Keys of entries and of documents. Setting a key keeps the keys apart, so no key comes twice in an object that was
read, and what is found under a key is what stands there.
-/

set_option autoImplicit false
set_option relaxedAutoImplicit false

namespace DocMend

section Keys

variable {α β : Type} {entries : List (String × α)} {key name : String} {value : α}

theorem lookup_eq_none_iff_not_mem : entries.lookup name = none ↔ name ∉ entries.map Prod.fst := by
  rw [List.lookup_eq_none_iff]
  constructor
  · intro other mem
    obtain ⟨entry, member, rfl⟩ := List.mem_map.mp mem
    exact bne_iff_ne.mp (other entry member) rfl
  · intro absent entry member
    exact bne_iff_ne.mpr fun same => absent (same ▸ List.mem_map_of_mem member)

theorem mem_of_lookup (found : entries.lookup name = some value) : (name, value) ∈ entries := by
  obtain ⟨before, after, rfl, -⟩ := List.lookup_eq_some_iff.mp found
  exact List.mem_append_right before List.mem_cons_self

/-- Where no key comes twice, an entry is what is found under its key. -/
theorem mem_iff_lookup (once : (entries.map Prod.fst).Nodup) :
    (name, value) ∈ entries ↔ entries.lookup name = some value := by
  induction entries with
  | nil => simp
  | cons entry entries ih =>
    obtain ⟨fresh, later⟩ := List.nodup_cons.mp once
    obtain ⟨key, first⟩ := entry
    rw [List.mem_cons, List.lookup_cons, Prod.mk.injEq, ih later]
    by_cases here : name = key
    · subst here
      have none : entries.lookup name = none := lookup_eq_none_iff_not_mem.mpr fresh
      simp [none, eq_comm]
    · simp [here, beq_false_of_ne here]

/-- Setting a key that is there keeps the keys. -/
theorem map_fst_setEntry (present : key ∈ entries.map Prod.fst) (value : α) :
    (setEntry entries key value).map Prod.fst = entries.map Prod.fst := by
  induction entries with
  | nil => exact absurd present List.not_mem_nil
  | cons entry entries ih =>
    rw [setEntry]
    split
    · rename_i here
      rw [List.map_cons, List.map_cons, here]
    · rename_i other
      rw [List.map_cons, List.map_cons, ih ((List.mem_cons.mp present).resolve_left (Ne.symm other))]

/-- A key that is not there is set behind all others. -/
theorem setEntry_of_not_mem (absent : key ∉ entries.map Prod.fst) (value : α) :
    setEntry entries key value = entries ++ [(key, value)] := by
  induction entries with
  | nil => rfl
  | cons entry entries ih =>
    obtain ⟨other, absent⟩ := not_or.mp (List.mem_cons.not.mp absent)
    rw [setEntry, if_neg (Ne.symm other), ih absent, List.cons_append]

theorem mem_map_fst_setEntry :
    name ∈ (setEntry entries key value).map Prod.fst ↔ name ∈ entries.map Prod.fst ∨ name = key := by
  by_cases present : key ∈ entries.map Prod.fst
  · rw [map_fst_setEntry present, or_iff_left_of_imp]
    rintro rfl
    exact present
  · simp [setEntry_of_not_mem present]

/-- No key comes twice when one is set. -/
theorem nodup_setEntry (once : (entries.map Prod.fst).Nodup) (key : String) (value : α) :
    ((setEntry entries key value).map Prod.fst).Nodup := by
  by_cases present : key ∈ entries.map Prod.fst
  · rwa [map_fst_setEntry present]
  · rw [setEntry_of_not_mem present, List.map_append, List.nodup_append]
    refine ⟨once, by simp, fun other earlier last here same => present ?_⟩
    obtain rfl := List.mem_singleton.mp here
    exact same ▸ earlier

theorem mem_setEntry {entry : String × α} (mem : entry ∈ setEntry entries key value) :
    entry ∈ entries ∨ entry = (key, value) := by
  induction entries with
  | nil => exact Or.inr (List.mem_singleton.mp mem)
  | cons first entries ih =>
    rw [setEntry] at mem
    split at mem
    · rcases List.mem_cons.mp mem with here | later
      · exact Or.inr here
      · exact Or.inl (List.mem_cons_of_mem _ later)
    · rcases List.mem_cons.mp mem with rfl | later
      · exact Or.inl List.mem_cons_self
      · exact (ih later).imp_left (List.mem_cons_of_mem _)

theorem lookup_reverse (once : (entries.map Prod.fst).Nodup) (name : String) :
    entries.reverse.lookup name = entries.lookup name := by
  have backwards : (entries.reverse.map Prod.fst).Nodup := by
    rwa [List.map_reverse, List.nodup_reverse]
  refine Option.ext fun value => ?_
  rw [← mem_iff_lookup backwards, ← mem_iff_lookup once, List.mem_reverse]

theorem keys_filterMap_sublist (f : α → Option β) (entries : List (String × α)) :
    ((entries.filterMap fun entry => (f entry.2).map fun kept => (entry.1, kept)).map Prod.fst).Sublist
      (entries.map Prod.fst) := by
  induction entries with
  | nil => exact List.Sublist.refl []
  | cons entry entries ih =>
    rw [List.filterMap_cons, List.map_cons]
    cases f entry.2 with
    | none => exact ih.cons entry.1
    | some kept => exact ih.cons_cons entry.1

theorem lookup_map (f : α → β) (entries : List (String × α)) (name : String) :
    (entries.map fun entry => (entry.1, f entry.2)).lookup name = (entries.lookup name).map f := by
  induction entries with
  | nil => rfl
  | cons entry entries ih =>
    rw [List.map_cons, List.lookup_cons, List.lookup_cons, ih]
    cases name == entry.1 <;> rfl

/-- Entries with the same keys in the same order are the same if the same is found under every key. -/
theorem eq_of_lookup {others : List (String × α)} (once : (entries.map Prod.fst).Nodup)
    (keys : entries.map Prod.fst = others.map Prod.fst)
    (found : ∀ name, entries.lookup name = others.lookup name) : entries = others := by
  induction entries generalizing others with
  | nil => exact (List.map_eq_nil_iff.mp keys.symm).symm
  | cons entry entries ih =>
    obtain ⟨fresh, later⟩ := List.nodup_cons.mp once
    cases others with
    | nil => exact absurd keys (by simp)
    | cons other others =>
      obtain ⟨key, value⟩ := entry
      obtain ⟨key', value'⟩ := other
      obtain ⟨rfl, behind⟩ := List.cons.inj keys
      have here := found key
      rw [List.lookup_cons, List.lookup_cons, beq_self_eq_true] at here
      obtain rfl : value = value' := Option.some.inj here
      refine congrArg _ (ih later behind fun name => ?_)
      by_cases same : name = key
      · subst same
        rw [lookup_eq_none_iff_not_mem.mpr fresh, lookup_eq_none_iff_not_mem.mpr (behind ▸ fresh)]
      · have rest := found name
        rwa [List.lookup_cons, List.lookup_cons, beq_false_of_ne same] at rest

/-- What is found among entries when some are dropped and the values of the others changed. -/
theorem lookup_filterMap (f : α → Option β) (once : (entries.map Prod.fst).Nodup) (name : String) :
    (entries.filterMap fun entry => (f entry.2).map fun kept => (entry.1, kept)).lookup name =
      (entries.lookup name).bind f := by
  induction entries with
  | nil => rfl
  | cons entry entries ih =>
    obtain ⟨fresh, later⟩ := List.nodup_cons.mp once
    obtain ⟨key, first⟩ := entry
    rw [List.filterMap_cons, List.lookup_cons]
    by_cases here : name = key
    · subst here
      have none : entries.lookup name = none := lookup_eq_none_iff_not_mem.mpr fresh
      cases kept : f first with
      | none =>
        rw [none] at ih
        simpa [kept] using ih later
      | some value => simp [kept]
    · have other : (name == key) = false := beq_false_of_ne here
      cases kept : f first with
      | none => simpa [kept, other] using ih later
      | some value => simpa [kept, other, List.lookup_cons] using ih later

end Keys

namespace Json

section Reading

/-- A document in whose objects no key comes twice. -/
inductive Keyed : Json → Prop
  | null : Keyed .null
  | bool (value : Bool) : Keyed (.bool value)
  | number (value : Number) : Keyed (.number value)
  | string (value : String) : Keyed (.string value)
  | array {items : List Json} (inner : ∀ item ∈ items, Keyed item) : Keyed (.array items)
  | object {members : List (String × Json)} (once : (members.map Prod.fst).Nodup)
      (inner : ∀ member ∈ members, Keyed member.2) : Keyed (.object members)

attribute [simp] Keyed.null Keyed.bool Keyed.number Keyed.string

@[simp]
theorem keyed_object_iff {members : List (String × Json)} :
    (Json.object members).Keyed ↔ (members.map Prod.fst).Nodup ∧ ∀ member ∈ members, member.2.Keyed := by
  constructor
  · rintro (_ | _ | _ | _ | _ | ⟨once, inner⟩)
    exact ⟨once, inner⟩
  · exact fun ⟨once, inner⟩ => .object once inner

private theorem exists_of_bind_ok {α β ε : Type} {first : Except ε α} {next : α → Except ε β} {result : β}
    (done : (first >>= next) = .ok result) : ∃ value, first = .ok value ∧ next value = .ok result := by
  cases first with
  | error fault => exact absurd done (by simp [bind, Except.bind])
  | ok value => exact ⟨value, rfl, done⟩

private theorem keyed_readWord {word cs rest : List Char} {value document : Json} (keyed : value.Keyed)
    (done : readWord word cs value = .ok (document, rest)) : document.Keyed := by
  induction word generalizing cs with
  | nil =>
    obtain ⟨rfl, -⟩ := Prod.mk.inj (Except.ok.inj done)
    exact keyed
  | cons c word ih =>
    cases cs with
    | nil => exact absurd done (by simp [readWord, refuse])
    | cons d cs =>
      rw [readWord] at done
      split at done
      · exact ih done
      · exact absurd done (by simp [refuse])

private theorem keyed_map_number {read : Except Fault (Number × List Char)} {document : Json} {rest : List Char}
    (done : (read.map fun (value, after) => (Json.number value, after)) = .ok (document, rest)) :
    document.Keyed := by
  cases read with
  | error fault => exact absurd done (by simp [Except.map])
  | ok found =>
    obtain ⟨rfl, -⟩ := Prod.mk.inj (Except.ok.inj done)
    exact .number found.1

/-- What is read with so much fuel has no key twice. -/
structure ReadsKeyed (fuel : Nat) : Prop where
  value : ∀ {cs document rest}, readValue fuel cs = .ok (document, rest) → document.Keyed
  items : ∀ {cs items rest}, readItems fuel cs = .ok (items, rest) → ∀ item ∈ items, Keyed item
  members : ∀ {noName seen cs members rest}, readMembers fuel noName seen cs = .ok (members, rest) →
    (seen.map Prod.fst).Nodup → (∀ member ∈ seen, Keyed member.2) →
    (members.map Prod.fst).Nodup ∧ ∀ member ∈ members, Keyed member.2

section Step

variable {fuel : Nat} {cs rest : List Char} (below : ReadsKeyed fuel)

include below

private theorem keyed_readValue {document : Json} (done : readValue (fuel + 1) cs = .ok (document, rest)) :
    document.Keyed := by
  unfold readValue at done
  split at done
  · obtain ⟨⟨text, after⟩, -, last⟩ := exists_of_bind_ok done
    obtain ⟨rfl, -⟩ := Prod.mk.inj (Except.ok.inj last)
    exact .string text
  · split at done
    · obtain ⟨rfl, -⟩ := Prod.mk.inj (Except.ok.inj done)
      exact .array (by simp)
    · obtain ⟨⟨items, after⟩, read, last⟩ := exists_of_bind_ok done
      obtain ⟨rfl, -⟩ := Prod.mk.inj (Except.ok.inj last)
      exact .array (below.items read)
  · split at done
    · obtain ⟨rfl, -⟩ := Prod.mk.inj (Except.ok.inj done)
      exact .object (by simp) (by simp)
    · obtain ⟨⟨members, after⟩, read, last⟩ := exists_of_bind_ok done
      obtain ⟨rfl, -⟩ := Prod.mk.inj (Except.ok.inj last)
      obtain ⟨once, inner⟩ := below.members read (by simp) (by simp)
      exact .object once inner
  · exact keyed_readWord (.bool true) done
  · exact keyed_readWord (.bool false) done
  · exact keyed_readWord .null done
  · exact keyed_map_number done
  · exact keyed_map_number done

private theorem keyed_readItems {items : List Json} (done : readItems (fuel + 1) cs = .ok (items, rest)) :
    ∀ item ∈ items, Keyed item := by
  unfold readItems at done
  obtain ⟨⟨item, after⟩, read, last⟩ := exists_of_bind_ok done
  have first := below.value read
  dsimp only at last
  split at last
  · obtain ⟨rfl, -⟩ := Prod.mk.inj (Except.ok.inj last)
    simpa using first
  · obtain ⟨⟨more, behind⟩, later, final⟩ := exists_of_bind_ok last
    obtain ⟨rfl, -⟩ := Prod.mk.inj (Except.ok.inj final)
    exact List.forall_mem_cons.mpr ⟨first, below.items later⟩
  · exact absurd last (by simp [refuse])

private theorem keyed_readMembers {noName : Complaint} {seen members : List (String × Json)}
    (done : readMembers (fuel + 1) noName seen cs = .ok (members, rest))
    (once : (seen.map Prod.fst).Nodup) (inner : ∀ member ∈ seen, Keyed member.2) :
    (members.map Prod.fst).Nodup ∧ ∀ member ∈ members, Keyed member.2 := by
  unfold readMembers at done
  split at done
  · obtain ⟨⟨name, after⟩, -, last⟩ := exists_of_bind_ok done
    dsimp only at last
    split at last
    · obtain ⟨⟨value, behind⟩, read, final⟩ := exists_of_bind_ok last
      have set : ∀ member ∈ setEntry seen name value, Keyed member.2 := fun member mem => by
        rcases mem_setEntry mem with earlier | rfl
        · exact inner member earlier
        · exact below.value read
      dsimp only at final
      split at final
      · obtain ⟨rfl, -⟩ := Prod.mk.inj (Except.ok.inj final)
        exact ⟨nodup_setEntry once name value, set⟩
      · exact below.members final (nodup_setEntry once name value) set
      · exact absurd final (by simp [refuse])
    · exact absurd last (by simp [refuse])
  · exact absurd done (by simp [refuse])

end Step

theorem readsKeyed (fuel : Nat) : ReadsKeyed fuel := by
  induction fuel with
  | zero =>
    constructor
    · exact fun done => absurd done (by simp [readValue, refuse])
    · exact fun done => absurd done (by simp [readItems, refuse])
    · exact fun done => absurd done (by simp [readMembers, refuse])
  | succ fuel below => exact ⟨keyed_readValue below, keyed_readItems below, keyed_readMembers below⟩

/-- A document that was read has no key twice. -/
theorem keyed_of_read {text : String} {document : Json} (done : read text = .ok document) : document.Keyed := by
  unfold read at done
  dsimp only at done
  split at done
  · rename_i found rest read
    split at done
    · obtain rfl := Except.ok.inj done
      exact (readsKeyed _).value read
    · exact absurd done (by simp [refuse])
  · exact absurd done (by simp)

end Reading

end Json

end DocMend
