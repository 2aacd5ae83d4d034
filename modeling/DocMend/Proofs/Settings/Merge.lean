import DocMend.Proofs.Json.Written
import DocMend.Proofs.Plan.Place
import DocMend.Settings.Basic
import Mathlib.Data.List.Perm.Lattice
/-!
Settings laid over defaults. A field of the settings is a window, a phrase or one of the other values, and each
stands at a place of its own in a document: where the document has a usable value there, the field takes it, and
else it keeps that of the defaults. From this law of one field it follows that no field depends on another, that
usable settings stay usable, and that laying a document twice over defaults is laying it once.

The phrase in the tag of a type parameter comes from the first source that has one for the name: the document, the
defaults, the customary names, and for all other names the general phrase.
-/

set_option autoImplicit false
set_option relaxedAutoImplicit false

namespace DocMend

/-- The value at a place of a document, given by the keys that lead there. -/
def Json.at? : List String → Json → Option Json
  | [], document => some document
  | key :: path, document => (document.get? key).bind (Json.at? path)

namespace Json

@[simp]
theorem at?_one (document : Json) (key : String) : document.at? [key] = document.get? key := by
  cases found : document.get? key <;> simp [at?, found]

@[simp]
theorem at?_two (document : Json) (key inner : String) :
    document.at? [key, inner] = (document.get? key).bind (get? inner) := by
  rw [at?]
  exact congrArg _ (funext fun value => at?_one value inner)

end Json

namespace Settings

variable {document : Json} {settings defaults : Settings} {name : String}

/-- Settings that can be used: texts are not blank, windows are positive integers, and a name has one phrase. -/
structure Valid (settings : Settings) : Prop where
  command : Text.isBlankText settings.command = false
  repository : Text.isBlankText settings.repository = false
  parameter : ∃ n : Nat, 0 < n ∧ settings.windows.parameter = .finite n
  result : ∃ n : Nat, 0 < n ∧ settings.windows.result = .finite n
  phrases : ∀ entry ∈ settings.phrases, Text.isBlankText entry.2 = false
  once : (settings.phrases.map Prod.fst).Nodup

/-- A string that is not blank. -/
def isUsableText : Json → Bool
  | .string text => !Text.isBlankText text
  | _ => false

/-- A positive integer. -/
def isUsableWindow : Json → Bool
  | .number value => value.isPositiveWhole
  | _ => false

/-- A truth value. -/
def isTruth : Json → Bool
  | .bool _ => true
  | _ => false

/-- The fields of settings, where each window and each phrase counts on its own. -/
inductive Field where
  | command
  | dedupe
  | parameterWindow
  | resultWindow
  | phrase (name : String)
  | repository

namespace Field

/-- The keys under which a field stands in a document. -/
def path : Field → List String
  | command => ["diagnosticsCommand"]
  | dedupe => ["dedupe"]
  | parameterWindow => ["windows", "generic"]
  | resultWindow => ["windows", "return"]
  | .phrase name => ["typeParameterDescriptions", name]
  | repository => ["repository"]

/-- Whether a value can be used for a field. -/
def accepts : Field → Json → Bool
  | command => isUsableText
  | dedupe => isTruth
  | parameterWindow => isUsableWindow
  | resultWindow => isUsableWindow
  | .phrase _ => isUsableText
  | repository => isUsableText

/-- The value of a field of settings as it is written in a document; of the phrases only those that are there
have one. -/
def value? (settings : Settings) : Field → Option Json
  | command => some (.string settings.command)
  | dedupe => some (.bool settings.dedupe)
  | parameterWindow => some (.number settings.windows.parameter)
  | resultWindow => some (.number settings.windows.result)
  | .phrase name => (settings.phrases.lookup name).map Json.string
  | repository => some (.string settings.repository)

end Field

section Overlay

variable {base later : Phrases}

/-- What is found after phrases were laid over others: the last of the later ones, or else an earlier one. -/
theorem lookup_overlay (base later : Phrases) (name : String) :
    (overlay base later).lookup name = (later.reverse.lookup name).or (base.lookup name) := by
  induction later generalizing base with
  | nil => rfl
  | cons entry later ih =>
    obtain ⟨key, phrase⟩ := entry
    have set : (setEntry base key phrase).lookup name =
        ([(key, phrase)].lookup name).or (base.lookup name) := by
      by_cases here : name = key
      · subst here
        rw [lookup_setEntry_same, List.lookup_cons, beq_self_eq_true]
        rfl
      · rw [lookup_setEntry_other _ here, List.lookup_cons, beq_false_of_ne here]
        rfl
    rw [List.reverse_cons, List.lookup_append, Option.or_assoc, ← set]
    exact ih _

theorem mem_keys_overlay : name ∈ (overlay base later).map Prod.fst ↔
    name ∈ base.map Prod.fst ∨ name ∈ later.map Prod.fst := by
  induction later generalizing base with
  | nil => simp [overlay]
  | cons entry later ih =>
    rw [List.map_cons, List.mem_cons, ← or_assoc, ← mem_map_fst_setEntry]
    exact ih

theorem nodup_overlay (once : (base.map Prod.fst).Nodup) (later : Phrases) :
    ((overlay base later).map Prod.fst).Nodup := by
  induction later generalizing base with
  | nil => exact once
  | cons entry later ih => exact ih (nodup_setEntry once entry.1 entry.2)

/-- Phrases for names that are there keep the names and their order. -/
theorem keys_overlay_of_subset (inside : ∀ name ∈ later.map Prod.fst, name ∈ base.map Prod.fst) :
    (overlay base later).map Prod.fst = base.map Prod.fst := by
  induction later generalizing base with
  | nil => rfl
  | cons entry later ih =>
    rw [List.map_cons, List.forall_mem_cons] at inside
    have set := map_fst_setEntry inside.1 entry.2
    have kept : (overlay (setEntry base entry.1 entry.2) later).map Prod.fst =
        (setEntry base entry.1 entry.2).map Prod.fst := ih fun name mem => set ▸ inside.2 name mem
    exact kept.trans set

end Overlay

section Usable

variable (found : Option Json)

/-- A usable text is a string that is not blank. -/
theorem usableText?_eq_some_iff {text : String} :
    usableText? found = some text ↔ found = some (.string text) ∧ Text.isBlankText text = false := by
  cases found with
  | none => simp [usableText?]
  | some value =>
    cases value with
    | string other =>
      simp only [usableText?, Option.bind_some, Json.string?, Option.ite_none_left_eq_some, Option.some.injEq,
        Json.string.injEq]
      constructor
      · rintro ⟨filled, rfl⟩
        exact ⟨rfl, by simpa using filled⟩
      · rintro ⟨rfl, filled⟩
        exact ⟨by simp [filled], rfl⟩
    | _ => simp [usableText?, Json.string?]

theorem map_usableText? : (usableText? found).map Json.string = found.filter isUsableText := by
  cases found with
  | none => rfl
  | some value =>
    cases value with
    | string text =>
      cases blank : Text.isBlankText text <;> simp [usableText?, Json.string?, isUsableText, Option.filter, blank]
    | _ => rfl

theorem map_usableWindow? : (usableWindow? found).map Json.number = found.filter isUsableWindow := by
  cases found with
  | none => rfl
  | some value =>
    cases value with
    | number size =>
      cases whole : size.isPositiveWhole <;>
        simp [usableWindow?, Json.number?, isUsableWindow, Option.filter, whole]
    | _ => rfl

theorem map_bool? : (found.bind Json.bool?).map Json.bool = found.filter isTruth := by
  cases found with
  | none => rfl
  | some value => cases value <;> rfl

/-- A value that is taken over or left as it is. -/
theorem some_getD {α : Type} (wrap : α → Json) (taken : Option α) (kept : α) :
    some (wrap (taken.getD kept)) = (taken.map wrap).or (some (wrap kept)) := by
  cases taken <;> rfl

end Usable

theorem keys_usablePhrases {members : List (String × Json)} :
    ((usablePhrases (some (.object members))).map Prod.fst).Sublist (members.map Prod.fst) :=
  keys_filterMap_sublist (fun value => usableText? (some value)) members

/-- The phrases of a document are the usable texts among its members. -/
theorem lookup_usablePhrases {members : List (String × Json)} (once : (members.map Prod.fst).Nodup)
    (name : String) : (usablePhrases (some (.object members))).lookup name =
      usableText? (members.lookup name) := by
  have found := lookup_filterMap (fun value => usableText? (some value)) once name
  refine Eq.trans found ?_
  cases members.lookup name <;> rfl

theorem keyed_of_get? (keyed : document.Keyed) (key : String) : ∀ value ∈ document.get? key, value.Keyed := by
  intro value found
  cases keyed with
  | object once inner => exact inner (key, value) ((mem_iff_lookup once).mpr found)
  | _ => exact absurd found (by simp [Json.get?])

private theorem lookup_overlay_usablePhrases (base : Phrases) {member : Option Json}
    (keyed : ∀ value ∈ member, value.Keyed) (name : String) :
    (overlay base (usablePhrases member)).lookup name =
      (usableText? (member.bind (Json.get? name))).or (base.lookup name) := by
  cases member with
  | none => rfl
  | some value =>
    cases keyed value rfl with
    | object once inner =>
      rw [lookup_overlay, lookup_reverse (once.sublist keys_usablePhrases), lookup_usablePhrases once]
      rfl
    | _ => rfl

/-- The phrase for a name is the one in the document, if it can be used, and else that of the defaults. -/
theorem lookup_merge (keyed : document.Keyed) (defaults : Settings) (name : String) :
    (merge document defaults).phrases.lookup name =
      (usableText? (document.at? ["typeParameterDescriptions", name])).or (defaults.phrases.lookup name) := by
  rw [Json.at?_two]
  cases document with
  | object members =>
    exact lookup_overlay_usablePhrases defaults.phrases (keyed_of_get? keyed "typeParameterDescriptions") name
  | _ => rfl

/-- A field of settings laid over defaults is the value at its place in the document, if it can be used, and else
the value that it has in the defaults. -/
theorem value?_merge (keyed : document.Keyed) (defaults : Settings) (field : Field) :
    field.value? (merge document defaults) =
      ((document.at? field.path).filter field.accepts).or (field.value? defaults) := by
  cases document with
  | object members =>
    cases field with
    | command | dedupe | parameterWindow | resultWindow | repository =>
      simp only [Field.value?, merge, mergeWindows, some_getD, map_usableText?, map_usableWindow?, map_bool?,
        Field.accepts, Field.path, Json.at?_one, Json.at?_two]
    | phrase name =>
      simp only [Field.value?, lookup_merge keyed, Option.map_or, map_usableText?, Field.accepts, Field.path]
  | _ => cases field <;> simp [Field.path, merge, Json.get?]

theorem nodup_merge (once : (defaults.phrases.map Prod.fst).Nodup) (document : Json) :
    ((merge document defaults).phrases.map Prod.fst).Nodup := by
  cases document with
  | object members => exact nodup_overlay once _
  | _ => exact once

section Validity

theorem isUsableText_iff {text : String} : isUsableText (.string text) = true ↔ Text.isBlankText text = false := by
  simp [isUsableText]

theorem isUsableWindow_iff {size : Number} :
    isUsableWindow (.number size) = true ↔ ∃ n : Nat, 0 < n ∧ size = .finite n := by
  cases size with
  | infinite negative => simp [isUsableWindow, Number.isPositiveWhole, Number.toInt?]
  | finite value =>
    simp only [isUsableWindow, Number.isPositiveWhole, Number.toInt?, Number.isWhole, beq_iff_eq,
      Number.finite.injEq]
    constructor
    · intro whole
      split at whole
      · rename_i i found
        simp only [Option.ite_none_right_eq_some, Option.some.injEq] at found
        obtain ⟨one, rfl⟩ := found
        have positive := of_decide_eq_true whole
        refine ⟨value.num.toNat, by omega, ?_⟩
        have same := (Rat.den_eq_one_iff value).mp one
        have natural : ((value.num.toNat : Int) : Rat) = value.num := by
          rw [Int.toNat_of_nonneg (by omega)]
        rw [← same, Rat.num_intCast, ← natural, Int.cast_natCast]
      · exact absurd whole (by simp)
    · rintro ⟨n, positive, rfl⟩
      simp [positive]

/-- Settings can be used if each of their fields accepts its value. -/
theorem valid_iff : settings.Valid ↔
    (∀ (field : Field), ∀ value ∈ field.value? settings, field.accepts value = true) ∧
      (settings.phrases.map Prod.fst).Nodup := by
  constructor
  · intro valid
    refine ⟨fun field value given => ?_, valid.once⟩
    cases field with
    | command =>
      obtain rfl := Option.some.inj given
      exact isUsableText_iff.mpr valid.command
    | dedupe =>
      obtain rfl := Option.some.inj given
      rfl
    | parameterWindow =>
      obtain rfl := Option.some.inj given
      exact isUsableWindow_iff.mpr valid.parameter
    | resultWindow =>
      obtain rfl := Option.some.inj given
      exact isUsableWindow_iff.mpr valid.result
    | phrase name =>
      obtain ⟨phrase, found, rfl⟩ := Option.map_eq_some_iff.mp given
      exact isUsableText_iff.mpr (valid.phrases (name, phrase) ((mem_iff_lookup valid.once).mpr found))
    | repository =>
      obtain rfl := Option.some.inj given
      exact isUsableText_iff.mpr valid.repository
  · rintro ⟨accepted, once⟩
    exact
      { command := isUsableText_iff.mp (accepted .command _ rfl)
        repository := isUsableText_iff.mp (accepted .repository _ rfl)
        parameter := isUsableWindow_iff.mp (accepted .parameterWindow _ rfl)
        result := isUsableWindow_iff.mp (accepted .resultWindow _ rfl)
        phrases := fun entry mem => by
          have found := (mem_iff_lookup once).mp mem
          have given : (Field.phrase entry.1).value? settings = some (.string entry.2) := by
            rw [Field.value?, found]
            rfl
          exact isUsableText_iff.mp (accepted (.phrase entry.1) _ given)
        once := once }

/-- Usable settings stay usable, whatever document is laid over them. -/
theorem Valid.merge (valid : defaults.Valid) (keyed : document.Keyed) : (merge document defaults).Valid := by
  obtain ⟨accepted, once⟩ := valid_iff.mp valid
  refine valid_iff.mpr ⟨fun field value given => ?_, nodup_merge once document⟩
  rw [value?_merge keyed, Option.mem_def, Option.or_eq_some_iff] at given
  rcases given with taken | ⟨-, kept⟩
  · exact (Option.filter_eq_some_iff.mp taken).2
  · exact accepted field value kept

end Validity

section Equality

/-- Settings with the same fields are the same but for the order of their phrases. -/
theorem eq_of_value? {others : Settings} (same : ∀ field : Field, field.value? settings = field.value? others) :
    settings = { others with phrases := settings.phrases } ∧
      ∀ name, settings.phrases.lookup name = others.phrases.lookup name := by
  have command := same .command
  have dedupe := same .dedupe
  have parameter := same .parameterWindow
  have result := same .resultWindow
  have repository := same .repository
  simp only [Field.value?, Option.some.injEq, Json.string.injEq, Json.bool.injEq,
    Json.number.injEq] at command dedupe parameter result repository
  refine ⟨?_, fun name => ?_⟩
  · obtain ⟨_, _, ⟨_, _⟩, _, _⟩ := settings
    obtain ⟨_, _, ⟨_, _⟩, _, _⟩ := others
    simp_all
  · exact Option.map_injective (fun _ _ => Json.string.inj) (same (.phrase name))

theorem keys_merge_merge (document : Json) (defaults : Settings) :
    (merge document (merge document defaults)).phrases.map Prod.fst =
      (merge document defaults).phrases.map Prod.fst := by
  cases document with
  | object members => exact keys_overlay_of_subset fun name mem => mem_keys_overlay.mpr (Or.inr mem)
  | _ => rfl

/-- A document that is laid over settings that it was laid over already changes nothing. -/
theorem merge_merge (keyed : document.Keyed) (once : (defaults.phrases.map Prod.fst).Nodup) :
    merge document (merge document defaults) = merge document defaults := by
  have same : ∀ field : Field, field.value? (merge document (merge document defaults)) =
      field.value? (merge document defaults) := fun field => by
    rw [value?_merge keyed, value?_merge keyed, ← Option.or_assoc, Option.or_self]
  obtain ⟨others, found⟩ := eq_of_value? same
  have phrases := eq_of_lookup (nodup_merge (nodup_merge once document) document)
    (keys_merge_merge document defaults) found
  rw [others, phrases]

end Equality

section Written

theorem at?_toJson (settings : Settings) (field : Field) :
    settings.toJson.at? field.path = field.value? settings := by
  cases field with
  | phrase name =>
    rw [Field.path, Json.at?_two]
    exact lookup_map Json.string settings.phrases name
  | _ => rfl

/-- Settings are written without a key that comes twice, if no name has two phrases. -/
theorem keyed_toJson (once : (settings.phrases.map Prod.fst).Nodup) : settings.toJson.Keyed := by
  have phrases : (Json.object (settings.phrases.map fun entry => (entry.1, .string entry.2))).Keyed := by
    refine .object ?_ (List.forall_mem_map.mpr fun entry _ => .string entry.2)
    rwa [List.map_map]
  simpa [toJson] using phrases

/-- Settings whose windows are numbers in range are read back from their text. -/
theorem read_toJson (valid : settings.Valid) {m n : Nat}
    (windows : settings.windows = ⟨Number.ofNat m, Number.ofNat n⟩) :
    Json.read settings.toJson.text = .ok settings.toJson := by
  obtain ⟨k, -, parameter⟩ := valid.parameter
  obtain ⟨l, -, result⟩ := valid.result
  have first : (Json.number settings.windows.parameter).Natural := by
    rw [windows] at parameter ⊢
    exact parameter ▸ .number parameter
  have second : (Json.number settings.windows.result).Natural := by
    rw [windows] at result ⊢
    exact result ▸ .number result
  have phrases : (Json.object (settings.phrases.map fun entry => (entry.1, .string entry.2))).Natural := by
    refine .object ?_ (List.forall_mem_map.mpr fun entry _ => .string entry.2)
    rw [List.map_map]
    exact valid.once
  exact Json.read_text (by simpa [toJson, first, second] using phrases)

/-- Settings that are written and laid over defaults with no other names are the settings. -/
theorem value?_merge_toJson (valid : settings.Valid)
    (inside : ∀ name ∈ defaults.phrases.map Prod.fst, name ∈ settings.phrases.map Prod.fst) (field : Field) :
    field.value? (merge settings.toJson defaults) = field.value? settings := by
  obtain ⟨accepted, once⟩ := valid_iff.mp valid
  have kept : (field.value? settings).filter field.accepts = field.value? settings :=
    Option.ext fun value => Option.filter_eq_some_iff.trans (and_iff_left_of_imp (accepted field value))
  rw [value?_merge (keyed_toJson once), at?_toJson, kept]
  cases field with
  | phrase name =>
    rw [Field.value?, Field.value?]
    cases found : settings.phrases.lookup name with
    | some phrase => rfl
    | none =>
      have absent := mt (inside name) (lookup_eq_none_iff_not_mem.mp found)
      rw [lookup_eq_none_iff_not_mem.mpr absent]
      rfl
  | _ => rfl

theorem phrases_merge_toJson (valid : settings.Valid) (others : (defaults.phrases.map Prod.fst).Nodup)
    (inside : ∀ name ∈ defaults.phrases.map Prod.fst, name ∈ settings.phrases.map Prod.fst) :
    (merge settings.toJson defaults).phrases.Perm settings.phrases := by
  have once := nodup_merge others settings.toJson
  have found := (eq_of_value? (value?_merge_toJson valid inside)).2
  refine (List.perm_ext_iff_of_nodup once.of_map valid.once.of_map).mpr fun entry => ?_
  rw [mem_iff_lookup once, mem_iff_lookup valid.once, found]

end Written

/-- A document that is read has no key twice, and laying it over usable settings gives usable settings. Each field
of the result, every window and every phrase on its own, is decided by the same field of the document and of the
defaults: it is the value in the document where that can be used, and that of the defaults elsewhere. Laying the
document over the result changes nothing. Settings that are written come back from their text as the same document,
and laid over usable defaults without other names that document gives the settings, the order of their phrases
aside. -/
theorem merge_laws :
    (∀ (text : String) (document : Json), Json.read text = .ok document → document.Keyed) ∧
    (∀ (document : Json) (defaults : Settings), document.Keyed → defaults.Valid →
      (merge document defaults).Valid) ∧
    (∀ (field : Field) (document other : Json) (defaults others : Settings), document.Keyed → other.Keyed →
      document.at? field.path = other.at? field.path → field.value? defaults = field.value? others →
      field.value? (merge document defaults) = field.value? (merge other others)) ∧
    (∀ (field : Field) (document : Json) (defaults : Settings), document.Keyed →
      field.value? (merge document defaults) =
        ((document.at? field.path).filter field.accepts).or (field.value? defaults)) ∧
    (∀ (document : Json) (defaults : Settings), document.Keyed → defaults.Valid →
      merge document (merge document defaults) = merge document defaults) ∧
    (∀ (settings : Settings) (m n : Nat), settings.Valid →
      settings.windows = ⟨Number.ofNat m, Number.ofNat n⟩ →
      Json.read settings.toJson.text = .ok settings.toJson) ∧
    ∀ settings defaults : Settings, settings.Valid → defaults.Valid →
      (∀ name ∈ defaults.phrases.map Prod.fst, name ∈ settings.phrases.map Prod.fst) →
      merge settings.toJson defaults =
          { settings with phrases := (merge settings.toJson defaults).phrases } ∧
        (merge settings.toJson defaults).phrases.Perm settings.phrases := by
  refine ⟨fun text document read => Json.keyed_of_read read,
    fun document defaults keyed valid => valid.merge keyed, ?_, ?_, ?_, ?_, ?_⟩
  · intro field document other defaults others keyed keyed' place value
    rw [value?_merge keyed, value?_merge keyed', place, value]
  · exact fun field document defaults keyed => value?_merge keyed defaults field
  · exact fun document defaults keyed valid => merge_merge keyed valid.once
  · exact fun settings m n valid windows => read_toJson valid windows
  · intro settings defaults valid others inside
    exact ⟨(eq_of_value? (value?_merge_toJson valid inside)).1, phrases_merge_toJson valid others.once inside⟩

/-- A document whose texts, windows and truth values are partly of no use, over defaults with a phrase: what can
be used is taken over, one by one. -/
theorem merge_laws_mixed :
    let document := Json.object
      [("windows", .object [("generic", .number (.finite 0)), ("return", .number (.finite 20))]),
        ("dedupe", .string "no"), ("repository", .number (.finite 3)),
        ("typeParameterDescriptions", .object [("T", .string " "), ("__proto__", .string "the ancestor")])]
    let other := Json.object [("windows", .object [("return", .number (.finite 20))])]
    let defaults : Settings := ⟨"lint", true, Windows.standard, [("T", "the element")], "local"⟩
    let settings : Settings := ⟨"check", false, ⟨3, 13⟩, [("K", "the key"), ("T", "a type")], "main"⟩
    (document.Keyed ∧ defaults.Valid ∧ settings.Valid ∧ (merge document defaults).Valid) ∧ settings.toJson.Keyed ∧
      Field.value? (merge document defaults) .resultWindow = Field.value? (merge other settings) .resultWindow ∧
      Field.value? (merge document defaults) .parameterWindow = Field.value? defaults .parameterWindow ∧
      merge document (merge document defaults) = merge document defaults ∧
      Json.read settings.toJson.text = .ok settings.toJson ∧
      (merge settings.toJson defaults).phrases.Perm settings.phrases := by
  intro document other defaults settings
  obtain ⟨parsed, usable, apart, decided, again, read, back⟩ := merge_laws
  have keyed : document.Keyed := by simp [document]
  have valid : defaults.Valid :=
    ⟨by decide, by decide, ⟨18, by decide, by rfl⟩, ⟨13, by decide, by rfl⟩, by decide, by decide⟩
  have valid' : settings.Valid :=
    ⟨by decide, by decide, ⟨3, by decide, by rfl⟩, ⟨13, by decide, by rfl⟩, by decide, by decide⟩
  have written : Json.read settings.toJson.text = .ok settings.toJson := read settings 3 13 valid' (by decide +kernel)
  refine ⟨⟨keyed, valid, valid', usable document defaults keyed valid⟩, parsed _ _ written, ?_, ?_,
    again document defaults keyed valid, written, ?_⟩
  · exact apart .resultWindow document other defaults settings keyed (by simp [other]) rfl rfl
  · rw [decided .parameterWindow document defaults keyed]
    rfl
  · exact (back settings defaults valid' valid (by decide)).2

section Phrases

/-- A phrase that a document gives for a name: the document is an object, its member for phrases is one, and the
entry for the name is a string that is not blank. -/
def GivenIn (document : Json) (name phrase : String) : Prop :=
  ∃ fields members, document = .object fields ∧
    fields.lookup "typeParameterDescriptions" = some (.object members) ∧
    members.lookup name = some (.string phrase) ∧ Text.isBlankText phrase = false

/-- The phrase for the name of a type parameter, where each source stands in for the one before: the document, the
defaults, the customary names, and the general phrase. -/
inductive Worded (document : Json) (defaults : Settings) (name : String) : String → Prop
  | document {phrase : String} (given : GivenIn document name phrase) : Worded document defaults name phrase
  | defaults {phrase : String} (absent : ∀ other, ¬GivenIn document name other)
      (own : defaults.phrases.lookup name = some phrase) : Worded document defaults name phrase
  | customary {phrase : String} (absent : ∀ other, ¬GivenIn document name other)
      (missing : defaults.phrases.lookup name = none) (table : Phrase.customary.lookup name = some phrase) :
      Worded document defaults name phrase
  | general (absent : ∀ other, ¬GivenIn document name other) (missing : defaults.phrases.lookup name = none)
      (strange : Phrase.customary.lookup name = none) : Worded document defaults name Phrase.anyParameter

theorem givenIn_iff {phrase : String} : GivenIn document name phrase ↔
    usableText? (document.at? ["typeParameterDescriptions", name]) = some phrase := by
  rw [usableText?_eq_some_iff, Json.at?_two, Option.bind_eq_some_iff]
  constructor
  · rintro ⟨fields, members, rfl, object, entry, filled⟩
    exact ⟨⟨.object members, object, entry⟩, filled⟩
  · rintro ⟨⟨value, object, entry⟩, filled⟩
    cases document with
    | object fields =>
      cases value with
      | object members => exact ⟨fields, members, rfl, object, entry, filled⟩
      | _ => exact absurd entry (by simp [Json.get?])
    | _ => exact absurd object (by simp [Json.get?])

/-- Exactly one phrase is that for a name, and it is the one that settings laid over the defaults give. -/
theorem worded_iff (keyed : document.Keyed) {phrase : String} : Worded document defaults name phrase ↔
    Phrase.ofParameter name (merge document defaults).phrases = phrase := by
  have absent_iff : (∀ other, ¬GivenIn document name other) ↔
      usableText? (document.at? ["typeParameterDescriptions", name]) = none := by
    simp only [givenIn_iff, Option.eq_none_iff_forall_ne_some, ne_eq]
  rw [Phrase.ofParameter, lookup_merge keyed]
  constructor
  · intro worded
    cases worded with
    | document given => rw [givenIn_iff.mp given, Option.some_or]
    | defaults absent own => rw [absent_iff.mp absent, own, Option.none_or]
    | customary absent missing table => rw [absent_iff.mp absent, missing, table, Option.none_or, Option.getD_some]
    | general absent missing strange =>
      rw [absent_iff.mp absent, missing, strange, Option.none_or, Option.getD_none]
  · rintro rfl
    cases given : usableText? (document.at? ["typeParameterDescriptions", name]) with
    | some phrase => exact .document (givenIn_iff.mpr given)
    | none =>
      have absent := absent_iff.mpr given
      cases own : defaults.phrases.lookup name with
      | some phrase => exact .defaults absent own
      | none =>
        cases table : Phrase.customary.lookup name with
        | some phrase => exact .customary absent own table
        | none => exact .general absent own table

/-- The line that a plan inserts for a type parameter ends in the phrase for its name: that of the document where it
gives one, else that of the defaults, else the customary one, and the general one for all other names. -/
theorem planned_tag_worded {document : Json} {defaults : Settings} {name : String} {windows : Windows}
    {issue : Issue} {source : Source} {insertion : Insertion} (keyed : document.Keyed)
    (plan : Plan.ofRemedy (.parameterTag name) issue source ⟨windows, (merge document defaults).phrases⟩ =
      .ok insertion) :
    ∃ raw ∈ source.lines, ∃ phrase,
      insertion.lines = [Line.indent (Line.content raw) ++ "* @param <" ++ name ++ "> " ++ phrase] ∧
      Worded document defaults name phrase ∧
      ∀ other, Worded document defaults name other → other = phrase := by
  obtain ⟨index, raw, -, present, rfl⟩ := Plan.tag_ok plan
  refine ⟨raw, List.mem_of_getElem? present, _, ?_, (worded_iff keyed).mpr rfl, fun other worded =>
    ((worded_iff keyed).mp worded).symm⟩
  simp only [Plan.tagLine, Plan.parameterTag, String.append_assoc]
  rfl

/-- A blank phrase of the document uncovers that of the defaults, and a name that no source has takes the general
phrase. -/
theorem planned_tag_worded_blank :
    let document := Json.object [("typeParameterDescriptions", .object [("__proto__", .string " ")])]
    let defaults : Settings := ⟨"lint", true, Windows.standard, [("__proto__", "the ancestor")], "local"⟩
    let options : Plan.Options := ⟨defaults.windows, (merge document defaults).phrases⟩
    let issue : Issue := ⟨"A.java", Number.ofNat 3, "warning"⟩
    let source := Source.ofText "/**\n */\nclass A<T> \x7b\x7d\n"
    (Plan.ofRemedy (.parameterTag "__proto__") issue source options =
        .ok ⟨Number.ofNat 1, [" * @param <__proto__> the ancestor"]⟩ ∧
      ∀ phrase, Worded document defaults "__proto__" phrase → phrase = "the ancestor") ∧
    Plan.ofRemedy (.parameterTag "constructor") issue source options =
        .ok ⟨Number.ofNat 1, [" * @param <constructor> the type parameter"]⟩ ∧
      ∀ phrase, Worded document defaults "constructor" phrase → phrase = Phrase.anyParameter := by
  intro document defaults options issue source
  have keyed : document.Keyed := by simp [document]
  have own : Plan.ofRemedy (.parameterTag "__proto__") issue source options =
      .ok ⟨Number.ofNat 1, [" * @param <__proto__> the ancestor"]⟩ := by rfl
  have strange : Plan.ofRemedy (.parameterTag "constructor") issue source options =
      .ok ⟨Number.ofNat 1, [" * @param <constructor> the type parameter"]⟩ := by rfl
  refine ⟨⟨own, ?_⟩, strange, ?_⟩
  · obtain ⟨raw, -, phrase, -, -, only⟩ := planned_tag_worded keyed own
    obtain rfl := only "the ancestor" ((worded_iff keyed).mpr rfl)
    exact only
  · obtain ⟨raw, -, phrase, -, -, only⟩ := planned_tag_worded keyed strange
    obtain rfl := only Phrase.anyParameter ((worded_iff keyed).mpr rfl)
    exact only

end Phrases

end Settings

end DocMend
