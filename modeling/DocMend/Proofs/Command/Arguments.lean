import DocMend.Command.Line
import Mathlib.Data.List.Induction
/-!
Command lines as they are written. Options are written by positional arguments in their order, by flags
at any place between them, and by empty arguments before the first positional one. However they are
written, the same options are read.
-/

set_option autoImplicit false
set_option relaxedAutoImplicit false

namespace DocMend.Command

/-- A part of a command line: an empty argument, a positional one, the flag that keeps duplicates, or a
flag together with its value. -/
inductive Item where
  | blank
  | positional (text : String)
  | noDedupe
  | setting (flag : ValueFlag) (value : String)
deriving DecidableEq, Repr

namespace Item

/-- The arguments that an item consists of. -/
def arguments : Item → List String
  | blank => [""]
  | positional text => [text]
  | noDedupe => ["--no-dedupe"]
  | setting flag value => [flag.text, value]

/-- The text of a positional argument. -/
def positional? : Item → Option String
  | positional text => some text
  | _ => none

/-- The value that an item gives to a flag. -/
def value? (flag : ValueFlag) : Item → Option String
  | setting other value => if other = flag then some value else none
  | _ => none

/-- No positional argument is written like a flag, and no value like a long flag. -/
def IsPlain : Item → Prop
  | positional text => Reading.looksLikeFlag text = false ∧ text ≠ "-h"
  | setting _ value => Reading.looksLikeFlag value = false
  | _ => True

instance (item : Item) : Decidable item.IsPlain :=
  match item with
  | positional _ => inferInstanceAs (Decidable (_ ∧ _))
  | setting _ _ => inferInstanceAs (Decidable (_ = _))
  | blank | noDedupe => inferInstanceAs (Decidable True)

/-- The positional arguments that items hold. -/
def positionals (items : List Item) : List String :=
  items.filterMap positional?

/-- The value that items give to a flag: a later one takes the place of an earlier one. -/
def valueOf? (flag : ValueFlag) (items : List Item) : Option String :=
  (items.filterMap (value? flag)).getLast?

/-- A command line that writes items: every item is plain, and nothing positional stands before an empty
argument that is to be passed over. -/
structure Written (items : List Item) (line : List String) : Prop where
  line : line = items.flatMap arguments
  plain : ∀ item ∈ items, item.IsPlain
  leading : ∀ before after, items = before ++ blank :: after → positionals before = []

theorem positionals_append_singleton (items : List Item) (item : Item) :
    positionals (items ++ [item]) = positionals items ++ item.positional?.toList := by
  rw [positionals, List.filterMap_append, positionals]
  cases item <;> rfl

theorem valueOf?_append_singleton (flag : ValueFlag) (items : List Item) (item : Item) :
    valueOf? flag (items ++ [item]) = (item.value? flag).or (valueOf? flag items) := by
  rw [valueOf?, List.filterMap_append, valueOf?]
  cases given : item.value? flag with
  | none => simp [given]
  | some value => simp [given]

/-- What is left of a written command line without its last item is written too. -/
theorem Written.init {items : List Item} {item : Item} {line : List String}
    (written : Written (items ++ [item]) line) : Written items (items.flatMap arguments) where
  line := rfl
  plain := fun other mem => written.plain other (List.mem_append_left _ mem)
  leading := fun before after parts =>
    written.leading before (after ++ [item]) (by simp [parts])

end Item

namespace Reading

open Item

theorem ofText?_text (flag : ValueFlag) : ValueFlag.ofText? flag.text = some flag := by
  cases flag <;> decide

/-- A flag begins like one. -/
theorem looksLikeFlag_text (flag : ValueFlag) : looksLikeFlag flag.text = true := by
  cases flag <;> decide

theorem ofText?_eq_none {argument : String} (plain : looksLikeFlag argument = false) :
    ValueFlag.ofText? argument = none := by
  rw [ValueFlag.ofText?, List.find?_eq_none]
  intro flag _ same
  rw [← of_decide_eq_true same, looksLikeFlag_text] at plain
  exact absurd plain (by decide)

variable {reading : Reading}

/-- A flag and its value set what the flag is for. -/
theorem next_setting (idle : reading.awaiting = none) (flag : ValueFlag) {value : String}
    (plain : looksLikeFlag value = false) :
    (reading.next flag.text).next value = reading.setValue flag value := by
  have nonempty : ¬(flag.text = "" ∧ reading.positionals = []) := by
    rintro ⟨empty, -⟩
    cases flag <;> exact absurd empty (by decide)
  have first : reading.next flag.text = { reading with awaiting := some flag } := by
    simp only [next, idle, accept, if_neg nonempty, ofText?_text]
  rw [first]
  simp only [next, plain, Bool.false_eq_true, if_false]
  cases reading
  obtain rfl := idle
  rfl

theorem next_noDedupe (idle : reading.awaiting = none) :
    reading.next "--no-dedupe" = { reading with noDedupe := true } := by
  have nonempty : ¬("--no-dedupe" = "" ∧ reading.positionals = []) := by
    rintro ⟨empty, -⟩
    exact absurd empty (by decide)
  have other : ValueFlag.ofText? "--no-dedupe" = none := by decide
  simp only [next, idle, accept, if_neg nonempty, other, if_true]

theorem next_blank (idle : reading.awaiting = none) (first : reading.positionals = []) :
    reading.next "" = reading := by
  simp only [next, idle, accept, first, and_self, if_true]

theorem next_positional (idle : reading.awaiting = none) {text : String}
    (plain : looksLikeFlag text = false) (short : text ≠ "-h")
    (filled : text ≠ "" ∨ reading.positionals ≠ []) :
    reading.next text = { reading with positionals := reading.positionals ++ [text] } := by
  have nonempty : ¬(text = "" ∧ reading.positionals = []) := by
    rintro ⟨empty, none⟩
    exact filled.elim (absurd empty) (absurd none)
  have other {flag : String} (long : looksLikeFlag flag = true) : text ≠ flag := by
    rintro rfl
    exact absurd (plain.symm.trans long) (by decide)
  have dedupe : text ≠ "--no-dedupe" := other (by decide)
  have help : ¬(text = "--help" ∨ text = "-h") := by
    rintro (long | same)
    · exact other (by decide) long
    · exact short same
  simp only [next, idle, accept, if_neg nonempty, ofText?_eq_none plain, if_neg dedupe, if_neg help,
    plain, Bool.false_eq_true, if_false]

/-- What items say. -/
def ofItems (items : List Item) : Reading where
  positionals := Item.positionals items
  configPath := valueOf? .config items
  script := valueOf? .script items
  repository := valueOf? .repository items
  noDedupe := decide (Item.noDedupe ∈ items)

/-- One more item is read after those before it. -/
theorem foldl_ofItems {items : List Item} {item : Item} {line : List String}
    (written : Written (items ++ [item]) line)
    (named : (Item.positionals (items ++ [item])).head? ≠ some "") :
    item.arguments.foldl next (ofItems items) = ofItems (items ++ [item]) := by
  have plain := written.plain item (by simp)
  have idle : (ofItems items).awaiting = none := rfl
  have step : ofItems (items ++ [item]) =
      { positionals := Item.positionals items ++ item.positional?.toList
        configPath := (item.value? .config).or (valueOf? .config items)
        script := (item.value? .script).or (valueOf? .script items)
        repository := (item.value? .repository).or (valueOf? .repository items)
        noDedupe := decide (Item.noDedupe ∈ items ∨ Item.noDedupe = item) } := by
    simp only [ofItems, positionals_append_singleton, valueOf?_append_singleton, List.mem_append,
      List.mem_singleton]
  rw [step]
  cases item with
  | blank =>
    have first : (ofItems items).positionals = [] := written.leading items [] rfl
    rw [Item.arguments, List.foldl_cons, List.foldl_nil, next_blank idle first]
    simp [ofItems, Item.positional?, Item.value?]
  | positional text =>
    have filled : text ≠ "" ∨ (ofItems items).positionals ≠ [] := by
      rw [positionals_append_singleton] at named
      cases first : Item.positionals items with
      | nil =>
        rw [first] at named
        exact .inl fun empty => named (by simp [Item.positional?, empty])
      | cons other rest => exact .inr (by simp [ofItems, first])
    rw [Item.arguments, List.foldl_cons, List.foldl_nil,
      next_positional idle plain.1 plain.2 filled]
    simp [ofItems, Item.positional?, Item.value?]
  | noDedupe =>
    rw [Item.arguments, List.foldl_cons, List.foldl_nil, next_noDedupe idle]
    simp [ofItems, Item.positional?, Item.value?]
  | setting flag value =>
    rw [Item.arguments, List.foldl_cons, List.foldl_cons, List.foldl_nil,
      next_setting idle flag plain]
    cases flag <;> simp [ofItems, setValue, Item.positional?, Item.value?]

/-- A written command line is read as what its items say. -/
theorem ofArguments_written {items : List Item} {line : List String} (written : Written items line)
    (named : (Item.positionals items).head? ≠ some "") : ofArguments line = ofItems items := by
  have folded : line.foldl next {} = ofItems items := by
    rw [written.line]
    -- arguments are read from the left, so the last item is the newest
    induction items using List.reverseRecOn generalizing line with
    | nil => simp [ofItems, Item.positionals, valueOf?]
    | append_singleton items item ih =>
      have before : (Item.positionals items).head? ≠ some "" := by
        intro empty
        rw [positionals_append_singleton, List.head?_append, empty] at named
        exact named rfl
      rw [List.flatMap_append, List.foldl_append, ih written.init before, List.flatMap_singleton,
        foldl_ofItems written named]
  rw [ofArguments, folded]
  rfl

end Reading

/-- A command line that writes options for repairs: the name of the command or none, and flags. -/
structure FixOptions.Written (options : FixOptions) (line : List String) (items : List Item) :
    Prop extends Item.Written items line where
  positionals : Item.positionals items = ["fix"] ∨ Item.positionals items = []
  noDedupe : options.noDedupe = true ↔ Item.noDedupe ∈ items
  configPath : Item.valueOf? .config items = options.configPath
  script : Item.valueOf? .script items = options.script

/-- A command line that writes options for release notes: the name of the command, the tag, the revision
range or an empty argument in its place, the description, and flags. -/
structure NotesOptions.Written (options : NotesOptions) (line : List String) (items : List Item) :
    Prop extends Item.Written items line where
  positionals : Item.positionals items =
    ["changelog", options.tag, options.range.getD "", options.description]
  range : options.range ≠ some ""
  configPath : Item.valueOf? .config items = options.configPath
  repository : Item.valueOf? .repository items = options.repository

/-- Options are read back from every command line that writes them, wherever in it the flags stand, how
often a flag is given a value, and how many empty arguments stand in front. -/
theorem ofArguments_of_written (line : List String) (items : List Item) :
    (∀ options : FixOptions, options.Written line items →
      Request.ofArguments line = .fix options) ∧
    ∀ options : NotesOptions, options.Written line items →
      Request.ofArguments line = .changelog options := by
  constructor
  · intro options written
    have named : (Item.positionals items).head? ≠ some "" := by
      rcases written.positionals with named | unnamed
      · rw [named]
        decide
      · rw [unnamed]
        decide
    have command : (Item.positionals items).head?.getD "fix" = "fix" := by
      rcases written.positionals with named | unnamed
      · rw [named]
        rfl
      · rw [unnamed]
        rfl
    have dedupe : decide (Item.noDedupe ∈ items) = options.noDedupe := by
      rw [Bool.eq_iff_iff, decide_eq_true_iff, written.noDedupe]
    rw [Request.ofArguments, Reading.ofArguments_written written.toWritten named, Reading.request]
    simp only [Reading.ofItems, command, written.configPath, written.script, dedupe]
    rfl
  · intro options written
    have named : (Item.positionals items).head? ≠ some "" := by
      rw [written.positionals, List.head?_cons]
      decide
    rw [Request.ofArguments, Reading.ofArguments_written written.toWritten named, Reading.request]
    simp only [Reading.ofItems, written.positionals, written.configPath, written.repository]
    obtain ⟨tag, range, description, configPath, repository⟩ := options
    have nonempty := written.range
    cases range with
    | none => rfl
    | some range =>
      have filled : range ≠ "" := fun empty => nonempty (by rw [empty])
      simp [filled]

/-- Repairs and notes without a range, asked for with flags in every place: before the command, between
the positional arguments and behind them. A flag is given twice, and a value looks like a short flag. -/
theorem ofArguments_of_written_scattered :
    (let line := ["--script", "make lint", "", "fix", "--no-dedupe", "--script", "npm run lint"]
     let items : List Item := [.setting .script "make lint", .blank, .positional "fix", .noDedupe,
       .setting .script "npm run lint"]
     let options : FixOptions := ⟨true, none, some "npm run lint"⟩
     options.Written line items ∧ Request.ofArguments line = .fix options) ∧
    (let line := ["", "--repo", "a/b", "", "changelog", "--config", "-h", "v2", "",
       "--repo", "c/d", "since v1", "--no-dedupe"]
     let items : List Item := [.blank, .setting .repository "a/b", .blank, .positional "changelog",
       .setting .config "-h", .positional "v2", .positional "", .setting .repository "c/d",
       .positional "since v1", .noDedupe]
     let options : NotesOptions := ⟨"v2", none, "since v1", some "-h", some "c/d"⟩
     options.Written line items ∧ Request.ofArguments line = .changelog options) := by
  have leading (items : List Item) (shown : ∀ n < items.length, items[n]? = some .blank →
      Item.positionals (items.take n) = []) (before after : List Item)
      (parts : items = before ++ .blank :: after) : Item.positionals before = [] := by
    have taken := shown before.length (by rw [parts]; simp) (by rw [parts]; simp)
    rwa [parts, List.take_left] at taken
  constructor
  · intro line items options
    have written : options.Written line items :=
      ⟨⟨rfl, by decide, leading items (by decide)⟩, .inl rfl, by decide, rfl, rfl⟩
    exact ⟨written, (ofArguments_of_written line items).1 options written⟩
  · intro line items options
    have written : options.Written line items :=
      ⟨⟨rfl, by decide, leading items (by decide)⟩, rfl, by decide, rfl, rfl⟩
    exact ⟨written, (ofArguments_of_written line items).2 options written⟩

end DocMend.Command
