import DocMend.Shell.Arithmetic
import DocMend.Shell.Calculation
import DocMend.Shell.Fields
import DocMend.Shell.Variables
/-!
Values of parameters, arithmetic in a process, and assignments. A variable may evaluate a text that it
takes as an expression, or change its letters.
-/

set_option autoImplicit false
set_option relaxedAutoImplicit false

namespace DocMend.Shell

/-- The value of a parameter: one text, or several that may be kept apart. -/
inductive Value where
  | one (text : Octets)
  | all (texts : List Octets) (mark : Octets) (apart : Bool)

namespace Value

/-- The whole text of a value. -/
def text : Value → Octets
  | one text => text
  | all texts mark _ => Text.joined mark texts

/-- The texts of a value. -/
def texts : Value → List Octets
  | one text => [text]
  | all texts _ _ => texts

/-- Applies a change to a value, or to each of several ones. -/
def map (f : Octets → Octets) : Value → Value
  | .one text => .one (f text)
  | .all texts mark apart => .all (texts.map f) mark apart

/-- The segments of a value. -/
def segments (quoted : Bool) (value : Value) : List Segment :=
  let plain (text : Octets) : PatternText := text.map fun c => (c, quoted)
  match value with
  | one text => [if quoted then .fixed (plain text) else .fields (plain text)]
  | all texts _ apart =>
    let text := plain value.text
    if quoted && apart then (if texts.isEmpty then [] else [.strict text])
    else [if quoted then .fixed text else .fields text]

end Value

/-- A text as a variable takes it that changes letters. -/
def LetterCase.applied (letterCase : LetterCase) (cs : Octets) : Octets :=
  match letterCase, cs with
  | .upper, cs => cs.map Char.toUpper
  | .lower, cs => cs.map Char.toLower
  | .capital, [] => []
  | .capital, c :: rest => c.toUpper :: rest.map Char.toLower

/-- Splits a text that ends with a bracket into the name of an array and the index. -/
def splitElement (text : Octets) : Octets × Option Octets :=
  match text.dropWhile (· ≠ '['), text.getLast? with
  | '[' :: index, some ']' => (text.takeWhile (· ≠ '['), some index.dropLast)
  | _, _ => (text, none)

/-- What expressions of the extended language work on. -/
def Interpreter.memory (s : Interpreter) : Calculation.Memory where
  get slot := s.slotText? { slot with name := s.referent slot.name }
  isTable name := (s.lookup? (s.referent name)).any fun v => v.content.isTable
  stop name := ((s.lookup? (s.referent name)).map fun v => v.content.stop).getD 0
  needsValues := s.options.contains "nounset"

/-- Whether a variable, an element or a parameter that a text names has a value. -/
def Interpreter.hasValue (s : Interpreter) (text : Octets) : Bool :=
  match splitElement text with
  | (_, some []) => false
  | (base, some index) =>
    let content := ((s.lookup? (s.referent base)).map Variable.content).getD .nothing
    if content.isTable then (content.get? (some (.text index))).isSome
    else if index == ['@'] || index == ['*'] then !content.texts.isEmpty
    else
      match Calculation.value s.memory index with
      | .ok (n, _) =>
        let n := if n < 0 then n + content.stop else n
        0 ≤ n && (content.get? (some (.number n.toNat))).isSome
      | .error _ => false
  | (name, none) =>
    if Text.isDigits name then (s.special? name).isSome else (s.value? name).isSome

namespace Run

/-- The mark between all parameters where they are joined: the first separator, and in a text that is
cut the mark at which it is cut. -/
def joint (quoted full : Bool) : Run Octets := do
  if full && !quoted then return ['\x00']
  return (← self).separators.take 1

/-- The value of all parameters or elements. -/
def valueOfAll (texts : List Octets) (each quoted full : Bool) : Run Value := do
  if each && quoted && full then return .all texts ['\x00'] true
  return .all texts (← joint quoted full) false

/-- Breaks off because a parameter has no value. -/
def missingParameter {α : Type} (message : Octets) : Run α := do
  let s ← self
  match s.dialect with
  | .posix =>
    warn message
    setStatus 2
    throw .failure
  | .extended =>
    modifySelf fun s => { s with command := none }
    warn message
    setStatus (if s.process = s.root && s.origin = .argument then 127 else 1)
    throw .exit

/-- Evaluates an arithmetic expression. -/
def compute (expression : Octets) : Run Int := do
  let s ← self
  match s.dialect with
  | .posix =>
    match Arithmetic.value (fun name => Arithmetic.ofText (s.text name)) expression with
    | .ok (value, assigned) =>
      for (name, value) in assigned.reverse do
        store { name } (Octets.ofInt value)
      return value
    | .error fault => fail (fault.text expression)
  | .extended =>
    match Calculation.value s.memory expression with
    | .ok (value, after) =>
      for text in after.complaints do
        warn text
      for (slot, value) in after.assigned.reverse do
        store { slot with name := s.referent slot.name } (Octets.ofInt value)
      return value
    | .error (.unset name) => missingParameter (name ++ ": unbound variable")
    | .error fault => abandon fault.text

/-- The key of an element by its index. A negative number counts from the end; there is no key where it
counts too far. -/
def keyOf? (name index : Octets) : Run (Option Key) := do
  let content := (((← self).lookup? name).map Variable.content).getD .nothing
  if content.isTable then return if index.isEmpty then none else some (.text index)
  if index.all Octets.isGap then return none
  let n ← compute index
  let n := if n < 0 then n + content.stop else n
  return if n < 0 then none else some (.number n.toNat)

/-- Assigns a text to a slot. -/
def assignTo (slot : Slot) (text : Octets) (appends : Bool := false) : Run Unit := do
  let s ← self
  let v := (getKey s.vars slot.name).getD {}
  if v.fixed then refuseChange slot.name
  let old := (v.content.get? slot.key).getD []
  let value ←
    if v.integer then
      let n ← compute text
      let before ← if appends then compute old else pure 0
      pure (Octets.ofInt (wrapped (before + n)))
    else pure (if appends then old ++ text else text)
  store slot (match v.letterCase with
    | some letterCase => letterCase.applied value
    | none => value)

/-- The slot that a text names: a variable, or in the extended language an element with its index in
brackets. -/
def slotOf (text : Octets) : Run Slot := do
  let s ← self
  let refuse : Run Slot :=
    failIn (nameOf .posix text ++ ": bad variable name")
      (['\x60'] ++ text ++ "\x27: not a valid identifier".toList)
  match s.dialect, splitElement text with
  | .extended, (base, some index) =>
    if !Octets.isName base then refuse
    else
      let name := s.referent base
      match ← keyOf? name index with
      | some key => return { name, key := some key }
      | none => fail (text ++ ": bad array subscript")
  | dialect, _ =>
    let name := nameOf dialect text
    if !Octets.isName name then refuse else
      match splitElement (s.referent name) with
      | (base, some index) => return { name := base, key := ← keyOf? base index }
      | (base, none) => return { name := base }

/-- Assigns a text to a variable, or to an element in the extended language. -/
def assign (text value : Octets) : Run Unit := do
  assignTo (← slotOf text) value

/-- Sets the elements of an array. -/
def setElements (name : Octets) (texts : List Octets) : Run Unit := do
  let old := (getKey (← self).vars name).getD {}
  if old.fixed then refuseChange name
  putVariable name { old with content := .ofTexts texts, isBare := false }

end Run

end DocMend.Shell
