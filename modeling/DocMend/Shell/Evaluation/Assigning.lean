import DocMend.Shell.Trace
import DocMend.Shell.Tree
/-!
Assignments in scripts. In the extended language they can append, set elements of arrays, and set
arrays as a whole: by words that follow each other, by words with indexes, and where elements have keys
by keys and values in turn.
-/

set_option autoImplicit false
set_option relaxedAutoImplicit false

namespace DocMend.Shell

namespace Assignment

/-- What a word of a list gives: elements that follow those before it, or one with an index, which may
append. The word itself is kept for complaints. -/
inductive Entry where
  | loose (texts : List Octets)
  | indexed (written index : Octets) (appends : Bool) (value : Octets)

/-- The entries that the words of a list give. -/
def entries (e : Engine) : List Word → Run (List Entry)
  | [] => return []
  | word :: rest => do
    let first ← match Word.element? word with
      | some (index, appends, value) =>
        pure (.indexed (Layout.word word) (← Expansion.textWith e {} index) appends
          (← Expansion.value e value))
      | none => pure (.loose (← Expansion.words e [word]))
    return first :: (← entries e rest)

/-- Keys and values in turn, each from a word that is not cut. -/
def pairs (e : Engine) : List Word → Run (List Entry)
  | [] => return []
  | [key] => return [.indexed [] (← Expansion.value e key) false []]
  | key :: value :: rest => do
    let first : Entry := .indexed [] (← Expansion.value e key) false (← Expansion.value e value)
    return first :: (← pairs e rest)

/-- Whether the words of a list are keys and values in turn. -/
def isPairs (list : List Word) : Bool :=
  match list with
  | [] => false
  | word :: _ => word.leading.head? ≠ some '[' && (Word.assignment? .extended word).isNone

/-- Carries out entries one after the other; elements without an index follow the number. -/
def fill (name : Octets) : Nat → List Entry → Run Unit
  | _, [] => return
  | next, .loose texts :: rest => do
    for (text, n) in texts.zip (List.range texts.length) do
      Run.assignTo { name, key := some (.number (next + n)) } text
    fill name (next + texts.length) rest
  | next, .indexed written index appends value :: rest => do
    match ← Run.keyOf? name index with
    | none =>
      Run.warn (written ++ ": bad array subscript")
      fill name next rest
    | some key =>
      Run.assignTo { name, key := some key } value appends
      fill name (match key with
        | .number n => n + 1
        | .text _ => next) rest

/-- Words of a list whose elements have keys: those that give no key are refused. In a declaration they
are quoted. -/
def keyed (name : Octets) (declares : Bool) : List Word → Run (List Word)
  | [] => return []
  | word :: rest => do
    if (Word.element? word).isSome then return word :: (← keyed name declares rest)
    let shown := Layout.word word
    Run.warn (name ++ ": " ++ (if declares then Quoting.single shown else shown) ++
      ": must use subscript when assigning associative array")
    keyed name declares rest

/-- An entry as a trace shows it. -/
def Entry.traced : Entry → List Octets
  | loose texts => texts.map Quoting.single
  | indexed _ index appends value =>
    [['['] ++ Quoting.single index ++ [']'] ++ (if appends then ['+', '='] else ['=']) ++
      Quoting.single value]

/-- Sets a variable to the elements that a list gives, or adds them. A declaration shows them in a
trace. -/
def setList (e : Engine) (name : Octets) (appends declares : Bool) (list : List Word) :
    Run Unit := do
  let old := (getKey (← Run.self).vars name).getD {}
  let isTable := old.content.isTable
  let entries ←
    if !isTable then entries e list
    else if isPairs list then pairs e list
    else entries e (← keyed name declares list)
  if declares then
    let sign : Octets := if appends then ['+', '='] else ['=']
    let shown := Text.joined [' '] (entries.flatMap Entry.traced)
    Trace.show1 e (pure (name ++ sign ++ ['('] ++ shown ++ [')']))
  if old.fixed then Run.refuseChange name
  let content : Content := match old.content, appends with
    | .table entries, true => .table entries
    | .table _, false => .table []
    | content, true => .list content.numbered
    | _, false => .list []
  Run.putVariable name { old with content, isBare := false }
  fill name content.stop entries

/-- The text between brackets that names an element. -/
def indexText : Option Word → Octets
  | some index => ['['] ++ Layout.word index ++ [']']
  | none => []

/-- Carries out an assignment, which is shown in a trace before it has its effect: it as the POSIX
language shows it. -/
def carryOut (e : Engine) (channel : Option Nat) (a : Assignment) : Run Octets := do
  let extended ← Run.isExtended
  let head := a.name ++ indexText a.index ++ (if a.appends then ['+', '='] else ['='])
  let trace (value : Octets) : Run Unit := do
    if extended && (← Run.has "xtrace") then Trace.write e channel [head ++ value]
  let traceText (value : Octets) : Run Unit :=
    trace (if value.isEmpty then [] else Quoting.traced value)
  match a.list?, a.index with
  | some list, none =>
    trace (Layout.word a.value)
    setList e ((← Run.self).referent a.name) a.appends false list
    return head
  | some _, some _ =>
    Run.fail (a.name ++ indexText a.index ++ ": cannot assign list to array member")
  | none, some index =>
    let value ← Expansion.value e a.value
    traceText value
    let isAll := match Word.plain? index with
      | some ['@'] => true
      | some ['*'] => true
      | _ => false
    let slot ← if isAll then pure none else Expansion.slotOf? e a.name index
    match slot with
    | some slot => Run.assignTo slot value a.appends
    | none => Run.fail (a.name ++ indexText a.index ++ ": bad array subscript")
    return head
  | none, none =>
    let value ← Expansion.value e a.value
    traceText value
    if extended then Run.assignTo (← Run.slotOf a.name) value a.appends
    else Run.assign a.name value
    return head ++ value

end Assignment

namespace Evaluation

/-- Carries out the assignments before a command. Those of a command that is not special hold only for
it; programs see them, and lists are texts for them. -/
def assignAll (e : Engine) (channel : Option Nat) (forCommand exported : Bool) (words : List Word) :
    Run (List Octets) := do
  let dialect := (← Run.self).dialect
  let mut shown : List Octets := []
  for word in words do
    match Word.assignment? dialect word with
    | none => pure ()
    | some a =>
      let s ← Run.self
      if forCommand && dialect == .extended &&
          (getKey s.vars (s.referent a.name)).any (fun v => v.fixed) then
        Run.warnFixed a.name
        if s.options.contains "errexit" then
          Run.setStatus 1
          throw .exit
        continue
      if forCommand then Run.cover a.name
      let text ← match forCommand, a.list? with
        | true, some _ =>
          Run.store { name := a.name } (Layout.word a.value)
          pure (a.name ++ ['='] ++ Layout.word a.value)
        | _, _ => a.carryOut e channel
      if exported then
        match getKey (← Run.self).vars a.name with
        | some v => Run.putVariable a.name { v with exported := true }
        | none => pure ()
      shown := shown ++ [text]
  return shown

end Evaluation

end DocMend.Shell
