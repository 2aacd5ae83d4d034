import DocMend.Shell.Builtin.Declaration
import DocMend.Shell.Evaluation.Assigning
import DocMend.Shell.Evaluation.Basic
/-!
The words of a simple command. They are expanded up to the name of the command first, because that
name decides how the others are expanded.
-/

set_option autoImplicit false
set_option relaxedAutoImplicit false

namespace DocMend.Shell

namespace Evaluation

/-- The words of a simple command while they are expanded: the fields so far, the words that are
left, how many fields come before the name of the command, and what is known of it. -/
structure Heading where
  fields : List Octets
  rest : List Word
  skipped : Nat := 0
  special : Option Bool := none
  assigns : Bool := false
  functions : Bool := true
  standard : Bool := false

namespace Heading

/-- The name of the command. -/
def name (h : Heading) : Octets :=
  (h.fields[h.skipped]?).getD []

/-- Expands words until one of them gives fields. -/
def firstFields (e : Engine) : List Word → Run (List Octets × List Word)
  | [] => return ([], [])
  | word :: rest => do
    match ← Expansion.words e [word] with
    | [] => firstFields e rest
    | fields => return (fields, rest)

/-- Sees to it that there is a field at an index, if the words give as many. -/
def reach (e : Engine) (h : Heading) (index : Nat) : Run Heading := do
  if index < h.fields.length then return h
  let (more, rest) ← firstFields e h.rest
  return { h with fields := h.fields ++ more, rest }

/-- Goes over the options after the name of a builtin that runs other commands. -/
def pass (e : Engine) : Nat → Nat → Heading → Run (Heading × Bool)
  | 0, _, h => return (h, false)
  | fuel + 1, index, h => do
    let h ← h.reach e index
    match h.fields[index]? with
    | none => return (h, false)
    | some ['-', '-'] =>
      let h ← h.reach e (index + 1)
      return ({ h with skipped := index + 1 }, (h.fields[index + 1]?).isSome)
    | some ('-' :: c :: cs) =>
      if (c :: cs).all (· == 'p') then pass e fuel (index + 1) { h with standard := true }
      else return (h, false)
    | some _ => return ({ h with skipped := index }, true)

/-- Looks up the command. -/
def find (h : Heading) : Run Found := do
  if h.standard then
    match BuiltinKind.of? (← Run.self).dialect h.name with
    | some kind => return .builtin kind
    | none =>
      match ← Run.placeIn h.name (Text.pieces ':' standardPath) with
      | some place => return .program place
      | none => return .missing
  Run.find h.name h.functions

/-- Goes over builtins that run other commands to the command itself. -/
def settle (e : Engine) : Nat → Heading → Run Heading
  | 0, h => return h
  | fuel + 1, h => do
    match ← h.find with
    | .builtin kind =>
      let known : Heading :=
        { h with assigns := kind.assigns, special := h.special.orElse fun _ => some kind.special }
      let extended ← Run.isExtended
      let name := Octets.name h.name
      if name = "command" || extended && name = "builtin" then
        match ← known.pass e (known.rest.length + known.fields.length + 2) (known.skipped + 1) with
        | (passed, true) =>
          let s ← Run.self
          let isThere := (BuiltinKind.of? s.dialect passed.name).isSome &&
            !s.disabled.contains passed.name
          if name = "builtin" && !isThere then
            return { passed with skipped := known.skipped, standard := known.standard }
          return ← settle e fuel { passed with functions := false }
        | (passed, false) =>
          return { passed with skipped := known.skipped, standard := known.standard }
      return known
    | _ => return h

/-- The letters of the options among the first arguments. -/
def declaredLetters : List Octets → List (Bool × Char)
  | ('-' :: c :: cs) :: rest =>
    if c == '-' then [] else (c :: cs).map (fun d => (true, d)) ++ declaredLetters rest
  | ('+' :: cs) :: rest => cs.map (fun d => (false, d)) ++ declaredLetters rest
  | _ => []

/-- Declares a variable to which a builtin assigns a list, and carries out the assignment. -/
def declareList (e : Engine) (h : Heading) (fields : List Octets) (a : Assignment)
    (list : List Word) : Run Unit := do
  let letters := declaredLetters (fields.drop (h.skipped + 1))
  let wanted := letters.foldl (fun w (on, c) => w.withLetter on c) ({} : Attributes)
  let attributes : Attributes :=
    { list := if wanted.table == some true then none else some true, table := wanted.table
      integer := wanted.integer, upper := wanted.upper, lower := wanted.lower
      capital := wanted.capital }
  let s ← Run.self
  let name := h.name.name
  let declares := name = "declare" || name = "typeset" || name = "local"
  let place : Builtin.Place :=
    if !declares then .here
    else if s.functionDepth = 0 || letters.contains (true, 'g') then .outside
    else .own
  let inTable := wanted.table != some true &&
    (getKey s.vars (s.referent a.name)).any fun v => v.content.isTable
  let kept : Attributes := if inTable then { attributes with list := none } else attributes
  Run.modifySelf fun s => { s with command := some h.name }
  let status ← closing (Run.modifySelf fun now => { now with command := s.command })
    (Builtin.declareAll e place kept [a.name])
  if status ≠ 0 then
    Run.setStatus 1
    throw .failure
  let assign : Run Unit := do
    Assignment.setList e ((← Run.self).referent a.name) a.appends true list
  match place with
  | .outside => Builtin.outsideFunctions a.name assign
  | _ => assign

/-- The argument that a word gives which is an assignment: of a list the name is left. -/
def assignmentField (e : Engine) (h : Heading) (fields : List Octets) (a : Assignment) :
    Run Octets := do
  match a.list?, a.index with
  | some list, none =>
    declareList e h fields a list
    return a.name
  | _, _ =>
    let index : Octets ← match a.index with
      | some index => pure (['['] ++ (← Expansion.textWith e {} index) ++ [']'])
      | none => pure []
    let sign : Octets := if a.appends then ['+', '='] else ['=']
    return a.name ++ index ++ sign ++ (← Expansion.value e a.value)

/-- The fields of a simple command. A word that is an assignment stays one field after a builtin that
takes assignments. -/
def ofWords (e : Engine) (words : List Word) : Run Heading := do
  let (fields, rest) ← firstFields e words
  if fields.isEmpty then return { fields, rest }
  let h ← settle e (words.length + fields.length + 2) { fields, rest }
  let dialect := (← Run.self).dialect
  let mut all := h.fields
  for word in h.rest do
    match (if h.assigns then Word.assignment? dialect word else none) with
    | some a => all := all ++ [← assignmentField e h all a]
    | none => all := all ++ (← Expansion.words e [word])
  return { h with fields := all, rest := [] }

end Heading

end Evaluation

end DocMend.Shell
