import DocMend.Shell.Builtin.Basic
import DocMend.Shell.Trace
/-!
Builtins that declare variables and functions: what attributes they have, whether they belong to a
function, and that they are no more.
-/

set_option autoImplicit false
set_option relaxedAutoImplicit false

namespace DocMend.Shell

/-- Changes of what a variable is: an array by numbers or by keys, and attributes that are given to it or
taken from it. -/
structure Attributes where
  list : Option Bool := none
  table : Option Bool := none
  exported : Option Bool := none
  fixed : Option Bool := none
  integer : Option Bool := none
  reference : Option Bool := none
  traced : Option Bool := none
  upper : Option Bool := none
  lower : Option Bool := none
  capital : Option Bool := none
deriving DecidableEq, Repr

namespace Attributes

/-- Adds what a letter says. -/
def withLetter (a : Attributes) (on : Bool) (letter : Char) : Attributes :=
  match letter with
  | 'a' => { a with list := some on }
  | 'A' => { a with table := some on }
  | 'x' => { a with exported := some on }
  | 'r' => { a with fixed := some on }
  | 'i' => { a with integer := some on }
  | 'n' => { a with reference := some on }
  | 't' => { a with traced := some on }
  | 'u' => { a with upper := some on }
  | 'l' => { a with lower := some on }
  | 'c' => { a with capital := some on }
  | _ => a

/-- How a variable changes letters afterwards: two ways at once take each other away. -/
def letterCase (a : Attributes) (old : Option LetterCase) : Option LetterCase :=
  let asked := [(a.upper, LetterCase.upper), (a.lower, .lower), (a.capital, .capital)]
  match (asked.filter fun entry => entry.1 == some true).map Prod.snd with
  | [one] => some one
  | [] =>
    match old with
    | some one => if asked.any (fun entry => entry == (some false, one)) then none else some one
    | none => none
  | _ => none

/-- The content of a variable that becomes an array. -/
def content (a : Attributes) (v : Variable) : Content :=
  if a.table == some true then
    match v.content with
    | .text cs => .table [(['0'], cs)]
    | .nothing => .table []
    | content => content
  else if a.list == some true then
    match v.content with
    | .text cs => .list [(0, cs)]
    | .nothing => .list []
    | content => content
  else v.content

/-- Applies the changes to a variable, but for those that keep it from being changed or make it lead to
another one. -/
def applied (a : Attributes) (v : Variable) : Variable :=
  let isNew := v.content == .nothing && (a.table == some true || a.list == some true)
  { v with
    content := a.content v
    isBare := v.isBare || isNew
    exported := a.exported.getD v.exported
    integer := a.integer.getD v.integer
    traced := a.traced.getD v.traced
    letterCase := a.letterCase v.letterCase }

/-- Applies the changes that come after an assignment. -/
def sealed (a : Attributes) (v : Variable) : Variable :=
  { v with fixed := v.fixed || a.fixed == some true, isReference := a.reference.getD v.isReference }

/-- Whether a variable has all the attributes that are asked for. -/
def select (a : Attributes) (v : Variable) : Bool :=
  let isList := match v.content with
    | .list _ => true
    | _ => false
  let asked (wanted : Option Bool) (holds : Bool) : Bool := wanted != some true || holds
  asked a.list isList && asked a.table v.content.isTable && asked a.exported v.exported &&
    asked a.fixed v.fixed && asked a.integer v.integer && asked a.reference v.isReference &&
    asked a.traced v.traced && asked a.upper (v.letterCase == some .upper) &&
    asked a.lower (v.letterCase == some .lower) && asked a.capital (v.letterCase == some .capital)

end Attributes

/-- What is declared: a name, the index of an element, and a value, which may be appended. -/
structure Declared where
  entry : Octets
  name : Octets
  index : Option Octets := none
  appends : Bool := false
  value : Option Octets := none

namespace Declared

/-- What an argument declares. -/
def ofText (entry : Octets) : Declared :=
  let (before, value) := Octets.splitEquals entry
  let appends := value.isSome && before.getLast? = some '+'
  let (name, index) := splitElement (if appends then before.dropLast else before)
  { entry, name, index, appends, value }

end Declared

namespace Builtin

/-- Whether a name can be that of a variable; if not, the extended language complains and goes on. -/
def checkName (entry name : Octets) : Run Bool := do
  if Octets.isName name then return true
  if ← Run.isExtended then
    Run.warn (inMarks entry ++ ": not a valid identifier")
    return false
  Run.fail (name ++ ": bad variable name")

/-- All variables of the extended language, those that are computed among them. -/
def allVariables : Run (List (Octets × Variable)) := do
  let s ← Run.self
  let computed := computedNames.filterMap fun name =>
    if (getKey s.vars name).isSome then none
    else (s.lookup? name).map fun v => (name, v)
  return (s.vars ++ computed).mergeSort fun a b => textBefore a.1 b.1

/-- Lists variables of the POSIX language as assignments that can be read back. -/
def listing (first : Octets) (select : Variable → Bool) : Run Unit := do
  let s ← Run.self
  let chosen := s.vars.filter fun entry => select entry.2
  for (name, v) in chosen.mergeSort fun a b => textBefore a.1 b.1 do
    let before : Octets := if first.isEmpty then [] else first ++ [' ']
    match v.content.text? with
    | some value => Run.printLine (before ++ name ++ ['='] ++ Octets.quoted value)
    | none => if !first.isEmpty then Run.printLine (before ++ name)

/-- Lists variables of the extended language as declarations. -/
def declarations (select : Variable → Bool) : Run Unit := do
  for (name, v) in ← allVariables do
    if select v then Run.printLine (v.declaration name)

/-- A function as the extended language shows it, with its attributes. -/
def functionText (name : Octets) (f : Function) : Run Octets := do
  return Layout.function (← Run.self).documents name f.body

/-- The declaration of a function without its body. -/
def functionHead (name : Octets) (f : Function) : Octets :=
  let flag (on : Bool) (c : Char) : Octets := if on then [c] else []
  "declare -f" ++ flag f.fixed 'r' ++ flag f.traced 't' ++ flag f.exported 'x' ++ [' '] ++ name

/-- Functions in the order of their names. -/
def sortedFunctions : Run (List (Octets × Function)) :=
  return (← Run.self).functions.mergeSort fun a b => textBefore a.1 b.1

/-- Lists functions, with their bodies or without. -/
def listFunctions (bodies : Bool) (select : Function → Bool) : Run Unit := do
  for (name, f) in ← sortedFunctions do
    if select f then
      if bodies then
        Run.printLine (← functionText name f)
        if f.fixed || f.traced || f.exported then Run.printLine (functionHead name f)
      else Run.printLine (functionHead name f)

/-- Lists all variables and functions as assignments. -/
def listAll : Run Unit := do
  if ← Run.isExtended then
    for (name, v) in ← allVariables do
      match v.assignment? name with
      | some text => Run.printLine text
      | none => pure ()
    for (name, f) in ← sortedFunctions do
      Run.printLine (← functionText name f)
  else listing [] fun v => v.content.text?.isSome

/-- Changes functions, or shows them where nothing is to be changed. -/
def markFunctions (change : Option (Function → Function)) (shown : Octets → Function → Run Octets)
    (names : List Octets) : Run Nat := do
  let mut status := 0
  for name in names do
    match getKey (← Run.self).functions name, change with
    | some f, some change =>
      Run.modifySelf fun s => { s with functions := setKey s.functions name (change f) }
    | some f, none => Run.printLine (← shown name f)
    | none, some _ =>
      Run.warn (name ++ ": not a function")
      status := 1
    | none, none => status := 1
  return status

/-- Replaces what the outermost layer that covers a variable will restore. -/
def withSaved (name : Octets) (saved : Option Variable) : List Layer → List Layer
  | [] => []
  | layer :: outer =>
    if outer.any fun other => (getKey other.covered name).isSome then
      layer :: withSaved name saved outer
    else { layer with covered := setKey layer.covered name saved } :: outer

/-- Sets a variable, or removes it. -/
def withVariable (name : Octets) (v : Option Variable) (list : List (Octets × Variable)) :
    List (Octets × Variable) :=
  match v with
  | some v => setKey list name v
  | none => dropKey list name

/-- Runs a computation on the variable that a name has outside all functions. -/
def outsideFunctions {α : Type} (name : Octets) (body : Run α) : Run α := do
  let s ← Run.self
  match s.layers.reverse.findSome? fun layer => getKey layer.covered name with
  | none => body
  | some saved =>
    let here := getKey s.vars name
    Run.modifySelf fun s => { s with vars := withVariable name saved s.vars }
    let result ← body
    Run.modifySelf fun s =>
      { s with
        layers := withSaved name (getKey s.vars name) s.layers
        vars := withVariable name here s.vars }
    return result

/-- Makes a variable of the extended language one of the function at work. The new one has no value;
one that was assigned to for the call alone keeps it. -/
def makeOwn (name : Octets) : Run Unit := do
  let s ← Run.self
  let layer := (s.layers.find? Layer.ofFunction).getD {}
  if (getKey layer.covered name).isNone then
    Run.cover name Layer.ofFunction
    let old := (getKey s.vars name).getD {}
    Run.putVariable name { exported := old.exported }

/-- Whether a variable can become an array as it is asked for; if not, the shell complains. -/
def checkKind (a : Attributes) (name : Octets) (v : Variable) : Run Bool := do
  if a.list == some true && (a.table == some true || v.content.isTable) then
    Run.warn (name ++ ": cannot convert associative to indexed array")
    return false
  if a.table == some true then
    match v.content with
    | .list _ =>
      Run.warn (name ++ ": cannot convert indexed to associative array")
      return false
    | _ => pure ()
  if (a.list == some false || a.table == some false) && v.content.isArray then
    Run.warn (name ++ ": cannot destroy array variables in this way")
    return false
  return true

/-- Whether a variable may lead to another one of a name. -/
def checkReference (name : Octets) (value : Octets) : Run Bool := do
  let (base, _) := splitElement value
  if !Octets.isName base then
    Run.warn (inMarks value ++ ": invalid variable name for name reference")
    return false
  if base == name then
    Run.warn (name ++ ": nameref variable self references not allowed")
    return false
  return true

/-- Gives a variable attributes and a value: a status. -/
def declareHere (e : Engine) (a : Attributes) (d : Declared) : Run Nat := do
  let s ← Run.self
  let name := if a.reference.isSome then d.name else s.referent d.name
  let old := (getKey s.vars name).getD {}
  if old.fixed && (d.value.isSome || a.fixed == some false) then
    let declares := match s.command with
      | some command => command != "export".toList && command != "readonly".toList
      | none => true
    if declares then Run.warn (name ++ ": readonly variable") else Run.warnFixed name
    return 1
  if !(← checkKind a name old) then return 1
  if a.reference == some true then
    if !(← checkReference name (d.value.getD ((old.content.text?).getD ['_']))) then return 1
  let asElement : Attributes :=
    if d.index.isSome && !old.content.isTable then { a with list := some true } else a
  Run.putVariable name (asElement.applied old)
  match d.value, d.index with
  | none, _ => pure ()
  | some value, none =>
    let isList := (asElement.applied old).content.isArray && value.head? = some '(' &&
      value.getLast? = some ')'
    if isList then e.script { text := name ++ (if d.appends then ['+', '='] else ['=']) ++ value }
    else Run.assignTo { name } value d.appends
  | some value, some index =>
    match ← Run.keyOf? name (← Expansion.ofTemplate e index) with
    | some key => Run.assignTo { name, key := some key } value d.appends
    | none =>
      Run.warn (d.name ++ ['['] ++ index ++ "]: bad array subscript".toList)
      return 1
  let v := (getKey (← Run.self).vars name).getD {}
  Run.putVariable name (a.sealed v)
  return 0

/-- Where a declaration has its effect: on the variable at hand, on that of the function at work, or on
the one outside all functions. -/
inductive Place where
  | here
  | own
  | outside
deriving DecidableEq, Repr

/-- Declares variables of the extended language. -/
def declareAll (e : Engine) (place : Place) (a : Attributes) (names : List Octets) : Run Nat := do
  let mut status := 0
  for entry in names do
    let d := Declared.ofText entry
    let allowed := place != .here || d.index.isNone
    if !allowed || !Octets.isName d.name then
      Run.warn (inMarks (if d.index.isSome then (Octets.splitEquals entry).1 else entry) ++
        ": not a valid identifier")
      status := 1
    else
      let answer ← match place with
        | .here => do
          match d.value with
          | some value =>
            Trace.show1 e (return d.name ++ ['='] ++
              (if value.isEmpty then [] else Quoting.traced value))
          | none => pure ()
          declareHere e a d
        | .outside => outsideFunctions d.name (declareHere e a d)
        | .own => do
          let s ← Run.self
          if (getKey s.vars d.name).any fun v => v.fixed then
            Run.warn (d.name ++ ": readonly variable")
            pure 1
          else
            makeOwn d.name
            declareHere e a d
      if answer ≠ 0 then status := 1
  return status

/-- Gives variables of the POSIX language an attribute, after assigning to them where a value is
given. -/
def mark (change : Variable → Variable) (names : List Octets) : Run Nat := do
  for entry in names do
    let (name, value) := Octets.splitEquals entry
    if ← checkName entry name then
      match value with
      | some value => Run.assign name value
      | none => pure ()
      let v := (getKey (← Run.self).vars name).getD {}
      Run.putVariable name (change v)
  return 0

/-- The builtin that shows variables to programs. -/
def exportVariables : Builtin := fun e arguments => do
  let extended ← Run.isExtended
  let (flags, names) ← flags (if extended then "fnp" else "p") arguments
  let on := !given flags 'n'
  if given flags 'f' then
    if names.isEmpty then
      listFunctions true Function.exported
      return 0
    return ← markFunctions (some fun f => { f with exported := on }) functionText names
  if extended then
    if names.isEmpty then
      declarations Variable.exported
      return 0
    return ← declareAll e .here { exported := some on } names
  if given flags 'p' || names.isEmpty then
    listing "export" Variable.exported
    return 0
  mark (fun v => { v with exported := true }) names

/-- The builtin that keeps variables from being changed. -/
def fixVariables : Builtin := fun e arguments => do
  let extended ← Run.isExtended
  let (flags, names) ← flags (if extended then "aAfp" else "p") arguments
  let on (c : Char) : Option Bool := if given flags c then some true else none
  if given flags 'f' then
    if names.isEmpty then
      listFunctions true Function.fixed
      return 0
    return ← markFunctions (some fun f => { f with fixed := true }) functionText names
  if extended then
    let a : Attributes := { fixed := some true, list := on 'a', table := on 'A' }
    if names.isEmpty then
      declarations a.select
      return 0
    return ← declareAll e .here a names
  if given flags 'p' || names.isEmpty then
    listing "readonly" Variable.fixed
    return 0
  mark (fun v => { v with fixed := true }) names

/-- Reads options that give attributes or take them: whether each is given, its letter, and the
arguments after them. -/
def signedFlags (letters : Octets) : List Octets → Run (List (Bool × Char) × List Octets)
  | ['-', '-'] :: rest => return ([], rest)
  | (sign :: c :: cs) :: rest => do
    if sign ≠ '-' && sign ≠ '+' then return ([], (sign :: c :: cs) :: rest)
    match (c :: cs).find? fun d => !letters.contains d with
    | some d =>
      Run.warn ([sign, d] ++ ": invalid option".toList)
      usage
    | none =>
      let (more, rest) ← signedFlags letters rest
      return ((c :: cs).map (fun d => (sign == '-', d)) ++ more, rest)
  | rest => return ([], rest)

/-- Lists the variables of the function at work. -/
def listOwn : Run Unit := do
  let s ← Run.self
  let layer := (s.layers.find? Layer.ofFunction).getD {}
  for name in sortedTexts (layer.covered.map Prod.fst) do
    match getKey s.vars name with
    | some v => Run.printLine (v.declaration name)
    | none => pure ()

/-- Notes options in the innermost layer that satisfies a test. -/
def withOptions (test : Layer → Bool) (options : List String) : List Layer → List Layer
  | [] => []
  | layer :: outer =>
    if test layer then { layer with options := some (layer.options.getD options) } :: outer
    else layer :: withOptions test options outer

/-- Keeps the options that are set until the function is over. -/
def keepOptions : Run Unit :=
  Run.modifySelf fun s =>
    let isOwn (layer : Layer) : Bool := s.dialect == .posix || layer.ofFunction
    { s with layers := withOptions isOwn s.options s.layers }

/-- Shows what some names stand for as declarations. -/
def showDeclarations (names : List Octets) : Run Nat := do
  let mut status := 0
  for name in names do
    match (← Run.self).lookup? name with
    | some v => Run.printLine (v.declaration name)
    | none =>
      Run.warn (name ++ ": not found")
      status := 1
  return status

/-- The letters of attributes and of other options of a declaration. -/
def declarationLetters : Octets := "aAfFgiIlnrtuxpc"

/-- The builtin of the extended language that declares variables with attributes. -/
def declare : Builtin := fun e arguments => do
  let (given, names) ← signedFlags declarationLetters arguments
  let has (c : Char) : Bool := given.contains (true, c)
  let a := given.foldl (fun a (on, c) => a.withLetter on c) ({} : Attributes)
  if has 'f' || has 'F' then
    let select (f : Function) : Bool :=
      (a.exported != some true || f.exported) && (a.fixed != some true || f.fixed) &&
        (a.traced != some true || f.traced)
    let changes := !has 'p' && (a.exported.isSome || a.fixed.isSome || a.traced.isSome)
    if names.isEmpty then
      listFunctions (!has 'F') select
      return 0
    let change (f : Function) : Function :=
      { f with
        exported := a.exported.getD f.exported
        fixed := f.fixed || a.fixed == some true
        traced := a.traced.getD f.traced }
    let shown (name : Octets) (f : Function) : Run Octets :=
      if !has 'F' then functionText name f
      else return if has 'p' then functionHead name f else name
    return ← markFunctions (if changes then some change else none) shown names
  if has 'p' && !names.isEmpty then showDeclarations names
  else if names.isEmpty then
    if given.isEmpty then listAll else declarations a.select
    return 0
  else
    let s ← Run.self
    let inFunction := s.functionDepth ≠ 0
    let place : Place := if !inFunction then .outside else if has 'g' then .outside else .own
    declareAll e place a names

/-- Makes variables of the POSIX language local to a function. -/
def makeLocal (names : List Octets) : Run Nat := do
  for entry in names do
    if entry == ['-'] then keepOptions
    else
      let (name, value) := Octets.splitEquals entry
      if ← checkName entry name then
        Run.cover name
        match value with
        | some value => Run.assign name value
        | none => Run.putVariable name ((getKey (← Run.self).vars name).getD {})
  return 0

/-- The builtin that makes variables local. -/
def makeLocals : Builtin := fun e arguments => do
  let s ← Run.self
  if s.dialect == .posix then
    if s.layers.isEmpty then Run.fail "not in a function"
    return ← makeLocal arguments
  if s.functionDepth = 0 then
    Run.warn "can only be used in a function"
    return 1
  let (given, names) ← signedFlags declarationLetters arguments
  let a := given.foldl (fun a (on, c) => a.withLetter on c) ({} : Attributes)
  if names.isEmpty then
    listOwn
    return 0
  if names.contains ['-'] then keepOptions
  declareAll e .own a (names.filter (· != ['-']))

/-- Takes a variable out of the innermost layer that covers it: what that would have restored, and the
layers afterwards. -/
def uncovered? (name : Octets) : List Layer → Option (Option Variable × List Layer)
  | [] => none
  | layer :: outer =>
    match getKey layer.covered name with
    | some old => some (old, { layer with covered := dropKey layer.covered name } :: outer)
    | none => (uncovered? name outer).map fun (old, outer) => (old, layer :: outer)

/-- Removes a variable of the extended language: one of an outer function uncovers the one before. -/
def removeVariable (name : Octets) : Run Nat := do
  let s ← Run.self
  match s.lookup? name with
  | none => return 0
  | some v =>
    if v.fixed then
      Run.warn (name ++ ": cannot unset: readonly variable")
      return 1
    let inner := s.layers.takeWhile fun layer => !layer.ofFunction
    let isOwn := (s.layers.take (inner.length + 1)).any fun layer =>
      (getKey layer.covered name).isSome
    let (old, layers) := if isOwn then (none, s.layers)
      else (uncovered? name s.layers).getD (none, s.layers)
    Run.modifySelf fun s => { s with layers, vars := withVariable name old s.vars }
    return 0

/-- Removes an element of an array. -/
def removeElement (e : Engine) (base index : Octets) : Run Nat := do
  let s ← Run.self
  let name := s.referent base
  match getKey s.vars name with
  | none => return 0
  | some v =>
    if v.fixed then
      Run.warn (name ++ ": cannot unset: readonly variable")
      return 1
    let isAll := index == ['@'] || index == ['*']
    if isAll && !v.content.isTable then
      if v.content.isArray then
        Run.putVariable name { v with content := .list [] }
        return 0
      return ← removeVariable name
    match ← Run.keyOf? name (← Expansion.ofTemplate e index) with
    | none =>
      Run.warn (['['] ++ index ++ "]: bad array subscript".toList)
      return 1
    | some key =>
      if !v.content.isArray && key ≠ .number 0 then
        Run.warn (name ++ ": not an array variable")
        return 1
      Run.putVariable name { v with content := v.content.drop key }
      return 0

/-- Removes a function of the extended language. -/
def removeFunction (name : Octets) : Run Nat := do
  match getKey (← Run.self).functions name with
  | some f =>
    if f.fixed then
      Run.warn (name ++ ": cannot unset: readonly function")
      return 1
    Run.modifySelf fun s => { s with functions := dropKey s.functions name }
    return 0
  | none => return 0

/-- Removes what a name of the extended language stands for. -/
def removeNamed (e : Engine) (flags : List Flag) (name : Octets) : Run Nat := do
  if given flags 'f' then return ← removeFunction name
  let s ← Run.self
  match splitElement name with
  | (base, some index) =>
    if Octets.isName base then return ← removeElement e base index
  | _ => pure ()
  if given flags 'n' then removeVariable name
  else if !Octets.isName name then
    if given flags 'v' then
      Run.warn (inMarks name ++ ": not a valid identifier")
      return 1
    removeFunction name
  else
    match splitElement (s.referent name) with
    | (base, some index) => removeElement e base index
    | (target, none) =>
      if (s.lookup? target).isSome || given flags 'v' then removeVariable target
      else removeFunction name

/-- The builtin that removes variables and functions. -/
def remove : Builtin := fun e arguments => do
  let s ← Run.self
  if s.dialect == .extended then
    let (flags, names) ← flags "fvn" arguments
    if given flags 'f' && given flags 'v' then
      Run.warn "cannot simultaneously unset a function and a variable"
      return 1
    let mut status := 0
    for name in names do
      if (← removeNamed e flags name) ≠ 0 then status := 1
    return status
  let (flags, names) ← flags "fv" arguments
  for name in names do
    if (flags.getLast?.map Prod.fst) = some 'f' then
      Run.modifySelf fun s => { s with functions := dropKey s.functions name }
    else
      let name := Run.nameOf s.dialect name
      if !Octets.isName name then Run.fail (name ++ ": bad variable name")
      Run.unset name
  return 0

end Builtin

end DocMend.Shell
