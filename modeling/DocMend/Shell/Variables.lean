import DocMend.Shell.Interpreter
import DocMend.Shell.Print.Script
/-!
Variables and special parameters. A name stands for at most one variable; functions may cover it
with one of their own until they are over. In the extended language some variables are computed from
the state of the shell, and a variable may lead to another one.
-/

set_option autoImplicit false
set_option relaxedAutoImplicit false

namespace DocMend.Shell

/-- Whether a text comes before another one, byte by byte. -/
def textBefore : Octets → Octets → Bool
  | [], _ => true
  | _ :: _, [] => false
  | a :: as, b :: bs => if a = b then textBefore as bs else a < b

/-- Texts in the order of their bytes. -/
def sortedTexts (texts : List Octets) : List Octets :=
  texts.mergeSort textBefore

/-- The letters of the options, in the order in which they are shown. -/
def optionLetters : List (String × Char) :=
  [("nounset", 'u'), ("notify", 'b'), ("allexport", 'a'), ("noclobber", 'C'), ("emacs", 'E'),
   ("vi", 'V'), ("verbose", 'v'), ("xtrace", 'x'), ("stdin", 's'), ("noexec", 'n'),
   ("monitor", 'm'), ("interactive", 'i'), ("ignoreeof", 'I'), ("noglob", 'f'), ("errexit", 'e')]

/-- The letters of the options of the extended language, in the order in which they are shown. -/
def extendedLetters : List (String × Char) :=
  [("allexport", 'a'), ("notify", 'b'), ("errexit", 'e'), ("noglob", 'f'), ("hashall", 'h'),
   ("interactive", 'i'), ("keyword", 'k'), ("monitor", 'm'), ("noexec", 'n'), ("privileged", 'p'),
   ("onecmd", 't'), ("nounset", 'u'), ("verbose", 'v'), ("xtrace", 'x'), ("braceexpand", 'B'),
   ("noclobber", 'C'), ("errtrace", 'E'), ("histexpand", 'H'), ("physical", 'P'), ("functrace", 'T')]

/-- Options of the extended language that can be set by their names. -/
def shellOptions : List String :=
  extendedLetters.map Prod.fst ++
    ["emacs", "history", "ignoreeof", "interactive-comments", "nolog", "pipefail", "posix", "vi"]

/-- The names of variables that the extended language computes. -/
def computedNames : List Octets :=
  ["LINENO", "FUNCNAME", "BASH_SOURCE", "BASH_LINENO", "BASH_SUBSHELL", "BASHPID", "SECONDS", "RANDOM",
   "SRANDOM", "EPOCHSECONDS", "BASH_COMMAND", "BASH_ARGV0", "GROUPS", "DIRSTACK", "SHELLOPTS",
   "BASHOPTS", "BASH_VERSINFO"]

/-- The letters of the options of a language. -/
def optionLettersOf : Dialect → List (String × Char)
  | .posix => optionLetters
  | .extended => extendedLetters

namespace Interpreter

/-- The name of the file that commands outside functions come from. -/
def baseFile (s : Interpreter) : Octets :=
  match s.frames, s.origin with
  | frame :: _, _ => frame.file
  | [], .argument => "environment"
  | [], .input => "main"
  | [], .file => s.name

/-- The names of options that are on, between colons. -/
def optionList (s : Interpreter) (isChosen : String → Bool) : Octets :=
  Text.joined [':'] (sortedTexts ((s.options.filter isChosen).map String.toList))

/-- What a variable of the extended language holds that is computed from the state of the shell. -/
def computed? (s : Interpreter) (name : Octets) : Option Content :=
  let isFile := s.origin = .file
  let number (n : Nat) : Option Content := some (.text (Octets.ofNat n))
  let ofFrames (f : Frame → Octets) (last : Octets) : Option Content :=
    some (.ofTexts (s.frames.map f ++ if isFile then [last] else []))
  match name.name with
  | "LINENO" => number s.line
  | "FUNCNAME" => if s.functionDepth = 0 then none else ofFrames Frame.name "main"
  | "BASH_SOURCE" => ofFrames Frame.file s.name
  | "BASH_LINENO" => ofFrames (fun frame => Octets.ofNat frame.line) ['0']
  | "BASH_SUBSHELL" => number s.depth
  | "BASHPID" => number s.process
  | "SECONDS" => number 0
  | "RANDOM" => number 20034
  | "SRANDOM" => number 2983495
  | "EPOCHSECONDS" => number 1767225600
  | "BASH_COMMAND" => some (.text (Layout.head s.documents s.running))
  | "BASH_ARGV0" => some (.text s.name)
  | "GROUPS" => some (.ofTexts [['0']])
  | "DIRSTACK" => some (.ofTexts (Octets.ofText s.route.text :: s.stack))
  | "SHELLOPTS" => some (.text (s.optionList fun name => shellOptions.contains name))
  | "BASHOPTS" =>
    some (.text (s.optionList fun name => !shellOptions.contains name && name != "stdin"))
  | "BASH_VERSINFO" =>
    some (.ofTexts [['5'], ['2'], ['1', '5'], ['1'], "release", "x86_64-pc-linux-gnu"])
  | _ => none

/-- A variable, stored or computed. -/
def lookup? (s : Interpreter) (name : Octets) : Option Variable :=
  match getKey s.vars name with
  | some v => some v
  | none =>
    if s.dialect == .extended then (s.computed? name).map fun content =>
        { content, fixed := name.name == "BASH_VERSINFO" }
    else none

/-- The name that a variable leads to in the end. -/
def referent (s : Interpreter) (name : Octets) : (steps : Nat := 8) → Octets
  | 0 => name
  | steps + 1 =>
    match getKey s.vars name with
    | some v =>
      match v.isReference, v.content with
      | true, .text other => s.referent other steps
      | _, _ => name
    | none => name

/-- The value of a variable. -/
def value? (s : Interpreter) (name : Octets) : Option Octets :=
  (s.lookup? (s.referent name)).bind fun v => v.content.text?

/-- The text of a variable; the empty one where there is none. -/
def text (s : Interpreter) (name : Octets) : Octets :=
  (s.value? name).getD []

/-- The characters that separate fields. -/
def separators (s : Interpreter) : Octets :=
  (s.value? "IFS").getD " \t\n"

/-- The text of a slot. -/
def slotText? (s : Interpreter) (slot : Slot) : Option Octets :=
  (s.lookup? slot.name).bind fun v => v.content.get? slot.key

/-- The name under which programs see a function. -/
def functionVariable (name : Octets) : Octets :=
  "BASH_FUNC_".toList ++ name ++ "%%".toList

/-- Puts the names of a layer before the tables of the layers around it: those of a function share the
table of the command that calls it with assignments. -/
def addTable (layer : Layer) (tables : List (Bool × List Octets)) : List (Bool × List Octets) :=
  let own := (layer.covered.map Prod.fst).reverse
  match layer.ofFunction, tables with
  | true, (true, names) :: rest => (false, names ++ own) :: rest
  | true, tables => (false, own) :: tables
  | false, tables => (true, own) :: tables

/-- The names of variables in the tables of the extended language, the innermost table first, and in each
of them the oldest name. -/
def tables (layers : List Layer) : List (List Octets) :=
  (layers.foldr addTable []).map Prod.snd

/-- The variables in the order in which programs see them. -/
def arranged (s : Interpreter) : List (Octets × Variable) :=
  match s.dialect with
  | .posix =>
    let (path, others) := s.vars.partition fun entry => entry.1 == "PATH".toList
    Content.byPlainRows 39 (path ++ others)
  | .extended =>
    let inTables := (tables s.layers).flatMap fun names =>
      (Content.byGrowingRows 4 (names.map fun name => (name, ()))).map Prod.fst
    let own := inTables.eraseDups.filterMap fun name =>
      (getKey s.vars name).map fun v => (name, v)
    let others := s.vars.filter fun entry => !inTables.contains entry.1
    own ++ Content.byRows Content.tableRows others.reverse

/-- The variables that programs see. -/
def environment (s : Interpreter) : List (Octets × Octets) :=
  s.vars.filterMap fun (name, v) =>
    match v.exported, v.content with
    | true, .text value => some (name, value)
    | _, _ => none

/-- A shell as it is before a program takes its place: its variables are in the order in which programs
see them, and functions for programs are among them. -/
def exposed (s : Interpreter) : Interpreter :=
  let functions := s.functions.filterMap fun (name, f) =>
    if f.exported then
      some (functionVariable name, .ofText (Layout.exported s.documents f.body) true)
    else none
  let (last, others) := s.arranged.partition fun entry => entry.1 == ['_']
  { s with vars := others ++ functions ++ last, functions := [] }

/-- The most that the count of nested shells may be, and one more. -/
def deepestLevel : Int := 1000

/-- Changes the variable that counts nested shells: it and, if the count was too high, that count. -/
def releveled (s : Interpreter) (change : Int) : Interpreter × Option Int :=
  let level := (Octets.decimal? (s.text "SHLVL")).getD 0 + change
  let shown := if level < 0 then 0 else if deepestLevel ≤ level then 1 else level
  ({ s with vars := setKey s.vars "SHLVL" (.ofText (Octets.ofInt shown) true) },
    if deepestLevel ≤ level then some level else none)

/-- The letters of the options that are set. In the extended language another letter says where the
commands come from. -/
def flags (s : Interpreter) : Octets :=
  let letters := (optionLettersOf s.dialect).filterMap fun (name, letter) =>
    if s.options.contains name then some letter else none
  match s.dialect, s.origin with
  | .extended, .argument => letters ++ ['c']
  | .extended, .input => letters ++ ['s']
  | _, _ => letters

/-- The value of a parameter with a special name. -/
def special? (s : Interpreter) (name : Octets) : Option Octets :=
  match name with
  | ['$'] => some (Octets.ofNat s.root)
  | ['?'] => some (Octets.ofNat s.status)
  | ['#'] => some (Octets.ofNat s.parameters.length)
  | ['!'] => s.lastBackground.map Octets.ofNat
  | ['-'] => some s.flags
  | ['0'] => some s.name
  | _ => if Text.isDigits name then s.parameters[Text.digitsValue name - 1]? else none

end Interpreter

namespace Run

/-- Replaces a variable. -/
def putVariable (name : Octets) (v : Variable) : Run Unit :=
  modifySelf fun s => { s with vars := setKey s.vars name v }

/-- Says in the extended language that a variable keeps its value: it does not matter which builtin would
change it. -/
def warnFixed (name : Octets) : Run Unit := do
  let command := (← self).command
  modifySelf fun s => { s with command := none }
  warn (name ++ ": readonly variable")
  modifySelf fun s => { s with command }

/-- Refuses to change a variable. -/
def refuseChange {α : Type} (name : Octets) : Run α := do
  if ← isExtended then
    warnFixed name
    setStatus 1
    throw .failure
  fail (name ++ ": is read only")

/-- The name of a variable as a builtin is given it: in the POSIX language what follows an equals sign
does not belong to it. -/
def nameOf (dialect : Dialect) (text : Octets) : Octets :=
  if dialect == .posix then text.takeWhile (· ≠ '=') else text

/-- Whether new values of a variable go to programs. -/
def exports (old : Variable) : Run Bool :=
  return old.exported || (← has "allexport")

/-- Forgets the places of programs when the search path changes. -/
def forgetPrograms (name : Octets) : Run Unit := do
  if name == "PATH".toList then modifySelf fun s => { s with known := [] }

/-- Puts a text into a slot as it is. -/
def store (slot : Slot) (value : Octets) : Run Unit := do
  let old := (getKey (← self).vars slot.name).getD {}
  if old.fixed then refuseChange slot.name
  let exported ← exports old
  putVariable slot.name
    { old with content := old.content.set slot.key value, exported, isBare := false }
  forgetPrograms slot.name
  if slot.name == "OPTIND".toList then
    let index := match Octets.decimal? value with
      | some n => n.toNat
      | none => 1
    modifySelf fun s => { s with optionIndex := index, optionOffset := 0 }

/-- Removes a variable. -/
def unset (name : Octets) : Run Unit := do
  match getKey (← self).vars name with
  | some v =>
    if v.fixed then
      failIn (name ++ ": is read only") (name ++ ": cannot unset: readonly variable")
    modifySelf fun s => { s with vars := dropKey s.vars name }
    forgetPrograms name
  | none => return

/-- Adds a variable to the first layer that satisfies a test, with what it holds now. -/
def coverIn (test : Layer → Bool) (name : Octets) (old : Option Variable) :
    List Layer → List Layer
  | [] => []
  | layer :: outer =>
    if !test layer then layer :: coverIn test name old outer
    else if (getKey layer.covered name).isSome then layer :: outer
    else { layer with covered := (name, old) :: layer.covered } :: outer

/-- Covers a variable until the innermost layer that satisfies a test is over. -/
def cover (name : Octets) (test : Layer → Bool := fun _ => true) : Run Unit :=
  modifySelf fun s =>
    { s with layers := coverIn test name (getKey s.vars name) s.layers }

/-- Adds a layer over the variables. -/
def addLayer (ofFunction : Bool) : Run Unit :=
  modifySelf fun s => { s with layers := { ofFunction } :: s.layers }

/-- Takes the innermost layer away: the variables that it covered are as they were. -/
def dropLayer : Run Unit :=
  modifySelf fun s =>
    match s.layers with
    | [] => s
    | layer :: outer =>
      let vars := layer.covered.foldl (fun vars (name, old) =>
        match old with
        | some v => setKey vars name v
        | none => dropKey vars name) s.vars
      { s with
        vars, layers := outer, options := layer.options.getD s.options
        known := if layer.covered.any fun entry => entry.1 == "PATH".toList then [] else s.known }

/-- Runs a computation over a layer of its own, which is taken away however the computation ends. -/
def inLayer {α : Type} (ofFunction : Bool) (body : Run α) : Run α := do
  addLayer ofFunction
  try
    let value ← body
    dropLayer
    return value
  catch e =>
    dropLayer
    throw e

/-- Puts a channel in the place of the standard output while a computation runs, and takes what was
written to it. -/
def captured (body : Run Unit) : Run Octets := do
  let before ← self
  let index ← connectNew 1 (.pipe [] [])
  body
  modifySelf fun s => { s with descriptors := before.descriptors }
  match (← machine).available index with
  | .ok text =>
    modifyMachine fun m => m.consume index text.length
    return text
  | .error _ => return []

end Run

end DocMend.Shell
