import DocMend.Shell.Builtin.Name
/-!
Builtins of the extended language that list names: candidates for the completion of a word, builtins,
and the places from which functions were called.
-/

set_option autoImplicit false
set_option relaxedAutoImplicit false

namespace DocMend.Shell

namespace Builtin

/-- Where candidates come from. -/
inductive Source where
  | aliases
  | arrays
  | builtins
  | commands
  | folders
  | disabled
  | enabled
  | exported
  | files
  | functions
  | jobs
  | keywords
  | options
  | switches
  | signals
  | users
  | vars
  | nothing
deriving DecidableEq, Repr

namespace Source

/-- The sources by their names. -/
def table : List (String × Source) :=
  [("alias", .aliases), ("arrayvar", .arrays), ("binding", .nothing), ("builtin", .builtins),
   ("command", .commands), ("directory", .folders), ("disabled", .disabled), ("enabled", .enabled),
   ("export", .exported), ("file", .files), ("function", .functions), ("group", .nothing),
   ("helptopic", .builtins), ("hostname", .nothing), ("job", .jobs), ("keyword", .keywords),
   ("running", .jobs), ("service", .nothing), ("setopt", .options), ("shopt", .switches),
   ("signal", .signals), ("stopped", .nothing), ("user", .users), ("variable", .vars)]

/-- The sources by their letters. -/
def letters : List (Char × Source) :=
  [('a', .aliases), ('b', .builtins), ('c', .commands), ('d', .folders), ('e', .exported),
   ('f', .files), ('g', .nothing), ('j', .jobs), ('k', .keywords), ('s', .nothing), ('u', .users),
   ('v', .vars)]

/-- The keywords of the extended language in the order in which they are listed. -/
def keywordNames : List String :=
  ["if", "then", "else", "elif", "fi", "case", "esac", "for", "select", "while", "until", "do", "done",
   "in", "function", "time", "\x7b", "\x7d", "!", "[[", "]]", "coproc"]

/-- The files or folders that begin with a text. -/
def filesFrom (text : Octets) (folders : Bool) : Run (List Octets) := do
  let s ← Run.self
  let m ← Run.machine
  let pattern : PatternText := text.map (fun c => (c, true)) ++ [('*', false)]
  let found := m.glob (Globbing.ofOptions s.dialect s.options) s.folder (pattern.length + 1) [] pattern
  let isChosen (name : Octets) : Bool :=
    !folders || (match m.locate s.folder (Octets.toText name) with
      | .ok path => m.disk.isFolder path
      | .error _ => false)
  return sortedTexts (found.filter isChosen)

/-- The names that a source has; only files are looked for by the text that they begin with. -/
def names (source : Source) (text : Octets) : Run (List Octets) := do
  let s ← Run.self
  let builtins := BuiltinKind.extendedNames.map String.toList
  let variablesWith (test : Variable → Bool) : Run (List Octets) :=
    return ((← allVariables).filter fun entry => test entry.2).map Prod.fst
  match source with
  | .aliases => return sortedTexts (s.aliases.map Prod.fst)
  | .arrays => variablesWith fun v => v.content.isArray
  | .builtins => return builtins
  | .commands =>
    let functions := sortedTexts (s.functions.map Prod.fst)
    let programs := (Text.pieces ':' (s.text "PATH")).flatMap fun folder =>
      if programFolders.contains (Path.resolve [] (Octets.toText folder)) then
        standardPrograms.map String.toList
      else []
    return sortedTexts (s.aliases.map Prod.fst) ++ keywordNames.map String.toList ++ functions ++
      builtins ++ programs
  | .folders => filesFrom text true
  | .disabled => return s.disabled
  | .enabled => return builtins.filter fun name => !s.disabled.contains name
  | .exported => variablesWith Variable.exported
  | .files => filesFrom text false
  | .functions => return sortedTexts (s.functions.map Prod.fst)
  | .jobs => return s.jobs.map fun job => Layout.inLine s.documents job.body
  | .keywords => return keywordNames.map String.toList
  | .options => return (optionOrder .extended).map String.toList
  | .switches => return Builtin.switches.map fun entry => entry.1.toList
  | .signals =>
    return (List.range (Signal.largest + 1)).map fun n => "SIG".toList ++ Signal.name n
  | .users => return ["root".toList]
  | .vars => variablesWith fun v => v.content.text?.isSome || v.content.isArray
  | .nothing => return []

end Source

/-- The builtin that lists candidates for the completion of a word. -/
def listCandidates : Builtin := fun e arguments => do
  let (flags, words) ← flags "abcdefgjksuvA:G:W:F:C:X:P:S:o:" arguments
  let text := words.headD []
  let mut found : List Octets := []
  for (letter, argument) in flags do
    let source ← match letter, Source.letters.lookup letter with
      | _, some source => pure (some source)
      | 'A', none =>
        match Source.table.lookup (Octets.name argument) with
        | some source => pure (some source)
        | none =>
          Run.warn (argument ++ ": invalid action name")
          usage
      | _, none => pure none
    match source with
    | some source => found := found ++ (← source.names text)
    | none => pure ()
  match argument? flags 'W' with
  | some list =>
    let start : Reading :=
      { rest := list, dialect := .extended, documents := (← Run.self).documents }
    match readTemplate.run start with
    | .ok (word, after) =>
      Run.modifySelf fun s => { s with documents := after.documents }
      let cut := fieldsOf (← Run.self).separators none
        ((← e.expand {} word).map fun segment => match segment with
          | .fixed text => .fields text
          | segment => segment)
      found := found ++ cut.map fun field => field.map Prod.fst
    | .error _ => pure ()
  | none => pure ()
  let begins := found.filter fun name => (Text.afterStart? text name).isSome
  let kept ← match argument? flags 'X' with
    | none => pure begins
    | some filter =>
      let (keeps, filter) := match filter with
        | '!' :: rest => (true, rest)
        | rest => (false, rest)
      let pattern := Pattern.ofText (filter.map fun c => (c, false)) (← Run.has "extglob")
      pure (begins.filter fun name => Pattern.matchesAll pattern name == keeps)
  let before := (argument? flags 'P').getD []
  let after := (argument? flags 'S').getD []
  for name in kept do
    Run.printLine (before ++ name ++ after)
  return if kept.isEmpty then 1 else 0

/-- The builtin that lists builtins, and lets them be found or not. -/
def enable : Builtin := fun _ arguments => do
  let (flags, names) ← flags "anpsd:f:" arguments
  let s ← Run.self
  if names.isEmpty then
    for name in BuiltinKind.extendedNames do
      let isDisabled := s.disabled.contains name.toList
      let isSpecial := (BuiltinKind.of? .posix name.toList).any BuiltinKind.special
      let isChosen := (given flags 'a' || isDisabled == given flags 'n') &&
        (!given flags 's' || isSpecial)
      if isChosen then
        Run.printLine ("enable " ++ (if isDisabled then "-n ".toList else []) ++ name.toList)
    return 0
  let mut status := 0
  for name in names do
    if !BuiltinKind.extendedNames.contains (Octets.name name) then
      Run.warn (name ++ ": not a shell builtin")
      status := 1
    else
      Run.modifySelf fun s =>
        let others := s.disabled.filter (· != name)
        { s with disabled := if given flags 'n' then name :: others else others }
  return status

/-- The builtin that tells from where a function was called. -/
def caller : Builtin := fun _ arguments => do
  let s ← Run.self
  let texts (name : Octets) : List Octets := ((s.computed? name).map Content.texts).getD []
  let lines := texts "BASH_LINENO"
  let files := texts "BASH_SOURCE"
  let names := texts "FUNCNAME"
  if lines.isEmpty then return 1
  match arguments with
  | [] =>
    Run.printLine ((lines[0]?).getD [] ++ [' '] ++ (files[1]?).getD "NULL".toList)
    return 0
  | text :: _ =>
    if names.isEmpty then return 1
    match Octets.decimal? text with
    | none =>
      Run.warn (text ++ ": invalid number")
      usage
    | some n =>
      let n := n.toNat
      match lines[n]?, names[n + 1]?, files[n + 1]? with
      | some line, some name, some file =>
        Run.printLine (Text.joined [' '] [line, name, file])
        return 0
      | _, _, _ => return 1

/-- The builtin that forgets jobs. -/
def disown : Builtin := fun _ arguments => do
  let (flags, names) ← flags "ahr" arguments
  let s ← Run.self
  if names.isEmpty then
    if given flags 'a' || given flags 'r' then
      Run.modifySelf fun s => { s with jobs := [] }
      return 0
    if s.jobs.isEmpty then
      Run.warn "current: no such job"
      return 1
    return 0
  let mut status := 0
  for name in names do
    let digits := match name with
      | '%' :: digits => digits
      | digits => digits
    if !(Text.isDigits digits && s.jobs.any fun job => Octets.ofNat job.process == digits) then
      if (s.jobs[Text.digitsValue digits - 1]?).isNone then
        Run.warn (name ++ ": no such job")
        status := 1
  return status

/-- The builtins that need a terminal: they do nothing, with a status. -/
def needsTerminal (status : Nat) (text : String) : Builtin := fun _ _ => do
  if !text.isEmpty then Run.warn text
  return status

end Builtin

end DocMend.Shell
