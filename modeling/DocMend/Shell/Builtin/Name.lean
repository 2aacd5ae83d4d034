import DocMend.Shell.Builtin.Setting
import DocMend.Shell.Lookup
/-!
Builtins that say what names stand for: keywords, aliases, functions, builtins and programs.
-/

set_option autoImplicit false
set_option relaxedAutoImplicit false

namespace DocMend.Shell

namespace Builtin

/-- An alias as it is shown. -/
def shownAlias (entry : Octets × Octets) : Octets :=
  entry.1 ++ ['='] ++ Octets.quoted entry.2

/-- An alias as the extended language shows it. -/
def shownIn (dialect : Dialect) (entry : Octets × Octets) : Octets :=
  match dialect with
  | .posix => shownAlias entry
  | .extended => "alias " ++ entry.1 ++ ['='] ++ Quoting.single entry.2

/-- Says what a name stands for, or names it alone. The result is a status. -/
def describe (verbose functions : Bool) (name : Octets) : Run Nat := do
  let s ← Run.self
  let extended := s.dialect == .extended
  let say (long short : Octets) : Run Nat := do
    Run.printLine (if verbose then name ++ long else short)
    return 0
  if isKeyword s.dialect (Octets.name name) then say " is a shell keyword" name
  else
    match (if extended && !s.options.contains "expand_aliases" then none else getKey s.aliases name) with
    | some value =>
      if extended then
        say (" is aliased to \x60" ++ value ++ ['\x27'])
          ("alias " ++ name ++ ['='] ++ Quoting.single value)
      else say (" is an alias for " ++ value) ("alias " ++ shownAlias (name, value))
    | none =>
      match ← Run.find name functions with
      | .function f =>
        if !extended then say " is a shell function" name
        else
          let _ ← say " is a function" name
          if verbose then Run.printLine (← functionText name f)
          return 0
      | .builtin kind =>
        let special : Octets := if kind.special && !extended then "special " else []
        say (" is a " ++ special ++ "shell builtin") name
      | .program place =>
        let isThere := (← Run.isProgram name) || !extended && (← Run.node? name).isSome
        if name.contains '/' && !isThere then
          if extended then
            if verbose then Run.warn (name ++ ": not found")
            return 1
          if verbose then Run.printLine (name ++ ": not found")
          return 127
        let tracked := (getKey s.known name).isSome
        if !extended || tracked then Run.remember name place
        say (if extended then (if tracked then " is hashed (" ++ place ++ [')'] else " is " ++ place)
          else if tracked then " is a tracked alias for " ++ place else " is " ++ place) place
      | .missing =>
        if extended then
          if verbose then Run.warn (name ++ ": not found")
          return 1
        if verbose then Run.printLine (name ++ ": not found")
        return 127

/-- All places of a program in the folders of the search path. -/
def allPlaces (name : Octets) : Run (List Octets) := do
  let folders := Text.pieces ':' ((← Run.self).text "PATH")
  let mut places : List Octets := []
  for folder in folders do
    match ← Run.placeIn name [folder] with
    | some place => places := places ++ [place]
    | none => pure ()
  return places

/-- Says all that a name stands for: its kinds, its places, or both in full. -/
def describeAll (kinds places functions : Bool) (name : Octets) : Run Nat := do
  let s ← Run.self
  let mut found := false
  let say (kind : Octets) (long : Octets) : Run Unit := do
    if kinds then Run.printLine kind
    else if !places then Run.printLine (name ++ long)
  match (if s.options.contains "expand_aliases" then getKey s.aliases name else none) with
  | some value =>
    found := true
    say "alias" (" is aliased to \x60" ++ value ++ ['\x27'])
  | none => pure ()
  if isKeyword s.dialect (Octets.name name) then
    found := true
    say "keyword" " is a shell keyword"
  match (if functions then getKey s.functions name else none) with
  | some f =>
    found := true
    say "function" " is a function"
    if !kinds && !places then Run.printLine (← functionText name f)
  | none => pure ()
  if (BuiltinKind.of? s.dialect name).isSome then
    found := true
    say "builtin" " is a shell builtin"
  let here ← if name.contains '/' then
      if ← Run.isProgram name then pure [name] else pure []
    else allPlaces name
  for place in here do
    found := true
    if places then Run.printLine place else say "file" (" is " ++ place)
  if !found && !kinds && !places then Run.warn (name ++ ": not found")
  return if found then 0 else 1

/-- One word for the kind of a name. -/
def kindOf (name : Octets) : Run (Option String) := do
  let s ← Run.self
  if (getKey s.aliases name).isSome && s.options.contains "expand_aliases" then return some "alias"
  if isKeyword s.dialect (Octets.name name) then return some "keyword"
  match ← Run.find name true with
  | .function _ => return some "function"
  | .builtin _ => return some "builtin"
  | .program place =>
    let isThere := (getKey s.known name).isSome || (← Run.isProgram place)
    return if isThere then some "file" else none
  | .missing => return none

/-- The builtin that says what names stand for. -/
def describeNames : Builtin := fun _ arguments => do
  let extended ← Run.isExtended
  let (flags, names) ← if extended then flags "afptP" arguments else pure ([], arguments)
  let mut status := 0
  for name in names do
    if given flags 'a' then
      let places := given flags 'p' || given flags 'P'
      if (← describeAll (given flags 't') places (!given flags 'f') name) ≠ 0 then status := 1
    else if given flags 't' then
      match ← kindOf name with
      | some kind => Run.printLine kind
      | none => status := 1
    else if given flags 'p' || given flags 'P' then
      match ← Run.place? name with
      | some place => if given flags 'P' || (← kindOf name) == some "file" then Run.printLine place
      | none => status := 1
    else
      let answer ← describe true (!given flags 'f') name
      status := if extended then max status answer else status ||| answer
  return status

/-- The rows of the table in which the extended language lists known programs. -/
def programRows : Nat := 256

/-- Looks up programs of the POSIX language: a status. -/
def lookUp (names : List Octets) : Run Nat := do
  let mut status := 0
  for name in names do
    match ← Run.find name true with
    | .program place =>
      if (← Run.isProgram place) || name.contains '/' then Run.remember name place
      else
        Run.warn (name ++ ": not found")
        status := 1
    | .missing =>
      let isThere := (← Run.obstacle? name).isSome
      Run.warn (name ++ (if isThere then ": Permission denied" else ": not found"))
      status := 1
    | _ => pure ()
  return status

/-- Looks up a program of the extended language, or forgets it, or takes a given place for it: whether
this succeeds. -/
def noteProgram (flags : List Flag) (name : Octets) : Run Bool := do
  let s ← Run.self
  let forget : Run Unit := Run.modifySelf fun s => { s with known := dropKey s.known name }
  let note (place : Octets) : Run Unit := do
    forget
    Run.modifySelf fun s => { s with known := (name, { place, uses := 0 }) :: s.known }
  if name.contains '/' then return true
  match argument? flags 'p' with
  | some place =>
    if (← Run.node? place) == some .folder then
      Run.warn (place ++ ": Is a directory")
      return false
    note place
    return true
  | none => pure ()
  if given flags 'd' then
    if (getKey s.known name).isSome then
      forget
      return true
    Run.warn (name ++ ": not found")
    return false
  if (getKey s.functions name).isSome || (BuiltinKind.of? s.dialect name).isSome then return true
  forget
  match ← Run.place? name with
  | some place =>
    if ← Run.isProgram place then
      note place
      return true
  | none => pure ()
  Run.warn (name ++ ": not found")
  return false

/-- Tells the places of known programs of the extended language: a status. -/
def tellPlaces (readable : Bool) (names : List Octets) : Run Nat := do
  let mut status := 0
  for name in names do
    match ← Run.knownPlace? name with
    | some place =>
      Run.remember name place
      if readable then Run.printLine ("builtin hash -p " ++ place ++ [' '] ++ name)
      else Run.printLine ((if 1 < names.length then name ++ ['\t'] else []) ++ place)
    | none =>
      Run.warn (name ++ ": not found")
      status := 1
  return status

/-- Lists known programs of the extended language. -/
def listPrograms (readable : Bool) : Run Unit := do
  let known := Content.byRows programRows (← Run.self).known
  if known.isEmpty then
    Run.printLine "hash: hash table empty"
    return
  if !readable then Run.printLine "hits\tcommand"
  for (name, program) in known do
    let uses := Octets.ofNat program.uses
    if readable then Run.printLine ("builtin hash -p " ++ program.place ++ [' '] ++ name)
    else
      Run.printLine (List.replicate (4 - uses.length) ' ' ++ uses ++ ['\t'] ++ program.place)

/-- The builtin that remembers the places of programs, in the extended language. -/
def hashExtended (arguments : List Octets) : Run Nat := do
  if !(← Run.has "hashall") then
    Run.warn "hashing disabled"
    return 1
  let (flags, names) ← flags "dlp:rt" arguments
  if names.isEmpty then
    for letter in ['t', 'd'] do
      if given flags letter then
        Run.warn (['-', letter] ++ ": option requires an argument")
        return 1
  if given flags 't' then return ← tellPlaces (given flags 'l') names
  if given flags 'r' then Run.modifySelf fun s => { s with known := [] }
  if names.isEmpty then
    if !given flags 'r' then listPrograms (given flags 'l')
    return 0
  let mut status := 0
  for name in names do
    if !(← noteProgram flags name) then status := 1
  return status

/-- The builtin that remembers the places of programs. -/
def hash : Builtin := fun _ arguments => do
  if ← Run.isExtended then return ← hashExtended arguments
  let (flags, names) ← flags "r" arguments
  if given flags 'r' then
    Run.modifySelf fun s => { s with known := [] }
    return 0
  if names.isEmpty then
    for (_, program) in Content.byPlainRows 31 (← Run.self).known.reverse do
      Run.printLine program.place
    return 0
  lookUp names

/-- The builtin that defines and shows aliases. -/
def aliasing : Builtin := fun _ arguments => do
  let extended ← Run.isExtended
  let s ← Run.self
  let (_, arguments) ← if extended then flags "p" arguments else pure ([], arguments)
  if arguments.isEmpty then
    for entry in (if extended then s.aliases.mergeSort (fun a b => textBefore a.1 b.1)
        else Content.byPlainRows 39 s.aliases) do
      Run.printLine (shownIn s.dialect entry)
    return 0
  let mut status := 0
  for entry in arguments do
    let (name, value) := match entry with
      | '=' :: rest =>
        let (name, value) := Octets.splitEquals rest
        ('=' :: name, value)
      | entry => Octets.splitEquals entry
    match value with
    | some value => Run.modifySelf fun s => { s with aliases := setKey s.aliases name value }
    | none =>
      match getKey (← Run.self).aliases name with
      | some value => Run.printLine (shownIn s.dialect (name, value))
      | none =>
        if extended then Run.warn (name ++ ": not found")
        else Run.note ("alias: " ++ name ++ " not found")
        status := 1
  return status

/-- The builtin that drops aliases. -/
def unalias : Builtin := fun _ arguments => do
  let extended ← Run.isExtended
  let (flags, names) ← flags "a" arguments
  if given flags 'a' then
    Run.modifySelf fun s => { s with aliases := [] }
    return 0
  if names.isEmpty && extended then usage
  let mut status := 0
  for name in names do
    if (getKey (← Run.self).aliases name).isSome then
      Run.modifySelf fun s => { s with aliases := dropKey s.aliases name }
    else
      if extended then Run.warn (name ++ ": not found")
      else Run.note ("unalias: " ++ name ++ " not found")
      status := 1
  return status

/-- Lists a switch or an option, for reading or for reading back. -/
def listSwitch (ofOptions readable : Bool) (name : String) : Run Unit := do
  let on ← Run.has name
  if readable then
    Run.printLine (name ++ List.replicate (15 - name.length) ' ' ++ ['\t'] ++ (if on then "on" else "off"))
  else if ofOptions then
    Run.printLine ("set " ++ [if on then '-' else '+'] ++ "o " ++ name)
  else Run.printLine ("shopt -" ++ [if on then 's' else 'u'] ++ [' '] ++ name)

/-- The builtin of the extended language that sets switches. -/
def switch : Builtin := fun _ arguments => do
  let (flags, names) ← flags "pqsuo" arguments
  let sets := given flags 's'
  let clears := given flags 'u'
  if sets && clears then
    Run.warn "cannot set and unset shell options simultaneously"
    return 1
  let ofOptions := given flags 'o'
  let known := if ofOptions then optionOrder .extended else switches.map Prod.fst
  let mut status := 0
  if names.isEmpty then
    for name in known do
      let on ← Run.has name
      let isChosen := if sets then on else !clears || !on
      if isChosen && !given flags 'q' then listSwitch ofOptions (!given flags 'p') name
    return 0
  for name in names do
    let text := Octets.name name
    if !known.contains text then
      Run.warn (name ++ (if ofOptions then ": invalid option name" else ": invalid shell option name"))
      status := 1
    else if sets || clears then turn sets text
    else
      if !given flags 'q' then listSwitch ofOptions (!given flags 'p') text
      if !(← Run.has text) then status := 1
  return status

end Builtin

end DocMend.Shell
