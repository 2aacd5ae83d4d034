import DocMend.Shell.Filing
import DocMend.Shell.Tool.Show
/-!
Tools for file names: their parts, the places that they lead to, and names that are still free.
-/

set_option autoImplicit false
set_option relaxedAutoImplicit false

namespace DocMend.Shell.Tool

/-- A name without the slashes at its end. -/
def withoutSlashes (name : Octets) : Octets :=
  (name.reverse.dropWhile (· == '/')).reverse

/-- The last component of a name. -/
def lastComponent (name : Octets) : Octets :=
  if name.isEmpty then []
  else
    let plain := withoutSlashes name
    if plain.isEmpty then ['/'] else (plain.reverse.takeWhile (· ≠ '/')).reverse

/-- A text without an ending, unless it is nothing else. -/
def withoutSuffix (ending text : Octets) : Octets :=
  if ending ≠ text && !ending.isEmpty && ending.isSuffixOf text then
    text.take (text.length - ending.length)
  else text

/-- Prints the last components of names. -/
def basename : Tool := fun arguments => do
  let (given, names) ← options "basename" 1
    { letters := "as:z", names := ["multiple=a", "suffix=s", "zero=z"], leading := true } arguments
  let finish := finishOf given
  if names.isEmpty then refuse "basename" 1 "missing operand"
  let shown (ending name : Octets) : Octets :=
    let last := lastComponent name
    (if last == ['/'] then last else withoutSuffix ending last) ++ [finish]
  if has given "a" || has given "s" then
    Run.print (names.flatMap (shown ((valueOf? given "s").getD [])))
    return 0
  match names with
  | name :: ending :: extra :: _ =>
    let _ := (name, ending)
    refuse "basename" 1 ("extra operand " ++ quotedName extra)
  | [name, ending] => Run.print (shown ending name)
  | name :: _ => Run.print (shown [] name)
  | [] => pure ()
  return 0

/-- A name without its last component. -/
def withoutLast (name : Octets) : Octets :=
  let plain := withoutSlashes name
  if plain.isEmpty then (if name.isEmpty then ['.'] else ['/'])
  else
    let before := (plain.reverse.dropWhile (· ≠ '/')).reverse
    if before.isEmpty then ['.']
    else
      let folder := withoutSlashes before
      if folder.isEmpty then ['/'] else folder

/-- Prints names without their last components. -/
def dirname : Tool := fun arguments => do
  let (given, names) ← options "dirname" 1 { letters := "z", names := ["zero=z"] } arguments
  if names.isEmpty then refuse "dirname" 1 "missing operand"
  Run.print (names.flatMap fun name => withoutLast name ++ [finishOf given])
  return 0

/-- The text of a path. -/
def pathText (path : Path) : Octets :=
  Octets.ofText path.text

/-- A path as it is seen from a folder. -/
def relative (folder path : Path) : Octets :=
  let common := ((folder.zip path).takeWhile fun (a, b) => a == b).length
  let up := List.replicate (folder.length - common) ".."
  let parts := up ++ path.drop common
  if parts.isEmpty then ['.'] else Octets.ofText (Text.joinedBy "/" parts)

/-- What has to be there of a name, by the options that were given. -/
def lenienceOf (given : List Given) : Machine.Lenience :=
  match lastOf? given ["e", "m", "f"] with
  | some g => if g.key = "e" then .nothing else if g.key = "m" then .everything else .last
  | none => .last

/-- Prints the paths that names lead to. -/
def realpath : Tool := fun arguments => do
  let (given, names) ← options "realpath" 1
    { letters := "eLmPqsz"
      names := ["canonicalize-existing=e", "canonicalize-missing=m", "logical=L",
        "physical=P", "quiet=q", "relative-base:", "relative-to:", "strip=s", "no-symlinks=s",
        "zero=z"] } arguments
  if names.isEmpty then refuse "realpath" 1 "missing operand"
  let lenience := lenienceOf given
  let find (name : Octets) : Run (Except Refusal Path) := do
    let m ← Run.machine
    let folder := (← Run.self).folder
    let text := Octets.toText name
    if has given "s" then
      if name.isEmpty then return .error .missing
      let path := Path.resolve folder text
      return if lenience = .nothing && !m.isPresent path then .error .missing else .ok path
    return m.canonical folder lenience text
  let target? (key : String) : Run (Option Path) := do
    match valueOf? given key with
    | none => return none
    | some name =>
      match ← find name with
      | .ok path => return some path
      | .error refusal => abandon "realpath" 1 (shownName name ++ ": " ++ reason refusal)
  let start? ← target? "relative-to"
  let base? ← target? "relative-base"
  let mut status := 0
  for name in names do
    match ← find name with
    | .error refusal =>
      if !has given "q" then complain "realpath" (shownName name ++ ": " ++ reason refusal)
      status := 1
    | .ok path =>
      let shown := match start?, base? with
        | none, none => pathText path
        | some start, none => relative start path
        | none, some base => if base.isPrefixOf path then relative base path else pathText path
        | some start, some base =>
          if base.isPrefixOf path && base.isPrefixOf start then relative start path
          else pathText path
      Run.print (shown ++ [finishOf given])
  return status

/-- Prints what symbolic links hold, or the paths that names lead to. -/
def readlink : Tool := fun arguments => do
  let (given, names) ← options "readlink" 1
    { letters := "efmnqsvz"
      names := ["canonicalize=f", "canonicalize-existing=e", "canonicalize-missing=m",
        "no-newline=n", "quiet=q", "silent=s", "verbose=v", "zero=z"] } arguments
  if names.isEmpty then refuse "readlink" 1 "missing operand"
  let ends := !has given "n" || 1 < names.length
  if has given "n" && 1 < names.length then
    complain "readlink" "ignoring --no-newline with multiple arguments"
  let canonical := (lastOf? given ["e", "f", "m"]).isSome
  let mut status := 0
  for name in names do
    let found : Except Octets Octets ←
      if canonical then do
        let m ← Run.machine
        match m.canonical (← Run.self).folder (lenienceOf given) (Octets.toText name) with
        | .ok path => pure (.ok (pathText path))
        | .error refusal => pure (.error (reason refusal))
      else
        match ← Run.placeOf name false with
        | .ok (_, some (.link target)) => pure (.ok target)
        | .ok (_, some _) => pure (.error "Invalid argument".toList)
        | .ok (_, none) => pure (.error (reason .missing))
        | .error refusal => pure (.error (reason refusal))
    match found with
    | .ok text => Run.print (text ++ if ends then [finishOf given] else [])
    | .error text =>
      if (lastOf? given ["v", "q", "s"]).any fun g => g.key = "v" then
        complain "readlink" (shownName name ++ ": " ++ text)
      status := 1
  return status

/-- Letters that take the place of marks in the name of a temporary file, chosen by a number. -/
def chosenLetters (count n : Nat) : Octets :=
  let letters := "abcdefghijklmnopqrstuvwxyzABCDEFGHIJKLMNOPQRSTUVWXYZ0123456789".toList
  ((List.range count).foldl (fun (done : Octets × Nat) _ =>
    let next := done.2 * 6364136223846793005 + 1442695040888963407
    (letters.getD (next / 8589934592 % letters.length) 'x' :: done.1, next % 18446744073709551616))
    ([], n)).1

/-- A free name after a template, whose last marks are replaced. -/
def freeName (before : Octets) (count : Nat) (after : Octets) : Nat → Nat → Run Octets
  | 0, n => return before ++ chosenLetters count n ++ after
  | fuel + 1, n => do
    let name := before ++ chosenLetters count n ++ after
    match ← Run.placeOf name false with
    | .ok (_, some _) => freeName before count after fuel (n + 1)
    | _ => return name

/-- Makes a file or a folder with a free name, and prints the name. -/
def mktemp : Tool := fun arguments => do
  let (given, names) ← options "mktemp" 1
    { letters := "dp:qtuV"
      names := ["directory=d", "dry-run=u", "quiet=q", "suffix:", "tmpdir::"] } arguments
  if 1 < names.length then refuse "mktemp" 1 "too many templates"
  let fail {α : Type} (text : Octets) : Run α := do
    if !has given "q" then complain "mktemp" text
    Run.setStatus 1
    throw .failure
  let template := names.headD "tmp.XXXXXXXXXX"
  let hasFolder := names.isEmpty || has given "p" || has given "t" || has given "tmpdir"
  let standard := match (← Run.self).value? "TMPDIR" with
    | some (c :: cs) => c :: cs
    | _ => "/tmp"
  let folder : Octets := match valueOf? given "p", valueOf? given "tmpdir" with
    | some (c :: cs), _ => c :: cs
    | _, some (c :: cs) => c :: cs
    | _, _ => standard
  let reversed := template.reverse
  let ending := match valueOf? given "suffix" with
    | some text => text
    | none => (reversed.takeWhile (· ≠ 'X')).reverse
  if (valueOf? given "suffix").isSome && template.getLast? ≠ some 'X' then
    fail ("with --suffix, template " ++ quotedName template ++ " must end in X")
  let body := (reversed.dropWhile (· ≠ 'X')).reverse
  let count := (body.reverse.takeWhile (· == 'X')).length
  if count < 3 then fail ("too few X\x27s in template " ++ quotedName template)
  if ending.contains '/' then
    fail ("invalid suffix " ++ quotedName ending ++ ", contains directory separator")
  let start := body.take (body.length - count)
  if hasFolder && has given "t" && template.contains '/' then
    fail ("invalid template, " ++ quotedName template ++ ", contains directory separator")
  if hasFolder && template.head? = some '/' then
    fail ("invalid template, " ++ quotedName template ++
      "; with --tmpdir, it may not be absolute")
  let start := if hasFolder then folder ++ ['/'] ++ start else start
  let m ← Run.machine
  let name ← freeName start count ending 64 (m.nextProcess * 1000 + m.disk.files.length)
  let kind : Octets := if has given "d" then "directory" else "file"
  let shown := start ++ List.replicate count 'X' ++ ending
  match ← Run.placeOf name with
  | .error refusal => fail ("failed to create " ++ kind ++ " via template " ++ quotedName shown ++ ": " ++
      reason refusal)
  | .ok (path, _) =>
    if !has given "u" then
      if has given "d" then
        Run.modifyMachine fun m => (m.addFolder 18 path).setMode path 448
      else
        match m.disk.write path [] with
        | .ok disk => Run.modifyMachine fun m => { m with disk }.setMode path 384
        | .error fault =>
          fail ("failed to create " ++ kind ++ " via template " ++ quotedName shown ++ ": " ++
            reason (Refusal.ofFault fault))
    Run.printLine name
    return 0

end DocMend.Shell.Tool
