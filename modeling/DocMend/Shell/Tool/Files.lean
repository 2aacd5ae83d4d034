import DocMend.Shell.Tool.Date
import DocMend.Shell.Tool.Mode
import DocMend.Shell.Tool.Names
/-!
Tools that make, remove, copy, move and link files and folders.
-/

set_option autoImplicit false
set_option relaxedAutoImplicit false

namespace DocMend.Shell.Tool

/-- The names in a folder, in their order. -/
def childrenOf (path : Path) : Run (List Octets) := do
  return sortedTexts (((← Run.machine).entries path).map Octets.ofText)

/-- The name of something in a folder. -/
def inside (folder name : Octets) : Octets :=
  (if folder.getLast? = some '/' then folder else folder ++ ['/']) ++ name

/-- Asks a question; the answer is the next line of the input. -/
def confirms (tool question : Octets) : Run Bool := do
  let _ ← Run.write 2 (tool ++ ": " ++ question ++ "? ")
  match ← Run.available 0 with
  | .error _ => return false
  | .ok text =>
    let line := text.takeWhile (· ≠ '\n')
    Run.consume 0 (min text.length (line.length + 1))
    return line.head? = some 'y' || line.head? = some 'Y'

/-- What kind of thing a question is about. -/
def kindOf (thing : Thing) : Octets :=
  match thing with
  | .file [] => "regular empty file"
  | .file _ => "regular file"
  | .folder => "directory"
  | .link _ => "symbolic link"

/-- Makes one folder: why it cannot be made, if it cannot. -/
def makeOne (mode? : Option (List ModeChange)) (name : Octets) : Run (Option Refusal) := do
  match ← Run.placeOf (withoutSlashes name) false with
  | .error refusal => return some refusal
  | .ok (_, some _) => return some .exists
  | .ok (path, none) =>
    let mask := (← Run.self).mask
    Run.modifyMachine fun m =>
      let made := m.addFolder mask path
      match mode? with
      | some changes => made.setMode path (ModeChange.applyAll mask true changes 511)
      | none => made
    return none

/-- The names of the folders above a name, and the name itself. -/
def ladder (name : Octets) : List Octets :=
  let parts := Text.pieces '/' name
  let rec climb (before : Octets) (isFirst : Bool) : List Octets → List Octets
    | [] => []
    | part :: rest =>
      let here := if isFirst then part else before ++ ['/'] ++ part
      if part.isEmpty then climb here false rest else here :: climb here false rest
  climb [] true parts

/-- Makes folders. -/
def mkdir : Tool := fun arguments => do
  let (given, names) ← options "mkdir" 1
    { letters := "m:pvZ", names := ["mode=m", "parents=p", "verbose=v", "context::"] } arguments
  if names.isEmpty then refuse "mkdir" 1 "missing operand"
  let mode? ← match valueOf? given "m" with
    | none => pure none
    | some text =>
      match ModeChange.readAll text with
      | some changes => pure (some changes)
      | none => abandon "mkdir" 1 ("invalid mode " ++ quotedName text)
  let tell (name : Octets) : Run Unit := do
    if has given "v" then Run.printLine ("mkdir: created directory " ++ quotedName name)
  let wrong (name : Octets) (refusal : Refusal) : Run Unit :=
    complain "mkdir" ("cannot create directory " ++ quotedName name ++ ": " ++ reason refusal)
  let mut status := 0
  for name in names do
    if has given "p" then
      let steps := ladder (withoutSlashes name)
      if name.isEmpty then
        wrong name .missing
        status := 1
      let mut failed := false
      for step in steps do
        if !failed then
          if !(← Run.isFolder step) then
            let isLast := step.length = (withoutSlashes name).length
            match ← makeOne (if isLast then mode? else none) step with
            | none => tell step
            | some refusal =>
              wrong step (if refusal = .exists && !isLast then .notFolder else refusal)
              status := 1
              failed := true
    else
      match ← makeOne mode? name with
      | none => tell name
      | some refusal =>
        wrong name refusal
        status := 1
  return status

/-- Removes an empty folder: why it cannot be removed, if it cannot. -/
def removeFolder (name : Octets) : Run (Option Octets) := do
  match ← Run.placeOf name false with
  | .ok (path, some .folder) =>
    if (lastComponent name) == ['.'] then return some "Invalid argument".toList
    if !((← Run.machine).entries path).isEmpty then return some "Directory not empty".toList
    Run.modifyMachine fun m => m.erase path
    return none
  | .ok (_, some _) => return some (reason .notFolder)
  | .ok (_, none) => return some (reason .missing)
  | .error refusal => return some (reason refusal)

/-- Removes empty folders. -/
def rmdir : Tool := fun arguments => do
  let (given, names) ← options "rmdir" 1
    { letters := "pv"
      names := ["ignore-fail-on-non-empty", "parents=p", "path=p", "verbose=v"] } arguments
  if names.isEmpty then refuse "rmdir" 1 "missing operand"
  let mut status := 0
  for name in names do
    let steps := if has given "p" then (ladder (withoutSlashes name)).reverse else [name]
    let mut failed := false
    for step in steps do
      if !failed then
        if has given "v" then Run.printLine ("rmdir: removing directory, " ++ quotedName step)
        match ← removeFolder step with
        | none => pure ()
        | some text =>
          failed := true
          let ignored := has given "ignore-fail-on-non-empty" && text == "Directory not empty".toList
          if !ignored then
            complain "rmdir" ("failed to remove " ++
              (if step == name then [] else "directory ".toList) ++ quotedName step ++ ": " ++ text)
            status := 1
  return status

/-- How files are removed. -/
structure Removal where
  force : Bool
  asks : Bool
  deep : Bool
  emptyFolders : Bool
  tells : Bool

/-- Removes what a name stands for: whether that was possible. -/
def removeOne (r : Removal) : Nat → Octets → Run Bool
  | 0, _ => return false
  | fuel + 1, name => do
    let wrong (text : Octets) : Run Bool := do
      complain "rm" ("cannot remove " ++ quotedName name ++ ": " ++ text)
      return false
    match ← Run.placeOf name false with
    | .error refusal =>
      if r.force && (refusal = .missing || refusal = .notFolder) then return true
      wrong (reason refusal)
    | .ok (_, none) => if r.force then return true else wrong (reason .missing)
    | .ok (path, some .folder) =>
      let children ← childrenOf path
      if !r.deep && !(r.emptyFolders && children.isEmpty) then
        return ← wrong (if r.emptyFolders then "Directory not empty".toList else reason .isFolder)
      if r.asks && !children.isEmpty then
        if !(← confirms "rm" ("descend into directory " ++ quotedName name)) then return true
      let mut clean := true
      for child in children do
        if !(← removeOne r fuel (inside name child)) then clean := false
      if r.asks then
        if !(← confirms "rm" ("remove directory " ++ quotedName name)) then return clean
      if !((← Run.machine).entries path).isEmpty then
        if clean && r.asks then return ← wrong "Directory not empty"
        return clean
      Run.modifyMachine fun m => m.erase path
      if r.tells then Run.printLine ("removed directory " ++ quotedName name)
      return clean
    | .ok (path, some thing) =>
      if r.asks then
        if !(← confirms "rm" ("remove " ++ kindOf thing ++ " " ++ quotedName name)) then return true
      Run.modifyMachine fun m => m.erase path
      if r.tells then Run.printLine ("removed " ++ quotedName name)
      return true

/-- How deeply folders may stand in each other. -/
def deepestFolder : Nat := 4096

/-- Removes files, and folders where that is asked for. -/
def rm : Tool := fun arguments => do
  let (given, names) ← options "rm" 1
    { letters := "dfirvIR"
      names := ["dir=d", "force=f", "interactive::", "no-preserve-root", "one-file-system",
        "preserve-root::", "recursive=r", "verbose=v"] } arguments
  let manner := lastOf? given ["f", "i", "I", "interactive"]
  let asks := manner.any fun g =>
    g.key = "i" || g.key = "interactive" && (g.argument.isNone || g.argument == some "always".toList)
  let r : Removal :=
    { force := manner.any fun g => g.key == "f", asks, deep := has given "r" || has given "R"
      emptyFolders := has given "d", tells := has given "v" }
  if names.isEmpty then
    if has given "f" then return 0
    refuse "rm" 1 "missing operand"
  if has given "I" && !asks && !r.force && (3 < names.length || r.deep) then
    let count := Octets.ofNat names.length
    let question := "remove " ++ count ++ (if names.length = 1 then " argument" else " arguments") ++
      (if r.deep then " recursively" else "")
    if !(← confirms "rm" question) then return 0
  let mut status := 0
  for name in names do
    let last := lastComponent name
    if r.deep && (last == ['.'] || last == ['.', '.']) then
      complain "rm" ("refusing to remove \x27.\x27 or \x27..\x27 directory: skipping " ++ quotedName name)
      status := 1
    else if r.deep && !has given "no-preserve-root" && last == ['/'] then
      complain "rm" ("it is dangerous to operate recursively on " ++ quotedName name)
      complain "rm" "use --no-preserve-root to override this failsafe"
      status := 1
    else if !(← removeOne r deepestFolder name) then status := 1
  return status

/-- Removes the name of one file. -/
def unlink : Tool := fun arguments => do
  let (_, names) ← options "unlink" 1 {} arguments
  match names with
  | [] => refuse "unlink" 1 "missing operand"
  | _ :: extra :: _ => refuse "unlink" 1 ("extra operand " ++ marked extra)
  | [name] =>
    let wrong (refusal : Refusal) : Run Nat :=
      abandon "unlink" 1 ("cannot unlink " ++ quotedName name ++ ": " ++ reason refusal)
    match ← Run.placeOf name false with
    | .error refusal => wrong refusal
    | .ok (_, none) => wrong .missing
    | .ok (_, some .folder) => wrong .isFolder
    | .ok (path, some _) =>
      Run.modifyMachine fun m => m.erase path
      return 0

/-- Reads the digits of a stamp: month, day, hour and minute, with the year before them and the second
behind a point. -/
def readStamp (now : Moment) (text : Octets) : Option Moment :=
  let (digits, seconds) := text.span (· ≠ '.')
  let second? : Option Nat := match seconds with
    | [] => some 0
    | [_, a, b] => if a.isDigit && b.isDigit then some (Text.digitsValue [a, b]) else none
    | _ => none
  let year? : Option Int :=
    if digits.length = 8 then some now.date.year
    else if digits.length = 10 then some (DateReading.yearOf (digits.take 2))
    else if digits.length = 12 then some (Text.digitsValue (digits.take 4) : Int)
    else none
  let pair (n : Nat) : Nat := Text.digitsValue ((digits.drop (digits.length - 8 + n)).take 2)
  if !digits.all Char.isDigit then none
  else
    match year?, second? with
    | some year, some second =>
      let date : Calendar.Date := ⟨year, pair 0, pair 2⟩
      if date.isValid && pair 4 < 24 && pair 6 < 60 && second < 61 then
        some ⟨date.toDay * 86400 + (pair 4 * 3600 + pair 6 * 60 + second : Nat), 0⟩
      else none
    | _, _ => none

/-- Makes files that are missing, and sets the times of others. -/
def touch : Tool := fun arguments => do
  let (given, names) ← options "touch" 1
    { letters := "acd:fhmr:t:"
      names := ["date=d", "no-create=c", "no-dereference=h", "reference=r", "time:"] } arguments
  let now := Moment.ofThousandths (← Run.machine).now
  let moment? ← match lastOf? given ["d", "r", "t"] with
    | none => pure none
    | some g =>
      let text := g.argument.getD []
      let start ← match valueOf? given "r" with
        | some name =>
          match ← Run.placeOf name with
          | .ok (path, some _) =>
            pure (Moment.ofThousandths ((← Run.machine).timeOf path))
          | .ok (_, none) =>
            abandon "touch" 1 ("failed to get attributes of " ++ quotedName name ++ ": " ++
              reason .missing)
          | .error refusal =>
            abandon "touch" 1 ("failed to get attributes of " ++ quotedName name ++ ": " ++
              reason refusal)
        | none => pure now
      let moment? := if g.key = "r" then some start
        else if g.key = "t" then readStamp now text
        else readMoment start text
      match moment? with
      | some moment => pure (some moment)
      | none =>
        abandon "touch" 1 ("invalid date format " ++ quotedName text)
  if names.isEmpty then refuse "touch" 1 "missing file operand"
  let changes := !(has given "a" && !has given "m")
  let mut status := 0
  for name in names do
    let follows := !has given "h"
    let settle (path : Path) : Run Unit := do
      if changes then
        Run.modifyMachine fun m =>
          match moment? with
          | some moment =>
            let time := moment.seconds * 1000 + (moment.fraction / 1000000 : Nat)
            { m with times := setAt m.times path time }
          | none => { m with times := setAt m.times path m.now }
    match ← Run.placeOf name follows with
    | .ok (path, some _) => settle path
    | _ =>
      if !has given "c" && follows then
        match ← Run.openName name { writes := true, creates := true } with
        | .ok _ =>
          if moment?.isSome then
            match ← Run.locate name with
            | .ok path => settle path
            | .error _ => pure ()
        | .error refusal =>
          if refusal = .missing && name.getLast? = some '/' && name.length ≠ 1 &&
              (← Run.isFolder (withoutLast name)) then
            complain "touch" ("setting times of " ++ quotedName name ++ ": " ++ reason refusal)
          else complain "touch" ("cannot touch " ++ quotedName name ++ ": " ++ reason refusal)
          status := 1
  return status

/-- Cuts files, or lengthens them by zero bytes. -/
def truncate : Tool := fun arguments => do
  let (given, names) ← options "truncate" 1
    { letters := "cor:s:", names := ["no-create=c", "io-blocks=o", "reference=r", "size=s"] } arguments
  if !has given "s" && !has given "r" then
    refuse "truncate" 1 "you must specify either \x27--size\x27 or \x27--reference\x27"
  if names.isEmpty then refuse "truncate" 1 "missing file operand"
  let text := (valueOf? given "s").getD ['0']
  let (sign, digits) : Option Char × Octets := match text with
    | c :: rest => if "+-<>/%".toList.contains c then (some c, rest) else (none, text)
    | [] => (none, [])
  let amount ← match scaled? digits with
    | some n => pure n
    | none => abandon "truncate" 1 ("Invalid number: " ++ marked text)
  let base? ← match valueOf? given "r" with
    | none => pure none
    | some name =>
      match ← Run.readFile name with
      | .ok bytes => pure (some bytes.length)
      | .error refusal =>
        abandon "truncate" 1 ("cannot stat " ++ quotedName name ++ ": " ++ reason refusal)
  let mut status := 0
  for name in names do
    let isThere := match ← Run.placeOf name with
      | .ok (_, some _) => true
      | _ => false
    if isThere || !has given "c" then
      match ← Run.openName name { writes := true, creates := true } with
      | .error refusal =>
        complain "truncate" ("cannot open " ++ quotedName name ++ " for writing: " ++ reason refusal)
        status := 1
      | .ok _ =>
        match ← Run.readFile name, ← Run.locate name with
        | .ok bytes, .ok path =>
          let old := base?.getD bytes.length
          let size := match sign with
            | some '+' => old + amount
            | some '-' => old - amount
            | some '<' => min old amount
            | some '>' => max old amount
            | some '/' => if amount = 0 then old else old / amount * amount
            | some '%' => if amount = 0 then old else (old + amount - 1) / amount * amount
            | _ => if has given "s" then amount else old
          Run.modifyMachine fun m =>
            m.replace path (bytes.take size ++ List.replicate (size - bytes.length) '\x00')
        | _, _ => pure ()
  return status

/-- How files are copied or moved. -/
structure Transfer where
  tool : Octets
  moves : Bool
  deep : Bool := false
  /-- Whether links are followed, and whether they are where they stand in folders. -/
  follows : Bool := true
  followsInside : Bool := false
  preserves : Bool := false
  keepsOld : Bool := false
  onlyNewer : Bool := false
  asks : Bool := false
  tells : Bool := false
  force : Bool := false
  backups : Option Octets := none
  /-- Whether links are made in place of copies. -/
  symbolic : Bool := false
  hard : Bool := false
  /-- The folder that the copies are put into, with the names of the source and of that folder. -/
  top? : Option (Path × Octets × Octets) := none

namespace Transfer

/-- Notes what was done. -/
def tell (t : Transfer) (source target : Octets) : Run Unit := do
  if t.tells then
    Run.printLine ((if t.moves then "renamed " else "") ++ quotedName source ++ " -> " ++
      quotedName target)

/-- Complains. -/
def wrong (t : Transfer) (text : Octets) : Run Bool := do
  complain t.tool text
  return false

/-- Puts the old file at a path away under another name, if that is asked for. -/
def putAway (t : Transfer) (path : Path) : Run Unit := do
  match t.backups with
  | none => pure ()
  | some ending =>
    let other := path.dropLast ++ [path.baseName ++ Octets.toText ending]
    Run.modifyMachine fun m => (m.erase other).move path other

/-- Whether a file may be put in the place of another one. -/
def mayReplace (t : Transfer) (path other : Path) (target : Octets) : Run Bool := do
  if t.keepsOld then return false
  let m ← Run.machine
  if t.onlyNewer && m.timeOf path ≤ m.timeOf other then return false
  if t.asks then
    return ← confirms t.tool ("overwrite " ++ quotedName target)
  return true

/-- Copies what a name stands for to another name: whether that was possible. -/
def copy (t : Transfer) : Nat → (isTop : Bool) → (source target : Octets) → Run Bool
  | 0, _, _, _ => return false
  | fuel + 1, isTop, source, target => do
    let follows := if isTop then t.follows else t.followsInside
    match ← Run.placeOf source follows with
    | .error refusal =>
      t.wrong ("cannot stat " ++ quotedName source ++ ": " ++ reason refusal)
    | .ok (_, none) =>
      t.wrong ("cannot stat " ++ quotedName source ++ ": " ++ reason .missing)
    | .ok (path, some thing) =>
      if thing == .folder && !t.deep then
        return ← t.wrong ("-r not specified; omitting directory " ++ quotedName source)
      match ← Run.placeOf target (thing != .folder && follows) with
      | .error refusal =>
        let kind : Octets := if thing == .folder then "directory " else "regular file "
        let isPlain := refusal = .missing && target.getLast? = some '/' && thing != .folder
        t.wrong ("cannot create " ++ kind ++ quotedName target ++ ": " ++
          reason (if isPlain && (← Run.isFolder (withoutLast target)) then .notFolder else refusal))
      | .ok (other, old?) =>
        if path == other && old?.isSome then
          return ← t.wrong (quotedName source ++ " and " ++ quotedName target ++ " are the same file")
        match thing, old? with
        | .folder, _ =>
          match t.top? with
          | some (top, first, second) =>
            if path == top then
              return ← t.wrong ("cannot copy a directory, " ++ quotedName first ++ ", into itself, " ++
                quotedName second)
          | none => pure ()
          let t := if isTop then { t with top? := some (other, source, target) } else t
          match old? with
          | some .folder => pure ()
          | some _ =>
            return ← t.wrong ("cannot overwrite non-directory " ++ quotedName target ++
              " with directory " ++ quotedName source)
          | none =>
            let mask := (← Run.self).mask
            Run.modifyMachine fun m =>
              let made := m.addFolder mask other
              let mode := if t.preserves then m.modeOf path else withoutBits (m.modeOf path) mask
              if mode = made.modeOf other then made else made.setMode other mode
            t.tell source target
          let mut clean := true
          for child in ← childrenOf path do
            if !(← copy t fuel false (inside source child) (inside target child)) then clean := false
          if t.preserves then
            Run.modifyMachine fun m => { m with times := setAt m.times other (m.timeOf path) }
          return clean
        | _, some .folder =>
          t.wrong ("cannot overwrite directory " ++ quotedName target ++ " with non-directory")
        | thing, old? =>
          let m ← Run.machine
          let isDangling ← if old?.isSome then pure false else
            match ← Run.placeOf target false with
            | .ok (_, some (.link _)) => pure true
            | _ => pure false
          if isDangling then
            return ← t.wrong ("not writing through dangling symlink " ++ quotedName target)
          if old?.isSome then
            if !(← t.mayReplace path other target) then return true
            t.putAway other
          if t.symbolic then
            Run.modifyMachine fun m => (m.erase other).addLink other source
          else if t.hard then
            Run.modifyMachine fun m => (m.erase other).addTwin path other
          else
            match thing with
            | .link text => Run.modifyMachine fun m => (m.erase other).addLink other text
            | .file bytes =>
              match m.disk.writable other with
              | .error fault =>
                return ← t.wrong ("cannot create regular file " ++ quotedName target ++ ": " ++
                  reason (Refusal.ofFault fault))
              | .ok () =>
                let mask := (← Run.self).mask
                Run.modifyMachine fun m =>
                  let mode := if t.preserves then m.modeOf path
                    else if old?.isSome && t.backups.isNone then m.modeOf other
                    else withoutBits (m.modeOf path) mask
                  let m := if old?.isSome then m
                    else { m with disk := { m.disk with files := setAt m.disk.files other [] } }
                  let written := m.replace other (Octets.ofBytes bytes)
                  let written := if mode = written.modeOf other then written
                    else written.setMode other mode
                  if t.preserves then
                    { written with times := setAt written.times other (m.timeOf path) }
                  else written
            | .folder => pure ()
          t.tell source target
          return true

/-- Moves what a name stands for to another name: whether that was possible. -/
def move (t : Transfer) (source target : Octets) : Run Bool := do
  match ← Run.placeOf (withoutSlashes source) false with
  | .error refusal => t.wrong ("cannot stat " ++ quotedName source ++ ": " ++ reason refusal)
  | .ok (_, none) => t.wrong ("cannot stat " ++ quotedName source ++ ": " ++ reason .missing)
  | .ok (path, some thing) =>
    let fails (text : Octets) : Run Bool :=
      t.wrong ("cannot move " ++ quotedName source ++ " to " ++ quotedName target ++ ": " ++ text)
    let plain := if thing == .folder then withoutSlashes target else target
    match ← Run.placeOf plain false with
    | .error refusal =>
      let isPlain := refusal = .missing && target.getLast? = some '/'
      fails (reason (if isPlain && (← Run.isFolder (withoutLast target)) then .notFolder else refusal))
    | .ok (other, old?) =>
      if path == other then
        return ← t.wrong (quotedName source ++ " and " ++ quotedName target ++ " are the same file")
      if path.isPrefixOf other then
        return ← t.wrong ("cannot move " ++ quotedName source ++ " to a subdirectory of itself, " ++
          quotedName target)
      match thing, old? with
      | .folder, some .folder =>
        if !((← Run.machine).entries other).isEmpty then return ← fails "Directory not empty"
        Run.modifyMachine fun m => (m.erase other).move path other
      | .folder, some _ =>
        return ← t.wrong ("cannot overwrite non-directory " ++ quotedName target ++
          " with directory " ++ quotedName source)
      | _, some .folder =>
        return ← t.wrong ("cannot overwrite directory " ++ quotedName target ++
          " with non-directory")
      | _, some _ =>
        if (← Run.machine).namesAt path |>.contains other then
          return ← t.wrong (quotedName source ++ " and " ++ quotedName target ++ " are the same file")
        if !(← t.mayReplace path other target) then return true
        t.putAway other
        Run.modifyMachine fun m => (m.erase other).move path other
      | _, none => Run.modifyMachine fun m => m.move path other
      t.tell source target
      return true

end Transfer

/-- The operands of a tool that puts files somewhere: the sources, and the target that is a folder, or
a name in its own right. -/
def readTargets (tool : Octets) (given : List Given) (names : List Octets) :
    Run (List Octets × Octets × Bool) := do
  if names.isEmpty then refuse tool 1 "missing file operand"
  match valueOf? given "t" with
  | some folder =>
    match ← Run.placeOf folder with
    | .ok (_, some .folder) => return (names, folder, true)
    | .ok (_, some _) =>
      abandon tool 1 ("target directory " ++ quotedName folder ++ ": " ++ reason .notFolder)
    | .ok (_, none) =>
      abandon tool 1 ("target directory " ++ quotedName folder ++ ": " ++ reason .missing)
    | .error refusal =>
      abandon tool 1 ("target directory " ++ quotedName folder ++ ": " ++ reason refusal)
  | none =>
    match names.getLast?, names.dropLast with
    | some target, source :: others =>
      if has given "T" then
        match names[2]? with
        | some extra => refuse tool 1 ("extra operand " ++ quotedName extra)
        | none => return ([source], target, false)
      if ← Run.isFolder target then return (source :: others, target, true)
      if !others.isEmpty then
        match ← Run.placeOf target with
        | .ok (_, some _) =>
          abandon tool 1 ("target " ++ quotedName target ++ ": " ++ reason .notFolder)
        | .ok (_, none) =>
          abandon tool 1 ("target " ++ quotedName target ++ ": " ++ reason .missing)
        | .error refusal =>
          abandon tool 1 ("target " ++ quotedName target ++ ": " ++ reason refusal)
      return ([source], target, false)
    | some name, [] =>
      refuse tool 1 ("missing destination file operand after " ++ quotedName name)
    | none, _ => refuse tool 1 "missing file operand"

/-- The ending of the names of files that are put away, if they are. -/
def backupOf (given : List Given) : Option Octets :=
  if has given "b" || has given "S" || has given "backup" then
    some ((valueOf? given "S").getD ['~'])
  else none

/-- Copies files. -/
def cp : Tool := fun arguments => do
  let (given, names) ← options "cp" 1
    { letters := "abdfHilLnprst:uvxPRS:TZ"
      names := ["archive=a", "attributes-only", "backup::", "copy-contents", "dereference=L", "force=f",
        "interactive=i", "link=l", "no-clobber=n", "no-dereference=P", "no-preserve:",
        "no-target-directory=T", "one-file-system=x", "parents", "path", "preserve::",
        "recursive=R", "reflink::", "remove-destination", "sparse:", "strip-trailing-slashes",
        "suffix=S", "symbolic-link=s", "target-directory=t", "update::", "verbose=v", "context::"] }
    arguments
  let (sources, target, isInside) ← readTargets "cp" given names
  let deep := has given "r" || has given "R" || has given "a"
  let links := lastOf? given ["L", "P", "d", "a", "H"]
  let follows := match links with
    | some g => g.key = "L" || g.key = "H"
    | none => !deep
  let t : Transfer :=
    { tool := "cp", moves := false, deep, follows, tells := has given "v"
      followsInside := links.any fun g => g.key == "L"
      preserves := has given "p" || has given "a" || has given "preserve"
      keepsOld := (lastOf? given ["n", "i", "f"]).any fun g => g.key == "n"
      asks := (lastOf? given ["n", "i"]).any fun g => g.key == "i"
      onlyNewer := has given "u" || has given "update", force := has given "f"
      backups := backupOf given, symbolic := has given "s", hard := has given "l" }
  let mut status := 0
  let mut seen : List Octets := []
  for source in sources do
    if seen.contains source && t.backups.isNone then
      let isFolder ← Run.isFolder source
      if !isFolder || deep then
        complain "cp" ("warning: source " ++ (if isFolder then "directory " else "file ") ++
          quotedName source ++ " specified more than once")
        continue
    seen := source :: seen
    let goal ← do
      if !isInside then pure target
      else if has given "parents" then do
        let folder := inside target (withoutLast source)
        for step in ladder folder do
          if !(← Run.isFolder step) then
            let _ ← makeOne none step
        pure (inside target source)
      else
        let last := lastComponent source
        pure (if last == ['.'] || last == ['.', '.'] then target ++ ['/', '.'] else inside target last)
    if !(← t.copy deepestFolder true source goal) then status := 1
  return status

/-- Moves files. -/
def mv : Tool := fun arguments => do
  let (given, names) ← options "mv" 1
    { letters := "bfint:uvS:TZ"
      names := ["backup::", "context", "force=f", "interactive=i", "no-clobber=n", "no-copy",
        "no-target-directory=T", "strip-trailing-slashes", "suffix=S", "target-directory=t",
        "update::", "verbose=v"] } arguments
  let (sources, target, isInside) ← readTargets "mv" given names
  let manner := lastOf? given ["f", "i", "n"]
  let t : Transfer :=
    { tool := "mv", moves := true, tells := has given "v"
      keepsOld := manner.any fun g => g.key == "n", asks := manner.any fun g => g.key == "i"
      onlyNewer := has given "u" || has given "update", backups := backupOf given }
  let mut status := 0
  for source in sources do
    let goal := if isInside then inside target (lastComponent source) else target
    if !(← t.move source goal) then status := 1
  return status

/-- Makes one link: whether that was possible. -/
def linkOne (given : List Given) (source target : Octets) : Run Bool := do
  let symbolic := has given "s"
  let kind : Octets := if symbolic then "symbolic link" else "hard link"
  let wrong (text : Octets) : Run Bool := do
    complain "ln" text
    return false
  let thing? ← Run.placeOf source (has given "L")
  let refused? : Option Octets ← if symbolic then pure none else
    match thing? with
    | .ok (_, some .folder) => pure (some (source ++ ": hard link not allowed for directory"))
    | .ok (_, some _) => pure none
    | .ok (_, none) =>
      pure (some ("failed to access " ++ quotedName source ++ ": " ++ reason .missing))
    | .error refusal =>
      pure (some ("failed to access " ++ quotedName source ++ ": " ++ reason refusal))
  match refused? with
  | some text => wrong text
  | none =>
    let fails (refusal : Refusal) : Run Bool :=
      wrong ("failed to create " ++ kind ++ " " ++ quotedName target ++
        (if symbolic || refusal = .exists then [] else " => ".toList ++ quotedName source) ++
        ": " ++ reason refusal)
    match ← Run.placeOf target false with
    | .error refusal => fails refusal
    | .ok (path, old?) =>
      if old?.isSome then
        if has given "i" then
          if !(← confirms "ln" ("replace " ++ quotedName target)) then return true
        else if !has given "f" && (backupOf given).isNone then return ← fails .exists
        if old? == some .folder then
          return ← wrong (target ++ ": cannot overwrite directory")
        let isSame := match thing? with
          | .ok (other, some _) => other == path
          | _ => false
        if isSame then
          return ← wrong (quotedName source ++ " and " ++ quotedName target ++ " are the same file")
        match backupOf given with
        | some ending =>
          let away := path.dropLast ++ [path.baseName ++ Octets.toText ending]
          Run.modifyMachine fun m => (m.erase away).move path away
        | none => Run.modifyMachine fun m => m.erase path
      match (← Run.machine).disk.writable path with
      | .error fault => fails (Refusal.ofFault fault)
      | .ok () =>
        if symbolic then
          let m ← Run.machine
          let folder := (← Run.self).folder
          let text := if !has given "r" then source
            else
              match m.canonical folder .everything (Octets.toText source) with
              | .ok place => relative path.dropLast place
              | .error _ => source
          Run.modifyMachine fun m => m.addLink path text
        else
          match thing? with
          | .ok (place, _) =>
            Run.modifyMachine fun m =>
              match m.link? place with
              | some text => m.addLink path text
              | none => m.addTwin place path
          | .error _ => pure ()
        if has given "v" then
          Run.printLine (quotedName target ++ (if symbolic then " -> " else " => ") ++
            quotedName source)
        return true

/-- Makes links. -/
def ln : Tool := fun arguments => do
  let (given, names) ← options "ln" 1
    { letters := "bdfFiLnPrst:vS:T"
      names := ["backup::", "directory=d", "force=f", "interactive=i", "logical=L",
        "no-dereference=n", "no-target-directory=T", "physical=P", "relative=r", "suffix=S",
        "symbolic=s", "target-directory=t", "verbose=v"] } arguments
  let isLink (name : Octets) : Run Bool := do
    match ← Run.placeOf name false with
    | .ok (_, some (.link _)) => return true
    | _ => return false
  let (sources, target, isInside) ← do
    match names, valueOf? given "t" with
    | [name], none =>
      if has given "T" then
        refuse "ln" 1 ("missing destination file operand after " ++ quotedName name)
      pure ([name], ['.'], true)
    | [source, target], none =>
      if has given "n" && (← isLink target) then pure ([source], target, false)
      else readTargets "ln" given names
    | _, _ => readTargets "ln" given names
  let mut status := 0
  for source in sources do
    let goal := if !isInside then target
      else if target == ['.'] && names.length = 1 then "./".toList ++ lastComponent source
      else inside target (lastComponent source)
    if !(← linkOne given source goal) then status := 1
  return status

/-- Gives one file a second name. -/
def link : Tool := fun arguments => do
  let (_, names) ← options "link" 1 {} arguments
  match names with
  | [] => refuse "link" 1 "missing operand"
  | [name] => refuse "link" 1 ("missing operand after " ++ marked name)
  | _ :: _ :: extra :: _ => refuse "link" 1 ("extra operand " ++ marked extra)
  | [source, target] =>
    let wrong (refusal : Refusal) : Run Nat :=
      abandon "link" 1 ("cannot create link " ++ quotedName target ++ " to " ++ quotedName source ++
        ": " ++ reason refusal)
    match ← Run.placeOf source false, ← Run.placeOf target false with
    | .error refusal, _ => wrong refusal
    | _, .error refusal => wrong refusal
    | .ok (_, none), _ => wrong .missing
    | _, .ok (_, some _) => wrong .exists
    | .ok (path, some _), .ok (other, none) =>
      Run.modifyMachine fun m => m.addTwin path other
      return 0

/-- Changes the mode of what a name stands for, and of what is below it. -/
def chmodOne (given : List Given) (changes : List ModeChange) : Nat → (isTop : Bool) → Octets → Run Bool
  | 0, _, _ => return false
  | fuel + 1, isTop, name => do
    match ← Run.placeOf name with
    | .error refusal =>
      if !has given "f" then
        complain "chmod" ("cannot access " ++ quotedName name ++ ": " ++ reason refusal)
      return false
    | .ok (path, none) =>
      let isLink := match ← Run.placeOf name false with
        | .ok (_, some (.link _)) => true
        | _ => false
      if !isTop && isLink then return true
      if !has given "f" then
        let _ := path
        complain "chmod" (if isLink then "cannot operate on dangling symlink " ++ quotedName name
          else "cannot access " ++ quotedName name ++ ": " ++ reason .missing)
      return false
    | .ok (path, some thing) =>
      let m ← Run.machine
      let old := m.modeOf path
      let new := ModeChange.applyAll (← Run.self).mask (thing == .folder) changes old
      Run.modifyMachine fun m => m.setMode path new
      let shown (mode : Nat) : Octets := octalMode mode ++ " (" ++ modeLetters mode ++ ")"
      if old ≠ new && (has given "v" || has given "c") then
        Run.printLine ("mode of " ++ quotedName name ++ " changed from " ++ shown old ++ " to " ++
          shown new)
      else if has given "v" then
        Run.printLine ("mode of " ++ quotedName name ++ " retained as " ++ shown old)
      let mut clean := true
      if has given "R" && thing == .folder then
        for child in ← childrenOf path do
          match ← Run.placeOf (inside name child) false with
          | .ok (_, some (.link _)) => pure ()
          | _ => if !(← chmodOne given changes fuel false (inside name child)) then clean := false
      return clean

/-- Changes what may be done with files. -/
def chmod : Tool := fun arguments => do
  -- A mode may begin with a hyphen.
  let isMode (word : Octets) : Bool := match word with
    | '-' :: c :: _ => "rwxXstugoa,+=0123456789".toList.contains c && (ModeChange.readAll word).isSome
    | _ => false
  let ended := arguments.takeWhile (· ≠ ['-', '-'])
  let hyphenMode := ended.find? isMode
  let rest := match hyphenMode with
    | some word => arguments.erase word
    | none => arguments
  let (given, operands) ← options "chmod" 1
    { letters := "cfhRv"
      names := ["changes=c", "quiet=f", "silent=f", "verbose=v", "no-preserve-root", "preserve-root",
        "reference:", "recursive=R"] } rest
  let reference? ← match valueOf? given "reference" with
    | none => pure none
    | some name =>
      match ← Run.placeOf name with
      | .ok (path, some _) => pure (some ((← Run.machine).modeOf path))
      | _ =>
        abandon "chmod" 1 ("failed to get attributes of " ++ quotedName name ++ ": " ++ reason .missing)
  let (mode?, names) : Option Octets × List Octets := match reference?, hyphenMode, operands with
    | some _, _, names => (none, names)
    | none, some mode, names => (some mode, names)
    | none, none, mode :: names => (some mode, names)
    | none, none, [] => (none, [])
  if names.isEmpty then
    match mode? with
    | some mode => refuse "chmod" 1 ("missing operand after " ++ quotedName mode)
    | none => refuse "chmod" 1 "missing operand"
  let changes ← match reference?, mode? with
    | some mode, _ => pure [(⟨allBits, false, '=', .bits mode false⟩ : ModeChange)]
    | none, mode? =>
      let text := mode?.getD []
      match ModeChange.readAll text with
      | some changes => pure changes
      | none => refuse "chmod" 1 ("invalid mode: " ++ quotedName text)
  let mut status := 0
  for name in names do
    if !(← chmodOne given changes deepestFolder true name) then status := 1
  return status

end DocMend.Shell.Tool
