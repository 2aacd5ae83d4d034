import DocMend.Shell.Checksum
import DocMend.Shell.Print.Decimal
import DocMend.Shell.Tool.Show
/-!
Tools that print checksums of files, and compare files with checksums that were written before.
-/

set_option autoImplicit false
set_option relaxedAutoImplicit false

namespace DocMend.Shell.Tool

/-- A checksum: its label, how many digits it has, and how it is computed. -/
structure Digest where
  label : String
  size : Nat
  compute : Octets → Octets

namespace Digest

/-- The checksums that have a tool of their own, with its name. -/
def all : List (String × Digest) :=
  [("md5sum", ⟨"MD5", 32, Checksum.md5⟩), ("sha1sum", ⟨"SHA1", 40, Checksum.sha1⟩),
   ("sha224sum", ⟨"SHA224", 56, Checksum.sha224⟩), ("sha256sum", ⟨"SHA256", 64, Checksum.sha256⟩),
   ("sha384sum", ⟨"SHA384", 96, Checksum.sha384⟩), ("sha512sum", ⟨"SHA512", 128, Checksum.sha512⟩)]

/-- The characters of names that are written with a backslash in lines of checksums. -/
def nameEscapes : List (Char × Char) :=
  [('\\', '\\'), ('\n', 'n'), ('\r', 'r')]

/-- A name as it stands in a line of checksums. -/
def escapedName (name : Octets) : Octets :=
  name.flatMap fun c => match nameEscapes.lookup c with
    | some letter => ['\\', letter]
    | none => [c]

/-- The name that stands in a line of checksums. -/
def plainName? : Octets → Option Octets
  | [] => some []
  | '\\' :: letter :: rest =>
    match nameEscapes.find? fun entry => entry.2 == letter with
    | some (c, _) => (plainName? rest).map (c :: ·)
    | none => none
  | ['\\'] => none
  | c :: rest => (plainName? rest).map (c :: ·)

/-- How checksums are written. -/
structure Writing where
  tagged : Bool
  binary : Bool
  finish : Char

/-- The line of a checksum. -/
def line (d : Digest) (w : Writing) (name sum : Octets) : Octets :=
  let isPlain := w.finish != '\n' || !(name.any fun c => (nameEscapes.lookup c).isSome)
  let shown := if isPlain then name else escapedName name
  (if isPlain then [] else ['\\']) ++
    (if w.tagged then d.label.toList ++ " (".toList ++ shown ++ ") = ".toList ++ sum
    else sum ++ (if w.binary then " *".toList else "  ".toList) ++ shown) ++ [w.finish]

/-- Reads the line of a checksum: its digits, and the name of the file. -/
def readLine? (d : Digest) (line : Octets) : Option (Octets × Octets) := do
  let cs := line.dropWhile Octets.isBlank
  let isEscaped := cs.head? = some '\\'
  let cs := if isEscaped then cs.drop 1 else cs
  let isSum (sum : Octets) : Bool :=
    sum.length == d.size && sum.all fun c => (Octets.digit? 16 c).isSome
  let named (name : Octets) : Option Octets := if isEscaped then plainName? name else some name
  match Text.afterStart? (d.label.toList ++ [' ', '(']) cs with
  | some rest =>
    let back := rest.reverse
    let sum := (back.takeWhile (· ≠ ' ')).reverse
    let before ← Text.afterStart? " = )".toList (back.drop sum.length)
    if isSum sum then return (sum, ← named before.reverse) else none
  | none =>
    let sum := cs.takeWhile fun c => (Octets.digit? 16 c).isSome
    match cs.drop sum.length with
    | c :: d :: name =>
      if !isSum sum || !Octets.isBlank c then none
      else if d == ' ' || d == '*' then (if name.isEmpty then none else return (sum, ← named name))
      else return (sum, ← named (d :: name))
    | _ => none

end Digest

/-- The options of the tools for checksums. -/
def digestOptions : Options where
  letters := "bctwz"
  names := ["binary=b", "check=c", "ignore-missing", "text=t", "warn=w", "zero=z", "tag", "quiet",
    "status", "strict"]

/-- A number of things with a verb, in the singular or the plural. -/
def counted (n : Nat) (one many : String) : Octets :=
  Octets.ofNat n ++ (if n = 1 then one else many).toList

/-- Compares files with the checksums in a list. -/
def checkDigests (tool : Octets) (d : Digest) (given : List Given) (list : Octets) : Run Bool := do
  let shown := if list == ['-'] then "standard input".toList else list
  let text ← match ← readSource list with
    | .ok text => pure text
    | .error refusal =>
      complain tool (shownName shown ++ ": " ++ reason refusal)
      return false
  let status := has given "status"
  let mut proper := 0
  let mut improper := 0
  let mut wrong := 0
  let mut unread := 0
  let mut verified := false
  for (line, n) in (Octets.lines text).zip (List.range text.length) do
    let line := if line.getLast? = some '\r' then line.dropLast else line
    if line.head? ≠ some '#' && !line.isEmpty then
      match d.readLine? line with
      | none =>
        improper := improper + 1
        if has given "w" then
          complain tool (shownName shown ++ ": " ++ Octets.ofNat (n + 1) ++ ": improperly formatted " ++
            d.label.toList ++ " checksum line")
      | some (sum, name) =>
        proper := proper + 1
        match ← readSource name with
        | .error refusal =>
          if !(has given "ignore-missing" && refusal = .missing) then
            complain tool (shownName name ++ ": " ++ reason refusal)
            unread := unread + 1
            if !status then Run.printLine (name ++ ": FAILED open or read")
        | .ok bytes =>
          let isSame := d.compute bytes == sum.map Char.toLower
          if isSame then verified := true else wrong := wrong + 1
          if !status && !(isSame && has given "quiet") then
            Run.printLine (name ++ (if isSame then ": OK" else ": FAILED"))
  if proper = 0 then
    complain tool (shownName shown ++ ": no properly formatted checksum lines found")
    return false
  let missing := has given "ignore-missing" && !verified && wrong = 0
  if !status then
    let warn (text : Octets) : Run Unit := complain tool ("WARNING: " ++ text)
    if improper ≠ 0 then
      warn (counted improper " line is improperly formatted" " lines are improperly formatted")
    if unread ≠ 0 then
      warn (counted unread " listed file could not be read" " listed files could not be read")
    if wrong ≠ 0 then
      warn (counted wrong " computed checksum did NOT match" " computed checksums did NOT match")
    if missing then complain tool (shownName shown ++ ": no file was verified")
  return wrong = 0 && unread = 0 && !missing && (improper = 0 || !has given "strict")

/-- Prints or compares checksums. -/
def digest (name : String) (d : Digest) : Tool := fun arguments => do
  let (given, names) ← options name 1 digestOptions arguments
  let tool : Octets := name.toList
  let checks := has given "c"
  if checks then
    if has given "tag" then
      refuse tool 1 "the --tag option is meaningless when verifying checksums"
    if has given "z" then
      refuse tool 1 "the --zero option is not supported when verifying checksums"
    if has given "b" || has given "t" then
      refuse tool 1 "the --binary and --text options are meaningless when verifying checksums"
  else
    for key in ["ignore-missing", "status", "w", "quiet", "strict"] do
      if has given key then
        let shown := if key = "w" then "warn" else key
        refuse tool 1 ("the --" ++ shown.toList ++
          " option is meaningful only when verifying checksums")
  let names := if names.isEmpty then [['-']] else names
  let mut status := 0
  for file in names do
    if checks then
      if !(← checkDigests tool d given file) then status := 1
    else
      match ← readSource file with
      | .error refusal =>
        complain tool (shownName file ++ ": " ++ reason refusal)
        status := 1
      | .ok text =>
        let w : Digest.Writing := ⟨has given "tag", has given "b", finishOf given⟩
        Run.print (d.line w file (d.compute text))
  return status

/-- Prints sums of bytes and how many blocks there are. -/
def sum : Tool := fun arguments => do
  let (given, names) ← options "sum" 1 { letters := "rs", names := ["sysv=s"] } arguments
  let plain := (lastOf? given ["r", "s"]).any fun g => g.key == "s"
  let mut status := 0
  for name in if names.isEmpty then [['-']] else names do
    match ← readSource name with
    | .error refusal =>
      complain "sum" (shownName name ++ ": " ++ reason refusal)
      status := 1
    | .ok text =>
      let size := if plain then 512 else 1024
      let blocks := Octets.ofNat ((text.length + size - 1) / size)
      let shown : Octets := if names.isEmpty then [] else ' ' :: name
      Run.printLine (
        if plain then Octets.ofNat (Checksum.folded text) ++ [' '] ++ blocks ++ shown
        else Decimal.padded 5 (Octets.ofNat (Checksum.turning text)) ++ [' '] ++ toRight 5 blocks ++ shown)
  return status

/-- Prints remainders of files by a polynomial, or other checksums. -/
def cksum : Tool := fun arguments => do
  let (given, names) ← options "cksum" 1
    { digestOptions with
      letters := "a:bctwz"
      names := digestOptions.names ++ ["algorithm=a", "untagged"] } arguments
  let kinds := ["bsd", "sysv", "crc", "md5", "sha1", "sha224", "sha256", "sha384", "sha512",
    "blake2b", "sm3"]
  let kind := (valueOf? given "a").getD "crc"
  match Digest.all.find? fun entry => entry.1.toList == kind ++ "sum".toList with
  | some (_, d) =>
    let others := given.filter fun g => g.key != "a" && g.key != "untagged"
    let tags : List Octets := if has given "untagged" || has given "c" then [] else ["--tag"]
    let words := others.map fun g =>
      if g.key.length = 1 then '-' :: g.key.toList else "--".toList ++ g.key.toList
    digest "cksum" d (tags ++ words ++ [['-', '-']] ++ names)
  | none =>
    if kind == "bsd".toList then sum (['-', '-'] :: names)
    else if kind == "sysv".toList then sum (['-', 's'] :: ['-', '-'] :: names)
    else if kind != "crc".toList then
      complain "cksum" ("invalid argument " ++ marked kind ++ " for " ++ marked "--algorithm")
      Run.note "Valid arguments are:"
      for other in kinds do
        Run.note ("  - " ++ marked other.toList)
      giveUp "cksum" 1
    else
      let mut status := 0
      for name in if names.isEmpty then [['-']] else names do
        match ← readSource name with
        | .error refusal =>
          complain "cksum" (shownName name ++ ": " ++ reason refusal)
          status := 1
        | .ok text =>
          Run.printLine (Octets.ofNat (Checksum.crc text) ++ [' '] ++ Octets.ofNat text.length ++
            (if names.isEmpty then [] else ' ' :: name))
      return status

end DocMend.Shell.Tool
