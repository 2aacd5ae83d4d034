import DocMend.Shell.Pattern
import DocMend.Shell.Print.Format
import DocMend.Shell.Tool.Files
import DocMend.Shell.Tool.Version
/-!
Tools that list files and what is known of them. A folder is listed by its contents; entries whose
names begin with a point are left out unless they are asked for.
-/

set_option autoImplicit false
set_option relaxedAutoImplicit false

namespace DocMend.Shell

/-- What is known of a file. -/
structure Details where
  name : Octets
  path : Path
  thing : Thing
  size : Nat
  mode : Nat
  names : Nat
  time : Moment

namespace Details

/-- How many units of 512 bytes the bytes of a file take up. -/
def blocks (d : Details) : Nat :=
  match d.thing with
  | .link _ => 0
  | _ => (d.size + 4095) / 4096 * 8

/-- The letter for the kind of a file. -/
def letter (d : Details) : Char :=
  match d.thing with
  | .file _ => '-'
  | .folder => 'd'
  | .link _ => 'l'

/-- The kind of a file and what may be done with it, as ten letters. -/
def letters (d : Details) : Octets :=
  d.letter :: Tool.modeLetters d.mode

/-- The bits that stand for the kind of a file. -/
def kindBits (d : Details) : Nat :=
  match d.thing with
  | .file _ => 32768
  | .folder => 16384
  | .link _ => 40960

/-- The kind of a file in words. -/
def kind (d : Details) : String :=
  match d.thing with
  | .file [] => "regular empty file"
  | .file _ => "regular file"
  | .folder => "directory"
  | .link _ => "symbolic link"

end Details

namespace Machine

/-- What is known of the thing at a path. -/
def detailsOf (m : Machine) (name : Octets) (path : Path) (thing : Thing) : Details :=
  let size := match thing with
    | .file bytes => bytes.length
    | .folder => 4096
    | .link text => text.length
  let names := match thing with
    | .folder =>
      2 + ((m.entries path).filter fun child =>
        m.thing? (path ++ [child]) == some .folder).length
    | _ => (m.namesAt path).length
  let mode := match thing with
    | .link _ => 511
    | _ => m.modeOf path
  ⟨name, path, thing, size, mode, names, Moment.ofThousandths (m.timeOf path)⟩

/-- A number that tells the thing at a path from all others. -/
def numberOf (m : Machine) (path : Path) : Nat :=
  let all := m.disk.files.map Prod.fst ++ m.disk.folders ++ m.links.map Prod.fst
  let first := (m.namesAt path).getLast?.getD path
  524288 + (all.findIdx fun other => other == first)

end Machine

namespace Tool

/-- A number of bytes for human readers: at most three digits and a unit, rounded up. -/
def humanSize (base n : Nat) : Octets :=
  let rec scale (fuel unit : Nat) (letters : List Char) : Octets :=
    match fuel, letters with
    | fuel + 1, letter :: rest =>
      if n < unit * base * base && (n + unit * base - 1) / (unit * base) < base || rest.isEmpty then
        let unit := unit * base
        let tenths := (10 * n + unit - 1) / unit
        if tenths < 100 then
          Octets.ofNat (tenths / 10) ++ ['.'] ++ Octets.ofNat (tenths % 10) ++ [letter]
        else Octets.ofNat ((n + unit - 1) / unit) ++ [letter]
      else scale fuel (unit * base) rest
    | _, _ => Octets.ofNat n
  if n < base then Octets.ofNat n else scale 10 1 "KMGTPEZY".toList

/-- How files are listed. -/
structure Listing where
  given : List Given
  /-- By what files are ordered. -/
  order : String := "name"
  long : Bool := false
  formats : Option Octets := none
  now : Moment

namespace Listing

/-- Whether an option was given. -/
def asks (l : Listing) (key : String) : Bool :=
  has l.given key

/-- The part of a name behind its last point, with the point. -/
def extension (name : Octets) : Octets :=
  let after := (name.reverse.takeWhile (· ≠ '.')).reverse
  if after.length = name.length then [] else '.' :: after

/-- Orders files. -/
def sorted (l : Listing) (files : List Details) : List Details :=
  let byName (a b : Details) : Bool := !textBefore b.name a.name
  let instant (m : Moment) : Int := m.seconds * 1000000000 + m.fraction
  let ordered := match l.order with
    | "none" => files
    | "time" =>
      files.mergeSort fun a b =>
        instant b.time < instant a.time || instant a.time == instant b.time && byName a b
    | "size" => files.mergeSort fun a b => b.size < a.size || a.size == b.size && byName a b
    | "extension" =>
      files.mergeSort fun a b =>
        textBefore (extension a.name) (extension b.name) && extension a.name ≠ extension b.name ||
          extension a.name == extension b.name && byName a b
    | "version" => files.mergeSort fun a b => Version.compareTexts a.name b.name != .gt
    | "width" =>
      files.mergeSort fun a b =>
        a.name.length < b.name.length || a.name.length == b.name.length && byName a b
    | _ => files.mergeSort byName
  let ordered := if l.asks "r" then ordered.reverse else ordered
  if l.asks "group-directories-first" then
    let (folders, others) := ordered.partition fun d => d.thing == .folder
    folders ++ others
  else ordered

/-- A name between double quotation marks. -/
def doubleMarked (name : Octets) : Octets :=
  ['"'] ++ name.flatMap (fun c =>
    if c == '"' || c == '\\' then ['\\', c] else (escape? c).getD [c]) ++ ['"']

/-- A name with escapes for what cannot be shown. -/
def escapedName (name : Octets) : Octets :=
  name.flatMap fun c => if c == '\\' || c == ' ' then ['\\', c] else (escape? c).getD [c]

/-- A name as it is shown. -/
def nameText (l : Listing) (name : Octets) : Octets :=
  match lastOf? l.given ["Q", "b", "N", "quoting-style"] with
  | some g =>
    let style := if g.key = "quoting-style" then Octets.name (g.argument.getD []) else g.key
    if style = "Q" || style = "c" then doubleMarked name
    else if style = "b" || style = "escape" then escapedName name
    else if style = "shell" then shownName name
    else if style = "shell-always" || style = "shell-escape-always" then quotedName name
    else if style = "shell-escape" then shownName name
    else name
  | none =>
    if l.asks "q" then name.map fun c => if c.toNat < 32 || 126 < c.toNat then '?' else c else name

/-- The mark behind a name for the kind of the file. -/
def marker (l : Listing) (d : Details) : Octets :=
  let indicator := match lastOf? l.given ["F", "p", "file-type", "indicator-style"] with
    | some g =>
      if g.key = "indicator-style" then Octets.name (g.argument.getD []) else g.key
    | none => ""
  let types := indicator = "file-type"
  let all := indicator = "F" || indicator = "classify"
  match d.thing with
  | .folder => if all || types || indicator = "p" || indicator = "slash" then ['/'] else []
  | .link _ => if (all || types) && !l.long then ['@'] else []
  | .file _ => if all && d.mode &&& 73 ≠ 0 then ['*'] else []

/-- A size in the units that are asked for. -/
def sizeText (l : Listing) (n : Nat) : Octets :=
  if l.asks "h" then humanSize 1024 n
  else if l.asks "si" then humanSize 1000 n
  else Octets.ofNat n

/-- How much room a file takes up. -/
def room (l : Listing) (blocks : Nat) : Octets :=
  if l.asks "h" then humanSize 1024 (blocks * 512)
  else if l.asks "si" then humanSize 1000 (blocks * 512)
  else
    match (valueOf? l.given "block-size").bind scaled? with
    | some unit => Octets.ofNat (blocks * 512 / max unit 1)
    | none => Octets.ofNat (blocks / 2)

/-- When a file was changed. -/
def timeText (l : Listing) (moment : Moment) : Octets :=
  match l.formats with
  | some format => moment.format format true
  | none =>
    let age := l.now.seconds - moment.seconds
    moment.format (if 0 ≤ age && age < 15778476 then "%b %e %H:%M" else "%b %e  %Y")

/-- The lines of files with all that is known of them. -/
def rows (l : Listing) (m : Machine) (files : List Details) : List Octets :=
  let widest (f : Details → Octets) : Nat :=
    files.foldl (fun width d => max width (f d).length) 0
  let numbers := l.asks "n"
  let owner : Octets := if numbers then ['0'] else "root"
  let names (d : Details) : Octets := Octets.ofNat d.names
  let size (d : Details) : Octets := l.sizeText d.size
  let room (d : Details) : Octets := l.room d.blocks
  let inode (d : Details) : Octets := Octets.ofNat (m.numberOf d.path)
  let namesWidth := widest names
  let sizeWidth := widest size
  let roomWidth := widest room
  files.map fun d =>
    let first := (if l.asks "i" then inode d ++ [' '] else []) ++
      (if l.asks "s" then toRight roomWidth (room d) ++ [' '] else [])
    let shown := l.nameText d.name ++ l.marker d
    if !l.long then first ++ shown
    else
      let target : Octets := match d.thing with
        | .link text => " -> ".toList ++ l.nameText text
        | _ => []
      first ++ d.letters ++ [' '] ++ toRight namesWidth (names d) ++ [' '] ++
        (if l.asks "g" then [] else owner ++ [' ']) ++
        (if l.asks "o" || l.asks "G" then [] else owner ++ [' ']) ++
        toRight sizeWidth (size d) ++ [' '] ++ l.timeText d.time ++ [' '] ++ shown ++ target

/-- The widths of columns, if texts fit into so many of them. -/
def columnWidths (across : Bool) (width : Nat) (lengths : List Nat) (columns : Nat) :
    Option (List Nat) :=
  let rowCount := (lengths.length + columns - 1) / columns
  let columnOf (n : Nat) : Nat := if across then n % columns else n / rowCount
  let widths := (List.range columns).map fun column =>
    (lengths.zip (List.range lengths.length)).foldl (fun widest (length, n) =>
      if columnOf n = column then
        max widest (length + if column + 1 = columns then 0 else 2)
      else widest) (if column + 1 = columns then 1 else 3)
  if widths.foldl (· + ·) 0 < width then some widths else none

/-- Fills a line from one place to another by tabs and spaces. -/
def filler : Nat → (start goal : Nat) → Octets
  | 0, _, _ => []
  | fuel + 1, start, goal =>
    if goal ≤ start then []
    else if goal / 8 > (start + 1) / 8 then '\t' :: filler fuel (start / 8 * 8 + 8) goal
    else ' ' :: filler fuel (start + 1) goal

/-- Texts in columns. -/
def inColumns (across : Bool) (width : Nat) (texts : List Octets) : Octets :=
  let lengths := texts.map List.length
  let most := max 1 (min texts.length (width / 3))
  let widths := (((List.range most).map (· + 1)).reverse.findSome?
    (columnWidths across width lengths)).getD [width]
  let columns := widths.length
  let rowCount := (texts.length + columns - 1) / columns
  (List.range rowCount).flatMap fun row =>
    let cells := (List.range columns).filterMap fun column =>
      let n := if across then row * columns + column else column * rowCount + row
      texts[n]?
    let (line, _, _) := (cells.zip widths).foldl
      (fun (done : Octets × Nat × Nat) (cell, width) =>
        let (line, place, goal) := done
        (line ++ filler 200 place goal ++ cell, max place goal + cell.length, goal + width))
      ([], 0, 0)
    line ++ ['\n']

/-- Texts with commas between them, in lines that are not too long. -/
def withCommas (width : Nat) (texts : List Octets) : Octets :=
  let step (done : Octets × Nat) (text : Octets) : Octets × Nat :=
    let (out, place) := done
    if out.isEmpty then (text, text.length)
    else if place + 2 + text.length + 1 < width then
      (out ++ ", ".toList ++ text, place + 2 + text.length)
    else (out ++ ",\n".toList ++ text, text.length)
  let out := (texts.foldl step ([], 0)).1
  if texts.isEmpty then [] else out ++ ['\n']

/-- Prints files in the way that is asked for. -/
def print (l : Listing) (files : List Details) : Run Unit := do
  let rows := l.rows (← Run.machine) files
  let width := ((valueOf? l.given "w").bind natural?).getD 80
  let shape := match lastOf? l.given ["1", "C", "m", "x", "l", "format"] with
    | some g => if g.key = "format" then Octets.name (g.argument.getD []) else g.key
    | none => "1"
  let finish := if l.asks "zero" then '\x00' else '\n'
  if l.long then Run.print (rows.flatMap fun row => row ++ [finish])
  else if rows.isEmpty then pure ()
  else if shape = "C" || shape = "vertical" then Run.print (inColumns false width rows)
  else if shape = "x" || shape = "across" || shape = "horizontal" then
    Run.print (inColumns true width rows)
  else if shape = "m" || shape = "commas" then Run.print (withCommas width rows)
  else Run.print (rows.flatMap fun row => row ++ [finish])

/-- Whether an entry of a folder is shown. -/
def shows (l : Listing) (name : Octets) : Bool :=
  let isHidden := name.head? = some '.'
  let all := l.asks "a" || l.asks "A" || l.asks "f"
  let matchesAny (key : String) : Bool :=
    (valuesOf l.given key).any fun pattern =>
      Pattern.matchesAll (Pattern.ofText (pattern.map fun c => (c, false))) name
  (all || !isHidden) && !(l.asks "B" && name.getLast? = some '~') && !matchesAny "I" &&
    !(matchesAny "hide" && !all)

/-- Lists a folder, and those in it where that is asked for. -/
def folder (l : Listing) : Nat → (titled isFirst : Bool) → Octets → Path → Run Unit
  | 0, _, _, _, _ => return
  | fuel + 1, titled, isFirst, name, path => do
    let m ← Run.machine
    let names := (m.entries path).map Octets.ofText
    let entries := (names.filter l.shows).filterMap fun child =>
      let place := path ++ [Octets.toText child]
      (m.thing? place).map fun thing =>
        let thing := if l.asks "L" then
            match m.locate path (Octets.toText child) with
            | .ok goal => (m.thing? goal).getD thing
            | .error _ => thing
          else thing
        m.detailsOf child place thing
    let dots := if l.asks "a" || l.asks "f" then
        [m.detailsOf ['.'] path .folder, m.detailsOf ['.', '.'] path.dropLast .folder]
      else []
    let files := l.sorted (dots ++ entries)
    if titled then
      Run.print ((if isFirst then [] else ['\n']) ++ l.nameText name ++ ":\n")
    if l.long || l.asks "s" then
      Run.print ("total " ++
        l.room (files.foldl (fun sum d => sum + d.blocks) 0) ++ "\n")
    l.print files
    if l.asks "R" then
      for d in files do
        if d.thing == .folder && d.name ≠ ['.'] && d.name ≠ ['.', '.'] then
          l.folder fuel true false (inside name d.name) d.path

end Listing

/-- The options of the tool that lists files. -/
def lsOptions : Options where
  letters := "abcdfghiklmnopqrstuvw:xABCDFGHI:LNQRST:UXZ1"
  names := ["all=a", "escape=b", "directory=d", "dired=D", "full-time", "group-directories-first",
    "human-readable=h", "inode=i", "kibibytes=k", "numeric-uid-gid=n", "no-group=G",
    "hide-control-chars=q", "reverse=r", "size=s", "width=w", "almost-all=A", "ignore-backups=B",
    "classify::", "file-type", "si", "dereference-command-line=H",
    "dereference-command-line-symlink-to-dir", "hide:", "ignore=I", "indicator-style:",
    "dereference=L", "literal=N", "quote-name=Q", "quoting-style:", "recursive=R", "format:",
    "show-control-chars", "sort:", "tabsize=T", "time:", "time-style:", "zero", "color::",
    "hyperlink::", "block-size:", "context=Z", "author"]

/-- The ways in which files can be ordered. -/
def sortWords : List String :=
  ["none", "time", "size", "extension", "version", "width"]

/-- Lists files and the contents of folders. -/
def ls : Tool := fun arguments => do
  let (given, names) ← options "ls" 2 lsOptions arguments
  let given := given.map fun g => if g.key = "classify" then ⟨"F", none⟩ else g
  let order ← match lastOf? given ["t", "S", "X", "v", "U", "f", "sort"] with
    | none => pure "name"
    | some g =>
      if g.key = "sort" then
        let word := Octets.name (g.argument.getD [])
        if !sortWords.contains word then
          complain "ls" ("invalid argument " ++ marked (g.argument.getD []) ++ " for \x27--sort\x27")
          Run.note "Valid arguments are:"
          for word in sortWords do
            Run.note ("  - " ++ marked word)
          giveUp "ls" 2
        pure word
      else
        pure ((([("t", "time"), ("S", "size"), ("X", "extension"), ("v", "version")] :
          List (String × String)).lookup g.key).getD "none")
  let long := (lastOf? given ["l", "n", "g", "o", "full-time", "1", "C", "m", "x", "format"]).any
    fun g => ["l", "n", "g", "o", "full-time"].contains g.key || g.key == "1" &&
        (lastOf? given ["l", "n", "g", "o", "full-time"]).isSome ||
      (g.argument == some "long".toList) || g.argument == some "verbose".toList
  let full : Octets := "%Y-%m-%d %H:%M:%S.%N %z"
  let formats : Option Octets := match lastOf? given ["full-time", "time-style"] with
    | none => none
    | some g =>
      match g.key, g.argument.getD [] with
      | "full-time", _ => some full
      | _, '+' :: format => some format
      | _, style =>
        match Octets.name style with
        | "full-iso" => some full
        | "long-iso" => some "%Y-%m-%d %H:%M"
        | "iso" => some "%m-%d %H:%M"
        | _ => none
  let now := Moment.ofThousandths (← Run.machine).now
  let l : Listing := { given, order, long, formats, now }
  let names := if names.isEmpty then [['.']] else names
  let followsFolders := !long && !has given "d" && !has given "F"
  let mut status := 0
  let mut files : List Details := []
  let mut folders : List Details := []
  for name in names do
    let wrong (refusal : Refusal) : Run Unit :=
      complain "ls" ("cannot access " ++ quotedName name ++ ": " ++ reason refusal)
    let direct ← Run.placeOf name (has given "L" || has given "H")
    let found ← match direct with
      | .ok (path, some (.link text)) =>
        if followsFolders then
          match ← Run.placeOf name with
          | .ok (goal, some .folder) => pure (.ok (goal, some Thing.folder))
          | _ => pure (.ok (path, some (.link text)))
        else pure direct
      | other => pure other
    match found with
    | .error refusal =>
      wrong refusal
      status := 2
    | .ok (_, none) =>
      wrong .missing
      status := 2
    | .ok (path, some thing) =>
      let d := (← Run.machine).detailsOf name path thing
      if thing == .folder && !has given "d" then folders := folders ++ [d]
      else files := files ++ [d]
  l.print (l.sorted files)
  let titled := 1 < names.length || has given "R"
  let mut isFirst := files.isEmpty
  for d in l.sorted folders do
    l.folder deepestFolder titled isFirst d.name d.path
    isFirst := false
  return status

/-- The value of a directive for what is known of a file: a text or a number, if there is such a
directive. -/
def detail? (m : Machine) (d : Details) (letter : Char) : Option (Octets ⊕ Nat) :=
  let text (value : Octets) : Option (Octets ⊕ Nat) := some (.inl value)
  let number (value : Nat) : Option (Octets ⊕ Nat) := some (.inr value)
  let time : Octets := d.time.format "%Y-%m-%d %H:%M:%S.%N %z" true
  match letter with
  | 'a' => text (Nat.toDigits 8 d.mode)
  | 'A' => text d.letters
  | 'b' => number d.blocks
  | 'B' => number 512
  | 'C' => text ['?']
  | 'd' => number 64769
  | 'D' => text "fd01"
  | 'f' => text (Nat.toDigits 16 (d.kindBits + d.mode))
  | 'F' => text d.kind
  | 'g' => number 0
  | 'G' => text "root"
  | 'h' => number d.names
  | 'i' => number (m.numberOf d.path)
  | 'm' => text ['/']
  | 'n' => text d.name
  | 'N' =>
    text (match d.thing with
      | .link target => quotedName d.name ++ " -> " ++ quotedName target
      | _ => quotedName d.name)
  | 'o' => number 4096
  | 's' => number d.size
  | 't' => text ['0']
  | 'T' => text ['0']
  | 'u' => number 0
  | 'U' => text "root"
  | 'w' => text ['-']
  | 'W' => number 0
  | 'x' => text time
  | 'X' => number d.time.seconds.toNat
  | 'y' => text time
  | 'Y' => number d.time.seconds.toNat
  | 'z' => text time
  | 'Z' => number d.time.seconds.toNat
  | _ => none

/-- Writes what is known of a file by a format; escapes are replaced where that is asked for. -/
def detailed (m : Machine) (d : Details) (escapes : Bool) : Nat → Octets → Octets
  | 0, _ => []
  | _, [] => []
  | fuel + 1, '%' :: rest =>
    let flags := rest.takeWhile fun c => "-+#0 \x27".toList.contains c
    let after := rest.drop flags.length
    let width := after.takeWhile Char.isDigit
    let after := after.drop width.length
    let (precision, after) : Option Nat × Octets := match after with
      | '.' :: more =>
        let digits := more.takeWhile Char.isDigit
        (some (Text.digitsValue digits), more.drop digits.length)
      | more => (none, more)
    match after with
    | [] => '%' :: rest
    | '%' :: after => '%' :: detailed m d escapes fuel after
    | letter :: after =>
      let c : Conversion := { flags, width := Text.digitsValue width, precision, letter := 's' }
      let shown := match detail? m d letter with
        | some (.inl text) => c.text text
        | some (.inr n) => { c with letter := 'd', precision := none }.integer n
        | none => ['?']
      shown ++ detailed m d escapes fuel after
  | fuel + 1, '\\' :: c :: rest =>
    if !escapes then '\\' :: detailed m d escapes fuel (c :: rest)
    else
      match Escape.letter? c with
      | some value => value :: detailed m d escapes fuel rest
      | none =>
        if Escape.isOctal c then
          let (n, rest) := Escape.digits 8 3 (c :: rest)
          Escape.byteOf n :: detailed m d escapes fuel rest
        else c :: detailed m d escapes fuel rest
  | fuel + 1, c :: rest => c :: detailed m d escapes fuel rest

/-- The format in which all that is known of a file is written. -/
def wholeFormat (thing : Thing) : String :=
  let name := match thing with
    | .link _ => "%N"
    | _ => "%n"
  "  File: " ++ name ++ "\n  Size: %-10s\tBlocks: %-10b IO Block: %-6o %F\nDevice: 253,1\t" ++
    "Inode: %-10i  Links: %h\nAccess: (%04a/%10.10A)  Uid: (%5u/%8U)   Gid: (%5g/%8G)\n" ++
    "Access: %x\nModify: %y\nChange: %z\n Birth: %w\n"

/-- Prints what is known of files. -/
def stat : Tool := fun arguments => do
  let (given, names) ← options "stat" 1
    { letters := "c:fLt"
      names := ["dereference=L", "file-system=f", "format=c", "terse=t", "printf:", "cached:"] }
    arguments
  if names.isEmpty then refuse "stat" 1 "missing operand"
  let mut status := 0
  for name in names do
    let wrong (refusal : Refusal) : Run Unit :=
      complain "stat" ("cannot statx " ++ quotedName name ++ ": " ++ reason refusal)
    match ← Run.placeOf name (has given "L") with
    | .error refusal =>
      wrong refusal
      status := 1
    | .ok (_, none) =>
      wrong .missing
      status := 1
    | .ok (path, some thing) =>
      let m ← Run.machine
      let d := m.detailsOf name path thing
      match lastOf? given ["c", "printf", "t"] with
      | some g =>
        let format := g.argument.getD []
        if g.key = "t" then
          Run.printLine (detailed m d false 200 "%n %s %b %f %u %g %D %i %h %t %T %X %Y %Z %W %o".toList)
        else if g.key = "c" then
          Run.printLine (detailed m d false (format.length + 1) format)
        else Run.print (detailed m d true (format.length + 1) format)
      | none => Run.print (detailed m d false 400 (wholeFormat thing).toList)
  return status

/-- How much room a file or a folder takes up, in units of 512 bytes or in bytes; what is found below
it is told, the deepest first. -/
def usageOf (given : List Given) (tell : Octets → Nat → Nat → Bool → Run Unit) :
    Nat → Nat → Octets → Path → Run Nat
  | 0, _, _, _ => return 0
  | fuel + 1, depth, name, path => do
    let m ← Run.machine
    match m.thing? path with
    | none => return 0
    | some thing =>
      let d := m.detailsOf name path thing
      let own := if has given "b" || has given "apparent-size" then d.size else d.blocks * 512
      if thing == .folder then
        let mut sum := own
        for child in ← childrenOf path do
          sum := sum + (← usageOf given tell fuel (depth + 1) (inside name child)
            (path ++ [Octets.toText child]))
        tell name depth sum true
        return sum
      tell name depth own false
      return own

/-- Tells how much room files take up. -/
def du : Tool := fun arguments => do
  let (given, names) ← options "du" 1
    { letters := "0abcd:hkmsxDHLPSl"
      names := ["all=a", "apparent-size", "bytes=b", "total=c", "max-depth=d", "human-readable=h",
        "summarize=s", "dereference=L", "null=0", "separate-dirs=S", "one-file-system=x", "si",
        "exclude:", "block-size:", "time::"] } arguments
  let most := if has given "s" then 0
    else ((valueOf? given "d").bind natural?).getD deepestFolder
  let shown (bytes : Nat) : Octets :=
    if has given "h" then humanSize 1024 bytes
    else if has given "b" then Octets.ofNat bytes
    else if has given "m" then Octets.ofNat ((bytes + 1048575) / 1048576)
    else Octets.ofNat ((bytes + 1023) / 1024)
  let finish := if has given "0" then '\x00' else '\n'
  let line (bytes : Nat) (name : Octets) : Run Unit :=
    Run.print (shown bytes ++ ['\t'] ++ name ++ [finish])
  let mut status := 0
  let mut total := 0
  for name in if names.isEmpty then [['.']] else names do
    match ← Run.placeOf name false with
    | .ok (path, some _) =>
      let tell (name : Octets) (depth bytes : Nat) (isFolder : Bool) : Run Unit := do
        if depth = 0 || (isFolder || has given "a") && depth ≤ most then line bytes name
      total := total + (← usageOf given tell deepestFolder 0 name path)
    | .ok (_, none) =>
      complain "du" ("cannot access " ++ quotedName name ++ ": " ++ reason .missing)
      status := 1
    | .error refusal =>
      complain "du" ("cannot access " ++ quotedName name ++ ": " ++ reason refusal)
      status := 1
  if has given "c" then line total "total"
  return status

end Tool

end DocMend.Shell
