import DocMend.Shell.Regex.Reading
import DocMend.Shell.Regex.Search
import DocMend.Shell.Tool.Basic
/-!
Tools that show files, or parts of them, or count what is in them.
-/

set_option autoImplicit false
set_option relaxedAutoImplicit false

namespace DocMend.Shell.Tool

/-- A character so that it can be seen. -/
def visible (c : Char) : Octets :=
  let low (n : Nat) : Octets :=
    if n < 32 then ['^', Char.ofNat (n + 64)]
    else if n = 127 then ['^', '?']
    else [Char.ofNat n]
  if c == '\n' || c == '\t' then [c]
  else if c.toNat < 128 then low c.toNat
  else ['M', '-'] ++ low (c.toNat - 128)

/-- A text at the right of a column. -/
def toRight (width : Nat) (text : Octets) : Octets :=
  List.replicate (width - text.length) ' ' ++ text

/-- A text at the left of a column. -/
def toLeft (width : Nat) (text : Octets) : Octets :=
  text ++ List.replicate (width - text.length) ' '

/-- What is made visible of a text, and which lines are numbered. -/
structure Decoration where
  control : Bool
  ends : Bool
  tabs : Bool
  numbers : Bool
  filledNumbers : Bool
  squeezes : Bool

namespace Decoration

/-- The decoration that options ask for. -/
def ofGiven (given : List Given) : Decoration :=
  let any (keys : List String) : Bool := keys.any (has given)
  { control := any ["v", "A", "e", "t"], ends := any ["E", "A", "e"], tabs := any ["T", "A", "t"]
    filledNumbers := has given "b", numbers := has given "n", squeezes := has given "s" }

/-- A line with all that is to be seen. -/
def line (d : Decoration) : Octets → Octets
  | [] => []
  | ['\r', '\n'] => if d.ends || d.control then "^M".toList ++ line d ['\n'] else ['\r', '\n']
  | c :: rest =>
    (if c == '\t' && d.tabs then ['^', 'I']
      else if c == '\n' && d.ends then ['$', '\n']
      else if d.control then visible c
      else [c]) ++ line d rest

/-- Where the showing of a file after others begins: the number of the next line, whether a line is not
at its end yet, and how many empty lines came last. -/
structure State where
  number : Nat := 1
  midway : Bool := false
  empties : Nat := 0

/-- The lines of a text with all that is to be seen. -/
def shown (d : Decoration) (state : State) (text : Octets) : Octets × State :=
  let step (done : List Octets × State) (line : Octets) : List Octets × State :=
    let (out, state) := done
    let isEmpty := line == ['\n'] && !state.midway
    let empties := if isEmpty then state.empties + 1 else 0
    let ended := line.getLast? == some '\n'
    if d.squeezes && 1 < empties then (out, { state with empties })
    else
      let counted := !state.midway &&
        (if d.filledNumbers then !isEmpty else d.numbers)
      let first := if counted then toRight 6 (Octets.ofNat state.number) ++ ['\t'] else []
      ((first ++ d.line line) :: out,
        { number := if counted then state.number + 1 else state.number, midway := !ended, empties })
  let (out, state) := (Text.linesWithEnds text).foldl step ([], state)
  (out.reverse.flatten, state)

end Decoration

/-- Whether a file is the one that the output goes to, behind what is read of it. -/
def isOutput (name : Octets) (text : Octets) : Run Bool := do
  let target := (← Run.machine).channels[(← Run.channel? 1).getD 0]?
  let source : Option Path ←
    if name == ['-'] then
      match ← Run.channel? 0 with
      | some index =>
        match (← Run.machine).channels[index]? with
        | some (.file path _ _ _ _) => pure (some path)
        | _ => pure none
      | none => pure none
    else
      match ← Run.locate name with
      | .ok path => pure (some path)
      | .error _ => pure none
  match target, source with
  | some (.file path _ _ _ _), some other => return path == other && !text.isEmpty
  | _, _ => return false

/-- The options of the tool that shows files. -/
def catOptions : Options where
  letters := "AbeEnstTuv"
  names := ["show-all=A", "number-nonblank=b", "show-ends=E", "number=n", "squeeze-blank=s",
    "show-tabs=T", "show-nonprinting=v"]

/-- Shows files. -/
def cat : Tool := fun arguments => do
  let (given, names) ← options "cat" 1 catOptions arguments
  if (← Run.channel? 1).isNone then
    abandon "cat" 1 ("standard output: " ++ reason .badDescriptor)
  let decoration := Decoration.ofGiven given
  let isPlain := given.all fun g => g.key = "u"
  let mut status := 0
  let mut state : Decoration.State := {}
  for name in if names.isEmpty then [['-']] else names do
    match ← readSource name with
    | .error refusal =>
      complain "cat" (shownName name ++ ": " ++ reason refusal)
      status := 1
      if name == ['-'] && (← Run.channel? 0).isNone then
        complain "cat" ("closing standard input: " ++ reason refusal)
    | .ok text =>
      if ← isOutput name text then
        complain "cat" (shownName name ++ ": input file is output file")
        status := 1
      else if isPlain then Run.print text
      else
        let (shown, next) := decoration.shown state text
        Run.print shown
        state := next
  return status

/-- The title of a file among several. -/
def title (isFirst : Bool) (name : Octets) : Octets :=
  let shown : Octets := if name == ['-'] then "standard input" else name
  (if isFirst then [] else ['\n']) ++ "==> " ++ shown ++ " <==\n"

/-- The factors that letters after a number stand for. -/
def factors : List (String × Nat) :=
  let power (base n : Nat) : Nat := (List.range n).foldl (fun m _ => m * base) 1
  let letters := "KMGTPEZY".toList
  [("", 1), ("b", 512)] ++
    (letters.zip (List.range letters.length)).flatMap fun (c, n) =>
      let plain := [(String.ofList [c], power 1024 (n + 1)), (String.ofList [c, 'B'], power 1000 (n + 1)),
        (String.ofList [c, 'i', 'B'], power 1024 (n + 1))]
      if c == 'K' then
        plain ++ [("k", 1024), ("kB", 1000), ("kiB", 1024)]
      else if c == 'M' then plain ++ [("m", power 1024 2)]
      else plain

/-- A number with a letter for its factor. -/
def scaled? (text : Octets) : Option Nat :=
  let digits := text.takeWhile Char.isDigit
  if digits.isEmpty then none
  else
    (factors.lookup (String.ofList (text.drop digits.length))).map fun factor =>
      Text.digitsValue digits * factor

/-- The largest number that tools count with. -/
def largestCount : Nat := 18446744073709551615

/-- What is said about a number that is larger than that. -/
def tooLarge : Octets := ": Value too large for defined data type"

/-- What is said about a number that is out of its range. -/
def outOfRange : Octets := ": Numerical result out of range"

/-- How much of a file is shown. -/
structure Portion where
  bytes : Bool
  sign : Option Char
  count : Nat

/-- The portion that the options of a tool ask for. -/
def portionOf (tool : String) (given : List Given) : Run Portion := do
  match lastOf? given ["n", "c"] with
  | none => return ⟨false, none, 10⟩
  | some g =>
    let text := g.argument.getD []
    let bytes := g.key = "c"
    let (sign, digits) : Option Char × Octets := match text with
      | '-' :: rest => (some '-', rest)
      | '+' :: rest => (some '+', rest)
      | rest => (none, rest)
    let wrong {α : Type} (reason : Octets) : Run α :=
      abandon tool.toList 1 ("invalid number of " ++ (if bytes then "bytes" else "lines") ++ ": " ++
        marked (if sign = some '+' then text else digits) ++ reason)
    match scaled? digits with
    | some count => if largestCount < count then wrong tooLarge else return ⟨bytes, sign, count⟩
    | none => wrong []

/-- The parts of a text that are counted: its bytes, or its lines with their ends. -/
def countedParts (bytes : Bool) (finish : Char) (text : Octets) : List Octets :=
  if bytes then text.map fun c => [c]
  else if finish == '\n' then Text.linesWithEnds text
  else
    let all := Text.pieces finish text
    let ended := all.dropLast.map fun part => part ++ [finish]
    match all.getLast? with
    | some [] => ended
    | some part => ended ++ [part]
    | none => ended

/-- The end of a line where zero bytes end lines, or the usual one. -/
def finishOf (given : List Given) : Char :=
  if has given "z" then '\x00' else '\n'

/-- The options of the tools that show the beginning or the end of files. -/
def portionOptions : Options where
  letters := "c:n:qvzfFs:"
  names := ["bytes=c", "lines=n", "quiet=q", "silent=q", "verbose=v", "zero-terminated=z",
    "follow::", "retry", "pid:", "sleep-interval=s"]

/-- The options of an old form, in which a sign, a number and some letters are one word. -/
def oldPortion? (sign : Char) (word : Octets) : Option (List Octets) :=
  match word with
  | c :: rest =>
    let digits := rest.takeWhile Char.isDigit
    let letters := rest.drop digits.length
    let start : Octets := if sign = '+' then ['+'] else []
    if c ≠ sign || digits.isEmpty || !(letters.all fun c => "cblkmqvzf".toList.contains c) then none
    else
      let isBytes := letters.any fun c => "cbkm".toList.contains c
      let unit : Octets := match letters.find? fun c => "bkm".toList.contains c with
        | some c => [c]
        | none => []
      let others := letters.filter fun c => "qvzf".toList.contains c
      some ([['-', if isBytes then 'c' else 'n'], start ++ digits ++ unit] ++
        others.map fun c => ['-', c])
  | [] => none

/-- Shows a part of each file. -/
def showPortions (tool : String) (old : List Char) (part : Portion → Octets → Char → Octets) : Tool :=
  fun arguments => do
  let arguments := match arguments with
    | word :: rest =>
      match old.findSome? fun sign => oldPortion? sign word with
      | some words => words ++ rest
      | none => arguments
    | [] => []
  let (given, names) ← options tool 1 portionOptions arguments
  let portion ← portionOf tool given
  let names := if names.isEmpty then [['-']] else names
  let heading := lastOf? given ["q", "v"]
  let titled := match heading with
    | some g => g.key == "v"
    | none => 1 < names.length
  let mut status := 0
  let mut isFirst := true
  let mut isOpen := false
  for name in names do
    match ← readSource name with
    | .error .isFolder =>
      if titled then Run.print (title isFirst name)
      isFirst := false
      complain tool.toList ("error reading " ++ quotedName name ++ ": " ++ reason .isFolder)
      status := 1
    | .error refusal =>
      complain tool.toList
        ("cannot open " ++ quotedName name ++ " for reading: " ++ reason refusal)
      status := 1
    | .ok text =>
      if titled then Run.print (title isFirst name)
      isFirst := false
      isOpen := true
      Run.print (part portion text (finishOf given))
  let follows := given.any fun g => ["f", "F", "follow"].contains g.key
  if follows && !isOpen then complain tool.toList "no files remaining"
  return status

/-- Shows the beginning of files. -/
def head : Tool :=
  showPortions "head" ['-'] fun portion text finish =>
    let items := countedParts portion.bytes finish text
    let count := if portion.sign == some '-' then items.length - portion.count else portion.count
    (items.take count).flatten

/-- Shows the end of files. -/
def tail : Tool :=
  showPortions "tail" ['-', '+'] fun portion text finish =>
    let items := countedParts portion.bytes finish text
    let skipped :=
      if portion.sign == some '+' then portion.count - 1 else items.length - portion.count
    (items.drop skipped).flatten

/-- The words of a text. -/
def wordCount (text : Octets) : Nat :=
  (text.foldl (fun (count, inWord) c =>
    if Octets.isSpace c then (count, false)
    else if '!' ≤ c && c ≤ '~' then (if inWord then count else count + 1, true)
    else (count, inWord)) (0, false)).1

/-- The width of the widest line of a text; a tab goes on to a multiple of eight columns. -/
def widestLine (text : Octets) : Nat :=
  let step (widest column : Nat) (c : Char) : Nat × Nat :=
    if c == '\n' || c == '\r' || c == '\x0c' then (max widest column, 0)
    else if c == '\t' then (widest, column + 8 - column % 8)
    else if ' ' ≤ c && c ≤ '~' then (widest, column + 1)
    else (widest, column)
  let (widest, column) := text.foldl (fun (widest, column) c => step widest column c) (0, 0)
  max widest column

/-- The options of the tool that counts. -/
def wcOptions : Options where
  letters := "clmwL"
  names := ["bytes=c", "chars=m", "lines=l", "words=w", "max-line-length=L", "files0-from:", "total:"]

/-- Counts lines, words and bytes. -/
def wc : Tool := fun arguments => do
  let (given, names) ← options "wc" 1 wcOptions arguments
  let letters := given.filter fun g => g.key.length = 1
  let wants (key : String) : Bool :=
    if letters.isEmpty then ["l", "w", "c"].contains key else has given key
  let counts (text : Octets) : List Nat :=
    (if wants "l" then [text.countP (· == '\n')] else []) ++
      (if wants "w" then [wordCount text] else []) ++
      (if wants "m" then [text.length] else []) ++
      (if wants "c" then [text.length] else []) ++
      (if wants "L" then [widestLine text] else [])
  let names ← match valueOf? given "files0-from" with
    | some list =>
      match ← readSource list with
      | .ok text => pure ((countedParts false '\x00' text).map fun part => part.filter (· ≠ '\x00'))
      | .error refusal =>
        abandon "wc" 1 ("cannot open " ++ quotedName list ++ " for reading: " ++ reason refusal)
    | none => pure names
  let sources := if names.isEmpty then [['-']] else names
  let mut rows : List (List Nat × Octets) := []
  let mut complaints : List (Nat × Octets) := []
  let mut isRegular := true
  let mut size := 0
  for name in sources do
    if name == ['-'] then
      match (← Run.machine).channels[(← Run.channel? 0).getD 0]? with
      | some (.file _ _ _ _ _) => pure ()
      | _ => isRegular := false
    match ← readSource name with
    | .ok text =>
      size := size + text.length
      rows := rows ++ [(counts text, name)]
    | .error refusal =>
      complaints := complaints ++ [(rows.length, shownName name ++ ": " ++ reason refusal)]
      if refusal = .isFolder then
        isRegular := false
        rows := rows ++ [(counts [], name)]
  let widest := (counts []).length - (if wants "L" then 1 else 0)
  let total := match rows with
    | first :: rest =>
      rest.foldl (fun sum row =>
        List.zipWith (· + ·) (sum.take widest) (row.1.take widest) ++
          List.zipWith max (sum.drop widest) (row.1.drop widest)) first.1
    | [] => counts []
  let onlyTotal := valueOf? given "total" == some "only".toList
  let showsTotal := match valueOf? given "total" with
    | some text => text == "always".toList || onlyTotal || text == "auto".toList && 1 < sources.length
    | none => 1 < sources.length
  let width :=
    if onlyTotal || sources.length = 1 && (counts []).length = 1 then 1
    else max (if isRegular then 1 else 7) (Octets.ofNat size).length
  let shown (row : List Nat) : Octets :=
    Text.joined [' '] (row.map fun n => toRight width (Octets.ofNat n))
  for (_, text) in complaints do
    complain "wc" text
  if !onlyTotal then
    for (row, name) in rows do
      Run.printLine (shown row ++ (if names.isEmpty then [] else ' ' :: name))
  if showsTotal then Run.printLine (shown total ++ (if onlyTotal then [] else " total"))
  return if complaints.isEmpty then 0 else 1

/-- The options of the tool that reverses the order of lines. -/
def tacOptions : Options where
  letters := "brs:"
  names := ["before=b", "regex=r", "separator=s"]

/-- Cuts a text behind or in front of separators, of which each has a beginning and an end. -/
def cutAt (before : Bool) (text : Octets) (places : List (Nat × Nat)) : List Octets :=
  let cuts := places.map fun (start, stop) => if before then start else stop
  let (parts, last) := cuts.foldl (fun (state : List Octets × Nat) place =>
    (((text.drop state.2).take (place - state.2)) :: state.1, place)) ([], 0)
  ((text.drop last :: parts).reverse).filter (· ≠ [])

/-- The places of a separator, the last one first: separators are looked for from the end on, and do
not overlap. -/
def placesFromEnd (isAt? : Nat → Option Nat) : Nat → (limit : Nat) → List (Nat × Nat)
  | 0, _ => []
  | place + 1, limit =>
    match isAt? place with
    | some stop =>
      if stop ≤ limit && place < stop then (place, stop) :: placesFromEnd isAt? place place
      else placesFromEnd isAt? place limit
    | none => placesFromEnd isAt? place limit

/-- Shows files with their lines in reverse order. -/
def tac : Tool := fun arguments => do
  let (given, names) ← options "tac" 1 tacOptions arguments
  let mark := (valueOf? given "s").getD ['\n']
  let finder? : Option Regex.Searcher ← do
    if !has given "r" then pure none
    else if mark.isEmpty then abandon "tac" 1 "separator cannot be empty"
    else
      match Regex.read { extended := false } mark with
      | .ok (r, _) => pure (some r.searcher)
      | .error fault => abandon "tac" 1 fault.text
  let mark := if mark.isEmpty then ['\x00'] else mark
  let mut status := 0
  for name in if names.isEmpty then [['-']] else names do
    match ← readSource name with
    | .ok text =>
      let subject := Regex.Subject.ofOctets text
      let pattern := mark.toArray
      let isAt? (place : Nat) : Option Nat := match finder? with
        | some x => (x.graph.matchAt? subject place).map Regex.Match.stop
        | none =>
          let same := (List.range pattern.size).all fun n => subject.text[place + n]? == pattern[n]?
          if same then some (place + pattern.size) else none
      let places := placesFromEnd isAt? text.length text.length
      Run.print (cutAt (has given "b") text places.reverse).reverse.flatten
    | .error .isFolder =>
      complain "tac" (shownName name ++ ": read error: " ++ reason .isFolder)
      status := 1
    | .error refusal =>
      complain "tac" ("failed to open " ++ quotedName name ++ " for reading: " ++ reason refusal)
      status := 1
  return status

/-- Shows files with the characters of each line in reverse order. -/
def rev : Tool := fun arguments => do
  let (_, names) ← options "rev" 1 { letters := "hV" } arguments
  let mut status := 0
  for name in if names.isEmpty then [['-']] else names do
    match ← readSource name with
    | .ok text =>
      Run.print ((Text.linesWithEnds text).flatMap fun line =>
        let content := line.filter (· ≠ '\n')
        (Octets.ofText (String.ofList (Octets.toText content).toList.reverse)) ++
          line.drop content.length)
    | .error refusal =>
      complain "rev" ("cannot open " ++ name ++ ": " ++ reason refusal)
      status := 1
  return status

/-- The options of the tool that writes its input to several files. -/
def teeOptions : Options where
  letters := "aip"
  names := ["append=a", "ignore-interrupts=i", "output-error::"]

/-- Writes its input to files and to its output. -/
def tee : Tool := fun arguments => do
  let (given, names) ← options "tee" 1 teeOptions arguments
  let text := match ← Run.readAll 0 with
    | .ok text => text
    | .error _ => []
  let mut status := 0
  Run.print text
  for name in names do
    let appends := has given "a"
    match ← Run.openName name { writes := true, creates := true, empties := !appends, appends } with
    | .ok index =>
      match (← Run.machine).write index text with
      | .ok m => Run.modifyMachine fun _ => m
      | .error _ => pure ()
    | .error refusal =>
      complain "tee" (shownName name ++ ": " ++ reason refusal)
      status := 1
  return status

/-- How often a line is repeated at most; who repeats a line is ended when nobody reads it. -/
def mostRepetitions : Nat := 200000

/-- Repeats a line until nobody reads it any more. -/
def yes : Tool := fun arguments => do
  let (_, words) ← options "yes" 1 { leading := true } arguments
  let line := (if words.isEmpty then ['y'] else Text.joined [' '] words) ++ ['\n']
  for _ in List.range mostRepetitions do
    Run.print line
  return 0

end DocMend.Shell.Tool
