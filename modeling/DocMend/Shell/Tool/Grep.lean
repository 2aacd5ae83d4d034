import DocMend.Shell.Regex.Reading
import DocMend.Shell.Regex.Search
import DocMend.Shell.Tool.Listing
/-!
The tool that selects lines by patterns. Of several patterns the one counts that matches first, and of
those the one that matches most.
-/

set_option autoImplicit false
set_option relaxedAutoImplicit false

namespace DocMend.Shell.Tool

/-- How patterns are meant. -/
inductive PatternKind where
  | basic
  | extended
  | fixed
deriving DecidableEq, Repr

/-- What is looked for in lines. -/
structure LinePattern where
  searchers : List Regex.Searcher
  words : Bool := false
  lines : Bool := false
  inverted : Bool := false
  /-- Whether what is searched may hold line ends. -/
  long : Bool := false

namespace LinePattern

/-- The text that is searched in a line. -/
def subject (p : LinePattern) (line : Octets) : Regex.Subject :=
  { Regex.Subject.ofOctets line with lines := p.long }

/-- Whether no word character is on either side of a match. -/
def isWord (s : Regex.Subject) (start stop : Nat) : Bool :=
  !s.isWordBefore start && !s.isWord stop

/-- The longest match at a place that is a word: shorter ones are tried where a match is none. -/
def wordAt? (x : Regex.Searcher) (s : Regex.Subject) (start : Nat) : Nat → Nat → Option Nat
  | 0, _ => none
  | fuel + 1, stop =>
    if isWord s start stop then some stop
    else if stop ≤ start + 1 then none
    else
      let shorter : Regex.Subject := { s with text := s.text.extract 0 (stop - 1) }
      match x.graph.matchAt? shorter start with
      | some found => if found.stop ≤ start then none else wordAt? x s start fuel found.stop
      | none => none

/-- The first match that is a word. -/
def word? (x : Regex.Searcher) (s : Regex.Subject) : Nat → Nat → Option (Nat × Nat)
  | 0, _ => none
  | fuel + 1, place =>
    match x.find? s place with
    | none => none
    | some found =>
      match wordAt? x s found.start (s.text.size + 2) found.stop with
      | some stop => some (found.start, stop)
      | none =>
        if s.text.size ≤ found.start then none else word? x s fuel (found.start + 1)

/-- The first and longest match of one pattern from a place on. -/
def find? (p : LinePattern) (x : Regex.Searcher) (s : Regex.Subject) (place : Nat) :
    Option (Nat × Nat) :=
  if p.lines then
    if place = 0 then
      match x.graph.matchAt? s 0 with
      | some found => if found.stop = s.text.size then some (0, found.stop) else none
      | none => none
    else none
  else if p.words then word? x s (s.text.size + 2) place
  else (x.find? s place).map fun found => (found.start, found.stop)

/-- The first and longest match of all patterns from a place on. -/
def first? (p : LinePattern) (s : Regex.Subject) (place : Nat) : Option (Nat × Nat) :=
  p.searchers.foldl (fun best x =>
    match best, p.find? x s place with
    | none, found => found
    | some old, none => some old
    | some (start, stop), some (newStart, newStop) =>
      if newStart < start || newStart = start && stop < newStop then some (newStart, newStop)
      else some (start, stop)) none

/-- Whether a line is selected. -/
def selects (p : LinePattern) (line : Octets) : Bool :=
  (p.first? (p.subject line) 0).isSome != p.inverted

/-- All matches in a line that are not empty. -/
def all (p : LinePattern) (s : Regex.Subject) : Nat → Nat → List (Nat × Nat)
  | 0, _ => []
  | fuel + 1, place =>
    match p.first? s place with
    | none => []
    | some (start, stop) =>
      if start = stop then
        if s.text.size ≤ stop then [] else p.all s fuel (stop + 1)
      else (start, stop) :: p.all s fuel stop

end LinePattern

/-- What a pattern has that makes one doubt it. -/
inductive PatternDoubt where
  | leadingSign (text : String)
  | bareClass
deriving DecidableEq, Repr

/-- Whether what is between brackets looks like the name of a class without its own brackets. -/
def isBareClass (body : Octets) : Bool :=
  let body := if body.head? = some '^' then body.drop 1 else body
  3 ≤ body.length && body.head? = some ':' && body.getLast? = some ':' &&
    !(body.contains '-') && !(body.contains '[') &&
    body.any (· ≠ ':')

/-- The characters between brackets, and the rest. -/
def bracketBody : Nat → (isFirst : Bool) → Octets → Octets × Octets
  | 0, _, cs => ([], cs)
  | _, _, [] => ([], [])
  | fuel + 1, isFirst, c :: rest =>
    if c == ']' && !isFirst then ([], rest)
    else if c == '[' && (rest.head? = some ':' || rest.head? = some '.' || rest.head? = some '=') then
      let mark := rest.headD ':'
      let inner := (rest.drop 1).takeWhile (· ≠ mark)
      let skipped := 2 + inner.length + 2
      let (body, after) := bracketBody fuel false ((c :: rest).drop skipped)
      ((c :: rest).take skipped ++ body, after)
    else
      let (body, after) := bracketBody fuel (isFirst && c == '^') rest
      (c :: body, after)

/-- What makes one doubt a pattern: signs of repetition at the beginning of an expression, and classes
without their own brackets. -/
def doubts (extended : Bool) : Nat → (atStart : Bool) → Octets → List PatternDoubt
  | 0, _, _ => []
  | _, _, [] => []
  | fuel + 1, atStart, c :: rest =>
    if c == '\\' then
      match rest with
      | d :: more => doubts extended fuel (!extended && (d == '(' || d == '|')) more
      | [] => []
    else if c == '[' then
      let (body, after) := bracketBody (rest.length + 1) true rest
      (if isBareClass body then [.bareClass] else []) ++ doubts extended fuel false after
    else if extended && (c == '(' || c == '|') then doubts extended fuel true rest
    else if c == '^' && atStart then doubts extended fuel true rest
    else if extended && atStart && (c == '*' || c == '+' || c == '?') then
      .leadingSign (String.ofList [c]) :: doubts extended fuel true rest
    else if extended && atStart && c == '\x7b' then
      let digits := rest.takeWhile fun c => c.isDigit || c == ','
      let isBound := !digits.isEmpty && (rest.drop digits.length).head? = some '\x7d' &&
        digits ≠ [','] && (digits.filter (· == ',')).length ≤ 1
      if isBound then
        .leadingSign "\x7b...\x7d" :: doubts extended fuel true (rest.drop (digits.length + 1))
      else doubts extended fuel false rest
    else doubts extended fuel false rest

/-- The options of the tool that selects lines. -/
def grepOptions : Options where
  letters := "A:B:C:D:EFGHILPTUVX:abcd:e:f:hiLlm:noqRrsuvwxyZz"
  names := ["basic-regexp=G", "extended-regexp=E", "fixed-regexp=F", "fixed-strings=F",
    "perl-regexp=P", "after-context=A", "before-context=B", "binary-files:", "line-buffered",
    "byte-offset=b", "context=C", "color::", "colour::", "count=c", "devices=D", "directories=d",
    "exclude:", "exclude-from:", "exclude-dir:", "file=f", "files-with-matches=l",
    "files-without-match=L", "group-separator:", "ignore-case=i", "no-ignore-case", "include:",
    "initial-tab=T", "label:", "line-number=n", "line-regexp=x", "max-count=m", "no-filename=h",
    "no-group-separator", "no-messages=s", "null=Z", "null-data=z", "only-matching=o", "quiet=q",
    "silent=q", "recursive=r", "dereference-recursive=R", "regexp=e", "invert-match=v", "text=a",
    "with-filename=H", "word-regexp=w"]

/-- Gives up and says how the tool is used. -/
def refuseGrep {α : Type} (text? : Option Octets) : Run α := do
  match text? with
  | some text => complain "grep" text
  | none => pure ()
  Run.note "Usage: grep [OPTION]... PATTERNS [FILE]..."
  giveUp "grep" 2

/-- How selected lines are shown. -/
structure Selecting where
  pattern : LinePattern
  given : List Given
  most : Option Nat
  before : Nat
  after : Nat
  /-- Whether groups of lines are kept apart. -/
  separated : Bool
  named : Bool

namespace Selecting

/-- Whether an option was given. -/
def asks (s : Selecting) (key : String) : Bool :=
  has s.given key

/-- The end of a line. -/
def finish (s : Selecting) : Char :=
  if s.asks "z" then '\x00' else '\n'

/-- What stands in front of a line or a match: the name of the file, the number of the line and that of
the byte, each with a sign behind it. -/
def heading (s : Selecting) (name : Octets) (sign : Char) (line byte : Nat) : Octets :=
  let aligned (n : Nat) : Octets := if s.asks "T" then toRight 2 (Octets.ofNat n) else Octets.ofNat n
  let offset (n : Nat) : Octets := if s.asks "T" then toRight 3 (Octets.ofNat n) else Octets.ofNat n
  let all := (if s.named then name ++ [if s.asks "Z" then '\x00' else sign] else []) ++
    (if s.asks "n" then aligned line ++ [sign] else []) ++
    (if s.asks "b" then offset byte ++ [sign] else [])
  if s.asks "T" && !all.isEmpty then all ++ ['\t'] else all

/-- What is shown of a selected line: it, or the matches in it. -/
def shown (s : Selecting) (name : Octets) (line : Octets) (number byte : Nat) : Octets :=
  if s.asks "o" then
    if s.pattern.inverted then []
    else
      let subject := s.pattern.subject line
      (s.pattern.all subject (line.length + 2) 0).flatMap fun (start, stop) =>
        s.heading name ':' number (byte + start) ++ subject.part start stop ++ [s.finish]
  else s.heading name ':' number byte ++ line ++ [s.finish]

/-- Where the going through lines stands: what is to be printed, how many lines were selected, the lines
before that may still be shown, and how many lines behind a selected one are. -/
structure Progress where
  out : List Octets := []
  count : Nat := 0
  waiting : List (Octets × Nat × Nat) := []
  trailing : Nat := 0
  /-- The number of the last line that was shown. -/
  last : Option Nat := none

/-- Goes through lines with their numbers and places. -/
def go (s : Selecting) (name : Octets) : List (Octets × Nat × Nat) → Progress → Progress
  | [], p => p
  | (line, number, byte) :: rest, p =>
    let stopped := s.most.any fun most => most ≤ p.count
    let context (line : Octets) (number byte : Nat) : Octets :=
      if s.asks "o" then [] else s.heading name '-' number byte ++ line ++ [s.finish]
    if stopped then
      if p.trailing = 0 then p
      else go s name rest { p with
        out := context line number byte :: p.out, trailing := p.trailing - 1, last := some number }
    else if s.pattern.selects line then
      let first := (p.waiting.getLast?.map fun w => w.2.1).getD number
      let apart := s.separated && p.last.any fun last => last + 1 ≠ first
      let mark : Octets := match valueOf? s.given "group-separator" with
        | some text => text ++ ['\n']
        | none => "--\n"
      let mark := if s.asks "no-group-separator" then [] else mark
      let out := if apart then mark :: p.out else p.out
      let out := p.waiting.reverse.foldl (fun out (line, number, byte) =>
        context line number byte :: out) out
      go s name rest
        { out := s.shown name line number byte :: out, count := p.count + 1, waiting := []
          trailing := s.after, last := some number }
    else if 0 < p.trailing then
      go s name rest { p with
        out := context line number byte :: p.out, trailing := p.trailing - 1, last := some number }
    else go s name rest { p with waiting := ((line, number, byte) :: p.waiting).take s.before }

/-- The lines of a text with their numbers and places. -/
def numbered (s : Selecting) (text : Octets) : List (Octets × Nat × Nat) :=
  let lines := (countedParts false s.finish text).map fun part =>
    if part.getLast? = some s.finish then part.dropLast else part
  let (rows, _, _) := lines.foldl (fun (done : List (Octets × Nat × Nat) × Nat × Nat) line =>
    let (rows, number, byte) := done
    ((line, number, byte) :: rows, number + 1, byte + line.length + 1)) ([], 1, 0)
  rows.reverse

/-- Selects lines of a text and prints what is asked for: whether any was selected. -/
def show_ (s : Selecting) (name : Octets) (text : Octets) : Run Bool := do
  let ending : Octets := if s.asks "Z" then ['\x00'] else ['\n']
  let rows := s.numbered text
  let count : Nat :=
    let quick := s.asks "q" || s.asks "l" || s.asks "L"
    let most := if quick then some (min 1 (s.most.getD 1)) else s.most
    let plain := { s with before := 0, after := 0, most }
    (plain.go name rows {}).count
  let isBinary := !s.asks "z" && !s.asks "a" &&
    (valueOf? s.given "binary-files" != some "text".toList) && text.contains '\x00'
  let skipsBinary := s.asks "I" || valueOf? s.given "binary-files" == some "without-match".toList
  if isBinary && skipsBinary then
    if s.asks "c" && !s.asks "q" then
      Run.print ((if s.named then name ++ [':'] else []) ++ ['0', '\n'])
    if s.asks "L" && !s.asks "q" then Run.print (name ++ ending)
    return false
  if s.asks "q" then return 0 < count
  match lastOf? s.given ["l", "L"] with
  | some g =>
    if s.asks "c" then
      Run.print ((if s.named then name ++ [':'] else []) ++ Octets.ofNat count ++ ['\n'])
    if (g.key == "l") == decide (0 < count) then Run.print (name ++ ending)
    return 0 < count
  | none => pure ()
  if s.asks "c" then
    Run.print ((if s.named then name ++ [if s.asks "Z" then '\x00' else ':'] else []) ++
      Octets.ofNat count ++ ['\n'])
    return 0 < count
  if isBinary then
    if 0 < count then Run.print ("grep: " ++ name ++ ": binary file matches\n")
    return 0 < count
  let done := s.go name rows {}
  Run.print done.out.reverse.flatten
  return 0 < count

end Selecting

/-- Reads the patterns that options or the first operand give: them, and the names of files. -/
def readPatterns (given : List Given) (operands : List Octets) :
    Run (List Octets × List Octets) := do
  let sources := given.filter fun g => g.key == "e" || g.key == "f"
  if sources.isEmpty then
    match operands with
    | [] => refuseGrep none
    | pattern :: names => return (Text.pieces '\n' pattern, names)
  let mut patterns : List Octets := []
  for g in sources do
    let argument := g.argument.getD []
    if g.key == "e" then patterns := patterns ++ Text.pieces '\n' argument
    else
      match ← readSource argument with
      | .ok text => patterns := patterns ++ Octets.lines text
      | .error refusal => abandon "grep" 2 (argument ++ ": " ++ reason refusal)
  return (patterns, operands)

/-- Makes patterns ready. -/
def preparePatterns (given : List Given) (patterns : List Octets) : Run (List Regex.Searcher) := do
  let fold := (lastOf? given ["i", "y", "no-ignore-case"]).any fun g => g.key ≠ "no-ignore-case"
  let kind : PatternKind := match lastOf? given ["E", "F", "G", "P"] with
    | some g => if g.key = "F" then .fixed else if g.key = "G" then .basic else .extended
    | none => .basic
  match kind with
  | .fixed => return patterns.map fun text => (Regex.literal fold text).searcher
  | kind =>
    let extended := kind = .extended
    let style : Regex.Style := { extended, fold, looseBounds := extended, looseClose := extended }
    let patterns := if has given "P" then patterns.map perlish else patterns
    let searchers ← patterns.mapM fun text => do
      match Regex.read style text with
      | .ok (r, _) => pure r.searcher
      | .error fault => abandon "grep" 2 fault.text
    for text in patterns do
      for doubt in doubts extended (text.length + 1) true text do
        match doubt with
        | .leadingSign sign => complain "grep" ("warning: " ++ sign ++ " at start of expression")
        | .bareClass => abandon "grep" 2 "character class syntax is [[:space:]], not [:space:]"
    return searchers
where
  /-- Writes the classes of bytes that have letters of their own in brackets. -/
  perlish : Octets → Octets
    | '\\' :: 'd' :: rest => "[0-9]".toList ++ perlish rest
    | '\\' :: 'D' :: rest => "[^0-9]".toList ++ perlish rest
    | '\\' :: 't' :: rest => '\t' :: perlish rest
    | '\\' :: c :: rest => '\\' :: c :: perlish rest
    | '(' :: '?' :: ':' :: rest => '(' :: perlish rest
    | c :: rest => c :: perlish rest
    | [] => []

/-- Files below a folder, as the options choose them. -/
def filesBelow (given : List Given) : Nat → Octets → Path → Run (List Octets)
  | 0, _, _ => return []
  | fuel + 1, name, path => do
    let takes (pattern name : Octets) : Bool :=
      Pattern.matchesAll (Pattern.ofText (pattern.map fun c => (c, false))) name
    let mut found : List Octets := []
    for child in ← childrenOf path do
      let place := path ++ [Octets.toText child]
      let shown := if name.isEmpty then child else inside name child
      match (← Run.machine).thing? place with
      | some .folder =>
        if !(valuesOf given "exclude-dir").any fun p => takes (withoutSlashes p) child then
          found := found ++ (← filesBelow given fuel shown place)
      | some (.file _) =>
        let included := valuesOf given "include"
        if (included.isEmpty || included.any fun p => takes p child) &&
            !(valuesOf given "exclude").any fun p => takes p child then
          found := found ++ [shown]
      | some (.link _) =>
        if has given "R" then
          match ← Run.placeOf shown with
          | .ok (goal, some .folder) => found := found ++ (← filesBelow given fuel shown goal)
          | .ok (_, some _) => found := found ++ [shown]
          | _ => pure ()
      | none => pure ()
    return found

/-- Selects lines by patterns. -/
def grepWith (first : List Given) : Tool := fun arguments => do
  -- A number in place of letters is that of the lines around.
  let arguments := arguments.map fun word => match word with
    | '-' :: d :: ds => if (d :: ds).all Char.isDigit then '-' :: 'C' :: d :: ds else word
    | _ => word
  let (given, operands) ← match grepOptions.read arguments with
    | .error fault => refuseGrep (some fault.text)
    | .ok result => pure result
  if has given "help" then
    Run.print (helpOf "grep")
    return 0
  if has given "version" || has given "V" then
    Run.print (versionOf "grep")
    return 0
  let given := first ++ given
  let number? (key : String) : Run (Option Nat) := do
    match valueOf? given key with
    | none => return none
    | some text =>
      match natural? text with
      | some n => return some n
      | none => abandon "grep" 2 (text ++ ": invalid context length argument")
  let around? ← number? "C"
  let before := ((← number? "B").orElse fun _ => around?).getD 0
  let after := ((← number? "A").orElse fun _ => around?).getD 0
  let separated := has given "A" || has given "B" || has given "C"
  let most ← match valueOf? given "m" with
    | none => pure none
    | some text =>
      match Octets.decimal? text with
      | some n => pure (if n < 0 then none else some n.toNat)
      | none => abandon "grep" 2 "invalid max count"
  let (patterns, names) ← readPatterns given operands
  let searchers ← preparePatterns given patterns
  let pattern : LinePattern :=
    { searchers, words := has given "w", lines := has given "x", inverted := has given "v"
      long := has given "z" }
  let recursive := has given "r" || has given "R" ||
    valueOf? given "d" == some "recurse".toList
  let skipsFolders := valueOf? given "d" == some "skip".toList
  let implied := recursive && names.isEmpty
  let names := if implied then [[]] else if names.isEmpty then [['-']] else names
  let folderGiven ← (names.anyM fun name => Run.isFolder (if name.isEmpty then ['.'] else name) : Run Bool)
  let named := match lastOf? given ["H", "h"] with
    | some g => g.key == "H"
    | none => 1 < names.length || recursive && folderGiven
  let s : Selecting := { pattern, given, most, before, after, separated, named }
  if most == some 0 && !has given "L" then return 1
  let mut found := false
  let mut failed := false
  let wrong (name : Octets) (text : Octets) : Run Unit := do
    if !has given "s" then complain "grep" (name ++ ": " ++ text)
  for operand in names do
    let place? ← Run.placeOf (if operand.isEmpty then ['.'] else operand)
    let files ← match place? with
      | .ok (path, some .folder) =>
        if operand == ['-'] then pure [operand]
        else if recursive then filesBelow given deepestFolder operand path
        else if skipsFolders then pure []
        else do
          wrong operand (reason .isFolder)
          failed := true
          pure []
      | _ => pure [operand]
    for name in files do
      if !(has given "q" && found) then
        match ← readSource name with
        | .error refusal =>
          wrong (if name == ['-'] then (valueOf? given "label").getD "(standard input)" else name)
            (reason refusal)
          failed := true
        | .ok text =>
          let shown := if name == ['-'] then (valueOf? given "label").getD "(standard input)" else name
          let writesBack ← if has given "q" || has given "l" || has given "L" || has given "c" then
              pure false
            else isOutput name ['x']
          if writesBack then
            wrong shown "input file is also the output"
            failed := true
          else if ← s.show_ shown text then found := true
  if found && has given "q" then return 0
  if failed then return 2
  return if found then 0 else 1

/-- Selects lines by patterns. -/
def grep : Tool := grepWith []

end DocMend.Shell.Tool
