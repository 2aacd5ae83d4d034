import DocMend.Shell.Regex.Reading
import DocMend.Shell.Regex.Search
import DocMend.Shell.Tool.Sort
/-!
Tools that cut lines into columns, put them side by side, or break them.
-/

set_option autoImplicit false
set_option relaxedAutoImplicit false

namespace DocMend.Shell.Tool

/-- Numbers from one to another one, or without end. -/
structure NumberRange where
  low : Nat
  high : Option Nat
deriving DecidableEq, Repr

namespace NumberRange

/-- Whether a number is in a range. -/
def contains (r : NumberRange) (n : Nat) : Bool :=
  r.low ≤ n && r.high.all (n ≤ ·)

/-- Reads a list of ranges such as 1,3-5,7-. Blanks separate ranges as commas do. -/
def readAll (fields : Bool) (text : Octets) : Except Octets (List NumberRange) :=
  let kind : Octets := if fields then "field value" else "byte/character position"
  let tooLong (digits : Octets) : Except Octets Unit :=
    if Text.digitsValue digits < largestCount then .ok ()
    else if fields then .error ("field number ".toList ++ marked digits ++ " is too large".toList)
    else .error ("byte/character offset ".toList ++ marked digits ++ " is too large".toList)
  let read (part : Octets) : Except Octets NumberRange := do
    let low := part.takeWhile Char.isDigit
    let rest := part.drop low.length
    tooLong low
    let isZero (digits : Octets) : Bool := !digits.isEmpty && Text.digitsValue digits = 0
    let zero : Octets := if fields then "fields are numbered from 1"
      else "byte/character positions are numbered from 1"
    match rest with
    | [] =>
      if low.isEmpty || isZero low then throw zero
      return ⟨Text.digitsValue low, some (Text.digitsValue low)⟩
    | '-' :: after =>
      let high := after.takeWhile Char.isDigit
      tooLong high
      match after.drop high.length with
      | [] =>
        if low.isEmpty && high.isEmpty then throw "invalid range with no endpoint: -".toList
        if isZero low || low.isEmpty && isZero high then throw zero
        let first := if low.isEmpty then 1 else Text.digitsValue low
        if high.isEmpty then return ⟨first, none⟩
        if Text.digitsValue high < first then throw "invalid decreasing range".toList
        return ⟨first, some (Text.digitsValue high)⟩
      | '-' :: _ => throw (if fields then "invalid field range" else "invalid byte or character range").toList
      | more => throw ("invalid " ++ kind ++ " " ++ marked more)
    | more => throw ("invalid " ++ kind ++ " " ++ marked (if low.isEmpty then part else more))
  let parts := (Text.pieces ',' (text.map fun c => if Octets.isBlank c then ',' else c))
  parts.mapM read

end NumberRange

/-- The options of the tool that cuts columns out of lines. -/
def cutOptions : Options where
  letters := "b:c:d:f:nsz"
  names := ["bytes=b", "characters=c", "delimiter=d", "fields=f", "only-delimited=s",
    "output-delimiter:", "complement", "zero-terminated=z"]

/-- The chosen items, in runs that were side by side or began a range of their own. -/
def chosenRuns (ranges : List NumberRange) (complement : Bool) (items : Octets) : List Octets :=
  let wanted (n : Nat) : Bool := (ranges.any fun r => r.contains n) != complement
  let begins (n : Nat) : Bool :=
    !wanted (n - 1) || n = 1 || !complement && (ranges.any fun r => r.low = n) &&
      !(ranges.any fun r => r.low < n && r.contains n)
  let step (runs : List Octets) (item : Char × Nat) : List Octets :=
    let (c, n) := item
    if !wanted n then runs
    else
      match runs with
      | run :: rest => if begins n then [c] :: run :: rest else (c :: run) :: rest
      | [] => [[c]]
  let numbered := items.zip ((List.range items.length).map (· + 1))
  ((numbered.foldl step []).map List.reverse).reverse

/-- Cuts columns out of lines. -/
def cut : Tool := fun arguments => do
  let (given, names) ← options "cut" 1 cutOptions arguments
  let lists := given.filter fun g => ["b", "c", "f"].contains g.key
  let delimiter ← match valueOf? given "d" with
    | some (_ :: _ :: _) => refuse "cut" 1 "the delimiter must be a single character"
    | some [c] => pure (some c)
    | some [] => pure (some '\x00')
    | none => pure none
  match lists with
  | [] => refuse "cut" 1 "you must specify a list of bytes, characters, or fields"
  | _ :: _ :: _ => refuse "cut" 1 "only one list may be specified"
  | [list] =>
    let fields := list.key == "f"
    if !fields && delimiter.isSome then
      refuse "cut" 1 "an input delimiter may be specified only when operating on fields"
    if !fields && has given "s" then
      refuse "cut" 1 "suppressing non-delimited lines makes sense\n\tonly when operating on fields"
    let ranges ← match NumberRange.readAll fields (list.argument.getD []) with
      | .ok ranges => pure ranges
      | .error fault => refuse "cut" 1 fault
    let finish := finishOf given
    let complement := has given "complement"
    let mark := delimiter.getD '\t'
    let between := (valueOf? given "output-delimiter").getD (if fields then [mark] else [])
    let cutLine (line : Octets) : Option Octets :=
      if fields then
        let all := Text.pieces mark line
        if all.length = 1 then if has given "s" then none else some line
        else
          let numbered := all.zip ((List.range all.length).map (· + 1))
          some (Text.joined between (numbered.filterMap fun (field, n) =>
            if (ranges.any fun r => r.contains n) != complement then some field else none))
      else some (Text.joined between (chosenRuns ranges complement line))
    let mut status := 0
    for name in if names.isEmpty then [['-']] else names do
      match ← readSource name with
      | .error refusal =>
        complain "cut" (shownName name ++ ": " ++ reason refusal)
        status := 1
      | .ok text =>
        let lines := (countedParts false finish text).map fun line =>
          if line.getLast? == some finish then line.dropLast else line
        Run.print ((lines.filterMap cutLine).flatMap fun line => line ++ [finish])
    return status

/-- Delimiters with escapes; an escaped zero stands for none. -/
def delimiters : Octets → List Octets
  | '\\' :: 'n' :: rest => ['\n'] :: delimiters rest
  | '\\' :: 't' :: rest => ['\t'] :: delimiters rest
  | '\\' :: 'b' :: rest => ['\x08'] :: delimiters rest
  | '\\' :: 'f' :: rest => ['\x0c'] :: delimiters rest
  | '\\' :: 'r' :: rest => ['\r'] :: delimiters rest
  | '\\' :: 'v' :: rest => ['\x0b'] :: delimiters rest
  | '\\' :: '\\' :: rest => ['\\'] :: delimiters rest
  | '\\' :: '0' :: rest => [] :: delimiters rest
  | '\\' :: c :: rest => [c] :: delimiters rest
  | c :: rest => [c] :: delimiters rest
  | [] => []

/-- Parts with delimiters between them, which are used in turn. -/
def joinedInTurn (marks : List Octets) : Nat → List Octets → Octets
  | _, [] => []
  | _, [part] => part
  | n, part :: rest =>
    part ++ (marks[n % max 1 marks.length]?).getD [] ++ joinedInTurn marks (n + 1) rest

/-- The options of the tool that puts lines side by side. -/
def pasteOptions : Options where
  letters := "d:sz"
  names := ["delimiters=d", "serial=s", "zero-terminated=z"]

/-- Puts the lines of files side by side, or those of each file into one line. -/
def paste : Tool := fun arguments => do
  let (given, names) ← options "paste" 1 pasteOptions arguments
  let finish := finishOf given
  let marking := (valueOf? given "d").getD []
  if (marking.reverse.takeWhile (· == '\\')).length % 2 = 1 then
    abandon "paste" 1 ("delimiter list ends with an unescaped backslash: " ++ marking)
  let marks := match valueOf? given "d" with
    | some [] => [[]]
    | some text => delimiters text
    | none => [['\t']]
  let names := if names.isEmpty then [['-']] else names
  let mut columns : List (List Octets) := []
  let mut status := 0
  for name in names do
    match ← readSource name with
    | .ok text =>
      columns := columns ++ [(countedParts false finish text).map fun line =>
        if line.getLast? == some finish then line.dropLast else line]
    | .error .isFolder =>
      complain "paste" (shownName name ++ ": " ++ reason .isFolder)
      status := 1
      columns := columns ++ [[]]
    | .error refusal =>
      complain "paste" (shownName name ++ ": " ++ reason refusal)
      if !has given "s" then return 1
      status := 1
  -- The lines of an input that is named several times are dealt out in turn.
  let inputs := names.countP (· == ['-'])
  let dealt := if inputs < 2 || has given "s" then columns
    else
      let lines := ((names.zip columns).filter fun entry => entry.1 == ['-']).flatMap Prod.snd
      let deal (k : Nat) : List Octets :=
        ((lines.zip (List.range lines.length)).filter fun entry => entry.2 % inputs = k).map Prod.fst
      ((names.zip columns).foldl (fun (state : List (List Octets) × Nat) entry =>
        if entry.1 == ['-'] then (state.1 ++ [deal state.2], state.2 + 1)
        else (state.1 ++ [entry.2], state.2)) ([], 0)).1
  if has given "s" then
    for column in dealt do
      Run.print (joinedInTurn marks 0 column ++ [finish])
  else
    let height := (dealt.map List.length).foldl max 0
    for n in List.range height do
      Run.print (joinedInTurn marks 0 (dealt.map fun column => (column[n]?).getD []) ++ [finish])
  return status

/-- The column after a character. -/
def columnAfter (bytes : Bool) (column : Nat) (c : Char) : Nat :=
  if bytes then column + 1
  else if c == '\x08' then column - 1
  else if c == '\r' then 0
  else if c == '\t' then column + 8 - column % 8
  else column + 1

/-- Where a line that is full may be broken: behind its last blank. -/
def breakPlace? (line : Octets) : Option Nat :=
  let after := line.reverse.takeWhile fun c => !Octets.isBlank c
  if after.length = line.length then none else some (line.length - after.length)

/-- Breaks a line that is wider than allowed: the parts, and what remains of it. -/
def folded (bytes spaces : Bool) (width : Nat) :
    Nat → (line : Octets) → (column : Nat) → Octets → List Octets
  | 0, line, _, rest => [line ++ rest]
  | _ + 1, line, _, [] => if line.isEmpty then [] else [line]
  | fuel + 1, line, column, c :: rest =>
    let next := columnAfter bytes column c
    if next ≤ width then folded bytes spaces width fuel (line ++ [c]) next rest
    else
      match if spaces then breakPlace? line else none with
      | some place =>
        let kept := line.drop place
        line.take place ::
          folded bytes spaces width fuel kept (kept.foldl (columnAfter bytes) 0) (c :: rest)
      | none =>
        if line.isEmpty then folded bytes spaces width fuel [c] next rest
        else line :: folded bytes spaces width fuel [] 0 (c :: rest)

/-- The options of the tool that breaks lines. -/
def foldOptions : Options where
  letters := "bsw:0:1:2:3:4:5:6:7:8:9:"
  names := ["bytes=b", "spaces=s", "width=w"]

/-- Breaks lines that are too wide. -/
def fold : Tool := fun arguments => do
  let old (word : Octets) : List Octets := match word with
    | '-' :: c :: rest => if Text.isDigits (c :: rest) then [['-', 'w'], c :: rest] else [word]
    | word => [word]
  let (given, names) ← options "fold" 1 foldOptions (arguments.flatMap old)
  let text := (valueOf? given "w").getD "80"
  let width ← match natural? text with
    | some n =>
      if n = 0 then abandon "fold" 1 ("invalid number of columns: " ++ marked text ++ outOfRange)
      else pure n
    | none => abandon "fold" 1 ("invalid number of columns: " ++ marked text)
  let mut status := 0
  for name in if names.isEmpty then [['-']] else names do
    match ← readSource name with
    | .error refusal =>
      complain "fold" (shownName name ++ ": " ++ reason refusal)
      status := 1
    | .ok text =>
      for line in Text.linesWithEnds text do
        let content := line.filter (· ≠ '\n')
        let parts := folded (has given "b") (has given "s") width (3 * content.length + 3) [] 0 content
        Run.print (Text.joined ['\n'] parts ++ line.drop content.length)
  return status

/-- The places of tab stops: at given columns, and from then on at regular ones, if at all. -/
structure TabStops where
  columns : List Nat := []
  every : Option Nat := none
  /-- The sign in front of the last one, and the column that is the first of the regular ones. -/
  sign : Option Char := none
  base : Nat := 0

namespace TabStops

/-- The first tab stop after a column; there may be none. -/
def after? (stops : TabStops) (column : Nat) : Option Nat :=
  match stops.columns.find? (column < ·) with
  | some place => some place
  | none => stops.every.map fun n => column + n - (column - stops.base) % n

/-- Adds a tab stop to those that were read. A last one may be repeated: from the others on, or from
the beginning of lines. -/
def add (stops : TabStops) (sign : Option Char) (digits : Octets) : Except Octets TabStops := do
  let n := Text.digitsValue digits
  if largestCount < n then throw ("tab stop is too large ".toList ++ marked digits)
  match stops.every, sign with
  | some _, _ =>
    throw (marked [stops.sign.getD '/'] ++ " specifier only allowed with the last value".toList)
  | none, some c => return { stops with every := some n, sign := some c }
  | none, none =>
    if n = 0 then throw "tab size cannot be 0".toList
    if stops.columns.any (n ≤ ·) then throw "tab sizes must be ascending".toList
    return { stops with columns := stops.columns ++ [n] }

/-- Reads a list of tab stops. -/
def readAll : Nat → Octets → TabStops → Except Octets TabStops
  | 0, _, stops => .ok stops
  | _, [], stops => .ok stops
  | fuel + 1, c :: rest, stops => do
    if c == ',' || Octets.isBlank c then readAll fuel rest stops
    else
      let sign : Option Char := if c == '/' || c == '+' then some c else none
      let text := if sign.isSome then rest else c :: rest
      let digits := text.takeWhile Char.isDigit
      let after := text.drop digits.length
      match after with
      | d :: _ =>
        if d == '/' || d == '+' then
          throw (marked [d] ++ " specifier not at start of number: ".toList ++ marked after)
        if !(d == ',' || Octets.isBlank d) then
          throw ("tab size contains invalid character(s): ".toList ++ marked after)
      | [] => pure ()
      let next ← if digits.isEmpty then pure stops else stops.add sign digits
      readAll fuel after next

/-- Reads a list of tab stops; a single one is repeated. -/
def read (text : Octets) : Except Octets TabStops := do
  let stops ← readAll (text.length + 1) text {}
  match stops.columns, stops.every with
  | [], none => return { every := some 8 }
  | [], some n => return { every := some (if n = 0 then 8 else n) }
  | [n], none => return { every := some n }
  | columns, some n =>
    if n = 0 then return { columns }
    if stops.sign == some '+' then
      return { columns, every := some n, base := columns.getLast?.getD 0 }
    return { columns, every := some n }
  | columns, none => return { columns }

end TabStops

/-- A line with tabs turned into spaces, all of them or only those in front. -/
def expanded (stops : TabStops) (onlyStart : Bool) : Nat → Bool → Octets → Octets
  | _, _, [] => []
  | column, atStart, c :: rest =>
    if c == '\t' && (atStart || !onlyStart) then
      let next := (stops.after? column).getD (column + 1)
      List.replicate (next - column) ' ' ++ expanded stops onlyStart next atStart rest
    else
      let next := if c == '\x08' then column - 1 else column + 1
      c :: expanded stops onlyStart next (atStart && Octets.isBlank c) rest

/-- Tab stops that options ask for. -/
def stopsOf (tool : String) (given : List Given) (arguments : Option Octets) : Run TabStops := do
  let text := (valueOf? given "t").orElse fun _ => arguments
  match text with
  | none => return { every := some 8 }
  | some text =>
    match TabStops.read text with
    | .ok stops => return stops
    | .error fault => abandon tool.toList 1 fault

/-- Splits off a tab size that is written as an option of its own. -/
def splitOldStops (arguments : List Octets) : Option Octets × List Octets :=
  let isOld (word : Octets) : Bool := match word with
    | '-' :: rest => !rest.isEmpty && rest.all fun c => c.isDigit || c == ','
    | _ => false
  (((arguments.takeWhile (· ≠ ['-', '-'])).find? isOld).map (·.drop 1),
    arguments.filter fun word => !isOld word)

/-- Turns tabs into spaces. -/
def expand : Tool := fun arguments => do
  let (old, arguments) := splitOldStops arguments
  let (given, names) ← options "expand" 1 { letters := "it:", names := ["initial=i", "tabs=t"] } arguments
  let stops ← stopsOf "expand" given old
  let mut status := 0
  for name in if names.isEmpty then [['-']] else names do
    match ← readSource name with
    | .error refusal =>
      complain "expand" (shownName name ++ ": " ++ reason refusal)
      status := 1
    | .ok text =>
      for line in Text.linesWithEnds text do
        Run.print (expanded stops (has given "i") 0 true line)
  return status

/-- A line with spaces turned into tabs where they reach a tab stop; a single space in front of a stop
stays unless blanks go on behind it. -/
def unexpanded (stops : TabStops) (everywhere : Bool) : Nat → Nat → (pending : Nat) → Bool → Octets → Octets
  | 0, _, pending, _, rest => List.replicate pending ' ' ++ rest
  | _ + 1, _, pending, _, [] => List.replicate pending ' '
  | fuel + 1, column, pending, active, c :: rest =>
    if !active then c :: (if c == '\n' then [] else []) ++ rest
    else if c == ' ' then
      let next := column + 1
      match stops.after? column with
      | some stop =>
        if next = stop then
          if pending = 0 && !(rest.head?.any Octets.isBlank) then
            ' ' :: unexpanded stops everywhere fuel next 0 active rest
          else '\t' :: unexpanded stops everywhere fuel next 0 active rest
        else unexpanded stops everywhere fuel next (pending + 1) active rest
      | none => List.replicate pending ' ' ++ c :: rest
    else if c == '\t' then
      match stops.after? column with
      | some stop => '\t' :: unexpanded stops everywhere fuel stop 0 active rest
      | none => List.replicate pending ' ' ++ c :: rest
    else
      List.replicate pending ' ' ++
        c :: unexpanded stops everywhere fuel (column + 1) 0 everywhere rest

/-- Turns spaces into tabs. -/
def unexpand : Tool := fun arguments => do
  let (old, arguments) := splitOldStops arguments
  let (given, names) ← options "unexpand" 1
    { letters := "at:", names := ["all=a", "first-only", "tabs=t"] } arguments
  let stops ← stopsOf "unexpand" given old
  let everywhere := (has given "a" || has given "t" || old.isSome) && !has given "first-only"
  let mut status := 0
  for name in if names.isEmpty then [['-']] else names do
    match ← readSource name with
    | .error refusal =>
      complain "unexpand" (shownName name ++ ": " ++ reason refusal)
      status := 1
    | .ok text =>
      for line in Text.linesWithEnds text do
        Run.print (unexpanded stops everywhere (line.length + 1) 0 0 true line)
  return status

/-- Which lines of a section are numbered. -/
inductive Numbering where
  | all
  | filled
  | none
  | found (x : Regex.Searcher)

namespace Numbering

/-- Reads a style of numbering. -/
def read? (text : Octets) : Option Numbering :=
  match text with
  | ['a'] => some .all
  | ['t'] => some .filled
  | ['n'] => some .none
  | 'p' :: source =>
    match Regex.read { extended := false, refusesStacked := true } source with
    | .ok (r, _) => some (.found r.searcher)
    | .error _ => Option.none
  | _ => Option.none

/-- Whether a line is numbered; of empty lines in a row only the last one of a group is. -/
def takes (style : Numbering) (line : Octets) : Bool :=
  match style with
  | .all => true
  | .filled => !line.isEmpty
  | .none => false
  | .found x => x.occurs line

end Numbering

/-- The options of the tool that numbers lines. -/
def nlOptions : Options where
  letters := "b:d:f:h:i:l:n:ps:v:w:"
  names := ["body-numbering=b", "section-delimiter=d", "footer-numbering=f", "header-numbering=h",
    "line-increment=i", "join-blank-lines=l", "number-format=n", "no-renumber=p",
    "number-separator=s", "starting-line-number=v", "number-width=w"]

/-- Numbers lines. -/
def nl : Tool := fun arguments => do
  let (given, names) ← options "nl" 1 nlOptions arguments
  let style (key : String) (usual : Numbering) (part : Octets) : Run Numbering := do
    match valueOf? given key with
    | .none => return usual
    | some text =>
      match Numbering.read? text with
      | some style => return style
      | .none =>
        complain "nl" ("invalid " ++ part ++ " numbering style: " ++ marked text)
        giveUp "nl" 1
  let headStyle ← style "h" .none "header"
  let bodyStyle ← style "b" .filled "body"
  let footStyle ← style "f" .none "footer"
  let number (key : String) (usual : Int) (fault : Octets) (least : Int := smallestInteger) :
      Run Int := do
    match valueOf? given key with
    | .none => return usual
    | some text =>
      match Octets.decimal? text with
      | some n =>
        if n < least then abandon "nl" 1 (fault ++ ": " ++ marked text ++ outOfRange) else return n
      | .none => abandon "nl" 1 (fault ++ ": " ++ marked text)
  let start ← number "v" 1 "invalid starting line number"
  let step ← number "i" 1 "invalid line number increment"
  let width := (← number "w" 6 "invalid line number field width" 1).toNat
  let joined := (← number "l" 1 "invalid line number of blank lines" 1).toNat
  let format := (valueOf? given "n").getD "rn"
  if !(["ln", "rn", "rz"].contains (Octets.name format)) then
    complain "nl" ("invalid line numbering format: " ++ marked format)
    giveUp "nl" 1
  let between := (valueOf? given "s").getD ['\t']
  let mark := match valueOf? given "d" with
    | some [c] => [c, ':']
    | some text => text
    | .none => ['\\', ':']
  let shown (n : Int) : Octets :=
    let digits := Octets.ofNat n.natAbs
    let sign : Octets := if n < 0 then ['-'] else []
    if format == "ln".toList then toLeft width (sign ++ digits)
    else if format == "rz".toList then
      sign ++ List.replicate (width - sign.length - digits.length) '0' ++ digits
    else toRight width (sign ++ digits)
  let blank := List.replicate (width + between.length) ' '
  let mut status := 0
  let mut current := bodyStyle
  let mut n := start
  let mut empties := 0
  for name in if names.isEmpty then [['-']] else names do
    match ← readSource name with
    | .error refusal =>
      complain "nl" (shownName name ++ ": " ++ reason refusal)
      status := 1
    | .ok text =>
      for line in Octets.lines text do
        let renumber := !has given "p"
        if !mark.isEmpty && line == mark ++ mark ++ mark then
          current := headStyle
          if renumber then n := start
          Run.print ['\n']
        else if !mark.isEmpty && line == mark ++ mark then
          current := bodyStyle
          if renumber then n := start
          Run.print ['\n']
        else if !mark.isEmpty && line == mark then
          current := footStyle
          if renumber then n := start
          Run.print ['\n']
        else
          let wanted :=
            if line.isEmpty && 1 < joined && (match current with
              | .all => true
              | _ => false) then empties + 1 = joined
            else current.takes line
          empties := if line.isEmpty && !wanted then empties + 1 else 0
          if wanted then
            Run.printLine (shown n ++ between ++ line)
            n := n + step
          else Run.printLine (blank ++ line)
  return status

/-- The options of the tool that joins lines by a field. -/
def joinOptions : Options where
  letters := "a:e:i1:2:j:o:t:v:z"
  names := ["ignore-case=i", "check-order", "nocheck-order", "zero-terminated=z", "header"]

/-- Joins the lines of two sorted files that have a field in common. -/
def join : Tool := fun arguments => do
  let (given, names) ← options "join" 1 joinOptions arguments
  let (first, second) ← twoOperands "join" 1 names
  let finish := finishOf given
  let left ← pairedLines "join" finish first
  let right ← pairedLines "join" finish second
  let separator : Option Char ← match valueOf? given "t" with
    | none => pure none
    | some [] => pure (some '\n')
    | some [c] => pure (some c)
    | some ['\\', '0'] => pure (some '\x00')
    | some text => abandon "join" 1 ("multi-character tab " ++ marked text)
  let fieldsOf (line : Octets) : List Octets := match separator with
    | some mark => Text.pieces mark line
    | none =>
      let parts := Text.pieces ' ' (line.map fun c => if Octets.isBlank c then ' ' else c)
      parts.filter (· ≠ [])
  for side in valuesOf given "a" ++ valuesOf given "v" do
    if !([['1'], ['2']].contains side) then abandon "join" 1 ("invalid field number: " ++ marked side)
  let fieldNumber (text : Octets) : Run Nat := do
    match natural? text with
    | some (n + 1) => return n
    | _ => abandon "join" 1 ("invalid field number: " ++ marked text)
  let number (key : String) : Run Nat := do
    match lastOf? given ["j", key] with
    | some g => fieldNumber (g.argument.getD [])
    | none => return 0
  let leftField ← number "1"
  let rightField ← number "2"
  let between : Octets := [separator.getD ' ']
  let filler := (valueOf? given "e").getD []
  let fold (text : Octets) : Octets := if has given "i" then text.map Char.toLower else text
  let keyOf (n : Nat) (fields : List Octets) : Octets := fold ((fields[n]?).getD [])
  let format? : Option (List Octets) := (valueOf? given "o").map fun text =>
    (Text.pieces ',' (text.map fun c => if Octets.isBlank c then ',' else c)).filter (· ≠ [])
  for spec in format?.getD [] do
    match spec with
    | ['0'] => pure ()
    | '1' :: '.' :: digits => let _ ← fieldNumber digits
    | '2' :: '.' :: digits => let _ ← fieldNumber digits
    | '0' :: _ => abandon "join" 1 ("invalid field specifier: " ++ marked spec)
    | ['1'] => abandon "join" 1 ("invalid field specifier: " ++ marked spec)
    | ['2'] => abandon "join" 1 ("invalid field specifier: " ++ marked spec)
    | spec =>
      if spec != "auto".toList then
        abandon "join" 1 ("invalid file number in field spec: " ++ marked spec)
  let widths (lines : List Octets) : Nat := ((lines.head?).map fun line => (fieldsOf line).length).getD 0
  let format? : Option (List Octets) := format?.map fun format =>
    if format == ["auto".toList] then
      ['0'] ::
        (((List.range (widths left)).filter (· ≠ leftField)).map fun n =>
          ['1', '.'] ++ Octets.ofNat (n + 1)) ++
        (((List.range (widths right)).filter (· ≠ rightField)).map fun n =>
          ['2', '.'] ++ Octets.ofNat (n + 1))
    else format
  let without (n : Nat) (fields : List Octets) : List Octets := fields.take n ++ fields.drop (n + 1)
  let row (a? b? : Option (List Octets)) : Octets :=
    let key := match a?, b? with
      | some a, _ => (a[leftField]?).getD []
      | none, some b => (b[rightField]?).getD []
      | none, none => []
    let fill (text? : Option Octets) : Octets := match text? with
      | some [] => filler
      | some text => text
      | none => filler
    match format? with
    | some format =>
      Text.joined between (format.map fun spec => match spec with
        | ['0'] => key
        | '1' :: '.' :: digits => fill ((a?.getD [])[Text.digitsValue digits - 1]?)
        | '2' :: '.' :: digits => fill ((b?.getD [])[Text.digitsValue digits - 1]?)
        | _ => [])
    | none =>
      Text.joined between (key :: (a?.map (without leftField)).getD [] ++
        (b?.map (without rightField)).getD [])
  let wants (side : Octets) : Bool :=
    (valuesOf given "a").contains side || (valuesOf given "v").contains side
  let pairs := (valuesOf given "v").isEmpty
  let (heads, left, right) : List Octets × List Octets × List Octets :=
    if has given "header" then
      ([row (left.head?.map fieldsOf) (right.head?.map fieldsOf)], left.drop 1, right.drop 1)
    else ([], left, right)
  let rec go : Nat → List (List Octets) → List (List Octets) → List Octets
    | 0, _, _ => []
    | fuel + 1, as, bs =>
      match as, bs with
      | [], bs => if wants ['2'] then bs.map fun b => row none (some b) else []
      | as, [] => if wants ['1'] then as.map fun a => row (some a) none else []
      | a :: as, b :: bs =>
        let x := keyOf leftField a
        let y := keyOf rightField b
        match SortKey.compareBytes x y with
        | .lt =>
          (if wants ['1'] then [row (some a) none] else []) ++ go fuel as (b :: bs)
        | .gt =>
          (if wants ['2'] then [row none (some b)] else []) ++ go fuel (a :: as) bs
        | .eq =>
          let sameLeft := a :: as.takeWhile fun other => keyOf leftField other == x
          let sameRight := b :: bs.takeWhile fun other => keyOf rightField other == y
          (if pairs then
            sameLeft.flatMap fun a => sameRight.map fun b => row (some a) (some b)
          else []) ++
            go fuel (as.drop (sameLeft.length - 1)) (bs.drop (sameRight.length - 1))
  let rows := heads ++
    go (left.length + right.length + 1) (left.map fieldsOf) (right.map fieldsOf)
  Run.print (rows.flatMap fun line => line ++ [finish])
  let order : LineOrder :=
    { keys := [], separator := none, stable := false, reverse := false }
  let wrong (n : Nat) (lines : List Octets) : Option (Nat × Octets) :=
    (order.firstWrong? false 1 (lines.map fun line => keyOf n (fieldsOf line))).bind fun (k, _) =>
      (lines[k - 1]?).map fun line => (k, line)
  let mut failed := false
  if !has given "nocheck-order" then
    for (name, found?) in [(first, wrong leftField left), (second, wrong rightField right)] do
      match found? with
      | some (n, line) =>
        complain "join" (shownName name ++ ":" ++ Octets.ofNat n ++ ": is not sorted: " ++ line)
        failed := true
      | none => pure ()
  if failed then
    complain "join" "input is not in sorted order"
    return 1
  return 0

end DocMend.Shell.Tool
