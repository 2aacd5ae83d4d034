import DocMend.Shell.Difference
import DocMend.Shell.Tool.Files
import DocMend.Shell.Tool.Show
/-!
Tools that compare files, byte by byte and line by line.
-/

set_option autoImplicit false
set_option relaxedAutoImplicit false

namespace DocMend.Shell.Tool

/-- Points to the description of a tool that compares, and gives up. -/
def refuseComparison {α : Type} (tool text : Octets) : Run α := do
  complain tool text
  complain tool ("Try " ++ marked (tool ++ " --help") ++ " for more information.")
  Run.setStatus 2
  throw .failure

/-- Reads the options of a tool that compares. -/
def comparisonOptions (tool : String) (o : Options) (arguments : List Octets) :
    Run (List Given × List Octets) := do
  match o.read arguments with
  | .error fault => refuseComparison tool.toList fault.text
  | .ok (given, operands) =>
    if has given "help" then
      Run.print (helpOf tool)
      Run.setStatus 0
      throw .failure
    if has given "version" then
      Run.print (versionOf tool)
      Run.setStatus 0
      throw .failure
    return (given, operands)

/-- The places of two texts where they differ, with the bytes there, counted from one. -/
def unequalBytes : Nat → Octets → Octets → List (Nat × Char × Char)
  | n, a :: as, b :: bs =>
    if a == b then unequalBytes (n + 1) as bs else (n, a, b) :: unequalBytes (n + 1) as bs
  | _, _, _ => []

/-- Compares two files byte by byte. -/
def cmp : Tool := fun arguments => do
  let (given, names) ← comparisonOptions "cmp"
    { letters := "bci:ln:sv"
      names := ["print-bytes=b", "print-chars=c", "ignore-initial=i", "verbose=l", "bytes=n", "quiet=s",
        "silent=s"] } arguments
  let (first, second) ← match names with
    | [] =>
      refuseComparison "cmp" ("missing operand after " ++ marked ((arguments.getLast?).getD "cmp"))
    | [first] => pure (first, ['-'])
    | first :: second :: _ => pure (first, second)
  match names[4]? with
  | some extra => refuseComparison "cmp" ("extra operand " ++ marked extra)
  | none => pure ()
  let skipOf (text : Octets) : Run Nat := do
    match scaled? text with
    | some n => return n
    | none => refuseComparison "cmp" ("invalid --ignore-initial value " ++ marked text)
  let (left, right) ← match valueOf? given "i" with
    | some text =>
      match Text.pieces ':' text with
      | [a, b] => pure (← skipOf a, ← skipOf b)
      | _ => do
        let n ← skipOf text
        pure (n, n)
    | none => pure (0, 0)
  let left ← match names[2]? with
    | some text => skipOf text
    | none => pure left
  let right ← match names[3]? with
    | some text => skipOf text
    | none => pure right
  let most? ← match valueOf? given "n" with
    | none => pure none
    | some text =>
      match scaled? text with
      | some n => pure (some n)
      | none => refuseComparison "cmp" ("invalid --bytes value " ++ marked text)
  if first == second && left = right then return 0
  let read (name : Octets) (skip : Nat) : Run Octets := do
    match ← readSource name with
    | .ok text =>
      let text := text.drop skip
      return match most? with
        | some most => text.take most
        | none => text
    | .error refusal => abandon "cmp" 2 (name ++ ": " ++ reason refusal)
  let a ← read first left
  let b ← read second right
  let quiet := has given "s"
  let bytes := has given "b" || has given "c"
  let octal (c : Char) : Octets := toRight 3 (Nat.toDigits 8 c.toNat)
  let shown (c : Char) : Octets := if c == '\n' then "^J" else if c == '\t' then "^I" else visible c
  let found := unequalBytes 1 a b
  if has given "l" then
    let width := (Octets.ofNat (min a.length b.length)).length
    for (n, c, d) in found do
      let place := toRight width (Octets.ofNat n)
      Run.printLine (if bytes then
          place ++ [' '] ++ octal c ++ [' '] ++ toLeft 4 (shown c) ++ [' '] ++ octal d ++ [' '] ++ shown d
        else place ++ [' '] ++ octal c ++ [' '] ++ octal d)
  else
    match found with
    | (n, c, d) :: _ =>
      let line := (a.take (n - 1)).countP (· == '\n') + 1
      if !quiet then
        Run.printLine (first ++ [' '] ++ second ++ " differ: ".toList ++
          (if bytes then "byte ".toList else "char ".toList) ++ Octets.ofNat n ++ ", line ".toList ++
          Octets.ofNat line ++
          (if bytes then " is ".toList ++ octal c ++ [' '] ++ shown c ++ [' '] ++ octal d ++ [' '] ++ shown d
          else []))
      return 1
    | [] => pure ()
  if a.length != b.length then
    let (shorter, name) := if a.length < b.length then (a, first) else (b, second)
    if !quiet then
      if shorter.isEmpty then complain "cmp" ("EOF on " ++ name ++ " which is empty")
      else
        let lines := shorter.countP (· == '\n')
        let place : Octets :=
          if has given "l" then []
          else if shorter.getLast? = some '\n' then ", line ".toList ++ Octets.ofNat lines
          else ", in line ".toList ++ Octets.ofNat (lines + 1)
        complain "cmp" ("EOF on " ++ name ++ " after byte " ++ Octets.ofNat shorter.length ++ place)
    return 1
  return if found.isEmpty then 0 else 1

/-- How differences are written. -/
inductive DiffStyle where
  | normal
  | unified
  | context
  | script
  | commands
  | columns
  | brief
deriving DecidableEq, Repr

/-- What counts as a difference, and how differences are written. -/
structure Diff where
  style : DiffStyle
  around : Nat
  given : List Given
  /-- The options as they were written. -/
  switches : List Octets
  labels : List Octets

namespace Diff

/-- Whether something is asked for. -/
def asks (d : Diff) (key : String) : Bool :=
  has d.given key

/-- Text with every run of blanks as one space, and none at the end. -/
def squeezedBlanks : Octets → Octets
  | [] => []
  | c :: rest =>
    let more := squeezedBlanks rest
    if Octets.isSpace c then
      match more with
      | [] => []
      | ' ' :: _ => more
      | _ => ' ' :: more
    else c :: more

/-- The part of a line that counts when it is compared. -/
def key (d : Diff) (line : Octets) : Octets :=
  let ended := line.getLast? = some '\n'
  let text := if ended then line.dropLast else line
  let text := if d.asks "strip-trailing-cr" && ended && text.getLast? = some '\r' then text.dropLast
    else text
  let loose := d.asks "w" || d.asks "b" || d.asks "Z"
  let text :=
    if d.asks "w" then text.filter fun c => !Octets.isSpace c
    else if d.asks "b" then squeezedBlanks text
    else if d.asks "Z" then (text.reverse.dropWhile Octets.isSpace).reverse
    else text
  let text := if d.asks "i" then text.map Char.toLower else text
  if ended || loose then text ++ ['\n'] else text

/-- The lines of two files with their ends, and the changes between them. -/
structure Sides where
  first : Array Octets
  second : Array Octets
  changes : List Difference.Change

/-- Compares the lines of two texts. -/
def sides (d : Diff) (first second : Octets) : Sides :=
  let a := (Text.linesWithEnds first).map fun line => (line, d.key line)
  let b := (Text.linesWithEnds second).map fun line => (line, d.key line)
  let known := ((a ++ b).map Prod.snd).eraseDups
  let number (entry : Octets × Octets) : Nat := known.idxOf entry.2
  let pair : Difference.Pair := ⟨(a.map number).toArray, (b.map number).toArray⟩
  ⟨(a.map Prod.fst).toArray, (b.map Prod.fst).toArray, Difference.changes d.around pair⟩

/-- Lines from a place on. -/
def part (lines : Array Octets) (start count : Nat) : List Octets :=
  (lines.extract start (start + count)).toList

/-- Whether a change does not count. -/
def isIdle (d : Diff) (s : Sides) (c : Difference.Change) : Bool :=
  let lines := part s.first c.first c.removed ++ part s.second c.second c.added
  let isBlank (line : Octets) : Bool :=
    line == ['\n'] || (d.asks "w" || d.asks "b" || d.asks "Z") && line.all Octets.isSpace
  d.asks "B" && lines.all isBlank

/-- Lines behind a mark; the last one of a file may lack its end. -/
def signed (mark : Octets) (lines : List Octets) : Octets :=
  lines.flatMap fun line =>
    mark ++ (if line.getLast? = some '\n' then line
      else line ++ "\n\\ No newline at end of file\n".toList)

/-- The numbers of the first and the last of some lines; none are the ones in front. -/
def range (start count : Nat) : Octets :=
  if count ≤ 1 then Octets.ofNat (start + count)
  else Octets.ofNat (start + 1) ++ [','] ++ Octets.ofNat (start + count)

/-- A change in the normal style. -/
def normal (s : Sides) (c : Difference.Change) : Octets :=
  let letter := if c.removed = 0 then 'a' else if c.added = 0 then 'd' else 'c'
  range c.first c.removed ++ [letter] ++ range c.second c.added ++ ['\n'] ++
    signed "< ".toList (part s.first c.first c.removed) ++
    (if letter == 'c' then "---\n".toList else []) ++
    signed "> ".toList (part s.second c.second c.added)

/-- A change as commands of an editor. -/
def commands (s : Sides) (c : Difference.Change) : Octets :=
  let letter := if c.removed = 0 then 'a' else if c.added = 0 then 'd' else 'c'
  range c.first c.removed ++ [letter, '\n'] ++
    (if c.added = 0 then [] else (part s.second c.second c.added).flatten ++ ".\n".toList)

/-- A change as a script of counted lines. -/
def script (s : Sides) (c : Difference.Change) : Octets :=
  let counted (letter : Char) (start count : Nat) : Octets :=
    if count = 0 then []
    else [letter] ++ Octets.ofNat start ++ [' '] ++ Octets.ofNat count ++ ['\n']
  counted 'd' (c.first + 1) c.removed ++
    (if c.added = 0 then []
    else counted 'a' (c.first + c.removed) c.added ++ (part s.second c.second c.added).flatten)

/-- Changes in groups that are shown together. -/
def grouped (d : Diff) (s : Sides) : List Difference.Change → List (List Difference.Change)
  | [] => []
  | c :: rest =>
    match grouped d s rest with
    | (next :: group) :: groups =>
      let isNear := next.first - (c.first + c.removed) <
        (if isIdle d s c || isIdle d s next then d.around else 2 * d.around + 1)
      if isNear then (c :: next :: group) :: groups else [c] :: (next :: group) :: groups
    | groups => [c] :: groups

/-- The lines around a group of changes: where they begin and end in both files. -/
def region (d : Diff) (s : Sides) (group : List Difference.Change) : Difference.Region :=
  match group.head?, group.getLast? with
  | some first, some last =>
    { left := first.first - d.around
      right := min s.first.size (last.first + last.removed + d.around)
      top := first.second - d.around
      bottom := min s.second.size (last.second + last.added + d.around) }
  | _, _ => ⟨0, 0, 0, 0⟩

/-- The range of a group in the unified style. -/
def unifiedRange (start stop : Nat) : Octets :=
  if stop = start + 1 then Octets.ofNat stop
  else Octets.ofNat (if stop = start then start else start + 1) ++ [','] ++ Octets.ofNat (stop - start)

/-- A group of changes in the unified style. -/
def unified (d : Diff) (s : Sides) (group : List Difference.Change) : Octets :=
  let r := region d s group
  let (body, place) := group.foldl (fun (out, place) (c : Difference.Change) =>
    (out ++ signed [' '] (part s.first place (c.first - place)) ++
      signed ['-'] (part s.first c.first c.removed) ++
      signed ['+'] (part s.second c.second c.added), c.first + c.removed)) (([] : Octets), r.left)
  "@@ -".toList ++ unifiedRange r.left r.right ++ " +".toList ++ unifiedRange r.top r.bottom ++
    " @@\n".toList ++ body ++ signed [' '] (part s.first place (r.right - place))

/-- The range of a group in the style with context. -/
def contextRange (start stop : Nat) : Octets :=
  if stop ≤ start + 1 then Octets.ofNat stop
  else Octets.ofNat (start + 1) ++ [','] ++ Octets.ofNat stop

/-- A group of changes in the style with context. -/
def context (d : Diff) (s : Sides) (group : List Difference.Change) : Octets :=
  let r := region d s group
  let side (sign : Char) (lines : Array Octets) (start stop : Nat)
      (place count other : Difference.Change → Nat) : Octets :=
    if group.all fun c => count c = 0 then []
    else
      let (body, last) := group.foldl (fun (out, before) c =>
        (out ++ signed "  ".toList (part lines before (place c - before)) ++
          signed [if other c = 0 then sign else '!', ' '] (part lines (place c) (count c)),
          place c + count c)) (([] : Octets), start)
      body ++ signed "  ".toList (part lines last (stop - last))
  "***************\n*** ".toList ++ contextRange r.left r.right ++ " ****\n".toList ++
    side '-' s.first r.left r.right (fun c => c.first) (fun c => c.removed) (fun c => c.added) ++
    "--- ".toList ++ contextRange r.top r.bottom ++ " ----\n".toList ++
    side '+' s.second r.top r.bottom (fun c => c.second) (fun c => c.added) (fun c => c.removed)

/-- Half of a line in two columns, cut where the column is full, and the column behind it. -/
def half (limit : Nat) : Nat → Octets → Octets × Nat
  | column, [] => ([], column)
  | column, c :: rest =>
    if c == '\n' then ([], column)
    else
      let next := if c == '\t' then column + 8 - column % 8 else column + 1
      if limit < next then ([], column)
      else
        let (more, last) := half limit next rest
        (c :: more, last)

/-- Blanks from one column to another, with tabs where they reach a stop. -/
def gap : Nat → (start goal : Nat) → Octets
  | 0, _, _ => []
  | fuel + 1, start, goal =>
    let stop := start + 8 - start % 8
    if goal ≤ start then []
    else if stop ≤ goal then '\t' :: gap fuel stop goal
    else ' ' :: gap fuel (start + 1) goal

/-- A row of two columns. -/
def row (width : Nat) (left? right? : Option Octets) (sign : Char) : Octets :=
  let offset := (width + 11) / 16 * 8
  let limit := min (offset - 3) (width - offset)
  let second := if limit = 0 then width else offset
  let isEnded (line? : Option Octets) : Bool := line?.any fun line => line.getLast? = some '\n'
  let (left, column) := match left? with
    | some line => half limit 0 line
    | none => ([], 0)
  let sign := if sign == '|' && isEnded left? != isEnded right? then
      (if isEnded left? then '/' else '\\') else sign
  let middle := (limit + second - 1) / 2
  let (between, column) : Octets × Nat :=
    if sign == ' ' then ([], column) else (gap (width + 1) column middle ++ [sign], middle + 1)
  let right := match right? with
    | some line =>
      if line == ['\n'] then []
      else gap (width + 1) column second ++ (half (second + limit) second line).1
    | none => []
  left ++ between ++ right ++ (if isEnded left? || isEnded right? then ['\n'] else [])

/-- Both files in two columns. -/
def columns (d : Diff) (s : Sides) : Octets :=
  let width := ((valueOf? d.given "W").bind natural?).getD 130
  let common (start stop other : Nat) : Octets :=
    if d.asks "suppress-common-lines" then []
    else
      ((part s.first start (stop - start)).zip (part s.second other (stop - start))).flatMap
        fun (a, b) => if d.asks "left-column" then row width (some a) none '(' else row width (some a) (some b) ' '
  let changed (c : Difference.Change) : Octets :=
    (List.range (max c.removed c.added)).flatMap fun n =>
      let left? := if n < c.removed then s.first[c.first + n]? else none
      let right? := if n < c.added then s.second[c.second + n]? else none
      row width left? right? (match left?, right? with
        | some _, some _ => '|'
        | some _, none => '<'
        | _, _ => '>')
  let (out, place, other) := s.changes.foldl (fun (out, place, other) c =>
    (out ++ common place c.first other ++ changed c, c.first + c.removed, c.second + c.added))
    (([] : Octets), 0, 0)
  out ++ common place s.first.size other

/-- The first line about a file in styles with a heading. -/
def heading (m : Machine) (folder : Path) (sign : String) (label? : Option Octets) (name : Octets) :
    Octets :=
  let shown := match label? with
    | some label => label
    | none =>
      let time := match m.locate folder (Octets.toText name) with
        | .ok path => m.timeOf path
        | .error _ => m.now
      name ++ ['\t'] ++ (Moment.ofThousandths time).format "%Y-%m-%d %H:%M:%S.%N %z" true
  sign.toList ++ shown ++ ['\n']

/-- Writes the differences of two files; whether there are any. -/
def write (d : Diff) (nested : Bool) (first second : Octets) (a b : Octets) : Run Bool := do
  let label? := d.labels.head?
  let other? := (d.labels[1]?)
  let names : Octets := label?.getD first ++ " and ".toList ++ other?.getD second
  let isBinary (text : Octets) : Bool := text.contains '\x00'
  if (isBinary a || isBinary b) && !d.asks "a" then
    if a == b then return false
    Run.printLine ((if d.style = .brief then "Files " else "Binary files ") ++ names ++ " differ")
    return true
  let s := d.sides a b
  let counting := s.changes.filter fun c => !d.isIdle s c
  if counting.isEmpty then
    if d.style = .columns then Run.print (d.columns s)
    return false
  if d.style = .brief then
    Run.printLine ("Files " ++ names ++ " differ")
    return true
  if nested then
    Run.printLine (Text.joined [' '] ("diff".toList :: d.switches.map shownName ++
      [shownName (label?.getD first), shownName (other?.getD second)]))
  let m ← Run.machine
  let folder := (← Run.self).folder
  let groups := (d.grouped s s.changes).filter fun group => !group.all (d.isIdle s)
  match d.style with
  | .unified =>
    Run.print (heading m folder "--- " label? first ++ heading m folder "+++ " other? second ++
      groups.flatMap (d.unified s))
  | .context =>
    Run.print (heading m folder "*** " label? first ++ heading m folder "--- " other? second ++
      groups.flatMap (d.context s))
  | .commands => Run.print (counting.reverse.flatMap (commands s))
  | .script => Run.print (counting.flatMap (script s))
  | .columns => Run.print (d.columns s)
  | _ => Run.print (counting.flatMap (normal s))
  return true

/-- Notes that two names stand for things of different kinds. -/
def mismatch (first second : Octets) (a? b? : Option Thing) : Run (Bool × Bool) := do
  let kind (thing? : Option Thing) : Octets := (thing?.map kindOf).getD []
  Run.printLine ("File " ++ first ++ " is a " ++ kind a? ++ " while file " ++ second ++ " is a " ++
    kind b?)
  return (true, false)

/-- Compares what is in two folders, of which one may be missing. -/
def folders (d : Diff) (compare : Octets → Octets → Run (Bool × Bool)) (first second : Octets) :
    Run (Bool × Bool) := do
  let childrenAt (name : Octets) : Run (List Octets) := do
    match ← Run.placeOf name with
    | .ok (path, some .folder) => childrenOf path
    | _ => return []
  let excluded := valuesOf d.given "x"
  let shows (name : Octets) : Bool :=
    !excluded.any fun text => Pattern.matchesAll (Pattern.ofText (text.map fun c => (c, false))) name
  let left := (← childrenAt first).filter shows
  let right := (← childrenAt second).filter shows
  let mut differs := false
  let mut failed := false
  for name in sortedTexts (left ++ right).eraseDups do
    let isLone := !left.contains name || !right.contains name
    if isLone && !d.asks "N" then
      Run.printLine ("Only in " ++ (if left.contains name then first else second) ++ ": " ++ name)
      differs := true
    else
      let result ← compare (inside first name) (inside second name)
      if result.1 then differs := true
      if result.2 then failed := true
  return (differs, failed)

/-- Compares what two names stand for: whether they differ, and whether something went wrong. -/
def compare (d : Diff) : Nat → (nested : Bool) → (first second : Octets) → Run (Bool × Bool)
  | 0, _, _, _ => return (false, false)
  | fuel + 1, nested, first, second => do
    let place (name : Octets) : Run (Except Refusal (Option Thing)) := do
      if name == ['-'] then return .ok (some (.file []))
      if (← Run.node? name).isNone then
        match ← readSource name with
        | .ok _ => return .ok (some (.file []))
        | .error .missing => return .ok none
        | .error refusal => return .error refusal
      return (← Run.placeOf name).map Prod.snd
    let a ← place first
    let b ← place second
    let wrong (name : Octets) (text : Octets) : Run Unit := complain "diff" (name ++ ": " ++ text)
    let absent := d.asks "N"
    match a, b with
    | .error x, .error y =>
      wrong first (reason x)
      wrong second (reason y)
      return (false, true)
    | .error x, _ =>
      wrong first (reason x)
      return (false, true)
    | _, .error y =>
      wrong second (reason y)
      return (false, true)
    | .ok none, .ok none =>
      wrong first (reason .missing)
      wrong second (reason .missing)
      return (false, true)
    | .ok (some .folder), .ok (some .folder) =>
      if nested && !d.asks "r" then
        Run.printLine ("Common subdirectories: " ++ first ++ " and " ++ second)
        return (false, false)
      folders d (compare d fuel true) first second
    | .ok a?, .ok b? =>
      if (a?.isNone || b?.isNone) && !absent then
        if a?.isNone then wrong first (reason .missing)
        if b?.isNone then wrong second (reason .missing)
        return (false, true)
      match a?, b? with
      | some .folder, some (.file _) =>
        if nested then return ← mismatch first second a? b?
        compare d fuel false (inside first (lastComponent second)) second
      | some (.file _), some .folder =>
        if nested then return ← mismatch first second a? b?
        compare d fuel false first (inside second (lastComponent first))
      | some .folder, none => folders d (compare d fuel true) first second
      | none, some .folder => folders d (compare d fuel true) first second
      | _, _ =>
        let read (name : Octets) (thing? : Option Thing) : Run (Except Refusal Octets) := do
          if thing?.isNone then return .ok [] else readSource name
        match ← read first a?, ← read second b? with
        | .ok x, .ok y =>
          let differs ← d.write nested first second x y
          if !differs && d.asks "s" then
            Run.printLine ("Files " ++ d.labels.head?.getD first ++ " and " ++
              (d.labels[1]?).getD second ++ " are identical")
          return (differs, false)
        | .error x, _ =>
          wrong first (reason x)
          return (false, true)
        | _, .error y =>
          wrong second (reason y)
          return (false, true)
end Diff

/-- The options of the tool that compares lines. -/
def diffOptions : Options where
  letters := "0123456789abBcC:dD:eEfF:hHiI:lL:nNpPqrsS:tTuU:vwW:x:X:yZ"
  names := ["binary", "brief=q", "changed-group-format:", "color::", "context::", "ed=e",
    "exclude=x", "exclude-from=X", "expand-tabs=t", "forward-ed=f", "from-file:", "horizon-lines:",
    "ifdef=D", "ignore-all-space=w", "ignore-blank-lines=B", "ignore-case=i",
    "ignore-file-name-case", "ignore-matching-lines=I", "ignore-space-change=b",
    "ignore-tab-expansion=E", "ignore-trailing-space=Z", "inhibit-hunk-merge", "initial-tab=T",
    "label=L", "left-column", "line-format:", "minimal=d", "new-file=N", "new-group-format:",
    "new-line-format:", "no-dereference", "no-ignore-file-name-case", "normal",
    "old-group-format:", "old-line-format:", "paginate=l", "palette:", "rcs=n", "recursive=r",
    "report-identical-files=s", "sdiff-merge-assist", "show-c-function=p",
    "show-function-line=F", "side-by-side=y", "speed-large-files=H", "starting-file=S",
    "strip-trailing-cr", "suppress-blank-empty", "suppress-common-lines", "tabsize:", "text=a",
    "to-file:", "unchanged-group-format:", "unchanged-line-format:", "unidirectional-new-file=P",
    "unified::", "width=W"]

/-- The style that an option asks for. -/
def diffStyle? (key : String) : Option DiffStyle :=
  [("c", DiffStyle.context), ("C", .context), ("context", .context), ("u", .unified), ("U", .unified),
   ("unified", .unified), ("e", .commands), ("n", .script), ("y", .columns), ("normal", .normal)].lookup key

/-- The words in front of operands. -/
def wordsBut (operands arguments : List Octets) : List Octets :=
  (arguments.reverse.foldl (fun (kept, left) word =>
    match left with
    | name :: others => if word == name then (kept, others) else (word :: kept, left)
    | [] => (word :: kept, [])) (([] : List Octets), operands.reverse)).1

/-- Compares two files line by line, or two folders. -/
def diff : Tool := fun arguments => do
  let (given, names) ← comparisonOptions "diff" diffOptions arguments
  let styles := (given.filterMap fun g => diffStyle? g.key).eraseDups
  let lengths ← given.filterMapM fun g => do
    if ["C", "U", "context", "unified"].contains g.key then
      match g.argument with
      | none => return none
      | some text =>
        match natural? text with
        | some n => return some n
        | none => refuseComparison "diff" ("invalid context length " ++ marked text)
    else return none
  if 1 < styles.length then refuseComparison "diff" "conflicting output style options"
  let style := if has given "q" then .brief else styles.head?.getD .normal
  let digits := given.filterMap fun g => match g.key.toList with
    | [c] => if c.isDigit then some c else none
    | _ => none
  let old := if digits.isEmpty then none else some (Text.digitsValue digits)
  let around := if style = .unified || style = .context then
      ((lengths.foldl (fun (most : Option Nat) n => some (max n (most.getD 0))) none).orElse fun _ => old).getD 3
    else 0
  let (first, second) ← match names with
    | [first, second] => pure (first, second)
    | [] => refuseComparison "diff" ("missing operand after " ++ marked ((arguments.getLast?).getD "diff"))
    | [name] => refuseComparison "diff" ("missing operand after " ++ marked name)
    | _ :: _ :: extra :: _ => refuseComparison "diff" ("extra operand " ++ marked extra)
  let d : Diff :=
    { style, around, given, switches := wordsBut names arguments, labels := valuesOf given "L" }
  let (differs, failed) ← d.compare deepestFolder false first second
  return if failed then 2 else if differs then 1 else 0

end DocMend.Shell.Tool
