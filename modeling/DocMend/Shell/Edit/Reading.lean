import DocMend.Shell.Edit.Script
/-!
Reading of scripts. A script is put together from texts; each has a name for complaints, and a fault is
told by the number of characters that were read, or by the line in a file.
-/

set_option autoImplicit false
set_option relaxedAutoImplicit false

namespace DocMend.Shell.Edit

/-- Where a text of a script comes from: the number of an argument, or the name of a file. -/
inductive Source where
  | argument (n : Nat)
  | file (name : Octets)
deriving DecidableEq, Repr

/-- A fault and where it is. -/
structure Complaint where
  place : Octets
  fault : Fault

/-- A complaint as it is written. -/
def Complaint.text (c : Complaint) : Octets :=
  c.place ++ ": ".toList ++ c.fault.text

/-- A text that an instruction inserts and that is not complete yet: the sign of the instruction, its
number, and the lines so far. -/
structure Unfinished where
  sign : Char
  index : Nat
  text : Octets

/-- Where the reading of a script stands. -/
structure Reading where
  source : Source
  rest : Octets
  /-- How many characters were read, and in which line it is. -/
  used : Nat := 0
  line : Nat := 1
  extended : Bool := false
  long : Bool := false
  instructions : Array Instruction := #[]
  /-- The blocks that are open, the innermost first, and where they were opened. -/
  blocks : List (Nat × Octets) := []
  labels : List (Octets × Nat) := []
  jumps : List (Nat × Octets) := []
  unfinished : Option Unfinished := none
  quiet : Bool := false
  isFirst : Bool := true
  /-- The files that are written, in the order of the script. -/
  targets : List Octets := []

/-- A reader of scripts. -/
abbrev Reader := StateT Reading (Except Complaint)

namespace Reading

/-- The name of a place in a text. -/
def placeName (source : Source) (used line : Nat) : Octets :=
  match source with
  | .argument n => "-e expression #".toList ++ Octets.ofNat n ++ ", char ".toList ++ Octets.ofNat used
  | .file name => "file ".toList ++ name ++ " line ".toList ++ Octets.ofNat line

/-- Gives up at the place that was reached. -/
def fail {α : Type} (fault : Fault) : Reader α := do
  let s ← get
  throw ⟨placeName s.source s.used s.line, fault⟩

/-- Takes a character. -/
def take : Reader (Option Char) := do
  let s ← get
  match s.rest with
  | [] => return none
  | c :: rest =>
    set { s with rest, used := s.used + 1, line := if c == '\n' then s.line + 1 else s.line }
    return some c

/-- Puts a character back. -/
def putBack (c? : Option Char) : Reader Unit :=
  match c? with
  | none => return
  | some c =>
    modify fun s =>
      { s with rest := c :: s.rest, used := s.used - 1
               line := if c == '\n' then s.line - 1 else s.line }

/-- Takes characters as long as they pass a test. -/
def takeWhile (test : Char → Bool) : Reader Octets := do
  let taken := (← get).rest.takeWhile test
  for _ in taken do
    let _ ← take
  return taken

/-- Takes the next character that is no space or tab. -/
def takeVisible : Reader (Option Char) := do
  let _ ← takeWhile Octets.isBlank
  take

/-- Reads the end of an instruction. -/
def finish : Reader Unit := do
  match ← takeVisible with
  | none => return
  | some c =>
    if c == '\x7d' || c == '#' then putBack (some c)
    else if c != '\n' && c != ';' then fail .extraCharacters

/-- Reads a number from its first character on. -/
def number (first : Char) : Reader Nat := do
  let digits ← takeWhile Char.isDigit
  return Text.digitsValue (if first.isDigit then first :: digits else [])

/-- Reads a number that may be left out. -/
def optionalNumber : Reader Nat := do
  match ← takeVisible with
  | some c =>
    if c.isDigit then number c
    else
      putBack (some c)
      return 0
  | none => return 0

/-- Reads the name of a file up to the end of the line. -/
def name : Reader Octets := do
  let _ ← takeWhile Octets.isBlank
  let text ← takeWhile (· ≠ '\n')
  let _ ← take
  if text.isEmpty then
    fail .missingFile
  return text

/-- Reads a file name, where some names stand for streams. -/
def target : Reader Target := do
  let text ← name
  if text == "/dev/stdout".toList then return .output
  if text == "/dev/stderr".toList then return .error
  modify fun s => { s with targets := s.targets ++ [text] }
  return .file text

/-- Reads what is between brackets: it, and whether the closing one was found. -/
def bracket : Nat → (state : Nat) → (mark : Char) → Reader (Octets × Bool)
  | 0, _, _ => return ([], false)
  | fuel + 1, state, mark => do
    match ← take with
    | none => return ([], false)
    | some c =>
      if c == '\n' then
        putBack (some c)
        return ([], false)
      let go (state : Nat) (mark : Char) : Reader (Octets × Bool) := do
        let (more, closed) ← bracket fuel state mark
        return (c :: more, closed)
      let settled := state - state % 2
      if c == '.' || c == ':' || c == '=' then
        if state = 1 then go 2 c
        else if state = 2 && c == mark then go 3 mark
        else go settled mark
      else if c == '[' then go (if state = 0 then 1 else if state = 1 then 1 else state) mark
      else if c == ']' then
        if state = 0 || state = 1 then return ([c], true)
        else if state = 3 then go 0 mark
        else go settled mark
      else go settled mark

/-- Reads the part up to a delimiter: an expression, or text. There is none if the line ends before. -/
def part (delimiter : Char) (regex : Bool) : Nat → Reader (Option Octets)
  | 0 => return none
  | fuel + 1 => do
    let add (cs : Octets) : Reader (Option Octets) := do
      return (← part delimiter regex fuel).map fun more => cs ++ more
    match ← take with
    | none => return none
    | some c =>
      if c == '\n' then
        putBack (some c)
        return none
      if c == delimiter then return some []
      if c == '\\' then
        match ← take with
        | none => return none
        | some d =>
          if d == delimiter && !(!regex && d == '&') then add [d]
          else if d == 'n' && regex then add ['\n']
          else if d == '\n' then add (if regex then ['\n'] else ['\\', '\n'])
          else add ['\\', d]
      else if c == '[' && regex then
        let s ← get
        let start : Octets := match s.rest with
          | '^' :: ']' :: _ => ['^', ']']
          | '^' :: _ => ['^']
          | ']' :: _ => [']']
          | _ => []
        for _ in start do
          let _ ← take
        let (body, closed) ← bracket (s.rest.length + 1) 0 ':'
        if closed then add ('[' :: start ++ body) else return none
      else add [c]

/-- Reads the part up to a delimiter. -/
def delimited (delimiter : Option Char) (regex : Bool) : Reader (Option Octets) := do
  match delimiter with
  | none => return none
  | some c => part c regex ((← get).rest.length + 1)

/-- What becomes of the escapes of a text: those in an expression, in a replacement, or in plain
text. -/
inductive EscapeUse where
  | regex
  | replacement
  | plain
deriving DecidableEq, Repr

/-- The byte that digits in a base write behind a backslash and a letter, and the rest. Without digits
the letter stands for itself. -/
def coded (base most : Nat) (letter : Char) (cs : Octets) : Char × Octets :=
  let digits := (cs.take most).takeWhile fun c => (Octets.digit? base c).isSome
  if digits.isEmpty then (letter, cs)
  else (Char.ofNat (Octets.valueIn base digits % 256), cs.drop digits.length)

/-- Replaces escapes that stand for bytes. -/
def replaceEscapes (use : EscapeUse) : Nat → Octets → Reader Octets
  | 0, cs => return cs
  | _, [] => return []
  | fuel + 1, '\\' :: c :: rest => do
    let add (cs rest : Octets) : Reader Octets := do
      return cs ++ (← replaceEscapes use fuel rest)
    let put (c : Char) (rest : Octets) : Reader Octets :=
      if use = .replacement && (c == '&' || c == '\\') then add ['\\', c] rest
      else if use = .replacement && c == '\n' then add ['\\', c] rest
      else add [c] rest
    match c with
    | 'a' => add ['\x07'] rest
    | 'f' => add ['\x0c'] rest
    | 'n' => if use = .plain then add ['\n'] rest else put '\n' rest
    | 'r' => add ['\r'] rest
    | 't' => add ['\t'] rest
    | 'v' => add ['\x0b'] rest
    | 'c' =>
      match rest with
      | [] => add ['\\', 'c'] []
      | d :: more =>
        let byte := Char.ofNat ((d.toUpper.toNat + 64) % 128)
        if d == '\\' then
          match more with
          | '\\' :: more => put byte more
          | _ => fail .recursiveEscape
        else put byte more
    | 'd' =>
      let (byte, more) := coded 10 3 'd' rest
      if more.length = rest.length then add ['\\', 'd'] rest else put byte more
    | 'o' =>
      let (byte, more) := coded 8 3 'o' rest
      if more.length = rest.length then add ['\\', 'o'] rest else put byte more
    | 'x' =>
      let (byte, more) := coded 16 2 'x' rest
      if more.length = rest.length then add ['\\', 'x'] rest else put byte more
    | c => add ['\\', c] rest
  | fuel + 1, c :: rest => do
    return c :: (← replaceEscapes use fuel rest)

/-- Reads an expression that was delimited, with the letters behind it. -/
def finder (text : Octets) (fold lines : Bool) (groups : Nat) : Reader Finder := do
  let s ← get
  if text.isEmpty then
    if fold || lines then fail .emptyModifiers
    return .last
  let text ← replaceEscapes .regex (text.length + 1) text
  let style : Regex.Style :=
    if s.extended then { extended := true, fold, refusesLeading := true }
    else { extended := false, fold, refusesStacked := true }
  match Regex.read style text with
  | .error fault => fail (.regex fault)
  | .ok (r, count) =>
    if count < groups then fail (.badReference groups)
    return .given r.searcher lines

/-- Reads the letters behind the expression of an address. -/
def modifiers : Nat → Bool → Bool → Reader (Bool × Bool)
  | 0, fold, lines => return (fold, lines)
  | fuel + 1, fold, lines => do
    match ← takeVisible with
    | some 'I' => modifiers fuel true lines
    | some 'M' => modifiers fuel fold true
    | other =>
      putBack other
      return (fold, lines)

/-- Reads an address from its first character on, if there is one. -/
def address (first : Option Char) : Reader (Option Address) := do
  match first with
  | some '$' => return some .final
  | some '+' => return some (.behind (← optionalNumber))
  | some '~' => return some (.multiple (← optionalNumber))
  | some c =>
    if c == '/' || c == '\\' then
      let delimiter ← if c == '\\' then take else pure (some c)
      match ← delimited delimiter true with
      | none => fail .openRegex
      | some text =>
        let (fold, lines) ← modifiers ((← get).rest.length + 1) false false
        return some (.found (← finder text fold lines 0))
    else if c.isDigit then
      let n ← number c
      match ← takeVisible with
      | some '~' =>
        let step ← optionalNumber
        return some (if step = 0 then .line n else .every n step)
      | other =>
        putBack other
        return some (.line n)
    else return none
  | none => return none

/-- Reads a label up to white space or the end of the instruction. -/
def label (ends : Char → Bool) : Reader Octets := do
  let _ ← takeWhile Octets.isBlank
  takeWhile fun c => !(Octets.isSpace c || ends c)

/-- Adds an instruction: its number. -/
def add (selection : Selection) (action : Action) : Reader Nat := do
  let s ← get
  set { s with instructions := s.instructions.push ⟨selection, action⟩ }
  return s.instructions.size

/-- The instruction that inserts a text. -/
def inserting (sign : Char) (text : Octets) : Action :=
  match sign with
  | 'a' => .append text
  | 'i' => .insert text
  | 'c' => .change text
  | _ => .run text

/-- Completes a text that is inserted. -/
def complete (unfinished : Unfinished) : Reader Unit := do
  let plain ← replaceEscapes .plain (unfinished.text.length + 1) unfinished.text
  let text := withoutBackslashes plain
  modify fun s =>
    { s with
      unfinished := none
      instructions := s.instructions.modify unfinished.index fun i =>
        { i with action := inserting unfinished.sign text } }
where
  /-- Drops the backslashes in front of characters. -/
  withoutBackslashes : Octets → Octets
    | '\\' :: c :: rest => c :: withoutBackslashes rest
    | ['\\'] => []
    | c :: rest => c :: withoutBackslashes rest
    | [] => []

/-- Reads lines of a text that is inserted; a backslash at the end of a line joins the next one. Where
the script ends behind such a backslash, the next text goes on. -/
def insertedText (sign : Char) (index : Nat) : Nat → Octets → Reader Unit
  | 0, _ => return
  | fuel + 1, text => do
    match ← take with
    | none =>
      complete ⟨sign, index, text ++ ['\n']⟩
    | some '\n' => complete ⟨sign, index, text ++ ['\n']⟩
    | some '\\' =>
      match ← take with
      | none =>
        modify fun s => { s with unfinished := some ⟨sign, index, text ++ ['\n']⟩ }
      | some c => insertedText sign index fuel (text ++ ['\\', c])
    | some c => insertedText sign index fuel (text ++ [c])

/-- Reads the parts of a replacement. -/
def pieces : Nat → Octets → List Piece
  | 0, _ => []
  | _, [] => []
  | _, ['\\'] => [.text ['\\']]
  | fuel + 1, '\\' :: c :: rest =>
    let piece : Piece := match c with
      | 'U' => .casing .upper
      | 'L' => .casing .lower
      | 'E' => .casing .none
      | 'u' => .next .upper
      | 'l' => .next .lower
      | c => if c.isDigit then .group (c.toNat - '0'.toNat) else .text [c]
    piece :: pieces fuel rest
  | fuel + 1, '&' :: rest => .group 0 :: pieces fuel rest
  | fuel + 1, c :: rest =>
    let plain := (c :: rest).takeWhile fun c => c != '\\' && c != '&'
    .text plain :: pieces fuel ((c :: rest).drop plain.length)

/-- The flags behind a replacement. -/
structure Flags where
  fold : Bool := false
  lines : Bool := false
  everywhere : Bool := false
  prints : Nat := 0
  number : Option Nat := none
  runs : Bool := false
  target : Option Target := none

/-- Reads the flags behind a replacement. -/
def flags : Nat → Flags → Reader Flags
  | 0, f => return f
  | fuel + 1, f => do
    match ← take with
    | none => return f
    | some c =>
      match c with
      | 'i' => flags fuel { f with fold := true }
      | 'I' => flags fuel { f with fold := true }
      | 'm' => flags fuel { f with lines := true }
      | 'M' => flags fuel { f with lines := true }
      | 'e' => flags fuel { f with runs := true }
      | 'p' =>
        if f.prints ≠ 0 then fail .doublePrint
        flags fuel { f with prints := if f.runs then 2 else 1 }
      | 'g' =>
        if f.everywhere then fail .doubleGlobal
        flags fuel { f with everywhere := true }
      | 'w' => return { f with target := some (← target) }
      | '\n' => return f
      | ';' => return f
      | '\r' =>
        match ← take with
        | some '\n' => return f
        | _ => fail .unknownFlag
      | c =>
        if c == '\x7d' || c == '#' then
          putBack (some c)
          return f
        if c == ' ' || c == '\t' then return ← flags fuel f
        if c.isDigit then
          if f.number.isSome then fail .doubleNumber
          let n ← number c
          if n = 0 then fail .zeroNumber
          return ← flags fuel { f with number := some n }
        fail .unknownFlag

/-- Reads a replacement. -/
def substitution : Reader Action := do
  let delimiter ← take
  match ← delimited delimiter true with
  | none => fail .openSubstitution
  | some regex =>
    match ← delimited delimiter false with
    | none => fail .openSubstitution
    | some text =>
      let text ← replaceEscapes .replacement (text.length + 1) text
      let list := pieces (text.length + 1) text
      let groups := list.foldl (fun most piece => match piece with
        | .group n => max most n
        | _ => most) 0
      let f ← flags ((← get).rest.length + 1) {}
      let found ← finder regex f.fold f.lines groups
      return .substitute
        { finder := found, pieces := list, everywhere := f.everywhere, number := f.number.getD 1
          prints := f.prints, runs := f.runs, target := f.target }

/-- The characters of a list that translates: a backslash stands for itself only if it is doubled. -/
def listed : Octets → Option Octets
  | '\\' :: '\\' :: rest => (listed rest).map fun more => '\\' :: more
  | '\\' :: 'n' :: rest => (listed rest).map fun more => '\n' :: more
  | '\\' :: '\n' :: rest => (listed rest).map fun more => '\n' :: more
  | c :: rest => (listed rest).map fun more => c :: more
  | [] => some []

/-- Reads a translation of characters. -/
def translation : Reader Action := do
  let delimiter ← take
  match ← delimited delimiter false with
  | none => fail .openTranslation
  | some source =>
    let source ← replaceEscapes .plain (source.length + 1) source
    match ← delimited delimiter false with
    | none => fail .openTranslation
    | some goal =>
      let goal ← replaceEscapes .plain (goal.length + 1) goal
      match listed source, listed goal with
      | some a, some b =>
        if a.length ≠ b.length then fail .lengths
        finish
        return .translate (a.zip b)
      | _, _ => fail .lengths

/-- Reads the text of an instruction that inserts one. -/
def inserted (sign : Char) (selection : Selection) : Reader Unit := do
  match ← takeVisible with
  | none => fail .expectedBackslash
  | some '\\' =>
    let index ← add selection .nothing
    let blanks ← takeWhile Octets.isBlank
    match ← take with
    | none => modify fun s => { s with unfinished := some ⟨sign, index, []⟩ }
    | some '\n' => insertedText sign index ((← get).rest.length + 1) []
    | some c =>
      putBack (some c)
      insertedText sign index ((← get).rest.length + 1) blanks
  | some c =>
    putBack (some c)
    let index ← add selection .nothing
    insertedText sign index ((← get).rest.length + 1) []

/-- Reads an action from its sign on. -/
def action (selection : Selection) (sign : Char) : Reader Unit := do
  let simple (a : Action) : Reader Unit := do
    finish
    let _ ← add selection a
  match sign with
  | '\x7b' =>
    let s ← get
    let index ← add selection .nothing
    let place := match s.source with
      | .argument n => placeName (.argument n) 0 0
      | .file _ => placeName s.source s.used s.line
    modify fun s => { s with blocks := (index, place) :: s.blocks }
  | '\x7d' =>
    match (← get).blocks with
    | [] => fail .closedBlock
    | (start, _) :: more =>
      if selection.first.isSome then fail .closeAddress
      finish
      let index ← add selection .nothing
      modify fun s =>
        { s with
          blocks := more
          instructions := s.instructions.modify start fun i => { i with action := .block (index + 1) } }
  | 'e' =>
    match ← takeVisible with
    | none =>
      let _ ← add selection (.run [])
    | some '\n' =>
      let _ ← add selection (.run [])
    | some c =>
      putBack (some c)
      let index ← add selection .nothing
      insertedText 'e' index ((← get).rest.length + 1) []
  | 'a' => inserted 'a' selection
  | 'i' => inserted 'i' selection
  | 'c' => inserted 'c' selection
  | ':' =>
    if selection.first.isSome then fail .labelAddress
    let text ← label fun c => c == ';'
    if text.isEmpty then fail .labelMissing
    let index ← add selection .nothing
    modify fun s => { s with labels := s.labels ++ [(text, index)] }
  | 's' =>
    let a ← substitution
    let _ ← add selection a
  | 'y' =>
    let a ← translation
    let _ ← add selection a
  | 'r' =>
    let file ← name
    let _ ← add selection (.readFile file)
  | 'R' =>
    let file ← name
    let _ ← add selection (.readLine file)
  | 'w' =>
    let t ← target
    let _ ← add selection (.write true t)
  | 'W' =>
    let t ← target
    let _ ← add selection (.write false t)
  | '=' => simple .number
  | 'd' => simple .delete
  | 'D' => simple .deleteFirst
  | 'F' => simple .fileName
  | 'g' => simple (.fetch false)
  | 'G' => simple (.fetch true)
  | 'h' => simple (.keep false)
  | 'H' => simple (.keep true)
  | 'n' => simple (.next false)
  | 'N' => simple (.next true)
  | 'p' => simple .print
  | 'P' => simple .printFirst
  | 'x' => simple .swap
  | 'z' => simple .empty
  | sign =>
    if sign == 'b' || sign == 't' || sign == 'T' then
      let text ← label fun c => c == ';' || c == '\x7d'
      finish
      let index ← add selection
        (match sign with
          | 'b' => .jump 0
          | 't' => .jumpIf true 0
          | _ => .jumpIf false 0)
      modify fun s => { s with jumps := s.jumps ++ [(index, text)] }
    else if sign == 'q' || sign == 'Q' || sign == 'l' then
      if selection.second.isSome && sign != 'l' then fail .oneAddress
      let n? ← do
        match ← takeVisible with
        | some c =>
          if c.isDigit then pure (some (← number c))
          else
            putBack (some c)
            pure none
        | none => pure none
      simple (match sign with
        | 'q' => .quit true (n?.getD 0)
        | 'Q' => .quit false (n?.getD 0)
        | _ => .list n?)
    else fail (.unknownCommand sign)

/-- Reads the rest of a line. -/
def skipLine : Reader Unit := do
  let _ ← takeWhile (· ≠ '\n')
  let _ ← take

/-- Reads one instruction, or none where the text is at its end: whether there was one. -/
def instruction : Reader Bool := do
  let _ ← takeWhile fun c => c == ';' || Octets.isSpace c
  match ← take with
  | none => return false
  | some c =>
    let first? ← address (some c)
    let (selection, sign) ← do
      match first? with
      | none => pure (({} : Selection), some c)
      | some first =>
        match first with
        | .behind _ => fail .badFirst
        | .multiple _ => fail .badFirst
        | _ => pure ()
        let next ← takeVisible
        let (second, sign) ← do
          if next == some ',' then
            match ← address (← takeVisible) with
            | none => fail .badComma
            | some second => pure (some second, ← takeVisible)
          else pure (none, next)
        let isZero := match first with
          | .line 0 => true
          | _ => false
        let mayBeZero := match second with
          | some (.found _) => true
          | _ => false
        if isZero && !mayBeZero then fail .badZero
        pure ({ first := some first, second }, sign)
    let (selection, sign) ← do
      if sign == some '!' then
        let next ← takeVisible
        if next == some '!' then fail .doubleBang
        pure ({ selection with inverted := true }, next)
      else pure (selection, sign)
    match sign with
    | none => fail .missingCommand
    | some '#' =>
      if selection.first.isSome then fail .commentAddress
      let s ← get
      let isStart := s.isFirst && s.used = 1
      match s.rest with
      | 'n' :: _ => if isStart then modify fun s => { s with quiet := true }
      | _ => pure ()
      skipLine
      return true
    | some 'v' =>
      let version ← label fun c => c == ';'
      match version with
      | c :: _ => if '4' < c && c.isDigit then fail .newerVersion
      | [] => pure ()
      return true
    | some sign =>
      action selection sign
      return true

/-- Reads instructions to the end of a text. -/
def allInstructions : Nat → Reader Unit
  | 0 => return
  | fuel + 1 => do
    if ← instruction then allInstructions fuel

/-- Reads one text of a script. -/
def text (source : Source) (cs : Octets) : Reader Unit := do
  modify fun s => { s with source, rest := cs, used := 0, line := 1 }
  match (← get).unfinished with
  | some unfinished => insertedText unfinished.sign unfinished.index (cs.length + 1) unfinished.text
  | none => pure ()
  allInstructions (cs.length + 1)
  modify fun s => { s with isFirst := false }

end Reading

/-- Why a script cannot be run: a fault, or a label that is missing. -/
inductive Refused where
  | complaint (c : Complaint)
  | noLabel (name : Octets)

/-- Reads a script that is put together from texts, and the names of the files that it writes. -/
def Script.read (extended long : Bool) (texts : List (Source × Octets)) :
    Except Refused (Script × List Octets) :=
  let all : Reader Unit := do
    texts.forM fun (source, cs) => Reading.text source cs
    match (← get).unfinished with
    | some unfinished =>
      Reading.complete unfinished
    | none => pure ()
  match all.run { source := .argument 1, rest := [], extended, long } with
  | .error complaint => .error (.complaint complaint)
  | .ok (_, s) =>
    match s.blocks with
    | (_, place) :: _ => .error (.complaint ⟨place, .openBlock⟩)
    | [] =>
      let goal? (name : Octets) : Option Nat :=
        if name.isEmpty then some s.instructions.size else s.labels.lookup name
      match s.jumps.find? fun jump => (goal? jump.2).isNone with
      | some (_, name) => .error (.noLabel name)
      | none =>
        let instructions := s.jumps.foldl (fun (list : Array Instruction) (index, name) =>
          let goal := (goal? name).getD 0
          list.modify index fun i =>
            { i with
              action := match i.action with
                | .jump _ => .jump goal
                | .jumpIf replaced _ => .jumpIf replaced goal
                | other => other }) s.instructions
        .ok ({ instructions, quiet := s.quiet, texts := (texts.filter fun t => match t.1 with
          | .argument _ => true
          | .file _ => false).length }, s.targets)

end DocMend.Shell.Edit
