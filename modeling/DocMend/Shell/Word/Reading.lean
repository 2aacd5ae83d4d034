import DocMend.Shell.Print.Escape
import DocMend.Shell.Reading
/-!
Reading of words. What a character means depends on the level it stands in: outside quotation marks,
between single or double ones, or in an arithmetic expression. An expansion inside a word opens a
level of its own where its text follows other rules than the text around it.
-/

set_option autoImplicit false
set_option relaxedAutoImplicit false

namespace DocMend.Shell

/-- How characters are read. -/
inductive Mode where
  | plain
  | single
  | double
  | arithmetic
  | escaped
deriving DecidableEq, Repr

/-- A level of reading: how characters are read, whether they count as quoted, whether double
quotation marks were opened inside an expansion, how many expansions in braces are open and how many
of them between double quotation marks, whether the level belongs to an expansion in braces or to an
index, and how many parentheses and brackets are open. -/
structure Level where
  mode : Mode := .plain
  quoted : Bool := false
  inner : Bool := false
  braces : Nat := 0
  quotedBraces : Nat := 0
  ofBraces : Bool := false
  ofIndex : Bool := false
  parentheses : Nat := 0
  brackets : Nat := 0
deriving DecidableEq, Repr

/-- An expansion whose end has not been read: one of a parameter, the index of an element whose length
or value is asked for, or an arithmetic one. -/
inductive Unclosed where
  | parameter (source : Reference) (use : Use) (orNull quoted : Bool)
  | index (name : Octets) (indirect ofLength : Bool)
  | arithmetic (quoted : Bool)

/-- A word of which a part has been read. The pieces are in reverse order; so are those around each
unclosed expansion. -/
structure Building where
  level : Level := {}
  outer : List Level := []
  pieces : List Piece := []
  unclosed : List (Unclosed × List Piece) := []
  hasQuotes : Bool := false
  isEnded : Bool := false

namespace Reference

/-- Whether an index stands for all elements, and whether it keeps them apart. -/
def allOf? : Option (List Piece) → Option Bool
  | some [.char '@' false] => some true
  | some [.char '*' false] => some false
  | _ => none

/-- Whether a reference stands for all parameters or elements, kept apart. -/
def isApart (source : Reference) : Bool :=
  source.name == ['@'] || allOf? source.index == some true

end Reference

/-- Whether an expansion may be one of all parameters or elements that leaves no trace where there are
none of them. -/
def standsForAll (source : Reference) (use : Use) : Bool :=
  match use with
  | .value => source.isApart
  | .slice => source.isApart
  | .dropEnd _ => source.isApart
  | .dropStart _ => source.isApart
  | .replace _ => source.isApart
  | .upper _ => source.isApart
  | .lower _ => source.isApart
  | .swapped _ => source.isApart
  | .rendered _ => source.isApart
  | .ifSet => source.isApart
  | .names apart => apart
  | _ => false

namespace Building

/-- Adds a piece. -/
def add (b : Building) (piece : Piece) : Building :=
  { b with pieces := piece :: b.pieces }

/-- Adds a character that is quoted as the level says. -/
def addChar (b : Building) (c : Char) : Building :=
  b.add (.char c (b.level.quoted || b.level.mode == .single || b.level.mode == .escaped))

/-- Adds quoted characters. -/
def addQuoted (b : Building) (cs : Octets) : Building :=
  cs.foldl (fun b c => b.add (.char c true)) b

/-- Changes the level. -/
def onLevel (b : Building) (f : Level → Level) : Building :=
  { b with level := f b.level }

/-- Opens a level. -/
def openLevel (b : Building) (level : Level) : Building :=
  { b with level, outer := b.level :: b.outer }

/-- Closes the level. -/
def closeLevel (b : Building) : Building :=
  match b.outer with
  | level :: outer => { b with level, outer }
  | [] => b

/-- Opens an expansion. -/
def openExpansion (b : Building) (unclosed : Unclosed) : Building :=
  { b with pieces := [], unclosed := (unclosed, b.pieces) :: b.unclosed }

/-- Closes the expansion that was opened last. -/
def closeExpansion (b : Building) : Building :=
  match b.unclosed with
  | (.parameter source use orNull quoted, around) :: rest =>
    { b with
      pieces := .parameter source use orNull quoted b.pieces.reverse :: around, unclosed := rest }
  | (.arithmetic quoted, around) :: rest =>
    { b with pieces := .arithmetic b.pieces.reverse quoted :: around, unclosed := rest }
  | _ => b

/-- Adds a quotation mark. -/
def addMark (b : Building) (mark : Mark) : Building :=
  b.add (.mark mark)

/-- Whether marks around some pieces are faint: around all parameters alone, and in the extended language
around other expansions beside them. -/
def isFaint (dialect : Dialect) (inside : List Piece) : Bool :=
  let isAll (piece : Piece) : Bool := match piece with
    | .parameter source use _ true _ => standsForAll source use
    | _ => false
  let isExpansion (piece : Piece) : Bool := match piece with
    | .parameter _ _ _ quoted _ => quoted
    | .output _ quoted _ => quoted
    | .arithmetic _ quoted => quoted
    | _ => false
  match dialect, inside with
  | .posix, [piece] => isAll piece
  | .posix, _ => false
  | .extended, inside => inside.all isExpansion && inside.any isAll

/-- Adds a double quotation mark; it makes the one before it faint together with it, if nothing between
them makes a word. -/
def addDouble (dialect : Dialect) (b : Building) : Building :=
  let isMark (piece : Piece) : Bool := match piece with
    | .mark _ => true
    | _ => false
  let inside := b.pieces.takeWhile fun piece => !isMark piece
  match b.pieces.drop inside.length, isFaint dialect inside with
  | .mark .double :: around, true =>
    { b with pieces := .mark .faint :: inside ++ .mark .faint :: around }
  | _, _ => b.add (.mark .double)

/-- Whether nothing but a name was read. -/
def isName (b : Building) : Bool :=
  b.outer.isEmpty && b.unclosed.isEmpty && b.level.braces = 0 &&
    Octets.isName (b.pieces.reverse.map fun piece => match piece with
      | .char c false => c
      | _ => ' ')

end Building

/-- Whether a character names a special parameter. -/
def isSpecial (c : Char) : Bool :=
  c == '$' || c == '?' || c == '#' || c == '@' || c == '*' || c == '!' || c == '-' || c.isDigit

/-- Reads characters that satisfy a test, after the one at hand: the text, and the character that
ends it. -/
def readWhile (test : Char → Bool) : Nat → Option Char → Reader (Octets × Option Char)
  | 0, c => return ([], c)
  | fuel + 1, c =>
    match c with
    | some d =>
      if test d then do
        let (cs, stop) ← readWhile test fuel (← Reader.nextJoined)
        return (d :: cs, stop)
      else return ([], c)
    | none => return ([], none)

/-- Reads the name of a parameter after the character at hand: the name, and the character after
it. A name of digits is a single one unless it stands in braces. -/
def readName (inBraces : Bool) (c : Char) : Reader (Octets × Option Char) := do
  let fuel := (← get).rest.length + 1
  if Octets.startsName c then readWhile Octets.inName fuel (some c)
  else if c.isDigit then
    if inBraces then readWhile Char.isDigit fuel (some c)
    else return ([c], ← Reader.nextJoined)
  else return ([c], ← Reader.nextJoined)

/-- The letters of the renderings of a value. -/
def renderings : Octets :=
  "QEPAKaUukL"

/-- Reads what is made of the value of a parameter, from the character after its name. What stands
there may have to be read again as a part of the word. -/
def readUse (c : Option Char) : Reader (Use × Bool) := do
  let extended ← Reader.isExtended
  let simple (c : Option Char) : Option Use :=
    match c with
    | some '\x7d' => some .value
    | some '-' => some .orElse
    | some '+' => some .ifSet
    | some '?' => some .orFail
    | some '=' => some .orAssign
    | _ => none
  match c with
  | some ':' =>
    let d ← Reader.nextJoined
    match simple d with
    | some use => return (use, true)
    | none =>
      if extended then
        Reader.putBack d
        return (.slice, false)
      return (.malformed, true)
  | some '%' => return (.dropEnd (← Reader.accept '%'), false)
  | some '#' => return (.dropStart (← Reader.accept '#'), false)
  | some '/' =>
    if !extended then return (.malformed, false)
    return (.replace (← Reader.accept '/'), false)
  | some '^' =>
    if !extended then return (.malformed, false)
    return (.upper (← Reader.accept '^'), false)
  | some ',' =>
    if !extended then return (.malformed, false)
    return (.lower (← Reader.accept ','), false)
  | some '~' =>
    if !extended then return (.malformed, false)
    return (.swapped (← Reader.accept '~'), false)
  | some '@' =>
    match extended, (← get).rest with
    | true, letter :: '\x7d' :: _ =>
      if renderings.contains letter then
        let _ ← Reader.next
        return (.rendered letter, false)
      return (.malformed, false)
    | _, _ => return (.malformed, false)
  | c => return ((simple c).getD .malformed, false)

/-- Begins the word that belongs to an expansion in braces. -/
def beginWord (b : Building) (source : Reference) (use : Use) (orNull : Bool) : Building :=
  let quoted := b.level.quoted
  if use == .value && !orNull then b.add (.parameter source .value false quoted [])
  else
    let plain := match use with
      | .dropEnd _ => true
      | .dropStart _ => true
      | .replace _ => true
      | .upper _ => true
      | .lower _ => true
      | .swapped _ => true
      | _ => false
    let mode := if plain then .plain else if b.level.mode = .arithmetic then .double else b.level.mode
    let b :=
      if mode ≠ b.level.mode || b.level.inner then
        b.openLevel { mode, quoted := mode ≠ .plain, ofBraces := true }
      else b
    let b := b.onLevel fun level =>
      { level with
        braces := level.braces + 1
        quotedBraces := if level.quoted then level.quotedBraces + 1 else level.quotedBraces }
    b.openExpansion (.parameter source use orNull quoted)

/-- Reads what is made of the value of a parameter, from the character after it. -/
def readAfterName (b : Building) (source : Reference) (c : Option Char) : Reader Building := do
  let (use, orNull) ← readUse c
  if use == .malformed && !orNull && (← Reader.isExtended) then Reader.putBack c
  return beginWord b source use orNull

/-- Reads the end of the length of a parameter, from the character after its name: nothing follows
it. -/
def readAfterLength (b : Building) (source : Reference) (c : Option Char) : Reader Building := do
  Reader.putBack c
  return beginWord b source (if c = some '\x7d' then .length else .malformed) false

/-- Opens the index of an element in the extended language, if a bracket follows the name of a
parameter. -/
def openIndex? (b : Building) (name : Octets) (indirect ofLength : Bool) (c : Option Char) :
    Reader (Option Building) := do
  if c = some '[' && (← Reader.isExtended) then
    let b := b.openLevel { ofIndex := true, brackets := 1 }
    return some (b.openExpansion (.index name indirect ofLength))
  return none

/-- Closes the index of an element and reads what is made of the element. -/
def closeIndex (b : Building) : Reader Building := do
  match b.unclosed with
  | (.index name indirect ofLength, around) :: rest =>
    let source : Reference :=
      { name, index := some b.pieces.reverse, indirect, braced := true }
    let b := { b with pieces := around, unclosed := rest }.closeLevel
    let c ← Reader.nextJoined
    if ofLength then readAfterLength b source c else readAfterName b source c
  | _ => return b

/-- Reads an expansion in braces after the opening one. -/
def readBraces (b : Building) : Reader Building := do
  let plain (name : Octets) : Reference := { name, braced := true }
  let malformed (name : Octets) : Reader Building :=
    return beginWord b (plain name) .malformed false
  match ← Reader.nextJoined with
  | none => malformed []
  | some '\x7d' =>
    Reader.putBack (some '\x7d')
    malformed []
  | some '#' =>
    match ← Reader.nextJoined with
    | none => malformed ['#']
    | some c =>
      if c == '_' || c.isAlphanum then
        let (name, stop) ← readName true c
        match ← openIndex? b name false true stop with
        | some b => return b
        | none => readAfterLength b (plain name) stop
      else
        let d ← Reader.nextJoined
        if c == '\x7d' || d ≠ some '\x7d' then
          Reader.putBack d
          readAfterName b (plain ['#']) (some c)
        else if isSpecial c then readAfterLength b (plain [c]) d
        else
          Reader.putBack d
          malformed [c]
  | some '!' =>
    let d ← Reader.nextJoined
    let c := d.getD ' '
    let follows := (← get).rest.head?
    let names := Octets.startsName c || c.isDigit || c == '@' || c == '*' ||
      (c == '#' || c == '?') && follows == some '\x7d'
    if (← Reader.isExtended) && names && (c == '#' || c.isAlphanum || c == '_' || follows == some '\x7d')
    then
      let (name, stop) ← readName true c
      match ← openIndex? b name true false stop with
      | some b => return b
      | none =>
        let isOver := (← get).rest.head? == some '\x7d'
        if isOver && Octets.startsName c && (stop = some '*' || stop = some '@') then
          let _ ← Reader.next
          let use : Use := .names (stop = some '@')
          return b.add (.parameter { plain name with indirect := true } use false b.level.quoted [])
        readAfterName b { plain name with indirect := true } stop
    else readAfterName b (plain ['!']) d
  | some c =>
    if Octets.startsName c || c.isDigit then
      let (name, stop) ← readName true c
      match ← openIndex? b name false false stop with
      | some b => return b
      | none => readAfterName b (plain name) stop
    else
      let d ← Reader.nextJoined
      if isSpecial c then readAfterName b (plain [c]) d
      else
        Reader.putBack d
        malformed [c]

/-- Reads the text of a script between backquotes. A backslash escapes only another one, a backquote
and a dollar sign, and between double quotation marks these too. -/
def readBackquoted (quoted : Bool) : Nat → Reader Octets
  | 0 => return []
  | fuel + 1 => do
    match ← Reader.nextJoined with
    | none => Reader.refuse (.unterminated "\x60" "EOF in backquote substitution")
    | some '\x60' => return []
    | some '\\' =>
      let c ← Reader.next
      match c with
      | none => Reader.refuse (.unterminated "\x60" "EOF in backquote substitution")
      | some c =>
        let cs ← readBackquoted quoted fuel
        if c == '\\' || c == '\x60' || c == '$' || quoted && c == '"' then return c :: cs
        else return '\\' :: c :: cs
    | some '\n' =>
      Reader.countLine
      return '\n' :: (← readBackquoted quoted fuel)
    | some c => return c :: (← readBackquoted quoted fuel)

/-- Whether the parenthesis that closes a text is followed by another one, inside a quotation or outside
and at a given depth. -/
def closesTwice (quote : Option Char) (depth : Nat) : Octets → Bool
  | [] => true
  | '\\' :: _ :: rest => closesTwice quote depth rest
  | c :: rest =>
    match quote with
    | some mark => closesTwice (if c == mark then none else quote) depth rest
    | none =>
      if c == '"' || c == '\x27' then closesTwice (some c) depth rest
      else if c == '(' then closesTwice none (depth + 1) rest
      else if c != ')' then closesTwice none depth rest
      else if depth = 0 then rest.head?.all (· == ')')
      else closesTwice none (depth - 1) rest

/-- How the commands of an expansion are read: from the script itself up to a closing parenthesis,
or from a text. -/
structure CommandReader where
  inParentheses : Reader Command
  ofText : Octets → Reader Command

/-- Reads an expansion after its dollar sign. A dollar sign that begins no expansion stands for
itself. -/
def readDollar (commands : CommandReader) (b : Building) : Reader Building := do
  let quoted := b.level.quoted
  let c ← Reader.nextJoined
  let alone : Reader Building := do
    Reader.putBack c
    return b.add (.char '$' quoted)
  if (← get).checks.mark then alone
  else
    match c with
    | some '(' =>
      let rest := (← get).rest
      let isNested := (← Reader.isExtended) && rest.head? == some '(' &&
        !closesTwice none 0 (rest.drop 1)
      let isArithmetic ← if isNested then pure false else Reader.accept '('
      if isArithmetic then
        let b := b.openExpansion (.arithmetic quoted)
        return b.openLevel { mode := .arithmetic, quoted := true }
      let body ← commands.inParentheses
      return b.add (.output body quoted none)
    | some '\x7b' => readBraces b
    | some '\x27' =>
      if (← Reader.isExtended) && b.level.mode == .plain then
        return (b.onLevel fun level => { level with mode := .escaped }).addMark .single
      alone
    | some '"' =>
      if (← Reader.isExtended) && b.level.mode == .plain then
        Reader.putBack c
        return b
      alone
    | some c =>
      if Octets.startsName c || isSpecial c then
        let (name, stop) ← readName false c
        Reader.putBack stop
        return b.add (.parameter { name } .value false quoted [])
      alone
    | none => alone

/-- Reads an escape after its backslash, between quotation marks after a dollar sign. -/
def readDollarEscape (b : Building) : Reader Building := do
  match (← get).rest with
  | [] => return b
  | rest =>
    let (text, rest) := Escape.inMarks rest
    modify fun r => { r with rest }
    return b.addQuoted text

/-- Ends a quotation in which backslashes begin escapes: a null character cuts it off. -/
def closeEscaped (b : Building) : Building :=
  let inMarks (piece : Piece) : Bool := match piece with
    | .mark _ => false
    | _ => true
  let isKept (piece : Piece) : Bool := match piece with
    | .char '\x00' _ => false
    | _ => true
  let inside := b.pieces.takeWhile inMarks
  let kept := (inside.reverse.takeWhile isKept).reverse
  let b := { b with pieces := kept ++ b.pieces.drop inside.length, hasQuotes := true }
  (b.onLevel fun l => { l with mode := .plain }).addMark .single

/-- The here-document whose text is read, if one is. -/
abbrev Source := Option Awaited

/-- Reads a character after a backslash. -/
def readEscape (source : Source) (b : Building) : Reader Building := do
  let level := b.level
  match ← Reader.next with
  | none => return b.add (.char '\\' true)
  | some c =>
    let kept := level.quoted && c != '\\' && c != '\x60' && c != '$' &&
      (c != '"' || (source.isSome && level.braces = 0)) && (c != '\x7d' || level.braces = 0)
    let b := if kept then b.add (.char '\\' true) else b
    return { b.add (.char c true) with hasQuotes := true }

/-- What reading a character leads to. -/
inductive Progress where
  | more (b : Building)
  | newLine (b : Building)
  | past (b : Building)

/-- Reads a closing brace. -/
def closeBrace (b : Building) : Building :=
  let level := b.level
  if !level.inner && 0 < level.braces then
    let braces := level.braces - 1
    let b := { b with level := { level with braces } }
    let b :=
      if braces = 0 && level.ofBraces then b.closeLevel
      else if 0 < level.quotedBraces then
        b.onLevel fun level => { level with quotedBraces := level.quotedBraces - 1 }
      else b
    b.closeExpansion
  else b.addChar '\x7d'

/-- Turns the quotation inside an expansion around and adds the mark. -/
def toggleMark (dialect : Dialect) (b : Building) : Building :=
  let b := if 0 < b.level.braces then b.onLevel fun l => { l with inner := !l.inner } else b
  b.addDouble dialect

/-- Reads a quotation mark that may end a quotation. -/
def closeQuotes (dialect : Dialect) (source : Source) (c : Char) (b : Building) : Building :=
  if source.isSome && b.level.braces = 0 then b.addChar c
  else
    let b :=
      if b.level.quotedBraces = 0 then
        b.onLevel fun l => { l with mode := .plain, quoted := false }
      else b
    let b := { b with hasQuotes := true }
    if c == '"' then
      if source.isSome then
        if 0 < b.level.braces then b.onLevel fun l => { l with inner := !l.inner } else b
      else toggleMark dialect b
    else if source.isSome then b
    else b.addMark .single

/-- What a character means outside quotation marks in the extended language beyond what it means in
both: an opening or closing bracket of an index, the beginning or the end of alternatives of a
pattern, or a process in place of a file name. -/
def readExtension (commands : CommandReader) (c : Char) (b : Building) : Reader (Option Building) := do
  let r ← get
  let level := b.level
  if r.dialect == .posix || level.mode != .plain then return none
  let follows := r.rest.head?
  let deeper (f : Level → Level) : Reader (Option Building) :=
    return some ((b.onLevel f).addChar c)
  let isOpen := 0 < level.brackets || 0 < level.parentheses
  match c with
  | '[' =>
    if level.braces ≠ 0 then return none
    let begins := r.checks.assignments && b.isName || r.checks.elements && b.pieces.isEmpty
    if 0 < level.brackets || begins then deeper fun l => { l with brackets := l.brackets + 1 }
    else return none
  | ']' =>
    if level.brackets = 0 || level.braces ≠ 0 then return none
    if level.ofIndex && level.brackets = 1 then return some (← closeIndex b)
    deeper fun l => { l with brackets := l.brackets - 1 }
  | '(' =>
    if level.parentheses = 0 || level.braces ≠ 0 then return none
    deeper fun l => { l with parentheses := l.parentheses + 1 }
  | ')' =>
    if level.parentheses = 0 || level.braces ≠ 0 then return none
    deeper fun l => { l with parentheses := l.parentheses - 1 }
  | c =>
    let isGroup := "?*+@!".toList.contains c && follows == some '('
    if isGroup && (r.alternatives || r.checks.pattern) && level.braces = 0 then
      let _ ← Reader.next
      return some (((b.onLevel fun l => { l with parentheses := l.parentheses + 1 }).addChar c).addChar
        '(')
    if (c == '<' || c == '>') && follows == some '(' && !isOpen then
      let _ ← Reader.next
      let body ← commands.inParentheses
      return some (b.add (.process body (c == '>')))
    if isOpen && level.braces = 0 && (c == ' ' || c == '\t' || "<>;&|".toList.contains c) then
      return some (b.addChar c)
    return none

/-- Reads one character of a word. -/
def readPiece (commands : CommandReader) (source : Source) (c : Char) (b : Building) :
    Reader Progress := do
  let level := b.level
  let literal : Reader Progress := return .more (b.addChar c)
  if c == '\n' then
    let isOpen := 0 < level.brackets || 0 < level.parentheses
    if level.mode == .plain && level.braces = 0 && !isOpen then return .past b
    Reader.countLine
    return .newLine (b.addChar c)
  if let some b ← readExtension commands c b then return .more b
  match level.mode with
  | .single => if c == '\x27' then return .more (closeQuotes (← get).dialect source c b) else literal
  | .escaped =>
    if c == '\x27' then return .more (closeEscaped b)
    else if c == '\\' then return .more (← readDollarEscape b)
    else literal
  | mode =>
    match c with
    | '\\' => return .more (← readEscape source b)
    | '$' => return .more (← readDollar commands b)
    | '\x60' =>
      if (← get).checks.mark then return .more { b.add (.char c false) with hasQuotes := true }
      let script ← readBackquoted level.quoted ((← get).rest.length + 1)
      let body ← commands.ofText script
      return .more (b.add (.output body level.quoted (some script)))
    | '\x7d' => return .more (closeBrace b)
    | _ =>
      match mode with
      | .double => if c == '"' then return .more (closeQuotes (← get).dialect source c b) else literal
      | .arithmetic =>
        match c with
        | '(' =>
          return .more ((b.onLevel fun l => { l with parentheses := l.parentheses + 1 }).addChar c)
        | ')' =>
          if 0 < level.parentheses then
            return .more ((b.onLevel fun l => { l with parentheses := l.parentheses - 1 }).addChar c)
          else if ← Reader.accept ')' then return .more b.closeLevel.closeExpansion
          else literal
        | _ => literal
      | _ =>
        match c with
        | '\x27' =>
          let b := b.onLevel fun l => { l with mode := .single }
          return .more (if source.isSome then b else b.addMark .single)
        | '"' =>
          let dialect := (← get).dialect
          let b := b.onLevel fun l => { l with mode := .double, quoted := true }
          return .more (if source.isSome then
            (if 0 < b.level.braces then b.onLevel fun l => { l with inner := !l.inner } else b)
            else toggleMark dialect b)
        | _ =>
          let ends := Octets.isBlank c || c == '<' || c == '>' || c == '(' || c == ')' ||
            c == ';' || c == '&' || c == '|'
          if ends && level.braces = 0 then return .past b else literal

/-- What is left of a line that begins like the mark of a here-document but goes on with a byte beyond
ASCII: the POSIX language loses that byte. -/
def afterPartOfMark (mark text : Octets) : Octets :=
  let known := ((mark.zip text).takeWhile fun (a, b) => a == b).length
  match text.drop known with
  | c :: rest => if known ≠ 0 && 128 ≤ c.toNat then text.take known ++ rest else text
  | [] => text

/-- At the beginning of a line, whether the mark that ends a here-document follows; the mark is then
read. -/
def atMark (document : Awaited) (c : Option Char) : Reader (Bool × Option Char) := do
  let r ← get
  let text := c.toList ++ r.rest
  let text := if document.stripsTabs then text.dropWhile (· == '\t') else text
  let past (rest : Octets) : Reader (Bool × Option Char) := do
    set { r with rest, line := r.line + 1 }
    return (true, none)
  match Text.afterStart? document.mark text with
  | some [] => past []
  | some ('\n' :: rest) => past rest
  | _ =>
    let text := if r.dialect == .posix then afterPartOfMark document.mark text else text
    set { r with rest := text.drop 1 }
    return (false, text.head?)

/-- Reads the characters of a word or of a here-document: what was read, and the character that
ended it. -/
def readPieces (commands : CommandReader) (source : Source) :
    Nat → Bool → Option Char → Building → Reader (Building × Option Char)
  | 0, _, c, b => return (b, c)
  | fuel + 1, atLine, c, b => do
    let (past, c) ← match source with
      | some document => if atLine then atMark document c else pure (false, c)
      | none => pure (false, c)
    if past then return ({ b with isEnded := true }, c)
    match c with
    | none => return (b, none)
    | some d =>
      match ← readPiece commands source d b with
      | .past b => return (b, c)
      | .newLine b => readPieces commands source fuel true (← Reader.next) b
      | .more b =>
        let c ← if b.level.mode == .single || b.level.mode == .escaped then Reader.next
          else Reader.nextJoined
        readPieces commands source fuel false c b

/-- What is wrong with a word whose end is missing, if it is. -/
def unfinished? (source : Source) (b : Building) : Option Fault :=
  if b.level.mode == .arithmetic then some (.unterminated ")" "Missing \x27))\x27")
  else if b.level.mode != .plain && source.isNone then
    let closer := if b.level.mode == .double then
        (if 0 < b.level.quotedBraces && !b.level.inner then "\x7d" else "\"")
      else "\x27"
    some (.unterminated closer "Unterminated quoted string")
  else if b.level.braces ≠ 0 then some (.unterminated "\x7d" "Missing \x27\x7d\x27")
  else if 0 < b.level.brackets then
    some (.unterminated (if b.level.ofIndex then "\x7d" else "]") "Missing \x27]\x27")
  else if 0 < b.level.parentheses then some (.unterminated ")" "Missing \x27)\x27")
  else none

/-- Reads a word from its first character on: its pieces, whether anything in it is quoted, and the
character after it. In the extended language a word without an end is refused in the line in which it
begins. -/
def readWord (commands : CommandReader) (c : Option Char) :
    Reader (Word × Bool × Option Char) := do
  let start ← get
  let whole : Reader (Word × Bool × Option Char) := do
    let (b, stop) ← readPieces commands none (start.rest.length + 2) false c {}
    match unfinished? none b with
    | some fault => Reader.refuse fault
    | none => return (b.pieces.reverse, b.hasQuotes, stop)
  try whole
  catch flaw =>
    match start.dialect, flaw.fault with
    | .extended, .unterminated _ _ => throw { flaw with line := start.line }
    | _, _ => throw flaw

/-- Reads the text of a here-document, and whether its mark ends it. -/
def readDocument (commands : CommandReader) (document : Awaited) : Reader (Word × Bool) := do
  let fuel := (← get).rest.length + 2
  if document.expands then
    let c ← Reader.nextJoined
    let (b, _) ← readPieces commands (some document) fuel true c
      { level := { mode := .double, quoted := true } }
    match unfinished? (some document) b with
    | some fault => Reader.refuse fault
    | none => return (b.pieces.reverse, b.isEnded)
  else
    let c ← Reader.next
    let (b, _) ← readPieces commands (some document) fuel true c { level := { mode := .single } }
    return (b.pieces.reverse, b.isEnded)

/-- Reads the texts of all here-documents that are awaited. -/
def readDocuments (commands : CommandReader) : Reader Unit := do
  let awaited := (← get).awaited
  modify fun r => { r with awaited := [] }
  for document in awaited do
    let first := (← get).line - 1
    let (word, isEnded) ← readDocument commands document
    modify fun r => { r with documents := r.documents.setIfInBounds document.index word }
    if !isEnded then
      let unended : Unended := { mark := document.mark, first, last := (← get).line - 1 }
      modify fun r => { r with unended := r.unended ++ [unended] }

end DocMend.Shell
