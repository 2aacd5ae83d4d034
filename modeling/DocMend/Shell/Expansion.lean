import DocMend.Shell.Braces
import DocMend.Shell.Folder
import DocMend.Shell.Print.Quoting
import DocMend.Shell.Print.Script
import DocMend.Shell.Process
import DocMend.Shell.Rendering
import DocMend.Shell.Value
/-!
Expansion of words: tildes, parameters, outputs of commands and arithmetic expressions are replaced,
the result is cut into fields, and fields that are patterns are replaced by the names of files.
-/

set_option autoImplicit false
set_option relaxedAutoImplicit false

namespace DocMend.Shell

/-- A part of a word: characters that are all bare or all quoted, or another piece. -/
inductive Part where
  | bare (text : Octets)
  | quoted (text : Octets)
  | piece (piece : Piece)

/-- The parts of a word. -/
def partsOf : Word → List Part
  | [] => []
  | .char c false :: rest =>
    match partsOf rest with
    | .bare text :: parts => .bare (c :: text) :: parts
    | parts => .bare [c] :: parts
  | .char c true :: rest =>
    match partsOf rest with
    | .quoted text :: parts => .quoted (c :: text) :: parts
    | parts => .quoted [c] :: parts
  | piece :: rest => .piece piece :: partsOf rest

/-- The folder of a user. -/
def homeOf (s : Interpreter) (user : Octets) : Option Octets :=
  if user.isEmpty then s.value? "HOME"
  else if user == "root".toList then some "/root".toList
  else if s.dialect == .posix then none
  else
    let names := Octets.ofText s.route.text :: s.stack
    match user with
    | ['+'] => s.value? "PWD"
    | ['-'] => s.value? "OLDPWD"
    | '-' :: digits =>
      if Text.isDigits digits then names.reverse[Text.digitsValue digits]? else none
    | '+' :: digits => if Text.isDigits digits then names[Text.digitsValue digits]? else none
    | digits => if Text.isDigits digits then names[Text.digitsValue digits]? else none

/-- Replaces a tilde at the beginning of a word and the name after it by a folder. -/
def withTilde (s : Interpreter) (afterColon : Bool) (word : Word) : Word :=
  match word with
  | .char '~' false :: rest =>
    let user := (Word.leading rest).takeWhile fun c => c ≠ '/' && !(afterColon && c = ':')
    let after := rest.drop user.length
    let ends := match after with
      | [] => true
      | .char '/' false :: _ => true
      | .char ':' false :: _ => afterColon
      | _ => false
    match ends, homeOf s user with
    | true, some home => Word.literal home ++ after
    | _, _ => word
  | _ => word

/-- Replaces the tildes after bare colons. -/
def withTildes (s : Interpreter) : Nat → Word → Word
  | 0, word => word
  | fuel + 1, word =>
    let isColon (piece : Piece) : Bool := match piece with
      | .char ':' false => true
      | _ => false
    let word := withTilde s true word
    let before := word.takeWhile fun piece => !isColon piece
    match word.drop before.length with
    | [] => word
    | colon :: rest => before ++ colon :: withTildes s fuel rest

namespace Expansion

/-- The text of a word that is not cut. -/
def textWith (e : Engine) (spread : Spread) (word : Word) : Run Octets := do
  return (textOf (← e.expand spread word)).map Prod.fst

/-- Expands a text as it would stand between double quotation marks; a text that cannot be read stays as
it is. -/
def ofTemplate (e : Engine) (text : Octets) : Run Octets := do
  let s ← Run.self
  let start : Reading := { rest := text, dialect := s.dialect, documents := s.documents }
  match readTemplate.run start with
  | .error _ => return text
  | .ok (word, after) =>
    Run.modifySelf fun s => { s with documents := after.documents }
    textWith e {} word

/-- A text that may name an element, with the index expanded as between double quotation marks. -/
def indexed (e : Engine) (text : Octets) : Run Octets := do
  match ← Run.isExtended, splitElement text with
  | true, (base, some index) =>
    if !Octets.isName base || !index.any (fun c => c == '$' || c == '\x60') then return text
    return base ++ ['['] ++ (← ofTemplate e index) ++ [']']
  | _, _ => return text

/-- The pattern that a word writes, with alternatives where they are switched on. -/
def patternOf (e : Engine) (word : Word) : Run (List Atom) := do
  let text := textOf (← e.expand { tilde := true } word)
  return Pattern.ofText text (← Run.has "extglob")

/-- Whether a text is one of those that a word writes as a pattern, with alternatives or without. -/
def takes (e : Engine) (word : Word) (text : Octets) (groups : Bool) : Run Bool := do
  let source := textOf (← e.expand { tilde := true } word)
  if ← Run.has "nocasematch" then
    let pattern := Pattern.ofText (source.map fun (c, quoted) => (c.toLower, quoted)) groups
    return Pattern.matchesAll pattern (text.map Char.toLower)
  return Pattern.matchesAll (Pattern.ofText source groups) text

/-- The source of a parameter expansion, for a complaint. -/
def source (r : Reference) (word : Word) : Octets :=
  let sign : Octets := if r.indirect then ['!'] else []
  ['$', '\x7b'] ++ sign ++ Layout.source r ++ Layout.word word ++ ['\x7d']

/-- The slot of an element; there is none where its index is out of range. -/
def slotOf? (e : Engine) (name : Octets) (index : Word) : Run (Option Slot) := do
  let name := (← Run.self).referent name
  match ← Run.keyOf? name (← textWith e {} index) with
  | some key => return some { name, key := some key }
  | none => return none

/-- The value of a parameter or an element, if it has one. -/
def valueOf (e : Engine) (r : Reference) (quoted full : Bool) : Run (Option Value) := do
  let s ← Run.self
  match r.index with
  | some index =>
    match Reference.allOf? r.index with
    | some each =>
      let content := ((s.lookup? (s.referent r.name)).map Variable.content).getD .nothing
      return some (← Run.valueOfAll content.texts each quoted full)
    | none =>
      match ← slotOf? e r.name index with
      | some slot => return ((← Run.self).slotText? slot).map .one
      | none =>
        Run.warn (r.name ++ ": bad array subscript")
        return none
  | none =>
    match r.name with
    | ['@'] => return some (← Run.valueOfAll s.parameters true quoted full)
    | ['*'] => return some (← Run.valueOfAll s.parameters false quoted full)
    | c :: _ =>
      if Octets.startsName c then
        match splitElement (s.referent r.name) with
        | (base, some index) =>
          match ← Run.keyOf? base index with
          | some key => return (s.slotText? { name := base, key := some key }).map .one
          | none => return none
        | _ => return (s.value? r.name).map .one
      else return (s.special? r.name).map .one
    | [] => return none

/-- What a text refers to that is the value of a reference. -/
def referenceOf (text : Octets) : Run Reference := do
  let isSpecial (name : Octets) : Bool := match name with
    | [c] => DocMend.Shell.isSpecial c
    | name => Text.isDigits name
  let refuse : Run Reference := Run.fail (text ++ ": invalid variable name")
  match splitElement text with
  | (name, some index) =>
    if Octets.isName name then return { name, index := some (Word.bare index) } else refuse
  | (name, none) =>
    if Octets.isName name || isSpecial name then return { name } else refuse

/-- What an indirect reference leads to. -/
def resolved (e : Engine) (r : Reference) : Run Reference := do
  if !r.indirect then return r
  let direct : Reference := { r with indirect := false }
  match getKey (← Run.self).vars r.name with
  | some v =>
    match v.isReference, v.content, r.index with
    | true, .text other, none => return { name := other }
    | _, _, _ => pure ()
  | none => pure ()
  match ← valueOf e direct true false with
  | some value => referenceOf (← indexed e value.text)
  | none => Run.fail (Layout.source direct ++ ": invalid indirect expansion")

/-- Splits a word at its first bare mark. -/
def splitAt (mark : Char) : Word → Word × Option Word
  | [] => ([], none)
  | .char c q :: rest =>
    if c = mark && (!q || mark ≠ '/') then ([], some rest)
    else
      let (before, after) := splitAt mark rest
      (.char c q :: before, after)
  | piece :: rest =>
    let (before, after) := splitAt mark rest
    (piece :: before, after)

/-- Refuses a length that is negative where it cannot be. -/
def refuseLength {α : Type} (length : Word) : Run α :=
  Run.fail (Layout.word length ++ ": substring expression < 0")

/-- A part of a text by its offset and its length; a negative one counts from the end. There is none
where the end comes before the beginning. -/
def sliceText? (text : Octets) (offset : Int) (length : Option Int) : Option Octets :=
  let size : Int := text.length
  let start := if offset < 0 then size + offset else offset
  if start < 0 || size < start then some []
  else
    match length with
    | none => some (text.drop start.toNat)
    | some n =>
      let stop := if n < 0 then size + n else start + n
      if stop < start then none
      else some ((text.drop start.toNat).take (stop - start).toNat)

/-- The elements of a list from an offset on, at most so many; a negative offset counts from the end,
which is given. -/
def sliceList (elements : List (Nat × Octets)) (stop : Nat) (offset : Int) (length : Option Nat) :
    List Octets :=
  let start := if offset < 0 then (stop : Int) + offset else offset
  if start < 0 then []
  else
    let rest := elements.filter fun entry => start.toNat ≤ entry.1
    let taken := match length with
      | some n => rest.take n
      | none => rest
    taken.map Prod.snd

/-- The elements of a reference that stands for all of them, by their numbers, and where the numbers
end. The parameters begin with the name of the shell. -/
def numberedOf (r : Reference) : Run (List (Nat × Octets) × Nat) := do
  let s ← Run.self
  let count (texts : List Octets) : List (Nat × Octets) := (List.range texts.length).zip texts
  match r.index with
  | none =>
    let texts := s.name :: s.parameters
    return (count texts, texts.length)
  | some _ =>
    match (s.lookup? (s.referent r.name)).map Variable.content with
    | some (.table entries) =>
      let texts := (Content.byRows Content.tableRows entries).map Prod.snd
      return (count texts, texts.length)
    | some content => return (content.numbered, content.stop)
    | none => return ([], 0)

/-- Splits an expression at the colon that ends an offset: those inside parentheses and those of choices
do not. -/
def splitOffset : (parentheses choices : Nat) → Word → Word × Option Word
  | _, _, [] => ([], none)
  | parentheses, choices, .char c quoted :: rest =>
    if quoted then (splitOffset parentheses choices rest).map (.char c quoted :: ·) id
    else if c == ':' && parentheses = 0 && choices = 0 then ([], some rest)
    else
      let parentheses := if c == '(' then parentheses + 1 else if c == ')' then parentheses - 1
        else parentheses
      let choices := if c == '?' then choices + 1 else if c == ':' then choices - 1 else choices
      (splitOffset parentheses choices rest).map (.char c quoted :: ·) id
  | parentheses, choices, piece :: rest =>
    (splitOffset parentheses choices rest).map (piece :: ·) id

/-- A part of a value by its offset and its length. -/
def slice (e : Engine) (r : Reference) (value : Value) (word : Word) : Run Value := do
  let (first, second) := splitOffset 0 0 word
  let offset ← Run.compute (← textWith e {} first)
  let length ← match second with
    | some second => pure (some (← Run.compute (← textWith e {} second)))
    | none => pure none
  let written := second.getD []
  match value with
  | .one text =>
    match sliceText? text offset length with
    | some part => return .one part
    | none => refuseLength written
  | .all _ mark apart =>
    if length.any fun n => n < 0 then refuseLength written
    let (elements, stop) ← numberedOf r
    return .all (sliceList elements stop offset (length.map Int.toNat)) mark apart

/-- Changes the case of the first character, or of all, where a pattern takes it. -/
def recased (f : Char → Char) (every : Bool) (isChosen : Char → Bool) (cs : Octets) : Octets :=
  let change (c : Char) : Char := if isChosen c then f c else c
  if every then cs.map change
  else
    match cs with
    | [] => []
    | c :: rest => change c :: rest

/-- Changes the case of a value. -/
def recase (e : Engine) (f : Char → Char) (every : Bool) (word : Word) (value : Value) : Run Value := do
  if word.isEmpty then return value.map (recased f every fun _ => true)
  let pattern ← patternOf e word
  return value.map (recased f every fun c => Pattern.matchesAll pattern [c])

/-- What takes the place of a text: a bare mark in it stands for that text. -/
def replacement (text : PatternText) (found : Octets) : Octets :=
  text.flatMap fun (c, quoted) => if c == '&' && !quoted then found else [c]

/-- Replaces what a pattern takes in a value. -/
def replaced (e : Engine) (everywhere : Bool) (word : Word) (value : Value) : Run Value := do
  let (first, second) := splitAt '/' word
  let (atStart, atEnd, first) := match everywhere, first with
    | false, .char '#' false :: rest => (true, false, rest)
    | false, .char '%' false :: rest => (false, true, rest)
    | _, _ => (false, false, first)
  let pattern ← patternOf e first
  let text ← match second with
    | some second => pure (textOf (← e.expand {} second))
    | none => pure []
  let new ← if ← Run.has "patsub_replacement" then pure (replacement text)
    else pure fun _ => text.map Prod.fst
  let change (cs : Octets) : Octets :=
    if atStart then
      match Pattern.longestStart? pattern cs with
      | some n => new (cs.take n) ++ cs.drop n
      | none => cs
    else if atEnd then
      match Pattern.longestEnd? pattern cs with
      | some n => cs.take (cs.length - n) ++ new (cs.drop (cs.length - n))
      | none => cs
    else Pattern.replace everywhere pattern new (cs.length + 1) cs
  return value.map change

/-- The names of variables with values that begin in a given way. -/
def namesFrom (start : Octets) : Run (List Octets) := do
  let s ← Run.self
  let stored := s.vars.filterMap fun (name, v) =>
    if v.content == .nothing then none else some name
  let computed := computedNames.filter fun name => (s.computed? name).isSome
  let all := (stored ++ computed).filter fun name => (Text.afterStart? start name).isSome
  return (sortedTexts all).eraseDups

/-- Renders a value as a letter says. -/
def rendered (letter : Char) (r : Reference) (value : Option Value) (quoted full : Bool) :
    Run (Option Value) := do
  let s ← Run.self
  let name := s.referent r.name
  let v := (s.lookup? name).getD {}
  let isAll := (Reference.allOf? r.index).isSome
  let many (texts : List Octets) : Run (Option Value) := do
    match value with
    | some (.all _ mark apart) => return some (.all texts mark apart)
    | _ => return some (.one v.letters)
  let each (f : Octets → Octets) : Run (Option Value) := return value.map (Value.map f)
  match letter with
  | 'Q' => each Quoting.reusable
  | 'U' => each fun cs => cs.map Char.toUpper
  | 'L' => each fun cs => cs.map Char.toLower
  | 'u' => each fun cs => (cs.head?.map Char.toUpper).toList ++ cs.drop 1
  | 'E' => each Rendering.unescaped
  | 'P' =>
    match value with
    | some value => return some (value.map (Rendering.prompt s))
    | none => return none
  | 'a' =>
    match r.index, value with
    | none, some (.all texts _ _) => many (texts.map fun _ => v.letters)
    | none, _ => return if v.letters.isEmpty && value.isNone then none else some (.one v.letters)
    | some _, _ =>
      let texts := (value.map Value.texts).getD []
      if isAll && texts.isEmpty && !v.letters.isEmpty then return some (.one v.letters)
      many (texts.map fun _ => v.letters)
  | 'K' =>
    if isAll then return (Rendering.pairs v.content).map .one
    each Quoting.reusable
  | 'k' =>
    if isAll then return some (← Run.valueOfAll (Rendering.keysAndTexts v.content)
      (Reference.allOf? r.index == some true) quoted full)
    each Quoting.reusable
  | _ =>
    match r.name, r.index with
    | ['@'], _ => return some (.one (Rendering.parameters s.parameters))
    | ['*'], _ => return some (.one (Rendering.parameters s.parameters))
    | _, some _ =>
      if isAll then return (Rendering.assignment? name v v.content).map .one
      return value.bind fun value => (Rendering.assignment? name v (.text value.text)).map .one
    | _, none =>
      match value with
      | some value => return (Rendering.assignment? name v (.text value.text)).map .one
      | none => return none

/-- Breaks off because a parameter has no value where it needs one. -/
def refuseUnset (given r : Reference) (use : Use) : Run Unit := do
  let extended ← Run.isExtended
  if given.indirect then Run.missingParameter ('!' :: given.name ++ ": unbound variable")
  if !extended then Run.missingParameter (r.name ++ ": parameter not set")
  let isSpecial := !(r.name.head?.any Octets.startsName)
  let shown : Octets :=
    if isSpecial && !r.braced then '$' :: r.name
    else if use == .length then r.name
    else Layout.source r
  Run.missingParameter (shown ++ ": unbound variable")

/-- Assigns to what a reference stands for. -/
def assignReference (e : Engine) (r : Reference) (text : Octets) : Run Unit := do
  let extended ← Run.isExtended
  if extended && !(r.name.head?.any Octets.startsName) then
    Run.fail ('$' :: r.name ++ ": cannot assign in this way")
  match r.index with
  | none => Run.assign r.name text
  | some index =>
    match ← slotOf? e r.name index with
    | some slot => Run.assignTo slot text
    | none => Run.fail (Layout.source r ++ ": bad array subscript")

/-- Expands a parameter. -/
def parameter (e : Engine) (spread : Spread) (given : Reference) (use : Use) (orNull quoted : Bool)
    (word : Word) : Run (List Segment) := do
  let extended ← Run.isExtended
  if use == .malformed then Run.failIn "Bad substitution" (source given word ++ ": bad substitution")
  match given.index with
  | some [] => Run.fail (source given word ++ ": bad substitution")
  | _ => pure ()
  let full := spread.full && use != .length
  let ofList (texts : List Octets) (each : Bool) : Run (List Segment) := do
    return (← Run.valueOfAll texts each quoted full).segments quoted
  match given.indirect, use, Reference.allOf? given.index with
  | true, .names each, _ => return ← ofList (← namesFrom given.name) each
  | true, .value, some each =>
    let s ← Run.self
    let content := ((s.lookup? (s.referent given.name)).map Variable.content).getD .nothing
    return ← ofList (content.elements.map Prod.fst) each
  | _, _, _ => pure ()
  let r ← resolved e given
  let led := (getKey (← Run.self).vars given.name).any fun v => v.isReference
  let found ← if given.indirect && given.index.isNone && led then pure (some (.one r.name))
    else valueOf e r quoted full
  let isSet := match found with
    | some (.all texts mark _) =>
      if extended && texts.isEmpty then false
      else !(orNull && (Text.joined mark texts).isEmpty)
    | some (.one text) => !(orNull && text.isEmpty)
    | none => false
  let inner : Spread := { spread with tilde := true, tildeAfterColon := false, cutsBare := true }
  let plainValue (value : Option Value) : List Segment :=
    match value with
    | some value => value.segments quoted
    | none => []
  let checked : Run Unit := do
    let isElements := r.name == ['@'] || r.name == ['*']
    if found.isNone && !isElements && (← Run.has "nounset") then refuseUnset given r use
  let dropped (drop : List Atom → Octets → Octets) (found : Option Value) :
      Run (List Segment) := do
    match found with
    | none => return []
    | some value =>
      let f := drop (← patternOf e word)
      match value with
      | .all texts mark apart =>
        if extended then return (value.map f).segments quoted
        let text := (f (Text.joined mark texts)).map fun c => (c, quoted)
        return [if quoted && apart && !texts.isEmpty then .strict text
          else if quoted then .fixed text else .fields text]
      | .one text => return (Value.one (f text)).segments quoted
  match use with
  | .malformed => return []
  | .value =>
    checked
    return plainValue found
  | .orElse => if isSet then return plainValue found else e.expand inner word
  | .ifSet => if isSet then e.expand inner word else return []
  | .orAssign =>
    if isSet then return plainValue found
    let text ← textWith e { tilde := true } word
    try assignReference e r text
    catch raised =>
      if extended then Run.setStatus 2
      throw raised
    return plainValue (← valueOf e r quoted full)
  | .orFail =>
    if isSet then return plainValue found
    let message : Octets ←
      if word.isEmpty then
        pure (if orNull then (if extended then "parameter null or not set"
          else "parameter not set or null") else "parameter not set")
      else textWith e { tilde := true } word
    Run.missingParameter (Layout.source r ++ ": " ++ message)
  | .length =>
    checked
    let length := match found with
      | some (.all texts mark _) => if extended then texts.length else (Text.joined mark texts).length
      | some (.one text) => text.length
      | none => 0
    return (Value.one (Octets.ofNat length)).segments quoted
  | .dropEnd longest =>
    checked
    dropped (Pattern.dropEnd longest) found
  | .dropStart longest =>
    checked
    dropped (Pattern.dropStart longest) found
  | .slice =>
    checked
    return (← slice e r (found.getD (.one [])) word).segments quoted
  | .replace everywhere =>
    checked
    match found with
    | some value => return (← replaced e everywhere word value).segments quoted
    | none => return []
  | .upper every =>
    checked
    match found with
    | some value => return (← recase e Char.toUpper every word value).segments quoted
    | none => return []
  | .lower every =>
    checked
    match found with
    | some value => return (← recase e Char.toLower every word value).segments quoted
    | none => return []
  | .swapped every =>
    checked
    let swap (c : Char) : Char := if c.isUpper then c.toLower else c.toUpper
    match found with
    | some value => return (← recase e swap every word value).segments quoted
    | none => return []
  | .rendered letter =>
    checked
    return plainValue (← rendered letter r found quoted full)
  | .names _ => return plainValue found

/-- The output of a command; in the extended language nothing but a redirection from a file stands for
the text of the file. -/
def outputOf (e : Engine) (body : Command) : Run Octets := do
  match ← Run.isExtended, body with
  | true, .simple line [] [] [.file (.number 0) .input target] =>
    e.outputOf (.simple line [] [Word.bare "cat"] [.file (.number 0) .input target])
  | _, _ => e.outputOf body

/-- An expression of the extended language without the quotation marks in it. -/
def withoutMarks (expression : Word) : Word :=
  expression.filter fun piece => match piece with
    | .char '"' _ => false
    | _ => true

/-- Expands a part of a word. -/
def part (e : Engine) (spread : Spread) : Part → Run (List Segment)
  | .bare text =>
    let text : PatternText := text.map fun c => (c, false)
    return [if spread.cutsBare then .fields text else .fixed text]
  | .quoted text => return [.fixed (text.map fun c => (c, true))]
  | .piece (.char c quoted) => return [.fixed [(c, quoted)]]
  | .piece (.mark .faint) => return []
  | .piece (.mark _) => return [.mark]
  | .piece (.parameter source use orNull quoted word) =>
    parameter e spread source use orNull quoted word
  | .piece (.output body quoted _) => do
    return (Value.one (← outputOf e body)).segments quoted
  | .piece (.process body takesInput) => do
    return [.fixed ((← e.processName body takesInput).map fun c => (c, true))]
  | .piece (.arithmetic expression quoted) => do
    let expression ← if ← Run.isExtended then pure (withoutMarks expression) else pure expression
    let text ← textWith e {} expression
    let value ← Run.compute text
    return (Value.one (Octets.ofInt value)).segments quoted
  | .piece (.array _) => return []

/-- Expands the parts of a word one after the other. -/
def parts (e : Engine) (spread : Spread) : List Part → Run (List Segment)
  | [] => return []
  | first :: rest => do
    let segments ← part e spread first
    return segments ++ (← parts e spread rest)

/-- Expands a word into segments. -/
def segments (e : Engine) (spread : Spread) (word : Word) : Run (List Segment) := do
  let s ← Run.self
  let word :=
    if spread.tildeAfterColon then withTildes s (word.length + 1) word
    else if spread.tilde then withTilde s false word
    else word
  parts e spread (partsOf word)

/-- Replaces fields that are patterns by the names of files. -/
def withFiles (fields : List PatternText) : Run (List Octets) := do
  let s ← Run.self
  let plain (field : PatternText) : Octets := field.map Prod.fst
  if s.options.contains "noglob" then return fields.map plain
  let m ← Run.machine
  let groups := s.options.contains "extglob"
  return fields.flatMap fun field =>
    if isPattern groups field then
      match sortedTexts (m.glob (Globbing.ofOptions s.dialect s.options) s.folder (field.length + 1) [] field) with
      | [] => if s.options.contains "nullglob" then [] else [plain field]
      | names => names
    else [plain field]

/-- Expands a word into fields. -/
def fields (e : Engine) (word : Word) : Run (List Octets) := do
  let segments ← e.expand { full := true, tilde := true } word
  let s ← Run.self
  withFiles (fieldsOf s.separators none segments)

/-- Expands words into fields. -/
def words (e : Engine) : List Word → Run (List Octets)
  | [] => return []
  | word :: rest => do
    let expands := (← Run.isExtended) && (← Run.has "braceexpand")
    let list := if expands then Braces.words (word.length + 1) word else [word]
    let first ← list.mapM (fields e)
    return first.flatten ++ (← words e rest)

/-- Expands the value of an assignment. -/
def value (e : Engine) (word : Word) : Run Octets :=
  textWith e { tildeAfterColon := true } word

/-- Expands a word into one text. -/
def text (e : Engine) (word : Word) : Run Octets :=
  textWith e { tilde := true } word

end Expansion

end DocMend.Shell
