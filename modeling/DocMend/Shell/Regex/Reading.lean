import DocMend.Shell.Regex.Basic
/-!
Reading of regular expressions. An expression is cut into signs; what a sign means may depend on the
one before it, so each is cut off only when it is needed.
-/

set_option autoImplicit false
set_option relaxedAutoImplicit false

namespace DocMend.Shell.Regex

/-- A sign of an expression. -/
inductive Sign where
  | char (c : Char)
  | set (set : ByteSet)
  | bracket
  | star
  | plus
  | question
  | openBounds
  | closeBounds
  | openGroup
  | closeGroup
  | bar
  | back (number : Nat)
  | check (assertion : Assertion)
  | backslash
  | finish
deriving DecidableEq, Repr

/-- The sign of a letter after a backslash. -/
def escapedSign (extended : Bool) (c : Char) : Sign :=
  let word := ByteSet.ofTest Octets.inName
  let space := ByteSet.ofTest Octets.isSpace
  match c with
  | '<' => .check .wordStart
  | '>' => .check .wordEnd
  | 'b' => .check .wordEdge
  | 'B' => .check .noWordEdge
  | '\x60' => .check .textStart
  | '\x27' => .check .textEnd
  | 'w' => .set word
  | 'W' => .set word.complement
  | 's' => .set space
  | 'S' => .set space.complement
  | c =>
    if c.isDigit && c ≠ '0' then .back (c.toNat - '0'.toNat)
    else if extended then .char c
    else
      match c with
      | '|' => .bar
      | '(' => .openGroup
      | ')' => .closeGroup
      | '+' => .plus
      | '?' => .question
      | '\x7b' => .openBounds
      | '\x7d' => .closeBounds
      | c => .char c

/-- The signs whose meaning does not depend on where they stand: the first one of a text, and what
follows it. -/
def plainSign (extended : Bool) : Octets → Sign × Octets
  | [] => (.finish, [])
  | ['\\'] => (.backslash, [])
  | '\\' :: c :: rest => (escapedSign extended c, rest)
  | '*' :: rest => (.star, rest)
  | '[' :: rest => (.bracket, rest)
  | '.' :: rest => (.set .all, rest)
  | c :: rest =>
    if extended then
      match c with
      | '|' => (.bar, rest)
      | '+' => (.plus, rest)
      | '?' => (.question, rest)
      | '(' => (.openGroup, rest)
      | ')' => (.closeGroup, rest)
      | '\x7b' => (.openBounds, rest)
      | '\x7d' => (.closeBounds, rest)
      | c => (.char c, rest)
    else (.char c, rest)

/-- The first sign of a text. In the basic style a circumflex is special at the beginning of a part, and
a dollar sign at the end of one. -/
def nextSign (extended atStart : Bool) (cs : Octets) : Sign × Octets :=
  match cs with
  | '^' :: rest =>
    if extended || atStart then (.check .lineStart, rest) else (.char '^', rest)
  | '$' :: rest =>
    let ends := extended || rest.isEmpty ||
      match (plainSign extended rest).1 with
      | .bar => true
      | .closeGroup => true
      | _ => false
    (if ends then .check .lineEnd else .char '$', rest)
  | cs => plainSign extended cs

/-- The state of reading: the sign at hand, what follows it, the number of groups so far, and the groups
that are closed. -/
structure Reading where
  sign : Sign := .finish
  rest : Octets := []
  groups : Nat := 0
  closed : List Nat := []

/-- A reader of a part of an expression. -/
abbrev Reader := StateT Reading (Except Fault)

namespace Reader

/-- Takes the next sign. -/
def advance (style : Style) (atStart : Bool) : Reader Unit :=
  modify fun r =>
    let (sign, rest) := nextSign style.extended atStart r.rest
    { r with sign, rest }

/-- A member of a set in brackets: a byte, or bytes by the name of their class. -/
inductive Element where
  | byte (c : Char)
  | named (kind : Char) (name : Octets)

/-- Whether a text goes on with a hyphen that stands between the ends of a range. -/
def isHyphen : Octets → Bool
  | '-' :: '-' :: '-' :: _ => false
  | '-' :: _ => true
  | _ => false

/-- The longest name of a class of characters. -/
def longestName : Nat := 32

/-- Reads a member of a set; a hyphen may only be one where the brackets are at an end or have just
begun. -/
def element (style : Style) (takesHyphen : Bool) (cs : Octets) : Except Fault (Element × Octets) :=
  let shown (c : Char) : Char := if style.fold then c.toUpper else c
  let named (kind : Char) (rest : Octets) : Except Fault (Element × Octets) :=
    let rec go (name : Octets) : Octets → Except Fault (Element × Octets)
      | [] => .error .openBracket
      | c :: rest =>
        if name.length = longestName then .error .openBracket
        else if c = kind && rest.head? = some ']' then .ok (.named kind name.reverse, rest.drop 1)
        else go (c :: name) rest
    go [] rest
  match cs with
  | '[' :: '.' :: rest => named '.' rest
  | '[' :: '=' :: rest => named '=' rest
  | '[' :: ':' :: rest => named ':' rest
  | '-' :: rest =>
    if isHyphen cs && !takesHyphen && rest.head? ≠ some ']' then .error .rangeEnd
    else .ok (.byte '-', if isHyphen cs then rest else rest.drop 2)
  | c :: rest => .ok (.byte (shown c), rest)
  | [] => .error .openBracket

/-- The single byte that an element stands for as an end of a range. -/
def endOf : Element → Except Fault Char
  | .byte c => .ok c
  | .named '.' [c] => .ok c
  | .named '.' _ => .error .collation
  | .named _ _ => .error .rangeEnd

/-- The bytes that an element stands for. -/
def bytesOf (style : Style) : Element → Except Fault ByteSet
  | .byte c => .ok (.single c)
  | .named ':' name =>
    let name := String.ofList name
    let name := if style.fold && (name == "upper" || name == "lower") then "alpha" else name
    match Pattern.kind? name with
    | some test => .ok (.ofTest test)
    | none => .error .className
  | .named _ [c] => .ok (.single c)
  | .named _ _ => .error .collation

/-- Reads the members of a set up to the closing bracket. -/
def elements (style : Style) : Nat → Bool → ByteSet → Octets → Except Fault (ByteSet × Octets)
  | 0, _, _, _ => .error .openBracket
  | fuel + 1, first, set, cs => do
    let (low, rest) ← element style first cs
    let isKind := match low with
      | .named '.' _ => false
      | .named _ _ => true
      | .byte _ => false
    if !isKind && rest.isEmpty then throw .openBracket
    let after := rest.drop 1
    if !isKind && isHyphen rest && after.isEmpty then throw .openBracket
    let (set, rest) ←
      if !isKind && isHyphen rest && after.head? ≠ some ']' then
        let (high, rest) ← element style true after
        let low ← endOf low
        let high ← endOf high
        if high < low then throw .rangeEnd
        pure (set.union (.ofTest fun c => low ≤ c && c ≤ high), rest)
      else
        let bytes ← bytesOf style low
        pure (set.union bytes, rest)
    match rest with
    | [] => throw .openBracket
    | ']' :: rest => return (set, rest)
    | rest => elements style fuel false set rest

/-- Reads a set after its opening bracket. A closing bracket in front is a member. -/
def bracket (style : Style) (cs : Octets) : Except Fault (ByteSet × Octets) := do
  if cs.isEmpty then throw .badPattern
  let (negated, cs) := match cs with
    | '^' :: rest => (true, rest)
    | cs => (false, cs)
  if cs.isEmpty then throw .badPattern
  let (set, rest) ← elements style (cs.length + 1) true (.ofTest fun _ => false) cs
  let set := if style.fold then set.folded else set
  return (if negated then set.complement else set, rest)

/-- The largest bound of a repetition. -/
def largestBound : Nat := 32767

/-- A bound of a repetition: none was written, or a number, or what is no number. -/
inductive Bound where
  | absent
  | number (n : Nat)
  | wrong
deriving DecidableEq, Repr

/-- Reads a bound of a repetition up to a comma, to the closing brace or to the end. -/
def bound (style : Style) : Nat → Bound → Reader Bound
  | 0, _ => return .wrong
  | fuel + 1, found => do
    advance style false
    match (← get).sign with
    | .finish => return .wrong
    | .closeBounds => return found
    | .char ',' => return found
    | .char c =>
      if c.isDigit && found ≠ .wrong then
        let digit := c.toNat - '0'.toNat
        match found with
        | .number n => bound style fuel (.number (min (largestBound + 1) (10 * n + digit)))
        | _ => bound style fuel (.number digit)
      else bound style fuel .wrong
    | _ => bound style fuel .wrong

/-- An expression whose groups all count as ones that take part. -/
def copied : Regex → Regex
  | .group number _ body => .group number false (copied body)
  | .both first second => .both (copied first) (copied second)
  | .either first second => .either (copied first) (copied second)
  | .many body => .many (copied body)
  | r => r

/-- An expression a number of times. -/
def times (r : Regex) : Nat → Regex
  | 0 => .empty
  | 1 => r
  | n + 1 => .both (times r n) (copied r)

/-- An expression up to a number of times, once at least. -/
def upTo (r : Regex) : Nat → Regex
  | 0 => .empty
  | 1 => .either r .empty
  | n + 1 => .either (.both (upTo r n) (copied r)) .empty

/-- Marks a group that may be left out, wherever it stands in an expression. -/
def optional (number : Nat) : Regex → Regex
  | .group n isOptional body =>
    .group n (isOptional || n == number) (optional number body)
  | .both first second => .both (optional number first) (optional number second)
  | .either first second => .either (optional number first) (optional number second)
  | .many body => .many (optional number body)
  | r => r

/-- An expression at least and at most so many times. -/
def repeated (r : Regex) (least : Nat) (most : Option Nat) : Regex :=
  let next := if least = 0 then r else copied r
  let free := match next with
    | .group n _ _ => optional n next
    | r => r
  let more := match most with
    | none => some (.many free)
    | some most => if most = least then none else some (upTo free (most - least))
  match least, more with
  | 0, some more => more
  | least, some more => .both (times r least) more
  | least, none => times r least

/-- Reads the bounds of a repetition after their opening brace, and goes on behind them. Where they
cannot be read, the brace may stand for itself. -/
def bounds (style : Style) (r : Regex) : Reader Regex := do
  let start ← get
  let fuel := start.rest.length + 1
  let low ← bound style fuel .absent
  let comma := (← get).sign = .char ','
  if low = .absent && !comma then throw .boundsContent
  let high ← if low = .wrong then pure .wrong
    else if comma then bound style fuel .absent
    else pure low
  if low = .wrong || high = .wrong then
    if !style.looseBounds then
      throw (if (← get).sign = .finish then .openBounds else .boundsContent)
    set { start with sign := .char '\x7b' }
    return r
  let least := match low with
    | .number n => n
    | _ => 0
  let most := match high with
    | .number n => some n
    | _ => none
  if most.any (· < least) || (← get).sign ≠ .closeBounds then throw .boundsContent
  if largestBound < most.getD least then throw .tooBig
  advance style false
  match r with
  | .empty => return .empty
  | r => return repeated r least most

/-- Adds the repetitions that follow a part. -/
def suffixes (style : Style) : Nat → Regex → Reader Regex
  | 0, r => return r
  | fuel + 1, r => do
    let simple (least : Nat) (most : Option Nat) : Reader Regex := do
      advance style false
      match r with
      | .empty => return .empty
      | r => return repeated r least most
    let found? : Option (Reader Regex) := match (← get).sign with
      | .star => some (simple 0 none)
      | .plus => some (simple 1 none)
      | .question => some (simple 0 (some 1))
      | .openBounds => some (bounds style r)
      | _ => none
    match found? with
    | none => return r
    | some read =>
      let r ← read
      let next := (← get).sign
      if style.refusesStacked && (next = .star || next = .openBounds) then throw .leadingRepetition
      suffixes style fuel r

mutual
/-- Reads alternatives up to the end or, inside a group, up to the closing parenthesis. -/
def alternatives (style : Style) (nested : Bool) : Nat → Reader Regex
  | 0 => throw .tooBig
  | fuel + 1 => do
    let closed := (← get).closed
    let first ← branch style nested fuel
    moreAlternatives style nested closed first fuel

/-- Reads the alternatives after the first one. -/
def moreAlternatives (style : Style) (nested : Bool) (closed : List Nat) (left : Regex) :
    Nat → Reader Regex
  | 0 => throw .tooBig
  | fuel + 1 => do
    if (← get).sign ≠ .bar then return left
    advance style true
    let sign := (← get).sign
    if sign ≠ .bar && sign ≠ .finish && !(nested && sign = .closeGroup) then
      let before := (← get).closed
      modify fun r => { r with closed }
      let right ← branch style nested fuel
      modify fun r => { r with closed := before ++ r.closed }
      moreAlternatives style nested closed (.either left right) fuel
    else moreAlternatives style nested closed (.either left .empty) fuel

/-- Reads parts that follow one another. -/
def branch (style : Style) (nested : Bool) : Nat → Reader Regex
  | 0 => throw .tooBig
  | fuel + 1 => do
    let first ← part style nested fuel
    moreParts style nested first fuel

/-- Reads the parts after the first one. -/
def moreParts (style : Style) (nested : Bool) (left : Regex) : Nat → Reader Regex
  | 0 => throw .tooBig
  | fuel + 1 => do
    let sign := (← get).sign
    if sign = .bar || sign = .finish || nested && sign = .closeGroup then return left
    let right ← part style nested fuel
    let both := match left, right with
      | .empty, r => r
      | l, .empty => l
      | l, r => .both l r
    moreParts style nested both fuel

/-- Reads a part with its repetitions. -/
def part (style : Style) (nested : Bool) : Nat → Reader Regex
  | 0 => throw .tooBig
  | fuel + 1 => do
    let char (c : Char) : Regex :=
      .one (if style.fold then ByteSet.folded (.single c.toUpper) else .single c)
    let simple (r : Regex) : Reader Regex := do
      advance style false
      suffixes style (fuel + 1) r
    let leading (c : Char) : Reader Regex := do
      if style.extended then
        if style.refusesLeading then throw .leadingRepetition
        advance style false
        part style nested fuel
      else simple (char c)
    match (← get).sign with
    | .finish => return .empty
    | .bar => return .empty
    | .backslash => throw .trailingBackslash
    | .char c => simple (char c)
    | .set set => simple (.one set)
    | .check assertion =>
      advance style true
      return .check assertion
    | .back number =>
      if !(← get).closed.contains number then throw .backReference
      simple (.back number)
    | .bracket =>
      let (set, rest) ← bracket style (← get).rest
      modify fun r => { r with rest }
      simple (.one set)
    | .openGroup =>
      let number := (← get).groups + 1
      modify fun r => { r with groups := number }
      advance style true
      let body ← if (← get).sign = .closeGroup then pure .empty
        else alternatives style true fuel
      if (← get).sign ≠ .closeGroup then throw .openGroup
      modify fun r => { r with closed := number :: r.closed }
      simple (.group number false body)
    | .closeGroup =>
      if !style.looseClose then throw .closedGroup
      simple (char ')')
    | .closeBounds => simple (char '\x7d')
    | .openBounds =>
      if style.refusesStacked then throw .leadingRepetition
      leading '\x7b'
    | .star => leading '*'
    | .plus => leading '+'
    | .question => leading '?'
end

end Reader

/-- Reads an expression: it and the number of its groups. Every sign uses up at most four calls, so the
fuel never runs out. -/
def read (style : Style) (cs : Octets) : Except Fault (Regex × Nat) :=
  let body : Reader Regex := do
    Reader.advance style true
    Reader.alternatives style false (4 * cs.length + 8)
  (body.run { rest := cs }).map fun (r, after) => (r, after.groups)

end DocMend.Shell.Regex
