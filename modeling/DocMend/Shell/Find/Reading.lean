import DocMend.Shell.Find.Expression
import DocMend.Shell.Regex.Reading
/-!
Reading of expressions about files. The words are read one after the other; then connectives are
settled by their strength: no, both, either, and a sequence, from the strongest to the weakest.
-/

set_option autoImplicit false
set_option relaxedAutoImplicit false

namespace DocMend.Shell.Find

/-- A word of an expression. -/
inductive Token where
  | leaf (expression : Expression)
  | openGroup (name : Octets) (artificial : Bool)
  | closeGroup (artificial : Bool)
  | no (name : Octets)
  | both (name : Octets)
  | either (name : Octets)
  | sequence (name : Octets)

namespace Token

/-- The name of a word. -/
def name : Token → Octets
  | leaf _ => []
  | openGroup name _ => name
  | closeGroup _ => [')']
  | no name => name
  | both name => name
  | either name => name
  | sequence name => name

/-- How strongly a connective binds; other words do not. -/
def strength : Token → Nat
  | sequence _ => 1
  | either _ => 2
  | both _ => 3
  | _ => 0

/-- Whether a word is a connective. -/
def isConnective : Token → Bool
  | sequence _ => true
  | either _ => true
  | both _ => true
  | no _ => true
  | _ => false

end Token

/-- The wordings of complaints about connectives and brackets. -/
inductive Fault where
  | nothingBefore (name : Octets)
  | nothingAfter (name : Octets)
  | nothingBetween (name : Octets)
  | tooManyCloses
  | closesTooOften
  | emptyGroup
  | noClose
  | noCloseAfter (name : Octets)
  | invalid

/-- The wording of a fault. -/
def Fault.text : Fault → Octets
  | nothingBefore name =>
    "invalid expression; you have used a binary operator \x27" ++ name ++ "\x27 with nothing before it."
  | nothingAfter name => "expected an expression after " ++ Tool.marked name
  | nothingBetween name =>
    "expected an expression between " ++ Tool.marked name ++ " and \x27)\x27"
  | tooManyCloses => "invalid expression; you have too many \x27)\x27".toList
  | closesTooOften => "you have too many \x27)\x27".toList
  | emptyGroup => "invalid expression; empty parentheses are not allowed.".toList
  | noClose =>
    ("invalid expression; I was expecting to find a \x27)\x27 somewhere but did not see " ++
      "one.").toList
  | noCloseAfter name =>
    "invalid expression; expected to find a \x27)\x27 but didn\x27t see one. ".toList ++
      "Perhaps you need an extra predicate after " ++ Tool.marked name
  | invalid => "invalid expression".toList

mutual
/-- Settles an operand and the connectives after it that bind more strongly than the one before. -/
def settle : Nat → (strength : Nat) → (before : Option Token) → List Token →
    Except Fault (Expression × List Token)
  | 0, _, _, _ => .error .invalid
  | _, _, _, [] => .error .invalid
  | fuel + 1, strength, before, token :: rest => do
    let name := (before.map Token.name).getD []
    let (operand, rest) ← match token with
      | .leaf expression => pure (expression, rest)
      | .no _ => do
        let (operand, rest) ← settle fuel 4 (some token) rest
        pure (Expression.no operand, rest)
      | .openGroup own _ =>
        match rest with
        | [] => .error (.noCloseAfter own)
        | .closeGroup true :: _ => .error (.noCloseAfter own)
        | .closeGroup false :: _ => .error .emptyGroup
        | rest => do
          let (inner, rest) ← settle fuel 0 (some token) rest
          match rest with
          | .closeGroup _ :: rest => pure (inner, rest)
          | _ => .error .noClose
      | .closeGroup artificial =>
        if artificial then .error (.nothingAfter name)
        else if before.any Token.isConnective then .error (.nothingBetween name)
        else .error .tooManyCloses
      | connective => .error (.nothingBefore connective.name)
    settleRest fuel strength operand rest

/-- Settles connectives after an operand. -/
def settleRest : Nat → (strength : Nat) → Expression → List Token →
    Except Fault (Expression × List Token)
  | 0, _, _, _ => .error .invalid
  | _, _, left, [] => .ok (left, [])
  | fuel + 1, strength, left, token :: rest =>
    if token.strength ≤ strength then .ok (left, token :: rest)
    else do
      let (right, rest) ← settle fuel token.strength (some token) rest
      let joined := match token with
        | .sequence _ => Expression.sequence left right
        | .either _ => .either left right
        | _ => .both left right
      settleRest fuel strength joined rest
end

/-- The expression that words make, which are put between brackets in front of the usual printing
where no word shows files itself. -/
def expressionOf (tokens : List Token) : Except Fault Expression := do
  let isVisible (token : Token) : Bool := match token with
    | .leaf (.action action) => action.isVisible
    | _ => false
  let usual := Expression.action (.print '\n' none)
  if tokens.isEmpty then return usual
  let all := if tokens.any isVisible then tokens
    else .openGroup ['('] true :: tokens ++ [.closeGroup true, .both "-a", .leaf usual]
  match ← settle (2 * all.length + 2) 0 none all with
  | (expression, []) => return expression
  | (_, .closeGroup _ :: _) => .error .closesTooOften
  | _ => .error .invalid

/-- Whether a word belongs to an expression and not to the names before it. -/
def looksLikeExpression (isLeading : Bool) (word : Octets) : Bool :=
  match word with
  | '-' :: rest => !rest.isEmpty
  | ['('] => true
  | ['!'] => true
  | [')'] => !isLeading
  | [','] => !isLeading
  | _ => false

/-- Reading of words: those that are left, the settings, what was read, the latest first, and the last
name with its argument. -/
structure Reading where
  words : List Octets
  settings : Settings := {}
  tokens : List Token := []
  orders : Nat := 0
  last : Option Octets := none

/-- A reader of words. -/
abbrev Reader := StateT Reading Run

namespace Reader

/-- Gives up with a complaint. -/
def refuse {α : Type} (text : Octets) : Reader α :=
  (Tool.abandon "find" 1 text : Run α)

/-- The argument of a word. -/
def argument (name : Octets) : Reader Octets := do
  match (← get).words with
  | word :: rest =>
    modify fun r => { r with words := rest }
    return word
  | [] => refuse ("missing argument to \x60" ++ name ++ "\x27")

/-- Adds a word; where an operand comes after another one, both have to hold. -/
def push (token : Token) : Reader Unit :=
  modify fun r =>
    let joins := match token, r.tokens with
      | .leaf _, .leaf _ :: _ => true
      | .leaf _, .closeGroup _ :: _ => true
      | .no _, .leaf _ :: _ => true
      | .no _, .closeGroup _ :: _ => true
      | .openGroup _ _, .leaf _ :: _ => true
      | .openGroup _ _, .closeGroup _ :: _ => true
      | _, _ => false
    { r with tokens := token :: (if joins then .both "-a" :: r.tokens else r.tokens) }

/-- Adds a test. -/
def test (test : Test) : Reader Unit :=
  push (.leaf (.test test))

/-- Adds an action. -/
def action (action : Action) : Reader Unit :=
  push (.leaf (.action action))

/-- Changes the settings; the word itself always holds. -/
def setting (change : Settings → Settings) : Reader Unit := do
  modify fun r => { r with settings := change r.settings }
  test (.constant true)

/-- A number with a sign for how it is compared. -/
def bound? (text : Octets) : Option Bound :=
  let number (digits : Octets) : Option Int := (Tool.natural? digits).map fun n => (n : Int)
  match text with
  | '+' :: digits => (number digits).map .above
  | '-' :: digits => (number digits).map .below
  | digits => (number digits).map .exactly

/-- The bound that a word has as its argument. -/
def bound (name : Octets) : Reader Bound := do
  let text ← argument name
  match bound? text with
  | some bound => return bound
  | none => refuse ("invalid argument \x60" ++ text ++ "\x27 to \x60" ++ name ++ "\x27")

/-- The pattern that a word has as its argument. -/
def pattern (name : Octets) (fold : Bool) : Reader (List Atom) := do
  let text ← argument name
  let text := if fold then text.map Char.toLower else text
  return Pattern.ofText (text.map fun c => (c, false))

/-- A depth. -/
def depth (name : Octets) : Reader Nat := do
  let text ← argument name
  match Tool.natural? text with
  | some n => return n
  | none =>
    refuse ("Expected a positive decimal integer argument to " ++ name ++ ", but got " ++
      Tool.marked text)

/-- The kinds of files. -/
def kinds (name : Octets) : Reader (List Char) := do
  let text ← argument name
  let rec go : Octets → Reader (List Char)
    | [] =>
      refuse ("Last file type in list argument to " ++ name ++ " is missing, i.e., list is ending on: \x27,\x27")
    | c :: rest => do
      if !"bcdpfslD".toList.contains c then
        refuse ("Unknown argument to " ++ name ++ ": " ++ [c])
      match rest with
      | [] => return [c]
      | ',' :: more => return c :: (← go more)
      | _ => refuse ("Must separate multiple arguments to " ++ name ++ " using: \x27,\x27")
  if text.isEmpty then refuse ("Arguments to " ++ name ++ " should contain at least one letter")
  go text

/-- A size. -/
def size (name : Octets) : Reader Unit := do
  let text ← argument name
  if text.isEmpty then refuse "invalid null argument to -size"
  let last := (text.getLast?).getD ' '
  let unit? : Option Nat := [('b', 512), ('c', 1), ('w', 2), ('k', 1024), ('M', 1048576),
    ('G', 1073741824)].lookup last
  match unit? with
  | some unit =>
    match bound? text.dropLast with
    | some bound => test (.size bound unit)
    | none => refuse ("Invalid argument \x60" ++ text ++ "\x27 to -size")
  | none =>
    if !last.isDigit then refuse ("invalid -size type \x60" ++ [last] ++ "\x27")
    match bound? text with
    | some bound => test (.size bound 512)
    | none => refuse ("Invalid argument \x60" ++ text ++ "\x27 to -size")

/-- The types of regular expressions. -/
def regexTypes : List String :=
  ["findutils-default", "ed", "emacs", "gnu-awk", "grep", "posix-awk", "awk", "posix-basic",
   "posix-egrep", "egrep", "posix-extended", "posix-minimal-basic", "sed"]

/-- A regular expression of the usual type in the extended style: in it, groups, choices and bounds
begin with a backslash. -/
def plainStyle : Octets → Octets
  | '\\' :: c :: rest =>
    (if c == '(' || c == ')' || c == '|' then [c] else ['\\', c]) ++ plainStyle rest
  | c :: rest =>
    (if "()|\x7b\x7d".toList.contains c then ['\\', c] else [c]) ++ plainStyle rest
  | [] => []

/-- A regular expression. -/
def regex (name : Octets) (fold : Bool) : Reader Unit := do
  let text ← argument name
  let type := (← get).settings.regexType
  let basic := ["ed", "grep", "posix-basic", "posix-minimal-basic", "sed"].contains type
  let usual := type = "emacs" || type = "findutils-default"
  let style : Regex.Style := { extended := !basic, fold, looseBounds := true }
  match Regex.read style (if usual then plainStyle text else text) with
  | .ok (r, _) => test (.regex r.searcher)
  | .error fault =>
    refuse ("failed to compile regular expression " ++ Tool.marked text ++ ": " ++ fault.text)

/-- When the file was changed that a name leads to. -/
def timeOf (name : Octets) : Reader Int := do
  match ← (Run.placeOf name : Run _) with
  | .ok (path, some _) => return (← (Run.machine : Run Machine)).timeOf path
  | .ok (_, none) => refuse (Tool.quotedName name ++ ": " ++ Tool.reason .missing)
  | .error refusal => refuse (Tool.quotedName name ++ ": " ++ Tool.reason refusal)

/-- The bits that the description of a mode stands for. -/
def bits (text : Octets) : Octets → Reader Nat
  | [] => refuse ("invalid mode " ++ Tool.quotedName text)
  | description =>
    match Tool.ModeChange.readAll description with
    | some changes => return Tool.ModeChange.applyAll 0 false changes 0
    | none => refuse ("invalid mode " ++ Tool.quotedName text)

/-- Bits of a mode that have to be set. -/
def mode (name : Octets) : Reader Unit := do
  let text ← argument name
  match text with
  | '-' :: rest => test (.mode (.all (← bits text rest)))
  | '/' :: rest => test (.mode (.any (← bits text rest)))
  | rest => test (.mode (.equals (← bits text rest)))

/-- The owner of files: there is only one. -/
def owner (name kind : Octets) : Reader Unit := do
  let text ← argument name
  if text == "root".toList then test (.constant true)
  else
    match Tool.natural? text with
    | some n => test (.constant (n = 0))
    | none => refuse (Tool.quotedName text ++ " is not the name of " ++ kind)

/-- The number of an owner. -/
def ownerNumber (name : Octets) : Reader Unit := do
  test (.constant ((← bound name).holds 0))

/-- A file that has to be older than others. The letters tell which of the times of both is meant. -/
def newer (name letters : Octets) : Reader Unit := do
  match letters with
  | [x, y] =>
    if !"aBcm".toList.contains x || !"aBcmt".toList.contains y then
      refuse ("invalid predicate \x60" ++ name ++ "\x27")
    match (← get).words with
    | [] => refuse ("The " ++ Tool.marked name ++ " test needs an argument")
    | word :: _ =>
      let _ ← argument name
      if y == 't' then
        let now := Moment.ofThousandths (← (Run.machine : Run Machine)).now
        match Tool.readMoment now word with
        | some moment =>
          test (.changedAfter (moment.seconds * 1000 + (moment.fraction / 1000000 : Nat)))
        | none =>
          refuse ("I cannot figure out how to interpret " ++ Tool.quotedName word ++ " as a date or time")
      else test (.changedAfter (← timeOf word))
  | _ => refuse ("invalid predicate \x60" ++ name ++ "\x27")

/-- The letters behind a percent sign in a format. -/
def fieldLetters : List Char := "abcdDfFgGhHiklmMnpPsStuUyYZ".toList

/-- The parts of a format. -/
def pieces : Nat → Octets → Reader (List Piece)
  | 0, _ => return []
  | _, [] => return []
  | fuel + 1, '\\' :: rest => do
    match rest with
    | [] =>
      (Tool.complain "find" "warning: escape \x60\\\x27 followed by nothing at all" : Run Unit)
      return [.text ['\\']]
    | 'c' :: _ => return [.stop]
    | '\\' :: rest => return .text ['\\'] :: (← pieces fuel rest)
    | c :: rest =>
      if '0' ≤ c && c ≤ '7' then
        let (n, rest) := Escape.digits 8 3 (c :: rest)
        return .text [Escape.byteOf n] :: (← pieces fuel rest)
      match Escape.letter? c with
      | some value => return .text [value] :: (← pieces fuel rest)
      | none =>
        (Tool.complain "find" ("warning: unrecognized escape \x60\\" ++ [c] ++ "\x27") : Run Unit)
        return .text ['\\', c] :: (← pieces fuel rest)
  | fuel + 1, '%' :: rest => do
    let flags := rest.takeWhile fun c => "-+#0 ".toList.contains c
    let after := rest.drop flags.length
    let width := after.takeWhile Char.isDigit
    let after := after.drop width.length
    let (precision, after) : Option Nat × Octets := match after with
      | '.' :: more =>
        let digits := more.takeWhile Char.isDigit
        (some (Text.digitsValue digits), more.drop digits.length)
      | more => (none, more)
    let written := '%' :: rest.take (rest.length - after.length)
    let unknown (text rest : Octets) : Reader (List Piece) := do
      (Tool.complain "find" ("warning: unrecognized format directive \x60" ++ text ++ "\x27") : Run Unit)
      return .text text :: (← pieces fuel rest)
    match after with
    | [] =>
      if rest.isEmpty then refuse "error: % at end of format string"
      else refuse "error: the format directive \x60%\x00\x27 is reserved for future use"
    | '%' :: rest => return .text ['%'] :: (← pieces fuel rest)
    | letter :: rest =>
      let conversion : Conversion := { flags, width := Text.digitsValue width, precision, letter }
      if letter == 'A' || letter == 'B' || letter == 'C' || letter == 'T' then
        match rest with
        | c :: rest => return .time conversion c :: (← pieces fuel rest)
        | [] =>
          (Tool.complain "find" ("warning: format directive \x60" ++ written ++ [letter] ++
            "\x27 should be followed by another character") : Run Unit)
          return [.text (written ++ [letter])]
      else if fieldLetters.contains letter then return .field conversion :: (← pieces fuel rest)
      else unknown (written ++ [letter]) rest
  | fuel + 1, cs => do
    let plain := cs.takeWhile fun c => c != '\\' && c != '%'
    return .text plain :: (← pieces fuel (cs.drop plain.length))

/-- The file for the output of an action. -/
def output (name : Octets) : Reader (Option Nat) := do
  let file ← argument name
  match ← (Run.openName file { writes := true, creates := true, empties := true } : Run _) with
  | .ok index => return some index
  | .error refusal => refuse (Tool.quotedName file ++ ": " ++ Tool.reason refusal)

/-- Whether two braces stand somewhere in a word. -/
def hasBraces (word : Octets) : Bool :=
  Text.occurs ['\x7b', '\x7d'] word

/-- The words of a command up to a semicolon, or up to a plus after braces; the rest, and whether it
was a plus. -/
def commandWords (mayGather : Bool) : (afterBraces : Bool) → List Octets →
    Option (List Octets × List Octets × Bool)
  | _, [] => none
  | afterBraces, word :: rest =>
    if word == [';'] then some ([], rest, false)
    else if mayGather && afterBraces && word == ['+'] then some ([], rest, true)
    else (commandWords mayGather (hasBraces word) rest).map fun (words, others) => (word :: words, others)

/-- A command. -/
def order (name : Octets) (nearby asks : Bool) : Reader Unit := do
  match commandWords (!asks) false (← get).words with
  | none => refuse ("missing argument to \x60" ++ name ++ "\x27")
  | some ([], _) => refuse ("invalid argument \x60;\x27 to \x60" ++ name ++ "\x27")
  | some (words, rest, gathers) =>
    let index := (← get).orders
    if gathers then
      if 1 < words.countP hasBraces then
        refuse ("Only one instance of \x7b\x7d is supported with " ++ name ++ " ... +")
      let last := (words.getLast?).getD []
      if last.length ≠ 2 then
        refuse ("In \x27" ++ name ++ " ... \x7b\x7d +\x27 the \x27\x7b\x7d\x27 must appear by itself, " ++
          "but you specified " ++ Tool.marked last)
    modify fun r => { r with words := rest, orders := index + 1 }
    let words := if gathers then words.dropLast else words
    action (.run { index, words, gathers, nearby, asks })

/-- Reads one word that begins with a hyphen. -/
def predicate (name : Octets) : Reader Unit := do
  let plain := String.ofList (match name with
    | '-' :: '-' :: rest => rest
    | _ :: rest => rest
    | [] => [])
  let now := (← (Run.machine : Run Machine)).now
  let fromDay := (← get).settings.fromDay
  let age (unit : Int) (roundsUp : Bool) : Reader Unit := do
    let origin := if fromDay then (now / 86400000 + 1) * 86400000 else now + 1
    test (.age (← bound name) unit roundsUp origin)
  match plain with
  | "name" => test (.name (← pattern name false) false)
  | "iname" => test (.name (← pattern name true) true)
  | "path" => test (.whole (← pattern name false) false)
  | "wholename" => test (.whole (← pattern name false) false)
  | "ipath" => test (.whole (← pattern name true) true)
  | "iwholename" => test (.whole (← pattern name true) true)
  | "lname" => test (.target (← pattern name false) false)
  | "ilname" => test (.target (← pattern name true) true)
  | "regex" => regex name false
  | "iregex" => regex name true
  | "regextype" => do
    let type := String.ofList (← argument name)
    if !regexTypes.contains type then
      refuse ("Unknown regular expression type " ++ Tool.quotedName type.toList ++ "; valid types are " ++
        Text.joined ", ".toList (regexTypes.map fun type => Tool.quotedName type.toList) ++ ".")
    setting fun s => { s with regexType := type }
  | "type" => test (.kind (← kinds name) false)
  | "xtype" => test (.kind (← kinds name) true)
  | "empty" => test .empty
  | "size" => size name
  | "newer" => test (.changedAfter (← timeOf (← argument name)))
  | "anewer" => test (.changedAfter (← timeOf (← argument name)))
  | "cnewer" => test (.changedAfter (← timeOf (← argument name)))
  | "mtime" => age 86400000 false
  | "atime" => age 86400000 false
  | "ctime" => age 86400000 false
  | "mmin" => age 60000 true
  | "amin" => age 60000 true
  | "cmin" => age 60000 true
  | "used" => do
    let text ← argument name
    match bound? text with
    | some _ => test (.constant false)
    | none => refuse ("Invalid argument " ++ text ++ " to -used")
  | "daystart" => setting fun s => { s with fromDay := true }
  | "perm" => mode name
  | "user" => owner name "a known user"
  | "group" => owner name "an existing group"
  | "uid" => ownerNumber name
  | "gid" => ownerNumber name
  | "nouser" => test (.constant false)
  | "nogroup" => test (.constant false)
  | "links" => test (.names (← bound name))
  | "inum" => test (.number (← bound name))
  | "samefile" => do
    let file ← argument name
    match ← (Run.placeOf file : Run _) with
    | .ok (path, some _) => test (.sameAs path)
    | .ok (_, none) => refuse (Tool.quotedName file ++ ": " ++ Tool.reason .missing)
    | .error refusal => refuse (Tool.quotedName file ++ ": " ++ Tool.reason refusal)
  | "readable" => test (.allows 0)
  | "writable" => test (.allows 0)
  | "executable" => test (.allows 73)
  | "fstype" => do
    let type ← argument name
    test (.constant (type == "overlay".toList))
  | "context" => refuse "invalid predicate -context: SELinux is not enabled."
  | "true" => test (.constant true)
  | "false" => test (.constant false)
  | "maxdepth" => do
    let n ← depth name
    setting fun s => { s with most := some n }
  | "mindepth" => do
    let n ← depth name
    setting fun s => { s with least := n }
  | "depth" => setting fun s => { s with depthFirst := true }
  | "d" => setting fun s => { s with depthFirst := true }
  | "follow" => setting fun s => { s with follows := .always }
  | "xdev" => setting id
  | "mount" => setting id
  | "noleaf" => setting id
  | "warn" => setting id
  | "nowarn" => setting id
  | "ignore_readdir_race" => setting id
  | "noignore_readdir_race" => setting id
  | "print" => action (.print '\n' none)
  | "print0" => action (.print '\x00' none)
  | "printf" => do
    let text ← argument name
    action (.format (← pieces (text.length + 1) text) none)
  | "fprint" => action (.print '\n' (← output name))
  | "fprint0" => action (.print '\x00' (← output name))
  | "fprintf" => do
    let channel ← output name
    let text ← argument name
    action (.format (← pieces (text.length + 1) text) channel)
  | "ls" => action (.list none)
  | "fls" => action (.list (← output name))
  | "exec" => order name false false
  | "execdir" => order name true false
  | "ok" => order name false true
  | "okdir" => order name true true
  | "delete" => do
    action .remove
    modify fun r => { r with settings := { r.settings with removes := true } }
  | "prune" => do
    action .skip
    modify fun r => { r with settings := { r.settings with skips := true } }
  | "quit" => action .quit
  | "not" => push (.no name)
  | "a" => push (.both name)
  | "and" => push (.both name)
  | "o" => push (.either name)
  | "or" => push (.either name)
  | plain =>
    match Text.afterStart? "newer".toList plain.toList with
    | some letters => newer name letters
    | none => refuse ("unknown predicate \x60" ++ name ++ "\x27")

/-- Reads all words. -/
def all : Nat → Reader Unit
  | 0 => return
  | fuel + 1 => do
    match (← get).words with
    | [] => return
    | word :: rest => do
      let last := (← get).last
      modify fun r => { r with words := rest, last := some word }
      match word with
      | ['('] => push (.openGroup word false)
      | [')'] => push (.closeGroup false)
      | ['!'] => push (.no word)
      | [','] => push (.sequence word)
      | '-' :: _ :: _ => predicate word
      | _ => do
        (Tool.complain "find" ("paths must precede expression: \x60" ++ word ++ "\x27") : Run Unit)
        match last, ← (Run.placeOf word false : Run _) with
        | some name, .ok (_, some _) =>
          (Tool.complain "find" ("possible unquoted pattern after predicate \x60" ++ name ++ "\x27?") :
            Run Unit)
        | _, _ => pure ()
        (Run.setStatus 1 : Run Unit)
        throw .failure
      all fuel

end Reader

end DocMend.Shell.Find
