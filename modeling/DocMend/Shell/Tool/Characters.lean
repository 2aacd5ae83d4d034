import DocMend.Shell.Tool.Basic
/-!
Translation of characters. Sets of characters are written with ranges, classes, repetitions and
escapes; what is escaped is never taken for a sign.
-/

set_option autoImplicit false
set_option relaxedAutoImplicit false

namespace DocMend.Shell.Tool

/-- A part of a set as it is written. -/
inductive SetPart where
  | char (c : Char)
  | range (low high : Char)
  | named (name : Octets)
  | same (c : Char)
  /-- A character so many times, or as often as it takes. -/
  | repeated (c : Char) (times : Option Nat)
deriving DecidableEq, Repr

namespace SetPart

/-- The characters of a part. -/
def chars : SetPart → Octets
  | char c => [c]
  | range low high =>
    (List.range (high.toNat + 1 - low.toNat)).map fun n => Char.ofNat (low.toNat + n)
  | named name =>
    match Pattern.kind? (String.ofList name) with
    | some test => ((List.range 256).map Char.ofNat).filter test
    | none => []
  | same c => [c]
  | repeated c times => List.replicate (times.getD 0) c

/-- The character of an escape, and how many characters behind its first one belong to it: an octal
number has up to three digits, as long as it stays a byte. -/
def escapeOf (c : Char) (rest : Octets) : Char × Nat :=
  match c with
  | 'a' => ('\x07', 0)
  | 'b' => ('\x08', 0)
  | 'f' => ('\x0c', 0)
  | 'n' => ('\n', 0)
  | 'r' => ('\r', 0)
  | 't' => ('\t', 0)
  | 'v' => ('\x0b', 0)
  | c =>
    let isOctal (c : Char) : Bool := '0' ≤ c && c ≤ '7'
    if !isOctal c then (c, 0)
    else
      let more := (rest.takeWhile isOctal).take 2
      let value := Octets.valueIn 8 (c :: more)
      if value < 256 then (Char.ofNat value, more.length)
      else (Char.ofNat (Octets.valueIn 8 (c :: more.take 1)), 1)

/-- A text with its escapes replaced; what was escaped is marked. -/
def unescaped : Octets → List (Char × Bool)
  | [] => []
  | ['\\'] => [('\\', false)]
  | '\\' :: c :: rest =>
    let (d, more) := escapeOf c rest
    (d, true) :: unescaped (rest.drop more)
  | c :: rest => (c, false) :: unescaped rest
  termination_by cs => cs.length
  decreasing_by all_goals simp; try omega

/-- Reads a name up to a mark and a closing bracket. -/
def nameUpTo? (mark : Char) : List (Char × Bool) → Option (Octets × List (Char × Bool))
  | (c, false) :: (']', false) :: rest =>
    if c = mark then some ([], rest)
    else (nameUpTo? mark ((']', false) :: rest)).map fun (name, rest) => (c :: name, rest)
  | (c, _) :: rest => (nameUpTo? mark rest).map fun (name, rest) => (c :: name, rest)
  | [] => none

/-- Reads a repetition behind its opening bracket; a number with a leading zero is octal. -/
def repetition? : List (Char × Bool) → Option (Except Octets (SetPart × List (Char × Bool)))
  | (c, _) :: ('*', false) :: rest =>
    let digits := (rest.takeWhile fun e => !(e.1 == ']' && !e.2)).map Prod.fst
    match rest.drop digits.length with
    | _ :: after =>
      let base := if digits.head? = some '0' then 8 else 10
      if digits.all fun d => (Octets.digit? base d).isSome then
        let n := Octets.valueIn base digits
        some (.ok (.repeated c (if n = 0 then none else some n), after))
      else
        some (.error ("invalid repeat count " ++ marked digits ++ " in [c*n] construct"))
    | [] => none
  | _ => none

/-- Reads the parts of a set. -/
def readAll : Nat → List (Char × Bool) → Except Octets (List SetPart)
  | 0, _ => .ok []
  | fuel + 1, cs =>
    let go (part : SetPart) (rest : List (Char × Bool)) : Except Octets (List SetPart) :=
      (readAll fuel rest).map (part :: ·)
    let plain : Except Octets (List SetPart) :=
      match cs with
      | (low, _) :: ('-', false) :: (high, _) :: rest =>
        if high < low then
          .error ("range-endpoints of " ++ marked [low, '-', high] ++
            " are in reverse collating sequence order")
        else go (.range low high) rest
      | (c, _) :: rest => go (.char c) rest
      | [] => .ok []
    let repeats (otherwise : Except Octets (List SetPart)) : Except Octets (List SetPart) :=
      match repetition? (cs.drop 1) with
      | some (.ok (part, rest)) => go part rest
      | some (.error fault) => .error fault
      | none => otherwise
    match cs with
    | ('[', false) :: (':', false) :: rest =>
      match nameUpTo? ':' rest with
      | some ([], _) => .error ("missing character class name " ++ marked "[::]")
      | some (name, after) =>
        if (Pattern.kind? (String.ofList name)).isSome then go (.named name) after
        else repeats (.error ("invalid character class " ++ marked name))
      | none => repeats plain
    | ('[', false) :: ('=', false) :: rest =>
      match nameUpTo? '=' rest with
      | some ([], _) => .error ("missing equivalence class character " ++ marked "[==]")
      | some ([c], after) => go (.same c) after
      | some (name, _) =>
        repeats (.error (name ++ ": equivalence class operand must be a single character"))
      | none => repeats plain
    | ('[', false) :: _ => repeats plain
    | _ => plain

/-- Reads a set. -/
def read (text : Octets) : Except Octets (List SetPart) :=
  let cs := unescaped text
  readAll (cs.length + 1) cs

/-- Whether a part is repeated as often as it takes. -/
def isEndless : SetPart → Bool
  | repeated _ none => true
  | _ => false

/-- Whether a part is a class. -/
def isNamed : SetPart → Bool
  | named _ => true
  | _ => false

/-- The characters of parts, of which an endless one fills up to a length. -/
def charsUpTo (length : Nat) (parts : List SetPart) : Octets :=
  let known := (parts.map fun part => part.chars.length).foldl (· + ·) 0
  parts.flatMap fun part => match part with
    | repeated c none => List.replicate (length - known) c
    | part => part.chars

/-- Whether the classes of letters in both sets stand at the same places. -/
def areAligned (first second : List SetPart) : Bool :=
  let places (parts : List SetPart) : List Nat :=
    (parts.foldl (fun (state : List Nat × Nat) part =>
      let isLetters := match part with
        | named name => name == "upper".toList || name == "lower".toList
        | _ => false
      (if isLetters then state.2 :: state.1 else state.1, state.2 + part.chars.length)) ([], 0)).1
  (places second).all fun place => (places first).contains place

end SetPart

/-- Joins runs of equal characters of a set. -/
def squeezed (set : Char → Bool) : Octets → Octets
  | c :: d :: rest =>
    if c = d && set c then squeezed set (d :: rest) else c :: squeezed set (d :: rest)
  | cs => cs

/-- The options of the tool that translates characters. -/
def trOptions : Options where
  letters := "AcCdst"
  names := ["complement=c", "delete=d", "squeeze-repeats=s", "truncate-set1=t"]
  leading := true

/-- The set to translate to, filled up with its last character. -/
def translationTarget (first : Octets) (second : List SetPart) (truncates : Bool) :
    Except Octets Octets := do
  if 1 < second.countP SetPart.isEndless then
    throw "only one [c*] repeat construct may appear in string2".toList
  let isSame (part : SetPart) : Bool := match part with
    | .same _ => true
    | _ => false
  if second.any isSame then
    throw "[=c=] expressions may not appear in string2 when translating".toList
  let isOther (part : SetPart) : Bool := match part with
    | .named name => name ≠ "upper".toList && name ≠ "lower".toList
    | _ => false
  if second.any isOther then
    throw ("when translating, the only character classes that may appear in\n" ++
      "string2 are \x27upper\x27 and \x27lower\x27").toList
  let target := SetPart.charsUpTo first.length second
  if target.length < first.length && !truncates then
    match target.getLast? with
    | none => throw "when not truncating set1, string2 must be non-empty".toList
    | some c =>
      if second.getLast?.any SetPart.isNamed then
        throw ("when translating with string1 longer than string2,\nthe latter string must not " ++
          "end with a character class").toList
      return target ++ List.replicate (first.length - target.length) c
  return target

/-- Replaces, drops or joins characters of its input. -/
def tr : Tool := fun arguments => do
  let (given, sets) ← options "tr" 1 trOptions arguments
  let delete := has given "d"
  let squeeze := has given "s"
  let complement := has given "c" || has given "C"
  let least := if delete == squeeze then 2 else 1
  let most := if delete && !squeeze then 1 else 2
  match sets with
  | [] => refuse "tr" 1 "missing operand"
  | [set] =>
    if least = 2 then
      complain "tr" ("missing operand after " ++ marked set)
      Run.note (if delete then "Two strings must be given when both deleting and squeezing repeats."
        else "Two strings must be given when translating.")
      giveUp "tr" 1
  | sets =>
    if most < sets.length then
      complain "tr" ("extra operand " ++ marked ((sets[most]?).getD []))
      if sets.length = 2 then
        Run.note "Only one string may be given when deleting without squeezing repeats."
      giveUp "tr" 1
  let read (text : Octets) : Run (List SetPart) := do
    match SetPart.read text with
    | .ok parts => return parts
    | .error fault => abandon "tr" 1 fault
  for set in sets do
    if (set.reverse.takeWhile (· == '\\')).length % 2 = 1 then
      complain "tr" "warning: an unescaped backslash at end of string is not portable"
  let first ← read (sets.headD [])
  let second ← match sets[1]? with
    | some text => pure (some (← read text))
    | none => pure none
  if first.any SetPart.isEndless then
    abandon "tr" 1 "the [c*] repeat construct may not appear in string1"
  let chars := first.flatMap SetPart.chars
  let source := if complement then
      ((List.range 256).map Char.ofNat).filter fun c => !chars.contains c
    else chars
  let translates := second.isSome && !delete
  let target ← match second with
    | some parts =>
      if translates then
        if !complement && !SetPart.areAligned first parts then
          abandon "tr" 1 "misaligned [:upper:] and/or [:lower:] construct"
        match translationTarget source parts (has given "t") with
        | .ok target =>
          if complement && first.any SetPart.isNamed && 1 < target.eraseDups.length then
            abandon "tr" 1 ("when translating with complemented character classes,\n" ++
              "string2 must map all characters in the domain to one")
          pure target
        | .error fault => abandon "tr" 1 fault
      else
        if parts.any SetPart.isEndless then
          abandon "tr" 1 "the [c*] construct may appear in string2 only when translating"
        pure (parts.flatMap SetPart.chars)
    | none => pure []
  let text ← match ← Run.readAll 0 with
    | .ok text => pure text
    | .error refusal => abandon "tr" 1 ("read error: " ++ reason refusal)
  let table : Array Char := (source.zip target).foldl (fun table (c, d) => table.setIfInBounds c.toNat d)
    ((List.range 256).map Char.ofNat).toArray
  let isMember (set : Octets) : Array Bool :=
    set.foldl (fun table c => table.setIfInBounds c.toNat true) (Array.replicate 256 false)
  let inSource := isMember source
  let text :=
    if delete then text.filter fun c => !(inSource[c.toNat]?).getD false
    else if translates then text.map fun c => (table[c.toNat]?).getD c
    else text
  let last := if second.isSome then isMember target else inSource
  Run.print (if squeeze then squeezed (fun c => (last[c.toNat]?).getD false) text else text)
  return 0

end DocMend.Shell.Tool
