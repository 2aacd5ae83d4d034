import DocMend.Shell.Octets
/-!
Patterns of the shell: a question mark stands for one character, an asterisk for any text, and
brackets for one character of a set. Where this is asked for, a sign before alternatives in
parentheses says how often one of them may occur. `matchesAll` says whether a pattern takes a whole
text; the functions that cut the beginning or the end of a text look for the shortest or the longest
part that it takes.
-/

set_option autoImplicit false
set_option relaxedAutoImplicit false

namespace DocMend.Shell

/-- The source of a pattern: characters, and whether each is quoted and so stands for itself. -/
abbrev PatternText := List (Char × Bool)

/-- A member of a set of characters. -/
inductive Member where
  | range (low high : Char)
  | kind (test : Char → Bool)

/-- How often one of several alternatives may occur: at most once, any number of times, at least once,
exactly once, or never, so that any other text is taken. -/
inductive Occurrence where
  | optional
  | repeated
  | present
  | single
  | excluded
deriving DecidableEq, Repr

/-- A part of a pattern. -/
inductive Atom where
  | char (c : Char)
  | any
  | many
  | oneOf (negated : Bool) (members : List Member)
  | group (occurrence : Occurrence) (alternatives : List (List Atom))

/-- Whether a character is a member. -/
def Member.holds (c : Char) : Member → Bool
  | .range low high => low ≤ c && c ≤ high
  | .kind test => test c

namespace Pattern

/-- The test for a named class of characters. -/
def kind? (name : String) : Option (Char → Bool) :=
  let isPrint (c : Char) : Bool := ' ' ≤ c && c ≤ '~'
  match name with
  | "alpha" => some Char.isAlpha
  | "digit" => some Char.isDigit
  | "alnum" => some Char.isAlphanum
  | "upper" => some Char.isUpper
  | "lower" => some Char.isLower
  | "space" => some Octets.isSpace
  | "blank" => some Octets.isBlank
  | "punct" => some fun c => isPrint c && c ≠ ' ' && !c.isAlphanum
  | "print" => some isPrint
  | "graph" => some fun c => isPrint c && c ≠ ' '
  | "cntrl" => some fun c => c.toNat < 32 || c.toNat = 127
  | "xdigit" => some fun c => (Octets.digit? 16 c).isSome
  | _ => none

/-- Reads the name of a class up to a colon and a bracket. -/
def className? (text : PatternText) : Option ((Char → Bool) × PatternText) :=
  let name := text.takeWhile fun entry => entry.1.isAlpha
  match text.drop name.length with
  | (':', _) :: (']', _) :: rest =>
    (kind? (String.ofList (name.map Prod.fst))).map fun test => (test, rest)
  | _ => none

/-- Takes a backslash in front of a character away. -/
def withoutBackslash (text : PatternText) : PatternText :=
  match text with
  | ('\\', false) :: (c, _) :: rest => (c, true) :: rest
  | text => text

/-- Reads the members of a set up to its closing bracket, which may also be the first member. -/
def members? : Nat → Bool → PatternText → Option (List Member × PatternText)
  | 0, _, _ => none
  | fuel + 1, first, text =>
    let one (c : Char) (rest : PatternText) : Option (List Member × PatternText) :=
      match rest with
      | ('-', false) :: next =>
        match withoutBackslash next with
        | (']', false) :: _ =>
          (members? fuel false rest).map fun (more, rest) => (.range c c :: more, rest)
        | (high, _) :: rest =>
          (members? fuel false rest).map fun (more, rest) => (.range c high :: more, rest)
        | [] => none
      | _ => (members? fuel false rest).map fun (more, rest) => (.range c c :: more, rest)
    match withoutBackslash text with
    | [] => none
    | (']', false) :: rest => if first then one ']' rest else some ([], rest)
    | ('[', false) :: (':', q) :: rest =>
      match className? rest with
      | some (test, rest) =>
        (members? fuel false rest).map fun (more, rest) => (.kind test :: more, rest)
      | none => one '[' ((':', q) :: rest)
    | (c, _) :: rest => one c rest

/-- How often alternatives may occur, by the sign before them. -/
def occurrence? (sign : Char) : Option Occurrence :=
  match sign with
  | '?' => some .optional
  | '*' => some .repeated
  | '+' => some .present
  | '@' => some .single
  | '!' => some .excluded
  | _ => none

/-- The sign of alternatives at the beginning of a text, and what follows the parenthesis after it. -/
def groupStart? (text : PatternText) : Option (Occurrence × PatternText) :=
  match text with
  | (sign, false) :: ('(', false) :: rest => (occurrence? sign).map fun o => (o, rest)
  | _ => none

mutual
/-- Reads a pattern up to its end; among alternatives up to a bar or a closing parenthesis. A bracket
or a parenthesis that is not closed stands for itself. -/
def read (groups inside : Bool) : Nat → PatternText → List Atom × PatternText
  | 0, text => ([], text)
  | fuel + 1, text =>
    let onward (atom : Atom) (rest : PatternText) : List Atom × PatternText :=
      let (atoms, rest) := read groups inside fuel rest
      (atom :: atoms, rest)
    let group := match groups, groupStart? text with
      | true, some (occurrence, rest) =>
        (readAlternatives fuel rest).map fun (list, rest) => (Atom.group occurrence list, rest)
      | _, _ => none
    match group with
    | some (atom, rest) => onward atom rest
    | none =>
      match withoutBackslash text with
      | [] => ([], [])
      | ('*', false) :: rest => onward .many rest
      | ('?', false) :: rest => onward .any rest
      | ('[', false) :: rest =>
        let (negated, members) := match rest with
          | ('!', false) :: members => (true, members)
          | ('^', false) :: members => (true, members)
          | _ => (false, rest)
        match members? (members.length + 1) true members with
        | some (list, after) => onward (.oneOf negated list) after
        | none => onward (.char '[') rest
      | (c, quoted) :: rest =>
        if inside && !quoted && (c == '|' || c == ')') then ([], (c, quoted) :: rest)
        else onward (.char c) rest

/-- Reads alternatives up to the closing parenthesis. -/
def readAlternatives : Nat → PatternText → Option (List (List Atom) × PatternText)
  | 0, _ => none
  | fuel + 1, text =>
    let (first, rest) := read true true fuel text
    match rest with
    | ('|', _) :: rest => (readAlternatives fuel rest).map fun (more, rest) => (first :: more, rest)
    | (')', _) :: rest => some ([first], rest)
    | _ => none
end

/-- The parts of a pattern, with alternatives or without. -/
def ofText (text : PatternText) (groups : Bool := false) : List Atom :=
  (read groups false (2 * text.length + 2) text).1

/-- What is left of a text, with its length. -/
abbrev Rest := Nat × Octets

/-- What may be left after one character that satisfies a test. -/
def afterOne (test : Char → Bool) (starts : List Rest) : List Rest :=
  starts.filterMap fun (n, cs) => match cs with
    | [] => none
    | c :: rest => if test c then some (n - 1, rest) else none

/-- All ends of a text, the longest first. -/
def ends : Octets → Nat → List Rest
  | [], _ => [(0, [])]
  | c :: rest, n => (n, c :: rest) :: ends rest (n - 1)

/-- What is in one of two lists of ends of a text, the longest first. -/
def union (first second : List Rest) : List Rest :=
  match first, second with
  | [], second => second
  | first, [] => first
  | a :: as, b :: bs =>
    if a.1 = b.1 then a :: union as bs
    else if b.1 < a.1 then a :: union as (b :: bs)
    else b :: union (a :: as) bs

/-- What may be left after any number of steps, but at least one. -/
def afterSteps (step : List Rest → List Rest) : Nat → List Rest → List Rest
  | 0, here => here
  | fuel + 1, here =>
    let next := union here (step here)
    if next.length = here.length then here else afterSteps step fuel next

mutual
/-- What may be left of texts after a part has taken their beginnings. -/
def afterAtom : Atom → List Rest → List Rest
  | .char d, starts => afterOne (fun c => c == d) starts
  | .any, starts => afterOne (fun _ => true) starts
  | .many, starts =>
    match starts with
    | [] => []
    | (n, cs) :: _ => ends cs n
  | .oneOf negated list, starts => afterOne (fun c => list.any (Member.holds c) != negated) starts
  | .group occurrence list, starts =>
    let size := (starts.head?.map Prod.fst).getD 0
    match occurrence with
    | .single => afterAny list starts
    | .optional => union starts (afterAny list starts)
    | .present => afterSteps (afterAny list) (size + 1) (afterAny list starts)
    | .repeated => afterSteps (afterAny list) (size + 1) starts
    | .excluded =>
      starts.foldr (fun (start : Rest) (found : List Rest) =>
        let taken := (afterAny list [start]).map Prod.fst
        union ((ends start.2 start.1).filter fun e => !taken.contains e.1) found) []

/-- What may be left of texts after parts have taken their beginnings one after the other. -/
def afterAll : List Atom → List Rest → List Rest
  | [], starts => starts
  | atom :: atoms, starts =>
    match afterAtom atom starts with
    | [] => []
    | next => afterAll atoms next

/-- What may be left of texts after one of several patterns has taken their beginnings. -/
def afterAny : List (List Atom) → List Rest → List Rest
  | [], _ => []
  | atoms :: more, starts => union (afterAll atoms starts) (afterAny more starts)
end

/-- How much of the beginning of a text a pattern may take, from the longest part to the shortest. -/
def lengths (pattern : List Atom) (cs : Octets) : List Nat :=
  let size := cs.length
  ((afterAll pattern [(size, cs)]).map fun e => size - e.1).reverse

/-- Whether a pattern takes a whole text. -/
def matchesAll (pattern : List Atom) (cs : Octets) : Bool :=
  ((afterAll pattern [(cs.length, cs)]).getLast?.map Prod.fst) = some 0

mutual
/-- A part that takes the texts of another one from their ends to their beginnings. -/
def reversedAtom : Atom → Atom
  | .group occurrence list => .group occurrence (reversedEach list)
  | atom => atom

/-- A pattern that takes the texts of another one from their ends to their beginnings. -/
def reversed : List Atom → List Atom
  | [] => []
  | atom :: atoms => reversed atoms ++ [reversedAtom atom]

/-- Alternatives that take texts from their ends to their beginnings. -/
def reversedEach : List (List Atom) → List (List Atom)
  | [] => []
  | atoms :: more => reversed atoms :: reversedEach more
end

/-- Whether a pattern is an ordinary text. -/
def plain? : List Atom → Option Octets
  | [] => some []
  | .char c :: rest => (plain? rest).map fun cs => c :: cs
  | _ => none

/-- The text without the part at its beginning that a pattern takes. -/
def dropStart (longest : Bool) (pattern : List Atom) (cs : Octets) : Octets :=
  let all := lengths pattern cs
  match if longest then all.head? else all.getLast? with
  | some n => cs.drop n
  | none => cs

/-- The text without the part at its end that a pattern takes. -/
def dropEnd (longest : Bool) (pattern : List Atom) (cs : Octets) : Octets :=
  (dropStart longest (reversed pattern) cs.reverse).reverse

/-- The length of the longest part at the beginning of a text that a pattern takes. -/
def longestStart? (pattern : List Atom) (cs : Octets) : Option Nat :=
  (lengths pattern cs).head?

/-- The length of the longest part at the end of a text that a pattern takes. -/
def longestEnd? (pattern : List Atom) (cs : Octets) : Option Nat :=
  longestStart? (reversed pattern) cs.reverse

/-- The text with the parts that a pattern takes replaced: the first one, or every one. -/
def replace (everywhere : Bool) (pattern : List Atom) (new : Octets → Octets) :
    Nat → Octets → Octets
  | 0, cs => cs
  | fuel + 1, cs =>
    match longestStart? pattern cs with
    | some (n + 1) =>
      let rest := cs.drop (n + 1)
      new (cs.take (n + 1)) ++ (if everywhere then replace everywhere pattern new fuel rest else rest)
    | _ =>
      match cs with
      | [] => []
      | c :: rest => c :: replace everywhere pattern new fuel rest

end Pattern

end DocMend.Shell
