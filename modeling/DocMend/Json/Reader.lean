import DocMend.Json.Basic
import DocMend.Number.Decimal
import DocMend.Text.Search
import DocMend.Text.Utf16
/-!
Why a text writes no document: what was met, and where. Places are counted in code units of UTF-16,
lines and columns from one.

Reading of JSON documents by the strict grammar: four blank characters, no comments, no leading
zeros, no bare control characters in strings, nothing after the document. Of two members with one
key the later counts. A text that writes no document has a fault at the first place where it departs
from the grammar.
-/

set_option autoImplicit false
set_option relaxedAutoImplicit false

namespace DocMend.Json

/-- What is wrong at a place of a text. -/
inductive Complaint where
  /-- Nothing that begins a value, or nothing at all. -/
  | noValue
  | leadingZero
  | noDigitsAfterMinus
  | noDigitsAfterPoint
  | noDigitsInExponent
  | unclosedString
  | controlCharacter
  | badEscape
  | badUnicodeEscape
  | noFirstName
  | noNextName
  | noColon
  | openObject
  | openArray
  | moreText
deriving DecidableEq, Repr

/-- A complaint and what is left of the text where it arises. -/
structure Fault where
  complaint : Complaint
  rest : List Char
deriving DecidableEq, Repr

namespace Complaint

/-- The wording of a complaint before its place; that about a missing value depends on the text. -/
def wording : Complaint → String
  | noValue => "Unexpected token"
  | leadingZero => "Unexpected number"
  | noDigitsAfterMinus => "No number after minus sign"
  | noDigitsAfterPoint => "Unterminated fractional number"
  | noDigitsInExponent => "Exponent part is missing a number"
  | unclosedString => "Unterminated string"
  | controlCharacter => "Bad control character in string literal"
  | badEscape => "Bad escaped character"
  | badUnicodeEscape => "Bad Unicode escape"
  | noFirstName => "Expected property name or \x27\x7d\x27"
  | noNextName => "Expected double-quoted property name"
  | noColon => "Expected \x27:\x27 after property name"
  | openObject => "Expected \x27,\x27 or \x27\x7d\x27 after property value"
  | openArray => "Expected \x27,\x27 or \x27]\x27 after array element"
  | moreText => "Unexpected non-whitespace character after"

/-- What joins the wording to the place. -/
def subject : Complaint → String
  | moreText => " JSON"
  | _ => " in JSON"

end Complaint

/-- The lines before a place, and the characters before it in its line. -/
def placeAfter (before : List Char) : Nat × Nat :=
  let rec go (line column : Nat) : List Char → Nat × Nat
    | [] => (line, column)
    | '\r' :: '\n' :: rest => go (line + 1) 0 rest
    | c :: rest =>
      if c = '\n' ∨ c = '\r' then go (line + 1) 0 rest
      else go line (column + (Text.unitsOf c).length) rest
  go 0 0 before

/-- How much of a long text is shown on each side of a place. -/
def shownUnits : Nat := 10

/-- Texts that are named as a whole. -/
def namedWhole : List String :=
  ["[object Object]", "NaN", "Infinity", "undefined"]

/-- The message about a place where no value begins: the character there and the text around it. -/
def unexpected (text rest : List Char) : String :=
  let units := text.flatMap Text.unitsOf
  let place := units.length - (rest.flatMap Text.unitsOf).length
  let part (first last : Nat) : String :=
    String.ofList (Text.ofUnits ((units.take last).drop first))
  let quoted (s : String) : String := "\"" ++ s ++ "\""
  match rest with
  | [] => "Unexpected end of JSON input"
  | _ =>
    if namedWhole.contains (String.ofList text) then quoted (String.ofList text) ++ " is not valid JSON"
    else
      let token := "Unexpected token \x27" ++ part place (place + 1) ++ "\x27, "
      let around :=
        if units.length ≤ 2 * shownUnits then quoted (String.ofList text)
        else if place < shownUnits then quoted (part 0 (place + shownUnits)) ++ "..."
        else if place + shownUnits < units.length then
          "..." ++ quoted (part (place - shownUnits) (place + shownUnits)) ++ "..."
        else "..." ++ quoted (part (place - shownUnits) units.length)
      token ++ around ++ " is not valid JSON"

/-- The message of a fault of a text. -/
def Fault.message (fault : Fault) (text : List Char) : String :=
  let before := text.take (text.length - fault.rest.length)
  let (line, column) := placeAfter before
  match fault.complaint with
  | .noValue => unexpected text fault.rest
  | complaint =>
    complaint.wording ++ complaint.subject ++ " at position " ++
      toString (before.flatMap Text.unitsOf).length ++
      " (line " ++ toString (line + 1) ++ " column " ++ toString (column + 1) ++ ")"

/-- Blanks between the tokens of a document. -/
def isGap (c : Char) : Bool :=
  c == ' ' || c == '\t' || c == '\n' || c == '\r'

/-- Drops the blanks before a token. -/
def skipGap (cs : List Char) : List Char :=
  cs.dropWhile isGap

/-- The value of a hexadecimal digit. -/
def hexValue? (c : Char) : Option Nat :=
  if '0' ≤ c ∧ c ≤ '9' then some (c.toNat - '0'.toNat)
  else if 'a' ≤ c ∧ c ≤ 'f' then some (c.toNat - 'a'.toNat + 10)
  else if 'A' ≤ c ∧ c ≤ 'F' then some (c.toNat - 'A'.toNat + 10)
  else none

/-- The character that a one-letter escape stands for. -/
def shortEscape? (c : Char) : Option Char :=
  match c with
  | '"' => some '"'
  | '\\' => some '\\'
  | '/' => some '/'
  | 'b' => some '\x08'
  | 'f' => some '\x0c'
  | 'n' => some '\n'
  | 'r' => some '\r'
  | 't' => some '\t'
  | _ => none

/-- Refuses a text at a place. -/
def refuse {α : Type} (complaint : Complaint) (rest : List Char) : Except Fault α :=
  .error ⟨complaint, rest⟩

/-- The number that hexadecimal digits write, or where they are not digits. -/
def hexNumber (value : Nat) : List Char → Except (List Char) Nat
  | [] => .ok value
  | c :: rest =>
    match hexValue? c with
    | some digit => hexNumber (16 * value + digit) rest
    | none => .error (c :: rest)

/-- Reads a string after its opening quotation mark: its code units and what follows. -/
def readString : List Char → Except Fault (List Nat × List Char)
  | [] => refuse .unclosedString []
  | '"' :: cs => .ok ([], cs)
  | '\\' :: 'u' :: a :: b :: c :: d :: cs =>
    match hexNumber 0 [a, b, c, d] with
    | .ok unit => do
      let (units, rest) ← readString cs
      .ok (unit :: units, rest)
    | .error wrong => refuse .badUnicodeEscape (wrong ++ cs)
  | '\\' :: 'u' :: cs =>
    match hexNumber 0 cs with
    | .ok _ => refuse .unclosedString []
    | .error wrong => refuse .badUnicodeEscape wrong
  | ['\\'] => refuse .unclosedString []
  | '\\' :: e :: cs =>
    match shortEscape? e with
    | some c => do
      let (units, rest) ← readString cs
      .ok (c.toNat :: units, rest)
    | none => refuse .badEscape (e :: cs)
  | c :: cs =>
    if c.toNat < 0x20 then refuse .controlCharacter (c :: cs)
    else do
      let (units, rest) ← readString cs
      .ok (Text.unitsOf c ++ units, rest)

/-- Reads the digits of an exponent after its letter. -/
def readExponent (cs : List Char) : Except Fault (Int × List Char) :=
  let (negative, digits) : Bool × List Char :=
    match cs with
    | '-' :: rest => (true, rest)
    | '+' :: rest => (false, rest)
    | _ => (false, cs)
  let run := digits.takeWhile Char.isDigit
  if run.isEmpty then refuse .noDigitsInExponent digits
  else
    let value : Int := Text.digitsValue run
    .ok (if negative then -value else value, digits.dropWhile Char.isDigit)

/-- Reads the fraction and the exponent of a number whose whole part is `whole`. -/
def readNumberTail (negative : Bool) (whole cs : List Char) : Except Fault (Number × List Char) := do
  let (fraction, rest) ← match cs with
    | '.' :: after =>
      let run := after.takeWhile Char.isDigit
      if run.isEmpty then refuse .noDigitsAfterPoint after
      else .ok (run, after.dropWhile Char.isDigit)
    | _ => .ok ([], cs)
  let (exponent, rest) ← match rest with
    | 'e' :: after => readExponent after
    | 'E' :: after => readExponent after
    | _ => .ok (0, rest)
  let significand := Text.digitsValue (whole ++ fraction)
  .ok (Number.ofDecimal negative significand (exponent - fraction.length), rest)

/-- Reads a number after its sign. -/
def readNumber (negative : Bool) (cs : List Char) : Except Fault (Number × List Char) :=
  match cs with
  | '0' :: rest =>
    if rest.head?.any Char.isDigit then refuse .leadingZero rest
    else readNumberTail negative ['0'] rest
  | _ =>
    let run := cs.takeWhile Char.isDigit
    if run.isEmpty then refuse (if negative then .noDigitsAfterMinus else .noValue) cs
    else readNumberTail negative run (cs.dropWhile Char.isDigit)

/-- Reads the letters of a word. -/
def readWord (word cs : List Char) (value : Json) : Except Fault (Json × List Char) :=
  match word, cs with
  | [], cs => .ok (value, cs)
  | _ :: _, [] => refuse .noValue []
  | c :: word, d :: rest => if c = d then readWord word rest value else refuse .noValue (d :: rest)

/-- Reads a string after its opening quotation mark: its text and what follows. -/
def readText (cs : List Char) : Except Fault (String × List Char) := do
  let (units, rest) ← readString cs
  .ok (String.ofList (Text.ofUnits units), rest)

mutual
/-- Reads one document; every call uses one unit of `fuel`. -/
def readValue (fuel : Nat) (cs : List Char) : Except Fault (Json × List Char) :=
  match fuel with
  | 0 => refuse .noValue cs
  | fuel + 1 =>
    match skipGap cs with
    | '"' :: rest => do
      let (text, rest) ← readText rest
      .ok (.string text, rest)
    | '[' :: rest =>
      match skipGap rest with
      | ']' :: after => .ok (.array [], after)
      | _ => do
        let (items, after) ← readItems fuel rest
        .ok (.array items, after)
    | '\x7b' :: rest =>
      match skipGap rest with
      | '\x7d' :: after => .ok (.object [], after)
      | _ => do
        let (members, after) ← readMembers fuel .noFirstName [] rest
        .ok (.object members, after)
    | 't' :: rest => readWord ['r', 'u', 'e'] rest (.bool true)
    | 'f' :: rest => readWord ['a', 'l', 's', 'e'] rest (.bool false)
    | 'n' :: rest => readWord ['u', 'l', 'l'] rest .null
    | '-' :: rest => (readNumber true rest).map fun (value, after) => (.number value, after)
    | rest => (readNumber false rest).map fun (value, after) => (.number value, after)

/-- Reads the items of an array up to its closing bracket. -/
def readItems (fuel : Nat) (cs : List Char) : Except Fault (List Json × List Char) :=
  match fuel with
  | 0 => refuse .noValue cs
  | fuel + 1 => do
    let (item, rest) ← readValue fuel cs
    match skipGap rest with
    | ']' :: after => .ok ([item], after)
    | ',' :: after =>
      let (items, after) ← readItems fuel after
      .ok (item :: items, after)
    | rest => refuse .openArray rest

/-- Reads the members of an object up to its closing brace, after the members in `seen`; the complaint
is for a missing name. -/
def readMembers (fuel : Nat) (noName : Complaint) (seen : List (String × Json)) (cs : List Char) :
    Except Fault (List (String × Json) × List Char) :=
  match fuel with
  | 0 => refuse noName cs
  | fuel + 1 =>
    match skipGap cs with
    | '"' :: rest => do
      let (name, rest) ← readText rest
      match skipGap rest with
      | ':' :: rest =>
        let (value, rest) ← readValue fuel rest
        let members := setEntry seen name value
        match skipGap rest with
        | '\x7d' :: after => .ok (members, after)
        | ',' :: after => readMembers fuel .noNextName members after
        | rest => refuse .openObject rest
      | rest => refuse .noColon rest
    | rest => refuse noName rest
end

/-- The document that a text writes, or why it writes none. Each character starts at most two calls,
so the fuel never runs out. -/
def read (text : String) : Except Fault Json :=
  let cs := text.toList
  match readValue (2 * cs.length + 2) cs with
  | .ok (document, rest) =>
    match skipGap rest with
    | [] => .ok document
    | more => refuse .moreText more
  | .error fault => .error fault

end DocMend.Json
