import DocMend.Json.Basic
import DocMend.Number.Decimal
import DocMend.Text.Search
/-!
Text of JSON documents without spaces. In a string the quotation mark, the backslash and the control
characters are escaped and everything else stands for itself; a number out of range is written null.
-/

set_option autoImplicit false
set_option relaxedAutoImplicit false

namespace DocMend.Json

/-- The lower-case hexadecimal digits of a number, padded to four. -/
def fourHexDigits (n : Nat) : List Char :=
  let digits := Nat.toDigits 16 n
  List.replicate (4 - digits.length) '0' ++ digits

/-- How a character is written inside a string. -/
def escaped (c : Char) : List Char :=
  if c = '"' then ['\\', '"']
  else if c = '\\' then ['\\', '\\']
  else if c = '\x08' then ['\\', 'b']
  else if c = '\x0c' then ['\\', 'f']
  else if c = '\n' then ['\\', 'n']
  else if c = '\r' then ['\\', 'r']
  else if c = '\t' then ['\\', 't']
  else if c.toNat < 0x20 then '\\' :: 'u' :: fourHexDigits c.toNat
  else [c]

/-- A string in quotation marks. -/
def quoted (s : String) : List Char :=
  '"' :: s.toList.flatMap escaped ++ ['"']

/-- Text of a number document. -/
def numberChars : Number → List Char
  | .finite q => Number.rationalText q
  | .infinite _ => "null".toList

mutual
/-- Text of a document. -/
def chars : Json → List Char
  | .null => "null".toList
  | .bool true => "true".toList
  | .bool false => "false".toList
  | .number value => numberChars value
  | .string value => quoted value
  | .array items => '[' :: Text.joined [','] (itemChars items) ++ [']']
  | .object members => '{' :: Text.joined [','] (memberChars members) ++ ['}']

/-- Texts of the items of an array. -/
def itemChars : List Json → List (List Char)
  | [] => []
  | item :: rest => chars item :: itemChars rest

/-- Texts of the members of an object. -/
def memberChars : List (String × Json) → List (List Char)
  | [] => []
  | (key, value) :: rest => (quoted key ++ ':' :: chars value) :: memberChars rest
end

/-- Text of a document as a string. -/
def text (document : Json) : String :=
  String.ofList (chars document)

end DocMend.Json
