import DocMend.Text.Search
import DocMend.Text.Utf16
/-!
Texts as messages show them: between quotation marks that the text does not contain, with control
characters escaped. A long text of several lines is shown as one quoted text for each line, and what
is shown of a text is limited.
-/

set_option autoImplicit false
set_option relaxedAutoImplicit false

namespace DocMend.Text.Quoted

/-- The quotation mark for a text: the first kind that does not stand in it, and the single one where
all of them do. -/
def mark (cs : List Char) : Char :=
  if !cs.contains '\x27' then '\x27'
  else if !cs.contains '"' then '"'
  else if !cs.contains '\x60' && !occurs ['$', '\x7b'] cs then '\x60'
  else '\x27'

/-- A hexadecimal digit in upper case. -/
def hexDigit (n : Nat) : Char :=
  (Nat.digitChar n).toUpper

/-- One character between quotation marks. -/
def escaped (quote c : Char) : List Char :=
  let n := c.toNat
  if c = '\\' ∨ c = '\x27' ∧ quote = '\x27' then ['\\', c]
  else if n = 8 then ['\\', 'b']
  else if n = 9 then ['\\', 't']
  else if n = 10 then ['\\', 'n']
  else if n = 12 then ['\\', 'f']
  else if n = 13 then ['\\', 'r']
  else if n < 32 ∨ 127 ≤ n ∧ n < 160 then ['\\', 'x', hexDigit (n / 16), hexDigit (n % 16)]
  else [c]

/-- A text between quotation marks. -/
def quoted (cs : List Char) : List Char :=
  let quote := mark cs
  [quote] ++ cs.flatMap (escaped quote) ++ [quote]

/-- How many units of a text make it long. -/
def longText : Nat := 124

/-- How many units of a text are shown. -/
def mostShown : Nat := 128

/-- A whole text, over several lines if it is long. -/
def whole (cs : List Char) : List Char :=
  if (units cs).length ≤ longText then quoted cs
  else joined [' ', '+', '\n', ' ', ' '] ((linesWithEnds cs).map quoted)

/-- A text as a message shows it. -/
def shown (text : String) : String :=
  let all := units (whole text.toList)
  if all.length ≤ mostShown then String.ofList (ofUnits all)
  else String.ofList (ofUnits (all.take mostShown)) ++ "..."

example : shown "a\x00" = "'a\\x00'" := by decide

example : shown "it's" = "\"it's\"" := by decide

end DocMend.Text.Quoted
