/-!
Blank characters and trimming. A character is blank when it is a control blank (tab to carriage
return), a space of any width, a line or paragraph separator, or the byte order mark.
-/

set_option autoImplicit false
set_option relaxedAutoImplicit false

namespace DocMend.Text

/-- Blank characters are the ones that trimming removes and that may stand between a word and its
parenthesis. The next-line control, the zero-width space and the word joiner are not blank. -/
def isBlank (c : Char) : Bool :=
  let n := c.toNat
  (0x9 ≤ n && n ≤ 0xD) || n == 0x20 || n == 0xA0 || n == 0x1680 ||
    (0x2000 ≤ n && n ≤ 0x200A) || n == 0x2028 || n == 0x2029 || n == 0x202F ||
    n == 0x205F || n == 0x3000 || n == 0xFEFF

/-- Removes leading blanks. -/
def trimStart (cs : List Char) : List Char :=
  cs.dropWhile isBlank

/-- Removes trailing blanks. -/
def trimEnd (cs : List Char) : List Char :=
  (cs.reverse.dropWhile isBlank).reverse

/-- Removes blanks at both ends. -/
def trim (cs : List Char) : List Char :=
  trimEnd (trimStart cs)

/-- Trimming of a string. -/
def trimmed (s : String) : String :=
  String.ofList (trim s.toList)

/-- A string is blank when trimming leaves nothing. -/
def isBlankText (s : String) : Bool :=
  (trim s.toList).isEmpty

example : [' ', '\t', '\n', '\r'].all isBlank = true := by decide

example : isBlank '\u0085' = false ∧ isBlank '\u200b' = false ∧ isBlank '\ufeff' = true := by
  decide

end DocMend.Text
