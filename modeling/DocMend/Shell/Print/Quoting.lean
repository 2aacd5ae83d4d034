import DocMend.Shell.Octets
/-!
Texts as the extended language reads them back: between single or double quotation marks, with
backslashes, or with escapes between quotation marks after a dollar sign where there are characters
that cannot be printed.
-/

set_option autoImplicit false
set_option relaxedAutoImplicit false

namespace DocMend.Shell.Quoting

/-- Whether a character can be printed. -/
def isPrintable (c : Char) : Bool :=
  ' ' ≤ c && c ≤ '~'

/-- Whether a text has characters that need escapes. -/
def needsEscapes (cs : Octets) : Bool :=
  cs.any fun c => !isPrintable c

/-- A byte as three octal digits. -/
def octal (c : Char) : Octets :=
  let n := c.toNat
  [n / 64 % 8, n / 8 % 8, n % 8].map fun d => Char.ofNat ('0'.toNat + d)

/-- A character between quotation marks after a dollar sign. -/
def escape (c : Char) : Octets :=
  match c with
  | '\x1b' => ['\\', 'E']
  | '\x07' => ['\\', 'a']
  | '\x0b' => ['\\', 'v']
  | '\x08' => ['\\', 'b']
  | '\x0c' => ['\\', 'f']
  | '\n' => ['\\', 'n']
  | '\r' => ['\\', 'r']
  | '\t' => ['\\', 't']
  | '\\' => ['\\', '\\']
  | '\x27' => ['\\', '\x27']
  | c => if isPrintable c then [c] else '\\' :: octal c

/-- A text with escapes, between quotation marks after a dollar sign. -/
def escaped (cs : Octets) : Octets :=
  ['$', '\x27'] ++ cs.flatMap escape ++ ['\x27']

/-- A file name in a complaint: with escapes if something in it cannot be printed. -/
def fileName (cs : Octets) : Octets :=
  if needsEscapes cs then escaped cs else cs

/-- A text between single quotation marks. -/
def single (cs : Octets) : Octets :=
  if cs == ['\x27'] then ['\\', '\x27']
  else
    let inside := cs.flatMap fun c => if c == '\x27' then ['\x27', '\\', '\x27', '\x27'] else [c]
    ['\x27'] ++ inside ++ ['\x27']

/-- A text between double quotation marks. -/
def double (cs : Octets) : Octets :=
  let isSpecial (c : Char) : Bool := c == '"' || c == '\\' || c == '$' || c == '\x60'
  ['"'] ++ cs.flatMap (fun c => if isSpecial c then ['\\', c] else [c]) ++ ['"']

/-- Characters with a meaning for the shell wherever they stand. -/
def isSpecial (c : Char) : Bool :=
  " \t\n\x27\"\\|&;()<>!\x7b\x7d*[?]^$\x60".toList.contains c

/-- Whether a tilde after a character, or at the beginning, stands for a folder. -/
def beginsPath (before : Option Char) : Bool :=
  before = none || before = some '=' || before = some ':'

/-- Whether a text has characters with a meaning for the shell, after a character. -/
def isMarked : (before : Option Char) → Octets → Bool
  | _, [] => false
  | before, c :: rest =>
    isSpecial c || c == '~' && beginsPath before || c == '#' && before = none || isMarked (some c) rest

/-- A text with backslashes, after a character. -/
def backslashedFrom : (before : Option Char) → Octets → Octets
  | _, [] => []
  | before, c :: rest =>
    let marked := isSpecial c || c == ',' || c == '~' && beginsPath before || c == '#' && before = none
    (if marked then ['\\', c] else [c]) ++ backslashedFrom (some c) rest

/-- A text with backslashes, or with escapes. -/
def backslashed (cs : Octets) : Octets :=
  if cs.isEmpty then ['\x27', '\x27']
  else if needsEscapes cs then escaped cs
  else backslashedFrom none cs

/-- A text between single quotation marks, or with escapes. -/
def reusable (cs : Octets) : Octets :=
  if needsEscapes cs then escaped cs else single cs

/-- A text between double quotation marks, or with escapes. -/
def inList (cs : Octets) : Octets :=
  if needsEscapes cs then escaped cs else double cs

/-- A text as a listing shows it: as it is, if it has no characters with a meaning. -/
def listed (cs : Octets) : Octets :=
  if needsEscapes cs then escaped cs
  else if isMarked none cs then single cs
  else cs

/-- A word as a trace shows it. -/
def traced (cs : Octets) : Octets :=
  if cs.isEmpty then ['\x27', '\x27']
  else if isMarked none cs then single cs
  else listed cs

/-- The key of an element as a listing shows it. -/
def key (cs : Octets) : Octets :=
  if needsEscapes cs then escaped cs
  else if isMarked none cs || cs == ['@'] || cs == ['*'] then double cs
  else cs

end DocMend.Shell.Quoting
