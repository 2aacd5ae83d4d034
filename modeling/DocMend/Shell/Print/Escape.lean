import DocMend.Shell.Tree
/-!
Escapes in printed texts: a backslash and a letter stand for a control character, a backslash and
octal digits for a byte. The extended language also knows hexadecimal digits and code points.
-/

set_option autoImplicit false
set_option relaxedAutoImplicit false

namespace DocMend.Shell.Escape

/-- The control character that a letter after a backslash stands for. -/
def letter? (c : Char) : Option Char :=
  match c with
  | 'a' => some '\x07'
  | 'b' => some '\x08'
  | 'e' => some '\x1b'
  | 'f' => some '\x0c'
  | 'n' => some '\n'
  | 'r' => some '\r'
  | 't' => some '\t'
  | 'v' => some '\x0b'
  | '\\' => some '\\'
  | _ => none

/-- An octal digit. -/
def isOctal (c : Char) : Bool :=
  '0' ≤ c && c ≤ '7'

/-- Reads at most so many digits in a base: their value and the rest. -/
def digits (base most : Nat) (cs : Octets) : Nat × Octets :=
  let run := (cs.takeWhile fun c => (Octets.digit? base c).isSome).take most
  (Octets.valueIn base run, cs.drop run.length)

/-- The byte with a number. -/
def byteOf (n : Nat) : Char :=
  Char.ofNat (n % 256)

/-- The code point with a number as it is written: in the character set of the programs only those of
ASCII have a byte. -/
def codePoint (n : Nat) : Octets :=
  if n < 128 then [Char.ofNat n]
  else
    let width := if n < 65536 then 4 else 8
    let digits := (Nat.toDigits 16 n).map Char.toUpper
    ['\\', if width = 4 then 'u' else 'U'] ++ List.replicate (width - digits.length) '0' ++ digits

/-- Reads an escape after its backslash, between quotation marks after a dollar sign: what it stands
for, and the rest. -/
def inMarks (cs : Octets) : Octets × Octets :=
  match cs with
  | [] => (['\\'], [])
  | 'x' :: '\x7b' :: after =>
    let (n, rest) := digits 16 after.length after
    ([byteOf n], rest.drop 1)
  | 'c' :: '\\' :: '\\' :: after => (['\x1c'], after)
  | 'c' :: '?' :: after => (['\x7f'], after)
  | 'c' :: d :: after => ([Char.ofNat (d.toUpper.toNat % 32)], after)
  | c :: after =>
    let hexadecimal := (after.head?.map fun d => (Octets.digit? 16 d).isSome).getD false
    if c == 'x' && hexadecimal then
      let (n, rest) := digits 16 2 after
      ([byteOf n], rest)
    else if (c == 'u' || c == 'U') && hexadecimal then
      let (n, rest) := digits 16 (if c == 'u' then 4 else 8) after
      (codePoint n, rest)
    else if isOctal c then
      let (n, rest) := digits 8 3 cs
      ([byteOf n], rest)
    else
      match letter? c with
      | some d => ([d], after)
      | none =>
        if c == 'E' then (['\x1b'], after)
        else if c == '"' || c == '\x27' || c == '?' then ([c], after)
        else (['\\', c], after)

/-- Reads an escape after its backslash: what it stands for, and the rest. A backslash that begins
no escape stands for itself. -/
def read (dialect : Dialect) (cs : Octets) : Octets × Octets :=
  match cs with
  | [] => (['\\'], [])
  | c :: rest =>
    if isOctal c then
      let (n, rest) := digits 8 3 cs
      ([byteOf n], rest)
    else
      match letter? c with
      | some d => ([d], rest)
      | none =>
        let extended := dialect == .extended
        let hexadecimal := (rest.head?.map fun d => (Octets.digit? 16 d).isSome).getD false
        if extended && c == 'x' && hexadecimal then
          let (n, rest) := digits 16 2 rest
          ([byteOf n], rest)
        else if extended && (c == 'u' || c == 'U') && hexadecimal then
          let (n, rest) := digits 16 (if c == 'u' then 4 else 8) rest
          (codePoint n, rest)
        else if extended && c == 'E' then (['\x1b'], rest)
        else if extended && (c == '"' || c == '\x27' || c == '?') then ([c], rest)
        else (['\\'], cs)

/-- Replaces the escapes in a text, and says whether all of it is to be printed: the letter c after
a backslash ends the printing. An octal number may have a zero in front. -/
def replaceAll (dialect : Dialect) : Nat → Octets → Octets × Bool
  | 0, cs => (cs, true)
  | fuel + 1, cs =>
    match cs with
    | [] => ([], true)
    | '\\' :: 'c' :: _ => ([], false)
    | '\\' :: rest =>
      let rest := match rest with
        | '0' :: d :: more => if isOctal d then d :: more else rest
        | _ => rest
      let (text, rest) := match dialect, rest with
        | .extended, '"' :: _ => (['\\'], rest)
        | .extended, '\x27' :: _ => (['\\'], rest)
        | _, _ => read dialect rest
      let (after, whole) := replaceAll dialect fuel rest
      (text ++ after, whole)
    | _ =>
      let plain := cs.takeWhile (· ≠ '\\')
      let (after, whole) := replaceAll dialect fuel (cs.drop plain.length)
      (plain ++ after, whole)

/-- Replaces the escapes in a text. -/
def text (dialect : Dialect) (cs : Octets) : Octets × Bool :=
  replaceAll dialect (cs.length + 1) cs

end DocMend.Shell.Escape
