import DocMend.Shell.Octets
/-!
Modes of files: what their owner, their group and all others may do with them. A mode is changed by an
octal number, or by clauses that add, take away or set what is written in letters.
-/

set_option autoImplicit false
set_option relaxedAutoImplicit false

namespace DocMend.Shell.Tool

/-- All bits of a mode. -/
def allBits : Nat := 4095

/-- The bits of a mode that are not in another one. -/
def withoutBits (mode removed : Nat) : Nat :=
  mode - (mode &&& removed)

/-- What a change takes its bits from: letters, or what others already may do. -/
inductive ModeSource where
  | bits (n : Nat) (executesIfAny : Bool)
  | copy (who : Char)
deriving DecidableEq, Repr

/-- A change of a mode: whose bits, the sign, and which ones. -/
structure ModeChange where
  affected : Nat
  masked : Bool
  sign : Char
  source : ModeSource
deriving DecidableEq, Repr

namespace ModeChange

/-- The bits of those that a letter stands for. -/
def bitsOf (who : Char) : Nat :=
  match who with
  | 'u' => 2496
  | 'g' => 1080
  | 'o' => 519
  | _ => allBits

/-- What a letter allows to everybody. -/
def permissionOf? (letter : Char) : Option Nat :=
  match letter with
  | 'r' => some 292
  | 'w' => some 146
  | 'x' => some 73
  | 's' => some 3072
  | 't' => some 512
  | _ => none

/-- Reads the changes behind those whose bits they are. -/
def readActions (affected : Nat) (masked : Bool) : Nat → Octets → Option (List ModeChange)
  | 0, _ => none
  | fuel + 1, sign :: rest =>
    if !(sign == '+' || sign == '-' || sign == '=') then none
    else
      let finish (source : ModeSource) (affected : Nat) (rest : Octets) : Option (List ModeChange) :=
        let change : ModeChange := ⟨affected, masked, sign, source⟩
        if rest.isEmpty then some [change]
        else (readActions affected masked fuel rest).map fun more => change :: more
      match rest with
      | c :: after =>
        if c == 'u' || c == 'g' || c == 'o' then finish (.copy c) affected after
        else if '0' ≤ c && c ≤ '7' then
          let digits := rest.takeWhile fun c => '0' ≤ c && c ≤ '7'
          if rest.length ≠ digits.length || affected ≠ allBits || !masked then none
          else
            let n := Octets.valueIn 8 digits
            if allBits < n then none
            else some [⟨allBits, false, sign, .bits n false⟩]
        else
          let letters := rest.takeWhile fun c => (permissionOf? c).isSome || c == 'X'
          let bits := letters.foldl (fun n c => n ||| (permissionOf? c).getD 0) 0
          finish (.bits bits (letters.contains 'X')) affected (rest.drop letters.length)
      | [] => finish (.bits 0 false) affected []
  | _, [] => none

/-- Reads one clause. -/
def readClause (clause : Octets) : Option (List ModeChange) :=
  let who := clause.takeWhile fun c => c == 'u' || c == 'g' || c == 'o' || c == 'a'
  let affected := who.foldl (fun n c => n ||| bitsOf c) 0
  if who.isEmpty then readActions allBits true (clause.length + 1) clause
  else readActions affected false (clause.length + 1) (clause.drop who.length)

/-- Reads the changes that a text describes. -/
def readAll (text : Octets) : Option (List ModeChange) :=
  if !text.isEmpty && text.all fun c => '0' ≤ c && c ≤ '7' then
    let n := Octets.valueIn 8 text
    if allBits < n then none else some [⟨allBits, false, '=', .bits n false⟩]
  else (((Text.pieces ',' text).mapM readClause)).map List.flatten

/-- Carries out a change. -/
def apply (mask : Nat) (isFolder : Bool) (mode : Nat) (c : ModeChange) : Nat :=
  let bits := match c.source with
    | .bits n executesIfAny =>
      n ||| (if executesIfAny && (isFolder || mode &&& 73 ≠ 0) then 73 else 0)
    | .copy who =>
      let shift := if who = 'u' then 64 else if who = 'g' then 8 else 1
      mode / shift % 8 * 73
  let bits := bits &&& c.affected
  let bits := if c.masked then withoutBits bits mask else bits
  match c.sign with
  | '+' => mode ||| bits
  | '-' => withoutBits mode bits
  | _ => withoutBits mode (if c.masked then withoutBits allBits 0 else c.affected) ||| bits

/-- Carries out changes. -/
def applyAll (mask : Nat) (isFolder : Bool) (changes : List ModeChange) (mode : Nat) : Nat :=
  changes.foldl (apply mask isFolder) mode

end ModeChange

/-- Three octal digits, and one before them. -/
def octalMode (mode : Nat) : Octets :=
  let digits := Nat.toDigits 8 mode
  List.replicate (4 - digits.length) '0' ++ digits

/-- What a mode allows, as nine letters. -/
def modeLetters (mode : Nat) : Octets :=
  let has (bit : Nat) : Bool := mode &&& bit ≠ 0
  let last (bit special : Nat) (small large : Char) : Char :=
    if has special then (if has bit then small else large) else if has bit then 'x' else '-'
  [if has 256 then 'r' else '-', if has 128 then 'w' else '-', last 64 2048 's' 'S',
   if has 32 then 'r' else '-', if has 16 then 'w' else '-', last 8 1024 's' 'S',
   if has 4 then 'r' else '-', if has 2 then 'w' else '-', last 1 512 't' 'T']

end DocMend.Shell.Tool
