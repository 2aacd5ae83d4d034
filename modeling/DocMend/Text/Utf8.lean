/-!
Reading and writing UTF-8. Writing is the standard encoding of each character. Reading never fails:
each longest malformed beginning of a sequence becomes one replacement character, and the byte that
does not fit is read again as the start of a sequence.
-/

set_option autoImplicit false
set_option relaxedAutoImplicit false

namespace DocMend.Text.Utf8

/-- The bytes of a text. -/
def encode (cs : List Char) : List UInt8 :=
  cs.flatMap String.utf8EncodeChar

/-- A sequence of which some bytes are still to come: the bits read so far, how many bytes are
missing, and the range of the next one. -/
structure Pending where
  bits : Nat
  missing : Nat
  low : UInt8
  high : UInt8
deriving DecidableEq, Repr

/-- The replacement character. -/
def replacement : Char := '\ufffd'

/-- Reads the first byte of a sequence. -/
def start (b : UInt8) : List Char × Option Pending :=
  let n := b.toNat
  if n < 0x80 then ([Char.ofNat n], none)
  else if n < 0xC2 then ([replacement], none)
  else if n < 0xE0 then ([], some ⟨n - 0xC0, 1, 0x80, 0xBF⟩)
  else if n = 0xE0 then ([], some ⟨n - 0xE0, 2, 0xA0, 0xBF⟩)
  else if n = 0xED then ([], some ⟨n - 0xE0, 2, 0x80, 0x9F⟩)
  else if n < 0xF0 then ([], some ⟨n - 0xE0, 2, 0x80, 0xBF⟩)
  else if n = 0xF0 then ([], some ⟨n - 0xF0, 3, 0x90, 0xBF⟩)
  else if n < 0xF4 then ([], some ⟨n - 0xF0, 3, 0x80, 0xBF⟩)
  else if n = 0xF4 then ([], some ⟨n - 0xF0, 3, 0x80, 0x8F⟩)
  else ([replacement], none)

/-- Reads one byte: the characters that are now complete, and the sequence that is open after. -/
def advance : Option Pending → UInt8 → List Char × Option Pending
  | none, b => start b
  | some p, b =>
    if p.low ≤ b ∧ b ≤ p.high then
      let bits := p.bits * 0x40 + (b.toNat - 0x80)
      if p.missing ≤ 1 then ([Char.ofNat bits], none)
      else ([], some ⟨bits, p.missing - 1, 0x80, 0xBF⟩)
    else
      let (cs, next) := start b
      (replacement :: cs, next)

/-- Reads the bytes that follow the characters `before`, which stand in reverse order, and an open
sequence; one left open at the end is malformed. -/
def decodeAfter (before : List Char) : Option Pending → List UInt8 → List Char
  | none, [] => before.reverse
  | some _, [] => (replacement :: before).reverse
  | pending, b :: bs =>
    let (cs, next) := advance pending b
    decodeAfter (cs.reverse ++ before) next bs

/-- The text of a byte sequence, with malformed parts replaced. -/
def decode (bytes : List UInt8) : List Char :=
  decodeAfter [] none bytes

/-- Bytes are well formed when they are what writing their text gives. -/
def isWellFormed (bytes : List UInt8) : Bool :=
  encode (decode bytes) == bytes

example : decode [0xC3, 0xA9, 0xFF, 0x41] = ['é', '\ufffd', 'A'] := by decide

example : decode [0xE2, 0x82, 0x41, 0xF0, 0x9F] = ['\ufffd', 'A', '\ufffd'] := by decide

end DocMend.Text.Utf8
