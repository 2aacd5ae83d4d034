import DocMend.Shell.Tool.Numbers
/-!
Tools that write bytes in other ways: as numbers in columns, or in an alphabet of letters and digits.
-/

set_option autoImplicit false
set_option relaxedAutoImplicit false

namespace DocMend.Shell.Tool

/-- How the units of a dump are written. -/
inductive DumpKind where
  | named
  | character
  | signed
  | octal
  | unsigned
  | hexadecimal
deriving DecidableEq, Repr

/-- A way of writing a block: the kind and size of its units, and whether the characters are shown
behind them. -/
structure DumpStyle where
  kind : DumpKind
  size : Nat
  shows : Bool := false
deriving DecidableEq, Repr

namespace DumpStyle

/-- How wide a unit is at most. -/
def width (d : DumpStyle) : Nat :=
  let pick (list : List (Nat × Nat)) : Nat := (list.lookup d.size).getD 3
  match d.kind with
  | .named => 3
  | .character => 3
  | .signed => pick [(1, 4), (2, 6), (4, 11), (8, 20)]
  | .octal => pick [(1, 3), (2, 6), (4, 11), (8, 22)]
  | .unsigned => pick [(1, 3), (2, 5), (4, 10), (8, 20)]
  | .hexadecimal => 2 * d.size

/-- The names of the control characters. -/
def controlNames : List String :=
  ["nul", "soh", "stx", "etx", "eot", "enq", "ack", "bel", "bs", "ht", "nl", "vt", "ff", "cr", "so",
   "si", "dle", "dc1", "dc2", "dc3", "dc4", "nak", "syn", "etb", "can", "em", "sub", "esc", "fs", "gs",
   "rs", "us", "sp"]

/-- Writes a unit, whose lowest byte comes first. -/
def unit (d : DumpStyle) (bytes : Octets) : Octets :=
  let padded := bytes ++ List.replicate (d.size - bytes.length) '\x00'
  let value := padded.foldr (fun c n => n * 256 + c.toNat) 0
  let filled (base width : Nat) : Octets := Decimal.padded width (Nat.toDigits base value)
  match d.kind with
  | .named =>
    let n := value % 128
    if n = 127 then "del"
    else match controlNames[n]? with
      | some name => name
      | none => [Char.ofNat n]
  | .character =>
    if value = 0 then ['\\', '0']
    else
      match controlLetter? (Char.ofNat value) with
      | some letter => ['\\', letter]
      | none => if 32 ≤ value && value < 127 then [Char.ofNat value] else filled 8 3
  | .octal => filled 8 d.width
  | .hexadecimal => filled 16 d.width
  | .unsigned => Octets.ofNat value
  | .signed =>
    let bits := 8 * d.size
    let modulus := (List.range bits).foldl (fun n _ => 2 * n) 1
    Octets.ofInt (if modulus ≤ 2 * value then (value : Int) - modulus else value)

/-- The units of a block. -/
def units (size : Nat) : Nat → Octets → List Octets
  | 0, _ => []
  | _, [] => []
  | fuel + 1, cs => cs.take size :: units size fuel (cs.drop size)

/-- Writes a block of bytes into columns that have so much room in a full block. -/
def line (d : DumpStyle) (blockSize room : Nat) (bytes : Octets) : Octets :=
  let count := blockSize / d.size
  let spare := room - count * (d.width + 1) + count
  let padding := spare - count
  let all := units d.size (bytes.length + 1) bytes
  let (text, _, _) := all.foldl (fun (done : Octets × Nat × Nat) bytes =>
    let (out, left, pad) := done
    let next := padding * (left - 1) / count
    (out ++ toRight (d.width + 1 + (pad - next)) (d.unit bytes), left - 1, next))
    ([], count, padding)
  let blank := room - text.length
  let shown := bytes.map fun c => if 32 ≤ c.toNat && c.toNat < 127 then c else '.'
  if d.shows then text ++ List.replicate blank ' ' ++ "  >".toList ++ shown ++ ['<'] else text

/-- Reads the styles that a text of letters and sizes asks for. -/
def read : Nat → Octets → Except Octets (List DumpStyle)
  | 0, _ => .ok []
  | _, [] => .ok []
  | fuel + 1, c :: rest => do
    let finish (kind : DumpKind) (size : Nat) (rest : Octets) : Except Octets (List DumpStyle) := do
      let shows := rest.head? = some 'z'
      let more ← read fuel (if shows then rest.drop 1 else rest)
      return ⟨kind, size, shows⟩ :: more
    let sized (kind : DumpKind) : Except Octets (List DumpStyle) := do
      match rest with
      | 'C' :: rest => finish kind 1 rest
      | 'S' :: rest => finish kind 2 rest
      | 'I' :: rest => finish kind 4 rest
      | 'L' :: rest => finish kind 8 rest
      | rest =>
        let digits := rest.takeWhile Char.isDigit
        let size := if digits.isEmpty then 4 else Text.digitsValue digits
        if !([1, 2, 4, 8].contains size) then
          throw ("invalid type string ".toList ++ marked (c :: rest) ++
            ";\nthis system doesn\x27t provide a ".toList ++ digits ++ "-byte integral type".toList)
        finish kind size (rest.drop digits.length)
    match c with
    | 'a' => finish .named 1 rest
    | 'c' => finish .character 1 rest
    | 'd' => sized .signed
    | 'o' => sized .octal
    | 'u' => sized .unsigned
    | 'x' => sized .hexadecimal
    | c =>
      throw ("invalid character ".toList ++ marked [c] ++ " in type string ".toList ++
        marked (c :: rest))

end DumpStyle

/-- The options of the tool that dumps bytes. -/
def odOptions : Options where
  letters := "A:aBbcDdeFfHhIij:LlN:OoS:st:vw::Xx"
  names := ["skip-bytes=j", "address-radix=A", "read-bytes=N", "format=t", "output-duplicates=v",
    "strings=S", "traditional", "endian:", "width=w"]

/-- The styles that single letters ask for. -/
def dumpLetters : List (String × DumpStyle) :=
  [("a", ⟨.named, 1, false⟩), ("b", ⟨.octal, 1, false⟩), ("c", ⟨.character, 1, false⟩),
   ("d", ⟨.unsigned, 2, false⟩), ("D", ⟨.unsigned, 4, false⟩), ("i", ⟨.signed, 4, false⟩),
   ("I", ⟨.signed, 8, false⟩), ("l", ⟨.signed, 8, false⟩), ("L", ⟨.signed, 8, false⟩),
   ("o", ⟨.octal, 2, false⟩), ("B", ⟨.octal, 2, false⟩), ("O", ⟨.octal, 4, false⟩),
   ("s", ⟨.signed, 2, false⟩), ("x", ⟨.hexadecimal, 2, false⟩), ("h", ⟨.hexadecimal, 2, false⟩),
   ("X", ⟨.hexadecimal, 4, false⟩), ("H", ⟨.hexadecimal, 4, false⟩)]

/-- Dumps bytes as numbers in columns. -/
def od : Tool := fun arguments => do
  let (given, names) ← options "od" 1 odOptions arguments
  let radix ← match valueOf? given "A" with
    | none => pure 'o'
    | some [c] =>
      if "doxn".toList.contains c then pure c
      else
        abandon "od" 1 ("invalid output address radix " ++ marked [c] ++
          "; it must be one character from [doxn]")
    | some text =>
      abandon "od" 1 ("invalid output address radix " ++ marked text ++
        "; it must be one character from [doxn]")
  let mut asked : List DumpStyle := []
  for g in given do
    if g.key == "t" then
      let text := g.argument.getD []
      match DumpStyle.read (text.length + 1) text with
      | .ok list => asked := asked ++ list
      | .error fault => abandon "od" 1 fault
    else
      match dumpLetters.lookup g.key with
      | some style => asked := asked ++ [style]
      | none => pure ()
  let styles := if asked.isEmpty then [⟨.octal, 2, false⟩] else asked
  let number (key : String) (usual : Nat) : Run Nat := do
    match valueOf? given key with
    | none => return usual
    | some text =>
      match scaled? text with
      | some n => return n
      | none => abandon "od" 1 ("invalid -" ++ key.toList ++ " argument " ++ marked text)
  let skip ← number "j" 0
  let most? ← if has given "N" then do pure (some (← number "N" 0)) else pure none
  let unit := styles.foldl (fun n d => max n d.size) 1
  let block ← if !has given "w" then pure 16
    else match valueOf? given "w" with
      | none => pure 32
      | some _ => number "w" 32
  let block := if block = 0 || block % unit ≠ 0 then unit else block
  let mut status := 0
  let mut whole : Octets := []
  let mut isOpen := false
  for name in if names.isEmpty then [['-']] else names do
    match ← readSource name with
    | .ok more =>
      whole := whole ++ more
      isOpen := true
    | .error refusal =>
      complain "od" (shownName name ++ ": " ++ reason refusal)
      status := 1
  if !isOpen then return status
  if whole.length < skip then abandon "od" 1 "cannot skip past end of combined input"
  let text := whole.drop skip
  let text := match most? with
    | some most => text.take most
    | none => text
  let address (n : Nat) : Octets :=
    match radix with
    | 'd' => Decimal.padded 7 (Octets.ofNat n)
    | 'x' => Decimal.padded 6 (Nat.toDigits 16 n)
    | 'n' => []
    | _ => Decimal.padded 7 (Nat.toDigits 8 n)
  let blank : Octets := (address 0).map fun _ => ' '
  let room := styles.foldl (fun room d => max room ((d.width + 1) * (block / d.size))) 0
  let blocks := DumpStyle.units block (text.length + 1) text
  let mut place := skip
  let mut last : Option Octets := none
  let mut starred := false
  for bytes in blocks do
    let repeats := last == some bytes && bytes.length = block && !has given "v"
    if repeats then
      if !starred then Run.print "*\n"
      starred := true
    else
      starred := false
      let lines := (styles.zip (List.range styles.length)).flatMap fun (d, n) =>
        (if n = 0 then address place else blank) ++ d.line block room bytes ++ ['\n']
      Run.print lines
    last := some bytes
    place := place + bytes.length
  if radix != 'n' then Run.printLine (address place)
  return status

/-- An alphabet: how many bits a character stands for, its characters, and after how many characters the
text is filled up. -/
structure Alphabet where
  bits : Nat
  letters : Array Char
  group : Nat

namespace Alphabet

/-- Sixty-four characters. -/
def sixtyFour : Alphabet :=
  ⟨6, "ABCDEFGHIJKLMNOPQRSTUVWXYZabcdefghijklmnopqrstuvwxyz0123456789+/".toList.toArray, 4⟩

/-- Thirty-two characters. -/
def thirtyTwo : Alphabet :=
  ⟨5, "ABCDEFGHIJKLMNOPQRSTUVWXYZ234567".toList.toArray, 8⟩

/-- The value of so many bits. -/
def ofBits (bits : List Bool) : Nat :=
  bits.foldl (fun n b => 2 * n + if b then 1 else 0) 0

/-- The bits of a number, the highest first. -/
def toBits (count n : Nat) : List Bool :=
  (List.range count).reverse.map fun k => n.testBit k

/-- Writes bits in characters. -/
def ofStream (a : Alphabet) : Nat → List Bool → Octets
  | 0, _ => []
  | _, [] => []
  | fuel + 1, bits =>
    let first := bits.take a.bits
    let full := first ++ List.replicate (a.bits - first.length) false
    (a.letters[ofBits full]?).getD '?' :: ofStream a fuel (bits.drop a.bits)

/-- How many bytes make up whole characters. -/
def bytesPerGroup (a : Alphabet) : Nat :=
  a.group * a.bits / 8

/-- Writes bytes in characters, filled up to whole groups. -/
def encode (a : Alphabet) : Nat → Octets → Octets
  | 0, _ => []
  | _, [] => []
  | fuel + 1, cs =>
    let bytes := cs.take a.bytesPerGroup
    let bits := bytes.flatMap fun c => toBits 8 c.toNat
    let text := a.ofStream (bits.length + 1) bits
    text ++ List.replicate (a.group - text.length) '=' ++ encode a fuel (cs.drop a.bytesPerGroup)

/-- The bytes of whole groups of bits. -/
def bytesOf : Nat → List Bool → Octets
  | 0, _ => []
  | fuel + 1, bits =>
    if bits.length < 8 then []
    else Char.ofNat (ofBits (bits.take 8)) :: bytesOf fuel (bits.drop 8)

/-- Reads characters back, group by group: the bytes, and whether all of it could be read. -/
def decode (a : Alphabet) : Nat → Octets → List Octets × Bool
  | 0, _ => ([], true)
  | _, [] => ([], true)
  | fuel + 1, cs =>
    let group := cs.take a.group
    let plain := group.takeWhile (· ≠ '=')
    let values := plain.map fun c => a.letters.findIdx? (· == c)
    let known := values.takeWhile Option.isSome
    let bits := known.flatMap fun v => toBits a.bits (v.getD 0)
    let bytes := bytesOf (bits.length + 1) bits
    let isFilled := group.length = a.group && (group.drop plain.length).all (· == '=')
    let left := bits.length % 8
    let isWhole := known.length = values.length && isFilled && left < a.bits &&
      !((bits.drop (bits.length - left)).any id)
    if !isWhole then ([bytes], false)
    else
      let (more, whole) := decode a fuel (cs.drop a.group)
      (bytes :: more, whole)

end Alphabet

/-- Cuts a text into lines of a width. -/
def wrapLines (width : Nat) : Nat → Octets → Octets
  | 0, _ => []
  | _, [] => []
  | fuel + 1, cs => cs.take width ++ ['\n'] ++ wrapLines width fuel (cs.drop width)

/-- Writes bytes in an alphabet, or reads them back. -/
def baseTool (name : String) (a : Alphabet) : Tool := fun arguments => do
  let (given, names) ← options name 1
    { letters := "diw:", names := ["decode=d", "wrap=w", "ignore-garbage=i"] } arguments
  let tool : Octets := name.toList
  let width ← match valueOf? given "w" with
    | none => pure 76
    | some text =>
      match natural? text with
      | some n => pure n
      | none => abandon tool 1 ("invalid wrap size: " ++ marked text)
  match names with
  | _ :: extra :: _ => refuse tool 1 ("extra operand " ++ marked extra)
  | _ => pure ()
  let source := names.headD ['-']
  match ← readSource source with
  | .error .isFolder => abandon tool 1 ("read error: " ++ reason .isFolder)
  | .error refusal => abandon tool 1 (shownName source ++ ": " ++ reason refusal)
  | .ok text =>
    if has given "d" then
      let isLetter (c : Char) : Bool := a.letters.contains c || c == '='
      let text := if has given "i" then text.filter isLetter else text.filter (· ≠ '\n')
      let (bytes, whole) := a.decode (text.length + 1) text
      Run.print bytes.flatten
      if !whole then abandon tool 1 "invalid input"
      return 0
    let encoded := a.encode (text.length + 1) text
    Run.print (if width = 0 then encoded else wrapLines width (encoded.length + 1) encoded)
    return 0

end DocMend.Shell.Tool
