import DocMend.Shell.Octets
/-!
Checksums of texts. The text is filled up to whole blocks that end with its length, and every block is
mixed into the state in rounds.
-/

set_option autoImplicit false
set_option relaxedAutoImplicit false

namespace DocMend.Shell.Checksum

/-- Turns the bits of a word to the left. -/
def turnLeft (x : UInt32) (n : UInt32) : UInt32 :=
  (x <<< n) ||| (x >>> (32 - n))

/-- Turns the bits of a word to the right. -/
def turnRight (x : UInt32) (n : UInt32) : UInt32 :=
  (x >>> n) ||| (x <<< (32 - n))

/-- Turns the bits of a long word to the right. -/
def turnLongRight (x : UInt64) (n : UInt64) : UInt64 :=
  (x >>> n) ||| (x <<< (64 - n))

/-- The bytes of a number, the highest first. -/
def bytesOf (count n : Nat) : List Nat :=
  (List.range count).reverse.map fun k => n >>> (8 * k) % 256

/-- Fills a text up to whole blocks: a single bit, zeros, and the length in bits. -/
def filled (block lengthSize : Nat) (lowFirst : Bool) (text : Octets) : List Nat :=
  let bytes := text.map Char.toNat
  let used := (bytes.length + 1 + lengthSize) % block
  let zeros := if used = 0 then 0 else block - used
  let length := bytesOf lengthSize (8 * bytes.length)
  bytes ++ [128] ++ List.replicate zeros 0 ++ (if lowFirst then length.reverse else length)

/-- Cuts a list into parts of a size. -/
def parts {α : Type} (size : Nat) : Nat → List α → List (List α)
  | 0, _ => []
  | _, [] => []
  | fuel + 1, list => list.take size :: parts size fuel (list.drop size)

/-- The number that bytes make up, the highest first. -/
def ofBytes (bytes : List Nat) : Nat :=
  bytes.foldl (fun n b => n * 256 + b) 0

/-- The hexadecimal digits of bytes. -/
def digits (bytes : List Nat) : Octets :=
  bytes.flatMap fun b => [Nat.digitChar (b / 16), Nat.digitChar (b % 16)]

/-- The whole part of a root of a number, times a power of two. -/
def scaledRoot (degree bits n : Nat) : Nat :=
  let goal := n <<< (degree * bits)
  let power (x : Nat) : Nat := if degree = 2 then x * x else x * x * x
  (List.range (bits + 8)).reverse.foldl (fun root k =>
    let next := root + (1 <<< k)
    if power next ≤ goal then next else root) 0

/-- The first prime numbers. -/
def primes : List Nat :=
  (List.range 412).filter fun n => 2 ≤ n && !(List.range n).any fun d => 2 ≤ d && n % d = 0

/-- The fractions of roots of the first prime numbers, as bits. -/
def rootFractions (degree bits count : Nat) : List Nat :=
  (primes.take count).map fun p => scaledRoot degree bits p % (1 <<< bits)

/-- Constants of the rounds of the oldest sum: the sines of the first numbers, as bits. -/
def sineConstants : Array UInt32 :=
  ((List.range 64).map fun n =>
    (Float.floor ((Float.sin (Float.ofNat (n + 1))).abs * 4294967296.0)).toUInt32).toArray

/-- By how many bits words are turned in the rounds of the oldest sum. -/
def turns : List (List UInt32) :=
  [[7, 12, 17, 22], [5, 9, 14, 20], [4, 11, 16, 23], [6, 10, 15, 21]]

/-- The oldest sum, of 128 bits. -/
def md5 (text : Octets) : Octets :=
  let mix (state : UInt32 × UInt32 × UInt32 × UInt32) (block : List Nat) :
      UInt32 × UInt32 × UInt32 × UInt32 :=
    let words := ((parts 4 16 block).map fun b => UInt32.ofNat (ofBytes b.reverse)).toArray
    let (a, b, c, d) := (List.range 64).foldl (fun (s : UInt32 × UInt32 × UInt32 × UInt32) n =>
      let (a, b, c, d) := s
      let round := n / 16
      let f : UInt32 := match round with
        | 0 => (b &&& c) ||| (~~~b &&& d)
        | 1 => (d &&& b) ||| (~~~d &&& c)
        | 2 => b ^^^ c ^^^ d
        | _ => c ^^^ (b ||| ~~~d)
      let place := match round with
        | 0 => n
        | 1 => (5 * n + 1) % 16
        | 2 => (3 * n + 5) % 16
        | _ => 7 * n % 16
      let turn := ((turns.getD round []).getD (n % 4) 0)
      let sum := a + f + (sineConstants[n]?).getD 0 + (words[place]?).getD 0
      (d, b + turnLeft sum turn, b, c)) state
    let (a', b', c', d') := state
    (a' + a, b' + b, c' + c, d' + d)
  let blocks := parts 64 (text.length / 64 + 3) (filled 64 8 true text)
  let (a, b, c, d) := blocks.foldl mix (0x67452301, 0xefcdab89, 0x98badcfe, 0x10325476)
  digits ([a, b, c, d].flatMap fun w => (bytesOf 4 w.toNat).reverse)

/-- The words of a block, followed by those that are made from them. -/
def sha1Words (block : List Nat) : Array UInt32 :=
  let first := ((parts 4 16 block).map fun b => UInt32.ofNat (ofBytes b)).toArray
  (List.range 64).foldl (fun words n =>
    let back (k : Nat) : UInt32 := (words[n + 16 - k]?).getD 0
    words.push (turnLeft (back 3 ^^^ back 8 ^^^ back 14 ^^^ back 16) 1)) first

/-- The sum of 160 bits. -/
def sha1 (text : Octets) : Octets :=
  let mix (state : List UInt32) (block : List Nat) : List UInt32 :=
    let words := sha1Words block
    let result := (List.range 80).foldl (fun s n =>
      match s with
      | [a, b, c, d, e] =>
        let (f, k) : UInt32 × UInt32 :=
          if n < 20 then ((b &&& c) ||| (~~~b &&& d), 0x5a827999)
          else if n < 40 then (b ^^^ c ^^^ d, 0x6ed9eba1)
          else if n < 60 then ((b &&& c) ||| (b &&& d) ||| (c &&& d), 0x8f1bbcdc)
          else (b ^^^ c ^^^ d, 0xca62c1d6)
        [turnLeft a 5 + f + e + k + (words[n]?).getD 0, a, turnLeft b 30, c, d]
      | s => s) state
    (state.zip result).map fun (x, y) => x + y
  let blocks := parts 64 (text.length / 64 + 3) (filled 64 8 false text)
  let state := blocks.foldl mix [0x67452301, 0xefcdab89, 0x98badcfe, 0x10325476, 0xc3d2e1f0]
  digits (state.flatMap fun w => bytesOf 4 w.toNat)

/-- Constants of the rounds of the sums with short words. -/
def shortConstants : Array UInt32 :=
  ((rootFractions 3 32 64).map UInt32.ofNat).toArray

/-- A sum with short words, from a beginning; some of the words at the end may be left out. -/
def short (start : List Nat) (size : Nat) (text : Octets) : Octets :=
  let mix (state : List UInt32) (block : List Nat) : List UInt32 :=
    let first := ((parts 4 16 block).map fun b => UInt32.ofNat (ofBytes b)).toArray
    let words := (List.range 48).foldl (fun (words : Array UInt32) n =>
      let back (k : Nat) : UInt32 := (words[n + 16 - k]?).getD 0
      let s0 := turnRight (back 15) 7 ^^^ turnRight (back 15) 18 ^^^ (back 15 >>> 3)
      let s1 := turnRight (back 2) 17 ^^^ turnRight (back 2) 19 ^^^ (back 2 >>> 10)
      words.push (back 16 + s0 + back 7 + s1)) first
    let result := (List.range 64).foldl (fun s n =>
      match s with
      | [a, b, c, d, e, f, g, h] =>
        let s1 := turnRight e 6 ^^^ turnRight e 11 ^^^ turnRight e 25
        let choice := (e &&& f) ^^^ (~~~e &&& g)
        let t1 := h + s1 + choice + (shortConstants[n]?).getD 0 + (words[n]?).getD 0
        let s0 := turnRight a 2 ^^^ turnRight a 13 ^^^ turnRight a 22
        let majority := (a &&& b) ^^^ (a &&& c) ^^^ (b &&& c)
        [t1 + s0 + majority, a, b, c, d + t1, e, f, g]
      | s => s) state
    (state.zip result).map fun (x, y) => x + y
  let blocks := parts 64 (text.length / 64 + 3) (filled 64 8 false text)
  let state := blocks.foldl mix (start.map UInt32.ofNat)
  digits ((state.take size).flatMap fun w => bytesOf 4 w.toNat)

/-- Constants of the rounds of the sums with long words. -/
def longConstants : Array UInt64 :=
  ((rootFractions 3 64 80).map UInt64.ofNat).toArray

/-- A sum with long words, from a beginning; some of the words at the end may be left out. -/
def long (start : List Nat) (size : Nat) (text : Octets) : Octets :=
  let mix (state : List UInt64) (block : List Nat) : List UInt64 :=
    let first := ((parts 8 16 block).map fun b => UInt64.ofNat (ofBytes b)).toArray
    let words := (List.range 64).foldl (fun (words : Array UInt64) n =>
      let back (k : Nat) : UInt64 := (words[n + 16 - k]?).getD 0
      let s0 := turnLongRight (back 15) 1 ^^^ turnLongRight (back 15) 8 ^^^ (back 15 >>> 7)
      let s1 := turnLongRight (back 2) 19 ^^^ turnLongRight (back 2) 61 ^^^ (back 2 >>> 6)
      words.push (back 16 + s0 + back 7 + s1)) first
    let result := (List.range 80).foldl (fun s n =>
      match s with
      | [a, b, c, d, e, f, g, h] =>
        let s1 := turnLongRight e 14 ^^^ turnLongRight e 18 ^^^ turnLongRight e 41
        let choice := (e &&& f) ^^^ (~~~e &&& g)
        let t1 := h + s1 + choice + (longConstants[n]?).getD 0 + (words[n]?).getD 0
        let s0 := turnLongRight a 28 ^^^ turnLongRight a 34 ^^^ turnLongRight a 39
        let majority := (a &&& b) ^^^ (a &&& c) ^^^ (b &&& c)
        [t1 + s0 + majority, a, b, c, d + t1, e, f, g]
      | s => s) state
    (state.zip result).map fun (x, y) => x + y
  let blocks := parts 128 (text.length / 128 + 3) (filled 128 16 false text)
  let state := blocks.foldl mix (start.map UInt64.ofNat)
  digits ((state.take size).flatMap fun w => bytesOf 8 w.toNat)

/-- The sum of 256 bits. -/
def sha256 : Octets → Octets :=
  short (rootFractions 2 32 8) 8

/-- The sum of 224 bits, which begins with the lower halves of the words of a longer one. -/
def sha224 : Octets → Octets :=
  short (((rootFractions 2 64 16).drop 8).map fun n => n % 4294967296) 7

/-- The sum of 512 bits. -/
def sha512 : Octets → Octets :=
  long (rootFractions 2 64 8) 8

/-- The sum of 384 bits. -/
def sha384 : Octets → Octets :=
  long ((rootFractions 2 64 16).drop 8) 6

/-- Divides a byte more into the remainder of a polynomial. -/
def crcStep (crc : UInt32) (byte : Nat) : UInt32 :=
  (List.range 8).foldl (fun crc _ =>
    if crc &&& 0x80000000 ≠ 0 then (crc <<< 1) ^^^ 0x04c11db7 else crc <<< 1)
    (crc ^^^ (UInt32.ofNat byte <<< 24))

/-- The bytes of a length, the lowest first and without zeros at the end. -/
def lengthBytes : Nat → Nat → List Nat
  | 0, _ => []
  | fuel + 1, n => if n = 0 then [] else n % 256 :: lengthBytes fuel (n / 256)

/-- The remainder of a text and its length by a polynomial. -/
def crc (text : Octets) : Nat :=
  let bytes := text.map Char.toNat ++ lengthBytes 10 text.length
  (~~~(bytes.foldl crcStep 0)).toNat

/-- A sum that is turned to the right before every byte. -/
def turning (text : Octets) : Nat :=
  text.foldl (fun sum c => (sum / 2 + sum % 2 * 32768 + c.toNat) % 65536) 0

/-- A sum of bytes, folded into sixteen bits. -/
def folded (text : Octets) : Nat :=
  let sum := text.foldl (fun sum c => (sum + c.toNat) % 4294967296) 0
  let once := sum % 65536 + sum / 65536
  once % 65536 + once / 65536

end DocMend.Shell.Checksum
