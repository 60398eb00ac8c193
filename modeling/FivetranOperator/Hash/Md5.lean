import Mathlib.Data.List.Defs

/-!
# MD5

`crypto/md5`'s `Sum` (RFC 1321) and the `%x` rendering the fingerprints store. The reconciler
only compares fingerprints for equality; no proof here evaluates the digest.
-/

namespace FivetranOperator

namespace Md5

/-- The per-round additive constants `⌊2³² |sin (i + 1)|⌋`. -/
def k : List UInt32 :=
  [0xd76aa478, 0xe8c7b756, 0x242070db, 0xc1bdceee, 0xf57c0faf, 0x4787c62a, 0xa8304613, 0xfd469501,
   0x698098d8, 0x8b44f7af, 0xffff5bb1, 0x895cd7be, 0x6b901122, 0xfd987193, 0xa679438e, 0x49b40821,
   0xf61e2562, 0xc040b340, 0x265e5a51, 0xe9b6c7aa, 0xd62f105d, 0x02441453, 0xd8a1e681, 0xe7d3fbc8,
   0x21e1cde6, 0xc33707d6, 0xf4d50d87, 0x455a14ed, 0xa9e3e905, 0xfcefa3f8, 0x676f02d9, 0x8d2a4c8a,
   0xfffa3942, 0x8771f681, 0x6d9d6122, 0xfde5380c, 0xa4beea44, 0x4bdecfa9, 0xf6bb4b60, 0xbebfbc70,
   0x289b7ec6, 0xeaa127fa, 0xd4ef3085, 0x04881d05, 0xd9d4d039, 0xe6db99e5, 0x1fa27cf8, 0xc4ac5665,
   0xf4292244, 0x432aff97, 0xab9423a7, 0xfc93a039, 0x655b59c3, 0x8f0ccc92, 0xffeff47d, 0x85845dd1,
   0x6fa87e4f, 0xfe2ce6e0, 0xa3014314, 0x4e0811a1, 0xf7537e82, 0xbd3af235, 0x2ad7d2bb, 0xeb86d391]

/-- The left-rotation amounts of each round. -/
def shift (i : Nat) : UInt32 :=
  match i / 16, i % 4 with
  | 0, 0 => 7 | 0, 1 => 12 | 0, 2 => 17 | 0, _ => 22
  | 1, 0 => 5 | 1, 1 => 9 | 1, 2 => 14 | 1, _ => 20
  | 2, 0 => 4 | 2, 1 => 11 | 2, 2 => 16 | 2, _ => 23
  | _, 0 => 6 | _, 1 => 10 | _, 2 => 15 | _, _ => 21

/-- Rotate a word left. -/
def rotl (x s : UInt32) : UInt32 := (x <<< s) ||| (x >>> (32 - s))

/-- A little-endian word from four bytes. -/
def word (b : List UInt8) : UInt32 :=
  (b.getD 0 0).toUInt32 ||| ((b.getD 1 0).toUInt32 <<< 8) |||
    ((b.getD 2 0).toUInt32 <<< 16) ||| ((b.getD 3 0).toUInt32 <<< 24)

/-- The four bytes of a word, little-endian. -/
def bytes (x : UInt32) : List UInt8 :=
  [x.toUInt8, (x >>> 8).toUInt8, (x >>> 16).toUInt8, (x >>> 24).toUInt8]

/-- One of the 64 steps on the state `(a, b, c, d)` for a block of sixteen words. -/
def step (m : List UInt32) (s : UInt32 × UInt32 × UInt32 × UInt32) (i : Nat) :
    UInt32 × UInt32 × UInt32 × UInt32 :=
  let (a, b, c, d) := s
  let (f, g) :=
    if i < 16 then ((b &&& c) ||| (~~~b &&& d), i)
    else if i < 32 then ((d &&& b) ||| (~~~d &&& c), (5 * i + 1) % 16)
    else if i < 48 then (b ^^^ c ^^^ d, (3 * i + 5) % 16)
    else (c ^^^ (b ||| ~~~d), (7 * i) % 16)
  let f := f + a + k.getD i 0 + m.getD g 0
  (d, b + rotl f (shift i), b, c)

/-- Fold one 64-byte block into the state. -/
def block (s : UInt32 × UInt32 × UInt32 × UInt32) (chunk : List UInt8) :
    UInt32 × UInt32 × UInt32 × UInt32 :=
  let m := (List.range 16).map fun j => word (chunk.drop (4 * j))
  let (a, b, c, d) := (List.range 64).foldl (step m) s
  (s.1 + a, s.2.1 + b, s.2.2.1 + c, s.2.2.2 + d)

/-- The padded message: a one bit, zeros to 56 mod 64, and the bit length little-endian. -/
def pad (msg : List UInt8) : List UInt8 :=
  let zeros := (55 + 64 - msg.length % 64) % 64
  msg ++ [(0x80 : UInt8)] ++ List.replicate zeros (0 : UInt8) ++
    (List.range 8).map fun j => (((8 * msg.length) >>> (8 * j)) % 256).toUInt8

/-- Split into 64-byte blocks. -/
def chunks : Nat → List UInt8 → List (List UInt8)
  | 0, _ => []
  | n + 1, msg => if msg.isEmpty then [] else msg.take 64 :: chunks n (msg.drop 64)

end Md5

/-- `md5.Sum`. -/
def md5Sum (msg : List UInt8) : List UInt8 :=
  let padded := Md5.pad msg
  let (a, b, c, d) := (Md5.chunks padded.length padded).foldl Md5.block
    (0x67452301, 0xefcdab89, 0x98badcfe, 0x10325476)
  Md5.bytes a ++ Md5.bytes b ++ Md5.bytes c ++ Md5.bytes d

/-- Two lowercase hex digits. -/
def hexByte (b : UInt8) : String :=
  let digit (n : Nat) : Char := if n < 10 then Char.ofNat (48 + n) else Char.ofNat (87 + n)
  ⟨[digit (b.toNat / 16), digit (b.toNat % 16)]⟩

/-- `fmt.Sprintf("%x", md5.Sum([]byte(s)))`. -/
def md5Hex (s : String) : String :=
  String.join ((md5Sum s.toUTF8.toList).map hexByte)

end FivetranOperator
