import Sparql.Text.Hex

/-!
# Message digest

The 128-bit digest (MD5) of some bytes, written with 32 hexadecimal digits. Cache keys use it as a short
stand-in for a text.
-/

namespace Sparql.Text.Digest

/-- How far each of the 64 rounds rotates. -/
def rotations : List UInt32 :=
  let group (shifts : List UInt32) := shifts ++ shifts ++ shifts ++ shifts
  group [7, 12, 17, 22] ++ group [5, 9, 14, 20] ++ group [4, 11, 16, 23] ++ group [6, 10, 15, 21]

/-- What each round adds: the fractional parts of the sines of 1 to 64. -/
def constants : List UInt32 := [
  0xd76aa478, 0xe8c7b756, 0x242070db, 0xc1bdceee, 0xf57c0faf, 0x4787c62a, 0xa8304613, 0xfd469501,
  0x698098d8, 0x8b44f7af, 0xffff5bb1, 0x895cd7be, 0x6b901122, 0xfd987193, 0xa679438e, 0x49b40821,
  0xf61e2562, 0xc040b340, 0x265e5a51, 0xe9b6c7aa, 0xd62f105d, 0x02441453, 0xd8a1e681, 0xe7d3fbc8,
  0x21e1cde6, 0xc33707d6, 0xf4d50d87, 0x455a14ed, 0xa9e3e905, 0xfcefa3f8, 0x676f02d9, 0x8d2a4c8a,
  0xfffa3942, 0x8771f681, 0x6d9d6122, 0xfde5380c, 0xa4beea44, 0x4bdecfa9, 0xf6bb4b60, 0xbebfbc70,
  0x289b7ec6, 0xeaa127fa, 0xd4ef3085, 0x04881d05, 0xd9d4d039, 0xe6db99e5, 0x1fa27cf8, 0xc4ac5665,
  0xf4292244, 0x432aff97, 0xab9423a7, 0xfc93a039, 0x655b59c3, 0x8f0ccc92, 0xffeff47d, 0x85845dd1,
  0x6fa87e4f, 0xfe2ce6e0, 0xa3014314, 0x4e0811a1, 0xf7537e82, 0xbd3af235, 0x2ad7d2bb, 0xeb86d391]

/-- The four words of the running digest. -/
structure State where
  a : UInt32
  b : UInt32
  c : UInt32
  d : UInt32
deriving DecidableEq

/-- The digest of nothing read yet. -/
def State.start : State := ⟨0x67452301, 0xefcdab89, 0x98badcfe, 0x10325476⟩

/-- A word rotated towards its high bits. -/
def rotate (word amount : UInt32) : UInt32 := (word <<< amount) ||| (word >>> (32 - amount))

/-- One round on a block of sixteen words. -/
def round (block : Array UInt32) (s : State) (index : Nat) (constant rotation : UInt32) : State :=
  let (mixed, source) :=
    if index < 16 then ((s.b &&& s.c) ||| (~~~s.b &&& s.d), index)
    else if index < 32 then ((s.d &&& s.b) ||| (~~~s.d &&& s.c), (5 * index + 1) % 16)
    else if index < 48 then (s.b ^^^ s.c ^^^ s.d, (3 * index + 5) % 16)
    else (s.c ^^^ (s.b ||| ~~~s.d), (7 * index) % 16)
  let sum := s.a + mixed + constant + block.getD source 0
  ⟨s.d, s.b + rotate sum rotation, s.b, s.c⟩

/-- The digest after one more block. -/
def absorb (s : State) (block : Array UInt32) : State :=
  let (result, _) := (constants.zip rotations).foldl
    (fun (t, index) (constant, rotation) => (round block t index constant rotation, index + 1)) (s, 0)
  ⟨s.a + result.a, s.b + result.b, s.c + result.c, s.d + result.d⟩

/-- Four bytes as a word, lowest first. -/
def wordOf (a b c d : UInt8) : UInt32 :=
  a.toUInt32 ||| (b.toUInt32 <<< 8) ||| (c.toUInt32 <<< 16) ||| (d.toUInt32 <<< 24)

/-- Takes the bytes in fours and the words in sixteens. -/
def absorbBytes (s : State) (block : Array UInt32) : List UInt8 → State
  | a :: b :: c :: d :: rest =>
    let filled := block.push (wordOf a b c d)
    if filled.size = 16 then absorbBytes (absorb s filled) #[] rest else absorbBytes s filled rest
  | _ => s

/-- The lowest `count` bytes of a number, lowest first. -/
def lowBytes : Nat → Nat → List UInt8
  | 0, _ => []
  | count + 1, value => UInt8.ofNat (value % 256) :: lowBytes count (value / 256)

/-- What is appended to a message of the given length: a one bit, zeros, and the length in bits. -/
def padding (length : Nat) : List UInt8 :=
  0x80 :: List.replicate ((119 - length % 64) % 64) 0 ++ lowBytes 8 (8 * length)

/-- The digest of some bytes in hexadecimal. -/
def ofBytes (message : List UInt8) : String :=
  let s := absorbBytes State.start #[] (message ++ padding message.length)
  String.ofList (hexBytes ([s.a, s.b, s.c, s.d].flatMap fun word => lowBytes 4 word.toNat))

end Sparql.Text.Digest
