import ScreenScript.Compression.Repetition
import ScreenScript.Number.Checksum

/-!
# Compressed octets

Tokens are written as bits: an octet as eight or nine, a repetition as the codes of its length and its
distance with the bits that tell apart what has the same code. All codes are fixed. The octets are one
block, between two octets that name the method and the checksum.

* `Deflate.tokenBits` — the bits of a token
* `Deflate.compress` — the compressed form of some octets
-/

namespace ScreenScript.Deflate

/-- Bits, the first one first. -/
abbrev Bits := List Bool

/-- The lowest bits of a number, the lowest first. -/
def lowFirst : Nat → Nat → Bits
  | 0, _ => []
  | count + 1, n => (n % 2 = 1) :: lowFirst count (n / 2)

/-- The lowest bits of a number, the highest first, as codes are written. -/
def highFirst (count n : Nat) : Bits := (lowFirst count n).reverse

/-- The code of a symbol: an octet, the end of the block, or the code of a length. -/
def symbolBits (symbol : Nat) : Bits :=
  if symbol < 144 then highFirst 8 (48 + symbol)
  else if symbol < 256 then highFirst 9 (400 + (symbol - 144))
  else if symbol < 280 then highFirst 7 (symbol - 256)
  else highFirst 8 (192 + (symbol - 280))

/-- The symbol of the end of the block. -/
def endSymbol : Nat := 256

/-- The lengths that are told apart by no bits, one bit, two bits, …: where the codes of each group
begin, and how many bits they have. -/
def lengthGroups : List (Nat × Nat) :=
  [(3, 0), (4, 0), (5, 0), (6, 0), (7, 0), (8, 0), (9, 0), (10, 0), (11, 1), (13, 1), (15, 1), (17, 1),
    (19, 2), (23, 2), (27, 2), (31, 2), (35, 3), (43, 3), (51, 3), (59, 3), (67, 4), (83, 4), (99, 4),
    (115, 4), (131, 5), (163, 5), (195, 5), (227, 5), (258, 0)]

/-- The same for distances. -/
def distanceGroups : List (Nat × Nat) :=
  [(1, 0), (2, 0), (3, 0), (4, 0), (5, 1), (7, 1), (9, 2), (13, 2), (17, 3), (25, 3), (33, 4), (49, 4),
    (65, 5), (97, 5), (129, 6), (193, 6), (257, 7), (385, 7), (513, 8), (769, 8), (1025, 9), (1537, 9),
    (2049, 10), (3073, 10), (4097, 11), (6145, 11), (8193, 12), (12289, 12), (16385, 13), (24577, 13)]

/-- The last group that begins at or below a number: its place, where it begins, and its bits. -/
def groupOf (groups : List (Nat × Nat)) (n : Nat) : Nat × Nat × Nat :=
  let below := groups.takeWhile fun (first, _) => first ≤ n
  let (first, bits) := below.getLast?.getD (0, 0)
  (below.length - 1, first, bits)

/-- The bits of a token. -/
def tokenBits : Token → Bits
  | .literal octet => symbolBits octet.toNat
  | .repetition length distance =>
    let (place, first, bits) := groupOf lengthGroups length
    let (place', first', bits') := groupOf distanceGroups distance
    symbolBits (257 + place) ++ lowFirst bits (length - first) ++
      highFirst 5 place' ++ lowFirst bits' (distance - first')

/-- The bits of a block that is the only one and has the fixed codes. -/
def blockBits (tokens : List Token) : Bits :=
  [true, true, false] ++ tokens.flatMap tokenBits ++ symbolBits endSymbol

/-- The number that some bits stand for, the lowest first. -/
def bitsValue : Bits → Nat
  | [] => 0
  | bit :: rest => (if bit then 1 else 0) + 2 * bitsValue rest

/-- The octets of some bits; the last one is filled up. -/
def pack : Bits → Octets
  | b₀ :: b₁ :: b₂ :: b₃ :: b₄ :: b₅ :: b₆ :: b₇ :: rest =>
    UInt8.ofNat (bitsValue [b₀, b₁, b₂, b₃, b₄, b₅, b₆, b₇]) :: pack rest
  | [] => []
  | rest => [UInt8.ofNat (bitsValue rest)]

/-- The four octets of a number, the highest first. -/
def bigEndian (n : Nat) : Octets :=
  [n / 16777216, n / 65536, n / 256, n].map UInt8.ofNat

/-- The two octets that name the method. -/
def header : Octets := [0x78, 0x9c]

/-- The compressed form of some octets. -/
def compress (octets : Octets) : Octets :=
  header ++ pack (blockBits (Repetition.tokens octets)) ++ bigEndian (Checksum.adler32 octets)

end ScreenScript.Deflate
