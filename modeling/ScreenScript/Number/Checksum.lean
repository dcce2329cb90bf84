import ScreenScript.Text.Utf8

/-!
# Checksums

The two checksums of 32 bits that a compressed file carries: the remainder of a division of polynomials
over two elements, and a pair of sums modulo a prime.
-/

namespace ScreenScript.Checksum

/-- The polynomial, its bits in reverse. -/
def polynomial : BitVec 32 := 0xEDB88320#32

/-- The remainder after so many more bits. -/
def divide : Nat → BitVec 32 → BitVec 32
  | 0, crc => crc
  | bits + 1, crc =>
    divide bits (if crc.getLsbD 0 then (crc >>> 1) ^^^ polynomial else crc >>> 1)

/-- The remainder after another octet. -/
def feed (crc : BitVec 32) (octet : UInt8) : BitVec 32 :=
  divide 8 (crc ^^^ BitVec.ofNat 32 octet.toNat)

/-- The remainder of some octets, begun and ended with all bits turned. -/
def crc32 (octets : Octets) : Nat := (~~~ octets.foldl feed (BitVec.allOnes 32)).toNat

/-- The prime of the sums. -/
def sumModulus : Nat := 65521

/-- The sum of some octets plus one, and the sum of those sums. -/
def sums (octets : Octets) : Nat × Nat :=
  octets.foldl (fun (low, high) octet =>
    let low := (low + octet.toNat) % sumModulus
    (low, (high + low) % sumModulus)) (1, 0)

/-- The two sums in one number. -/
def adler32 (octets : Octets) : Nat := (sums octets).2 * 65536 + (sums octets).1

end ScreenScript.Checksum
