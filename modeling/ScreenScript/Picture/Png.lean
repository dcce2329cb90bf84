import ScreenScript.Compression.Deflate
import ScreenScript.Picture.Basic

/-!
# The file of a picture

The file begins with a signature and consists of chunks, each with its length, a name and a checksum.
Before they are compressed, rows are filtered: each octet is replaced by its difference to a
neighbouring one, by one of several rules. Of the rules, the one that leaves the least is taken.

* `Png.filterRow` — a row by the rule that is best for it
* `Picture.toPng` — the file
-/

namespace ScreenScript

namespace Png

/-- The octets that every file begins with. -/
def signature : Octets := [0x89, 0x50, 0x4e, 0x47, 0x0d, 0x0a, 0x1a, 0x0a]

/-- The octets of a name. -/
def nameOctets (name : String) : Octets := Utf8.encode name.toList

/-- A chunk. -/
def chunk (name : String) (data : Octets) : Octets :=
  let body := nameOctets name ++ data
  Deflate.bigEndian data.length ++ body ++ Deflate.bigEndian (Checksum.crc32 body)

/-- The number of the channels of a mode. -/
def modeNumber : PixelMode → UInt8
  | .grey => 0
  | .greyAlpha => 4
  | .rgb => 2
  | .rgba => 6

/-- The octets of a row. -/
def rowOctets (width : Nat) (row : Row) : Octets := (row.toPixels width).flatten

/-! ## Filters -/

/-- How far the octets of a filtered row are from zero, in all. -/
def weight (row : Octets) : Nat :=
  row.foldl (fun total octet => total + if octet < 128 then octet.toNat else 256 - octet.toNat) 0

/-- The octets of a row moved by a pixel to the right. -/
def shifted (channels : Nat) (row : Octets) : Octets := List.replicate channels 0 ++ row

/-- Each octet of a row less its left neighbour. -/
def fromLeft (channels : Nat) (row : Octets) : Octets :=
  row.zipWith (· - ·) (shifted channels row)

/-- Each octet of a row less the one above it. -/
def fromAbove (above row : Octets) : Octets := row.zipWith (· - ·) above

/-- Of the left neighbour, the one above and the one between them, the one nearest to their sum with
the last one taken away; of several such the first one. -/
def nearestOf (left above corner : UInt8) : UInt8 :=
  let a : Int := left.toNat
  let b : Int := above.toNat
  let c : Int := corner.toNat
  let toLeft := (b - c).natAbs
  let toAbove := (a - c).natAbs
  let toCorner := (a + b - 2 * c).natAbs
  if toLeft ≤ toAbove && toLeft ≤ toCorner then left
  else if toAbove ≤ toCorner then above
  else corner

/-- The three neighbours of each octet of a row, put together by `nearestOf`. -/
def nearest (channels : Nat) (above row : Octets) : Octets :=
  ((shifted channels row).zip (above.zip (shifted channels above))).map fun (left, above, corner) =>
    nearestOf left above corner

/-- Each octet of a row less the nearest of its neighbours. -/
def fromNearest (channels : Nat) (above row : Octets) : Octets :=
  row.zipWith (· - ·) (nearest channels above row)

/-- A row behind the number of the rule that it was filtered by; a rule takes the place of another one
only if it leaves less. -/
def filterRow (channels : Nat) (above row : Octets) : Octets :=
  let better (best : UInt8 × Octets) (other : UInt8 × Octets) : UInt8 × Octets :=
    if weight other.2 < weight best.2 then other else best
  let (rule, filtered) := [(2, fromAbove above row), (1, fromLeft channels row),
    (4, fromNearest channels above row)].foldl better (0, row)
  rule :: filtered

/-- The filtered rows behind the one above them. -/
def filterRows (channels : Nat) : Octets → List Octets → Octets
  | _, [] => []
  | above, row :: rest => filterRow channels above row ++ filterRows channels row rest

end Png

/-- The octets of the file of a picture. -/
def Picture.toPng (picture : Picture) : Octets :=
  let channels := picture.mode.channels
  let rows := picture.rows.map (Png.rowOctets picture.width)
  let start := List.replicate (picture.width * channels) 0
  let header := Deflate.bigEndian picture.width ++ Deflate.bigEndian picture.height ++
    [8, Png.modeNumber picture.mode, 0, 0, 0]
  Png.signature ++ Png.chunk "IHDR" header ++
    Png.chunk "IDAT" (Deflate.compress (Png.filterRows channels start rows)) ++ Png.chunk "IEND" []

end ScreenScript
