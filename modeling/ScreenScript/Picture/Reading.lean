import ScreenScript.Compression.Inflate
import ScreenScript.Picture.Png

/-!
# Reading the file of a picture

The converse of writing, for files with eight bits for each channel whose rows stand one behind the other:
the chunks are cut apart and their checksums compared, the rows are put together again, and each octet is
added to the neighbour that it was taken away from.

* `Png.chunks?` — the chunks of a file
* `Png.unfilterRow` — a row as it was before it was filtered
* `Picture.ofPng?` — the picture of a file
-/

namespace ScreenScript

namespace Png

/-! ## Chunks -/

/-- The number of some octets, the highest one first. -/
def valueOf (octets : Octets) : Nat := octets.foldl (fun value octet => value * 256 + octet.toNat) 0

/-- The names and data of the chunks of some octets, up to the last one; `fuel` is more than their number. -/
def chunks? : Nat → Octets → Option (List (Octets × Octets))
  | 0, _ => none
  | fuel + 1, octets =>
    let length := valueOf (octets.take 4)
    let body := (octets.drop 4).take (4 + length)
    let rest := octets.drop (8 + length)
    let name := body.take 4
    if body.length < 4 + length || rest.take 4 ≠ Deflate.bigEndian (Checksum.crc32 body) then
      none
    else if name = nameOctets "IEND" then
      some []
    else
      (chunks? fuel (rest.drop 4)).map ((name, body.drop 4) :: ·)

/-- The data of all chunks of a name, one behind the other. -/
def dataOf (name : String) (chunks : List (Octets × Octets)) : Octets :=
  (chunks.filter fun (other, _) => other = nameOctets name).flatMap Prod.snd

/-! ## Rows -/

/-- The mode of a number. -/
def mode? (number : UInt8) : Option PixelMode :=
  [PixelMode.grey, .greyAlpha, .rgb, .rgba].find? fun mode => modeNumber mode = number

/-- The octet between two others, rounded down. -/
def between (left above : UInt8) : UInt8 := UInt8.ofNat ((left.toNat + above.toNat) / 2)

/-- What a rule takes away from an octet with these neighbours. -/
def takenAway (rule left above corner : UInt8) : UInt8 :=
  match rule.toNat with
  | 0 => 0
  | 1 => left
  | 2 => above
  | 3 => between left above
  | _ => nearestOf left above corner

/-- The channels of a pixel before it was filtered, with those of its neighbours. -/
def unfilterPixel (rule : UInt8) : (left above corner pixel : Pixel) → Pixel
  | l :: left, a :: above, c :: corner, x :: pixel =>
    (x + takenAway rule l a c) :: unfilterPixel rule left above corner pixel
  | _, _, _, _ => []

/-- The pixels of a row before it was filtered, with the row above it and the pixels before. -/
def unfilterRow (rule : UInt8) : (left corner : Pixel) → (above row : List Pixel) → List Pixel
  | left, corner, above :: others, pixel :: row =>
    let found := unfilterPixel rule left above corner pixel
    found :: unfilterRow rule found above others row
  | _, _, _, _ => []

/-- The first `count` pieces of some octets, each of `size` octets. -/
def pieces (size : Nat) : Nat → Octets → List Octets
  | 0, _ => []
  | count + 1, octets => octets.take size :: pieces size count (octets.drop size)

/-- The rows of a picture, each behind the number of its rule, with the row above them. -/
def unfilterRows (channels width : Nat) : List Pixel → List Octets → Option (List Row)
  | _, [] => some []
  | _, [] :: _ => none
  | above, (rule :: filtered) :: rows =>
    let nothing : Pixel := List.replicate channels 0
    let row := unfilterRow rule nothing nothing above (pieces channels width filtered)
    if 4 < rule then none else (unfilterRows channels width row rows).map (Row.ofPixels row :: ·)

/-- Whether a side can have this length, which is a number of 31 bits. -/
def isSide (length : Nat) : Bool := 0 < length && length < 2147483648

/-- What the first chunk says of a picture: its channels, its width and its height. -/
def readHeader? (data : Octets) : Option (PixelMode × Nat × Nat) := do
  let mode ← mode? (← data[9]?)
  let width := valueOf (data.take 4)
  let height := valueOf ((data.drop 4).take 4)
  if isSide width && isSide height && data[8]? = some 8 && data.drop 10 = [0, 0, 0] then
    return (mode, width, height)
  else
    none

/-! ## Small laws -/

@[simp] theorem length_pieces (size count : Nat) (octets : Octets) :
    (pieces size count octets).length = count := by
  induction count generalizing octets with
  | zero => rfl
  | succ count ih => rw [pieces, List.length_cons, ih]

/-- No row is lost. -/
theorem length_of_unfilterRows {channels width : Nat} {above : List Pixel} {filtered : List Octets} {rows : List Row}
    (h : unfilterRows channels width above filtered = some rows) : rows.length = filtered.length := by
  induction filtered generalizing above rows with
  | nil =>
    cases h
    rfl
  | cons octets filtered ih =>
    cases octets with
    | nil => cases h
    | cons rule octets =>
      rw [unfilterRows] at h
      split at h
      · cases h
      · obtain ⟨later, hlater, rfl⟩ := Option.map_eq_some_iff.1 h
        rw [List.length_cons, List.length_cons, ih hlater]

/-- The sides of a picture have lengths that they can have. -/
theorem isSide_of_readHeader? {data : Octets} {mode : PixelMode} {width height : Nat}
    (h : readHeader? data = some (mode, width, height)) : isSide width = true ∧ isSide height = true := by
  simp only [readHeader?, Option.bind_eq_bind, Option.bind_eq_some_iff] at h
  obtain ⟨number, -, mode', -, h⟩ := h
  split at h
  next hsides =>
    cases h
    simp only [Bool.and_eq_true] at hsides
    exact hsides.1.1
  next => cases h

end Png

/-- The picture of a file, if it is one with eight bits for each channel. -/
def Picture.ofPng? (octets : Octets) : Option Picture := do
  if !Png.signature.isPrefixOf octets then
    none
  let chunks ← Png.chunks? octets.length (octets.drop Png.signature.length)
  let (mode, width, height) ← Png.readHeader? (Png.dataOf "IHDR" chunks)
  let data ← (Inflate.framed (Png.dataOf "IDAT" chunks)).toOption
  let size := 1 + width * mode.channels
  if data.length ≠ height * size then
    none
  let start : List Pixel := List.replicate width (List.replicate mode.channels 0)
  let rows ← Png.unfilterRows mode.channels width start (Png.pieces size height data)
  return ⟨mode, width, rows⟩

/-- The pictures of files have positive sides of 31 bits. -/
theorem Picture.isSide_of_ofPng? {octets : Octets} {picture : Picture} (h : ofPng? octets = some picture) :
    Png.isSide picture.width = true ∧ Png.isSide picture.height = true := by
  simp only [ofPng?, Option.bind_eq_bind] at h
  split at h
  · cases h
  · simp only [Option.bind_eq_some_iff] at h
    obtain ⟨chunks, -, ⟨mode, width, height⟩, hheader, data, -, h⟩ := h
    dsimp only at h
    split at h
    · cases h
    · obtain ⟨rows, hrows, h⟩ := Option.bind_eq_some_iff.1 h
      cases h
      have hlength := Png.length_of_unfilterRows hrows
      rw [Png.length_pieces] at hlength
      rw [Picture.height, hlength]
      exact Png.isSide_of_readHeader? hheader

end ScreenScript
