import ScreenScript.Number.Binary64
import ScreenScript.Picture.Imaging
import ScreenScript.Picture.Reading
import ScreenScript.Text.Literal

/-!
# A plain library for pictures

The library that is used if no other one is given. It knows pictures with eight bits for each channel, which it
reads and writes in a single format. It puts a picture into another size by taking each pixel from the place
that corresponds to it, which makes a difference only to pictures of more than one colour.

* `Imaging.plain` — the library
* `Imaging.sized_plain` — its pictures have positive sides of 31 bits
-/

namespace ScreenScript.Imaging

/-- The picture of a file. -/
def read (path : Path) (octets : Octets) : Except ImagingFlaw Picture :=
  match Picture.ofPng? octets with
  | some picture => .ok picture
  | none => .error (.refused ("cannot identify image file ".toList ++ Text.literal path.toText))

/-- The most pixels of a picture that is opened. -/
def maxPixels : Nat := 178956970

/-- Whether a length can be asked for: it has to be a number of 32 bits. -/
def isLength (length : Int) : Bool :=
  -(Binary64.twoPow 31 : Int) ≤ length && length < Binary64.twoPow 31

/-- The greatest length for which there is room for the weights of scaling: seven of eight octets for
each pixel. -/
def greatestLength : Int := (Binary64.twoPow 31 - 1) / 56

/-- How many rows are covered if `count` of them are asked for. Rows are numbered with 32 bits, from
numbers of single precision; a greater number leaves the first row alone, and one beyond 64 bits is
refused. -/
def coveredRows? (count : Int) : Option Nat :=
  if (Binary64.twoPow 63 : Int) < count then none
  else if (Binary64.twoPow 31 : Int) - 64 < count then some 1
  else some count.toNat

/-- A fault of some kind. -/
def other {α : Type} (kind message : String) : Except ImagingFlaw α :=
  .error (.other kind.toList message.toList)

/-- The library that is used if no other one is given. -/
def plain : Imaging where
  size path octets := do
    let picture ← read path octets
    if maxPixels < picture.width * picture.height then
      other "DecompressionBombError" "image size exceeds limit"
    else
      return (picture.width, picture.height)
  resize path octets width height := do
    let picture ← read path octets
    if !(isLength width && isLength height) then
      other "OverflowError" "number too large"
    else if width ≤ 0 || height ≤ 0 then
      other "ValueError" "height and width must be > 0"
    else if greatestLength < width || greatestLength < height then
      other "MemoryError" ""
    else
      return { written := (picture.resize width.toNat height.toNat).toPng }
  height path octets := do return (← read path octets).height
  cover path octets rows := do
    let picture ← read path octets
    match coveredRows? rows with
    | some count => return { written := (picture.cover count).toPng }
    | none => other "ValueError" "row out of reach"

/-- Its pictures have positive sides of 31 bits. -/
theorem sized_plain : plain.Sized := by
  have hread {path : Path} {octets : Octets} {picture : Picture} (h : read path octets = .ok picture) :
      (0 < picture.width ∧ picture.width < 0x80000000) ∧ 0 < picture.height ∧ picture.height < 0x80000000 := by
    rw [read] at h
    split at h
    next found hfound =>
      cases h
      have hsides := Picture.isSide_of_ofPng? hfound
      simpa [Png.isSide] using hsides
    next => cases h
  constructor
  · intro path octets width height h
    cases hpicture : read path octets with
    | error flaw =>
      simp only [plain, hpicture] at h
      cases h
    | ok picture =>
      simp only [plain, hpicture, bind, Except.bind] at h
      split at h
      · cases h
      · cases h
        exact hread hpicture
  · intro path octets height h
    cases hpicture : read path octets with
    | error flaw =>
      simp only [plain, hpicture] at h
      cases h
    | ok picture =>
      simp only [plain, hpicture] at h
      cases h
      exact (hread hpicture).2.2

end ScreenScript.Imaging
