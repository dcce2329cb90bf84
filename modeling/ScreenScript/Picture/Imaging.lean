import ScreenScript.Disk.Path
import ScreenScript.Text.Utf8

/-!
# Libraries for pictures

The pictures of files are opened, changed and written by a library. Which octets are a picture, how it is put
into another size and how it is written is the library's own affair, and so is everything that may go wrong
then. It declares some of its faults, as the system does when it refuses to read or write, and these are
expected; it may fail in any other way, too.

* `ImagingFlaw` — why a library has no result
* `Imaging` — a library
* `Imaging.Sized` — what is documented of the sides of pictures
-/

namespace ScreenScript

/-- Why a library for pictures has no result. -/
inductive ImagingFlaw
  /-- the octets are no picture that it knows, or a part of one, or cannot be written: a declared fault -/
  | refused (message : Text)
  /-- any other fault, of some kind -/
  | other (kind message : Text)
  deriving DecidableEq, Repr, Inhabited

namespace ImagingFlaw

/-- Whether the library declares the fault. -/
def isDeclared : ImagingFlaw → Bool
  | refused _ => true
  | other _ _ => false

/-- The flaw in words. -/
def message : ImagingFlaw → Text
  | refused message | other _ message => message

end ImagingFlaw

/-- What comes of writing a picture into a file. -/
structure Saving where
  /-- what the file then holds -/
  written : Octets
  /-- why this is not all of the picture, if it is not -/
  flaw : Option ImagingFlaw := none
  deriving DecidableEq, Repr, Inhabited

/-- A library for pictures, as far as screenshots need one. The path of a file may stand in messages. -/
structure Imaging where
  /-- the width and the height of the picture that a file holds; the rest of it need not be read -/
  size : Path → Octets → Except ImagingFlaw (Nat × Nat)
  /-- the picture, in red, green, blue and opacity, with this width and height -/
  resize : Path → Octets → Int → Int → Except ImagingFlaw Saving
  /-- the height of the picture, all of which is read -/
  height : Path → Octets → Except ImagingFlaw Nat
  /-- the picture with so many of its uppermost rows black -/
  cover : Path → Octets → Int → Except ImagingFlaw Saving

/-- The sides of a picture are positive numbers of 31 bits. -/
structure Imaging.Sized (imaging : Imaging) : Prop where
  size : ∀ path octets width height, imaging.size path octets = .ok (width, height) →
    (0 < width ∧ width < 0x80000000) ∧ 0 < height ∧ height < 0x80000000
  height : ∀ path octets height, imaging.height path octets = .ok height → height < 0x80000000

end ScreenScript
