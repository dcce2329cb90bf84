import ScreenScript.Disk.Access
import ScreenScript.Vision.Request

/-!
# Files with pictures

Screenshots are scaled so that their shorter side has a given length, the status bar is covered, and
the file is made ready for sending. The factor of scaling is handed on, since the service speaks of
points of the scaled picture. What is done to the picture itself is up to a library.

* `Picture.scaledSides`, `Picture.rowsOf` — the numbers that the library is given
* `Picture.scaleFile`, `Picture.coverFile` — the picture of a file, scaled or covered
* `Picture.encodeFile` — a file as it is sent
-/

namespace ScreenScript.Picture

/-! ## Numbers -/

/-- A length times a factor, as a whole number of pixels. -/
def scaledLength (length : Nat) (factor : Binary64) : Except ArithmeticError Int := do
  ((← (Scalar.int length).toReal).mul factor).asInt Binary64.nearestInt?

/-- The factor that brings the shorter of two sides to the length `side`, and both sides times this
factor. -/
def scaledSides (side : Scalar) (width height : Nat) : Except ArithmeticError (Binary64 × Int × Int) := do
  let factor ← side.div (.int (min width height))
  return (factor, ← scaledLength width factor, ← scaledLength height factor)

/-- A share of a height, as a whole number of rows. -/
def rowsOf (share : Scalar) (height : Nat) : Except ArithmeticError Int := do
  match ← share.times height with
  | .int n => return n
  | .real x => x.asInt Binary64.truncate?

/-! ## Files -/

/-- A number, or why it cannot be computed. -/
def ofNumber {α : Type} : Except ArithmeticError α → Routine Disk α := Routine.ofExcept .arithmetic

/-- What the library makes of a picture, or why it makes nothing of it. -/
def ofLibrary {α : Type} : Except ImagingFlaw α → Routine Disk α := Routine.ofExcept .imaging

/-- Writes a picture into a file, as far as it goes. -/
def save (path : Path) (saving : Saving) : Routine Disk Unit := do
  Disk.writeContent path (.octets saving.written)
  match saving.flaw with
  | none => return ()
  | some flaw => Routine.fail (.imaging flaw)

/-- Two lengths with a cross between them. -/
def sizeText (width height : Int) : Text := Text.ofInt width ++ 'x' :: Text.ofInt height

/-- Writes the picture of one file into another, scaled so that its shorter side has the given length,
and returns the factor of scaling. -/
def scaleFile (imaging : Imaging) (source target : Path) (side : Scalar) : Routine Disk Binary64 := do
  let content ← Disk.readContent source
  let (width, height) ← ofLibrary (imaging.size source content.toOctets)
  let (factor, scaledWidth, scaledHeight) ← ofNumber (scaledSides side width height)
  save target (← ofLibrary (imaging.resize source content.toOctets scaledWidth scaledHeight))
  Routine.say .debug ("截图缩放 ".toList ++ sizeText width height ++ " -> ".toList ++
    sizeText scaledWidth scaledHeight ++ ", scale=".toList ++ factor.fixed 4)
  return factor

/-- Covers the given share of a picture's height, from the top, in black. -/
def coverFile (imaging : Imaging) (path : Path) (share : Scalar) : Routine Disk Unit := do
  let content ← Disk.readContent path
  let height ← ofLibrary (imaging.height path content.toOctets)
  let rows ← ofNumber (rowsOf share height)
  save path (← ofLibrary (imaging.cover path content.toOctets rows))

/-- The content of a file as it is sent; nothing if there is no file or it cannot be read. -/
def encodeFile (path : Path) : Routine Disk (Option EncodedImage) := do
  if ← Disk.checkExists path then do
    let refusal (fault : Fault) : Option Fault := if fault.isStorage then some fault else none
    match ← (Disk.readContent path).attempt refusal with
    | .ok content => return some (.file content)
    | .error fault => do
      Routine.say .error ("图片编码失败: ".toList ++ path.toText ++ ": ".toList ++ fault.message)
      return none
  else do
    Routine.say .error ("图片文件不存在: ".toList ++ path.toText)
    return none

end ScreenScript.Picture
