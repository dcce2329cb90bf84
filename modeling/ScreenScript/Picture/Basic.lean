import ScreenScript.Number.Scalar
import ScreenScript.Text.Utf8

/-!
# Pictures

A picture is a list of rows of equal width. Screenshots are mostly of one colour over wide stretches,
so a row of one colour is written as that colour. Pixels are lists of channel values.

* `Picture.resize` — the picture in another size, in red, green, blue and opacity
* `Picture.cover` — the picture with its uppermost rows black
-/

namespace ScreenScript

/-- The channels of a pixel. -/
inductive PixelMode
  /-- grey -/
  | grey
  /-- grey and opacity -/
  | greyAlpha
  /-- red, green and blue -/
  | rgb
  /-- red, green, blue and opacity -/
  | rgba
  deriving DecidableEq, Repr, Inhabited

namespace PixelMode

/-- The number of channels. -/
def channels : PixelMode → Nat
  | grey => 1
  | greyAlpha => 2
  | rgb => 3
  | rgba => 4

end PixelMode

/-- A pixel: one value per channel. -/
abbrev Pixel := List UInt8

namespace Pixel

/-- Full opacity, the greatest value of a channel. -/
def fullOpacity : UInt8 := 255

/-- The black pixel. -/
def black : PixelMode → Pixel
  | .grey => [0]
  | .greyAlpha => [0, fullOpacity]
  | .rgb => [0, 0, 0]
  | .rgba => [0, 0, 0, fullOpacity]

/-- The pixel in red, green, blue and opacity. -/
def toRgba : Pixel → Pixel
  | [v] => [v, v, v, fullOpacity]
  | [v, a] => [v, v, v, a]
  | [r, g, b] => [r, g, b, fullOpacity]
  | pixel => pixel

/-- A channel of a pixel with opacity `a` after it was multiplied with the opacity and divided by it
again, as scaling a picture does it. -/
def throughOpacity (a c : UInt8) : UInt8 :=
  let t := c.toNat * a.toNat + 128
  let p := (t + t / 256) / 256
  if a = 0 || a = 255 then UInt8.ofNat p else UInt8.ofNat (min 255 (255 * p / a.toNat))

/-- The colour that a pixel of red, green, blue and opacity has after scaling. -/
def scaled : Pixel → Pixel
  | [r, g, b, a] => [throughOpacity a r, throughOpacity a g, throughOpacity a b, a]
  | pixel => pixel

end Pixel

/-- A row of a picture. -/
inductive Row
  /-- every pixel is the same -/
  | solid (pixel : Pixel)
  /-- the pixels, from left to right -/
  | mixed (pixels : List Pixel)
  deriving DecidableEq, Repr, Inhabited

namespace Row

/-- The row of some pixels. -/
def ofPixels : List Pixel → Row
  | [] => mixed []
  | first :: rest => if rest.all (· = first) then solid first else mixed (first :: rest)

/-- The row with a function on every pixel. -/
def map (f : Pixel → Pixel) : Row → Row
  | solid pixel => solid (f pixel)
  | mixed pixels => ofPixels (pixels.map f)

/-- The pixels of a row of the given width. -/
def toPixels (width : Nat) : Row → List Pixel
  | solid pixel => List.replicate width pixel
  | mixed pixels => pixels

/-- The pixel at a place, if there is one. -/
def at? (place : Nat) : Row → Option Pixel
  | solid pixel => some pixel
  | mixed pixels => pixels[place]?

/-- The row in another width, each pixel taken from the place that corresponds to it. -/
def stretch (width newWidth : Nat) (row : Row) : Row :=
  match row with
  | solid pixel => solid pixel
  | row => ofPixels ((List.range newWidth).filterMap fun x => row.at? (x * width / newWidth))

end Row

/-- A picture. -/
structure Picture where
  /-- the channels of its pixels -/
  mode : PixelMode
  /-- the number of pixels of a row -/
  width : Nat
  /-- the rows, from top to bottom -/
  rows : List Row
  deriving DecidableEq, Repr, Inhabited

namespace Picture

/-- The number of rows. -/
def height (picture : Picture) : Nat := picture.rows.length

/-- The picture with a function on every pixel and other channels. -/
def map (mode : PixelMode) (f : Pixel → Pixel) (picture : Picture) : Picture :=
  { picture with mode, rows := picture.rows.map (·.map f) }

/-- The picture in red, green, blue and opacity. -/
def toRgba (picture : Picture) : Picture := picture.map .rgba Pixel.toRgba

/-- The picture in another size: in red, green, blue and opacity, and each pixel taken from the place
that corresponds to it. A picture that has the size already keeps its colours exactly. -/
def resize (width height : Nat) (picture : Picture) : Picture :=
  if picture.width = width && picture.height = height then
    picture.toRgba
  else
    let source := picture.toRgba.map .rgba Pixel.scaled
    let rows := (List.range height).filterMap fun y => source.rows[y * picture.height / height]?
    { mode := .rgba, width, rows := rows.map (·.stretch picture.width width) }

/-- The picture with its uppermost rows black, so many of them as there are up to `count`. -/
def cover (count : Nat) (picture : Picture) : Picture :=
  { picture with
    rows := List.replicate (min count picture.height) (.solid (.black picture.mode)) ++
      picture.rows.drop count }

/-- The picture of one colour. -/
def uniform (mode : PixelMode) (width height : Nat) (pixel : Pixel) : Picture :=
  ⟨mode, width, List.replicate height (.solid pixel)⟩

/-! ## Small laws -/

@[simp] theorem height_toRgba (picture : Picture) : picture.toRgba.height = picture.height := by
  simp [toRgba, map, height]

@[simp] theorem height_cover (count : Nat) (picture : Picture) :
    (picture.cover count).height = picture.height := by
  simp only [cover, height, List.length_append, List.length_replicate, List.length_drop]
  omega

end Picture

end ScreenScript
