import AviPlayback.Frame.Convert
import AviPlayback.Frame.CropRect

/-!
Textures: frames are uploaded row for row as they are stored, and drawn through a crop rectangle
that decides their orientation.
-/
set_option autoImplicit false

namespace AviPlayback

/-- A picture in stored order with the rectangle that is drawn from it. -/
structure Texture where
  image : PixelBuffer
  crop : CropRect
  deriving DecidableEq

namespace Texture

/-- A blank texture, drawn uncropped. -/
def tryNew (width height : Nat) : Except PictureFault Texture :=
  (PixelBuffer.tryNew width height).map fun image => ⟨image, .full width height⟩

def width (t : Texture) : Nat := t.image.width

def height (t : Texture) : Nat := t.image.height

/-- Replaces the stored picture by a frame, rows in stored order. -/
def upload (t : Texture) (layout : FrameLayout) (source : Bytes) : Except PlayerFault Texture :=
  if layout.width ≠ t.width ∨ layout.height ≠ t.height then
    .error (.renderer (.uploadMismatch t.width t.height layout.width layout.height))
  else match checkFrame layout source with
    | .error fault => .error (.picture fault)
    | .ok stride => .ok { t with image := convertRows layout.pixels source stride id t.image }

/-- Whether a coordinate lies on an axis of the given length. -/
def onAxis (v : Int) (length : Nat) : Bool := 0 ≤ v && v < length

/-- Draws the columns from the `j`-th on, walking backwards from column `x`. -/
def drawColumns (stored : List UInt8) (x : Int) (width : Nat) :
    Nat → List UInt8 → Except RendererFault Unit × List UInt8
  | j, a :: b :: c :: d :: rest =>
    let column := CropRect.source x (-1) j
    if onAxis column width then
      let pixel := (stored.drop (4 * column.toNat)).take 4
      let (result, rest) := drawColumns stored x width (j + 1) rest
      (result, pixel ++ rest)
    else (.error (.columnOutside column), a :: b :: c :: d :: rest)
  | _, rest => (.ok (), rest)

/-- Draws one stored row through the columns of the crop rectangle. -/
def drawRow (t : Texture) (stored out : List UInt8) : Except RendererFault Unit × List UInt8 :=
  if 0 ≤ t.crop.width then
    if onAxis t.crop.x (t.width + 1) && t.crop.x + t.crop.width ≤ t.width then
      (.ok (), (stored.drop (4 * t.crop.x.toNat)).take (4 * t.crop.width.toNat))
    else (.error .columnsOutside, out)
  else drawColumns stored t.crop.x t.width 0 out

/-- Draws the next rows of a picture, from row `i` on; the first one that cannot be drawn ends the
drawing. -/
def drawRows (t : Texture) : Nat → Nat → PixelBuffer → Except RendererFault Unit × PixelBuffer
  | 0, _, target => (.ok (), target)
  | left + 1, i, target =>
    let row := CropRect.source t.crop.y t.crop.height i
    if onAxis row t.height then
      let (result, drawn) := t.drawRow (t.image.row row.toNat) (target.row i)
      let target := (target.setRow? i drawn).getD target
      match result with
      | .ok _ => t.drawRows left (i + 1) target
      | .error fault => (.error fault, target)
    else (.error (.rowOutside row), target)

/-- Draws the crop rectangle over a picture of its extent. When drawing fails, the rows before the
failing one have been drawn. -/
def draw (t : Texture) (target : PixelBuffer) : Except RendererFault Unit × PixelBuffer :=
  let (w, h) := t.crop.extent
  if target.width ≠ w ∨ target.height ≠ h then
    (.error (.targetMismatch target.width target.height w h), target)
  else t.drawRows h 0 target

end Texture

end AviPlayback
