import AviPlayback.Frame.PixelBuffer

/-!
Raw frames as pictures. `takePixel` reads one stored pixel, `convertRow` a row of them, and
`convertFrame` a whole frame, turned upright.
-/
set_option autoImplicit false

namespace AviPlayback

/-- One pixel of a picture. -/
structure Rgba where
  red : UInt8
  green : UInt8
  blue : UInt8
  alpha : UInt8
  deriving DecidableEq, Repr

namespace Rgba

def toBytes (p : Rgba) : List UInt8 := [p.red, p.green, p.blue, p.alpha]

/-- An opaque pixel. -/
def opaqueOf (red green blue : UInt8) : Rgba := ⟨red, green, blue, 0xff⟩

end Rgba

/-- A five-bit channel as eight bits: the lowest five bits, then the highest three of them. -/
def expand5 (v : Nat) : UInt8 := UInt8.ofNat (v % 32 * 8 + v % 32 / 4)

/-- A six-bit channel as eight bits: the lowest six bits, then the highest two of them. -/
def expand6 (v : Nat) : UInt8 := UInt8.ofNat (v % 64 * 4 + v % 64 / 16)

namespace PixelLayout

/-- The pixel at the start of stored bytes, and the bytes after it. -/
def takePixel : PixelLayout → List UInt8 → Option (Rgba × List UInt8)
  | rgb565, lo :: hi :: rest =>
    let v := lo.toNat + 256 * hi.toNat
    some (.opaqueOf (expand5 (v / 2048)) (expand6 (v / 32)) (expand5 v), rest)
  | rgb555, lo :: hi :: rest =>
    let v := lo.toNat + 256 * hi.toNat
    some (.opaqueOf (expand5 (v / 1024)) (expand5 (v / 32)) (expand5 v), rest)
  | bgr24, b :: g :: r :: rest => some (.opaqueOf r g b, rest)
  | bgrx32, b :: g :: r :: _ :: rest => some (.opaqueOf r g b, rest)
  | _, _ => none

end PixelLayout

/-- Converts up to `width` pixels of a stored row over the front of a picture row. It stops where
either row has no whole pixel left, and keeps what is behind. -/
def convertRow (pixels : PixelLayout) : Nat → List UInt8 → List UInt8 → List UInt8
  | 0, _, target => target
  | width + 1, source, target =>
    match pixels.takePixel source, target with
    | some (pixel, source), _ :: _ :: _ :: _ :: target =>
      pixel.red :: pixel.green :: pixel.blue :: pixel.alpha :: convertRow pixels width source target
    | _, target => target

@[simp] theorem length_convertRow (pixels : PixelLayout) (width : Nat)
    (source target : List UInt8) :
    (convertRow pixels width source target).length = target.length := by
  induction width generalizing source target with
  | zero => rfl
  | succ width ih =>
    unfold convertRow
    split <;> simp_all

/-- The pitch of a frame that can be converted, or what is wrong with it. -/
def checkFrame (layout : FrameLayout) (source : Bytes) : Except PictureFault Nat :=
  match layout.stride?, layout.frameBytes? with
  | some stride, some needed =>
    if stride = 0 ∨ needed = 0 then .error (.emptyFrame layout.width layout.height)
    else if source.size < needed then .error (.shortFrame source.size needed)
    else .ok stride
  | _, _ => .error (.notConvertible layout.pixels)

def storedRow (source : Bytes) (stride y : Nat) : List UInt8 :=
  (source.extract (y * stride) (y * stride + stride)).toList

/-- The picture whose row `y` is that of `target` with the stored row `order y` converted over
it. -/
def convertRows (pixels : PixelLayout) (source : Bytes) (stride : Nat) (order : Nat → Nat)
    (target : PixelBuffer) : PixelBuffer :=
  { target with
    rows := target.rows.mapIdx fun y row =>
      let stored := storedRow source stride (order y)
      ⟨(convertRow pixels target.width stored row.toList).toArray, by simp⟩ }

/-- The stored row that shows at height `y` of the upright picture. -/
def FrameLayout.uprightRow (layout : FrameLayout) (y : Nat) : Nat :=
  if layout.bottomUp then layout.height - 1 - y else y

/-- Converts a whole frame into a picture of the same size. A frame that cannot be converted
leaves the picture as it was. -/
def convertFrame (layout : FrameLayout) (source : Bytes) (target : PixelBuffer) :
    Except PictureFault PixelBuffer :=
  if target.width ≠ layout.width ∨ target.height ≠ layout.height then
    .error (.bufferMismatch target.width target.height layout.width layout.height)
  else do
    let stride ← checkFrame layout source
    pure (convertRows layout.pixels source stride layout.uprightRow target)

end AviPlayback
