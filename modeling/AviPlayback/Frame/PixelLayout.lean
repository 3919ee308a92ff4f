import AviPlayback.FourCc

/-!
How one pixel of a raw frame is stored.
-/
set_option autoImplicit false

namespace AviPlayback

inductive PixelLayout
  /-- Two bytes, five bits a channel. -/
  | rgb555
  /-- Two bytes, five, six and five bits. -/
  | rgb565
  /-- Three bytes: blue, green, red. -/
  | bgr24
  /-- Four bytes: blue, green, red, unused. -/
  | bgrx32
  /-- Uncompressed, of a depth that is not converted. -/
  | unsupported (bits : Nat)
  /-- Compressed with the given codec. -/
  | compressed (codec : FourCc)
  deriving DecidableEq, Repr, Inhabited

namespace PixelLayout

def bytesPerPixel? : PixelLayout → Option Nat
  | rgb555 | rgb565 => some 2
  | bgr24 => some 3
  | bgrx32 => some 4
  | unsupported _ | compressed _ => none

def isConvertible (p : PixelLayout) : Bool := p.bytesPerPixel?.isSome

def debug : PixelLayout → String
  | rgb555 => "Rgb555"
  | rgb565 => "Rgb565"
  | bgr24 => "Bgr24"
  | bgrx32 => "Bgrx32"
  | unsupported bits => "Unsupported \x7b bits: " ++ toString bits ++ " \x7d"
  | compressed codec => "Compressed(" ++ codec.debug ++ ")"

theorem bytesPerPixel?_pos {p : PixelLayout} {n : Nat} (h : p.bytesPerPixel? = some n) :
    0 < n ∧ n ≤ 4 := by
  cases p <;> simp [bytesPerPixel?] at h <;> omega

end PixelLayout

end AviPlayback
