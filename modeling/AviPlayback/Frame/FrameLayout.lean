import AviPlayback.Frame.PixelLayout

/-!
The geometry of raw frames. Rows are padded to whole groups of four bytes; a pitch or a frame
that does not fit the address space has no size.
-/
set_option autoImplicit false

namespace AviPlayback

/-- The number of bytes that can be addressed. -/
def addressSpace : Nat := UInt64.size

/-- One buffer has fewer bytes than this. -/
def bufferLimit : Nat := UInt64.size / 2

def addressable? (n : Nat) : Option Nat := if n < addressSpace then some n else none

/-- The geometry of a stream's raw frames. -/
structure FrameLayout where
  width : Nat
  height : Nat
  pixels : PixelLayout
  /-- The last row is stored first. -/
  bottomUp : Bool
  deriving DecidableEq, Repr, Inhabited

namespace FrameLayout

/-- The least multiple of four that is at least `n`. -/
def padToFour (n : Nat) : Nat := (n + 3) / 4 * 4

/-- Bytes from one stored row to the next, for layouts that can be converted. -/
def stride? (l : FrameLayout) : Option Nat := do
  let bytesPerPixel ← l.pixels.bytesPerPixel?
  let row ← addressable? (l.width * bytesPerPixel + 3)
  some (row / 4 * 4)

def frameBytes? (l : FrameLayout) : Option Nat := do
  addressable? ((← l.stride?) * l.height)

theorem le_padToFour (n : Nat) : n ≤ padToFour n ∧ padToFour n < n + 4 ∧ padToFour n % 4 = 0 := by
  unfold padToFour
  omega

end FrameLayout

end AviPlayback
