import AviPlayback.Frame.FrameLayout

/-!
The part of a texture that is drawn. A negative extent walks its axis backwards from the edge at
`x` or `y`, which is how bottom-up frames are shown upright.
-/
set_option autoImplicit false

namespace AviPlayback

/-- A rectangle of a texture, possibly mirrored. -/
structure CropRect where
  x : Int
  y : Int
  width : Int
  height : Int
  deriving DecidableEq, Repr

namespace CropRect

/-- A 32-bit size read as a signed number. -/
def signed (n : Nat) : Int := Int.bmod n UInt32.size

def full (width height : Nat) : CropRect := ⟨0, 0, signed width, signed height⟩

/-- The whole texture, last row first. -/
def flipped (width height : Nat) : CropRect :=
  ⟨0, signed height, signed width, -signed height⟩

/-- The rectangle that shows a frame upright. -/
def ofLayout (l : FrameLayout) : CropRect :=
  if l.bottomUp then flipped l.width l.height else full l.width l.height

/-- The width and height of the drawn picture. -/
def extent (r : CropRect) : Nat × Nat := (r.width.natAbs, r.height.natAbs)

/-- The coordinate that the `i`-th drawn one is taken from, along one axis. -/
def source (origin extent : Int) (i : Nat) : Int :=
  if extent < 0 then origin - 1 - i else origin + i

end CropRect

end AviPlayback
