import AviPlayback.Bytes
import AviPlayback.Fault
import AviPlayback.Frame.FrameLayout

/-!
Pictures: four bytes a pixel, red, green, blue and alpha, top row first, without padding. The
number of rows and the length of a row are part of the type. A picture without width has no rows to
store, and the rows of a blank picture are one and the same row, so a large one costs little.
`row?_eq_readAt` ties the rows to the bytes in row order.
-/
set_option autoImplicit false

namespace AviPlayback

/-- Number of rows of a picture that have bytes. -/
def storedRows (width height : Nat) : Nat := if width = 0 then 0 else height

structure PixelBuffer where
  width : Nat
  height : Nat
  rows : Vector (Vector UInt8 (4 * width)) (storedRows width height)
  deriving DecidableEq

namespace PixelBuffer

def bytesPerPixel : Nat := 4

def stride (b : PixelBuffer) : Nat := 4 * b.width

def size (b : PixelBuffer) : Nat := b.height * b.stride

def bytes (b : PixelBuffer) : Bytes := b.rows.flatten.toArray

@[simp] theorem size_bytes (b : PixelBuffer) : b.bytes.size = b.size := by
  by_cases hw : b.width = 0 <;> simp [bytes, size, stride, storedRows, hw]

/-- Rows of zero bytes. Where there is no row, none is made. -/
def blankRows (length : Nat) : (count : Nat) → Vector (Vector UInt8 length) count
  | 0 => #v[]
  | count + 1 => Vector.replicate (count + 1) (Vector.replicate length 0)

def blank (width height : Nat) : PixelBuffer := ⟨width, height, blankRows _ _⟩

/-- The picture whose bytes in row order are given by their places. -/
def ofPlaces (width height : Nat) (f : Nat → UInt8) : PixelBuffer :=
  ⟨width, height, Vector.ofFn fun y => Vector.ofFn fun k => f (y * (4 * width) + k)⟩

/-- A picture of zero bytes. Too many bytes to be addressed are refused; more than one buffer can
have are not, and cause a panic. -/
def tryNew (width height : Nat) : Except PictureFault PixelBuffer :=
  if addressSpace ≤ width * height * 4 then .error (.tooLarge width height)
  else if bufferLimit ≤ width * height * 4 then .error .unallocatable
  else .ok (blank width height)

/-- The bytes of a row, when they lie inside the picture. Every row without bytes does. -/
def row? (b : PixelBuffer) (y : Nat) : Option (List UInt8) :=
  if b.width = 0 then some [] else b.rows[y]?.map Vector.toList

def row (b : PixelBuffer) (y : Nat) : List UInt8 := (b.row? y).getD []

/-- The four bytes of the pixel in column `x` of row `y`, when they lie inside the picture. A
column past the end of a row counts on into the next row. -/
def pixel? (b : PixelBuffer) (x y : Nat) : Option (List UInt8) :=
  let i := y * b.width + x
  if b.width = 0 then none
  else (b.row? (i / b.width)).map fun row =>
    (row.drop (bytesPerPixel * (i % b.width))).take bytesPerPixel

/-- Overwrites a row by as many bytes, when it lies inside the picture. -/
def setRow? (b : PixelBuffer) (y : Nat) (row : List UInt8) : Option PixelBuffer :=
  if hrow : row.length = 4 * b.width then
    if hy : y < storedRows b.width b.height then
      some { b with rows := b.rows.set y ⟨row.toArray, by simpa⟩ hy }
    else if b.width = 0 then some b
    else none
  else none

theorem row?_eq_some {b : PixelBuffer} {y : Nat} (h : y < storedRows b.width b.height) :
    b.row? y = some (b.rows[y]).toList := by
  have hw : b.width ≠ 0 := fun hw => by simp [storedRows, hw] at h
  simp [row?, hw, h]

/-- The bytes between two rows of the picture are its rows. -/
theorem extract_bytes {b : PixelBuffer} {y : Nat} (h : y < storedRows b.width b.height) :
    (b.bytes.extract (y * b.stride) (y * b.stride + b.stride)).toList = (b.rows[y]).toList := by
  have hheight : y < b.height := by
    unfold storedRows at h
    split at h <;> omega
  have hle : (y + 1) * b.stride ≤ b.height * b.stride := Nat.mul_le_mul_right _ hheight
  rw [Nat.succ_mul] at hle
  have hsize : b.bytes.size = b.height * b.stride := b.size_bytes
  apply List.ext_getElem
  · simp only [Array.length_toList, Array.size_extract, Vector.length_toList, hsize]
    unfold stride at *
    omega
  · intro i hi hrow
    have hi' : i < 4 * b.width := by simpa using hrow
    have hpos : 0 < 4 * b.width := by omega
    have hdiv : (y * (4 * b.width) + i) / (4 * b.width) = y := by
      rw [Nat.mul_comm, Nat.mul_add_div hpos, Nat.div_eq_of_lt hi', Nat.add_zero]
    have hmod : (y * (4 * b.width) + i) % (4 * b.width) = i := by
      rw [Nat.mul_comm, Nat.mul_add_mod, Nat.mod_eq_of_lt hi']
    simp only [Array.getElem_toList, Array.getElem_extract, Vector.getElem_toList, bytes, stride,
      Vector.getElem_toArray, Vector.getElem_flatten, hdiv, hmod]

/-- A row lies inside the picture when its bytes do. -/
theorem row?_eq_readAt (b : PixelBuffer) (y : Nat) :
    b.row? y = readAt b.bytes (y * b.stride) b.stride := by
  by_cases hw : b.width = 0
  · simp [row?, readAt, hw, stride]
  · by_cases h : y < b.height
    · have hy : y < storedRows b.width b.height := by simpa [storedRows, hw] using h
      rw [row?_eq_some hy, readAt, extract_bytes hy]
      simp [stride]
    · have hle : b.height * b.stride ≤ y * b.stride := Nat.mul_le_mul_right _ (by omega)
      have hsize : b.bytes.size = b.height * b.stride := b.size_bytes
      have hstride : 0 < b.stride := by
        unfold stride
        omega
      have hrun : (b.bytes.extract (y * b.stride) (y * b.stride + b.stride)).toList.length
          ≠ b.stride := by
        rw [Array.length_toList, Array.size_extract, hsize]
        omega
      have hrows : b.rows[y]? = none := by
        rw [Vector.getElem?_eq_none_iff]
        unfold storedRows
        split <;> omega
      rw [readAt, if_neg hrun]
      simp [row?, hw, hrows]

end PixelBuffer

end AviPlayback
