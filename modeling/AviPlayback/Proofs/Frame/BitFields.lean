import AviPlayback.Proofs.Frame.Rows

/-!
Stored pixels as numbers. A layout that can be converted gives each color of a pixel a field of
bits, and converting a row takes every color from its field (`getElem?_convertRow`). A byte of a
picture then depends on the bits of its field and on no others (`honors_iff`).
-/
set_option autoImplicit false

namespace AviPlayback

/-- Shifting a number by whole bytes drops its first bytes. -/
theorem LittleEndian.toNat_shiftRight (bytes : List UInt8) (k : Nat) :
    toNat bytes >>> (8 * k) = toNat (bytes.drop k) := by
  induction k generalizing bytes with
  | zero => rfl
  | succ k ih =>
    cases bytes with
    | nil => simp [toNat]
    | cons b rest =>
      have hb := b.toNat_lt
      have hrest : toNat (b :: rest) >>> 8 = toNat rest := by
        rw [toNat, Nat.shiftRight_eq_div_pow]
        omega
      rw [List.drop_succ_cons, ← ih, ← hrest, ← Nat.shiftRight_add]
      congr 1
      omega

/-- A run of bits of a stored pixel. -/
structure BitField where
  shift : Nat
  width : Nat
  deriving DecidableEq, Repr

namespace BitField

def mask (f : BitField) : Nat := (1 <<< f.width - 1) <<< f.shift

def value (f : BitField) (v : Nat) : Nat := (v >>> f.shift) % 1 <<< f.width

/-- The number in the field as eight bits: its own bits, then the highest of them once more. -/
def widened (f : BitField) (v : Nat) : UInt8 :=
  UInt8.ofNat (f.value v <<< (8 - f.width) + f.value v >>> (2 * f.width - 8))

theorem testBit_mask (f : BitField) (i : Nat) :
    f.mask.testBit i = (decide (f.shift ≤ i) && decide (i - f.shift < f.width)) := by
  rw [mask, Nat.testBit_shiftLeft, Nat.one_shiftLeft, Nat.testBit_two_pow_sub_one]

theorem testBit_value (f : BitField) (v i : Nat) :
    (f.value v).testBit i = (decide (i < f.width) && v.testBit (f.shift + i)) := by
  rw [value, Nat.one_shiftLeft, Nat.testBit_mod_two_pow, Nat.testBit_shiftRight]

theorem value_lt (f : BitField) (v : Nat) : f.value v < 1 <<< f.width := by
  rw [value, Nat.one_shiftLeft]
  exact Nat.mod_lt _ (Nat.two_pow_pos _)

/-- The mask of a field inside `mask` lets the number in the field through. -/
theorem value_congr {f : BitField} {mask v w : Nat} (hmask : f.mask &&& mask = f.mask)
    (h : v &&& mask = w &&& mask) : f.value v = f.value w := by
  apply Nat.eq_of_testBit_eq
  intro i
  rw [testBit_value, testBit_value]
  by_cases hi : i < f.width
  · have hselected : mask.testBit (f.shift + i) = true := by
      have hbit := congrArg (·.testBit (f.shift + i)) hmask
      simpa [Nat.testBit_and, testBit_mask, hi] using hbit
    have hbit := congrArg (·.testBit (f.shift + i)) h
    simp only [Nat.testBit_and, hselected, Bool.and_true] at hbit
    rw [hbit]
  · simp [hi]

/-- Widening loses nothing. -/
theorem value_eq_of_widened_eq {f : BitField} (hwide : 4 ≤ f.width ∧ f.width ≤ 8) {v w : Nat}
    (h : f.widened v = f.widened w) : f.value v = f.value w := by
  have hrepeat : 2 ^ f.width = 2 ^ (8 - f.width) * 2 ^ (2 * f.width - 8) := by
    rw [← Nat.pow_add]
    congr 1
    omega
  have hbyte : 2 ^ f.width * 2 ^ (8 - f.width) = 256 := by
    rw [← Nat.pow_add, Nat.add_sub_cancel' hwide.2]
  have hback : ∀ u, (f.widened u).toNat / 2 ^ (8 - f.width) = f.value u := by
    intro u
    have hlt := f.value_lt u
    rw [Nat.one_shiftLeft] at hlt
    have hlow : f.value u / 2 ^ (2 * f.width - 8) < 2 ^ (8 - f.width) := by
      rwa [Nat.div_lt_iff_lt_mul (Nat.two_pow_pos _), ← hrepeat]
    have hfits : f.value u * 2 ^ (8 - f.width) + f.value u / 2 ^ (2 * f.width - 8) < 256 := by
      have hle : (f.value u + 1) * 2 ^ (8 - f.width) ≤ 2 ^ f.width * 2 ^ (8 - f.width) :=
        Nat.mul_le_mul_right _ hlt
      rw [hbyte, Nat.succ_mul] at hle
      omega
    rw [widened, Nat.shiftLeft_eq, Nat.shiftRight_eq_div_pow, UInt8.toNat_ofNat_of_lt' hfits,
      Nat.mul_comm, Nat.mul_add_div (Nat.two_pow_pos _), Nat.div_eq_of_lt hlow, Nat.add_zero]
  rw [← hback v, ← hback w, h]

/-- A field of eight bits is taken as it is. -/
theorem widened_of_byte {f : BitField} (hwidth : f.width = 8) {v : Nat} {byte : UInt8}
    (hbyte : v >>> f.shift % 256 = byte.toNat) : f.widened v = byte := by
  apply UInt8.toNat_inj.mp
  have hvalue : f.value v = byte.toNat := by
    rw [value, hwidth]
    exact hbyte
  have hlt := byte.toNat_lt
  simp [widened, hvalue, hwidth]
  omega

/-- A field that is one of the stored bytes. -/
theorem widened_stored {bytes : List UInt8} {k : Nat} {byte : UInt8} (h : bytes[k]? = some byte) :
    (⟨8 * k, 8⟩ : BitField).widened (LittleEndian.toNat bytes) = byte := by
  apply widened_of_byte rfl
  rw [LittleEndian.toNat_shiftRight]
  obtain ⟨hk, rfl⟩ := List.getElem?_eq_some_iff.mp h
  have hlt := bytes[k].toNat_lt
  rw [List.drop_eq_getElem_cons hk, LittleEndian.toNat]
  omega

end BitField

/-- A color of a pixel. -/
inductive Channel
  | red
  | green
  | blue
  deriving DecidableEq, Repr

namespace Channel

/-- The place of the color among the bytes of a pixel of a picture. -/
def place : Channel → Nat
  | red => 0
  | green => 1
  | blue => 2

end Channel

/-- The opaque pixel whose colors are fields of a number. -/
def Rgba.ofFields (fields : Channel → BitField) (v : Nat) : Rgba :=
  .opaqueOf ((fields .red).widened v) ((fields .green).widened v) ((fields .blue).widened v)

theorem Rgba.getElem?_toBytes_ofFields (fields : Channel → BitField) (v : Nat)
    (channel : Channel) :
    (ofFields fields v).toBytes[channel.place]? = some ((fields channel).widened v) := by
  cases channel <;> rfl

/-- Colors that are the first three of the stored bytes, blue before green before red. -/
theorem Rgba.ofFields_of_bytes {fields : Channel → BitField} (hred : fields .red = ⟨16, 8⟩)
    (hgreen : fields .green = ⟨8, 8⟩) (hblue : fields .blue = ⟨0, 8⟩) (b g r : UInt8)
    (l : List UInt8) :
    ofFields fields (LittleEndian.toNat (b :: g :: r :: l)) = .opaqueOf r g b := by
  have hr : (b :: g :: r :: l)[2]? = some r := rfl
  have hg : (b :: g :: r :: l)[1]? = some g := rfl
  have hb : (b :: g :: r :: l)[0]? = some b := rfl
  rw [ofFields, hred, hgreen, hblue, BitField.widened_stored (k := 2) hr,
    BitField.widened_stored (k := 1) hg, BitField.widened_stored (k := 0) hb]

namespace PixelLayout

/-- The fields of a pixel's colors, for the layouts that can be converted. -/
def fields? : PixelLayout → Option (Channel → BitField)
  | rgb565 => some fun
    | .red => ⟨11, 5⟩
    | .green => ⟨5, 6⟩
    | .blue => ⟨0, 5⟩
  | rgb555 => some fun
    | .red => ⟨10, 5⟩
    | .green => ⟨5, 5⟩
    | .blue => ⟨0, 5⟩
  | bgr24 | bgrx32 => some fun
    | .red => ⟨16, 8⟩
    | .green => ⟨8, 8⟩
    | .blue => ⟨0, 8⟩
  | unsupported _ | compressed _ => none

/-- A layout with fields takes a number of bytes, and the fields lie inside them. -/
theorem exists_bytesPerPixel {pixels : PixelLayout} {fields : Channel → BitField}
    (h : pixels.fields? = some fields) :
    ∃ n, pixels.bytesPerPixel? = some n ∧ ∀ channel, (4 ≤ (fields channel).width ∧
      (fields channel).width ≤ 8) ∧ (fields channel).shift + (fields channel).width ≤ 8 * n := by
  cases pixels with
  | rgb555 | rgb565 | bgr24 | bgrx32 =>
    cases h
    refine ⟨_, rfl, ?_⟩
    intro channel
    cases channel <;> decide
  | unsupported bits => cases h
  | compressed codec => cases h

theorem exists_fields {pixels : PixelLayout} {n : Nat} (h : pixels.bytesPerPixel? = some n) :
    ∃ fields, pixels.fields? = some fields := by
  cases pixels with
  | rgb555 | rgb565 | bgr24 | bgrx32 => exact ⟨_, rfl⟩
  | unsupported bits => cases h
  | compressed codec => cases h

end PixelLayout

/-- The number stored for the pixel in column `x` of a row of pixels of `n` bytes. -/
def storedPixel (n : Nat) (row : List UInt8) (x : Nat) : Nat :=
  LittleEndian.toNat ((row.drop (x * n)).take n)

theorem storedPixel_ofNat {n v : Nat} (hv : v < 1 <<< (8 * n)) :
    storedPixel n (LittleEndian.ofNat n v) 0 = v := by
  have hlength : (LittleEndian.ofNat n v).length ≤ n :=
    Nat.le_of_eq (LittleEndian.length_ofNat n v)
  rw [storedPixel, Nat.zero_mul, List.drop_zero, List.take_of_length_le hlength,
    LittleEndian.toNat_ofNat]
  apply Nat.mod_eq_of_lt
  rwa [Nat.pow_eq, show 256 = 2 ^ 8 from rfl, ← Nat.pow_mul, ← Nat.one_shiftLeft]

section

variable {pixels : PixelLayout} {n : Nat} {fields : Channel → BitField}

/-- A pixel is taken from its fields in the number that its bytes store. -/
theorem takePixel_eq (hbytes : pixels.bytesPerPixel? = some n)
    (hfields : pixels.fields? = some fields) {source : List UInt8} (hsource : n ≤ source.length) :
    pixels.takePixel source =
      some (.ofFields fields (LittleEndian.toNat (source.take n)), source.drop n) := by
  cases pixels with
  | rgb565 | rgb555 =>
    cases hbytes
    cases hfields
    rcases source with _ | ⟨lo, _ | ⟨hi, rest⟩⟩
    · simp at hsource
    · simp at hsource
    · simp [PixelLayout.takePixel, Rgba.ofFields, BitField.widened, BitField.value,
        LittleEndian.toNat, expand5, expand6, Nat.shiftLeft_eq, Nat.shiftRight_eq_div_pow]
  | bgr24 =>
    cases hbytes
    cases hfields
    rcases source with _ | ⟨b, _ | ⟨g, _ | ⟨r, rest⟩⟩⟩
    · simp at hsource
    · simp at hsource
    · simp at hsource
    · refine congrArg (fun pixel => some (pixel, rest)) (Eq.symm ?_)
      exact Rgba.ofFields_of_bytes rfl rfl rfl b g r []
  | bgrx32 =>
    cases hbytes
    cases hfields
    rcases source with _ | ⟨b, _ | ⟨g, _ | ⟨r, _ | ⟨x, rest⟩⟩⟩⟩
    · simp at hsource
    · simp at hsource
    · simp at hsource
    · simp at hsource
    · refine congrArg (fun pixel => some (pixel, rest)) (Eq.symm ?_)
      exact Rgba.ofFields_of_bytes rfl rfl rfl b g r [x]
  | unsupported bits => cases hbytes
  | compressed codec => cases hbytes

/-- A converted pixel has its colors from the pixel stored in its place. -/
theorem pixelAt_convertRow (hbytes : pixels.bytesPerPixel? = some n)
    (hfields : pixels.fields? = some fields) {width x : Nat} (hx : x < width)
    {source target : List UInt8} (hsource : (x + 1) * n ≤ source.length)
    (htarget : 4 * (x + 1) ≤ target.length) :
    pixelAt (convertRow pixels width source target) x =
      (Rgba.ofFields fields (storedPixel n source x)).toBytes := by
  induction width generalizing x source target with
  | zero => exact absurd hx (Nat.not_lt_zero x)
  | succ width ih =>
    have hfirst : n ≤ source.length :=
      Nat.le_trans (Nat.le_mul_of_pos_left n (Nat.succ_pos x)) hsource
    match target with
    | a :: b :: c :: d :: rest =>
      simp only [convertRow, takePixel_eq hbytes hfields hfirst]
      cases x with
      | zero => simp [pixelAt, storedPixel, Rgba.toBytes]
      | succ x =>
        rw [Nat.succ_mul] at hsource
        have hrest : storedPixel n source (x + 1) = storedPixel n (source.drop n) x := by
          rw [storedPixel, storedPixel, List.drop_drop, Nat.succ_mul, Nat.add_comm n]
        have hbehind : (x + 1) * n ≤ (source.drop n).length := by
          rw [List.length_drop]
          omega
        have htail : 4 * (x + 1) ≤ rest.length := by
          simp only [List.length_cons] at htarget
          omega
        have hstep := ih (by omega) hbehind htail
        rw [hrest, ← hstep]
        rfl

/-- Each color of a converted pixel is the number in its field of the stored pixel, widened. -/
theorem getElem?_convertRow (hbytes : pixels.bytesPerPixel? = some n)
    (hfields : pixels.fields? = some fields) {width x : Nat} (hx : x < width)
    {source target : List UInt8} (hsource : (x + 1) * n ≤ source.length)
    (htarget : 4 * (x + 1) ≤ target.length) (channel : Channel) :
    (convertRow pixels width source target)[4 * x + channel.place]? =
      some ((fields channel).widened (storedPixel n source x)) := by
  have hpixel :=
    congrArg (·[channel.place]?) (pixelAt_convertRow hbytes hfields hx hsource htarget)
  have hplace : channel.place < 4 := by cases channel <;> decide
  rwa [pixelAt, List.getElem?_take_of_lt hplace, List.getElem?_drop,
    Rgba.getElem?_toBytes_ofFields] at hpixel

end

/-- Rows whose pixels in some column agree on the bits of a mask get the same byte for a color
there. -/
def PixelLayout.Honors (pixels : PixelLayout) (channel : Channel) (mask : Nat) : Prop :=
  ∀ n, pixels.bytesPerPixel? = some n → ∀ (width x : Nat) (source other target : List UInt8),
    x < width → (x + 1) * n ≤ source.length → (x + 1) * n ≤ other.length →
    4 * (x + 1) ≤ target.length →
    storedPixel n source x &&& mask = storedPixel n other x &&& mask →
    (convertRow pixels width source target)[4 * x + channel.place]? =
      (convertRow pixels width other target)[4 * x + channel.place]?

/-- A bit of the field that the mask leaves out tells two pixels apart that the mask does not. -/
theorem PixelLayout.Honors.testBit {pixels : PixelLayout} {fields : Channel → BitField}
    (hfields : pixels.fields? = some fields) {channel : Channel} {mask : Nat}
    (hhonors : pixels.Honors channel mask) {i : Nat} (hi : (fields channel).mask.testBit i) :
    mask.testBit i = true := by
  obtain ⟨n, hbytes, hinside⟩ := exists_bytesPerPixel hfields
  obtain ⟨hwide, hfits⟩ := hinside channel
  rw [BitField.testBit_mask, Bool.and_eq_true, decide_eq_true_eq, decide_eq_true_eq] at hi
  cases hclear : mask.testBit i with
  | true => rfl
  | false =>
    have hzero : storedPixel n (LittleEndian.ofNat n 0) 0 = 0 :=
      storedPixel_ofNat (by rw [Nat.one_shiftLeft]; exact Nat.two_pow_pos _)
    have hbit : storedPixel n (LittleEndian.ofNat n (1 <<< i)) 0 = 1 <<< i := by
      apply storedPixel_ofNat
      rw [Nat.one_shiftLeft, Nat.one_shiftLeft]
      exact Nat.pow_lt_pow_right (by decide) (by omega)
    have hagree : (0 : Nat) &&& mask = 1 <<< i &&& mask := by
      apply Nat.eq_of_testBit_eq
      intro j
      rw [Nat.testBit_and, Nat.testBit_and, Nat.zero_testBit, Nat.one_shiftLeft,
        Nat.testBit_two_pow]
      by_cases hj : i = j
      · rw [← hj, hclear, Bool.and_false, Bool.and_false]
      · simp [hj]
    have hsame := hhonors n hbytes 1 0 (LittleEndian.ofNat n 0) (LittleEndian.ofNat n (1 <<< i))
      [0, 0, 0, 0] Nat.zero_lt_one (by simp) (by simp) (by simp) (by rw [hzero, hbit, hagree])
    rw [getElem?_convertRow hbytes hfields Nat.zero_lt_one (by simp) (by simp),
      getElem?_convertRow hbytes hfields Nat.zero_lt_one (by simp) (by simp), hzero, hbit] at hsame
    have hvalue := BitField.value_eq_of_widened_eq hwide (Option.some.inj hsame)
    have hdiffer := congrArg (·.testBit (i - (fields channel).shift)) hvalue
    simp [BitField.testBit_value, Nat.one_shiftLeft, hi] at hdiffer

/-- A mask is honored exactly when it selects every bit of the color's field. -/
theorem PixelLayout.honors_iff {pixels : PixelLayout} {fields : Channel → BitField}
    (hfields : pixels.fields? = some fields) (channel : Channel) (mask : Nat) :
    pixels.Honors channel mask ↔ (fields channel).mask &&& mask = (fields channel).mask := by
  constructor
  · intro hhonors
    apply Nat.eq_of_testBit_eq
    intro i
    rw [Nat.testBit_and]
    cases hi : (fields channel).mask.testBit i with
    | true => rw [hhonors.testBit hfields hi, Bool.and_true]
    | false => rw [Bool.false_and]
  · intro hselected n hbytes width x source other target hx hsource hother htarget hagree
    rw [getElem?_convertRow hbytes hfields hx hsource htarget,
      getElem?_convertRow hbytes hfields hx hother htarget, BitField.widened, BitField.widened,
      BitField.value_congr hselected hagree]

end AviPlayback
