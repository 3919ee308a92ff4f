import AviPlayback.Proofs.Frame.BitFields
import AviPlayback.Container.Header

/-!
Color masks of a picture format. Every format with masks and 16 or 32 bits a pixel is converted, by
a layout that the green mask alone decides, so a mask is honored exactly when it selects the whole
field that this layout has for its color (`BitmapInfo.honors_masks_iff`).
-/
set_option autoImplicit false

namespace AviPlayback.BitmapInfo

open LittleEndian

def maskOf (masks : UInt32 × UInt32 × UInt32) : Channel → UInt32
  | .red => masks.1
  | .green => masks.2.1
  | .blue => masks.2.2

/-- No two colors share a bit. -/
def DisjointMasks (masks : UInt32 × UInt32 × UInt32) : Prop :=
  ∀ a b, a ≠ b → maskOf masks a &&& maskOf masks b = 0

def masksOf (payload : List UInt8) : UInt32 × UInt32 × UInt32 :=
  (uint32At payload 40, uint32At payload 44, uint32At payload 48)

/-- A payload that says how 16 or 32 bits hold the colors of a pixel. -/
structure HasMasks (payload : List UInt8) : Prop where
  length_le : minLength + masksLength ≤ payload.length
  compression_eq : uint32At payload 16 = bitFields
  bitCount_eq : uint16At payload 14 = 16 ∨ uint16At payload 14 = 32

/-- The layout that is taken for such a payload. -/
def layoutOfMasks (payload : List UInt8) : PixelLayout :=
  if uint16At payload 14 = 32 then .bgrx32
  else if uint32At payload 44 = greenOf565 then .rgb565
  else .rgb555

theorem HasMasks.parse_eq {payload : List UInt8} (h : HasMasks payload) :
    ∃ format, parse payload = .ok format ∧ format.masks = some (masksOf payload) ∧
      format.pixelLayout = layoutOfMasks payload := by
  have hlong : ¬ payload.length < minLength := by
    have := h.length_le
    omega
  have hmasks : parseMasks payload = some (masksOf payload) :=
    if_pos ⟨h.compression_eq, h.length_le⟩
  refine ⟨_, if_neg hlong, hmasks, ?_⟩
  have hplain : bitFields ≠ plain := by decide
  simp only [pixelLayout, layoutOfMasks, hmasks, h.compression_eq, if_neg hplain]
  rcases h.bitCount_eq with hbits | hbits
  · simp only [hbits, masksOf]
    rfl
  · simp [hbits]

theorem exists_fields_layoutOfMasks (payload : List UInt8) :
    ∃ fields, (layoutOfMasks payload).fields? = some fields := by
  unfold layoutOfMasks
  split
  · exact ⟨_, rfl⟩
  · split <;> exact ⟨_, rfl⟩

/-- A format with masks, 16 or 32 bits a pixel, is always reported as convertible. Converted rows
take a color from the bits of its own mask exactly when the mask selects every bit of the color's
field in the layout that the green mask decides. -/
theorem honors_masks_iff {payload : List UInt8} (h : HasMasks payload) :
    ∃ format fields, parse payload = .ok format ∧ format.masks = some (masksOf payload) ∧
      format.pixelLayout = layoutOfMasks payload ∧ format.pixelLayout.isConvertible ∧
      format.pixelLayout.fields? = some fields ∧
      ∀ channel, format.pixelLayout.Honors channel (maskOf (masksOf payload) channel).toNat ↔
        (fields channel).mask &&& (maskOf (masksOf payload) channel).toNat =
          (fields channel).mask := by
  obtain ⟨format, hparse, hmasks, hlayout⟩ := h.parse_eq
  obtain ⟨fields, hfields⟩ := exists_fields_layoutOfMasks payload
  rw [← hlayout] at hfields
  obtain ⟨n, hbytes, _⟩ := PixelLayout.exists_bytesPerPixel hfields
  refine ⟨format, fields, hparse, hmasks, hlayout, ?_, hfields, ?_⟩
  · rw [PixelLayout.isConvertible, hbytes]
    rfl
  · intro channel
    exact PixelLayout.honors_iff hfields channel _

/-- A payload of 16 bits a pixel with the given masks. -/
def sixteenBits (red green blue : UInt32) : List UInt8 :=
  List.replicate 14 0 ++ ofUInt16 16 ++ ofUInt32 bitFields ++ List.replicate 20 0 ++
    encodeMasks (some (red, green, blue))

/-- The usual masks of five, six and five bits are honored. -/
theorem honors_masks_565 :
    HasMasks (sixteenBits 0xf800 0x07e0 0x001f) ∧
    ∃ format, parse (sixteenBits 0xf800 0x07e0 0x001f) = .ok format ∧
      ∀ channel, format.pixelLayout.Honors channel
        (maskOf (0xf800, 0x07e0, 0x001f) channel).toNat := by
  have hmasks : HasMasks (sixteenBits 0xf800 0x07e0 0x001f) := ⟨by decide, by decide, by decide⟩
  obtain ⟨format, fields, hparse, _, hlayout, _, hfields, hiff⟩ := honors_masks_iff hmasks
  have hfields' : fields = _ := Option.some.inj (hfields.symm.trans (by rw [hlayout]; rfl))
  refine ⟨hmasks, format, hparse, ?_⟩
  intro channel
  refine (hiff channel).mpr ?_
  rw [hfields']
  cases channel <;> decide

/-- Masks that name the lowest five bits red: they are disjoint and the format is reported as
convertible, but red is taken from the highest five bits. -/
theorem masks_not_honored :
    HasMasks (sixteenBits 0x001f 0x07e0 0xf800) ∧
    DisjointMasks (masksOf (sixteenBits 0x001f 0x07e0 0xf800)) ∧
    ∃ format, parse (sixteenBits 0x001f 0x07e0 0xf800) = .ok format ∧
      format.pixelLayout.isConvertible ∧
      storedPixel 2 [0x00, 0x00] 0 &&& 0x001f = storedPixel 2 [0x00, 0xf8] 0 &&& 0x001f ∧
      convertRow format.pixelLayout 1 [0x00, 0x00] [0, 0, 0, 0] = [0x00, 0, 0, 0xff] ∧
      convertRow format.pixelLayout 1 [0x00, 0xf8] [0, 0, 0, 0] = [0xff, 0, 0, 0xff] := by
  refine ⟨⟨by decide, by decide, by decide⟩, ?_, _, rfl, by decide, by decide, by decide, by decide⟩
  intro a b hne
  cases a <;> cases b <;> first | exact absurd rfl hne | decide

end AviPlayback.BitmapInfo
