import AviPlayback.Frame.Texture
import AviPlayback.Proofs.Frame.Rows

/-!
Textures drawn. A crop rectangle whose rows and columns lie on the texture shows one row of it in
each row of the target, and the rectangle that shows frames upright shows them in upright order.
-/
set_option autoImplicit false

namespace AviPlayback

theorem CropRect.signed_of_lt {n : Nat} (h : n < UInt32.size / 2) : signed n = n := by
  unfold UInt32.size at h
  unfold signed UInt32.size
  rw [Int.bmod_def]
  omega

theorem CropRect.extent_ofLayout {l : FrameLayout} (hwidth : l.width < UInt32.size / 2)
    (hheight : l.height < UInt32.size / 2) : (ofLayout l).extent = (l.width, l.height) := by
  rw [extent, ofLayout]
  split <;> simp [flipped, full, signed_of_lt hwidth, signed_of_lt hheight]

/-- Row `y` of the target shows row `uprightRow y` of the frame. -/
theorem CropRect.source_ofLayout {l : FrameLayout} (hheight : l.height < UInt32.size / 2) {y : Nat}
    (hy : y < l.height) :
    source (ofLayout l).y (ofLayout l).height y = l.uprightRow y := by
  have hsigned := signed_of_lt hheight
  unfold ofLayout FrameLayout.uprightRow source
  split
  · simp only [flipped, hsigned]
    rw [if_pos (by omega)]
    omega
  · simp only [full, hsigned]
    rw [if_neg (by omega)]
    omega

namespace Texture

/-- Drawing succeeds when every row can be drawn, and then each row holds what was drawn in it. -/
theorem drawRows_eq_ok {t : Texture} (drawn : Nat → List UInt8) {left i : Nat}
    {target : PixelBuffer} (hheight : target.height = i + left)
    (haxis : ∀ y < target.height, onAxis (CropRect.source t.crop.y t.crop.height y) t.height)
    (hrow : ∀ y < target.height, ∀ out,
      t.drawRow (t.image.row (CropRect.source t.crop.y t.crop.height y).toNat) out =
        (.ok (), drawn y))
    (hlength : ∀ y < target.height, (drawn y).length = 4 * target.width) :
    ∃ picture, t.drawRows left i target = (.ok (), picture) ∧ picture.width = target.width ∧
      picture.height = target.height ∧
      ∀ y < target.height, picture.row y = if i ≤ y then drawn y else target.row y := by
  induction left generalizing i target with
  | zero =>
    refine ⟨target, rfl, rfl, rfl, fun y hy => ?_⟩
    rw [if_neg (by omega)]
  | succ left ih =>
    have hi : i < target.height := by omega
    obtain ⟨next, hset, hwidth, hnext, hrows⟩ :=
      PixelBuffer.setRow?_eq_some hi (hlength i hi)
    obtain ⟨picture, hpicture, hpw, hph, hdrawn⟩ :=
      ih (show next.height = i + 1 + left by omega) (by rwa [hnext]) (by rwa [hnext])
        (by rwa [hnext, hwidth])
    refine ⟨picture, ?_, hpw.trans hwidth, hph.trans hnext, fun y hy => ?_⟩
    · simp only [drawRows, if_pos (haxis i hi), hrow i hi, hset, Option.getD_some]
      exact hpicture
    · rw [hdrawn y (hnext ▸ hy), hrows y hy]
      -- row `i` was drawn now, the rows behind it later
      rcases Nat.lt_trichotomy y i with hlt | rfl | hgt
      · rw [if_neg (by omega), if_neg (by omega), if_neg (by omega)]
      · simp
      · rw [if_pos (by omega), if_pos (by omega)]

/-- A row is drawn as it is stored when the crop rectangle has all columns. -/
theorem drawRow_of_full {t : Texture} (hx : t.crop.x = 0) (hwidth : t.crop.width = t.width)
    {stored : List UInt8} (hstored : stored.length = 4 * t.width) (out : List UInt8) :
    t.drawRow stored out = (.ok (), stored) := by
  have haxis : onAxis 0 (t.width + 1) = true := by simp [onAxis]
  rw [drawRow, hx, hwidth, if_pos (by omega), haxis]
  simp [← hstored]

/-- A texture with the rectangle that shows its frames upright is drawn upright. -/
theorem draw_ofLayout {t : Texture} {layout : FrameLayout} {target : PixelBuffer}
    (hcrop : t.crop = .ofLayout layout) (htw : t.width = layout.width)
    (hth : t.height = layout.height) (hwidth : target.width = layout.width)
    (hheight : target.height = layout.height) (hwlt : layout.width < UInt32.size / 2)
    (hhlt : layout.height < UInt32.size / 2) :
    ∃ picture, t.draw target = (.ok (), picture) ∧ picture.width = layout.width ∧
      picture.height = layout.height ∧
      ∀ y < layout.height, picture.row y = t.image.row (layout.uprightRow y) := by
  have hcols : t.crop.x = 0 ∧ t.crop.width = t.width := by
    rw [hcrop, htw, CropRect.ofLayout]
    split <;> simp [CropRect.flipped, CropRect.full, CropRect.signed_of_lt hwlt]
  have hextent : t.crop.extent = (layout.width, layout.height) := by
    rw [hcrop, CropRect.extent_ofLayout hwlt hhlt]
  have hsource : ∀ y < target.height,
      CropRect.source t.crop.y t.crop.height y = layout.uprightRow y := fun y hy => by
    rw [hcrop, CropRect.source_ofLayout hhlt (hheight ▸ hy)]
  have hupright : ∀ y < target.height, layout.uprightRow y < t.image.height := fun y hy =>
    Nat.lt_of_lt_of_eq (FrameLayout.uprightRow_lt (hheight ▸ hy)) hth.symm
  obtain ⟨picture, hpicture, hpw, hph, hrows⟩ := drawRows_eq_ok (t := t)
    (fun y => t.image.row (layout.uprightRow y))
    (show target.height = 0 + layout.height by omega)
    (fun y hy => by
      have hlt : layout.uprightRow y < t.height := hupright y hy
      rw [hsource y hy]
      simp [onAxis, hlt])
    (fun y hy out => by
      rw [hsource y hy]
      exact drawRow_of_full hcols.1 hcols.2 (PixelBuffer.length_row (hupright y hy)) out)
    (fun y hy => by
      rw [PixelBuffer.length_row (hupright y hy), hwidth, ← htw]
      rfl)
  refine ⟨picture, ?_, hpw.trans hwidth, hph.trans hheight, fun y hy => ?_⟩
  · rw [draw, hextent]
    simp only [hwidth, hheight, ne_eq, not_true_eq_false, or_self, if_false]
    exact hpicture
  · rw [hrows y (hheight ▸ hy), if_pos (Nat.zero_le _)]

end Texture

end AviPlayback
