import AviPlayback.Proofs.Frame.BitFields

/-!
Whole frames as pictures. A frame is converted exactly when it has pixels, all of its bytes and the
size of the picture, and then every pixel of the picture is the one stored for its place
(`convertFrame_pixels`). Converting in place, one stored row after another, gives the same picture,
and a refused frame is refused before the first row is written (`FrameLayout.overwrite_eq`).
-/
set_option autoImplicit false

namespace AviPlayback

open FrameLayout (padToFour)

namespace FrameLayout

variable {layout : FrameLayout}

/-- Turning rows upright twice leaves them where they were. -/
theorem uprightRow_uprightRow {y : Nat} (hy : y < layout.height) :
    layout.uprightRow (layout.uprightRow y) = y := by
  unfold uprightRow
  split <;> omega

/-- Converts the next stored rows of a frame, from row `i` on, each over the row of the picture that
shows it. A row outside the picture would be a panic. -/
def overwriteRows (layout : FrameLayout) (source : Bytes) (stride : Nat) :
    Nat → Nat → PixelBuffer → Option PixelBuffer
  | 0, _, target => some target
  | left + 1, i, target => do
    let row ← target.row? (layout.uprightRow i)
    let drawn := convertRow layout.pixels layout.width (storedRow source stride i) row
    let target ← target.setRow? (layout.uprightRow i) drawn
    layout.overwriteRows source stride left (i + 1) target

/-- Converts a frame in place, as many whole rows as it has and the picture can show. Gives the
outcome and the picture afterwards, and nothing for a panic. -/
def overwrite (layout : FrameLayout) (source : Bytes) (target : PixelBuffer) :
    Option (Except PictureFault Unit × PixelBuffer) :=
  if target.width ≠ layout.width ∨ target.height ≠ layout.height then
    some (.error (.bufferMismatch target.width target.height layout.width layout.height), target)
  else match checkFrame layout source with
    | .error fault => some (.error fault, target)
    | .ok stride =>
      (layout.overwriteRows source stride (min (source.size / stride) layout.height) 0 target).map
        fun picture => (.ok (), picture)

/-- After the rows from `i` on, their places hold them, and the other rows what they held. -/
theorem overwriteRows_eq_some (source : Bytes) (stride : Nat) {left i : Nat}
    {target : PixelBuffer} (hwidth : target.width = layout.width)
    (hheight : target.height = layout.height) (hleft : i + left = layout.height) :
    ∃ picture, layout.overwriteRows source stride left i target = some picture ∧
      picture.width = layout.width ∧ picture.height = layout.height ∧
      ∀ y < layout.height, picture.row y = if i ≤ layout.uprightRow y then
        convertRow layout.pixels layout.width (storedRow source stride (layout.uprightRow y))
          (target.row y) else target.row y := by
  induction left generalizing i target with
  | zero =>
    refine ⟨target, rfl, hwidth, hheight, ?_⟩
    intro y hy
    have hlt := uprightRow_lt hy
    rw [if_neg (by omega)]
  | succ left ih =>
    have hi : i < layout.height := by omega
    have hplace : layout.uprightRow i < target.height := hheight ▸ uprightRow_lt hi
    have hrow := PixelBuffer.row?_of_lt hplace
    have hlength : (convertRow layout.pixels layout.width (storedRow source stride i)
        (target.row (layout.uprightRow i))).length = 4 * target.width := by
      rw [length_convertRow, PixelBuffer.length_row hplace]
    obtain ⟨next, hset, hnextWidth, hnextHeight, hrows⟩ :=
      PixelBuffer.setRow?_eq_some hplace hlength
    obtain ⟨picture, hpicture, hpw, hph, hdrawn⟩ := ih (i := i + 1)
      (hnextWidth.trans hwidth) (hnextHeight.trans hheight) (by omega)
    refine ⟨picture, ?_, hpw, hph, ?_⟩
    · simp only [overwriteRows, hrow, hset, Option.bind_eq_bind, Option.bind_some]
      exact hpicture
    · intro y hy
      rw [hdrawn y hy, hrows y (hheight ▸ hy)]
      have hback := uprightRow_uprightRow hy
      by_cases hnow : layout.uprightRow y = i
      · have hy' : y = layout.uprightRow i := by rw [← hnow, hback]
        rw [if_neg (by omega), if_pos hy', if_pos (by omega), hnow, ← hy']
      · have hy' : y ≠ layout.uprightRow i := by
          rintro rfl
          exact hnow (uprightRow_uprightRow hi)
        rw [if_neg hy']
        by_cases hlater : i + 1 ≤ layout.uprightRow y
        · rw [if_pos hlater, if_pos (by omega)]
        · rw [if_neg hlater, if_neg (by omega)]

/-- Converting in place never panics. It gives the converted picture, and leaves the picture as it
was when the frame is refused. -/
theorem overwrite_eq (layout : FrameLayout) (source : Bytes) (target : PixelBuffer) :
    layout.overwrite source target = some (match convertFrame layout source target with
      | .ok picture => (.ok (), picture)
      | .error fault => (.error fault, target)) := by
  unfold overwrite convertFrame
  split
  · rfl
  next hsizes =>
  cases hcheck : checkFrame layout source with
  | error fault => rfl
  | ok stride =>
    obtain ⟨hwidth, hheight⟩ : target.width = layout.width ∧ target.height = layout.height := by
      simpa using hsizes
    obtain ⟨hw, _, n, hn, hpad, _, hsource⟩ := checkFrame_eq_ok_iff.mp hcheck
    have hround := le_padToFour (layout.width * n)
    have hrow : 0 < layout.width * n := Nat.mul_pos hw (PixelLayout.bytesPerPixel?_pos hn).1
    have hall : min (source.size / stride) layout.height = layout.height := by
      have hstride : 0 < stride := by omega
      exact Nat.min_eq_right ((Nat.le_div_iff_mul_le hstride).mpr hsource)
    obtain ⟨picture, hpicture, hpw, hph, hrows⟩ :=
      overwriteRows_eq_some source stride hwidth hheight (Nat.zero_add layout.height)
    have hsame : picture =
        convertRows layout.pixels source stride layout.uprightRow target := by
      refine PixelBuffer.ext_row (hpw.trans hwidth.symm) (hph.trans hheight.symm) ?_
      intro y hy
      have hy' : y < layout.height := hph ▸ hy
      rw [hrows y hy', if_pos (Nat.zero_le _), row_convertRows _ _ _ _ (hheight ▸ hy'), hwidth]
    dsimp only
    rw [hall, hpicture, hsame]
    rfl

/-- The number stored for the pixel in column `x` of stored row `y` of a frame. -/
def storedAt (layout : FrameLayout) (n : Nat) (source : Bytes) (x y : Nat) : Nat :=
  storedPixel n (storedRow source (padToFour (layout.width * n)) y) x

/-- Two frames that store the same pixels. What they hold behind the pixels of a row and behind
their last row is left open. -/
def SamePixels (layout : FrameLayout) (source other : Bytes) : Prop :=
  ∀ n, layout.pixels.bytesPerPixel? = some n → ∀ x < layout.width, ∀ y < layout.height,
    layout.storedAt n source x y = layout.storedAt n other x y

end FrameLayout

/-- The bytes of a pixel inside a picture. -/
theorem PixelBuffer.pixel?_of_lt {b : PixelBuffer} {x y : Nat} (hx : x < b.width)
    (hy : y < b.height) : b.pixel? x y = some (pixelAt (b.row y) x) := by
  have hw : b.width ≠ 0 := by omega
  have hdiv : (y * b.width + x) / b.width = y := by
    rw [Nat.mul_comm, Nat.mul_add_div (by omega), Nat.div_eq_of_lt hx, Nat.add_zero]
  have hmod : (y * b.width + x) % b.width = x := by
    rw [Nat.mul_comm, Nat.mul_add_mod, Nat.mod_eq_of_lt hx]
  simp only [pixel?, if_neg hw, hdiv, hmod, row?_of_lt hy, bytesPerPixel]
  rfl

/-- Pictures of one size with the same pixels are the same. -/
theorem PixelBuffer.ext_pixel {a b : PixelBuffer} (hwidth : a.width = b.width)
    (hheight : a.height = b.height)
    (hpixels : ∀ x < a.width, ∀ y < a.height, a.pixel? x y = b.pixel? x y) : a = b := by
  refine ext_row hwidth hheight ?_
  intro y hy
  have hy' : y < b.height := hheight ▸ hy
  apply List.ext_getElem?
  intro i
  by_cases hi : i < 4 * a.width
  · have hx : i / 4 < a.width := by omega
    have hsame := hpixels (i / 4) hx y hy
    rw [pixel?_of_lt hx hy, pixel?_of_lt (hwidth ▸ hx) hy'] at hsame
    have hbyte := congrArg (·[i % 4]?) (Option.some.inj hsame)
    have hplace : i % 4 < 4 := Nat.mod_lt i (by decide)
    have hi' : 4 * (i / 4) + i % 4 = i := Nat.div_add_mod i 4
    rwa [pixelAt, pixelAt, List.getElem?_take_of_lt hplace, List.getElem?_take_of_lt hplace,
      List.getElem?_drop, List.getElem?_drop, hi'] at hbyte
  · rw [List.getElem?_eq_none (by rw [length_row hy]; omega),
      List.getElem?_eq_none (by rw [length_row hy', ← hwidth]; omega)]

/-- A frame that is converted has the size of the picture and passes the check. -/
theorem convertFrame_eq_ok_iff {layout : FrameLayout} {source : Bytes}
    {target picture : PixelBuffer} :
    convertFrame layout source target = .ok picture ↔
      (target.width = layout.width ∧ target.height = layout.height) ∧
      ∃ stride, checkFrame layout source = .ok stride ∧
        picture = convertRows layout.pixels source stride layout.uprightRow target := by
  unfold convertFrame
  split
  · next hsizes =>
    constructor
    · intro h
      cases h
    · rintro ⟨⟨hwidth, hheight⟩, _⟩
      exact absurd hsizes (by simp [hwidth, hheight])
  · next hsizes =>
    have hsame : target.width = layout.width ∧ target.height = layout.height := by
      simpa using hsizes
    cases hcheck : checkFrame layout source with
    | error fault =>
      constructor
      · intro h
        cases h
      · rintro ⟨_, _, h, _⟩
        cases h
    | ok stride =>
      constructor
      · intro h
        cases h
        exact ⟨hsame, stride, rfl, rfl⟩
      · rintro ⟨_, _, h, rfl⟩
        cases h
        rfl

/-- Every pixel of a converted frame is the one stored for its place. -/
theorem pixel?_of_convertFrame {layout : FrameLayout} {source : Bytes}
    {target picture : PixelBuffer} (h : convertFrame layout source target = .ok picture) {n : Nat}
    (hbytes : layout.pixels.bytesPerPixel? = some n) {fields : Channel → BitField}
    (hfields : layout.pixels.fields? = some fields) {x y : Nat} (hx : x < layout.width)
    (hy : y < layout.height) :
    picture.pixel? x y = some
      (Rgba.ofFields fields (layout.storedAt n source x (layout.uprightRow y))).toBytes := by
  obtain ⟨⟨hwidth, hheight⟩, stride, hcheck, rfl⟩ := convertFrame_eq_ok_iff.mp h
  obtain ⟨_, _, m, hm, hpad, _, hsource⟩ := checkFrame_eq_ok_iff.mp hcheck
  rw [hbytes] at hm
  cases hm
  have hround := FrameLayout.le_padToFour (layout.width * n)
  have hrow : (x + 1) * n ≤ layout.width * n := Nat.mul_le_mul_right n hx
  have hstored : (storedRow source stride (layout.uprightRow y)).length = stride :=
    length_storedRow (FrameLayout.uprightRow_lt hy) hsource
  rw [PixelBuffer.pixel?_of_lt (hwidth ▸ hx) (hheight ▸ hy), row_convertRows _ _ _ _ (hheight ▸ hy),
    pixelAt_convertRow hbytes hfields (hwidth ▸ hx) (by omega)
      (by rw [PixelBuffer.length_row (hheight ▸ hy), hwidth]; omega),
    FrameLayout.storedAt, hpad]

/-- A frame is converted exactly when it has the size of the picture, pixels of a layout that can be
converted, and all of its rows. The picture then holds, opaque, the stored pixels turned upright,
and nothing else: not the padding of a row, not the bytes behind the last row, and not what the
picture held before. Done in place, row by row, a conversion never panics, and one that is refused
leaves the picture as it was. -/
theorem convertFrame_pixels (layout : FrameLayout) (source : Bytes) (target : PixelBuffer) :
    ((∃ picture, convertFrame layout source target = .ok picture) ↔
      (target.width = layout.width ∧ target.height = layout.height) ∧
      layout.pixels.isConvertible ∧ 0 < layout.width ∧ 0 < layout.height ∧
      ∀ n, layout.pixels.bytesPerPixel? = some n →
        layout.height * padToFour (layout.width * n) < addressSpace ∧
        layout.height * padToFour (layout.width * n) ≤ source.size) ∧
    (∀ picture, convertFrame layout source target = .ok picture →
      (picture.width = layout.width ∧ picture.height = layout.height) ∧
      (∃ n fields, layout.pixels.bytesPerPixel? = some n ∧ layout.pixels.fields? = some fields ∧
        ∀ x < layout.width, ∀ y < layout.height, picture.pixel? x y = some
          (Rgba.ofFields fields (layout.storedAt n source x (layout.uprightRow y))).toBytes) ∧
      ∀ other old same, layout.SamePixels source other →
        convertFrame layout other old = .ok same → same = picture) ∧
    layout.overwrite source target = some (match convertFrame layout source target with
      | .ok picture => (.ok (), picture)
      | .error fault => (.error fault, target)) := by
  refine ⟨⟨?_, ?_⟩, ?_, layout.overwrite_eq source target⟩
  · rintro ⟨picture, h⟩
    obtain ⟨hsizes, stride, hcheck, _⟩ := convertFrame_eq_ok_iff.mp h
    obtain ⟨hwidth, hheight, n, hbytes, rfl, hlt, hsource⟩ := checkFrame_eq_ok_iff.mp hcheck
    refine ⟨hsizes, ?_, hwidth, hheight, ?_⟩
    · rw [PixelLayout.isConvertible, hbytes]
      rfl
    · intro m hm
      rw [hbytes] at hm
      cases hm
      exact ⟨hlt, hsource⟩
  · rintro ⟨hsizes, hconvertible, hwidth, hheight, hrows⟩
    obtain ⟨n, hbytes⟩ := Option.isSome_iff_exists.mp hconvertible
    obtain ⟨hlt, hsource⟩ := hrows n hbytes
    have hcheck : checkFrame layout source = .ok (padToFour (layout.width * n)) :=
      checkFrame_eq_ok_iff.mpr ⟨hwidth, hheight, n, hbytes, rfl, hlt, hsource⟩
    exact ⟨_, convertFrame_eq_ok_iff.mpr ⟨hsizes, _, hcheck, rfl⟩⟩
  · intro picture h
    obtain ⟨⟨hwidth, hheight⟩, stride, hcheck, hpicture⟩ := convertFrame_eq_ok_iff.mp h
    obtain ⟨_, _, n, hbytes, _⟩ := checkFrame_eq_ok_iff.mp hcheck
    obtain ⟨fields, hfields⟩ := PixelLayout.exists_fields hbytes
    have hsize : picture.width = layout.width ∧ picture.height = layout.height := by
      rw [hpicture]
      exact ⟨hwidth, hheight⟩
    have hpixels := fun x (hx : x < layout.width) y (hy : y < layout.height) =>
      pixel?_of_convertFrame h hbytes hfields hx hy
    refine ⟨hsize, ⟨n, fields, hbytes, hfields, hpixels⟩, ?_⟩
    intro other old same hagree hsame
    obtain ⟨⟨holdWidth, holdHeight⟩, _, _, hother⟩ := convertFrame_eq_ok_iff.mp hsame
    have hsameWidth : same.width = layout.width := by rw [hother]; exact holdWidth
    have hsameHeight : same.height = layout.height := by rw [hother]; exact holdHeight
    refine PixelBuffer.ext_pixel (hsameWidth.trans hsize.1.symm) (hsameHeight.trans hsize.2.symm) ?_
    intro x hx y hy
    have hx' : x < layout.width := hsameWidth ▸ hx
    have hy' : y < layout.height := hsameHeight ▸ hy
    rw [hpixels x hx' y hy', pixel?_of_convertFrame hsame hbytes hfields hx' hy',
      hagree n hbytes x hx' _ (FrameLayout.uprightRow_lt hy')]

/-- A bottom-up frame of two rows, each with a byte of padding: the row stored last is on top. -/
theorem convertFrame_pixels_padded :
    ∃ picture, convertFrame ⟨1, 2, .bgr24, true⟩ #[0, 0, 0xff, 7, 0xff, 0, 0, 7] (.blank 1 2) =
        .ok picture ∧
      picture.pixel? 0 0 = some [0, 0, 0xff, 0xff] ∧
      picture.pixel? 0 1 = some [0xff, 0, 0, 0xff] := by
  obtain ⟨hconverted, hpixels, _⟩ :=
    convertFrame_pixels ⟨1, 2, .bgr24, true⟩ #[0, 0, 0xff, 7, 0xff, 0, 0, 7] (.blank 1 2)
  obtain ⟨picture, hpicture⟩ := hconverted.mpr ⟨⟨rfl, rfl⟩, by decide, by decide, by decide, by
    intro n hn
    cases hn
    decide⟩
  obtain ⟨_, ⟨n, fields, hn, hfields, hstored⟩, _⟩ := hpixels picture hpicture
  cases hn
  cases hfields
  refine ⟨picture, hpicture, ?_, ?_⟩
  · rw [hstored 0 (by decide) 0 (by decide)]
    decide
  · rw [hstored 0 (by decide) 1 (by decide)]
    decide

end AviPlayback
