import AviPlayback.Frame.Convert

/-!
Pictures row by row. A picture is known by its rows (`PixelBuffer.ext_row`), and writing one row
changes that row alone. A frame passes the check when it has pixels and all of its rows
(`checkFrame_eq_ok_iff`), and converting it then gives every row a stored row of the frame, whatever
was in the picture before (`row_convertRows_congr`).
-/
set_option autoImplicit false

namespace AviPlayback

open FrameLayout (padToFour)

/-- The bytes of pixel `j` of a row. -/
def pixelAt (row : List UInt8) (j : Nat) : List UInt8 := (row.drop (4 * j)).take 4

namespace PixelBuffer

variable {a b : PixelBuffer} {y : Nat}

theorem row_eq_of_lt (h : y < storedRows b.width b.height) : b.row y = (b.rows[y]).toList := by
  rw [row, row?_eq_some h]
  rfl

theorem lt_storedRows (hw : b.width ≠ 0) (hy : y < b.height) :
    y < storedRows b.width b.height := by
  rwa [storedRows, if_neg hw]

@[simp] theorem row_of_width_zero (hw : b.width = 0) : b.row y = [] := by simp [row, row?, hw]

theorem length_row (hy : y < b.height) : (b.row y).length = 4 * b.width := by
  by_cases hw : b.width = 0
  · simp [hw]
  · rw [row_eq_of_lt (lt_storedRows hw hy), Vector.length_toList]

/-- Pictures of one size with the same rows are the same. -/
theorem ext_row (hwidth : a.width = b.width) (hheight : a.height = b.height)
    (hrows : ∀ y < a.height, a.row y = b.row y) : a = b := by
  obtain ⟨width, height, rows⟩ := a
  obtain ⟨width', height', rows'⟩ := b
  obtain rfl : width = width' := hwidth
  obtain rfl : height = height' := hheight
  congr 1
  ext1 y hy
  have hlt : y < height := by
    unfold storedRows at hy
    split at hy <;> omega
  have hrow := hrows y hlt
  rw [row_eq_of_lt hy, row_eq_of_lt hy] at hrow
  exact Vector.toList_inj.mp hrow

/-- Every row of a picture can be read. -/
theorem row?_of_lt (hy : y < b.height) : b.row? y = some (b.row y) := by
  by_cases hw : b.width = 0
  · simp [row?, hw]
  · rw [row, row?_eq_some (lt_storedRows hw hy)]
    rfl

/-- A row of the right length is written, and no other row changes. -/
theorem setRow?_eq_some {row : List UInt8} (hy : y < b.height) (hlength : row.length = 4 * b.width) :
    ∃ c, b.setRow? y row = some c ∧ c.width = b.width ∧ c.height = b.height ∧
      ∀ z < b.height, c.row z = if z = y then row else b.row z := by
  by_cases hw : b.width = 0
  · have hnone : ¬ y < storedRows b.width b.height := by simp [storedRows, hw]
    have hset : b.setRow? y row = some b := by
      rw [setRow?, dif_pos hlength, dif_neg hnone, if_pos hw]
    refine ⟨b, hset, rfl, rfl, ?_⟩
    intro z _
    rw [row_of_width_zero hw, List.eq_nil_of_length_eq_zero (hlength.trans (by rw [hw]))]
    split <;> rfl
  have hstored := lt_storedRows hw hy
  let c : PixelBuffer := { b with rows := b.rows.set y ⟨row.toArray, by simpa⟩ hstored }
  have hset : b.setRow? y row = some c := by rw [setRow?, dif_pos hlength, dif_pos hstored]
  refine ⟨c, hset, rfl, rfl, ?_⟩
  intro z hz
  have hz' := lt_storedRows hw hz
  rw [row_eq_of_lt (b := c) hz', row_eq_of_lt hz']
  change (b.rows.set y _ hstored)[z].toList = _
  rw [Vector.getElem_set]
  by_cases hzy : z = y
  · simp [hzy]
  · simp [hzy, Ne.symm hzy]

end PixelBuffer

/-- A convertible pixel takes its bytes from the front. -/
theorem takePixel_of_le {pixels : PixelLayout} {n : Nat} {source : List UInt8}
    (hbytes : pixels.bytesPerPixel? = some n) (hsource : n ≤ source.length) :
    ∃ pixel, pixels.takePixel source = some (pixel, source.drop n) := by
  cases pixels with
  | rgb555 | rgb565 =>
    cases hbytes
    match source with
    | lo :: hi :: rest => exact ⟨_, rfl⟩
  | bgr24 =>
    cases hbytes
    match source with
    | b :: g :: r :: rest => exact ⟨_, rfl⟩
  | bgrx32 =>
    cases hbytes
    match source with
    | b :: g :: r :: x :: rest => exact ⟨_, rfl⟩
  | unsupported bits => cases hbytes
  | compressed codec => cases hbytes

/-- A row is converted as a whole when the stored row has all its pixels: what the picture held
before does not matter. -/
theorem convertRow_congr {pixels : PixelLayout} {n width : Nat} {source target other : List UInt8}
    (hbytes : pixels.bytesPerPixel? = some n) (hsource : width * n ≤ source.length)
    (htarget : target.length = 4 * width) (hother : other.length = 4 * width) :
    convertRow pixels width source target = convertRow pixels width source other := by
  induction width generalizing source target other with
  | zero =>
    rw [List.length_eq_zero_iff.mp htarget, List.length_eq_zero_iff.mp hother]
  | succ width ih =>
    rw [Nat.succ_mul] at hsource
    obtain ⟨pixel, hpixel⟩ := takePixel_of_le hbytes (show n ≤ source.length by omega)
    match target, other with
    | _ :: _ :: _ :: _ :: target, _ :: _ :: _ :: _ :: other =>
      simp only [List.length_cons] at htarget hother
      simp only [convertRow, hpixel]
      rw [ih (by rw [List.length_drop]; omega) (show target.length = 4 * width by omega)
        (show other.length = 4 * width by omega)]

@[simp] theorem width_convertRows (pixels : PixelLayout) (source : Bytes) (stride : Nat)
    (order : Nat → Nat) (target : PixelBuffer) :
    (convertRows pixels source stride order target).width = target.width := rfl

@[simp] theorem height_convertRows (pixels : PixelLayout) (source : Bytes) (stride : Nat)
    (order : Nat → Nat) (target : PixelBuffer) :
    (convertRows pixels source stride order target).height = target.height := rfl

theorem row_convertRows (pixels : PixelLayout) (source : Bytes) (stride : Nat)
    (order : Nat → Nat) {target : PixelBuffer} {y : Nat} (hy : y < target.height) :
    (convertRows pixels source stride order target).row y =
      convertRow pixels target.width (storedRow source stride (order y)) (target.row y) := by
  by_cases hw : target.width = 0
  · simp [hw, convertRow]
  · have hstored := PixelBuffer.lt_storedRows hw hy
    rw [PixelBuffer.row_eq_of_lt (b := convertRows pixels source stride order target) hstored,
      PixelBuffer.row_eq_of_lt hstored]
    simp [convertRows]

theorem FrameLayout.uprightRow_lt {l : FrameLayout} {y : Nat} (hy : y < l.height) :
    l.uprightRow y < l.height := by
  unfold uprightRow
  split <;> omega

theorem addressable?_eq_some_iff {n m : Nat} :
    addressable? n = some m ↔ n < addressSpace ∧ m = n := by
  unfold addressable?
  split
  · next hlt => simp [hlt, eq_comm]
  · next hlt => simp [hlt]

namespace FrameLayout

variable {l : FrameLayout} {stride bytes : Nat}

theorem stride?_eq_some_iff : l.stride? = some stride ↔
    ∃ n, l.pixels.bytesPerPixel? = some n ∧ l.width * n + 3 < addressSpace ∧
      stride = padToFour (l.width * n) := by
  constructor
  · intro h
    obtain ⟨n, hbytes, h⟩ := Option.bind_eq_some_iff.mp h
    obtain ⟨row, hrow, h⟩ := Option.bind_eq_some_iff.mp h
    obtain ⟨hlt, rfl⟩ := addressable?_eq_some_iff.mp hrow
    exact ⟨n, hbytes, hlt, (Option.some.inj h).symm⟩
  · rintro ⟨n, hbytes, hlt, rfl⟩
    have hrow : addressable? (l.width * n + 3) = some _ := addressable?_eq_some_iff.mpr ⟨hlt, rfl⟩
    simp [stride?, hbytes, hrow, padToFour]

theorem frameBytes?_eq_some_iff : l.frameBytes? = some bytes ↔
    ∃ stride, l.stride? = some stride ∧ stride * l.height < addressSpace ∧
      bytes = stride * l.height := by
  refine Option.bind_eq_some_iff.trans ?_
  simp only [addressable?_eq_some_iff]

/-- The rows of a layout have bytes exactly when there are pixels in a row. -/
theorem stride_pos_iff (hstride : l.stride? = some stride) : 0 < stride ↔ 0 < l.width := by
  obtain ⟨n, hn, _, rfl⟩ := stride?_eq_some_iff.mp hstride
  have hround := le_padToFour (l.width * n)
  constructor
  · intro hpos
    refine Nat.pos_of_ne_zero fun hzero => ?_
    rw [hzero, Nat.zero_mul] at hpos
    exact absurd hpos (by decide)
  · intro hwidth
    have hrow := Nat.mul_pos hwidth (PixelLayout.bytesPerPixel?_pos hn).1
    omega

end FrameLayout

section

variable {layout : FrameLayout} {source : Bytes} {stride : Nat}

/-- A frame passes the check when its layout has pixels and sizes, and the frame all of its
bytes. -/
theorem checkFrame_eq_ok_iff_frameBytes? : checkFrame layout source = .ok stride ↔
    0 < layout.width ∧ 0 < layout.height ∧ layout.stride? = some stride ∧
      ∃ bytes, layout.frameBytes? = some bytes ∧ bytes ≤ source.size := by
  constructor
  · intro h
    unfold checkFrame at h
    split at h
    · next pitch bytes hpitch hbytes =>
      split at h
      · cases h
      next hempty =>
      split at h
      · cases h
      next hshort =>
      cases h
      obtain ⟨hpitch0, hbytes0⟩ := not_or.mp hempty
      obtain ⟨_, _, _, hframe⟩ := FrameLayout.frameBytes?_eq_some_iff.mp hbytes
      have hheight : layout.height ≠ 0 := fun hzero => hbytes0 (by rw [hframe, hzero, Nat.mul_zero])
      exact ⟨(FrameLayout.stride_pos_iff hpitch).mp (Nat.pos_of_ne_zero hpitch0),
        Nat.pos_of_ne_zero hheight, hpitch, bytes, hbytes, Nat.not_lt.mp hshort⟩
    · cases h
  · rintro ⟨hwidth, hheight, hpitch, bytes, hbytes, hsource⟩
    obtain ⟨_, hpitch', _, hframe⟩ := FrameLayout.frameBytes?_eq_some_iff.mp hbytes
    rw [hpitch] at hpitch'
    cases hpitch'
    have hpos := (FrameLayout.stride_pos_iff hpitch).mpr hwidth
    have hfull : ¬ (stride = 0 ∨ bytes = 0) := by
      have hbytes0 := Nat.mul_pos hpos hheight
      omega
    simp only [checkFrame, hpitch, hbytes, if_neg hfull, if_neg (Nat.not_lt.mpr hsource)]

/-- In numbers, a frame passes the check when it has pixels and all of its rows. -/
theorem checkFrame_eq_ok_iff : checkFrame layout source = .ok stride ↔
    0 < layout.width ∧ 0 < layout.height ∧
      ∃ n, layout.pixels.bytesPerPixel? = some n ∧ stride = padToFour (layout.width * n) ∧
        layout.height * stride < addressSpace ∧ layout.height * stride ≤ source.size := by
  rw [checkFrame_eq_ok_iff_frameBytes?]
  constructor
  · rintro ⟨hwidth, hheight, hpitch, bytes, hbytes, hsource⟩
    obtain ⟨n, hn, _, hpad⟩ := FrameLayout.stride?_eq_some_iff.mp hpitch
    obtain ⟨_, hpitch', hlt, rfl⟩ := FrameLayout.frameBytes?_eq_some_iff.mp hbytes
    rw [hpitch] at hpitch'
    cases hpitch'
    rw [Nat.mul_comm] at hlt hsource
    exact ⟨hwidth, hheight, n, hn, hpad, hlt, hsource⟩
  · rintro ⟨hwidth, hheight, n, hn, hpad, hlt, hsource⟩
    have hround := FrameLayout.le_padToFour (layout.width * n)
    have hle : stride ≤ layout.height * stride := Nat.le_mul_of_pos_left stride hheight
    have hspace : addressSpace % 4 = 0 := by decide
    -- a multiple of four below the end of the address space leaves room for three bytes more
    have hpitch : layout.stride? = some stride :=
      FrameLayout.stride?_eq_some_iff.mpr ⟨n, hn, by omega, hpad⟩
    rw [Nat.mul_comm] at hlt hsource
    exact ⟨hwidth, hheight, hpitch, _,
      FrameLayout.frameBytes?_eq_some_iff.mpr ⟨stride, hpitch, hlt, rfl⟩, hsource⟩

end

theorem length_storedRow {source : Bytes} {stride height y : Nat} (hy : y < height)
    (hsource : height * stride ≤ source.size) : (storedRow source stride y).length = stride := by
  have hle : (y + 1) * stride ≤ height * stride := Nat.mul_le_mul_right _ hy
  rw [Nat.succ_mul] at hle
  rw [storedRow, Array.length_toList, Array.size_extract]
  omega

/-- A whole frame converted in some order gives the same rows over any picture. -/
theorem row_convertRows_congr {layout : FrameLayout} {source : Bytes} {stride : Nat}
    (h : checkFrame layout source = .ok stride) {order : Nat → Nat} {target other : PixelBuffer}
    (htarget : target.width = layout.width) (hother : other.width = layout.width) {y z : Nat}
    (hy : y < target.height) (hz : z < other.height) (hzy : z = order y)
    (horder : order y < layout.height) :
    (convertRows layout.pixels source stride order target).row y =
      (convertRows layout.pixels source stride id other).row z := by
  obtain ⟨_, _, n, hbytes, hpad, _, hsource⟩ := checkFrame_eq_ok_iff.mp h
  have hround := FrameLayout.le_padToFour (layout.width * n)
  rw [row_convertRows _ _ _ _ hy, row_convertRows _ _ _ _ hz, htarget, hother, id, hzy]
  refine convertRow_congr hbytes ?_ ?_ ?_
  · rw [length_storedRow horder hsource]
    omega
  · rw [PixelBuffer.length_row hy, htarget]
  · rw [PixelBuffer.length_row (hzy ▸ hz), hother]

end AviPlayback
