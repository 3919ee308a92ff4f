import AviPlayback.Proofs.Frame.BitFields

/-!
Rows of any length. A conversion goes as far as it is asked to, as the stored row has whole pixels
and as the picture row has whole places for them. What it gives is told byte for byte, for rows that
are too short or end inside a pixel as well (`convertRow_overwrites`).
-/
set_option autoImplicit false

namespace AviPlayback

/-- A stored row that ends inside a pixel has no whole one left. -/
theorem takePixel_of_lt {pixels : PixelLayout} {n : Nat} (hbytes : pixels.bytesPerPixel? = some n)
    {source : List UInt8} (hsource : source.length < n) : pixels.takePixel source = none := by
  cases pixels with
  | rgb565 | rgb555 =>
    cases hbytes
    match source with
    | [] | [_] => rfl
  | bgr24 =>
    cases hbytes
    match source with
    | [] | [_] | [_, _] => rfl
  | bgrx32 =>
    cases hbytes
    match source with
    | [] | [_] | [_, _] | [_, _, _] => rfl
  | unsupported bits => cases hbytes
  | compressed codec => cases hbytes

/-- A layout that cannot be converted has no pixels to take. -/
theorem convertRow_of_none {pixels : PixelLayout} (hbytes : pixels.bytesPerPixel? = none)
    (width : Nat) (source target : List UInt8) :
    convertRow pixels width source target = target := by
  cases width with
  | zero => rfl
  | succ width =>
    cases pixels with
    | unsupported bits => rfl
    | compressed codec => rfl
    | rgb565 | rgb555 | bgr24 | bgrx32 => cases hbytes

/-- How many pixels of `n` bytes a conversion takes. -/
def pixelCount (n width : Nat) (source target : List UInt8) : Nat :=
  min width (min (source.length / n) (target.length / 4))

/-- The pixels from the first one on, as the bytes of a picture. -/
def pixelBytes (fields : Channel → BitField) (n count : Nat) (source : List UInt8) : List UInt8 :=
  (List.range count).flatMap fun x => (Rgba.ofFields fields (storedPixel n source x)).toBytes

section

variable {n : Nat} {fields : Channel → BitField} {source target : List UInt8}

@[simp] theorem pixelBytes_zero : pixelBytes fields n 0 source = [] := rfl

/-- The pixels behind the first one are those of the row behind it. -/
theorem pixelBytes_succ (count : Nat) : pixelBytes fields n (count + 1) source =
    (Rgba.ofFields fields (LittleEndian.toNat (source.take n))).toBytes ++
      pixelBytes fields n count (source.drop n) := by
  have hfirst : storedPixel n source 0 = LittleEndian.toNat (source.take n) := by
    rw [storedPixel, Nat.zero_mul, List.drop_zero]
  have hrest : ∀ x, storedPixel n source (x + 1) = storedPixel n (source.drop n) x := by
    intro x
    rw [storedPixel, storedPixel, List.drop_drop, Nat.succ_mul, Nat.add_comm n]
  rw [pixelBytes, List.range_succ_eq_map, List.flatMap_cons, List.flatMap_map, hfirst]
  simp only [hrest, pixelBytes]

theorem pixelCount_succ (hn : 0 < n) (hsource : n ≤ source.length) (width : Nat)
    (a b c d : UInt8) : pixelCount n (width + 1) source (a :: b :: c :: d :: target) =
      pixelCount n width (source.drop n) target + 1 := by
  have hstored : source.length / n = (source.drop n).length / n + 1 := by
    rw [List.length_drop, Nat.div_eq_sub_div hn hsource]
  have hplaces : (a :: b :: c :: d :: target).length / 4 = target.length / 4 + 1 := by
    simp only [List.length_cons]
    omega
  rw [pixelCount, pixelCount, hstored, hplaces]
  omega

/-- Pixels are converted one after another, until one of the rows or the width is used up. -/
theorem convertRow_eq_append {pixels : PixelLayout} (hbytes : pixels.bytesPerPixel? = some n)
    (hfields : pixels.fields? = some fields) (width : Nat) (source target : List UInt8) :
    convertRow pixels width source target =
      pixelBytes fields n (pixelCount n width source target) source ++
        target.drop (4 * pixelCount n width source target) := by
  have hn := (PixelLayout.bytesPerPixel?_pos hbytes).1
  induction width generalizing source target with
  | zero => simp [convertRow, pixelCount]
  | succ width ih =>
    by_cases hsource : source.length < n
    · have hnone : pixelCount n (width + 1) source target = 0 := by
        rw [pixelCount, Nat.div_eq_of_lt hsource]
        omega
      simp [convertRow, takePixel_of_lt hbytes hsource, hnone]
    · have hsource := Nat.not_lt.mp hsource
      rcases target with _ | ⟨a, _ | ⟨b, _ | ⟨c, _ | ⟨d, target⟩⟩⟩⟩
      case cons.cons.cons.cons =>
        rw [pixelCount_succ hn hsource, pixelBytes_succ, Nat.mul_succ]
        simp [convertRow, takePixel_eq hbytes hfields hsource, ih, Rgba.toBytes]
      -- no whole place is left
      all_goals simp [convertRow, takePixel_eq hbytes hfields hsource, pixelCount]

end

/-- Converting a row overwrites its first pixels, as many as the width, the whole stored pixels and
the whole places of the picture row allow. Each of them gets the colors that are stored for it,
opaque, and every byte behind them stays as it was. A layout that cannot be converted leaves all of
them. -/
theorem convertRow_overwrites (pixels : PixelLayout) (width : Nat) (source target : List UInt8) :
    convertRow pixels width source target =
      match pixels.bytesPerPixel?, pixels.fields? with
      | some n, some fields =>
        let count := min width (min (source.length / n) (target.length / 4))
        ((List.range count).flatMap fun x =>
          (Rgba.ofFields fields (storedPixel n source x)).toBytes) ++ target.drop (4 * count)
      | _, _ => target := by
  cases hbytes : pixels.bytesPerPixel? with
  | none => exact convertRow_of_none hbytes width source target
  | some n =>
    obtain ⟨fields, hfields⟩ := PixelLayout.exists_fields hbytes
    rw [hfields]
    exact convertRow_eq_append hbytes hfields width source target

/-- Two whole pixels and a byte are stored, and the picture row has two whole places and a byte. -/
example : convertRow .rgb565 3 [0x00, 0xf8, 0x1f, 0x00, 7] [1, 2, 3, 4, 5, 6, 7, 8, 9] =
    [0xff, 0, 0, 0xff, 0, 0, 0xff, 0xff, 9] := by decide

end AviPlayback
