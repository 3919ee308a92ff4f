import AviPlayback.Proofs.Frame.Drawing
import AviPlayback.Proofs.Frame.WholeFrames

/-!
Drawing any part of a texture. The columns of a row are copied as one block, or one by one where the
crop rectangle is mirrored; both give each pixel of the target the pixel of the texture that the
rectangle names for its place (`Texture.draw_samples`). The same drawing with every access checked,
`Texture.draw?`, never panics.
-/
set_option autoImplicit false

namespace AviPlayback

theorem length_pixelAt {row : List UInt8} {width j : Nat} (hrow : row.length = 4 * width)
    (hj : j < width) : (pixelAt row j).length = 4 := by
  rw [pixelAt, List.length_take, List.length_drop]
  omega

theorem pixelAt_append_zero {pixel : List UInt8} (hpixel : pixel.length = 4) (row : List UInt8) :
    pixelAt (pixel ++ row) 0 = pixel := by
  rw [pixelAt, Nat.mul_zero, List.drop_zero, ← hpixel, List.take_left]

theorem pixelAt_append_succ {pixel : List UInt8} (hpixel : pixel.length = 4) (row : List UInt8)
    (j : Nat) : pixelAt (pixel ++ row) (j + 1) = pixelAt row j := by
  rw [pixelAt, show 4 * (j + 1) = pixel.length + 4 * j by omega, ← List.drop_drop, List.drop_left]
  rfl

/-- The pixels of a block cut from a row. -/
theorem pixelAt_block {row : List UInt8} {x w j : Nat} (hj : j < w) :
    pixelAt ((row.drop (4 * x)).take (4 * w)) j = pixelAt row (x + j) := by
  rw [pixelAt, pixelAt, List.drop_take, List.take_take, List.drop_drop, Nat.mul_add,
    Nat.min_eq_left (by omega)]

/-- The `count` bytes from place `start` on, when there are so many. -/
def slice? (row : List UInt8) (start count : Nat) : Option (List UInt8) :=
  if start + count ≤ row.length then some ((row.drop start).take count) else none

/-- A row with the bytes from place `start` on replaced, when there are so many. -/
def splice? (row : List UInt8) (start : Nat) (new : List UInt8) : Option (List UInt8) :=
  if start + new.length ≤ row.length then
    some (row.take start ++ new ++ row.drop (start + new.length))
  else none

theorem CropRect.source_of_neg {origin extent : Int} (h : extent < 0) (i : Nat) :
    source origin extent i = source origin (-1) i := by
  rw [source, source, if_pos h, if_pos (by decide)]

namespace Texture

@[simp] theorem onAxis_iff {v : Int} {length : Nat} : onAxis v length ↔ 0 ≤ v ∧ v < length := by
  simp [onAxis]

section Checked

variable (t : Texture)

/-- Draws the next columns of a row, from the `j`-th on, one pixel at a time. Gives nothing for a
panic. -/
def drawColumns? (stored : List UInt8) :
    Nat → Nat → List UInt8 → Option (Except RendererFault Unit × List UInt8)
  | 0, _, out => some (.ok (), out)
  | left + 1, j, out =>
    let column := CropRect.source t.crop.x t.crop.width j
    if onAxis column t.width then do
      let pixel ← slice? stored (4 * column.toNat) 4
      drawColumns? stored left (j + 1) (← splice? out (4 * j) pixel)
    else some (.error (.columnOutside column), out)

/-- Draws one row of `w` columns. The width of the texture must leave room for one column more, and
a block is only copied over one of its length. Gives nothing for a panic. -/
def drawRow? (w : Nat) (stored out : List UInt8) :
    Option (Except RendererFault Unit × List UInt8) :=
  if 0 ≤ t.crop.width then
    if UInt32.size ≤ t.width + 1 then none
    else if onAxis t.crop.x (t.width + 1) && t.crop.x + w ≤ t.width then do
      let block ← slice? stored (4 * t.crop.x.toNat) (4 * w)
      if block.length = out.length then some (.ok (), block) else none
    else some (.error .columnsOutside, out)
  else t.drawColumns? stored w 0 out

/-- Draws the next rows of a picture, from row `i` on. Gives nothing for a panic. -/
def drawRows? (w : Nat) :
    Nat → Nat → PixelBuffer → Option (Except RendererFault Unit × PixelBuffer)
  | 0, _, target => some (.ok (), target)
  | left + 1, i, target =>
    let row := CropRect.source t.crop.y t.crop.height i
    if onAxis row t.height then do
      let (result, drawn) ← t.drawRow? w (← t.image.row? row.toNat) (← target.row? i)
      let target ← target.setRow? i drawn
      match result with
      | .ok _ => drawRows? w left (i + 1) target
      | .error fault => some (.error fault, target)
    else some (.error (.rowOutside row), target)

/-- Draws the crop rectangle over a picture of its extent. Gives nothing for a panic. -/
def draw? (target : PixelBuffer) : Option (Except RendererFault Unit × PixelBuffer) :=
  let (w, h) := t.crop.extent
  if target.width ≠ w ∨ target.height ≠ h then
    some (.error (.targetMismatch target.width target.height w h), target)
  else t.drawRows? w h 0 target

end Checked

variable {t : Texture}

/-- Column `j` of the target shows a column of the texture. -/
def ColumnInside (t : Texture) (j : Nat) : Prop :=
  onAxis (CropRect.source t.crop.x t.crop.width j) t.width

/-- Row `i` of the target shows a row of the texture. -/
def RowInside (t : Texture) (i : Nat) : Prop :=
  onAxis (CropRect.source t.crop.y t.crop.height i) t.height

/-- The columns of the rectangle lie on the texture. One without columns lies on it or at its right
edge. -/
def ColumnsInside (t : Texture) : Prop :=
  (∀ j < t.crop.width.natAbs, t.ColumnInside j) ∧
    (t.crop.width = 0 → onAxis t.crop.x (t.width + 1))

instance (t : Texture) (j : Nat) : Decidable (t.ColumnInside j) :=
  inferInstanceAs (Decidable (onAxis _ _ = true))

instance (t : Texture) (i : Nat) : Decidable (t.RowInside i) :=
  inferInstanceAs (Decidable (onAxis _ _ = true))

instance (t : Texture) : Decidable t.ColumnsInside :=
  inferInstanceAs (Decidable (_ ∧ _))

/-- A row of the target holds the columns of the rectangle from a stored row. -/
def Shows (t : Texture) (stored drawn : List UInt8) : Prop :=
  ∀ j < t.crop.width.natAbs,
    pixelAt drawn j = pixelAt stored (CropRect.source t.crop.x t.crop.width j).toNat

theorem drawColumns_cons (stored : List UInt8) (x : Int) (width j : Nat) (a b c d : UInt8)
    (rest : List UInt8) :
    drawColumns stored x width j (a :: b :: c :: d :: rest) =
      if onAxis (CropRect.source x (-1) j) width then
        ((drawColumns stored x width (j + 1) rest).1,
          pixelAt stored (CropRect.source x (-1) j).toNat ++
            (drawColumns stored x width (j + 1) rest).2)
      else (.error (.columnOutside (CropRect.source x (-1) j)), a :: b :: c :: d :: rest) := rfl

/-- Columns drawn backwards: all of them, or up to the first one outside. -/
theorem drawColumns_spec {stored : List UInt8} {x : Int} {width : Nat}
    (hstored : stored.length = 4 * width) {left j : Nat} {out : List UInt8}
    (hout : out.length = 4 * left) :
    (drawColumns stored x width j out).2.length = 4 * left ∧
    ((drawColumns stored x width j out).1 = .ok () ↔
      ∀ k < left, onAxis (CropRect.source x (-1) (j + k)) width) ∧
    ((drawColumns stored x width j out).1 = .ok () → ∀ k < left,
      pixelAt (drawColumns stored x width j out).2 k =
        pixelAt stored (CropRect.source x (-1) (j + k)).toNat) := by
  induction left generalizing j out with
  | zero =>
    rw [List.length_eq_zero_iff.mp hout]
    simp [drawColumns]
  | succ left ih =>
    match out with
    | a :: b :: c :: d :: rest =>
      have hrest : rest.length = 4 * left := by
        simp only [List.length_cons] at hout
        omega
      obtain ⟨hlength, hiff, hpixels⟩ := ih (j := j + 1) hrest
      have hnext : ∀ k, j + 1 + k = j + (k + 1) := by omega
      rw [drawColumns_cons]
      split
      · next hcolumn =>
        have hpixel : (pixelAt stored (CropRect.source x (-1) j).toNat).length = 4 := by
          have hside := onAxis_iff.mp hcolumn
          exact length_pixelAt hstored (by omega)
        refine ⟨?_, ?_, ?_⟩
        · rw [List.length_append, hlength, hpixel]
          omega
        · rw [hiff]
          constructor
          · intro h k hk
            cases k with
            | zero => exact hcolumn
            | succ k => exact hnext k ▸ h k (by omega)
          · intro h k hk
            exact hnext k ▸ h (k + 1) (by omega)
        · intro hok k hk
          cases k with
          | zero => exact pixelAt_append_zero hpixel _
          | succ k =>
            rw [← hnext k, ← hpixels hok k (by omega)]
            exact pixelAt_append_succ hpixel _ k
      · next hcolumn =>
        refine ⟨hout, ?_, ?_⟩
        · constructor
          · intro h
            cases h
          · intro h
            exact absurd (h 0 (by omega)) hcolumn
        · intro h
          cases h

/-- A row of columns copied as one block is inside when its ends are. -/
theorem columnsInside_iff_of_nonneg (h : 0 ≤ t.crop.width) :
    t.ColumnsInside ↔
      onAxis t.crop.x (t.width + 1) ∧ t.crop.x + t.crop.width.natAbs ≤ t.width := by
  have hcolumn : ∀ j, t.ColumnInside j ↔ 0 ≤ t.crop.x + j ∧ t.crop.x + j < t.width := by
    intro j
    rw [ColumnInside, CropRect.source, if_neg (by omega), onAxis_iff]
  unfold ColumnsInside
  simp only [hcolumn, onAxis_iff]
  constructor
  · rintro ⟨hall, hempty⟩
    by_cases hzero : t.crop.width = 0
    · have := hempty hzero
      omega
    · have hfirst := hall 0 (by omega)
      have hlast := hall (t.crop.width.natAbs - 1) (by omega)
      omega
  · rintro ⟨hside, hend⟩
    refine ⟨?_, fun _ => hside⟩
    intro j hj
    omega

/-- A row is drawn when the columns of the rectangle lie on the texture. -/
theorem drawRow_spec {stored out : List UInt8} (hstored : stored.length = 4 * t.width)
    (hout : out.length = 4 * t.crop.width.natAbs) :
    (t.drawRow stored out).2.length = 4 * t.crop.width.natAbs ∧
    ((t.drawRow stored out).1 = .ok () ↔ t.ColumnsInside) ∧
    ((t.drawRow stored out).1 = .ok () → t.Shows stored (t.drawRow stored out).2) := by
  by_cases hforward : 0 ≤ t.crop.width
  · have hinside := columnsInside_iff_of_nonneg (t := t) hforward
    have hwidth : t.crop.width.toNat = t.crop.width.natAbs := by omega
    have habs : t.crop.width = t.crop.width.natAbs := by omega
    rw [← habs] at hinside
    rw [drawRow, if_pos hforward]
    split
    · next hends =>
      obtain ⟨hside, hend⟩ := Bool.and_eq_true_iff.mp hends
      have hend' := of_decide_eq_true hend
      have hside' := onAxis_iff.mp hside
      refine ⟨?_, ?_, ?_⟩
      · rw [List.length_take, List.length_drop]
        omega
      · simp only [hinside, true_iff]
        exact ⟨hside, hend'⟩
      · intro _ j hj
        rw [hwidth, pixelAt_block hj, CropRect.source, if_neg (by omega)]
        congr 1
        omega
    · next hends =>
      refine ⟨hout, ?_, ?_⟩
      · simp only [hinside, reduceCtorEq, false_iff]
        intro hall
        exact hends (by simpa using hall)
      · intro h
        cases h
  · have hneg : t.crop.width < 0 := by omega
    obtain ⟨hlength, hiff, hpixels⟩ := drawColumns_spec (x := t.crop.x) hstored (j := 0) hout
    simp only [Nat.zero_add] at hiff hpixels
    rw [drawRow, if_neg hforward]
    refine ⟨hlength, ?_, ?_⟩
    · rw [hiff, ColumnsInside]
      simp only [ColumnInside, CropRect.source_of_neg hneg]
      constructor
      · intro h
        exact ⟨h, fun hzero => absurd hzero (by omega)⟩
      · intro h
        exact h.1
    · intro hok j hj
      rw [CropRect.source_of_neg hneg]
      exact hpixels hok j hj

/-- Checked slices never fail on the columns of a row, and give the same row. -/
theorem drawColumns?_eq {stored : List UInt8} (hneg : t.crop.width < 0)
    (hstored : stored.length = 4 * t.width) {left j : Nat} {out : List UInt8}
    (hout : out.length = 4 * (j + left)) :
    t.drawColumns? stored left j out =
      some ((drawColumns stored t.crop.x t.width j (out.drop (4 * j))).1,
        out.take (4 * j) ++ (drawColumns stored t.crop.x t.width j (out.drop (4 * j))).2) := by
  induction left generalizing j out with
  | zero =>
    have hend : out.drop (4 * j) = [] := List.drop_eq_nil_of_le (by omega)
    simp only [drawColumns?, hend, drawColumns, List.append_nil]
    rw [List.take_of_length_le (by omega)]
  | succ left ih =>
    have hrest : (out.drop (4 * j)).length = 4 * (left + 1) := by
      rw [List.length_drop]
      omega
    match hdrop : out.drop (4 * j), hrest with
    | a :: b :: c :: d :: rest, _ =>
      have htail : rest = out.drop (4 * j + 4) := by
        rw [← List.drop_drop, hdrop]
        rfl
      simp only [drawColumns?, drawColumns_cons, CropRect.source_of_neg hneg]
      split
      · next hcolumn =>
        have hside := onAxis_iff.mp hcolumn
        have hpixel : (pixelAt stored (CropRect.source t.crop.x (-1) j).toNat).length = 4 :=
          length_pixelAt hstored (by omega)
        have hslice : slice? stored (4 * (CropRect.source t.crop.x (-1) j).toNat) 4 =
            some (pixelAt stored (CropRect.source t.crop.x (-1) j).toNat) :=
          if_pos (by omega)
        have htake : (out.take (4 * j)).length = 4 * j := by
          rw [List.length_take]
          omega
        have hsplice : splice? out (4 * j)
              (pixelAt stored (CropRect.source t.crop.x (-1) j).toNat) =
            some (out.take (4 * j) ++ pixelAt stored (CropRect.source t.crop.x (-1) j).toNat ++
              rest) := by
          rw [splice?, hpixel, if_pos (by omega), htail]
        have hfront : (out.take (4 * j) ++
            pixelAt stored (CropRect.source t.crop.x (-1) j).toNat).length = 4 * (j + 1) := by
          rw [List.length_append, htake, hpixel]
          omega
        have hlength : rest.length = 4 * left := by
          rw [htail, List.length_drop]
          omega
        simp only [hslice, hsplice, Option.bind_eq_bind, Option.bind_some]
        rw [ih (by rw [List.length_append, hfront, hlength]; omega), ← hfront, List.drop_left,
          List.take_left, List.append_assoc]
      · rw [← hdrop, List.take_append_drop]

/-- A row drawn with checked slices. -/
theorem drawRow?_eq (hwidth : t.width + 1 < UInt32.size) {stored out : List UInt8}
    (hstored : stored.length = 4 * t.width) (hout : out.length = 4 * t.crop.width.natAbs) :
    t.drawRow? t.crop.width.natAbs stored out = some (t.drawRow stored out) := by
  unfold drawRow? drawRow
  by_cases hforward : 0 ≤ t.crop.width
  · have habs : (t.crop.width.natAbs : Int) = t.crop.width := by omega
    have htoNat : t.crop.width.toNat = t.crop.width.natAbs := by omega
    rw [if_pos hforward, if_pos hforward, if_neg (by omega), habs, htoNat]
    split
    · next hends =>
      obtain ⟨hside, hend⟩ := Bool.and_eq_true_iff.mp hends
      have hend' := of_decide_eq_true hend
      have hside' := onAxis_iff.mp hside
      have hslice : slice? stored (4 * t.crop.x.toNat) (4 * t.crop.width.natAbs) =
          some ((stored.drop (4 * t.crop.x.toNat)).take (4 * t.crop.width.natAbs)) :=
        if_pos (by omega)
      have hlength : ((stored.drop (4 * t.crop.x.toNat)).take
          (4 * t.crop.width.natAbs)).length = out.length := by
        rw [List.length_take, List.length_drop]
        omega
      simp only [hslice, Option.bind_eq_bind, Option.bind_some, if_pos hlength]
    · rfl
  · rw [if_neg hforward, if_neg hforward,
      drawColumns?_eq (by omega) hstored (by rw [hout, Nat.zero_add])]
    rfl

def shownRow (t : Texture) (i : Nat) : List UInt8 :=
  t.image.row (CropRect.source t.crop.y t.crop.height i).toNat

/-- The row that row `i` of the target shows can be read, and is drawn over row `i`. -/
theorem exists_drawnRow {i : Nat} {target : PixelBuffer}
    (htarget : target.width = t.crop.width.natAbs) (hi : i < target.height)
    (hrow : t.RowInside i) :
    t.image.row? (CropRect.source t.crop.y t.crop.height i).toNat = some (t.shownRow i) ∧
    (t.shownRow i).length = 4 * t.width ∧ (target.row i).length = 4 * t.crop.width.natAbs ∧
    ∃ next, target.setRow? i (t.drawRow (t.shownRow i) (target.row i)).2 = some next ∧
      next.width = target.width ∧ next.height = target.height ∧
      next.row i = (t.drawRow (t.shownRow i) (target.row i)).2 ∧
      ∀ y < target.height, y ≠ i → next.row y = target.row y := by
  have hside := onAxis_iff.mp hrow
  have hlt : (CropRect.source t.crop.y t.crop.height i).toNat < t.image.height := by
    have hheight : t.height = t.image.height := rfl
    omega
  have hstored : (t.shownRow i).length = 4 * t.width := PixelBuffer.length_row hlt
  have hout : (target.row i).length = 4 * t.crop.width.natAbs :=
    htarget ▸ PixelBuffer.length_row hi
  have hlength := (drawRow_spec hstored hout).1
  obtain ⟨next, hset, hwidth, hheight, hrows⟩ :=
    PixelBuffer.setRow?_eq_some hi (hlength.trans (by rw [htarget]))
  refine ⟨PixelBuffer.row?_of_lt hlt, hstored, hout, next, hset, hwidth, hheight, ?_, ?_⟩
  · rw [hrows i hi, if_pos rfl]
  · intro y hy hyi
    rw [hrows y hy, if_neg hyi]

/-- A row that can be read is drawn, and the rows behind it when it was drawn as a whole. -/
theorem drawRows_succ {left i : Nat} {target next : PixelBuffer} (hrow : t.RowInside i)
    (hset : target.setRow? i (t.drawRow (t.shownRow i) (target.row i)).2 = some next) :
    t.drawRows (left + 1) i target =
      match (t.drawRow (t.shownRow i) (target.row i)).1 with
      | .ok _ => t.drawRows left (i + 1) next
      | .error fault => (.error fault, next) := by
  have hdrawn : t.drawRows (left + 1) i target =
      match (t.drawRow (t.shownRow i) (target.row i)).1 with
      | .ok _ => t.drawRows left (i + 1)
          ((target.setRow? i (t.drawRow (t.shownRow i) (target.row i)).2).getD target)
      | .error fault => (.error fault,
          (target.setRow? i (t.drawRow (t.shownRow i) (target.row i)).2).getD target) :=
    if_pos hrow
  rwa [hset] at hdrawn

theorem drawRows_of_outside {left i : Nat} {target : PixelBuffer} (hrow : ¬ t.RowInside i) :
    t.drawRows (left + 1) i target =
      (.error (.rowOutside (CropRect.source t.crop.y t.crop.height i)), target) := by
  rw [drawRows]
  exact if_neg hrow

/-- Rows drawn with every access checked. -/
theorem drawRows?_eq (hwidth : t.width + 1 < UInt32.size) {left i : Nat} {target : PixelBuffer}
    (htarget : target.width = t.crop.width.natAbs) (hheight : target.height = i + left) :
    t.drawRows? t.crop.width.natAbs left i target = some (t.drawRows left i target) := by
  induction left generalizing i target with
  | zero => rfl
  | succ left ih =>
    have hi : i < target.height := by omega
    rw [drawRows?]
    by_cases hrow : t.RowInside i
    · obtain ⟨hread, hstored, hout, next, hset, hnext, hrows, _⟩ := exists_drawnRow htarget hi hrow
      have hlater := ih (i := i + 1) (hnext.trans htarget) (hrows.trans (by omega))
      rw [drawRows_succ hrow hset]
      simp only [if_pos (show onAxis _ _ = true from hrow), hread, PixelBuffer.row?_of_lt hi,
        drawRow?_eq hwidth hstored hout, hset, Option.bind_eq_bind, Option.bind_some]
      cases (t.drawRow (t.shownRow i) (target.row i)).1 with
      | ok _ => exact hlater
      | error fault => rfl
    · rw [drawRows_of_outside hrow]
      exact if_neg hrow

/-- Drawing with every access checked never panics, and draws the same. -/
theorem draw?_eq (hwidth : t.width + 1 < UInt32.size) (target : PixelBuffer) :
    t.draw? target = some (t.draw target) := by
  unfold draw? draw
  dsimp only
  split
  · rfl
  next hextent =>
  obtain ⟨htarget, hheight⟩ : target.width = t.crop.extent.1 ∧ target.height = t.crop.extent.2 := by
    simpa using hextent
  exact drawRows?_eq hwidth htarget (by rw [hheight, Nat.zero_add])

/-- A picture drawn from row `i` up to row `k`: the rows between show the texture, the rows before
`i` and behind `k` hold what they held in `target`. -/
structure DrawnUpTo (t : Texture) (i k : Nat) (target picture : PixelBuffer) : Prop where
  le : i ≤ k
  width : picture.width = target.width
  height : picture.height = target.height
  before : ∀ y < i, picture.row y = target.row y
  inside : ∀ y, i ≤ y → y < k → t.RowInside y ∧ t.ColumnsInside
  shows : ∀ y, i ≤ y → y < k → t.Shows (t.shownRow y) (picture.row y)
  behind : ∀ y < target.height, k < y → picture.row y = target.row y

/-- Rows drawn from row `i` on: all of them, or up to the first one that has its row or a column
outside. -/
theorem drawRows_spec {left i : Nat} {target : PixelBuffer}
    (htarget : target.width = t.crop.width.natAbs) (hheight : target.height = i + left) :
    ∃ k, t.DrawnUpTo i k target (t.drawRows left i target).2 ∧
      ((t.drawRows left i target).1 = .ok () ∧ k = target.height ∨
        (t.drawRows left i target).1 ≠ .ok () ∧ k < target.height ∧
          ¬ (t.RowInside k ∧ t.ColumnsInside)) := by
  induction left generalizing i target with
  | zero =>
    have hi : i = target.height := hheight.symm
    refine ⟨i, ⟨Nat.le_refl i, rfl, rfl, ?_, ?_, ?_, ?_⟩, .inl ⟨rfl, hi⟩⟩
    · exact fun _ _ => rfl
    · omega
    · omega
    · exact fun _ _ _ => rfl
  | succ left ih =>
    have hi : i < target.height := by omega
    by_cases hrow : t.RowInside i
    · obtain ⟨_, hstored, hout, next, hset, hwidth, hnext, hdrawn, hothers⟩ :=
        exists_drawnRow htarget hi hrow
      obtain ⟨_, hiff, hshows⟩ := drawRow_spec hstored hout
      rw [drawRows_succ hrow hset]
      cases hresult : (t.drawRow (t.shownRow i) (target.row i)).1 with
      | ok _ =>
        have hcolumns := hiff.mp hresult
        obtain ⟨k, hk, hend⟩ := ih (i := i + 1) (hwidth.trans htarget) (hnext.trans (by omega))
        rw [hnext] at hend
        refine ⟨k, ⟨by have := hk.le; omega, hk.width.trans hwidth, hk.height.trans hnext, ?_, ?_,
          ?_, ?_⟩, hend⟩
        · intro y hy
          rw [hk.before y (by omega), hothers y (by omega) (by omega)]
        · intro y hiy hyk
          by_cases hy : y = i
          · exact hy ▸ ⟨hrow, hcolumns⟩
          · exact hk.inside y (by omega) hyk
        · intro y hiy hyk
          by_cases hy : y = i
          · rw [hy, hk.before i (Nat.lt_succ_self i), hdrawn]
            exact hshows hresult
          · exact hk.shows y (by omega) hyk
        · intro y hy hky
          have hle := hk.le
          rw [hk.behind y (hnext ▸ hy) hky, hothers y hy (by omega)]
      | error fault =>
        refine ⟨i, ⟨Nat.le_refl i, hwidth, hnext, ?_, ?_, ?_, ?_⟩, .inr ⟨nofun, hi, ?_⟩⟩
        · intro y hy
          exact hothers y (by omega) (by omega)
        · omega
        · omega
        · intro y hy hiy
          exact hothers y hy (by omega)
        · rintro ⟨_, hcolumns⟩
          rw [hiff.mpr hcolumns] at hresult
          cases hresult
    · rw [drawRows_of_outside hrow]
      refine ⟨i, ⟨Nat.le_refl i, rfl, rfl, ?_, ?_, ?_, ?_⟩, .inr ⟨nofun, hi, fun h => hrow h.1⟩⟩
      · exact fun _ _ => rfl
      · omega
      · omega
      · exact fun _ _ _ => rfl

/-- Drawing shows the texture in every row, or in all rows before the first one that has its row or
a column outside. -/
theorem draw_spec {target : PixelBuffer} (hextent : t.crop.extent = (target.width, target.height)) :
    ∃ k, t.DrawnUpTo 0 k target (t.draw target).2 ∧
      ((t.draw target).1 = .ok () ∧ k = target.height ∨
        (t.draw target).1 ≠ .ok () ∧ k < target.height ∧ ¬ (t.RowInside k ∧ t.ColumnsInside)) := by
  have hdraw : t.draw target = t.drawRows target.height 0 target := by
    rw [draw, hextent]
    simp
  have htarget : target.width = t.crop.width.natAbs := (congrArg Prod.fst hextent).symm
  rw [hdraw]
  exact drawRows_spec htarget (Nat.zero_add target.height).symm

/-- A texture with room for one column more is drawn without a panic. Over a picture of the extent
of its crop rectangle, drawing succeeds exactly when each row shows a row of the texture and
columns of it, and then each pixel of the picture is the pixel of the texture at that row and
column. When drawing fails, the rows behind the first one that could not be drawn are kept. A
picture of another size is refused. -/
theorem draw_samples (t : Texture) (hwidth : t.width + 1 < UInt32.size) (target : PixelBuffer) :
    t.draw? target = some (t.draw target) ∧
    (t.crop.extent ≠ (target.width, target.height) → t.draw target =
      (.error (.targetMismatch target.width target.height t.crop.extent.1 t.crop.extent.2),
        target)) ∧
    (t.crop.extent = (target.width, target.height) →
      ((t.draw target).1 = .ok () ↔ ∀ i < target.height, t.RowInside i ∧ t.ColumnsInside) ∧
      ((t.draw target).2.width = target.width ∧ (t.draw target).2.height = target.height) ∧
      ((t.draw target).1 = .ok () → ∀ i < target.height, ∀ j < target.width,
        (t.draw target).2.pixel? j i =
          t.image.pixel? (CropRect.source t.crop.x t.crop.width j).toNat
            (CropRect.source t.crop.y t.crop.height i).toNat) ∧
      ((t.draw target).1 ≠ .ok () → ∃ k < target.height, ¬ (t.RowInside k ∧ t.ColumnsInside) ∧
        (∀ i < k, t.RowInside i ∧ t.ColumnsInside) ∧
        ∀ y < target.height, k < y → (t.draw target).2.row y = target.row y)) := by
  refine ⟨draw?_eq hwidth target, ?_, ?_⟩
  · intro hextent
    have hsizes : target.width ≠ t.crop.extent.1 ∨ target.height ≠ t.crop.extent.2 := by
      refine Classical.or_iff_not_imp_left.mpr ?_
      intro hsame hheight
      exact hextent (Prod.ext (Classical.not_not.mp hsame).symm hheight.symm)
    exact if_pos hsizes
  · intro hextent
    obtain ⟨k, hk, hend⟩ := draw_spec hextent
    refine ⟨⟨?_, ?_⟩, ⟨hk.width, hk.height⟩, ?_, ?_⟩
    · intro hok i hi
      obtain ⟨_, rfl⟩ | ⟨hfailed, _⟩ := hend
      · exact hk.inside i (Nat.zero_le i) hi
      · exact absurd hok hfailed
    · intro hall
      obtain ⟨hok, _⟩ | ⟨_, hlt, hout⟩ := hend
      · exact hok
      · exact absurd (hall k hlt) hout
    · intro hok i hi j hj
      obtain ⟨_, rfl⟩ | ⟨hfailed, _⟩ := hend
      · obtain ⟨hrow, hcolumns⟩ := hk.inside i (Nat.zero_le i) hi
        have htarget : target.width = t.crop.width.natAbs := (congrArg Prod.fst hextent).symm
        have hrow' := onAxis_iff.mp hrow
        have hcolumn' := onAxis_iff.mp (hcolumns.1 j (htarget ▸ hj))
        have hshown := hk.shows i (Nat.zero_le i) hi j (htarget ▸ hj)
        have hsize : t.width = t.image.width ∧ t.height = t.image.height := ⟨rfl, rfl⟩
        rw [PixelBuffer.pixel?_of_lt (hk.width.symm ▸ hj) (hk.height.symm ▸ hi),
          PixelBuffer.pixel?_of_lt (b := t.image) (by omega) (by omega)]
        exact congrArg some hshown
      · exact absurd hok hfailed
    · intro hfailed
      obtain ⟨hok, _⟩ | ⟨_, hlt, hout⟩ := hend
      · exact absurd hok hfailed
      · exact ⟨k, hlt, hout, fun i hi => hk.inside i (Nat.zero_le i) hi, hk.behind⟩

/-- Two pixels drawn from right to left. -/
theorem draw_samples_mirrored :
    ∃ t : Texture, t.width + 1 < UInt32.size ∧
      t.image.row 0 = [10, 11, 12, 13, 20, 21, 22, 23] ∧ t.crop = ⟨2, 0, -2, 1⟩ ∧
      (t.draw (.blank 2 1)).1 = .ok () ∧
      (t.draw (.blank 2 1)).2.pixel? 0 0 = some [20, 21, 22, 23] ∧
      (t.draw (.blank 2 1)).2.pixel? 1 0 = some [10, 11, 12, 13] := by
  let t : Texture := ⟨⟨2, 1, #v[#v[10, 11, 12, 13, 20, 21, 22, 23]]⟩, ⟨2, 0, -2, 1⟩⟩
  have hwidth : t.width + 1 < UInt32.size := by decide
  obtain ⟨_, _, hdraw⟩ := draw_samples t hwidth (.blank 2 1)
  obtain ⟨hiff, _, hpixels, _⟩ := hdraw rfl
  have hinside : ∀ i < 1, t.RowInside i ∧ t.ColumnsInside := by
    intro i hi
    obtain rfl : i = 0 := by omega
    exact ⟨by decide, by decide⟩
  have hok := hiff.mpr hinside
  refine ⟨t, hwidth, by decide, rfl, hok, ?_, ?_⟩
  · rw [hpixels hok 0 (by decide) 0 (by decide)]
    decide
  · rw [hpixels hok 0 (by decide) 1 (by decide)]
    decide

end Texture

end AviPlayback
