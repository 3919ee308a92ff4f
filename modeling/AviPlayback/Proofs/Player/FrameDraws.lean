import AviPlayback.Proofs.Container.ReadThrough
import AviPlayback.Proofs.Player.SamePictures

/-!
The frames of a clip drawn through a texture. A renderer that has its texture shows the next frame
upright, whatever it showed before, and moves the clip on by one frame; behind the last frame it
shows nothing (`TextureRenderer.Ready.draw_of_lt`, `TextureRenderer.Ready.draw_at_end`).
-/
set_option autoImplicit false

namespace AviPlayback

namespace Clip

def image (c : Clip) (e : FrameEntry) : Except PictureFault PixelBuffer :=
  convertFrame c.layout (e.payload c.file).toArray (.blank c.width c.height)

def atFrame (c : Clip) (k : Nat) : Clip := { c with position := k }

/-- A clip of a size that can be played, whose frames are all complete. -/
structure Drawable (c : Clip) : Prop where
  width : c.width ≠ 0 ∧ c.width ≤ maxDimension
  height : c.height ≠ 0 ∧ c.height ≤ maxDimension
  stop_le : ∀ e ∈ c.index.entries, e.stop ≤ c.file.size
  check : ∀ e ∈ c.index.entries,
    ∃ stride, checkFrame c.layout (e.payload c.file).toArray = .ok stride

theorem checkFrame_of_le {layout : FrameLayout} {source : Bytes} {bytes : Nat}
    (hwidth : layout.width ≠ 0) (hheight : layout.height ≠ 0)
    (hbytes : layout.frameBytes? = some bytes) (hsource : bytes ≤ source.size) :
    ∃ stride, checkFrame layout source = .ok stride := by
  obtain ⟨stride, hstride, _⟩ := FrameLayout.frameBytes?_eq_some_iff.mp hbytes
  exact ⟨stride, checkFrame_eq_ok_iff_frameBytes?.mpr ⟨Nat.pos_of_ne_zero hwidth,
    Nat.pos_of_ne_zero hheight, hstride, bytes, hbytes, hsource⟩⟩

theorem size_pos_of_checkFrame {layout : FrameLayout} {source : Bytes} {stride : Nat}
    (h : checkFrame layout source = .ok stride) : 0 < source.size := by
  unfold checkFrame at h
  split at h
  · split at h
    · cases h
    split at h
    · cases h
    · omega
  · cases h

/-- An opened clip whose frames can be converted and have all their bytes. -/
theorem drawable_of_ofBytes {file : Bytes} {opened : Clip} (h : ofBytes file = .ok opened)
    (hpixels : opened.layout.pixels.isConvertible)
    (hframes : ∀ e ∈ opened.index.entries, ∀ bytes ∈ opened.layout.frameBytes?,
      bytes ≤ e.size.toNat) : opened.Drawable := by
  obtain ⟨⟨hwpos, hwle⟩, hhpos, hhle⟩ := dimensions_of_check (checkDimensions_of_ofBytes h)
  have hplayable := playable_of_ofBytes h
  obtain ⟨bytes, hbytes⟩ := frameBytes?_of_le (l := opened.layout) hwle hhle hpixels
  refine ⟨⟨Nat.ne_of_gt hwpos, hwle⟩, ⟨Nat.ne_of_gt hhpos, hhle⟩, hplayable.stop_le,
    fun e he => ?_⟩
  refine checkFrame_of_le (Nat.ne_of_gt hwpos) (Nat.ne_of_gt hhpos) hbytes ?_
  rw [List.size_toArray, FrameEntry.length_payload (hplayable.stop_le e he)]
  exact hframes e he bytes hbytes

namespace Drawable

variable {c : Clip} {e : FrameEntry} {k : Nat}

/-- Every frame has a picture. -/
theorem image_eq (hc : c.Drawable) (he : e ∈ c.index.entries) : ∃ stride,
    checkFrame c.layout (e.payload c.file).toArray = .ok stride ∧
    c.image e = .ok (convertRows c.layout.pixels (e.payload c.file).toArray stride
      c.layout.uprightRow (.blank c.width c.height)) := by
  obtain ⟨stride, hcheck⟩ := hc.check e he
  refine ⟨stride, hcheck, ?_⟩
  have hsame : ¬ ((PixelBuffer.blank c.width c.height).width ≠ c.layout.width ∨
      (PixelBuffer.blank c.width c.height).height ≠ c.layout.height) := by
    simp [PixelBuffer.blank, layout]
  rw [image, convertFrame, if_neg hsame, hcheck]
  rfl

theorem exists_images (hc : c.Drawable) :
    ∃ images : List PixelBuffer, c.index.entries.map c.image = images.map .ok := by
  have hall : ∀ entries : List FrameEntry, (∀ e ∈ entries, e ∈ c.index.entries) →
      ∃ images : List PixelBuffer, entries.map c.image = images.map .ok := by
    intro entries hentries
    induction entries with
    | nil => exact ⟨[], rfl⟩
    | cons e rest ih =>
      obtain ⟨images, himages⟩ := ih fun e he => hentries e (List.mem_cons_of_mem _ he)
      obtain ⟨_, _, himage⟩ := hc.image_eq (hentries e List.mem_cons_self)
      exact ⟨_ :: images, by rw [List.map_cons, List.map_cons, himage, himages]⟩
  exact hall c.index.entries fun _ he => he

/-- The next frame is fetched whole. -/
theorem fetch_of_lt (hc : c.Drawable) (he : c.index.entries[k]? = some e) {W : Type} (w : W)
    {capacity : Nat} (hcapacity : c.maxFrameSize ≤ capacity) :
    FrameReader.fetch w (c.atFrame k) capacity =
      (.frame (e.payload c.file).toArray, c.atFrame (k + 1)) := by
  have hmem := List.mem_of_getElem? he
  have hfits : e.size.toNat ≤ capacity :=
    Nat.le_trans (FrameIndex.size_le_maxFrameSize hmem) hcapacity
  have hread : readAt c.file e.offset e.size.toNat = some (e.payload c.file) :=
    readAt_of_le (hc.stop_le e hmem)
  have hget : c.index.get? k = some e := he
  have hnext : (c.atFrame k).nextFrame capacity = (.ok (e.payload c.file), c.atFrame (k + 1)) := by
    unfold nextFrame atFrame
    dsimp only
    rw [hget]
    dsimp only
    rw [if_neg (Nat.not_lt.mpr hfits), hread]
  have hfull : (e.payload c.file).isEmpty = false := by
    obtain ⟨stride, hcheck⟩ := hc.check e hmem
    have hpos := size_pos_of_checkFrame hcheck
    rw [List.size_toArray] at hpos
    exact List.isEmpty_eq_false_iff.mpr (List.ne_nil_of_length_pos hpos)
  rw [fetch_eq, hnext]
  dsimp only
  rw [hfull]
  rfl

end Drawable

section

variable {c : Clip} {images : List PixelBuffer}
  (himages : c.index.entries.map c.image = images.map .ok)

include himages

theorem frameCount_eq_length : c.frameCount = images.length := by
  have hlength := congrArg List.length himages
  rwa [List.length_map, List.length_map] at hlength

theorem exists_image {k : Nat} (hk : k < images.length) :
    ∃ e, c.index.entries[k]? = some e ∧ c.image e = .ok images[k] := by
  have hplace := congrArg (·[k]?) himages
  simp only [List.getElem?_map, List.getElem?_eq_getElem hk, Option.map_some] at hplace
  exact Option.map_eq_some_iff.mp hplace

end

theorem fetch_at_end (c : Clip) {W : Type} (w : W) (capacity : Nat) :
    FrameReader.fetch w (c.atFrame c.frameCount) capacity = (.nothing, c.atFrame c.frameCount) := by
  have hget : c.index.get? c.frameCount = none := List.getElem?_eq_none (Nat.le_refl _)
  have hnext : (c.atFrame c.frameCount).nextFrame capacity = (.ok [], c.atFrame c.frameCount) := by
    unfold nextFrame atFrame
    rw [hget]
  rw [fetch_eq, hnext]
  rfl

end Clip

namespace TextureRenderer

/-- A renderer with buffers for the frames of a clip. -/
structure Fits (c : Clip) (r : TextureRenderer) : Prop where
  layout : r.layout = c.layout
  buffer : c.maxFrameSize ≤ r.buffer.size
  width : r.target.width = c.width
  height : r.target.height = c.height

/-- A renderer that has its texture, too. -/
structure Ready (c : Clip) (r : TextureRenderer) : Prop extends Fits c r where
  texture : ∃ t, r.texture = some t ∧ t.crop = .ofLayout c.layout ∧ t.width = c.width ∧
    t.height = c.height

section

variable {c : Clip} {r : TextureRenderer}

theorem fits_create (hc : c.Drawable) (h : create c.info = .ok r) : Fits c r := by
  have htarget := Clip.tryNew_of_le hc.width.2 hc.height.2
  have hlimit : c.maxFrameSize < bufferLimit := Nat.lt_trans c.index.maxFrameSize_lt (by decide)
  rcases Nat.eq_zero_or_pos c.maxFrameSize with hzero | hpos
  · have hnone : create c.info = .error (.renderer .noFrameSize) := if_pos hzero
    rw [hnone] at h
    cases h
  · have hcreate : create c.info = _ := create_of_lt hpos hlimit htarget
    rw [hcreate] at h
    cases h
    exact ⟨rfl, Nat.le_refl _, rfl, rfl⟩

/-- A surface that appears gives a renderer its texture. -/
theorem Fits.initSurface (h : Fits c r) (hc : c.Drawable) :
    ∃ ready, r.initSurface = (.ok (), ready) ∧ Ready c ready := by
  have himage : PixelBuffer.tryNew r.layout.width r.layout.height =
      .ok (.blank c.width c.height) := by
    rw [h.layout]
    exact Clip.tryNew_of_le hc.width.2 hc.height.2
  have hextent : (CropRect.ofLayout r.layout).extent = (r.target.width, r.target.height) := by
    rw [h.layout, h.width, h.height]
    exact CropRect.extent_ofLayout (Nat.lt_of_le_of_lt hc.width.2 (by decide))
      (Nat.lt_of_le_of_lt hc.height.2 (by decide))
  refine ⟨_, initSurface_of_ok himage hextent, ⟨h.layout, h.buffer, h.width, h.height⟩, _, rfl, ?_,
    rfl, rfl⟩
  rw [h.layout]

section

variable {S : Type} [FrameSink S]

/-- The next frame is shown upright. -/
theorem Ready.draw_of_lt (h : Ready c r) (hc : c.Drawable) {k : Nat} {e : FrameEntry}
    (he : c.index.entries[k]? = some e) {image : PixelBuffer} (himage : c.image e = .ok image)
    (sink : S) : ∃ next, r.draw (c.atFrame k) sink =
      ⟨if (FrameSink.present sink image).1 = .panicked then .panicked else .more, next,
        c.atFrame (k + 1), (FrameSink.present sink image).2, [image]⟩ ∧ Ready c next := by
  obtain ⟨t, ht, hcrop, htw, hth⟩ := h.texture
  obtain ⟨stride, hcheck, hconverted⟩ := hc.image_eq (List.mem_of_getElem? he)
  have hupright := Except.ok.inj (himage.symm.trans hconverted)
  have hwlt : c.layout.width < UInt32.size / 2 := Nat.lt_of_le_of_lt hc.width.2 (by decide)
  have hhlt : c.layout.height < UInt32.size / 2 := Nat.lt_of_le_of_lt hc.height.2 (by decide)
  have hfits : (e.payload c.file).toArray.size ≤ r.buffer.size := by
    rw [List.size_toArray, FrameEntry.length_payload (hc.stop_le e (List.mem_of_getElem? he))]
    exact Nat.le_trans (FrameIndex.size_le_maxFrameSize (List.mem_of_getElem? he)) h.buffer
  let uploaded : Texture := { t with
    image := convertRows r.layout.pixels (e.payload c.file).toArray stride id t.image }
  obtain ⟨drawn, hdraw, hdw, hdh, hrows⟩ := Texture.draw_ofLayout (t := uploaded)
    hcrop htw hth h.width h.height hwlt hhlt
  -- what the texture held before does not matter
  have hpicture : drawn = image := by
    rw [hupright]
    refine PixelBuffer.ext_row hdw hdh fun y hy => ?_
    rw [hdh] at hy
    have hrow := FrameLayout.uprightRow_lt hy
    have hblank : (PixelBuffer.blank c.width c.height).width = c.layout.width := rfl
    have hsame := row_convertRows_congr hcheck hblank htw hy (Nat.lt_of_lt_of_eq hrow hth.symm) rfl
      hrow
    rw [hrows y hy, hsame, ← h.layout]
  have hdrawn := drawPayload_of_ok ht (htw.trans (congrArg FrameLayout.width h.layout).symm)
    (hth.trans (congrArg FrameLayout.height h.layout).symm) hfits (h.layout ▸ hcheck) rfl hdraw
    (c.atFrame (k + 1)) sink
  rw [hpicture] at hdrawn
  have hfetched : r.draw (c.atFrame k) sink =
      r.drawPayload (e.payload c.file).toArray (c.atFrame (k + 1)) sink := by
    rw [TextureRenderer.draw, hc.fetch_of_lt he sink h.buffer]
  refine ⟨_, hfetched.trans hdrawn, ⟨h.layout, h.buffer, ?_, ?_⟩, uploaded, rfl, hcrop, htw, hth⟩
  · rw [hupright]
    rfl
  · rw [hupright]
    rfl

/-- Behind the last frame nothing is shown, and that is the end of the stream. -/
theorem draw_at_end (r : TextureRenderer) (c : Clip) (sink : S) :
    r.draw (c.atFrame c.frameCount) sink = ⟨.ended, r, c.atFrame c.frameCount, sink, []⟩ := by
  rw [TextureRenderer.draw, c.fetch_at_end]

end

end

end TextureRenderer

end AviPlayback
