import AviPlayback.Player.Blitter
import AviPlayback.Player.Renderer
import AviPlayback.Proofs.Container.OpenClip
import AviPlayback.Proofs.Frame.Drawing

/-!
A clip played in software and through a texture. A blitter turns frames upright while it converts
them, a texture renderer when it draws them; opened twice, a clip gives both the same pictures, call
by call (`Clip.blits_eq_draws`).
-/
set_option autoImplicit false

namespace AviPlayback

namespace FrameIndex

theorem maxFrameSize_lt (ix : FrameIndex) : ix.maxFrameSize < UInt32.size := by
  have hgrows : ∀ (entries : List FrameEntry) (m : Nat), m < UInt32.size →
      entries.foldl (fun m e => max m e.size.toNat) m < UInt32.size := by
    intro entries
    induction entries with
    | nil => exact fun m hm => hm
    | cons e rest ih => exact fun m hm => ih _ (Nat.max_lt.mpr ⟨hm, e.size.toNat_lt⟩)
  exact hgrows ix.entries 0 (by decide)

end FrameIndex

namespace Clip

/-- A buffer for the largest frame is never too small, so its size does not matter. -/
theorem nextFrame_congr {c : Clip} {n m : Nat} (hn : c.maxFrameSize ≤ n) (hm : c.maxFrameSize ≤ m) :
    c.nextFrame n = c.nextFrame m := by
  unfold nextFrame
  split
  · rfl
  · next e he =>
    have hsize : e.size.toNat ≤ c.maxFrameSize :=
      FrameIndex.size_le_maxFrameSize (List.mem_of_getElem? he)
    dsimp only
    rw [if_neg (by omega), if_neg (by omega)]

theorem length_le_of_nextFrame {c d : Clip} {n : Nat} {payload : List UInt8}
    (h : c.nextFrame n = (.ok payload, d)) : payload.length ≤ c.maxFrameSize := by
  unfold nextFrame at h
  split at h
  · cases h
    exact Nat.zero_le _
  · next e he =>
    dsimp only at h
    split at h
    · cases h
    split at h
    · cases h
    · next hread =>
      cases h
      rw [length_of_readAt hread]
      exact FrameIndex.size_le_maxFrameSize (List.mem_of_getElem? he)

/-- Fetching a frame of a clip never panics. -/
theorem fetch_eq {W : Type} (w : W) (c : Clip) (n : Nat) :
    FrameReader.fetch w c n = match c.nextFrame n with
      | (.ok payload, d) => (if payload.isEmpty then .nothing else .frame payload.toArray, d)
      | (.error _, d) => (.nothing, d) := by
  have hread : FrameReader.read w c n = c.read n := rfl
  rw [FrameReader.fetch, hread, read]
  rcases c.nextFrame n with ⟨fault | payload, d⟩
  · rfl
  · simp

/-- Fetching gives a frame, or none. -/
theorem fetch_cases {W : Type} (w : W) (c : Clip) (n : Nat) :
    ∃ d, d.maxFrameSize = c.maxFrameSize ∧
      (FrameReader.fetch w c n = (.nothing, d) ∨
        ∃ payload, payload.size ≤ c.maxFrameSize ∧
          FrameReader.fetch w c n = (.frame payload, d)) := by
  rw [fetch_eq]
  rcases c.nextFrame_cases n with hnext | ⟨fault, hnext⟩ | ⟨_, payload, hnext⟩
  · exact ⟨c, rfl, .inl (by rw [hnext]; rfl)⟩
  · exact ⟨c, rfl, .inl (by rw [hnext])⟩
  · refine ⟨{ c with position := c.position + 1 }, rfl, ?_⟩
    rw [hnext]
    by_cases hempty : payload.isEmpty
    · exact .inl (by simp [hempty])
    · exact .inr ⟨payload.toArray, length_le_of_nextFrame hnext, by simp [hempty]⟩

theorem fetch_congr {W V : Type} (w : W) (v : V) {c : Clip} {n m : Nat} (hn : c.maxFrameSize ≤ n)
    (hm : c.maxFrameSize ≤ m) : FrameReader.fetch w c n = FrameReader.fetch v c m := by
  rw [fetch_eq, fetch_eq, nextFrame_congr hn hm]

end Clip

namespace Blitter

section

variable {D : Type} {b : Blitter} {payload : Bytes} {picture : PixelBuffer}

theorem ofInfo_of_lt {info : StreamInfo}
    (h : max (info.layout.frameBytes?.getD 0) info.maxFrameSize < bufferLimit) :
    ofInfo info = .ok ⟨info.layout,
      .zeroed (max (info.layout.frameBytes?.getD 0) info.maxFrameSize)⟩ := by
  rw [ofInfo, Scratch.tryZeroed_of_lt h]
  rfl

/-- A frame that cannot be converted leaves the picture as it was. -/
theorem blitPayload_of_error (hwidth : picture.width = b.layout.width)
    (hheight : picture.height = b.layout.height) {fault : PictureFault}
    (hcheck : checkFrame b.layout payload = .error fault) (d : D) :
    b.blitPayload payload d picture =
      ⟨false, false, { b with scratch := b.scratch.overwrite payload }, d, picture⟩ := by
  have hsizes : ¬ (picture.width ≠ b.layout.width ∨ picture.height ≠ b.layout.height) := by
    simp [hwidth, hheight]
  simp only [blitPayload, Scratch.front_overwrite, convertFrame, if_neg hsizes, hcheck]
  rfl

theorem blitPayload_of_ok (hwidth : picture.width = b.layout.width)
    (hheight : picture.height = b.layout.height) {stride : Nat}
    (hcheck : checkFrame b.layout payload = .ok stride) (d : D) :
    b.blitPayload payload d picture =
      ⟨true, false, { b with scratch := b.scratch.overwrite payload }, d,
        convertRows b.layout.pixels payload stride b.layout.uprightRow picture⟩ := by
  have hsizes : ¬ (picture.width ≠ b.layout.width ∨ picture.height ≠ b.layout.height) := by
    simp [hwidth, hheight]
  simp only [blitPayload, Scratch.front_overwrite, convertFrame, if_neg hsizes, hcheck]
  rfl

end

/-- What a blitter leaves after some calls, each over the picture of the one before. -/
def calls {D W : Type} [FrameReader D W] (b : Blitter) (w : W) (d : D) (picture : PixelBuffer) :
    Nat → Blitted D
  | 0 => ⟨false, false, b, d, picture⟩
  | n + 1 =>
    let last := b.calls w d picture n
    last.blitter.renderFrame w last.decoder last.picture

end Blitter

namespace TextureRenderer

section

variable {D S : Type} [FrameSink S] {r : TextureRenderer} {t : Texture} {payload : Bytes}

theorem initSurface_of_ok {image : PixelBuffer}
    (himage : PixelBuffer.tryNew r.layout.width r.layout.height = .ok image)
    (hextent : (CropRect.ofLayout r.layout).extent = (r.target.width, r.target.height)) :
    r.initSurface = (.ok (), { r with texture := some ⟨image, .ofLayout r.layout⟩ }) := by
  have htexture : Texture.tryNew r.layout.width r.layout.height =
      .ok ⟨image, .full r.layout.width r.layout.height⟩ := by
    rw [Texture.tryNew, himage]
    rfl
  have hfit : fitTarget r.target (r.target.width, r.target.height) = .ok r.target :=
    if_neg (by simp)
  simp only [initSurface, htexture, ok_bind, hextent, hfit]
  rfl

/-- A frame that cannot be converted ends the stream, and nothing is shown. -/
theorem drawPayload_of_error (ht : r.texture = some t) (hwidth : t.width = r.layout.width)
    (hheight : t.height = r.layout.height) (hsize : payload.size ≤ r.buffer.size)
    {fault : PictureFault} (hcheck : checkFrame r.layout payload = .error fault) (d : D) (sink : S) :
    r.drawPayload payload d sink =
      ⟨.ended, { r with buffer := r.buffer.overwrite payload }, d, sink, []⟩ := by
  have hsizes : ¬ (r.layout.width ≠ t.width ∨ r.layout.height ≠ t.height) := by
    simp [hwidth, hheight]
  simp only [drawPayload, ht, if_neg (Nat.not_lt.mpr hsize), Scratch.front_overwrite,
    Texture.upload, if_neg hsizes, hcheck]

/-- A frame that can be converted is shown as its texture is drawn. -/
theorem drawPayload_of_ok (ht : r.texture = some t) (hwidth : t.width = r.layout.width)
    (hheight : t.height = r.layout.height) (hsize : payload.size ≤ r.buffer.size) {stride : Nat}
    (hcheck : checkFrame r.layout payload = .ok stride) {uploaded : Texture}
    (huploaded : uploaded =
      { t with image := convertRows r.layout.pixels payload stride id t.image })
    {drawn : PixelBuffer} (hdraw : uploaded.draw r.target = (.ok (), drawn)) (d : D) (sink : S) :
    r.drawPayload payload d sink =
      ⟨if (FrameSink.present sink drawn).1 = .panicked then .panicked else .more,
        { r with buffer := r.buffer.overwrite payload, texture := some uploaded, target := drawn },
        d, (FrameSink.present sink drawn).2, [drawn]⟩ := by
  have hsizes : ¬ (r.layout.width ≠ t.width ∨ r.layout.height ≠ t.height) := by
    simp [hwidth, hheight]
  simp only [drawPayload, ht, if_neg (Nat.not_lt.mpr hsize), Scratch.front_overwrite,
    Texture.upload, if_neg hsizes, hcheck, ← huploaded, drawTexture, hdraw]

end

def calls {D S : Type} [FrameReader D S] [FrameSink S] (r : TextureRenderer) (d : D) (sink : S) :
    Nat → Drawing TextureRenderer D S
  | 0 => ⟨.ended, r, d, sink, []⟩
  | n + 1 =>
    let last := r.calls d sink n
    last.renderer.draw last.decoder last.sink

end TextureRenderer

/-- A blitter with its picture and a texture renderer, both for frames of one layout and both about
to read the same frame of one clip. -/
structure SamePlace (layout : FrameLayout) (b : Blitter) (picture : PixelBuffer) (c : Clip)
    (r : TextureRenderer) (d : Clip) : Prop where
  clip : c = d
  blitter : b.layout = layout
  scratch : c.maxFrameSize ≤ b.scratch.size
  width : picture.width = layout.width
  height : picture.height = layout.height
  renderer : r.layout = layout
  buffer : c.maxFrameSize ≤ r.buffer.size
  targetWidth : r.target.width = layout.width
  targetHeight : r.target.height = layout.height
  texture : ∃ t, r.texture = some t ∧ t.crop = .ofLayout layout ∧ t.width = layout.width ∧
    t.height = layout.height

/-- One call of a blitter and one of a renderer that came to the same: a frame for both, shown as
the picture of the blitter, or a frame for neither. A surface may panic when it is shown. -/
structure Same {S : Type} [FrameSink S] (layout : FrameLayout) (before : PixelBuffer) (sink : S)
    (blitted : Blitted Clip) (drawn : Drawing TextureRenderer Clip S) : Prop where
  place : SamePlace layout blitted.blitter blitted.picture blitted.decoder drawn.renderer
    drawn.decoder
  quiet : blitted.panicked = false
  pictures : drawn.pictures = if blitted.fresh then [blitted.picture] else []
  outcome : drawn.outcome = if blitted.fresh then
    (if (FrameSink.present sink blitted.picture).1 = .panicked then .panicked else .more) else .ended
  unchanged : blitted.fresh = false → blitted.picture = before

namespace SamePlace

variable {layout : FrameLayout} {b : Blitter} {picture : PixelBuffer} {c d : Clip}
  {r : TextureRenderer} {S W : Type} [FrameSink S]

/-- A frame that both have read: either both convert it, to the same picture, or neither does. -/
theorem blit_and_draw (h : SamePlace layout b picture c r d)
    (hwlt : layout.width < UInt32.size / 2) (hhlt : layout.height < UInt32.size / 2)
    {payload : Bytes} (hpayload : payload.size ≤ r.buffer.size) (sink : S) :
    Same layout picture sink (b.blitPayload payload c picture) (r.drawPayload payload d sink) := by
  obtain ⟨t, ht, hcrop, htw, hth⟩ := h.texture
  obtain ⟨rfl, rfl, hscratch, hwidth, hheight, hlayout, hbuffer, htargetWidth, htargetHeight, _⟩ := h
  cases hcheck : checkFrame b.layout payload with
  | error fault =>
    rw [Blitter.blitPayload_of_error hwidth hheight hcheck,
      TextureRenderer.drawPayload_of_error ht (hlayout ▸ htw) (hlayout ▸ hth) hpayload
        (hlayout ▸ hcheck)]
    exact ⟨⟨rfl, rfl, hscratch, hwidth, hheight, hlayout, hbuffer, htargetWidth, htargetHeight, t,
      ht, hcrop, htw, hth⟩, rfl, rfl, rfl, fun _ => rfl⟩
  | ok stride =>
    let uploaded : Texture :=
      { t with image := convertRows r.layout.pixels payload stride id t.image }
    obtain ⟨drawn, hdraw, hdw, hdh, hrows⟩ := Texture.draw_ofLayout (t := uploaded)
      hcrop htw hth htargetWidth htargetHeight hwlt hhlt
    -- the picture that is drawn is the one that is converted upright
    have hpicture : drawn =
        convertRows b.layout.pixels payload stride b.layout.uprightRow picture := by
      refine PixelBuffer.ext_row (hdw.trans hwidth.symm) (hdh.trans hheight.symm) fun y hy => ?_
      rw [hdh] at hy
      have hupright := FrameLayout.uprightRow_lt hy
      have hsame := row_convertRows_congr hcheck hwidth htw (Nat.lt_of_lt_of_eq hy hheight.symm)
        (Nat.lt_of_lt_of_eq hupright hth.symm) rfl hupright
      rw [hrows y hy, hsame, ← hlayout]
    rw [Blitter.blitPayload_of_ok hwidth hheight hcheck,
      TextureRenderer.drawPayload_of_ok ht (hlayout ▸ htw) (hlayout ▸ hth) hpayload
        (hlayout ▸ hcheck) rfl hdraw, hpicture]
    exact ⟨⟨rfl, rfl, hscratch, hwidth, hheight, hlayout, hbuffer, hwidth, hheight, uploaded, rfl,
      hcrop, htw, hth⟩, rfl, rfl, rfl, nofun⟩

/-- One call of each. -/
theorem call (h : SamePlace layout b picture c r d)
    (hwlt : layout.width < UInt32.size / 2) (hhlt : layout.height < UInt32.size / 2) (w : W) (sink : S) :
    Same layout picture sink (b.renderFrame w c picture) (r.draw d sink) := by
  obtain rfl := h.clip
  obtain ⟨e, hmax, hnothing | ⟨payload, hpayload, hframe⟩⟩ := Clip.fetch_cases sink c r.buffer.size
  all_goals
    have hplace : SamePlace layout b picture e r e :=
      { h with clip := rfl, scratch := hmax ▸ h.scratch, buffer := hmax ▸ h.buffer }
  · have hblit := (Clip.fetch_congr w sink h.scratch h.buffer).trans hnothing
    rw [Blitter.renderFrame, hblit, TextureRenderer.draw, hnothing]
    exact ⟨hplace, rfl, rfl, rfl, fun _ => rfl⟩
  · have hblit := (Clip.fetch_congr w sink h.scratch h.buffer).trans hframe
    have hscratch : ¬ b.scratch.size < payload.size :=
      Nat.not_lt.mpr (Nat.le_trans hpayload h.scratch)
    rw [Blitter.renderFrame, hblit, TextureRenderer.draw, hframe]
    dsimp only
    rw [if_neg hscratch]
    exact hplace.blit_and_draw hwlt hhlt (Nat.le_trans hpayload h.buffer) sink

/-- Any number of calls of each. -/
theorem calls (h : SamePlace layout b picture c r d) (w : W) (sink : S)
    (hwlt : layout.width < UInt32.size / 2) (hhlt : layout.height < UInt32.size / 2) (n : Nat) :
    SamePlace layout (b.calls w c picture n).blitter (b.calls w c picture n).picture
      (b.calls w c picture n).decoder (r.calls d sink n).renderer (r.calls d sink n).decoder := by
  induction n with
  | zero => exact h
  | succ n ih => exact (ih.call hwlt hhlt w (r.calls d sink n).sink).place

end SamePlace

namespace Clip

theorem frameBytes_lt {l : FrameLayout} (hwidth : l.width ≤ maxDimension)
    (hheight : l.height ≤ maxDimension) : l.frameBytes?.getD 0 < bufferLimit := by
  cases hbytes : l.frameBytes? with
  | none => decide
  | some bytes =>
    obtain ⟨stride, hstride, _, hframe⟩ := FrameLayout.frameBytes?_eq_some_iff.mp hbytes
    obtain ⟨n, hn, _, hpitch⟩ := FrameLayout.stride?_eq_some_iff.mp hstride
    have hsmall := (PixelLayout.bytesPerPixel?_pos hn).2
    have hrow : l.width * n ≤ maxDimension * 4 := Nat.mul_le_mul hwidth hsmall
    have hround := FrameLayout.le_padToFour (l.width * n)
    have hle : stride ≤ maxDimension * 4 + 3 := by omega
    rw [Option.getD_some, hframe]
    exact Nat.lt_of_le_of_lt (Nat.mul_le_mul hle hheight) (by decide)

/-- The buffers of an opened clip can all be made. -/
theorem exists_samePlace {file : Bytes} {opened : Clip} (h : ofBytes file = .ok opened)
    (hmax : 0 < opened.maxFrameSize) :
    ∃ blitter made renderer, Blitter.ofInfo opened.info = .ok blitter ∧
      TextureRenderer.create opened.info = .ok made ∧ made.initSurface = (.ok (), renderer) ∧
      ∀ picture : PixelBuffer, picture.width = opened.width → picture.height = opened.height →
        SamePlace opened.layout blitter picture opened renderer opened := by
  obtain ⟨⟨_, hwle⟩, _, hhle⟩ := dimensions_of_check (checkDimensions_of_ofBytes h)
  have htarget := tryNew_of_le hwle hhle
  have hlimit : opened.maxFrameSize < bufferLimit :=
    Nat.lt_trans opened.index.maxFrameSize_lt (by decide)
  have hscratch : max (opened.layout.frameBytes?.getD 0) opened.maxFrameSize < bufferLimit :=
    Nat.max_lt.mpr ⟨frameBytes_lt hwle hhle, hlimit⟩
  have hextent : (CropRect.ofLayout opened.layout).extent = (opened.width, opened.height) :=
    CropRect.extent_ofLayout (Nat.lt_of_le_of_lt hwle (by decide))
      (Nat.lt_of_le_of_lt hhle (by decide))
  refine ⟨_, _, _, Blitter.ofInfo_of_lt hscratch, TextureRenderer.create_of_lt hmax hlimit htarget,
    TextureRenderer.initSurface_of_ok htarget hextent, ?_⟩
  intro picture hwidth hheight
  exact ⟨rfl, rfl, Nat.le_max_right _ _, hwidth, hheight, rfl, Nat.le_refl _, rfl, rfl, _, rfl,
    rfl, rfl, rfl⟩

/-- A clip opened twice, played in software and through a texture. In each call both show a new
frame, and then the same picture, or neither does; a surface may refuse the picture or panic. -/
theorem blits_eq_draws {file : Bytes} {opened : Clip} (h : ofBytes file = .ok opened)
    (hmax : 0 < opened.maxFrameSize) :
    ∃ blitter made renderer, Blitter.ofInfo opened.info = .ok blitter ∧
      TextureRenderer.create opened.info = .ok made ∧ made.initSurface = (.ok (), renderer) ∧
      ∀ {S W : Type} [FrameSink S] (w : W) (sink : S) (picture : PixelBuffer),
        picture.width = opened.width → picture.height = opened.height → ∀ n : Nat,
        let before := (blitter.calls w opened picture n).picture
        let blitted := blitter.calls w opened picture (n + 1)
        let surface := (renderer.calls opened sink n).sink
        let drawn := renderer.calls opened sink (n + 1)
        blitted.panicked = false ∧
        drawn.pictures = (if blitted.fresh then [blitted.picture] else []) ∧
        drawn.outcome = (if blitted.fresh then
          (if (FrameSink.present surface blitted.picture).1 = .panicked then .panicked else .more)
          else .ended) ∧
        (blitted.fresh = false → blitted.picture = before) := by
  obtain ⟨⟨_, hwle⟩, _, hhle⟩ := dimensions_of_check (checkDimensions_of_ofBytes h)
  obtain ⟨blitter, made, renderer, hblitter, hmade, hrenderer, hplace⟩ := exists_samePlace h hmax
  refine ⟨blitter, made, renderer, hblitter, hmade, hrenderer, ?_⟩
  intro S W _ w sink picture hwidth hheight n
  have hwlt : opened.layout.width < UInt32.size / 2 := Nat.lt_of_le_of_lt hwle (by decide)
  have hhlt : opened.layout.height < UInt32.size / 2 := Nat.lt_of_le_of_lt hhle (by decide)
  have hbefore := (hplace picture hwidth hheight).calls w sink hwlt hhlt n
  have hsame := hbefore.call hwlt hhlt w (renderer.calls opened sink n).sink
  exact ⟨hsame.quiet, hsame.pictures, hsame.outcome, hsame.unchanged⟩

end Clip

/-- A small file with a whole frame, a short one, an empty one and another whole one. -/
def FileLayout.mixed : FileLayout where
  main := List.replicate 40 0
  streams := [pictures]
  chunks := [⟨.ofChars '0' '0' 'd' 'b', [1, 2, 3, 4, 5, 6, 0, 0]⟩,
    ⟨.ofChars '0' '0' 'd' 'b', [7, 8, 9]⟩, ⟨.ofChars '0' '0' 'd' 'b', []⟩,
    ⟨.ofChars '0' '0' 'd' 'b', [6, 5, 4, 3, 2, 1, 0, 0]⟩]
  index := none

/-- The surface refuses the first picture and panics at the second. -/
theorem Clip.blits_eq_draws_mixed :
    ∃ opened, ofBytes FileLayout.mixed.bytes = .ok opened ∧ 0 < opened.maxFrameSize ∧
      ∃ blitter made renderer, Blitter.ofInfo opened.info = .ok blitter ∧
        TextureRenderer.create opened.info = .ok made ∧ made.initSurface = (.ok (), renderer) ∧
        ∀ n, (renderer.calls opened (⟨[1], [2], false, 0⟩ : ScriptedSink) (n + 1)).pictures =
          if (blitter.calls () opened (.blank opened.width opened.height) (n + 1)).fresh then
            [(blitter.calls () opened (.blank opened.width opened.height) (n + 1)).picture]
          else [] := by
  have hmixed : (ofBytes FileLayout.mixed.bytes).toOption.map maxFrameSize = some 8 := by
    decide +kernel
  cases hopen : ofBytes FileLayout.mixed.bytes with
  | error fault => simp [hopen, Except.toOption] at hmixed
  | ok opened =>
    have hmax : opened.maxFrameSize = 8 := by simpa [hopen, Except.toOption] using hmixed
    have hpos : 0 < opened.maxFrameSize := by omega
    obtain ⟨blitter, made, renderer, hblitter, hmade, hrenderer, hcalls⟩ :=
      blits_eq_draws hopen hpos
    exact ⟨opened, rfl, hpos, blitter, made, renderer, hblitter, hmade, hrenderer,
      fun n => (hcalls () _ _ rfl rfl n).2.1⟩

end AviPlayback
