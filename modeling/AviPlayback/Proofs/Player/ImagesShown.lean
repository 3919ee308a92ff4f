import AviPlayback.Proofs.Player.FrameDraws
import AviPlayback.Proofs.Player.Kinds

/-!
The images of a player in software. Its worker reads one frame for each picture, into a buffer that
it never clears, over the picture before; still every picture is the image of one frame alone, the
last one read so far that could be converted (`BitmapPlayer.images_of_reads`).
-/
set_option autoImplicit false

namespace AviPlayback

open Relation (ReflTransGen)

/-! ### The image of a frame -/

/-- A frame that can be converted gives the same picture over any other of its size. -/
theorem convertFrame_congr {layout : FrameLayout} {target other : PixelBuffer}
    (htarget : target.width = layout.width ∧ target.height = layout.height)
    (hother : other.width = layout.width ∧ other.height = layout.height) (source : Bytes) :
    convertFrame layout source target = convertFrame layout source other := by
  rw [convertFrame, convertFrame, if_neg (by simp [htarget.1, htarget.2]),
    if_neg (by simp [hother.1, hother.2])]
  cases hcheck : checkFrame layout source with
  | error fault => rfl
  | ok stride =>
    refine congrArg Except.ok (PixelBuffer.ext_row (htarget.1.trans hother.1.symm)
      (htarget.2.trans hother.2.symm) fun y hy => ?_)
    have hy' : y < layout.height := htarget.2 ▸ hy
    have horder : layout.uprightRow y < layout.height := by
      rw [FrameLayout.uprightRow]
      split <;> omega
    -- each row is that of the stored frame, over whatever picture
    have hrow : ∀ picture : PixelBuffer, picture.width = layout.width →
        picture.height = layout.height →
        (convertRows layout.pixels source stride layout.uprightRow picture).row y =
          (convertRows layout.pixels source stride id other).row (layout.uprightRow y) :=
      fun picture hwidth hheight => row_convertRows_congr hcheck hwidth hother.1 (hheight ▸ hy')
        (hother.2 ▸ horder) rfl horder
    exact (hrow target htarget.1 htarget.2).trans (hrow other hother.1 hother.2).symm

/-- A new picture has zero bytes only. -/
theorem PixelBuffer.eq_blank_of_tryNew {width height : Nat} {picture : PixelBuffer}
    (h : tryNew width height = .ok picture) : picture = .blank width height := by
  rw [tryNew] at h
  split at h
  · cases h
  · split at h <;> cases h
    rfl

/-- The frames of a stream have the size of its pictures. -/
structure StreamInfo.FramesFit (info : StreamInfo) : Prop where
  width : info.layout.width = info.width
  height : info.layout.height = info.height

/-- What a decoder answers when it is asked for a frame. -/
abbrev Answer : Type := Except PlayerFault Bytes

namespace FrameLayout

variable (layout : FrameLayout)

def blank : PixelBuffer := .blank layout.width layout.height

def image? (payload : Bytes) : Option PixelBuffer :=
  (convertFrame layout payload layout.blank).toOption

def imageOf? (answer : Answer) : Option PixelBuffer := answer.toOption.bind layout.image?

/-- The last image among some answers, or no image at all. -/
def lastImage (answers : List Answer) : PixelBuffer :=
  (answers.filterMap layout.imageOf?).getLast?.getD layout.blank

variable {layout}

theorem convertFrame_blank (payload : Bytes) : convertFrame layout payload layout.blank =
    (checkFrame layout payload).map fun stride =>
      convertRows layout.pixels payload stride layout.uprightRow layout.blank := by
  rw [convertFrame, if_neg (by simp [blank, PixelBuffer.blank])]
  cases checkFrame layout payload <;> rfl

/-- A frame has an image when the layout has pixels that can be converted, and the frame has the
bytes of all of them. -/
theorem image?_isSome_iff (payload : Bytes) :
    (layout.image? payload).isSome ↔ layout.width ≠ 0 ∧ layout.height ≠ 0 ∧
      ∃ bytes, layout.frameBytes? = some bytes ∧ bytes ≤ payload.size := by
  rw [image?, convertFrame_blank]
  constructor
  · intro hsome
    rcases hcheck : checkFrame layout payload with fault | stride
    · rw [hcheck] at hsome
      cases hsome
    · obtain ⟨hwidth, hheight, _, bytes, hbytes, hsize⟩ :=
        checkFrame_eq_ok_iff_frameBytes?.mp hcheck
      exact ⟨Nat.ne_of_gt hwidth, Nat.ne_of_gt hheight, bytes, hbytes, hsize⟩
  · rintro ⟨hwidth, hheight, bytes, hbytes, hsize⟩
    obtain ⟨stride, hcheck⟩ := Clip.checkFrame_of_le hwidth hheight hbytes hsize
    rw [hcheck]
    rfl

/-- An answer has an image when it is a frame that has one. -/
theorem imageOf?_isSome_iff (answer : Answer) : (layout.imageOf? answer).isSome ↔
    ∃ payload, answer = .ok payload ∧ layout.width ≠ 0 ∧ layout.height ≠ 0 ∧
      ∃ bytes, layout.frameBytes? = some bytes ∧ bytes ≤ payload.size := by
  cases answer with
  | error fault => simp [imageOf?, Except.toOption]
  | ok payload =>
    have himage : layout.imageOf? (.ok payload) = layout.image? payload := rfl
    rw [himage, image?_isSome_iff]
    simp

theorem image?_of_isEmpty {payload : Bytes} (h : payload.isEmpty) : layout.image? payload = none := by
  rw [image?, convertFrame_blank]
  cases hcheck : checkFrame layout payload with
  | error fault => rfl
  | ok stride =>
    have hpos := Clip.size_pos_of_checkFrame hcheck
    rw [Array.isEmpty_iff_size_eq_zero.mp h] at hpos
    cases hpos

theorem size_of_image? {payload : Bytes} {image : PixelBuffer}
    (h : layout.image? payload = some image) :
    image.width = layout.width ∧ image.height = layout.height := by
  rw [image?, convertFrame_blank] at h
  cases hcheck : checkFrame layout payload with
  | error fault =>
    rw [hcheck] at h
    cases h
  | ok stride =>
    rw [hcheck] at h
    cases h
    exact ⟨rfl, rfl⟩

/-- Converting a frame over a picture of the right size gives the image of the frame, or leaves the
picture. -/
theorem convertFrame_toOption {picture : PixelBuffer}
    (hpicture : picture.width = layout.width ∧ picture.height = layout.height) (payload : Bytes) :
    (convertFrame layout payload picture).toOption = layout.image? payload := by
  have hblank : layout.blank.width = layout.width ∧ layout.blank.height = layout.height := ⟨rfl, rfl⟩
  rw [image?, convertFrame_congr hpicture hblank]

theorem lastImage_append (answers : List Answer) (answer : Answer) :
    layout.lastImage (answers ++ [answer]) =
      (layout.imageOf? answer).getD (layout.lastImage answers) := by
  rw [lastImage, List.filterMap_append]
  cases himage : layout.imageOf? answer with
  | none => simp [himage, lastImage]
  | some image => simp [himage]

theorem size_lastImage (answers : List Answer) : (layout.lastImage answers).width = layout.width ∧
    (layout.lastImage answers).height = layout.height := by
  rw [lastImage]
  cases hlast : (answers.filterMap layout.imageOf?).getLast? with
  | none => exact ⟨rfl, rfl⟩
  | some image =>
    obtain ⟨answer, _, himage⟩ := List.mem_filterMap.mp (List.mem_of_getLast? hlast)
    obtain ⟨payload, _, himage⟩ := Option.bind_eq_some_iff.mp himage
    exact size_of_image? himage

end FrameLayout

/-! ### One call of the blitter -/

namespace Blitter

variable {D W : Type}

theorem layout_of_ofInfo {info : StreamInfo} {b : Blitter} (h : ofInfo info = .ok b) :
    b.layout = info.layout := by
  rw [ofInfo] at h
  cases hscratch : Scratch.tryZeroed (max (info.layout.frameBytes?.getD 0) info.maxFrameSize) with
  | error fault =>
    rw [hscratch] at h
    cases h
  | ok scratch =>
    rw [hscratch] at h
    cases h
    rfl

/-- A frame that was read over a picture of the right size leaves its image there, if it has one. -/
theorem blitPayload_eq (b : Blitter) (payload : Bytes) (d : D) {picture : PixelBuffer}
    (hpicture : picture.width = b.layout.width ∧ picture.height = b.layout.height) :
    (b.blitPayload payload d picture).picture = (b.layout.image? payload).getD picture ∧
      (b.blitPayload payload d picture).blitter.layout = b.layout := by
  rw [← FrameLayout.convertFrame_toOption hpicture payload]
  simp only [blitPayload, Scratch.front_overwrite]
  cases convertFrame b.layout payload picture <;> exact ⟨rfl, rfl⟩

variable [FrameReader D W]

/-- A call makes the image of the answer the picture, if it has one. -/
theorem renderFrame_eq (b : Blitter) (w : W) (d : D) {picture : PixelBuffer}
    (hpicture : picture.width = b.layout.width ∧ picture.height = b.layout.height)
    (hfits : ∀ payload, (FrameReader.fetch w d b.scratch.size).1 = .frame payload →
      payload.size ≤ b.scratch.size) :
    (b.renderFrame w d picture).picture =
        (b.layout.imageOf? (FrameReader.read w d b.scratch.size).1).getD picture ∧
      (b.renderFrame w d picture).blitter.layout = b.layout := by
  rcases hread : FrameReader.read w d b.scratch.size with ⟨fault | payload, e⟩
  · have hfetch : FrameReader.fetch w d b.scratch.size =
        (if fault.isPanic then .panicked else .nothing, e) := by rw [FrameReader.fetch, hread]
    rw [renderFrame, hfetch]
    cases fault.isPanic <;> exact ⟨rfl, rfl⟩
  · have hfetch : FrameReader.fetch w d b.scratch.size =
        (if payload.isEmpty then .nothing else .frame payload, e) := by rw [FrameReader.fetch, hread]
    have himage : b.layout.imageOf? (.ok payload) = b.layout.image? payload := rfl
    rw [hfetch] at hfits
    rw [renderFrame, hfetch, himage]
    by_cases hempty : payload.isEmpty
    · rw [if_pos hempty, FrameLayout.image?_of_isEmpty hempty]
      exact ⟨rfl, rfl⟩
    · rw [if_neg hempty] at hfits ⊢
      dsimp only
      rw [if_neg (Nat.not_lt.mpr (hfits payload rfl))]
      exact b.blitPayload_eq payload e hpicture

end Blitter

/-! ### A session with its answers -/

namespace Event

def ofFrame? : Event → Option Event
  | used decoder => some (used decoder)
  | presented picture => some (presented picture)
  | _ => none

theorem ofFrame?_of_aside {e : Event} (he : e.isWork = false) : e.ofFrame? = none := by
  cases e with
  | used | presented => cases he
  | _ => rfl

end Event

theorem Stage.Spared.frames {D S : Type} {s t : Stage D S} (h : s.Spared t) :
    t.noted Event.ofFrame? = s.noted Event.ofFrame? :=
  h.traced _ fun _ he => Event.ofFrame?_of_aside he

/-- What the record of a session has after some answers: one read and one picture for each. -/
def ticksOf (lease : Nat) (layout : FrameLayout) (answers : List Answer) : List Event :=
  (List.range answers.length).flatMap fun k =>
    [.used lease, .presented (layout.lastImage (answers.take (k + 1)))]

theorem ticksOf_append (lease : Nat) (layout : FrameLayout) (answers : List Answer)
    (answer : Answer) : ticksOf lease layout (answers ++ [answer]) = ticksOf lease layout answers ++
      [.used lease, .presented (layout.lastImage (answers ++ [answer]))] := by
  rw [ticksOf, List.length_append, List.length_singleton, List.range_succ, List.flatMap_append,
    List.flatMap_singleton, List.take_of_length_le (by simp)]
  have hsame : ∀ k ∈ List.range answers.length,
      [Event.used lease, .presented (layout.lastImage ((answers ++ [answer]).take (k + 1)))] =
        [.used lease, .presented (layout.lastImage (answers.take (k + 1)))] := fun k hk => by
    rw [List.take_append_of_le_length (List.mem_range.mp hk)]
  rw [List.flatMap_def, List.map_congr_left hsame]
  rfl

namespace BlitLoop

/-- What the worker carries, once it has its buffers. -/
def blit? : BlitLoop → Option Blit
  | spawned _ _ => none
  | checking b | drawing b | pausing b _ => some b

end BlitLoop

namespace BitmapPlayer

variable {D S : Type} {p q : BitmapPlayer D S}

/-- The layout for which the next step makes its buffers. -/
def opening? [VideoDecoder D] (p : BitmapPlayer D S) : Option FrameLayout :=
  match p.worker with
  | some (.running (.spawned lease _) _) => (p.stage.info? lease).map StreamInfo.layout
  | _ => none

/-- The answer that the next step reads. -/
def answer? [FrameReader D S] (p : BitmapPlayer D S) : Option Answer :=
  match p.worker with
  | some (.running (.drawing b) _) => (p.stage.decoder? b.lease).map fun d =>
      (FrameReader.read p.stage.sink d b.blitter.scratch.size).1
  | _ => none

/-- A worker that has its buffers is told no layout. -/
theorem opening?_of_blit [VideoDecoder D] {loop : BlitLoop} {told : Bool} {b : Blit}
    (hworker : p.worker = some (.running loop told)) (hblit : loop.blit? = some b) :
    p.opening? = none := by
  rw [opening?, hworker]
  cases loop with
  | spawned => cases hblit
  | checking | drawing | pausing => rfl

/-- A worker that draws nothing reads no answer. -/
theorem answer?_of_not_isDrawing [FrameReader D S] {loop : BlitLoop} {told : Bool}
    (hworker : p.worker = some (.running loop told)) (hdraws : loop.isDrawing = false) :
    p.answer? = none := by
  rw [answer?, hworker]
  cases loop with
  | drawing => cases hdraws
  | spawned | checking | pausing => rfl

section

variable [VideoDecoder D] [FrameReader D S] [FrameSink S]

/-- A session from its beginning on, with the layout its worker was told and the answers it read. -/
inductive Answered (decoders : D → Prop) (begun : BitmapPlayer D S) :
    Option FrameLayout → List Answer → BitmapPlayer D S → Prop
  | begin : Answered decoders begun none [] begun
  | step {layout : Option FrameLayout} {answers : List Answer} {p q : BitmapPlayer D S}
      (h : Answered decoders begun layout answers p) (hstep : step? p = some q) :
      Answered decoders begun (layout.or p.opening?) (answers ++ p.answer?.toList) q
  | aside {layout : Option FrameLayout} {answers : List Answer} {p q : BitmapPlayer D S}
      (h : Answered decoders begun layout answers p) (haside : Aside decoders p q) :
      Answered decoders begun layout answers q
  | pass {layout : Option FrameLayout} {answers : List Answer} {p : BitmapPlayer D S}
      (h : Answered decoders begun layout answers p) (t : Nat) :
      Answered decoders begun layout answers { p with stage := { p.stage with now := t } }

/-- Whatever happens in a session, its worker is told some layout and reads some answers. -/
theorem exists_answered {decoders : D → Prop} {sinks : S → Prop} {begun : BitmapPlayer D S}
    (hreached : Reached decoders sinks begun) (hrun : ReflTransGen (Meanwhile decoders) begun q) :
    ∃ layout answers, Answered decoders begun layout answers q :=
  (meanwhile_keeps (P := fun q => ∃ layout answers, Answered decoders begun layout answers q)
    (fun ⟨_, _, h⟩ hstep => ⟨_, _, h.step hstep⟩) (fun ⟨_, _, h⟩ haside => ⟨_, _, h.aside haside⟩)
    (fun t ⟨_, _, h⟩ => ⟨_, _, h.pass t⟩) hreached hrun ⟨none, [], .begin⟩).2

end

/-- A session whose record shows the ticks of its answers, after some earlier events. -/
structure Showing (decoders : D → Prop) (sinks : S → Prop) (earlier : List Event) (lease : Nat)
    (layout : Option FrameLayout) (answers : List Answer) (p : BitmapPlayer D S) : Prop where
  among : p.stage.Among decoders sinks
  record : p.stage.noted Event.ofFrame? =
    earlier ++ (layout.map fun layout => ticksOf lease layout answers).getD []
  unread : layout = none → answers = []
  /-- A worker that has just been started has read nothing. -/
  spawned : ∀ loop told, p.worker = some (.running loop told) →
    loop.lease = lease ∧ (loop.blit? = none → layout = none)
  /-- The picture of the worker is the last image. -/
  blit : ∀ loop told b, p.worker = some (.running loop told) → loop.blit? = some b →
    (p.stage.decoder? lease).isSome ∧ layout = some b.blitter.layout ∧
      b.picture = b.blitter.layout.lastImage answers

namespace Showing

variable {decoders : D → Prop} {sinks : S → Prop} {earlier : List Event} {lease : Nat}
  {layout : Option FrameLayout} {answers : List Answer}

/-- What the worker carries stays as it is. -/
theorem congr (h : Showing decoders sinks earlier lease layout answers p)
    (hamong : q.stage.Among decoders sinks)
    (hrecord : q.stage.noted Event.ofFrame? = p.stage.noted Event.ofFrame?)
    (hdecoder : ∀ i, (p.stage.decoder? i).isSome → (q.stage.decoder? i).isSome)
    (hworker : ∀ loop told, q.worker = some (.running loop told) →
      ∃ loop' told', p.worker = some (.running loop' told') ∧ loop.lease = loop'.lease ∧
        loop.blit? = loop'.blit?) : Showing decoders sinks earlier lease layout answers q := by
  refine ⟨hamong, hrecord.trans h.record, h.unread, fun loop told hrunning => ?_,
    fun loop told b hrunning hblit => ?_⟩
  all_goals obtain ⟨loop', told', hbefore, hlease, hsame⟩ := hworker loop told hrunning
  · rw [hlease, hsame]
    exact h.spawned loop' told' hbefore
  · obtain ⟨hsome, hlayout, hpicture⟩ := h.blit loop' told' b hbefore (hsame ▸ hblit)
    exact ⟨hdecoder lease hsome, hlayout, hpicture⟩

/-- The worker leaves its loop. -/
theorem leave (h : Showing decoders sinks earlier lease layout answers p)
    (hamong : q.stage.Among decoders sinks) (hspared : p.stage.Spared q.stage)
    (hworker : ∀ loop told, q.worker ≠ some (.running loop told)) :
    Showing decoders sinks earlier lease layout answers q :=
  h.congr hamong hspared.frames hspared.decoder? fun loop told hrunning =>
    absurd hrunning (hworker loop told)

/-- A worker that gives up before it has its buffers has read nothing. -/
theorem unopened (h : Showing decoders sinks earlier lease layout answers p) {lease' : Nat}
    {pacer : Pacer} {told : Bool}
    (hspawned : p.worker = some (.running (.spawned lease' pacer) told))
    (hamong : q.stage.Among decoders sinks) (hspared : p.stage.Spared q.stage)
    (hworker : ∀ loop told, q.worker ≠ some (.running loop told)) (layout' : Option FrameLayout) :
    Showing decoders sinks earlier lease layout' answers q := by
  obtain ⟨_, hnone⟩ := h.spawned _ _ hspawned
  obtain rfl := hnone rfl
  obtain rfl := h.unread rfl
  refine ⟨hamong, ?_, fun _ => rfl, fun loop told hrunning => absurd hrunning (hworker loop told),
    fun loop told _ hrunning => absurd hrunning (hworker loop told)⟩
  have hrecord := hspared.frames.trans h.record
  cases layout' <;> exact hrecord

variable [VideoDecoder D] [FrameReader D S] [FrameSink S] (hreliable : Reliable decoders sinks)

include hreliable

omit [VideoDecoder D] in
/-- A tick reads one answer and shows the last image after it. -/
theorem tick (h : Showing decoders sinks earlier lease layout answers p) {b c : Blit} {told : Bool}
    {panicked : Bool} {stage : Stage D S} (hworker : p.worker = some (.running (.drawing b) told))
    (hrefresh : b.refresh p.stage = (panicked, c, stage)) :
    panicked = false ∧ (stage.present c.picture).1 ≠ .panicked ∧
      ∃ answer, p.answer? = some answer ∧ ∀ frames due,
        Showing decoders sinks earlier lease layout (answers ++ [answer]) { p with
          stage := (stage.present c.picture).2
          worker := some (.running (.pausing { c with frames } due) told) } := by
  obtain ⟨hlease, _⟩ := h.spawned _ _ hworker
  obtain ⟨hsome, hlayout, hpicture⟩ := h.blit _ _ b hworker rfl
  obtain rfl : b.lease = lease := hlease
  obtain ⟨d, hd⟩ := Option.isSome_iff_exists.mp hsome
  let answer : Answer := (FrameReader.read p.stage.sink d b.blitter.scratch.size).1
  have hanswer : p.answer? = some answer := by simp only [answer?, hworker, hd, Option.map_some, answer]
  have hsize : b.picture.width = b.blitter.layout.width ∧
      b.picture.height = b.blitter.layout.height := by
    rw [hpicture]
    exact FrameLayout.size_lastImage answers
  -- the answer decides the next picture, whatever the buffers hold
  obtain ⟨hread, hkept⟩ := b.blitter.renderFrame_eq p.stage.sink d hsize fun payload hframe =>
    hreliable.size_le _ d _ payload h.among.sink (h.among.decoder b.lease d hd) hframe
  obtain ⟨rfl, hamong⟩ := h.among.refreshed hreliable hrefresh
  obtain ⟨hshown, hpresented⟩ := hamong.present hreliable.present c.picture
  have hstill := (Blit.refreshed hrefresh).decoder? b.lease
  rw [Blit.refresh_of_decoder hd] at hrefresh
  obtain ⟨_, rfl, rfl⟩ : _ ∧ _ = c ∧ _ = stage := by simpa only [Prod.mk.injEq] using hrefresh
  have hlast : b.blitter.layout.lastImage (answers ++ [answer]) =
      (b.blitter.renderFrame p.stage.sink d b.picture).picture := by
    rw [FrameLayout.lastImage_append, hread, hpicture]
  refine ⟨rfl, hshown, answer, hanswer, fun frames due => ⟨hpresented, ?_, ?_, ?_, ?_⟩⟩
  · have hrecord := h.record
    rw [hlayout, Option.map_some, Option.getD_some] at hrecord ⊢
    rw [ticksOf_append, hlast, ← List.append_assoc, ← hrecord]
    refine (Stage.traced_present _ _ _).trans ?_
    rw [Stage.traced_putDecoder, List.append_assoc]
    rfl
  · intro hnone
    rw [hlayout] at hnone
    cases hnone
  · intro loop told' hrunning
    cases hrunning
    exact ⟨rfl, nofun⟩
  · intro loop told' e hrunning he
    cases hrunning
    cases he
    refine ⟨hstill.trans hsome, ?_, ?_⟩
    · rw [hlayout, ← hkept]
    · exact hlast.symm.trans (by rw [← hkept])

/-- A step reads at most one answer, and shows the last image after it. -/
theorem ticked (hlayouts : ∀ d, decoders d → (VideoDecoder.info d).FramesFit)
    (h : Showing decoders sinks earlier lease layout answers p) (hstep : Ticked p q) :
    Showing decoders sinks earlier lease (layout.or p.opening?) (answers ++ p.answer?.toList) q := by
  have hamong := hstep.among hreliable h.among
  cases hstep with
  | @begin lease' pacer told info picture blitter hworker hinfo hpicture hblitter =>
    obtain ⟨rfl, hnone⟩ := h.spawned _ _ hworker
    obtain rfl := hnone rfl
    obtain rfl := h.unread rfl
    obtain ⟨d, hd, rfl⟩ := Option.map_eq_some_iff.mp hinfo
    obtain ⟨hwidth, hheight⟩ := hlayouts d (h.among.decoder _ d hd)
    have hopens : p.opening? = some blitter.layout := by
      simp only [opening?, hworker, hinfo, Option.map_some, Blitter.layout_of_ofInfo hblitter]
    rw [hopens, answer?_of_not_isDrawing hworker rfl]
    refine ⟨hamong, h.record, nofun, fun loop told hrunning => ?_, fun loop told b hrunning hblit => ?_⟩
    · cases hrunning
      exact ⟨rfl, nofun⟩
    · cases hrunning
      cases hblit
      refine ⟨Option.isSome_of_eq_some hd, rfl, ?_⟩
      rw [PixelBuffer.eq_blank_of_tryNew hpicture, ← hwidth, ← hheight,
        ← Blitter.layout_of_ofInfo hblitter]
      rfl
  | unfit hworker =>
    rw [answer?_of_not_isDrawing hworker rfl, Option.toList_none, List.append_nil]
    exact h.unopened hworker hamong (spared_endLoop _ _) nofun _
  | starved hworker =>
    rw [answer?_of_not_isDrawing hworker rfl, Option.toList_none, List.append_nil]
    exact h.unopened hworker hamong (spared_panicLoop _ _) nofun _
  | @stop loop hworker hloop =>
    have hblit : ∃ b, loop.blit? = some b := by
      cases loop with
      | checking b | pausing b => exact ⟨b, rfl⟩
      | spawned | drawing => cases hloop
    obtain ⟨b, hblit⟩ := hblit
    have hdraws : loop.isDrawing = false := by
      cases loop with
      | drawing => cases hloop
      | spawned | checking | pausing => rfl
    rw [opening?_of_blit hworker hblit, answer?_of_not_isDrawing hworker hdraws, Option.or_none,
      Option.toList_none, List.append_nil]
    exact h.leave hamong (spared_leaveLoop _ _ _) nofun
  | check hworker | resume hworker =>
    rw [opening?_of_blit hworker rfl, answer?_of_not_isDrawing hworker rfl, Option.or_none,
      Option.toList_none, List.append_nil]
    refine h.congr hamong rfl (fun _ => id) fun loop told hrunning => ?_
    cases hrunning
    exact ⟨_, _, hworker, rfl, rfl⟩
  | rest hworker hrefresh =>
    obtain ⟨_, _, answer, hread, hnext⟩ := h.tick hreliable hworker hrefresh
    rw [opening?_of_blit hworker rfl, hread, Option.or_none]
    exact hnext _ _
  | @limit b c told stage hworker hrefresh =>
    obtain ⟨_, _, answer, hread, hnext⟩ := h.tick hreliable hworker hrefresh
    have hspared := spared_endLoop { p with stage := (stage.present c.picture).2 } c.lease
    rw [opening?_of_blit hworker rfl, hread, Option.or_none]
    exact (hnext 0 0).leave hamong hspared nofun
  | broken hworker hrefresh hpanicked =>
    exact absurd hpanicked (h.tick hreliable hworker hrefresh).2.1
  | unread hworker hrefresh => cases (h.tick hreliable hworker hrefresh).1

omit [VideoDecoder D] in
theorem aside (h : Showing decoders sinks earlier lease layout answers p)
    (haside : Aside decoders p q) : Showing decoders sinks earlier lease layout answers q := by
  have hspared := haside.spared
  refine h.congr (haside.among hreliable h.among) hspared.stage.frames hspared.stage.decoder?
    fun loop told hrunning => ?_
  obtain ⟨told', hbefore⟩ := hspared.worker.running hrunning
  exact ⟨loop, told', hbefore, rfl, rfl⟩

/-- A session shows the ticks of the answers it has read. -/
theorem answered (hlayouts : ∀ d, decoders d → (VideoDecoder.info d).FramesFit)
    (hbegun : Showing decoders sinks earlier lease none [] p)
    (h : Answered decoders p layout answers q) :
    Showing decoders sinks earlier lease layout answers q := by
  induction h with
  | begin => exact hbegun
  | step _ hstep ih => exact ih.ticked hreliable hlayouts (ticked_of_step? hstep)
  | aside _ haside ih => exact ih.aside hreliable haside
  | pass _ t ih =>
    exact ih.congr (ih.among.congr rfl rfl) rfl (fun _ => id) fun loop told hrunning =>
      ⟨loop, told, hrunning, rfl, rfl⟩

end Showing

theorem showing_onNewSurface {decoders : D → Prop} {sinks : S → Prop}
    (hp : p.stage.Among decoders sinks) (handle : Handle) (pacer : Pacer) :
    Showing decoders sinks (p.stage.noted Event.ofFrame?) handle.lease none []
      (p.onNewSurface handle pacer) := by
  obtain ⟨hstage, _⟩ := spared_onNewSurface p handle pacer
  refine ⟨((hp.moveTo _).share _).moveTo _, ?_, fun _ => rfl, fun loop told hrunning => ?_,
    fun loop told b hrunning hblit => ?_⟩
  · rw [Option.map_none, Option.getD_none, List.append_nil]
    exact hstage.frames
  · cases hrunning
    exact ⟨rfl, fun _ => rfl⟩
  · cases hrunning
    cases hblit

section

variable [VideoDecoder D] [FrameReader D S] [FrameSink S] {decoders : D → Prop} {sinks : S → Prop}

/-- The pictures of a session in software, for decoders whose frames have the size that they report,
and for decoders and surfaces that never panic. Each tick reads the decoder once and shows one
picture: the last image among the answers so far, where the image of a frame is decided by its own
bytes. An answer that is a fault or too short for its layout has no image, and before the first
image the picture has zero bytes only. -/
theorem images_of_reads (hreliable : Reliable decoders sinks)
    (hlayouts : ∀ d, decoders d → (VideoDecoder.info d).FramesFit)
    (hreached : Reached decoders sinks p) (haccepts : p.Accepts) :
    ∃ handle, p.handle = some handle ∧
      (∀ q, ReflTransGen (Meanwhile decoders) p.created.2 q →
        ∃ layout answers, Answered decoders p.created.2 layout answers q) ∧
      ∀ layout answers q, Answered decoders p.created.2 layout answers q →
        (layout = none → answers = []) ∧
        q.stage.noted Event.ofFrame? = p.stage.noted Event.ofFrame? ++
          (layout.map fun layout => ticksOf handle.lease layout answers).getD [] ∧
        ∀ known ∈ layout, ∀ answer, (known.imageOf? answer).isSome ↔
          ∃ payload, answer = .ok payload ∧ known.width ≠ 0 ∧ known.height ≠ 0 ∧
            ∃ bytes, known.frameBytes? = some bytes ∧ bytes ≤ payload.size := by
  obtain ⟨hsound, hphase⟩ := hreached.phase
  obtain ⟨handle, pacer, hhandle, _, hcreated⟩ := created_of_accepts hsound hphase haccepts
  have hbegun := showing_onNewSurface (hreached.among hreliable) handle pacer
  refine ⟨handle, hhandle, fun q => exists_answered (hreached.happens .created),
    fun layout answers q hanswered => ?_⟩
  rw [hcreated] at hanswered
  have hq := hbegun.answered hreliable hlayouts hanswered
  exact ⟨hq.unread, hq.record, fun _ _ => FrameLayout.imageOf?_isSome_iff⟩

end

/-- A stream of one pixel whose second frame is too short. -/
def shortFrame : ScriptedDecoder :=
  { ScriptedDecoder.onePixel with reads := [.payload #[1, 2, 3, 4], .payload #[9]] }

/-- The player of that stream, before its first surface. -/
def beforeShort : BitmapPlayer ScriptedDecoder ScriptedSink :=
  (start (.new ⟨[], [], false, 0⟩ ⟨25.0, none⟩) (fun _ => .ok shortFrame) "clip").2

def next (p : BitmapPlayer ScriptedDecoder ScriptedSink) :
    BitmapPlayer ScriptedDecoder ScriptedSink := (step? p).getD p

/-- The second frame is read and cannot be converted: the second picture is the first one again. -/
theorem images_of_reads_short :
    let image : PixelBuffer := ⟨1, 1, #v[#v[3, 2, 1, 0xff]]⟩
    beforeShort.Accepts ∧ ∃ q,
      ReflTransGen (Meanwhile fun d => d.info = shortFrame.info) beforeShort.created.2 q ∧
      Answered (fun d => d.info = shortFrame.info) beforeShort.created.2
        (some shortFrame.info.layout) [.ok #[1, 2, 3, 4], .ok #[9]] q ∧
      q.stage.noted Event.ofFrame? = [.used 0, .presented image, .used 0, .presented image] := by
  let known : ScriptedDecoder → Prop := fun d => d.info = shortFrame.info
  have hreliable := reliable_scripted shortFrame.info
  have hreached : Reached known (fun sink : ScriptedSink => sink.panicking = []) beforeShort :=
    ⟨_, _, rfl, .single (.start _ _ fun _ _ heq => by cases heq; rfl)⟩
  have haccepts : beforeShort.Accepts := ⟨nofun, rfl⟩
  have hfits : ∀ d, known d → (VideoDecoder.info d).FramesFit := fun d hd => by
    have hinfo : VideoDecoder.info d = shortFrame.info := hd
    rw [hinfo]
    exact ⟨rfl, rfl⟩
  have hnext : ∀ p, (step? p).isSome → step? p = some (next p) := fun p hsome => by
    obtain ⟨q, hq⟩ := Option.isSome_iff_exists.mp hsome
    rw [next, hq, Option.getD_some]
  have hanswer : ∀ p layout answers, Answered known beforeShort.created.2 layout answers p →
      (step? p).isSome → Answered known beforeShort.created.2 (layout.or p.opening?)
        (answers ++ p.answer?.toList) (next p) := fun p _ _ h hsome => h.step (hnext p hsome)
  have hmeanwhile : ∀ p, ReflTransGen (Meanwhile known) beforeShort.created.2 p →
      (step? p).isSome → p.state = .rendering →
      ReflTransGen (Meanwhile known) beforeShort.created.2 (next p) := fun p h hsome hstate =>
    h.tail ⟨.work (.step (hnext p hsome)), fun hno => hno.1.1 hstate⟩
  -- the worker gets its buffers and ticks; after the delay it ticks again
  let paused := next (next (next beforeShort.created.2))
  let resumed : BitmapPlayer ScriptedDecoder ScriptedSink :=
    { paused with stage := { paused.stage with now := 40 } }
  have hpaused : Answered known beforeShort.created.2 (some shortFrame.info.layout)
      [.ok #[1, 2, 3, 4]] paused :=
    hanswer _ _ _ (hanswer _ _ _ (hanswer _ _ _ .begin rfl) rfl) rfl
  have hanswered : Answered known beforeShort.created.2 (some shortFrame.info.layout)
      [.ok #[1, 2, 3, 4], .ok #[9]] (next (next (next resumed))) :=
    hanswer _ _ _ (hanswer _ _ _ (hanswer _ _ _ (hpaused.pass 40) rfl) rfl) rfl
  have hrun : ReflTransGen (Meanwhile known) beforeShort.created.2 paused :=
    hmeanwhile _ (hmeanwhile _ (hmeanwhile _ .refl rfl rfl) rfl rfl) rfl rfl
  have hresumed : ReflTransGen (Meanwhile known) beforeShort.created.2 resumed :=
    hrun.tail ⟨.work (.pass 40), fun hno => hno.1.1 rfl⟩
  obtain ⟨handle, hhandle, _, hshown⟩ := images_of_reads hreliable hfits hreached haccepts
  obtain ⟨_, hrecord, _⟩ := hshown _ _ _ hanswered
  cases hhandle
  exact ⟨haccepts, _, hmeanwhile _ (hmeanwhile _ (hmeanwhile _ hresumed rfl rfl) rfl rfl) rfl rfl,
    hanswered, hrecord.trans rfl⟩

end BitmapPlayer

end AviPlayback
