import AviPlayback.Proofs.Player.FrameDraws
import AviPlayback.Proofs.Player.Requests

/-!
The pictures of a clip on surfaces that come and go. The renderer moves between the player and the
drawing worker, requests are dropped with each surface, and the cursor stays in the decoder: after
one start the pictures shown are those of the first frames, in order, each once, and the end of the
stream is published by the draw behind the last one (`TexturePlayer.pictures_in_order`).
-/
set_option autoImplicit false

namespace AviPlayback

open Relation (ReflTransGen)

namespace Event

variable {e : Event}

theorem drawn?_of_not_isOfDraw (h : e.isOfDraw = false) : e.drawn? = none := by
  cases e with
  | drawn | presented => cases h
  | _ => rfl

theorem picture?_of_not_isOfDraw (h : e.isOfDraw = false) : e.picture? = none := by
  cases e with
  | drawn | presented => cases h
  | _ => rfl

end Event

namespace Stage

variable {D S : Type} {s t u : Stage D S}

def pictures (s : Stage D S) : List PixelBuffer := s.noted Event.picture?

theorem pictures_takeIn (s : Stage D S) (d : D) : (s.takeIn d).pictures = s.pictures :=
  (noted_record _ { s with leases := s.leases ++ [⟨d, 1⟩] } (.opened s.nextLease)).trans
    (List.append_nil _)

/-- A stage with the decoders, the surface and the pictures of another. -/
structure SameContents (s t : Stage D S) : Prop where
  decoder? : t.decoder? = s.decoder?
  sink : t.sink = s.sink
  pictures : t.pictures = s.pictures

namespace SameContents

theorem refl (s : Stage D S) : SameContents s s := ⟨rfl, rfl, rfl⟩

theorem trans (h : SameContents s t) (h' : SameContents t u) : SameContents s u :=
  ⟨h'.decoder?.trans h.decoder?, h'.sink.trans h.sink, h'.pictures.trans h.pictures⟩

theorem record (s : Stage D S) {e : Event} (he : e.picture? = none) :
    SameContents s (s.record e) := by
  refine ⟨rfl, rfl, ?_⟩
  rw [Stage.pictures, noted_record, he, Option.toList_none, List.append_nil]
  rfl

theorem of_sameDraws (h : SameDraws s t) : SameContents s t :=
  ⟨h.decoder?, h.sink, h.noted_eq Event.picture?_of_not_isOfDraw⟩

theorem release (s : Stage D S) (lease : Nat) : SameContents s (s.release lease) :=
  of_sameDraws (.release s lease)

theorem moveTo {L : Type} (session : Session D S L) (next : PlaybackState) :
    SameContents session.stage (session.moveTo next).stage := of_sameDraws (.moveTo session next)

end SameContents

end Stage

namespace TexturePlayer

variable {S : Type} {c : Clip} {earlier images : List PixelBuffer} {sinks : S → Prop} {k : Nat}
  {p q : TexturePlayer Clip S TextureRenderer}

/-- A player that has shown the first `k` pictures of its clip, after some earlier ones. Who has the
renderer can draw the next one. -/
structure InOrder (c : Clip) (earlier images : List PixelBuffer) (sinks : S → Prop) (k : Nat)
    (p : TexturePlayer Clip S TextureRenderer) : Prop where
  pictures : p.stage.pictures = earlier ++ images.take k
  le : k ≤ images.length
  sink : sinks p.stage.sink
  idle : ∀ rig ∈ p.renderer, rig.renderer.Fits c ∧ p.stage.decoder? rig.lease = some (c.atFrame k)
  busy : ∀ rig ∈ DrawLoop.rigOf p.drawing,
    rig.renderer.Ready c ∧ p.stage.decoder? rig.lease = some (c.atFrame k)
  calm : p.drawing ≠ some .panicked
  alone : p.drawing.isSome → p.renderer = none

namespace InOrder

/-- The renderer may change hands. -/
theorem congr (h : InOrder c earlier images sinks k p) (hstage : p.stage.SameContents q.stage)
    (hidle : ∀ rig ∈ q.renderer, rig ∈ p.renderer ∨ rig ∈ DrawLoop.rigOf p.drawing)
    (hbusy : DrawLoop.rigOf q.drawing = DrawLoop.rigOf p.drawing ∨
      DrawLoop.rigOf q.drawing = none)
    (hcalm : q.drawing ≠ some .panicked) (halone : q.drawing.isSome → q.renderer = none) :
    InOrder c earlier images sinks k q := by
  refine ⟨hstage.pictures.trans h.pictures, h.le, hstage.sink ▸ h.sink, fun rig hrig => ?_,
    fun rig hrig => ?_, hcalm, halone⟩
  · rw [hstage.decoder?]
    rcases hidle rig hrig with hidle | hbusy
    · exact h.idle rig hidle
    · obtain ⟨hready, hdecoder⟩ := h.busy rig hbusy
      exact ⟨hready.toFits, hdecoder⟩
  · rw [hstage.decoder?]
    rcases hbusy with hsame | hnone
    · exact h.busy rig (hsame ▸ hrig)
    · rw [hnone] at hrig
      cases hrig

theorem paced (h : InOrder c earlier images sinks k p) (hstep : Paced p q) :
    InOrder c earlier images sinks k q := by
  cases hstep with
  | ask _ hdrawing =>
    refine h.congr (.record _ rfl) (fun _ => .inl) (.inl ?_) nofun fun _ => h.alone ?_
    · rw [hdrawing]
      exact congrArg some (DrawLoop.rig_push _ _)
    · rw [hdrawing]
      rfl
  | limit => exact h.congr (.moveTo _ _) (fun _ => .inl) (.inl rfl) h.calm h.alone
  | _ => exact h.congr (.refl _) (fun _ => .inl) (.inl rfl) h.calm h.alone

section

variable [FrameSink S]

/-- A draw shows the next picture, or finds none and says so. -/
theorem draw (h : InOrder c earlier images sinks k p) (hc : c.Drawable)
    (himages : c.index.entries.map c.image = images.map .ok) (hcalm : FrameSink.Calm sinks)
    {rig : Rig TextureRenderer} {seq : Nat} {queue : List Nat} {told : Bool}
    (hdrawing : p.drawing = some (.running (.drawing rig seq queue) told)) :
    ∃ renderer t, (p.stage.record (.drawn seq)).draw rig.lease rig.renderer =
        (if k < images.length then .more else .ended, renderer, t) ∧
      renderer.Ready c ∧ t.decoder? rig.lease = some (c.atFrame (min (k + 1) images.length)) ∧
      sinks t.sink ∧ t.pictures = earlier ++ images.take (min (k + 1) images.length) := by
  obtain ⟨hready, hdecoder⟩ := h.busy rig (by rw [hdrawing]; rfl)
  have hdecoder' : (p.stage.record (.drawn seq)).decoder? rig.lease = some (c.atFrame k) := hdecoder
  obtain ⟨t, hdraw, ht⟩ := Stage.exists_drawnTo hdecoder' rig.renderer
  have hbefore : (p.stage.record (.drawn seq)).pictures = earlier ++ images.take k :=
    (Stage.SameContents.record p.stage rfl).pictures.trans h.pictures
  have hpictures : t.pictures = _ := ht.noted Event.picture? fun _ => rfl
  rw [show (p.stage.record (.drawn seq)).noted Event.picture? = _ from hbefore] at hpictures
  rcases Nat.lt_or_eq_of_le h.le with hlt | rfl
  · obtain ⟨e, he, himage⟩ := Clip.exists_image himages hlt
    obtain ⟨next, hnext, hready'⟩ := hready.draw_of_lt hc he himage p.stage.sink
    obtain ⟨hshown, hsink⟩ := hcalm p.stage.sink images[k] h.sink
    have hdrawn : (FrameRenderer.draw rig.renderer (c.atFrame k)
        (p.stage.record (.drawn seq)).sink : Drawing TextureRenderer Clip S) = _ := hnext
    rw [hdrawn] at hdraw ht hpictures
    rw [if_neg hshown] at hdraw
    refine ⟨next, t, ?_, hready', ?_, ?_, ?_⟩
    · rw [if_pos hlt]
      exact hdraw
    · rw [Nat.min_eq_left hlt]
      exact ht.decoder?
    · exact ht.sink ▸ hsink
    · rw [hpictures, Nat.min_eq_left hlt, List.take_succ_eq_append_getElem hlt, List.append_assoc]
      rfl
  · have hend := TextureRenderer.draw_at_end rig.renderer c p.stage.sink
    rw [Clip.frameCount_eq_length himages] at hend
    have hdrawn : (FrameRenderer.draw rig.renderer (c.atFrame images.length)
        (p.stage.record (.drawn seq)).sink : Drawing TextureRenderer Clip S) = _ := hend
    rw [hdrawn] at hdraw ht hpictures
    refine ⟨rig.renderer, t, ?_, hready, ?_, ?_, ?_⟩
    · rw [if_neg (Nat.lt_irrefl _)]
      exact hdraw
    · rw [Nat.min_eq_right (Nat.le_succ _)]
      exact ht.decoder?
    · exact ht.sink ▸ h.sink
    · rw [hpictures, Nat.min_eq_right (Nat.le_succ _), List.take_length]
      exact List.append_nil _

theorem drew (h : InOrder c earlier images sinks k p) (hc : c.Drawable)
    (himages : c.index.entries.map c.image = images.map .ok) (hcalm : FrameSink.Calm sinks)
    (hstep : Drew p q) : ∃ k, InOrder c earlier images sinks k q := by
  obtain ⟨_, _, hrunning⟩ := hstep.exists_running
  have halone : p.renderer = none := h.alone (by rw [hrunning]; rfl)
  have hidle {t : Stage Clip S} : ∀ rig ∈ p.renderer, rig.renderer.Fits c ∧
      t.decoder? rig.lease = some (c.atFrame (min (k + 1) images.length)) := by
    rw [halone]
    exact nofun
  cases hstep with
  | stop hdrawing | take hdrawing | drained hdrawing | finish hdrawing =>
    refine ⟨k, h.congr (.refl _) (fun _ => .inl) (.inl ?_) nofun fun _ => halone⟩
    rw [hdrawing]
    rfl
  | @more rig seq queue told renderer stage hdrawing hdraw =>
    obtain ⟨renderer', t, hdraw', hready, hdecoder, hsink, hpictures⟩ :=
      h.draw hc himages hcalm hdrawing
    rw [hdraw, Prod.mk.injEq, Prod.mk.injEq] at hdraw'
    obtain ⟨_, rfl, rfl⟩ := hdraw'
    refine ⟨_, hpictures, Nat.min_le_right _ _, hsink, hidle, fun rig' hrig => ?_, nofun,
      fun _ => halone⟩
    cases hrig
    exact ⟨hready, hdecoder⟩
  | @ended rig seq queue told renderer stage hdrawing hdraw =>
    obtain ⟨renderer', t, hdraw', hready, hdecoder, hsink, hpictures⟩ :=
      h.draw hc himages hcalm hdrawing
    rw [hdraw, Prod.mk.injEq, Prod.mk.injEq] at hdraw'
    obtain ⟨_, rfl, rfl⟩ := hdraw'
    have hdrawn : InOrder c earlier images sinks (min (k + 1) images.length)
        ((p.setStage stage).setDrawing (.ending { rig with renderer }) told) := by
      refine ⟨hpictures, Nat.min_le_right _ _, hsink, hidle, fun rig' hrig => ?_, nofun,
        fun _ => halone⟩
      cases hrig
      exact ⟨hready, hdecoder⟩
    exact ⟨_, hdrawn.congr (.moveTo (p.setStage stage).session _) (fun _ => .inl) (.inl rfl) nofun
      fun _ => halone⟩
  | panicked hdrawing hdraw =>
    obtain ⟨_, _, hdraw', _⟩ := h.draw hc himages hcalm hdrawing
    rw [hdraw] at hdraw'
    split at hdraw' <;> cases hdraw'

theorem works (h : ∃ k, InOrder c earlier images sinks k p) (hc : c.Drawable)
    (himages : c.index.entries.map c.image = images.map .ok) (hcalm : FrameSink.Calm sinks)
    (hworks : ReflTransGen Works p q) : ∃ k, InOrder c earlier images sinks k q := by
  induction hworks with
  | refl => exact h
  | tail _ hstep ih =>
    obtain ⟨k, hk⟩ := ih
    cases hstep with
    | step hstep =>
      rcases hstep with hpace | hdraw
      · exact ⟨k, hk.paced (paced_of_paceStep? hpace)⟩
      · exact hk.drew hc himages hcalm (drew_of_drawStep? hdraw)
    | turn | pass => exact ⟨k, hk.congr ⟨rfl, rfl, rfl⟩ (fun _ => .inl) (.inl rfl) hk.calm hk.alone⟩

/-! ### Calls -/

theorem created (h : InOrder c earlier images sinks k p) (hp : Sound p) (hc : c.Drawable) :
    InOrder c earlier images sinks k p.created.2 := by
  rcases created_cases (not_any_isRunning hp) with ⟨r, hcreated⟩ | ⟨rig, hrenderer, hcases⟩
  · rwa [hcreated]
  obtain ⟨hfits, hdecoder⟩ := h.idle rig hrenderer
  have hready : (prepared Clip S rig).renderer.Ready c := by
    obtain ⟨ready, hinit, hready⟩ := hfits.initSurface hc
    have hinit' : FrameRenderer.initSurface Clip S rig.renderer = (.ok (), ready) := hinit
    rwa [prepared, hinit']
  have hnone := drawing_of_no_surface hp (surface_of_renderer hp hrenderer)
  rcases hcases with ⟨_, r, hcreated⟩ | ⟨r, hcreated⟩ | ⟨pacer, hcreated⟩
  all_goals rw [hcreated]
  · rw [dropRenderer, hrenderer]
    exact h.congr (.release _ _) (by rintro _ ⟨⟩) (.inl rfl) h.calm fun _ => rfl
  · refine ⟨h.pictures, h.le, h.sink, fun rig' hrig => ?_, h.busy, h.calm, fun hsome => ?_⟩
    · cases hrig
      exact ⟨hready.toFits, hdecoder⟩
    · rw [hnone] at hsome
      cases hsome
  · have hstage : p.stage.SameContents (p.onNewSurface pacer (prepared Clip S rig)).stage :=
      (Stage.SameContents.moveTo p.session .surfaceReady).trans
        (.moveTo { p.session.moveTo .surfaceReady with surface := true } .rendering)
    refine ⟨hstage.pictures.trans h.pictures, h.le, hstage.sink ▸ h.sink, by rintro _ ⟨⟩,
      fun rig' hrig => ?_, by rintro ⟨⟩, fun _ => rfl⟩
    cases hrig
    exact ⟨hready, (congrFun hstage.decoder? rig.lease).trans hdecoder⟩

omit [FrameSink S] in
theorem leaveSurface (h : InOrder c earlier images sinks k p) :
    InOrder c earlier images sinks k p.leaveSurface := by
  rw [TexturePlayer.leaveSurface]
  split
  · next hsurface =>
    rw [Session.leaveSurface_eq_lost hsurface]
    exact h.congr (.moveTo p.session _) (fun _ => .inl) (.inl (DrawLoop.rigOf_map_cancel _))
      (fun hpanicked => h.calm (Task.panicked_of_map_cancel hpanicked))
      fun hsome => h.alone (by rwa [Option.isSome_map] at hsome)
  · exact h

omit [FrameSink S] in
theorem joinDrawing (h : InOrder c earlier images sinks k p) :
    InOrder c earlier images sinks k p.joinDrawing := by
  rw [TexturePlayer.joinDrawing]
  split
  · next rig hdrawing =>
    refine h.congr (.refl _) (fun rig' hrig => .inr ?_) (.inr rfl) (by rintro ⟨⟩)
      (by rintro ⟨⟩)
    cases hrig
    rw [hdrawing]
    rfl
  · exact h.congr (.refl _) (fun _ => .inl) (.inr rfl) (by rintro ⟨⟩) (by rintro ⟨⟩)
  · exact h

theorem destroyed (h : InOrder c earlier images sinks k p) (hp : Sound p) (hc : c.Drawable)
    (himages : c.index.entries.map c.image = images.map .ok) (hcalm : FrameSink.Calm sinks) :
    ∃ k, InOrder c earlier images sinks k p.destroyed.2 := by
  cases hsurface : p.session.surface with
  | false =>
    rw [destroyed_of_no_surface hp hsurface]
    exact ⟨k, h⟩
  | true =>
    obtain ⟨k', hsettled⟩ := works ⟨k, h.leaveSurface⟩ hc himages hcalm (works_settle _)
    obtain ⟨_, hquiet⟩ := (left_leaveSurface hp hsurface).settle
    rw [destroyed_of_surface hp hsurface, Session.joinWorker_snd (Bool.and_eq_true_iff.mp hquiet).1]
    refine ⟨k', joinDrawing ?_⟩
    exact hsettled.congr (.refl _) (fun _ => .inl) (.inl rfl) hsettled.calm hsettled.alone

theorem stop (h : InOrder c earlier images sinks k p) (hp : Sound p) (hc : c.Drawable)
    (himages : c.index.entries.map c.image = images.map .ok) (hcalm : FrameSink.Calm sinks) :
    ∃ k, InOrder c earlier images sinks k p.stop.2 := by
  obtain ⟨k', hdestroyed⟩ := h.destroyed hp hc himages hcalm
  have hfreed : InOrder c earlier images sinks k' p.destroyed.2.freeRenderer := by
    rw [freeRenderer]
    split
    · refine hdestroyed.congr ?_ (by rintro _ ⟨⟩) (.inl rfl) hdestroyed.calm fun _ => rfl
      exact (Stage.SameContents.record _ rfl).trans (.release _ _)
    · exact hdestroyed
  rw [stop_snd, Session.closeAndReset_eq]
  exact ⟨k', hfreed.congr (.of_sameDraws ((Stage.SameDraws.close _).trans (.moveTo _ _)))
    (fun _ => .inl) (.inl rfl) hfreed.calm hfreed.alone⟩

omit [FrameSink S] in
/-- A start that is refused shows nothing. -/
theorem start (h : InOrder c earlier images sinks k p) (hp : Sound p)
    {source : String → Except PlayerFault Clip}
    {create : StreamInfo → Except PlayerFault TextureRenderer} {path : String}
    (hrefused : (p.start source create path).1 ≠ .ok ()) :
    InOrder c earlier images sinks k (p.start source create path).2 := by
  rcases start_cases hp source create path with ⟨r, hstart⟩ | ⟨hhandle, ⟨r, hstart⟩ |
    ⟨d, renderer, _, _, hstart⟩ | ⟨r, d, _, hstart⟩ | ⟨r, d, _, hstart⟩⟩
  · rwa [hstart]
  · rw [hstart]
    exact h.congr (.record _ rfl) (fun _ => .inl) (.inl rfl) h.calm h.alone
  · rw [hstart] at hrefused
    exact absurd rfl hrefused
  all_goals
    have hclosed := closed_of_no_handle hp hhandle
    have hopened : InOrder c earlier images sinks k { p with session := p.opened d path } := by
      refine ⟨(Stage.pictures_takeIn _ d).trans h.pictures, h.le, h.sink, fun rig hrig => ?_,
        fun rig hrig => ?_, h.calm, h.alone⟩
      · cases hclosed.renderer.symm.trans hrig
      · cases (congrArg DrawLoop.rigOf hclosed.drawing).symm.trans hrig
    rw [hstart]
  · exact hopened
  · exact hopened.congr (.of_sameDraws (.close _)) (fun _ => .inl) (.inl rfl) hopened.calm
      hopened.alone

end

end InOrder

/-! ### Without a frame limit -/

section

variable {D S R : Type} {p q : TexturePlayer D S R}

/-- A player without a frame limit: while draws are asked for, frames are being produced. -/
structure Unlimited (p : TexturePlayer D S R) : Prop where
  limit : p.session.options.maxFrames = none
  rendering : ∀ loop, p.drawing = some (.running loop false) → loop.isEnding = false →
    p.session.state = .rendering

namespace Unlimited

theorem of_no_drawing (hlimit : p.session.options.maxFrames = none) (hdrawing : p.drawing = none) :
    Unlimited p := by
  refine ⟨hlimit, fun loop hloop => ?_⟩
  rw [hdrawing] at hloop
  cases hloop

theorem paced (h : Unlimited p) (hstep : Paced p q) : Unlimited q := by
  cases hstep with
  | ask _ hdrawing =>
    refine ⟨h.limit, fun loop hloop hending => ?_⟩
    cases hloop
    exact h.rendering _ hdrawing ((DrawLoop.isEnding_push _ _).symm.trans hending)
  | limit _ hlimit =>
    rw [PlayerOptions.limitReached, h.limit] at hlimit
    cases hlimit
  | _ => exact ⟨h.limit, h.rendering⟩

variable [FrameRenderer R D S]

theorem drew (h : Unlimited p) (hstep : Drew p q) : Unlimited q := by
  cases hstep with
  | stop | drained | finish | panicked => exact ⟨h.limit, nofun⟩
  | take hdrawing =>
    refine ⟨h.limit, fun loop hloop _ => ?_⟩
    exact h.rendering _ hdrawing rfl
  | more hdrawing =>
    refine ⟨h.limit, fun loop hloop _ => ?_⟩
    cases hloop
    exact h.rendering _ hdrawing rfl
  | @ended _ _ _ _ _ stage hdrawing =>
    refine ⟨?_, fun loop hloop hending => ?_⟩
    · exact (congrArg _ (Session.options_moveTo (p.setStage stage).session _)).trans h.limit
    · cases hloop
      cases hending

theorem works (h : Unlimited p) (hstep : Works p q) : Unlimited q := by
  cases hstep with
  | step hstep =>
    rcases hstep with hpace | hdraw
    · exact h.paced (paced_of_paceStep? hpace)
    · exact h.drew (drew_of_drawStep? hdraw)
  | turn | pass => exact ⟨h.limit, h.rendering⟩

theorem created [VideoDecoder D] (h : Unlimited p) (hp : Sound p) : Unlimited p.created.2 := by
  rcases created_cases (not_any_isRunning hp) with
    ⟨r, hcreated⟩ | ⟨rig, hrenderer, ⟨_, r, hcreated⟩ |
    ⟨r, hcreated⟩ | ⟨pacer, hcreated⟩⟩
  all_goals rw [hcreated]
  · exact h
  · rw [dropRenderer, hrenderer]
    exact ⟨h.limit, h.rendering⟩
  · exact ⟨h.limit, h.rendering⟩
  · let ready : Session D S PaceLoop := { p.session.moveTo .surfaceReady with surface := true }
    have hready : ready.options = p.session.options := Session.options_moveTo _ _
    exact ⟨(congrArg _ ((Session.options_moveTo ready .rendering).trans hready)).trans h.limit,
      fun _ _ _ => Session.state_moveTo ready .rendering⟩

theorem destroyed (h : Unlimited p) (hp : Sound p) : Unlimited p.destroyed.2 := by
  have hended := ended_destroyed hp
  exact of_no_drawing ((congrArg _ hended.options).trans h.limit)
    (drawing_of_no_surface hended.sound hended.surface)

theorem stop (h : Unlimited p) (hp : Sound p) : Unlimited p.stop.2 := by
  have hfree : p.destroyed.2.freeRenderer.session.options = p.destroyed.2.session.options := by
    rw [freeRenderer]
    split <;> rfl
  refine of_no_drawing ?_ (stopped_stop hp).closed.drawing
  rw [stop_snd, Session.options_closeAndReset, hfree]
  exact (h.destroyed hp).limit

omit [FrameRenderer R D S] in
theorem start [VideoDecoder D] (h : Unlimited p) (hp : Sound p)
    (source : String → Except PlayerFault D) (create : StreamInfo → Except PlayerFault R)
    (path : String) : Unlimited (p.start source create path).2 := by
  rcases start_cases hp source create path with ⟨r, hstart⟩ | ⟨_, ⟨r, hstart⟩ |
    ⟨d, renderer, _, _, hstart⟩ | ⟨r, d, _, hstart⟩ | ⟨r, d, _, hstart⟩⟩
  all_goals rw [hstart]
  · exact h
  · exact ⟨h.limit, h.rendering⟩
  · exact ⟨h.limit, h.rendering⟩
  · exact ⟨h.limit, h.rendering⟩
  · rw [Session.close_snd]
    exact ⟨h.limit, h.rendering⟩

end Unlimited

variable [FrameRenderer R D S]

/-! ### Draws and calls -/

/-- Between two draws there is none to be finished. -/
theorem draws_eq_of_isBetweenDraws {s : Stage D S} (h : p.stageAfterDraw.SameDraws s)
    (hbetween : p.isBetweenDraws) : s.draws = p.stage.draws := by
  rw [stageAfterDraw_of_isBetweenDraws hbetween] at h
  exact h.noted_eq Event.drawn?_of_not_isOfDraw

end

/-! ### Runs after a start -/

section

variable {S : Type} [FrameSink S] {c : Clip} {earlier images : List PixelBuffer} {sinks : S → Prop}
  {k : Nat} {p q : TexturePlayer Clip S TextureRenderer}

/-- What can happen after a start: any call, at any moment, but a start that succeeds again; or work
between calls. -/
inductive Goes (p : TexturePlayer Clip S TextureRenderer) :
    TexturePlayer Clip S TextureRenderer → Prop
  | start (source : String → Except PlayerFault Clip)
      (create : StreamInfo → Except PlayerFault TextureRenderer) (path : String)
      (hrefused : (p.start source create path).1 ≠ .ok ()) : Goes p (p.start source create path).2
  | created : Goes p p.created.2
  | changed : Goes p p.changed.2
  | destroyed : Goes p p.destroyed.2
  | stop : Goes p p.stop.2
  | work {q : TexturePlayer Clip S TextureRenderer} (h : Works p q) : Goes p q

theorem Goes.happens (h : Goes p q) : Happens (fun _ => True) (fun _ => True) p q := by
  cases h with
  | start source create path =>
    exact .start source create path (fun _ _ _ => trivial) fun _ _ _ => trivial
  | created => exact .created
  | changed => exact .changed
  | destroyed => exact .destroyed
  | stop => exact .stop
  | work h => exact .work h

theorem Unlimited.goes (h : Unlimited p) (hp : Sound p) (hgoes : Goes p q) : Unlimited q := by
  cases hgoes with
  | start source create path => exact h.start hp source create path
  | created => exact h.created hp
  | changed => exact h
  | destroyed => exact h.destroyed hp
  | stop => exact h.stop hp
  | work hstep => exact h.works hstep

theorem InOrder.goes (h : InOrder c earlier images sinks k p) (hp : Sound p) (hc : c.Drawable)
    (himages : c.index.entries.map c.image = images.map .ok) (hcalm : FrameSink.Calm sinks)
    (hgoes : Goes p q) : ∃ k, InOrder c earlier images sinks k q := by
  cases hgoes with
  | start _ _ _ hrefused => exact ⟨k, h.start hp hrefused⟩
  | created => exact ⟨k, h.created hp hc⟩
  | changed => exact ⟨k, h⟩
  | destroyed => exact h.destroyed hp hc himages hcalm
  | stop => exact h.stop hp hc himages hcalm
  | work hstep => exact InOrder.works ⟨k, h⟩ hc himages hcalm (.single hstep)

omit [FrameSink S] in
/-- At any moment between two calls the drawing worker has not been told to stop. -/
theorem Phase.untold (h : Phase p) (hp : Sound p) {loop : DrawLoop TextureRenderer} {told : Bool}
    (hdrawing : p.drawing = some (.running loop told)) : told = false := by
  cases h with
  | away hsurface =>
    rw [drawing_of_no_surface hp hsurface] at hdrawing
    cases hdrawing
  | playing _ _ _ hloop | draining _ _ _ hloop | ending _ _ _ hloop =>
    rw [hloop] at hdrawing
    cases hdrawing
    rfl
  | ended _ _ _ hgone | panicked _ _ _ hgone =>
    rw [hgone] at hdrawing
    cases hdrawing

namespace InOrder

omit [FrameSink S] in
theorem pictures_eq_iff (h : InOrder c earlier images sinks k p) :
    p.stage.pictures = earlier ++ images ↔ ¬ k < images.length := by
  rw [h.pictures, List.append_cancel_left_eq]
  refine ⟨fun hall hlt => ?_, fun hnot => List.take_of_length_le (Nat.le_of_not_lt hnot)⟩
  rw [← hall, List.length_take] at hlt
  exact Nat.lt_irrefl _ (Nat.lt_of_lt_of_le hlt (Nat.min_le_left _ _))

/-- The draw behind the last picture publishes the end of the stream, and no other draw does. -/
theorem publications (h : InOrder c earlier images sinks k p) (hc : c.Drawable)
    (himages : c.index.entries.map c.image = images.map .ok) (hcalm : FrameSink.Calm sinks)
    (hstate : p.session.state = .rendering) (hdraws : p.isBetweenDraws = false) (hstep : Drew p q) :
    q.stage.publications =
      p.stage.publications ++ if k < images.length then [] else [.streamEnded] := by
  have hsilent (rig : Rig TextureRenderer) (seq : Nat) :
      ((p.stage.record (.drawn seq)).draw rig.lease rig.renderer).2.2.publications =
        p.stage.publications :=
    (Stage.noted_draw_of_silent (fun _ => rfl) (fun _ => rfl) _ _ _).trans
      ((Stage.noted_record _ _ _).trans (List.append_nil _))
  cases hstep with
  | stop hdrawing | take hdrawing | drained hdrawing | finish hdrawing =>
    rw [isBetweenDraws_of_running hdrawing] at hdraws
    cases hdraws
  | @more rig seq _ _ _ stage hdrawing hdraw =>
    obtain ⟨_, _, hdraw', _⟩ := h.draw hc himages hcalm hdrawing
    have hstage := hsilent rig seq
    rw [hdraw] at hdraw' hstage
    have houtcome := congrArg Prod.fst hdraw'
    split at houtcome
    · next hlt =>
      rw [if_pos hlt, List.append_nil]
      exact hstage
    · cases houtcome
  | @ended rig seq _ _ _ stage hdrawing hdraw =>
    obtain ⟨_, _, hdraw', _⟩ := h.draw hc himages hcalm hdrawing
    have hstage := hsilent rig seq
    rw [hdraw] at hdraw' hstage
    have houtcome := congrArg Prod.fst hdraw'
    split at houtcome
    · cases houtcome
    · next hnot =>
      have hnew : .streamEnded ≠ (p.setStage stage).session.state := by
        rw [show (p.setStage stage).session.state = .rendering from hstate]
        rintro ⟨⟩
      have hended : ((p.setStage stage).session.moveTo p.session.state.ended).stage.publications =
          stage.publications ++ [.streamEnded] := by
        rw [hstate]
        exact Stage.publications_moveTo hnew
      rw [if_neg hnot]
      exact hended.trans (congrArg (· ++ _) hstage)
  | panicked hdrawing hdraw =>
    obtain ⟨_, _, hdraw', _⟩ := h.draw hc himages hcalm hdrawing
    rw [hdraw] at hdraw'
    split at hdraw' <;> cases hdraw'

omit [FrameSink S] in
/-- A start that succeeds has shown nothing yet. -/
theorem begin (hp : Sound p) (hc : c.Drawable) (hposition : c.position = 0)
    (hsink : sinks p.stage.sink) {source : String → Except PlayerFault Clip} {path : String}
    (hsource : source path = .ok c)
    (hstart : p.start source TextureRenderer.create path = (.ok (), q)) :
    InOrder c p.stage.pictures images sinks 0 q ∧ q.drawing = none ∧
      q.session.options = p.session.options := by
  cases hhandle : p.session.handle with
  | some handle =>
    rw [TexturePlayer.start, Session.openDecoder_of_open (by rw [hhandle]; rfl)] at hstart
    cases hstart
  | none =>
    have hclosed := closed_of_no_handle hp hhandle
    cases hcreate : TextureRenderer.create (VideoDecoder.info c) with
    | error fault =>
      rw [start_of_create_error hhandle hsource hcreate] at hstart
      cases hstart
    | ok renderer =>
      rw [start_of_ok hhandle hclosed.renderer hsource hcreate] at hstart
      cases hstart
      have hshared := Stage.decoder?_share (p.stage.takeIn c) p.stage.nextLease p.stage.nextLease
      rw [Stage.decoder?_takeIn, if_pos rfl] at hshared
      have hpictures : (((p.stage.takeIn c).share p.stage.nextLease).record
          (.rendererCreated p.stage.nextLease)).pictures = p.stage.pictures :=
        (Stage.SameContents.record _ rfl).pictures.trans (Stage.pictures_takeIn p.stage c)
      refine ⟨⟨hpictures.trans (List.append_nil _).symm, Nat.zero_le _, hsink, fun rig hrig => ?_,
        fun rig hrig => ?_, ?_, fun hsome => ?_⟩, hclosed.drawing, rfl⟩
      · cases hrig
        exact ⟨TextureRenderer.fits_create hc hcreate, by
          rw [show c.atFrame 0 = c by rw [Clip.atFrame, ← hposition]]
          exact hshared⟩
      · cases (congrArg DrawLoop.rigOf hclosed.drawing).symm.trans hrig
      · rw [show _ = none from hclosed.drawing]
        rintro ⟨⟩
      · rw [show Option.isSome _ = false from congrArg Option.isSome hclosed.drawing] at hsome
        cases hsome

end InOrder

/-- The pictures shown after a start. Whatever surfaces come and go, and whenever, they are those of
the first frames, in order, each once. A draw publishes the end of the stream when all pictures had
been shown before, and otherwise publishes nothing. A surface that goes away between two draws
handles no request any more, and wherever the drawing worker waits, no draw has begun; a draw that
has begun is finished first, and no other, too late for its end to be published. -/
theorem pictures_in_order {file : Bytes} {opened : Clip} (hopen : Clip.ofBytes file = .ok opened)
    (hpixels : opened.layout.pixels.isConvertible)
    (hframes : ∀ e ∈ opened.index.entries, ∀ bytes ∈ opened.layout.frameBytes?,
      bytes ≤ e.size.toNat) (hcalm : FrameSink.Calm sinks)
    {before begun : TexturePlayer Clip S TextureRenderer}
    (hreached : Reached (fun _ => True) (fun _ => True) (fun _ => True) before)
    (hsink : sinks before.stage.sink) (hlimit : before.session.options.maxFrames = none)
    {source : String → Except PlayerFault Clip} {path : String} (hsource : source path = .ok opened)
    (hstart : before.start source TextureRenderer.create path = (.ok (), begun)) :
    ∃ images : List PixelBuffer, opened.index.entries.map opened.image = images.map .ok ∧
      ∀ q, ReflTransGen Goes begun q →
        (∃ k ≤ images.length,
          q.stage.pictures = before.stage.pictures ++ images.take k) ∧
        (q.isBetweenDraws = false → ∃ r, q.drawStep? = some r ∧
          r.stage.publications = q.stage.publications ++
            if q.stage.pictures = before.stage.pictures ++ images then [.streamEnded] else []) ∧
        (q.isBetweenDraws →
          q.destroyed.2.stage.draws = q.stage.draws ∧ q.stop.2.stage.draws = q.stage.draws) ∧
        (q.GivesWay → q.isBetweenDraws) ∧
        q.destroyed.2.stage.drawLog = q.stageAfterDraw.drawLog ∧
        q.stop.2.stage.drawLog = q.stageAfterDraw.drawLog := by
  have hc := Clip.drawable_of_ofBytes hopen hpixels hframes
  obtain ⟨images, himages⟩ := hc.exists_images
  have hposition : opened.position = 0 := by
    obtain ⟨_, _, _, _, _, _, _, _, _, _, _, _, rfl, _⟩ := Clip.ofBytes_eq_ok_iff.mp hopen
    rfl
  obtain ⟨hbegun, hdrawing, hoptions⟩ :
      InOrder opened before.stage.pictures images sinks 0 begun ∧ _ ∧ _ :=
    InOrder.begin hreached.phase.1 hc hposition hsink hsource hstart
  refine ⟨images, himages, fun q hgoes => ?_⟩
  -- the player stays sound, without a limit, and in order
  have hrun : Reached (fun _ => True) (fun _ => True) (fun _ => True) q ∧ Unlimited q ∧
      ∃ k, InOrder opened before.stage.pictures images sinks k q := by
    induction hgoes with
    | refl =>
      refine ⟨?_, .of_no_drawing (hoptions ▸ hlimit) hdrawing, 0, hbegun⟩
      have hstarted := hreached.happens (.start source TextureRenderer.create path
        (fun _ _ _ => trivial) fun _ _ _ => trivial)
      rwa [hstart] at hstarted
    | tail _ hstep ih =>
      obtain ⟨hthere, hunlimited, k, hk⟩ := ih
      exact ⟨hthere.happens hstep.happens, hunlimited.goes hthere.phase.1 hstep,
        hk.goes hthere.phase.1 hc himages hcalm hstep⟩
  obtain ⟨hthere, hunlimited, k, hk⟩ := hrun
  obtain ⟨hp, hphase⟩ := hthere.phase
  have hdestroyed := (ended_destroyed hp).draws
  have hstopped := (stopped_stop hp).draws
  refine ⟨⟨k, hk.le, hk.pictures⟩, fun hdraws => ?_,
    fun hbetween => ⟨draws_eq_of_isBetweenDraws hdestroyed hbetween,
      draws_eq_of_isBetweenDraws hstopped hbetween⟩,
    isBetweenDraws_of_givesWay, hdestroyed.drawLog, hstopped.drawLog⟩
  obtain ⟨rig, seq, queue, told, hdrawing⟩ := exists_drawing hdraws
  obtain rfl := hphase.untold hp hdrawing
  have hstate := hunlimited.rendering _ hdrawing rfl
  have hanswer : q.drawStep? = some (q.answer rig seq queue false) := by rw [drawStep?, hdrawing]
  refine ⟨_, hanswer, ?_⟩
  rw [hk.publications hc himages hcalm hstate hdraws (drew_of_drawStep? hanswer)]
  by_cases hlt : k < images.length
  · rw [if_pos hlt, if_neg (hk.pictures_eq_iff.not_left.mpr hlt)]
  · rw [if_neg hlt, if_pos (hk.pictures_eq_iff.mpr hlt)]

end

end TexturePlayer

/-- A small file of two whole frames. -/
def FileLayout.twoFrames : FileLayout where
  main := List.replicate 40 0
  streams := [pictures]
  chunks := [⟨.ofChars '0' '0' 'd' 'b', [1, 2, 3, 4, 5, 6, 0, 0]⟩,
    ⟨.ofChars '0' '0' 'd' 'b', [6, 5, 4, 3, 2, 1, 0, 0]⟩]
  index := none

/-- The surface refuses the first picture, and goes away and comes back at any time. -/
theorem TexturePlayer.pictures_in_order_twoFrames :
    let before : TexturePlayer Clip ScriptedSink TextureRenderer :=
      .new ⟨[1], [], false, 0⟩ ⟨25.0, none⟩
    ∃ opened begun, ∃ images : List PixelBuffer,
      Clip.ofBytes FileLayout.twoFrames.bytes = .ok opened ∧
      opened.layout.pixels.isConvertible ∧
      (∀ e ∈ opened.index.entries, ∀ bytes ∈ opened.layout.frameBytes?, bytes ≤ e.size.toNat) ∧
      before.start (fun _ => .ok opened) TextureRenderer.create "clip" = (.ok (), begun) ∧
      opened.index.entries.map opened.image = images.map .ok ∧ images.length = 2 ∧
      ∀ q, ReflTransGen Goes begun q → ∃ k ≤ 2, q.stage.pictures = images.take k := by
  intro before
  have htwo : (Clip.ofBytes FileLayout.twoFrames.bytes).toOption.map (fun c =>
      (c.layout.pixels.isConvertible, c.layout.frameBytes?, c.maxFrameSize,
        c.index.entries.map (·.size.toNat))) = some (true, some 8, 8, [8, 8]) := by
    decide +kernel
  cases hopen : Clip.ofBytes FileLayout.twoFrames.bytes with
  | error fault => simp [hopen, Except.toOption] at htwo
  | ok opened =>
    simp only [hopen, Except.toOption, Option.map_some, Option.some.injEq, Prod.mk.injEq] at htwo
    obtain ⟨hpixels, hbytes, hmax, hsizes⟩ := htwo
    have hframes : ∀ e ∈ opened.index.entries, ∀ bytes ∈ opened.layout.frameBytes?,
        bytes ≤ e.size.toNat := by
      intro e he bytes hmem
      have hsize := List.mem_map_of_mem (f := (·.size.toNat)) he
      have height : e.size.toNat = 8 := by simpa [hsizes] using hsize
      rw [hbytes] at hmem
      cases hmem
      exact Nat.le_of_eq height.symm
    obtain ⟨_, renderer, _, _, hcreate, _⟩ :=
      Clip.exists_samePlace hopen (by rw [hmax]; exact Nat.succ_pos 7)
    have hstart : before.start (fun _ => .ok opened) TextureRenderer.create "clip" = _ :=
      start_of_ok rfl rfl rfl hcreate
    obtain ⟨images, himages, hrun⟩ := pictures_in_order hopen hpixels hframes ScriptedSink.calm
      ⟨_, _, trivial, .refl⟩ rfl rfl rfl hstart
    have hlength : images.length = 2 := by
      have hcount := congrArg List.length hsizes
      rw [List.length_map] at hcount
      rw [← Clip.frameCount_eq_length himages]
      exact hcount
    refine ⟨opened, _, images, rfl, hpixels, hframes, hstart, himages, hlength, fun q hgoes => ?_⟩
    obtain ⟨⟨k, hk, hpictures⟩, _⟩ := hrun q hgoes
    exact ⟨k, hlength ▸ hk, hpictures⟩

end AviPlayback
