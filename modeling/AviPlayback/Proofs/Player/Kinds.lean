import AviPlayback.Proofs.Player.LoopState
import AviPlayback.Proofs.Player.Meanwhile

/-!
Decoders, renderers and surfaces of some kinds that never panic. They stay of their kinds through
the steps of the workers and through what happens beside a session, and so no worker panics in a
session either (`BitmapPlayer.Aside.unharmed`, `TexturePlayer.Aside.unharmed`).
-/
set_option autoImplicit false

namespace AviPlayback

namespace Stage

variable {D S : Type} [FrameReader D S] [FrameSink S] {s t : Stage D S} {decoders : D → Prop}
  {sinks : S → Prop} {b c : Blit} {panicked : Bool}

theorem Among.refreshed (h : s.Among decoders sinks) (hreliable : Reliable decoders sinks)
    (hrefresh : b.refresh s = (panicked, c, t)) : panicked = false ∧ t.Among decoders sinks := by
  cases hd : s.decoder? b.lease with
  | none =>
    rw [Blit.refresh, hd] at hrefresh
    cases hrefresh
    exact ⟨rfl, h⟩
  | some d =>
    obtain ⟨hcalm, hnext⟩ :=
      hreliable.renderFrame b.blitter h.sink (h.decoder b.lease d hd) b.picture
    rw [Blit.refresh_of_decoder hd] at hrefresh
    cases hrefresh
    exact ⟨hcalm, h.putDecoder b.lease hnext⟩

omit [FrameReader D S] in
theorem Among.present (h : s.Among decoders sinks) (hcalm : FrameSink.Calm sinks)
    (picture : PixelBuffer) :
    (s.present picture).1 ≠ .panicked ∧ (s.present picture).2.Among decoders sinks := by
  obtain ⟨hshown, hsink⟩ := hcalm s.sink picture h.sink
  exact ⟨hshown, (h.setSink hsink).record _⟩

end Stage

namespace BitmapPlayer

variable {D S : Type} {p q : BitmapPlayer D S} {decoders : D → Prop} {sinks : S → Prop}

variable [VideoDecoder D] [FrameReader D S] [FrameSink S]

theorem Ticked.among (h : Ticked p q) (hreliable : Reliable decoders sinks)
    (hp : p.stage.Among decoders sinks) : q.stage.Among decoders sinks := by
  cases h with
  | begin | check | resume => exact hp
  | unfit => exact among_endLoop hp _
  | starved | stop => exact hp.release _
  | rest _ hrefresh => exact ((hp.refreshed hreliable hrefresh).2.present hreliable.present _).2
  | limit _ hrefresh =>
    exact among_endLoop ((hp.refreshed hreliable hrefresh).2.present hreliable.present _).2 _
  | broken _ hrefresh =>
    exact ((hp.refreshed hreliable hrefresh).2.present hreliable.present _).2.release _
  | unread _ hrefresh => exact (hp.refreshed hreliable hrefresh).2.release _

omit [VideoDecoder D] in
theorem Aside.among (h : Aside decoders p q) (hreliable : Reliable decoders sinks)
    (hp : p.stage.Among decoders sinks) : q.stage.Among decoders sinks := by
  cases h with
  | start source path hsource =>
    rcases start_cases p source path with ⟨r, hstart⟩ | ⟨_, ⟨r, hstart⟩ | ⟨d, hd, hstart⟩⟩
    all_goals rw [hstart]
    · exact hp
    · exact hp.record _
    · exact hp.takeIn (hsource path d hd)
  | changed width height => exact (hp.setSink (hreliable.resize _ width height hp.sink)).record _
  | alter f hf => exact hp.mapDecoders hf
  | leave =>
    cases hsurface : p.surface with
    | false => rwa [Session.leaveSurface, hsurface]
    | true =>
      rw [Session.leaveSurface_eq_lost hsurface]
      exact hp.moveTo _
  | join _ hquiet =>
    rw [Session.joinWorker_snd hquiet]
    exact hp
  | close =>
    rw [Session.closeAndReset_eq]
    exact hp.close.moveTo _

omit [VideoDecoder D] in
/-- An aside is no panic of the worker. -/
theorem Aside.unharmed (h : Aside decoders p q) (hreliable : Reliable decoders sinks)
    (hp : Unharmed decoders sinks p) : Unharmed decoders sinks q := by
  refine ⟨h.among hreliable hp.stage, fun hpanicked => ?_⟩
  rcases h.spared.worker with hsame | hcancel | hnone
  · exact hp.worker (hsame.symm.trans hpanicked)
  · exact hp.worker (Task.panicked_of_map_cancel (hcancel.symm.trans hpanicked))
  · rw [hnone] at hpanicked
    cases hpanicked

theorem Reached.among (h : Reached decoders sinks p) (hreliable : Reliable decoders sinks) :
    p.stage.Among decoders sinks := by
  obtain ⟨sink, options, hsink, hrun⟩ := h
  induction hrun with
  | refl => exact .empty hsink
  | @tail q r hrun hmove ih =>
    obtain ⟨hsound, hphase⟩ := Reached.phase ⟨sink, options, hsink, hrun⟩
    by_cases hbegins : q.Accepts ∧ r = q.created.2
    · obtain ⟨haccepts, rfl⟩ := hbegins
      obtain ⟨handle, pacer, _, _, hcreated⟩ := created_of_accepts hsound hphase haccepts
      rw [hcreated]
      exact ((ih.moveTo _).share _).moveTo _
    · rcases Meanwhile.cases hsound ⟨hmove, hbegins⟩ with hstep | ⟨t, rfl⟩ | hbeside
      · exact (ticked_of_step? hstep).among hreliable ih
      · exact ih.congr rfl rfl
      · exact beside_keeps (P := fun q : BitmapPlayer D S => q.stage.Among decoders sinks)
          (fun hq hstep => (ticked_of_step? hstep).among hreliable hq)
          (fun hq haside => haside.among hreliable hq) hbeside ih

end BitmapPlayer

namespace TexturePlayer

variable {D S R : Type} [VideoDecoder D] [FrameRenderer R D S] {p q : TexturePlayer D S R}
  {decoders : D → Prop} {renderers : R → Prop} {sinks : S → Prop}

/-- An aside is no panic of the drawing worker. -/
theorem Aside.unharmed (h : Aside decoders renderers p q)
    (hreliable : ReliableRenderers renderers decoders sinks)
    (hp : Unharmed decoders renderers sinks p) : Unharmed decoders renderers sinks q := by
  cases h with
  | turn turn => exact { hp with }
  | start hsound source create path hsource hcreate =>
    exact hp.start hsound source create path hsource hcreate
  | drop => exact hp.dropRenderer
  | @prepare rig hrenderer =>
    refine ⟨hp.stage, fun rig' hrig => ?_, hp.rig, hp.drawing⟩
    cases hrig
    exact hreliable.initSurface _ (hp.renderer rig hrenderer)
  | alter f hf => exact ⟨hp.stage.mapDecoders hf, hp.renderer, hp.rig, hp.drawing⟩
  | leave => exact hp.leaveSurface
  | join hsurface hquiet =>
    rw [Session.joinWorker_snd (Bool.and_eq_true_iff.mp hquiet).1]
    exact Unharmed.joinDrawing ⟨hp.stage, hp.renderer, hp.rig, hp.drawing⟩
  | free => exact hp.freeRenderer
  | close => exact hp.close

end TexturePlayer

end AviPlayback
