import AviPlayback.Proofs.Playback.Contents
import AviPlayback.Proofs.Player.Phases
import AviPlayback.Proofs.Player.SamePictures
import AviPlayback.Proofs.Player.Releases

/-!
The published state and the loops behind it. When nothing can go on, the state is `rendering` while
the loop of the surface is alive, or after one of its workers has panicked, and in no other state is
a worker left. Decoders, renderers and surfaces that never panic leave one panic: that of a buffer
which no memory can hold (`Player.rendering_iff_alive`).
-/
set_option autoImplicit false

namespace AviPlayback

/-! ### Panics -/

/-- Decoders and surfaces of some kinds that never panic, and never claim a larger frame than they
were asked for. -/
structure Reliable {D S : Type} [FrameReader D S] [FrameSink S] (decoders : D → Prop)
    (sinks : S → Prop) : Prop where
  fetch : ∀ sink d capacity, sinks sink → decoders d →
    (FrameReader.fetch sink d capacity).1 ≠ .panicked ∧
      decoders (FrameReader.fetch sink d capacity).2
  size_le : ∀ sink d capacity payload, sinks sink → decoders d →
    (FrameReader.fetch sink d capacity).1 = .frame payload → payload.size ≤ capacity
  present : FrameSink.Calm sinks
  resize : ∀ sink width height, sinks sink → sinks (FrameSink.resize sink width height).2

/-- Renderers of some kind that never panic, for decoders and surfaces of some kinds. -/
structure ReliableRenderers {D S R : Type} [FrameRenderer R D S] (renderers : R → Prop)
    (decoders : D → Prop) (sinks : S → Prop) : Prop where
  initSurface : ∀ r, renderers r → renderers (FrameRenderer.initSurface D S r).2
  draw : ∀ r d sink, renderers r → decoders d → sinks sink →
    let drawing : Drawing R D S := FrameRenderer.draw r d sink
    drawing.outcome ≠ .panicked ∧ renderers drawing.renderer ∧ decoders drawing.decoder ∧
      sinks drawing.sink

/-- The buffers for a stream can be had, or its pictures are refused as too large. -/
structure StreamInfo.HasBuffers (info : StreamInfo) : Prop where
  picture : PixelBuffer.tryNew info.width info.height ≠ .error .unallocatable
  scratch : ∀ picture, PixelBuffer.tryNew info.width info.height = .ok picture →
    ∃ blitter, Blitter.ofInfo info = .ok blitter

section

variable {D S : Type} [FrameReader D S] [FrameSink S] {decoders : D → Prop} {sinks : S → Prop}

theorem Reliable.renderFrame (h : Reliable decoders sinks) (b : Blitter) {sink : S} {d : D}
    (hsink : sinks sink) (hd : decoders d) (picture : PixelBuffer) :
    (b.renderFrame sink d picture).panicked = false ∧
      decoders (b.renderFrame sink d picture).decoder := by
  obtain ⟨hcalm, hnext⟩ := h.fetch sink d b.scratch.size hsink hd
  rw [Blitter.renderFrame]
  rcases hfetch : FrameReader.fetch sink d b.scratch.size with ⟨_ | payload | _, e⟩
  all_goals rw [hfetch] at hcalm hnext
  · exact ⟨rfl, hnext⟩
  · have hfits := h.size_le sink d b.scratch.size payload hsink hd (by rw [hfetch])
    dsimp only
    rw [if_neg (Nat.not_lt.mpr hfits), Blitter.blitPayload]
    dsimp only
    split <;> exact ⟨rfl, hnext⟩
  · exact absurd rfl hcalm

/-- The renderers that draw through a texture are as reliable as what they draw from and on. -/
theorem Reliable.textureRenderers (h : Reliable decoders sinks) :
    ReliableRenderers (fun _ : TextureRenderer => True) decoders sinks := by
  refine ⟨fun _ _ => trivial, fun r d sink _ hd hsink => ?_⟩
  obtain ⟨hcalm, hnext⟩ := h.fetch sink d r.buffer.size hsink hd
  have hdraw : (FrameRenderer.draw r d sink : Drawing TextureRenderer D S) = r.draw d sink := rfl
  rw [hdraw, TextureRenderer.draw]
  rcases hfetch : FrameReader.fetch sink d r.buffer.size with ⟨_ | payload | _, e⟩
  all_goals rw [hfetch] at hcalm hnext
  · exact ⟨by rintro ⟨⟩, trivial, hnext, hsink⟩
  · have hfits := h.size_le sink d r.buffer.size payload hsink hd (by rw [hfetch])
    dsimp only [TextureRenderer.drawPayload]
    split
    · exact ⟨by rintro ⟨⟩, trivial, hnext, hsink⟩
    · rw [if_neg (Nat.not_lt.mpr hfits)]
      split
      · exact ⟨by rintro ⟨⟩, trivial, hnext, hsink⟩
      · rw [TextureRenderer.drawTexture]
        split
        · exact ⟨by rintro ⟨⟩, trivial, hnext, hsink⟩
        · next target _ =>
          obtain ⟨hshown, hsink'⟩ := h.present sink target hsink
          refine ⟨?_, trivial, hnext, hsink'⟩
          dsimp only
          rw [if_neg hshown]
          rintro ⟨⟩
  · exact absurd rfl hcalm

end

/-- Fetching from a script gives a frame that was asked for, or none. -/
theorem ScriptedDecoder.fetch_cases {W : Type} (w : W) (d : ScriptedDecoder) (capacity : Nat) :
    ∃ e, e.info = d.info ∧ (FrameReader.fetch w d capacity = (.nothing, e) ∨
      ∃ payload, payload.size ≤ capacity ∧
        FrameReader.fetch w d capacity = (.frame payload, e)) := by
  have hread : FrameReader.read w d capacity = d.read capacity := rfl
  refine ⟨d.next.2, rfl, ?_⟩
  rw [FrameReader.fetch, hread, read]
  rcases d.next with ⟨payload | _ | text, e⟩
  · by_cases hsize : capacity < payload.size
    · exact .inl (by simp [hsize, PlayerFault.ofText, PlayerFault.isPanic])
    · by_cases hempty : payload.isEmpty
      · exact .inl (by simp [hsize, hempty])
      · exact .inr ⟨payload, Nat.le_of_not_lt hsize, by simp [hsize, hempty]⟩
  · exact .inl rfl
  · exact .inl rfl

/-- Scripted decoders never panic, and neither do scripted surfaces that are not told to. -/
theorem reliable_scripted (info : StreamInfo) :
    Reliable (fun d : ScriptedDecoder => d.info = info)
      (fun sink : ScriptedSink => sink.panicking = []) where
  fetch := fun sink d capacity _ hd => by
    obtain ⟨e, he, hfetch | ⟨payload, _, hfetch⟩⟩ := d.fetch_cases sink capacity
    all_goals
      rw [hfetch]
      exact ⟨nofun, he.trans hd⟩
  size_le := fun sink d capacity payload _ _ hframe => by
    obtain ⟨e, _, hfetch | ⟨payload', hsize, hfetch⟩⟩ := d.fetch_cases sink capacity
    all_goals
      rw [hfetch] at hframe
      cases hframe
    exact hsize
  present := ScriptedSink.calm
  resize := fun _ _ _ h => h

namespace BitmapPlayer

variable {D S : Type} {p q : BitmapPlayer D S} {decoders : D → Prop} {sinks : S → Prop}

/-- A player whose worker has not panicked, with decoders and a surface of some kinds. -/
structure Unharmed (decoders : D → Prop) (sinks : S → Prop) (p : BitmapPlayer D S) : Prop where
  stage : p.stage.Among decoders sinks
  worker : p.worker ≠ some .panicked

theorem among_endLoop (h : p.stage.Among decoders sinks) (lease : Nat) :
    (endLoop p lease).stage.Among decoders sinks := by
  rw [endLoop, Session.tryTransition_streamEnded]
  exact (h.moveTo _).release _

theorem Unharmed.endLoop (h : p.stage.Among decoders sinks) (lease : Nat) :
    Unharmed decoders sinks (endLoop p lease) := ⟨among_endLoop h lease, nofun⟩

section

variable [VideoDecoder D] [FrameReader D S] [FrameSink S]

section

variable (hreliable : Reliable decoders sinks)
  (hbuffers : ∀ d, decoders d → (VideoDecoder.info d).HasBuffers)

omit [FrameReader D S] [FrameSink S] in
include hbuffers in
theorem Unharmed.startLoop (h : Unharmed decoders sinks p) (lease : Nat) (pacer : Pacer)
    (told : Bool) : Unharmed decoders sinks (startLoop p lease pacer told) := by
  rw [BitmapPlayer.startLoop]
  split
  · exact .endLoop h.stage lease
  · next info hinfo =>
    obtain ⟨d, hd, rfl⟩ := Option.map_eq_some_iff.mp hinfo
    obtain ⟨hpicture, hscratch⟩ := hbuffers d (h.stage.decoder lease d hd)
    split
    · next hfault => exact absurd hfault hpicture
    · exact .endLoop h.stage lease
    · next hok hfault =>
      obtain ⟨blitter, hblitter⟩ := hscratch _ hok
      rw [hblitter] at hfault
      cases hfault
    · exact ⟨h.stage, by rintro ⟨⟩⟩

include hreliable in
omit [VideoDecoder D] in
theorem Unharmed.tick (h : Unharmed decoders sinks p) (b : Blit) (told : Bool) :
    Unharmed decoders sinks (tick p b told) := by
  obtain ⟨c, stage, hrefresh, hstage⟩ : ∃ c stage, b.refresh p.stage = (false, c, stage) ∧
      stage.Among decoders sinks := by
    rw [Blit.refresh]
    split
    · exact ⟨_, _, rfl, h.stage⟩
    · next d hd =>
      obtain ⟨hcalm, hnext⟩ :=
        hreliable.renderFrame b.blitter h.stage.sink (h.stage.decoder _ d hd) b.picture
      dsimp only
      rw [hcalm]
      exact ⟨_, _, rfl, h.stage.putDecoder _ hnext⟩
  obtain ⟨hshown, hsink⟩ := hreliable.present stage.sink c.picture hstage.sink
  have hpresented : (stage.present c.picture).2.Among decoders sinks :=
    (hstage.setSink hsink).record _
  rw [BitmapPlayer.tick, hrefresh]
  dsimp only
  rw [if_neg Bool.false_ne_true, showPicture]
  dsimp only
  rw [if_neg (by exact hshown)]
  split
  · exact .endLoop hpresented _
  · exact ⟨hpresented, by rintro ⟨⟩⟩

include hreliable hbuffers

theorem Unharmed.step? (h : Unharmed decoders sinks p) (hstep : step? p = some q) :
    Unharmed decoders sinks q := by
  rw [BitmapPlayer.step?] at hstep
  split at hstep
  · next loop told _ =>
    cases loop with
    | spawned lease pacer =>
      cases hstep
      exact h.startLoop hbuffers lease pacer told
    | checking b =>
      cases hstep
      split
      · exact ⟨h.stage.release _, by rintro ⟨⟩⟩
      · exact ⟨h.stage, by rintro ⟨⟩⟩
    | drawing b =>
      cases hstep
      exact h.tick hreliable b told
    | pausing b due =>
      dsimp only at hstep
      split at hstep
      · cases hstep
        exact ⟨h.stage.release _, by rintro ⟨⟩⟩
      · split at hstep
        · cases hstep
          exact ⟨h.stage, by rintro ⟨⟩⟩
        · cases hstep
  · cases hstep

theorem Unharmed.endSurface (h : Unharmed decoders sinks p) (hp : Sound p) :
    Unharmed decoders sinks p.endSurface.2 := by
  cases hsurface : p.surface with
  | false =>
    have hend : p.endSurface.2 = p := by simp [Session.endSurface, hsurface]
    rwa [hend]
  | true =>
    have hleft : Unharmed decoders sinks p.leaveSurface := by
      rw [Session.leaveSurface_eq_lost hsurface]
      exact ⟨h.stage.moveTo _, fun hpanicked => h.worker (Task.panicked_of_map_cancel hpanicked)⟩
    have hsettled : Unharmed decoders sinks (Clocked.settle p.leaveSurface) :=
      Clocked.settle_keeps (fun hq hstep => hq.step? hreliable hbuffers hstep) hleft
    obtain ⟨_, hquiet⟩ := (left_leaveSurface hp hsurface).settle
    rw [endSurface_of_surface hp hsurface, Session.joinWorker_snd hquiet]
    exact ⟨hsettled.stage, by rintro ⟨⟩⟩

theorem Unharmed.happens (h : Unharmed decoders sinks p) (hp : Sound p)
    (hmove : Happens decoders p q) : Unharmed decoders sinks q := by
  cases hmove with
  | start source path hsource =>
    rcases start_cases p source path with ⟨r, hstart⟩ | ⟨_, ⟨r, hstart⟩ | ⟨d, hd, hstart⟩⟩
    all_goals rw [hstart]
    · exact h
    · exact ⟨h.stage.record _, h.worker⟩
    · exact ⟨h.stage.takeIn (hsource path d hd), h.worker⟩
  | created =>
    rcases created_cases (not_any_isRunning hp) with ⟨r, hcreated⟩ | ⟨handle, pacer, _, _, hcreated⟩
    all_goals rw [hcreated]
    · exact h
    · exact ⟨((h.stage.moveTo _).share _).moveTo _, nofun⟩
  | changed width height =>
    exact ⟨(h.stage.setSink (hreliable.resize _ width height h.stage.sink)).record _, h.worker⟩
  | destroyed => exact h.endSurface hreliable hbuffers hp
  | stop =>
    have hended := h.endSurface hreliable hbuffers hp
    have hstop : p.stop.2 = p.endSurface.2.closeAndReset := rfl
    rw [hstop]
    refine ⟨?_, by rw [Session.worker_closeAndReset]; exact hended.worker⟩
    rw [Session.closeAndReset_eq]
    exact hended.stage.close.moveTo _
  | work hstep =>
    cases hstep with
    | step hstep => exact h.step? hreliable hbuffers hstep
    | pass t => exact ⟨h.stage.congr rfl rfl, h.worker⟩
  | alter f hf => exact ⟨h.stage.mapDecoders hf, h.worker⟩

theorem Reached.unharmed (h : Reached decoders sinks p) : Unharmed decoders sinks p := by
  obtain ⟨sink, options, hsink, hrun⟩ := h
  induction hrun with
  | refl => exact ⟨.empty hsink, nofun⟩
  | tail hrun hmove ih =>
    exact ih.happens hreliable hbuffers (Reached.phase ⟨sink, options, hsink, hrun⟩).1 hmove

end

end

/-- The worker of a surface is in its loop, or has panicked, while frames are being produced, and
at no other time. -/
theorem Phase.rendering_iff (h : Phase p) (hp : Sound p) : p.state = .rendering ↔
    p.worker.any Task.isRunning ∨ p.worker = some .panicked := by
  cases h with
  | away hsurface hstate =>
    have hstill : p.state ≠ .rendering := fun heq => by
      rw [heq] at hstate
      cases hstate
    simp [hstill, hp.worker_of_no_surface hsurface]
  | playing _ hstate hworker => simp [hstate, hworker, Task.isRunning]
  | ended _ hstate hworker => simp [hstate, hworker, Task.isRunning]
  | panicked _ hstate hworker => simp [hstate, hworker]

end BitmapPlayer

namespace Stage

variable {D S R : Type} [FrameRenderer R D S] {s : Stage D S} {decoders : D → Prop}
  {renderers : R → Prop} {sinks : S → Prop}

theorem Among.draw (h : s.Among decoders sinks)
    (hreliable : ReliableRenderers renderers decoders sinks) (lease : Nat) {r : R}
    (hr : renderers r) : (s.draw lease r).1 ≠ .panicked ∧ renderers (s.draw lease r).2.1 ∧
      (s.draw lease r).2.2.Among decoders sinks := by
  rw [Stage.draw]
  split
  · exact ⟨by rintro ⟨⟩, hr, h⟩
  · next d hd =>
    obtain ⟨hcalm, hnext, hdecoder, hsink⟩ :=
      hreliable.draw r d s.sink hr (h.decoder lease d hd) h.sink
    refine ⟨hcalm, hnext, ?_⟩
    dsimp only
    rw [foldl_presented]
    exact ((h.putDecoder lease hdecoder).setSink hsink).congr rfl rfl

end Stage

namespace TexturePlayer

variable {D S R : Type} {p q : TexturePlayer D S R} {decoders : D → Prop} {renderers : R → Prop}
  {sinks : S → Prop}

/-- A player whose drawing worker has not panicked, with decoders, renderers and a surface of some
kinds. -/
structure Unharmed (decoders : D → Prop) (renderers : R → Prop) (sinks : S → Prop)
    (p : TexturePlayer D S R) : Prop where
  stage : p.stage.Among decoders sinks
  renderer : ∀ rig ∈ p.renderer, renderers rig.renderer
  rig : ∀ rig ∈ DrawLoop.rigOf p.drawing, renderers rig.renderer
  drawing : p.drawing ≠ some .panicked

namespace Unharmed

theorem paced (h : Unharmed decoders renderers sinks p) (hstep : Paced p q) :
    Unharmed decoders renderers sinks q := by
  have hrig := hstep.rigOf_eq
  have hsame : ∀ rig ∈ DrawLoop.rigOf q.drawing, renderers rig.renderer := by
    rw [hrig]
    exact h.rig
  cases hstep with
  | ask => exact ⟨h.stage.record _, h.renderer, hsame, nofun⟩
  | limit => exact ⟨h.stage.moveTo _, h.renderer, hsame, h.drawing⟩
  | stop | check | refused | rest | resume => exact ⟨h.stage, h.renderer, hsame, h.drawing⟩

theorem dropRenderer (h : Unharmed decoders renderers sinks p) :
    Unharmed decoders renderers sinks p.dropRenderer := by
  rw [TexturePlayer.dropRenderer]
  split
  · exact ⟨h.stage.release _, by rintro _ ⟨⟩, h.rig, h.drawing⟩
  · exact h

theorem joinDrawing (h : Unharmed decoders renderers sinks p) :
    Unharmed decoders renderers sinks p.joinDrawing := by
  rw [TexturePlayer.joinDrawing]
  split
  · next rig hdrawing =>
    have hrig := h.rig
    rw [hdrawing] at hrig
    refine ⟨h.stage, fun rig' hrig' => ?_, by rintro _ ⟨⟩, by rintro ⟨⟩⟩
    cases hrig'
    exact hrig rig rfl
  · next hdrawing => exact absurd hdrawing h.drawing
  · exact h

theorem leaveSurface (h : Unharmed decoders renderers sinks p) :
    Unharmed decoders renderers sinks p.leaveSurface := by
  rw [TexturePlayer.leaveSurface]
  split
  · next hsurface =>
    rw [Session.leaveSurface_eq_lost hsurface]
    refine ⟨h.stage.moveTo _, h.renderer, ?_,
      fun hpanicked => h.drawing (Task.panicked_of_map_cancel hpanicked)⟩
    rw [DrawLoop.rigOf_map_cancel]
    exact h.rig
  · exact h

theorem freeRenderer (h : Unharmed decoders renderers sinks p) :
    Unharmed decoders renderers sinks p.freeRenderer := by
  rw [TexturePlayer.freeRenderer]
  split
  · exact ⟨(h.stage.record _).release _, by rintro _ ⟨⟩, h.rig, h.drawing⟩
  · exact h

theorem close (h : Unharmed decoders renderers sinks p) :
    Unharmed decoders renderers sinks { p with session := p.session.closeAndReset } := by
  rw [Session.closeAndReset_eq]
  exact ⟨h.stage.close.moveTo _, h.renderer, h.rig, h.drawing⟩

theorem start [VideoDecoder D] (h : Unharmed decoders renderers sinks p) (hp : Sound p)
    (source : String → Except PlayerFault D) (create : StreamInfo → Except PlayerFault R)
    (path : String) (hsource : ∀ path d, source path = .ok d → decoders d)
    (hcreate : ∀ info renderer, create info = .ok renderer → renderers renderer) :
    Unharmed decoders renderers sinks (p.start source create path).2 := by
  rcases start_cases hp source create path with ⟨r, hstart⟩ | ⟨_, ⟨r, hstart⟩ |
    ⟨d, renderer, hd, hrenderer, hstart⟩ | ⟨r, d, hd, hstart⟩ | ⟨r, d, hd, hstart⟩⟩
  all_goals rw [hstart]
  · exact h
  · exact ⟨h.stage.record _, h.renderer, h.rig, h.drawing⟩
  all_goals have htaken := h.stage.takeIn (hsource path d hd)
  · refine ⟨(htaken.share _).record _, fun rig hrig => ?_, h.rig, h.drawing⟩
    cases hrig
    exact hcreate _ renderer hrenderer
  · exact ⟨htaken, h.renderer, h.rig, h.drawing⟩
  · exact ⟨Stage.Among.close (t := p.opened d path) htaken, h.renderer, h.rig, h.drawing⟩

variable [FrameRenderer R D S] (hreliable : ReliableRenderers renderers decoders sinks)

include hreliable

theorem drew (h : Unharmed decoders renderers sinks p) (hstep : Drew p q) :
    Unharmed decoders renderers sinks q := by
  obtain ⟨loop, told, hrunning⟩ := hstep.exists_running
  have hrig := h.rig
  rw [hrunning] at hrig
  have hown : renderers loop.rig.renderer := hrig loop.rig rfl
  -- what a draw leaves is of the same kinds, with an outcome that is no panic
  have hdrawn : ∀ seq, _ := fun seq =>
    (h.stage.record (.drawn seq)).draw hreliable loop.rig.lease hown
  cases hstep with
  | stop hdrawing | take hdrawing | drained hdrawing =>
    rw [hrunning] at hdrawing
    cases hdrawing
    refine ⟨h.stage, h.renderer, fun rig hmem => ?_, by rintro ⟨⟩⟩
    cases hmem
    exact hown
  | finish hdrawing =>
    rw [hrunning] at hdrawing
    cases hdrawing
    refine ⟨h.stage, h.renderer, fun rig hmem => ?_, by rintro ⟨⟩⟩
    cases hmem
    exact hown
  | more hdrawing hdraw =>
    rw [hrunning] at hdrawing
    cases hdrawing
    obtain ⟨_, hnext, hstage⟩ := hdrawn _
    rw [DrawLoop.rig, hdraw] at hnext hstage
    refine ⟨hstage, h.renderer, fun rig hmem => ?_, by rintro ⟨⟩⟩
    cases hmem
    exact hnext
  | ended hdrawing hdraw =>
    rw [hrunning] at hdrawing
    cases hdrawing
    obtain ⟨_, hnext, hstage⟩ := hdrawn _
    rw [DrawLoop.rig, hdraw] at hnext hstage
    refine ⟨hstage.moveTo (t := (p.setStage _).session) _, h.renderer, fun rig hmem => ?_,
      by rintro ⟨⟩⟩
    cases hmem
    exact hnext
  | panicked hdrawing hdraw =>
    rw [hrunning] at hdrawing
    cases hdrawing
    obtain ⟨hcalm, _⟩ := hdrawn _
    rw [DrawLoop.rig, hdraw] at hcalm
    exact absurd rfl hcalm

theorem works (h : Unharmed decoders renderers sinks p) (hstep : Works p q) :
    Unharmed decoders renderers sinks q := by
  cases hstep with
  | step hstep =>
    rcases hstep with hpace | hdraw
    · exact h.paced (paced_of_paceStep? hpace)
    · exact h.drew hreliable (drew_of_drawStep? hdraw)
  | turn turn => exact { h with }
  | pass t => exact ⟨h.stage.congr rfl rfl, h.renderer, h.rig, h.drawing⟩

theorem settle (h : Unharmed decoders renderers sinks p) :
    Unharmed decoders renderers sinks (Clocked.settle p) := by
  have hkeeps : ∀ {r : TexturePlayer D S R}, Relation.ReflTransGen Works p r →
      Unharmed decoders renderers sinks r := fun hworks => by
    induction hworks with
    | refl => exact h
    | tail _ hstep ih => exact ih.works hreliable hstep
  exact hkeeps (works_settle p)

theorem destroyed (h : Unharmed decoders renderers sinks p) (hp : Sound p) :
    Unharmed decoders renderers sinks p.destroyed.2 := by
  cases hsurface : p.session.surface with
  | false => rwa [destroyed_of_no_surface hp hsurface]
  | true =>
    have hsettled := h.leaveSurface.settle hreliable
    obtain ⟨_, hquiet⟩ := (left_leaveSurface hp hsurface).settle
    rw [destroyed_of_surface hp hsurface,
      Session.joinWorker_snd (Bool.and_eq_true_iff.mp hquiet).1]
    exact joinDrawing ⟨hsettled.stage, hsettled.renderer, hsettled.rig, hsettled.drawing⟩

variable [VideoDecoder D]

theorem happens (h : Unharmed decoders renderers sinks p) (hp : Sound p)
    (hmove : Happens decoders renderers p q) : Unharmed decoders renderers sinks q := by
  cases hmove with
  | start source create path hsource hcreate => exact h.start hp source create path hsource hcreate
  | created =>
    rcases created_cases (not_any_isRunning hp) with
      ⟨r, hcreated⟩ | ⟨rig, hrenderer, ⟨_, r, hcreated⟩ |
      ⟨r, hcreated⟩ | ⟨pacer, hcreated⟩⟩
    all_goals rw [hcreated]
    · exact h
    · exact h.dropRenderer
    all_goals have hready := hreliable.initSurface _ (h.renderer rig hrenderer)
    · refine ⟨h.stage, fun rig' hrig => ?_, h.rig, h.drawing⟩
      cases hrig
      exact hready
    · refine ⟨?_, by rintro _ ⟨⟩, fun rig' hrig => ?_, by rintro ⟨⟩⟩
      · exact Stage.Among.moveTo (t := { p.session.moveTo .surfaceReady with surface := true })
          (h.stage.moveTo _) _
      · cases hrig
        exact hready
  | changed => exact h
  | destroyed => exact h.destroyed hreliable hp
  | stop =>
    rw [stop_snd]
    exact (h.destroyed hreliable hp).freeRenderer.close
  | work hstep => exact h.works hreliable hstep
  | alter f hf => exact ⟨h.stage.mapDecoders hf, h.renderer, h.rig, h.drawing⟩

end Unharmed

section

variable [FrameRenderer R D S]

theorem Reached.unharmed [VideoDecoder D] (h : Reached decoders renderers sinks p)
    (hreliable : ReliableRenderers renderers decoders sinks) :
    Unharmed decoders renderers sinks p := by
  obtain ⟨sink, options, hsink, hrun⟩ := h
  induction hrun with
  | refl => exact ⟨.empty hsink, nofun, nofun, nofun⟩
  | tail hrun hmove ih =>
    exact ih.happens hreliable (Reached.phase ⟨sink, options, hsink, hrun⟩).1 hmove

/-- A drawing worker that cannot go on waits for requests of a pacing worker. -/
theorem waiting_of_drawStep?_eq_none {loop : DrawLoop R} {told : Bool}
    (hdrawing : p.drawing = some (.running loop told)) (h : p.drawStep? = none) :
    loop.isEnding = false ∧ p.pacing := by
  rw [drawStep?, hdrawing] at h
  cases loop with
  | waiting rig queue =>
    cases told with
    | true => cases h
    | false =>
      cases queue with
      | cons seq queue => cases h
      | nil =>
        refine ⟨rfl, ?_⟩
        dsimp only at h
        rw [if_neg Bool.false_ne_true] at h
        split at h
        · next hpacing => exact hpacing
        · cases h
  | drawing rig seq queue => cases h
  | ending rig => cases h

omit [FrameRenderer R D S] in
/-- A pacing worker that was told to stop can go on. -/
theorem paceStep?_of_told {loop : PaceLoop}
    (hworker : p.session.worker = some (.running loop true)) : p.paceStep? ≠ none := by
  rw [paceStep?, hworker]
  cases loop <;> simp

/-- When nothing can go on, both workers of a surface are in their loops, or the drawing worker has
panicked, or no worker is left and no frames are being produced. -/
theorem Phase.settled (h : Phase p) (hp : Sound p) (hstep : Clocked.step? p = none) :
    p.session.state = .rendering ∧ p.session.worker.any Task.isRunning ∧
        p.drawing.any Task.isRunning ∨
      p.drawing = some .panicked ∨ p.session.state ≠ .rendering ∧ p.isWorking = false := by
  obtain ⟨hpace, hdraw⟩ := stepless_of_step?_eq_none hstep
  cases h with
  | away hsurface hstate =>
    refine .inr (.inr ⟨fun heq => ?_, ?_⟩)
    · rw [heq] at hstate
      cases hstate
    · simp [isWorking, hp.worker_of_no_surface hsurface, drawing_of_no_surface hp hsurface]
  | playing _ hstate hworker hdrawing =>
    refine .inl ⟨hstate, ?_, ?_⟩
    · rw [hworker]
      rfl
    · rw [hdrawing]
      rfl
  | draining _ _ hworker hdrawing =>
    obtain ⟨_, hpacing⟩ := waiting_of_drawStep?_eq_none hdrawing hdraw
    rw [pacing, hworker] at hpacing
    cases hpacing
  | ending _ _ _ hdrawing =>
    obtain ⟨hending, _⟩ := waiting_of_drawStep?_eq_none hdrawing hdraw
    cases hending
  | ended _ hstate hworker hdrawing =>
    refine .inr (.inr ⟨by simp [hstate], ?_⟩)
    generalize hw : p.session.worker = worker at hworker
    cases hworker with
    | running loop => exact absurd hpace (paceStep?_of_told hw)
    | finished event =>
      rw [isWorking, hw, hdrawing]
      rfl
  | panicked _ _ _ hdrawing => exact .inr (.inl hdrawing)

end

end TexturePlayer

namespace Player

variable {D S R : Type} [VideoDecoder D] [FrameReader D S] [FrameSink S] [FrameRenderer R D S]
  {decoders : D → Prop} {renderers : R → Prop} {sinks : S → Prop}

/-- At every moment at which nothing can go on, frames are being produced exactly when the loop of
the surface is alive: the one worker of a player in software, both workers of a player that draws
through renderers. In every other state no worker is left. Decoders, renderers and surfaces never
panic here, and the buffers of a stream can be had unless it is refused as too large. -/
theorem rendering_iff_alive (hreliable : Reliable decoders sinks)
    (hrenderers : ReliableRenderers renderers decoders sinks)
    (hbuffers : ∀ d, decoders d → (VideoDecoder.info d).HasBuffers) :
    (∀ p : BitmapPlayer D S, BitmapPlayer.Reached decoders sinks p → Clocked.step? p = none →
      (p.state = .rendering ↔ p.worker.any Task.isRunning)) ∧
    ∀ p : TexturePlayer D S R, TexturePlayer.Reached decoders renderers sinks p →
      Clocked.step? p = none →
        (p.session.state = .rendering ↔
          p.session.worker.any Task.isRunning ∧ p.drawing.any Task.isRunning) ∧
        (p.session.state ≠ .rendering → p.isWorking = false) := by
  constructor
  · intro p hreached _
    obtain ⟨hsound, hphase⟩ := hreached.phase
    have hcalm := (hreached.unharmed hreliable hbuffers).worker
    rw [hphase.rendering_iff hsound]
    simp [hcalm]
  · intro p hreached hstep
    obtain ⟨hsound, hphase⟩ := hreached.phase
    rcases hphase.settled hsound hstep with ⟨hstate, hworker, hdrawing⟩ | hpanicked |
      ⟨hstate, hworking⟩
    · exact ⟨by simp [hstate, hworker, hdrawing], fun hno => absurd hstate hno⟩
    · exact absurd hpanicked (hreached.unharmed hrenderers).drawing
    · refine ⟨⟨fun heq => absurd heq hstate, fun ⟨hworker, _⟩ => ?_⟩, fun _ => hworking⟩
      rw [TexturePlayer.isWorking, hworker] at hworking
      cases hworking

/-- A stream of one pixel and one picture, in software and through a texture. -/
theorem rendering_iff_alive_onePixel :
    let moves : List (Move ScriptedDecoder) :=
      [.start (fun _ => .ok .onePixel) "clip", .surface .created] ++ List.replicate 7 .work
    ScriptedDecoder.onePixel.info.HasBuffers ∧
    ∃ (p : BitmapPlayer ScriptedDecoder ScriptedSink)
      (q : TexturePlayer ScriptedDecoder ScriptedSink TextureRenderer),
      moves.foldl after (new .bitmap ⟨[], [], false, 0⟩ ⟨25.0, some 1⟩) = bitmap p ∧
      moves.foldl after (new .gl ⟨[], [], false, 0⟩ ⟨25.0, some 1⟩) = texture q ∧
      Clocked.step? p = none ∧ Clocked.step? q = none ∧
      (p.state = .rendering ↔ p.worker.any Task.isRunning) ∧
      (q.session.state ≠ .rendering → q.isWorking = false) := by
  intro moves
  have hbuffers : ScriptedDecoder.onePixel.info.HasBuffers :=
    ⟨nofun, fun _ _ => ⟨_, Blitter.ofInfo_of_lt (by decide)⟩⟩
  have hreliable := reliable_scripted ScriptedDecoder.onePixel.info
  have hmoves : ∀ m ∈ moves, m.Keeps fun d => d.info = ScriptedDecoder.onePixel.info := by
    intro m hm
    simp only [moves, List.mem_append, List.mem_cons, List.not_mem_nil, or_false,
      List.mem_replicate] at hm
    rcases hm with (rfl | rfl) | ⟨_, rfl⟩
    · rintro path d hd
      cases hd
      rfl
    · trivial
    · trivial
  have hlife : ∀ mode, Reached (fun d => d.info = ScriptedDecoder.onePixel.info)
      (fun sink : ScriptedSink => sink.panicking = [])
      (moves.foldl after (new mode ⟨[], [], false, 0⟩ ⟨25.0, some 1⟩)) := fun mode => by
    refine reached_run mode ?_ ⟨25.0, some 1⟩ hmoves
    rfl
  obtain ⟨hbitmap, htexture⟩ := rendering_iff_alive hreliable hreliable.textureRenderers
    fun d hd => (hd ▸ hbuffers : d.info.HasBuffers)
  exact ⟨hbuffers, _, _, rfl, rfl, rfl, rfl,
    hbitmap _ (hlife .bitmap) rfl, (htexture _ (hlife .gl) rfl).2⟩

/-- A stream whose pictures need a buffer of as many bytes as no buffer can have. -/
def vast : ScriptedDecoder :=
  ⟨⟨2147483648, 1073741824, 25.0, ⟨2, 1, .bgrx32, false⟩, 8⟩, [.payload #[1, 2, 3, 4, 5, 6, 7, 8]],
    true, 0⟩

/-- The buffer that a vast stream asks for is a panic of the worker, though decoder and surface
never panic: frames are said to be produced, and nobody produces them. -/
theorem rendering_without_worker :
    let moves : List (Move ScriptedDecoder) :=
      [.start (fun _ => .ok vast) "clip", .surface .created, .work]
    Reliable (fun d : ScriptedDecoder => d.info = vast.info)
        (fun sink : ScriptedSink => sink.panicking = []) ∧
      ∃ p : BitmapPlayer ScriptedDecoder ScriptedSink,
        moves.foldl after (new .bitmap ⟨[], [], false, 0⟩ ⟨25.0, none⟩) = bitmap p ∧
        Clocked.step? p = none ∧ p.state = .rendering ∧ p.worker.any Task.isRunning = false :=
  ⟨reliable_scripted vast.info, _, rfl, rfl, rfl, rfl⟩

end Player

end AviPlayback
