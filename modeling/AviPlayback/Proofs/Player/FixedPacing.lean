import AviPlayback.Proofs.Player.BitmapPacing
import AviPlayback.Proofs.Player.TexturePacing

/-!
The fixed pace of a session. In software a picture is shown, and through renderers a draw is asked
for and begun, at the moment the surface appears and once each period after it, up to the frame
limit (`Player.fixed_pacing`). The period is the delay of the pacer that the session began with, but
nobody waits for more than thirty years (`Player.picture_before_delay`).
-/
set_option autoImplicit false

namespace AviPlayback

open Relation (ReflTransGen)

/-- Scripted renderers that are told neither to end nor to panic draw on and on. -/
theorem steady_scripted {D : Type} (decoders : D → Prop) :
    SteadyRenderers (fun r : ScriptedRenderer => r.endsAt = none ∧ r.panicsAt = none)
      (fun r => r.endsAt = none ∧ r.panicsAt = none) decoders (fun _ : DrawTally => True) := by
  have hmore : ∀ (r : ScriptedRenderer) (d : D) (tally : DrawTally),
      r.endsAt = none ∧ r.panicsAt = none → (r.draw d tally).outcome = .more := by
    rintro r d tally ⟨hends, hpanics⟩
    simp [ScriptedRenderer.draw, hends, hpanics]
  refine ⟨⟨fun r hr => hr, fun r d tally hr hd _ => ⟨fun hpanicked => ?_, hr, hd, trivial⟩⟩,
    fun r hr _ => hr, fun r d tally hr _ _ => ⟨hmore r d tally hr, hr⟩⟩
  cases (hmore r d tally hr).symm.trans hpanicked

namespace Player

section

variable {D S T R : Type} [VideoDecoder D] [FrameReader D S] [FrameSink S] [FrameRenderer R D T]
  {decoders : D → Prop} {sinks : S → Prop} {targets : T → Prop} {renderers ready : R → Prop}

/-- A session on the clock, for decoders whose buffers can be had, decoders and surfaces that never
panic, and renderers that find a frame at every draw. From the surface that begins it until one
begins the next, frame `k` is at the beginning plus `k - 1` periods of the pacer that the stream had
then, whatever rate it reports later: the pictures shown in software, and through renderers the
draws asked for and the draws begun. At rest on its surface a session has had as many frames as
there were periods, and one, or as many as its limit of one or more, after which the stream has
ended. -/
theorem fixed_pacing (hreliable : Reliable decoders sinks)
    (hfits : ∀ d, decoders d → (VideoDecoder.info d).IsAllocatable)
    (hsteady : SteadyRenderers renderers ready decoders targets) {pacer : Pacer}
    (hdelay : 1 ≤ pacer.delay) :
    (∀ p : BitmapPlayer D S, BitmapPlayer.Reached decoders sinks p → p.Accepts →
      p.pacer = .ok pacer → p.options.maxFrames ≠ some 0 →
      ∀ q, ReflTransGen (Clocked.OnClock (BitmapPlayer.Meanwhile decoders)) p.created.2 q →
        ∃ n, q.stage.shownAt = p.stage.shownAt ++ pacer.beats p.stage.now n ∧
          p.stage.now ≤ q.stage.now ∧ (q.surface → Clocked.step? q = none →
            n = p.options.capped ((q.stage.now - p.stage.now) / pacer.period + 1) ∧
            q.state = if p.options.limitReached n then .streamEnded else .rendering)) ∧
    ∀ p : TexturePlayer D T R, p.Reached decoders renderers targets → p.Accepts →
      p.session.pacer = .ok pacer → p.session.options.maxFrames ≠ some 0 →
      ∀ q, ReflTransGen (Clocked.OnClock (TexturePlayer.Meanwhile decoders renderers))
        p.created.2 q →
        ∃ n k, k ≤ n ∧ q.stage.requestedAt = p.stage.requestedAt ++ pacer.numbered p.stage.now n ∧
          q.stage.drawnAt = p.stage.drawnAt ++ pacer.numbered p.stage.now k ∧
          p.stage.now ≤ q.stage.now ∧ (q.session.surface → Clocked.step? q = none →
            n = p.session.options.capped ((q.stage.now - p.stage.now) / pacer.period + 1) ∧ k = n ∧
            q.session.state = if p.session.options.limitReached n then .streamEnded
              else .rendering) := by
  have hperiod := Pacer.period_pos hdelay
  constructor
  · intro p hreached haccepts hpacer hlimit q hrun
    obtain ⟨hthere, n, hn⟩ :=
      BitmapPlayer.exists_beat hreliable hfits hreached haccepts hpacer hperiod hlimit hrun
    refine ⟨n, hn.shown, Nat.le_trans (Nat.le_add_right _ _) hn.late, fun hsurface hrest => ?_⟩
    exact hn.at_rest hperiod hthere.phase.2
      (hthere.unharmed hreliable fun d hd => (hfits d hd).hasBuffers).worker hsurface hrest
  · intro p hreached haccepts hpacer hlimit q hrun
    obtain ⟨n, k, hordered, hn⟩ :=
      TexturePlayer.exists_beat hsteady hreached haccepts hpacer hperiod hlimit hrun
    exact ⟨n, k, hordered.le, hn.requested, hn.drawn, Nat.le_trans (Nat.le_add_right _ _) hn.late,
      hn.at_rest hordered hperiod⟩

end

/-- A stream of one pixel under a limit of three frames, before its first surface. -/
def pixelBitmap : BitmapPlayer ScriptedDecoder ScriptedSink :=
  (BitmapPlayer.start (.new ⟨[], [], false, 0⟩ ⟨25.0, some 3⟩) (fun _ => .ok .onePixel) "clip").2

/-- The same stream with a renderer that draws on and on. -/
def pixelTexture : TexturePlayer ScriptedDecoder DrawTally ScriptedRenderer :=
  (TexturePlayer.start (.new ⟨0⟩ ⟨25.0, some 3⟩) (fun _ => .ok .onePixel)
    (fun _ => .ok ⟨none, none, false⟩) "clip").2

/-- After fifty milliseconds at twenty-five frames a second there have been two frames. -/
theorem fixed_pacing_onePixel :
    let p := Clocked.sleep pixelBitmap.created.2 50
    let q := Clocked.sleep pixelTexture.created.2 50
    p.stage.shownAt = [0, 40] ∧ p.state = .rendering ∧
      q.stage.requestedAt = [(0, 1), (40, 2)] ∧ q.stage.drawnAt = [(0, 1), (40, 2)] ∧
      q.session.state = .rendering := by
  have hbuffers : ScriptedDecoder.onePixel.info.IsAllocatable :=
    ⟨⟨_, rfl⟩, ⟨_, Blitter.ofInfo_of_lt (by decide)⟩⟩
  have hdelay : 1 ≤ (Pacer.withFallback 25.0 25.0).delay := by decide +kernel
  obtain ⟨hbitmap, htexture⟩ := fixed_pacing (reliable_scripted ScriptedDecoder.onePixel.info)
    (fun d hd => (hd ▸ hbuffers : d.info.IsAllocatable)) (steady_scripted _) hdelay
  let source : String → Except PlayerFault ScriptedDecoder := fun _ => .ok .onePixel
  have hstart : ∀ path d, source path = .ok d → d.info = ScriptedDecoder.onePixel.info := by
    rintro _ _ ⟨⟩
    rfl
  obtain ⟨n, hshown, _, hcount⟩ := hbitmap pixelBitmap
    ⟨_, _, rfl, .single (.start _ _ hstart)⟩ ⟨nofun, rfl⟩ rfl (by decide) _ (.single (.sleep 50))
  obtain ⟨m, k, _, hrequested, hdrawn, _, hcounts⟩ := htexture pixelTexture
    ⟨_, _, trivial, .single (.start _ _ _ hstart fun _ _ heq => by cases heq; exact ⟨rfl, rfl⟩)⟩
    ⟨nofun, rfl⟩ rfl (by decide) _ (.single (.sleep 50))
  obtain ⟨hn, hstate⟩ := hcount (by decide +kernel) (Option.isNone_iff_eq_none.mp (by decide +kernel))
  obtain ⟨hm, hk, hstate'⟩ :=
    hcounts (by decide +kernel) (Option.isNone_iff_eq_none.mp (by decide +kernel))
  obtain rfl : n = 2 := hn.trans (by decide +kernel)
  obtain rfl : m = 2 := hm.trans (by decide +kernel)
  subst hk
  exact ⟨hshown.trans (by decide +kernel), hstate, hrequested.trans (by decide +kernel),
    hdrawn.trans (by decide +kernel), hstate'⟩

/-- A stream of one pixel with one frame in more than thirty thousand years. -/
def rarePixel : ScriptedDecoder :=
  { ScriptedDecoder.onePixel with info := { ScriptedDecoder.onePixel.info with frameRate := 1e-12 } }

/-- The player of that stream, before its first surface. -/
def rareBitmap : BitmapPlayer ScriptedDecoder ScriptedSink :=
  (BitmapPlayer.start (.new ⟨[], [], false, 0⟩ ⟨25.0, none⟩) (fun _ => .ok rarePixel) "clip").2

/-- A delay of more than thirty years: the second picture is shown after thirty. -/
theorem picture_before_delay :
    let q := Clocked.settle (Clocked.sleep rareBitmap.created.2 946080000000)
    rareBitmap.pacer.map Pacer.delay = .ok 1000000000000000 ∧ q.surface = true ∧
      Clocked.isSettled q = true ∧ q.stage.shownAt = [0, 946080000000] := by
  refine ⟨?_, ?_, ?_, ?_⟩
  · rfl
  · decide +kernel
  · decide +kernel
  · decide +kernel

end Player

end AviPlayback
