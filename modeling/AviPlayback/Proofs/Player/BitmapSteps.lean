import AviPlayback.Proofs.Playback.Contents
import AviPlayback.Proofs.Player.BitmapCalls

/-!
The steps of the worker of a bitmap player, one by one: `BitmapPlayer.Ticked` lists what it can do,
with what it has read and shown.
-/
set_option autoImplicit false

namespace AviPlayback

namespace BlitLoop

def isAtCheck : BlitLoop → Bool
  | checking _ | pausing _ _ => true
  | _ => false

def frames : BlitLoop → Nat
  | spawned _ _ => 0
  | checking b | drawing b | pausing b _ => b.frames

def pacer : BlitLoop → Pacer
  | spawned _ pacer => pacer
  | checking b | drawing b | pausing b _ => b.pacer

end BlitLoop

namespace Stage

variable {D S A : Type} (g : Moment → Option A)

theorem traced_putDecoder (s : Stage D S) (lease : Nat) (d : D) :
    (s.putDecoder lease d).traced g = s.traced g ++ (g ⟨s.now, .used lease⟩).toList :=
  traced_record g { s with leases := s.leases.modify lease fun l => { l with decoder := d } } _

theorem traced_present [FrameSink S] (s : Stage D S) (picture : PixelBuffer) :
    (s.present picture).2.traced g = s.traced g ++ (g ⟨s.now, .presented picture⟩).toList :=
  traced_record g { s with sink := (FrameSink.present s.sink picture).2 } _

end Stage

namespace Blit

variable {D S : Type} [FrameReader D S] {b c : Blit} {s t : Stage D S} {panicked : Bool}

theorem refresh_of_decoder {d : D} (hd : s.decoder? b.lease = some d) :
    let r := b.blitter.renderFrame s.sink d b.picture
    b.refresh s = (r.panicked, { b with blitter := r.blitter, picture := r.picture },
      s.putDecoder b.lease r.decoder) := by
  rw [refresh, hd]

/-- Reading a frame changes neither the stream nor the pace nor the count. -/
structure Refreshed (b c : Blit) (s t : Stage D S) : Prop where
  lease : c.lease = b.lease
  pacer : c.pacer = b.pacer
  frames : c.frames = b.frames
  now : t.now = s.now
  traced : ∀ {A : Type} (g : Moment → Option A), (∀ time i, g ⟨time, .used i⟩ = none) →
    t.traced g = s.traced g
  decoder? : ∀ i, (t.decoder? i).isSome = (s.decoder? i).isSome

theorem refreshed (h : b.refresh s = (panicked, c, t)) : Refreshed b c s t := by
  cases hd : s.decoder? b.lease with
  | none =>
    rw [refresh, hd] at h
    cases h
    exact ⟨rfl, rfl, rfl, rfl, fun _ _ => rfl, fun _ => rfl⟩
  | some d =>
    rw [refresh_of_decoder hd] at h
    cases h
    refine ⟨rfl, rfl, rfl, rfl, fun g hg => ?_, fun i => ?_⟩
    · exact Stage.traced_record_of_none g _ (hg _ _)
    · rw [Stage.decoder?_putDecoder]
      split
      · exact Option.isSome_map
      · rfl

end Blit

namespace BitmapPlayer

variable {D S : Type} [VideoDecoder D] [FrameReader D S] [FrameSink S] {p q : BitmapPlayer D S}

/-- A step of the worker. -/
inductive Ticked (p : BitmapPlayer D S) : BitmapPlayer D S → Prop
  /-- It has its buffers. -/
  | begin {lease : Nat} {pacer : Pacer} {told : Bool} {info : StreamInfo} {picture : PixelBuffer}
      {blitter : Blitter} (hworker : p.worker = some (.running (.spawned lease pacer) told))
      (hinfo : p.stage.info? lease = some info)
      (hpicture : PixelBuffer.tryNew info.width info.height = .ok picture)
      (hblitter : Blitter.ofInfo info = .ok blitter) :
      Ticked p (p.setLoop (.checking ⟨lease, pacer, blitter, picture, 0⟩) told)
  /-- There is no stream, or its pictures are refused. -/
  | unfit {lease : Nat} {pacer : Pacer} {told : Bool}
      (hworker : p.worker = some (.running (.spawned lease pacer) told))
      (hno : ∀ info picture, p.stage.info? lease = some info →
        PixelBuffer.tryNew info.width info.height ≠ .ok picture) : Ticked p (endLoop p lease)
  /-- A buffer of the stream cannot be had. -/
  | starved {lease : Nat} {pacer : Pacer} {told : Bool} {info : StreamInfo}
      (hworker : p.worker = some (.running (.spawned lease pacer) told))
      (hinfo : p.stage.info? lease = some info)
      (hno : ∀ picture blitter, PixelBuffer.tryNew info.width info.height = .ok picture →
        Blitter.ofInfo info ≠ .ok blitter) : Ticked p (panicLoop p lease)
  /-- It was told to stop. -/
  | stop {loop : BlitLoop} (hworker : p.worker = some (.running loop true))
      (hloop : loop.isAtCheck) : Ticked p (leaveLoop p loop.lease .cancelled)
  | check {b : Blit} (hworker : p.worker = some (.running (.checking b) false)) :
      Ticked p (p.setLoop (.drawing b) false)
  /-- A picture is shown, and a pause begins. -/
  | rest {b c : Blit} {told : Bool} {stage : Stage D S}
      (hworker : p.worker = some (.running (.drawing b) told))
      (hrefresh : b.refresh p.stage = (false, c, stage))
      (hlimit : p.options.limitReached (c.frames + 1) = false) :
      Ticked p ({ p with stage := (stage.present c.picture).2 }.setLoop
        (.pausing { c with frames := c.frames + 1 } (c.pacer.pauseEnd stage.now)) told)
  /-- A picture is shown, and the frame limit is reached. -/
  | limit {b c : Blit} {told : Bool} {stage : Stage D S}
      (hworker : p.worker = some (.running (.drawing b) told))
      (hrefresh : b.refresh p.stage = (false, c, stage))
      (hlimit : p.options.limitReached (c.frames + 1)) :
      Ticked p (endLoop { p with stage := (stage.present c.picture).2 } c.lease)
  /-- The surface panics at a picture. -/
  | broken {b c : Blit} {told : Bool} {stage : Stage D S}
      (hworker : p.worker = some (.running (.drawing b) told))
      (hrefresh : b.refresh p.stage = (false, c, stage))
      (hpanicked : (stage.present c.picture).1 = .panicked) :
      Ticked p (panicLoop { p with stage := (stage.present c.picture).2 } c.lease)
  /-- Reading a frame panics. -/
  | unread {b c : Blit} {told : Bool} {stage : Stage D S}
      (hworker : p.worker = some (.running (.drawing b) told))
      (hrefresh : b.refresh p.stage = (true, c, stage)) :
      Ticked p (panicLoop { p with stage } c.lease)
  | resume {b : Blit} {due : Nat} (hworker : p.worker = some (.running (.pausing b due) false))
      (hdue : due ≤ p.stage.now) : Ticked p (p.setLoop (.checking b) false)

theorem ticked_startLoop {lease : Nat} {pacer : Pacer} {told : Bool}
    (hworker : p.worker = some (.running (.spawned lease pacer) told)) :
    Ticked p (startLoop p lease pacer told) := by
  rw [startLoop]
  split
  · next hinfo => exact .unfit hworker fun info picture hsome => by simp [hinfo] at hsome
  · next info hinfo =>
    split
    · next hpicture => exact .starved hworker hinfo fun picture _ hok => by simp [hpicture] at hok
    · next hpicture =>
      refine .unfit hworker fun info' picture hsome hok => ?_
      obtain rfl : info = info' := Option.some.inj (hinfo.symm.trans hsome)
      rw [hpicture] at hok
      cases hok
    · next hblitter =>
      exact .starved hworker hinfo fun _ blitter _ hok => by simp [hblitter] at hok
    · next hpicture hblitter => exact .begin hworker hinfo hpicture hblitter

theorem ticked_tick {b : Blit} {told : Bool}
    (hworker : p.worker = some (.running (.drawing b) told)) : Ticked p (tick p b told) := by
  rcases hrefresh : b.refresh p.stage with ⟨_ | _, c, stage⟩
  · rw [tick, hrefresh]
    dsimp only
    rw [if_neg Bool.false_ne_true, showPicture]
    dsimp only
    split
    · next hpanicked => exact .broken hworker hrefresh hpanicked
    · split
      · next hlimit => exact .limit hworker hrefresh hlimit
      · next hlimit => exact .rest hworker hrefresh ((Bool.not_eq_true _).mp hlimit)
  · rw [tick, hrefresh]
    exact .unread hworker hrefresh

theorem ticked_of_step? (h : step? p = some q) : Ticked p q := by
  rw [step?] at h
  split at h
  · next loop told hworker =>
    cases loop with
    | spawned lease pacer =>
      cases h
      exact ticked_startLoop hworker
    | checking b =>
      cases h
      cases told with
      | true => exact .stop hworker rfl
      | false => exact .check hworker
    | drawing b =>
      cases h
      exact ticked_tick hworker
    | pausing b due =>
      cases told with
      | true =>
        cases h
        exact .stop hworker rfl
      | false =>
        dsimp only at h
        rw [if_neg Bool.false_ne_true] at h
        split at h
        · next hdue =>
          cases h
          exact .resume hworker hdue
        · cases h
  · cases h

end BitmapPlayer

end AviPlayback
