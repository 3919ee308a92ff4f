import AviPlayback.Player.Bitmap
import AviPlayback.Proofs.Playback.Clock
import AviPlayback.Proofs.Playback.Contents

/-!
The worker of a bitmap player. `BitmapPlayer.Stepped` says what a step can make of the player;
from it follow that the worker keeps the accounts of the decoders, that a worker which was told to
stop leaves its loop, and that it finishes the draw that has begun and draws nothing besides.
-/
set_option autoImplicit false

namespace AviPlayback

namespace BlitLoop

def lease : BlitLoop → Nat
  | spawned lease _ => lease
  | checking b | drawing b | pausing b _ => b.lease

def isDrawing : BlitLoop → Bool
  | drawing _ => true
  | _ => false

/-- How many steps the worker does at most once it has been told to stop. -/
def rank : BlitLoop → Nat
  | spawned _ _ | drawing _ => 2
  | checking _ | pausing _ _ => 1

/-- The decoder that a worker holds while it is in its loop. -/
def holdsOf : Option (Task BlitLoop TaskEvent) → List Nat
  | some (.running loop _) => [loop.lease]
  | _ => []

theorem holdsOf_of_not_running {worker : Option (Task BlitLoop TaskEvent)}
    (h : worker.any Task.isRunning = false) : holdsOf worker = [] := by
  rcases worker with _ | _ | _ | _
  · rfl
  · cases h
  · rfl
  · rfl

theorem holdsOf_map_cancel (worker : Option (Task BlitLoop TaskEvent)) :
    holdsOf (worker.map Task.cancel) = holdsOf worker := by
  rcases worker with _ | _ | _ | _ <;> rfl

end BlitLoop

namespace BitmapPlayer

variable {D S : Type} {p q : BitmapPlayer D S} {loop : BlitLoop} {told : Bool}

/-- The decoders held by the worker and by the player, one for each hold. -/
def holds (p : BitmapPlayer D S) : List Nat :=
  BlitLoop.holdsOf p.worker ++ (p.handle.map Handle.lease).toList

/-- Whether no draw has begun. -/
def isBetweenDraws (p : BitmapPlayer D S) : Bool :=
  match p.worker with
  | some (.running loop _) => !loop.isDrawing
  | _ => true

theorem isBetweenDraws_of_cancel (h : q.worker = p.worker.map Task.cancel) :
    q.isBetweenDraws = p.isBetweenDraws := by
  simp only [isBetweenDraws, h]
  rcases p.worker with _ | _ | _ | _ <;> rfl

theorem exists_drawing (h : p.isBetweenDraws = false) :
    ∃ b told, p.worker = some (.running (.drawing b) told) := by
  rw [isBetweenDraws] at h
  split at h
  · next loop told hworker =>
    cases loop with
    | drawing b => exact ⟨b, told, hworker⟩
    | spawned | checking | pausing => cases h
  · cases h

theorem isBetweenDraws_of_isQuiet (h : p.isQuiet) : p.isBetweenDraws := by
  rw [Session.isQuiet] at h
  rw [isBetweenDraws]
  split
  · next hworker =>
    rw [hworker] at h
    cases h
  · rfl

/-- What a step of the worker makes of a player: the worker goes on to another place, or it leaves
its loop and lets the decoder go. A worker that was told to stop comes nearer to its end. -/
inductive Stepped (p : BitmapPlayer D S) (loop : BlitLoop) (told : Bool) : BitmapPlayer D S → Prop
  | goOn {stage : Stage D S} {next : BlitLoop}
      (hstage : p.stage.Worked loop.lease loop.isDrawing stage) (hlease : next.lease = loop.lease)
      (htold : told → next.rank < loop.rank ∧ next.isDrawing = false) :
      Stepped p loop told { p with stage, worker := some (.running next told) }
  | leave {stage : Stage D S} {cell : StateCell} {outcome : Task BlitLoop TaskEvent}
      (hstage : p.stage.Worked loop.lease loop.isDrawing stage)
      (houtcome : outcome.isRunning = false) :
      Stepped p loop told
        { p with stage := stage.release loop.lease, cell, worker := some outcome }

namespace Stepped

section

variable {stage : Stage D S} (hstage : p.stage.Worked loop.lease loop.isDrawing stage)

include hstage

theorem panicLoop : Stepped p loop told (panicLoop { p with stage } loop.lease) :=
  .leave hstage rfl

theorem endLoop : Stepped p loop told (endLoop { p with stage } loop.lease) := by
  obtain ⟨next, hnext⟩ := { p with stage }.tryTransition_eq .streamEnded
  rw [BitmapPlayer.endLoop, hnext, Session.moveTo_eq]
  exact .leave (Session.worked_moveTo hstage next) rfl

end

theorem held (h : Stepped p loop told q) (hworker : p.worker = some (.running loop told))
    (hp : p.stage.Held p.holds) : q.stage.Held q.holds := by
  have hholds : p.holds = loop.lease :: (p.handle.map Handle.lease).toList := by
    rw [holds, hworker]
    rfl
  rw [hholds] at hp
  cases h with
  | goOn hstage hlease _ =>
    have hnext := hstage.held hp fun _ => List.mem_cons_self
    rw [← hlease] at hnext
    exact hnext
  | @leave _ _ outcome hstage houtcome =>
    have hnext := (hstage.held hp fun _ => List.mem_cons_self).release
    cases outcome with
    | running => cases houtcome
    | finished => exact hnext
    | panicked => exact hnext

theorem now_eq (h : Stepped p loop told q) : q.stage.now = p.stage.now := by
  cases h with
  | goOn hstage => exact hstage.now_eq
  | leave hstage => exact (Stage.now_release _ _).trans hstage.now_eq

theorem sameDraws (h : Stepped p loop told q) (hdraws : loop.isDrawing = false) :
    p.stage.SameDraws q.stage := by
  cases h with
  | goOn hstage => exact .of_worked (hdraws ▸ hstage)
  | leave hstage => exact .trans (.of_worked (hdraws ▸ hstage)) (.release _ _)

/-- A worker that was told to stop begins no draw. -/
theorem isBetweenDraws (h : Stepped p loop told q) (htold : told = true) : q.isBetweenDraws := by
  cases h with
  | goOn _ _ hgoes => simp [BitmapPlayer.isBetweenDraws, (hgoes htold).2]
  | @leave _ _ outcome _ houtcome =>
    cases outcome with
    | running => cases houtcome
    | finished | panicked => rfl

end Stepped

theorem stepped_startLoop [VideoDecoder D] (p : BitmapPlayer D S) (lease : Nat) (pacer : Pacer)
    (told : Bool) :
    Stepped p (.spawned lease pacer) told (startLoop p lease pacer told) := by
  have hstage : p.stage.Worked (BlitLoop.spawned lease pacer).lease false p.stage := .start
  rw [startLoop]
  split
  · exact Stepped.endLoop hstage
  · split
    · exact Stepped.panicLoop hstage
    · exact Stepped.endLoop hstage
    · exact Stepped.panicLoop hstage
    · exact .goOn hstage rfl fun _ => ⟨Nat.one_lt_two, rfl⟩

section

variable [FrameSink S]

theorem stepped_showPicture {stage : Stage D S} {b c : Blit} (hlease : c.lease = b.lease)
    (hstage : p.stage.Worked b.lease true stage) (told : Bool) :
    Stepped p (.drawing b) told (showPicture { p with stage } c told) := by
  have hshown : p.stage.Worked b.lease true (stage.present c.picture).2 :=
    .aside rfl (fun _ => rfl) (.surface _ rfl hstage)
  rw [showPicture]
  dsimp only
  rw [hlease]
  split
  · exact Stepped.panicLoop hshown
  · split
    · exact Stepped.endLoop hshown
    · exact .goOn hshown rfl fun _ => ⟨Nat.one_lt_two, rfl⟩

variable [FrameReader D S]

theorem stepped_tick (p : BitmapPlayer D S) (b : Blit) (told : Bool) :
    Stepped p (.drawing b) told (tick p b told) := by
  obtain ⟨panicked, c, stage, hrefresh, hlease, hstage⟩ : ∃ panicked c stage,
      b.refresh p.stage = (panicked, c, stage) ∧ c.lease = b.lease ∧
        p.stage.Worked b.lease true stage := by
    cases hd : p.stage.decoder? b.lease with
    | none => exact ⟨false, b, p.stage, by rw [Blit.refresh, hd], rfl, .start⟩
    | some d =>
      let r := b.blitter.renderFrame p.stage.sink d b.picture
      exact ⟨r.panicked, { b with blitter := r.blitter, picture := r.picture },
        p.stage.putDecoder b.lease r.decoder, by rw [Blit.refresh, hd], rfl, .read _ rfl .start⟩
  rw [tick, hrefresh]
  dsimp only
  split
  · rw [hlease]
    exact Stepped.panicLoop hstage
  · exact stepped_showPicture hlease hstage told

variable [VideoDecoder D]

theorem stepped_of_step? (h : step? p = some q) :
    ∃ loop told, p.worker = some (.running loop told) ∧ Stepped p loop told q := by
  rw [step?] at h
  split at h
  · next loop told hworker =>
    refine ⟨loop, told, hworker, ?_⟩
    cases loop with
    | spawned lease pacer =>
      cases h
      exact stepped_startLoop p lease pacer told
    | checking b =>
      cases h
      have hstage : p.stage.Worked b.lease false p.stage := .start
      cases told with
      | true => exact .leave hstage rfl
      | false => exact .goOn hstage rfl nofun
    | drawing b =>
      cases h
      exact stepped_tick p b told
    | pausing b due =>
      have hstage : p.stage.Worked b.lease false p.stage := .start
      cases told with
      | true =>
        cases h
        exact .leave hstage rfl
      | false =>
        dsimp only at h
        rw [if_neg Bool.false_ne_true] at h
        split at h
        · cases h
          exact .goOn hstage rfl nofun
        · cases h
  · cases h

/-- A worker that was told to stop does not wait. -/
theorem isQuiet_of_step?_eq_none (h : step? p = none) (htold : Task.IsTold p.worker) :
    p.isQuiet := by
  rw [step?] at h
  split at h
  · next loop told hworker =>
    obtain rfl := htold loop told hworker
    cases loop <;> simp at h
  · next hno => exact Task.all_isFinished_of_not_running hno

/-- Whether the worker stands where it gives way: it has not started yet, or there is a time at
which it cannot go on. -/
def GivesWay (p : BitmapPlayer D S) : Prop :=
  (∃ lease pacer told, p.worker = some (.running (.spawned lease pacer) told)) ∨
    ∃ t, step? (Clocked.setNow p t) = none

/-- A worker gives way only between two draws. -/
theorem isBetweenDraws_of_givesWay (h : p.GivesWay) : p.isBetweenDraws := by
  refine (Bool.not_eq_false _).mp fun hdraws => ?_
  obtain ⟨b, told, hworker⟩ := exists_drawing hdraws
  rcases h with ⟨lease, pacer, told', hspawned⟩ | ⟨t, hstep⟩
  · cases hworker.symm.trans hspawned
  · have hworker' : (Clocked.setNow p t).worker = some (.running (.drawing b) told) := hworker
    rw [step?, hworker'] at hstep
    cases hstep

end

/-! ### The draw in hand -/

section

variable [FrameReader D S] [FrameSink S] {b : Blit}

omit [FrameSink S] in
theorem sameDraws_refresh {s t : Stage D S} (h : s.SameDraws t) (b : Blit) :
    ∃ panicked c s' t', b.refresh s = (panicked, c, s') ∧ b.refresh t = (panicked, c, t') ∧
      s'.SameDraws t' := by
  cases hd : s.decoder? b.lease with
  | none =>
    refine ⟨false, b, s, t, by rw [Blit.refresh, hd], ?_, h⟩
    rw [Blit.refresh, h.decoder?, hd]
  | some d =>
    refine ⟨_, _, _, _, by rw [Blit.refresh, hd], by rw [Blit.refresh, h.decoder?, hd, h.sink], ?_⟩
    exact h.putDecoder b.lease _

omit [FrameReader D S] in
theorem sameDraws_showPicture (p : BitmapPlayer D S) (b : Blit) (told : Bool) :
    (p.stage.present b.picture).2.SameDraws (showPicture p b told).stage := by
  rw [showPicture]
  dsimp only
  split
  · exact .release _ _
  · split
    · obtain ⟨next, hnext⟩ :=
        { p with stage := (p.stage.present b.picture).2 }.tryTransition_eq .streamEnded
      rw [endLoop, hnext]
      exact .trans (.moveTo { p with stage := (p.stage.present b.picture).2 } next) (.release _ _)
    · exact .refl _

theorem sameDraws_tick (h : p.stage.SameDraws q.stage) (b : Blit) (told told' : Bool) :
    (tick p b told).stage.SameDraws (tick q b told').stage := by
  obtain ⟨panicked, c, s, t, hp, hq, hst⟩ := sameDraws_refresh h b
  rw [tick, tick, hp, hq]
  dsimp only
  split
  · exact (Stage.SameDraws.release s c.lease).symm.trans (hst.trans (.release t c.lease))
  · have hshown := sameDraws_showPicture { p with stage := s } c told
    exact hshown.symm.trans ((hst.present c.picture).trans
      (sameDraws_showPicture { q with stage := t } c told'))

variable [VideoDecoder D]

/-- The stage once a draw that has begun is finished. -/
def stageAfterDraw (p : BitmapPlayer D S) : Stage D S :=
  if p.isBetweenDraws then p.stage else ((step? p).getD p).stage

theorem stageAfterDraw_of_isBetweenDraws (h : p.isBetweenDraws) :
    p.stageAfterDraw = p.stage := if_pos h

theorem stageAfterDraw_of_drawing (h : p.worker = some (.running (.drawing b) told)) :
    p.stageAfterDraw = (tick p b told).stage := by
  have hdraws : p.isBetweenDraws = false := by
    rw [isBetweenDraws, h]
    rfl
  rw [stageAfterDraw, hdraws, step?, h]
  rfl

/-- A worker that is told to stop finishes the draw in hand as any other. -/
theorem sameDraws_of_cancel (hstage : p.stage.SameDraws q.stage)
    (hworker : q.worker = p.worker.map Task.cancel) :
    p.stageAfterDraw.SameDraws q.stageAfterDraw := by
  cases hp : p.isBetweenDraws with
  | true =>
    have hq := (isBetweenDraws_of_cancel hworker).trans hp
    rwa [stageAfterDraw_of_isBetweenDraws hp, stageAfterDraw_of_isBetweenDraws hq]
  | false =>
    obtain ⟨b, told, hrunning⟩ := exists_drawing hp
    rw [hrunning] at hworker
    rw [stageAfterDraw_of_drawing hrunning, stageAfterDraw_of_drawing hworker]
    exact sameDraws_tick hstage b told true

/-- Once it was told to stop, the worker does nothing but finish the draw in hand. -/
theorem sameDraws_of_step? (h : step? p = some q) (htold : Task.IsTold p.worker) :
    p.stageAfterDraw.SameDraws q.stageAfterDraw := by
  obtain ⟨loop, told, hworker, hstepped⟩ := stepped_of_step? h
  rw [stageAfterDraw_of_isBetweenDraws (hstepped.isBetweenDraws (htold loop told hworker))]
  have hbetween : p.isBetweenDraws = !loop.isDrawing := by rw [isBetweenDraws, hworker]
  rw [stageAfterDraw, hbetween]
  cases hdraws : loop.isDrawing with
  | true =>
    rw [h]
    exact .refl _
  | false => exact hstepped.sameDraws hdraws

/-- What becomes of a player whose worker was told to stop: nothing but the end of the worker, which
keeps the accounts and draws nothing but what it has begun. -/
structure Settling (p q : BitmapPlayer D S) : Prop where
  told : Task.IsTold q.worker
  held : p.stage.Held p.holds → q.stage.Held q.holds
  handle : q.handle = p.handle
  surface : q.surface = p.surface
  options : q.options = p.options
  now : q.stage.now = p.stage.now
  draws : p.stageAfterDraw.SameDraws q.stageAfterDraw

end

/-- How many steps the worker does at most once it has been told to stop. -/
def rank (p : BitmapPlayer D S) : Nat :=
  match p.worker with
  | some (.running loop _) => loop.rank
  | _ => 0

namespace Settling

variable [VideoDecoder D] [FrameReader D S] [FrameSink S] {r : BitmapPlayer D S}

theorem refl (h : Task.IsTold p.worker) : Settling p p :=
  ⟨h, id, rfl, rfl, rfl, rfl, .refl _⟩

theorem step (h : Settling p q) (hstep : step? q = some r) :
    Settling p r ∧ r.rank < q.rank := by
  obtain ⟨loop, told, hworker, hstepped⟩ := stepped_of_step? hstep
  have htold := h.told loop told hworker
  subst htold
  have hheld := fun hp => hstepped.held hworker (h.held hp)
  have hnow := hstepped.now_eq.trans h.now
  have hdraws := h.draws.trans (sameDraws_of_step? hstep h.told)
  cases hstepped with
  | goOn hstage hlease hgoes =>
    refine ⟨⟨fun _ _ heq => ?_, hheld, h.handle, h.surface, h.options, hnow, hdraws⟩, ?_⟩
    · cases heq
      rfl
    · simpa only [rank, hworker] using (hgoes rfl).1
  | @leave _ _ outcome hstage houtcome =>
    cases outcome with
    | running => cases houtcome
    | finished | panicked =>
      refine ⟨⟨nofun, hheld, h.handle, h.surface, h.options, hnow, hdraws⟩, ?_⟩
      cases loop <;> simp [rank, hworker, BlitLoop.rank]

end Settling

/-- A worker that was told to stop has left its loop when all work at the current time is done. -/
theorem settling_settle [VideoDecoder D] [FrameReader D S] [FrameSink S]
    (h : Task.IsTold p.worker) : Settling p (Clocked.settle p) ∧ (Clocked.settle p).isQuiet := by
  -- the clock waits for more steps than a worker that was told to stop can still do
  have hrank : p.rank ≤ Clocked.patience p := by
    have hle : p.rank ≤ 2 := by
      rw [rank]
      split
      · next loop _ _ => cases loop <;> simp [BlitLoop.rank]
      · exact Nat.zero_le 2
    have hpatience : Clocked.patience p = 4 * (p.options.maxFrames.getD 0 + 4) := rfl
    omega
  have hsettling : Settling p (Clocked.settle p) :=
    Clocked.settle_keeps (fun hq hstep => (Settling.step hq hstep).1) (.refl h)
  exact ⟨hsettling, isQuiet_of_step?_eq_none
    (Clocked.step?_steps_eq_none rank Settling.step (.refl h) hrank) hsettling.told⟩

end BitmapPlayer

end AviPlayback
