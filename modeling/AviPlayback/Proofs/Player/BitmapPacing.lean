import AviPlayback.Proofs.Playback.Beats
import AviPlayback.Proofs.Player.Kinds

/-!
The pace of a player in software, on a clock whose time passes only when the worker waits.
`BitmapPlayer.Beat` says where the worker of a session is after `n` pictures; its steps, the asides
of the session and waits of any length keep it (`BitmapPlayer.exists_beat`), and at rest it gives
the number of pictures (`BitmapPlayer.Beat.at_rest`).
-/
set_option autoImplicit false

namespace AviPlayback

open Relation (ReflTransGen)

/-- Both buffers that the worker of a stream needs can be had. -/
structure StreamInfo.IsAllocatable (info : StreamInfo) : Prop where
  picture : ∃ picture, PixelBuffer.tryNew info.width info.height = .ok picture
  blitter : ∃ blitter, Blitter.ofInfo info = .ok blitter

theorem StreamInfo.IsAllocatable.hasBuffers {info : StreamInfo} (h : info.IsAllocatable) :
    info.HasBuffers := by
  obtain ⟨⟨picture, hpicture⟩, hblitter⟩ := h
  exact ⟨by rw [hpicture]; nofun, fun _ _ => hblitter⟩

namespace BlitLoop

/-- How many steps the worker can do at some time at most. -/
def stepsAt (now : Nat) : BlitLoop → Nat
  | spawned _ _ => 4
  | checking _ => 3
  | drawing _ => 2
  | pausing _ due => if due ≤ now then 4 else 1

theorem stepsAt_pos (now : Nat) (loop : BlitLoop) : 0 < loop.stepsAt now := by
  cases loop with
  | pausing =>
    rw [stepsAt]
    split <;> omega
  | _ => exact Nat.succ_pos _

/-- Whether the worker is on time after `n` pictures: about to show the next one at its time, or
pausing until then. -/
def OnTime (start period n now : Nat) : BlitLoop → Prop
  | pausing _ due => due = start + n * period ∧ now ≤ due
  | _ => now = start + n * period

end BlitLoop

theorem Stage.Spared.shownAt {D S : Type} {s t : Stage D S} (h : s.Spared t) :
    t.shownAt = s.shownAt :=
  h.traced _ fun _ he => by rw [Event.picture?_of_aside he, Option.map_none]

namespace BitmapPlayer

variable {D S : Type} {p q : BitmapPlayer D S}

/-- A worker in its loop, in a session that began at `start`, after `n` pictures. -/
structure Keeping (options : PlayerOptions) (pacer : Pacer) (start n : Nat) (stage : Stage D S)
    (loop : BlitLoop) : Prop where
  pace : loop.pacer = pacer
  frames : loop.frames = n
  onTime : loop.OnTime start pacer.period n stage.now
  within : options.limitReached n = false
  held : (stage.decoder? loop.lease).isSome

/-- A session that began at `start` and has shown `n` pictures, one each period. -/
structure Beat (options : PlayerOptions) (pacer : Pacer) (start : Nat) (earlier : List Nat) (n : Nat)
    (p : BitmapPlayer D S) : Prop where
  limit : p.options = options
  shown : p.stage.shownAt = earlier ++ pacer.beats start n
  late : start + (n - 1) * pacer.period ≤ p.stage.now
  le : ∀ m ∈ options.maxFrames, n ≤ m
  running : ∀ loop told, p.worker = some (.running loop told) →
    Keeping options pacer start n p.stage loop
  ended : p.surface → p.worker = some (.finished .finished) → options.limitReached n

variable {options : PlayerOptions} {pacer : Pacer} {start n : Nat} {earlier : List Nat}

theorem Keeping.congr {s t : Stage D S} {loop : BlitLoop}
    (h : Keeping options pacer start n s loop) (hnow : t.now = s.now)
    (hdecoder : (s.decoder? loop.lease).isSome → (t.decoder? loop.lease).isSome) :
    Keeping options pacer start n t loop :=
  ⟨h.pace, h.frames, hnow ▸ h.onTime, h.within, hdecoder h.held⟩

namespace Beat

/-- Nothing is shown, and a worker that is still in its loop has not moved. -/
theorem congr (h : Beat options pacer start earlier n p) (hstage : p.stage.Spared q.stage)
    (hoptions : q.options = p.options) (hrunning : ∀ loop told,
      q.worker = some (.running loop told) → ∃ before, p.worker = some (.running loop before))
    (hended : q.surface → q.worker = some (.finished .finished) → options.limitReached n) :
    Beat options pacer start earlier n q := by
  refine ⟨hoptions.trans h.limit, hstage.shownAt.trans h.shown, hstage.now ▸ h.late, h.le,
    fun loop told hworker => ?_, hended⟩
  obtain ⟨before, hbefore⟩ := hrunning loop told hworker
  exact (h.running loop before hbefore).congr hstage.now (hstage.decoder? _)

theorem spared (h : Beat options pacer start earlier n p) (hq : Spared p q) :
    Beat options pacer start earlier n q := by
  refine h.congr hq.stage hq.options (fun _ _ hworker => hq.worker.running hworker)
    fun hsurface hworker => ?_
  rcases hq.session with hno | ⟨hsame, _, hworker'⟩
  · rw [hno] at hsurface
    cases hsurface
  · exact h.ended (hsame ▸ hsurface) (hworker' ▸ hworker)

/-- The worker goes to another place at the same time, with the same pictures shown. -/
theorem goOn (h : Beat options pacer start earlier n p) {loop : BlitLoop} {told : Bool}
    (hloop : Keeping options pacer start n p.stage loop) :
    Beat options pacer start earlier n (p.setLoop loop told) :=
  ⟨h.limit, h.shown, h.late, h.le, fun _ _ hworker => by cases hworker; exact hloop, nofun⟩

/-- Time passes up to the moment of the next picture. -/
theorem pass (h : Beat options pacer start earlier n p) {t : Nat} (hlater : p.stage.now ≤ t)
    (hworker : ∀ loop told, p.worker = some (.running loop told) →
      ∃ b due, loop = .pausing b due ∧ t ≤ due) :
    Beat options pacer start earlier n { p with stage := { p.stage with now := t } } := by
  refine ⟨h.limit, h.shown, Nat.le_trans h.late hlater, h.le, fun loop told hrunning => ?_, h.ended⟩
  have hloop := h.running loop told hrunning
  obtain ⟨b, due, rfl, hdue⟩ := hworker loop told hrunning
  exact ⟨hloop.pace, hloop.frames, ⟨hloop.onTime.1, hdue⟩, hloop.within, hloop.held⟩

section

variable [VideoDecoder D] [FrameReader D S] [FrameSink S]

omit [VideoDecoder D] in
/-- A picture is shown at its time. -/
theorem shownAt_present (h : Beat options pacer start earlier n p) {b c : Blit} {told : Bool}
    {panicked : Bool} {stage : Stage D S} (hworker : p.worker = some (.running (.drawing b) told))
    (hrefresh : b.refresh p.stage = (panicked, c, stage)) :
    (stage.present c.picture).2.now = start + n * pacer.period ∧
      (stage.present c.picture).2.shownAt = earlier ++ pacer.beats start (n + 1) ∧
      (∀ m ∈ options.maxFrames, n + 1 ≤ m) := by
  have hb := h.running _ _ hworker
  have hread := Blit.refreshed hrefresh
  have hnow : stage.now = start + n * pacer.period := hread.now.trans hb.onTime
  have hbefore : stage.shownAt = p.stage.shownAt := hread.traced _ fun _ _ => rfl
  refine ⟨hnow, ?_, fun m hm => PlayerOptions.lt_of_not_limitReached hm hb.within⟩
  refine (Stage.traced_present _ _ _).trans ?_
  rw [show stage.traced _ = stage.shownAt from rfl, hbefore, h.shown, Pacer.beats_succ,
    List.append_assoc, hnow]
  rfl

variable {decoders : D → Prop} {sinks : S → Prop}

/-- A step shows the next picture at its time, or shows none. -/
theorem ticked (hfits : ∀ d, decoders d → (VideoDecoder.info d).IsAllocatable)
    (h : Beat options pacer start earlier n p) (hp : Unharmed decoders sinks p)
    (hq : Unharmed decoders sinks q) (hstep : Ticked p q) :
    ∃ n', Beat options pacer start earlier n' q := by
  cases hstep with
  | begin hworker =>
    have hb := h.running _ _ hworker
    exact ⟨n, h.goOn ⟨hb.pace, hb.frames, hb.onTime, hb.within, hb.held⟩⟩
  | @unfit lease _ _ hworker hno =>
    -- the decoder is there, and its buffers can be had
    obtain ⟨d, hd⟩ := Option.isSome_iff_exists.mp (h.running _ _ hworker).held
    obtain ⟨picture, hpicture⟩ := (hfits d (hp.stage.decoder _ d hd)).picture
    exact absurd hpicture (hno _ picture (congrArg (Option.map VideoDecoder.info) hd))
  | starved | broken | unread => exact absurd rfl hq.worker
  | stop => exact ⟨n, h.congr (spared_leaveLoop _ _ _) rfl nofun nofun⟩
  | check hworker =>
    have hb := h.running _ _ hworker
    exact ⟨n, h.goOn ⟨hb.pace, hb.frames, hb.onTime, hb.within, hb.held⟩⟩
  | @rest b c told stage hworker hrefresh hlimit =>
    have hb := h.running _ _ hworker
    have hread := Blit.refreshed hrefresh
    have hframes : c.frames = n := hread.frames.trans hb.frames
    have hpacer : c.pacer = pacer := hread.pacer.trans hb.pace
    obtain ⟨hnow, hshown, hle⟩ := h.shownAt_present hworker hrefresh
    have hdue : c.pacer.pauseEnd stage.now = start + (n + 1) * pacer.period := by
      rw [Pacer.pauseEnd_eq, hpacer, Nat.succ_mul, ← Nat.add_assoc]
      exact congrArg (· + _) hnow
    refine ⟨n + 1, h.limit, hshown, Nat.le_of_eq hnow.symm, hle, fun loop told' hrunning => ?_, nofun⟩
    cases hrunning
    refine ⟨hpacer, congrArg (· + 1) hframes, ⟨hdue, Nat.le_add_right _ _⟩, ?_, ?_⟩
    · rw [← h.limit, ← hframes]
      exact hlimit
    · have hheld : (stage.decoder? c.lease).isSome := by
        rw [hread.decoder?, hread.lease]
        exact hb.held
      exact hheld
  | @limit b c told stage hworker hrefresh hlimit =>
    have hb := h.running _ _ hworker
    have hframes : c.frames = n := (Blit.refreshed hrefresh).frames.trans hb.frames
    obtain ⟨hnow, hshown, hle⟩ := h.shownAt_present hworker hrefresh
    have hreached : options.limitReached (n + 1) := by
      rw [← h.limit, ← hframes]
      exact hlimit
    have hpresented : Beat options pacer start earlier (n + 1)
        { p with stage := (stage.present c.picture).2, worker := none } :=
      ⟨h.limit, hshown, Nat.le_of_eq hnow.symm, hle, nofun, nofun⟩
    have hspared := spared_endLoop { p with stage := (stage.present c.picture).2 } c.lease
    exact ⟨n + 1, hpresented.congr hspared (options_endLoop _ _) nofun fun _ _ => hreached⟩
  | @resume b due hworker hdue =>
    have hb := h.running _ _ hworker
    obtain ⟨rfl, hnow⟩ := hb.onTime
    exact ⟨n, h.goOn ⟨hb.pace, hb.frames, Nat.le_antisymm hnow hdue, hb.within, hb.held⟩⟩

end

end Beat

/-! ### At rest -/

section

variable [VideoDecoder D] [FrameReader D S] [FrameSink S]

/-- A worker that cannot go on pauses. -/
theorem pausing_of_step?_eq_none (h : step? p = none) {loop : BlitLoop} {told : Bool}
    (hworker : p.worker = some (.running loop told)) :
    ∃ b due, loop = .pausing b due ∧ p.stage.now < due := by
  rw [step?, hworker] at h
  cases loop with
  | spawned | checking | drawing => cases h
  | pausing b due =>
    refine ⟨b, due, rfl, Nat.lt_of_not_le fun hdue => ?_⟩
    cases told with
    | true => cases h
    | false =>
      dsimp only at h
      rw [if_neg Bool.false_ne_true, if_pos hdue] at h
      cases h

/-- At rest the pictures that are due have been shown, up to the frame limit, and after the last one
the stream has ended. -/
theorem Beat.at_rest (h : Beat options pacer start earlier n p) (hperiod : 0 < pacer.period)
    (hphase : Phase p) (hcalm : p.worker ≠ some .panicked) (hsurface : p.surface)
    (hrest : step? p = none) :
    n = options.capped ((p.stage.now - start) / pacer.period + 1) ∧
      p.state = if options.limitReached n then .streamEnded else .rendering := by
  cases hphase with
  | away hno =>
    rw [hno] at hsurface
    cases hsurface
  | playing _ hstate hworker =>
    have hloop := h.running _ _ hworker
    obtain ⟨b, due, rfl, hearly⟩ := pausing_of_step?_eq_none hrest hworker
    obtain ⟨rfl, _⟩ := hloop.onTime
    rw [Pacer.count_eq h.late hearly, options.capped_of_not_reached hloop.within, hloop.within]
    exact ⟨rfl, hstate⟩
  | ended _ hstate hworker =>
    have hreached := h.ended hsurface hworker
    rw [options.capped_of_reached hreached h.le (Pacer.le_count hperiod h.late), hreached]
    exact ⟨rfl, hstate⟩
  | panicked _ _ hworker => exact absurd hworker hcalm

/-- How many steps the worker can do at the current time at most. -/
def stepsNow (p : BitmapPlayer D S) : Nat :=
  match p.worker with
  | some (.running loop _) => loop.stepsAt p.stage.now
  | _ => 0

omit [VideoDecoder D] [FrameReader D S] [FrameSink S] in
theorem stepsNow_of_running {loop : BlitLoop} {told : Bool}
    (hworker : p.worker = some (.running loop told)) : p.stepsNow = loop.stepsAt p.stage.now := by
  rw [stepsNow, hworker]

omit [VideoDecoder D] [FrameReader D S] [FrameSink S] in
theorem stepsNow_le (p : BitmapPlayer D S) : p.stepsNow ≤ 4 := by
  rw [stepsNow]
  split
  · next loop _ _ =>
    cases loop with
    | pausing =>
      rw [BlitLoop.stepsAt]
      split <;> omega
    | _ => simp [BlitLoop.stepsAt]
  · exact Nat.zero_le 4

/-- Every step leaves fewer, since a pause takes time. -/
theorem Beat.stepsNow_lt (h : Beat options pacer start earlier n p) (hperiod : 0 < pacer.period)
    (hstep : Ticked p q) : q.stepsNow < p.stepsNow := by
  cases hstep with
  | begin hworker | check hworker =>
    rw [stepsNow_of_running hworker]
    exact Nat.lt_succ_self _
  | unfit hworker | starved hworker | stop hworker | limit hworker | broken hworker
  | unread hworker =>
    rw [stepsNow_of_running hworker]
    exact BlitLoop.stepsAt_pos _ _
  | @rest b c told stage hworker hrefresh =>
    have hpacer : c.pacer = pacer :=
      (Blit.refreshed hrefresh).pacer.trans (h.running _ _ hworker).pace
    have hlater : ¬ c.pacer.pauseEnd stage.now ≤ stage.now := by
      rw [Pacer.pauseEnd_eq, hpacer]
      omega
    rw [stepsNow_of_running hworker]
    exact Nat.lt_of_le_of_lt (Nat.le_of_eq (if_neg hlater)) (Nat.lt_succ_self 1)
  | resume hworker hdue =>
    rw [stepsNow_of_running hworker, BlitLoop.stepsAt, if_pos hdue]
    exact Nat.lt_succ_self 3

end

/-! ### Runs on the clock -/

/-- A session begins with its first picture due. -/
theorem beat_onNewSurface (hp : Sound p) {handle : Handle} (hhandle : p.handle = some handle)
    (pacer : Pacer) (hlimit : p.options.maxFrames ≠ some 0) :
    Beat p.options pacer p.stage.now p.stage.shownAt 0 (p.onNewSurface handle pacer) := by
  obtain ⟨hstage, hoptions⟩ := spared_onNewSurface p handle pacer
  have hheld : (p.stage.decoder? handle.lease).isSome := by
    have hlt : handle.lease < p.stage.leases.length := hp.held.lt (by simp [holds, hhandle])
    simp [Stage.decoder?, hlt]
  refine ⟨hoptions, hstage.shownAt.trans (List.append_nil _).symm, ?_, fun _ _ => Nat.zero_le _,
    fun loop told hworker => ?_, fun _ heq => by cases heq⟩
  · rw [hstage.now, Nat.zero_sub, Nat.zero_mul]
    exact Nat.le_refl _
  · cases hworker
    have htime : p.stage.now = p.stage.now + 0 * pacer.period := by
      rw [Nat.zero_mul, Nat.add_zero]
    exact ⟨rfl, rfl, hstage.now.trans htime, PlayerOptions.not_limitReached_zero hlimit,
      hstage.decoder? _ hheld⟩

/-- Nothing that happens in a session takes time, but the passing of time itself. -/
theorem Meanwhile.onClock [VideoDecoder D] [FrameReader D S] [FrameSink S] {decoders : D → Prop}
    (hp : Sound p) (hmove : Meanwhile decoders p q) : Clocked.OnClock (Meanwhile decoders) p q ∨
      ∃ t, q = { p with stage := { p.stage with now := t } } := by
  have hstays : ∀ {r s : BitmapPlayer D S}, step? r = some s → s.stage.now = r.stage.now :=
    fun hstep => by
      obtain ⟨_, _, _, hstepped⟩ := stepped_of_step? hstep
      exact hstepped.now_eq
  rcases hmove.cases hp with hstep | hpass | hbeside
  · exact .inl (.move hmove (hstays hstep))
  · exact .inr hpass
  · refine .inl (.move hmove ?_)
    exact beside_keeps (P := fun r : BitmapPlayer D S => r.stage.now = p.stage.now)
      (fun hr hstep => (hstays hstep).trans hr) (fun hr haside => haside.spared.stage.now.trans hr)
      hbeside rfl

section

variable [VideoDecoder D] [FrameReader D S] [FrameSink S] {decoders : D → Prop} {sinks : S → Prop}
  (hreliable : Reliable decoders sinks)
  (hfits : ∀ d, decoders d → (VideoDecoder.info d).IsAllocatable)

include hreliable hfits

theorem Beat.step? (h : ∃ n, Beat options pacer start earlier n p) (hp : Unharmed decoders sinks p)
    (hstep : step? p = some q) :
    Unharmed decoders sinks q ∧ ∃ n, Beat options pacer start earlier n q := by
  obtain ⟨n, hn⟩ := h
  have hq := hp.step? hreliable (fun d hd => (hfits d hd).hasBuffers) hstep
  exact ⟨hq, hn.ticked hfits hp hq (ticked_of_step? hstep)⟩

/-- A session keeps time in waits of any length. -/
theorem timely_beat (hperiod : 0 < pacer.period) :
    Clocked.Timely (fun q : BitmapPlayer D S => Reached decoders sinks q ∧
      ∃ n, Beat options pacer start earlier n q) stepsNow where
  step := by
    rintro p q ⟨hreached, n, hn⟩ hstep
    have hunharmed := hreached.unharmed hreliable fun d hd => (hfits d hd).hasBuffers
    obtain ⟨_, _, _, hstepped⟩ := stepped_of_step? hstep
    exact ⟨⟨hreached.happens (.work (.step hstep)),
      (Beat.step? hreliable hfits ⟨n, hn⟩ hunharmed hstep).2⟩, hstepped.now_eq,
      hn.stepsNow_lt hperiod (ticked_of_step? hstep)⟩
  rank_le := by
    intro p _
    have hpatience : Clocked.patience p = 4 * (p.options.maxFrames.getD 0 + 4) := rfl
    have hle := p.stepsNow_le
    omega
  now_lt_wake := by
    intro p _ hrest t hwake
    have hwake' : wake? p = some t := hwake
    rw [wake?] at hwake'
    split at hwake'
    · next hworker =>
      cases hwake'
      obtain ⟨_, _, heq, hlt⟩ := pausing_of_step?_eq_none hrest hworker
      cases heq
      exact hlt
    · cases hwake'
  pass := by
    rintro p t ⟨hreached, n, hn⟩ hrest hlater hwake
    refine ⟨hreached.happens (.work (.pass t)), n, hn.pass hlater fun loop told hworker => ?_⟩
    obtain ⟨b, due, rfl, _⟩ := pausing_of_step?_eq_none hrest hworker
    have hdue : wake? p = some due := by rw [wake?, hworker]
    exact ⟨b, due, rfl, hwake due hdue⟩
  now_setNow := fun _ _ => rfl
  setNow_now := fun _ => rfl

/-- A session is on its beat, whatever happens in it. -/
theorem exists_beat (hreached : Reached decoders sinks p) (haccepts : p.Accepts)
    (hpacer : p.pacer = .ok pacer) (hperiod : 0 < pacer.period)
    (hlimit : p.options.maxFrames ≠ some 0)
    (hrun : ReflTransGen (Clocked.OnClock (Meanwhile decoders)) p.created.2 q) :
    Reached decoders sinks q ∧
      ∃ n, Beat p.options pacer p.stage.now p.stage.shownAt n q := by
  refine (timely_beat hreliable hfits hperiod).onClock ?_ hrun ⟨hreached.happens .created, 0, ?_⟩
  · rintro r s ⟨hthere, hn⟩ hmove hnow
    refine ⟨hthere.happens hmove.1, ?_⟩
    have hunharmed := hthere.unharmed hreliable fun d hd => (hfits d hd).hasBuffers
    rcases hmove.cases hthere.phase.1 with hstep | ⟨t, rfl⟩ | hbeside
    · exact (Beat.step? hreliable hfits hn hunharmed hstep).2
    · obtain rfl : t = r.stage.now := hnow
      exact hn
    · refine (beside_keeps (P := fun s => Unharmed decoders sinks s ∧
        ∃ n, Beat p.options pacer p.stage.now p.stage.shownAt n s) ?_ ?_ hbeside ⟨hunharmed, hn⟩).2
      · exact fun hr hstep => Beat.step? hreliable hfits hr.2 hr.1 hstep
      · rintro r s ⟨hr, n, hn⟩ haside
        exact ⟨haside.unharmed hreliable hr, n, hn.spared haside.spared⟩
  · obtain ⟨hsound, hphase⟩ := hreached.phase
    obtain ⟨handle, pacer', hhandle, hpacer', hcreated⟩ := created_of_accepts hsound hphase haccepts
    obtain rfl : pacer = pacer' := Except.ok.inj (hpacer.symm.trans hpacer')
    rw [hcreated]
    exact beat_onNewSurface hsound hhandle pacer hlimit

end

end BitmapPlayer

end AviPlayback
