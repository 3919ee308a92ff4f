import AviPlayback.Proofs.Player.BitmapWork

/-!
The calls of a bitmap player. Every call, and every step of the worker between them, keeps
`BitmapPlayer.Sound`; a surface that goes away takes its worker with it, and a player that was
stopped is as before its start.
-/
set_option autoImplicit false

namespace AviPlayback

namespace BitmapPlayer

variable {D S : Type} {p q : BitmapPlayer D S}

/-- What holds of a bitmap player at every moment of its life. -/
structure Sound (p : BitmapPlayer D S) : Prop where
  held : p.stage.Held p.holds
  handle_of_surface : p.surface → p.handle.isSome
  worker_of_no_surface : p.surface = false → p.worker = none
  state_of_running : ∀ loop told, p.worker = some (.running loop told) → p.state = .rendering

theorem sound_new (sink : S) (options : PlayerOptions) :
    Sound (.new sink options : BitmapPlayer D S) :=
  ⟨.empty sink, nofun, fun _ => rfl, nofun⟩

theorem sound_setNow (h : Sound p) (t : Nat) :
    Sound { p with stage := { p.stage with now := t } } :=
  { h with held := h.held.congr rfl rfl }

theorem sound_mapDecoders (h : Sound p) (f : D → D) :
    Sound { p with stage := p.stage.mapDecoders f } :=
  { h with held := h.held.mapDecoders f }

theorem not_any_isRunning (h : Sound p) (hstate : p.state ≠ .rendering) :
    p.worker.any Task.isRunning = false := by
  cases hworker : p.worker with
  | none => rfl
  | some task =>
    cases task with
    | running loop told => exact absurd (h.state_of_running loop told hworker) hstate
    | finished | panicked => rfl

/-- Without a surface only the player itself holds the decoder. -/
theorem holds_of_no_surface (h : Sound p) (hsurface : p.surface = false) :
    p.holds = (p.handle.map Handle.lease).toList := by
  rw [holds, h.worker_of_no_surface hsurface]
  rfl

/-- A player without a decoder and without a surface. -/
structure Closed (p : BitmapPlayer D S) : Prop where
  sound : Sound p
  handle : p.handle = none
  surface : p.surface = false

theorem Closed.worker (h : Closed p) : p.worker = none := h.sound.worker_of_no_surface h.surface

theorem Closed.held (h : Closed p) : p.stage.Held [] := by
  have := h.sound.held
  rwa [holds_of_no_surface h.sound h.surface, h.handle] at this

theorem surface_of_no_handle (h : Sound p) (hhandle : p.handle = none) : p.surface = false := by
  have := h.handle_of_surface
  rw [hhandle] at this
  simpa using this

theorem closed_of_no_handle (h : Sound p) (hhandle : p.handle = none) : Closed p :=
  ⟨h, hhandle, surface_of_no_handle h hhandle⟩

/-! ### The start -/

theorem start_of_ok {source : String → Except PlayerFault D} {path : String} {d : D}
    (hhandle : p.handle = none) (hsource : source path = .ok d) :
    p.start source path = (.ok (), { p with
      stage := p.stage.takeIn d, handle := some ⟨p.stage.nextLease, path⟩ }) := by
  simp [start, Session.openDecoder_of_ok hhandle hsource, Except.map]

/-- A start is refused, fails to open a decoder, or opens one. -/
theorem start_cases (p : BitmapPlayer D S) (source : String → Except PlayerFault D)
    (path : String) :
    (∃ r, p.start source path = (r, p)) ∨ p.handle = none ∧
      ((∃ r, p.start source path = (r, p.record .openRefused)) ∨
        ∃ d, source path = .ok d ∧ p.start source path = (.ok (), { p with
          stage := p.stage.takeIn d, handle := some ⟨p.stage.nextLease, path⟩ })) := by
  cases hhandle : p.handle with
  | some handle =>
    have hopen : p.handle.isSome := by rw [hhandle, Option.isSome_some]
    exact .inl ⟨_, by rw [start, Session.openDecoder_of_open hopen]⟩
  | none =>
    refine .inr ⟨rfl, ?_⟩
    cases hsource : source path with
    | error fault => exact .inl ⟨_, by rw [start, Session.openDecoder_of_error hhandle hsource]⟩
    | ok d => exact .inr ⟨d, rfl, start_of_ok hhandle hsource⟩

theorem sound_start (h : Sound p) (source : String → Except PlayerFault D) (path : String) :
    Sound (p.start source path).2 := by
  rcases start_cases p source path with ⟨r, hstart⟩ | ⟨hhandle, ⟨r, hstart⟩ | ⟨d, _, hstart⟩⟩
  all_goals rw [hstart]
  · exact h
  · exact { h with held := h.held.record rfl }
  · have hclosed := closed_of_no_handle h hhandle
    refine ⟨?_, fun _ => rfl, h.worker_of_no_surface, h.state_of_running⟩
    rw [holds, hclosed.worker]
    exact hclosed.held.takeIn d

/-! ### The surface -/

/-- What a player becomes on a new surface. -/
def onNewSurface (p : BitmapPlayer D S) (handle : Handle) (pacer : Pacer) : BitmapPlayer D S :=
  let ready := { p.moveTo .surfaceReady with surface := true }
  let shared := { ready with stage := ready.stage.share handle.lease }
  { shared.moveTo .rendering with worker := some (.running (.spawned handle.lease pacer) false) }

/-- A surface that appears is refused or ignored, or gets its worker, where no other worker is in
its loop. -/
theorem created_cases [VideoDecoder D]
    (hidle : p.state ≠ .rendering → p.worker.any Task.isRunning = false) :
    (∃ r, p.created = (r, p)) ∨ ∃ handle pacer, p.handle = some handle ∧ p.state ≠ .rendering ∧
      p.created = (.ok (), p.onNewSurface handle pacer) := by
  cases hhandle : p.handle with
  | none => exact .inl ⟨_, by rw [created, hhandle]⟩
  | some handle =>
    cases hpacer : p.pacer with
    | error fault => exact .inl ⟨_, by rw [created, hhandle, hpacer]⟩
    | ok pacer =>
      rcases p.beginSurface_cases with ⟨fault, hbegin⟩ | ⟨_, _, hstate, hbegin⟩
      · exact .inl ⟨.error fault, by simp only [created, hhandle, hpacer, hbegin]⟩
      · refine .inr ⟨handle, pacer, rfl, hstate, ?_⟩
        simp only [created, hhandle, hpacer, hbegin]
        exact Session.beginRendering_eq (by rfl) (by exact p.state_moveTo .surfaceReady)
          (by simpa using hidle hstate) _

theorem sound_onNewSurface (h : Sound p) {handle : Handle} (pacer : Pacer)
    (hhandle : p.handle = some handle) (hstate : p.state ≠ .rendering) :
    Sound (p.onNewSurface handle pacer) := by
  have hheld := h.held
  have hready : (p.onNewSurface handle pacer).holds = [handle.lease, handle.lease] := by
    simp [onNewSurface, holds, BlitLoop.holdsOf, BlitLoop.lease, hhandle]
  rw [holds, BlitLoop.holdsOf_of_not_running (not_any_isRunning h hstate), hhandle] at hheld
  refine ⟨?_, fun _ => by simp [onNewSurface, hhandle], fun hno => ?_, fun _ _ _ => ?_⟩
  · rw [hready]
    exact Session.held_moveTo (Session.held_moveTo hheld .surfaceReady).share .rendering
  · simp [onNewSurface] at hno
  · exact Session.state_moveTo _ _

theorem sound_created [VideoDecoder D] (h : Sound p) : Sound p.created.2 := by
  rcases created_cases (not_any_isRunning h) with
    ⟨r, hcreated⟩ | ⟨handle, pacer, hhandle, hstate, hcreated⟩
  · rwa [hcreated]
  · rw [hcreated]
    exact sound_onNewSurface h pacer hhandle hstate

theorem closed_created [VideoDecoder D] (h : Closed p) : Closed p.created.2 := by
  rcases created_cases (not_any_isRunning h.sound) with ⟨r, hcreated⟩ | ⟨handle, pacer, hhandle, _⟩
  · rwa [hcreated]
  · rw [h.handle] at hhandle
    cases hhandle

section

variable [FrameSink S]

theorem sound_changed (h : Sound p) (width height : Nat) : Sound (p.changed width height).2 :=
  { h with held := (h.held.congr rfl rfl : Stage.Held { p.stage with
      sink := (FrameSink.resize p.stage.sink width height).2 } p.holds).record rfl }

variable [VideoDecoder D] [FrameReader D S]

theorem sound_step? (h : Sound p) (hstep : Clocked.step? p = some q) : Sound q := by
  obtain ⟨loop, told, hworker, hstepped⟩ := stepped_of_step? hstep
  have hsurface : p.surface = true := by
    refine (Bool.not_eq_false _).mp fun hno => ?_
    rw [h.worker_of_no_surface hno] at hworker
    cases hworker
  have hheld := hstepped.held hworker h.held
  cases hstepped with
  | goOn => exact ⟨hheld, h.handle_of_surface, fun hno => absurd hno (by simp [hsurface]),
      fun _ _ _ => h.state_of_running loop told hworker⟩
  | leave _ houtcome =>
    exact ⟨hheld, h.handle_of_surface, fun hno => absurd hno (by simp [hsurface]),
      fun _ _ heq => by cases heq; cases houtcome⟩

/-- What is left of a player when its surface has gone away. -/
structure Ended (p q : BitmapPlayer D S) : Prop where
  sound : Sound q
  surface : q.surface = false
  handle : q.handle = p.handle
  options : q.options = p.options
  now : q.stage.now = p.stage.now
  draws : p.stageAfterDraw.SameDraws q.stage

/-- What a player is whose surface has gone away, until its worker is joined. -/
structure Left (p q : BitmapPlayer D S) : Prop where
  told : Task.IsTold q.worker
  held : q.stage.Held q.holds
  surface : q.surface = false
  handle : q.handle = p.handle
  options : q.options = p.options
  now : q.stage.now = p.stage.now
  draws : p.stageAfterDraw.SameDraws q.stageAfterDraw

theorem left_leaveSurface (h : Sound p) (hsurface : p.surface) : Left p p.leaveSurface := by
  obtain ⟨next, hleave⟩ := Session.leaveSurface_eq hsurface
  refine ⟨?_, ?_, ?_, ?_, ?_, ?_, ?_⟩
  all_goals rw [hleave]
  · exact Task.isTold_map_cancel _
  · rw [holds, BlitLoop.holdsOf_map_cancel, Session.handle_moveTo]
    exact Session.held_moveTo h.held next
  · exact Session.handle_moveTo _ _
  · exact Session.options_moveTo _ _
  · exact Session.now_moveTo _ _
  · exact sameDraws_of_cancel (.moveTo p next) rfl

theorem Left.settle (h : Left p q) : Left p (Clocked.settle q) ∧ (Clocked.settle q).isQuiet := by
  obtain ⟨hsettling, hquiet⟩ := settling_settle h.told
  refine ⟨⟨hsettling.told, hsettling.held h.held, hsettling.surface.trans h.surface,
    hsettling.handle.trans h.handle, hsettling.options.trans h.options,
    hsettling.now.trans h.now, h.draws.trans hsettling.draws⟩, hquiet⟩

/-- A player whose worker is joined after its surface has gone away. -/
theorem Left.ended (h : Left p q) (hquiet : q.isQuiet) : Ended p { q with worker := none } := by
  have hheld := h.held
  rw [holds, BlitLoop.holdsOf_of_not_running (Session.any_isRunning_of_isQuiet hquiet)] at hheld
  exact {
    sound := ⟨hheld, fun hyes => absurd hyes (by simp [h.surface]), fun _ => rfl,
      fun _ _ heq => by cases heq⟩
    surface := h.surface
    handle := h.handle
    options := h.options
    now := h.now
    draws := by
      have hdraws := h.draws
      rwa [stageAfterDraw_of_isBetweenDraws (isBetweenDraws_of_isQuiet hquiet)] at hdraws }

/-- A surface that goes away takes its worker with it: the worker is told to stop, settles, and is
joined. -/
theorem endSurface_of_surface (h : Sound p) (hsurface : p.surface) :
    p.endSurface = (Clocked.settle p.leaveSurface).joinWorker := by
  obtain ⟨_, hquiet⟩ := (left_leaveSurface h hsurface).settle
  rw [Session.endSurface, if_pos hsurface, Clocked.await_of_done hquiet]

/-- A surface that goes away takes its worker with it, at once. -/
theorem ended_endSurface (h : Sound p) : Ended p p.endSurface.2 := by
  cases hsurface : p.surface with
  | false =>
    have hend : p.endSurface.2 = p := by simp [Session.endSurface, hsurface]
    have hdone : p.stageAfterDraw = p.stage :=
      stageAfterDraw_of_isBetweenDraws (by rw [isBetweenDraws, h.worker_of_no_surface hsurface])
    rw [hend]
    exact ⟨h, hsurface, rfl, rfl, rfl, hdone ▸ .refl _⟩
  | true =>
    obtain ⟨hleft, hquiet⟩ := (left_leaveSurface h hsurface).settle
    rw [endSurface_of_surface h hsurface, Session.joinWorker_snd hquiet]
    exact hleft.ended hquiet

theorem sound_destroyed (h : Sound p) : Sound p.destroyed.2 := (ended_endSurface h).sound

/-! ### The end -/

/-- What is left of a player that was stopped. -/
structure Stopped (p q : BitmapPlayer D S) : Prop where
  closed : Closed q
  state : q.state = .idle
  now : q.stage.now = p.stage.now
  draws : p.stageAfterDraw.SameDraws q.stage

theorem stopped_stop (h : Sound p) : Stopped p p.stop.2 := by
  have hended := ended_endSurface h
  have hstop : p.stop.2 = p.endSurface.2.closeAndReset := rfl
  have hheld := hended.sound.held
  rw [holds_of_no_surface hended.sound hended.surface] at hheld
  have hworker : p.stop.2.worker = none := by
    rw [hstop, Session.worker_closeAndReset]
    exact hended.sound.worker_of_no_surface hended.surface
  have hsurface : p.stop.2.surface = false := by
    rw [hstop, Session.surface_closeAndReset, hended.surface]
  have hhandle : p.stop.2.handle = none := by rw [hstop, Session.handle_closeAndReset]
  have hclosed : p.stop.2.stage.Held p.stop.2.holds := by
    rw [holds, hworker, hhandle, hstop]
    exact Session.held_closeAndReset hheld
  exact {
    closed := ⟨⟨hclosed, fun hyes => absurd hyes (by simp [hsurface]), fun _ => hworker,
      fun _ _ hrunning => by rw [hworker] at hrunning; cases hrunning⟩, hhandle, hsurface⟩
    state := by rw [hstop, Session.state_closeAndReset]
    now := by rw [hstop, Session.now_closeAndReset, hended.now]
    draws := hstop ▸ hended.draws.trans (.closeAndReset _) }

/-- Stopping a player that was stopped does nothing. -/
theorem stop_of_closed (h : Closed p) (hstate : p.state = .idle) : p.stop = (.ok (), p) := by
  simp [stop, Session.shutdown, Session.endSurface, h.surface,
    Session.closeAndReset_of_idle h.handle hstate, Except.map]

theorem closed_step? (h : Closed p) (hstep : Clocked.step? p = some q) : Closed q := by
  obtain ⟨loop, told, hworker, _⟩ := stepped_of_step? hstep
  rw [h.worker] at hworker
  cases hworker

theorem closed_destroyed (h : Closed p) : Closed p.destroyed.2 := by
  have hended := ended_endSurface h.sound
  exact ⟨hended.sound, hended.handle.trans h.handle, hended.surface⟩

/-- A player that is dropped takes its worker with it, at once. -/
theorem abandon_spec (p : BitmapPlayer D S) :
    p.abandon.worker.any Task.isRunning = false ∧ p.abandon.stage.now = p.stage.now ∧
      p.stageAfterDraw.SameDraws p.abandon.stage := by
  let told : BitmapPlayer D S := { p.close.2 with worker := p.close.2.worker.map Task.cancel }
  obtain ⟨hsettling, hquiet⟩ := settling_settle (p := told) (Task.isTold_map_cancel _)
  have htold : p.stageAfterDraw.SameDraws told.stageAfterDraw :=
    sameDraws_of_cancel (.close p) (by simp only [told, Session.close_snd])
  have hdraws := htold.trans hsettling.draws
  rw [stageAfterDraw_of_isBetweenDraws (isBetweenDraws_of_isQuiet hquiet)] at hdraws
  exact ⟨Session.any_isRunning_of_isQuiet hquiet, hsettling.now.trans (Session.now_close p),
    hdraws⟩

end

end BitmapPlayer

end AviPlayback
