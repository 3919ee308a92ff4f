import AviPlayback.Proofs.Playback.Clock
import AviPlayback.Proofs.Playback.SessionCalls

/-!
The life of a session whose calls come in any order. Whatever is called and whatever its workers do,
a session is in one of three phases (`Session.Phase`), so that at most one worker is alive, only on
a surface, and only while a decoder is open (`Session.worker_only_on_surface`).
-/
set_option autoImplicit false

namespace AviPlayback

/-- Whether a state says that there is no surface. -/
def PlaybackState.isBare : PlaybackState → Bool
  | idle | surfaceLost => true
  | _ => false

namespace Session

variable {D S L : Type} {s t : Session D S L}

/-- Number of workers in their loops. Each one that was left alone in its loop counts for ever. -/
def liveWorkers (s : Session D S L) : Nat :=
  (s.worker.any Task.isRunning).toNat + occurrences s.stage.history .detached

/-- The phases of a session. -/
inductive Phase (s : Session D S L) : Prop
  /-- There is no surface. -/
  | away (hsurface : s.surface = false) (hstate : s.state.isActive = false)
      (hworker : s.worker = none)
  /-- There is a surface, and no worker is in its loop on it: none was started since the surface
  came, or the last one has come to its end. -/
  | resting (hsurface : s.surface) (hstate : s.state.isBare = false)
      (hworker : s.worker.any Task.isRunning = false)
  | playing {loop : L} (hsurface : s.surface) (hstate : s.state = .rendering)
      (hworker : s.worker = some (.running loop false))

namespace Phase

/-- The phase depends on the surface, the state and the worker only. -/
theorem congr (h : Phase s) (hsurface : t.surface = s.surface) (hstate : t.state = s.state)
    (hworker : t.worker = s.worker) : Phase t := by
  cases h with
  | away hno hinactive hnone =>
    exact .away (hsurface.trans hno) (hstate ▸ hinactive) (hworker.trans hnone)
  | resting hthere hheld hquiet =>
    exact .resting (hsurface.trans hthere) (hstate ▸ hheld) (hworker ▸ hquiet)
  | playing hthere hplaying hloop =>
    exact .playing (hsurface.trans hthere) (hstate.trans hplaying) (hworker.trans hloop)

theorem worker_of_no_surface (h : Phase s) (hsurface : s.surface = false) : s.worker = none := by
  cases h with
  | away _ _ hworker => exact hworker
  | resting hthere | playing hthere =>
    rw [hsurface] at hthere
    cases hthere

theorem state_of_no_surface (h : Phase s) (hsurface : s.surface = false) :
    s.state.isActive = false := by
  cases h with
  | away _ hstate => exact hstate
  | resting hthere | playing hthere =>
    rw [hsurface] at hthere
    cases hthere

end Phase

/-- What holds of a session at every moment of its life. -/
structure Sound (s : Session D S L) : Prop where
  phase : Phase s
  isOpen : s.surface → s.isOpen
  /-- No worker was left alone in its loop. -/
  attached : occurrences s.stage.history .detached = 0

theorem sound_new (sink : S) (options : PlayerOptions) : Sound (new sink options : Session D S L) :=
  ⟨.away rfl rfl rfl, nofun, rfl⟩

theorem detached_moveTo (s : Session D S L) (next : PlaybackState) :
    occurrences (s.moveTo next).stage.history .detached = occurrences s.stage.history .detached := by
  rw [moveTo]
  split
  · rfl
  · simp [Stage.record]

theorem detached_close (s : Session D S L) :
    occurrences s.close.2.stage.history .detached = occurrences s.stage.history .detached := by
  rw [close_snd]
  cases s.handle with
  | none => rfl
  | some handle =>
    rw [Option.map_some, Option.getD_some, Stage.release]
    split
    · rfl
    · dsimp only
      split <;> simp [Stage.record]

/-! ### Calls -/

theorem sound_openDecoder (h : Sound s) (source : String → Except PlayerFault D) (path : String) :
    Sound (s.openDecoder source path).2 := by
  cases hhandle : s.handle with
  | some handle =>
    rw [openDecoder_of_open (by rw [hhandle]; rfl)]
    exact h
  | none =>
    cases hsource : source path with
    | error fault =>
      rw [openDecoder_of_error hhandle hsource]
      exact ⟨h.phase.congr rfl rfl rfl, h.isOpen, by simpa [record, Stage.record] using h.attached⟩
    | ok d =>
      rw [openDecoder_of_ok hhandle hsource]
      refine ⟨h.phase.congr rfl rfl rfl, fun _ => rfl, ?_⟩
      simpa [Stage.takeIn, Stage.record] using h.attached

theorem sound_beginSurface (h : Sound s) : Sound s.beginSurface.2 := by
  rcases s.beginSurface_cases with ⟨fault, hbegin⟩ | ⟨hopen, _, hnot, hbegin⟩
  all_goals rw [hbegin]
  · exact h
  · have hquiet : s.worker.any Task.isRunning = false := by
      cases h.phase with
      | away _ _ hworker => rw [hworker]; rfl
      | resting _ _ hworker => exact hworker
      | playing _ hstate => exact absurd hstate hnot
    have hheld : (s.moveTo .surfaceReady).state.isBare = false := by rw [state_moveTo]; rfl
    refine ⟨.resting rfl hheld ((worker_moveTo s .surfaceReady).symm ▸ hquiet), fun _ => ?_, ?_⟩
    · exact (congrArg Option.isSome (handle_moveTo s .surfaceReady)).trans hopen
    · exact (s.detached_moveTo .surfaceReady).trans h.attached

theorem sound_beginRendering (h : Sound s) (loop : L) : Sound (s.beginRendering loop).2 := by
  rcases s.beginRendering_cases loop with ⟨fault, hbegin⟩ | ⟨hsurface, hstate, _⟩
  · rw [hbegin]
    exact h
  · have hquiet : s.worker.any Task.isRunning = false := by
      cases h.phase with
      | away hno => rw [hsurface] at hno; cases hno
      | resting _ _ hworker => exact hworker
      | playing _ hplaying => rw [hstate] at hplaying; cases hplaying
    rw [beginRendering_eq hsurface hstate hquiet]
    refine ⟨.playing ?_ (state_moveTo s .rendering) rfl, fun _ => ?_, ?_⟩
    · exact (surface_moveTo s .rendering).trans hsurface
    · exact (congrArg Option.isSome (handle_moveTo s .rendering)).trans (h.isOpen hsurface)
    · exact (s.detached_moveTo .rendering).trans h.attached

theorem sound_close (h : Sound s) (hsurface : s.surface = false) : Sound s.close.2 := by
  refine ⟨h.phase.congr ?_ ?_ ?_, fun hthere => ?_, s.detached_close.trans h.attached⟩
  · rw [close_snd]
  · rw [close_snd]
    rfl
  · rw [close_snd]
  · rw [close_snd, hsurface] at hthere
    cases hthere

/-- A session without a surface may be closed and brought back to its start. -/
theorem sound_closeAndReset (h : Sound s) (hsurface : s.surface = false) :
    Sound s.closeAndReset := by
  have hclosed := sound_close h hsurface
  have hgone : s.closeAndReset.surface = false := (surface_closeAndReset s).trans hsurface
  refine ⟨.away hgone ?_ ?_, fun hthere => ?_, ?_⟩
  · rw [state_closeAndReset]
    rfl
  · rw [worker_closeAndReset]
    exact h.phase.worker_of_no_surface hsurface
  · rw [hgone] at hthere
    cases hthere
  · rw [closeAndReset_eq]
    exact (detached_moveTo _ _).trans hclosed.attached

theorem Sound.liveWorkers_eq (h : Sound s) :
    s.liveWorkers = (s.worker.any Task.isRunning).toNat := by
  rw [liveWorkers, h.attached, Nat.add_zero]

theorem Sound.liveWorkers_of_no_surface (h : Sound s) (hsurface : s.surface = false) :
    s.liveWorkers = 0 := by
  rw [h.liveWorkers_eq, h.phase.worker_of_no_surface hsurface]
  rfl

end Session

/-! ### Workers with a known body -/

namespace BodyLoop

variable {D S : Type} {s t : Session D S BodyLoop}

/-- A body that waits goes on by its end only. -/
theorem move_waiting_ne_go (now : Nat) (told : Bool) (body : Body) (due : Nat) (loop : BodyLoop) :
    move now told (.waiting body due) ≠ .go loop := by
  cases body <;> grind [move]

/-- What a step makes of a session whose worker has been told to stop or not. -/
inductive Stepped (s : Session D S BodyLoop) (told : Bool) : Session D S BodyLoop → Prop
  | goOn {body : Body} (hspawned : s.worker = some (.running (.spawned body) told)) :
      Stepped s told (s.setLoop (.waiting body (dueFrom s.stage.now body)) told)
  | leave (event : TaskEvent) : Stepped s told (s.leave event)
  | endStream : Stepped s told ((s.moveTo s.state.ended).leave .finished)
  | panic : Stepped s told s.panic

theorem stepped_of_step? (h : step? s = some t) :
    ∃ loop told, s.worker = some (.running loop told) ∧ Stepped s told t := by
  rw [step?] at h
  split at h
  · next loop told hworker =>
    refine ⟨loop, told, hworker, ?_⟩
    split at h
    · cases h
    · next next hmove =>
      cases h
      cases loop with
      | spawned body =>
        cases hmove
        exact .goOn hworker
      | waiting body due => exact absurd hmove (move_waiting_ne_go _ _ _ _ _)
    · cases h
      exact .leave _
    · cases h
      rw [Session.tryTransition_streamEnded]
      exact .endStream
    · cases h
      exact .panic
  · cases h

/-- How many steps a worker does at most before it waits or is over. -/
def stepsLeft : Option (Task BodyLoop TaskEvent) → Nat
  | some (.running (.spawned _) _) => 2
  | some (.running (.waiting _ _) _) => 1
  | _ => 0

theorem stepsLeft_le (worker : Option (Task BodyLoop TaskEvent)) : stepsLeft worker ≤ 2 := by
  rw [stepsLeft.eq_def]
  split <;> omega

theorem stepsLeft_lt (h : step? s = some t) : stepsLeft t.worker < stepsLeft s.worker := by
  obtain ⟨loop, told, hworker, hstepped⟩ := stepped_of_step? h
  have hpos : 0 < stepsLeft s.worker := by
    rw [hworker]
    cases loop <;> exact Nat.succ_pos _
  cases hstepped with
  | goOn hspawned =>
    rw [hspawned]
    exact Nat.lt_succ_self 1
  | leave | endStream | panic => exact hpos

/-- A worker that was told to stop and waits nevertheless is one that panics in time. -/
theorem panicAfter_of_rest (htold : Task.IsTold s.worker) (hrest : step? s = none)
    (hbusy : s.isQuiet = false) :
    ∃ ms due, s.worker = some (.running (.waiting (.panicAfter ms) due) true) := by
  obtain ⟨stage, options, cell, handle, surface, worker⟩ := s
  rcases worker with _ | ⟨loop, told⟩ | _ | _
  · cases hbusy
  · obtain rfl : told = true := htold loop told rfl
    rcases loop with body | ⟨body, due⟩
    · cases hrest
    · cases body with
      | panicAfter ms => exact ⟨ms, due, rfl⟩
      | untilCancelled | finishAfter | endAfter => cases hrest
  · cases hbusy
  · cases hbusy

theorem settle_of_panic (h : step? s = some s.panic) : Clocked.settle s = s.panic := by
  have hrest : step? s.panic = none := rfl
  have hstep : Clocked.step? s = some s.panic := h
  have hstop : Clocked.step? s.panic = none := hrest
  simp [Clocked.settle, Clocked.patience, Clocked.steps, hstep, hstop]

theorem isTold_step? (htold : Task.IsTold s.worker) (h : step? s = some t) :
    Task.IsTold t.worker := by
  obtain ⟨loop, told, hworker, hstepped⟩ := stepped_of_step? h
  cases hstepped with
  | goOn =>
    rintro _ _ heq
    cases heq
    exact htold loop told hworker
  | leave | endStream | panic => exact nofun

/-- A worker that was told to stop is over after the wait for it, which is for the time of its panic
at the longest. -/
theorem isQuiet_await (htold : Task.IsTold s.worker) :
    (Clocked.await Session.isQuiet 1 s).isQuiet := by
  have hsettled := Clocked.settle_keeps (P := fun t : Session D S BodyLoop => Task.IsTold t.worker)
    isTold_step? htold
  have hrest : step? (Clocked.settle s) = none :=
    Clocked.step?_steps_eq_none (P := fun t : Session D S BodyLoop => Task.IsTold t.worker)
      (fun t => stepsLeft t.worker) (fun ht hstep => ⟨isTold_step? ht hstep, stepsLeft_lt hstep⟩)
      htold (Nat.le_trans (stepsLeft_le s.worker) (by decide : 2 ≤ 4))
  by_cases hquiet : (Clocked.settle s).isQuiet
  · rwa [Clocked.await_of_done hquiet]
  · obtain ⟨ms, due, hworker⟩ :=
      panicAfter_of_rest hsettled hrest (by simpa using hquiet)
    have hwake : Clocked.wake? (Clocked.settle s) = some due := by
      show (Clocked.settle s).worker.bind Task.bodyWake? = some due
      rw [hworker]
      rfl
    have hpanic : step? (Clocked.setNow (Clocked.settle s) due) =
        some (Clocked.setNow (Clocked.settle s) due).panic := by
      have hthere : (Clocked.setNow (Clocked.settle s) due).worker =
          some (.running (.waiting (.panicAfter ms) due) true) := hworker
      have hdue : due ≤ (Clocked.setNow (Clocked.settle s) due).stage.now := Nat.le_refl due
      simp only [step?, hthere, move, if_pos hdue]
    rw [Clocked.await, if_neg hquiet, hwake]
    exact congrArg Session.isQuiet (settle_of_panic hpanic)

end BodyLoop

namespace Session

variable {D S : Type} {s t : Session D S BodyLoop}

theorem sound_step? (h : Sound s) (hstep : BodyLoop.step? s = some t) : Sound t := by
  obtain ⟨loop, told, hworker, hstepped⟩ := BodyLoop.stepped_of_step? hstep
  cases h.phase with
  | away _ _ hnone =>
    rw [hnone] at hworker
    cases hworker
  | resting _ _ hquiet =>
    rw [hworker] at hquiet
    cases hquiet
  | playing hsurface hstate hplaying =>
    obtain rfl : told = false := by
      rw [hplaying] at hworker
      cases hworker
      rfl
    have hheld : s.state.isBare = false := by rw [hstate]; rfl
    cases hstepped with
    | goOn => exact ⟨.playing hsurface hstate rfl, h.isOpen, h.attached⟩
    | leave | panic => exact ⟨.resting hsurface hheld rfl, h.isOpen, h.attached⟩
    | endStream =>
      have hended : s.state.ended = .streamEnded := by rw [hstate]; rfl
      rw [hended]
      refine ⟨.resting ?_ ?_ rfl, fun _ => ?_, ?_⟩
      · exact (surface_moveTo s .streamEnded).trans hsurface
      · exact congrArg PlaybackState.isBare (state_moveTo s .streamEnded)
      · exact (congrArg Option.isSome (handle_moveTo s .streamEnded)).trans (h.isOpen hsurface)
      · exact (s.detached_moveTo .streamEnded).trans h.attached

/-- A session that has left its surface and waits for its worker. -/
structure Leaving (s : Session D S BodyLoop) : Prop where
  surface : s.surface = false
  state : s.state.isActive = false
  told : Task.IsTold s.worker
  attached : occurrences s.stage.history .detached = 0

theorem leaving_leaveSurface (h : Sound s) (hsurface : s.surface) : Leaving s.leaveSurface := by
  rw [leaveSurface_eq_lost hsurface]
  refine ⟨rfl, ?_, Task.isTold_map_cancel s.worker, (s.detached_moveTo _).trans h.attached⟩
  exact (congrArg PlaybackState.isActive (state_moveTo s _)).trans
    (PlaybackState.isActive_lost s.state)

theorem leaving_step? (h : Leaving s) (hstep : BodyLoop.step? s = some t) : Leaving t := by
  have htold := BodyLoop.isTold_step? h.told hstep
  obtain ⟨loop, told, _, hstepped⟩ := BodyLoop.stepped_of_step? hstep
  cases hstepped with
  | goOn | leave | panic => exact ⟨h.surface, h.state, htold, h.attached⟩
  | endStream =>
    rw [PlaybackState.ended_of_not_isActive h.state, moveTo_self] at htold ⊢
    exact ⟨h.surface, h.state, htold, h.attached⟩

/-- A surface that goes away, with its worker's outcome whatever it is, takes the worker with it. -/
theorem sound_endSurface (h : Sound s) :
    Sound s.endSurface.2 ∧ s.endSurface.2.surface = false := by
  by_cases hsurface : s.surface
  · have hleaving := leaving_leaveSurface h hsurface
    have hquiet := BodyLoop.isQuiet_await hleaving.told
    have hleft : Leaving (Clocked.await isQuiet 1 s.leaveSurface) :=
      Clocked.await_keeps leaving_step? (fun _ ht => ⟨ht.surface, ht.state, ht.told, ht.attached⟩)
        hleaving isQuiet 1
    rw [endSurface, if_pos hsurface, joinWorker_snd hquiet]
    refine ⟨⟨.away hleft.surface hleft.state rfl, fun hthere => ?_, hleft.attached⟩, hleft.surface⟩
    rw [hleft.surface] at hthere
    cases hthere
  · rw [endSurface, if_neg hsurface]
    exact ⟨h, by simpa using hsurface⟩

theorem sound_shutdown (h : Sound s) : Sound s.shutdown.2 ∧ s.shutdown.2.surface = false := by
  obtain ⟨hsound, hgone⟩ := sound_endSurface h
  exact ⟨sound_closeAndReset hsound hgone, (surface_closeAndReset _).trans hgone⟩

/-- What can happen to a session: it is called, its worker does a step, or time passes. It is closed
by itself only without a surface. -/
inductive Happens (s : Session D S BodyLoop) : Session D S BodyLoop → Prop
  | openDecoder (source : String → Except PlayerFault D) (path : String) :
      Happens s (s.openDecoder source path).2
  | close (hsurface : s.surface = false) : Happens s s.close.2
  | beginSurface : Happens s s.beginSurface.2
  | beginRendering (body : Body) : Happens s (s.beginRendering (.spawned body)).2
  | endSurface : Happens s s.endSurface.2
  | shutdown : Happens s s.shutdown.2
  | work {t : Session D S BodyLoop} (h : BodyLoop.step? s = some t) : Happens s t
  | pass (time : Nat) : Happens s { s with stage := { s.stage with now := time } }

/-- A session at some moment of its life. -/
def Reached (s : Session D S BodyLoop) : Prop :=
  ∃ sink options, Relation.ReflTransGen Happens (new sink options) s

theorem sound_happens (h : Sound s) (hmove : Happens s t) : Sound t := by
  cases hmove with
  | openDecoder source path => exact sound_openDecoder h source path
  | close hsurface => exact sound_close h hsurface
  | beginSurface => exact sound_beginSurface h
  | beginRendering body => exact sound_beginRendering h (.spawned body)
  | endSurface => exact (sound_endSurface h).1
  | shutdown => exact (sound_shutdown h).1
  | work hstep => exact sound_step? h hstep
  | pass => exact ⟨h.phase.congr rfl rfl rfl, h.isOpen, h.attached⟩

/-- Whatever happens, a session stays sound. -/
theorem Reached.sound (h : Reached s) : Sound s := by
  obtain ⟨sink, options, hrun⟩ := h
  induction hrun with
  | refl => exact sound_new sink options
  | tail _ hmove ih => exact sound_happens ih hmove

/-- At every moment of a session's life, whichever calls were made in whichever order, at most one
worker is alive, only on a surface, and a surface is there only while a decoder is open. The states
in which a surface is needed have one, and those without one have no worker either. When the
surface was given up, or the session shut down, no worker is alive, whatever became of it. -/
theorem worker_only_on_surface (h : Reached s) :
    s.liveWorkers ≤ 1 ∧ (0 < s.liveWorkers → s.surface) ∧ (s.surface → s.isOpen) ∧
      (s.state = .surfaceReady ∨ s.state = .rendering → s.surface) ∧
      (s.state = .idle ∨ s.state = .surfaceLost → s.surface = false ∧ s.liveWorkers = 0) ∧
      s.endSurface.2.liveWorkers = 0 ∧ s.shutdown.2.liveWorkers = 0 := by
  have hsound := h.sound
  have hnone := hsound.liveWorkers_of_no_surface
  refine ⟨?_, fun hlive => ?_, hsound.isOpen, fun hstate => ?_, fun hstate => ?_, ?_, ?_⟩
  · rw [hsound.liveWorkers_eq]
    exact Bool.toNat_le _
  · cases hsurface : s.surface with
    | true => rfl
    | false => exact absurd (hnone hsurface) (Nat.ne_of_gt hlive)
  · cases hsurface : s.surface with
    | true => rfl
    | false =>
      have hinactive := hsound.phase.state_of_no_surface hsurface
      rcases hstate with hstate | hstate <;> rw [hstate] at hinactive <;> cases hinactive
  · have hbare : s.state.isBare := by rcases hstate with hstate | hstate <;> rw [hstate] <;> rfl
    cases hsound.phase with
    | away hsurface => exact ⟨hsurface, hnone hsurface⟩
    | resting _ hheld =>
      rw [hbare] at hheld
      cases hheld
    | playing _ hplaying =>
      rw [hplaying] at hbare
      cases hbare
  · obtain ⟨hended, hgone⟩ := sound_endSurface hsound
    exact hended.liveWorkers_of_no_surface hgone
  · obtain ⟨hshut, hgone⟩ := sound_shutdown hsound
    exact hshut.liveWorkers_of_no_surface hgone

/-- A worker that panics while it is waited for: the session tells so and has no worker left. -/
theorem worker_only_on_surface_panicking :
    let s : Session Unit Unit BodyLoop :=
      (((new () ⟨25.0, none⟩).openDecoder (fun _ => .ok ()) "clip").2.beginSurface.2.beginRendering
        (.spawned (.panicAfter 5))).2
    s.liveWorkers = 1 ∧ s.endSurface.1 = .error .worker ∧ s.endSurface.2.liveWorkers = 0 := by
  intro s
  have hreached : Reached s := ⟨(), _, .tail (.tail (.single (.openDecoder _ _)) .beginSurface)
    (.beginRendering _)⟩
  obtain ⟨_, _, _, _, _, hended, _⟩ := worker_only_on_surface hreached
  exact ⟨rfl, rfl, hended⟩

end Session

end AviPlayback
