import AviPlayback.Playback.Session
import AviPlayback.Proofs.Playback.Accounts

/-!
What the calls of a session and the work of its worker do. Every change of the state is a move to
another state (`Session.moveTo`), and whatever a worker does between two calls is told by the
changes it may make to the stage (`Stage.Worked`).
-/
set_option autoImplicit false

namespace AviPlayback

def Event.isPresented : Event → Bool
  | .presented _ => true
  | _ => false

/-- Whether an event belongs to a draw. -/
def Event.isOfDraw : Event → Bool
  | .drawn _ | .presented _ => true
  | _ => false

theorem PlayerOptions.lt_of_not_limitReached {o : PlayerOptions} {m n : Nat}
    (hmax : o.maxFrames = some m) (h : o.limitReached n = false) : n < m := by
  rw [limitReached, hmax] at h
  simpa using h

namespace PlaybackState

/-- The state when the stream ends. -/
def ended : PlaybackState → PlaybackState
  | rendering => streamEnded
  | s => s

/-- The state when the surface goes away. -/
def lost : PlaybackState → PlaybackState
  | surfaceReady | rendering => surfaceLost
  | s => s

def isActive : PlaybackState → Bool
  | surfaceReady | rendering => true
  | _ => false

theorem isActive_lost (s : PlaybackState) : s.lost.isActive = false := by cases s <;> rfl

theorem ended_ne_rendering (s : PlaybackState) : s.ended ≠ .rendering := by cases s <;> nofun

theorem ended_of_not_isActive {s : PlaybackState} (h : s.isActive = false) : s.ended = s := by
  cases s with
  | surfaceReady | rendering => cases h
  | idle | surfaceLost | streamEnded => rfl

end PlaybackState

namespace Stage

variable {D S : Type} {s t : Stage D S} {lease : Nat} {draws : Bool} {holds : List Nat}

/-- The pictures shown, latest first, with their times. -/
def shown (s : Stage D S) : List Moment := s.history.filter (·.event.isPresented)

theorem shown_record {e : Event} (he : e.isPresented = false) (s : Stage D S) :
    (s.record e).shown = s.shown := by
  simp [shown, record, he]

theorem now_release (s : Stage D S) (lease : Nat) : (s.release lease).now = s.now := by
  rw [release]
  split
  · rfl
  · dsimp only
    split <;> rfl

/-- What a worker makes of the stage in a step. When the step draws, it may read the decoder, change
the surface and record the draw; and it may record what concerns no decoder. -/
inductive Worked (lease : Nat) (draws : Bool) (s : Stage D S) : Stage D S → Prop
  | start : Worked lease draws s s
  | read {t : Stage D S} (d : D) (hdraws : draws) (h : Worked lease draws s t) :
      Worked lease draws s (t.putDecoder lease d)
  | surface {t : Stage D S} (sink : S) (hdraws : draws) (h : Worked lease draws s t) :
      Worked lease draws s { t with sink }
  | aside {t : Stage D S} {e : Event} (he : e.isAside) (hdraws : e.isOfDraw → draws)
      (h : Worked lease draws s t) : Worked lease draws s (t.record e)

namespace Worked

theorem held (h : s.Worked lease draws t) (hs : s.Held holds) (hlease : draws → lease ∈ holds) :
    t.Held holds := by
  induction h with
  | start => exact hs
  | read d hdraws _ ih => exact ih.putDecoder (hlease hdraws) d
  | surface _ _ _ ih => exact ih.congr rfl rfl
  | aside he _ _ ih => exact ih.record he

theorem now_eq (h : s.Worked lease draws t) : t.now = s.now := by
  induction h with
  | start => rfl
  | read _ _ _ ih => exact ih
  | surface _ _ _ ih => exact ih
  | aside _ _ _ ih => exact ih

end Worked

end Stage

namespace Task

variable {L A : Type} {worker : Option (Task L A)}

/-- A worker, if there is one in its loop, has been told to stop. -/
def IsTold (worker : Option (Task L A)) : Prop :=
  ∀ loop told, worker = some (.running loop told) → told = true

theorem isTold_map_cancel (worker : Option (Task L A)) : IsTold (worker.map cancel) := by
  rintro loop told h
  obtain ⟨task, _, htask⟩ := Option.map_eq_some_iff.mp h
  cases task <;> cases htask
  rfl

theorem any_isRunning_map_cancel (worker : Option (Task L A)) :
    (worker.map cancel).any isRunning = worker.any isRunning := by
  rcases worker with _ | _ | _ | _ <;> rfl

/-- A worker that was told to stop and is in its loop was there before. -/
theorem running_of_map_cancel {loop : L} {told : Bool}
    (h : worker.map cancel = some (.running loop told)) :
    ∃ before, worker = some (.running loop before) := by
  rcases worker with _ | ⟨_, before⟩ | _ | _
  all_goals cases h
  exact ⟨before, rfl⟩

theorem panicked_of_map_cancel (h : worker.map cancel = some .panicked) :
    worker = some .panicked := by
  rcases worker with _ | _ | _ | _
  all_goals cases h
  rfl

theorem all_isFinished_of_not_running
    (h : ∀ loop told, worker = some (.running loop told) → False) : worker.all isFinished := by
  rcases worker with _ | ⟨loop, told⟩ | _ | _
  · rfl
  · exact (h loop told rfl).elim
  · rfl
  · rfl

end Task

namespace Session

variable {D S L : Type} {s : Session D S L} {f : Transition} {holds : List Nat}

/-- Publishes a state, unless it is the current one. -/
def moveTo (s : Session D S L) (next : PlaybackState) : Session D S L :=
  if next = s.state then s
  else { s with
    stage := s.stage.record (.published next), cell := ⟨next, s.cell.version + 1⟩ }

@[simp] theorem handle_moveTo (s : Session D S L) (next : PlaybackState) :
    (s.moveTo next).handle = s.handle := by
  rw [moveTo]
  split <;> rfl

@[simp] theorem surface_moveTo (s : Session D S L) (next : PlaybackState) :
    (s.moveTo next).surface = s.surface := by
  rw [moveTo]
  split <;> rfl

@[simp] theorem worker_moveTo (s : Session D S L) (next : PlaybackState) :
    (s.moveTo next).worker = s.worker := by
  rw [moveTo]
  split <;> rfl

@[simp] theorem options_moveTo (s : Session D S L) (next : PlaybackState) :
    (s.moveTo next).options = s.options := by
  rw [moveTo]
  split <;> rfl

@[simp] theorem state_moveTo (s : Session D S L) (next : PlaybackState) :
    (s.moveTo next).state = next := by
  rw [moveTo]
  split
  · next h => exact h.symm
  · rfl

@[simp] theorem moveTo_self (s : Session D S L) : s.moveTo s.state = s := if_pos rfl

theorem moveTo_eq (s : Session D S L) (next : PlaybackState) : s.moveTo next =
    { s with stage := (s.moveTo next).stage, cell := (s.moveTo next).cell } := by
  rw [moveTo]
  split <;> rfl

theorem worked_moveTo {lease : Nat} {draws : Bool} {before : Stage D S}
    (h : before.Worked lease draws s.stage) (next : PlaybackState) :
    before.Worked lease draws (s.moveTo next).stage := by
  rw [moveTo]
  split
  · exact h
  · exact .aside rfl nofun h

theorem undrawn_moveTo (s : Session D S L) (next : PlaybackState) :
    s.stage.Worked 0 false (s.moveTo next).stage := worked_moveTo .start next

theorem held_moveTo (h : s.stage.Held holds) (next : PlaybackState) :
    (s.moveTo next).stage.Held holds := (s.undrawn_moveTo next).held h nofun

@[simp] theorem now_moveTo (s : Session D S L) (next : PlaybackState) :
    (s.moveTo next).stage.now = s.stage.now := (s.undrawn_moveTo next).now_eq

theorem transition_of_ok {next : PlaybackState} (h : f s.state = (.ok (), next)) :
    s.transition f = (.ok (), s.moveTo next) := by
  have hcell : s.cell.transition f =
      (.ok (), if next = s.state then s.cell else ⟨next, s.cell.version + 1⟩) := by
    rw [StateCell.transition, show f s.cell.state = _ from h]
    rfl
  rw [transition, hcell, moveTo]
  by_cases hsame : next = s.state
  · simp [hsame]
  · simp [hsame, record]

theorem transition_of_error {next : PlaybackState} {fault : PlayerFault}
    (h : f s.state = (.error fault, next)) : s.transition f = (.error fault, s) := by
  rw [transition, StateCell.transition_error (show f s.cell.state = _ from h)]
  simp

theorem tryTransition_of_ok {next : PlaybackState} (h : f s.state = (.ok (), next)) :
    s.tryTransition f = s.moveTo next := by
  rw [tryTransition, transition_of_ok h]

theorem tryTransition_of_error {next : PlaybackState} {fault : PlayerFault}
    (h : f s.state = (.error fault, next)) : s.tryTransition f = s.moveTo s.state := by
  rw [tryTransition, transition_of_error h, moveTo_self]

/-- A state that was tried is moved to, or the state stays. -/
theorem tryTransition_eq (s : Session D S L) (f : Transition) :
    ∃ next, s.tryTransition f = s.moveTo next := by
  rcases h : f s.state with ⟨fault | ⟨⟩, next⟩
  · exact ⟨s.state, tryTransition_of_error h⟩
  · exact ⟨next, tryTransition_of_ok h⟩

theorem tryTransition_streamEnded (s : Session D S L) :
    s.tryTransition .streamEnded = s.moveTo s.state.ended := by
  cases hstate : s.state with
  | rendering => exact tryTransition_of_ok (by rw [hstate]; rfl)
  | idle | surfaceReady | surfaceLost | streamEnded =>
    have hmove := tryTransition_of_error (f := .streamEnded) (s := s) (by rw [hstate]; rfl)
    rwa [hstate] at hmove

theorem tryTransition_surfaceLost (s : Session D S L) :
    s.tryTransition .surfaceLost = s.moveTo s.state.lost := by
  cases hstate : s.state with
  | surfaceReady | rendering => exact tryTransition_of_ok (by rw [hstate]; rfl)
  | idle | surfaceLost | streamEnded =>
    have hmove := tryTransition_of_error (f := .surfaceLost) (s := s) (by rw [hstate]; rfl)
    rwa [hstate] at hmove

section

variable {source : String → Except PlayerFault D} {path : String} {d : D} {fault : PlayerFault}

theorem openDecoder_of_open (h : s.handle.isSome) :
    s.openDecoder source path = (.error (.invalidState .alreadyStarted), s) := if_pos h

theorem openDecoder_of_error (h : s.handle = none) (hsource : source path = .error fault) :
    s.openDecoder source path = (.error fault, s.record .openRefused) := by
  simp [openDecoder, isOpen, h, hsource]

theorem openDecoder_of_ok (h : s.handle = none) (hsource : source path = .ok d) :
    s.openDecoder source path = (.ok ⟨s.stage.nextLease, path⟩, { s with
      stage := s.stage.takeIn d, handle := some ⟨s.stage.nextLease, path⟩ }) := by
  simp [openDecoder, isOpen, h, hsource]

/-- A decoder that has just been opened is the one that a session asks. -/
theorem info?_takeIn [VideoDecoder D] (s : Session D S L) (d : D) (path : String) :
    { s with stage := s.stage.takeIn d, handle := some ⟨s.stage.nextLease, path⟩ }.info? =
      some (VideoDecoder.info d) := by
  simp [info?, Stage.info?, Stage.decoder?, Stage.takeIn, Stage.record, Stage.nextLease]

end

/-- A surface is not taken while another one is drawn on, and else it makes the session ready. -/
theorem beginSurface_cases (s : Session D S L) :
    (∃ fault, s.beginSurface = (.error fault, s)) ∨
      s.handle.isSome ∧ s.state ≠ .surfaceReady ∧ s.state ≠ .rendering ∧
        s.beginSurface = (.ok (), { s.moveTo .surfaceReady with surface := true }) := by
  by_cases hopen : s.isOpen
  · simp only [beginSurface, if_pos hopen]
    cases hstate : s.state with
    | surfaceReady | rendering =>
      refine .inl ⟨.invalidState .surfaceWhileActive, ?_⟩
      rw [transition_of_error (by rw [hstate]; rfl)]
    | idle | surfaceLost | streamEnded =>
      refine .inr ⟨hopen, by simp, by simp, ?_⟩
      rw [transition_of_ok (by rw [hstate]; rfl)]
  · exact .inl ⟨_, if_neg hopen⟩

/-- A worker is started on a surface that is ready, and on no other. -/
theorem beginRendering_cases (s : Session D S L) (loop : L) :
    (∃ fault, s.beginRendering loop = (.error fault, s)) ∨
      s.surface ∧ s.state = .surfaceReady ∧ (s.beginRendering loop).1 = .ok () := by
  by_cases hsurface : s.surface
  · simp only [beginRendering, if_pos hsurface]
    cases hstate : s.state with
    | surfaceReady =>
      refine .inr ⟨hsurface, rfl, ?_⟩
      rw [transition_of_ok (by rw [hstate]; rfl)]
    | idle | rendering | surfaceLost | streamEnded =>
      refine .inl ⟨.invalidState .renderWithoutSurfaceReady, ?_⟩
      rw [transition_of_error (by rw [hstate]; rfl)]
  · exact .inl ⟨_, if_neg hsurface⟩

/-- A worker starts on a surface that is ready, when none is in its loop. -/
theorem beginRendering_eq (hsurface : s.surface) (hstate : s.state = .surfaceReady)
    (hworker : s.worker.any Task.isRunning = false) (loop : L) :
    s.beginRendering loop =
      (.ok (), { s.moveTo .rendering with worker := some (.running loop false) }) := by
  have hmove : s.transition .beginRendering = (.ok (), s.moveTo .rendering) :=
    transition_of_ok (by rw [hstate]; rfl)
  simp [beginRendering, hsurface, hmove, hworker]

theorem leaveSurface_eq_lost (hsurface : s.surface) : s.leaveSurface =
    { s.moveTo s.state.lost with surface := false, worker := s.worker.map Task.cancel } := by
  have hmove : { s with surface := false }.moveTo s.state.lost =
      { s.moveTo s.state.lost with surface := false } := by
    have hstate : { s with surface := false }.state = s.state := rfl
    simp only [moveTo, hstate]
    split <;> rfl
  have hlost : { s with surface := false }.tryTransition .surfaceLost =
      { s.moveTo s.state.lost with surface := false } :=
    (tryTransition_surfaceLost { s with surface := false }).trans hmove
  rw [leaveSurface, if_pos hsurface, hlost]
  simp

theorem leaveSurface_eq (hsurface : s.surface) : ∃ next, s.leaveSurface =
    { s.moveTo next with surface := false, worker := s.worker.map Task.cancel } :=
  ⟨_, leaveSurface_eq_lost hsurface⟩

theorem any_isRunning_of_isQuiet (hquiet : s.isQuiet) : s.worker.any Task.isRunning = false := by
  obtain ⟨stage, options, cell, handle, surface, worker⟩ := s
  rcases worker with _ | _ | _ | _
  · rfl
  · cases hquiet
  · rfl
  · rfl

theorem joinWorker_snd (hquiet : s.isQuiet) : s.joinWorker.2 = { s with worker := none } := by
  obtain ⟨stage, options, cell, handle, surface, worker⟩ := s
  rcases worker with _ | _ | _ | _
  · rfl
  · cases hquiet
  · rfl
  · rfl

theorem state_joinWorker (s : Session D S L) : s.joinWorker.2.state = s.state := by
  rw [joinWorker]
  split <;> rfl

theorem closeAndReset_eq (s : Session D S L) : s.closeAndReset = s.close.2.moveTo .idle := by
  have hreset : s.close.2.transition .reset = (.ok (), s.close.2.moveTo .idle) :=
    transition_of_ok rfl
  rw [closeAndReset, tryTransition, hreset]

theorem close_snd (s : Session D S L) :
    s.close.2 = { s with
      stage := (s.handle.map fun h => s.stage.release h.lease).getD s.stage, handle := none } := by
  obtain ⟨stage, options, cell, handle, surface, worker⟩ := s
  cases handle <;> rfl

theorem now_close (s : Session D S L) : s.close.2.stage.now = s.stage.now := by
  rw [close_snd]
  cases s.handle with
  | none => rfl
  | some handle => exact Stage.now_release _ _

/-- The last hold on the decoder is that of the session itself. -/
theorem held_close (h : s.stage.Held (s.handle.map Handle.lease).toList) :
    s.close.2.stage.Held [] := by
  rw [close_snd]
  cases hhandle : s.handle with
  | none => rwa [hhandle] at h
  | some handle =>
    rw [hhandle] at h
    exact h.release

@[simp] theorem options_closeAndReset (s : Session D S L) :
    s.closeAndReset.options = s.options := by
  rw [closeAndReset_eq, options_moveTo, close_snd]

@[simp] theorem handle_closeAndReset (s : Session D S L) : s.closeAndReset.handle = none := by
  rw [closeAndReset_eq, handle_moveTo, close_snd]

@[simp] theorem surface_closeAndReset (s : Session D S L) :
    s.closeAndReset.surface = s.surface := by
  rw [closeAndReset_eq, surface_moveTo, close_snd]

@[simp] theorem worker_closeAndReset (s : Session D S L) : s.closeAndReset.worker = s.worker := by
  rw [closeAndReset_eq, worker_moveTo, close_snd]

@[simp] theorem state_closeAndReset (s : Session D S L) : s.closeAndReset.state = .idle := by
  rw [closeAndReset_eq, state_moveTo]

@[simp] theorem now_closeAndReset (s : Session D S L) :
    s.closeAndReset.stage.now = s.stage.now := by
  rw [closeAndReset_eq, now_moveTo, now_close]

theorem held_closeAndReset (h : s.stage.Held (s.handle.map Handle.lease).toList) :
    s.closeAndReset.stage.Held [] := by
  rw [closeAndReset_eq]
  exact held_moveTo (held_close h) .idle

/-- There is nothing to close in a session that is as before its start. -/
theorem closeAndReset_of_idle (hhandle : s.handle = none) (hstate : s.state = .idle) :
    s.closeAndReset = s := by
  have hclose : s.close.2 = s := by rw [close, hhandle]
  rw [closeAndReset_eq, hclose, ← hstate, moveTo_self]

end Session

end AviPlayback
