import AviPlayback.Proofs.Player.Phases
import AviPlayback.Proofs.Player.Releases

/-!
A surface that appears. In software it is taken by the state alone: in every state but `rendering`
it begins a session, and while frames are being produced it is refused and changes nothing. Through
renderers it is the idle renderer that decides: a player whose renderer is on a surface passes over
another one, also when its stream has ended (`Player.created_by_state`).
-/
set_option autoImplicit false

namespace AviPlayback

namespace Session

variable {D S L : Type} {s : Session D S L}

/-- A decoder that is held has a pacer. -/
theorem exists_pacer [VideoDecoder D] {handle : Handle} (hhandle : s.handle = some handle)
    (hlt : handle.lease < s.stage.leases.length) : ∃ pacer, s.pacer = .ok pacer := by
  have hinfo : s.info? = some (VideoDecoder.info s.stage.leases[handle.lease].decoder) := by
    simp [info?, hhandle, Stage.info?, Stage.decoder?, hlt]
  exact ⟨_, by rw [pacer, hinfo]⟩

theorem beginSurface_of_rendering (hopen : s.isOpen) (hstate : s.state = .rendering) :
    s.beginSurface = (.error (.invalidState .surfaceWhileActive), s) := by
  rw [beginSurface, if_pos hopen, transition_of_error (by rw [hstate]; rfl)]

theorem beginSurface_of_inactive (hopen : s.isOpen) (hstate : s.state.isActive = false) :
    s.beginSurface = (.ok (), { s.moveTo .surfaceReady with surface := true }) := by
  have hready : Transition.surfaceReady s.state = (.ok (), .surfaceReady) := by
    cases hs : s.state with
    | surfaceReady | rendering =>
      rw [hs] at hstate
      cases hstate
    | idle | surfaceLost | streamEnded => rfl
  rw [beginSurface, if_pos hopen, transition_of_ok hready]

end Session

namespace PlaybackState

/-- A state in which no session is active. -/
theorem cases_of_not_isActive {s : PlaybackState} (h : s.isActive = false) :
    s = idle ∨ s = surfaceLost ∨ s = streamEnded := by
  cases s with
  | surfaceReady | rendering => cases h
  | idle | surfaceLost | streamEnded => simp

end PlaybackState

namespace BitmapPlayer

variable {D S : Type} {p q : BitmapPlayer D S}

/-- Frames are being produced, or no session is active. -/
theorem Phase.state_cases (h : Phase p) : p.state = .rendering ∨ p.state.isActive = false := by
  cases h with
  | away _ hstate => exact .inr hstate
  | playing _ hstate | panicked _ hstate => exact .inl hstate
  | ended _ hstate => exact .inr (by rw [hstate]; rfl)

section

variable [VideoDecoder D]

/-- A surface that appears now begins a session. -/
def Accepts (p : BitmapPlayer D S) : Prop :=
  p.state ≠ .rendering ∧ Session.state p.created.2 = .rendering

/-- A new surface with a new worker, whose pace is that of the open decoder. -/
structure BeginsLoop (p q : BitmapPlayer D S) : Prop where
  state : q.state = .rendering
  surface : q.surface
  worker : ∃ handle pacer, p.handle = some handle ∧ p.pacer = .ok pacer ∧
    q.worker = some (.running (.spawned handle.lease pacer) false)

theorem exists_open (h : Sound p) (hopen : p.isOpen) :
    ∃ handle pacer, p.handle = some handle ∧ p.pacer = .ok pacer := by
  obtain ⟨handle, hhandle⟩ := Option.isSome_iff_exists.mp hopen
  have hheld : handle.lease ∈ p.holds := by simp [holds, hhandle]
  obtain ⟨pacer, hpacer⟩ := Session.exists_pacer hhandle (h.held.lt hheld)
  exact ⟨handle, pacer, hhandle, hpacer⟩

theorem created_of_rendering (h : Sound p) (hopen : p.isOpen) (hstate : p.state = .rendering) :
    p.created = (.error (.invalidState .surfaceWhileActive), p) := by
  obtain ⟨handle, pacer, hhandle, hpacer⟩ := exists_open h hopen
  simp only [created, hhandle, hpacer, Session.beginSurface_of_rendering hopen hstate]

theorem created_of_inactive (h : Sound p) (hopen : p.isOpen) (hstate : p.state.isActive = false) :
    ∃ handle pacer, p.handle = some handle ∧ p.pacer = .ok pacer ∧
      p.created = (.ok (), p.onNewSurface handle pacer) := by
  obtain ⟨handle, pacer, hhandle, hpacer⟩ := exists_open h hopen
  have hworker : p.worker.any Task.isRunning = false := not_any_isRunning h fun heq => by
    rw [heq] at hstate
    cases hstate
  refine ⟨handle, pacer, hhandle, hpacer, ?_⟩
  simp only [created, hhandle, hpacer, Session.beginSurface_of_inactive hopen hstate]
  exact Session.beginRendering_eq (by rfl) (by exact p.state_moveTo .surfaceReady)
    (by simpa using hworker) _

theorem isOpen_of_accepts (h : p.Accepts) : p.isOpen := by
  refine (Bool.not_eq_false _).mp fun hno => ?_
  have hhandle : p.handle = none := by simpa [Session.isOpen] using hno
  have hsame : p.created.2 = p := by rw [created, hhandle]
  exact h.1 (hsame ▸ h.2)

/-- A surface that begins a session gets its worker. -/
theorem created_of_accepts (h : Sound p) (hphase : Phase p) (haccepts : p.Accepts) :
    ∃ handle pacer, p.handle = some handle ∧ p.pacer = .ok pacer ∧
      p.created = (.ok (), p.onNewSurface handle pacer) :=
  created_of_inactive h (isOpen_of_accepts haccepts) (hphase.state_cases.resolve_left haccepts.1)

/-- A surface that begins no session changes nothing. -/
theorem created_of_not_accepts (h : Sound p) (hno : ¬ p.Accepts) : p.created.2 = p := by
  rcases created_cases (not_any_isRunning h) with
    ⟨r, hcreated⟩ | ⟨handle, pacer, _, hstate, hcreated⟩
  · rw [hcreated]
  · refine absurd ⟨hstate, ?_⟩ hno
    rw [hcreated]
    exact Session.state_moveTo _ _

theorem beginsLoop_onNewSurface {handle : Handle} {pacer : Pacer} (hhandle : p.handle = some handle)
    (hpacer : p.pacer = .ok pacer) : BeginsLoop p (p.onNewSurface handle pacer) :=
  ⟨Session.state_moveTo _ _, Session.surface_moveTo _ _, handle, pacer, hhandle, hpacer, rfl⟩

end

end BitmapPlayer

namespace TexturePlayer

variable {D S R : Type} {p q : TexturePlayer D S R}

/-- No session is active where there is no surface; on a surface frames are being produced, or the
stream has ended. -/
theorem Phase.state_cases (h : Phase p) :
    p.session.surface = false ∧ p.session.state.isActive = false ∨ p.session.surface ∧
      (p.session.state = .rendering ∨ p.session.state = .streamEnded) := by
  cases h with
  | away hsurface hstate => exact .inl ⟨hsurface, hstate⟩
  | playing hsurface hstate => exact .inr ⟨hsurface, .inl hstate⟩
  | draining hsurface hstate | ending hsurface hstate | ended hsurface hstate =>
    exact .inr ⟨hsurface, .inr hstate⟩
  | panicked hsurface hstate => exact .inr ⟨hsurface, hstate⟩

section

variable [VideoDecoder D] [FrameRenderer R D S]

/-- A surface that appears now begins a session. -/
def Accepts (p : TexturePlayer D S R) : Prop :=
  p.session.state ≠ .rendering ∧ p.created.2.session.state = .rendering

/-- A new surface with two new workers, which have the renderer and the pace of the open decoder. -/
structure BeginsLoops (p q : TexturePlayer D S R) : Prop where
  state : q.session.state = .rendering
  surface : q.session.surface
  workers : ∃ rig pacer, p.renderer = some rig ∧ p.session.pacer = .ok pacer ∧
    q.session.worker = some (.running (.checking pacer 0) false) ∧
    q.drawing = some (.running (.waiting (prepared D S rig) []) false)

omit [FrameRenderer R D S] in
/-- The decoder of an idle renderer has a pacer. -/
theorem exists_pacer_of_renderer (h : Sound p) (hrenderer : p.renderer.isSome) :
    p.session.isOpen ∧ ∃ pacer, p.session.pacer = .ok pacer := by
  have hopen := h.handle_of_renderer hrenderer
  obtain ⟨handle, hhandle⟩ := Option.isSome_iff_exists.mp hopen
  have hheld : handle.lease ∈ p.holds := by simp [holds, hhandle]
  exact ⟨hopen, Session.exists_pacer hhandle (h.held.lt hheld)⟩

/-- A renderer that can be prepared begins the session. -/
theorem created_of_renderer (h : Sound p) (hphase : Phase p) {rig : Rig R}
    (hrenderer : p.renderer = some rig)
    (hinit : (FrameRenderer.initSurface D S rig.renderer).1 = .ok ()) :
    ∃ pacer, p.session.pacer = .ok pacer ∧
      p.created = (.ok (), p.onNewSurface pacer (prepared D S rig)) := by
  have hsurface := surface_of_renderer h hrenderer
  have hstate := hphase.not_isActive hsurface
  have hworker := h.worker_of_no_surface hsurface
  have hdrawing := drawing_of_no_surface h hsurface
  obtain ⟨hopen, pacer, hpacer⟩ := exists_pacer_of_renderer h (by rw [hrenderer, Option.isSome_some])
  have hbegin := Session.beginRendering_eq
    (s := { p.session.moveTo .surfaceReady with surface := true }) rfl
    (p.session.state_moveTo .surfaceReady) (by simp [hworker]) (.checking pacer 0)
  refine ⟨pacer, hpacer, ?_⟩
  rcases hprepare : FrameRenderer.initSurface D S rig.renderer with ⟨r, renderer⟩
  rw [hprepare] at hinit
  obtain rfl : r = .ok () := hinit
  simp only [created, hrenderer, hpacer, hprepare, Session.beginSurface_of_inactive hopen hstate,
    spawnWorkers, hbegin, hdrawing, prepared]
  rfl

/-- A surface that begins a session has got its renderer prepared. -/
theorem initSurface_of_accepts (h : Sound p) (haccepts : p.Accepts) {rig : Rig R}
    (hrenderer : p.renderer = some rig) :
    (FrameRenderer.initSurface D S rig.renderer).1 = .ok () := by
  obtain ⟨_, pacer, hpacer⟩ := exists_pacer_of_renderer h (by rw [hrenderer, Option.isSome_some])
  have hdrop := (bared_dropRenderer h (surface_of_renderer h hrenderer)).state
  rcases hprepare : FrameRenderer.initSurface D S rig.renderer with ⟨fault | ⟨⟩, renderer⟩
  · -- a refusal may cost the renderer, but leaves the state
    refine absurd haccepts.2 ?_
    simp only [created, hrenderer, hpacer, hprepare]
    split
    · rw [hdrop]
      exact haccepts.1
    · exact haccepts.1
  · rfl

/-- A surface that begins a session gets its workers. -/
theorem created_of_accepts (h : Sound p) (hphase : Phase p) (haccepts : p.Accepts) :
    ∃ rig pacer, p.renderer = some rig ∧ p.session.pacer = .ok pacer ∧
      p.created = (.ok (), p.onNewSurface pacer (prepared D S rig)) := by
  cases hrenderer : p.renderer with
  | none =>
    have hsame : p.created.2 = p := by rw [created, hrenderer]
    exact absurd (hsame ▸ haccepts.2) haccepts.1
  | some rig =>
    obtain ⟨pacer, hpacer, hcreated⟩ :=
      created_of_renderer h hphase hrenderer (initSurface_of_accepts h haccepts hrenderer)
    exact ⟨rig, pacer, rfl, hpacer, hcreated⟩

/-- A surface that begins no session changes the idle renderer at most. -/
theorem created_of_not_accepts (h : Sound p) (hphase : Phase p) (hno : ¬ p.Accepts) :
    p.created.2 = p ∨ ∃ rig, p.renderer = some rig ∧ (p.created.2 = p.dropRenderer ∨
      p.created.2 = { p with renderer := some (prepared D S rig) }) := by
  rcases created_cases (not_any_isRunning h) with
    ⟨r, hcreated⟩ | ⟨rig, hrenderer, ⟨_, r, hcreated⟩ |
    ⟨r, hcreated⟩ | ⟨pacer, hcreated⟩⟩
  · exact .inl (by rw [hcreated])
  · exact .inr ⟨rig, hrenderer, .inl (by rw [hcreated])⟩
  · exact .inr ⟨rig, hrenderer, .inr (by rw [hcreated])⟩
  · refine absurd ⟨fun hstate => ?_, ?_⟩ hno
    · have hinactive := hphase.not_isActive (surface_of_renderer h hrenderer)
      rw [hstate] at hinactive
      cases hinactive
    · rw [hcreated]
      exact Session.state_moveTo _ _

theorem beginsLoops_onNewSurface {rig : Rig R} {pacer : Pacer} (hrenderer : p.renderer = some rig)
    (hpacer : p.session.pacer = .ok pacer) :
    BeginsLoops p (p.onNewSurface pacer (prepared D S rig)) :=
  ⟨Session.state_moveTo _ _, Session.surface_moveTo _ _, rig, pacer, hrenderer, hpacer, rfl, rfl⟩

end

end TexturePlayer

namespace Player

variable {D S R : Type} [VideoDecoder D] [FrameReader D S] [FrameSink S] [FrameRenderer R D S]
  {decoders : D → Prop} {renderers : R → Prop} {sinks : S → Prop}

/-- What becomes of a surface that appears while a decoder is open. In software the state decides:
in the state `rendering` the surface is refused and nothing changes, and in every other one it
begins a session. Through renderers, of which the idle one can be prepared, a surface begins a
session where there is none yet; on another surface it is passed over without a fault and nothing
changes, while frames are being produced and after the stream has ended. -/
theorem created_by_state :
    (∀ p : BitmapPlayer D S, BitmapPlayer.Reached decoders sinks p → p.isOpen →
      (p.state = .idle ∨ p.state = .surfaceLost ∨ p.state = .streamEnded) ∧
          (∃ q, p.created = (.ok (), q) ∧ BitmapPlayer.BeginsLoop p q) ∨
        p.state = .rendering ∧ p.created = (.error (.invalidState .surfaceWhileActive), p)) ∧
    ∀ p : TexturePlayer D S R, p.Reached decoders renderers sinks → p.hasRenderer →
      (∀ rig ∈ p.renderer, (FrameRenderer.initSurface D S rig.renderer).1 = .ok ()) →
      p.session.surface = false ∧
          (p.session.state = .idle ∨ p.session.state = .surfaceLost ∨
            p.session.state = .streamEnded) ∧
          (∃ q, p.created = (.ok (), q) ∧ p.BeginsLoops q) ∨
        p.session.surface ∧ (p.session.state = .rendering ∨ p.session.state = .streamEnded) ∧
          p.created = (.ok (), p) := by
  constructor
  · intro p hreached hopen
    obtain ⟨hsound, hphase⟩ := hreached.phase
    rcases hphase.state_cases with hstate | hstate
    · exact .inr ⟨hstate, BitmapPlayer.created_of_rendering hsound hopen hstate⟩
    · obtain ⟨handle, pacer, hhandle, hpacer, hcreated⟩ :=
        BitmapPlayer.created_of_inactive hsound hopen hstate
      exact .inl ⟨PlaybackState.cases_of_not_isActive hstate, _, hcreated,
        BitmapPlayer.beginsLoop_onNewSurface hhandle hpacer⟩
  · intro p hreached hrenderer hinit
    obtain ⟨hsound, hphase⟩ := hreached.phase
    rcases hphase.state_cases with ⟨hsurface, hstate⟩ | ⟨hsurface, hstate⟩
    · have hidle : p.renderer.isSome := by
        simpa [TexturePlayer.hasRenderer, TexturePlayer.drawing_of_no_surface hsound hsurface]
          using hrenderer
      obtain ⟨rig, hrig⟩ := Option.isSome_iff_exists.mp hidle
      obtain ⟨pacer, hpacer, hcreated⟩ :=
        TexturePlayer.created_of_renderer hsound hphase hrig (hinit rig hrig)
      exact .inl ⟨hsurface, PlaybackState.cases_of_not_isActive hstate, _, hcreated,
        TexturePlayer.beginsLoops_onNewSurface hrig hpacer⟩
    · have hcreated : p.created = (.ok (), p) := by
        rw [TexturePlayer.created, hsound.renderer_of_surface hsurface]
      exact .inr ⟨hsurface, hstate, hcreated⟩

/-- A stream of one pixel: the first surface of a player of either kind begins a session. -/
theorem created_by_state_onePixel :
    let moves : List (Move ScriptedDecoder) := [.start (fun _ => .ok .onePixel) "clip"]
    ∃ (p : BitmapPlayer ScriptedDecoder ScriptedSink)
      (q : TexturePlayer ScriptedDecoder ScriptedSink TextureRenderer),
      moves.foldl after (new .bitmap ⟨[], [], false, 0⟩ ⟨25.0, none⟩) = bitmap p ∧
      moves.foldl after (new .gl ⟨[], [], false, 0⟩ ⟨25.0, none⟩) = texture q ∧
      p.isOpen ∧ q.hasRenderer ∧
      (∀ rig ∈ q.renderer,
        (FrameRenderer.initSurface ScriptedDecoder ScriptedSink rig.renderer).1 = .ok ()) ∧
      (∃ r, p.created = (.ok (), r) ∧ BitmapPlayer.BeginsLoop p r) ∧
      ∃ r, q.created = (.ok (), r) ∧ q.BeginsLoops r := by
  intro moves
  have hlife : ∀ mode, Reached (fun _ => True) (fun _ => True)
      (moves.foldl after (new mode (⟨[], [], false, 0⟩ : ScriptedSink) ⟨25.0, none⟩)) := fun mode =>
    reached_run mode trivial _ fun m hm => by
      obtain rfl := List.mem_singleton.mp hm
      exact fun _ _ _ => trivial
  obtain ⟨hbitmap, htexture⟩ := @created_by_state ScriptedDecoder ScriptedSink TextureRenderer
    _ _ _ _ (fun _ => True) (fun _ => True) fun _ => True
  refine ⟨_, _, rfl, rfl, rfl, rfl, ?_, ?_, ?_⟩
  · rintro _ ⟨⟩
    rfl
  · rcases hbitmap _ (hlife .bitmap) rfl with ⟨_, hbegins⟩ | ⟨hstate, _⟩
    · exact hbegins
    · cases hstate
  · rcases htexture _ (hlife .gl) rfl (by rintro _ ⟨⟩; rfl) with ⟨_, _, hbegins⟩ | ⟨hsurface, _⟩
    · exact hbegins
    · cases hsurface

/-- Through renderers a second surface is passed over where it should be refused, while frames are
being produced, and where it should begin a session, when the stream has ended. -/
theorem created_passed_over :
    let begun : List (Move ScriptedDecoder) :=
      [.start (fun _ => .ok .onePixel) "clip", .surface .created]
    ∃ p q : TexturePlayer ScriptedDecoder ScriptedSink TextureRenderer,
      begun.foldl after (new .gl ⟨[], [], false, 0⟩ ⟨25.0, some 1⟩) = texture p ∧
      (begun ++ List.replicate 7 Move.work).foldl after (new .gl ⟨[], [], false, 0⟩ ⟨25.0, some 1⟩) =
        texture q ∧
      p.session.state = .rendering ∧ p.created = (.ok (), p) ∧
      q.session.state = .streamEnded ∧ q.hasRenderer ∧ q.created = (.ok (), q) :=
  ⟨_, _, rfl, rfl, rfl, rfl, rfl, rfl, rfl⟩

end Player

end AviPlayback
