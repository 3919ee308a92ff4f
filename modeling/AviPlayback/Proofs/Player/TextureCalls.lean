import AviPlayback.Proofs.Player.TextureWork

/-!
The calls of a texture player. Every call, and every step of the workers between them, keeps
`TexturePlayer.Sound`; a surface that goes away takes both workers with it, and a player that was
stopped is as before its start.
-/
set_option autoImplicit false

namespace AviPlayback

namespace TexturePlayer

variable {D S R : Type} {p q : TexturePlayer D S R}

/-- What holds of a texture player at every moment of its life. -/
structure Sound (p : TexturePlayer D S R) : Prop where
  held : p.stage.Held p.holds
  handle_of_surface : p.session.surface → p.session.handle.isSome
  handle_of_renderer : p.renderer.isSome → p.session.handle.isSome
  renderer_of_surface : p.session.surface → p.renderer = none
  drawing_isSome : p.drawing.isSome = p.session.surface
  worker_of_no_surface : p.session.surface = false → p.session.worker = none

theorem sound_new (sink : S) (options : PlayerOptions) :
    Sound (.new sink options : TexturePlayer D S R) :=
  ⟨.empty sink, nofun, nofun, nofun, rfl, fun _ => rfl⟩

theorem sound_setNow (h : Sound p) (t : Nat) : Sound (p.setStage { p.stage with now := t }) :=
  { h with held := h.held.congr rfl rfl }

theorem sound_mapDecoders (h : Sound p) (f : D → D) :
    Sound (p.setStage (p.stage.mapDecoders f)) :=
  { h with held := h.held.mapDecoders f }

theorem drawing_of_no_surface (h : Sound p) (hsurface : p.session.surface = false) :
    p.drawing = none := by
  have := h.drawing_isSome
  rwa [hsurface, Option.isSome_eq_false_iff, Option.isNone_iff_eq_none] at this

theorem surface_of_renderer (h : Sound p) {rig : Rig R} (hrenderer : p.renderer = some rig) :
    p.session.surface = false := by
  refine (Bool.not_eq_true _).mp fun hsurface => ?_
  rw [h.renderer_of_surface hsurface] at hrenderer
  cases hrenderer

theorem renderer_of_no_handle (h : Sound p) (hhandle : p.session.handle = none) :
    p.renderer = none := by
  have := h.handle_of_renderer
  rw [hhandle] at this
  simpa using this

theorem surface_of_no_handle (h : Sound p) (hhandle : p.session.handle = none) :
    p.session.surface = false := by
  have := h.handle_of_surface
  rw [hhandle] at this
  simpa using this

/-- Without a surface only the idle renderer and the session hold the decoder. -/
theorem holds_of_no_surface (h : Sound p) (hsurface : p.session.surface = false) :
    p.holds =
      (p.renderer.map Rig.lease).toList ++ (p.session.handle.map Handle.lease).toList := by
  rw [holds, drawing_of_no_surface h hsurface]
  rfl

/-- Without workers and without a renderer only the session holds the decoder. -/
theorem sound_of_bare (hrenderer : p.renderer = none) (hdrawing : p.drawing = none)
    {session : Session D S PaceLoop}
    (hheld : session.stage.Held (session.handle.map Handle.lease).toList)
    (hsurface : session.surface = false) (hworker : session.worker = none) :
    Sound { p with session } := by
  refine ⟨?_, fun hyes => ?_, fun hyes => ?_, fun _ => hrenderer, ?_, fun _ => hworker⟩
  · rw [holds, hdrawing, hrenderer]
    exact hheld
  · rw [hsurface] at hyes
    cases hyes
  · rw [hrenderer] at hyes
    cases hyes
  · rw [hdrawing, hsurface]
    rfl

/-- A player without a decoder and without a surface. -/
structure Closed (p : TexturePlayer D S R) : Prop where
  sound : Sound p
  handle : p.session.handle = none
  surface : p.session.surface = false

namespace Closed

variable (h : Closed p)

include h

theorem worker : p.session.worker = none := h.sound.worker_of_no_surface h.surface

theorem drawing : p.drawing = none := drawing_of_no_surface h.sound h.surface

theorem renderer : p.renderer = none := renderer_of_no_handle h.sound h.handle

theorem held : p.stage.Held [] := by
  have := h.sound.held
  rwa [holds_of_no_surface h.sound h.surface, h.renderer, h.handle] at this

end Closed

theorem closed_of_no_handle (h : Sound p) (hhandle : p.session.handle = none) : Closed p :=
  ⟨h, hhandle, surface_of_no_handle h hhandle⟩

/-! ### Letting the renderer go -/

/-- What a player without workers becomes when its renderer is let go. -/
structure Bared (p q : TexturePlayer D S R) : Prop where
  held : q.stage.Held (p.session.handle.map Handle.lease).toList
  handle : q.session.handle = p.session.handle
  surface : q.session.surface = p.session.surface
  worker : q.session.worker = p.session.worker
  state : q.session.state = p.session.state
  drawing : q.drawing = p.drawing
  renderer : q.renderer = none
  draws : p.stage.SameDraws q.stage

theorem bared_dropRenderer (h : Sound p) (hsurface : p.session.surface = false) :
    Bared p p.dropRenderer := by
  have hheld := h.held
  rw [holds_of_no_surface h hsurface] at hheld
  rw [dropRenderer]
  split
  · next rig hrenderer =>
    rw [hrenderer] at hheld
    exact ⟨hheld.release, rfl, rfl, rfl, rfl, rfl, rfl, .release _ _⟩
  · next hrenderer =>
    rw [hrenderer] at hheld
    exact ⟨hheld, rfl, rfl, rfl, rfl, rfl, hrenderer, .refl _⟩

theorem bared_freeRenderer (h : Sound p) (hsurface : p.session.surface = false) :
    Bared p p.freeRenderer := by
  have hheld := h.held
  rw [holds_of_no_surface h hsurface] at hheld
  rw [freeRenderer]
  split
  · next rig hrenderer =>
    rw [hrenderer] at hheld
    exact ⟨(hheld.record rfl).release, rfl, rfl, rfl, rfl, rfl, rfl,
      .trans (.record_aside _ rfl) (.release _ _)⟩
  · next hrenderer =>
    rw [hrenderer] at hheld
    exact ⟨hheld, rfl, rfl, rfl, rfl, rfl, hrenderer, .refl _⟩

theorem Bared.sound (h : Bared p q) (hp : Sound p) (hsurface : p.session.surface = false) :
    Sound q :=
  sound_of_bare h.renderer (h.drawing.trans (drawing_of_no_surface hp hsurface))
    (h.handle ▸ h.held) (h.surface.trans hsurface)
    (h.worker.trans (hp.worker_of_no_surface hsurface))

/-- When the session is closed, too, nothing is left. -/
theorem Bared.closed (h : Bared p q) (hp : Sound p) (hsurface : p.session.surface = false) :
    Closed { q with session := q.session.closeAndReset } := by
  have hclose : q.session.closeAndReset.surface = false := by
    rw [Session.surface_closeAndReset, h.surface, hsurface]
  have hworker : q.session.closeAndReset.worker = none := by
    rw [Session.worker_closeAndReset, h.worker, hp.worker_of_no_surface hsurface]
  have hheld : q.session.closeAndReset.stage.Held
      (q.session.closeAndReset.handle.map Handle.lease).toList := by
    rw [Session.handle_closeAndReset]
    exact Session.held_closeAndReset (h.handle ▸ h.held)
  exact ⟨sound_of_bare h.renderer (h.drawing.trans (drawing_of_no_surface hp hsurface)) hheld hclose
    hworker, Session.handle_closeAndReset _, hclose⟩

/-! ### The start -/

section

variable [VideoDecoder D] {source : String → Except PlayerFault D}
  {create : StreamInfo → Except PlayerFault R} {path : String} {d : D}

theorem start_of_ok {renderer : R} (hhandle : p.session.handle = none)
    (hrenderer : p.renderer = none) (hsource : source path = .ok d)
    (hcreate : create (VideoDecoder.info d) = .ok renderer) :
    p.start source create path = (.ok (), { p with
      session := { p.session with
        stage := ((p.stage.takeIn d).share p.stage.nextLease).record
          (.rendererCreated p.stage.nextLease)
        handle := some ⟨p.stage.nextLease, path⟩ }
      renderer := some ⟨p.stage.nextLease, renderer⟩ }) := by
  rw [start, Session.openDecoder_of_ok hhandle hsource]
  dsimp only
  rw [Session.info?_takeIn, Option.map_some, hcreate]
  simp only [dropRenderer, hrenderer]
  rfl

def opened (p : TexturePlayer D S R) (d : D) (path : String) : Session D S PaceLoop :=
  { p.session with stage := p.stage.takeIn d, handle := some ⟨p.stage.nextLease, path⟩ }

/-- A decoder for which no renderer can be made is closed again, unless that was a panic. -/
theorem start_of_create_error {fault : PlayerFault} (hhandle : p.session.handle = none)
    (hsource : source path = .ok d) (hcreate : create (VideoDecoder.info d) = .error fault) :
    p.start source create path = (.error fault, { p with
      session := if fault.isPanic then p.opened d path else (p.opened d path).close.2 }) := by
  rw [start, Session.openDecoder_of_ok hhandle hsource]
  dsimp only
  rw [Session.info?_takeIn, Option.map_some, hcreate]
  rfl

/-- A start is refused, fails to open a decoder, opens one with its renderer, or opens one for which
no renderer can be made. -/
theorem start_cases (h : Sound p) (source : String → Except PlayerFault D)
    (create : StreamInfo → Except PlayerFault R) (path : String) :
    (∃ r, p.start source create path = (r, p)) ∨ p.session.handle = none ∧
      ((∃ r, p.start source create path = (r, { p with session := p.session.record .openRefused })) ∨
        (∃ d renderer, source path = .ok d ∧ create (VideoDecoder.info d) = .ok renderer ∧
          p.start source create path = (.ok (), { p with
            session := { p.opened d path with
              stage := ((p.stage.takeIn d).share p.stage.nextLease).record
                (.rendererCreated p.stage.nextLease) }
            renderer := some ⟨p.stage.nextLease, renderer⟩ })) ∨
        (∃ r d, source path = .ok d ∧
          p.start source create path = (r, { p with session := p.opened d path })) ∨
        ∃ r d, source path = .ok d ∧
          p.start source create path = (r, { p with session := (p.opened d path).close.2 })) := by
  cases hhandle : p.session.handle with
  | some handle =>
    have hopen : p.session.handle.isSome := by rw [hhandle, Option.isSome_some]
    exact .inl ⟨_, by rw [start, Session.openDecoder_of_open hopen]⟩
  | none =>
    have hclosed := closed_of_no_handle h hhandle
    refine .inr ⟨rfl, ?_⟩
    cases hsource : source path with
    | error fault => exact .inl ⟨_, by rw [start, Session.openDecoder_of_error hhandle hsource]⟩
    | ok d =>
      refine .inr ?_
      cases hcreate : create (VideoDecoder.info d) with
      | ok renderer =>
        exact .inl ⟨d, renderer, rfl, hcreate,
          start_of_ok hhandle hclosed.renderer hsource hcreate⟩
      | error fault =>
        have hstart := start_of_create_error hhandle hsource hcreate
        cases hpanic : fault.isPanic with
        | true => exact .inr (.inl ⟨.error fault, d, rfl, by rw [hstart, hpanic, if_pos rfl]⟩)
        | false =>
          exact .inr (.inr ⟨.error fault, d, rfl,
            by rw [hstart, hpanic, if_neg Bool.false_ne_true]⟩)

theorem sound_start (h : Sound p) (source : String → Except PlayerFault D)
    (create : StreamInfo → Except PlayerFault R) (path : String) :
    Sound (p.start source create path).2 := by
  rcases start_cases h source create path with ⟨r, hstart⟩ | ⟨hhandle, ⟨r, hstart⟩ |
    ⟨d, renderer, _, _, hstart⟩ | ⟨r, d, _, hstart⟩ | ⟨r, d, _, hstart⟩⟩
  all_goals rw [hstart]
  · exact h
  · exact { h with held := h.held.record rfl }
  all_goals
    have hclosed := closed_of_no_handle h hhandle
    have hheld : (p.opened d path).stage.Held ((p.opened d path).handle.map Handle.lease).toList :=
      hclosed.held.takeIn d
  · refine ⟨?_, fun _ => rfl, fun _ => rfl, fun hyes => ?_, h.drawing_isSome,
      h.worker_of_no_surface⟩
    · rw [holds, hclosed.drawing]
      exact hheld.share.record rfl
    · exact absurd hyes (by simp [opened, hclosed.surface])
  · exact sound_of_bare hclosed.renderer hclosed.drawing hheld hclosed.surface hclosed.worker
  · have hclose := Session.held_close hheld
    rw [Session.close_snd] at hclose
    rw [Session.close_snd]
    exact sound_of_bare hclosed.renderer hclosed.drawing hclose hclosed.surface hclosed.worker

end

/-! ### The surface -/

/-- What a player becomes on a new surface, with a renderer that is prepared for it. -/
def onNewSurface (p : TexturePlayer D S R) (pacer : Pacer) (rig : Rig R) : TexturePlayer D S R :=
  let ready := { p.session.moveTo .surfaceReady with surface := true }
  { session := { ready.moveTo .rendering with worker := some (.running (.checking pacer 0) false) }
    renderer := none
    drawing := some (.running (.waiting rig []) false)
    turn := .pacing 0 }

/-- A renderer after it was prepared for a new surface. -/
def prepared (D S : Type) {R : Type} [FrameRenderer R D S] (rig : Rig R) : Rig R :=
  { rig with renderer := (FrameRenderer.initSurface D S rig.renderer).2 }

/-- A surface that appears is refused or ignored, or gets its workers, where no others are in their
loops. A refusal may change the idle renderer, or cost it. -/
theorem created_cases [VideoDecoder D] [FrameRenderer R D S]
    (hidle : p.renderer.isSome → p.session.worker.any Task.isRunning = false ∧
      p.drawing.any Task.isRunning = false) :
    (∃ r, p.created = (r, p)) ∨ ∃ rig, p.renderer = some rig ∧
      ((((∃ fault, p.session.pacer = .error fault) ∨
          ∃ fault, (FrameRenderer.initSurface D S rig.renderer).1 = .error fault) ∧
          ∃ r, p.created = (r, p.dropRenderer)) ∨
        (∃ r, p.created = (r, { p with renderer := some (prepared D S rig) })) ∨
        ∃ pacer, p.created = (.ok (), p.onNewSurface pacer (prepared D S rig))) := by
  cases hrenderer : p.renderer with
  | none => exact .inl ⟨.ok (), by rw [created, hrenderer]⟩
  | some rig =>
    refine .inr ⟨rig, rfl, ?_⟩
    cases hpacer : p.session.pacer with
    | error fault =>
      exact .inl ⟨.inl ⟨fault, rfl⟩, .error fault, by rw [created, hrenderer, hpacer]⟩
    | ok pacer =>
      rcases hinit : FrameRenderer.initSurface D S rig.renderer with ⟨fault | ⟨⟩, renderer⟩
      all_goals
        have hprepared : prepared D S rig = { rig with renderer } := by rw [prepared, hinit]
        rw [hprepared]
      · cases hpanic : fault.isPanic with
        | true =>
          exact .inl ⟨.inr ⟨fault, rfl⟩, .error fault, by
            simp [created, hrenderer, hpacer, hinit, hpanic]⟩
        | false =>
          refine .inr (.inl ⟨.error fault, ?_⟩)
          simp [created, hrenderer, hpacer, hinit, hpanic]
      · refine .inr ?_
        rcases p.session.beginSurface_cases with ⟨fault, hbegin⟩ | ⟨_, _, hstate, hbegin⟩
        · exact .inl ⟨.error fault, by simp only [created, hrenderer, hpacer, hinit, hbegin]⟩
        · obtain ⟨hworker, hdrawing⟩ := hidle (by rw [hrenderer, Option.isSome_some])
          have hbeginRendering := Session.beginRendering_eq
            (s := { p.session.moveTo .surfaceReady with surface := true }) rfl
            (p.session.state_moveTo .surfaceReady) (by simpa using hworker) (.checking pacer 0)
          refine .inr ⟨pacer, ?_⟩
          simp only [created, hrenderer, hpacer, hinit, hbegin, spawnWorkers, hbeginRendering,
            hdrawing]
          rfl

/-- An idle renderer is with a player whose workers are not in their loops. -/
theorem not_any_isRunning (h : Sound p) (hrenderer : p.renderer.isSome) :
    p.session.worker.any Task.isRunning = false ∧ p.drawing.any Task.isRunning = false := by
  obtain ⟨rig, hrig⟩ := Option.isSome_iff_exists.mp hrenderer
  have hsurface := surface_of_renderer h hrig
  rw [h.worker_of_no_surface hsurface, drawing_of_no_surface h hsurface]
  exact ⟨rfl, rfl⟩

/-- A renderer may be changed while it is idle. -/
theorem Sound.setRenderer (h : Sound p) {rig : Rig R} (hrenderer : p.renderer = some rig)
    (renderer : R) : Sound { p with renderer := some { rig with renderer } } := by
  have hsurface := surface_of_renderer h hrenderer
  have hheld := h.held
  rw [holds, hrenderer] at hheld
  refine ⟨hheld, h.handle_of_surface, fun _ => ?_, fun hyes => ?_, h.drawing_isSome,
    h.worker_of_no_surface⟩
  · exact h.handle_of_renderer (by rw [hrenderer, Option.isSome_some])
  · exact absurd hyes (by simp [hsurface])

theorem Sound.onNewSurface (h : Sound p) {rig : Rig R} (hrenderer : p.renderer = some rig)
    (pacer : Pacer) (renderer : R) : Sound (p.onNewSurface pacer { rig with renderer }) := by
  have hheld := h.held
  rw [holds_of_no_surface h (surface_of_renderer h hrenderer), hrenderer] at hheld
  have hholds : (p.onNewSurface pacer { rig with renderer }).holds =
      rig.lease :: (p.session.handle.map Handle.lease).toList := by
    simp [TexturePlayer.onNewSurface, holds, DrawLoop.holdsOf, DrawLoop.rig]
  have hsurface : (p.onNewSurface pacer { rig with renderer }).session.surface = true :=
    Session.surface_moveTo _ _
  refine ⟨?_, fun _ => ?_, fun hyes => ?_, fun _ => rfl, ?_, fun hno => ?_⟩
  · rw [hholds]
    exact Session.held_moveTo
      (s := { p.session.moveTo .surfaceReady with surface := true })
      (Session.held_moveTo hheld .surfaceReady) .rendering
  · simp only [TexturePlayer.onNewSurface, Session.handle_moveTo]
    exact h.handle_of_renderer (by rw [hrenderer, Option.isSome_some])
  · cases hyes
  · rw [hsurface]
    rfl
  · rw [hsurface] at hno
    cases hno

section

variable [FrameRenderer R D S]

theorem sound_created [VideoDecoder D] (h : Sound p) : Sound p.created.2 := by
  rcases created_cases (not_any_isRunning h) with
    ⟨r, hcreated⟩ | ⟨rig, hrenderer, ⟨_, r, hcreated⟩ |
    ⟨r, hcreated⟩ | ⟨pacer, hcreated⟩⟩
  all_goals rw [hcreated]
  · exact h
  · have hsurface := surface_of_renderer h hrenderer
    exact (bared_dropRenderer h hsurface).sound h hsurface
  · exact h.setRenderer hrenderer _
  · exact h.onNewSurface hrenderer pacer _

/-- Without a surface no worker can do a step. -/
theorem surface_of_workerStep (h : Sound p)
    (hstep : p.paceStep? = some q ∨ p.drawStep? = some q) : p.session.surface = true := by
  refine (Bool.not_eq_false _).mp fun hno => ?_
  rcases hstep with hpace | hdraw
  · obtain ⟨_, _, hworker, _⟩ := paceStepped_of_paceStep? hpace
    rw [h.worker_of_no_surface hno] at hworker
    cases hworker
  · obtain ⟨_, _, hdrawing, _⟩ := drawStepped_of_drawStep? hdraw
    rw [drawing_of_no_surface h hno] at hdrawing
    cases hdrawing

theorem sound_workerStep (h : Sound p) (hstep : p.paceStep? = some q ∨ p.drawStep? = some q) :
    Sound q := by
  have houtside := sameOutside_of_workerStep hstep
  have hsurface := surface_of_workerStep h hstep
  refine ⟨held_of_workerStep hstep h.held, ?_, ?_, ?_, ?_, fun hno => ?_⟩
  · rw [houtside.surface, houtside.handle]
    exact h.handle_of_surface
  · rw [houtside.renderer, houtside.handle]
    exact h.handle_of_renderer
  · rw [houtside.surface, houtside.renderer]
    exact h.renderer_of_surface
  · rw [houtside.drawing, houtside.surface]
    exact h.drawing_isSome
  · rw [houtside.surface, hsurface] at hno
    cases hno

theorem sound_step? (h : Sound p) (hstep : Clocked.step? p = some q) : Sound q := by
  obtain ⟨q', turn, rfl, hworker⟩ := exists_workerStep_of_step? hstep
  exact { sound_workerStep h hworker with }

/-- What is left of a player when its surface has gone away. -/
structure Ended (p q : TexturePlayer D S R) : Prop where
  sound : Sound q
  surface : q.session.surface = false
  handle : q.session.handle = p.session.handle
  options : q.session.options = p.session.options
  now : q.stage.now = p.stage.now
  draws : p.stageAfterDraw.SameDraws q.stage

omit [FrameRenderer R D S] in
/-- A drawing worker that has left its loop hands its renderer back, or has lost it. -/
theorem joinDrawing_eq (hquiet : p.drawing.all Task.isFinished) (hrenderer : p.renderer = none) :
    ∃ renderer, p.joinDrawing = { p with renderer, drawing := none } ∧
      (renderer.map Rig.lease).toList = DrawLoop.holdsOf p.drawing := by
  obtain ⟨session, renderer, drawing, turn⟩ := p
  obtain rfl : renderer = none := hrenderer
  rcases drawing with _ | _ | rig | _
  · exact ⟨none, rfl, rfl⟩
  · cases hquiet
  · exact ⟨some rig, rfl, rfl⟩
  · exact ⟨none, rfl, rfl⟩

/-- Without a surface there is nobody to wait for. -/
theorem destroyed_of_no_surface (h : Sound p) (hsurface : p.session.surface = false) :
    p.destroyed = (.ok (), p) := by
  have hworker := h.worker_of_no_surface hsurface
  have hdrawing := drawing_of_no_surface h hsurface
  have hstep : Clocked.step? p = none := by
    cases hstep : Clocked.step? p with
    | none => rfl
    | some q =>
      obtain ⟨_, _, _, hone⟩ := exists_workerStep_of_step? hstep
      rw [surface_of_workerStep h hone] at hsurface
      cases hsurface
  have hsettle := Clocked.settle_of_none hstep
  have hquiet : isQuiet (Clocked.settle p) := by
    rw [hsettle, isQuiet, Session.isQuiet, hworker, hdrawing]
    rfl
  simp [destroyed, hsurface, Clocked.await_of_done hquiet, hsettle, joinDrawing, hdrawing]

/-- What a player is whose surface has gone away, until its workers are joined. -/
structure Left (p q : TexturePlayer D S R) : Prop where
  pacing : Task.IsTold q.session.worker
  drawing : Task.IsTold q.drawing
  held : q.stage.Held q.holds
  surface : q.session.surface = false
  renderer : q.renderer = none
  handle : q.session.handle = p.session.handle
  options : q.session.options = p.session.options
  now : q.stage.now = p.stage.now
  draws : p.stageAfterDraw.SameDraws q.stageAfterDraw

theorem left_leaveSurface (h : Sound p) (hsurface : p.session.surface) : Left p p.leaveSurface := by
  obtain ⟨next, hnext⟩ := Session.leaveSurface_eq hsurface
  have hleave : p.leaveSurface = { p with
      session := { p.session.moveTo next with
        surface := false, worker := p.session.worker.map Task.cancel }
      drawing := p.drawing.map Task.cancel } := by
    rw [← hnext]
    exact if_pos hsurface
  refine ⟨?_, ?_, ?_, ?_, ?_, ?_, ?_, ?_, ?_⟩
  all_goals rw [hleave]
  · exact Task.isTold_map_cancel _
  · exact Task.isTold_map_cancel _
  · rw [holds, DrawLoop.holdsOf_map_cancel, Session.handle_moveTo]
    exact Session.held_moveTo h.held next
  · exact h.renderer_of_surface hsurface
  · exact Session.handle_moveTo _ _
  · exact Session.options_moveTo _ _
  · exact Session.now_moveTo _ _
  · exact sameDraws_of_inHand (.moveTo p.session next) (DrawLoop.inHand?_map_cancel _)

theorem Left.settle (h : Left p q) : Left p (Clocked.settle q) ∧ (Clocked.settle q).isQuiet := by
  obtain ⟨hsettling, hquiet⟩ := settling_settle h.pacing h.drawing
  have houtside := hsettling.outside
  refine ⟨⟨hsettling.pacing, hsettling.drawing, hsettling.held h.held,
    houtside.surface.trans h.surface, houtside.renderer.trans h.renderer,
    houtside.handle.trans h.handle, houtside.options.trans h.options, houtside.now.trans h.now,
    h.draws.trans hsettling.draws⟩, hquiet⟩

/-- A player whose workers are joined after its surface has gone away. -/
theorem Left.ended (h : Left p q) (hquiet : q.isQuiet) {renderer : Option (Rig R)}
    (hholds : (renderer.map Rig.lease).toList = DrawLoop.holdsOf q.drawing)
    (hhandle : renderer.isSome → p.session.handle.isSome) :
    Ended p { q with session := { q.session with worker := none }, renderer, drawing := none } := by
  have hheld := h.held
  rw [holds, ← hholds, h.renderer] at hheld
  exact {
    sound := ⟨hheld, fun hyes => absurd hyes (by simp [h.surface]),
      fun hyes => h.handle ▸ hhandle hyes, fun hyes => absurd hyes (by simp [h.surface]),
      h.surface.symm, fun _ => rfl⟩
    surface := h.surface
    handle := h.handle
    options := h.options
    now := h.now
    draws := by
      have hdraws := h.draws
      rwa [stageAfterDraw_of_isBetweenDraws (isBetweenDraws_of_isQuiet hquiet)] at hdraws }

/-- A surface that goes away takes its workers with it: both are told to stop, settle, and are
joined. -/
theorem destroyed_of_surface (h : Sound p) (hsurface : p.session.surface) :
    p.destroyed = ((Clocked.settle p.leaveSurface).session.joinWorker.1.map fun _ => (),
      { Clocked.settle p.leaveSurface with
        session := (Clocked.settle p.leaveSurface).session.joinWorker.2 }.joinDrawing) := by
  obtain ⟨_, hquiet⟩ := (left_leaveSurface h hsurface).settle
  rw [destroyed, if_pos hsurface, Clocked.await_of_done hquiet]

/-- A surface that goes away takes its workers with it, at once. -/
theorem ended_destroyed (h : Sound p) : Ended p p.destroyed.2 := by
  cases hsurface : p.session.surface with
  | false =>
    have hdone : p.stageAfterDraw = p.stage :=
      stageAfterDraw_of_isBetweenDraws (by rw [isBetweenDraws, drawing_of_no_surface h hsurface])
    rw [destroyed_of_no_surface h hsurface]
    exact ⟨h, hsurface, rfl, rfl, rfl, hdone ▸ .refl _⟩
  | true =>
    obtain ⟨hleft, hquiet⟩ := (left_leaveSurface h hsurface).settle
    obtain ⟨hpacingQuiet, hdrawingQuiet⟩ := Bool.and_eq_true_iff.mp hquiet
    obtain ⟨renderer, hjoined, hholds⟩ := joinDrawing_eq
      (p := { Clocked.settle p.leaveSurface with
        session := { (Clocked.settle p.leaveSurface).session with worker := none } })
      hdrawingQuiet hleft.renderer
    rw [destroyed_of_surface h hsurface, Session.joinWorker_snd hpacingQuiet]
    dsimp only
    rw [hjoined]
    exact hleft.ended hquiet hholds fun _ => h.handle_of_surface hsurface

theorem sound_destroyed (h : Sound p) : Sound p.destroyed.2 := (ended_destroyed h).sound

/-! ### The end -/

/-- What is left of a player that was stopped. -/
structure Stopped (p q : TexturePlayer D S R) : Prop where
  closed : Closed q
  state : q.session.state = .idle
  now : q.stage.now = p.stage.now
  draws : p.stageAfterDraw.SameDraws q.stage

/-- When the surface has gone away, the renderer is freed and the session closed. -/
theorem stop_snd (p : TexturePlayer D S R) : p.stop.2 = { p.destroyed.2.freeRenderer with
    session := p.destroyed.2.freeRenderer.session.closeAndReset } := rfl

theorem stopped_stop (h : Sound p) : Stopped p p.stop.2 := by
  have hended := ended_destroyed h
  have hfreed := bared_freeRenderer hended.sound hended.surface
  exact {
    closed := hfreed.closed hended.sound hended.surface
    state := Session.state_closeAndReset _
    now := (Session.now_closeAndReset _).trans (hfreed.draws.now.trans hended.now)
    draws := (hended.draws.trans hfreed.draws).trans (.closeAndReset _) }

/-- Stopping a player that was stopped does nothing. -/
theorem stop_of_closed (h : Closed p) (hstate : p.session.state = .idle) :
    p.stop = (.ok (), p) := by
  have hfree : p.freeRenderer = p := by rw [freeRenderer, h.renderer]
  rw [stop, destroyed_of_no_surface h.sound h.surface]
  dsimp only
  rw [hfree, Session.closeAndReset_of_idle h.handle hstate]

theorem closed_step? (h : Closed p) (hstep : Clocked.step? p = some q) : Closed q := by
  have houtside := sameOutside_of_step? hstep
  exact ⟨sound_step? h.sound hstep, houtside.handle.trans h.handle,
    houtside.surface.trans h.surface⟩

theorem closed_created [VideoDecoder D] (h : Closed p) : Closed p.created.2 := by
  rcases created_cases (not_any_isRunning h.sound) with ⟨r, hcreated⟩ | ⟨rig, hrenderer, _⟩
  · rwa [hcreated]
  · rw [h.renderer] at hrenderer
    cases hrenderer

theorem closed_destroyed (h : Closed p) : Closed p.destroyed.2 := by
  rwa [destroyed_of_no_surface h.sound h.surface]

def isWorking (p : TexturePlayer D S R) : Bool :=
  p.session.worker.any Task.isRunning || p.drawing.any Task.isRunning

omit [FrameRenderer R D S] in
theorem dropRenderer_spec (p : TexturePlayer D S R) :
    p.dropRenderer.session.worker = p.session.worker ∧ p.dropRenderer.drawing = p.drawing ∧
      p.stage.SameDraws p.dropRenderer.stage := by
  rw [dropRenderer]
  split
  · exact ⟨rfl, rfl, .release _ _⟩
  · exact ⟨rfl, rfl, .refl _⟩

omit [FrameRenderer R D S] in
theorem joinDrawing_spec (p : TexturePlayer D S R) :
    p.joinDrawing.session = p.session ∧
      (p.drawing.all Task.isFinished → p.joinDrawing.drawing = none) := by
  rw [joinDrawing]
  obtain ⟨session, renderer, drawing, turn⟩ := p
  rcases drawing with _ | _ | rig | _
  · exact ⟨rfl, fun _ => rfl⟩
  · exact ⟨rfl, nofun⟩
  · exact ⟨rfl, fun _ => rfl⟩
  · exact ⟨rfl, fun _ => rfl⟩

/-- A player that is dropped takes its workers with it, at once. -/
theorem abandon_spec (p : TexturePlayer D S R) :
    p.abandon.isWorking = false ∧ p.abandon.stage.now = p.stage.now ∧
      p.stageAfterDraw.SameDraws p.abandon.stage := by
  let told : TexturePlayer D S R := { p with
    session := { p.session.close.2 with worker := p.session.close.2.worker.map Task.cancel }
    drawing := p.drawing.map Task.cancel }
  obtain ⟨hworker, hdrawing, hdropped⟩ := dropRenderer_spec told
  obtain ⟨hsettling, hquiet⟩ := settling_settle (p := told.dropRenderer)
    (by rw [hworker]; exact Task.isTold_map_cancel _)
    (by rw [hdrawing]; exact Task.isTold_map_cancel _)
  obtain ⟨hpacingQuiet, hdrawingQuiet⟩ := Bool.and_eq_true_iff.mp hquiet
  obtain ⟨hsession, hjoined⟩ := joinDrawing_spec (Clocked.settle told.dropRenderer)
  obtain ⟨hworker', hdrawing', hbared⟩ :=
    dropRenderer_spec (Clocked.settle told.dropRenderer).joinDrawing
  have habandon : p.abandon = (Clocked.settle told.dropRenderer).joinDrawing.dropRenderer := rfl
  have hstage : (Clocked.settle told.dropRenderer).joinDrawing.stage =
      (Clocked.settle told.dropRenderer).stage := congrArg Session.stage hsession
  have htold : p.stage.SameDraws told.dropRenderer.stage :=
    .trans (.close p.session) hdropped
  rw [hstage] at hbared
  refine ⟨?_, ?_, ?_⟩
  · rw [habandon, isWorking, hworker', hdrawing', hsession, hjoined hdrawingQuiet,
      Session.any_isRunning_of_isQuiet hpacingQuiet]
    rfl
  · rw [habandon, hbared.now, hsettling.outside.now, htold.now]
  · have hdraws := hsettling.draws
    rw [stageAfterDraw_of_isBetweenDraws (isBetweenDraws_of_isQuiet hquiet)] at hdraws
    refine .trans (sameDraws_of_inHand htold ?_) (hdraws.trans hbared)
    rw [hdrawing]
    exact DrawLoop.inHand?_map_cancel _

end

end TexturePlayer

end AviPlayback
