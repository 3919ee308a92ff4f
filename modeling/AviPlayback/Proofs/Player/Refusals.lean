import AviPlayback.Proofs.Playback.SinkMap
import AviPlayback.Proofs.Player.Releases
import AviPlayback.Proofs.Player.TextureSteps

/-!
Pictures that a surface refuses. The workers of both kinds of players pass over what a surface
answers to a picture, unless it is a panic: two runs whose surfaces differ only in the pictures
they refuse are the same run but for the surface (`Player.refusals_leave_no_trace`). A map between
such surfaces goes through every step and every call, and two related surfaces are the two images
of their pair.
-/
set_option autoImplicit false

namespace AviPlayback

section

variable {D S T : Type} [FrameReader D S] [FrameReader D T] [FrameSink S] [FrameSink T] {f : S → T}

theorem Blit.refresh_mapSink (hf : KeepsSinks D f) (b : Blit) (stage : Stage D S) :
    b.refresh (stage.mapSink f) = (b.refresh stage).map id (Prod.map id (Stage.mapSink f)) := by
  rw [refresh, refresh, Stage.decoder?_mapSink]
  cases stage.decoder? b.lease with
  | none => rfl
  | some d =>
    have hsame : b.blitter.renderFrame (f stage.sink) d b.picture =
        b.blitter.renderFrame stage.sink d b.picture := by
      rw [Blitter.renderFrame, Blitter.renderFrame, hf.fetch rfl]
    simp [hsame]

end

namespace BitmapPlayer

variable {D S T : Type} {f : S → T}

theorem leaveLoop_mapSink (p : BitmapPlayer D S) (lease : Nat) (event : TaskEvent) :
    leaveLoop (p.mapSink f) lease event = (leaveLoop p lease event).mapSink f := by
  simp [leaveLoop, Session.mapSink, Session.leave]

theorem endLoop_mapSink (p : BitmapPlayer D S) (lease : Nat) :
    endLoop (p.mapSink f) lease = (endLoop p lease).mapSink f := by
  rw [endLoop, endLoop, Session.tryTransition_mapSink, leaveLoop_mapSink]

theorem panicLoop_mapSink (p : BitmapPlayer D S) (lease : Nat) :
    panicLoop (p.mapSink f) lease = (panicLoop p lease).mapSink f := by
  simp [panicLoop, Session.mapSink, Session.panic]

theorem startLoop_mapSink [VideoDecoder D] (p : BitmapPlayer D S) (lease : Nat) (pacer : Pacer)
    (cancelled : Bool) :
    startLoop (p.mapSink f) lease pacer cancelled =
      (startLoop p lease pacer cancelled).mapSink f := by
  rw [startLoop, startLoop,
    show (p.mapSink f).stage.info? lease = p.stage.info? lease from rfl]
  cases p.stage.info? lease with
  | none => exact endLoop_mapSink p lease
  | some info =>
    dsimp only
    rcases PixelBuffer.tryNew info.width info.height with fault | picture
    · cases fault with
      | unallocatable => exact panicLoop_mapSink p lease
      | _ => exact endLoop_mapSink p lease
    · cases Blitter.ofInfo info with
      | error fault => exact panicLoop_mapSink p lease
      | ok blitter => rfl

variable [FrameReader D S] [FrameReader D T] [FrameSink S] [FrameSink T]

theorem showPicture_mapSink (hf : KeepsSinks D f) (p : BitmapPlayer D S) (b : Blit)
    (cancelled : Bool) :
    showPicture (p.mapSink f) b cancelled = (showPicture p b cancelled).mapSink f := by
  obtain ⟨hstage, hpanics⟩ := Stage.present_mapSink hf p.stage b.picture
  rw [showPicture, showPicture, Session.mapSink_stage]
  generalize (p.stage.mapSink f).present b.picture = answer' at hstage hpanics ⊢
  generalize p.stage.present b.picture = answer at hstage hpanics ⊢
  obtain ⟨shown', stage'⟩ := answer'
  obtain ⟨shown, stage⟩ := answer
  obtain rfl : stage' = stage.mapSink f := hstage
  dsimp only at hpanics ⊢
  by_cases hpanic : shown = .panicked
  · rw [if_pos hpanic, if_pos (hpanics.mpr hpanic)]
    exact panicLoop_mapSink { p with stage } b.lease
  · rw [if_neg hpanic, if_neg (mt hpanics.mp hpanic)]
    cases hlimit : p.options.limitReached (b.frames + 1) with
    | true =>
      rw [Session.mapSink_options, hlimit]
      exact endLoop_mapSink { p with stage } b.lease
    | false =>
      rw [Session.mapSink_options, hlimit]
      rfl

theorem tick_mapSink (hf : KeepsSinks D f) (p : BitmapPlayer D S) (b : Blit) (cancelled : Bool) :
    tick (p.mapSink f) b cancelled = (tick p b cancelled).mapSink f := by
  rw [tick, tick, Session.mapSink_stage, Blit.refresh_mapSink hf]
  obtain ⟨_ | _, read, stage⟩ := b.refresh p.stage
  · exact showPicture_mapSink hf { p with stage } read cancelled
  · exact panicLoop_mapSink { p with stage } read.lease

variable [VideoDecoder D]

theorem step?_mapSink (hf : KeepsSinks D f) (p : BitmapPlayer D S) :
    step? (p.mapSink f) = (step? p).map (Session.mapSink f) := by
  rw [step?, step?, Session.mapSink_worker]
  rcases p.worker with _ | ⟨loop, cancelled⟩ | _ | _
  case some.running =>
    cases loop with
    | spawned lease pacer => exact congrArg some (startLoop_mapSink p lease pacer cancelled)
    | checking b =>
      cases cancelled with
      | true => exact congrArg some (leaveLoop_mapSink p b.lease .cancelled)
      | false => rfl
    | drawing b => exact congrArg some (tick_mapSink hf p b cancelled)
    | pausing b due =>
      cases cancelled with
      | true => exact congrArg some (leaveLoop_mapSink p b.lease .cancelled)
      | false =>
        by_cases hdue : due ≤ p.stage.now <;> simp [hdue]
  all_goals rfl

theorem respects_mapSink (hf : KeepsSinks D f) :
    Clocked.Respects (Session.mapSink f : BitmapPlayer D S → BitmapPlayer D T) where
  now_map _ := rfl
  setNow_map _ _ := rfl
  step?_map := step?_mapSink hf
  wake?_map _ := rfl
  patience_map _ := rfl

omit [FrameReader D S] [FrameReader D T] [FrameSink S] [FrameSink T] in
theorem created_mapSink (p : BitmapPlayer D S) :
    created (p.mapSink f) = (created p).map id (Session.mapSink f) := by
  rw [created, created, Session.mapSink_handle, Session.pacer_mapSink, Session.beginSurface_mapSink]
  cases p.handle with
  | none => rfl
  | some handle =>
    cases p.pacer with
    | error fault => rfl
    | ok pacer =>
      obtain ⟨_ | _, begun⟩ := p.beginSurface
      · rfl
      · exact Session.beginRendering_mapSink f
          { begun with stage := begun.stage.share handle.lease } (.spawned handle.lease pacer)

theorem destroyed_mapSink (hf : KeepsSinks D f) (p : BitmapPlayer D S) :
    destroyed (p.mapSink f) = (destroyed p).map id (Session.mapSink f) := by
  simp [destroyed, Session.endSurface_mapSink f (respects_mapSink hf)]

end BitmapPlayer

/-! ### Renderers -/

def Drawing.mapSink {R D S T : Type} (f : S → T) (d : Drawing R D S) : Drawing R D T :=
  ⟨d.outcome, d.renderer, d.decoder, f d.sink, d.pictures⟩

/-- A map between surfaces that renderers do not notice. -/
structure KeepsDraws (R D : Type) {S T : Type} [FrameRenderer R D S] [FrameRenderer R D T]
    (f : S → T) : Prop where
  initSurface : ∀ r : R, FrameRenderer.initSurface D T r = FrameRenderer.initSurface D S r
  draw : ∀ (r : R) (d : D) (s : S),
    FrameRenderer.draw r d (f s) = (FrameRenderer.draw r d s).mapSink f

namespace TextureRenderer

variable {D S T : Type} [FrameSink S] [FrameSink T] [FrameReader D S] [FrameReader D T] {f : S → T}
  (hf : KeepsSinks D f)

include hf

theorem drawTexture_mapSink (r : TextureRenderer) (texture : Texture) (d : D) (s : S) :
    r.drawTexture texture d (f s) = (r.drawTexture texture d s).mapSink f := by
  have hsink : ∀ picture, (FrameSink.present (f s) picture).2 = f (FrameSink.present s picture).2 :=
    hf.presented rfl
  have hpanics := hf.panics (s := s) rfl
  rw [drawTexture, drawTexture]
  rcases texture.draw r.target with ⟨_ | _, target⟩
  · rfl
  · simp [Drawing.mapSink, hsink, hpanics]

theorem drawPayload_mapSink (r : TextureRenderer) (payload : Bytes) (d : D) (s : S) :
    r.drawPayload payload d (f s) = (r.drawPayload payload d s).mapSink f := by
  rw [drawPayload, drawPayload]
  cases r.texture with
  | none => rfl
  | some texture =>
    dsimp only
    split
    · rfl
    · split
      · rfl
      · exact drawTexture_mapSink hf _ _ d s

theorem keepsDraws : KeepsDraws TextureRenderer D f where
  initSurface _ := rfl
  draw r d s := by
    change TextureRenderer.draw r d (f s) = (TextureRenderer.draw r d s).mapSink f
    rw [draw, draw, hf.fetch rfl]
    rcases FrameReader.fetch s d r.buffer.size with ⟨_ | payload | _, read⟩
    · rfl
    · exact drawPayload_mapSink hf r payload read s
    · rfl

end TextureRenderer

theorem Stage.draw_mapSink {R D S T : Type} [FrameRenderer R D S] [FrameRenderer R D T] {f : S → T}
    (hf : KeepsDraws R D f) (s : Stage D S) (lease : Nat) (r : R) :
    (s.mapSink f).draw lease r = (s.draw lease r).map id (Prod.map id (mapSink f)) := by
  rw [draw, draw, decoder?_mapSink, mapSink_sink]
  cases s.decoder? lease with
  | none => rfl
  | some d =>
    simp only [hf.draw, Drawing.mapSink, foldl_presented]
    rfl

namespace TexturePlayer

variable {D S T R : Type} (f : S → T)

def mapSink (p : TexturePlayer D S R) : TexturePlayer D T R :=
  ⟨p.session.mapSink f, p.renderer, p.drawing, p.turn⟩

@[simp] theorem mapSink_session (p : TexturePlayer D S R) :
    (p.mapSink f).session = p.session.mapSink f := rfl

@[simp] theorem mapSink_stage (p : TexturePlayer D S R) :
    (p.mapSink f).stage = p.stage.mapSink f := rfl

@[simp] theorem mapSink_renderer (p : TexturePlayer D S R) :
    (p.mapSink f).renderer = p.renderer := rfl

@[simp] theorem mapSink_drawing (p : TexturePlayer D S R) : (p.mapSink f).drawing = p.drawing := rfl

variable {f}

theorem isQuiet_mapSink (p : TexturePlayer D S R) : (p.mapSink f).isQuiet = p.isQuiet := rfl

theorem tryTransition_mapSink (p : TexturePlayer D S R) (move : Transition) :
    (p.mapSink f).tryTransition move = (p.tryTransition move).mapSink f := by
  simp [tryTransition, mapSink]

theorem request_mapSink (p : TexturePlayer D S R) (pacer : Pacer) (seq : Nat) (cancelled : Bool) :
    (p.mapSink f).request pacer seq cancelled = (p.request pacer seq cancelled).mapSink f := by
  rw [request, request, mapSink_drawing]
  rcases p.drawing with _ | _ | _ | _ <;> rfl

theorem paceStep?_mapSink (p : TexturePlayer D S R) :
    (p.mapSink f).paceStep? = p.paceStep?.map (mapSink f) := by
  rw [paceStep?, paceStep?, mapSink_session, Session.mapSink_worker]
  rcases p.session.worker with _ | ⟨loop, cancelled⟩ | _ | _
  case some.running =>
    cases loop with
    | checking pacer seq => cases cancelled <;> rfl
    | sending pacer seq => exact congrArg some (request_mapSink p pacer seq cancelled)
    | sent pacer seq =>
      cases hlimit : p.session.options.limitReached seq with
      | true => simp [hlimit, tryTransition_mapSink]; rfl
      | false => simp [hlimit]; rfl
    | pausing pacer seq due =>
      cases cancelled with
      | true => rfl
      | false =>
        by_cases hdue : due ≤ p.stage.now
        · simp [hdue]
          rfl
        · simp [hdue]
  all_goals rfl

theorem dropRenderer_mapSink (p : TexturePlayer D S R) :
    (p.mapSink f).dropRenderer = p.dropRenderer.mapSink f := by
  rw [dropRenderer, dropRenderer, mapSink_renderer]
  cases p.renderer with
  | none => rfl
  | some rig =>
    dsimp only
    rw [mapSink_stage, Stage.release_mapSink]
    rfl

theorem freeRenderer_mapSink (p : TexturePlayer D S R) :
    (p.mapSink f).freeRenderer = p.freeRenderer.mapSink f := by
  rw [freeRenderer, freeRenderer, mapSink_renderer]
  cases p.renderer with
  | none => rfl
  | some rig =>
    dsimp only
    rw [mapSink_stage, Stage.record_mapSink, Stage.release_mapSink]
    rfl

theorem joinDrawing_mapSink (p : TexturePlayer D S R) :
    (p.mapSink f).joinDrawing = p.joinDrawing.mapSink f := by
  rw [joinDrawing, joinDrawing, mapSink_drawing]
  rcases p.drawing with _ | _ | _ | _ <;> rfl

theorem leaveSurface_mapSink (p : TexturePlayer D S R) :
    (p.mapSink f).leaveSurface = p.leaveSurface.mapSink f := by
  rw [leaveSurface, leaveSurface, mapSink_session, Session.mapSink_surface,
    Session.leaveSurface_mapSink]
  cases p.session.surface <;> rfl

theorem spawnWorkers_mapSink (p : TexturePlayer D S R) (pacer : Pacer) (rig : Rig R) :
    (p.mapSink f).spawnWorkers pacer rig = (p.spawnWorkers pacer rig).map id (mapSink f) := by
  rw [spawnWorkers, spawnWorkers, mapSink_session, Session.beginRendering_mapSink, mapSink_drawing]
  obtain ⟨fault | _, session⟩ := p.session.beginRendering (.checking pacer 0)
  · exact congrArg (Prod.mk _) (dropRenderer_mapSink { p with session })
  · cases p.drawing.any Task.isRunning <;> rfl

theorem start_mapSink [VideoDecoder D] (p : TexturePlayer D S R)
    (source : String → Except PlayerFault D) (create : StreamInfo → Except PlayerFault R)
    (path : String) :
    (p.mapSink f).start source create path = (p.start source create path).map id (mapSink f) := by
  rw [start, start, mapSink_session, Session.openDecoder_mapSink]
  obtain ⟨fault | handle, session⟩ := p.session.openDecoder source path
  · rfl
  · dsimp only [Prod.map_apply, id]
    rw [show (session.mapSink f).info? = session.info? from rfl]
    rcases session.info?.map create with _ | fault | renderer
    · rfl
    · cases hpanic : fault.isPanic <;> simp [hpanic] <;> rfl
    · let stage := (session.stage.share handle.lease).record (.rendererCreated handle.lease)
      exact congrArg (fun q : TexturePlayer D T R =>
          (Except.ok (), { q with renderer := some ⟨handle.lease, renderer⟩ }))
        (dropRenderer_mapSink { p with session := { session with stage } })

variable [FrameRenderer R D S] [FrameRenderer R D T] (hf : KeepsDraws R D f)

include hf

theorem answer_mapSink (p : TexturePlayer D S R) (rig : Rig R) (seq : Nat) (queue : List Nat)
    (cancelled : Bool) :
    (p.mapSink f).answer rig seq queue cancelled = (p.answer rig seq queue cancelled).mapSink f := by
  rw [answer, answer, mapSink_stage, Stage.record_mapSink, Stage.draw_mapSink hf]
  obtain ⟨outcome, renderer, stage⟩ := (p.stage.record (.drawn seq)).draw rig.lease rig.renderer
  cases outcome with
  | more => rfl
  | ended =>
    exact congrArg (fun q => q.setDrawing (.ending { rig with renderer }) cancelled)
      (tryTransition_mapSink (p.setStage stage) .streamEnded)
  | panicked =>
    exact congrArg (fun left => { (p.mapSink f).setStage left with drawing := some .panicked })
      (Stage.release_mapSink f stage rig.lease)

theorem drawStep?_mapSink (p : TexturePlayer D S R) :
    (p.mapSink f).drawStep? = p.drawStep?.map (mapSink f) := by
  rw [drawStep?, drawStep?, mapSink_drawing]
  rcases p.drawing with _ | ⟨loop, cancelled⟩ | _ | _
  case some.running =>
    cases loop with
    | waiting rig queue =>
      cases cancelled with
      | true => rfl
      | false =>
        cases queue with
        | cons seq queue => rfl
        | nil =>
          rw [show (p.mapSink f).pacing = p.pacing from rfl]
          cases p.pacing <;> rfl
    | drawing rig seq queue => exact congrArg some (answer_mapSink hf p rig seq queue cancelled)
    | ending rig => rfl
  all_goals rfl

omit [FrameRenderer R D S] [FrameRenderer R D T] hf in
theorem paceTurn?_mapSink (p : TexturePlayer D S R) (waits : Nat) :
    (p.mapSink f).paceTurn? waits = (p.paceTurn? waits).map (mapSink f) := by
  rw [paceTurn?, paceTurn?, paceStep?_mapSink, show (p.mapSink f).atPause = p.atPause from rfl]
  split
  · rfl
  · simp only [Option.map_map]
    rfl

theorem drawTurn?_mapSink (p : TexturePlayer D S R) (waits : Nat) :
    (p.mapSink f).drawTurn? waits = (p.drawTurn? waits).map (mapSink f) := by
  rw [drawTurn?, drawTurn?, drawStep?_mapSink hf, show (p.mapSink f).atQueue = p.atQueue from rfl]
  split
  · rfl
  · simp only [Option.map_map]
    rfl

theorem step?_mapSink (p : TexturePlayer D S R) :
    (p.mapSink f).step? = p.step?.map (mapSink f) := by
  rw [step?, step?, show (p.mapSink f).turn = p.turn from rfl]
  cases p.turn <;> simp only [paceTurn?_mapSink, drawTurn?_mapSink hf, Option.map_or]

theorem respects_mapSink :
    Clocked.Respects (mapSink f : TexturePlayer D S R → TexturePlayer D T R) where
  now_map _ := rfl
  setNow_map _ _ := rfl
  step?_map := step?_mapSink hf
  wake?_map _ := rfl
  patience_map _ := rfl

theorem created_mapSink [VideoDecoder D] (p : TexturePlayer D S R) :
    (p.mapSink f).created = p.created.map id (mapSink f) := by
  rw [created, created, mapSink_renderer, mapSink_session, Session.pacer_mapSink]
  cases p.renderer with
  | none => rfl
  | some rig =>
    cases p.session.pacer with
    | error fault => exact congrArg (Prod.mk _) (dropRenderer_mapSink p)
    | ok pacer =>
      dsimp only
      rw [hf.initSurface]
      obtain ⟨fault | _, renderer⟩ := FrameRenderer.initSurface D S rig.renderer
      · cases hpanic : fault.isPanic with
        | true => simp [hpanic, dropRenderer_mapSink]
        | false => simp [hpanic]; rfl
      · dsimp only
        rw [Session.beginSurface_mapSink]
        obtain ⟨fault | _, session⟩ := p.session.beginSurface
        · rfl
        · exact spawnWorkers_mapSink { p with renderer := some { rig with renderer }, session } pacer _

theorem destroyed_mapSink (p : TexturePlayer D S R) :
    (p.mapSink f).destroyed = p.destroyed.map id (mapSink f) := by
  have hawait := (respects_mapSink hf).await isQuiet_mapSink 1
  rw [destroyed, destroyed, mapSink_session, Session.mapSink_surface, leaveSurface_mapSink, hawait,
    hawait, joinDrawing_mapSink]
  cases p.session.surface with
  | false => rfl
  | true =>
    let q := Clocked.await isQuiet 1 p.leaveSurface
    have hjoined := joinDrawing_mapSink (f := f) { q with session := q.session.joinWorker.2 }
    dsimp only [mapSink_session]
    rw [Session.joinWorker_mapSink]
    exact congrArg (Prod.mk _) hjoined

theorem stop_mapSink (p : TexturePlayer D S R) :
    (p.mapSink f).stop = p.stop.map id (mapSink f) := by
  rw [stop, stop, destroyed_mapSink hf]
  obtain ⟨joined, q⟩ := p.destroyed
  dsimp only [Prod.map_apply, id]
  rw [freeRenderer_mapSink, mapSink_session, Session.closeAndReset_mapSink]
  rfl

end TexturePlayer

/-! ### Players of either kind -/

namespace Player

variable {D S T : Type}

def mapSink (f : S → T) : Player D S → Player D T
  | bitmap p => bitmap (Session.mapSink f p)
  | texture p => texture (p.mapSink f)

/-- A player without its surface: all that is left when it is not known which surface it has. -/
def withoutSink (p : Player D S) : Player D Unit := p.mapSink fun _ => ()

def setTurn (turn : Turn) : Player D S → Player D S
  | bitmap p => bitmap p
  | texture p => texture { p with turn }

/-- What a run is made of. -/
inductive Action (D : Type)
  | move (m : Move D)
  /-- A worker is chosen that goes on first. -/
  | turn (t : Turn)
  /-- The clock is set while the workers rest. -/
  | pass (t : Nat)

section

variable [VideoDecoder D] [FrameReader D S] [FrameSink S]

def act (p : Player D S) : Action D → Player D S
  | .move m => p.after m
  | .turn t => p.setTurn t
  | .pass t => Clocked.setNow p t

/-- The answer to an action that is a call. -/
def answer? (p : Player D S) : Action D → Option (Except PlayerFault Unit)
  | .move (.start source path) => some (p.start source path).1
  | .move (.surface event) => some (p.onSurface event).1
  | .move .stop => some p.stop.1
  | _ => none

def answers (p : Player D S) : List (Action D) → List (Except PlayerFault Unit)
  | [] => []
  | a :: rest => (p.answer? a).toList ++ (p.act a).answers rest

end

theorem withoutSink_mapSink (f : S → T) (p : Player D S) :
    (p.mapSink f).withoutSink = p.withoutSink := by
  cases p <;> rfl

theorem cell_mapSink (f : S → T) (p : Player D S) : (p.mapSink f).cell = p.cell := by
  cases p <;> rfl

theorem stage_mapSink (f : S → T) (p : Player D S) :
    (p.mapSink f).stage = p.stage.mapSink f := by
  cases p <;> rfl

theorem new_mapSink (f : S → T) (mode : RenderMode) (sink : S) (options : PlayerOptions) :
    (new mode sink options : Player D S).mapSink f = new mode (f sink) options := by
  cases mode <;> rfl

variable [VideoDecoder D] [FrameReader D S] [FrameReader D T] [FrameSink S] [FrameSink T] {f : S → T}

omit [FrameReader D S] [FrameReader D T] [FrameSink S] [FrameSink T] in
theorem start_mapSink (p : Player D S) (source : String → Except PlayerFault D) (path : String) :
    (p.mapSink f).start source path = (p.start source path).map id (mapSink f) := by
  cases p with
  | bitmap p =>
    rw [mapSink, start, start, BitmapPlayer.start, Session.openDecoder_mapSink]
    rfl
  | texture p =>
    rw [mapSink, start, start, TexturePlayer.start_mapSink]
    rfl

variable (hf : KeepsSinks D f)

include hf

theorem onSurface_mapSink (p : Player D S) (event : SurfaceEvent) :
    (p.mapSink f).onSurface event = (p.onSurface event).map id (mapSink f) := by
  have hdraws := TextureRenderer.keepsDraws hf
  cases p with
  | bitmap p =>
    rw [mapSink]
    cases event with
    | created =>
      rw [onSurface, onSurface, BitmapPlayer.created_mapSink]
      rfl
    | changed width height =>
      rw [onSurface, onSurface, BitmapPlayer.changed, Session.mapSink_stage,
        Stage.resize_mapSink hf]
      rfl
    | destroyed =>
      rw [onSurface, onSurface, BitmapPlayer.destroyed_mapSink hf]
      rfl
  | texture p =>
    rw [mapSink]
    cases event with
    | created =>
      rw [onSurface, onSurface, TexturePlayer.created_mapSink hdraws]
      rfl
    | changed width height => rfl
    | destroyed =>
      rw [onSurface, onSurface, TexturePlayer.destroyed_mapSink hdraws]
      rfl

theorem stop_mapSink (p : Player D S) : (p.mapSink f).stop = p.stop.map id (mapSink f) := by
  cases p with
  | bitmap p =>
    rw [mapSink, stop, stop, BitmapPlayer.stop,
      Session.shutdown_mapSink f (BitmapPlayer.respects_mapSink hf)]
    rfl
  | texture p =>
    rw [mapSink, stop, stop, TexturePlayer.stop_mapSink (TextureRenderer.keepsDraws hf)]
    rfl

theorem respects_mapSink : Clocked.Respects (mapSink f : Player D S → Player D T) where
  now_map p := by cases p <;> rfl
  setNow_map p t := by cases p <;> rfl
  step?_map p := by
    cases p with
    | bitmap p =>
      calc (BitmapPlayer.step? (Session.mapSink f p)).map bitmap
        _ = ((BitmapPlayer.step? p).map (Session.mapSink f)).map bitmap :=
          congrArg _ (BitmapPlayer.step?_mapSink hf p)
        _ = ((BitmapPlayer.step? p).map bitmap).map (mapSink f) := by
          cases BitmapPlayer.step? p <;> rfl
    | texture p =>
      calc (p.mapSink f).step?.map texture
        _ = (p.step?.map (TexturePlayer.mapSink f)).map texture :=
          congrArg _ (TexturePlayer.step?_mapSink (TextureRenderer.keepsDraws hf) p)
        _ = (p.step?.map texture).map (mapSink f) := by
          cases p.step? <;> rfl
  wake?_map p := by cases p <;> rfl
  patience_map p := by cases p <;> rfl

theorem after_mapSink (p : Player D S) (m : Move D) :
    (p.mapSink f).after m = (p.after m).mapSink f := by
  cases m with
  | start source path => rw [after, after, start_mapSink]; rfl
  | surface event => rw [after, after, onSurface_mapSink hf]; rfl
  | stop => rw [after, after, stop_mapSink hf]; rfl
  | work =>
    rw [after, after, (respects_mapSink hf).step?_map]
    cases Clocked.step? p <;> rfl
  | sleep ms => exact (respects_mapSink hf).sleep p ms
  | alter g => cases p <;> rfl

theorem act_mapSink (p : Player D S) (a : Action D) :
    (p.mapSink f).act a = (p.act a).mapSink f := by
  cases a with
  | move m => exact after_mapSink hf p m
  | turn t => cases p <;> rfl
  | pass t => exact (respects_mapSink hf).setNow_map p t

theorem answer?_mapSink (p : Player D S) (a : Action D) :
    (p.mapSink f).answer? a = p.answer? a := by
  cases a with
  | move m =>
    cases m with
    | start source path => rw [answer?, answer?, start_mapSink]; rfl
    | surface event => rw [answer?, answer?, onSurface_mapSink hf]; rfl
    | stop => rw [answer?, answer?, stop_mapSink hf]; rfl
    | work | sleep | alter => rfl
  | turn | pass => rfl

/-- A map between surfaces that changes only which pictures are refused goes through a whole run. -/
theorem run_mapSink (p : Player D S) (actions : List (Action D)) :
    actions.foldl act (p.mapSink f) = (actions.foldl act p).mapSink f ∧
    (p.mapSink f).answers actions = p.answers actions := by
  induction actions generalizing p with
  | nil => exact ⟨rfl, rfl⟩
  | cons a rest ih =>
    obtain ⟨hrun, hanswers⟩ := ih (p.act a)
    rw [List.foldl_cons, answers, answers, act_mapSink hf, answer?_mapSink hf, hanswers]
    exact ⟨hrun, rfl⟩

omit hf in
/-- Which pictures its surface refuses has no influence on a player of either kind. Two players
that start with the same options, on surfaces that differ only in the pictures they refuse, and
that are given the same calls in the same schedule, with decoders that do not look at the surface,
publish the same states, show the same images at the same times, ask for the same draws and give
the same answers; and what they are in the end differs in nothing but the surface. -/
theorem refusals_leave_no_trace {rel : S → T → Prop} (hrel : RefusalsAside D rel) {sink : S} {sink' : T}
    (hsinks : rel sink sink') (mode : RenderMode) (options : PlayerOptions)
    (actions : List (Action D)) :
    let p : Player D S := new mode sink options
    let q : Player D T := new mode sink' options
    (actions.foldl act q).stage.history = (actions.foldl act p).stage.history ∧
    (actions.foldl act q).cell = (actions.foldl act p).cell ∧
    q.answers actions = p.answers actions ∧
    (actions.foldl act q).withoutSink = (actions.foldl act p).withoutSink := by
  intro p q
  -- both runs are images of one run on the pair of the two surfaces
  let both : Player D hrel.Pair := new mode ⟨sink, sink', hsinks⟩ options
  obtain ⟨hp, hpAnswers⟩ := run_mapSink RefusalsAside.Pair.refusalsAside_left both actions
  obtain ⟨hq, hqAnswers⟩ := run_mapSink RefusalsAside.Pair.refusalsAside_right both actions
  have hleft : both.mapSink RefusalsAside.Pair.left = p := new_mapSink _ mode _ options
  have hright : both.mapSink RefusalsAside.Pair.right = q := new_mapSink _ mode _ options
  rw [hleft] at hp hpAnswers
  rw [hright] at hq hqAnswers
  refine ⟨?_, ?_, hqAnswers.trans hpAnswers.symm, ?_⟩
  · rw [hp, hq, stage_mapSink, stage_mapSink, Stage.mapSink_history, Stage.mapSink_history]
  · rw [hp, hq, cell_mapSink, cell_mapSink]
  · rw [hp, hq, withoutSink_mapSink, withoutSink_mapSink]

end Player

theorem ScriptedSink.present_eq_panicked (s : ScriptedSink) (picture : PixelBuffer) :
    (s.present picture).1 = .panicked ↔ s.panicking.contains (s.presented + 1) = true := by
  rw [present]
  by_cases hpanics : s.panicking.contains (s.presented + 1) = true
  · rw [if_pos hpanics]
    exact iff_of_true rfl hpanics
  · rw [if_neg hpanics]
    refine iff_of_false ?_ hpanics
    split <;> exact Shown.noConfusion

/-- Scripted surfaces that refuse other pictures. -/
theorem ScriptedSink.keepsSinks (failing : List Nat) :
    KeepsSinks ScriptedDecoder fun s : ScriptedSink => { s with failing } where
  panics := by
    rintro s _ rfl picture
    exact (present_eq_panicked { s with failing } picture).trans
      (present_eq_panicked s picture).symm
  presented := by rintro s _ rfl picture; rfl
  resize := by rintro s _ rfl width height; rfl
  resized := by rintro s _ rfl width height; rfl
  read := by rintro s _ rfl d capacity; rfl

namespace Player

/-- Three pictures of a stream, of which one surface refuses the second. -/
theorem refusals_leave_no_trace_second :
    let refusing : ScriptedSink := ⟨[2], [], false, 0⟩
    let accepting : ScriptedSink := ⟨[], [], false, 0⟩
    let actions : List (Action ScriptedDecoder) :=
      [.move (.start (fun _ => .ok .onePixel) "clip"), .move (.surface .created), .move (.sleep 100),
        .move .stop]
    let run (mode : RenderMode) (sink : ScriptedSink) : Player ScriptedDecoder ScriptedSink :=
      actions.foldl act (new mode sink ⟨25.0, none⟩)
    accepting = { refusing with failing := [] } ∧
    ∀ mode, (run mode refusing).stage.sink.presented = 3 ∧
      (run mode accepting).stage.history = (run mode refusing).stage.history ∧
      (run mode accepting).withoutSink = (run mode refusing).withoutSink := by
  intro refusing accepting actions run
  have hrel : accepting = { refusing with failing := [] } := rfl
  refine ⟨hrel, fun mode => ?_⟩
  obtain ⟨hhistory, _, _, hsame⟩ :=
    refusals_leave_no_trace (ScriptedSink.keepsSinks []) hrel mode ⟨25.0, none⟩ actions
  refine ⟨?_, hhistory, hsame⟩
  cases mode with
  | bitmap => decide +kernel
  | gl => decide +kernel

end Player

end AviPlayback
