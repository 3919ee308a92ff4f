import AviPlayback.Proofs.Playback.StateHistory
import AviPlayback.Proofs.Player.Meanwhile

/-!
Each session of a player ends once. A player is taken through every interleaving of its calls with
the steps of its workers, also between the parts of a call that waits for the workers
(`BitmapPlayer.Interleaved`, `TexturePlayer.Interleaved`). Whoever comes first ends the session, the
loss of the surface or the end of the stream; the other one publishes nothing
(`Player.sessions_end_once`).
-/
set_option autoImplicit false

namespace AviPlayback

open Relation (ReflTransGen)

namespace BitmapPlayer

variable {D S : Type} {p q : BitmapPlayer D S}

/-! ### What the worker publishes -/

theorem sameHistory_leaveLoop (p : BitmapPlayer D S) (lease : Nat) (event : TaskEvent) :
    Session.SameHistory p (leaveLoop p lease event) := ⟨rfl, p.stage.publishedAt_release lease⟩

theorem sameHistory_panicLoop (p : BitmapPlayer D S) (lease : Nat) :
    Session.SameHistory p (panicLoop p lease) := ⟨rfl, p.stage.publishedAt_release lease⟩

theorem sameHistory_endLoop (p : BitmapPlayer D S) (lease : Nat) :
    Session.SameHistory (p.moveTo p.state.ended) (endLoop p lease) := by
  rw [endLoop, Session.tryTransition_streamEnded]
  exact sameHistory_leaveLoop _ _ _

section

variable [VideoDecoder D] [FrameReader D S] [FrameSink S]

/-- A step of the worker publishes the end of the stream or nothing. -/
theorem Ticked.endsAtMost (h : Ticked p q) : Session.EndsAtMost p q := by
  have hread : ∀ {b c : Blit} {stage : Stage D S} {panicked : Bool},
      b.refresh p.stage = (panicked, c, stage) → stage.publishedAt = p.stage.publishedAt :=
    fun hrefresh => (Blit.refreshed hrefresh).traced _ fun _ _ => rfl
  have hshown : ∀ (stage : Stage D S) (picture : PixelBuffer),
      (stage.present picture).2.publishedAt = stage.publishedAt := fun stage picture =>
    (Stage.traced_present _ stage picture).trans (List.append_nil _)
  cases h with
  | begin | check | resume => exact .of_same ⟨rfl, rfl⟩
  | stop => exact .of_same (sameHistory_leaveLoop p _ _)
  | starved => exact .of_same (sameHistory_panicLoop p _)
  | unread _ hrefresh =>
    exact .of_same ⟨rfl, (Stage.publishedAt_release _ _).trans (hread hrefresh)⟩
  | rest _ hrefresh => exact .of_same ⟨rfl, (hshown _ _).trans (hread hrefresh)⟩
  | broken _ hrefresh =>
    exact .of_same ⟨rfl,
      (Stage.publishedAt_release _ _).trans ((hshown _ _).trans (hread hrefresh))⟩
  | unfit => exact .of_ended (sameHistory_endLoop p _)
  | @limit b c told stage _ hrefresh =>
    have hsame : Session.SameHistory p { p with stage := (stage.present c.picture).2 } :=
      ⟨rfl, (hshown _ _).trans (hread hrefresh)⟩
    have hnow : (stage.present c.picture).2.now = p.stage.now := (Blit.refreshed hrefresh).now
    exact .of_ended ((hsame.moveTo hnow _).trans (sameHistory_endLoop _ _))

/-! ### Interleavings -/

/-- A step of an interleaving: a call that does not wait, a part of one that does, or work. While
the worker of a lost surface is waited for, no surface appears. -/
inductive Interleaved (p : BitmapPlayer D S) : BitmapPlayer D S → Prop
  | start (source : String → Except PlayerFault D) (path : String) :
      Interleaved p (p.start source path).2
  | created (hjoined : p.surface = false → p.worker = none) : Interleaved p p.created.2
  | changed (width height : Nat) : Interleaved p (p.changed width height).2
  | alter (f : D → D) : Interleaved p { p with stage := p.stage.mapDecoders f }
  | lose (hsurface : p.surface) : Interleaved p p.lose
  | tell (hsurface : p.surface = false) :
      Interleaved p { p with worker := p.worker.map Task.cancel }
  | join (hsurface : p.surface = false) (hquiet : p.isQuiet) : Interleaved p p.joinWorker.2
  | close (hsurface : p.surface = false) : Interleaved p p.closeAndReset
  | work {q : BitmapPlayer D S} (h : Works p q) : Interleaved p q

/-- A bitmap player at some moment of an interleaving. -/
def Lived (p : BitmapPlayer D S) : Prop :=
  ∃ sink options, ReflTransGen Interleaved (.new sink options) p

end

/-- What holds of a bitmap player at every moment of an interleaving. -/
structure Regular (p : BitmapPlayer D S) : Prop where
  chronicled : Session.Chronicled p
  not_ready : p.state ≠ .surfaceReady
  surface : p.state = .rendering → p.surface
  running : p.worker.any Task.isRunning → p.state = .rendering ∨ p.surface = false

namespace Regular

theorem congr (h : Regular p) (hsame : Session.SameHistory p q) (hsurface : q.surface = p.surface)
    (hworker : q.worker.any Task.isRunning → p.worker.any Task.isRunning) : Regular q where
  chronicled := h.chronicled.congr hsame
  not_ready := hsame.state ▸ h.not_ready
  surface hstate := hsurface ▸ h.surface (hsame.state ▸ hstate)
  running hrunning := by
    rw [hsame.state, hsurface]
    exact h.running (hworker hrunning)

/-- Where a surface may be taken, no worker is in its loop. -/
theorem not_running (h : Regular p) (hjoined : p.surface = false → p.worker = none)
    (hstate : p.state ≠ .rendering) : p.worker.any Task.isRunning = false := by
  refine (Bool.not_eq_true _).mp fun hrunning => ?_
  have hnone := hjoined ((h.running hrunning).resolve_left hstate)
  rw [hnone] at hrunning
  cases hrunning

theorem lose (h : Regular p) : Regular p.lose := by
  have hstate : Session.state p.lose = p.state.lost := by
    rw [Session.lose_eq]
    exact Session.state_moveTo p _
  have hinactive := PlaybackState.isActive_lost p.state
  refine ⟨?_, fun hready => ?_, fun hplaying => ?_, fun _ => .inr ?_⟩
  · rw [Session.lose_eq]
    exact (h.chronicled.lost h.not_ready).congr ⟨rfl, rfl⟩
  · rw [← hstate, hready] at hinactive
    cases hinactive
  · rw [← hstate, hplaying] at hinactive
    cases hinactive
  · rw [Session.lose_eq]

theorem onNewSurface (h : Regular p) (hstate : p.state ≠ .rendering) (handle : Handle)
    (pacer : Pacer) : Regular (p.onNewSurface handle pacer) := by
  have hplaying : Session.state (p.onNewSurface handle pacer) = .rendering :=
    Session.state_moveTo _ _
  refine ⟨?_, by rw [hplaying]; nofun, fun _ => ?_, fun _ => .inl hplaying⟩
  · refine (h.chronicled.drawnOn hstate h.not_ready ?_).congr ⟨rfl, rfl⟩
    exact ⟨rfl, rfl⟩
  · simp [BitmapPlayer.onNewSurface]

variable [VideoDecoder D] [FrameReader D S] [FrameSink S]

theorem step? (h : Regular p) (hstep : BitmapPlayer.step? p = some q) : Regular q := by
  have hends := (ticked_of_step? hstep).endsAtMost
  have hsurface := surface_of_step? hstep
  obtain ⟨loop, told, hworker, hmoved⟩ := moved_of_step? hstep
  refine ⟨hends.chronicled h.chronicled, hends.not_ready h.not_ready, fun hplaying => ?_,
    fun hstill => ?_⟩
  · exact hsurface.trans (h.surface (hends.rendering hplaying))
  · cases hmoved with
    | goOn => exact h.running (by rw [hworker]; rfl)
    | stop | finish | panic => cases hstill

theorem interleaved (h : Regular p) (hstep : Interleaved p q) : Regular q := by
  cases hstep with
  | start source path =>
    obtain ⟨_, stage, handle, hopened⟩ := Stage.spared_openDecoder p source path
    have hsame := Session.sameHistory_openDecoder p source path
    have hstart : (p.start source path).2 = (p.openDecoder source path).2 := rfl
    rw [hstart]
    rw [hopened] at hsame ⊢
    exact h.congr hsame rfl id
  | created hjoined =>
    rcases created_cases (h.not_running hjoined) with
      ⟨r, hcreated⟩ | ⟨handle, pacer, _, hstate, hcreated⟩
    · rwa [hcreated]
    · rw [hcreated]
      exact h.onNewSurface hstate handle pacer
  | changed width height => exact h.congr ⟨rfl, Stage.publishedAt_record _ rfl⟩ rfl id
  | alter => exact h.congr ⟨rfl, rfl⟩ rfl id
  | lose => exact h.lose
  | tell => exact h.congr ⟨rfl, rfl⟩ rfl (by rw [Task.any_isRunning_map_cancel]; exact id)
  | join hsurface hquiet =>
    rw [Session.joinWorker_snd hquiet]
    exact h.congr ⟨rfl, rfl⟩ rfl nofun
  | close hsurface =>
    have hplaying : p.state ≠ .rendering := fun hstate => by
      have hthere := h.surface hstate
      rw [hsurface] at hthere
      cases hthere
    have hgone : Session.surface p.closeAndReset = false :=
      (Session.surface_closeAndReset p).trans hsurface
    refine ⟨h.chronicled.reset hplaying h.not_ready, ?_, fun hstate => ?_, fun _ => .inr hgone⟩
    · rw [Session.state_closeAndReset]
      nofun
    · rw [Session.state_closeAndReset] at hstate
      cases hstate
  | work hworks =>
    cases hworks with
    | step hstep => exact h.step? hstep
    | pass => exact h.congr ⟨rfl, rfl⟩ rfl id

end Regular

section

variable [VideoDecoder D] [FrameReader D S] [FrameSink S]

theorem Lived.regular (h : Lived p) : Regular p := by
  obtain ⟨sink, options, hrun⟩ := h
  induction hrun with
  | refl => exact ⟨.new sink options, nofun, nofun, nofun⟩
  | tail _ hstep ih => exact ih.interleaved hstep

/-- A surface that goes away with its worker is an interleaving of its parts with the worker's
steps. -/
theorem interleaved_endSurface (h : Sound p) : ReflTransGen Interleaved p p.endSurface.2 := by
  cases hsurface : p.surface with
  | false =>
    have hend : p.endSurface.2 = p := by simp [Session.endSurface, hsurface]
    rw [hend]
  | true =>
    have hleft := left_leaveSurface h hsurface
    have hlost : Session.surface p.lose = false := by rw [Session.lose_eq]
    have hleave : ReflTransGen Interleaved p p.leaveSurface := by
      rw [Session.leaveSurface_eq_lose hsurface]
      exact .tail (.single (.lose hsurface)) (.tell hlost)
    have hsettle : ReflTransGen Interleaved p (Clocked.settle p.leaveSurface) :=
      Clocked.settle_keeps (P := fun q : BitmapPlayer D S => ReflTransGen Interleaved p q)
        (fun hrun hstep => hrun.tail (.work (.step hstep))) hleave
    obtain ⟨hsettled, hquiet⟩ := hleft.settle
    rw [endSurface_of_surface h hsurface]
    exact hsettle.tail (.join hsettled.surface hquiet)

/-- Whatever happens to a player is an interleaving. -/
theorem interleaved_of_happens {decoders : D → Prop} (h : Sound p)
    (hmove : Happens decoders p q) : ReflTransGen Interleaved p q := by
  cases hmove with
  | start source path => exact .single (.start source path)
  | created => exact .single (.created h.worker_of_no_surface)
  | changed width height => exact .single (.changed width height)
  | destroyed => exact interleaved_endSurface h
  | stop => exact (interleaved_endSurface h).tail (.close (ended_endSurface h).surface)
  | work hworks => exact .single (.work hworks)
  | alter f => exact .single (.alter f)

theorem Reached.lived {decoders : D → Prop} {sinks : S → Prop} (h : Reached decoders sinks p) :
    Lived p := by
  obtain ⟨sink, options, hsink, hrun⟩ := h
  refine ⟨sink, options, ?_⟩
  induction hrun with
  | refl => exact .refl
  | tail hbefore hmove ih =>
    have hreached : Reached decoders sinks _ := ⟨sink, options, hsink, hbefore⟩
    exact ih.trans (interleaved_of_happens hreached.phase.1 hmove)

end

end BitmapPlayer

namespace TexturePlayer

variable {D S R : Type} {p q : TexturePlayer D S R}

/-! ### What the workers publish -/

theorem Paced.endsAtMost (h : Paced p q) : p.session.EndsAtMost q.session := by
  cases h with
  | stop | check | refused | rest | resume => exact .of_same ⟨rfl, rfl⟩
  | ask => exact .of_same ⟨rfl, Stage.publishedAt_record _ rfl⟩
  | limit => exact .of_ended ⟨rfl, rfl⟩

theorem Drew.endsAtMost [FrameRenderer R D S] (h : Drew p q) :
    p.session.EndsAtMost q.session := by
  have hdrawn : ∀ {rig : Rig R} {seq : Nat} {outcome : DrawOutcome} {renderer : R}
      {stage : Stage D S}, (p.stage.record (.drawn seq)).draw rig.lease rig.renderer =
        (outcome, renderer, stage) → stage.publishedAt = p.stage.publishedAt := by
    intro rig seq outcome renderer stage hdraw
    have hsame := Stage.traced_draw_of_silent
      (g := fun m => m.event.published?.map (m.time, ·)) (fun _ _ => rfl) (fun _ _ => rfl)
      (p.stage.record (.drawn seq)) rig.lease rig.renderer
    rw [hdraw] at hsame
    exact hsame.trans (p.stage.publishedAt_record rfl)
  cases h with
  | stop | take | drained | finish => exact .of_same ⟨rfl, rfl⟩
  | more _ hdraw => exact .of_same ⟨rfl, hdrawn hdraw⟩
  | panicked _ hdraw =>
    exact .of_same ⟨rfl, (Stage.publishedAt_release _ _).trans (hdrawn hdraw)⟩
  | @ended rig seq _ _ renderer stage _ hdraw =>
    have hsame : p.session.SameHistory (p.setStage stage).session := ⟨rfl, hdrawn hdraw⟩
    have hnow := (Stage.worked_draw rig.renderer
      (.start : (p.stage.record (.drawn seq)).Worked rig.lease true _)).now_eq
    rw [hdraw] at hnow
    exact .of_ended (hsame.moveTo hnow _)

theorem sameHistory_dropRenderer (p : TexturePlayer D S R) :
    p.session.SameHistory p.dropRenderer.session := by
  rw [dropRenderer]
  split
  · exact ⟨rfl, p.stage.publishedAt_release _⟩
  · exact .refl _

theorem sameHistory_freeRenderer (p : TexturePlayer D S R) :
    p.session.SameHistory p.freeRenderer.session := by
  rw [freeRenderer]
  split
  · next rig _ =>
    have hfreed : (Event.rendererFreed rig.lease).published? = none := rfl
    exact ⟨rfl, (Stage.publishedAt_release _ _).trans (p.stage.publishedAt_record hfreed)⟩
  · exact .refl _

theorem sameHistory_start [VideoDecoder D] (p : TexturePlayer D S R)
    (source : String → Except PlayerFault D) (create : StreamInfo → Except PlayerFault R)
    (path : String) : p.session.SameHistory (p.start source create path).2.session := by
  have hopened := Session.sameHistory_openDecoder p.session source path
  rcases hopen : p.session.openDecoder source path with ⟨fault | handle, session⟩
  all_goals
    rw [hopen] at hopened
    rw [start, hopen]
    dsimp only at hopened ⊢
  · exact hopened
  · split
    · have hcreated : (Event.rendererCreated handle.lease).published? = none := rfl
      have hshared : session.SameHistory { session with
          stage := (session.stage.share handle.lease).record (.rendererCreated handle.lease) } :=
        ⟨rfl, (session.stage.share handle.lease).publishedAt_record hcreated⟩
      exact (hopened.trans hshared).trans (sameHistory_dropRenderer { p with session := _ })
    · dsimp only
      split
      · exact hopened
      · exact hopened.trans (Session.sameHistory_close session)
    · exact hopened

/-! ### Interleavings -/

section

variable [VideoDecoder D] [FrameRenderer R D S]

/-- A step of an interleaving: a call that does not wait, a part of one that does, or work. While
the workers of a lost surface are waited for, no surface appears. -/
inductive Interleaved (p : TexturePlayer D S R) : TexturePlayer D S R → Prop
  | start (source : String → Except PlayerFault D) (create : StreamInfo → Except PlayerFault R)
      (path : String) : Interleaved p (p.start source create path).2
  | created (hjoined : p.session.surface = false → p.session.worker = none ∧ p.drawing = none) :
      Interleaved p p.created.2
  | alter (f : D → D) : Interleaved p (p.setStage (p.stage.mapDecoders f))
  | lose (hsurface : p.session.surface) : Interleaved p { p with session := p.session.lose }
  | tellPacing (hsurface : p.session.surface = false) : Interleaved p { p with
      session := { p.session with worker := p.session.worker.map Task.cancel } }
  | tellDrawing (hsurface : p.session.surface = false) :
      Interleaved p { p with drawing := p.drawing.map Task.cancel }
  | joinPacing (hsurface : p.session.surface = false) (hquiet : p.session.isQuiet) :
      Interleaved p { p with session := p.session.joinWorker.2 }
  | joinDrawing (hsurface : p.session.surface = false) : Interleaved p p.joinDrawing
  | free : Interleaved p p.freeRenderer
  | close (hsurface : p.session.surface = false) :
      Interleaved p { p with session := p.session.closeAndReset }
  | work {q : TexturePlayer D S R} (h : Works p q) : Interleaved p q

/-- A texture player at some moment of an interleaving. -/
def Lived (p : TexturePlayer D S R) : Prop :=
  ∃ sink options, ReflTransGen Interleaved (.new sink options) p

end

/-- A surface is only accepted while a decoder is open. -/
theorem handle_of_created [VideoDecoder D] [FrameRenderer R D S] {rig : Rig R}
    (hrenderer : p.renderer = some rig) (hok : p.created.1 = .ok ()) :
    p.session.handle.isSome := by
  cases hhandle : p.session.handle with
  | some handle => rfl
  | none =>
    have hpacer : p.session.pacer = .error (.invalidState .notOpen) := by
      rw [Session.pacer, Session.info?, hhandle]
      rfl
    rw [created, hrenderer, hpacer] at hok
    cases hok

/-- What holds of a texture player at every moment of an interleaving. -/
structure Regular (p : TexturePlayer D S R) : Prop where
  chronicled : p.session.Chronicled
  not_ready : p.session.state ≠ .surfaceReady
  surface : p.session.state = .rendering → p.session.surface
  opened : p.session.surface → p.session.handle.isSome
  renderer : p.session.surface → p.renderer = none

namespace Regular

theorem congr (h : Regular p) (hsame : p.session.SameHistory q.session)
    (hsurface : q.session.surface = p.session.surface)
    (hhandle : q.session.handle = p.session.handle)
    (hrenderer : p.renderer = none → q.renderer = none) : Regular q where
  chronicled := h.chronicled.congr hsame
  not_ready := hsame.state ▸ h.not_ready
  surface hstate := hsurface ▸ h.surface (hsame.state ▸ hstate)
  opened hthere := hhandle ▸ h.opened (hsurface ▸ hthere)
  renderer hthere := hrenderer (h.renderer (hsurface ▸ hthere))

/-- Without a surface it is only the state that matters. -/
theorem of_no_surface (hchronicled : q.session.Chronicled)
    (hready : q.session.state ≠ .surfaceReady) (hplaying : q.session.state ≠ .rendering)
    (hsurface : q.session.surface = false) : Regular q where
  chronicled := hchronicled
  not_ready := hready
  surface hstate := absurd hstate hplaying
  opened hthere := absurd hthere (by simp [hsurface])
  renderer hthere := absurd hthere (by simp [hsurface])

theorem not_rendering (h : Regular p) (hsurface : p.session.surface = false) :
    p.session.state ≠ .rendering := fun hstate => by
  have hthere := h.surface hstate
  rw [hsurface] at hthere
  cases hthere

theorem aside (h : Regular p) (hsame : p.session.SameHistory q.session)
    (hsurface : p.session.surface = false) (hgone : q.session.surface = false) : Regular q :=
  .of_no_surface (h.chronicled.congr hsame) (hsame.state ▸ h.not_ready)
    (hsame.state ▸ h.not_rendering hsurface) hgone

/-- Where a surface may be taken, no worker is in its loop. -/
theorem not_running (h : Regular p)
    (hjoined : p.session.surface = false → p.session.worker = none ∧ p.drawing = none)
    (hrenderer : p.renderer.isSome) :
    p.session.worker.any Task.isRunning = false ∧ p.drawing.any Task.isRunning = false := by
  have hsurface : p.session.surface = false := by
    refine (Bool.not_eq_true _).mp fun hthere => ?_
    rw [h.renderer hthere] at hrenderer
    cases hrenderer
  obtain ⟨hworker, hdrawing⟩ := hjoined hsurface
  rw [hworker, hdrawing]
  exact ⟨rfl, rfl⟩

theorem lose (h : Regular p) : Regular { p with session := p.session.lose } := by
  have hstate : p.session.lose.state = p.session.state.lost := by
    rw [Session.lose_eq]
    exact Session.state_moveTo p.session _
  have hinactive := PlaybackState.isActive_lost p.session.state
  rw [← hstate] at hinactive
  refine .of_no_surface ?_ (fun hready => ?_) (fun hplaying => ?_) (by rw [Session.lose_eq])
  · rw [Session.lose_eq]
    exact (h.chronicled.lost h.not_ready).congr ⟨rfl, rfl⟩
  · rw [hready] at hinactive
    cases hinactive
  · rw [hplaying] at hinactive
    cases hinactive

theorem start [VideoDecoder D] (h : Regular p) (source : String → Except PlayerFault D)
    (create : StreamInfo → Except PlayerFault R) (path : String) :
    Regular (p.start source create path).2 := by
  cases hhandle : p.session.handle with
  | some handle =>
    have hopen : p.session.handle.isSome := by rw [hhandle, Option.isSome_some]
    rw [TexturePlayer.start, Session.openDecoder_of_open hopen]
    exact h
  | none =>
    have hsurface : p.session.surface = false := by
      have hopened := h.opened
      rw [hhandle] at hopened
      simpa using hopened
    refine h.aside (sameHistory_start p source create path) hsurface ?_
    rcases (spared_start p source create path).session with hgone | ⟨hsame, _⟩
    · exact hgone
    · exact hsame.trans hsurface

section

variable [FrameRenderer R D S]

theorem workerStep (h : Regular p) (hstep : p.paceStep? = some q ∨ p.drawStep? = some q) :
    Regular q := by
  have houtside := sameOutside_of_workerStep hstep
  have hends : p.session.EndsAtMost q.session := by
    rcases hstep with hpace | hdraw
    · exact (paced_of_paceStep? hpace).endsAtMost
    · exact (drew_of_drawStep? hdraw).endsAtMost
  refine ⟨hends.chronicled h.chronicled, hends.not_ready h.not_ready, fun hplaying => ?_, ?_, ?_⟩
  · exact houtside.surface.trans (h.surface (hends.rendering hplaying))
  · rw [houtside.surface, houtside.handle]
    exact h.opened
  · rw [houtside.surface, houtside.renderer]
    exact h.renderer

variable [VideoDecoder D]

theorem created (h : Regular p)
    (hjoined : p.session.surface = false → p.session.worker = none ∧ p.drawing = none) :
    Regular p.created.2 := by
  have hgone : ∀ rig, p.renderer = some rig → p.session.surface = false := fun rig hrenderer => by
    refine (Bool.not_eq_true _).mp fun hthere => ?_
    rw [h.renderer hthere] at hrenderer
    cases hrenderer
  rcases created_cases (h.not_running hjoined) with
    ⟨r, hcreated⟩ | ⟨rig, hrenderer, ⟨_, r, hcreated⟩ | ⟨r, hcreated⟩ | ⟨pacer, hcreated⟩⟩
  · rwa [hcreated]
  · rw [hcreated]
    have hsurface : p.dropRenderer.session.surface = p.session.surface := by
      rw [dropRenderer, hrenderer]
      rfl
    exact h.aside (sameHistory_dropRenderer p) (hgone rig hrenderer)
      (hsurface.trans (hgone rig hrenderer))
  · rw [hcreated]
    exact h.aside ⟨rfl, rfl⟩ (hgone rig hrenderer) (hgone rig hrenderer)
  · have hopen := handle_of_created hrenderer (congrArg Prod.fst hcreated)
    have hplaying := h.not_rendering (hgone rig hrenderer)
    rw [hcreated]
    refine ⟨?_, ?_, fun _ => Session.surface_moveTo _ _, fun _ => ?_, fun _ => rfl⟩
    · refine (h.chronicled.drawnOn hplaying h.not_ready ?_).congr ⟨rfl, rfl⟩
      exact ⟨rfl, rfl⟩
    · have hstate : (p.onNewSurface pacer (prepared D S rig)).session.state = .rendering :=
        Session.state_moveTo _ _
      rw [hstate]
      decide
    · simpa [onNewSurface] using hopen

theorem interleaved (h : Regular p) (hstep : Interleaved p q) : Regular q := by
  cases hstep with
  | start source create path => exact h.start source create path
  | created hjoined => exact h.created hjoined
  | alter => exact h.congr ⟨rfl, rfl⟩ rfl rfl id
  | lose => exact h.lose
  | tellPacing | tellDrawing => exact h.congr ⟨rfl, rfl⟩ rfl rfl id
  | joinPacing hsurface hquiet =>
    rw [Session.joinWorker_snd hquiet]
    exact h.congr ⟨rfl, rfl⟩ rfl rfl id
  | joinDrawing hsurface =>
    obtain ⟨hsession, _⟩ := joinDrawing_spec p
    refine h.aside ?_ hsurface ?_ <;> rw [hsession]
    · exact .refl _
    · exact hsurface
  | free =>
    refine h.congr (sameHistory_freeRenderer p) ?_ ?_ ?_ <;> rw [freeRenderer] <;> split
    all_goals first | rfl | exact fun _ => rfl | exact id
  | close hsurface =>
    have hgone : p.session.closeAndReset.surface = false :=
      (Session.surface_closeAndReset p.session).trans hsurface
    have hstate : p.session.closeAndReset.state = .idle := Session.state_closeAndReset p.session
    refine .of_no_surface (h.chronicled.reset (h.not_rendering hsurface) h.not_ready) ?_ ?_ hgone
    all_goals
      dsimp only
      rw [hstate]
      decide
  | work hworks =>
    cases hworks with
    | step hstep => exact h.workerStep hstep
    | turn | pass => exact h.congr ⟨rfl, rfl⟩ rfl rfl id

end

end Regular

section

variable [VideoDecoder D] [FrameRenderer R D S]

theorem Lived.regular (h : Lived p) : Regular p := by
  obtain ⟨sink, options, hrun⟩ := h
  induction hrun with
  | refl => exact ⟨.new sink options, nofun, nofun, nofun, nofun⟩
  | tail _ hstep ih => exact ih.interleaved hstep

/-- A surface that goes away with its workers is an interleaving of its parts with their steps. -/
theorem interleaved_destroyed (h : Sound p) : ReflTransGen Interleaved p p.destroyed.2 := by
  cases hsurface : p.session.surface with
  | false => rw [destroyed_of_no_surface h hsurface]
  | true =>
    have hlost : p.session.lose.surface = false := by rw [Session.lose_eq]
    have hleave : ReflTransGen Interleaved p p.leaveSurface := by
      rw [leaveSurface, if_pos hsurface, Session.leaveSurface_eq_lose hsurface]
      exact .tail (.tail (.single (.lose hsurface)) (.tellPacing hlost)) (.tellDrawing hlost)
    have hsettle := hleave.trans (ReflTransGen.mono (fun _ _ => .work) _ _ (works_settle _))
    obtain ⟨hsettled, hquiet⟩ := (left_leaveSurface h hsurface).settle
    obtain ⟨hpacingQuiet, _⟩ := Bool.and_eq_true_iff.mp hquiet
    rw [destroyed_of_surface h hsurface]
    refine (hsettle.tail (.joinPacing hsettled.surface hpacingQuiet)).tail (.joinDrawing ?_)
    rw [Session.joinWorker_snd hpacingQuiet]
    exact hsettled.surface

/-- Whatever happens to a player is an interleaving. -/
theorem interleaved_of_happens {decoders : D → Prop} {renderers : R → Prop} (h : Sound p)
    (hmove : Happens decoders renderers p q) : ReflTransGen Interleaved p q := by
  cases hmove with
  | start source create path => exact .single (.start source create path)
  | created =>
    exact .single (.created fun hsurface =>
      ⟨h.worker_of_no_surface hsurface, drawing_of_no_surface h hsurface⟩)
  | changed => exact .refl
  | destroyed => exact interleaved_destroyed h
  | stop =>
    have hsurface := (ended_destroyed h).surface
    have hfreed := (bared_freeRenderer (ended_destroyed h).sound hsurface).surface.trans hsurface
    exact ((interleaved_destroyed h).tail .free).tail (.close hfreed)
  | work hworks => exact .single (.work hworks)
  | alter f => exact .single (.alter f)

theorem Reached.lived {decoders : D → Prop} {renderers : R → Prop} {sinks : S → Prop}
    (h : Reached decoders renderers sinks p) : Lived p := by
  obtain ⟨sink, options, hsink, hrun⟩ := h
  refine ⟨sink, options, ?_⟩
  induction hrun with
  | refl => exact .refl
  | tail hbefore hmove ih =>
    have hreached : Reached decoders renderers sinks _ := ⟨sink, options, hsink, hbefore⟩
    exact ih.trans (interleaved_of_happens hreached.phase.1 hmove)

end

end TexturePlayer

namespace Player

variable {D S R : Type} [VideoDecoder D] [FrameReader D S] [FrameSink S] [FrameRenderer R D S]

/-- At every moment of every interleaving, the states published by a player change each time,
frames are produced only right behind a surface that became ready, and every session ends once. It
ends by what comes first: while frames are being produced, a worker that comes to its end publishes
that, and a surface that goes away is published as lost; in every other state neither publishes
anything. When a surface begins the next session, the workers of those before have left their
loops. -/
theorem sessions_end_once :
    (∀ p : BitmapPlayer D S, BitmapPlayer.Lived p →
      PlaybackState.EndOnce (Session.states p) ∧ (Session.states p).getLast? = some p.state ∧
      (∀ q, BitmapPlayer.step? p = some q → Session.states q = Session.states p ∨
        p.state = .rendering ∧ Session.states q = Session.states p ++ [.streamEnded]) ∧
      Session.states p.lose =
        Session.states p ++ (if p.state = .rendering then [.surfaceLost] else []) ∧
      ((p.surface = false → p.worker = none) → p.Accepts →
        p.worker.any Task.isRunning = false)) ∧
    ∀ p : TexturePlayer D S R, p.Lived →
      PlaybackState.EndOnce p.session.states ∧ p.session.states.getLast? = some p.session.state ∧
      (∀ q, p.paceStep? = some q ∨ p.drawStep? = some q → q.session.states = p.session.states ∨
        p.session.state = .rendering ∧ q.session.states = p.session.states ++ [.streamEnded]) ∧
      p.session.lose.states =
        p.session.states ++ (if p.session.state = .rendering then [.surfaceLost] else []) ∧
      ((p.session.surface = false → p.session.worker = none ∧ p.drawing = none) → p.Accepts →
        p.session.worker.any Task.isRunning = false ∧ p.drawing.any Task.isRunning = false) := by
  constructor
  · intro p hlived
    have hregular := hlived.regular
    exact ⟨hregular.chronicled.endOnce, hregular.chronicled.last,
      fun q hstep => (BitmapPlayer.ticked_of_step? hstep).endsAtMost.states,
      Session.states_lose hregular.not_ready,
      fun hjoined haccepts => hregular.not_running hjoined haccepts.1⟩
  · intro p hlived
    have hregular := hlived.regular
    refine ⟨hregular.chronicled.endOnce, hregular.chronicled.last, fun q hstep => ?_,
      Session.states_lose hregular.not_ready, fun hjoined haccepts => ?_⟩
    · rcases hstep with hpace | hdraw
      · exact (TexturePlayer.paced_of_paceStep? hpace).endsAtMost.states
      · exact (TexturePlayer.drew_of_drawStep? hdraw).endsAtMost.states
    · refine hregular.not_running hjoined ?_
      cases hrenderer : p.renderer with
      | some rig => rfl
      | none =>
        have hsame : p.created.2 = p := by rw [TexturePlayer.created, hrenderer]
        exact absurd (hsame ▸ haccepts.2) haccepts.1

/-- A session of one frame. In software its worker ends it before its surface goes away, which then
publishes nothing more. Through a renderer the surface goes away first. -/
theorem sessions_end_once_oneFrame :
    let begun : List (Move ScriptedDecoder) :=
      [.start (fun _ => .ok .onePixel) "clip", .surface .created]
    let worked : List (Move ScriptedDecoder) := begun ++ [.work, .work, .work]
    ∃ (p : BitmapPlayer ScriptedDecoder ScriptedSink)
      (q : TexturePlayer ScriptedDecoder ScriptedSink TextureRenderer),
      worked.foldl after (new .bitmap ⟨[], [], false, 0⟩ ⟨25.0, some 1⟩) = bitmap p ∧
      begun.foldl after (new .gl ⟨[], [], false, 0⟩ ⟨25.0, some 1⟩) = texture q ∧
      Session.states p = [.idle, .surfaceReady, .rendering, .streamEnded] ∧
      PlaybackState.EndOnce (Session.states p) ∧ Session.states p.lose = Session.states p ∧
      q.session.states = [.idle, .surfaceReady, .rendering] ∧
      PlaybackState.EndOnce q.session.states ∧
      q.session.lose.states = [.idle, .surfaceReady, .rendering, .surfaceLost] := by
  intro begun worked
  let first (mode : RenderMode) : Player ScriptedDecoder ScriptedSink :=
    new mode ⟨[], [], false, 0⟩ ⟨25.0, some 1⟩
  have hlife : ∀ mode (moves : List (Move ScriptedDecoder)),
      (moves.foldl after (first mode)).Reached (fun _ => True) fun _ => True := fun mode moves =>
    reached_run mode trivial _ fun m _ => by cases m <;> simp [Move.Keeps]
  have hbitmap := hlife .bitmap worked
  have htexture := hlife .gl begun
  obtain ⟨hsoftware, hrenderer⟩ := @sessions_end_once ScriptedDecoder ScriptedSink TextureRenderer
    _ _ _ _
  obtain ⟨honce, _, _, hlose, _⟩ := hsoftware _ (BitmapPlayer.Reached.lived hbitmap)
  obtain ⟨honce', _, _, hlose', _⟩ := hrenderer _ (TexturePlayer.Reached.lived htexture)
  exact ⟨_, _, rfl, rfl, rfl, honce, hlose, rfl, honce', hlose'⟩

end Player

end AviPlayback
