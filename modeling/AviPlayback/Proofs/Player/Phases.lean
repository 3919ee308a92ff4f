import AviPlayback.Proofs.Player.Runs
import AviPlayback.Proofs.Player.TextureSteps

/-!
The phases of a player's life: what the published state, the surface and the workers are at the same
moment. A player that was only called, and whose workers only worked, is always in one of them
(`BitmapPlayer.Reached.phase`, `TexturePlayer.Reached.phase`), whatever decoders, renderers and
surfaces do.
-/
set_option autoImplicit false

namespace AviPlayback

namespace BitmapPlayer

variable {D S : Type} {p q : BitmapPlayer D S}

/-- What a step makes of the worker and of the state. -/
inductive Moved (p : BitmapPlayer D S) (loop : BlitLoop) (told : Bool) : BitmapPlayer D S → Prop
  | goOn (stage : Stage D S) (next : BlitLoop) :
      Moved p loop told { p with stage, worker := some (.running next told) }
  | stop (htold : told = true) : Moved p loop told (leaveLoop p loop.lease .cancelled)
  | finish (stage : Stage D S) : Moved p loop told (endLoop { p with stage } loop.lease)
  | panic (stage : Stage D S) : Moved p loop told (panicLoop { p with stage } loop.lease)

theorem lease_refresh [FrameReader D S] (b : Blit) (stage : Stage D S) :
    (b.refresh stage).2.1.lease = b.lease := by
  rw [Blit.refresh]
  split <;> rfl

theorem moved_startLoop [VideoDecoder D] (p : BitmapPlayer D S) (lease : Nat) (pacer : Pacer)
    (told : Bool) : Moved p (.spawned lease pacer) told (startLoop p lease pacer told) := by
  rw [startLoop]
  split
  · exact .finish p.stage
  · split
    · exact .panic p.stage
    · exact .finish p.stage
    · exact .panic p.stage
    · exact .goOn p.stage _

theorem moved_tick [FrameReader D S] [FrameSink S] (p : BitmapPlayer D S) (b : Blit) (told : Bool) :
    Moved p (.drawing b) told (tick p b told) := by
  have hlease := lease_refresh b p.stage
  rcases hrefresh : b.refresh p.stage with ⟨panicked, c, stage⟩
  rw [hrefresh] at hlease
  rw [tick, hrefresh]
  dsimp only at hlease ⊢
  split
  · rw [hlease]
    exact .panic stage
  · rw [showPicture]
    dsimp only
    rw [hlease]
    split
    · exact .panic _
    · split
      · exact .finish _
      · exact .goOn _ _

theorem state_endLoop (p : BitmapPlayer D S) (lease : Nat) :
    Session.state (endLoop p lease) = p.state.ended := by
  have hend : Session.state (endLoop p lease) = (p.tryTransition .streamEnded).state := rfl
  rw [hend, Session.tryTransition_streamEnded, Session.state_moveTo]

theorem surface_endLoop (p : BitmapPlayer D S) (lease : Nat) :
    Session.surface (endLoop p lease) = p.surface := by
  have hend : Session.surface (endLoop p lease) = (p.tryTransition .streamEnded).surface := rfl
  rw [hend, Session.tryTransition_streamEnded, Session.surface_moveTo]

section

variable [VideoDecoder D] [FrameReader D S] [FrameSink S]

theorem moved_of_step? (h : step? p = some q) :
    ∃ loop told, p.worker = some (.running loop told) ∧ Moved p loop told q := by
  rw [step?] at h
  split at h
  · next loop told hworker =>
    refine ⟨loop, told, hworker, ?_⟩
    cases loop with
    | spawned lease pacer =>
      cases h
      exact moved_startLoop p lease pacer told
    | checking b =>
      cases h
      cases told with
      | true => exact .stop rfl
      | false => exact .goOn p.stage _
    | drawing b =>
      cases h
      exact moved_tick p b told
    | pausing b due =>
      cases told with
      | true =>
        cases h
        exact .stop rfl
      | false =>
        dsimp only at h
        rw [if_neg Bool.false_ne_true] at h
        split at h
        · cases h
          exact .goOn p.stage _
        · cases h
  · cases h

/-- Work between two calls: the worker does a step, or time passes. -/
inductive Works (p : BitmapPlayer D S) : BitmapPlayer D S → Prop
  | step {q : BitmapPlayer D S} (h : step? p = some q) : Works p q
  | pass (t : Nat) : Works p { p with stage := { p.stage with now := t } }

/-- What can happen to a bitmap player: it is called, its worker does a step, time passes, or its
decoders are changed from outside. Some decoders can be opened. -/
inductive Happens (decoders : D → Prop) (p : BitmapPlayer D S) : BitmapPlayer D S → Prop
  | start (source : String → Except PlayerFault D) (path : String)
      (hsource : ∀ path d, source path = .ok d → decoders d) :
      Happens decoders p (p.start source path).2
  | created : Happens decoders p p.created.2
  | changed (width height : Nat) : Happens decoders p (p.changed width height).2
  | destroyed : Happens decoders p p.destroyed.2
  | stop : Happens decoders p p.stop.2
  | work {q : BitmapPlayer D S} (h : Works p q) : Happens decoders p q
  | alter (f : D → D) (hf : ∀ d, decoders d → decoders (f d)) :
      Happens decoders p { p with stage := p.stage.mapDecoders f }

/-- A bitmap player at some moment of its life. Some decoders can be opened, and some surfaces drawn
on. -/
def Reached (decoders : D → Prop) (sinks : S → Prop) (p : BitmapPlayer D S) : Prop :=
  ∃ sink options, sinks sink ∧ Relation.ReflTransGen (Happens decoders) (.new sink options) p

end

section

variable [VideoDecoder D] [FrameReader D S] [FrameSink S]

/-- Work between calls begins no session. -/
theorem inactive_settle (hstate : p.state.isActive = false) :
    (Clocked.settle p).state.isActive = false := by
  refine Clocked.settle_keeps (P := fun q : BitmapPlayer D S => q.state.isActive = false)
    (fun {q r} hq hstep => ?_) hstate
  obtain ⟨loop, told, _, hmoved⟩ := moved_of_step? hstep
  cases hmoved with
  | goOn | stop | panic => exact hq
  | finish stage =>
    have hended := PlaybackState.ended_of_not_isActive hq
    have hsame : Session.state { q with stage } = q.state := rfl
    rwa [state_endLoop, hsame, hended]

end

/-- The phases of a bitmap player. -/
inductive Phase (p : BitmapPlayer D S) : Prop
  /-- There is no surface. -/
  | away (hsurface : p.surface = false) (hstate : p.state.isActive = false)
  | playing {loop : BlitLoop} (hsurface : p.surface) (hstate : p.state = .rendering)
      (hworker : p.worker = some (.running loop false))
  /-- The worker has come to its end. -/
  | ended (hsurface : p.surface) (hstate : p.state = .streamEnded)
      (hworker : p.worker = some (.finished .finished))
  /-- The worker has panicked. -/
  | panicked (hsurface : p.surface) (hstate : p.state = .rendering)
      (hworker : p.worker = some .panicked)

namespace Phase

/-- The phase depends on the surface, the state and the worker only. -/
theorem congr (h : Phase p) (hsurface : q.surface = p.surface) (hstate : q.state = p.state)
    (hworker : q.worker = p.worker) : Phase q := by
  cases h with
  | away hno hinactive => exact .away (hsurface.trans hno) (hstate ▸ hinactive)
  | playing hthere hplaying hloop =>
    exact .playing (hsurface.trans hthere) (hstate.trans hplaying) (hworker.trans hloop)
  | ended hthere hended htask =>
    exact .ended (hsurface.trans hthere) (hstate.trans hended) (hworker.trans htask)
  | panicked hthere hplaying htask =>
    exact .panicked (hsurface.trans hthere) (hstate.trans hplaying) (hworker.trans htask)

/-- Without a surface no picture is being shown. -/
theorem not_isActive (h : Phase p) (hsurface : p.surface = false) : p.state.isActive = false := by
  cases h with
  | away _ hstate => exact hstate
  | playing hthere | ended hthere | panicked hthere =>
    rw [hsurface] at hthere
    cases hthere

variable [VideoDecoder D] [FrameReader D S] [FrameSink S]

theorem step? (h : Phase p) (hp : Sound p) (hstep : BitmapPlayer.step? p = some q) : Phase q := by
  obtain ⟨loop, told, hworker, hmoved⟩ := moved_of_step? hstep
  cases h with
  | away hsurface =>
    rw [hp.worker_of_no_surface hsurface] at hworker
    cases hworker
  | ended _ _ htask | panicked _ _ htask =>
    rw [htask] at hworker
    cases hworker
  | playing hsurface hstate hloop =>
    rw [hloop] at hworker
    cases hworker
    cases hmoved with
    | goOn stage next => exact .playing hsurface hstate rfl
    | stop htold => cases htold
    | finish stage =>
      refine .ended ?_ ?_ rfl
      · exact (surface_endLoop _ _).trans hsurface
      · have hplaying : Session.state { p with stage } = .rendering := hstate
        rw [state_endLoop, hplaying]
        rfl
    | panic stage => exact .panicked hsurface hstate rfl

theorem works (h : Phase p) (hp : Sound p) (hstep : Works p q) : Phase q := by
  cases hstep with
  | step hstep => exact h.step? hp hstep
  | pass t => exact h.congr rfl rfl rfl

/-! ### Calls -/

omit [VideoDecoder D] [FrameReader D S] [FrameSink S] in
theorem start (h : Phase p) (source : String → Except PlayerFault D) (path : String) :
    Phase (p.start source path).2 := by
  rcases start_cases p source path with ⟨r, hstart⟩ | ⟨_, ⟨r, hstart⟩ | ⟨d, _, hstart⟩⟩
  all_goals rw [hstart]
  · exact h
  · exact h.congr rfl rfl rfl
  · exact h.congr rfl rfl rfl

omit [FrameReader D S] [FrameSink S] in
theorem created (h : Phase p) (hp : Sound p) : Phase p.created.2 := by
  rcases created_cases (not_any_isRunning hp) with ⟨r, hcreated⟩ | ⟨handle, pacer, _, _, hcreated⟩
  all_goals rw [hcreated]
  · exact h
  · exact .playing (Session.surface_moveTo _ _) (Session.state_moveTo _ _) rfl

theorem destroyed (h : Phase p) (hp : Sound p) : Phase p.destroyed.2 := by
  have hended := ended_endSurface hp
  refine .away hended.surface ?_
  have hdestroyed : Session.state p.destroyed.2 = p.endSurface.2.state := rfl
  rw [hdestroyed]
  cases hsurface : p.surface with
  | false =>
    have hend : p.endSurface.2 = p := by simp [Session.endSurface, hsurface]
    rw [hend]
    exact h.not_isActive hsurface
  | true =>
    rw [endSurface_of_surface hp hsurface, Session.state_joinWorker]
    refine inactive_settle ?_
    rw [Session.leaveSurface_eq_lost hsurface]
    exact (congrArg PlaybackState.isActive (Session.state_moveTo _ _)).trans
      (PlaybackState.isActive_lost _)

theorem stop (hp : Sound p) : Phase p.stop.2 := by
  have hstopped := stopped_stop hp
  exact .away hstopped.closed.surface (by rw [hstopped.state]; rfl)

end Phase

section

variable [VideoDecoder D] [FrameReader D S] [FrameSink S] {decoders : D → Prop} {sinks : S → Prop}

theorem Sound.works (h : Sound p) (hstep : Works p q) : Sound q := by
  cases hstep with
  | step hstep => exact sound_step? h hstep
  | pass t => exact sound_setNow h t

theorem phase_happens (h : Sound p ∧ Phase p) (hmove : Happens decoders p q) :
    Sound q ∧ Phase q := by
  obtain ⟨hsound, hphase⟩ := h
  cases hmove with
  | start source path => exact ⟨sound_start hsound source path, hphase.start source path⟩
  | created => exact ⟨sound_created hsound, hphase.created hsound⟩
  | changed width height => exact ⟨sound_changed hsound width height, hphase.congr rfl rfl rfl⟩
  | destroyed => exact ⟨sound_destroyed hsound, hphase.destroyed hsound⟩
  | stop => exact ⟨(stopped_stop hsound).closed.sound, .stop hsound⟩
  | work hstep => exact ⟨hsound.works hstep, hphase.works hsound hstep⟩
  | alter f => exact ⟨sound_mapDecoders hsound f, hphase.congr rfl rfl rfl⟩

theorem Reached.happens (h : Reached decoders sinks p) (hmove : Happens decoders p q) :
    Reached decoders sinks q := by
  obtain ⟨sink, options, hsink, hrun⟩ := h
  exact ⟨sink, options, hsink, hrun.tail hmove⟩

/-- At every moment a bitmap player is sound and in a phase. -/
theorem Reached.phase (h : Reached decoders sinks p) : Sound p ∧ Phase p := by
  obtain ⟨sink, options, _, hrun⟩ := h
  induction hrun with
  | refl => exact ⟨sound_new sink options, .away rfl rfl⟩
  | tail _ hmove ih => exact phase_happens ih hmove

end

end BitmapPlayer

namespace PaceLoop

/-- A pacing worker that has been told to stop or not, or has left its loop. It never panics. -/
inductive Standing (told : Bool) : Option (Task PaceLoop TaskEvent) → Prop
  | running (loop : PaceLoop) : Standing told (some (.running loop told))
  | finished (event : TaskEvent) : Standing told (some (.finished event))

theorem Standing.cancel {told : Bool} {worker : Option (Task PaceLoop TaskEvent)}
    (h : Standing told worker) : Standing true (worker.map Task.cancel) := by
  cases h with
  | running loop => exact .running loop
  | finished event => exact .finished event

end PaceLoop

namespace TexturePlayer

variable {D S R : Type} {p q : TexturePlayer D S R}

namespace Paced

variable (h : Paced p q)

include h

theorem exists_running : ∃ loop told, p.session.worker = some (.running loop told) := by
  cases h with
  | stop hworker | check hworker | ask hworker | refused hworker | limit hworker | rest hworker
  | resume hworker => exact ⟨_, _, hworker⟩

theorem surface_eq : q.session.surface = p.session.surface := by
  cases h with
  | limit => exact Session.surface_moveTo _ _
  | _ => rfl

theorem state_cases :
    q.session.state = p.session.state ∨ q.session.state = p.session.state.ended := by
  cases h with
  | limit => exact .inr (Session.state_moveTo _ _)
  | _ => exact .inl rfl

theorem streamEnded (hstate : p.session.state = .streamEnded) :
    q.session.state = .streamEnded := by
  rcases h.state_cases with heq | heq
  · exact heq.trans hstate
  · rw [heq, hstate]
    rfl

theorem drawing_of_not_running (hno : p.drawing.any Task.isRunning = false) :
    q.drawing = p.drawing := by
  cases h with
  | ask _ hdrawing =>
    rw [hdrawing] at hno
    cases hno
  | _ => rfl

theorem drawing_of_ending {rig : Rig R} {told : Bool}
    (hending : p.drawing = some (.running (.ending rig) told)) : q.drawing = p.drawing := by
  cases h with
  | ask _ hdrawing =>
    rw [hending] at hdrawing
    cases hdrawing
    exact hending.symm
  | _ => rfl

theorem rigOf_eq : DrawLoop.rigOf q.drawing = DrawLoop.rigOf p.drawing := by
  cases h with
  | ask _ hdrawing =>
    rw [hdrawing]
    exact congrArg some (DrawLoop.rig_push _ _)
  | _ => rfl

theorem standing {told : Bool} (hp : PaceLoop.Standing told p.session.worker) :
    PaceLoop.Standing told q.session.worker := by
  cases h with
  | stop | refused | limit => exact .finished _
  | check hworker | ask hworker | rest hworker | resume hworker =>
    rw [hworker] at hp
    cases hp
    exact .running _

end Paced

section

variable [FrameRenderer R D S]

namespace Drew

variable (h : Drew p q)

include h

theorem exists_running : ∃ loop told, p.drawing = some (.running loop told) := by
  cases h with
  | stop hdrawing | take hdrawing | drained hdrawing | more hdrawing | ended hdrawing
  | panicked hdrawing | finish hdrawing => exact ⟨_, _, hdrawing⟩

theorem surface_eq : q.session.surface = p.session.surface := by
  cases h with
  | ended => exact Session.surface_moveTo _ _
  | _ => rfl

theorem state_cases :
    q.session.state = p.session.state ∨ q.session.state = p.session.state.ended := by
  cases h with
  | ended => exact .inr (Session.state_moveTo _ _)
  | _ => exact .inl rfl

/-- Only at the end of the stream is the pacing worker told to stop. -/
theorem worker_cases : q.session.worker = p.session.worker ∨
    q.session.worker = p.session.worker.map Task.cancel := by
  cases h with
  | ended => exact .inl (Session.worker_moveTo _ _)
  | finish => exact .inr rfl
  | _ => exact .inl rfl

end Drew

/-- Work between calls begins no session. -/
theorem Works.not_isActive (h : Works p q) (hstate : p.session.state.isActive = false) :
    q.session.state.isActive = false := by
  have hended := PlaybackState.ended_of_not_isActive hstate
  have hsame : ∀ {s : PlaybackState}, s = p.session.state ∨ s = p.session.state.ended →
      s.isActive = false := by
    rintro s (rfl | rfl)
    · exact hstate
    · rwa [hended]
  cases h with
  | step h =>
    rcases h with hpace | hdraw
    · exact hsame (paced_of_paceStep? hpace).state_cases
    · exact hsame (drew_of_drawStep? hdraw).state_cases
  | turn | pass => exact hstate

theorem inactive_works (h : Relation.ReflTransGen Works p q)
    (hstate : p.session.state.isActive = false) : q.session.state.isActive = false := by
  induction h with
  | refl => exact hstate
  | tail _ hstep ih => exact hstep.not_isActive ih

/-- What can happen to a texture player: it is called, a worker that can go on does a step, time
passes, or its decoders are changed from outside. Some decoders can be opened, and some renderers
created for them. -/
inductive Happens [VideoDecoder D] (decoders : D → Prop) (renderers : R → Prop)
    (p : TexturePlayer D S R) : TexturePlayer D S R → Prop
  | start (source : String → Except PlayerFault D) (create : StreamInfo → Except PlayerFault R)
      (path : String) (hsource : ∀ path d, source path = .ok d → decoders d)
      (hcreate : ∀ info renderer, create info = .ok renderer → renderers renderer) :
      Happens decoders renderers p (p.start source create path).2
  | created : Happens decoders renderers p p.created.2
  | changed : Happens decoders renderers p p.changed.2
  | destroyed : Happens decoders renderers p p.destroyed.2
  | stop : Happens decoders renderers p p.stop.2
  | work {q : TexturePlayer D S R} (h : Works p q) : Happens decoders renderers p q
  | alter (f : D → D) (hf : ∀ d, decoders d → decoders (f d)) :
      Happens decoders renderers p (p.setStage (p.stage.mapDecoders f))

/-- A texture player at some moment of its life. Some decoders can be opened, some renderers created
for them, and some surfaces drawn on. -/
def Reached [VideoDecoder D] (decoders : D → Prop) (renderers : R → Prop) (sinks : S → Prop)
    (p : TexturePlayer D S R) : Prop :=
  ∃ sink options, sinks sink ∧
    Relation.ReflTransGen (Happens decoders renderers) (.new sink options) p

end

/-- The phases of a texture player. -/
inductive Phase (p : TexturePlayer D S R) : Prop
  /-- There is no surface. -/
  | away (hsurface : p.session.surface = false) (hstate : p.session.state.isActive = false)
  /-- Draws are asked for and answered. -/
  | playing {pace : PaceLoop} {place : DrawLoop R} (hsurface : p.session.surface)
      (hstate : p.session.state = .rendering)
      (hworker : p.session.worker = some (.running pace false))
      (hdrawing : p.drawing = some (.running place false)) (hplace : place.isEnding = false)
  /-- The frame limit is reached: no draw is asked for any more, some may have to be answered. -/
  | draining {event : TaskEvent} {place : DrawLoop R} (hsurface : p.session.surface)
      (hstate : p.session.state = .streamEnded)
      (hworker : p.session.worker = some (.finished event))
      (hdrawing : p.drawing = some (.running place false)) (hplace : place.isEnding = false)
  /-- A draw has found the stream at its end. -/
  | ending {rig : Rig R} (hsurface : p.session.surface) (hstate : p.session.state = .streamEnded)
      (hworker : PaceLoop.Standing false p.session.worker)
      (hdrawing : p.drawing = some (.running (.ending rig) false))
  /-- The drawing worker has come to its end, and the pacing worker knows. -/
  | ended {rig : Rig R} (hsurface : p.session.surface) (hstate : p.session.state = .streamEnded)
      (hworker : PaceLoop.Standing true p.session.worker)
      (hdrawing : p.drawing = some (.finished rig))
  /-- The drawing worker has panicked, and the pacing worker has not been told. -/
  | panicked (hsurface : p.session.surface)
      (hstate : p.session.state = .rendering ∨ p.session.state = .streamEnded)
      (hworker : PaceLoop.Standing false p.session.worker) (hdrawing : p.drawing = some .panicked)

namespace Phase

/-- The phase depends on the surface, the state and the workers only. -/
theorem congr (h : Phase p) (hsurface : q.session.surface = p.session.surface)
    (hstate : q.session.state = p.session.state) (hworker : q.session.worker = p.session.worker)
    (hdrawing : q.drawing = p.drawing) : Phase q := by
  cases h with
  | away h1 h2 => exact .away (hsurface.trans h1) (hstate ▸ h2)
  | playing h1 h2 h3 h4 h5 =>
    exact .playing (hsurface.trans h1) (hstate.trans h2) (hworker.trans h3) (hdrawing.trans h4) h5
  | draining h1 h2 h3 h4 h5 =>
    exact .draining (hsurface.trans h1) (hstate.trans h2) (hworker.trans h3) (hdrawing.trans h4) h5
  | ending h1 h2 h3 h4 =>
    exact .ending (hsurface.trans h1) (hstate.trans h2) (hworker ▸ h3) (hdrawing.trans h4)
  | ended h1 h2 h3 h4 =>
    exact .ended (hsurface.trans h1) (hstate.trans h2) (hworker ▸ h3) (hdrawing.trans h4)
  | panicked h1 h2 h3 h4 =>
    exact .panicked (hsurface.trans h1) (hstate ▸ h2) (hworker ▸ h3) (hdrawing.trans h4)

/-- Without a surface nothing is being drawn. -/
theorem not_isActive (h : Phase p) (hsurface : p.session.surface = false) :
    p.session.state.isActive = false := by
  cases h with
  | away _ hstate => exact hstate
  | playing hthere | draining hthere | ending hthere | ended hthere | panicked hthere =>
    rw [hsurface] at hthere
    cases hthere

/-- On a surface there is a pacing worker. -/
theorem standing (h : Phase p) (hsurface : p.session.surface) :
    ∃ told, PaceLoop.Standing told p.session.worker := by
  cases h with
  | away hno =>
    rw [hno] at hsurface
    cases hsurface
  | playing _ _ hworker => exact ⟨false, hworker ▸ .running _⟩
  | draining _ _ hworker => exact ⟨false, hworker ▸ .finished _⟩
  | ending _ _ hworker | panicked _ _ hworker => exact ⟨false, hworker⟩
  | ended _ _ hworker => exact ⟨true, hworker⟩

/-! ### Work -/

theorem paced (h : Phase p) (hp : Sound p) (hstep : Paced p q) : Phase q := by
  have hsurface := hstep.surface_eq
  obtain ⟨_, _, hrunning⟩ := hstep.exists_running
  cases h with
  | away hno =>
    rw [hp.worker_of_no_surface hno] at hrunning
    cases hrunning
  | playing hthere hstate hworker hdrawing hplace =>
    cases hstep with
    | stop hworker' =>
      rw [hworker] at hworker'
      cases hworker'
    | refused _ hno =>
      rw [hdrawing] at hno
      cases hno
    | ask hworker' hdrawing' =>
      rw [hworker] at hworker'
      rw [hdrawing] at hdrawing'
      cases hworker'
      cases hdrawing'
      exact .playing hthere hstate rfl rfl ((DrawLoop.isEnding_push _ _).trans hplace)
    | limit =>
      refine .draining (hsurface.trans hthere) ?_ rfl hdrawing hplace
      exact (Session.state_moveTo _ _).trans (by rw [hstate]; rfl)
    | rest hworker' =>
      rw [hworker] at hworker'
      cases hworker'
      exact .playing hthere hstate rfl hdrawing hplace
    | check | resume => exact .playing hthere hstate rfl hdrawing hplace
  | draining _ _ hworker =>
    rw [hworker] at hrunning
    cases hrunning
  | ending hthere hstate hworker hdrawing =>
    exact .ending (hsurface.trans hthere) (hstep.streamEnded hstate) (hstep.standing hworker)
      ((hstep.drawing_of_ending hdrawing).trans hdrawing)
  | ended hthere hstate hworker hdrawing =>
    exact .ended (hsurface.trans hthere) (hstep.streamEnded hstate) (hstep.standing hworker)
      ((hstep.drawing_of_not_running (by rw [hdrawing]; rfl)).trans hdrawing)
  | panicked hthere hstate hworker hdrawing =>
    have hstill : q.session.state = .rendering ∨ q.session.state = .streamEnded := by
      rcases hstep.state_cases with heq | heq <;> rcases hstate with hwas | hwas <;>
        simp [heq, hwas, PlaybackState.ended]
    exact .panicked (hsurface.trans hthere) hstill (hstep.standing hworker)
      ((hstep.drawing_of_not_running (by rw [hdrawing]; rfl)).trans hdrawing)

variable [FrameRenderer R D S]

theorem drew (h : Phase p) (hp : Sound p) (hstep : Drew p q) : Phase q := by
  have hsurface := hstep.surface_eq
  obtain ⟨_, _, hrunning⟩ := hstep.exists_running
  cases h with
  | away hno =>
    rw [drawing_of_no_surface hp hno] at hrunning
    cases hrunning
  | playing hthere hstate hworker hdrawing hplace =>
    cases hstep with
    | stop hdrawing' =>
      rw [hdrawing] at hdrawing'
      cases hdrawing'
    | take => exact .playing hthere hstate hworker rfl rfl
    | drained _ hpacing =>
      rw [pacing, hworker] at hpacing
      cases hpacing
    | more hdrawing' =>
      rw [hdrawing] at hdrawing'
      cases hdrawing'
      exact .playing hthere hstate hworker rfl rfl
    | @ended _ _ _ _ _ stage hdrawing' =>
      rw [hdrawing] at hdrawing'
      cases hdrawing'
      refine .ending (hsurface.trans hthere) ?_ ?_ rfl
      · exact (Session.state_moveTo _ _).trans (by rw [hstate]; rfl)
      · have hsame := Session.worker_moveTo (p.setStage stage).session p.session.state.ended
        exact (hsame.trans hworker) ▸ .running _
    | panicked =>
      exact .panicked hthere (.inl hstate) (hworker ▸ .running _) rfl
    | finish hdrawing' =>
      rw [hdrawing] at hdrawing'
      cases hdrawing'
      cases hplace
  | draining hthere hstate hworker hdrawing hplace =>
    cases hstep with
    | stop hdrawing' =>
      rw [hdrawing] at hdrawing'
      cases hdrawing'
    | take => exact .draining hthere hstate hworker rfl rfl
    | drained => exact .ended hthere hstate (hworker ▸ .finished _) rfl
    | more hdrawing' =>
      rw [hdrawing] at hdrawing'
      cases hdrawing'
      exact .draining hthere hstate hworker rfl rfl
    | @ended _ _ _ _ _ stage hdrawing' =>
      rw [hdrawing] at hdrawing'
      cases hdrawing'
      refine .ending (hsurface.trans hthere) ?_ ?_ rfl
      · exact (Session.state_moveTo _ _).trans (by rw [hstate]; rfl)
      · have hsame := Session.worker_moveTo (p.setStage stage).session p.session.state.ended
        exact (hsame.trans hworker) ▸ .finished _
    | panicked => exact .panicked hthere (.inr hstate) (hworker ▸ .finished _) rfl
    | finish hdrawing' =>
      rw [hdrawing] at hdrawing'
      cases hdrawing'
      cases hplace
  | ending hthere hstate hworker hdrawing =>
    rw [hdrawing] at hrunning
    cases hstep with
    | finish hdrawing' => exact .ended hthere hstate hworker.cancel rfl
    | stop hdrawing' | take hdrawing' | drained hdrawing' | more hdrawing' | ended hdrawing'
    | panicked hdrawing' =>
      rw [hdrawing] at hdrawing'
      cases hdrawing'
  | ended _ _ _ hdrawing | panicked _ _ _ hdrawing =>
    rw [hdrawing] at hrunning
    cases hrunning

theorem works (h : Phase p) (hp : Sound p) (hstep : Works p q) : Phase q := by
  cases hstep with
  | step hstep =>
    rcases hstep with hpace | hdraw
    · exact h.paced hp (paced_of_paceStep? hpace)
    · exact h.drew hp (drew_of_drawStep? hdraw)
  | turn | pass => exact h.congr rfl rfl rfl rfl

/-! ### Calls -/

omit [FrameRenderer R D S] in
theorem start [VideoDecoder D] (h : Phase p) (hp : Sound p)
    (source : String → Except PlayerFault D) (create : StreamInfo → Except PlayerFault R)
    (path : String) : Phase (p.start source create path).2 := by
  rcases start_cases hp source create path with ⟨r, hstart⟩ | ⟨hhandle, ⟨r, hstart⟩ |
    ⟨d, renderer, _, _, hstart⟩ | ⟨r, d, _, hstart⟩ | ⟨r, d, _, hstart⟩⟩
  all_goals rw [hstart]
  · exact h
  · exact h.congr rfl rfl rfl rfl
  · exact h.congr rfl rfl rfl rfl
  · exact h.congr rfl rfl rfl rfl
  · rw [Session.close_snd]
    exact h.congr rfl rfl rfl rfl

theorem created [VideoDecoder D] (h : Phase p) (hp : Sound p) : Phase p.created.2 := by
  rcases created_cases (not_any_isRunning hp) with
    ⟨r, hcreated⟩ | ⟨rig, hrenderer, ⟨_, r, hcreated⟩ |
    ⟨r, hcreated⟩ | ⟨pacer, hcreated⟩⟩
  all_goals rw [hcreated]
  · exact h
  · have hbared := bared_dropRenderer hp (surface_of_renderer hp hrenderer)
    exact h.congr hbared.surface hbared.state hbared.worker hbared.drawing
  · exact h.congr rfl rfl rfl rfl
  · exact .playing (Session.surface_moveTo _ _) (Session.state_moveTo _ _) rfl rfl rfl

theorem destroyed (h : Phase p) (hp : Sound p) : Phase p.destroyed.2 := by
  refine .away (ended_destroyed hp).surface ?_
  cases hsurface : p.session.surface with
  | false =>
    rw [destroyed_of_no_surface hp hsurface]
    exact h.not_isActive hsurface
  | true =>
    rw [destroyed_of_surface hp hsurface]
    dsimp only
    rw [(joinDrawing_spec _).1]
    dsimp only
    rw [Session.state_joinWorker]
    refine inactive_works (works_settle _) ?_
    rw [leaveSurface, if_pos hsurface, Session.leaveSurface_eq_lost hsurface]
    exact (congrArg PlaybackState.isActive (Session.state_moveTo _ _)).trans
      (PlaybackState.isActive_lost _)

theorem stop (hp : Sound p) : Phase p.stop.2 := by
  have hstopped := stopped_stop hp
  exact .away hstopped.closed.surface (by rw [hstopped.state]; rfl)

end Phase

section

variable [FrameRenderer R D S]

theorem Sound.works (h : Sound p) (hstep : Works p q) : Sound q := by
  cases hstep with
  | step hstep => exact sound_workerStep h hstep
  | turn turn => exact { h with }
  | pass t => exact sound_setNow h t

variable [VideoDecoder D] {decoders : D → Prop} {renderers : R → Prop} {sinks : S → Prop}

theorem phase_happens (h : Sound p ∧ Phase p) (hmove : Happens decoders renderers p q) :
    Sound q ∧ Phase q := by
  obtain ⟨hsound, hphase⟩ := h
  cases hmove with
  | start source create path =>
    exact ⟨sound_start hsound source create path, hphase.start hsound source create path⟩
  | created => exact ⟨sound_created hsound, hphase.created hsound⟩
  | changed => exact ⟨hsound, hphase⟩
  | destroyed => exact ⟨sound_destroyed hsound, hphase.destroyed hsound⟩
  | stop => exact ⟨(stopped_stop hsound).closed.sound, .stop hsound⟩
  | work hstep => exact ⟨hsound.works hstep, hphase.works hsound hstep⟩
  | alter f => exact ⟨sound_mapDecoders hsound f, hphase.congr rfl rfl rfl rfl⟩

theorem Reached.happens (h : Reached decoders renderers sinks p)
    (hmove : Happens decoders renderers p q) : Reached decoders renderers sinks q := by
  obtain ⟨sink, options, hsink, hrun⟩ := h
  exact ⟨sink, options, hsink, hrun.tail hmove⟩

theorem Reached.works (h : Reached decoders renderers sinks p)
    (hworks : Relation.ReflTransGen Works p q) : Reached decoders renderers sinks q := by
  induction hworks with
  | refl => exact h
  | tail _ hstep ih => exact ih.happens (.work hstep)

/-- At every moment a texture player is sound and in a phase. -/
theorem Reached.phase (h : Reached decoders renderers sinks p) : Sound p ∧ Phase p := by
  obtain ⟨sink, options, _, hrun⟩ := h
  induction hrun with
  | refl => exact ⟨sound_new sink options, .away rfl rfl⟩
  | tail _ hmove ih => exact phase_happens ih hmove

end

end TexturePlayer

namespace Player

variable {D S : Type} [VideoDecoder D] [FrameReader D S] [FrameSink S] {decoders : D → Prop}
  {sinks : S → Prop} {p q : Player D S}

/-- A player of either kind at some moment of its life. -/
def Reached (decoders : D → Prop) (sinks : S → Prop) : Player D S → Prop
  | bitmap p => BitmapPlayer.Reached decoders sinks p
  | texture p => p.Reached decoders (fun _ => True) sinks

/-- Whether all decoders that a move opens or leaves are of some kind. -/
def Move.Keeps (decoders : D → Prop) : Move D → Prop
  | start source _ => ∀ path d, source path = .ok d → decoders d
  | alter f => ∀ d, decoders d → decoders (f d)
  | _ => True

theorem reached_step? (h : p.Reached decoders sinks) (hstep : Clocked.step? p = some q) :
    q.Reached decoders sinks := by
  cases p with
  | bitmap p =>
    obtain ⟨r, hr, rfl⟩ := Option.map_eq_some_iff.mp hstep
    exact BitmapPlayer.Reached.happens h (.work (.step hr))
  | texture p =>
    obtain ⟨r, hr, rfl⟩ := Option.map_eq_some_iff.mp hstep
    exact TexturePlayer.Reached.works h (TexturePlayer.works_of_step? hr)

theorem reached_setNow (h : p.Reached decoders sinks) (t : Nat) :
    (Clocked.setNow p t).Reached decoders sinks := by
  cases p with
  | bitmap p => exact BitmapPlayer.Reached.happens h (.work (.pass t))
  | texture p => exact TexturePlayer.Reached.happens h (.work (.pass t))

theorem reached_after (h : p.Reached decoders sinks) {m : Move D} (hm : m.Keeps decoders) :
    (p.after m).Reached decoders sinks := by
  cases m with
  | start source path =>
    cases p with
    | bitmap p => exact BitmapPlayer.Reached.happens h (.start source path hm)
    | texture p =>
      exact TexturePlayer.Reached.happens h (.start source _ path hm fun _ _ _ => trivial)
  | surface event =>
    cases p with
    | bitmap p =>
      cases event with
      | created => exact BitmapPlayer.Reached.happens h .created
      | changed width height => exact BitmapPlayer.Reached.happens h (.changed width height)
      | destroyed => exact BitmapPlayer.Reached.happens h .destroyed
    | texture p =>
      cases event with
      | created => exact TexturePlayer.Reached.happens h .created
      | changed width height => exact TexturePlayer.Reached.happens h .changed
      | destroyed => exact TexturePlayer.Reached.happens h .destroyed
  | stop =>
    cases p with
    | bitmap p => exact BitmapPlayer.Reached.happens h .stop
    | texture p => exact TexturePlayer.Reached.happens h .stop
  | work =>
    rw [after]
    cases hstep : Clocked.step? p with
    | none => exact h
    | some q => exact reached_step? h hstep
  | sleep ms =>
    exact Clocked.sleep_keeps (P := Reached decoders sinks) reached_step?
      (fun t hp => reached_setNow hp t) h ms
  | alter f =>
    cases p with
    | bitmap p => exact BitmapPlayer.Reached.happens h (.alter f hm)
    | texture p => exact TexturePlayer.Reached.happens h (.alter f hm)

/-- The moments of a run are moments of a life. -/
theorem reached_run (mode : RenderMode) {sink : S} (hsink : sinks sink) (options : PlayerOptions)
    {moves : List (Move D)} (hmoves : ∀ m ∈ moves, m.Keeps decoders) :
    (moves.foldl after (new mode sink options)).Reached decoders sinks := by
  have hnew : (new mode sink options : Player D S).Reached decoders sinks := by
    cases mode <;> exact ⟨sink, options, hsink, .refl⟩
  generalize new mode sink options = p at hnew
  induction moves generalizing p with
  | nil => exact hnew
  | cons m rest ih =>
    exact ih (fun m hm => hmoves m (List.mem_cons_of_mem _ hm)) _
      (reached_after hnew (hmoves m List.mem_cons_self))

end Player

end AviPlayback
