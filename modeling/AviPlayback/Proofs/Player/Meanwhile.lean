import AviPlayback.Proofs.Player.BitmapSteps
import AviPlayback.Proofs.Player.NewSurface

/-!
What happens between two surfaces that begin a session. A move of that time is a step of a worker,
time that passes, or something beside the session (`BitmapPlayer.Meanwhile.cases`,
`TexturePlayer.Meanwhile.cases`): a call that leaves the worker of the surface alone, or the end of
the surface, after which the workers only run out.
-/
set_option autoImplicit false

namespace AviPlayback

open Relation (ReflTransGen)

/-- Whether an event is a loop's work on a frame. -/
def Event.isWork : Event → Bool
  | used _ | requested _ | drawn _ | presented _ => true
  | _ => false

namespace Event

variable {e : Event}

theorem picture?_of_aside (he : e.isWork = false) : e.picture? = none := by
  cases e with
  | presented => cases he
  | _ => rfl

theorem requested?_of_aside (he : e.isWork = false) : e.requested? = none := by
  cases e with
  | requested => cases he
  | _ => rfl

theorem drawn?_of_aside (he : e.isWork = false) : e.drawn? = none := by
  cases e with
  | drawn => cases he
  | _ => rfl

end Event

/-- Whether nothing but work on frames is told of. -/
def Moment.OfWork {A : Type} (g : Moment → Option A) : Prop :=
  ∀ m : Moment, m.event.isWork = false → g m = none

namespace Stage

variable {D S A : Type} {g : Moment → Option A} (hg : Moment.OfWork g) (s : Stage D S)

include hg

theorem traced_record_aside {e : Event} (he : e.isWork = false) :
    (s.record e).traced g = s.traced g := traced_record_of_none g s (hg _ he)

theorem traced_release_aside (lease : Nat) : (s.release lease).traced g = s.traced g :=
  traced_release g s lease fun _ _ => hg _ rfl

theorem traced_takeIn_aside (d : D) : (s.takeIn d).traced g = s.traced g :=
  traced_record_of_none g _ (hg _ rfl)

theorem traced_moveTo_aside {L : Type} (t : Session D S L) (next : PlaybackState) :
    (t.moveTo next).stage.traced g = t.stage.traced g :=
  traced_moveTo g t next fun _ _ => hg _ rfl

end Stage

namespace Stage

variable {D S : Type} (s : Stage D S)

/-- A stage on which no frame was worked on since another one, and whose decoders are still there.
-/
structure Spared (s t : Stage D S) : Prop where
  now : t.now = s.now
  traced : ∀ {A : Type} (g : Moment → Option A), Moment.OfWork g → t.traced g = s.traced g
  decoder? : ∀ i, (s.decoder? i).isSome → (t.decoder? i).isSome

namespace Spared

variable {s} {t u : Stage D S}

theorem refl : Spared s s := ⟨rfl, fun _ _ => rfl, fun _ => id⟩

theorem trans (h : Spared s t) (h' : Spared t u) : Spared s u :=
  ⟨h'.now.trans h.now, fun g hg => (h'.traced g hg).trans (h.traced g hg),
    fun i hi => h'.decoder? i (h.decoder? i hi)⟩

end Spared

theorem spared_record {e : Event} (he : e.isWork = false) : s.Spared (s.record e) :=
  ⟨rfl, fun _ hg => traced_record_aside hg s he, fun _ => id⟩

theorem spared_share (lease : Nat) : s.Spared (s.share lease) :=
  ⟨rfl, fun _ _ => rfl, fun i hi => by rwa [decoder?_share]⟩

theorem spared_release (lease : Nat) : s.Spared (s.release lease) :=
  ⟨now_release s lease, fun _ hg => traced_release_aside hg s lease,
    fun i hi => by rwa [decoder?_release]⟩

theorem spared_takeIn (d : D) : s.Spared (s.takeIn d) := by
  refine ⟨rfl, fun _ hg => traced_takeIn_aside hg s d, fun i hi => ?_⟩
  rw [decoder?_takeIn]
  split
  · rfl
  · exact hi

theorem spared_mapDecoders (f : D → D) : s.Spared (s.mapDecoders f) :=
  ⟨rfl, fun _ _ => rfl, fun i hi => by rwa [decoder?_mapDecoders, Option.isSome_map]⟩

theorem spared_resize [FrameSink S] (width height : Nat) : s.Spared (s.resize width height).2 :=
  ⟨rfl, fun _ hg => traced_record_of_none _ _ (hg _ rfl), fun _ => id⟩

theorem spared_moveTo {L : Type} (t : Session D S L) (next : PlaybackState) :
    t.stage.Spared (t.moveTo next).stage :=
  ⟨Session.now_moveTo t next, fun _ hg => traced_moveTo_aside hg t next,
    fun i hi => by rwa [decoder?_moveTo]⟩

theorem spared_close {L : Type} (t : Session D S L) : t.stage.Spared t.close.2.stage := by
  rw [Session.close_snd]
  cases t.handle with
  | none => exact .refl
  | some handle => exact spared_release _ _

theorem spared_closeAndReset {L : Type} (t : Session D S L) :
    t.stage.Spared t.closeAndReset.stage := by
  rw [Session.closeAndReset_eq]
  exact (spared_close t).trans (spared_moveTo _ _)

/-- Opening a decoder changes nothing but the stage and the handle. -/
theorem spared_openDecoder {L : Type} (t : Session D S L) (source : String → Except PlayerFault D)
    (path : String) : t.stage.Spared (t.openDecoder source path).2.stage ∧
      ∃ stage handle, (t.openDecoder source path).2 = { t with stage, handle } := by
  rw [Session.openDecoder]
  split
  · exact ⟨.refl, _, _, rfl⟩
  · split
    · exact ⟨spared_record _ rfl, _, _, rfl⟩
    · exact ⟨spared_takeIn _ _, _, _, rfl⟩

end Stage

namespace Task

variable {L A : Type} {worker next : Option (Task L A)}

/-- A worker that was left alone, told to stop, or joined. -/
def Spared (worker next : Option (Task L A)) : Prop :=
  next = worker ∨ next = worker.map cancel ∨ next = none

theorem Spared.running (h : Spared worker next) {loop : L} {told : Bool}
    (hnext : next = some (.running loop told)) :
    ∃ before, worker = some (.running loop before) := by
  rcases h with rfl | rfl | rfl
  · exact ⟨told, hnext⟩
  · exact running_of_map_cancel hnext
  · cases hnext

end Task

namespace BitmapPlayer

variable {D S : Type} {p q : BitmapPlayer D S}

/-- A player whose session went on as before, or has lost its surface. -/
structure Spared (p q : BitmapPlayer D S) : Prop where
  stage : p.stage.Spared q.stage
  options : q.options = p.options
  worker : Task.Spared p.worker q.worker
  session : q.surface = false ∨
    q.surface = p.surface ∧ q.state = p.state ∧ q.worker = p.worker

variable [VideoDecoder D] [FrameReader D S] [FrameSink S] {decoders : D → Prop}

omit [VideoDecoder D] [FrameReader D S] [FrameSink S] in
theorem spared_leaveLoop (p : BitmapPlayer D S) (lease : Nat) (event : TaskEvent) :
    p.stage.Spared (leaveLoop p lease event).stage := p.stage.spared_release lease

omit [VideoDecoder D] [FrameReader D S] [FrameSink S] in
theorem spared_panicLoop (p : BitmapPlayer D S) (lease : Nat) :
    p.stage.Spared (panicLoop p lease).stage := p.stage.spared_release lease

omit [VideoDecoder D] [FrameReader D S] [FrameSink S] in
theorem spared_endLoop (p : BitmapPlayer D S) (lease : Nat) :
    p.stage.Spared (endLoop p lease).stage := by
  rw [endLoop, Session.tryTransition_streamEnded]
  exact (Stage.spared_moveTo p _).trans (Stage.spared_release _ _)

omit [VideoDecoder D] [FrameReader D S] [FrameSink S] in
theorem options_endLoop (p : BitmapPlayer D S) (lease : Nat) :
    Session.options (endLoop p lease) = p.options := by
  have hend : Session.options (endLoop p lease) = (p.tryTransition .streamEnded).options := rfl
  rw [hend, Session.tryTransition_streamEnded, Session.options_moveTo]

omit [VideoDecoder D] [FrameReader D S] [FrameSink S] in
/-- A session begins with no work on frames. -/
theorem spared_onNewSurface (p : BitmapPlayer D S) (handle : Handle) (pacer : Pacer) :
    p.stage.Spared (p.onNewSurface handle pacer).stage ∧
      (p.onNewSurface handle pacer).options = p.options := by
  let ready : BitmapPlayer D S := { p.moveTo .surfaceReady with surface := true }
  let shared : BitmapPlayer D S := { ready with stage := ready.stage.share handle.lease }
  have hready : p.stage.Spared ready.stage := Stage.spared_moveTo p _
  refine ⟨(hready.trans (Stage.spared_share _ _)).trans (Stage.spared_moveTo shared _), ?_⟩
  exact (Session.options_moveTo shared _).trans (Session.options_moveTo p _)

theorem surface_of_step? (h : step? p = some q) : q.surface = p.surface := by
  obtain ⟨_, _, _, hstepped⟩ := stepped_of_step? h
  cases hstepped <;> rfl

/-- Something that is no work of the worker, and no part of a call is smaller. -/
inductive Aside (decoders : D → Prop) (p : BitmapPlayer D S) : BitmapPlayer D S → Prop
  | start (source : String → Except PlayerFault D) (path : String)
      (hsource : ∀ path d, source path = .ok d → decoders d) : Aside decoders p (p.start source path).2
  | changed (width height : Nat) : Aside decoders p (p.changed width height).2
  | alter (f : D → D) (hf : ∀ d, decoders d → decoders (f d)) :
      Aside decoders p { p with stage := p.stage.mapDecoders f }
  /-- The surface goes away, and the worker is told to stop. -/
  | leave : Aside decoders p p.leaveSurface
  | join (hsurface : p.surface = false) (hquiet : p.isQuiet) : Aside decoders p p.joinWorker.2
  | close (hsurface : p.surface = false) : Aside decoders p p.closeAndReset

omit [VideoDecoder D] [FrameReader D S] in
theorem Aside.spared (h : Aside decoders p q) : Spared p q := by
  cases h with
  | start source path =>
    rcases start_cases p source path with ⟨r, hstart⟩ | ⟨_, ⟨r, hstart⟩ | ⟨d, _, hstart⟩⟩
    all_goals rw [hstart]
    · exact ⟨.refl, rfl, .inl rfl, .inr ⟨rfl, rfl, rfl⟩⟩
    · exact ⟨p.stage.spared_record rfl, rfl, .inl rfl, .inr ⟨rfl, rfl, rfl⟩⟩
    · exact ⟨p.stage.spared_takeIn d, rfl, .inl rfl, .inr ⟨rfl, rfl, rfl⟩⟩
  | changed width height =>
    exact ⟨p.stage.spared_resize width height, rfl, .inl rfl, .inr ⟨rfl, rfl, rfl⟩⟩
  | alter f => exact ⟨p.stage.spared_mapDecoders f, rfl, .inl rfl, .inr ⟨rfl, rfl, rfl⟩⟩
  | leave =>
    cases hsurface : p.surface with
    | false =>
      have hleave : p.leaveSurface = p := by simp [Session.leaveSurface, hsurface]
      rw [hleave]
      exact ⟨.refl, rfl, .inl rfl, .inr ⟨rfl, rfl, rfl⟩⟩
    | true =>
      rw [Session.leaveSurface_eq_lost hsurface]
      exact ⟨Stage.spared_moveTo p _, Session.options_moveTo _ _, .inr (.inl rfl), .inl rfl⟩
  | join hsurface hquiet =>
    rw [Session.joinWorker_snd hquiet]
    exact ⟨.refl, rfl, .inr (.inr rfl), .inl hsurface⟩
  | close hsurface =>
    exact ⟨Stage.spared_closeAndReset p, Session.options_closeAndReset p,
      .inl (Session.worker_closeAndReset p), .inl ((Session.surface_closeAndReset p).trans hsurface)⟩

/-- What happens beside a session: asides, and what a worker still does once it has lost its
surface. -/
inductive Beside (decoders : D → Prop) (p : BitmapPlayer D S) : BitmapPlayer D S → Prop
  | aside {q : BitmapPlayer D S} (h : Aside decoders p q) : Beside decoders p q
  | runOut {q : BitmapPlayer D S} (hsurface : p.surface = false) (h : step? p = some q) :
      Beside decoders p q

/-- What can happen until a surface begins the next session. -/
def Meanwhile (decoders : D → Prop) (p q : BitmapPlayer D S) : Prop :=
  Happens decoders p q ∧ ¬ (p.Accepts ∧ q = p.created.2)

theorem beside_settle (hsurface : p.surface = false) :
    ReflTransGen (Beside decoders) p (Clocked.settle p) ∧
      Session.surface (Clocked.settle p) = false := by
  refine Clocked.settle_keeps (P := fun q : BitmapPlayer D S =>
    ReflTransGen (Beside decoders) p q ∧ q.surface = false) ?_ ⟨.refl, hsurface⟩
  rintro q r ⟨hrun, hno⟩ hstep
  exact ⟨hrun.tail (.runOut hno hstep), (surface_of_step? hstep).trans hno⟩

theorem beside_endSurface (h : Sound p) : ReflTransGen (Beside decoders) p p.endSurface.2 := by
  cases hsurface : p.surface with
  | false =>
    have hend : p.endSurface.2 = p := by simp [Session.endSurface, hsurface]
    rw [hend]
  | true =>
    have hleft := left_leaveSurface h hsurface
    obtain ⟨_, hquiet⟩ := hleft.settle
    obtain ⟨hrun, hno⟩ : ReflTransGen (Beside decoders) _ _ ∧ _ := beside_settle hleft.surface
    rw [endSurface_of_surface h hsurface]
    exact (ReflTransGen.head (.aside .leave) hrun).tail (.aside (.join hno hquiet))

/-- A move between two sessions is a step of the worker, time that passes, or beside the session. -/
theorem Meanwhile.cases (h : Sound p) (hmove : Meanwhile decoders p q) :
    step? p = some q ∨ (∃ t, q = { p with stage := { p.stage with now := t } }) ∨
      ReflTransGen (Beside decoders) p q := by
  obtain ⟨hhappens, hno⟩ := hmove
  cases hhappens with
  | start source path hsource => exact .inr (.inr (.single (.aside (.start source path hsource))))
  | created =>
    rw [created_of_not_accepts h fun haccepts => hno ⟨haccepts, rfl⟩]
    exact .inr (.inr .refl)
  | changed width height => exact .inr (.inr (.single (.aside (.changed width height))))
  | destroyed => exact .inr (.inr (beside_endSurface h))
  | stop =>
    exact .inr (.inr ((beside_endSurface h).tail (.aside (.close (ended_endSurface h).surface))))
  | work hworks =>
    cases hworks with
    | step hstep => exact .inl hstep
    | pass t => exact .inr (.inl ⟨t, rfl⟩)
  | alter f hf => exact .inr (.inr (.single (.aside (.alter f hf))))

section

variable {sinks : S → Prop} {P : BitmapPlayer D S → Prop}
  (hstep : ∀ {p q}, P p → step? p = some q → P q)
  (haside : ∀ {p q}, P p → Aside decoders p q → P q)

include hstep haside

theorem beside_keeps (hrun : ReflTransGen (Beside decoders) p q) (hp : P p) : P q := by
  induction hrun with
  | refl => exact hp
  | tail _ hbeside ih =>
    cases hbeside with
    | aside h => exact haside ih h
    | runOut _ h => exact hstep ih h

/-- What steps, asides and time keep holds until a surface begins the next session. -/
theorem meanwhile_keeps
    (hpass : ∀ {p : BitmapPlayer D S} (t : Nat), P p → P { p with stage := { p.stage with now := t } })
    (hreached : Reached decoders sinks p) (hrun : ReflTransGen (Meanwhile decoders) p q) (hp : P p) :
    Reached decoders sinks q ∧ P q := by
  induction hrun with
  | refl => exact ⟨hreached, hp⟩
  | tail _ hmove ih =>
    obtain ⟨hthere, hholds⟩ := ih
    refine ⟨hthere.happens hmove.1, ?_⟩
    rcases hmove.cases hthere.phase.1 with h | ⟨t, rfl⟩ | h
    · exact hstep hholds h
    · exact hpass t hholds
    · exact beside_keeps hstep haside h hholds

end

end BitmapPlayer

namespace TexturePlayer

variable {D S R : Type} {p q : TexturePlayer D S R}

/-- A player whose session went on as before, or has lost its surface. -/
structure Spared (p q : TexturePlayer D S R) : Prop where
  stage : p.stage.Spared q.stage
  options : q.session.options = p.session.options
  worker : Task.Spared p.session.worker q.session.worker
  drawing : Task.Spared p.drawing q.drawing
  session : q.session.surface = false ∨ q.session.surface = p.session.surface ∧
    q.session.state = p.session.state ∧ q.session.worker = p.session.worker ∧
    q.drawing = p.drawing

/-- Only the stage, the handle and the idle renderer may have changed. -/
theorem Spared.of_stage (hstage : p.stage.Spared q.stage)
    (hsession : ∃ stage handle, q.session = { p.session with stage, handle })
    (hdrawing : q.drawing = p.drawing) : Spared p q := by
  obtain ⟨stage, handle, hsession⟩ := hsession
  refine ⟨hstage, ?_, .inl ?_, .inl hdrawing, .inr ⟨?_, ?_, ?_, hdrawing⟩⟩ <;> rw [hsession]
  rfl

theorem Spared.refl : Spared p p := .of_stage .refl ⟨_, _, rfl⟩ rfl

theorem spared_dropRenderer (p : TexturePlayer D S R) : Spared p p.dropRenderer := by
  rw [dropRenderer]
  split
  · exact .of_stage (p.stage.spared_release _) ⟨_, _, rfl⟩ rfl
  · exact .refl

theorem spared_freeRenderer (p : TexturePlayer D S R) : Spared p p.freeRenderer := by
  rw [freeRenderer]
  split
  · next rig _ =>
    have hfreed : (Event.rendererFreed rig.lease).isWork = false := rfl
    exact .of_stage ((p.stage.spared_record hfreed).trans (Stage.spared_release _ _)) ⟨_, _, rfl⟩ rfl
  · exact .refl

theorem spared_start [VideoDecoder D] (p : TexturePlayer D S R)
    (source : String → Except PlayerFault D) (create : StreamInfo → Except PlayerFault R)
    (path : String) : Spared p (p.start source create path).2 := by
  obtain ⟨hopened, stage, handle, hsession⟩ := Stage.spared_openDecoder p.session source path
  rcases hopen : p.session.openDecoder source path with ⟨fault | handle', session⟩
  all_goals
    rw [hopen] at hopened hsession
    dsimp only at hopened hsession
    subst hsession
    rw [start, hopen]
    dsimp only
  · exact .of_stage hopened ⟨_, _, rfl⟩ rfl
  · split
    · have hcreated : (Event.rendererCreated handle'.lease).isWork = false := rfl
      have hshared := (hopened.trans (Stage.spared_share _ handle'.lease)).trans
        (Stage.spared_record _ hcreated)
      rw [dropRenderer]
      split
      · exact .of_stage (hshared.trans (Stage.spared_release _ _)) ⟨_, _, rfl⟩ rfl
      · exact .of_stage hshared ⟨_, _, rfl⟩ rfl
    · refine .of_stage ?_ ?_ rfl
      all_goals
        dsimp only
        split
      · exact hopened
      · exact hopened.trans (Stage.spared_close _)
      · exact ⟨_, _, rfl⟩
      · exact ⟨_, _, Session.close_snd _⟩
    · exact .of_stage hopened ⟨_, _, rfl⟩ rfl

/-- A session begins with no work on frames. -/
theorem spared_onNewSurface (p : TexturePlayer D S R) (pacer : Pacer) (rig : Rig R) :
    p.stage.Spared (p.onNewSurface pacer rig).stage ∧
      (p.onNewSurface pacer rig).session.options = p.session.options := by
  let ready : Session D S PaceLoop := { p.session.moveTo .surfaceReady with surface := true }
  have hready : p.stage.Spared ready.stage := Stage.spared_moveTo p.session _
  exact ⟨hready.trans (Stage.spared_moveTo ready _),
    (Session.options_moveTo ready _).trans (Session.options_moveTo p.session _)⟩

variable [VideoDecoder D] [FrameRenderer R D S] {decoders : D → Prop} {renderers : R → Prop}

/-- Something that is no work of the workers, and no part of a call is smaller. -/
inductive Aside (decoders : D → Prop) (renderers : R → Prop) (p : TexturePlayer D S R) :
    TexturePlayer D S R → Prop
  | turn (turn : Turn) : Aside decoders renderers p { p with turn }
  | start (hp : Sound p) (source : String → Except PlayerFault D)
      (create : StreamInfo → Except PlayerFault R) (path : String)
      (hsource : ∀ path d, source path = .ok d → decoders d)
      (hcreate : ∀ info renderer, create info = .ok renderer → renderers renderer) :
      Aside decoders renderers p (p.start source create path).2
  /-- A surface is refused with the loss of the renderer. -/
  | drop : Aside decoders renderers p p.dropRenderer
  /-- A surface is refused after the renderer was prepared for it. -/
  | prepare {rig : Rig R} (hrenderer : p.renderer = some rig) :
      Aside decoders renderers p { p with renderer := some (prepared D S rig) }
  | alter (f : D → D) (hf : ∀ d, decoders d → decoders (f d)) :
      Aside decoders renderers p (p.setStage (p.stage.mapDecoders f))
  /-- The surface goes away, and the workers are told to stop. -/
  | leave : Aside decoders renderers p p.leaveSurface
  | join (hsurface : p.session.surface = false) (hquiet : p.isQuiet) :
      Aside decoders renderers p { p with session := p.session.joinWorker.2 }.joinDrawing
  | free : Aside decoders renderers p p.freeRenderer
  | close (hsurface : p.session.surface = false) :
      Aside decoders renderers p { p with session := p.session.closeAndReset }

theorem Aside.spared (h : Aside decoders renderers p q) : Spared p q := by
  cases h with
  | turn turn => exact .of_stage .refl ⟨_, _, rfl⟩ rfl
  | start _ source create path => exact spared_start p source create path
  | drop => exact spared_dropRenderer p
  | prepare => exact .of_stage .refl ⟨_, _, rfl⟩ rfl
  | alter f => exact .of_stage (p.stage.spared_mapDecoders f) ⟨_, _, rfl⟩ rfl
  | leave =>
    cases hsurface : p.session.surface with
    | false =>
      have hleave : p.leaveSurface = p := by simp [leaveSurface, hsurface]
      rw [hleave]
      exact .refl
    | true =>
      rw [leaveSurface, if_pos hsurface, Session.leaveSurface_eq_lost hsurface]
      exact ⟨Stage.spared_moveTo p.session _, Session.options_moveTo _ _, .inr (.inl rfl),
        .inr (.inl rfl), .inl rfl⟩
  | join hsurface hquiet =>
    obtain ⟨hpacingQuiet, hdrawingQuiet⟩ := Bool.and_eq_true_iff.mp hquiet
    let joined : TexturePlayer D S R := { p with session := { p.session with worker := none } }
    obtain ⟨hsession, hjoined⟩ := joinDrawing_spec joined
    have hstage : joined.joinDrawing.stage = p.stage := by rw [stage, hsession]; rfl
    rw [Session.joinWorker_snd hpacingQuiet]
    refine ⟨hstage ▸ .refl, ?_, .inr (.inr ?_), .inr (.inr (hjoined hdrawingQuiet)), .inl ?_⟩
    all_goals rw [hsession]
    exact hsurface
  | free => exact spared_freeRenderer p
  | close hsurface =>
    exact ⟨Stage.spared_closeAndReset p.session, Session.options_closeAndReset p.session,
      .inl (Session.worker_closeAndReset p.session), .inl rfl,
      .inl ((Session.surface_closeAndReset p.session).trans hsurface)⟩

/-- What happens beside a session: asides, and what the workers still do once they have lost their
surface. -/
inductive Beside (decoders : D → Prop) (renderers : R → Prop) (p : TexturePlayer D S R) :
    TexturePlayer D S R → Prop
  | aside {q : TexturePlayer D S R} (h : Aside decoders renderers p q) :
      Beside decoders renderers p q
  | runOut {q : TexturePlayer D S R} (hsurface : p.session.surface = false)
      (h : p.paceStep? = some q ∨ p.drawStep? = some q) : Beside decoders renderers p q

/-- What can happen until a surface begins the next session. -/
def Meanwhile (decoders : D → Prop) (renderers : R → Prop) (p q : TexturePlayer D S R) : Prop :=
  Happens decoders renderers p q ∧ ¬ (p.Accepts ∧ q = p.created.2)

theorem beside_settle (hsurface : p.session.surface = false) :
    ReflTransGen (Beside decoders renderers) p (Clocked.settle p) ∧
      (Clocked.settle p).session.surface = false := by
  refine Clocked.settle_keeps (P := fun q : TexturePlayer D S R =>
    ReflTransGen (Beside decoders renderers) p q ∧ q.session.surface = false) ?_ ⟨.refl, hsurface⟩
  rintro q r ⟨hrun, hno⟩ hstep
  obtain ⟨q', turn, rfl, hworker⟩ := exists_workerStep_of_step? hstep
  exact ⟨(hrun.tail (.runOut hno hworker)).tail (.aside (.turn turn)),
    (sameOutside_of_workerStep hworker).surface.trans hno⟩

theorem beside_destroyed (h : Sound p) :
    ReflTransGen (Beside decoders renderers) p p.destroyed.2 := by
  cases hsurface : p.session.surface with
  | false => rw [destroyed_of_no_surface h hsurface]
  | true =>
    have hleft := left_leaveSurface h hsurface
    obtain ⟨_, hquiet⟩ := hleft.settle
    obtain ⟨hrun, hno⟩ : ReflTransGen (Beside decoders renderers) _ _ ∧ _ :=
      beside_settle hleft.surface
    rw [destroyed_of_surface h hsurface]
    exact (ReflTransGen.head (.aside .leave) hrun).tail (.aside (.join hno hquiet))

/-- A move between two sessions is a step of a worker, time that passes, or beside the session. -/
theorem Meanwhile.cases (h : Sound p) (hphase : Phase p)
    (hmove : Meanwhile decoders renderers p q) :
    (p.paceStep? = some q ∨ p.drawStep? = some q) ∨
      (∃ t, q = p.setStage { p.stage with now := t }) ∨
      ReflTransGen (Beside decoders renderers) p q := by
  obtain ⟨hhappens, hno⟩ := hmove
  cases hhappens with
  | start source create path hsource hcreate =>
    exact .inr (.inr (.single (.aside (.start h source create path hsource hcreate))))
  | created =>
    refine .inr (.inr ?_)
    rcases created_of_not_accepts h hphase fun haccepts => hno ⟨haccepts, rfl⟩ with
      hsame | ⟨rig, hrenderer, hdrop | hprepared⟩
    · rw [hsame]
    · rw [hdrop]
      exact .single (.aside .drop)
    · rw [hprepared]
      exact .single (.aside (.prepare hrenderer))
  | changed => exact .inr (.inr .refl)
  | destroyed => exact .inr (.inr (beside_destroyed h))
  | stop =>
    have hsurface := (ended_destroyed h).surface
    have hfreed := (bared_freeRenderer (ended_destroyed h).sound hsurface).surface.trans hsurface
    exact .inr (.inr (((beside_destroyed h).tail (.aside .free)).tail (.aside (.close hfreed))))
  | work hworks =>
    cases hworks with
    | step hstep => exact .inl hstep
    | turn turn => exact .inr (.inr (.single (.aside (.turn turn))))
    | pass t => exact .inr (.inl ⟨t, rfl⟩)
  | alter f hf => exact .inr (.inr (.single (.aside (.alter f hf))))

section

variable {sinks : S → Prop} {P : TexturePlayer D S R → Prop}
  (hstep : ∀ {p q}, P p → p.paceStep? = some q ∨ p.drawStep? = some q → P q)
  (haside : ∀ {p q}, P p → Aside decoders renderers p q → P q)

include hstep haside

theorem beside_keeps (hrun : ReflTransGen (Beside decoders renderers) p q) (hp : P p) : P q := by
  induction hrun with
  | refl => exact hp
  | tail _ hbeside ih =>
    cases hbeside with
    | aside h => exact haside ih h
    | runOut _ h => exact hstep ih h

/-- What steps, asides and time keep holds until a surface begins the next session. -/
theorem meanwhile_keeps
    (hpass : ∀ {p : TexturePlayer D S R} (t : Nat), P p → P (p.setStage { p.stage with now := t }))
    (hreached : Reached decoders renderers sinks p)
    (hrun : ReflTransGen (Meanwhile decoders renderers) p q) (hp : P p) :
    Reached decoders renderers sinks q ∧ P q := by
  induction hrun with
  | refl => exact ⟨hreached, hp⟩
  | tail _ hmove ih =>
    obtain ⟨hthere, hholds⟩ := ih
    refine ⟨hthere.happens hmove.1, ?_⟩
    obtain ⟨hsound, hphase⟩ := hthere.phase
    rcases hmove.cases hsound hphase with h | ⟨t, rfl⟩ | h
    · exact hstep hholds h
    · exact hpass t hholds
    · exact beside_keeps hstep haside h hholds

end

end TexturePlayer

end AviPlayback
