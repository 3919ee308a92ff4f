import AviPlayback.Proofs.Player.Releases

/-!
Nothing is drawn to a lost surface. A surface that is destroyed, or whose player is stopped or
dropped, is shown what a draw that has begun still shows, and a worker gives way only between two
draws; after that no picture is shown until another surface is accepted, and no time passes while
the workers are waited for (`Player.shown_after_loss`).
-/
set_option autoImplicit false

namespace AviPlayback

namespace BitmapPlayer

variable {D S : Type} {p : BitmapPlayer D S}

theorem shown_start (p : BitmapPlayer D S) (source : String → Except PlayerFault D)
    (path : String) : Session.surface (p.start source path).2 = Session.surface p ∧
      Stage.shown (p.start source path).2.stage = p.stage.shown := by
  rcases start_cases p source path with ⟨r, hstart⟩ | ⟨_, ⟨r, hstart⟩ | ⟨d, _, hstart⟩⟩
  all_goals rw [hstart]
  · exact ⟨rfl, rfl⟩
  · exact ⟨rfl, Stage.shown_record rfl _⟩
  · exact ⟨rfl, rfl⟩

end BitmapPlayer

namespace TexturePlayer

variable {D S R : Type} {p : TexturePlayer D S R}

theorem shown_start [VideoDecoder D] (h : Sound p) (source : String → Except PlayerFault D)
    (create : StreamInfo → Except PlayerFault R) (path : String) :
    (p.start source create path).2.session.surface = p.session.surface ∧
      (p.start source create path).2.stage.shown = p.stage.shown := by
  rcases start_cases h source create path with ⟨r, hstart⟩ | ⟨hhandle, ⟨r, hstart⟩ |
    ⟨d, renderer, _, _, hstart⟩ | ⟨r, d, _, hstart⟩ | ⟨r, d, _, hstart⟩⟩
  all_goals rw [hstart]
  · exact ⟨rfl, rfl⟩
  · exact ⟨rfl, Stage.shown_record rfl _⟩
  · exact ⟨rfl, rfl⟩
  · exact ⟨rfl, rfl⟩
  · exact ⟨by rw [Session.close_snd]; rfl, (Stage.SameDraws.close _).shown_eq⟩

end TexturePlayer

namespace Player

/-- How a player loses its surface. -/
inductive Loss
  | destroyed
  | stopped
  | dropped
  deriving DecidableEq, Repr

def Move.isCall {D : Type} : Move D → Bool
  | start _ _ | surface _ | stop => true
  | _ => false

variable {D S : Type} {p q : Player D S}

/-- Whether no draw has begun. -/
def isBetweenDraws : Player D S → Bool
  | bitmap p => BitmapPlayer.isBetweenDraws p
  | texture p => p.isBetweenDraws

def isWorking : Player D S → Bool
  | bitmap p => (Session.worker p).any Task.isRunning
  | texture p => p.isWorking

/-- A player without workers that looks like another one to those who watch its surface. -/
structure Still (p q : Player D S) : Prop where
  isWorking : q.isWorking = false
  hasSurface : q.hasSurface = p.hasSurface
  shown : q.stage.shown = p.stage.shown

/-- A sound player without a surface, whose surface has been shown what that of another one has. -/
structure Away (p q : Player D S) : Prop where
  sound : Sound q
  hasSurface : q.hasSurface = false
  shown : q.stage.shown = p.stage.shown

theorem Away.refl (h : Sound p) (hsurface : p.hasSurface = false) : Away p p := ⟨h, hsurface, rfl⟩

theorem Away.isWorking (h : Away p q) : q.isWorking = false := by
  cases q with
  | bitmap q =>
    have := BitmapPlayer.Sound.worker_of_no_surface h.sound h.hasSurface
    simp [Player.isWorking, this]
  | texture q =>
    have hworker := TexturePlayer.Sound.worker_of_no_surface h.sound h.hasSurface
    have hdrawing := TexturePlayer.drawing_of_no_surface h.sound h.hasSurface
    simp [Player.isWorking, TexturePlayer.isWorking, hworker, hdrawing]

theorem Away.isBetweenDraws (h : Away p q) : q.isBetweenDraws := by
  cases q with
  | bitmap q =>
    have := BitmapPlayer.Sound.worker_of_no_surface h.sound h.hasSurface
    simp [Player.isBetweenDraws, BitmapPlayer.isBetweenDraws, this]
  | texture q =>
    have := TexturePlayer.drawing_of_no_surface h.sound h.hasSurface
    simp [Player.isBetweenDraws, TexturePlayer.isBetweenDraws, this]

variable [VideoDecoder D] [FrameReader D S] [FrameSink S]

def lose (p : Player D S) : Loss → Player D S
  | .destroyed => (p.onSurface .destroyed).2
  | .stopped => p.stop.2
  | .dropped =>
    match p with
    | bitmap p => bitmap (BitmapPlayer.abandon p)
    | texture p => texture p.abandon

/-- Whether the worker that draws stands where it gives way to others. -/
def GivesWay : Player D S → Prop
  | bitmap p => BitmapPlayer.GivesWay p
  | texture p => p.GivesWay

/-- The stage once a draw that has begun is finished. -/
def stageAfterDraw : Player D S → Stage D S
  | bitmap p => BitmapPlayer.stageAfterDraw p
  | texture p => p.stageAfterDraw

/-- A surface that appears now would be drawn on. -/
def AcceptsSurface (p : Player D S) : Prop :=
  (p.onSurface .created).1 = .ok () ∧ (p.onSurface .created).2.state = .rendering

/-- When the workers all wait, the one that draws stands where it gives way. -/
theorem givesWay_of_step?_eq_none (h : Clocked.step? p = none) : p.GivesWay := by
  cases p with
  | bitmap p => exact .inr ⟨_, Option.map_eq_none_iff.mp h⟩
  | texture p =>
    have hdraw := (TexturePlayer.stepless_of_step?_eq_none (Option.map_eq_none_iff.mp h)).2
    refine ⟨0, ?_⟩
    rw [TexturePlayer.drawTurn?, hdraw]
    exact ite_self _

theorem isBetweenDraws_of_givesWay (h : p.GivesWay) : p.isBetweenDraws := by
  cases p with
  | bitmap p => exact BitmapPlayer.isBetweenDraws_of_givesWay h
  | texture p => exact TexturePlayer.isBetweenDraws_of_givesWay h

theorem stageAfterDraw_of_isBetweenDraws (h : p.isBetweenDraws) : p.stageAfterDraw = p.stage := by
  cases p with
  | bitmap p => exact BitmapPlayer.stageAfterDraw_of_isBetweenDraws h
  | texture p => exact TexturePlayer.stageAfterDraw_of_isBetweenDraws h

/-! ### Without workers -/

theorem step?_eq_none_of_not_isWorking (h : p.isWorking = false) : Clocked.step? p = none := by
  cases hstep : Clocked.step? p with
  | none => rfl
  | some q =>
    cases p with
    | bitmap p =>
      obtain ⟨r, hr, _⟩ := Option.map_eq_some_iff.mp hstep
      obtain ⟨_, _, hworker, _⟩ := BitmapPlayer.stepped_of_step? hr
      simp [isWorking, hworker, Task.isRunning] at h
    | texture p =>
      obtain ⟨r, hr, _⟩ := Option.map_eq_some_iff.mp hstep
      obtain ⟨_, _, _, ⟨_, _, hworker, _⟩ | ⟨_, _, hworker, _⟩⟩ :=
        TexturePlayer.stepped_of_step? hr
      all_goals simp [isWorking, TexturePlayer.isWorking, hworker, Task.isRunning] at h

/-- Without workers nothing is shown by itself. -/
theorem still_after (h : p.isWorking = false) {m : Move D} (hm : m.isCall = false) :
    Still p (p.after m) := by
  have hstill : Still p p := ⟨h, rfl, rfl⟩
  cases m with
  | start | surface | stop => cases hm
  | work => rwa [after, step?_eq_none_of_not_isWorking h]
  | sleep ms =>
    refine Clocked.sleep_keeps (P := Still p) (fun hq hstep => ?_) (fun {q} t hq => ?_) hstill ms
    · rw [step?_eq_none_of_not_isWorking hq.isWorking] at hstep
      cases hstep
    · cases q <;> exact ⟨hq.isWorking, hq.hasSurface, hq.shown⟩
  | alter f => cases p <;> exact ⟨h, rfl, rfl⟩

theorem still_run (h : p.isWorking = false) {moves : List (Move D)}
    (hmoves : ∀ m ∈ moves, m.isCall = false) : Still p (moves.foldl after p) := by
  induction moves generalizing p with
  | nil => exact ⟨h, rfl, rfl⟩
  | cons m rest ih =>
    have hfirst := still_after h (hmoves m List.mem_cons_self)
    have hrest := ih hfirst.isWorking fun m hm => hmoves m (List.mem_cons_of_mem _ hm)
    exact ⟨hrest.isWorking, hrest.hasSurface.trans hfirst.hasSurface,
      hrest.shown.trans hfirst.shown⟩

/-! ### Without a surface -/

theorem hasSurface_destroyed (h : Sound p) : (p.onSurface .destroyed).2.hasSurface = false := by
  cases p with
  | bitmap p => exact (BitmapPlayer.ended_endSurface h).surface
  | texture p => exact (TexturePlayer.ended_destroyed h).surface

theorem hasSurface_stop (h : Sound p) : p.stop.2.hasSurface = false := by
  cases p with
  | bitmap p => exact (BitmapPlayer.stopped_stop h).closed.surface
  | texture p => exact (TexturePlayer.stopped_stop h).closed.surface

/-- Losing the surface finishes a draw that has begun and draws nothing besides. -/
theorem sameDraws_lose (h : Sound p) (loss : Loss) :
    p.stageAfterDraw.SameDraws (p.lose loss).stage := by
  cases p with
  | bitmap p =>
    cases loss with
    | destroyed => exact (BitmapPlayer.ended_endSurface h).draws
    | stopped => exact (BitmapPlayer.stopped_stop h).draws
    | dropped => exact (BitmapPlayer.abandon_spec p).2.2
  | texture p =>
    cases loss with
    | destroyed => exact (TexturePlayer.ended_destroyed h).draws
    | stopped => exact (TexturePlayer.stopped_stop h).draws
    | dropped => exact p.abandon_spec.2.2

theorem shown_lose (h : Sound p) (hbetween : p.isBetweenDraws) (loss : Loss) :
    (p.lose loss).stage.shown = p.stage.shown := by
  rw [(sameDraws_lose h loss).shown_eq, stageAfterDraw_of_isBetweenDraws hbetween]

/-- A surface that is destroyed takes the workers with it. -/
theorem away_destroyed (h : Sound p) (hbetween : p.isBetweenDraws) :
    Away p (p.onSurface .destroyed).2 where
  sound := sound_after h (.surface .destroyed)
  hasSurface := hasSurface_destroyed h
  shown := shown_lose h hbetween .destroyed

theorem away_stop (h : Sound p) (hbetween : p.isBetweenDraws) : Away p p.stop.2 where
  sound := sound_after h .stop
  hasSurface := hasSurface_stop h
  shown := shown_lose h hbetween .stopped

theorem away_created (h : Sound p) (hsurface : p.hasSurface = false) (hno : ¬ p.AcceptsSurface) :
    Away p (p.onSurface .created).2 := by
  cases p with
  | bitmap p =>
    rcases BitmapPlayer.created_cases (BitmapPlayer.not_any_isRunning h) with
      ⟨r, hcreated⟩ | ⟨handle, pacer, _, _, hcreated⟩
    · have hsame : ((bitmap p).onSurface .created).2 = bitmap p := by
        rw [onSurface, hcreated]
        rfl
      rw [hsame]
      exact .refl h hsurface
    · refine absurd ?_ hno
      rw [AcceptsSurface, onSurface, hcreated]
      exact ⟨rfl, Session.state_moveTo _ _⟩
  | texture p =>
    have hsound : ∀ q r, p.created = (r, q) → q.Sound := fun q r hcreated => by
      have := TexturePlayer.sound_created h
      rwa [hcreated] at this
    rw [AcceptsSurface] at hno
    rw [onSurface] at hno ⊢
    rcases TexturePlayer.created_cases (TexturePlayer.not_any_isRunning h) with
      ⟨r, hcreated⟩ | ⟨rig, hrenderer, ⟨_, r, hcreated⟩ |
      ⟨r, hcreated⟩ | ⟨pacer, hcreated⟩⟩
    all_goals rw [hcreated] at hno ⊢
    · exact .refl h hsurface
    · have hbared := TexturePlayer.bared_dropRenderer h hsurface
      exact ⟨hsound _ r hcreated, hbared.surface.trans hsurface, hbared.draws.shown_eq⟩
    · exact ⟨hsound _ r hcreated, hsurface, rfl⟩
    · exact absurd ⟨rfl, Session.state_moveTo _ _⟩ hno

/-- Until a surface is accepted, no call and no time makes a player show anything. -/
theorem away_after (h : Sound p) (hsurface : p.hasSurface = false) {m : Move D}
    (hno : m = .surface .created → ¬ p.AcceptsSurface) : Away p (p.after m) := by
  have hbetween := (Away.refl h hsurface).isBetweenDraws
  by_cases hm : m.isCall = false
  · have hstill := still_after (Away.refl h hsurface).isWorking hm
    exact ⟨sound_after h m, hstill.hasSurface.trans hsurface, hstill.shown⟩
  cases m with
  | work | sleep | alter => exact absurd rfl hm
  | start source path =>
    cases p with
    | bitmap p =>
      obtain ⟨hsame, hshown⟩ := BitmapPlayer.shown_start p source path
      exact ⟨sound_after h _, hsame.trans hsurface, hshown⟩
    | texture p =>
      obtain ⟨hsame, hshown⟩ :=
        TexturePlayer.shown_start h source TextureRenderer.create path
      exact ⟨sound_after h _, hsame.trans hsurface, hshown⟩
  | stop => exact away_stop h hbetween
  | surface event =>
    cases event with
    | created => exact away_created h hsurface (hno rfl)
    | changed width height =>
      cases p with
      | bitmap p => exact ⟨sound_after h _, hsurface, Stage.shown_record rfl _⟩
      | texture p => exact .refl h hsurface
    | destroyed => exact away_destroyed h hbetween

theorem away_run (h : Sound p) (hsurface : p.hasSurface = false) {moves : List (Move D)}
    (hno : ∀ front, front ++ [.surface .created] <+: moves →
      ¬ AcceptsSurface (front.foldl after p)) : Away p (moves.foldl after p) := by
  induction moves generalizing p with
  | nil => exact .refl h hsurface
  | cons m rest ih =>
    have hfirst := away_after (m := m) h hsurface fun hm => hno [] (by simp [hm])
    -- what comes before a surface in the rest comes, behind `m`, before it in the whole run
    have hrest := ih hfirst.sound hfirst.hasSurface fun front hfront =>
      hno (m :: front) (List.cons_prefix_cons.mpr ⟨rfl, hfront⟩)
    exact ⟨hrest.sound, hrest.hasSurface, hrest.shown.trans hfirst.shown⟩

/-! ### The loss -/

theorem now_lose (h : Sound p) (loss : Loss) : (p.lose loss).stage.now = p.stage.now := by
  cases loss with
  | destroyed =>
    cases p with
    | bitmap p => exact (BitmapPlayer.ended_endSurface h).now
    | texture p => exact (TexturePlayer.ended_destroyed h).now
  | stopped =>
    cases p with
    | bitmap p => exact (BitmapPlayer.stopped_stop h).now
    | texture p => exact (TexturePlayer.stopped_stop h).now
  | dropped =>
    cases p with
    | bitmap p => exact (BitmapPlayer.abandon_spec p).2.1
    | texture p => exact p.abandon_spec.2.1

theorem not_isWorking_dropped (p : Player D S) : (p.lose .dropped).isWorking = false := by
  cases p with
  | bitmap p => exact (BitmapPlayer.abandon_spec p).1
  | texture p => exact p.abandon_spec.1

/-- In every run a player that loses its surface, or that is stopped or dropped, lets no time pass
and shows nothing more, but that a draw that has begun is finished first; wherever a worker waits,
none has begun. From then on the player shows no picture until it accepts another surface. One that
was dropped gets no more calls. -/
theorem shown_after_loss (mode : RenderMode) (sink : S) (options : PlayerOptions)
    (moves later : List (Move D)) (loss : Loss) :
    let p : Player D S := moves.foldl after (new mode sink options)
    (p.lose loss).stage.now = p.stage.now ∧
      (p.lose loss).stage.shown = p.stageAfterDraw.shown ∧
      (p.isBetweenDraws → (p.lose loss).stage.shown = p.stage.shown) ∧
      (Clocked.step? p = none → p.GivesWay) ∧ (p.GivesWay → p.isBetweenDraws) ∧
      ((loss = .dropped → ∀ m ∈ later, m.isCall = false) →
        (∀ front, front ++ [.surface .created] <+: later →
          ¬ AcceptsSurface (front.foldl after (p.lose loss))) →
        (later.foldl after (p.lose loss)).stage.shown = (p.lose loss).stage.shown) := by
  intro p
  have hsound : Sound p := sound_run (sound_new mode sink options) moves
  refine ⟨now_lose hsound loss, (sameDraws_lose hsound loss).shown_eq,
    fun hbetween => shown_lose hsound hbetween loss, givesWay_of_step?_eq_none,
    isBetweenDraws_of_givesWay, fun hdropped hno => ?_⟩
  -- a player that lost its surface has no worker; a dropped one takes no calls besides
  cases loss with
  | destroyed =>
    have hgone := hasSurface_destroyed hsound
    exact (away_run (sound_after hsound (.surface .destroyed)) hgone hno).shown
  | stopped => exact (away_run (sound_after hsound .stop) (hasSurface_stop hsound) hno).shown
  | dropped => exact (still_run (not_isWorking_dropped p) (hdropped rfl)).shown

/-- A player in software that has shown a picture and waits for the next one: its surface is
destroyed, and nothing else is shown, however long one waits. -/
theorem shown_after_loss_pausing :
    let p : Player ScriptedDecoder ScriptedSink :=
      [.start (fun _ => .ok .onePixel) "clip", .surface .created, .work, .work, .work].foldl after
        (new .bitmap ⟨[], [], false, 0⟩ ⟨25.0, none⟩)
    let later : List (Move ScriptedDecoder) := [.sleep 1000, .surface (.changed 2 2), .sleep 1000]
    p.stage.shown.length = 1 ∧ p.isBetweenDraws ∧
      (later.foldl after (p.lose .destroyed)).stage.shown = p.stage.shown := by
  intro p later
  have hbetween : p.isBetweenDraws := by rfl
  obtain ⟨_, _, hlost, _, _, hlater⟩ := shown_after_loss .bitmap (⟨[], [], false, 0⟩ : ScriptedSink)
    ⟨25.0, none⟩
    [.start (fun _ => .ok .onePixel) "clip", .surface .created, .work, .work, .work]
    later .destroyed
  refine ⟨by rfl, hbetween, (hlater nofun fun front hfront => ?_).trans (hlost hbetween)⟩
  have : (.surface .created : Move ScriptedDecoder) ∈ later := hfront.subset (by simp)
  simp [later] at this

end Player

end AviPlayback
