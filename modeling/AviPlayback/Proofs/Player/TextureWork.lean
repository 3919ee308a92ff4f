import AviPlayback.Player.Texture
import AviPlayback.Proofs.Playback.Clock
import AviPlayback.Proofs.Playback.Contents

/-!
The two workers of a texture player. `TexturePlayer.PaceStepped` and `TexturePlayer.DrawStepped` say
what a step of each can make of the player; from them follow that the workers keep the accounts of
the decoders, that workers which were told to stop leave their loops, and that they finish the draw
that has begun and draw nothing besides.
-/
set_option autoImplicit false

namespace AviPlayback

namespace PaceLoop

/-- How many steps the pacing worker does at most once it has been told to stop. -/
def rank : PaceLoop → Nat
  | sending _ _ => 3
  | sent _ _ => 2
  | checking _ _ | pausing _ _ _ => 1

end PaceLoop

namespace DrawLoop

variable {R : Type}

def rig : DrawLoop R → Rig R
  | waiting rig _ | drawing rig _ _ | ending rig => rig

/-- Whether the next step draws. -/
def isDrawing : DrawLoop R → Bool
  | drawing _ _ _ => true
  | _ => false

/-- How many steps the drawing worker does at most once it has been told to stop. -/
def rank : DrawLoop R → Nat
  | drawing _ _ _ => 2
  | waiting _ _ | ending _ => 1

/-- The decoder that the drawing worker holds, with its renderer, until it is joined. -/
def holdsOf : Option (Task (DrawLoop R) (Rig R)) → List Nat
  | some (.running loop _) => [loop.rig.lease]
  | some (.finished rig) => [rig.lease]
  | _ => []

theorem holdsOf_map_cancel (worker : Option (Task (DrawLoop R) (Rig R))) :
    holdsOf (worker.map Task.cancel) = holdsOf worker := by
  rcases worker with _ | _ | _ | _ <;> rfl

/-- The renderer and the request of a draw that has begun. -/
def inHand? : Option (Task (DrawLoop R) (Rig R)) → Option (Rig R × Nat)
  | some (.running (.drawing rig seq _) _) => some (rig, seq)
  | _ => none

theorem inHand?_map_cancel (worker : Option (Task (DrawLoop R) (Rig R))) :
    inHand? (worker.map Task.cancel) = inHand? worker := by
  rcases worker with _ | ⟨_ | _ | _, _⟩ | _ | _ <;> rfl

/-- Adds a request to those of a drawing worker that is in its loop. -/
def pushTo (seq : Nat) : Option (Task (DrawLoop R) (Rig R)) → Option (Task (DrawLoop R) (Rig R))
  | some (.running loop told) => some (.running (loop.push seq) told)
  | worker => worker

@[simp] theorem rig_push (seq : Nat) (loop : DrawLoop R) : (loop.push seq).rig = loop.rig := by
  cases loop <;> rfl

@[simp] theorem rank_push (seq : Nat) (loop : DrawLoop R) : (loop.push seq).rank = loop.rank := by
  cases loop <;> rfl

@[simp] theorem isSome_pushTo (seq : Nat) (worker : Option (Task (DrawLoop R) (Rig R))) :
    (pushTo seq worker).isSome = worker.isSome := by
  rcases worker with _ | _ | _ | _ <;> rfl

@[simp] theorem holdsOf_pushTo (seq : Nat) (worker : Option (Task (DrawLoop R) (Rig R))) :
    holdsOf (pushTo seq worker) = holdsOf worker := by
  rcases worker with _ | _ | _ | _ <;> simp [pushTo, holdsOf]

theorem inHand?_pushTo (seq : Nat) (worker : Option (Task (DrawLoop R) (Rig R))) :
    inHand? (pushTo seq worker) = inHand? worker := by
  rcases worker with _ | ⟨_ | _ | _, _⟩ | _ | _ <;> rfl

theorem isTold_pushTo {worker : Option (Task (DrawLoop R) (Rig R))} (h : Task.IsTold worker)
    (seq : Nat) : Task.IsTold (pushTo seq worker) := by
  rcases worker with _ | ⟨loop, told⟩ | _ | _
  · exact h
  · intro _ _ heq
    cases heq
    exact h loop told rfl
  · exact h
  · exact h

end DrawLoop

namespace Stage

variable {D S R : Type} {before s : Stage D S} {lease : Nat}

theorem worked_foldl_presented (pictures : List PixelBuffer) (h : before.Worked lease true s) :
    before.Worked lease true
      (pictures.foldl (fun s picture => s.record (.presented picture)) s) := by
  induction pictures generalizing s with
  | nil => exact h
  | cons picture rest ih => exact ih (.aside rfl (fun _ => rfl) h)

theorem worked_draw [FrameRenderer R D S] (renderer : R) (h : before.Worked lease true s) :
    before.Worked lease true (s.draw lease renderer).2.2 := by
  rw [draw]
  split
  · exact h
  · exact worked_foldl_presented _ (.surface _ rfl (.read _ rfl h))

namespace SameDraws

variable {t : Stage D S}

theorem foldl_presented (h : SameDraws s t) (pictures : List PixelBuffer) :
    SameDraws (pictures.foldl (fun s picture => s.record (.presented picture)) s)
      (pictures.foldl (fun s picture => s.record (.presented picture)) t) := by
  induction pictures generalizing s t with
  | nil => exact h
  | cons picture rest ih => exact ih (h.record (.presented picture))

theorem draw [FrameRenderer R D S] (h : SameDraws s t) (lease : Nat) (renderer : R) :
    SameDraws (s.draw lease renderer).2.2 (t.draw lease renderer).2.2 := by
  rw [Stage.draw, Stage.draw, h.decoder?, h.sink]
  split
  · exact h
  · exact ((h.putDecoder lease _).setSink _).foldl_presented _

end SameDraws

/-- What becomes of a stage when a draw that has begun is finished. -/
def finish [FrameRenderer R D S] (s : Stage D S) : Option (Rig R × Nat) → Stage D S
  | none => s
  | some (rig, seq) => ((s.record (.drawn seq)).draw rig.lease rig.renderer).2.2

theorem SameDraws.finish [FrameRenderer R D S] {t : Stage D S} (h : SameDraws s t)
    (inHand : Option (Rig R × Nat)) : SameDraws (s.finish inHand) (t.finish inHand) := by
  cases inHand with
  | none => exact h
  | some draw => exact (h.record (.drawn draw.2)).draw draw.1.lease draw.1.renderer

end Stage

namespace TexturePlayer

variable {D S R : Type} {p q : TexturePlayer D S R} {told : Bool}

/-- The decoders held by the drawing worker, the idle renderer and the session, one for each
hold. -/
def holds (p : TexturePlayer D S R) : List Nat :=
  DrawLoop.holdsOf p.drawing ++
    ((p.renderer.map Rig.lease).toList ++ (p.session.handle.map Handle.lease).toList)

/-- Whether no draw has begun. -/
def isBetweenDraws (p : TexturePlayer D S R) : Bool :=
  match p.drawing with
  | some (.running loop _) => !loop.isDrawing
  | _ => true

theorem isBetweenDraws_of_cancel (h : q.drawing = p.drawing.map Task.cancel) :
    q.isBetweenDraws = p.isBetweenDraws := by
  simp only [isBetweenDraws, h]
  rcases p.drawing with _ | _ | _ | _ <;> rfl

theorem exists_drawing (h : p.isBetweenDraws = false) :
    ∃ rig seq queue told, p.drawing = some (.running (.drawing rig seq queue) told) := by
  rw [isBetweenDraws] at h
  split at h
  · next loop told hdrawing =>
    cases loop with
    | drawing rig seq queue => exact ⟨rig, seq, queue, told, hdrawing⟩
    | waiting | ending => cases h
  · cases h

theorem inHand?_of_isBetweenDraws (h : p.isBetweenDraws) : DrawLoop.inHand? p.drawing = none := by
  unfold DrawLoop.inHand?
  split
  · next hdrawing =>
    rw [isBetweenDraws, hdrawing] at h
    cases h
  · rfl

theorem isBetweenDraws_of_isQuiet (h : p.isQuiet) : p.isBetweenDraws := by
  have hdrawing := (Bool.and_eq_true_iff.mp h).2
  rw [isBetweenDraws]
  split
  · next hrunning =>
    rw [hrunning] at hdrawing
    cases hdrawing
  · rfl

/-- What a step of the pacing worker makes of a player: the worker goes on to another place, where a
request may have been added to the queue, or it leaves its loop. -/
inductive PaceStepped (p : TexturePlayer D S R) (loop : PaceLoop) (told : Bool) :
    TexturePlayer D S R → Prop
  | goOn {stage : Stage D S} {next : PaceLoop} (hstage : p.stage.Worked 0 false stage)
      (htold : told → next.rank < loop.rank) :
      PaceStepped p loop told
        { p with session := { p.session with stage, worker := some (.running next told) } }
  | ask {stage : Stage D S} {next : PaceLoop} (seq : Nat) (hstage : p.stage.Worked 0 false stage)
      (htold : told → next.rank < loop.rank) :
      PaceStepped p loop told { p with
        session := { p.session with stage, worker := some (.running next told) }
        drawing := DrawLoop.pushTo seq p.drawing }
  | leave {stage : Stage D S} {cell : StateCell} {outcome : Task PaceLoop TaskEvent}
      (hstage : p.stage.Worked 0 false stage) (houtcome : outcome.isRunning = false) :
      PaceStepped p loop told
        { p with session := { p.session with stage, cell, worker := some outcome } }

/-- What a step of the drawing worker makes of a player: the worker goes on to another place, hands
its renderer back, or panics and loses it. -/
inductive DrawStepped (p : TexturePlayer D S R) (loop : DrawLoop R) (told : Bool) :
    TexturePlayer D S R → Prop
  | goOn {stage : Stage D S} {cell : StateCell} {next : DrawLoop R}
      (hstage : p.stage.Worked loop.rig.lease loop.isDrawing stage)
      (hlease : next.rig.lease = loop.rig.lease)
      (htold : told → next.rank < loop.rank ∧ next.isDrawing = false) :
      DrawStepped p loop told
        { p with session := { p.session with stage, cell }, drawing := some (.running next told) }
  | handBack {worker : Option (Task PaceLoop TaskEvent)}
      (hworker : worker = p.session.worker ∨ worker = p.session.worker.map Task.cancel) :
      DrawStepped p loop told
        { p with session := { p.session with worker }, drawing := some (.finished loop.rig) }
  | panic {stage : Stage D S} (hstage : p.stage.Worked loop.rig.lease loop.isDrawing stage) :
      DrawStepped p loop told { p with
        session := { p.session with stage := stage.release loop.rig.lease }
        drawing := some .panicked }

theorem paceStepped_of_paceStep? (h : p.paceStep? = some q) :
    ∃ loop told, p.session.worker = some (.running loop told) ∧ PaceStepped p loop told q := by
  rw [paceStep?] at h
  split at h
  · next loop told hworker =>
    refine ⟨loop, told, hworker, ?_⟩
    cases loop with
    | checking pacer seq =>
      cases h
      cases told with
      | true => exact .leave .start rfl
      | false => exact .goOn .start nofun
    | sending pacer seq =>
      cases h
      rw [request]
      split
      · next loop stopped hdrawing =>
        have hpush : DrawLoop.pushTo (seq + 1) p.drawing =
            some (.running (loop.push (seq + 1)) stopped) := by
          rw [hdrawing]
          rfl
        have hstage : p.stage.Worked 0 false (p.stage.record (.requested (seq + 1))) :=
          .aside rfl nofun .start
        have hrank : (PaceLoop.sent pacer (seq + 1)).rank < (PaceLoop.sending pacer seq).rank :=
          Nat.lt_succ_self 2
        have hasked := PaceStepped.ask (p := p) (seq + 1) hstage fun (_ : told = true) => hrank
        rw [hpush] at hasked
        exact hasked
      · exact .leave .start rfl
    | sent pacer seq =>
      cases h
      split
      · obtain ⟨next, hnext⟩ := p.session.tryTransition_eq .streamEnded
        rw [tryTransition, hnext, Session.moveTo_eq]
        exact .leave (Session.worked_moveTo .start next) rfl
      · exact .goOn .start fun _ => Nat.one_lt_two
    | pausing pacer seq due =>
      cases told with
      | true =>
        cases h
        exact .leave .start rfl
      | false =>
        dsimp only at h
        rw [if_neg Bool.false_ne_true] at h
        split at h
        · cases h
          exact .goOn .start nofun
        · cases h
  · cases h

section

variable [FrameRenderer R D S]

theorem drawStepped_answer (p : TexturePlayer D S R) (rig : Rig R) (seq : Nat) (queue : List Nat)
    (told : Bool) :
    DrawStepped p (.drawing rig seq queue) told (p.answer rig seq queue told) := by
  have hdrawn : p.stage.Worked rig.lease true
      ((p.stage.record (.drawn seq)).draw rig.lease rig.renderer).2.2 :=
    Stage.worked_draw _ (.aside rfl (fun _ => rfl) .start)
  rw [answer]
  rcases hdraw : (p.stage.record (.drawn seq)).draw rig.lease rig.renderer with
    ⟨outcome, renderer, stage⟩
  rw [hdraw] at hdrawn
  dsimp only at hdrawn ⊢
  cases outcome with
  | more =>
    exact .goOn hdrawn rfl fun _ => ⟨Nat.one_lt_two, rfl⟩
  | ended =>
    obtain ⟨next, hnext⟩ := (p.setStage stage).session.tryTransition_eq .streamEnded
    dsimp only
    rw [tryTransition, hnext, Session.moveTo_eq]
    exact .goOn (Session.worked_moveTo hdrawn next) rfl fun _ => ⟨Nat.one_lt_two, rfl⟩
  | panicked => exact .panic hdrawn

theorem drawStepped_of_drawStep? (h : p.drawStep? = some q) :
    ∃ loop told, p.drawing = some (.running loop told) ∧ DrawStepped p loop told q := by
  rw [drawStep?] at h
  split at h
  · next loop told hdrawing =>
    refine ⟨loop, told, hdrawing, ?_⟩
    cases loop with
    | waiting rig queue =>
      cases told with
      | true =>
        cases h
        exact .handBack (.inl rfl)
      | false =>
        cases queue with
        | cons seq queue =>
          cases h
          exact .goOn .start rfl nofun
        | nil =>
          dsimp only at h
          rw [if_neg Bool.false_ne_true] at h
          split at h
          · cases h
          · cases h
            exact .handBack (.inl rfl)
    | drawing rig seq queue =>
      cases h
      exact drawStepped_answer p rig seq queue told
    | ending rig =>
      cases h
      exact .handBack (.inr rfl)
  · cases h

omit [FrameRenderer R D S] in
/-- A turn is a step of the worker whose turn it is, and is counted. -/
theorem exists_step_of_turn {full : Bool} {step? : Option (TexturePlayer D S R)} {turn : Turn}
    (h : (if full then none else step?.map fun q => { q with turn }) = some q) :
    ∃ q', q = { q' with turn } ∧ step? = some q' := by
  split at h
  · cases h
  · obtain ⟨q', hq', rfl⟩ := Option.map_eq_some_iff.mp h
    exact ⟨q', rfl, hq'⟩

/-- A step is one of a worker, with the turns counted. -/
theorem exists_workerStep_of_step? (h : Clocked.step? p = some q) :
    ∃ q' turn, q = { q' with turn } ∧ (p.paceStep? = some q' ∨ p.drawStep? = some q') := by
  have hone : (∃ waits, p.paceTurn? waits = some q) ∨ ∃ waits, p.drawTurn? waits = some q := by
    have hstep : p.step? = some q := h
    rw [step?] at hstep
    split at hstep
    -- the worker whose turn it is, the other one, or the first one again in a new turn
    all_goals
      simp only [Option.or_eq_some_iff] at hstep
      rcases hstep with hfirst | ⟨_, hsecond | ⟨_, hthird⟩⟩
    · exact .inl ⟨_, hfirst⟩
    · exact .inr ⟨_, hsecond⟩
    · exact .inl ⟨_, hthird⟩
    · exact .inr ⟨_, hfirst⟩
    · exact .inl ⟨_, hsecond⟩
    · exact .inr ⟨_, hthird⟩
  rcases hone with ⟨waits, hturn⟩ | ⟨waits, hturn⟩
  · obtain ⟨q', hq, hstep⟩ := exists_step_of_turn hturn
    exact ⟨q', _, hq, .inl hstep⟩
  · obtain ⟨q', hq, hstep⟩ := exists_step_of_turn hturn
    exact ⟨q', _, hq, .inr hstep⟩

/-- What a step makes of the player, by the worker that does it. -/
theorem stepped_of_step? (h : Clocked.step? p = some q) : ∃ q' turn, q = { q' with turn } ∧
    ((∃ loop told, p.session.worker = some (.running loop told) ∧ PaceStepped p loop told q') ∨
      ∃ loop told, p.drawing = some (.running loop told) ∧ DrawStepped p loop told q') := by
  obtain ⟨q', turn, hq, hstep | hstep⟩ := exists_workerStep_of_step? h
  · exact ⟨q', turn, hq, .inl (paceStepped_of_paceStep? hstep)⟩
  · exact ⟨q', turn, hq, .inr (drawStepped_of_drawStep? hstep)⟩

/-- When nothing can be done, neither worker can do a step. -/
theorem stepless_of_step?_eq_none (h : Clocked.step? p = none) :
    p.paceStep? = none ∧ p.drawStep? = none := by
  have hstep : p.step? = none := h
  have hfirst : (Turn.longest ≤ 0) = False := by simp [Turn.longest]
  have hturns : p.paceTurn? 0 = none ∧ p.drawTurn? 0 = none := by
    rw [step?] at hstep
    split at hstep
    all_goals
      simp only [Option.or_eq_none_iff] at hstep
      obtain ⟨_, h1, h2⟩ := hstep
    · exact ⟨h2, h1⟩
    · exact ⟨h1, h2⟩
  simpa [paceTurn?, drawTurn?, hfirst] using hturns

/-- Workers that were told to stop do not wait. -/
theorem isQuiet_of_step?_eq_none (h : Clocked.step? p = none)
    (hpacing : Task.IsTold p.session.worker) (hdrawing : Task.IsTold p.drawing) : p.isQuiet := by
  obtain ⟨hpace, hdraw⟩ := stepless_of_step?_eq_none h
  have hworker : p.session.isQuiet := by
    rw [paceStep?] at hpace
    split at hpace
    · next loop told hworker =>
      obtain rfl := hpacing loop told hworker
      cases loop <;> simp at hpace
    · next hno => exact Task.all_isFinished_of_not_running hno
  have hdrawer : p.drawing.all Task.isFinished := by
    rw [drawStep?] at hdraw
    split at hdraw
    · next loop told hworker =>
      obtain rfl := hdrawing loop told hworker
      cases loop <;> simp at hdraw
    · next hno => exact Task.all_isFinished_of_not_running hno
  rw [isQuiet, hworker, hdrawer, Bool.and_self]

end

/-- How many steps the workers do at most once they have been told to stop. -/
def rank (p : TexturePlayer D S R) : Nat :=
  (match p.session.worker with
    | some (.running loop _) => loop.rank
    | _ => 0) +
  match p.drawing with
  | some (.running loop _) => loop.rank
  | _ => 0

theorem rank_le (p : TexturePlayer D S R) : p.rank ≤ 5 := by
  have hpace : ∀ loop : PaceLoop, loop.rank ≤ 3 := fun loop => by
    cases loop <;> simp [PaceLoop.rank]
  have hdraw : ∀ loop : DrawLoop R, loop.rank ≤ 2 := fun loop => by
    cases loop <;> simp [DrawLoop.rank]
  refine Nat.add_le_add (b := 3) (d := 2) ?_ ?_
  · split
    · exact hpace _
    · exact Nat.zero_le 3
  · split
    · exact hdraw _
    · exact Nat.zero_le 2

/-- What the workers leave as it is. -/
structure SameOutside (p q : TexturePlayer D S R) : Prop where
  handle : q.session.handle = p.session.handle
  surface : q.session.surface = p.session.surface
  options : q.session.options = p.session.options
  renderer : q.renderer = p.renderer
  drawing : q.drawing.isSome = p.drawing.isSome
  now : q.stage.now = p.stage.now

namespace PaceStepped

variable {loop : PaceLoop} (h : PaceStepped p loop told q)

include h

theorem worked : p.stage.Worked 0 false q.stage := by
  cases h with
  | goOn hstage | ask _ hstage | leave hstage => exact hstage

theorem sameOutside : SameOutside p q := by
  have hnow := h.worked.now_eq
  cases h with
  | goOn | leave => exact ⟨rfl, rfl, rfl, rfl, rfl, hnow⟩
  | ask seq => exact ⟨rfl, rfl, rfl, rfl, DrawLoop.isSome_pushTo seq p.drawing, hnow⟩

theorem holds_eq : q.holds = p.holds := by
  cases h with
  | goOn | leave => rfl
  | ask seq => simp [holds]

theorem held (hp : p.stage.Held p.holds) : q.stage.Held q.holds := by
  rw [h.holds_eq]
  exact h.worked.held hp nofun

theorem isTold_drawing (htold : Task.IsTold p.drawing) : Task.IsTold q.drawing := by
  cases h with
  | goOn | leave => exact htold
  | ask seq => exact DrawLoop.isTold_pushTo htold seq

theorem isTold_worker (htold : told = true) : Task.IsTold q.session.worker := by
  subst htold
  cases h with
  | goOn | ask =>
    intro _ _ heq
    cases heq
    rfl
  | leave _ houtcome =>
    intro _ _ heq
    cases heq
    cases houtcome

theorem rank_lt (hworker : p.session.worker = some (.running loop told)) (htold : told = true) :
    q.rank < p.rank := by
  cases h with
  | goOn _ hrank =>
    have := hrank htold
    simp only [rank, hworker]
    omega
  | ask seq _ hrank =>
    have := hrank htold
    rcases hdrawing : p.drawing with _ | _ | _ | _ <;>
      simp only [rank, hworker, hdrawing, DrawLoop.pushTo, DrawLoop.rank_push] <;> omega
  | @leave _ _ outcome _ houtcome =>
    have : 0 < loop.rank := by cases loop <;> simp [PaceLoop.rank]
    cases outcome with
    | running => cases houtcome
    | finished | panicked =>
      simp only [rank, hworker]
      omega

end PaceStepped

namespace DrawStepped

variable {loop : DrawLoop R} (h : DrawStepped p loop told q)

include h

theorem now_eq : q.stage.now = p.stage.now := by
  cases h with
  | goOn hstage => exact hstage.now_eq
  | handBack => rfl
  | panic hstage => exact (Stage.now_release _ _).trans hstage.now_eq

theorem sameOutside (hdrawing : p.drawing = some (.running loop told)) : SameOutside p q := by
  have hnow := h.now_eq
  have hsome : p.drawing.isSome = true := by rw [hdrawing, Option.isSome_some]
  cases h with
  | goOn | handBack | panic => exact ⟨rfl, rfl, rfl, rfl, hsome.symm, hnow⟩

theorem held (hdrawing : p.drawing = some (.running loop told)) (hp : p.stage.Held p.holds) :
    q.stage.Held q.holds := by
  have hholds : p.holds = loop.rig.lease ::
      ((p.renderer.map Rig.lease).toList ++ (p.session.handle.map Handle.lease).toList) := by
    rw [holds, hdrawing]
    rfl
  rw [hholds] at hp
  cases h with
  | goOn hstage hlease _ =>
    have hnext := hstage.held hp fun _ => List.mem_cons_self
    rw [← hlease] at hnext
    exact hnext
  | handBack => exact hp
  | panic hstage => exact (hstage.held hp fun _ => List.mem_cons_self).release

theorem sameDraws (hdraws : loop.isDrawing = false) : p.stage.SameDraws q.stage := by
  cases h with
  | goOn hstage => exact .of_worked (hdraws ▸ hstage)
  | handBack => exact .refl _
  | panic hstage => exact .trans (.of_worked (hdraws ▸ hstage)) (.release _ _)

theorem isBetweenDraws (htold : told = true) : q.isBetweenDraws := by
  cases h with
  | goOn _ _ hgoes => simp [TexturePlayer.isBetweenDraws, (hgoes htold).2]
  | handBack | panic => rfl

theorem isTold_drawing (htold : told = true) : Task.IsTold q.drawing := by
  subst htold
  cases h with
  | goOn =>
    intro _ _ heq
    cases heq
    rfl
  | handBack | panic => nofun

theorem isTold_worker (htold : Task.IsTold p.session.worker) : Task.IsTold q.session.worker := by
  cases h with
  | goOn | panic => exact htold
  | handBack hworker =>
    rcases hworker with rfl | rfl
    · exact htold
    · exact Task.isTold_map_cancel _

theorem rank_lt (hdrawing : p.drawing = some (.running loop told)) (htold : told = true) :
    q.rank < p.rank := by
  have hpos : 0 < loop.rank := by cases loop <;> simp [DrawLoop.rank]
  cases h with
  | goOn _ _ hgoes =>
    have := (hgoes htold).1
    simp only [rank, hdrawing]
    omega
  | handBack hworker =>
    simp only [rank, hdrawing]
    rcases hworker with rfl | rfl
    · omega
    · rcases p.session.worker with _ | _ | _ | _ <;> simp [Task.cancel] <;> omega
  | panic =>
    simp only [rank, hdrawing]
    omega

end DrawStepped

namespace SameOutside

theorem refl (p : TexturePlayer D S R) : SameOutside p p := ⟨rfl, rfl, rfl, rfl, rfl, rfl⟩

theorem trans {r : TexturePlayer D S R} (h : SameOutside p q) (h' : SameOutside q r) :
    SameOutside p r :=
  ⟨h'.handle.trans h.handle, h'.surface.trans h.surface, h'.options.trans h.options,
    h'.renderer.trans h.renderer, h'.drawing.trans h.drawing, h'.now.trans h.now⟩

end SameOutside

variable [FrameRenderer R D S]

theorem sameOutside_of_workerStep (h : p.paceStep? = some q ∨ p.drawStep? = some q) :
    SameOutside p q := by
  rcases h with hpace | hdraw
  · obtain ⟨_, _, _, hstepped⟩ := paceStepped_of_paceStep? hpace
    exact hstepped.sameOutside
  · obtain ⟨_, _, hdrawing, hstepped⟩ := drawStepped_of_drawStep? hdraw
    exact hstepped.sameOutside hdrawing

theorem held_of_workerStep (h : p.paceStep? = some q ∨ p.drawStep? = some q)
    (hp : p.stage.Held p.holds) : q.stage.Held q.holds := by
  rcases h with hpace | hdraw
  · obtain ⟨_, _, _, hstepped⟩ := paceStepped_of_paceStep? hpace
    exact hstepped.held hp
  · obtain ⟨_, _, hdrawing, hstepped⟩ := drawStepped_of_drawStep? hdraw
    exact hstepped.held hdrawing hp

theorem sameOutside_of_step? (h : Clocked.step? p = some q) : SameOutside p q := by
  obtain ⟨q', turn, rfl, hstep⟩ := exists_workerStep_of_step? h
  exact { sameOutside_of_workerStep hstep with }

theorem held_of_step? (h : Clocked.step? p = some q) (hp : p.stage.Held p.holds) :
    q.stage.Held q.holds := by
  obtain ⟨q', turn, rfl, hstep⟩ := exists_workerStep_of_step? h
  have hheld := held_of_workerStep hstep hp
  exact hheld

/-! ### The draw in hand -/

/-- Whether the drawing worker stands where it gives way: after some number of waits its turn is
over or it cannot go on. -/
def GivesWay (p : TexturePlayer D S R) : Prop := ∃ waits, p.drawTurn? waits = none

/-- The drawing worker gives way only between two draws. -/
theorem isBetweenDraws_of_givesWay (h : p.GivesWay) : p.isBetweenDraws := by
  obtain ⟨waits, hturn⟩ := h
  refine (Bool.not_eq_false _).mp fun hdraws => ?_
  obtain ⟨rig, seq, queue, told, hdrawing⟩ := exists_drawing hdraws
  rw [drawTurn?, atQueue, drawStep?, hdrawing] at hturn
  cases hturn

/-- The stage once a draw that has begun is finished. -/
def stageAfterDraw (p : TexturePlayer D S R) : Stage D S :=
  if p.isBetweenDraws then p.stage else (p.drawStep?.getD p).stage

theorem stageAfterDraw_of_isBetweenDraws (h : p.isBetweenDraws) :
    p.stageAfterDraw = p.stage := if_pos h

theorem sameDraws_answer (p : TexturePlayer D S R) (rig : Rig R) (seq : Nat) (queue : List Nat)
    (told : Bool) :
    (p.stage.finish (some (rig, seq))).SameDraws (p.answer rig seq queue told).stage := by
  rw [answer, Stage.finish]
  rcases (p.stage.record (.drawn seq)).draw rig.lease rig.renderer with ⟨outcome, renderer, stage⟩
  cases outcome with
  | more => exact .refl _
  | ended =>
    obtain ⟨next, hnext⟩ := (p.setStage stage).session.tryTransition_eq .streamEnded
    dsimp only
    rw [tryTransition, hnext]
    exact .moveTo (p.setStage stage).session next
  | panicked => exact .release _ _

theorem sameDraws_stageAfterDraw (p : TexturePlayer D S R) :
    (p.stage.finish (DrawLoop.inHand? p.drawing)).SameDraws p.stageAfterDraw := by
  cases hbetween : p.isBetweenDraws with
  | true =>
    rw [stageAfterDraw_of_isBetweenDraws hbetween, inHand?_of_isBetweenDraws hbetween]
    exact .refl _
  | false =>
    obtain ⟨rig, seq, queue, told, hdrawing⟩ := exists_drawing hbetween
    rw [stageAfterDraw, hbetween, drawStep?, hdrawing]
    exact sameDraws_answer p rig seq queue told

/-- A draw in hand is finished alike whoever else has gone on. -/
theorem sameDraws_of_inHand (hstage : p.stage.SameDraws q.stage)
    (hdrawing : DrawLoop.inHand? q.drawing = DrawLoop.inHand? p.drawing) :
    p.stageAfterDraw.SameDraws q.stageAfterDraw := by
  have hfinish := hstage.finish (DrawLoop.inHand? p.drawing)
  have hq := sameDraws_stageAfterDraw q
  rw [hdrawing] at hq
  exact (sameDraws_stageAfterDraw p).symm.trans (hfinish.trans hq)

/-- Once it was told to stop, the drawing worker does nothing but finish the draw in hand. -/
theorem sameDraws_of_workerStep (h : p.paceStep? = some q ∨ p.drawStep? = some q)
    (htold : Task.IsTold p.drawing) : p.stageAfterDraw.SameDraws q.stageAfterDraw := by
  rcases h with hpace | hdraw
  · obtain ⟨_, _, _, hstepped⟩ := paceStepped_of_paceStep? hpace
    refine sameDraws_of_inHand (.of_worked hstepped.worked) ?_
    cases hstepped with
    | goOn | leave => rfl
    | ask seq => exact DrawLoop.inHand?_pushTo seq p.drawing
  · obtain ⟨loop, told, hdrawing, hstepped⟩ := drawStepped_of_drawStep? hdraw
    rw [stageAfterDraw_of_isBetweenDraws (hstepped.isBetweenDraws (htold loop told hdrawing))]
    have hbetween : p.isBetweenDraws = !loop.isDrawing := by rw [isBetweenDraws, hdrawing]
    rw [stageAfterDraw, hbetween]
    cases hdraws : loop.isDrawing with
    | true =>
      rw [hdraw]
      exact .refl _
    | false => exact hstepped.sameDraws hdraws

/-- What becomes of a player whose workers were told to stop: nothing but the end of the workers,
which keeps the accounts and draws nothing but what they have begun. -/
structure Settling (p q : TexturePlayer D S R) : Prop where
  pacing : Task.IsTold q.session.worker
  drawing : Task.IsTold q.drawing
  outside : SameOutside p q
  held : p.stage.Held p.holds → q.stage.Held q.holds
  draws : p.stageAfterDraw.SameDraws q.stageAfterDraw

namespace Settling

theorem refl (hpacing : Task.IsTold p.session.worker) (hdrawing : Task.IsTold p.drawing) :
    Settling p p := ⟨hpacing, hdrawing, .refl p, id, .refl _⟩

theorem step {r : TexturePlayer D S R} (h : Settling p q) (hstep : Clocked.step? q = some r) :
    Settling p r ∧ r.rank < q.rank := by
  have houtside := h.outside.trans (sameOutside_of_step? hstep)
  have hheld := fun hp => held_of_step? hstep (h.held hp)
  obtain ⟨r, turn, rfl, hworker⟩ := exists_workerStep_of_step? hstep
  have hdraws : p.stageAfterDraw.SameDraws { r with turn }.stageAfterDraw :=
    (h.draws.trans (sameDraws_of_workerStep hworker h.drawing)).trans
      (sameDraws_of_inHand (.refl _) rfl)
  rcases hworker with hpace | hdraw
  · obtain ⟨loop, told, hworker, hstepped⟩ := paceStepped_of_paceStep? hpace
    have htold := h.pacing loop told hworker
    exact ⟨⟨hstepped.isTold_worker htold, hstepped.isTold_drawing h.drawing, houtside, hheld,
      hdraws⟩, hstepped.rank_lt hworker htold⟩
  · obtain ⟨loop, told, hdrawing, hstepped⟩ := drawStepped_of_drawStep? hdraw
    have htold := h.drawing loop told hdrawing
    exact ⟨⟨hstepped.isTold_worker h.pacing, hstepped.isTold_drawing htold, houtside, hheld,
      hdraws⟩, hstepped.rank_lt hdrawing htold⟩

end Settling

/-- Workers that were told to stop have left their loops when all work at the current time is
done. -/
theorem settling_settle (hpacing : Task.IsTold p.session.worker)
    (hdrawing : Task.IsTold p.drawing) :
    Settling p (Clocked.settle p) ∧ (Clocked.settle p).isQuiet := by
  -- the clock waits for more steps than workers that were told to stop can still do
  have hrank : p.rank ≤ Clocked.patience p := by
    have hle := rank_le p
    have hpatience : Clocked.patience p =
        8 * (p.session.options.maxFrames.getD UInt32.size + p.pending + 4) := rfl
    omega
  have hsettling : Settling p (Clocked.settle p) :=
    Clocked.settle_keeps (fun hq hstep => (Settling.step hq hstep).1) (.refl hpacing hdrawing)
  exact ⟨hsettling, isQuiet_of_step?_eq_none
    (Clocked.step?_steps_eq_none rank Settling.step (.refl hpacing hdrawing) hrank)
    hsettling.pacing hsettling.drawing⟩

end TexturePlayer

end AviPlayback
