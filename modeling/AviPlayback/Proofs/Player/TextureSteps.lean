import Mathlib.Logic.Relation
import AviPlayback.Proofs.Playback.Contents
import AviPlayback.Proofs.Player.TextureCalls

/-!
The steps of the two workers of a texture player, one by one. `TexturePlayer.Paced` and
`TexturePlayer.Drew` list what each worker can do, and `TexturePlayer.Works` is the work between two
calls in any order: a step of either worker, or time that passes.
-/
set_option autoImplicit false

namespace AviPlayback

namespace PaceLoop

/-- Number of requests so far. -/
def seq : PaceLoop → Nat
  | checking _ seq | sending _ seq | sent _ seq | pausing _ seq _ => seq

def isAtCheck : PaceLoop → Bool
  | checking _ _ | pausing _ _ _ => true
  | _ => false

end PaceLoop

namespace DrawLoop

variable {R : Type}

/-- Whether the stream has ended. -/
def isEnding : DrawLoop R → Bool
  | ending _ => true
  | _ => false

@[simp] theorem isEnding_push (seq : Nat) (loop : DrawLoop R) :
    (loop.push seq).isEnding = loop.isEnding := by
  cases loop <;> rfl

def rigOf : Option (Task (DrawLoop R) (Rig R)) → Option (Rig R)
  | some (.running loop _) => some loop.rig
  | some (.finished rig) => some rig
  | _ => none

@[simp] theorem rigOf_map_cancel (worker : Option (Task (DrawLoop R) (Rig R))) :
    rigOf (worker.map Task.cancel) = rigOf worker := by
  rcases worker with _ | _ | _ | _ <;> rfl

end DrawLoop

namespace Stage

variable {D S R : Type}

theorem foldl_presented (pictures : List PixelBuffer) (s : Stage D S) :
    pictures.foldl (fun s picture => s.record (.presented picture)) s =
      { s with history :=
        (pictures.map fun picture => ⟨s.now, .presented picture⟩).reverse ++ s.history } := by
  induction pictures generalizing s with
  | nil => rfl
  | cons picture rest ih =>
    rw [List.foldl_cons, ih]
    simp [record]

theorem traced_foldl_presented {A : Type} (g : Moment → Option A) (pictures : List PixelBuffer)
    (s : Stage D S) :
    (pictures.foldl (fun s picture => s.record (.presented picture)) s).traced g =
      s.traced g ++ pictures.filterMap fun picture => g ⟨s.now, .presented picture⟩ := by
  induction pictures generalizing s with
  | nil => exact (List.append_nil _).symm
  | cons picture rest ih =>
    rw [List.foldl_cons, ih, traced_record, List.append_assoc]
    have hnow : (s.record (.presented picture)).now = s.now := rfl
    cases h : g ⟨s.now, .presented picture⟩ <;> simp [h, hnow]

/-- What a draw makes of the stage. -/
structure DrawnTo (s : Stage D S) (lease : Nat) (x : Drawing R D S) (t : Stage D S) : Prop where
  decoder? : t.decoder? lease = some x.decoder
  sink : t.sink = x.sink
  now : t.now = s.now
  traced : ∀ {A : Type} (g : Moment → Option A), (∀ time i, g ⟨time, .used i⟩ = none) →
    t.traced g = s.traced g ++ x.pictures.filterMap fun picture => g ⟨s.now, .presented picture⟩

theorem DrawnTo.noted {A : Type} {s t : Stage D S} {lease : Nat} {x : Drawing R D S}
    (h : s.DrawnTo lease x t) (f : Event → Option A) (hf : ∀ i, f (.used i) = none) :
    t.noted f = s.noted f ++ x.pictures.filterMap fun picture => f (.presented picture) :=
  h.traced _ fun _ => hf

theorem exists_drawnTo [FrameRenderer R D S] {s : Stage D S} {lease : Nat} {d : D}
    (hd : s.decoder? lease = some d) (renderer : R) :
    let x : Drawing R D S := FrameRenderer.draw renderer d s.sink
    ∃ t, s.draw lease renderer = (x.outcome, x.renderer, t) ∧ s.DrawnTo lease x t := by
  intro x
  refine ⟨_, by rw [Stage.draw, hd], ?_, ?_, ?_, fun g hg => ?_⟩
  · rw [foldl_presented]
    exact (decoder?_putDecoder s lease lease _).trans (by simp [hd, x])
  · rw [foldl_presented]
  · rw [foldl_presented]
    rfl
  · rw [traced_foldl_presented]
    exact congrArg (· ++ _) (traced_record_of_none g _ (hg _ _))

/-- A draw records nothing but its use of the decoder and its pictures. -/
theorem traced_draw_of_silent [FrameRenderer R D S] {A : Type} {g : Moment → Option A}
    (hused : ∀ time i, g ⟨time, .used i⟩ = none)
    (hpresented : ∀ time picture, g ⟨time, .presented picture⟩ = none)
    (s : Stage D S) (lease : Nat) (renderer : R) :
    (s.draw lease renderer).2.2.traced g = s.traced g := by
  cases hd : s.decoder? lease with
  | none => rw [Stage.draw, hd]
  | some d =>
    obtain ⟨t, hdraw, ht⟩ := exists_drawnTo hd renderer
    rw [hdraw, ht.traced g hused]
    simp [hpresented]

theorem noted_draw_of_silent [FrameRenderer R D S] {A : Type} {f : Event → Option A}
    (hused : ∀ i, f (.used i) = none) (hpresented : ∀ picture, f (.presented picture) = none)
    (s : Stage D S) (lease : Nat) (renderer : R) :
    (s.draw lease renderer).2.2.noted f = s.noted f :=
  traced_draw_of_silent (fun _ => hused) (fun _ => hpresented) s lease renderer

end Stage

namespace TexturePlayer

variable {D S R : Type} {p q : TexturePlayer D S R}

/-- A step of the pacing worker. -/
inductive Paced (p : TexturePlayer D S R) : TexturePlayer D S R → Prop
  /-- It was told to stop. -/
  | stop {loop : PaceLoop} (hworker : p.session.worker = some (.running loop true))
      (hloop : loop.isAtCheck) : Paced p (p.leavePacing .cancelled)
  | check {pacer : Pacer} {seq : Nat}
      (hworker : p.session.worker = some (.running (.checking pacer seq) false)) :
      Paced p (p.setPacing (.sending pacer seq) false)
  /-- A draw is asked for. -/
  | ask {pacer : Pacer} {seq : Nat} {told stopped : Bool} {loop : DrawLoop R}
      (hworker : p.session.worker = some (.running (.sending pacer seq) told))
      (hdrawing : p.drawing = some (.running loop stopped)) :
      Paced p (({ p with drawing := some (.running (loop.push (seq + 1)) stopped) }.setStage
        (p.stage.record (.requested (seq + 1)))).setPacing (.sent pacer (seq + 1)) told)
  /-- Nobody is there to draw. -/
  | refused {pacer : Pacer} {seq : Nat} {told : Bool}
      (hworker : p.session.worker = some (.running (.sending pacer seq) told))
      (hdrawing : p.drawing.any Task.isRunning = false) : Paced p (p.leavePacing .finished)
  /-- The frame limit is reached. -/
  | limit {pacer : Pacer} {seq : Nat} {told : Bool}
      (hworker : p.session.worker = some (.running (.sent pacer seq) told))
      (hlimit : p.session.options.limitReached seq) :
      Paced p ({ p with session := p.session.moveTo p.session.state.ended }.leavePacing .finished)
  | rest {pacer : Pacer} {seq : Nat} {told : Bool}
      (hworker : p.session.worker = some (.running (.sent pacer seq) told))
      (hlimit : p.session.options.limitReached seq = false) :
      Paced p (p.setPacing (.pausing pacer seq (pacer.pauseEnd p.stage.now)) told)
  | resume {pacer : Pacer} {seq due : Nat}
      (hworker : p.session.worker = some (.running (.pausing pacer seq due) false))
      (hdue : due ≤ p.stage.now) : Paced p (p.setPacing (.checking pacer seq) false)

theorem paced_of_paceStep? (h : p.paceStep? = some q) : Paced p q := by
  rw [paceStep?] at h
  split at h
  · next loop told hworker =>
    cases loop with
    | checking pacer seq =>
      cases h
      cases told with
      | true => exact .stop hworker rfl
      | false => exact .check hworker
    | sending pacer seq =>
      cases h
      rw [request]
      split
      · next hdrawing => exact .ask hworker hdrawing
      · next hno =>
        refine .refused hworker ?_
        rcases hdrawing : p.drawing with _ | ⟨loop, stopped⟩ | _ | _
        · rfl
        · exact (hno loop stopped hdrawing).elim
        · rfl
        · rfl
    | sent pacer seq =>
      cases h
      split
      · next hlimit =>
        rw [tryTransition, Session.tryTransition_streamEnded]
        exact .limit hworker hlimit
      · next hlimit => exact .rest hworker ((Bool.not_eq_true _).mp hlimit)
    | pausing pacer seq due =>
      cases told with
      | true =>
        cases h
        exact .stop hworker rfl
      | false =>
        dsimp only at h
        rw [if_neg Bool.false_ne_true] at h
        split at h
        · next hdue =>
          cases h
          exact .resume hworker hdue
        · cases h
  · cases h

/-- A step of the drawing worker. -/
inductive Drew [FrameRenderer R D S] (p : TexturePlayer D S R) : TexturePlayer D S R → Prop
  /-- It was told to stop. -/
  | stop {rig : Rig R} {queue : List Nat}
      (hdrawing : p.drawing = some (.running (.waiting rig queue) true)) :
      Drew p (p.leaveDrawing rig)
  /-- A request is taken from the queue. -/
  | take {rig : Rig R} {seq : Nat} {queue : List Nat}
      (hdrawing : p.drawing = some (.running (.waiting rig (seq :: queue)) false)) :
      Drew p (p.setDrawing (.drawing rig seq queue) false)
  /-- No request will come any more. -/
  | drained {rig : Rig R} (hdrawing : p.drawing = some (.running (.waiting rig []) false))
      (hpacing : p.pacing = false) : Drew p (p.leaveDrawing rig)
  | more {rig : Rig R} {seq : Nat} {queue : List Nat} {told : Bool} {renderer : R}
      {stage : Stage D S} (hdrawing : p.drawing = some (.running (.drawing rig seq queue) told))
      (hdraw : (p.stage.record (.drawn seq)).draw rig.lease rig.renderer =
        (.more, renderer, stage)) :
      Drew p ((p.setStage stage).setDrawing (.waiting { rig with renderer } queue) told)
  | ended {rig : Rig R} {seq : Nat} {queue : List Nat} {told : Bool} {renderer : R}
      {stage : Stage D S} (hdrawing : p.drawing = some (.running (.drawing rig seq queue) told))
      (hdraw : (p.stage.record (.drawn seq)).draw rig.lease rig.renderer =
        (.ended, renderer, stage)) :
      Drew p ({ p.setStage stage with
        session := (p.setStage stage).session.moveTo p.session.state.ended }.setDrawing
          (.ending { rig with renderer }) told)
  | panicked {rig : Rig R} {seq : Nat} {queue : List Nat} {told : Bool} {renderer : R}
      {stage : Stage D S} (hdrawing : p.drawing = some (.running (.drawing rig seq queue) told))
      (hdraw : (p.stage.record (.drawn seq)).draw rig.lease rig.renderer =
        (.panicked, renderer, stage)) :
      Drew p { p.setStage (stage.release rig.lease) with drawing := some .panicked }
  /-- The pacing worker is told to stop. -/
  | finish {rig : Rig R} {told : Bool} (hdrawing : p.drawing = some (.running (.ending rig) told)) :
      Drew p ({ p with session := { p.session with
        worker := p.session.worker.map Task.cancel } }.leaveDrawing rig)

section

variable [FrameRenderer R D S]

theorem drew_answer {rig : Rig R} {seq : Nat} {queue : List Nat} {told : Bool}
    (hdrawing : p.drawing = some (.running (.drawing rig seq queue) told)) :
    Drew p (p.answer rig seq queue told) := by
  rw [answer]
  rcases hdraw : (p.stage.record (.drawn seq)).draw rig.lease rig.renderer with
    ⟨outcome, renderer, stage⟩
  dsimp only
  cases outcome with
  | more => exact .more hdrawing hdraw
  | ended =>
    dsimp only
    rw [tryTransition, Session.tryTransition_streamEnded]
    exact .ended hdrawing hdraw
  | panicked => exact .panicked hdrawing hdraw

theorem drew_of_drawStep? (h : p.drawStep? = some q) : Drew p q := by
  rw [drawStep?] at h
  split at h
  · next loop told hdrawing =>
    cases loop with
    | waiting rig queue =>
      cases told with
      | true =>
        cases h
        exact .stop hdrawing
      | false =>
        cases queue with
        | cons seq queue =>
          cases h
          exact .take hdrawing
        | nil =>
          dsimp only at h
          rw [if_neg Bool.false_ne_true] at h
          split at h
          · cases h
          · next hpacing =>
            cases h
            exact .drained hdrawing ((Bool.not_eq_true _).mp hpacing)
    | drawing rig seq queue =>
      cases h
      exact drew_answer hdrawing
    | ending rig =>
      cases h
      exact .finish hdrawing
  · cases h

/-- Work between two calls: a worker that can go on does a step, whichever it is, or time passes. -/
inductive Works (p : TexturePlayer D S R) : TexturePlayer D S R → Prop
  | step {q : TexturePlayer D S R} (h : p.paceStep? = some q ∨ p.drawStep? = some q) : Works p q
  | turn (turn : Turn) : Works p { p with turn }
  | pass (t : Nat) : Works p (p.setStage { p.stage with now := t })

theorem works_of_step? (h : Clocked.step? p = some q) : Relation.ReflTransGen Works p q := by
  obtain ⟨q', turn, rfl, hstep⟩ := exists_workerStep_of_step? h
  exact .head (.step hstep) (.single (.turn turn))

theorem works_settle (p : TexturePlayer D S R) :
    Relation.ReflTransGen Works p (Clocked.settle p) :=
  Clocked.settle_keeps (P := Relation.ReflTransGen Works p)
    (fun hq hstep => hq.trans (works_of_step? hstep)) .refl

end

end TexturePlayer

end AviPlayback
