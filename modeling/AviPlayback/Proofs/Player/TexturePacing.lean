import AviPlayback.Proofs.Playback.Beats
import AviPlayback.Proofs.Player.FrameLimit
import AviPlayback.Proofs.Player.Kinds

/-!
The pace of a player that draws through renderers, on a clock whose time passes only when both
workers wait, with renderers that always draw. `TexturePlayer.Beat` says where both workers of a
session are after `n` requests and `k` draws; their steps, the asides of the session and waits of
any length keep it (`TexturePlayer.exists_beat`), and at rest it gives the number of requests, all
of them drawn (`TexturePlayer.Beat.at_rest`).
-/
set_option autoImplicit false

namespace AviPlayback

open Relation (ReflTransGen)

/-- Renderers of some kind that are ready once they have been prepared for a surface, and then find
a frame at every draw. -/
structure SteadyRenderers {D S R : Type} [FrameRenderer R D S] (renderers ready : R → Prop)
    (decoders : D → Prop) (sinks : S → Prop) : Prop
    extends ReliableRenderers renderers decoders sinks where
  prepare : ∀ r, renderers r → (FrameRenderer.initSurface D S r).1 = .ok () →
    ready (FrameRenderer.initSurface D S r).2
  more : ∀ r d sink, ready r → decoders d → sinks sink →
    let drawing : Drawing R D S := FrameRenderer.draw r d sink
    drawing.outcome = .more ∧ ready drawing.renderer

namespace Stage.Spared

variable {D S : Type} {s t : Stage D S}

theorem requestedAt (h : s.Spared t) : t.requestedAt = s.requestedAt :=
  h.traced _ fun _ he => by rw [Event.requested?_of_aside he, Option.map_none]

theorem drawnAt (h : s.Spared t) : t.drawnAt = s.drawnAt :=
  h.traced _ fun _ he => by rw [Event.drawn?_of_aside he, Option.map_none]

end Stage.Spared

namespace PaceLoop

def pacer : PaceLoop → Pacer
  | checking pacer _ | sending pacer _ | sent pacer _ | pausing pacer _ _ => pacer

/-- How many steps the worker can do at some time at most; a request is worth two of them to the
drawing worker. -/
def stepsAt (now : Nat) : PaceLoop → Nat
  | checking _ _ => 6
  | sending _ _ => 5
  | sent _ _ => 2
  | pausing _ _ due => if due ≤ now then 7 else 1

/-- How many steps are left at some time to a pacing worker that may have left its loop. -/
def stepsOf (now : Nat) : Option (Task PaceLoop TaskEvent) → Nat
  | some (.running loop _) => loop.stepsAt now
  | _ => 0

theorem stepsOf_map_cancel (now : Nat) (worker : Option (Task PaceLoop TaskEvent)) :
    stepsOf now (worker.map Task.cancel) = stepsOf now worker := by
  rcases worker with _ | _ | _ | _ <;> rfl

theorem stepsOf_le (now : Nat) (worker : Option (Task PaceLoop TaskEvent)) :
    stepsOf now worker ≤ 7 := by
  rcases worker with _ | ⟨loop, _⟩ | _ | _
  · exact Nat.zero_le 7
  · cases loop with
    | pausing =>
      simp only [stepsOf, stepsAt]
      split <;> omega
    | _ => simp [stepsOf, stepsAt]
  all_goals exact Nat.zero_le 7

theorem stepsAt_pos (now : Nat) (loop : PaceLoop) : 0 < loop.stepsAt now := by
  cases loop with
  | pausing =>
    rw [stepsAt]
    split <;> omega
  | _ => exact Nat.succ_pos _

/-- Whether the worker is on time after `n` requests: about to ask for the next draw at its time,
just after the last one, or pausing until the next one. -/
def OnTime (start period n now : Nat) : PaceLoop → Prop
  | sent _ _ => now + period = start + n * period
  | pausing _ _ due => due = start + n * period ∧ now ≤ due
  | _ => now = start + n * period

end PaceLoop

namespace DrawLoop

variable {R : Type}

/-- How many steps the worker can do at most with the requests it has. -/
def stepsLeft : DrawLoop R → Nat
  | waiting _ queue => 2 * queue.length + 1
  | drawing _ _ queue => 2 * queue.length + 2
  | ending _ => 1

theorem stepsLeft_push (seq : Nat) (loop : DrawLoop R) :
    (loop.push seq).stepsLeft ≤ loop.stepsLeft + 2 := by
  cases loop <;> simp only [push, stepsLeft, List.length_append, List.length_singleton] <;> omega

/-- How many steps are left to a drawing worker that may have left its loop. -/
def stepsOf : Option (Task (DrawLoop R) (Rig R)) → Nat
  | some (.running loop _) => loop.stepsLeft
  | _ => 0

theorem stepsLeft_le (loop : DrawLoop R) : loop.stepsLeft ≤ 2 * loop.pending + 2 := by
  cases loop <;> simp [stepsLeft, pending]

end DrawLoop

namespace TexturePlayer

variable {D S R : Type} {p q : TexturePlayer D S R}

/-- A pacing worker in its loop, in a session that began at `start`, after `n` requests. -/
structure Keeping (options : PlayerOptions) (pacer : Pacer) (start n now : Nat) (loop : PaceLoop) :
    Prop where
  pace : loop.pacer = pacer
  onTime : loop.OnTime start pacer.period n now
  within : loop.isSent ∨ options.limitReached n = false

/-- A drawing worker in its loop after `n` requests and `k` draws: at most one request is left, and
only at its own time. -/
structure Answering (ready : R → Prop) (pacer : Pacer) (start n k : Nat) (stage : Stage D S)
    (loop : DrawLoop R) : Prop where
  going : loop.isEnding = false
  onTime : k = n ∨ k + 1 = n ∧ stage.now = start + k * pacer.period
  ready : ready loop.rig.renderer
  held : (stage.decoder? loop.rig.lease).isSome

/-- How far a session on a surface has come after `n` requests and `k` draws. -/
inductive Course (options : PlayerOptions) (n k : Nat) (p : TexturePlayer D S R) : Prop
  | playing {pace : PaceLoop} {place : DrawLoop R} (hstate : p.session.state = .rendering)
      (hworker : p.session.worker = some (.running pace false))
      (hdrawing : p.drawing = some (.running place false))
  /-- The frame limit is reached. -/
  | draining {event : TaskEvent} {place : DrawLoop R} (hstate : p.session.state = .streamEnded)
      (hworker : p.session.worker = some (.finished event))
      (hdrawing : p.drawing = some (.running place false)) (hlimit : options.limitReached n)
  /-- All requests have been drawn, too. -/
  | finished {event : TaskEvent} {rig : Rig R} (hstate : p.session.state = .streamEnded)
      (hworker : p.session.worker = some (.finished event))
      (hdrawing : p.drawing = some (.finished rig)) (hlimit : options.limitReached n) (hall : k = n)

/-- A session that began at `start`, with `n` requests, one each period, and `k` draws, each at the
time of its request. -/
structure Beat (ready : R → Prop) (options : PlayerOptions) (pacer : Pacer) (start : Nat)
    (requests draws : List (Nat × Nat)) (n k : Nat) (p : TexturePlayer D S R) : Prop where
  limit : p.session.options = options
  requested : p.stage.requestedAt = requests ++ pacer.numbered start n
  drawn : p.stage.drawnAt = draws ++ pacer.numbered start k
  late : start + (n - 1) * pacer.period ≤ p.stage.now
  le : ∀ m ∈ options.maxFrames, n ≤ m
  pacing : ∀ loop told, p.session.worker = some (.running loop told) →
    Keeping options pacer start n p.stage.now loop
  drawing : ∀ loop told, p.drawing = some (.running loop told) →
    Answering ready pacer start n k p.stage loop
  course : p.session.surface → Course options n k p

variable {ready : R → Prop} {options : PlayerOptions} {pacer : Pacer} {start n k : Nat}
  {requests draws : List (Nat × Nat)} {earlier begun : List Nat}

namespace Course

/-- The course depends on the state and the workers only. -/
theorem congr (h : Course options n k p) (hstate : q.session.state = p.session.state)
    (hworker : q.session.worker = p.session.worker) (hdrawing : q.drawing = p.drawing) :
    Course options n k q := by
  cases h with
  | playing hplaying hpace hdraw =>
    exact .playing (hstate.trans hplaying) (hworker.trans hpace) (hdrawing.trans hdraw)
  | draining hended hpace hdraw hlimit =>
    exact .draining (hstate.trans hended) (hworker.trans hpace) (hdrawing.trans hdraw) hlimit
  | finished hended hpace hdraw hlimit hall =>
    exact .finished (hstate.trans hended) (hworker.trans hpace) (hdrawing.trans hdraw) hlimit hall

/-- While the pacing worker is in its loop, frames are being produced. -/
theorem of_pacing (h : Course options n k p) {loop : PaceLoop} {told : Bool}
    (hworker : p.session.worker = some (.running loop told)) :
    told = false ∧ p.session.state = .rendering ∧
      ∃ place, p.drawing = some (.running place false) := by
  cases h with
  | playing hstate hpace hdrawing =>
    rw [hpace] at hworker
    cases hworker
    exact ⟨rfl, hstate, _, hdrawing⟩
  | draining _ hpace | finished _ hpace =>
    rw [hpace] at hworker
    cases hworker

/-- On its surface a drawing worker has not been told to stop. -/
theorem untold (h : Course options n k p) {place : DrawLoop R} {told : Bool}
    (hdrawing : p.drawing = some (.running place told)) : told = false := by
  cases h with
  | playing _ _ hplace | draining _ _ hplace =>
    rw [hplace] at hdrawing
    cases hdrawing
    rfl
  | finished _ _ hplace =>
    rw [hplace] at hdrawing
    cases hdrawing

/-- The drawing worker goes to another place in its loop. -/
theorem goOn (h : Course options n k p) {place next : DrawLoop R} {told : Bool}
    (hdrawing : p.drawing = some (.running place told)) (k' : Nat)
    (hstate : q.session.state = p.session.state) (hworker : q.session.worker = p.session.worker)
    (hnext : q.drawing = some (.running next told)) : Course options n k' q := by
  obtain rfl := h.untold hdrawing
  cases h with
  | playing hplaying hpace => exact .playing (hstate.trans hplaying) (hworker.trans hpace) hnext
  | draining hended hpace _ hlimit =>
    exact .draining (hstate.trans hended) (hworker.trans hpace) hnext hlimit
  | finished _ _ hplace =>
    rw [hplace] at hdrawing
    cases hdrawing

end Course

/-- A drawing worker that waits without a request has drawn them all. -/
theorem Ordered.eq_of_waiting (hp : Ordered earlier begun n k p) {rig : Rig R} {told : Bool}
    (hdrawing : p.drawing = some (.running (.waiting rig []) told)) : k = n := by
  have hqueue := (congrArg List.length (hp.unanswered _ _ hdrawing rfl)).symm
  rw [List.length_range'] at hqueue
  exact Nat.le_antisymm hp.le (Nat.le_of_sub_eq_zero hqueue)

namespace Beat

/-- No draw is asked for or begun, and a drawing worker that is still in its loop keeps its
renderer. -/
theorem congr (h : Beat ready options pacer start requests draws n k p)
    (hstage : p.stage.Spared q.stage) (hoptions : q.session.options = p.session.options)
    (hpacing : ∀ loop told, q.session.worker = some (.running loop told) →
      Keeping options pacer start n p.stage.now loop)
    (hdrawing : ∀ loop told, q.drawing = some (.running loop told) →
      ∃ before told', p.drawing = some (.running before told') ∧ loop.rig = before.rig ∧
        loop.isEnding = before.isEnding)
    (hcourse : q.session.surface → Course options n k q) :
    Beat ready options pacer start requests draws n k q := by
  refine ⟨hoptions.trans h.limit, hstage.requestedAt.trans h.requested,
    hstage.drawnAt.trans h.drawn, hstage.now ▸ h.late, h.le, hstage.now ▸ hpacing,
    fun loop told hrunning => ?_, hcourse⟩
  obtain ⟨before, told', hbefore, hrig, hending⟩ := hdrawing loop told hrunning
  obtain ⟨hgoing, honTime, hready, hheld⟩ := h.drawing before told' hbefore
  exact ⟨hending.trans hgoing, hstage.now ▸ honTime, hrig ▸ hready, hstage.decoder? _ (hrig ▸ hheld)⟩

theorem spared (h : Beat ready options pacer start requests draws n k p) (hq : Spared p q) :
    Beat ready options pacer start requests draws n k q := by
  refine h.congr hq.stage hq.options (fun loop told hworker => ?_) (fun loop told hrunning => ?_)
    fun hsurface => ?_
  · obtain ⟨before, hbefore⟩ := hq.worker.running hworker
    exact h.pacing loop before hbefore
  · obtain ⟨before, hbefore⟩ := hq.drawing.running hrunning
    exact ⟨loop, before, hbefore, rfl, rfl⟩
  · rcases hq.session with hno | ⟨hsame, hstate, hworker, hdrawing⟩
    · rw [hno] at hsurface
      cases hsurface
    · exact (h.course (hsame ▸ hsurface)).congr hstate hworker hdrawing

/-- The pacing worker goes to another place at the same time. -/
theorem goOn (h : Beat ready options pacer start requests draws n k p) {loop next : PaceLoop}
    {told : Bool} (hworker : p.session.worker = some (.running loop told))
    (hnext : Keeping options pacer start n p.stage.now next) :
    Beat ready options pacer start requests draws n k (p.setPacing next told) := by
  refine h.congr .refl rfl (fun _ _ heq => ?_)
    (fun loop told hrunning => ⟨loop, told, hrunning, rfl, rfl⟩) fun hsurface => ?_
  · cases heq
    exact hnext
  · obtain ⟨rfl, hstate, place, hdrawing⟩ := (h.course hsurface).of_pacing hworker
    exact .playing hstate rfl hdrawing

/-- When the next draw is due, all others have been drawn. -/
theorem all_drawn (h : Beat ready options pacer start requests draws n k p)
    (hperiod : 0 < pacer.period) {pacer' : Pacer} {seq : Nat} {told stopped : Bool}
    {place : DrawLoop R} (hworker : p.session.worker = some (.running (.sending pacer' seq) told))
    (hdrawing : p.drawing = some (.running place stopped)) :
    k = n ∧ p.stage.now = start + n * pacer.period := by
  have hnow : p.stage.now = start + n * pacer.period := (h.pacing _ _ hworker).onTime
  refine ⟨(h.drawing _ _ hdrawing).onTime.resolve_right fun hlast => ?_, hnow⟩
  obtain ⟨hone, htime⟩ := hlast
  rw [← hone, Nat.succ_mul] at hnow
  omega

/-- The pacing worker asks for the next draw at its time, and only when all others are drawn. -/
theorem paced (h : Beat ready options pacer start requests draws n k p)
    (hp : Ordered earlier begun n k p) (hperiod : 0 < pacer.period) (hstep : Paced p q) :
    Beat ready options pacer start requests draws (n + p.isAsking.toNat) k q := by
  cases hstep with
  | stop hworker hloop =>
    rw [isAsking_of_not_isSending hworker (PaceLoop.isSending_of_isAtCheck hloop)]
    refine h.congr .refl rfl (fun _ _ heq => by cases heq)
      (fun loop told hrunning => ⟨loop, told, hrunning, rfl, rfl⟩) fun hsurface => ?_
    obtain ⟨htold, _⟩ := (h.course hsurface).of_pacing hworker
    cases htold
  | check hworker =>
    obtain ⟨hpace, honTime, hwithin⟩ := h.pacing _ _ hworker
    rw [isAsking_of_not_isSending hworker rfl]
    exact h.goOn hworker ⟨hpace, honTime, hwithin⟩
  | @ask pacer' seq told stopped place hworker hdrawing =>
    obtain ⟨hpace, _, hwithin⟩ := h.pacing _ _ hworker
    obtain ⟨hgoing, _, hready, hheld⟩ := h.drawing _ _ hdrawing
    obtain ⟨hall, hnow⟩ := h.all_drawn hperiod hworker hdrawing
    have hwithin' := hwithin.resolve_left Bool.false_ne_true
    have hasking : p.isAsking = true := by rw [isAsking, hworker, hdrawing]
    have hseq : seq = n := hp.seq _ _ hworker
    rw [hasking]
    refine ⟨h.limit, ?_, ?_, Nat.le_of_eq hnow.symm, fun m hm =>
      PlayerOptions.lt_of_not_limitReached hm hwithin', fun loop told' heq => ?_,
      fun loop told' heq => ?_, fun hsurface => ?_⟩
    · refine (Stage.traced_record _ p.stage _).trans ?_
      rw [Bool.toNat_true, Pacer.numbered_succ, ← List.append_assoc, ← hnow, ← hseq]
      exact congrArg (· ++ _) (h.requested.trans (by rw [hseq]))
    · exact (Stage.traced_record_of_none _ p.stage rfl).trans h.drawn
    · cases heq
      refine ⟨hpace, ?_, .inl rfl⟩
      have htime : p.stage.now + pacer.period = start + (n + 1) * pacer.period := by
        rw [hnow, Nat.succ_mul, Nat.add_assoc]
      exact htime
    · cases heq
      refine ⟨(DrawLoop.isEnding_push _ _).trans hgoing, .inr ⟨congrArg (· + 1) hall, ?_⟩, ?_, ?_⟩
      · rw [hall]
        exact hnow
      · rw [DrawLoop.rig_push]
        exact hready
      · rw [DrawLoop.rig_push]
        exact hheld
    · obtain ⟨rfl, hstate, place', hplace⟩ := (h.course hsurface).of_pacing hworker
      rw [hplace] at hdrawing
      cases hdrawing
      exact .playing hstate rfl rfl
  | refused hworker hdrawing =>
    rw [isAsking_of_not_running hdrawing]
    refine h.congr .refl rfl (fun _ _ heq => by cases heq)
      (fun loop told hrunning => ⟨loop, told, hrunning, rfl, rfl⟩) fun hsurface => ?_
    obtain ⟨_, _, place, hplace⟩ := (h.course hsurface).of_pacing hworker
    rw [hplace] at hdrawing
    cases hdrawing
  | limit hworker hlimit =>
    rw [isAsking_of_not_isSending hworker rfl]
    have hseq : _ = n := hp.seq _ _ hworker
    refine h.congr (Stage.spared_moveTo p.session _) (Session.options_moveTo _ _)
      (fun _ _ heq => by cases heq) (fun loop told hrunning => ⟨loop, told, hrunning, rfl, rfl⟩)
      fun hsurface => ?_
    have hthere : p.session.surface := (Session.surface_moveTo p.session _).symm.trans hsurface
    obtain ⟨_, hstate, place, hplace⟩ := (h.course hthere).of_pacing hworker
    refine .draining ?_ rfl hplace ?_
    · refine (Session.state_moveTo p.session _).trans ?_
      rw [hstate]
      rfl
    · rw [← h.limit, ← hseq]
      exact hlimit
  | @rest pacer' seq told hworker hlimit =>
    obtain ⟨hpace, honTime, _⟩ := h.pacing _ _ hworker
    obtain rfl : pacer' = pacer := hpace
    have hseq : seq = n := hp.seq _ _ hworker
    rw [isAsking_of_not_isSending hworker rfl]
    refine h.goOn hworker ⟨rfl, ⟨honTime, Nat.le_add_right _ _⟩, .inr ?_⟩
    rw [← h.limit, ← hseq]
    exact hlimit
  | resume hworker hdue =>
    obtain ⟨hpace, ⟨rfl, hnow⟩, hwithin⟩ := h.pacing _ _ hworker
    rw [isAsking_of_not_isSending hworker rfl]
    exact h.goOn hworker ⟨hpace, Nat.le_antisymm hnow hdue, hwithin⟩

/-- Time passes up to the moment of the next request, when all others have been drawn. -/
theorem pass (h : Beat ready options pacer start requests draws n k p) {t : Nat}
    (hlater : p.stage.now ≤ t)
    (hworker : ∀ loop told, p.session.worker = some (.running loop told) →
      ∃ pacer seq due, loop = .pausing pacer seq due ∧ t ≤ due)
    (hdrawing : ∀ loop told, p.drawing = some (.running loop told) → k = n) :
    Beat ready options pacer start requests draws n k (p.setStage { p.stage with now := t }) := by
  refine ⟨h.limit, h.requested, h.drawn, Nat.le_trans h.late hlater, h.le,
    fun loop told hrunning => ?_, fun loop told hrunning => ?_,
    fun hsurface => (h.course hsurface).congr rfl rfl rfl⟩
  · obtain ⟨hpace, honTime, hwithin⟩ := h.pacing loop told hrunning
    obtain ⟨_, _, due, rfl, hdue⟩ := hworker loop told hrunning
    exact ⟨hpace, ⟨honTime.1, hdue⟩, hwithin⟩
  · obtain ⟨hgoing, _, hready, hheld⟩ := h.drawing loop told hrunning
    exact ⟨hgoing, .inl (hdrawing loop told hrunning), hready, hheld⟩

section

variable [FrameRenderer R D S]

omit [FrameRenderer R D S] in
/-- A draw is begun at the time of its request, the last one. -/
theorem due (h : Beat ready options pacer start requests draws n k p)
    (hp : Ordered earlier begun n k p) {rig : Rig R} {seq : Nat} {queue : List Nat} {told : Bool}
    (hdrawing : p.drawing = some (.running (.drawing rig seq queue) told)) :
    seq = k + 1 ∧ k + 1 = n ∧ p.stage.now = start + k * pacer.period := by
  obtain ⟨hlt, hseq, _⟩ := hp.drawing hdrawing
  exact ⟨hseq, (h.drawing _ _ hdrawing).onTime.resolve_left (Nat.ne_of_lt hlt)⟩

/-- A draw that is begun is recorded, whatever it finds. -/
theorem drawn_of_draw (h : Beat ready options pacer start requests draws n k p)
    (hp : Ordered earlier begun n k p) {rig : Rig R} {seq : Nat} {queue : List Nat} {told : Bool}
    (hdrawing : p.drawing = some (.running (.drawing rig seq queue) told)) {outcome : DrawOutcome}
    {renderer : R} {stage : Stage D S} (hdraw :
      (p.stage.record (.drawn seq)).draw rig.lease rig.renderer = (outcome, renderer, stage)) :
    stage.now = p.stage.now ∧ stage.requestedAt = requests ++ pacer.numbered start n ∧
      stage.drawnAt = draws ++ pacer.numbered start (k + 1) ∧ (stage.decoder? rig.lease).isSome := by
  obtain ⟨rfl, _, hnow⟩ := h.due hp hdrawing
  obtain ⟨d, hd⟩ := Option.isSome_iff_exists.mp (h.drawing _ _ hdrawing).held
  have hd' : (p.stage.record (.drawn (k + 1))).decoder? rig.lease = some d := hd
  obtain ⟨t, hdraw', ht⟩ := Stage.exists_drawnTo hd' rig.renderer
  rw [hdraw'] at hdraw
  cases hdraw
  have hsilent : ∀ {g : Moment → Option (Nat × Nat)}, (∀ time i, g ⟨time, .used i⟩ = none) →
      (∀ time picture, g ⟨time, .presented picture⟩ = none) →
      stage.traced g = (p.stage.record (.drawn (k + 1))).traced g := fun hused hpresented => by
    rw [ht.traced _ hused]
    simp [hpresented]
  refine ⟨ht.now, ?_, ?_, Option.isSome_of_eq_some ht.decoder?⟩
  · refine (hsilent (fun _ _ => rfl) fun _ _ => rfl).trans ?_
    exact (Stage.traced_record_of_none _ p.stage rfl).trans h.requested
  · refine (hsilent (fun _ _ => rfl) fun _ _ => rfl).trans ((Stage.traced_record _ p.stage _).trans ?_)
    rw [Pacer.numbered_succ, ← List.append_assoc, ← hnow]
    exact congrArg (· ++ _) h.drawn

/-- A draw of a steady renderer finds a frame. -/
theorem exists_draw {decoders : D → Prop} {renderers : R → Prop} {sinks : S → Prop}
    (hsteady : SteadyRenderers renderers ready decoders sinks)
    (h : Beat ready options pacer start requests draws n k p)
    (hp : Unharmed decoders renderers sinks p) {rig : Rig R} {seq : Nat} {queue : List Nat}
    {told : Bool} (hdrawing : p.drawing = some (.running (.drawing rig seq queue) told)) :
    ∃ renderer stage, (p.stage.record (.drawn seq)).draw rig.lease rig.renderer =
      (.more, renderer, stage) ∧ ready renderer := by
  obtain ⟨_, _, hready, hheld⟩ := h.drawing _ _ hdrawing
  obtain ⟨d, hd⟩ := Option.isSome_iff_exists.mp hheld
  have hd' : (p.stage.record (.drawn seq)).decoder? rig.lease = some d := hd
  obtain ⟨hmore, hstill⟩ := hsteady.more _ d p.stage.sink hready (hp.stage.decoder _ d hd) hp.stage.sink
  obtain ⟨t, hdraw, _⟩ := Stage.exists_drawnTo hd' rig.renderer
  refine ⟨_, t, ?_, hstill⟩
  rw [hdraw]
  exact congrArg (·, _) hmore

/-- The drawing worker draws a request at its time, as long as it finds a frame. -/
theorem drew (h : Beat ready options pacer start requests draws n k p)
    (hp : Ordered earlier begun n k p) (hmore : ∀ rig seq queue told,
      p.drawing = some (.running (.drawing rig seq queue) told) → ∃ renderer stage,
        (p.stage.record (.drawn seq)).draw rig.lease rig.renderer = (.more, renderer, stage) ∧
          ready renderer) (hstep : Drew p q) :
    Beat ready options pacer start requests draws n (k + (!p.isBetweenDraws).toNat) q := by
  cases hstep with
  | @stop rig queue hdrawing =>
    rw [isBetweenDraws_of_running hdrawing]
    refine h.congr .refl rfl h.pacing nofun fun hsurface => ?_
    cases (h.course hsurface).untold hdrawing
  | @take rig seq queue hdrawing =>
    rw [isBetweenDraws_of_running hdrawing]
    refine h.congr .refl rfl h.pacing (fun loop told hrunning => ?_) fun hsurface =>
      (h.course hsurface).goOn hdrawing _ rfl rfl rfl
    cases hrunning
    exact ⟨_, _, hdrawing, rfl, rfl⟩
  | @drained rig hdrawing hpacing =>
    rw [isBetweenDraws_of_running hdrawing]
    refine h.congr .refl rfl h.pacing nofun fun hsurface => ?_
    cases h.course hsurface with
    | playing _ hworker =>
      rw [TexturePlayer.pacing, hworker] at hpacing
      cases hpacing
    | draining hstate hworker _ hlimit =>
      exact .finished hstate hworker rfl hlimit (hp.eq_of_waiting hdrawing)
    | finished _ _ hplace =>
      rw [hplace] at hdrawing
      cases hdrawing
  | @more rig seq queue told renderer stage hdrawing hdraw =>
    obtain ⟨_, _, hdraw', hready⟩ := hmore _ _ _ _ hdrawing
    obtain ⟨_, hnext, _⟩ := h.due hp hdrawing
    obtain ⟨hnow, hrequested, hdrawn, hheld⟩ := h.drawn_of_draw hp hdrawing hdraw
    rw [hdraw'] at hdraw
    cases hdraw
    rw [isBetweenDraws_of_running hdrawing]
    refine ⟨h.limit, hrequested, hdrawn, hnow ▸ h.late, h.le, hnow ▸ h.pacing,
      fun loop told' hrunning => ?_, fun hsurface => (h.course hsurface).goOn hdrawing _ rfl rfl rfl⟩
    cases hrunning
    exact ⟨rfl, .inl hnext, hready, hheld⟩
  | ended hdrawing hdraw | panicked hdrawing hdraw =>
    obtain ⟨_, _, hdraw', _⟩ := hmore _ _ _ _ hdrawing
    rw [hdraw'] at hdraw
    cases hdraw
  | finish hdrawing => cases (h.drawing _ _ hdrawing).going

end

end Beat

/-! ### At rest -/

/-- A pacing worker in its loop keeps to a pacer. -/
def Paces (pacer : Pacer) (p : TexturePlayer D S R) : Prop :=
  ∀ loop told, p.session.worker = some (.running loop told) → loop.pacer = pacer

theorem Paces.spared (h : p.Paces pacer) (hq : Spared p q) : q.Paces pacer := by
  intro loop told hrunning
  obtain ⟨before, hbefore⟩ := hq.worker.running hrunning
  exact h loop before hbefore

theorem Paces.paced (h : p.Paces pacer) (hstep : Paced p q) : q.Paces pacer := by
  intro loop told hrunning
  cases hstep with
  | stop | refused | limit => cases hrunning
  | check hworker | ask hworker | rest hworker | resume hworker =>
    have hpace := h _ _ hworker
    cases hrunning
    exact hpace

/-- A pacing worker that cannot go on pauses. -/
theorem pausing_of_paceStep?_eq_none (h : p.paceStep? = none) {loop : PaceLoop} {told : Bool}
    (hworker : p.session.worker = some (.running loop told)) :
    ∃ pacer seq due, loop = .pausing pacer seq due ∧ p.stage.now < due := by
  rw [paceStep?, hworker] at h
  cases loop with
  | checking | sending | sent => cases h
  | pausing pacer seq due =>
    refine ⟨pacer, seq, due, rfl, Nat.lt_of_not_le fun hdue => ?_⟩
    cases told with
    | true => cases h
    | false =>
      dsimp only at h
      rw [if_neg Bool.false_ne_true, if_pos hdue] at h
      cases h

section

variable [FrameRenderer R D S]

/-- A drawing worker that cannot go on has drawn all requests. -/
theorem Ordered.eq_of_drawStep?_eq_none (hp : Ordered earlier begun n k p) (h : p.drawStep? = none)
    {loop : DrawLoop R} {told : Bool} (hdrawing : p.drawing = some (.running loop told)) : k = n := by
  rw [drawStep?, hdrawing] at h
  cases loop with
  | drawing | ending => cases h
  | waiting rig queue =>
    cases told with
    | true => cases h
    | false =>
      cases queue with
      | cons => cases h
      | nil => exact hp.eq_of_waiting hdrawing

/-- At rest the draws that are due have been asked for, up to the frame limit, and all of them are
drawn; after the last one the stream has ended. -/
theorem Beat.at_rest (h : Beat ready options pacer start requests draws n k p)
    (hp : Ordered earlier begun n k p) (hperiod : 0 < pacer.period) (hsurface : p.session.surface)
    (hrest : Clocked.step? p = none) :
    n = options.capped ((p.stage.now - start) / pacer.period + 1) ∧ k = n ∧
      p.session.state = if options.limitReached n then .streamEnded else .rendering := by
  obtain ⟨hpace, hdraw⟩ := stepless_of_step?_eq_none hrest
  cases h.course hsurface with
  | playing hstate hworker hdrawing =>
    obtain ⟨_, honTime, hwithin⟩ := h.pacing _ _ hworker
    obtain ⟨_, _, due, rfl, hearly⟩ := pausing_of_paceStep?_eq_none hpace hworker
    obtain ⟨rfl, _⟩ := honTime
    have hwithin' := hwithin.resolve_left Bool.false_ne_true
    rw [Pacer.count_eq h.late hearly, options.capped_of_not_reached hwithin', hwithin']
    exact ⟨rfl, hp.eq_of_drawStep?_eq_none hdraw hdrawing, hstate⟩
  | draining _ hworker hdrawing =>
    obtain ⟨_, hpacing⟩ := waiting_of_drawStep?_eq_none hdrawing hdraw
    rw [TexturePlayer.pacing, hworker] at hpacing
    cases hpacing
  | finished hstate _ _ hreached hall =>
    rw [options.capped_of_reached hreached h.le (Pacer.le_count hperiod h.late), hreached]
    exact ⟨rfl, hall, hstate⟩

omit [FrameRenderer R D S] in
/-- How many steps both workers can do at the current time at most. -/
def stepsNow (p : TexturePlayer D S R) : Nat :=
  PaceLoop.stepsOf p.stage.now p.session.worker + DrawLoop.stepsOf p.drawing

/-- The clock has patience for them. -/
theorem stepsNow_le_patience (p : TexturePlayer D S R) : p.stepsNow ≤ Clocked.patience p := by
  have hpatience : Clocked.patience p =
      8 * (p.session.options.maxFrames.getD UInt32.size + p.pending + 4) := rfl
  have hpace := PaceLoop.stepsOf_le p.stage.now p.session.worker
  have hdraw : DrawLoop.stepsOf p.drawing ≤ 2 * p.pending + 2 := by
    rw [pending]
    rcases p.drawing with _ | ⟨loop, _⟩ | _ | _
    · exact Nat.zero_le _
    · exact loop.stepsLeft_le
    all_goals exact Nat.zero_le _
  rw [stepsNow]
  omega

omit [FrameRenderer R D S] in
/-- A step of the pacing worker leaves fewer, since a pause takes time. -/
theorem Paces.stepsNow_lt (h : p.Paces pacer) (hperiod : 0 < pacer.period) (hstep : Paced p q) :
    q.stepsNow < p.stepsNow := by
  cases hstep with
  | stop hworker =>
    rw [stepsNow, stepsNow, hworker]
    exact Nat.add_lt_add_right (PaceLoop.stepsAt_pos _ _) _
  | refused hworker | limit hworker =>
    rw [stepsNow, stepsNow, hworker]
    exact Nat.add_lt_add_right (Nat.succ_pos _) _
  | check hworker =>
    rw [stepsNow, stepsNow, hworker]
    exact Nat.add_lt_add_right (Nat.lt_succ_self 5) _
  | @ask pacer' seq told stopped place hworker hdrawing =>
    have hpush := place.stepsLeft_push (seq + 1)
    rw [stepsNow, stepsNow, hworker, hdrawing]
    exact Nat.lt_of_le_of_lt (Nat.add_le_add_left hpush 2) (by
      simp only [PaceLoop.stepsOf, PaceLoop.stepsAt, DrawLoop.stepsOf]
      omega)
  | @rest pacer' seq told hworker =>
    obtain rfl : pacer' = pacer := h _ _ hworker
    have hlater : ¬ pacer'.pauseEnd p.stage.now ≤ p.stage.now := by
      rw [Pacer.pauseEnd_eq]
      omega
    rw [stepsNow, stepsNow, hworker]
    refine Nat.add_lt_add_right (Nat.lt_of_le_of_lt (Nat.le_of_eq (if_neg hlater)) ?_) _
    exact Nat.lt_succ_self 1
  | resume hworker hdue =>
    rw [stepsNow, stepsNow, hworker]
    refine Nat.add_lt_add_right (Nat.lt_of_lt_of_le (Nat.lt_succ_self 6) ?_) _
    exact Nat.le_of_eq (if_pos hdue).symm

/-- A step of the drawing worker leaves fewer. -/
theorem stepsNow_lt_of_drawStep? (hstep : p.drawStep? = some q) : q.stepsNow < p.stepsNow := by
  have hnow : q.stage.now = p.stage.now := (sameOutside_of_workerStep (.inr hstep)).now
  have hdrew := drew_of_drawStep? hstep
  have hworker : PaceLoop.stepsOf q.stage.now q.session.worker =
      PaceLoop.stepsOf p.stage.now p.session.worker := by
    rw [hnow]
    rcases hdrew.worker_cases with hsame | hcancel
    · rw [hsame]
    · rw [hcancel, PaceLoop.stepsOf_map_cancel]
  rw [stepsNow, stepsNow, hworker]
  refine Nat.add_lt_add_left ?_ _
  cases hdrew with
  | stop hdrawing | drained hdrawing | finish hdrawing | panicked hdrawing =>
    rw [hdrawing]
    exact Nat.succ_pos _
  | take hdrawing | more hdrawing | ended hdrawing =>
    rw [hdrawing]
    simp only [DrawLoop.stepsOf, setDrawing, DrawLoop.stepsLeft, List.length_cons]
    omega

theorem Paces.workerStep (h : p.Paces pacer) (hperiod : 0 < pacer.period)
    (hstep : p.paceStep? = some q ∨ p.drawStep? = some q) :
    q.Paces pacer ∧ q.stepsNow < p.stepsNow := by
  rcases hstep with hpace | hdraw
  · have hpaced := paced_of_paceStep? hpace
    exact ⟨h.paced hpaced, h.stepsNow_lt hperiod hpaced⟩
  · refine ⟨fun loop told hrunning => ?_, stepsNow_lt_of_drawStep? hdraw⟩
    rcases (drew_of_drawStep? hdraw).worker_cases with hsame | hcancel
    · exact h loop told (hsame.symm.trans hrunning)
    · obtain ⟨before, hbefore⟩ := Task.running_of_map_cancel (hcancel.symm.trans hrunning)
      exact h loop before hbefore

end

/-! ### Runs on the clock -/

section

variable [VideoDecoder D] [FrameRenderer R D S] {decoders : D → Prop} {renderers : R → Prop}
  {sinks : S → Prop} {P : TexturePlayer D S R → Prop} (hperiod : 0 < pacer.period)
  (hstep : ∀ {p q}, p.Paces pacer → P p → p.paceStep? = some q ∨ p.drawStep? = some q → P q)
  (haside : ∀ {p q}, P p → Aside decoders renderers p q → P q)
  (hpass : ∀ {p} t, P p → Clocked.step? p = none → p.stage.now ≤ t → (∀ w ∈ p.wake?, t ≤ w) →
    P (p.setStage { p.stage with now := t }))

include hperiod hstep haside hpass

/-- What steps, asides and time at rest keep holds in waits of any length. -/
theorem timely_of_keeps :
    Clocked.Timely (fun q : TexturePlayer D S R =>
      Reached decoders renderers sinks q ∧ q.Paces pacer ∧ P q) stepsNow where
  step := by
    rintro p q ⟨hreached, hpaces, hp⟩ hnext
    obtain ⟨q', turn, rfl, hworker⟩ := exists_workerStep_of_step? hnext
    obtain ⟨hq, hlt⟩ := hpaces.workerStep hperiod hworker
    have hthere := (hreached.happens (.work (.step hworker))).happens (.work (.turn turn))
    exact ⟨⟨hthere, hq, haside (hstep hpaces hp hworker) (.turn turn)⟩,
      (sameOutside_of_workerStep hworker).now, hlt⟩
  rank_le := fun {p} _ => p.stepsNow_le_patience
  now_lt_wake := by
    intro p _ hrest t hwake
    obtain ⟨hpace, _⟩ := stepless_of_step?_eq_none hrest
    have hwake' : p.wake? = some t := hwake
    rw [wake?] at hwake'
    split at hwake'
    · next hworker =>
      cases hwake'
      obtain ⟨_, _, _, heq, hlt⟩ := pausing_of_paceStep?_eq_none hpace hworker
      cases heq
      exact hlt
    · cases hwake'
  pass := by
    rintro p t ⟨hreached, hpaces, hp⟩ hrest hlater hwake
    exact ⟨hreached.happens (.work (.pass t)), hpaces, hpass t hp hrest hlater hwake⟩
  now_setNow := fun _ _ => rfl
  setNow_now := fun _ => rfl

/-- What steps, asides and time at rest keep holds in a session on the clock. -/
theorem onClock_keeps (hreached : Reached decoders renderers sinks p)
    (hrun : ReflTransGen (Clocked.OnClock (Meanwhile decoders renderers)) p q)
    (hpaces : p.Paces pacer) (hp : P p) :
    Reached decoders renderers sinks q ∧ q.Paces pacer ∧ P q := by
  refine (timely_of_keeps hperiod hstep haside hpass).onClock ?_ hrun ⟨hreached, hpaces, hp⟩
  rintro r s ⟨hthere, hr⟩ hmove hnow
  refine ⟨hthere.happens hmove.1, ?_⟩
  have hworks : ∀ {r s}, r.Paces pacer ∧ P r → r.paceStep? = some s ∨ r.drawStep? = some s →
      s.Paces pacer ∧ P s := fun hr hworker =>
    ⟨(hr.1.workerStep hperiod hworker).1, hstep hr.1 hr.2 hworker⟩
  obtain ⟨hsound, hphase⟩ := hthere.phase
  rcases hmove.cases hsound hphase with hworker | ⟨t, rfl⟩ | hbeside
  · exact hworks hr hworker
  · obtain rfl : t = r.stage.now := hnow
    exact hr
  · exact beside_keeps (P := fun s => s.Paces pacer ∧ P s) hworks
      (fun h hmade => ⟨h.1.spared hmade.spared, haside h.2 hmade⟩) hbeside hr

end

/-- A session whose requests and draws are in order and on time. -/
def OnBeat (ready : R → Prop) (options : PlayerOptions) (pacer : Pacer) (start : Nat)
    (earlier begun : List Nat) (requests draws : List (Nat × Nat)) (p : TexturePlayer D S R) : Prop :=
  ∃ n k, Ordered earlier begun n k p ∧ Beat ready options pacer start requests draws n k p

theorem OnBeat.spared (h : OnBeat ready options pacer start earlier begun requests draws p)
    (hq : Spared p q) : OnBeat ready options pacer start earlier begun requests draws q := by
  obtain ⟨n, k, hordered, hbeat⟩ := h
  exact ⟨n, k, hordered.spared hq, hbeat.spared hq⟩

/-- At rest time passes up to the moment of the next request. -/
theorem Beat.pass_at_rest [FrameRenderer R D S]
    (h : Beat ready options pacer start requests draws n k p) (hp : Ordered earlier begun n k p)
    (hrest : Clocked.step? p = none) {t : Nat} (hlater : p.stage.now ≤ t)
    (hwake : ∀ w ∈ p.wake?, t ≤ w) :
    Beat ready options pacer start requests draws n k (p.setStage { p.stage with now := t }) := by
  obtain ⟨hpace, hdraw⟩ := stepless_of_step?_eq_none hrest
  refine h.pass hlater (fun loop told hworker => ?_)
    fun loop told hdrawing => hp.eq_of_drawStep?_eq_none hdraw hdrawing
  obtain ⟨pacer', seq, due, rfl, _⟩ := pausing_of_paceStep?_eq_none hpace hworker
  have hdue : p.wake? = some due := by rw [wake?, hworker]
  exact ⟨pacer', seq, due, rfl, hwake due hdue⟩

theorem paces_onNewSurface (p : TexturePlayer D S R) (pacer : Pacer) (rig : Rig R) :
    (p.onNewSurface pacer rig).Paces pacer := by
  intro loop told hrunning
  cases hrunning
  rfl

/-- A session begins with its first draw due. -/
theorem beat_onNewSurface (hp : Sound p) {rig : Rig R} (hrenderer : p.renderer = some rig)
    {next : Rig R} (hlease : next.lease = rig.lease) (hready : ready next.renderer) (pacer : Pacer)
    (hlimit : p.session.options.maxFrames ≠ some 0) :
    Beat ready p.session.options pacer p.stage.now p.stage.requestedAt p.stage.drawnAt 0 0
      (p.onNewSurface pacer next) := by
  obtain ⟨hstage, hoptions⟩ := spared_onNewSurface p pacer next
  have hheld : (p.stage.decoder? next.lease).isSome := by
    have hlt : rig.lease < p.stage.leases.length := hp.held.lt (by simp [holds, hrenderer])
    simp [hlease, Stage.decoder?, hlt]
  refine ⟨hoptions, hstage.requestedAt.trans (List.append_nil _).symm,
    hstage.drawnAt.trans (List.append_nil _).symm, ?_, fun _ _ => Nat.zero_le _,
    fun loop told hrunning => ?_, fun loop told hrunning => ?_,
    fun _ => .playing (Session.state_moveTo _ _) rfl rfl⟩
  · rw [hstage.now, Nat.zero_sub, Nat.zero_mul]
    exact Nat.le_refl _
  · cases hrunning
    have htime : p.stage.now = p.stage.now + 0 * pacer.period := by
      rw [Nat.zero_mul, Nat.add_zero]
    exact ⟨rfl, hstage.now.trans htime, .inr (PlayerOptions.not_limitReached_zero hlimit)⟩
  · cases hrunning
    exact ⟨rfl, .inl rfl, hready, hstage.decoder? _ hheld⟩

/-- Nothing that happens in a session takes time, but the passing of time itself. -/
theorem Meanwhile.onClock [VideoDecoder D] [FrameRenderer R D S] {decoders : D → Prop}
    {renderers : R → Prop} (hp : Sound p) (hphase : Phase p)
    (hmove : Meanwhile decoders renderers p q) :
    Clocked.OnClock (Meanwhile decoders renderers) p q ∨
      ∃ t, q = p.setStage { p.stage with now := t } := by
  rcases hmove.cases hp hphase with hstep | hpass | hbeside
  · exact .inl (.move hmove (sameOutside_of_workerStep hstep).now)
  · exact .inr hpass
  · refine .inl (.move hmove ?_)
    exact beside_keeps (P := fun r : TexturePlayer D S R => r.stage.now = p.stage.now)
      (fun hr hstep => (sameOutside_of_workerStep hstep).now.trans hr)
      (fun hr haside => haside.spared.stage.now.trans hr) hbeside rfl

section

variable [VideoDecoder D] [FrameRenderer R D S] {decoders : D → Prop} {renderers : R → Prop}
  {sinks : S → Prop} (hsteady : SteadyRenderers renderers ready decoders sinks)

include hsteady

omit [VideoDecoder D] in
theorem OnBeat.step (h : OnBeat ready options pacer start earlier begun requests draws p)
    (hp : Unharmed decoders renderers sinks p) (hperiod : 0 < pacer.period)
    (hstep : p.paceStep? = some q ∨ p.drawStep? = some q) :
    Unharmed decoders renderers sinks q ∧
      OnBeat ready options pacer start earlier begun requests draws q := by
  obtain ⟨n, k, hordered, hbeat⟩ := h
  rcases hstep with hpace | hdraw
  · have hpaced := paced_of_paceStep? hpace
    exact ⟨hp.paced hpaced, _, _, hordered.paced hpaced, hbeat.paced hordered hperiod hpaced⟩
  · have hdrew := drew_of_drawStep? hdraw
    exact ⟨hp.drew hsteady.toReliableRenderers hdrew, _, _, hordered.drew hdrew,
      hbeat.drew hordered (fun _ _ _ _ => hbeat.exists_draw hsteady hp) hdrew⟩

/-- A session is on its beat, whatever happens in it. -/
theorem exists_beat (hreached : Reached decoders renderers sinks p) (haccepts : p.Accepts)
    (hpacer : p.session.pacer = .ok pacer) (hperiod : 0 < pacer.period)
    (hlimit : p.session.options.maxFrames ≠ some 0)
    (hrun : ReflTransGen (Clocked.OnClock (Meanwhile decoders renderers)) p.created.2 q) :
    OnBeat ready p.session.options pacer p.stage.now p.stage.requests p.stage.draws
      p.stage.requestedAt p.stage.drawnAt q := by
  have hbegun := hreached.happens .created
  have hunharmed := hbegun.unharmed hsteady.toReliableRenderers
  obtain ⟨hsound, hphase⟩ := hreached.phase
  obtain ⟨rig, pacer', hrenderer, hpacer', hcreated⟩ := created_of_accepts hsound hphase haccepts
  obtain rfl : pacer = pacer' := Except.ok.inj (hpacer.symm.trans hpacer')
  have hrig := (hreached.unharmed hsteady.toReliableRenderers).renderer rig hrenderer
  have hready : ready (prepared D S rig).renderer :=
    hsteady.prepare _ hrig (initSurface_of_accepts hsound haccepts hrenderer)
  have hlease : (prepared D S rig).lease = rig.lease := rfl
  refine (onClock_keeps (P := fun q => Unharmed decoders renderers sinks q ∧
    OnBeat ready p.session.options pacer p.stage.now p.stage.requests p.stage.draws
      p.stage.requestedAt p.stage.drawnAt q) hperiod ?_ ?_ ?_ hbegun hrun ?_ ⟨hunharmed, ?_⟩).2.2.2
  · rintro r s _ ⟨hr, h⟩ hworker
    exact h.step hsteady hr hperiod hworker
  · rintro r s ⟨hr, h⟩ haside
    exact ⟨haside.unharmed hsteady.toReliableRenderers hr, h.spared haside.spared⟩
  · rintro r t ⟨hr, n, k, hordered, hbeat⟩ hrest hlater hwake
    exact ⟨⟨hr.stage.congr rfl rfl, hr.renderer, hr.rig, hr.drawing⟩, n, k,
      hordered.congr rfl rfl rfl hordered.seq, hbeat.pass_at_rest hordered hrest hlater hwake⟩
  · rw [hcreated]
    exact paces_onNewSurface p pacer _
  · rw [hcreated]
    exact ⟨0, 0, ordered_of_onNewSurface p pacer _,
      beat_onNewSurface hsound hrenderer hlease hready pacer hlimit⟩

end

end TexturePlayer

end AviPlayback
