import AviPlayback.Proofs.Player.Phases
import AviPlayback.Proofs.Player.Releases

/-!
The requests of a surface. The pacing worker asks for draws, the drawing worker answers them, and a
controller tells both to stop as soon as it sees that the session has ended. Whatever the order of
their steps, the draws answer the first requests in order; but the end is published with the last
request, and what then still waits in the queue is never drawn (`TexturePlayer.requests_in_order`).
-/
set_option autoImplicit false

namespace AviPlayback

open Relation (ReflTransGen)

namespace Stage

variable {D S : Type}

def requests (s : Stage D S) : List Nat := s.noted Event.requested?

def draws (s : Stage D S) : List Nat := s.noted Event.drawn?

section

variable {L : Type} (t : Session D S L)

theorem requests_moveTo (next : PlaybackState) :
    (t.moveTo next).stage.requests = t.stage.requests :=
  noted_moveTo _ (fun _ => rfl) t next

theorem draws_moveTo (next : PlaybackState) : (t.moveTo next).stage.draws = t.stage.draws :=
  noted_moveTo _ (fun _ => rfl) t next

end

end Stage

namespace PaceLoop

/-- Whether a request has just been sent. -/
def isSent : PaceLoop → Bool
  | sent _ _ => true
  | _ => false

/-- Whether the next step may ask for a draw. -/
def isSending : PaceLoop → Bool
  | sending _ _ => true
  | _ => false

theorem isSending_of_isAtCheck {loop : PaceLoop} (h : loop.isAtCheck) : loop.isSending = false := by
  cases loop with
  | checking | pausing => rfl
  | sending | sent => cases h

end PaceLoop

namespace DrawLoop

variable {R : Type}

/-- The requests that have not been drawn, in order. -/
def unanswered : DrawLoop R → List Nat
  | waiting _ queue => queue
  | drawing _ seq queue => seq :: queue
  | ending _ => []

theorem unanswered_push {loop : DrawLoop R} (h : loop.isEnding = false) (seq : Nat) :
    (loop.push seq).unanswered = loop.unanswered ++ [seq] := by
  cases loop with
  | waiting | drawing => rfl
  | ending => cases h

theorem length_unanswered {loop : DrawLoop R} (h : loop.isEnding = false) :
    loop.unanswered.length = loop.isDrawing.toNat + loop.pending := by
  cases loop with
  | waiting rig queue => exact (Nat.zero_add _).symm
  | drawing rig seq queue => exact Nat.add_comm _ 1
  | ending => cases h

end DrawLoop

namespace FrameRenderer

variable {R D S : Type} [FrameRenderer R D S]

/-- Whether the stream has at least so many frames for a renderer to draw. -/
def Lasts : Nat → R → D → S → Prop
  | 0, _, _, _ => True
  | m + 1, renderer, d, sink =>
    let x : Drawing R D S := draw renderer d sink
    x.outcome ≠ .ended ∧ (x.outcome = .more → Lasts m x.renderer x.decoder x.sink)

end FrameRenderer

namespace TexturePlayer

variable {D S R : Type} {p q : TexturePlayer D S R}

def isAsking (p : TexturePlayer D S R) : Bool :=
  match p.session.worker, p.drawing with
  | some (.running (.sending _ _) _), some (.running _ _) => true
  | _, _ => false

theorem isAsking_of_not_isSending {loop : PaceLoop} {told : Bool}
    (hworker : p.session.worker = some (.running loop told)) (h : loop.isSending = false) :
    p.isAsking = false := by
  rw [isAsking, hworker]
  cases loop with
  | sending => cases h
  | checking | sent | pausing => rfl

theorem isAsking_of_not_running (h : p.drawing.any Task.isRunning = false) :
    p.isAsking = false := by
  rw [isAsking]
  split
  · next hrunning =>
    rw [hrunning] at h
    cases h
  · rfl

theorem isBetweenDraws_of_running {loop : DrawLoop R} {told : Bool}
    (h : p.drawing = some (.running loop told)) : p.isBetweenDraws = !loop.isDrawing := by
  rw [isBetweenDraws, h]

/-- The pacing worker draws nothing. -/
theorem Paced.draws_eq (h : Paced p q) : q.stage.draws = p.stage.draws := by
  cases h with
  | ask => exact (Stage.noted_record _ _ _).trans (List.append_nil _)
  | limit => exact Stage.draws_moveTo _ _
  | _ => rfl

/-- The requests and draws of a surface: `n` requests, and the first `k` of them drawn. Some
requests and draws were recorded before. -/
structure Ordered (requests draws : List Nat) (n k : Nat) (p : TexturePlayer D S R) : Prop where
  requests : p.stage.requests = requests ++ List.range' 1 n
  draws : p.stage.draws = draws ++ List.range' 1 k
  le : k ≤ n
  seq : ∀ loop told, p.session.worker = some (.running loop told) → loop.seq = n
  unanswered : ∀ loop told, p.drawing = some (.running loop told) → loop.isEnding = false →
    loop.unanswered = List.range' (k + 1) (n - k)

namespace Ordered

variable {requests draws : List Nat} {n k : Nat}

/-- The counts depend on the record and the workers only. -/
theorem congr (h : Ordered requests draws n k p) (hrequests : q.stage.requests = p.stage.requests)
    (hdraws : q.stage.draws = p.stage.draws) (hdrawing : q.drawing = p.drawing)
    (hseq : ∀ loop told, q.session.worker = some (.running loop told) → loop.seq = n) :
    Ordered requests draws n k q :=
  ⟨hrequests.trans h.requests, hdraws.trans h.draws, h.le, hseq, hdrawing ▸ h.unanswered⟩

theorem paced (h : Ordered requests draws n k p) (hstep : Paced p q) :
    Ordered requests draws (n + p.isAsking.toNat) k q := by
  have hdraws := hstep.draws_eq
  cases hstep with
  | stop hworker hloop =>
    rw [isAsking_of_not_isSending hworker (PaceLoop.isSending_of_isAtCheck hloop)]
    exact h.congr rfl rfl rfl nofun
  | check hworker | rest hworker | resume hworker =>
    have hseq := h.seq _ _ hworker
    rw [isAsking_of_not_isSending hworker rfl]
    refine h.congr rfl rfl rfl fun loop told hrunning => ?_
    cases hrunning
    exact hseq
  | @ask pacer seq told stopped loop hworker hdrawing =>
    have hasking : p.isAsking = true := by rw [isAsking, hworker, hdrawing]
    obtain rfl : seq = n := h.seq _ _ hworker
    rw [hasking]
    refine ⟨?_, ?_, Nat.le_succ_of_le h.le, fun loop told hrunning => ?_,
      fun loop' told' hrunning hending => ?_⟩
    · have hrecord : (p.stage.record (.requested (seq + 1))).requests =
          p.stage.requests ++ [seq + 1] := Stage.noted_record _ _ _
      refine hrecord.trans ?_
      rw [h.requests, List.append_assoc, Bool.toNat_true, List.range'_1_concat, Nat.add_comm 1 seq]
    · exact hdraws.trans h.draws
    · cases hrunning
      rfl
    · cases hrunning
      rw [DrawLoop.isEnding_push] at hending
      rw [DrawLoop.unanswered_push hending, h.unanswered _ _ hdrawing hending, Bool.toNat_true,
        Nat.succ_sub h.le, List.range'_1_concat, Nat.add_right_comm, Nat.add_sub_cancel' h.le]
  | refused _ hdrawing =>
    rw [isAsking_of_not_running hdrawing]
    exact h.congr rfl rfl rfl nofun
  | limit hworker =>
    rw [isAsking_of_not_isSending hworker rfl]
    exact h.congr (Stage.requests_moveTo _ _) (Stage.draws_moveTo _ _) rfl nofun

/-- The request that is being drawn is the first one that was not drawn. -/
theorem drawing (h : Ordered requests draws n k p) {rig : Rig R} {seq : Nat} {queue : List Nat}
    {told : Bool} (hdrawing : p.drawing = some (.running (.drawing rig seq queue) told)) :
    k < n ∧ seq = k + 1 ∧ queue = List.range' (k + 2) (n - (k + 1)) := by
  have hqueue : seq :: queue = List.range' (k + 1) (n - k) := h.unanswered _ _ hdrawing rfl
  cases hleft : n - k with
  | zero =>
    rw [hleft] at hqueue
    cases hqueue
  | succ left =>
    rw [hleft, List.range'_succ] at hqueue
    obtain ⟨hseq, hrest⟩ := List.cons.inj hqueue
    exact ⟨Nat.lt_of_sub_eq_succ hleft, hseq, by rw [hrest, Nat.sub_succ, hleft, Nat.pred_succ]⟩

theorem pos_of_drawing (h : Ordered requests draws n k p) {m : Nat} (hle : n ≤ m) {rig : Rig R}
    {seq : Nat} {queue : List Nat} {told : Bool}
    (hdrawing : p.drawing = some (.running (.drawing rig seq queue) told)) : 0 < m - k :=
  Nat.sub_pos_of_lt (Nat.lt_of_lt_of_le (h.drawing hdrawing).1 hle)

theorem cancel (h : Ordered requests draws n k p) (loop : PaceLoop) (told : Bool)
    (hrunning : p.session.worker.map Task.cancel = some (.running loop told)) : loop.seq = n := by
  obtain ⟨_, hbefore⟩ := Task.running_of_map_cancel hrunning
  exact h.seq _ _ hbefore

section

variable [FrameRenderer R D S]

/-- A request is drawn once. -/
theorem answered (h : Ordered requests draws n k p) {rig : Rig R} {seq : Nat} {queue : List Nat}
    {told : Bool} (hdrawing : p.drawing = some (.running (.drawing rig seq queue) told))
    {outcome : DrawOutcome} {renderer : R} {stage : Stage D S}
    (hdraw : (p.stage.record (.drawn seq)).draw rig.lease rig.renderer = (outcome, renderer, stage))
    (hrequests : q.stage.requests = stage.requests) (hdraws : q.stage.draws = stage.draws)
    (hworker : ∀ loop told, q.session.worker = some (.running loop told) → loop.seq = n)
    (hqueue : ∀ loop told, q.drawing = some (.running loop told) → loop.isEnding = false →
      loop.unanswered = queue) : Ordered requests draws n (k + 1) q := by
  obtain ⟨hlt, rfl, rfl⟩ := h.drawing hdrawing
  have hsilent {f : Event → Option Nat} (hused : ∀ i, f (.used i) = none)
      (hpresented : ∀ picture, f (.presented picture) = none) :
      stage.noted f = (p.stage.record (.drawn (k + 1))).noted f := by
    have hsame := Stage.noted_draw_of_silent hused hpresented (p.stage.record (.drawn (k + 1)))
      rig.lease rig.renderer
    rwa [hdraw] at hsame
  refine ⟨?_, ?_, hlt, hworker, hqueue⟩
  · rw [hrequests, Stage.requests, hsilent (fun _ => rfl) fun _ => rfl, Stage.noted_record]
    exact (List.append_nil _).trans h.requests
  · rw [hdraws, Stage.draws, hsilent (fun _ => rfl) fun _ => rfl, Stage.noted_record,
      List.range'_1_concat, Nat.add_comm 1 k, ← List.append_assoc]
    exact congrArg (· ++ [k + 1]) h.draws

theorem drew (h : Ordered requests draws n k p) (hstep : Drew p q) :
    Ordered requests draws n (k + (!p.isBetweenDraws).toNat) q := by
  cases hstep with
  | stop hdrawing | drained hdrawing =>
    rw [isBetweenDraws_of_running hdrawing]
    exact ⟨h.requests, h.draws, h.le, h.seq, nofun⟩
  | take hdrawing =>
    rw [isBetweenDraws_of_running hdrawing]
    have hqueue := h.unanswered _ _ hdrawing rfl
    refine ⟨h.requests, h.draws, h.le, h.seq, fun loop told hrunning _ => ?_⟩
    cases hrunning
    exact hqueue
  | finish hdrawing =>
    rw [isBetweenDraws_of_running hdrawing]
    exact ⟨h.requests, h.draws, h.le, h.cancel, nofun⟩
  | more hdrawing hdraw =>
    rw [isBetweenDraws_of_running hdrawing]
    refine h.answered hdrawing hdraw rfl rfl h.seq fun loop told hrunning _ => ?_
    cases hrunning
    rfl
  | @ended _ _ _ _ _ stage hdrawing hdraw =>
    rw [isBetweenDraws_of_running hdrawing]
    refine h.answered hdrawing hdraw (Stage.requests_moveTo _ _) (Stage.draws_moveTo _ _)
      (fun loop told hrunning => ?_) fun loop told hrunning hending => ?_
    · exact h.seq _ _ ((Session.worker_moveTo (p.setStage stage).session _).symm.trans hrunning)
    · cases hrunning
      cases hending
  | panicked hdrawing hdraw =>
    rw [isBetweenDraws_of_running hdrawing]
    exact h.answered hdrawing hdraw (Stage.noted_release _ (fun _ => rfl) _ _)
      (Stage.noted_release _ (fun _ => rfl) _ _) h.seq nofun

omit [FrameRenderer R D S] in
/-- The workers are told to stop. -/
theorem leaveSurface (h : Ordered requests draws n k p) :
    Ordered requests draws n k p.leaveSurface := by
  rw [TexturePlayer.leaveSurface]
  split
  · next hsurface =>
    rw [Session.leaveSurface_eq_lost hsurface]
    refine ⟨(Stage.requests_moveTo _ _).trans h.requests, (Stage.draws_moveTo _ _).trans h.draws,
      h.le, h.cancel,
      fun loop told hrunning hending => ?_⟩
    obtain ⟨_, hbefore⟩ := Task.running_of_map_cancel hrunning
    exact h.unanswered _ _ hbefore hending
  · exact h

theorem works (h : Ordered requests draws n k p) (hstep : Works p q) :
    ∃ n' k', Ordered requests draws n' k' q := by
  cases hstep with
  | step hstep =>
    rcases hstep with hpace | hdraw
    · exact ⟨_, _, h.paced (paced_of_paceStep? hpace)⟩
    · exact ⟨_, _, h.drew (drew_of_drawStep? hdraw)⟩
  | turn | pass => exact ⟨n, k, h.congr rfl rfl rfl h.seq⟩

end

end Ordered

/-! ### The frame limit -/

section

variable [FrameRenderer R D S]

/-- A drawing worker for which the stream still has so many frames. -/
def Lasting (told : Bool) (left : Nat) (p : TexturePlayer D S R) : Prop :=
  ∃ loop d, p.drawing = some (.running loop told) ∧ loop.isEnding = false ∧
    p.stage.decoder? loop.rig.lease = some d ∧
    FrameRenderer.Lasts left loop.rig.renderer d p.stage.sink

omit [FrameRenderer R D S] in
theorem limitReached_iff {o : PlayerOptions} {m : Nat} (h : o.maxFrames = some m) (n : Nat) :
    o.limitReached n ↔ m ≤ n := by
  rw [PlayerOptions.limitReached, h]
  exact decide_eq_true_iff

/-- The worker, its decoder and the surface matter. -/
theorem Lasting.congr {told : Bool} {left : Nat} (h : Lasting told left p)
    (hdrawing : q.drawing = p.drawing) (hdecoder : q.stage.decoder? = p.stage.decoder?)
    (hsink : q.stage.sink = p.stage.sink) : Lasting told left q := by
  rwa [Lasting, hdrawing, hdecoder, hsink]

/-- The next frame is drawn, or the draw panics. -/
theorem Lasting.answered {told told' : Bool} {left : Nat} (h : Lasting told left p)
    (hleft : 0 < left) {rig : Rig R} {seq : Nat} {queue : List Nat}
    (hdrawing : p.drawing = some (.running (.drawing rig seq queue) told'))
    {outcome : DrawOutcome} {renderer : R} {stage : Stage D S}
    (hdraw : (p.stage.record (.drawn seq)).draw rig.lease rig.renderer =
      (outcome, renderer, stage)) :
    outcome ≠ .ended ∧ (outcome = .more → ∃ d, stage.decoder? rig.lease = some d ∧
      FrameRenderer.Lasts (left - 1) renderer d stage.sink) := by
  obtain ⟨left, rfl⟩ := Nat.exists_eq_succ_of_ne_zero (Nat.ne_of_gt hleft)
  obtain ⟨loop, d, hloop, _, hd, hended, hmore⟩ := h
  rw [hdrawing] at hloop
  cases hloop
  have hdecoder : (p.stage.record (.drawn seq)).decoder? rig.lease = some d := hd
  obtain ⟨t, hdraw', ht⟩ := Stage.exists_drawnTo hdecoder rig.renderer
  rw [hdraw] at hdraw'
  cases hdraw'
  exact ⟨hended, fun heq => ⟨_, ht.decoder?, ht.sink ▸ hmore heq⟩⟩

/-- A surface with a frame limit, on a stream that lasts as long. -/
structure Limited (m n k : Nat) (p : TexturePlayer D S R) : Prop where
  limit : p.session.options.maxFrames = some m
  le : n ≤ m
  asking : ∀ loop told, p.session.worker = some (.running loop told) → loop.isSent ∨ n < m
  /-- The end is published with the last request. -/
  ended : p.session.state = .streamEnded → n = m ∧ p.session.worker.any Task.isRunning = false
  drawing : Lasting false (m - k) p ∨ (∃ rig, p.drawing = some (.finished rig)) ∧ k = n ∨
    p.drawing = some .panicked ∧ 0 < k

namespace Limited

variable {requests draws : List Nat} {m n k : Nat}

/-- The pacing worker goes on to another place, or leaves its loop. -/
theorem setWorker (h : Limited m n k p) (hrunning : p.session.worker.any Task.isRunning)
    {worker : Option (Task PaceLoop TaskEvent)}
    (hasking : ∀ loop told, worker = some (.running loop told) → loop.isSent ∨ n < m) :
    Limited m n k { p with session := { p.session with worker } } := by
  refine ⟨h.limit, h.le, hasking, fun hended => ?_, h.drawing⟩
  rw [(h.ended hended).2] at hrunning
  cases hrunning

/-- A request that is still to be sent is within the limit. -/
theorem lt (h : Limited m n k p) {loop : PaceLoop} {told : Bool}
    (hworker : p.session.worker = some (.running loop told)) (hsent : loop.isSent = false) :
    n < m := by
  refine (h.asking _ _ hworker).resolve_left ?_
  rw [hsent]
  exact Bool.false_ne_true

theorem paced (h : Limited m n k p) (hp : Ordered requests draws n k p) (hstep : Paced p q) :
    Limited m (n + p.isAsking.toNat) k q := by
  obtain ⟨loop, told, hworker⟩ := hstep.exists_running
  have hrunning : p.session.worker.any Task.isRunning := by
    rw [hworker]
    rfl
  have hplaying : p.session.state ≠ .streamEnded := fun heq => by
    rw [(h.ended heq).2] at hrunning
    cases hrunning
  cases hstep with
  | stop hworker' hloop =>
    rw [isAsking_of_not_isSending hworker' (PaceLoop.isSending_of_isAtCheck hloop)]
    exact h.setWorker hrunning nofun
  | refused _ hdrawing =>
    rw [isAsking_of_not_running hdrawing]
    exact h.setWorker hrunning nofun
  | check hworker' | resume hworker' =>
    have hlt := h.lt hworker' rfl
    rw [isAsking_of_not_isSending hworker' rfl]
    exact h.setWorker hrunning fun _ _ _ => .inr hlt
  | rest hworker' hlimit =>
    have hlt : ¬ m ≤ n := by
      rw [← limitReached_iff h.limit, ← hp.seq _ _ hworker']
      exact hlimit ▸ Bool.false_ne_true
    rw [isAsking_of_not_isSending hworker' rfl]
    exact h.setWorker hrunning fun _ _ _ => .inr (Nat.not_le.mp hlt)
  | limit hworker' hlimit =>
    have hle : m ≤ n := by
      rw [← limitReached_iff h.limit, ← hp.seq _ _ hworker']
      exact hlimit
    rw [isAsking_of_not_isSending hworker' rfl]
    refine ⟨(congrArg _ (Session.options_moveTo _ _)).trans h.limit, h.le, nofun,
      fun _ => ⟨Nat.le_antisymm h.le hle, rfl⟩, ?_⟩
    exact h.drawing.imp_left fun hlasting => hlasting.congr rfl (Stage.decoder?_moveTo _ _)
      (Stage.sink_moveTo _ _)
  | ask hworker' hdrawing =>
    have hasking : p.isAsking = true := by rw [isAsking, hworker', hdrawing]
    rw [hasking]
    refine ⟨h.limit, h.lt hworker' rfl, fun _ _ heq => ?_, fun heq => absurd heq hplaying, ?_⟩
    · cases heq
      exact .inl rfl
    · rcases h.drawing with ⟨_, d, hloop, hending, hd, hlasts⟩ | ⟨⟨_, hgone⟩, _⟩ | ⟨hgone, _⟩
      · rw [hdrawing] at hloop
        cases hloop
        refine .inl ⟨_, d, rfl, (DrawLoop.isEnding_push _ _).trans hending, ?_, ?_⟩
        · rw [DrawLoop.rig_push]
          exact hd
        · rw [DrawLoop.rig_push]
          exact hlasts
      all_goals
        rw [hdrawing] at hgone
        cases hgone

theorem drew (h : Limited m n k p) (hp : Ordered requests draws n k p) (hstep : Drew p q) :
    Limited m n (k + (!p.isBetweenDraws).toNat) q := by
  obtain ⟨loop', told', hrunning⟩ := hstep.exists_running
  have hlasting : Lasting false (m - k) p := by
    rcases h.drawing with hlasting | ⟨⟨_, hgone⟩, _⟩ | ⟨hgone, _⟩
    · exact hlasting
    all_goals
      rw [hgone] at hrunning
      cases hrunning
  have ⟨loop, d, hloop, hending, hd, hlasts⟩ := hlasting
  cases hstep with
  | stop hdrawing =>
    rw [hdrawing] at hloop
    cases hloop
  | take hdrawing =>
    rw [hdrawing] at hloop
    cases hloop
    rw [isBetweenDraws_of_running hdrawing]
    exact ⟨h.limit, h.le, h.asking, h.ended, .inl ⟨_, d, rfl, rfl, hd, hlasts⟩⟩
  | drained hdrawing =>
    have hnone : [] = List.range' (k + 1) (n - k) := hp.unanswered _ _ hdrawing rfl
    have hall : n - k = 0 := by simpa using (congrArg List.length hnone).symm
    rw [isBetweenDraws_of_running hdrawing]
    exact ⟨h.limit, h.le, h.asking, h.ended,
      .inr (.inl ⟨⟨_, rfl⟩, Nat.le_antisymm hp.le (Nat.sub_eq_zero_iff_le.mp hall)⟩)⟩
  | finish hdrawing =>
    rw [hdrawing] at hloop
    cases hloop
    cases hending
  | more hdrawing hdraw =>
    rw [hdrawing] at hloop
    cases hloop
    obtain ⟨_, hmore⟩ := hlasting.answered (hp.pos_of_drawing h.le hdrawing) hdrawing hdraw
    obtain ⟨e, he, hlasts⟩ := hmore rfl
    rw [isBetweenDraws_of_running hdrawing]
    exact ⟨h.limit, h.le, h.asking, h.ended, .inl ⟨_, e, rfl, rfl, he, hlasts⟩⟩
  | ended hdrawing hdraw =>
    exact absurd rfl (hlasting.answered (hp.pos_of_drawing h.le hdrawing) hdrawing hdraw).1
  | panicked hdrawing hdraw =>
    rw [isBetweenDraws_of_running hdrawing]
    exact ⟨h.limit, h.le, h.asking, h.ended, .inr (.inr ⟨rfl, Nat.succ_pos k⟩)⟩

end Limited

/-- A surface with a frame limit after its workers were told to stop: what waits then is left. -/
structure Draining (m left k : Nat) (p : TexturePlayer D S R) : Prop where
  worker : p.session.worker.any Task.isRunning = false
  le : k ≤ m
  drawing : Lasting true (m - k) p ∧ k + (!p.isBetweenDraws).toNat + left = m ∨
    (∃ rig, p.drawing = some (.finished rig)) ∧ k + left = m ∨
    p.drawing = some .panicked ∧ 0 < k

namespace Draining

variable {requests draws : List Nat} {m left k : Nat}

theorem drew (h : Draining m left k p) (hp : Ordered requests draws m k p) (hstep : Drew p q) :
    Draining m left (k + (!p.isBetweenDraws).toNat) q := by
  obtain ⟨loop', told', hrunning⟩ := hstep.exists_running
  have hlasting : Lasting true (m - k) p ∧ k + (!p.isBetweenDraws).toNat + left = m := by
    rcases h.drawing with hlasting | ⟨⟨_, hgone⟩, _⟩ | ⟨hgone, _⟩
    · exact hlasting
    all_goals
      rw [hgone] at hrunning
      cases hrunning
  obtain ⟨hlasting, hleft⟩ := hlasting
  have ⟨loop, d, hloop, hending, hd, hlasts⟩ := hlasting
  cases hstep with
  | stop hdrawing =>
    rw [isBetweenDraws_of_running hdrawing] at hleft ⊢
    exact ⟨h.worker, h.le, .inr (.inl ⟨⟨_, rfl⟩, hleft⟩)⟩
  | take hdrawing | drained hdrawing =>
    rw [hdrawing] at hloop
    cases hloop
  | finish hdrawing =>
    rw [hdrawing] at hloop
    cases hloop
    cases hending
  | more hdrawing hdraw =>
    rw [hdrawing] at hloop
    cases hloop
    have hlt := (hp.drawing hdrawing).1
    obtain ⟨_, hmore⟩ := hlasting.answered (Nat.sub_pos_of_lt hlt) hdrawing hdraw
    obtain ⟨e, he, hlasts⟩ := hmore rfl
    rw [isBetweenDraws_of_running hdrawing] at hleft ⊢
    exact ⟨h.worker, hlt, .inl ⟨⟨_, e, rfl, rfl, he, hlasts⟩, hleft⟩⟩
  | ended hdrawing hdraw =>
    have hlt := (hp.drawing hdrawing).1
    exact absurd rfl (hlasting.answered (Nat.sub_pos_of_lt hlt) hdrawing hdraw).1
  | panicked hdrawing hdraw =>
    rw [isBetweenDraws_of_running hdrawing]
    exact ⟨h.worker, (hp.drawing hdrawing).1, .inr (.inr ⟨rfl, Nat.succ_pos k⟩)⟩

end Draining

/-! ### A surface from its appearance on -/

omit [FrameRenderer R D S] in
/-- On a surface only the end of the stream ends the session. -/
theorem Phase.streamEnded_of_isFinished (h : Phase p) (hsurface : p.session.surface)
    (hfinished : p.session.state.isFinished) : p.session.state = .streamEnded := by
  cases h with
  | away hno =>
    rw [hno] at hsurface
    cases hsurface
  | playing _ hstate =>
    rw [hstate] at hfinished
    cases hfinished
  | draining _ hstate | ending _ hstate | ended _ hstate => exact hstate
  | panicked _ hstate =>
    refine hstate.resolve_left fun hplaying => ?_
    rw [hplaying] at hfinished
    cases hfinished

omit [FrameRenderer R D S] in
theorem ordered_onNewSurface (p : TexturePlayer D S R) (pacer : Pacer) (rig : Rig R) :
    Ordered (p.onNewSurface pacer rig).stage.requests (p.onNewSurface pacer rig).stage.draws 0 0
      (p.onNewSurface pacer rig) := by
  refine ⟨(List.append_nil _).symm, (List.append_nil _).symm, Nat.le_refl 0, ?_, ?_⟩
  · rintro loop told hrunning
    cases hrunning
    rfl
  · rintro loop told hrunning _
    cases hrunning
    rfl

theorem limited_onNewSurface {m : Nat} (hlimit : p.session.options.maxFrames = some m)
    (hpos : 0 < m) {rig : Rig R} {d : D} (hd : p.stage.decoder? rig.lease = some d)
    (hlasts : FrameRenderer.Lasts m rig.renderer d p.stage.sink) (pacer : Pacer) :
    Limited m 0 0 (p.onNewSurface pacer rig) := by
  let ready : Session D S PaceLoop := { p.session.moveTo .surfaceReady with surface := true }
  refine ⟨?_, Nat.zero_le m, fun _ _ _ => .inr hpos, fun hended => ?_, ?_⟩
  · have hready : ready.options = p.session.options := Session.options_moveTo _ _
    exact (congrArg _ ((Session.options_moveTo ready .rendering).trans hready)).trans hlimit
  · rw [show (p.onNewSurface pacer rig).session.state = .rendering from
      Session.state_moveTo ready .rendering] at hended
    cases hended
  · have hdecoder : ready.stage.decoder? = p.stage.decoder? := Stage.decoder?_moveTo _ _
    have hsink : ready.stage.sink = p.stage.sink := Stage.sink_moveTo _ _
    have hdecoder' := (Stage.decoder?_moveTo ready .rendering).trans hdecoder
    have hsink' := (Stage.sink_moveTo ready .rendering).trans hsink
    exact .inl ⟨_, d, rfl, rfl, (congrFun hdecoder' rig.lease).trans hd, hsink' ▸ hlasts⟩

/-- One step of the two workers, in any order, or of a controller that tells both to stop as soon as
it sees that the session has ended. -/
inductive Plays (p : TexturePlayer D S R) : TexturePlayer D S R → Prop
  | work {q : TexturePlayer D S R} (h : Works p q) : Plays p q
  | leave (hfinished : p.session.state.isFinished) : Plays p p.leaveSurface

theorem ordered_plays {requests draws : List Nat} (h : ReflTransGen Plays p q)
    (hp : ∃ n k, Ordered requests draws n k p) : ∃ n k, Ordered requests draws n k q := by
  induction h with
  | refl => exact hp
  | tail _ hstep ih =>
    obtain ⟨n, k, hordered⟩ := ih
    cases hstep with
    | work hstep => exact hordered.works hstep
    | leave => exact ⟨n, k, hordered.leaveSurface⟩

theorem limited_works {requests draws : List Nat} {m : Nat} (h : ReflTransGen Works p q)
    (hp : ∃ n k, Ordered requests draws n k p ∧ Limited m n k p) :
    ∃ n k, Ordered requests draws n k q ∧ Limited m n k q := by
  induction h with
  | refl => exact hp
  | tail _ hstep ih =>
    obtain ⟨n, k, hordered, hlimited⟩ := ih
    cases hstep with
    | step hstep =>
      rcases hstep with hpace | hdraw
      · have hpaced := paced_of_paceStep? hpace
        exact ⟨_, _, hordered.paced hpaced, hlimited.paced hordered hpaced⟩
      · have hdrew := drew_of_drawStep? hdraw
        exact ⟨_, _, hordered.drew hdrew, hlimited.drew hordered hdrew⟩
    | turn | pass =>
      exact ⟨n, k, hordered.congr rfl rfl rfl hordered.seq, { hlimited with }⟩

theorem draining_works {requests draws : List Nat} {m left : Nat} (h : ReflTransGen Works p q)
    (hp : ∃ k, Ordered requests draws m k p ∧ Draining m left k p) :
    ∃ k, Ordered requests draws m k q ∧ Draining m left k q := by
  induction h with
  | refl => exact hp
  | tail _ hstep ih =>
    obtain ⟨k, hordered, hdraining⟩ := ih
    cases hstep with
    | step hstep =>
      rcases hstep with hpace | hdraw
      · obtain ⟨_, _, hrunning⟩ := (paced_of_paceStep? hpace).exists_running
        have hno := hdraining.worker
        rw [hrunning] at hno
        cases hno
      · have hdrew := drew_of_drawStep? hdraw
        exact ⟨_, hordered.drew hdrew, hdraining.drew hordered hdrew⟩
    | turn | pass =>
      exact ⟨k, hordered.congr rfl rfl rfl hordered.seq, { hdraining with }⟩

/-- When the end has been published, what waits is left as soon as the workers are told to stop. -/
theorem Limited.leaveSurface {requests draws : List Nat} {m n k : Nat} (h : Limited m n k p)
    (hp : Ordered requests draws n k p) (hsurface : p.session.surface)
    (hstate : p.session.state = .streamEnded) : n = m ∧ Draining m p.pending k p.leaveSurface := by
  obtain ⟨rfl, hworker⟩ := h.ended hstate
  have hleft : p.leaveSurface = { p with
      session := { p.session.moveTo p.session.state.lost with
        surface := false, worker := p.session.worker.map Task.cancel }
      drawing := p.drawing.map Task.cancel } := by
    rw [TexturePlayer.leaveSurface, if_pos hsurface, Session.leaveSurface_eq_lost hsurface]
  have hdrawing : p.leaveSurface.drawing = p.drawing.map Task.cancel := by rw [hleft]
  refine ⟨rfl, ?_, hp.le, ?_⟩
  · rw [hleft]
    exact (Task.any_isRunning_map_cancel _).trans hworker
  · rcases h.drawing with ⟨loop, d, hloop, hending, hd, hlasts⟩ | ⟨⟨rig, hgone⟩, hall⟩ |
      ⟨hgone, hpos⟩
    · have hcount : k + loop.isDrawing.toNat + loop.pending = n := by
        have hlength := DrawLoop.length_unanswered hending
        rw [hp.unanswered _ _ hloop hending, List.length_range'] at hlength
        have hle := hp.le
        omega
      have hpending : p.pending = loop.pending := by rw [pending, hloop]
      refine .inl ⟨⟨loop, d, by rw [hdrawing, hloop]; rfl, hending, ?_, ?_⟩, ?_⟩
      · rw [hleft]
        exact (congrFun (Stage.decoder?_moveTo _ _) _).trans hd
      · rw [hleft]
        exact (Stage.sink_moveTo p.session p.session.state.lost).symm ▸ hlasts
      · rw [isBetweenDraws_of_cancel hdrawing, isBetweenDraws_of_running hloop, Bool.not_not,
          hpending]
        exact hcount
    · have hpending : p.pending = 0 := by rw [pending, hgone]
      exact .inr (.inl ⟨⟨rig, by rw [hdrawing, hgone]; rfl⟩, by rw [hpending, hall]; rfl⟩)
    · exact .inr (.inr ⟨by rw [hdrawing, hgone]; rfl, hpos⟩)

theorem Draining.of_isQuiet {m left k : Nat} (h : Draining m left k p) (hquiet : p.isQuiet) :
    k + left = m ∨ p.drawing = some .panicked ∧ 0 < k := by
  rcases h.drawing with ⟨⟨loop, _, hloop, _⟩, _⟩ | ⟨_, hall⟩ | hpanicked
  · rw [isQuiet, hloop] at hquiet
    cases (Bool.and_eq_true_iff.mp hquiet).2
  · exact .inl hall
  · exact .inr hpanicked

theorem surface_works (h : ReflTransGen Works p q) : q.session.surface = p.session.surface := by
  induction h with
  | refl => rfl
  | tail _ hstep ih =>
    cases hstep with
    | step hstep => exact (sameOutside_of_workerStep hstep).surface.trans ih
    | turn | pass => exact ih

/-- A surface that is there when it has appeared was accepted. -/
theorem created_of_surface [VideoDecoder D] (hp : Sound p) {rig : Rig R}
    (hrenderer : p.renderer = some rig) (hsurface : p.created.2.session.surface) :
    ∃ pacer, p.created.2 = p.onNewSurface pacer (prepared D S rig) := by
  have hno := surface_of_renderer hp hrenderer
  rcases created_cases (not_any_isRunning hp) with ⟨r, hcreated⟩ | ⟨rig', hrenderer', hcases⟩
  · rw [hcreated, hno] at hsurface
    cases hsurface
  rw [hrenderer] at hrenderer'
  cases hrenderer'
  rcases hcases with ⟨_, r, hcreated⟩ | ⟨r, hcreated⟩ | ⟨pacer, hcreated⟩
  · rw [hcreated, (bared_dropRenderer hp hno).surface, hno] at hsurface
    cases hsurface
  · rw [hcreated] at hsurface
    exact absurd hsurface (by simp [hno])
  · exact ⟨pacer, by rw [hcreated]⟩

/-- The workers of a surface that has gone away settle as some run of theirs does. -/
theorem exists_works_destroyed (hp : Sound p) (hsurface : p.session.surface) :
    ∃ q, ReflTransGen Works p.leaveSurface q ∧ q.isQuiet ∧ q.stage = p.destroyed.2.stage := by
  obtain ⟨_, hquiet⟩ := (left_leaveSurface hp hsurface).settle
  refine ⟨_, works_settle _, hquiet, ?_⟩
  rw [destroyed_of_surface hp hsurface, Session.joinWorker_snd (Bool.and_eq_true_iff.mp hquiet).1]
  dsimp only
  rw [stage, stage, (joinDrawing_spec _).1]

/-- The requests of a surface, from its appearance on. Whatever the order in which the two workers
and a controller go on, the draws answer the first requests in order, each once. When the frame
limit has ended the session, on a stream that lasts as long, all requests of the limit have been
sent; what the queue holds when the workers are told to stop is left in it, and all else has been
drawn by the time they have stopped, unless a draw panicked. -/
theorem requests_in_order [VideoDecoder D] {decoders : D → Prop} {renderers : R → Prop}
    {sinks : S → Prop} (hreached : Reached decoders renderers sinks p) {rig : Rig R}
    (hrenderer : p.renderer = some rig) (hsurface : p.created.2.session.surface) :
    let begun := p.created.2
    (∀ q, ReflTransGen Plays begun q → ∃ n k, k ≤ n ∧
      q.stage.requests = begun.stage.requests ++ List.range' 1 n ∧
      q.stage.draws = begun.stage.draws ++ List.range' 1 k) ∧
    ∀ m d, 0 < m → p.session.options.maxFrames = some m → p.stage.decoder? rig.lease = some d →
      FrameRenderer.Lasts m (prepared D S rig).renderer d p.stage.sink →
      ∀ q, ReflTransGen Works begun q → q.session.state.isFinished →
        (∃ r, ReflTransGen Works q.leaveSurface r ∧ r.isQuiet ∧
          r.stage = q.destroyed.2.stage) ∧
        ∀ r, ReflTransGen Works q.leaveSurface r → r.isQuiet →
          r.stage.requests = begun.stage.requests ++ List.range' 1 m ∧
          ∃ k ≤ m, r.stage.draws = begun.stage.draws ++ List.range' 1 k ∧
            (k + q.pending = m ∨ r.drawing = some .panicked ∧ 0 < k) := by
  intro begun
  have hbegun : Reached decoders renderers sinks begun := hreached.happens .created
  obtain ⟨pacer, hcreated⟩ := created_of_surface hreached.phase.1 hrenderer hsurface
  have hordered : Ordered begun.stage.requests begun.stage.draws 0 0 begun := by
    rw [show begun = _ from hcreated]
    exact ordered_onNewSurface p pacer _
  refine ⟨fun q hplays => ?_, fun m d hpos hlimit hd hlasts q hworks hfinished => ?_⟩
  · obtain ⟨n, k, hq⟩ := ordered_plays hplays ⟨0, 0, hordered⟩
    exact ⟨n, k, hq.le, hq.requests, hq.draws⟩
  · have hlimited : Limited m 0 0 begun := by
      have hd' : p.stage.decoder? (prepared D S rig).lease = some d := hd
      rw [show begun = _ from hcreated]
      exact limited_onNewSurface hlimit hpos hd' hlasts pacer
    obtain ⟨n, k, hq, hqlimited⟩ := limited_works hworks ⟨0, 0, hordered, hlimited⟩
    have hthere : q.session.surface = true := (surface_works hworks).trans hsurface
    obtain ⟨hsound, hphase⟩ := (hbegun.works hworks).phase
    have hended := hphase.streamEnded_of_isFinished hthere hfinished
    obtain ⟨rfl, hdraining⟩ := hqlimited.leaveSurface hq hthere hended
    refine ⟨exists_works_destroyed hsound hthere, fun r hleft hquiet => ?_⟩
    obtain ⟨k', hr, hrdraining⟩ := draining_works hleft ⟨k, hq.leaveSurface, hdraining⟩
    exact ⟨hr.requests, k', hr.le, hr.draws, hrdraining.of_isQuiet hquiet⟩

end

/-- A player of a stream of one pixel whose surfaces end after one picture. -/
def oneRequest : TexturePlayer ScriptedDecoder ScriptedSink TextureRenderer :=
  (TexturePlayer.start (.new ⟨[], [], false, 0⟩ ⟨25.0, some 1⟩) (fun _ => .ok .onePixel)
    TextureRenderer.create "clip").2

theorem reached_oneRequest :
    Reached (fun _ => True) (fun _ => True) (fun _ => True) oneRequest :=
  ⟨_, _, trivial, .single (.start _ _ _ (fun _ _ _ => trivial) fun _ _ _ => trivial)⟩

theorem lasts_oneRequest : ∃ rig, oneRequest.renderer = some rig ∧
    oneRequest.stage.decoder? rig.lease = some .onePixel ∧
    FrameRenderer.Lasts 1 (prepared ScriptedDecoder ScriptedSink rig).renderer
      ScriptedDecoder.onePixel oneRequest.stage.sink :=
  ⟨_, rfl, rfl, (nofun : DrawOutcome.more ≠ .ended), fun _ => trivial⟩

/-- The pacing worker may send its only request and publish the end before the request is taken. -/
theorem exists_ended_oneRequest : ∃ q, ReflTransGen Works oneRequest.created.2 q ∧
    q.session.state.isFinished ∧ q.pending = 1 ∧ q.destroyed.2.stage.requests = [1] ∧
    q.destroyed.2.stage.draws = [] :=
  ⟨_, .head (.step (.inl rfl)) (.head (.step (.inl rfl)) (.single (.step (.inl rfl)))), rfl, rfl,
    rfl, rfl⟩

/-- One request, which is left in the queue in one order of the steps. -/
theorem requests_in_order_one : ∃ rig,
    oneRequest.renderer = some rig ∧ oneRequest.created.2.session.surface ∧
    oneRequest.stage.decoder? rig.lease = some .onePixel ∧
    FrameRenderer.Lasts 1 (prepared ScriptedDecoder ScriptedSink rig).renderer
      ScriptedDecoder.onePixel oneRequest.stage.sink ∧
    ∃ q, ReflTransGen Works oneRequest.created.2 q ∧ q.session.state.isFinished ∧ q.pending = 1 ∧
      ∃ k ≤ 1, q.destroyed.2.stage.draws = List.range' 1 k := by
  obtain ⟨rig, hrenderer, hd, hlasts⟩ := lasts_oneRequest
  obtain ⟨q, hworks, hfinished, hpending, _, _⟩ := exists_ended_oneRequest
  have hrun := (requests_in_order reached_oneRequest hrenderer rfl).2
  obtain ⟨⟨r, hleft, hquiet, hstage⟩, hall⟩ :=
    hrun 1 .onePixel Nat.one_pos rfl hd hlasts q hworks hfinished
  obtain ⟨_, k, hk, hdraws, _⟩ := hall r hleft hquiet
  exact ⟨rig, hrenderer, rfl, hd, hlasts, q, hworks, hfinished, hpending, k, hk, hstage ▸ hdraws⟩

/-- The stream has a frame for the only request, and in one order of the steps it is never drawn. -/
theorem request_left : ∃ rig,
    oneRequest.renderer = some rig ∧ oneRequest.stage.decoder? rig.lease = some .onePixel ∧
    FrameRenderer.Lasts 1 (prepared ScriptedDecoder ScriptedSink rig).renderer
      ScriptedDecoder.onePixel oneRequest.stage.sink ∧
    ∃ q, ReflTransGen Works oneRequest.created.2 q ∧ q.session.state.isFinished ∧
      q.destroyed.2.stage.requests = [1] ∧ q.destroyed.2.stage.draws = [] := by
  obtain ⟨rig, hrenderer, hd, hlasts⟩ := lasts_oneRequest
  obtain ⟨q, hworks, hfinished, _, hrequests, hdraws⟩ := exists_ended_oneRequest
  exact ⟨rig, hrenderer, hd, hlasts, q, hworks, hfinished, hrequests, hdraws⟩

end TexturePlayer

end AviPlayback
