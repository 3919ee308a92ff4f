import AviPlayback.Proofs.Player.SessionEnds
import AviPlayback.Proofs.Player.TexturePacing

/-!
The end of a stream that is drawn through a renderer. Whatever its draws find, a session has a list
of answers (`TexturePlayer.Answered`). Until one of them says that there is no frame left the
session is on its beat, and after that it asks for nothing and draws nothing
(`TexturePlayer.Nearing`): as many draws are asked for as were begun, and the end is published at
the time of the last one (`TexturePlayer.stops_at_last_draw`).
-/
set_option autoImplicit false

namespace AviPlayback

open Relation (ReflTransGen)

/-- Answers of which draw `last` is the first one that finds no frame, if it has been begun. -/
def EndsAt (last : Nat) (answers : List DrawOutcome) : Prop :=
  ∀ k answer, k < last → answers[k]? = some answer →
    answer = if k + 1 = last then .ended else .more

namespace EndsAt

variable {last : Nat} {answers more : List DrawOutcome}

theorem of_append (h : EndsAt last (answers ++ more)) : EndsAt last answers := fun k answer hk hget =>
  h k answer hk
    ((List.getElem?_append_left (List.getElem?_eq_some_iff.mp hget).1).trans hget)

theorem eq_of_head (h : EndsAt last (answers ++ more)) (hlt : answers.length < last)
    {answer : DrawOutcome} (hnext : more.head? = some answer) :
    answer = if answers.length + 1 = last then .ended else .more := by
  refine h answers.length answer hlt ?_
  rw [List.getElem?_append_right (Nat.le_refl _), Nat.sub_self, ← List.head?_eq_getElem?, hnext]

end EndsAt

namespace PaceLoop

/-- Whether the worker asks for nothing more at some time. -/
def IsBehind (now : Nat) : PaceLoop → Prop
  | sent _ _ => True
  | pausing _ _ due => now < due
  | _ => False

/-- A worker that is on time asked for the last draw less than a period ago. -/
theorem OnTime.isBehind {start period n now : Nat} {loop : PaceLoop}
    (h : loop.OnTime start period n now) (hearly : now < start + n * period) :
    loop.IsBehind now := by
  cases loop with
  | checking | sending =>
    have hnow : now = start + n * period := h
    exact absurd hearly (by omega)
  | sent => trivial
  | pausing => exact h.1 ▸ hearly

end PaceLoop

namespace TexturePlayer

variable {D S R : Type} {p q since : TexturePlayer D S R} {pacer : Pacer}

/-! ### A session with its answers -/

section

variable [FrameRenderer R D S]

/-- What the draw finds that the next step of the drawing worker begins. -/
def outcome? (p : TexturePlayer D S R) : Option DrawOutcome :=
  match p.drawing with
  | some (.running (.drawing rig seq _) _) =>
    some ((p.stage.record (.drawn seq)).draw rig.lease rig.renderer).1
  | _ => none

theorem outcome?_of_drawing {rig : Rig R} {seq : Nat} {queue : List Nat} {told : Bool}
    (hdrawing : p.drawing = some (.running (.drawing rig seq queue) told)) :
    p.outcome? = some ((p.stage.record (.drawn seq)).draw rig.lease rig.renderer).1 := by
  rw [outcome?, hdrawing]

theorem length_outcome? (p : TexturePlayer D S R) :
    p.outcome?.toList.length = (!p.isBetweenDraws).toNat := by
  rw [outcome?, isBetweenDraws]
  rcases p.drawing with _ | ⟨loop, _⟩ | _ | _
  · rfl
  · cases loop <;> rfl
  all_goals rfl

/-- A session from its beginning on, with what its draws have found. Time passes only where no
worker can go on, and up to the next moment at which one can. -/
inductive Answered [VideoDecoder D] (decoders : D → Prop) (renderers : R → Prop)
    (begun : TexturePlayer D S R) : List DrawOutcome → TexturePlayer D S R → Prop
  | begin : Answered decoders renderers begun [] begun
  | pace {answers : List DrawOutcome} {p q : TexturePlayer D S R}
      (h : Answered decoders renderers begun answers p) (hstep : p.paceStep? = some q) :
      Answered decoders renderers begun answers q
  | draw {answers : List DrawOutcome} {p q : TexturePlayer D S R}
      (h : Answered decoders renderers begun answers p) (hstep : p.drawStep? = some q) :
      Answered decoders renderers begun (answers ++ p.outcome?.toList) q
  | aside {answers : List DrawOutcome} {p q : TexturePlayer D S R}
      (h : Answered decoders renderers begun answers p) (haside : Aside decoders renderers p q) :
      Answered decoders renderers begun answers q
  | pass {answers : List DrawOutcome} {p : TexturePlayer D S R} (t : Nat)
      (h : Answered decoders renderers begun answers p) (hrest : Clocked.step? p = none)
      (hlater : p.stage.now ≤ t) (hwake : ∀ w ∈ p.wake?, t ≤ w) :
      Answered decoders renderers begun answers (p.setStage { p.stage with now := t })

/-- No work of the workers is the beginning of a session. -/
theorem not_begins_of_work [VideoDecoder D] (hp : Sound p) (hphase : Phase p) (haccepts : p.Accepts) :
    p.created.2.drawing ≠ p.drawing ∧ p.paceStep? = none ∧ p.drawStep? = none := by
  obtain ⟨rig, pacer, hrenderer, _, hcreated⟩ := created_of_accepts hp hphase haccepts
  have hsurface := surface_of_renderer hp hrenderer
  have hworker := hp.worker_of_no_surface hsurface
  have hdrawing := drawing_of_no_surface hp hsurface
  refine ⟨?_, by rw [paceStep?, hworker], by rw [drawStep?, hdrawing]⟩
  rw [hcreated, hdrawing]
  exact Option.some_ne_none _

/-- A session goes on to its next rest in no time. -/
theorem onClock_settle [VideoDecoder D] {decoders : D → Prop} {renderers : R → Prop}
    {sinks : S → Prop} (hreached : Reached decoders renderers sinks p) :
    ReflTransGen (Clocked.OnClock (Meanwhile decoders renderers)) p (Clocked.settle p) := by
  refine (Clocked.settle_keeps (P := fun q => Reached decoders renderers sinks q ∧
    ReflTransGen (Clocked.OnClock (Meanwhile decoders renderers)) p q) ?_ ⟨hreached, .refl⟩).2
  rintro q r ⟨hthere, hrun⟩ hnext
  obtain ⟨q', turn, rfl, hworker⟩ := exists_workerStep_of_step? hnext
  have hworked := hthere.happens (.work (.step hworker))
  refine ⟨hworked.happens (.work (.turn turn)), (hrun.tail (.move ⟨.work (.step hworker), ?_⟩
    (sameOutside_of_workerStep hworker).now)).tail (.move ⟨.work (.turn turn), ?_⟩ rfl)⟩
  · rintro ⟨haccepts, _⟩
    obtain ⟨_, hpace, hdraw⟩ := not_begins_of_work hthere.phase.1 hthere.phase.2 haccepts
    rw [hpace, hdraw] at hworker
    rcases hworker with h | h <;> cases h
  · rintro ⟨haccepts, hbegins⟩
    obtain ⟨hnew, _⟩ := not_begins_of_work hworked.phase.1 hworked.phase.2 haccepts
    exact hnew (congrArg TexturePlayer.drawing hbegins).symm

/-- Whatever happens in a session on the clock, its draws have found something; and it comes to
rest. -/
theorem exists_answered [VideoDecoder D] {decoders : D → Prop} {renderers : R → Prop}
    {sinks : S → Prop} (hperiod : 0 < pacer.period) (hreached : Reached decoders renderers sinks p)
    (hpaces : p.Paces pacer)
    (hrun : ReflTransGen (Clocked.OnClock (Meanwhile decoders renderers)) p q) :
    Reached decoders renderers sinks q ∧ (∃ answers, Answered decoders renderers p answers q) ∧
      Clocked.step? (Clocked.settle q) = none := by
  have hstep : ∀ {r s : TexturePlayer D S R}, r.Paces pacer →
      (∃ answers, Answered decoders renderers p answers r) →
      r.paceStep? = some s ∨ r.drawStep? = some s →
      ∃ answers, Answered decoders renderers p answers s := by
    rintro r s _ ⟨answers, h⟩ (hpace | hdraw)
    · exact ⟨_, h.pace hpace⟩
    · exact ⟨_, h.draw hdraw⟩
  have haside : ∀ {r s : TexturePlayer D S R}, (∃ answers, Answered decoders renderers p answers r) →
      Aside decoders renderers r s → ∃ answers, Answered decoders renderers p answers s :=
    fun ⟨_, h⟩ haside => ⟨_, h.aside haside⟩
  have hkeeps := onClock_keeps hperiod hstep haside
    (fun t ⟨_, h⟩ hrest hlater hwake => ⟨_, h.pass t hrest hlater hwake⟩) hreached hrun hpaces
    ⟨[], .begin⟩
  have htimely : Clocked.Timely (fun r => Reached decoders renderers sinks r ∧ r.Paces pacer ∧
      ∃ answers, Answered decoders renderers p answers r) stepsNow := timely_of_keeps hperiod hstep
    haside fun t ⟨_, h⟩ hrest hlater hwake => ⟨_, h.pass t hrest hlater hwake⟩
  exact ⟨hkeeps.1, hkeeps.2.2, (htimely.settle hkeeps).2.2⟩

end

/-! ### After the last draw -/

/-- A session whose renderer has drawn for the last time: no worker asks for a draw or begins one.
-/
structure Over (p : TexturePlayer D S R) : Prop where
  drawing : ∀ place stopped, p.drawing = some (.running place stopped) → place.isEnding
  pacing : ∀ place stopped loop told, p.drawing = some (.running place stopped) →
    p.session.worker = some (.running loop told) → loop.IsBehind p.stage.now
  state : p.session.surface → p.session.state ≠ .rendering

namespace Over

theorem spared (h : Over p) (hq : Spared p q) : Over q := by
  refine ⟨fun place stopped hdraws => ?_, fun place stopped loop told hdraws hrunning => ?_,
    fun hsurface => ?_⟩
  · obtain ⟨before, hbefore⟩ := hq.drawing.running hdraws
    exact h.drawing place before hbefore
  · obtain ⟨_, hplace⟩ := hq.drawing.running hdraws
    obtain ⟨_, hloop⟩ := hq.worker.running hrunning
    rw [hq.stage.now]
    exact h.pacing _ _ _ _ hplace hloop
  · rcases hq.session with hno | ⟨hsame, hstate, _⟩
    · rw [hno] at hsurface
      cases hsurface
    · rw [hstate]
      exact h.state (hsame ▸ hsurface)

theorem paced (h : Over p) (hpaces : p.Paces pacer) (hperiod : 0 < pacer.period)
    (hstep : Paced p q) :
    Over q ∧ q.stage.requestedAt = p.stage.requestedAt ∧ q.stage.drawnAt = p.stage.drawnAt := by
  cases hstep with
  | stop | refused => exact ⟨⟨h.drawing, nofun, h.state⟩, rfl, rfl⟩
  | check hworker =>
    exact ⟨⟨h.drawing, fun _ _ _ _ hdraws _ => (h.pacing _ _ _ _ hdraws hworker).elim, h.state⟩,
      rfl, rfl⟩
  | ask hworker hdrawing => exact (h.pacing _ _ _ _ hdrawing hworker).elim
  | limit =>
    have hspared := Stage.spared_moveTo p.session p.session.state.ended
    refine ⟨⟨h.drawing, nofun, fun _ hstate => ?_⟩, hspared.requestedAt, hspared.drawnAt⟩
    exact PlaybackState.ended_ne_rendering _ ((Session.state_moveTo _ _).symm.trans hstate)
  | @rest pacer' seq told hworker =>
    obtain rfl : pacer' = pacer := hpaces _ _ hworker
    refine ⟨⟨h.drawing, fun _ _ loop _ _ hrunning => ?_, h.state⟩, rfl, rfl⟩
    cases hrunning
    exact Nat.lt_add_of_pos_right hperiod
  | resume hworker hdue =>
    refine ⟨⟨h.drawing, fun _ _ _ _ hdraws _ => ?_, h.state⟩, rfl, rfl⟩
    exact absurd hdue (Nat.not_le_of_lt (h.pacing _ _ _ _ hdraws hworker))

section

variable [FrameRenderer R D S]

theorem drew (h : Over p) (hstep : Drew p q) :
    p.outcome? = none ∧ Over q ∧ q.stage.requestedAt = p.stage.requestedAt ∧
      q.stage.drawnAt = p.stage.drawnAt := by
  cases hstep with
  | stop hdrawing | take hdrawing | drained hdrawing | more hdrawing | ended hdrawing
  | panicked hdrawing => cases h.drawing _ _ hdrawing
  | finish hdrawing => exact ⟨by rw [outcome?, hdrawing], ⟨nofun, nofun, h.state⟩, rfl, rfl⟩

theorem workerStep (h : Over p) (hpaces : p.Paces pacer) (hperiod : 0 < pacer.period)
    (hstep : p.paceStep? = some q ∨ p.drawStep? = some q) :
    Over q ∧ q.stage.requestedAt = p.stage.requestedAt ∧ q.stage.drawnAt = p.stage.drawnAt := by
  rcases hstep with hpace | hdraw
  · exact h.paced hpaces hperiod (paced_of_paceStep? hpace)
  · exact (h.drew (drew_of_drawStep? hdraw)).2

/-- At rest the drawing worker has left its loop, so that it does not matter what time it is. -/
theorem pass (h : Over p) (hrest : Clocked.step? p = none) (t : Nat) :
    Over (p.setStage { p.stage with now := t }) := by
  refine ⟨h.drawing, fun place stopped loop told hdraws _ => ?_, h.state⟩
  have hdrawing : p.drawing = some (.running place stopped) := hdraws
  obtain ⟨_, hdraw⟩ := stepless_of_step?_eq_none hrest
  have hending := h.drawing place stopped hdrawing
  rw [drawStep?, hdrawing] at hdraw
  cases place with
  | waiting | drawing => cases hending
  | ending => cases hdraw

/-- Nothing is asked for or drawn any more, whatever happens until a surface begins the next
session. -/
theorem onClock [VideoDecoder D] {decoders : D → Prop} {renderers : R → Prop} {sinks : S → Prop}
    (h : Over p) (hreached : Reached decoders renderers sinks p) (hpaces : p.Paces pacer)
    (hperiod : 0 < pacer.period)
    (hrun : ReflTransGen (Clocked.OnClock (Meanwhile decoders renderers)) p q) :
    q.stage.requestedAt = p.stage.requestedAt ∧ q.stage.drawnAt = p.stage.drawnAt := by
  refine (onClock_keeps (P := fun q => Over q ∧ q.stage.requestedAt = p.stage.requestedAt ∧
    q.stage.drawnAt = p.stage.drawnAt) hperiod ?_ ?_ ?_ hreached hrun hpaces ⟨h, rfl, rfl⟩).2.2.2
  · rintro r s hr ⟨hover, hrequested, hdrawn⟩ hstep
    obtain ⟨hnext, hrequested', hdrawn'⟩ := hover.workerStep hr hperiod hstep
    exact ⟨hnext, hrequested'.trans hrequested, hdrawn'.trans hdrawn⟩
  · rintro r s ⟨hover, hrequested, hdrawn⟩ haside
    have hspared := haside.spared
    exact ⟨hover.spared hspared, hspared.stage.requestedAt.trans hrequested,
      hspared.stage.drawnAt.trans hdrawn⟩
  · rintro r t ⟨hover, hrequested, hdrawn⟩ hrest _ _
    exact ⟨hover.pass hrest t, hrequested, hdrawn⟩

end

end Over

/-! ### What a session publishes -/

/-- What a session has published while its surface is there: nothing since its beginning while
frames are produced, and then the end of its stream. -/
def Told (timeline : List (Nat × PlaybackState)) (endTime : Nat) (p : TexturePlayer D S R) : Prop :=
  p.session.surface →
    p.session.state = .rendering ∧ p.stage.publishedAt = timeline ∨
    p.session.state = .streamEnded ∧
      p.stage.publishedAt = timeline ++ [(endTime, .streamEnded)]

namespace Told

variable {timeline : List (Nat × PlaybackState)} {endTime : Nat}

theorem congr (h : Told timeline endTime p) (hsame : q.session.surface → q.session.surface =
    p.session.surface ∧ p.session.SameHistory q.session) : Told timeline endTime q := by
  intro hsurface
  obtain ⟨hthere, hhistory⟩ := hsame hsurface
  have hpublished : q.stage.publishedAt = p.stage.publishedAt := hhistory.publishedAt
  rw [hhistory.state, hpublished]
  exact h (hthere ▸ hsurface)

theorem workerStep [FrameRenderer R D S] (h : Told timeline endTime p)
    (hstep : p.paceStep? = some q ∨ p.drawStep? = some q)
    (hend : p.session.surface → p.session.state = .rendering → q.session.state ≠ .rendering →
      p.stage.now = endTime) : Told timeline endTime q := by
  intro hsurface
  have hends : p.session.EndsAtMost q.session := by
    rcases hstep with hpace | hdraw
    · exact (paced_of_paceStep? hpace).endsAtMost
    · exact (drew_of_drawStep? hdraw).endsAtMost
  have hthere := (sameOutside_of_workerStep hstep).surface.symm.trans hsurface
  obtain ⟨next, hnext, hhistory⟩ := hends
  have hstate : q.session.state = next := hhistory.state.trans (Session.state_moveTo _ _)
  have hpublished : q.stage.publishedAt = (p.session.moveTo next).stage.publishedAt :=
    hhistory.publishedAt
  rcases h hthere with ⟨hplaying, htimeline⟩ | ⟨hended, htimeline⟩
  · rcases hnext with rfl | rfl
    · rw [Session.moveTo_self] at hpublished
      exact .inl ⟨hstate.trans hplaying, hpublished.trans htimeline⟩
    · have hstop : q.session.state = .streamEnded := by rw [hstate, hplaying]; rfl
      have hnew : p.session.state.ended ≠ p.session.state := by rw [hplaying]; nofun
      have htime : p.session.stage.now = endTime := hend hthere hplaying (by rw [hstop]; nofun)
      refine .inr ⟨hstop, ?_⟩
      rw [hpublished, Stage.publishedAt_moveTo hnew, htime, hplaying]
      exact congrArg (· ++ _) htimeline
  · obtain rfl : next = p.session.state := by
      rcases hnext with rfl | rfl
      · rfl
      · rw [hended]
        rfl
    rw [Session.moveTo_self] at hpublished
    exact .inr ⟨hstate.trans hended, hpublished.trans htimeline⟩

end Told

/-- An aside that leaves the surface there publishes nothing. -/
theorem Aside.sameHistory [VideoDecoder D] [FrameRenderer R D S] {decoders : D → Prop}
    {renderers : R → Prop} (h : Aside decoders renderers p q) (hsurface : q.session.surface) :
    q.session.surface = p.session.surface ∧ p.session.SameHistory q.session := by
  have hsame : q.session.surface = p.session.surface :=
    (h.spared.session.resolve_left (by simp [hsurface])).1
  have hthere := hsame.symm.trans hsurface
  refine ⟨hsame, ?_⟩
  cases h with
  | turn => exact .refl _
  | start _ source create path => exact sameHistory_start p source create path
  | drop => exact sameHistory_dropRenderer p
  | prepare => exact .refl _
  | alter => exact ⟨rfl, rfl⟩
  | leave =>
    rw [leaveSurface, if_pos hthere, Session.leaveSurface_eq_lost hthere] at hsurface
    cases hsurface
  | join hgone | close hgone =>
    rw [hgone] at hthere
    cases hthere
  | free => exact sameHistory_freeRenderer p

theorem publishedAt_onNewSurface (p : TexturePlayer D S R) (pacer : Pacer) (rig : Rig R)
    (hstate : p.session.state.isActive = false) :
    (p.onNewSurface pacer rig).stage.publishedAt =
      p.stage.publishedAt ++ [(p.stage.now, .surfaceReady), (p.stage.now, .rendering)] := by
  let ready : Session D S PaceLoop := { p.session.moveTo .surfaceReady with surface := true }
  have hready : PlaybackState.surfaceReady ≠ p.session.state := fun heq => by
    rw [← heq] at hstate
    cases hstate
  have hplaying : PlaybackState.rendering ≠ ready.state := by
    have hthere : ready.state = .surfaceReady := Session.state_moveTo p.session _
    rw [hthere]
    nofun
  have hnow : ready.stage.now = p.stage.now := Session.now_moveTo p.session _
  have htaken : ready.stage.publishedAt = p.stage.publishedAt ++ [(p.stage.now, .surfaceReady)] :=
    Stage.publishedAt_moveTo hready
  refine (Stage.publishedAt_moveTo hplaying).trans ?_
  rw [hnow, htaken, List.append_assoc]
  rfl

/-! ### A session and its last draw -/

/-- Where a session has come with `k` draws, of which draw `last` finds no frame. The player `since`
is the one before the surface. -/
inductive Nearing (since : TexturePlayer D S R) (pacer : Pacer) (last k : Nat)
    (p : TexturePlayer D S R) : Prop
  | before {n : Nat} (hlt : k < last) (hle : n ≤ last)
      (hordered : Ordered since.stage.requests since.stage.draws n k p)
      (hbeat : Beat (fun _ => True) since.session.options pacer since.stage.now
        since.stage.requestedAt since.stage.drawnAt n k p)
  | after (hall : k = last) (hlate : since.stage.now + (last - 1) * pacer.period ≤ p.stage.now)
      (hrequested : p.stage.requestedAt =
        since.stage.requestedAt ++ pacer.numbered since.stage.now last)
      (hdrawn : p.stage.drawnAt = since.stage.drawnAt ++ pacer.numbered since.stage.now last)
      (hover : Over p)

variable {options : PlayerOptions} {start n k last : Nat} {requests draws : List (Nat × Nat)}
  {earlier begun : List Nat} {ready : R → Prop}

/-- The last draw is asked for no later than it is due. -/
theorem Beat.asking_le (h : Beat ready options pacer start requests draws n k p)
    (hperiod : 0 < pacer.period) (hlt : k < last) (hle : n ≤ last) :
    n + p.isAsking.toNat ≤ last := by
  rw [isAsking]
  split
  · next hworker hdrawing =>
    obtain ⟨rfl, _⟩ := h.all_drawn hperiod hworker hdrawing
    exact hlt
  · exact hle

/-- Where the pacing worker ends a session at the frame limit, its last draw has just been asked
for. -/
theorem Beat.now_of_limit (h : Beat ready options pacer start requests draws n k p)
    (hp : Ordered earlier begun n k p) (hperiod : 0 < pacer.period)
    (hlimit : ∀ m ∈ options.maxFrames, last ≤ m) (hle : n ≤ last) (hstep : Paced p q)
    (hplaying : p.session.state = .rendering) (hended : q.session.state ≠ .rendering) :
    p.stage.now = start + (last - 1) * pacer.period := by
  cases hstep with
  | limit hworker hreached =>
    have hseq : _ = n := hp.seq _ _ hworker
    have honTime : p.stage.now + pacer.period = start + n * pacer.period :=
      (h.pacing _ _ hworker).onTime
    have hlate := h.late
    obtain ⟨m, hm, hmn⟩ := PlayerOptions.exists_le_of_limitReached hreached
    have hlast := hlimit m (h.limit ▸ hm)
    simp only [PaceLoop.seq] at hseq
    obtain rfl : n = last := by omega
    cases n with
    | zero => omega
    | succ n =>
      rw [Nat.succ_mul] at honTime
      rw [Nat.add_sub_cancel]
      omega
  | stop | check | ask | refused | rest | resume => exact absurd hplaying hended

/-- Only the end of the stream changes the state in a step of the drawing worker. -/
theorem Drew.state_eq [FrameRenderer R D S] (h : Drew p q) (hended : p.outcome? ≠ some .ended) :
    q.session.state = p.session.state := by
  cases h with
  | ended hdrawing hdraw =>
    refine absurd ?_ hended
    rw [outcome?_of_drawing hdrawing, hdraw]
  | _ => rfl

/-- A session is over with the draw that finds no frame, which is the last one asked for. -/
theorem Beat.after_last [FrameRenderer R D S]
    (h : Beat ready since.session.options pacer since.stage.now since.stage.requestedAt
      since.stage.drawnAt n k p) (hp : Ordered earlier begun n k p) (hperiod : 0 < pacer.period)
    (hstep : Drew p q) (hended : p.outcome? = some .ended) :
    Nearing since pacer (k + 1) (k + 1) q ∧ p.stage.now = since.stage.now + k * pacer.period := by
  cases hstep with
  | stop hdrawing | take hdrawing | drained hdrawing | finish hdrawing =>
    rw [outcome?, hdrawing] at hended
    cases hended
  | more hdrawing hdraw | panicked hdrawing hdraw =>
    rw [outcome?_of_drawing hdrawing, hdraw] at hended
    cases hended
  | @ended rig seq queue told renderer stage hdrawing hdraw =>
    obtain ⟨rfl, rfl, hnow⟩ := h.due hp hdrawing
    obtain ⟨hsame, hrequested, hdrawn, _⟩ := h.drawn_of_draw hp hdrawing hdraw
    have hspared := Stage.spared_moveTo (p.setStage stage).session p.session.state.ended
    have hlater : p.stage.now < since.stage.now + (k + 1) * pacer.period := by
      rw [hnow, Nat.succ_mul]
      omega
    have hnext : ((p.setStage stage).session.moveTo p.session.state.ended).stage.now =
        p.stage.now := hspared.now.trans hsame
    refine ⟨.after rfl (Nat.le_of_eq (hnow.symm.trans hnext.symm))
      (hspared.requestedAt.trans hrequested) (hspared.drawnAt.trans hdrawn) ⟨?_, ?_, ?_⟩, hnow⟩
    · rintro place stopped ⟨⟩
      rfl
    · intro place stopped loop told _ hrunning
      have hworker : p.session.worker = some (.running loop told) :=
        (Session.worker_moveTo (p.setStage stage).session _).symm.trans hrunning
      exact (hnext ▸ (h.pacing _ _ hworker).onTime.isBehind hlater :)
    · intro _ hplaying
      exact PlaybackState.ended_ne_rendering _ ((Session.state_moveTo _ _).symm.trans hplaying)

namespace Nearing

theorem spared (h : Nearing since pacer last k p) (hq : Spared p q) :
    Nearing since pacer last k q := by
  cases h with
  | before hlt hle hordered hbeat =>
    exact .before hlt hle (hordered.spared hq) (hbeat.spared hq)
  | after hall hlate hrequested hdrawn hover =>
    exact .after hall (hq.stage.now ▸ hlate) (hq.stage.requestedAt.trans hrequested)
      (hq.stage.drawnAt.trans hdrawn) (hover.spared hq)

section

variable [FrameRenderer R D S]

theorem paced (h : Nearing since pacer last k p) (hpaces : p.Paces pacer)
    (hperiod : 0 < pacer.period) (hlimit : ∀ m ∈ since.session.options.maxFrames, last ≤ m)
    (hstep : p.paceStep? = some q) : Nearing since pacer last k q ∧
      (p.session.surface → p.session.state = .rendering → q.session.state ≠ .rendering →
        p.stage.now = since.stage.now + (last - 1) * pacer.period) := by
  have hpaced := paced_of_paceStep? hstep
  cases h with
  | before hlt hle hordered hbeat =>
    exact ⟨.before hlt (hbeat.asking_le hperiod hlt hle) (hordered.paced hpaced)
      (hbeat.paced hordered hperiod hpaced),
      fun _ => hbeat.now_of_limit hordered hperiod hlimit hle hpaced⟩
  | after hall hlate hrequested hdrawn hover =>
    obtain ⟨hnext, hrequested', hdrawn'⟩ := hover.paced hpaces hperiod hpaced
    exact ⟨.after hall ((sameOutside_of_workerStep (.inl hstep)).now ▸ hlate)
      (hrequested'.trans hrequested) (hdrawn'.trans hdrawn) hnext,
      fun hsurface hplaying => absurd hplaying (hover.state hsurface)⟩

theorem drew (h : Nearing since pacer last k p) (hperiod : 0 < pacer.period)
    (hends : ∀ answer ∈ p.outcome?, k < last →
      answer = if k + 1 = last then .ended else .more) (hstep : p.drawStep? = some q) :
    Nearing since pacer last (k + p.outcome?.toList.length) q ∧
      (p.session.surface → p.session.state = .rendering → q.session.state ≠ .rendering →
        p.stage.now = since.stage.now + (last - 1) * pacer.period) := by
  have hdrew := drew_of_drawStep? hstep
  cases h with
  | before hlt hle hordered hbeat =>
    by_cases hended : p.outcome? = some .ended
    · obtain rfl : k + 1 = last := by
        by_contra hne
        have hmore := hends _ hended hlt
        rw [if_neg hne] at hmore
        cases hmore
      obtain ⟨hnext, hnow⟩ := hbeat.after_last hordered hperiod hdrew hended
      rw [hended]
      exact ⟨hnext, fun _ _ _ => hnow⟩
    · have hmore : ∀ answer ∈ p.outcome?, answer = .more ∧ k + 1 < last := fun answer hanswer => by
        have heq := hends answer hanswer hlt
        split at heq
        · exact absurd (heq ▸ hanswer) hended
        · exact ⟨heq, by omega⟩
      have hlast : k + p.outcome?.toList.length < last := by
        cases houtcome : p.outcome? with
        | none => exact hlt
        | some answer => exact (hmore answer houtcome).2
      refine ⟨?_, fun _ hplaying hover => absurd ?_ hover⟩
      · rw [length_outcome?] at hlast ⊢
        refine .before hlast hle (hordered.drew hdrew)
          (hbeat.drew hordered (fun rig seq queue told hdrawing => ?_) hdrew)
        rcases hdraw : (p.stage.record (.drawn seq)).draw rig.lease rig.renderer with
          ⟨answer, renderer, stage⟩
        have hanswer := outcome?_of_drawing hdrawing
        rw [hdraw] at hanswer
        obtain ⟨rfl, _⟩ := hmore answer hanswer
        exact ⟨renderer, stage, rfl, trivial⟩
      · rw [hdrew.state_eq hended]
        exact hplaying
  | after hall hlate hrequested hdrawn hover =>
    obtain ⟨hnone, hnext, hrequested', hdrawn'⟩ := hover.drew hdrew
    rw [hnone]
    exact ⟨.after hall ((sameOutside_of_workerStep (.inr hstep)).now ▸ hlate)
      (hrequested'.trans hrequested) (hdrawn'.trans hdrawn) hnext,
      fun hsurface hplaying => absurd hplaying (hover.state hsurface)⟩

theorem pass (h : Nearing since pacer last k p) (hrest : Clocked.step? p = none) {t : Nat}
    (hlater : p.stage.now ≤ t) (hwake : ∀ w ∈ p.wake?, t ≤ w) :
    Nearing since pacer last k (p.setStage { p.stage with now := t }) := by
  cases h with
  | before hlt hle hordered hbeat =>
    exact .before hlt hle (hordered.congr rfl rfl rfl hordered.seq)
      (hbeat.pass_at_rest hordered hrest hlater hwake)
  | after hall hlate hrequested hdrawn hover =>
    exact .after hall (Nat.le_trans hlate hlater) hrequested hdrawn (hover.pass hrest t)

end

end Nearing

/-- A session on the way to its last draw, with what it has published. -/
structure Heading (since : TexturePlayer D S R) (pacer : Pacer) (last k : Nat)
    (p : TexturePlayer D S R) : Prop where
  paces : p.Paces pacer
  nearing : Nearing since pacer last k p
  told : Told (since.stage.publishedAt ++
    [(since.stage.now, .surfaceReady), (since.stage.now, .rendering)])
    (since.stage.now + (last - 1) * pacer.period) p

section

variable [VideoDecoder D] [FrameRenderer R D S] {decoders : D → Prop} {renderers : R → Prop}
  {sinks : S → Prop}

/-- A session is on its way after all its answers. -/
theorem Heading.answered (hperiod : 0 < pacer.period)
    (hlimit : ∀ m ∈ since.session.options.maxFrames, last ≤ m)
    (hp : Heading since pacer last 0 p) {answers : List DrawOutcome}
    (h : Answered decoders renderers p answers q) (hends : EndsAt last answers) :
    Heading since pacer last answers.length q := by
  induction h with
  | begin => exact hp
  | pace _ hstep ih =>
    obtain ⟨hpaces, hnearing, htold⟩ := ih hends
    obtain ⟨hnext, hend⟩ := hnearing.paced hpaces hperiod hlimit hstep
    exact ⟨(hpaces.workerStep hperiod (.inl hstep)).1, hnext, htold.workerStep (.inl hstep) hend⟩
  | @draw answers r s _ hstep ih =>
    obtain ⟨hpaces, hnearing, htold⟩ := ih hends.of_append
    obtain ⟨hnext, hend⟩ := hnearing.drew hperiod (fun answer hanswer hlt =>
      hends.eq_of_head hlt (by rw [Option.head?_toList]; exact hanswer)) hstep
    rw [List.length_append]
    exact ⟨(hpaces.workerStep hperiod (.inr hstep)).1, hnext, htold.workerStep (.inr hstep) hend⟩
  | aside _ haside ih =>
    obtain ⟨hpaces, hnearing, htold⟩ := ih hends
    exact ⟨hpaces.spared haside.spared, hnearing.spared haside.spared,
      htold.congr haside.sameHistory⟩
  | pass t _ hrest hlater hwake ih =>
    obtain ⟨hpaces, hnearing, htold⟩ := ih hends
    exact ⟨hpaces, hnearing.pass hrest hlater hwake, htold.congr fun _ => ⟨rfl, rfl, rfl⟩⟩

/-- A session begins on its way. -/
theorem heading_created (hreached : Reached decoders renderers sinks p) (haccepts : p.Accepts)
    (hpacer : p.session.pacer = .ok pacer) (hlast : 1 ≤ last)
    (hlimit : ∀ m ∈ p.session.options.maxFrames, last ≤ m) :
    Heading p pacer last 0 p.created.2 := by
  obtain ⟨hsound, hphase⟩ := hreached.phase
  obtain ⟨rig, pacer', hrenderer, hpacer', hcreated⟩ := created_of_accepts hsound hphase haccepts
  obtain rfl : pacer = pacer' := Except.ok.inj (hpacer.symm.trans hpacer')
  have hinactive := hphase.not_isActive (surface_of_renderer hsound hrenderer)
  have hlease : (prepared D S rig).lease = rig.lease := rfl
  have hbegins : p.session.options.maxFrames ≠ some 0 := fun hzero => by
    have hle := hlimit 0 hzero
    omega
  rw [hcreated]
  refine ⟨paces_onNewSurface p pacer _, .before hlast (Nat.zero_le _)
    (ordered_of_onNewSurface p pacer _)
    (beat_onNewSurface hsound hrenderer hlease trivial pacer hbegins), fun _ => .inl ?_⟩
  exact ⟨Session.state_moveTo _ _, publishedAt_onNewSurface p pacer _ hinactive⟩

/-- The end of a stream that is drawn through a renderer, in a session on the clock whose draw
`last` is the first one that finds no frame, within the frame limit if there is one. Whatever
happens, the draws of a session have found something, and it comes to rest in no time. One draw is
asked for each period, up to draw `last`, and each one is begun at the time of its request. With
draw `last`, if the surface is still there, the end of the stream is published, at the same time;
and until a surface begins the next session no draw is asked for or begun any more, however long
one waits. -/
theorem stops_at_last_draw (hlast : 1 ≤ last) (hdelay : 1 ≤ pacer.delay)
    (hreached : Reached decoders renderers sinks p) (haccepts : p.Accepts)
    (hpacer : p.session.pacer = .ok pacer)
    (hlimit : ∀ m ∈ p.session.options.maxFrames, last ≤ m)
    (hrun : ReflTransGen (Clocked.OnClock (Meanwhile decoders renderers)) p.created.2 q) :
    (∃ answers, Answered decoders renderers p.created.2 answers q) ∧
    (ReflTransGen (Clocked.OnClock (Meanwhile decoders renderers)) q (Clocked.settle q) ∧
      Clocked.step? (Clocked.settle q) = none) ∧
    ∀ answers, Answered decoders renderers p.created.2 answers q → EndsAt last answers →
      ∃ n ≤ last, answers.length ≤ n ∧
        q.stage.requestedAt = p.stage.requestedAt ++ pacer.numbered p.stage.now n ∧
        q.stage.drawnAt = p.stage.drawnAt ++ pacer.numbered p.stage.now answers.length ∧
        (q.session.surface → Clocked.step? q = none → answers.length = n ∧
          n = min last ((q.stage.now - p.stage.now) / pacer.period + 1)) ∧
        (answers.length = last → n = last ∧
          (q.session.surface → q.session.state = .streamEnded ∧
            q.stage.publishedAt = p.stage.publishedAt ++
              [(p.stage.now, .surfaceReady), (p.stage.now, .rendering),
                (p.stage.now + (last - 1) * pacer.period, .streamEnded)]) ∧
          ∀ r, ReflTransGen (Clocked.OnClock (Meanwhile decoders renderers)) q r →
            r.stage.requestedAt = q.stage.requestedAt ∧ r.stage.drawnAt = q.stage.drawnAt) := by
  have hperiod := Pacer.period_pos hdelay
  have hbegun := heading_created hreached haccepts hpacer hlast hlimit
  obtain ⟨hthere, hanswered, hsettled⟩ :=
    exists_answered hperiod (hreached.happens .created) hbegun.paces hrun
  refine ⟨hanswered, ⟨onClock_settle hthere, hsettled⟩, fun answers hanswers hends => ?_⟩
  obtain ⟨hpaces, hnearing, htold⟩ := hbegun.answered hperiod hlimit hanswers hends
  cases hnearing with
  | @before n hlt hle hordered hbeat =>
    refine ⟨n, hle, hordered.le, hbeat.requested, hbeat.drawn, fun hsurface hrest => ?_,
      fun hall => absurd hall (Nat.ne_of_lt hlt)⟩
    obtain ⟨hcount, hall, _⟩ := hbeat.at_rest hordered hperiod hsurface hrest
    have hcapped := PlayerOptions.capped_eq_of_lt (hcount ▸ hall ▸ hlt) hlimit
    rw [hcapped] at hcount
    exact ⟨hall, by omega⟩
  | after hall hlate hrequested hdrawn hover =>
    have hcount := Pacer.le_count hperiod hlate
    refine ⟨last, Nat.le_refl _, Nat.le_of_eq hall, hrequested, by rw [hall]; exact hdrawn,
      fun _ _ => ⟨hall, (Nat.min_eq_left hcount).symm⟩, fun _ => ⟨rfl, fun hsurface => ?_, ?_⟩⟩
    · obtain ⟨hplaying, _⟩ | ⟨hended, hpublished⟩ := htold hsurface
      · exact absurd hplaying (hover.state hsurface)
      · exact ⟨hended, hpublished.trans (List.append_assoc _ _ _)⟩
    · exact fun r => hover.onClock hthere hpaces hperiod

end

/-- A stream of one pixel under a limit of two frames, with a renderer that finds no frame at its
second draw, before the first surface. -/
def twoDraws : TexturePlayer ScriptedDecoder DrawTally ScriptedRenderer :=
  (TexturePlayer.start (.new ⟨0⟩ ⟨25.0, some 2⟩) (fun _ => .ok .onePixel)
    (fun _ => .ok ⟨some 2, none, false⟩) "clip").2

def afterPace (p : TexturePlayer ScriptedDecoder DrawTally ScriptedRenderer) :
    TexturePlayer ScriptedDecoder DrawTally ScriptedRenderer := p.paceStep?.getD p

def afterDraw (p : TexturePlayer ScriptedDecoder DrawTally ScriptedRenderer) :
    TexturePlayer ScriptedDecoder DrawTally ScriptedRenderer := p.drawStep?.getD p

/-- The player when its first draw has been begun, at rest. -/
def firstDrawn : TexturePlayer ScriptedDecoder DrawTally ScriptedRenderer :=
  afterDraw (afterDraw (afterPace (afterPace (afterPace twoDraws.created.2))))

/-- The player when its second draw has been begun, forty milliseconds later, before the pacing
worker comes to the frame limit. -/
def secondDrawn : TexturePlayer ScriptedDecoder DrawTally ScriptedRenderer :=
  afterDraw (afterDraw (afterPace (afterPace (afterPace
    (firstDrawn.setStage { firstDrawn.stage with now := 40 })))))

/-- The second draw finds no frame, at the time of the frame limit: two draws are asked for, and the
stream ends with the second one. Two seconds later nothing more has been asked for or drawn. -/
theorem stops_at_last_draw_second :
    let known : ScriptedDecoder → Prop := fun _ => True
    let scripted : ScriptedRenderer → Prop := fun _ => True
    twoDraws.Accepts ∧
      ReflTransGen (Clocked.OnClock (Meanwhile known scripted)) twoDraws.created.2 secondDrawn ∧
      Answered known scripted twoDraws.created.2 [.more, .ended] secondDrawn ∧
      secondDrawn.session.surface ∧ secondDrawn.stage.requestedAt = [(0, 1), (40, 2)] ∧
      secondDrawn.stage.drawnAt = [(0, 1), (40, 2)] ∧
      secondDrawn.stage.publishedAt = [(0, .surfaceReady), (0, .rendering), (40, .streamEnded)] ∧
      (Clocked.sleep secondDrawn 2000).stage.requestedAt = [(0, 1), (40, 2)] ∧
      (Clocked.sleep secondDrawn 2000).stage.drawnAt = [(0, 1), (40, 2)] := by
  intro known scripted
  have hreached : Reached known scripted (fun _ => True) twoDraws :=
    ⟨_, _, trivial, .single (.start _ _ _ (fun _ _ _ => trivial) fun _ _ _ => trivial)⟩
  have haccepts : twoDraws.Accepts := ⟨nofun, rfl⟩
  let Seen (answers : List DrawOutcome)
      (q : TexturePlayer ScriptedDecoder DrawTally ScriptedRenderer) : Prop :=
    ReflTransGen (Clocked.OnClock (Meanwhile known scripted)) twoDraws.created.2 q ∧
      Answered known scripted twoDraws.created.2 answers q
  have hnext : ∀ {q : TexturePlayer ScriptedDecoder DrawTally ScriptedRenderer}
      {next : Option (TexturePlayer ScriptedDecoder DrawTally ScriptedRenderer)},
      next.isSome → next = some (next.getD q) := fun hsome => by
    obtain ⟨r, rfl⟩ := Option.isSome_iff_exists.mp hsome
    rfl
  have hpace : ∀ {answers q}, Seen answers q →
      q.paceStep?.isSome ∧ q.session.state = .rendering → Seen answers (afterPace q) := by
    rintro answers q ⟨hrun, h⟩ ⟨hsome, hstate⟩
    exact ⟨hrun.tail (.move ⟨.work (.step (.inl (hnext hsome))), fun hno => hno.1.1 hstate⟩
      (sameOutside_of_workerStep (.inl (hnext hsome))).now), h.pace (hnext hsome)⟩
  have hdraw : ∀ {answers q} found, Seen answers q →
      q.drawStep?.isSome ∧ q.session.state = .rendering ∧ q.outcome? = found →
      Seen (answers ++ found.toList) (afterDraw q) := by
    rintro answers q found ⟨hrun, h⟩ ⟨hsome, hstate, rfl⟩
    exact ⟨hrun.tail (.move ⟨.work (.step (.inr (hnext hsome))), fun hno => hno.1.1 hstate⟩
      (sameOutside_of_workerStep (.inr (hnext hsome))).now), h.draw (hnext hsome)⟩
  -- the first draw is asked for, the pacing worker pauses, and the drawing worker draws
  have hasked := hpace (hpace (hpace ⟨.refl, .begin⟩ (by decide +kernel)) (by decide +kernel))
    (by decide +kernel)
  have hfirst : Seen [.more] firstDrawn :=
    hdraw (some .more) (hdraw none hasked (by decide +kernel)) (by decide +kernel)
  have hrest : Clocked.step? firstDrawn = none :=
    Option.isNone_iff_eq_none.mp (by decide +kernel)
  have hwake : ∀ w ∈ firstDrawn.wake?, 40 ≤ w := by
    have hdue : firstDrawn.wake? = some 40 := by decide +kernel
    simp [hdue]
  have hsleep : Clocked.sleep firstDrawn 40 =
      firstDrawn.setStage { firstDrawn.stage with now := 40 } := Clocked.sleep_of_none hrest hwake
  have hdue : Seen [.more] (firstDrawn.setStage { firstDrawn.stage with now := 40 }) :=
    ⟨hfirst.1.tail (hsleep ▸ .sleep 40), hfirst.2.pass 40 hrest (by decide +kernel) hwake⟩
  -- the second draw ends the stream before the pacing worker comes to the frame limit
  have hasked' := hpace (hpace (hpace hdue (by decide +kernel)) (by decide +kernel))
    (by decide +kernel)
  obtain ⟨hrun, hanswered⟩ : Seen [.more, .ended] secondDrawn :=
    hdraw (some .ended) (hdraw none hasked' (by decide +kernel)) (by decide +kernel)
  have hdelay : 1 ≤ (Pacer.withFallback 25.0 25.0).delay := by decide +kernel
  have hlimit : ∀ m ∈ twoDraws.session.options.maxFrames, 2 ≤ m := by
    rintro m ⟨⟩
    exact Nat.le_refl 2
  have hends : EndsAt 2 [.more, .ended] := by
    rintro (_ | _ | k) answer hk ⟨⟩
    · rfl
    · rfl
  obtain ⟨_, _, hall⟩ := stops_at_last_draw (Nat.le_succ 1) hdelay hreached haccepts rfl hlimit hrun
  obtain ⟨n, _, _, hrequested, hdrawn, _, hlast⟩ := hall _ hanswered hends
  obtain ⟨rfl, hpublished, hafter⟩ := hlast rfl
  obtain ⟨hrequested', hdrawn'⟩ := hafter _ (.single (.sleep 2000))
  have hsurface : secondDrawn.session.surface := by decide +kernel
  have hrequests : secondDrawn.stage.requestedAt = [(0, 1), (40, 2)] :=
    hrequested.trans (by decide +kernel)
  have hdraws : secondDrawn.stage.drawnAt = [(0, 1), (40, 2)] := hdrawn.trans (by decide +kernel)
  exact ⟨haccepts, hrun, hanswered, hsurface, hrequests, hdraws,
    (hpublished hsurface).2.trans (by decide +kernel), hrequested'.trans hrequests,
    hdrawn'.trans hdraws⟩

end TexturePlayer

end AviPlayback
