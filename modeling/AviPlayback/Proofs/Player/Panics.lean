import AviPlayback.Proofs.Player.Phases
import AviPlayback.Proofs.Player.Releases

/-!
Panics while frames are shown. The worker that panics leaves its loop without a word, so the state
stays what it was. A player in software reports the panic when its surface goes away or it is
stopped; a player that draws through renderers reports it never, and has lost its renderer
(`Player.after_panic`).
-/
set_option autoImplicit false

namespace AviPlayback

open Relation (ReflTransGen)

namespace BitmapPlayer

variable {D S : Type} [VideoDecoder D] [FrameReader D S] [FrameSink S] {p q : BitmapPlayer D S}

omit [VideoDecoder D] in
/-- Whether the next step shows a picture at which the surface panics. -/
def SurfacePanics (p : BitmapPlayer D S) : Prop :=
  ∃ b told c stage, p.worker = some (.running (.drawing b) told) ∧
    b.refresh p.stage = (false, c, stage) ∧ (stage.present c.picture).1 = .panicked

theorem exists_panicked (h : SurfacePanics p) :
    ∃ q, Clocked.step? p = some q ∧ q.worker = some .panicked := by
  obtain ⟨b, told, c, stage, hworker, hrefresh, hshown⟩ := h
  have hstep : step? p = some (tick p b told) := by rw [step?, hworker]
  refine ⟨_, hstep, ?_⟩
  rw [tick, hrefresh]
  dsimp only
  rw [if_neg Bool.false_ne_true, showPicture]
  dsimp only
  rw [if_pos (by exact hshown)]
  rfl

theorem step?_of_panicked (h : p.worker = some .panicked) : Clocked.step? p = none := by
  have hstep : step? p = none := by rw [step?, h]
  exact hstep

/-- Nothing becomes of a worker that has panicked. -/
theorem panicked_works (hworks : ReflTransGen Works p q) (h : p.worker = some .panicked) :
    q.worker = some .panicked ∧ q.state = p.state := by
  induction hworks with
  | refl => exact ⟨h, rfl⟩
  | tail _ hstep ih =>
    cases hstep with
    | step hstep =>
      rw [show step? _ = _ from step?_of_panicked ih.1] at hstep
      cases hstep
    | pass t => exact ih

omit [VideoDecoder D] [FrameReader D S] [FrameSink S] in
/-- A worker that has panicked has not said so. -/
theorem Phase.state_of_panicked (h : Phase p) (hp : Sound p)
    (hpanicked : p.worker = some .panicked) :
    p.state = .rendering := by
  cases h with
  | away hsurface =>
    rw [hp.worker_of_no_surface hsurface] at hpanicked
    cases hpanicked
  | playing _ _ hworker | ended _ _ hworker =>
    rw [hworker] at hpanicked
    cases hpanicked
  | panicked _ hstate => exact hstate

/-- A panic is reported when the surface goes away. -/
theorem endSurface_of_panicked (hp : Sound p) (h : p.worker = some .panicked) :
    p.endSurface.1 = .error .worker := by
  have hsurface : p.surface = true := by
    refine (Bool.not_eq_false _).mp fun hno => ?_
    rw [hp.worker_of_no_surface hno] at h
    cases h
  have hleft : Session.worker p.leaveSurface = some .panicked := by
    rw [Session.leaveSurface_eq_lost hsurface]
    exact congrArg (Option.map Task.cancel) h
  rw [endSurface_of_surface hp hsurface, Clocked.settle_of_none (step?_of_panicked hleft),
    Session.joinWorker, hleft]
  rfl

/-- A panic while the surface goes away is reported, too. -/
theorem endSurface_of_panics (hp : Sound p) (hsurface : p.surface)
    (h : SurfacePanics p.leaveSurface) : p.endSurface.1 = .error .worker := by
  obtain ⟨q, hstep, hpanicked⟩ := exists_panicked h
  obtain ⟨_, hquiet⟩ := (left_leaveSurface hp hsurface).settle
  -- the worker has no other step than the one that panics, and cannot stay in its loop
  have hsettled : Clocked.settle p.leaveSurface = p.leaveSurface ∨
      (Clocked.settle p.leaveSurface).worker = some .panicked := by
    refine Clocked.settle_keeps
      (P := fun r : BitmapPlayer D S => r = p.leaveSurface ∨ r.worker = some .panicked)
      (fun {r n} hr hn => ?_) (.inl rfl)
    rcases hr with rfl | hr
    · rw [hstep] at hn
      cases hn
      exact .inr hpanicked
    · rw [step?_of_panicked hr] at hn
      cases hn
  have hworker : (Clocked.settle p.leaveSurface).worker = some .panicked := by
    refine hsettled.resolve_left fun heq => ?_
    obtain ⟨b, told, _, _, hrunning, _, _⟩ := h
    rw [heq, Session.isQuiet, hrunning] at hquiet
    cases hquiet
  rw [endSurface_of_surface hp hsurface, Session.joinWorker, hworker]
  rfl

theorem calls_of_endSurface (h : p.endSurface.1 = .error .worker) :
    p.destroyed.1 = .error .worker ∧ p.stop.1 = .error .worker := by
  have hmap : p.endSurface.1.map (fun _ => ()) = .error .worker := by
    rw [h]
    rfl
  exact ⟨hmap, hmap⟩

end BitmapPlayer

namespace PaceLoop

/-- Whether the last request of the frame limit has just been sent. -/
def isAtLimit (o : PlayerOptions) : PaceLoop → Bool
  | sent _ seq => o.limitReached seq
  | _ => false

/-- How many steps the pacing worker does at most when nobody draws. -/
def stepsLeft : PaceLoop → Nat
  | sent _ _ => 4
  | pausing _ _ _ => 3
  | checking _ _ => 2
  | sending _ _ => 1

theorem stepsLeft_pos (loop : PaceLoop) : 0 < loop.stepsLeft := by cases loop <;> simp [stepsLeft]

end PaceLoop

namespace TexturePlayer

variable {D S R : Type} {p q : TexturePlayer D S R}

/-- Whether the pacing worker has just sent the last request of the frame limit. -/
def atLimit (p : TexturePlayer D S R) : Bool :=
  match p.session.worker with
  | some (.running loop _) => loop.isAtLimit p.session.options
  | _ => false

/-- What the state comes to when nobody draws. -/
def comesTo (p : TexturePlayer D S R) : PlaybackState :=
  if p.atLimit then p.session.state.ended else p.session.state

/-- How many steps the pacing worker does at most when nobody draws. -/
def stepsLeft (p : TexturePlayer D S R) : Nat :=
  match p.session.worker with
  | some (.running loop _) => loop.stepsLeft
  | _ => 0

section

variable {loop : PaceLoop} {told : Bool} {event : TaskEvent}

theorem comesTo_of_running (h : p.session.worker = some (.running loop told)) : p.comesTo =
    if loop.isAtLimit p.session.options then p.session.state.ended else p.session.state := by
  rw [comesTo, atLimit, h]

theorem comesTo_of_finished (h : p.session.worker = some (.finished event)) :
    p.comesTo = p.session.state := by
  rw [comesTo, atLimit, h]
  rfl

theorem stepsLeft_of_running (h : p.session.worker = some (.running loop told)) :
    p.stepsLeft = loop.stepsLeft := by rw [stepsLeft, h]

theorem stepsLeft_of_finished (h : p.session.worker = some (.finished event)) :
    p.stepsLeft = 0 := by rw [stepsLeft, h]

end

/-- When nobody draws, a step of the pacing worker brings it nearer to its end, and leaves what the
state comes to. -/
theorem Paced.of_panicked (h : Paced p q) (hdrawing : p.drawing = some .panicked) :
    q.comesTo = p.comesTo ∧ q.stepsLeft < p.stepsLeft := by
  cases h with
  | @stop loop hworker hloop =>
    rw [comesTo_of_running hworker, comesTo_of_finished rfl, stepsLeft_of_running hworker,
      stepsLeft_of_finished rfl]
    refine ⟨?_, loop.stepsLeft_pos⟩
    cases loop with
    | sending | sent => cases hloop
    | checking | pausing => rfl
  | check hworker | resume hworker =>
    rw [comesTo_of_running hworker, comesTo_of_running rfl, stepsLeft_of_running hworker,
      stepsLeft_of_running rfl]
    exact ⟨rfl, Nat.lt_succ_self _⟩
  | ask _ hrunning =>
    rw [hdrawing] at hrunning
    cases hrunning
  | refused hworker =>
    rw [comesTo_of_running hworker, comesTo_of_finished rfl, stepsLeft_of_running hworker,
      stepsLeft_of_finished rfl]
    exact ⟨rfl, Nat.one_pos⟩
  | limit hworker hlimit =>
    rw [comesTo_of_running hworker, comesTo_of_finished rfl, stepsLeft_of_running hworker,
      stepsLeft_of_finished rfl, PaceLoop.isAtLimit, if_pos hlimit]
    exact ⟨Session.state_moveTo _ _, PaceLoop.stepsLeft_pos _⟩
  | rest hworker hlimit =>
    rw [comesTo_of_running hworker, comesTo_of_running rfl, stepsLeft_of_running hworker,
      stepsLeft_of_running rfl, PaceLoop.isAtLimit, hlimit]
    exact ⟨rfl, Nat.lt_succ_self 3⟩

section

variable [FrameRenderer R D S]

/-- Whether the next step of the drawing worker panics. -/
def DrawPanics (p : TexturePlayer D S R) : Prop :=
  ∃ rig seq queue told, p.drawing = some (.running (.drawing rig seq queue) told) ∧
    ((p.stage.record (.drawn seq)).draw rig.lease rig.renderer).1 = .panicked

theorem exists_panicked (h : DrawPanics p) : ∃ q, p.drawStep? = some q ∧
    q.drawing = some .panicked ∧ q.comesTo = p.comesTo := by
  obtain ⟨rig, seq, queue, told, hdrawing, hpanicked⟩ := h
  refine ⟨p.answer rig seq queue told, by rw [drawStep?, hdrawing], ?_⟩
  rw [answer]
  rcases hdraw : (p.stage.record (.drawn seq)).draw rig.lease rig.renderer with
    ⟨outcome, renderer, stage⟩
  rw [hdraw] at hpanicked
  obtain rfl : outcome = .panicked := hpanicked
  exact ⟨rfl, rfl⟩

/-- Work after a panic of the drawing worker. -/
theorem panicked_works (hworks : ReflTransGen Works p q) (h : p.drawing = some .panicked) :
    q.drawing = some .panicked ∧ q.comesTo = p.comesTo := by
  induction hworks with
  | refl => exact ⟨h, rfl⟩
  | tail _ hstep ih =>
    obtain ⟨hdrawing, hcomes⟩ := ih
    cases hstep with
    | step hstep =>
      rcases hstep with hpace | hdraw
      · have hpaced := paced_of_paceStep? hpace
        have hsame := hpaced.drawing_of_not_running (by rw [hdrawing]; rfl)
        exact ⟨hsame.trans hdrawing, (hpaced.of_panicked hdrawing).1.trans hcomes⟩
      · obtain ⟨_, _, hrunning⟩ := (drew_of_drawStep? hdraw).exists_running
        rw [hdrawing] at hrunning
        cases hrunning
    | turn turn => exact ⟨hdrawing, hcomes⟩
    | pass t => exact ⟨hdrawing, hcomes⟩

/-- The pacing worker does not wait for long when nobody draws. -/
theorem step?_settle_of_panicked (h : p.drawing = some .panicked) :
    Clocked.step? (Clocked.settle p) = none := by
  refine Clocked.step?_steps_eq_none (P := fun q => q.drawing = some .panicked) stepsLeft
    (fun {q r} hq hstep => ?_) h ?_
  · obtain ⟨r', turn, rfl, hpace | hdraw⟩ := exists_workerStep_of_step? hstep
    · have hpaced := paced_of_paceStep? hpace
      have hsame := hpaced.drawing_of_not_running (by rw [hq]; rfl)
      exact ⟨hsame.trans hq, (hpaced.of_panicked hq).2⟩
    · obtain ⟨_, _, hrunning⟩ := (drew_of_drawStep? hdraw).exists_running
      rw [hq] at hrunning
      cases hrunning
  · have hle : p.stepsLeft ≤ 4 := by
      rw [stepsLeft]
      split
      · next loop _ _ => cases loop <;> simp [PaceLoop.stepsLeft]
      · exact Nat.zero_le 4
    have hpatience : Clocked.patience p =
        8 * (p.session.options.maxFrames.getD UInt32.size + p.pending + 4) := rfl
    omega

/-- A settled state is what the state comes to. -/
theorem state_of_settled (h : Clocked.step? p = none) : p.session.state = p.comesTo := by
  obtain ⟨hpace, _⟩ := stepless_of_step?_eq_none h
  have hlimit : p.atLimit = false := by
    rw [atLimit]
    split
    · next loop told hworker =>
      rw [paceStep?, hworker] at hpace
      cases loop with
      | sent => cases hpace
      | checking | sending | pausing => rfl
    · rfl
  rw [comesTo, hlimit]
  rfl

theorem standing_works (hworks : ReflTransGen Works p q)
    (h : PaceLoop.Standing true p.session.worker) : PaceLoop.Standing true q.session.worker := by
  induction hworks with
  | refl => exact h
  | tail _ hstep ih =>
    cases hstep with
    | step hstep =>
      rcases hstep with hpace | hdraw
      · exact (paced_of_paceStep? hpace).standing ih
      · rcases (drew_of_drawStep? hdraw).worker_cases with heq | heq
        · exact heq ▸ ih
        · exact heq ▸ ih.cancel
    | turn | pass => exact ih

omit [FrameRenderer R D S] in
/-- While pictures are drawn, the end of the stream is what the frame limit comes to. -/
theorem Phase.comesTo_eq (h : Phase p) (hp : Sound p)
    (hrunning : p.drawing.any Task.isRunning) :
    p.comesTo = if p.atLimit then .streamEnded else p.session.state := by
  have hended : p.session.state.ended = .streamEnded := by
    cases h with
    | playing _ hstate | draining _ hstate | ending _ hstate =>
      rw [hstate]
      rfl
    | away hsurface =>
      rw [drawing_of_no_surface hp hsurface] at hrunning
      cases hrunning
    | ended _ _ _ hdrawing | panicked _ _ _ hdrawing =>
      rw [hdrawing] at hrunning
      cases hrunning
  rw [comesTo, hended]

/-- A texture player never reports that a worker has panicked. -/
theorem Phase.destroyed_fst (h : Phase p) (hp : Sound p) : p.destroyed.1 = .ok () := by
  cases hsurface : p.session.surface with
  | false => rw [destroyed_of_no_surface hp hsurface]
  | true =>
    obtain ⟨told, hstanding⟩ := h.standing hsurface
    have hleft : PaceLoop.Standing true p.leaveSurface.session.worker := by
      rw [leaveSurface, if_pos hsurface, Session.leaveSurface_eq_lost hsurface]
      exact hstanding.cancel
    have hsettled := standing_works (works_settle _) hleft
    obtain ⟨_, hquiet⟩ := (left_leaveSurface hp hsurface).settle
    have hpacing := (Bool.and_eq_true_iff.mp hquiet).1
    rw [destroyed_of_surface hp hsurface, Session.joinWorker]
    rw [Session.isQuiet] at hpacing
    generalize (Clocked.settle p.leaveSurface).session.worker = worker at hsettled hpacing ⊢
    cases hsettled with
    | running => cases hpacing
    | finished event => rfl

/-- The renderer goes with the drawing worker. -/
theorem hasRenderer_destroyed (hp : Sound p) (hpanicked : p.drawing = some .panicked) :
    p.destroyed.2.hasRenderer = false := by
  have hsurface : p.session.surface = true := by rw [← hp.drawing_isSome, hpanicked]; rfl
  have hleft : p.leaveSurface.drawing = some .panicked := by
    rw [leaveSurface, if_pos hsurface, hpanicked]
    rfl
  obtain ⟨hsettled, _⟩ := panicked_works (works_settle _) hleft
  have hrenderer := (left_leaveSurface hp hsurface).settle.1.renderer
  rw [destroyed_of_surface hp hsurface]
  dsimp only
  rw [joinDrawing]
  dsimp only
  rw [hsettled, hasRenderer, hrenderer]
  rfl

end

end TexturePlayer

namespace Player

variable {D S R : Type} [VideoDecoder D] [FrameReader D S] [FrameSink S] [FrameRenderer R D S]

/-- What becomes of a panic while a picture is shown, at any moment of a player's life. A player in
software goes on saying that pictures are shown, until its surface goes away or it is stopped: that
reports the panic, as it does when the panic comes only then. A player that draws through renderers
comes to rest, too; it says that the stream is over only if its frame limit was reached by then, and
neither the end of the surface nor a stop reports anything, but the renderer is lost. -/
theorem after_panic (decoders : D → Prop) (renderers : R → Prop) (sinks : S → Prop) :
    (∀ p : BitmapPlayer D S, BitmapPlayer.Reached decoders sinks p →
      (BitmapPlayer.SurfacePanics p → ∃ q, Clocked.step? p = some q ∧
        ∀ r, ReflTransGen BitmapPlayer.Works q r →
          Clocked.step? r = none ∧ r.state = .rendering ∧
          r.destroyed.1 = .error .worker ∧ r.stop.1 = .error .worker) ∧
      (p.surface → BitmapPlayer.SurfacePanics p.leaveSurface →
        p.destroyed.1 = .error .worker ∧ p.stop.1 = .error .worker)) ∧
    ∀ p : TexturePlayer D S R, TexturePlayer.Reached decoders renderers sinks p →
      p.destroyed.1 = .ok () ∧ p.stop.1 = .ok () ∧
      (p.DrawPanics → ∃ q, p.drawStep? = some q ∧ Clocked.step? (Clocked.settle q) = none ∧
        ∀ r, ReflTransGen TexturePlayer.Works q r →
          (Clocked.step? r = none → r.session.state =
            if p.atLimit then .streamEnded else p.session.state) ∧
          r.destroyed.1 = .ok () ∧ r.stop.1 = .ok () ∧ r.destroyed.2.hasRenderer = false) := by
  constructor
  · intro p hreached
    obtain ⟨hsound, hphase⟩ := hreached.phase
    refine ⟨fun hpanics => ?_, fun hsurface hpanics =>
      BitmapPlayer.calls_of_endSurface (BitmapPlayer.endSurface_of_panics hsound hsurface hpanics)⟩
    obtain ⟨q, hstep, hpanicked⟩ := BitmapPlayer.exists_panicked hpanics
    refine ⟨q, hstep, fun r hworks => ?_⟩
    have hreached' : BitmapPlayer.Reached decoders sinks r := by
      induction hworks with
      | refl => exact hreached.happens (.work (.step hstep))
      | tail _ hwork ih => exact ih.happens (.work hwork)
    obtain ⟨hsound', hphase'⟩ := hreached'.phase
    have hworker := (BitmapPlayer.panicked_works hworks hpanicked).1
    exact ⟨BitmapPlayer.step?_of_panicked hworker, hphase'.state_of_panicked hsound' hworker,
      BitmapPlayer.calls_of_endSurface (BitmapPlayer.endSurface_of_panicked hsound' hworker)⟩
  · intro p hreached
    obtain ⟨hsound, hphase⟩ := hreached.phase
    have hcalls := hphase.destroyed_fst hsound
    refine ⟨hcalls, hcalls, fun hpanics => ?_⟩
    obtain ⟨q, hstep, hpanicked, hcomes⟩ := TexturePlayer.exists_panicked hpanics
    have hrunning : p.drawing.any Task.isRunning := by
      obtain ⟨_, _, _, _, hdrawing, _⟩ := hpanics
      rw [hdrawing]
      rfl
    refine ⟨q, hstep, TexturePlayer.step?_settle_of_panicked hpanicked, fun r hworks => ?_⟩
    obtain ⟨hworker, hcomes'⟩ := TexturePlayer.panicked_works hworks hpanicked
    obtain ⟨hsound', hphase'⟩ :=
      ((hreached.happens (.work (.step (.inr hstep)))).works hworks).phase
    have hcalls' := hphase'.destroyed_fst hsound'
    refine ⟨fun hsettled => ?_, hcalls', hcalls',
      TexturePlayer.hasRenderer_destroyed hsound' hworker⟩
    rw [TexturePlayer.state_of_settled hsettled, hcomes', hcomes]
    exact hphase.comesTo_eq hsound hrunning

/-- A surface that panics at its first picture. -/
def brittle : ScriptedSink := ⟨[], [1], false, 0⟩

/-- The first picture that a player draws on a brittle surface. -/
theorem exists_drawPanics :
    let made : TexturePlayer ScriptedDecoder ScriptedSink TextureRenderer :=
      (TexturePlayer.start (.new brittle ⟨25.0, none⟩)
        (fun _ => .ok .onePixel) TextureRenderer.create "clip").2.created.2
    TexturePlayer.Reached (fun _ => True) (fun _ => True) (fun _ => True) made ∧
      ∃ p, ReflTransGen TexturePlayer.Works made p ∧
        (∀ picture, (p.stage.present picture).1 = .panicked) ∧ p.DrawPanics ∧
        p.comesTo = .rendering := by
  intro made
  have hmade : TexturePlayer.Reached (fun _ => True) (fun _ => True) (fun _ => True) made :=
    ⟨_, _, trivial, .head (.start _ _ _ (fun _ _ _ => trivial) fun _ _ _ => trivial)
      (.single .created)⟩
  -- the pacing worker looks and asks, and the drawing worker takes the request
  exact ⟨hmade, _, .head (.step (.inl rfl)) (.head (.step (.inl rfl)) (.single (.step (.inr rfl)))),
    fun _ => rfl, ⟨_, _, _, _, rfl, rfl⟩, rfl⟩

/-- The first picture of a stream on a brittle surface, in software and through a texture. -/
theorem after_panic_first :
    let software : BitmapPlayer ScriptedDecoder ScriptedSink :=
      (BitmapPlayer.created (BitmapPlayer.start (.new brittle ⟨25.0, none⟩)
        (fun _ => .ok .onePixel) "clip").2).2
    let hardware : TexturePlayer ScriptedDecoder ScriptedSink TextureRenderer :=
      (TexturePlayer.start (.new brittle ⟨25.0, none⟩)
        (fun _ => .ok .onePixel) TextureRenderer.create "clip").2.created.2
    (∃ p q, ReflTransGen BitmapPlayer.Works software p ∧ BitmapPlayer.SurfacePanics p ∧
      Clocked.step? p = some q ∧ q.state = .rendering ∧ q.stop.1 = .error .worker) ∧
    ∃ p q, ReflTransGen TexturePlayer.Works hardware p ∧ p.DrawPanics ∧ p.drawStep? = some q ∧
      q.stop.1 = .ok () ∧ q.destroyed.2.hasRenderer = false := by
  intro software hardware
  obtain ⟨hbitmap, htexture⟩ := after_panic (R := TextureRenderer)
    (fun _ : ScriptedDecoder => True) (fun _ => True) (fun _ : ScriptedSink => True)
  constructor
  · have hmade : BitmapPlayer.Reached (fun _ => True) (fun _ => True) software :=
      ⟨_, _, trivial, .head (.start _ _ fun _ _ _ => trivial) (.single .created)⟩
    have hreached := (hmade.happens (.work (.step rfl))).happens (.work (.step rfl))
    obtain ⟨q, hstep, hq⟩ := (hbitmap _ hreached).1 ⟨_, _, _, _, rfl, rfl, rfl⟩
    obtain ⟨_, hstate, _, hstop⟩ := hq q .refl
    exact ⟨_, q, .head (.step rfl) (.single (.step rfl)), ⟨_, _, _, _, rfl, rfl, rfl⟩, hstep,
      hstate, hstop⟩
  · obtain ⟨hmade, p, hworks, _, hpanics, _⟩ := exists_drawPanics
    obtain ⟨q, hstep, _, hq⟩ := (htexture _ (hmade.works hworks)).2.2 hpanics
    obtain ⟨_, _, hstop, hlost⟩ := hq q .refl
    exact ⟨_, q, hworks, hpanics, hstep, hstop, hlost⟩

/-- The first picture is a panic of the surface, and nobody learns of it: when nothing can go on,
the player says that it shows pictures, and reports no failure when its surface goes away or it is
stopped. -/
theorem panic_unreported :
    let made : TexturePlayer ScriptedDecoder ScriptedSink TextureRenderer :=
      (TexturePlayer.start (.new brittle ⟨25.0, none⟩)
        (fun _ => .ok .onePixel) TextureRenderer.create "clip").2.created.2
    ∃ p q, ReflTransGen TexturePlayer.Works made p ∧
      (∀ picture, (p.stage.present picture).1 = .panicked) ∧ p.DrawPanics ∧
      p.drawStep? = some q ∧ Clocked.step? (Clocked.settle q) = none ∧
      (Clocked.settle q).session.state = .rendering ∧
      (Clocked.settle q).destroyed.1 = .ok () ∧ (Clocked.settle q).stop.1 = .ok () := by
  intro made
  obtain ⟨hmade, p, hworks, hbrittle, hpanics, hplaying⟩ := exists_drawPanics
  obtain ⟨q, hstep, hpanicked, hcomes⟩ := TexturePlayer.exists_panicked hpanics
  have hafter := hworks.trans (.head (.step (.inr hstep)) (TexturePlayer.works_settle q))
  obtain ⟨hsound, hphase⟩ := (hmade.works hafter).phase
  have hcalls := hphase.destroyed_fst hsound
  have hsettled := TexturePlayer.step?_settle_of_panicked hpanicked
  have hstate := TexturePlayer.state_of_settled hsettled
  rw [(TexturePlayer.panicked_works (TexturePlayer.works_settle q) hpanicked).2, hcomes,
    hplaying] at hstate
  exact ⟨p, q, hworks, hbrittle, hpanics, hstep, hsettled, hstate, hcalls, hcalls⟩

end Player

end AviPlayback
