import AviPlayback.Proofs.Player.LoopState
import AviPlayback.Proofs.Player.NewSurface

/-!
The life of a renderer. Whatever happens between its start and its stop, a texture player whose
renderers never panic has the renderer that its start created, idle or with the drawing worker, as
long as its decoder is open (`TexturePlayer.Retains`); renderers are created and freed one after
another (`Stage.Furnished`), and a stop frees the one that there is before it releases the decoder
(`TexturePlayer.renderer_conserved`).
-/
set_option autoImplicit false

namespace AviPlayback

open Relation

/-- What becomes of a renderer, named by the decoder it was created for. -/
inductive RendererEvent
  | created (decoder : Nat)
  | freed (decoder : Nat)
  deriving DecidableEq

/-- What an event tells of renderers. -/
def Event.renderer? : Event → Option RendererEvent
  | .rendererCreated i => some (.created i)
  | .rendererFreed i => some (.freed i)
  | _ => none

/-- What renderers of some kind are that never panic, when they draw or are prepared for a surface,
and may be refused by it. -/
structure CalmRenderers {D S R : Type} [FrameRenderer R D S] (renderers : R → Prop)
    (decoders : D → Prop) (sinks : S → Prop) : Prop extends
    ReliableRenderers renderers decoders sinks where
  prepares : ∀ r fault, renderers r → (FrameRenderer.initSurface D S r).1 = .error fault →
    fault.isPanic = false

/-- What a renderer can become: it is prepared for surfaces, and draws. -/
inductive Grown (D S : Type) {R : Type} [FrameRenderer R D S] (r : R) : R → Prop
  | refl : Grown D S r r
  | prepared {s : R} (h : Grown D S r s) : Grown D S r (FrameRenderer.initSurface D S s).2
  | drawn {s : R} (d : D) (sink : S) (h : Grown D S r s) :
      Grown D S r (FrameRenderer.draw s d sink : Drawing R D S).renderer

theorem Grown.trans {D S R : Type} [FrameRenderer R D S] {r s t : R} (h : Grown D S r s)
    (h' : Grown D S s t) : Grown D S r t := by
  induction h' with
  | refl => exact h
  | prepared _ ih => exact ih.prepared
  | drawn d sink _ ih => exact ih.drawn d sink

/-- The same renderer, at a later time. -/
def Rig.Becomes (D S : Type) {R : Type} [FrameRenderer R D S] (a b : Rig R) : Prop :=
  b.lease = a.lease ∧ Grown D S a.renderer b.renderer

namespace Stage

variable {D S R : Type} {s t u : Stage D S}

def rendererEvents (s : Stage D S) : List RendererEvent := s.noted Event.renderer?

/-- An event is recorded as often as what it tells is noted, when no other event tells that. -/
theorem occurrences_eq_count {A : Type} [BEq A] [LawfulBEq A] {f : Event → Option A} {e : Event}
    {a : A} (he : f e = some a) (honly : ∀ e', f e' = some a → e' = e) (s : Stage D S) :
    occurrences s.history e = (s.noted f).count a := by
  rw [noted, log, List.filterMap_reverse, List.count_reverse, List.count_filterMap, occurrences]
  refine List.countP_congr fun m _ => ?_
  simp only [decide_eq_true_eq, beq_iff_eq]
  constructor
  · rintro rfl
    exact he
  · exact honly m.event

theorem occurrences_rendererCreated (s : Stage D S) (i : Nat) :
    occurrences s.history (.rendererCreated i) = s.rendererEvents.count (.created i) := by
  refine occurrences_eq_count (f := Event.renderer?) rfl (fun e he => ?_) s
  cases e <;> cases he
  rfl

theorem occurrences_rendererFreed (s : Stage D S) (i : Nat) :
    occurrences s.history (.rendererFreed i) = s.rendererEvents.count (.freed i) := by
  refine occurrences_eq_count (f := Event.renderer?) rfl (fun e he => ?_) s
  cases e <;> cases he
  rfl

/-- Nothing has become of renderers between two stages, and no decoder is forgotten. -/
structure KeepsRenderers (s t : Stage D S) : Prop where
  events : t.rendererEvents = s.rendererEvents
  nextLease_le : s.nextLease ≤ t.nextLease

namespace KeepsRenderers

theorem refl : KeepsRenderers s s := ⟨rfl, Nat.le_refl _⟩

theorem trans (h : KeepsRenderers s t) (h' : KeepsRenderers t u) : KeepsRenderers s u :=
  ⟨h'.events.trans h.events, Nat.le_trans h.nextLease_le h'.nextLease_le⟩

theorem record (h : KeepsRenderers s t) {e : Event} (he : e.renderer? = none) :
    KeepsRenderers s (t.record e) :=
  ⟨(traced_record_of_none _ t he).trans h.events, h.nextLease_le⟩

theorem release (h : KeepsRenderers s t) (lease : Nat) : KeepsRenderers s (t.release lease) where
  events := (noted_release _ (fun _ => rfl) t lease).trans h.events
  nextLease_le := by
    rw [nextLease, nextLease, length_release]
    exact h.nextLease_le

theorem takeIn (h : KeepsRenderers s t) (d : D) : KeepsRenderers s (t.takeIn d) where
  events := (traced_record_of_none _ { t with leases := t.leases ++ [⟨d, 1⟩] } rfl).trans h.events
  nextLease_le := by
    have hlength : (t.takeIn d).nextLease = t.nextLease + 1 := by
      simp [nextLease, Stage.takeIn, Stage.record]
    rw [hlength]
    exact Nat.le_succ_of_le h.nextLease_le

theorem mapDecoders (h : KeepsRenderers s t) (f : D → D) : KeepsRenderers s (t.mapDecoders f) where
  events := h.events
  nextLease_le := by
    have hlength : (t.mapDecoders f).nextLease = t.nextLease := by
      simp [nextLease, Stage.mapDecoders]
    rw [hlength]
    exact h.nextLease_le

theorem moveTo {L : Type} {x : Session D S L} (h : KeepsRenderers s x.stage)
    (next : PlaybackState) : KeepsRenderers s (x.moveTo next).stage := by
  rw [Session.moveTo]
  split
  · exact h
  · exact h.record rfl

theorem closeAndReset {L : Type} {x : Session D S L} (h : KeepsRenderers s x.stage) :
    KeepsRenderers s x.closeAndReset.stage := by
  rw [Session.closeAndReset_eq]
  refine moveTo ?_ _
  rw [Session.close_snd]
  cases x.handle with
  | none => exact h
  | some handle => exact h.release _

theorem draw [FrameRenderer R D S] (h : KeepsRenderers s t) (lease : Nat) (renderer : R) :
    KeepsRenderers s (t.draw lease renderer).2.2 where
  events := (noted_draw_of_silent (fun _ => rfl) (fun _ => rfl) t lease renderer).trans h.events
  nextLease_le := by
    have hlength : (t.draw lease renderer).2.2.nextLease = t.nextLease := by
      rw [Stage.draw]
      split
      · rfl
      · dsimp only
        rw [foldl_presented]
        simp [nextLease, putDecoder, Stage.record]
    rw [hlength]
    exact h.nextLease_le

end KeepsRenderers

/-- What a draw leaves, whose beginning was recorded. -/
theorem draw_keeps [FrameRenderer R D S] {seq lease : Nat} {renderer r : R} {outcome : DrawOutcome}
    (h : (s.record (.drawn seq)).draw lease renderer = (outcome, r, t)) :
    KeepsRenderers s t ∧ Grown D S renderer r := by
  constructor
  · have hkeeps := (KeepsRenderers.refl.record (s := s) (e := .drawn seq) rfl).draw lease renderer
    rwa [h] at hkeeps
  · have hgrown : Grown D S renderer ((s.record (.drawn seq)).draw lease renderer).2.1 := by
      rw [Stage.draw]
      split
      · exact .refl
      · next d _ => exact Grown.refl.drawn d s.sink
    rwa [h] at hgrown

/-- Renderers are created and freed one after another, each one for a new decoder, and only that of
the `current` decoder, if there is one, has not been freed. -/
def Furnished (s : Stage D S) (current : Option Nat) : Prop :=
  ∃ gone : List Nat,
    s.rendererEvents =
      (gone.flatMap fun i => [.created i, .freed i]) ++ current.toList.map .created ∧
    (gone ++ current.toList).Pairwise (· < ·) ∧ ∀ i ∈ gone ++ current.toList, i < s.nextLease

namespace Furnished

variable {current : Option Nat} {i : Nat}

theorem congr (h : s.Furnished current) (hkeeps : KeepsRenderers s t) : t.Furnished current := by
  obtain ⟨gone, hevents, hpairwise, hlt⟩ := h
  exact ⟨gone, hkeeps.events.trans hevents, hpairwise,
    fun i hi => Nat.lt_of_lt_of_le (hlt i hi) hkeeps.nextLease_le⟩

/-- A renderer is created for a decoder that has just been opened. -/
theorem create (h : s.Furnished none)
    (hevents : t.rendererEvents = s.rendererEvents ++ [.created s.nextLease])
    (hnext : s.nextLease < t.nextLease) : t.Furnished (some s.nextLease) := by
  obtain ⟨gone, hgone, hpairwise, hlt⟩ := h
  simp only [Option.toList_none, List.map_nil, List.append_nil] at hgone hpairwise hlt
  refine ⟨gone, ?_, ?_, fun i hi => ?_⟩
  · rw [hevents, hgone]
    rfl
  · exact List.pairwise_append.mpr ⟨hpairwise, List.pairwise_singleton _ _, by simpa using hlt⟩
  · rcases List.mem_append.mp hi with hi | hi
    · exact Nat.lt_trans (hlt i hi) hnext
    · rw [List.mem_singleton.mp hi]
      exact hnext

/-- The renderer of the current decoder is freed. -/
theorem free (h : s.Furnished (some i)) (hevents : t.rendererEvents = s.rendererEvents ++ [.freed i])
    (hnext : s.nextLease ≤ t.nextLease) : t.Furnished none := by
  obtain ⟨gone, hgone, hpairwise, hlt⟩ := h
  refine ⟨gone ++ [i], ?_, by simpa using hpairwise, fun j hj => ?_⟩
  · rw [hevents, hgone]
    simp
  · rw [Option.toList_none, List.append_nil] at hj
    exact Nat.lt_of_lt_of_le (hlt j hj) hnext

theorem count_gone (gone : List Nat) (i : Nat) :
    (gone.flatMap fun i => [RendererEvent.created i, .freed i]).count (.created i) = gone.count i ∧
    (gone.flatMap fun i => [RendererEvent.created i, .freed i]).count (.freed i) = gone.count i := by
  induction gone with
  | nil => exact ⟨rfl, rfl⟩
  | cons j gone ih =>
    rw [List.flatMap_cons, List.count_append, List.count_append, ih.1, ih.2, List.count_cons]
    by_cases hj : j = i
    · simp [hj, Nat.add_comm]
    · simp [hj]

/-- No two renderers were created for one decoder, and each one but that of the current decoder was
freed once. -/
theorem occurrences_freed (h : s.Furnished current) (i : Nat) :
    occurrences s.history (.rendererCreated i) ≤ 1 ∧
    occurrences s.history (.rendererFreed i) =
      if current = some i then 0 else occurrences s.history (.rendererCreated i) := by
  obtain ⟨gone, hevents, hpairwise, _⟩ := h
  have hnodup : (gone ++ current.toList).Nodup := hpairwise.imp Nat.ne_of_lt
  have hone := List.nodup_iff_count.mp hnodup i
  have hopen : (current.toList.map RendererEvent.created).count (.created i) =
      current.toList.count i := by
    cases current <;> simp [List.count_cons]
  have hunfreed : (current.toList.map RendererEvent.created).count (.freed i) = 0 := by
    cases current <;> simp
  rw [occurrences_rendererCreated, occurrences_rendererFreed, hevents, List.count_append,
    List.count_append, (count_gone gone i).1, (count_gone gone i).2, hopen, hunfreed]
  rw [List.count_append] at hone
  refine ⟨hone, ?_⟩
  split
  · next hcurrent =>
    rw [hcurrent, Option.toList_some, List.count_singleton_self] at hone
    omega
  · next hcurrent =>
    cases current with
    | none => rfl
    | some j =>
      have hj : j ≠ i := fun heq => hcurrent (by rw [heq])
      simp [hj]

end Furnished

end Stage

namespace TexturePlayer

variable {D S R : Type} {p q s : TexturePlayer D S R} {decoders : D → Prop} {renderers : R → Prop}
  {sinks : S → Prop}

def rig? (p : TexturePlayer D S R) : Option (Rig R) := p.renderer.or (DrawLoop.rigOf p.drawing)

section

variable [FrameRenderer R D S]

/-- What a player becomes that keeps its decoder and its renderer. -/
structure Retains (p q : TexturePlayer D S R) : Prop where
  handle : q.session.handle = p.session.handle
  stage : p.stage.KeepsRenderers q.stage
  rig : Option.Rel (Rig.Becomes D S) p.rig? q.rig?

theorem rel_refl (rig : Option (Rig R)) : Option.Rel (Rig.Becomes D S) rig rig := by
  cases rig with
  | none => exact .none
  | some rig => exact .some ⟨rfl, .refl⟩

namespace Retains

theorem refl (p : TexturePlayer D S R) : Retains p p := ⟨rfl, .refl, rel_refl _⟩

theorem trans (h : Retains p q) (h' : Retains q s) : Retains p s := by
  refine ⟨h'.handle.trans h.handle, h.stage.trans h'.stage, ?_⟩
  have hfirst := h.rig
  have hsecond := h'.rig
  generalize p.rig? = a at hfirst
  generalize q.rig? = b at hfirst hsecond
  generalize s.rig? = c at hsecond
  cases hfirst with
  | none =>
    cases hsecond
    exact .none
  | some hab =>
    cases hsecond with
    | some hbc => exact .some ⟨hbc.1.trans hab.1, hab.2.trans hbc.2⟩

theorem exists_rig (h : Retains p q) {a : Rig R} (ha : p.rig? = some a) :
    ∃ b, q.rig? = some b ∧ a.Becomes D S b := by
  have hrig := h.rig
  rw [ha] at hrig
  generalize q.rig? = b at hrig
  cases hrig with
  | some hab => exact ⟨_, rfl, hab⟩

/-- The renderer stays as it is. -/
theorem of_same (hhandle : q.session.handle = p.session.handle)
    (hstage : p.stage.KeepsRenderers q.stage) (hrig : q.rig? = p.rig?) : Retains p q :=
  ⟨hhandle, hstage, hrig ▸ rel_refl _⟩

/-- The idle renderer stays as it is. -/
theorem of_drawing (hhandle : q.session.handle = p.session.handle)
    (hstage : p.stage.KeepsRenderers q.stage) (hrenderer : q.renderer = p.renderer)
    (hdrawing : Option.Rel (Rig.Becomes D S) (DrawLoop.rigOf p.drawing)
      (DrawLoop.rigOf q.drawing)) : Retains p q := by
  refine ⟨hhandle, hstage, ?_⟩
  rw [rig?, rig?, hrenderer]
  cases p.renderer with
  | none => simpa using hdrawing
  | some rig => simpa using rel_refl (some rig)

/-! ### Work -/

theorem paced (h : Paced p q) : Retains p q := by
  have hrig := h.rigOf_eq
  cases h with
  | ask => exact .of_drawing rfl (.record .refl rfl) rfl (hrig ▸ rel_refl _)
  | limit => exact .of_drawing (Session.handle_moveTo _ _) (.moveTo .refl _) rfl (rel_refl _)
  | stop | check | refused | rest | resume => exact .of_drawing rfl .refl rfl (rel_refl _)

/-- A draw that does not panic leaves the renderer with the drawing worker. -/
theorem drew (h : Drew p q) (hcalm : q.drawing ≠ some .panicked) : Retains p q := by
  cases h with
  | stop hdrawing | take hdrawing | drained hdrawing | finish hdrawing =>
    refine .of_drawing rfl .refl rfl ?_
    rw [hdrawing]
    exact rel_refl _
  | more hdrawing hdraw =>
    obtain ⟨hstage, hgrown⟩ := Stage.draw_keeps hdraw
    refine .of_drawing rfl hstage rfl ?_
    rw [hdrawing]
    exact .some ⟨rfl, hgrown⟩
  | @ended _ _ _ _ _ stage hdrawing hdraw =>
    obtain ⟨hstage, hgrown⟩ := Stage.draw_keeps hdraw
    refine .of_drawing (Session.handle_moveTo _ _)
      (.moveTo (x := (p.setStage stage).session) hstage _) rfl ?_
    rw [hdrawing]
    exact .some ⟨rfl, hgrown⟩
  | panicked => exact absurd rfl hcalm

theorem works (h : Works p q) (hcalm : q.drawing ≠ some .panicked) : Retains p q := by
  cases h with
  | step hstep =>
    rcases hstep with hpace | hdraw
    · exact paced (paced_of_paceStep? hpace)
    · exact drew (drew_of_drawStep? hdraw) hcalm
  | turn turn => exact .of_same rfl .refl rfl
  | pass t => exact .of_same rfl ⟨rfl, Nat.le_refl _⟩ rfl

theorem works_all (hreliable : ReliableRenderers renderers decoders sinks)
    (hp : Unharmed decoders renderers sinks p) (h : ReflTransGen Works p q) :
    Retains p q ∧ Unharmed decoders renderers sinks q := by
  induction h with
  | refl => exact ⟨.refl p, hp⟩
  | tail _ hstep ih =>
    have hcalm := ih.2.works hreliable hstep
    exact ⟨ih.1.trans (works hstep hcalm.drawing), hcalm⟩

/-! ### Calls -/

omit [FrameRenderer R D S] in
/-- An idle renderer is the renderer. -/
theorem rig?_of_renderer {rig : Rig R} (h : p.renderer = some rig) : p.rig? = some rig := by
  rw [rig?, h]
  rfl

theorem leaveSurface (p : TexturePlayer D S R) : Retains p p.leaveSurface := by
  rw [TexturePlayer.leaveSurface]
  split
  · next hsurface =>
    rw [Session.leaveSurface_eq_lost hsurface]
    refine .of_drawing (Session.handle_moveTo _ _) (.moveTo .refl _) rfl ?_
    rw [DrawLoop.rigOf_map_cancel]
    exact rel_refl _
  · exact .refl p

/-- A drawing worker that has not panicked hands its renderer back. -/
theorem joinDrawing (hrenderer : p.renderer = none) (hcalm : p.drawing ≠ some .panicked) :
    Retains p p.joinDrawing := by
  rw [TexturePlayer.joinDrawing]
  split
  · next rig hdrawing =>
    refine .of_same rfl .refl ?_
    rw [rig?, rig?, hrenderer, hdrawing]
    rfl
  · next hdrawing => exact absurd hdrawing hcalm
  · exact .refl p

theorem destroyed (hreliable : ReliableRenderers renderers decoders sinks) (hp : Sound p)
    (hunharmed : Unharmed decoders renderers sinks p) : Retains p p.destroyed.2 := by
  cases hsurface : p.session.surface with
  | false =>
    rw [destroyed_of_no_surface hp hsurface]
    exact .refl p
  | true =>
    obtain ⟨hleft, hquiet⟩ := (left_leaveSurface hp hsurface).settle
    obtain ⟨hsettled, hcalm⟩ := works_all hreliable hunharmed.leaveSurface (works_settle _)
    rw [destroyed_of_surface hp hsurface,
      Session.joinWorker_snd (Bool.and_eq_true_iff.mp hquiet).1]
    refine ((leaveSurface p).trans hsettled).trans ?_
    have hjoined : Retains (Clocked.settle p.leaveSurface) { Clocked.settle p.leaveSurface with
        session := { (Clocked.settle p.leaveSurface).session with worker := none } } :=
      .of_same rfl .refl rfl
    exact hjoined.trans (joinDrawing hleft.renderer hcalm.drawing)

variable [VideoDecoder D]

theorem created (hcalm : CalmRenderers renderers decoders sinks) (hp : Sound p) (hphase : Phase p)
    (hunharmed : Unharmed decoders renderers sinks p) : Retains p p.created.2 := by
  cases hrenderer : p.renderer with
  | none =>
    rw [TexturePlayer.created, hrenderer]
    exact .refl p
  | some rig =>
    have hprepared : Option.Rel (Rig.Becomes D S) p.rig? (some (prepared D S rig)) := by
      rw [rig?_of_renderer hrenderer]
      exact .some ⟨rfl, Grown.refl.prepared⟩
    rcases hinit : FrameRenderer.initSurface D S rig.renderer with ⟨fault | ⟨⟩, renderer⟩
    · -- a refusal that is no panic leaves the renderer idle
      have hno : fault.isPanic = false :=
        hcalm.prepares rig.renderer fault (hunharmed.renderer rig hrenderer) (by rw [hinit])
      obtain ⟨_, pacer, hpacer⟩ :=
        exists_pacer_of_renderer hp (by rw [hrenderer, Option.isSome_some])
      have hcreated : p.created.2 = { p with renderer := some (prepared D S rig) } := by
        simp [TexturePlayer.created, hrenderer, hpacer, hinit, hno, prepared]
      rw [hcreated]
      exact ⟨rfl, .refl, hprepared⟩
    · obtain ⟨pacer, _, hcreated⟩ := created_of_renderer hp hphase hrenderer (by rw [hinit])
      let ready : Session D S PaceLoop := { p.session.moveTo .surfaceReady with surface := true }
      have hready : p.stage.KeepsRenderers ready.stage := .moveTo .refl _
      rw [hcreated]
      exact ⟨(Session.handle_moveTo ready _).trans (Session.handle_moveTo p.session _),
        hready.moveTo _, hprepared⟩

/-- A start keeps what there is, unless it opens a decoder and creates a renderer for it. -/
theorem start_cases (source : String → Except PlayerFault D) (path : String)
    {create : StreamInfo → Except PlayerFault R}
    (hcreate : ∀ info fault, create info = .error fault → fault.isPanic = false) :
    Retains p (p.start source create path).2 ∨ p.session.handle = none ∧
      ∃ d r, source path = .ok d ∧ create (VideoDecoder.info d) = .ok r := by
  cases hhandle : p.session.handle with
  | some handle =>
    have hopen : p.session.handle.isSome := by rw [hhandle, Option.isSome_some]
    rw [TexturePlayer.start, Session.openDecoder_of_open hopen]
    exact .inl (.refl p)
  | none =>
    cases hsource : source path with
    | error fault =>
      rw [TexturePlayer.start, Session.openDecoder_of_error hhandle hsource]
      exact .inl (.of_same rfl (.record .refl rfl) rfl)
    | ok d =>
      cases hmade : create (VideoDecoder.info d) with
      | ok r => exact .inr ⟨rfl, d, r, rfl, hmade⟩
      | error fault =>
        rw [start_of_create_error hhandle hsource hmade, hcreate _ fault hmade,
          if_neg Bool.false_ne_true, Session.close_snd]
        exact .inl (.of_same hhandle.symm ((Stage.KeepsRenderers.refl.takeIn d).release _) rfl)

end Retains

end

/-! ### Runs -/

theorem isSome_rigOf {drawing : Option (Task (DrawLoop R) (Rig R))}
    (hcalm : drawing ≠ some .panicked) : (DrawLoop.rigOf drawing).isSome = drawing.isSome := by
  rcases drawing with _ | _ | _ | _
  · rfl
  · rfl
  · rfl
  · exact absurd rfl hcalm

/-- A player has a renderer exactly while its decoder is open, the one that was created for it. -/
structure Equipped (p : TexturePlayer D S R) : Prop where
  lease : p.rig?.map Rig.lease = p.session.handle.map Handle.lease
  furnished : p.stage.Furnished (p.session.handle.map Handle.lease)

theorem Retains.equipped [FrameRenderer R D S] (h : Retains p q) (hp : Equipped p) : Equipped q where
  lease := by
    have hrig := h.rig
    have hlease := hp.lease
    rw [h.handle, ← hlease]
    generalize p.rig? = a at hrig
    generalize q.rig? = b at hrig
    cases hrig with
    | none => rfl
    | some hab => exact congrArg some hab.1
  furnished := by
    rw [h.handle]
    exact hp.furnished.congr h.stage

theorem Equipped.start [VideoDecoder D] (h : Equipped p) (hp : Sound p)
    {source : String → Except PlayerFault D} {create : StreamInfo → Except PlayerFault R}
    {path : String} {d : D} {r : R} (hhandle : p.session.handle = none)
    (hsource : source path = .ok d) (hcreate : create (VideoDecoder.info d) = .ok r) :
    Equipped (p.start source create path).2 := by
  have hfurnished := h.furnished
  rw [hhandle] at hfurnished
  rw [start_of_ok hhandle (renderer_of_no_handle hp hhandle) hsource hcreate]
  let stage : Stage D S :=
    ((p.stage.takeIn d).share p.stage.nextLease).record (.rendererCreated p.stage.nextLease)
  have hopened := (Stage.KeepsRenderers.refl.takeIn (s := p.stage) d).events
  have hevents : stage.rendererEvents = p.stage.rendererEvents ++ [.created p.stage.nextLease] :=
    (Stage.noted_record _ _ _).trans (congrArg (· ++ _) hopened)
  have hnext : p.stage.nextLease < stage.nextLease := by
    simp [stage, Stage.nextLease, Stage.share, Stage.takeIn, Stage.record]
  exact ⟨rfl, hfurnished.create hevents hnext⟩

end TexturePlayer

namespace Stage

variable {D S : Type} {s : Stage D S} {lease : Nat}

/-- A decoder that somebody else holds, too, is not released. -/
theorem Held.history_release_shared (h : s.Held [lease, lease]) :
    (s.release lease).history = s.history := by
  have htwo : s.holdersOf lease = 2 := by
    rw [h.holdersOf_eq]
    simp
  rw [history_release (by omega), if_neg (by omega)]

/-- The last hold releases the decoder. -/
theorem Held.history_release_last (h : s.Held [lease]) :
    (s.release lease).history = ⟨s.now, .released lease⟩ :: s.history := by
  have hone : s.holdersOf lease = 1 := by
    rw [h.holdersOf_eq]
    simp
  rw [history_release (by omega), if_pos hone]

theorem exists_history_moveTo {L : Type} (x : Session D S L) (next : PlaybackState) :
    ∃ rest, (x.moveTo next).stage.history = rest ++ x.stage.history := by
  rw [Session.moveTo]
  split
  · exact ⟨[], rfl⟩
  · exact ⟨[_], rfl⟩

end Stage

namespace TexturePlayer

variable {D S R : Type} {p q s : TexturePlayer D S R} {decoders : D → Prop} {renderers : R → Prop}
  {sinks : S → Prop} {handle : Handle} {rig : Rig R}

/-- When the surface has gone away the renderer is freed, and right then the decoder released. -/
theorem history_free_close (hp : Sound p) (hsurface : p.session.surface = false)
    (hrenderer : p.renderer = some rig) (hhandle : p.session.handle = some handle)
    (hlease : rig.lease = handle.lease) :
    ∃ rest, p.freeRenderer.session.closeAndReset.stage.history =
      rest ++ ⟨p.stage.now, .released handle.lease⟩ ::
        ⟨p.stage.now, .rendererFreed handle.lease⟩ :: p.stage.history := by
  have hheld : p.stage.Held [handle.lease, handle.lease] := by
    have := hp.held
    rwa [holds_of_no_surface hp hsurface, hrenderer, hhandle, Option.map_some, hlease] at this
  have hfreed := hheld.record (e := .rendererFreed handle.lease) rfl
  have hlast := hfreed.release.history_release_last
  rw [hfreed.history_release_shared, Stage.now_release] at hlast
  have hfree : p.freeRenderer.session = { p.session with
      stage := (p.stage.record (.rendererFreed handle.lease)).release handle.lease } := by
    rw [freeRenderer, hrenderer]
    simp only [hlease]
    rfl
  obtain ⟨rest, hrest⟩ := Stage.exists_history_moveTo p.freeRenderer.session.close.2 .idle
  refine ⟨rest, ?_⟩
  rw [Session.closeAndReset_eq, hrest, Session.close_snd, hfree, hhandle]
  exact congrArg (rest ++ ·) hlast

/-- A player whose surface has gone away has its renderer idle. -/
theorem Equipped.renderer (h : Equipped p) (hp : Sound p) (hsurface : p.session.surface = false)
    (hhandle : p.session.handle = some handle) :
    ∃ rig, p.renderer = some rig ∧ p.rig? = some rig ∧ rig.lease = handle.lease := by
  have hlease := h.lease
  have hidle : p.rig? = p.renderer := by
    rw [rig?, drawing_of_no_surface hp hsurface]
    exact Option.or_none
  rw [hhandle, hidle, Option.map_some, Option.map_eq_some_iff] at hlease
  obtain ⟨rig, hrenderer, hrig⟩ := hlease
  exact ⟨rig, hrenderer, hidle.trans hrenderer, hrig⟩

section

variable [VideoDecoder D] [FrameRenderer R D S]

/-- What can happen to a player whose renderers never panic, not even when they are created; they
may be refused then. -/
inductive Proceeds (decoders : D → Prop) (renderers : R → Prop) (p : TexturePlayer D S R) :
    TexturePlayer D S R → Prop
  | start (source : String → Except PlayerFault D) (create : StreamInfo → Except PlayerFault R)
      (path : String) (hsource : ∀ path d, source path = .ok d → decoders d)
      (hcreate : ∀ info renderer, create info = .ok renderer → renderers renderer)
      (hcalm : ∀ info fault, create info = .error fault → fault.isPanic = false) :
      Proceeds decoders renderers p (p.start source create path).2
  | created : Proceeds decoders renderers p p.created.2
  | changed : Proceeds decoders renderers p p.changed.2
  | destroyed : Proceeds decoders renderers p p.destroyed.2
  | stop : Proceeds decoders renderers p p.stop.2
  | work {q : TexturePlayer D S R} (h : Works p q) : Proceeds decoders renderers p q
  | alter (f : D → D) (hf : ∀ d, decoders d → decoders (f d)) :
      Proceeds decoders renderers p (p.setStage (p.stage.mapDecoders f))

theorem Proceeds.happens (h : Proceeds decoders renderers p q) : Happens decoders renderers p q := by
  cases h with
  | start source create path hsource hcreate => exact .start source create path hsource hcreate
  | created => exact .created
  | changed => exact .changed
  | destroyed => exact .destroyed
  | stop => exact .stop
  | work hstep => exact .work hstep
  | alter f hf => exact .alter f hf

/-- The start that opened the decoder of a player, and created the renderer `r` for it. -/
def StartedWith (decoders : D → Prop) (renderers : R → Prop) (begun : TexturePlayer D S R)
    (handle : Handle) (r : R) (p : TexturePlayer D S R) : Prop :=
  ∃ q source create path d, ReflTransGen (Proceeds decoders renderers) begun q ∧
    q.session.handle = none ∧ source path = .ok d ∧ create (VideoDecoder.info d) = .ok r ∧
    (q.start source create path).1 = .ok () ∧
    (q.start source create path).2.session.handle = some handle ∧
    (q.start source create path).2.renderer = some ⟨handle.lease, r⟩ ∧
    ReflTransGen (Proceeds decoders renderers) (q.start source create path).2 p

/-- What holds of a player at every moment of such a life. -/
structure Conserving (decoders : D → Prop) (renderers : R → Prop) (sinks : S → Prop)
    (p : TexturePlayer D S R) : Prop where
  sound : Sound p
  phase : Phase p
  unharmed : Unharmed decoders renderers sinks p
  equipped : Equipped p

omit [VideoDecoder D] [FrameRenderer R D S] in
theorem conserving_new {sink : S} (hsink : sinks sink) (options : PlayerOptions) :
    Conserving decoders renderers sinks (.new sink options : TexturePlayer D S R) where
  sound := sound_new sink options
  phase := .away rfl rfl
  unharmed := ⟨.empty hsink, nofun, nofun, nofun⟩
  equipped := ⟨rfl, [], rfl, .nil, nofun⟩

variable (hcalm : CalmRenderers renderers decoders sinks)

include hcalm

/-- A move keeps the renderer, starts with a new one, or stops. -/
theorem Proceeds.cases (h : Proceeds decoders renderers p q)
    (hp : Conserving decoders renderers sinks p) :
    Retains p q ∨
    (p.session.handle = none ∧ ∃ source create path d r, source path = .ok d ∧
      create (VideoDecoder.info d) = .ok r ∧ q = (p.start source create path).2) ∨
    q = p.stop.2 := by
  cases h with
  | start source create path hsource hcreate hmade =>
    rcases Retains.start_cases (p := p) source path hmade with hkeeps | ⟨hhandle, d, r, hd, hr⟩
    · exact .inl hkeeps
    · exact .inr (.inl ⟨hhandle, source, create, path, d, r, hd, hr, rfl⟩)
  | created => exact .inl (.created hcalm hp.sound hp.phase hp.unharmed)
  | changed => exact .inl (.refl p)
  | destroyed => exact .inl (.destroyed hcalm.toReliableRenderers hp.sound hp.unharmed)
  | stop => exact .inr (.inr rfl)
  | work hstep =>
    exact .inl (.works hstep (hp.unharmed.works hcalm.toReliableRenderers hstep).drawing)
  | alter f => exact .inl (.of_same rfl (.mapDecoders .refl f) rfl)

omit [VideoDecoder D] in
/-- What a stop does when a decoder is open: once the surface has gone away, the renderer is idle;
it is freed, and then the decoder is released. -/
theorem Conserving.stop (h : Conserving decoders renderers sinks p)
    (hhandle : p.session.handle = some handle) :
    ∃ rig, p.destroyed.2.renderer = some rig ∧ p.destroyed.2.rig? = some rig ∧
      rig.lease = handle.lease ∧
      ∃ rest, p.stop.2.stage.history = rest ++ ⟨p.stage.now, .released handle.lease⟩ ::
        ⟨p.stage.now, .rendererFreed handle.lease⟩ :: p.destroyed.2.stage.history := by
  have hended := ended_destroyed h.sound
  have hequipped :=
    (Retains.destroyed hcalm.toReliableRenderers h.sound h.unharmed).equipped h.equipped
  have hopen := hended.handle.trans hhandle
  obtain ⟨rig, hrenderer, hrig, hlease⟩ := hequipped.renderer hended.sound hended.surface hopen
  obtain ⟨rest, hrest⟩ := history_free_close hended.sound hended.surface hrenderer hopen hlease
  exact ⟨rig, hrenderer, hrig, hlease, rest, hended.now ▸ hrest⟩

omit [VideoDecoder D] in
/-- A stop leaves no renderer behind. -/
theorem Conserving.equipped_stop (h : Conserving decoders renderers sinks p) :
    Equipped p.stop.2 := by
  have hclosed := (stopped_stop h.sound).closed
  have hrig : p.stop.2.rig? = none := by
    rw [rig?, hclosed.renderer, hclosed.drawing]
    rfl
  have hkeeps := Retains.destroyed hcalm.toReliableRenderers h.sound h.unharmed
  have hended := ended_destroyed h.sound
  refine ⟨by rw [hrig, hclosed.handle]; rfl, ?_⟩
  rw [hclosed.handle]
  have hfurnished := (hkeeps.equipped h.equipped).furnished
  cases hhandle : p.session.handle with
  | none =>
    have hfree : p.destroyed.2.freeRenderer = p.destroyed.2 := by
      rw [freeRenderer, renderer_of_no_handle hended.sound (hended.handle.trans hhandle)]
    rw [hended.handle, hhandle] at hfurnished
    refine hfurnished.congr ?_
    rw [stop_snd, hfree]
    exact .closeAndReset .refl
  | some handle =>
    obtain ⟨rig, hrenderer, _, hlease, _⟩ := h.stop hcalm hhandle
    rw [hended.handle, hhandle, Option.map_some, ← hlease] at hfurnished
    let freed : Stage D S :=
      (p.destroyed.2.stage.record (.rendererFreed rig.lease)).release rig.lease
    have hfree : p.destroyed.2.freeRenderer.session.stage = freed := by
      rw [freeRenderer, hrenderer]
      rfl
    have hevents : freed.rendererEvents =
        p.destroyed.2.stage.rendererEvents ++ [.freed rig.lease] :=
      (Stage.noted_release _ (fun _ => rfl) _ _).trans (Stage.noted_record _ _ _)
    have hnext : p.destroyed.2.stage.nextLease ≤ freed.nextLease :=
      (Stage.KeepsRenderers.release ⟨rfl, Nat.le_refl _⟩ rig.lease :
        (p.destroyed.2.stage.record (.rendererFreed rig.lease)).KeepsRenderers freed).nextLease_le
    refine (hfurnished.free hevents hnext).congr ?_
    rw [stop_snd]
    exact .closeAndReset (hfree ▸ .refl)

theorem Conserving.proceeds (h : Conserving decoders renderers sinks p)
    (hmove : Proceeds decoders renderers p q) : Conserving decoders renderers sinks q := by
  obtain ⟨hsound, hphase⟩ := phase_happens ⟨h.sound, h.phase⟩ hmove.happens
  refine ⟨hsound, hphase, h.unharmed.happens hcalm.toReliableRenderers h.sound hmove.happens, ?_⟩
  rcases hmove.cases hcalm h with hkeeps |
    ⟨hhandle, source, create, path, d, r, hd, hr, rfl⟩ | rfl
  · exact hkeeps.equipped h.equipped
  · exact h.equipped.start h.sound hhandle hd hr
  · exact h.equipped_stop hcalm

theorem conserving_of_run {sink : S} (hsink : sinks sink) {options : PlayerOptions}
    (hrun : ReflTransGen (Proceeds decoders renderers) (.new sink options) p) :
    Conserving decoders renderers sinks p := by
  induction hrun with
  | refl => exact conserving_new hsink options
  | tail _ hmove ih => exact ih.proceeds hcalm hmove

/-- The renderer of an open decoder is the one that the start created for it. -/
theorem exists_startedWith {sink : S} (hsink : sinks sink) {options : PlayerOptions}
    (hrun : ReflTransGen (Proceeds decoders renderers) (.new sink options) p)
    (hhandle : p.session.handle = some handle) :
    ∃ r rig, StartedWith decoders renderers (.new sink options) handle r p ∧ p.rig? = some rig ∧
      rig.lease = handle.lease ∧ Grown D S r rig.renderer := by
  induction hrun with
  | refl => cases hhandle
  | @tail p q hrun hmove ih =>
    have hp := conserving_of_run hcalm hsink hrun
    rcases hmove.cases hcalm hp with hkeeps |
      ⟨hclosed, source, create, path, d, r, hd, hr, rfl⟩ | rfl
    · obtain ⟨r, rig, ⟨o, source, create, path, d, hbefore, hnone, hd, hr, hok, hopened, hmade,
        hafter⟩, hrig, hlease, hgrown⟩ := ih (hkeeps.handle ▸ hhandle)
      obtain ⟨rig', hrig', hlease', hgrown'⟩ := hkeeps.exists_rig hrig
      exact ⟨r, rig', ⟨o, source, create, path, d, hbefore, hnone, hd, hr, hok, hopened, hmade,
        hafter.tail hmove⟩, hrig', hlease'.trans hlease, hgrown.trans hgrown'⟩
    · have hstart := start_of_ok hclosed (renderer_of_no_handle hp.sound hclosed) hd hr
      rw [hstart] at hhandle
      cases hhandle
      refine ⟨r, ⟨p.stage.nextLease, r⟩, ⟨p, source, create, path, d, hrun, hclosed, hd, hr, ?_, ?_,
        ?_, .refl⟩, ?_, rfl, .refl⟩
      all_goals rw [hstart]
      rfl
    · rw [(stopped_stop hp.sound).closed.handle] at hhandle
      cases hhandle

/-- Renderers are conserved. In a run of any calls at any times, where creating a renderer may be
refused but no renderer and no surface ever panics, a renderer exists, idle or with the drawing
worker and never both, exactly while the decoder is open; no renderer is freed twice; and whenever
a decoder is open, a stop frees the renderer that the matching start created, and then releases
that decoder, which had not been released before. -/
theorem renderer_conserved {sink : S} (hsink : sinks sink) {options : PlayerOptions}
    (hrun : ReflTransGen (Proceeds decoders renderers) (.new sink options) p) :
    (p.renderer = none ∨ p.drawing = none) ∧ p.hasRenderer = p.session.isOpen ∧
    p.rig?.map Rig.lease = p.session.handle.map Handle.lease ∧
    (∀ i, occurrences p.stage.history (.rendererCreated i) ≤ 1 ∧
      occurrences p.stage.history (.rendererFreed i) =
        if p.session.handle.map Handle.lease = some i then 0
        else occurrences p.stage.history (.rendererCreated i)) ∧
    ∀ handle, p.session.handle = some handle →
      ∃ r rig, StartedWith decoders renderers (.new sink options) handle r p ∧
        p.destroyed.2.renderer = some rig ∧ rig.lease = handle.lease ∧ Grown D S r rig.renderer ∧
        p.stop.2.hasRenderer = false ∧
        (∃ rest, p.stop.2.stage.history = rest ++ ⟨p.stage.now, .released handle.lease⟩ ::
          ⟨p.stage.now, .rendererFreed handle.lease⟩ :: p.destroyed.2.stage.history) ∧
        occurrences p.destroyed.2.stage.history (.released handle.lease) = 0 ∧
        occurrences p.destroyed.2.stage.history (.rendererFreed handle.lease) = 0 := by
  have hp := conserving_of_run hcalm hsink hrun
  have hopen : p.rig?.isSome = p.session.handle.isSome := by
    rw [← Option.isSome_map (f := Rig.lease), hp.equipped.lease, Option.isSome_map]
  refine ⟨?_, ?_, hp.equipped.lease, hp.equipped.furnished.occurrences_freed, ?_⟩
  · cases hsurface : p.session.surface with
    | true => exact .inl (hp.sound.renderer_of_surface hsurface)
    | false => exact .inr (drawing_of_no_surface hp.sound hsurface)
  · rw [Session.isOpen, ← hopen, hasRenderer, rig?, Option.isSome_or,
      isSome_rigOf hp.unharmed.drawing]
  · intro handle hhandle
    obtain ⟨r, rig, hstarted, hrig, hlease, hgrown⟩ :=
      exists_startedWith hcalm hsink hrun hhandle
    obtain ⟨rig', hrenderer, hrig', hlease', hhistory⟩ := hp.stop hcalm hhandle
    -- the renderer that comes back from the surface is the one that the start created
    have hkeeps := Retains.destroyed hcalm.toReliableRenderers hp.sound hp.unharmed
    obtain ⟨rig'', hsame, hbecomes⟩ := hkeeps.exists_rig hrig
    rw [hrig'] at hsame
    cases hsame
    have hended := ended_destroyed hp.sound
    have hopened := hended.handle.trans hhandle
    have hstopped := (stopped_stop hp.sound).closed
    refine ⟨r, rig', hstarted, hrenderer, hlease', hgrown.trans hbecomes.2, ?_, hhistory, ?_, ?_⟩
    · rw [hasRenderer, hstopped.renderer, hstopped.drawing]
      rfl
    · have hheld := hended.sound.held
      rw [holds_of_no_surface hended.sound hended.surface, hrenderer, hopened, Option.map_some,
        hlease'] at hheld
      rw [hheld.accounted.occurrences_released]
      simp
    · have hfreed := ((hkeeps.equipped hp.equipped).furnished.occurrences_freed handle.lease).2
      rwa [hopened, Option.map_some, if_pos rfl] at hfreed

end

/-- Scripted renderers that are not told to panic. They may refuse a surface. -/
theorem calm_scripted : CalmRenderers (fun r : ScriptedRenderer => r.panicsAt = none)
    (fun _ : ScriptedDecoder => True) (fun _ : DrawTally => True) where
  initSurface := fun _ h => h
  draw := fun r d tally hr _ _ => by
    refine ⟨?_, hr, trivial, trivial⟩
    have houtcome : (FrameRenderer.draw r d tally : Drawing _ ScriptedDecoder _).outcome =
        if r.panicsAt = some (tally.draws + 1) then .panicked
        else if r.endsAt.any (· ≤ tally.draws + 1) then .ended else .more := rfl
    rw [houtcome, hr, if_neg nofun]
    split <;> nofun
  prepares := fun r fault _ h => by
    have hrefusal : (FrameRenderer.initSurface ScriptedDecoder DrawTally r).1 =
        if r.failsInit then .error (.renderer (.described "init refused")) else .ok () := rfl
    rw [hrefusal] at h
    split at h <;> cases h
    rfl

/-- The first start cannot have a renderer, the second one can, and a surface appears. -/
theorem renderer_conserved_secondStart :
    let source : String → Except PlayerFault ScriptedDecoder := fun _ => .ok .onePixel
    let refuse : StreamInfo → Except PlayerFault ScriptedRenderer :=
      fun _ => .error (.renderer .noFrameSize)
    let create : StreamInfo → Except PlayerFault ScriptedRenderer := fun _ => .ok ⟨none, none, false⟩
    let begun : TexturePlayer ScriptedDecoder DrawTally ScriptedRenderer := .new ⟨0⟩ ⟨25.0, none⟩
    let p := ((begun.start source refuse "clip").2.start source create "clip").2.created.2
    ReflTransGen (Proceeds (fun _ => True) fun r : ScriptedRenderer => r.panicsAt = none) begun p ∧
    p.session.handle = some ⟨1, "clip"⟩ ∧ p.session.surface = true ∧ p.hasRenderer = true ∧
    ∃ rig, p.destroyed.2.renderer = some rig ∧ rig.lease = 1 ∧
      occurrences p.destroyed.2.stage.history (.rendererFreed 1) = 0 := by
  intro source refuse create begun p
  have hrun : ReflTransGen (Proceeds (fun _ => True) fun r : ScriptedRenderer => r.panicsAt = none)
      begun p := by
    refine .head (.start source refuse "clip" (fun _ _ _ => trivial) nofun ?_) <|
      .head (.start source create "clip" (fun _ _ _ => trivial) ?_ nofun) (.single .created)
    · rintro _ _ ⟨⟩
      rfl
    · rintro _ _ ⟨⟩
      rfl
  have hhandle : p.session.handle = some ⟨1, "clip"⟩ := rfl
  obtain ⟨_, hexists, _, _, hstop⟩ := renderer_conserved calm_scripted trivial hrun
  obtain ⟨_, rig, _, hrenderer, hlease, _, _, _, _, hunfreed⟩ := hstop _ hhandle
  exact ⟨hrun, hhandle, rfl, hexists, rig, hrenderer, hlease, hunfreed⟩

end TexturePlayer

end AviPlayback
