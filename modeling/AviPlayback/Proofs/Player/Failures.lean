import AviPlayback.Proofs.Playback.SessionLife
import AviPlayback.Proofs.Player.NewSurface

/-!
Calls that fail. A start, a surface that appears, and the calls of a session under them either do
what they are for or leave everything that can be seen as it was: the published state with its
pending notifications, the decoder, the surface, the renderer and the running session. A decoder
that a failing call has opened is released again (`Player.failing_calls_change_nothing`).
-/
set_option autoImplicit false

namespace AviPlayback

/-- An attempt to open a decoder that is refused opens none. -/
theorem isUnreleased_record_openRefused {D S : Type} (stage : Stage D S) (i : Nat) :
    IsUnreleased (stage.record .openRefused).history i ↔ IsUnreleased stage.history i := by
  simp [IsUnreleased, Stage.record]

namespace Session

variable {D S L : Type} {s t : Session D S L}

/-- Calls of a session that may fail. -/
inductive Attempt (D L : Type)
  | openDecoder (source : String → Except PlayerFault D) (path : String)
  | beginSurface
  | beginRendering (loop : L)

def attempt (s : Session D S L) : Attempt D L → Except PlayerFault Unit × Session D S L
  | .openDecoder source path => (s.openDecoder source path).map (Except.map fun _ => ()) id
  | .beginSurface => s.beginSurface
  | .beginRendering loop => s.beginRendering loop

/-- A session that looks like another one. One that has a surface is the other one. -/
structure Untouched (s t : Session D S L) : Prop where
  cell : t.cell = s.cell
  handle : t.handle = s.handle
  surface : t.surface = s.surface
  worker : t.worker = s.worker
  unreleased : ∀ i, IsUnreleased t.stage.history i ↔ IsUnreleased s.stage.history i
  running : s.surface → t = s

theorem Untouched.refl (s : Session D S L) : Untouched s s :=
  ⟨rfl, rfl, rfl, rfl, fun _ => .rfl, fun _ => rfl⟩

/-- A call of a session that fails leaves the session as it was. -/
theorem untouched_attempt (hopen : s.surface → s.isOpen) {call : Attempt D L} {fault : PlayerFault}
    (hfail : (s.attempt call).1 = .error fault) : Untouched s (s.attempt call).2 := by
  cases call with
  | openDecoder source path =>
    simp only [attempt, Prod.map_fst, Prod.map_snd, id] at hfail ⊢
    cases hhandle : s.handle with
    | some handle =>
      rw [openDecoder_of_open (by rw [hhandle]; rfl)]
      exact .refl s
    | none =>
      cases hsource : source path with
      | ok d =>
        rw [openDecoder_of_ok hhandle hsource] at hfail
        cases hfail
      | error fault =>
        rw [openDecoder_of_error hhandle hsource]
        refine ⟨rfl, rfl, rfl, rfl, isUnreleased_record_openRefused s.stage, fun hsurface => ?_⟩
        have hthere := hopen hsurface
        rw [isOpen, hhandle] at hthere
        cases hthere
  | beginSurface =>
    simp only [attempt] at hfail ⊢
    rcases s.beginSurface_cases with ⟨_, hbegin⟩ | ⟨_, _, _, hbegin⟩
    · rw [hbegin]
      exact .refl s
    · rw [hbegin] at hfail
      cases hfail
  | beginRendering loop =>
    simp only [attempt] at hfail ⊢
    rcases s.beginRendering_cases loop with ⟨_, hbegin⟩ | ⟨_, _, hok⟩
    · rw [hbegin]
      exact .refl s
    · rw [hok] at hfail
      cases hfail

end Session

namespace TextureRenderer

/-- A renderer that cannot be prepared for a surface stays as it is. -/
theorem initSurface_of_error {r : TextureRenderer} {fault : PlayerFault}
    (h : r.initSurface.1 = .error fault) : r.initSurface.2 = r := by
  rw [initSurface] at h ⊢
  dsimp only at h ⊢
  split at h
  · cases h
  · rfl

end TextureRenderer

namespace TexturePlayer

variable {D S R : Type} {p : TexturePlayer D S R} {fault : PlayerFault}

/-- A start that fails is refused, opens no decoder, or closes the one that it has opened. -/
theorem start_fails [VideoDecoder D] (h : Sound p) {source : String → Except PlayerFault D}
    {create : StreamInfo → Except PlayerFault R} {path : String}
    (hfail : (p.start source create path).1 = .error fault) (hreturns : fault.isPanic = false) :
    (p.start source create path).2 = p ∨ p.session.handle = none ∧
      ((p.start source create path).2 = { p with session := p.session.record .openRefused } ∨
        ∃ d, (p.start source create path).2 = { p with session := (p.opened d path).close.2 }) := by
  cases hhandle : p.session.handle with
  | some handle =>
    have hopen : p.session.handle.isSome := by rw [hhandle, Option.isSome_some]
    exact .inl (by rw [start, Session.openDecoder_of_open hopen])
  | none =>
    refine .inr ⟨rfl, ?_⟩
    cases hsource : source path with
    | error fault => exact .inl (by rw [start, Session.openDecoder_of_error hhandle hsource])
    | ok d =>
      refine .inr ⟨d, ?_⟩
      cases hcreate : create (VideoDecoder.info d) with
      | ok renderer =>
        have hrenderer := renderer_of_no_handle h hhandle
        rw [start_of_ok hhandle hrenderer hsource hcreate] at hfail
        cases hfail
      | error fault =>
        rw [start_of_create_error hhandle hsource hcreate] at hfail ⊢
        cases hfail
        rw [hreturns, if_neg Bool.false_ne_true]

section

variable [VideoDecoder D] [FrameRenderer R D S]

/-- A surface that fails leaves the idle renderer, which could not be prepared for it. -/
theorem created_fails (h : Sound p) (hphase : Phase p) (hfail : p.created.1 = .error fault)
    (hreturns : fault.isPanic = false) : ∃ rig, p.renderer = some rig ∧
      (FrameRenderer.initSurface D S rig.renderer).1 = .error fault ∧
      p.created.2 = { p with renderer := some (prepared D S rig) } := by
  cases hrenderer : p.renderer with
  | none =>
    rw [created, hrenderer] at hfail
    cases hfail
  | some rig =>
    refine ⟨rig, rfl, ?_⟩
    obtain ⟨_, pacer, hpacer⟩ :=
      exists_pacer_of_renderer h (by rw [hrenderer, Option.isSome_some])
    rcases hinit : FrameRenderer.initSurface D S rig.renderer with ⟨refusal | ⟨⟩, renderer⟩
    · have hcreated : p.created = (.error refusal, if refusal.isPanic then p.dropRenderer
          else { p with renderer := some (prepared D S rig) }) := by
        simp only [created, hrenderer, hpacer, hinit, prepared]
      rw [hcreated] at hfail ⊢
      cases hfail
      exact ⟨rfl, by rw [hreturns, if_neg Bool.false_ne_true]⟩
    · obtain ⟨_, _, hcreated⟩ := created_of_renderer h hphase hrenderer (by rw [hinit])
      rw [hcreated] at hfail
      cases hfail

end

/-- A decoder that was opened on its own and closed again is released. -/
theorem isUnreleased_close_opened (h : Closed p) (d : D) (path : String) (i : Nat) :
    IsUnreleased (p.opened d path).close.2.stage.history i ↔ IsUnreleased p.stage.history i := by
  have hheld : (p.opened d path).stage.Held ((p.opened d path).handle.map Handle.lease).toList :=
    h.held.takeIn d
  rw [(Session.held_close hheld).accounted.isUnreleased_iff, h.held.accounted.isUnreleased_iff]

end TexturePlayer

namespace Player

variable {D S : Type} [VideoDecoder D] [FrameReader D S] [FrameSink S] {decoders : D → Prop}
  {sinks : S → Prop} {p q : Player D S} {fault : PlayerFault}

/-- Calls of a player that may fail. -/
inductive Attempt (D : Type)
  | start (source : String → Except PlayerFault D) (path : String)
  | created

def attempt (p : Player D S) : Attempt D → Except PlayerFault Unit × Player D S
  | .start source path => p.start source path
  | .created => p.onSurface .created

/-- A player that looks like another one. The published state, with the number of changes so far, is
the same, so that the same subscribers have changes to notice; the same things are present and the
same decoders unreleased; and on a surface the two cannot be told apart by anything that happens. -/
structure Untouched (p q : Player D S) : Prop where
  cell : q.cell = p.cell
  hasDecoder : q.hasDecoder = p.hasDecoder
  hasSurface : q.hasSurface = p.hasSurface
  hasRenderer : q.hasRenderer = p.hasRenderer
  unreleased : ∀ i, IsUnreleased q.stage.history i ↔ IsUnreleased p.stage.history i
  running : p.hasSurface → ∀ moves : List (Move D), moves.foldl after q = moves.foldl after p

theorem Untouched.refl (p : Player D S) : Untouched p p :=
  ⟨rfl, rfl, rfl, rfl, fun _ => .rfl, fun _ _ => rfl⟩

theorem untouched_bitmap_attempt {p : BitmapPlayer D S} (h : BitmapPlayer.Sound p)
    {call : Attempt D} (hfail : ((bitmap p).attempt call).1 = .error fault) :
    Untouched (bitmap p) ((bitmap p).attempt call).2 := by
  cases call with
  | start source path =>
    simp only [attempt, start] at hfail ⊢
    rcases BitmapPlayer.start_cases p source path with ⟨r, hstart⟩ | ⟨hhandle, ⟨r, hstart⟩ |
      ⟨d, _, hstart⟩⟩
    all_goals rw [hstart] at hfail ⊢
    · exact .refl _
    · refine ⟨rfl, rfl, rfl, rfl, isUnreleased_record_openRefused p.stage, fun hsurface => ?_⟩
      have hno : (bitmap p).hasSurface = false := BitmapPlayer.surface_of_no_handle h hhandle
      rw [hno] at hsurface
      cases hsurface
    · cases hfail
  | created =>
    simp only [attempt, onSurface] at hfail ⊢
    rcases BitmapPlayer.created_cases (BitmapPlayer.not_any_isRunning h) with
      ⟨r, hcreated⟩ | ⟨handle, pacer, _, _, hcreated⟩
    all_goals rw [hcreated] at hfail ⊢
    · exact .refl _
    · cases hfail

theorem untouched_texture_attempt {p : TexturePlayer D S TextureRenderer} (h : p.Sound)
    (hphase : p.Phase) {call : Attempt D} (hfail : ((texture p).attempt call).1 = .error fault)
    (hreturns : fault.isPanic = false) : Untouched (texture p) ((texture p).attempt call).2 := by
  cases call with
  | start source path =>
    simp only [attempt, start, Prod.map_fst, Prod.map_snd, id] at hfail ⊢
    rcases TexturePlayer.start_fails h hfail hreturns with hsame | ⟨hhandle, hstart | ⟨d, hstart⟩⟩
    · rw [hsame]
      exact .refl _
    all_goals
      have hclosed := TexturePlayer.closed_of_no_handle h hhandle
      have hrunning : (texture p).hasSurface → False := fun hsurface => by
        have hno : (texture p).hasSurface = false := hclosed.surface
        rw [hno] at hsurface
        cases hsurface
      rw [hstart]
    · exact ⟨rfl, rfl, rfl, rfl, isUnreleased_record_openRefused p.stage,
        fun hsurface => (hrunning hsurface).elim⟩
    · have hno : (texture p).hasDecoder = false :=
        congrArg Option.isSome hhandle
      have hunreleased := TexturePlayer.isUnreleased_close_opened hclosed d path
      rw [Session.close_snd] at hunreleased ⊢
      exact ⟨rfl, hno.symm, rfl, rfl, hunreleased, fun hsurface => (hrunning hsurface).elim⟩
  | created =>
    simp only [attempt, onSurface, Prod.map_fst, Prod.map_snd, id] at hfail ⊢
    obtain ⟨rig, hrenderer, hinit, hcreated⟩ := TexturePlayer.created_fails h hphase hfail hreturns
    have hsame : p.created.2 = p := by
      have hrig : TexturePlayer.prepared D S rig = rig := by
        rw [TexturePlayer.prepared]
        exact congrArg (Rig.mk rig.lease) (TextureRenderer.initSurface_of_error hinit)
      rw [hcreated, hrig, ← hrenderer]
    rw [hsame]
    exact .refl _

/-- A start or a surface that fails at any moment of a player's life, and opening, a surface or a
worker that fails at any moment of a session's, changes nothing that can be seen: not the published
state or what subscribers have to notice, not what is present, not which decoders are unreleased;
and a session that is running goes on as if the call had not been made. -/
theorem failing_calls_change_nothing :
    (∀ p : Player D S, p.Reached decoders sinks → ∀ call fault,
      (p.attempt call).1 = .error fault → fault.isPanic = false →
        Untouched p (p.attempt call).2) ∧
    ∀ s : Session D S BodyLoop, s.Reached → ∀ call fault,
      (s.attempt call).1 = .error fault → Session.Untouched s (s.attempt call).2 := by
  constructor
  · intro p hreached call fault hfail hreturns
    cases p with
    | bitmap p => exact untouched_bitmap_attempt (BitmapPlayer.Reached.phase hreached).1 hfail
    | texture p =>
      obtain ⟨hsound, hphase⟩ := TexturePlayer.Reached.phase hreached
      exact untouched_texture_attempt hsound hphase hfail hreturns
  · intro s hreached call fault hfail
    exact Session.untouched_attempt hreached.sound.isOpen hfail

/-- A stream without frames, for which no renderer can be made; a second surface, in software; and a
surface for a session without a decoder. -/
theorem failing_calls_change_nothing_thrice :
    let noFrames : ScriptedDecoder :=
      { ScriptedDecoder.onePixel with info := { ScriptedDecoder.onePixel.info with maxFrameSize := 0 } }
    let p : Player ScriptedDecoder ScriptedSink := new .gl ⟨[], [], false, 0⟩ ⟨25.0, none⟩
    let q : Player ScriptedDecoder ScriptedSink :=
      [.start (fun _ => .ok .onePixel) "clip", .surface .created].foldl after
        (new .bitmap ⟨[], [], false, 0⟩ ⟨25.0, none⟩)
    let s : Session ScriptedDecoder ScriptedSink BodyLoop := .new ⟨[], [], false, 0⟩ ⟨25.0, none⟩
    ((p.attempt (.start (fun _ => .ok noFrames) "clip")).1 = .error (.renderer .noFrameSize) ∧
      Untouched p (p.attempt (.start (fun _ => .ok noFrames) "clip")).2) ∧
    ((q.attempt .created).1 = .error (.invalidState .surfaceWhileActive) ∧
      Untouched q (q.attempt .created).2) ∧
    (s.attempt .beginSurface).1 = .error (.invalidState .surfaceBeforeStart) ∧
      Session.Untouched s (s.attempt .beginSurface).2 := by
  intro noFrames p q s
  obtain ⟨hplayers, hsessions⟩ := @failing_calls_change_nothing ScriptedDecoder ScriptedSink _ _ _
    (fun _ => True) (fun _ => True)
  have hp : p.Reached (fun _ => True) (fun _ => True) := ⟨_, _, trivial, .refl⟩
  have hq : q.Reached (fun _ => True) (fun _ => True) := by
    refine reached_run .bitmap trivial _ fun m hm => ?_
    rcases List.mem_cons.mp hm with rfl | hm
    · exact fun _ _ _ => trivial
    · obtain rfl := List.mem_singleton.mp hm
      trivial
  have hs : s.Reached := ⟨_, _, .refl⟩
  exact ⟨⟨rfl, hplayers p hp _ _ rfl rfl⟩, ⟨rfl, hplayers q hq _ _ rfl rfl⟩, rfl,
    hsessions s hs _ _ rfl⟩

end Player

end AviPlayback
