import AviPlayback.Proofs.Player.Meanwhile
import AviPlayback.Proofs.Player.Requests

/-!
The frame limit. The worker of a player in software, and the pacing worker of one that draws through
renderers, look at the limit after a frame: no session has more frames than its limit says, but for
the limit of no frames at all, with which a session has one (`Player.frames_le_limit`).
-/
set_option autoImplicit false

namespace AviPlayback

open Relation (ReflTransGen)

namespace Stage

variable {D S : Type}

def presents (s : Stage D S) : Nat := (s.noted Event.picture?).length

theorem Spared.presents {s t : Stage D S} (h : s.Spared t) : t.presents = s.presents :=
  congrArg List.length (h.traced _ fun _ he => Event.picture?_of_aside he)

theorem Spared.requests {s t : Stage D S} (h : s.Spared t) : t.requests = s.requests :=
  h.traced _ fun _ he => Event.requested?_of_aside he

theorem Spared.draws {s t : Stage D S} (h : s.Spared t) : t.draws = s.draws :=
  h.traced _ fun _ he => Event.drawn?_of_aside he

theorem presents_present [FrameSink S] (s : Stage D S) (picture : PixelBuffer) :
    (s.present picture).2.presents = s.presents + 1 := by
  have hnoted : (s.present picture).2.noted Event.picture? = s.noted Event.picture? ++ [picture] :=
    traced_present _ s picture
  rw [presents, hnoted, List.length_append]
  rfl

end Stage

namespace BitmapPlayer

variable {D S : Type} {p q : BitmapPlayer D S} {m before n : Nat}

/-- A session with a frame limit that has shown `n` pictures. -/
structure Within (m before n : Nat) (p : BitmapPlayer D S) : Prop where
  limit : p.options.maxFrames = some m
  presents : p.stage.presents = before + n
  le : n ≤ max m 1
  frames : ∀ loop told, p.worker = some (.running loop told) → loop.frames = n ∧ n < max m 1

/-- Only the pictures shown and the count of the worker matter. -/
theorem Within.congr (h : Within m before n p) (hoptions : q.options = p.options)
    (hpresents : q.stage.presents = p.stage.presents)
    (hworker : ∀ loop told, q.worker = some (.running loop told) →
      ∃ loop' told', p.worker = some (.running loop' told') ∧ loop.frames = loop'.frames) :
    Within m before n q := by
  refine ⟨hoptions ▸ h.limit, hpresents.trans h.presents, h.le, fun loop told hrunning => ?_⟩
  obtain ⟨loop', told', hbefore, hframes⟩ := hworker loop told hrunning
  rw [hframes]
  exact h.frames _ _ hbefore

theorem Within.spared (h : Within m before n p) (hq : Spared p q) : Within m before n q := by
  refine h.congr hq.options hq.stage.presents fun loop told hrunning => ?_
  obtain ⟨told', hbefore⟩ := hq.worker.running hrunning
  exact ⟨loop, told', hbefore, rfl⟩

theorem within_onNewSurface (hlimit : p.options.maxFrames = some m) (handle : Handle)
    (pacer : Pacer) : Within m p.stage.presents 0 (p.onNewSurface handle pacer) := by
  obtain ⟨hstage, hoptions⟩ := spared_onNewSurface p handle pacer
  refine ⟨hoptions ▸ hlimit, hstage.presents, Nat.zero_le _, fun loop told heq => ?_⟩
  cases heq
  exact ⟨rfl, by omega⟩

section

variable [VideoDecoder D] [FrameReader D S] [FrameSink S]

omit [VideoDecoder D] in
/-- A picture is counted where it is shown, and it is within the limit. -/
theorem Within.presents_present (h : Within m before n p) {b c : Blit} {told panicked : Bool}
    {stage : Stage D S} (hworker : p.worker = some (.running (.drawing b) told))
    (hrefresh : b.refresh p.stage = (panicked, c, stage)) :
    c.frames = n ∧ stage.presents = before + n ∧
      (stage.present c.picture).2.presents = before + (n + 1) ∧ n + 1 ≤ max m 1 := by
  obtain ⟨hframes, hlt⟩ := h.frames _ _ hworker
  have hread := Blit.refreshed hrefresh
  have hpresents : stage.presents = p.stage.presents :=
    congrArg List.length (hread.traced _ fun _ _ => rfl)
  rw [h.presents] at hpresents
  refine ⟨hread.frames.trans hframes, hpresents, ?_, hlt⟩
  rw [Stage.presents_present, hpresents, Nat.add_assoc]

/-- A step shows a picture within the limit, or shows none; the worker goes on only below it. -/
theorem Within.ticked (h : Within m before n p) (hstep : Ticked p q) :
    ∃ n', Within m before n' q := by
  cases hstep with
  | begin hworker | check hworker | resume hworker =>
    exact ⟨n, h.congr rfl rfl fun _ _ heq => by cases heq; exact ⟨_, _, hworker, rfl⟩⟩
  | unfit hworker =>
    exact ⟨n, h.congr (options_endLoop _ _) (spared_endLoop _ _).presents nofun⟩
  | starved hworker => exact ⟨n, h.congr rfl (spared_panicLoop _ _).presents nofun⟩
  | stop hworker => exact ⟨n, h.congr rfl (spared_leaveLoop _ _ _).presents nofun⟩
  | rest hworker hrefresh hlimit =>
    obtain ⟨hframes, _, hpresents, hle⟩ := h.presents_present hworker hrefresh
    refine ⟨n + 1, h.limit, hpresents, hle, fun loop told heq => ?_⟩
    cases heq
    have hlt := PlayerOptions.lt_of_not_limitReached h.limit hlimit
    exact ⟨congrArg (· + 1) hframes, by omega⟩
  | limit hworker hrefresh =>
    obtain ⟨_, _, hpresents, hle⟩ := h.presents_present hworker hrefresh
    exact ⟨n + 1, (congrArg _ (options_endLoop _ _)).trans h.limit,
      (spared_endLoop _ _).presents.trans hpresents, hle, nofun⟩
  | broken hworker hrefresh =>
    obtain ⟨_, _, hpresents, hle⟩ := h.presents_present hworker hrefresh
    exact ⟨n + 1, h.limit, (spared_panicLoop _ _).presents.trans hpresents, hle, nofun⟩
  | unread hworker hrefresh =>
    obtain ⟨_, hpresents, _, _⟩ := h.presents_present hworker hrefresh
    exact ⟨n, h.limit, (spared_panicLoop _ _).presents.trans hpresents, h.le, nofun⟩

/-- A session in software has no more pictures than its limit, or one. -/
theorem exists_within {decoders : D → Prop} {sinks : S → Prop} (hreached : Reached decoders sinks p)
    (haccepts : p.Accepts) (hlimit : p.options.maxFrames = some m)
    (hrun : ReflTransGen (Meanwhile decoders) p.created.2 q) :
    ∃ n, Within m p.stage.presents n q := by
  obtain ⟨hsound, hphase⟩ := hreached.phase
  obtain ⟨handle, pacer, _, _, hcreated⟩ := created_of_accepts hsound hphase haccepts
  refine (meanwhile_keeps (P := fun q => ∃ n, Within m p.stage.presents n q)
    ?_ ?_ ?_ (hreached.happens .created) hrun ⟨0, ?_⟩).2
  · rintro q r ⟨n, hq⟩ hstep
    exact hq.ticked (ticked_of_step? hstep)
  · rintro q r ⟨n, hq⟩ haside
    exact ⟨n, hq.spared haside.spared⟩
  · rintro q t ⟨n, hq⟩
    exact ⟨n, hq.congr rfl rfl fun loop told heq => ⟨loop, told, heq, rfl⟩⟩
  · rw [hcreated]
    exact within_onNewSurface hlimit handle pacer

end

end BitmapPlayer

namespace TexturePlayer

variable {D S R : Type} {p q : TexturePlayer D S R} {requests draws : List Nat} {m n k : Nat}

theorem Ordered.spared (h : Ordered requests draws n k p) (hq : Spared p q) :
    Ordered requests draws n k q := by
  refine ⟨?_, ?_, h.le, fun loop told hrunning => ?_, fun loop told hrunning hending => ?_⟩
  · exact hq.stage.requests.trans h.requests
  · exact hq.stage.draws.trans h.draws
  · obtain ⟨told', hbefore⟩ := hq.worker.running hrunning
    exact h.seq loop told' hbefore
  · obtain ⟨told', hbefore⟩ := hq.drawing.running hrunning
    exact h.unanswered loop told' hbefore hending

/-- A session begins with what was asked for and drawn before it. -/
theorem ordered_of_onNewSurface (p : TexturePlayer D S R) (pacer : Pacer) (rig : Rig R) :
    Ordered p.stage.requests p.stage.draws 0 0 (p.onNewSurface pacer rig) := by
  obtain ⟨hstage, _⟩ := spared_onNewSurface p pacer rig
  rw [← hstage.requests, ← hstage.draws]
  exact ordered_onNewSurface p pacer rig

/-- A session with a frame limit that has asked for `n` draws. -/
structure Within (m n : Nat) (p : TexturePlayer D S R) : Prop where
  limit : p.session.options.maxFrames = some m
  le : n ≤ max m 1
  asking : ∀ loop told, p.session.worker = some (.running loop told) → loop.isSent ∨ n < max m 1

/-- Only the place of the pacing worker matters. -/
theorem Within.congr (h : Within m n p) (hoptions : q.session.options = p.session.options)
    (hworker : ∀ loop told, q.session.worker = some (.running loop told) →
      loop.isSent ∨ n < max m 1) : Within m n q :=
  ⟨hoptions ▸ h.limit, h.le, hworker⟩

theorem Within.lt (h : Within m n p) {loop : PaceLoop} {told : Bool}
    (hworker : p.session.worker = some (.running loop told)) (hsent : loop.isSent = false) :
    n < max m 1 :=
  (h.asking _ _ hworker).resolve_left (by rw [hsent]; exact Bool.false_ne_true)

/-- A draw is asked for within the limit, and the worker goes on only below it. -/
theorem Within.paced (h : Within m n p) (hp : Ordered requests draws n k p) (hstep : Paced p q) :
    Within m (n + p.isAsking.toNat) q := by
  cases hstep with
  | stop hworker hloop =>
    rw [isAsking_of_not_isSending hworker (PaceLoop.isSending_of_isAtCheck hloop)]
    exact h.congr rfl fun _ _ heq => by cases heq
  | check hworker | resume hworker =>
    have hlt := h.lt hworker rfl
    rw [isAsking_of_not_isSending hworker rfl]
    exact h.congr rfl fun _ _ _ => .inr hlt
  | ask hworker hdrawing =>
    have hasking : p.isAsking = true := by rw [isAsking, hworker, hdrawing]
    have hlt := h.lt hworker rfl
    rw [hasking]
    exact ⟨h.limit, hlt, fun _ _ heq => by cases heq; exact .inl rfl⟩
  | refused _ hdrawing =>
    rw [isAsking_of_not_running hdrawing]
    exact h.congr rfl fun _ _ heq => by cases heq
  | limit hworker =>
    rw [isAsking_of_not_isSending hworker rfl]
    exact h.congr (Session.options_moveTo _ _) fun _ _ heq => by cases heq
  | rest hworker hlimit =>
    have hlt := PlayerOptions.lt_of_not_limitReached h.limit hlimit
    have hseq : _ = n := hp.seq _ _ hworker
    rw [isAsking_of_not_isSending hworker rfl]
    exact h.congr rfl fun _ _ _ => .inr (by simp only [PaceLoop.seq] at hseq; omega)

section

variable [FrameRenderer R D S]

/-- The drawing worker asks for nothing. -/
theorem Within.drew (h : Within m n p) (hstep : p.drawStep? = some q) : Within m n q := by
  refine h.congr (sameOutside_of_workerStep (.inr hstep)).options fun loop told heq => ?_
  rcases (drew_of_drawStep? hstep).worker_cases with hsame | hcancel
  · exact h.asking loop told (hsame.symm.trans heq)
  · obtain ⟨told', hbefore⟩ := Task.running_of_map_cancel (hcancel.symm.trans heq)
    exact h.asking loop told' hbefore

/-- A session through renderers asks for no more draws than its limit, or for one. -/
theorem exists_within [VideoDecoder D] {decoders : D → Prop} {renderers : R → Prop}
    {sinks : S → Prop} (hreached : Reached decoders renderers sinks p) (haccepts : p.Accepts)
    (hlimit : p.session.options.maxFrames = some m)
    (hrun : ReflTransGen (Meanwhile decoders renderers) p.created.2 q) :
    ∃ n k, Ordered p.stage.requests p.stage.draws n k q ∧ Within m n q := by
  obtain ⟨hsound, hphase⟩ := hreached.phase
  obtain ⟨rig, pacer, _, _, hcreated⟩ := created_of_accepts hsound hphase haccepts
  obtain ⟨_, hoptions⟩ := spared_onNewSurface p pacer (prepared D S rig)
  refine (meanwhile_keeps
    (P := fun q => ∃ n k, Ordered p.stage.requests p.stage.draws n k q ∧ Within m n q)
    ?_ ?_ ?_ (hreached.happens .created) hrun ⟨0, 0, ?_⟩).2
  · rintro q r ⟨n, k, hordered, hwithin⟩ (hpace | hdraw)
    · have hpaced := paced_of_paceStep? hpace
      exact ⟨_, _, hordered.paced hpaced, hwithin.paced hordered hpaced⟩
    · exact ⟨_, _, hordered.drew (drew_of_drawStep? hdraw), hwithin.drew hdraw⟩
  · rintro q r ⟨n, k, hordered, hwithin⟩ haside
    have hspared := haside.spared
    refine ⟨n, k, hordered.spared hspared, hwithin.congr hspared.options fun loop told heq => ?_⟩
    obtain ⟨told', hbefore⟩ := hspared.worker.running heq
    exact hwithin.asking loop told' hbefore
  · rintro q t ⟨n, k, hordered, hwithin⟩
    exact ⟨n, k, hordered.congr rfl rfl rfl hordered.seq, { hwithin with }⟩
  · rw [hcreated]
    refine ⟨ordered_of_onNewSurface p pacer _, hoptions ▸ hlimit, Nat.zero_le _,
      fun _ _ _ => .inr ?_⟩
    omega

end

end TexturePlayer

namespace Player

variable {D S R : Type} [VideoDecoder D] [FrameReader D S] [FrameSink S] [FrameRenderer R D S]
  {decoders : D → Prop} {renderers : R → Prop} {sinks : S → Prop}

/-- From the surface that begins a session until one begins the next, no more pictures are shown
than the frame limit says, and through renderers no more draws are asked for; but under a limit of
no frames there may be one. -/
theorem frames_le_limit (m : Nat) :
    (∀ p : BitmapPlayer D S, BitmapPlayer.Reached decoders sinks p → p.Accepts →
      p.options.maxFrames = some m →
      ∀ q, ReflTransGen (BitmapPlayer.Meanwhile decoders) p.created.2 q →
        q.stage.presents ≤ p.stage.presents + max m 1) ∧
    ∀ p : TexturePlayer D S R, p.Reached decoders renderers sinks → p.Accepts →
      p.session.options.maxFrames = some m →
      ∀ q, ReflTransGen (TexturePlayer.Meanwhile decoders renderers) p.created.2 q →
        q.stage.requests.length ≤ p.stage.requests.length + max m 1 := by
  constructor
  · intro p hreached haccepts hlimit q hrun
    obtain ⟨n, hq⟩ := BitmapPlayer.exists_within hreached haccepts hlimit hrun
    rw [hq.presents]
    exact Nat.add_le_add_left hq.le _
  · intro p hreached haccepts hlimit q hrun
    obtain ⟨n, k, hordered, hq⟩ := TexturePlayer.exists_within hreached haccepts hlimit hrun
    rw [hordered.requests, List.length_append, List.length_range']
    exact Nat.add_le_add_left hq.le _

/-- A stream of one pixel under a limit of no frames, before its first surface. -/
def noFrames (mode : RenderMode) : Player ScriptedDecoder ScriptedSink :=
  [Move.start (fun _ => .ok .onePixel) "clip"].foldl after
    (new mode ⟨[], [], false, 0⟩ ⟨25.0, some 0⟩)

/-- Under a limit of no frames: one picture in software, and one draw asked for through renderers.
-/
theorem frames_le_limit_zero :
    ∃ (p q : BitmapPlayer ScriptedDecoder ScriptedSink)
      (r s : TexturePlayer ScriptedDecoder ScriptedSink TextureRenderer),
      noFrames .bitmap = bitmap p ∧ noFrames .gl = texture r ∧ p.Accepts ∧ r.Accepts ∧
      ReflTransGen (BitmapPlayer.Meanwhile fun _ => True) p.created.2 q ∧
      ReflTransGen (TexturePlayer.Meanwhile (fun _ => True) fun _ => True) r.created.2 s ∧
      q.stage.presents = 1 ∧ q.stage.presents ≤ p.stage.presents + max 0 1 ∧
      s.stage.requests = [1] ∧ s.stage.requests.length ≤ r.stage.requests.length + max 0 1 := by
  have hlife : ∀ mode, (noFrames mode).Reached (fun _ => True) (fun _ => True) := fun mode =>
    reached_run mode trivial _ fun m hm => by
      obtain rfl := List.mem_singleton.mp hm
      exact fun _ _ _ => trivial
  obtain ⟨hbitmap, htexture⟩ := @frames_le_limit ScriptedDecoder ScriptedSink TextureRenderer
    _ _ _ _ (fun _ => True) (fun _ => True) (fun _ => True) 0
  -- the worker gets its buffers, checks and ticks
  obtain ⟨p, hp, hpaccepts, hplimit, q, hsteps, hpresents⟩ : ∃ p, noFrames .bitmap = bitmap p ∧
      p.Accepts ∧ p.options.maxFrames = some 0 ∧ ∃ q,
        ReflTransGen (BitmapPlayer.Meanwhile fun _ => True) p.created.2 q ∧ q.stage.presents = 1 :=
    ⟨_, rfl, ⟨nofun, rfl⟩, rfl, _, .head ⟨.work (.step rfl), fun h => h.1.1 rfl⟩ <|
      .head ⟨.work (.step rfl), fun h => h.1.1 rfl⟩ <|
        .single ⟨.work (.step rfl), fun h => h.1.1 rfl⟩, rfl⟩
  -- the pacing worker checks and asks
  obtain ⟨r, hr, hraccepts, hrlimit, s, hasked, hrequests⟩ : ∃ r, noFrames .gl = texture r ∧
      r.Accepts ∧ r.session.options.maxFrames = some 0 ∧ ∃ s,
        ReflTransGen (TexturePlayer.Meanwhile (fun _ => True) fun _ => True) r.created.2 s ∧
          s.stage.requests = [1] :=
    ⟨_, rfl, ⟨nofun, rfl⟩, rfl, _, .head ⟨.work (.step (.inl rfl)), fun h => h.1.1 rfl⟩ <|
      .single ⟨.work (.step (.inl rfl)), fun h => h.1.1 rfl⟩, rfl⟩
  have hpreached : BitmapPlayer.Reached (fun _ => True) (fun _ => True) p := by
    have hreached := hlife .bitmap
    rwa [hp] at hreached
  have hrreached : r.Reached (fun _ => True) (fun _ => True) fun _ => True := by
    have hreached := hlife .gl
    rwa [hr] at hreached
  exact ⟨p, q, r, s, hp, hr, hpaccepts, hraccepts, hsteps, hasked, hpresents,
    hbitmap p hpreached hpaccepts hplimit q hsteps, hrequests,
    htexture r hrreached hraccepts hrlimit s hasked⟩

/-- Under a limit of no frames a session has a frame. -/
theorem frame_beyond_limit :
    let session : List (Move ScriptedDecoder) := .surface .created :: List.replicate 3 .work
    ∃ (p : BitmapPlayer ScriptedDecoder ScriptedSink)
      (q : TexturePlayer ScriptedDecoder ScriptedSink TextureRenderer),
      session.foldl after (noFrames .bitmap) = bitmap p ∧
      session.foldl after (noFrames .gl) = texture q ∧
      p.options.maxFrames = some 0 ∧ p.stage.presents = 1 ∧
      q.session.options.maxFrames = some 0 ∧ q.stage.requests.length = 1 :=
  ⟨_, _, rfl, rfl, rfl, rfl, rfl, rfl⟩

end Player

end AviPlayback
