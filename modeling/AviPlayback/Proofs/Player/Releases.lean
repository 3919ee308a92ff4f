import AviPlayback.Proofs.Player.Runs

/-!
Decoders are opened one at a time, read only while they are open, and released when the player is
stopped (`Player.run_releases`), whatever the calls, the decoders and the surface do.
-/
set_option autoImplicit false

namespace AviPlayback

/-- A renderer can be made for the stream. -/
structure StreamInfo.IsDrawable (info : StreamInfo) : Prop where
  maxFrameSize_pos : 0 < info.maxFrameSize
  maxFrameSize_lt : info.maxFrameSize < bufferLimit
  target : ∃ target, PixelBuffer.tryNew info.width info.height = .ok target

/-- A stream of one pixel that is shown over and over. -/
def ScriptedDecoder.onePixel : ScriptedDecoder :=
  ⟨⟨1, 1, 25.0, ⟨1, 1, .bgrx32, false⟩, 4⟩, [.payload #[1, 2, 3, 4]], true, 0⟩

/-- What a player is that was stopped: nothing is left of its session, every decoder that was opened
has been released once, and stopping it again does nothing. -/
structure Player.IsBare {D S : Type} [VideoDecoder D] [FrameReader D S] [FrameSink S]
    (p : Player D S) : Prop where
  state : p.state = .idle
  hasDecoder : p.hasDecoder = false
  hasSurface : p.hasSurface = false
  hasWorker : p.hasWorker = false
  hasRenderer : p.hasRenderer = false
  unheld : ∀ l ∈ p.stage.leases, l.isHeld = false
  released : ∀ i, occurrences p.stage.history (.opened i) ≤ 1 ∧
    occurrences p.stage.history (.released i) = occurrences p.stage.history (.opened i)
  stop : p.stop = (.ok (), p)

theorem Stage.Held.occurrences_eq {D S : Type} {s : Stage D S} (h : s.Held []) (i : Nat) :
    occurrences s.history (.opened i) ≤ 1 ∧
      occurrences s.history (.released i) = occurrences s.history (.opened i) := by
  rw [h.accounted.occurrences_opened, h.accounted.occurrences_released]
  constructor
  · split <;> decide
  · simp

namespace Player

variable {D S : Type} [VideoDecoder D] {p : Player D S}

/-- A closed player starts with any decoder that can be opened and, if it draws through a texture,
drawn. -/
theorem Closed.start {source : String → Except PlayerFault D} {path : String} {d : D}
    (h : Closed p) (hsource : source path = .ok d)
    (hdrawable : p.mode = .gl → (VideoDecoder.info d).IsDrawable) :
    (p.start source path).1 = .ok () := by
  cases p with
  | bitmap p =>
    rw [Player.start, BitmapPlayer.start_of_ok (BitmapPlayer.Closed.handle h) hsource]
    rfl
  | texture p =>
    obtain ⟨hpos, hlt, target, htarget⟩ := hdrawable rfl
    rw [Player.start, TexturePlayer.start_of_ok (TexturePlayer.Closed.handle h)
      (TexturePlayer.Closed.renderer h) hsource (TextureRenderer.create_of_lt hpos hlt htarget)]
    rfl

variable [FrameReader D S] [FrameSink S]

theorem Closed.isBare (h : Closed p) (hstate : p.state = .idle) : IsBare p where
  state := hstate
  hasDecoder := h.hasDecoder
  hasSurface := by
    cases p with
    | bitmap p => exact BitmapPlayer.Closed.surface h
    | texture p => exact TexturePlayer.Closed.surface h
  hasWorker := by
    cases p with
    | bitmap p => simp [Player.hasWorker, BitmapPlayer.Closed.worker h]
    | texture p =>
      simp [Player.hasWorker, TexturePlayer.Closed.worker h, TexturePlayer.Closed.drawing h]
  hasRenderer := by
    cases p with
    | bitmap p => rfl
    | texture p =>
      simp [Player.hasRenderer, TexturePlayer.hasRenderer, TexturePlayer.Closed.renderer h,
        TexturePlayer.Closed.drawing h]
  unheld := h.held.not_isHeld
  released := h.held.occurrences_eq
  stop := by
    cases p with
    | bitmap p => rw [Player.stop, BitmapPlayer.stop_of_closed h hstate]; rfl
    | texture p => rw [Player.stop, TexturePlayer.stop_of_closed h hstate]; rfl

/-- In every run at most one decoder is unreleased at a time, it is read only until it is released,
and no worker is ever lost. A stop always leaves the player bare, also when it reports that a worker
failed; and whenever no decoder is open later on, as before the next start, the player can be
started. -/
theorem run_releases (mode : RenderMode) (sink : S) (options : PlayerOptions)
    (moves : List (Move D)) :
    let p : Player D S := moves.foldl after (new mode sink options)
    OneAtATime p.stage.history ∧ occurrences p.stage.history .detached = 0 ∧ p.stop.2.IsBare ∧
      ∀ later : List (Move D),
        let q := later.foldl after p.stop.2
        ((∀ m ∈ later, m.isStart = false) → q.hasDecoder = false) ∧
        (q.hasDecoder = false → ∀ (source : String → Except PlayerFault D) (path : String) (d : D),
          source path = .ok d → (mode = .gl → (VideoDecoder.info d).IsDrawable) →
            (q.start source path).1 = .ok ()) := by
  intro p
  have hsound : Sound p := sound_run (sound_new mode sink options) moves
  obtain ⟨hclosed, hstate⟩ := closed_stop hsound
  obtain ⟨holds, hheld⟩ := hsound.held
  refine ⟨hheld.accounted.oneAtATime, hheld.accounted.occurrences_detached, hclosed.isBare hstate,
    fun later => ⟨fun hlater => (closed_run hclosed hlater).hasDecoder, ?_⟩⟩
  intro hdecoder source path d hsource hdrawable
  have hlater : Sound (later.foldl after p.stop.2) := sound_run hclosed.sound later
  have hmodes : (later.foldl after p.stop.2).mode = mode :=
    calc (later.foldl after p.stop.2).mode
      _ = p.stop.2.mode := mode_run _ later
      _ = p.mode := mode_after p .stop
      _ = (new mode sink options : Player D S).mode := mode_run _ moves
      _ = mode := mode_new mode sink options
  exact (hlater.closed hdecoder).start hsource fun hgl => hdrawable (hmodes.symm.trans hgl)

/-- A stream of one pixel, on a surface that panics when it shows it: after the stop the player
starts again. -/
theorem run_releases_panicking :
    let source : String → Except PlayerFault ScriptedDecoder := fun _ => .ok .onePixel
    let p : Player ScriptedDecoder ScriptedSink :=
      [.start source "clip", .surface .created, .sleep 100].foldl after
        (new .gl ⟨[], [1], false, 0⟩ ⟨25.0, none⟩)
    let later : List (Move ScriptedDecoder) := [.surface .created, .sleep 40, .stop]
    (∀ m ∈ later, m.isStart = false) ∧ ScriptedDecoder.onePixel.info.IsDrawable ∧
      p.stop.2.IsBare ∧ ((later.foldl after p.stop.2).start source "clip").1 = .ok () := by
  intro source p later
  have hlater : ∀ m ∈ later, m.isStart = false := by simp [later, Move.isStart]
  have hdrawable : ScriptedDecoder.onePixel.info.IsDrawable :=
    ⟨by decide, by decide, _, rfl⟩
  obtain ⟨_, _, hbare, hagain⟩ := run_releases (D := ScriptedDecoder) .gl
    (⟨[], [1], false, 0⟩ : ScriptedSink) ⟨25.0, none⟩
    [.start source "clip", .surface .created, .sleep 100]
  obtain ⟨hclosed, hstart⟩ := hagain later
  exact ⟨hlater, hdrawable, hbare, hstart (hclosed hlater) source "clip" _ rfl fun _ => hdrawable⟩

end Player

end AviPlayback
