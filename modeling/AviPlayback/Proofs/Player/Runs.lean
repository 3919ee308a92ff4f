import AviPlayback.Player.Any
import AviPlayback.Proofs.Player.BitmapCalls
import AviPlayback.Proofs.Player.TextureCalls

/-!
Runs of a player of either kind: calls in any order, with any delays between them, while the workers
do their steps. Whatever happens, the player stays sound (`Player.sound_run`), and a player that was
stopped stays closed until it is started again.
-/
set_option autoImplicit false

namespace AviPlayback

namespace Player

/-- What can happen to a player. -/
inductive Move (D : Type)
  | start (source : String → Except PlayerFault D) (path : String)
  | surface (event : SurfaceEvent)
  | stop
  /-- One step of a worker, if one can go on. -/
  | work
  /-- Some milliseconds pass, with the work that falls due. -/
  | sleep (ms : Nat)
  /-- Something changes the decoders from outside. -/
  | alter (f : D → D)

def Move.isStart {D : Type} : Move D → Bool
  | start _ _ => true
  | _ => false

variable {D S : Type}

theorem mode_new (mode : RenderMode) (sink : S) (options : PlayerOptions) :
    (new mode sink options : Player D S).mode = mode := by
  cases mode <;> rfl

/-- Changes all decoders, held or not. -/
def mapDecoders (f : D → D) : Player D S → Player D S
  | bitmap p => bitmap { p with stage := p.stage.mapDecoders f }
  | texture p => texture (p.setStage (p.stage.mapDecoders f))

def hasDecoder : Player D S → Bool
  | bitmap p => p.isOpen
  | texture p => p.session.isOpen

def hasSurface : Player D S → Bool
  | bitmap p => Session.surface p
  | texture p => p.session.surface

def hasWorker : Player D S → Bool
  | bitmap p => (Session.worker p).isSome
  | texture p => p.session.worker.isSome || p.drawing.isSome

def hasRenderer : Player D S → Bool
  | bitmap _ => false
  | texture p => p.hasRenderer

/-- What holds of a player at every moment of its life. -/
def Sound : Player D S → Prop
  | bitmap p => BitmapPlayer.Sound p
  | texture p => p.Sound

/-- A player without a decoder and without a surface. -/
def Closed : Player D S → Prop
  | bitmap p => BitmapPlayer.Closed p
  | texture p => p.Closed

theorem Closed.sound {p : Player D S} (h : Closed p) : Sound p := by
  cases p with
  | bitmap p => exact BitmapPlayer.Closed.sound h
  | texture p => exact TexturePlayer.Closed.sound h

theorem Sound.closed {p : Player D S} (h : Sound p) (hdecoder : p.hasDecoder = false) :
    Closed p := by
  cases p with
  | bitmap p =>
    have hhandle := Option.isNone_iff_eq_none.mp (Option.isSome_eq_false_iff.mp hdecoder)
    exact BitmapPlayer.closed_of_no_handle h hhandle
  | texture p =>
    have hhandle := Option.isNone_iff_eq_none.mp (Option.isSome_eq_false_iff.mp hdecoder)
    exact TexturePlayer.closed_of_no_handle h hhandle

theorem Closed.hasDecoder {p : Player D S} (h : Closed p) : p.hasDecoder = false := by
  cases p with
  | bitmap p => simp [Player.hasDecoder, Session.isOpen, BitmapPlayer.Closed.handle h]
  | texture p => simp [Player.hasDecoder, Session.isOpen, TexturePlayer.Closed.handle h]

theorem sound_new (mode : RenderMode) (sink : S) (options : PlayerOptions) :
    Sound (new mode sink options : Player D S) := by
  cases mode with
  | bitmap => exact BitmapPlayer.sound_new sink options
  | gl => exact TexturePlayer.sound_new sink options

/-- The accounts of a sound player are in order. -/
theorem Sound.held {p : Player D S} (h : Sound p) : ∃ holds, p.stage.Held holds := by
  cases p with
  | bitmap p => exact ⟨_, BitmapPlayer.Sound.held h⟩
  | texture p => exact ⟨_, TexturePlayer.Sound.held h⟩

theorem Closed.held {p : Player D S} (h : Closed p) : p.stage.Held [] := by
  cases p with
  | bitmap p => exact BitmapPlayer.Closed.held h
  | texture p => exact TexturePlayer.Closed.held h

theorem sound_mapDecoders {p : Player D S} (h : Sound p) (f : D → D) : Sound (p.mapDecoders f) := by
  cases p with
  | bitmap p => exact BitmapPlayer.sound_mapDecoders h f
  | texture p => exact TexturePlayer.sound_mapDecoders h f

theorem closed_mapDecoders {p : Player D S} (h : Closed p) (f : D → D) :
    Closed (p.mapDecoders f) := by
  cases p with
  | bitmap p => exact { h with sound := BitmapPlayer.sound_mapDecoders h.sound f }
  | texture p => exact { h with sound := TexturePlayer.sound_mapDecoders h.sound f }

variable [VideoDecoder D] [FrameReader D S] [FrameSink S] {p q : Player D S}

def after (p : Player D S) : Move D → Player D S
  | .start source path => (p.start source path).2
  | .surface event => (p.onSurface event).2
  | .stop => p.stop.2
  | .work => (Clocked.step? p).getD p
  | .sleep ms => Clocked.sleep p ms
  | .alter f => p.mapDecoders f

theorem mode_step? (hstep : Clocked.step? p = some q) : q.mode = p.mode := by
  cases p with
  | bitmap p =>
    obtain ⟨r, _, rfl⟩ := Option.map_eq_some_iff.mp hstep
    rfl
  | texture p =>
    obtain ⟨r, _, rfl⟩ := Option.map_eq_some_iff.mp hstep
    rfl

theorem mode_setNow (p : Player D S) (t : Nat) : (Clocked.setNow p t).mode = p.mode := by
  cases p <;> rfl

theorem mode_after (p : Player D S) (m : Move D) : (p.after m).mode = p.mode := by
  cases m with
  | start | stop | alter => cases p <;> rfl
  | surface event => cases p <;> cases event <;> rfl
  | work =>
    rw [after]
    cases hstep : Clocked.step? p with
    | none => rfl
    | some q => exact mode_step? hstep
  | sleep ms =>
    exact Clocked.sleep_keeps (P := fun q : Player D S => q.mode = p.mode)
      (fun hq hstep => (mode_step? hstep).trans hq) (fun t hq => (mode_setNow _ t).trans hq) rfl ms

theorem mode_run (p : Player D S) (moves : List (Move D)) :
    (moves.foldl after p).mode = p.mode := by
  induction moves generalizing p with
  | nil => rfl
  | cons m rest ih => exact (ih _).trans (mode_after p m)

theorem sound_step? (h : Sound p) (hstep : Clocked.step? p = some q) : Sound q := by
  cases p with
  | bitmap p =>
    obtain ⟨r, hr, rfl⟩ := Option.map_eq_some_iff.mp hstep
    exact BitmapPlayer.sound_step? h hr
  | texture p =>
    obtain ⟨r, hr, rfl⟩ := Option.map_eq_some_iff.mp hstep
    exact TexturePlayer.sound_step? h hr

theorem closed_step? (h : Closed p) (hstep : Clocked.step? p = some q) : Closed q := by
  cases p with
  | bitmap p =>
    obtain ⟨r, hr, rfl⟩ := Option.map_eq_some_iff.mp hstep
    exact BitmapPlayer.closed_step? h hr
  | texture p =>
    obtain ⟨r, hr, rfl⟩ := Option.map_eq_some_iff.mp hstep
    exact TexturePlayer.closed_step? h hr

theorem sound_setNow (h : Sound p) (t : Nat) : Sound (Clocked.setNow p t) := by
  cases p with
  | bitmap p => exact BitmapPlayer.sound_setNow h t
  | texture p => exact TexturePlayer.sound_setNow h t

theorem closed_setNow (h : Closed p) (t : Nat) : Closed (Clocked.setNow p t) := by
  cases p with
  | bitmap p => exact { h with sound := BitmapPlayer.sound_setNow h.sound t }
  | texture p => exact { h with sound := TexturePlayer.sound_setNow h.sound t }

theorem sound_after (h : Sound p) (m : Move D) : Sound (p.after m) := by
  cases m with
  | start source path =>
    cases p with
    | bitmap p => exact BitmapPlayer.sound_start h source path
    | texture p => exact TexturePlayer.sound_start h source TextureRenderer.create path
  | surface event =>
    cases p with
    | bitmap p =>
      cases event with
      | created => exact BitmapPlayer.sound_created h
      | changed width height => exact BitmapPlayer.sound_changed h width height
      | destroyed => exact BitmapPlayer.sound_destroyed h
    | texture p =>
      cases event with
      | created => exact TexturePlayer.sound_created h
      | changed width height => exact h
      | destroyed => exact TexturePlayer.sound_destroyed h
  | stop =>
    cases p with
    | bitmap p => exact (BitmapPlayer.stopped_stop h).closed.sound
    | texture p => exact (TexturePlayer.stopped_stop h).closed.sound
  | work =>
    rw [after]
    cases hstep : Clocked.step? p with
    | none => exact h
    | some q => exact sound_step? h hstep
  | sleep ms =>
    exact Clocked.sleep_keeps (P := Sound) sound_step? (fun t hp => sound_setNow hp t) h ms
  | alter f => exact sound_mapDecoders h f

/-- Whatever happens, a player stays sound. -/
theorem sound_run (h : Sound p) (moves : List (Move D)) : Sound (moves.foldl after p) := by
  induction moves generalizing p with
  | nil => exact h
  | cons m rest ih => exact ih (sound_after h m)

theorem closed_stop (h : Sound p) : Closed p.stop.2 ∧ p.stop.2.state = .idle := by
  cases p with
  | bitmap p => exact ⟨(BitmapPlayer.stopped_stop h).closed, (BitmapPlayer.stopped_stop h).state⟩
  | texture p =>
    exact ⟨(TexturePlayer.stopped_stop h).closed, (TexturePlayer.stopped_stop h).state⟩

theorem closed_after (h : Closed p) {m : Move D} (hm : m.isStart = false) : Closed (p.after m) := by
  cases m with
  | start source path => cases hm
  | surface event =>
    cases p with
    | bitmap p =>
      cases event with
      | created => exact BitmapPlayer.closed_created h
      | changed width height =>
        exact { h with sound := BitmapPlayer.sound_changed h.sound width height }
      | destroyed => exact BitmapPlayer.closed_destroyed h
    | texture p =>
      cases event with
      | created => exact TexturePlayer.closed_created h
      | changed width height => exact h
      | destroyed => exact TexturePlayer.closed_destroyed h
  | stop => exact (closed_stop h.sound).1
  | work =>
    rw [after]
    cases hstep : Clocked.step? p with
    | none => exact h
    | some q => exact closed_step? h hstep
  | sleep ms =>
    exact Clocked.sleep_keeps (P := Closed) closed_step? (fun t hp => closed_setNow hp t) h ms
  | alter f => exact closed_mapDecoders h f

theorem closed_run (h : Closed p) {moves : List (Move D)}
    (hmoves : ∀ m ∈ moves, m.isStart = false) : Closed (moves.foldl after p) := by
  induction moves generalizing p with
  | nil => exact h
  | cons m rest ih =>
    exact ih (closed_after h (hmoves m List.mem_cons_self)) fun m hm =>
      hmoves m (List.mem_cons_of_mem _ hm)

end Player

end AviPlayback
