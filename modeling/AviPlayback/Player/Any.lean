import AviPlayback.Player.Bitmap
import AviPlayback.Player.Texture
import AviPlayback.Settings.Choice

/-!
A player of either kind, under one set of calls.
-/
set_option autoImplicit false

namespace AviPlayback

/-- A player of either kind. -/
inductive Player (D S : Type)
  | bitmap (player : BitmapPlayer D S)
  | texture (player : TexturePlayer D S TextureRenderer)

namespace Player

variable {D S : Type}

def new (mode : RenderMode) (sink : S) (options : PlayerOptions) : Player D S :=
  match mode with
  | .bitmap => bitmap (.new sink options)
  | .gl => texture (.new sink options)

def mode : Player D S → RenderMode
  | bitmap _ => .bitmap
  | texture _ => .gl

def stage : Player D S → Stage D S
  | bitmap p => p.stage
  | texture p => p.stage

def cell : Player D S → StateCell
  | bitmap p => p.cell
  | texture p => p.session.cell

def state (p : Player D S) : PlaybackState := p.cell.state

def start [VideoDecoder D] (p : Player D S) (source : String → Except PlayerFault D)
    (path : String) : Except PlayerFault Unit × Player D S :=
  match p with
  | bitmap p => (BitmapPlayer.start p source path).map id bitmap
  | texture p => (p.start source TextureRenderer.create path).map id texture

def onSurface [VideoDecoder D] [FrameReader D S] [FrameSink S] (p : Player D S)
    (event : SurfaceEvent) : Except PlayerFault Unit × Player D S :=
  match p, event with
  | bitmap p, .created => (BitmapPlayer.created p).map id bitmap
  | bitmap p, .changed width height => (BitmapPlayer.changed p width height).map id bitmap
  | bitmap p, .destroyed => (BitmapPlayer.destroyed p).map id bitmap
  | texture p, .created => p.created.map id texture
  | texture p, .changed _ _ => p.changed.map id texture
  | texture p, .destroyed => p.destroyed.map id texture

def stop [VideoDecoder D] [FrameReader D S] [FrameSink S] (p : Player D S) :
    Except PlayerFault Unit × Player D S :=
  match p with
  | bitmap p => (BitmapPlayer.stop p).map id bitmap
  | texture p => p.stop.map id texture

instance [VideoDecoder D] [FrameReader D S] [FrameSink S] : Clocked (Player D S) where
  now p := p.stage.now
  setNow
    | bitmap p, t => bitmap (Clocked.setNow p t)
    | texture p, t => texture (Clocked.setNow p t)
  step?
    | bitmap p => (Clocked.step? p).map bitmap
    | texture p => (Clocked.step? p).map texture
  wake?
    | bitmap p => Clocked.wake? p
    | texture p => Clocked.wake? p
  patience
    | bitmap p => Clocked.patience p
    | texture p => Clocked.patience p

end Player

end AviPlayback
