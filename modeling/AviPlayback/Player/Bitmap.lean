import AviPlayback.Playback.Session
import AviPlayback.Player.Blitter

/-!
The bitmap player: one worker converts each frame into a picture and shows it, once a pause. A
frame that cannot be read or converted shows the picture before it again.
-/
set_option autoImplicit false

namespace AviPlayback

/-- What the worker of a bitmap player carries from frame to frame. -/
structure Blit where
  lease : Nat
  pacer : Pacer
  blitter : Blitter
  picture : PixelBuffer
  frames : Nat

/-- Where the worker of a bitmap player stands between two steps. It gives way only before its start
and at its pause. -/
inductive BlitLoop
  | spawned (lease : Nat) (pacer : Pacer)
  /-- About to see whether it was cancelled. -/
  | checking (b : Blit)
  /-- About to show the next picture. -/
  | drawing (b : Blit)
  | pausing (b : Blit) (due : Nat)

abbrev BitmapPlayer (D S : Type) : Type := Session D S BlitLoop

namespace Blit

variable {D S : Type}

/-- Reads the next frame over the picture, and tells whether that was a panic. -/
def refresh [FrameReader D S] (b : Blit) (stage : Stage D S) : Bool × Blit × Stage D S :=
  match stage.decoder? b.lease with
  | none => (false, b, stage)
  | some d =>
    let r := b.blitter.renderFrame stage.sink d b.picture
    (r.panicked, { b with blitter := r.blitter, picture := r.picture },
      stage.putDecoder b.lease r.decoder)

end Blit

namespace BitmapPlayer

variable {D S : Type}

def leaveLoop (p : BitmapPlayer D S) (lease : Nat) (event : TaskEvent) : BitmapPlayer D S :=
  { p with stage := p.stage.release lease }.leave event

def endLoop (p : BitmapPlayer D S) (lease : Nat) : BitmapPlayer D S :=
  leaveLoop (p.tryTransition .streamEnded) lease .finished

/-- The worker panics and lets the decoder go. -/
def panicLoop (p : BitmapPlayer D S) (lease : Nat) : BitmapPlayer D S :=
  { p with stage := p.stage.release lease }.panic

/-- The worker starts: it allocates its picture, or gives up when that is too large. -/
def startLoop [VideoDecoder D] (p : BitmapPlayer D S) (lease : Nat) (pacer : Pacer)
    (cancelled : Bool) : BitmapPlayer D S :=
  match p.stage.info? lease with
  | none => endLoop p lease
  | some info =>
    match PixelBuffer.tryNew info.width info.height, Blitter.ofInfo info with
    | .error .unallocatable, _ => panicLoop p lease
    | .error _, _ => endLoop p lease
    | .ok _, .error _ => panicLoop p lease
    | .ok picture, .ok blitter =>
      p.setLoop (.checking ⟨lease, pacer, blitter, picture, 0⟩) cancelled

def showPicture [FrameSink S] (p : BitmapPlayer D S) (b : Blit) (cancelled : Bool) : BitmapPlayer D S :=
  let (shown, stage) := p.stage.present b.picture
  let p := { p with stage }
  if shown = .panicked then panicLoop p b.lease
  else
    let b := { b with frames := b.frames + 1 }
    if p.options.limitReached b.frames then endLoop p b.lease
    else p.setLoop (.pausing b (b.pacer.pauseEnd p.stage.now)) cancelled

def tick [FrameReader D S] [FrameSink S] (p : BitmapPlayer D S) (b : Blit) (cancelled : Bool) :
    BitmapPlayer D S :=
  let (panicked, b, stage) := b.refresh p.stage
  let p := { p with stage }
  if panicked then panicLoop p b.lease else showPicture p b cancelled

def step? [VideoDecoder D] [FrameReader D S] [FrameSink S] (p : BitmapPlayer D S) :
    Option (BitmapPlayer D S) :=
  match p.worker with
  | some (.running loop cancelled) =>
    match loop with
    | .spawned lease pacer => some (startLoop p lease pacer cancelled)
    | .checking b =>
      some (if cancelled then leaveLoop p b.lease .cancelled else p.setLoop (.drawing b) cancelled)
    | .drawing b => some (tick p b cancelled)
    | .pausing b due =>
      if cancelled then some (leaveLoop p b.lease .cancelled)
      else if due ≤ p.stage.now then some (p.setLoop (.checking b) cancelled)
      else none
  | _ => none

/-- When the worker's pause is over. -/
def wake? (p : BitmapPlayer D S) : Option Nat :=
  match p.worker with
  | some (.running (.pausing _ due) _) => some due
  | _ => none

instance [VideoDecoder D] [FrameReader D S] [FrameSink S] : Clocked (BitmapPlayer D S) where
  now p := p.stage.now
  setNow p t := { p with stage := { p.stage with now := t } }
  step? := step?
  wake? := wake?
  patience p := 4 * (p.options.maxFrames.getD 0 + 4)

def start (p : BitmapPlayer D S) (source : String → Except PlayerFault D) (path : String) :
    Except PlayerFault Unit × BitmapPlayer D S :=
  let (r, p) := p.openDecoder source path
  (r.map fun _ => (), p)

def created [VideoDecoder D] (p : BitmapPlayer D S) : Except PlayerFault Unit × BitmapPlayer D S :=
  match p.handle, p.pacer with
  | none, _ => (.ok (), p)
  | some _, .error fault => (.error fault, p)
  | some handle, .ok pacer =>
    match p.beginSurface with
    | (.ok _, p) =>
      { p with stage := p.stage.share handle.lease }.beginRendering (.spawned handle.lease pacer)
    | refused => refused

def changed [FrameSink S] (p : BitmapPlayer D S) (width height : Nat) :
    Except PlayerFault Unit × BitmapPlayer D S :=
  let (r, stage) := p.stage.resize width height
  (r, { p with stage })

def destroyed [VideoDecoder D] [FrameReader D S] [FrameSink S] (p : BitmapPlayer D S) :
    Except PlayerFault Unit × BitmapPlayer D S :=
  let (joined, p) := p.endSurface
  (joined.map fun _ => (), p)

def stop [VideoDecoder D] [FrameReader D S] [FrameSink S] (p : BitmapPlayer D S) :
    Except PlayerFault Unit × BitmapPlayer D S := p.shutdown

/-- The player is dropped without being stopped: the decoder is let go and the worker is told to
stop, and does so. -/
def abandon [VideoDecoder D] [FrameReader D S] [FrameSink S] (p : BitmapPlayer D S) :
    BitmapPlayer D S :=
  let p := p.close.2
  Clocked.settle { p with worker := p.worker.map Task.cancel }

end BitmapPlayer

end AviPlayback
