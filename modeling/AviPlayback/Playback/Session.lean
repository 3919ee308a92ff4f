import AviPlayback.Playback.Stage
import AviPlayback.Playback.Task

/-!
A playing session: one decoder handle, the published state, the surface and the worker that draws
on it. The calls check the order of a player's life; what a worker does is left to its loop.
-/
set_option autoImplicit false

namespace AviPlayback

structure PlayerOptions where
  /-- Used when the stream reports no usable frame rate. -/
  defaultFrameRate : Float
  /-- Each surface session ends after this many frames. -/
  maxFrames : Option Nat

namespace PlayerOptions

/-- Whether a number of frames reaches the limit. -/
def limitReached (o : PlayerOptions) (frames : Nat) : Bool := o.maxFrames.any (· ≤ frames)

end PlayerOptions

/-- The player's own hold on an opened decoder. -/
structure Handle where
  lease : Nat
  path : String
  deriving DecidableEq, Repr

/-- A playing session whose worker runs loops of type `L`. -/
structure Session (D S L : Type) where
  stage : Stage D S
  options : PlayerOptions
  cell : StateCell
  handle : Option Handle
  /-- A surface is there. -/
  surface : Bool
  /-- The worker of the surface, until it is joined. -/
  worker : Option (Task L TaskEvent)

namespace Session

variable {D S L : Type}

def new (sink : S) (options : PlayerOptions) : Session D S L :=
  ⟨.empty sink, options, .new, none, false, none⟩

def state (s : Session D S L) : PlaybackState := s.cell.state

def isOpen (s : Session D S L) : Bool := s.handle.isSome

def record (s : Session D S L) (e : Event) : Session D S L := { s with stage := s.stage.record e }

/-- Tries a move of the state; a change is published and recorded. -/
def transition (s : Session D S L) (f : Transition) : Except PlayerFault Unit × Session D S L :=
  let (result, cell) := s.cell.transition f
  let moved := { s with cell }
  (result, if cell.version = s.cell.version then moved else moved.record (.published cell.state))

/-- Tries a move of the state; a refused one is passed over. -/
def tryTransition (s : Session D S L) (f : Transition) : Session D S L := (s.transition f).2

/-- Opens a decoder, when none is open. -/
def openDecoder (s : Session D S L) (source : String → Except PlayerFault D) (path : String) :
    Except PlayerFault Handle × Session D S L :=
  if s.isOpen then (.error (.invalidState .alreadyStarted), s)
  else match source path with
    | .error fault => (.error fault, s.record .openRefused)
    | .ok d =>
      let handle : Handle := ⟨s.stage.nextLease, path⟩
      (.ok handle, { s with stage := s.stage.takeIn d, handle := some handle })

/-- Lets the decoder go and tells whether there was one. -/
def close (s : Session D S L) : Bool × Session D S L :=
  match s.handle with
  | some handle => (true, { s with stage := s.stage.release handle.lease, handle := none })
  | none => (false, s)

def info? [VideoDecoder D] (s : Session D S L) : Option StreamInfo :=
  s.handle.bind fun handle => s.stage.info? handle.lease

def pacer [VideoDecoder D] (s : Session D S L) : Except PlayerFault Pacer :=
  match s.info? with
  | some info => .ok (.withFallback info.frameRate s.options.defaultFrameRate)
  | none => .error (.invalidState .notOpen)

def beginSurface (s : Session D S L) : Except PlayerFault Unit × Session D S L :=
  if s.isOpen then
    match s.transition .surfaceReady with
    | (.ok _, s) => (.ok (), { s with surface := true })
    | refused => refused
  else (.error (.invalidState .surfaceBeforeStart), s)

/-- Starts a worker on the surface. A worker that is still in its loop would be left alone. -/
def beginRendering (s : Session D S L) (loop : L) : Except PlayerFault Unit × Session D S L :=
  if s.surface then
    match s.transition .beginRendering with
    | (.ok _, s) =>
      let s := if s.worker.any Task.isRunning then s.record .detached else s
      (.ok (), { s with worker := some (.running loop false) })
    | refused => refused
  else (.error (.invalidState .noSurface), s)

/-- The surface goes away: the loss is published, unless the stream had ended, and the worker is
told to stop. -/
def leaveSurface (s : Session D S L) : Session D S L :=
  if s.surface then
    let s := { s with surface := false }.tryTransition .surfaceLost
    { s with worker := s.worker.map Task.cancel }
  else s

def joinWorker (s : Session D S L) : Except PlayerFault (Option TaskEvent) × Session D S L :=
  match s.worker.bind Task.outcome? with
  | some outcome => (outcome.map some, { s with worker := none })
  | none => (.ok none, s)

def isQuiet (s : Session D S L) : Bool := s.worker.all Task.isFinished

/-- The surface goes away, and its worker is waited for. -/
def endSurface [Clocked (Session D S L)] (s : Session D S L) :
    Except PlayerFault (Option TaskEvent) × Session D S L :=
  if s.surface then (Clocked.await isQuiet 1 s.leaveSurface).joinWorker else (.ok none, s)

def closeAndReset (s : Session D S L) : Session D S L := s.close.2.tryTransition .reset

/-- Ends the surface, closes the decoder and returns to the start, also when the worker failed. -/
def shutdown [Clocked (Session D S L)] (s : Session D S L) :
    Except PlayerFault Unit × Session D S L :=
  let (joined, s) := s.endSurface
  (joined.map fun _ => (), s.closeAndReset)

def setLoop (s : Session D S L) (loop : L) (cancelled : Bool) : Session D S L :=
  { s with worker := some (.running loop cancelled) }

def leave (s : Session D S L) (event : TaskEvent) : Session D S L :=
  { s with worker := some (.finished event) }

def panic (s : Session D S L) : Session D S L := { s with worker := some .panicked }

end Session

namespace BodyLoop

variable {D S : Type}

def step? (s : Session D S BodyLoop) : Option (Session D S BodyLoop) :=
  match s.worker with
  | some (.running loop cancelled) =>
    match loop.move s.stage.now cancelled with
    | .wait => none
    | .go loop => some (s.setLoop loop cancelled)
    | .leave event => some (s.leave event)
    | .endStream => some ((s.tryTransition .streamEnded).leave .finished)
    | .panic => some s.panic
  | _ => none

instance : Clocked (Session D S BodyLoop) where
  now s := s.stage.now
  setNow s t := { s with stage := { s.stage with now := t } }
  step? := step?
  wake? s := s.worker.bind Task.bodyWake?
  patience _ := 4

end BodyLoop

end AviPlayback
