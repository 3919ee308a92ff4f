import AviPlayback.Playback.Session
import AviPlayback.Player.Renderer

/-!
The texture player: a pacing worker asks for one draw a pause, and a drawing worker answers the
requests in order. The renderer belongs to the drawing worker while a surface is there, and to the
player otherwise.
-/
set_option autoImplicit false

namespace AviPlayback

/-- A renderer together with its hold on the decoder it draws from. -/
structure Rig (R : Type) where
  lease : Nat
  renderer : R

/-- Where the pacing worker stands between two steps; `seq` counts the requests so far. It gives way
only at its pause. -/
inductive PaceLoop
  /-- About to see whether it was cancelled. -/
  | checking (pacer : Pacer) (seq : Nat)
  /-- About to ask for a draw. -/
  | sending (pacer : Pacer) (seq : Nat)
  /-- About to see whether the frame limit is reached. -/
  | sent (pacer : Pacer) (seq : Nat)
  | pausing (pacer : Pacer) (seq : Nat) (due : Nat)

/-- Where the drawing worker stands between two steps. It gives way only while it waits for a
request. -/
inductive DrawLoop (R : Type)
  /-- Waiting for a request, with those that came. -/
  | waiting (rig : Rig R) (queue : List Nat)
  /-- About to answer the request `seq`. -/
  | drawing (rig : Rig R) (seq : Nat) (queue : List Nat)
  /-- The stream has ended; about to stop the pacing worker too. -/
  | ending (rig : Rig R)

namespace DrawLoop

variable {R : Type}

def push (seq : Nat) : DrawLoop R → DrawLoop R
  | waiting rig queue => waiting rig (queue ++ [seq])
  | drawing rig n queue => drawing rig n (queue ++ [seq])
  | ending rig => ending rig

def pending : DrawLoop R → Nat
  | waiting _ queue | drawing _ _ queue => queue.length
  | ending _ => 0

end DrawLoop

/-- Which worker goes on first, with the number of waits it has come through at once. -/
inductive Turn
  | pacing (waits : Nat)
  | drawing (waits : Nat)
  deriving DecidableEq, Repr

namespace Turn

/-- A worker that never has to wait gives way at a wait after so many others. -/
def longest : Nat := 128

end Turn

structure TexturePlayer (D S R : Type) where
  session : Session D S PaceLoop
  /-- The renderer, while no surface has it. -/
  renderer : Option (Rig R)
  /-- The drawing worker of the surface, until it is joined. -/
  drawing : Option (Task (DrawLoop R) (Rig R))
  turn : Turn

namespace TexturePlayer

variable {D S R : Type}

def new (sink : S) (options : PlayerOptions) : TexturePlayer D S R :=
  ⟨.new sink options, none, none, .pacing 0⟩

def stage (p : TexturePlayer D S R) : Stage D S := p.session.stage

def setStage (p : TexturePlayer D S R) (stage : Stage D S) : TexturePlayer D S R :=
  { p with session := { p.session with stage } }

def hasRenderer (p : TexturePlayer D S R) : Bool := p.renderer.isSome || p.drawing.isSome

def tryTransition (p : TexturePlayer D S R) (f : Transition) : TexturePlayer D S R :=
  { p with session := p.session.tryTransition f }

/-! ### The pacing worker -/

def leavePacing (p : TexturePlayer D S R) (event : TaskEvent) : TexturePlayer D S R :=
  { p with session := p.session.leave event }

def setPacing (p : TexturePlayer D S R) (loop : PaceLoop) (cancelled : Bool) :
    TexturePlayer D S R :=
  { p with session := p.session.setLoop loop cancelled }

/-- Asks for a draw; without a drawing worker the pacing worker ends. -/
def request (p : TexturePlayer D S R) (pacer : Pacer) (seq : Nat) (cancelled : Bool) :
    TexturePlayer D S R :=
  match p.drawing with
  | some (.running loop told) =>
    let p := { p with drawing := some (.running (loop.push (seq + 1)) told) }
    (p.setStage (p.stage.record (.requested (seq + 1)))).setPacing (.sent pacer (seq + 1)) cancelled
  | _ => p.leavePacing .finished

def paceStep? (p : TexturePlayer D S R) : Option (TexturePlayer D S R) :=
  match p.session.worker with
  | some (.running loop cancelled) =>
    match loop with
    | .checking pacer seq =>
      some (if cancelled then p.leavePacing .cancelled
        else p.setPacing (.sending pacer seq) cancelled)
    | .sending pacer seq => some (p.request pacer seq cancelled)
    | .sent pacer seq =>
      some (if p.session.options.limitReached seq then
          (p.tryTransition .streamEnded).leavePacing .finished
        else p.setPacing (.pausing pacer seq (pacer.pauseEnd p.stage.now)) cancelled)
    | .pausing pacer seq due =>
      if cancelled then some (p.leavePacing .cancelled)
      else if due ≤ p.stage.now then some (p.setPacing (.checking pacer seq) cancelled)
      else none
  | _ => none

/-- When the pause of the pacing worker is over. -/
def wake? (p : TexturePlayer D S R) : Option Nat :=
  match p.session.worker with
  | some (.running (.pausing _ _ due) _) => some due
  | _ => none

/-! ### The drawing worker -/

def setDrawing (p : TexturePlayer D S R) (loop : DrawLoop R) (cancelled : Bool) :
    TexturePlayer D S R :=
  { p with drawing := some (.running loop cancelled) }

/-- The drawing worker leaves its loop and hands the renderer back. -/
def leaveDrawing (p : TexturePlayer D S R) (rig : Rig R) : TexturePlayer D S R :=
  { p with drawing := some (.finished rig) }

/-- Whether the pacing worker can still send requests. -/
def pacing (p : TexturePlayer D S R) : Bool := p.session.worker.any Task.isRunning

/-- Answers a request. The end of the stream is published. -/
def answer [FrameRenderer R D S] (p : TexturePlayer D S R) (rig : Rig R) (seq : Nat)
    (queue : List Nat) (cancelled : Bool) : TexturePlayer D S R :=
  let (outcome, renderer, stage) := (p.stage.record (.drawn seq)).draw rig.lease rig.renderer
  let p := p.setStage stage
  let rig := { rig with renderer }
  match outcome with
  | .more => p.setDrawing (.waiting rig queue) cancelled
  | .ended => (p.tryTransition .streamEnded).setDrawing (.ending rig) cancelled
  | .panicked => { p.setStage (p.stage.release rig.lease) with drawing := some .panicked }

def drawStep? [FrameRenderer R D S] (p : TexturePlayer D S R) : Option (TexturePlayer D S R) :=
  match p.drawing with
  | some (.running loop cancelled) =>
    match loop with
    | .waiting rig queue =>
      if cancelled then some (p.leaveDrawing rig)
      else match queue with
        | seq :: queue => some (p.setDrawing (.drawing rig seq queue) cancelled)
        | [] => if p.pacing then none else some (p.leaveDrawing rig)
    | .drawing rig seq queue => some (p.answer rig seq queue cancelled)
    | .ending rig =>
      let session := { p.session with worker := p.session.worker.map Task.cancel }
      some ({ p with session }.leaveDrawing rig)
  | _ => none

def pending (p : TexturePlayer D S R) : Nat :=
  match p.drawing with
  | some (.running loop _) => loop.pending
  | _ => 0

/-! ### Taking turns -/

def atPause (p : TexturePlayer D S R) : Bool :=
  match p.session.worker with
  | some (.running (.pausing _ _ _) _) => true
  | _ => false

def atQueue (p : TexturePlayer D S R) : Bool :=
  match p.drawing with
  | some (.running (.waiting _ _) _) => true
  | _ => false

/-- One step of the pacing worker in its turn, which ends at a pause after many others. -/
def paceTurn? (p : TexturePlayer D S R) (waits : Nat) : Option (TexturePlayer D S R) :=
  if p.atPause && Turn.longest ≤ waits then none
  else p.paceStep?.map fun q => { q with turn := .pacing (waits + p.atPause.toNat) }

/-- One step of the drawing worker in its turn, which ends at the queue after many requests. -/
def drawTurn? [FrameRenderer R D S] (p : TexturePlayer D S R) (waits : Nat) :
    Option (TexturePlayer D S R) :=
  if p.atQueue && Turn.longest ≤ waits then none
  else p.drawStep?.map fun q => { q with turn := .drawing (waits + p.atQueue.toNat) }

/-- One step of a worker that can go on. The worker whose turn it is comes first, then the other
one. -/
def step? [FrameRenderer R D S] (p : TexturePlayer D S R) : Option (TexturePlayer D S R) :=
  match p.turn with
  | .pacing waits => (p.paceTurn? waits).or ((p.drawTurn? 0).or (p.paceTurn? 0))
  | .drawing waits => (p.drawTurn? waits).or ((p.paceTurn? 0).or (p.drawTurn? 0))

instance [FrameRenderer R D S] : Clocked (TexturePlayer D S R) where
  now p := p.stage.now
  setNow p t := p.setStage { p.stage with now := t }
  step? := step?
  wake? := wake?
  patience p := 8 * (p.session.options.maxFrames.getD UInt32.size + p.pending + 4)

/-! ### Calls -/

/-- Lets the decoder of an idle renderer go. -/
def dropRenderer (p : TexturePlayer D S R) : TexturePlayer D S R :=
  match p.renderer with
  | some rig => { p.setStage (p.stage.release rig.lease) with renderer := none }
  | none => p

/-- Opens the decoder and creates its renderer; without a renderer the decoder is closed again,
except after a panic. -/
def start [VideoDecoder D] (p : TexturePlayer D S R) (source : String → Except PlayerFault D)
    (create : StreamInfo → Except PlayerFault R) (path : String) :
    Except PlayerFault Unit × TexturePlayer D S R :=
  match p.session.openDecoder source path with
  | (.error fault, session) => (.error fault, { p with session })
  | (.ok handle, session) =>
    match session.info?.map create with
    | some (.ok renderer) =>
      let session := { session with
        stage := (session.stage.share handle.lease).record (.rendererCreated handle.lease) }
      (.ok (), { { p with session }.dropRenderer with renderer := some ⟨handle.lease, renderer⟩ })
    | some (.error fault) =>
      (.error fault, { p with session := if fault.isPanic then session else session.close.2 })
    | none => (.error (.invalidState .notOpen), { p with session })

def spawnWorkers (p : TexturePlayer D S R) (pacer : Pacer) (rig : Rig R) :
    Except PlayerFault Unit × TexturePlayer D S R :=
  match p.session.beginRendering (.checking pacer 0) with
  | (.error fault, session) => (.error fault, { p with session }.dropRenderer)
  | (.ok _, session) =>
    let session := if p.drawing.any Task.isRunning then session.record .detached else session
    (.ok (), {
      session, renderer := none, drawing := some (.running (.waiting rig []) false),
      turn := .pacing 0 })

/-- A surface appeared. Without an idle renderer it is ignored; a panic of the renderer loses it. -/
def created [VideoDecoder D] [FrameRenderer R D S] (p : TexturePlayer D S R) :
    Except PlayerFault Unit × TexturePlayer D S R :=
  match p.renderer, p.session.pacer with
  | none, _ => (.ok (), p)
  | some _, .error fault => (.error fault, p.dropRenderer)
  | some rig, .ok pacer =>
    match FrameRenderer.initSurface D S rig.renderer with
    | (.error fault, renderer) =>
      (.error fault, if fault.isPanic then p.dropRenderer
        else { p with renderer := some { rig with renderer } })
    | (.ok _, renderer) =>
      let rig := { rig with renderer }
      let p := { p with renderer := some rig }
      match p.session.beginSurface with
      | (.error fault, session) => (.error fault, { p with session })
      | (.ok _, session) => { p with session }.spawnWorkers pacer rig

def changed (p : TexturePlayer D S R) : Except PlayerFault Unit × TexturePlayer D S R := (.ok (), p)

/-- The surface goes away: the loss is published, unless the stream had ended, and both workers
are told to stop. -/
def leaveSurface (p : TexturePlayer D S R) : TexturePlayer D S R :=
  if p.session.surface then
    { p with session := p.session.leaveSurface, drawing := p.drawing.map Task.cancel }
  else p

def isQuiet (p : TexturePlayer D S R) : Bool :=
  p.session.isQuiet && p.drawing.all Task.isFinished

/-- Takes the renderer back from a drawing worker that has left its loop. One that panicked has
lost it. -/
def joinDrawing (p : TexturePlayer D S R) : TexturePlayer D S R :=
  match p.drawing with
  | some (.finished rig) => { p with renderer := some rig, drawing := none }
  | some .panicked => { p with drawing := none }
  | _ => p

def destroyed [FrameRenderer R D S] (p : TexturePlayer D S R) :
    Except PlayerFault Unit × TexturePlayer D S R :=
  if p.session.surface then
    let p := Clocked.await isQuiet 1 p.leaveSurface
    let (joined, session) := p.session.joinWorker
    (joined.map fun _ => (), { p with session }.joinDrawing)
  else (.ok (), (Clocked.await isQuiet 1 p).joinDrawing)

/-- Gives the renderer up. -/
def freeRenderer (p : TexturePlayer D S R) : TexturePlayer D S R :=
  match p.renderer with
  | some rig =>
    let stage := (p.stage.record (.rendererFreed rig.lease)).release rig.lease
    { p.setStage stage with renderer := none }
  | none => p

def stop [FrameRenderer R D S] (p : TexturePlayer D S R) :
    Except PlayerFault Unit × TexturePlayer D S R :=
  let (joined, p) := p.destroyed
  let p := p.freeRenderer
  (joined, { p with session := p.session.closeAndReset })

/-- The player is dropped without being stopped: decoder and renderer are let go and the workers
are told to stop, and do so. -/
def abandon [FrameRenderer R D S] (p : TexturePlayer D S R) : TexturePlayer D S R :=
  let session := p.session.close.2
  let session := { session with worker := session.worker.map Task.cancel }
  let told := { p with session, drawing := p.drawing.map Task.cancel }
  (Clocked.settle told.dropRenderer).joinDrawing.dropRenderer

end TexturePlayer

end AviPlayback
