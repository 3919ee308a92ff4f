import AviPlayback.Fault
import AviPlayback.Playback.Clock

/-!
Workers. A `Task` is a spawned loop and, once it has left its loop, what it left; `Body` has the
loops whose course is known beforehand, and `SoloTask` is one worker alone with its clock.
-/
set_option autoImplicit false

namespace AviPlayback

/-- How a worker left its loop. -/
inductive TaskEvent
  /-- It was cancelled from outside. -/
  | cancelled
  /-- It came to its own end. -/
  | finished
  deriving DecidableEq, Repr

namespace TaskEvent

def name : TaskEvent → String
  | cancelled => "Cancelled"
  | finished => "Finished"

end TaskEvent

/-- A worker: its loop, with whether it has been told to stop, or what the loop left. -/
inductive Task (L A : Type)
  | running (loop : L) (cancelled : Bool)
  | finished (result : A)
  | panicked
  deriving DecidableEq, Repr

namespace Task

variable {L A : Type}

def isRunning : Task L A → Bool
  | running _ _ => true
  | _ => false

def isFinished (t : Task L A) : Bool := !t.isRunning

def cancel : Task L A → Task L A
  | running loop _ => running loop true
  | t => t

/-- What joining a worker gives, once it has left its loop. -/
def outcome? : Task L A → Option (Except PlayerFault A)
  | running _ _ => none
  | finished a => some (.ok a)
  | panicked => some (.error .worker)

end Task

/-- A worker body whose course is known beforehand. -/
inductive Body
  /-- Runs until it is cancelled. -/
  | untilCancelled
  /-- Finishes after some milliseconds, unless it is cancelled before. -/
  | finishAfter (ms : Nat)
  /-- Panics after some milliseconds, cancelled or not. -/
  | panicAfter (ms : Nat)
  /-- Ends the stream after some milliseconds, as its last step, unless it is cancelled before. -/
  | endAfter (ms : Nat)
  deriving DecidableEq, Repr

/-- A body before its first step, or waiting for its time. -/
inductive BodyLoop
  | spawned (body : Body)
  | waiting (body : Body) (due : Nat)
  deriving DecidableEq, Repr

namespace BodyLoop

/-- When a body that starts now is over, if it ends by itself. -/
def dueFrom (now : Nat) : Body → Nat
  | .untilCancelled => now
  | .finishAfter ms | .panicAfter ms | .endAfter ms => waitEnd now ms

/-- What a body does next. -/
inductive Move
  | wait
  | go (loop : BodyLoop)
  | leave (event : TaskEvent)
  | endStream
  | panic
  deriving DecidableEq, Repr

def move (now : Nat) (cancelled : Bool) : BodyLoop → Move
  | spawned body => .go (waiting body (dueFrom now body))
  | waiting .untilCancelled _ => if cancelled then .leave .cancelled else .wait
  | waiting (.finishAfter _) due =>
    if cancelled then .leave .cancelled else if due ≤ now then .leave .finished else .wait
  | waiting (.panicAfter _) due => if due ≤ now then .panic else .wait
  | waiting (.endAfter _) due =>
    if cancelled then .leave .cancelled else if due ≤ now then .endStream else .wait

/-- When a waiting body goes on by itself. -/
def wake? : BodyLoop → Option Nat
  | spawned _ | waiting .untilCancelled _ => none
  | waiting _ due => some due

end BodyLoop

/-- When a task with a known body goes on by itself. -/
def Task.bodyWake? {A : Type} : Task BodyLoop A → Option Nat
  | .running loop _ => loop.wake?
  | _ => none

/-- One worker with its clock, its own cancellation and that of its parent. -/
structure SoloTask where
  now : Nat
  /-- The worker, until it has been joined. -/
  worker : Option (Task BodyLoop TaskEvent)
  cancelled : Bool
  rootCancelled : Bool
  deriving DecidableEq, Repr

namespace SoloTask

def spawn (body : Body) : SoloTask := ⟨0, some (.running (.spawned body) false), false, false⟩

def step? (s : SoloTask) : Option SoloTask :=
  match s.worker with
  | some (.running loop cancelled) =>
    match loop.move s.now cancelled with
    | .wait => none
    | .go loop => some { s with worker := some (.running loop cancelled) }
    | .leave event => some { s with worker := some (.finished event) }
    | .endStream => some { s with worker := some (.finished .finished) }
    | .panic => some { s with worker := some .panicked }
  | _ => none

instance : Clocked SoloTask where
  now := SoloTask.now
  setNow s t := { s with now := t }
  step? := step?
  wake? s := s.worker.bind Task.bodyWake?
  patience _ := 4

def isDone (s : SoloTask) : Bool := s.worker.all Task.isFinished

/-- Whether the worker's token is cancelled, by itself or through its parent. -/
def isCancelled (s : SoloTask) : Bool := s.cancelled || s.rootCancelled

def cancel (s : SoloTask) : SoloTask :=
  if s.worker.isSome then { s with worker := s.worker.map Task.cancel, cancelled := true } else s

def cancelRoot (s : SoloTask) : SoloTask :=
  { s with worker := s.worker.map Task.cancel, rootCancelled := true }

def join (s : SoloTask) : Option (Except PlayerFault TaskEvent) × SoloTask :=
  let s := Clocked.await isDone 1 s
  (s.worker.bind Task.outcome?, { s with worker := none })

def stop (s : SoloTask) : Option (Except PlayerFault TaskEvent) × SoloTask := s.cancel.join

end SoloTask

end AviPlayback
