import AviPlayback.Fault

/-!
The state of a frame loop. `PlaybackState` has the five phases and the moves between them, and
`StateCell` publishes the current one: a move is tried on a candidate, and only a successful one
that changes the state is published and noticed by subscribers.
-/
set_option autoImplicit false

namespace AviPlayback

inductive PlaybackState
  /-- No surface and no worker. -/
  | idle
  /-- A surface exists and its worker is about to start. -/
  | surfaceReady
  /-- The worker produces frames. -/
  | rendering
  /-- The surface went away. -/
  | surfaceLost
  /-- The decoder ran out of frames, or the frame limit was reached. -/
  | streamEnded
  deriving DecidableEq, Repr, Inhabited

namespace PlaybackState

def name : PlaybackState → String
  | idle => "Idle"
  | surfaceReady => "SurfaceReady"
  | rendering => "Rendering"
  | surfaceLost => "SurfaceLost"
  | streamEnded => "StreamEnded"

def isPlaying (s : PlaybackState) : Bool := s == rendering

def isFinished (s : PlaybackState) : Bool := s == surfaceLost || s == streamEnded

end PlaybackState

/-- A move tried on a candidate state: whether it is allowed, and the candidate afterwards. -/
abbrev Transition : Type := PlaybackState → Except PlayerFault Unit × PlaybackState

namespace Transition

/-- Refuses a move. -/
def refuse (misuse : Misuse) (s : PlaybackState) : Except PlayerFault Unit × PlaybackState :=
  (.error (.invalidState misuse), s)

/-- A surface appeared: allowed while no session is active. -/
def surfaceReady : Transition
  | .idle | .surfaceLost | .streamEnded => (.ok (), .surfaceReady)
  | s => refuse .surfaceWhileActive s

/-- The worker starts: allowed once the surface is ready. -/
def beginRendering : Transition
  | .surfaceReady => (.ok (), .rendering)
  | s => refuse .renderWithoutSurfaceReady s

/-- The surface went away: allowed while a session is active. -/
def surfaceLost : Transition
  | .surfaceReady | .rendering => (.ok (), .surfaceLost)
  | s => refuse .loseWithoutSession s

/-- The stream ended: allowed while rendering. -/
def streamEnded : Transition
  | .rendering => (.ok (), .streamEnded)
  | s => refuse .endWithoutRendering s

def reset : Transition := fun _ => (.ok (), .idle)

/-- Several moves on one candidate; the first refused one ends them. -/
def chain : List Transition → Transition
  | [], s => (.ok (), s)
  | f :: rest, s =>
    match f s with
    | (.ok _, s) => chain rest s
    | refused => refused

end Transition

/-- A published state, with the number of changes published so far. -/
structure StateCell where
  state : PlaybackState
  version : Nat
  deriving DecidableEq, Repr

namespace StateCell

def new : StateCell := ⟨.idle, 0⟩

instance : Inhabited StateCell := ⟨new⟩

/-- Tries a move. A refused move leaves the cell as it was, and a move that ends where it began
publishes nothing. -/
def transition (c : StateCell) (f : Transition) : Except PlayerFault Unit × StateCell :=
  match f c.state with
  | (.ok _, next) => (.ok (), if next = c.state then c else ⟨next, c.version + 1⟩)
  | (.error fault, _) => (.error fault, c)

/-- Tries a move and tells whether it changed the state; a refused move is passed over. -/
def tryTransition (c : StateCell) (f : Transition) : Bool × StateCell :=
  let (result, next) := c.transition f
  (result.toBool && next.state != c.state, next)

def reset (c : StateCell) : StateCell := (c.transition .reset).2

end StateCell

/-- A look at a cell's changes: how many had been published when it was last looked at. -/
structure Subscription where
  seen : Nat
  deriving DecidableEq, Repr

namespace Subscription

def of (c : StateCell) : Subscription := ⟨c.version⟩

def hasChanged (s : Subscription) (c : StateCell) : Bool := s.seen != c.version

end Subscription

@[simp] theorem StateCell.transition_error {c : StateCell} {f : Transition} {fault : PlayerFault}
    {s : PlaybackState} (h : f c.state = (.error fault, s)) :
    c.transition f = (.error fault, c) := by
  simp [StateCell.transition, h]

end AviPlayback
