/-!
Work on a clock. A machine does steps at the current time until none is possible, and time moves
only then, straight to the moment when a waiting task can go on. `settle` runs a machine at the
current time, `sleep` lets time pass, and `await` waits for something to be done. Nobody waits
longer than thirty years at a time.
-/
set_option autoImplicit false

namespace AviPlayback

/-- The longest wait in milliseconds: thirty years of 365 days. -/
def longestWait : Nat := 30 * 365 * 24 * 60 * 60 * 1000

/-- When a wait of some milliseconds that starts at `now` is over. -/
def waitEnd (now ms : Nat) : Nat := now + min ms longestWait

/-- A machine whose tasks run on a clock. -/
class Clocked (M : Type) where
  /-- The current time in milliseconds. -/
  now : M → Nat
  /-- Sets the clock. -/
  setNow : M → Nat → M
  /-- One step of a task that can go on at the current time. -/
  step? : M → Option M
  /-- When the first waiting task can go on. -/
  wake? : M → Option Nat
  /-- How many steps are done at one time before time passes all the same. -/
  patience : M → Nat

namespace Clocked

variable {M : Type} [Clocked M]

/-- Up to `fuel` steps at the current time. -/
def steps : Nat → M → M
  | 0, m => m
  | fuel + 1, m =>
    match step? m with
    | some m => steps fuel m
    | none => m

def isSettled (m : M) : Bool := (step? m).isNone

def settle (m : M) : M := steps (patience m) m

/-- Lets time pass up to `target`, with the work that falls due before it. Work that falls due at
`target` itself is left. -/
def sleepUntil (target : Nat) : Nat → M → M
  | 0, m => setNow m target
  | fuel + 1, m =>
    let m := settle m
    match wake? m with
    | some t =>
      if now m < t ∧ t < target then sleepUntil target fuel (setNow m t) else setNow m target
    | none => setNow m target

def sleep (m : M) (ms : Nat) : M := sleepUntil (waitEnd (now m) ms) ms m

/-- Waits until something is done: work at the current time first, then, up to `fuel` times, the
work of the next moment at which there is some. -/
def await (done : M → Bool) : Nat → M → M
  | 0, m => settle m
  | fuel + 1, m =>
    let m := settle m
    if done m then m
    else match wake? m with
      | some t => await done fuel (setNow m t)
      | none => m

end Clocked

end AviPlayback
