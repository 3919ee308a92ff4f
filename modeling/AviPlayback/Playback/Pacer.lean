import AviPlayback.Playback.Clock

/-!
Pacing. The delay between frames is fixed when a session starts, from the stream's frame rate,
and never adjusted.
-/
set_option autoImplicit false

namespace AviPlayback

/-- A frame rate and the whole milliseconds between its frames. -/
structure Pacer where
  frameRate : Float
  delay : Nat

namespace Pacer

/-- The frame rate assumed when a stream reports none. -/
def defaultFrameRate : Float := 25.0

def usable (rate : Float) : Bool := rate.isFinite && 0.0 < rate

/-- The first usable rate of the reported one, the fallback and the default. -/
def effectiveRate (rate fallback : Float) : Float :=
  if usable rate then rate else if usable fallback then fallback else defaultFrameRate

/-- The milliseconds between frames, truncated, and at most the largest 64-bit number. -/
def delayOf (rate : Float) : Nat := (1000.0 / rate).toUInt64.toNat

/-- Paces at a rate, or at the fallback when the rate cannot be used. -/
def withFallback (rate fallback : Float) : Pacer :=
  let effective := effectiveRate rate fallback
  ⟨effective, delayOf effective⟩

def ofFrameRate (rate : Float) : Pacer := withFallback rate defaultFrameRate

/-- When a pause that starts at `now` is over, if it is not cut short. -/
def pauseEnd (p : Pacer) (now : Nat) : Nat := waitEnd now p.delay

/-- One pause from `now` on, with a cancellation at a given time: whether the pause was completed,
and when it ended. A pause that is over when the cancellation comes is complete. -/
def pause (p : Pacer) (cancelAt : Option Nat) (now : Nat) : Bool × Nat :=
  match cancelAt with
  | none => (true, p.pauseEnd now)
  | some cancelled =>
    if cancelled ≤ now then (false, now)
    else if cancelled < p.pauseEnd now then (false, cancelled)
    else (true, p.pauseEnd now)

/-- Consecutive pauses. -/
def pauses (p : Pacer) (cancelAt : Option Nat) : Nat → Nat → List (Bool × Nat)
  | 0, _ => []
  | times + 1, now =>
    let done := p.pause cancelAt now
    done :: pauses p cancelAt times done.2

end Pacer

end AviPlayback
