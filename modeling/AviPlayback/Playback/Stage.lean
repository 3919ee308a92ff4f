import AviPlayback.Playback.Decoder
import AviPlayback.Playback.Sink
import AviPlayback.Playback.State

/-!
What a player shares with its workers: the decoders that were opened, each with the number of
its holders, the surface, the clock, and the record of all that happened. A decoder is released
when its last holder lets go.
-/
set_option autoImplicit false

namespace AviPlayback

/-- Something that happened while playing. A decoder is named by its place in opening order. -/
inductive Event
  | opened (decoder : Nat)
  | openRefused
  /-- A worker had the decoder to itself. -/
  | used (decoder : Nat)
  | released (decoder : Nat)
  | published (state : PlaybackState)
  /-- A draw was asked for, with its number in the surface session. -/
  | requested (seq : Nat)
  /-- A draw was begun, with the number of its request. -/
  | drawn (seq : Nat)
  | presented (picture : PixelBuffer)
  | resized (width height : Nat)
  | rendererCreated (decoder : Nat)
  | rendererFreed (decoder : Nat)
  /-- A worker that was still in its loop lost its player. -/
  | detached
  deriving DecidableEq

/-- Something that happened, with its time. -/
structure Moment where
  time : Nat
  event : Event
  deriving DecidableEq

/-- An opened decoder with the number of its holders. -/
structure Lease (D : Type) where
  decoder : D
  holders : Nat

namespace Lease

variable {D : Type}

/-- Whether somebody still holds the decoder. -/
def isHeld (l : Lease D) : Bool := l.holders != 0

end Lease

/-- What a player shares with its workers. -/
structure Stage (D S : Type) where
  leases : List (Lease D)
  sink : S
  now : Nat
  /-- The record, latest first. -/
  history : List Moment

namespace Stage

variable {D S : Type}

def empty (sink : S) : Stage D S := ⟨[], sink, 0, []⟩

def record (s : Stage D S) (e : Event) : Stage D S :=
  { s with history := ⟨s.now, e⟩ :: s.history }

def log (s : Stage D S) : List Moment := s.history.reverse

def count (s : Stage D S) (p : Event → Bool) : Nat := s.history.countP fun m => p m.event

def opens (s : Stage D S) : Nat :=
  s.count fun
    | .opened _ | .openRefused => true
    | _ => false

def drops (s : Stage D S) : Nat :=
  s.count fun
    | .released _ => true
    | _ => false

def nextLease (s : Stage D S) : Nat := s.leases.length

/-- Takes in a decoder that was opened, with one holder. -/
def takeIn (s : Stage D S) (d : D) : Stage D S :=
  let lease : Lease D := ⟨d, 1⟩
  { s with leases := s.leases ++ [lease] }.record (.opened s.nextLease)

def decoder? (s : Stage D S) (lease : Nat) : Option D := s.leases[lease]?.map Lease.decoder

def share (s : Stage D S) (lease : Nat) : Stage D S :=
  { s with leases := s.leases.modify lease fun l => { l with holders := l.holders + 1 } }

/-- A holder lets go; the last one releases the decoder. -/
def release (s : Stage D S) (lease : Nat) : Stage D S :=
  match s.leases[lease]? with
  | none => s
  | some l =>
    let s := { s with leases := s.leases.set lease { l with holders := l.holders - 1 } }
    if l.holders = 1 then s.record (.released lease) else s

/-- Puts a decoder in the place of one that was used. -/
def putDecoder (s : Stage D S) (lease : Nat) (d : D) : Stage D S :=
  { s with leases := s.leases.modify lease fun l => { l with decoder := d } }.record (.used lease)

/-- Changes all decoders, held or not. -/
def mapDecoders (s : Stage D S) (f : D → D) : Stage D S :=
  { s with leases := s.leases.map fun l => { l with decoder := f l.decoder } }

def info? [VideoDecoder D] (s : Stage D S) (lease : Nat) : Option StreamInfo :=
  (s.decoder? lease).map VideoDecoder.info

def present [FrameSink S] (s : Stage D S) (picture : PixelBuffer) : Shown × Stage D S :=
  let (shown, sink) := FrameSink.present s.sink picture
  (shown, { s with sink }.record (.presented picture))

def resize [FrameSink S] (s : Stage D S) (width height : Nat) :
    Except PlayerFault Unit × Stage D S :=
  let (result, sink) := FrameSink.resize s.sink width height
  (result, { s with sink }.record (.resized width height))

end Stage

end AviPlayback
