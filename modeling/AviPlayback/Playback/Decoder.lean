import AviPlayback.Container.Clip
import AviPlayback.Playback.Pacer

/-!
Decoders: streams of raw frames. A clip is one; a scripted decoder gives frames from a list.
Where a frame is read may matter: a decoder can look at what surrounds it, such as the files that
a surface writes to.
-/
set_option autoImplicit false

namespace AviPlayback

/-- What a decoder reports about its stream. -/
structure StreamInfo where
  width : Nat
  height : Nat
  frameRate : Float
  layout : FrameLayout
  /-- No frame is larger. -/
  maxFrameSize : Nat

/-- A stream of raw frames. -/
class VideoDecoder (D : Type) where
  info : D → StreamInfo
  /-- The number of frames, when it is known. -/
  frameCount? : D → Option Nat

/-- Decoders that can be read where there is a `W`. -/
class FrameReader (D W : Type) where
  /-- The next frame for a buffer of some size; an empty frame at the end of the stream. -/
  read : W → D → Nat → Except PlayerFault Bytes × D

/-- What reading a frame comes to. -/
inductive Fetched
  /-- No frame: the stream is over, or its next frame cannot be read. -/
  | nothing
  | frame (payload : Bytes)
  | panicked
  deriving DecidableEq

namespace FrameReader

variable {D W : Type}

def fetch [FrameReader D W] (w : W) (d : D) (capacity : Nat) : Fetched × D :=
  match read w d capacity with
  | (.ok payload, d) => (if payload.isEmpty then .nothing else .frame payload, d)
  | (.error fault, d) => (if fault.isPanic then .panicked else .nothing, d)

end FrameReader

/-- A buffer of some size whose bytes are zero where nothing was written. -/
structure Scratch where
  size : Nat
  written : Bytes
  deriving DecidableEq

namespace Scratch

def zeroed (size : Nat) : Scratch := ⟨size, #[]⟩

/-- A buffer of zero bytes; more than one buffer can have cause a panic. -/
def tryZeroed (size : Nat) : Except PictureFault Scratch :=
  if bufferLimit ≤ size then .error .unallocatable else .ok (zeroed size)

theorem tryZeroed_of_lt {size : Nat} (h : size < bufferLimit) :
    tryZeroed size = .ok (zeroed size) := if_neg (Nat.not_le.mpr h)

def overwrite (s : Scratch) (payload : Bytes) : Scratch :=
  { s with written := payload ++ s.written.extract payload.size s.written.size }

/-- The first `n` bytes that were written. -/
def front (s : Scratch) (n : Nat) : Bytes := s.written.extract 0 n

theorem front_overwrite (s : Scratch) (payload : Bytes) :
    (s.overwrite payload).front payload.size = payload := by
  simp [front, overwrite]

end Scratch

namespace Clip

def info (c : Clip) : StreamInfo :=
  ⟨c.width, c.height, c.frameRate, c.layout, c.maxFrameSize⟩

def read (c : Clip) (capacity : Nat) : Except PlayerFault Bytes × Clip :=
  match c.nextFrame capacity with
  | (.ok payload, c) => (.ok payload.toArray, c)
  | (.error fault, c) => (.error (.decode fault), c)

instance : VideoDecoder Clip := ⟨info, fun c => some c.frameCount⟩

instance {W : Type} : FrameReader Clip W := ⟨fun _ => read⟩

end Clip

inductive ScriptedRead
  | payload (bytes : Bytes)
  | endOfStream
  | failure (text : String)
  deriving DecidableEq

/-- A decoder that answers from a list. -/
structure ScriptedDecoder where
  info : StreamInfo
  reads : List ScriptedRead
  /-- After its last answer it starts again. -/
  loops : Bool
  position : Nat

namespace ScriptedDecoder

def next (d : ScriptedDecoder) : ScriptedRead × ScriptedDecoder :=
  let moved := { d with position := d.position + 1 }
  let i := if d.loops then d.position % d.reads.length else d.position
  (d.reads.getD i .endOfStream, moved)

def read (d : ScriptedDecoder) (capacity : Nat) : Except PlayerFault Bytes × ScriptedDecoder :=
  match d.next with
  | (.payload bytes, d) =>
    if capacity < bytes.size then (.error (.ofText "mock frame too large"), d) else (.ok bytes, d)
  | (.endOfStream, d) => (.ok #[], d)
  | (.failure text, d) => (.error (.ofText text), d)

instance : VideoDecoder ScriptedDecoder := ⟨info, fun _ => none⟩

instance {W : Type} : FrameReader ScriptedDecoder W := ⟨fun _ => read⟩

end ScriptedDecoder

instance {A B : Type} [VideoDecoder A] [VideoDecoder B] : VideoDecoder (A ⊕ B) where
  info
    | .inl a => VideoDecoder.info a
    | .inr b => VideoDecoder.info b
  frameCount?
    | .inl a => VideoDecoder.frameCount? a
    | .inr b => VideoDecoder.frameCount? b

instance {A B W : Type} [FrameReader A W] [FrameReader B W] : FrameReader (A ⊕ B) W where
  read w d capacity :=
    match d with
    | .inl a => (FrameReader.read w a capacity).map id .inl
    | .inr b => (FrameReader.read w b capacity).map id .inr

end AviPlayback
