import AviPlayback.Container.Chunk
import AviPlayback.Container.Header

/-!
The header list of a video file: the main header, and the first video stream with its number
among the streams.
-/
set_option autoImplicit false

namespace AviPlayback

/-- Runs `f` over the chunks between `pos` and `stop`, in order; a fault of `f` comes before a
fault of the walk behind it. -/
def foldChunks {σ : Type} (file : Bytes) (pos stop : Nat) (init : σ)
    (f : σ → ChunkHeader → Except ContainerFault σ) : Except ContainerFault σ :=
  let (headers, fault) := walk file pos stop
  match headers.foldlM f init, fault with
  | .ok s, none => .ok s
  | .ok _, some fault => .error fault
  | .error fault, _ => .error fault

/-- The stream that is played. -/
structure VideoStream where
  number : UInt16
  header : StreamHeader
  format : BitmapInfo
  deriving DecidableEq

/-- The two chunks of a stream list; the last one of each kind counts. -/
structure StreamList where
  header : Option StreamHeader
  format : Option (List UInt8)

namespace StreamList

def add (file : Bytes) (stop : Nat) (s : StreamList) (h : ChunkHeader) :
    Except ContainerFault StreamList :=
  if h.id = .strh then do
    let header ← StreamHeader.parse (← h.readPayload file stop)
    pure { s with header := some header }
  else if h.id = .strf then do
    let payload ← h.readPayload file stop
    pure { s with format := some payload }
  else pure s

def read (file : Bytes) (pos stop : Nat) : Except ContainerFault StreamList :=
  foldChunks file pos stop ⟨none, none⟩ (add file stop)

/-- The video stream that the chunks describe, if they describe one. -/
def video? (s : StreamList) (number : UInt16) : Except ContainerFault (Option VideoStream) :=
  match s.header with
  | none => .ok none
  | some header =>
    if header.isVideo then
      match s.format with
      | some payload => (BitmapInfo.parse payload).map fun format => some ⟨number, header, format⟩
      | none => .error (.missingHeader "strf")
    else .ok none

end StreamList

/-- What a header list has told so far. -/
structure HeaderList where
  main : Option MainHeader
  video : Option VideoStream
  /-- The number that the next stream gets. -/
  count : UInt16

namespace HeaderList

/-- Takes one stream list into account. Streams after the first video stream are only counted. -/
def addStream (file : Bytes) (stop : Nat) (l : HeaderList) (h : ChunkHeader) :
    Except ContainerFault HeaderList :=
  let counted := { l with count := l.count + 1 }
  if l.video.isSome then .ok counted
  else do
    let streams ← StreamList.read file (h.offset + 4) (min h.stop stop)
    let video ← streams.video? l.count
    pure { counted with video }

def add (file : Bytes) (stop : Nat) (l : HeaderList) (h : ChunkHeader) :
    Except ContainerFault HeaderList :=
  if h.id = .avih then do
    let main ← MainHeader.parse (← h.readPayload file stop)
    pure { l with main := some main }
  else if h.id = .list then do
    if (← h.readListType file) = .strl then addStream file stop l h else pure l
  else pure l

def read (file : Bytes) (pos stop : Nat) : Except ContainerFault HeaderList :=
  foldChunks file pos stop ⟨none, none, 0⟩ (add file stop)

end HeaderList

end AviPlayback
