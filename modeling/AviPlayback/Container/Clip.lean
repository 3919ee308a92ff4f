import AviPlayback.Container.FrameIndex
import AviPlayback.Container.HeaderList
import AviPlayback.Frame.FrameLayout
import AviPlayback.Number.Binary64

/-!
A video file opened for playing. `Clip.ofBytes` reads the headers and the frame index of a file
in memory, and `Clip.readFrame` gives the frames of its first video stream one after another.
-/
set_option autoImplicit false

namespace AviPlayback

/-- A video file with its headers, its frame index and the frame to be read next. -/
structure Clip where
  file : Bytes
  main : MainHeader
  stream : StreamHeader
  format : BitmapInfo
  number : UInt16
  index : FrameIndex
  position : Nat
  deriving DecidableEq

/-- What the top level of a file has told so far. -/
structure TopLevel where
  main : Option MainHeader
  video : Option VideoStream
  /-- Where the list of frame data has its type code, and where it ends. -/
  movi : Option (Nat × Nat)
  idx1 : Option (List UInt8)

namespace TopLevel

/-- Takes one chunk of the top level into account. The last header list counts, and the first
list of frame data and the first index. -/
def add (file : Bytes) (stop : Nat) (t : TopLevel) (h : ChunkHeader) :
    Except ContainerFault TopLevel :=
  if h.id = .list then do
    let type ← h.readListType file
    let listStop := min h.stop stop
    if type = .hdrl then
      let headers ← HeaderList.read file (h.offset + 4) listStop
      pure { t with main := headers.main, video := headers.video }
    else if type = .movi ∧ t.movi.isNone then
      pure { t with movi := some (h.offset, listStop) }
    else pure t
  else if h.id = .idx1 ∧ t.idx1.isNone then do
    let payload ← h.readPayload file file.size
    pure { t with idx1 := some payload }
  else pure t

def read (file : Bytes) (pos stop : Nat) : Except ContainerFault TopLevel :=
  foldChunks file pos stop ⟨none, none, none, none⟩ (add file stop)

/-- The index of a stream: from the index chunk, or else, when there is none or it has no record
of the stream, from the list of frame data. -/
def frameIndex (t : TopLevel) (file : Bytes) (movi : Nat × Nat) (stream : Nat) :
    Except ContainerFault FrameIndex := do
  let index ← match t.idx1 with
    | some payload => FrameIndex.ofRecords payload movi.1 stream file.size
    | none => pure ⟨[]⟩
  if index.entries.isEmpty then FrameIndex.scan file (movi.1 + 4) movi.2 stream
  else pure index

end TopLevel

namespace Clip

def maxDimension : Nat := 16384

/-- The width of the pictures: that of the stream's format, or else of the main header. -/
def width (c : Clip) : Nat :=
  if c.format.width.toInt.natAbs = 0 then c.main.width.toNat else c.format.width.toInt.natAbs

/-- The height of the pictures: that of the stream's format, or else of the main header. -/
def height (c : Clip) : Nat :=
  if c.format.height.toInt.natAbs = 0 then c.main.height.toNat else c.format.height.toInt.natAbs

def checkDimensions (c : Clip) : Except ContainerFault Unit :=
  if c.width = 0 ∨ c.height = 0 then .error (.invalidChunk .emptyPicture)
  else if maxDimension < c.width ∨ maxDimension < c.height then
    .error (.invalidChunk .hugePicture)
  else .ok ()

/-- The outermost chunk of a file, when the file is a `RIFF` file with a form type. -/
def readRiff (file : Bytes) : Except ContainerFault (ChunkHeader × FourCc) :=
  match ChunkHeader.read file 0 with
  | .error _ => .error .notRiff
  | .ok riff =>
    if riff.id = .riff then
      match riff.readListType file with
      | .ok form => .ok (riff, form)
      | .error _ => .error .notRiff
    else .error .notRiff

/-- Opens a file. The size of the outermost chunk is not trusted past the end of the file. -/
def ofBytes (file : Bytes) : Except ContainerFault Clip := do
  let (riff, form) ← readRiff file
  if form ≠ .avi then throw (.notAvi form.display)
  let top ← TopLevel.read file (riff.offset + 4) (min riff.stop file.size)
  let some main := top.main | throw (.missingHeader "avih")
  let some video := top.video | throw .noVideoStream
  let some movi := top.movi | throw (.missingHeader "movi")
  let index ← top.frameIndex file movi video.number.toNat
  let clip : Clip := ⟨file, main, video.header, video.format, video.number, index, 0⟩
  clip.checkDimensions
  pure clip

/-- Frames per second; zero when the headers give no timing. -/
def frameRate (c : Clip) : Float :=
  match c.stream.frameRate? with
  | some rate => rate
  | none =>
    if c.main.microSecPerFrame = 0 then 0.0 else 1000000.0 / c.main.microSecPerFrame.toFloat

def frameCount (c : Clip) : Nat := c.index.length

/-- The playing time in nanoseconds at the nominal frame rate. -/
def durationNs (c : Clip) : Nat :=
  if c.frameRate ≤ 0.0 then 0
  else Binary64.nanoseconds (c.frameCount.toFloat / c.frameRate)

def layout (c : Clip) : FrameLayout where
  width := c.width
  height := c.height
  pixels := c.format.pixelLayout
  bottomUp := c.format.isBottomUp

/-- The size of the largest frame; a buffer of this size fits every frame. -/
def maxFrameSize (c : Clip) : Nat := c.index.maxFrameSize

def entry (c : Clip) (frame : Nat) : Except ContainerFault FrameEntry :=
  match c.index.get? frame with
  | some e => .ok e
  | none => .error (.frameOutOfRange frame c.frameCount)

def frameSize (c : Clip) (frame : Nat) : Except ContainerFault Nat :=
  (c.entry frame).map fun e => e.size.toNat

def isKeyframe (c : Clip) (frame : Nat) : Except ContainerFault Bool :=
  (c.entry frame).map FrameEntry.isKeyframe

/-- Moves to a frame; the place after the last frame is allowed. -/
def seek (c : Clip) (frame : Nat) : Except ContainerFault Clip :=
  if c.frameCount < frame then .error (.frameOutOfRange frame c.frameCount)
  else .ok { c with position := frame }

def rewind (c : Clip) : Clip := { c with position := 0 }

/-- Overwrites the front of a buffer. -/
def overwriteFront (buffer : Bytes) (payload : List UInt8) : Bytes :=
  payload.toArray ++ buffer.extract payload.length buffer.size

/-- The next frame for a buffer of some size, empty past the last frame, and the clip moved on. -/
def nextFrame (c : Clip) (capacity : Nat) : Except ContainerFault (List UInt8) × Clip :=
  match c.index.get? c.position with
  | none => (.ok [], c)
  | some e =>
    let size := e.size.toNat
    if capacity < size then (.error (.truncated "frame buffer" size capacity), c)
    else match readAt c.file e.offset size with
      | none => (.error (.file .shortRead), c)
      | some payload => (.ok payload, { c with position := c.position + 1 })

/-- Copies the next frame to the front of a buffer and moves on. Gives the number of bytes
written, zero past the last frame, together with the buffer and the clip afterwards. -/
def readFrame (c : Clip) (buffer : Bytes) : Except ContainerFault Nat × Bytes × Clip :=
  match c.nextFrame buffer.size with
  | (.ok payload, c) => (.ok payload.length, overwriteFront buffer payload, c)
  | (.error fault, c) => (.error fault, buffer, c)

end Clip

end AviPlayback
