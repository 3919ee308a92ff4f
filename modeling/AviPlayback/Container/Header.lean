import AviPlayback.Container.FlagSet
import AviPlayback.Fault

/-!
The header records of a video file: the main header (`avih`), a stream header (`strh`) and the
bitmap description of a video stream (`strf`). Each record has a shortest length, a parser that
refuses shorter payloads and ignores what follows, and an encoder.
-/
set_option autoImplicit false

namespace AviPlayback

open LittleEndian

structure MainHeader where
  microSecPerFrame : UInt32
  maxBytesPerSec : UInt32
  paddingGranularity : UInt32
  flags : MainFlags
  totalFrames : UInt32
  initialFrames : UInt32
  streams : UInt32
  suggestedBufferSize : UInt32
  width : UInt32
  height : UInt32
  deriving DecidableEq, Inhabited

namespace MainHeader

/-- The shortest payload; the four reserved words after it may be absent. -/
def minLength : Nat := 40

def parse (payload : List UInt8) : Except ContainerFault MainHeader :=
  if payload.length < minLength then .error (.invalidChunk .shortMainHeader)
  else .ok {
    microSecPerFrame := uint32At payload 0
    maxBytesPerSec := uint32At payload 4
    paddingGranularity := uint32At payload 8
    flags := .ofBits (uint32At payload 12)
    totalFrames := uint32At payload 16
    initialFrames := uint32At payload 20
    streams := uint32At payload 24
    suggestedBufferSize := uint32At payload 28
    width := uint32At payload 32
    height := uint32At payload 36 }

def encode (h : MainHeader) : List UInt8 :=
  ofUInt32 h.microSecPerFrame ++ ofUInt32 h.maxBytesPerSec ++ ofUInt32 h.paddingGranularity ++
  ofUInt32 h.flags.bits ++ ofUInt32 h.totalFrames ++ ofUInt32 h.initialFrames ++
  ofUInt32 h.streams ++ ofUInt32 h.suggestedBufferSize ++ ofUInt32 h.width ++ ofUInt32 h.height

end MainHeader

structure StreamHeader where
  /-- The kind of stream: `vids`, `auds`, `txts`, ... -/
  type : FourCc
  /-- The codec, such as `DIB ` or `MJPG`. -/
  handler : FourCc
  flags : UInt32
  priority : UInt16
  language : UInt16
  initialFrames : UInt32
  scale : UInt32
  rate : UInt32
  start : UInt32
  length : UInt32
  suggestedBufferSize : UInt32
  quality : Int32
  sampleSize : UInt32
  deriving DecidableEq, Inhabited

namespace StreamHeader

def minLength : Nat := 48

def parse (payload : List UInt8) : Except ContainerFault StreamHeader :=
  if payload.length < minLength then .error (.invalidChunk .shortStreamHeader)
  else .ok {
    type := .readFrom payload 0
    handler := .readFrom payload 4
    flags := uint32At payload 8
    priority := uint16At payload 12
    language := uint16At payload 14
    initialFrames := uint32At payload 16
    scale := uint32At payload 20
    rate := uint32At payload 24
    start := uint32At payload 28
    length := uint32At payload 32
    suggestedBufferSize := uint32At payload 36
    quality := int32At payload 40
    sampleSize := uint32At payload 44 }

def encode (h : StreamHeader) : List UInt8 :=
  h.type.toBytes ++ h.handler.toBytes ++ ofUInt32 h.flags ++ ofUInt16 h.priority ++
  ofUInt16 h.language ++ ofUInt32 h.initialFrames ++ ofUInt32 h.scale ++ ofUInt32 h.rate ++
  ofUInt32 h.start ++ ofUInt32 h.length ++ ofUInt32 h.suggestedBufferSize ++
  ofUInt32 h.quality.toUInt32 ++ ofUInt32 h.sampleSize

def isVideo (h : StreamHeader) : Bool := h.type == .vids

/-- Frames per second, when both the rate and the scale are given. -/
def frameRate? (h : StreamHeader) : Option Float :=
  if h.scale = 0 ∨ h.rate = 0 then none
  else some (h.rate.toFloat / h.scale.toFloat)

end StreamHeader

structure BitmapInfo where
  size : UInt32
  width : Int32
  /-- Positive when the last row is stored first. -/
  height : Int32
  planes : UInt16
  bitCount : UInt16
  compression : UInt32
  sizeImage : UInt32
  xPixelsPerMeter : Int32
  yPixelsPerMeter : Int32
  colorsUsed : UInt32
  colorsImportant : UInt32
  /-- The red, green and blue masks, when they are given. -/
  masks : Option (UInt32 × UInt32 × UInt32)
  deriving DecidableEq, Inhabited

namespace BitmapInfo

def minLength : Nat := 40

def masksLength : Nat := 12

/-- The compression tag of plain pixels. -/
def plain : UInt32 := 0

/-- The compression tag of pixels described by masks. -/
def bitFields : UInt32 := 3

/-- The masks after the record, when the compression tag calls for them and they are there. -/
def parseMasks (payload : List UInt8) : Option (UInt32 × UInt32 × UInt32) :=
  if uint32At payload 16 = bitFields ∧ minLength + masksLength ≤ payload.length then
    some (uint32At payload 40, uint32At payload 44, uint32At payload 48)
  else none

def parse (payload : List UInt8) : Except ContainerFault BitmapInfo :=
  if payload.length < minLength then .error (.invalidChunk .shortBitmapInfo)
  else .ok {
    size := uint32At payload 0
    width := int32At payload 4
    height := int32At payload 8
    planes := uint16At payload 12
    bitCount := uint16At payload 14
    compression := uint32At payload 16
    sizeImage := uint32At payload 20
    xPixelsPerMeter := int32At payload 24
    yPixelsPerMeter := int32At payload 28
    colorsUsed := uint32At payload 32
    colorsImportant := uint32At payload 36
    masks := parseMasks payload }

def encodeMasks : Option (UInt32 × UInt32 × UInt32) → List UInt8
  | some (red, green, blue) => ofUInt32 red ++ ofUInt32 green ++ ofUInt32 blue
  | none => []

def encode (h : BitmapInfo) : List UInt8 :=
  ofUInt32 h.size ++ ofUInt32 h.width.toUInt32 ++ ofUInt32 h.height.toUInt32 ++
  ofUInt16 h.planes ++ ofUInt16 h.bitCount ++ ofUInt32 h.compression ++ ofUInt32 h.sizeImage ++
  ofUInt32 h.xPixelsPerMeter.toUInt32 ++ ofUInt32 h.yPixelsPerMeter.toUInt32 ++
  ofUInt32 h.colorsUsed ++ ofUInt32 h.colorsImportant ++ encodeMasks h.masks

/-- Whether the last row is stored first. -/
def isBottomUp (h : BitmapInfo) : Bool := 0 < h.height.toInt

/-- The green mask of five, six and five bits. -/
def greenOf565 : UInt32 := 0x07e0

/-- The pixel layout that the compression tag and the depth stand for. -/
def pixelLayout (h : BitmapInfo) : PixelLayout :=
  if h.compression = plain then
    match h.bitCount.toNat with
    | 16 => .rgb555
    | 24 => .bgr24
    | 32 => .bgrx32
    | bits => .unsupported bits
  else if h.compression = bitFields then
    match h.bitCount.toNat with
    | 16 => match h.masks with
      | some (_, green, _) => if green = greenOf565 then .rgb565 else .rgb555
      | none => .rgb565
    | 32 => .bgrx32
    | bits => .unsupported bits
  else .compressed (.ofUInt32 h.compression)

end BitmapInfo

end AviPlayback
