import AviPlayback.OsError
import AviPlayback.Text.Quoted
import AviPlayback.Frame.PixelLayout

/-!
What can go wrong. A container that cannot be read gives a `ContainerFault`, everything a player
reports is a `PlayerFault`; both name a cause, and the wording of every cause is in one `message`
function for each type.
-/
set_option autoImplicit false

namespace AviPlayback

inductive FileFault
  /-- The stream ended inside a read. -/
  | shortRead
  /-- The operating system refused. -/
  | os (code : Int)
  /-- Any other reason, in words. -/
  | described (text : String)
  deriving DecidableEq, Repr

namespace FileFault

def message : FileFault → String
  | shortRead => "failed to fill whole buffer"
  | os code => s!"{OsError.text code} (os error {code})"
  | described text => text

def kindName : FileFault → String
  | shortRead => "UnexpectedEof"
  | os 2 => "NotFound"
  | os 1 | os 13 => "PermissionDenied"
  | os 17 => "AlreadyExists"
  | os 20 => "NotADirectory"
  | os 21 => "IsADirectory"
  | os 22 => "InvalidInput"
  | os 36 => "InvalidFilename"
  | os 39 => "DirectoryNotEmpty"
  | os _ => "Uncategorized"
  | described _ => "InvalidInput"

def debug (f : FileFault) : String :=
  match f with
  | os code =>
    s!"Os \x7b code: {code}, kind: {f.kindName}, message: {Text.quoted (OsError.text code)} \x7d"
  | f => s!"Error \x7b kind: {f.kindName}, message: {Text.quoted f.message} \x7d"

end FileFault

/-- Why a chunk cannot be interpreted. -/
inductive ChunkDefect
  | shortMainHeader
  | shortStreamHeader
  | shortBitmapInfo
  /-- The video stream has no width or no height. -/
  | emptyPicture
  /-- The video stream is wider or higher than any surface. -/
  | hugePicture
  | described (text : String)
  deriving DecidableEq, Repr

namespace ChunkDefect

def message : ChunkDefect → String
  | shortMainHeader => "avih shorter than 40 bytes"
  | shortStreamHeader => "strh shorter than 48 bytes"
  | shortBitmapInfo => "strf shorter than 40 bytes"
  | emptyPicture => "video frame has no width or height"
  | hugePicture => "video frame is too large"
  | described text => text

end ChunkDefect

/-- Why a container cannot be read. -/
inductive ContainerFault
  /-- The file does not start with a `RIFF` chunk. -/
  | notRiff
  /-- The form type is not `AVI `. -/
  | notAvi (form : String)
  /-- A required header chunk is absent. -/
  | missingHeader (name : String)
  /-- No stream is a video stream. -/
  | noVideoStream
  /-- A chunk claims more bytes than its file or its parent holds. -/
  | truncated (chunk : String) (needed available : Nat)
  /-- A chunk cannot be interpreted. -/
  | invalidChunk (defect : ChunkDefect)
  /-- A frame past the end of the index was asked for. -/
  | frameOutOfRange (frame count : Nat)
  /-- The file cannot be read. -/
  | file (fault : FileFault)
  deriving DecidableEq, Repr

namespace ContainerFault

def message : ContainerFault → String
  | notRiff => "not a RIFF file"
  | notAvi form => s!"RIFF form type is {Text.quoted form}, expected " ++ Text.quoted "AVI "
  | missingHeader name => s!"missing {name} chunk"
  | noVideoStream => "no video stream"
  | truncated chunk needed available =>
    s!"truncated {chunk} chunk: need {needed} bytes, {available} available"
  | invalidChunk defect => s!"invalid chunk: {defect.message}"
  | frameOutOfRange frame count => s!"frame {frame} out of range (stream has {count} frames)"
  | file fault => s!"i/o error: {fault.message}"

end ContainerFault

/-- Why a texture or its renderer refused. -/
inductive RendererFault
  /-- The stream has no frame with a payload. -/
  | noFrameSize
  | uploadMismatch (width height frameWidth frameHeight : Nat)
  | targetMismatch (width height cropWidth cropHeight : Nat)
  | rowOutside (row : Int)
  | columnsOutside
  | columnOutside (column : Int)
  | described (text : String)
  deriving DecidableEq, Repr

namespace RendererFault

def message : RendererFault → String
  | noFrameSize => "unable to get the frame size"
  | uploadMismatch w h fw fh => s!"texture is {w}x{h}, frame is {fw}x{fh}"
  | targetMismatch w h cw ch => s!"draw target is {w}x{h}, crop is {cw}x{ch}"
  | rowOutside row => s!"crop row {row} outside texture"
  | columnsOutside => "crop columns outside texture"
  | columnOutside column => s!"crop column {column} outside texture"
  | described text => text

end RendererFault

/-- An operation in the wrong phase of a player's life. -/
inductive Misuse
  | surfaceWhileActive
  | renderWithoutSurfaceReady
  | loseWithoutSession
  | endWithoutRendering
  | alreadyStarted
  | notOpen
  | surfaceBeforeStart
  | noSurface
  | described (text : String)
  deriving DecidableEq, Repr

namespace Misuse

def message : Misuse → String
  | surfaceWhileActive => "surface ready while a session is active"
  | renderWithoutSurfaceReady => "cannot render: surface not ready"
  | loseWithoutSession => "surface lost without an active session"
  | endWithoutRendering => "stream ended while not rendering"
  | alreadyStarted => "player already started"
  | notOpen => "no decoder open"
  | surfaceBeforeStart => "surface created before start"
  | noSurface => "no surface"
  | described text => text

end Misuse

inductive PictureFault
  /-- The pixels do not fit in memory. -/
  | tooLarge (width height : Nat)
  | notConvertible (pixels : PixelLayout)
  | emptyFrame (width height : Nat)
  | shortFrame (size needed : Nat)
  | bufferMismatch (width height frameWidth frameHeight : Nat)
  /-- A buffer that no memory can hold: asking for one is a panic. -/
  | unallocatable
  | described (text : String)
  deriving DecidableEq, Repr

namespace PictureFault

def message : PictureFault → String
  | tooLarge w h => s!"{w}x{h} pixel buffer is too large"
  | notConvertible pixels => s!"cannot convert {pixels.debug} frames"
  | emptyFrame w h => s!"cannot convert {w}x{h} frames"
  | shortFrame size needed => s!"frame too short: {size} < {needed}"
  | bufferMismatch w h fw fh => s!"pixel buffer is {w}x{h}, frame is {fw}x{fh}"
  | unallocatable => "capacity overflow"
  | described text => text

end PictureFault

/-- What a player reports to its caller. -/
inductive PlayerFault
  /-- The decoder could not be opened; nothing was started. -/
  | openFailed (path : String) (cause : ContainerFault)
  /-- An open stream could not be read. -/
  | decode (cause : ContainerFault)
  | renderer (fault : RendererFault)
  /-- A display surface refused a frame. -/
  | surface (text : String)
  | invalidState (misuse : Misuse)
  /-- A worker panicked. -/
  | worker
  /-- A file other than the container failed. -/
  | file (fault : FileFault)
  | picture (fault : PictureFault)
  deriving DecidableEq, Repr

namespace PlayerFault

def message : PlayerFault → String
  | openFailed path cause => s!"unable to open {path}: {cause.message}"
  | decode cause => s!"decode error: {cause.message}"
  | renderer fault => s!"renderer error: {fault.message}"
  | surface text => s!"surface error: {text}"
  | invalidState misuse => s!"invalid state: {misuse.message}"
  | worker => "worker failed"
  | file fault => s!"i/o error: {fault.message}"
  | picture fault => fault.message

def isOpenFailure : PlayerFault → Bool
  | openFailed _ _ => true
  | _ => false

/-- Whether the call does not return: it panics. -/
def isPanic : PlayerFault → Bool
  | picture .unallocatable => true
  | _ => false

def ofText (text : String) : PlayerFault := picture (.described text)

end PlayerFault

end AviPlayback
