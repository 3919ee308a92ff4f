import AviPlayback.Frame.Convert
import AviPlayback.Playback.Decoder

/-!
The blitter: it reads a raw frame into its scratch buffer and converts it over a picture. When
there is no frame to convert, the picture stays as it is.
-/
set_option autoImplicit false

namespace AviPlayback

/-- Reads and converts the frames of one stream. -/
structure Blitter where
  layout : FrameLayout
  scratch : Scratch
  deriving DecidableEq

/-- What one call of the blitter leaves. -/
structure Blitted (D : Type) where
  /-- The picture is a new frame. -/
  fresh : Bool
  /-- The call did not return. -/
  panicked : Bool
  blitter : Blitter
  decoder : D
  picture : PixelBuffer

namespace Blitter

/-- A blitter whose scratch buffer fits every frame of the stream. -/
def ofInfo (info : StreamInfo) : Except PictureFault Blitter :=
  (Scratch.tryZeroed (max (info.layout.frameBytes?.getD 0) info.maxFrameSize)).map fun scratch =>
    ⟨info.layout, scratch⟩

def blitPayload {D : Type} (b : Blitter) (payload : Bytes) (d : D) (picture : PixelBuffer) :
    Blitted D :=
  let b := { b with scratch := b.scratch.overwrite payload }
  match convertFrame b.layout (b.scratch.front payload.size) picture with
  | .ok picture => ⟨true, false, b, d, picture⟩
  | .error _ => ⟨false, false, b, d, picture⟩

/-- Reads the next frame and converts it over a picture. A decoder that claims more bytes than the
scratch buffer has causes a panic. -/
def renderFrame {D W : Type} [FrameReader D W] (b : Blitter) (w : W) (d : D)
    (picture : PixelBuffer) : Blitted D :=
  match FrameReader.fetch w d b.scratch.size with
  | (.nothing, d) => ⟨false, false, b, d, picture⟩
  | (.panicked, d) => ⟨false, true, b, d, picture⟩
  | (.frame payload, d) =>
    if b.scratch.size < payload.size then ⟨false, true, b, d, picture⟩
    else b.blitPayload payload d picture

end Blitter

end AviPlayback
