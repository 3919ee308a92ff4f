import AviPlayback.Frame.Texture
import AviPlayback.Playback.Stage

/-!
Renderers: what draws the frames of a texture player. A `TextureRenderer` uploads each frame into
a texture and draws that; a `ScriptedRenderer` only counts its draws.
-/
set_option autoImplicit false

namespace AviPlayback

inductive DrawOutcome
  /-- A frame was drawn. -/
  | more
  /-- No frame was drawn: the stream has ended. -/
  | ended
  | panicked
  deriving DecidableEq, Repr

/-- What a draw leaves, and the pictures it gave to the surface. -/
structure Drawing (R D S : Type) where
  outcome : DrawOutcome
  renderer : R
  decoder : D
  sink : S
  pictures : List PixelBuffer

/-- Draws frames of a decoder on a surface. -/
class FrameRenderer (R D S : Type) where
  /-- Prepares for a surface that has just appeared. -/
  initSurface : R → Except PlayerFault Unit × R
  /-- Reads, uploads and draws the next frame. -/
  draw : R → D → S → Drawing R D S

namespace Stage

variable {D S R : Type}

def draw [FrameRenderer R D S] (s : Stage D S) (lease : Nat) (renderer : R) :
    DrawOutcome × R × Stage D S :=
  match s.decoder? lease with
  | none => (.ended, renderer, s)
  | some d =>
    let r : Drawing R D S := FrameRenderer.draw renderer d s.sink
    let s := { s.putDecoder lease r.decoder with sink := r.sink }
    (r.outcome, r.renderer, r.pictures.foldl (fun s picture => s.record (.presented picture)) s)

end Stage

/-- Draws frames through a texture. -/
structure TextureRenderer where
  layout : FrameLayout
  buffer : Scratch
  /-- There is one after a surface has appeared. -/
  texture : Option Texture
  target : PixelBuffer
  deriving DecidableEq

namespace TextureRenderer

def create (info : StreamInfo) : Except PlayerFault TextureRenderer :=
  if info.maxFrameSize = 0 then .error (.renderer .noFrameSize)
  else
    let made : Except PictureFault TextureRenderer := do
      let buffer ← Scratch.tryZeroed info.maxFrameSize
      let target ← PixelBuffer.tryNew info.width info.height
      pure ⟨info.layout, buffer, none, target⟩
    made.mapError .picture

/-- A renderer is made for a stream that has frames and a size that buffers can have. -/
theorem create_of_lt {info : StreamInfo} {target : PixelBuffer} (hpos : 0 < info.maxFrameSize)
    (hlt : info.maxFrameSize < bufferLimit)
    (htarget : PixelBuffer.tryNew info.width info.height = .ok target) :
    create info = .ok ⟨info.layout, .zeroed info.maxFrameSize, none, target⟩ := by
  rw [create, if_neg (Nat.ne_of_gt hpos), Scratch.tryZeroed_of_lt hlt, htarget]
  rfl

/-- A picture of the given size: the old one when it fits. -/
def fitTarget (target : PixelBuffer) (extent : Nat × Nat) : Except PictureFault PixelBuffer :=
  if target.width ≠ extent.1 ∨ target.height ≠ extent.2 then PixelBuffer.tryNew extent.1 extent.2
  else .ok target

/-- Allocates the texture, with the crop rectangle that shows the frames upright. -/
def initSurface (r : TextureRenderer) : Except PlayerFault Unit × TextureRenderer :=
  let fitted : Except PictureFault TextureRenderer := do
    let blank ← Texture.tryNew r.layout.width r.layout.height
    let texture := { blank with crop := .ofLayout r.layout }
    let target ← fitTarget r.target texture.crop.extent
    pure { r with texture := some texture, target }
  match fitted with
  | .ok r => (.ok (), r)
  | .error fault => (.error (.picture fault), r)

/-- Draws the texture after an upload, and shows the picture. A surface that refuses it does not
end the stream. -/
def drawTexture {D S : Type} [FrameSink S] (r : TextureRenderer) (texture : Texture) (d : D)
    (sink : S) : Drawing TextureRenderer D S :=
  match texture.draw r.target with
  | (.error _, target) => ⟨.ended, { r with texture := some texture, target }, d, sink, []⟩
  | (.ok _, target) =>
    let (shown, sink) := FrameSink.present sink target
    ⟨if shown = .panicked then .panicked else .more,
      { r with texture := some texture, target }, d, sink, [target]⟩

/-- Draws a frame that was read. A decoder that claims more bytes than the buffer has causes a
panic. -/
def drawPayload {D S : Type} [FrameSink S] (r : TextureRenderer) (payload : Bytes) (d : D)
    (sink : S) : Drawing TextureRenderer D S :=
  match r.texture with
  | none => ⟨.ended, { r with buffer := r.buffer.overwrite payload }, d, sink, []⟩
  | some texture =>
    if r.buffer.size < payload.size then ⟨.panicked, r, d, sink, []⟩
    else
      let r := { r with buffer := r.buffer.overwrite payload }
      match texture.upload r.layout (r.buffer.front payload.size) with
      | .error _ => ⟨.ended, r, d, sink, []⟩
      | .ok texture => r.drawTexture texture d sink

def draw {D S : Type} [FrameReader D S] [FrameSink S] (r : TextureRenderer) (d : D) (sink : S) :
    Drawing TextureRenderer D S :=
  match FrameReader.fetch sink d r.buffer.size with
  | (.nothing, d) => ⟨.ended, r, d, sink, []⟩
  | (.panicked, d) => ⟨.panicked, r, d, sink, []⟩
  | (.frame payload, d) => r.drawPayload payload d sink

instance {D S : Type} [FrameReader D S] [FrameSink S] : FrameRenderer TextureRenderer D S :=
  ⟨initSurface, draw⟩

end TextureRenderer

/-- A renderer that counts its draws and ends or panics at given ones, counted from one. -/
structure ScriptedRenderer where
  endsAt : Option Nat
  panicsAt : Option Nat
  failsInit : Bool
  deriving DecidableEq, Repr

/-- Number of draws so far, by all renderers. -/
structure DrawTally where
  draws : Nat
  deriving DecidableEq, Repr

namespace ScriptedRenderer

def draw {D : Type} (r : ScriptedRenderer) (d : D) (tally : DrawTally) :
    Drawing ScriptedRenderer D DrawTally :=
  let n := tally.draws + 1
  let outcome : DrawOutcome :=
    if r.panicsAt = some n then .panicked
    else if r.endsAt.any (· ≤ n) then .ended
    else .more
  ⟨outcome, r, d, ⟨n⟩, []⟩

instance {D : Type} : FrameRenderer ScriptedRenderer D DrawTally where
  initSurface r :=
    (if r.failsInit then .error (.renderer (.described "init refused")) else .ok (), r)
  draw := draw

end ScriptedRenderer

end AviPlayback
