import AviPlayback.Frame.PixelBuffer

/-!
Pictures as binary PPM files. An image codec checks that a picture is complete, takes the alpha
bytes away and writes the rest behind a header. `PpmCodec.binary` is such a codec for programs that
run.
-/
set_option autoImplicit false

namespace AviPlayback

/-- The parts of an image library that a picture goes through on its way into a file. -/
structure PpmCodec where
  /-- Whether bytes are enough for an image of some width and height with alpha. -/
  accepts : Nat → Nat → Bytes → Bool
  /-- The samples of an image of some width and height, without alpha. -/
  dropAlpha : Nat → Nat → Bytes → Bytes
  /-- Writes samples as an image of some width and height. There are bytes also when it fails in
  the middle. -/
  encode : Nat → Nat → Bytes → Except String Unit × Bytes

namespace PpmCodec

/-- The codec that leaves out every fourth byte and writes the header of a binary PPM file. -/
def binary : PpmCodec where
  accepts width height bytes := 4 * (width * height) ≤ bytes.size
  dropAlpha width height bytes :=
    Array.ofFn fun i : Fin (3 * (width * height)) => bytes.getD (i / 3 * 4 + i % 3) 0
  encode width height samples := (.ok (), s!"P6\n{width} {height} 255\n".toUTF8.data ++ samples)

def write (c : PpmCodec) (b : PixelBuffer) : Except PlayerFault Unit × Bytes :=
  let bytes := b.bytes
  if c.accepts b.width b.height bytes then
    let (result, written) := c.encode b.width b.height (c.dropAlpha b.width b.height bytes)
    (result.mapError fun text => .surface s!"ppm encode failed: {text}", written)
  else (.error (.surface s!"{b.width}x{b.height} frame is incomplete"), #[])

end PpmCodec

/-- What is written of the picture as a PPM file. -/
def PixelBuffer.toPpm (b : PixelBuffer) (codec : PpmCodec := .binary) : Bytes := (codec.write b).2

end AviPlayback
