import AviPlayback.Output.Screen
import AviPlayback.Playback.Decoder

/-!
Clips that are read from files. A frame is what its file holds when the frame is read, which may
be something else than when the clip was opened: the surface writes to the same files.
-/
set_option autoImplicit false

namespace AviPlayback

/-- A clip with the place of its file. -/
structure FileClip where
  place : Place
  clip : Clip

namespace FileClip

/-- The clip over the present contents of its file. A file that is gone is read as it was. -/
def refresh (c : FileClip) (files : FileTree) : FileClip :=
  match files.node? c.place with
  | some (.file bytes) => { c with clip := { c.clip with file := bytes } }
  | _ => c

def read (c : FileClip) (files : FileTree) (capacity : Nat) :
    Except PlayerFault Bytes × FileClip :=
  let (result, clip) := (c.refresh files).clip.read capacity
  (result, { c with clip })

instance : VideoDecoder FileClip := ⟨fun c => c.clip.info, fun c => some c.clip.frameCount⟩

instance : FrameReader FileClip Screen := ⟨fun screen c capacity => c.read screen.files capacity⟩

end FileClip

namespace FileTree

def openClip (files : FileTree) (path : String) : Except PlayerFault FileClip := do
  let bytes ← (files.read path).mapError fun fault => .openFailed path (.file fault)
  let place ← (files.locate path).mapError fun fault => .openFailed path (.file fault)
  let clip ← (Clip.ofBytes bytes).mapError (.openFailed path)
  pure ⟨place, clip⟩

end FileTree

end AviPlayback
