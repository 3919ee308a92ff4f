import AviPlayback.Output.PpmDump
import AviPlayback.Playback.Sink
import AviPlayback.Settings.Basic

/-!
The surface that the settings ask for, together with the files it writes to.
-/
set_option autoImplicit false

namespace AviPlayback

/-- A surface that the settings can ask for. -/
inductive Surface
  /-- Drops pictures and counts them. -/
  | null (frames : Nat)
  | ppm (dump : PpmDump)

namespace Surface

def present (s : Surface) (t : FileTree) (picture : PixelBuffer) :
    Except PlayerFault Unit × Surface × FileTree :=
  match s with
  | null frames => (.ok (), null (frames + 1), t)
  | ppm dump =>
    let (result, dump, t) := dump.present t picture
    (result, ppm dump, t)

end Surface

/-- A surface with the files it writes to. -/
structure Screen where
  files : FileTree
  surface : Surface

namespace Screen

/-- The surface that the settings ask for. Without one the files may have changed all the same. -/
def create (s : OutputSettings) (files : FileTree) : Except PlayerFault Screen × FileTree :=
  match s.surface with
  | .null => (.ok ⟨files, .null 0⟩, files)
  | .ppm =>
    let (dump, files) := PpmDump.create s.dumpDir s.dumpEvery files
    (dump.map fun dump => ⟨files, .ppm dump⟩, files)

def present (s : Screen) (picture : PixelBuffer) : Shown × Screen :=
  let (result, surface, files) := s.surface.present s.files picture
  (match result with
    | .ok _ => .accepted
    | .error fault => .refused fault, ⟨files, surface⟩)

/-- Pictures keep their own size. -/
instance : FrameSink Screen := ⟨present, fun s _ _ => (.ok (), s)⟩

end Screen

end AviPlayback
