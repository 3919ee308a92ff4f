import AviPlayback.Playback.Session
import AviPlayback.Settings.Choice

/-!
The settings of the player, in four sections, with what holds when nothing is said.
-/
set_option autoImplicit false

namespace AviPlayback

/-- Where media files lie, and how they are played. -/
structure MediaSettings where
  /-- Where relative names start; when empty, in the working directory. -/
  baseDir : String
  /-- Holds unless a mode is asked for. -/
  defaultMode : RenderMode

structure PlaybackSettings where
  /-- Used when a stream reports no usable frame rate. -/
  defaultFrameRate : Float
  /-- Each surface session ends after this many frames; zero is no limit. -/
  maxFrames : Nat

structure OutputSettings where
  surface : SurfaceKind
  /-- The directory of the picture files. -/
  dumpDir : String
  /-- One picture in so many is written; zero acts as one. -/
  dumpEvery : Nat
  deriving DecidableEq

structure LoggingSettings where
  level : String
  /-- The log file, if not empty. -/
  file : String
  deriving DecidableEq

structure Settings where
  media : MediaSettings
  playback : PlaybackSettings
  output : OutputSettings
  logging : LoggingSettings

namespace Settings

def default : Settings where
  media := ⟨"", .bitmap⟩
  playback := ⟨Pacer.defaultFrameRate, 0⟩
  output := ⟨.null, "frames", 1⟩
  logging := ⟨"info", ""⟩

instance : Inhabited Settings := ⟨default⟩

def playerOptions (s : Settings) : PlayerOptions where
  defaultFrameRate := s.playback.defaultFrameRate
  maxFrames := if s.playback.maxFrames = 0 then none else some s.playback.maxFrames

end Settings

end AviPlayback
