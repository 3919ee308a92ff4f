import AviPlayback.Output.Screen
import AviPlayback.Player.Any
import AviPlayback.Player.FileClip
import AviPlayback.Settings.Text

/-!
Launching: the settings and a file's name give a started player, or a fault and no player.
-/
set_option autoImplicit false

namespace AviPlayback

/-- A player of clips that are read from the files it also writes to. -/
abbrev ClipPlayer : Type := Player FileClip Screen

namespace MediaSettings

/-- Where a media file lies: a relative name starts in the directory of the settings. -/
def pathOf (s : MediaSettings) (file : String) : String := Path.join s.baseDir file

end MediaSettings

namespace ClipPlayer

def files (p : ClipPlayer) : FileTree := p.stage.sink.files

def startAt (p : ClipPlayer) (path : String) : Except PlayerFault Unit × ClipPlayer :=
  p.start (files p).openClip path

end ClipPlayer

namespace Settings

/-- Starts a player for a file, in the mode asked for or that of the settings. The surface comes
first, so that its files stay even when the clip cannot be opened. -/
def launch (s : Settings) (tree : FileTree) (file : String) (mode : Option RenderMode) :
    Except PlayerFault ClipPlayer × FileTree :=
  match Screen.create s.output tree with
  | (.error fault, tree) => (.error fault, tree)
  | (.ok screen, _) =>
    let player : ClipPlayer := .new (mode.getD s.media.defaultMode) screen s.playerOptions
    match ClipPlayer.startAt player (s.media.pathOf file) with
    | (.ok _, player) => (.ok player, ClipPlayer.files player)
    | (.error fault, player) => (.error fault, ClipPlayer.files player)

def writeDefault (tree : FileTree) (path : String) : Except FileFault FileTree :=
  tree.write path default.toText.toUTF8.data

/-- The settings in a file. Without the file nothing is said. -/
def load (tree : FileTree) (path : String) : Settings :=
  match tree.read path with
  | .ok bytes => ofBytes bytes
  | .error _ => default

end Settings

end AviPlayback
