import AviPlayback.CommandLine.Request
import AviPlayback.Player.Launch
import AviPlayback.Settings.Text

/-!
A run of the player: what the arguments and the files come to. `CommandLine.run` plays on the clock
that jumps from one moment of work to the next.
-/
set_option autoImplicit false

namespace AviPlayback

inductive Outcome
  /-- Help was asked for. -/
  | help
  /-- The arguments were wrong. -/
  | misused (fault : UsageFault)
  | ended (code : Nat) (output complaint : String)
  deriving DecidableEq, Repr

namespace Outcome

def silent : Outcome := ended 0 "" ""

def code : Outcome → Nat
  | help => 0
  | misused _ => 2
  | ended code _ _ => code

end Outcome

namespace ClipPlayer

def isFinished (p : ClipPlayer) : Bool := p.state.isFinished

/-- How many moments of work a player is given: as many as it has frames to show. -/
def moments (p : ClipPlayer) : Nat :=
  let frames := p.stage.leases.foldl (fun n l => n + l.decoder.clip.frameCount) 0
  let limit := match p with
    | .bitmap p => p.options.maxFrames.getD 0
    | .texture p => p.session.options.maxFrames.getD 0
  frames + limit + 2

def report (result : Except PlayerFault Unit) : Outcome :=
  match result with
  | .ok _ => .silent
  | .error fault => .ended 1 "" s!"Error: {fault.message}\n"

/-- The end of a run: the surface goes away and the player stops. -/
def finish (p : ClipPlayer) : Outcome × ClipPlayer :=
  let (_, p) := p.onSurface .destroyed
  let (result, p) := p.stop
  (report result, p)

/-- Plays on a surface until there is nothing left to show, or until a player that would go on for
ever is interrupted. -/
def play (p : ClipPlayer) : Outcome × ClipPlayer :=
  match p.onSurface .created with
  | (.error fault, p) => (report (.error fault), p)
  | (.ok _, p) => finish (Clocked.await isFinished (moments p) p)

end ClipPlayer

namespace Request

def openLog (s : Settings) (tree : FileTree) : Except FileFault FileTree :=
  if s.logging.file.isEmpty then .ok tree else tree.touch s.logging.file

/-- What comes before playing: a started player, or the outcome without one. -/
def prepare (r : Request) (tree : FileTree) : Except Outcome ClipPlayer × FileTree :=
  if r.printsDefault then (.error (.ended 0 (Settings.default.toText ++ "\n") ""), tree)
  else
    let settings := r.override (Settings.load tree r.configPath)
    match openLog settings tree, r.file with
    | .error fault, _ => (.error (.ended 1 "" s!"Error: {fault.debug}\n"), tree)
    | .ok tree, none => (.error (.ended 1 "" "Error: \"no file given\"\n"), tree)
    | .ok tree, some file =>
      let (player, tree) := settings.launch tree file r.mode
      (player.mapError fun fault => .ended 1 "" s!"error: {fault.message}\n", tree)

end Request

def CommandLine.run (arguments : List String) (tree : FileTree) : Outcome × FileTree :=
  match Request.ofArguments arguments with
  | .error fault => (.misused fault, tree)
  | .ok .help => (.help, tree)
  | .ok (.request r) =>
    match r.prepare tree with
    | (.error outcome, tree) => (outcome, tree)
    | (.ok player, _) =>
      let (outcome, player) := ClipPlayer.play player
      (outcome, ClipPlayer.files player)

end AviPlayback
