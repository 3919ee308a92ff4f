import AviPlayback.CommandLine.Run

/-!
The command line on real files and a real clock. The files that a request can name are looked at
before, what a player writes is put on the disk at every moment of work, and the time between two
moments is slept through.
-/
set_option autoImplicit false

namespace AviPlayback

def usage : String :=
  "Usage: avip-player [OPTIONS] [FILE]\n\n" ++
  "  -m, --mode <MODE>          bitmap or gl\n" ++
  "  -c, --config <CONFIG>      settings file, avip-player.toml if not given\n" ++
  "      --gen-config           print the default settings\n" ++
  "      --surface <SURFACE>    null or ppm\n" ++
  "      --dump-dir <DUMP_DIR>  directory for pictures\n" ++
  "      --max-frames <N>       stop after so many frames\n" ++
  "  -h, --help                 print help"

def look (path : String) : IO (Option Node) := do
  try
    return some (.file (← IO.FS.readBinFile path).data)
  catch
    | .noFileOrDirectory .. => return none
    | _ => return some .directory

/-- Takes the parts of a path that are on the disk into a tree. -/
def takeIn (tree : FileTree) (path : String) : IO FileTree := do
  let start := if Path.isAbsolute path then "/" else "."
  let mut tree := tree
  let mut place := if Path.isAbsolute path then [] else tree.home
  let mut real := start
  for name in Path.names path do
    place := FileTree.step place name
    real := Path.join real name
    if (tree.node? place).isNone then
      match ← look real with
      | some node => tree := tree.put place node
      | none => return tree
  return tree

/-- The part of the disk that a request can reach. -/
def survey (r : Request) : IO FileTree := do
  let home := Path.names (toString (← IO.currentDir))
  let tree ← takeIn (FileTree.empty home) r.configPath
  let settings := r.override (Settings.load tree r.configPath)
  let tree ← takeIn tree settings.output.dumpDir
  let tree ← takeIn tree settings.logging.file
  takeIn tree (settings.media.pathOf (r.file.getD ""))

def putDown (before after : FileTree) : IO Unit := do
  for (place, node) in after.nodes do
    if before.node? place != some node then
      let path := "/" ++ "/".intercalate place
      match node with
      | .directory => IO.FS.createDirAll path
      | .file bytes => IO.FS.writeBinFile path ⟨bytes⟩

/-- Plays until there is nothing left to show. -/
partial def playOn (player : ClipPlayer) (onDisk : FileTree) : IO (ClipPlayer × FileTree) := do
  let player := Clocked.settle player
  putDown onDisk (ClipPlayer.files player)
  let onDisk := ClipPlayer.files player
  if ClipPlayer.isFinished player then
    return (player, onDisk)
  match Clocked.wake? player with
  | none => return (player, onDisk)
  | some time =>
    IO.sleep (time - Clocked.now player).toUInt32
    playOn (Clocked.setNow player time) onDisk

def announce (outcome : Outcome) : IO UInt32 := do
  match outcome with
  | .help => IO.println usage
  | .misused fault => IO.eprintln s!"error: {fault.message}\n\n{usage}"
  | .ended _ output complaint =>
    IO.print output
    IO.eprint complaint
  return outcome.code.toUInt32

def serve (r : Request) : IO UInt32 := do
  let before ← survey r
  match r.prepare before with
  | (.error outcome, after) =>
    putDown before after
    announce outcome
  | (.ok player, after) =>
    putDown before after
    match player.onSurface .created with
    | (.error fault, _) => announce (ClipPlayer.report (.error fault))
    | (.ok _, player) =>
      let (player, onDisk) ← playOn player after
      let (outcome, player) := ClipPlayer.finish player
      putDown onDisk (ClipPlayer.files player)
      announce outcome

def respond (arguments : List String) : IO UInt32 :=
  match Request.ofArguments arguments with
  | .error fault => announce (.misused fault)
  | .ok .help => announce .help
  | .ok (.request r) => serve r

end AviPlayback

def main (arguments : List String) : IO UInt32 := AviPlayback.respond arguments
