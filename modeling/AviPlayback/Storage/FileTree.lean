import AviPlayback.Bytes
import AviPlayback.Fault
import AviPlayback.Storage.Path

/-!
A tree of files and directories with a working directory. Each operation takes a path, and fails
with the operating system's error number when the path does not lead where it should.
-/
set_option autoImplicit false

namespace AviPlayback

/-- A file with its contents, or a directory. -/
inductive Node
  | file (bytes : Bytes)
  | directory
  deriving DecidableEq

/-- The names that lead from the root to a file or directory. -/
abbrev Place : Type := List String

structure FileTree where
  /-- The working directory. -/
  home : Place
  /-- What there is besides the root; no place comes twice. -/
  nodes : List (Place × Node)
  deriving DecidableEq

namespace FileTree

def node? (t : FileTree) (place : Place) : Option Node :=
  if place.isEmpty then some .directory else t.nodes.lookup place

def put (t : FileTree) (place : Place) (node : Node) : FileTree :=
  { t with nodes := t.nodes.filter (fun n => n.1 != place) ++ [(place, node)] }

def remove (t : FileTree) (place : Place) : FileTree :=
  { t with nodes := t.nodes.filter fun n => !place.isPrefixOf n.1 }

def removeBelow (t : FileTree) (place : Place) : FileTree :=
  { t with nodes := t.nodes.filter fun n => n.1 == place || !place.isPrefixOf n.1 }

/-- Adds directories, each in the one before, where nothing is yet. -/
def addDirectories (place : Place) : List String → FileTree → FileTree
  | [], t => t
  | name :: names, t =>
    let place := place ++ [name]
    addDirectories place names (if (t.node? place).isSome then t else t.put place .directory)

def empty (home : Place) : FileTree := addDirectories [] home ⟨home, []⟩

/-! ### Following a path -/

def requireDirectory (t : FileTree) (place : Place) : Except FileFault Unit :=
  match t.node? place with
  | some .directory => .ok ()
  | some (.file _) => .error (.os OsError.notDirectory)
  | none => .error (.os OsError.noEntry)

def step (place : Place) (name : String) : Place :=
  if name = "." then place
  else if name = ".." then place.dropLast
  else place ++ [name]

/-- The place that names lead to, of which all but the last have to be there. -/
def follow (t : FileTree) (place : Place) : List String → Except FileFault Place
  | [] => .ok place
  | name :: names => do
    t.requireDirectory place
    if 255 < name.utf8ByteSize then throw (.os OsError.nameTooLong)
    t.follow (step place name) names

/-- The place that a path leads to, which need not be there. -/
def locate (t : FileTree) (path : String) : Except FileFault Place :=
  if path.toList.contains '\x00' then
    .error (.described "file name contained an unexpected NUL byte")
  else if path.isEmpty then .error (.os OsError.noEntry)
  else if 4096 ≤ path.utf8ByteSize then .error (.os OsError.nameTooLong)
  else t.follow (if Path.isAbsolute path then [] else t.home) (Path.names path)

/-- Whether a path names an entry of a directory, and not the directory itself or the one above. -/
def namesEntry (path : String) : Bool :=
  match (Path.names path).getLast? with
  | some name => name != "." && name != ".."
  | none => false

/-! ### Operations -/

def read (t : FileTree) (path : String) : Except FileFault Bytes := do
  let place ← t.locate path
  if Path.endsInSlash path then t.requireDirectory place
  match t.node? place with
  | some (.file bytes) => return bytes
  | some .directory => throw (.os OsError.isDirectory)
  | none => throw (.os OsError.noEntry)

/-- The place of a file to be written, in a directory that is there. -/
def writable (t : FileTree) (path : String) : Except FileFault Place := do
  let place ← t.locate path
  if !namesEntry path || Path.endsInSlash path || t.node? place == some .directory then
    throw (.os OsError.isDirectory)
  return place

def write (t : FileTree) (path : String) (bytes : Bytes) : Except FileFault FileTree :=
  (t.writable path).map fun place => t.put place (.file bytes)

def touch (t : FileTree) (path : String) : Except FileFault FileTree :=
  (t.writable path).map fun place =>
    if (t.node? place).isSome then t else t.put place (.file #[])

def makeDirectory (t : FileTree) (path : String) : Except FileFault FileTree := do
  let place ← t.locate path
  if !namesEntry path || (t.node? place).isSome then throw (.os OsError.fileExists)
  return t.put place .directory

def isDirectory (t : FileTree) (path : String) : Bool :=
  match t.locate path with
  | .ok place => t.node? place == some .directory
  | .error _ => false

/-- Makes a directory together with those above it, up to `fuel` levels. Those that were made stay,
also when one of them cannot be made. -/
def makeDirectories (path : String) : Nat → FileTree → Except FileFault Unit × FileTree
  | 0, t => (.error (.described "failed to create whole tree"), t)
  | fuel + 1, t =>
    if path.isEmpty then (.ok (), t)
    else match t.makeDirectory path with
      | .ok t => (.ok (), t)
      | .error fault =>
        if fault = .os OsError.noEntry then
          match Path.parent? path with
          | none => (.error (.described "failed to create whole tree"), t)
          | some above =>
            match makeDirectories above fuel t with
            | (.error fault, t) => (.error fault, t)
            | (.ok _, t) =>
              match t.makeDirectory path with
              | .ok t => (.ok (), t)
              | .error fault => (if t.isDirectory path then .ok () else .error fault, t)
        else (if t.isDirectory path then .ok () else .error fault, t)

def ensureDirectory (t : FileTree) (path : String) : Except FileFault Unit × FileTree :=
  makeDirectories path (path.length + 1) t

/-- Takes away an empty directory, which the path has to name in the one above it. -/
def removeEmpty (t : FileTree) (path : String) : Except FileFault FileTree := do
  let place ← t.locate path
  match (Path.names path).getLast? with
  | some "." => throw (.os OsError.invalidArgument)
  | some ".." => throw (.os OsError.notEmpty)
  | _ => return t.remove place

/-- Takes away a directory with all that is in it. Its contents go first, and stay away when it
cannot be taken away itself; one that the path no longer leads to does not matter. -/
def removeDirectory (t : FileTree) (path : String) : Except FileFault Unit × FileTree :=
  match t.locate path with
  | .error fault => (.error fault, t)
  | .ok place =>
    match t.requireDirectory place with
    | .error fault => (.error fault, t)
    | .ok _ =>
      let t := t.removeBelow place
      match t.removeEmpty path with
      | .ok t => (.ok (), t)
      | .error fault => (if fault = .os OsError.noEntry then .ok () else .error fault, t)

/-- A file with the directories above it, seen from the working directory. -/
def addFile (t : FileTree) (path : String) (bytes : Bytes) : FileTree :=
  let names := Path.names path
  (addDirectories t.home names.dropLast t).put (t.home ++ names) (.file bytes)

/-- All that is in the working directory, with the path from there. -/
def inHome (t : FileTree) : List (String × Node) :=
  t.nodes.filterMap fun (place, node) =>
    if t.home.isPrefixOf place && place != t.home then
      some ("/".intercalate (place.drop t.home.length), node)
    else none

@[simp] theorem node?_put (t : FileTree) {place : Place} (node : Node) (h : place ≠ []) :
    (t.put place node).node? place = some node := by
  have hne : place.isEmpty = false := by simpa using h
  have hmiss : List.lookup place (t.nodes.filter fun n => n.1 != place) = none := by
    rw [List.lookup_eq_none_iff]
    intro n hn
    have := (List.mem_filter.1 hn).2
    simp only [bne_iff_ne, ne_eq] at this
    exact bne_iff_ne.2 fun h => this h.symm
  simp [node?, put, hne, List.lookup_append, hmiss]

end FileTree

end AviPlayback
