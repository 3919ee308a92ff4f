import AviPlayback.Settings.Basic

/-!
The arguments of the command line. `Request.ofArguments` reads them from left to right: an option
takes its value from behind an equals sign, from the rest of its short form, or from the next
argument, and all that stands behind two lone hyphens is a file's name. Asking for help wins over
whatever follows it.
-/
set_option autoImplicit false

namespace AviPlayback

inductive OptionName
  | mode
  | config
  | surface
  | dumpDir
  | maxFrames
  deriving DecidableEq, Repr

namespace OptionName

def long : OptionName → String
  | mode => "mode"
  | config => "config"
  | surface => "surface"
  | dumpDir => "dump-dir"
  | maxFrames => "max-frames"

def all : List OptionName := [mode, config, surface, dumpDir, maxFrames]

def ofLong? (name : String) : Option OptionName := all.find? (·.long == name)

def ofShort? : Char → Option OptionName
  | 'm' => some mode
  | 'c' => some config
  | _ => none

end OptionName

inductive UsageFault
  | unknownArgument (argument : String)
  | missingValue (option : OptionName)
  | badValue (option : String) (value : String)
  | repeated (option : String)
  | unwantedValue (option : String)
  | missingFile
  deriving DecidableEq, Repr

namespace UsageFault

def message : UsageFault → String
  | unknownArgument argument => s!"unexpected argument '{argument}' found"
  | missingValue option => s!"a value is required for '--{option.long}' but none was supplied"
  | badValue option value => s!"invalid value '{value}' for '{option}'"
  | repeated option => s!"the argument '--{option}' cannot be used multiple times"
  | unwantedValue option => s!"unexpected value for '--{option}' found; no more were expected"
  | missingFile => "the following required arguments were not provided: <FILE>"

end UsageFault

structure Request where
  file : Option String
  mode : Option RenderMode
  config : Option String
  surface : Option SurfaceKind
  dumpDir : Option String
  maxFrames : Option Nat
  /-- Print the default settings instead of playing. -/
  printsDefault : Bool
  deriving DecidableEq, Repr

/-- What the arguments come to. -/
inductive Reading
  | help
  | request (request : Request)

namespace Request

def blank : Request := ⟨none, none, none, none, none, none, false⟩

/-- A number of 64 bits without a minus sign. -/
def unsigned? (value : String) : Option Nat :=
  let digits := match value.toList with
    | '+' :: digits => digits
    | digits => digits
  if digits.isEmpty || !digits.all Char.isDigit then none
  else
    let n := digits.foldl (fun n c => 10 * n + (c.toNat - 48)) 0
    if n < UInt64.size then some n else none

/-- A path, which is not empty. -/
def path? (value : String) : Option String := if value.isEmpty then none else some value

def fill {α : Type} (name value : String) (old : Option α) (read : Option α)
    (set : Option α → Request) : Except UsageFault Request :=
  match old, read with
  | some _, _ => .error (.repeated name)
  | none, none => .error (.badValue name value)
  | none, some a => .ok (set (some a))

def setOption (r : Request) (name : OptionName) (value : String) : Except UsageFault Request :=
  match name with
  | .mode => fill name.long value r.mode (RenderMode.parse value).toOption
      fun mode => { r with mode }
  | .config => fill name.long value r.config (path? value) fun config => { r with config }
  | .surface => fill name.long value r.surface (SurfaceKind.parse value).toOption
      fun surface => { r with surface }
  | .dumpDir => fill name.long value r.dumpDir (path? value) fun dumpDir => { r with dumpDir }
  | .maxFrames => fill name.long value r.maxFrames (unsigned? value)
      fun maxFrames => { r with maxFrames }

def setFile (r : Request) (value : String) : Except UsageFault Request :=
  match r.file with
  | some _ => .error (.unknownArgument value)
  | none => fill "FILE" value r.file (path? value) fun file => { r with file }

def setPrintsDefault (r : Request) : Except UsageFault Request :=
  if r.printsDefault then .error (.repeated "gen-config") else .ok { r with printsDefault := true }

/-- One argument, split at what it is. -/
inductive Argument
  /-- Two lone hyphens. -/
  | separator
  /-- A long form, with the value behind its equals sign. -/
  | long (name : String) (value : Option String)
  /-- Letters behind one hyphen. -/
  | letters (letters : List Char)
  | plain (value : String)

namespace Argument

def ofString (s : String) : Argument :=
  match s.toList with
  | ['-', '-'] => separator
  | '-' :: '-' :: rest =>
    let name := rest.takeWhile (· != '=')
    long (String.ofList name)
      (match rest.dropWhile (· != '=') with
        | _ :: value => some (String.ofList value)
        | [] => none)
  | '-' :: c :: rest => letters (c :: rest)
  | _ => plain s

end Argument

/-- What one argument does: it asks for help, it changes the request, or it names an option whose
value comes next. -/
inductive Effect
  | help
  | changed (request : Request)
  | awaits (option : OptionName)

/-- Letters behind one hyphen. An option takes the other letters as its value. -/
def readLetters (r : Request) : List Char → Except UsageFault Effect
  | [] => .ok (.changed r)
  | 'h' :: _ => .ok .help
  | c :: rest =>
    match OptionName.ofShort? c, rest with
    | none, _ => .error (.unknownArgument s!"-{c}")
    | some option, [] => .ok (.awaits option)
    | some option, '=' :: value => (r.setOption option (String.ofList value)).map .changed
    | some option, value => (r.setOption option (String.ofList value)).map .changed

def readLong (r : Request) (name : String) (value : Option String) : Except UsageFault Effect :=
  match OptionName.ofLong? name, value with
  | some option, some value => (r.setOption option value).map .changed
  | some option, none => .ok (.awaits option)
  | none, value =>
    if name = "help" ∨ name = "gen-config" then
      if value.isSome then .error (.unwantedValue name)
      else if name = "help" then .ok .help
      else r.setPrintsDefault.map .changed
    else .error (.unknownArgument s!"--{name}")

/-- Reads arguments into a request. `closed` tells that only names of files may follow. -/
def read (r : Request) (closed : Bool) : List String → Except UsageFault Reading
  | [] => .ok (.request r)
  | argument :: rest => do
    match if closed then .plain argument else Argument.ofString argument with
    | .separator => read r true rest
    | .plain value => read (← r.setFile value) closed rest
    | .letters letters => proceed (← r.readLetters letters) rest
    | .long name value => proceed (← r.readLong name value) rest
where
  /-- Goes on after an option or a flag. -/
  proceed (effect : Effect) (rest : List String) : Except UsageFault Reading :=
    match effect, rest with
    | .help, _ => .ok .help
    | .changed r, rest => read r closed rest
    | .awaits option, [] => .error (.missingValue option)
    | .awaits option, value :: rest =>
      match Argument.ofString value with
      | .plain value => do read (← r.setOption option value) closed rest
      | _ => .error (.missingValue option)

/-- The request that arguments make. Unless the default settings are asked for, there is a file. -/
def ofArguments (arguments : List String) : Except UsageFault Reading := do
  match ← read blank false arguments with
  | .help => return .help
  | .request r =>
    if r.file.isNone && !r.printsDefault then throw .missingFile
    return .request r

/-- The settings that a request asks for on top of those in its configuration file. -/
def override (r : Request) (s : Settings) : Settings where
  media := s.media
  playback := { s.playback with maxFrames := r.maxFrames.getD s.playback.maxFrames }
  output := { s.output with
    surface := r.surface.getD s.output.surface
    dumpDir := r.dumpDir.getD s.output.dumpDir }
  logging := s.logging

def configPath (r : Request) : String := r.config.getD "avip-player.toml"

end Request

end AviPlayback
