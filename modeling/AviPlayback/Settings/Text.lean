import AviPlayback.Settings.Basic
import AviPlayback.Toml.Document
import AviPlayback.Toml.Written

/-!
Settings as text. `Settings.ofText?` reads them from a TOML document: what is missing keeps its
default, what is unknown is passed over, and a value of a wrong type spoils the whole. `toText`
writes all of them.
-/
set_option autoImplicit false

namespace AviPlayback.Settings

open Toml

/-- The values of named fields. A section is a table of them, or an array that gives them in order;
a date is a section that says nothing. -/
def fields? (names : List String) : Value → Option Entries
  | .table _ entries => some entries
  | .array _ items => some (names.zip items)
  | .moment => some []
  | _ => none

/-- A field of a section; a missing one keeps its default. -/
def field? {α : Type} (entries : Entries) (name : String) (decode : Value → Option α)
    (default : α) : Option α :=
  match entries.get? name with
  | some v => decode v
  | none => some default

def text? : Value → Option String
  | .text s => some s
  | _ => none

def natBelow? (bound : Nat) : Value → Option Nat
  | .integer n => if 0 ≤ n ∧ n < bound then some n.toNat else none
  | _ => none

/-- A float, or the float nearest to a whole number. -/
def float? : Value → Option Float
  | .float x => some x
  | .integer n => some (Decimal.toFloat ⟨n.natAbs, 0⟩ (n < 0))
  | _ => none

/-- Whether a value has no parts. -/
def isHollow : Value → Bool
  | .array _ items => items.isEmpty
  | .table _ entries => entries.isEmpty
  | _ => false

/-- A choice: its name, or a table whose only key is the name of it and has nothing inside. -/
def choice? {α : Type} (ofName? : String → Option α) : Value → Option α
  | .text s => ofName? s
  | .table _ [(name, v)] => if isHollow v then ofName? name else none
  | _ => none

def media? (v : Value) : Option MediaSettings := do
  let s ← fields? ["base_dir", "default_mode"] v
  let d := default.media
  return ⟨← field? s "base_dir" text? d.baseDir,
    ← field? s "default_mode" (choice? RenderMode.ofName?) d.defaultMode⟩

def playback? (v : Value) : Option PlaybackSettings := do
  let s ← fields? ["default_frame_rate", "max_frames"] v
  let d := default.playback
  return ⟨← field? s "default_frame_rate" float? d.defaultFrameRate,
    ← field? s "max_frames" (natBelow? UInt64.size) d.maxFrames⟩

def output? (v : Value) : Option OutputSettings := do
  let s ← fields? ["surface", "dump_dir", "dump_every"] v
  let d := default.output
  return ⟨← field? s "surface" (choice? SurfaceKind.ofName?) d.surface,
    ← field? s "dump_dir" text? d.dumpDir,
    ← field? s "dump_every" (natBelow? UInt32.size) d.dumpEvery⟩

def logging? (v : Value) : Option LoggingSettings := do
  let s ← fields? ["level", "file"] v
  let d := default.logging
  return ⟨← field? s "level" text? d.level, ← field? s "file" text? d.file⟩

def ofEntries? (entries : Entries) : Option Settings := do
  return ⟨← field? entries "media" media? default.media,
    ← field? entries "playback" playback? default.playback,
    ← field? entries "output" output? default.output,
    ← field? entries "logging" logging? default.logging⟩

def ofText? (text : String) : Option Settings := (Entries.ofText? text).bind ofEntries?

/-- The settings in the bytes of a file. Bytes that are no text, or no settings, say nothing. -/
def ofBytes (bytes : Bytes) : Settings :=
  ((String.fromUTF8? ⟨bytes⟩).bind ofText?).getD default

/-- One line with a value. -/
def lineOf (name value : String) : String := name ++ " = " ++ value ++ "\n"

def toText (s : Settings) : String :=
  "[media]\n" ++ lineOf "base_dir" (writeText s.media.baseDir) ++
  lineOf "default_mode" (writeText s.media.defaultMode.name) ++
  "\n[playback]\n" ++ lineOf "default_frame_rate" (writeFloat s.playback.defaultFrameRate) ++
  lineOf "max_frames" (toString s.playback.maxFrames) ++
  "\n[output]\n" ++ lineOf "surface" (writeText s.output.surface.name) ++
  lineOf "dump_dir" (writeText s.output.dumpDir) ++
  lineOf "dump_every" (toString s.output.dumpEvery) ++
  "\n[logging]\n" ++ lineOf "level" (writeText s.logging.level) ++
  lineOf "file" (writeText s.logging.file)

end AviPlayback.Settings
