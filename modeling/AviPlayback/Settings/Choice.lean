import AviPlayback.Text.Quoted

/-!
The choices that a user spells out: how to render, and where to show the pictures. Case does not
matter for ASCII letters, and some choices have several spellings.
-/
set_option autoImplicit false

namespace AviPlayback

/-- A spelling that names no choice, in lower case. -/
inductive ChoiceFault
  | unknownMode (spelling : String)
  | unknownSurface (spelling : String)
  deriving DecidableEq, Repr

namespace ChoiceFault

def message : ChoiceFault → String
  | unknownMode s => s!"unknown render mode: {Text.quoted s} (expected bitmap or gl)"
  | unknownSurface s => s!"unknown surface: {Text.quoted s} (expected null or ppm)"

end ChoiceFault

def asciiLower (s : String) : String := s.map Char.toLower

inductive RenderMode
  /-- In software, into a picture. -/
  | bitmap
  /-- Through a texture. -/
  | gl
  deriving DecidableEq, Repr, Inhabited

namespace RenderMode

def name : RenderMode → String
  | bitmap => "bitmap"
  | gl => "gl"

def ofName? : String → Option RenderMode
  | "bitmap" => some bitmap
  | "gl" => some gl
  | _ => none

def parse (s : String) : Except ChoiceFault RenderMode :=
  match asciiLower s with
  | "bitmap" | "software" => .ok bitmap
  | "gl" | "opengl" | "texture" => .ok gl
  | other => .error (.unknownMode other)

end RenderMode

inductive SurfaceKind
  /-- Nowhere. -/
  | null
  /-- In picture files. -/
  | ppm
  deriving DecidableEq, Repr, Inhabited

namespace SurfaceKind

def name : SurfaceKind → String
  | null => "null"
  | ppm => "ppm"

def ofName? : String → Option SurfaceKind
  | "null" => some null
  | "ppm" => some ppm
  | _ => none

def parse (s : String) : Except ChoiceFault SurfaceKind :=
  match asciiLower s with
  | "null" | "none" => .ok null
  | "ppm" => .ok ppm
  | other => .error (.unknownSurface other)

end SurfaceKind

end AviPlayback
