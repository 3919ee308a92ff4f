import AviPlayback.Frame.PixelBuffer

/-!
Surfaces that show pictures. A scripted sink refuses or panics at the presents its lists name.
-/
set_option autoImplicit false

namespace AviPlayback

/-- What happened to a picture given to a surface. -/
inductive Shown
  | accepted
  | refused (fault : PlayerFault)
  | panicked
  deriving DecidableEq, Repr

class FrameSink (S : Type) where
  present : S → PixelBuffer → Shown × S
  /-- The surface changed its size. -/
  resize : S → Nat → Nat → Except PlayerFault Unit × S

inductive SurfaceEvent
  | created
  | changed (width height : Nat)
  | destroyed
  deriving DecidableEq, Repr

namespace SurfaceEvent

def display : SurfaceEvent → String
  | created => "Created"
  | changed width height => s!"Changed({width}x{height})"
  | destroyed => "Destroyed"

end SurfaceEvent

/-- A sink that fails at listed presents, counted from one. -/
structure ScriptedSink where
  failing : List Nat
  panicking : List Nat
  failsResize : Bool
  presented : Nat
  deriving DecidableEq, Repr

namespace ScriptedSink

/-- Shows a picture; a panic comes before a refusal. -/
def present (s : ScriptedSink) (_ : PixelBuffer) : Shown × ScriptedSink :=
  let n := s.presented + 1
  let shown :=
    if s.panicking.contains n then .panicked
    else if s.failing.contains n then .refused (.surface "sink refused")
    else .accepted
  (shown, { s with presented := n })

def resize (s : ScriptedSink) (_ _ : Nat) : Except PlayerFault Unit × ScriptedSink :=
  (if s.failsResize then .error (.surface "resize refused") else .ok (), s)

instance : FrameSink ScriptedSink := ⟨present, resize⟩

end ScriptedSink

end AviPlayback
