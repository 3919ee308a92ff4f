/-!
Sets of flags stored in a word. The bits that a set may hold are part of its type, so unknown
bits are dropped when a word is read and can never come back.
-/
set_option autoImplicit false

namespace AviPlayback

/-- A word that holds only the bits of `mask`. -/
structure FlagSet (mask : UInt32) where
  bits : UInt32
  known : bits &&& mask = bits

namespace FlagSet

variable {mask : UInt32}

def ofBits (bits : UInt32) : FlagSet mask :=
  ⟨bits &&& mask, by rw [UInt32.and_assoc, UInt32.and_self]⟩

def contains (s : FlagSet mask) (flag : UInt32) : Bool := s.bits &&& flag == flag

def empty : FlagSet mask := ofBits 0

@[ext] theorem ext {s t : FlagSet mask} (h : s.bits = t.bits) : s = t := by
  cases s; cases t; cases h; rfl

instance : DecidableEq (FlagSet mask) := fun s t =>
  decidable_of_iff (s.bits = t.bits) ⟨ext, fun h => h ▸ rfl⟩

instance : Inhabited (FlagSet mask) := ⟨empty⟩

@[simp] theorem bits_ofBits (w : UInt32) : (ofBits w : FlagSet mask).bits = w &&& mask := rfl

@[simp] theorem ofBits_bits (s : FlagSet mask) : ofBits s.bits = s := ext s.known

end FlagSet

/-- Flags of the main header: index present, index required, interleaved, chunk types trusted,
capture file, copyrighted. -/
abbrev MainFlags := FlagSet 0x00030930

/-- Flags of an index entry: list, key frame, no time. -/
abbrev IndexFlags := FlagSet 0x00000111

/-- The entry is a key frame. -/
def IndexFlags.keyframe : UInt32 := 0x10

end AviPlayback
