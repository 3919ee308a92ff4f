import AviPlayback.LittleEndian

/-!
Four-character codes: the names of chunks, lists, streams and codecs.
-/
set_option autoImplicit false

namespace AviPlayback

/-- Four bytes in file order. -/
structure FourCc where
  b0 : UInt8
  b1 : UInt8
  b2 : UInt8
  b3 : UInt8
  deriving DecidableEq, Repr, Inhabited

namespace FourCc

def ofChars (a b c d : Char) : FourCc := ⟨a.toUInt8, b.toUInt8, c.toUInt8, d.toUInt8⟩

/-- The outermost chunk of a file. -/
def riff : FourCc := .ofChars 'R' 'I' 'F' 'F'

/-- A chunk that holds other chunks. -/
def list : FourCc := .ofChars 'L' 'I' 'S' 'T'

/-- The form type of a video file. -/
def avi : FourCc := .ofChars 'A' 'V' 'I' ' '

/-- The list of headers. -/
def hdrl : FourCc := .ofChars 'h' 'd' 'r' 'l'

/-- The main header. -/
def avih : FourCc := .ofChars 'a' 'v' 'i' 'h'

/-- The list of one stream's headers. -/
def strl : FourCc := .ofChars 's' 't' 'r' 'l'

/-- A stream header. -/
def strh : FourCc := .ofChars 's' 't' 'r' 'h'

/-- A stream format. -/
def strf : FourCc := .ofChars 's' 't' 'r' 'f'

/-- The list of frame data. -/
def movi : FourCc := .ofChars 'm' 'o' 'v' 'i'

def record : FourCc := .ofChars 'r' 'e' 'c' ' '

/-- The frame index. -/
def idx1 : FourCc := .ofChars 'i' 'd' 'x' '1'

/-- The type of a video stream. -/
def vids : FourCc := .ofChars 'v' 'i' 'd' 's'

def toBytes (f : FourCc) : List UInt8 := [f.b0, f.b1, f.b2, f.b3]

/-- The code at an index of a record; missing bytes read as zero. -/
def readFrom (bytes : List UInt8) (i : Nat) : FourCc :=
  ⟨bytes.getD i 0, bytes.getD (i + 1) 0, bytes.getD (i + 2) 0, bytes.getD (i + 3) 0⟩

def ofUInt32 (w : UInt32) : FourCc :=
  ⟨w.toUInt8, (w >>> 8).toUInt8, (w >>> 16).toUInt8, (w >>> 24).toUInt8⟩

def toUInt32 (f : FourCc) : UInt32 := UInt32.ofNat (LittleEndian.toNat f.toBytes)

def digit? (b : UInt8) : Option Nat :=
  if 0x30 ≤ b.toNat && b.toNat ≤ 0x39 then some (b.toNat - 0x30) else none

/-- The stream number in the first two characters of a data chunk's name. -/
def streamNumber? (f : FourCc) : Option Nat :=
  match digit? f.b0, digit? f.b1 with
  | some tens, some units => some (10 * tens + units)
  | _, _ => none

/-- Whether the code names a video data chunk: a stream number, then `db` or `dc`. -/
def isVideoData (f : FourCc) : Bool :=
  f.streamNumber?.isSome && f.b2 == 'd'.toUInt8 && (f.b3 == 'b'.toUInt8 || f.b3 == 'c'.toUInt8)

/-- Whether the code names a video data chunk of the given stream. -/
def isVideoOf (f : FourCc) (stream : Nat) : Bool :=
  f.isVideoData && f.streamNumber? == some stream

/-- A byte as a character: itself when it is a visible ASCII character or a space. -/
def displayByte (b : UInt8) : Char :=
  if 0x20 ≤ b.toNat && b.toNat ≤ 0x7e then Char.ofNat b.toNat else '.'

def display (f : FourCc) : String :=
  String.ofList (f.toBytes.map displayByte)

def debug (f : FourCc) : String := "FourCc(\"" ++ f.display ++ "\")"

@[simp] theorem length_toBytes (f : FourCc) : f.toBytes.length = 4 := rfl

@[simp] theorem readFrom_toBytes_append (f : FourCc) (rest : List UInt8) :
    readFrom (f.toBytes ++ rest) 0 = f := rfl

theorem streamNumber?_lt {f : FourCc} {n : Nat} (h : f.streamNumber? = some n) : n < 100 := by
  unfold streamNumber? at h
  split at h
  · next tens units ht hu =>
    simp only [digit?, Option.ite_none_right_eq_some, Bool.and_eq_true, decide_eq_true_eq,
      Option.some.injEq] at ht hu h
    omega
  · cases h

end FourCc

end AviPlayback
