import AviPlayback.Bytes
import AviPlayback.Fault

/-!
Chunks. A chunk is an eight-byte header, a name and a little-endian payload size, followed by
the payload and, when its size is odd, one pad byte. `ChunkHeader` is a header found at a place
in a file and `walk` lists the headers laid out back to back in a range; `Chunk.encode` writes
what they read.
-/
set_option autoImplicit false

namespace AviPlayback

structure ChunkHeader where
  id : FourCc
  /-- Payload size as declared, without the pad byte. -/
  size : UInt32
  /-- Where the payload starts. -/
  offset : Nat
  deriving DecidableEq, Repr

namespace ChunkHeader

def length : Nat := 8

def start (h : ChunkHeader) : Nat := h.offset - length

/-- The place just past the chunk and its pad byte. -/
def stop (h : ChunkHeader) : Nat := h.offset + h.size.toNat + h.size.toNat % 2

def isList (h : ChunkHeader) : Bool := h.id == .list || h.id == .riff

def read (file : Bytes) (pos : Nat) : Except ContainerFault ChunkHeader :=
  match readAt file pos length with
  | some bytes => .ok ⟨.readFrom bytes 0, LittleEndian.uint32At bytes 4, pos + length⟩
  | none => .error (.file .shortRead)

/-- The whole payload, refused when it runs past `limit`. -/
def readPayload (h : ChunkHeader) (file : Bytes) (limit : Nat) :
    Except ContainerFault (List UInt8) :=
  let needed := h.size.toNat
  let available := limit - h.offset
  if available < needed then .error (.truncated h.id.display needed available)
  else match readAt file h.offset needed with
    | some payload => .ok payload
    | none => .error (.file .shortRead)

def readListType (h : ChunkHeader) (file : Bytes) : Except ContainerFault FourCc :=
  match readAt file h.offset 4 with
  | some bytes => .ok (.readFrom bytes 0)
  | none => .error (.file .shortRead)

theorem offset_of_read {file : Bytes} {pos : Nat} {h : ChunkHeader}
    (hr : read file pos = .ok h) : h.offset = pos + length := by
  unfold read at hr
  split at hr
  · cases hr; rfl
  · cases hr

theorem lt_stop_of_read {file : Bytes} {pos : Nat} {h : ChunkHeader}
    (hr : read file pos = .ok h) : pos + length ≤ h.stop := by
  have := offset_of_read hr
  unfold stop
  omega

end ChunkHeader

/-- The headers laid out back to back from `pos`, as far as whole headers fit before `stop`, and
the fault that ended the walk early, if one did. -/
def walk (file : Bytes) (pos stop : Nat) : List ChunkHeader × Option ContainerFault :=
  if _hfit : stop < pos + ChunkHeader.length then ([], none)
  else match _hr : ChunkHeader.read file pos with
    | .error fault => ([], some fault)
    | .ok header =>
      let rest := walk file header.stop stop
      (header :: rest.1, rest.2)
termination_by stop - pos
decreasing_by
  have := ChunkHeader.lt_stop_of_read _hr
  simp only [ChunkHeader.length] at *
  omega

/-- A named payload. -/
structure Chunk where
  id : FourCc
  payload : List UInt8
  deriving DecidableEq, Repr

namespace Chunk

/-- The pad byte after a payload of odd size. -/
def padding (payload : List UInt8) : List UInt8 :=
  if payload.length % 2 = 1 then [0] else []

def encode (c : Chunk) : List UInt8 :=
  c.id.toBytes ++ (LittleEndian.ofNat 4 c.payload.length ++ (c.payload ++ padding c.payload))

def ofList (type : FourCc) (body : List UInt8) : Chunk := ⟨.list, type.toBytes ++ body⟩

@[simp] theorem length_encode (c : Chunk) :
    c.encode.length = 8 + c.payload.length + c.payload.length % 2 := by
  unfold encode padding
  split <;> simp <;> omega

end Chunk

end AviPlayback
