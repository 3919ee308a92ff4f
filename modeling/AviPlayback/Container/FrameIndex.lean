import AviPlayback.Container.Chunk
import AviPlayback.Container.FlagSet

/-!
The frame index of a video stream: where each frame's payload lies. It is read from the records
of an `idx1` chunk (`FrameIndex.ofRecords`), or made by walking the `movi` list and the record
lists inside it (`FrameIndex.scan`).
-/
set_option autoImplicit false

namespace AviPlayback

/-- Where one frame's payload lies. -/
structure FrameEntry where
  offset : Nat
  size : UInt32
  flags : IndexFlags
  deriving DecidableEq

namespace FrameEntry

def isKeyframe (e : FrameEntry) : Bool := e.flags.contains IndexFlags.keyframe

def stop (e : FrameEntry) : Nat := e.offset + e.size.toNat

end FrameEntry

/-- The frames of one stream, in playing order. -/
structure FrameIndex where
  entries : List FrameEntry
  deriving DecidableEq

instance : Inhabited FrameIndex := ⟨⟨[]⟩⟩

/-- One record of an `idx1` chunk. -/
structure IndexRecord where
  id : FourCc
  flags : IndexFlags
  /-- Where the chunk header lies, counted from the `movi` code or from the start of the file. -/
  offset : UInt32
  size : UInt32
  deriving DecidableEq

namespace IndexRecord

def length : Nat := 16

def parse (bytes : List UInt8) : IndexRecord where
  id := .readFrom bytes 0
  flags := .ofBits (LittleEndian.uint32At bytes 4)
  offset := LittleEndian.uint32At bytes 8
  size := LittleEndian.uint32At bytes 12

def parseMany : Nat → List UInt8 → List IndexRecord
  | 0, _ => []
  | count + 1, payload => parse payload :: parseMany count (payload.drop length)

/-- The whole records of a payload; a shorter rest is ignored. -/
def parseAll (payload : List UInt8) : List IndexRecord :=
  parseMany (payload.length / length) payload

end IndexRecord

namespace FrameIndex

def length (ix : FrameIndex) : Nat := ix.entries.length

def get? (ix : FrameIndex) (frame : Nat) : Option FrameEntry := ix.entries[frame]?

/-- The size of the largest payload, zero without frames. -/
def maxFrameSize (ix : FrameIndex) : Nat :=
  ix.entries.foldl (fun m e => max m e.size.toNat) 0

/-- The entry that a record stands for, refused when it runs past the end of the file. -/
def entryOfRecord (base fileLength : Nat) (r : IndexRecord) : Except ContainerFault FrameEntry :=
  let entry : FrameEntry := ⟨base + r.offset.toNat + ChunkHeader.length, r.size, r.flags⟩
  if fileLength < entry.stop then .error (.truncated "idx1 entry" entry.stop fileLength)
  else .ok entry

/-- What the offsets of a stream's records are counted from: the `movi` code when the first
record lies before it, else the start of the file. -/
def recordBase (moviList : Nat) : List IndexRecord → Nat
  | first :: _ => if first.offset.toNat < moviList then moviList else 0
  | [] => 0

/-- The index that the records of an `idx1` payload give for a stream. -/
def ofRecords (payload : List UInt8) (moviList stream fileLength : Nat) :
    Except ContainerFault FrameIndex :=
  let records := (IndexRecord.parseAll payload).filter fun r => r.id.isVideoOf stream
  let base := recordBase moviList records
  (records.mapM (entryOfRecord base fileLength)).map FrameIndex.mk

/-- What a walk through part of a `movi` list found, and whether it met a frame that runs past
the end of the list, after which nothing more is listed. -/
structure Scan where
  entries : List FrameEntry
  halted : Bool

/-- The key frame entry of a data chunk. -/
def entryOfChunk (h : ChunkHeader) : FrameEntry :=
  ⟨h.offset, h.size, .ofBits IndexFlags.keyframe⟩

/-- Walks the chunks between `pos` and `stop`. A record list is walked in its place, as far as
its declared end and `limit` allow; other lists are passed over. -/
def scanFrom (file : Bytes) (stream limit pos stop : Nat) : Except ContainerFault Scan :=
  if _hfit : min stop limit < pos + ChunkHeader.length then .ok ⟨[], false⟩
  else match _hr : ChunkHeader.read file pos with
    | .error fault => .error fault
    | .ok h =>
      if h.id = .list then
        match h.readListType file with
        | .error fault => .error fault
        | .ok type =>
          if type = .record then
            match scanFrom file stream limit (h.offset + 4) (min h.stop limit) with
            | .error fault => .error fault
            | .ok inner =>
              if inner.halted then .ok inner
              else match scanFrom file stream limit h.stop stop with
                | .error fault => .error fault
                | .ok rest => .ok ⟨inner.entries ++ rest.entries, rest.halted⟩
          else scanFrom file stream limit h.stop stop
      else if h.id.isVideoOf stream then
        if limit < h.offset + h.size.toNat then .ok ⟨[], true⟩
        else match scanFrom file stream limit h.stop stop with
          | .error fault => .error fault
          | .ok rest => .ok ⟨entryOfChunk h :: rest.entries, rest.halted⟩
      else scanFrom file stream limit h.stop stop
termination_by limit - pos
decreasing_by
  all_goals
    have hstop := ChunkHeader.lt_stop_of_read _hr
    have hoff := ChunkHeader.offset_of_read _hr
    simp only [ChunkHeader.length] at *
    omega

def scan (file : Bytes) (start stop stream : Nat) : Except ContainerFault FrameIndex :=
  (scanFrom file stream stop start stop).map fun s => ⟨s.entries⟩

end FrameIndex

end AviPlayback
