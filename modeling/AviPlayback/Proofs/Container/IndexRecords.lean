import AviPlayback.Proofs.Container.Placement
import AviPlayback.Proofs.Outcome
import AviPlayback.Container.FrameIndex

/-!
Written index chunks. `indexPayload` lists chunks by their headers, with places counted from some
origin and with any flags; reading it gives these records back, and the frame index made from it
lists the video chunks of a stream, moved by as much as the origin was guessed wrongly
(`ofRecords_indexPayload`).
-/
set_option autoImplicit false

namespace AviPlayback

open LittleEndian

/-- The record that lists a chunk, as written. -/
def writtenRecord (origin : Nat) (flags : UInt32) (h : ChunkHeader) : List UInt8 :=
  h.id.toBytes ++ (ofUInt32 flags ++
    (ofUInt32 (UInt32.ofNat (h.start - origin)) ++ ofUInt32 h.size))

/-- The payload of an index chunk that lists the given chunks in order. -/
def indexPayload (origin : Nat) (flags : ChunkHeader → UInt32) (headers : List ChunkHeader) :
    List UInt8 :=
  headers.flatMap fun h => writtenRecord origin (flags h) h

/-- The record that lists a chunk, as read. -/
def listedAs (origin : Nat) (flags : ChunkHeader → UInt32) (h : ChunkHeader) : IndexRecord :=
  ⟨h.id, .ofBits (flags h), UInt32.ofNat (h.start - origin), h.size⟩

@[simp] theorem length_writtenRecord (origin : Nat) (flags : UInt32) (h : ChunkHeader) :
    (writtenRecord origin flags h).length = IndexRecord.length := by
  simp [writtenRecord, IndexRecord.length]

theorem length_indexPayload (origin : Nat) (flags : ChunkHeader → UInt32)
    (headers : List ChunkHeader) :
    (indexPayload origin flags headers).length = IndexRecord.length * headers.length := by
  induction headers with
  | nil => rfl
  | cons h rest ih =>
    rw [indexPayload, List.flatMap_cons, List.length_append, length_writtenRecord]
    rw [indexPayload] at ih
    rw [ih, List.length_cons, Nat.mul_succ, Nat.add_comm]

theorem parse_writtenRecord (origin : Nat) (flags : ChunkHeader → UInt32) (h : ChunkHeader)
    (rest : List UInt8) :
    IndexRecord.parse (writtenRecord origin (flags h) h ++ rest) = listedAs origin flags h := by
  have hflags := uint32At_append h.id.toBytes
    (ofUInt32 (UInt32.ofNat (h.start - origin)) ++ (ofUInt32 h.size ++ rest)) (flags h)
  have hplace := uint32At_append (h.id.toBytes ++ ofUInt32 (flags h)) (ofUInt32 h.size ++ rest)
    (UInt32.ofNat (h.start - origin))
  have hsize := uint32At_append
    (h.id.toBytes ++ (ofUInt32 (flags h) ++ ofUInt32 (UInt32.ofNat (h.start - origin)))) rest h.size
  simp only [List.length_append, length_ofUInt32, FourCc.length_toBytes, List.append_assoc]
    at hflags hplace hsize
  simp only [IndexRecord.parse, writtenRecord, listedAs, List.append_assoc, hflags, hplace, hsize,
    FourCc.readFrom_toBytes_append]

/-- Reading an index payload gives the listed records back. -/
theorem parseAll_indexPayload (origin : Nat) (flags : ChunkHeader → UInt32)
    (headers : List ChunkHeader) :
    IndexRecord.parseAll (indexPayload origin flags headers) =
      headers.map (listedAs origin flags) := by
  have hmany : IndexRecord.parseMany headers.length (indexPayload origin flags headers) =
      headers.map (listedAs origin flags) := by
    induction headers with
    | nil => rfl
    | cons h rest ih =>
      rw [List.length_cons, IndexRecord.parseMany, indexPayload, List.flatMap_cons,
        parse_writtenRecord, List.drop_left' (length_writtenRecord _ _ _)]
      rw [indexPayload] at ih
      rw [ih, List.map_cons]
  rw [IndexRecord.parseAll, length_indexPayload, Nat.mul_div_cancel_left _ (by decide), hmany]

namespace FrameIndex

/-- The entry of a listed chunk whose place is counted from `base` instead of from `origin`. -/
def entryListed (base origin : Nat) (flags : ChunkHeader → UInt32) (h : ChunkHeader) : FrameEntry :=
  ⟨base + (h.start - origin) + ChunkHeader.length, h.size, .ofBits (flags h)⟩

theorem entryOfRecord_listedAs {base origin fileLength : Nat} {flags : ChunkHeader → UInt32}
    {h : ChunkHeader} (hplace : h.start - origin < UInt32.size)
    (hfits : base + (h.start - origin) + ChunkHeader.length + h.size.toNat ≤ fileLength) :
    entryOfRecord base fileLength (listedAs origin flags h) =
      .ok (entryListed base origin flags h) := by
  have hword : (UInt32.ofNat (h.start - origin)).toNat = h.start - origin :=
    UInt32.toNat_ofNat_of_lt' hplace
  simp only [entryOfRecord, listedAs, hword, FrameEntry.stop, entryListed]
  rw [if_neg (by omega)]

/-- The index made from a written payload: the chunks of the stream, with their places counted
from the base that the first of them suggests. -/
theorem ofRecords_indexPayload {origin fileLength base : Nat} {headers : List ChunkHeader}
    (moviList stream : Nat) (flags : ChunkHeader → UInt32)
    (hbase : base = recordBase moviList
      ((headers.filter (·.id.isVideoOf stream)).map (listedAs origin flags)))
    (hplace : ∀ h ∈ headers, h.start - origin < UInt32.size)
    (hfits : ∀ h ∈ headers,
      base + (h.start - origin) + ChunkHeader.length + h.size.toNat ≤ fileLength) :
    ofRecords (indexPayload origin flags headers) moviList stream fileLength =
      .ok ⟨(headers.filter (·.id.isVideoOf stream)).map (entryListed base origin flags)⟩ := by
  have hfilter : (headers.map (listedAs origin flags)).filter (fun r => r.id.isVideoOf stream) =
      (headers.filter (·.id.isVideoOf stream)).map (listedAs origin flags) :=
    List.filter_map
  have hentries : ((headers.filter (·.id.isVideoOf stream)).map (listedAs origin flags)).mapM
      (entryOfRecord base fileLength) =
        .ok ((headers.filter (·.id.isVideoOf stream)).map (entryListed base origin flags)) := by
    rw [List.mapM_map]
    refine mapM_eq_ok fun h hmem => ?_
    have hmem := (List.mem_filter.mp hmem).1
    exact entryOfRecord_listedAs (hplace h hmem) (hfits h hmem)
  rw [ofRecords, parseAll_indexPayload]
  simp only [hfilter, ← hbase, hentries]
  rfl

end FrameIndex

end AviPlayback
