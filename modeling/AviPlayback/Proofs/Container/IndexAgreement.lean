import AviPlayback.Proofs.Container.IndexRecords
import AviPlayback.Proofs.Container.Scan

/-!
The two ways to a frame index, from the records of an index chunk and by a walk through the frame
data. For data chunks written back to back and listed relative to the `movi` code they give the
same places exactly when the first chunk of the stream lies near enough to the code for its
offset to be taken as relative (`ofRecords_eq_scan_iff`).
-/
set_option autoImplicit false

namespace AviPlayback

namespace FrameIndex

/-- A walk through written data chunks lists those of the stream, each one where it stands. -/
theorem scanFrom_written {file : Bytes} {stream limit pos stop : Nat} {chunks : List Chunk}
    (hfile : Written file pos chunks) (hplain : ∀ c ∈ chunks, c.id ≠ .list)
    (hle : pos + (encodeChunks chunks).length ≤ min stop limit)
    (hlt : min stop limit < pos + (encodeChunks chunks).length + ChunkHeader.length) :
    scanFrom file stream limit pos stop =
      .ok ⟨((headersFrom pos chunks).filter (·.id.isVideoOf stream)).map entryOfChunk, false⟩ := by
  induction chunks generalizing pos with
  | nil =>
    rw [scanFrom, dif_pos (by simpa using hlt)]
    rfl
  | cons c rest ih =>
    rw [encodeChunks_cons, List.length_append] at hle hlt
    have hlen := c.length_encode
    have hstop := hfile.1.stop_headerAt
    have hid : (c.headerAt pos).id ≠ .list := hplain c (by simp)
    have hfits : ¬ limit < (c.headerAt pos).offset + (c.headerAt pos).size.toNat := by
      rw [hfile.1.size_headerAt]
      simp only [Chunk.headerAt, ChunkHeader.length]
      omega
    have hrest := ih hfile.2 (fun c hc => hplain c (by simp [hc])) (by omega) (by omega)
    have hcomes : Comes file limit pos stop (c.headerAt pos) :=
      ⟨by unfold ChunkHeader.length; omega, hfile.1.read_eq⟩
    rw [scanFrom_of_comes hcomes, if_neg hid, hstop, hrest, headersFrom, List.filter_cons]
    by_cases hvideo : (c.headerAt pos).id.isVideoOf stream
    · rw [if_pos hvideo, if_neg hfits, if_pos hvideo]
      rfl
    · rw [if_neg hvideo, if_neg hvideo]

theorem scan_written {file : Bytes} {pos stop : Nat} {chunks : List Chunk} (stream : Nat)
    (hfile : Written file pos chunks) (hplain : ∀ c ∈ chunks, c.id ≠ .list)
    (hle : pos + (encodeChunks chunks).length ≤ stop)
    (hlt : stop < pos + (encodeChunks chunks).length + ChunkHeader.length) :
    scan file pos stop stream =
      .ok ⟨((headersFrom pos chunks).filter (·.id.isVideoOf stream)).map entryOfChunk⟩ := by
  rw [scan, scanFrom_written hfile hplain (by omega) (by omega)]
  rfl

/-- Where the payloads lie and how long they are. -/
def places (ix : FrameIndex) : List (Nat × UInt32) := ix.entries.map fun e => (e.offset, e.size)

@[simp] theorem places_map_entryOfChunk (headers : List ChunkHeader) :
    places ⟨headers.map entryOfChunk⟩ = headers.map fun h => (h.offset, h.size) := by
  simp only [places, List.map_map]
  rfl

/-- Records have the places of the chunks when their origin was guessed rightly. -/
theorem places_map_entryListed {origin : Nat} (flags : ChunkHeader → UInt32)
    {headers : List ChunkHeader}
    (hplace : ∀ h ∈ headers, origin ≤ h.start ∧ h.offset = h.start + ChunkHeader.length) :
    places ⟨headers.map (entryListed origin origin flags)⟩ =
      headers.map fun h => (h.offset, h.size) := by
  simp only [places, List.map_map]
  refine List.map_congr_left fun h hmem => ?_
  have := hplace h hmem
  simp only [Function.comp_apply, entryListed, Prod.mk.injEq, and_true]
  omega

theorem recordBase_cons_listedAs {origin moviList : Nat} {flags : ChunkHeader → UInt32}
    {first : ChunkHeader} (rest : List ChunkHeader) (hplace : first.start - origin < UInt32.size) :
    recordBase moviList ((first :: rest).map (listedAs origin flags)) =
      if first.start - origin < moviList then moviList else 0 := by
  have hword : (UInt32.ofNat (first.start - origin)).toNat = first.start - origin :=
    UInt32.toNat_ofNat_of_lt' hplace
  simp only [List.map_cons, recordBase, listedAs, hword]

theorem recordBase_le (moviList : Nat) (records : List IndexRecord) :
    recordBase moviList records ≤ moviList := by
  unfold recordBase
  split
  · split <;> omega
  · omega

/-- Records relative to the `movi` code and a walk find the same places exactly when the first
chunk of the stream, if there is one, lies less far behind the code than the code lies behind the
start of the file. -/
theorem ofRecords_eq_scan_iff {file : Bytes} {moviList : Nat} {chunks : List Chunk}
    (flags : ChunkHeader → UInt32) (stream : Nat)
    (hlist : 20 ≤ moviList) (hplain : ∀ c ∈ chunks, c.id ≠ .list)
    (hfile : Holds file moviList (FourCc.movi.toBytes ++ encodeChunks chunks))
    (hsize : file.size < UInt32.size) :
    ∃ ix jx,
      ofRecords (indexPayload moviList flags (headersFrom (moviList + 4) chunks)) moviList stream
        file.size = .ok ix ∧
      scan file (moviList + 4) (moviList + 4 + (encodeChunks chunks).length) stream = .ok jx ∧
      (ix.places = jx.places ↔
        ∀ first ∈ (headersFrom (moviList + 4) chunks).find? (·.id.isVideoOf stream),
          first.start - moviList < moviList) := by
  have hend : moviList + 4 + (encodeChunks chunks).length ≤ file.size := by
    have := hfile.add_length_le (by simp [FourCc.toBytes])
    simp only [List.length_append, FourCc.length_toBytes] at this
    omega
  have hbody : Written file (moviList + 4) chunks :=
    written_of_holds (holds_append.mp hfile).2 (by omega)
  have hwhere : ∀ h ∈ headersFrom (moviList + 4) chunks, moviList ≤ h.start ∧
      h.offset = h.start + ChunkHeader.length ∧ h.offset + h.size.toNat ≤ file.size := by
    intro h hmem
    have := bounds_of_mem_headersFrom hbody hmem
    omega
  have hplace : ∀ h ∈ headersFrom (moviList + 4) chunks, h.start - moviList < UInt32.size := by
    intro h hmem
    have := hwhere h hmem
    omega
  refine ⟨_, _, ofRecords_indexPayload moviList stream flags rfl hplace ?_,
    scan_written stream hbody hplain (Nat.le_refl _) (by simp [ChunkHeader.length]), ?_⟩
  · intro h hmem
    have := hwhere h hmem
    have := recordBase_le moviList (((headersFrom (moviList + 4) chunks).filter
      (·.id.isVideoOf stream)).map (listedAs moviList flags))
    omega
  · rw [← List.head?_filter]
    have hsel : ∀ h ∈ (headersFrom (moviList + 4) chunks).filter (·.id.isVideoOf stream),
        h ∈ headersFrom (moviList + 4) chunks := fun h hmem => (List.mem_filter.mp hmem).1
    generalize (headersFrom (moviList + 4) chunks).filter (·.id.isVideoOf stream) = selected
      at hsel ⊢
    cases selected with
    | nil => simp [places]
    | cons first rest =>
      have hfirst := hwhere first (hsel first (by simp))
      rw [recordBase_cons_listedAs rest (hplace first (hsel first (by simp)))]
      simp only [List.head?_cons, Option.mem_some_iff, forall_eq']
      split
      · next hnear =>
        refine iff_of_true ?_ hnear
        rw [places_map_entryOfChunk]
        refine places_map_entryListed flags fun h hmem => ?_
        have := hwhere h (hsel h hmem)
        omega
      · next hfar =>
        refine iff_of_false ?_ hfar
        simp only [places, List.map_cons, List.cons.injEq, entryListed, entryOfChunk,
          Prod.mk.injEq]
        omega

/-- A chunk of sound in front of the first frame. -/
def soundFirst : List Chunk :=
  [⟨.ofChars '0' '1' 'w' 'b', List.replicate 8 0⟩, ⟨.ofChars '0' '0' 'd' 'c', [1, 2]⟩]

/-- A file with its `movi` code at a place. -/
def soundFirstFile (moviList : Nat) : Bytes :=
  (List.replicate moviList 0 ++ (FourCc.movi.toBytes ++ encodeChunks soundFirst)).toArray

theorem holds_soundFirstFile (moviList : Nat) :
    Holds (soundFirstFile moviList) moviList (FourCc.movi.toBytes ++ encodeChunks soundFirst) := by
  have hfile := holds_toArray (List.replicate moviList 0)
    (FourCc.movi.toBytes ++ encodeChunks soundFirst)
  rw [List.length_replicate] at hfile
  exact hfile

theorem ofRecords_eq_scan_soundFirst :
    ∃ ix jx,
      ofRecords (indexPayload 24 (fun _ => IndexFlags.keyframe) (headersFrom 28 soundFirst)) 24 0
        54 = .ok ix ∧
      scan (soundFirstFile 24) 28 54 0 = .ok jx ∧ ix.places = jx.places := by
  obtain ⟨ix, jx, hix, hjx, hiff⟩ := ofRecords_eq_scan_iff (fun _ => IndexFlags.keyframe) 0
    (by decide) (by decide) (holds_soundFirstFile 24) (by decide)
  exact ⟨ix, jx, hix, hjx, hiff.mpr (by decide)⟩

/-- With the `movi` code as near to the start of the file as it can be, the offset of the frame is
taken as counted from the start. -/
theorem ofRecords_ne_scan_soundFirst :
    Holds (soundFirstFile 20) 20 (FourCc.movi.toBytes ++ encodeChunks soundFirst) ∧
    (∀ c ∈ soundFirst, c.id ≠ .list) ∧ (soundFirstFile 20).size = 50 ∧
    ∃ ix jx,
      ofRecords (indexPayload 20 (fun _ => IndexFlags.keyframe) (headersFrom 24 soundFirst)) 20 0
        50 = .ok ix ∧
      scan (soundFirstFile 20) 24 50 0 = .ok jx ∧
      ix.places = [(28, 2)] ∧ jx.places = [(48, 2)] := by
  have hfile := holds_soundFirstFile 20
  have hbody : Written (soundFirstFile 20) 24 soundFirst :=
    written_of_holds (holds_append.mp hfile).2 (by decide)
  refine ⟨hfile, by decide, by decide, _, _,
    ofRecords_indexPayload 20 0 (fun _ => IndexFlags.keyframe) rfl (by decide) (by decide),
    scan_written 0 hbody (by decide) (by decide) (by decide), by decide, by decide⟩

end FrameIndex

end AviPlayback
