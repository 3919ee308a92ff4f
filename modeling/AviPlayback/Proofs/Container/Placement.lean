import AviPlayback.Container.HeaderList

/-!
Written chunks at places of a file. `Holds` says that a file has a run of bytes at a place, and
`headersFrom` lists the headers of chunks written back to back. A walk over written chunks finds
exactly these headers (`walk_written`), and the payload and list type behind each are read back.
-/
set_option autoImplicit false

namespace AviPlayback

/-- The file has the given bytes at a place. -/
def Holds (file : Bytes) (pos : Nat) (run : List UInt8) : Prop := run <+: file.toList.drop pos

theorem holds_append {file : Bytes} {pos : Nat} {front rest : List UInt8} :
    Holds file pos (front ++ rest) ↔ Holds file pos front ∧ Holds file (pos + front.length) rest := by
  unfold Holds
  constructor
  · intro h
    have hfront : front <+: file.toList.drop pos := (List.prefix_append front rest).trans h
    refine ⟨hfront, ?_⟩
    obtain ⟨tail, htail⟩ := h
    rw [← List.drop_drop, ← htail, List.append_assoc, List.drop_left]
    exact List.prefix_append rest tail
  · rintro ⟨⟨tail, htail⟩, hrest⟩
    rw [← List.drop_drop, ← htail, List.drop_left] at hrest
    rw [← htail]
    exact (List.prefix_append_right_inj front).mpr hrest

theorem holds_toArray (front run : List UInt8) : Holds (front ++ run).toArray front.length run := by
  refine ⟨[], ?_⟩
  rw [List.append_nil, List.toList_toArray, List.drop_left]

namespace Holds

variable {file : Bytes} {pos : Nat} {run : List UInt8}

theorem readAt_eq_some (h : Holds file pos run) : readAt file pos run.length = some run := by
  have htake : (file.toList.drop pos).take run.length = run := (List.prefix_iff_eq_take.mp h).symm
  rw [readAt_eq, htake, if_pos rfl]

theorem add_length_le (h : Holds file pos run) (hne : run ≠ []) : pos + run.length ≤ file.size := by
  have hlen := h.length_le
  have hpos := List.length_pos_iff.mpr hne
  have hsize : file.toList.length = file.size := Array.length_toList
  rw [List.length_drop] at hlen
  omega

/-- A written header is read back. -/
theorem read_eq {id : FourCc} {size : Nat}
    (h : Holds file pos (id.toBytes ++ LittleEndian.ofNat 4 size)) :
    ChunkHeader.read file pos = .ok ⟨id, UInt32.ofNat size, pos + ChunkHeader.length⟩ := by
  have hread : readAt file pos ChunkHeader.length =
      some (id.toBytes ++ LittleEndian.ofNat 4 size) := h.readAt_eq_some
  have hsize : LittleEndian.uint32At (id.toBytes ++ LittleEndian.ofNat 4 size) 4 =
      UInt32.ofNat size := by
    rw [LittleEndian.uint32At, List.drop_left' id.length_toBytes,
      List.take_of_length_le (by simp), LittleEndian.toNat_ofNat]
    apply UInt32.toNat_inj.mp
    simp
  rw [ChunkHeader.read, hread]
  simp [hsize]

/-- A written list type is read back. -/
theorem readListType_eq {h : ChunkHeader} {type : FourCc} (ht : Holds file h.offset type.toBytes) :
    h.readListType file = .ok type := by
  have hread : readAt file h.offset 4 = some type.toBytes := ht.readAt_eq_some
  rw [ChunkHeader.readListType, hread]
  rfl

end Holds

def encodeChunks (chunks : List Chunk) : List UInt8 := chunks.flatMap Chunk.encode

@[simp] theorem encodeChunks_nil : encodeChunks [] = [] := rfl

@[simp] theorem encodeChunks_cons (c : Chunk) (rest : List Chunk) :
    encodeChunks (c :: rest) = c.encode ++ encodeChunks rest := rfl

namespace Chunk

def headerAt (c : Chunk) (pos : Nat) : ChunkHeader :=
  ⟨c.id, UInt32.ofNat c.payload.length, pos + ChunkHeader.length⟩

@[simp] theorem id_headerAt (c : Chunk) (pos : Nat) : (c.headerAt pos).id = c.id := rfl

@[simp] theorem offset_headerAt (c : Chunk) (pos : Nat) :
    (c.headerAt pos).offset = pos + ChunkHeader.length := rfl

/-- The file has the chunk at a place, and its size fits the size field. -/
structure WrittenAt (c : Chunk) (file : Bytes) (pos : Nat) : Prop where
  sized : c.payload.length < UInt32.size
  holds : Holds file pos c.encode

theorem start_headerAt (c : Chunk) (pos : Nat) : (c.headerAt pos).start = pos := by
  simp [headerAt, ChunkHeader.start]

namespace WrittenAt

variable {c : Chunk} {file : Bytes} {pos : Nat}

theorem size_headerAt (hc : c.WrittenAt file pos) :
    (c.headerAt pos).size.toNat = c.payload.length :=
  UInt32.toNat_ofNat_of_lt' hc.sized

theorem stop_headerAt (hc : c.WrittenAt file pos) :
    (c.headerAt pos).stop = pos + c.encode.length := by
  rw [ChunkHeader.stop, hc.size_headerAt, length_encode]
  simp only [headerAt, ChunkHeader.length]
  omega

theorem add_length_le (hc : c.WrittenAt file pos) : pos + c.encode.length ≤ file.size := by
  refine hc.holds.add_length_le (List.ne_nil_of_length_pos ?_)
  rw [length_encode]
  omega

/-- A written chunk is its header's eight bytes, its payload and its padding. -/
theorem header_and_payload (hc : c.WrittenAt file pos) :
    Holds file pos (c.id.toBytes ++ LittleEndian.ofNat 4 c.payload.length) ∧
      Holds file (pos + ChunkHeader.length) c.payload := by
  have hfile := hc.holds
  rw [encode, ← List.append_assoc, holds_append] at hfile
  exact ⟨hfile.1, (holds_append.mp hfile.2).1⟩

theorem read_eq (hc : c.WrittenAt file pos) :
    ChunkHeader.read file pos = .ok (c.headerAt pos) :=
  hc.header_and_payload.1.read_eq

theorem readPayload_eq (hc : c.WrittenAt file pos) {limit : Nat}
    (hlimit : pos + c.encode.length ≤ limit) :
    (c.headerAt pos).readPayload file limit = .ok c.payload := by
  have hread : readAt file (c.headerAt pos).offset c.payload.length = some c.payload :=
    hc.header_and_payload.2.readAt_eq_some
  have hroom : ¬ limit - (c.headerAt pos).offset < c.payload.length := by
    rw [length_encode] at hlimit
    simp only [headerAt, ChunkHeader.length]
    omega
  simp only [ChunkHeader.readPayload, hc.size_headerAt, if_neg hroom, hread]

end WrittenAt

end Chunk

/-- The file has the chunks back to back from a place on. -/
def Written (file : Bytes) : Nat → List Chunk → Prop
  | _, [] => True
  | pos, c :: rest => c.WrittenAt file pos ∧ Written file (pos + c.encode.length) rest

/-- The headers of chunks written back to back from a place on. -/
def headersFrom : Nat → List Chunk → List ChunkHeader
  | _, [] => []
  | pos, c :: rest => c.headerAt pos :: headersFrom (pos + c.encode.length) rest

theorem written_of_holds {file : Bytes} {pos : Nat} {chunks : List Chunk}
    (hfile : Holds file pos (encodeChunks chunks))
    (hsize : (encodeChunks chunks).length < UInt32.size) : Written file pos chunks := by
  induction chunks generalizing pos with
  | nil => trivial
  | cons c rest ih =>
    rw [encodeChunks_cons, holds_append] at hfile
    rw [encodeChunks_cons, List.length_append, Chunk.length_encode] at hsize
    exact ⟨⟨by omega, hfile.1⟩, ih hfile.2 (by omega)⟩

/-- The type of a written list is read back, and its chunks stand behind it. -/
theorem Chunk.WrittenAt.readList {c : Chunk} {file : Bytes} {pos : Nat} (hc : c.WrittenAt file pos)
    {type : FourCc} {chunks : List Chunk} (hlist : c.payload = type.toBytes ++ encodeChunks chunks) :
    (c.headerAt pos).readListType file = .ok type ∧ Written file (pos + 12) chunks := by
  have hpayload := hc.header_and_payload.2
  have hsized := hc.sized
  rw [hlist, List.length_append] at hsized
  rw [hlist, holds_append] at hpayload
  exact ⟨hpayload.1.readListType_eq, written_of_holds hpayload.2 (by omega)⟩

theorem Written.append {file : Bytes} {pos : Nat} {front rest : List Chunk}
    (h : Written file pos (front ++ rest)) :
    Written file pos front ∧ Written file (pos + (encodeChunks front).length) rest := by
  induction front generalizing pos with
  | nil => exact ⟨trivial, h⟩
  | cons c front ih =>
    obtain ⟨hfront, hrest⟩ := ih h.2
    rw [encodeChunks_cons, List.length_append, ← Nat.add_assoc]
    exact ⟨⟨h.1, hfront⟩, hrest⟩

theorem encodeChunks_append (front rest : List Chunk) :
    encodeChunks (front ++ rest) = encodeChunks front ++ encodeChunks rest :=
  List.flatMap_append

theorem headersFrom_append (pos : Nat) (front rest : List Chunk) :
    headersFrom pos (front ++ rest) =
      headersFrom pos front ++ headersFrom (pos + (encodeChunks front).length) rest := by
  induction front generalizing pos with
  | nil => simp [headersFrom]
  | cons c front ih => simp [headersFrom, ih, Nat.add_assoc]

/-- Each header stands between the start and the end of what is written. -/
theorem bounds_of_mem_headersFrom {file : Bytes} {pos : Nat} {chunks : List Chunk}
    (hfile : Written file pos chunks) {h : ChunkHeader} (hmem : h ∈ headersFrom pos chunks) :
    pos ≤ h.start ∧ h.offset = h.start + ChunkHeader.length ∧
      h.offset + h.size.toNat ≤ pos + (encodeChunks chunks).length := by
  induction chunks generalizing pos with
  | nil => simp [headersFrom] at hmem
  | cons c rest ih =>
    have hlen := c.length_encode
    rw [encodeChunks_cons, List.length_append]
    rw [headersFrom, List.mem_cons] at hmem
    rcases hmem with rfl | hmem
    · rw [hfile.1.size_headerAt, Chunk.start_headerAt]
      refine ⟨Nat.le_refl _, rfl, ?_⟩
      simp only [Chunk.headerAt, ChunkHeader.length]
      omega
    · have := ih hfile.2 hmem
      omega

/-- What stands behind the headers of chunks selected by their names are their payloads. -/
theorem map_readAt_headersFrom {file : Bytes} {pos : Nat} {chunks : List Chunk}
    (hfile : Written file pos chunks) (p : FourCc → Bool) :
    ((headersFrom pos chunks).filter fun h => p h.id).map
        (fun h => readAt file h.offset h.size.toNat) =
      (chunks.filter fun c => p c.id).map fun c => some c.payload := by
  induction chunks generalizing pos with
  | nil => rfl
  | cons c rest ih =>
    have hread : readAt file (c.headerAt pos).offset (c.headerAt pos).size.toNat =
        some c.payload := by
      rw [hfile.1.size_headerAt]
      exact hfile.1.header_and_payload.2.readAt_eq_some
    rw [headersFrom, List.filter_cons, List.filter_cons, Chunk.id_headerAt]
    split
    · rw [List.map_cons, List.map_cons, hread, ih hfile.2]
    · exact ih hfile.2

/-- A walk finds the chunks written in its range, however the range is rounded up. -/
theorem walk_written {file : Bytes} {pos stop : Nat} {chunks : List Chunk}
    (hfile : Written file pos chunks) (hle : pos + (encodeChunks chunks).length ≤ stop)
    (hlt : stop < pos + (encodeChunks chunks).length + ChunkHeader.length) :
    walk file pos stop = (headersFrom pos chunks, none) := by
  induction chunks generalizing pos with
  | nil =>
    rw [walk, dif_pos (by simpa using hlt)]
    rfl
  | cons c rest ih =>
    rw [encodeChunks_cons, List.length_append] at hle hlt
    have hlen := c.length_encode
    have hfit : ¬ stop < pos + ChunkHeader.length := by
      rw [ChunkHeader.length]
      omega
    have hrest := ih hfile.2 (by omega) (by omega)
    rw [walk, dif_neg hfit]
    split
    · next fault heq => rw [hfile.1.read_eq] at heq; cases heq
    · next header heq =>
      rw [hfile.1.read_eq] at heq
      cases heq
      simp only [hfile.1.stop_headerAt, hrest, headersFrom]

/-- A fold over written chunks sees their headers one after another. -/
theorem foldChunks_written {σ : Type} {file : Bytes} {pos stop : Nat} {chunks : List Chunk}
    (hfile : Written file pos chunks) (init : σ)
    (f : σ → ChunkHeader → Except ContainerFault σ)
    (hle : pos + (encodeChunks chunks).length ≤ stop)
    (hlt : stop < pos + (encodeChunks chunks).length + ChunkHeader.length) :
    foldChunks file pos stop init f = (headersFrom pos chunks).foldlM f init := by
  rw [foldChunks, walk_written hfile hle hlt]
  dsimp only
  split <;> simp_all

/-- The length of a written list. -/
theorem Chunk.length_encode_of_list {c : Chunk} {type : FourCc} {chunks : List Chunk}
    (hlist : c.payload = type.toBytes ++ encodeChunks chunks) :
    c.encode.length = 12 + (encodeChunks chunks).length +
      (4 + (encodeChunks chunks).length) % 2 := by
  rw [c.length_encode, hlist, List.length_append, FourCc.length_toBytes]
  omega

/-- A fold over the contents of a written list sees the headers of its chunks. -/
theorem Chunk.WrittenAt.foldChunks_eq {σ : Type} {c : Chunk} {file : Bytes} {pos : Nat}
    (hc : c.WrittenAt file pos) {type : FourCc} {chunks : List Chunk}
    (hlist : c.payload = type.toBytes ++ encodeChunks chunks) (init : σ)
    (f : σ → ChunkHeader → Except ContainerFault σ) :
    foldChunks file (pos + 12) (pos + c.encode.length) init f =
      (headersFrom (pos + 12) chunks).foldlM f init := by
  have hlength := length_encode_of_list hlist
  rw [foldChunks_written (hc.readList hlist).2 init f (by omega)
    (by rw [ChunkHeader.length]; omega)]

end AviPlayback
