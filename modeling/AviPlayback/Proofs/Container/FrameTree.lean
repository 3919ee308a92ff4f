import AviPlayback.Proofs.Container.FileOrder

/-!
Well-formed trees of frame data. A `FrameTree` is what a list of frame data holds when all declared
sizes are the real ones: data chunks, record lists and lists of other types, nested as deep as one
likes. `FrameTree.encode` writes a tree and `FrameTree.reached` lists the data chunks that are
reached through record lists only. A scan of a written tree finds the frames of its stream among
these and nothing else (`FrameIndex.scan_tree`).
-/
set_option autoImplicit false

namespace AviPlayback

namespace FourCc

/-- The names of the video data chunks of a stream: its number in two digits, then `db` or `dc`. -/
def videoCodes (stream : Nat) : List FourCc :=
  if stream < 100 then
    ['b', 'c'].map fun kind =>
      .ofChars (Nat.digitChar (stream / 10)) (Nat.digitChar (stream % 10)) 'd' kind
  else []

theorem digit?_eq_some_iff {b : UInt8} {n : Nat} :
    digit? b = some n ↔ n < 10 ∧ b = (Nat.digitChar n).toUInt8 := by
  have hchar : ∀ n < 10, (Nat.digitChar n).toUInt8.toNat = 0x30 + n := by decide
  simp only [digit?, Option.ite_none_right_eq_some, Bool.and_eq_true, decide_eq_true_eq,
    Option.some.injEq]
  constructor
  · rintro ⟨hrange, hdigit⟩
    have hn : n < 10 := by omega
    refine ⟨hn, UInt8.toNat_inj.mp ?_⟩
    rw [hchar n hn]
    omega
  · rintro ⟨hn, rfl⟩
    rw [hchar n hn]
    omega

theorem streamNumber?_eq_some_iff {f : FourCc} {n : Nat} :
    f.streamNumber? = some n ↔ n < 100 ∧ f.b0 = (Nat.digitChar (n / 10)).toUInt8 ∧
      f.b1 = (Nat.digitChar (n % 10)).toUInt8 := by
  have hdigits : f.streamNumber? = some n ↔
      ∃ tens units, digit? f.b0 = some tens ∧ digit? f.b1 = some units ∧ 10 * tens + units = n := by
    unfold streamNumber?
    split <;> simp_all
  rw [hdigits]
  simp only [digit?_eq_some_iff]
  constructor
  · rintro ⟨tens, units, ⟨htens, hb0⟩, ⟨hunits, hb1⟩, rfl⟩
    have hdiv : (10 * tens + units) / 10 = tens := by omega
    have hmod : (10 * tens + units) % 10 = units := by omega
    rw [hdiv, hmod]
    exact ⟨by omega, hb0, hb1⟩
  · rintro ⟨hn, hb0, hb1⟩
    exact ⟨n / 10, n % 10, ⟨by omega, hb0⟩, ⟨by omega, hb1⟩, by omega⟩

theorem isVideoOf_iff_mem {f : FourCc} {stream : Nat} :
    f.isVideoOf stream ↔ f ∈ videoCodes stream := by
  have hparts : f.isVideoOf stream ↔ f.streamNumber? = some stream ∧ f.b2 = 'd'.toUInt8 ∧
      (f.b3 = 'b'.toUInt8 ∨ f.b3 = 'c'.toUInt8) := by
    simp only [isVideoOf, isVideoData, Bool.and_eq_true, Bool.or_eq_true, beq_iff_eq]
    constructor
    · rintro ⟨⟨⟨_, hb2⟩, hb3⟩, hnumber⟩
      exact ⟨hnumber, hb2, hb3⟩
    · rintro ⟨hnumber, hb2, hb3⟩
      exact ⟨⟨⟨by simp [hnumber], hb2⟩, hb3⟩, hnumber⟩
  obtain ⟨b0, b1, b2, b3⟩ := f
  rw [hparts, streamNumber?_eq_some_iff, videoCodes]
  split
  · next hsmall =>
    simp only [hsmall, ofChars, List.map_cons, List.map_nil, List.mem_cons, List.not_mem_nil,
      FourCc.mk.injEq, true_and, or_false]
    tauto
  · next hlarge => simp [hlarge]

end FourCc

namespace Chunk

/-- The written form of a chunk that has the given pad byte, if it needs one. -/
def encodeWith (c : Chunk) (pad : UInt8) : List UInt8 :=
  (c.id.toBytes ++ LittleEndian.ofNat 4 c.payload.length) ++
    (c.payload ++ if c.payload.length % 2 = 1 then [pad] else [])

@[simp] theorem length_encodeWith (c : Chunk) (pad : UInt8) :
    (c.encodeWith pad).length = 8 + c.payload.length + c.payload.length % 2 := by
  unfold encodeWith
  split <;> simp <;> omega

variable {c : Chunk} {pad : UInt8} {file : Bytes} {pos : Nat}

/-- The payload stands behind the eight bytes of the header. -/
theorem holds_of_encodeWith (hfile : Holds file pos (c.encodeWith pad)) :
    ChunkHeader.read file pos = .ok (c.headerAt pos) ∧
      Holds file (pos + ChunkHeader.length) c.payload := by
  obtain ⟨hheader, hrest⟩ := holds_append.mp hfile
  exact ⟨hheader.read_eq, (holds_append.mp hrest).1⟩

theorem stop_headerAt_encodeWith (hsized : c.payload.length < UInt32.size) (pad : UInt8) :
    (c.headerAt pos).stop = pos + (c.encodeWith pad).length := by
  have hsize : (c.headerAt pos).size.toNat = c.payload.length := UInt32.toNat_ofNat_of_lt' hsized
  rw [ChunkHeader.stop, hsize, length_encodeWith, offset_headerAt, ChunkHeader.length]
  omega

theorem length_encode_ofList (type : FourCc) (body : List UInt8) :
    (ofList type body).encode.length = 12 + body.length + body.length % 2 := by
  rw [length_encode, ofList, List.length_append, FourCc.length_toBytes]
  omega

end Chunk

/-- What a list of frame data holds, chunk by chunk. -/
inductive FrameTree
  | nil
  /-- A data chunk with the pad byte that it has when its payload is odd. -/
  | chunk (c : Chunk) (pad : UInt8) (rest : FrameTree)
  /-- A list of some type, with what it holds. -/
  | list (type : FourCc) (body rest : FrameTree)

namespace FrameTree

def encode : FrameTree → List UInt8
  | nil => []
  | chunk c pad rest => c.encodeWith pad ++ rest.encode
  | list type body rest => (Chunk.ofList type body.encode).encode ++ rest.encode

/-- Data chunks are no lists, and every size fits the size field. -/
def WellFormed : FrameTree → Prop
  | nil => True
  | chunk c _ rest => c.id ≠ .list ∧ c.payload.length < UInt32.size ∧ rest.WellFormed
  | list type body rest =>
    (Chunk.ofList type body.encode).payload.length < UInt32.size ∧ body.WellFormed ∧ rest.WellFormed

instance decidableWellFormed : (tree : FrameTree) → Decidable tree.WellFormed
  | nil => inferInstanceAs (Decidable True)
  | chunk c _ rest =>
    have := decidableWellFormed rest
    inferInstanceAs (Decidable (c.id ≠ .list ∧ c.payload.length < UInt32.size ∧ rest.WellFormed))
  | list type body rest =>
    have := decidableWellFormed body
    have := decidableWellFormed rest
    inferInstanceAs (Decidable ((Chunk.ofList type body.encode).payload.length < UInt32.size ∧
      body.WellFormed ∧ rest.WellFormed))

/-- The data chunks that are reached through record lists only, in file order, each with the place
of its header when the tree is written at `pos`. -/
def reached : FrameTree → Nat → List (Nat × Chunk)
  | nil, _ => []
  | chunk c pad rest, pos => (pos, c) :: rest.reached (pos + (c.encodeWith pad).length)
  | list type body rest, pos =>
    (if type = .record then body.reached (pos + 12) else []) ++
      rest.reached (pos + (Chunk.ofList type body.encode).encode.length)

/-- The reached chunks that hold frames of a stream. -/
def frames (tree : FrameTree) (stream pos : Nat) : List (Nat × Chunk) :=
  (tree.reached pos).filter fun c => c.2.id ∈ FourCc.videoCodes stream

theorem frames_chunk (c : Chunk) (pad : UInt8) (rest : FrameTree) (stream pos : Nat) :
    (chunk c pad rest).frames stream pos =
      if c.id.isVideoOf stream then (pos, c) :: rest.frames stream (pos + (c.encodeWith pad).length)
      else rest.frames stream (pos + (c.encodeWith pad).length) := by
  simp only [frames, reached, List.filter_cons, decide_eq_true_eq, FourCc.isVideoOf_iff_mem]

theorem frames_list (type : FourCc) (body rest : FrameTree) (stream pos : Nat) :
    (list type body rest).frames stream pos =
      (if type = .record then body.frames stream (pos + 12) else []) ++
        rest.frames stream (pos + (Chunk.ofList type body.encode).encode.length) := by
  rw [frames, reached, List.filter_append]
  split <;> rfl

variable {tree : FrameTree} {file : Bytes} {pos : Nat}

/-- The chunks that are reached lie inside the tree. -/
theorem bounds_of_mem_reached {c : Nat × Chunk} (hmem : c ∈ tree.reached pos) :
    pos ≤ c.1 ∧ c.1 + ChunkHeader.length + c.2.payload.length ≤ pos + tree.encode.length := by
  induction tree generalizing pos with
  | nil => simp [reached] at hmem
  | chunk first pad rest ih =>
    rw [encode, List.length_append]
    rcases List.mem_cons.mp hmem with rfl | hmem
    · simp only [Chunk.length_encodeWith, ChunkHeader.length]
      omega
    · have := ih hmem
      omega
  | list type body rest ihBody ihRest =>
    have hlength := Chunk.length_encode_ofList type body.encode
    rw [encode, List.length_append]
    rcases List.mem_append.mp hmem with hmem | hmem
    · split at hmem
      · have := ihBody hmem
        omega
      · simp at hmem
    · have := ihRest hmem
      omega

/-- A chunk that is reached has its payload behind its place, and a size that fits. -/
theorem holds_of_mem_reached (hw : tree.WellFormed) (hfile : Holds file pos tree.encode)
    {c : Nat × Chunk} (hmem : c ∈ tree.reached pos) :
    c.2.payload.length < UInt32.size ∧ Holds file (c.1 + ChunkHeader.length) c.2.payload := by
  induction tree generalizing pos with
  | nil => simp [reached] at hmem
  | chunk first pad rest ih =>
    obtain ⟨_, hsized, hrest⟩ := hw
    obtain ⟨hfirst, htail⟩ := holds_append.mp hfile
    rcases List.mem_cons.mp hmem with rfl | hmem
    · exact ⟨hsized, (Chunk.holds_of_encodeWith hfirst).2⟩
    · exact ih hrest htail hmem
  | list type body rest ihBody ihRest =>
    obtain ⟨hsized, hbody, hrest⟩ := hw
    obtain ⟨hlist, htail⟩ := holds_append.mp hfile
    have hc : (Chunk.ofList type body.encode).WrittenAt file pos := ⟨hsized, hlist⟩
    obtain ⟨_, hinside⟩ := holds_append.mp hc.header_and_payload.2
    rcases List.mem_append.mp hmem with hmem | hmem
    · split at hmem
      · exact ihBody hbody hinside hmem
      · simp at hmem
    · exact ihRest hrest htail hmem

/-- A chunk ends before the header of another one. -/
theorem reached_pairwise (tree : FrameTree) (pos : Nat) :
    (tree.reached pos).Pairwise fun a b => a.1 + ChunkHeader.length + a.2.payload.length ≤ b.1 := by
  induction tree generalizing pos with
  | nil => exact List.Pairwise.nil
  | chunk first pad rest ih =>
    refine List.pairwise_cons.mpr ⟨fun c hc => ?_, ih _⟩
    have := (bounds_of_mem_reached hc).1
    simp only [Chunk.length_encodeWith, ChunkHeader.length] at this ⊢
    omega
  | list type body rest ihBody ihRest =>
    refine List.pairwise_append.mpr ⟨?_, ihRest _, fun a ha b hb => ?_⟩
    · split
      · exact ihBody _
      · exact List.Pairwise.nil
    · have hlength := Chunk.length_encode_ofList type body.encode
      have hbehind := (bounds_of_mem_reached hb).1
      split at ha
      · have hinside := (bounds_of_mem_reached ha).2
        omega
      · simp at ha

end FrameTree

namespace FrameIndex

variable {tree : FrameTree} {file : Bytes} {stream limit pos stop : Nat}

/-- A walk through a written tree lists the frames of the stream, each one where it stands. -/
theorem scanFrom_tree (hw : tree.WellFormed) (hfile : Holds file pos tree.encode)
    (hle : pos + tree.encode.length ≤ min stop limit)
    (hlt : min stop limit < pos + tree.encode.length + ChunkHeader.length) :
    scanFrom file stream limit pos stop =
      .ok ⟨(tree.frames stream pos).map fun c => entryOfChunk (c.2.headerAt c.1), false⟩ := by
  induction tree generalizing pos stop with
  | nil =>
    rw [scanFrom, dif_pos (by simpa [FrameTree.encode] using hlt)]
    rfl
  | chunk first pad rest ih =>
    obtain ⟨hplain, hsized, hrest⟩ := hw
    obtain ⟨hfirst, htail⟩ := holds_append.mp hfile
    have hlength := first.length_encodeWith pad
    have hsize : (first.headerAt pos).size.toNat = first.payload.length :=
      UInt32.toNat_ofNat_of_lt' hsized
    rw [FrameTree.encode, List.length_append] at hle hlt
    have hcomes : Comes file limit pos stop (first.headerAt pos) :=
      ⟨by unfold ChunkHeader.length; omega, (Chunk.holds_of_encodeWith hfirst).1⟩
    have hfits : ¬ limit < (first.headerAt pos).offset + (first.headerAt pos).size.toNat := by
      rw [hsize, Chunk.offset_headerAt, ChunkHeader.length]
      omega
    rw [scanFrom_of_comes hcomes, Chunk.id_headerAt, if_neg hplain,
      Chunk.stop_headerAt_encodeWith hsized pad, ih hrest htail (by omega) (by omega),
      FrameTree.frames_chunk]
    by_cases hvideo : first.id.isVideoOf stream
    · rw [if_pos hvideo, if_neg hfits, if_pos hvideo]
      rfl
    · rw [if_neg hvideo, if_neg hvideo]
  | list type body rest ihBody ihRest =>
    obtain ⟨hsized, hbody, hrest⟩ := hw
    obtain ⟨hlist, htail⟩ := holds_append.mp hfile
    have hc : (Chunk.ofList type body.encode).WrittenAt file pos := ⟨hsized, hlist⟩
    obtain ⟨htype, hinside⟩ := holds_append.mp hc.header_and_payload.2
    have hlength := Chunk.length_encode_ofList type body.encode
    rw [FrameTree.encode, List.length_append] at hle hlt
    have hcomes : Comes file limit pos stop ((Chunk.ofList type body.encode).headerAt pos) :=
      ⟨by unfold ChunkHeader.length; omega, hc.read_eq⟩
    have hid : ((Chunk.ofList type body.encode).headerAt pos).id = .list := rfl
    rw [scanFrom_of_comes hcomes, if_pos hid, htype.readListType_eq, ok_bind, hc.stop_headerAt,
      ihRest hrest htail (by omega) (by omega), FrameTree.frames_list]
    split
    · have hwalk : scanFrom file stream limit (pos + 12)
          (min (pos + (Chunk.ofList type body.encode).encode.length) limit) =
            .ok ⟨(body.frames stream (pos + 12)).map fun c => entryOfChunk (c.2.headerAt c.1),
              false⟩ :=
        ihBody hbody hinside (by omega) (by unfold ChunkHeader.length; omega)
      rw [Chunk.offset_headerAt, ChunkHeader.length, Nat.add_assoc, hwalk, List.map_append]
      rfl
    · rfl

/-- The entry is that of a key frame whose chunk is written at a place of the file. -/
structure Lists (file : Bytes) (e : FrameEntry) (c : Nat × Chunk) : Prop where
  offset : e.offset = c.1 + ChunkHeader.length
  size : e.size.toNat = c.2.payload.length
  flags : e.flags = .ofBits IndexFlags.keyframe
  payload : readAt file e.offset e.size.toNat = some c.2.payload

theorem lists_entryOfChunk (hw : tree.WellFormed) (hfile : Holds file pos tree.encode)
    {c : Nat × Chunk} (hmem : c ∈ tree.reached pos) :
    Lists file (entryOfChunk (c.2.headerAt c.1)) c := by
  obtain ⟨hsized, hpayload⟩ := FrameTree.holds_of_mem_reached hw hfile hmem
  have hsize : (entryOfChunk (c.2.headerAt c.1)).size.toNat = c.2.payload.length :=
    UInt32.toNat_ofNat_of_lt' hsized
  refine ⟨rfl, hsize, rfl, ?_⟩
  rw [hsize]
  exact hpayload.readAt_eq_some

/-- A scan of a written tree succeeds and lists the frames of the stream that are reached through
record lists only, in file order. -/
theorem scan_tree (hw : tree.WellFormed) (hfile : Holds file pos tree.encode) (stream : Nat) :
    ∃ ix, scan file pos (pos + tree.encode.length) stream = .ok ix ∧
      List.Forall₂ (Lists file) ix.entries (tree.frames stream pos) ∧ InFileOrder ix.entries := by
  refine ⟨⟨(tree.frames stream pos).map fun c => entryOfChunk (c.2.headerAt c.1)⟩, ?_, ?_, ?_⟩
  · rw [scan, scanFrom_tree hw hfile (by omega) (by unfold ChunkHeader.length; omega)]
    rfl
  · rw [List.forall₂_map_left_iff, List.forall₂_same]
    intro c hc
    exact lists_entryOfChunk hw hfile (List.mem_of_mem_filter hc)
  · rw [inFileOrder_iff_pairwise, List.pairwise_map]
    refine ((tree.reached_pairwise pos).filter _).imp_of_mem fun {a b} ha _ hab => ?_
    have hlists := lists_entryOfChunk hw hfile (List.mem_of_mem_filter ha)
    rw [Before, FrameEntry.stop, hlists.offset, hlists.size]
    exact Nat.add_le_add_right hab _

/-- Frame data with frames two record lists deep, and with what looks like frames in a list of
another type and in a payload. -/
def nested : FrameTree :=
  .list .record
    (.chunk ⟨.ofChars '0' '0' 'd' 'c', [1, 2, 3]⟩ 0xff <|
      .list .record
        (.chunk ⟨.ofChars '0' '1' 'w' 'b', [9]⟩ 0 <|
          .chunk ⟨.ofChars '0' '0' 'd' 'b', []⟩ 0 .nil) <|
      .list (.ofChars 'I' 'N' 'F' 'O') (.chunk ⟨.ofChars '0' '0' 'd' 'c', [5, 5]⟩ 0 .nil) .nil) <|
  .chunk ⟨.ofChars 'J' 'U' 'N' 'K', (Chunk.mk (.ofChars '0' '0' 'd' 'c') [4]).encode⟩ 0 <|
  .chunk ⟨.ofChars '0' '0' 'd' 'c', [6]⟩ 0x41 .nil

theorem scan_tree_nested :
    nested.WellFormed ∧
    ∃ ix, scan ([7, 7, 7] ++ nested.encode ++ [8]).toArray 3 107 0 = .ok ix ∧
      List.Forall₂ (Lists ([7, 7, 7] ++ nested.encode ++ [8]).toArray) ix.entries
        [(15, ⟨.ofChars '0' '0' 'd' 'c', [1, 2, 3]⟩), (49, ⟨.ofChars '0' '0' 'd' 'b', []⟩),
          (97, ⟨.ofChars '0' '0' 'd' 'c', [6]⟩)] ∧
      InFileOrder ix.entries := by
  have hw : nested.WellFormed := by decide
  have hfile : Holds ([7, 7, 7] ++ nested.encode ++ [8]).toArray 3 nested.encode := by
    have h := holds_toArray [7, 7, 7] (nested.encode ++ [8])
    rw [← List.append_assoc] at h
    exact (holds_append.mp h).1
  have hlength : nested.encode.length = 104 := by decide
  have hframes : nested.frames 0 3 = [(15, ⟨.ofChars '0' '0' 'd' 'c', [1, 2, 3]⟩),
      (49, ⟨.ofChars '0' '0' 'd' 'b', []⟩), (97, ⟨.ofChars '0' '0' 'd' 'c', [6]⟩)] := by decide
  have hscan := scan_tree hw hfile 0
  rw [hlength, hframes] at hscan
  exact ⟨hw, hscan⟩

end FrameIndex

end AviPlayback
