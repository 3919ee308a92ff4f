import AviPlayback.Proofs.Container.AppendedChunks
import AviPlayback.Proofs.Container.FrameTree

/-!
The chunks of a range. The headers that a walk finds tile its range: they stand one behind the
other from its start on, and the walk ends where no header fits any more or the file ends inside
one. Chunks that were written one behind the other are found again as they were written, and each
payload is read back or refused by its declared size (`walk_tiling`).
-/
set_option autoImplicit false

namespace AviPlayback

namespace ChunkHeader

/-- Reading a header fails only where the file ends inside it. -/
theorem read_eq_error_iff {file : Bytes} {pos : Nat} {fault : ContainerFault} :
    read file pos = .error fault ↔ fault = .file .shortRead ∧ file.size < pos + length := by
  unfold read
  by_cases hfits : pos + length ≤ file.size
  · rw [readAt_of_le hfits]
    constructor
    · intro h
      cases h
    · rintro ⟨_, hshort⟩
      omega
  · rw [readAt_eq_none (by decide) (Nat.not_le.mp hfits)]
    constructor
    · intro h
      cases h
      exact ⟨rfl, Nat.not_le.mp hfits⟩
    · rintro ⟨rfl, _⟩
      rfl

/-- A payload is refused as truncated exactly when its declared size exceeds what is left up to the
limit, and the refusal tells both. -/
theorem readPayload_eq_truncated_iff (h : ChunkHeader) (file : Bytes) (limit : Nat) (id : String)
    (needed available : Nat) :
    h.readPayload file limit = .error (.truncated id needed available) ↔
      limit - h.offset < h.size.toNat ∧ id = h.id.display ∧ needed = h.size.toNat ∧
        available = limit - h.offset := by
  unfold readPayload
  dsimp only
  split
  · next hshort =>
    simp only [Except.error.injEq, ContainerFault.truncated.injEq, hshort, true_and]
    constructor
    · rintro ⟨rfl, rfl, rfl⟩
      exact ⟨rfl, rfl, rfl⟩
    · rintro ⟨rfl, rfl, rfl⟩
      exact ⟨rfl, rfl, rfl⟩
  · next hfits =>
    constructor
    · intro heq
      cases hread : readAt file h.offset h.size.toNat with
      | none =>
        rw [hread] at heq
        cases heq
      | some payload =>
        rw [hread] at heq
        cases heq
    · rintro ⟨hshort, _⟩
      exact absurd hshort hfits

end ChunkHeader

/-- Headers found one behind the other in a range. -/
structure Tiling (file : Bytes) (pos stop : Nat) (headers : List ChunkHeader) : Prop where
  first : ∀ h ∈ headers.head?, h.start = pos
  /-- Each header starts where the payload of the one before it ends, with its pad byte. -/
  chain : headers.IsChain fun a b => b.start = a.stop
  inside : ∀ h ∈ headers, pos ≤ h.start ∧ h.start + ChunkHeader.length ≤ stop
  read : ∀ h ∈ headers, ChunkHeader.read file h.start = .ok h
  /-- Each header takes eight bytes of the range. -/
  length_le : headers.length ≤ (stop - pos) / ChunkHeader.length

theorem Tiling.nil (file : Bytes) (pos stop : Nat) : Tiling file pos stop [] where
  first := by simp
  chain := .nil
  inside := by simp
  read := by simp
  length_le := Nat.zero_le _

theorem Tiling.cons {file : Bytes} {pos stop : Nat} {h : ChunkHeader} {rest : List ChunkHeader}
    (hfit : pos + ChunkHeader.length ≤ stop) (hread : ChunkHeader.read file pos = .ok h)
    (ht : Tiling file h.stop stop rest) : Tiling file pos stop (h :: rest) := by
  have hoffset := ChunkHeader.offset_of_read hread
  have hbehind := ChunkHeader.lt_stop_of_read hread
  have hstart : h.start = pos := by rw [ChunkHeader.start, hoffset, Nat.add_sub_cancel]
  refine ⟨?_, ?_, ?_, ?_, ?_⟩
  · rintro _ ⟨⟩
    exact hstart
  · exact List.isChain_cons.mpr ⟨ht.first, ht.chain⟩
  · refine List.forall_mem_cons.mpr ⟨by omega, ?_⟩
    intro g hg
    have := ht.inside g hg
    omega
  · exact List.forall_mem_cons.mpr ⟨by rwa [hstart], ht.read⟩
  · have hrest := ht.length_le
    rw [List.length_cons]
    unfold ChunkHeader.length at *
    omega

/-- A walk tiles its range. It ends without a fault exactly when no header fits into what is left of
the range, and with one where the file ends inside a header. -/
theorem tiling_walk (file : Bytes) (pos stop : Nat) :
    Tiling file pos stop (walk file pos stop).1 ∧
      ((walk file pos stop).2 = none ↔
        stop < endOf pos (walk file pos stop).1 + ChunkHeader.length) ∧
      ∀ fault ∈ (walk file pos stop).2, fault = .file .shortRead ∧
        file.size < endOf pos (walk file pos stop).1 + ChunkHeader.length := by
  fun_induction walk file pos stop with
  | case1 pos hshort => exact ⟨.nil file pos stop, by simpa [endOf] using hshort, by simp⟩
  | case2 pos hfit fault hread =>
    refine ⟨.nil file pos stop, by simpa [endOf] using hfit, ?_⟩
    rintro _ ⟨⟩
    exact ChunkHeader.read_eq_error_iff.mp hread
  | case3 pos hfit header hread rest ih =>
    exact ⟨.cons (Nat.not_lt.mp hfit) hread ih.1, ih.2⟩

/-- The written form of chunks laid out back to back, each with the pad byte that it has when its
payload is odd. -/
def encodePadded (chunks : List (Chunk × UInt8)) : List UInt8 :=
  chunks.flatMap fun c => c.1.encodeWith c.2

/-- A walk over written chunks finds their names and sizes, and behind them their payloads. -/
theorem walk_encodePadded {file : Bytes} {pos stop limit : Nat} {chunks : List (Chunk × UInt8)}
    (hfile : Holds file pos (encodePadded chunks))
    (hsized : ∀ c ∈ chunks, c.1.payload.length < UInt32.size)
    (hle : pos + (encodePadded chunks).length ≤ stop)
    (hlt : stop < pos + (encodePadded chunks).length + ChunkHeader.length) (hlimit : stop ≤ limit) :
    (walk file pos stop).1.map (fun h => (h.id, h.size.toNat, h.readPayload file limit)) =
        chunks.map (fun c => (c.1.id, c.1.payload.length, .ok c.1.payload)) ∧
      (walk file pos stop).2 = none := by
  induction chunks generalizing pos with
  | nil =>
    rw [walk, dif_pos (by simpa [encodePadded] using hlt)]
    exact ⟨rfl, rfl⟩
  | cons c rest ih =>
    obtain ⟨hfirst, hrest⟩ := List.forall_mem_cons.mp hsized
    have hcons : encodePadded (c :: rest) = c.1.encodeWith c.2 ++ encodePadded rest := rfl
    rw [hcons, List.length_append] at hle hlt
    rw [hcons] at hfile
    obtain ⟨hchunk, hbehind⟩ := holds_append.mp hfile
    obtain ⟨hread, hpayload⟩ := Chunk.holds_of_encodeWith hchunk
    have hlength := c.1.length_encodeWith c.2
    have hsize : (c.1.headerAt pos).size.toNat = c.1.payload.length :=
      UInt32.toNat_ofNat_of_lt' hfirst
    have hstop : (c.1.headerAt pos).stop = pos + (c.1.encodeWith c.2).length :=
      Chunk.stop_headerAt_encodeWith hfirst c.2
    have hroom : ¬ limit - (pos + ChunkHeader.length) < c.1.payload.length := by
      unfold ChunkHeader.length
      omega
    have hback : (c.1.headerAt pos).readPayload file limit = .ok c.1.payload := by
      simp only [ChunkHeader.readPayload, hsize, Chunk.offset_headerAt, if_neg hroom,
        hpayload.readAt_eq_some]
    obtain ⟨hheaders, hended⟩ := ih hbehind hrest (by omega) (by omega)
    rw [walk_of_read (by unfold ChunkHeader.length; omega) hread, hstop]
    refine ⟨?_, hended⟩
    rw [List.map_cons, List.map_cons, hheaders, hsize, hback, Chunk.id_headerAt]

/-- The headers that a walk finds tile its range, and the walk ends without a fault exactly when
fewer than eight bytes of the range are left behind them; otherwise the file ends inside the next
header. A walk over chunks written one behind the other, wherever they stand, finds these chunks and
no others, and their payloads are read back up to the end of the range. A payload is refused as
truncated exactly when its declared size exceeds what is left up to the limit. -/
theorem walk_tiling (file : Bytes) (pos stop : Nat) :
    (Tiling file pos stop (walk file pos stop).1 ∧
      ((walk file pos stop).2 = none ↔
        stop < endOf pos (walk file pos stop).1 + ChunkHeader.length) ∧
      ∀ fault ∈ (walk file pos stop).2, fault = .file .shortRead ∧
        file.size < endOf pos (walk file pos stop).1 + ChunkHeader.length) ∧
    (∀ (front back : List UInt8) (chunks : List (Chunk × UInt8)),
      (∀ c ∈ chunks, c.1.payload.length < UInt32.size) →
      ∀ whole first last, whole = (front ++ encodePadded chunks ++ back).toArray →
        first = front.length → last = front.length + (encodePadded chunks).length →
        (walk whole first last).1.map (fun h => (h.id, h.size.toNat, h.readPayload whole last)) =
            chunks.map (fun c => (c.1.id, c.1.payload.length, .ok c.1.payload)) ∧
          (walk whole first last).2 = none) ∧
    ∀ (h : ChunkHeader) (limit : Nat) (id : String) (needed available : Nat),
      h.readPayload file limit = .error (.truncated id needed available) ↔
        limit - h.offset < h.size.toNat ∧ id = h.id.display ∧ needed = h.size.toNat ∧
          available = limit - h.offset := by
  refine ⟨tiling_walk file pos stop, ?_, fun h limit id needed available =>
    h.readPayload_eq_truncated_iff file limit id needed available⟩
  rintro front back chunks hsized _ _ _ rfl rfl rfl
  have hfile : Holds (front ++ encodePadded chunks ++ back).toArray front.length
      (encodePadded chunks) := by
    rw [List.append_assoc]
    exact (holds_append.mp (holds_toArray front (encodePadded chunks ++ back))).1
  exact walk_encodePadded hfile hsized (Nat.le_refl _) (by unfold ChunkHeader.length; omega)
    (Nat.le_refl _)

/-- A chunk of odd size with a pad byte that is not zero, and an empty chunk behind it. -/
def oddChunks : List (Chunk × UInt8) :=
  [(⟨.ofChars 'J' 'U' 'N' 'K', [1, 2, 3]⟩, 0xff), (⟨.ofChars 'a' 'b' 'c' 'd', []⟩, 0)]

theorem walk_tiling_oddChunks :
    (∀ c ∈ oddChunks, c.1.payload.length < UInt32.size) ∧
    ∃ whole, whole = ([7] ++ encodePadded oddChunks ++ [9, 9]).toArray ∧
      (walk whole 1 21).1.map (fun h => (h.id, h.size.toNat, h.readPayload whole 21)) =
          [(.ofChars 'J' 'U' 'N' 'K', 3, .ok [1, 2, 3]), (.ofChars 'a' 'b' 'c' 'd', 0, .ok [])] ∧
        (walk whole 1 21).2 = none := by
  have hsized : ∀ c ∈ oddChunks, c.1.payload.length < UInt32.size := by decide
  exact ⟨hsized, _, rfl, (walk_tiling #[] 0 0).2.1 [7] [9, 9] oddChunks hsized _ 1 21 rfl rfl rfl⟩

end AviPlayback
