import AviPlayback.Proofs.Container.FileRoundTrip
import AviPlayback.Proofs.Container.SharedBody

/-!
Chunks appended to the top level of a file. Of several lists of frame data, and of several indexes,
the first one counts; of several header lists the last one does, and one that cannot be read makes
the file one that cannot be opened. So a file stays the same clip exactly when the last of the
header lists appended to it, if there is one, tells what its own told
(`Clip.ofBytes_appended_iff`).
-/
set_option autoImplicit false

namespace AviPlayback

/-- The place behind chunks that start at `pos`. -/
def endOf : Nat → List ChunkHeader → Nat
  | pos, [] => pos
  | _, h :: rest => endOf h.stop rest

/-- The chunks of a walk stand between its start and the place behind them. -/
theorem bounds_of_walk (file : Bytes) (pos stop : Nat) :
    pos ≤ endOf pos (walk file pos stop).1 ∧ ∀ h ∈ (walk file pos stop).1,
      pos + ChunkHeader.length ≤ h.offset ∧ h.stop ≤ endOf pos (walk file pos stop).1 := by
  fun_induction walk file pos stop with
  | case1 | case2 => simp [endOf]
  | case3 pos hfit header hread rest ih =>
    have hoffset := ChunkHeader.offset_of_read hread
    have hstop := ChunkHeader.lt_stop_of_read hread
    have hle : header.stop ≤ endOf header.stop rest.1 := ih.1
    rw [endOf, List.forall_mem_cons]
    refine ⟨by omega, ⟨by omega, hle⟩, ?_⟩
    intro h hmem
    obtain ⟨hbehind, hend⟩ := ih.2 h hmem
    exact ⟨by omega, hend⟩

/-- A walk that reaches the end of the shared bytes goes on with what the other file holds there. -/
theorem AgreeUpTo.walk_append {file other : Bytes} {pos stop limit limit' : Nat}
    (hc : AgreeUpTo stop file other) (hpos : 8 ≤ pos) {headers : List ChunkHeader}
    (hwalk : walk file pos limit = (headers, none)) (hend : endOf pos headers = stop)
    (hlimit : stop ≤ limit') :
    walk other pos limit' =
      (headers ++ (walk other stop limit').1, (walk other stop limit').2) := by
  fun_induction walk file pos limit generalizing headers with
  | case1 pos hshort =>
    cases hwalk
    obtain rfl : pos = stop := hend
    rfl
  | case2 pos hfit fault hread => cases hwalk
  | case3 pos hfit header hread rest ih =>
    have hstop := ChunkHeader.lt_stop_of_read hread
    obtain ⟨rfl, hrest⟩ := Prod.mk.inj hwalk
    have hle : header.stop ≤ endOf header.stop rest.1 := (bounds_of_walk file header.stop limit).1
    rw [endOf] at hend
    rw [← hc.read hpos (by omega)] at hread
    rw [walk_of_read (by omega) hread, ih (by omega) (Prod.ext rfl hrest) hend]
    rfl

/-- A chunk of a kind that the top level takes into account. -/
inductive BodyChunk
  | headers (body : List UInt8)
  | frames (body : List UInt8)
  | index (payload : List UInt8)

namespace BodyChunk

def chunk : BodyChunk → Chunk
  | headers body => .ofList .hdrl body
  | frames body => .ofList .movi body
  | index payload => ⟨.idx1, payload⟩

def encodeAll (added : List BodyChunk) : List UInt8 := encodeChunks (added.map chunk)

/-- The last of the header lists among chunks written from `pos` on, or `last` when there is none.
Each of them has to be readable. -/
def lastHeaders (file : Bytes) :
    Nat → Option HeaderList → List BodyChunk → Except ContainerFault (Option HeaderList)
  | _, last, [] => .ok last
  | pos, last, c :: rest =>
    let stop := pos + c.chunk.encode.length
    match c with
    | headers _ => do
      let l ← HeaderList.read file (pos + 12) stop
      lastHeaders file stop (some l) rest
    | frames _ | index _ => lastHeaders file stop last rest

theorem lastHeaders_of_forall {added : List BodyChunk} (hnone : ∀ c ∈ added, ∀ body, c ≠ headers body)
    (file : Bytes) (pos : Nat) (last : Option HeaderList) :
    lastHeaders file pos last added = .ok last := by
  induction added generalizing pos with
  | nil => rfl
  | cons c rest ih =>
    have hrest := ih fun d hd => hnone d (by simp [hd])
    cases c with
    | headers body => exact absurd rfl (hnone _ (by simp) body)
    | frames body => exact hrest _
    | index payload => exact hrest _

end BodyChunk

open BodyChunk (encodeAll lastHeaders)

namespace TopLevel

/-- The top level with the headers of a header list behind its own. -/
def withHeaders (t : TopLevel) : Option HeaderList → TopLevel
  | none => t
  | some l => { t with main := l.main, video := l.video }

@[simp] theorem movi_withHeaders (t : TopLevel) (last : Option HeaderList) :
    (t.withHeaders last).movi = t.movi := by
  cases last <;> rfl

@[simp] theorem idx1_withHeaders (t : TopLevel) (last : Option HeaderList) :
    (t.withHeaders last).idx1 = t.idx1 := by
  cases last <;> rfl

theorem withHeaders_withHeaders (t : TopLevel) (last : Option HeaderList) (l : HeaderList) :
    { t.withHeaders last with main := l.main, video := l.video } = t.withHeaders (some l) := by
  cases last <;> rfl

/-- A list of a known type is taken into account by that type. -/
theorem add_ofList {file : Bytes} {pos limit : Nat} {type : FourCc} {body : List UInt8}
    (hc : (Chunk.ofList type body).WrittenAt file pos)
    (hlimit : pos + (Chunk.ofList type body).encode.length ≤ limit) (t : TopLevel) :
    add file limit t ((Chunk.ofList type body).headerAt pos) =
      if type = .hdrl then
        (HeaderList.read file (pos + 12) (pos + (Chunk.ofList type body).encode.length)).map
          fun l => { t with main := l.main, video := l.video }
      else if type = .movi ∧ t.movi.isNone then
        .ok { t with movi := some (pos + ChunkHeader.length,
          pos + (Chunk.ofList type body).encode.length) }
      else .ok t := by
  have htype : ((Chunk.ofList type body).headerAt pos).readListType file = .ok type :=
    (holds_append.mp hc.header_and_payload.2).1.readListType_eq
  have hid : ((Chunk.ofList type body).headerAt pos).id = .list := rfl
  unfold add
  rw [if_pos hid, htype, ok_bind, hc.stop_headerAt, Nat.min_eq_left hlimit]
  rfl

/-- Behind a list of frame data and an index, only header lists tell anything new. -/
theorem foldlM_appended {file : Bytes} {limit pos : Nat} {added : List BodyChunk}
    (hw : Written file pos (added.map BodyChunk.chunk))
    (hlimit : pos + (encodeAll added).length ≤ limit) {t : TopLevel} (hmovi : t.movi.isSome)
    (hidx1 : t.idx1.isSome) (last : Option HeaderList) :
    (headersFrom pos (added.map BodyChunk.chunk)).foldlM (add file limit) (t.withHeaders last) =
      (lastHeaders file pos last added).map t.withHeaders := by
  induction added generalizing pos last with
  | nil => rfl
  | cons c rest ih =>
    rw [encodeAll, List.map_cons, encodeChunks_cons, List.length_append] at hlimit
    obtain ⟨hc, hw⟩ := hw
    have hrest := ih hw (by rw [encodeAll]; omega)
    have hfits : pos + c.chunk.encode.length ≤ limit := by omega
    rw [List.map_cons, headersFrom, List.foldlM_cons]
    cases c with
    | headers body =>
      have hadd := add_ofList hc hfits (t.withHeaders last)
      rw [BodyChunk.chunk, hadd, if_pos rfl, lastHeaders, BodyChunk.chunk]
      cases HeaderList.read file (pos + 12) (pos + (Chunk.ofList .hdrl body).encode.length) with
      | error fault => rfl
      | ok l =>
        rw [Except.map, ok_bind, ok_bind, withHeaders_withHeaders]
        exact hrest (some l)
    | frames body =>
      have hadd := add_ofList hc hfits (t.withHeaders last)
      rw [BodyChunk.chunk, hadd, if_neg (by decide), if_neg (by simp [Option.isSome_iff_ne_none.mp hmovi]),
        ok_bind]
      exact hrest last
    | index payload =>
      have hadd : add file limit (t.withHeaders last) ((BodyChunk.index payload).chunk.headerAt pos) =
          .ok (t.withHeaders last) := by
        have hid : ((BodyChunk.index payload).chunk.headerAt pos).id ≠ .list :=
          (by decide : FourCc.idx1 ≠ .list)
        unfold add
        rw [if_neg hid, if_neg (by simp [Option.isSome_iff_ne_none.mp hidx1])]
        rfl
      rw [hadd, ok_bind]
      exact hrest last

/-- An index that was found, or that is still to come, is there in the end. -/
theorem idx1_isSome_of_foldlM {file : Bytes} {limit : Nat} {headers : List ChunkHeader}
    {t u : TopLevel} (hfold : headers.foldlM (add file limit) t = .ok u)
    (hindex : t.idx1.isSome ∨ ∃ h ∈ headers, h.id = .idx1) : u.idx1.isSome := by
  induction headers generalizing t with
  | nil =>
    cases hfold
    simpa using hindex
  | cons h rest ih =>
    rw [List.foldlM_cons] at hfold
    obtain ⟨next, hadd, hfold⟩ := bind_eq_ok_iff.mp hfold
    have hlist : FourCc.list ≠ .idx1 := by decide
    -- the index is kept, or it is the chunk added now
    have hstep : t.idx1.isSome ∨ h.id = .idx1 → next.idx1.isSome := by
      intro hnow
      unfold add at hadd
      split at hadd
      · next hid =>
        have hkept : t.idx1.isSome := hnow.resolve_right (hid ▸ hlist)
        obtain ⟨type, _, hadd⟩ := bind_eq_ok_iff.mp hadd
        dsimp only at hadd
        split at hadd
        · obtain ⟨l, _, hadd⟩ := bind_eq_ok_iff.mp hadd
          cases hadd
          exact hkept
        · split at hadd
          · cases hadd
            exact hkept
          · cases hadd
            exact hkept
      · split at hadd
        · obtain ⟨payload, _, hadd⟩ := bind_eq_ok_iff.mp hadd
          cases hadd
          rfl
        · next hother =>
          cases hadd
          cases hidx1 : t.idx1 with
          | some payload => rfl
          | none => exact absurd ⟨hnow.resolve_left (by simp [hidx1]), by rw [hidx1]; rfl⟩ hother
    refine ih hfold ?_
    obtain hthere | ⟨g, hmem, hid⟩ := hindex
    · exact .inl (hstep (.inl hthere))
    · obtain rfl | hmem := List.mem_cons.mp hmem
      · exact .inl (hstep (.inr hid))
      · exact .inr ⟨g, hmem, hid⟩

theorem movi_le_of_foldlM {file : Bytes} {stop limit : Nat} {headers : List ChunkHeader}
    {t u : TopLevel} (hstop : stop ≤ limit) (hall : ∀ h ∈ headers, h.stop ≤ stop)
    (hmovi : ∀ m ∈ t.movi, m.2 ≤ stop) (hfold : headers.foldlM (add file limit) t = .ok u) :
    ∀ m ∈ u.movi, m.2 ≤ stop := by
  refine foldlM_invariant_of_mem (P := fun t => ∀ m ∈ t.movi, m.2 ≤ stop) ?_ hmovi hfold
  intro h hmem s v hs hadd
  have hle := hall h hmem
  have hsame : add file limit s h = add file stop s h := by
    unfold add
    rw [Nat.min_eq_left hle, Nat.min_eq_left (by omega)]
  exact movi_le_of_add hs (hsame ▸ hadd)

/-- The list of frame data ends with one of the chunks. -/
theorem movi_le_endOf {file : Bytes} {limit : Nat} {top : TopLevel}
    (hread : read file 12 limit = .ok top) (hlimit : endOf 12 (walk file 12 limit).1 ≤ limit) :
    ∀ m ∈ top.movi, m.2 ≤ endOf 12 (walk file 12 limit).1 := by
  obtain ⟨headers, hwalk, hfold⟩ := foldChunks_eq_ok hread
  have hbounds := (bounds_of_walk file 12 limit).2
  rw [hwalk] at hbounds hlimit ⊢
  exact movi_le_of_foldlM hlimit (fun h hmem => (hbounds h hmem).2) (by simp) hfold

/-- The top level of a file with chunks behind it: what the file alone tells, with the headers of
the last header list appended to it. -/
theorem read_appended {file other : Bytes} {stop limit limit' : Nat} {added : List BodyChunk}
    {top : TopLevel} (hc : AgreeUpTo stop file other) (hread : read file 12 limit = .ok top)
    (hend : endOf 12 (walk file 12 limit).1 = stop) (hlimit : stop ≤ limit)
    (hcode : ∀ h ∈ (walk file 12 limit).1, h.id = .list → h.offset + 4 ≤ stop)
    (hindex : ∃ h ∈ (walk file 12 limit).1, h.id = .idx1) (hmovi : top.movi.isSome)
    (hw : Written other stop (added.map BodyChunk.chunk))
    (hle : stop + (encodeAll added).length ≤ limit')
    (hlt : limit' < stop + (encodeAll added).length + ChunkHeader.length) :
    read other 12 limit' = (lastHeaders other stop none added).map top.withHeaders := by
  obtain ⟨headers, hwalk, hfold⟩ := foldChunks_eq_ok hread
  rw [hwalk] at hend hcode hindex
  have hbounds := (bounds_of_walk file 12 limit).2
  rw [hwalk] at hbounds
  have hfront : headers.foldlM (add other limit') ⟨none, none, none, none⟩ = .ok top := by
    have hsteps : Carries True (headers.foldlM (add file limit) ⟨none, none, none, none⟩)
        (headers.foldlM (add other limit') ⟨none, none, none, none⟩) := by
      refine .foldlM (fun h hmem t => ?_) _
      obtain ⟨hoffset, hstop⟩ := hbounds h hmem
      exact hc.add_top (by unfold ChunkHeader.length at hoffset; omega) (hend ▸ hstop) (hcode h hmem)
        hlimit (by omega) t
    rw [hfold] at hsteps
    exact hsteps.eq_ok
  have hbehind := foldlM_appended hw hle hmovi (idx1_isSome_of_foldlM hfold (.inr hindex)) none
  unfold read foldChunks
  rw [hc.walk_append (by omega) hwalk hend (by omega), walk_written hw hle hlt]
  dsimp only
  rw [List.foldlM_append, hfront, ok_bind, show top = top.withHeaders none from rfl, hbehind]
  cases lastHeaders other stop none added <;> rfl

end TopLevel

/-- Where the top level of a file ends: at the declared end of the outermost chunk, or with the
file. -/
def bodyLimit (file : Bytes) : Nat :=
  match ChunkHeader.read file 0 with
  | .ok riff => min riff.stop file.size
  | .error _ => 0

/-- The chunks of the top level of a file. -/
def topHeaders (file : Bytes) : List ChunkHeader := (walk file 12 (bodyLimit file)).1

/-- The chunks of the top level end at a place inside the outermost chunk, and a list at their end
has its type code. -/
structure BodyEnds (file : Bytes) (stop : Nat) : Prop where
  endOf_eq : endOf 12 (topHeaders file) = stop
  le_limit : stop ≤ bodyLimit file
  typed : ∀ h ∈ topHeaders file, h.id = .list → h.offset + 4 ≤ stop

/-- A file with chunks appended to its top level behind `stop`, and the size of the outermost chunk
declared anew. What stood behind that chunk may stand behind it again. -/
structure Appended (file : Bytes) (stop : Nat) (added : List BodyChunk) (other : Bytes) : Prop where
  size_le : file.size ≤ other.size
  bytes : ∀ i < stop, 8 ≤ i → other[i]? = file[i]?
  holds : Holds other stop (encodeAll added)
  riff : ∃ riff, ChunkHeader.read other 0 = .ok riff ∧ riff.id = .riff
  le_limit : stop + (encodeAll added).length ≤ bodyLimit other
  lt_limit : bodyLimit other < stop + (encodeAll added).length + ChunkHeader.length

theorem bodyLimit_of_read {file : Bytes} {riff : ChunkHeader}
    (hread : ChunkHeader.read file 0 = .ok riff) : bodyLimit file = min riff.stop file.size := by
  rw [bodyLimit, hread]

/-- The chunks that fit behind the first one have fewer bytes than a size field can count. -/
theorem Appended.length_lt {file other : Bytes} {stop : Nat} {added : List BodyChunk}
    (h : Appended file stop added other) (hstop : 12 ≤ stop) :
    (encodeAll added).length < UInt32.size := by
  obtain ⟨riff, hread, _⟩ := h.riff
  have hlimit := h.le_limit
  rw [bodyLimit_of_read hread] at hlimit
  have hoffset := ChunkHeader.offset_of_read hread
  have hsize := riff.size.toNat_lt
  unfold ChunkHeader.stop ChunkHeader.length at *
  unfold UInt32.size
  omega

theorem even_length_encodeChunks (chunks : List Chunk) : (encodeChunks chunks).length % 2 = 0 := by
  induction chunks with
  | nil => rfl
  | cons c rest ih =>
    rw [encodeChunks_cons, List.length_append, c.length_encode]
    omega

/-- An outermost chunk with whole chunks inside is its header and they. -/
theorem exists_encode_riff {body : List UInt8} (heven : body.length % 2 = 0) :
    ∃ head, head.length = 8 ∧ (⟨.riff, body⟩ : Chunk).encode = head ++ body := by
  refine ⟨FourCc.riff.toBytes ++ LittleEndian.ofNat 4 body.length, by simp, ?_⟩
  have hpadding : Chunk.padding body = [] := if_neg (by omega)
  rw [Chunk.encode, hpadding, List.append_nil, List.append_assoc]

/-- Chunks are appended to a file by writing its outermost chunk with them at its end. -/
theorem appended_riff {body : List UInt8} (heven : body.length % 2 = 0) {added : List BodyChunk}
    (hsize : (body ++ encodeAll added).length < UInt32.size) :
    Appended (⟨.riff, body⟩ : Chunk).encode.toArray (8 + body.length) added
      (⟨.riff, body ++ encodeAll added⟩ : Chunk).encode.toArray := by
  have hgrownEven : (body ++ encodeAll added).length % 2 = 0 := by
    have hadded : (encodeAll added).length % 2 = 0 := even_length_encodeChunks _
    rw [List.length_append]
    omega
  obtain ⟨head, hhead, hfile⟩ := exists_encode_riff heven
  obtain ⟨head', hhead', hother⟩ := exists_encode_riff hgrownEven
  have hwritten : (⟨.riff, body ++ encodeAll added⟩ : Chunk).WrittenAt
      (⟨.riff, body ++ encodeAll added⟩ : Chunk).encode.toArray 0 := ⟨hsize, holds_toArray [] _⟩
  have hlimit : bodyLimit (⟨.riff, body ++ encodeAll added⟩ : Chunk).encode.toArray =
      (⟨.riff, body ++ encodeAll added⟩ : Chunk).encode.length := by
    rw [bodyLimit_of_read hwritten.read_eq, hwritten.stop_headerAt, Nat.zero_add, List.size_toArray,
      Nat.min_self]
  have hlength : (⟨.riff, body ++ encodeAll added⟩ : Chunk).encode.length =
      8 + body.length + (encodeAll added).length := by
    rw [hother, List.length_append, List.length_append, hhead', Nat.add_assoc]
  refine ⟨?_, ?_, ?_, ⟨_, hwritten.read_eq, rfl⟩, by omega, ?_⟩
  · rw [List.size_toArray, List.size_toArray, hlength, hfile, List.length_append, hhead]
    omega
  · intro i hi hplace
    rw [List.getElem?_toArray, List.getElem?_toArray, hother, hfile,
      List.getElem?_append_right (by omega), List.getElem?_append_left (by omega),
      List.getElem?_append_right (by omega), hhead, hhead']
  · have hholds := holds_toArray (head' ++ body) (encodeAll added)
    rwa [List.append_assoc, ← hother, List.length_append, hhead'] at hholds
  · unfold ChunkHeader.length
    omega

namespace FileLayout

/-- The file with more chunks at the end of its top level. -/
def bytesWith (l : FileLayout) (added : List BodyChunk) : Bytes :=
  (⟨.riff, FourCc.avi.toBytes ++ encodeChunks l.topChunks ++ encodeAll added⟩ : Chunk).encode.toArray

theorem appended_bytesWith (l : FileLayout) (added : List BodyChunk)
    (hsize : (l.bytesWith added).size < UInt32.size) :
    Appended l.bytes (12 + (encodeChunks l.topChunks).length) added (l.bytesWith added) := by
  have hbody : (FourCc.avi.toBytes ++ encodeChunks l.topChunks).length =
      4 + (encodeChunks l.topChunks).length := by
    rw [List.length_append, FourCc.length_toBytes]
  have heven := even_length_encodeChunks l.topChunks
  have hfits : (FourCc.avi.toBytes ++ encodeChunks l.topChunks ++ encodeAll added).length <
      UInt32.size := by
    rw [bytesWith, List.size_toArray, Chunk.length_encode] at hsize
    dsimp only at hsize
    omega
  have happended := appended_riff (by omega) hfits
  rw [hbody, ← Nat.add_assoc] at happended
  exact happended

theorem bodyEnds_sample : BodyEnds sample.bytes 362 :=
  ⟨by decide +kernel, by decide +kernel, by decide +kernel⟩

theorem exists_index_sample : ∃ h ∈ topHeaders sample.bytes, h.id = .idx1 := by decide +kernel

theorem appended_sample (added : List BodyChunk)
    (hsize : (sample.bytesWith added).size < UInt32.size) :
    Appended sample.bytes 362 added (sample.bytesWith added) := by
  have hplace : 12 + (encodeChunks sample.topChunks).length = 362 := by decide +kernel
  have happended := sample.appended_bytesWith added hsize
  rwa [hplace] at happended

/-- The sample without its first stream. -/
def picturesOnly : FileLayout := { sample with streams := [pictures] }

end FileLayout

namespace Clip

/-- The outermost chunk keeps its kind and its place, and declares the new end. -/
theorem readRiff_appended {file other : Bytes} {stop : Nat} {added : List BodyChunk}
    (hother : Appended file stop added other) (hc : AgreeUpTo stop file other) (hstop : 12 ≤ stop)
    {riff : ChunkHeader} (hriff : readRiff file = .ok (riff, .avi)) :
    ∃ riff', readRiff other = .ok (riff', .avi) ∧ riff'.offset = 8 ∧
      min riff'.stop other.size = bodyLimit other := by
  obtain ⟨hread, _, hform⟩ := readRiff_eq_ok_iff.mp hriff
  obtain ⟨riff', hread', hid'⟩ := hother.riff
  have hoffset : riff.offset = 8 := ChunkHeader.offset_of_read hread
  have hoffset' : riff'.offset = 8 := ChunkHeader.offset_of_read hread'
  have hform' : riff'.readListType other = .ok .avi := by
    rw [hc.readListType (by omega) (by omega), ← hform]
    unfold ChunkHeader.readListType
    rw [hoffset, hoffset']
  exact ⟨riff', readRiff_eq_ok_iff.mpr ⟨hread', hid', hform'⟩, hoffset',
    (bodyLimit_of_read hread').symm⟩

/-- A file that can be opened and has an index, with header lists, lists of frame data and indexes
appended to its top level. The first list of frame data and the first index count, so it stays the
same clip, with the same headers, stream number and frame index, when no header list is appended.
Of header lists the last one counts, so otherwise it stays the same clip exactly when each of them
can be read and the last one tells the main header and the stream that the file told. -/
theorem ofBytes_appended_iff {file other : Bytes} {opened : Clip} (hopen : ofBytes file = .ok opened)
    {stop : Nat} (hbody : BodyEnds file stop) (hindex : ∃ h ∈ topHeaders file, h.id = .idx1)
    {added : List BodyChunk} (hother : Appended file stop added other) :
    ((∀ c ∈ added, ∀ body, c ≠ .headers body) → ofBytes other = .ok (opened.withFile other)) ∧
    (ofBytes other = .ok (opened.withFile other) ↔
      ∃ last, lastHeaders other stop none added = .ok last ∧ ∀ l ∈ last,
        l.main = some opened.main ∧
        l.video = some ⟨opened.number, opened.stream, opened.format⟩) := by
  obtain ⟨riff, top, main, video, movi, index, hriff, htop, hmain, hvideo, hmovi, hframes, rfl,
    hcheck⟩ := ofBytes_eq_ok_iff.mp hopen
  obtain ⟨hread, _, _⟩ := readRiff_eq_ok_iff.mp hriff
  have hoffset : riff.offset = 8 := ChunkHeader.offset_of_read hread
  have hlimit := bodyLimit_of_read hread
  rw [hoffset, ← hlimit] at htop
  obtain ⟨hend, hstop, hcode⟩ := hbody
  have hle : 12 ≤ stop := hend ▸ (bounds_of_walk file 12 (bodyLimit file)).1
  have hc : AgreeUpTo stop file other := ⟨by omega, hother.size_le, hother.bytes⟩
  -- the outermost chunk of the other file, its top level and its index
  obtain ⟨riff', hriff', hoffset', hlimit'⟩ := readRiff_appended hother hc hle hriff
  have hw := written_of_holds hother.holds (hother.length_lt hle)
  have htop' := TopLevel.read_appended hc htop hend hstop hcode hindex (by rw [hmovi]; rfl) hw
    hother.le_limit hother.lt_limit
  rw [← hlimit'] at htop'
  have hmoviLe : movi.2 ≤ stop :=
    hend ▸ TopLevel.movi_le_endOf htop (Nat.le_trans (Nat.le_of_eq hend) hstop) movi hmovi
  have hmoviPlace : 8 ≤ movi.1 := by
    have hplace := TopLevel.le_movi_of_read htop movi hmovi
    omega
  have hframes' : top.frameIndex other movi video.number.toNat = .ok index :=
    (hframes ▸ hc.frameIndex top hmoviPlace hmoviLe video.number.toNat).eq_ok
  have hsame : ∀ last, lastHeaders other stop none added = .ok last →
      (∀ l ∈ last, l.main = some main ∧ l.video = some video) →
      ofBytes other = .ok ⟨other, main, video.header, video.format, video.number, index, 0⟩ := by
    intro last hlast hall
    have hheaders : top.withHeaders last = top := by
      cases last with
      | none => rfl
      | some l =>
        obtain ⟨hl, hv⟩ := hall l rfl
        rw [TopLevel.withHeaders, hl, hv, ← hmain, ← hvideo]
    rw [hlast, Except.map, hheaders] at htop'
    exact ofBytes_eq_ok_iff.mpr ⟨riff', top, main, video, movi, index, hriff',
      by rw [hoffset']; exact htop', hmain, hvideo, hmovi, hframes', rfl, hcheck⟩
  refine ⟨?_, ?_, ?_⟩
  · intro hnone
    exact hsame none (BodyChunk.lastHeaders_of_forall hnone other stop none) nofun
  · intro hopen'
    obtain ⟨_, top', main', video', _, _, hsameRiff, htop'', hmain', hvideo', _, _, hclip, _⟩ :=
      ofBytes_eq_ok_iff.mp hopen'
    rw [hriff'] at hsameRiff
    cases hsameRiff
    rw [hoffset', htop'] at htop''
    obtain ⟨last, hlast, rfl⟩ := map_eq_ok_iff.mp htop''
    refine ⟨last, hlast, ?_⟩
    intro l hl
    obtain rfl : last = some l := hl
    obtain ⟨_, rfl, hheader, hformat, hnumber, _⟩ := Clip.mk.inj hclip
    refine ⟨hmain', hvideo'.trans ?_⟩
    rw [hheader, hformat, hnumber]
  · rintro ⟨last, hlast, hall⟩
    exact hsame last hlast hall

/-- The header list of a written file, appended to a file as its last one, tells what opening the
written file tells. -/
theorem lastHeaders_own {l : FileLayout} {s : Nat} {video : StreamRecords}
    (h : l.WellFormed s video) {opened : Clip} (hopen : ofBytes l.bytes = .ok opened) {other : Bytes}
    {pos : Nat} {rest : List BodyChunk}
    (hw : Written other pos (l.headerList :: rest.map BodyChunk.chunk))
    (hrest : ∀ c ∈ rest, ∀ body, c ≠ .headers body) (last : Option HeaderList) :
    ∃ count, lastHeaders other pos last (.headers (encodeChunks l.headerChunks) :: rest) =
      .ok (some ⟨some opened.main, some ⟨opened.number, opened.stream, opened.format⟩, count⟩) := by
  obtain ⟨main, hmain⟩ := MainHeader.parse_of_le h.main_length
  obtain ⟨header, hheader, _⟩ :=
    StreamHeader.parse_of_le (h.header_length video (List.mem_of_getElem? h.at_number))
  obtain ⟨format, hformat, _⟩ := BitmapInfo.parse_of_le h.format_length
  obtain ⟨riff, top, main', video', _, _, hriff, htop, hmain', hvideo', _, _, rfl, _⟩ :=
    ofBytes_eq_ok_iff.mp hopen
  rw [h.readRiff_eq] at hriff
  cases hriff
  rw [h.riff_writtenAt.stop_headerAt, Nat.zero_add, ← l.size_bytes, Nat.min_self] at htop
  cases htop.symm.trans (h.read_topLevel hmain hheader hformat)
  cases hmain'
  cases hvideo'
  have hread := HeaderList.read_written h hw.1 hmain hheader hformat
  exact ⟨_, bind_eq_ok_iff.mpr ⟨_, hread, BodyChunk.lastHeaders_of_forall hrest other _ _⟩⟩

/-- The sample with its own header list, more frame data and another index behind its chunks. -/
theorem ofBytes_appended_iff_sample :
    ∃ added : List BodyChunk, BodyEnds FileLayout.sample.bytes 362 ∧
      (∃ h ∈ topHeaders FileLayout.sample.bytes, h.id = .idx1) ∧
      Appended FileLayout.sample.bytes 362 added (FileLayout.sample.bytesWith added) ∧
      ∃ opened, ofBytes FileLayout.sample.bytes = .ok opened ∧
        ofBytes (FileLayout.sample.bytesWith added) =
          .ok (opened.withFile (FileLayout.sample.bytesWith added)) := by
  have hbody := FileLayout.bodyEnds_sample
  have hindex := FileLayout.exists_index_sample
  have happended := FileLayout.appended_sample
    [.headers (encodeChunks FileLayout.sample.headerChunks), .frames [1, 2, 3], .index []]
    (by decide +kernel)
  obtain ⟨opened, hopen, _⟩ := exists_open_sample
  refine ⟨_, hbody, hindex, happended, opened, hopen, ?_⟩
  refine (ofBytes_appended_iff hopen hbody hindex happended).2.mpr ?_
  have hw := written_of_holds happended.holds (happended.length_lt (by decide))
  obtain ⟨count, hlast⟩ := lastHeaders_own FileLayout.sample_wellFormed hopen hw (by simp) none
  refine ⟨_, hlast, ?_⟩
  rintro l ⟨rfl⟩
  exact ⟨rfl, rfl⟩

/-- A header list without the first stream behind the chunks of the sample: the stream number and
the frame index of the file are replaced. -/
theorem ofBytes_appended_headers :
    ∃ body, BodyEnds FileLayout.sample.bytes 362 ∧
      (∃ h ∈ topHeaders FileLayout.sample.bytes, h.id = .idx1) ∧
      Appended FileLayout.sample.bytes 362 [.headers body]
        (FileLayout.sample.bytesWith [.headers body]) ∧
      (ofBytes FileLayout.sample.bytes).toOption.map (fun c => (c.number, c.frameCount)) =
        some (1, 2) ∧
      (ofBytes (FileLayout.sample.bytesWith [.headers body])).toOption.map
        (fun c => (c.number, c.frameCount)) = some (0, 0) := by
  have happended := FileLayout.appended_sample
    [.headers (encodeChunks FileLayout.picturesOnly.headerChunks)] (by decide +kernel)
  obtain ⟨opened, hopen, hnumber, hcount⟩ := exists_open_sample
  have hbefore : (ofBytes FileLayout.sample.bytes).toOption.map
      (fun c => (c.number, c.frameCount)) = some (1, 2) := by
    rw [hopen, ← hnumber, ← hcount]
    rfl
  exact ⟨_, FileLayout.bodyEnds_sample, FileLayout.exists_index_sample, happended, hbefore,
    by decide +kernel⟩

end Clip

end AviPlayback
