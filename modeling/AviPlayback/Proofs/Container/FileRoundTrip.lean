import AviPlayback.Proofs.Container.HeaderRoundTrip
import AviPlayback.Proofs.Container.IndexAgreement
import AviPlayback.Proofs.Container.OpenClip

/-!
Reading written video files. Opening a written file gives the headers it was written with, its
first video stream and the places of the frames of that stream, whichever way the index is made
(`ofBytes_bytes`).
-/
set_option autoImplicit false

namespace AviPlayback

namespace TopLevel

variable {file : Bytes} {pos stop : Nat} {t : TopLevel} {l : FileLayout}

theorem add_headerList {headers : HeaderList} (hc : l.headerList.WrittenAt file pos)
    (hstop : pos + l.headerList.encode.length ≤ stop)
    (hread : HeaderList.read file (pos + 12) (pos + l.headerList.encode.length) = .ok headers) :
    add file stop t (l.headerList.headerAt pos) =
      .ok { t with main := headers.main, video := headers.video } := by
  have hid : l.headerList.id = .list := rfl
  rw [add, Chunk.id_headerAt, if_pos hid, (hc.readList rfl).1, ok_bind]
  dsimp only
  rw [if_pos rfl, hc.stop_headerAt, Nat.min_eq_left hstop]
  exact congrArg (· >>= _) hread

theorem add_frameData (hc : l.frameData.WrittenAt file pos)
    (hstop : pos + l.frameData.encode.length ≤ stop) (ht : t.movi = none) :
    add file stop t (l.frameData.headerAt pos) =
      .ok { t with movi := some (pos + ChunkHeader.length, pos + l.frameData.encode.length) } := by
  have hid : l.frameData.id = .list := rfl
  have hother : FourCc.movi ≠ .hdrl := by decide
  rw [add, Chunk.id_headerAt, if_pos hid, (hc.readList rfl).1, ok_bind]
  dsimp only
  rw [if_neg hother, if_pos ⟨rfl, by rw [ht]; rfl⟩, hc.stop_headerAt, Nat.min_eq_left hstop]
  rfl

theorem add_indexChunk {ix : WrittenIndex} (hc : (l.indexChunk ix).WrittenAt file pos)
    (ht : t.idx1 = none) :
    add file stop t ((l.indexChunk ix).headerAt pos) =
      .ok { t with idx1 := some (l.indexChunk ix).payload } := by
  have hid : (l.indexChunk ix).id = .idx1 := rfl
  have hother : FourCc.idx1 ≠ .list := by decide
  rw [add, Chunk.id_headerAt, hid, if_neg hother, if_pos ⟨rfl, by rw [ht]; rfl⟩,
    hc.readPayload_eq hc.add_length_le]
  rfl

end TopLevel

namespace FileLayout

variable {l : FileLayout} {s : Nat} {video : StreamRecords}

theorem size_bytes (l : FileLayout) : l.bytes.size = l.riff.encode.length := List.size_toArray

theorem riff_writtenAt (hsize : l.bytes.size < UInt32.size) : l.riff.WrittenAt l.bytes 0 := by
  rw [size_bytes, l.riff.length_encode] at hsize
  exact ⟨by omega, holds_toArray [] _⟩

theorem WellFormed.riff_writtenAt (h : l.WellFormed s video) : l.riff.WrittenAt l.bytes 0 :=
  FileLayout.riff_writtenAt h.size_lt

def moviEnd (l : FileLayout) : Nat := 12 + l.headerList.encode.length + l.frameData.encode.length

/-- The top level of a written file is read back when its header list is. -/
theorem read_topLevel {headers : HeaderList} (hsize : l.bytes.size < UInt32.size)
    (hread : HeaderList.read l.bytes (12 + 12) (12 + l.headerList.encode.length) = .ok headers) :
    TopLevel.read l.bytes 12 l.bytes.size =
      .ok ⟨headers.main, headers.video, some (l.moviPlace, l.moviEnd),
        l.index.map fun ix => (l.indexChunk ix).payload⟩ := by
  have hriff := riff_writtenAt hsize
  have hfold := hriff.foldChunks_eq rfl (⟨none, none, none, none⟩ : TopLevel)
    (TopLevel.add l.bytes l.bytes.size)
  have hlength := Chunk.length_encode_of_list (c := l.riff) rfl
  have hsize := l.size_bytes
  obtain ⟨hheaders, hframes, hindex⟩ := (hriff.readList rfl).2
  simp only [Nat.zero_add] at hfold hheaders hframes hindex
  rw [topChunks, encodeChunks_cons, encodeChunks_cons, List.length_append, List.length_append]
    at hlength
  rw [← hsize] at hfold hlength
  have hfirst : TopLevel.add l.bytes l.bytes.size ⟨none, none, none, none⟩
      (l.headerList.headerAt 12) = .ok ⟨headers.main, headers.video, none, none⟩ :=
    TopLevel.add_headerList hheaders (by omega) hread
  have hsecond : TopLevel.add l.bytes l.bytes.size ⟨headers.main, headers.video, none, none⟩
      (l.frameData.headerAt (12 + l.headerList.encode.length)) =
        .ok ⟨headers.main, headers.video, some (l.moviPlace, l.moviEnd), none⟩ :=
    TopLevel.add_frameData hframes (by omega) rfl
  rw [TopLevel.read, hfold, topChunks, headersFrom, headersFrom, List.foldlM_cons,
    hfirst, ok_bind, List.foldlM_cons, hsecond, ok_bind]
  cases hix : l.index with
  | none => rfl
  | some ix =>
    rw [hix] at hindex
    have hthird : TopLevel.add l.bytes l.bytes.size
        ⟨headers.main, headers.video, some (l.moviPlace, l.moviEnd), none⟩
        ((l.indexChunk ix).headerAt
          (12 + l.headerList.encode.length + l.frameData.encode.length)) =
          .ok ⟨headers.main, headers.video, some (l.moviPlace, l.moviEnd),
            some (l.indexChunk ix).payload⟩ :=
      TopLevel.add_indexChunk hindex.1 rfl
    exact congrArg (· >>= pure) hthird

theorem WellFormed.read_topLevel {main : MainHeader} {header : StreamHeader} {format : BitmapInfo}
    (h : l.WellFormed s video) (hmain : MainHeader.parse l.main = .ok main)
    (hheader : StreamHeader.parse video.header = .ok header)
    (hformat : BitmapInfo.parse video.format = .ok format) :
    TopLevel.read l.bytes 12 l.bytes.size =
      .ok ⟨some main, some ⟨UInt16.ofNat s, header, format⟩, some (l.moviPlace, l.moviEnd),
        l.index.map fun ix => (l.indexChunk ix).payload⟩ := by
  have hheaders : l.headerList.WrittenAt l.bytes 12 := (h.riff_writtenAt.readList rfl).2.1
  exact FileLayout.read_topLevel h.size_lt
    (HeaderList.read_written h hheaders hmain hheader hformat)

/-- The data chunks stand where the list of frame data says, inside the file. -/
theorem written_chunks (hsize : l.bytes.size < UInt32.size) :
    Written l.bytes (l.moviPlace + 4) l.chunks ∧
      l.moviPlace + 4 + (encodeChunks l.chunks).length ≤ l.moviEnd ∧
      l.moviEnd < l.moviPlace + 4 + (encodeChunks l.chunks).length + ChunkHeader.length ∧
      l.moviEnd ≤ l.bytes.size := by
  obtain ⟨_, hframes, _⟩ := ((riff_writtenAt hsize).readList rfl).2
  rw [Nat.zero_add] at hframes
  have hlength := Chunk.length_encode_of_list (c := l.frameData) rfl
  have hend := hframes.add_length_le
  refine ⟨(hframes.readList rfl).2, ?_, ?_, hend⟩
  · rw [moviEnd, moviPlace, ChunkHeader.length]
    omega
  · rw [moviEnd, moviPlace, ChunkHeader.length]
    omega

theorem WellFormed.written_chunks (h : l.WellFormed s video) :
    Written l.bytes (l.moviPlace + 4) l.chunks ∧
      l.moviPlace + 4 + (encodeChunks l.chunks).length ≤ l.moviEnd ∧
      l.moviEnd < l.moviPlace + 4 + (encodeChunks l.chunks).length + ChunkHeader.length ∧
      l.moviEnd ≤ l.bytes.size := FileLayout.written_chunks h.size_lt

theorem WellFormed.bounds_of_mem_headers (h : l.WellFormed s video) {header : ChunkHeader}
    (hmem : header ∈ l.headers) :
    l.moviPlace + 4 ≤ header.start ∧ header.offset = header.start + ChunkHeader.length ∧
      header.offset + header.size.toNat ≤ l.bytes.size := by
  obtain ⟨hfile, hle, _, hend⟩ := h.written_chunks
  have := bounds_of_mem_headersFrom hfile hmem
  omega

/-- The first record of the stream tells the origin of a written index. -/
theorem WellFormed.recordBase_eq (h : l.WellFormed s video) {ix : WrittenIndex}
    (hix : ix ∈ l.index) {first : ChunkHeader} {rest : List ChunkHeader}
    (hframes : l.headers.filter (·.id.isVideoOf s) = first :: rest) :
    FrameIndex.recordBase l.moviPlace ((first :: rest).map (listedAs (l.origin ix) ix.flags)) =
      l.origin ix := by
  have hmem : first ∈ l.headers := by
    refine (List.mem_filter (p := (·.id.isVideoOf s)).mp ?_).1
    simp [hframes]
  obtain ⟨hstart, hoffset, hend⟩ := h.bounds_of_mem_headers hmem
  have hsize := h.size_lt
  rw [FrameIndex.recordBase_cons_listedAs rest (by omega)]
  by_cases habsolute : ix.absolute
  · rw [origin, if_pos habsolute, if_neg (by omega)]
  · have hfirst : first.start = l.moviPlace + 4 := by
      cases hchunks : l.chunks with
      | nil => simp [headers, hchunks, headersFrom] at hmem
      | cons c others =>
        have hpicture := h.picture_first ix hix (by simpa using habsolute) c (by simp [hchunks])
        rw [headers, hchunks, headersFrom, List.filter_cons, Chunk.id_headerAt, if_pos hpicture]
          at hframes
        cases hframes
        exact Chunk.start_headerAt _ _
    rw [origin, if_neg habsolute, if_pos]
    rw [hfirst, moviPlace]
    omega

theorem WellFormed.origin_le (h : l.WellFormed s video) (ix : WrittenIndex) {header : ChunkHeader}
    (hmem : header ∈ l.headers) : l.origin ix ≤ header.start := by
  have := h.bounds_of_mem_headers hmem
  rw [origin]
  split <;> omega

/-- The index made from a written index chunk. -/
theorem WellFormed.ofRecords_eq (h : l.WellFormed s video) {ix : WrittenIndex}
    (hix : ix ∈ l.index) :
    FrameIndex.ofRecords (l.indexChunk ix).payload l.moviPlace s l.bytes.size =
      .ok ⟨(l.headers.filter (·.id.isVideoOf s)).map
        (FrameIndex.entryListed (l.origin ix) (l.origin ix) ix.flags)⟩ := by
  have hplace : ∀ header ∈ l.headers, header.start - l.origin ix < UInt32.size := by
    intro header hmem
    have := h.bounds_of_mem_headers hmem
    have := h.size_lt
    omega
  have hfits : ∀ base ≤ l.origin ix, ∀ header ∈ l.headers,
      base + (header.start - l.origin ix) + ChunkHeader.length + header.size.toNat ≤
        l.bytes.size := by
    intro base hbase header hmem
    have := h.bounds_of_mem_headers hmem
    have := h.origin_le ix hmem
    omega
  -- without a frame of the stream there is no first record to tell the origin
  cases hframes : l.headers.filter (·.id.isVideoOf s) with
  | nil =>
    have hnone := FrameIndex.ofRecords_indexPayload l.moviPlace s ix.flags (by rw [hframes]; rfl)
      hplace (hfits 0 (Nat.zero_le _))
    rw [hframes] at hnone
    exact hnone
  | cons first rest =>
    have hsome := FrameIndex.ofRecords_indexPayload l.moviPlace s ix.flags
      (by rw [hframes, h.recordBase_eq hix hframes]) hplace (hfits (l.origin ix) (Nat.le_refl _))
    rw [hframes] at hsome
    exact hsome

/-- Whichever way it is made, the index has the places of the frames of the stream. -/
theorem WellFormed.frameIndex (h : l.WellFormed s video) {t : TopLevel}
    (ht : t.idx1 = l.index.map fun ix => (l.indexChunk ix).payload) :
    ∃ index, t.frameIndex l.bytes (l.moviPlace, l.moviEnd) s = .ok index ∧
      index.places = (l.headers.filter (·.id.isVideoOf s)).map fun h => (h.offset, h.size) := by
  obtain ⟨hfile, hle, hlt, _⟩ := h.written_chunks
  have hscan := FrameIndex.scan_written s hfile h.plain hle hlt
  cases hix : l.index with
  | none =>
    rw [TopLevel.frameIndex_of_none (by rw [ht, hix]; rfl), hscan]
    exact ⟨_, rfl, FrameIndex.places_map_entryOfChunk _⟩
  | some ix =>
    rw [TopLevel.frameIndex_of_some (by rw [ht, hix]; rfl), h.ofRecords_eq hix, ok_bind]
    -- an index without frames of the stream is not used
    split
    · rw [hscan]
      exact ⟨_, rfl, FrameIndex.places_map_entryOfChunk _⟩
    · refine ⟨_, rfl, FrameIndex.places_map_entryListed ix.flags fun header hmem => ?_⟩
      have hmem := (List.mem_filter.mp hmem).1
      have := h.bounds_of_mem_headers hmem
      exact ⟨h.origin_le ix hmem, by omega⟩

theorem readRiff_eq (hsize : l.bytes.size < UInt32.size) :
    Clip.readRiff l.bytes = .ok (l.riff.headerAt 0, .avi) := by
  have hid : l.riff.id = .riff := rfl
  have hriff := riff_writtenAt hsize
  simp only [Clip.readRiff, hriff.read_eq, Chunk.id_headerAt, if_pos hid, (hriff.readList rfl).1]

theorem WellFormed.readRiff_eq (h : l.WellFormed s video) :
    Clip.readRiff l.bytes = .ok (l.riff.headerAt 0, .avi) := FileLayout.readRiff_eq h.size_lt

/-- The frames in the index are the payloads of the data chunks of the stream. -/
theorem WellFormed.payloads (h : l.WellFormed s video) {index : FrameIndex}
    (hplaces : index.places =
      (l.headers.filter (·.id.isVideoOf s)).map fun h => (h.offset, h.size)) :
    index.entries.map (fun e => readAt l.bytes e.offset e.size.toNat) =
      (l.chunks.filter (·.id.isVideoOf s)).map fun c => some c.payload := by
  have hread := congrArg (List.map fun place => readAt l.bytes place.1 place.2.toNat) hplaces
  simp only [FrameIndex.places, List.map_map, Function.comp_def] at hread
  rw [hread]
  exact map_readAt_headersFrom h.written_chunks.1 (·.isVideoOf s)

end FileLayout

/-- A format with a playable size decides the size of the pictures. -/
theorem Clip.checkDimensions_of_format {c : Clip} (hwidth : c.format.width.toInt ≠ 0)
    (hwidthLe : c.format.width.toInt.natAbs ≤ maxDimension) (hheight : c.format.height.toInt ≠ 0)
    (hheightLe : c.format.height.toInt.natAbs ≤ maxDimension) :
    c.width = c.format.width.toInt.natAbs ∧ c.height = c.format.height.toInt.natAbs ∧
      c.checkDimensions = .ok () := by
  have hclipWidth : c.width = c.format.width.toInt.natAbs :=
    if_neg (Int.natAbs_ne_zero.mpr hwidth)
  have hclipHeight : c.height = c.format.height.toInt.natAbs :=
    if_neg (Int.natAbs_ne_zero.mpr hheight)
  refine ⟨hclipWidth, hclipHeight, ?_⟩
  rw [checkDimensions, hclipWidth, hclipHeight, if_neg (by omega), if_neg (by omega)]

/-- Opening a written file succeeds. It gives the written headers, the number of the first stream
with pictures, the size of its pictures, and an index of its frames in the order in which they
were written. -/
theorem Clip.ofBytes_bytes {l : FileLayout} {s : Nat} {video : StreamRecords}
    (h : l.WellFormed s video) :
    ∃ clip, ofBytes l.bytes = .ok clip ∧ clip.number.toNat = s ∧
      MainHeader.parse l.main = .ok clip.main ∧
      StreamHeader.parse video.header = .ok clip.stream ∧
      BitmapInfo.parse video.format = .ok clip.format ∧
      clip.width = clip.format.width.toInt.natAbs ∧
      clip.height = clip.format.height.toInt.natAbs ∧
      clip.index.places =
        ((l.headers.filter (·.id.isVideoOf s)).map fun h => (h.offset, h.size)) ∧
      clip.index.entries.map (fun e => readAt l.bytes e.offset e.size.toNat) =
        (l.chunks.filter (·.id.isVideoOf s)).map fun c => some c.payload := by
  obtain ⟨main, hmain⟩ := MainHeader.parse_of_le h.main_length
  obtain ⟨header, hheader, _⟩ :=
    StreamHeader.parse_of_le (h.header_length video (List.mem_of_getElem? h.at_number))
  obtain ⟨format, hformat, hformatWidth, hformatHeight⟩ := BitmapInfo.parse_of_le h.format_length
  have hnumber : (UInt16.ofNat s).toNat = s := by
    have hlt := (List.getElem?_eq_some_iff.mp h.at_number).1
    exact UInt16.toNat_ofNat_of_lt' (Nat.lt_trans hlt h.streams_lt)
  let top : TopLevel := ⟨some main, some ⟨UInt16.ofNat s, header, format⟩,
    some (l.moviPlace, l.moviEnd), l.index.map fun ix => (l.indexChunk ix).payload⟩
  obtain ⟨index, hindex, hplaces⟩ := h.frameIndex (t := top) rfl
  let clip : Clip := ⟨l.bytes, main, header, format, UInt16.ofNat s, index, 0⟩
  obtain ⟨hwidth, hheight, hcheck⟩ := checkDimensions_of_format (c := clip)
    (hformatWidth ▸ h.width_pos) (hformatWidth ▸ h.width_le) (hformatHeight ▸ h.height_pos)
    (hformatHeight ▸ h.height_le)
  have htop : TopLevel.read l.bytes ((l.riff.headerAt 0).offset + 4)
      (min (l.riff.headerAt 0).stop l.bytes.size) = .ok top := by
    rw [h.riff_writtenAt.stop_headerAt, Nat.zero_add, ← l.size_bytes, Nat.min_self]
    exact h.read_topLevel hmain hheader hformat
  have hopen : ofBytes l.bytes = .ok clip := by
    refine ofBytes_eq_ok_iff.mpr ⟨_, top, main, _, (l.moviPlace, l.moviEnd), index, h.readRiff_eq,
      htop, rfl, rfl, rfl, ?_, rfl, hcheck⟩
    rw [hnumber]
    exact hindex
  exact ⟨clip, hopen, hnumber, hmain, hheader, hformat, hwidth, hheight, hplaces,
    h.payloads hplaces⟩

theorem Clip.ofBytes_sample :
    FileLayout.sample.WellFormed 1 FileLayout.pictures ∧
      ∃ clip, ofBytes FileLayout.sample.bytes = .ok clip ∧ clip.number.toNat = 1 ∧
        clip.index.places = [(284, 3), (306, 0)] ∧
        clip.index.entries.map (fun e => readAt FileLayout.sample.bytes e.offset e.size.toNat) =
          [some [7, 8, 9], some []] := by
  obtain ⟨clip, hopen, hnumber, _, _, _, _, _, hplaces, hpayloads⟩ :=
    ofBytes_bytes FileLayout.sample_wellFormed
  exact ⟨FileLayout.sample_wellFormed, clip, hopen, hnumber, hplaces.trans (by decide +kernel),
    hpayloads.trans (by decide +kernel)⟩

end AviPlayback
