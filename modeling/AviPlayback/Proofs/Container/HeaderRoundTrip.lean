import AviPlayback.Proofs.Container.FileLayout
import AviPlayback.Proofs.Outcome

/-!
Reading written headers. A written stream list and a written header list are read back to the
records they were written from, and the first stream with pictures is found
(`HeaderList.read_written`).
-/
set_option autoImplicit false

namespace AviPlayback

theorem MainHeader.parse_of_le {payload : List UInt8} (h : minLength ≤ payload.length) :
    ∃ header, parse payload = .ok header := by
  rw [parse, if_neg (Nat.not_lt.mpr h)]
  exact ⟨_, rfl⟩

theorem StreamHeader.parse_of_le {payload : List UInt8} (h : minLength ≤ payload.length) :
    ∃ header, parse payload = .ok header ∧ header.type = .readFrom payload 0 := by
  rw [parse, if_neg (Nat.not_lt.mpr h)]
  exact ⟨_, rfl, rfl⟩

theorem BitmapInfo.parse_of_le {payload : List UInt8} (h : minLength ≤ payload.length) :
    ∃ info, parse payload = .ok info ∧ info.width = LittleEndian.int32At payload 4 ∧
      info.height = LittleEndian.int32At payload 8 := by
  rw [parse, if_neg (Nat.not_lt.mpr h)]
  exact ⟨_, rfl, rfl, rfl⟩

namespace StreamList

variable {file : Bytes} {pos stop : Nat}

theorem add_header {payload : List UInt8} {header : StreamHeader} (s : StreamList)
    (hc : (Chunk.mk .strh payload).WrittenAt file pos)
    (hstop : pos + (Chunk.mk .strh payload).encode.length ≤ stop)
    (hparse : StreamHeader.parse payload = .ok header) :
    add file stop s ((Chunk.mk .strh payload).headerAt pos) = .ok { s with header := header } := by
  rw [add, Chunk.id_headerAt, if_pos rfl, hc.readPayload_eq hstop, ok_bind, hparse]
  rfl

theorem add_format {payload : List UInt8} (s : StreamList)
    (hc : (Chunk.mk .strf payload).WrittenAt file pos)
    (hstop : pos + (Chunk.mk .strf payload).encode.length ≤ stop) :
    add file stop s ((Chunk.mk .strf payload).headerAt pos) = .ok { s with format := payload } := by
  have hother : FourCc.strf ≠ .strh := by decide
  rw [add, Chunk.id_headerAt, if_neg hother, if_pos rfl, hc.readPayload_eq hstop]
  rfl

/-- A written stream list is read back. -/
theorem read_written {r : StreamRecords} {header : StreamHeader} (hc : r.chunk.WrittenAt file pos)
    (hparse : StreamHeader.parse r.header = .ok header) :
    read file (pos + 12) (pos + r.chunk.encode.length) = .ok ⟨some header, some r.format⟩ := by
  obtain ⟨hheader, hformat, _⟩ := (hc.readList rfl).2
  have hlength := Chunk.length_encode_of_list (c := r.chunk) rfl
  simp only [StreamRecords.chunks, encodeChunks_cons, encodeChunks_nil, List.length_append,
    List.length_nil] at hlength
  have hfirst : add file (pos + r.chunk.encode.length) ⟨none, none⟩
      ((Chunk.mk .strh r.header).headerAt (pos + 12)) = .ok ⟨some header, none⟩ :=
    add_header ⟨none, none⟩ hheader (by omega) hparse
  have hsecond : add file (pos + r.chunk.encode.length) ⟨some header, none⟩
      ((Chunk.mk .strf r.format).headerAt
        (pos + 12 + (Chunk.mk .strh r.header).encode.length)) =
        .ok ⟨some header, some r.format⟩ :=
    add_format ⟨some header, none⟩ hformat (by omega)
  rw [read, hc.foldChunks_eq rfl]
  simp only [StreamRecords.chunks, headersFrom, List.foldlM_cons, List.foldlM_nil, hfirst, ok_bind,
    hsecond]
  rfl

theorem video?_of_not_isVideo {header : StreamHeader} (h : header.isVideo = false)
    (format : Option (List UInt8)) (number : UInt16) :
    video? ⟨some header, format⟩ number = .ok none := by
  simp [video?, h]

theorem video?_of_isVideo {header : StreamHeader} {payload : List UInt8}
    {format : BitmapInfo} (h : header.isVideo) (hparse : BitmapInfo.parse payload = .ok format)
    (number : UInt16) :
    video? ⟨some header, some payload⟩ number = .ok (some ⟨number, header, format⟩) := by
  simp [video?, h, hparse, Except.map]

end StreamList

namespace HeaderList

variable {file : Bytes} {pos stop : Nat} {r : StreamRecords} {l : HeaderList}

/-- A written stream list is looked into until a stream with pictures has been found. -/
theorem add_written_stream {header : StreamHeader} (hc : r.chunk.WrittenAt file pos)
    (hstop : pos + r.chunk.encode.length ≤ stop)
    (hparse : StreamHeader.parse r.header = .ok header) :
    add file stop l (r.chunk.headerAt pos) =
      if l.video.isSome then .ok { l with count := l.count + 1 }
      else (StreamList.video? ⟨some header, some r.format⟩ l.count).map fun video =>
        { l with count := l.count + 1, video } := by
  have hid : r.chunk.id = .list := rfl
  have hother : FourCc.list ≠ .avih := by decide
  have hread : StreamList.read file ((r.chunk.headerAt pos).offset + 4)
      (min (r.chunk.headerAt pos).stop stop) = .ok ⟨some header, some r.format⟩ := by
    rw [hc.stop_headerAt, Nat.min_eq_left hstop]
    exact StreamList.read_written hc hparse
  rw [add, Chunk.id_headerAt, hid, if_neg hother, if_pos rfl, (hc.readList rfl).1, ok_bind,
    if_pos rfl, addStream]
  split
  · rfl
  · rw [hread, ok_bind]
    cases StreamList.video? ⟨some header, some r.format⟩ l.count <;> rfl

/-- A stream that comes too late or holds no pictures is only counted. -/
theorem add_other_stream (hc : r.chunk.WrittenAt file pos)
    (hstop : pos + r.chunk.encode.length ≤ stop)
    (hlength : StreamHeader.minLength ≤ r.header.length)
    (hother : l.video.isSome ∨ ¬ r.isVideo) :
    add file stop l (r.chunk.headerAt pos) = .ok { l with count := l.count + 1 } := by
  obtain ⟨header, hparse, htype⟩ := StreamHeader.parse_of_le hlength
  rw [add_written_stream hc hstop hparse]
  by_cases hsome : l.video.isSome
  · rw [if_pos hsome]
  · have hheader : header.isVideo = false := by
      have hnot := hother.resolve_left hsome
      simpa [StreamHeader.isVideo, StreamRecords.isVideo, htype] using hnot
    rw [if_neg hsome, StreamList.video?_of_not_isVideo hheader]
    simp only [Except.map, Option.not_isSome_iff_eq_none.mp hsome]

theorem foldlM_add_other_streams {streams : List StreamRecords}
    (hfile : Written file pos (streams.map StreamRecords.chunk))
    (hstop : pos + (encodeChunks (streams.map StreamRecords.chunk)).length ≤ stop)
    (hlength : ∀ r ∈ streams, StreamHeader.minLength ≤ r.header.length)
    (hother : l.video.isSome ∨ ∀ r ∈ streams, ¬ r.isVideo) :
    (headersFrom pos (streams.map StreamRecords.chunk)).foldlM (add file stop) l =
      .ok { l with count := l.count + UInt16.ofNat streams.length } := by
  induction streams generalizing pos l with
  | nil => simp [headersFrom, pure, Except.pure]
  | cons r rest ih =>
    rw [List.map_cons, encodeChunks_cons, List.length_append] at hstop
    have hadd : add file stop l (r.chunk.headerAt pos) = .ok { l with count := l.count + 1 } :=
      add_other_stream hfile.1 (by omega) (hlength r (by simp))
        (hother.imp_right fun h => h r (by simp))
    have hrest := ih (l := { l with count := l.count + 1 }) hfile.2
      (by rw [Nat.add_assoc]; exact hstop) (fun r hr => hlength r (by simp [hr]))
      (hother.imp_right fun h r hr => h r (by simp [hr]))
    have hcount : l.count + 1 + UInt16.ofNat rest.length =
        l.count + UInt16.ofNat (r :: rest).length := by
      rw [List.length_cons, UInt16.ofNat_add, UInt16.add_assoc, UInt16.add_comm 1]
      rfl
    rw [List.map_cons, headersFrom, List.foldlM_cons, hadd, ok_bind, hrest, hcount]

/-- The first stream with pictures is found among the written streams. -/
theorem foldlM_add_streams {before after : List StreamRecords} {video : StreamRecords}
    {header : StreamHeader} {format : BitmapInfo}
    (hfile : Written file pos ((before ++ video :: after).map StreamRecords.chunk))
    (hstop : pos + (encodeChunks ((before ++ video :: after).map StreamRecords.chunk)).length ≤ stop)
    (hlength : ∀ r ∈ before ++ video :: after, StreamHeader.minLength ≤ r.header.length)
    (hbefore : ∀ r ∈ before, ¬ r.isVideo) (hvideo : video.isVideo)
    (hparse : StreamHeader.parse video.header = .ok header)
    (hformat : BitmapInfo.parse video.format = .ok format) (main : Option MainHeader) :
    (headersFrom pos ((before ++ video :: after).map StreamRecords.chunk)).foldlM (add file stop)
        ⟨main, none, 0⟩ =
      .ok ⟨main, some ⟨UInt16.ofNat before.length, header, format⟩,
        UInt16.ofNat (before ++ video :: after).length⟩ := by
  simp only [List.map_append, List.map_cons] at hfile hstop ⊢
  rw [encodeChunks_append, encodeChunks_cons, List.length_append, List.length_append] at hstop
  obtain ⟨hbeforeFile, hvideoFile, hafterFile⟩ := hfile.append
  have hfound : header.isVideo := by
    obtain ⟨_, hparse', htype⟩ := StreamHeader.parse_of_le (hlength video (by simp))
    cases hparse.symm.trans hparse'
    simpa [StreamHeader.isVideo, StreamRecords.isVideo, htype] using hvideo
  have hvideoRoom : pos + (encodeChunks (before.map StreamRecords.chunk)).length +
      video.chunk.encode.length ≤ stop := by omega
  have hcount : UInt16.ofNat before.length + 1 + UInt16.ofNat after.length =
      UInt16.ofNat (before ++ video :: after).length := by
    rw [List.length_append, List.length_cons, UInt16.ofNat_add, UInt16.ofNat_add, UInt16.add_assoc,
      UInt16.add_comm 1]
    rfl
  have hfirst : (headersFrom pos (before.map StreamRecords.chunk)).foldlM (add file stop)
      ⟨main, none, 0⟩ = .ok ⟨main, none, 0 + UInt16.ofNat before.length⟩ :=
    foldlM_add_other_streams hbeforeFile (by omega) (fun r hr => hlength r (by simp [hr]))
      (.inr hbefore)
  have hsecond : add file stop ⟨main, none, UInt16.ofNat before.length⟩
      (video.chunk.headerAt (pos + (encodeChunks (before.map StreamRecords.chunk)).length)) =
        .ok ⟨main, some ⟨UInt16.ofNat before.length, header, format⟩,
          UInt16.ofNat before.length + 1⟩ := by
    rw [add_written_stream hvideoFile hvideoRoom hparse, StreamList.video?_of_isVideo hfound hformat]
    rfl
  have hthird : (headersFrom (pos + (encodeChunks (before.map StreamRecords.chunk)).length +
      video.chunk.encode.length) (after.map StreamRecords.chunk)).foldlM (add file stop)
        ⟨main, some ⟨UInt16.ofNat before.length, header, format⟩,
          UInt16.ofNat before.length + 1⟩ =
        .ok ⟨main, some ⟨UInt16.ofNat before.length, header, format⟩,
          UInt16.ofNat before.length + 1 + UInt16.ofNat after.length⟩ :=
    foldlM_add_other_streams hafterFile (by omega) (fun r hr => hlength r (by simp [hr])) (.inl rfl)
  rw [UInt16.zero_add] at hfirst
  rw [headersFrom_append, headersFrom, List.foldlM_append, hfirst, ok_bind, List.foldlM_cons,
    hsecond, ok_bind, hthird, hcount]

theorem add_main {payload : List UInt8} {main : MainHeader}
    (hc : (Chunk.mk .avih payload).WrittenAt file pos)
    (hstop : pos + (Chunk.mk .avih payload).encode.length ≤ stop)
    (hparse : MainHeader.parse payload = .ok main) :
    add file stop l ((Chunk.mk .avih payload).headerAt pos) = .ok { l with main := main } := by
  rw [add, Chunk.id_headerAt, if_pos rfl, hc.readPayload_eq hstop, ok_bind, hparse]
  rfl

/-- A written header list is read back: its first stream with pictures, and how many streams there
are, as far as 16 bits tell. -/
theorem read_streams {layout : FileLayout} {before after : List StreamRecords}
    {video : StreamRecords} {main : MainHeader} {header : StreamHeader} {format : BitmapInfo}
    (hstreams : layout.streams = before ++ video :: after)
    (hlength : ∀ r ∈ layout.streams, StreamHeader.minLength ≤ r.header.length)
    (hbefore : ∀ r ∈ before, ¬ r.isVideo) (hvideo : video.isVideo)
    (hc : layout.headerList.WrittenAt file pos) (hmain : MainHeader.parse layout.main = .ok main)
    (hheader : StreamHeader.parse video.header = .ok header)
    (hformat : BitmapInfo.parse video.format = .ok format) :
    read file (pos + 12) (pos + layout.headerList.encode.length) =
      .ok ⟨some main, some ⟨UInt16.ofNat before.length, header, format⟩,
        UInt16.ofNat layout.streams.length⟩ := by
  obtain ⟨hmainFile, hstreamsFile⟩ := (hc.readList rfl).2
  have hbytes := Chunk.length_encode_of_list (c := layout.headerList) rfl
  rw [FileLayout.headerChunks, encodeChunks_cons, List.length_append] at hbytes
  have hadd : add file (pos + layout.headerList.encode.length) ⟨none, none, 0⟩
      ((Chunk.mk .avih layout.main).headerAt (pos + 12)) = .ok ⟨some main, none, 0⟩ :=
    add_main hmainFile (by omega) hmain
  rw [hstreams] at hstreamsFile hbytes hlength
  have hroom : pos + 12 + (Chunk.mk .avih layout.main).encode.length +
      (encodeChunks ((before ++ video :: after).map StreamRecords.chunk)).length ≤
        pos + layout.headerList.encode.length := by omega
  have hfold := foldlM_add_streams hstreamsFile hroom hlength hbefore hvideo hheader hformat
    (some main)
  rw [read, hc.foldChunks_eq rfl, FileLayout.headerChunks, headersFrom, List.foldlM_cons, hadd,
    ok_bind, hstreams, hfold]

theorem read_written {layout : FileLayout} {s : Nat} {video : StreamRecords} {main : MainHeader}
    {header : StreamHeader} {format : BitmapInfo} (h : layout.WellFormed s video)
    (hc : layout.headerList.WrittenAt file pos) (hmain : MainHeader.parse layout.main = .ok main)
    (hheader : StreamHeader.parse video.header = .ok header)
    (hformat : BitmapInfo.parse video.format = .ok format) :
    read file (pos + 12) (pos + layout.headerList.encode.length) =
      .ok ⟨some main, some ⟨UInt16.ofNat s, header, format⟩,
        UInt16.ofNat layout.streams.length⟩ := by
  obtain ⟨hlt, hat⟩ := List.getElem?_eq_some_iff.mp h.at_number
  have hsplit : layout.streams = layout.streams.take s ++ video :: layout.streams.drop (s + 1) := by
    rw [← hat, ← List.drop_eq_getElem_cons hlt, List.take_append_drop]
  have hbefore : (layout.streams.take s).length = s := List.length_take_of_le (Nat.le_of_lt hlt)
  have hread := read_streams hsplit h.header_length h.others_before h.isVideo hc hmain hheader hformat
  rwa [hbefore] at hread

end HeaderList

end AviPlayback
