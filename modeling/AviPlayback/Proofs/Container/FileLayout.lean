import AviPlayback.Proofs.Container.IndexRecords
import AviPlayback.Container.Clip

/-!
Written video files. A `FileLayout` says what a file is made of, and `FileLayout.bytes` writes it:
the header list with one list for each stream, the frame data, and the index chunk if there is one.
-/
set_option autoImplicit false

namespace AviPlayback

/-- The payloads of one stream's two header chunks. -/
structure StreamRecords where
  header : List UInt8
  format : List UInt8

namespace StreamRecords

def chunks (r : StreamRecords) : List Chunk := [⟨.strh, r.header⟩, ⟨.strf, r.format⟩]

def chunk (r : StreamRecords) : Chunk := .ofList .strl (encodeChunks r.chunks)

def isVideo (r : StreamRecords) : Bool := FourCc.readFrom r.header 0 == .vids

end StreamRecords

/-- How an index chunk is written. -/
structure WrittenIndex where
  /-- Places are counted from the start of the file, not from the `movi` code. -/
  absolute : Bool
  /-- The flags of the record of each chunk. -/
  flags : ChunkHeader → UInt32

/-- What a file is made of. -/
structure FileLayout where
  main : List UInt8
  streams : List StreamRecords
  chunks : List Chunk
  index : Option WrittenIndex

namespace FileLayout

def headerChunks (l : FileLayout) : List Chunk :=
  ⟨.avih, l.main⟩ :: l.streams.map StreamRecords.chunk

def headerList (l : FileLayout) : Chunk := .ofList .hdrl (encodeChunks l.headerChunks)

def frameData (l : FileLayout) : Chunk := .ofList .movi (encodeChunks l.chunks)

/-- Where the list of frame data has its type code. -/
def moviPlace (l : FileLayout) : Nat := 12 + l.headerList.encode.length + ChunkHeader.length

def headers (l : FileLayout) : List ChunkHeader := headersFrom (l.moviPlace + 4) l.chunks

/-- What the index counts its places from. -/
def origin (l : FileLayout) (ix : WrittenIndex) : Nat := if ix.absolute then 0 else l.moviPlace

def indexChunk (l : FileLayout) (ix : WrittenIndex) : Chunk :=
  ⟨.idx1, indexPayload (l.origin ix) ix.flags l.headers⟩

def topChunks (l : FileLayout) : List Chunk :=
  l.headerList :: l.frameData :: (l.index.map l.indexChunk).toList

/-- The outermost chunk. -/
def riff (l : FileLayout) : Chunk := ⟨.riff, FourCc.avi.toBytes ++ encodeChunks l.topChunks⟩

def bytes (l : FileLayout) : Bytes := l.riff.encode.toArray

/-- A file whose stream number `s` is the first one that holds pictures, described by `video`. -/
structure WellFormed (l : FileLayout) (s : Nat) (video : StreamRecords) : Prop where
  main_length : MainHeader.minLength ≤ l.main.length
  header_length : ∀ r ∈ l.streams, StreamHeader.minLength ≤ r.header.length
  streams_lt : l.streams.length < 65536
  at_number : l.streams[s]? = some video
  isVideo : video.isVideo
  others_before : ∀ r ∈ l.streams.take s, ¬ r.isVideo
  format_length : BitmapInfo.minLength ≤ video.format.length
  width_pos : (LittleEndian.int32At video.format 4).toInt ≠ 0
  width_le : (LittleEndian.int32At video.format 4).toInt.natAbs ≤ Clip.maxDimension
  height_pos : (LittleEndian.int32At video.format 8).toInt ≠ 0
  height_le : (LittleEndian.int32At video.format 8).toInt.natAbs ≤ Clip.maxDimension
  plain : ∀ c ∈ l.chunks, c.id ≠ .list
  /-- Places counted from the `movi` code are recognised by a first chunk that holds a picture. -/
  picture_first : ∀ ix ∈ l.index, ix.absolute = false → ∀ c ∈ l.chunks.head?, c.id.isVideoOf s
  size_lt : l.bytes.size < UInt32.size

/-- The records of a stream with pictures two pixels wide and one pixel high. -/
def pictures : StreamRecords where
  header := FourCc.vids.toBytes ++ List.replicate 44 0
  format := List.replicate 4 0 ++ LittleEndian.ofUInt32 2 ++ LittleEndian.ofUInt32 1 ++
    LittleEndian.ofUInt16 1 ++ LittleEndian.ofUInt16 24 ++ List.replicate 24 0

/-- A small file with pictures in its second stream. The payload of its first frame has an odd
size, sound follows, and the second frame is empty. -/
def sample : FileLayout where
  main := List.replicate 40 0
  streams := [⟨List.replicate 48 0, []⟩, pictures]
  chunks := [⟨.ofChars '0' '1' 'd' 'b', [7, 8, 9]⟩, ⟨.ofChars '0' '0' 'w' 'b', [1]⟩,
    ⟨.ofChars '0' '1' 'd' 'c', []⟩]
  index := some ⟨false, fun _ => IndexFlags.keyframe⟩

theorem sample_wellFormed : sample.WellFormed 1 pictures where
  main_length := by decide
  header_length := by decide
  streams_lt := by decide
  at_number := rfl
  isVideo := by decide
  others_before := by decide
  format_length := by decide
  width_pos := by decide
  width_le := by decide
  height_pos := by decide
  height_le := by decide
  plain := by decide
  picture_first := by simp [sample]; decide
  size_lt := by decide +kernel

end FileLayout

end AviPlayback
