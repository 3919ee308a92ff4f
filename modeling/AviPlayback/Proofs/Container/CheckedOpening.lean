import AviPlayback.Proofs.Container.SharedBytes

/-!
Opening with every sum checked. Places in a file are counted in 64 bits, and the streams of a header
list and the stream number of a data chunk in 16 bits. `Clip.ofBytesChecked` opens a file as
`Clip.ofBytes` does and stops at the first sum that does not fit. In a file shorter than 2^63 bytes
no place and no stream number of a data chunk overflows, and what follows the header lists is as in
`Clip.ofBytes` (`Clip.ofTopLevelChecked_eq`).
-/
set_option autoImplicit false

namespace AviPlayback

/-! ### Checked sums -/

/-- A sum that can overflow. -/
inductive Overflow
  /-- A place in the file. -/
  | place
  /-- The number of streams of a header list. -/
  | streamCount
  /-- The stream number in the name of a data chunk. -/
  | chunkNumber
  deriving DecidableEq

/-- Why a checked reading ends early. -/
inductive Stopped
  | overflow (sum : Overflow)
  | fault (fault : ContainerFault)

abbrev Checked : Type → Type := Except Stopped

namespace Checked

variable {α β σ : Type}

/-- An outcome that takes no sums. -/
def of (x : Except ContainerFault α) : Checked α := x.mapError .fault

/-- Makes sure that a place fits 64 bits. -/
def fits (place : Nat) : Checked Unit :=
  if place < UInt64.size then .ok () else .error (.overflow .place)

/-- Makes sure that the stream number in a chunk's name, when it has one, fits 16 bits. -/
def fitsNumber (id : FourCc) : Checked Unit :=
  if ∀ n ∈ id.streamNumber?, n < UInt16.size then .ok () else .error (.overflow .chunkNumber)

def next (count : UInt16) : Checked UInt16 :=
  if count.toNat + 1 < UInt16.size then .ok (count + 1) else .error (.overflow .streamCount)

/-- Runs `f` over the chunks between `pos` and `stop`, in order, each as soon as its header has been
read. -/
def foldChunks (file : Bytes) (stop : Nat) (f : σ → ChunkHeader → Checked σ) (pos : Nat) (s : σ) :
    Checked σ := do
  fits (pos + ChunkHeader.length)
  if _hfit : stop < pos + ChunkHeader.length then return s
  else match _hr : ChunkHeader.read file pos with
    | .error fault => throw (.fault fault)
    | .ok h =>
      fits h.stop
      let s ← f s h
      foldChunks file stop f h.stop s
termination_by stop - pos
decreasing_by
  have := ChunkHeader.lt_stop_of_read _hr
  simp only [ChunkHeader.length] at *
  omega

end Checked

/-! ### Checked readers -/

open Checked (fits fitsNumber)

def StreamList.readChecked (file : Bytes) (pos stop : Nat) : Checked StreamList :=
  Checked.foldChunks file stop (fun s h => .of (add file stop s h)) pos ⟨none, none⟩

namespace HeaderList

def addStreamChecked (file : Bytes) (stop : Nat) (l : HeaderList) (h : ChunkHeader) :
    Checked HeaderList := do
  let count ← Checked.next l.count
  if l.video.isSome then return { l with count }
  fits h.stop
  fits (h.offset + 4)
  let streams ← StreamList.readChecked file (h.offset + 4) (min h.stop stop)
  let video ← Checked.of (streams.video? l.count)
  return { l with count, video }

def addChecked (file : Bytes) (stop : Nat) (l : HeaderList) (h : ChunkHeader) :
    Checked HeaderList := do
  if h.id = .list then
    if (← Checked.of (h.readListType file)) = .strl then addStreamChecked file stop l h
    else return l
  else Checked.of (add file stop l h)

def readChecked (file : Bytes) (pos stop : Nat) : Checked HeaderList :=
  Checked.foldChunks file stop (addChecked file stop) pos ⟨none, none, 0⟩

end HeaderList

namespace FrameIndex

def entryOfRecordChecked (base fileLength : Nat) (r : IndexRecord) : Checked FrameEntry := do
  fits (base + r.offset.toNat + ChunkHeader.length)
  fits (base + r.offset.toNat + ChunkHeader.length + r.size.toNat)
  Checked.of (entryOfRecord base fileLength r)

/-- The index that the records of an `idx1` payload give for a stream. -/
def ofRecordsChecked (payload : List UInt8) (moviList stream fileLength : Nat) :
    Checked FrameIndex := do
  let all := IndexRecord.parseAll payload
  forM all fun r => fitsNumber r.id
  let records := all.filter fun r => r.id.isVideoOf stream
  let base := recordBase moviList records
  (records.mapM (entryOfRecordChecked base fileLength)).map FrameIndex.mk

def scanFromChecked (file : Bytes) (stream limit pos stop : Nat) : Checked Scan := do
  fits (pos + ChunkHeader.length)
  if _hfit : min stop limit < pos + ChunkHeader.length then return ⟨[], false⟩
  else match _hr : ChunkHeader.read file pos with
    | .error fault => throw (.fault fault)
    | .ok h =>
      fits h.stop
      if h.id = .list then
        if (← Checked.of (h.readListType file)) = .record then
          fits (h.offset + 4)
          let inner ← scanFromChecked file stream limit (h.offset + 4) (min h.stop limit)
          if inner.halted then return inner
          else
            let rest ← scanFromChecked file stream limit h.stop stop
            return ⟨inner.entries ++ rest.entries, rest.halted⟩
        else scanFromChecked file stream limit h.stop stop
      else
        fitsNumber h.id
        if h.id.isVideoOf stream then
          fits (h.offset + h.size.toNat)
          if limit < h.offset + h.size.toNat then return ⟨[], true⟩
          else
            let rest ← scanFromChecked file stream limit h.stop stop
            return ⟨entryOfChunk h :: rest.entries, rest.halted⟩
        else scanFromChecked file stream limit h.stop stop
termination_by limit - pos
decreasing_by
  all_goals
    have hstop := ChunkHeader.lt_stop_of_read _hr
    have hoff := ChunkHeader.offset_of_read _hr
    simp only [ChunkHeader.length] at *
    omega

def scanChecked (file : Bytes) (start stop stream : Nat) : Checked FrameIndex :=
  (scanFromChecked file stream stop start stop).map fun s => ⟨s.entries⟩

end FrameIndex

namespace TopLevel

def addChecked (file : Bytes) (stop : Nat) (t : TopLevel) (h : ChunkHeader) : Checked TopLevel := do
  if h.id = .list then
    let type ← Checked.of (h.readListType file)
    fits h.stop
    if type = .hdrl then
      fits (h.offset + 4)
      let headers ← HeaderList.readChecked file (h.offset + 4) (min h.stop stop)
      return { t with main := headers.main, video := headers.video }
    else Checked.of (add file stop t h)
  else Checked.of (add file stop t h)

def readChecked (file : Bytes) (pos stop : Nat) : Checked TopLevel :=
  Checked.foldChunks file stop (addChecked file stop) pos ⟨none, none, none, none⟩

def frameIndexChecked (t : TopLevel) (file : Bytes) (movi : Nat × Nat) (stream : Nat) :
    Checked FrameIndex := do
  let index ← match t.idx1 with
    | some payload => FrameIndex.ofRecordsChecked payload movi.1 stream file.size
    | none => pure ⟨[]⟩
  if index.entries.isEmpty then
    fits (movi.1 + 4)
    FrameIndex.scanChecked file (movi.1 + 4) movi.2 stream
  else return index

end TopLevel

namespace Clip

/-- What `ofBytesChecked` makes of the top level of a file. -/
def ofTopLevelChecked (file : Bytes) (top : TopLevel) : Checked Clip := do
  let some main := top.main | throw (.fault (.missingHeader "avih"))
  let some video := top.video | throw (.fault .noVideoStream)
  let some movi := top.movi | throw (.fault (.missingHeader "movi"))
  let index ← top.frameIndexChecked file movi video.number.toNat
  let clip : Clip := ⟨file, main, video.header, video.format, video.number, index, 0⟩
  Checked.of clip.checkDimensions
  return clip

/-- Opens a file and stops at the first sum that does not fit. -/
def ofBytesChecked (file : Bytes) : Checked Clip := do
  let (riff, form) ← Checked.of (readRiff file)
  if form ≠ .avi then throw (.fault (.notAvi form.display))
  fits riff.stop
  fits (riff.offset + 4)
  let top ← TopLevel.readChecked file (riff.offset + 4) (min riff.stop file.size)
  ofTopLevelChecked file top

end Clip

/-! ### Sums that fit -/

namespace Checked

variable {α β σ : Type}

@[simp] theorem of_ok (a : α) : of (.ok a) = .ok a := rfl

theorem of_bind (x : Except ContainerFault α) (f : α → Except ContainerFault β) :
    of (x >>= f) = of x >>= fun a => of (f a) := by
  cases x <;> rfl

theorem of_map (x : Except ContainerFault α) (f : α → β) : of (x.map f) = (of x).map f := by
  cases x <;> rfl

theorem mapM_of {f : α → Checked β} {g : α → Except ContainerFault β} (h : ∀ a, f a = of (g a))
    (l : List α) : l.mapM f = of (l.mapM g) := by
  induction l with
  | nil => rfl
  | cons a l ih =>
    rw [List.mapM_cons, List.mapM_cons, of_bind, h, ih]
    cases g a with
    | error fault => rfl
    | ok b =>
      rw [of_ok, ok_bind, ok_bind, of_bind]
      rfl

theorem fits_of_lt {place : Nat} (h : place < UInt64.size) : fits place = .ok () := if_pos h

/-- A stream number has two digits. -/
theorem fitsNumber_eq (id : FourCc) : fitsNumber id = .ok () := by
  refine if_pos fun n hn => ?_
  have := FourCc.streamNumber?_lt hn
  unfold UInt16.size
  omega

end Checked

/-- A header ends little more than four gigabytes behind the file. -/
theorem ChunkHeader.stop_le_of_offset_le {file : Bytes} {h : ChunkHeader}
    (hoffset : h.offset ≤ file.size) : h.stop ≤ file.size + UInt32.size := by
  have := h.size.toNat_lt
  unfold ChunkHeader.stop UInt32.size
  omega

/-- The first chunk of a list stands behind the four bytes of its type. -/
theorem first_le_of_offset_le {file : Bytes} {offset : Nat} (hoffset : offset ≤ file.size) :
    offset + 4 ≤ file.size + UInt32.size := by
  unfold UInt32.size
  omega

section

open Checked

variable {file : Bytes} (hsize : file.size < bufferLimit)

include hsize

/-- Places as far behind the file as a header can end are far from overflowing. -/
theorem fits_near {pos place : Nat} (hpos : pos ≤ file.size + UInt32.size)
    (hplace : place ≤ pos + UInt32.size) : fits place = .ok () := by
  unfold bufferLimit UInt64.size at hsize
  unfold UInt32.size at hpos hplace
  exact fits_of_lt (by unfold UInt64.size; omega)

theorem fits_of_le {pos : Nat} (hpos : pos ≤ file.size + UInt32.size) : fits pos = .ok () :=
  fits_near hsize hpos (Nat.le_add_right _ _)

theorem fits_header {pos : Nat} (hpos : pos ≤ file.size + UInt32.size) :
    fits (pos + ChunkHeader.length) = .ok () :=
  fits_near hsize hpos (by unfold ChunkHeader.length UInt32.size; omega)

namespace FrameIndex

/-- No sum of the walk through frame data overflows. -/
theorem scanFromChecked_eq (stream limit : Nat) {pos : Nat}
    (hpos : pos ≤ file.size + UInt32.size) (stop : Nat) :
    scanFromChecked file stream limit pos stop = of (scanFrom file stream limit pos stop) := by
  induction hleft : limit - pos using Nat.strongRecOn generalizing pos stop with
  | ind left ih =>
    subst hleft
    rw [scanFromChecked, fits_header hsize hpos, ok_bind, scanFrom_eq_bind]
    by_cases hshort : min stop limit < pos + ChunkHeader.length
    · rw [dif_pos hshort, if_pos hshort]
      rfl
    rw [dif_neg hshort, if_neg hshort]
    split
    · next fault hread =>
      rw [hread]
      rfl
    · next h hread =>
      have hinside := ChunkHeader.length_le_of_read hread
      have hoffset := ChunkHeader.offset_of_read hread
      have hbehind := ChunkHeader.lt_stop_of_read hread
      have hstop := ChunkHeader.stop_le_of_offset_le (show h.offset ≤ file.size by omega)
      unfold ChunkHeader.length at hshort hinside hoffset hbehind
      have hrest := ih (limit - h.stop) (by omega) hstop stop rfl
      rw [hread, ok_bind, fits_of_le hsize hstop, ok_bind]
      by_cases hlist : h.id = .list
      · rw [if_pos hlist, if_pos hlist, of_bind]
        cases h.readListType file with
        | error fault => rfl
        | ok type =>
          rw [of_ok, ok_bind, ok_bind]
          by_cases hrecord : type = .record
          · have hinner := ih (limit - (h.offset + 4)) (by omega)
              (show h.offset + 4 ≤ file.size + UInt32.size by unfold UInt32.size; omega)
              (min h.stop limit) rfl
            rw [if_pos hrecord, if_pos hrecord,
              fits_near hsize hpos (by unfold UInt32.size; omega), ok_bind, hinner, of_bind]
            cases scanFrom file stream limit (h.offset + 4) (min h.stop limit) with
            | error fault => rfl
            | ok inner =>
              rw [of_ok, ok_bind, ok_bind]
              split
              · rfl
              · rw [hrest, of_bind]
                rfl
          · rw [if_neg hrecord, if_neg hrecord]
            exact hrest
      · rw [if_neg hlist, if_neg hlist, fitsNumber_eq, ok_bind]
        by_cases hvideo : h.id.isVideoOf stream
        · have hlast : h.offset + h.size.toNat ≤ h.stop := Nat.le_add_right _ _
          rw [if_pos hvideo, if_pos hvideo, fits_near hsize hstop (by omega), ok_bind]
          split
          · rfl
          · rw [hrest, of_bind]
            rfl
        · rw [if_neg hvideo, if_neg hvideo]
          exact hrest

/-- No sum of a record overflows. -/
theorem entryOfRecordChecked_eq {base : Nat} (hbase : base ≤ file.size) (r : IndexRecord) :
    entryOfRecordChecked base file.size r = of (entryOfRecord base file.size r) := by
  have hoffset := r.offset.toNat_lt
  have hlast := r.size.toNat_lt
  have hfirst : base + r.offset.toNat + ChunkHeader.length ≤ base + UInt32.size + 8 := by
    unfold ChunkHeader.length UInt32.size
    omega
  unfold bufferLimit UInt64.size at hsize
  unfold UInt32.size at hfirst
  rw [entryOfRecordChecked, fits_of_lt (by unfold UInt64.size; omega), ok_bind,
    fits_of_lt (by unfold UInt64.size; omega), ok_bind]

theorem ofRecordsChecked_eq (payload : List UInt8) {moviList : Nat}
    (hmovi : moviList ≤ file.size) (stream : Nat) :
    ofRecordsChecked payload moviList stream file.size =
      of (ofRecords payload moviList stream file.size) := by
  have hnumbers (all : List IndexRecord) : forM all (fun r => fitsNumber r.id) = .ok () := by
    induction all with
    | nil => rfl
    | cons r all ih => rw [List.forM_cons, fitsNumber_eq, ok_bind, ih]
  have hbase (records : List IndexRecord) : recordBase moviList records ≤ file.size := by
    unfold recordBase
    split
    · split <;> omega
    · exact Nat.zero_le _
  unfold ofRecordsChecked ofRecords
  dsimp only
  rw [hnumbers, ok_bind, mapM_of fun r => entryOfRecordChecked_eq hsize (hbase _) r, of_map]

end FrameIndex

/-- No sum for the index of a stream overflows. -/
theorem TopLevel.frameIndexChecked_eq (t : TopLevel) {movi : Nat × Nat}
    (hmovi : movi.1 ≤ file.size) (stream : Nat) :
    t.frameIndexChecked file movi stream = of (t.frameIndex file movi stream) := by
  have hfirst := first_le_of_offset_le hmovi
  have hscan : FrameIndex.scanChecked file (movi.1 + 4) movi.2 stream =
      of (FrameIndex.scan file (movi.1 + 4) movi.2 stream) := by
    rw [FrameIndex.scanChecked, FrameIndex.scanFromChecked_eq hsize stream movi.2 hfirst, ← of_map]
    rfl
  have hfits := fits_of_le hsize hfirst
  unfold frameIndexChecked
  cases ht : t.idx1 with
  | none =>
    change (fits (movi.1 + 4) >>= fun _ =>
      FrameIndex.scanChecked file (movi.1 + 4) movi.2 stream) = _
    rw [hfits, ok_bind, hscan, frameIndex_of_none ht]
  | some payload =>
    rw [frameIndex_of_some ht, of_bind]
    dsimp only
    rw [FrameIndex.ofRecordsChecked_eq hsize payload hmovi]
    cases FrameIndex.ofRecords payload movi.1 stream file.size with
    | error fault => rfl
    | ok index =>
      rw [of_ok, ok_bind, ok_bind, hfits, ok_bind, hscan]
      split <;> rfl

/-- No sum behind the top level overflows. -/
theorem Clip.ofTopLevelChecked_eq {top : TopLevel} (hmovi : ∀ m ∈ top.movi, m.1 ≤ file.size) :
    ofTopLevelChecked file top = of (ofTopLevel file top) := by
  unfold ofTopLevelChecked ofTopLevel
  rcases top.main with _ | main
  · rfl
  rcases top.video with _ | video
  · rfl
  rcases hm : top.movi with _ | movi
  · rfl
  dsimp only
  rw [top.frameIndexChecked_eq hsize (hmovi movi hm)]
  cases top.frameIndex file movi video.number.toNat with
  | error fault => rfl
  | ok index =>
    rw [of_ok, ok_bind, ok_bind, of_bind]
    rfl

end

end AviPlayback
