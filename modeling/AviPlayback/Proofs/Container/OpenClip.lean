import AviPlayback.Proofs.Container.FileLayout
import AviPlayback.Proofs.Container.Scan
import AviPlayback.Frame.Texture

/-!
Clips that have been opened. An opened clip has pictures that buffers and textures can be made for
and an index that stays inside its file; reading, seeking and rewinding keep its cursor inside the
index, so a large enough buffer receives every frame (`ofBytes_playable`).
-/
set_option autoImplicit false

namespace AviPlayback

theorem readAt_of_le {file : Bytes} {pos count : Nat} (h : pos + count ≤ file.size) :
    readAt file pos count = some ((file.toList.drop pos).take count) := by
  have hlength : ((file.toList.drop pos).take count).length = count := by
    rw [List.length_take, List.length_drop, Array.length_toList]
    omega
  rw [readAt_eq, if_pos hlength]

/-- A fold over chunks that succeeds has walked all of them. -/
theorem foldChunks_eq_ok {σ : Type} {file : Bytes} {pos stop : Nat} {init s : σ}
    {f : σ → ChunkHeader → Except ContainerFault σ} (h : foldChunks file pos stop init f = .ok s) :
    ∃ headers, walk file pos stop = (headers, none) ∧ headers.foldlM f init = .ok s := by
  unfold foldChunks at h
  dsimp only at h
  split at h
  · next t hfold hwalk =>
    cases h
    exact ⟨(walk file pos stop).1, Prod.ext rfl hwalk, hfold⟩
  · cases h
  · cases h

namespace FrameIndex

theorem stop_le_of_entryOfRecord {base fileLength : Nat} {r : IndexRecord} {e : FrameEntry}
    (h : entryOfRecord base fileLength r = .ok e) : e.stop ≤ fileLength := by
  unfold entryOfRecord at h
  dsimp only at h
  split at h
  · cases h
  · next hfits =>
    cases h
    omega

theorem stop_le_of_ofRecords {payload : List UInt8} {moviList stream fileLength : Nat}
    {ix : FrameIndex} (h : ofRecords payload moviList stream fileLength = .ok ix) :
    ∀ e ∈ ix.entries, e.stop ≤ fileLength := by
  obtain ⟨entries, hentries, rfl⟩ := map_eq_ok_iff.mp h
  exact forall_of_mapM_eq_ok (fun _ _ => stop_le_of_entryOfRecord) hentries

theorem stop_le_of_scan {file : Bytes} {start stop stream : Nat} {ix : FrameIndex}
    (h : scan file start stop stream = .ok ix) : ∀ e ∈ ix.entries, e.stop ≤ stop := by
  obtain ⟨s, hs, rfl⟩ := map_eq_ok_iff.mp h
  obtain ⟨rs, hrun⟩ := exists_scanned hs
  exact fun e he => (hrun.mem_bounds e he).2

theorem size_le_maxFrameSize {ix : FrameIndex} {e : FrameEntry} (he : e ∈ ix.entries) :
    e.size.toNat ≤ ix.maxFrameSize := by
  have hgrows : ∀ (entries : List FrameEntry) (m : Nat),
      m ≤ entries.foldl (fun m e => max m e.size.toNat) m ∧
        ∀ e ∈ entries, e.size.toNat ≤ entries.foldl (fun m e => max m e.size.toNat) m := by
    intro entries
    induction entries with
    | nil => simp
    | cons first rest ih =>
      intro m
      obtain ⟨hm, hrest⟩ := ih (max m first.size.toNat)
      rw [List.foldl_cons, List.forall_mem_cons]
      exact ⟨by omega, by omega, hrest⟩
  exact (hgrows ix.entries 0).2 e he

end FrameIndex

namespace TopLevel

/-- The frame data stays where it is, or is found at the chunk that is taken into account. -/
theorem movi_of_add {file : Bytes} {stop : Nat} {t u : TopLevel} {h : ChunkHeader}
    (hadd : add file stop t h = .ok u) :
    u.movi = t.movi ∨ u.movi = some (h.offset, min h.stop stop) := by
  unfold add at hadd
  split at hadd
  · obtain ⟨type, _, hadd⟩ := bind_eq_ok_iff.mp hadd
    dsimp only at hadd
    split at hadd
    · obtain ⟨headers, _, hadd⟩ := bind_eq_ok_iff.mp hadd
      cases hadd
      exact .inl rfl
    · split at hadd
      · cases hadd
        exact .inr rfl
      · cases hadd
        exact .inl rfl
  · split at hadd
    · obtain ⟨payload, _, hadd⟩ := bind_eq_ok_iff.mp hadd
      cases hadd
      exact .inl rfl
    · cases hadd
      exact .inl rfl

/-- One chunk never moves the end of the frame data past the end of the top level. -/
theorem movi_le_of_add {file : Bytes} {stop : Nat} {t u : TopLevel} {h : ChunkHeader}
    (hmovi : ∀ m ∈ t.movi, m.2 ≤ stop) (hadd : add file stop t h = .ok u) :
    ∀ m ∈ u.movi, m.2 ≤ stop := by
  intro m hm
  rcases movi_of_add hadd with hsame | hfound
  · exact hmovi m (hsame ▸ hm)
  · rw [hfound] at hm
    cases hm
    exact Nat.min_le_right _ _

/-- The frame data is found at one of the chunks, and ends with it or with the top level. -/
theorem exists_header_of_movi {file : Bytes} {pos stop : Nat} {t : TopLevel}
    (h : read file pos stop = .ok t) :
    ∀ m ∈ t.movi, ∃ h ∈ (walk file pos stop).1, m = (h.offset, min h.stop stop) := by
  obtain ⟨headers, hwalk, hfold⟩ := foldChunks_eq_ok h
  rw [hwalk]
  refine foldlM_invariant_of_mem
    (P := fun t => ∀ m ∈ t.movi, ∃ h ∈ headers, m = (h.offset, min h.stop stop)) ?_ (by simp) hfold
  intro h hmem t u ht hadd m hm
  rcases movi_of_add hadd with hsame | hfound
  · exact ht m (hsame ▸ hm)
  · rw [hfound] at hm
    cases hm
    exact ⟨h, hmem, rfl⟩

theorem movi_le_of_read {file : Bytes} {pos stop : Nat} {t : TopLevel}
    (h : read file pos stop = .ok t) : ∀ m ∈ t.movi, m.2 ≤ stop := by
  intro m hm
  obtain ⟨header, _, rfl⟩ := exists_header_of_movi h m hm
  exact Nat.min_le_right _ _

theorem frameIndex_of_none {t : TopLevel} (ht : t.idx1 = none) (file : Bytes) (movi : Nat × Nat)
    (stream : Nat) :
    t.frameIndex file movi stream = FrameIndex.scan file (movi.1 + 4) movi.2 stream := by
  unfold frameIndex
  rw [ht]
  rfl

theorem frameIndex_of_some {t : TopLevel} {payload : List UInt8} (ht : t.idx1 = some payload)
    (file : Bytes) (movi : Nat × Nat) (stream : Nat) :
    t.frameIndex file movi stream =
      FrameIndex.ofRecords payload movi.1 stream file.size >>= fun ix =>
        if ix.entries.isEmpty then FrameIndex.scan file (movi.1 + 4) movi.2 stream
        else .ok ix := by
  unfold frameIndex
  rw [ht]
  rfl

/-- The index lies inside the file, wherever it was taken from. -/
theorem stop_le_of_frameIndex {t : TopLevel} {file : Bytes} {movi : Nat × Nat} {stream : Nat}
    {ix : FrameIndex} (hmovi : movi.2 ≤ file.size) (h : t.frameIndex file movi stream = .ok ix) :
    ∀ e ∈ ix.entries, e.stop ≤ file.size := by
  have hscan : FrameIndex.scan file (movi.1 + 4) movi.2 stream = .ok ix →
      ∀ e ∈ ix.entries, e.stop ≤ file.size :=
    fun hscan e he => Nat.le_trans (FrameIndex.stop_le_of_scan hscan e he) hmovi
  cases ht : t.idx1 with
  | none =>
    rw [frameIndex_of_none ht] at h
    exact hscan h
  | some payload =>
    rw [frameIndex_of_some ht] at h
    obtain ⟨records, hrecords, h⟩ := bind_eq_ok_iff.mp h
    split at h
    · exact hscan h
    · cases h
      exact FrameIndex.stop_le_of_ofRecords hrecords

end TopLevel

namespace Clip

theorem ofBytes_eq_ok_iff {file : Bytes} {clip : Clip} :
    ofBytes file = .ok clip ↔
      ∃ riff top main video movi index, readRiff file = .ok (riff, .avi) ∧
        TopLevel.read file (riff.offset + 4) (min riff.stop file.size) = .ok top ∧
        top.main = some main ∧ top.video = some video ∧ top.movi = some movi ∧
        top.frameIndex file movi video.number.toNat = .ok index ∧
        clip = ⟨file, main, video.header, video.format, video.number, index, 0⟩ ∧
        clip.checkDimensions = .ok () := by
  constructor
  · intro h
    unfold ofBytes at h
    obtain ⟨⟨riff, form⟩, hriff, h⟩ := bind_eq_ok_iff.mp h
    dsimp only at h
    split at h
    · cases h
    next hform =>
    obtain ⟨top, htop, h⟩ := bind_eq_ok_iff.mp h
    -- each of the three has to be there
    rcases hmain : top.main with _ | main
    · rw [hmain] at h
      cases h
    rcases hvideo : top.video with _ | video
    · rw [hmain, hvideo] at h
      cases h
    rcases hmovi : top.movi with _ | movi
    · rw [hmain, hvideo, hmovi] at h
      cases h
    rw [hmain, hvideo, hmovi] at h
    obtain ⟨index, hindex, h⟩ := bind_eq_ok_iff.mp h
    obtain ⟨_, hdimensions, h⟩ := bind_eq_ok_iff.mp h
    cases h
    rw [Decidable.not_not.mp hform] at hriff
    exact ⟨riff, top, main, video, movi, index, hriff, htop, hmain, hvideo, hmovi, hindex, rfl,
      hdimensions⟩
  · rintro ⟨riff, top, main, video, movi, index, hriff, htop, hmain, hvideo, hmovi, hindex, rfl,
      hdimensions⟩
    unfold ofBytes
    rw [hriff]
    simp only [ok_bind, ne_eq, not_true_eq_false, if_false, htop, hmain, hvideo, hmovi, hindex,
      hdimensions]
    rfl

theorem dimensions_of_check {c : Clip} (h : c.checkDimensions = .ok ()) :
    (1 ≤ c.width ∧ c.width ≤ maxDimension) ∧ 1 ≤ c.height ∧ c.height ≤ maxDimension := by
  unfold checkDimensions at h
  split at h
  · cases h
  · split at h
    · cases h
    · omega

theorem checkDimensions_of_ofBytes {file : Bytes} {opened : Clip} (h : ofBytes file = .ok opened) :
    opened.checkDimensions = .ok () := by
  obtain ⟨_, _, _, _, _, _, _, _, _, _, _, _, _, hcheck⟩ := ofBytes_eq_ok_iff.mp h
  exact hcheck

theorem file_of_ofBytes {file : Bytes} {opened : Clip} (h : ofBytes file = .ok opened) :
    opened.file = file := by
  obtain ⟨_, _, _, _, _, _, _, _, _, _, _, _, rfl, _⟩ := ofBytes_eq_ok_iff.mp h
  rfl

/-- A clip whose index lies inside its file and whose cursor lies inside its index. -/
structure Playable (c : Clip) : Prop where
  stop_le : ∀ e ∈ c.index.entries, e.stop ≤ c.file.size
  position_le : c.position ≤ c.frameCount

theorem playable_of_ofBytes {file : Bytes} {opened : Clip} (h : ofBytes file = .ok opened) :
    opened.Playable := by
  obtain ⟨riff, top, main, video, movi, index, _, htop, _, _, hmovi, hindex, rfl, _⟩ :=
    ofBytes_eq_ok_iff.mp h
  have hmovi_le : movi.2 ≤ file.size :=
    Nat.le_trans (TopLevel.movi_le_of_read htop movi hmovi) (Nat.min_le_right _ _)
  exact ⟨TopLevel.stop_le_of_frameIndex hmovi_le hindex, Nat.zero_le _⟩

/-- A call on an open clip. -/
inductive Call
  | read (buffer : Bytes)
  | seek (frame : Nat)
  | rewind

/-- The clip after a call. A refused move leaves it as it is. -/
def after (c : Clip) : Call → Clip
  | .read buffer => (c.readFrame buffer).2.2
  | .seek frame => (c.seek frame).toOption.getD c
  | .rewind => c.rewind

/-- The buffer has received a frame: the bytes of the file in front, behind them what it held. -/
def Received (file : Bytes) (e : FrameEntry) (before after : Bytes) : Prop :=
  e.stop ≤ file.size ∧ after.toList =
    (file.toList.drop e.offset).take e.size.toNat ++ before.toList.drop e.size.toNat

theorem toList_overwriteFront (buffer : Bytes) (payload : List UInt8) :
    (overwriteFront buffer payload).toList = payload ++ buffer.toList.drop payload.length := by
  have hrest : (buffer.toList.drop payload.length).take (buffer.size - payload.length) =
      buffer.toList.drop payload.length := List.take_of_length_le (by simp)
  simp [overwriteFront, hrest]

/-- A frame is read when the buffer can hold it. -/
theorem readFrame_of_le {c : Clip} (hc : c.Playable) {buffer : Bytes}
    (hposition : c.position < c.index.entries.length)
    (hbuffer : c.index.entries[c.position].size.toNat ≤ buffer.size) :
    ∃ received, Received c.file c.index.entries[c.position] buffer received ∧
      c.readFrame buffer = (.ok c.index.entries[c.position].size.toNat, received,
        { c with position := c.position + 1 }) := by
  have hget : c.index.get? c.position = some c.index.entries[c.position] :=
    List.getElem?_eq_getElem hposition
  have hstop := hc.stop_le c.index.entries[c.position] (List.getElem_mem hposition)
  generalize c.index.entries[c.position] = e at *
  have hread : readAt c.file e.offset e.size.toNat =
      some ((c.file.toList.drop e.offset).take e.size.toNat) := readAt_of_le hstop
  have hlength := length_of_readAt hread
  refine ⟨overwriteFront buffer ((c.file.toList.drop e.offset).take e.size.toNat),
    ⟨hstop, ?_⟩, ?_⟩
  · rw [toList_overwriteFront, hlength]
  · simp only [readFrame, nextFrame, hget, if_neg (Nat.not_lt.mpr hbuffer), hread, hlength]

theorem readFrame_at_end {c : Clip} (buffer : Bytes) (hposition : c.position = c.frameCount) :
    c.readFrame buffer = (.ok 0, buffer, c) := by
  have hget : c.index.get? c.position = none :=
    List.getElem?_eq_none (Nat.le_of_eq hposition.symm)
  have hbuffer : overwriteFront buffer [] = buffer := by
    apply Array.toList_inj.mp
    rw [toList_overwriteFront]
    rfl
  simp only [readFrame, nextFrame, hget, hbuffer, List.length_nil]

/-- The three ways a read ends: past the last frame, refused, or one frame further on. -/
theorem nextFrame_cases (c : Clip) (capacity : Nat) :
    c.nextFrame capacity = (.ok [], c) ∨
      (∃ fault, c.nextFrame capacity = (.error fault, c)) ∨
      c.position < c.frameCount ∧
        ∃ payload, c.nextFrame capacity = (.ok payload, { c with position := c.position + 1 }) := by
  unfold nextFrame
  split
  · exact .inl rfl
  · next e hget =>
    have hposition : c.position < c.frameCount := (List.getElem?_eq_some_iff.mp hget).1
    dsimp only
    split
    · exact .inr (.inl ⟨_, rfl⟩)
    · split
      · exact .inr (.inl ⟨_, rfl⟩)
      · next payload _ => exact .inr (.inr ⟨hposition, payload, rfl⟩)

/-- A read that fails changes neither the buffer nor the clip. -/
theorem readFrame_of_error {c : Clip} {buffer : Bytes} {fault : ContainerFault}
    (h : (c.readFrame buffer).1 = .error fault) : (c.readFrame buffer).2 = (buffer, c) := by
  unfold readFrame at h ⊢
  rcases c.nextFrame_cases buffer.size with hnext | ⟨_, hnext⟩ | ⟨_, _, hnext⟩
  · rw [hnext] at h
    cases h
  · rw [hnext]
  · rw [hnext] at h
    cases h

theorem seek_eq_error_iff {c : Clip} {frame : Nat} :
    (∃ fault, c.seek frame = .error fault) ↔ c.frameCount < frame := by
  unfold seek
  split
  · next hframe => exact iff_of_true ⟨_, rfl⟩ hframe
  · next hframe => exact iff_of_false (by simp) hframe

/-- No call touches anything but the cursor, which stays inside the index. -/
theorem after_eq {c : Clip} (hc : c.position ≤ c.frameCount) (call : Call) :
    ∃ p, p ≤ c.frameCount ∧ c.after call = { c with position := p } := by
  cases call with
  | read buffer =>
    rw [after, readFrame]
    rcases c.nextFrame_cases buffer.size with hnext | ⟨fault, hnext⟩ | ⟨hposition, payload, hnext⟩
    · exact ⟨c.position, hc, by rw [hnext]⟩
    · exact ⟨c.position, hc, by rw [hnext]⟩
    · exact ⟨c.position + 1, hposition, by rw [hnext]⟩
  | seek frame =>
    rw [after, seek]
    by_cases hframe : c.frameCount < frame
    · exact ⟨c.position, hc, by rw [if_pos hframe]; rfl⟩
    · exact ⟨frame, Nat.not_lt.mp hframe, by rw [if_neg hframe]; rfl⟩
  | rewind => exact ⟨0, Nat.zero_le _, rfl⟩

theorem foldl_after_eq {c : Clip} (hc : c.position ≤ c.frameCount) (calls : List Call) :
    ∃ p, p ≤ c.frameCount ∧ calls.foldl after c = { c with position := p } := by
  induction calls generalizing c with
  | nil => exact ⟨c.position, hc, rfl⟩
  | cons call calls ih =>
    obtain ⟨p, hp, hafter⟩ := after_eq hc call
    rw [List.foldl_cons, hafter]
    exact ih (c := { c with position := p }) hp

/-- Pictures of the size of an opened clip can be made. -/
theorem tryNew_of_le {width height : Nat} (hwidth : width ≤ maxDimension)
    (hheight : height ≤ maxDimension) :
    PixelBuffer.tryNew width height = .ok (.blank width height) := by
  have harea : width * height ≤ maxDimension * maxDimension := Nat.mul_le_mul hwidth hheight
  unfold maxDimension at harea
  rw [PixelBuffer.tryNew, if_neg (by unfold addressSpace UInt64.size; omega),
    if_neg (by unfold bufferLimit UInt64.size; omega)]

theorem frameBytes?_of_le {l : FrameLayout} (hwidth : l.width ≤ maxDimension)
    (hheight : l.height ≤ maxDimension) (hpixels : l.pixels.isConvertible) :
    ∃ n, l.frameBytes? = some n := by
  obtain ⟨bytesPerPixel, hbytes⟩ := Option.isSome_iff_exists.mp hpixels
  have hsmall := (PixelLayout.bytesPerPixel?_pos hbytes).2
  -- four bytes a pixel at most, and three more at the end of a row
  have hrow : l.width * bytesPerPixel ≤ maxDimension * 4 := Nat.mul_le_mul hwidth hsmall
  have hstride : (l.width * bytesPerPixel + 3) / 4 * 4 ≤ maxDimension * 4 + 3 := by omega
  have hframe := Nat.mul_le_mul hstride hheight
  unfold maxDimension at hrow hframe
  have hstride? : l.stride? = some ((l.width * bytesPerPixel + 3) / 4 * 4) := by
    simp only [FrameLayout.stride?, hbytes, addressable?]
    rw [Option.bind_eq_bind, Option.bind_some, if_pos (by unfold addressSpace UInt64.size; omega)]
    rfl
  refine ⟨(l.width * bytesPerPixel + 3) / 4 * 4 * l.height, ?_⟩
  rw [FrameLayout.frameBytes?, hstride?]
  simp only [Option.bind_eq_bind, Option.bind_some, addressable?]
  rw [if_pos (by unfold addressSpace UInt64.size; omega)]

/-- An opened clip. Its pictures have a size that buffers and textures can be made for, and its
index stays inside the file. After any calls the cursor is inside the index; a buffer for the
largest frame is never refused and receives exactly the next frame; and a read or a move that
fails leaves the buffer and the position as they were. -/
theorem ofBytes_playable {file : Bytes} {opened : Clip} (h : ofBytes file = .ok opened) :
    ((1 ≤ opened.width ∧ opened.width ≤ maxDimension) ∧
      1 ≤ opened.height ∧ opened.height ≤ maxDimension) ∧
    (∀ e ∈ opened.index.entries, e.stop ≤ file.size) ∧
    (opened.layout.pixels.isConvertible → ∃ n, opened.layout.frameBytes? = some n) ∧
    (∃ picture, PixelBuffer.tryNew opened.width opened.height = .ok picture) ∧
    (∃ texture, Texture.tryNew opened.width opened.height = .ok texture) ∧
    ∀ calls : List Call, ∀ c : Clip, c = calls.foldl after opened →
      c.position ≤ opened.frameCount ∧
      (∀ buffer : Bytes, opened.maxFrameSize ≤ buffer.size →
        (c.position = opened.frameCount → c.readFrame buffer = (.ok 0, buffer, c)) ∧
        ∀ hposition : c.position < opened.index.entries.length,
          ∃ received, Received file opened.index.entries[c.position] buffer received ∧
            c.readFrame buffer =
              (.ok opened.index.entries[c.position].size.toNat, received,
                { c with position := c.position + 1 })) ∧
      (∀ buffer fault, (c.readFrame buffer).1 = .error fault →
        (c.readFrame buffer).2 = (buffer, c)) ∧
      ∀ frame,
        ((∃ fault, c.seek frame = .error fault) ↔ opened.frameCount < frame) ∧
        ∀ fault, c.seek frame = .error fault → c.after (.seek frame) = c := by
  have hdimensions := dimensions_of_check (checkDimensions_of_ofBytes h)
  have hpicture := tryNew_of_le hdimensions.1.2 hdimensions.2.2
  have hplayable := playable_of_ofBytes h
  have hfile : opened.file = file := file_of_ofBytes h
  have hstop := hplayable.stop_le
  rw [hfile] at hstop
  refine ⟨hdimensions, hstop, frameBytes?_of_le hdimensions.1.2 hdimensions.2.2, ⟨_, hpicture⟩,
    ⟨_, by rw [Texture.tryNew, hpicture]; rfl⟩, ?_⟩
  rintro calls _ rfl
  obtain ⟨p, hp, hrun⟩ := foldl_after_eq hplayable.position_le calls
  rw [hrun]
  refine ⟨hp, ?_, fun buffer fault => readFrame_of_error, ?_⟩
  · intro buffer hbuffer
    refine ⟨readFrame_at_end buffer, ?_⟩
    intro hposition
    have hsize := FrameIndex.size_le_maxFrameSize (List.getElem_mem hposition)
    rw [← hfile]
    exact readFrame_of_le (c := { opened with position := p }) ⟨hplayable.stop_le, hp⟩ hposition
      (Nat.le_trans hsize hbuffer)
  · intro frame
    refine ⟨seek_eq_error_iff, ?_⟩
    intro fault hfault
    rw [after, hfault]
    rfl

theorem exists_playable_sample :
    ∃ opened, ofBytes FileLayout.sample.bytes = .ok opened ∧ opened.frameCount = 2 ∧
      (1 ≤ opened.width ∧ opened.width ≤ maxDimension) ∧
      (∀ e ∈ opened.index.entries, e.stop ≤ FileLayout.sample.bytes.size) ∧
      ∀ calls : List Call, (calls.foldl after opened).position ≤ 2 := by
  have hsample : (ofBytes FileLayout.sample.bytes).toOption.map frameCount = some 2 := by
    decide +kernel
  cases hopen : ofBytes FileLayout.sample.bytes with
  | error fault => simp [hopen, Except.toOption] at hsample
  | ok opened =>
    have hcount : opened.frameCount = 2 := by simpa [hopen, Except.toOption] using hsample
    obtain ⟨⟨hwidth, _⟩, hstop, _, _, _, hrun⟩ := ofBytes_playable hopen
    exact ⟨opened, rfl, hcount, hwidth, hstop, fun calls => hcount ▸ (hrun calls _ rfl).1⟩

end Clip

end AviPlayback
