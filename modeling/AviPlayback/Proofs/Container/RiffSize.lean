import AviPlayback.Proofs.Container.SharedBytes

/-!
The declared size of the outermost chunk. A file is opened as if it had been declared to its end
whenever the declared end comes behind every chunk of the top level, so the declared size does not
matter among such files (`Clip.ofBytes_of_agree`); a size that ends in front of the first chunk
hides every header (`Clip.ofBytes_of_stop_lt`).
-/
set_option autoImplicit false

namespace AviPlayback

/-- Two files of one length that hold the same bytes, but for the declared size of the outermost
chunk. -/
structure AgreeOutsideSize (file other : Bytes) : Prop where
  size : other.size = file.size
  bytes : ∀ i, i < 4 ∨ 8 ≤ i → other[i]? = file[i]?

namespace AgreeOutsideSize

variable {file other : Bytes}

theorem continues (h : AgreeOutsideSize file other) : Continues [] file other where
  size := h.size
  behind := by
    rw [List.append_nil]
    refine List.ext_getElem? fun i => ?_
    rw [List.getElem?_drop, List.getElem?_drop, Array.getElem?_toList, Array.getElem?_toList]
    exact h.bytes (8 + i) (.inr (by omega))

/-- The header of the outermost chunk, read from both. -/
theorem read_riff (h : AgreeOutsideSize file other) :
    ∃ size, ChunkHeader.read other 0 =
      (ChunkHeader.read file 0).map fun riff => { riff with size } := by
  unfold ChunkHeader.read
  by_cases hfits : ChunkHeader.length ≤ file.size
  · have hfile : readAt file 0 ChunkHeader.length = some _ := readAt_of_le (by omega)
    have hother : readAt other 0 ChunkHeader.length = some _ :=
      readAt_of_le (by rw [h.size]; omega)
    rw [hfile, hother]
    refine ⟨LittleEndian.uint32At ((other.toList.drop 0).take ChunkHeader.length) 4, ?_⟩
    have hname : ∀ i, i < 4 →
        ((other.toList.drop 0).take ChunkHeader.length).getD i 0 =
          ((file.toList.drop 0).take ChunkHeader.length).getD i 0 := by
      intro i hi
      have hshort : i < ChunkHeader.length := by
        unfold ChunkHeader.length
        omega
      rw [List.getD_eq_getElem?_getD, List.getD_eq_getElem?_getD, List.getElem?_take_of_lt hshort,
        List.getElem?_take_of_lt hshort, List.drop_zero, List.drop_zero, Array.getElem?_toList,
        Array.getElem?_toList, h.bytes i (.inl hi)]
    simp only [FourCc.readFrom, hname, Nat.reduceLT, Nat.reduceAdd, Except.map]
  · have hlength : 0 < ChunkHeader.length := by decide
    have hfile : readAt file 0 ChunkHeader.length = none := readAt_eq_none hlength (by omega)
    have hother : readAt other 0 ChunkHeader.length = none :=
      readAt_eq_none hlength (by rw [h.size]; omega)
    rw [hfile, hother]
    exact ⟨0, rfl⟩

theorem readRiff (h : AgreeOutsideSize file other) :
    ∃ size, Clip.readRiff other =
      (Clip.readRiff file).map fun r => ({ r.1 with size }, r.2) := by
  obtain ⟨size, hread⟩ := h.read_riff
  refine ⟨size, ?_⟩
  unfold Clip.readRiff
  rw [hread]
  cases hriff : ChunkHeader.read file 0 with
  | error fault => rfl
  | ok riff =>
    have hoffset := ChunkHeader.offset_of_read hriff
    have hform : ChunkHeader.readListType { riff with size } other = riff.readListType file :=
      (h.continues.readListType (h := riff) (by rw [hoffset]; exact Nat.le_refl 8)).eq_of_not (by simp)
    dsimp only [Except.map]
    rw [hform]
    split
    · cases riff.readListType file <;> rfl
    · rfl

end AgreeOutsideSize

/-- A file with another size declared for its outermost chunk. -/
def withDeclaredSize (file : Bytes) (size : UInt32) : Bytes :=
  (file.toList.take 4 ++ (LittleEndian.ofUInt32 size ++ file.toList.drop 8)).toArray

theorem agree_withDeclaredSize {file : Bytes} (hfile : 8 ≤ file.size) (size : UInt32) :
    AgreeOutsideSize file (withDeclaredSize file size) where
  size := by
    simp [withDeclaredSize]
    omega
  bytes i hi := by
    have hlength : (file.toList.take 4).length = 4 := by
      rw [List.length_take, Array.length_toList]
      omega
    rw [withDeclaredSize, List.getElem?_toArray, ← Array.getElem?_toList]
    rcases hi with hi | hi
    · rw [List.getElem?_append_left (by omega), List.getElem?_take_of_lt hi]
    · rw [List.getElem?_append_right (by omega), hlength,
        List.getElem?_append_right (by rw [LittleEndian.length_ofUInt32]; omega),
        LittleEndian.length_ofUInt32, List.getElem?_drop]
      congr 1
      omega

/-- The declared end of the outermost chunk comes behind every chunk of the top level, as far as
the file holds that chunk. -/
def DeclaresAll (file : Bytes) : Prop :=
  ∀ riff, ChunkHeader.read file 0 = .ok riff →
    ∀ h ∈ (walk file 12 file.size).1, min h.stop file.size ≤ riff.stop

instance (file : Bytes) : Decidable (DeclaresAll file) :=
  match hriff : ChunkHeader.read file 0 with
  | .error _ => .isTrue fun riff h => by
    rw [hriff] at h
    cases h
  | .ok riff =>
    decidable_of_iff (∀ h ∈ (walk file 12 file.size).1, min h.stop file.size ≤ riff.stop) <| by
      refine ⟨fun hall other h => ?_, fun hall => hall riff hriff⟩
      rw [hriff] at h
      cases h
      exact hall

theorem exists_read_of_le {file : Bytes} {pos : Nat} (h : pos + ChunkHeader.length ≤ file.size) :
    ∃ header, ChunkHeader.read file pos = .ok header := by
  unfold ChunkHeader.read
  rw [readAt_of_le h]
  exact ⟨_, rfl⟩

/-- A walk that is stopped behind all headers of a file finds all of them. -/
theorem walk_eq_of_le {file : Bytes} {pos stop : Nat} (hstop : stop ≤ file.size)
    (hall : ∀ h ∈ (walk file pos file.size).1, h.offset ≤ stop) :
    walk file pos stop = walk file pos file.size := by
  generalize hsize : file.size = size at *
  fun_induction walk file pos size with
  | case1 pos hshort => rw [walk, dif_pos (by omega)]
  | case2 pos hfit fault hread =>
    have hheld : pos + ChunkHeader.length ≤ file.size := by omega
    obtain ⟨header, hheader⟩ := exists_read_of_le hheld
    rw [hread] at hheader
    cases hheader
  | case3 pos hfit header hread rest ih =>
    rw [List.forall_mem_cons] at hall
    have hoffset := ChunkHeader.offset_of_read hread
    rw [walk_of_read (by omega) hread, ih hall.2]

namespace TopLevel

/-- A top level that is stopped behind all of its chunks is read to its end. -/
theorem read_eq_of_le {file : Bytes} {pos stop : Nat} (hstop : stop ≤ file.size)
    (hall : ∀ h ∈ (walk file pos file.size).1, min h.stop file.size ≤ stop) :
    read file pos stop = read file pos file.size := by
  have hwalk : walk file pos stop = walk file pos file.size := by
    refine walk_eq_of_le hstop fun h hmem => ?_
    have hle := (le_offset_of_mem_walk h hmem).2
    have hmin := hall h hmem
    unfold ChunkHeader.stop at hmin
    omega
  have hadd : ∀ h ∈ (walk file pos file.size).1, ∀ t, add file stop t h = add file file.size t h := by
    intro h hmem t
    have hmin : min h.stop stop = min h.stop file.size := by
      have := hall h hmem
      omega
    unfold add
    rw [hmin]
  have hfold : Carries False
      ((walk file pos file.size).1.foldlM (add file file.size) ⟨none, none, none, none⟩)
      ((walk file pos file.size).1.foldlM (add file stop) ⟨none, none, none, none⟩) :=
    .foldlM (fun h hmem t => .inl (hadd h hmem t)) _
  unfold read foldChunks
  rw [hwalk]
  dsimp only
  rw [hfold.eq_of_not id]

end TopLevel

namespace Clip

theorem ofBytes_of_declaresAll {file : Bytes} (h : DeclaresAll file) :
    ofBytes file = readRiff file >>= fun r =>
      if r.2 ≠ .avi then .error (.notAvi r.2.display)
      else TopLevel.read file 12 file.size >>= ofTopLevel file := by
  rw [ofBytes_eq_bind]
  cases hriff : readRiff file with
  | error fault => rfl
  | ok r =>
    obtain ⟨hread, _, _⟩ := readRiff_eq_ok_iff.mp hriff
    have hoffset : r.1.offset = 8 := ChunkHeader.offset_of_read hread
    have htop : TopLevel.read file 12 (min r.1.stop file.size) = TopLevel.read file 12 file.size := by
      refine TopLevel.read_eq_of_le (Nat.min_le_right _ _) fun header hmem => ?_
      have := h r.1 hread header hmem
      omega
    rw [ok_bind, ok_bind, hoffset, htop]

/-- Two files of one length that differ in nothing but the declared size of the outermost chunk,
and both declare an end behind every chunk of their top level, as every size that is too large
does. Opening them ends with the same fault, or with the same headers, the same stream number and
the same frame index, and then the same frames are read. -/
theorem ofBytes_of_agree {file other : Bytes} (hagree : AgreeOutsideSize file other)
    (hfile : DeclaresAll file) (hother : DeclaresAll other) :
    ofBytes other = (ofBytes file).map (·.withFile other) ∧
    ∀ opened, ofBytes file = .ok opened → opened.ReadsAlike (opened.withFile other) := by
  have hcontinues := hagree.continues
  constructor
  · obtain ⟨size, hriff⟩ := hagree.readRiff
    rw [ofBytes_of_declaresAll hfile, ofBytes_of_declaresAll hother, hriff, hagree.size]
    cases readRiff file with
    | error fault => rfl
    | ok r =>
      dsimp only [Except.map]
      rw [ok_bind, ok_bind]
      dsimp only
      split
      · rfl
      · have htop := (hcontinues.top (by decide : 8 ≤ 12) file.size).eq_of_not (by simp)
        rw [htop]
        cases hread : TopLevel.read file 12 file.size with
        | error fault => rfl
        | ok top =>
          have hmovi : ∀ m ∈ top.movi, 8 ≤ m.1 := by
            intro m hm
            have := TopLevel.le_movi_of_read hread m hm
            omega
          exact (hcontinues.ofTopLevel hmovi).eq_of_not (by simp)
  · intro opened hopen
    have hin := framesInside_of_ofBytes hopen
    rw [← file_of_ofBytes hopen] at hcontinues
    exact readsAlike_withFile hcontinues hin

/-- A size that is too large is as good as the right one. -/
theorem ofBytes_of_agree_sample :
    AgreeOutsideSize FileLayout.sample.bytes (withDeclaredSize FileLayout.sample.bytes 0xffffffff) ∧
    DeclaresAll FileLayout.sample.bytes ∧
    DeclaresAll (withDeclaredSize FileLayout.sample.bytes 0xffffffff) ∧
    ∃ opened, ofBytes FileLayout.sample.bytes = .ok opened ∧
      ofBytes (withDeclaredSize FileLayout.sample.bytes 0xffffffff) =
        .ok (opened.withFile (withDeclaredSize FileLayout.sample.bytes 0xffffffff)) := by
  have hheader : 8 ≤ FileLayout.sample.bytes.size := by decide +kernel
  have hagree := agree_withDeclaredSize hheader 0xffffffff
  have hfile : DeclaresAll FileLayout.sample.bytes := by decide +kernel
  have hother : DeclaresAll (withDeclaredSize FileLayout.sample.bytes 0xffffffff) := by
    decide +kernel
  obtain ⟨opened, hopen, _⟩ := exists_open_sample
  refine ⟨hagree, hfile, hother, opened, hopen, ?_⟩
  rw [(ofBytes_of_agree hagree hfile hother).1, hopen]
  rfl

/-- A declared end in front of the first chunk of the top level hides the whole file. -/
theorem ofBytes_of_stop_lt {file : Bytes} {riff : ChunkHeader}
    (hriff : readRiff file = .ok (riff, .avi)) (hstop : riff.stop < 20) :
    ofBytes file = .error (.missingHeader "avih") := by
  have hoffset : riff.offset = 8 := ChunkHeader.offset_of_read (readRiff_eq_ok_iff.mp hriff).1
  have hshort : min riff.stop file.size < 12 + ChunkHeader.length := by
    unfold ChunkHeader.length
    omega
  have htop : TopLevel.read file 12 (min riff.stop file.size) = .ok ⟨none, none, none, none⟩ := by
    unfold TopLevel.read foldChunks
    rw [walk, dif_pos hshort]
    rfl
  rw [ofBytes_eq_bind, hriff, ok_bind, if_neg (by simp), hoffset, htop]
  rfl

/-- The size that an interrupted writer leaves behind: the file differs from one that opens in
nothing else, and it is refused. -/
theorem ofBytes_size_zero :
    AgreeOutsideSize FileLayout.sample.bytes (withDeclaredSize FileLayout.sample.bytes 0) ∧
    (∃ opened, ofBytes FileLayout.sample.bytes = .ok opened) ∧
    ofBytes (withDeclaredSize FileLayout.sample.bytes 0) = .error (.missingHeader "avih") := by
  have hread : (readRiff (withDeclaredSize FileLayout.sample.bytes 0)).toOption =
      some (⟨.riff, 0, 8⟩, .avi) := by
    decide +kernel
  obtain ⟨opened, hopen, _⟩ := exists_open_sample
  refine ⟨agree_withDeclaredSize (by decide +kernel) 0, ⟨opened, hopen⟩, ?_⟩
  cases hriff : readRiff (withDeclaredSize FileLayout.sample.bytes 0) with
  | error fault => simp [hriff, Except.toOption] at hread
  | ok r =>
    rw [hriff] at hread
    cases hread
    exact ofBytes_of_stop_lt hriff (by decide)

end Clip

end AviPlayback
