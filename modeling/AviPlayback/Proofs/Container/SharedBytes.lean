import AviPlayback.Proofs.Container.OpenClip

/-!
Reading two files that hold the same bytes. `Continues` says that one file holds what another one
holds, but for the declared size of the outermost chunk, and may go on behind it. Every reader of
chunks then ends alike on both, unless it ended with a fault and there is more to read
(`Continues.top`, `Continues.frameIndex`), and a clip gives the same frames from either file
(`Clip.readFrame_withFile`).
-/
set_option autoImplicit false

namespace AviPlayback

variable {ε : Type} {α β σ : Type}

/-- What an outcome promises for another one: the same, unless it is a fault and there is `more`
to read. -/
def Carries (more : Prop) (x y : Except ε α) : Prop := y = x ∨ more ∧ ∃ fault, x = .error fault

namespace Carries

variable {more : Prop}

theorem refl (x : Except ε α) : Carries more x x := .inl rfl

theorem eq_ok {y : Except ε α} {a : α} (h : Carries more (.ok a) y) : y = .ok a := by
  rcases h with h | ⟨_, fault, h⟩
  · exact h
  · cases h

theorem eq_of_not {x y : Except ε α} (h : Carries more x y) (hmore : ¬ more) : y = x := by
  rcases h with h | ⟨hyes, _⟩
  · exact h
  · exact (hmore hyes).elim

theorem bind {x y : Except ε α} {f g : α → Except ε β} (h : Carries more x y)
    (hf : ∀ a, x = .ok a → Carries more (f a) (g a)) : Carries more (x >>= f) (y >>= g) := by
  rcases h with rfl | ⟨hmore, fault, rfl⟩
  · cases y with
    | error fault => exact refl _
    | ok a => exact hf a rfl
  · exact .inr ⟨hmore, fault, rfl⟩

theorem map {x y : Except ε α} (h : Carries more x y) (f : α → β) :
    Carries more (x.map f) (y.map f) := by
  rcases h with rfl | ⟨hmore, fault, rfl⟩
  · exact refl _
  · exact .inr ⟨hmore, fault, rfl⟩

theorem foldlM {f g : σ → α → Except ε σ} {l : List α}
    (h : ∀ a ∈ l, ∀ s, Carries more (f s a) (g s a)) (s : σ) :
    Carries more (l.foldlM f s) (l.foldlM g s) := by
  induction l generalizing s with
  | nil => exact refl _
  | cons a l ih =>
    rw [List.foldlM_cons, List.foldlM_cons]
    exact (h a (by simp) s).bind fun t _ => ih (fun b hb => h b (by simp [hb])) t

theorem mapM {f g : α → Except ε β} {l : List α} (h : ∀ a ∈ l, Carries more (f a) (g a)) :
    Carries more (l.mapM f) (l.mapM g) := by
  induction l with
  | nil => exact refl _
  | cons a l ih =>
    rw [List.mapM_cons, List.mapM_cons]
    exact (h a (by simp)).bind fun b _ =>
      (ih fun c hc => h c (by simp [hc])).bind fun bs _ => refl _

end Carries

/-- Behind the declared size of its outermost chunk the one file holds what the other one holds,
and then the bytes of `tail`. -/
structure Continues (tail : List UInt8) (file other : Bytes) : Prop where
  size : other.size = file.size + tail.length
  behind : other.toList.drop 8 = file.toList.drop 8 ++ tail

theorem readAt_eq_none {file : Bytes} {pos count : Nat} (hcount : 0 < count)
    (h : file.size < pos + count) : readAt file pos count = none := by
  rw [readAt_eq, if_neg]
  rw [List.length_take, List.length_drop, Array.length_toList]
  omega

/-- A header lies inside its file. -/
theorem ChunkHeader.length_le_of_read {file : Bytes} {pos : Nat} {h : ChunkHeader}
    (hread : read file pos = .ok h) : pos + length ≤ file.size := by
  refine Nat.not_lt.mp fun hshort => ?_
  rw [read, readAt_eq_none (by decide) hshort] at hread
  cases hread

theorem le_offset_of_mem_walk {file : Bytes} {pos stop : Nat} :
    ∀ h ∈ (walk file pos stop).1, pos + ChunkHeader.length ≤ h.offset ∧ h.offset ≤ stop := by
  fun_induction walk file pos stop with
  | case1 | case2 => simp
  | case3 pos hfit header hread rest ih =>
    have hoffset := ChunkHeader.offset_of_read hread
    have hstop := ChunkHeader.lt_stop_of_read hread
    rw [List.forall_mem_cons]
    refine ⟨by omega, ?_⟩
    intro h hmem
    have := ih h hmem
    omega

theorem walk_of_read {file : Bytes} {pos stop : Nat} {h : ChunkHeader}
    (hfit : pos + ChunkHeader.length ≤ stop) (hread : ChunkHeader.read file pos = .ok h) :
    walk file pos stop = (h :: (walk file h.stop stop).1, (walk file h.stop stop).2) := by
  rw [walk, dif_neg (Nat.not_lt.mpr hfit)]
  split
  · next heq =>
    rw [hread] at heq
    cases heq
  · next heq =>
    rw [hread] at heq
    cases heq
    rfl

theorem walk_of_fault {file : Bytes} {pos stop : Nat} {fault : ContainerFault}
    (hfit : pos + ChunkHeader.length ≤ stop) (hread : ChunkHeader.read file pos = .error fault) :
    walk file pos stop = ([], some fault) := by
  rw [walk, dif_neg (Nat.not_lt.mpr hfit)]
  split
  · next heq =>
    rw [hread] at heq
    cases heq
    rfl
  · next heq =>
    rw [hread] at heq
    cases heq

namespace FrameIndex

/-- Records are read under the same length of the file, or under a greater one. -/
theorem carries_ofRecords {more : Prop} {length length' : Nat}
    (hlength : length' = length ∨ more ∧ length ≤ length') (payload : List UInt8)
    (moviList stream : Nat) :
    Carries more (ofRecords payload moviList stream length)
      (ofRecords payload moviList stream length') := by
  unfold ofRecords
  refine Carries.map (.mapM fun r _ => ?_) _
  unfold entryOfRecord
  dsimp only
  rcases hlength with hsame | ⟨hmore, hle⟩
  · rw [hsame]
    exact .refl _
  · split
    · exact .inr ⟨hmore, _, rfl⟩
    · rw [if_neg (by omega)]
      exact .refl _

end FrameIndex

/-- The index of a stream carries over when the list of frame data does. -/
theorem TopLevel.carries_frameIndex {more : Prop} {file other : Bytes}
    (hsize : other.size = file.size ∨ more ∧ file.size ≤ other.size) (t : TopLevel)
    {movi : Nat × Nat} {stream : Nat}
    (hscan : Carries more (FrameIndex.scan file (movi.1 + 4) movi.2 stream)
      (FrameIndex.scan other (movi.1 + 4) movi.2 stream)) :
    Carries more (t.frameIndex file movi stream) (t.frameIndex other movi stream) := by
  cases ht : t.idx1 with
  | none =>
    rw [frameIndex_of_none ht, frameIndex_of_none ht]
    exact hscan
  | some payload =>
    rw [frameIndex_of_some ht, frameIndex_of_some ht]
    refine (FrameIndex.carries_ofRecords hsize payload movi.1 stream).bind fun ix _ => ?_
    split
    · exact hscan
    · exact .refl _

namespace Continues

variable {tail : List UInt8} {file other : Bytes}

theorem readAt_cases (hc : Continues tail file other) {pos : Nat} (hpos : 8 ≤ pos) (count : Nat) :
    readAt other pos count = readAt file pos count ∨ tail ≠ [] ∧ readAt file pos count = none := by
  have hdrop : ∃ rest, other.toList.drop pos = file.toList.drop pos ++ rest ∧
      (tail = [] → rest = []) := by
    obtain ⟨n, rfl⟩ := Nat.exists_eq_add_of_le hpos
    refine ⟨tail.drop (n - (file.toList.drop 8).length), ?_, ?_⟩
    · rw [← List.drop_drop, ← List.drop_drop, hc.behind, List.drop_append]
    · rintro rfl
      rw [List.drop_nil]
  obtain ⟨rest, hrest, hnil⟩ := hdrop
  rw [readAt_eq, readAt_eq, hrest]
  by_cases hfits : count ≤ (file.toList.drop pos).length
  · rw [List.take_append_of_le_length hfits]
    exact .inl rfl
  · by_cases htail : tail = []
    · rw [hnil htail, List.append_nil]
      exact .inl rfl
    · refine .inr ⟨htail, if_neg ?_⟩
      rw [List.length_take]
      omega

/-- A run of bytes inside the file is found again. -/
theorem readAt_eq_some (hc : Continues tail file other) {pos count : Nat} {run : List UInt8}
    (hpos : 8 ≤ pos) (h : readAt file pos count = some run) : readAt other pos count = some run := by
  rcases hc.readAt_cases hpos count with heq | ⟨_, hnone⟩
  · rw [heq, h]
  · rw [hnone] at h
    cases h

theorem read (hc : Continues tail file other) {pos : Nat} (hpos : 8 ≤ pos) :
    Carries (tail ≠ []) (ChunkHeader.read file pos) (ChunkHeader.read other pos) := by
  unfold ChunkHeader.read
  rcases hc.readAt_cases hpos ChunkHeader.length with heq | ⟨hmore, hnone⟩
  · rw [heq]
    exact .refl _
  · rw [hnone]
    exact .inr ⟨hmore, _, rfl⟩

theorem readListType (hc : Continues tail file other) {h : ChunkHeader} (hh : 8 ≤ h.offset) :
    Carries (tail ≠ []) (h.readListType file) (h.readListType other) := by
  unfold ChunkHeader.readListType
  rcases hc.readAt_cases hh 4 with heq | ⟨hmore, hnone⟩
  · rw [heq]
    exact .refl _
  · rw [hnone]
    exact .inr ⟨hmore, _, rfl⟩

/-- A payload is read under the same limit, or under one that has grown with the file. -/
theorem readPayload (hc : Continues tail file other) {h : ChunkHeader} (hh : 8 ≤ h.offset)
    {limit limit' : Nat} (hlimit : limit' = limit ∨ tail ≠ [] ∧ limit ≤ limit') :
    Carries (tail ≠ []) (h.readPayload file limit) (h.readPayload other limit') := by
  unfold ChunkHeader.readPayload
  dsimp only
  by_cases hshort : limit - h.offset < h.size.toNat
  · rcases hlimit with rfl | ⟨hmore, _⟩
    · rw [if_pos hshort, if_pos hshort]
      exact .refl _
    · rw [if_pos hshort]
      exact .inr ⟨hmore, _, rfl⟩
  · have hlong : ¬ limit' - h.offset < h.size.toNat := by
      rcases hlimit with rfl | ⟨_, hle⟩
      · exact hshort
      · omega
    rw [if_neg hshort, if_neg hlong]
    rcases hc.readAt_cases hh h.size.toNat with heq | ⟨hmore, hnone⟩
    · rw [heq]
      exact .refl _
    · rw [hnone]
      exact .inr ⟨hmore, _, rfl⟩

theorem limit_cases (hc : Continues tail file other) :
    other.size = file.size ∨ tail ≠ [] ∧ file.size ≤ other.size := by
  have := hc.size
  by_cases htail : tail = []
  · left
    rw [this, htail]
    rfl
  · exact .inr ⟨htail, by omega⟩

theorem walk_cases (hc : Continues tail file other) {pos : Nat} (hpos : 8 ≤ pos) (stop : Nat) :
    walk other pos stop = walk file pos stop ∨
      tail ≠ [] ∧ ∃ fault, (walk file pos stop).2 = some fault := by
  fun_induction walk file pos stop with
  | case1 pos hshort =>
    rw [walk, dif_pos hshort]
    exact .inl rfl
  | case2 pos hfit fault hread =>
    rcases hread ▸ hc.read hpos with heq | ⟨hmore, _⟩
    · exact .inl (walk_of_fault (Nat.not_lt.mp hfit) heq)
    · exact .inr ⟨hmore, fault, rfl⟩
  | case3 pos hfit header hread rest ih =>
    have hother := (hread ▸ hc.read hpos).eq_ok
    have hstop := ChunkHeader.lt_stop_of_read hread
    rw [walk_of_read (Nat.not_lt.mp hfit) hother]
    rcases ih (by omega) with heq | hfault
    · rw [heq]
      exact .inl rfl
    · exact .inr hfault

/-- A fold over chunks carries over when its steps do. -/
theorem foldChunks (hc : Continues tail file other) {pos : Nat} (hpos : 8 ≤ pos) (stop : Nat)
    (init : σ) {f g : σ → ChunkHeader → Except ContainerFault σ}
    (hfg : ∀ h, 8 ≤ h.offset → ∀ s, Carries (tail ≠ []) (f s h) (g s h)) :
    Carries (tail ≠ []) (foldChunks file pos stop init f) (foldChunks other pos stop init g) := by
  unfold AviPlayback.foldChunks
  have hfold : Carries (tail ≠ []) ((walk file pos stop).1.foldlM f init)
      ((walk file pos stop).1.foldlM g init) := by
    refine .foldlM (fun h hmem => hfg h ?_) init
    have := le_offset_of_mem_walk h hmem
    omega
  rcases hc.walk_cases hpos stop with heq | ⟨hmore, fault, hfault⟩
  · rw [heq]
    dsimp only
    rcases hfold with hfold | ⟨hmore, fault, hfold⟩
    · rw [hfold]
      exact .refl _
    · rw [hfold]
      exact .inr ⟨hmore, fault, by simp⟩
  · refine .inr ⟨hmore, ?_⟩
    dsimp only
    rw [hfault]
    cases (walk file pos stop).1.foldlM f init with
    | ok s => exact ⟨fault, rfl⟩
    | error fault => exact ⟨fault, rfl⟩

theorem streamList (hc : Continues tail file other) {pos : Nat} (hpos : 8 ≤ pos) (stop : Nat) :
    Carries (tail ≠ []) (StreamList.read file pos stop) (StreamList.read other pos stop) := by
  refine hc.foldChunks hpos stop _ fun h hh s => ?_
  unfold StreamList.add
  split
  · exact (hc.readPayload hh (.inl rfl)).bind fun _ _ => .refl _
  · split
    · exact (hc.readPayload hh (.inl rfl)).bind fun _ _ => .refl _
    · exact .refl _

theorem headerList (hc : Continues tail file other) {pos : Nat} (hpos : 8 ≤ pos) (stop : Nat) :
    Carries (tail ≠ []) (HeaderList.read file pos stop) (HeaderList.read other pos stop) := by
  refine hc.foldChunks hpos stop _ fun h hh l => ?_
  unfold HeaderList.add
  split
  · exact (hc.readPayload hh (.inl rfl)).bind fun _ _ => .refl _
  · split
    · refine (hc.readListType hh).bind fun type _ => ?_
      split
      · unfold HeaderList.addStream
        dsimp only
        split
        · exact .refl _
        · exact (hc.streamList (by omega) _).bind fun _ _ => .refl _
      · exact .refl _
    · exact .refl _

theorem top (hc : Continues tail file other) {pos : Nat} (hpos : 8 ≤ pos) (stop : Nat) :
    Carries (tail ≠ []) (TopLevel.read file pos stop) (TopLevel.read other pos stop) := by
  refine hc.foldChunks hpos stop _ fun h hh t => ?_
  unfold TopLevel.add
  split
  · refine (hc.readListType hh).bind fun type _ => ?_
    dsimp only
    split
    · exact (hc.headerList (by omega) _).bind fun _ _ => .refl _
    · exact .refl _
  · split
    · exact (hc.readPayload hh hc.limit_cases).bind fun _ _ => .refl _
    · exact .refl _

theorem scanFrom (hc : Continues tail file other) (stream limit : Nat) {pos : Nat} (hpos : 8 ≤ pos)
    (stop : Nat) :
    Carries (tail ≠ []) (FrameIndex.scanFrom file stream limit pos stop)
      (FrameIndex.scanFrom other stream limit pos stop) := by
  induction hleft : limit - pos using Nat.strongRecOn generalizing pos stop with
  | ind left ih =>
    subst hleft
    rw [FrameIndex.scanFrom_eq_bind file, FrameIndex.scanFrom_eq_bind other]
    split
    · exact .refl _
    next hfit =>
    refine (hc.read hpos).bind fun h hread => ?_
    have hoffset := ChunkHeader.offset_of_read hread
    have hstop := ChunkHeader.lt_stop_of_read hread
    unfold ChunkHeader.length at hfit hoffset hstop
    have hrest := ih (limit - h.stop) (by omega) (by omega) stop rfl
    split
    · refine (hc.readListType (by omega)).bind fun type _ => ?_
      split
      · refine (ih (limit - (h.offset + 4)) (by omega) (by omega) _ rfl).bind fun inner _ => ?_
        split
        · exact .refl _
        · exact hrest.bind fun _ _ => .refl _
      · exact hrest
    · split
      · split
        · exact .refl _
        · exact hrest.bind fun _ _ => .refl _
      · exact hrest

theorem frameIndex (hc : Continues tail file other) (t : TopLevel) (movi : Nat × Nat)
    (hmovi : 8 ≤ movi.1) (stream : Nat) :
    Carries (tail ≠ []) (t.frameIndex file movi stream) (t.frameIndex other movi stream) :=
  t.carries_frameIndex hc.limit_cases ((hc.scanFrom stream movi.2 (by omega) movi.2).map _)

end Continues

namespace TopLevel

/-- The frame data lies where a header of the top level says, behind that header. -/
theorem le_movi_of_read {file : Bytes} {pos stop : Nat} {t : TopLevel}
    (h : read file pos stop = .ok t) : ∀ m ∈ t.movi, pos + ChunkHeader.length ≤ m.1 := by
  intro m hm
  obtain ⟨header, hmem, rfl⟩ := exists_header_of_movi h m hm
  exact (le_offset_of_mem_walk header hmem).1

/-- The frame data begins inside the range that was read. -/
theorem movi_fst_le_of_read {file : Bytes} {pos stop : Nat} {t : TopLevel}
    (h : read file pos stop = .ok t) : ∀ m ∈ t.movi, m.1 ≤ stop := by
  intro m hm
  obtain ⟨header, hmem, rfl⟩ := exists_header_of_movi h m hm
  exact (le_offset_of_mem_walk header hmem).2

/-- Frames lie behind the first header of the file, wherever the index was taken from. -/
theorem le_offset_of_frameIndex {t : TopLevel} {file : Bytes} {movi : Nat × Nat} {stream : Nat}
    {ix : FrameIndex} (h : t.frameIndex file movi stream = .ok ix) :
    ∀ e ∈ ix.entries, ChunkHeader.length ≤ e.offset := by
  have hscan : FrameIndex.scan file (movi.1 + 4) movi.2 stream = .ok ix →
      ∀ e ∈ ix.entries, ChunkHeader.length ≤ e.offset := by
    intro hscan e he
    obtain ⟨s, hs, rfl⟩ := map_eq_ok_iff.mp hscan
    obtain ⟨rs, hrun⟩ := FrameIndex.exists_scanned hs
    have := (hrun.mem_bounds e he).1
    omega
  cases ht : t.idx1 with
  | none =>
    rw [frameIndex_of_none ht] at h
    exact hscan h
  | some payload =>
    rw [frameIndex_of_some ht] at h
    obtain ⟨records, hrecords, h⟩ := bind_eq_ok_iff.mp h
    split at h
    · exact hscan h
    · cases h
      obtain ⟨entries, hentries, rfl⟩ := map_eq_ok_iff.mp hrecords
      refine forall_of_mapM_eq_ok (fun r e hentry => ?_) hentries
      unfold FrameIndex.entryOfRecord at hentry
      dsimp only at hentry
      split at hentry
      · cases hentry
      · cases hentry
        exact Nat.le_add_left _ _

end TopLevel

namespace Clip

/-- What `ofBytes` makes of the top level of a file. -/
def ofTopLevel (file : Bytes) (top : TopLevel) : Except ContainerFault Clip := do
  let some main := top.main | throw (.missingHeader "avih")
  let some video := top.video | throw .noVideoStream
  let some movi := top.movi | throw (.missingHeader "movi")
  let index ← top.frameIndex file movi video.number.toNat
  let clip : Clip := ⟨file, main, video.header, video.format, video.number, index, 0⟩
  clip.checkDimensions
  pure clip

theorem ofBytes_eq_bind (file : Bytes) :
    ofBytes file = readRiff file >>= fun r =>
      if r.2 ≠ .avi then .error (.notAvi r.2.display)
      else TopLevel.read file (r.1.offset + 4) (min r.1.stop file.size) >>= ofTopLevel file := by
  unfold ofBytes
  cases readRiff file with
  | error fault => rfl
  | ok r =>
    rw [ok_bind, ok_bind]
    dsimp only
    split <;> rfl

theorem readRiff_eq_ok_iff {file : Bytes} {riff : ChunkHeader} {form : FourCc} :
    readRiff file = .ok (riff, form) ↔
      ChunkHeader.read file 0 = .ok riff ∧ riff.id = .riff ∧ riff.readListType file = .ok form := by
  unfold readRiff
  cases ChunkHeader.read file 0 with
  | error fault => simp
  | ok header =>
    dsimp only
    split
    · next hid =>
      cases hform : header.readListType file with
      | error fault =>
        simp only [reduceCtorEq, Except.ok.injEq, false_iff, not_and]
        rintro rfl _
        rw [hform]
        exact nofun
      | ok type =>
        simp only [Except.ok.injEq, Prod.mk.injEq]
        constructor
        · rintro ⟨rfl, rfl⟩
          exact ⟨rfl, hid, hform⟩
        · rintro ⟨rfl, _, h⟩
          rw [hform] at h
          exact ⟨rfl, Except.ok.inj h⟩
    · next hid =>
      simp only [reduceCtorEq, Except.ok.injEq, false_iff, not_and]
      rintro rfl h
      exact (hid h).elim

/-- The same clip over another file. -/
def withFile (c : Clip) (other : Bytes) : Clip := { c with file := other }

end Clip

namespace Continues

variable {tail : List UInt8} {file other : Bytes}

theorem ofTopLevel (hc : Continues tail file other) {top : TopLevel}
    (hmovi : ∀ m ∈ top.movi, 8 ≤ m.1) :
    Carries (tail ≠ []) ((Clip.ofTopLevel file top).map (·.withFile other))
      (Clip.ofTopLevel other top) := by
  unfold Clip.ofTopLevel
  rcases top.main with _ | main
  · exact .refl _
  rcases top.video with _ | video
  · exact .refl _
  rcases hm : top.movi with _ | movi
  · exact .refl _
  dsimp only
  rcases hc.frameIndex top movi (hmovi movi hm) video.number.toNat with heq | ⟨hmore, fault, heq⟩
  · rw [heq]
    cases top.frameIndex file movi video.number.toNat with
    | error fault => exact .refl _
    | ok index =>
      rw [ok_bind, ok_bind]
      have hcheck : Clip.checkDimensions ⟨other, main, video.header, video.format, video.number,
          index, 0⟩ = Clip.checkDimensions ⟨file, main, video.header, video.format, video.number,
          index, 0⟩ := rfl
      rw [hcheck]
      cases Clip.checkDimensions ⟨file, main, video.header, video.format, video.number, index, 0⟩ with
      | error fault => exact .refl _
      | ok _ => exact .refl _
  · refine .inr ⟨hmore, fault, ?_⟩
    rw [heq]
    rfl

end Continues

namespace Clip

variable {tail : List UInt8} {other : Bytes}

/-- The frames of a clip lie inside its file, behind the declared size of the outermost chunk. -/
def FramesInside (c : Clip) : Prop := ∀ e ∈ c.index.entries, 8 ≤ e.offset ∧ e.stop ≤ c.file.size

theorem framesInside_of_ofBytes {file : Bytes} {opened : Clip} (h : ofBytes file = .ok opened) :
    opened.FramesInside := by
  have hstop := (playable_of_ofBytes h).stop_le
  obtain ⟨_, _, _, _, movi, index, _, _, _, _, _, hindex, rfl, _⟩ := ofBytes_eq_ok_iff.mp h
  exact fun e he => ⟨TopLevel.le_offset_of_frameIndex hindex e he, hstop e he⟩

theorem nextFrame_withFile {c : Clip} (hc : Continues tail c.file other) (hin : c.FramesInside)
    (capacity : Nat) :
    (c.withFile other).nextFrame capacity =
      ((c.nextFrame capacity).1, (c.nextFrame capacity).2.withFile other) := by
  have hindex : (c.withFile other).index.get? (c.withFile other).position =
      c.index.get? c.position := rfl
  unfold nextFrame
  rw [hindex]
  cases hget : c.index.get? c.position with
  | none => rfl
  | some e =>
    obtain ⟨hoffset, hstop⟩ := hin e (List.mem_of_getElem? hget)
    have hread : readAt c.file e.offset e.size.toNat = some _ := readAt_of_le hstop
    have hother : readAt (c.withFile other).file e.offset e.size.toNat = some _ :=
      hc.readAt_eq_some hoffset hread
    dsimp only
    split
    · rfl
    · rw [hread, hother]
      rfl

/-- A frame is read alike from either file. -/
theorem readFrame_withFile {c : Clip} (hc : Continues tail c.file other) (hin : c.FramesInside)
    (buffer : Bytes) :
    (c.withFile other).readFrame buffer =
      ((c.readFrame buffer).1, (c.readFrame buffer).2.1,
        (c.readFrame buffer).2.2.withFile other) := by
  unfold readFrame
  rw [nextFrame_withFile hc hin]
  rcases c.nextFrame_cases buffer.size with hnext | ⟨_, hnext⟩ | ⟨_, _, hnext⟩
  all_goals rw [hnext]

theorem after_withFile {c : Clip} (hc : Continues tail c.file other) (hin : c.FramesInside)
    (call : Call) : (c.withFile other).after call = (c.after call).withFile other := by
  cases call with
  | read buffer =>
    rw [after, readFrame_withFile hc hin]
    rfl
  | seek frame =>
    have hcount : (c.withFile other).frameCount = c.frameCount := rfl
    unfold after seek
    dsimp only
    rw [hcount]
    split <;> rfl
  | rewind => rfl

/-- What a call on a clip keeps: the file and the index. -/
theorem sameFrames_after (c : Clip) (call : Call) :
    (c.after call).file = c.file ∧ (c.after call).index = c.index := by
  cases call with
  | read buffer =>
    rw [after, readFrame]
    rcases c.nextFrame_cases buffer.size with hnext | ⟨_, hnext⟩ | ⟨_, _, hnext⟩
    all_goals rw [hnext]; exact ⟨rfl, rfl⟩
  | seek frame =>
    unfold after seek
    dsimp only
    split <;> exact ⟨rfl, rfl⟩
  | rewind => exact ⟨rfl, rfl⟩

/-- Two clips that read alike: after the same calls they stand at the same frame, and a read has
the same outcome and leaves the same bytes in the buffer. -/
def ReadsAlike (c d : Clip) : Prop :=
  ∀ (calls : List Call) (buffer : Bytes),
    (calls.foldl after d).position = (calls.foldl after c).position ∧
    ((calls.foldl after d).readFrame buffer).1 = ((calls.foldl after c).readFrame buffer).1 ∧
    ((calls.foldl after d).readFrame buffer).2.1 = ((calls.foldl after c).readFrame buffer).2.1

theorem readsAlike_withFile {c : Clip} (hc : Continues tail c.file other) (hin : c.FramesInside) :
    c.ReadsAlike (c.withFile other) := by
  intro calls buffer
  induction calls generalizing c with
  | nil =>
    refine ⟨rfl, ?_⟩
    rw [List.foldl_nil, List.foldl_nil, readFrame_withFile hc hin]
    exact ⟨rfl, rfl⟩
  | cons call calls ih =>
    obtain ⟨hfile, hindex⟩ := sameFrames_after c call
    rw [List.foldl_cons, List.foldl_cons, after_withFile hc hin]
    refine ih ?_ ?_
    · rw [hfile]
      exact hc
    · unfold FramesInside
      rw [hfile, hindex]
      exact hin

theorem exists_open_sample :
    ∃ opened, ofBytes FileLayout.sample.bytes = .ok opened ∧ opened.number = 1 ∧
      opened.frameCount = 2 := by
  have hsample : (ofBytes FileLayout.sample.bytes).toOption.map
      (fun c => (c.number, c.frameCount)) = some (1, 2) := by
    decide +kernel
  cases hopen : ofBytes FileLayout.sample.bytes with
  | error fault => simp [hopen, Except.toOption] at hsample
  | ok opened => exact ⟨opened, rfl, by simpa [hopen, Except.toOption] using hsample⟩

end Clip

end AviPlayback
