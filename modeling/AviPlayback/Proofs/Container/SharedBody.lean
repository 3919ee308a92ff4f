import AviPlayback.Proofs.Container.SharedBytes

/-!
Two files with the same front. `AgreeUpTo` says that one file holds the bytes of another one up to a
place, but for the declared size of the outermost chunk, and is not shorter. Whatever was read from
lists that end at that place is read alike (`AgreeUpTo.add_top`, `AgreeUpTo.frameIndex`). Only the
type code of a list may reach past the end of the list around it, and such a list is empty.
-/
set_option autoImplicit false

namespace AviPlayback

/-- The other file holds what the one holds up to a place, behind the declared size of the outermost
chunk, and goes on at least as far. -/
structure AgreeUpTo (stop : Nat) (file other : Bytes) : Prop where
  le_size : stop ≤ file.size
  size_le : file.size ≤ other.size
  bytes : ∀ i < stop, 8 ≤ i → other[i]? = file[i]?

/-- An outcome that carries over whenever it is no fault. -/
theorem carries_of_ok {ε α : Type} {x y : Except ε α} (h : ∀ a, x = .ok a → y = .ok a) :
    Carries True x y := by
  cases x with
  | ok a => exact .inl (h a rfl)
  | error fault => exact .inr ⟨trivial, fault, rfl⟩

/-- Folds over the same chunks are the same when their steps are. -/
theorem foldChunks_congr {σ : Type} {file other : Bytes} {pos stop : Nat} {init : σ}
    {f g : σ → ChunkHeader → Except ContainerFault σ} (hwalk : walk other pos stop = walk file pos stop)
    (hfg : ∀ h ∈ (walk file pos stop).1, ∀ s, g s h = f s h) :
    foldChunks other pos stop init g = foldChunks file pos stop init f := by
  have hfold : Carries False ((walk file pos stop).1.foldlM f init)
      ((walk file pos stop).1.foldlM g init) := .foldlM (fun h hmem s => .inl (hfg h hmem s)) init
  unfold foldChunks
  rw [hwalk]
  dsimp only
  rw [hfold.eq_of_not id]

/-- No header fits in front of the end of the walk. -/
theorem FrameIndex.scanFrom_of_lt {file : Bytes} {stream limit pos stop : Nat}
    (hshort : min stop limit < pos + ChunkHeader.length) :
    scanFrom file stream limit pos stop = .ok ⟨[], false⟩ := by
  rw [scanFrom, dif_pos hshort]

namespace HeaderList

/-- A stream list without room for its type code tells nothing. -/
theorem addStream_of_lt {file : Bytes} {stop : Nat} {h : ChunkHeader} (hh : stop < h.offset + 4)
    (l : HeaderList) :
    ∃ m, addStream file stop l h = .ok m ∧ m.main = l.main ∧ m.video = l.video := by
  unfold addStream
  dsimp only
  cases hvideo : l.video with
  | some video => exact ⟨{ l with count := l.count + 1, video := some video }, rfl, rfl, rfl⟩
  | none =>
    have hshort : min h.stop stop < h.offset + 4 + ChunkHeader.length := by omega
    have hread : StreamList.read file (h.offset + 4) (min h.stop stop) = .ok ⟨none, none⟩ := by
      unfold StreamList.read foldChunks
      rw [walk, dif_pos hshort]
      rfl
    rw [hread]
    exact ⟨{ l with count := l.count + 1, video := none }, rfl, rfl, rfl⟩

end HeaderList

namespace AgreeUpTo

variable {stop : Nat} {file other : Bytes}

theorem readAt_eq (hc : AgreeUpTo stop file other) {pos count : Nat} (hpos : 8 ≤ pos)
    (hstop : pos + count ≤ stop) : readAt other pos count = readAt file pos count := by
  have hsizes := hc.le_size
  have hother := hc.size_le
  rw [readAt_of_le (by omega), readAt_of_le (by omega)]
  congr 1
  apply List.ext_getElem?
  intro i
  by_cases hi : i < count
  · rw [List.getElem?_take_of_lt hi, List.getElem?_take_of_lt hi, List.getElem?_drop,
      List.getElem?_drop, Array.getElem?_toList, Array.getElem?_toList]
    exact hc.bytes (pos + i) (by omega) (by omega)
  · rw [List.getElem?_take, List.getElem?_take, if_neg hi, if_neg hi]

theorem read (hc : AgreeUpTo stop file other) {pos : Nat} (hpos : 8 ≤ pos)
    (hstop : pos + ChunkHeader.length ≤ stop) :
    ChunkHeader.read other pos = ChunkHeader.read file pos := by
  unfold ChunkHeader.read
  rw [hc.readAt_eq hpos hstop]

theorem readListType (hc : AgreeUpTo stop file other) {h : ChunkHeader} (hh : 8 ≤ h.offset)
    (hstop : h.offset + 4 ≤ stop) : h.readListType other = h.readListType file := by
  unfold ChunkHeader.readListType
  rw [hc.readAt_eq hh hstop]

/-- A type code past the shared bytes is found in both files, though not the same one. -/
theorem exists_readListType (hc : AgreeUpTo stop file other) {h : ChunkHeader} {type : FourCc}
    (hread : h.readListType file = .ok type) : ∃ type', h.readListType other = .ok type' := by
  have hfits : h.offset + 4 ≤ file.size := by
    refine Nat.not_lt.mp fun hshort => ?_
    rw [ChunkHeader.readListType, readAt_eq_none (by decide) hshort] at hread
    cases hread
  have hother := hc.size_le
  unfold ChunkHeader.readListType
  rw [readAt_of_le (by omega)]
  exact ⟨_, rfl⟩

theorem readPayload (hc : AgreeUpTo stop file other) {h : ChunkHeader} {limit : Nat}
    (hh : 8 ≤ h.offset) (hlimit : h.offset ≤ limit) (hstop : limit ≤ stop) :
    h.readPayload other limit = h.readPayload file limit := by
  unfold ChunkHeader.readPayload
  dsimp only
  split
  · rfl
  · rw [hc.readAt_eq hh (by omega)]

theorem walk_eq (hc : AgreeUpTo stop file other) {pos limit : Nat} (hpos : 8 ≤ pos)
    (hlimit : limit ≤ stop) : walk other pos limit = walk file pos limit := by
  fun_induction walk file pos limit with
  | case1 pos hshort => rw [walk, dif_pos hshort]
  | case2 pos hfit fault hread =>
    rw [← hc.read hpos (by omega)] at hread
    exact walk_of_fault (Nat.not_lt.mp hfit) hread
  | case3 pos hfit header hread rest ih =>
    have hstop := ChunkHeader.lt_stop_of_read hread
    rw [← hc.read hpos (by omega)] at hread
    rw [walk_of_read (Nat.not_lt.mp hfit) hread, ih (by omega)]

theorem streamList (hc : AgreeUpTo stop file other) {pos limit : Nat} (hpos : 8 ≤ pos)
    (hlimit : limit ≤ stop) : StreamList.read other pos limit = StreamList.read file pos limit := by
  refine foldChunks_congr (hc.walk_eq hpos hlimit) ?_
  intro h hmem s
  have hbounds := le_offset_of_mem_walk h hmem
  unfold StreamList.add
  rw [hc.readPayload (by omega) hbounds.2 hlimit]

/-- A chunk of a header list whose type code is shared is taken into account alike. -/
theorem add_header (hc : AgreeUpTo stop file other) {h : ChunkHeader} {limit : Nat}
    (hh : 8 ≤ h.offset) (hlimit : h.offset + 4 ≤ limit) (hstop : limit ≤ stop) (l : HeaderList) :
    HeaderList.add other limit l h = HeaderList.add file limit l h := by
  unfold HeaderList.add HeaderList.addStream
  rw [hc.readPayload hh (by omega) hstop, hc.readListType hh (by omega),
    hc.streamList (by omega) (Nat.le_trans (Nat.min_le_right _ _) hstop)]

/-- The last chunk of a header list tells the same, though a type code past its end may differ. -/
theorem add_lastHeader (hc : AgreeUpTo stop file other) {h : ChunkHeader} {limit : Nat}
    (hh : 8 ≤ h.offset) (hlimit : h.offset ≤ limit) (hshort : limit < h.offset + 4)
    (hstop : limit ≤ stop) {l m : HeaderList} (hadd : HeaderList.add file limit l h = .ok m) :
    ∃ m', HeaderList.add other limit l h = .ok m' ∧ m'.main = m.main ∧ m'.video = m.video := by
  have hempty : ∀ (b : Bytes) (type : FourCc), h.id ≠ .avih → h.id = .list →
      h.readListType b = .ok type → ∃ n, HeaderList.add b limit l h = .ok n ∧
        n.main = l.main ∧ n.video = l.video := by
    intro b type havih hlist htype
    unfold HeaderList.add
    rw [if_neg havih, if_pos hlist, htype, ok_bind]
    split
    · exact HeaderList.addStream_of_lt hshort l
    · exact ⟨l, rfl, rfl, rfl⟩
  by_cases havih : h.id = .avih
  · refine ⟨m, ?_, rfl, rfl⟩
    rw [← hadd]
    unfold HeaderList.add
    rw [if_pos havih, if_pos havih, hc.readPayload hh hlimit hstop]
  by_cases hlist : h.id = .list
  · have htype : ∃ type, h.readListType file = .ok type := by
      unfold HeaderList.add at hadd
      rw [if_neg havih, if_pos hlist] at hadd
      obtain ⟨type, htype, _⟩ := bind_eq_ok_iff.mp hadd
      exact ⟨type, htype⟩
    obtain ⟨type, htype⟩ := htype
    obtain ⟨type', htype'⟩ := hc.exists_readListType htype
    obtain ⟨n, hn, hmain, hvideo⟩ := hempty file type havih hlist htype
    obtain ⟨n', hn', hmain', hvideo'⟩ := hempty other type' havih hlist htype'
    rw [hn] at hadd
    cases hadd
    exact ⟨n', hn', hmain'.trans hmain.symm, hvideo'.trans hvideo.symm⟩
  · refine ⟨m, ?_, rfl, rfl⟩
    rw [← hadd]
    unfold HeaderList.add
    rw [if_neg havih, if_neg hlist, if_neg havih, if_neg hlist]

/-- The chunks of a header list, one after another. -/
theorem foldlM_headers (hc : AgreeUpTo stop file other) {pos limit : Nat} (hpos : 8 ≤ pos)
    (hstop : limit ≤ stop) {headers : List ChunkHeader}
    (hwalk : walk file pos limit = (headers, none)) {l m : HeaderList}
    (hfold : headers.foldlM (HeaderList.add file limit) l = .ok m) :
    ∃ m', headers.foldlM (HeaderList.add other limit) l = .ok m' ∧ m'.main = m.main ∧
      m'.video = m.video := by
  fun_induction walk file pos limit generalizing headers l with
  | case1 pos hshort =>
    cases hwalk
    exact ⟨m, hfold, rfl, rfl⟩
  | case2 pos hfit fault hread => cases hwalk
  | case3 pos hfit header hread rest ih =>
    have hoffset := ChunkHeader.offset_of_read hread
    have hend := ChunkHeader.lt_stop_of_read hread
    obtain ⟨rfl, hrest⟩ := Prod.mk.inj hwalk
    rw [List.foldlM_cons] at hfold
    obtain ⟨n, hn, hfold⟩ := bind_eq_ok_iff.mp hfold
    rw [List.foldlM_cons]
    by_cases hcode : header.offset + 4 ≤ limit
    · rw [hc.add_header (by omega) hcode hstop, hn]
      exact ih (by omega) (Prod.ext rfl hrest) hfold
    · -- no header fits behind the last one
      have hlast : rest = ([], none) := by
        change walk file header.stop limit = _
        rw [walk, dif_pos (by unfold ChunkHeader.length at *; omega)]
      obtain ⟨n', hn', hmain, hvideo⟩ :=
        hc.add_lastHeader (by omega) (by omega) (Nat.not_le.mp hcode) hstop hn
      rw [hlast] at hfold
      cases hfold
      rw [hn', hlast]
      exact ⟨n', rfl, hmain, hvideo⟩

theorem headerList (hc : AgreeUpTo stop file other) {pos limit : Nat} (hpos : 8 ≤ pos)
    (hstop : limit ≤ stop) {l : HeaderList} (hread : HeaderList.read file pos limit = .ok l) :
    ∃ l', HeaderList.read other pos limit = .ok l' ∧ l'.main = l.main ∧ l'.video = l.video := by
  obtain ⟨headers, hwalk, hfold⟩ := foldChunks_eq_ok hread
  obtain ⟨l', hfold', hsame⟩ := hc.foldlM_headers hpos hstop hwalk hfold
  refine ⟨l', ?_, hsame⟩
  unfold HeaderList.read foldChunks
  rw [hc.walk_eq hpos hstop, hwalk]
  dsimp only
  rw [hfold']

/-- A chunk of the top level that ends inside the shared bytes is taken into account alike, wherever
the top level ends. -/
theorem add_top (hc : AgreeUpTo stop file other) {h : ChunkHeader} (hh : 8 ≤ h.offset)
    (hstop : h.stop ≤ stop) (hcode : h.id = .list → h.offset + 4 ≤ stop) {limit limit' : Nat}
    (hlimit : stop ≤ limit) (hlimit' : stop ≤ limit') (t : TopLevel) :
    Carries True (TopLevel.add file limit t h) (TopLevel.add other limit' t h) := by
  unfold TopLevel.add
  split
  · next hlist =>
    rw [hc.readListType hh (hcode hlist), Nat.min_eq_left (by omega), Nat.min_eq_left (by omega)]
    refine (Carries.refl _).bind fun type _ => ?_
    dsimp only
    split
    · refine carries_of_ok fun u hu => ?_
      obtain ⟨l, hl, hu⟩ := bind_eq_ok_iff.mp hu
      obtain ⟨l', hl', hmain, hvideo⟩ := hc.headerList (by omega) hstop hl
      cases hu
      rw [hl', ok_bind, hmain, hvideo]
      rfl
    · exact .refl _
  · split
    · have hend : h.offset + h.size.toNat ≤ h.stop := by
        unfold ChunkHeader.stop
        omega
      have hfile := hc.le_size
      have hother := hc.size_le
      have hpayload : h.readPayload other other.size = h.readPayload file file.size := by
        unfold ChunkHeader.readPayload
        dsimp only
        rw [if_neg (by omega), if_neg (by omega), hc.readAt_eq hh (by omega)]
      rw [hpayload]
      exact .refl _
    · exact .refl _

theorem scanFrom (hc : AgreeUpTo stop file other) (stream : Nat) {limit pos : Nat} (hpos : 8 ≤ pos)
    (hstop : limit ≤ stop) (last : Nat) :
    Carries True (FrameIndex.scanFrom file stream limit pos last)
      (FrameIndex.scanFrom other stream limit pos last) := by
  induction hleft : limit - pos using Nat.strongRecOn generalizing pos last with
  | ind left ih =>
    subst hleft
    rw [FrameIndex.scanFrom_eq_bind file, FrameIndex.scanFrom_eq_bind other]
    split
    · exact .refl _
    next hfit =>
    rw [hc.read hpos (by omega)]
    refine (Carries.refl _).bind fun h hread => ?_
    have hoffset := ChunkHeader.offset_of_read hread
    have hend := ChunkHeader.lt_stop_of_read hread
    have hrest := ih (limit - h.stop) (by unfold ChunkHeader.length at *; omega) (by omega) last rfl
    split
    · by_cases hcode : h.offset + 4 ≤ stop
      · rw [hc.readListType (by omega) hcode]
        refine (Carries.refl _).bind fun type _ => ?_
        split
        · refine (ih (limit - (h.offset + 4)) (by unfold ChunkHeader.length at *; omega) (by omega) _
            rfl).bind fun inner _ => ?_
          split
          · exact .refl _
          · exact hrest.bind fun _ _ => .refl _
        · exact hrest
      · -- a list that ends with its header lists nothing, and nothing stands behind it
        refine carries_of_ok fun s hs => ?_
        obtain ⟨type, htype, hs⟩ := bind_eq_ok_iff.mp hs
        obtain ⟨type', htype'⟩ := hc.exists_readListType htype
        have hinner : ∀ b, FrameIndex.scanFrom b stream limit (h.offset + 4) (min h.stop limit) =
            .ok ⟨[], false⟩ := fun b => FrameIndex.scanFrom_of_lt (by omega)
        have hbehind : ∀ b, FrameIndex.scanFrom b stream limit h.stop last = .ok ⟨[], false⟩ :=
          fun b => FrameIndex.scanFrom_of_lt (by unfold ChunkHeader.length at *; omega)
        rw [htype', ok_bind]
        simp only [hinner, hbehind, ok_bind] at hs ⊢
        split at hs <;> split <;> exact hs
    · split
      · split
        · exact .refl _
        · exact hrest.bind fun _ _ => .refl _
      · exact hrest

/-- The index of a stream, from a list of frame data inside the shared bytes. -/
theorem frameIndex (hc : AgreeUpTo stop file other) (t : TopLevel) {movi : Nat × Nat}
    (hmovi : 8 ≤ movi.1) (hstop : movi.2 ≤ stop) (stream : Nat) :
    Carries True (t.frameIndex file movi stream) (t.frameIndex other movi stream) :=
  t.carries_frameIndex (.inr ⟨trivial, hc.size_le⟩)
    ((hc.scanFrom stream (by omega) hstop movi.2).map _)

end AgreeUpTo

end AviPlayback
