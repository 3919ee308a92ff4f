import AviPlayback.Proofs.Container.RiffSize

/-!
Bytes behind the outermost chunk. A file that can be opened and holds its outermost chunk whole
stays the same clip when anything is written behind it (`Clip.ofBytes_append`): every walk is
bounded by declared sizes, and where the end of the file is a limit, a limit further away refuses
less.
-/
set_option autoImplicit false

namespace AviPlayback

theorem continues_append {file : Bytes} (hfile : 8 ≤ file.size) (tail : Bytes) :
    Continues tail.toList file (file ++ tail) where
  size := by simp
  behind := by
    rw [Array.toList_append, List.drop_append_of_le_length]
    rwa [Array.length_toList]

namespace Clip

/-- The outermost chunk is found again. -/
theorem readRiff_append {file : Bytes} {r : ChunkHeader × FourCc} (h : readRiff file = .ok r)
    (tail : Bytes) : readRiff (file ++ tail) = .ok r := by
  obtain ⟨hread, hid, hform⟩ := readRiff_eq_ok_iff.mp h
  have hfits := ChunkHeader.length_le_of_read hread
  rw [Nat.zero_add] at hfits
  have hhead : readAt (file ++ tail) 0 ChunkHeader.length = readAt file 0 ChunkHeader.length := by
    have hlonger : 0 + ChunkHeader.length ≤ (file ++ tail).size := by
      rw [Array.size_append]
      omega
    have hlist : ChunkHeader.length ≤ file.toList.length := by rwa [Array.length_toList]
    rw [readAt_of_le hlonger, readAt_of_le (by omega), List.drop_zero, List.drop_zero,
      Array.toList_append, List.take_append_of_le_length hlist]
  refine readRiff_eq_ok_iff.mpr ⟨?_, hid, ?_⟩
  · unfold ChunkHeader.read at hread ⊢
    rw [hhead]
    exact hread
  · have hoffset : 8 ≤ r.1.offset := Nat.le_of_eq (ChunkHeader.offset_of_read hread).symm
    exact (hform ▸ (continues_append hfits tail).readListType hoffset).eq_ok

/-- A file that can be opened and whose outermost chunk, pad byte included, ends inside the file.
Whatever is written behind the file, it opens again, with the same headers, the same stream number
and the same frame index, and the same frames are read. -/
theorem ofBytes_append {file : Bytes} {opened : Clip} (h : ofBytes file = .ok opened)
    {riff : ChunkHeader} (hriff : ChunkHeader.read file 0 = .ok riff) (hstop : riff.stop ≤ file.size)
    (tail : Bytes) :
    ofBytes (file ++ tail) = .ok (opened.withFile (file ++ tail)) ∧
    opened.ReadsAlike (opened.withFile (file ++ tail)) := by
  have hfits := ChunkHeader.length_le_of_read hriff
  rw [Nat.zero_add] at hfits
  have hcontinues := continues_append hfits tail
  constructor
  · rw [ofBytes_eq_bind] at h
    obtain ⟨r, hr, h⟩ := bind_eq_ok_iff.mp h
    obtain ⟨hread, _, _⟩ := readRiff_eq_ok_iff.mp hr
    rw [hriff] at hread
    cases hread
    split at h
    · cases h
    next hform =>
    obtain ⟨top, htop, h⟩ := bind_eq_ok_iff.mp h
    have hoffset : r.1.offset = 8 := ChunkHeader.offset_of_read hriff
    -- both walks of the top level stop at the declared end
    have hcut : min r.1.stop (file ++ tail).size = min r.1.stop file.size := by
      rw [Array.size_append]
      omega
    have htop' := (htop ▸ hcontinues.top (by omega) _).eq_ok
    have hmovi : ∀ m ∈ top.movi, 8 ≤ m.1 := by
      intro m hm
      have := TopLevel.le_movi_of_read htop m hm
      omega
    have hclip := hcontinues.ofTopLevel hmovi
    rw [h] at hclip
    rw [ofBytes_eq_bind, readRiff_append hr, ok_bind, if_neg hform, hcut, htop', ok_bind]
    exact hclip.eq_ok
  · have hopened : Continues tail.toList opened.file (file ++ tail) := by
      rw [file_of_ofBytes h]
      exact hcontinues
    exact readsAlike_withFile hopened (framesInside_of_ofBytes h)

/-- A file whose outermost chunk is declared sixteen bytes too short, so that the index chunk
reaches past the declared end. With bytes behind it, it stays the same clip. -/
theorem ofBytes_append_short :
    ∃ opened riff, ofBytes (withDeclaredSize FileLayout.sample.bytes 338) = .ok opened ∧
      ChunkHeader.read (withDeclaredSize FileLayout.sample.bytes 338) 0 = .ok riff ∧
      riff.stop ≤ (withDeclaredSize FileLayout.sample.bytes 338).size ∧
      ofBytes (withDeclaredSize FileLayout.sample.bytes 338 ++ #[1, 2, 3]) =
        .ok (opened.withFile (withDeclaredSize FileLayout.sample.bytes 338 ++ #[1, 2, 3])) := by
  have hread : (ChunkHeader.read (withDeclaredSize FileLayout.sample.bytes 338) 0).toOption =
      some ⟨.riff, 338, 8⟩ := by
    decide +kernel
  have hopens : (ofBytes (withDeclaredSize FileLayout.sample.bytes 338)).toOption.isSome := by
    decide +kernel
  have hstop : ChunkHeader.stop ⟨.riff, 338, 8⟩ ≤
      (withDeclaredSize FileLayout.sample.bytes 338).size := by
    decide +kernel
  cases hriff : ChunkHeader.read (withDeclaredSize FileLayout.sample.bytes 338) 0 with
  | error fault => simp [hriff, Except.toOption] at hread
  | ok riff =>
    rw [hriff] at hread
    cases hread
    cases hopen : ofBytes (withDeclaredSize FileLayout.sample.bytes 338) with
    | error fault => simp [hopen, Except.toOption] at hopens
    | ok opened =>
      exact ⟨opened, _, rfl, rfl, hstop, (ofBytes_append hopen hriff hstop #[1, 2, 3]).1⟩

end Clip

end AviPlayback
