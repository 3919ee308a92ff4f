import AviPlayback.Proofs.Container.Placement
import AviPlayback.Proofs.Outcome
import AviPlayback.Container.FrameIndex

/-!
The walk through a list of frame data. `Scanned` describes a finished walk step by step, together
with its returns from record lists; the walks that succeed are exactly the finished ones
(`scanFrom_eq_ok_iff`), and they list frames inside the limit only (`Scanned.mem_bounds`).
-/
set_option autoImplicit false

namespace AviPlayback

namespace FrameIndex

/-- A return of the walk from a record list. -/
structure Return where
  /-- The declared end of the list, where the walk goes on. -/
  place : Nat
  /-- The frames listed inside the list. -/
  inside : List FrameEntry
  /-- The frames listed behind the list. -/
  behind : List FrameEntry

/-- The walk from `pos` to `stop` comes to a header. -/
def Comes (file : Bytes) (limit pos stop : Nat) (h : ChunkHeader) : Prop :=
  pos + ChunkHeader.length ≤ min stop limit ∧ ChunkHeader.read file pos = .ok h

/-- What the walk does at a header. -/
theorem scanFrom_of_comes {file : Bytes} {limit pos stop : Nat} {h : ChunkHeader}
    (hc : Comes file limit pos stop h) (stream : Nat) :
    scanFrom file stream limit pos stop =
      if h.id = .list then do
        if (← h.readListType file) = .record then do
          let inner ← scanFrom file stream limit (h.offset + 4) (min h.stop limit)
          if inner.halted then pure inner
          else do
            let rest ← scanFrom file stream limit h.stop stop
            pure ⟨inner.entries ++ rest.entries, rest.halted⟩
        else scanFrom file stream limit h.stop stop
      else if h.id.isVideoOf stream then
        if limit < h.offset + h.size.toNat then pure ⟨[], true⟩
        else do
          let rest ← scanFrom file stream limit h.stop stop
          pure ⟨entryOfChunk h :: rest.entries, rest.halted⟩
      else scanFrom file stream limit h.stop stop := by
  rw [scanFrom, dif_neg (Nat.not_lt.mpr hc.1)]
  split
  · next fault heq =>
    rw [hc.2] at heq
    cases heq
  · next header heq =>
    rw [hc.2] at heq
    cases heq
    cases h.readListType file <;>
      cases scanFrom file stream limit (h.offset + 4) (min h.stop limit) <;>
      cases scanFrom file stream limit h.stop stop <;> rfl

/-- One step of the walk through frame data, from the header that it reads. -/
theorem scanFrom_eq_bind (file : Bytes) (stream limit pos stop : Nat) :
    scanFrom file stream limit pos stop =
      if min stop limit < pos + ChunkHeader.length then .ok ⟨[], false⟩
      else ChunkHeader.read file pos >>= fun h =>
        if h.id = .list then do
          if (← h.readListType file) = .record then do
            let inner ← scanFrom file stream limit (h.offset + 4) (min h.stop limit)
            if inner.halted then pure inner
            else do
              let rest ← scanFrom file stream limit h.stop stop
              pure ⟨inner.entries ++ rest.entries, rest.halted⟩
          else scanFrom file stream limit h.stop stop
        else if h.id.isVideoOf stream then
          if limit < h.offset + h.size.toNat then pure ⟨[], true⟩
          else do
            let rest ← scanFrom file stream limit h.stop stop
            pure ⟨entryOfChunk h :: rest.entries, rest.halted⟩
        else scanFrom file stream limit h.stop stop := by
  split
  · next hshort => rw [scanFrom, dif_pos hshort]
  · next hfit =>
    cases hread : ChunkHeader.read file pos with
    | ok h => exact scanFrom_of_comes ⟨Nat.not_lt.mp hfit, hread⟩ stream
    | error fault =>
      rw [scanFrom, dif_neg hfit]
      split
      · next heq =>
        rw [hread] at heq
        cases heq
        rfl
      · next heq =>
        rw [hread] at heq
        cases heq

/-- A finished walk from `pos` to `stop`: what it found, and its returns from record lists. -/
inductive Scanned (file : Bytes) (stream limit : Nat) : Nat → Nat → Scan → List Return → Prop
  | done {pos stop : Nat} (short : min stop limit < pos + ChunkHeader.length) :
      Scanned file stream limit pos stop ⟨[], false⟩ []
  | overrun {pos stop : Nat} {h : ChunkHeader} (comes : Comes file limit pos stop h)
      (plain : h.id ≠ .list) (video : h.id.isVideoOf stream)
      (long : limit < h.offset + h.size.toNat) :
      Scanned file stream limit pos stop ⟨[], true⟩ []
  | frame {pos stop : Nat} {h : ChunkHeader} {rest : Scan} {rs : List Return}
      (comes : Comes file limit pos stop h) (plain : h.id ≠ .list) (video : h.id.isVideoOf stream)
      (fits : h.offset + h.size.toNat ≤ limit)
      (tail : Scanned file stream limit h.stop stop rest rs) :
      Scanned file stream limit pos stop ⟨entryOfChunk h :: rest.entries, rest.halted⟩ rs
  | skip {pos stop : Nat} {h : ChunkHeader} {rest : Scan} {rs : List Return}
      (comes : Comes file limit pos stop h) (plain : h.id ≠ .list)
      (other : ¬ h.id.isVideoOf stream) (tail : Scanned file stream limit h.stop stop rest rs) :
      Scanned file stream limit pos stop rest rs
  | pass {pos stop : Nat} {h : ChunkHeader} {type : FourCc} {rest : Scan} {rs : List Return}
      (comes : Comes file limit pos stop h) (list : h.id = .list)
      (typed : h.readListType file = .ok type) (other : type ≠ .record)
      (tail : Scanned file stream limit h.stop stop rest rs) :
      Scanned file stream limit pos stop rest rs
  | halt {pos stop : Nat} {h : ChunkHeader} {inner : Scan} {rs : List Return}
      (comes : Comes file limit pos stop h) (list : h.id = .list)
      (typed : h.readListType file = .ok .record)
      (body : Scanned file stream limit (h.offset + 4) (min h.stop limit) inner rs)
      (halted : inner.halted = true) :
      Scanned file stream limit pos stop inner rs
  | record {pos stop : Nat} {h : ChunkHeader} {inner rest : Scan} {rs ts : List Return}
      (comes : Comes file limit pos stop h) (list : h.id = .list)
      (typed : h.readListType file = .ok .record)
      (body : Scanned file stream limit (h.offset + 4) (min h.stop limit) inner rs)
      (halted : inner.halted = false) (tail : Scanned file stream limit h.stop stop rest ts) :
      Scanned file stream limit pos stop ⟨inner.entries ++ rest.entries, rest.halted⟩
        (⟨h.stop, inner.entries, rest.entries⟩ :: (rs ++ ts))

/-- Every walk that succeeds is a finished one. -/
theorem exists_scanned {file : Bytes} {stream limit pos stop : Nat} {s : Scan}
    (h : scanFrom file stream limit pos stop = .ok s) :
    ∃ rs, Scanned file stream limit pos stop s rs := by
  fun_induction scanFrom file stream limit pos stop generalizing s with
  | case1 pos stop hshort =>
    cases h
    exact ⟨_, .done hshort⟩
  | case2 | case3 | case4 | case6 | case10 => cases h
  | case5 pos stop hfit header hread hlist inner hinner hhalt htype ih =>
    cases h
    obtain ⟨rs, hbody⟩ := ih hinner
    exact ⟨rs, .halt ⟨by omega, hread⟩ hlist htype hbody hhalt⟩
  | case7 pos stop hfit header hread hlist inner hinner hhalt rest hrest htype ihBody ihTail =>
    cases h
    obtain ⟨rs, hbody⟩ := ihBody hinner
    obtain ⟨ts, htail⟩ := ihTail hrest
    exact ⟨_, .record ⟨by omega, hread⟩ hlist htype hbody (by simpa using hhalt) htail⟩
  | case8 pos stop hfit header hread hlist type htype hother ih =>
    obtain ⟨rs, htail⟩ := ih h
    exact ⟨rs, .pass ⟨by omega, hread⟩ hlist htype hother htail⟩
  | case9 pos stop hfit header hread hplain hvideo hlong =>
    cases h
    exact ⟨_, .overrun ⟨by omega, hread⟩ hplain hvideo hlong⟩
  | case11 pos stop hfit header hread hplain hvideo hfits rest hrest ih =>
    cases h
    obtain ⟨rs, htail⟩ := ih hrest
    exact ⟨rs, .frame ⟨by omega, hread⟩ hplain hvideo (by omega) htail⟩
  | case12 pos stop hfit header hread hplain hother ih =>
    obtain ⟨rs, htail⟩ := ih h
    exact ⟨rs, .skip ⟨by omega, hread⟩ hplain hother htail⟩

/-- Every finished walk is one that succeeds. -/
theorem Scanned.scanFrom_eq {file : Bytes} {stream limit pos stop : Nat} {s : Scan}
    {rs : List Return} (hs : Scanned file stream limit pos stop s rs) :
    scanFrom file stream limit pos stop = .ok s := by
  induction hs with
  | done short => rw [scanFrom, dif_pos short]
  | overrun comes plain video long =>
    rw [scanFrom_of_comes comes, if_neg plain, if_pos video, if_pos long]
    rfl
  | frame comes plain video fits _ ih =>
    rw [scanFrom_of_comes comes, if_neg plain, if_pos video, if_neg (Nat.not_lt.mpr fits), ih]
    rfl
  | skip comes plain other _ ih => rw [scanFrom_of_comes comes, if_neg plain, if_neg other, ih]
  | pass comes list typed other _ ih =>
    rw [scanFrom_of_comes comes, if_pos list, typed, ok_bind, if_neg other, ih]
  | halt comes list typed _ halted ih =>
    rw [scanFrom_of_comes comes, if_pos list, typed, ok_bind, if_pos rfl, ih, ok_bind,
      if_pos halted]
    rfl
  | record comes list typed _ halted _ ihBody ihTail =>
    rw [scanFrom_of_comes comes, if_pos list, typed, ok_bind, if_pos rfl, ihBody, ok_bind, halted,
      if_neg Bool.false_ne_true, ihTail]
    rfl

theorem scanFrom_eq_ok_iff {file : Bytes} {stream limit pos stop : Nat} {s : Scan} :
    scanFrom file stream limit pos stop = .ok s ↔
      ∃ rs, Scanned file stream limit pos stop s rs :=
  ⟨exists_scanned, fun ⟨_, hs⟩ => hs.scanFrom_eq⟩

theorem Comes.bounds {file : Bytes} {limit pos stop : Nat} {h : ChunkHeader}
    (hc : Comes file limit pos stop h) :
    h.offset = pos + ChunkHeader.length ∧ h.offset + h.size.toNat ≤ h.stop := by
  refine ⟨ChunkHeader.offset_of_read hc.2, ?_⟩
  unfold ChunkHeader.stop
  omega

/-- Every entry lies between the start of the walk and the limit, header and payload. -/
theorem Scanned.mem_bounds {file : Bytes} {stream limit pos stop : Nat} {s : Scan}
    {rs : List Return} (hs : Scanned file stream limit pos stop s rs) :
    ∀ e ∈ s.entries, pos + ChunkHeader.length ≤ e.offset ∧ e.stop ≤ limit := by
  induction hs with
  | done | overrun => simp
  | frame comes _ _ fits _ ih =>
    obtain ⟨hoffset, hstop⟩ := comes.bounds
    intro e he
    rcases List.mem_cons.mp he with rfl | he
    · exact ⟨Nat.le_of_eq hoffset.symm, fits⟩
    · have := ih e he
      omega
  | skip comes _ _ _ ih | pass comes _ _ _ _ ih =>
    obtain ⟨hoffset, hstop⟩ := comes.bounds
    intro e he
    have := ih e he
    omega
  | halt comes _ _ _ _ ih =>
    obtain ⟨hoffset, hstop⟩ := comes.bounds
    intro e he
    have := ih e he
    omega
  | record comes _ _ _ _ _ ihBody ihTail =>
    obtain ⟨hoffset, hstop⟩ := comes.bounds
    intro e he
    rcases List.mem_append.mp he with he | he
    · have := ihBody e he
      omega
    · have := ihTail e he
      omega

end FrameIndex

end AviPlayback
