import AviPlayback.Proofs.Container.Scan
import Mathlib.Algebra.Group.Nat.Defs
import Mathlib.Data.List.Chain
import Mathlib.Tactic.Tauto

/-!
The order of the frames that a walk lists. They are in file order exactly when no frame that was
listed inside a record list reaches into the next frame listed behind it (`scan_inFileOrder_iff`).
Lists that declare ends past the list around them are walked again and again, so that one chunk
can be listed many times (`scan_doubled`).
-/
set_option autoImplicit false

namespace AviPlayback

namespace FrameIndex

/-- A frame ends before the chunk header of another one starts. -/
def Before (a b : FrameEntry) : Prop := a.stop + ChunkHeader.length ≤ b.offset

/-- Consecutive frames are in file order and do not overlap. -/
def InFileOrder (entries : List FrameEntry) : Prop := entries.IsChain Before

/-- The frames inside end before the next frame behind. -/
def Return.Clears (r : Return) : Prop := ∀ a ∈ r.inside, ∀ b ∈ r.behind.head?, Before a b

theorem Before.trans {a b c : FrameEntry} (hab : Before a b) (hbc : Before b c) : Before a c := by
  unfold Before FrameEntry.stop at *
  omega

instance : Trans Before Before Before := ⟨Before.trans⟩

theorem inFileOrder_iff_pairwise (entries : List FrameEntry) :
    InFileOrder entries ↔ entries.Pairwise Before :=
  List.isChain_iff_pairwise

/-- Lists one behind the other are in file order when each is and the first one clears the
second. -/
theorem inFileOrder_append (front back : List FrameEntry) :
    InFileOrder (front ++ back) ↔
      InFileOrder front ∧ InFileOrder back ∧ ∀ a ∈ front, ∀ b ∈ back.head?, Before a b := by
  simp only [inFileOrder_iff_pairwise, List.pairwise_append]
  constructor
  · rintro ⟨hfront, hback, hcross⟩
    exact ⟨hfront, hback, fun a ha b hb => hcross a ha b (List.mem_of_mem_head? hb)⟩
  · rintro ⟨hfront, hback, hhead⟩
    refine ⟨hfront, hback, ?_⟩
    intro a ha b hb
    cases back with
    | nil => simp at hb
    | cons first rest =>
      have hfirst : Before a first := hhead a ha first rfl
      rcases List.mem_cons.mp hb with rfl | hb
      · exact hfirst
      · exact hfirst.trans ((List.pairwise_cons.mp hback).1 b hb)

/-- The walk goes forward except where it returns from a record list. -/
theorem Scanned.inFileOrder_iff {file : Bytes} {stream limit pos stop : Nat} {s : Scan}
    {rs : List Return} (hs : Scanned file stream limit pos stop s rs) :
    InFileOrder s.entries ↔ ∀ r ∈ rs, r.Clears := by
  induction hs with
  | done | overrun => simp [inFileOrder_iff_pairwise]
  | frame comes _ _ _ tail ih =>
    have hstop := comes.bounds.2
    rw [← ih, inFileOrder_iff_pairwise, inFileOrder_iff_pairwise, List.pairwise_cons]
    refine and_iff_right fun e he => ?_
    have hbehind := (tail.mem_bounds e he).1
    exact (Nat.add_le_add_right hstop _).trans hbehind
  | skip _ _ _ _ ih | pass _ _ _ _ _ ih | halt _ _ _ _ _ ih => exact ih
  | record _ _ _ _ _ _ ihBody ihTail =>
    -- only here does the walk go back, to the declared end of the list
    rw [inFileOrder_append, ihBody, ihTail]
    simp only [List.forall_mem_cons, List.forall_mem_append, Return.Clears]
    tauto

/-- The frames behind a return lie behind the place to which the walk returned. -/
theorem Scanned.behind_bounds {file : Bytes} {stream limit pos stop : Nat} {s : Scan}
    {rs : List Return} (hs : Scanned file stream limit pos stop s rs) :
    ∀ r ∈ rs, ∀ e ∈ r.behind, r.place + ChunkHeader.length ≤ e.offset := by
  induction hs with
  | done | overrun => simp
  | frame _ _ _ _ _ ih | skip _ _ _ _ ih | pass _ _ _ _ _ ih | halt _ _ _ _ _ ih => exact ih
  | record _ _ _ _ _ tail ihBody ihTail =>
    simp only [List.forall_mem_cons, List.forall_mem_append]
    exact ⟨fun e he => (tail.mem_bounds e he).1, ihBody, ihTail⟩

/-- Frames that end inside the record lists around them do not reach into later ones. -/
theorem Scanned.inFileOrder_of_inside {file : Bytes} {stream limit pos stop : Nat} {s : Scan}
    {rs : List Return} (hs : Scanned file stream limit pos stop s rs)
    (hinside : ∀ r ∈ rs, ∀ e ∈ r.inside, e.stop ≤ r.place) : InFileOrder s.entries := by
  rw [hs.inFileOrder_iff]
  intro r hr a ha b hb
  have hstop := hinside r hr a ha
  have hbehind := hs.behind_bounds r hr b (List.mem_of_mem_head? hb)
  exact (Nat.add_le_add_right hstop _).trans hbehind

/-- Frames in file order that lie in a range take eight bytes of it each, and more. -/
theorem length_le_of_inFileOrder {entries : List FrameEntry} {pos limit : Nat}
    (horder : InFileOrder entries)
    (hbounds : ∀ e ∈ entries, pos + ChunkHeader.length ≤ e.offset ∧ e.stop ≤ limit) :
    ChunkHeader.length * entries.length ≤ limit - pos := by
  rw [inFileOrder_iff_pairwise] at horder
  induction entries generalizing pos with
  | nil => simp
  | cons e rest ih =>
    obtain ⟨hfirst, hrest⟩ := List.pairwise_cons.mp horder
    have htail := ih hrest fun b hb => ⟨hfirst b hb, (hbounds b (by simp [hb])).2⟩
    have hbound := hbounds e (by simp)
    have hlength : e.offset ≤ e.stop := Nat.le_add_right _ _
    rw [List.length_cons, Nat.mul_succ]
    omega

theorem nodup_of_inFileOrder {entries : List FrameEntry} (horder : InFileOrder entries) :
    (entries.map FrameEntry.offset).Nodup := by
  rw [inFileOrder_iff_pairwise] at horder
  rw [List.Nodup, List.pairwise_map]
  refine horder.imp fun {a b} hab heq => ?_
  unfold Before FrameEntry.stop ChunkHeader.length at hab
  omega

/-- A successful scan lists only frames inside the scanned range. They are in file order without
overlap, and then at most one for each eight bytes of the range and none twice, exactly when no
frame listed inside a record list reaches into the next frame listed behind that list, and so
whenever frames end inside the record lists around them. -/
theorem scan_inFileOrder_iff {file : Bytes} {start stop stream : Nat} {ix : FrameIndex}
    (h : scan file start stop stream = .ok ix) :
    (∀ e ∈ ix.entries, start + ChunkHeader.length ≤ e.offset ∧ e.stop ≤ stop) ∧
      (InFileOrder ix.entries → (ix.entries.map FrameEntry.offset).Nodup ∧
        ix.entries.length ≤ (stop - start) / ChunkHeader.length) ∧
      (∃ halted rs, Scanned file stream stop start stop ⟨ix.entries, halted⟩ rs) ∧
      ∀ halted rs, Scanned file stream stop start stop ⟨ix.entries, halted⟩ rs →
        (InFileOrder ix.entries ↔ ∀ r ∈ rs, r.Clears) ∧
        ((∀ r ∈ rs, ∀ e ∈ r.inside, e.stop ≤ r.place) → InFileOrder ix.entries) := by
  obtain ⟨s, hs, rfl⟩ := map_eq_ok_iff.mp h
  obtain ⟨rs, hrun⟩ := scanFrom_eq_ok_iff.mp hs
  refine ⟨hrun.mem_bounds, ?_, ⟨s.halted, rs, hrun⟩,
    fun _ _ hrun => ⟨hrun.inFileOrder_iff, hrun.inFileOrder_of_inside⟩⟩
  intro horder
  refine ⟨nodup_of_inFileOrder horder, ?_⟩
  have hlength := length_le_of_inFileOrder horder hrun.mem_bounds
  rw [Nat.le_div_iff_mul_le (by decide), Nat.mul_comm]
  exact hlength

/-- Two frames in a record list and one behind it. -/
def recordAndFrame : List UInt8 :=
  encodeChunks [.ofList .record (encodeChunks [⟨.ofChars '0' '0' 'd' 'c', [1, 2, 3]⟩,
    ⟨.ofChars '0' '0' 'd' 'c', [4]⟩]), ⟨.ofChars '0' '0' 'd' 'c', []⟩]

theorem scan_recordAndFrame :
    ∃ ix, scan recordAndFrame.toArray 0 42 0 = .ok ix ∧ ix.entries.length = 3 ∧
      InFileOrder ix.entries ∧ (ix.entries.map FrameEntry.offset).Nodup ∧
      ∀ e ∈ ix.entries, 8 ≤ e.offset ∧ e.stop ≤ 42 := by
  have hscan : scan recordAndFrame.toArray 0 42 0 = .ok ⟨[⟨20, 3, .ofBits IndexFlags.keyframe⟩,
      ⟨32, 1, .ofBits IndexFlags.keyframe⟩, ⟨42, 0, .ofBits IndexFlags.keyframe⟩]⟩ := by
    decide +kernel
  have horder : InFileOrder [⟨20, 3, .ofBits IndexFlags.keyframe⟩,
      ⟨32, 1, .ofBits IndexFlags.keyframe⟩, ⟨42, 0, .ofBits IndexFlags.keyframe⟩] := by
    simp [InFileOrder, Before, FrameEntry.stop, ChunkHeader.length]
  obtain ⟨hbounds, hconsequences, _⟩ := scan_inFileOrder_iff hscan
  exact ⟨_, hscan, rfl, horder, (hconsequences horder).1, hbounds⟩

/-- The head of a record list that declares a payload of the given size. -/
def recordHead (size : Nat) : List UInt8 :=
  (FourCc.list.toBytes ++ LittleEndian.ofNat 4 size) ++ FourCc.record.toBytes

@[simp] theorem length_recordHead (size : Nat) : (recordHead size).length = 12 := by
  simp [recordHead]

/-- Frame data with one empty frame inside nested record lists. Every other list declares a payload
that reaches to the end of the data, past the end of the list around it. -/
def doubled : Nat → List UInt8
  | 0 => (Chunk.mk (.ofChars '0' '0' 'd' 'c') []).encode
  | n + 1 => recordHead 16 ++ (recordHead ((doubled n).length + 4) ++ doubled n)

@[simp] theorem length_doubled (n : Nat) : (doubled n).length = 24 * n + 8 := by
  induction n with
  | zero => rfl
  | succ n ih =>
    simp only [doubled, List.length_append, length_recordHead, ih]
    omega

theorem exists_comes_recordHead {file : Bytes} {pos size : Nat} (limit stop : Nat)
    (hfile : Holds file pos (recordHead size)) (hsize : size < UInt32.size)
    (hfit : pos + ChunkHeader.length ≤ min stop limit) :
    ∃ h, Comes file limit pos stop h ∧ h.id = .list ∧ h.readListType file = .ok .record ∧
      h.offset + 4 = pos + 12 ∧ h.stop = pos + 8 + size + size % 2 := by
  obtain ⟨hhead, htype⟩ := holds_append.mp hfile
  refine ⟨_, ⟨hfit, hhead.read_eq⟩, rfl, htype.readListType_eq, rfl, ?_⟩
  have hword : (UInt32.ofNat size).toNat = size :=
    UInt32.toNat_ofNat_of_lt' hsize
  rw [ChunkHeader.stop, hword, ChunkHeader.length]

/-- Each pair of lists is walked twice: as the contents of the first one, and behind it. -/
theorem scanned_doubled {file : Bytes} {limit pos stop : Nat} (n : Nat)
    (hfile : Holds file pos (doubled n)) (hlimit : limit = pos + (24 * n + 8))
    (hstop : limit ≤ stop) (hsmall : 24 * n + 8 < UInt32.size) :
    ∃ rs, Scanned file 0 limit pos stop
      ⟨List.replicate (2 ^ n) ⟨limit, 0, .ofBits IndexFlags.keyframe⟩, false⟩ rs := by
  induction n generalizing pos stop with
  | zero =>
    let c : Chunk := ⟨.ofChars '0' '0' 'd' 'c', []⟩
    have hc : c.WrittenAt file pos := ⟨by decide, hfile⟩
    have hplace : (c.headerAt pos).stop = limit ∧ (c.headerAt pos).offset = limit := by
      simp [c, hc.stop_headerAt, ChunkHeader.length, hlimit]
    have hcomes : Comes file limit pos stop (c.headerAt pos) :=
      ⟨by unfold ChunkHeader.length; omega, hc.read_eq⟩
    have hplain : c.id ≠ .list := by decide
    have hvideo : c.id.isVideoOf 0 := by decide
    have hframe := Scanned.frame hcomes hplain hvideo
      (by rw [hplace.2]; exact Nat.le_refl _) (.done (by unfold ChunkHeader.length; omega))
    rw [entryOfChunk, hplace.2] at hframe
    exact ⟨[], hframe⟩
  | succ n ih =>
    -- the limit is the end of the data for all lists, whatever list they stand in
    obtain ⟨houter, hrest⟩ := holds_append.mp hfile
    obtain ⟨hinner, hbody⟩ := holds_append.mp hrest
    rw [length_recordHead] at hinner hbody
    rw [length_recordHead] at hbody
    rw [length_doubled] at hinner
    obtain ⟨outer, houterComes, houterList, houterType, houterOffset, houterStop⟩ :=
      exists_comes_recordHead limit stop houter (by omega)
        (by unfold ChunkHeader.length; omega)
    obtain ⟨inner, hinnerComes, hinnerList, hinnerType, hinnerOffset, hinnerStop⟩ :=
      exists_comes_recordHead limit (min outer.stop limit) hinner (by omega)
        (by unfold ChunkHeader.length; omega)
    have hinnerEnd : inner.stop = limit := by omega
    obtain ⟨rs, hinside⟩ := ih hbody (by omega) (Nat.le_refl limit) (by omega)
    obtain ⟨ts, hbehind⟩ := ih hbody (by omega) hstop (by omega)
    have hnested := Scanned.record hinnerComes hinnerList hinnerType
      (by rw [hinnerOffset, hinnerEnd, Nat.min_self]; exact hinside) rfl
      (.done (by rw [hinnerEnd]; unfold ChunkHeader.length; omega))
    have houterWalk := Scanned.record houterComes houterList houterType
      (by rw [houterOffset]; exact hnested) rfl
      (by rw [show outer.stop = pos + 12 + 12 by omega]; exact hbehind)
    rw [List.append_nil, ← List.replicate_add, ← Nat.two_mul, ← Nat.pow_succ'] at houterWalk
    exact ⟨_, houterWalk⟩

theorem scan_doubled (n : Nat) (hsmall : 24 * n + 8 < UInt32.size) :
    scan (doubled n).toArray 0 (24 * n + 8) 0 =
      .ok ⟨List.replicate (2 ^ n) ⟨24 * n + 8, 0, .ofBits IndexFlags.keyframe⟩⟩ := by
  have hfile : Holds (doubled n).toArray 0 (doubled n) := holds_toArray [] (doubled n)
  obtain ⟨rs, hrun⟩ := scanned_doubled n hfile (Nat.zero_add _).symm le_rfl hsmall
  rw [scan, scanFrom_eq_ok_iff.mpr ⟨rs, hrun⟩]
  rfl

/-- One chunk is listed sixteen times, more often than the range has room for. -/
theorem scan_doubled_four :
    ∃ ix, scan (doubled 4).toArray 0 104 0 = .ok ix ∧ ¬ InFileOrder ix.entries ∧
      ¬ (ix.entries.map FrameEntry.offset).Nodup ∧
      ¬ ix.entries.length ≤ (104 - 0) / ChunkHeader.length := by
  have hrepeated : ¬ (List.replicate (2 ^ 4) 104).Nodup := by decide
  refine ⟨_, scan_doubled 4 (by decide), ?_, hrepeated, by decide⟩
  exact fun horder => hrepeated (nodup_of_inFileOrder horder)

end FrameIndex

end AviPlayback
