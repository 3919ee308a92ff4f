import AviPlayback.Proofs.Container.OpenClip
import Mathlib.Data.List.TakeWhile

/-!
Reading a clip from its first frame on until a read gives no bytes. Past the last frame a read
gives none, but at an empty frame it gives none either: the reader has received the frames in front
of the first empty one (`readThrough_rewind`), which are all frames only when none is empty.
-/
set_option autoImplicit false

namespace AviPlayback

namespace FrameEntry

def payload (file : Bytes) (e : FrameEntry) : List UInt8 :=
  (file.toList.drop e.offset).take e.size.toNat

def isEmpty (e : FrameEntry) : Bool := e.size.toNat == 0

theorem length_payload {file : Bytes} {e : FrameEntry} (h : e.stop ≤ file.size) :
    (e.payload file).length = e.size.toNat := by
  unfold stop at h
  rw [payload, List.length_take, List.length_drop, Array.length_toList]
  omega

end FrameEntry

namespace Clip

theorem position_lt_of_readFrame {c d : Clip} {buffer received : Bytes} {n : Nat}
    (h : c.readFrame buffer = (.ok (n + 1), received, d)) :
    c.position < c.frameCount ∧ d = { c with position := c.position + 1 } := by
  unfold readFrame at h
  rcases c.nextFrame_cases buffer.size with hnext | ⟨_, hnext⟩ | ⟨hposition, _, hnext⟩
  · simp [hnext] at h
  · simp [hnext] at h
  · rw [hnext] at h
    exact ⟨hposition, (congrArg (fun r => r.2.2) h).symm⟩

/-- Reads frames into a buffer until a read gives no bytes or fails. Gives the frames received,
how the last read ended, and the clip after it. -/
def readThrough (c : Clip) (buffer : Bytes) :
    List (List UInt8) × Except ContainerFault Nat × Clip :=
  match _h : c.readFrame buffer with
  | (.ok (n + 1), received, d) =>
    let (frames, last, d) := d.readThrough received
    (received.toList.take (n + 1) :: frames, last, d)
  | (last, _, d) => ([], last, d)
termination_by c.frameCount - c.position
decreasing_by
  obtain ⟨hposition, rfl⟩ := position_lt_of_readFrame _h
  change c.frameCount - (c.position + 1) < c.frameCount - c.position
  omega

/-- A read that gives no bytes is the last one. -/
theorem readThrough_of_zero {c d : Clip} {buffer received : Bytes}
    (h : c.readFrame buffer = (.ok 0, received, d)) : c.readThrough buffer = ([], .ok 0, d) := by
  rw [readThrough]
  split
  · next heq =>
    rw [h] at heq
    cases heq
  · next heq =>
    rw [h] at heq
    cases heq
    rfl

/-- A read that gives bytes is followed by the others. -/
theorem readThrough_of_pos {c d : Clip} {buffer received : Bytes} {n : Nat}
    (h : c.readFrame buffer = (.ok n, received, d)) (hn : n ≠ 0) :
    c.readThrough buffer =
      (received.toList.take n :: (d.readThrough received).1, (d.readThrough received).2) := by
  obtain ⟨m, rfl⟩ := Nat.exists_eq_succ_of_ne_zero hn
  rw [readThrough]
  split
  · next heq =>
    rw [h] at heq
    cases heq
    rfl
  · next hno heq =>
    rw [h] at heq
    cases heq
    exact (hno m rfl).elim

/-- One read of a frame, whatever the buffer held before. -/
theorem readFrame_eq_payload {c : Clip} (hc : c.Playable) {buffer : Bytes} {e : FrameEntry}
    (he : c.index.entries[c.position]? = some e) (hbuffer : c.maxFrameSize ≤ buffer.size) :
    ∃ received : Bytes, received.size = buffer.size ∧
      received.toList.take e.size.toNat = e.payload c.file ∧
      c.readFrame buffer = (.ok e.size.toNat, received, { c with position := c.position + 1 }) := by
  obtain ⟨hposition, rfl⟩ := List.getElem?_eq_some_iff.mp he
  have hsize := FrameIndex.size_le_maxFrameSize (List.getElem_mem hposition)
  have hfits : c.index.entries[c.position].size.toNat ≤ buffer.size := Nat.le_trans hsize hbuffer
  obtain ⟨received, ⟨hstop, hreceived⟩, hread⟩ := readFrame_of_le hc hposition hfits
  have hlength := FrameEntry.length_payload hstop
  have hbytes : received.toList = c.index.entries[c.position].payload c.file ++
      buffer.toList.drop c.index.entries[c.position].size.toNat := hreceived
  refine ⟨received, ?_, ?_, hread⟩
  · rw [← Array.length_toList, hbytes, List.length_append, List.length_drop, hlength,
      Array.length_toList]
    omega
  · rw [hbytes, List.take_append_of_le_length (Nat.le_of_eq hlength.symm)]
    exact List.take_of_length_le (Nat.le_of_eq hlength)

/-- From any frame on, the frames in front of the next empty one are received. -/
theorem readThrough_eq {c : Clip} (hc : c.Playable) {buffer : Bytes}
    (hbuffer : c.maxFrameSize ≤ buffer.size) {rest : List FrameEntry}
    (hrest : c.index.entries.drop c.position = rest) :
    c.readThrough buffer =
      ((rest.takeWhile (! ·.isEmpty)).map (·.payload c.file), .ok 0, { c with
        position := min c.frameCount (c.position + (rest.takeWhile (! ·.isEmpty)).length + 1) }) := by
  induction rest generalizing c buffer with
  | nil =>
    have hend : c.position = c.frameCount :=
      Nat.le_antisymm hc.position_le (List.drop_eq_nil_iff.mp hrest)
    have hlast : { c with position := c.frameCount } = c := by rw [← hend]
    rw [readThrough_of_zero (readFrame_at_end buffer hend)]
    simp [hend, hlast]
  | cons e rest ih =>
    have he : c.index.entries[c.position]? = some e := by
      rw [← List.head?_drop, hrest, List.head?_cons]
    have hposition : c.position < c.frameCount := (List.getElem?_eq_some_iff.mp he).1
    obtain ⟨received, hsize, hbytes, hread⟩ := readFrame_eq_payload hc he hbuffer
    by_cases hempty : e.isEmpty
    · -- the empty frame is passed over, but reads as the end
      have hzero : e.size.toNat = 0 := by simpa [FrameEntry.isEmpty] using hempty
      rw [hzero] at hread
      rw [readThrough_of_zero hread]
      simp [hempty, Nat.min_eq_right hposition]
    · have hpos : e.size.toNat ≠ 0 := by simpa [FrameEntry.isEmpty] using hempty
      have hnext := ih (c := { c with position := c.position + 1 })
        ⟨hc.stop_le, hposition⟩ (hsize ▸ hbuffer) (by rw [← List.drop_drop, hrest]; rfl)
      rw [readThrough_of_pos hread hpos, hnext, hbytes]
      simp only [hempty, Bool.not_false, List.takeWhile_cons_of_pos, List.map_cons,
        List.length_cons, Prod.mk.injEq, true_and]
      congr 2
      omega

theorem length_takeWhile_eq_iff (entries : List FrameEntry) :
    (entries.takeWhile (! ·.isEmpty)).length = entries.length ↔
      ∀ e ∈ entries, e.isEmpty = false := by
  have hself : entries.takeWhile (! ·.isEmpty) = entries ↔ ∀ e ∈ entries, e.isEmpty = false := by
    simp
  rw [← hself]
  exact ⟨(List.takeWhile_prefix _).eq_of_length, congrArg List.length⟩

/-- Reading gives no bytes past the last frame and at an empty frame, and nowhere else. -/
theorem readFrame_eq_zero_iff {c : Clip} (hc : c.Playable) {buffer : Bytes}
    (hbuffer : c.maxFrameSize ≤ buffer.size) :
    (c.readFrame buffer).1 = .ok 0 ↔
      c.position = c.frameCount ∨ ∃ e ∈ c.index.entries[c.position]?, e.isEmpty := by
  rcases Nat.lt_or_eq_of_le hc.position_le with hposition | hend
  · have he : c.index.entries[c.position]? = some c.index.entries[c.position] :=
      List.getElem?_eq_getElem hposition
    obtain ⟨received, _, _, hread⟩ := readFrame_eq_payload hc he hbuffer
    simp [hread, he, FrameEntry.isEmpty, Nat.ne_of_lt hposition]
  · simp [readFrame_at_end buffer hend, hend]

/-- An opened clip, read from the start into a buffer for its largest frame until a read gives no
bytes, whatever calls came before. The frames in front of the first empty one are received in
order, and these are all frames exactly when none is empty. -/
theorem readThrough_rewind {file : Bytes} {opened : Clip} (h : ofBytes file = .ok opened)
    {buffer : Bytes} (hbuffer : opened.maxFrameSize ≤ buffer.size) (calls : List Call) (c : Clip)
    (hc : c = calls.foldl after opened) :
    (∃ frames last, c.rewind.readThrough buffer = (frames, .ok 0, last) ∧
      frames = (opened.index.entries.takeWhile (! ·.isEmpty)).map (·.payload file) ∧
      (frames.length = opened.frameCount ↔ ∀ e ∈ opened.index.entries, e.isEmpty = false)) ∧
    ((c.readFrame buffer).1 = .ok 0 ↔
      c.position = opened.frameCount ∨ ∃ e ∈ opened.index.entries[c.position]?, e.isEmpty) := by
  have hplayable := playable_of_ofBytes h
  obtain ⟨p, hp, hrun⟩ := foldl_after_eq hplayable.position_le calls
  rw [hrun] at hc
  subst hc
  constructor
  · have hthrough := readThrough_eq (c := { opened with position := 0 })
      ⟨hplayable.stop_le, Nat.zero_le _⟩ hbuffer rfl
    refine ⟨_, _, hthrough, ?_, ?_⟩
    · rw [List.drop_zero, ← file_of_ofBytes h]
    · rw [List.drop_zero, List.length_map]
      exact length_takeWhile_eq_iff opened.index.entries
  · exact readFrame_eq_zero_iff (c := { opened with position := p }) ⟨hplayable.stop_le, hp⟩ hbuffer

end Clip

/-- A small file whose second frame of three was dropped when it was written. -/
def FileLayout.dropped : FileLayout where
  main := List.replicate 40 0
  streams := [pictures]
  chunks := [⟨.ofChars '0' '0' 'd' 'b', [7, 8, 9]⟩, ⟨.ofChars '0' '0' 'd' 'b', []⟩,
    ⟨.ofChars '0' '0' 'd' 'b', [4, 5, 6]⟩]
  index := none

namespace Clip

theorem exists_open_dropped :
    ∃ opened, ofBytes FileLayout.dropped.bytes = .ok opened ∧ opened.frameCount = 3 ∧
      (opened.index.entries.takeWhile (! ·.isEmpty)).map (·.payload FileLayout.dropped.bytes) =
        [[7, 8, 9]] := by
  have hdropped : (ofBytes FileLayout.dropped.bytes).toOption.map (fun c => (c.frameCount,
      (c.index.entries.takeWhile (! ·.isEmpty)).map (·.payload FileLayout.dropped.bytes))) =
      some (3, [[7, 8, 9]]) := by
    decide +kernel
  cases hopen : ofBytes FileLayout.dropped.bytes with
  | error fault => simp [hopen, Except.toOption] at hdropped
  | ok opened =>
    refine ⟨opened, rfl, ?_⟩
    simpa [hopen, Except.toOption] using hdropped

theorem readThrough_dropped :
    ∃ opened, ofBytes FileLayout.dropped.bytes = .ok opened ∧
      opened.maxFrameSize ≤ (Array.replicate opened.maxFrameSize (0 : UInt8)).size ∧
      ∃ last, opened.rewind.readThrough (Array.replicate opened.maxFrameSize 0) =
        ([[7, 8, 9]], .ok 0, last) := by
  obtain ⟨opened, hopen, _, hfront⟩ := exists_open_dropped
  have hbuffer : opened.maxFrameSize ≤ (Array.replicate opened.maxFrameSize (0 : UInt8)).size := by
    simp
  obtain ⟨⟨frames, last, hthrough, hframes, _⟩, _⟩ :=
    readThrough_rewind hopen hbuffer [] opened rfl
  exact ⟨opened, hopen, hbuffer, last, by rw [← hfront, ← hframes]; exact hthrough⟩

/-- The dropped frame in the middle reads as the end of its clip: of three frames the reader has
received one when a read gives no bytes, and the last frame is still to come. -/
theorem readThrough_stops_inside :
    ∃ opened last, ofBytes FileLayout.dropped.bytes = .ok opened ∧ opened.frameCount = 3 ∧
      opened.rewind.readThrough (Array.replicate opened.maxFrameSize 0) =
        ([[7, 8, 9]], .ok 0, last) ∧ last.position = 2 := by
  obtain ⟨opened, hopen, hcount, hfront⟩ := exists_open_dropped
  have hone := congrArg List.length hfront
  rw [List.length_map, List.length_singleton] at hone
  have hbuffer : opened.rewind.maxFrameSize ≤
      (Array.replicate opened.maxFrameSize (0 : UInt8)).size := by
    simp [rewind, maxFrameSize]
  have hrest : opened.rewind.index.entries.drop opened.rewind.position = opened.index.entries := rfl
  have hthrough := readThrough_eq (c := opened.rewind)
    ⟨(playable_of_ofBytes hopen).stop_le, Nat.zero_le _⟩ hbuffer hrest
  have hfile : opened.rewind.file = opened.file := rfl
  rw [hfile, file_of_ofBytes hopen, hfront, hone] at hthrough
  refine ⟨opened, _, hopen, hcount, hthrough, ?_⟩
  change min opened.frameCount 2 = 2
  rw [hcount]
  rfl

end Clip

end AviPlayback
