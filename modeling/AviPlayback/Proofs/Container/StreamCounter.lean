import AviPlayback.Proofs.Container.CheckedOpening
import AviPlayback.Proofs.Container.HeaderRoundTrip
import AviPlayback.Proofs.Container.Tiling

/-!
The counter of the streams. Opening a file takes one sum that can overflow: the streams of a header
list are counted in 16 bits. Every other sum fits, and this one does unless the reading comes to a
stream list with 65535 others before it in its header list (`Clip.ofBytesChecked_spec`).
-/
set_option autoImplicit false

namespace AviPlayback

variable {α β σ : Type}

/-- A checked reading overflows the counter of the streams when `P` holds, and gives what the
unchecked one gives when it does not. -/
def Gives (P : Prop) (x : Checked α) (y : Except ContainerFault α) : Prop :=
  (P → x = .error (.overflow .streamCount)) ∧ (¬ P → x = Checked.of y)

namespace Gives

variable {P P' : Prop} {x : Checked α} {y : Except ContainerFault α}

theorem of_eq (hP : ¬ P) (h : x = Checked.of y) : Gives P x y :=
  ⟨fun h' => (hP h').elim, fun _ => h⟩

theorem congr (h : Gives P x y) (hP : P ↔ P') : Gives P' x y :=
  ⟨fun h' => h.1 (hP.mpr h'), fun h' => h.2 fun h'' => h' (hP.mp h'')⟩

/-- What comes next overflows where the unchecked reading comes to it. -/
theorem bind {f : α → Checked β} {g : α → Except ContainerFault β} {Q : α → Prop}
    (h : Gives P x y) (hf : ∀ a, y = .ok a → Gives (Q a) (f a) (g a)) :
    Gives (P ∨ ∃ a, y = .ok a ∧ Q a) (x >>= f) (y >>= g) := by
  constructor
  · rintro (hP | ⟨a, rfl, hQ⟩)
    · rw [h.1 hP]
      rfl
    · by_cases hP : P
      · rw [h.1 hP]
        rfl
      · rw [h.2 hP]
        exact (hf a rfl).1 hQ
  · intro hnot
    rw [h.2 fun hP => hnot (.inl hP), Checked.of_bind]
    cases y with
    | error fault => rfl
    | ok a => exact (hf a rfl).2 fun hQ => hnot (.inr ⟨a, rfl, hQ⟩)

/-- What comes next may take no sum that overflows. -/
theorem bind_of {f : α → Checked β} {g : α → Except ContainerFault β} (h : Gives P x y)
    (hf : ∀ a, y = .ok a → f a = Checked.of (g a)) : Gives P (x >>= f) (y >>= g) :=
  (h.bind fun a ha => of_eq (P := False) id (hf a ha)).congr (by simp)

end Gives

/-- A fold comes to a header of which something holds, given what the fold has gathered so far. -/
def Reaches (f : σ → ChunkHeader → Except ContainerFault σ) (hit : σ → ChunkHeader → Prop) (s : σ)
    (headers : List ChunkHeader) : Prop :=
  ∃ front h rest t, headers = front ++ h :: rest ∧ front.foldlM f s = .ok t ∧ hit t h

section Fold

variable {g : σ → ChunkHeader → Except ContainerFault σ} {hit : σ → ChunkHeader → Prop}

theorem not_reaches_nil (s : σ) : ¬ Reaches g hit s [] := by
  rintro ⟨front, h, rest, t, hnil, -⟩
  cases front <;> cases hnil

/-- A fold comes to its first header at once, and to the others when it gets past the first one. -/
theorem reaches_cons {s : σ} {h : ChunkHeader} {rest : List ChunkHeader} :
    Reaches g hit s (h :: rest) ↔ hit s h ∨ ∃ t, g s h = .ok t ∧ Reaches g hit t rest := by
  constructor
  · rintro ⟨front, h', rest', t, hsplit, hfold, hhit⟩
    cases front with
    | nil =>
      cases hsplit
      cases hfold
      exact .inl hhit
    | cons first front =>
      cases hsplit
      rw [List.foldlM_cons] at hfold
      obtain ⟨m, hm, hfold⟩ := bind_eq_ok_iff.mp hfold
      exact .inr ⟨m, hm, front, h', rest', t, rfl, hfold, hhit⟩
  · rintro (hhit | ⟨m, hm, front, h', rest', t, rfl, hfold, hhit⟩)
    · exact ⟨[], h, rest, s, rfl, rfl, hhit⟩
    · refine ⟨h :: front, h', rest', t, rfl, ?_, hhit⟩
      rw [List.foldlM_cons, hm, ok_bind, hfold]

/-- One step of a fold, from the header that it reads. -/
theorem foldChunks_eq_bind (file : Bytes) (pos stop : Nat) (s : σ) :
    foldChunks file pos stop s g =
      if stop < pos + ChunkHeader.length then .ok s
      else ChunkHeader.read file pos >>= fun h =>
        g s h >>= fun t => foldChunks file h.stop stop t g := by
  by_cases hshort : stop < pos + ChunkHeader.length
  · have hwalk : walk file pos stop = ([], none) := by rw [walk, dif_pos hshort]
    rw [if_pos hshort, foldChunks, hwalk]
    rfl
  rw [if_neg hshort]
  have hfit := Nat.not_lt.mp hshort
  cases hread : ChunkHeader.read file pos with
  | error fault =>
    rw [foldChunks, walk_of_fault hfit hread]
    rfl
  | ok h =>
    unfold foldChunks
    rw [walk_of_read hfit hread, ok_bind]
    dsimp only
    rw [List.foldlM_cons]
    cases g s h <;> rfl

variable {f : σ → ChunkHeader → Checked σ}

theorem Checked.foldChunks_eq_bind {file : Bytes} (hsize : file.size < bufferLimit) {pos : Nat}
    (hpos : pos ≤ file.size + UInt32.size) (stop : Nat) (s : σ) :
    Checked.foldChunks file stop f pos s =
      if stop < pos + ChunkHeader.length then .ok s
      else of (ChunkHeader.read file pos) >>= fun h =>
        fits h.stop >>= fun _ => f s h >>= fun t => Checked.foldChunks file stop f h.stop t := by
  rw [Checked.foldChunks, fits_header hsize hpos, ok_bind]
  split
  · rfl
  · split
    · next hread =>
      rw [hread]
      rfl
    · next hread =>
      rw [hread]
      rfl

/-- The checked fold overflows where the unchecked one comes to a header whose step overflows. No
place on the way there does. -/
theorem gives_foldChunks {file : Bytes} (hsize : file.size < bufferLimit) {pos : Nat}
    (hpos : pos ≤ file.size + UInt32.size) (stop : Nat)
    (hstep : ∀ s h, h.offset ≤ file.size → Gives (hit s h) (f s h) (g s h)) (s : σ) :
    Gives (Reaches g hit s (walk file pos stop).1) (Checked.foldChunks file stop f pos s)
      (foldChunks file pos stop s g) := by
  fun_induction walk file pos stop generalizing s with
  | case1 pos hshort =>
    rw [Checked.foldChunks_eq_bind hsize hpos, foldChunks_eq_bind, if_pos hshort, if_pos hshort]
    exact .of_eq (not_reaches_nil s) rfl
  | case2 pos hfit fault hread =>
    rw [Checked.foldChunks_eq_bind hsize hpos, foldChunks_eq_bind, if_neg hfit, if_neg hfit, hread]
    exact .of_eq (not_reaches_nil s) rfl
  | case3 pos hfit h hread rest ih =>
    have hinside := ChunkHeader.length_le_of_read hread
    have hoffset := ChunkHeader.offset_of_read hread
    have hstop := ChunkHeader.stop_le_of_offset_le (show h.offset ≤ file.size by omega)
    rw [Checked.foldChunks_eq_bind hsize hpos, foldChunks_eq_bind, if_neg hfit, if_neg hfit, hread,
      Checked.of_ok, ok_bind, ok_bind, fits_of_le hsize hstop, ok_bind]
    exact ((hstep s h (by omega)).bind fun t _ => ih hstop t).congr reaches_cons.symm

end Fold

/-! ### Header lists -/

/-- No sum of a stream list overflows. -/
theorem StreamList.readChecked_eq {file : Bytes} (hsize : file.size < bufferLimit) {pos : Nat}
    (hpos : pos ≤ file.size + UInt32.size) (stop : Nat) :
    readChecked file pos stop = Checked.of (read file pos stop) := by
  have hstep (s : StreamList) (h : ChunkHeader) (_ : h.offset ≤ file.size) :
      Gives False (Checked.of (add file stop s h)) (add file stop s h) := .of_eq id rfl
  refine (gives_foldChunks hsize hpos stop hstep ⟨none, none⟩).2 ?_
  rintro ⟨_, _, _, _, _, _, hhit⟩
  exact hhit

theorem StreamList.number_of_video? (s : StreamList) {number : UInt16} {found : Option VideoStream}
    {v : VideoStream} (h : s.video? number = .ok found) (hv : v ∈ found) : v.number = number := by
  unfold video? at h
  split at h
  · cases h
    cases hv
  split at h
  · split at h
    · next payload _ =>
      cases hparse : BitmapInfo.parse payload with
      | error fault =>
        rw [hparse] at h
        cases h
      | ok format =>
        rw [hparse] at h
        cases h
        cases hv
        rfl
    · cases h
  · cases h
    cases hv

namespace HeaderList

variable {file : Bytes} {stop : Nat} {l t : HeaderList} {h : ChunkHeader}

def isStreamList (file : Bytes) (h : ChunkHeader) : Bool :=
  h.id == .list && (h.readListType file).toOption == some .strl

/-- Reading a header list comes to a stream list with as many others before it as 16 bits can
count. -/
def Overfull (file : Bytes) (pos stop : Nat) : Prop :=
  ∃ front h rest l, (walk file pos stop).1 = front ++ h :: rest ∧
    front.foldlM (add file stop) ⟨none, none, 0⟩ = .ok l ∧ isStreamList file h ∧
      front.countP (isStreamList file) = 65535

theorem gives_addStream (hsize : file.size < bufferLimit) (hoffset : h.offset ≤ file.size) :
    Gives (l.count.toNat = 65535) (addStreamChecked file stop l h) (addStream file stop l h) := by
  constructor
  · intro hfull
    have hnext : Checked.next l.count = .error (.overflow .streamCount) :=
      if_neg (by rw [hfull]; decide)
    rw [addStreamChecked, hnext]
    rfl
  · intro hroom
    have hlt := l.count.toNat_lt
    have hnext : Checked.next l.count = .ok (l.count + 1) :=
      if_pos (by unfold UInt16.size; omega)
    have hstop := ChunkHeader.stop_le_of_offset_le hoffset
    have hfirst := first_le_of_offset_le hoffset
    rw [addStreamChecked, hnext, ok_bind, addStream]
    dsimp only
    split
    · rfl
    · rw [fits_of_le hsize hstop, ok_bind, fits_of_le hsize hfirst, ok_bind,
        StreamList.readChecked_eq hsize hfirst, Checked.of_bind]
      cases StreamList.read file (h.offset + 4) (min h.stop stop) with
      | error fault => rfl
      | ok streams =>
        rw [Checked.of_ok, ok_bind, ok_bind, Checked.of_bind]
        rfl

theorem gives_add (hsize : file.size < bufferLimit) (hoffset : h.offset ≤ file.size) :
    Gives (isStreamList file h ∧ l.count.toNat = 65535) (addChecked file stop l h)
      (add file stop l h) := by
  have hother : FourCc.list ≠ .avih := by decide
  unfold addChecked
  by_cases hlist : h.id = .list
  · rw [if_pos hlist, add, hlist, if_neg hother, if_pos rfl]
    cases htype : h.readListType file with
    | error fault =>
      refine .of_eq ?_ rfl
      rintro ⟨hstream, -⟩
      simp [isStreamList, htype, Except.toOption] at hstream
    | ok type =>
      rw [Checked.of_ok, ok_bind, ok_bind]
      have hstream : isStreamList file h ↔ type = .strl := by
        simp [isStreamList, hlist, htype, Except.toOption]
      rw [hstream]
      split
      · next htype =>
        exact (gives_addStream hsize hoffset).congr (iff_and_self.mpr fun _ => htype)
      · next htype =>
        exact .of_eq (fun h => htype h.1) rfl
  · rw [if_neg hlist]
    refine .of_eq ?_ rfl
    rintro ⟨hstream, -⟩
    simp [isStreamList, hlist] at hstream

theorem addStream_cases (hadd : addStream file stop l h = .ok t) :
    t.count = l.count + 1 ∧ ∀ v ∈ t.video, v ∈ l.video ∨ v.number = l.count := by
  unfold addStream at hadd
  dsimp only at hadd
  split at hadd
  · cases hadd
    exact ⟨rfl, fun v hv => .inl hv⟩
  · obtain ⟨streams, -, hadd⟩ := bind_eq_ok_iff.mp hadd
    obtain ⟨video, hvideo, hadd⟩ := bind_eq_ok_iff.mp hadd
    cases hadd
    exact ⟨rfl, fun v hv => .inr (streams.number_of_video? hvideo hv)⟩

/-- A chunk of a header list is counted, and may give the video stream, when it describes a
stream. -/
theorem add_cases (hadd : add file stop l h = .ok t) :
    (¬ isStreamList file h ∧ t.count = l.count ∧ t.video = l.video) ∨
      (isStreamList file h ∧ t.count = l.count + 1 ∧
        ∀ v ∈ t.video, v ∈ l.video ∨ v.number = l.count) := by
  unfold add at hadd
  split at hadd
  · next hmain =>
    have hne : FourCc.avih ≠ .list := by decide
    obtain ⟨payload, -, hadd⟩ := bind_eq_ok_iff.mp hadd
    obtain ⟨main, -, hadd⟩ := bind_eq_ok_iff.mp hadd
    cases hadd
    exact .inl ⟨by simp [isStreamList, hmain, hne], rfl, rfl⟩
  split at hadd
  · next hlist =>
    obtain ⟨type, htype, hadd⟩ := bind_eq_ok_iff.mp hadd
    split at hadd
    · next hstrl =>
      have hstream : isStreamList file h := by
        simp [isStreamList, hlist, htype, hstrl, Except.toOption]
      exact .inr ⟨hstream, addStream_cases hadd⟩
    · next hstrl =>
      cases hadd
      exact .inl ⟨by simp [isStreamList, htype, hstrl, Except.toOption], rfl, rfl⟩
  · next hlist =>
    cases hadd
    exact .inl ⟨by simp [isStreamList, hlist], rfl, rfl⟩

/-- The counter counts the stream lists, up to 16 bits. -/
theorem count_of_foldlM {headers : List ChunkHeader}
    (hfold : headers.foldlM (add file stop) l = .ok t) :
    t.count = l.count + UInt16.ofNat (headers.countP (isStreamList file)) := by
  induction headers generalizing l with
  | nil =>
    cases hfold
    simp
  | cons h headers ih =>
    rw [List.foldlM_cons] at hfold
    obtain ⟨m, hm, hfold⟩ := bind_eq_ok_iff.mp hfold
    rw [ih hfold]
    obtain ⟨hother, hcount, -⟩ | ⟨hstream, hcount, -⟩ := add_cases hm
    · rw [hcount, List.countP_cons_of_neg hother]
    · rw [hcount, List.countP_cons_of_pos hstream, UInt16.add_assoc, Nat.add_comm,
        UInt16.ofNat_add]
      rfl

/-- The video stream gets what the counter shows where its stream list stands. -/
theorem number_of_foldlM {headers : List ChunkHeader} {v : VideoStream}
    (hfold : headers.foldlM (add file stop) l = .ok t) (hnone : l.video = none)
    (hv : t.video = some v) :
    ∃ front h rest, headers = front ++ h :: rest ∧ isStreamList file h ∧
      v.number = l.count + UInt16.ofNat (front.countP (isStreamList file)) := by
  -- what the last chunk does not give, the chunks in front of it gave
  induction headers using List.reverseRecOn generalizing t with
  | nil =>
    cases hfold
    rw [hnone] at hv
    cases hv
  | append_singleton headers h ih =>
    rw [List.foldlM_append] at hfold
    obtain ⟨m, hm, hlast⟩ := bind_eq_ok_iff.mp hfold
    rw [List.foldlM_cons] at hlast
    obtain ⟨_, hadd, hnil⟩ := bind_eq_ok_iff.mp hlast
    cases hnil
    have hearlier (hv : m.video = some v) : ∃ front h' rest, headers ++ [h] = front ++ h' :: rest ∧
        isStreamList file h' ∧
          v.number = l.count + UInt16.ofNat (front.countP (isStreamList file)) := by
      obtain ⟨front, h', rest, rfl, hfound⟩ := ih hm hv
      exact ⟨front, h', rest ++ [h], by simp, hfound⟩
    obtain ⟨-, -, hsame⟩ | ⟨hstream, -, hnumber⟩ := add_cases hadd
    · exact hearlier (hsame ▸ hv)
    · obtain hv | hnumber := hnumber v hv
      · exact hearlier hv
      · exact ⟨headers, h, [], rfl, hstream, by rw [hnumber, count_of_foldlM hm]⟩

/-- Streams are counted and numbered modulo 65536. -/
theorem counted_of_read {pos : Nat} (hread : read file pos stop = .ok l) :
    l.count.toNat = (walk file pos stop).1.countP (isStreamList file) % 65536 ∧
      ∀ v ∈ l.video, ∃ front h rest, (walk file pos stop).1 = front ++ h :: rest ∧
        isStreamList file h ∧ v.number.toNat = front.countP (isStreamList file) % 65536 := by
  obtain ⟨headers, hwalk, hfold⟩ := foldChunks_eq_ok hread
  rw [hwalk]
  constructor
  · rw [count_of_foldlM hfold, UInt16.zero_add, UInt16.toNat_ofNat']
  · intro v hv
    obtain ⟨front, h, rest, hsplit, hstream, hnumber⟩ := number_of_foldlM hfold rfl hv
    refine ⟨front, h, rest, hsplit, hstream, ?_⟩
    rw [hnumber, UInt16.zero_add, UInt16.toNat_ofNat']

end HeaderList

/-- Somewhere in a list comes the element with exactly `n` others before it that satisfy a test. -/
theorem exists_split_of_lt_countP {p : α → Bool} {l : List α} {n : Nat} (h : n < l.countP p) :
    ∃ front a rest, l = front ++ a :: rest ∧ p a ∧ front.countP p = n := by
  induction l generalizing n with
  | nil => cases h
  | cons a l ih =>
    rw [List.countP_cons] at h
    by_cases ha : p a
    · cases n with
      | zero => exact ⟨[], a, l, rfl, ha, rfl⟩
      | succ n =>
        rw [if_pos ha] at h
        obtain ⟨front, b, rest, rfl, hb, hcount⟩ := ih (Nat.lt_of_succ_lt_succ h)
        exact ⟨a :: front, b, rest, rfl, hb, by rw [List.countP_cons_of_pos ha, hcount]⟩
    · rw [if_neg ha] at h
      obtain ⟨front, b, rest, rfl, hb, hcount⟩ := ih h
      exact ⟨a :: front, b, rest, rfl, hb, by rw [List.countP_cons_of_neg ha, hcount]⟩

namespace HeaderList

variable {file : Bytes} {pos stop : Nat}

/-- The counter is full for the first time where 65535 stream lists have been counted. -/
theorem reaches_iff_overfull :
    Reaches (add file stop) (fun l h => isStreamList file h ∧ l.count.toNat = 65535) ⟨none, none, 0⟩
      (walk file pos stop).1 ↔ Overfull file pos stop := by
  constructor
  · rintro ⟨front, h, rest, l, hsplit, hfold, hstream, hfull⟩
    rw [count_of_foldlM hfold, UInt16.zero_add, UInt16.toNat_ofNat'] at hfull
    rcases Nat.lt_or_ge 65535 (front.countP (isStreamList file)) with hmore | hle
    · -- the counter has been full before
      obtain ⟨first, h', behind, rfl, hstream', hcount⟩ := exists_split_of_lt_countP hmore
      rw [List.foldlM_append] at hfold
      obtain ⟨m, hm, -⟩ := bind_eq_ok_iff.mp hfold
      rw [List.append_assoc, List.cons_append] at hsplit
      exact ⟨first, h', _, m, hsplit, hm, hstream', hcount⟩
    · exact ⟨front, h, rest, l, hsplit, hfold, hstream, by omega⟩
  · rintro ⟨front, h, rest, l, hsplit, hfold, hstream, hcount⟩
    refine ⟨front, h, rest, l, hsplit, hfold, hstream, ?_⟩
    rw [count_of_foldlM hfold, hcount]
    rfl

theorem gives_read (hsize : file.size < bufferLimit) (hpos : pos ≤ file.size + UInt32.size) :
    Gives (Overfull file pos stop) (readChecked file pos stop) (read file pos stop) :=
  (gives_foldChunks hsize hpos stop (fun _ _ hoffset => gives_add hsize hoffset) _).congr
    reaches_iff_overfull

/-- An overfull header list has eight bytes for each of its stream lists. -/
theorem Overfull.length_le (h : Overfull file pos stop) :
    65536 * ChunkHeader.length ≤ stop - pos := by
  obtain ⟨front, h, rest, l, hsplit, -, -, hcount⟩ := h
  have htiles := (tiling_walk file pos stop).1.length_le
  have hcounted : 65535 ≤ front.length := hcount ▸ List.countP_le_length
  rw [hsplit, List.length_append, List.length_cons] at htiles
  unfold ChunkHeader.length at *
  omega

end HeaderList

/-! ### Whole files -/

/-- A chunk of the top level is an overfull header list. -/
def IsOverfull (file : Bytes) (stop : Nat) (h : ChunkHeader) : Prop :=
  h.id = .list ∧ h.readListType file = .ok .hdrl ∧
    HeaderList.Overfull file (h.offset + 4) (min h.stop stop)

/-- Opening a file comes to an overfull header list. -/
def TooManyStreams (file : Bytes) : Prop :=
  ∃ riff, Clip.readRiff file = .ok (riff, .avi) ∧
    Reaches (TopLevel.add file (bodyLimit file)) (fun _ h => IsOverfull file (bodyLimit file) h)
      ⟨none, none, none, none⟩ (topHeaders file)

variable {file : Bytes}

theorem bodyLimit_le (file : Bytes) : bodyLimit file ≤ file.size := by
  unfold bodyLimit
  split
  · exact Nat.min_le_right _ _
  · exact Nat.zero_le _

/-- So many stream lists need a file of half a megabyte. -/
theorem TooManyStreams.size_le (h : TooManyStreams file) :
    65536 * ChunkHeader.length ≤ file.size := by
  obtain ⟨riff, -, front, h, rest, t, -, -, -, -, hfull⟩ := h
  have hlength := hfull.length_le
  have hlimit := bodyLimit_le file
  omega

theorem TopLevel.gives_add (hsize : file.size < bufferLimit) {stop : Nat} {t : TopLevel}
    {h : ChunkHeader} (hoffset : h.offset ≤ file.size) :
    Gives (IsOverfull file stop h) (addChecked file stop t h) (add file stop t h) := by
  have hstop := ChunkHeader.stop_le_of_offset_le hoffset
  have hfirst := first_le_of_offset_le hoffset
  unfold addChecked
  by_cases hlist : h.id = .list
  · rw [if_pos hlist]
    cases htype : h.readListType file with
    | error fault =>
      rw [add, if_pos hlist, htype]
      refine .of_eq ?_ rfl
      rintro ⟨-, hhdrl, -⟩
      rw [htype] at hhdrl
      cases hhdrl
    | ok type =>
      rw [Checked.of_ok, ok_bind, fits_of_le hsize hstop, ok_bind]
      by_cases hhdrl : type = .hdrl
      · subst hhdrl
        rw [if_pos rfl, fits_of_le hsize hfirst, ok_bind, add, if_pos hlist,
          htype, ok_bind]
        dsimp only
        rw [if_pos rfl]
        refine Gives.congr (Gives.bind_of (HeaderList.gives_read hsize hfirst) ?_) ?_
        · exact fun _ _ => rfl
        · simp [IsOverfull, hlist, htype]
      · rw [if_neg hhdrl]
        refine .of_eq ?_ rfl
        rintro ⟨-, hsame, -⟩
        exact hhdrl (Except.ok.inj (htype.symm.trans hsame))
  · rw [if_neg hlist]
    exact .of_eq (fun h => hlist h.1) rfl

theorem TopLevel.gives_read (hsize : file.size < bufferLimit) {pos : Nat}
    (hpos : pos ≤ file.size + UInt32.size) (stop : Nat) :
    Gives (Reaches (add file stop) (fun _ h => IsOverfull file stop h) ⟨none, none, none, none⟩
        (walk file pos stop).1)
      (readChecked file pos stop) (read file pos stop) :=
  gives_foldChunks hsize hpos stop (fun _ _ hoffset => gives_add hsize hoffset) _

/-- Opening a file overflows the counter of the streams in files with too many of them, and takes no
other sum that overflows. -/
theorem gives_ofBytes (hsize : file.size < bufferLimit) :
    Gives (TooManyStreams file) (Clip.ofBytesChecked file) (Clip.ofBytes file) := by
  unfold Clip.ofBytesChecked
  rw [Clip.ofBytes_eq_bind]
  cases hriff : Clip.readRiff file with
  | error fault =>
    refine .of_eq ?_ rfl
    rintro ⟨riff, hread, -⟩
    rw [hriff] at hread
    cases hread
  | ok r =>
    obtain ⟨riff, form⟩ := r
    rw [Checked.of_ok, ok_bind, ok_bind]
    dsimp only
    by_cases hform : form = .avi
    · subst hform
      obtain ⟨hread, -, -⟩ := Clip.readRiff_eq_ok_iff.mp hriff
      have hinside : 0 + 8 ≤ file.size := ChunkHeader.length_le_of_read hread
      have hoffset : riff.offset = 8 := ChunkHeader.offset_of_read hread
      have hle : riff.offset ≤ file.size := by omega
      have hstop := ChunkHeader.stop_le_of_offset_le hle
      have hfirst := first_le_of_offset_le hle
      rw [if_neg (by simp), if_neg (by simp), fits_of_le hsize hstop, ok_bind,
        fits_of_le hsize hfirst, ok_bind, ← bodyLimit_of_read hread]
      refine Gives.congr (Gives.bind_of (TopLevel.gives_read hsize hfirst _) ?_) ?_
      · intro top htop
        refine Clip.ofTopLevelChecked_eq hsize fun m hm => ?_
        exact Nat.le_trans (TopLevel.movi_fst_le_of_read htop m hm) (bodyLimit_le file)
      · simp [TooManyStreams, hriff, hoffset, topHeaders]
    · rw [if_pos hform, if_pos hform]
      refine .of_eq ?_ rfl
      rintro ⟨_, hread, -⟩
      rw [hriff] at hread
      cases hread
      exact hform rfl

/-! ### Files with too many streams -/

theorem HeaderList.isStreamList_headerAt {r : StreamRecords} {pos : Nat}
    (hc : r.chunk.WrittenAt file pos) : isStreamList file (r.chunk.headerAt pos) := by
  have hid : r.chunk.id = .list := rfl
  simp [isStreamList, hid, (hc.readList rfl).1, Except.toOption]

theorem HeaderList.countP_headersFrom {streams : List StreamRecords} {pos : Nat}
    (hfile : Written file pos (streams.map StreamRecords.chunk)) :
    (headersFrom pos (streams.map StreamRecords.chunk)).countP (isStreamList file) =
      streams.length := by
  induction streams generalizing pos with
  | nil => rfl
  | cons r rest ih =>
    rw [List.map_cons, headersFrom, List.countP_cons_of_pos (isStreamList_headerAt hfile.1),
      ih hfile.2, List.length_cons]

namespace FileLayout

variable {l : FileLayout} {before after : List StreamRecords} {next : StreamRecords}

/-- A written header list is overfull when it has a stream list behind 65535 others. -/
theorem overfull_headerList {pos : Nat} (hc : l.headerList.WrittenAt file pos)
    (hmain : MainHeader.minLength ≤ l.main.length) (hstreams : l.streams = before ++ next :: after)
    (hcount : before.length = 65535)
    (hlength : ∀ r ∈ before, StreamHeader.minLength ≤ r.header.length)
    (hother : ∀ r ∈ before, ¬ r.isVideo) :
    HeaderList.Overfull file (pos + 12) (pos + l.headerList.encode.length) := by
  have hbytes := Chunk.length_encode_of_list (c := l.headerList) rfl
  have hwritten := (hc.readList rfl).2
  have hwalk : walk file (pos + 12) (pos + l.headerList.encode.length) =
      (headersFrom (pos + 12) l.headerChunks, none) :=
    walk_written hwritten (by omega) (by unfold ChunkHeader.length; omega)
  obtain ⟨main, hparse⟩ := MainHeader.parse_of_le hmain
  rw [headerChunks, hstreams, List.map_append, List.map_cons] at hwalk hwritten hbytes
  rw [encodeChunks_cons, encodeChunks_append, List.length_append, List.length_append] at hbytes
  rw [headersFrom, headersFrom_append, headersFrom] at hwalk
  obtain ⟨hmainFile, hstreamsFile⟩ := hwritten
  obtain ⟨hbeforeFile, hnextFile, -⟩ := hstreamsFile.append
  have hadd : HeaderList.add file (pos + l.headerList.encode.length) ⟨none, none, 0⟩
      ((Chunk.mk .avih l.main).headerAt (pos + 12)) = .ok ⟨some main, none, 0⟩ :=
    HeaderList.add_main hmainFile (by omega) hparse
  have hfold := HeaderList.foldlM_add_other_streams (l := ⟨some main, none, 0⟩) hbeforeFile
    (show _ ≤ pos + l.headerList.encode.length by omega) hlength (.inr hother)
  have hplain : ¬ HeaderList.isStreamList file ((Chunk.mk .avih l.main).headerAt (pos + 12)) := by
    have hid : FourCc.avih ≠ .list := by decide
    simp [HeaderList.isStreamList, hid]
  rw [HeaderList.Overfull, hwalk]
  refine ⟨_ :: headersFrom _ _, _, _, ⟨some main, none, 0 + UInt16.ofNat before.length⟩, rfl, ?_,
    HeaderList.isStreamList_headerAt hnextFile, ?_⟩
  · rw [List.foldlM_cons, hadd, ok_bind, hfold]
  · rw [List.countP_cons_of_neg hplain, HeaderList.countP_headersFrom hbeforeFile, hcount]

/-- A written file whose header list has a stream list behind 65535 others has too many streams. -/
theorem tooManyStreams_bytes (hsize : l.bytes.size < UInt32.size)
    (hmain : MainHeader.minLength ≤ l.main.length) (hstreams : l.streams = before ++ next :: after)
    (hcount : before.length = 65535)
    (hlength : ∀ r ∈ before, StreamHeader.minLength ≤ r.header.length)
    (hother : ∀ r ∈ before, ¬ r.isVideo) : TooManyStreams l.bytes := by
  have hriff := riff_writtenAt hsize
  have hbytes := Chunk.length_encode_of_list (c := l.riff) rfl
  obtain ⟨htype, hwritten⟩ := hriff.readList rfl
  have hlimit : bodyLimit l.bytes = l.bytes.size := by
    rw [bodyLimit_of_read hriff.read_eq, hriff.stop_headerAt, size_bytes, Nat.zero_add,
      Nat.min_self]
  have hwalk : walk l.bytes 12 l.bytes.size = (headersFrom 12 l.topChunks, none) :=
    walk_written hwritten (by rw [size_bytes]; omega)
      (by rw [size_bytes]; unfold ChunkHeader.length; omega)
  have hlist : l.headerList.WrittenAt l.bytes 12 := hwritten.1
  have hstop : min (l.headerList.headerAt 12).stop l.bytes.size =
      12 + l.headerList.encode.length := by
    rw [hlist.stop_headerAt, Nat.min_eq_left hlist.add_length_le]
  refine ⟨l.riff.headerAt 0, Clip.readRiff_eq_ok_iff.mpr ⟨hriff.read_eq, rfl, htype⟩, ?_⟩
  rw [hlimit, topHeaders, hlimit, hwalk]
  refine ⟨[], _, _, _, rfl, rfl, rfl, (hlist.readList rfl).1, ?_⟩
  rw [hstop]
  exact overfull_headerList hlist hmain hstreams hcount hlength hother

def silent : StreamRecords := ⟨List.replicate 48 0, []⟩

/-- A file with pictures behind 65536 streams without any. Its only data chunk belongs to the first
stream. -/
def crowded : FileLayout where
  main := List.replicate 40 0
  streams := List.replicate 65536 silent ++ [pictures]
  chunks := [⟨.ofChars '0' '0' 'd' 'c', [1, 2, 3, 4, 5, 6, 7, 8]⟩]
  index := none

theorem length_encodeChunks_replicate (n : Nat) (c : Chunk) :
    (encodeChunks (List.replicate n c)).length = n * c.encode.length := by
  rw [encodeChunks, List.flatMap_replicate]
  simp

theorem size_crowded : crowded.bytes.size = 4980952 := by
  have hsilent : silent.chunk.encode.length = 76 := by decide +kernel
  have hmain : (Chunk.mk .avih crowded.main).encode.length = 48 := by decide +kernel
  have hlast : (encodeChunks ([pictures].map StreamRecords.chunk)).length = 116 := by
    decide +kernel
  have hframes : crowded.frameData.encode.length = 28 := by decide +kernel
  have hindex : crowded.index.map crowded.indexChunk = none := rfl
  have hstreams : crowded.streams = List.replicate 65536 silent ++ [pictures] := rfl
  have hheaders : crowded.headerList.encode.length = 4980912 := by
    rw [Chunk.length_encode_of_list rfl, headerChunks, hstreams, List.map_append,
      List.map_replicate, encodeChunks_cons, encodeChunks_append, List.length_append,
      List.length_append, hmain, hlast, length_encodeChunks_replicate, hsilent]
  rw [size_bytes, Chunk.length_encode_of_list rfl, topChunks, hindex, encodeChunks_cons,
    encodeChunks_cons, List.length_append, List.length_append, hheaders, hframes]
  rfl

theorem size_crowded_lt : crowded.bytes.size < UInt32.size := by
  rw [size_crowded]
  decide

theorem header_length_silent {n : Nat} :
    ∀ r ∈ List.replicate n silent, StreamHeader.minLength ≤ r.header.length := by
  intro r hr
  rw [List.eq_of_mem_replicate hr]
  decide

theorem not_isVideo_silent {n : Nat} : ∀ r ∈ List.replicate n silent, ¬ r.isVideo := by
  intro r hr
  rw [List.eq_of_mem_replicate hr]
  decide

theorem tooManyStreams_crowded : TooManyStreams crowded.bytes := by
  have hstreams : crowded.streams = List.replicate 65535 silent ++ silent :: [pictures] := by
    rw [List.append_cons, ← List.replicate_succ']
    rfl
  exact tooManyStreams_bytes size_crowded_lt (by decide) hstreams List.length_replicate
    header_length_silent not_isVideo_silent

/-- The header list of the crowded file gives its last stream the number of the first one. -/
theorem read_headerList_crowded :
    ∃ main header format,
      HeaderList.read crowded.bytes (12 + 12) (12 + crowded.headerList.encode.length) =
        .ok ⟨some main, some ⟨0, header, format⟩, 1⟩ ∧
      format.width = LittleEndian.int32At pictures.format 4 ∧
      format.height = LittleEndian.int32At pictures.format 8 := by
  have hlist : crowded.headerList.WrittenAt crowded.bytes 12 :=
    ((riff_writtenAt size_crowded_lt).readList rfl).2.1
  have hstreams : crowded.streams = List.replicate 65536 silent ++ pictures :: [] := rfl
  have hlength : ∀ r ∈ crowded.streams, StreamHeader.minLength ≤ r.header.length := by
    rw [hstreams]
    exact List.forall_mem_append.mpr ⟨header_length_silent, by decide⟩
  obtain ⟨main, hmain⟩ := MainHeader.parse_of_le (show _ ≤ crowded.main.length by decide)
  obtain ⟨header, hheader, -⟩ :=
    StreamHeader.parse_of_le (show _ ≤ pictures.header.length by decide)
  obtain ⟨format, hformat, hwidth, hheight⟩ :=
    BitmapInfo.parse_of_le (show _ ≤ pictures.format.length by decide)
  have hread := HeaderList.read_streams hstreams hlength not_isVideo_silent (by decide) hlist hmain
    hheader hformat
  have hall : crowded.streams.length = 65537 := by
    rw [hstreams, List.length_append, List.length_replicate]
    rfl
  rw [List.length_replicate, hall] at hread
  exact ⟨main, header, format, hread, hwidth, hheight⟩

/-- A written file without an index opens with what its header list gives and the frames of that
stream. -/
theorem exists_open_of_headerList {main : MainHeader} {video : VideoStream} {count : UInt16}
    (hsize : l.bytes.size < UInt32.size) (hnone : l.index = none)
    (hplain : ∀ c ∈ l.chunks, c.id ≠ .list)
    (hread : HeaderList.read l.bytes (12 + 12) (12 + l.headerList.encode.length) =
      .ok ⟨some main, some video, count⟩)
    (hcheck : ∀ index, Clip.checkDimensions
      ⟨l.bytes, main, video.header, video.format, video.number, index, 0⟩ = .ok ()) :
    ∃ opened, Clip.ofBytes l.bytes = .ok opened ∧ opened.number = video.number ∧
      opened.index.entries = (l.headers.filter (·.id.isVideoOf video.number.toNat)).map
        FrameIndex.entryOfChunk := by
  obtain ⟨hfile, hle, hlt, -⟩ := written_chunks hsize
  let top : TopLevel := ⟨some main, some video, some (l.moviPlace, l.moviEnd), none⟩
  have htop : TopLevel.read l.bytes 12 l.bytes.size = .ok top := by
    rw [read_topLevel hsize hread, hnone]
    rfl
  have hindex := TopLevel.frameIndex_of_none (t := top) rfl l.bytes (l.moviPlace, l.moviEnd)
    video.number.toNat
  rw [FrameIndex.scan_written video.number.toNat hfile hplain hle hlt] at hindex
  refine ⟨_, Clip.ofBytes_eq_ok_iff.mpr ⟨_, top, main, video, _, _, readRiff_eq hsize, ?_, rfl, rfl,
    rfl, hindex, rfl, hcheck _⟩, rfl, rfl⟩
  rw [(riff_writtenAt hsize).stop_headerAt, Nat.zero_add, ← l.size_bytes, Nat.min_self]
  exact htop

/-- The crowded file opens, and the frame of its first stream is taken for one of its last. -/
theorem exists_open_crowded : ∃ opened, Clip.ofBytes crowded.bytes = .ok opened ∧
    opened.number = 0 ∧ opened.frameCount = 1 := by
  obtain ⟨main, header, format, hread, hwidth, hheight⟩ := read_headerList_crowded
  have hcheck (index : FrameIndex) :
      Clip.checkDimensions ⟨crowded.bytes, main, header, format, 0, index, 0⟩ = .ok () :=
    (Clip.checkDimensions_of_format (hwidth ▸ sample_wellFormed.width_pos)
      (hwidth ▸ sample_wellFormed.width_le) (hheight ▸ sample_wellFormed.height_pos)
      (hheight ▸ sample_wellFormed.height_le)).2.2
  obtain ⟨opened, hopen, hnumber, hentries⟩ :=
    exists_open_of_headerList size_crowded_lt rfl (by decide) hread hcheck
  have hone (pos : Nat) : ((headersFrom pos crowded.chunks).filter (·.id.isVideoOf 0)).length = 1 :=
    rfl
  refine ⟨opened, hopen, hnumber, ?_⟩
  rw [Clip.frameCount, FrameIndex.length, hentries, List.length_map]
  exact hone _

end FileLayout

namespace Clip

/-- Opening a file takes one sum that can overflow. In a file shorter than 2^63 bytes no place and
no stream number of a data chunk overflows; the counter of the streams does exactly where the
reading comes to a stream list behind 65535 others of its header list, and such a file has half a
megabyte at least. Unless that happens the checked opening is the unchecked one. The unchecked
counter counts modulo 65536, and so the video stream is numbered. -/
theorem ofBytesChecked_spec (file : Bytes) (hsize : file.size < 2 ^ 63) :
    (TooManyStreams file → ofBytesChecked file = .error (.overflow .streamCount) ∧
      65536 * ChunkHeader.length ≤ file.size) ∧
    (¬ TooManyStreams file → ofBytesChecked file = Checked.of (ofBytes file)) ∧
    ∀ pos stop l, HeaderList.read file pos stop = .ok l →
      l.count.toNat = (walk file pos stop).1.countP (HeaderList.isStreamList file) % 65536 ∧
      ∀ v ∈ l.video, ∃ front h rest, (walk file pos stop).1 = front ++ h :: rest ∧
        HeaderList.isStreamList file h ∧
        v.number.toNat = front.countP (HeaderList.isStreamList file) % 65536 := by
  obtain ⟨hmany, hsame⟩ := gives_ofBytes (show file.size < bufferLimit from hsize)
  exact ⟨fun h => ⟨hmany h, h.size_le⟩, hsame, fun _ _ _ => HeaderList.counted_of_read⟩

theorem ofBytesChecked_spec_sample : ∃ opened,
    FileLayout.sample.bytes.size < 2 ^ 63 ∧ ofBytes FileLayout.sample.bytes = .ok opened ∧
      ofBytesChecked FileLayout.sample.bytes = .ok opened := by
  have hsize : FileLayout.sample.bytes.size < 65536 := by decide +kernel
  obtain ⟨opened, hopen, -⟩ := exists_open_sample
  have hfew : ¬ TooManyStreams FileLayout.sample.bytes := by
    intro h
    have hlong := h.size_le
    unfold ChunkHeader.length at hlong
    omega
  have hspec := ofBytesChecked_spec FileLayout.sample.bytes (by omega)
  refine ⟨opened, by omega, hopen, ?_⟩
  rw [hspec.2.1 hfew, hopen, Checked.of_ok]

/-- A file of five megabytes overflows the counter of the streams; unchecked, it is opened with the
frame of another stream. -/
theorem ofBytesChecked_crowded :
    FileLayout.crowded.bytes.size < 2 ^ 63 ∧
      ofBytesChecked FileLayout.crowded.bytes = .error (.overflow .streamCount) ∧
      ∃ opened, ofBytes FileLayout.crowded.bytes = .ok opened ∧ opened.number = 0 ∧
        opened.frameCount = 1 := by
  have hsize := FileLayout.size_crowded
  refine ⟨by omega, ?_, FileLayout.exists_open_crowded⟩
  refine (gives_ofBytes ?_).1 FileLayout.tooManyStreams_crowded
  rw [hsize]
  decide

end Clip

end AviPlayback
