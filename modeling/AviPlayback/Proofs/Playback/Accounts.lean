import AviPlayback.Playback.Stage

/-!
Accounts of the decoders of a player. `Accounted` says of a record that decoders were opened one at
a time and read only while they were open, and which one is open still; `Stage.Held` ties the
holders of the decoders to that record. What opens, shares, reads and releases a decoder keeps the
accounts.
-/
set_option autoImplicit false

namespace AviPlayback

/-- Whether an event leaves the decoders alone, and the workers with their player. -/
def Event.isAside : Event → Bool
  | .opened _ | .used _ | .released _ | .detached => false
  | _ => true

def occurrences (record : List Moment) (e : Event) : Nat := record.countP (·.event = e)

/-- A decoder was opened and has not been released. -/
def IsUnreleased (record : List Moment) (decoder : Nat) : Prop :=
  0 < occurrences record (.opened decoder) ∧ occurrences record (.released decoder) = 0

/-- At every moment of a record, which has the latest first, at most one decoder was unreleased,
and only that one was read. -/
def OneAtATime (record : List Moment) : Prop :=
  ∀ past, past <:+ record →
    (∀ i j, IsUnreleased past i → IsUnreleased past j → i = j) ∧
    ∀ time decoder, ⟨time, .used decoder⟩ :: past <:+ record → IsUnreleased past decoder

/-- A record, latest first, in which decoders are opened one at a time, with the number of decoders
opened so far and the one that is open. -/
inductive Accounted : List Moment → Nat → Option Nat → Prop
  | start : Accounted [] 0 none
  | opened {past : List Moment} {n : Nat} (time : Nat) (h : Accounted past n none) :
      Accounted (⟨time, .opened n⟩ :: past) (n + 1) (some n)
  | used {past : List Moment} {n k : Nat} (time : Nat) (h : Accounted past n (some k)) :
      Accounted (⟨time, .used k⟩ :: past) n (some k)
  | released {past : List Moment} {n k : Nat} (time : Nat) (h : Accounted past n (some k)) :
      Accounted (⟨time, .released k⟩ :: past) n none
  | aside {past : List Moment} {n : Nat} {current : Option Nat} (m : Moment)
      (haside : m.event.isAside) (h : Accounted past n current) :
      Accounted (m :: past) n current

@[simp] theorem occurrences_cons (m : Moment) (past : List Moment) (e : Event) :
    occurrences (m :: past) e = occurrences past e + if m.event = e then 1 else 0 := by
  simp [occurrences, List.countP_cons]

namespace Accounted

variable {record past : List Moment} {n k : Nat} {current : Option Nat}

theorem lt (h : Accounted record n current) : ∀ k ∈ current, k < n := by
  induction h with
  | start => simp
  | opened => simp
  | used _ _ ih => exact ih
  | released => simp
  | aside _ _ _ ih => exact ih

/-- Each decoder was opened once. -/
theorem occurrences_opened (h : Accounted record n current) (k : Nat) :
    occurrences record (.opened k) = if k < n then 1 else 0 := by
  induction h with
  | start => rfl
  | @opened past n time _ ih =>
    rw [occurrences_cons, ih]
    by_cases hk : n = k
    · simp [hk]
    · have : k < n + 1 ↔ k < n := by omega
      simp [hk, this]
  | used _ _ ih => simpa using ih
  | released _ _ ih => simpa using ih
  | aside m haside _ ih =>
    have : m.event ≠ .opened k := by
      rintro heq
      simp [heq, Event.isAside] at haside
    simpa [this] using ih

/-- Each decoder but the one that is open was released once. -/
theorem occurrences_released (h : Accounted record n current) (k : Nat) :
    occurrences record (.released k) = if k < n ∧ current ≠ some k then 1 else 0 := by
  induction h with
  | start => rfl
  | @opened past n time _ ih =>
    have hcons : occurrences (⟨time, .opened n⟩ :: past) (.released k) =
        occurrences past (.released k) := by simp
    have hopen : k < n + 1 ∧ some n ≠ some k ↔ k < n ∧ none ≠ some k := by
      simp only [ne_eq, Option.some_inj, reduceCtorEq, not_false_eq_true, and_true]
      omega
    simp only [hcons, ih, hopen]
  | used _ _ ih => simpa using ih
  | @released past n l time h ih =>
    have hl := h.lt l rfl
    rw [occurrences_cons, ih]
    by_cases hk : l = k
    · simp [hk, hk ▸ hl]
    · simp [hk]
  | aside m haside _ ih =>
    have : m.event ≠ .released k := by
      rintro heq
      simp [heq, Event.isAside] at haside
    simpa [this] using ih

theorem isUnreleased_iff (h : Accounted record n current) :
    IsUnreleased record k ↔ current = some k := by
  rw [IsUnreleased, h.occurrences_opened, h.occurrences_released]
  constructor
  · rintro ⟨hopened, hreleased⟩
    have hk : k < n := Decidable.byContradiction fun hk => by simp [hk] at hopened
    simpa [hk] using hreleased
  · intro hk
    simp [h.lt k hk, hk]

/-- At every earlier moment the accounts were in order, too. -/
theorem of_suffix (h : Accounted record n current) (hpast : past <:+ record) :
    ∃ n current, Accounted past n current := by
  induction h with
  | start =>
    rw [List.suffix_nil.mp hpast]
    exact ⟨_, _, .start⟩
  | opened time h ih =>
    rcases List.suffix_cons_iff.mp hpast with rfl | hpast
    · exact ⟨_, _, .opened time h⟩
    · exact ih hpast
  | used time h ih =>
    rcases List.suffix_cons_iff.mp hpast with rfl | hpast
    · exact ⟨_, _, .used time h⟩
    · exact ih hpast
  | released time h ih =>
    rcases List.suffix_cons_iff.mp hpast with rfl | hpast
    · exact ⟨_, _, .released time h⟩
    · exact ih hpast
  | aside m haside h ih =>
    rcases List.suffix_cons_iff.mp hpast with rfl | hpast
    · exact ⟨_, _, .aside m haside h⟩
    · exact ih hpast

theorem of_used {time : Nat} (h : Accounted (⟨time, .used k⟩ :: past) n current) :
    Accounted past n (some k) := by
  cases h with
  | used _ h => exact h
  | aside _ haside => cases haside

theorem oneAtATime (h : Accounted record n current) : OneAtATime record := by
  intro past hpast
  constructor
  · intro i j hi hj
    obtain ⟨_, _, hthen⟩ := h.of_suffix hpast
    exact Option.some_inj.mp
      ((hthen.isUnreleased_iff.mp hi).symm.trans (hthen.isUnreleased_iff.mp hj))
  · intro time decoder hused
    obtain ⟨_, _, hthen⟩ := h.of_suffix hused
    exact hthen.of_used.isUnreleased_iff.mpr rfl

/-- No worker was lost. -/
theorem occurrences_detached (h : Accounted record n current) :
    occurrences record .detached = 0 := by
  induction h with
  | start => rfl
  | aside m haside _ ih =>
    have : m.event ≠ .detached := by
      rintro heq
      simp [heq, Event.isAside] at haside
    simpa [this] using ih
  | _ => simpa

end Accounted

namespace Stage

variable {D S : Type} {s : Stage D S} {lease : Nat} {holds : List Nat}

def holdersOf (s : Stage D S) (i : Nat) : Nat := (s.leases[i]?.map Lease.holders).getD 0

/-- The decoders are held as a list says that has the name of the decoder for each hold, only one
decoder is held, and the record accounts for it. -/
structure Held (s : Stage D S) (holds : List Nat) : Prop where
  holdersOf_eq : ∀ i, s.holdersOf i = holds.count i
  same : ∀ i ∈ holds, holds.head? = some i
  accounted : Accounted s.history s.leases.length holds.head?

theorem lt_of_holdersOf_ne_zero {i : Nat} (h : s.holdersOf i ≠ 0) : i < s.leases.length := by
  refine Decidable.byContradiction fun hi => h ?_
  simp [holdersOf, List.getElem?_eq_none (Nat.le_of_not_lt hi)]

theorem holdersOf_takeIn (s : Stage D S) (d : D) (i : Nat) :
    (s.takeIn d).holdersOf i = if i = s.nextLease then 1 else s.holdersOf i := by
  simp only [holdersOf, takeIn, record, nextLease]
  rcases Nat.lt_trichotomy i s.leases.length with hi | rfl | hi
  · simp [List.getElem?_append_left hi, Nat.ne_of_lt hi]
  · simp
  · simp [List.getElem?_append_right (Nat.le_of_lt hi), List.getElem?_eq_none (Nat.le_of_lt hi),
      Nat.ne_of_gt hi, Nat.sub_ne_zero_of_lt hi]

theorem holdersOf_share (h : lease < s.leases.length) (i : Nat) :
    (s.share lease).holdersOf i = if i = lease then s.holdersOf i + 1 else s.holdersOf i := by
  simp only [holdersOf, share, List.getElem?_modify]
  by_cases hi : i = lease
  · subst hi
    simp [List.getElem?_eq_getElem h]
  · have : lease ≠ i := Ne.symm hi
    cases s.leases[i]? <;> simp [hi, this]

theorem leases_release {l : Lease D} (hl : s.leases[lease]? = some l) :
    (s.release lease).leases = s.leases.set lease { l with holders := l.holders - 1 } := by
  simp only [release, hl]
  split <;> rfl

theorem holdersOf_release (s : Stage D S) (lease i : Nat) :
    (s.release lease).holdersOf i = if i = lease then s.holdersOf i - 1 else s.holdersOf i := by
  cases hl : s.leases[lease]? with
  | none =>
    by_cases hi : i = lease
    · simp [release, holdersOf, hl, hi]
    · simp [release, hl, hi]
  | some l =>
    rw [holdersOf, leases_release hl, List.getElem?_set]
    by_cases hi : i = lease
    · obtain ⟨hlt, rfl⟩ := List.getElem?_eq_some_iff.mp hl
      simp [holdersOf, hi, hlt]
    · simp [holdersOf, hi, Ne.symm hi]

/-- The last holder releases the decoder. -/
theorem history_release (h : s.holdersOf lease ≠ 0) : (s.release lease).history =
    if s.holdersOf lease = 1 then ⟨s.now, .released lease⟩ :: s.history else s.history := by
  have hl := List.getElem?_eq_getElem (lt_of_holdersOf_ne_zero h)
  simp only [release, holdersOf, hl, Option.map_some, Option.getD_some]
  split <;> rfl

theorem length_release (s : Stage D S) (lease : Nat) :
    (s.release lease).leases.length = s.leases.length := by
  rw [release]
  split
  · rfl
  · dsimp only
    split <;> simp [record]

namespace Held

theorem empty (sink : S) : (empty sink : Stage D S).Held [] :=
  ⟨fun i => by simp [holdersOf, Stage.empty], by simp, .start⟩

theorem lt (h : s.Held holds) (hlease : lease ∈ holds) : lease < s.leases.length :=
  h.accounted.lt lease (h.same lease hlease)

/-- What neither the holders nor the record depend on may change. -/
theorem congr {t : Stage D S} (h : s.Held holds) (hleases : t.leases = s.leases)
    (hhistory : t.history = s.history) : t.Held holds := by
  refine ⟨fun i => ?_, h.same, ?_⟩
  · rw [← h.holdersOf_eq i, holdersOf, hleases, holdersOf]
  · rw [hhistory, hleases]
    exact h.accounted

theorem record (h : s.Held holds) {e : Event} (he : e.isAside) : (s.record e).Held holds :=
  ⟨h.holdersOf_eq, h.same, .aside _ he h.accounted⟩

theorem takeIn (h : s.Held []) (d : D) : (s.takeIn d).Held [s.nextLease] := by
  refine ⟨fun i => ?_, by simp, ?_⟩
  · rw [holdersOf_takeIn, h.holdersOf_eq]
    by_cases hi : i = s.nextLease
    · simp [hi]
    · simp [hi, Ne.symm hi]
  · have hlength : (s.takeIn d).leases.length = s.leases.length + 1 := by
      simp [Stage.takeIn, Stage.record]
    rw [hlength]
    exact .opened s.now h.accounted

theorem share (h : s.Held (lease :: holds)) : (s.share lease).Held (lease :: lease :: holds) := by
  refine ⟨fun i => ?_, ?_, ?_⟩
  · rw [holdersOf_share (h.lt List.mem_cons_self), h.holdersOf_eq, List.count_cons (b := lease)]
    by_cases hi : i = lease
    · simp [hi]
    · simp [hi, Ne.symm hi]
  · simpa using h.same
  · have hlength : (s.share lease).leases.length = s.leases.length := by simp [Stage.share]
    rw [hlength]
    exact h.accounted

theorem release (h : s.Held (lease :: holds)) : (s.release lease).Held holds := by
  have hsame : ∀ i ∈ holds, lease = i := fun i hi => by
    simpa using h.same i (List.mem_cons_of_mem _ hi)
  have hnow : s.holdersOf lease = holds.count lease + 1 := by simp [h.holdersOf_eq]
  refine ⟨fun i => ?_, fun i hi => ?_, ?_⟩
  -- what is held still is the same decoder, so only its last hold makes a difference to the record
  · rw [holdersOf_release, h.holdersOf_eq, List.count_cons]
    by_cases hi : i = lease
    · simp [hi]
    · simp [hi, Ne.symm hi]
  · cases holds with
    | nil => cases hi
    | cons j rest => rw [List.head?_cons, ← hsame j (by simp), ← hsame i hi]
  · rw [history_release (by omega), length_release, hnow]
    cases holds with
    | nil => exact .released s.now h.accounted
    | cons j rest =>
      obtain rfl := hsame j (by simp)
      simpa using h.accounted

theorem putDecoder (h : s.Held holds) (hlease : lease ∈ holds) (d : D) :
    (s.putDecoder lease d).Held holds := by
  refine ⟨fun i => ?_, h.same, ?_⟩
  · rw [← h.holdersOf_eq i]
    simp only [holdersOf, Stage.putDecoder, Stage.record, List.getElem?_modify]
    cases s.leases[i]? with
    | none => rfl
    | some l => by_cases hi : lease = i <;> simp [hi]
  · have hlength : (s.putDecoder lease d).leases.length = s.leases.length := by
      simp [Stage.putDecoder, Stage.record]
    rw [hlength, h.same lease hlease]
    exact .used s.now (h.same lease hlease ▸ h.accounted)

theorem mapDecoders (h : s.Held holds) (f : D → D) : (s.mapDecoders f).Held holds := by
  refine ⟨fun i => ?_, h.same, ?_⟩
  · rw [← h.holdersOf_eq i]
    simp only [holdersOf, Stage.mapDecoders, List.getElem?_map]
    cases s.leases[i]? <;> rfl
  · have hlength : (s.mapDecoders f).leases.length = s.leases.length := by
      simp [Stage.mapDecoders]
    rw [hlength]
    exact h.accounted

theorem not_isHeld (h : s.Held []) : ∀ l ∈ s.leases, l.isHeld = false := by
  intro l hl
  obtain ⟨i, hi⟩ := List.mem_iff_getElem?.mp hl
  have := h.holdersOf_eq i
  simp only [holdersOf, hi, Option.map_some, Option.getD_some, List.count_nil] at this
  simp [Lease.isHeld, this]

end Held

end Stage

end AviPlayback
