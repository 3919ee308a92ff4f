import AviPlayback.Proofs.Container.Scan
import Mathlib.Logic.Function.Iterate

/-!
The walk through frame data as a loop. `ScanLoop` keeps the parts of lists that are still to be
walked, the innermost first, and `ScanLoop.step` reads one header of the innermost one or leaves it
at its end. A record list puts a part in front that may reach past the part around it, so neither
the number of parts nor what is left of the first one goes down; a potential that counts each part
by what lies between it and the limit does (`ScanLoop.potential_step`). The loop comes to the
outcome of the scan (`ScanLoop.ends_with_scan`).
-/
set_option autoImplicit false

namespace AviPlayback

open FrameIndex

/-- A part of a list that is still to be walked. -/
structure PendingPart where
  /-- Where the next header stands. -/
  next : Nat
  stop : Nat

/-- The loop between two of its steps. -/
inductive ScanLoop
  /-- There may be parts to be walked, the innermost first; some frames have been found. -/
  | walking (pending : List PendingPart) (found : List FrameEntry)
  | ended (outcome : Except ContainerFault FrameIndex)

namespace ScanLoop

variable (file : Bytes) (stream limit : Nat)

/-- The loop comes to a header, behind which the pending parts go on. -/
def visit (h : ChunkHeader) (pending : List PendingPart) (found : List FrameEntry) : ScanLoop :=
  if h.id = .list then
    match h.readListType file with
    | .error fault => .ended (.error fault)
    | .ok type =>
      if type = .record then .walking (⟨h.offset + 4, min h.stop limit⟩ :: pending) found
      else .walking pending found
  else if h.id.isVideoOf stream then
    if limit < h.offset + h.size.toNat then .ended (.ok ⟨found⟩)
    else .walking pending (found ++ [entryOfChunk h])
  else .walking pending found

def step : ScanLoop → ScanLoop
  | ended outcome => ended outcome
  | walking [] found => ended (.ok ⟨found⟩)
  | walking (part :: outer) found =>
    if part.stop < part.next + ChunkHeader.length then walking outer found
    else match ChunkHeader.read file part.next with
      | .error fault => ended (.error fault)
      | .ok h => visit file stream limit h (⟨h.stop, part.stop⟩ :: outer) found

/-- What the walks through the pending parts find, one after the other. -/
def finish : List PendingPart → List FrameEntry → Except ContainerFault FrameIndex
  | [], found => .ok ⟨found⟩
  | part :: outer, found => do
    let s ← scanFrom file stream limit part.next part.stop
    if s.halted then .ok ⟨found ++ s.entries⟩ else finish outer (found ++ s.entries)

/-- The outcome to which the loop leads. -/
def outcome : ScanLoop → Except ContainerFault FrameIndex
  | walking pending found => finish file stream limit pending found
  | ended outcome => outcome

/-- No pending part ends behind the limit. -/
def Inside : ScanLoop → Prop
  | walking pending _ => ∀ part ∈ pending, part.stop ≤ limit
  | ended _ => True

/-- A part counts as much as a walk can take that comes to two parts at each header. -/
def weight (part : PendingPart) : Nat := Nat.pow 3 ((limit - part.next) / ChunkHeader.length)

/-- How many steps the loop can still take. -/
def potential : ScanLoop → Nat
  | walking pending _ => pending.foldr (fun part load => weight limit part + load) 0 + 1
  | ended _ => 0

variable {file stream limit} {h : ChunkHeader} {pending outer : List PendingPart}
  {found : List FrameEntry} {part : PendingPart}

theorem outcome_visit (h : ChunkHeader) (part : PendingPart) (outer : List PendingPart)
    (found : List FrameEntry) :
    outcome file stream limit (visit file stream limit h (part :: outer) found) =
      (if h.id = .list then do
        if (← h.readListType file) = .record then do
          let inner ← scanFrom file stream limit (h.offset + 4) (min h.stop limit)
          if inner.halted then pure inner
          else do
            let rest ← scanFrom file stream limit part.next part.stop
            pure ⟨inner.entries ++ rest.entries, rest.halted⟩
        else scanFrom file stream limit part.next part.stop
      else if h.id.isVideoOf stream then
        if limit < h.offset + h.size.toNat then pure ⟨[], true⟩
        else do
          let rest ← scanFrom file stream limit part.next part.stop
          pure ⟨entryOfChunk h :: rest.entries, rest.halted⟩
      else scanFrom file stream limit part.next part.stop) >>= fun s =>
        if s.halted then .ok ⟨found ++ s.entries⟩
        else finish file stream limit outer (found ++ s.entries) := by
  unfold visit
  split
  · cases h.readListType file with
    | error fault => rfl
    | ok type =>
      rw [ok_bind]
      dsimp only
      split
      · -- the part put in front is walked first, and the pending ones only if it did not halt
        rw [outcome, finish]
        cases scanFrom file stream limit (h.offset + 4) (min h.stop limit) with
        | error fault => rfl
        | ok inner =>
          simp only [ok_bind]
          split
          · next hhalted => simp [pure, Except.pure, hhalted]
          · rw [finish]
            cases scanFrom file stream limit part.next part.stop with
            | error fault => rfl
            | ok rest => simp only [ok_bind, pure, Except.pure, List.append_assoc]
      · rfl
  · split
    · split
      · simp [outcome, pure, Except.pure]
      · rw [outcome, finish]
        cases scanFrom file stream limit part.next part.stop with
        | error fault => rfl
        | ok rest => simp only [ok_bind, pure, Except.pure, List.append_assoc, List.singleton_append]
    · rfl

/-- A step goes on to the same outcome. -/
theorem outcome_step {s : ScanLoop} (hs : s.Inside limit) :
    outcome file stream limit (step file stream limit s) = outcome file stream limit s := by
  match s with
  | ended outcome => rfl
  | walking [] found => rfl
  | walking (part :: outer) found =>
    have hstop : min part.stop limit = part.stop := Nat.min_eq_left (hs part (by simp))
    rw [step, outcome, finish, scanFrom_eq_bind, hstop]
    split
    · rw [ok_bind]
      simp [outcome]
    · cases ChunkHeader.read file part.next with
      | error fault => rfl
      | ok h => exact outcome_visit h ⟨h.stop, part.stop⟩ outer found

/-- What a step can do while the innermost part is walked. -/
inductive Goes (limit : Nat) (part : PendingPart) (outer : List PendingPart) : ScanLoop → Prop
  | leaves (found : List FrameEntry) : Goes limit part outer (walking outer found)
  | ends (outcome : Except ContainerFault FrameIndex) : Goes limit part outer (ended outcome)
  | passes {next : Nat} (fits : part.next + ChunkHeader.length ≤ part.stop)
      (behind : part.next + ChunkHeader.length ≤ next) (found : List FrameEntry) :
      Goes limit part outer (walking (⟨next, part.stop⟩ :: outer) found)
  | enters {inner : PendingPart} {next : Nat} (fits : part.next + ChunkHeader.length ≤ part.stop)
      (behind : part.next + ChunkHeader.length ≤ next)
      (inside : part.next + ChunkHeader.length ≤ inner.next) (capped : inner.stop ≤ limit)
      (found : List FrameEntry) :
      Goes limit part outer (walking (inner :: ⟨next, part.stop⟩ :: outer) found)

theorem goes_step (file : Bytes) (stream limit : Nat) (part : PendingPart)
    (outer : List PendingPart) (found : List FrameEntry) :
    Goes limit part outer (step file stream limit (walking (part :: outer) found)) := by
  rw [step]
  split
  · exact .leaves found
  · next hfit =>
    have hfit := Nat.not_lt.mp hfit
    cases hread : ChunkHeader.read file part.next with
    | error fault => exact .ends _
    | ok h =>
      have hoffset := ChunkHeader.offset_of_read hread
      have hbehind := ChunkHeader.lt_stop_of_read hread
      dsimp only
      unfold visit
      split
      · split
        · exact .ends _
        · split
          · exact .enters hfit hbehind (hoffset ▸ Nat.le_add_right _ _) (Nat.min_le_right _ _) found
          · exact .passes hfit hbehind found
      · split
        · split
          · exact .ends _
          · exact .passes hfit hbehind _
        · exact .passes hfit hbehind found

theorem inside_step {s : ScanLoop} (hs : s.Inside limit) :
    (step file stream limit s).Inside limit := by
  match s with
  | ended outcome => trivial
  | walking [] found => trivial
  | walking (part :: outer) found =>
    obtain ⟨hpart, houter⟩ := List.forall_mem_cons.mp hs
    have hgoes := goes_step file stream limit part outer found
    generalize step file stream limit (walking (part :: outer) found) = t at hgoes ⊢
    cases hgoes with
    | leaves => exact houter
    | ends => trivial
    | passes => exact List.forall_mem_cons.mpr ⟨hpart, houter⟩
    | enters _ _ _ capped =>
      exact List.forall_mem_cons.mpr ⟨capped, List.forall_mem_cons.mpr ⟨hpart, houter⟩⟩

theorem weight_pos (limit : Nat) (part : PendingPart) : 0 < weight limit part :=
  Nat.pow_pos (by decide)

/-- What stands behind a header counts at most a third of what began with it. -/
theorem weight_behind {part behind : PendingPart}
    (hfit : part.next + ChunkHeader.length ≤ limit)
    (hbehind : part.next + ChunkHeader.length ≤ behind.next) :
    3 * weight limit behind ≤ weight limit part := by
  unfold weight ChunkHeader.length at *
  rw [Nat.pow_eq, Nat.pow_eq, ← Nat.pow_succ']
  exact Nat.pow_le_pow_right (by decide) (by omega)

/-- Every step lowers the potential, until the loop has ended. -/
theorem potential_step {s : ScanLoop} (hs : s.Inside limit) :
    (step file stream limit s).potential limit ≤ s.potential limit - 1 := by
  match s with
  | ended outcome => exact Nat.le_refl _
  | walking [] found => exact Nat.le_refl _
  | walking (part :: outer) found =>
    have hpart : part.stop ≤ limit := hs part (by simp)
    have hpos := weight_pos limit part
    have hgoes := goes_step file stream limit part outer found
    generalize step file stream limit (walking (part :: outer) found) = t at hgoes ⊢
    rw [potential, List.foldr_cons]
    cases hgoes with
    | leaves =>
      rw [potential]
      omega
    | ends =>
      rw [potential]
      omega
    | @passes next fits behind =>
      have hnext : 3 * weight limit ⟨next, part.stop⟩ ≤ weight limit part :=
        weight_behind (Nat.le_trans fits hpart) behind
      rw [potential, List.foldr_cons]
      omega
    | @enters inner next fits behind inside _ =>
      have hnext : 3 * weight limit ⟨next, part.stop⟩ ≤ weight limit part :=
        weight_behind (Nat.le_trans fits hpart) behind
      have hinner : 3 * weight limit inner ≤ weight limit part :=
        weight_behind (Nat.le_trans fits hpart) inside
      rw [potential, List.foldr_cons, List.foldr_cons]
      omega

/-- The loop has ended with its outcome once as many steps were taken as its potential allows. -/
theorem iterate_step {s : ScanLoop} (hs : s.Inside limit) {steps : Nat}
    (hsteps : s.potential limit ≤ steps) :
    (step file stream limit)^[steps] s = ended (outcome file stream limit s) := by
  induction steps generalizing s with
  | zero =>
    match s with
    | ended outcome => rfl
    | walking pending found => simp [potential] at hsteps
  | succ steps ih =>
    have hlower : (step file stream limit s).potential limit ≤ s.potential limit - 1 :=
      potential_step hs
    rw [Function.iterate_succ_apply, ih (inside_step hs) (by omega), outcome_step hs]

/-- The loop over a range ends with the outcome of the scan, an index or a fault. Each header takes
eight bytes, and behind it the loop has at most two parts to walk. -/
theorem ends_with_scan (file : Bytes) (start stop stream : Nat) :
    ∃ steps ≤ Nat.pow 3 ((stop - start) / ChunkHeader.length) + 1,
      (step file stream stop)^[steps] (walking [⟨start, stop⟩] []) =
        ended (scan file start stop stream) := by
  have hinside : (walking [⟨start, stop⟩] []).Inside stop := by simp [Inside]
  have houtcome : outcome file stream stop (walking [⟨start, stop⟩] []) =
      scan file start stop stream := by
    rw [outcome, finish, scan]
    cases scanFrom file stream stop start stop with
    | error fault => rfl
    | ok s => cases s.halted <;> simp [finish, Except.map]
  refine ⟨_, Nat.le_refl _, ?_⟩
  rw [iterate_step hinside (by simp [potential, weight]), houtcome]

end ScanLoop

end AviPlayback
