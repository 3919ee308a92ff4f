import Mathlib.Logic.Relation
import AviPlayback.Playback.Clock

/-!
Work on a clock keeps what each of its steps keeps, and comes to rest when every step brings it
nearer to its end and the machine has patience for that many steps. Where it always comes to rest, a
wait passes over no moment at which there is work (`Clocked.Timely.sleep`). A map between machines
that respects every step respects what they do in some time (`Clocked.Respects.sleep`).
-/
set_option autoImplicit false

namespace AviPlayback

namespace Clocked

variable {M : Type} [Clocked M] {P : M → Prop} {m : M}

theorem settle_of_none (h : step? m = none) : settle m = m := by
  unfold settle
  cases patience m with
  | zero => rfl
  | succ fuel => simp only [steps, h]

/-- A wait at rest that ends before there is work again only lets time pass. -/
theorem sleep_of_none {ms : Nat} (h : step? m = none)
    (hwake : ∀ t ∈ wake? m, waitEnd (now m) ms ≤ t) :
    sleep m ms = setNow m (waitEnd (now m) ms) := by
  rw [sleep]
  cases ms with
  | zero => rfl
  | succ ms =>
    rw [sleepUntil, settle_of_none h]
    split
    · next t ht => rw [if_neg fun hearly => absurd hearly.2 (Nat.not_lt.mpr (hwake t ht))]
    · rfl

/-- A wait for something that is done once all work at the current time is. -/
theorem await_of_done {done : M → Bool} (h : done (settle m) = true) :
    await done 1 m = settle m := by
  simp [await, h]

section

variable (hstep : ∀ {m n}, P m → step? m = some n → P n)

include hstep

theorem steps_keeps (hm : P m) (fuel : Nat) : P (steps fuel m) := by
  induction fuel generalizing m with
  | zero => exact hm
  | succ fuel ih =>
    rw [steps]
    split
    · next n hn => exact ih (hstep hm hn)
    · exact hm

theorem settle_keeps (hm : P m) : P (settle m) := steps_keeps hstep hm _

theorem await_keeps (hnow : ∀ {m} t, P m → P (setNow m t)) (hm : P m) (done : M → Bool)
    (fuel : Nat) : P (await done fuel m) := by
  induction fuel generalizing m with
  | zero => exact settle_keeps hstep hm
  | succ fuel ih =>
    have hsettled := settle_keeps hstep hm
    rw [await]
    split
    · exact hsettled
    · split
      · exact ih (hnow _ hsettled)
      · exact hsettled

/-- Time may pass, too. -/
theorem sleepUntil_keeps (hnow : ∀ {m} t, P m → P (setNow m t)) (hm : P m) (target fuel : Nat) :
    P (sleepUntil target fuel m) := by
  induction fuel generalizing m with
  | zero => exact hnow target hm
  | succ fuel ih =>
    have hsettled := settle_keeps hstep hm
    rw [sleepUntil]
    split
    · split
      · exact ih (hnow _ hsettled)
      · exact hnow target hsettled
    · exact hnow target hsettled

theorem sleep_keeps (hnow : ∀ {m} t, P m → P (setNow m t)) (hm : P m) (ms : Nat) :
    P (sleep m ms) := sleepUntil_keeps hstep hnow hm _ _

end

/-- Work whose steps all lower a rank is at rest after as many steps as the rank says. -/
theorem step?_steps_eq_none (rank : M → Nat)
    (hstep : ∀ {m n}, P m → step? m = some n → P n ∧ rank n < rank m) (hm : P m) {fuel : Nat}
    (hfuel : rank m ≤ fuel) : step? (steps fuel m) = none := by
  -- a step spends one unit of fuel and lowers the rank at least by one
  induction fuel generalizing m with
  | zero =>
    cases hnext : step? m with
    | none => exact hnext
    | some n => exact absurd (hstep hm hnext).2 (by omega)
  | succ fuel ih =>
    cases hnext : step? m with
    | none => simp only [steps, hnext]
    | some n =>
      obtain ⟨hn, hlt⟩ := hstep hm hnext
      simpa only [steps, hnext] using ih hn (by omega)

/-! ### Time that passes at rest only -/

/-- Something that steps keep, and time that passes at rest, up to the next moment with work. The
machine has patience for all the work of one moment. -/
structure Timely (P : M → Prop) (rank : M → Nat) : Prop where
  step : ∀ {m n}, P m → step? m = some n → P n ∧ now n = now m ∧ rank n < rank m
  rank_le : ∀ {m}, P m → rank m ≤ patience m
  now_lt_wake : ∀ {m}, P m → step? m = none → ∀ t ∈ wake? m, now m < t
  pass : ∀ {m} t, P m → step? m = none → now m ≤ t → (∀ w ∈ wake? m, t ≤ w) → P (setNow m t)
  now_setNow : ∀ (m : M) t, now (setNow m t) = t
  setNow_now : ∀ m : M, setNow m (now m) = m

/-- A move that takes no time, or a wait. -/
inductive OnClock (moves : M → M → Prop) (m : M) : M → Prop
  | move {n : M} (h : moves m n) (hnow : now n = now m) : OnClock moves m n
  | sleep (ms : Nat) : OnClock moves m (Clocked.sleep m ms)

namespace Timely

variable {rank : M → Nat} (h : Timely P rank)

include h

theorem settle (hm : P m) :
    P (settle m) ∧ now (settle m) = now m ∧ step? (settle m) = none := by
  obtain ⟨hsettled, hnow⟩ := settle_keeps (P := fun n => P n ∧ now n = now m)
    (fun {_ _} hn hstep => ⟨(h.step hn.1 hstep).1, (h.step hn.1 hstep).2.1.trans hn.2⟩) ⟨hm, rfl⟩
  refine ⟨hsettled, hnow, step?_steps_eq_none rank (fun hn hstep => ?_) hm (h.rank_le hm)⟩
  obtain ⟨hnext, _, hlt⟩ := h.step hn hstep
  exact ⟨hnext, hlt⟩

/-- A wait that is long enough in its count of moments for the time that it takes. -/
theorem sleepUntil (hm : P m) {target fuel : Nat} (hle : now m ≤ target)
    (hfuel : target ≤ now m + fuel) : P (sleepUntil target fuel m) := by
  induction fuel generalizing m with
  | zero =>
    obtain rfl : target = now m := Nat.le_antisymm hfuel hle
    rwa [Clocked.sleepUntil, h.setNow_now]
  | succ fuel ih =>
    obtain ⟨hsettled, hnow, hrest⟩ := h.settle hm
    have hlater : now (Clocked.settle m) ≤ target := hnow.symm ▸ hle
    rw [Clocked.sleepUntil]
    cases hwake : wake? (Clocked.settle m) with
    | none => exact h.pass target hsettled hrest hlater (by simp [hwake])
    | some t =>
      have hlt := h.now_lt_wake hsettled hrest t hwake
      dsimp only
      split
      · next hearly =>
        refine ih (h.pass t hsettled hrest (Nat.le_of_lt hlt) (by simp [hwake])) ?_ ?_
        · rw [h.now_setNow]
          exact Nat.le_of_lt hearly.2
        · rw [h.now_setNow]
          omega
      · next hlate =>
        refine h.pass target hsettled hrest hlater fun w hw => ?_
        obtain rfl : t = w := Option.some.inj (hwake.symm.trans hw)
        omega

theorem sleep (hm : P m) (ms : Nat) : P (sleep m ms) := by
  refine h.sleepUntil hm ?_ ?_ <;> rw [waitEnd] <;> omega

/-- What a run on the clock keeps. -/
theorem onClock {moves : M → M → Prop}
    (hmoves : ∀ {m n}, P m → moves m n → now n = now m → P n) {n : M}
    (hrun : Relation.ReflTransGen (OnClock moves) m n) (hm : P m) : P n := by
  induction hrun with
  | refl => exact hm
  | tail _ hmove ih =>
    cases hmove with
    | move hmove hnow => exact hmoves ih hmove hnow
    | sleep ms => exact h.sleep ih ms

end Timely

/-! ### Maps between machines -/

/-- A map between machines that respects the clock and every step. -/
structure Respects {N : Type} [Clocked N] (f : M → N) : Prop where
  now_map : ∀ m, now (f m) = now m
  setNow_map : ∀ m t, setNow (f m) t = f (setNow m t)
  step?_map : ∀ m, step? (f m) = (step? m).map f
  wake?_map : ∀ m, wake? (f m) = wake? m
  patience_map : ∀ m, patience (f m) = patience m

namespace Respects

variable {N : Type} [Clocked N] {f : M → N} (h : Respects f)

include h

theorem steps (fuel : Nat) (m : M) : steps fuel (f m) = f (steps fuel m) := by
  induction fuel generalizing m with
  | zero => rfl
  | succ fuel ih =>
    rw [Clocked.steps, Clocked.steps, h.step?_map]
    cases step? m with
    | none => rfl
    | some n => exact ih n

theorem settle (m : M) : settle (f m) = f (settle m) := by
  rw [Clocked.settle, Clocked.settle, h.patience_map, h.steps]

theorem sleepUntil (target fuel : Nat) (m : M) :
    sleepUntil target fuel (f m) = f (sleepUntil target fuel m) := by
  induction fuel generalizing m with
  | zero => exact h.setNow_map m target
  | succ fuel ih =>
    simp only [Clocked.sleepUntil, h.settle, h.wake?_map, h.now_map, h.setNow_map]
    split
    · split
      · exact ih _
      · rfl
    · rfl

theorem sleep (m : M) (ms : Nat) : sleep (f m) ms = f (sleep m ms) := by
  rw [Clocked.sleep, Clocked.sleep, h.now_map, h.sleepUntil]

theorem await {done : M → Bool} {done' : N → Bool} (hdone : ∀ m, done' (f m) = done m) (fuel : Nat)
    (m : M) : await done' fuel (f m) = f (await done fuel m) := by
  induction fuel generalizing m with
  | zero => exact h.settle m
  | succ fuel ih =>
    simp only [Clocked.await, h.settle, hdone, h.wake?_map, h.setNow_map]
    split
    · rfl
    · split
      · exact ih _
      · rfl

end Respects

end Clocked

end AviPlayback
