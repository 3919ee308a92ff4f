/-!
Outcomes that may be faults. What a sequence of steps that succeeds says about each step, and how
a traversal of a list goes when every step of it succeeds.
-/
set_option autoImplicit false

namespace AviPlayback

universe u

variable {ε : Type} {α β σ : Type u}

@[simp] theorem ok_bind (a : α) (f : α → Except ε β) : (Except.ok a >>= f) = f a := rfl

theorem bind_eq_ok_iff {x : Except ε α} {f : α → Except ε β} {b : β} :
    (x >>= f) = .ok b ↔ ∃ a, x = .ok a ∧ f a = .ok b := by
  cases x with
  | error fault =>
    constructor
    · intro h; cases h
    · rintro ⟨a, ha, _⟩; cases ha
  | ok a => simp

theorem map_eq_ok_iff {x : Except ε α} {f : α → β} {b : β} :
    x.map f = .ok b ↔ ∃ a, x = .ok a ∧ f a = b := by
  cases x <;> simp [Except.map]

/-- A traversal succeeds when each step does. -/
theorem mapM_eq_ok {f : α → Except ε β} {g : α → β} {l : List α}
    (h : ∀ a ∈ l, f a = .ok (g a)) : l.mapM f = .ok (l.map g) := by
  induction l with
  | nil => rfl
  | cons a l ih =>
    rw [List.mapM_cons, h a (by simp), ih fun b hb => h b (by simp [hb])]
    rfl

/-- What each step of a traversal guarantees holds of every result. -/
theorem forall_of_mapM_eq_ok {f : α → Except ε β} {P : β → Prop} {l : List α} {r : List β}
    (hf : ∀ a b, f a = .ok b → P b) (h : l.mapM f = .ok r) : ∀ b ∈ r, P b := by
  induction l generalizing r with
  | nil =>
    cases h
    simp
  | cons a l ih =>
    rw [List.mapM_cons] at h
    obtain ⟨b, hb, h⟩ := bind_eq_ok_iff.mp h
    obtain ⟨bs, hbs, h⟩ := bind_eq_ok_iff.mp h
    cases h
    exact List.forall_mem_cons.mpr ⟨hf a b hb, ih hbs⟩

/-- What each step of a fold over its list keeps holds in the end. -/
theorem foldlM_invariant_of_mem {f : σ → α → Except ε σ} {P : σ → Prop} {l : List α} {s t : σ}
    (hf : ∀ a ∈ l, ∀ s t, P s → f s a = .ok t → P t) (hs : P s) (h : l.foldlM f s = .ok t) :
    P t := by
  induction l generalizing s with
  | nil =>
    cases h
    exact hs
  | cons a l ih =>
    rw [List.foldlM_cons] at h
    obtain ⟨m, hm, h⟩ := bind_eq_ok_iff.mp h
    exact ih (fun b hb => hf b (by simp [hb])) (hf a (by simp) s m hs hm) h

end AviPlayback
