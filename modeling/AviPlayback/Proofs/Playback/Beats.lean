import AviPlayback.Playback.Pacer
import AviPlayback.Proofs.Playback.Contents

/-!
The times of the frames of a session: one each period from its beginning on (`Pacer.beats`), as
many as the frame limit lets through (`PlayerOptions.capped`), and the times that the record tells
(`Stage.shownAt`, `Stage.requestedAt`, `Stage.drawnAt`).
-/
set_option autoImplicit false

namespace AviPlayback

namespace Pacer

/-- The milliseconds from one frame to the next: the delay, or the longest wait where that is
shorter. -/
def period (p : Pacer) : Nat := min p.delay longestWait

theorem pauseEnd_eq (p : Pacer) (now : Nat) : p.pauseEnd now = now + p.period := rfl

theorem period_pos {p : Pacer} (h : 1 ≤ p.delay) : 0 < p.period := by
  have hwait : 0 < longestWait := by decide
  rw [period]
  omega

/-- The times of the first `n` frames. -/
def beats (p : Pacer) (start n : Nat) : List Nat := (List.range n).map (start + · * p.period)

/-- The times of the first `n` frames, each with the number of its frame. -/
def numbered (p : Pacer) (start n : Nat) : List (Nat × Nat) := (p.beats start n).zipIdx 1

variable (p : Pacer) (start n : Nat)

theorem beats_succ : p.beats start (n + 1) = p.beats start n ++ [start + n * p.period] := by
  rw [beats, List.range_succ, List.map_append]
  rfl

theorem numbered_succ :
    p.numbered start (n + 1) = p.numbered start n ++ [(start + n * p.period, n + 1)] := by
  have hlength : (p.beats start n).length = n := by simp [beats]
  rw [numbered, beats_succ, List.zipIdx_append, hlength, Nat.add_comm 1 n]
  rfl

variable {p start n}

/-- The frames up to a moment between two of them. -/
theorem count_eq {now : Nat} (hlate : start + (n - 1) * p.period ≤ now)
    (hearly : now < start + n * p.period) : (now - start) / p.period + 1 = n := by
  have hpos : 0 < n := Nat.pos_of_ne_zero fun hzero => by
    rw [hzero, Nat.zero_mul] at hearly
    omega
  have hdiv : (now - start) / p.period = n - 1 := by
    refine Nat.div_eq_of_lt_le ?_ ?_
    · omega
    · rw [Nat.sub_add_cancel hpos]
      omega
  omega

theorem le_count (hperiod : 0 < p.period) {now : Nat} (hlate : start + (n - 1) * p.period ≤ now) :
    n ≤ (now - start) / p.period + 1 := by
  have hle : n - 1 ≤ (now - start) / p.period :=
    (Nat.le_div_iff_mul_le hperiod).mpr (by omega)
  omega

end Pacer

namespace PlayerOptions

/-- Under a limit of one frame or more, a session begins within it. -/
theorem not_limitReached_zero {o : PlayerOptions} (h : o.maxFrames ≠ some 0) :
    o.limitReached 0 = false := by
  rw [limitReached]
  cases hm : o.maxFrames with
  | none => rfl
  | some m =>
    have hne : m ≠ 0 := fun hzero => h (hzero ▸ hm)
    simpa using hne

theorem exists_le_of_limitReached {o : PlayerOptions} {n : Nat} (h : o.limitReached n) :
    ∃ m ∈ o.maxFrames, m ≤ n := by
  simpa [limitReached, Option.any_eq_true] using h

/-- A number of frames, or as many as the limit lets through. -/
def capped (o : PlayerOptions) (frames : Nat) : Nat := o.maxFrames.elim frames (min frames)

theorem capped_of_not_reached {o : PlayerOptions} {n : Nat} (h : o.limitReached n = false) :
    o.capped n = n := by
  rw [capped]
  cases hm : o.maxFrames with
  | none => rfl
  | some m => exact Nat.min_eq_left (Nat.le_of_lt (lt_of_not_limitReached hm h))

/-- A number that reaches the limit and is within it is the limit. -/
theorem capped_of_reached {o : PlayerOptions} {n : Nat} (h : o.limitReached n = true)
    (hle : ∀ m ∈ o.maxFrames, n ≤ m) {frames : Nat} (hframes : n ≤ frames) :
    o.capped frames = n := by
  unfold capped
  unfold limitReached at h
  cases hm : o.maxFrames with
  | none =>
    rw [hm] at h
    cases h
  | some m =>
    rw [hm] at h
    have hge : m ≤ n := by simpa using h
    have hnm := hle m hm
    exact (Nat.min_eq_right (by omega)).trans (by omega)

/-- A number below the limit was let through. -/
theorem capped_eq_of_lt {o : PlayerOptions} {frames bound : Nat} (h : o.capped frames < bound)
    (hlimit : ∀ m ∈ o.maxFrames, bound ≤ m) : o.capped frames = frames := by
  unfold capped at h ⊢
  cases hm : o.maxFrames with
  | none => rfl
  | some m =>
    rw [hm] at h
    have hle := hlimit m hm
    exact Nat.min_eq_left (by simp only [Option.elim_some] at h; omega)

end PlayerOptions

namespace Stage

variable {D S : Type}

/-- When pictures were shown. -/
def shownAt (s : Stage D S) : List Nat := s.traced fun m => m.event.picture?.map fun _ => m.time

/-- When draws were asked for, and their numbers. -/
def requestedAt (s : Stage D S) : List (Nat × Nat) :=
  s.traced fun m => m.event.requested?.map (m.time, ·)

/-- When draws were begun, and their numbers. -/
def drawnAt (s : Stage D S) : List (Nat × Nat) :=
  s.traced fun m => m.event.drawn?.map (m.time, ·)

end Stage

end AviPlayback
