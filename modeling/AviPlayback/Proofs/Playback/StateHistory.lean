import Mathlib.Data.List.Chain
import AviPlayback.Proofs.Playback.Contents

/-!
The history of a session's state. `Session.states` has the states published so far behind the one
that a session begins with. Where each of them leads to the next (`PlaybackState.leadsTo`), no state
comes twice in a row and every session that is drawn ends once (`PlaybackState.EndOnce`); a session
keeps such a history (`Session.Chronicled`) when it only moves to where its state leads.
-/
set_option autoImplicit false

namespace AviPlayback

namespace PlaybackState

/-- Whether a state may come right behind another one, where a surface that is ready is always
drawn on. -/
def leadsTo : PlaybackState → PlaybackState → Bool
  | idle, surfaceReady | surfaceReady, rendering => true
  | rendering, surfaceLost | rendering, streamEnded => true
  | surfaceLost, surfaceReady | surfaceLost, idle => true
  | streamEnded, surfaceReady | streamEnded, idle => true
  | _, _ => false

/-- A history in which states change, in which frames are produced only on a surface that has just
become ready, and in which every session ends once, either by the loss of its surface or by the end
of its stream. -/
structure EndOnce (states : List PlaybackState) : Prop where
  changes : ∀ front s t back, states = front ++ s :: t :: back → s ≠ t
  ready : ∀ front back, states = front ++ rendering :: back →
    ∃ earlier, front = earlier ++ [surfaceReady]
  once : ∀ front mid next back, states = front ++ rendering :: (mid ++ next :: back) →
    (∀ s ∈ mid, s ≠ surfaceReady ∧ s ≠ idle) → next = surfaceReady ∨ next = idle →
      mid = [surfaceLost] ∨ mid = [streamEnded]

variable {states : List PlaybackState}

theorem leadsTo_of_isChain (h : states.IsChain fun a b => a.leadsTo b)
    {s t : PlaybackState} (front back : List PlaybackState)
    (hsplit : states = front ++ s :: t :: back) : s.leadsTo t := by
  rw [hsplit] at h
  exact (List.isChain_cons_cons.mp h.right_of_append).1

theorem over_of_leadsTo {s : PlaybackState} (h : rendering.leadsTo s) :
    s = surfaceLost ∨ s = streamEnded := by
  cases s with
  | surfaceLost => exact .inl rfl
  | streamEnded => exact .inr rfl
  | idle | surfaceReady | rendering => cases h

theorem leadsTo_of_over {s t : PlaybackState} (hover : s = surfaceLost ∨ s = streamEnded)
    (h : s.leadsTo t) : t = surfaceReady ∨ t = idle := by
  rcases hover with rfl | rfl
  all_goals
    cases t with
    | surfaceReady => exact .inl rfl
    | idle => exact .inr rfl
    | rendering | surfaceLost | streamEnded => cases h

theorem endOnce_of_isChain (h : states.IsChain fun a b => a.leadsTo b)
    (hfirst : states.head? = some .idle) : EndOnce states where
  changes front s t back hsplit := by
    have hleads := leadsTo_of_isChain h _ _ hsplit
    rintro rfl
    cases s <;> cases hleads
  ready front back hsplit := by
    rcases List.eq_nil_or_concat front with rfl | ⟨earlier, s, rfl⟩
    · rw [hsplit] at hfirst
      cases hfirst
    · have hleads : s.leadsTo .rendering :=
        leadsTo_of_isChain h earlier back (by simp [hsplit])
      cases s with
      | surfaceReady => exact ⟨earlier, List.concat_eq_append⟩
      | idle | rendering | surfaceLost | streamEnded => cases hleads
  once front mid next back hsplit hmid hnext := by
    cases mid with
    | nil =>
      have hover := over_of_leadsTo (leadsTo_of_isChain h _ _ hsplit)
      rcases hnext with rfl | rfl <;> simp at hover
    | cons s rest =>
      have hover := over_of_leadsTo (leadsTo_of_isChain h _ _ hsplit)
      cases rest with
      | nil => exact hover.imp (congrArg ([·])) (congrArg ([·]))
      | cons t rest =>
        -- what comes behind the end of a session is no part of it
        have hagain : s.leadsTo t :=
          leadsTo_of_isChain h (front ++ [.rendering]) (rest ++ next :: back) (by simp [hsplit])
        obtain ⟨hready, hidle⟩ := hmid t (by simp)
        rcases leadsTo_of_over hover hagain with heq | heq
        · exact absurd heq hready
        · exact absurd heq hidle

end PlaybackState

namespace Stage

variable {D S : Type} (s : Stage D S)

theorem publishedAt_record {e : Event} (he : e.published? = none) :
    (s.record e).publishedAt = s.publishedAt :=
  traced_record_of_none _ s (by rw [he, Option.map_none])

theorem publishedAt_release (lease : Nat) : (s.release lease).publishedAt = s.publishedAt :=
  traced_release _ s lease fun _ _ => rfl

theorem publishedAt_takeIn (d : D) : (s.takeIn d).publishedAt = s.publishedAt :=
  publishedAt_record { s with leases := s.leases ++ [⟨d, 1⟩] } rfl

end Stage

namespace Session

variable {D S L : Type} {s t u : Session D S L} {next : PlaybackState}

/-- The states so far: the one at the beginning, and all that were published. -/
def states (s : Session D S L) : List PlaybackState := .idle :: s.stage.publications

theorem states_moveTo (s : Session D S L) (next : PlaybackState) :
    (s.moveTo next).states = if next = s.state then s.states else s.states ++ [next] := by
  split
  · next hsame => rw [hsame, moveTo_self]
  · next hnew => rw [states, Stage.publications_moveTo hnew, states, List.cons_append]

/-- A session with the state of another one, and with its history. -/
structure SameHistory (s t : Session D S L) : Prop where
  cell : t.cell = s.cell
  publishedAt : t.stage.publishedAt = s.stage.publishedAt

namespace SameHistory

theorem refl (s : Session D S L) : SameHistory s s := ⟨rfl, rfl⟩

theorem trans (h : SameHistory s t) (h' : SameHistory t u) : SameHistory s u :=
  ⟨h'.cell.trans h.cell, h'.publishedAt.trans h.publishedAt⟩

theorem state (h : SameHistory s t) : t.state = s.state := congrArg StateCell.state h.cell

theorem states (h : SameHistory s t) : t.states = s.states := by
  rw [Session.states, ← Stage.map_snd_publishedAt, h.publishedAt, Stage.map_snd_publishedAt,
    Session.states]

theorem moveTo (h : SameHistory s t) (hnow : t.stage.now = s.stage.now) (next : PlaybackState) :
    SameHistory (s.moveTo next) (t.moveTo next) := by
  by_cases hnext : next = s.state
  · have hsame : next = t.state := hnext.trans h.state.symm
    rw [Session.moveTo, if_pos hnext, Session.moveTo, if_pos hsame]
    exact h
  · have hother : next ≠ t.state := fun hsame => hnext (hsame.trans h.state)
    refine ⟨?_, ?_⟩
    · rw [Session.moveTo, if_neg hother, Session.moveTo, if_neg hnext, h.cell]
    · rw [Stage.publishedAt_moveTo hother, Stage.publishedAt_moveTo hnext, h.publishedAt, hnow]

end SameHistory

theorem sameHistory_openDecoder (s : Session D S L) (source : String → Except PlayerFault D)
    (path : String) : SameHistory s (s.openDecoder source path).2 := by
  rw [openDecoder]
  split
  · exact .refl s
  · split
    · exact ⟨rfl, s.stage.publishedAt_record rfl⟩
    · exact ⟨rfl, s.stage.publishedAt_takeIn _⟩

theorem sameHistory_close (s : Session D S L) : SameHistory s s.close.2 := by
  rw [close_snd]
  refine ⟨rfl, ?_⟩
  cases s.handle with
  | none => rfl
  | some handle => exact s.stage.publishedAt_release _

/-- The surface goes away: the loss is published, unless the stream had ended. The worker does not
know yet. -/
def lose (s : Session D S L) : Session D S L := { s with surface := false }.tryTransition .surfaceLost

theorem leaveSurface_eq_lose (hsurface : s.surface) :
    s.leaveSurface = { s.lose with worker := s.lose.worker.map Task.cancel } := if_pos hsurface

theorem lose_eq (s : Session D S L) :
    s.lose = { s.moveTo s.state.lost with surface := false } := by
  have hlost : s.lose = { s with surface := false }.moveTo s.state.lost :=
    tryTransition_surfaceLost { s with surface := false }
  have hstate : { s with surface := false }.state = s.state := rfl
  rw [hlost, moveTo, moveTo, hstate]
  split <;> rfl

/-- A session whose state is the last one of its history, in which all its changes are and each
state leads to the next. -/
structure Chronicled (s : Session D S L) : Prop where
  chain : s.states.IsChain fun a b => a.leadsTo b
  last : s.states.getLast? = some s.state
  length : s.states.length = s.cell.version + 1

namespace Chronicled

theorem new (sink : S) (options : PlayerOptions) : Chronicled (new sink options : Session D S L) :=
  ⟨List.isChain_singleton _, rfl, rfl⟩

theorem congr (h : Chronicled s) (hsame : SameHistory s t) : Chronicled t where
  chain := hsame.states ▸ h.chain
  last := by rw [hsame.states, hsame.state, h.last]
  length := by rw [hsame.states, hsame.cell, h.length]

theorem moveTo (h : Chronicled s) (hleads : next ≠ s.state → s.state.leadsTo next) :
    Chronicled (s.moveTo next) := by
  by_cases hnext : next = s.state
  · rwa [hnext, moveTo_self]
  · have hstates : (s.moveTo next).states = s.states ++ [next] := by
      rw [states_moveTo, if_neg hnext]
    refine ⟨?_, ?_, ?_⟩
    · rw [hstates, List.isChain_append]
      refine ⟨h.chain, List.isChain_singleton _, ?_⟩
      rintro a ha b ⟨⟩
      rw [h.last] at ha
      cases ha
      exact hleads hnext
    · rw [hstates, state_moveTo, List.getLast?_concat]
    · rw [hstates, List.length_append, h.length, Session.moveTo, if_neg hnext]
      rfl

/-- A surface that is taken is drawn on. -/
theorem drawnOn (h : Chronicled s) (hplaying : s.state ≠ .rendering)
    (hready : s.state ≠ .surfaceReady) (hsame : SameHistory (s.moveTo .surfaceReady) t) :
    Chronicled (t.moveTo .rendering) := by
  have htaken : Chronicled t := (h.moveTo fun _ => by
    cases hstate : s.state with
    | surfaceReady => exact absurd hstate hready
    | rendering => exact absurd hstate hplaying
    | idle | surfaceLost | streamEnded => rfl).congr hsame
  refine htaken.moveTo fun _ => ?_
  rw [hsame.state, state_moveTo]
  rfl

theorem lost (h : Chronicled s) (hready : s.state ≠ .surfaceReady) :
    Chronicled (s.moveTo s.state.lost) := by
  refine h.moveTo fun hnew => ?_
  cases hstate : s.state with
  | surfaceReady => exact absurd hstate hready
  | rendering => rfl
  | idle | surfaceLost | streamEnded => exact absurd (by rw [hstate]; rfl) hnew

/-- A worker may come to its end at any time: only while frames are produced is that published. -/
theorem ended (h : Chronicled s) : Chronicled (s.moveTo s.state.ended) := by
  refine h.moveTo fun hnew => ?_
  cases hstate : s.state with
  | rendering => rfl
  | idle | surfaceReady | surfaceLost | streamEnded => exact absurd (by rw [hstate]; rfl) hnew

theorem reset (h : Chronicled s) (hplaying : s.state ≠ .rendering)
    (hready : s.state ≠ .surfaceReady) : Chronicled s.closeAndReset := by
  have hclosed := h.congr (sameHistory_close s)
  rw [closeAndReset_eq]
  refine hclosed.moveTo fun hnew => ?_
  rw [(sameHistory_close s).state] at hnew ⊢
  cases hstate : s.state with
  | surfaceReady => exact absurd hstate hready
  | rendering => exact absurd hstate hplaying
  | idle => exact absurd hstate.symm hnew
  | surfaceLost | streamEnded => rfl

theorem endOnce (h : Chronicled s) : PlaybackState.EndOnce s.states :=
  PlaybackState.endOnce_of_isChain h.chain rfl

end Chronicled

/-- A session after a step of a worker that publishes the end of the stream or nothing. -/
def EndsAtMost (s t : Session D S L) : Prop :=
  ∃ next, (next = s.state ∨ next = s.state.ended) ∧ (s.moveTo next).SameHistory t

namespace EndsAtMost

theorem of_same (h : SameHistory s t) : EndsAtMost s t := ⟨s.state, .inl rfl, by rwa [moveTo_self]⟩

theorem of_ended (h : SameHistory (s.moveTo s.state.ended) t) : EndsAtMost s t := ⟨_, .inr rfl, h⟩

variable (h : EndsAtMost s t)

include h

theorem chronicled (hs : Chronicled s) : Chronicled t := by
  obtain ⟨next, rfl | rfl, hsame⟩ := h
  · rw [moveTo_self] at hsame
    exact hs.congr hsame
  · exact hs.ended.congr hsame

theorem state_eq : t.state = s.state ∨ t.state = s.state.ended := by
  obtain ⟨next, hnext, hsame⟩ := h
  rwa [hsame.state, state_moveTo]

theorem not_ready (hready : s.state ≠ .surfaceReady) : t.state ≠ .surfaceReady := by
  rcases h.state_eq with heq | heq
  · rwa [heq]
  · rw [heq]
    cases hstate : s.state with
    | surfaceReady => exact absurd hstate hready
    | idle | rendering | surfaceLost | streamEnded => nofun

theorem rendering (hplaying : t.state = .rendering) : s.state = .rendering := by
  rcases h.state_eq with heq | heq
  · rwa [← heq]
  · rw [hplaying] at heq
    cases hstate : s.state with
    | rendering => rfl
    | idle | surfaceReady | surfaceLost | streamEnded =>
      rw [hstate] at heq
      cases heq

/-- Only while frames are produced is the end of the stream published. -/
theorem states : t.states = s.states ∨
    s.state = .rendering ∧ t.states = s.states ++ [.streamEnded] := by
  obtain ⟨next, rfl | rfl, hsame⟩ := h
  · rw [moveTo_self] at hsame
    exact .inl hsame.states
  · rw [hsame.states, states_moveTo]
    cases s.state with
    | rendering => exact .inr ⟨rfl, rfl⟩
    | idle | surfaceReady | surfaceLost | streamEnded => exact .inl rfl

end EndsAtMost

/-- Only while frames are produced is the loss of the surface published. -/
theorem states_lose (h : s.state ≠ .surfaceReady) : s.lose.states =
    s.states ++ if s.state = .rendering then [.surfaceLost] else [] := by
  have hlose : s.lose.states = (s.moveTo s.state.lost).states := by rw [lose_eq]; rfl
  rw [hlose, states_moveTo]
  cases hstate : s.state with
  | surfaceReady => exact absurd hstate h
  | rendering => rfl
  | idle | surfaceLost | streamEnded => exact (List.append_nil _).symm

end Session

end AviPlayback
