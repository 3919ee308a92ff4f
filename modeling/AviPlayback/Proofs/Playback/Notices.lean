import AviPlayback.Playback.State
import Mathlib.Data.List.Induction

/-!
What a subscriber learns about a published state. A `WatchedCell` is a cell with one subscriber, on
which moves are tried in any order and at which the subscriber looks now and then. A move is any
function of the candidate state: it may change the candidate and then fail, or change it and change
it back. The subscriber has something to look at exactly when a call since the last look changed the
published state (`WatchedCell.notices_changes`).
-/
set_option autoImplicit false

namespace AviPlayback

/-- A call on a cell, or a look at it. -/
inductive CellCall
  | transition (move : Transition)
  | tryTransition (move : Transition)
  | reset
  /-- The subscriber marks the state as seen. -/
  | look

/-- What a call on a cell answers. -/
inductive CellAnswer
  | moved (result : Except PlayerFault Unit)
  | tried (changed : Bool)
  | done

/-- A cell with one subscriber. -/
structure WatchedCell where
  cell : StateCell
  subscription : Subscription

namespace StateCell

variable (c : StateCell) (move : Transition)

/-- A move leaves the cell as it was, or it succeeds and one change is published. -/
theorem transition_cases :
    (c.transition move).2 = c ∨ (∃ next, move c.state = (.ok (), next)) ∧
      (c.transition move).2.state ≠ c.state ∧ (c.transition move).2.version = c.version + 1 := by
  unfold transition
  split
  · next next hmove =>
    split
    · exact .inl rfl
    · next hnew => exact .inr ⟨⟨next, hmove⟩, hnew, rfl⟩
  · exact .inl rfl

/-- A move answers what it answers of itself. -/
theorem fst_transition : (c.transition move).1 = (move c.state).1 := by
  unfold transition
  split
  · next hmove => rw [hmove]
  · next hmove => rw [hmove]

@[simp] theorem snd_tryTransition : (c.tryTransition move).2 = (c.transition move).2 := rfl

/-- Trying a move tells whether the state changed. -/
theorem fst_tryTransition :
    (c.tryTransition move).1 ↔ (c.transition move).2.state ≠ c.state := by
  have htold : (c.tryTransition move).1 =
      ((c.transition move).1.toBool && (c.transition move).2.state != c.state) := rfl
  rw [htold, Bool.and_eq_true, bne_iff_ne, and_iff_right_iff_imp]
  intro hnew
  rcases c.transition_cases move with hsame | ⟨⟨next, hmove⟩, _⟩
  · exact absurd (congrArg StateCell.state hsame) hnew
  · rw [fst_transition, hmove]
    rfl

end StateCell

namespace CellCall

def move? : CellCall → Option Transition
  | transition move | tryTransition move => some move
  | reset => some .reset
  | look => none

/-- The call tries a move that fails in the given state, whatever it makes of its candidate. -/
def FailsIn (call : CellCall) (s : PlaybackState) : Prop :=
  ∃ move ∈ call.move?, ∃ fault, (move s).1 = .error fault

end CellCall

namespace WatchedCell

def subscribe (c : StateCell) : WatchedCell := ⟨c, .of c⟩

def call (w : WatchedCell) : CellCall → CellAnswer × WatchedCell
  | .transition move =>
    let (result, cell) := w.cell.transition move
    (.moved result, { w with cell })
  | .tryTransition move =>
    let (changed, cell) := w.cell.tryTransition move
    (.tried changed, { w with cell })
  | .reset => (.done, { w with cell := w.cell.reset })
  | .look => (.done, { w with subscription := .of w.cell })

def run (w : WatchedCell) (calls : List CellCall) : WatchedCell :=
  calls.foldl (fun w call => (w.call call).2) w

def hasNews (w : WatchedCell) : Bool := w.subscription.hasChanged w.cell

/-- Nothing was seen that was not published. -/
def Sound (w : WatchedCell) : Prop := w.subscription.seen ≤ w.cell.version

/-- The next call changes the published state. -/
def Changes (w : WatchedCell) (call : CellCall) : Prop := (w.call call).2.cell.state ≠ w.cell.state

variable {w : WatchedCell}

theorem run_concat (w : WatchedCell) (calls : List CellCall) (call : CellCall) :
    w.run (calls ++ [call]) = ((w.run calls).call call).2 := by
  simp [run]

theorem call_of_move? (w : WatchedCell) {call : CellCall} {move : Transition}
    (h : call.move? = some move) :
    (w.call call).2 = { w with cell := (w.cell.transition move).2 } := by
  cases call with
  | transition | tryTransition | reset =>
    cases h
    rfl
  | look => cases h

/-- A call is a look, or it leaves all as it was, or it changes the state and publishes that once.
-/
theorem call_cases (w : WatchedCell) (call : CellCall) :
    call = .look ∧ (w.call call).2 = subscribe w.cell ∨
    call ≠ .look ∧ (w.call call).2 = w ∨
    call ≠ .look ∧ w.Changes call ∧ (w.call call).2.subscription = w.subscription ∧
      (w.call call).2.cell.version = w.cell.version + 1 := by
  cases hmove : call.move? with
  | none =>
    cases call with
    | look => exact .inl ⟨rfl, rfl⟩
    | transition | tryTransition | reset => cases hmove
  | some move =>
    have hcall := call_of_move? w hmove
    have hlook : call ≠ .look := by
      rintro rfl
      cases hmove
    rcases w.cell.transition_cases move with hsame | ⟨_, hnew, hversion⟩
    · rw [hsame] at hcall
      exact .inr (.inl ⟨hlook, hcall⟩)
    · refine .inr (.inr ⟨hlook, ?_, ?_, ?_⟩)
      · rwa [Changes, hcall]
      · rw [hcall]
      · rwa [hcall]

theorem Sound.call (hw : w.Sound) (call : CellCall) : (w.call call).2.Sound := by
  rcases w.call_cases call with ⟨_, heq⟩ | ⟨_, heq⟩ | ⟨_, _, hsubscription, hversion⟩
  · rw [heq]
    exact Nat.le_refl _
  · rwa [heq]
  · unfold Sound at *
    rw [hsubscription, hversion]
    omega

theorem Sound.run (hw : w.Sound) (calls : List CellCall) : (w.run calls).Sound := by
  induction calls generalizing w with
  | nil => exact hw
  | cons call rest ih => exact ih (hw.call call)

/-- A look leaves no news, and any other call adds to them when it changes the state. -/
theorem Sound.hasNews_call (hw : w.Sound) (call : CellCall) :
    (w.call call).2.hasNews ↔ call ≠ .look ∧ (w.hasNews ∨ w.Changes call) := by
  rcases w.call_cases call with ⟨hlook, heq⟩ | ⟨hlook, heq⟩ | ⟨hlook, hnew, hsubscription, hversion⟩
  · rw [heq]
    simp [hlook, hasNews, subscribe, Subscription.hasChanged, Subscription.of]
  · simp [heq, hlook, Changes]
  · unfold Sound at hw
    have hseen : w.subscription.seen ≠ w.cell.version + 1 := by omega
    simp [hlook, hnew, hasNews, Subscription.hasChanged, hsubscription, hversion, hseen]

/-- Some call since the last look changed the published state. -/
def ChangedSinceLook (w : WatchedCell) (calls : List CellCall) : Prop :=
  ∃ front call back, calls = front ++ call :: back ∧ .look ∉ back ∧ (w.run front).Changes call

theorem changedSinceLook_concat (w : WatchedCell) (calls : List CellCall) (call : CellCall) :
    w.ChangedSinceLook (calls ++ [call]) ↔
      call ≠ .look ∧ w.ChangedSinceLook calls ∨ (w.run calls).Changes call := by
  constructor
  · rintro ⟨front, changing, back, hsplit, hlook, hnew⟩
    rcases List.eq_nil_or_concat back with rfl | ⟨earlier, last, rfl⟩
    · obtain ⟨rfl, heq⟩ := List.append_inj' hsplit rfl
      cases heq
      exact .inr hnew
    · rw [List.concat_eq_append, ← List.cons_append, ← List.append_assoc] at hsplit
      obtain ⟨rfl, heq⟩ := List.append_inj' hsplit rfl
      cases heq
      simp only [List.concat_eq_append, List.mem_append, List.mem_singleton, not_or] at hlook
      exact .inl ⟨Ne.symm hlook.2, front, changing, earlier, rfl, hlook.1, hnew⟩
  · rintro (⟨hlook, front, changing, back, rfl, hback, hnew⟩ | hnew)
    · refine ⟨front, changing, back ++ [call], by simp, ?_, hnew⟩
      simp [hback, Ne.symm hlook]
    · exact ⟨calls, call, [], rfl, by simp, hnew⟩

theorem not_changes_look (w : WatchedCell) : ¬ w.Changes .look := fun hnew => hnew rfl

/-- What the subscriber has to look at are the changes since the last look. -/
theorem hasNews_run (c : StateCell) (calls : List CellCall) :
    ((subscribe c).run calls).hasNews ↔ (subscribe c).ChangedSinceLook calls := by
  induction calls using List.reverseRecOn with
  | nil => simp [run, hasNews, subscribe, Subscription.hasChanged, Subscription.of, ChangedSinceLook]
  | append_singleton calls call ih =>
    have hsound : ((subscribe c).run calls).Sound := Sound.run (Nat.le_refl _) calls
    rw [run_concat, hsound.hasNews_call, ih, changedSinceLook_concat, and_or_left]
    refine or_congr_right (and_iff_right_of_imp ?_)
    rintro hnew rfl
    exact not_changes_look _ hnew

theorem call_of_failsIn {call : CellCall} (h : call.FailsIn w.cell.state) : (w.call call).2 = w := by
  obtain ⟨move, hmove, fault, hfault⟩ := h
  rw [call_of_move? w hmove]
  rcases w.cell.transition_cases move with hsame | ⟨⟨next, hok⟩, _⟩
  · rw [hsame]
  · rw [hok] at hfault
    cases hfault

/-- A call that answers a fault tried a move that failed. -/
theorem failsIn_of_answer {call : CellCall} {fault : PlayerFault}
    (h : (w.call call).1 = .moved (.error fault)) : call.FailsIn w.cell.state := by
  cases call with
  | transition move =>
    refine ⟨move, rfl, fault, ?_⟩
    rw [← StateCell.fst_transition]
    exact CellAnswer.moved.inj h
  | tryTransition | reset | look => cases h

/-- A call that tells whether the state changed tells so truly. -/
theorem changes_of_answer {call : CellCall} {changed : Bool}
    (h : (w.call call).1 = .tried changed) : changed ↔ w.Changes call := by
  cases call with
  | tryTransition move =>
    rw [← CellAnswer.tried.inj h]
    exact w.cell.fst_tryTransition move
  | transition | reset | look => cases h

/-- Whatever was called on a cell since someone subscribed to it: the subscriber has news exactly
when a call since the last look changed the published state. A call that answers a fault, or whose
move fails, changes nothing at all, and trying a move tells whether the state changed. -/
theorem notices_changes (c : StateCell) (calls : List CellCall) :
    (((subscribe c).run calls).hasNews ↔
      ∃ front call back, calls = front ++ call :: back ∧ .look ∉ back ∧
        ((subscribe c).run (front ++ [call])).cell.state ≠ ((subscribe c).run front).cell.state) ∧
    ∀ call, let w := (subscribe c).run calls
      (call.FailsIn w.cell.state ∨ (∃ fault, (w.call call).1 = .moved (.error fault)) →
        (w.call call).2 = w) ∧
      ∀ changed, (w.call call).1 = .tried changed →
        (changed ↔ (w.call call).2.cell.state ≠ w.cell.state) := by
  constructor
  · rw [hasNews_run]
    simp only [ChangedSinceLook, Changes, run_concat]
  · intro call w
    constructor
    · rintro (hfails | ⟨fault, hfault⟩)
      · exact call_of_failsIn hfails
      · exact call_of_failsIn (failsIn_of_answer hfault)
    · intro changed hanswer
      exact changes_of_answer hanswer

/-- To `surfaceReady` and back, with two moves in between that change nothing: one changes its
candidate and then fails, the other changes its candidate back. -/
def thereAndBack : List CellCall :=
  [.look, .transition .surfaceReady, .transition (.chain [.beginRendering, .surfaceReady]),
    .tryTransition (.chain [.reset, .surfaceReady]), .reset]

/-- A change is noticed although it was undone, and the move that fails changes nothing. -/
theorem notices_change_undone :
    ((subscribe .new).run thereAndBack).hasNews ∧
    ((subscribe .new).run thereAndBack).cell.state = StateCell.new.state ∧
    (subscribe .new).run (thereAndBack.take 3) = (subscribe .new).run (thereAndBack.take 2) := by
  have hnews := (notices_changes .new thereAndBack).1.mpr
    ⟨[.look], .transition .surfaceReady, thereAndBack.drop 2, rfl, by simp [thereAndBack], by decide⟩
  have hfails := ((notices_changes .new (thereAndBack.take 2)).2
    (.transition (.chain [.beginRendering, .surfaceReady]))).1
      (.inl ⟨_, rfl, .invalidState .surfaceWhileActive, rfl⟩)
  exact ⟨hnews, rfl, hfails⟩

end WatchedCell

end AviPlayback
