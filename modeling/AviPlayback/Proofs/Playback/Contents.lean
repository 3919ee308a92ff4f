import AviPlayback.Proofs.Playback.SessionCalls

/-!
What a stage has: which decoder has which name after each operation (`Stage.decoder?`), that a stage
whose decoders and surface are of some kind stays one (`Stage.Among`), what its record tells of
requests, draws and pictures (`Stage.noted`), and when (`Stage.traced`), on which stages the same
has been drawn (`Stage.SameDraws`), and which surfaces never panic (`FrameSink.Calm`).
-/
set_option autoImplicit false

namespace AviPlayback

namespace Stage

variable {D S : Type} {s : Stage D S} {lease i : Nat}

theorem decoder?_share (s : Stage D S) (lease i : Nat) :
    (s.share lease).decoder? i = s.decoder? i := by
  simp only [decoder?, share, List.getElem?_modify]
  cases s.leases[i]? with
  | none => rfl
  | some l => by_cases hi : lease = i <;> simp [hi]

theorem decoder?_release (s : Stage D S) (lease i : Nat) :
    (s.release lease).decoder? i = s.decoder? i := by
  cases hl : s.leases[lease]? with
  | none => simp [release, hl]
  | some l =>
    rw [decoder?, leases_release hl, List.getElem?_set]
    by_cases hi : lease = i
    · subst hi
      obtain ⟨hlt, rfl⟩ := List.getElem?_eq_some_iff.mp hl
      simp [decoder?, hlt]
    · simp [decoder?, hi]

theorem decoder?_putDecoder (s : Stage D S) (lease i : Nat) (d : D) :
    (s.putDecoder lease d).decoder? i =
      if lease = i then (s.decoder? i).map fun _ => d else s.decoder? i := by
  simp only [decoder?, putDecoder, record, List.getElem?_modify]
  cases s.leases[i]? with
  | none => simp
  | some l => by_cases hi : lease = i <;> simp [hi]

theorem decoder?_takeIn (s : Stage D S) (d : D) (i : Nat) :
    (s.takeIn d).decoder? i = if i = s.nextLease then some d else s.decoder? i := by
  simp only [decoder?, takeIn, record, nextLease]
  rcases Nat.lt_trichotomy i s.leases.length with hi | rfl | hi
  · simp [List.getElem?_append_left hi, Nat.ne_of_lt hi]
  · simp
  · simp [List.getElem?_append_right (Nat.le_of_lt hi), List.getElem?_eq_none (Nat.le_of_lt hi),
      Nat.ne_of_gt hi, Nat.sub_ne_zero_of_lt hi]

theorem decoder?_mapDecoders (s : Stage D S) (f : D → D) (i : Nat) :
    (s.mapDecoders f).decoder? i = (s.decoder? i).map f := by
  simp only [decoder?, mapDecoders, List.getElem?_map]
  cases s.leases[i]? <;> rfl

theorem sink_release (s : Stage D S) (lease : Nat) : (s.release lease).sink = s.sink := by
  rw [release]
  split
  · rfl
  · dsimp only
    split <;> rfl

theorem decoder?_moveTo {L : Type} (t : Session D S L) (next : PlaybackState) :
    (t.moveTo next).stage.decoder? = t.stage.decoder? := by
  rw [Session.moveTo]
  split <;> rfl

theorem sink_moveTo {L : Type} (t : Session D S L) (next : PlaybackState) :
    (t.moveTo next).stage.sink = t.stage.sink := by
  rw [Session.moveTo]
  split <;> rfl

/-- All decoders, and the surface, are of some kind. -/
structure Among (decoders : D → Prop) (sinks : S → Prop) (s : Stage D S) : Prop where
  decoder : ∀ i, ∀ d ∈ s.decoder? i, decoders d
  sink : sinks s.sink

namespace Among

variable {decoders : D → Prop} {sinks : S → Prop}

theorem empty {sink : S} (h : sinks sink) : Among decoders sinks (.empty sink : Stage D S) :=
  ⟨nofun, h⟩

/-- Only the decoders and the surface matter. -/
theorem congr {t : Stage D S} (h : s.Among decoders sinks) (hdecoder : t.decoder? = s.decoder?)
    (hsink : t.sink = s.sink) : t.Among decoders sinks :=
  ⟨hdecoder ▸ h.decoder, hsink ▸ h.sink⟩

theorem record (h : s.Among decoders sinks) (e : Event) : (s.record e).Among decoders sinks :=
  h.congr rfl rfl

theorem share (h : s.Among decoders sinks) (lease : Nat) : (s.share lease).Among decoders sinks :=
  h.congr (funext (s.decoder?_share lease)) rfl

theorem release (h : s.Among decoders sinks) (lease : Nat) :
    (s.release lease).Among decoders sinks :=
  h.congr (funext (s.decoder?_release lease)) (s.sink_release lease)

theorem takeIn (h : s.Among decoders sinks) {d : D} (hd : decoders d) :
    (s.takeIn d).Among decoders sinks := by
  refine ⟨fun i e he => ?_, h.sink⟩
  rw [decoder?_takeIn] at he
  split at he
  · cases he
    exact hd
  · exact h.decoder i e he

theorem putDecoder (h : s.Among decoders sinks) (lease : Nat) {d : D} (hd : decoders d) :
    (s.putDecoder lease d).Among decoders sinks := by
  refine ⟨fun i e he => ?_, h.sink⟩
  rw [decoder?_putDecoder] at he
  split at he
  · obtain ⟨_, _, rfl⟩ := Option.map_eq_some_iff.mp he
    exact hd
  · exact h.decoder i e he

theorem mapDecoders (h : s.Among decoders sinks) {f : D → D}
    (hf : ∀ d, decoders d → decoders (f d)) :
    (s.mapDecoders f).Among decoders sinks := by
  refine ⟨fun i e he => ?_, h.sink⟩
  rw [decoder?_mapDecoders] at he
  obtain ⟨d, hd, rfl⟩ := Option.map_eq_some_iff.mp he
  exact hf d (h.decoder i d hd)

theorem setSink (h : s.Among decoders sinks) {sink : S} (hsink : sinks sink) :
    { s with sink }.Among decoders sinks := ⟨h.decoder, hsink⟩

theorem moveTo {L : Type} {t : Session D S L} (h : t.stage.Among decoders sinks)
    (next : PlaybackState) : (t.moveTo next).stage.Among decoders sinks :=
  h.congr (decoder?_moveTo t next) (sink_moveTo t next)

theorem close {L : Type} {t : Session D S L} (h : t.stage.Among decoders sinks) :
    t.close.2.stage.Among decoders sinks := by
  rw [Session.close_snd]
  cases t.handle with
  | none => exact h
  | some handle => exact h.release _

end Among

/-! ### What the record tells -/

/-- What the record tells of some moments, earliest first. -/
def traced {A : Type} (g : Moment → Option A) (s : Stage D S) : List A := s.log.filterMap g

/-- What the record tells of some events, earliest first. -/
def noted {A : Type} (f : Event → Option A) (s : Stage D S) : List A :=
  s.log.filterMap fun m => f m.event

section

variable {A : Type} (g : Moment → Option A) (f : Event → Option A)

@[simp] theorem traced_record (s : Stage D S) (e : Event) :
    (s.record e).traced g = s.traced g ++ (g ⟨s.now, e⟩).toList := by
  simp only [traced, log, record, List.reverse_cons, List.filterMap_append]
  cases h : g ⟨s.now, e⟩ <;> simp [h]

theorem traced_record_of_none {e : Event} (s : Stage D S) (he : g ⟨s.now, e⟩ = none) :
    (s.record e).traced g = s.traced g := by
  rw [traced_record, he, Option.toList_none, List.append_nil]

theorem traced_release (s : Stage D S) (lease : Nat)
    (hg : ∀ time i, g ⟨time, .released i⟩ = none) :
    (s.release lease).traced g = s.traced g := by
  rw [release]
  split
  · rfl
  · dsimp only
    split
    · exact traced_record_of_none g _ (hg _ _)
    · rfl

theorem traced_moveTo {L : Type} (t : Session D S L) (next : PlaybackState)
    (hg : ∀ time state, g ⟨time, .published state⟩ = none) :
    (t.moveTo next).stage.traced g = t.stage.traced g := by
  rw [Session.moveTo]
  split
  · rfl
  · exact traced_record_of_none g _ (hg _ _)

@[simp] theorem noted_record (s : Stage D S) (e : Event) :
    (s.record e).noted f = s.noted f ++ (f e).toList := traced_record _ s e

theorem noted_release (hf : ∀ i, f (.released i) = none) (s : Stage D S) (lease : Nat) :
    (s.release lease).noted f = s.noted f := traced_release _ s lease fun _ => hf

theorem noted_moveTo {L : Type} (hf : ∀ state, f (.published state) = none) (t : Session D S L)
    (next : PlaybackState) : (t.moveTo next).stage.noted f = t.stage.noted f :=
  traced_moveTo _ t next fun _ => hf

end

end Stage

namespace Event

def requested? : Event → Option Nat
  | requested seq => some seq
  | _ => none

def drawn? : Event → Option Nat
  | drawn seq => some seq
  | _ => none

def picture? : Event → Option PixelBuffer
  | presented picture => some picture
  | _ => none

def published? : Event → Option PlaybackState
  | published state => some state
  | _ => none

end Event

namespace Stage

variable {D S : Type}

/-- The states published. -/
def publications (s : Stage D S) : List PlaybackState := s.noted Event.published?

theorem publications_moveTo {L : Type} {session : Session D S L} {next : PlaybackState}
    (hnew : next ≠ session.state) :
    (session.moveTo next).stage.publications = session.stage.publications ++ [next] := by
  rw [Session.moveTo, if_neg hnew]
  exact noted_record _ _ _

/-- When states were published, and which. -/
def publishedAt (s : Stage D S) : List (Nat × PlaybackState) :=
  s.traced fun m => m.event.published?.map (m.time, ·)

theorem map_snd_publishedAt (s : Stage D S) : s.publishedAt.map Prod.snd = s.publications := by
  rw [publishedAt, traced, List.map_filterMap]
  refine congrArg (s.log.filterMap ·) (funext fun m => ?_)
  cases m.event.published? <;> rfl

theorem publishedAt_moveTo {L : Type} {session : Session D S L} {next : PlaybackState}
    (hnew : next ≠ session.state) : (session.moveTo next).stage.publishedAt =
      session.stage.publishedAt ++ [(session.stage.now, next)] := by
  rw [Session.moveTo, if_neg hnew]
  exact traced_record _ _ _

end Stage

/-! ### What a draw goes by -/

namespace Stage

variable {D S : Type} {s t u : Stage D S}

/-- The draws begun and the pictures shown, latest first, with their times. -/
def drawLog (s : Stage D S) : List Moment := s.history.filter (·.event.isOfDraw)

theorem drawLog_record {e : Event} (he : e.isOfDraw = false) (s : Stage D S) :
    (s.record e).drawLog = s.drawLog := by
  simp [drawLog, record, he]

/-- Two stages on which the same has been drawn, and on which the next draw does the same. -/
structure SameDraws (s t : Stage D S) : Prop where
  decoder? : t.decoder? = s.decoder?
  sink : t.sink = s.sink
  now : t.now = s.now
  drawLog : t.drawLog = s.drawLog

namespace SameDraws

theorem refl (s : Stage D S) : SameDraws s s := ⟨rfl, rfl, rfl, rfl⟩

theorem symm (h : SameDraws s t) : SameDraws t s :=
  ⟨h.decoder?.symm, h.sink.symm, h.now.symm, h.drawLog.symm⟩

theorem trans (h : SameDraws s t) (h' : SameDraws t u) : SameDraws s u :=
  ⟨h'.decoder?.trans h.decoder?, h'.sink.trans h.sink, h'.now.trans h.now,
    h'.drawLog.trans h.drawLog⟩

theorem shown_eq (h : SameDraws s t) : t.shown = s.shown := by
  have hlog (u : Stage D S) : u.shown = u.drawLog.filter (·.event.isPresented) := by
    rw [shown, Stage.drawLog, List.filter_filter]
    congr 1
    funext m
    cases m.event <;> rfl
  rw [hlog, hlog, h.drawLog]

theorem noted_eq {A : Type} {f : Event → Option A} (h : SameDraws s t)
    (hf : ∀ {e : Event}, e.isOfDraw = false → f e = none) : t.noted f = s.noted f := by
  have hlog (u : Stage D S) : u.noted f = u.drawLog.reverse.filterMap fun m => f m.event := by
    rw [noted, log, Stage.drawLog, ← List.filter_reverse, List.filterMap_filter]
    congr 1
    funext m
    split
    · rfl
    · next hno => exact hf ((Bool.not_eq_true _).mp hno)
  rw [hlog, hlog, h.drawLog]

/-! What is not part of a draw -/

theorem record_aside (s : Stage D S) {e : Event} (he : e.isOfDraw = false) :
    SameDraws s (s.record e) := ⟨rfl, rfl, rfl, drawLog_record he s⟩

theorem release (s : Stage D S) (lease : Nat) : SameDraws s (s.release lease) := by
  refine ⟨funext (s.decoder?_release lease), s.sink_release lease, s.now_release lease, ?_⟩
  rw [Stage.release]
  split
  · rfl
  · dsimp only
    split
    · exact drawLog_record rfl _
    · rfl

theorem moveTo {L : Type} (session : Session D S L) (next : PlaybackState) :
    SameDraws session.stage (session.moveTo next).stage := by
  rw [Session.moveTo]
  split
  · exact .refl _
  · exact record_aside session.stage rfl

theorem close {L : Type} (session : Session D S L) :
    SameDraws session.stage session.close.2.stage := by
  rw [Session.close_snd]
  cases session.handle with
  | none => exact .refl _
  | some handle => exact release _ _

theorem closeAndReset {L : Type} (session : Session D S L) :
    SameDraws session.stage session.closeAndReset.stage := by
  rw [Session.closeAndReset_eq]
  exact (close session).trans (moveTo _ _)

/-- Work that does not draw. -/
theorem of_worked {lease : Nat} (h : s.Worked lease false t) : SameDraws s t := by
  induction h with
  | start => exact .refl s
  | read _ hdraws => cases hdraws
  | surface _ hdraws => cases hdraws
  | aside _ hdraws _ ih => exact ih.trans (record_aside _ (by simpa using hdraws))

/-! What is part of a draw -/

theorem record (h : SameDraws s t) (e : Event) : SameDraws (s.record e) (t.record e) := by
  refine ⟨h.decoder?, h.sink, h.now, ?_⟩
  have hlog := h.drawLog
  simp only [Stage.drawLog, Stage.record, List.filter_cons, h.now] at hlog ⊢
  rw [hlog]

theorem putDecoder (h : SameDraws s t) (lease : Nat) (d : D) :
    SameDraws (s.putDecoder lease d) (t.putDecoder lease d) := by
  refine ⟨?_, h.sink, h.now, (h.record (.used lease)).drawLog⟩
  funext i
  rw [decoder?_putDecoder, decoder?_putDecoder, h.decoder?]

theorem setSink (h : SameDraws s t) (sink : S) : SameDraws { s with sink } { t with sink } :=
  ⟨h.decoder?, rfl, h.now, h.drawLog⟩

theorem present [FrameSink S] (h : SameDraws s t) (picture : PixelBuffer) :
    SameDraws (s.present picture).2 (t.present picture).2 := by
  rw [Stage.present, Stage.present, h.sink]
  exact (h.setSink _).record (.presented picture)

end SameDraws

end Stage

/-! ### Surfaces -/

/-- Surfaces of some kind that never panic. -/
def FrameSink.Calm {S : Type} [FrameSink S] (sinks : S → Prop) : Prop :=
  ∀ sink picture, sinks sink → (FrameSink.present sink picture).1 ≠ .panicked ∧
    sinks (FrameSink.present sink picture).2

/-- Scripted surfaces that are not told to panic. -/
theorem ScriptedSink.calm : FrameSink.Calm fun sink : ScriptedSink => sink.panicking = [] := by
  intro sink picture hsink
  refine ⟨?_, hsink⟩
  have hnone : sink.panicking.contains (sink.presented + 1) = false := by
    rw [hsink]
    rfl
  have hshown : (FrameSink.present sink picture).1 =
      if sink.failing.contains (sink.presented + 1) then .refused (.surface "sink refused")
      else .accepted := by
    simp only [FrameSink.present, present, hnone]
    rfl
  rw [hshown]
  split <;> nofun

end AviPlayback
