import AviPlayback.Playback.Session
import AviPlayback.Proofs.Playback.Clock

/-!
The same stage and the same session on another surface. What they do does not look at the surface,
but for the pictures that it is given and the sizes that it is told.
-/
set_option autoImplicit false

namespace AviPlayback

/-- Two kinds of surfaces that differ only in the pictures they refuse. Those that are related
panic at the same pictures and take a new size alike, which leaves them related, and decoders read
the same where either of them is. -/
structure RefusalsAside (D : Type) {S T : Type} [FrameReader D S] [FrameReader D T] [FrameSink S]
    [FrameSink T] (rel : S → T → Prop) : Prop where
  panics : ∀ {s t}, rel s t → ∀ picture,
    (FrameSink.present t picture).1 = .panicked ↔ (FrameSink.present s picture).1 = .panicked
  presented : ∀ {s t}, rel s t → ∀ picture,
    rel (FrameSink.present s picture).2 (FrameSink.present t picture).2
  resize : ∀ {s t}, rel s t → ∀ width height,
    (FrameSink.resize t width height).1 = (FrameSink.resize s width height).1
  resized : ∀ {s t}, rel s t → ∀ width height,
    rel (FrameSink.resize s width height).2 (FrameSink.resize t width height).2
  read : ∀ {s t}, rel s t → ∀ (d : D) capacity,
    FrameReader.read t d capacity = FrameReader.read s d capacity

namespace RefusalsAside

variable {D S T : Type} [FrameReader D S] [FrameReader D T] [FrameSink S] [FrameSink T]
  {rel : S → T → Prop}

theorem fetch (h : RefusalsAside D rel) {s : S} {t : T} (hrel : rel s t) (d : D) (capacity : Nat) :
    FrameReader.fetch t d capacity = FrameReader.fetch s d capacity := by
  rw [FrameReader.fetch, FrameReader.fetch, h.read hrel]

/-- Two related surfaces, of which the first is asked. -/
structure Pair (h : RefusalsAside D rel) where
  left : S
  right : T
  related : rel left right

namespace Pair

variable {h : RefusalsAside D rel}

instance : FrameSink h.Pair where
  present x picture :=
    ((FrameSink.present x.left picture).1,
      ⟨(FrameSink.present x.left picture).2, (FrameSink.present x.right picture).2,
        h.presented x.related picture⟩)
  resize x width height :=
    ((FrameSink.resize x.left width height).1,
      ⟨(FrameSink.resize x.left width height).2, (FrameSink.resize x.right width height).2,
        h.resized x.related width height⟩)

instance : FrameReader D h.Pair := ⟨fun x => FrameReader.read x.left⟩

theorem refusalsAside_left : RefusalsAside D fun (x : h.Pair) s => s = x.left where
  panics := by rintro x _ rfl picture; exact .rfl
  presented := by rintro x _ rfl picture; rfl
  resize := by rintro x _ rfl width height; rfl
  resized := by rintro x _ rfl width height; rfl
  read := by rintro x _ rfl d capacity; rfl

theorem refusalsAside_right : RefusalsAside D fun (x : h.Pair) t => t = x.right where
  panics := by rintro x _ rfl picture; exact h.panics x.related picture
  presented := by rintro x _ rfl picture; rfl
  resize := by rintro x _ rfl width height; exact h.resize x.related width height
  resized := by rintro x _ rfl width height; rfl
  read := by rintro x _ rfl d capacity; exact h.read x.related d capacity

end Pair

end RefusalsAside

/-- A map between surfaces that changes only which pictures are refused. -/
abbrev KeepsSinks (D : Type) {S T : Type} [FrameReader D S] [FrameReader D T] [FrameSink S]
    [FrameSink T] (f : S → T) : Prop := RefusalsAside D fun s t => t = f s

namespace Stage

variable {D S T : Type} (f : S → T)

def mapSink (s : Stage D S) : Stage D T := ⟨s.leases, f s.sink, s.now, s.history⟩

@[simp] theorem mapSink_leases (s : Stage D S) : (s.mapSink f).leases = s.leases := rfl

@[simp] theorem mapSink_sink (s : Stage D S) : (s.mapSink f).sink = f s.sink := rfl

@[simp] theorem mapSink_now (s : Stage D S) : (s.mapSink f).now = s.now := rfl

@[simp] theorem mapSink_history (s : Stage D S) : (s.mapSink f).history = s.history := rfl

@[simp] theorem record_mapSink (s : Stage D S) (e : Event) :
    (s.mapSink f).record e = (s.record e).mapSink f := rfl

@[simp] theorem release_mapSink (s : Stage D S) (lease : Nat) :
    (s.mapSink f).release lease = (s.release lease).mapSink f := by
  rw [release, release, mapSink_leases]
  split
  · rfl
  · next l hl => by_cases hlast : l.holders = 1 <;> simp [hlast, mapSink, record]

@[simp] theorem putDecoder_mapSink (s : Stage D S) (lease : Nat) (d : D) :
    (s.mapSink f).putDecoder lease d = (s.putDecoder lease d).mapSink f := rfl

@[simp] theorem decoder?_mapSink (s : Stage D S) (lease : Nat) :
    (s.mapSink f).decoder? lease = s.decoder? lease := rfl

section

variable [FrameReader D S] [FrameReader D T] [FrameSink S] [FrameSink T] {f} (hf : KeepsSinks D f)

include hf

theorem present_mapSink (s : Stage D S) (picture : PixelBuffer) :
    ((s.mapSink f).present picture).2 = (s.present picture).2.mapSink f ∧
    (((s.mapSink f).present picture).1 = .panicked ↔ (s.present picture).1 = .panicked) := by
  have hsink : (FrameSink.present (f s.sink) picture).2 = f (FrameSink.present s.sink picture).2 :=
    hf.presented rfl picture
  exact ⟨congrArg (fun sink => Stage.record ⟨s.leases, sink, s.now, s.history⟩ (.presented picture))
    hsink, hf.panics rfl picture⟩

theorem resize_mapSink (s : Stage D S) (width height : Nat) :
    (s.mapSink f).resize width height = (s.resize width height).map id (mapSink f) := by
  have hsink : (FrameSink.resize (f s.sink) width height).2 =
      f (FrameSink.resize s.sink width height).2 := hf.resized rfl width height
  exact Prod.ext (hf.resize rfl width height) <|
    congrArg (fun sink => Stage.record ⟨s.leases, sink, s.now, s.history⟩ (.resized width height))
      hsink

end

end Stage

namespace Session

variable {D S T L : Type} (f : S → T)

def mapSink (s : Session D S L) : Session D T L :=
  ⟨s.stage.mapSink f, s.options, s.cell, s.handle, s.surface, s.worker⟩

@[simp] theorem mapSink_stage (s : Session D S L) : (s.mapSink f).stage = s.stage.mapSink f := rfl

@[simp] theorem mapSink_options (s : Session D S L) : (s.mapSink f).options = s.options := rfl

@[simp] theorem mapSink_handle (s : Session D S L) : (s.mapSink f).handle = s.handle := rfl

@[simp] theorem mapSink_surface (s : Session D S L) : (s.mapSink f).surface = s.surface := rfl

@[simp] theorem mapSink_worker (s : Session D S L) : (s.mapSink f).worker = s.worker := rfl

@[simp] theorem isOpen_mapSink (s : Session D S L) : (s.mapSink f).isOpen = s.isOpen := rfl

@[simp] theorem isQuiet_mapSink (s : Session D S L) : (s.mapSink f).isQuiet = s.isQuiet := rfl

@[simp] theorem transition_mapSink (s : Session D S L) (move : Transition) :
    (s.mapSink f).transition move = (s.transition move).map id (mapSink f) := by
  rw [transition, transition, show (s.mapSink f).cell = s.cell from rfl]
  by_cases hsame : (s.cell.transition move).2.version = s.cell.version <;>
    simp [hsame, mapSink, record]

@[simp] theorem tryTransition_mapSink (s : Session D S L) (move : Transition) :
    (s.mapSink f).tryTransition move = (s.tryTransition move).mapSink f := by
  simp [tryTransition]

@[simp] theorem openDecoder_mapSink (s : Session D S L) (source : String → Except PlayerFault D)
    (path : String) :
    (s.mapSink f).openDecoder source path = (s.openDecoder source path).map id (mapSink f) := by
  rw [openDecoder, openDecoder, isOpen_mapSink]
  cases s.isOpen with
  | true => rfl
  | false => cases source path <;> rfl

@[simp] theorem close_mapSink (s : Session D S L) :
    (s.mapSink f).close = s.close.map id (mapSink f) := by
  rw [close, close, mapSink_handle]
  cases s.handle with
  | none => rfl
  | some handle => simp [mapSink]

@[simp] theorem pacer_mapSink [VideoDecoder D] (s : Session D S L) :
    (s.mapSink f).pacer = s.pacer := rfl

@[simp] theorem beginSurface_mapSink (s : Session D S L) :
    (s.mapSink f).beginSurface = s.beginSurface.map id (mapSink f) := by
  rw [beginSurface, beginSurface, isOpen_mapSink, transition_mapSink]
  cases s.isOpen with
  | false => rfl
  | true => obtain ⟨_ | _, _⟩ := s.transition .surfaceReady <;> rfl

@[simp] theorem beginRendering_mapSink (s : Session D S L) (loop : L) :
    (s.mapSink f).beginRendering loop = (s.beginRendering loop).map id (mapSink f) := by
  rw [beginRendering, beginRendering, mapSink_surface, transition_mapSink]
  cases s.surface with
  | false => rfl
  | true =>
    obtain ⟨_ | _, moved⟩ := s.transition .beginRendering
    · rfl
    · cases hrunning : moved.worker.any Task.isRunning <;> simp [hrunning, mapSink, record]

@[simp] theorem leaveSurface_mapSink (s : Session D S L) :
    (s.mapSink f).leaveSurface = s.leaveSurface.mapSink f := by
  rw [leaveSurface, leaveSurface, mapSink_surface]
  cases s.surface with
  | false => rfl
  | true =>
    have hlost := tryTransition_mapSink f { s with surface := false } .surfaceLost
    simp only [mapSink] at hlost
    simp [hlost, mapSink]

@[simp] theorem joinWorker_mapSink (s : Session D S L) :
    (s.mapSink f).joinWorker = s.joinWorker.map id (mapSink f) := by
  rw [joinWorker, joinWorker, mapSink_worker]
  cases s.worker.bind Task.outcome? <;> rfl

@[simp] theorem closeAndReset_mapSink (s : Session D S L) :
    (s.mapSink f).closeAndReset = s.closeAndReset.mapSink f := by
  simp [closeAndReset]

@[simp] theorem setLoop_mapSink (s : Session D S L) (loop : L) (cancelled : Bool) :
    (s.mapSink f).setLoop loop cancelled = (s.setLoop loop cancelled).mapSink f := rfl

section

variable [Clocked (Session D S L)] [Clocked (Session D T L)]
  (hf : Clocked.Respects (mapSink f : Session D S L → Session D T L))

include hf

theorem endSurface_mapSink (s : Session D S L) :
    (s.mapSink f).endSurface = s.endSurface.map id (mapSink f) := by
  rw [endSurface, endSurface, mapSink_surface, leaveSurface_mapSink,
    hf.await (isQuiet_mapSink f), joinWorker_mapSink]
  cases s.surface <;> rfl

theorem shutdown_mapSink (s : Session D S L) :
    (s.mapSink f).shutdown = s.shutdown.map id (mapSink f) := by
  simp [shutdown, endSurface_mapSink f hf]

end

end Session

end AviPlayback
