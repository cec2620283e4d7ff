import Mathlib
import Demux.Proofs.Lockstep
import Demux.Proofs.Moves
import Demux.Session

/-!
# Sessions, move by move

Every operation of a session makes some moves on its station (`Session.moves`), and leaves the
station as they do (`Session.station_run`).  A worker moves the station through its sink alone, so
its moves are what a sink that records them has recorded (`Station.recorder`), and recording changes
nothing else (`Sink.Simulates`).
-/

namespace Demux

variable {f : Format}

namespace Station

/-- A sink that does what a station does, and records the moves. -/
def recorder : Sink (Station f × List (Move f)) where
  accept frame reported s :=
    ((s.1.handle frame reported).1,
      (s.1.handle frame reported).2, s.2 ++ [.act (.handle frame reported)])
  note event s := (sink.note event s.1, s.2 ++ [.note event])

end Station

/-- One sink does the same as another, up to a relation of their states. -/
structure Sink.Simulates {σ τ : Type} (R : σ → τ → Prop) (a : Sink σ) (b : Sink τ) : Prop where
  accept : ∀ frame reported s t, R s t →
    (a.accept frame reported s).1 = (b.accept frame reported t).1 ∧
      R (a.accept frame reported s).2 (b.accept frame reported t).2
  note : ∀ event s t, R s t → R (a.note event s) (b.note event t)

theorem Sink.Simulates.matches {σ τ : Type} {R : σ → τ → Prop} {a : Sink σ} {b : Sink τ}
    (h : Sink.Simulates R a b) : Sink.Matches Eq R a b where
  accept := by
    intro x y s t hxy hst
    subst hxy
    exact h.accept _ _ s t hst
  note hst event := h.note event _ _ hst

namespace Worker

variable {σ τ : Type} {R : σ → τ → Prop} {a : Sink σ} {b : Sink τ}

theorem poll_simulates (h : Sink.Simulates R a b) (w : Worker) {s : σ} {t : τ} (hst : R s t) :
    (w.poll a s).1 = (w.poll b t).1 ∧ (w.poll a s).2.1 = (w.poll b t).2.1 ∧
      R (w.poll a s).2.2 (w.poll b t).2.2 := by
  obtain ⟨hresult, -, hafter⟩ := poll_matches h.matches (matches_self (fun _ => rfl) w) hst
  exact ⟨hresult, (poll_worker w s).trans (poll_worker w t).symm, hafter⟩

theorem run_simulates (h : Sink.Simulates R a b) (w : Worker) (stopped : Bool) {s : σ} {t : τ}
    (hst : R s t) :
    (w.run a stopped s).result = (w.run b stopped t).result ∧
      (w.run a stopped s).signals = (w.run b stopped t).signals ∧
      R (w.run a stopped s).state (w.run b stopped t).state :=
  run_matches h.matches (matches_self (fun _ => rfl) w) stopped hst

end Worker

namespace Station

/-- Recording is transparent: the recorded station is the station, and the moves lead to it. -/
theorem recorder_simulates (start : Station f) :
    Sink.Simulates (fun s t => s.1 = t ∧ t = start.play s.2) recorder (sink (f := f)) where
  accept := by
    rintro frame reported ⟨st, moves⟩ t ⟨rfl, hplay⟩
    refine ⟨rfl, rfl, ?_⟩
    rw [recorder, play_snoc, ← hplay]
    rfl
  note := by
    rintro event ⟨st, moves⟩ t ⟨rfl, hplay⟩
    refine ⟨rfl, ?_⟩
    rw [recorder, play_snoc, ← hplay]
    rfl

end Station

namespace Session

open Station (Move Deed)

/-- The moves that an operation makes on the station. -/
def moves (s : Session f) : Op f → List (Move f)
  | .act action => [.act action]
  | .countersFor _ | .stats => [.ask]
  | .receive queue disposal =>
      .receive queue :: match disposal, (s.station.receive queue).1 with
        | .release pool, some b => [.release pool b]
        | _, _ => []
  | .acquire pool len _ => [.acquire pool len]
  | .send name queue => (s.held.find? name).toList.map (.send queue)
  | .release name pool => (s.held.find? name).toList.map (.release pool)
  | .poll name => match s.workers.find? name with
      | none => []
      | some w => (w.poll Station.recorder (s.station, [])).2.2.2
  | .run name stopped => match s.workers.find? name with
      | none => []
      | some w => (w.run Station.recorder stopped (s.station, [])).state.2
  | .tryStats | .block _ _ | .fill _ _ | .clear _ | .intoBlock _ | .employ _ _ => []

/-- The moves of a run, in order. -/
def allMoves (s : Session f) : List (Op f) → List (Move f)
  | [] => []
  | op :: ops => s.moves op ++ (s.step op).2.allMoves ops

/-- What came of the moves of a run. -/
def deeds (s : Session f) (ops : List (Op f)) : List Deed := s.station.deeds (s.allMoves ops)

/-- Keeping a buffer is no matter of the station. -/
@[simp] theorem station_keep (s : Session f) (name : Option String) (b : Buffer) :
    (s.keep name b).station = s.station := by
  cases name <;> rfl

/-- An operation leaves the station as its moves do. -/
theorem station_step (s : Session f) (op : Op f) :
    (s.step op).2.station = s.station.play (s.moves op) := by
  cases op with
  | act action => rfl
  | countersFor queue => rfl
  | stats => rfl
  | tryStats => rfl
  | receive queue disposal =>
      rcases hreceive : s.station.receive queue with ⟨_ | b, station⟩
      · cases disposal <;>
          simp [step, moves, hreceive, Station.play, Station.move]
      · cases disposal <;>
          simp [step, moves, hreceive, dispose, Station.play, Station.move]
  | acquire pool len name =>
      rcases hacquire : s.station.acquire pool len with ⟨e | b, station⟩ <;>
        simp [step, moves, hacquire, Station.play, Station.move]
  | block data name => exact station_keep s _ _
  | fill name data =>
      rcases hheld : s.held.find? name with _ | b
      · simp [step, moves, withHeld, hheld, Station.play]
      · cases hfill : b.fill data <;>
          simp [step, moves, withHeld, hheld, hfill, Station.play]
  | clear name =>
      rcases hheld : s.held.find? name with _ | b <;>
        simp [step, moves, withHeld, hheld, Station.play]
  | send name queue =>
      rcases hheld : s.held.find? name with _ | b
      · simp [step, moves, withHeld, hheld, Station.play]
      · rcases hsend : s.station.send queue b with ⟨_ | refused, station⟩ <;>
          simp [step, moves, withHeld, hheld, hsend, Station.play, Station.move]
  | release name pool =>
      rcases hheld : s.held.find? name with _ | b <;>
        simp [step, moves, withHeld, hheld, Station.play, Station.move]
  | intoBlock name =>
      rcases hheld : s.held.find? name with _ | b <;>
        simp [step, moves, withHeld, hheld, Station.play]
  | employ name worker => rfl
  | poll name =>
      rcases hworker : s.workers.find? name with _ | w
      · simp [step, moves, withWorker, hworker, Station.play]
      · have hpoll := Worker.poll_simulates (Station.recorder_simulates s.station) w
          (s := (s.station, [])) (t := s.station) ⟨rfl, rfl⟩
        simpa only [step, moves, withWorker, hworker] using hpoll.2.2.2
  | run name stopped =>
      rcases hworker : s.workers.find? name with _ | w
      · simp [step, moves, withWorker, hworker, Station.play]
      · have hrun := Worker.run_simulates (Station.recorder_simulates s.station) w stopped
          (s := (s.station, [])) (t := s.station) ⟨rfl, rfl⟩
        simpa only [step, moves, withWorker, hworker] using hrun.2.2.2

/-- A run leaves the station as its moves do. -/
theorem station_run (s : Session f) (ops : List (Op f)) :
    (s.run ops).2.station = s.station.play (s.allMoves ops) := by
  induction ops generalizing s with
  | nil => rfl
  | cons op ops ih =>
      rw [allMoves, Station.play_append, ← station_step]
      exact ih _

/-- Nobody holds the lock between two operations. -/
theorem free_run {s : Session f} (hfree : s.station.lock.held = false) (ops : List (Op f)) :
    (s.run ops).2.station.lock.held = false := by
  rw [station_run]
  exact Station.free_play hfree _

end Session

end Demux
