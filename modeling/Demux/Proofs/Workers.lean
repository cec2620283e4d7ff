import Mathlib
import Demux.Proofs.Captures
import Demux.Proofs.Collaboration
import Demux.Proofs.Sessions

/-!
# Workers dispatch what they capture

A worker moves its station in two ways: it has frames dealt with, and it reports events
(`Move.OfWorker`).  Reports only go to the journal, so the station after some calls of a worker is, up
to its journal (`Station.Alike`), the station after the frames that the worker captured were dealt with
directly, and so are the outcomes (`play_frames`).  Which frames these are follows from the script alone
(`handled_worker`).
-/

namespace Demux

variable {f : Format}

/-- Pools and queues that differ in the journal at most. -/
structure DataPlane.Alike (p q : DataPlane) : Prop where
  pools : p.pools = q.pools
  queues : p.queues = q.queues

namespace DataPlane

theorem alike_note {p q : DataPlane} (h : p.Alike q) (e e' : Event) : (p.note e).Alike (q.note e') :=
  ⟨h.pools, h.queues⟩

/-- What pools and queues do does not depend on the journal. -/
theorem alike_simulates (view : Option Stats) :
    Collaborators.Simulates Alike (collaborators view) (collaborators view) where
  acquire := by
    rintro pool len ⟨pools, queues, journal⟩ ⟨_, _, journal'⟩ ⟨rfl, rfl⟩
    simp only [collaborators, acquire]
    cases pools[pool]? with
    | none => exact ⟨rfl, rfl, rfl⟩
    | some slot => exact ⟨rfl, rfl, rfl⟩
  release := by
    rintro pool b ⟨pools, queues, journal⟩ ⟨_, _, journal'⟩ ⟨rfl, rfl⟩
    simp only [collaborators, release]
    cases pools[pool]? with
    | none => exact ⟨rfl, rfl⟩
    | some slot =>
        cases hdiscard : (slot.pool.release view b).1 with
        | none =>
            simp only [hdiscard]
            exact ⟨rfl, rfl⟩
        | some discard =>
            simp only [hdiscard]
            exact ⟨rfl, rfl⟩
  send := by
    rintro queue b ⟨pools, queues, journal⟩ ⟨_, _, journal'⟩ ⟨rfl, rfl⟩
    simp only [collaborators, send]
    cases queues[queue]? with
    | none => exact ⟨rfl, rfl, rfl⟩
    | some q => exact ⟨rfl, rfl, rfl⟩

end DataPlane

namespace Frame

/-- Have a frame dealt with. -/
def move (frame : Frame) : Station.Move f := .act (.handle frame.bytes frame.reported)

/-- Have a frame dealt with, in a session. -/
def op (frame : Frame) : Op f := .act (.handle frame.bytes frame.reported)

end Frame

namespace Station

/-- Stations that differ in the journal at most. -/
structure Alike (a b : Station f) : Prop where
  lock : a.lock = b.lock
  plane : a.plane.Alike b.plane

theorem alike_refl (st : Station f) : st.Alike st := ⟨rfl, rfl, rfl⟩

theorem Alike.trans {a b c : Station f} (h : a.Alike b) (h' : b.Alike c) : a.Alike c :=
  ⟨h.lock.trans h'.lock, h.plane.pools.trans h'.plane.pools, h.plane.queues.trans h'.plane.queues⟩

/-- What becomes of a frame does not depend on the journal. -/
theorem handle_alike {a b : Station f} (h : a.Alike b) (bytes : Bytes) (reported : ℕ) :
    (a.handle bytes reported).1 = (b.handle bytes reported).1 ∧
      (a.handle bytes reported).2.Alike (b.handle bytes reported).2 := by
  rcases a with ⟨lock, p⟩
  rcases b with ⟨_, q⟩
  obtain ⟨rfl, hplane⟩ := h
  obtain ⟨hreport, hdispatcher, hafter⟩ :=
    lock.value.handle_simulates (DataPlane.alike_simulates none) bytes reported hplane
  refine ⟨congrArg Report.outcome hreport, ?_, DataPlane.alike_note hafter _ _⟩
  exact congrArg lock.take.leave hdispatcher

/-- What becomes of some frames does not depend on the journal. -/
theorem play_alike {a b : Station f} (h : a.Alike b) (frames : List Frame) :
    (a.play (frames.map Frame.move)).Alike (b.play (frames.map Frame.move)) := by
  induction frames generalizing a b with
  | nil => exact h
  | cons frame frames ih => exact ih (handle_alike h frame.bytes frame.reported).2

/-- The frame that is dealt with in a move, if one is. -/
def Move.frame? : Move f → Option Frame
  | .act (.handle bytes reported) => some ⟨bytes, reported⟩
  | _ => none

/-- What the caller was told about a frame, if one was dealt with. -/
def Deed.outcome? : Deed → Option Outcome
  | .dispatched _ _ outcome => some outcome
  | _ => none

/-- The moves of workers. -/
inductive Move.OfWorker : Move f → Prop
  | frame (frame : Frame) : OfWorker frame.move
  | note (event : LoopEvent) : OfWorker (.note event)

/-- After moves of workers a station is as if the frames alone had been dealt with, with the same
outcomes. -/
theorem play_frames {moves : List (Move f)} (hmoves : ∀ m ∈ moves, m.OfWorker) {a b : Station f}
    (h : a.Alike b) :
    (a.play moves).Alike (b.play ((moves.filterMap Move.frame?).map Frame.move)) ∧
      (a.deeds moves).filterMap Deed.outcome? =
        (b.deeds ((moves.filterMap Move.frame?).map Frame.move)).filterMap Deed.outcome? := by
  induction moves generalizing a b with
  | nil => exact ⟨h, rfl⟩
  | cons m moves ih =>
      obtain ⟨hm, hrest⟩ := List.forall_mem_cons.mp hmoves
      cases hm with
      | frame frame =>
          obtain ⟨houtcome, halike⟩ := handle_alike h frame.bytes frame.reported
          obtain ⟨hplay, hdeeds⟩ := ih hrest halike
          exact ⟨hplay, congrArg₂ List.cons houtcome hdeeds⟩
      | note event =>
          -- A report moves only the one station, and only its journal.
          have halike : (a.move (.note event)).Alike b := ⟨h.lock, h.plane.pools, h.plane.queues⟩
          exact ih hrest halike

/-- The frames that were handed over are among the recorded moves. -/
theorem recorder_logs :
    (recorder (f := f)).Logs fun s => s.2.filterMap Move.frame? where
  accept bytes reported s := by
    simp only [recorder, List.filterMap_append]
    rfl
  note event s := by
    simp only [recorder, List.filterMap_append]
    exact List.append_nil _

/-- Only moves of workers are recorded. -/
theorem recorder_ofWorker :
    Sink.Simulates (fun s t => s = t ∧ ∀ m ∈ s.2, m.OfWorker) (recorder (f := f)) recorder where
  accept := by
    rintro bytes reported s _ ⟨rfl, hmoves⟩
    have hnew := List.forall_mem_singleton.mpr (Move.OfWorker.frame (f := f) ⟨bytes, reported⟩)
    exact ⟨rfl, rfl, List.forall_mem_append.mpr ⟨hmoves, hnew⟩⟩
  note := by
    rintro event s _ ⟨rfl, hmoves⟩
    have hnew := List.forall_mem_singleton.mpr (Move.OfWorker.note (f := f) event)
    exact ⟨rfl, List.forall_mem_append.mpr ⟨hmoves, hnew⟩⟩

end Station

/-- What an answer tells about frames that were dealt with. -/
def Answer.outcome? : Answer → Option Outcome
  | .handled outcome => some outcome
  | .polled (.ok outcome) _ => outcome
  | _ => none

/-- Something was put on a shelf under a name. -/
theorem Shelf.find?_put {α : Type} (s : Shelf α) (name : String) (a : α) :
    (s.put name a).find? name = some a := by
  simp [put, find?]

namespace Session

open Station (Move Deed)

/-- The frames that are dealt with in some operations, in order. -/
def handled (s : Session f) (ops : List (Op f)) : List Frame :=
  (s.allMoves ops).filterMap Move.frame?

section Worker

variable {s : Session f} {name : String} {w : Worker} (hworker : s.workers.find? name = some w)

include hworker

theorem moves_poll :
    s.moves (.poll name) = (w.poll Station.recorder (s.station, [])).2.2.2 := by
  simp only [moves, hworker]

theorem moves_run (stopped : Bool) :
    s.moves (.run name stopped) = (w.run Station.recorder stopped (s.station, [])).state.2 := by
  simp only [moves, hworker]

/-- The worker after a poll. -/
theorem worker_poll :
    (s.step (.poll name)).2.workers.find? name =
      some { w with
        buffer := bufferAfter w.buffer (framesOf (w.script.take 1))
        script := w.script.tail } := by
  simp only [step, withWorker, hworker, Shelf.find?_put, Worker.poll_worker]

/-- In a poll the frame is dealt with that the worker captures, if it does. -/
theorem handled_poll :
    (s.moves (.poll name)).filterMap Move.frame? =
      capture w.buffer (framesOf (w.script.take 1)) := by
  rw [moves_poll hworker]
  exact Worker.poll_logs Station.recorder_logs w (s.station, [])

/-- The answer to a poll tells the outcome. -/
theorem outcome_poll :
    (s.step (.poll name)).1.outcome?.toList =
      (s.station.deeds (s.moves (.poll name))).filterMap Deed.outcome? := by
  rw [moves_poll hworker]
  simp only [step, withWorker, hworker, Worker.poll]
  cases (w.script.headD .scriptEnd).reception <;> rfl

/-- A poll that yields no frame leaves the station and the receive buffer as they are. -/
theorem poll_without_frame (hnone : (w.script.headD .scriptEnd).reception.frame? = none) :
    (s.step (.poll name)).2.station = s.station ∧
      (s.step (.poll name)).2.workers.find? name = some { w with script := w.script.tail } := by
  constructor
  · simp only [step, withWorker, hworker, Worker.poll, Worker.deal_without_frame _ _ hnone]
  · rw [worker_poll hworker, Worker.framesOf_take_one, hnone]
    rfl

end Worker

/-- Polls and a run after them have the frames dealt with that the worker captures. -/
theorem handled_worker {s : Session f} {name : String} {w : Worker}
    (hworker : s.workers.find? name = some w) (polls : ℕ) (last : Option Bool) :
    s.handled (List.replicate polls (.poll name) ++ last.toList.map (.run name)) =
      capture w.buffer (framesOf (Worker.received polls last w.script)) := by
  induction polls generalizing s w with
  | zero =>
      cases last with
      | none => rfl
      | some stopped =>
          have hrun := Worker.run_logs Station.recorder_logs w stopped (s.station, [])
          rw [← moves_run hworker] at hrun
          simpa [handled, allMoves] using hrun
  | succ polls ih =>
      -- The first poll leaves the worker with a buffer and a script for which the rest is known.
      have hrest := ih (worker_poll hworker)
      rw [Worker.received_succ, framesOf_append, capture_append, ← hrest,
        ← handled_poll hworker]
      exact List.filterMap_append

theorem ofWorker_poll (s : Session f) (name : String) :
    ∀ m ∈ s.moves (.poll name), m.OfWorker := by
  cases hworker : s.workers.find? name with
  | none => simp [moves, hworker]
  | some w =>
      have hpoll := Worker.poll_simulates Station.recorder_ofWorker w
        (s := (s.station, [])) (t := (s.station, [])) ⟨rfl, by simp⟩
      rw [moves_poll hworker]
      exact hpoll.2.2.2

theorem ofWorker_run (s : Session f) (name : String) (stopped : Bool) :
    ∀ m ∈ s.moves (.run name stopped), m.OfWorker := by
  cases hworker : s.workers.find? name with
  | none => simp [moves, hworker]
  | some w =>
      have hrun := Worker.run_simulates Station.recorder_ofWorker w stopped
        (s := (s.station, [])) (t := (s.station, [])) ⟨rfl, by simp⟩
      rw [moves_run hworker]
      exact hrun.2.2.2

/-- Whatever workers do, it is made of moves of workers. -/
theorem allMoves_ofWorker (s : Session f) (name : String) (polls : ℕ) (last : Option Bool) :
    ∀ m ∈ s.allMoves (List.replicate polls (.poll name) ++ last.toList.map (.run name)),
      m.OfWorker := by
  induction polls generalizing s with
  | zero =>
      cases last with
      | none => simp [allMoves]
      | some stopped => simpa [allMoves] using s.ofWorker_run name stopped
  | succ polls ih =>
      intro m hm
      rcases List.mem_append.mp hm with hpoll | hrest
      · exact s.ofWorker_poll name m hpoll
      · exact ih _ m hrest

/-- The answers to polls tell the outcomes. -/
theorem outcomes_polls {s : Session f} {name : String} {w : Worker}
    (hworker : s.workers.find? name = some w) (polls : ℕ) :
    (s.run (List.replicate polls (.poll name))).1.filterMap Answer.outcome? =
      (s.deeds (List.replicate polls (.poll name))).filterMap Deed.outcome? := by
  induction polls generalizing s w with
  | zero => rfl
  | succ polls ih =>
      have hpoll := outcome_poll hworker
      have hrest := ih (worker_poll hworker)
      rw [deeds, station_step] at hrest
      rw [deeds, List.replicate_succ, allMoves, Station.deeds_append, List.filterMap_append, ← hpoll,
        ← hrest, run, List.filterMap_cons]
      cases (s.step (.poll name)).1.outcome? <;> rfl

/-- Frames that are dealt with directly are the moves of a session, and each answer is the outcome. -/
theorem run_frames (s : Session f) (frames : List Frame) :
    s.allMoves (frames.map Frame.op) = frames.map Frame.move ∧
      (s.run (frames.map Frame.op)).1 =
        ((s.station.deeds (frames.map Frame.move)).filterMap Deed.outcome?).map .handled := by
  induction frames generalizing s with
  | nil => exact ⟨rfl, rfl⟩
  | cons frame frames ih =>
      obtain ⟨hmoves, hanswers⟩ := ih (s.step frame.op).2
      exact ⟨congrArg (frame.move :: ·) hmoves, congrArg (Answer.handled _ :: ·) hanswers⟩

/-- **A worker refines direct dispatch.**  Let a worker with a new receive buffer be polled some times
and then, perhaps, run.  Every receive call that yields a frame has exactly one frame dealt with, in
order: as many bytes as were reported and there is room for, each from the latest frame that reached so
far.  Apart from the journal the station is left as if these frames had been dealt with directly, with
the same outcomes, and polls answer with these.  A receive call that yields no frame leaves the station
and the receive buffer as they are, and so does a poll that makes it.  If every frame was as long as
reported, its own bytes are dealt with, as many as there is room for. -/
theorem worker_refines_direct_dispatch (s : Session f) (name : String) (script : List Arrival)
    (limit : ℕ) (timeout budget : Duration) (heartbeat : Bool) (polls : ℕ) (last : Option Bool) :
    let start := (s.step (.employ name (.new script limit timeout budget heartbeat))).2
    let ops := List.replicate polls (.poll name) ++ last.toList.map (.run name)
    let frames := framesOf (Worker.received polls last script)
    let direct := start.run ((start.handled ops).map Frame.op)
    let outcomes := (start.deeds ops).filterMap Deed.outcome?
    start.handled ops = captured limit frames ∧
      (start.run ops).2.station.Alike direct.2.station ∧
      direct.1 = outcomes.map .handled ∧
      (last = none → (start.run ops).1.filterMap Answer.outcome? = outcomes) ∧
      (∀ buffer (st : Station f) reception, reception.frame? = none →
        (Worker.deal Station.sink buffer st reception).2 = (buffer, st)) ∧
      (∀ (t : Session f) w, t.workers.find? name = some w →
        (w.script.headD .scriptEnd).reception.frame? = none →
        (t.step (.poll name)).2.station = t.station ∧
          (t.step (.poll name)).2.workers.find? name = some { w with script := w.script.tail }) ∧
      ((∀ frame ∈ frames, frame.reported = frame.bytes.length) →
        start.handled ops =
          frames.map fun frame => ⟨frame.bytes.take limit, frame.reported⟩) := by
  intro start ops frames direct outcomes
  have hworker : start.workers.find? name =
      some (.new script limit timeout budget heartbeat) := Shelf.find?_put _ _ _
  have hhandled : start.handled ops = capture (List.replicate limit 0) frames :=
    handled_worker hworker polls last
  have hsame : start.station.Alike start.station := ⟨rfl, rfl, rfl⟩
  obtain ⟨halike, houtcomes⟩ :=
    Station.play_frames (allMoves_ofWorker start name polls last) hsame
  obtain ⟨hmoves, hanswers⟩ := run_frames start (start.handled ops)
  refine ⟨hhandled.trans (capture_new limit frames), ?_, ?_, ?_,
    fun buffer st reception => Worker.deal_without_frame buffer st, ?_, ?_⟩
  · rw [station_run, station_run, hmoves]
    exact halike
  · exact hanswers.trans (congrArg (List.map Answer.handled) houtcomes.symm)
  · rintro rfl
    have hpolls : ops = List.replicate polls (.poll name) := List.append_nil _
    simp only [outcomes, hpolls]
    exact outcomes_polls hworker polls
  · intro t w ht hnone
    exact poll_without_frame ht hnone
  · intro hexact
    rw [hhandled, capture_of_exact _ _ hexact, List.length_replicate]

/-- A frame that is too long for a receive buffer of two bytes, then nothing, then a short frame. -/
def sparseScript : List Arrival :=
  [⟨.frame [7, 1, 2] 3, false⟩, ⟨.silence, false⟩, ⟨.frame [8] 1, false⟩]

/-- The short frame is dealt with alone, without the rest of the long one. -/
theorem worker_refines_dispatch_of_sparse_script :
    let s : Session (.integer .unsigned 1) := .new (.new 0) [] []
    let start := (s.step (.employ "worker" (.new sparseScript 2))).2
    let after := (start.step (.poll "worker")).2
    let ops := List.replicate 3 (.poll "worker") ++ (none : Option Bool).toList.map (.run "worker")
    start.handled ops = [⟨[7, 1], 3⟩, ⟨[8], 1⟩] ∧
      (start.run ops).1.filterMap Answer.outcome? = (start.deeds ops).filterMap Deed.outcome? ∧
      (after.step (.poll "worker")).2.station = after.station ∧
      (Worker.deal Station.sink [7, 1] after.station .silence).2 = ([7, 1], after.station) := by
  intro s start after ops
  obtain ⟨-, -, -, hanswers, hquiet, hsilent, hexact⟩ :=
    worker_refines_direct_dispatch s "worker" sparseScript 2 Worker.defaultTimeout
      Worker.defaultBudget false 3 none
  have hworker : start.workers.find? "worker" = some (.new sparseScript 2) :=
    Shelf.find?_put _ _ _
  exact ⟨hexact (by decide), hanswers rfl, (hsilent after _ (worker_poll hworker) rfl).1,
    hquiet _ _ _ rfl⟩

end Session

end Demux
