import Mathlib
import Demux.Proofs.Offer
import Demux.Station

/-!
# Stations, move by move

Whatever is done at a station comes down to a few moves: something is asked of the dispatcher, or
somebody acquires, releases, sends or receives a buffer.  The deeds tell what came of each move.
What one move can do to the pools and queues is said once (`Moved`): a dispatch is an offer to one
route, and every other move is at most one call.
-/

namespace Demux

variable {f : Format}

namespace Station

/-- One thing that is done to a station. -/
inductive Move (f : Format)
  | act (action : Action f)
  /-- Read counters or statistics. -/
  | ask
  | acquire (pool : PoolRef) (len : Nat)
  | release (pool : PoolRef) (b : Buffer)
  | send (queue : QueueRef) (b : Buffer)
  | receive (queue : QueueRef)
  /-- Report an event of a receive loop. -/
  | note (event : LoopEvent)

/-- What came of a move. -/
inductive Deed
  /-- A frame was dealt with, and this was its route if it had one. -/
  | dispatched (frame : Bytes) (target : Option Route) (outcome : Outcome)
  | acquired (pool : PoolRef) (result : Except PoolError Buffer)
  | released (pool : PoolRef) (b : Buffer)
  | sent (queue : QueueRef) (b : Buffer) (refused : Option Buffer)
  | received (queue : QueueRef) (b : Option Buffer)
  | other

def move (st : Station f) : Move f → Station f
  | .act action => (st.perform action).2
  | .ask => (st.ask fun _ => ()).2
  | .acquire pool len => (st.acquire pool len).2
  | .release pool b => st.release pool b
  | .send queue b => (st.send queue b).2
  | .receive queue => (st.receive queue).2
  | .note event => sink.note event st

def deed (st : Station f) : Move f → Deed
  | .act (.handle frame reported) =>
      .dispatched frame ((st.lock.value.resolve frame).map (·.2.route))
        (st.handle frame reported).1
  | .acquire pool len => .acquired pool (st.acquire pool len).1
  | .release pool b => .released pool b
  | .send queue b => .sent queue b (st.send queue b).1
  | .receive queue => .received queue (st.receive queue).1
  | .act _ | .ask | .note _ => .other

def play (st : Station f) (moves : List (Move f)) : Station f := moves.foldl move st

/-- What came of some moves, one after another. -/
def deeds (st : Station f) : List (Move f) → List Deed
  | [] => []
  | m :: moves => st.deed m :: (st.move m).deeds moves

/-- Nobody holds the lock between two moves. -/
theorem free_move {st : Station f} (hfree : st.lock.held = false) (m : Move f) :
    (st.move m).lock.held = false := by
  cases m with
  | act action => rfl
  | ask => rfl
  | _ => exact hfree

theorem free_play {st : Station f} (hfree : st.lock.held = false) (moves : List (Move f)) :
    (st.play moves).lock.held = false := by
  induction moves generalizing st with
  | nil => exact hfree
  | cons m moves ih => exact ih (free_move hfree m)

theorem play_append (st : Station f) (first second : List (Move f)) :
    st.play (first ++ second) = (st.play first).play second :=
  List.foldl_append

theorem play_snoc (st : Station f) (moves : List (Move f)) (m : Move f) :
    st.play (moves ++ [m]) = (st.play moves).move m := by
  simp only [play, List.foldl_append, List.foldl_cons, List.foldl_nil]

theorem deeds_append (st : Station f) (first second : List (Move f)) :
    st.deeds (first ++ second) = st.deeds first ++ (st.play first).deeds second := by
  induction first generalizing st with
  | nil => rfl
  | cons m first ih => exact congrArg (st.deed m :: ·) (ih (st.move m))

theorem deeds_snoc (st : Station f) (moves : List (Move f)) (m : Move f) :
    st.deeds (moves ++ [m]) = st.deeds moves ++ [(st.play moves).deed m] :=
  deeds_append st moves [m]

/-- What a move can do to the pools, the queues and the journal. -/
inductive Moved (p : DataPlane) : Deed → DataPlane → Prop
  | idle : Moved p .other p
  | reported (event : Event) : Moved p .other (p.note event)
  | unmatched (frame : Bytes) (event : Event) :
      Moved p (.dispatched frame none .unmatched) (p.note event)
  /-- A frame is offered to its route. -/
  | offered {r : Route} {frame : Bytes} {reported : Nat} {verdict : Verdict} {w : DataPlane}
      (hoffered : Offered (DataPlane.collaborators none) r frame reported p verdict w)
      (event : DispatchEvent) :
      Moved p (.dispatched frame (some r) verdict.outcome) (w.note (.dispatch event))
  | acquired (view : Option Stats) (pool : PoolRef) (len : Nat) :
      Moved p (.acquired pool (p.acquire view pool len).1) (p.acquire view pool len).2
  | released (view : Option Stats) (pool : PoolRef) (b : Buffer) :
      Moved p (.released pool b) (p.release view pool b)
  | sent (queue : QueueRef) (b : Buffer) :
      Moved p (.sent queue b (p.send queue b).1) (p.send queue b).2
  | received (queue : QueueRef) :
      Moved p (.received queue (p.receive queue).1) (p.receive queue).2

/-- Pools that are called during a dispatch see that the lock is taken. -/
theorem plane_handle (st : Station f) (frame : Bytes) (reported : Nat) :
    let dealt := st.lock.value.handle (DataPlane.collaborators none) frame reported st.plane
    (st.handle frame reported).1 = dealt.1.verdict.outcome ∧
      (st.handle frame reported).2.plane = dealt.2.2.note (.dispatch (.frame dealt.1)) :=
  ⟨rfl, rfl⟩

/-- What the dispatcher says about a frame. -/
def report (st : Station f) (frame : Bytes) (reported : Nat) : Report :=
  (st.lock.value.handle (DataPlane.collaborators none) frame reported st.plane).1

/-- A frame with a route is offered to it, and the verdict is reported. -/
theorem report_offered (st : Station f) {frame : Bytes} {slot : Slot} {e : Endpoint}
    (h : st.lock.value.resolve frame = some (slot, e)) (reported : Nat) :
    ∃ w, Offered (DataPlane.collaborators none) e.route frame reported st.plane
        (st.report frame reported).verdict w ∧
      (st.handle frame reported).2.plane = w.note (.dispatch (.frame (st.report frame reported))) := by
  obtain ⟨-, hplane⟩ := plane_handle st frame reported
  obtain ⟨hverdict, -, hafter⟩ := Dispatcher.handle_of_resolved h
    (DataPlane.collaborators none) reported st.plane
  refine ⟨_, ?_, hplane⟩
  rw [report, hverdict, hafter]
  exact Route.offered _ e.route frame reported st.plane

/-- Of a frame without a route only the verdict is reported. -/
theorem report_unresolved (st : Station f) {frame : Bytes} (h : st.lock.value.resolve frame = none)
    (reported : Nat) :
    (st.report frame reported).verdict = .unmatched ∧
      (st.handle frame reported).2.plane =
        st.plane.note (.dispatch (.frame (st.report frame reported))) := by
  obtain ⟨-, hplane⟩ := plane_handle st frame reported
  obtain ⟨hverdict, -, hafter⟩ := Dispatcher.handle_of_unresolved h
    (DataPlane.collaborators none) reported st.plane
  rw [hafter] at hplane
  exact ⟨hverdict, hplane⟩

/-- A frame with a route is offered to it, and then the report is written. -/
theorem handle_resolved (st : Station f) {frame : Bytes} {slot : Slot} {e : Endpoint}
    (h : st.lock.value.resolve frame = some (slot, e)) (reported : Nat) :
    ∃ verdict w event,
      Offered (DataPlane.collaborators none) e.route frame reported st.plane verdict w ∧
        (st.handle frame reported).1 = verdict.outcome ∧
        (st.handle frame reported).2.plane = w.note (.dispatch event) := by
  obtain ⟨w, hoffered, hplane⟩ := report_offered st h reported
  obtain ⟨houtcome, -⟩ := plane_handle st frame reported
  exact ⟨_, w, _, hoffered, houtcome, hplane⟩

/-- A move does nothing else. -/
theorem moved (st : Station f) (m : Move f) : Moved st.plane (st.deed m) (st.move m).plane := by
  cases m with
  | act action =>
      cases action with
      | addRoute id draft =>
          simp only [move, deed, perform, exclusively, Dispatcher.perform, Locked.take]
          cases st.lock.value.registry.add id draft with
          | error e => exact .idle
          | ok registry => exact .reported _
      | setDefault draft =>
          simp only [move, deed, perform, exclusively, Dispatcher.perform, Locked.take]
          cases st.lock.value.registry.setDefault draft with
          | error e => exact .idle
          | ok registry => exact .reported _
      | handle frame reported =>
          rw [move, perform_handle, deed]
          rcases hresolve : st.lock.value.resolve frame with _ | ⟨slot, e⟩
          · obtain ⟨houtcome, -⟩ := plane_handle st frame reported
            obtain ⟨hverdict, hplane⟩ := report_unresolved st hresolve reported
            rw [report] at hverdict
            rw [houtcome, hverdict, hplane]
            exact .unmatched frame _
          · obtain ⟨verdict, w, event, hoffered, houtcome, hplane⟩ :=
              handle_resolved st hresolve reported
            rw [houtcome, hplane]
            exact .offered hoffered event
      | resetCounters => exact .reported _
  | ask => exact .idle
  | acquire pool len => exact .acquired st.view pool len
  | release pool b => exact .released st.view pool b
  | send queue b => exact .sent queue b
  | receive queue => exact .received queue
  | note event => exact .reported _

/-- What holds of the pools and queues at the start, and is kept by whatever a move can do, holds
after every list of moves. -/
theorem play_induction {motive : List Deed → DataPlane → Prop} (st : Station f)
    (hstart : motive [] st.plane)
    (hmove : ∀ past p deed p', Moved p deed p' → motive past p → motive (past ++ [deed]) p')
    (moves : List (Move f)) : motive (st.deeds moves) (st.play moves).plane := by
  induction moves using List.reverseRecOn with
  | nil => exact hstart
  | append_singleton moves m ih =>
      rw [play_snoc, deeds_snoc]
      exact hmove _ _ _ _ (moved (st.play moves) m) ih

end Station

end Demux
