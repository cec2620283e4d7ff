import Mathlib
import Demux.Proofs.Collaboration
import Demux.Proofs.Sessions

/-!
# What watching pools see

A watching pool looks for a snapshot of the statistics at every call and finds one exactly while the
lock is free.  So its notes tell when the lock is held.  The calls that a dispatch makes are those that
recording collaborators record (`Station.calls`), all others are made by consumers, and together they
are the visits to a pool (`Station.visitors`).

The lock is held for every call that a dispatch makes and free for every other one
(`Session.lock_spans_dispatch`), and no operation ever finds it taken.
-/

namespace Demux

variable {f : Format}

/-- Who makes a call to a pool. -/
inductive Visitor
  /-- A dispatch, in the middle of its work. -/
  | dispatch
  | consumer

/-- Whether a consumer makes the call. -/
def Visitor.isConsumer : Visitor → Bool
  | dispatch => false
  | consumer => true

/-- Whether a call is made to a pool. -/
def Collaborators.Call.visits (pool : PoolRef) : Collaborators.Call → Bool
  | .acquire called _ _ | .release called _ => called == pool
  | .send _ _ _ => false

/-! ### What is noted in one call -/

namespace Pool

theorem sightings?_acquire (view : Option Stats) (len : ℕ) (p : Pool) :
    (p.acquire view len).2.sightings? = p.sightings?.map (· ++ [view.isSome]) := by
  cases p with
  | probing pool sightings => exact congrArg some List.reverse_cons
  | _ => rfl

theorem sightings?_release (view : Option Stats) (b : Buffer) (p : Pool) :
    (p.release view b).2.sightings? = p.sightings?.map (· ++ [view.isSome]) := by
  cases p with
  | probing pool sightings => exact congrArg some List.reverse_cons
  | _ => rfl

end Pool

namespace DataPlane

/-- What a pool has noted, call by call, if it watches its callers. -/
def sightings? (p : DataPlane) (pool : PoolRef) : Option (List Bool) :=
  p.pools[pool]?.bind (·.pool.sightings?)

variable (p : DataPlane) (pool called : PoolRef)

/-- A pool that is called notes one more sighting, the others note nothing. -/
theorem sightings?_set {slot : PoolSlot} (hslot : p.pools[called]? = some slot) (next : PoolSlot)
    {seen : Bool} (hnext : next.pool.sightings? = slot.pool.sightings?.map (· ++ [seen])) :
    (p.pools.set called next)[pool]?.bind (·.pool.sightings?) =
      (p.sightings? pool).map (· ++ if called == pool then [seen] else []) := by
  by_cases hpool : called = pool
  · subst hpool
    rw [sightings?, hslot, List.getElem?_set_self (List.getElem?_eq_some_iff.mp hslot).1]
    simpa using hnext
  · rw [sightings?, List.getElem?_set_ne hpool]
    simp [hpool]

/-- Where no pool is called, none notes anything. -/
theorem sightings?_missing (hslot : p.pools[called]? = none) (seen : Bool) :
    p.sightings? pool = (p.sightings? pool).map (· ++ if called == pool then [seen] else []) := by
  by_cases hpool : called = pool
  · subst hpool
    rw [sightings?, hslot]
    rfl
  · simp [hpool]

theorem sightings?_acquire (view : Option Stats) (len : ℕ) :
    (p.acquire view called len).2.sightings? pool =
      (p.sightings? pool).map (· ++ if called == pool then [view.isSome] else []) := by
  rcases hslot : p.pools[called]? with _ | slot
  · simpa only [acquire, hslot] using p.sightings?_missing pool called hslot view.isSome
  · rw [← p.sightings?_set pool called hslot { slot with pool := (slot.pool.acquire view len).2 }
      (slot.pool.sightings?_acquire view len), acquire, hslot]
    rfl

theorem sightings?_release (view : Option Stats) (b : Buffer) :
    (p.release view called b).sightings? pool =
      (p.sightings? pool).map (· ++ if called == pool then [view.isSome] else []) := by
  rcases hslot : p.pools[called]? with _ | slot
  · simpa only [release, hslot] using p.sightings?_missing pool called hslot view.isSome
  · rw [← p.sightings?_set pool called hslot ⟨(slot.pool.release view b).2, slot.releases + 1⟩
      (slot.pool.sightings?_release view b), release, hslot]
    cases hdiscard : (slot.pool.release view b).1 <;>
      simp only [hdiscard] <;> rfl

theorem sightings?_send (queue : QueueRef) (b : Buffer) :
    (p.send queue b).2.sightings? pool = p.sightings? pool := by
  rw [send]
  cases p.queues[queue]? <;> rfl

theorem sightings?_receive (queue : QueueRef) :
    (p.receive queue).2.sightings? pool = p.sightings? pool := by
  rw [receive]
  cases p.queues[queue]? <;> rfl

end DataPlane

/-! ### What is noted in a dispatch -/

/-- Some calls to a pool from a given view, and what the pool has noted about them. -/
def Sighted (view : Option Stats) (pool : PoolRef) (p : DataPlane)
    (s : DataPlane × List Collaborators.Call) : Prop :=
  s.1.sightings? pool =
    (p.sightings? pool).map (· ++ (s.2.filter (·.visits pool)).map fun _ => view.isSome)

theorem Sighted.snoc {view : Option Stats} {pool : PoolRef} {p : DataPlane}
    {s : DataPlane × List Collaborators.Call} (h : Sighted view pool p s)
    (call : Collaborators.Call) {w : DataPlane}
    (hcall : w.sightings? pool = (s.1.sightings? pool).map
      (· ++ if call.visits pool then [view.isSome] else [])) :
    Sighted view pool p (w, s.2 ++ [call]) := by
  rw [Sighted, hcall, h, Option.map_map]
  by_cases hvisits : call.visits pool <;> simp [hvisits, Function.comp_def]

/-- In a dispatch a pool notes one sighting for every call that is made to it. -/
theorem Dispatcher.sighted_handle (view : Option Stats) (d : Dispatcher f) (frame : Bytes)
    (reported : ℕ) (p : DataPlane) (pool : PoolRef) :
    Sighted view pool p
      (d.handle (DataPlane.collaborators view).recorded frame reported (p, [])).2.2 := by
  have hstart : Sighted view pool p (p, []) := by
    simp [Sighted]
  rcases hresolve : d.resolve frame with _ | ⟨slot, e⟩
  · rw [(handle_of_unresolved hresolve _ reported _).2.2]
    exact hstart
  · rw [(handle_of_resolved hresolve _ reported _).2.2]
    refine (Route.offered _ e.route frame reported _).keeps ?_ ?_ ?_ hstart
    · intro len s hs
      exact hs.snoc (.acquire e.route.pool len (s.1.acquire view e.route.pool len).1)
        (s.1.sightings?_acquire pool e.route.pool view len)
    · intro b s hs
      exact hs.snoc (.release e.route.pool b) (s.1.sightings?_release pool e.route.pool view b)
    · intro b s hs
      refine hs.snoc (.send e.route.queue b (s.1.send e.route.queue b).1) ?_
      exact (s.1.sightings?_send pool e.route.queue b).trans (by simp [Collaborators.Call.visits])

namespace Station

/-- The calls that a dispatch of a frame makes to pools and queues. -/
def calls (st : Station f) (frame : Bytes) (reported : ℕ) : List Collaborators.Call :=
  (st.exclusively fun env dispatcher plane =>
    let (_, dispatcher, plane, calls) := dispatcher.handle env.recorded frame reported (plane, [])
    (calls, dispatcher, plane)).1

/-- Who calls a pool in a move, call by call. -/
def visitorsOf (pool : PoolRef) (st : Station f) : Move f → List Visitor
  | .act (.handle frame reported) =>
      ((st.calls frame reported).filter (·.visits pool)).map fun _ => .dispatch
  | .acquire called _ | .release called _ => if called == pool then [.consumer] else []
  | .act _ | .ask | .send _ _ | .receive _ | .note _ => []

/-- Who calls a pool in some moves, call by call. -/
def visitors (pool : PoolRef) (st : Station f) : List (Move f) → List Visitor
  | [] => []
  | m :: moves => st.visitorsOf pool m ++ (st.move m).visitors pool moves

/-- An observer gets a snapshot while the lock is free. -/
theorem isSome_view {st : Station f} (hfree : st.lock.held = false) : st.view.isSome = true := by
  rw [view, Locked.tryRead, hfree]
  rfl

/-- Events and registrations are no visits. -/
theorem Moved.sightings?_other {p p' : DataPlane} (h : Moved p .other p') (pool : PoolRef) :
    p'.sightings? pool = p.sightings? pool := by
  cases h <;> rfl

/-- A dispatch calls its pools while the lock is taken. -/
theorem sightings?_handle (st : Station f) (frame : Bytes) (reported : ℕ) (pool : PoolRef) :
    (st.handle frame reported).2.plane.sightings? pool = (st.plane.sightings? pool).map
      (· ++ ((st.calls frame reported).filter (·.visits pool)).map fun _ => false) := by
  have hrecorded := (st.lock.value.handle_simulates
    (DataPlane.collaborators none).recorded_simulates frame reported
    (v := (st.plane, [])) (w := st.plane) rfl).2.2
  have hsighted := st.lock.value.sighted_handle none frame reported st.plane pool
  rw [Sighted, hrecorded] at hsighted
  exact hsighted

/-- What a pool notes in a move tells consumers from a dispatch. -/
theorem sightings?_move {st : Station f} (hfree : st.lock.held = false) (m : Move f)
    (pool : PoolRef) :
    (st.move m).plane.sightings? pool = (st.plane.sightings? pool).map
      (· ++ (st.visitorsOf pool m).map Visitor.isConsumer) := by
  have hconsumer (called : PoolRef) :
      (if called == pool then [Visitor.consumer] else []).map Visitor.isConsumer =
        if called == pool then [st.view.isSome] else [] := by
    rw [isSome_view hfree]
    split <;> rfl
  have hother (h : st.deed m = .other) (hnone : st.visitorsOf pool m = []) :
      (st.move m).plane.sightings? pool = (st.plane.sightings? pool).map
        (· ++ (st.visitorsOf pool m).map Visitor.isConsumer) := by
    have hmoved := moved st m
    rw [h] at hmoved
    simp [hmoved.sightings?_other, hnone]
  cases m with
  | act action =>
      cases action with
      | handle frame reported =>
          rw [move, perform_handle, sightings?_handle, visitorsOf, List.map_map]
          rfl
      | _ => exact hother rfl rfl
  | acquire called len =>
      rw [visitorsOf, hconsumer]
      exact st.plane.sightings?_acquire pool called st.view len
  | release called b =>
      rw [visitorsOf, hconsumer]
      exact st.plane.sightings?_release pool called st.view b
  | send queue b =>
      exact (st.plane.sightings?_send pool queue b).trans (by simp [visitorsOf])
  | receive queue =>
      exact (st.plane.sightings?_receive pool queue).trans (by simp [visitorsOf])
  | _ => exact hother rfl rfl

/-- A move does not find the lock taken. -/
theorem waits_move {st : Station f} (hfree : st.lock.held = false) (m : Move f) :
    (st.move m).lock.waits = st.lock.waits := by
  have htake : st.lock.take.waits = st.lock.waits := by
    rw [Locked.take, hfree]
    rfl
  cases m with
  | act action => exact htake
  | ask => exact htake
  | _ => rfl

/-- What a pool notes in some moves tells consumers from dispatches. -/
theorem sightings?_play {st : Station f} (hfree : st.lock.held = false) (moves : List (Move f))
    (pool : PoolRef) :
    (st.play moves).plane.sightings? pool = (st.plane.sightings? pool).map
      (· ++ (st.visitors pool moves).map Visitor.isConsumer) := by
  induction moves generalizing st with
  | nil => simp [play, visitors]
  | cons m moves ih =>
      have hrest := ih (free_move hfree m)
      rw [sightings?_move hfree, Option.map_map] at hrest
      refine hrest.trans ?_
      simp [visitors, Function.comp_def]

theorem waits_play {st : Station f} (hfree : st.lock.held = false) (moves : List (Move f)) :
    (st.play moves).lock.waits = st.lock.waits := by
  induction moves generalizing st with
  | nil => rfl
  | cons m moves ih => exact (ih (free_move hfree m)).trans (waits_move hfree m)

end Station

namespace Session

/-- Who calls a pool in a run, call by call. -/
def visitors (s : Session f) (pool : PoolRef) (ops : List (Op f)) : List Visitor :=
  s.station.visitors pool (s.allMoves ops)

/-- **The lock is held for exactly the dispatch.**  In every session each watching pool notes, call by
call, that there was a snapshot when a consumer called it, and that there was none when a dispatch did.
After every run the lock is free, and no operation has found it taken. -/
theorem lock_spans_dispatch (dispatcher : Dispatcher f) (pools : List Pool) (queues : List Queue)
    (ops : List (Op f)) :
    let s : Session f := .new dispatcher pools queues
    let station := (s.run ops).2.station
    (∀ pool, station.plane.sightings? pool = (pools[pool]?.bind Pool.sightings?).map
      (· ++ (s.visitors pool ops).map Visitor.isConsumer)) ∧
    station.lock.held = false ∧ station.lock.waits = 0 := by
  intro s station
  have hfree : s.station.lock.held = false := rfl
  have hstation : station = s.station.play (s.allMoves ops) := s.station_run ops
  refine ⟨fun pool => ?_, s.free_run hfree ops, ?_⟩
  · have hstart : s.station.plane.sightings? pool = pools[pool]?.bind Pool.sightings? := by
      change (pools.map _)[pool]?.bind _ = _
      rw [List.getElem?_map]
      cases pools[pool]? <;> rfl
    rw [hstation, ← hstart]
    exact Station.sightings?_play hfree _ pool
  · rw [hstation]
    exact Station.waits_play hfree _

/-- A consumer takes a block and gives it back; then one frame is delivered, and the queue has no place
for the next one. -/
example :
    let start : Session (.integer .unsigned 1) :=
      .new (.new 1) [.probing (.new 2 3) []] [.bounded (.new 1)]
    let ops : List (Op (.integer .unsigned 1)) := [
      .acquire 0 3 (some "own"),
      .release "own" 0,
      .act (.setDefault { pool := some 0, queue := some 0 }),
      .act (.handle [1, 2] 2),
      .act (.handle [3, 4] 2)]
    (start.run ops).2.station.plane.sightings? 0 = some [true, true, false, false, false] := by
  decide +kernel

end Session

end Demux
