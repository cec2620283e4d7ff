import Mathlib
import Demux.Proofs.Diagnostics
import Demux.Proofs.Fifo
import Demux.Proofs.Stocks

/-!
# A lost frame leaves everything in place

A dispatch that does not deliver its frame adds nothing to a queue, leaves every other pool alone, and
counts only at the place of its route and in total.  The pool of its route has as many blocks as before,
and the same ones (`Spared`), except that a frame that was refused by the queue has been written into the
block that was next, which is now the last.
-/

namespace Demux

variable {f : Format}

/-- What a lost frame leaves of the pool of its route. -/
structure Spared (frame : Bytes) (o : Outcome) (bp bp' : BlockPool) : Prop where
  available : bp'.available = bp.available
  exhausted : bp'.exhausted = if o = .poolExhausted then bp.exhausted + 1 else bp.exhausted
  kept : o ≠ .queueFull → bp'.free = bp.free
  /-- The first block becomes the last one, with the frame over its start. -/
  recycled : o = .queueFull → ∃ block free, bp.free = block :: free ∧
    bp'.free = free ++ [frame ++ block.drop frame.length]

/-- A pool of blocks is spared whenever a frame is not delivered. -/
theorem Drawn.spared {bp bp' : BlockPool} {r : Route} {frame : Bytes} {reported : ℕ}
    {verdict : Verdict} (h : Drawn bp r frame reported verdict bp')
    (hlost : verdict.outcome ≠ .delivered) : Spared frame verdict.outcome bp bp' := by
  cases h with
  | truncated hcut => exact ⟨rfl, rfl, fun _ => rfl, Outcome.noConfusion⟩
  | tooLong hwhole hlong => exact ⟨rfl, rfl, fun _ => rfl, Outcome.noConfusion⟩
  | exhausted hwhole hfits hempty => exact ⟨rfl, rfl, fun _ => rfl, Outcome.noConfusion⟩
  | @queueFull block free hwhole hfits hfree =>
      refine ⟨?_, rfl, fun hother => absurd rfl hother, fun _ => ⟨block, free, hfree, rfl⟩⟩
      simp only [BlockPool.available, hfree, List.length_append, List.length_cons, List.length_nil]
  | delivered hwhole hfits hfree => exact absurd rfl hlost

/-- A queue that nothing was added to or taken from is the same. -/
theorem Queued.eq_of_nil {old new : BoundedQueue} {added taken : List Bytes}
    (h : Queued old added taken new) (hadded : added = []) (htaken : taken = []) : new = old := by
  cases h with
  | idle => rfl
  | joined hroom => cases hadded
  | left hwaiting => cases htaken

namespace Station.Deed

/-- Only a delivered frame is added to a queue. -/
theorem accepted_of_lost {o : Outcome} (hlost : o ≠ .delivered) (queue : QueueRef) (frame : Bytes)
    (target : Option Route) : accepted queue (.dispatched frame target o) = [] := by
  cases target with
  | none => rfl
  | some r =>
      cases o with
      | delivered => exact absurd rfl hlost
      | _ => rfl

end Station.Deed

namespace DataPlane

variable {p w : DataPlane} {pool : PoolRef}

theorem pools_acquire_elsewhere {source : PoolRef} (hne : source ≠ pool) (view : Option Stats)
    (len : ℕ) (p : DataPlane) : (p.acquire view source len).2.pools[pool]? = p.pools[pool]? := by
  obtain ⟨-, hpools⟩ := acquire_at view source len p
  rw [hpools, List.getElem?_modify_ne _ _ hne]

theorem pools_release_elsewhere {target : PoolRef} (hne : target ≠ pool) (view : Option Stats)
    (b : Buffer) (p : DataPlane) : (p.release view target b).pools[pool]? = p.pools[pool]? := by
  rw [release_at, List.getElem?_modify_ne _ _ hne]

/-- An offer leaves alone every pool that its route does not draw from. -/
theorem pools_offered_elsewhere {r : Route} (hne : r.pool ≠ pool) {frame : Bytes} {reported : ℕ}
    {verdict : Verdict} (hoffered : Offered (collaborators none) r frame reported p verdict w) :
    w.pools[pool]? = p.pools[pool]? := by
  refine hoffered.keeps (motive := fun w => w.pools[pool]? = p.pools[pool]?) ?_ ?_ ?_ rfl
  · intro len w hw
    exact (pools_acquire_elsewhere hne none len w).trans hw
  · intro b w hw
    exact (pools_release_elsewhere hne none b w).trans hw
  · intro b w hw
    exact (congrArg (·[pool]?) (pools_send r.queue b w)).trans hw

end DataPlane

/-- Counting at one place leaves the routes at all other places as they are. -/
theorem Dispatcher.endpoint?_counted (d : Dispatcher f) (o : Outcome) {place : Option Slot}
    {slot : Slot} (hne : place ≠ some slot) :
    (d.counted o place).registry.endpoint? slot = d.registry.endpoint? slot := by
  cases place with
  | none => rfl
  | some other =>
      have hother : slot ≠ other := fun h => hne (congrArg some h.symm)
      rw [counted, Registry.endpoint?_record]
      simp only [if_neg hother, Option.map_id']

namespace Station

variable (st : Station f) (frame : Bytes) (reported : ℕ)

/-- A lost frame leaves every bounded queue as it is. -/
theorem queues_handle_lost (hlost : (st.handle frame reported).1 ≠ .delivered) {queue : QueueRef}
    {q : BoundedQueue} (hq : st.plane.queues[queue]? = some (.bounded q)) :
    (st.handle frame reported).2.plane.queues[queue]? = some (.bounded q) := by
  obtain ⟨new, hnew, hqueued⟩ :=
    DataPlane.queued_of_moved (moved st (.act (.handle frame reported))) hq
  obtain rfl := hqueued.eq_of_nil (Deed.accepted_of_lost hlost _ _ _) rfl
  exact hnew

/-- A frame is no matter of a pool that its route does not draw from. -/
theorem pools_handle_elsewhere {pool : PoolRef}
    (hne : ∀ slot e, st.lock.value.resolve frame = some (slot, e) → e.route.pool ≠ pool) :
    (st.handle frame reported).2.plane.pools[pool]? = st.plane.pools[pool]? := by
  rcases hresolve : st.lock.value.resolve frame with _ | ⟨slot, e⟩
  · obtain ⟨-, hplane⟩ := report_unresolved st hresolve reported
    rw [hplane, DataPlane.pools_note]
  · obtain ⟨w, hoffered, hplane⟩ := report_offered st hresolve reported
    rw [hplane, DataPlane.pools_note]
    exact DataPlane.pools_offered_elsewhere (hne slot e hresolve) hoffered

/-- A frame leaves the routes alone. -/
theorem sameRoutes_handle :
    (st.handle frame reported).2.lock.value.SameRoutes st.lock.value :=
  Dispatcher.sameRoutes_iff.mpr (Dispatcher.cleared_handle _ _ frame reported st.plane)

/-- A frame is counted on no other route than its own. -/
theorem endpoint?_handle {slot : Slot}
    (hne : (st.lock.value.resolve frame).map (·.1) ≠ some slot) :
    (st.handle frame reported).2.lock.value.registry.endpoint? slot =
      st.lock.value.registry.endpoint? slot := by
  have hcounted : (st.handle frame reported).2.lock.value = _ :=
    Dispatcher.handle_counted (DataPlane.collaborators none) st.lock.value frame reported st.plane
  have hplace : (st.lock.value.destination frame).map (·.1) =
      (st.lock.value.resolve frame).map (·.1) := by
    rw [Dispatcher.destination_eq, Option.map_map]
    rfl
  rw [hcounted, hplace]
  exact Dispatcher.endpoint?_counted _ _ hne

end Station

namespace Session

/-- **A lost frame leaves everything in place.**  In every state of a session, a frame that is not
delivered leaves every bounded queue and all routes as they are, and what was counted on every route but
its own.  It leaves alone every pool that its route does not draw from.  The pool of its route, if it was
new at the start, has as many free blocks as before.  They are the same, byte for byte, and in order; but
if the queue refused the frame, the first block has become the last, with the frame over its start.  The
pool counts one more exhaustion exactly if the caller is told so. -/
theorem losses_leave_all_in_place (dispatcher : Dispatcher f) (pools : List Pool)
    (queues : List Queue) :
    let start : Session f := .new dispatcher pools queues
    (∀ ops, (start.run ops).2.station = start.station.play (start.allMoves ops)) ∧
    ∀ moves frame reported,
      let st := start.station.play moves
      let after := st.handle frame reported
      let target := st.lock.value.resolve frame
      after.1 ≠ .delivered →
        (∀ (queue : QueueRef) (q : BoundedQueue), st.plane.queues[queue]? = some (.bounded q) →
          after.2.plane.queues[queue]? = some (.bounded q)) ∧
        after.2.lock.value.SameRoutes st.lock.value ∧
        (∀ slot, target.map (·.1) ≠ some slot →
          after.2.lock.value.registry.endpoint? slot = st.lock.value.registry.endpoint? slot) ∧
        (∀ pool, (∀ slot e, target = some (slot, e) → e.route.pool ≠ pool) →
          after.2.plane.pools[pool]? = st.plane.pools[pool]?) ∧
        ∀ slot e blocks size, target = some (slot, e) →
          pools[e.route.pool]?.bind Pool.blockPool? = some (.new blocks size) →
          ∃ bp bp', st.plane.blockPool? e.route.pool = some bp ∧
            after.2.plane.blockPool? e.route.pool = some bp' ∧ Spared frame after.1 bp bp' := by
  intro start
  refine ⟨station_run start, fun moves frame reported => ?_⟩
  intro st after target hlost
  refine ⟨fun queue q => st.queues_handle_lost frame reported hlost,
    st.sameRoutes_handle frame reported, fun slot => st.endpoint?_handle frame reported,
    fun pool => st.pools_handle_elsewhere frame reported, ?_⟩
  intro slot e blocks size hresolve hpool
  have hstocked : st.plane.Stocked e.route.pool blocks size :=
    start.station.stocked_play (stocked_new dispatcher queues hpool) moves
  obtain ⟨bp, bp', hbp, -, -, hbp', hdrawn⟩ := st.handle_drawn hresolve hstocked reported
  exact ⟨bp, bp', hbp, hbp', hdrawn.spared hlost⟩

/-- The queue of the route is full after the first frame, and its pool has two blocks left, the second one
with the bytes of an earlier frame. -/
def clogged : List (Station.Move (.integer .unsigned 1)) :=
  [.act (.addRoute 7#8 ⟨some 0, some 0, false⟩), .act (.handle [7, 1] 2), .acquire 0 0,
    .release 0 (.ofBlock [5, 6, 7])]

/-- The next frame is written over the start of the first free block, which goes to the end. -/
theorem losses_leave_all_in_place_when_clogged :
    let start : Session (.integer .unsigned 1) :=
      .new (.new 1) [.fixed (.new 3 3)] [.bounded (.new 1)]
    let st := start.station.play clogged
    let after := st.handle [7, 2] 2
    after.1 = .queueFull ∧
      after.2.plane.queues[0]? = st.plane.queues[0]? ∧
      ∃ bp bp', st.plane.blockPool? 0 = some bp ∧ bp.free = [[0, 0, 0], [5, 6, 7]] ∧
        after.2.plane.blockPool? 0 = some bp' ∧ bp'.free = [[5, 6, 7], [7, 2, 0]] := by
  intro start st after
  have hlanded : st.lock.value.resolve [7, 2] = some (.listener 0, ⟨⟨0, 0, false⟩, {}⟩) := by
    decide +kernel
  have hfull : after.1 = .queueFull := by decide +kernel
  have hlost : after.1 ≠ .delivered := by rw [hfull]; exact Outcome.noConfusion
  have hqueue : st.plane.queues[0]? = some (.bounded ⟨1, [⟨[7, 1, 0], 2, by decide⟩]⟩) := by
    decide +kernel
  have hfree : st.plane.blockPool? 0 = some ⟨3, 3, [[0, 0, 0], [5, 6, 7]], 0⟩ := by decide +kernel
  obtain ⟨-, hstates⟩ :=
    losses_leave_all_in_place (.new 1) [.fixed (.new 3 3)] [.bounded (.new 1)]
  obtain ⟨hqueues, -, -, -, hpool⟩ := hstates clogged [7, 2] 2 hlost
  obtain ⟨bp, bp', hbp, hbp', hspared⟩ := hpool _ _ 3 3 hlanded rfl
  obtain ⟨block, free, hold, hnew⟩ := hspared.recycled hfull
  cases hbp.symm.trans hfree
  cases hold
  unfold after st start
  exact ⟨hfull, (hqueues 0 _ hqueue).trans hqueue.symm, _, bp', hbp, rfl, hbp', hnew⟩

end Session

end Demux
