import Mathlib
import Demux.Proofs.Losses

/-!
# How a frame that fits is settled

A frame that goes to a route, fits into a block of its pool and is not discarded for being truncated
(`Dispatcher.Takes`) is settled in one of three ways, and the pool and the queue alone decide which
(`Settled`): it is delivered if a block is free and the queue has room, the pool is exhausted if no block
is free, and else the queue refuses it and the block goes to the end of the free list.
-/

namespace Demux

variable {f : Format}

/-- A frame that goes to a route at a place, fits into a block, and is whole if the route wants it so. -/
structure Dispatcher.Takes (d : Dispatcher f) (slot : Slot) (r : Route) (size : ℕ) (frame : Bytes)
    (reported : ℕ) : Prop where
  destination : d.destination frame = some (slot, r)
  fits : frame.length ≤ size
  whole : ¬ (r.dropPartial = true ∧ frame.length < reported)

/-- The ways in which a frame that fits can be settled, with what is left of the pool and the queue. -/
inductive Settled (bp : BlockPool) (q : BoundedQueue) (frame : Bytes) :
    Outcome → BlockPool → BoundedQueue → Prop
  /-- The next free block goes to the queue with the frame. -/
  | delivered {block : Bytes} {free : List Bytes} {b : Buffer} (hfree : bp.free = block :: free)
      (hroom : q.size < q.capacity) (hcontents : b.contents = frame)
      (hsize : b.capacity = bp.blockSize) :
      Settled bp q frame .delivered { bp with free } { q with waiting := q.waiting ++ [b] }
  /-- No block is free, whether or not the queue has room. -/
  | exhausted (hempty : bp.free = []) :
      Settled bp q frame .poolExhausted { bp with exhausted := bp.exhausted + 1 } q
  /-- The queue is full, and the block goes back to the end of the free list. -/
  | refused {block : Bytes} {free : List Bytes} (hfree : bp.free = block :: free)
      (hfull : q.capacity ≤ q.size) :
      Settled bp q frame .queueFull
        { bp with free := free ++ [frame ++ block.drop frame.length] } q

namespace DataPlane

variable {p w : DataPlane} {r : Route} {frame : Bytes} {reported : ℕ} {verdict : Verdict}
  {blocks size : ℕ} {q : BoundedQueue}

/-- A delivered frame is at the end of the queue, in a block of the pool. -/
theorem Stocks.joined {n : ℕ} (h : p.Stocks r.pool blocks size n)
    (hq : p.queues[r.queue]? = some (.bounded q))
    (hoffered : Offered (collaborators none) r frame reported p verdict w)
    (hdelivered : verdict.outcome = .delivered) :
    ∃ b : Buffer, b.contents = frame ∧ b.capacity = size ∧
      w.queues[r.queue]? = some (.bounded { q with waiting := q.waiting ++ [b] }) := by
  cases hoffered with
  | refused => split at hdelivered <;> cases hdelivered
  | @delivered b filled w₁ w₂ hwhole hacquire hfill hsend =>
      obtain ⟨k, -, hsize, -⟩ := h.acquire_ok hacquire
      obtain ⟨-, hcontents, hcapacity⟩ := Buffer.fill_ok hfill
      refine ⟨filled, hcontents, hcapacity.trans hsize, ?_⟩
      rw [← queues_of_acquire hacquire] at hq
      change w₁.send r.queue filled = (none, w) at hsend
      rcases send_cases hq filled with ⟨-, hrefused⟩ | ⟨-, -, hafter⟩
      · cases hrefused.symm.trans hsend
      · rwa [hsend] at hafter
  | _ => cases hdelivered

/-- A lost frame leaves the queue of its route as it is. -/
theorem queue_of_lost (hq : p.queues[r.queue]? = some (.bounded q))
    (hoffered : Offered (collaborators none) r frame reported p verdict w)
    (hlost : verdict.outcome ≠ .delivered) : w.queues[r.queue]? = some (.bounded q) := by
  obtain ⟨new, hnew, hqueued⟩ := queued_of_offered hoffered hq
  obtain rfl := hqueued.eq_of_nil (Station.Deed.accepted_of_lost hlost _ _ _) rfl
  exact hnew

/-- An offer of a frame that fits settles it. -/
theorem Stocked.settled (h : p.Stocked r.pool blocks size)
    (hq : p.queues[r.queue]? = some (.bounded q))
    (hoffered : Offered (collaborators none) r frame reported p verdict w)
    (hfits : frame.length ≤ size) (hwhole : ¬ (r.dropPartial = true ∧ frame.length < reported)) :
    ∃ bp bp' q', p.blockPool? r.pool = some bp ∧ w.blockPool? r.pool = some bp' ∧
      w.queues[r.queue]? = some (.bounded q') ∧ Settled bp q frame verdict.outcome bp' q' := by
  obtain ⟨bp, bp', hbp, -, hsize, hbp', hdrawn⟩ := h.drawn hoffered
  obtain ⟨hfull, hroom⟩ := full_of_offered hoffered hq
  subst hsize
  cases hdrawn with
  | truncated hcut => exact absurd hcut hwhole
  | tooLong _ hlong => exact absurd hfits (Nat.not_le.mpr hlong)
  | exhausted _ _ hempty =>
      exact ⟨bp, _, q, hbp, hbp', queue_of_lost hq hoffered Outcome.noConfusion, .exhausted hempty⟩
  | queueFull _ _ hfree =>
      obtain ⟨hsize, hsame⟩ := hfull rfl
      exact ⟨bp, _, q, hbp, hbp', hsame, .refused hfree hsize⟩
  | delivered _ _ hfree =>
      obtain ⟨n, -, hstocks⟩ := h
      obtain ⟨b, hcontents, hcapacity, hafter⟩ := hstocks.joined hq hoffered rfl
      exact ⟨bp, _, _, hbp, hbp', hafter, .delivered hfree (hroom rfl) hcontents hcapacity⟩

end DataPlane

/-- A dispatch of a frame that fits settles it. -/
theorem Station.handle_settled (st : Station f) {slot : Slot} {r : Route} {frame : Bytes}
    {reported blocks size : ℕ} {bp : BlockPool} {q : BoundedQueue}
    (htakes : st.lock.value.Takes slot r size frame reported)
    (hstocked : st.plane.Stocked r.pool blocks size) (hbp : st.plane.blockPool? r.pool = some bp)
    (hq : st.plane.queues[r.queue]? = some (.bounded q)) :
    ∃ bp' q', (st.handle frame reported).2.plane.blockPool? r.pool = some bp' ∧
      (st.handle frame reported).2.plane.queues[r.queue]? = some (.bounded q') ∧
      Settled bp q frame (st.handle frame reported).1 bp' q' := by
  have hdestination := htakes.destination
  rw [Dispatcher.destination_eq, Option.map_eq_some_iff] at hdestination
  obtain ⟨⟨_, e⟩, hresolve, hlanded⟩ := hdestination
  cases hlanded
  obtain ⟨verdict, w, event, hoffered, houtcome, hplane⟩ := st.handle_resolved hresolve reported
  obtain ⟨found, bp', q', hfound, hbp', hq', hsettled⟩ :=
    hstocked.settled hq hoffered htakes.fits htakes.whole
  cases hbp.symm.trans hfound
  rw [houtcome, hplane]
  exact ⟨bp', q', hbp', hq', hsettled⟩

end Demux
