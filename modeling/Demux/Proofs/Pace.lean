import Mathlib
import Demux.Proofs.Isolation
import Demux.Proofs.Settlement

/-!
# No frame is lost while the consumer keeps up

A pool and a queue serve one route and its consumer, who takes buffers out of the queue, keeps as many as
he likes for as long as he likes, writes into them, and gives them back in any order (`Attended`).  The
blocks of the pool go round: each is free, or waits in the queue, or is in the consumer's hands
(`Circulating`).  So while some of them neither wait nor are held, and the queue has room, a frame that
fits is delivered, and none of this shows in any counter.
-/

namespace Demux

variable {f : Format}

/-- A pool and a queue that were new, and the buffers that the consumer holds: no block was lost and none
was added. -/
structure Circulating (blocks size capacity : ℕ) (bp : BlockPool) (q : BoundedQueue)
    (held : List Buffer) : Prop where
  holds : bp.Holds blocks size bp.available
  quiet : bp.exhausted = 0
  limit : q.capacity = max capacity 1
  sized : ∀ b ∈ q.waiting ++ held, b.capacity = size
  total : bp.available + q.size + held.length = blocks

namespace Circulating

variable {blocks size capacity : ℕ} {bp bp' : BlockPool} {q q' : BoundedQueue} {held : List Buffer}

theorem new (blocks size capacity : ℕ) :
    Circulating blocks size capacity (.new blocks size) (.new capacity) [] where
  holds := { BlockPool.holds_new blocks size with count := rfl }
  quiet := by rw [BlockPool.new_eq]
  limit := rfl
  sized := List.forall_mem_nil _
  total := (BlockPool.holds_new blocks size).count

/-- A frame that fits is delivered while a block is free and the queue has room. -/
theorem settled (h : Circulating blocks size capacity bp q held) {frame : Bytes} {o : Outcome}
    (hsettled : Settled bp q frame o bp' q') (hblocks : q.size + held.length < blocks)
    (hroom : q.size < max capacity 1) :
    o = .delivered ∧ Circulating blocks size capacity bp' q' held := by
  have htotal := h.total
  cases hsettled with
  | exhausted hempty =>
      rw [BlockPool.available, hempty, List.length_nil] at htotal
      omega
  | refused hfree hfull =>
      rw [h.limit] at hfull
      exact absurd hroom (Nat.not_lt.mpr hfull)
  | @delivered block free b hfree hplace hcontents hsize =>
      have hsized := h.holds.sized
      rw [hfree, List.forall_mem_cons] at hsized
      rw [BlockPool.available, hfree, List.length_cons, BoundedQueue.size] at htotal
      refine ⟨rfl, ⟨h.holds.made, h.holds.shape, hsized.2, rfl⟩, h.quiet, h.limit, ?_, ?_⟩
      · have hrest := h.sized
        rw [List.forall_mem_append] at hrest ⊢
        refine ⟨List.forall_mem_append.mpr ⟨hrest.1, ?_⟩, hrest.2⟩
        exact List.forall_mem_singleton.mpr (hsize.trans h.holds.shape)
      · simp only [BlockPool.available, BoundedQueue.size, List.length_append, List.length_singleton]
        omega

/-- The consumer takes the oldest buffer of the queue, if there is one. -/
theorem fetched (h : Circulating blocks size capacity bp q held) :
    Circulating blocks size capacity bp q.receive.2 (held ++ q.receive.1.toList) := by
  unfold BoundedQueue.receive
  cases hwaiting : q.waiting with
  | nil => simpa using h
  | cons b waiting =>
      have hsized := h.sized
      have htotal := h.total
      rw [hwaiting] at hsized
      rw [BoundedQueue.size, hwaiting, List.length_cons] at htotal
      refine ⟨h.holds, h.quiet, h.limit, fun b' hb' => hsized b' ?_, ?_⟩
      · simp only [Option.toList_some, List.mem_append, List.mem_cons] at hb' ⊢
        tauto
      · simp only [BoundedQueue.size, Option.toList_some, List.length_append, List.length_singleton]
        omega

/-- The consumer writes into a buffer. -/
theorem written (h : Circulating blocks size capacity bp q held) {b b' : Buffer} (hmem : b ∈ held)
    (hsame : b'.capacity = b.capacity) :
    Circulating blocks size capacity bp q (b' :: held.erase b) := by
  obtain ⟨hwaiting, hheld⟩ := List.forall_mem_append.mp h.sized
  refine ⟨h.holds, h.quiet, h.limit, List.forall_mem_append.mpr ⟨hwaiting, ?_⟩, ?_⟩
  · refine List.forall_mem_cons.mpr ⟨hsame.trans (hheld b hmem), ?_⟩
    exact fun other hother => hheld other (List.mem_of_mem_erase hother)
  · rw [List.length_cons, List.length_erase_add_one hmem]
    exact h.total

/-- The consumer gives a buffer back, which the pool keeps, since its block is missing there. -/
theorem givenBack (h : Circulating blocks size capacity bp q held) {b : Buffer} (hmem : b ∈ held) :
    Circulating blocks size capacity (bp.release b).2 q (held.erase b) := by
  obtain ⟨hwaiting, hheld⟩ := List.forall_mem_append.mp h.sized
  have hlength := List.length_erase_add_one hmem
  have htotal := h.total
  have hroom : bp.available < blocks := by omega
  have hsize : b.capacity = bp.blockSize := (hheld b hmem).trans h.holds.shape.symm
  obtain ⟨-, hback⟩ := h.holds.release hroom (hheld b hmem)
  refine ⟨?_, ?_, h.limit, ?_, ?_⟩
  · rwa [hback.count]
  · rw [BlockPool.release_kept hsize (h.holds.made ▸ hroom)]
    exact h.quiet
  · refine List.forall_mem_append.mpr ⟨hwaiting, ?_⟩
    exact fun other hother => hheld other (List.mem_of_mem_erase hother)
  · rw [hback.count]
    omega

end Circulating

namespace Station

/-- The runs of a station at which a consumer keeps up with a route: the moves so far, and the buffers
that the consumer holds by then.  Only the consumer, and frames that the route takes, have to do with the
pool and the queue. -/
inductive Attended (r : Route) (blocks size capacity : ℕ) (start : Station f) :
    List (Move f) → List Buffer → Prop
  | start : Attended r blocks size capacity start [] []
  /-- A frame comes while fewer buffers wait or are held than there are blocks, and the queue has room. -/
  | frame {moves : List (Move f)} {held : List Buffer} {slot : Slot} {frame : Bytes} {reported : ℕ}
      {q : BoundedQueue} (before : Attended r blocks size capacity start moves held)
      (htakes : (start.play moves).lock.value.Takes slot r size frame reported)
      (hq : (start.play moves).plane.queues[r.queue]? = some (.bounded q))
      (hblocks : q.size + held.length < blocks) (hroom : q.size < max capacity 1) :
      Attended r blocks size capacity start (moves ++ [.act (.handle frame reported)]) held
  /-- The consumer takes the oldest buffer, if there is one. -/
  | fetch {moves : List (Move f)} {held : List Buffer}
      (before : Attended r blocks size capacity start moves held) :
      Attended r blocks size capacity start (moves ++ [.receive r.queue])
        (held ++ ((start.play moves).receive r.queue).1.toList)
  /-- The consumer changes a buffer that he holds, in whatever way. -/
  | write {moves : List (Move f)} {held : List Buffer} {b b' : Buffer}
      (before : Attended r blocks size capacity start moves held) (hmem : b ∈ held)
      (hsame : b'.capacity = b.capacity) :
      Attended r blocks size capacity start moves (b' :: held.erase b)
  /-- The consumer gives back any of the buffers that he holds. -/
  | giveBack {moves : List (Move f)} {held : List Buffer} {b : Buffer}
      (before : Attended r blocks size capacity start moves held) (hmem : b ∈ held) :
      Attended r blocks size capacity start (moves ++ [.release r.pool b]) (held.erase b)

/-- The blocks of the pool of a route go round. -/
def Circulates (t : Station f) (r : Route) (blocks size capacity : ℕ) (held : List Buffer) : Prop :=
  ∃ bp q, t.plane.blockPool? r.pool = some bp ∧ t.plane.queues[r.queue]? = some (.bounded q) ∧
    Circulating blocks size capacity bp q held

/-- What is known at every moment of such a run. -/
structure Unharmed (r : Route) (blocks size capacity : ℕ) (start : Station f) (moves : List (Move f))
    (held : List Buffer) : Prop where
  delivered : ∀ o ∈ (start.deeds moves).filterMap Deed.outcome?, o = .delivered
  uncounted : (start.play moves).lock.value = start.lock.value
  blocks : (start.play moves).Circulates r blocks size capacity held

variable {r : Route} {blocks size capacity : ℕ} {start : Station f} {moves : List (Move f)}
  {held : List Buffer}

/-- One move more, in which no frame is lost. -/
theorem delivered_snoc (h : ∀ o ∈ (start.deeds moves).filterMap Deed.outcome?, o = .delivered)
    {m : Move f} (hm : ∀ o ∈ ((start.play moves).deed m).outcome?, o = .delivered) :
    ∀ o ∈ (start.deeds (moves ++ [m])).filterMap Deed.outcome?, o = .delivered := by
  rw [deeds_snoc, List.filterMap_append]
  refine List.forall_mem_append.mpr ⟨h, fun o ho => ?_⟩
  obtain ⟨deed, hdeed, houtcome⟩ := List.mem_filterMap.mp ho
  rw [List.mem_singleton.mp hdeed] at houtcome
  exact hm o houtcome

theorem Unharmed.frame (h : Unharmed r blocks size capacity start moves held) {slot : Slot}
    {frame : Bytes} {reported : ℕ} {q : BoundedQueue}
    (htakes : (start.play moves).lock.value.Takes slot r size frame reported)
    (hq : (start.play moves).plane.queues[r.queue]? = some (.bounded q))
    (hblocks : q.size + held.length < blocks) (hroom : q.size < max capacity 1) :
    Unharmed r blocks size capacity start (moves ++ [.act (.handle frame reported)]) held := by
  obtain ⟨bp, found, hbp, hfound, hround⟩ := h.blocks
  cases hq.symm.trans hfound
  have hlimit : bp.available ≤ blocks := by
    have htotal := hround.total
    omega
  obtain ⟨bp', q', hbp', hq', hsettled⟩ := (start.play moves).handle_settled htakes
    ⟨bp.available, hlimit, bp, hbp, hround.holds⟩ hbp hq
  obtain ⟨houtcome, hround'⟩ := hround.settled hsettled hblocks hroom
  refine ⟨delivered_snoc h.delivered fun o ho => ?_, ?_, ?_⟩
  · exact (Option.some.inj ho).symm.trans houtcome
  · rw [play_snoc]
    refine (dispatcher_handle _ frame reported).trans ?_
    rw [houtcome, Dispatcher.counted_delivered]
    exact h.uncounted
  · rw [play_snoc]
    exact ⟨bp', q', hbp', hq', hround'⟩

theorem Unharmed.fetch (h : Unharmed r blocks size capacity start moves held) :
    Unharmed r blocks size capacity start (moves ++ [.receive r.queue])
      (held ++ ((start.play moves).receive r.queue).1.toList) := by
  obtain ⟨bp, q, hbp, hq, hround⟩ := h.blocks
  obtain ⟨hresult, hafter⟩ := DataPlane.receive_bounded hq
  have hsame := DataPlane.pools_receive r.queue (start.play moves).plane
  refine ⟨delivered_snoc h.delivered fun o ho => (Option.not_mem_none o ho).elim, ?_, ?_⟩
  · rw [play_snoc]
    exact h.uncounted
  · rw [play_snoc, show ((start.play moves).receive r.queue).1 = q.receive.1 from hresult]
    exact ⟨bp, q.receive.2, (DataPlane.blockPool?_congr hsame).trans hbp, hafter, hround.fetched⟩

theorem Unharmed.giveBack (h : Unharmed r blocks size capacity start moves held) {b : Buffer}
    (hmem : b ∈ held) :
    Unharmed r blocks size capacity start (moves ++ [.release r.pool b]) (held.erase b) := by
  obtain ⟨bp, q, hbp, hq, hround⟩ := h.blocks
  have hafter := (DataPlane.release_blocks hbp (start.play moves).view b).1
  have hsame := DataPlane.queues_release (start.play moves).view r.pool b (start.play moves).plane
  refine ⟨delivered_snoc h.delivered fun o ho => (Option.not_mem_none o ho).elim, ?_, ?_⟩
  · rw [play_snoc]
    exact h.uncounted
  · rw [play_snoc]
    exact ⟨_, q, hafter, (congrArg (·[r.queue]?) hsame).trans hq, hround.givenBack hmem⟩

theorem Attended.unharmed (h : Attended r blocks size capacity start moves held)
    (hpool : start.plane.blockPool? r.pool = some (.new blocks size))
    (hqueue : start.plane.queues[r.queue]? = some (.bounded (.new capacity))) :
    Unharmed r blocks size capacity start moves held := by
  induction h with
  | start => exact ⟨List.forall_mem_nil _, rfl, _, _, hpool, hqueue, .new blocks size capacity⟩
  | frame before htakes hq hblocks hroom ih => exact ih.frame htakes hq hblocks hroom
  | fetch before ih => exact ih.fetch
  | write before hmem hsame ih =>
      obtain ⟨bp, q, hbp, hq, hround⟩ := ih.blocks
      exact ⟨ih.delivered, ih.uncounted, bp, q, hbp, hq, hround.written hmem hsame⟩
  | giveBack before hmem ih => exact ih.giveBack hmem

/-- **No frame is lost while the consumer keeps up.**  Let a route have a new pool of blocks and a new
queue, which only the route and its consumer use.  Let frames that the route takes, that fit into a block
and that are not discarded as truncated come only while fewer buffers wait in the queue or are held by the
consumer than the pool was made with, and while the queue has room.  Then, however long this goes on, and
in whatever order and state the consumer gives buffers back, every frame is delivered, the dispatcher is
as it was at the start with all its counters, the pool has never been found exhausted, and the free
blocks, the waiting buffers and the held ones make up what the pool was made with. -/
theorem delivers_all_while_attended
    (hpool : start.plane.blockPool? r.pool = some (.new blocks size))
    (hqueue : start.plane.queues[r.queue]? = some (.bounded (.new capacity)))
    (h : Attended r blocks size capacity start moves held) :
    let t := start.play moves
    (∀ o ∈ (start.deeds moves).filterMap Deed.outcome?, o = .delivered) ∧
      t.lock.value = start.lock.value ∧
      ∃ bp q, t.plane.blockPool? r.pool = some bp ∧
        t.plane.queues[r.queue]? = some (.bounded q) ∧ bp.exhausted = 0 ∧
        bp.available + q.size + held.length = blocks := by
  obtain ⟨hdelivered, huncounted, bp, q, hbp, hq, hround⟩ := h.unharmed hpool hqueue
  exact ⟨hdelivered, huncounted, bp, q, hbp, hq, hround.quiet, hround.total⟩

/-- A station with one listener, a pool of two blocks and a queue for one buffer. -/
def singleRoute : Station (.integer .unsigned 1) :=
  (Station.new (.new 1) [.fixed (.new 2 3)] [.bounded (.new 0)]).move
    (.act (.addRoute 7#8 ⟨some 0, some 0, true⟩))

/-- The consumer holds a buffer and has written over it when the next frame comes, and takes that frame
before he gives the buffer back. -/
def busy : List (Move (.integer .unsigned 1)) :=
  [.act (.handle [7, 1] 2), .receive 0, .act (.handle [7] 1), .receive 0,
    .release 0 ⟨[9, 9, 9], 0, by decide⟩]

theorem delivers_all_while_attended_in_turn :
    let t := singleRoute.play busy
    (∀ o ∈ (singleRoute.deeds busy).filterMap Deed.outcome?, o = .delivered) ∧
      t.lock.value = singleRoute.lock.value ∧
      ∃ bp q, t.plane.blockPool? 0 = some bp ∧ t.plane.queues[0]? = some (.bounded q) ∧
        bp.exhausted = 0 ∧ bp.available + q.size + 1 = 2 := by
  let r : Route := ⟨0, 0, true⟩
  let first : Buffer := ⟨[7, 1, 0], 2, by decide⟩
  let second : Buffer := ⟨[7, 0, 0], 1, by decide⟩
  let scrawled : Buffer := ⟨[9, 9, 9], 0, by decide⟩
  let after (n : ℕ) : Station (.integer .unsigned 1) := singleRoute.play (busy.take n)
  have htakes : (after 0).lock.value.Takes (.listener 0) r 3 [7, 1] 2 :=
    ⟨by decide +kernel, by decide, by decide⟩
  have hempty : (after 0).plane.queues[0]? = some (.bounded ⟨1, []⟩) := by decide +kernel
  have hsent : Attended r 2 3 0 singleRoute (busy.take 1) [] :=
    Attended.start.frame htakes hempty (by decide) (by decide)
  have hheld : [] ++ ((after 1).receive 0).1.toList = [first] := by decide +kernel
  have hfetched : Attended r 2 3 0 singleRoute (busy.take 2) [first] := hheld ▸ hsent.fetch
  have hwritten : Attended r 2 3 0 singleRoute (busy.take 2) [scrawled] :=
    hfetched.write List.mem_cons_self rfl
  have htakes' : (after 2).lock.value.Takes (.listener 0) r 3 [7] 1 :=
    ⟨by decide +kernel, by decide, by decide⟩
  have hempty' : (after 2).plane.queues[0]? = some (.bounded ⟨1, []⟩) := by decide +kernel
  have hsent' : Attended r 2 3 0 singleRoute (busy.take 3) [scrawled] :=
    hwritten.frame htakes' hempty' (by decide) (by decide)
  have hheld' : [scrawled] ++ ((after 3).receive 0).1.toList = [scrawled, second] := by
    decide +kernel
  have hfetched' : Attended r 2 3 0 singleRoute (busy.take 4) [scrawled, second] :=
    hheld' ▸ hsent'.fetch
  have hback : Attended r 2 3 0 singleRoute busy [second] := hfetched'.giveBack List.mem_cons_self
  exact delivers_all_while_attended (by decide +kernel) (by decide +kernel) hback

end Station

end Demux
