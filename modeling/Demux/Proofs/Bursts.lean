import Mathlib
import Demux.Proofs.Isolation
import Demux.Proofs.Settlement

/-!
# Bursts

Frames come one after another for a route on which nothing was counted yet, whose pool and queue are new
and which no consumer attends to.  As many of them are delivered as there are blocks in the pool and
places in the queue, and all others are lost in one way: the pool is exhausted if it has no more blocks
than the queue has places, and else the queue is full (`burst`).  The queue then holds the first frames of
the burst, and the pool and the counters of the route are known exactly (`Filled`, `counts_burst`).
-/

namespace Demux

variable {f : Format}

/-- How many frames find a block and a place. -/
def room (blocks capacity : ℕ) : ℕ := min blocks (max capacity 1)

/-- What becomes of the frames that do not. -/
def overrun (blocks capacity : ℕ) : Outcome :=
  if blocks ≤ max capacity 1 then .poolExhausted else .queueFull

/-- What becomes of so many frames. -/
def burst (blocks capacity n : ℕ) : List Outcome :=
  List.replicate (min n (room blocks capacity)) .delivered ++
    List.replicate (n - room blocks capacity) (overrun blocks capacity)

section Burst

variable {blocks capacity n : ℕ}

/-- One frame more is delivered while there is room. -/
theorem burst_succ_of_lt (h : n < room blocks capacity) :
    burst blocks capacity (n + 1) = burst blocks capacity n ++ [.delivered] := by
  have hnone : n - room blocks capacity = 0 := Nat.sub_eq_zero_of_le h.le
  have hnone' : n + 1 - room blocks capacity = 0 := Nat.sub_eq_zero_of_le h
  simp only [burst, hnone, hnone', Nat.min_eq_left h.le, Nat.min_eq_left (Nat.succ_le_of_lt h),
    List.replicate_succ', List.replicate_zero, List.append_nil]

/-- One frame more is lost when there is no room left. -/
theorem burst_succ_of_le (h : room blocks capacity ≤ n) :
    burst blocks capacity (n + 1) = burst blocks capacity n ++ [overrun blocks capacity] := by
  have hmore : n + 1 - room blocks capacity = n - room blocks capacity + 1 := Nat.succ_sub h
  simp only [burst, hmore, Nat.min_eq_right h, Nat.min_eq_right (Nat.le_succ_of_le h),
    List.replicate_succ', List.append_assoc]

/-- Of a burst only whole frames are lost, each of them once. -/
theorem counts_burst (blocks capacity n : ℕ) :
    let c := DropCounters.lost (burst blocks capacity n)
    c.dropped.val = min Tally.limit (n - room blocks capacity) ∧ c.partials.val = 0 ∧
      c.overflow.val = 0 := by
  intro c
  have hcounts := DropCounters.counts_lost (burst blocks capacity n)
  have hoverrun : (overrun blocks capacity).isDrop = true ∧
      overrun blocks capacity ≠ .droppedPartial ∧ (overrun blocks capacity).overflow = 0 := by
    unfold overrun
    split <;> exact ⟨rfl, Outcome.noConfusion, rfl⟩
  obtain ⟨hdrop, hpartial, hoverflow⟩ := hoverrun
  refine ⟨hcounts.dropped.trans ?_, hcounts.partials.trans ?_, hcounts.overflow.trans ?_⟩
  · have hdelivered : Outcome.delivered.isDrop = false := rfl
    simp [burst, List.countP_replicate, hdrop, hdelivered]
  · simp [burst, List.countP_replicate, hpartial]
  · have hdelivered : Outcome.delivered.overflow = 0 := rfl
    simp [burst, hoverflow, hdelivered]

end Burst

/-- What a pool and a queue that were new are like after a burst. -/
structure Filled (blocks capacity : ℕ) (frames : List Bytes) (bp : BlockPool) (q : BoundedQueue) :
    Prop where
  limit : q.capacity = max capacity 1
  queued : q.waiting.map (·.contents) = frames.take (room blocks capacity)
  available : bp.available + min frames.length (room blocks capacity) = blocks
  exhausted : bp.exhausted = UInt64.ofNat
    (if blocks ≤ max capacity 1 then frames.length - room blocks capacity else 0)

namespace Filled

variable {blocks size capacity : ℕ} {frames : List Bytes} {bp bp' : BlockPool} {q q' : BoundedQueue}

theorem new (blocks size capacity : ℕ) :
    Filled blocks capacity [] (.new blocks size) (.new capacity) where
  limit := rfl
  queued := by simp [BoundedQueue.new]
  available := by simp [BlockPool.new_eq, BlockPool.available]
  exhausted := by simp [BlockPool.new_eq]

/-- The queue holds a frame for every one that found room. -/
theorem size_eq (h : Filled blocks capacity frames bp q) :
    q.size = min frames.length (room blocks capacity) := by
  have hlength := congrArg List.length h.queued
  rw [List.length_map, List.length_take] at hlength
  rw [BoundedQueue.size, hlength, Nat.min_comm]

/-- A frame that finds no room is not in the queue. -/
theorem queued_of_le (h : Filled blocks capacity frames bp q)
    (hle : room blocks capacity ≤ frames.length) (frame : Bytes) :
    q.waiting.map (·.contents) = (frames ++ [frame]).take (room blocks capacity) := by
  rw [h.queued, List.take_append_of_le_length hle]

/-- One frame more is settled as the burst has it. -/
theorem settled (h : Filled blocks capacity frames bp q) {frame : Bytes} {o : Outcome}
    (hsettled : Settled bp q frame o bp' q') :
    burst blocks capacity (frames.length + 1) = burst blocks capacity frames.length ++ [o] ∧
      Filled blocks capacity (frames ++ [frame]) bp' q' := by
  have hlength : (frames ++ [frame]).length = frames.length + 1 := List.length_append
  have havailable := h.available
  have hsize := h.size_eq
  have hroomy : room blocks capacity = min blocks (max capacity 1) := rfl
  cases hsettled with
  -- What is free and what waits tells how many frames came before.
  | @delivered block free b hfree hplace hcontents _ =>
      rw [BlockPool.available, hfree, List.length_cons] at havailable
      rw [hsize, h.limit] at hplace
      have hlt : frames.length < room blocks capacity := by omega
      refine ⟨burst_succ_of_lt hlt, h.limit, ?_, ?_, ?_⟩
      · rw [List.map_append, h.queued, List.map_singleton, hcontents,
          List.take_of_length_le hlt.le, List.take_of_length_le (hlength.trans_le hlt)]
      · simp only [BlockPool.available, hlength]
        omega
      · have hnone := h.exhausted
        rw [Nat.sub_eq_zero_of_le hlt.le] at hnone
        rwa [hlength, Nat.sub_eq_zero_of_le (Nat.succ_le_of_lt hlt)]
  | exhausted hempty =>
      rw [BlockPool.available, hempty, List.length_nil] at havailable
      have hfew : blocks ≤ max capacity 1 := by omega
      have hle : room blocks capacity ≤ frames.length := by omega
      have hlost : overrun blocks capacity = .poolExhausted := if_pos hfew
      refine ⟨hlost ▸ burst_succ_of_le hle, h.limit, h.queued_of_le hle frame, ?_, ?_⟩
      · simp only [BlockPool.available, hempty, hlength, List.length_nil]
        omega
      · have hmore : frames.length + 1 - room blocks capacity =
            frames.length - room blocks capacity + 1 := Nat.succ_sub hle
        simp only [h.exhausted, if_pos hfew, hlength, hmore, UInt64.ofNat_add]
        rfl
  | @refused block free hfree hfull =>
      rw [BlockPool.available, hfree, List.length_cons] at havailable
      rw [hsize, h.limit] at hfull
      have hmany : ¬ blocks ≤ max capacity 1 := by omega
      have hle : room blocks capacity ≤ frames.length := by omega
      have hlost : overrun blocks capacity = .queueFull := if_neg hmany
      refine ⟨hlost ▸ burst_succ_of_le hle, h.limit, h.queued_of_le hle frame, ?_, ?_⟩
      · simp only [BlockPool.available, hlength, List.length_append, List.length_singleton]
        omega
      · rw [if_neg hmany]
        simpa only [if_neg hmany] using h.exhausted

end Filled

namespace Station

/-- A route at a place where there was none has nothing counted on it. -/
theorem counters_of_new (st : Station f) (action : Action f) {slot : Slot} {e : Endpoint}
    (habsent : st.lock.value.registry.endpoint? slot = none)
    (hplace : (st.perform action).2.lock.value.registry.endpoint? slot = some e) :
    e.counters = {} := by
  have hturned :=
    Dispatcher.turned (DataPlane.collaborators none) st.lock.value ⟨action, st.plane⟩
  have hafter : (st.perform action).2.lock.value =
      st.lock.value.turn (DataPlane.collaborators none) ⟨action, st.plane⟩ := rfl
  rw [hafter] at hplace
  generalize st.lock.value.turn _ _ = after, st.lock.value.deed _ _ = deed at hturned hplace
  cases hturned with
  | refused => cases habsent.symm.trans hplace
  | registered hextends =>
      rcases hextends.fresh slot e hplace with hold | ⟨-, hclear⟩
      · cases habsent.symm.trans hold
      · exact hclear
  | unmatched => cases habsent.symm.trans hplace
  | offered =>
      rw [Registry.endpoint?_record, habsent] at hplace
      cases hplace
  | reset =>
      rw [Registry.endpoint?_resetCounters, habsent] at hplace
      cases hplace

/-- Frames leave the routes alone. -/
theorem cleared_play_frames (st : Station f) (frames : List Frame) :
    (st.play (frames.map Frame.move)).lock.value.cleared = st.lock.value.cleared := by
  induction frames using List.reverseRecOn with
  | nil => rfl
  | append_singleton frames x ih =>
      rw [List.map_append, List.map_singleton, play_snoc]
      exact (Dispatcher.cleared_handle _ _ x.bytes x.reported _).trans ih

variable (st : Station f) {slot : Slot} {r : Route} {blocks size capacity : ℕ}

/-- What is known after every part of a burst. -/
theorem burst_play (hnew : st.lock.value.registry.endpoint? slot = some { route := r })
    (hpool : st.plane.blockPool? r.pool = some (.new blocks size))
    (hqueue : st.plane.queues[r.queue]? = some (.bounded (.new capacity))) (frames : List Frame)
    (htakes : ∀ x ∈ frames, st.lock.value.Takes slot r size x.bytes x.reported) :
    let t := st.play (frames.map Frame.move)
    let outcomes := burst blocks capacity frames.length
    (st.deeds (frames.map Frame.move)).filterMap Deed.outcome? = outcomes ∧
      t.lock.value.registry.endpoint? slot = some ⟨r, .lost outcomes⟩ ∧
      ∃ bp q, t.plane.blockPool? r.pool = some bp ∧ t.plane.queues[r.queue]? = some (.bounded q) ∧
        Filled blocks capacity (frames.map (·.bytes)) bp q := by
  have hstocked : st.plane.Stocked r.pool blocks size :=
    ⟨blocks, le_rfl, _, hpool, BlockPool.holds_new blocks size⟩
  induction frames using List.reverseRecOn with
  | nil =>
      have hnone : burst blocks capacity 0 = [] := by simp [burst]
      simp only [List.length_nil, hnone]
      exact ⟨rfl, hnew, _, _, hpool, hqueue, .new blocks size capacity⟩
  | append_singleton frames x ih =>
      obtain ⟨hbefore, hx⟩ := List.forall_mem_append.mp htakes
      have htakes' := List.forall_mem_singleton.mp hx
      obtain ⟨houtcomes, hplace, bp, q, hbp, hq, hfilled⟩ := ih hbefore
      set t := st.play (frames.map Frame.move) with ht
      have hroutes : t.lock.value.cleared = st.lock.value.cleared := st.cleared_play_frames frames
      have hdestination : t.lock.value.destination x.bytes = some (slot, r) :=
        (Dispatcher.destination_of_cleared hroutes x.bytes).trans htakes'.destination
      obtain ⟨bp', q', hbp', hq', hsettled⟩ :=
        t.handle_settled ⟨hdestination, htakes'.fits, htakes'.whole⟩
          (st.stocked_play hstocked _) hbp hq
      obtain ⟨hburst, hfilled'⟩ := hfilled.settled hsettled
      rw [List.length_map] at hburst
      have hmoves : (frames ++ [x]).map Frame.move = frames.map Frame.move ++ [x.move (f := f)] := by
        rw [List.map_append, List.map_singleton]
      simp only [hmoves, play_snoc, deeds_snoc, ← ht, List.length_append, List.length_singleton,
        hburst]
      refine ⟨?_, ?_, bp', q', hbp', hq', ?_⟩
      · rw [List.filterMap_append, houtcomes]
        rfl
      · change (t.handle x.bytes x.reported).2.lock.value.registry.endpoint? slot = _
        rw [dispatcher_handle, hdestination, Option.map_some, Dispatcher.counted,
          Registry.endpoint?_record, hplace, Option.map_some, if_pos rfl, Registry.count,
          DropCounters.record_eq_add_loss, ← DropCounters.lost_snoc]
      · rwa [List.map_append]

end Station

namespace Session

open Station (Deed)

/-- **A burst fills what there is.**  A route that has just been registered has nothing counted on it.  Let
such a route have a new pool of blocks and a new queue, and let some frames come for it that fit into a
block and are not discarded as truncated, with no consumer at work.  Each of the first frames finds a
block and a place, and is delivered.  All later ones are told that the pool is exhausted if it was made
with no more blocks than the queue has places, and else that the queue is full.  In the end the queue
holds the first frames, whole and in order, their blocks are missing in the pool, which counts the frames
that found no block in a machine word, and the route has counted every other frame as dropped and nothing
else. -/
theorem burst_fills_pool_or_queue :
    (∀ (s : Session f) action slot e,
      s.station.lock.value.registry.endpoint? slot = none →
      (s.step (.act action)).2.station.lock.value.registry.endpoint? slot = some e →
      e.counters = {}) ∧
    ∀ (s : Session f) (slot : Slot) (r : Route) (blocks size capacity : ℕ) (frames : List Frame),
      s.station.lock.value.registry.endpoint? slot = some { route := r } →
      s.station.plane.blockPool? r.pool = some (.new blocks size) →
      s.station.plane.queues[r.queue]? = some (.bounded (.new capacity)) →
      (∀ x ∈ frames, s.station.lock.value.Takes slot r size x.bytes x.reported) →
      let places := max capacity 1
      let n := frames.length
      let m := min n (min blocks places)
      let lost : Outcome := if blocks ≤ places then .poolExhausted else .queueFull
      let ran := s.run (frames.map Frame.op)
      let st := ran.2.station
      ran.1 = (List.replicate m Outcome.delivered ++ List.replicate (n - m) lost).map .handled ∧
      ∃ bp q e, st.plane.blockPool? r.pool = some bp ∧
        st.plane.queues[r.queue]? = some (.bounded q) ∧
        st.lock.value.registry.endpoint? slot = some e ∧
        q.waiting.map (·.contents) = (frames.take m).map (·.bytes) ∧
        bp.available = blocks - m ∧
        bp.exhausted.toNat = (if blocks ≤ places then n - m else 0) % 2 ^ 64 ∧
        e.route = r ∧ e.counters.dropped.val = min Tally.limit (n - m) ∧
        e.counters.partials.val = 0 ∧ e.counters.overflow.val = 0 := by
  refine ⟨fun s action slot e => s.station.counters_of_new action, ?_⟩
  intro s slot r blocks size capacity frames hnew hpool hqueue htakes places n m lost ran st
  obtain ⟨houtcomes, hplace, bp, q, hbp, hq, hfilled⟩ :=
    s.station.burst_play hnew hpool hqueue frames htakes
  obtain ⟨hmoves, hanswers⟩ := s.run_frames frames
  have hst : st = s.station.play (frames.map Frame.move) := hmoves ▸ s.station_run (frames.map Frame.op)
  have hroom : room blocks capacity = min blocks places := rfl
  have hlost : n - room blocks capacity = n - m := by omega
  obtain ⟨hdropped, hpartials, hoverflow⟩ := counts_burst blocks capacity n
  rw [← hst] at hplace hbp hq
  refine ⟨?_, bp, q, _, hbp, hq, hplace, ?_, ?_, ?_, rfl, ?_, hpartials, hoverflow⟩
  · rw [hanswers, houtcomes, burst, hlost]
    rfl
  · have htake : frames.take (room blocks capacity) = frames.take m :=
      List.take_eq_take_iff.mpr (by omega)
    rw [hfilled.queued, ← List.map_take, htake]
  · have havailable := hfilled.available
    rw [List.length_map] at havailable
    omega
  · rw [hfilled.exhausted, List.length_map, hlost]
    exact UInt64.toNat_ofNat'
  · rw [hdropped, hlost]

/-- The pool has a block more than the queue has places, and the last frame is truncated on a route that
lets such frames pass. -/
theorem burst_fills_pool_or_queue_of_one_place :
    let idle : Session (.integer .unsigned 1) :=
      .new (.new 1) [.fixed (.new 2 3)] [.bounded (.new 0)]
    let s := (idle.step (.act (.addRoute 7#8 ⟨some 0, some 0, false⟩))).2
    let ran := s.run ([⟨[7, 1], 2⟩, ⟨[7, 2, 2], 3⟩, ⟨[7], 9⟩].map Frame.op)
    ran.1 = [.handled .delivered, .handled .queueFull, .handled .queueFull] ∧
      ∃ bp q e, ran.2.station.plane.blockPool? 0 = some bp ∧
        ran.2.station.plane.queues[0]? = some (.bounded q) ∧
        ran.2.station.lock.value.registry.endpoint? (.listener 0) = some e ∧
        q.waiting.map (·.contents) = [[7, 1]] ∧ bp.available = 1 ∧ bp.exhausted.toNat = 0 ∧
        e.counters.dropped.val = 2 := by
  intro idle s
  have htakes : ∀ x ∈ ([⟨[7, 1], 2⟩, ⟨[7, 2, 2], 3⟩, ⟨[7], 9⟩] : List Frame),
      s.station.lock.value.Takes (.listener 0) ⟨0, 0, false⟩ 3 x.bytes x.reported := by
    simp only [List.forall_mem_cons, List.not_mem_nil, false_imp_iff, implies_true, and_true]
    exact ⟨⟨by decide +kernel, by decide, by decide⟩, ⟨by decide +kernel, by decide, by decide⟩,
      ⟨by decide +kernel, by decide, by decide⟩⟩
  obtain ⟨-, hburst⟩ := burst_fills_pool_or_queue (f := .integer .unsigned 1)
  obtain ⟨hanswers, bp, q, e, hbp, hq, hplace, hqueued, havailable, hexhausted, -, hdropped, -⟩ :=
    hburst s (.listener 0) ⟨0, 0, false⟩ 2 3 0 _ (by decide +kernel) (by decide +kernel)
      (by decide +kernel) htakes
  -- The run is not to be evaluated here.
  generalize s.run (([⟨[7, 1], 2⟩, ⟨[7, 2, 2], 3⟩, ⟨[7], 9⟩] : List Frame).map Frame.op) = ran
    at hanswers hbp hq hplace ⊢
  exact ⟨hanswers, bp, q, e, hbp, hq, hplace, hqueued, havailable, hexhausted, hdropped⟩

end Session

end Demux
