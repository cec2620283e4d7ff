import Mathlib
import Demux.Proofs.Fifo
import Demux.Proofs.Routing
import Demux.Proofs.Stocks

/-!
# Outcomes can be foretold

What becomes of a frame at a route with a pool of blocks and a bounded queue can be told beforehand from
what anybody can see: the lengths of the frame, the size and number of free blocks, and whether the queue
is full.  Several reasons to drop a frame may apply at once, and then the first one counts
(`Route.foretold`).
-/

namespace Demux

variable {f : Format}

/-- What is to be expected of a frame at a route, from the size of the blocks of its pool, how many of
them are free, and whether its queue is full. -/
def Route.foretold (r : Route) (size available : ℕ) (full : Bool) (length reported : ℕ) : Verdict :=
  if r.dropPartial = true ∧ length < reported then .droppedPartial
  else if size < length then .exceedsBlock (length - size)
  else if available = 0 then .poolExhausted
  else if full = true then .queueFull
  else .delivered

/-- No frame is expected to be too long for a block that was handed out for it. -/
theorem Route.foretold_ne_exceedsBuffer (r : Route) (size available : ℕ) (full : Bool)
    (length reported bytes : ℕ) :
    r.foretold size available full length reported ≠ .exceedsBuffer bytes := by
  rw [foretold]
  split_ifs <;> exact Verdict.noConfusion

/-- The log tells apart the two places at which a frame can turn out too long. -/
theorem Report.message_ne_of_verdict {report : Report}
    (h : ∀ bytes, report.verdict ≠ .exceedsBuffer bytes) :
    report.entry.message ≠ "Frame exceeds acquired buffer" := by
  rcases report with ⟨id, length, reported, verdict⟩
  cases verdict with
  | exceedsBuffer bytes => exact absurd rfl (h bytes)
  | _ => simp [entry]

/-- However an offer to a route with a pool of blocks ends, it was to be expected, if only a full queue
refuses a frame. -/
theorem Drawn.foretold {bp bp' : BlockPool} {r : Route} {frame : Bytes} {reported : ℕ}
    {verdict : Verdict} (h : Drawn bp r frame reported verdict bp') {full : Bool}
    (hrefused : verdict = .queueFull → full = true) (hdelivered : verdict = .delivered → full = false) :
    verdict = r.foretold bp.blockSize bp.available full frame.length reported := by
  have hfree {block : Bytes} {free : List Bytes} (h : bp.free = block :: free) :
      ¬ bp.available = 0 := by
    rw [BlockPool.available, h, List.length_cons]
    omega
  rw [Route.foretold]
  cases h with
  | truncated hcut => rw [if_pos hcut]
  | tooLong hwhole hlong => rw [if_neg hwhole, if_pos hlong]
  | exhausted hwhole hfits hempty =>
      have hnone : bp.available = 0 := by rw [BlockPool.available, hempty, List.length_nil]
      rw [if_neg hwhole, if_neg (Nat.not_lt.mpr hfits), if_pos hnone]
  | queueFull hwhole hfits hblock =>
      rw [if_neg hwhole, if_neg (Nat.not_lt.mpr hfits), if_neg (hfree hblock), if_pos (hrefused rfl)]
  | delivered hwhole hfits hblock =>
      have hroom : ¬ full = true := by rw [hdelivered rfl]; exact Bool.noConfusion
      rw [if_neg hwhole, if_neg (Nat.not_lt.mpr hfits), if_neg (hfree hblock), if_neg hroom]

namespace Station

/-- The verdict about a frame at a route with a pool of blocks that is in order and a bounded queue. -/
theorem verdict_foretold (st : Station f) {frame : Bytes} {slot : Slot} {e : Endpoint}
    (hresolve : st.lock.value.resolve frame = some (slot, e)) {blocks size : ℕ}
    (hstocked : st.plane.Stocked e.route.pool blocks size) {q : BoundedQueue}
    (hq : st.plane.queues[e.route.queue]? = some (.bounded q)) (reported : ℕ) :
    ∃ bp, st.plane.blockPool? e.route.pool = some bp ∧
      (st.report frame reported).verdict =
        e.route.foretold size bp.available q.isFull frame.length reported := by
  obtain ⟨bp, bp', hbp, -, rfl, -, hdrawn⟩ := handle_drawn st hresolve hstocked reported
  obtain ⟨w, hoffered, -⟩ := report_offered st hresolve reported
  obtain ⟨hfull, hroom⟩ := DataPlane.full_of_offered hoffered hq
  -- The pool decides everything but the last question, which is for the queue.
  refine ⟨bp, hbp, hdrawn.foretold (fun hrefused => ?_) (fun hdelivered => ?_)⟩
  · obtain ⟨hsize, -⟩ := hfull (congrArg Verdict.outcome hrefused)
    exact decide_eq_true hsize
  · have hsize := hroom (congrArg Verdict.outcome hdelivered)
    exact decide_eq_false (Nat.not_le.mpr hsize)

end Station

namespace Session

/-- **Outcomes can be foretold.**  In every state of a session, whatever was dispatched, acquired and
released before, a frame is unmatched exactly if it goes nowhere.  If it goes to a route whose pool of
blocks and bounded queue were new at the start, its outcome is the one that is to be expected from the
free blocks of the pool and from whether the queue is full, and so is the verdict in the log, which never
is that a block handed out for the frame was too short. -/
theorem outcomes_are_foretold (dispatcher : Dispatcher f) (pools : List Pool) (queues : List Queue) :
    let start : Session f := .new dispatcher pools queues
    (∀ ops, (start.run ops).2.station = start.station.play (start.allMoves ops)) ∧
    ∀ moves frame reported,
      let st := start.station.play moves
      let after := st.handle frame reported
      (after.1 = .unmatched ↔ st.lock.value.resolve frame = none) ∧
      ∀ slot e blocks size capacity, st.lock.value.resolve frame = some (slot, e) →
        pools[e.route.pool]?.bind Pool.blockPool? = some (.new blocks size) →
        queues[e.route.queue]? = some (.bounded (.new capacity)) →
        ∃ bp q report, st.plane.blockPool? e.route.pool = some bp ∧
          st.plane.queues[e.route.queue]? = some (.bounded q) ∧
          after.2.plane.events = st.plane.events ++ [.dispatch (.frame report)] ∧
          report.verdict = e.route.foretold size bp.available q.isFull frame.length reported ∧
          after.1 = report.verdict.outcome ∧
          report.entry.message ≠ "Frame exceeds acquired buffer" := by
  intro start
  refine ⟨station_run start, fun moves frame reported => ?_⟩
  intro st after
  refine ⟨Dispatcher.outcome_eq_unmatched_iff _ _ _ _ _, ?_⟩
  intro slot e blocks size capacity hresolve hpool hqueue
  have hstocked : st.plane.Stocked e.route.pool blocks size :=
    start.station.stocked_play (stocked_new dispatcher queues hpool) moves
  obtain ⟨q, hq, -⟩ := start.station.flow_play hqueue moves
  obtain ⟨bp, hbp, hverdict⟩ := st.verdict_foretold hresolve hstocked hq reported
  obtain ⟨warnings, hevents, hquiet⟩ := st.events_handle frame reported
  obtain rfl := hquiet fun slot' e' hresolve' => by
    cases hresolve.symm.trans hresolve'
    exact ⟨blocks, size, hstocked⟩
  rw [List.map_nil, List.append_nil] at hevents
  refine ⟨bp, q, st.report frame reported, hbp, hq, hevents, hverdict, rfl, ?_⟩
  apply Report.message_ne_of_verdict
  intro bytes
  rw [hverdict]
  exact Route.foretold_ne_exceedsBuffer _ _ _ _ _ _ bytes

/-- The only block of a pool is taken by a consumer, who gives back a foreign one. -/
def drained : List (Station.Move (.integer .unsigned 1)) :=
  [.act (.addRoute 7#8 ⟨some 0, some 0, false⟩), .acquire 0 1, .release 0 (.ofBlock [0, 0, 0])]

/-- A frame that is too long is dropped as such, though no block is free. -/
theorem outcomes_are_foretold_when_drained :
    let start : Session (.integer .unsigned 1) :=
      .new (.new 1) [.fixed (.new 1 2)] [.bounded (.new 1)]
    let st := start.station.play drained
    ∃ bp q, st.plane.blockPool? 0 = some bp ∧ st.plane.queues[0]? = some (.bounded q) ∧
      (st.handle [7, 1, 2] 3).1 =
        (Route.foretold ⟨0, 0, false⟩ 2 bp.available q.isFull 3 3).outcome ∧
      (st.handle [7, 1, 2] 3).1 = .overflowed 1 := by
  intro start st
  have hlanded : st.lock.value.resolve [7, 1, 2] = some (.listener 0, ⟨⟨0, 0, false⟩, {}⟩) := by
    decide +kernel
  have hover : (st.handle [7, 1, 2] 3).1 = .overflowed 1 := by decide +kernel
  obtain ⟨-, hstates⟩ := outcomes_are_foretold (.new 1) [.fixed (.new 1 2)] [.bounded (.new 1)]
  obtain ⟨-, hresolved⟩ := hstates drained [7, 1, 2] 3
  obtain ⟨bp, q, report, hbp, hq, -, hverdict, houtcome, -⟩ :=
    hresolved _ _ 1 2 1 hlanded rfl rfl
  exact ⟨bp, q, hbp, hq, houtcome.trans (congrArg Verdict.outcome hverdict), hover⟩

end Session

end Demux
