import Mathlib
import Demux.Proofs.Planes
import Demux.Proofs.Sessions

/-!
# Queues deliver whole frames, in order and once

A move does one of three things to a bounded queue: nothing, append a buffer while there is room, or
take the oldest buffer out (`Queued`).  What is appended by a dispatch holds exactly the frame, however
dirty the block was, because the contents of a filled buffer are what it was filled with.

So what has been taken out of a queue, followed by what waits in it, is at any time what was
accepted (`Flow`).
-/

namespace Demux

variable {f : Format}

namespace Station.Deed

/-- What a deed adds to a queue: a delivered frame as a whole, or the contents of a buffer that was
sent and not refused. -/
def accepted (q : QueueRef) : Deed → List Bytes
  | .dispatched frame (some r) .delivered => if r.queue = q then [frame] else []
  | .sent queue b none => if queue = q then [b.contents] else []
  | _ => []

/-- The contents of what a deed takes out of a queue. -/
def popped (q : QueueRef) : Deed → List Bytes
  | .received queue (some b) => if queue = q then [b.contents] else []
  | _ => []

end Station.Deed

/-- What a move can do to a bounded queue, with what it adds and what it takes out. -/
inductive Queued (old : BoundedQueue) : (added taken : List Bytes) → BoundedQueue → Prop
  | idle : Queued old [] [] old
  | joined {b : Buffer} (hroom : old.size < old.capacity) :
      Queued old [b.contents] [] { old with waiting := old.waiting ++ [b] }
  | left {b : Buffer} {waiting : List Buffer} (hwaiting : old.waiting = b :: waiting) :
      Queued old [] [b.contents] { old with waiting }

namespace DataPlane

open Station (Deed)

variable {p : DataPlane} {q : QueueRef} {old : BoundedQueue}

theorem queued_of_send (h : p.queues[q]? = some (.bounded old)) (queue : QueueRef) (b : Buffer) :
    ∃ new, (p.send queue b).2.queues[q]? = some (.bounded new) ∧
      Queued old (Deed.accepted q (.sent queue b (p.send queue b).1)) [] new := by
  by_cases hqueue : queue = q
  · subst hqueue
    rcases send_cases h b with ⟨-, hsend⟩ | ⟨hroom, hsend, hafter⟩
    · rw [hsend]
      exact ⟨old, h, .idle⟩
    · refine ⟨_, hafter, ?_⟩
      simp only [hsend, Deed.accepted, if_true]
      exact .joined hroom
  · refine ⟨old, (send_elsewhere hqueue b p).trans h, ?_⟩
    cases (p.send queue b).1 with
    | none =>
        simp only [Deed.accepted, if_neg hqueue]
        exact .idle
    | some refused => exact .idle

theorem queued_of_receive (h : p.queues[q]? = some (.bounded old)) (queue : QueueRef) :
    ∃ new, (p.receive queue).2.queues[q]? = some (.bounded new) ∧
      Queued old [] (Deed.popped q (.received queue (p.receive queue).1)) new := by
  by_cases hqueue : queue = q
  · subst hqueue
    obtain ⟨hresult, hafter⟩ := receive_bounded h
    rw [hresult]
    refine ⟨_, hafter, ?_⟩
    cases hwaiting : old.waiting with
    | nil =>
        simp only [BoundedQueue.receive, hwaiting]
        exact .idle
    | cons b waiting =>
        simp only [BoundedQueue.receive, hwaiting, Deed.popped, if_true]
        exact .left hwaiting
  · refine ⟨old, (receive_elsewhere hqueue p).trans h, ?_⟩
    cases (p.receive queue).1 with
    | none => exact .idle
    | some b =>
        simp only [Deed.popped, if_neg hqueue]
        exact .idle

/-- A frame is appended to the queue of its route if it is delivered, and nothing else happens to
any queue. -/
theorem queued_of_offered {r : Route} {frame : Bytes} {reported : Nat} {verdict : Verdict}
    {w : DataPlane} (hoffered : Offered (collaborators none) r frame reported p verdict w)
    (h : p.queues[q]? = some (.bounded old)) :
    ∃ new, w.queues[q]? = some (.bounded new) ∧
      Queued old (Deed.accepted q (.dispatched frame (some r) verdict.outcome)) [] new := by
  cases hoffered with
  | truncated hdiscard hcut => exact ⟨old, h, .idle⟩
  | refused hwhole hacquire =>
      refine ⟨old, (queues_of_acquire hacquire).symm ▸ h, ?_⟩
      split <;> exact .idle
  | short hwhole hacquire hshort =>
      rw [← queues_of_acquire hacquire] at h
      exact ⟨old, (congrArg (·[q]?) (queues_release none r.pool _ _)).trans h, .idle⟩
  | @delivered b filled w₁ w₂ hwhole hacquire hfill hsend =>
      rw [← queues_of_acquire hacquire] at h
      obtain ⟨new, hnew, hqueued⟩ := queued_of_send h r.queue filled
      rw [show w₁.send r.queue filled = (none, w) from hsend] at hnew hqueued
      -- The contents of the buffer are the frame, whatever else its block holds.
      obtain ⟨-, hcontents, -⟩ := Buffer.fill_ok hfill
      refine ⟨new, hnew, ?_⟩
      rw [← hcontents]
      exact hqueued
  | @queueFull b filled refused w₁ w₂ hwhole hacquire hfill hsend =>
      rw [← queues_of_acquire hacquire] at h
      obtain ⟨new, hnew, hqueued⟩ := queued_of_send h r.queue filled
      rw [show w₁.send r.queue filled = (some refused, w₂) from hsend] at hnew hqueued
      exact ⟨new, (congrArg (·[q]?) (queues_release none r.pool refused w₂)).trans hnew, hqueued⟩

/-- Every move does one of the three things to a bounded queue. -/
theorem queued_of_moved {deed : Deed} {p' : DataPlane} (hmoved : Station.Moved p deed p')
    (h : p.queues[q]? = some (.bounded old)) :
    ∃ new, p'.queues[q]? = some (.bounded new) ∧
      Queued old (deed.accepted q) (deed.popped q) new := by
  cases hmoved with
  | idle => exact ⟨old, h, .idle⟩
  | reported event => exact ⟨old, h, .idle⟩
  | unmatched frame event => exact ⟨old, h, .idle⟩
  | offered hoffered event =>
      obtain ⟨new, hnew, hqueued⟩ := queued_of_offered hoffered h
      exact ⟨new, hnew, hqueued⟩
  | acquired view pool len =>
      exact ⟨old, (congrArg (·[q]?) (queues_acquire view pool len p)).trans h, .idle⟩
  | released view pool b =>
      exact ⟨old, (congrArg (·[q]?) (queues_release view pool b p)).trans h, .idle⟩
  | sent queue b =>
      obtain ⟨new, hnew, hqueued⟩ := queued_of_send h queue b
      exact ⟨new, hnew, hqueued⟩
  | received queue => exact queued_of_receive h queue

/-- A frame is refused only by a full queue, which stays as it is, and delivered only into a queue
with room. -/
theorem full_of_offered {r : Route} {frame : Bytes} {reported : Nat} {verdict : Verdict}
    {w : DataPlane} (hoffered : Offered (collaborators none) r frame reported p verdict w)
    (h : p.queues[r.queue]? = some (.bounded old)) :
    (verdict.outcome = .queueFull →
        old.capacity ≤ old.size ∧ w.queues[r.queue]? = some (.bounded old)) ∧
      (verdict.outcome = .delivered → old.size < old.capacity) := by
  cases hoffered with
  | truncated hdiscard hcut => exact ⟨Outcome.noConfusion, Outcome.noConfusion⟩
  | refused hwhole hacquire => split <;> exact ⟨Outcome.noConfusion, Outcome.noConfusion⟩
  | short hwhole hacquire hshort => exact ⟨Outcome.noConfusion, Outcome.noConfusion⟩
  | @delivered b filled w₁ w₂ hwhole hacquire hfill hsend =>
      rw [← queues_of_acquire hacquire] at h
      refine ⟨Outcome.noConfusion, fun _ => ?_⟩
      rcases send_cases h filled with ⟨-, hrefused⟩ | ⟨hroom, -, -⟩
      · cases hrefused.symm.trans hsend
      · exact hroom
  | @queueFull b filled refused w₁ w₂ hwhole hacquire hfill hsend =>
      rw [← queues_of_acquire hacquire] at h
      refine ⟨fun _ => ?_, Outcome.noConfusion⟩
      rcases send_cases h filled with ⟨hfull, hrefused⟩ | ⟨-, hnone, -⟩
      · cases hrefused.symm.trans hsend
        exact ⟨hfull, (congrArg (·[r.queue]?) (queues_release none r.pool filled _)).trans h⟩
      · cases hnone.symm.trans (congrArg Prod.fst hsend)

end DataPlane

/-- The invariant of a queue that was made for so many buffers: it is never overfull, and holds what
was accepted and not taken out yet. -/
structure Flow (capacity : Nat) (accepted popped : List Bytes) (queue : BoundedQueue) : Prop where
  limit : queue.capacity = max capacity 1
  bounded : queue.size ≤ max capacity 1
  order : popped ++ queue.waiting.map (·.contents) = accepted

theorem Flow.new (capacity : Nat) : Flow capacity [] [] (.new capacity) where
  limit := rfl
  bounded := Nat.zero_le _
  order := rfl

/-- The invariant is kept by whatever a move can do to the queue. -/
theorem Flow.queued {capacity : Nat} {accepted popped added taken : List Bytes}
    {old new : BoundedQueue} (h : Flow capacity accepted popped old)
    (hqueued : Queued old added taken new) :
    Flow capacity (accepted ++ added) (popped ++ taken) new := by
  cases hqueued with
  | idle => simpa only [List.append_nil] using h
  | @joined b hroom =>
      refine ⟨h.limit, ?_, ?_⟩
      · have hlimit := h.limit
        simp only [BoundedQueue.size, List.length_append, List.length_singleton] at hroom ⊢
        omega
      · simp only [← h.order, List.append_nil, List.map_append, List.map_cons, List.map_nil,
          List.append_assoc]
  | @left b waiting hwaiting =>
      have hbounded := h.bounded
      have horder := h.order
      simp only [BoundedQueue.size, hwaiting, List.length_cons] at hbounded
      simp only [hwaiting, List.map_cons] at horder
      refine ⟨h.limit, Nat.le_of_succ_le hbounded, ?_⟩
      rw [← horder, List.append_nil, List.append_assoc, List.singleton_append]

theorem Station.flow_play (st : Station f) {q : QueueRef} {capacity : Nat}
    (h : st.plane.queues[q]? = some (.bounded (.new capacity))) (moves : List (Move f)) :
    ∃ queue, (st.play moves).plane.queues[q]? = some (.bounded queue) ∧
      Flow capacity ((st.deeds moves).flatMap (·.accepted q))
        ((st.deeds moves).flatMap (·.popped q)) queue := by
  refine play_induction (motive := fun past p => ∃ queue, p.queues[q]? = some (.bounded queue) ∧
    Flow capacity (past.flatMap (·.accepted q)) (past.flatMap (·.popped q)) queue) st
    ⟨_, h, .new capacity⟩ ?_ moves
  rintro past p deed p' hmoved ⟨old, hold, hflow⟩
  obtain ⟨new, hnew, hqueued⟩ := DataPlane.queued_of_moved hmoved hold
  refine ⟨new, hnew, ?_⟩
  simpa only [List.flatMap_append, List.flatMap_singleton] using hflow.queued hqueued

namespace Session

open Station (Deed)

/-- **Queues deliver whole frames, in order and once.**  After any run of a session, what was taken
out of a queue, followed by what waits in it, is what was accepted for it, in order of acceptance:
every delivered frame as a whole, and the contents of every buffer that was sent to it.  The queue is
never overfull, and refuses a buffer exactly when it is full: then it stays as it is, and the same
buffer comes back. -/
theorem delivers_whole_frames_in_order (dispatcher : Dispatcher f) (pools : List Pool)
    (queues : List Queue) {q : QueueRef} {capacity : Nat}
    (hq : queues[q]? = some (.bounded (.new capacity))) (ops : List (Op f)) :
    let start : Session f := .new dispatcher pools queues
    let deeds := start.deeds ops
    let st := (start.run ops).2.station
    ∃ queue, st.plane.queues[q]? = some (.bounded queue) ∧
      deeds.flatMap (·.popped q) ++ queue.waiting.map (·.contents) =
        deeds.flatMap (·.accepted q) ∧
      queue.size ≤ max capacity 1 ∧
      (∀ b, if queue.size = max capacity 1 then st.send q b = (some b, st)
        else (st.send q b).1 = none) ∧
      ∀ frame reported slot e, st.lock.value.resolve frame = some (slot, e) → e.route.queue = q →
        ((st.handle frame reported).1 = .queueFull → queue.size = max capacity 1 ∧
          (st.handle frame reported).2.plane.queues[q]? = some (.bounded queue)) ∧
        ((st.handle frame reported).1 = .delivered → queue.size < max capacity 1) := by
  intro start deeds st
  obtain ⟨queue, hqueue, hflow⟩ := start.station.flow_play hq (start.allMoves ops)
  rw [← station_run] at hqueue
  have hlimit := hflow.limit
  have hbounded := hflow.bounded
  refine ⟨queue, hqueue, hflow.order, hbounded, ?_, ?_⟩
  · intro b
    rcases DataPlane.send_cases hqueue b with ⟨hfull, hsend⟩ | ⟨hroom, hsend, -⟩
    · rw [if_pos (by omega), Station.send, hsend]
    · rw [if_neg (by omega)]
      exact hsend
  · rintro frame reported slot e hresolve rfl
    obtain ⟨verdict, w, event, hoffered, houtcome, hplane⟩ :=
      Station.handle_resolved st hresolve reported
    obtain ⟨hfull, hroom⟩ := DataPlane.full_of_offered hoffered hqueue
    rw [houtcome, hplane]
    refine ⟨fun hrefused => ?_, fun hdelivered => hlimit ▸ hroom hdelivered⟩
    obtain ⟨hsize, hsame⟩ := hfull hrefused
    exact ⟨by omega, hsame⟩

/-- A block comes back with the bytes of a frame and is used for a shorter one; after that the queue
is full. -/
def recycling : List (Op (.integer .unsigned 1)) :=
  [.act (.addRoute (7 : BitVec 8) ⟨some 0, some 0, false⟩),
    .act (.handle [7, 1, 2] 3),
    .receive 0 (.release 0),
    .act (.handle [7] 1),
    .acquire 1 0 (some "own"),
    .send "own" 0]

theorem delivers_recycled_block_in_order :
    let start : Session (.integer .unsigned 1) :=
      .new (.new 1) [.fixed (.new 1 3), .fixed (.new 1 3)] [.bounded (.new 0)]
    let deeds := start.deeds recycling
    deeds.flatMap (·.popped 0) = [[7, 1, 2]] ∧ deeds.flatMap (·.accepted 0) = [[7, 1, 2], [7]] ∧
      ∃ queue, (start.run recycling).2.station.plane.queues[0]? = some (.bounded queue) ∧
        [[7, 1, 2]] ++ queue.waiting.map (·.contents) = [[7, 1, 2], [7]] := by
  intro start deeds
  have hpopped : deeds.flatMap (·.popped 0) = [[7, 1, 2]] := by decide +kernel
  have haccepted : deeds.flatMap (·.accepted 0) = [[7, 1, 2], [7]] := by decide +kernel
  have hnew : [Queue.bounded (.new 0)][0]? = some (.bounded (.new 0)) := rfl
  obtain ⟨queue, hqueue, horder, -⟩ := delivers_whole_frames_in_order (.new 1)
    [.fixed (.new 1 3), .fixed (.new 1 3)] [.bounded (.new 0)] hnew recycling
  refine ⟨hpopped, haccepted, queue, ?_, ?_⟩
  · -- The run is not to be evaluated here.
    generalize start.run recycling = ended at hqueue ⊢
    exact hqueue
  · rw [← hpopped, ← haccepted]
    exact horder

end Session

end Demux
