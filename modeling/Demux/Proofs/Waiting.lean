import Mathlib
import Demux.Proofs.Stocks

/-!
# What waits in queues

The buffers that wait in the queues are lists, one for each reference (`DataPlane.waiting`), whatever kind
of queue it is.  A buffer that is sent goes to the end of a list or comes back as it is
(`DataPlane.waiting_send`), and one that is received comes from the front (`DataPlane.waiting_receive`).
A dispatch appends at most one buffer to one list, a new one that was made of a block of the pool and
filled with the frame (`Station.waiting_handle`), and nothing else that is done at a station changes what
waits (`Station.waiting_move`).
-/

namespace Demux

variable {f : Format}

/-- The buffers in a queue, the oldest first. -/
def Queue.waiting : Queue → List Buffer
  | bounded queue => queue.waiting
  | closed _ => []

namespace Queue

/-- A queue takes a buffer behind the others, or hands the same buffer back and stays as it is. -/
theorem send_cases (q : Queue) (b : Buffer) :
    (q.send b).1 = none ∧ (q.send b).2.waiting = q.waiting ++ [b] ∨
      (q.send b).1 = some b ∧ (q.send b).2.waiting = q.waiting := by
  cases q with
  | bounded old =>
      simp only [send, BoundedQueue.send_eq]
      by_cases hfull : old.capacity ≤ old.size
      · rw [if_pos hfull]
        exact .inr ⟨rfl, rfl⟩
      · rw [if_neg hfull]
        exact .inl ⟨rfl, rfl⟩
  | closed refusals => exact .inr ⟨rfl, rfl⟩

/-- The oldest buffer is taken out of a queue. -/
theorem receive_eq (q : Queue) :
    q.receive.1 = q.waiting.head? ∧ q.receive.2.waiting = q.waiting.tail := by
  cases q with
  | bounded old =>
      rcases old with ⟨capacity, waiting⟩
      cases waiting <;> exact ⟨rfl, rfl⟩
  | closed refusals => exact ⟨rfl, rfl⟩

end Queue

namespace DataPlane

/-- The buffers in a queue, the oldest first. -/
def waiting (p : DataPlane) (queue : QueueRef) : List Buffer :=
  p.queues[queue]?.elim [] Queue.waiting

theorem waiting_congr {p w : DataPlane} (h : w.queues = p.queues) : w.waiting = p.waiting := by
  unfold waiting
  rw [h]

/-- A queue is replaced by another. -/
theorem waiting_set {p w : DataPlane} {queue : QueueRef} {old new : Queue}
    (hold : p.queues[queue]? = some old) (hset : w.queues = p.queues.set queue new) :
    w.waiting = Function.update p.waiting queue new.waiting := by
  obtain ⟨hlt, -⟩ := List.getElem?_eq_some_iff.mp hold
  funext other
  unfold waiting
  rw [hset]
  by_cases hother : other = queue
  · rw [hother, List.getElem?_set_self hlt, Function.update_self]
    rfl
  · rw [List.getElem?_set_ne (Ne.symm hother), Function.update_of_ne hother]

/-- What waits behind a reference is what waits in the queue. -/
theorem waiting_of_some {p : DataPlane} {queue : QueueRef} {q : Queue}
    (h : p.queues[queue]? = some q) : p.waiting queue = q.waiting := by
  rw [waiting, h]
  rfl

theorem waiting_of_none {p : DataPlane} {queue : QueueRef} (h : p.queues[queue]? = none) :
    p.waiting queue = [] := by
  rw [waiting, h]
  rfl

/-- A buffer that is sent goes behind the others, or comes back as it is. -/
theorem waiting_send (queue : QueueRef) (b : Buffer) (p : DataPlane) :
    (p.send queue b).1 = none ∧ (p.send queue b).2.waiting =
        Function.update p.waiting queue (p.waiting queue ++ [b]) ∨
      (p.send queue b).1 = some b ∧ (p.send queue b).2.waiting = p.waiting := by
  cases hqueue : p.queues[queue]? with
  | none => refine .inr ⟨?_, ?_⟩ <;> simp only [send, hqueue]
  | some q =>
      have hset : (p.send queue b).2.queues = p.queues.set queue (q.send b).2 := by
        simp only [send, hqueue]
      have hresult : (p.send queue b).1 = (q.send b).1 := by simp only [send, hqueue]
      rw [hresult, waiting_set hqueue hset, waiting_of_some hqueue]
      rcases q.send_cases b with ⟨htaken, hafter⟩ | ⟨hrefused, hafter⟩
      · rw [hafter]
        exact .inl ⟨htaken, rfl⟩
      · rw [hafter, ← waiting_of_some hqueue, Function.update_eq_self]
        exact .inr ⟨hrefused, rfl⟩

/-- A buffer that is received comes from the front. -/
theorem waiting_receive (queue : QueueRef) (p : DataPlane) :
    (p.receive queue).1 = (p.waiting queue).head? ∧
      (p.receive queue).2.waiting =
        Function.update p.waiting queue (p.waiting queue).tail := by
  cases hqueue : p.queues[queue]? with
  | none =>
      have hnone := waiting_of_none hqueue
      have htail : (p.waiting queue).tail = p.waiting queue := by rw [hnone, List.tail_nil]
      rw [htail, Function.update_eq_self, hnone]
      refine ⟨?_, ?_⟩ <;> simp only [receive, hqueue, List.head?_nil]
  | some q =>
      have hset : (p.receive queue).2.queues = p.queues.set queue q.receive.2 := by
        simp only [receive, hqueue]
      have hresult : (p.receive queue).1 = q.receive.1 := by simp only [receive, hqueue]
      obtain ⟨hfirst, hrest⟩ := q.receive_eq
      rw [hresult, waiting_set hqueue hset, waiting_of_some hqueue, hfirst, hrest]
      exact ⟨rfl, rfl⟩

/-- A pool hands out buffers with nothing in use. -/
theorem ofBlock_of_acquire {view : Option Stats} {pool : PoolRef} {len : ℕ} {b : Buffer}
    {p w : DataPlane} (h : p.acquire view pool len = (.ok b, w)) : b = .ofBlock b.block := by
  unfold acquire at h
  split at h
  · cases h
  · rename_i slot _
    rcases slot with ⟨kind, releases⟩
    cases kind with
    | fixed blocks | probing blocks _ =>
        have hresult : (blocks.acquire len).1 = .ok b := congrArg Prod.fst h
        have hacquired := blocks.acquired len
        rw [hresult] at hacquired
        generalize (blocks.acquire len).2 = after at hacquired
        cases hacquired
        rfl
    | short stated actual =>
        cases h
        rfl
    | empty blockSize => cases h
    | refusing requested blockSize => cases h

/-- An offer puts one buffer into the queue of the route if it delivers the frame, made of the block that
the pool hands out and filled with the frame, and otherwise leaves the queues as they are. -/
theorem waiting_offered {r : Route} {frame : Bytes} {reported : ℕ} {verdict : Verdict}
    {p w : DataPlane} (hoffered : Offered (collaborators none) r frame reported p verdict w) :
    (verdict.outcome = .delivered ∧ ∃ b filled, (p.acquire none r.pool frame.length).1 = .ok b ∧
        b = .ofBlock b.block ∧ b.fill frame = .ok filled ∧
        w.waiting = Function.update p.waiting r.queue (p.waiting r.queue ++ [filled])) ∨
      verdict.outcome ≠ .delivered ∧ w.waiting = p.waiting := by
  cases hoffered with
  | truncated hdiscard hcut => exact .inr ⟨Outcome.noConfusion, rfl⟩
  | refused hwhole hacquire =>
      refine .inr ⟨?_, waiting_congr (queues_of_acquire hacquire)⟩
      split <;> exact Outcome.noConfusion
  | @short b w₁ hwhole hacquire hshort =>
      refine .inr ⟨Outcome.noConfusion, waiting_congr ?_⟩
      exact (queues_release none r.pool b w₁).trans (queues_of_acquire hacquire)
  | @delivered b filled w₁ w₂ hwhole hacquire hfill hsend =>
      change p.acquire none r.pool frame.length = (.ok b, w₁) at hacquire
      change w₁.send r.queue filled = (none, w) at hsend
      refine .inl ⟨rfl, b, filled, congrArg Prod.fst hacquire, ofBlock_of_acquire hacquire, hfill, ?_⟩
      have hwaiting : w₁.waiting = p.waiting := waiting_congr (queues_of_acquire hacquire)
      rcases waiting_send r.queue filled w₁ with ⟨-, hafter⟩ | ⟨hrefused, -⟩
      · rwa [hsend, hwaiting] at hafter
      · rw [hsend] at hrefused
        cases hrefused
  | @queueFull b filled refused w₁ w₂ hwhole hacquire hfill hsend =>
      change w₁.send r.queue filled = (some refused, w₂) at hsend
      refine .inr ⟨Outcome.noConfusion, ?_⟩
      have hwaiting : w₁.waiting = p.waiting := waiting_congr (queues_of_acquire hacquire)
      have hreleased : (w₂.release none r.pool refused).waiting = w₂.waiting :=
        waiting_congr (queues_release none r.pool refused w₂)
      rcases waiting_send r.queue filled w₁ with ⟨htaken, -⟩ | ⟨-, hafter⟩
      · rw [hsend] at htaken
        cases htaken
      · rw [hsend] at hafter
        exact hreleased.trans (hafter.trans hwaiting)

end DataPlane

namespace Station

/-- The queue that a frame is delivered to, if it is, and the block that the pool hands out for it. -/
def delivery? (st : Station f) (frame : Bytes) (reported : ℕ) : Option (QueueRef × Bytes) :=
  if (st.handle frame reported).1 = .delivered then do
    let (_, endpoint) ← st.lock.value.resolve frame
    let b ← (st.plane.acquire none endpoint.route.pool frame.length).1.toOption
    some (endpoint.route.queue, b.block)
  else none

/-- What happens to the queues when a frame is dealt with: one buffer is put into one of them if the frame
is delivered, made of the block that the pool hands out and filled with the frame. -/
theorem waiting_handle (st : Station f) (frame : Bytes) (reported : ℕ) :
    (∃ queue block filled, st.delivery? frame reported = some (queue, block) ∧
        (Buffer.ofBlock block).fill frame = .ok filled ∧
        (st.handle frame reported).2.plane.waiting =
          Function.update st.plane.waiting queue (st.plane.waiting queue ++ [filled])) ∨
      st.delivery? frame reported = none ∧
        (st.handle frame reported).2.plane.waiting = st.plane.waiting := by
  rcases hresolve : st.lock.value.resolve frame with _ | ⟨slot, e⟩
  · obtain ⟨-, hplane⟩ := st.report_unresolved hresolve reported
    refine .inr ⟨?_, ?_⟩
    · simp only [delivery?, hresolve]
      split <;> rfl
    · rw [hplane]
      rfl
  · obtain ⟨verdict, w, event, hoffered, houtcome, hplane⟩ := st.handle_resolved hresolve reported
    have hnoted : (st.handle frame reported).2.plane.waiting = w.waiting := by
      rw [hplane]
      rfl
    rcases DataPlane.waiting_offered hoffered with
      ⟨hdelivered, b, filled, hacquire, hnew, hfill, hafter⟩ | ⟨hlost, hafter⟩
    · refine .inl ⟨e.route.queue, b.block, filled, ?_, hnew ▸ hfill, hnoted.trans hafter⟩
      simp only [delivery?, houtcome, hdelivered, if_true, hresolve, Option.bind_eq_bind,
        Option.bind_some, hacquire, Except.toOption]
    · refine .inr ⟨?_, hnoted.trans hafter⟩
      rw [delivery?, houtcome, if_neg hlost]

/-- Whether a move hands a buffer to a queue or takes one out of it. -/
def Move.isExchange : Move f → Bool
  | .send _ _ | .receive _ => true
  | _ => false

/-- Queues change only if a frame is dealt with or a buffer goes in or out. -/
theorem waiting_move (st : Station f) {m : Move f} (hexchange : m.isExchange = false)
    (hframe : ∀ frame reported, m ≠ .act (.handle frame reported)) :
    (st.move m).plane.waiting = st.plane.waiting := by
  cases m with
  | act action =>
      rcases hperform : st.lock.value.perform (DataPlane.collaborators none) action st.plane
        with ⟨result, d, w⟩
      have hw : w = st.plane := by
        have hother (frame : Bytes) (reported : ℕ) : action ≠ .handle frame reported :=
          fun h => hframe frame reported (congrArg _ h)
        have hworld := st.lock.value.world_perform (DataPlane.collaborators none) hother st.plane
        rwa [hperform] at hworld
      rw [move, perform_eq hperform, hw]
      cases result <;> rfl
  | ask => rfl
  | acquire pool len => exact DataPlane.waiting_congr (DataPlane.queues_acquire st.view pool len st.plane)
  | release pool b => exact DataPlane.waiting_congr (DataPlane.queues_release st.view pool b st.plane)
  | send queue b => cases hexchange
  | receive queue => cases hexchange
  | note event => rfl

end Station

end Demux
