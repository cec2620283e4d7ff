import Mathlib
import Demux.DataPlane

/-!
# One call on a data plane

A call on a queue leaves the pools and the other queues alone, and a call on a pool leaves the queues
and the other pools alone.  What a call does at its own place is what stands there does by itself
(`acquire_at`, `release_at`, `send_at`, `receive_at`), and a block that a pool does not keep is
reported (`discards`).
-/

namespace Demux

theorem BoundedQueue.send_eq (q : BoundedQueue) (b : Buffer) :
    q.send b = if q.capacity ≤ q.size then (some b, q)
      else (none, { q with waiting := q.waiting ++ [b] }) := by
  simp only [send, isFull, decide_eq_true_eq]

/-- Whether a pool reports that it does not keep a block. -/
def Event.isDiscard : Event → Bool
  | .pool _ => true
  | _ => false

/-- Writing over what stands at a place is changing it. -/
theorem modify_eq_set_of_some {α : Type} {xs : List α} {i : ℕ} {x : α}
    (h : xs[i]? = some x) (g : α → α) : xs.modify i g = xs.set i (g x) := by
  rw [List.modify_eq_set_getElem?, h]
  rfl

theorem modify_eq_self_of_none {α : Type} {xs : List α} {i : ℕ} (h : xs[i]? = none)
    (g : α → α) : xs.modify i g = xs := by
  rw [List.modify_eq_set_getElem?, h]
  rfl

namespace Pool

/-- A pool sees no more of a snapshot than whether there is one. -/
theorem acquire_view {view view' : Option Stats} (h : view.isSome = view'.isSome) (len : ℕ)
    (pool : Pool) : pool.acquire view len = pool.acquire view' len := by
  cases pool <;> simp only [acquire, h]

theorem release_view {view view' : Option Stats} (h : view.isSome = view'.isSome) (b : Buffer)
    (pool : Pool) : pool.release view b = pool.release view' b := by
  cases pool <;> simp only [release, h]

end Pool

namespace DataPlane

theorem acquire_view {view view' : Option Stats} (h : view.isSome = view'.isSome)
    (pool : PoolRef) (len : ℕ) (p : DataPlane) :
    p.acquire view pool len = p.acquire view' pool len := by
  simp only [acquire, Pool.acquire_view h]

theorem release_view {view view' : Option Stats} (h : view.isSome = view'.isSome)
    (pool : PoolRef) (b : Buffer) (p : DataPlane) :
    p.release view pool b = p.release view' pool b := by
  simp only [release, Pool.release_view h]

section Places

variable (view : Option Stats) (pool : PoolRef) (queue : QueueRef) (b : Buffer) (len : ℕ)
  (p : DataPlane)

/-- The answer of a pool, and what becomes of the pools. -/
theorem acquire_at :
    (p.acquire view pool len).1 =
        (p.pools[pool]?).elim (.error .exhausted) (fun slot => (slot.pool.acquire view len).1) ∧
      (p.acquire view pool len).2.pools =
        p.pools.modify pool fun slot => { slot with pool := (slot.pool.acquire view len).2 } := by
  unfold acquire
  cases hslot : p.pools[pool]? with
  | none => exact ⟨rfl, (modify_eq_self_of_none hslot _).symm⟩
  | some slot =>
      rw [modify_eq_set_of_some hslot]
      exact ⟨rfl, rfl⟩

theorem release_at :
    (p.release view pool b).pools =
      p.pools.modify pool fun slot => ⟨(slot.pool.release view b).2, slot.releases + 1⟩ := by
  unfold release
  cases hslot : p.pools[pool]? with
  | none => exact (modify_eq_self_of_none hslot _).symm
  | some slot =>
      rw [modify_eq_set_of_some hslot]
      cases hdiscard : (slot.pool.release view b).1 with
      | none => simp only [hdiscard]
      | some discard =>
          simp only [hdiscard]
          rfl

/-- The answer of a queue, and what becomes of the queues. -/
theorem send_at :
    (p.send queue b).1 = (p.queues[queue]?).elim (some b) (fun q => (q.send b).1) ∧
      (p.send queue b).2.queues = p.queues.modify queue fun q => (q.send b).2 := by
  unfold send
  cases hqueue : p.queues[queue]? with
  | none => exact ⟨rfl, (modify_eq_self_of_none hqueue _).symm⟩
  | some q =>
      rw [modify_eq_set_of_some hqueue]
      exact ⟨rfl, rfl⟩

theorem receive_at :
    (p.receive queue).1 = (p.queues[queue]?).elim none (fun q => q.receive.1) ∧
      (p.receive queue).2.queues = p.queues.modify queue fun q => q.receive.2 := by
  unfold receive
  cases hqueue : p.queues[queue]? with
  | none => exact ⟨rfl, (modify_eq_self_of_none hqueue _).symm⟩
  | some q =>
      rw [modify_eq_set_of_some hqueue]
      exact ⟨rfl, rfl⟩

end Places

@[simp] theorem pools_note (p : DataPlane) (e : Event) : (p.note e).pools = p.pools := rfl

@[simp] theorem queues_acquire (view : Option Stats) (pool : PoolRef) (len : Nat)
    (p : DataPlane) : (p.acquire view pool len).2.queues = p.queues := by
  unfold acquire
  split <;> rfl

@[simp] theorem queues_release (view : Option Stats) (pool : PoolRef) (b : Buffer)
    (p : DataPlane) : (p.release view pool b).queues = p.queues := by
  unfold release
  split
  · rfl
  · dsimp only
    split <;> rfl

@[simp] theorem pools_send (queue : QueueRef) (b : Buffer) (p : DataPlane) :
    (p.send queue b).2.pools = p.pools := by
  unfold send
  split <;> rfl

@[simp] theorem pools_receive (queue : QueueRef) (p : DataPlane) :
    (p.receive queue).2.pools = p.pools := by
  unfold receive
  split <;> rfl

/-- A queue hands back the buffer that it was given. -/
theorem send_refused {p p' : DataPlane} {queue : QueueRef} {b refused : Buffer}
    (h : p.send queue b = (some refused, p')) : refused = b := by
  unfold send at h
  split at h
  · cases h
    rfl
  · rename_i q hq
    cases q with
    | bounded q =>
        simp only [Queue.send, BoundedQueue.send_eq] at h
        split at h
        · cases h
          rfl
        · cases h
    | closed refusals =>
        cases h
        rfl

theorem send_elsewhere {queue q : QueueRef} (hne : queue ≠ q) (b : Buffer) (p : DataPlane) :
    (p.send queue b).2.queues[q]? = p.queues[q]? := by
  unfold send
  split
  · rfl
  · exact List.getElem?_set_ne hne

theorem receive_elsewhere {queue q : QueueRef} (hne : queue ≠ q) (p : DataPlane) :
    (p.receive queue).2.queues[q]? = p.queues[q]? := by
  unfold receive
  split
  · rfl
  · exact List.getElem?_set_ne hne

/-- The pool of blocks at a place, if there is one. -/
def blockPool? (p : DataPlane) (pool : PoolRef) : Option BlockPool :=
  p.pools[pool]?.bind (·.pool.blockPool?)

/-- How many released blocks were not kept. -/
def discards (p : DataPlane) : Nat := p.journal.countP (·.isDiscard)

@[simp] theorem discards_note (p : DataPlane) (e : Event) :
    (p.note e).discards = p.discards + (if e.isDiscard then 1 else 0) :=
  List.countP_cons

@[simp] theorem discards_acquire (view : Option Stats) (pool : PoolRef) (len : Nat)
    (p : DataPlane) : (p.acquire view pool len).2.discards = p.discards := by
  unfold acquire
  split <;> rfl

@[simp] theorem discards_send (queue : QueueRef) (b : Buffer) (p : DataPlane) :
    (p.send queue b).2.discards = p.discards := by
  unfold send
  split <;> rfl

theorem acquire_elsewhere {pool q : PoolRef} (hne : pool ≠ q) (view : Option Stats) (len : Nat)
    (p : DataPlane) : (p.acquire view pool len).2.blockPool? q = p.blockPool? q := by
  unfold acquire
  split
  · rfl
  · simp only [blockPool?, List.getElem?_set_ne hne]

theorem release_elsewhere {pool q : PoolRef} (hne : pool ≠ q) (view : Option Stats) (b : Buffer)
    (p : DataPlane) : (p.release view pool b).blockPool? q = p.blockPool? q := by
  unfold release
  split
  · rfl
  · dsimp only
    split <;> simp only [blockPool?, pools_note, List.getElem?_set_ne hne]

section Outcomes

variable {p w : DataPlane}

theorem queues_of_acquire {view : Option Stats} {pool : PoolRef} {len : Nat}
    {result : Except PoolError Buffer} (h : p.acquire view pool len = (result, w)) :
    w.queues = p.queues := by
  have hsame := queues_acquire view pool len p
  rwa [h] at hsame

theorem discards_of_acquire {view : Option Stats} {pool : PoolRef} {len : Nat}
    {result : Except PoolError Buffer} (h : p.acquire view pool len = (result, w)) :
    w.discards = p.discards := by
  have hsame := discards_acquire view pool len p
  rwa [h] at hsame

theorem pools_of_send {queue : QueueRef} {b : Buffer} {result : Option Buffer}
    (h : p.send queue b = (result, w)) : w.pools = p.pools := by
  have hsame := pools_send queue b p
  rwa [h] at hsame

theorem discards_of_send {queue : QueueRef} {b : Buffer} {result : Option Buffer}
    (h : p.send queue b = (result, w)) : w.discards = p.discards := by
  have hsame := discards_send queue b p
  rwa [h] at hsame

end Outcomes

section Bounded

variable {p : DataPlane} {q : QueueRef} {old : BoundedQueue}

theorem send_of_full (h : p.queues[q]? = some (.bounded old)) (hfull : old.capacity ≤ old.size)
    (b : Buffer) : p.send q b = (some b, p) := by
  have hsame : p.queues.set q (.bounded old) = p.queues := by
    obtain ⟨hlt, hget⟩ := List.getElem?_eq_some_iff.mp h
    rw [← hget, List.set_getElem_self]
  simp only [send, h, Queue.send, BoundedQueue.send_eq, if_pos hfull, hsame]

theorem send_of_room (h : p.queues[q]? = some (.bounded old)) (hroom : old.size < old.capacity)
    (b : Buffer) :
    (p.send q b).1 = none ∧
      (p.send q b).2.queues[q]? = some (.bounded { old with waiting := old.waiting ++ [b] }) := by
  obtain ⟨hlt, -⟩ := List.getElem?_eq_some_iff.mp h
  simp only [send, h, Queue.send, BoundedQueue.send_eq, if_neg (Nat.not_le.mpr hroom)]
  exact ⟨trivial, List.getElem?_set_self hlt⟩

/-- A send to a bounded queue appends the buffer or does nothing at all. -/
theorem send_cases (h : p.queues[q]? = some (.bounded old)) (b : Buffer) :
    old.capacity ≤ old.size ∧ p.send q b = (some b, p) ∨
      old.size < old.capacity ∧ (p.send q b).1 = none ∧
        (p.send q b).2.queues[q]? = some (.bounded { old with waiting := old.waiting ++ [b] }) := by
  by_cases hfull : old.capacity ≤ old.size
  · exact Or.inl ⟨hfull, send_of_full h hfull b⟩
  · have hroom := Nat.lt_of_not_le hfull
    exact Or.inr ⟨hroom, send_of_room h hroom b⟩

theorem receive_bounded (h : p.queues[q]? = some (.bounded old)) :
    (p.receive q).1 = old.receive.1 ∧
      (p.receive q).2.queues[q]? = some (.bounded old.receive.2) := by
  obtain ⟨hlt, -⟩ := List.getElem?_eq_some_iff.mp h
  simp only [receive, h, Queue.receive]
  exact ⟨trivial, List.getElem?_set_self hlt⟩

end Bounded

section Blocks

variable {p : DataPlane} {pool : PoolRef} {old : BlockPool}

theorem acquire_blocks (h : p.blockPool? pool = some old) {view : Option Stats} {len : Nat}
    {result : Except PoolError Buffer} {w : DataPlane}
    (hacquire : p.acquire view pool len = (result, w)) :
    ∃ new, old.acquire len = (result, new) ∧ w.blockPool? pool = some new := by
  obtain ⟨slot, hslot, hkind⟩ := Option.bind_eq_some_iff.mp h
  obtain ⟨hlt, -⟩ := List.getElem?_eq_some_iff.mp hslot
  rcases slot with ⟨kind, releases⟩
  cases kind with
  | fixed blocks | probing blocks _ =>
      cases hkind
      simp only [acquire, hslot, Pool.acquire] at hacquire
      cases hacquire
      refine ⟨_, rfl, ?_⟩
      simp only [blockPool?, List.getElem?_set_self hlt]
      rfl
  | _ => contradiction

/-- A released block is kept or reported as discarded. -/
theorem release_blocks (h : p.blockPool? pool = some old) (view : Option Stats) (b : Buffer) :
    (p.release view pool b).blockPool? pool = some (old.release b).2 ∧
      (p.release view pool b).discards =
        p.discards + (if (old.release b).1.isSome then 1 else 0) := by
  obtain ⟨slot, hslot, hkind⟩ := Option.bind_eq_some_iff.mp h
  obtain ⟨hlt, -⟩ := List.getElem?_eq_some_iff.mp hslot
  rcases slot with ⟨kind, releases⟩
  cases kind with
  | fixed blocks | probing blocks _ =>
      cases hkind
      simp only [release, hslot, Pool.release]
      rcases old.release b with ⟨_ | discard, next⟩
      · simp only [blockPool?, List.getElem?_set_self hlt]
        exact ⟨rfl, rfl⟩
      · simp only [blockPool?, pools_note, List.getElem?_set_self hlt, discards_note]
        exact ⟨rfl, rfl⟩
  | _ => contradiction

end Blocks

end DataPlane

end Demux
