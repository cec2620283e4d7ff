import Mathlib
import Demux.Proofs.Lockstep
import Demux.Proofs.Planes

/-!
# Pools and queues that agree at some places

Two data planes may agree on some of their pools and queues and differ in the rest
(`DataPlane.AgreeOn`).  The same call at one of these places gets the same answer from both and keeps
them in agreement, and so does any call at another place that is made to one of them only.  So a route
among these places finds the same in both (`matched_of_mem`), and an offer to a route elsewhere is no
matter of theirs (`AgreeOn.offer_left`).
-/

namespace Demux

/-- Two lists have the same at some places. -/
def AgreeAt {α : Type} (places : List ℕ) (xs ys : List α) : Prop :=
  ∀ i ∈ places, xs[i]? = ys[i]?

section AgreeAt

variable {α : Type} {places : List ℕ} {xs ys : List α}

/-- The same change at the same place keeps lists in agreement. -/
theorem AgreeAt.modify (h : AgreeAt places xs ys) (i : ℕ) (g : α → α) :
    AgreeAt places (xs.modify i g) (ys.modify i g) := by
  intro j hj
  rw [List.getElem?_modify, List.getElem?_modify, h j hj]

/-- A change at another place keeps lists in agreement. -/
theorem AgreeAt.modify_left (h : AgreeAt places xs ys) {i : ℕ} (hi : i ∉ places) (g : α → α) :
    AgreeAt places (xs.modify i g) ys := by
  intro j hj
  have hne : i ≠ j := by
    intro heq
    exact hi (heq ▸ hj)
  rw [List.getElem?_modify_ne _ _ hne, h j hj]

end AgreeAt

namespace DataPlane

/-- Two data planes have the same at some pools and some queues. -/
structure AgreeOn (pools : List PoolRef) (queues : List QueueRef) (p q : DataPlane) : Prop where
  pools : AgreeAt pools p.pools q.pools
  queues : AgreeAt queues p.queues q.queues

section AgreeOn

variable {pools : List PoolRef} {queues : List QueueRef} {p q : DataPlane}

theorem AgreeOn.note_left (h : p.AgreeOn pools queues q) (e : Event) :
    (p.note e).AgreeOn pools queues q := ⟨h.pools, h.queues⟩

theorem AgreeOn.note (h : p.AgreeOn pools queues q) (e e' : Event) :
    (p.note e).AgreeOn pools queues (q.note e') := ⟨h.pools, h.queues⟩

section Pools

variable (h : p.AgreeOn pools queues q) (view : Option Stats) {pool : PoolRef} (len : ℕ)
  (b : Buffer)

include h

theorem AgreeOn.acquire (hpool : pool ∈ pools) :
    (p.acquire view pool len).1 = (q.acquire view pool len).1 ∧
      (p.acquire view pool len).2.AgreeOn pools queues (q.acquire view pool len).2 := by
  obtain ⟨hp, hp'⟩ := acquire_at view pool len p
  obtain ⟨hq, hq'⟩ := acquire_at view pool len q
  refine ⟨by rw [hp, hq, h.pools pool hpool], ?_, ?_⟩
  · rw [hp', hq']
    exact h.pools.modify pool _
  · rw [queues_acquire, queues_acquire]
    exact h.queues

theorem AgreeOn.acquire_left (hpool : pool ∉ pools) :
    (p.acquire view pool len).2.AgreeOn pools queues q := by
  obtain ⟨-, hp⟩ := acquire_at view pool len p
  refine ⟨?_, ?_⟩
  · rw [hp]
    exact h.pools.modify_left hpool _
  · rw [queues_acquire]
    exact h.queues

theorem AgreeOn.release (pool : PoolRef) :
    (p.release view pool b).AgreeOn pools queues (q.release view pool b) := by
  refine ⟨?_, ?_⟩
  · rw [release_at, release_at]
    exact h.pools.modify pool _
  · rw [queues_release, queues_release]
    exact h.queues

theorem AgreeOn.release_left (hpool : pool ∉ pools) :
    (p.release view pool b).AgreeOn pools queues q := by
  refine ⟨?_, ?_⟩
  · rw [release_at]
    exact h.pools.modify_left hpool _
  · rw [queues_release]
    exact h.queues

end Pools

section Queues

variable (h : p.AgreeOn pools queues q) {queue : QueueRef} (b : Buffer)

include h

theorem AgreeOn.send (hqueue : queue ∈ queues) :
    (p.send queue b).1 = (q.send queue b).1 ∧
      (p.send queue b).2.AgreeOn pools queues (q.send queue b).2 := by
  obtain ⟨hp, hp'⟩ := send_at queue b p
  obtain ⟨hq, hq'⟩ := send_at queue b q
  refine ⟨by rw [hp, hq, h.queues queue hqueue], ?_, ?_⟩
  · rw [pools_send, pools_send]
    exact h.pools
  · rw [hp', hq']
    exact h.queues.modify queue _

theorem AgreeOn.send_left (hqueue : queue ∉ queues) :
    (p.send queue b).2.AgreeOn pools queues q := by
  obtain ⟨-, hp⟩ := send_at queue b p
  refine ⟨?_, ?_⟩
  · rw [pools_send]
    exact h.pools
  · rw [hp]
    exact h.queues.modify_left hqueue _

theorem AgreeOn.receive (hqueue : queue ∈ queues) :
    (p.receive queue).1 = (q.receive queue).1 ∧
      (p.receive queue).2.AgreeOn pools queues (q.receive queue).2 := by
  obtain ⟨hp, hp'⟩ := receive_at queue p
  obtain ⟨hq, hq'⟩ := receive_at queue q
  refine ⟨by rw [hp, hq, h.queues queue hqueue], ?_, ?_⟩
  · rw [pools_receive, pools_receive]
    exact h.pools
  · rw [hp', hq']
    exact h.queues.modify queue _

theorem AgreeOn.receive_left (hqueue : queue ∉ queues) :
    (p.receive queue).2.AgreeOn pools queues q := by
  obtain ⟨-, hp⟩ := receive_at queue p
  refine ⟨?_, ?_⟩
  · rw [pools_receive]
    exact h.pools
  · rw [hp]
    exact h.queues.modify_left hqueue _

end Queues

end AgreeOn

/-- A route that draws from one of the pools and leads to one of the queues finds the same. -/
theorem matched_of_mem {pools : List PoolRef} {queues : List QueueRef} {r : Route}
    (hpool : r.pool ∈ pools) (hqueue : r.queue ∈ queues) (view : Option Stats) :
    r.Matched id (AgreeOn pools queues) (collaborators view) (collaborators view) where
  acquire h len := by
    obtain ⟨hresult, hafter⟩ := h.acquire view len hpool
    exact ⟨congrArg (Except.map id) hresult, hafter⟩
  release h hxy := by
    obtain rfl : _ = _ := hxy
    exact h.release view _ r.pool
  send h hxy := by
    obtain rfl : _ = _ := hxy
    obtain ⟨hrefused, hafter⟩ := h.send _ hqueue
    exact ⟨congrArg (Option.map id) hrefused, hafter⟩

/-- An offer to a route that draws from none of the pools and leads to none of the queues is no matter
of theirs. -/
theorem AgreeOn.offer_left {pools : List PoolRef} {queues : List QueueRef} {p q : DataPlane}
    (h : p.AgreeOn pools queues q) {r : Route} (hpool : r.pool ∉ pools) (hqueue : r.queue ∉ queues)
    (view : Option Stats) (frame : Bytes) (reported : ℕ) :
    (r.offer (collaborators view) frame reported p).2.AgreeOn pools queues q := by
  have hoffered := Route.offered (collaborators view) r frame reported p
  apply hoffered.keeps (motive := fun w => w.AgreeOn pools queues q) ?_ ?_ ?_ h
  · intro len w hw
    exact hw.acquire_left view len hpool
  · intro b w hw
    exact hw.release_left view b hpool
  · intro b w hw
    exact hw.send_left b hqueue

end DataPlane

end Demux
