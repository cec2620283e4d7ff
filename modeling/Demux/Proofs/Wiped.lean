import Mathlib
import Demux.Proofs.Likeness

/-!
# Without the bytes

What is left of buffers, pools and queues when every byte is wiped out: how long the blocks are, how
much of them is in use, and which ones are free or waiting.  Pools and queues do with wiped buffers
what they do with the buffers themselves (`DataPlane.acquire_wiped` and its siblings), so they are alike
up to their bytes (`upToBytes`).
-/

namespace Demux

/-- As many zero bytes. -/
def Bytes.wiped (bytes : Bytes) : Bytes := List.replicate bytes.length 0

@[simp] theorem Bytes.length_wiped (bytes : Bytes) : bytes.wiped.length = bytes.length :=
  List.length_replicate

namespace Buffer

/-- A buffer of the same size and with as many bytes in use, all zero. -/
def wiped (b : Buffer) : Buffer := ⟨b.block.wiped, b.len, by simpa using b.len_le⟩

/-- Two buffers are the same up to their bytes if they have one size and one length. -/
theorem wiped_eq_iff {x y : Buffer} :
    x.wiped = y.wiped ↔ x.block.length = y.block.length ∧ x.len = y.len := by
  constructor
  · intro h
    have hsize := congrArg (fun b => b.block.length) h
    have hlen := congrArg Buffer.len h
    simp only [wiped, Bytes.length_wiped] at hsize
    exact ⟨hsize, hlen⟩
  · intro h
    obtain ⟨hsize, hlen⟩ := h
    rcases x with ⟨block, len, hle⟩
    rcases y with ⟨block', len', hle'⟩
    obtain rfl : len = len' := hlen
    simp only [wiped, mk.injEq, and_true, Bytes.wiped]
    exact congrArg (List.replicate · 0) hsize

theorem wiped_clear {x y : Buffer} (h : x.wiped = y.wiped) : x.clear.wiped = y.clear.wiped :=
  wiped_eq_iff.mpr ⟨(wiped_eq_iff.mp h).1, rfl⟩

/-- Frames of one length fill buffers to the same effect, up to the bytes. -/
theorem fillAlike_wiped {frame frame' : Bytes} (h : frame.length = frame'.length) :
    frame.FillAlike wiped frame' where
  length := h
  fill := by
    intro x y hxy
    have hsize := (wiped_eq_iff.mp hxy).1
    unfold fill
    by_cases hfits : frame.length ≤ x.block.length
    · have hfits' : frame'.length ≤ y.block.length := h ▸ hsize ▸ hfits
      simp only [dif_pos hfits, dif_pos hfits', Except.map, Except.ok.injEq, wiped_eq_iff,
        Bytes.length_overlay]
      exact ⟨hsize, h⟩
    · have hfits' : ¬ frame'.length ≤ y.block.length := h ▸ hsize ▸ hfits
      simp only [dif_neg hfits', Except.map, h, hsize]

end Buffer

namespace BlockPool

/-- A pool of wiped blocks. -/
def wiped (p : BlockPool) : BlockPool := { p with free := p.free.map Bytes.wiped }

theorem acquire_wiped (p : BlockPool) (len : ℕ) :
    p.wiped.acquire len = ((p.acquire len).1.map Buffer.wiped, (p.acquire len).2.wiped) := by
  rcases p with ⟨blocks, blockSize, free, exhausted⟩
  unfold acquire wiped
  by_cases hlarge : blockSize < len
  · simp only [if_pos hlarge]
    rfl
  · simp only [if_neg hlarge]
    cases free <;> rfl

theorem release_wiped (p : BlockPool) (b : Buffer) :
    p.wiped.release b.wiped = ((p.release b).1, (p.release b).2.wiped) := by
  have hsize : b.wiped.block.length = b.block.length := Bytes.length_wiped _
  have hfree : p.wiped.available = p.available := List.length_map _
  have hblockSize : p.wiped.blockSize = p.blockSize := rfl
  have hblocks : p.wiped.blocks = p.blocks := rfl
  rw [release_eq, release_eq, hsize, hfree, hblockSize, hblocks]
  by_cases hforeign : b.block.length ≠ p.blockSize
  · rw [if_pos hforeign, if_pos hforeign]
  · rw [if_neg hforeign, if_neg hforeign]
    by_cases hfull : p.blocks ≤ p.available
    · rw [if_pos hfull, if_pos hfull]
    · rw [if_neg hfull, if_neg hfull]
      simp only [wiped, List.map_append, List.map_cons, List.map_nil]
      rfl

end BlockPool

namespace Pool

/-- A pool of wiped blocks. -/
def wiped : Pool → Pool
  | fixed pool => fixed pool.wiped
  | probing pool sightings => probing pool.wiped sightings
  | pool => pool

theorem acquire_wiped (view : Option Stats) (len : ℕ) (p : Pool) :
    p.wiped.acquire view len =
      ((p.acquire view len).1.map Buffer.wiped, (p.acquire view len).2.wiped) := by
  cases p with
  | fixed pool | probing pool _ => simp only [wiped, acquire, BlockPool.acquire_wiped]
  | empty blockSize => rfl
  | short stated actual =>
      have hzero : (Buffer.ofBlock (List.replicate actual 0)).wiped =
          .ofBlock (List.replicate actual 0) := by
        simp [Buffer.wiped, Buffer.ofBlock, Bytes.wiped]
      simp only [wiped, acquire, Except.map, hzero]
  | refusing requested blockSize => rfl

theorem release_wiped (view : Option Stats) (b : Buffer) (p : Pool) :
    p.wiped.release view b.wiped = ((p.release view b).1, (p.release view b).2.wiped) := by
  cases p with
  | fixed pool | probing pool _ => simp only [wiped, release, BlockPool.release_wiped]
  | _ => rfl

end Pool

namespace BoundedQueue

/-- A queue of wiped buffers. -/
def wiped (q : BoundedQueue) : BoundedQueue := { q with waiting := q.waiting.map Buffer.wiped }

theorem send_wiped (b : Buffer) (q : BoundedQueue) :
    q.wiped.send b.wiped = ((q.send b).1.map Buffer.wiped, (q.send b).2.wiped) := by
  have hsize : q.wiped.size = q.size := List.length_map _
  have hcapacity : q.wiped.capacity = q.capacity := rfl
  rw [send_eq, send_eq, hsize, hcapacity]
  by_cases hfull : q.capacity ≤ q.size
  · rw [if_pos hfull, if_pos hfull]
    rfl
  · rw [if_neg hfull, if_neg hfull]
    simp only [wiped, List.map_append]
    rfl

theorem receive_wiped (q : BoundedQueue) :
    q.wiped.receive = (q.receive.1.map Buffer.wiped, q.receive.2.wiped) := by
  rcases q with ⟨capacity, waiting⟩
  cases waiting <;> rfl

end BoundedQueue

namespace Queue

/-- A queue of wiped buffers. -/
def wiped : Queue → Queue
  | bounded q => bounded q.wiped
  | closed refusals => closed refusals

/-- The number of buffers in a queue. -/
def size : Queue → ℕ
  | bounded q => q.size
  | closed _ => 0

theorem send_wiped (b : Buffer) (q : Queue) :
    q.wiped.send b.wiped = ((q.send b).1.map Buffer.wiped, (q.send b).2.wiped) := by
  cases q with
  | bounded q => simp only [wiped, send, BoundedQueue.send_wiped]
  | closed refusals => rfl

theorem receive_wiped (q : Queue) :
    q.wiped.receive = (q.receive.1.map Buffer.wiped, q.receive.2.wiped) := by
  cases q with
  | bounded q => simp only [wiped, receive, BoundedQueue.receive_wiped]
  | closed refusals => rfl

end Queue

/-- A pool of wiped blocks at its place. -/
def PoolSlot.wiped (slot : PoolSlot) : PoolSlot := { slot with pool := slot.pool.wiped }

namespace DataPlane

/-- Pools of wiped blocks and queues of wiped buffers. -/
def wiped (p : DataPlane) : DataPlane :=
  { p with pools := p.pools.map PoolSlot.wiped, queues := p.queues.map Queue.wiped }

theorem acquire_wiped (view : Option Stats) (pool : PoolRef) (len : ℕ) (p : DataPlane) :
    p.wiped.acquire view pool len =
      ((p.acquire view pool len).1.map Buffer.wiped, (p.acquire view pool len).2.wiped) := by
  simp only [acquire, wiped, List.getElem?_map]
  cases p.pools[pool]? with
  | none => rfl
  | some slot => simp [PoolSlot.wiped, Pool.acquire_wiped, List.map_set]

theorem release_wiped (view : Option Stats) (pool : PoolRef) (b : Buffer) (p : DataPlane) :
    p.wiped.release view pool b.wiped = (p.release view pool b).wiped := by
  simp only [release, wiped, List.getElem?_map]
  cases p.pools[pool]? with
  | none => rfl
  | some slot =>
      simp only [Option.map_some, PoolSlot.wiped, Pool.release_wiped]
      cases (slot.pool.release view b).1 <;> simp [note, List.map_set, PoolSlot.wiped]

theorem send_wiped (queue : QueueRef) (b : Buffer) (p : DataPlane) :
    p.wiped.send queue b.wiped =
      ((p.send queue b).1.map Buffer.wiped, (p.send queue b).2.wiped) := by
  simp only [send, wiped, List.getElem?_map]
  cases p.queues[queue]? with
  | none => rfl
  | some q => simp [Queue.send_wiped, List.map_set]

theorem receive_wiped (queue : QueueRef) (p : DataPlane) :
    p.wiped.receive queue =
      ((p.receive queue).1.map Buffer.wiped, (p.receive queue).2.wiped) := by
  simp only [receive, wiped, List.getElem?_map]
  cases p.queues[queue]? with
  | none => rfl
  | some q => simp [Queue.receive_wiped, List.map_set]

/-- Pools and queues that are the same up to the bytes in their buffers. -/
def upToBytes : PlaneLikeness where
  look := Buffer.wiped
  planes p q := p.wiped = q.wiped
  clear := Buffer.wiped_clear
  fill data := Buffer.fillAlike_wiped rfl
  acquire := by
    intro p q h view pool len
    exact Prod.mk.inj ((acquire_wiped view pool len p).symm.trans (h ▸ acquire_wiped view pool len q))
  release := by
    intro p q x y h hxy view pool
    rw [← release_wiped, ← release_wiped, h, hxy]
  send := by
    intro p q x y h hxy queue
    have hx := send_wiped queue x p
    rw [h, hxy] at hx
    exact Prod.mk.inj (hx.symm.trans (send_wiped queue y q))
  receive := by
    intro p q h queue
    exact Prod.mk.inj ((receive_wiped queue p).symm.trans (h ▸ receive_wiped queue q))
  note := by
    intro p q h event
    exact congrArg (DataPlane.note · event) h

/-- The number of free blocks of every pool that keeps any. -/
def freeBlocks (p : DataPlane) : List (Option ℕ) :=
  p.pools.map fun slot => slot.pool.blockPool?.map (·.available)

/-- The number of buffers in every queue. -/
def queueSizes (p : DataPlane) : List ℕ := p.queues.map Queue.size

theorem freeBlocks_wiped (p : DataPlane) : p.wiped.freeBlocks = p.freeBlocks := by
  simp only [freeBlocks, wiped, List.map_map]
  apply List.map_congr_left
  intro slot hslot
  rcases slot with ⟨pool, releases⟩
  cases pool with
  | fixed pool | probing pool _ => exact congrArg some (List.length_map _)
  | _ => rfl

theorem queueSizes_wiped (p : DataPlane) : p.wiped.queueSizes = p.queueSizes := by
  simp only [queueSizes, wiped, List.map_map]
  apply List.map_congr_left
  intro q hq
  cases q with
  | bounded q => exact List.length_map _
  | closed refusals => rfl

end DataPlane

end Demux
