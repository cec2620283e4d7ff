import Demux.Buffer

/-!
# Block pools

A pool of equal blocks, allocated once and handed out in turn.  The free list is first in, first
out, and a block keeps its bytes while it is free.  The pool takes back only blocks of its own size
and never holds more of them than it was made with; anything else is discarded.

The free list has a place for every block, and one place also in a pool without blocks.  That place is
never taken: a pool that holds as many blocks as it was made with is full, whatever places there are
(`release_eq`).
-/

namespace Demux

/-- A pool of equal blocks. -/
structure BlockPool where
  /-- The number of blocks the pool was made with. -/
  blocks : Nat
  /-- The size of every block. -/
  blockSize : Nat
  /-- The free blocks, the next one to hand out first. -/
  free : List Bytes
  /-- How often no block was free; a machine word, so it starts again from zero past
  `2 ^ 64 - 1`. -/
  exhausted : UInt64 := 0
  deriving DecidableEq, Repr

/-- Why a released block was not kept. -/
inductive Discard
  /-- It is not of the size of the pool's blocks. -/
  | foreign (length blockSize : Nat)
  /-- As many blocks are free as the pool was made with. -/
  | surplus (capacity : Nat)
  deriving DecidableEq, Repr

namespace BlockPool

/-- The number of places in the free list, of which there is always one. -/
def places (p : BlockPool) : Nat := max p.blocks 1

/-- Put a block at the end of the free list, if there is a place for it. -/
def push? (p : BlockPool) (block : Bytes) : Option BlockPool :=
  if p.free.length < p.places then some { p with free := p.free ++ [block] } else none

/-- Put blocks at the end of the free list, one after another; those without a place are lost. -/
def pushAll (p : BlockPool) (blocks : List Bytes) : BlockPool :=
  blocks.foldl (fun p block => (p.push? block).getD p) p

/-- A pool of so many blocks of so many zero bytes, all free. -/
def new (blocks blockSize : Nat) : BlockPool :=
  pushAll { blocks, blockSize, free := [] } (List.replicate blocks (List.replicate blockSize 0))

/-- The number of free blocks. -/
def available (p : BlockPool) : Nat := p.free.length

/-- Take the next free block for `len` bytes.  A request longer than a block is refused as such even
when no block is free, and is not counted as exhaustion. -/
def acquire (p : BlockPool) (len : Nat) : Except PoolError Buffer × BlockPool :=
  if p.blockSize < len then (.error (.tooLarge len p.blockSize), p)
  else
    match p.free with
    | [] => (.error .exhausted, { p with exhausted := p.exhausted + 1 })
    | block :: free => (.ok (.ofBlock block), { p with free })

/-- Give a block back.  It goes to the end of the free list, or is discarded for the reason
given. -/
def release (p : BlockPool) (b : Buffer) : Option Discard × BlockPool :=
  if b.block.length ≠ p.blockSize then (some (.foreign b.block.length p.blockSize), p)
  else if p.blocks ≤ p.available then (some (.surplus p.blocks), p)
  else
    match p.push? b.block with
    | none => (some (.surplus p.blocks), p)
    | some p => (none, p)

/-- A block of the pool that is missing has a place. -/
theorem push?_of_lt {p : BlockPool} (h : p.free.length < p.blocks) (block : Bytes) :
    p.push? block = some { p with free := p.free ++ [block] } :=
  if_pos (Nat.lt_of_lt_of_le h (Nat.le_max_left _ _))

/-- As many blocks as are missing find their places. -/
theorem pushAll_eq {p : BlockPool} {blocks : List Bytes}
    (h : p.free.length + blocks.length ≤ p.blocks) :
    p.pushAll blocks = { p with free := p.free ++ blocks } := by
  induction blocks generalizing p with
  | nil => simp [pushAll]
  | cons block blocks ih =>
      have hplace : p.free.length < p.blocks := by
        rw [List.length_cons] at h
        omega
      have hrest : (p.free ++ [block]).length + blocks.length ≤ p.blocks := by
        simp only [List.length_append, List.length_cons, List.length_nil] at h ⊢
        omega
      have hpushed := ih (p := { p with free := p.free ++ [block] }) hrest
      rw [List.append_assoc, List.singleton_append] at hpushed
      rw [← hpushed, pushAll, List.foldl_cons, push?_of_lt hplace]
      rfl

/-- All blocks of a new pool find their places. -/
theorem new_eq (blocks blockSize : Nat) :
    new blocks blockSize =
      { blocks, blockSize, free := List.replicate blocks (List.replicate blockSize 0) } := by
  rw [new, pushAll_eq, List.nil_append]
  simp

/-- A block is kept exactly if it is one of the pool's size and one of its blocks is missing. -/
theorem release_eq (p : BlockPool) (b : Buffer) :
    p.release b =
      if b.block.length ≠ p.blockSize then (some (.foreign b.block.length p.blockSize), p)
      else if p.blocks ≤ p.available then (some (.surplus p.blocks), p)
      else (none, { p with free := p.free ++ [b.block] }) := by
  unfold release
  split
  · rfl
  · split
    · rfl
    · rename_i hroom
      rw [push?_of_lt (Nat.lt_of_not_le hroom)]

/-- A block of the right size goes to the end of the free list while there is room. -/
theorem release_kept {p : BlockPool} {b : Buffer} (hsize : b.capacity = p.blockSize)
    (hroom : p.available < p.blocks) :
    p.release b = (none, { p with free := p.free ++ [b.block] }) := by
  have hfits : ¬ b.block.length ≠ p.blockSize := fun hne => hne hsize
  rw [release_eq, if_neg hfits, if_neg (Nat.not_le.mpr hroom)]

/-- A block of another size, or one for which there is no room, changes nothing. -/
theorem release_discarded {p : BlockPool} {b : Buffer}
    (h : b.capacity ≠ p.blockSize ∨ p.blocks ≤ p.available) : (p.release b).2 = p := by
  rw [release_eq]
  by_cases hsize : b.block.length ≠ p.blockSize
  · rw [if_pos hsize]
  · rw [if_neg hsize, if_pos (h.resolve_left hsize)]

end BlockPool

end Demux
