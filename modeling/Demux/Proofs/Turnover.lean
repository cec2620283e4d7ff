import Mathlib
import Demux.Proofs.Stocks

/-!
# Pools of blocks hand out in turn what they were given

A pool of blocks may be used by anybody: by those who ask for more than a block holds or when none is
free, and by those who release buffers that never came from it.  Its blocks that have been handed out,
followed by those that are free, are at any time the ones it was made with, followed by the ones it has
taken back (`Booked`).  It takes back a block of its own size while one is missing, and nothing else, so
a pool that was made without blocks stays without.
-/

namespace Demux

namespace BlockPool

/-- One thing that somebody does with a pool. -/
inductive Use
  /-- Ask for a buffer for so many bytes. -/
  | acquire (len : ℕ)
  /-- Give a buffer to the pool, whether it came from there or not. -/
  | release (b : Buffer)
  deriving DecidableEq, Repr

/-- What came of it. -/
inductive Deed
  | acquired (len : ℕ) (result : Except PoolError Buffer)
  | released (b : Buffer) (discard : Option Discard)

namespace Deed

/-- The block that is handed out. -/
def handedOut : Deed → List Bytes
  | acquired _ (.ok b) => [b.block]
  | _ => []

/-- The block that is taken back, with the bytes that it had by then. -/
def takenBack : Deed → List Bytes
  | released b none => [b.block]
  | _ => []

/-- Whether a request found no block free. -/
def isExhausted : Deed → Bool
  | acquired _ (.error .exhausted) => true
  | _ => false

end Deed

def use (bp : BlockPool) : Use → BlockPool
  | .acquire len => (bp.acquire len).2
  | .release b => (bp.release b).2

def deed (bp : BlockPool) : Use → Deed
  | .acquire len => .acquired len (bp.acquire len).1
  | .release b => .released b (bp.release b).1

def run (bp : BlockPool) (uses : List Use) : BlockPool := uses.foldl use bp

/-- What came of some uses, one after another. -/
def deeds (bp : BlockPool) : List Use → List Deed
  | [] => []
  | u :: uses => bp.deed u :: (bp.use u).deeds uses

theorem run_snoc (bp : BlockPool) (uses : List Use) (u : Use) :
    bp.run (uses ++ [u]) = (bp.run uses).use u := by
  simp only [run, List.foldl_append, List.foldl_cons, List.foldl_nil]

theorem deeds_snoc (bp : BlockPool) (uses : List Use) (u : Use) :
    bp.deeds (uses ++ [u]) = bp.deeds uses ++ [(bp.run uses).deed u] := by
  induction uses generalizing bp with
  | nil => rfl
  | cons first uses ih => exact congrArg (bp.deed first :: ·) (ih (bp.use first))

/-- What can come of a release, with what is left of the pool. -/
inductive Released (bp : BlockPool) (b : Buffer) : Option Discard → BlockPool → Prop
  /-- A block of the right size goes to the end of the free list while there is room. -/
  | kept (hsize : b.capacity = bp.blockSize) (hroom : bp.available < bp.blocks) :
      Released bp b none { bp with free := bp.free ++ [b.block] }
  /-- Anything else changes nothing. -/
  | discarded (hunfit : ¬ (b.capacity = bp.blockSize ∧ bp.available < bp.blocks))
      (reason : Discard) : Released bp b (some reason) bp

/-- Nothing else can come of it. -/
theorem released (bp : BlockPool) (b : Buffer) :
    Released bp b (bp.release b).1 (bp.release b).2 := by
  by_cases hfit : b.capacity = bp.blockSize ∧ bp.available < bp.blocks
  · rw [release_kept hfit.1 hfit.2]
    exact .kept hfit.1 hfit.2
  · rw [release_eq]
    by_cases hsize : b.block.length ≠ bp.blockSize
    · rw [if_pos hsize]
      exact .discarded hfit _
    · have hfull : bp.blocks ≤ bp.available :=
        Nat.le_of_not_lt fun hroom => hfit ⟨not_not.mp hsize, hroom⟩
      rw [if_neg hsize, if_pos hfull]
      exact .discarded hfit _

/-- A block of the right size is kept while there is room, and anything else changes nothing. -/
theorem release_eq_none_iff (bp : BlockPool) (b : Buffer) :
    ((bp.release b).1 = none ↔ b.capacity = bp.blockSize ∧ bp.available < bp.blocks) ∧
      ((bp.release b).1 ≠ none → (bp.release b).2 = bp) := by
  have hreleased := bp.released b
  generalize (bp.release b).1 = discard, (bp.release b).2 = bp' at hreleased ⊢
  cases hreleased with
  | kept hsize hroom => exact ⟨iff_of_true rfl ⟨hsize, hroom⟩, fun hne => absurd rfl hne⟩
  | discarded hunfit reason =>
      exact ⟨iff_of_false (Option.some_ne_none reason) hunfit, fun _ => rfl⟩

/-- The books of a pool that was made with so many blocks of one size. -/
structure Booked (blocks size : ℕ) (past : List Deed) (bp : BlockPool) : Prop where
  made : bp.blocks = blocks
  shape : bp.blockSize = size
  sized : ∀ block ∈ bp.free, block.length = size
  limit : bp.available ≤ blocks
  turn : past.flatMap Deed.handedOut ++ bp.free =
    List.replicate blocks (List.replicate size 0) ++ past.flatMap Deed.takenBack
  exhausted : bp.exhausted = UInt64.ofNat (past.countP Deed.isExhausted)

theorem booked_new (blocks size : ℕ) : Booked blocks size [] (.new blocks size) where
  made := (holds_new blocks size).made
  shape := (holds_new blocks size).shape
  sized := (holds_new blocks size).sized
  limit := (holds_new blocks size).count.le
  turn := by
    rw [new_eq]
    exact (List.append_nil _).symm
  exhausted := by
    rw [new_eq]
    rfl

variable {blocks size : ℕ} {past : List Deed} {bp : BlockPool}

/-- A request keeps the books. -/
theorem Booked.acquire (h : Booked blocks size past bp) (len : ℕ) :
    Booked blocks size (past ++ [bp.deed (.acquire len)]) (bp.use (.acquire len)) := by
  have hacquired := bp.acquired len
  rw [deed, use]
  generalize (bp.acquire len).1 = result, (bp.acquire len).2 = bp' at hacquired ⊢
  cases hacquired with
  | tooLarge hlong =>
      refine ⟨h.made, h.shape, h.sized, h.limit, ?_, ?_⟩
      · simpa [Deed.handedOut, Deed.takenBack] using h.turn
      · simpa [Deed.isExhausted] using h.exhausted
  | exhausted hfits hempty =>
      refine ⟨h.made, h.shape, h.sized, h.limit, ?_, ?_⟩
      · simpa [Deed.handedOut, Deed.takenBack] using h.turn
      · simp only [List.countP_append, List.countP_singleton, Deed.isExhausted, if_true,
          UInt64.ofNat_add, h.exhausted]
        rfl
  | @taken block free hfits hfree =>
      have hsized := h.sized
      have hlimit := h.limit
      have hturn := h.turn
      rw [hfree, List.forall_mem_cons] at hsized
      rw [available, hfree, List.length_cons] at hlimit
      rw [hfree] at hturn
      refine ⟨h.made, h.shape, hsized.2, Nat.le_of_succ_le hlimit, ?_, ?_⟩
      · simpa [Deed.handedOut, Deed.takenBack, Buffer.ofBlock] using hturn
      · simpa [Deed.isExhausted] using h.exhausted

/-- A release keeps the books. -/
theorem Booked.release (h : Booked blocks size past bp) (b : Buffer) :
    Booked blocks size (past ++ [bp.deed (.release b)]) (bp.use (.release b)) := by
  have hreleased := bp.released b
  rw [deed, use]
  generalize (bp.release b).1 = discard, (bp.release b).2 = bp' at hreleased ⊢
  cases hreleased with
  | kept hsize hroom =>
      have hlast : b.block.length = size := hsize.trans h.shape
      rw [h.made] at hroom
      refine ⟨h.made, h.shape, ?_, ?_, ?_, ?_⟩
      · exact List.forall_mem_append.mpr ⟨h.sized, List.forall_mem_singleton.mpr hlast⟩
      · rwa [available, List.length_append, List.length_singleton]
      · simp only [List.flatMap_append, List.flatMap_singleton, Deed.handedOut, Deed.takenBack,
          List.append_nil, ← List.append_assoc, h.turn]
      · simpa [Deed.isExhausted] using h.exhausted
  | discarded hunfit reason =>
      refine ⟨h.made, h.shape, h.sized, h.limit, ?_, ?_⟩
      · simpa [Deed.handedOut, Deed.takenBack] using h.turn
      · simpa [Deed.isExhausted] using h.exhausted

/-- The books are kept, whatever is done with the pool. -/
theorem booked_run (blocks size : ℕ) (uses : List Use) :
    let start := BlockPool.new blocks size
    Booked blocks size (start.deeds uses) (start.run uses) := by
  intro start
  induction uses using List.reverseRecOn with
  | nil => exact booked_new blocks size
  | append_singleton uses u ih =>
      rw [run_snoc, deeds_snoc]
      cases u with
      | acquire len => exact ih.acquire len
      | release b => exact ih.release b

/-- What a request is told. -/
theorem Booked.answer (h : Booked blocks size past bp) (len : ℕ) :
    ((bp.acquire len).1 = .error (.tooLarge len size) ↔ size < len) ∧
      ((bp.acquire len).1 = .error .exhausted ↔ len ≤ size ∧ bp.available = 0) ∧
      ((∃ b, (bp.acquire len).1 = .ok b ∧ b.isEmpty = true ∧ b.capacity = size) ↔
        len ≤ size ∧ bp.available ≠ 0) := by
  have hacquired := bp.acquired len
  rw [← h.shape]
  generalize (bp.acquire len).1 = result, (bp.acquire len).2 = bp' at hacquired ⊢
  cases hacquired with
  | tooLarge hlong => simp [hlong]
  | exhausted hfits hempty => simp [hfits, hempty, available]
  | @taken block free hfits hfree =>
      have hsize : block.length = bp.blockSize :=
        (h.sized block (by rw [hfree]; exact List.mem_cons_self)).trans h.shape.symm
      simp [hfits, hfree, available, Buffer.ofBlock, Buffer.isEmpty, Buffer.capacity, hsize]

/-- Of a pool that was made without blocks no block is handed out, and it takes none back. -/
theorem Booked.still (h : Booked 0 size past bp) (u : Use) :
    (bp.deed u).handedOut = [] ∧ (bp.deed u).takenBack = [] := by
  have hempty : bp.free = [] := List.eq_nil_of_length_eq_zero (Nat.le_zero.mp h.limit)
  cases u with
  | acquire len =>
      have hacquired := bp.acquired len
      rw [deed]
      generalize (bp.acquire len).1 = result, (bp.acquire len).2 = bp' at hacquired ⊢
      cases hacquired with
      | taken hfits hfree => cases hempty.symm.trans hfree
      | _ => exact ⟨rfl, rfl⟩
  | release b =>
      have hreleased := bp.released b
      rw [deed]
      generalize (bp.release b).1 = discard, (bp.release b).2 = bp' at hreleased ⊢
      cases hreleased with
      | kept hsize hroom =>
          rw [h.made] at hroom
          exact absurd hroom (Nat.not_lt_zero _)
      | discarded hunfit reason => exact ⟨rfl, rfl⟩

theorem still_run (size : ℕ) (uses : List Use) :
    let deeds := (BlockPool.new 0 size).deeds uses
    deeds.flatMap Deed.handedOut = [] ∧ deeds.flatMap Deed.takenBack = [] := by
  intro deeds
  induction uses using List.reverseRecOn with
  | nil => exact ⟨rfl, rfl⟩
  | append_singleton uses u ih =>
      obtain ⟨hout, hback⟩ := (booked_run 0 size uses).still u
      simp only [deeds, deeds_snoc, List.flatMap_append, List.flatMap_singleton, hout, hback,
        List.append_nil]
      exact ih

/-- **A pool of blocks hands out in turn what it was given.**  Take a new pool, and let anybody ask it for
buffers and release buffers into it.  It never has more free blocks than it was made with, all of them
of its size.  It takes back a block of its size while one is missing, and anything else changes nothing.
A request is refused as too large if it is longer than a block, even when none is free, or else because
no block is free, and otherwise gets an empty buffer of the size of a block.  The blocks that were handed
out, followed by the free ones, are the zero blocks that the pool was made with, followed by the blocks
that it took back, byte for byte and in order.  The requests that found no block free are counted, in a
machine word.  A pool without blocks never hands one out and never takes one back. -/
theorem hands_out_in_turn (blocks size : ℕ) (uses : List Use) :
    let start := BlockPool.new blocks size
    let bp := start.run uses
    let deeds := start.deeds uses
    (bp.blocks = blocks ∧ bp.available ≤ blocks ∧ ∀ block ∈ bp.free, block.length = size) ∧
    (∀ b, ((bp.release b).1 = none ↔ b.capacity = size ∧ bp.available < blocks) ∧
      ((bp.release b).1 ≠ none → (bp.release b).2 = bp)) ∧
    (∀ len, let result := (bp.acquire len).1
      (result = .error (.tooLarge len size) ↔ size < len) ∧
      (result = .error .exhausted ↔ len ≤ size ∧ bp.available = 0) ∧
      ((∃ b, result = .ok b ∧ b.isEmpty = true ∧ b.capacity = size) ↔
        len ≤ size ∧ bp.available ≠ 0)) ∧
    deeds.flatMap Deed.handedOut ++ bp.free =
      List.replicate blocks (List.replicate size 0) ++ deeds.flatMap Deed.takenBack ∧
    bp.exhausted.toNat = deeds.countP Deed.isExhausted % 2 ^ 64 ∧
    (blocks = 0 → deeds.flatMap Deed.handedOut = [] ∧ deeds.flatMap Deed.takenBack = []) := by
  intro start bp deeds
  have h : Booked blocks size deeds bp := booked_run blocks size uses
  refine ⟨⟨h.made, h.limit, h.sized⟩, fun b => ?_, h.answer, h.turn, ?_, ?_⟩
  · rw [← h.shape, ← h.made]
    exact bp.release_eq_none_iff b
  · rw [h.exhausted]
    exact UInt64.toNat_ofNat'
  · rintro rfl
    exact still_run size uses

/-- A block of the right size from elsewhere is not taken by a pool that was made without blocks. -/
theorem hands_out_in_turn_without_blocks :
    let uses : List Use := [.acquire 1, .release (.ofBlock [7, 7]), .acquire 3, .acquire 2]
    let bp := (BlockPool.new 0 2).run uses
    ((BlockPool.new 0 2).deeds uses).flatMap Deed.handedOut = [] ∧
      ((BlockPool.new 0 2).deeds uses).flatMap Deed.takenBack = [] ∧ bp.exhausted.toNat = 2 := by
  intro uses bp
  obtain ⟨-, -, -, -, hcount, hstill⟩ := hands_out_in_turn 0 2 uses
  obtain ⟨hout, hback⟩ := hstill rfl
  exact ⟨hout, hback, hcount.trans (by decide)⟩

end BlockPool

end Demux
