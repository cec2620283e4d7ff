import Mathlib
import Demux.Proofs.Captures
import Demux.Proofs.Stocks

/-!
# What buffers go through

A buffer is made of a block, and from then on it is filled and cleared.  Its history says no more than
that, and tells what the buffer is (`History.Tells`): its bytes are those of the block, but for the bytes
that were written since by fills that fitted, the latest ones on top.
-/

namespace Demux

/-- What the holder of a buffer can do to it. -/
inductive Treatment
  | fill (bytes : Bytes)
  | clear
  deriving DecidableEq, Repr

namespace Treatment

/-- What is written over a block of so many bytes, if it fits. -/
def write? (size : ℕ) : Treatment → Option Bytes
  | fill bytes => if bytes.length ≤ size then some bytes else none
  | clear => none

/-- The bytes in use afterwards, given those before. -/
def use (size : ℕ) (used : Bytes) : Treatment → Bytes
  | fill bytes => if bytes.length ≤ size then bytes else used
  | clear => []

end Treatment

/-- The block that a buffer was made of, and what was done to the buffer since, in order. -/
structure History where
  origin : Bytes
  treatments : List Treatment := []
  deriving DecidableEq, Repr

namespace History

/-- A history that goes on. -/
def snoc (h : History) (t : Treatment) : History := { h with treatments := h.treatments ++ [t] }

/-- What was written over the block, by the fills that fitted. -/
def written (h : History) : List Bytes := h.treatments.filterMap (·.write? h.origin.length)

/-- The bytes in use: those of the latest fill that fitted, unless they were cleared since. -/
def used (h : History) : Bytes := h.treatments.foldl (Treatment.use h.origin.length) []

theorem written_snoc (h : History) (t : Treatment) :
    (h.snoc t).written = h.written ++ (t.write? h.origin.length).toList := by
  rw [written, snoc, List.filterMap_append]
  cases hwrite : t.write? h.origin.length <;> simp [written, hwrite]

theorem used_snoc (h : History) (t : Treatment) :
    (h.snoc t).used = t.use h.origin.length h.used := by
  simp only [used, snoc, List.foldl_append, List.foldl_cons, List.foldl_nil]

/-- A history tells what a buffer is, byte for byte. -/
structure Tells (h : History) (b : Buffer) : Prop where
  /-- The bytes in use are in the block. -/
  within : b.len ≤ b.capacity
  /-- The buffer is of the size of the block that it was made of. -/
  capacity : b.capacity = h.origin.length
  len : b.len = h.used.length
  contents : b.contents = h.used
  /-- Every byte of the block is the latest that was written there, or the one that was there before. -/
  bytes : ∀ i : ℕ, b.block[i]? =
    h.origin[i]?.map fun byte => (h.written.reverse.findSome? (·[i]?)).getD byte

variable {h : History} {b : Buffer} {bytes : Bytes}

theorem tells_ofBlock (block : Bytes) : (⟨block, []⟩ : History).Tells (.ofBlock block) where
  within := Nat.zero_le _
  capacity := rfl
  len := rfl
  contents := rfl
  bytes _ := Option.map_id'.symm

/-- A fill that fits is written over the block, and is then in use. -/
theorem Tells.fill (ht : h.Tells b) {filled : Buffer} (hfill : b.fill bytes = .ok filled) :
    (h.snoc (.fill bytes)).Tells filled := by
  obtain ⟨hfits, hcontents, hsize⟩ := Buffer.fill_ok hfill
  have hblock := Buffer.block_of_fill hfill
  have hlen : filled.contents.length = filled.len := List.length_take_of_le filled.len_le
  rw [ht.capacity] at hfits hsize
  have hused : (h.snoc (.fill bytes)).used = bytes := by
    rw [used_snoc, Treatment.use, if_pos hfits]
  have hwritten : (h.snoc (.fill bytes)).written = h.written ++ [bytes] := by
    rw [written_snoc, Treatment.write?, if_pos hfits, Option.toList_some]
  refine ⟨filled.len_le, hsize, ?_, hcontents.trans hused.symm, ?_⟩
  · rw [← hlen, hcontents, hused]
  · intro i
    rw [hblock, Bytes.getElem?_overlay, ht.bytes, hwritten, List.reverse_append,
      List.reverse_singleton, List.singleton_append, Option.map_map]
    congr 1
    funext byte
    rw [List.findSome?_cons, Function.comp_apply]
    cases bytes[i]? <;> rfl

/-- A fill that does not fit changes nothing. -/
theorem Tells.fill_error (ht : h.Tells b) {e : PoolError} (hfill : b.fill bytes = .error e) :
    (h.snoc (.fill bytes)).Tells b := by
  obtain ⟨hlong, -⟩ := Buffer.fill_error hfill
  rw [ht.capacity] at hlong
  have hmisfit : ¬ bytes.length ≤ h.origin.length := Nat.not_le.mpr hlong
  have hused : (h.snoc (.fill bytes)).used = h.used := by
    rw [used_snoc, Treatment.use, if_neg hmisfit]
  have hwritten : (h.snoc (.fill bytes)).written = h.written := by
    rw [written_snoc, Treatment.write?, if_neg hmisfit, Option.toList_none, List.append_nil]
  refine ⟨ht.within, ht.capacity, hused ▸ ht.len, hused ▸ ht.contents, ?_⟩
  rw [hwritten]
  exact ht.bytes

/-- A buffer that is cleared has nothing in use, and the block stays. -/
theorem Tells.clear (ht : h.Tells b) : (h.snoc .clear).Tells b.clear := by
  have hused : (h.snoc .clear).used = [] := used_snoc h .clear
  have hwritten : (h.snoc .clear).written = h.written := by
    rw [written_snoc]
    exact List.append_nil _
  refine ⟨Nat.zero_le _, ht.capacity, ?_, ?_, ?_⟩
  · rw [hused]
    rfl
  · rw [hused]
    rfl
  · rw [hwritten]
    exact ht.bytes

end History

end Demux
