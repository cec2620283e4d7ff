import Demux.Bytes
import Demux.Error

/-!
# Buffers

A buffer is a block of storage of fixed size whose first bytes are in use.  Filling it overwrites
the start of the block and leaves the rest as it was, so a recycled block may hold bytes of an
earlier frame behind the ones in use; `contents` never shows them.  A fill succeeds exactly when the
bytes fit the block (`fill_ok`, `fill_error`).
-/

namespace Demux

/-- A block of storage and the number of bytes in use at its start. -/
structure Buffer where
  block : Bytes
  len : Nat
  len_le : len ≤ block.length
  deriving DecidableEq, Repr

namespace Buffer

/-- A block with nothing in use. -/
def ofBlock (block : Bytes) : Buffer := ⟨block, 0, Nat.zero_le _⟩

/-- The size of the block. -/
def capacity (b : Buffer) : Nat := b.block.length

/-- The bytes in use. -/
def contents (b : Buffer) : Bytes := b.block.take b.len

/-- Whether nothing is in use. -/
def isEmpty (b : Buffer) : Bool := b.len == 0

/-- Replace the contents.  Bytes that do not fit the block are refused, and the caller keeps the
buffer it has. -/
def fill (b : Buffer) (bytes : Bytes) : Except PoolError Buffer :=
  if h : bytes.length ≤ b.block.length then
    .ok ⟨bytes.overlay b.block, bytes.length, by simpa using h⟩
  else .error (.tooLarge bytes.length b.block.length)

/-- Forget the contents; the bytes of the block stay. -/
def clear (b : Buffer) : Buffer := ofBlock b.block

/-- The buffer in debug notation: the whole block, then the number of bytes in use. -/
def text (b : Buffer) : String :=
  "Buffer \x7b block: [" ++ ", ".intercalate (b.block.map fun byte => Nat.repr byte.toNat) ++
    "], len: " ++ Nat.repr b.len ++ " \x7d"

/-- What a successful fill leaves: the bytes, in a block of the same size. -/
theorem fill_ok {b filled : Buffer} {bytes : Bytes} (h : b.fill bytes = .ok filled) :
    bytes.length ≤ b.capacity ∧ filled.contents = bytes ∧ filled.capacity = b.capacity := by
  unfold fill at h
  split at h
  · rename_i hfits
    cases h
    refine ⟨hfits, ?_, Bytes.length_overlay bytes b.block⟩
    simp only [contents, Bytes.overlay, List.take_of_length_le hfits, List.take_left]
  · contradiction

/-- What a successful fill does to the block. -/
theorem block_of_fill {b filled : Buffer} {bytes : Bytes} (h : b.fill bytes = .ok filled) :
    filled.block = bytes.overlay b.block := by
  unfold fill at h
  split at h
  · cases h
    rfl
  · contradiction

/-- A fill fails only for bytes that do not fit, and says by how many. -/
theorem fill_error {b : Buffer} {bytes : Bytes} {e : PoolError} (h : b.fill bytes = .error e) :
    b.capacity < bytes.length ∧ e.overflow = bytes.length - b.capacity := by
  unfold fill at h
  split at h
  · contradiction
  · rename_i hlong
    cases h
    exact ⟨Nat.lt_of_not_le hlong, rfl⟩

end Buffer

end Demux
