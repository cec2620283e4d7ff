/-!
# Bytes

Frames, pool blocks and identifier fields are all lists of bytes.  An **overlay** writes a run of bytes
over the start of a fixed stretch of memory, which keeps the length of the stretch (`length_overlay`)
and every byte past the end of what was written.  A **slice** is the stretch between two positions, if
the bytes go that far.

A **little-endian numeral** is a number in so many bytes, the least significant byte first.  Reading a
run of bytes and writing the number again in as many bytes restores the run
(`toLittleEndian_ofLittleEndian`).
-/

namespace Demux

/-- A run of bytes, the first byte first. -/
abbrev Bytes := List UInt8

namespace Bytes

/-- Write `top` over the start of `under`.  Whatever of `top` has no room is lost, whatever of
`under` is not covered stays. -/
def overlay (top under : Bytes) : Bytes :=
  top.take under.length ++ under.drop top.length

/-- An overlay is as long as the stretch that was written on. -/
@[simp] theorem length_overlay (top under : Bytes) :
    (overlay top under).length = under.length := by
  simp only [overlay, List.length_append, List.length_take, List.length_drop]
  omega

/-- Bytes that fit replace the start of a stretch and leave the rest of it as it is. -/
theorem overlay_of_le {top under : Bytes} (h : top.length ≤ under.length) :
    top.overlay under = top ++ under.drop top.length := by
  rw [overlay, List.take_of_length_le h]

/-- The bytes from one position up to another, if these are in order and the bytes go that far. -/
def slice? (bytes : Bytes) (start stop : Nat) : Option Bytes :=
  if start ≤ stop ∧ stop ≤ bytes.length then some ((bytes.drop start).take (stop - start)) else none

/-- A stretch of some length is there if the bytes go as far as its end. -/
theorem slice?_add (bytes : Bytes) (start n : Nat) :
    bytes.slice? start (start + n) =
      if start + n ≤ bytes.length then some ((bytes.drop start).take n) else none := by
  simp only [slice?, Nat.le_add_right, true_and, Nat.add_sub_cancel_left]

/-- The number whose bytes these are, the least significant byte first. -/
def ofLittleEndian : Bytes → Nat
  | [] => 0
  | b :: rest => b.toNat + 256 * ofLittleEndian rest

/-- The lowest `n` bytes of a number, the least significant byte first. -/
def toLittleEndian : (n : Nat) → (value : Nat) → Bytes
  | 0, _ => []
  | n + 1, value => UInt8.ofNat value :: toLittleEndian n (value / 256)

/-- A numeral of `n` bytes has `n` bytes. -/
@[simp] theorem length_toLittleEndian (n value : Nat) :
    (toLittleEndian n value).length = n := by
  induction n generalizing value with
  | zero => rfl
  | succ n ih => simp [toLittleEndian, ih]

/-- Reading a numeral and writing the number again restores every byte. -/
theorem toLittleEndian_ofLittleEndian (bytes : Bytes) :
    toLittleEndian bytes.length (ofLittleEndian bytes) = bytes := by
  induction bytes with
  | nil => rfl
  | cons b rest ih =>
      have hb : b.toNat < 256 := b.toNat_lt
      have hdiv : (b.toNat + 256 * ofLittleEndian rest) / 256 = ofLittleEndian rest := by omega
      have hlow : UInt8.ofNat (b.toNat + 256 * ofLittleEndian rest) = b := by
        apply UInt8.toNat_inj.mp
        rw [UInt8.toNat_ofNat']
        omega
      rw [List.length_cons, ofLittleEndian, toLittleEndian, hdiv, ih, hlow]

end Bytes

end Demux
