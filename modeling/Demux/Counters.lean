import Demux.Outcome

/-!
# Counters

A tally counts up to `2 ^ 32 - 1` and stays there.  Whatever is added to it, in one piece or in
several, its value is the clamp of the exact sum (`Tally.val_add`, `Tally.add_add`).

Drop counters are kept for every route and once more for the whole dispatcher.  What an outcome
adds to them is said in one place, `DropCounters.record` and `GlobalCounters.record`; summing the
counters of several routes is `DropCounters.accumulate`.
-/

namespace Demux

/-- The largest value a tally can hold, `2 ^ 32 - 1`. -/
def Tally.limit : Nat := 4294967295

/-- A counter that saturates at `Tally.limit`. -/
structure Tally where
  val : Nat
  val_le : val ≤ Tally.limit
  deriving DecidableEq, Repr

namespace Tally

/-- Nothing counted. -/
def zero : Tally := ⟨0, Nat.zero_le _⟩

/-- Count `n` more, up to the limit. -/
def add (t : Tally) (n : Nat) : Tally := ⟨min limit (t.val + n), Nat.min_le_left _ _⟩

/-- The tally of a given value, if a tally can hold it. -/
def ofNat? (n : Nat) : Option Tally :=
  if h : n ≤ limit then some ⟨n, h⟩ else none

/-- Two tallies of one value are the same tally. -/
theorem ext {s t : Tally} (h : s.val = t.val) : s = t := by
  cases s; cases t; cases h; rfl

@[simp] theorem val_zero : zero.val = 0 := rfl

/-- The value after an addition is the clamp of the exact sum. -/
@[simp] theorem val_add (t : Tally) (n : Nat) : (t.add n).val = min limit (t.val + n) := rfl

/-- Adding nothing changes nothing. -/
@[simp] theorem add_zero (t : Tally) : t.add 0 = t :=
  ext (by have := t.val_le; simp only [val_add]; omega)

/-- Two additions are one addition of the sum, whether or not the first one saturates. -/
theorem add_add (t : Tally) (m n : Nat) : (t.add m).add n = t.add (m + n) :=
  ext (by simp only [val_add]; omega)

end Tally

/-- What was lost on a route. -/
structure DropCounters where
  /-- Frames lost to an exhausted pool, to their length or to a full queue. -/
  dropped : Tally := Tally.zero
  /-- Truncated frames discarded by the route's policy. -/
  partials : Tally := Tally.zero
  /-- Bytes that did not fit into a pool block. -/
  overflow : Tally := Tally.zero
  deriving DecidableEq, Repr

namespace DropCounters

/-- Counters with nothing recorded. -/
def zero : DropCounters := {}

/-- Count one outcome.  A frame that overflowed is a dropped frame as well. -/
def record (c : DropCounters) : Outcome → DropCounters
  | .delivered | .unmatched => c
  | .droppedPartial => { c with partials := c.partials.add 1 }
  | .poolExhausted | .queueFull => { c with dropped := c.dropped.add 1 }
  | .overflowed bytes =>
      { c with dropped := c.dropped.add 1, overflow := c.overflow.add bytes }

/-- Add other counters, field by field. -/
def accumulate (c other : DropCounters) : DropCounters where
  dropped := c.dropped.add other.dropped.val
  partials := c.partials.add other.partials.val
  overflow := c.overflow.add other.overflow.val

/-- The sum of a list of counters. -/
def sum (cs : List DropCounters) : DropCounters := cs.foldl accumulate zero

/-- Whether nothing was recorded. -/
def isClear (c : DropCounters) : Bool := c = zero

end DropCounters

/-- What was lost in the whole dispatcher. -/
structure GlobalCounters where
  /-- The losses of all routes together. -/
  drops : DropCounters := {}
  /-- Frames that no listener and no default route took. -/
  unmatched : Tally := Tally.zero
  deriving DecidableEq, Repr

namespace GlobalCounters

/-- Counters with nothing recorded. -/
def zero : GlobalCounters := {}

/-- Count one outcome. -/
def record (g : GlobalCounters) : Outcome → GlobalCounters
  | .unmatched => { g with unmatched := g.unmatched.add 1 }
  | outcome => { g with drops := g.drops.record outcome }

end GlobalCounters

end Demux
