import Mathlib
import Demux.Stats

/-!
# Saturating sums

Addition that stops at the limit is still associative and commutative, because what it computes is
the clamp of the exact sum.  Tallies are therefore a commutative monoid, and so are drop counters,
field by field.  Counting an outcome is adding its `loss`, so the counters of a route are what was
`lost` by the outcomes of its frames.  That sum is the exact account of these outcomes, clamped once
at the end (`counts_lost`), however often and wherever it saturates on the way.
-/

namespace Demux

namespace Tally

instance : Zero Tally := ⟨zero⟩

instance : Add Tally := ⟨fun s t => s.add t.val⟩

@[simp] theorem zero_val : (0 : Tally).val = 0 := rfl

@[simp] theorem add_val (s t : Tally) : (s + t).val = min limit (s.val + t.val) := rfl

instance : AddCommMonoid Tally where
  add_assoc s t u := ext (by simp only [add_val]; omega)
  zero_add t := ext (by have := t.val_le; simp only [add_val, zero_val]; omega)
  add_zero t := add_zero t
  add_comm s t := ext (by simp only [add_val]; omega)
  nsmul := nsmulRec

theorem add_eq_zero_iff (s t : Tally) : s + t = 0 ↔ s = 0 ∧ t = 0 := by
  constructor
  · intro h
    have hsum : min limit (s.val + t.val) = 0 := congrArg val h
    simp only [limit] at hsum
    exact ⟨ext (by rw [zero_val]; omega), ext (by rw [zero_val]; omega)⟩
  · rintro ⟨rfl, rfl⟩
    rfl

/-- The tally of a count, as far as it goes. -/
def clamp (n : Nat) : Tally := zero.add n

@[simp] theorem clamp_val (n : Nat) : (clamp n).val = min limit n := by
  simp [clamp]

/-- Adding a count is adding its tally: a count past the limit is lost all the same. -/
theorem add_eq_add_clamp (t : Tally) (n : Nat) : t.add n = t + clamp n :=
  ext (by simp only [val_add, add_val, clamp_val]; omega)

end Tally

namespace Outcome

/-- Whether the frame counts as dropped: its pool had no buffer for it or its queue no place. -/
def isDrop : Outcome → Bool
  | poolExhausted | queueFull | overflowed _ => true
  | _ => false

end Outcome

namespace DropCounters

theorem ext {c d : DropCounters} (hdropped : c.dropped = d.dropped)
    (hpartials : c.partials = d.partials) (hoverflow : c.overflow = d.overflow) : c = d := by
  cases c
  cases d
  simp only [mk.injEq]
  exact ⟨hdropped, hpartials, hoverflow⟩

instance : Zero DropCounters := ⟨zero⟩

instance : Add DropCounters := ⟨accumulate⟩

@[simp] theorem add_dropped (c d : DropCounters) :
    (c + d).dropped = c.dropped + d.dropped := rfl

@[simp] theorem add_partials (c d : DropCounters) :
    (c + d).partials = c.partials + d.partials := rfl

@[simp] theorem add_overflow (c d : DropCounters) :
    (c + d).overflow = c.overflow + d.overflow := rfl

instance : AddCommMonoid DropCounters where
  add_assoc a b c := ext (add_assoc _ _ _) (add_assoc _ _ _) (add_assoc _ _ _)
  zero_add c := ext (zero_add _) (zero_add _) (zero_add _)
  add_zero c := ext (add_zero _) (add_zero _) (add_zero _)
  add_comm a b := ext (add_comm _ _) (add_comm _ _) (add_comm _ _)
  nsmul := nsmulRec

theorem add_eq_zero_iff (c d : DropCounters) : c + d = 0 ↔ c = 0 ∧ d = 0 := by
  constructor
  · intro h
    have hdropped := (Tally.add_eq_zero_iff _ _).mp (congrArg dropped h)
    have hpartials := (Tally.add_eq_zero_iff _ _).mp (congrArg partials h)
    have hoverflow := (Tally.add_eq_zero_iff _ _).mp (congrArg overflow h)
    exact ⟨ext hdropped.1 hpartials.1 hoverflow.1, ext hdropped.2 hpartials.2 hoverflow.2⟩
  · rintro ⟨rfl, rfl⟩
    rfl

/-- A sum is zero only if everything in it is. -/
theorem sum_eq_zero_iff (cs : List DropCounters) : cs.sum = 0 ↔ ∀ c ∈ cs, c = 0 := by
  induction cs with
  | nil => simp
  | cons c cs ih => rw [List.sum_cons, add_eq_zero_iff, ih, List.forall_mem_cons]

theorem sum_eq_sum (cs : List DropCounters) : DropCounters.sum cs = cs.sum :=
  List.sum_eq_foldl.symm

theorem isClear_iff (c : DropCounters) : c.isClear = true ↔ c = 0 :=
  decide_eq_true_iff

/-- What an outcome adds to the counters of a route. -/
def loss (o : Outcome) : DropCounters := zero.record o

/-- Counting an outcome is adding its loss. -/
theorem record_eq_add_loss (c : DropCounters) (o : Outcome) : c.record o = c + loss o := by
  have hzero (t : Tally) : t = t + Tally.zero := (add_zero t).symm
  cases o with
  | delivered => exact (add_zero c).symm
  | unmatched => exact (add_zero c).symm
  | droppedPartial =>
      exact ext (hzero _) (Tally.add_eq_add_clamp _ _) (hzero _)
  | poolExhausted => exact ext (Tally.add_eq_add_clamp _ _) (hzero _) (hzero _)
  | queueFull => exact ext (Tally.add_eq_add_clamp _ _) (hzero _) (hzero _)
  | overflowed bytes =>
      exact ext (Tally.add_eq_add_clamp _ _) (hzero _) (Tally.add_eq_add_clamp _ _)

/-- What is lost by a list of outcomes. -/
def lost (os : List Outcome) : DropCounters := (os.map loss).sum

theorem lost_cons (o : Outcome) (os : List Outcome) : lost (o :: os) = loss o + lost os := by
  simp [lost]

theorem lost_snoc (os : List Outcome) (o : Outcome) : lost (os ++ [o]) = lost os + loss o := by
  simp [lost]

/-- Counters that are the exact account of some outcomes, as far as tallies go. -/
structure Counts (c : DropCounters) (os : List Outcome) : Prop where
  dropped : c.dropped.val = min Tally.limit (os.countP Outcome.isDrop)
  partials : c.partials.val = min Tally.limit (os.countP (· = .droppedPartial))
  overflow : c.overflow.val = min Tally.limit (os.map Outcome.overflow).sum

/-- What is lost by a list of outcomes is their exact account, even where a single outcome is past
the limit. -/
theorem counts_lost (os : List Outcome) : (lost os).Counts os := by
  induction os with
  | nil => exact ⟨rfl, rfl, rfl⟩
  | cons o os ih =>
      have hdropped : (loss o).dropped.val = if o.isDrop then 1 else 0 := by cases o <;> rfl
      have hpartials : (loss o).partials.val = if o = .droppedPartial then 1 else 0 := by
        cases o <;> rfl
      have hoverflow : (loss o).overflow.val = min Tally.limit o.overflow := by
        cases o <;> simp [loss, record, zero, Outcome.overflow]
      constructor
      case dropped =>
        rw [lost_cons, add_dropped, Tally.add_val, ih.dropped, hdropped, List.countP_cons]
        omega
      case partials =>
        rw [lost_cons, add_partials, Tally.add_val, ih.partials, hpartials, List.countP_cons]
        simp only [decide_eq_true_eq]
        omega
      case overflow =>
        rw [lost_cons, add_overflow, Tally.add_val, ih.overflow, hoverflow, List.map_cons,
          List.sum_cons]
        omega

/-- Nothing is lost exactly when every frame was delivered or belonged to no route. -/
theorem lost_eq_zero_iff (os : List Outcome) :
    lost os = 0 ↔ ∀ o ∈ os, o = .delivered ∨ o = .unmatched := by
  have hhead (o : Outcome) : loss o = 0 ↔ o = .delivered ∨ o = .unmatched := by
    constructor
    · intro h
      have hd : (loss o).dropped.val = 0 := by rw [h]; rfl
      have hp : (loss o).partials.val = 0 := by rw [h]; rfl
      cases o with
      | delivered => exact Or.inl rfl
      | unmatched => exact Or.inr rfl
      | droppedPartial => cases hp
      | poolExhausted => cases hd
      | queueFull => cases hd
      | overflowed bytes => cases hd
    · rintro (rfl | rfl) <;> rfl
  rw [lost, sum_eq_zero_iff, List.forall_mem_map]
  simp only [hhead]

end DropCounters

namespace GlobalCounters

/-- A frame with a route counts in total as it counts on the route. -/
theorem drops_record {o : Outcome} (h : o ≠ .unmatched) (g : GlobalCounters) :
    (g.record o).drops = g.drops.record o := by
  cases o with
  | unmatched => contradiction
  | _ => rfl

theorem unmatched_record {o : Outcome} (h : o ≠ .unmatched) (g : GlobalCounters) :
    (g.record o).unmatched = g.unmatched := by
  cases o with
  | unmatched => contradiction
  | _ => rfl

end GlobalCounters

end Demux
