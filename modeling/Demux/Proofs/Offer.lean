import Mathlib
import Demux.Dispatcher

/-!
# How an offer can end

An offer of a frame to a route ends in one of five ways, whatever the pool and the queue do
(`Offered`).  Each of them says which calls were made, in which state of the collaborators, and what
became of the buffer.  A dispatch is an offer to the one route that the frame resolves to, or nothing
at all.
-/

namespace Demux

variable {W : Type}

/-- The ways in which an offer of a frame can end, with the state in which the collaborators are left
from `w`. -/
inductive Offered (env : Collaborators W) (r : Route) (frame : Bytes) (reported : Nat) (w : W) :
    Verdict → W → Prop
  /-- The frame is truncated and the route discards such frames. -/
  | truncated (hdiscard : r.dropPartial = true) (hcut : frame.length < reported) :
      Offered env r frame reported w .droppedPartial w
  /-- The pool hands out no buffer. -/
  | refused {e : PoolError} {w₁ : W}
      (hwhole : ¬ (r.dropPartial = true ∧ frame.length < reported))
      (hacquire : env.acquire r.pool frame.length w = (.error e, w₁)) :
      Offered env r frame reported w
        (if 0 < e.overflow then .exceedsBlock e.overflow else .poolExhausted) w₁
  /-- The pool hands out a buffer that is too short, and gets it back. -/
  | short {b : Buffer} {w₁ : W}
      (hwhole : ¬ (r.dropPartial = true ∧ frame.length < reported))
      (hacquire : env.acquire r.pool frame.length w = (.ok b, w₁))
      (hshort : b.capacity < frame.length) :
      Offered env r frame reported w (.exceedsBuffer (frame.length - b.capacity))
        (env.release r.pool b w₁)
  /-- The queue takes the filled buffer. -/
  | delivered {b filled : Buffer} {w₁ w₂ : W}
      (hwhole : ¬ (r.dropPartial = true ∧ frame.length < reported))
      (hacquire : env.acquire r.pool frame.length w = (.ok b, w₁))
      (hfill : b.fill frame = .ok filled)
      (hsend : env.send r.queue filled w₁ = (none, w₂)) :
      Offered env r frame reported w .delivered w₂
  /-- The queue hands a buffer back, which goes to the pool. -/
  | queueFull {b filled refused : Buffer} {w₁ w₂ : W}
      (hwhole : ¬ (r.dropPartial = true ∧ frame.length < reported))
      (hacquire : env.acquire r.pool frame.length w = (.ok b, w₁))
      (hfill : b.fill frame = .ok filled)
      (hsend : env.send r.queue filled w₁ = (some refused, w₂)) :
      Offered env r frame reported w .queueFull (env.release r.pool refused w₂)

/-- Every offer ends in one of these ways. -/
theorem Route.offered (env : Collaborators W) (r : Route) (frame : Bytes) (reported : Nat) (w : W) :
    Offered env r frame reported w (r.offer env frame reported w).1
      (r.offer env frame reported w).2 := by
  unfold offer
  by_cases hcut : r.dropPartial = true ∧ frame.length < reported
  · rw [if_pos hcut]
    exact .truncated hcut.1 hcut.2
  · rw [if_neg hcut]
    rcases hacquire : env.acquire r.pool frame.length w with ⟨e | b, w₁⟩
    · exact .refused hcut hacquire
    · cases hfill : b.fill frame with
      | error e =>
          obtain ⟨hshort, hover⟩ := Buffer.fill_error hfill
          simp only [hfill, hover]
          exact .short hcut hacquire hshort
      | ok filled =>
          rcases hsend : env.send r.queue filled w₁ with ⟨_ | refused, w₂⟩
          · simp only [hfill, hsend]
            exact .delivered hcut hacquire hfill hsend
          · simp only [hfill, hsend]
            exact .queueFull hcut hacquire hfill hsend

/-- A frame that was offered to a route is not unmatched. -/
theorem Offered.outcome_ne_unmatched {env : Collaborators W} {r : Route} {frame : Bytes}
    {reported : Nat} {w w' : W} {verdict : Verdict}
    (h : Offered env r frame reported w verdict w') : verdict.outcome ≠ .unmatched := by
  cases h with
  | refused => split <;> exact Outcome.noConfusion
  | _ => exact Outcome.noConfusion

/-- What is kept by every call to the pool and the queue of a route is kept by an offer to it. -/
theorem Offered.keeps {env : Collaborators W} {r : Route} {frame : Bytes} {reported : Nat} {w w' : W}
    {verdict : Verdict} (h : Offered env r frame reported w verdict w') {motive : W → Prop}
    (hacquire : ∀ len w, motive w → motive (env.acquire r.pool len w).2)
    (hrelease : ∀ b w, motive w → motive (env.release r.pool b w))
    (hsend : ∀ b w, motive w → motive (env.send r.queue b w).2) (hw : motive w) : motive w' := by
  have hacquired {len : Nat} {result : Except PoolError Buffer} {w₁ : W}
      (h : env.acquire r.pool len w = (result, w₁)) : motive w₁ := by
    have hkept := hacquire len w hw
    rwa [h] at hkept
  have hsent {b : Buffer} {result : Option Buffer} {w₁ w₂ : W} (hw₁ : motive w₁)
      (h : env.send r.queue b w₁ = (result, w₂)) : motive w₂ := by
    have hkept := hsend b w₁ hw₁
    rwa [h] at hkept
  cases h with
  | truncated hdiscard hcut => exact hw
  | refused hwhole hacq => exact hacquired hacq
  | short hwhole hacq hshort => exact hrelease _ _ (hacquired hacq)
  | delivered hwhole hacq hfill hsnd => exact hsent (hacquired hacq) hsnd
  | queueFull hwhole hacq hfill hsnd => exact hrelease _ _ (hsent (hacquired hacq) hsnd)

namespace Dispatcher

variable {f : Format} {d : Dispatcher f} {frame : Bytes}

/-- A frame without a route is counted as unmatched, and nobody is asked anything. -/
theorem handle_of_unresolved (h : d.resolve frame = none) (env : Collaborators W) (reported : Nat)
    (w : W) :
    (d.handle env frame reported w).1.verdict = .unmatched ∧
      (d.handle env frame reported w).2.1 = { d with totals := d.totals.record .unmatched } ∧
      (d.handle env frame reported w).2.2 = w := by
  simp only [handle, h, and_self]

/-- A frame with a route is offered to it, and the outcome is counted at its place and in total. -/
theorem handle_of_resolved {slot : Slot} {e : Endpoint} (h : d.resolve frame = some (slot, e))
    (env : Collaborators W) (reported : Nat) (w : W) :
    (d.handle env frame reported w).1.verdict = (e.route.offer env frame reported w).1 ∧
      (d.handle env frame reported w).2.1 =
        { d with
          registry := d.registry.record slot (e.route.offer env frame reported w).1.outcome
          totals := d.totals.record (e.route.offer env frame reported w).1.outcome } ∧
      (d.handle env frame reported w).2.2 = (e.route.offer env frame reported w).2 := by
  simp only [handle, h, and_self]

end Dispatcher

end Demux
