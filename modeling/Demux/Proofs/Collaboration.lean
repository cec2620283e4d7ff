import Mathlib
import Demux.Proofs.Cleared
import Demux.Proofs.Lockstep

/-!
# What a dispatch asks of its collaborators

Pools and queues are free to do what they like, and a dispatch makes no more than three calls to them.
To see the calls, let collaborators record them (`Collaborators.recorded`); recording changes nothing
else, because an offer comes to the same with collaborators that do the same (`Simulates`).

Every list of calls that can occur has one outcome (`Dealings`), and in each of them a buffer that was
acquired is given away exactly once (`Custody`).
-/

namespace Demux

variable {f : Format} {V W : Type}

namespace Collaborators

/-- One call to a pool or a queue, and what it came to. -/
inductive Call
  | acquire (pool : PoolRef) (len : ℕ) (result : Except PoolError Buffer)
  | release (pool : PoolRef) (b : Buffer)
  /-- A buffer for a queue, and the one that the queue handed back if it did. -/
  | send (queue : QueueRef) (b : Buffer) (refused : Option Buffer)

/-- Collaborators that record every call. -/
def recorded (env : Collaborators W) : Collaborators (W × List Call) where
  acquire pool len s :=
    let (result, w) := env.acquire pool len s.1
    (result, w, s.2 ++ [.acquire pool len result])
  release pool b s := (env.release pool b s.1, s.2 ++ [.release pool b])
  send queue b s :=
    let (refused, w) := env.send queue b s.1
    (refused, w, s.2 ++ [.send queue b refused])

/-- Some collaborators do the same as others, up to a relation of their states. -/
structure Simulates (R : V → W → Prop) (a : Collaborators V) (b : Collaborators W) : Prop where
  acquire : ∀ pool len v w, R v w →
    (a.acquire pool len v).1 = (b.acquire pool len w).1 ∧
      R (a.acquire pool len v).2 (b.acquire pool len w).2
  release : ∀ pool buffer v w, R v w → R (a.release pool buffer v) (b.release pool buffer w)
  send : ∀ queue buffer v w, R v w →
    (a.send queue buffer v).1 = (b.send queue buffer w).1 ∧
      R (a.send queue buffer v).2 (b.send queue buffer w).2

theorem recorded_simulates (env : Collaborators W) :
    Simulates (fun s w => s.1 = w) env.recorded env where
  acquire := by
    rintro pool len ⟨v, calls⟩ w rfl
    exact ⟨rfl, rfl⟩
  release := by
    rintro pool buffer ⟨v, calls⟩ w rfl
    rfl
  send := by
    rintro queue buffer ⟨v, calls⟩ w rfl
    exact ⟨rfl, rfl⟩

variable {env : Collaborators W} {s s' : W × List Call}

theorem calls_of_acquire {pool : PoolRef} {len : ℕ} {result : Except PoolError Buffer}
    (h : env.recorded.acquire pool len s = (result, s')) :
    s'.2 = s.2 ++ [.acquire pool len result] := by
  cases h
  rfl

theorem calls_of_send {queue : QueueRef} {b : Buffer} {refused : Option Buffer}
    (h : env.recorded.send queue b s = (refused, s')) :
    s'.2 = s.2 ++ [.send queue b refused] := by
  cases h
  rfl

end Collaborators

open Collaborators (Call Simulates)

section Simulation

variable {R : V → W → Prop} {a : Collaborators V} {b : Collaborators W}

/-- A route finds the same in two worlds in which everybody does. -/
theorem Collaborators.Simulates.matched (h : Simulates R a b) (r : Route) : r.Matched id R a b where
  acquire hvw len := by
    obtain ⟨hresult, hafter⟩ := h.acquire r.pool len _ _ hvw
    exact ⟨congrArg (Except.map id) hresult, hafter⟩
  release hvw hxy := by
    obtain rfl : _ = _ := hxy
    exact h.release r.pool _ _ _ hvw
  send hvw hxy := by
    obtain rfl : _ = _ := hxy
    obtain ⟨hrefused, hafter⟩ := h.send r.queue _ _ _ hvw
    exact ⟨congrArg (Option.map id) hrefused, hafter⟩

/-- A frame fills equal buffers equally. -/
theorem Bytes.fillAlike_id (frame : Bytes) : frame.FillAlike id frame where
  length := rfl
  fill hxy := by
    obtain rfl : _ = _ := hxy
    rfl

/-- An offer comes to the same with collaborators that do the same. -/
theorem Route.offer_simulates (h : Simulates R a b) (r : Route) (frame : Bytes) (reported : ℕ)
    {v : V} {w : W} (hvw : R v w) :
    (r.offer a frame reported v).1 = (r.offer b frame reported w).1 ∧
      R (r.offer a frame reported v).2 (r.offer b frame reported w).2 :=
  Route.offer_matched (h.matched r) frame.fillAlike_id reported hvw

/-- A dispatch comes to the same with collaborators that do the same. -/
theorem Dispatcher.handle_simulates (h : Simulates R a b) (d : Dispatcher f) (frame : Bytes)
    (reported : ℕ) {v : V} {w : W} (hvw : R v w) :
    (d.handle a frame reported v).1 = (d.handle b frame reported w).1 ∧
      (d.handle a frame reported v).2.1 = (d.handle b frame reported w).2.1 ∧
      R (d.handle a frame reported v).2.2 (d.handle b frame reported w).2.2 := by
  exact d.handle_matched rfl rfl reported hvw fun r => r.offer_simulates h frame reported hvw

end Simulation

/-- The calls that a dispatch of a frame can make, given its route if it has one, and what they come
to. -/
inductive Dealings (frame : Bytes) (reported : ℕ) : Option Route → List Call → Outcome → Prop
  /-- The frame goes nowhere. -/
  | unmatched : Dealings frame reported none [] .unmatched
  /-- The frame is truncated and the route discards such frames. -/
  | discarded {r : Route} (hdiscard : r.dropPartial = true) (hcut : frame.length < reported) :
      Dealings frame reported (some r) [] .droppedPartial
  /-- The pool hands out no buffer, for other reasons than the length of the frame. -/
  | exhausted {r : Route} {e : PoolError}
      (hwhole : ¬ (r.dropPartial = true ∧ frame.length < reported)) (hover : e.overflow = 0) :
      Dealings frame reported (some r) [.acquire r.pool frame.length (.error e)] .poolExhausted
  /-- The pool hands out no buffer, because the frame is too long. -/
  | tooLong {r : Route} {e : PoolError}
      (hwhole : ¬ (r.dropPartial = true ∧ frame.length < reported)) (hover : 0 < e.overflow) :
      Dealings frame reported (some r) [.acquire r.pool frame.length (.error e)]
        (.overflowed e.overflow)
  /-- The pool hands out a buffer that is too short, and gets it back as it was. -/
  | short {r : Route} {b : Buffer}
      (hwhole : ¬ (r.dropPartial = true ∧ frame.length < reported))
      (hshort : b.capacity < frame.length) :
      Dealings frame reported (some r)
        [.acquire r.pool frame.length (.ok b), .release r.pool b]
        (.overflowed (frame.length - b.capacity))
  /-- The queue takes the buffer, which holds the frame. -/
  | delivered {r : Route} {b filled : Buffer}
      (hwhole : ¬ (r.dropPartial = true ∧ frame.length < reported))
      (hfill : b.fill frame = .ok filled) (hcontents : filled.contents = frame) :
      Dealings frame reported (some r)
        [.acquire r.pool frame.length (.ok b), .send r.queue filled none] .delivered
  /-- The queue hands a buffer back, which goes to the pool. -/
  | queueFull {r : Route} {b filled refused : Buffer}
      (hwhole : ¬ (r.dropPartial = true ∧ frame.length < reported))
      (hfill : b.fill frame = .ok filled) (hcontents : filled.contents = frame) :
      Dealings frame reported (some r)
        [.acquire r.pool frame.length (.ok b), .send r.queue filled (some refused),
          .release r.pool refused] .queueFull

/-- Calls in which every buffer that was acquired, or handed back by a queue, is given away exactly
once before anything else happens, given the buffer in hand if there is one. -/
inductive Custody (frame : Bytes) : Option Buffer → List Call → Prop
  | done : Custody frame none []
  | refused {pool : PoolRef} {len : ℕ} {e : PoolError} {calls : List Call}
      (hrest : Custody frame none calls) :
      Custody frame none (.acquire pool len (.error e) :: calls)
  | acquired {pool : PoolRef} {len : ℕ} {b : Buffer} {calls : List Call}
      (hrest : Custody frame (some b) calls) :
      Custody frame none (.acquire pool len (.ok b) :: calls)
  /-- The buffer goes to a pool as it is. -/
  | released {pool : PoolRef} {b : Buffer} {calls : List Call} (hrest : Custody frame none calls) :
      Custody frame (some b) (.release pool b :: calls)
  /-- The buffer goes to a queue with the frame in it. -/
  | sent {queue : QueueRef} {b filled : Buffer} {back : Option Buffer} {calls : List Call}
      (hfill : b.fill frame = .ok filled) (hrest : Custody frame back calls) :
      Custody frame (some b) (.send queue filled back :: calls)

namespace Dealings

variable {frame : Bytes} {reported : ℕ} {target : Option Route} {calls : List Call} {o o' : Outcome}

/-- The calls tell the outcome. -/
theorem unique (h : Dealings frame reported target calls o)
    (h' : Dealings frame reported target calls o') : o = o' := by
  cases h with
  | exhausted hwhole hover =>
      cases h' with
      | exhausted => rfl
      | tooLong hwhole' hover' => omega
  | tooLong hwhole hover =>
      cases h' with
      | exhausted hwhole' hover' => omega
      | tooLong => rfl
  | _ => cases h'; rfl

/-- A frame that overflows does so by some bytes. -/
theorem outcome_ne_overflowed_zero (h : Dealings frame reported target calls o) :
    o ≠ .overflowed 0 := by
  cases h with
  | tooLong hwhole hover => exact fun hzero => hover.ne' (Outcome.overflowed.inj hzero)
  | short hwhole hshort =>
      exact fun hzero => (Nat.sub_pos_of_lt hshort).ne' (Outcome.overflowed.inj hzero)
  | _ => exact Outcome.noConfusion

/-- No buffer is lost, and none is given away twice. -/
theorem custody (h : Dealings frame reported target calls o) : Custody frame none calls := by
  cases h with
  | unmatched => exact .done
  | discarded hdiscard hcut => exact .done
  | exhausted hwhole hover => exact .refused .done
  | tooLong hwhole hover => exact .refused .done
  | short hwhole hshort => exact .acquired (.released .done)
  | delivered hwhole hfill hcontents => exact .acquired (.sent hfill .done)
  | queueFull hwhole hfill hcontents => exact .acquired (.sent hfill (.released .done))

end Dealings

/-- However an offer ends, these are the calls that it has made. -/
theorem Offered.dealings {env : Collaborators W} {r : Route} {frame : Bytes} {reported : ℕ}
    {s s' : W × List Call} {verdict : Verdict}
    (h : Offered env.recorded r frame reported s verdict s') :
    ∃ calls, s'.2 = s.2 ++ calls ∧ Dealings frame reported (some r) calls verdict.outcome := by
  cases h with
  | truncated hdiscard hcut => exact ⟨[], (List.append_nil _).symm, .discarded hdiscard hcut⟩
  | @refused e _ hwhole hacquire =>
      refine ⟨_, Collaborators.calls_of_acquire hacquire, ?_⟩
      by_cases hover : 0 < e.overflow
      · rw [if_pos hover]
        exact .tooLong hwhole hover
      · rw [if_neg hover]
        exact .exhausted hwhole (Nat.eq_zero_of_not_pos hover)
  | short hwhole hacquire hshort =>
      refine ⟨_, ?_, .short hwhole hshort⟩
      simp only [Collaborators.recorded, Collaborators.calls_of_acquire hacquire,
        List.append_assoc, List.singleton_append]
  | delivered hwhole hacquire hfill hsend =>
      refine ⟨_, ?_, .delivered hwhole hfill (Buffer.fill_ok hfill).2.1⟩
      rw [Collaborators.calls_of_send hsend, Collaborators.calls_of_acquire hacquire,
        List.append_assoc, List.singleton_append]
  | @queueFull b filled refused _ _ hwhole hacquire hfill hsend =>
      refine ⟨[.acquire r.pool frame.length (.ok b), .send r.queue filled (some refused),
        .release r.pool refused], ?_, .queueFull hwhole hfill (Buffer.fill_ok hfill).2.1⟩
      simp only [Collaborators.recorded, Collaborators.calls_of_send hsend,
        Collaborators.calls_of_acquire hacquire, List.append_assoc, List.cons_append,
        List.nil_append]

namespace Dispatcher

/-- The calls of a dispatch are those that the route of the frame allows. -/
theorem dealings (env : Collaborators W) (d : Dispatcher f) (frame : Bytes) (reported : ℕ) (w : W) :
    let dealt := d.handle env.recorded frame reported (w, [])
    Dealings frame reported ((d.resolve frame).map (·.2.route)) dealt.2.2.2 dealt.1.outcome := by
  intro dealt
  rcases hresolve : d.resolve frame with _ | ⟨slot, e⟩
  · obtain ⟨hverdict, -, hafter⟩ := handle_of_unresolved hresolve env.recorded reported (w, [])
    rw [Report.outcome, hverdict, hafter]
    exact .unmatched
  · obtain ⟨hverdict, -, hafter⟩ := handle_of_resolved hresolve env.recorded reported (w, [])
    obtain ⟨calls, hcalls, hdealings⟩ :=
      (Route.offered env.recorded e.route frame reported (w, [])).dealings
    rw [Report.outcome, hverdict, hafter, hcalls]
    exact hdealings

/-- **Collaborators are used linearly.**  Whatever pools and queues do, a dispatch makes calls on those
of the one route that the frame resolves to, in one of the few ways that there are, and what it tells
its caller is the outcome of these calls and of no others.  Every buffer that it gets is given away
exactly once, and a frame that overflows does so by some bytes. -/
theorem uses_collaborators_linearly (env : Collaborators W) (d : Dispatcher f) (frame : Bytes)
    (reported : ℕ) (w : W) :
    let dealt := d.handle env frame reported w
    ∃ calls,
      d.handle env.recorded frame reported (w, []) = (dealt.1, dealt.2.1, dealt.2.2, calls) ∧
      (∀ o, Dealings frame reported ((d.resolve frame).map (·.2.route)) calls o ↔
        o = dealt.1.outcome) ∧
      Custody frame none calls ∧ dealt.1.outcome ≠ .overflowed 0 := by
  intro dealt
  obtain ⟨hreport, hdispatcher, hworld⟩ :=
    d.handle_simulates env.recorded_simulates frame reported (v := (w, [])) (w := w) rfl
  have hdealings := d.dealings env frame reported w
  dsimp only at hdealings
  rw [hreport] at hdealings
  refine ⟨_, ?_, ?_, hdealings.custody, hdealings.outcome_ne_overflowed_zero⟩
  · rw [Prod.ext_iff, Prod.ext_iff, Prod.ext_iff]
    exact ⟨hreport, hdispatcher, hworld, rfl⟩
  · intro o
    constructor
    · exact fun ho => ho.unique hdealings
    · rintro rfl
      exact hdealings

end Dispatcher

end Demux
