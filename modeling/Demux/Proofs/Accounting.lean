import Mathlib
import Demux.Proofs.Turns

/-!
# What the counters say

After every run the counters are the exact account of the frames dealt with since the last reset, as
far as tallies go: in total, and on every route for the frames that resolved to it when they were
dealt with.  The totals are also the sum over the routes, and the sum over the queues that the routes
lead to, even where some of these sums have saturated.

Both are carried by invariants of one turn: `Balanced` relates the counters to the calls, and the
losses of the registry stay equal to the total drops (`Turned.losses`).

A sum of counters that saturates at every step comes to the exact sum, clamped at the end
(`DropCounters.totals_sum`).  So it does not matter in which order routes are summed up, or whether
some of them are summed up before the others, and a sum is clear only if everything in it is.
-/

namespace Demux

namespace Dispatcher

variable {f : Format} {W : Type}

/-- The calls since the last reset, in order. -/
def callsSinceReset (deeds : List Deed) : List Call :=
  deeds.foldl (fun calls deed => match deed with
    | .registration => calls
    | .call c => calls ++ [c]
    | .reset => []) []

@[simp] theorem callsSinceReset_registration (deeds : List Deed) :
    callsSinceReset (deeds ++ [.registration]) = callsSinceReset deeds := by
  simp only [callsSinceReset, List.foldl_append, List.foldl_cons, List.foldl_nil]

@[simp] theorem callsSinceReset_call (deeds : List Deed) (c : Call) :
    callsSinceReset (deeds ++ [.call c]) = callsSinceReset deeds ++ [c] := by
  simp only [callsSinceReset, List.foldl_append, List.foldl_cons, List.foldl_nil]

@[simp] theorem callsSinceReset_reset (deeds : List Deed) :
    callsSinceReset (deeds ++ [.reset]) = [] := by
  simp only [callsSinceReset, List.foldl_append, List.foldl_cons, List.foldl_nil]

/-- What the callers were told about the frames that went to a place. -/
def outcomesAt (slot : Slot) (calls : List Call) : List Outcome :=
  (calls.filter (·.slot = some slot)).map (·.outcome)

/-- The counters are the account of the given calls. -/
structure Balanced (d : Dispatcher f) (calls : List Call) : Prop where
  unmatched : d.totals.unmatched.val = min Tally.limit (calls.countP (·.outcome = .unmatched))
  drops : d.totals.drops = DropCounters.lost (calls.map (·.outcome))
  routes : ∀ slot e, d.registry.endpoint? slot = some e →
    e.counters = DropCounters.lost (outcomesAt slot calls)
  /-- Frames went to routes that are still there. -/
  places : ∀ c ∈ calls, ∀ slot, c.slot = some slot → ∃ e, d.registry.endpoint? slot = some e

theorem balanced_nil {d : Dispatcher f} (htotals : d.totals = {})
    (hroutes : ∀ slot e, d.registry.endpoint? slot = some e → e.counters = 0) :
    Balanced d [] where
  unmatched := by rw [htotals]; rfl
  drops := by rw [htotals]; rfl
  routes := hroutes
  places := by simp

/-- A new route is balanced because no frame can have gone to it before it was there. -/
theorem Balanced.registered {d : Dispatcher f} {calls : List Call} (h : Balanced d calls)
    {registry : Registry f} (hextends : d.registry.Extends registry) :
    Balanced { d with registry } calls where
  unmatched := h.unmatched
  drops := h.drops
  routes := by
    intro slot e he
    rcases hextends.fresh slot e he with hold | ⟨hnew, hzero⟩
    · exact h.routes slot e hold
    · -- No frame can have gone to a place where there was no route.
      have hnone : calls.filter (·.slot = some slot) = [] := by
        apply List.filter_eq_nil_iff.mpr
        intro c hc
        simp only [decide_eq_true_eq]
        intro hslot
        obtain ⟨old, hold⟩ := h.places c hc slot hslot
        rw [hnew] at hold
        contradiction
      rw [hzero, outcomesAt, hnone]
      rfl
  places := by
    intro c hc slot hslot
    obtain ⟨e, he⟩ := h.places c hc slot hslot
    exact ⟨e, hextends.kept slot e he⟩

/-- A frame without a route counts nowhere but among the unmatched. -/
theorem Balanced.unmatched_call {d : Dispatcher f} {calls : List Call} (h : Balanced d calls) :
    Balanced { d with totals := d.totals.record .unmatched } (calls ++ [⟨none, .unmatched⟩]) where
  unmatched := by
    have htotals : (d.totals.record .unmatched).unmatched = d.totals.unmatched.add 1 := rfl
    simp only [htotals, Tally.val_add, h.unmatched, List.countP_append, List.countP_singleton,
      decide_true, if_true]
    omega
  drops := by
    have htotals : (d.totals.record .unmatched).drops = d.totals.drops := rfl
    have hloss : DropCounters.loss .unmatched = 0 := rfl
    rw [htotals, h.drops, List.map_append, List.map_singleton, DropCounters.lost_snoc, hloss,
      add_zero]
  routes := by
    intro slot e he
    rw [h.routes slot e he]
    simp [outcomesAt]
  places := by
    intro c hc slot hslot
    rcases List.mem_append.mp hc with hc | hc
    · exact h.places c hc slot hslot
    · rw [List.mem_singleton.mp hc] at hslot
      contradiction

/-- A frame that was offered to a route counts there and in total. -/
theorem Balanced.offered_call {d : Dispatcher f} {calls : List Call} (h : Balanced d calls)
    {slot : Slot} {e : Endpoint} {outcome : Outcome}
    (hplace : d.registry.endpoint? slot = some e) (houtcome : outcome ≠ .unmatched) :
    Balanced
      { d with
        registry := d.registry.record slot outcome
        totals := d.totals.record outcome }
      (calls ++ [⟨some slot, outcome⟩]) where
  unmatched := by
    simp only [GlobalCounters.unmatched_record houtcome, h.unmatched, List.countP_append, List.countP_singleton, houtcome,
      decide_false, Bool.false_eq_true, if_false, Nat.add_zero]
  drops := by
    rw [GlobalCounters.drops_record houtcome, DropCounters.record_eq_add_loss, h.drops,
      List.map_append, List.map_singleton, DropCounters.lost_snoc]
  routes := by
    intro other after hafter
    rw [Registry.endpoint?_record] at hafter
    obtain ⟨before, hbefore, rfl⟩ := Option.map_eq_some_iff.mp hafter
    have hcounters := h.routes other before hbefore
    by_cases hother : other = slot
    · subst hother
      have hcount : (Registry.count outcome before).counters =
          before.counters + DropCounters.loss outcome := DropCounters.record_eq_add_loss _ _
      rw [if_pos rfl, hcount, hcounters, ← DropCounters.lost_snoc]
      simp [outcomesAt]
    · have hslot : ¬ some slot = some other := fun heq => hother (Option.some.inj heq).symm
      rw [if_neg hother, hcounters]
      simp [outcomesAt, hslot]
  places := by
    intro c hc other hother
    have hold : ∃ before, d.registry.endpoint? other = some before := by
      rcases List.mem_append.mp hc with hc | hc
      · exact h.places c hc other hother
      · rw [List.mem_singleton.mp hc] at hother
        cases hother
        exact ⟨e, hplace⟩
    obtain ⟨before, hbefore⟩ := hold
    exact ⟨_, by rw [Registry.endpoint?_record, hbefore]; rfl⟩

/-- A turn keeps the books. -/
theorem Balanced.turned {d d' : Dispatcher f} {deeds : List Deed} {deed : Deed}
    (h : Balanced d (callsSinceReset deeds)) (hturned : Turned d deed d') :
    Balanced d' (callsSinceReset (deeds ++ [deed])) := by
  cases hturned with
  | refused => simpa using h
  | registered hextends => simpa using h.registered hextends
  | unmatched => simpa using h.unmatched_call
  | offered hplace houtcome => simpa using h.offered_call hplace houtcome
  | reset =>
      rw [callsSinceReset_reset]
      apply balanced_nil rfl
      intro slot e he
      rw [Registry.endpoint?_resetCounters] at he
      obtain ⟨_, -, rfl⟩ := Option.map_eq_some_iff.mp he
      rfl

theorem endpoint?_new (capacity offset : Nat) (slot : Slot) :
    (Dispatcher.new capacity offset : Dispatcher f).registry.endpoint? slot = none := by
  cases slot <;> rfl

theorem balanced_run (env : Collaborators W) (capacity offset : Nat) (turns : List (Turn f W)) :
    let d : Dispatcher f := .new capacity offset
    Balanced (d.run env turns) (callsSinceReset (d.deeds env turns)) := by
  intro d
  refine run_induction (motive := fun past d => Balanced d (callsSinceReset past)) env d ?_ ?_ turns
  · apply balanced_nil rfl
    intro slot e he
    rw [endpoint?_new] at he
    contradiction
  · intro past d deed d' hturned h
    exact h.turned hturned

/-- Statistics are clear exactly when nothing was counted, in total or on any route. -/
theorem isClear_stats_iff (d : Dispatcher f) :
    d.stats.isClear = true ↔ (d.totals.drops = 0 ∧ d.totals.unmatched.val = 0) ∧
      ∀ e ∈ d.registry.endpoints, e.counters = 0 := by
  have hlisteners : (d.stats.listeners.all (·.counters.isClear)) =
      ((d.registry.endpoints.map (·.counters)).all DropCounters.isClear) := by
    rw [← Registry.counters_listenerStats, List.all_map]
    rfl
  simp only [Stats.isClear, hlisteners, Bool.and_eq_true, List.all_map, List.all_eq_true,
    Function.comp_apply, DropCounters.isClear_iff, beq_iff_eq]
  rfl

/-- Statistics are clear exactly when every call since the last reset was delivered. -/
theorem Balanced.isClear_iff {d : Dispatcher f} {calls : List Call} (h : Balanced d calls) :
    d.stats.isClear = true ↔ ∀ c ∈ calls, c.outcome = .delivered := by
  rw [isClear_stats_iff]
  constructor
  · rintro ⟨⟨hdrops, hunmatched⟩, -⟩ c hc
    rw [h.drops, DropCounters.lost_eq_zero_iff] at hdrops
    rcases hdrops c.outcome (List.mem_map_of_mem hc) with hdelivered | hlost
    · exact hdelivered
    · rw [h.unmatched] at hunmatched
      have hpos : 0 < calls.countP (·.outcome = .unmatched) :=
        List.countP_pos_iff.mpr ⟨c, hc, by simpa using hlost⟩
      simp only [Tally.limit] at hunmatched
      omega
  · intro hall
    refine ⟨⟨?_, ?_⟩, ?_⟩
    · rw [h.drops, DropCounters.lost_eq_zero_iff]
      intro o ho
      obtain ⟨c, hc, rfl⟩ := List.mem_map.mp ho
      exact Or.inl (hall c hc)
    · have hnone : calls.countP (·.outcome = .unmatched) = 0 := by
        apply List.countP_eq_zero.mpr
        intro c hc
        simp [hall c hc]
      rw [h.unmatched, hnone]
      rfl
    · intro e he
      obtain ⟨slot, hslot⟩ := (Registry.mem_endpoints_iff _ e).mp he
      rw [h.routes slot e hslot, DropCounters.lost_eq_zero_iff]
      intro o ho
      obtain ⟨c, hc, rfl⟩ := List.mem_map.mp ho
      exact Or.inl (hall c (List.mem_of_mem_filter hc))

/-- **The counters account for the calls.**  After any run of a new dispatcher, with any pools and
queues, every counter is the exact count over the calls since the last reset, clamped to what a tally
holds: in total over all calls, and on each route over the calls that resolved to it at the time. -/
theorem counters_account_for_calls (env : Collaborators W) (capacity offset : Nat)
    (turns : List (Turn f W)) :
    let start : Dispatcher f := .new capacity offset
    let d := start.run env turns
    let calls := callsSinceReset (start.deeds env turns)
    d.totals.unmatched.val = min Tally.limit (calls.countP (·.outcome = .unmatched)) ∧
      d.totals.drops.Counts (calls.map (·.outcome)) ∧
      (∀ slot e, d.registry.endpoint? slot = some e → e.counters.Counts (outcomesAt slot calls)) ∧
      (d.stats.isClear = true ↔ ∀ c ∈ calls, c.outcome = .delivered) := by
  intro start d calls
  have h : Balanced d calls := balanced_run env capacity offset turns
  refine ⟨h.unmatched, ?_, ?_, h.isClear_iff⟩
  · rw [h.drops]
    exact DropCounters.counts_lost _
  · intro slot e he
    rw [h.routes slot e he]
    exact DropCounters.counts_lost _

/-- A pool that refuses every request as too large, by more bytes than a tally can hold. -/
def boastful : Collaborators Unit where
  acquire _ len _ := (.error (.tooLarge (len + 18446744073709551615) len), ())
  release _ _ _ := ()
  send _ b _ := (some b, ())

/-- One listener that discards truncated frames, a default route to another queue, and frames for
both of them before and after a reset. -/
def boastfulTurns : List (Turn (.integer .unsigned 1) Unit) :=
  [⟨.addRoute (7 : BitVec 8) ⟨some 0, some 0, true⟩, ()⟩,
    ⟨.handle [9] 1, ()⟩,
    ⟨.setDefault ⟨some 0, some 1, false⟩, ()⟩,
    ⟨.handle [7] 1, ()⟩,
    ⟨.resetCounters, ()⟩,
    ⟨.handle [7, 1] 2, ()⟩,
    ⟨.handle [7] 2, ()⟩,
    ⟨.handle [9] 1, ()⟩]

/-- The listener has one drop and one truncated frame, and its overflow has saturated. -/
theorem counters_account_for_boastful_calls :
    let start : Dispatcher (.integer .unsigned 1) := .new 1
    let d := start.run boastful boastfulTurns
    let calls := callsSinceReset (start.deeds boastful boastfulTurns)
    let e : Endpoint := ⟨⟨0, 0, true⟩,
      ⟨⟨1, by decide⟩, ⟨1, by decide⟩, ⟨Tally.limit, Nat.le_refl _⟩⟩⟩
    d.registry.endpoint? (.listener 0) = some e ∧
      outcomesAt (.listener 0) calls = [.overflowed 18446744073709551615, .droppedPartial] ∧
      e.counters.Counts (outcomesAt (.listener 0) calls) := by
  intro start d calls e
  have he : d.registry.endpoint? (.listener 0) = some e := by decide +kernel
  exact ⟨he, by decide +kernel,
    (counters_account_for_calls boastful 1 0 boastfulTurns).2.2.1 (.listener 0) e he⟩

/-- The sum over groups is the sum over everything, if the groups are distinct and cover it. -/
theorem sum_over_groups {α κ M : Type} [DecidableEq κ] [AddCommMonoid M] (key : α → κ) (g : α → M)
    {groups : List κ} (hdistinct : groups.Nodup) {xs : List α}
    (hcover : ∀ x ∈ xs, key x ∈ groups) :
    (groups.map fun k => ((xs.filter (key · = k)).map g).sum).sum = (xs.map g).sum := by
  induction xs with
  | nil => simp
  | cons x xs ih =>
      have hx : key x ∈ groups := hcover x List.mem_cons_self
      have hrest := ih fun y hy => hcover y (List.mem_cons_of_mem x hy)
      have hhead (k : κ) : (((x :: xs).filter (key · = k)).map g).sum =
          (if key x = k then g x else 0) + ((xs.filter (key · = k)).map g).sum := by
        by_cases hk : key x = k <;> simp [hk]
      have honce : (groups.map fun k => if key x = k then g x else 0).sum = g x := by
        rw [← List.sum_toFinset _ hdistinct, Finset.sum_ite_eq, if_pos (List.mem_toFinset.mpr hx)]
      simp only [hhead, List.sum_map_add, honce, hrest, List.map_cons, List.sum_cons]

/-- The totals of a dispatcher stay the sum over its routes, whatever a turn does. -/
theorem Turned.losses {d d' : Dispatcher f} {deed : Deed} (hturned : Turned d deed d')
    (h : d.totals.drops = d.registry.losses) : d'.totals.drops = d'.registry.losses := by
  cases hturned with
  | refused => exact h
  | registered hextends => exact h.trans hextends.losses.symm
  | unmatched => exact h
  | @offered slot e outcome hplace houtcome =>
      rw [GlobalCounters.drops_record houtcome, DropCounters.record_eq_add_loss, h,
        ← Registry.losses_record hplace]
  | reset => exact (Registry.losses_resetCounters d.registry).symm

theorem totals_run (env : Collaborators W) (capacity offset : Nat) (turns : List (Turn f W)) :
    let d := (Dispatcher.new capacity offset : Dispatcher f).run env turns
    d.totals.drops = d.registry.losses := by
  refine run_induction (motive := fun _ d => d.totals.drops = d.registry.losses) env
    (.new capacity offset) rfl ?_ turns
  intro past d deed d' hturned h
  exact hturned.losses h

theorem listenerTotals_stats (d : Dispatcher f) : d.stats.listenerTotals = d.registry.losses := by
  rw [Stats.listenerTotals, DropCounters.sum_eq_sum, stats, Registry.counters_listenerStats]
  rfl

/-- The counters for the queues that some route leads to sum up to those of all routes. -/
theorem sum_countersFor (d : Dispatcher f) :
    DropCounters.sum
        ((d.registry.endpoints.map (·.route.queue)).dedup.map d.countersFor) =
      d.registry.losses := by
  have hgroup : d.countersFor = fun q : QueueRef =>
      ((d.registry.endpoints.filter (·.route.queue = q)).map (·.counters)).sum := by
    funext q
    exact DropCounters.sum_eq_sum _
  rw [DropCounters.sum_eq_sum, hgroup]
  apply sum_over_groups (fun e : Endpoint => e.route.queue) (fun e => e.counters)
    (List.nodup_dedup _)
  intro e he
  exact List.mem_dedup.mpr (List.mem_map_of_mem he)

/-- **The totals are the sum over the routes and over the queues.**  After any run of a new
dispatcher, with any pools and queues, the total drops equal the sum of the counters of all routes,
and the sum of the per-queue counters over the distinct queues that some route leads to; for any
other queue the counters are zero. -/
theorem totals_eq_sum_of_routes (env : Collaborators W) (capacity offset : Nat)
    (turns : List (Turn f W)) :
    let d := (Dispatcher.new capacity offset : Dispatcher f).run env turns
    let queues := (d.registry.endpoints.map (·.route.queue)).dedup
    d.stats.global.drops = d.stats.listenerTotals ∧
      DropCounters.sum (queues.map d.countersFor) = d.stats.global.drops ∧
      ∀ q, q ∉ queues → d.countersFor q = DropCounters.zero := by
  intro d queues
  have htotals : d.stats.global.drops = d.registry.losses := totals_run env capacity offset turns
  refine ⟨?_, ?_, ?_⟩
  · rw [htotals, listenerTotals_stats]
  · rw [htotals, ← sum_countersFor d]
  · intro q hq
    have hnone : d.registry.endpoints.filter (·.route.queue = q) = [] := by
      apply List.filter_eq_nil_iff.mpr
      intro e he hqueue
      exact hq (List.mem_dedup.mpr (List.mem_map.mpr ⟨e, he, of_decide_eq_true hqueue⟩))
    rw [countersFor, Registry.countersFor, hnone]
    rfl

/-- Two routes lead to queues 0 and 1, and none to queue 2. -/
theorem totals_eq_sum_of_boastful_routes :
    let d := (Dispatcher.new 1).run boastful boastfulTurns
    let queues := (d.registry.endpoints.map (·.route.queue)).dedup
    queues = [0, 1] ∧ 2 ∉ queues ∧ d.countersFor 2 = DropCounters.zero := by
  intro d queues
  have hqueues : queues = [0, 1] := by decide +kernel
  have hnone : 2 ∉ queues := by rw [hqueues]; decide
  exact ⟨hqueues, hnone,
    (totals_eq_sum_of_routes boastful 1 0 boastfulTurns).2.2 2 hnone⟩

end Dispatcher

/-- Tallies that are added one after another come to the clamp of the exact sum. -/
theorem Tally.val_sum (ts : List Tally) : ts.sum.val = min limit (ts.map val).sum := by
  induction ts with
  | nil => rfl
  | cons t ts ih =>
      rw [List.sum_cons, add_val, ih, List.map_cons, List.sum_cons]
      omega

namespace DropCounters

/-- Counters that are the exact sums of others, field by field, as far as tallies go. -/
structure Totals (total : DropCounters) (cs : List DropCounters) : Prop where
  dropped : total.dropped.val = min Tally.limit (cs.map (·.dropped.val)).sum
  partials : total.partials.val = min Tally.limit (cs.map (·.partials.val)).sum
  overflow : total.overflow.val = min Tally.limit (cs.map (·.overflow.val)).sum

/-- A field that is added up by itself is clamped once. -/
theorem val_field_sum (field : DropCounters →+ Tally) (cs : List DropCounters) :
    (field cs.sum).val = min Tally.limit (cs.map fun c => (field c).val).sum := by
  rw [map_list_sum, Tally.val_sum, List.map_map]
  rfl

theorem totals_sum (cs : List DropCounters) : (DropCounters.sum cs).Totals cs := by
  rw [sum_eq_sum]
  exact ⟨val_field_sum ⟨⟨dropped, rfl⟩, add_dropped⟩ cs,
    val_field_sum ⟨⟨partials, rfl⟩, add_partials⟩ cs,
    val_field_sum ⟨⟨overflow, rfl⟩, add_overflow⟩ cs⟩

end DropCounters

namespace Stats

/-- **Totals are the exact sums, clamped once.**  Each total of a snapshot is the exact sum over its
routes, as far as a tally goes.  It is the same in whatever order the routes stand, the totals of two
lists of routes add up to those of both together, and they are clear exactly when every route is.  The
counters for a queue are the exact sums over the routes that lead to it, clamped in the same way. -/
theorem totals_clamp_exact_sums :
    (∀ s : Stats, s.listenerTotals.Totals (s.listeners.map (·.counters))) ∧
    (∀ s t : Stats, s.listeners.Perm t.listeners → s.listenerTotals = t.listenerTotals) ∧
    (∀ global first second, (Stats.mk global (first ++ second)).listenerTotals =
      (Stats.mk global first).listenerTotals.accumulate (Stats.mk global second).listenerTotals) ∧
    (∀ {f : Format} (d : Dispatcher f) (queue : QueueRef), (d.countersFor queue).Totals
      ((d.registry.endpoints.filter (·.route.queue = queue)).map (·.counters))) ∧
    ∀ s : Stats, s.listenerTotals.isClear = true ↔
      ∀ listener ∈ s.listeners, listener.counters.isClear = true := by
  refine ⟨fun s => DropCounters.totals_sum _, ?_, ?_, fun d queue => DropCounters.totals_sum _, ?_⟩
  · intro s t hperm
    rw [listenerTotals, listenerTotals, DropCounters.sum_eq_sum, DropCounters.sum_eq_sum]
    exact (hperm.map _).sum_eq
  · intro global first second
    simp only [listenerTotals, DropCounters.sum_eq_sum, List.map_append, List.sum_append]
    rfl
  · intro s
    rw [DropCounters.isClear_iff, listenerTotals, DropCounters.sum_eq_sum,
      DropCounters.sum_eq_zero_iff, List.forall_mem_map]
    simp only [DropCounters.isClear_iff]

/-- Three routes whose dropped frames fit into a tally route by route, but not together. -/
def crowdedRoutes : List ListenerStats :=
  [⟨some "7", false, ⟨⟨4294967290, by decide⟩, ⟨1, by decide⟩, ⟨Tally.limit, by decide⟩⟩⟩,
    ⟨some "9", true, ⟨⟨6, by decide⟩, ⟨2, by decide⟩, ⟨8, by decide⟩⟩⟩,
    ⟨none, false, ⟨⟨4, by decide⟩, ⟨3, by decide⟩, ⟨0, by decide⟩⟩⟩]

theorem totals_clamp_exact_sums_of_crowded_routes :
    let s : Stats := ⟨.zero, crowdedRoutes⟩
    let t : Stats := ⟨.zero, crowdedRoutes.reverse⟩
    s.listeners.Perm t.listeners ∧ s.listenerTotals = t.listenerTotals ∧
      s.listenerTotals.dropped.val = Tally.limit ∧ s.listenerTotals.partials.val = 6 := by
  intro s t
  obtain ⟨hexact, horder, -⟩ := totals_clamp_exact_sums
  have hperm : s.listeners.Perm t.listeners := crowdedRoutes.reverse_perm.symm
  exact ⟨hperm, horder s t hperm, (hexact s).dropped.trans (by decide),
    (hexact s).partials.trans (by decide)⟩

end Stats

end Demux
