import Mathlib
import Demux.Proofs.Accounting
import Demux.Proofs.Cleared
import Demux.Proofs.Likeness
import Demux.Proofs.Routing
import Demux.Proofs.Workers

/-!
# Diagnostics never influence dispatch

Whoever reads counters or sets them back to zero changes nothing for anybody else.  Sessions whose
dispatchers have the same routes are alike whatever was counted (`Likeness.ofRoutes`), and an operation
that is only diagnostic leaves a session alike to what it was (`diagnostic_step`), so such operations
can be left out of a run.

Right after a reset nothing is counted (`Dispatcher.Blank`), and a dispatcher on which nothing is
counted is known from its routes (`Blank.cleared_eq`), so it does not matter how it came to be so.
-/

namespace Demux

variable {f : Format}

/-- Pools and queues that are the same up to the journal. -/
def DataPlane.upToJournal : PlaneLikeness where
  look := id
  planes := Alike
  clear := congrArg Buffer.clear
  fill := Bytes.fillAlike_id
  acquire h view pool len := by
    obtain ⟨hresult, hafter⟩ := (alike_simulates view).acquire pool len _ _ h
    exact ⟨congrArg (Except.map id) hresult, hafter⟩
  release h hxy view pool := by
    obtain rfl : _ = _ := hxy
    exact (alike_simulates view).release pool _ _ _ h
  send h hxy queue := by
    obtain rfl : _ = _ := hxy
    obtain ⟨hrefused, hafter⟩ := (alike_simulates none).send queue _ _ _ h
    exact ⟨congrArg (Option.map id) hrefused, hafter⟩
  receive := by
    intro p q h queue
    obtain ⟨hp, hp'⟩ := receive_at queue p
    obtain ⟨hq, hq'⟩ := receive_at queue q
    rw [hp, hq, h.queues]
    refine ⟨rfl, ?_, ?_⟩
    · rw [pools_receive, pools_receive, h.pools]
    · rw [hp', hq', h.queues]
  note h event := alike_note h event event

/-- Everything that is to be seen of an answer is the answer. -/
theorem Answer.seen_id (answer : Answer) : answer.seen id = answer := by
  cases answer with
  | buffer b => exact congrArg Answer.buffer (Option.map_id_apply)
  | acquired result => cases result <;> rfl
  | sent back => exact congrArg Answer.sent (Option.map_id_apply)
  | _ => rfl

namespace Dispatcher

variable {d e : Dispatcher f}

/-- The same listeners in order, the same default route, and room for as many listeners, whatever was
counted. -/
structure SameRoutes (d e : Dispatcher f) : Prop where
  offset : d.offset = e.offset
  capacity : d.registry.capacity = e.registry.capacity
  table : d.registry.table = e.registry.table
  fallback : d.registry.fallback.map (·.route) = e.registry.fallback.map (·.route)

theorem sameRoutes_cleared (d : Dispatcher f) : d.cleared.SameRoutes d where
  offset := rfl
  capacity := rfl
  table := d.registry.table_resetCounters
  fallback := by
    simp [cleared, Registry.resetCounters, Function.comp_def]

theorem SameRoutes.cleared_eq (h : d.SameRoutes e) : d.cleared = e.cleared := by
  have hlisteners (r : Registry f) : r.resetCounters.listeners =
      r.table.map fun entry => ⟨entry.1, { route := entry.2 }⟩ := by
    simp [Registry.table, Registry.listeners_resetCounters, Registry.clearListener,
      Function.comp_def]
  have hfallback (r : Registry f) : r.resetCounters.fallback =
      (r.fallback.map (·.route)).map fun route => { route } := by
    rw [Option.map_map]
    rfl
  have hregistry : d.registry.resetCounters = e.registry.resetCounters := by
    refine Registry.ext h.capacity ?_ ?_
    · rw [hlisteners, hlisteners, h.table]
    · rw [hfallback, hfallback, h.fallback]
  simp only [cleared, h.offset, hregistry]

/-- Dispatchers have the same routes if a reset makes the same of them. -/
theorem sameRoutes_iff : d.SameRoutes e ↔ d.cleared = e.cleared := by
  constructor
  · exact SameRoutes.cleared_eq
  · intro h
    have hd := sameRoutes_cleared d
    have he := sameRoutes_cleared e
    rw [h] at hd
    exact ⟨hd.offset.symm.trans he.offset, hd.capacity.symm.trans he.capacity,
      hd.table.symm.trans he.table, hd.fallback.symm.trans he.fallback⟩

/-- Nothing is counted, in total or on any route. -/
structure Blank (d : Dispatcher f) : Prop where
  totals : d.totals = {}
  endpoints : ∀ e ∈ d.registry.endpoints, e.counters = 0

theorem blank_cleared (d : Dispatcher f) : d.cleared.Blank where
  totals := rfl
  endpoints := by
    intro e he
    obtain ⟨slot, hslot⟩ := (Registry.mem_endpoints_iff _ e).mp he
    rw [cleared, Registry.endpoint?_resetCounters] at hslot
    obtain ⟨_, -, rfl⟩ := Option.map_eq_some_iff.mp hslot
    rfl

/-- A reset does nothing where nothing is counted. -/
theorem Blank.cleared_eq (h : d.Blank) : d.cleared = d := by
  have hkeep {e : Endpoint} (he : e ∈ d.registry.endpoints) : { e with counters := {} } = e := by
    have hzero : e.counters = {} := h.endpoints e he
    rw [← hzero]
  have hlisteners : d.registry.listeners.map Registry.clearListener = d.registry.listeners := by
    refine (List.map_congr_left fun l hl => ?_).trans (List.map_id _)
    have hendpoint := hkeep (List.mem_append_left _ (List.mem_map_of_mem hl))
    simp only [Registry.clearListener, hendpoint, id]
  have hfallback : d.registry.resetCounters.fallback = d.registry.fallback := by
    cases hdefault : d.registry.fallback with
    | none => simp [Registry.resetCounters, hdefault]
    | some e =>
        have hendpoint := hkeep (List.mem_append_right _ (Option.mem_toList.mpr hdefault))
        simp only [Registry.resetCounters, hdefault, Option.map_some, hendpoint]
  have hregistry : d.registry.resetCounters = d.registry :=
    Registry.ext rfl hlisteners hfallback
  rcases d with ⟨offset, registry, totals⟩
  obtain rfl : totals = {} := h.totals
  simp only [cleared, hregistry]

theorem Blank.countersFor (h : d.Blank) (queue : QueueRef) : d.countersFor queue = 0 := by
  unfold Dispatcher.countersFor Registry.countersFor
  rw [DropCounters.sum_eq_sum]
  apply List.sum_eq_zero
  intro c hc
  obtain ⟨e, he, rfl⟩ := List.mem_map.mp hc
  exact h.endpoints e (List.mem_of_mem_filter he)

theorem Blank.isClear (h : d.Blank) : d.stats.isClear = true := by
  refine (isClear_stats_iff d).mpr ⟨?_, h.endpoints⟩
  rw [h.totals]
  exact ⟨rfl, rfl⟩

end Dispatcher

namespace Likeness

/-- The same dispatchers. -/
def ofCounters (f : Format) : Likeness f where
  toPlaneLikeness := DataPlane.upToJournal
  dispatchers := Eq
  actions := Eq
  perform := by
    intro d e x y p q hde hxy hpq
    subst hde hxy
    cases x with
    | handle frame reported =>
        obtain ⟨hreport, hafter, hplanes⟩ :=
          d.handle_simulates (DataPlane.alike_simulates none) frame reported hpq
        exact ⟨congrArg (fun r => Except.ok (DispatchEvent.frame r)) hreport, hafter, hplanes⟩
    | _ =>
        exact And.imp_right (And.imp_left And.left)
          (DataPlane.upToJournal.perform_alone d _ (by nofun) hpq _)

/-- Dispatchers with the same routes, whatever was counted. -/
def ofRoutes (f : Format) : Likeness f where
  toPlaneLikeness := DataPlane.upToJournal
  dispatchers d e := d.cleared = e.cleared
  actions := Eq
  perform := by
    intro d e x y p q hde hxy hpq
    -- Both dispatchers do what the one does that a reset makes of them.
    obtain ⟨hresult, hafter, hplanes⟩ := (ofCounters f).perform hde hxy hpq
    obtain ⟨hresult₁, hafter₁, hplanes₁⟩ :=
      d.perform_cleared (DataPlane.collaborators none) x p
    obtain ⟨hresult₂, hafter₂, hplanes₂⟩ :=
      e.perform_cleared (DataPlane.collaborators none) y q
    rw [hresult₁, hresult₂] at hresult
    rw [hplanes₁, hplanes₂] at hplanes
    exact ⟨hresult, hafter₁.symm.trans ((congrArg Dispatcher.cleared hafter).trans hafter₂), hplanes⟩

end Likeness

/-- Whether an operation only looks at the counters or sets them back to zero. -/
def Op.isDiagnostic : Op f → Bool
  | .act .resetCounters => true
  | op => op.isQuestion

theorem Op.isDiagnostic_of_isQuestion {op : Op f} (h : op.isQuestion = true) :
    op.isDiagnostic = true := by
  cases op with
  | act action => cases h
  | _ => exact h

/-- The answers to all other operations. -/
def answersBeside (ops : List (Op f)) (answers : List Answer) : List Answer :=
  ((ops.zip answers).filter fun x => !x.1.isDiagnostic).map (·.2)

namespace Session

open Likeness (ofRoutes ofCounters)

/-- An operation that is only diagnostic leaves a session alike to what it was. -/
theorem diagnostic_step {s t : Session f} (h : (ofRoutes f).Sessions s t)
    (hfree : s.station.lock.held = false) {op : Op f} (hop : op.isDiagnostic = true) :
    (ofRoutes f).Sessions (s.step op).2 t := by
  obtain ⟨⟨hroutes, hheld, hplanes⟩, hshelf, hworkers⟩ := h
  have hfree' : false = t.station.lock.held := hfree.symm.trans hheld
  cases op with
  | act action =>
      cases action with
      | resetCounters =>
          have hcleared : s.station.lock.value.cleared.cleared = t.station.lock.value.cleared :=
            (Dispatcher.cleared_idem _).trans hroutes
          exact ⟨⟨hcleared, hfree', hplanes.pools, hplanes.queues⟩, hshelf, hworkers⟩
      | _ => cases hop
  | countersFor queue => exact ⟨⟨hroutes, hfree', hplanes⟩, hshelf, hworkers⟩
  | stats => exact ⟨⟨hroutes, hfree', hplanes⟩, hshelf, hworkers⟩
  | tryStats => exact ⟨⟨hroutes, hheld, hplanes⟩, hshelf, hworkers⟩
  | _ => cases hop

/-- A run comes to the same without the operations that are only diagnostic. -/
theorem run_without_diagnostics {s t : Session f} (h : (ofRoutes f).Sessions s t)
    (hfree : s.station.lock.held = false) (ops : List (Op f)) :
    let rest := ops.filter (!·.isDiagnostic)
    answersBeside ops (s.run ops).1 = (t.run rest).1 ∧
      (ofRoutes f).Sessions (s.run ops).2 (t.run rest).2 := by
  induction ops generalizing s t with
  | nil => exact ⟨rfl, h⟩
  | cons op ops ih =>
      have hfree' : (s.step op).2.station.lock.held = false := free_run hfree [op]
      by_cases hop : op.isDiagnostic = true
      · obtain ⟨hanswers, hend⟩ := ih (diagnostic_step h hfree hop) hfree'
        simp only [run, answersBeside, List.zip_cons_cons, List.filter_cons, hop, Bool.not_true,
          Bool.false_eq_true, if_false]
        exact ⟨hanswers, hend⟩
      · have hquestion : op.isQuestion = true → (ofRoutes f).Exact :=
          fun hquestion => absurd (Op.isDiagnostic_of_isQuestion hquestion) hop
        obtain ⟨hanswer, hafter⟩ := h.step (Op.alike_self (fun _ => rfl) op) hquestion
        rw [show (ofRoutes f).look = id from rfl, Answer.seen_id, Answer.seen_id] at hanswer
        obtain ⟨hanswers, hend⟩ := ih hafter hfree'
        simp only [run, answersBeside, List.zip_cons_cons, List.filter_cons, hop, Bool.not_false,
          if_true, List.map_cons]
        exact ⟨congrArg₂ List.cons hanswer hanswers, hend⟩

/-- Held buffers that look the same when everything is looked at are the same. -/
theorem held_eq {s t : Session f} (h : s.held.Alike (fun x y => id x = id y) t.held) :
    s.held = t.held := by
  refine List.forall₂_eq_eq_eq.subst (motive := fun R => R s.held t.held) ?_
  exact h.imp fun x y hxy => Prod.ext hxy.1 hxy.2

/-- Sessions with the same dispatcher, and with the same pools and queues up to the journal, go on to
give the same answers and to count the same. -/
theorem run_of_same_counters {s t : Session f} (h : (ofCounters f).Sessions s t)
    (ops : List (Op f)) :
    (s.run ops).1 = (t.run ops).1 ∧ (ofCounters f).Sessions (s.run ops).2 (t.run ops).2 := by
  have hops : List.Forall₂ (Op.Alike (ofCounters f).actions) ops ops :=
    List.forall₂_same.mpr fun op _ => Op.alike_self (fun _ => rfl) op
  obtain ⟨hanswers, hend⟩ := h.run hops fun _ _ _ d e hde => hde
  have hlook : (fun answer : Answer => answer.seen (ofCounters f).look) = id :=
    funext Answer.seen_id
  rw [hlook, List.map_id, List.map_id] at hanswers
  exact ⟨hanswers, hend⟩

/-- A session in the place of another one, with the same routes, pools, queues, buffers and workers, but
with nothing counted. -/
structure Uncounted (fresh s : Session f) : Prop where
  routes : fresh.station.lock.value.SameRoutes s.station.lock.value
  blank : fresh.station.lock.value.Blank
  free : fresh.station.lock.held = false
  plane : s.station.plane.Alike fresh.station.plane
  held : fresh.held = s.held
  workers : fresh.workers = s.workers

/-- After a reset a session has the counters of one in its place with nothing counted. -/
theorem Uncounted.reset {fresh s : Session f} (h : fresh.Uncounted s) :
    (ofCounters f).Sessions (s.step (.act .resetCounters)).2 fresh where
  station := by
    refine ⟨?_, h.free.symm, h.plane.pools, h.plane.queues⟩
    have hcleared : s.station.lock.value.cleared = fresh.station.lock.value :=
      h.routes.cleared_eq.symm.trans h.blank.cleared_eq
    exact hcleared
  held := by
    rw [h.held]
    exact Shelf.alike_self (fun _ => rfl) _
  workers := by
    rw [h.workers]
    exact Likeness.workers_self (fun _ => rfl) _

/-- **Diagnostics never influence dispatch.**  At any point of a session, with any counters: if two
lists of operations differ only by operations that look at counters or reset them, everything else gets
the same answers, the same buffers are held, pools and queues are the same, and so are the routes.
Right after a reset nothing is counted in total, on any route or for any queue, and the routes are what
they were.  Whatever is done then, it is answered and counted as in a session in its place on which
nothing had been counted. -/
theorem diagnostics_never_influence_dispatch (dispatcher : Dispatcher f) (pools : List Pool)
    (queues : List Queue) (before : List (Op f)) :
    let s := ((Session.new dispatcher pools queues).run before).2
    let reset := (s.step (.act .resetCounters)).2
    let d := reset.station.lock.value
    (∀ ops ops' : List (Op f),
      ops.filter (!·.isDiagnostic) = ops'.filter (!·.isDiagnostic) →
      let a := s.run ops
      let b := s.run ops'
      answersBeside ops a.1 = answersBeside ops' b.1 ∧ a.2.held = b.2.held ∧
        a.2.station.plane.Alike b.2.station.plane ∧
        a.2.station.lock.value.SameRoutes b.2.station.lock.value) ∧
      (d.totals = {} ∧ (∀ slot e, d.registry.endpoint? slot = some e → e.counters = 0) ∧
        (∀ queue, d.countersFor queue = 0) ∧ d.stats.isClear = true ∧
        d.SameRoutes s.station.lock.value) ∧
      ∀ fresh : Session f, fresh.Uncounted s → ∀ more : List (Op f),
        (reset.run more).1 = (fresh.run more).1 ∧
          (reset.run more).2.station.lock.value = (fresh.run more).2.station.lock.value ∧
          (reset.run more).2.station.plane.Alike (fresh.run more).2.station.plane := by
  intro s reset d
  have hfree : s.station.lock.held = false := free_run rfl before
  have hself : (ofRoutes f).Sessions s s :=
    ⟨⟨rfl, rfl, rfl, rfl⟩, Shelf.alike_self (fun _ => rfl) _, Likeness.workers_self (fun _ => rfl) _⟩
  have hblank : d.Blank := s.station.lock.value.blank_cleared
  refine ⟨?_, ⟨hblank.totals, ?_, hblank.countersFor, hblank.isClear,
    s.station.lock.value.sameRoutes_cleared⟩, ?_⟩
  · intro ops ops' hsame a b
    obtain ⟨hanswers, hend⟩ := run_without_diagnostics hself hfree ops
    obtain ⟨hanswers', hend'⟩ := run_without_diagnostics hself hfree ops'
    rw [← hsame] at hanswers' hend'
    have hplanes : (s.run ops).2.station.plane.Alike _ := hend.station.planes
    have hplanes' : (s.run ops').2.station.plane.Alike _ := hend'.station.planes
    refine ⟨hanswers.trans hanswers'.symm, (held_eq hend.held).trans (held_eq hend'.held).symm,
      ⟨hplanes.pools.trans hplanes'.pools.symm, hplanes.queues.trans hplanes'.queues.symm⟩, ?_⟩
    have hroutes : a.2.station.lock.value.cleared = b.2.station.lock.value.cleared :=
      hend.station.dispatchers.trans hend'.station.dispatchers.symm
    exact Dispatcher.sameRoutes_iff.mpr hroutes
  · intro slot e he
    exact hblank.endpoints e ((Registry.mem_endpoints_iff _ e).mpr ⟨slot, he⟩)
  · intro fresh hfresh more
    obtain ⟨hanswers, hend⟩ := run_of_same_counters hfresh.reset more
    exact ⟨hanswers, hend.station.dispatchers, hend.station.planes⟩

/-- One listener that discards truncated frames. -/
def oneListener : List (Op (.integer .unsigned 1)) :=
  [.act (.addRoute 7#8 ⟨some 0, some 0, true⟩)]

/-- A frame that no route takes, and a truncated one. -/
def dropped : List (Op (.integer .unsigned 1)) := [.act (.handle [9] 1), .act (.handle [7] 5)]

/-- A truncated frame and a whole one, with somebody who looks at the counters and resets them. -/
def watched : List (Op (.integer .unsigned 1)) :=
  [.stats, .act (.handle [7] 5), .act .resetCounters, .act (.handle [7, 1] 2), .countersFor 0]

/-- The same frames, with a reset afterwards. -/
def unwatched : List (Op (.integer .unsigned 1)) :=
  [.act (.handle [7] 5), .act (.handle [7, 1] 2), .act .resetCounters, .tryStats]

/-- Nobody notices who looks at the counters, and after a reset they count as from the start. -/
theorem diagnostics_never_influence_dispatch_after_drops :
    let start : Session (.integer .unsigned 1) :=
      .new (.new 1) [.fixed (.new 1 2)] [.bounded (.new 1)]
    let s := (start.run (oneListener ++ dropped)).2
    let fresh := (start.run oneListener).2
    let reset := (s.step (.act .resetCounters)).2
    answersBeside watched (s.run watched).1 = answersBeside unwatched (s.run unwatched).1 ∧
      (reset.run watched).1 = (fresh.run watched).1 ∧
      (reset.run watched).2.station.lock.value = (fresh.run watched).2.station.lock.value := by
  intro start s fresh reset
  have hfresh : fresh.Uncounted s := by
    refine ⟨⟨rfl, rfl, by decide, by decide⟩, ⟨by decide, by decide⟩, rfl, ⟨by decide, by decide⟩,
      rfl, rfl⟩
  obtain ⟨hbeside, -, hlater⟩ := diagnostics_never_influence_dispatch (.new 1) [.fixed (.new 1 2)]
    [.bounded (.new 1)] (oneListener ++ dropped)
  obtain ⟨hanswers, -⟩ := hbeside watched unwatched rfl
  obtain ⟨hsame, hcounters, -⟩ := hlater fresh hfresh watched
  unfold reset s start
  exact ⟨hanswers, hsame, hcounters⟩

end Session

end Demux
