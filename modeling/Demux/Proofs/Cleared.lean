import Mathlib
import Demux.Proofs.Offer
import Demux.Proofs.Routes

/-!
# Counters decide nothing

Where a frame goes, whether a registration is accepted and what a caller is told depend on the routes
and on the pools and queues, and never on what was counted.  To say so, a dispatcher is compared with
what a reset makes of it (`Dispatcher.cleared`): two dispatchers with the same routes are cleared to the
same one, and then frames have the same destinations (`destination_congr`) and registrations the same
results (`Registry.add_resetCounters`, `Registry.setDefault_resetCounters`).

Dealing with a frame changes counters only (`handle_counted`, `cleared_counted`).

A registry is known by its routes and by what was counted at every place (`Registry.ext_places`).  So it
does not matter which of two outcomes is counted first, also where the tallies saturate, and a delivered
frame leaves no trace.
-/

namespace Demux

theorem DropCounters.record_comm (c : DropCounters) (o o' : Outcome) :
    (c.record o).record o' = (c.record o').record o := by
  simp only [record_eq_add_loss]
  abel

theorem GlobalCounters.record_comm (g : GlobalCounters) (o o' : Outcome) :
    (g.record o).record o' = (g.record o').record o := by
  have hdrops := DropCounters.record_comm g.drops o o'
  cases o <;> cases o' <;> first | rfl | exact congrArg (GlobalCounters.mk · g.unmatched) hdrops

namespace Registry

variable {f : Format}

theorem ext {r s : Registry f} (hcapacity : r.capacity = s.capacity)
    (hlisteners : r.listeners = s.listeners) (hfallback : r.fallback = s.fallback) : r = s := by
  cases r
  cases s
  simp only [mk.injEq]
  exact ⟨hcapacity, hlisteners, hfallback⟩

/-- Where frames with an identifier go: the place of the route and the route itself. -/
def destination (r : Registry f) (id : Option f.Value) : Option (Slot × Route) :=
  (r.resolve id).map fun found => (found.1, found.2.route)

/-- A listener with its counters back to zero. -/
def clearListener (l : Listener f) : Listener f :=
  { l with endpoint := { l.endpoint with counters := {} } }

theorem listeners_resetCounters (r : Registry f) :
    r.resetCounters.listeners = r.listeners.map clearListener := rfl

/-- What was counted at a place is gone after a reset. -/
@[simp] theorem resetCounters_record (r : Registry f) (slot : Slot) (o : Outcome) :
    (r.record slot o).resetCounters = r.resetCounters := by
  cases slot with
  | listener index =>
      refine ext rfl ?_ rfl
      rw [listeners_resetCounters, listeners_resetCounters]
      apply List.ext_getElem?
      intro i
      by_cases hi : index = i
      · subst hi
        simp only [record, List.getElem?_map, List.getElem?_modify_eq]
        cases r.listeners[index]? <;> rfl
      · simp only [record, List.getElem?_map, List.getElem?_modify_ne _ _ hi]
  | fallback =>
      refine ext rfl rfl ?_
      simp [resetCounters, record, Function.comp_def]

theorem resetCounters_idem (r : Registry f) : r.resetCounters.resetCounters = r.resetCounters := by
  refine ext rfl ?_ ?_
  · simp [listeners_resetCounters, clearListener, Function.comp_def]
  · simp [resetCounters, Function.comp_def]

/-- The place of the route for an identifier does not depend on the counters. -/
theorem slotFor?_resetCounters (r : Registry f) (id : Option f.Value) :
    r.resetCounters.slotFor? id = r.slotFor? id := by
  cases id with
  | none => simp [slotFor?, resetCounters, Function.comp_def]
  | some id => simp [slotFor?, resetCounters, List.findIdx?_map, Function.comp_def]

theorem destination_resetCounters (r : Registry f) (id : Option f.Value) :
    r.resetCounters.destination id = r.destination id := by
  unfold destination resolve
  rw [slotFor?_resetCounters]
  cases r.slotFor? id with
  | none => rfl
  | some slot =>
      simp only [Option.bind_eq_bind, Option.bind_some, endpoint?_resetCounters]
      cases r.endpoint? slot <;> rfl

/-- A listener is accepted whatever was counted, and nothing is counted on it yet. -/
theorem add_resetCounters (r : Registry f) (id : f.Value) (draft : Draft) :
    r.resetCounters.add id draft = (r.add id draft).map resetCounters := by
  unfold add
  cases draft.build with
  | error e => rfl
  | ok route =>
      by_cases hroom : r.listeners.length < r.capacity
      · have hroom' : r.resetCounters.listeners.length < r.resetCounters.capacity := by
          simpa [resetCounters] using hroom
        simp only [dif_pos hroom, dif_pos hroom', Except.map, Except.ok.injEq]
        exact ext rfl (by simp [listeners_resetCounters, clearListener]) rfl
      · have hroom' : ¬ r.resetCounters.listeners.length < r.resetCounters.capacity := by
          simpa [resetCounters] using hroom
        simp only [dif_neg hroom, dif_neg hroom']
        rfl

/-- A default route is accepted whatever was counted, and nothing is counted on it yet. -/
theorem setDefault_resetCounters (r : Registry f) (draft : Draft) :
    r.resetCounters.setDefault draft = (r.setDefault draft).map resetCounters := by
  have hsome : r.resetCounters.fallback.isSome = r.fallback.isSome := by
    simp [resetCounters]
  unfold setDefault
  rw [hsome]
  by_cases hset : r.fallback.isSome = true
  · rw [if_pos hset, if_pos hset]
    rfl
  · rw [if_neg hset, if_neg hset]
    cases draft.build with
    | error e => rfl
    | ok route => exact congrArg Except.ok (ext rfl rfl rfl)

/-- Two registries with the same routes are the same if they have counted the same at every place. -/
theorem ext_places {r s : Registry f} (hroutes : r.resetCounters = s.resetCounters)
    (hplaces : ∀ slot, r.endpoint? slot = s.endpoint? slot) : r = s := by
  have hcapacity : r.resetCounters.capacity = s.resetCounters.capacity := congrArg capacity hroutes
  have hcleared : r.listeners.map clearListener = s.listeners.map clearListener :=
    congrArg listeners hroutes
  refine ext hcapacity (List.ext_getElem? fun i => ?_) (hplaces .fallback)
  have hlistener := congrArg (·[i]?) hcleared
  have hplace := hplaces (.listener i)
  simp only [List.getElem?_map, endpoint?] at hlistener hplace
  rcases hr : r.listeners[i]? with _ | ⟨id, e⟩ <;> rcases hs : s.listeners[i]? with _ | ⟨id', e'⟩ <;>
    simp_all [clearListener]

theorem record_comm (r : Registry f) (slot slot' : Slot) (o o' : Outcome) :
    (r.record slot o).record slot' o' = (r.record slot' o').record slot o := by
  have hcount (e : Endpoint) : count o' (count o e) = count o (count o' e) :=
    congrArg (Endpoint.mk e.route) (DropCounters.record_comm e.counters o o')
  refine ext_places (by simp only [resetCounters_record]) fun other => ?_
  simp only [endpoint?_record, Option.map_map]
  congr 1
  funext e
  simp only [Function.comp_apply]
  split_ifs
  · exact hcount e
  all_goals rfl

@[simp] theorem record_delivered (r : Registry f) (slot : Slot) : r.record slot .delivered = r := by
  have hcount : count .delivered = id := rfl
  refine ext_places (resetCounters_record r slot _) fun other => ?_
  rw [endpoint?_record, hcount]
  simp only [id_eq, ite_self, Option.map_id']

end Registry

namespace Dispatcher

variable {f : Format} {V W : Type}

/-- A dispatcher with all its counters back to zero. -/
def cleared (d : Dispatcher f) : Dispatcher f :=
  { d with registry := d.registry.resetCounters, totals := {} }

/-- A dispatcher with one more outcome counted, at a place if the frame had one. -/
def counted (d : Dispatcher f) (o : Outcome) : Option Slot → Dispatcher f
  | none => { d with totals := d.totals.record o }
  | some slot =>
      { d with
        registry := d.registry.record slot o
        totals := d.totals.record o }

/-- Where a frame goes: the place of the route and the route itself. -/
def destination (d : Dispatcher f) (frame : Bytes) : Option (Slot × Route) :=
  d.registry.destination (f.readAt frame d.offset)

theorem cleared_idem (d : Dispatcher f) : d.cleared.cleared = d.cleared := by
  simp only [cleared, Registry.resetCounters_idem]

/-- Counting changes counters only. -/
@[simp] theorem cleared_counted (d : Dispatcher f) (o : Outcome) (place : Option Slot) :
    (d.counted o place).cleared = d.cleared := by
  cases place with
  | none => rfl
  | some slot => simp only [cleared, counted, Registry.resetCounters_record]

/-- Two dispatchers with the same routes read the identifier at the same offset. -/
theorem offset_congr {d e : Dispatcher f} (h : d.cleared = e.cleared) : d.offset = e.offset := by
  have hcleared : d.cleared.offset = e.cleared.offset := by rw [h]
  exact hcleared

/-- Two dispatchers with the same routes send an identifier to the same place. -/
theorem destination_congr {d e : Dispatcher f} (h : d.cleared = e.cleared)
    (id : Option f.Value) : d.registry.destination id = e.registry.destination id := by
  have hregistry : d.registry.resetCounters = e.registry.resetCounters :=
    congrArg Dispatcher.registry h
  rw [← Registry.destination_resetCounters d.registry, hregistry,
    Registry.destination_resetCounters]

/-- The destination of a frame is the place and the route that it resolves to. -/
theorem destination_eq (d : Dispatcher f) (frame : Bytes) :
    d.destination frame = (d.resolve frame).map fun found => (found.1, found.2.route) := rfl

/-- Dealing with a frame counts the outcome at its destination, and does nothing else to the
dispatcher. -/
theorem handle_counted (env : Collaborators W) (d : Dispatcher f) (frame : Bytes) (reported : ℕ)
    (w : W) :
    (d.handle env frame reported w).2.1 =
      d.counted (d.handle env frame reported w).1.outcome ((d.destination frame).map (·.1)) := by
  rw [destination_eq]
  rcases hresolve : d.resolve frame with _ | ⟨slot, e⟩
  · obtain ⟨hverdict, hafter, -⟩ := handle_of_unresolved hresolve env reported w
    rw [hafter, Report.outcome, hverdict]
    rfl
  · obtain ⟨hverdict, hafter, -⟩ := handle_of_resolved hresolve env reported w
    rw [hafter, Report.outcome, hverdict]
    rfl

/-- Dealing with a frame changes counters only. -/
theorem cleared_handle (env : Collaborators W) (d : Dispatcher f) (frame : Bytes) (reported : ℕ)
    (w : W) : (d.handle env frame reported w).2.1.cleared = d.cleared := by
  rw [handle_counted, cleared_counted]

/-- Two dispatchers with the same routes deal alike with two frames that have one identifier and one
length, if an offer of the frames to their route comes to the same. -/
theorem handle_lockstep {d e : Dispatcher f} (hroutes : d.cleared = e.cleared)
    {frame frame' : Bytes} (hid : f.readAt frame d.offset = f.readAt frame' d.offset)
    (hlength : frame.length = frame'.length) {a : Collaborators V} {b : Collaborators W}
    {R : V → W → Prop} (reported : ℕ) {v : V} {w : W} (hvw : R v w)
    (hoffer : ∀ slot r, d.destination frame = some (slot, r) →
      (r.offer a frame reported v).1 = (r.offer b frame' reported w).1 ∧
        R (r.offer a frame reported v).2 (r.offer b frame' reported w).2) :
    (d.handle a frame reported v).1 = (e.handle b frame' reported w).1 ∧
      R (d.handle a frame reported v).2.2 (e.handle b frame' reported w).2.2 := by
  have hid' : f.readAt frame d.offset = f.readAt frame' e.offset := by
    rw [hid, offset_congr hroutes]
  have hsame : d.destination frame = e.destination frame' := by
    unfold destination
    rw [hid', destination_congr hroutes]
  rcases hd : d.resolve frame with _ | ⟨slot, x⟩ <;>
    rcases he : e.resolve frame' with _ | ⟨slot', y⟩ <;>
    simp only [destination_eq, hd, he, Option.map_none, Option.map_some, Option.some.injEq,
      Prod.mk.injEq, reduceCtorEq] at hsame
  · simp only [handle, hd, he, hid', hlength]
    exact ⟨trivial, hvw⟩
  · obtain ⟨-, hroute⟩ := hsame
    obtain ⟨hverdict, hafter⟩ := hoffer slot x.route (by rw [destination_eq, hd]; rfl)
    simp only [handle, hd, he, hid', hlength, ← hroute, hverdict]
    exact ⟨trivial, hafter⟩

/-- A dispatcher deals alike with two frames that have one identifier and one length, and counts the
same, if an offer of the frames to their route comes to the same. -/
theorem handle_matched (d : Dispatcher f) {frame frame' : Bytes}
    (hid : f.readAt frame d.offset = f.readAt frame' d.offset)
    (hlength : frame.length = frame'.length) {a : Collaborators V} {b : Collaborators W}
    {R : V → W → Prop} (reported : ℕ) {v : V} {w : W} (hvw : R v w)
    (hoffer : ∀ r : Route, (r.offer a frame reported v).1 = (r.offer b frame' reported w).1 ∧
      R (r.offer a frame reported v).2 (r.offer b frame' reported w).2) :
    (d.handle a frame reported v).1 = (d.handle b frame' reported w).1 ∧
      (d.handle a frame reported v).2.1 = (d.handle b frame' reported w).2.1 ∧
      R (d.handle a frame reported v).2.2 (d.handle b frame' reported w).2.2 := by
  obtain ⟨hreport, hafter⟩ :=
    handle_lockstep (Eq.refl d.cleared) hid hlength reported hvw fun _ r _ => hoffer r
  have hdestination : d.destination frame = d.destination frame' :=
    congrArg d.registry.destination hid
  refine ⟨hreport, ?_, hafter⟩
  rw [handle_counted, handle_counted, hreport, hdestination]

/-- What is asked of a dispatcher comes to the same whatever was counted, up to what is counted. -/
theorem perform_cleared (env : Collaborators W) (d : Dispatcher f) (action : Action f) (w : W) :
    (d.cleared.perform env action w).1 = (d.perform env action w).1 ∧
      (d.cleared.perform env action w).2.1.cleared = (d.perform env action w).2.1.cleared ∧
      (d.cleared.perform env action w).2.2 = (d.perform env action w).2.2 := by
  cases action with
  | addRoute id draft =>
      have hadd : d.cleared.registry.add id draft =
          (d.registry.add id draft).map Registry.resetCounters :=
        Registry.add_resetCounters d.registry id draft
      simp only [perform, hadd]
      cases d.registry.add id draft with
      | error e => exact ⟨rfl, d.cleared_idem, rfl⟩
      | ok registry =>
          have hlength : registry.resetCounters.listeners.length = registry.listeners.length := by
            rw [Registry.listeners_resetCounters, List.length_map]
          refine ⟨?_, ?_, rfl⟩
          · simp only [Except.map, hlength]
            rfl
          · simp only [Except.map, cleared, Registry.resetCounters_idem]
  | setDefault draft =>
      have hset : d.cleared.registry.setDefault draft =
          (d.registry.setDefault draft).map Registry.resetCounters :=
        Registry.setDefault_resetCounters d.registry draft
      simp only [perform, hset]
      cases d.registry.setDefault draft with
      | error e => exact ⟨rfl, d.cleared_idem, rfl⟩
      | ok registry =>
          refine ⟨rfl, ?_, rfl⟩
          simp only [Except.map, cleared, Registry.resetCounters_idem]
  | handle frame reported =>
      obtain ⟨hreport, hafter⟩ := handle_lockstep (d.cleared_idem) (Eq.refl (f.readAt frame _))
        (Eq.refl frame.length) reported (Eq.refl w) fun _ r _ => ⟨rfl, Eq.refl (r.offer env frame _ _).2⟩
      refine ⟨congrArg (fun r => Except.ok (DispatchEvent.frame r)) hreport, ?_, hafter⟩
      have hleft := cleared_handle env d.cleared frame reported w
      rw [cleared_idem] at hleft
      exact hleft.trans (cleared_handle env d frame reported w).symm
  | resetCounters =>
      refine ⟨rfl, ?_, rfl⟩
      simp only [perform, cleared, Registry.resetCounters_idem]

/-- Two dispatchers with the same routes send a frame to the same place. -/
theorem destination_of_cleared {d e : Dispatcher f} (h : d.cleared = e.cleared) (frame : Bytes) :
    d.destination frame = e.destination frame := by
  unfold destination
  rw [offset_congr h, destination_congr h]

/-- It does not matter which of two outcomes is counted first. -/
theorem counted_comm (d : Dispatcher f) (o o' : Outcome) (place place' : Option Slot) :
    (d.counted o place).counted o' place' = (d.counted o' place').counted o place := by
  cases place <;> cases place' <;>
    simp only [counted, GlobalCounters.record_comm _ o, Registry.record_comm _ _ _ o]

/-- A delivered frame is not counted. -/
@[simp] theorem counted_delivered (d : Dispatcher f) (place : Option Slot) :
    d.counted .delivered place = d := by
  cases place with
  | none => rfl
  | some slot =>
      rw [counted, Registry.record_delivered]
      rfl

end Dispatcher

end Demux
