import Mathlib
import Demux.Proofs.Saturation
import Demux.Registry

/-!
# What registering, counting and resetting do to the routes

Routes are found by their places.  A registration keeps every route at its place and adds one on
which nothing was counted (`Extends`), counting touches the counters at one place (`endpoint?_record`),
and a reset clears the counters at every place (`endpoint?_resetCounters`).  The same three facts are
stated for the counters of all routes together, the `losses` of a registry.
-/

namespace Demux

namespace Registry

variable {f : Format}

/-- The counters of all routes together. -/
def losses (r : Registry f) : DropCounters := (r.endpoints.map (·.counters)).sum

/-- The losses of listeners and default route, apart. -/
theorem losses_eq (r : Registry f) :
    r.losses =
      (r.listeners.map (·.endpoint.counters)).sum + (r.fallback.toList.map (·.counters)).sum := by
  simp [losses, endpoints, Function.comp_def]

/-- The routes of a registry are what is found at its places. -/
theorem mem_endpoints_iff (r : Registry f) (e : Endpoint) :
    e ∈ r.endpoints ↔ ∃ slot, r.endpoint? slot = some e := by
  constructor
  · intro he
    rcases List.mem_append.mp he with he | he
    · obtain ⟨l, hl, rfl⟩ := List.mem_map.mp he
      obtain ⟨index, hindex⟩ := List.mem_iff_getElem?.mp hl
      exact ⟨.listener index, by simp [endpoint?, hindex]⟩
    · exact ⟨.fallback, Option.mem_toList.mp he⟩
  · rintro ⟨slot, hslot⟩
    cases slot with
    | listener index =>
        obtain ⟨l, hl, rfl⟩ := Option.map_eq_some_iff.mp hslot
        exact List.mem_append_left _ (List.mem_map.mpr ⟨l, List.mem_of_getElem? hl, rfl⟩)
    | fallback => exact List.mem_append_right _ (Option.mem_toList.mpr hslot)

/-- The statistics show the counters of every route. -/
theorem counters_listenerStats (r : Registry f) :
    r.listenerStats.map (·.counters) = r.endpoints.map (·.counters) := by
  simp [listenerStats, endpoints, Function.comp_def]

/-- A frame goes to a route that is there. -/
theorem endpoint?_of_resolve {r : Registry f} {id : Option f.Value} {slot : Slot} {e : Endpoint}
    (h : r.resolve id = some (slot, e)) : r.endpoint? slot = some e := by
  simp only [resolve, Option.bind_eq_bind, Option.pure_def, Option.bind_eq_some_iff] at h
  obtain ⟨place, -, endpoint, hendpoint, heq⟩ := h
  cases heq
  exact hendpoint

/-- A registry with routes added on which nothing was counted yet. -/
structure Extends (r s : Registry f) : Prop where
  /-- Every route keeps its place. -/
  kept : ∀ slot e, r.endpoint? slot = some e → s.endpoint? slot = some e
  /-- A route at another place is a new one. -/
  fresh : ∀ slot e, s.endpoint? slot = some e →
    r.endpoint? slot = some e ∨ r.endpoint? slot = none ∧ e.counters = 0
  losses : s.losses = r.losses

/-- What an accepted listener adds. -/
theorem add_ok {r s : Registry f} {id : f.Value} {draft : Draft} (h : r.add id draft = .ok s) :
    ∃ route, draft.build = .ok route ∧ s.listeners = r.listeners ++ [⟨id, { route }⟩] ∧
      s.fallback = r.fallback := by
  unfold add at h
  split at h
  · contradiction
  · rename_i route hbuild
    split at h
    · cases h
      exact ⟨route, hbuild, rfl, rfl⟩
    · contradiction

/-- What an accepted default route changes. -/
theorem setDefault_ok {r s : Registry f} {draft : Draft} (h : r.setDefault draft = .ok s) :
    ∃ route, draft.build = .ok route ∧ r.fallback = none ∧ s.listeners = r.listeners ∧
      s.fallback = some { route } := by
  unfold setDefault at h
  split at h
  · contradiction
  · rename_i habsent
    cases hbuild : draft.build with
    | error e => simp [hbuild, Except.map] at h
    | ok route =>
        simp only [hbuild, Except.map, Except.ok.injEq] at h
        subst h
        exact ⟨route, rfl, by simpa using habsent, rfl, rfl⟩

/-- A listener is added behind all others. -/
theorem extends_of_add {r s : Registry f} {id : f.Value} {draft : Draft}
    (h : r.add id draft = .ok s) : r.Extends s := by
  obtain ⟨route, -, hlisteners, hfallback⟩ := add_ok h
  constructor
  case kept =>
    intro slot e he
    cases slot with
    | listener index =>
        obtain ⟨l, hl, rfl⟩ := Option.map_eq_some_iff.mp he
        have hindex := (List.getElem?_eq_some_iff.mp hl).1
        rw [endpoint?, hlisteners, List.getElem?_append_left hindex, hl]
        rfl
    | fallback => exact hfallback.trans he
  case fresh =>
    intro slot e he
    cases slot with
    | listener index =>
        rw [endpoint?, hlisteners] at he
        by_cases hindex : index < r.listeners.length
        · rw [List.getElem?_append_left hindex] at he
          exact Or.inl he
        · obtain ⟨l, hl, rfl⟩ := Option.map_eq_some_iff.mp he
          rw [List.getElem?_append_right (by omega)] at hl
          have hnew := List.mem_singleton.mp (List.mem_of_getElem? hl)
          refine Or.inr ⟨?_, by rw [hnew]; rfl⟩
          rw [endpoint?, List.getElem?_eq_none (by omega)]
          rfl
    | fallback => exact Or.inl (hfallback.symm.trans he)
  case losses =>
    have hnew : ({} : DropCounters) = 0 := rfl
    rw [losses_eq, losses_eq, hlisteners, hfallback]
    simp [hnew]

/-- A default route is added where there was none. -/
theorem extends_of_setDefault {r s : Registry f} {draft : Draft}
    (h : r.setDefault draft = .ok s) : r.Extends s := by
  obtain ⟨route, -, habsent, hlisteners, hfallback⟩ := setDefault_ok h
  constructor
  case kept =>
    intro slot e he
    cases slot with
    | listener index => simpa only [endpoint?, hlisteners] using he
    | fallback => simp [endpoint?, habsent] at he
  case fresh =>
    intro slot e he
    cases slot with
    | listener index => exact Or.inl (by simpa only [endpoint?, hlisteners] using he)
    | fallback =>
        refine Or.inr ⟨habsent, ?_⟩
        have hnew : e = { route } := by simpa [endpoint?, hfallback] using he.symm
        rw [hnew]
        rfl
  case losses =>
    have hnew : ({} : DropCounters) = 0 := rfl
    rw [losses_eq, losses_eq, hlisteners, hfallback, habsent]
    simp [hnew]

/-- An endpoint with one more outcome counted. -/
def count (o : Outcome) (e : Endpoint) : Endpoint := { e with counters := e.counters.record o }

/-- Counting at one place leaves every listener at another place alone. -/
theorem getElem?_listeners_record (r : Registry f) (slot : Slot) (o : Outcome) (i : ℕ) :
    (r.record slot o).listeners[i]? = r.listeners[i]?.map fun l =>
      if .listener i = slot then { l with endpoint := count o l.endpoint } else l := by
  cases slot with
  | listener index =>
      by_cases hi : index = i
      · subst hi
        simp only [record, List.getElem?_modify_eq, if_true]
        rfl
      · have hne : Slot.listener i ≠ Slot.listener index := fun h => hi (by cases h; rfl)
        simp only [record, List.getElem?_modify_ne _ _ hi, if_neg hne, Option.map_id']
  | fallback => simp [record]

/-- Counting at one place leaves every other place alone. -/
theorem endpoint?_record (r : Registry f) (slot other : Slot) (o : Outcome) :
    (r.record slot o).endpoint? other =
      (r.endpoint? other).map fun e => if other = slot then count o e else e := by
  cases other with
  | listener i =>
      simp only [endpoint?, getElem?_listeners_record, Option.map_map]
      congr 1
      funext l
      simp only [Function.comp_apply]
      split <;> rfl
  | fallback =>
      cases slot with
      | listener index => simp [record, endpoint?]
      | fallback =>
          simp only [record, endpoint?, if_true]
          rfl

/-- Counting at a place that is there adds the loss to the losses of all routes. -/
theorem losses_record {r : Registry f} {slot : Slot} {e : Endpoint}
    (h : r.endpoint? slot = some e) (o : Outcome) :
    (r.record slot o).losses = r.losses + DropCounters.loss o := by
  rw [losses_eq, losses_eq]
  cases slot with
  | listener index =>
      obtain ⟨l, hl, -⟩ := Option.map_eq_some_iff.mp h
      obtain ⟨before, here, after, hbefore, -, hafter⟩ := List.exists_of_modify
        (fun l : Listener f => { l with endpoint := count o l.endpoint })
        (List.getElem?_eq_some_iff.mp hl).1
      have hlisteners : (r.record (.listener index) o).listeners = before ++
          { here with endpoint := count o here.endpoint } :: after := hafter
      have hhere : (count o here.endpoint).counters =
          here.endpoint.counters + DropCounters.loss o := DropCounters.record_eq_add_loss _ _
      have hfallback : (r.record (.listener index) o).fallback = r.fallback := rfl
      rw [hlisteners, hbefore, hfallback]
      simp only [List.map_append, List.map_cons, List.sum_append, List.sum_cons, hhere]
      abel
  | fallback =>
      have hfallback : (r.record .fallback o).fallback = some (count o e) := by
        have hr : r.fallback = some e := h
        simp only [record, hr, Option.map_some]
        rfl
      have hlisteners : (r.record .fallback o).listeners = r.listeners := rfl
      have hcount : (count o e).counters = e.counters + DropCounters.loss o :=
        DropCounters.record_eq_add_loss _ _
      have hr : r.fallback = some e := h
      rw [hlisteners, hfallback, hr]
      simp only [Option.toList_some, List.map_cons, List.map_nil, List.sum_singleton, hcount]
      abel

/-- A reset keeps every route and clears its counters. -/
theorem endpoint?_resetCounters (r : Registry f) (slot : Slot) :
    r.resetCounters.endpoint? slot =
      (r.endpoint? slot).map fun e => { e with counters := 0 } := by
  cases slot with
  | listener index =>
      simp only [resetCounters, endpoint?, List.getElem?_map, Option.map_map]
      rfl
  | fallback => rfl

/-- After a reset no route has lost anything. -/
theorem losses_resetCounters (r : Registry f) : r.resetCounters.losses = 0 := by
  apply List.sum_eq_zero
  intro c hc
  obtain ⟨e, he, rfl⟩ := List.mem_map.mp hc
  obtain ⟨slot, hslot⟩ := (mem_endpoints_iff _ e).mp he
  rw [endpoint?_resetCounters] at hslot
  obtain ⟨_, -, rfl⟩ := Option.map_eq_some_iff.mp hslot
  rfl

end Registry

end Demux
