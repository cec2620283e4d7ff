import Mathlib
import Demux.Proofs.Identifiers
import Demux.Proofs.Turns

/-!
# Where frames go

A frame goes to the first listener whose identifier it carries, else to the default route if there is
one, and there is no third way (`Registry.Resolved`).  Listeners are only ever added at the end, so the
table of a dispatcher after a run is the table before it with the listeners admitted meanwhile
(`table_run`).

Identifiers are compared as values.  Since a field and its value determine each other, this is the
same as comparing bytes (`routes_by_exact_bytes`).  A frame is offered to the route at the place where
it goes, and counted there (`DealtAt`).
-/

namespace Demux

namespace Registry

variable {f : Format}

/-- The listeners without what was counted on them. -/
def table (r : Registry f) : List (f.Value × Route) :=
  r.listeners.map fun l => (l.id, l.endpoint.route)

/-- The place of a listener in the table is its place among the listeners. -/
theorem getElem?_table_eq_some_iff {r : Registry f} {i : ℕ} {entry : f.Value × Route} :
    r.table[i]? = some entry ↔
      ∃ l, r.listeners[i]? = some l ∧ (l.id, l.endpoint.route) = entry := by
  rw [table, List.getElem?_map, Option.map_eq_some_iff]

theorem table_of_listener {r : Registry f} {i : ℕ} {l : Listener f}
    (hhere : r.listeners[i]? = some l) : r.table[i]? = some (l.id, l.endpoint.route) :=
  getElem?_table_eq_some_iff.mpr ⟨l, hhere, rfl⟩

theorem lt_length_table {r : Registry f} {i : ℕ} {l : Listener f}
    (hhere : r.listeners[i]? = some l) : i < r.table.length :=
  (List.getElem?_eq_some_iff.mp (table_of_listener hhere)).1

/-- An identifier, if there is one, is none of those in a table. -/
def Misses (id : Option f.Value) (entries : List (f.Value × Route)) : Prop :=
  ∀ entry ∈ entries, id ≠ some entry.1

/-- The ways in which a route can be found. -/
inductive Resolved (r : Registry f) (id : Option f.Value) : Option (Slot × Endpoint) → Prop
  /-- The first listener for the identifier takes the frame. -/
  | listener {i : ℕ} {l : Listener f} (hhere : r.listeners[i]? = some l) (hid : id = some l.id)
      (hfirst : Misses id (r.table.take i)) : Resolved r id (some (.listener i, l.endpoint))
  /-- No listener takes it, and there is a default route. -/
  | fallback {e : Endpoint} (hnone : Misses id r.table) (hdefault : r.fallback = some e) :
      Resolved r id (some (.fallback, e))
  /-- Nobody takes it. -/
  | unmatched (hnone : Misses id r.table) (hdefault : r.fallback = none) : Resolved r id none

theorem resolve_of_slot {r : Registry f} {id : Option f.Value} {slot : Slot} {e : Endpoint}
    (hslot : r.slotFor? id = some slot) (he : r.endpoint? slot = some e) :
    r.resolve id = some (slot, e) := by
  simp only [resolve, hslot, he, Option.bind_eq_bind, Option.bind_some, Option.pure_def]

/-- A route is found in one of these ways. -/
theorem resolved (r : Registry f) (id : Option f.Value) : r.Resolved id (r.resolve id) := by
  cases hfind : id.bind fun v => r.listeners.findIdx? (·.id = v) with
  | some i =>
      obtain ⟨v, rfl, hi⟩ := Option.bind_eq_some_iff.mp hfind
      obtain ⟨hlt, hhere, hfirst⟩ := List.findIdx?_eq_some_iff_getElem.mp hi
      have hlistener : r.listeners[i]? = some r.listeners[i] := List.getElem?_eq_getElem hlt
      have hslot : r.slotFor? (some v) = some (.listener i) := by simp only [slotFor?, hfind]
      have hendpoint : r.endpoint? (.listener i) = some r.listeners[i].endpoint := by
        simp only [endpoint?, hlistener, Option.map_some]
      rw [resolve_of_slot hslot hendpoint]
      refine .listener hlistener (congrArg some (of_decide_eq_true hhere).symm) ?_
      intro entry hentry
      obtain ⟨j, hj, rfl⟩ := List.mem_take_iff_getElem.mp hentry
      have hne := hfirst j (by omega)
      simp only [table, List.getElem_map]
      simpa [eq_comm] using hne
  | none =>
      have hmiss : Misses id r.table := by
        intro entry hentry hid
        obtain ⟨l, hl, rfl⟩ := List.mem_map.mp hentry
        rw [hid, Option.bind_some, List.findIdx?_eq_none_iff] at hfind
        simpa using hfind l hl
      cases hdefault : r.fallback with
      | none =>
          have hnowhere : r.resolve id = none := by
            simp only [resolve, slotFor?, hfind, hdefault, Option.map_none, Option.bind_eq_bind,
              Option.bind_none]
          rw [hnowhere]
          exact .unmatched hmiss hdefault
      | some e =>
          have hslot : r.slotFor? id = some .fallback := by
            simp only [slotFor?, hfind, hdefault, Option.map_some]
          rw [resolve_of_slot hslot hdefault]
          exact .fallback hmiss hdefault

/-- A listener is in the table before every later place. -/
theorem mem_take_table {r : Registry f} {i n : ℕ} {l : Listener f}
    (hhere : r.listeners[i]? = some l) (hi : i < n) :
    (l.id, l.endpoint.route) ∈ r.table.take n := by
  have hentry := table_of_listener hhere
  rw [← List.getElem?_take_of_lt hi] at hentry
  exact List.mem_of_getElem? hentry

theorem mem_table {r : Registry f} {i : ℕ} {l : Listener f} (hhere : r.listeners[i]? = some l) :
    (l.id, l.endpoint.route) ∈ r.table :=
  List.mem_of_getElem? (table_of_listener hhere)

/-- There is only one way in which a route can be found. -/
theorem Resolved.unique {r : Registry f} {id : Option f.Value} {x y : Option (Slot × Endpoint)}
    (hx : r.Resolved id x) (hy : r.Resolved id y) : x = y := by
  cases hx with
  | @listener i l hhere hid hfirst =>
      cases hy with
      | @listener j m hthere hid' hfirst' =>
          rcases Nat.lt_trichotomy i j with hlt | rfl | hlt
          · exact absurd hid (hfirst' _ (mem_take_table hhere hlt))
          · rw [Option.some.inj (hhere.symm.trans hthere)]
          · exact absurd hid' (hfirst _ (mem_take_table hthere hlt))
      | fallback hnone hdefault => exact absurd hid (hnone _ (mem_table hhere))
      | unmatched hnone hdefault => exact absurd hid (hnone _ (mem_table hhere))
  | fallback hnone hdefault =>
      cases hy with
      | listener hhere hid hfirst => exact absurd hid (hnone _ (mem_table hhere))
      | fallback hnone' hdefault' => rw [Option.some.inj (hdefault.symm.trans hdefault')]
      | unmatched hnone' hdefault' => cases hdefault.symm.trans hdefault'
  | unmatched hnone hdefault =>
      cases hy with
      | listener hhere hid hfirst => exact absurd hid (hnone _ (mem_table hhere))
      | fallback hnone' hdefault' => cases hdefault.symm.trans hdefault'
      | unmatched hnone' hdefault' => rfl

theorem resolve_eq_iff {r : Registry f} {id : Option f.Value} {x : Option (Slot × Endpoint)} :
    r.resolve id = x ↔ r.Resolved id x :=
  ⟨fun h => h ▸ resolved r id, fun h => (resolved r id).unique h⟩

/-- Counting changes no route. -/
@[simp] theorem table_record (r : Registry f) (slot : Slot) (o : Outcome) :
    (r.record slot o).table = r.table := by
  cases slot with
  | listener index =>
      apply List.ext_getElem?
      intro i
      by_cases hi : index = i <;>
        simp [table, record, hi, Function.comp_def]
  | fallback => rfl

/-- A reset changes no route. -/
@[simp] theorem table_resetCounters (r : Registry f) : r.resetCounters.table = r.table := by
  simp [table, resetCounters, Function.comp_def]

end Registry

namespace Dispatcher

variable {f : Format} {W : Type}

/-- The listeners that are registered in a run, in order. -/
def admissions (env : Collaborators W) (d : Dispatcher f) :
    List (Turn f W) → List (f.Value × Route)
  | [] => []
  | t :: turns => d.admitted env t ++ (d.turn env t).admissions env turns

/-- The default route that is installed in a turn, if one is. -/
def installed (env : Collaborators W) (d : Dispatcher f) (t : Turn f W) : List Route :=
  match t.action, (d.perform env t.action t.world).1 with
  | .setDefault draft, .ok _ => draft.build.toOption.toList
  | _, _ => []

/-- The default routes that are installed in a run, of which there is no second one. -/
def installations (env : Collaborators W) (d : Dispatcher f) : List (Turn f W) → List Route
  | [] => []
  | t :: turns => d.installed env t ++ (d.turn env t).installations env turns

/-- The default route, if there is one, without what was counted on it. -/
def fallbackRoutes (d : Dispatcher f) : List Route := d.registry.fallback.toList.map (·.route)

/-- A turn adds the listener that it admits at the end of the table. -/
theorem Effect.table {d d' : Dispatcher f} {deed : Deed} {entries : List (f.Value × Route)}
    (h : Effect d deed entries d') : d'.registry.table = d.registry.table ++ entries := by
  cases h with
  | refused => simp
  | listener hbuild hadd =>
      obtain ⟨route, hbuild', hlisteners, -⟩ := Registry.add_ok hadd
      cases hbuild.symm.trans hbuild'
      simp [Registry.table, hlisteners]
  | fallback hset =>
      obtain ⟨route, -, -, hlisteners, -⟩ := Registry.setDefault_ok hset
      simp [Registry.table, hlisteners]
  | unmatched hresolve => simp
  | offered hresolve houtcome => simp
  | reset => simp

theorem Effect.offset {d d' : Dispatcher f} {deed : Deed} {entries : List (f.Value × Route)}
    (h : Effect d deed entries d') : d'.offset = d.offset := by
  cases h <;> rfl

/-- A run adds the listeners that it admits at the end of the table, in order. -/
theorem table_run (env : Collaborators W) (d : Dispatcher f) (turns : List (Turn f W)) :
    (d.run env turns).registry.table = d.registry.table ++ d.admissions env turns := by
  induction turns generalizing d with
  | nil => simp [run, admissions]
  | cons t turns ih =>
      have hrest := ih (d.turn env t)
      rw [(effect env d t).table, List.append_assoc] at hrest
      exact hrest

theorem offset_run (env : Collaborators W) (d : Dispatcher f) (turns : List (Turn f W)) :
    (d.run env turns).offset = d.offset := by
  induction turns generalizing d with
  | nil => rfl
  | cons t turns ih => exact (ih (d.turn env t)).trans (effect env d t).offset

theorem table_new (capacity offset : ℕ) :
    (Dispatcher.new capacity offset : Dispatcher f).registry.table = [] := rfl

section Bytes

variable (d : Dispatcher f) (frame : Bytes)

/-- An identifier read from a frame is none of those of some listeners exactly when the frame carries none
of them. -/
theorem misses_iff (listeners : List (Listener f)) :
    Registry.Misses (f.readAt frame d.offset)
        (listeners.map fun l => (l.id, l.endpoint.route)) ↔
      ∀ l ∈ listeners, ¬ f.Carries frame d.offset l.id := by
  simp only [Registry.Misses, List.forall_mem_map, ne_eq, Format.readAt_eq_some_iff]

/-- A frame goes to a listener if it carries its identifier and that of no listener before it. -/
theorem resolve_listener_iff (i : ℕ) (e : Endpoint) :
    d.resolve frame = some (.listener i, e) ↔
      ∃ l, d.registry.listeners[i]? = some l ∧ l.endpoint = e ∧ f.Carries frame d.offset l.id ∧
        ∀ earlier ∈ d.registry.listeners.take i, ¬ f.Carries frame d.offset earlier.id := by
  have htable : d.registry.table.take i =
      (d.registry.listeners.take i).map fun l => (l.id, l.endpoint.route) := List.map_take.symm
  constructor
  · intro he
    cases Registry.resolve_eq_iff.mp he with
    | @listener _ l hhere hid hfirst =>
        rw [htable, misses_iff] at hfirst
        exact ⟨l, hhere, rfl, (f.readAt_eq_some_iff _ _ _).mp hid, hfirst⟩
  · rintro ⟨l, hhere, rfl, hcarries, hfirst⟩
    rw [← misses_iff, ← htable] at hfirst
    exact Registry.resolve_eq_iff.mpr
      (.listener hhere ((f.readAt_eq_some_iff _ _ _).mpr hcarries) hfirst)

/-- A frame goes to the default route if that is there and the frame carries the identifier of no
listener. -/
theorem resolve_fallback_iff (e : Endpoint) :
    d.resolve frame = some (.fallback, e) ↔
      (∀ l ∈ d.registry.listeners, ¬ f.Carries frame d.offset l.id) ∧
        d.registry.fallback = some e := by
  rw [← misses_iff]
  constructor
  · intro he
    cases Registry.resolve_eq_iff.mp he with
    | fallback hnone hdefault => exact ⟨hnone, hdefault⟩
  · rintro ⟨hnone, hdefault⟩
    exact Registry.resolve_eq_iff.mpr (.fallback hnone hdefault)

/-- A frame goes nowhere if there is no default route and it carries the identifier of no
listener. -/
theorem resolve_eq_none_iff :
    d.resolve frame = none ↔
      (∀ l ∈ d.registry.listeners, ¬ f.Carries frame d.offset l.id) ∧
        d.registry.fallback = none := by
  rw [← misses_iff]
  constructor
  · intro he
    cases Registry.resolve_eq_iff.mp he with
    | unmatched hnone hdefault => exact ⟨hnone, hdefault⟩
  · rintro ⟨hnone, hdefault⟩
    exact Registry.resolve_eq_iff.mpr (.unmatched hnone hdefault)

/-- The caller is told that a frame is unmatched exactly when it goes nowhere. -/
theorem outcome_eq_unmatched_iff (env : Collaborators W) (reported : ℕ) (w : W) :
    (d.handle env frame reported w).1.outcome = .unmatched ↔ d.resolve frame = none := by
  rcases hresolve : d.resolve frame with _ | ⟨slot, e⟩
  · obtain ⟨hverdict, -⟩ := handle_of_unresolved hresolve env reported w
    simp only [Report.outcome, hverdict, Verdict.outcome]
  · obtain ⟨hverdict, -⟩ := handle_of_resolved hresolve env reported w
    have hoffered := (Route.offered env e.route frame reported w).outcome_ne_unmatched
    simp only [Report.outcome, hverdict, hoffered, reduceCtorEq]

/-- A frame is dealt with at a place: it is offered to the route there, and the outcome is counted on
that route, on no other one, and in total. -/
structure DealtAt (env : Collaborators W) (reported : ℕ) (w : W) (slot : Slot) (e : Endpoint)
    (verdict : Verdict) (d' : Dispatcher f) (w' : W) : Prop where
  offered : e.route.offer env frame reported w = (verdict, w')
  listeners : ∀ i, d'.registry.listeners[i]? = d.registry.listeners[i]?.map fun l =>
    if .listener i = slot then { l with endpoint := Registry.count verdict.outcome l.endpoint } else l
  fallback : d'.registry.fallback = d.registry.fallback.map fun e =>
    if .fallback = slot then Registry.count verdict.outcome e else e
  totals : d'.totals = d.totals.record verdict.outcome

variable {d frame}

/-- A frame is dealt with at the place that it goes to. -/
theorem dealtAt_of_resolve {slot : Slot} {e : Endpoint} (h : d.resolve frame = some (slot, e))
    (env : Collaborators W) (reported : ℕ) (w : W) :
    let handled := d.handle env frame reported w
    d.DealtAt frame env reported w slot e handled.1.verdict handled.2.1 handled.2.2 := by
  intro handled
  obtain ⟨hverdict, hafter, hworld⟩ := handle_of_resolved h env reported w
  rw [hverdict, hafter, hworld]
  exact ⟨rfl, Registry.getElem?_listeners_record d.registry slot _,
    Registry.endpoint?_record d.registry slot .fallback _, rfl⟩

end Bytes

/-- A turn adds the default route that it installs where there was none. -/
theorem fallbackRoutes_turn (env : Collaborators W) (d : Dispatcher f) (t : Turn f W) :
    (d.turn env t).fallbackRoutes = d.fallbackRoutes ++ d.installed env t := by
  rcases t with ⟨action, world⟩
  cases action with
  | addRoute id draft =>
      cases hadd : d.registry.add id draft with
      | error e => simp [turn, perform, installed, hadd]
      | ok registry =>
          obtain ⟨-, -, -, hfallback⟩ := Registry.add_ok hadd
          simp [turn, perform, installed, hadd, fallbackRoutes, hfallback]
  | setDefault draft =>
      cases hset : d.registry.setDefault draft with
      | error e => simp [turn, perform, installed, hset]
      | ok registry =>
          obtain ⟨route, hbuild, habsent, -, hfallback⟩ := Registry.setDefault_ok hset
          simp [turn, perform, installed, hset, fallbackRoutes, hbuild, habsent, hfallback,
            Except.toOption]
  | handle frame reported =>
      have hinstalled : d.installed env ⟨.handle frame reported, world⟩ = [] := rfl
      rw [hinstalled, List.append_nil, fallbackRoutes, turn, perform]
      rcases hresolve : d.resolve frame with _ | ⟨slot, e⟩
      · obtain ⟨-, hafter, -⟩ := handle_of_unresolved hresolve env reported world
        rw [hafter]
        rfl
      · rw [(dealtAt_of_resolve hresolve env reported world).fallback, fallbackRoutes]
        cases d.registry.fallback with
        | none => rfl
        | some e =>
            simp only [Option.map_some, Option.toList_some, List.map_cons]
            split <;> rfl
  | resetCounters =>
      have hinstalled : d.installed env ⟨.resetCounters, world⟩ = [] := rfl
      rw [hinstalled, List.append_nil]
      simp only [fallbackRoutes, turn, perform, Registry.resetCounters]
      cases d.registry.fallback <;> rfl

theorem fallbackRoutes_run (env : Collaborators W) (d : Dispatcher f) (turns : List (Turn f W)) :
    (d.run env turns).fallbackRoutes = d.fallbackRoutes ++ d.installations env turns := by
  induction turns generalizing d with
  | nil => simp [run, installations]
  | cons t turns ih =>
      have hrest := ih (d.turn env t)
      rw [fallbackRoutes_turn, List.append_assoc] at hrest
      exact hrest

/-- **Routing compares bytes, and the first registration wins.**  After any run of a new dispatcher, its
listeners are those that were admitted, in order, and its default route is the one that was installed,
if there was one.  A frame goes to a listener exactly when the field at the offset is there as a whole,
holds the encoding of the listener's identifier, and holds that of no listener before it.  It goes to the
default route exactly when it goes to no listener and there is a default route.  Where it goes it is dealt
with: it is offered to the route there, and the outcome is counted at this place.  It is unmatched exactly
when it goes nowhere.  Identifiers of width zero send every frame that is long enough to the first
listener. -/
theorem routes_by_exact_bytes (env : Collaborators W) (capacity offset : ℕ)
    (turns : List (Turn f W)) (frame : Bytes) :
    let start : Dispatcher f := .new capacity offset
    let d := start.run env turns
    let listeners := d.registry.listeners
    (listeners.map (fun l => (l.id, l.endpoint.route)) = start.admissions env turns ∧
      d.registry.fallback.toList.map (·.route) = start.installations env turns) ∧
    (∀ i e, d.resolve frame = some (.listener i, e) ↔
      ∃ l, listeners[i]? = some l ∧ l.endpoint = e ∧ f.Carries frame offset l.id ∧
        ∀ earlier ∈ listeners.take i, ¬ f.Carries frame offset earlier.id) ∧
    (∀ e, d.resolve frame = some (.fallback, e) ↔
      (∀ l ∈ listeners, ¬ f.Carries frame offset l.id) ∧ d.registry.fallback = some e) ∧
    (∀ slot e, d.resolve frame = some (slot, e) → ∀ reported w,
      let handled := d.handle env frame reported w
      d.DealtAt frame env reported w slot e handled.1.verdict handled.2.1 handled.2.2) ∧
    (∀ reported w, (d.handle env frame reported w).1.outcome = .unmatched ↔
      (∀ l ∈ listeners, ¬ f.Carries frame offset l.id) ∧ d.registry.fallback = none) ∧
    (f.width = 0 → offset ≤ frame.length → ∀ first, listeners.head? = some first →
      d.resolve frame = some (.listener 0, first.endpoint)) := by
  intro start d listeners
  have htable : d.registry.table = start.admissions env turns := by
    rw [table_run, table_new, List.nil_append]
  have hdefault : d.fallbackRoutes = start.installations env turns :=
    fallbackRoutes_run env start turns
  have hoffset : d.offset = offset := offset_run env start turns
  have hlistener := resolve_listener_iff d frame
  have hfallback := resolve_fallback_iff d frame
  have hnowhere := resolve_eq_none_iff d frame
  rw [hoffset] at hlistener hfallback hnowhere
  refine ⟨⟨htable, hdefault⟩, hlistener, hfallback, fun _ _ h => dealtAt_of_resolve h env,
    fun reported w => ?_, ?_⟩
  · rw [outcome_eq_unmatched_iff, hnowhere]
  · intro hwidth hlong first hfirst
    have hempty : f.encode first.id = [] := by
      rw [← List.length_eq_zero_iff, Format.length_encode, hwidth]
    refine (hlistener 0 _).mpr ⟨first, ?_, rfl, ⟨?_, ?_⟩, by simp⟩
    · rw [← List.head?_eq_getElem?]
      exact hfirst
    · rwa [hwidth, Nat.add_zero]
    · rw [hwidth, List.take_zero, hempty]

/-- Pools without blocks and queues that take nothing. -/
def barren : Collaborators Unit where
  acquire _ _ _ := (.error .exhausted, ())
  release _ _ _ := ()
  send _ b _ := (some b, ())

/-- Two listeners for the only identifier of width zero that there is, and one that finds no place. -/
def emptyIdentifiers : List (Turn (.array 2 .unit) Unit) :=
  [⟨.addRoute (#v[(), ()] : Vector Unit 2) ⟨some 5, some 6, false⟩, ()⟩,
    ⟨.addRoute (#v[(), ()] : Vector Unit 2) ⟨some 1, some 1, true⟩, ()⟩,
    ⟨.addRoute (#v[(), ()] : Vector Unit 2) ⟨some 2, some 2, true⟩, ()⟩]

/-- A frame that ends where the identifier stands goes to the first listener, and is counted there. -/
theorem routes_by_empty_identifier :
    let d := (Dispatcher.new 2 3 : Dispatcher (.array 2 .unit)).run barren emptyIdentifiers
    let e : Endpoint := ⟨⟨5, 6, false⟩, 0⟩
    (Format.array 2 .unit).width = 0 ∧ 3 ≤ [1, 2, 3].length ∧
      d.registry.listeners.head?.map (·.endpoint) = some e ∧
      d.resolve [1, 2, 3] = some (.listener 0, e) ∧
      let handled := d.handle barren [1, 2, 3] 3 ()
      d.DealtAt [1, 2, 3] barren 3 () (.listener 0) e handled.1.verdict handled.2.1 handled.2.2 := by
  intro d e
  obtain ⟨-, -, -, hdealt, -, hempty⟩ :=
    routes_by_exact_bytes barren 2 3 emptyIdentifiers [1, 2, 3]
  have hhead : d.registry.listeners.head? = some ⟨(#v[(), ()] : Vector Unit 2), e⟩ := rfl
  have hresolve : d.resolve [1, 2, 3] = some (.listener 0, e) :=
    hempty rfl (by decide) _ hhead
  exact ⟨rfl, by decide, rfl, hresolve, hdealt _ _ hresolve 3 ()⟩

end Dispatcher

end Demux
