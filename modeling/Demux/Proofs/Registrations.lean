import Mathlib
import Demux.Proofs.Diagnostics

/-!
# Which registrations are accepted

A route is described by its settings, of which the last one of each kind counts (`Draft.ofSettings_eq`).
How a request to register it is answered depends on whether it is complete and on whether there is room:
`Answered` says so once for every kind of request, with what becomes of the routes.

Listeners and default routes are admitted by one rule: as many as there is room for, in the order in which
they were asked for (`Admits`).  The room is the capacity of the registry for listeners, and one for
default routes.
-/

namespace Demux

variable {f : Format} {W : Type}

namespace Draft

namespace Setting

def pool? : Setting → Option PoolRef
  | .pool p => some p
  | _ => none

def queue? : Setting → Option QueueRef
  | .queue q => some q
  | _ => none

def dropPartial? : Setting → Option Bool
  | .dropPartial value => some value
  | _ => none

/-- The last setting of a kind. -/
def last? {α : Type} (kind : Setting → Option α) (settings : List Setting) : Option α :=
  (settings.filterMap kind).getLast?

/-- No pool or no queue is among the settings. -/
def Lacking (settings : List Setting) : Prop :=
  (∀ p, Setting.pool p ∉ settings) ∨ ∀ q, Setting.queue q ∉ settings

section Kinds

variable {α : Type} (kind : Setting → Option α) (settings : List Setting)

@[simp] theorem last?_snoc (s : Setting) :
    last? kind (settings ++ [s]) = (kind s).or (last? kind settings) := by
  rw [last?, last?, List.filterMap_append, List.getLast?_append]
  cases hs : kind s <;> simp [hs]

theorem last?_eq_none_iff : last? kind settings = none ↔ ∀ s ∈ settings, kind s = none := by
  rw [last?, List.getLast?_eq_none_iff, List.filterMap_eq_nil_iff]

end Kinds

theorem lacking_iff (settings : List Setting) :
    Lacking settings ↔ last? pool? settings = none ∨ last? queue? settings = none := by
  rw [last?_eq_none_iff, last?_eq_none_iff, Lacking]
  refine or_congr ⟨fun h s hs => ?_, fun h p hp => ?_⟩ ⟨fun h s hs => ?_, fun h q hq => ?_⟩
  · cases s with
    | pool p => exact absurd hs (h p)
    | queue q | dropPartial value => rfl
  · cases h _ hp
  · cases s with
    | queue q => exact absurd hs (h q)
    | pool p | dropPartial value => rfl
  · cases h _ hq

end Setting

open Setting (last?)

/-- The last setting of each kind counts.  Truncated frames are kept unless it is said otherwise. -/
theorem ofSettings_eq (settings : List Setting) :
    ofSettings settings =
      { pool := last? Setting.pool? settings
        queue := last? Setting.queue? settings
        dropPartial := (last? Setting.dropPartial? settings).getD false } := by
  induction settings using List.reverseRecOn with
  | nil => rfl
  | append_singleton settings s ih =>
      rw [ofSettings, List.foldl_append, ← ofSettings, ih]
      cases s <;> simp [set, Setting.pool?, Setting.queue?, Setting.dropPartial?]

end Draft

open Draft (Setting)

namespace Route

/-- The route that settings describe, if they name a pool and a queue. -/
def described? (settings : List Setting) : Option Route :=
  match Setting.last? (·.pool?) settings, Setting.last? (·.queue?) settings with
  | some pool, some queue =>
      some ⟨pool, queue, (Setting.last? (·.dropPartial?) settings).getD false⟩
  | _, _ => none

/-- The settings with which a queue is registered. -/
def settings (r : Route) : List Setting :=
  [.pool r.pool, .queue r.queue, .dropPartial r.dropPartial]

/-- Settings describe no route exactly when a pool or a queue is lacking. -/
theorem described?_eq_none_iff (settings : List Setting) :
    described? settings = none ↔ Setting.Lacking settings := by
  rw [Setting.lacking_iff, described?]
  cases Setting.last? Setting.pool? settings <;> cases Setting.last? Setting.queue? settings <;> simp

/-- A draft is finished to the route that its settings describe, if they do. -/
theorem build_ofSettings (settings : List Setting) :
    (∃ route, described? settings = some route ∧ (Draft.ofSettings settings).build = .ok route) ∨
      ∃ detail, described? settings = none ∧
        (Draft.ofSettings settings).build = .error (.incompleteRoute detail) := by
  rw [Draft.ofSettings_eq, described?, Draft.build]
  cases Setting.last? Setting.pool? settings with
  | none => exact Or.inr ⟨_, rfl, rfl⟩
  | some pool =>
      cases Setting.last? Setting.queue? settings with
      | none => exact Or.inr ⟨_, rfl, rfl⟩
      | some queue => exact Or.inl ⟨_, rfl, rfl⟩

end Route

/-- What is asked of a dispatcher, with routes given by their settings.  A queue is registered with the
settings of its route. -/
inductive Request (f : Format)
  | addRoute (id : f.Value) (settings : List Setting)
  | setDefault (settings : List Setting)
  | handle (frame : Bytes) (reported : ℕ)
  | resetCounters

namespace Request

def action : Request f → Action f
  | addRoute id settings => .addRoute id (.ofSettings settings)
  | setDefault settings => .setDefault (.ofSettings settings)
  | handle frame reported => .handle frame reported
  | resetCounters => .resetCounters

/-- The listener that a complete request is for. -/
def listener? : Request f → Option (f.Value × Route)
  | addRoute id settings => (Route.described? settings).map (id, ·)
  | _ => none

/-- The default route that a complete request is for. -/
def fallback? : Request f → Option Route
  | setDefault settings => Route.described? settings
  | _ => none

/-- The request, if it was not refused. -/
def granted (q : Request f) : Except DispatchError DispatchEvent → List (Request f)
  | .ok _ => [q]
  | .error _ => []

/-- A request at a time when the collaborators are in some state. -/
def turn (x : Request f × W) : Turn f W := ⟨x.1.action, x.2⟩

end Request

namespace Dispatcher

variable {d d' : Dispatcher f} {q : Request f} {answer : Except DispatchError DispatchEvent}

theorem SameRoutes.fallbackRoutes (h : d.SameRoutes d') : d.fallbackRoutes = d'.fallbackRoutes := by
  have hroutes (d : Dispatcher f) :
      d.fallbackRoutes = (d.registry.fallback.map (·.route)).toList := by
    rw [Dispatcher.fallbackRoutes]
    cases d.registry.fallback <;> rfl
  rw [hroutes, hroutes, h.fallback]

theorem length_table (d : Dispatcher f) : d.registry.table.length = d.registry.listeners.length :=
  List.length_map _

/-- How a request is answered and on what grounds, with what becomes of the routes. -/
inductive Answered (d : Dispatcher f) :
    Request f → Except DispatchError DispatchEvent → Dispatcher f → Prop
  /-- The route of a listener is incomplete, whether or not there is room for it. -/
  | incomplete {id : f.Value} {settings : List Setting} {detail : String}
      (hlacking : Route.described? settings = none) :
      Answered d (.addRoute id settings) (.error (.incompleteRoute detail)) d
  /-- There is no room for another listener. -/
  | full {id : f.Value} {settings : List Setting} {route : Route} {detail : String}
      (hroute : Route.described? settings = some route)
      (hfull : d.registry.table.length = d.registry.capacity) :
      Answered d (.addRoute id settings) (.error (.registryFull detail)) d
  | registered {id : f.Value} {settings : List Setting} {route : Route} {event : DispatchEvent}
      {d' : Dispatcher f} (hroute : Route.described? settings = some route)
      (hroom : d.registry.table.length < d.registry.capacity)
      (hcapacity : d'.registry.capacity = d.registry.capacity)
      (htable : d'.registry.table = d.registry.table ++ [(id, route)])
      (hfallback : d'.fallbackRoutes = d.fallbackRoutes) :
      Answered d (.addRoute id settings) (.ok event) d'
  /-- There is a default route, whether or not the other one is complete. -/
  | alreadySet {settings : List Setting} {old : Route} (hset : d.fallbackRoutes = [old]) :
      Answered d (.setDefault settings) (.error .defaultAlreadySet) d
  | incompleteDefault {settings : List Setting} {detail : String} (hfree : d.fallbackRoutes = [])
      (hlacking : Route.described? settings = none) :
      Answered d (.setDefault settings) (.error (.incompleteRoute detail)) d
  | installed {settings : List Setting} {route : Route} {event : DispatchEvent} {d' : Dispatcher f}
      (hfree : d.fallbackRoutes = []) (hroute : Route.described? settings = some route)
      (hcapacity : d'.registry.capacity = d.registry.capacity)
      (htable : d'.registry.table = d.registry.table)
      (hfallback : d'.fallbackRoutes = [route]) :
      Answered d (.setDefault settings) (.ok event) d'
  /-- Frames and resets leave the routes alone. -/
  | handled {frame : Bytes} {reported : ℕ} {event : DispatchEvent} {d' : Dispatcher f}
      (hroutes : d'.SameRoutes d) : Answered d (.handle frame reported) (.ok event) d'
  | reset {event : DispatchEvent} {d' : Dispatcher f} (hroutes : d'.SameRoutes d) :
      Answered d .resetCounters (.ok event) d'

/-- Every request is answered in one of these ways. -/
theorem answered (env : Collaborators W) (d : Dispatcher f) (q : Request f) (w : W) :
    Answered d q (d.perform env q.action w).1 (d.perform env q.action w).2.1 := by
  cases q with
  | addRoute id settings =>
      simp only [Request.action, perform, Registry.add]
      rcases Route.build_ofSettings settings with ⟨route, hroute, hbuild⟩ | ⟨detail, hlacking, hbuild⟩
      · rw [hbuild]
        by_cases hroom : d.registry.listeners.length < d.registry.capacity
        · simp only [dif_pos hroom]
          refine .registered hroute (d.length_table ▸ hroom) rfl ?_ rfl
          simp [Registry.table]
        · simp only [dif_neg hroom]
          -- The table is never longer than its capacity, so it is full now.
          have hlimit := d.registry.length_le
          exact .full hroute (d.length_table.trans (by omega))
      · rw [hbuild]
        exact .incomplete hlacking
  | setDefault settings =>
      simp only [Request.action, perform, Registry.setDefault]
      cases hset : d.registry.fallback with
      | some old =>
          have hold : d.fallbackRoutes = [old.route] := by rw [fallbackRoutes, hset]; rfl
          exact .alreadySet hold
      | none =>
          have hfree : d.fallbackRoutes = [] := by rw [fallbackRoutes, hset]; rfl
          rcases Route.build_ofSettings settings with
            ⟨route, hroute, hbuild⟩ | ⟨detail, hlacking, hbuild⟩
          · rw [hbuild]
            exact .installed hfree hroute rfl rfl rfl
          · rw [hbuild]
            exact .incompleteDefault hfree hlacking
  | handle frame reported =>
      exact .handled (sameRoutes_iff.mpr (cleared_handle env d frame reported w))
  | resetCounters => exact .reset d.sameRoutes_cleared

/-- What is refused changes nothing. -/
theorem perform_of_error {env : Collaborators W} {action : Action f} {w : W} {e : DispatchError}
    (h : (d.perform env action w).1 = .error e) : d.perform env action w = (.error e, d, w) := by
  cases action with
  | addRoute id draft =>
      simp only [perform] at h ⊢
      cases hadd : d.registry.add id draft <;> simp only [hadd, reduceCtorEq] at h ⊢
      rw [h]
  | setDefault draft =>
      simp only [perform] at h ⊢
      cases hset : d.registry.setDefault draft <;> simp only [hset, reduceCtorEq] at h ⊢
      rw [h]
  | handle frame reported => cases h
  | resetCounters => cases h

end Dispatcher

/-- Of some things that are asked for, in order, as many are admitted as there is room for, and put
behind those that are there. -/
structure Admits {α : Type} (limit : ℕ) (before asked admitted after : List α) : Prop where
  extended : after = before ++ admitted
  first : admitted = asked.take (limit - before.length)

section Admits

variable {α : Type} {limit : ℕ} {before middle after asked asked' admitted admitted' : List α}

theorem admits_nil (limit : ℕ) (before : List α) : Admits limit before [] [] before :=
  ⟨(List.append_nil before).symm, List.take_nil.symm⟩

theorem admits_refused (hfull : limit ≤ before.length) (asked : List α) :
    Admits limit before asked [] before := by
  refine ⟨(List.append_nil before).symm, ?_⟩
  rw [Nat.sub_eq_zero_of_le hfull, List.take_zero]

theorem admits_one (hroom : before.length < limit) (a : α) :
    Admits limit before [a] [a] (before ++ [a]) := by
  refine ⟨rfl, (List.take_of_length_le ?_).symm⟩
  rw [List.length_singleton]
  omega

/-- Admitting one after another is admitting all of them. -/
theorem Admits.trans (h : Admits limit before asked admitted middle)
    (h' : Admits limit middle asked' admitted' after) :
    Admits limit before (asked ++ asked') (admitted ++ admitted') after := by
  have hlength : middle.length = before.length + min (limit - before.length) asked.length := by
    rw [h.extended, List.length_append, h.first, List.length_take]
  refine ⟨?_, ?_⟩
  · rw [h'.extended, h.extended, List.append_assoc]
  · have hroom : limit - middle.length = limit - before.length - asked.length := by omega
    rw [List.take_append, ← h.first, h'.first, hroom]

end Admits

namespace Dispatcher

/-- A request fills the table and the default route as far as there is room. -/
theorem Answered.admits {d d' : Dispatcher f} {q : Request f}
    {answer : Except DispatchError DispatchEvent} (h : Answered d q answer d') :
    d'.registry.capacity = d.registry.capacity ∧
      Admits d.registry.capacity d.registry.table (q.listener?.toList)
        ((q.granted answer).filterMap (·.listener?)) d'.registry.table ∧
      Admits 1 d.fallbackRoutes (q.fallback?.toList)
        ((q.granted answer).filterMap (·.fallback?)) d'.fallbackRoutes := by
  cases h with
  | incomplete hlacking =>
      refine ⟨rfl, ?_, admits_nil _ _⟩
      rw [Request.listener?, hlacking]
      exact admits_nil _ _
  | full hroute hfull => exact ⟨rfl, admits_refused hfull.ge _, admits_nil _ _⟩
  | registered hroute hroom hcapacity htable hfallback =>
      rw [htable, hfallback]
      simp only [Request.granted, Request.listener?, Request.fallback?, List.filterMap_cons, hroute]
      exact ⟨hcapacity, admits_one hroom _, admits_nil _ _⟩
  | alreadySet hset =>
      have hfull : 1 ≤ d.fallbackRoutes.length := by rw [hset, List.length_singleton]
      exact ⟨rfl, admits_nil _ _, admits_refused hfull _⟩
  | incompleteDefault hfree hlacking =>
      refine ⟨rfl, admits_nil _ _, ?_⟩
      rw [Request.fallback?, hlacking]
      exact admits_nil _ _
  | installed hfree hroute hcapacity htable hfallback =>
      rw [htable, hfallback, hfree]
      simp only [Request.granted, Request.listener?, Request.fallback?, List.filterMap_cons, hroute]
      exact ⟨hcapacity, admits_nil _ _, admits_one Nat.one_pos _⟩
  | handled hroutes | reset hroutes =>
      rw [hroutes.table, hroutes.fallbackRoutes]
      exact ⟨hroutes.capacity, admits_nil _ _, admits_nil _ _⟩

/-- The requests of a run that were not refused, in order. -/
def accepted (env : Collaborators W) (d : Dispatcher f) : List (Request f × W) → List (Request f)
  | [] => []
  | (q, w) :: later =>
      q.granted (d.perform env q.action w).1 ++ (d.turn env (Request.turn (q, w))).accepted env later

/-- A run fills the table and the default route as far as there is room, in the order of the requests. -/
theorem admits_run (env : Collaborators W) (d : Dispatcher f) (history : List (Request f × W)) :
    let requests := history.map (·.1)
    let accepted := d.accepted env history
    let d' := d.run env (history.map Request.turn)
    d'.registry.capacity = d.registry.capacity ∧
      Admits d.registry.capacity d.registry.table (requests.filterMap (·.listener?))
        (accepted.filterMap (·.listener?)) d'.registry.table ∧
      Admits 1 d.fallbackRoutes (requests.filterMap (·.fallback?))
        (accepted.filterMap (·.fallback?)) d'.fallbackRoutes := by
  induction history generalizing d with
  | nil => exact ⟨rfl, admits_nil _ _, admits_nil _ _⟩
  | cons x later ih =>
      rcases x with ⟨q, w⟩
      obtain ⟨hcapacity, htable, hfallback⟩ := (answered env d q w).admits
      obtain ⟨hcapacity', htable', hfallback'⟩ := ih (d.turn env (Request.turn (q, w)))
      have hasked {α : Type} (kind : Request f → Option α) :
          (((q, w) :: later).map (·.1)).filterMap kind =
            (kind q).toList ++ (later.map (·.1)).filterMap kind := by
        rw [List.map_cons, List.filterMap_cons]
        cases kind q <;> rfl
      -- The later requests find the room that the first one has left.
      have hcapacity₁ : (d.turn env (Request.turn (q, w))).registry.capacity =
          d.registry.capacity := hcapacity
      rw [hcapacity₁] at hcapacity' htable'
      refine ⟨hcapacity', ?_, ?_⟩
      · rw [hasked, accepted, List.filterMap_append]
        exact htable.trans htable'
      · rw [hasked, accepted, List.filterMap_append]
        exact hfallback.trans hfallback'

section Answers

variable {d d' : Dispatcher f} {settings : List Setting}
  {answer : Except DispatchError DispatchEvent}

/-- Why a listener is refused: an incomplete route is noticed before a full table. -/
theorem Answered.addRoute_iff {id : f.Value} (h : Answered d (.addRoute id settings) answer d') :
    ((∃ detail, answer = .error (.incompleteRoute detail)) ↔ Setting.Lacking settings) ∧
      ((∃ detail, answer = .error (.registryFull detail)) ↔
        ¬ Setting.Lacking settings ∧ d.registry.table.length = d.registry.capacity) ∧
      ((∃ event, answer = .ok event) ↔
        ¬ Setting.Lacking settings ∧ d.registry.table.length < d.registry.capacity) := by
  rw [← Route.described?_eq_none_iff]
  cases h with
  | incomplete hlacking => simp [hlacking]
  | full hroute hfull => simp [hroute, hfull]
  | registered hroute hroom hcapacity htable hfallback => simp [hroute, hroom, hroom.ne]

/-- Why a default route is refused: one that is there is noticed before an incomplete route. -/
theorem Answered.setDefault_iff (h : Answered d (.setDefault settings) answer d') :
    (answer = .error .defaultAlreadySet ↔ d.fallbackRoutes ≠ []) ∧
      ((∃ detail, answer = .error (.incompleteRoute detail)) ↔
        d.fallbackRoutes = [] ∧ Setting.Lacking settings) ∧
      ((∃ event, answer = .ok event) ↔ d.fallbackRoutes = [] ∧ ¬ Setting.Lacking settings) := by
  rw [← Route.described?_eq_none_iff]
  cases h with
  | alreadySet hset => simp [hset]
  | incompleteDefault hfree hlacking => simp [hfree, hlacking]
  | installed hfree hroute hcapacity htable hfallback => simp [hfree, hroute]

end Answers

/-- The statistics name the listeners in the order of the table, and the default route last. -/
theorem names_stats (d : Dispatcher f) :
    d.stats.listeners.map (fun l => (l.id, l.dropPartial)) =
      d.registry.table.map (fun l => (some (f.text l.1), l.2.dropPartial)) ++
        d.fallbackRoutes.map (fun r => (none, r.dropPartial)) := by
  simp [stats, Registry.listenerStats, Registry.table, fallbackRoutes, Function.comp_def]

/-- **Registrations follow their history.**  After any run of a new dispatcher, with traffic and resets
in between, its listeners are those of the accepted requests in order, and its default route is that of
the first accepted one.  These are the first complete requests for which there was room, so there are as
many listeners as complete requests, up to the capacity.  The statistics list them in this order and the
default route last, whenever it was set.

The next request for a listener is refused for its settings if no pool or no queue is among them, even
when there is no room, else for lack of room, else accepted.  The next request for a default route is
refused if there is one, even when its settings are incomplete, else for its settings, else accepted.  A
refused request changes nothing.  A queue is registered by three settings, which describe its route. -/
theorem registrations_follow_history (env : Collaborators W) (capacity offset : ℕ)
    (history : List (Request f × W)) :
    let start : Dispatcher f := .new capacity offset
    let d := start.run env (history.map Request.turn)
    let requests := history.map (·.1)
    let accepted := start.accepted env history
    let listeners := accepted.filterMap (·.listener?)
    let defaults := accepted.filterMap (·.fallback?)
    (d.registry.table = listeners ∧ d.registry.fallback.map (·.route) = defaults.head?) ∧
    (listeners = (requests.filterMap (·.listener?)).take capacity ∧
      defaults = (requests.filterMap (·.fallback?)).take 1) ∧
    d.registry.listeners.length = min capacity (requests.filterMap (·.listener?)).length ∧
    d.stats.listeners.map (fun l => (l.id, l.dropPartial)) =
      listeners.map (fun l => (some (f.text l.1), l.2.dropPartial)) ++
        defaults.map (fun r => (none, r.dropPartial)) ∧
    (∀ id settings w,
      let answer := (d.perform env (.addRoute id (.ofSettings settings)) w).1
      ((∃ detail, answer = .error (.incompleteRoute detail)) ↔ Setting.Lacking settings) ∧
      ((∃ detail, answer = .error (.registryFull detail)) ↔
        ¬ Setting.Lacking settings ∧ listeners.length = capacity) ∧
      ((∃ event, answer = .ok event) ↔
        ¬ Setting.Lacking settings ∧ listeners.length < capacity)) ∧
    (∀ settings w,
      let answer := (d.perform env (.setDefault (.ofSettings settings)) w).1
      (answer = .error .defaultAlreadySet ↔ defaults ≠ []) ∧
      ((∃ detail, answer = .error (.incompleteRoute detail)) ↔
        defaults = [] ∧ Setting.Lacking settings) ∧
      ((∃ event, answer = .ok event) ↔ defaults = [] ∧ ¬ Setting.Lacking settings)) ∧
    (∀ action w e, (d.perform env action w).1 = .error e →
      d.perform env action w = (.error e, d, w)) ∧
    ∀ r : Route, Draft.ofRoute r = .ofSettings r.settings ∧
      Route.described? r.settings = some r := by
  intro start d requests accepted listeners defaults
  obtain ⟨hcapacity, hlisteners, hdefaults⟩ := admits_run env start history
  have hcapacity : d.registry.capacity = capacity := hcapacity
  have htable : d.registry.table = listeners := hlisteners.extended
  have hfallback : d.fallbackRoutes = defaults := hdefaults.extended
  have hfirst : listeners = (requests.filterMap (·.listener?)).take capacity := hlisteners.first
  refine ⟨⟨htable, ?_⟩, ⟨hfirst, hdefaults.first⟩, ?_, ?_, ?_, ?_,
    fun action w e => perform_of_error, fun r => ⟨rfl, rfl⟩⟩
  · rw [← hfallback, fallbackRoutes]
    cases d.registry.fallback <;> rfl
  · rw [← length_table, htable, hfirst, List.length_take]
  · rw [names_stats, htable, hfallback]
  · intro id settings w
    have hanswered := answered env d (.addRoute id settings) w
    rw [← htable, ← hcapacity]
    exact hanswered.addRoute_iff
  · intro settings w
    have hanswered := answered env d (.setDefault settings) w
    rw [← hfallback]
    exact hanswered.setDefault_iff

/-- One place for a listener: a route without a queue, one whose pool is set twice, one that comes too
late, and a default route, with a frame and a reset among them. -/
def crowded : List (Request (.integer .unsigned 1) × Unit) :=
  [(.addRoute 7#8 [.pool 0, .dropPartial true], ()),
    (.setDefault [.queue 2, .pool 2], ()),
    (.handle [7] 1, ()),
    (.addRoute 7#8 [.pool 0, .queue 1, .pool 1], ()),
    (.resetCounters, ()),
    (.addRoute 9#8 [.queue 0, .pool 0], ())]

/-- An incomplete route is refused as such although the table is full, and nothing changes. -/
theorem registrations_follow_crowded_history :
    let d := (Dispatcher.new 1).run barren (crowded.map Request.turn)
    d.registry.table = [(7#8, ⟨1, 1, false⟩)] ∧
      d.registry.fallback.map (·.route) = some ⟨2, 2, false⟩ ∧
      d.perform barren (.addRoute 9#8 (.ofSettings [.queue 0])) () =
        (.error (.incompleteRoute "no buffer pool set"), d, ()) := by
  intro d
  obtain ⟨-, -, -, -, -, -, hrefused, -⟩ := registrations_follow_history barren 1 0 crowded
  exact ⟨rfl, by decide +kernel, hrefused _ () _ rfl⟩

end Dispatcher

end Demux
