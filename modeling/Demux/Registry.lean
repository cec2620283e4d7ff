import Demux.Identifier
import Demux.Route
import Demux.Stats

/-!
# Registry

The routes of a dispatcher: a list of listeners of limited length, each for one identifier, and at
most one default route.  Routes are only ever added.  A frame goes to the first listener registered
for its identifier, and to the default route if there is none or the frame has no identifier.
-/

namespace Demux

/-- A route for frames with one identifier. -/
structure Listener (f : Format) where
  id : f.Value
  endpoint : Endpoint

/-- The routes of a dispatcher. -/
structure Registry (f : Format) where
  /-- The largest number of listeners. -/
  capacity : Nat
  /-- The listeners in the order of their registration. -/
  listeners : List (Listener f) := []
  /-- The default route. -/
  fallback : Option Endpoint := none
  length_le : listeners.length ≤ capacity := by simp

/-- The place of a route in a registry. -/
inductive Slot
  /-- The listener registered after so many others. -/
  | listener (index : Nat)
  /-- The default route. -/
  | fallback
  deriving DecidableEq, Repr

namespace Registry

variable {f : Format}

/-- Add a listener.  An incomplete route is refused even when no place is left, and identifiers may
repeat. -/
def add (r : Registry f) (id : f.Value) (draft : Draft) : Except DispatchError (Registry f) :=
  match draft.build with
  | .error e => .error e
  | .ok route =>
    if h : r.listeners.length < r.capacity then
      .ok { r with
        listeners := r.listeners ++ [⟨id, { route }⟩]
        length_le := by rw [List.length_append, List.length_singleton]; exact h }
    else .error (.registryFull s!"all {r.capacity} listener slots in use")

/-- Install the default route, which can be done once.  A second one is refused as such even when
it is incomplete. -/
def setDefault (r : Registry f) (draft : Draft) : Except DispatchError (Registry f) :=
  if r.fallback.isSome then .error .defaultAlreadySet
  else draft.build.map fun route => { r with fallback := some { route } }

/-- The place of the route for an identifier: the first listener registered for it, or else the
default route. -/
def slotFor? (r : Registry f) (id : Option f.Value) : Option Slot :=
  match id.bind fun id => r.listeners.findIdx? (·.id = id) with
  | some index => some (.listener index)
  | none => r.fallback.map fun _ => .fallback

/-- The route at a place. -/
def endpoint? (r : Registry f) : Slot → Option Endpoint
  | .listener index => r.listeners[index]?.map (·.endpoint)
  | .fallback => r.fallback

/-- The route for an identifier and its place. -/
def resolve (r : Registry f) (id : Option f.Value) : Option (Slot × Endpoint) := do
  let slot ← r.slotFor? id
  let endpoint ← r.endpoint? slot
  return (slot, endpoint)

/-- Count an outcome on the route at a place. -/
def record (r : Registry f) (slot : Slot) (outcome : Outcome) : Registry f :=
  let count (e : Endpoint) : Endpoint := { e with counters := e.counters.record outcome }
  match slot with
  | .listener index =>
      { r with
        listeners := r.listeners.modify index fun l => { l with endpoint := count l.endpoint }
        length_le := by simpa using r.length_le }
  | .fallback => { r with fallback := r.fallback.map count }

/-- Set the counters of every route back to zero. -/
def resetCounters (r : Registry f) : Registry f :=
  let reset (e : Endpoint) : Endpoint := { e with counters := {} }
  { r with
    listeners := r.listeners.map fun l => { l with endpoint := reset l.endpoint }
    fallback := r.fallback.map reset
    length_le := by simpa using r.length_le }

/-- All routes, listeners in order and the default route last. -/
def endpoints (r : Registry f) : List Endpoint :=
  r.listeners.map (·.endpoint) ++ r.fallback.toList

/-- The sum of the counters of the routes that lead to a queue. -/
def countersFor (r : Registry f) (queue : QueueRef) : DropCounters :=
  DropCounters.sum ((r.endpoints.filter (·.route.queue = queue)).map (·.counters))

/-- The counters of every route, listeners in order and the default route last. -/
def listenerStats (r : Registry f) : List ListenerStats :=
  (r.listeners.map fun l =>
    ⟨some (f.text l.id), l.endpoint.route.dropPartial, l.endpoint.counters⟩) ++
  (r.fallback.toList.map fun e => ⟨none, e.route.dropPartial, e.counters⟩)

end Registry

end Demux
