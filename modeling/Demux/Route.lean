import Demux.Counters
import Demux.Error

/-!
# Routes

A route says where frames go: into which queue, in buffers from which pool, and whether truncated
frames are discarded on the way.  It is put together as a `Draft`, setting by setting, and accepted
once it has a pool and a queue.
-/

namespace Demux

/-- Which pool. -/
abbrev PoolRef := Nat

/-- Which queue. -/
abbrev QueueRef := Nat

/-- Where frames go. -/
structure Route where
  pool : PoolRef
  queue : QueueRef
  /-- Whether truncated frames are discarded. -/
  dropPartial : Bool
  deriving DecidableEq, Repr

/-- A route in the making. -/
structure Draft where
  pool : Option PoolRef := none
  queue : Option QueueRef := none
  dropPartial : Bool := false
  deriving DecidableEq, Repr

namespace Draft

/-- One setting of a route. -/
inductive Setting
  | pool (pool : PoolRef)
  | queue (queue : QueueRef)
  | dropPartial (value : Bool)
  deriving DecidableEq, Repr

/-- Apply a setting, in place of an earlier one of its kind. -/
def set (d : Draft) : Setting → Draft
  | .pool pool => { d with pool := some pool }
  | .queue queue => { d with queue := some queue }
  | .dropPartial value => { d with dropPartial := value }

/-- The draft that settings make, applied in order. -/
def ofSettings (settings : List Setting) : Draft := settings.foldl set {}

/-- The draft of a complete route. -/
def ofRoute (r : Route) : Draft := ⟨some r.pool, some r.queue, r.dropPartial⟩

/-- Whether both a pool and a queue are set. -/
def isComplete (d : Draft) : Bool := d.pool.isSome && d.queue.isSome

/-- The finished route.  A missing pool is noticed before a missing queue. -/
def build (d : Draft) : Except DispatchError Route :=
  match d.pool, d.queue with
  | some pool, some queue => .ok ⟨pool, queue, d.dropPartial⟩
  | none, _ => .error (.incompleteRoute "no buffer pool set")
  | some _, none => .error (.incompleteRoute "no queue set")

/-- The draft in debug notation. -/
def text (d : Draft) : String :=
  "RouteBuilder \x7b has_pool: " ++ toString d.pool.isSome ++ ", has_queue: " ++
    toString d.queue.isSome ++ ", drop_partial: " ++ toString d.dropPartial ++ " \x7d"

end Draft

/-- A registered route and what was lost on it. -/
structure Endpoint where
  route : Route
  counters : DropCounters := {}
  deriving DecidableEq, Repr

end Demux
