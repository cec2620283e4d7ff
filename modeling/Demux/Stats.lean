import Demux.Counters

/-!
# Statistics

A snapshot of every counter of a dispatcher, taken at one moment: the global counters and those of
every route, listeners in the order of their registration and the default route last.
-/

namespace Demux

/-- The counters of one route. -/
structure ListenerStats where
  /-- The listener's identifier as text; absent for the default route. -/
  id : Option String
  /-- Whether the route discards truncated frames. -/
  dropPartial : Bool
  counters : DropCounters
  deriving DecidableEq, Repr

/-- A snapshot of every counter. -/
structure Stats where
  global : GlobalCounters
  listeners : List ListenerStats
  deriving DecidableEq, Repr

namespace Stats

/-- The sum of the counters of all routes. -/
def listenerTotals (s : Stats) : DropCounters :=
  DropCounters.sum (s.listeners.map (·.counters))

/-- Whether every counter is zero. -/
def isClear (s : Stats) : Bool :=
  s.global.drops.isClear && s.global.unmatched.val == 0 &&
    s.listeners.all (·.counters.isClear)

/-- The global counters as one line. -/
def summary (s : Stats) : String :=
  "dropped=" ++ Nat.repr s.global.drops.dropped.val ++
  " partial=" ++ Nat.repr s.global.drops.partials.val ++
  " overflowed_bytes=" ++ Nat.repr s.global.drops.overflow.val ++
  " unmatched=" ++ Nat.repr s.global.unmatched.val

end Stats

end Demux
