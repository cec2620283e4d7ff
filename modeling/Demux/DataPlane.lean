import Demux.DataPlane.Pool
import Demux.DataPlane.Queue
import Demux.Dispatcher

/-!
# The data plane

The pools and queues of a session and the journal of everything that was reported.  They are the
collaborators of the dispatcher, and consumers work on them as well.  A reference to a pool or a
queue that does not exist is a pool without blocks or a queue that takes nothing.
-/

namespace Demux

/-- A pool and how many buffers were released into it, kept or not. -/
structure PoolSlot where
  pool : Pool
  releases : Nat := 0
  deriving DecidableEq, Repr

/-- Pools, queues and the journal. -/
structure DataPlane where
  pools : List PoolSlot
  queues : List Queue
  /-- Everything that was reported, the latest event first. -/
  journal : List Event := []

namespace DataPlane

/-- Report an event. -/
def note (p : DataPlane) (e : Event) : DataPlane := { p with journal := e :: p.journal }

/-- Everything that was reported, in order. -/
def events (p : DataPlane) : List Event := p.journal.reverse

/-- A reported event is the last one. -/
@[simp] theorem events_note (p : DataPlane) (e : Event) : (p.note e).events = p.events ++ [e] := by
  simp [events, note]

/-- Take a buffer for `len` bytes from a pool. -/
def acquire (view : Option Stats) (pool : PoolRef) (len : Nat) (p : DataPlane) :
    Except PoolError Buffer × DataPlane :=
  match p.pools[pool]? with
  | none => (.error .exhausted, p)
  | some slot =>
    let (result, next) := slot.pool.acquire view len
    (result, { p with pools := p.pools.set pool { slot with pool := next } })

/-- Give a buffer back to a pool.  A block that the pool discards is reported. -/
def release (view : Option Stats) (pool : PoolRef) (b : Buffer) (p : DataPlane) : DataPlane :=
  match p.pools[pool]? with
  | none => p
  | some slot =>
    let (discard, next) := slot.pool.release view b
    let p := { p with pools := p.pools.set pool ⟨next, slot.releases + 1⟩ }
    match discard with
    | none => p
    | some discard => p.note (.pool discard)

/-- Hand a buffer to a queue; a buffer that is refused comes back. -/
def send (queue : QueueRef) (b : Buffer) (p : DataPlane) : Option Buffer × DataPlane :=
  match p.queues[queue]? with
  | none => (some b, p)
  | some q =>
    let (refused, next) := q.send b
    (refused, { p with queues := p.queues.set queue next })

/-- Take the oldest buffer of a queue, if there is one. -/
def receive (queue : QueueRef) (p : DataPlane) : Option Buffer × DataPlane :=
  match p.queues[queue]? with
  | none => (none, p)
  | some q =>
    let (b, next) := q.receive
    (b, { p with queues := p.queues.set queue next })

/-- The collaborators of a dispatcher, which let pools see the given snapshot, if any. -/
def collaborators (view : Option Stats) : Collaborators DataPlane where
  acquire := acquire view
  release := release view
  send := send

end DataPlane

end Demux
