import Demux.Event
import Demux.Registry

/-!
# Dispatching frames

A dispatcher reads the identifier at a fixed offset of every frame, finds the route for it, copies
the frame into a buffer from the route's pool and hands the buffer to the route's queue.  Nothing
here waits or fails: a frame that cannot be delivered is counted and dropped.

Pools and queues are **collaborators**: a state of any type with three operations, about which
nothing is assumed.  A pool may refuse for reasons of its own or hand out blocks of any size, and a
queue may refuse a buffer whenever it likes.
-/

namespace Demux

/-- The pools and queues that a dispatcher works with, over a state of type `W`. -/
structure Collaborators (W : Type) where
  /-- Take a buffer for so many bytes from a pool. -/
  acquire : PoolRef → Nat → W → Except PoolError Buffer × W
  /-- Give a buffer back to a pool. -/
  release : PoolRef → Buffer → W → W
  /-- Hand a buffer to a queue, which may hand one back. -/
  send : QueueRef → Buffer → W → Option Buffer × W

/-- Offer a frame to a route.  The pool is asked for a buffer once; a buffer that was handed out
goes to the queue or, if it is too short or the queue refuses it, back to the pool. -/
def Route.offer {W : Type} (env : Collaborators W) (r : Route) (frame : Bytes) (reported : Nat)
    (w : W) : Verdict × W :=
  if r.dropPartial ∧ frame.length < reported then (.droppedPartial, w)
  else
    match env.acquire r.pool frame.length w with
    | (.error e, w) => (if 0 < e.overflow then .exceedsBlock e.overflow else .poolExhausted, w)
    | (.ok buffer, w) =>
      match buffer.fill frame with
      | .error e => (.exceedsBuffer e.overflow, env.release r.pool buffer w)
      | .ok filled =>
        match env.send r.queue filled w with
        | (none, w) => (.delivered, w)
        | (some refused, w) => (.queueFull, env.release r.pool refused w)

/-- A dispatcher for frames whose identifiers have one format. -/
structure Dispatcher (f : Format) where
  /-- Where the identifier stands in every frame. -/
  offset : Nat
  registry : Registry f
  totals : GlobalCounters := {}

/-- What can be asked of a dispatcher. -/
inductive Action (f : Format)
  | addRoute (id : f.Value) (draft : Draft)
  | setDefault (draft : Draft)
  /-- Deal with a frame that had the reported length on the link. -/
  | handle (frame : Bytes) (reported : Nat)
  | resetCounters

namespace Dispatcher

variable {f : Format} {W : Type}

/-- A dispatcher without routes, for so many listeners.  Identifiers are expected at the start of
the frame unless another offset is given. -/
def new (capacity : Nat) (offset : Nat := 0) : Dispatcher f where
  offset
  registry := { capacity }

/-- The route that a frame goes to, and its place. -/
def resolve (d : Dispatcher f) (frame : Bytes) : Option (Slot × Endpoint) :=
  d.registry.resolve (f.readAt frame d.offset)

/-- Deal with one frame.  What was decided is counted on the route and in total. -/
def handle (env : Collaborators W) (d : Dispatcher f) (frame : Bytes) (reported : Nat) (w : W) :
    Report × Dispatcher f × W :=
  let report (verdict : Verdict) : Report :=
    ⟨(f.readAt frame d.offset).map f.text, frame.length, reported, verdict⟩
  match d.resolve frame with
  | none => (report .unmatched, { d with totals := d.totals.record .unmatched }, w)
  | some (slot, endpoint) =>
    let (verdict, w) := endpoint.route.offer env frame reported w
    (report verdict,
      { d with
        registry := d.registry.record slot verdict.outcome
        totals := d.totals.record verdict.outcome },
      w)

/-- Do what is asked.  A registration may be refused; everything else, and every registration that
is accepted, is one event. -/
def perform (env : Collaborators W) (d : Dispatcher f) (action : Action f) (w : W) :
    Except DispatchError DispatchEvent × Dispatcher f × W :=
  match action with
  | .addRoute id draft =>
    match d.registry.add id draft with
    | .error e => (.error e, d, w)
    | .ok registry =>
        (.ok (.listenerRegistered (f.text id) registry.listeners.length registry.capacity),
          { d with registry }, w)
  | .setDefault draft =>
    match d.registry.setDefault draft with
    | .error e => (.error e, d, w)
    | .ok registry => (.ok .defaultRegistered, { d with registry }, w)
  | .handle frame reported =>
    let (report, d, w) := d.handle env frame reported w
    (.ok (.frame report), d, w)
  | .resetCounters =>
    (.ok .countersReset, { d with registry := d.registry.resetCounters, totals := {} }, w)

/-- A snapshot of every counter. -/
def stats (d : Dispatcher f) : Stats := ⟨d.totals, d.registry.listenerStats⟩

/-- The sum of the counters of the routes that lead to a queue. -/
def countersFor (d : Dispatcher f) (queue : QueueRef) : DropCounters := d.registry.countersFor queue

/-- The dispatcher in debug notation. -/
def text (d : Dispatcher f) : String :=
  "Dispatcher \x7b offset: " ++ Nat.repr d.offset ++ ", capacity: " ++
    Nat.repr d.registry.capacity ++ ", .. \x7d"

end Dispatcher

end Demux
