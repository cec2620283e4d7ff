import Demux.Station

/-!
# Sessions

A station together with those who use it: a consumer who holds buffers under names, and workers that
feed the station with frames.  `Session.step` carries out one operation and gives its answer,
`Session.run` carries out one after another.
-/

namespace Demux

/-- Things kept under names. -/
abbrev Shelf (α : Type) := List (String × α)

namespace Shelf

variable {α : Type}

/-- What is kept under a name. -/
def find? (s : Shelf α) (name : String) : Option α :=
  (List.find? (·.1 = name) s).map (·.2)

/-- A shelf with nothing under a name. -/
def remove (s : Shelf α) (name : String) : Shelf α := s.filter (·.1 ≠ name)

/-- Keep something under a name, in place of what was there. -/
def put (s : Shelf α) (name : String) (a : α) : Shelf α := (name, a) :: s.remove name

end Shelf

/-- What a consumer does with a received buffer. -/
inductive Disposal
  /-- Give it back to a pool at once. -/
  | release (pool : PoolRef)
  | keep (name : String)
  | drop
  deriving DecidableEq, Repr

/-- One operation of a session. -/
inductive Op (f : Format)
  /-- Ask something of the dispatcher. -/
  | act (action : Action f)
  /-- The counters of the routes that lead to a queue. -/
  | countersFor (queue : QueueRef)
  | stats
  /-- A snapshot, unless the lock is not free. -/
  | tryStats
  /-- Take the oldest buffer of a queue. -/
  | receive (queue : QueueRef) (disposal : Disposal)
  /-- Take a buffer from a pool, and keep it if a name is given. -/
  | acquire (pool : PoolRef) (len : Nat) (keep : Option String)
  /-- Keep a block of one's own as a buffer. -/
  | block (data : Bytes) (name : String)
  | fill (name : String) (data : Bytes)
  | clear (name : String)
  | send (name : String) (queue : QueueRef)
  | release (name : String) (pool : PoolRef)
  /-- Take a held buffer apart. -/
  | intoBlock (name : String)
  /-- Set a worker up under a name. -/
  | employ (name : String) (worker : Worker)
  /-- Let a worker make one receive call. -/
  | poll (name : String)
  /-- Let a worker run its receive loop to the end. -/
  | run (name : String) (stopped : Bool)

/-- What an operation answers. -/
inductive Answer
  | done
  | refused (error : DispatchError)
  | handled (outcome : Outcome)
  | counters (counters : DropCounters)
  | stats (stats : Option Stats)
  /-- A buffer, if there was one. -/
  | buffer (buffer : Option Buffer)
  | acquired (result : Except PoolError Buffer)
  /-- Whether a fill succeeded, and the buffer afterwards. -/
  | filled (error : Option PoolError) (buffer : Buffer)
  /-- The buffer that a queue handed back, if it did. -/
  | sent (refused : Option Buffer)
  | block (data : Bytes)
  | polled (result : Except DispatchError (Option Outcome)) (signals : List Signal)
  | ran (result : Except DispatchError Nat) (signals : List Signal)
  /-- Nothing is kept under the name. -/
  | missing

/-- The answer to what was asked of a dispatcher. -/
def Answer.ofDispatch : Except DispatchError DispatchEvent → Answer
  | .error e => .refused e
  | .ok (.frame report) => .handled report.outcome
  | .ok _ => .done

/-- A station with the buffers that a consumer holds and the workers that are set up. -/
structure Session (f : Format) where
  station : Station f
  held : Shelf Buffer := []
  workers : Shelf Worker := []

namespace Session

variable {f : Format}

/-- A session with a new dispatcher. -/
def new (dispatcher : Dispatcher f) (pools : List Pool) (queues : List Queue) : Session f where
  station := .new dispatcher pools queues

/-- Keep a buffer if a name is given for it. -/
def keep (s : Session f) (name : Option String) (b : Buffer) : Session f :=
  match name with
  | none => s
  | some name => { s with held := s.held.put name b }

/-- Do with a received buffer what is intended. -/
def dispose (s : Session f) (b : Buffer) : Disposal → Session f
  | .release pool => { s with station := s.station.release pool b }
  | .keep name => s.keep (some name) b
  | .drop => s

/-- Carry out an operation on a held buffer. -/
def withHeld (s : Session f) (name : String) (body : Buffer → Answer × Session f) :
    Answer × Session f :=
  match s.held.find? name with
  | none => (.missing, s)
  | some b => body b

/-- Carry out an operation with a worker. -/
def withWorker (s : Session f) (name : String) (body : Worker → Answer × Session f) :
    Answer × Session f :=
  match s.workers.find? name with
  | none => (.missing, s)
  | some w => body w

/-- Carry out one operation. -/
def step (s : Session f) : Op f → Answer × Session f
  | .act action =>
      let (result, station) := s.station.perform action
      (.ofDispatch result, { s with station })
  | .countersFor queue =>
      let (counters, station) := s.station.ask (·.countersFor queue)
      (.counters counters, { s with station })
  | .stats =>
      let (stats, station) := s.station.ask (·.stats)
      (.stats (some stats), { s with station })
  | .tryStats => (.stats s.station.view, s)
  | .receive queue disposal =>
      let (b, station) := s.station.receive queue
      let s := { s with station }
      (.buffer b, match b with
        | none => s
        | some b => s.dispose b disposal)
  | .acquire pool len name =>
      let (result, station) := s.station.acquire pool len
      let s := { s with station }
      (.acquired result, match result with
        | .error _ => s
        | .ok b => s.keep name b)
  | .block data name => (.buffer (some (.ofBlock data)), s.keep (some name) (.ofBlock data))
  | .fill name data => s.withHeld name fun b =>
      match b.fill data with
      | .error e => (.filled (some e) b, s)
      | .ok b => (.filled none b, s.keep (some name) b)
  | .clear name => s.withHeld name fun b => (.buffer (some b.clear), s.keep (some name) b.clear)
  | .send name queue => s.withHeld name fun b =>
      let (refused, station) := s.station.send queue b
      let s := { s with station }
      (.sent refused, match refused with
        | none => { s with held := s.held.remove name }
        | some b => s.keep (some name) b)
  | .release name pool => s.withHeld name fun b =>
      (.done, { s with station := s.station.release pool b, held := s.held.remove name })
  | .intoBlock name => s.withHeld name fun b =>
      (.block b.block, { s with held := s.held.remove name })
  | .employ name worker => (.done, { s with workers := s.workers.put name worker })
  | .poll name => s.withWorker name fun w =>
      let (result, next, station) := w.poll Station.sink s.station
      (.polled result w.signals, { s with station, workers := s.workers.put name next })
  | .run name stopped => s.withWorker name fun w =>
      let ended := w.run Station.sink stopped s.station
      (.ran ended.result ended.signals,
        { s with station := ended.state, workers := s.workers.remove name })

/-- Carry out operations one after another, with their answers in order. -/
def run (s : Session f) : List (Op f) → List Answer × Session f
  | [] => ([], s)
  | op :: ops =>
      let (answer, s) := s.step op
      let (answers, s) := s.run ops
      (answer :: answers, s)

end Session

end Demux
