import Demux.DataPlane
import Demux.Receive

/-!
# Stations

A dispatcher at work: behind its lock, with its pools and queues beside it.  Every operation on the
dispatcher takes the lock and leaves it again; pools that are called meanwhile see that it is taken.

One operation at a time may work on a value behind a lock.  An observer who does not want to wait sees
the value only while the lock is free.  An operation that finds the lock taken has to wait for whoever
holds it, and is counted.
-/

namespace Demux

/-- A value behind a lock. -/
structure Locked (σ : Type) where
  value : σ
  /-- Whether an operation holds the lock. -/
  held : Bool := false
  /-- How many operations found the lock taken. -/
  waits : Nat := 0

namespace Locked

variable {σ : Type}

/-- Take the lock, waiting for it if need be. -/
def take (l : Locked σ) : Locked σ :=
  { l with held := true, waits := if l.held then l.waits + 1 else l.waits }

/-- Leave a new value behind and give the lock up. -/
def leave (l : Locked σ) (value : σ) : Locked σ := { l with value, held := false }

/-- The value, if nobody holds the lock. -/
def tryRead (l : Locked σ) : Option σ := if l.held then none else some l.value

end Locked

/-- A dispatcher behind its lock, with its pools and queues. -/
structure Station (f : Format) where
  lock : Locked (Dispatcher f)
  plane : DataPlane

namespace Station

variable {f : Format}

/-- A station with a new dispatcher. -/
def new (dispatcher : Dispatcher f) (pools : List Pool) (queues : List Queue) : Station f where
  lock := { value := dispatcher }
  plane := { pools := pools.map fun pool => { pool }, queues }

/-- The snapshot that an observer gets who does not wait for the lock. -/
def view (st : Station f) : Option Stats := st.lock.tryRead.map (·.stats)

/-- Work on the dispatcher and its pools and queues while holding the lock. -/
def exclusively {α : Type}
    (body : Collaborators DataPlane → Dispatcher f → DataPlane → α × Dispatcher f × DataPlane)
    (st : Station f) : α × Station f :=
  let taken := { st with lock := st.lock.take }
  let (a, dispatcher, plane) := body (DataPlane.collaborators taken.view) taken.lock.value taken.plane
  (a, { lock := taken.lock.leave dispatcher, plane })

/-- Do what is asked of the dispatcher and report the event that it is, if it is not refused. -/
def perform (action : Action f) (st : Station f) : Except DispatchError DispatchEvent × Station f :=
  st.exclusively fun env dispatcher plane =>
    let (result, dispatcher, plane) := dispatcher.perform env action plane
    let plane := match result with
      | .ok event => plane.note (.dispatch event)
      | .error _ => plane
    (result, dispatcher, plane)

/-- Deal with one frame. -/
def handle (frame : Bytes) (reported : Nat) (st : Station f) : Outcome × Station f :=
  st.exclusively fun env dispatcher plane =>
    let (report, dispatcher, plane) := dispatcher.handle env frame reported plane
    (report.outcome, dispatcher, plane.note (.dispatch (.frame report)))

/-- A frame that is dealt with is one of the actions: both ways lead to the same station. -/
theorem perform_handle (frame : Bytes) (reported : Nat) (st : Station f) :
    (st.perform (.handle frame reported)).2 = (st.handle frame reported).2 := rfl

/-- Ask the dispatcher something. -/
def ask {α : Type} (question : Dispatcher f → α) (st : Station f) : α × Station f :=
  st.exclusively fun _ dispatcher plane => (question dispatcher, dispatcher, plane)

/-- A station takes the frames and events of a worker. -/
def sink : Sink (Station f) where
  accept := handle
  note event st := { st with plane := st.plane.note (.loop event) }

/-- Take a buffer from a pool, as a consumer. -/
def acquire (pool : PoolRef) (len : Nat) (st : Station f) : Except PoolError Buffer × Station f :=
  let (result, plane) := st.plane.acquire st.view pool len
  (result, { st with plane })

/-- Give a buffer back to a pool, as a consumer. -/
def release (pool : PoolRef) (b : Buffer) (st : Station f) : Station f :=
  { st with plane := st.plane.release st.view pool b }

/-- Hand a buffer to a queue; a buffer that is refused comes back. -/
def send (queue : QueueRef) (b : Buffer) (st : Station f) : Option Buffer × Station f :=
  let (refused, plane) := st.plane.send queue b
  (refused, { st with plane })

/-- Take the oldest buffer of a queue, if there is one. -/
def receive (queue : QueueRef) (st : Station f) : Option Buffer × Station f :=
  let (b, plane) := st.plane.receive queue
  (b, { st with plane })

end Station

end Demux
