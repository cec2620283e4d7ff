import Demux.Buffer

/-!
# Queues

Buffers on their way from the dispatcher to a consumer.  The bounded queue that a program is meant to
use is first in, first out, and holds at most `capacity` buffers; when it is full it hands a buffer
back as it was given.  The other kind of queue takes nothing.
-/

namespace Demux

/-- A first-in first-out queue of limited length. -/
structure BoundedQueue where
  capacity : Nat
  /-- The buffers in the queue, the oldest first. -/
  waiting : List Buffer
  deriving DecidableEq, Repr

namespace BoundedQueue

/-- An empty queue for so many buffers, at least one. -/
def new (capacity : Nat) : BoundedQueue := ⟨max capacity 1, []⟩

/-- The number of buffers in the queue. -/
def size (q : BoundedQueue) : Nat := q.waiting.length

/-- Whether no buffer is waiting. -/
def isEmpty (q : BoundedQueue) : Bool := q.waiting.isEmpty

/-- Whether the next buffer would be handed back. -/
def isFull (q : BoundedQueue) : Bool := q.capacity ≤ q.size

/-- Append a buffer; a full queue hands it back. -/
def send (q : BoundedQueue) (b : Buffer) : Option Buffer × BoundedQueue :=
  if q.isFull then (some b, q) else (none, { q with waiting := q.waiting ++ [b] })

/-- Take the oldest buffer, if there is one. -/
def receive (q : BoundedQueue) : Option Buffer × BoundedQueue :=
  match q.waiting with
  | [] => (none, q)
  | b :: waiting => (some b, { q with waiting })

end BoundedQueue

/-- A queue of some kind. -/
inductive Queue
  | bounded (queue : BoundedQueue)
  /-- A queue that hands every buffer back, and how many it has handed back. -/
  | closed (refusals : Nat)
  deriving DecidableEq, Repr

namespace Queue

/-- Hand a buffer over; a buffer that is refused comes back. -/
def send (b : Buffer) : Queue → Option Buffer × Queue
  | bounded queue =>
      let (refused, queue) := queue.send b
      (refused, bounded queue)
  | closed refusals => (some b, closed (refusals + 1))

/-- Take the oldest buffer, if there is one. -/
def receive : Queue → Option Buffer × Queue
  | bounded queue =>
      let (b, queue) := queue.receive
      (b, bounded queue)
  | closed refusals => (none, closed refusals)

end Queue

end Demux
