/-!
# Outcomes

What becomes of a frame.  An `Outcome` is what the caller of a dispatch is told; a `Verdict` also
keeps apart the two places at which a frame can turn out too long, which only the log shows.  Every
verdict has one outcome (`Verdict.outcome`).
-/

namespace Demux

/-- What the caller is told about one frame. -/
inductive Outcome
  /-- The frame was copied and queued. -/
  | delivered
  /-- No listener and no default route took it. -/
  | unmatched
  /-- It was truncated, and its route discards truncated frames. -/
  | droppedPartial
  /-- The pool of its route had no free block. -/
  | poolExhausted
  /-- It did not fit into a block: so many bytes too many. -/
  | overflowed (bytes : Nat)
  /-- The queue of its route was full; the buffer went back to the pool. -/
  | queueFull
  deriving DecidableEq, Repr

namespace Outcome

/-- Whether the frame reached a queue. -/
def isDelivered : Outcome → Bool
  | delivered => true
  | _ => false

/-- The bytes by which the frame was too long, zero unless it overflowed. -/
def overflow : Outcome → Nat
  | overflowed bytes => bytes
  | _ => 0

/-- The outcome in debug notation. -/
def text : Outcome → String
  | delivered => "Delivered"
  | unmatched => "Unmatched"
  | droppedPartial => "DroppedPartial"
  | poolExhausted => "PoolExhausted"
  | overflowed bytes => "Overflowed \x7b bytes: " ++ Nat.repr bytes ++ " \x7d"
  | queueFull => "QueueFull"

end Outcome

/-- What a dispatch decided about one frame, and where. -/
inductive Verdict
  | delivered
  | unmatched
  | droppedPartial
  | poolExhausted
  /-- The pool refused the request as too large, by so many bytes. -/
  | exceedsBlock (bytes : Nat)
  /-- The pool handed out a block that is too small, by so many bytes. -/
  | exceedsBuffer (bytes : Nat)
  | queueFull
  deriving DecidableEq, Repr

namespace Verdict

/-- What the caller is told. -/
def outcome : Verdict → Outcome
  | delivered => .delivered
  | unmatched => .unmatched
  | droppedPartial => .droppedPartial
  | poolExhausted => .poolExhausted
  | exceedsBlock bytes => .overflowed bytes
  | exceedsBuffer bytes => .overflowed bytes
  | queueFull => .queueFull

end Verdict

end Demux
