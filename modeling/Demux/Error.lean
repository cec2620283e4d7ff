/-!
# Errors

Two families: a pool that cannot hand out a buffer (`PoolError`), and everything registration, a
receive loop or telemetry can fail with (`DispatchError`).  Dispatching a frame has no errors; a
frame that cannot be delivered is counted and dropped.
-/

namespace Demux

/-- Why a pool hands out no buffer. -/
inductive PoolError
  /-- No free block is left. -/
  | exhausted
  /-- The request does not fit into a single block. -/
  | tooLarge (requested blockSize : Nat)
  deriving DecidableEq, Repr

namespace PoolError

/-- The number of bytes that did not fit: zero for exhaustion, and zero also when a pool refuses a
request that would have fitted. -/
def overflow : PoolError → Nat
  | exhausted => 0
  | tooLarge requested blockSize => requested - blockSize

/-- The sentence shown for a pool error. -/
def message : PoolError → String
  | exhausted => "Pool exhausted"
  | tooLarge requested blockSize =>
      s!"{requested} bytes exceed block size of {blockSize}"

end PoolError

/-- Why a registration, a receive call or a telemetry export failed. -/
inductive DispatchError
  /-- A route was registered without a pool or without a queue. -/
  | incompleteRoute (detail : String)
  /-- Every listener slot is taken. -/
  | registryFull (detail : String)
  /-- A default route can be installed only once. -/
  | defaultAlreadySet
  /-- The link-layer receiver failed. -/
  | receiveFailed (detail : String)
  /-- Statistics could not be encoded. -/
  | serialization (detail : String)
  deriving DecidableEq, Repr

namespace DispatchError

/-- The sentence shown for a dispatch error: its kind and, except for a default route that is
already set, the detail. -/
def message : DispatchError → String
  | incompleteRoute detail => "Incomplete route: " ++ detail
  | registryFull detail => "Registry full: " ++ detail
  | defaultAlreadySet => "Default route already set"
  | receiveFailed detail => "Receive failed: " ++ detail
  | serialization detail => "Serialization error: " ++ detail

end DispatchError

end Demux
