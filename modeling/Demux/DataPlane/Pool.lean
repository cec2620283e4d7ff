import Demux.BlockPool
import Demux.Stats

/-!
# Kinds of pools

The pool of blocks that a program is meant to use, a variant of it that watches its caller, and
three that never deliver what they say: one without blocks, one whose blocks are smaller than it
says, and one that refuses every request as too large.  Buffers released into one of the last
three are gone.
-/

namespace Demux

/-- A pool of some kind. -/
inductive Pool
  | fixed (pool : BlockPool)
  /-- A pool of blocks that looks for a snapshot of the statistics at the start of every call and
  notes whether there was one, the latest call first. -/
  | probing (pool : BlockPool) (sightings : List Bool)
  /-- A pool without blocks. -/
  | empty (blockSize : Nat)
  /-- A pool whose blocks are of another size than it says. -/
  | short (stated actual : Nat)
  /-- A pool that refuses every request in the same words. -/
  | refusing (requested blockSize : Nat)
  deriving DecidableEq, Repr

namespace Pool

/-- The block size that a pool states. -/
def blockSize : Pool → Nat
  | fixed pool => pool.blockSize
  | probing pool _ => pool.blockSize
  | empty blockSize => blockSize
  | short stated _ => stated
  | refusing _ blockSize => blockSize

/-- The blocks behind a pool, if it keeps any. -/
def blockPool? : Pool → Option BlockPool
  | fixed pool => some pool
  | probing pool _ => some pool
  | _ => none

/-- What a watching pool has seen so far, call by call. -/
def sightings? : Pool → Option (List Bool)
  | probing _ sightings => some sightings.reverse
  | _ => none

/-- Take a buffer for `len` bytes.  The caller lets the pool see the given snapshot, if any. -/
def acquire (view : Option Stats) (len : Nat) : Pool → Except PoolError Buffer × Pool
  | fixed pool =>
      let (result, pool) := pool.acquire len
      (result, fixed pool)
  | probing pool sightings =>
      let (result, pool) := pool.acquire len
      (result, probing pool (view.isSome :: sightings))
  | empty blockSize => (.error .exhausted, empty blockSize)
  | short stated actual =>
      (.ok (.ofBlock (List.replicate actual 0)), short stated actual)
  | refusing requested blockSize =>
      (.error (.tooLarge requested blockSize), refusing requested blockSize)

/-- Give a buffer back. -/
def release (view : Option Stats) (b : Buffer) : Pool → Option Discard × Pool
  | fixed pool =>
      let (discard, pool) := pool.release b
      (discard, fixed pool)
  | probing pool sightings =>
      let (discard, pool) := pool.release b
      (discard, probing pool (view.isSome :: sightings))
  | pool => (none, pool)

end Pool

end Demux
