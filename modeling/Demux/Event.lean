import Demux.BlockPool
import Demux.Outcome

/-!
# Events

What a dispatcher, its pools and a receive loop report while they work.  Each event has a level, a
message and named fields (`Event.line` writes them as one line).  A dispatcher reports every frame
by a `Report`, which holds all that is decided about it, so the outcome told to the caller and the
line in the log come from one value.
-/

namespace Demux

/-- What a dispatcher says about one frame. -/
structure Report where
  /-- The identifier read from the frame, as text. -/
  id : Option String
  /-- The length of the frame. -/
  length : Nat
  /-- The length that the frame had on the link. -/
  reported : Nat
  verdict : Verdict
  deriving DecidableEq, Repr

/-- What the caller is told about the frame. -/
def Report.outcome (r : Report) : Outcome := r.verdict.outcome

/-- What a dispatcher reports. -/
inductive DispatchEvent
  /-- A listener was registered, the last of so many that there are now. -/
  | listenerRegistered (id : String) (listeners capacity : Nat)
  /-- The default route was installed. -/
  | defaultRegistered
  /-- A frame was dealt with. -/
  | frame (report : Report)
  /-- Every counter went back to zero. -/
  | countersReset
  deriving DecidableEq, Repr

/-- What a receive loop reports. -/
inductive LoopEvent
  | started (frameLimit timeoutMillis : Nat) (heartbeat : Bool)
  /-- A frame did not reach a queue; it was the frame of this number. -/
  | notDelivered (outcome : Outcome) (frames : Nat)
  | aborted (error : DispatchError) (frames : Nat)
  | stopped (frames : Nat)
  deriving DecidableEq, Repr

/-- What is reported by the dispatcher, by a pool or by a receive loop. -/
inductive Event
  | dispatch (event : DispatchEvent)
  | pool (discard : Discard)
  | loop (event : LoopEvent)
  deriving DecidableEq, Repr

/-- How much an event matters. -/
inductive Level
  | trace
  | debug
  | info
  | warn
  | error
  deriving DecidableEq, Repr

/-- The name of a level. -/
def Level.text : Level → String
  | trace => "TRACE"
  | debug => "DEBUG"
  | info => "INFO"
  | warn => "WARN"
  | error => "ERROR"

/-- One entry of a log. -/
structure Entry where
  level : Level
  message : String
  fields : List (String × String)
  deriving DecidableEq, Repr

/-- An entry on one line: level, message and fields, separated by blanks. -/
def Entry.line (e : Entry) : String :=
  " ".intercalate (e.level.text :: e.message ::
    e.fields.map fun (name, value) => name ++ "=" ++ value)

namespace Report

/-- The identifier in debug notation. -/
def idText (r : Report) : String :=
  match r.id with
  | none => "None"
  | some id => "Some(" ++ id ++ ")"

/-- The log entry about a frame. -/
def entry (r : Report) : Entry :=
  let id := ("id", r.idText)
  let len := ("len", Nat.repr r.length)
  match r.verdict with
  | .unmatched => ⟨.trace, "Unmatched frame dropped", [id, len]⟩
  | .droppedPartial =>
      ⟨.debug, "Partial frame dropped", [id, len, ("reported_len", Nat.repr r.reported)]⟩
  | .exceedsBlock bytes =>
      ⟨.debug, "Frame exceeds block size", [id, len, ("overflow", Nat.repr bytes)]⟩
  | .poolExhausted => ⟨.debug, "Buffer pool exhausted", [id, len]⟩
  | .exceedsBuffer bytes =>
      ⟨.debug, "Frame exceeds acquired buffer", [id, len, ("overflow", Nat.repr bytes)]⟩
  | .queueFull => ⟨.debug, "Queue full, frame dropped", [id, len]⟩
  | .delivered => ⟨.trace, "Frame delivered", [id, len]⟩

end Report

namespace Event

/-- The log entry of an event. -/
def entry : Event → Entry
  | dispatch (.listenerRegistered id listeners capacity) =>
      ⟨.debug, "Listener registered",
        [("id", id), ("listeners", Nat.repr listeners), ("capacity", Nat.repr capacity)]⟩
  | dispatch .defaultRegistered => ⟨.debug, "Default route registered", []⟩
  | dispatch (.frame report) => report.entry
  | dispatch .countersReset => ⟨.debug, "Error counters reset", []⟩
  | pool (.foreign length blockSize) =>
      ⟨.warn, "Discarding foreign block released into pool",
        [("block_len", Nat.repr length), ("block_size", Nat.repr blockSize)]⟩
  | pool (.surplus capacity) =>
      ⟨.warn, "Discarding block released into a full pool", [("capacity", Nat.repr capacity)]⟩
  | loop (.started frameLimit timeoutMillis heartbeat) =>
      ⟨.info, "Receive loop started",
        [("max_frame_len", Nat.repr frameLimit), ("timeout_ms", Nat.repr timeoutMillis),
          ("heartbeat", toString heartbeat)]⟩
  | loop (.notDelivered outcome frames) =>
      ⟨.debug, "Frame not delivered", [("outcome", outcome.text), ("frames", Nat.repr frames)]⟩
  | loop (.aborted error frames) =>
      ⟨.error, "Receive loop aborted", [("error", error.message), ("frames", Nat.repr frames)]⟩
  | loop (.stopped frames) => ⟨.info, "Receive loop stopped", [("frames", Nat.repr frames)]⟩

/-- An event as one line. -/
def line (e : Event) : String := e.entry.line

end Event

end Demux
