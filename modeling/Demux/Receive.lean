import Demux.Bytes
import Demux.Duration
import Demux.Event

/-!
# Receiving

A worker takes frames from a link into one receive buffer and hands what it captured, together with
the length that the frame had on the link, to a `Sink`.  The link is a script of arrivals, so a
receive loop ends at the latest with the script.  A frame overwrites the start of the receive buffer
and leaves the rest as it was.

Before every receive call a worker with a heartbeat announces how long the call and the work after
it may take.

A loop counts its frames in natural numbers.  A count in a 64-bit word would be the same for every script
of fewer than `2 ^ 64` frames.
-/

namespace Demux

/-- What takes the frames and the events of a worker. -/
structure Sink (σ : Type) where
  /-- Deal with a captured frame that had the reported length on the link. -/
  accept : Bytes → Nat → σ → Outcome × σ
  /-- Report an event of the receive loop. -/
  note : LoopEvent → σ → σ

/-- What one receive call comes to. -/
inductive Reception
  /-- A frame and the length that it is said to have had on the link. -/
  | frame (data : Bytes) (reported : Nat)
  /-- No frame came within the timeout. -/
  | silence
  | failure (error : DispatchError)
  deriving DecidableEq, Repr

/-- One receive call of a script. -/
structure Arrival where
  reception : Reception
  /-- Whether the loop is told to stop during the call. -/
  stop : Bool := false
  deriving DecidableEq, Repr

/-- What the receive call after the end of a script comes to: nothing arrives, and the loop is told
to stop. -/
def Arrival.scriptEnd : Arrival := ⟨.silence, true⟩

/-- What a worker shows of one receive call, beside its result. -/
inductive Signal
  /-- A heartbeat that covers the given span. -/
  | beat (window : Duration)
  /-- A receive call that may wait for the given span. -/
  | receive (timeout : Duration)
  deriving DecidableEq, Repr

/-- A worker with its receive buffer and the rest of its script. -/
structure Worker where
  buffer : Bytes
  script : List Arrival
  /-- How long one receive call may wait. -/
  timeout : Duration
  /-- How long the work on one frame may take. -/
  budget : Duration
  /-- Whether heartbeats are sent. -/
  heartbeat : Bool

/-- How a receive loop ended. -/
structure LoopEnd (σ : Type) where
  /-- The number of frames dealt with, or the error that ended the loop. -/
  result : Except DispatchError Nat
  /-- Everything the loop showed, first signal first. -/
  signals : List Signal
  state : σ

namespace Worker

/-- How long a receive call may wait unless told otherwise. -/
def defaultTimeout : Duration := .ofMillis 100

/-- How long the work on a frame may take unless told otherwise. -/
def defaultBudget : Duration := .ofMillis 10

/-- The size of the receive buffer unless told otherwise. -/
def defaultFrameLimit : Nat := 4096

/-- A worker on a script, with a receive buffer of so many zero bytes. -/
def new (script : List Arrival) (frameLimit : Nat := defaultFrameLimit)
    (timeout : Duration := defaultTimeout) (budget : Duration := defaultBudget)
    (heartbeat : Bool := false) : Worker where
  buffer := List.replicate frameLimit 0
  script
  timeout
  budget
  heartbeat

/-- The size of the receive buffer. -/
def frameLimit (w : Worker) : Nat := w.buffer.length

/-- The span that a heartbeat covers. -/
def window (w : Worker) : Duration := w.timeout.add w.budget

/-- What the worker shows of each receive call. -/
def signals (w : Worker) : List Signal :=
  (if w.heartbeat then [.beat w.window] else []) ++ [.receive w.timeout]

variable {σ : Type}

/-- Deal with what a receive call came to: the outcome of a frame if one came, the receive buffer
afterwards and the state of the sink. -/
def deal (sink : Sink σ) (buffer : Bytes) (s : σ) :
    Reception → Except DispatchError (Option Outcome) × Bytes × σ
  | .frame data reported =>
      let buffer := data.overlay buffer
      let (outcome, s) := sink.accept (buffer.take reported) reported s
      (.ok (some outcome), buffer, s)
  | .silence => (.ok none, buffer, s)
  | .failure error => (.error error, buffer, s)

/-- Make one receive call and deal with what it comes to. -/
def poll (sink : Sink σ) (w : Worker) (s : σ) :
    Except DispatchError (Option Outcome) × Worker × σ :=
  let arrival := w.script.headD .scriptEnd
  let (result, buffer, s) := deal sink w.buffer s arrival.reception
  (result, { w with buffer, script := w.script.tail }, s)

/-- Make receive calls until one of them stops the loop or fails.  Every call shows the same
signals; `frames` frames were dealt with before. -/
def loop (sink : Sink σ) (signals : List Signal) :
    List Arrival → (buffer : Bytes) → (frames : Nat) → σ → LoopEnd σ
  | [], _, frames, s => ⟨.ok frames, signals, sink.note (.stopped frames) s⟩
  | arrival :: script, buffer, frames, s =>
    match deal sink buffer s arrival.reception with
    | (.error error, _, s) => ⟨.error error, signals, sink.note (.aborted error frames) s⟩
    | (.ok outcome, buffer, s) =>
      let frames := frames + (if outcome.isSome then 1 else 0)
      let s := match outcome with
        | some outcome =>
            if outcome.isDelivered then s else sink.note (.notDelivered outcome frames) s
        | none => s
      if arrival.stop then ⟨.ok frames, signals, sink.note (.stopped frames) s⟩
      else
        let rest := loop sink signals script buffer frames s
        { rest with signals := signals ++ rest.signals }

/-- Run the receive loop to its end.  A loop that is told to stop before it starts makes no receive
call. -/
def run (sink : Sink σ) (w : Worker) (stopped : Bool) (s : σ) : LoopEnd σ :=
  let s := sink.note (.started w.frameLimit w.timeout.wordMillis w.heartbeat) s
  if stopped then ⟨.ok 0, [], sink.note (.stopped 0) s⟩
  else loop sink w.signals w.script w.buffer 0 s

end Worker

end Demux
