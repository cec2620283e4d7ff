import Mathlib
import Demux.Proofs.Captures
import Demux.Proofs.Sessions

/-!
# Receive loops, call by call

A receive loop polls as long as nobody has told it to stop, and a poll that fails ends it
(`Worker.Loops`).  What a run does is such a loop and the only one there is (`loops_run`,
`Loops.unique`), so what a loop amounts to is found call by call: how many receive calls it makes
(`Loops.calls_eq`), what it returns (`Loops.result_eq`) and what it shows (`Loops.signals_eq`).

What a worker does to its sink is what the sink records (`Sink.recorded`), and doing it again leads to
the same state (`Sink.replay`).
-/

namespace Demux

/-- The error that a receive call comes to, if it fails. -/
def Reception.error? : Reception → Option DispatchError
  | .failure error => some error
  | .frame _ _ | .silence => none

/-- A receive loop ends with a call that fails or during which it is told to stop. -/
theorem Arrival.isLast_eq (arrival : Arrival) :
    arrival.isLast = (arrival.reception.error?.isSome || arrival.stop) := by
  rcases arrival with ⟨reception, stop⟩
  cases reception <;> rfl

namespace Sink

variable {σ : Type}

/-- Report what became of a receive call, if it yielded a frame that was not delivered. -/
def review (sink : Sink σ) (outcome : Option Outcome) (frames : ℕ) (s : σ) : σ :=
  match outcome with
  | some outcome =>
      if outcome.isDelivered then s else sink.note (.notDelivered outcome frames) s
  | none => s

/-- What a worker asks of its sink. -/
inductive Call
  | accept (frame : Frame)
  | note (event : LoopEvent)

/-- The frame that is handed over in a call, if one is. -/
def Call.frame? : Call → Option Frame
  | accept frame => some frame
  | note _ => none

/-- A sink that records what it is asked. -/
def recorded (sink : Sink σ) : Sink (σ × List Call) where
  accept bytes reported s :=
    let (outcome, t) := sink.accept bytes reported s.1
    (outcome, t, s.2 ++ [.accept ⟨bytes, reported⟩])
  note event s := (sink.note event s.1, s.2 ++ [.note event])

/-- Do what is asked in one call. -/
def answer (sink : Sink σ) (s : σ) : Call → σ
  | .accept frame => (sink.accept frame.bytes frame.reported s).2
  | .note event => sink.note event s

/-- Do again what was asked. -/
def replay (sink : Sink σ) (s : σ) (calls : List Call) : σ := calls.foldl sink.answer s

theorem replay_snoc (sink : Sink σ) (s : σ) (calls : List Call) (call : Call) :
    sink.replay s (calls ++ [call]) = sink.answer (sink.replay s calls) call := by
  simp only [replay, List.foldl_append, List.foldl_cons, List.foldl_nil]

/-- Recording is transparent, and what was recorded leads to the same state again. -/
theorem recorded_simulates (sink : Sink σ) (start : σ) :
    Simulates (fun s t => s.1 = t ∧ t = sink.replay start s.2) sink.recorded sink where
  accept := by
    intro bytes reported ⟨s, calls⟩ t hst
    obtain ⟨rfl, hreplay⟩ := hst
    refine ⟨rfl, rfl, ?_⟩
    rw [recorded, replay_snoc, ← hreplay]
    rfl
  note := by
    intro event ⟨s, calls⟩ t hst
    obtain ⟨rfl, hreplay⟩ := hst
    refine ⟨rfl, ?_⟩
    rw [recorded, replay_snoc, ← hreplay]
    rfl

/-- The frames that were handed over are among the recorded calls. -/
theorem recorded_logs (sink : Sink σ) :
    sink.recorded.Logs fun s => s.2.filterMap Call.frame? where
  accept _ _ _ := List.filterMap_append
  note _ _ := List.filterMap_append.trans (List.append_nil _)

end Sink

namespace Worker

variable {σ : Type} {sink : Sink σ}

/-- A receive loop of a worker, which may have been told to stop: the number of its receive calls and
how it ends. -/
inductive Loops (sink : Sink σ) : Worker → Bool → ℕ → σ → ℕ → LoopEnd σ → Prop
  /-- The loop was told to stop, and makes no call. -/
  | stopped (w : Worker) (frames : ℕ) (s : σ) :
      Loops sink w true frames s 0 ⟨.ok frames, [], sink.note (.stopped frames) s⟩
  /-- A call fails. -/
  | failed {w w' : Worker} {frames : ℕ} {s s' : σ} {error : DispatchError}
      (hpoll : w.poll sink s = (.error error, w', s')) :
      Loops sink w false frames s 1
        ⟨.error error, w.signals, sink.note (.aborted error frames) s'⟩
  /-- A call yields a frame or none, and the loop goes on unless it was told to stop meanwhile. -/
  | polled {w w' : Worker} {frames calls : ℕ} {s s' : σ} {outcome : Option Outcome}
      {ended : LoopEnd σ} (hpoll : w.poll sink s = (.ok outcome, w', s'))
      (hrest : Loops sink w' (w.script.headD .scriptEnd).stop
        (frames + if outcome.isSome then 1 else 0)
        (sink.review outcome (frames + if outcome.isSome then 1 else 0) s') calls ended) :
      Loops sink w false frames s (calls + 1)
        { ended with signals := w.signals ++ ended.signals }

/-- There is one way for a loop to go. -/
theorem Loops.unique {w : Worker} {stopped : Bool} {frames calls calls' : ℕ} {s : σ}
    {ended ended' : LoopEnd σ} (h : Loops sink w stopped frames s calls ended)
    (h' : Loops sink w stopped frames s calls' ended') : calls = calls' ∧ ended = ended' := by
  induction h generalizing calls' ended' with
  | stopped w frames s =>
      cases h'
      exact ⟨rfl, rfl⟩
  | failed hpoll =>
      cases h' with
      | failed hpoll' =>
          cases hpoll.symm.trans hpoll'
          exact ⟨rfl, rfl⟩
      | polled hpoll' hrest => cases hpoll.symm.trans hpoll'
  | polled hpoll hrest ih =>
      cases h' with
      | failed hpoll' => cases hpoll.symm.trans hpoll'
      | polled hpoll' hrest' =>
          cases hpoll.symm.trans hpoll'
          obtain ⟨rfl, rfl⟩ := ih hrest'
          exact ⟨rfl, rfl⟩

section Poll

variable {w w' : Worker} {s s' : σ}

/-- A poll fails if the receive call does. -/
theorem error_of_poll {error : DispatchError} (h : w.poll sink s = (.error error, w', s')) :
    (w.script.headD .scriptEnd).reception.error? = some error := by
  cases hreception : (w.script.headD .scriptEnd).reception <;>
    simp only [poll, hreception, deal] at h <;> cases h
  rfl

/-- A poll that does not fail yields an outcome if the receive call yields a frame, and leaves the
worker on the rest of its script. -/
theorem frame_of_poll {outcome : Option Outcome} (h : w.poll sink s = (.ok outcome, w', s')) :
    (w.script.headD .scriptEnd).reception.error? = none ∧
      (w.script.headD .scriptEnd).reception.frame?.toList.length =
        (if outcome.isSome then 1 else 0) ∧
      w'.script = w.script.tail ∧ w'.signals = w.signals := by
  cases hreception : (w.script.headD .scriptEnd).reception <;>
    simp only [poll, hreception, deal] at h <;> cases h
  all_goals exact ⟨rfl, rfl, rfl, rfl⟩

end Poll

section Account

variable {w : Worker} {stopped : Bool} {frames calls : ℕ} {s : σ} {ended : LoopEnd σ}

/-- A loop makes no call if it was told to stop before.  Otherwise it ends with the first call that
fails or during which it is told to stop, or with the call that finds nothing left of the script. -/
theorem Loops.calls_eq (h : Loops sink w stopped frames s calls ended) :
    calls = if stopped then 0 else w.script.findIdx (·.isLast) + 1 := by
  induction h with
  | stopped w frames s => rfl
  | @failed w w' frames s s' error hpoll =>
      have herror := error_of_poll hpoll
      cases hscript : w.script with
      | nil =>
          rw [hscript] at herror
          cases herror
      | cons arrival script =>
          rw [hscript] at herror
          have hlast : arrival.isLast = true := by
            rw [Arrival.isLast_eq, show arrival.reception.error? = some error from herror]
            rfl
          simp [List.findIdx_cons, hlast]
  | @polled w w' frames calls s s' outcome ended hpoll hrest ih =>
      obtain ⟨hnone, -, hscript', -⟩ := frame_of_poll hpoll
      rw [hscript'] at ih
      cases hscript : w.script with
      | nil =>
          rw [hscript] at ih
          rw [ih]
          simp [Arrival.scriptEnd]
      | cons arrival script =>
          rw [hscript] at ih hnone
          have hlast : arrival.isLast = arrival.stop := by
            rw [Arrival.isLast_eq, show arrival.reception.error? = none from hnone]
            rfl
          rw [ih, List.findIdx_cons, hlast]
          cases hstop : arrival.stop <;> simp [hstop]

/-- Every call shows the same. -/
theorem Loops.signals_eq (h : Loops sink w stopped frames s calls ended) :
    ended.signals = (List.replicate calls w.signals).flatten := by
  induction h with
  | stopped w frames s => rfl
  | failed hpoll => exact (List.append_nil _).symm
  | polled hpoll hrest ih =>
      obtain ⟨-, -, -, hsignals⟩ := frame_of_poll hpoll
      rw [ih, hsignals, List.replicate_succ, List.flatten_cons]

/-- The loop returns the error of the call that failed, or else the number of frames. -/
theorem Loops.result_eq (h : Loops sink w stopped frames s calls ended) :
    ended.result =
      ((w.script.take calls).findSome? (·.reception.error?)).elim
        (.ok (frames + (framesOf (w.script.take calls)).length)) .error := by
  induction h with
  | stopped w frames s => rfl
  | @failed w w' frames s s' error hpoll =>
      have herror := error_of_poll hpoll
      cases hscript : w.script with
      | nil =>
          rw [hscript] at herror
          cases herror
      | cons arrival script =>
          rw [hscript] at herror
          rw [List.take_succ_cons, List.findSome?_cons,
            show arrival.reception.error? = some error from herror]
          rfl
  | @polled w w' frames calls s s' outcome ended hpoll hrest ih =>
      obtain ⟨hnone, hframes, hscript', -⟩ := frame_of_poll hpoll
      rw [hscript'] at ih
      rw [ih]
      cases hscript : w.script with
      | nil =>
          rw [hscript] at hframes
          have hzero : (if outcome.isSome then 1 else 0) = 0 := hframes.symm
          simp [hzero, framesOf]
      | cons arrival script =>
          rw [hscript] at hnone hframes
          have hcount : (framesOf (arrival :: script.take calls)).length =
              (if outcome.isSome then 1 else 0) + (framesOf (script.take calls)).length := by
            rw [← List.singleton_append, framesOf_append, List.length_append, ← hframes,
              ← framesOf_take_one]
            rfl
          rw [List.take_succ_cons, List.findSome?_cons,
            show arrival.reception.error? = none from hnone, hcount, List.tail_cons, Nat.add_assoc]

end Account

/-- A receive loop on a script is such a loop. -/
theorem loops_loop (sink : Sink σ) (w : Worker) (frames : ℕ) (s : σ) :
    ∃ calls, Loops sink w false frames s calls
      (loop sink w.signals w.script w.buffer frames s) := by
  rcases w with ⟨buffer, script, timeout, budget, heartbeat⟩
  induction script generalizing buffer frames s with
  | nil =>
      -- One more call finds the script at its end, and the loop is told to stop.
      let w : Worker := ⟨buffer, [], timeout, budget, heartbeat⟩
      have hpoll : w.poll sink s = (.ok none, w, s) := rfl
      have hend := Loops.polled hpoll (.stopped w frames s)
      rw [List.append_nil] at hend
      exact ⟨1, hend⟩
  | cons arrival script ih =>
      rcases arrival with ⟨reception, stop⟩
      let w : Worker := ⟨buffer, ⟨reception, stop⟩ :: script, timeout, budget, heartbeat⟩
      rcases hdeal : deal sink buffer s reception with ⟨result, buffer', s'⟩
      let w' : Worker := ⟨buffer', script, timeout, budget, heartbeat⟩
      have hpoll : w.poll sink s = (result, w', s') := by
        simp only [w, w', poll, List.headD_cons, hdeal, List.tail_cons]
      cases result with
      | error error =>
          simp only [loop, hdeal]
          exact ⟨1, .failed hpoll⟩
      | ok outcome =>
          simp only [loop, hdeal]
          cases stop with
          | true =>
              have hend := Loops.polled hpoll
                (.stopped w' (frames + if outcome.isSome then 1 else 0) (sink.review outcome _ s'))
              rw [List.append_nil] at hend
              exact ⟨1, hend⟩
          | false =>
              obtain ⟨calls, hrest⟩ := ih _ _ buffer'
              exact ⟨calls + 1, .polled hpoll hrest⟩

/-- What a run does after it has said that it starts is the one loop there is. -/
theorem loops_run (sink : Sink σ) (w : Worker) (stopped : Bool) (s : σ) :
    Loops sink w stopped 0 (sink.note (.started w.frameLimit w.timeout.wordMillis w.heartbeat) s)
      (if stopped then 0 else w.script.findIdx (·.isLast) + 1) (w.run sink stopped s) := by
  cases stopped with
  | true => exact .stopped w 0 _
  | false =>
      obtain ⟨calls, hloops⟩ := loops_loop sink w 0
        (sink.note (.started w.frameLimit w.timeout.wordMillis w.heartbeat) s)
      rw [← hloops.calls_eq]
      exact hloops

/-- The receive calls of a run, as far as the script goes. -/
theorem received_zero (stopped : Bool) (script : List Arrival) :
    received 0 (some stopped) script =
      script.take (if stopped then 0 else script.findIdx (·.isLast) + 1) := by
  cases stopped with
  | true => rfl
  | false =>
      show upToLast script = script.take (script.findIdx (·.isLast) + 1)
      induction script with
      | nil => rfl
      | cons arrival script ih =>
          rw [upToLast, ih, List.findIdx_cons, List.take_succ_cons]
          cases arrival.isLast <;> rfl

/-- What a worker hands over in a run, and that nothing but these calls makes its sink what it is in the
end. -/
theorem run_recorded (sink : Sink σ) (w : Worker) (stopped : Bool) (s : σ) :
    ∃ handed, w.run sink.recorded stopped (s, []) =
        ⟨(w.run sink stopped s).result, (w.run sink stopped s).signals,
          ((w.run sink stopped s).state, handed)⟩ ∧
      handed.filterMap Sink.Call.frame? =
        capture w.buffer (framesOf (received 0 (some stopped) w.script)) ∧
      (w.run sink stopped s).state = sink.replay s handed := by
  obtain ⟨hresult, hsignals, hstate, hreplay⟩ :=
    run_simulates (sink.recorded_simulates s) w stopped (s := (s, [])) (t := s) ⟨rfl, rfl⟩
  have hlogs := run_logs sink.recorded_logs w stopped (s, [])
  rcases hrun : w.run sink.recorded stopped (s, []) with ⟨result, signals, state, handed⟩
  rw [hrun] at hresult hsignals hstate hreplay hlogs
  dsimp only at hresult hsignals hstate hreplay hlogs
  subst hresult hsignals hstate
  exact ⟨handed, rfl, hlogs, hreplay⟩

theorem length_capture (buffer : Bytes) (frames : List Frame) :
    (capture buffer frames).length = frames.length := by
  induction frames generalizing buffer with
  | nil => rfl
  | cons frame frames ih => exact congrArg (· + 1) (ih _)

/-- **Receive loops are accounted for.**  A run makes no receive call if it was told to stop before it
starts.  Otherwise it ends with the first receive call that fails or during which it is told to stop, or
with the call that finds the script at its end, and so it ends.  It is the loop that polls until it is
told to stop or a poll fails, and there is no other way for that loop to go.  A failed call is the
result, and otherwise the number of frames is.  So many frames were handed over, as they were captured,
and whatever was handed over has had its effect.  Every receive call is preceded by one heartbeat, if
there are any, for the timeout and the time to work on a frame, up to the longest span of time. -/
theorem receive_loops_are_accounted_for (sink : Sink σ) (w : Worker) (stopped : Bool) (s : σ) :
    let ended := w.run sink stopped s
    let calls := if stopped then 0 else w.script.findIdx (·.isLast) + 1
    let consumed := w.script.take calls
    let started := sink.note (.started w.frameLimit w.timeout.wordMillis w.heartbeat) s
    calls ≤ w.script.length + 1 ∧
      (∀ calls' ended', Loops sink w stopped 0 started calls' ended' ↔
        calls' = calls ∧ ended' = ended) ∧
      ended.result = (consumed.findSome? (·.reception.error?)).elim
        (.ok (framesOf consumed).length) .error ∧
      (∃ handed, w.run sink.recorded stopped (s, []) =
          ⟨ended.result, ended.signals, (ended.state, handed)⟩ ∧
        handed.filterMap Sink.Call.frame? = capture w.buffer (framesOf consumed) ∧
        (handed.filterMap Sink.Call.frame?).length = (framesOf consumed).length ∧
        ended.state = sink.replay s handed) ∧
      ended.signals = (List.replicate calls
        ((if w.heartbeat then [.beat w.window] else []) ++ [.receive w.timeout])).flatten ∧
      w.window.nanos =
        min (w.timeout.nanos + w.budget.nanos) ((2 ^ 64 - 1) * 1000000000 + 999999999) := by
  intro ended calls consumed started
  have hloops : Loops sink w stopped 0 started calls ended := loops_run sink w stopped s
  refine ⟨?_, ?_, ?_, ?_, hloops.signals_eq, rfl⟩
  · have hle : w.script.findIdx (·.isLast) ≤ w.script.length := List.findIdx_le_length
    show (if stopped then 0 else w.script.findIdx (·.isLast) + 1) ≤ w.script.length + 1
    split <;> omega
  · intro calls' ended'
    constructor
    · intro h
      exact h.unique hloops
    · intro h
      obtain ⟨rfl, rfl⟩ := h
      exact hloops
  · have hresult := hloops.result_eq
    rw [Nat.zero_add] at hresult
    exact hresult
  · obtain ⟨handed, hrun, hframes, hreplay⟩ := run_recorded sink w stopped s
    rw [received_zero] at hframes
    refine ⟨handed, hrun, hframes, ?_, hreplay⟩
    rw [hframes, length_capture]

end Worker

end Demux
