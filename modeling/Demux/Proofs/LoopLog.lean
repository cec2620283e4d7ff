import Mathlib
import Demux.Proofs.Audit
import Demux.Proofs.Loops
import Demux.Proofs.Workers

/-!
# What a receive loop writes to the log

A receive loop opens with one entry and closes with another.  Between them stands one chapter for every
frame (`Station.chapter`): what was reported while the frame was dealt with and, unless it was delivered,
the entry of the loop that says so.  Receive calls without a frame leave nothing.

What is reported while a frame is dealt with does not depend on what was reported before
(`Station.events_emitted`), so the entries of a loop do not change what comes after them, and each chapter
is the one that the station would have given if the frames before had been dealt with directly.
-/

namespace Demux

variable {f : Format}

namespace DataPlane

/-- The same pools and queues, with older events in the journal. -/
def after (p : DataPlane) (older : List Event) : DataPlane := { p with journal := p.journal ++ older }

/-- What pools and queues do and report does not depend on older events. -/
theorem after_simulates (view : Option Stats) (older : List Event) :
    Collaborators.Simulates (fun p q => p = q.after older) (collaborators view)
      (collaborators view) where
  acquire := by
    intro pool len p q hpq
    subst hpq
    simp only [collaborators, acquire, after]
    cases q.pools[pool]? with
    | none => exact ⟨rfl, rfl⟩
    | some slot => exact ⟨rfl, rfl⟩
  release := by
    intro pool b p q hpq
    subst hpq
    simp only [collaborators, release, after]
    cases q.pools[pool]? with
    | none => rfl
    | some slot =>
        cases hdiscard : (slot.pool.release view b).1 with
        | none => simp only [hdiscard]
        | some discard => simp only [hdiscard, note, List.cons_append]
  send := by
    intro queue b p q hpq
    subst hpq
    simp only [collaborators, send, after]
    cases q.queues[queue]? with
    | none => exact ⟨rfl, rfl⟩
    | some next => exact ⟨rfl, rfl⟩

end DataPlane

namespace Station

/-- A station with nothing in its journal. -/
def silent (st : Station f) : Station f := { st with plane := { st.plane with journal := [] } }

/-- What is reported while a frame is dealt with. -/
def emitted (st : Station f) (frame : Frame) : List Event :=
  (st.silent.handle frame.bytes frame.reported).2.plane.events

/-- Dealing with a frame adds to the journal what it would write to an empty one. -/
theorem events_emitted (st : Station f) (frame : Frame) :
    (st.handle frame.bytes frame.reported).2.plane.events =
      st.plane.events ++ st.emitted frame := by
  have hstart : st.plane = st.silent.plane.after st.plane.journal := rfl
  obtain ⟨hreport, -, hafter⟩ :=
    st.lock.value.handle_simulates (DataPlane.after_simulates none st.plane.journal)
      frame.bytes frame.reported hstart
  obtain ⟨-, hplane⟩ := st.plane_handle frame.bytes frame.reported
  obtain ⟨-, hsilent⟩ := st.silent.plane_handle frame.bytes frame.reported
  rw [emitted, hplane, hsilent, DataPlane.events_note, DataPlane.events_note, ← List.append_assoc]
  congr 1
  · rw [hafter]
    exact List.reverse_append
  · rw [hreport]
    rfl

/-- Stations that differ in the journal at most report the same. -/
theorem emitted_alike {a b : Station f} (h : a.Alike b) (frame : Frame) :
    a.emitted frame = b.emitted frame := by
  rcases a with ⟨lock, pools, queues, journal⟩
  rcases b with ⟨_, _, _, journal'⟩
  obtain ⟨rfl, rfl, rfl⟩ := h
  rfl

/-- What is reported of a frame is the verdict on it, after warnings of its pool, if any. -/
theorem emitted_eq (st : Station f) (frame : Frame) :
    ∃ warnings : List Discard, st.emitted frame =
      warnings.map .pool ++ [.dispatch (.frame (st.report frame.bytes frame.reported))] := by
  obtain ⟨warnings, hevents, -⟩ := st.events_handle frame.bytes frame.reported
  rw [events_emitted, List.append_assoc] at hevents
  exact ⟨warnings, List.append_cancel_left hevents⟩

/-- What is reported while a frame is dealt with goes to the end of the log. -/
theorem log_emitted (st : Station f) (frame : Frame) :
    (st.handle frame.bytes frame.reported).2.log =
      st.log ++ (st.emitted frame).map Event.entry := by
  rw [log, events_emitted, List.map_append]
  rfl

/-- What the log says of the frame that has this number in a receive loop. -/
def chapter (st : Station f) (number : ℕ) (frame : Frame) : List Entry :=
  let outcome := (st.handle frame.bytes frame.reported).1
  (st.emitted frame).map Event.entry ++
    if outcome = .delivered then []
    else
      [⟨.debug, "Frame not delivered",
        [("outcome", outcome.text), ("frames", Nat.repr number)]⟩]

theorem chapter_alike {a b : Station f} (h : a.Alike b) (number : ℕ) (frame : Frame) :
    a.chapter number frame = b.chapter number frame := by
  rw [chapter, chapter, emitted_alike h, (handle_alike h frame.bytes frame.reported).1]

/-- The chapters of a receive loop about some frames, after so many others. -/
def chapters (st : Station f) (before : ℕ) (frames : List Frame) : List (List Entry) :=
  frames.mapIdx fun k frame =>
    (st.play ((frames.take k).map Frame.move)).chapter (before + k + 1) frame

theorem chapters_cons (st : Station f) (before : ℕ) (frame : Frame) (frames : List Frame) :
    st.chapters before (frame :: frames) =
      st.chapter (before + 1) frame ::
        (st.handle frame.bytes frame.reported).2.chapters (before + 1) frames := by
  have hnumber (k : ℕ) : before + (k + 1) + 1 = before + 1 + k + 1 := by omega
  simp only [chapters, List.mapIdx_cons, hnumber]
  rfl

theorem chapters_alike {a b : Station f} (h : a.Alike b) (before : ℕ) (frames : List Frame) :
    a.chapters before frames = b.chapters before frames := by
  induction frames generalizing a b before with
  | nil => rfl
  | cons frame frames ih =>
      have hafter := (handle_alike h frame.bytes frame.reported).2
      rw [chapters_cons, chapters_cons, chapter_alike h, ih hafter]

/-- A frame is said to be delivered or not to be, once. -/
theorem count_chapter (st : Station f) (number : ℕ) (frame : Frame) :
    (st.chapter number frame).countP (·.message = "Frame not delivered") +
      (st.chapter number frame).countP (·.message = "Frame delivered") = 1 := by
  obtain ⟨warnings, hemitted⟩ := st.emitted_eq frame
  have hwarnings (message : String) (hmessage : message = "Frame not delivered" ∨
      message = "Frame delivered") :
      ((warnings.map Event.pool).map Event.entry).countP (·.message = message) = 0 := by
    rw [List.countP_eq_zero]
    intro entry hentry
    obtain ⟨event, hevent, rfl⟩ := List.mem_map.mp hentry
    obtain ⟨discard, -, rfl⟩ := List.mem_map.mp hevent
    rcases hmessage with rfl | rfl <;> cases discard <;> simp [Event.entry]
  have houtcome := st.outcome_report frame.bytes frame.reported
  simp only [chapter, hemitted, List.map_append, List.countP_append, hwarnings _ (.inl rfl),
    hwarnings _ (.inr rfl), ← houtcome, Nat.zero_add, List.map_singleton]
  generalize st.report frame.bytes frame.reported = report
  rcases report with ⟨id, length, reported, verdict⟩
  cases verdict <;> rfl

/-- No chapter says that a receive loop begins or ends. -/
theorem not_bound_of_mem_chapter {st : Station f} {number : ℕ} {frame : Frame} {entry : Entry}
    (h : entry ∈ st.chapter number frame) :
    entry.message ∉ ["Receive loop started", "Receive loop aborted", "Receive loop stopped"] := by
  obtain ⟨warnings, hemitted⟩ := st.emitted_eq frame
  simp only [chapter, hemitted, List.map_append, List.mem_append] at h
  rcases h with (hwarning | hreport) | hmissed
  · obtain ⟨event, hevent, rfl⟩ := List.mem_map.mp hwarning
    obtain ⟨discard, -, rfl⟩ := List.mem_map.mp hevent
    cases discard <;> simp [Event.entry]
  · obtain rfl := List.mem_singleton.mp hreport
    generalize st.report frame.bytes frame.reported = report
    rcases report with ⟨id, length, reported, verdict⟩
    cases verdict <;> simp [Event.entry, Report.entry]
  · split at hmissed
    · contradiction
    · obtain rfl := List.mem_singleton.mp hmissed
      simp

/-- As many frames are said to be delivered or not to be as there are. -/
theorem count_chapters (st : Station f) (before : ℕ) (frames : List Frame) :
    (st.chapters before frames).flatten.countP (·.message = "Frame not delivered") +
      (st.chapters before frames).flatten.countP (·.message = "Frame delivered") =
        frames.length := by
  induction frames generalizing st before with
  | nil => rfl
  | cons frame frames ih =>
      have hfirst := st.count_chapter (before + 1) frame
      have hrest := ih (st.handle frame.bytes frame.reported).2 (before + 1)
      rw [chapters_cons, List.flatten_cons, List.countP_append, List.countP_append,
        List.length_cons]
      omega

/-- What a receive loop reports is logged, and changes nothing else. -/
theorem log_note (st : Station f) (event : LoopEvent) :
    (sink.note event st).log = st.log ++ [(Event.loop event).entry] := by
  simp only [log, sink, DataPlane.events_note, List.map_append, List.map_singleton]

theorem alike_note (st : Station f) (event : LoopEvent) : (sink.note event st).Alike st :=
  ⟨rfl, rfl, rfl⟩

/-- A frame that a receive loop has dealt with, and perhaps reported, is logged in one chapter. -/
theorem log_review {st st' : Station f} {frame : Frame} {outcome : Outcome}
    (h : sink.accept frame.bytes frame.reported st = (outcome, st')) (number : ℕ) :
    (sink.review (some outcome) number st').log = st.log ++ st.chapter number frame ∧
      (sink.review (some outcome) number st').Alike st' := by
  have houtcome : (st.handle frame.bytes frame.reported).1 = outcome := congrArg Prod.fst h
  have hafter : (st.handle frame.bytes frame.reported).2 = st' := congrArg Prod.snd h
  have hlog : st'.log = st.log ++ (st.emitted frame).map Event.entry := by
    rw [← hafter, log_emitted]
  rw [chapter, houtcome, ← List.append_assoc, ← hlog]
  cases outcome with
  | delivered => exact ⟨(List.append_nil _).symm, rfl, rfl, rfl⟩
  | _ => exact ⟨log_note st' _, alike_note st' _⟩

end Station

namespace Worker

/-- The entry with which a receive loop of a worker begins. -/
def firstEntry (w : Worker) : Entry :=
  ⟨.info, "Receive loop started",
    [("max_frame_len", Nat.repr w.buffer.length),
      ("timeout_ms", Nat.repr (min (2 ^ 64 - 1) (w.timeout.nanos / 1000000))),
      ("heartbeat", toString w.heartbeat)]⟩

/-- The entry with which a receive loop ends that has dealt with so many frames. -/
def lastEntry (frames : ℕ) : Except DispatchError ℕ → Entry
  | .error error =>
      ⟨.error, "Receive loop aborted", [("error", error.message), ("frames", Nat.repr frames)]⟩
  | .ok _ => ⟨.info, "Receive loop stopped", [("frames", Nat.repr frames)]⟩

section Poll

variable {σ : Type} {sink : Sink σ} {w w' : Worker} {s s' : σ}

/-- A poll that fails hands over nothing. -/
theorem poll_failed {error : DispatchError} (h : w.poll sink s = (.error error, w', s')) :
    framesOf (w.script.take 1) = [] ∧ s' = s := by
  rw [framesOf_take_one]
  cases hreception : (w.script.headD .scriptEnd).reception <;>
    simp only [poll, hreception, deal] at h <;> cases h
  exact ⟨rfl, rfl⟩

/-- A poll that does not fail hands over nothing, or the one frame that it captures. -/
theorem poll_cases {outcome : Option Outcome} (h : w.poll sink s = (.ok outcome, w', s')) :
    (outcome = none ∧ framesOf (w.script.take 1) = [] ∧ s' = s) ∨
      ∃ frame told, outcome = some told ∧
        capture w.buffer (framesOf (w.script.take 1)) = [frame] ∧
        sink.accept frame.bytes frame.reported s = (told, s') := by
  rw [framesOf_take_one]
  cases hreception : (w.script.headD .scriptEnd).reception <;>
    simp only [poll, hreception, deal] at h <;> cases h
  · exact .inr ⟨_, _, rfl, rfl, rfl⟩
  · exact .inl ⟨rfl, rfl, rfl⟩

/-- What is captured in some receive calls is what is captured in the first, and then in the rest. -/
theorem capture_poll (h : (w.poll sink s).2.1 = w') (calls : ℕ) :
    capture w.buffer (framesOf (w.script.take (calls + 1))) =
      capture w.buffer (framesOf (w.script.take 1)) ++
        capture w'.buffer (framesOf (w'.script.take calls)) := by
  rw [← h, poll_worker, ← capture_append, ← framesOf_append]
  cases w.script <;> simp

end Poll

/-- A receive loop logs one chapter for every frame and one entry at its end, and otherwise leaves the
station as the frames alone do. -/
theorem Loops.log_eq {w : Worker} {stopped : Bool} {before calls : ℕ} {st : Station f}
    {ended : LoopEnd (Station f)} (h : Loops Station.sink w stopped before st calls ended) :
    let frames := capture w.buffer (framesOf (w.script.take calls))
    ended.state.log = st.log ++ (st.chapters before frames).flatten ++
        [lastEntry (before + frames.length) ended.result] ∧
      ended.state.Alike (st.play (frames.map Frame.move)) := by
  induction h with
  | stopped w before st =>
      refine ⟨?_, st.alike_note _⟩
      rw [Station.log_note, List.take_zero]
      simp [framesOf, capture, Station.chapters, lastEntry, Event.entry]
  | @failed w w' before st st' error hpoll =>
      obtain ⟨hnone, rfl⟩ := poll_failed hpoll
      rw [hnone]
      refine ⟨?_, st'.alike_note _⟩
      rw [Station.log_note]
      simp [capture, Station.chapters, lastEntry, Event.entry]
  | @polled w w' before calls st st' outcome ended hpoll hrest ih =>
      have hworker : (w.poll Station.sink st).2.1 = w' := by rw [hpoll]
      obtain ⟨hlog, halike⟩ := ih
      rw [capture_poll hworker]
      generalize capture w'.buffer (framesOf (w'.script.take calls)) = frames at hlog halike ⊢
      rcases poll_cases hpoll with ⟨rfl, hnone, rfl⟩ | ⟨frame, told, rfl, hframe, haccept⟩
      · rw [hnone]
        exact ⟨hlog, halike⟩
      · obtain ⟨hreview, hsame⟩ := Station.log_review haccept (before + 1)
        have hafter : (st.handle frame.bytes frame.reported).2 = st' := congrArg Prod.snd haccept
        have hnumber : before + 1 + frames.length = before + (frames.length + 1) := by omega
        simp only [Option.isSome_some, if_true] at hlog halike
        rw [hframe, List.singleton_append]
        constructor
        · rw [hlog, hreview, Station.chapters_alike hsame, Station.chapters_cons, hafter,
            List.flatten_cons, List.length_cons, hnumber]
          simp only [List.append_assoc]
        · rw [List.map_cons]
          exact halike.trans (Station.play_alike (hafter ▸ hsame) frames)

theorem log_started (w : Worker) (st : Station f) :
    (Station.sink.note (.started w.frameLimit w.timeout.wordMillis w.heartbeat) st).log =
      st.log ++ [w.firstEntry] := by
  have hmillis : w.timeout.wordMillis = min (2 ^ 64 - 1) (w.timeout.nanos / 1000000) :=
    Nat.min_comm _ _
  rw [Station.log_note, firstEntry, ← hmillis]
  rfl

/-- A run logs its first entry, one chapter for every frame and its last entry. -/
theorem run_log (w : Worker) (stopped : Bool) (st : Station f) :
    let ended := w.run Station.sink stopped st
    let consumed := w.script.take (if stopped then 0 else w.script.findIdx (·.isLast) + 1)
    let frames := capture w.buffer (framesOf consumed)
    ended.state.log = st.log ++ ([w.firstEntry] ++ (st.chapters 0 frames).flatten ++
        [lastEntry frames.length ended.result]) ∧
      ended.state.Alike (st.play (frames.map Frame.move)) := by
  intro ended consumed frames
  have hnoted := st.alike_note (.started w.frameLimit w.timeout.wordMillis w.heartbeat)
  obtain ⟨hlog, halike⟩ := (loops_run Station.sink w stopped st).log_eq
  refine ⟨?_, halike.trans (Station.play_alike hnoted frames)⟩
  rw [hlog, log_started, Station.chapters_alike hnoted, Nat.zero_add]
  simp only [List.append_assoc]
  rfl

/-- The first and the last entry of a run say of no frame whether it was delivered. -/
theorem count_bounds (w : Worker) (frames : ℕ) (result : Except DispatchError ℕ) {message : String}
    (hmessage : message = "Frame not delivered" ∨ message = "Frame delivered")
    (entries : List Entry) :
    ([w.firstEntry] ++ entries ++ [lastEntry frames result]).countP (·.message = message) =
      entries.countP (·.message = message) := by
  have hfirst : [w.firstEntry].countP (·.message = message) = 0 := by
    rcases hmessage with rfl | rfl <;> rfl
  have hlast : [lastEntry frames result].countP (·.message = message) = 0 := by
    rcases hmessage with rfl | rfl <;> cases result <;> rfl
  rw [List.countP_append, List.countP_append, hfirst, hlast]
  omega

/-- **Receive loops log every frame.**  A run opens with one entry that it starts, with the timeout in
whole milliseconds as far as a machine word goes.  Then every frame has its chapter, in order, and receive
calls without a frame have none: what is reported while the frame is dealt with and, unless it was
delivered, one entry with its outcome and its number.  It closes with one entry, that it was aborted and
why if it returns an error, and else that it was stopped, with the number of frames.  Nothing else says
that a loop begins or ends, and so many frames are not delivered as there are frames and not deliveries.
The chapters do not depend on what was logged before, and the last entry that the dispatcher has for a
frame tells its outcome. -/
theorem receive_loops_log_every_frame (w : Worker) (stopped : Bool) (st : Station f) :
    let ended := w.run Station.sink stopped st
    let consumed := w.script.take (if stopped then 0 else w.script.findIdx (·.isLast) + 1)
    let frames := capture w.buffer (framesOf consumed)
    let chapters := frames.mapIdx fun k frame =>
      (st.play ((frames.take k).map Frame.move)).chapter (k + 1) frame
    let entries := [w.firstEntry] ++ chapters.flatten ++ [lastEntry frames.length ended.result]
    ended.state.log = st.log ++ entries ∧
      ended.state.Alike (st.play (frames.map Frame.move)) ∧
      ended.result = (consumed.findSome? (·.reception.error?)).elim (.ok frames.length) .error ∧
      frames.length = (framesOf consumed).length ∧
      (∀ entry ∈ chapters.flatten, entry.message ∉
        ["Receive loop started", "Receive loop aborted", "Receive loop stopped"]) ∧
      entries.countP (·.message = "Frame not delivered") +
        entries.countP (·.message = "Frame delivered") = frames.length ∧
      ∀ (a b : Station f) frame, a.Alike b →
        (a.handle frame.bytes frame.reported).1 = (b.handle frame.bytes frame.reported).1 ∧
        (a.handle frame.bytes frame.reported).2.log =
          a.log ++ (b.emitted frame).map Event.entry ∧
        ∃ (warnings : List Discard) (entry : Entry),
          (b.emitted frame).map Event.entry = warnings.map Station.warning ++ [entry] ∧
          entry.Describes (b.handle frame.bytes frame.reported).1 frame.bytes.length := by
  intro ended consumed frames chapters entries
  have hlength : frames.length = (framesOf consumed).length := length_capture _ _
  have hchapters : st.chapters 0 frames = chapters := by
    simp only [Station.chapters, Nat.zero_add]
    rfl
  obtain ⟨hlog, halike⟩ := w.run_log stopped st
  refine ⟨?_, halike, ?_, hlength, ?_, ?_, ?_⟩
  · rw [hlog]
    change st.log ++ ([w.firstEntry] ++ (st.chapters 0 frames).flatten ++ _) = _
    rw [hchapters]
  · have hresult := (loops_run Station.sink w stopped st).result_eq
    rw [Nat.zero_add] at hresult
    rw [hlength]
    exact hresult
  · intro entry hentry
    obtain ⟨chapter, hchapter, hin⟩ := List.mem_flatten.mp hentry
    obtain ⟨k, hk, rfl⟩ := List.mem_mapIdx.mp hchapter
    exact Station.not_bound_of_mem_chapter hin
  · rw [count_bounds w _ _ (.inl rfl), count_bounds w _ _ (.inr rfl), ← hchapters]
    exact st.count_chapters 0 frames
  · intro a b frame hab
    obtain ⟨warnings, hemitted⟩ := b.emitted_eq frame
    have hdescribes := (b.report frame.bytes frame.reported).entry_describes
    rw [Station.outcome_report, Station.length_report] at hdescribes
    refine ⟨(Station.handle_alike hab frame.bytes frame.reported).1, ?_, warnings, _, ?_, hdescribes⟩
    · rw [Station.log_emitted, Station.emitted_alike hab]
    · rw [hemitted, List.map_append, List.map_map]
      rfl

/-- A frame for a listener, nothing, a frame for nobody and an error. -/
def brokenScript : List Arrival :=
  [⟨.frame [7, 1] 2, false⟩, ⟨.silence, false⟩, ⟨.frame [9] 1, false⟩,
    ⟨.failure (.receiveFailed "link down"), false⟩]

/-- Of two frames the second is not delivered, and then the loop is aborted. -/
theorem receive_loops_log_every_frame_of_broken_script :
    let made : Station (.integer .unsigned 1) :=
      .new (.new 1) [.fixed (.new 1 4)] [.bounded (.new 1)]
    let st := made.move (.act (.addRoute 7#8 ⟨some 0, some 0, false⟩))
    let w : Worker := .new brokenScript 4
    let ended := w.run Station.sink false st
    let after := st.play [Frame.move ⟨[7, 1], 2⟩, Frame.move ⟨[9], 1⟩]
    ended.result = .error (.receiveFailed "link down") ∧
      ended.state.log.map (·.message) =
        ["Listener registered", "Receive loop started", "Frame delivered",
          "Unmatched frame dropped", "Frame not delivered", "Receive loop aborted"] ∧
      ended.state.Alike after ∧
      (ended.state.handle [9] 1).1 = (after.handle [9] 1).1 := by
  intro made st w ended after
  obtain ⟨hlog, halike, hresult, -, -, -, hcalls⟩ := receive_loops_log_every_frame w false st
  have hsame := (hcalls ended.state after ⟨[9], 1⟩ halike).1
  refine ⟨hresult.trans (by decide), ?_, halike, hsame⟩
  rw [hlog]
  decide +kernel

end Worker

end Demux
