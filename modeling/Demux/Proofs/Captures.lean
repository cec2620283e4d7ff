import Mathlib
import Demux.Receive

/-!
# What a worker captures

Every frame that a worker receives is written over the start of the receive buffer, and what is
captured of it is as much of the buffer as the frame was long on the link.  So a byte that is captured
is the byte of the latest frame that reached so far (`byteAfter`), or zero, and if every frame was
received as long as it was on the link, nothing of an earlier frame is captured (`capture_of_exact`).

Whatever sink a worker has, it hands over what it captured, frame by frame, and nothing else
(`Sink.Logs`).
-/

namespace Demux

/-- The bytes of a frame and the length that it is said to have had on the link. -/
structure Frame where
  bytes : Bytes
  reported : ℕ
  deriving DecidableEq, Repr

/-- The frame that a receive call yields, if it yields one. -/
def Reception.frame? : Reception → Option Frame
  | .frame data reported => some ⟨data, reported⟩
  | .silence | .failure _ => none

/-- Whether a receive loop ends with a receive call: it is told to stop meanwhile, or the call
fails. -/
def Arrival.isLast : Arrival → Bool
  | ⟨.failure _, _⟩ => true
  | ⟨_, stop⟩ => stop

/-- The frames of a script, in order. -/
def framesOf (script : List Arrival) : List Frame := script.filterMap (·.reception.frame?)

theorem framesOf_append (first second : List Arrival) :
    framesOf (first ++ second) = framesOf first ++ framesOf second :=
  List.filterMap_append

/-- The byte of the latest run of bytes that reaches to a position, or zero if none does. -/
def byteAfter (datas : List Bytes) (i : ℕ) : UInt8 := (datas.reverse.findSome? (·[i]?)).getD 0

theorem byteAfter_nil (i : ℕ) : byteAfter [] i = 0 := rfl

/-- The latest bytes count, as far as they reach. -/
theorem byteAfter_snoc (datas : List Bytes) (data : Bytes) (i : ℕ) :
    byteAfter (datas ++ [data]) i = data[i]?.getD (byteAfter datas i) := by
  rw [byteAfter, List.reverse_append, List.reverse_singleton, List.singleton_append,
    List.findSome?_cons]
  cases data[i]? <;> rfl

theorem Bytes.getElem?_overlay (top under : Bytes) (i : ℕ) :
    (top.overlay under)[i]? = under[i]?.map fun below => top[i]?.getD below := by
  rcases Nat.lt_or_ge i under.length with hi | hi
  · unfold overlay
    rcases Nat.lt_or_ge i top.length with htop | htop
    · rw [List.getElem?_append_left (by rw [List.length_take]; omega),
        List.getElem?_take_of_lt hi, List.getElem?_eq_getElem hi, List.getElem?_eq_getElem htop]
      rfl
    · rw [List.take_of_length_le (by omega), List.getElem?_append_right htop, List.getElem?_drop,
        Nat.add_sub_cancel' htop, List.getElem?_eq_none htop, List.getElem?_eq_getElem hi]
      rfl
  · rw [List.getElem?_eq_none hi, List.getElem?_eq_none (by rwa [length_overlay])]
    rfl

/-- Of bytes that are written over others, as many as there were room for come first. -/
theorem Bytes.take_overlay (top under : Bytes) :
    (top.overlay under).take top.length = top.take under.length := by
  unfold overlay
  rcases Nat.le_total top.length under.length with h | h
  · rw [List.take_of_length_le h, List.take_left]
  · rw [List.drop_of_length_le h, List.append_nil, List.take_of_length_le]
    rw [List.length_take]
    omega

/-- What a receive buffer gives of some frames, one written over the other. -/
def capture (buffer : Bytes) : List Frame → List Frame
  | [] => []
  | ⟨bytes, reported⟩ :: frames =>
      ⟨(bytes.overlay buffer).take reported, reported⟩ :: capture (bytes.overlay buffer) frames

/-- The receive buffer with some frames written over each other. -/
def bufferAfter (buffer : Bytes) (frames : List Frame) : Bytes :=
  frames.foldl (fun buffer frame => frame.bytes.overlay buffer) buffer

theorem capture_append (buffer : Bytes) (first second : List Frame) :
    capture buffer (first ++ second) =
      capture buffer first ++ capture (bufferAfter buffer first) second := by
  induction first generalizing buffer with
  | nil => rfl
  | cons frame first ih =>
      simp only [List.cons_append, capture, ih]
      rfl

section ByteAfter

variable (limit : ℕ)

/-- A receive buffer that holds the latest bytes still does when more are written over it. -/
theorem overlay_byteAfter (datas : List Bytes) (data : Bytes) :
    data.overlay ((List.range limit).map (byteAfter datas)) =
      (List.range limit).map (byteAfter (datas ++ [data])) := by
  apply List.ext_getElem?
  intro i
  rw [Bytes.getElem?_overlay, List.getElem?_map, List.getElem?_map, Option.map_map]
  rcases Nat.lt_or_ge i limit with hi | hi
  · rw [List.getElem?_range hi, Option.map_some, Option.map_some, byteAfter_snoc]
    rfl
  · have hnone : (List.range limit)[i]? = none := List.getElem?_eq_none (by simpa using hi)
    rw [hnone, Option.map_none, Option.map_none]

/-- A new receive buffer holds the latest bytes of no frames. -/
theorem replicate_eq_byteAfter :
    List.replicate limit (0 : UInt8) = (List.range limit).map (byteAfter []) := by
  apply List.ext_getElem
  · simp
  · intro i hi hi'
    rw [List.getElem_replicate, List.getElem_map, byteAfter_nil]

/-- What is captured of the frames that come after some others, byte by byte. -/
theorem capture_byteAfter (datas : List Bytes) (frames : List Frame) :
    capture ((List.range limit).map (byteAfter datas)) frames =
      frames.mapIdx fun k frame =>
        ⟨(List.range (min frame.reported limit)).map
          (byteAfter (datas ++ (frames.take (k + 1)).map (·.bytes))), frame.reported⟩ := by
  -- The first frame joins those that came before, for all the frames behind it.
  induction frames generalizing datas with
  | nil => rfl
  | cons frame frames ih =>
      have hrest := ih (datas ++ [frame.bytes])
      simp only [List.append_assoc, List.singleton_append] at hrest
      simp only [capture, overlay_byteAfter, hrest, List.mapIdx_cons, List.take_succ_cons,
        List.map_cons, List.take_zero, List.map_nil, ← List.map_take, List.take_range]

end ByteAfter

/-- What a worker with so large a receive buffer captures of some frames: as many bytes as there are
room for and were reported, each from the latest frame that reached so far. -/
def captured (limit : ℕ) (frames : List Frame) : List Frame :=
  frames.mapIdx fun k frame =>
    ⟨(List.range (min frame.reported limit)).map
      (byteAfter ((frames.take (k + 1)).map (·.bytes))), frame.reported⟩

theorem capture_new (limit : ℕ) (frames : List Frame) :
    capture (List.replicate limit 0) frames = captured limit frames := by
  rw [replicate_eq_byteAfter, capture_byteAfter]
  rfl

/-- If every frame was received as long as it was on the link, what is captured of it are its own
bytes, as many as there is room for. -/
theorem capture_of_exact (buffer : Bytes) (frames : List Frame)
    (hexact : ∀ frame ∈ frames, frame.reported = frame.bytes.length) :
    capture buffer frames =
      frames.map fun frame => ⟨frame.bytes.take buffer.length, frame.reported⟩ := by
  induction frames generalizing buffer with
  | nil => rfl
  | cons frame frames ih =>
      have hhead : frame.reported = frame.bytes.length := hexact frame (List.mem_cons_self ..)
      have hrest := ih (frame.bytes.overlay buffer) fun other hother =>
        hexact other (List.mem_cons_of_mem _ hother)
      rw [Bytes.length_overlay] at hrest
      simp only [capture, List.map_cons, hrest, hhead, Bytes.take_overlay]

/-- A sink whose state tells which frames it was handed, in order. -/
structure Sink.Logs {σ : Type} (sink : Sink σ) (log : σ → List Frame) : Prop where
  accept : ∀ bytes reported s, log (sink.accept bytes reported s).2 = log s ++ [⟨bytes, reported⟩]
  note : ∀ event s, log (sink.note event s) = log s

namespace Worker

/-- The receive calls of a receive loop on a script. -/
def upToLast : List Arrival → List Arrival
  | [] => []
  | arrival :: script => arrival :: if arrival.isLast then [] else upToLast script

/-- The receive calls of some polls and, if there is one, of a run after them, which may be told to
stop before it starts. -/
def received (polls : ℕ) (last : Option Bool) (script : List Arrival) : List Arrival :=
  script.take polls ++
    match last with
    | some false => upToLast (script.drop polls)
    | _ => []

/-- The first of some polls makes the first receive call. -/
theorem received_succ (polls : ℕ) (last : Option Bool) (script : List Arrival) :
    received (polls + 1) last script = script.take 1 ++ received polls last script.tail := by
  cases script with
  | nil => rcases last with _ | _ | _ <;> simp [received, upToLast]
  | cons arrival script => rfl

variable {σ : Type} {sink : Sink σ} {log : σ → List Frame}

/-- A receive call writes the frame that it yields over the receive buffer. -/
theorem deal_buffer (buffer : Bytes) (s : σ) (reception : Reception) :
    (deal sink buffer s reception).2.1 = bufferAfter buffer reception.frame?.toList := by
  cases reception <;> rfl

/-- The frame that a receive call yields is handed over as far as it is captured. -/
theorem deal_logs (h : sink.Logs log) (buffer : Bytes) (s : σ) (reception : Reception) :
    log (deal sink buffer s reception).2.2 = log s ++ capture buffer reception.frame?.toList := by
  cases reception with
  | frame data reported => exact h.accept _ _ _
  | silence => exact (List.append_nil _).symm
  | failure error => exact (List.append_nil _).symm

/-- A receive call that yields no frame leaves the receive buffer and the sink as they are. -/
theorem deal_without_frame (buffer : Bytes) (s : σ) {reception : Reception}
    (hnone : reception.frame? = none) : (deal sink buffer s reception).2 = (buffer, s) := by
  cases reception with
  | frame data reported => cases hnone
  | silence => rfl
  | failure error => rfl

/-- A poll makes the first receive call of the script, or the one after its end. -/
theorem framesOf_take_one (script : List Arrival) :
    framesOf (script.take 1) = (script.headD .scriptEnd).reception.frame?.toList := by
  cases script with
  | nil => rfl
  | cons arrival script =>
      simp only [framesOf, List.take_succ_cons, List.take_zero, List.headD_cons]
      cases hframe : arrival.reception.frame? <;> simp [hframe]

/-- The worker after a poll, whatever its sink does. -/
theorem poll_worker (w : Worker) (s : σ) :
    (w.poll sink s).2.1 =
      { w with
        buffer := bufferAfter w.buffer (framesOf (w.script.take 1))
        script := w.script.tail } := by
  simp only [poll, deal_buffer, framesOf_take_one]

/-- A poll hands over what it captures. -/
theorem poll_logs (h : sink.Logs log) (w : Worker) (s : σ) :
    log (w.poll sink s).2.2 = log s ++ capture w.buffer (framesOf (w.script.take 1)) := by
  rw [framesOf_take_one]
  exact deal_logs h _ _ _

/-- A frame that was not delivered is reported, but not handed over again. -/
theorem report_logs (h : sink.Logs log) (outcome : Outcome) (frames : ℕ) (s : σ) :
    log (if outcome.isDelivered then s else sink.note (.notDelivered outcome frames) s) = log s := by
  split
  · rfl
  · exact h.note _ _

/-- A receive loop hands over what it captures. -/
theorem loop_logs (h : sink.Logs log) (signals : List Signal) (script : List Arrival)
    (buffer : Bytes) (frames : ℕ) (s : σ) :
    log (loop sink signals script buffer frames s).state =
      log s ++ capture buffer (framesOf (upToLast script)) := by
  induction script generalizing buffer frames s with
  | nil => exact (h.note _ _).trans (List.append_nil _).symm
  | cons arrival script ih =>
      rcases arrival with ⟨reception, stop⟩
      cases reception with
      | frame data reported =>
          have haccepted := h.accept ((data.overlay buffer).take reported) reported s
          rcases hsink : sink.accept ((data.overlay buffer).take reported) reported s with
            ⟨outcome, s'⟩
          rw [hsink] at haccepted
          have hreported := (report_logs h outcome (frames + 1) s').trans haccepted
          cases stop with
          | true =>
              simp only [loop, deal, hsink, Option.isSome_some, if_true, h.note, hreported]
              rfl
          | false =>
              simp only [loop, deal, hsink, Option.isSome_some, if_true, Bool.false_eq_true, if_false,
                ih, hreported, List.append_assoc]
              rfl
      | silence =>
          cases stop with
          | true => exact (h.note _ _).trans (List.append_nil _).symm
          | false => exact ih buffer frames s
      | failure error => exact (h.note _ _).trans (List.append_nil _).symm

/-- A run hands over what it captures, and nothing if it is told to stop before it starts. -/
theorem run_logs (h : sink.Logs log) (w : Worker) (stopped : Bool) (s : σ) :
    log (w.run sink stopped s).state =
      log s ++ capture w.buffer (framesOf (received 0 (some stopped) w.script)) := by
  cases stopped with
  | true =>
      rw [run, if_pos rfl, h.note, h.note]
      exact (List.append_nil _).symm
  | false =>
      rw [run, if_neg Bool.false_ne_true, loop_logs h, h.note]
      rfl

end Worker

end Demux
