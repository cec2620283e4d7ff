import Mathlib
import Demux.Proofs.Lockstep
import Demux.Proofs.Planes
import Demux.Session

/-!
# Sessions that are alike

Two sessions that start alike, and in which alike things are done, stay alike and give alike answers
(`Likeness.run`).  What alike means is for a `Likeness` to say: how closely buffers are looked at, when
dispatchers, pools and queues are alike, and which actions come to the same.  Its laws speak of one call
at a time, to a pool, a queue or the dispatcher; sessions add held buffers and workers to these, kept
on shelves that are alike name by name (`Shelf.Alike`).
-/

namespace Demux

namespace Shelf

variable {α : Type}

/-- Shelves with the same names in order, and with things that are related. -/
def Alike (R : α → α → Prop) (xs ys : Shelf α) : Prop :=
  List.Forall₂ (fun x y => x.1 = y.1 ∧ R x.2 y.2) xs ys

section Alike

variable {R : α → α → Prop} {xs ys : Shelf α} (h : Alike R xs ys) (name : String)

include h

/-- Under a name there is nothing on either shelf, or there are things that are related. -/
theorem Alike.find? :
    xs.find? name = none ∧ ys.find? name = none ∨
      ∃ x y, xs.find? name = some x ∧ ys.find? name = some y ∧ R x y := by
  unfold Shelf.find?
  induction h with
  | nil => exact Or.inl ⟨rfl, rfl⟩
  | @cons x y xs ys hxy hrest ih =>
      obtain ⟨hname, hR⟩ := hxy
      by_cases hhere : x.1 = name
      · refine Or.inr ⟨x.2, y.2, ?_, ?_, hR⟩
        · simp [hhere]
        · simp [← hname, hhere]
      · have hthere : ¬ y.1 = name := fun heq => hhere (hname.trans heq)
        simpa [List.find?_cons, hhere, hthere] using ih

theorem Alike.remove : Alike R (xs.remove name) (ys.remove name) := by
  refine List.rel_filter ?_ h
  intro x y hxy
  simp only [hxy.1]

theorem Alike.put {x y : α} (hxy : R x y) : Alike R (xs.put name x) (ys.put name y) :=
  .cons ⟨rfl, hxy⟩ (h.remove name)

end Alike

theorem alike_self {R : α → α → Prop} (hR : ∀ x, R x x) (xs : Shelf α) : Alike R xs xs :=
  List.forall₂_same.mpr fun x _ => ⟨rfl, hR x.2⟩

end Shelf

/-- When pools and queues are alike, and how closely their buffers are looked at. -/
structure PlaneLikeness where
  /-- As much of a buffer as is looked at. -/
  look : Buffer → Buffer
  planes : DataPlane → DataPlane → Prop
  clear : ∀ {x y}, look x = look y → look x.clear = look y.clear
  fill : ∀ data : Bytes, data.FillAlike look data
  acquire : ∀ {p q}, planes p q → ∀ view pool len,
    (p.acquire view pool len).1.map look = (q.acquire view pool len).1.map look ∧
      planes (p.acquire view pool len).2 (q.acquire view pool len).2
  release : ∀ {p q x y}, planes p q → look x = look y → ∀ view pool,
    planes (p.release view pool x) (q.release view pool y)
  send : ∀ {p q x y}, planes p q → look x = look y → ∀ queue,
    (p.send queue x).1.map look = (q.send queue y).1.map look ∧
      planes (p.send queue x).2 (q.send queue y).2
  receive : ∀ {p q}, planes p q → ∀ queue,
    (p.receive queue).1.map look = (q.receive queue).1.map look ∧
      planes (p.receive queue).2 (q.receive queue).2
  note : ∀ {p q}, planes p q → ∀ event, planes (p.note event) (q.note event)

/-- A route finds the same among pools and queues that are alike. -/
theorem PlaneLikeness.matched (L : PlaneLikeness) (r : Route) (view : Option Stats) :
    r.Matched L.look L.planes (DataPlane.collaborators view) (DataPlane.collaborators view) where
  acquire h len := L.acquire h view r.pool len
  release h hxy := L.release h hxy view r.pool
  send h hxy := L.send h hxy r.queue

/-- When dispatchers with their pools and queues are alike, and which actions come to the same. -/
structure Likeness (f : Format) extends PlaneLikeness where
  dispatchers : Dispatcher f → Dispatcher f → Prop
  actions : Action f → Action f → Prop
  perform : ∀ {d e x y p q}, dispatchers d e → actions x y → planes p q →
    (d.perform (DataPlane.collaborators none) x p).1 =
        (e.perform (DataPlane.collaborators none) y q).1 ∧
      dispatchers (d.perform (DataPlane.collaborators none) x p).2.1
        (e.perform (DataPlane.collaborators none) y q).2.1 ∧
      planes (d.perform (DataPlane.collaborators none) x p).2.2
        (e.perform (DataPlane.collaborators none) y q).2.2

variable {f : Format}

/-- Whatever is asked of a dispatcher, pools and queues matter only if it is to deal with a frame. -/
theorem PlaneLikeness.perform_alone (L : PlaneLikeness) (d : Dispatcher f) (action : Action f)
    (hother : ∀ frame reported, action ≠ .handle frame reported) {p q : DataPlane}
    (hpq : L.planes p q) (env : Collaborators DataPlane) :
    (d.perform env action p).1 = (d.perform env action q).1 ∧
      ((d.perform env action p).2.1 = (d.perform env action q).2.1 ∧
        (d.perform env action p).2.1.offset = d.offset) ∧
      L.planes (d.perform env action p).2.2 (d.perform env action q).2.2 := by
  cases action with
  | addRoute id draft =>
      simp only [Dispatcher.perform]
      cases d.registry.add id draft with
      | error e => exact ⟨rfl, ⟨rfl, rfl⟩, hpq⟩
      | ok registry => exact ⟨rfl, ⟨rfl, rfl⟩, hpq⟩
  | setDefault draft =>
      simp only [Dispatcher.perform]
      cases d.registry.setDefault draft with
      | error e => exact ⟨rfl, ⟨rfl, rfl⟩, hpq⟩
      | ok registry => exact ⟨rfl, ⟨rfl, rfl⟩, hpq⟩
  | handle frame reported => exact absurd rfl (hother frame reported)
  | resetCounters => exact ⟨rfl, ⟨rfl, rfl⟩, hpq⟩

/-- What is asked of a station is asked of its dispatcher, and the event that it is is reported. -/
theorem Station.perform_eq {st : Station f} {action : Action f}
    {result : Except DispatchError DispatchEvent} {d : Dispatcher f} {p : DataPlane}
    (h : st.lock.value.perform (DataPlane.collaborators none) action st.plane = (result, d, p)) :
    st.perform action = (result,
      ⟨st.lock.take.leave d, result.toOption.elim p fun event => p.note (.dispatch event)⟩) := by
  -- Pools that are called meanwhile see that the lock is taken.
  have hview : Station.view { st with lock := st.lock.take } = none := rfl
  have hvalue : st.lock.take.value = st.lock.value := rfl
  simp only [perform, exclusively, hview, hvalue, h]
  cases result <;> rfl

/-- As much of an answer as is looked at. -/
def Answer.seen (look : Buffer → Buffer) : Answer → Answer
  | .buffer b => .buffer (b.map look)
  | .acquired result => .acquired (result.map look)
  | .filled error b => .filled error (look b)
  | .sent back => .sent (back.map look)
  | .block data => .block (look (.ofBlock data)).block
  | answer => answer

namespace Op

/-- Frames that actions which come to the same are about. -/
def Frames (actions : Action f → Action f → Prop) (x y : Frame) : Prop :=
  actions (.handle x.bytes x.reported) (.handle y.bytes y.reported)

/-- Whether the operation says what is asked of the dispatcher, or what a worker will. -/
def isInput : Op f → Bool
  | .act _ | .employ _ _ => true
  | _ => false

/-- Whether the operation only looks at the counters. -/
def isQuestion : Op f → Bool
  | .countersFor _ | .stats | .tryStats => true
  | _ => false

/-- Operations that do the same, up to actions that come to the same. -/
inductive Alike (actions : Action f → Action f → Prop) : Op f → Op f → Prop
  | act {x y : Action f} (h : actions x y) : Alike actions (.act x) (.act y)
  | employ (name : String) {w v : Worker} (h : w.Matches (Frames actions) v) :
      Alike actions (.employ name w) (.employ name v)
  | same {op : Op f} (h : op.isInput = false) : Alike actions op op

/-- An operation does the same as itself if every action does. -/
theorem alike_self {actions : Action f → Action f → Prop} (hactions : ∀ x, actions x x)
    (op : Op f) : Alike actions op op := by
  cases op with
  | act action => exact .act (hactions action)
  | employ name w => exact .employ name (Worker.matches_self (fun _ => hactions _) w)
  | _ => exact .same rfl

end Op

namespace Likeness

variable (L : Likeness f)

/-- Stations that are alike, and at which somebody works or nobody does. -/
structure Stations (a b : Station f) : Prop where
  dispatchers : L.dispatchers a.lock.value b.lock.value
  held : a.lock.held = b.lock.held
  planes : L.planes a.plane b.plane

/-- Sessions that are alike. -/
structure Sessions (s t : Session f) : Prop where
  station : L.Stations s.station t.station
  held : s.held.Alike (fun x y => L.look x = L.look y) t.held
  workers : s.workers.Alike (Worker.Matches (Op.Frames L.actions)) t.workers

variable {L}

section Stations

variable {a b : Station f} (h : L.Stations a b)

include h

/-- An observer finds the lock free at both stations or at neither. -/
theorem Stations.view : a.view.isSome = b.view.isSome := by
  simp only [Station.view, Locked.tryRead, h.held]
  cases b.lock.held <;> rfl

theorem Stations.perform {x y : Action f} (hxy : L.actions x y) :
    (a.perform x).1 = (b.perform y).1 ∧ L.Stations (a.perform x).2 (b.perform y).2 := by
  obtain ⟨hresult, hdispatchers, hplanes⟩ := L.perform h.dispatchers hxy h.planes
  rcases ha : a.lock.value.perform (DataPlane.collaborators none) x a.plane with ⟨result, d, p⟩
  rcases hb : b.lock.value.perform (DataPlane.collaborators none) y b.plane with ⟨result', e, q⟩
  rw [ha, hb] at hresult hdispatchers hplanes
  obtain rfl : result = result' := hresult
  rw [Station.perform_eq ha, Station.perform_eq hb]
  refine ⟨rfl, hdispatchers, rfl, ?_⟩
  cases result with
  | error e => exact hplanes
  | ok event => exact L.note hplanes _

theorem Stations.handle {x y : Frame} (hxy : Op.Frames L.actions x y) :
    (a.handle x.bytes x.reported).1 = (b.handle y.bytes y.reported).1 ∧
      L.Stations (a.handle x.bytes x.reported).2 (b.handle y.bytes y.reported).2 := by
  obtain ⟨hresult, hafter⟩ := h.perform hxy
  refine ⟨?_, hafter⟩
  have hreport := DispatchEvent.frame.inj (Except.ok.inj hresult)
  exact congrArg Report.outcome hreport

theorem Stations.acquire (pool : PoolRef) (len : ℕ) :
    (a.acquire pool len).1.map L.look = (b.acquire pool len).1.map L.look ∧
      L.Stations (a.acquire pool len).2 (b.acquire pool len).2 := by
  obtain ⟨hresult, hplanes⟩ := L.acquire h.planes a.view pool len
  rw [DataPlane.acquire_view h.view pool len b.plane] at hresult hplanes
  exact ⟨hresult, h.dispatchers, h.held, hplanes⟩

theorem Stations.release (pool : PoolRef) {x y : Buffer} (hxy : L.look x = L.look y) :
    L.Stations (a.release pool x) (b.release pool y) := by
  have hplanes := L.release h.planes hxy a.view pool
  rw [DataPlane.release_view h.view pool y b.plane] at hplanes
  exact ⟨h.dispatchers, h.held, hplanes⟩

theorem Stations.send (queue : QueueRef) {x y : Buffer} (hxy : L.look x = L.look y) :
    (a.send queue x).1.map L.look = (b.send queue y).1.map L.look ∧
      L.Stations (a.send queue x).2 (b.send queue y).2 := by
  obtain ⟨hrefused, hplanes⟩ := L.send h.planes hxy queue
  exact ⟨hrefused, h.dispatchers, h.held, hplanes⟩

theorem Stations.receive (queue : QueueRef) :
    (a.receive queue).1.map L.look = (b.receive queue).1.map L.look ∧
      L.Stations (a.receive queue).2 (b.receive queue).2 := by
  obtain ⟨hbuffer, hplanes⟩ := L.receive h.planes queue
  exact ⟨hbuffer, h.dispatchers, h.held, hplanes⟩

/-- A question is asked while holding the lock, and changes nothing else. -/
theorem Stations.ask {α : Type} (question : Dispatcher f → α) :
    L.Stations (a.ask question).2 (b.ask question).2 := ⟨h.dispatchers, rfl, h.planes⟩

end Stations

/-- A worker finds that stations which are alike do the same with its frames. -/
theorem sink_matches : Sink.Matches (Op.Frames L.actions) L.Stations Station.sink Station.sink where
  accept hxy h := h.handle hxy
  note h _ := ⟨h.dispatchers, h.held, L.note h.planes _⟩

/-- Dispatchers that are alike are the same. -/
def Exact (L : Likeness f) : Prop := ∀ d e, L.dispatchers d e → d = e

section Sessions

variable {s t : Session f} (h : L.Sessions s t)

include h

theorem Sessions.withStation {a b : Station f} (hab : L.Stations a b) :
    L.Sessions { s with station := a } { t with station := b } := ⟨hab, h.held, h.workers⟩

theorem Sessions.keep (name : Option String) {x y : Buffer} (hxy : L.look x = L.look y) :
    L.Sessions (s.keep name x) (t.keep name y) := by
  cases name with
  | none => exact h
  | some name => exact ⟨h.station, h.held.put name hxy, h.workers⟩

theorem Sessions.remove (name : String) :
    L.Sessions { s with held := s.held.remove name } { t with held := t.held.remove name } :=
  ⟨h.station, h.held.remove name, h.workers⟩

theorem Sessions.dispose (disposal : Disposal) {x y : Buffer} (hxy : L.look x = L.look y) :
    L.Sessions (s.dispose x disposal) (t.dispose y disposal) := by
  cases disposal with
  | release pool => exact h.withStation (h.station.release pool hxy)
  | keep name => exact h.keep (some name) hxy
  | drop => exact h

/-- What is done with a held buffer comes to the same if it does for buffers that look the same. -/
theorem Sessions.withHeld (name : String) {body body' : Buffer → Answer × Session f}
    (hbody : ∀ x y, L.look x = L.look y →
      (body x).1.seen L.look = (body' y).1.seen L.look ∧ L.Sessions (body x).2 (body' y).2) :
    (s.withHeld name body).1.seen L.look = (t.withHeld name body').1.seen L.look ∧
      L.Sessions (s.withHeld name body).2 (t.withHeld name body').2 := by
  unfold Session.withHeld
  rcases h.held.find? name with ⟨hs, ht⟩ | ⟨x, y, hs, ht, hxy⟩
  · rw [hs, ht]
    exact ⟨rfl, h⟩
  · rw [hs, ht]
    exact hbody x y hxy

/-- What a worker does comes to the same if it does for workers that match. -/
theorem Sessions.withWorker (name : String) {body body' : Worker → Answer × Session f}
    (hbody : ∀ w v, w.Matches (Op.Frames L.actions) v →
      (body w).1.seen L.look = (body' v).1.seen L.look ∧ L.Sessions (body w).2 (body' v).2) :
    (s.withWorker name body).1.seen L.look = (t.withWorker name body').1.seen L.look ∧
      L.Sessions (s.withWorker name body).2 (t.withWorker name body').2 := by
  unfold Session.withWorker
  rcases h.workers.find? name with ⟨hs, ht⟩ | ⟨w, v, hs, ht, hwv⟩
  · rw [hs, ht]
    exact ⟨rfl, h⟩
  · rw [hs, ht]
    exact hbody w v hwv

/-- An operation that takes no input of its own comes to the same, unless it looks at counters that
differ. -/
theorem Sessions.step_same {op : Op f} (hop : op.isInput = false)
    (hexact : op.isQuestion = true → L.Exact) :
    (s.step op).1.seen L.look = (t.step op).1.seen L.look ∧
      L.Sessions (s.step op).2 (t.step op).2 := by
  cases op with
  | act action => cases hop
  | employ name w => cases hop
  | countersFor queue =>
      have hsame := hexact rfl _ _ h.station.dispatchers
      refine ⟨?_, h.withStation (h.station.ask (·.countersFor queue))⟩
      exact congrArg (fun d => Answer.counters (Dispatcher.countersFor d queue)) hsame
  | stats =>
      have hsame := hexact rfl _ _ h.station.dispatchers
      refine ⟨?_, h.withStation (h.station.ask (·.stats))⟩
      exact congrArg (fun d => Answer.stats (some (Dispatcher.stats d))) hsame
  | tryStats =>
      have hsame := hexact rfl _ _ h.station.dispatchers
      refine ⟨?_, h⟩
      simp only [Session.step, Station.view, Locked.tryRead, h.station.held, hsame]
  | receive queue disposal =>
      obtain ⟨hbuffer, hstations⟩ := h.station.receive queue
      have hsessions := h.withStation hstations
      rcases hs : s.station.receive queue with ⟨_ | x, a⟩ <;>
        rcases ht : t.station.receive queue with ⟨_ | y, b⟩ <;>
        simp only [hs, ht, Option.map_none, Option.map_some, Option.some.injEq, reduceCtorEq]
          at hbuffer hsessions
      · simp only [Session.step, hs, ht]
        exact ⟨trivial, hsessions⟩
      · simp only [Session.step, hs, ht, Answer.seen, Option.map_some, hbuffer]
        exact ⟨trivial, hsessions.dispose disposal hbuffer⟩
  | acquire pool len name =>
      obtain ⟨hresult, hstations⟩ := h.station.acquire pool len
      have hsessions := h.withStation hstations
      rcases hs : s.station.acquire pool len with ⟨e | x, a⟩ <;>
        rcases ht : t.station.acquire pool len with ⟨e' | y, b⟩ <;>
        simp only [hs, ht, Except.map, Except.error.injEq, Except.ok.injEq, reduceCtorEq]
          at hresult hsessions
      · simp only [Session.step, hs, ht, hresult]
        exact ⟨trivial, hsessions⟩
      · simp only [Session.step, hs, ht, Answer.seen, Except.map, hresult]
        exact ⟨trivial, hsessions.keep name hresult⟩
  | block data name => exact ⟨rfl, h.keep (some name) rfl⟩
  | fill name data =>
      refine h.withHeld name fun x y hxy => ?_
      have hfilled := (L.fill data).fill hxy
      rcases hx : x.fill data with e | x' <;> rcases hy : y.fill data with e' | y' <;>
        simp only [hx, hy, Except.map, Except.error.injEq, Except.ok.injEq, reduceCtorEq]
          at hfilled
      · simp only [Answer.seen, hfilled, hxy]
        exact ⟨trivial, h⟩
      · simp only [Answer.seen, hfilled]
        exact ⟨trivial, h.keep (some name) hfilled⟩
  | clear name =>
      refine h.withHeld name fun x y hxy => ⟨?_, h.keep (some name) (L.clear hxy)⟩
      exact congrArg (fun b => Answer.buffer (some b)) (L.clear hxy)
  | send name queue =>
      refine h.withHeld name fun x y hxy => ?_
      obtain ⟨hrefused, hstations⟩ := h.station.send queue hxy
      have hsessions := h.withStation hstations
      rcases hs : s.station.send queue x with ⟨_ | x', a⟩ <;>
        rcases ht : t.station.send queue y with ⟨_ | y', b⟩ <;>
        simp only [hs, ht, Option.map_none, Option.map_some, Option.some.injEq, reduceCtorEq]
          at hrefused hsessions
      · exact ⟨rfl, hsessions.remove name⟩
      · simp only [Answer.seen, Option.map_some, hrefused]
        exact ⟨trivial, hsessions.keep (some name) hrefused⟩
  | release name pool =>
      refine h.withHeld name fun x y hxy => ⟨rfl, ?_⟩
      exact (h.withStation (h.station.release pool hxy)).remove name
  | intoBlock name =>
      refine h.withHeld name fun x y hxy => ⟨?_, h.remove name⟩
      exact congrArg (fun b => Answer.block b.block) (L.clear hxy)
  | poll name =>
      refine h.withWorker name fun w v hwv => ?_
      obtain ⟨hresult, hnext, hstations⟩ := Worker.poll_matches sink_matches hwv h.station
      refine ⟨?_, hstations, h.held, h.workers.put name hnext⟩
      simp only [Answer.seen, hresult, hwv.signals]
  | run name stopped =>
      refine h.withWorker name fun w v hwv => ?_
      obtain ⟨hresult, hsignals, hstations⟩ :=
        Worker.run_matches sink_matches hwv stopped h.station
      refine ⟨?_, hstations, h.held, h.workers.remove name⟩
      simp only [Answer.seen, hresult, hsignals]

/-- Operations that do the same come to the same. -/
theorem Sessions.step {x y : Op f} (hop : Op.Alike L.actions x y)
    (hexact : x.isQuestion = true → L.Exact) :
    (s.step x).1.seen L.look = (t.step y).1.seen L.look ∧
      L.Sessions (s.step x).2 (t.step y).2 := by
  cases hop with
  | act hxy =>
      obtain ⟨hresult, hstations⟩ := h.station.perform hxy
      exact ⟨congrArg (fun r => (Answer.ofDispatch r).seen L.look) hresult, h.withStation hstations⟩
  | employ name hwv => exact ⟨rfl, h.station, h.held, h.workers.put name hwv⟩
  | same hop => exact h.step_same hop hexact

/-- **Sessions that are alike stay alike**, and give alike answers, when alike things are done. -/
theorem Sessions.run {xs ys : List (Op f)} (hops : List.Forall₂ (Op.Alike L.actions) xs ys)
    (hexact : ∀ x ∈ xs, x.isQuestion = true → L.Exact) :
    (s.run xs).1.map (·.seen L.look) = (t.run ys).1.map (·.seen L.look) ∧
      L.Sessions (s.run xs).2 (t.run ys).2 := by
  induction hops generalizing s t with
  | nil => exact ⟨rfl, h⟩
  | @cons x y xs ys hxy hrest ih =>
      obtain ⟨hhead, htail⟩ := List.forall_mem_cons.mp hexact
      obtain ⟨hanswer, hafter⟩ := h.step hxy hhead
      obtain ⟨hanswers, hend⟩ := ih hafter htail
      exact ⟨congrArg₂ List.cons hanswer hanswers, hend⟩

end Sessions

/-- Workers match themselves if every action comes to the same as itself. -/
theorem workers_self (hactions : ∀ x, L.actions x x) (xs : Shelf Worker) :
    xs.Alike (Worker.Matches (Op.Frames L.actions)) xs :=
  Shelf.alike_self (Worker.matches_self fun _ => hactions _) xs

/-- Sessions with new dispatchers that are alike, and with pools and queues that are alike. -/
theorem sessions_new {d e : Dispatcher f} (hdispatchers : L.dispatchers d e)
    (hplanes : ∀ p, L.planes p p) (pools : List Pool) (queues : List Queue) :
    L.Sessions (.new d pools queues) (.new e pools queues) :=
  ⟨⟨hdispatchers, rfl, hplanes _⟩, .nil, .nil⟩

end Likeness

end Demux
