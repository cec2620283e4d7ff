import Mathlib
import Demux.Proofs.Agreement
import Demux.Proofs.Cleared
import Demux.Proofs.Collaboration
import Demux.Proofs.Sessions

/-!
# Routes that share nothing do not disturb each other

Take some of the routes of a dispatcher, and let no other route draw from their pools or lead to their
queues (`Registry.Isolated`).  Then whatever is done for the other routes may as well not have been
done, as far as these routes are concerned.

Two stations are compared that agree on the routes taken, on what was counted there, and on their
pools and queues (`Station.AgreeAt`).  An errand for these routes comes to the same at both
(`AgreeAt.inside`), and an errand for others at one of them keeps them in agreement
(`AgreeAt.outside`).
-/

namespace Demux

variable {f : Format}

namespace Registry

/-- The route at a place, without what was counted there. -/
def route? (r : Registry f) (slot : Slot) : Option Route := (r.endpoint? slot).map (·.route)

/-- The pools that the routes at some places draw from. -/
def poolsAt (r : Registry f) (slots : List Slot) : List PoolRef :=
  (slots.filterMap r.route?).map (·.pool)

/-- The queues that the routes at some places lead to. -/
def queuesAt (r : Registry f) (slots : List Slot) : List QueueRef :=
  (slots.filterMap r.route?).map (·.queue)

/-- No other route draws from the pools of the routes at some places or leads to their queues. -/
def Isolated (r : Registry f) (slots : List Slot) : Prop :=
  ∀ slot route, slot ∉ slots → r.route? slot = some route →
    route.pool ∉ r.poolsAt slots ∧ route.queue ∉ r.queuesAt slots

theorem route?_resetCounters (r : Registry f) (slot : Slot) :
    r.resetCounters.route? slot = r.route? slot := by
  rw [route?, endpoint?_resetCounters, Option.map_map]
  rfl

/-- A destination is one of the routes. -/
theorem route?_of_destination {r : Registry f} {id : Option f.Value} {slot : Slot} {route : Route}
    (h : r.destination id = some (slot, route)) : r.route? slot = some route := by
  obtain ⟨⟨slot', e⟩, hresolve, heq⟩ := Option.map_eq_some_iff.mp h
  cases heq
  rw [route?, endpoint?_of_resolve hresolve]
  rfl

theorem mem_poolsAt {r : Registry f} {slots : List Slot} {slot : Slot} {route : Route}
    (hmem : slot ∈ slots) (hroute : r.route? slot = some route) : route.pool ∈ r.poolsAt slots :=
  List.mem_map_of_mem (List.mem_filterMap.mpr ⟨slot, hmem, hroute⟩)

theorem mem_queuesAt {r : Registry f} {slots : List Slot} {slot : Slot} {route : Route}
    (hmem : slot ∈ slots) (hroute : r.route? slot = some route) : route.queue ∈ r.queuesAt slots :=
  List.mem_map_of_mem (List.mem_filterMap.mpr ⟨slot, hmem, hroute⟩)

theorem filterMap_getElem?_range {α β : Type} (xs : List α) (g : α → β) :
    (List.range xs.length).filterMap (fun i => xs[i]?.map g) = xs.map g := by
  induction xs with
  | nil => rfl
  | cons x xs ih =>
      rw [List.length_cons, List.range_succ_eq_map, List.filterMap_cons, List.filterMap_map]
      exact congrArg (g x :: ·) ih

/-- All routes, place by place. -/
theorem endpoints_eq (r : Registry f) :
    r.endpoints =
      ((List.range r.listeners.length).map Slot.listener ++ [Slot.fallback]).filterMap
        r.endpoint? := by
  rw [List.filterMap_append, List.filterMap_map]
  refine congrArg₂ (· ++ ·) (filterMap_getElem?_range r.listeners (·.endpoint)).symm ?_
  cases hfallback : r.fallback <;> simp [endpoint?, hfallback]

/-- What was counted for a queue is known from the routes that lead to it. -/
theorem countersFor_congr {r s : Registry f} (hlength : r.listeners.length = s.listeners.length)
    {queue : QueueRef}
    (hsame : ∀ slot, (r.endpoint? slot).filter (·.route.queue = queue) =
      (s.endpoint? slot).filter (·.route.queue = queue)) :
    r.countersFor queue = s.countersFor queue := by
  unfold countersFor
  rw [endpoints_eq, endpoints_eq, hlength, List.filter_filterMap, List.filter_filterMap]
  congr 2
  exact List.filterMap_congr fun slot _ => hsame slot

end Registry

/-- What is done in a run that leaves the routes as they are. -/
inductive Errand
  /-- Have a frame dealt with. -/
  | dispatch (frame : Bytes) (reported : ℕ)
  /-- Take the oldest buffer of a queue, if there is one, and give it to a pool. -/
  | fetch (queue : QueueRef) (pool : PoolRef)
  deriving DecidableEq, Repr

namespace Errand

/-- An errand in a session. -/
def op : Errand → Op f
  | dispatch frame reported => .act (.handle frame reported)
  | fetch queue pool => .receive queue (.release pool)

/-- Whether an errand is for the routes at some places. -/
def concerns (d : Dispatcher f) (slots : List Slot) : Errand → Bool
  | dispatch frame _ => (d.destination frame).any (·.1 ∈ slots)
  | fetch queue _ => queue ∈ d.registry.queuesAt slots

/-- A buffer goes from the queues of some routes to their pools, or from other queues to other
pools. -/
def OnOneSide (r : Registry f) (slots : List Slot) : Errand → Prop
  | dispatch _ _ => True
  | fetch queue pool => queue ∈ r.queuesAt slots ↔ pool ∈ r.poolsAt slots

instance (r : Registry f) (slots : List Slot) : DecidablePred (OnOneSide r slots)
  | dispatch _ _ => isTrue trivial
  | fetch _ _ => inferInstanceAs (Decidable (_ ↔ _))

end Errand

namespace Station

/-- Take the oldest buffer of a queue, if there is one, and give it to a pool. -/
def fetch (queue : QueueRef) (pool : PoolRef) (st : Station f) : Option Buffer × Station f :=
  let (b, st) := st.receive queue
  (b, b.elim st fun b => st.release pool b)

/-- An errand at a station. -/
def carryOut (st : Station f) : Errand → Answer × Station f
  | .dispatch frame reported =>
      let (outcome, st) := st.handle frame reported
      (.handled outcome, st)
  | .fetch queue pool =>
      let (b, st) := st.fetch queue pool
      (.buffer b, st)

/-- A station with certain routes at which nobody holds the lock. -/
structure Keeps (d : Dispatcher f) (st : Station f) : Prop where
  routes : st.lock.value.cleared = d.cleared
  free : st.lock.held = false

section Keeps

variable {d : Dispatcher f} {st : Station f} (h : st.Keeps d)

include h

theorem Keeps.destination (frame : Bytes) :
    st.lock.value.destination frame = d.destination frame := by
  unfold Dispatcher.destination
  rw [Dispatcher.offset_congr h.routes, Dispatcher.destination_congr h.routes]

theorem Keeps.route? (slot : Slot) : st.lock.value.registry.route? slot = d.registry.route? slot := by
  have hregistry : st.lock.value.registry.resetCounters = d.registry.resetCounters :=
    congrArg Dispatcher.registry h.routes
  rw [← Registry.route?_resetCounters, hregistry, Registry.route?_resetCounters]

theorem Keeps.length_listeners :
    st.lock.value.registry.listeners.length = d.registry.listeners.length := by
  have hlength := congrArg (fun e => e.registry.listeners.length) h.routes
  simpa [Dispatcher.cleared, Registry.listeners_resetCounters] using hlength

/-- An errand leaves the routes as they are. -/
theorem Keeps.carryOut (e : Errand) : (st.carryOut e).2.Keeps d := by
  cases e with
  | dispatch frame reported =>
      exact ⟨(Dispatcher.cleared_handle _ st.lock.value frame reported st.plane).trans h.routes, rfl⟩
  | fetch queue pool =>
      simp only [Station.carryOut, fetch]
      cases (st.receive queue).1 with
      | none => exact ⟨h.routes, h.free⟩
      | some b => exact ⟨h.routes, h.free⟩

end Keeps

/-- Two stations with the same routes agree on the routes at some places: on what was counted there,
and on their pools and queues. -/
structure AgreeAt (d : Dispatcher f) (slots : List Slot) (a b : Station f) : Prop where
  left : a.Keeps d
  right : b.Keeps d
  endpoints : ∀ slot ∈ slots,
    a.lock.value.registry.endpoint? slot = b.lock.value.registry.endpoint? slot
  plane : a.plane.AgreeOn (d.registry.poolsAt slots) (d.registry.queuesAt slots) b.plane

section AgreeAt

variable {d : Dispatcher f} {slots : List Slot} {a b : Station f}

theorem agreeAt_self (h : a.Keeps d) : a.AgreeAt d slots a where
  left := h
  right := h
  endpoints := fun _ _ => rfl
  plane := ⟨fun _ _ => rfl, fun _ _ => rfl⟩

/-- The dispatcher after a frame. -/
theorem dispatcher_handle (st : Station f) (frame : Bytes) (reported : ℕ) :
    (st.handle frame reported).2.lock.value =
      st.lock.value.counted (st.handle frame reported).1
        ((st.lock.value.destination frame).map (·.1)) :=
  Dispatcher.handle_counted (DataPlane.collaborators none) st.lock.value frame reported st.plane

/-- What stands at a place after a frame that goes elsewhere. -/
theorem endpoint?_handle_elsewhere (st : Station f) {frame : Bytes} (reported : ℕ) {slot : Slot}
    (helse : ∀ place, st.lock.value.destination frame = some place → place.1 ≠ slot) :
    (st.handle frame reported).2.lock.value.registry.endpoint? slot =
      st.lock.value.registry.endpoint? slot := by
  rw [dispatcher_handle]
  cases hdestination : st.lock.value.destination frame with
  | none => rfl
  | some place =>
      have hne : slot ≠ place.1 := (helse place hdestination).symm
      simp only [Option.map_some, Dispatcher.counted, Registry.endpoint?_record, if_neg hne]
      exact Option.map_id'

/-- A frame for one of the places comes to the same at both stations. -/
theorem AgreeAt.handle_inside (h : a.AgreeAt d slots b) {frame : Bytes} {slot : Slot}
    {route : Route} (hdestination : d.destination frame = some (slot, route)) (hmem : slot ∈ slots)
    (reported : ℕ) :
    (a.handle frame reported).1 = (b.handle frame reported).1 ∧
      (a.handle frame reported).2.AgreeAt d slots (b.handle frame reported).2 := by
  have hroute := Registry.route?_of_destination hdestination
  have hroutes := h.left.routes.trans h.right.routes.symm
  have hmatched := DataPlane.matched_of_mem (Registry.mem_poolsAt hmem hroute)
    (Registry.mem_queuesAt hmem hroute) none
  obtain ⟨hreport, hplane⟩ := Dispatcher.handle_lockstep hroutes (Eq.refl (f.readAt frame _))
    (Eq.refl frame.length) reported h.plane (by
      intro slot' route' hdest
      rw [h.left.destination, hdestination] at hdest
      cases hdest
      exact Route.offer_matched hmatched (Bytes.fillAlike_id frame) reported h.plane)
  have houtcome : (a.handle frame reported).1 = (b.handle frame reported).1 :=
    congrArg Report.outcome hreport
  refine ⟨houtcome, h.left.carryOut (.dispatch frame reported),
    h.right.carryOut (.dispatch frame reported), ?_, hplane.note _ _⟩
  intro other hother
  rw [dispatcher_handle, dispatcher_handle, houtcome, h.left.destination, h.right.destination,
    hdestination]
  simp only [Option.map_some, Dispatcher.counted, Registry.endpoint?_record, h.endpoints other hother]

/-- A frame for another place, or for none, is no matter of the places. -/
theorem AgreeAt.handle_outside (h : a.AgreeAt d slots b) (hisolated : d.registry.Isolated slots)
    {frame : Bytes} (helse : ∀ place, d.destination frame = some place → place.1 ∉ slots)
    (reported : ℕ) : (a.handle frame reported).2.AgreeAt d slots b := by
  refine ⟨h.left.carryOut (.dispatch frame reported), h.right, ?_, ?_⟩
  · intro slot hmem
    rw [endpoint?_handle_elsewhere]
    · exact h.endpoints slot hmem
    · intro place hplace heq
      rw [h.left.destination] at hplace
      exact helse place hplace (heq ▸ hmem)
  · rw [(plane_handle a frame reported).2]
    refine DataPlane.AgreeOn.note_left ?_ _
    have hdestination := Dispatcher.destination_eq a.lock.value frame
    rw [h.left.destination] at hdestination
    rcases hresolve : a.lock.value.resolve frame with _ | ⟨slot, e⟩
    · rw [(Dispatcher.handle_of_unresolved hresolve _ reported a.plane).2.2]
      exact h.plane
    · rw [(Dispatcher.handle_of_resolved hresolve _ reported a.plane).2.2]
      rw [hresolve, Option.map_some] at hdestination
      obtain ⟨hpool, hqueue⟩ := hisolated slot e.route (helse _ hdestination)
        (Registry.route?_of_destination hdestination)
      exact h.plane.offer_left hpool hqueue none frame reported

/-- An observer of a station that nobody works at finds the lock free. -/
theorem Keeps.view (h : a.Keeps d) : a.view.isSome = true := by
  simp [Station.view, Locked.tryRead, h.free]

/-- Buffers from the queues of the places that go to their pools are the same at both stations. -/
theorem AgreeAt.fetch_inside (h : a.AgreeAt d slots b) {queue : QueueRef}
    (hqueue : queue ∈ d.registry.queuesAt slots) (pool : PoolRef) :
    (a.fetch queue pool).1 = (b.fetch queue pool).1 ∧
      (a.fetch queue pool).2.AgreeAt d slots (b.fetch queue pool).2 := by
  have hleft := h.left.carryOut (.fetch queue pool)
  have hright := h.right.carryOut (.fetch queue pool)
  obtain ⟨hbuffer, hplane⟩ := h.plane.receive hqueue
  have hview : b.view.isSome = a.view.isSome := h.right.view.trans h.left.view.symm
  simp only [carryOut, fetch, receive] at hleft hright ⊢
  rcases ha : a.plane.receive queue with ⟨x, p⟩
  rcases hb : b.plane.receive queue with ⟨y, q⟩
  rw [ha, hb] at hbuffer hplane
  rw [ha] at hleft
  rw [hb] at hright
  obtain rfl : x = y := hbuffer
  cases x with
  | none => exact ⟨rfl, hleft, hright, h.endpoints, hplane⟩
  | some x =>
      refine ⟨rfl, hleft, hright, h.endpoints, ?_⟩
      have hreleased := hplane.release a.view x pool
      rw [← DataPlane.release_view hview pool x q] at hreleased
      exact hreleased

/-- Buffers from other queues that go to other pools are no matter of the places. -/
theorem AgreeAt.fetch_outside (h : a.AgreeAt d slots b) {queue : QueueRef} {pool : PoolRef}
    (hqueue : queue ∉ d.registry.queuesAt slots) (hpool : pool ∉ d.registry.poolsAt slots) :
    (a.fetch queue pool).2.AgreeAt d slots b := by
  have hleft := h.left.carryOut (.fetch queue pool)
  have hplane := h.plane.receive_left hqueue
  simp only [carryOut, fetch, receive] at hleft ⊢
  rcases ha : a.plane.receive queue with ⟨x, p⟩
  rw [ha] at hleft hplane
  cases x with
  | none => exact ⟨hleft, h.right, h.endpoints, hplane⟩
  | some x => exact ⟨hleft, h.right, h.endpoints, hplane.release_left _ x hpool⟩

/-- An errand for the places comes to the same at both stations. -/
theorem AgreeAt.inside (h : a.AgreeAt d slots b) {e : Errand} (hin : e.concerns d slots = true) :
    (a.carryOut e).1 = (b.carryOut e).1 ∧ (a.carryOut e).2.AgreeAt d slots (b.carryOut e).2 := by
  cases e with
  | dispatch frame reported =>
      rcases hdestination : d.destination frame with _ | ⟨slot, route⟩
      · simp [Errand.concerns, hdestination] at hin
      · have hmem : slot ∈ slots := by simpa [Errand.concerns, hdestination] using hin
        obtain ⟨houtcome, hafter⟩ := h.handle_inside hdestination hmem reported
        exact ⟨congrArg Answer.handled houtcome, hafter⟩
  | fetch queue pool =>
      obtain ⟨hbuffer, hafter⟩ := h.fetch_inside (of_decide_eq_true hin) pool
      exact ⟨congrArg Answer.buffer hbuffer, hafter⟩

/-- Any other errand is no matter of the places. -/
theorem AgreeAt.outside (h : a.AgreeAt d slots b) (hisolated : d.registry.Isolated slots)
    {e : Errand} (hout : e.concerns d slots = false) (hside : e.OnOneSide d.registry slots) :
    (a.carryOut e).2.AgreeAt d slots b := by
  cases e with
  | dispatch frame reported =>
      refine h.handle_outside hisolated ?_ reported
      intro place hplace hmem
      simp [Errand.concerns, hplace, hmem] at hout
  | fetch queue pool =>
      have hqueue : queue ∉ d.registry.queuesAt slots := of_decide_eq_false hout
      exact h.fetch_outside hqueue (fun hpool => hqueue (hside.mpr hpool))

/-- What was counted for a queue of the places is the same at both stations. -/
theorem AgreeAt.countersFor (h : a.AgreeAt d slots b) (hisolated : d.registry.Isolated slots)
    {queue : QueueRef} (hqueue : queue ∈ d.registry.queuesAt slots) :
    a.lock.value.countersFor queue = b.lock.value.countersFor queue := by
  refine Registry.countersFor_congr
    (h.left.length_listeners.trans h.right.length_listeners.symm) ?_
  intro slot
  by_cases hmem : slot ∈ slots
  · rw [h.endpoints slot hmem]
  · -- A route at another place leads to another queue.
    have hnone {st : Station f} (hst : st.Keeps d) :
        (st.lock.value.registry.endpoint? slot).filter (·.route.queue = queue) = none := by
      rw [Option.filter_eq_none_iff]
      intro e he hleads
      have hroute : d.registry.route? slot = some e.route := by
        rw [← hst.route?, Registry.route?, he]
        rfl
      exact (hisolated slot e.route hmem hroute).2 (of_decide_eq_true hleads ▸ hqueue)
    rw [hnone h.left, hnone h.right]

end AgreeAt

end Station

namespace Session

/-- An errand is answered, and leaves the station, as it is carried out there. -/
theorem step_errand (s : Session f) (e : Errand) :
    (s.step e.op).1 = (s.station.carryOut e).1 ∧
      (s.step e.op).2.station = (s.station.carryOut e).2 := by
  cases e with
  | dispatch frame reported => exact ⟨rfl, rfl⟩
  | fetch queue pool =>
      simp only [Errand.op, step, Station.carryOut, Station.fetch]
      cases (s.station.receive queue).1 with
      | none => exact ⟨trivial, rfl⟩
      | some b => exact ⟨trivial, rfl⟩

theorem keeps_run {d : Dispatcher f} {s : Session f} (h : s.station.Keeps d)
    (errands : List Errand) : (s.run (errands.map Errand.op)).2.station.Keeps d := by
  induction errands generalizing s with
  | nil => exact h
  | cons e errands ih =>
      have hafter : (s.step e.op).2.station.Keeps d := (s.step_errand e).2 ▸ h.carryOut e
      exact ih hafter

/-- Errands come to the same for some places as those among them that are for these places. -/
theorem run_errands {d : Dispatcher f} {slots : List Slot} (hisolated : d.registry.Isolated slots)
    {s t : Session f} (h : s.station.AgreeAt d slots t.station) {errands : List Errand}
    (hsides : ∀ e ∈ errands, e.OnOneSide d.registry slots) :
    let whole := s.run (errands.map Errand.op)
    let part := t.run ((errands.filter (·.concerns d slots)).map Errand.op)
    (((errands.zip whole.1).filter (·.1.concerns d slots)).map (·.2) = part.1) ∧
      whole.2.station.AgreeAt d slots part.2.station := by
  induction errands generalizing s t with
  | nil => exact ⟨rfl, h⟩
  | cons e errands ih =>
      obtain ⟨hside, hrest⟩ := List.forall_mem_cons.mp hsides
      obtain ⟨hanswer, hafter⟩ := s.step_errand e
      by_cases hin : e.concerns d slots = true
      · obtain ⟨hanswer', hafter'⟩ := t.step_errand e
        obtain ⟨hsame, hagree⟩ := h.inside hin
        rw [← hafter, ← hafter'] at hagree
        rw [← hanswer, ← hanswer'] at hsame
        obtain ⟨hanswers, hend⟩ := ih hagree hrest
        simp only [List.filter_cons, hin, if_true, List.map_cons, run, List.zip_cons_cons]
        exact ⟨congrArg₂ List.cons hsame hanswers, hend⟩
      · have hagree := h.outside hisolated (Bool.eq_false_iff.mpr hin) hside
        rw [← hafter] at hagree
        obtain ⟨hanswers, hend⟩ := ih hagree hrest
        simp only [List.filter_cons, hin, Bool.false_eq_true, if_false, List.map_cons, run,
          List.zip_cons_cons]
        exact ⟨hanswers, hend⟩

/-- **Routes that share nothing do not disturb each other.**  Take some places of a dispatcher such that
no other route draws from their pools or leads to their queues.  In a run of frames, and of buffers that
a consumer takes from a queue and gives to a pool, either both of these places or both of others, leave
out everything that is for other places.  What remains gets the same answers, and in the end the same
was counted at these places and for their queues, and their pools and queues are the same.  All the
while every frame has the destination that it had at the start. -/
theorem routes_are_isolated (dispatcher : Dispatcher f) (pools : List Pool) (queues : List Queue)
    (before : List (Op f)) (slots : List Slot) (errands : List Errand) :
    let start := ((Session.new dispatcher pools queues).run before).2
    let d := start.station.lock.value
    d.registry.Isolated slots → (∀ e ∈ errands, e.OnOneSide d.registry slots) →
    let whole := start.run (errands.map Errand.op)
    let part := start.run ((errands.filter (·.concerns d slots)).map Errand.op)
    let after := whole.2.station
    let after' := part.2.station
    (((errands.zip whole.1).filter (·.1.concerns d slots)).map (·.2) = part.1) ∧
      (∀ slot ∈ slots, after.lock.value.registry.endpoint? slot =
        after'.lock.value.registry.endpoint? slot) ∧
      (∀ queue ∈ d.registry.queuesAt slots,
        after.lock.value.countersFor queue = after'.lock.value.countersFor queue ∧
          after.plane.queues[queue]? = after'.plane.queues[queue]?) ∧
      (∀ pool ∈ d.registry.poolsAt slots, after.plane.pools[pool]? = after'.plane.pools[pool]?) ∧
      ∀ n frame, (start.run ((errands.take n).map Errand.op)).2.station.lock.value.destination frame =
        d.destination frame := by
  intro start d hisolated hsides whole part after after'
  have hkeeps : start.station.Keeps d := ⟨rfl, free_run rfl before⟩
  obtain ⟨hanswers, hagree⟩ := run_errands hisolated (Station.agreeAt_self hkeeps) hsides
  refine ⟨hanswers, hagree.endpoints, ?_, hagree.plane.pools, ?_⟩
  · intro queue hqueue
    exact ⟨hagree.countersFor hisolated hqueue, hagree.plane.queues queue hqueue⟩
  · intro n frame
    exact (keeps_run hkeeps (errands.take n)).destination frame

/-- Two listeners with a pool and a queue each. -/
def neighbours : List (Op (.integer .unsigned 1)) :=
  [.act (.addRoute 7#8 ⟨some 0, some 0, false⟩), .act (.addRoute 8#8 ⟨some 1, some 1, false⟩)]

/-- Frames for both listeners and for nobody, and two buffers fetched. -/
def mixedErrands : List Errand :=
  [.dispatch [8, 1] 2, .dispatch [7, 5] 2, .dispatch [8, 2] 2, .fetch 1 1, .dispatch [9] 1, .fetch 0 0,
    .dispatch [7, 5, 5] 3]

/-- What is for the first listener. -/
def ownErrands : List Errand := [.dispatch [7, 5] 2, .fetch 0 0, .dispatch [7, 5, 5] 3]

/-- The first listener is served as if nothing had been done for anybody else. -/
theorem routes_are_isolated_from_neighbour :
    let start := ((Session.new (.new 2) [.fixed (.new 1 2), .fixed (.new 1 2)]
      [.bounded (.new 1), .bounded (.new 1)]).run neighbours).2
    let whole := start.run (mixedErrands.map Errand.op)
    let part := start.run (ownErrands.map Errand.op)
    (((mixedErrands.zip whole.1).filter (·.1 ∈ ownErrands)).map (·.2) = part.1) ∧
      whole.2.station.lock.value.countersFor 0 = part.2.station.lock.value.countersFor 0 ∧
      whole.2.station.plane.pools[0]? = part.2.station.plane.pools[0]? ∧
      whole.2.station.plane.queues[0]? = part.2.station.plane.queues[0]? := by
  intro start whole part
  have hisolated : start.station.lock.value.registry.Isolated [.listener 0] := by
    intro slot route hslot hroute
    rcases slot with (_ | _ | index) | _
    · exact absurd List.mem_cons_self hslot
    · have hsecond : some (⟨1, 1, false⟩ : Route) = some route := hroute
      cases hsecond
      decide
    · have hnone : none = some route := hroute
      cases hnone
    · have hnone : none = some route := hroute
      cases hnone
  have hconcerns : ∀ e ∈ mixedErrands,
      e.concerns start.station.lock.value [.listener 0] = decide (e ∈ ownErrands) := by
    decide
  have hown : mixedErrands.filter (·.concerns start.station.lock.value [.listener 0]) =
      ownErrands := by
    rw [List.filter_congr hconcerns]
    rfl
  obtain ⟨hanswers, -, hqueues, hpools, -⟩ :=
    routes_are_isolated (.new 2) [.fixed (.new 1 2), .fixed (.new 1 2)]
      [.bounded (.new 1), .bounded (.new 1)] neighbours [.listener 0] mixedErrands hisolated
      (by decide)
  rw [hown] at hanswers hqueues hpools
  rw [List.filter_congr fun x hx => hconcerns x.1 (List.of_mem_zip hx).1] at hanswers
  obtain ⟨hcounters, hqueue⟩ := hqueues 0 (by decide)
  unfold whole part start
  exact ⟨hanswers, hcounters, hpools 0 (by decide), hqueue⟩

end Session

end Demux
