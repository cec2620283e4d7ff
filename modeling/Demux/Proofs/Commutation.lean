import Mathlib
import Demux.Proofs.Isolation
import Demux.Proofs.Workers

/-!
# Frames that have nothing in common commute

Two frames are independent unless the routes that they go to share a pool or a queue.  It does not matter
which of two independent frames is dealt with first (`handle_comm`): neither changes what the other finds
in the pool and the queue of its route, and counting is commutative.

So in a list of frames a frame may be brought to the front, past others that it is independent of
(`play_to_front`), and two lists come to the same if one is the other in another order, but in the same
order for every pool and for every queue (`Dispatcher.Rearranged`).
-/

namespace Demux

variable {f : Format}

namespace Dispatcher

/-- The route that a frame goes to. -/
def target (d : Dispatcher f) (frame : Bytes) : Option Route := (d.destination frame).map (·.2)

/-- Two frames go to routes that share neither pool nor queue, or one of them goes nowhere. -/
def Independent (d : Dispatcher f) (x y : Frame) : Prop :=
  ∀ r ∈ d.target x.bytes, ∀ r' ∈ d.target y.bytes, r.pool ≠ r'.pool ∧ r.queue ≠ r'.queue

/-- A frame does not go to a route that has to do with one of these pools and queues. -/
def Avoids (d : Dispatcher f) (x : Frame) (pools : List PoolRef) (queues : List QueueRef) : Prop :=
  ∀ r ∈ d.target x.bytes, r.pool ∉ pools ∧ r.queue ∉ queues

/-- Whether a frame goes to a route that draws from a pool. -/
def draws (d : Dispatcher f) (pool : PoolRef) (x : Frame) : Bool :=
  (d.target x.bytes).any (·.pool = pool)

/-- Whether a frame goes to a route that leads to a queue. -/
def leads (d : Dispatcher f) (queue : QueueRef) (x : Frame) : Bool :=
  (d.target x.bytes).any (·.queue = queue)

/-- The same frames in another order, but in the same order for every pool and for every queue. -/
structure Rearranged (d : Dispatcher f) (xs ys : List Frame) : Prop where
  perm : xs.Perm ys
  pools : ∀ pool, xs.filter (d.draws pool) = ys.filter (d.draws pool)
  queues : ∀ queue, xs.filter (d.leads queue) = ys.filter (d.leads queue)

variable {d e : Dispatcher f} {x y : Frame}

theorem target_of_cleared (h : d.cleared = e.cleared) (frame : Bytes) :
    d.target frame = e.target frame := by
  rw [target, target, destination_of_cleared h]

theorem Independent.symm (h : d.Independent x y) : d.Independent y x :=
  fun r hr r' hr' => ⟨(h r' hr' r hr).1.symm, (h r' hr' r hr).2.symm⟩

theorem Independent.avoids (h : d.Independent x y) {r : Route} (hr : r ∈ d.target y.bytes) :
    d.Avoids x [r.pool] [r.queue] :=
  fun r' hr' => ⟨mt List.mem_singleton.mp (h r' hr' r hr).1, mt List.mem_singleton.mp (h r' hr' r hr).2⟩

theorem Avoids.congr {pools : List PoolRef} {queues : List QueueRef} (h : e.Avoids x pools queues)
    (hroutes : d.cleared = e.cleared) : d.Avoids x pools queues := by
  intro r hr
  rw [target_of_cleared hroutes] at hr
  exact h r hr

theorem Independent.congr (h : e.Independent x y) (hroutes : d.cleared = e.cleared) :
    d.Independent x y := by
  intro r hr r' hr'
  rw [target_of_cleared hroutes] at hr hr'
  exact h r hr r' hr'

end Dispatcher

namespace DataPlane

variable {pools : List PoolRef} {queues : List QueueRef} {p q w : DataPlane}

theorem AgreeOn.symm (h : p.AgreeOn pools queues q) : q.AgreeOn pools queues p :=
  ⟨fun i hi => (h.pools i hi).symm, fun i hi => (h.queues i hi).symm⟩

theorem AgreeOn.trans (h : p.AgreeOn pools queues q) (h' : q.AgreeOn pools queues w) :
    p.AgreeOn pools queues w :=
  ⟨fun i hi => (h.pools i hi).trans (h'.pools i hi), fun i hi => (h.queues i hi).trans (h'.queues i hi)⟩

end DataPlane

namespace Station

/-- What was done about a frame. -/
theorem deed_move (st : Station f) (x : Frame) :
    st.deed x.move =
      .dispatched x.bytes (st.lock.value.target x.bytes) (st.handle x.bytes x.reported).1 := by
  rw [Dispatcher.target, Dispatcher.destination_eq, Option.map_map]
  rfl

theorem cleared_move (st : Station f) (x : Frame) :
    (st.move x.move).lock.value.cleared = st.lock.value.cleared :=
  Dispatcher.cleared_handle _ st.lock.value x.bytes x.reported st.plane

/-- A frame is no matter of pools and queues that its route has nothing to do with. -/
theorem move_avoiding (st : Station f) {x : Frame} {pools : List PoolRef} {queues : List QueueRef}
    (h : st.lock.value.Avoids x pools queues) :
    (st.move x.move).plane.AgreeOn pools queues st.plane := by
  have hself : st.plane.AgreeOn pools queues st.plane := ⟨fun _ _ => rfl, fun _ _ => rfl⟩
  change (st.handle x.bytes x.reported).2.plane.AgreeOn pools queues st.plane
  rw [(plane_handle st x.bytes x.reported).2]
  refine DataPlane.AgreeOn.note_left ?_ _
  rcases hresolve : st.lock.value.resolve x.bytes with _ | ⟨slot, e⟩
  · rw [(Dispatcher.handle_of_unresolved hresolve _ x.reported st.plane).2.2]
    exact hself
  · rw [(Dispatcher.handle_of_resolved hresolve _ x.reported st.plane).2.2]
    have htarget : e.route ∈ st.lock.value.target x.bytes := by
      rw [Dispatcher.target, Dispatcher.destination_eq, hresolve]
      rfl
    obtain ⟨hpool, hqueue⟩ := h e.route htarget
    exact hself.offer_left hpool hqueue none x.bytes x.reported

/-- Two stations with the same routes deal alike with a frame if they agree on the pool and the queue of
its route. -/
theorem handle_agreeing {a b : Station f} (hroutes : a.lock.value.cleared = b.lock.value.cleared)
    {frame : Bytes}
    (hplane : ∀ r ∈ a.lock.value.target frame, a.plane.AgreeOn [r.pool] [r.queue] b.plane)
    (reported : ℕ) :
    (a.handle frame reported).1 = (b.handle frame reported).1 ∧
      ∀ r ∈ a.lock.value.target frame, (a.handle frame reported).2.plane.AgreeOn [r.pool] [r.queue]
        (b.handle frame reported).2.plane := by
  let R (p q : DataPlane) : Prop :=
    ∀ r ∈ a.lock.value.target frame, p.AgreeOn [r.pool] [r.queue] q
  have hoffer : ∀ slot r, a.lock.value.destination frame = some (slot, r) →
      (r.offer (DataPlane.collaborators none) frame reported a.plane).1 =
          (r.offer (DataPlane.collaborators none) frame reported b.plane).1 ∧
        R (r.offer (DataPlane.collaborators none) frame reported a.plane).2
          (r.offer (DataPlane.collaborators none) frame reported b.plane).2 := by
    intro slot r hdestination
    have htarget : a.lock.value.target frame = some r := by
      rw [Dispatcher.target, hdestination]
      rfl
    have hmatched := DataPlane.matched_of_mem (List.mem_singleton_self r.pool)
      (List.mem_singleton_self r.queue) none
    obtain ⟨hverdict, hafter⟩ := Route.offer_matched hmatched (Bytes.fillAlike_id frame) reported
      (hplane r htarget)
    refine ⟨hverdict, fun r' hr' => ?_⟩
    cases htarget.symm.trans hr'
    exact hafter
  obtain ⟨hreport, hafter⟩ := Dispatcher.handle_lockstep (R := R) hroutes rfl rfl reported hplane hoffer
  exact ⟨congrArg Report.outcome hreport, fun r hr => (hafter r hr).note _ _⟩

/-- Pools and queues that two frames have nothing to do with come to the same in either order. -/
theorem agree_elsewhere (st : Station f) {x y : Frame} {pools : List PoolRef}
    {queues : List QueueRef} (hx : st.lock.value.Avoids x pools queues)
    (hy : st.lock.value.Avoids y pools queues) :
    ((st.move x.move).move y.move).plane.AgreeOn pools queues
      ((st.move y.move).move x.move).plane := by
  have hxy := move_avoiding (st.move x.move) (hy.congr (st.cleared_move x))
  have hyx := move_avoiding (st.move y.move) (hx.congr (st.cleared_move y))
  exact (hxy.trans (st.move_avoiding hx)).trans (hyx.trans (st.move_avoiding hy)).symm

section Pair

variable (st : Station f) {x y : Frame} (h : st.lock.value.Independent x y)

include h

/-- A frame finds the same at its route after an independent frame as before it. -/
theorem handle_after :
    ((st.move x.move).handle y.bytes y.reported).1 = (st.handle y.bytes y.reported).1 ∧
      ∀ r ∈ st.lock.value.target y.bytes,
        ((st.move x.move).move y.move).plane.AgreeOn [r.pool] [r.queue] (st.move y.move).plane := by
  have htarget := Dispatcher.target_of_cleared (st.cleared_move x) y.bytes
  rw [← htarget]
  refine handle_agreeing (st.cleared_move x) (fun r hr => ?_) y.reported
  rw [htarget] at hr
  exact st.move_avoiding (h.avoids hr)

/-- At the pools and queues of their routes two independent frames come to the same in either order. -/
theorem agree_at_target {r : Route}
    (hr : r ∈ st.lock.value.target x.bytes ∨ r ∈ st.lock.value.target y.bytes) :
    ((st.move x.move).move y.move).plane.AgreeOn [r.pool] [r.queue]
      ((st.move y.move).move x.move).plane := by
  rcases hr with hx | hy
  · have hother : (st.move x.move).lock.value.Avoids y [r.pool] [r.queue] :=
      (h.symm.avoids hx).congr (st.cleared_move x)
    exact (move_avoiding _ hother).trans ((st.handle_after h.symm).2 r hx).symm
  · have hother : (st.move y.move).lock.value.Avoids x [r.pool] [r.queue] :=
      (h.avoids hy).congr (st.cleared_move y)
    exact ((st.handle_after h).2 r hy).trans (move_avoiding _ hother).symm

/-- Counting does not depend on the order either. -/
theorem lock_comm :
    ((st.move x.move).move y.move).lock = ((st.move y.move).move x.move).lock := by
  have hy := (st.handle_after h).1
  have hx := (st.handle_after h.symm).1
  have hvalue : ((st.move x.move).move y.move).lock.value =
      ((st.move y.move).move x.move).lock.value := by
    change ((st.move x.move).handle y.bytes y.reported).2.lock.value =
      ((st.move y.move).handle x.bytes x.reported).2.lock.value
    rw [dispatcher_handle, dispatcher_handle, hx, hy,
      Dispatcher.destination_of_cleared (st.cleared_move x),
      Dispatcher.destination_of_cleared (st.cleared_move y)]
    change (st.handle x.bytes x.reported).2.lock.value.counted _ _ =
      (st.handle y.bytes y.reported).2.lock.value.counted _ _
    rw [dispatcher_handle, dispatcher_handle, Dispatcher.counted_comm]
  -- Nobody else has the lock, so nobody waits for it in between.
  exact congrArg st.lock.take.leave hvalue

/-- It does not matter which of two independent frames is dealt with first. -/
theorem move_comm :
    ((st.move x.move).move y.move).Alike ((st.move y.move).move x.move) := by
  refine ⟨st.lock_comm h, List.ext_getElem? fun i => ?_, List.ext_getElem? fun i => ?_⟩
  · by_cases hused : ∃ r, (r ∈ st.lock.value.target x.bytes ∨ r ∈ st.lock.value.target y.bytes) ∧
        r.pool = i
    · obtain ⟨r, hr, rfl⟩ := hused
      exact (st.agree_at_target h hr).pools r.pool (List.mem_singleton_self _)
    · have hx : st.lock.value.Avoids x [i] [] := fun r hr =>
        ⟨fun hi => hused ⟨r, .inl hr, List.mem_singleton.mp hi⟩, List.not_mem_nil⟩
      have hy : st.lock.value.Avoids y [i] [] := fun r hr =>
        ⟨fun hi => hused ⟨r, .inr hr, List.mem_singleton.mp hi⟩, List.not_mem_nil⟩
      exact (st.agree_elsewhere hx hy).pools i (List.mem_singleton_self i)
  · by_cases hused : ∃ r, (r ∈ st.lock.value.target x.bytes ∨ r ∈ st.lock.value.target y.bytes) ∧
        r.queue = i
    · obtain ⟨r, hr, rfl⟩ := hused
      exact (st.agree_at_target h hr).queues r.queue (List.mem_singleton_self _)
    · have hx : st.lock.value.Avoids x [] [i] := fun r hr =>
        ⟨List.not_mem_nil, fun hi => hused ⟨r, .inl hr, List.mem_singleton.mp hi⟩⟩
      have hy : st.lock.value.Avoids y [] [i] := fun r hr =>
        ⟨List.not_mem_nil, fun hi => hused ⟨r, .inr hr, List.mem_singleton.mp hi⟩⟩
      exact (st.agree_elsewhere hx hy).queues i (List.mem_singleton_self i)

end Pair

/-- Stations that differ in the journal at most deal alike with all frames. -/
theorem deeds_alike {a b : Station f} (h : a.Alike b) (frames : List Frame) :
    a.deeds (frames.map Frame.move) = b.deeds (frames.map Frame.move) := by
  induction frames generalizing a b with
  | nil => rfl
  | cons x frames ih =>
      obtain ⟨houtcome, hafter⟩ := handle_alike h x.bytes x.reported
      refine congrArg₂ List.cons ?_ (ih hafter)
      rw [deed_move, deed_move, houtcome, h.lock]

/-- Two lists of frames come to the same: each frame in one to what it comes to in the other, and all of
them to the same station, but for the journal. -/
structure SameEnd (st : Station f) (xs ys : List Frame) : Prop where
  deeds : (st.deeds (xs.map Frame.move)).Perm (st.deeds (ys.map Frame.move))
  station : (st.play (xs.map Frame.move)).Alike (st.play (ys.map Frame.move))

theorem sameEnd_refl (st : Station f) (xs : List Frame) : st.SameEnd xs xs :=
  ⟨.refl _, alike_refl _⟩

theorem SameEnd.trans {st : Station f} {xs ys zs : List Frame} (h : st.SameEnd xs ys)
    (h' : st.SameEnd ys zs) : st.SameEnd xs zs :=
  ⟨h.deeds.trans h'.deeds, h.station.trans h'.station⟩

/-- What follows after the same first frame. -/
theorem SameEnd.cons {st : Station f} {x : Frame} {xs ys : List Frame}
    (h : (st.move x.move).SameEnd xs ys) : st.SameEnd (x :: xs) (x :: ys) :=
  ⟨h.deeds.cons (st.deed x.move), h.station⟩

/-- Two independent frames may change places at the front. -/
theorem sameEnd_swap (st : Station f) {x y : Frame} (h : st.lock.value.Independent x y)
    (rest : List Frame) : st.SameEnd (x :: y :: rest) (y :: x :: rest) := by
  have hdeeds := deeds_alike (st.move_comm h) rest
  refine ⟨?_, play_alike (st.move_comm h) rest⟩
  have hy : (st.move x.move).deed y.move = st.deed y.move := by
    rw [deed_move, deed_move, (st.handle_after h).1,
      Dispatcher.target_of_cleared (st.cleared_move x)]
  have hx : (st.move y.move).deed x.move = st.deed x.move := by
    rw [deed_move, deed_move, (st.handle_after h.symm).1,
      Dispatcher.target_of_cleared (st.cleared_move y)]
  simp only [List.map_cons, Station.deeds, hdeeds, hx, hy]
  exact .swap _ _ _

/-- A frame may go to the front past frames that it is independent of. -/
theorem sameEnd_to_front {d : Dispatcher f} {y : Frame} {front : List Frame}
    (hind : ∀ x ∈ front, d.Independent x y) (rest : List Frame) {st : Station f}
    (hroutes : st.lock.value.cleared = d.cleared) :
    st.SameEnd (front ++ y :: rest) (y :: (front ++ rest)) := by
  induction front generalizing st with
  | nil => exact st.sameEnd_refl _
  | cons x front ih =>
      obtain ⟨hx, hfront⟩ := List.forall_mem_cons.mp hind
      have hpast := ih hfront ((st.cleared_move x).trans hroutes)
      exact hpast.cons.trans (st.sameEnd_swap (hx.congr hroutes) (front ++ rest))

end Station

/-- If two lists have the same elements of a kind in the same order, and one begins with an element that
comes later in the other, then no element of this kind comes before it there. -/
theorem filter_to_front {α : Type} {P : α → Bool} {y : α} {front rest ys : List α}
    (h : (front ++ y :: rest).filter P = (y :: ys).filter P) (hlater : y ∉ front) :
    (P y = true → ∀ x ∈ front, P x = false) ∧ (front ++ rest).filter P = ys.filter P := by
  rw [List.filter_append] at h
  by_cases hy : P y = true
  · rw [List.filter_cons_of_pos hy, List.filter_cons_of_pos hy] at h
    have hfront : front.filter P = [] := by
      rcases hkind : front.filter P with _ | ⟨z, zs⟩
      · rfl
      · rw [hkind, List.cons_append] at h
        have hz : z ∈ front.filter P := hkind ▸ List.mem_cons_self
        rw [(List.cons.inj h).1] at hz
        exact absurd (List.mem_of_mem_filter hz) hlater
    rw [hfront, List.nil_append] at h
    refine ⟨fun _ x hx => Bool.eq_false_iff.mpr (List.filter_eq_nil_iff.mp hfront x hx), ?_⟩
    rw [List.filter_append, hfront]
    exact (List.cons.inj h).2
  · rw [List.filter_cons_of_neg hy, List.filter_cons_of_neg hy, ← List.filter_append] at h
    exact ⟨fun htrue => absurd htrue hy, h⟩

namespace Dispatcher

variable {d : Dispatcher f} {y : Frame} {front rest ys : List Frame}

/-- The first frame of one list is independent of all that come before it in the other. -/
theorem Rearranged.independent (h : d.Rearranged (front ++ y :: rest) (y :: ys))
    (hlater : y ∉ front) : ∀ x ∈ front, d.Independent x y := by
  intro x hx r hr r' hr'
  have hr : d.target x.bytes = some r := hr
  have hr' : d.target y.bytes = some r' := hr'
  constructor
  · intro hpool
    have hnone := (filter_to_front (h.pools r'.pool) hlater).1 (by simp [draws, hr']) x hx
    simp [draws, hr, hpool] at hnone
  · intro hqueue
    have hnone := (filter_to_front (h.queues r'.queue) hlater).1 (by simp [leads, hr']) x hx
    simp [leads, hr, hqueue] at hnone

/-- What is left without this frame is again the same in another order. -/
theorem Rearranged.tail (h : d.Rearranged (front ++ y :: rest) (y :: ys)) (hlater : y ∉ front) :
    d.Rearranged (front ++ rest) ys where
  perm := (List.perm_middle.symm.trans h.perm).cons_inv
  pools pool := (filter_to_front (h.pools pool) hlater).2
  queues queue := (filter_to_front (h.queues queue) hlater).2

end Dispatcher

namespace Station

theorem sameEnd_of_rearranged {d : Dispatcher f} {xs ys : List Frame} (h : d.Rearranged xs ys)
    {st : Station f} (hroutes : st.lock.value.cleared = d.cleared) : st.SameEnd xs ys := by
  induction ys generalizing xs st with
  | nil =>
      obtain rfl := h.perm.eq_nil
      exact st.sameEnd_refl []
  | cons y ys ih =>
      -- Where the first frame of the one list comes first in the other, it may go to the front.
      obtain ⟨front, rest, rfl, hlater⟩ :=
        List.eq_append_cons_of_mem (h.perm.mem_iff.mpr List.mem_cons_self)
      have hfront := sameEnd_to_front (h.independent hlater) rest hroutes
      have hrest := ih (h.tail hlater) ((st.cleared_move y).trans hroutes)
      exact hfront.trans hrest.cons

/-- **Frames that have nothing in common commute.**  In every state of a station, let two frames go to
routes that share neither pool nor queue, or at least one of them to no route.  Then each comes to the
same whichever is dealt with first, and in the end the dispatcher with all its counters, every pool and
every queue are the same, also where counters are full.  So if some frames are put into another order, in
which the frames for every pool and the frames for every queue keep theirs, then the same comes of all
frames, in that other order, and in the end everything but the order of the journal is the same. -/
theorem independent_frames_commute (st : Station f) :
    (∀ x y : Frame, st.lock.value.Independent x y →
      let first := st.handle x.bytes x.reported
      let second := first.2.handle y.bytes y.reported
      let first' := st.handle y.bytes y.reported
      let second' := first'.2.handle x.bytes x.reported
      first.1 = second'.1 ∧ second.1 = first'.1 ∧ second.2.Alike second'.2) ∧
    ∀ xs ys : List Frame, st.lock.value.Rearranged xs ys →
      (st.deeds (xs.map Frame.move)).Perm (st.deeds (ys.map Frame.move)) ∧
        (st.play (xs.map Frame.move)).Alike (st.play (ys.map Frame.move)) := by
  constructor
  · intro x y h
    exact ⟨(st.handle_after h.symm).1.symm, (st.handle_after h).1, st.move_comm h⟩
  · intro xs ys h
    have hsame := sameEnd_of_rearranged h rfl
    exact ⟨hsame.deeds, hsame.station⟩

/-- Two listeners with a pool and a queue each, and a dispatcher that can count one dropped frame more. -/
def nearLimit : Station (.integer .unsigned 1) :=
  let st : Station (.integer .unsigned 1) :=
    (Station.new (.new 2) [.fixed (.new 0 3), .fixed (.new 1 1)]
      [.bounded (.new 1), .bounded (.new 1)]).play
      [.act (.addRoute 7#8 ⟨some 0, some 0, false⟩), .act (.addRoute 8#8 ⟨some 1, some 1, false⟩)]
  let drops : DropCounters := { dropped := ⟨Tally.limit - 1, by decide⟩ }
  { st with lock.value.totals.drops := drops }

/-- A frame for one listener, two for the other, the first of them too long, and one for nobody. -/
theorem independent_frames_commute_at_limit :
    let xs : List Frame := [⟨[7], 1⟩, ⟨[8, 1], 2⟩, ⟨[9], 1⟩, ⟨[8], 1⟩]
    let ys : List Frame := [⟨[8, 1], 2⟩, ⟨[8], 1⟩, ⟨[9], 1⟩, ⟨[7], 1⟩]
    (nearLimit.play (xs.map Frame.move)).Alike (nearLimit.play (ys.map Frame.move)) ∧
      (nearLimit.play (ys.map Frame.move)).lock.value.totals.drops.dropped.val = Tally.limit ∧
      ((nearLimit.handle [7] 1).2.handle [8, 1] 2).2.Alike
        ((nearLimit.handle [8, 1] 2).2.handle [7] 1).2 := by
  intro xs ys
  have hseven : nearLimit.lock.value.target [7] = some ⟨0, 0, false⟩ := by decide +kernel
  have height : nearLimit.lock.value.target [8] = some ⟨1, 1, false⟩ := by decide +kernel
  have hlong : nearLimit.lock.value.target [8, 1] = some ⟨1, 1, false⟩ := by decide +kernel
  have hnobody : nearLimit.lock.value.target [9] = none := by decide +kernel
  have hind : nearLimit.lock.value.Independent ⟨[7], 1⟩ ⟨[8, 1], 2⟩ := by
    intro r hr r' hr'
    cases hseven.symm.trans hr
    cases hlong.symm.trans hr'
    decide
  have hrearranged : nearLimit.lock.value.Rearranged xs ys := by
    refine ⟨by decide, fun pool => ?_, fun queue => ?_⟩
    · rcases pool with _ | _ | pool <;>
        simp [xs, ys, Dispatcher.draws, hseven, height, hlong, hnobody]
    · rcases queue with _ | _ | queue <;>
        simp [xs, ys, Dispatcher.leads, hseven, height, hlong, hnobody]
  obtain ⟨hpairs, hlists⟩ := independent_frames_commute nearLimit
  exact ⟨(hlists xs ys hrearranged).2, by decide +kernel, (hpairs _ _ hind).2.2⟩

end Station

end Demux
