import Mathlib
import Demux.Proofs.Cleared
import Demux.Proofs.Planes
import Demux.Proofs.Wiped

/-!
# The payload is opaque

Two frames of one length with the same bytes where the identifier stands are twins
(`Frame.Twin`): nothing that is decided, counted or reported about one of them is different for the
other.  Sessions that deal with twins stay alike up to the bytes in their buffers (`Likeness.ofTwins`).
-/

namespace Demux

variable {f : Format}

/-- Frames of one length, said to have had one length on the link, with the same identifier field if
they reach so far. -/
structure Frame.Twin (f : Format) (offset : ℕ) (x y : Frame) : Prop where
  length : x.bytes.length = y.bytes.length
  reported : x.reported = y.reported
  field : f.field? x.bytes offset = f.field? y.bytes offset

/-- The same action, but for the frame that it is about. -/
inductive Action.Twin (offset : ℕ) : Action f → Action f → Prop
  | addRoute (id : f.Value) (draft : Draft) : Twin offset (.addRoute id draft) (.addRoute id draft)
  | setDefault (draft : Draft) : Twin offset (.setDefault draft) (.setDefault draft)
  | handle {x y : Frame} (h : x.Twin f offset y) :
      Twin offset (.handle x.bytes x.reported) (.handle y.bytes y.reported)
  | resetCounters : Twin offset .resetCounters .resetCounters

/-- Every action is a twin of itself. -/
theorem Action.twin_self (offset : ℕ) (x : Action f) : x.Twin offset x := by
  cases x with
  | addRoute id draft => exact .addRoute id draft
  | setDefault draft => exact .setDefault draft
  | handle frame reported =>
      exact .handle (x := ⟨frame, reported⟩) (y := ⟨frame, reported⟩) ⟨rfl, rfl, rfl⟩
  | resetCounters => exact .resetCounters

namespace Dispatcher

/-- A dispatcher deals with twins alike: it comes to the same report and the same counters, and the
pools and queues are the same up to the bytes in their buffers. -/
theorem handle_twins (d : Dispatcher f) {x y : Frame} (h : x.Twin f d.offset y) {p q : DataPlane}
    (hpq : p.wiped = q.wiped) (view : Option Stats) :
    let a := d.handle (DataPlane.collaborators view) x.bytes x.reported p
    let b := d.handle (DataPlane.collaborators view) y.bytes y.reported q
    a.1 = b.1 ∧ a.2.1 = b.2.1 ∧ a.2.2.wiped = b.2.2.wiped := by
  rcases x with ⟨frame, reported⟩
  rcases y with ⟨frame', reported'⟩
  obtain ⟨hlength, rfl, hfield⟩ := h
  intro a b
  have hid : f.readAt frame d.offset = f.readAt frame' d.offset :=
    congrArg (Option.map f.decode) hfield
  have halike : DataPlane.upToBytes.planes p q := hpq
  exact d.handle_matched hid hlength reported halike fun r =>
    Route.offer_matched (DataPlane.upToBytes.matched r view) (Buffer.fillAlike_wiped hlength) reported
      halike

end Dispatcher

/-- Dispatchers that read the identifier at an offset, and twins of the actions that are asked of
them. -/
def Likeness.ofTwins (f : Format) (offset : ℕ) : Likeness f where
  toPlaneLikeness := DataPlane.upToBytes
  dispatchers d e := d = e ∧ d.offset = offset
  actions := Action.Twin offset
  perform := by
    intro d e x y p q hde hxy hpq
    obtain ⟨rfl, rfl⟩ := hde
    cases hxy with
    | handle h =>
        obtain ⟨hreport, hafter, hplanes⟩ := d.handle_twins h hpq none
        refine ⟨congrArg (fun r => Except.ok (DispatchEvent.frame r)) hreport, ⟨hafter, ?_⟩, hplanes⟩
        exact Dispatcher.offset_congr (Dispatcher.cleared_handle _ _ _ _ _)
    | _ => exact DataPlane.upToBytes.perform_alone d _ (by nofun) hpq _

/-- Answers that look the same are buffers that look the same, if one of them is a buffer. -/
theorem Answer.buffer_of_seen {look : Buffer → Buffer} {answer : Answer} {x : Buffer}
    (h : (Answer.buffer (some x)).seen look = answer.seen look) :
    ∃ y, answer = .buffer (some y) ∧ look x = look y := by
  cases answer with
  | buffer b =>
      cases b with
      | none => cases h
      | some y => exact ⟨y, rfl, Option.some.inj (Answer.buffer.inj h)⟩
  | _ => cases h

namespace Session

/-- **The payload is opaque.**  Take two sessions with one new dispatcher and the same pools and queues,
of any kinds and in any state, in which the same is done except that frames may be twins: of one length
and one reported length, with the same bytes where the identifier stands, and with any other bytes.
After every number of operations they have given the same answers, but for the bytes in buffers: the
same outcomes, counters, statistics and results, and buffers of the same size and length.  They have
counted the same and reported the same, and they have the same numbers of free blocks and of buffers
waiting; indeed pools and queues are the same once their bytes are wiped out. -/
theorem payload_is_opaque (dispatcher : Dispatcher f) (pools : List Pool) (queues : List Queue)
    (ops ops' : List (Op f))
    (htwins : List.Forall₂ (Op.Alike (Action.Twin dispatcher.offset)) ops ops') (n : ℕ) :
    let start := Session.new dispatcher pools queues
    let a := start.run (ops.take n)
    let b := start.run (ops'.take n)
    a.1.map (·.seen Buffer.wiped) = b.1.map (·.seen Buffer.wiped) ∧
      (∀ (i : ℕ) (x : Buffer), a.1[i]? = some (Answer.buffer (some x)) →
        ∃ y, b.1[i]? = some (Answer.buffer (some y)) ∧ x.capacity = y.capacity ∧ x.len = y.len) ∧
      a.2.station.lock.value = b.2.station.lock.value ∧
      a.2.station.plane.events = b.2.station.plane.events ∧
      a.2.station.plane.freeBlocks = b.2.station.plane.freeBlocks ∧
      a.2.station.plane.queueSizes = b.2.station.plane.queueSizes ∧
      a.2.station.plane.wiped = b.2.station.plane.wiped := by
  intro start a b
  have hstart : (Likeness.ofTwins f dispatcher.offset).Sessions start start :=
    Likeness.sessions_new (L := .ofTwins f dispatcher.offset) ⟨rfl, rfl⟩ (fun _ => rfl) pools queues
  obtain ⟨hanswers, hsessions⟩ := hstart.run (List.forall₂_take n htwins)
    fun _ _ _ _ _ h => h.1
  have hplanes : a.2.station.plane.wiped = b.2.station.plane.wiped := hsessions.station.planes
  refine ⟨hanswers, ?_, hsessions.station.dispatchers.1, ?_, ?_, ?_, hplanes⟩
  · intro i x hx
    have hat := congrArg (·[i]?) hanswers
    simp only [List.getElem?_map] at hat
    rw [show (start.run (ops.take n)).1[i]? = _ from hx] at hat
    obtain ⟨answer, hanswer, hseen⟩ := Option.map_eq_some_iff.mp hat.symm
    obtain ⟨y, rfl, hlook⟩ := Answer.buffer_of_seen hseen.symm
    exact ⟨y, hanswer, Buffer.wiped_eq_iff.mp hlook⟩
  · have hevents : a.2.station.plane.wiped.events = b.2.station.plane.wiped.events :=
      congrArg DataPlane.events hplanes
    exact hevents
  · rw [← DataPlane.freeBlocks_wiped, hplanes, DataPlane.freeBlocks_wiped]
  · rw [← DataPlane.queueSizes_wiped, hplanes, DataPlane.queueSizes_wiped]

/-- A listener whose pool has one block and whose queue has room for one buffer, and two frames. -/
def payloads (first second : Frame) : List (Op (.integer .unsigned 1)) :=
  [.act (.addRoute 7#8 ⟨some 0, some 0, false⟩),
    .act (.handle first.bytes first.reported), .receive 0 (.release 0),
    .act (.handle second.bytes second.reported), .receive 0 (.keep "kept"), .stats]

/-- Nobody can tell from sizes, outcomes or reports what stood behind the identifier. -/
theorem payload_is_opaque_behind_identifier :
    let start : Session (.integer .unsigned 1) :=
      .new (.new 1) [.fixed (.new 1 3)] [.bounded (.new 1)]
    let a := start.run ((payloads ⟨[7, 1, 2], 3⟩ ⟨[7, 3], 2⟩).take 6)
    let b := start.run ((payloads ⟨[7, 8, 9], 3⟩ ⟨[7, 6], 2⟩).take 6)
    a.1.map (·.seen Buffer.wiped) = b.1.map (·.seen Buffer.wiped) ∧
      a.2.station.lock.value = b.2.station.lock.value ∧
      a.2.station.plane.events = b.2.station.plane.events := by
  intro start a b
  have hsame (op : Op (.integer .unsigned 1)) : Op.Alike (Action.Twin 0) op op :=
    Op.alike_self (Action.twin_self 0) op
  have hfirst : Frame.Twin (.integer .unsigned 1) 0 ⟨[7, 1, 2], 3⟩ ⟨[7, 8, 9], 3⟩ :=
    ⟨rfl, rfl, rfl⟩
  have hsecond : Frame.Twin (.integer .unsigned 1) 0 ⟨[7, 3], 2⟩ ⟨[7, 6], 2⟩ := ⟨rfl, rfl, rfl⟩
  have htwins : List.Forall₂ (Op.Alike (Action.Twin 0))
      (payloads ⟨[7, 1, 2], 3⟩ ⟨[7, 3], 2⟩) (payloads ⟨[7, 8, 9], 3⟩ ⟨[7, 6], 2⟩) :=
    .cons (hsame _) (.cons (.act (.handle hfirst)) (.cons (hsame _)
      (.cons (.act (.handle hsecond)) (.cons (hsame _) (.cons (hsame _) .nil)))))
  obtain ⟨hanswers, -, hdispatchers, hevents, -⟩ :=
    payload_is_opaque (.new 1) [.fixed (.new 1 3)] [.bounded (.new 1)] _ _ htwins 6
  unfold a b start
  exact ⟨hanswers, hdispatchers, hevents⟩

end Session

end Demux
