import Mathlib
import Demux.Proofs.Histories
import Demux.Proofs.Waiting
import Demux.Proofs.Workers

/-!
# Ledgers of buffers

A ledger follows the buffers of a session from the blocks that they are made of, from hand to hand and
through the queues, and writes down their histories (`Ledger.enter`).  It looks at the answers of the
session and at the blocks that pools hand out, but not into buffers.  Still it describes the session at
all times (`Ledger.Describes`): in a hand or in a queue, every buffer is what its history tells.
-/

namespace Demux

variable {f : Format}

/-- What is related place by place still is after related changes at one place. -/
theorem rel_update {ι α β : Type} [DecidableEq ι] {R : α → β → Prop} {g : ι → α} {g' : ι → β}
    (h : ∀ i, R (g i) (g' i)) {i : ι} {a : α} {b : β} (hab : R a b) (j : ι) :
    R (Function.update g i a j) (Function.update g' i b j) := by
  by_cases hj : j = i
  · rw [hj, Function.update_self, Function.update_self]
    exact hab
  · rw [Function.update_of_ne hj, Function.update_of_ne hj]
    exact h j

namespace Shelf

variable {α : Type} (s : Shelf α) (name : String)

/-- What is kept under other names stays when something is removed. -/
theorem find?_remove : (s.remove name).find? = Function.update s.find? name none := by
  funext other
  by_cases hother : other = name
  · rw [hother, Function.update_self]
    simp [remove, find?]
  · rw [Function.update_of_ne hother, find?, remove, List.find?_filter]
    congr 2
    funext entry
    grind

/-- What is kept under other names stays when something is put on a shelf. -/
theorem find?_put_eq (a : α) : (s.put name a).find? = Function.update s.find? name (some a) := by
  funext other
  by_cases hother : other = name
  · rw [hother, Function.update_self, find?_put]
  · have hrest := congrFun (s.find?_remove name) other
    rw [Function.update_of_ne hother] at hrest ⊢
    rw [put, find?, List.find?_cons_of_neg (by simpa using Ne.symm hother)]
    exact hrest

end Shelf

/-- The histories of the buffers in a session: of those that are held under names, and of those that wait
in queues, the oldest first. -/
structure Ledger where
  held : String → Option History := fun _ => none
  waiting : QueueRef → List History := fun _ => []

namespace Ledger

open Station (Move)

/-- A buffer is held under a name, in place of another. -/
def keep (l : Ledger) (name : String) (h : History) : Ledger :=
  { l with held := Function.update l.held name (some h) }

/-- Nothing is held under a name any more. -/
def lose (l : Ledger) (name : String) : Ledger :=
  { l with held := Function.update l.held name none }

/-- A buffer goes into a queue. -/
def join (l : Ledger) (queue : QueueRef) (h : History) : Ledger :=
  { l with waiting := Function.update l.waiting queue (l.waiting queue ++ [h]) }

/-- The oldest buffer leaves a queue. -/
def leave (l : Ledger) (queue : QueueRef) : Ledger :=
  { l with waiting := Function.update l.waiting queue (l.waiting queue).tail }

/-- Write something down about a buffer that is held. -/
def withHeld (l : Ledger) (name : String) (entry : History → Ledger) : Ledger :=
  match l.held name with
  | none => l
  | some h => entry h

/-- Write down which buffers the dispatcher makes of blocks, fills with frames and sends to queues. -/
def follow (l : Ledger) (st : Station f) : List (Move f) → Ledger
  | [] => l
  | .act (.handle frame reported) :: moves =>
      let l := match st.delivery? frame reported with
        | some (queue, block) => l.join queue ⟨block, [.fill frame]⟩
        | none => l
      l.follow (st.handle frame reported).2 moves
  | m :: moves => l.follow (st.move m) moves

/-- Write down what becomes of buffers in an operation. -/
def enter (l : Ledger) (s : Session f) (op : Op f) : Ledger :=
  match op, (s.step op).1 with
  | .block data name, _ => l.keep name ⟨data, []⟩
  | .acquire _ _ (some name), .acquired (.ok b) => l.keep name ⟨b.block, []⟩
  | .fill name bytes, _ => l.withHeld name fun h => l.keep name (h.snoc (.fill bytes))
  | .clear name, _ => l.withHeld name fun h => l.keep name (h.snoc .clear)
  | .send name queue, .sent none => l.withHeld name fun h => (l.lose name).join queue h
  | .release name _, _ | .intoBlock name, _ => l.withHeld name fun _ => l.lose name
  | .receive queue disposal, _ =>
      match l.waiting queue, disposal with
      | [], _ => l
      | h :: _, .keep name => (l.leave queue).keep name h
      | _ :: _, _ => l.leave queue
  | .act _, _ | .poll _, _ | .run _ _, _ => l.follow s.station (s.moves op)
  | _, _ => l

/-- A ledger has the history of every buffer on a shelf, and of no other. -/
def Holds (l : Ledger) (shelf : Shelf Buffer) : Prop :=
  ∀ name, Option.Rel History.Tells (l.held name) (shelf.find? name)

/-- A ledger has the histories of all buffers in queues, in order. -/
def Queues (l : Ledger) (p : DataPlane) : Prop :=
  ∀ queue, List.Forall₂ History.Tells (l.waiting queue) (p.waiting queue)

/-- A ledger has the history of every buffer in a session, and of no other. -/
structure Describes (l : Ledger) (s : Session f) : Prop where
  held : l.Holds s.held
  waiting : l.Queues s.station.plane

variable {l : Ledger}

section Holds

variable {shelf : Shelf Buffer} (hholds : l.Holds shelf) {h : History} {b : Buffer}
  {name : String}

include hholds

theorem Holds.keep (ht : h.Tells b) (name : String) :
    (l.keep name h).Holds (shelf.put name b) := by
  unfold Holds
  rw [shelf.find?_put_eq name b]
  exact rel_update hholds (.some ht)

/-- A buffer that stays goes on with its history. -/
theorem Holds.retell (ht : h.Tells b) (hheld : shelf.find? name = some b) :
    (l.keep name h).Holds shelf := by
  have hsame : shelf.find? = Function.update shelf.find? name (some b) := by
    rw [← hheld, Function.update_eq_self]
  unfold Holds
  rw [hsame]
  exact rel_update hholds (.some ht)

theorem Holds.lose (name : String) : (l.lose name).Holds (shelf.remove name) := by
  unfold Holds
  rw [shelf.find?_remove name]
  exact rel_update hholds .none

/-- A buffer has its history in the ledger, and where no buffer is held there is none. -/
theorem Holds.history (name : String) :
    shelf.find? name = none ∧ l.held name = none ∨
      ∃ b h, shelf.find? name = some b ∧ l.held name = some h ∧ h.Tells b := by
  have hrel := hholds name
  generalize l.held name = history at hrel ⊢
  generalize shelf.find? name = found at hrel ⊢
  cases hrel with
  | none => exact .inl ⟨rfl, rfl⟩
  | some ht => exact .inr ⟨_, _, rfl, rfl, ht⟩

end Holds

section Queues

variable {p w : DataPlane} (hqueues : l.Queues p) {queue : QueueRef}

include hqueues

theorem Queues.congr (hsame : w.waiting = p.waiting) : l.Queues w := by
  unfold Queues
  rw [hsame]
  exact hqueues

theorem Queues.join {h : History} {b : Buffer} (ht : h.Tells b)
    (hafter : w.waiting = Function.update p.waiting queue (p.waiting queue ++ [b])) :
    (l.join queue h).Queues w := by
  unfold Queues
  rw [hafter]
  exact rel_update hqueues (List.rel_append (hqueues queue) (.cons ht .nil))

theorem Queues.leave
    (hafter : w.waiting = Function.update p.waiting queue (p.waiting queue).tail) :
    (l.leave queue).Queues w := by
  have htail {histories : List History} {buffers : List Buffer}
      (hall : List.Forall₂ History.Tells histories buffers) :
      List.Forall₂ History.Tells histories.tail buffers.tail := by
    cases hall with
    | nil => exact .nil
    | cons ht hrest => exact hrest
  unfold Queues
  rw [hafter]
  exact rel_update hqueues (htail (hqueues queue))

end Queues

/-- Whatever a dispatcher and its workers do, the buffers in hand stay where they are. -/
theorem held_follow (l : Ledger) (st : Station f) (moves : List (Move f)) :
    (l.follow st moves).held = l.held := by
  induction moves generalizing l st with
  | nil => rfl
  | cons m moves ih =>
      cases m with
      | act action =>
          cases action with
          | handle frame reported =>
              rw [follow, ih]
              split <;> rfl
          | _ => exact ih l _
      | _ => exact ih l _

/-- The ledger has the histories of the buffers that a dispatcher sends to queues. -/
theorem Queues.follow {st : Station f} (hqueues : l.Queues st.plane) {moves : List (Move f)}
    (hmoves : ∀ m ∈ moves, m.isExchange = false) :
    (l.follow st moves).Queues (st.play moves).plane := by
  induction moves generalizing l st with
  | nil => exact hqueues
  | cons m moves ih =>
      obtain ⟨hm, hrest⟩ := List.forall_mem_cons.mp hmoves
      have hother (hframe : ∀ frame reported, m ≠ .act (.handle frame reported)) :
          (l.follow (st.move m) moves).Queues ((st.move m).play moves).plane :=
        ih (hqueues.congr (st.waiting_move hm hframe)) hrest
      cases m with
      | act action =>
          cases action with
          | handle frame reported =>
              change (Ledger.follow _ (st.handle frame reported).2 moves).Queues
                ((st.handle frame reported).2.play moves).plane
              refine ih ?_ hrest
              rcases st.waiting_handle frame reported with
                ⟨queue, block, filled, hdelivery, hfill, hafter⟩ | ⟨hdelivery, hafter⟩
              · simp only [hdelivery]
                exact hqueues.join ((History.tells_ofBlock block).fill hfill) hafter
              · simp only [hdelivery]
                exact hqueues.congr hafter
          | _ => exact hother fun _ _ h => by cases h
      | _ => exact hother fun _ _ h => by cases h

/-- A new session has no buffers in hand, and none in its queues if these are empty. -/
theorem describes_new (dispatcher : Dispatcher f) (pools : List Pool) {queues : List Queue}
    (hempty : ∀ queue ∈ queues, queue.waiting = []) :
    Describes {} (Session.new dispatcher pools queues) where
  held _ := .none
  waiting queue := by
    have hnone : (Session.new dispatcher pools queues).station.plane.waiting queue = [] := by
      change queues[queue]?.elim [] Queue.waiting = []
      cases hqueue : queues[queue]? with
      | none => rfl
      | some q => exact hempty q (List.mem_of_getElem? hqueue)
    rw [hnone]
    exact .nil

section Step

variable {s : Session f} (h : l.Describes s)

include h

/-- What a dispatcher and its workers do is written down. -/
theorem Describes.follow {op : Op f} (hmoves : ∀ m ∈ s.moves op, m.isExchange = false)
    (hheld : (s.step op).2.held = s.held) :
    (l.follow s.station (s.moves op)).Describes (s.step op).2 where
  held := by
    unfold Holds
    rw [held_follow, hheld]
    exact h.held
  waiting := by
    rw [Session.station_step]
    exact h.waiting.follow hmoves

/-- What is done with a buffer that is held is written down. -/
theorem Describes.withHeld {name : String} {body : Buffer → Answer × Session f}
    {entry : History → Ledger}
    (hbody : ∀ b history, s.held.find? name = some b → l.held name = some history →
      history.Tells b → (entry history).Describes (body b).2) :
    (l.withHeld name entry).Describes (s.withHeld name body).2 := by
  rcases h.held.history name with ⟨hheld, hhistory⟩ | ⟨b, history, hheld, hhistory, ht⟩
  · simp only [Ledger.withHeld, Session.withHeld, hheld, hhistory]
    exact h
  · simp only [Ledger.withHeld, Session.withHeld, hheld, hhistory]
    exact hbody b history hheld hhistory ht

/-- A buffer that is received has left its queue, and its history with it. -/
theorem Describes.receive (queue : QueueRef) (disposal : Disposal) :
    (l.enter s (.receive queue disposal)).Describes (s.step (.receive queue disposal)).2 := by
  obtain ⟨hresult, hafter⟩ := DataPlane.waiting_receive queue s.station.plane
  have hleft := h.waiting.leave hafter
  have hall := h.waiting queue
  rcases hreceive : s.station.plane.receive queue with ⟨result, w⟩
  rw [hreceive] at hresult hafter hleft
  generalize hbuffers : s.station.plane.waiting queue = buffers at hall hresult hafter
  generalize hhistories : l.waiting queue = histories at hall
  subst hresult
  simp only [enter, Session.step, Station.receive, hreceive, hhistories]
  cases hall with
  | nil =>
      -- Nothing was waiting, and nothing is.
      have hsame : w.waiting = s.station.plane.waiting := by
        rw [hafter, List.tail_nil, ← hbuffers, Function.update_eq_self]
      exact ⟨h.held, h.waiting.congr hsame⟩
  | @cons history b _ _ ht _ =>
      cases disposal with
      | release pool =>
          have hqueues := DataPlane.queues_release s.station.view pool b w
          exact ⟨h.held, hleft.congr (DataPlane.waiting_congr hqueues)⟩
      | keep name => exact ⟨h.held.keep ht name, hleft⟩
      | drop => exact ⟨h.held, hleft⟩

/-- A buffer that is acquired is made of the block that the pool hands out. -/
theorem Describes.acquire (pool : PoolRef) (len : ℕ) (name : Option String) :
    (l.enter s (.acquire pool len name)).Describes (s.step (.acquire pool len name)).2 := by
  rcases hacquire : s.station.plane.acquire s.station.view pool len with ⟨result, w⟩
  have hqueues : w.queues = s.station.plane.queues := by
    have hsame := DataPlane.queues_acquire s.station.view pool len s.station.plane
    rwa [hacquire] at hsame
  have hwaiting : l.Queues w := h.waiting.congr (DataPlane.waiting_congr hqueues)
  simp only [enter, Session.step, Station.acquire, hacquire]
  cases result with
  | error e => cases name <;> exact ⟨h.held, hwaiting⟩
  | ok b =>
      cases name with
      | none => exact ⟨h.held, hwaiting⟩
      | some name =>
          have ht : (⟨b.block, []⟩ : History).Tells b := by
            rw [DataPlane.ofBlock_of_acquire hacquire]
            exact History.tells_ofBlock _
          exact ⟨h.held.keep ht name, hwaiting⟩

/-- A buffer that is sent takes its history into the queue, unless it is refused. -/
theorem Describes.send (name : String) (queue : QueueRef) :
    (l.enter s (.send name queue)).Describes (s.step (.send name queue)).2 := by
  rcases h.held.history name with ⟨hheld, -⟩ | ⟨b, history, hheld, hhistory, ht⟩
  · simp only [enter, Session.step, Session.withHeld, hheld]
    exact h
  · have hsent := DataPlane.waiting_send queue b s.station.plane
    rcases hsend : s.station.plane.send queue b with ⟨result, w⟩
    rw [hsend] at hsent
    rcases hsent with ⟨rfl, hafter⟩ | ⟨rfl, hafter⟩
    · simp only [enter, Session.step, Session.withHeld, hheld, Station.send, hsend,
        Ledger.withHeld, hhistory]
      exact ⟨h.held.lose name, h.waiting.join ht hafter⟩
    · simp only [enter, Session.step, Session.withHeld, hheld, Station.send, hsend]
      have hsame : l.keep name history = l := by
        rw [Ledger.keep, ← hhistory, Function.update_eq_self]
      exact ⟨hsame ▸ h.held.keep ht name, h.waiting.congr hafter⟩

/-- Whatever is done in a session, the ledger describes what comes of it. -/
theorem Describes.step (op : Op f) : (l.enter s op).Describes (s.step op).2 := by
  have hworker {m : Move f} (hm : m.OfWorker) : m.isExchange = false := by
    cases hm <;> rfl
  cases op with
  | act action => exact h.follow (by simp [Session.moves, Move.isExchange]) rfl
  | countersFor queue => exact ⟨h.held, h.waiting⟩
  | stats => exact ⟨h.held, h.waiting⟩
  | tryStats => exact h
  | receive queue disposal => exact h.receive queue disposal
  | acquire pool len name => exact h.acquire pool len name
  | block data name => exact ⟨h.held.keep (History.tells_ofBlock data) name, h.waiting⟩
  | fill name bytes =>
      refine h.withHeld fun b history hheld _ ht => ?_
      cases hfill : b.fill bytes with
      | error e => exact ⟨h.held.retell (ht.fill_error hfill) hheld, h.waiting⟩
      | ok filled => exact ⟨h.held.keep (ht.fill hfill) name, h.waiting⟩
  | clear name =>
      refine h.withHeld fun b history _ _ ht => ?_
      exact ⟨h.held.keep ht.clear name, h.waiting⟩
  | send name queue => exact h.send name queue
  | release name pool =>
      refine h.withHeld fun b _ _ _ _ => ?_
      have hqueues := DataPlane.queues_release s.station.view pool b s.station.plane
      exact ⟨h.held.lose name, h.waiting.congr (DataPlane.waiting_congr hqueues)⟩
  | intoBlock name =>
      refine h.withHeld fun _ _ _ _ _ => ?_
      exact ⟨h.held.lose name, h.waiting⟩
  | employ name worker => exact ⟨h.held, h.waiting⟩
  | poll name =>
      refine h.follow (fun m hm => hworker (s.ofWorker_poll name m hm)) ?_
      simp only [Session.step, Session.withWorker]
      split <;> rfl
  | run name stopped =>
      refine h.follow (fun m hm => hworker (s.ofWorker_run name stopped m hm)) ?_
      simp only [Session.step, Session.withWorker]
      split <;> rfl

end Step

end Ledger

namespace Session

/-- The histories of the buffers in a session after some operations. -/
def ledger (s : Session f) (l : Ledger) : List (Op f) → Ledger
  | [] => l
  | op :: ops => (s.step op).2.ledger (l.enter s op) ops

theorem ledger_describes {s : Session f} {l : Ledger} (h : l.Describes s) (ops : List (Op f)) :
    (s.ledger l ops).Describes (s.run ops).2 := by
  induction ops generalizing s l with
  | nil => exact h
  | cons op ops ih => exact ih (h.step op)

section Held

variable {s : Session f} {name : String} {b : Buffer} (hheld : s.held.find? name = some b)

include hheld

/-- Bytes that fit are written over the start of a block, and others are refused without any effect. -/
theorem step_fill (bytes : Bytes) :
    if bytes.length ≤ b.capacity then
      ∃ filled, s.step (.fill name bytes) = (.filled none filled, s.keep (some name) filled) ∧
        filled.contents = bytes ∧ filled.block = bytes ++ b.block.drop bytes.length
    else
      s.step (.fill name bytes) = (.filled (some (.tooLarge bytes.length b.capacity)) b, s) := by
  by_cases hfits : bytes.length ≤ b.capacity
  · rw [if_pos hfits]
    cases hfill : b.fill bytes with
    | error e =>
        obtain ⟨hlong, -⟩ := Buffer.fill_error hfill
        omega
    | ok filled =>
        obtain ⟨-, hcontents, -⟩ := Buffer.fill_ok hfill
        have hblock := (Buffer.block_of_fill hfill).trans (Bytes.overlay_of_le hfits)
        refine ⟨filled, ?_, hcontents, hblock⟩
        simp only [step, withHeld, hheld, hfill]
  · rw [if_neg hfits]
    have hfill : b.fill bytes = .error (.tooLarge bytes.length b.capacity) := dif_neg hfits
    simp only [step, withHeld, hheld, hfill]

/-- A buffer that is sent stands last in the queue, or it is handed back as it is. -/
theorem step_send (queue : QueueRef) :
    let after := (s.step (.send name queue)).2
    (s.step (.send name queue)).1 = .sent none ∧ after.held.find? name = none ∧
        after.station.plane.waiting queue = s.station.plane.waiting queue ++ [b] ∨
      (s.step (.send name queue)).1 = .sent (some b) ∧ after.held.find? name = some b ∧
        after.station.plane.waiting queue = s.station.plane.waiting queue := by
  intro after
  have hsent := DataPlane.waiting_send queue b s.station.plane
  rcases hsend : s.station.plane.send queue b with ⟨result, w⟩
  rw [hsend] at hsent
  simp only [after]
  rcases hsent with ⟨rfl, hafter⟩ | ⟨rfl, hafter⟩
  · simp only [step, withHeld, hheld, Station.send, hsend]
    refine .inl ⟨trivial, ?_, ?_⟩
    · rw [Shelf.find?_remove, Function.update_self]
    · exact (congrFun hafter queue).trans (Function.update_self ..)
  · simp only [step, withHeld, hheld, Station.send, hsend]
    exact .inr ⟨trivial, Shelf.find?_put _ _ _, congrFun hafter queue⟩

end Held

/-- **Buffers are what happened to them.**  In every state of a session a ledger that has followed every
buffer from the block that it was made of, from hand to hand and through the queues, describes all buffers
byte for byte: each has the size of its block, with the bytes in use within it; the bytes in use are those
of the latest fill that fitted, unless they were cleared since; and every byte of the block is the latest
that was written there.  A fill succeeds exactly if the bytes fit, and leaves the rest of the block; a
fill that fails changes nothing.  Clearing and queues leave every byte, a queue that refuses a buffer
hands the same one back, and a buffer that is taken apart gives its block. -/
theorem buffers_are_what_happened_to_them (dispatcher : Dispatcher f) (pools : List Pool)
    {queues : List Queue} (hempty : ∀ queue ∈ queues, queue.waiting = []) (ops : List (Op f)) :
    let start : Session f := .new dispatcher pools queues
    let s := (start.run ops).2
    let ledger := start.ledger {} ops
    ledger.Describes s ∧
      (∀ queue disposal, (s.step (.receive queue disposal)).1 =
        .buffer (s.station.plane.waiting queue).head?) ∧
      (∀ pool len keep b, (s.step (.acquire pool len keep)).1 = .acquired (.ok b) →
        b = .ofBlock b.block) ∧
      ∀ name b, s.held.find? name = some b → ∃ h, ledger.held name = some h ∧ h.Tells b ∧
        (∀ bytes,
          if bytes.length ≤ b.capacity then
            ∃ filled, s.step (.fill name bytes) =
                (.filled none filled, s.keep (some name) filled) ∧
              filled.contents = bytes ∧ filled.block = bytes ++ b.block.drop bytes.length
          else s.step (.fill name bytes) =
            (.filled (some (.tooLarge bytes.length b.capacity)) b, s)) ∧
        (s.step (.clear name) = (.buffer (some b.clear), s.keep (some name) b.clear) ∧
          b.clear.contents = [] ∧ b.clear.block = b.block) ∧
        (∀ queue, let after := (s.step (.send name queue)).2
          (s.step (.send name queue)).1 = .sent none ∧ after.held.find? name = none ∧
              after.station.plane.waiting queue = s.station.plane.waiting queue ++ [b] ∨
            (s.step (.send name queue)).1 = .sent (some b) ∧ after.held.find? name = some b ∧
              after.station.plane.waiting queue = s.station.plane.waiting queue) ∧
        (s.step (.intoBlock name)).1 = .block b.block := by
  intro start s ledger
  have hdescribes : ledger.Describes s :=
    start.ledger_describes (Ledger.describes_new dispatcher pools hempty) ops
  refine ⟨hdescribes, ?_, ?_, ?_⟩
  · intro queue disposal
    exact congrArg Answer.buffer (DataPlane.waiting_receive queue s.station.plane).1
  · intro pool len keep b hanswer
    have hresult : (s.station.plane.acquire s.station.view pool len).1 = .ok b := by
      simpa only [step, Station.acquire, Answer.acquired.injEq] using hanswer
    exact DataPlane.ofBlock_of_acquire (Prod.ext hresult rfl)
  · intro name b hheld
    rcases hdescribes.held.history name with ⟨hnone, -⟩ | ⟨found, h, hfound, hhistory, ht⟩
    · cases hnone.symm.trans hheld
    cases hfound.symm.trans hheld
    refine ⟨h, hhistory, ht, step_fill hheld, ⟨?_, rfl, rfl⟩, step_send hheld, ?_⟩
    · simp only [step, withHeld, hheld]
    · simp only [step, withHeld, hheld]

/-- A frame comes in a block that is then cleared, filled again, refused by a full queue and taken by an
empty one. -/
def passedOn : List (Op (.integer .unsigned 1)) :=
  [.act (.addRoute 7#8 ⟨some 0, some 0, false⟩), .act (.handle [7, 1, 2] 3),
    .receive 0 (.keep "frame"), .clear "frame", .fill "frame" [9], .fill "frame" [1, 2, 3, 4],
    .block [5, 6] "own", .send "own" 0, .send "frame" 0, .receive 0 .drop, .send "frame" 0,
    .receive 0 (.keep "again")]

/-- The buffer has the latest byte at its start, and behind it those of the frame. -/
theorem buffers_are_what_happened_to_them_when_passed_on :
    let start : Session (.integer .unsigned 1) :=
      .new (.new 1) [.fixed (.new 1 3)] [.bounded (.new 1)]
    let s := (start.run passedOn).2
    let b : Buffer := ⟨[9, 1, 2], 1, by decide⟩
    let h : History := ⟨[0, 0, 0], [.fill [7, 1, 2], .clear, .fill [9], .fill [1, 2, 3, 4]]⟩
    s.held.find? "again" = some b ∧ (start.ledger {} passedOn).held "again" = some h ∧ h.Tells b ∧
      s.step (.fill "again" [1, 2, 3, 4]) = (.filled (some (.tooLarge 4 3)) b, s) ∧
      (s.step (.intoBlock "again")).1 = .block [9, 1, 2] := by
  intro start s b h
  have hempty : ∀ queue ∈ [Queue.bounded (.new 1)], queue.waiting = [] := by
    intro queue hqueue
    obtain rfl := List.mem_singleton.mp hqueue
    rfl
  have hheld : s.held.find? "again" = some b := by decide +kernel
  obtain ⟨-, -, -, hall⟩ :=
    buffers_are_what_happened_to_them (.new 1) [.fixed (.new 1 3)] hempty passedOn
  obtain ⟨told, htold, ht, hfill, -, -, hblock⟩ := hall "again" b hheld
  have hhistory : some told = some h := by
    rw [← htold]
    decide +kernel
  cases hhistory
  have hlong : ¬ ([1, 2, 3, 4] : Bytes).length ≤ b.capacity := by decide
  have hfilled := hfill [1, 2, 3, 4]
  rw [if_neg hlong] at hfilled
  exact ⟨hheld, by decide +kernel, ht, hfilled, hblock⟩

end Session

end Demux
