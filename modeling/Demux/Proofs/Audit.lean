import Mathlib
import Demux.Proofs.Cleared
import Demux.Proofs.Stocks

/-!
# The log as an audit trail

The entries of a log alone, by their messages and their field `overflow`, tell what the counters of the
dispatcher are, how many listeners there are and whether there is a default route.  An auditor reads
them one by one (`Audit.enter`); what he knows reproduces the dispatcher before every move and after it
(`Audit.Reproduces`), because every frame and every accepted registration is one entry, and the entries
of pools and receive loops say nothing to him.
-/

namespace Demux

variable {f : Format}

/-- The value of a field of an entry. -/
def Entry.field? (e : Entry) (name : String) : Option String := e.fields.lookup name

/-- Whether the dispatcher itself reports an event. -/
def Event.isDispatch : Event → Bool
  | .dispatch _ => true
  | _ => false

/-- What an auditor knows from a log. -/
structure Audit where
  unmatched : ℕ := 0
  dropped : ℕ := 0
  partials : ℕ := 0
  overflow : ℕ := 0
  listeners : ℕ := 0
  hasDefault : Bool := false
  deriving DecidableEq, Repr

/-- The messages about a frame with an outcome.  A frame can turn out too long at two places. -/
def Outcome.messages : Outcome → List String
  | delivered => ["Frame delivered"]
  | unmatched => ["Unmatched frame dropped"]
  | droppedPartial => ["Partial frame dropped"]
  | poolExhausted => ["Buffer pool exhausted"]
  | overflowed _ => ["Frame exceeds block size", "Frame exceeds acquired buffer"]
  | queueFull => ["Queue full, frame dropped"]

/-- An entry is about a frame of some length with an outcome. -/
structure Entry.Describes (e : Entry) (o : Outcome) (length : ℕ) : Prop where
  message : e.message ∈ o.messages
  length : e.field? "len" = some (Nat.repr length)
  /-- Only of a frame that overflowed it is said by how many bytes. -/
  overflow : e.field? "overflow" = match o with
    | .overflowed bytes => some (Nat.repr bytes)
    | _ => none

/-- The entry about a frame says what the caller is told. -/
theorem Report.entry_describes (r : Report) : r.entry.Describes r.outcome r.length := by
  rcases r with ⟨id, length, reported, verdict⟩
  cases verdict with
  | exceedsBlock bytes => exact ⟨List.mem_cons_self, rfl, rfl⟩
  | exceedsBuffer bytes => exact ⟨List.mem_cons_of_mem _ List.mem_cons_self, rfl, rfl⟩
  | _ => exact ⟨List.mem_cons_self, rfl, rfl⟩

namespace Registry

variable (r : Registry f) (slot : Slot) (o : Outcome)

/-- Counting adds no listener. -/
theorem length_listeners_record : (r.record slot o).listeners.length = r.listeners.length := by
  cases slot with
  | listener index => exact List.length_modify _ _ _
  | fallback => rfl

/-- Counting installs no default route. -/
theorem isSome_fallback_record : (r.record slot o).fallback.isSome = r.fallback.isSome := by
  cases slot with
  | listener index => rfl
  | fallback => exact Option.isSome_map

end Registry

namespace Audit

/-- Read one entry.  When the counters are reset, only the routes stay. -/
def enter (a : Audit) (e : Entry) : Audit :=
  match e.message with
  | "Unmatched frame dropped" => { a with unmatched := a.unmatched + 1 }
  | "Partial frame dropped" => { a with partials := a.partials + 1 }
  | "Buffer pool exhausted" | "Queue full, frame dropped" => { a with dropped := a.dropped + 1 }
  | "Frame exceeds block size" | "Frame exceeds acquired buffer" =>
      { a with
        dropped := a.dropped + 1
        overflow := a.overflow + ((e.field? "overflow").bind String.toNat?).getD 0 }
  | "Listener registered" => { a with listeners := a.listeners + 1 }
  | "Default route registered" => { a with hasDefault := true }
  | "Error counters reset" => { listeners := a.listeners, hasDefault := a.hasDefault }
  | _ => a

/-- Read a whole log. -/
def ofLog (log : List Entry) : Audit := log.foldl enter {}

/-- Count one outcome, without a limit. -/
def count (a : Audit) : Outcome → Audit
  | .delivered => a
  | .unmatched => { a with unmatched := a.unmatched + 1 }
  | .droppedPartial => { a with partials := a.partials + 1 }
  | .poolExhausted | .queueFull => { a with dropped := a.dropped + 1 }
  | .overflowed bytes => { a with dropped := a.dropped + 1, overflow := a.overflow + bytes }

/-- The entry about a frame is read as its outcome. -/
theorem enter_report (a : Audit) (r : Report) :
    a.enter (Event.dispatch (.frame r)).entry = a.count r.outcome := by
  rcases r with ⟨id, length, reported, verdict⟩
  cases verdict with
  | exceedsBlock bytes | exceedsBuffer bytes =>
      -- The bytes are read back from the numeral in the entry.
      have hread : (some (Nat.repr bytes)).bind String.toNat? = some bytes := Nat.toNat?_repr bytes
      change { a with
        dropped := a.dropped + 1
        overflow := a.overflow + ((some (Nat.repr bytes)).bind String.toNat?).getD 0 } = _
      rw [hread]
      rfl
  | _ => rfl

theorem enter_pool (a : Audit) (discard : Discard) : a.enter (Event.pool discard).entry = a := by
  cases discard <;> rfl

theorem enter_loop (a : Audit) (event : LoopEvent) : a.enter (Event.loop event).entry = a := by
  cases event <;> rfl

/-- Entries of pools and receive loops say nothing to an auditor. -/
theorem foldl_enter_filter (a : Audit) (events : List Event) :
    ((events.filter (·.isDispatch)).map Event.entry).foldl enter a =
      (events.map Event.entry).foldl enter a := by
  induction events generalizing a with
  | nil => rfl
  | cons e events ih =>
      cases e with
      | dispatch event => exact ih (a.enter (Event.dispatch event).entry)
      | pool discard =>
          rw [List.map_cons, List.foldl_cons, enter_pool]
          exact ih a
      | loop event =>
          rw [List.map_cons, List.foldl_cons, enter_loop]
          exact ih a

/-- What an auditor knows reproduces a dispatcher: its counters as far as tallies go, the number of its
listeners, and whether it has a default route. -/
structure Reproduces (a : Audit) (d : Dispatcher f) : Prop where
  unmatched : d.totals.unmatched.val = min Tally.limit a.unmatched
  dropped : d.totals.drops.dropped.val = min Tally.limit a.dropped
  partials : d.totals.drops.partials.val = min Tally.limit a.partials
  overflow : d.totals.drops.overflow.val = min Tally.limit a.overflow
  listeners : d.registry.listeners.length = a.listeners
  hasDefault : d.registry.fallback.isSome = a.hasDefault

variable {a : Audit} {d : Dispatcher f}

theorem reproduces_new (capacity offset : ℕ) :
    Reproduces {} (Dispatcher.new capacity offset : Dispatcher f) :=
  ⟨rfl, rfl, rfl, rfl, rfl, rfl⟩

/-- Counting one outcome in total is counting it without a limit. -/
theorem Reproduces.totals (h : a.Reproduces d) (o : Outcome) :
    (a.count o).Reproduces { d with totals := d.totals.record o } := by
  -- A tally that has reached the limit stays there, as the clamp of a larger count does.
  have hone {t : Tally} {m : ℕ} (n : ℕ) (ht : t.val = min Tally.limit m) :
      (t.add n).val = min Tally.limit (m + n) := by
    rw [Tally.val_add, ht]
    omega
  cases o with
  | delivered => exact h
  | unmatched => exact { h with unmatched := hone 1 h.unmatched }
  | droppedPartial => exact { h with partials := hone 1 h.partials }
  | poolExhausted | queueFull => exact { h with dropped := hone 1 h.dropped }
  | overflowed bytes =>
      exact { h with dropped := hone 1 h.dropped, overflow := hone bytes h.overflow }

/-- Counting on a route adds no route. -/
theorem Reproduces.counted (h : a.Reproduces d) (o : Outcome) (place : Option Slot) :
    (a.count o).Reproduces (d.counted o place) := by
  have htotals := h.totals o
  cases place with
  | none => exact htotals
  | some slot =>
      have hlength := (d.registry.length_listeners_record slot o).trans htotals.listeners
      have hsame := (d.registry.isSome_fallback_record slot o).trans htotals.hasDefault
      exact { htotals with listeners := hlength, hasDefault := hsame }

/-- Whatever is asked of a dispatcher, it is reproduced afterwards by who reads its event, if there is
one. -/
theorem Reproduces.perform {W : Type} (h : a.Reproduces d) (env : Collaborators W) (action : Action f)
    (w : W) :
    ((d.perform env action w).1.toOption.elim a fun event =>
      a.enter (Event.dispatch event).entry).Reproduces (d.perform env action w).2.1 := by
  cases action with
  | addRoute id draft =>
      simp only [Dispatcher.perform]
      cases hadd : d.registry.add id draft with
      | error e => exact h
      | ok registry =>
          obtain ⟨route, -, hlisteners, hfallback⟩ := Registry.add_ok hadd
          have hlength : registry.listeners.length = a.listeners + 1 := by
            rw [hlisteners, List.length_append, List.length_singleton, h.listeners]
          have hsame : registry.fallback.isSome = a.hasDefault := hfallback ▸ h.hasDefault
          exact { h with listeners := hlength, hasDefault := hsame }
  | setDefault draft =>
      simp only [Dispatcher.perform]
      cases hset : d.registry.setDefault draft with
      | error e => exact h
      | ok registry =>
          obtain ⟨route, -, -, hlisteners, hfallback⟩ := Registry.setDefault_ok hset
          have hlength : registry.listeners.length = a.listeners := hlisteners ▸ h.listeners
          have hdefault : registry.fallback.isSome = true := by rw [hfallback]; rfl
          exact { h with listeners := hlength, hasDefault := hdefault }
  | handle frame reported =>
      change (a.enter (Event.dispatch (.frame (d.handle env frame reported w).1)).entry).Reproduces
        (d.handle env frame reported w).2.1
      rw [enter_report, Dispatcher.handle_counted]
      exact h.counted _ _
  | resetCounters =>
      have hlength : d.registry.resetCounters.listeners.length = a.listeners := by
        rw [Registry.listeners_resetCounters, List.length_map, h.listeners]
      have hsame : d.registry.resetCounters.fallback.isSome = a.hasDefault :=
        Option.isSome_map.trans h.hasDefault
      exact ⟨rfl, rfl, rfl, rfl, hlength, hsame⟩

end Audit

namespace Station

/-- The log of everything that was reported. -/
def log (st : Station f) : List Entry := st.plane.events.map Event.entry

/-- An auditor who reads on after a move needs to read what was reported in it only. -/
theorem ofLog_move (st : Station f) (m : Move f) :
    Audit.ofLog (st.move m).log =
      ((st.reports m).map Event.entry).foldl Audit.enter (Audit.ofLog st.log) := by
  obtain ⟨warnings, hevents⟩ := events_move st m
  have hnone : (warnings.map Event.pool).filter (·.isDispatch) = [] := by
    simp [List.filter_map, Function.comp_def, Event.isDispatch]
  rw [log, hevents, List.map_append, List.map_append, Audit.ofLog, List.foldl_append,
    List.foldl_append, ← Audit.foldl_enter_filter _ (warnings.map Event.pool), hnone]
  rfl

theorem reproduces_move {st : Station f} (h : (Audit.ofLog st.log).Reproduces st.lock.value)
    (m : Move f) : (Audit.ofLog (st.move m).log).Reproduces (st.move m).lock.value := by
  rw [ofLog_move]
  cases m with
  | act action =>
      rcases hperform : st.lock.value.perform (DataPlane.collaborators none) action st.plane
        with ⟨result, d, w⟩
      have hafter := h.perform (DataPlane.collaborators none) action st.plane
      rw [hperform] at hafter
      rw [move, reports, perform_eq hperform]
      cases result <;> exact hafter
  | note event =>
      rw [reports, List.map_singleton, List.foldl_cons, List.foldl_nil, Audit.enter_loop]
      exact h
  | _ => exact h

theorem reproduces_play {st : Station f} (h : (Audit.ofLog st.log).Reproduces st.lock.value)
    (moves : List (Move f)) : (Audit.ofLog (st.play moves).log).Reproduces (st.play moves).lock.value := by
  induction moves generalizing st with
  | nil => exact h
  | cons m moves ih => exact ih (reproduces_move h m)

/-- An action is logged by one entry with a message if it is accepted, and not at all if it is refused. -/
def Announces (st : Station f) (action : Action f) (message : String) : Prop :=
  match (st.perform action).1 with
  | .ok _ => ∃ entry, (st.perform action).2.log = st.log ++ [entry] ∧ entry.message = message
  | .error _ => (st.perform action).2.log = st.log

/-- An action that is not about a frame is announced by its event. -/
theorem announces_of_event (st : Station f) {action : Action f}
    (hother : ∀ frame reported, action ≠ .handle frame reported) {message : String}
    (hmessage : ∀ event, (st.perform action).1 = .ok event →
      (Event.dispatch event).entry.message = message) : st.Announces action message := by
  rcases hperform : st.lock.value.perform (DataPlane.collaborators none) action st.plane
    with ⟨result, d, w⟩
  -- Nobody but the dispatcher has anything to report.
  have hw : w = st.plane := by
    have hworld := st.lock.value.world_perform (DataPlane.collaborators none) hother st.plane
    rwa [hperform] at hworld
  rw [perform_eq hperform] at hmessage
  rw [Announces, perform_eq hperform, hw]
  cases result with
  | error e => rfl
  | ok event =>
      refine ⟨(Event.dispatch event).entry, ?_, hmessage event rfl⟩
      simp only [log, Except.toOption, Option.elim_some, DataPlane.events_note, List.map_append,
        List.map_singleton]

theorem announces_addRoute (st : Station f) (id : f.Value) (draft : Draft) :
    st.Announces (.addRoute id draft) "Listener registered" := by
  refine st.announces_of_event (fun _ _ h => by cases h) fun event hevent => ?_
  simp only [perform, exclusively, Dispatcher.perform, Locked.take] at hevent
  cases hadd : st.lock.value.registry.add id draft with
  | error e => simp [hadd] at hevent
  | ok registry =>
      simp only [hadd, Except.ok.injEq] at hevent
      subst hevent
      rfl

theorem announces_setDefault (st : Station f) (draft : Draft) :
    st.Announces (.setDefault draft) "Default route registered" := by
  refine st.announces_of_event (fun _ _ h => by cases h) fun event hevent => ?_
  simp only [perform, exclusively, Dispatcher.perform, Locked.take] at hevent
  cases hset : st.lock.value.registry.setDefault draft with
  | error e => simp [hset] at hevent
  | ok registry =>
      simp only [hset, Except.ok.injEq] at hevent
      subst hevent
      rfl

theorem announces_resetCounters (st : Station f) :
    st.Announces .resetCounters "Error counters reset" := by
  refine st.announces_of_event (fun _ _ h => by cases h) fun event hevent => ?_
  cases hevent
  rfl

/-- The warning of a pool that does not keep a block. -/
def warning (discard : Discard) : Entry := (Event.pool discard).entry

/-- A frame is logged by one entry, which describes what the caller is told. -/
theorem log_handle (st : Station f) (frame : Bytes) (reported : ℕ) :
    ∃ warnings : List Discard, ∃ entry,
      (st.handle frame reported).2.log = st.log ++ warnings.map warning ++ [entry] ∧
      entry.Describes (st.handle frame reported).1 frame.length ∧
      ((∀ slot e, st.lock.value.resolve frame = some (slot, e) →
        ∃ blocks size, st.plane.Stocked e.route.pool blocks size) → warnings = []) := by
  obtain ⟨warnings, hevents, hquiet⟩ := events_handle st frame reported
  refine ⟨warnings, (st.report frame reported).entry, ?_, ?_, hquiet⟩
  · rw [log, hevents, List.map_append, List.map_append, List.map_map]
    rfl
  · have hdescribes := (st.report frame reported).entry_describes
    rwa [outcome_report, length_report] at hdescribes

end Station

namespace Session

/-- **The log is an audit trail of the counters.**  In every state of a session, also in the middle of an
operation or of a receive loop, an auditor who reads nothing but the log knows every total counter, the
number of listeners and whether there is a default route, and needs not read what pools and receive loops
report.  A frame adds one entry that describes its outcome and length, after the warnings of its pool, if
any; a pool of blocks that was new at the start of the session never gives one.  Every registration adds
one entry if it is accepted and none if it is refused, and a reset adds one. -/
theorem log_audits_counters (capacity offset : ℕ) (pools : List Pool) (queues : List Queue) :
    let start : Session f := .new (.new capacity offset) pools queues
    (∀ ops, (start.run ops).2.station = start.station.play (start.allMoves ops)) ∧
    ∀ moves,
      let st := start.station.play moves
      (Audit.ofLog st.log).Reproduces st.lock.value ∧
      Audit.ofLog ((st.plane.events.filter (·.isDispatch)).map Event.entry) = Audit.ofLog st.log ∧
      (∀ frame reported, ∃ warnings : List Discard, ∃ entry,
        (st.handle frame reported).2.log = st.log ++ warnings.map Station.warning ++ [entry] ∧
        entry.Describes (st.handle frame reported).1 frame.length ∧
        ((∀ slot e, st.lock.value.resolve frame = some (slot, e) →
          ∃ blocks size, pools[e.route.pool]?.bind Pool.blockPool? = some (.new blocks size)) →
            warnings = [])) ∧
      (∀ id draft, st.Announces (.addRoute id draft) "Listener registered") ∧
      (∀ draft, st.Announces (.setDefault draft) "Default route registered") ∧
      st.Announces .resetCounters "Error counters reset" := by
  intro start
  refine ⟨station_run start, fun moves => ?_⟩
  intro st
  have hstart : (Audit.ofLog start.station.log).Reproduces start.station.lock.value :=
    Audit.reproduces_new capacity offset
  refine ⟨Station.reproduces_play hstart moves, Audit.foldl_enter_filter _ _, ?_,
    st.announces_addRoute, st.announces_setDefault, st.announces_resetCounters⟩
  intro frame reported
  obtain ⟨warnings, entry, hlog, hdescribes, hquiet⟩ := st.log_handle frame reported
  refine ⟨warnings, entry, hlog, hdescribes, fun hnew => hquiet fun slot e hresolve => ?_⟩
  obtain ⟨blocks, size, hpool⟩ := hnew slot e hresolve
  have hstocked : start.station.plane.Stocked e.route.pool blocks size :=
    stocked_new (.new capacity offset) queues hpool
  exact ⟨blocks, size, start.station.stocked_play hstocked moves⟩

/-- A pool with one block of two bytes gets a foreign block, for which it gives a warning. -/
def foreignRelease : List (Station.Move (.integer .unsigned 1)) :=
  [.act (.addRoute 7#8 ⟨some 0, some 0, false⟩), .release 0 (.ofBlock [1, 2, 3])]

/-- A frame that finds the queue closed gives its block back without a warning. -/
theorem log_audits_counters_after_foreign_release :
    let start : Session (.integer .unsigned 1) := .new (.new 1) [.fixed (.new 1 2)] [.closed 0]
    let st := start.station.play foreignRelease
    st.log.length = 2 ∧
      ∃ entry, (st.handle [7] 1).2.log = st.log ++ [entry] ∧ entry.Describes .queueFull 1 := by
  intro start st
  have hlanded : st.lock.value.resolve [7] = some (.listener 0, ⟨⟨0, 0, false⟩, {}⟩) := by
    decide +kernel
  have hrefused : (st.handle [7] 1).1 = .queueFull := by decide +kernel
  have hlength : st.log.length = 2 := by decide +kernel
  obtain ⟨-, hstates⟩ := log_audits_counters 1 0 [.fixed (.new 1 2)] [.closed 0]
  obtain ⟨-, -, hframes, -⟩ := hstates foreignRelease
  obtain ⟨warnings, entry, hlog, hdescribes, hquiet⟩ := hframes [7] 1
  obtain rfl := hquiet fun slot e hresolve => by
    cases hlanded.symm.trans hresolve
    exact ⟨1, 2, rfl⟩
  rw [List.map_nil, List.append_nil] at hlog
  exact ⟨hlength, entry, hlog, hrefused ▸ hdescribes⟩

end Session

end Demux
