import Mathlib
import Demux.Proofs.Likeness
import Demux.Proofs.Moves

/-!
# What is written to the journal

The journal only grows.  Calls to pools and queues write nothing, except that a pool warns of a released
block that it does not keep (`warned_release`).  Whoever makes a move has at most one event of his own to
report, and it comes last (`Station.events_move`): a dispatcher reports what it did if it did not refuse
to, and a receive loop reports what it likes.
-/

namespace Demux

variable {f : Format}

/-- Nothing is asked of pools and queues unless a frame is to be dealt with. -/
theorem Dispatcher.world_perform {W : Type} (env : Collaborators W) (d : Dispatcher f)
    {action : Action f} (hother : ∀ frame reported, action ≠ .handle frame reported) (w : W) :
    (d.perform env action w).2.2 = w := by
  cases action with
  | addRoute id draft =>
      simp only [perform]
      cases d.registry.add id draft <;> rfl
  | setDefault draft =>
      simp only [perform]
      cases d.registry.setDefault draft <;> rfl
  | handle frame reported => exact absurd rfl (hother frame reported)
  | resetCounters => rfl

namespace DataPlane

variable {p w : DataPlane}

/-- The journal holds as many warnings as blocks were not kept. -/
theorem discards_eq_countP_events (p : DataPlane) : p.discards = p.events.countP (·.isDiscard) :=
  List.countP_reverse.symm

/-- Pools have given some warnings on the way from one state to another, and nothing else was
reported. -/
def Warned (p w : DataPlane) (warnings : List Discard) : Prop :=
  w.events = p.events ++ warnings.map .pool

/-- Nothing was reported. -/
theorem warned_of_journal (h : w.journal = p.journal) : Warned p w [] := by
  rw [Warned, events, h, List.map_nil, List.append_nil]
  rfl

theorem Warned.trans {q : DataPlane} {first second : List Discard} (hfirst : Warned p q first)
    (hsecond : Warned q w second) : Warned p w (first ++ second) := by
  rw [Warned, hsecond, hfirst, List.map_append, List.append_assoc]

/-- Every warning is about a block that was not kept. -/
theorem Warned.discards {warnings : List Discard} (h : Warned p w warnings) :
    w.discards = p.discards + warnings.length := by
  have hall : (warnings.map Event.pool).countP (·.isDiscard) = warnings.length := by
    rw [List.countP_map]
    exact List.countP_eq_length.mpr fun _ _ => rfl
  rw [discards_eq_countP_events, discards_eq_countP_events, h, List.countP_append, hall]

theorem warned_acquire (view : Option Stats) (pool : PoolRef) (len : ℕ) (p : DataPlane) :
    Warned p (p.acquire view pool len).2 [] := by
  apply warned_of_journal
  unfold acquire
  split <;> rfl

theorem warned_send (queue : QueueRef) (b : Buffer) (p : DataPlane) :
    Warned p (p.send queue b).2 [] := by
  apply warned_of_journal
  unfold send
  split <;> rfl

theorem warned_receive (queue : QueueRef) (p : DataPlane) : Warned p (p.receive queue).2 [] := by
  apply warned_of_journal
  unfold receive
  split <;> rfl

/-- A pool may warn of a released block. -/
theorem warned_release (view : Option Stats) (pool : PoolRef) (b : Buffer) (p : DataPlane) :
    ∃ warnings, Warned p (p.release view pool b) warnings := by
  unfold release
  split
  · exact ⟨[], warned_of_journal rfl⟩
  · dsimp only
    split
    · exact ⟨[], warned_of_journal rfl⟩
    · rename_i discard _
      exact ⟨[discard], events_note _ _⟩

/-- An offer reports nothing but warnings of its pool. -/
theorem warned_offered {r : Route} {frame : Bytes} {reported : ℕ} {verdict : Verdict}
    (hoffered : Offered (collaborators none) r frame reported p verdict w) :
    ∃ warnings, Warned p w warnings := by
  refine hoffered.keeps (motive := fun w => ∃ warnings, Warned p w warnings) ?_ ?_ ?_
    ⟨[], warned_of_journal rfl⟩
  · rintro len w ⟨warnings, hw⟩
    exact ⟨_, hw.trans (warned_acquire none r.pool len w)⟩
  · rintro b w ⟨warnings, hw⟩
    obtain ⟨more, hmore⟩ := warned_release none r.pool b w
    exact ⟨_, hw.trans hmore⟩
  · rintro b w ⟨warnings, hw⟩
    exact ⟨_, hw.trans (warned_send r.queue b w)⟩

/-- Whatever is asked of a dispatcher, its pools and queues report nothing but warnings. -/
theorem warned_perform (d : Dispatcher f) (action : Action f) (p : DataPlane) :
    ∃ warnings, Warned p (d.perform (collaborators none) action p).2.2 warnings := by
  have hidle : ∃ warnings, Warned p p warnings := ⟨[], warned_of_journal rfl⟩
  cases action with
  | handle frame reported =>
      rcases hresolve : d.resolve frame with _ | ⟨slot, e⟩
      · obtain ⟨-, -, hafter⟩ :=
          Dispatcher.handle_of_unresolved hresolve (collaborators none) reported p
        simpa only [Dispatcher.perform, hafter] using hidle
      · obtain ⟨-, -, hafter⟩ :=
          Dispatcher.handle_of_resolved hresolve (collaborators none) reported p
        simp only [Dispatcher.perform, hafter]
        exact warned_offered (Route.offered _ e.route frame reported p)
  | _ =>
      rw [Dispatcher.world_perform _ _ fun _ _ h => by cases h]
      exact hidle

/-- As long as no block was lost, nobody gave a warning. -/
theorem Warned.quiet {warnings : List Discard} (h : Warned p w warnings)
    (hkept : w.discards = p.discards) : warnings = [] := by
  have hcount := h.discards
  apply List.eq_nil_of_length_eq_zero
  omega

end DataPlane

namespace Station

open DataPlane (collaborators Warned)

/-- The caller is told the outcome that is reported. -/
theorem outcome_report (st : Station f) (frame : Bytes) (reported : ℕ) :
    (st.report frame reported).outcome = (st.handle frame reported).1 := rfl

theorem length_report (st : Station f) (frame : Bytes) (reported : ℕ) :
    (st.report frame reported).length = frame.length := by
  unfold report Dispatcher.handle
  cases st.lock.value.resolve frame <;> rfl

/-- What is reported in a move, apart from the warnings of pools. -/
def reports (st : Station f) : Move f → List Event
  | .act action => ((st.perform action).1.toOption.map .dispatch).toList
  | .note event => [.loop event]
  | _ => []

/-- Whoever makes a move reports his event after all the warnings of pools. -/
theorem events_move (st : Station f) (m : Move f) :
    ∃ warnings : List Discard,
      (st.move m).plane.events = st.plane.events ++ warnings.map .pool ++ st.reports m := by
  -- Consumers report nothing of their own when they call pools and queues.
  have hcall {w : DataPlane} (h : ∃ warnings, Warned st.plane w warnings) :
      ∃ warnings : List Discard, w.events = st.plane.events ++ warnings.map .pool ++ [] := by
    simpa only [List.append_nil, Warned] using h
  cases m with
  | act action =>
      rcases hperform : st.lock.value.perform (collaborators none) action st.plane with ⟨result, d, w⟩
      obtain ⟨warnings, hw⟩ := DataPlane.warned_perform st.lock.value action st.plane
      rw [hperform, Warned] at hw
      refine ⟨warnings, ?_⟩
      rw [move, reports, perform_eq hperform, ← hw]
      cases result with
      | error e => exact (List.append_nil _).symm
      | ok event => exact DataPlane.events_note w _
  | ask => exact hcall ⟨[], DataPlane.warned_of_journal rfl⟩
  | acquire pool len => exact hcall ⟨[], DataPlane.warned_acquire st.view pool len st.plane⟩
  | release pool b => exact hcall (DataPlane.warned_release st.view pool b st.plane)
  | send queue b => exact hcall ⟨[], DataPlane.warned_send queue b st.plane⟩
  | receive queue => exact hcall ⟨[], DataPlane.warned_receive queue st.plane⟩
  | note event =>
      refine ⟨[], ?_⟩
      rw [List.map_nil, List.append_nil]
      exact DataPlane.events_note _ _

end Station

end Demux
