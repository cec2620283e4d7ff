import Mathlib
import Demux.Proofs.Offer
import Demux.Proofs.Routes

/-!
# Runs of a dispatcher

A run is a list of turns.  In each turn the dispatcher is asked for one action and meets its
collaborators in some state; nothing is assumed about how that state comes from the one before, so
between two turns anybody may have used the pools and queues.  The deeds of a run say what was asked
for and, for every frame, where it went and what the caller was told.

What one turn can do to a dispatcher is said once (`Effect`), and again as far as the counters are
concerned (`Turned`).
-/

namespace Demux

variable {f : Format} {W : Type}

/-- One action, and the state in which the collaborators are by then. -/
structure Turn (f : Format) (W : Type) where
  action : Action f
  world : W

namespace Dispatcher

/-- One frame that was dealt with. -/
structure Call where
  /-- The place of the route that the frame resolved to at the time. -/
  slot : Option Slot
  /-- What the caller was told. -/
  outcome : Outcome
  deriving DecidableEq, Repr

/-- What was done in a turn. -/
inductive Deed
  /-- A registration, accepted or not. -/
  | registration
  | call (call : Call)
  /-- A reset of the counters. -/
  | reset
  deriving DecidableEq, Repr

def deed (env : Collaborators W) (d : Dispatcher f) (t : Turn f W) : Deed :=
  match t.action with
  | .addRoute _ _ | .setDefault _ => .registration
  | .handle frame reported =>
      .call ⟨(d.resolve frame).map (·.1), (d.handle env frame reported t.world).1.outcome⟩
  | .resetCounters => .reset

def turn (env : Collaborators W) (d : Dispatcher f) (t : Turn f W) : Dispatcher f :=
  (d.perform env t.action t.world).2.1

def run (env : Collaborators W) (d : Dispatcher f) (turns : List (Turn f W)) : Dispatcher f :=
  turns.foldl (turn env) d

/-- The deeds of a run, in order. -/
def deeds (env : Collaborators W) (d : Dispatcher f) : List (Turn f W) → List Deed
  | [] => []
  | t :: turns => d.deed env t :: (d.turn env t).deeds env turns

theorem run_snoc (env : Collaborators W) (d : Dispatcher f) (turns : List (Turn f W))
    (t : Turn f W) : d.run env (turns ++ [t]) = (d.run env turns).turn env t := by
  simp only [run, List.foldl_append, List.foldl_cons, List.foldl_nil]

theorem deeds_snoc (env : Collaborators W) (d : Dispatcher f) (turns : List (Turn f W))
    (t : Turn f W) :
    d.deeds env (turns ++ [t]) = d.deeds env turns ++ [(d.run env turns).deed env t] := by
  induction turns generalizing d with
  | nil => rfl
  | cons u turns ih =>
      have hrest := ih (d.turn env u)
      simp only [List.cons_append, deeds, hrest]
      rfl

/-- The listener that is registered in a turn, if one is. -/
def admitted (env : Collaborators W) (d : Dispatcher f) (t : Turn f W) : List (f.Value × Route) :=
  match t.action, (d.perform env t.action t.world).1 with
  | .addRoute id draft, .ok _ => (draft.build.toOption.map (id, ·)).toList
  | _, _ => []

/-- What a turn does to a dispatcher and on what grounds, with the listeners that it adds. -/
inductive Effect (d : Dispatcher f) : Deed → List (f.Value × Route) → Dispatcher f → Prop
  /-- A registration is refused. -/
  | refused : Effect d .registration [] d
  /-- A listener is added. -/
  | listener {id : f.Value} {draft : Draft} {route : Route} {registry : Registry f}
      (hbuild : draft.build = .ok route) (hadd : d.registry.add id draft = .ok registry) :
      Effect d .registration [(id, route)] { d with registry }
  /-- The default route is installed. -/
  | fallback {draft : Draft} {registry : Registry f}
      (hset : d.registry.setDefault draft = .ok registry) :
      Effect d .registration [] { d with registry }
  /-- A frame without a route is counted. -/
  | unmatched {frame : Bytes} (hresolve : d.resolve frame = none) :
      Effect d (.call ⟨none, .unmatched⟩) [] { d with totals := d.totals.record .unmatched }
  /-- A frame is offered to its route, and the outcome is counted there and in total. -/
  | offered {frame : Bytes} {slot : Slot} {e : Endpoint} {outcome : Outcome}
      (hresolve : d.resolve frame = some (slot, e)) (houtcome : outcome ≠ .unmatched) :
      Effect d (.call ⟨some slot, outcome⟩) []
        { d with
          registry := d.registry.record slot outcome
          totals := d.totals.record outcome }
  /-- Every counter goes back to zero. -/
  | reset :
      Effect d .reset [] { d with registry := d.registry.resetCounters, totals := {} }

/-- A turn does nothing else. -/
theorem effect (env : Collaborators W) (d : Dispatcher f) (t : Turn f W) :
    Effect d (d.deed env t) (d.admitted env t) (d.turn env t) := by
  rcases t with ⟨action, world⟩
  cases action with
  | addRoute id draft =>
      cases hadd : d.registry.add id draft with
      | error e =>
          simp only [deed, admitted, turn, perform, hadd]
          exact .refused
      | ok registry =>
          obtain ⟨route, hbuild, -⟩ := Registry.add_ok hadd
          simp only [deed, admitted, turn, perform, hadd, hbuild]
          exact .listener hbuild hadd
  | setDefault draft =>
      cases hset : d.registry.setDefault draft with
      | error e =>
          simp only [deed, admitted, turn, perform, hset]
          exact .refused
      | ok registry =>
          simp only [deed, admitted, turn, perform, hset]
          exact .fallback hset
  | handle frame reported =>
      simp only [deed, admitted, turn, perform, Report.outcome]
      rcases hresolve : d.resolve frame with _ | ⟨slot, e⟩
      · obtain ⟨hverdict, hafter, -⟩ :=
          handle_of_unresolved hresolve env reported world
        rw [hverdict, hafter]
        exact .unmatched hresolve
      · obtain ⟨hverdict, hafter, -⟩ :=
          handle_of_resolved hresolve env reported world
        rw [hverdict, hafter]
        exact .offered hresolve
          (Route.offered env e.route frame reported world).outcome_ne_unmatched
  | resetCounters => exact .reset

/-- What a turn can do to the counters of a dispatcher. -/
inductive Turned (d : Dispatcher f) : Deed → Dispatcher f → Prop
  /-- A registration is refused. -/
  | refused : Turned d .registration d
  /-- A route is added. -/
  | registered {registry : Registry f} (hextends : d.registry.Extends registry) :
      Turned d .registration { d with registry }
  /-- A frame without a route is counted. -/
  | unmatched :
      Turned d (.call ⟨none, .unmatched⟩) { d with totals := d.totals.record .unmatched }
  /-- A frame is offered to its route, and the outcome is counted there and in total. -/
  | offered {slot : Slot} {e : Endpoint} {outcome : Outcome}
      (hplace : d.registry.endpoint? slot = some e) (houtcome : outcome ≠ .unmatched) :
      Turned d (.call ⟨some slot, outcome⟩)
        { d with
          registry := d.registry.record slot outcome
          totals := d.totals.record outcome }
  /-- Every counter goes back to zero. -/
  | reset :
      Turned d .reset { d with registry := d.registry.resetCounters, totals := {} }

theorem Effect.turned {d d' : Dispatcher f} {deed : Deed} {entries : List (f.Value × Route)}
    (h : Effect d deed entries d') : Turned d deed d' := by
  cases h with
  | refused => exact .refused
  | listener hbuild hadd => exact .registered (Registry.extends_of_add hadd)
  | fallback hset => exact .registered (Registry.extends_of_setDefault hset)
  | unmatched hresolve => exact .unmatched
  | offered hresolve houtcome => exact .offered (Registry.endpoint?_of_resolve hresolve) houtcome
  | reset => exact .reset

/-- A turn does nothing else to them. -/
theorem turned (env : Collaborators W) (d : Dispatcher f) (t : Turn f W) :
    Turned d (d.deed env t) (d.turn env t) :=
  (effect env d t).turned

/-- What holds of a dispatcher at the start, and is kept by whatever a turn can do, holds after every
run. -/
theorem run_induction {motive : List Deed → Dispatcher f → Prop} (env : Collaborators W)
    (d : Dispatcher f) (hstart : motive [] d)
    (hturn : ∀ past d deed d', Turned d deed d' → motive past d → motive (past ++ [deed]) d')
    (turns : List (Turn f W)) : motive (d.deeds env turns) (d.run env turns) := by
  induction turns using List.reverseRecOn with
  | nil => exact hstart
  | append_singleton turns t ih =>
      rw [run_snoc, deeds_snoc]
      exact hturn _ _ _ _ (turned env _ t) ih

end Dispatcher

end Demux
