import Mathlib
import Demux.Proofs.Routing

/-!
# Routes are stable

Whatever is done to a dispatcher later, a frame that goes to a listener goes on to do so, and a frame
that goes to the default route is taken away from it only by a listener for its own identifier that
was registered later.  A listener that stands behind another one for the same identifier is never
reached (`Registry.Shadowed`), and with a default route no frame is unmatched.

All of this is carried by what a run keeps: a table is only ever extended (`table_run`), and a default
route stays what it is (`fallback_run`).
-/

namespace Demux

namespace Registry

variable {f : Format} {r s : Registry f}

/-- A listener stands behind another one for the same identifier. -/
def Shadowed (r : Registry f) (i : ℕ) : Prop :=
  ∃ entry, r.table[i]? = some entry ∧ ∃ earlier ∈ r.table.take i, earlier.1 = entry.1

theorem shadowed_of_listeners {i j : ℕ} {first second : Listener f} (hij : i < j)
    (hfirst : r.listeners[i]? = some first) (hsecond : r.listeners[j]? = some second)
    (hsame : first.id = second.id) : r.Shadowed j :=
  ⟨_, table_of_listener hsecond, _, mem_take_table hfirst hij, hsame⟩

/-- No frame goes to a shadowed listener. -/
theorem Shadowed.not_resolved {i : ℕ} (h : r.Shadowed i) (id : Option f.Value) (e : Endpoint) :
    r.resolve id ≠ some (.listener i, e) := by
  intro hresolve
  obtain ⟨entry, hentry, earlier, hearlier, hsame⟩ := h
  cases resolve_eq_iff.mp hresolve with
  | @listener _ l hhere hid hfirst =>
      obtain ⟨l', hl', rfl⟩ := getElem?_table_eq_some_iff.mp hentry
      cases hhere.symm.trans hl'
      exact hfirst earlier hearlier (hid.trans (congrArg some hsame.symm))

section Extension

variable {more : List (f.Value × Route)} (htable : s.table = r.table ++ more)

include htable

/-- Whether a listener is shadowed is decided by what was registered before it. -/
theorem shadowed_iff_of_extension {i : ℕ} (hi : i < r.table.length) :
    s.Shadowed i ↔ r.Shadowed i := by
  unfold Shadowed
  rw [htable, List.getElem?_append_left hi, List.take_append_of_le_length hi.le]

/-- A listener keeps its place, its identifier and its route. -/
theorem listener_of_extension {i : ℕ} {l : Listener f} (hl : r.listeners[i]? = some l) :
    ∃ l', s.listeners[i]? = some l' ∧ l'.id = l.id ∧ l'.endpoint.route = l.endpoint.route := by
  have hkept : s.table[i]? = some (l.id, l.endpoint.route) := by
    rw [htable, List.getElem?_append_left (lt_length_table hl), table_of_listener hl]
  obtain ⟨l', hl', hsame⟩ := getElem?_table_eq_some_iff.mp hkept
  exact ⟨l', hl', congrArg Prod.fst hsame, congrArg Prod.snd hsame⟩

end Extension

end Registry

namespace Dispatcher

variable {f : Format} {W : Type}

/-- Nothing was ever counted on a shadowed listener. -/
def Quiet (d : Dispatcher f) : Prop :=
  ∀ i e, d.registry.Shadowed i → d.registry.endpoint? (.listener i) = some e → e.counters = 0

section Effects

variable {d d' : Dispatcher f} {deed : Deed} {entries : List (f.Value × Route)}

/-- A registration adds only listeners on which nothing was counted. -/
theorem Quiet.extended {registry : Registry f} (h : d.Quiet)
    (hextends : d.registry.Extends registry) (htable : registry.table = d.registry.table ++ entries) :
    Quiet { d with registry } := by
  intro i e hshadowed he
  rcases hextends.fresh (.listener i) e he with hold | ⟨-, hzero⟩
  · obtain ⟨l, hl, -⟩ := Option.map_eq_some_iff.mp hold
    have hi := Registry.lt_length_table hl
    exact h i e ((Registry.shadowed_iff_of_extension htable hi).mp hshadowed) hold
  · exact hzero

/-- Nothing is counted on a shadowed listener, because no frame goes there. -/
theorem Quiet.effect (h : d.Quiet) (heffect : Effect d deed entries d') : d'.Quiet := by
  have htable := heffect.table
  cases heffect with
  | refused => exact h
  | listener hbuild hadd => exact h.extended (Registry.extends_of_add hadd) htable
  | fallback hset => exact h.extended (Registry.extends_of_setDefault hset) htable
  | unmatched hresolve => exact h
  | @offered frame slot reached outcome hresolve houtcome =>
      intro i e hshadowed he
      have hbefore : d.registry.Shadowed i := by
        simpa only [Registry.Shadowed, Registry.table_record] using hshadowed
      rw [Registry.endpoint?_record] at he
      obtain ⟨old, hold, rfl⟩ := Option.map_eq_some_iff.mp he
      have hslot : Slot.listener i ≠ slot := by
        rintro rfl
        exact hbefore.not_resolved _ reached hresolve
      rw [if_neg hslot]
      exact h i old hbefore hold
  | reset =>
      intro i e hshadowed he
      rw [Registry.endpoint?_resetCounters] at he
      obtain ⟨_, -, rfl⟩ := Option.map_eq_some_iff.mp he
      rfl

/-- A default route stays what it is. -/
theorem Effect.fallback_kept (heffect : Effect d deed entries d') {e : Endpoint}
    (h : d.registry.fallback = some e) :
    ∃ e', d'.registry.fallback = some e' ∧ e'.route = e.route := by
  have hplace : d.registry.endpoint? .fallback = some e := h
  cases heffect with
  | refused => exact ⟨e, h, rfl⟩
  | listener hbuild hadd =>
      obtain ⟨-, -, -, hfallback⟩ := Registry.add_ok hadd
      exact ⟨e, hfallback.trans h, rfl⟩
  | fallback hset =>
      obtain ⟨-, -, habsent, -⟩ := Registry.setDefault_ok hset
      cases h.symm.trans habsent
  | unmatched hresolve => exact ⟨e, h, rfl⟩
  | @offered frame slot reached outcome hresolve houtcome =>
      have hcounted := Registry.endpoint?_record d.registry slot .fallback outcome
      rw [hplace] at hcounted
      refine ⟨_, hcounted, ?_⟩
      split <;> rfl
  | reset =>
      have hcleared := Registry.endpoint?_resetCounters d.registry .fallback
      rw [hplace] at hcleared
      exact ⟨_, hcleared, rfl⟩

/-- With a default route no frame goes nowhere. -/
theorem resolve_ne_none {e : Endpoint} (h : d.registry.fallback = some e) (frame : Bytes) :
    d.resolve frame ≠ none := by
  intro hnowhere
  cases h.symm.trans ((resolve_eq_none_iff d frame).mp hnowhere).2

/-- With a default route no more frames are counted as unmatched. -/
theorem Effect.unmatched_le (heffect : Effect d deed entries d') {e : Endpoint}
    (h : d.registry.fallback = some e) :
    d'.totals.unmatched.val ≤ d.totals.unmatched.val := by
  cases heffect with
  | refused => exact Nat.le_refl _
  | listener hbuild hadd => exact Nat.le_refl _
  | fallback hset => exact Nat.le_refl _
  | unmatched hresolve => exact absurd hresolve (resolve_ne_none h _)
  | offered hresolve houtcome =>
      rw [GlobalCounters.unmatched_record houtcome]
  | reset => exact Nat.zero_le _

end Effects

variable (env : Collaborators W)

theorem quiet_run {d : Dispatcher f} (h : d.Quiet) (turns : List (Turn f W)) :
    (d.run env turns).Quiet := by
  induction turns generalizing d with
  | nil => exact h
  | cons t turns ih => exact ih (h.effect (effect env d t))

/-- After a run the default route is still the same, and no more frames are counted as unmatched. -/
theorem fallback_run {d : Dispatcher f} {e : Endpoint} (h : d.registry.fallback = some e)
    (turns : List (Turn f W)) :
    (∃ e', (d.run env turns).registry.fallback = some e' ∧ e'.route = e.route) ∧
      (d.run env turns).totals.unmatched.val ≤ d.totals.unmatched.val := by
  induction turns generalizing d e with
  | nil => exact ⟨⟨e, h, rfl⟩, Nat.le_refl _⟩
  | cons t turns ih =>
      obtain ⟨e₁, h₁, hroute₁⟩ := (effect env d t).fallback_kept h
      obtain ⟨⟨e₂, h₂, hroute₂⟩, hle⟩ := ih h₁
      exact ⟨⟨e₂, h₂, hroute₂.trans hroute₁⟩, hle.trans ((effect env d t).unmatched_le h)⟩

/-- A frame that goes to a listener goes on to do so. -/
theorem resolve_listener_run {d : Dispatcher f} {frame : Bytes} {i : ℕ} {e : Endpoint}
    (h : d.resolve frame = some (.listener i, e)) (turns : List (Turn f W)) :
    ∃ e', (d.run env turns).resolve frame = some (.listener i, e') ∧ e'.route = e.route := by
  have htable := table_run env d turns
  cases Registry.resolve_eq_iff.mp h with
  | @listener _ l hhere hid hfirst =>
      obtain ⟨l', hl', hsame, hroute⟩ := Registry.listener_of_extension htable hhere
      have hi := Registry.lt_length_table hhere
      refine ⟨l'.endpoint, ?_, hroute⟩
      rw [resolve, offset_run]
      refine Registry.resolve_eq_iff.mpr (.listener hl' (hsame ▸ hid) ?_)
      rwa [htable, List.take_append_of_le_length hi.le]

/-- A frame that goes to the default route goes on to do so, unless a listener for its identifier was
registered meanwhile. -/
theorem resolve_fallback_run {d : Dispatcher f} {frame : Bytes} {e : Endpoint}
    (h : d.resolve frame = some (.fallback, e)) (turns : List (Turn f W)) :
    let d' := d.run env turns
    (∃ e', d'.resolve frame = some (.fallback, e') ∧ e'.route = e.route) ∨
      ∃ i l, d'.resolve frame = some (.listener i, l.endpoint) ∧
        d'.registry.listeners[i]? = some l ∧ d.registry.listeners.length ≤ i ∧
        f.readAt frame d.offset = some l.id := by
  intro d'
  have htable := table_run env d turns
  have hway : d'.registry.Resolved (f.readAt frame d.offset) (d'.resolve frame) := by
    rw [resolve, offset_run]
    exact Registry.resolved _ _
  cases Registry.resolve_eq_iff.mp h with
  | fallback hnone hdefault =>
      obtain ⟨⟨e', he', hroute⟩, -⟩ := fallback_run env hdefault turns
      generalize d'.resolve frame = found at hway ⊢
      cases hway with
      | unmatched hnone' hdefault' => cases he'.symm.trans hdefault'
      | @fallback e'' hnone' hdefault' =>
          cases he'.symm.trans hdefault'
          exact Or.inl ⟨e', rfl, hroute⟩
      | @listener i l hhere hid hfirst =>
          refine Or.inr ⟨i, l, rfl, hhere, ?_, hid⟩
          -- A listener that was there before would have taken the frame then.
          by_contra hold
          have hthere := List.getElem?_eq_getElem (Nat.lt_of_not_le hold)
          obtain ⟨l', hl', hsame, -⟩ := Registry.listener_of_extension htable hthere
          cases hhere.symm.trans hl'
          exact hnone _ (Registry.mem_table hthere) (hsame ▸ hid)

/-- Nothing was counted on any route of a dispatcher without routes. -/
theorem quiet_new (capacity offset : ℕ) : (Dispatcher.new capacity offset : Dispatcher f).Quiet := by
  intro i e hshadowed he
  cases he

/-- **Routes are stable.**  Let a new dispatcher run to some point, and then on.  A frame that went to a
listener then goes to the same listener now, which has the same route.  A frame that went to the default
route still does, or else goes to a listener for its identifier that was registered meanwhile.  A
listener that was registered after another one for the same identifier gets no frame, and nothing is
counted on it.  With a default route no frame is unmatched, and their number does not grow. -/
theorem routes_are_stable (capacity offset : ℕ) (before after : List (Turn f W)) :
    let s := (Dispatcher.new capacity offset : Dispatcher f).run env before
    let t := s.run env after
    (∀ frame i e, s.resolve frame = some (.listener i, e) →
      ∃ e', t.resolve frame = some (.listener i, e') ∧ e'.route = e.route) ∧
    (∀ frame e, s.resolve frame = some (.fallback, e) →
      (∃ e', t.resolve frame = some (.fallback, e') ∧ e'.route = e.route) ∨
        ∃ i l, t.resolve frame = some (.listener i, l.endpoint) ∧
          t.registry.listeners[i]? = some l ∧ s.registry.listeners.length ≤ i ∧
          f.readAt frame offset = some l.id) ∧
    (∀ i j first second, i < j → s.registry.listeners[i]? = some first →
      s.registry.listeners[j]? = some second → first.id = second.id →
      (∀ frame e, t.resolve frame ≠ some (.listener j, e)) ∧
        ∃ l, t.registry.listeners[j]? = some l ∧ l.id = second.id ∧ l.endpoint.counters = 0) ∧
    (∀ e, s.registry.fallback = some e →
      (∀ frame reported w, (t.handle env frame reported w).1.outcome ≠ .unmatched) ∧
        t.totals.unmatched.val ≤ s.totals.unmatched.val) := by
  intro s t
  have htable : t.registry.table = s.registry.table ++ s.admissions env after :=
    table_run env s after
  have hquiet : t.Quiet := quiet_run env (quiet_run env (quiet_new capacity offset) before) after
  have hoffset : s.offset = offset := offset_run env _ before
  refine ⟨fun frame i e h => resolve_listener_run env h after, fun frame e h => ?_, ?_, ?_⟩
  · rw [← hoffset]
    exact resolve_fallback_run env h after
  · intro i j first second hij hfirst hsecond hsame
    obtain ⟨first', hfirst', hid, -⟩ := Registry.listener_of_extension htable hfirst
    obtain ⟨second', hsecond', hid', -⟩ := Registry.listener_of_extension htable hsecond
    have hshadowed : t.registry.Shadowed j :=
      Registry.shadowed_of_listeners hij hfirst' hsecond' (hid.trans (hsame.trans hid'.symm))
    have hendpoint : t.registry.endpoint? (.listener j) = some second'.endpoint := by
      simp only [Registry.endpoint?, hsecond', Option.map_some]
    exact ⟨fun frame e => hshadowed.not_resolved _ e,
      second', hsecond', hid', hquiet j _ hshadowed hendpoint⟩
  · intro e hdefault
    obtain ⟨⟨e', hdefault', -⟩, hle⟩ := fallback_run env hdefault after
    refine ⟨fun frame reported w => ?_, hle⟩
    rw [ne_eq, outcome_eq_unmatched_iff]
    exact resolve_ne_none hdefault' frame

/-- A default route, and two listeners for the identifier 7. -/
def rivals : List (Turn (.integer .unsigned 1) Unit) :=
  [⟨.setDefault ⟨some 0, some 0, false⟩, ()⟩,
    ⟨.addRoute 7#8 ⟨some 1, some 1, true⟩, ()⟩,
    ⟨.addRoute 7#8 ⟨some 2, some 2, false⟩, ()⟩]

/-- A listener for the identifier 9 comes late, after a frame for it and before another. -/
def latecomer : List (Turn (.integer .unsigned 1) Unit) :=
  [⟨.handle [9] 1, ()⟩, ⟨.addRoute 9#8 ⟨some 3, some 3, false⟩, ()⟩, ⟨.handle [9] 1, ()⟩,
    ⟨.handle [7] 1, ()⟩]

/-- The frame for 7 stays with the first listener, and the one for 9 leaves the default route for the
latecomer. -/
theorem routes_are_stable_for_latecomer :
    let s := (Dispatcher.new 3 : Dispatcher (.integer .unsigned 1)).run barren rivals
    let t := s.run barren latecomer
    (∃ e', t.resolve [7] = some (.listener 0, e') ∧ e'.route = ⟨1, 1, true⟩) ∧
      (∃ i e, t.resolve [9] = some (.listener i, e) ∧ 2 ≤ i) ∧
      (∀ frame e, t.resolve frame ≠ some (.listener 1, e)) ∧
      ∀ frame reported w, (t.handle barren frame reported w).1.outcome ≠ .unmatched := by
  intro s t
  obtain ⟨hlistener, hfallback, hshadowed, hdefault⟩ :=
    routes_are_stable barren 3 0 rivals latecomer
  have hfirst : s.registry.listeners[0]? = some ⟨7#8, ⟨⟨1, 1, true⟩, 0⟩⟩ := rfl
  have hsecond : s.registry.listeners[1]? = some ⟨7#8, ⟨⟨2, 2, false⟩, 0⟩⟩ := rfl
  have hinstalled : s.registry.fallback = some ⟨⟨0, 0, false⟩, 0⟩ := by decide
  have hlanded : s.resolve [7] = some (.listener 0, ⟨⟨1, 1, true⟩, 0⟩) := by decide
  refine ⟨hlistener [7] 0 _ hlanded, ?_,
    (hshadowed 0 1 _ _ (by decide) hfirst hsecond rfl).1, (hdefault _ hinstalled).1⟩
  rcases hfallback [9] ⟨⟨0, 0, false⟩, 0⟩ (by decide) with ⟨e', he', -⟩ | ⟨i, l, hl, -, hi, -⟩
  · have htaken : t.resolve [9] ≠ some (.fallback, e') := by
      intro h
      have hslot : (t.resolve [9]).map (·.1) = some (.listener 2) := by decide
      rw [h] at hslot
      cases hslot
    exact absurd he' htaken
  · exact ⟨i, l.endpoint, hl, hi⟩

end Dispatcher

end Demux
