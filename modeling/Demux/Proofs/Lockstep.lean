import Mathlib
import Demux.Proofs.Captures
import Demux.Proofs.Offer

/-!
# In lockstep

Two runs that start alike and get the same answers take the same way.  What the same answers are
depends on how closely buffers are looked at: `look` may show all of a buffer or only, say, its size.

An offer to a route is followed through two worlds in which its pool and its queue answer alike
(`Route.Matched`), and a receive loop through two sinks that do the same with frames that match
(`Sink.Matches`), for two workers whose captured frames match one by one (`Worker.Matches`).
-/

namespace Demux

variable {V W : Type}

/-- A route finds the same in two worlds, as far as buffers are looked at. -/
structure Route.Matched (r : Route) (look : Buffer → Buffer) (R : V → W → Prop)
    (a : Collaborators V) (b : Collaborators W) : Prop where
  acquire : ∀ {v w}, R v w → ∀ len,
    (a.acquire r.pool len v).1.map look = (b.acquire r.pool len w).1.map look ∧
      R (a.acquire r.pool len v).2 (b.acquire r.pool len w).2
  release : ∀ {v w x y}, R v w → look x = look y →
    R (a.release r.pool x v) (b.release r.pool y w)
  send : ∀ {v w x y}, R v w → look x = look y →
    (a.send r.queue x v).1.map look = (b.send r.queue y w).1.map look ∧
      R (a.send r.queue x v).2 (b.send r.queue y w).2

/-- Frames that fill buffers to the same effect, as far as buffers are looked at. -/
structure Bytes.FillAlike (look : Buffer → Buffer) (frame frame' : Bytes) : Prop where
  length : frame.length = frame'.length
  fill : ∀ {x y : Buffer}, look x = look y →
    (x.fill frame).map look = (y.fill frame').map look

section Offers

variable {look : Buffer → Buffer} {R : V → W → Prop} {a : Collaborators V} {b : Collaborators W}

/-- An offer comes to the same in two worlds in which the route finds the same. -/
theorem Route.offer_matched {r : Route} (h : r.Matched look R a b) {frame frame' : Bytes}
    (hframes : frame.FillAlike look frame') (reported : ℕ) {v : V} {w : W} (hvw : R v w) :
    (r.offer a frame reported v).1 = (r.offer b frame' reported w).1 ∧
      R (r.offer a frame reported v).2 (r.offer b frame' reported w).2 := by
  have hlength := hframes.length
  unfold offer
  by_cases hcut : r.dropPartial = true ∧ frame.length < reported
  · rw [if_pos hcut, if_pos (hlength ▸ hcut)]
    exact ⟨rfl, hvw⟩
  · rw [if_neg hcut, if_neg (hlength ▸ hcut)]
    -- Both sides get the same answer to each call, so they take the same way to the end.
    obtain ⟨hresult, hacquired⟩ := h.acquire hvw frame.length
    rw [← hlength]
    rcases ha : a.acquire r.pool frame.length v with ⟨e | x, v₁⟩ <;>
      rcases hb : b.acquire r.pool frame.length w with ⟨e' | y, w₁⟩ <;>
      simp only [ha, hb, Except.map, Except.error.injEq, Except.ok.injEq, reduceCtorEq]
        at hresult hacquired
    · subst hresult
      exact ⟨rfl, hacquired⟩
    · have hfilled := hframes.fill hresult
      rcases hx : x.fill frame with e | filled <;>
        rcases hy : y.fill frame' with e' | filled' <;>
        simp only [hx, hy, Except.map, Except.error.injEq, Except.ok.injEq, reduceCtorEq]
          at hfilled
      · subst hfilled
        simp only [hx, hy]
        exact ⟨trivial, h.release hacquired hresult⟩
      · obtain ⟨hrefused, hsent⟩ := h.send hacquired hfilled
        rcases ha' : a.send r.queue filled v₁ with ⟨_ | refused, v₂⟩ <;>
          rcases hb' : b.send r.queue filled' w₁ with ⟨_ | refused', w₂⟩ <;>
          simp only [ha', hb', Option.map, Option.some.injEq, reduceCtorEq] at hrefused hsent
        · simp only [hx, hy, ha', hb']
          exact ⟨trivial, hsent⟩
        · simp only [hx, hy, ha', hb']
          exact ⟨trivial, h.release hsent hrefused⟩

end Offers

/-- One sink does the same as another with frames that match, up to a relation of their states. -/
structure Sink.Matches {σ τ : Type} (F : Frame → Frame → Prop) (R : σ → τ → Prop) (a : Sink σ)
    (b : Sink τ) : Prop where
  accept : ∀ {x y : Frame} {s t}, F x y → R s t →
    (a.accept x.bytes x.reported s).1 = (b.accept y.bytes y.reported t).1 ∧
      R (a.accept x.bytes x.reported s).2 (b.accept y.bytes y.reported t).2
  note : ∀ {s t}, R s t → ∀ event, R (a.note event s) (b.note event t)

/-- Two receive calls come to the same, but perhaps to frames with other bytes. -/
inductive Reception.Matches : Reception → Reception → Prop
  | frame (data data' : Bytes) (reported reported' : ℕ) :
      Matches (.frame data reported) (.frame data' reported')
  | silence : Matches .silence .silence
  | failure (error : DispatchError) : Matches (.failure error) (.failure error)

/-- Two receive calls match, and the loop is told to stop during both or neither. -/
structure Arrival.Matches (x y : Arrival) : Prop where
  reception : x.reception.Matches y.reception
  stop : x.stop = y.stop

/-- Two workers are set up alike, their receive calls match, and so do the frames that they
capture. -/
structure Worker.Matches (F : Frame → Frame → Prop) (w v : Worker) : Prop where
  timeout : w.timeout = v.timeout
  budget : w.budget = v.budget
  heartbeat : w.heartbeat = v.heartbeat
  limit : w.buffer.length = v.buffer.length
  script : List.Forall₂ Arrival.Matches w.script v.script
  captured : List.Forall₂ F (capture w.buffer (framesOf w.script))
    (capture v.buffer (framesOf v.script))

namespace Worker

variable {σ τ : Type} {F : Frame → Frame → Prop} {R : σ → τ → Prop} {a : Sink σ} {b : Sink τ}

theorem Matches.signals {w v : Worker} (h : w.Matches F v) : w.signals = v.signals := by
  simp only [Worker.signals, window, h.timeout, h.budget, h.heartbeat]

/-- A worker matches itself if every frame matches itself. -/
theorem matches_self (hF : ∀ x, F x x) (w : Worker) : w.Matches F w where
  timeout := rfl
  budget := rfl
  heartbeat := rfl
  limit := rfl
  script := by
    apply List.forall₂_same.mpr
    intro x hx
    refine ⟨?_, rfl⟩
    cases x.reception with
    | frame data reported => exact .frame data data reported reported
    | silence => exact .silence
    | failure error => exact .failure error
  captured := List.forall₂_same.mpr fun x _ => hF x

/-- Matching receive calls are dealt with alike, and what is captured after them still matches. -/
theorem deal_matches (h : Sink.Matches F R a b) {x y : Arrival} (hxy : x.Matches y)
    {script script' : List Arrival} {buffer buffer' : Bytes}
    (hcaptured : List.Forall₂ F (capture buffer (framesOf (x :: script)))
      (capture buffer' (framesOf (y :: script')))) {s : σ} {t : τ} (hst : R s t) :
    (deal a buffer s x.reception).1 = (deal b buffer' t y.reception).1 ∧
      R (deal a buffer s x.reception).2.2 (deal b buffer' t y.reception).2.2 ∧
      List.Forall₂ F (capture (deal a buffer s x.reception).2.1 (framesOf script))
        (capture (deal b buffer' t y.reception).2.1 (framesOf script')) := by
  rcases x with ⟨reception, stop⟩
  rcases y with ⟨reception', stop'⟩
  cases hxy.reception with
  | frame data data' reported reported' =>
      cases hcaptured with
      | cons hhead htail =>
          obtain ⟨houtcome, hafter⟩ := h.accept hhead hst
          exact ⟨congrArg (fun o => Except.ok (some o)) houtcome, hafter, htail⟩
  | silence => exact ⟨rfl, hst, hcaptured⟩
  | failure error => exact ⟨rfl, hst, hcaptured⟩

theorem length_deal (sink : Sink σ) (buffer : Bytes) (s : σ) (reception : Reception) :
    (deal sink buffer s reception).2.1.length = buffer.length := by
  cases reception with
  | frame data reported => exact Bytes.length_overlay data buffer
  | silence => rfl
  | failure error => rfl

/-- Two workers that match are polled alike, and match afterwards. -/
theorem poll_matches (h : Sink.Matches F R a b) {w v : Worker} (hwv : w.Matches F v) {s : σ}
    {t : τ} (hst : R s t) :
    (w.poll a s).1 = (v.poll b t).1 ∧ (w.poll a s).2.1.Matches F (v.poll b t).2.1 ∧
      R (w.poll a s).2.2 (v.poll b t).2.2 := by
  obtain ⟨htimeout, hbudget, hheartbeat, hlimit, hscript, hcaptured⟩ := hwv
  rcases w with ⟨buffer, script, timeout, budget, heartbeat⟩
  rcases v with ⟨buffer', script', timeout', budget', heartbeat'⟩
  cases hscript with
  | nil =>
      exact ⟨rfl, ⟨htimeout, hbudget, hheartbeat, hlimit, .nil, hcaptured⟩, hst⟩
  | @cons x y script script' hxy hrest =>
      obtain ⟨hresult, hafter, hlater⟩ := deal_matches h hxy hcaptured hst
      refine ⟨hresult, ⟨htimeout, hbudget, hheartbeat, ?_, hrest, hlater⟩, hafter⟩
      exact (length_deal a buffer s x.reception).trans
        (hlimit.trans (length_deal b buffer' t y.reception).symm)

/-- Reporting a frame that was not delivered keeps the states related. -/
theorem report_matches (h : Sink.Matches F R a b) (outcome : Option Outcome) (frames : ℕ) {s : σ}
    {t : τ} (hst : R s t) :
    R (match outcome with
        | some o => if o.isDelivered then s else a.note (.notDelivered o frames) s
        | none => s)
      (match outcome with
        | some o => if o.isDelivered then t else b.note (.notDelivered o frames) t
        | none => t) := by
  cases outcome with
  | none => exact hst
  | some o =>
      by_cases hdelivered : o.isDelivered = true
      · simp only [hdelivered, if_true]
        exact hst
      · simp only [hdelivered, Bool.false_eq_true, if_false]
        exact h.note hst _

/-- A receive loop comes to the same on two sinks that do the same. -/
theorem loop_matches (h : Sink.Matches F R a b) (signals : List Signal)
    {script script' : List Arrival} (hscript : List.Forall₂ Arrival.Matches script script')
    {buffer buffer' : Bytes}
    (hcaptured : List.Forall₂ F (capture buffer (framesOf script))
      (capture buffer' (framesOf script'))) (frames : ℕ) {s : σ} {t : τ} (hst : R s t) :
    (loop a signals script buffer frames s).result =
        (loop b signals script' buffer' frames t).result ∧
      (loop a signals script buffer frames s).signals =
        (loop b signals script' buffer' frames t).signals ∧
      R (loop a signals script buffer frames s).state
        (loop b signals script' buffer' frames t).state := by
  induction hscript generalizing buffer buffer' frames s t with
  | nil => exact ⟨rfl, rfl, h.note hst _⟩
  | @cons x y script script' hxy hrest ih =>
      have hstop := hxy.stop
      obtain ⟨hresult, hafter, hlater⟩ := deal_matches h hxy hcaptured hst
      rcases ha : deal a buffer s x.reception with ⟨result, rest, s'⟩
      rcases hb : deal b buffer' t y.reception with ⟨result', rest', t'⟩
      rw [ha, hb] at hresult hafter hlater
      dsimp only at hresult hafter hlater
      subst hresult
      cases result with
      | error error =>
          simp only [loop, ha, hb]
          exact ⟨trivial, trivial, h.note hafter _⟩
      | ok outcome =>
          have hreported := report_matches h outcome
            (frames + (if outcome.isSome then 1 else 0)) hafter
          simp only [loop, ha, hb, ← hstop]
          by_cases hlast : x.stop = true
          · simp only [hlast, if_true]
            exact ⟨trivial, trivial, h.note hreported _⟩
          · simp only [hlast, Bool.false_eq_true, if_false]
            obtain ⟨hr, hs, hstate⟩ := ih hlater
              (frames + (if outcome.isSome then 1 else 0)) hreported
            exact ⟨hr, congrArg (signals ++ ·) hs, hstate⟩

theorem run_matches (h : Sink.Matches F R a b) {w v : Worker} (hwv : w.Matches F v)
    (stopped : Bool) {s : σ} {t : τ} (hst : R s t) :
    (w.run a stopped s).result = (v.run b stopped t).result ∧
      (w.run a stopped s).signals = (v.run b stopped t).signals ∧
      R (w.run a stopped s).state (v.run b stopped t).state := by
  have hstarted := h.note hst (.started w.frameLimit w.timeout.wordMillis w.heartbeat)
  have hsame : LoopEvent.started v.frameLimit v.timeout.wordMillis v.heartbeat =
      .started w.frameLimit w.timeout.wordMillis w.heartbeat := by
    simp only [frameLimit, hwv.limit, hwv.timeout, hwv.heartbeat]
  unfold run
  rw [hsame, ← hwv.signals]
  cases stopped with
  | true => exact ⟨rfl, rfl, h.note hstarted _⟩
  | false => exact loop_matches h w.signals hwv.script hwv.captured 0 hstarted

end Worker

end Demux
