import Mathlib
import Demux.Proofs.Planes
import Demux.Proofs.Sessions

/-!
# Blocks are conserved

A dispatch that does not deliver its frame gives back the block it took, and a pool with a free place
keeps every block of its own size.  So as long as consumers give back no more blocks than they got,
and each of the right size, the free blocks of a pool are those it was made with, less the ones that
went out with delivered frames and direct requests, plus the ones that came back (`Conserved`).
-/

namespace Demux

variable {f : Format}

namespace Station.Deed

/-- Whether a frame went out in a block of a pool. -/
def delivers (pool : PoolRef) : Deed → Bool
  | .dispatched _ (some r) outcome => r.pool = pool ∧ outcome = .delivered
  | _ => false

/-- Whether a consumer got a block of a pool. -/
def takes (pool : PoolRef) : Deed → Bool
  | .acquired source (.ok _) => source = pool
  | _ => false

/-- Whether a consumer gave a block to a pool. -/
def returns (pool : PoolRef) : Deed → Bool
  | .released target _ => target = pool
  | _ => false

/-- Whether a block that a consumer gave to a pool is of the given size. -/
def fits (pool : PoolRef) (size : Nat) : Deed → Bool
  | .released target b => target = pool → b.capacity = size
  | _ => true

/-- Whether blocks may have been released into a pool, by a dispatch or by a consumer. -/
def mayRelease (pool : PoolRef) : Deed → Bool
  | .dispatched _ (some r) _ => r.pool = pool
  | .released target _ => target = pool
  | _ => false

end Station.Deed

namespace BlockPool

/-- A pool that was made with so many blocks of one size holds `n` of them. -/
structure Holds (bp : BlockPool) (blocks size n : Nat) : Prop where
  made : bp.blocks = blocks
  shape : bp.blockSize = size
  sized : ∀ block ∈ bp.free, block.length = size
  count : bp.available = n

variable {bp bp' : BlockPool} {blocks size n len : Nat} {b : Buffer}

theorem holds_new (blocks size : Nat) : (BlockPool.new blocks size).Holds blocks size blocks := by
  rw [new_eq]
  refine ⟨rfl, rfl, ?_, List.length_replicate⟩
  intro block hblock
  rw [List.eq_of_mem_replicate hblock, List.length_replicate]

/-- A buffer that a pool hands out is one of its blocks. -/
theorem Holds.acquire_ok (h : bp.Holds blocks size n) (hacquire : bp.acquire len = (.ok b, bp')) :
    ∃ k, n = k + 1 ∧ b.capacity = size ∧ bp'.Holds blocks size k := by
  unfold acquire at hacquire
  split at hacquire
  · cases hacquire
  · cases hfree : bp.free with
    | nil => simp only [hfree, Prod.mk.injEq, reduceCtorEq, false_and] at hacquire
    | cons block free =>
        simp only [hfree, Prod.mk.injEq, Except.ok.injEq] at hacquire
        obtain ⟨rfl, rfl⟩ := hacquire
        have hcount : n = free.length + 1 := by
          rw [← h.count, available, hfree, List.length_cons]
        have hsized := h.sized
        rw [hfree, List.forall_mem_cons] at hsized
        exact ⟨free.length, hcount, hsized.1, h.made, h.shape, hsized.2, rfl⟩

theorem Holds.acquire_error {e : PoolError} (h : bp.Holds blocks size n)
    (hacquire : bp.acquire len = (.error e, bp')) : bp'.Holds blocks size n := by
  unfold acquire at hacquire
  split at hacquire
  · cases hacquire
    exact h
  · cases hfree : bp.free with
    | nil =>
        simp only [hfree, Prod.mk.injEq] at hacquire
        obtain ⟨-, rfl⟩ := hacquire
        have hsized := h.sized
        have hcount := h.count
        rw [hfree] at hsized
        rw [available, hfree] at hcount
        exact ⟨h.made, h.shape, hsized, hcount⟩
    | cons block free =>
        simp only [hfree, Prod.mk.injEq, reduceCtorEq, false_and] at hacquire

/-- A block of the right size is kept while another one is missing. -/
theorem Holds.release (h : bp.Holds blocks size n) (hroom : n < blocks)
    (hsize : b.capacity = size) :
    (bp.release b).1 = none ∧ (bp.release b).2.Holds blocks size (n + 1) := by
  have hplace : bp.available < bp.blocks := by
    rw [h.made, h.count]
    exact hroom
  rw [release_kept (hsize.trans h.shape.symm) hplace]
  refine ⟨rfl, h.made, h.shape, ?_, ?_⟩
  · intro block hblock
    rcases List.mem_append.mp hblock with hfree | hback
    · exact h.sized block hfree
    · rw [List.mem_singleton.mp hback]
      exact hsize
  · rw [available, List.length_append, List.length_singleton]
    exact congrArg (· + 1) h.count

end BlockPool

namespace DataPlane

open Station (Deed)

/-- A pool that was made with so many blocks of one size holds `n` of them. -/
def Stocks (p : DataPlane) (pool : PoolRef) (blocks size n : Nat) : Prop :=
  ∃ bp, p.blockPool? pool = some bp ∧ bp.Holds blocks size n

variable {p : DataPlane} {pool : PoolRef} {blocks size n : Nat}

theorem Stocks.congr {p' : DataPlane} (h : p.Stocks pool blocks size n)
    (hsame : p'.blockPool? pool = p.blockPool? pool) : p'.Stocks pool blocks size n := by
  obtain ⟨bp, hpool, hholds⟩ := h
  exact ⟨bp, hsame.trans hpool, hholds⟩

theorem blockPool?_congr {p' : DataPlane} (h : p'.pools = p.pools) :
    p'.blockPool? pool = p.blockPool? pool := by
  rw [blockPool?, blockPool?, h]

theorem Stocks.acquire_ok (h : p.Stocks pool blocks size n) {view : Option Stats} {len : Nat}
    {b : Buffer} {w : DataPlane} (hacquire : p.acquire view pool len = (.ok b, w)) :
    ∃ k, n = k + 1 ∧ b.capacity = size ∧ w.Stocks pool blocks size k := by
  obtain ⟨bp, hpool, hholds⟩ := h
  obtain ⟨bp', hbp, hafter⟩ := acquire_blocks hpool hacquire
  obtain ⟨k, hn, hsize, hk⟩ := hholds.acquire_ok hbp
  exact ⟨k, hn, hsize, bp', hafter, hk⟩

theorem Stocks.acquire_error (h : p.Stocks pool blocks size n) {view : Option Stats} {len : Nat}
    {e : PoolError} {w : DataPlane} (hacquire : p.acquire view pool len = (.error e, w)) :
    w.Stocks pool blocks size n := by
  obtain ⟨bp, hpool, hholds⟩ := h
  obtain ⟨bp', hbp, hafter⟩ := acquire_blocks hpool hacquire
  exact ⟨bp', hafter, hholds.acquire_error hbp⟩

theorem Stocks.release (h : p.Stocks pool blocks size n) (hroom : n < blocks) {b : Buffer}
    (hsize : b.capacity = size) (view : Option Stats) :
    (p.release view pool b).Stocks pool blocks size (n + 1) ∧
      (p.release view pool b).discards = p.discards := by
  obtain ⟨bp, hpool, hholds⟩ := h
  obtain ⟨hkept, hafter⟩ := hholds.release hroom hsize
  obtain ⟨hnext, hdiscards⟩ := release_blocks hpool view b
  rw [hkept] at hdiscards
  exact ⟨⟨_, hnext, hafter⟩, hdiscards⟩

/-- An offer takes a block out of the pool of its route if the frame is delivered.  Otherwise as many
blocks are in the pool afterwards as before, and the pool kept what it got back. -/
theorem Stocks.offered {r : Route} (h : p.Stocks r.pool blocks size n) (hlimit : n ≤ blocks)
    {frame : Bytes} {reported : Nat} {verdict : Verdict} {w : DataPlane}
    (hoffered : Offered (collaborators none) r frame reported p verdict w) :
    ∃ k, w.Stocks r.pool blocks size k ∧
      k + (if verdict.outcome = .delivered then 1 else 0) = n ∧ w.discards = p.discards := by
  cases hoffered with
  | truncated hdiscard hcut => exact ⟨n, h, rfl, rfl⟩
  | refused hwhole hacquire =>
      change p.acquire none r.pool frame.length = (_, w) at hacquire
      refine ⟨n, h.acquire_error hacquire, ?_, discards_of_acquire hacquire⟩
      split <;> rfl
  | @short b w₁ hwhole hacquire hshort =>
      change p.acquire none r.pool frame.length = (_, w₁) at hacquire
      -- The block that was taken is missing, so there is a place for it.
      obtain ⟨k, rfl, hsize, hk⟩ := h.acquire_ok hacquire
      obtain ⟨hback, hkept⟩ := hk.release hlimit hsize none
      exact ⟨k + 1, hback, rfl, hkept.trans (discards_of_acquire hacquire)⟩
  | @delivered b filled w₁ w₂ hwhole hacquire hfill hsend =>
      change p.acquire none r.pool frame.length = (_, w₁) at hacquire
      change w₁.send r.queue filled = (none, w) at hsend
      obtain ⟨k, rfl, -, hk⟩ := h.acquire_ok hacquire
      exact ⟨k, hk.congr (blockPool?_congr (pools_of_send hsend)), rfl,
        (discards_of_send hsend).trans (discards_of_acquire hacquire)⟩
  | @queueFull b filled refused w₁ w₂ hwhole hacquire hfill hsend =>
      change p.acquire none r.pool frame.length = (_, w₁) at hacquire
      change w₁.send r.queue filled = (some refused, w₂) at hsend
      -- The queue hands back the very buffer, and filling it did not change its size.
      obtain ⟨k, rfl, hsize, hk⟩ := h.acquire_ok hacquire
      obtain ⟨-, -, hcapacity⟩ := Buffer.fill_ok hfill
      have hsent := hk.congr (blockPool?_congr (pools_of_send hsend))
      rw [send_refused hsend]
      obtain ⟨hback, hkept⟩ := hsent.release hlimit (hcapacity.trans hsize) none
      exact ⟨k + 1, hback, rfl,
        hkept.trans ((discards_of_send hsend).trans (discards_of_acquire hacquire))⟩

/-- An offer is no matter of a pool that its route does not draw from. -/
theorem offered_elsewhere {r : Route} (hne : r.pool ≠ pool) {frame : Bytes} {reported : Nat}
    {verdict : Verdict} {w : DataPlane}
    (hoffered : Offered (collaborators none) r frame reported p verdict w) :
    w.blockPool? pool = p.blockPool? pool := by
  refine hoffered.keeps (motive := fun w => w.blockPool? pool = p.blockPool? pool) ?_ ?_ ?_ rfl
  · intro len w hw
    exact (acquire_elsewhere hne none len w).trans hw
  · intro b w hw
    exact (release_elsewhere hne none b w).trans hw
  · intro b w hw
    exact (blockPool?_congr (pools_send r.queue b w)).trans hw

/-- What a move does to a pool: what went out and what is left is what was there and what came back,
and nothing that is released into the pool is discarded. -/
theorem Stocks.moved (h : p.Stocks pool blocks size n) (hlimit : n ≤ blocks) {deed : Deed}
    {p' : DataPlane} (hmoved : Station.Moved p deed p')
    (hreturn : ∀ b, deed = .released pool b → b.capacity = size ∧ n < blocks) :
    ∃ k, p'.Stocks pool blocks size k ∧
      k + [deed].countP (·.delivers pool) + [deed].countP (·.takes pool) =
        n + [deed].countP (·.returns pool) ∧
      (deed.mayRelease pool = true → p'.discards = p.discards) := by
  cases hmoved with
  | idle => exact ⟨n, h, rfl, Bool.noConfusion⟩
  | reported event => exact ⟨n, h.congr rfl, rfl, Bool.noConfusion⟩
  | unmatched frame event => exact ⟨n, h.congr rfl, rfl, Bool.noConfusion⟩
  | @offered r frame reported verdict w hoffered event =>
      by_cases hpool : r.pool = pool
      · subst hpool
        obtain ⟨k, hk, hcount, hkept⟩ := h.offered hlimit hoffered
        refine ⟨k, hk.congr rfl, ?_, fun _ => hkept⟩
        simpa [Deed.delivers, Deed.takes, Deed.returns] using hcount
      · have hsame : w.blockPool? pool = p.blockPool? pool := offered_elsewhere hpool hoffered
        refine ⟨n, h.congr hsame, ?_, ?_⟩
        · simp [Deed.delivers, Deed.takes, Deed.returns, hpool]
        · simp [Deed.mayRelease, hpool]
  | acquired view source len =>
      by_cases hpool : source = pool
      · subst hpool
        rcases hacquire : p.acquire view source len with ⟨e | b, w⟩
        · exact ⟨n, h.acquire_error hacquire, rfl, Bool.noConfusion⟩
        · obtain ⟨k, rfl, -, hk⟩ := h.acquire_ok hacquire
          refine ⟨k, hk, ?_, Bool.noConfusion⟩
          simp [Deed.delivers, Deed.takes, Deed.returns]
      · refine ⟨n, h.congr (acquire_elsewhere hpool view len p), ?_, Bool.noConfusion⟩
        cases (p.acquire view source len).1 <;>
          simp [Deed.delivers, Deed.takes, Deed.returns, hpool]
  | released view target b =>
      by_cases hpool : target = pool
      · subst hpool
        obtain ⟨hsize, hroom⟩ := hreturn b rfl
        obtain ⟨hback, hkept⟩ := h.release hroom hsize view
        refine ⟨n + 1, hback, ?_, fun _ => hkept⟩
        simp [Deed.delivers, Deed.takes, Deed.returns]
      · refine ⟨n, h.congr (release_elsewhere hpool view b p), ?_, ?_⟩
        · simp [Deed.delivers, Deed.takes, Deed.returns, hpool]
        · simp [Deed.mayRelease, hpool]
  | sent queue b => exact ⟨n, h.congr (blockPool?_congr (pools_send queue b p)), rfl, Bool.noConfusion⟩
  | received queue => exact ⟨n, h.congr (blockPool?_congr (pools_receive queue p)), rfl, Bool.noConfusion⟩

end DataPlane

namespace Station

/-- The consumers of a pool give back blocks of its size only, and never more than they got. -/
structure Fair (pool : PoolRef) (size : Nat) (deeds : List Deed) : Prop where
  sized : ∀ deed ∈ deeds, deed.fits pool size = true
  limited : ∀ past, past <+: deeds → past.countP (·.returns pool) ≤
    past.countP (·.delivers pool) + past.countP (·.takes pool)

instance (pool : PoolRef) (size : Nat) (deeds : List Deed) : Decidable (Fair pool size deeds) :=
  decidable_of_iff
    ((∀ deed ∈ deeds, deed.fits pool size = true) ∧
      ∀ past ∈ deeds.inits, past.countP (·.returns pool) ≤
        past.countP (·.delivers pool) + past.countP (·.takes pool))
    ⟨fun h => ⟨h.1, fun past hpast => h.2 past ((List.mem_inits past deeds).mpr hpast)⟩,
      fun h => ⟨h.sized, fun past hpast => h.limited past ((List.mem_inits past deeds).mp hpast)⟩⟩

theorem Fair.before {pool : PoolRef} {size : Nat} {past deeds : List Deed}
    (h : Fair pool size deeds) (hpast : past <+: deeds) : Fair pool size past where
  sized deed hdeed := h.sized deed (hpast.mem hdeed)
  limited before hbefore := h.limited before (hbefore.trans hpast)

/-- A pool that was made with so many blocks of one size holds all of them, less those that went out
and plus those that came back. -/
def Conserved (pool : PoolRef) (blocks size : Nat) (deeds : List Deed) (p : DataPlane) : Prop :=
  ∃ n, p.Stocks pool blocks size n ∧
    n + deeds.countP (·.delivers pool) + deeds.countP (·.takes pool) =
      blocks + deeds.countP (·.returns pool)

/-- A move conserves the blocks if the consumers stay fair, and then no block that is released into
the pool is discarded. -/
theorem Conserved.moved {pool : PoolRef} {blocks size : Nat} {past : List Deed} {deed : Deed}
    {p p' : DataPlane} (h : Conserved pool blocks size past p) (hmoved : Moved p deed p')
    (hfair : Fair pool size (past ++ [deed])) :
    Conserved pool blocks size (past ++ [deed]) p' ∧
      (deed.mayRelease pool = true → p'.discards = p.discards) := by
  obtain ⟨n, hn, hcount⟩ := h
  have hpast := hfair.limited past (List.prefix_append _ _)
  have hreturn : ∀ b, deed = .released pool b → b.capacity = size ∧ n < blocks := by
    rintro b rfl
    have hnow := hfair.limited _ (List.prefix_refl _)
    have hback : [Deed.released pool b].countP (·.returns pool) = 1 := by simp [Deed.returns]
    have hout : [Deed.released pool b].countP (·.delivers pool) = 0 := rfl
    have htaken : [Deed.released pool b].countP (·.takes pool) = 0 := rfl
    simp only [List.countP_append, hback, hout, htaken] at hnow
    have hfits := hfair.sized _ (List.mem_append_right past List.mem_cons_self)
    simp only [Deed.fits, forall_const, decide_eq_true_eq] at hfits
    exact ⟨hfits, by omega⟩
  obtain ⟨k, hk, hbalance, hkept⟩ := hn.moved (by omega) hmoved hreturn
  refine ⟨⟨k, hk, ?_⟩, hkept⟩
  simp only [List.countP_append]
  omega

/-- As long as the consumers are fair, the blocks of a pool are conserved. -/
theorem conserved_play (st : Station f) {pool : PoolRef} {blocks size : Nat}
    (h : st.plane.Stocks pool blocks size blocks) (moves : List (Move f))
    (hfair : Fair pool size (st.deeds moves)) :
    Conserved pool blocks size (st.deeds moves) (st.play moves).plane := by
  refine play_induction (motive := fun past p => Fair pool size past →
    Conserved pool blocks size past p) st (fun _ => ⟨blocks, h, rfl⟩) ?_ moves hfair
  intro past p deed p' hmoved ih hnow
  have hpast := ih (hnow.before (List.prefix_append _ _))
  exact (hpast.moved hmoved hnow).1

/-- A dispatch that does not deliver leaves every pool as full as it was. -/
theorem stocks_handle (st : Station f) {pool : PoolRef} {blocks size n : Nat}
    (h : st.plane.Stocks pool blocks size n) (hlimit : n ≤ blocks) {frame : Bytes} {reported : Nat}
    (hlost : (st.handle frame reported).1 ≠ .delivered) :
    (st.handle frame reported).2.plane.Stocks pool blocks size n := by
  obtain ⟨k, hk, hcount, -⟩ :=
    h.moved hlimit (moved st (.act (.handle frame reported))) (fun b hb => by cases hb)
  have hout (target : Option Route) :
      [Deed.dispatched frame target (st.handle frame reported).1].countP (·.delivers pool) = 0 := by
    cases target with
    | none => rfl
    | some r => simp [Deed.delivers, hlost]
  simp only [deed, hout] at hcount
  have hsame : k = n := hcount
  rw [hsame] at hk
  exact hk

end Station

namespace Session

/-- **Blocks are conserved.**  Take a pool that is new at the start of a session and consumers who
give back blocks of its size, never more than they got.  After every move of a run the free blocks of
the pool are all of its blocks, less those that went out with delivered frames and those that
consumers took, plus those that they gave back.  The next move discards no block that is released
into the pool, and a dispatch that does not deliver leaves the number of free blocks as it is. -/
theorem blocks_are_conserved (dispatcher : Dispatcher f) (pools : List Pool) (queues : List Queue)
    {pool : PoolRef} {blocks size : Nat}
    (hnew : pools[pool]?.bind Pool.blockPool? = some (.new blocks size)) (ops : List (Op f))
    (hfair : Station.Fair pool size ((Session.new dispatcher pools queues).deeds ops)) :
    let start : Session f := .new dispatcher pools queues
    (start.run ops).2.station = start.station.play (start.allMoves ops) ∧
    ∀ past rest, start.allMoves ops = past ++ rest →
      let st := start.station.play past
      let deeds := start.station.deeds past
      ∃ bp, st.plane.blockPool? pool = some bp ∧ bp.blocks = blocks ∧
        (bp.available : ℤ) = blocks - deeds.countP (·.delivers pool) -
          deeds.countP (·.takes pool) + deeds.countP (·.returns pool) ∧
        (∀ m, rest.head? = some m → (st.deed m).mayRelease pool = true →
          (st.move m).plane.discards = st.plane.discards) ∧
        ∀ frame reported, (st.handle frame reported).1 ≠ .delivered →
          ∃ bp', (st.handle frame reported).2.plane.blockPool? pool = some bp' ∧
            bp'.available = bp.available := by
  intro start
  refine ⟨station_run start ops, ?_⟩
  intro past rest hmoves st deeds
  have hdeeds : start.deeds ops = deeds ++ st.deeds rest := by
    rw [Session.deeds, hmoves, Station.deeds_append]
  have hstart : start.station.plane.Stocks pool blocks size blocks := by
    refine ⟨.new blocks size, ?_, BlockPool.holds_new blocks size⟩
    rw [← hnew]
    simp only [start, new, Station.new, DataPlane.blockPool?, List.getElem?_map]
    cases pools[pool]? <;> rfl
  rw [hdeeds] at hfair
  have hpast := hfair.before (List.prefix_append _ _)
  have hconserved : Station.Conserved pool blocks size deeds st.plane :=
    start.station.conserved_play hstart past hpast
  have hnext : ∀ m, rest.head? = some m → (st.deed m).mayRelease pool = true →
      (st.move m).plane.discards = st.plane.discards := by
    intro m hm
    obtain ⟨later, rfl⟩ := List.head?_eq_some_iff.mp hm
    have hnow : deeds ++ [st.deed m] <+: deeds ++ st.deeds (m :: later) :=
      (List.prefix_append_right_inj deeds).mpr (List.prefix_append [st.deed m] _)
    exact (hconserved.moved (Station.moved st m) (hfair.before hnow)).2
  obtain ⟨n, ⟨bp, hbp, hholds⟩, hcount⟩ := hconserved
  have hlimited := hpast.limited _ (List.prefix_refl _)
  have hlimit : n ≤ blocks := by omega
  refine ⟨bp, hbp, hholds.made, ?_, hnext, ?_⟩
  · rw [hholds.count]
    omega
  · intro frame reported hlost
    obtain ⟨bp', hbp', hholds'⟩ := Station.stocks_handle st ⟨bp, hbp, hholds⟩ hlimit hlost
    exact ⟨bp', hbp', hholds'.count.trans hholds.count.symm⟩

/-- One frame is delivered and its block comes back, another one finds the queue full, and a consumer
takes a block and keeps it. -/
def borrowing : List (Op (.integer .unsigned 1)) :=
  [.act (.addRoute (7 : BitVec 8) ⟨some 0, some 0, false⟩),
    .act (.handle [7, 1] 2),
    .act (.handle [7] 1),
    .receive 0 (.release 0),
    .acquire 0 3 (some "own")]

theorem blocks_are_conserved_while_borrowing :
    let start : Session (.integer .unsigned 1) :=
      .new (.new 1) [.fixed (.new 2 3)] [.bounded (.new 1)]
    Station.Fair 0 3 (start.deeds borrowing) ∧
      ∃ bp, (start.run borrowing).2.station.plane.blockPool? 0 = some bp ∧
        (bp.available : ℤ) = 2 - 1 - 1 + 1 := by
  intro start
  have hfair : Station.Fair 0 3 (start.deeds borrowing) := by decide +kernel
  have hnew : [Pool.fixed (.new 2 3)][0]?.bind Pool.blockPool? = some (.new 2 3) := rfl
  obtain ⟨hend, hstates⟩ := blocks_are_conserved (.new 1) [.fixed (.new 2 3)] [.bounded (.new 1)]
    hnew borrowing hfair
  obtain ⟨bp, hbp, -, havailable, -⟩ := hstates (start.allMoves borrowing) [] (List.append_nil _).symm
  have hdelivered : (start.deeds borrowing).countP (·.delivers 0) = 1 := by decide +kernel
  have htaken : (start.deeds borrowing).countP (·.takes 0) = 1 := by decide +kernel
  have hreturned : (start.deeds borrowing).countP (·.returns 0) = 1 := by decide +kernel
  refine ⟨hfair, bp, hend ▸ hbp, ?_⟩
  rw [havailable]
  change (2 : ℤ) - ((start.deeds borrowing).countP (·.delivers 0) : ℤ) -
    (start.deeds borrowing).countP (·.takes 0) + (start.deeds borrowing).countP (·.returns 0) = _
  rw [hdelivered, htaken, hreturned]
  rfl

end Session

end Demux
