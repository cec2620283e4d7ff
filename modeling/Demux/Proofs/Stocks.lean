import Mathlib
import Demux.Proofs.Conservation
import Demux.Proofs.Journal

/-!
# Pools of blocks in anybody's hands

Whatever consumers do, honest or not, a pool of blocks keeps blocks of its own size only and never more
of them than it was made with (`DataPlane.Stocked`).  A buffer of another size is not kept, and neither
is one for which there is no room.

An offer to a route that draws from such a pool can end in five ways, and each of them says what is left
of the pool, byte for byte (`Drawn`).  A block is never too short for a frame, since only frames that fit
get one.
-/

namespace Demux

variable {f : Format}

namespace BlockPool

/-- What can come of a request for a block, with what is left of the pool. -/
inductive Acquired (bp : BlockPool) (len : ℕ) : Except PoolError Buffer → BlockPool → Prop
  /-- The request is longer than a block, whether or not one is free. -/
  | tooLarge (hlong : bp.blockSize < len) : Acquired bp len (.error (.tooLarge len bp.blockSize)) bp
  /-- No block is free. -/
  | exhausted (hfits : len ≤ bp.blockSize) (hempty : bp.free = []) :
      Acquired bp len (.error .exhausted) { bp with exhausted := bp.exhausted + 1 }
  /-- The next free block is handed out as it is. -/
  | taken {block : Bytes} {free : List Bytes} (hfits : len ≤ bp.blockSize)
      (hfree : bp.free = block :: free) :
      Acquired bp len (.ok (.ofBlock block)) { bp with free }

/-- Nothing else can come of it. -/
theorem acquired (bp : BlockPool) (len : ℕ) :
    Acquired bp len (bp.acquire len).1 (bp.acquire len).2 := by
  unfold acquire
  by_cases hlong : bp.blockSize < len
  · rw [if_pos hlong]
    exact .tooLarge hlong
  · rw [if_neg hlong]
    have hfits := Nat.le_of_not_lt hlong
    split
    · rename_i hempty
      exact .exhausted hfits hempty
    · rename_i block free hfree
      exact .taken hfits hfree

theorem acquired_of_eq {bp bp' : BlockPool} {len : ℕ} {result : Except PoolError Buffer}
    (h : bp.acquire len = (result, bp')) : Acquired bp len result bp' := by
  have hacquired := bp.acquired len
  rwa [h] at hacquired

variable {bp : BlockPool} {blocks size n : ℕ}

/-- Whatever is released into a pool, it is in order afterwards. -/
theorem Holds.release_any (h : bp.Holds blocks size n) (hlimit : n ≤ blocks) (b : Buffer) :
    ∃ k ≤ blocks, (bp.release b).2.Holds blocks size k := by
  by_cases hkept : b.capacity = size ∧ n < blocks
  · exact ⟨n + 1, hkept.2, (h.release hkept.2 hkept.1).2⟩
  · have hdiscarded : b.capacity ≠ bp.blockSize ∨ bp.blocks ≤ bp.available := by
      rw [h.shape, h.made, h.count]
      omega
    exact ⟨n, hlimit, by rwa [release_discarded hdiscarded]⟩

end BlockPool

namespace DataPlane

open Station (Deed)

/-- A pool that was made with so many blocks of one size is in order: it holds blocks of this size only,
and not more of them. -/
def Stocked (p : DataPlane) (pool : PoolRef) (blocks size : ℕ) : Prop :=
  ∃ n ≤ blocks, p.Stocks pool blocks size n

variable {p : DataPlane} {pool : PoolRef} {blocks size : ℕ}

/-- A pool stays in order in every move, also one of a consumer who releases what he likes. -/
theorem Stocked.moved (h : p.Stocked pool blocks size) {deed : Deed} {p' : DataPlane}
    (hmoved : Station.Moved p deed p') : p'.Stocked pool blocks size := by
  obtain ⟨n, hlimit, hstocks⟩ := h
  cases hmoved with
  | idle => exact ⟨n, hlimit, hstocks⟩
  | reported event => exact ⟨n, hlimit, hstocks.congr rfl⟩
  | unmatched frame event => exact ⟨n, hlimit, hstocks.congr rfl⟩
  | @offered r frame reported verdict w hoffered event =>
      by_cases hpool : r.pool = pool
      · subst hpool
        obtain ⟨k, hk, hcount, -⟩ := hstocks.offered hlimit hoffered
        exact ⟨k, by omega, hk.congr rfl⟩
      · have hsame : w.blockPool? pool = p.blockPool? pool := offered_elsewhere hpool hoffered
        exact ⟨n, hlimit, hstocks.congr hsame⟩
  | acquired view source len =>
      by_cases hpool : source = pool
      · subst hpool
        rcases hacquire : p.acquire view source len with ⟨e | b, w⟩
        · exact ⟨n, hlimit, hstocks.acquire_error hacquire⟩
        · obtain ⟨k, rfl, -, hk⟩ := hstocks.acquire_ok hacquire
          exact ⟨k, by omega, hk⟩
      · exact ⟨n, hlimit, hstocks.congr (acquire_elsewhere hpool view len p)⟩
  | released view target b =>
      by_cases hpool : target = pool
      · subst hpool
        obtain ⟨bp, hbp, hholds⟩ := hstocks
        obtain ⟨k, hk, hafter⟩ := hholds.release_any hlimit b
        exact ⟨k, hk, _, (release_blocks hbp view b).1, hafter⟩
      · exact ⟨n, hlimit, hstocks.congr (release_elsewhere hpool view b p)⟩
  | sent queue b => exact ⟨n, hlimit, hstocks.congr (blockPool?_congr (pools_send queue b p))⟩
  | received queue => exact ⟨n, hlimit, hstocks.congr (blockPool?_congr (pools_receive queue p))⟩

end DataPlane

/-- The ways in which an offer of a frame can end at a route that draws from a pool of blocks, with what
is left of the pool. -/
inductive Drawn (bp : BlockPool) (r : Route) (frame : Bytes) (reported : ℕ) :
    Verdict → BlockPool → Prop
  /-- The frame is truncated and the route discards such frames. -/
  | truncated (hcut : r.dropPartial = true ∧ frame.length < reported) :
      Drawn bp r frame reported .droppedPartial bp
  /-- The frame is longer than a block. -/
  | tooLong (hwhole : ¬ (r.dropPartial = true ∧ frame.length < reported))
      (hlong : bp.blockSize < frame.length) :
      Drawn bp r frame reported (.exceedsBlock (frame.length - bp.blockSize)) bp
  /-- No block is free. -/
  | exhausted (hwhole : ¬ (r.dropPartial = true ∧ frame.length < reported))
      (hfits : frame.length ≤ bp.blockSize) (hempty : bp.free = []) :
      Drawn bp r frame reported .poolExhausted { bp with exhausted := bp.exhausted + 1 }
  /-- The next free block comes back to the end of the list, with the frame over its start. -/
  | queueFull {block : Bytes} {free : List Bytes}
      (hwhole : ¬ (r.dropPartial = true ∧ frame.length < reported))
      (hfits : frame.length ≤ bp.blockSize) (hfree : bp.free = block :: free) :
      Drawn bp r frame reported .queueFull
        { bp with free := free ++ [frame ++ block.drop frame.length] }
  /-- The next free block goes away with the frame. -/
  | delivered {block : Bytes} {free : List Bytes}
      (hwhole : ¬ (r.dropPartial = true ∧ frame.length < reported))
      (hfits : frame.length ≤ bp.blockSize) (hfree : bp.free = block :: free) :
      Drawn bp r frame reported .delivered { bp with free }

namespace DataPlane

variable {p : DataPlane} {blocks size : ℕ}

/-- Every offer to a route whose pool is in order ends in one of these ways. -/
theorem Stocked.drawn {r : Route} (h : p.Stocked r.pool blocks size) {frame : Bytes} {reported : ℕ}
    {verdict : Verdict} {w : DataPlane}
    (hoffered : Offered (collaborators none) r frame reported p verdict w) :
    ∃ bp bp', p.blockPool? r.pool = some bp ∧ bp.blocks = blocks ∧ bp.blockSize = size ∧
      w.blockPool? r.pool = some bp' ∧ Drawn bp r frame reported verdict bp' := by
  obtain ⟨n, hlimit, bp, hbp, hholds⟩ := h
  cases hoffered with
  | truncated hdiscard hcut =>
      exact ⟨bp, bp, hbp, hholds.made, hholds.shape, hbp, .truncated ⟨hdiscard, hcut⟩⟩
  | refused hwhole hacquire =>
      obtain ⟨bp', hacquired, hafter⟩ := acquire_blocks hbp hacquire
      refine ⟨bp, bp', hbp, hholds.made, hholds.shape, hafter, ?_⟩
      cases BlockPool.acquired_of_eq hacquired with
      | tooLarge hlong =>
          have hover : 0 < (PoolError.tooLarge frame.length bp.blockSize).overflow :=
            Nat.sub_pos_of_lt hlong
          rw [if_pos hover]
          exact .tooLong hwhole hlong
      | exhausted hfits hempty => exact .exhausted hwhole hfits hempty
  | @short b w₁ hwhole hacquire hshort =>
      obtain ⟨bp₁, hacquired, -⟩ := acquire_blocks hbp hacquire
      cases BlockPool.acquired_of_eq hacquired with
      | @taken block free hfits hfree =>
          -- The block is of the size that the pool states, so the frame fits.
          have hsize : block.length = size :=
            hholds.sized block (by rw [hfree]; exact List.mem_cons_self)
          have hcapacity : (Buffer.ofBlock block).capacity = bp.blockSize :=
            hsize.trans hholds.shape.symm
          omega
  | @delivered b filled w₁ w₂ hwhole hacquire hfill hsend =>
      obtain ⟨bp₁, hacquired, hafter⟩ := acquire_blocks hbp hacquire
      have hsent : w.blockPool? r.pool = w₁.blockPool? r.pool := blockPool?_congr (pools_of_send hsend)
      refine ⟨bp, bp₁, hbp, hholds.made, hholds.shape, hsent.trans hafter, ?_⟩
      cases BlockPool.acquired_of_eq hacquired with
      | taken hfits hfree => exact .delivered hwhole hfits hfree
  | @queueFull b filled refused w₁ w₂ hwhole hacquire hfill hsend =>
      change w₁.send r.queue filled = (some refused, w₂) at hsend
      obtain ⟨bp₁, hacquired, hafter⟩ := acquire_blocks hbp hacquire
      have hsent : w₂.blockPool? r.pool = some bp₁ :=
        (blockPool?_congr (pools_of_send hsend)).trans hafter
      have hreleased := (release_blocks hsent none refused).1
      refine ⟨bp, _, hbp, hholds.made, hholds.shape, hreleased, ?_⟩
      cases BlockPool.acquired_of_eq hacquired with
      | @taken block free hfits hfree =>
          have hsize : block.length = bp.blockSize :=
            (hholds.sized block (by rw [hfree]; exact List.mem_cons_self)).trans hholds.shape.symm
          have hblock : filled.block = frame ++ block.drop frame.length := by
            rw [Buffer.block_of_fill hfill]
            exact Bytes.overlay_of_le (hfits.trans hsize.ge)
          have hcapacity : filled.capacity = bp.blockSize := by
            obtain ⟨-, -, hkept⟩ := Buffer.fill_ok hfill
            exact hkept.trans hsize
          -- There is room for the block, because it was there before.
          have hroom : free.length < bp.blocks := by
            have hcount := hholds.count
            rw [BlockPool.available, hfree, List.length_cons] at hcount
            rw [hholds.made]
            omega
          have hkept : ({ bp with free } : BlockPool).release filled =
              (none, { bp with free := free ++ [filled.block] }) :=
            BlockPool.release_kept hcapacity hroom
          rw [send_refused hsend, hkept, hblock]
          exact .queueFull hwhole hfits hfree

end DataPlane

namespace Station

/-- A pool stays in order, whatever is done at a station. -/
theorem stocked_play (st : Station f) {pool : PoolRef} {blocks size : ℕ}
    (h : st.plane.Stocked pool blocks size) (moves : List (Move f)) :
    (st.play moves).plane.Stocked pool blocks size := by
  refine play_induction (motive := fun _ p => p.Stocked pool blocks size) st h ?_ moves
  intro past p deed p' hmoved hstocked
  exact hstocked.moved hmoved

/-- What comes of a frame with a route whose pool is in order. -/
theorem handle_drawn (st : Station f) {frame : Bytes} {slot : Slot} {e : Endpoint}
    (hresolve : st.lock.value.resolve frame = some (slot, e)) {blocks size : ℕ}
    (hstocked : st.plane.Stocked e.route.pool blocks size) (reported : ℕ) :
    ∃ bp bp', st.plane.blockPool? e.route.pool = some bp ∧ bp.blocks = blocks ∧
      bp.blockSize = size ∧
      (st.handle frame reported).2.plane.blockPool? e.route.pool = some bp' ∧
      Drawn bp e.route frame reported (st.report frame reported).verdict bp' := by
  obtain ⟨w, hoffered, hplane⟩ := report_offered st hresolve reported
  obtain ⟨bp, bp', hbp, hblocks, hsize, hafter, hdrawn⟩ := hstocked.drawn hoffered
  rw [hplane]
  exact ⟨bp, bp', hbp, hblocks, hsize, hafter, hdrawn⟩

/-- A frame is reported once, after the warnings of its pool.  A pool that is in order gives none, because
it gets back only what it has handed out. -/
theorem events_handle (st : Station f) (frame : Bytes) (reported : ℕ) :
    ∃ warnings : List Discard,
      (st.handle frame reported).2.plane.events = st.plane.events ++ warnings.map .pool ++
        [.dispatch (.frame (st.report frame reported))] ∧
      ((∀ slot e, st.lock.value.resolve frame = some (slot, e) →
        ∃ blocks size, st.plane.Stocked e.route.pool blocks size) → warnings = []) := by
  rcases hresolve : st.lock.value.resolve frame with _ | ⟨slot, e⟩
  · obtain ⟨-, hplane⟩ := report_unresolved st hresolve reported
    refine ⟨[], ?_, fun _ => rfl⟩
    rw [hplane, DataPlane.events_note, List.map_nil, List.append_nil]
  · obtain ⟨w, hoffered, hplane⟩ := report_offered st hresolve reported
    obtain ⟨warnings, hw⟩ := DataPlane.warned_offered hoffered
    refine ⟨warnings, ?_, fun hstocked => ?_⟩
    · rw [hplane, DataPlane.events_note, hw]
    · obtain ⟨blocks, size, n, hlimit, hstocks⟩ := hstocked slot e rfl
      obtain ⟨-, -, -, hkept⟩ := hstocks.offered hlimit hoffered
      exact hw.quiet hkept

end Station

namespace Session

/-- A new pool is in order at the start of a session. -/
theorem stocked_new (dispatcher : Dispatcher f) {pools : List Pool} (queues : List Queue)
    {pool : PoolRef} {blocks size : ℕ}
    (hnew : pools[pool]?.bind Pool.blockPool? = some (.new blocks size)) :
    (Session.new dispatcher pools queues).station.plane.Stocked pool blocks size := by
  refine ⟨blocks, Nat.le_refl blocks, .new blocks size, ?_, BlockPool.holds_new blocks size⟩
  rw [← hnew]
  simp only [new, Station.new, DataPlane.blockPool?, List.getElem?_map]
  cases pools[pool]? <;> rfl

end Session

end Demux
