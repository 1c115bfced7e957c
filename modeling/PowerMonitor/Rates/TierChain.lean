import PowerMonitor.Rates.RateParts
import PowerMonitor.Rates.Segments

/-! The segments of a cycle form one chain through all its intervals.

Every part of an interval continues the chain with segments that stay inside the tiers of
its own version, whatever version priced the part before it. What the chain grows by is
the energy that tiered contexts cover.
-/

set_option autoImplicit false
namespace PowerMonitor.Rates
open Library Calendar

/-! ## The segments of a part -/

/-- Where a segment lies, in usage and in time. -/
structure Footprint where
  start : Int
  finish : Int
  energyKwh : Rat
  cumulativeStartKwh : Option Rat
  cumulativeEndKwh : Option Rat

def CostSlice.footprint (value : CostSlice) : Footprint :=
  ⟨value.start, value.finish, value.energyKwh, value.cumulativeStartKwh, value.cumulativeEndKwh⟩

def SegmentRow.footprint (row : SegmentRow) : Footprint :=
  ⟨row.start, row.finish, row.energyKwh, row.cumulativeStartKwh, row.cumulativeEndKwh⟩

/-- The usage grows by the energy of the segment. -/
def SegmentRow.Measured (row : SegmentRow) : Prop :=
  ∃ first, row.cumulativeStartKwh = some first ∧ row.cumulativeEndKwh = some (first + row.energyKwh)

/-- No threshold of the version the segment was priced with lies strictly inside it. -/
def SegmentRow.Uncrossed (row : SegmentRow) (cycleStart cycleEnd : Int) (contexts : List TierContext) : Prop :=
  ∃ context ∈ contexts, context.tiered = true ∧ context.rateVersion = row.rateVersion ∧
    ∃ tiers, context.engine.resolvedTiers cycleStart cycleEnd = .ok tiers ∧
      ∀ first ∈ row.cumulativeStartKwh, ∀ last ∈ row.cumulativeEndKwh, ∀ tier ∈ tiers, ∀ limit,
        IsBound ResolvedTier.lowerBoundKwh ResolvedTier.upperBoundKwh tier limit → limit ≤ first ∨ last ≤ limit

/-- The segment belongs to the interval. -/
def SegmentRow.Of (row : SegmentRow) (interval : AuthoritativeInterval) : Prop :=
  row.intervalId = interval.intervalId ∧ row.importId = interval.importId ∧ row.qualityFlags = interval.qualityFlags

/-- Each slice in a tier leaves one row. -/
theorem record_slices (interval : AuthoritativeInterval) (part : RatePart) (calculation : Calculation)
    {tiers : List ResolvedTier} {slices : List CostSlice} (fits : ∀ value ∈ slices, value.Fits tiers)
    (state : TierAllocation) :
    ∃ rows, (slices.foldl (recordSegment interval part calculation) state).segments = state.segments ++ rows ∧
      (slices.foldl (recordSegment interval part calculation) state).cumulative = state.cumulative ∧
      rows.map SegmentRow.footprint = slices.map CostSlice.footprint ∧
      ∀ row ∈ rows, row.Of interval ∧ row.rateVersion = part.context.rateVersion := by
  induction slices generalizing state with
  | nil => exact ⟨[], by simp, rfl, rfl, by simp⟩
  | cons value rest ih =>
      obtain ⟨tierId, tierName, hasId, hasName⟩ := (fits value List.mem_cons_self).named
      obtain ⟨rows, segments, cumulative, same, origin⟩ :=
        ih (fun other member => fits other (List.mem_cons_of_mem _ member))
          (recordSegment interval part calculation state value)
      rw [List.foldl_cons, segments, cumulative]
      simp only [recordSegment, hasId, hasName]
      refine ⟨_, List.append_assoc _ _ _, trivial, by simp [same, SegmentRow.footprint, CostSlice.footprint], ?_⟩
      intro row member
      cases List.mem_cons.mp member with
      | inl here =>
          subst here
          exact ⟨⟨rfl, rfl, rfl⟩, rfl⟩
      | inr later => exact origin row later

section Allocation
variable {cycleStart cycleEnd : Int} {contexts : List TierContext}

/-- Segments that lead from one usage to another, each inside a tier. -/
structure ChainedRows (cycleStart cycleEnd : Int) (contexts : List TierContext) (first last : Rat)
    (rows : List SegmentRow) : Prop where
  linked : Linked SegmentRow.cumulativeStartKwh SegmentRow.cumulativeEndKwh (some first) (some last) rows
  measured : ∀ row ∈ rows, row.Measured
  uncrossed : ∀ row ∈ rows, row.Uncrossed cycleStart cycleEnd contexts

theorem ChainedRows.nil (level : Rat) : ChainedRows cycleStart cycleEnd contexts level level [] where
  linked := rfl
  measured := by simp
  uncrossed := by simp

theorem ChainedRows.append {first middle last : Rat} {rows more : List SegmentRow}
    (left : ChainedRows cycleStart cycleEnd contexts first middle rows)
    (right : ChainedRows cycleStart cycleEnd contexts middle last more) :
    ChainedRows cycleStart cycleEnd contexts first last (rows ++ more) where
  linked := left.linked.append right.linked
  measured := List.forall_mem_append.mpr ⟨left.measured, right.measured⟩
  uncrossed := List.forall_mem_append.mpr ⟨left.uncrossed, right.uncrossed⟩

theorem ChainedRows.sum_eq {first last : Rat} {rows : List SegmentRow}
    (chained : ChainedRows cycleStart cycleEnd contexts first last rows) :
    (rows.map SegmentRow.energyKwh).sum = last - first := by
  refine (chained.linked.view fun level => level.getD 0).sum_eq ?_
  intro row member
  obtain ⟨level, starts, ends⟩ := chained.measured row member
  simp [starts, ends]

/-- What some steps of the loop add for an interval. -/
structure Recorded (cycleStart cycleEnd : Int) (contexts : List TierContext) (interval : AuthoritativeInterval)
    (state next : TierAllocation) (rows : List SegmentRow) : Prop where
  segments : next.segments = state.segments ++ rows
  chained : ChainedRows cycleStart cycleEnd contexts state.cumulative next.cumulative rows
  origin : ∀ row ∈ rows, row.Of interval

theorem Recorded.nothing (interval : AuthoritativeInterval) {state next : TierAllocation}
    (segments : next.segments = state.segments) (cumulative : next.cumulative = state.cumulative) :
    Recorded cycleStart cycleEnd contexts interval state next [] where
  segments := by rw [segments, List.append_nil]
  chained := cumulative ▸ .nil _
  origin := by simp

theorem Recorded.append {interval : AuthoritativeInterval} {state middle next : TierAllocation}
    {rows more : List SegmentRow} (first : Recorded cycleStart cycleEnd contexts interval state middle rows)
    (second : Recorded cycleStart cycleEnd contexts interval middle next more) :
    Recorded cycleStart cycleEnd contexts interval state next (rows ++ more) where
  segments := by rw [second.segments, first.segments, List.append_assoc]
  chained := first.chained.append second.chained
  origin := List.forall_mem_append.mpr ⟨first.origin, second.origin⟩

/-- A part in a tiered context continues the chain over its span. -/
theorem allocatePart_recorded {interval : AuthoritativeInterval} {state next : TierAllocation} {part : RatePart}
    (stored : part.context ∈ contexts) (tiered : part.context.tiered = true)
    (run : allocatePart cycleStart cycleEnd interval state part = .ok next) :
    ∃ rows, Recorded cycleStart cycleEnd contexts interval state next rows ∧
      next.cumulative = state.cumulative + part.energyKwh ∧
      Block SegmentRow.start SegmentRow.finish part.start part.finish rows := by
  rw [allocatePart, if_pos tiered] at run
  obtain ⟨calculation, priced, rest⟩ := bind_eq_ok.mp run
  cases rest
  obtain ⟨tiers, resolved, linked, block, fits⟩ := RateEngine.calculate_slices tiered priced
  rw [RateEngine.cycleTiers_explicit _ rfl rfl] at resolved
  obtain ⟨rows, segments, cumulative, same, origin⟩ := record_slices interval part calculation fits state
  -- Rows and slices have the same footprints, and the properties below speak of nothing else.
  have copied : ∀ row ∈ rows, ∃ value ∈ calculation.slices, value.footprint = row.footprint := by
    intro row member
    have inside : row.footprint ∈ calculation.slices.map CostSlice.footprint :=
      same ▸ List.mem_map_of_mem member
    exact List.mem_map.mp inside
  refine ⟨rows, ⟨segments, ⟨?_, ?_, ?_⟩, fun row member => (origin row member).1⟩, by rw [cumulative], ?_⟩
  · have viewed := (linked_map CostSlice.footprint calculation.slices).mpr
      (show Linked (fun value => Footprint.cumulativeStartKwh (CostSlice.footprint value))
        (fun value => Footprint.cumulativeEndKwh (CostSlice.footprint value)) _ _ _ from linked)
    rw [← same] at viewed
    rw [cumulative]
    exact (linked_map SegmentRow.footprint rows).mp viewed
  · intro row member
    obtain ⟨value, inside, copy⟩ := copied row member
    obtain ⟨first, starts, ends⟩ := (fits value inside).levels
    simp only [CostSlice.footprint, SegmentRow.footprint, Footprint.mk.injEq] at copy
    obtain ⟨_, _, energy, begin_, finish_⟩ := copy
    exact ⟨first, begin_ ▸ starts, by rw [← finish_, ends, energy]⟩
  · intro row member
    obtain ⟨value, inside, copy⟩ := copied row member
    simp only [CostSlice.footprint, SegmentRow.footprint, Footprint.mk.injEq] at copy
    obtain ⟨_, _, _, begin_, finish_⟩ := copy
    refine ⟨part.context, stored, tiered, (origin row member).2.symm, tiers, resolved, ?_⟩
    rw [← begin_, ← finish_]
    exact (fits value inside).uncrossed
  · have viewed := (block_map CostSlice.footprint calculation.slices).mpr
      (show Block (fun value => Footprint.start (CostSlice.footprint value))
        (fun value => Footprint.finish (CostSlice.footprint value)) _ _ _ from block)
    rw [← same] at viewed
    exact (block_map SegmentRow.footprint rows).mp viewed

/-- Rows over the pieces: none without a piece, else one block from the first to the last. -/
structure Spread (pieces : List RatePiece) (rows : List SegmentRow) : Prop where
  none : pieces = [] → rows = []
  block : ∀ first ∈ pieces.head?, ∀ last ∈ pieces.getLast?,
    Block SegmentRow.start SegmentRow.finish first.1 last.2.1 rows

theorem Spread.cons {piece : RatePiece} {pieces : List RatePiece} {rows more : List SegmentRow}
    (here : Block SegmentRow.start SegmentRow.finish piece.1 piece.2.1 rows) (later : Spread pieces more)
    (rising : ∀ next ∈ pieces, piece.1 < next.1) : Spread (piece :: pieces) (rows ++ more) where
  none := fun empty => absurd empty (List.cons_ne_nil _ _)
  block := by
    intro first isFirst last isLast
    obtain rfl : piece = first := Option.some.inj isFirst
    cases pieces with
    | nil =>
        obtain rfl : piece = last := Option.some.inj isLast
        rw [later.none rfl, List.append_nil]
        exact here
    | cons next pieces =>
        exact here.append (later.block next rfl last (by simpa using isLast)) (rising next List.mem_cons_self)

/-- The parts of an interval, one after another. -/
theorem allocatePieces_recorded {interval : AuthoritativeInterval} {pieces : List RatePiece}
    (stored : ∀ piece ∈ pieces, piece.2.2 ∈ contexts)
    (rising : (pieces.filter fun piece => piece.2.2.tiered).Pairwise fun piece next => piece.1 < next.1)
    {state next : TierAllocation}
    (run : (pieces.map interval.part).foldlM (allocatePart cycleStart cycleEnd interval) state = .ok next) :
    ∃ rows, Recorded cycleStart cycleEnd contexts interval state next rows ∧
      next.cumulative = state.cumulative +
        ((pieces.filter fun piece => piece.2.2.tiered).map fun piece => (interval.part piece).energyKwh).sum ∧
      Spread (pieces.filter fun piece => piece.2.2.tiered) rows := by
  induction pieces generalizing state with
  | nil =>
      cases run
      exact ⟨[], .nothing interval rfl rfl, by simp, ⟨fun _ => rfl, by simp⟩⟩
  | cons piece rest ih =>
      rw [List.map_cons, List.foldlM_cons, bind_eq_ok] at run
      obtain ⟨middle, here, run⟩ := run
      by_cases tiered : piece.2.2.tiered = true
      · simp only [List.filter_cons, tiered, if_true] at rising ⊢
        obtain ⟨below, rising⟩ := List.pairwise_cons.mp rising
        have inContext : (interval.part piece).context ∈ contexts := stored piece List.mem_cons_self
        obtain ⟨rows, recorded, moved, block⟩ := allocatePart_recorded inContext tiered here
        obtain ⟨more, further, total, spread⟩ :=
          ih (fun other member => stored other (List.mem_cons_of_mem _ member)) rising run
        refine ⟨rows ++ more, recorded.append further, ?_, spread.cons block below⟩
        rw [total, moved, List.map_cons, List.sum_cons, add_assoc]
      · simp only [List.filter_cons, tiered] at rising ⊢
        rw [allocatePart, if_neg (show ¬ (interval.part piece).context.tiered = true from tiered)] at here
        cases here
        obtain ⟨more, further, total, spread⟩ :=
          ih (fun other member => stored other (List.mem_cons_of_mem _ member)) rising run
        have skipped : Recorded cycleStart cycleEnd contexts interval state { state with missingRate := true } [] :=
          .nothing interval rfl rfl
        exact ⟨more, skipped.append further, total, spread⟩

/-- An interval adds the energy that is covered, over the tiered pieces of its window. -/
theorem allocateInterval_recorded (apart : ContextsApart contexts) {interval : AuthoritativeInterval}
    {state next : TierAllocation} (run : allocateInterval cycleStart cycleEnd contexts state interval = .ok next) :
    ∃ rows, Recorded cycleStart cycleEnd contexts interval state next rows ∧
      next.cumulative = state.cumulative + coveredEnergy contexts interval ∧
      Spread (tieredPieces contexts interval.start interval.finish) rows := by
  rw [← sum_part_energy apart]
  rw [allocateInterval, split_eq_map] at run
  split at run
  · next empty =>
      cases run
      have none : tieredPieces contexts interval.start interval.finish = [] := by
        rw [List.isEmpty_iff, List.map_eq_nil_iff] at empty
        rw [tieredPieces, empty, List.filter_nil]
      exact ⟨[], .nothing interval rfl rfl, by simp [none], ⟨fun _ => rfl, by simp [none]⟩⟩
  · exact allocatePieces_recorded (fun _ => ratePieces_stored) (tieredPieces_rising interval.ordered) run

/-- The loop keeps the chain and adds up what is covered. -/
theorem allocateIntervals_chained (apart : ContextsApart contexts) {initialUsage : Rat}
    {intervals : List AuthoritativeInterval} {state final : TierAllocation}
    (chained : ChainedRows cycleStart cycleEnd contexts initialUsage state.cumulative state.segments)
    (run : intervals.foldlM (allocateInterval cycleStart cycleEnd contexts) state = .ok final) :
    ChainedRows cycleStart cycleEnd contexts initialUsage final.cumulative final.segments ∧
      final.cumulative = state.cumulative + (intervals.map (coveredEnergy contexts)).sum := by
  induction intervals generalizing state with
  | nil =>
      cases run
      exact ⟨chained, by simp⟩
  | cons interval rest ih =>
      rw [List.foldlM_cons, bind_eq_ok] at run
      obtain ⟨middle, here, run⟩ := run
      obtain ⟨rows, recorded, moved, _⟩ := allocateInterval_recorded apart here
      obtain ⟨kept, total⟩ := ih (recorded.segments ▸ chained.append recorded.chained) run
      refine ⟨kept, ?_⟩
      rw [total, moved, List.map_cons, List.sum_cons, add_assoc]

/-- The loop only appends segments. -/
theorem allocateIntervals_appends (apart : ContextsApart contexts) {intervals : List AuthoritativeInterval}
    {state final : TierAllocation}
    (run : intervals.foldlM (allocateInterval cycleStart cycleEnd contexts) state = .ok final) :
    ∃ rows, final.segments = state.segments ++ rows := by
  refine foldlM_invariant (fun current => ∃ rows, current.segments = state.segments ++ rows) intervals
    ⟨[], (List.append_nil _).symm⟩ ?_ run
  intro current interval next _ step sofar
  obtain ⟨rows, segments⟩ := sofar
  obtain ⟨more, recorded, _⟩ := allocateInterval_recorded apart step
  exact ⟨rows ++ more, by rw [recorded.segments, segments, List.append_assoc]⟩

end Allocation

/-! ## The status of a cycle -/

section Status
variable (cycleStart cycleEnd : Int) (contexts : List TierContext) (initialUsage : Rat)
  (context : Option (Int × Option String)) (intervals : List AuthoritativeInterval)

/-- The segments of a status are one chain from the initial usage to the reported one, over the energy that
tiered contexts cover. -/
structure CycleTierStatus.Chained (status : CycleTierStatus) : Prop extends
    ChainedRows cycleStart cycleEnd contexts initialUsage status.cumulative status.segments where
  total : (status.segments.map SegmentRow.energyKwh).sum = status.cumulative - initialUsage
  covered : status.cumulative - initialUsage = (intervals.map (coveredEnergy contexts)).sum

variable {cycleStart cycleEnd contexts initialUsage context intervals}

/-- Rows without energy at the usage reached continue the chain. -/
theorem contextRows_chained {importId : Option String} {part : RatePart} {calculation : Calculation} {cumulative : Rat}
    {tiers : List ResolvedTier} (stored : part.context ∈ contexts) (tiered : part.context.tiered = true)
    (resolved : part.context.engine.resolvedTiers cycleStart cycleEnd = .ok tiers) {slices : List CostSlice}
    {rows : List SegmentRow} (chained : ChainedRows cycleStart cycleEnd contexts initialUsage cumulative rows) :
    ChainedRows cycleStart cycleEnd contexts initialUsage cumulative
      (slices.foldl (contextRow importId part calculation cumulative) rows) := by
  induction slices generalizing rows with
  | nil => exact chained
  | cons value rest ih =>
      apply ih
      unfold contextRow
      split
      · refine chained.append ⟨⟨rfl, rfl⟩, ?_, ?_⟩
        · intro row member
          rw [List.mem_singleton.mp member]
          exact ⟨cumulative, rfl, by rw [add_zero]⟩
        · intro row member
          rw [List.mem_singleton.mp member]
          refine ⟨part.context, stored, tiered, rfl, tiers, resolved, ?_⟩
          intro first isFirst last isLast tier _ limit _
          obtain rfl := Option.some.inj isFirst
          obtain rfl := Option.some.inj isLast
          exact le_total _ _
      · exact chained

theorem contextSegments_chained {cumulative : Rat} {begins : Int} {importId : Option String}
    {rows final : List SegmentRow} (chained : ChainedRows cycleStart cycleEnd contexts initialUsage cumulative rows)
    (run : contextSegments cycleStart cycleEnd contexts cumulative begins importId rows = .ok final) :
    ChainedRows cycleStart cycleEnd contexts initialUsage cumulative final := by
  unfold contextSegments at run
  split at run
  · refine foldlM_invariant (ChainedRows cycleStart cycleEnd contexts initialUsage cumulative) _ chained ?_ run
    intro current part next member step sofar
    rw [split_eq_map] at member
    obtain ⟨piece, inside, rfl⟩ := List.mem_map.mp member
    unfold contextPart at step
    split at step
    · next tiered =>
        obtain ⟨calculation, priced, rest⟩ := bind_eq_ok.mp step
        cases rest
        obtain ⟨tiers, resolved, _⟩ := RateEngine.calculate_slices tiered priced
        rw [RateEngine.cycleTiers_explicit _ rfl rfl] at resolved
        exact contextRows_chained (ratePieces_stored inside) tiered resolved sofar
    · cases step
      exact sofar
  · cases run
    exact chained

/-- A status comes from the loop, and from the context rows when there is no interval. -/
theorem calculateCycleTierStatus_eq_ok {status : CycleTierStatus}
    (run : calculateCycleTierStatus cycleStart cycleEnd contexts initialUsage context intervals = .ok status) :
    ∃ allocation, (sortedBy AuthoritativeInterval.sortKey intervals).foldlM
        (allocateInterval cycleStart cycleEnd contexts) { cumulative := initialUsage } = .ok allocation ∧
      status.cumulative = allocation.cumulative ∧
      (intervals ≠ [] → status.segments = allocation.segments) ∧
      (ChainedRows cycleStart cycleEnd contexts initialUsage allocation.cumulative allocation.segments →
        ChainedRows cycleStart cycleEnd contexts initialUsage status.cumulative status.segments) := by
  unfold calculateCycleTierStatus at run
  obtain ⟨allocation, loop, rest⟩ := bind_eq_ok.mp run
  obtain ⟨segments, added, rest⟩ := bind_eq_ok.mp rest
  cases rest
  unfold reportedSegments at added
  refine ⟨allocation, loop, rfl, ?_, ?_⟩
  · intro some
    split at added
    · exact absurd rfl some
    · cases added
      rfl
  · intro chained
    split at added
    · exact contextSegments_chained chained added
    · cases added
      exact chained

theorem calculateCycleTierStatus_chained (apart : ContextsApart contexts) {status : CycleTierStatus}
    (run : calculateCycleTierStatus cycleStart cycleEnd contexts initialUsage context intervals = .ok status) :
    status.Chained cycleStart cycleEnd contexts initialUsage intervals := by
  obtain ⟨allocation, loop, cumulative, _, rows⟩ := calculateCycleTierStatus_eq_ok run
  obtain ⟨chained, total⟩ := allocateIntervals_chained apart (.nil initialUsage) loop
  have all := rows chained
  refine ⟨all, all.sum_eq, ?_⟩
  have sorted := ((perm_sortedBy AuthoritativeInterval.sortKey intervals).map (coveredEnergy contexts)).sum_eq
  rw [cumulative, total, sorted, add_sub_cancel_left]

end Status
end PowerMonitor.Rates
