import PowerMonitor.Rates.TierChain

/-! The order in which the intervals of a cycle are read.

Sorting hides it except among ties. An interval that no tiered context covers only sets a
mark, so its place does not matter; each of the others leaves a block of segments of its
own, and two tied blocks can be exchanged without a trace only when they are equal. Rows
of sensors have ids and never tie, rows of two imports may.
-/

set_option autoImplicit false
namespace PowerMonitor.Rates
open Library Calendar

section Idle
variable {cycleStart cycleEnd : Int} {contexts : List TierContext}

/-! ## Intervals that contribute nothing -/

/-- The usage is known to be incomplete. -/
def TierAllocation.marked (state : TierAllocation) : TierAllocation := { state with missingRate := true }

theorem recordSegment_marked (interval : AuthoritativeInterval) (part : RatePart) (calculation : Calculation)
    (state : TierAllocation) (value : CostSlice) :
    recordSegment interval part calculation state.marked value =
      (recordSegment interval part calculation state value).marked := by
  unfold recordSegment
  split <;> rfl

theorem recordSegments_marked (interval : AuthoritativeInterval) (part : RatePart) (calculation : Calculation)
    (slices : List CostSlice) (state : TierAllocation) :
    slices.foldl (recordSegment interval part calculation) state.marked =
      (slices.foldl (recordSegment interval part calculation) state).marked := by
  induction slices generalizing state with
  | nil => rfl
  | cons value rest ih => rw [List.foldl_cons, List.foldl_cons, recordSegment_marked, ih]

theorem allocatePart_untiered {part : RatePart} (untiered : ¬ part.context.tiered = true)
    (interval : AuthoritativeInterval) (state : TierAllocation) :
    allocatePart cycleStart cycleEnd interval state part = .ok state.marked := if_neg untiered

/-- The mark is carried along and never read. -/
theorem allocatePart_marked (interval : AuthoritativeInterval) (state : TierAllocation) (part : RatePart) :
    allocatePart cycleStart cycleEnd interval state.marked part =
      (allocatePart cycleStart cycleEnd interval state part).map TierAllocation.marked := by
  unfold allocatePart
  split
  · change (part.context.engine.calculate (part.request cycleStart cycleEnd state.cumulative)) >>= _ = _
    cases part.context.engine.calculate (part.request cycleStart cycleEnd state.cumulative) with
    | error failure => rfl
    | ok calculation =>
        change Except.ok _ = Except.ok _
        rw [recordSegments_marked]
        rfl
  · rfl

theorem allocateInterval_marked (state : TierAllocation) (interval : AuthoritativeInterval) :
    allocateInterval cycleStart cycleEnd contexts state.marked interval =
      (allocateInterval cycleStart cycleEnd contexts state interval).map TierAllocation.marked := by
  unfold allocateInterval
  dsimp only
  split
  · rfl
  · exact foldlM_commutes TierAllocation.marked _ (allocatePart_marked interval) state

/-- Some piece of the interval lies in a tiered context. -/
def contributing (contexts : List TierContext) (interval : AuthoritativeInterval) : Bool :=
  !(tieredPieces contexts interval.start interval.finish).isEmpty

theorem contributing_iff (apart : ContextsApart contexts) (interval : AuthoritativeInterval) :
    contributing contexts interval = true ↔ Contributes contexts interval := by
  rw [← tieredPieces_ne_nil_iff apart]
  simp [contributing]

theorem allocateInterval_idle {interval : AuthoritativeInterval} (idle : contributing contexts interval = false)
    (state : TierAllocation) : allocateInterval cycleStart cycleEnd contexts state interval = .ok state.marked := by
  have untiered : ∀ piece ∈ ratePieces contexts interval.start interval.finish, ¬ piece.2.2.tiered = true := by
    simpa [contributing, tieredPieces, List.filter_eq_nil_iff] using idle
  rw [allocateInterval, split_eq_map]
  cases pieces : ratePieces contexts interval.start interval.finish with
  | nil => rfl
  | cons piece rest =>
      rw [pieces] at untiered
      clear pieces idle
      rw [if_neg (by simp)]
      -- Each part of it sets the mark again.
      induction rest generalizing piece state with
      | nil =>
          rw [List.map_cons, List.foldlM_cons, allocatePart_untiered (untiered piece List.mem_cons_self)]
          rfl
      | cons next rest ih =>
          have later := ih state.marked next fun other member => untiered other (List.mem_cons_of_mem _ member)
          rw [List.map_cons, List.foldlM_cons, allocatePart_untiered (untiered piece List.mem_cons_self)]
          exact later

/-- Only the intervals that contribute matter, and whether there are others. -/
theorem allocateIntervals_filter (intervals : List AuthoritativeInterval) (state : TierAllocation) :
    intervals.foldlM (allocateInterval cycleStart cycleEnd contexts) state =
      ((intervals.filter (contributing contexts)).foldlM (allocateInterval cycleStart cycleEnd contexts) state).map
        (if intervals.all (contributing contexts) then id else TierAllocation.marked) := by
  induction intervals generalizing state with
  | nil => rfl
  | cons interval rest ih =>
      rw [List.foldlM_cons]
      cases some : contributing contexts interval with
      | true =>
          rw [List.filter_cons_of_pos some, List.foldlM_cons, List.all_cons, some, Bool.true_and]
          cases allocateInterval cycleStart cycleEnd contexts state interval with
          | error failure => rfl
          | ok next => exact ih next
      | false =>
          rw [List.filter_cons_of_neg (by simp [some]), allocateInterval_idle some, List.all_cons, some, Bool.false_and]
          change rest.foldlM _ state.marked = _
          rw [foldlM_commutes TierAllocation.marked _ allocateInterval_marked, ih]
          cases (rest.filter (contributing contexts)).foldlM (allocateInterval cycleStart cycleEnd contexts) state with
          | error failure => rfl
          | ok final =>
              split <;> rfl

end Idle

section Order
variable (cycleStart cycleEnd : Int) (contexts : List TierContext) (initialUsage : Rat)
  (context : Option (Int × Option String)) (intervals : List AuthoritativeInterval)

/-- The status is the same in whatever order the intervals are read. -/
def OrderIndependent : Prop := ∀ others, others.Perm intervals →
  calculateCycleTierStatus cycleStart cycleEnd contexts initialUsage context others =
    calculateCycleTierStatus cycleStart cycleEnd contexts initialUsage context intervals

/-- Intervals with one sort key are equal, at least where a tiered context covers some of them. -/
def TiesAgree : Prop := ∀ first ∈ intervals, ∀ second ∈ intervals, first.sortKey = second.sortKey →
  Contributes contexts first → first = second

variable {cycleStart cycleEnd contexts initialUsage context intervals}

theorem AuthoritativeInterval.window_of_sortKey {first second : AuthoritativeInterval}
    (tied : first.sortKey = second.sortKey) : first.start = second.start ∧ first.finish = second.finish := by
  unfold sortKey at tied
  rw [toLex_inj, Prod.mk.injEq, toLex_inj, Prod.mk.injEq] at tied
  exact ⟨tied.1, tied.2.1⟩

/-! ## The order in which intervals are read -/

/-- Agreeing ties leave no trace of the order. -/
theorem orderIndependent_of_ties (apart : ContextsApart contexts) (ties : TiesAgree contexts intervals) :
    OrderIndependent cycleStart cycleEnd contexts initialUsage context intervals := by
  intro others perm
  have loop : (sortedBy AuthoritativeInterval.sortKey others).foldlM (allocateInterval cycleStart cycleEnd contexts)
      { cumulative := initialUsage } = (sortedBy AuthoritativeInterval.sortKey intervals).foldlM
        (allocateInterval cycleStart cycleEnd contexts) { cumulative := initialUsage } := by
    have kept := filter_sortedBy_eq AuthoritativeInterval.sortKey (contributing contexts) perm
      fun first inFirst second inSecond tied some _ =>
        ties first inFirst second inSecond tied ((contributing_iff apart first).mp some)
    have sorted : (sortedBy AuthoritativeInterval.sortKey others).Perm (sortedBy AuthoritativeInterval.sortKey intervals) :=
      (perm_sortedBy _ others).trans (perm.trans (perm_sortedBy _ intervals).symm)
    rw [allocateIntervals_filter, allocateIntervals_filter (sortedBy _ intervals), kept,
      sorted.all_eq]
  have segments : reportedSegments cycleStart cycleEnd contexts context others =
      reportedSegments cycleStart cycleEnd contexts context intervals := by
    cases intervals with
    | nil => rw [perm.eq_nil]
    | cons interval rest =>
        cases others with
        | nil => exact absurd perm.symm.eq_nil (List.cons_ne_nil _ _)
        | cons other others =>
            funext allocation
            cases context <;> rfl
  have coverage := (perm.map fun interval : AuthoritativeInterval =>
    secondsBetween interval.start interval.finish).sum_eq
  unfold calculateCycleTierStatus
  rw [loop, segments, coverage]

/-- Two tied intervals that can be exchanged are equal: each leaves a block of rows over the same window. -/
theorem eq_of_exchange (apart : ContextsApart contexts) {first second : AuthoritativeInterval}
    (tied : first.sortKey = second.sortKey) (contributes : Contributes contexts first)
    {before after : List AuthoritativeInterval} {one other : TierAllocation} {start : TierAllocation}
    (run : (before ++ first :: second :: after).foldlM (allocateInterval cycleStart cycleEnd contexts) start = .ok one)
    (exchanged : (before ++ second :: first :: after).foldlM (allocateInterval cycleStart cycleEnd contexts) start =
      .ok other) (same : one.segments = other.segments) : first = second := by
  obtain ⟨sameStart, sameFinish⟩ := AuthoritativeInterval.window_of_sortKey tied
  rw [List.foldlM_append, bind_eq_ok] at run exchanged
  obtain ⟨state, reached, run⟩ := run
  obtain ⟨state', reached', exchanged⟩ := exchanged
  obtain rfl : state = state' := Except.ok.inj (reached.symm.trans reached')
  rw [List.foldlM_cons, bind_eq_ok] at run exchanged
  obtain ⟨afterFirst, firstStep, run⟩ := run
  obtain ⟨afterSecond, secondStep, exchanged⟩ := exchanged
  rw [List.foldlM_cons, bind_eq_ok] at run exchanged
  obtain ⟨_, secondStep', run⟩ := run
  obtain ⟨_, firstStep', exchanged⟩ := exchanged
  obtain ⟨rows, recorded, moved, spread⟩ := allocateInterval_recorded apart firstStep
  obtain ⟨others, recordedOthers, movedOthers, spreadOthers⟩ := allocateInterval_recorded apart secondStep
  obtain ⟨others', recordedOthers', _, spreadOthers'⟩ := allocateInterval_recorded apart secondStep'
  obtain ⟨rows', recorded', _, spread'⟩ := allocateInterval_recorded apart firstStep'
  obtain ⟨tail, appended⟩ := allocateIntervals_appends apart run
  obtain ⟨tail', appended'⟩ := allocateIntervals_appends apart exchanged
  -- The tiered pieces of the common window give the blocks their ends.
  have pieces := (tieredPieces_ne_nil_iff apart first).mpr contributes
  obtain ⟨piece, last, isFirst, isLast, proper⟩ := tieredPieces_span first.ordered pieces
  rw [← sameStart, ← sameFinish] at spreadOthers spreadOthers'
  have blocks : rows = others := by
    have all : state.segments ++ (rows ++ (others' ++ tail)) = state.segments ++ (others ++ (rows' ++ tail')) := by
      rw [appended, appended', recordedOthers'.segments, recorded'.segments, recorded.segments,
        recordedOthers.segments] at same
      simpa only [List.append_assoc] using same
    exact Block.eq_of_exchange proper (spread.block piece isFirst last isLast)
      (spreadOthers.block piece isFirst last isLast) (spread'.block piece isFirst last isLast)
      (spreadOthers'.block piece isFirst last isLast) (List.append_cancel_left all)
  obtain ⟨row, member⟩ := List.exists_mem_of_ne_nil _ (spread.block piece isFirst last isLast).ne_nil
  obtain ⟨firstId, firstImport, firstFlags⟩ := recorded.origin row member
  obtain ⟨secondId, secondImport, secondFlags⟩ := recordedOthers.origin row (blocks ▸ member)
  have energies : coveredEnergy contexts first = coveredEnergy contexts second := by
    have one := recorded.chained.sum_eq
    have two := recordedOthers.chained.sum_eq
    rw [moved, add_sub_cancel_left] at one
    rw [movedOthers, add_sub_cancel_left] at two
    rw [← one, ← two, blocks]
  have energy := energy_of_coveredEnergy contributes sameStart sameFinish energies
  cases first
  cases second
  simp_all

/-- Tied intervals that give one status in both orders are equal. -/
theorem eq_of_tied (apart : ContextsApart contexts) {first second : AuthoritativeInterval}
    (tied : first.sortKey = second.sortKey) (contributes : Contributes contexts first)
    {others : List AuthoritativeInterval} {status : CycleTierStatus}
    (run : calculateCycleTierStatus cycleStart cycleEnd contexts initialUsage context (first :: second :: others) =
      .ok status)
    (exchanged : calculateCycleTierStatus cycleStart cycleEnd contexts initialUsage context (second :: first :: others) =
      .ok status) : first = second := by
  obtain ⟨allocation, loop, _, segments, _⟩ := calculateCycleTierStatus_eq_ok run
  obtain ⟨allocation', loop', _, segments', _⟩ := calculateCycleTierStatus_eq_ok exchanged
  obtain ⟨before, after, sorted, sorted'⟩ := sortedBy_tied AuthoritativeInterval.sortKey tied others
  rw [sorted] at loop
  rw [sorted'] at loop'
  have same : allocation.segments = allocation'.segments :=
    (segments (List.cons_ne_nil _ _)).symm.trans (segments' (List.cons_ne_nil _ _))
  exact eq_of_exchange apart tied contributes loop loop' same

/-- If no order matters, tied intervals that contribute are equal. -/
theorem ties_of_orderIndependent (apart : ContextsApart contexts) {status : CycleTierStatus}
    (run : calculateCycleTierStatus cycleStart cycleEnd contexts initialUsage context intervals = .ok status)
    (independent : OrderIndependent cycleStart cycleEnd contexts initialUsage context intervals) :
    TiesAgree contexts intervals := by
  intro first inFirst second inSecond tied contributes
  by_contra differ
  -- Read the two of them before the others, in both orders.
  obtain ⟨others, perm⟩ : ∃ others, (first :: second :: others).Perm intervals := by
    refine ⟨(intervals.erase first).erase second, ?_⟩
    have inRest : second ∈ intervals.erase first := (List.mem_erase_of_ne (Ne.symm differ)).mpr inSecond
    exact (((List.perm_cons_erase inRest).symm).cons first).trans (List.perm_cons_erase inFirst).symm
  have one := independent _ perm
  have two := independent _ ((List.Perm.swap first second others).trans perm)
  rw [run] at one two
  exact differ (eq_of_tied apart tied contributes one two)

/-- Rows with ids of their own never tie. -/
theorem monitoredIntervals_ties {rows : List NormalizedInterval} (distinct : (rows.map NormalizedInterval.id).Nodup)
    (deviceIds : List String) (start finish : Int) :
    TiesAgree contexts (monitoredIntervals deviceIds start finish rows) := by
  have source : ∀ interval ∈ monitoredIntervals deviceIds start finish rows,
      ∃ row ∈ rows, monitoredInterval start finish row = some interval ∧ interval.intervalId = some row.id := by
    intro interval member
    obtain ⟨row, stored, built⟩ := List.mem_filterMap.mp member
    rw [(perm_sortedBy _ _).mem_iff, List.mem_filter] at stored
    refine ⟨row, stored.1, built, ?_⟩
    unfold monitoredInterval at built
    dsimp only at built
    split at built
    · cases built
    · split at built
      · cases built
        rfl
      · cases built
  intro first inFirst second inSecond tied _
  obtain ⟨row, stored, built, id⟩ := source first inFirst
  obtain ⟨other, stored', built', id'⟩ := source second inSecond
  unfold AuthoritativeInterval.sortKey at tied
  rw [toLex_inj, Prod.mk.injEq, toLex_inj, Prod.mk.injEq, id, id'] at tied
  obtain rfl : row = other := List.inj_on_of_nodup_map distinct stored stored' tied.2.2
  exact Option.some.inj (built.symm.trans built')

/-! ## When a status is returned -/

/-- The version can price what lies in its context. -/
structure TierContext.Ready (context : TierContext) (cycleStart cycleEnd : Int) : Prop where
  priced : context.engine.plan.Priced
  resolves : ∃ tiers, context.engine.resolvedTiers cycleStart cycleEnd = .ok tiers

/-- The part of an interval over a piece of its window is proper, and has its share of the energy. -/
theorem part_proper {interval : AuthoritativeInterval} (energy : 0 ≤ interval.energyKwh) {part : RatePart}
    (member : part ∈ splitForRateBoundaries contexts interval) :
    part.start < part.finish ∧ 0 ≤ part.energyKwh ∧ part.context ∈ contexts := by
  rw [split_eq_map] at member
  obtain ⟨piece, inside, rfl⟩ := List.mem_map.mp member
  obtain ⟨⟨left, right⟩, pair, found⟩ := List.mem_filterMap.mp inside
  obtain ⟨context, search, rfl⟩ := Option.map_eq_some_iff.mp found
  obtain ⟨_, proper, _, _⟩ := (rateBoundaries_tiles interval.ordered).piece pair
  exact ⟨proper, div_nonneg (mul_nonneg energy (secondsBetween_pos proper).le) (secondsBetween_pos interval.ordered).le,
    List.mem_of_find?_eq_some search⟩

/-- A part does not lower the usage. -/
theorem allocatePart_nonneg {interval : AuthoritativeInterval} {state next : TierAllocation} {part : RatePart}
    (stored : part.context ∈ contexts) (energy : 0 ≤ part.energyKwh) (usage : 0 ≤ state.cumulative)
    (run : allocatePart cycleStart cycleEnd interval state part = .ok next) : 0 ≤ next.cumulative := by
  by_cases tiered : part.context.tiered = true
  · obtain ⟨_, _, moved, _⟩ := allocatePart_recorded stored tiered run
    rw [moved]
    exact add_nonneg usage energy
  · rw [allocatePart_untiered tiered] at run
    cases run
    exact usage

theorem allocateInterval_nonneg {interval : AuthoritativeInterval} (energy : 0 ≤ interval.energyKwh)
    {state next : TierAllocation} (usage : 0 ≤ state.cumulative)
    (run : allocateInterval cycleStart cycleEnd contexts state interval = .ok next) : 0 ≤ next.cumulative := by
  unfold allocateInterval at run
  dsimp only at run
  split at run
  · cases run
    exact usage
  · refine foldlM_invariant (fun state : TierAllocation => 0 ≤ state.cumulative) _ usage ?_ run
    intro current part after member step nonneg
    obtain ⟨_, share, stored⟩ := part_proper energy member
    exact allocatePart_nonneg stored share nonneg step

theorem allocateInterval_returns (cycle : cycleStart < cycleEnd)
    (ready : ∀ context ∈ contexts, context.Ready cycleStart cycleEnd) {interval : AuthoritativeInterval}
    (energy : 0 ≤ interval.energyKwh) {state : TierAllocation} (usage : 0 ≤ state.cumulative) :
    ∃ next, allocateInterval cycleStart cycleEnd contexts state interval = .ok next ∧ 0 ≤ next.cumulative := by
  obtain ⟨next, run⟩ : ∃ next, allocateInterval cycleStart cycleEnd contexts state interval = .ok next := by
    unfold allocateInterval
    dsimp only
    split
    · exact ⟨_, rfl⟩
    · refine foldlM_returns (fun current : TierAllocation => 0 ≤ current.cumulative) _ usage ?_
      intro current part member nonneg
      obtain ⟨proper, share, stored⟩ := part_proper energy member
      by_cases tiered : part.context.tiered = true
      · obtain ⟨priced, tiers, resolved⟩ := ready part.context stored
        let request := part.request cycleStart cycleEnd current.cumulative
        have accepted : part.context.engine.Accepted request :=
          ⟨proper, share, nonneg, (RateEngine.properCycle_explicit request rfl rfl).mpr fun _ => cycle⟩
        obtain ⟨calculation, run⟩ := RateEngine.calculate_returns priced accepted
          ((RateEngine.cycleTiers_explicit request rfl rfl).trans resolved)
        have step : ∃ next, allocatePart cycleStart cycleEnd interval current part = .ok next :=
          ⟨_, (if_pos tiered).trans (bind_eq_ok.mpr ⟨calculation, run, rfl⟩)⟩
        obtain ⟨next, step⟩ := step
        exact ⟨next, step, allocatePart_nonneg stored share nonneg step⟩
      · exact ⟨_, allocatePart_untiered tiered interval current, nonneg⟩
  exact ⟨next, run, allocateInterval_nonneg energy usage run⟩

/-- Versions that can price give every cycle with intervals a status. -/
theorem calculateCycleTierStatus_returns (cycle : cycleStart < cycleEnd)
    (ready : ∀ context ∈ contexts, context.Ready cycleStart cycleEnd) (usage : 0 ≤ initialUsage)
    (energies : ∀ interval ∈ intervals, 0 ≤ interval.energyKwh) (measured : intervals ≠ [] ∨ context = none) :
    ∃ status, calculateCycleTierStatus cycleStart cycleEnd contexts initialUsage context intervals = .ok status := by
  obtain ⟨allocation, loop⟩ : ∃ allocation, (sortedBy AuthoritativeInterval.sortKey intervals).foldlM
      (allocateInterval cycleStart cycleEnd contexts) { cumulative := initialUsage } = .ok allocation := by
    refine foldlM_returns (fun state : TierAllocation => 0 ≤ state.cumulative) _ usage ?_
    intro state interval member nonneg
    exact allocateInterval_returns cycle ready (energies interval ((perm_sortedBy _ _).mem_iff.mp member)) nonneg
  have segments : reportedSegments cycleStart cycleEnd contexts context intervals allocation = .ok allocation.segments := by
    unfold reportedSegments
    split
    · rcases measured with some | none
      · exact absurd rfl some
      · cases none
    · rfl
  exact ⟨_, bind_eq_ok.mpr ⟨allocation, loop, bind_eq_ok.mpr ⟨_, segments, rfl⟩⟩⟩

/-- The usage that a status reports is not below the initial one if that is not negative. -/
theorem calculateCycleTierStatus_nonneg (usage : 0 ≤ initialUsage)
    (energies : ∀ interval ∈ intervals, 0 ≤ interval.energyKwh) {status : CycleTierStatus}
    (run : calculateCycleTierStatus cycleStart cycleEnd contexts initialUsage context intervals = .ok status) :
    0 ≤ status.cumulative := by
  obtain ⟨allocation, loop, rest⟩ := bind_eq_ok.mp run
  obtain ⟨segments, _, done⟩ := bind_eq_ok.mp rest
  cases done
  refine foldlM_invariant (fun state : TierAllocation => 0 ≤ state.cumulative) _ usage ?_ loop
  intro state interval next member step nonneg
  exact allocateInterval_nonneg (energies interval ((perm_sortedBy _ _).mem_iff.mp member)) nonneg step

end Order

/-! ## Two imports of one hour -/

/-- One rounded plan over two days. -/
def roundedContexts : List TierContext :=
  [{ start := 0, finish := 2 * dayLength, rateVersion := "v1", engine := RateEngine.roundedEngine, ordered := by decide }]

theorem roundedContexts_apart : ContextsApart roundedContexts := List.pairwise_singleton _ _

theorem roundedContexts_ready : ∀ context ∈ roundedContexts, context.Ready 0 (2 * dayLength) := by
  intro context member
  rw [List.mem_singleton.mp member]
  refine ⟨⟨fun timeOfUse => absurd timeOfUse (by decide), fun hybrid => absurd hybrid (by decide)⟩,
    RateEngine.roundedPlan.orderedTiers.map (resolveTier RateEngine.roundedPlan.threshold (some 2)), ?_⟩
  change RateEngine.roundedEngine.resolvedTiers 0 (2 * dayLength) = _
  decide +kernel

/-- Two sensors that measure overlapping hours. -/
def sensorRows : List NormalizedInterval :=
  [{ id := "north", deviceId := "leg-1", intervalStart := 0, intervalEnd := 3600000000, selectedEnergyWh := some 1500 },
   { id := "south", deviceId := "leg-2", intervalStart := 0, intervalEnd := 3600000000, selectedEnergyWh := some 2000 }]

def hourImport (id : String) (energyKwh : Rat) : UtilityUsageImport :=
  { id := id, importKind := .interval, calculationRole := .advancedExternalCorrection
    normalizedRows := [some ⟨0, 3600000000, energyKwh⟩] }

def hourInterval (id : String) (energyKwh : Rat) : AuthoritativeInterval :=
  { intervalId := none, importId := some id, start := 0, finish := 3600000000, energyKwh := energyKwh
    qualityFlags := ["utility_import"], ordered := by decide }

end PowerMonitor.Rates
