import PowerMonitor.Rates.TierChain
import Mathlib.Algebra.Order.BigOperators.Group.List

/-! The totals of the tiers that a cycle passes through.

Every segment lies in the tier that is found at the usage it starts from, and the totals of a tier are those of its
segments. The usage passes a tier of a version exactly when a segment with energy lies in it.
-/

set_option autoImplicit false
namespace PowerMonitor.Rates
open Library Calendar

/-! ## Slices in their tiers -/

/-- The slice stays in the tier found where it starts, and costs nothing without energy. -/
structure CostSlice.Placed (value : CostSlice) (tiers : List ResolvedTier) : Prop where
  tier : ∃ first found, value.cumulativeStartKwh = some first ∧ tierAt tiers first = some found ∧
    value.tierId = some found.tier.tierId ∧ ∀ limit ∈ found.upperBoundKwh, first + value.energyKwh ≤ limit
  nonneg : 0 ≤ value.energyKwh
  free : value.energyKwh = 0 → value.cost = 0

section Loop
variable {plan : Plan} {tiers : List ResolvedTier} {slice : TariffSlice}

theorem allocateSegment_placed {state next : TierLoop} (step : plan.allocateSegment tiers slice state = .ok next)
    (before : ∀ value ∈ state.ledger.slices, value.Placed tiers) : ∀ value ∈ next.ledger.slices, value.Placed tiers := by
  obtain ⟨found, energy, price, segment⟩ := allocateSegment_eq_ok step
  simp only [Plan.allocateSegment, segment.search] at step
  rw [raiseIf_bind_eq_ok, bind_eq_ok] at step
  obtain ⟨_, price, _, rest⟩ := step
  cases rest
  have amount := segment.amount
  intro value member
  rcases List.mem_append.mp member with old | new
  · exact before value old
  · rw [List.mem_singleton.mp new]
    refine ⟨⟨_, found, rfl, segment.search, rfl, amount ▸ segment.within⟩, (amount ▸ segment.progress).le, ?_⟩
    intro none
    exact mul_eq_zero_of_left none price

theorem priceTiers_placed {ledger after : Ledger} (before : ∀ value ∈ ledger.slices, value.Placed tiers)
    (run : plan.priceTiers tiers slice ledger = .ok after) : ∀ value ∈ after.slices, value.Placed tiers := by
  unfold Plan.priceTiers at run
  obtain ⟨middle, loop, rest⟩ := bind_eq_ok.mp run
  obtain ⟨final, kept, rfl, _⟩ := allocate_invariant (fun state => ∀ value ∈ state.ledger.slices, value.Placed tiers) before
    (fun _ _ _ step held => allocateSegment_placed step held) loop
  split at rest
  · unfold Plan.priceEmpty at rest
    split at rest
    · cases rest
      exact kept
    · rename_i found search
      obtain ⟨price, _, done⟩ := bind_eq_ok.mp rest
      cases done
      intro value member
      rcases List.mem_append.mp member with old | new
      · exact kept value old
      · rw [List.mem_singleton.mp new]
        refine ⟨⟨_, found, rfl, search, rfl, fun limit upper => ?_⟩, le_rfl, fun _ => rfl⟩
        have inside := List.find?_some search
        rw [Option.mem_def] at upper
        simp only [holds, upper, Option.all_some, Bool.and_eq_true, decide_eq_true_eq] at inside
        rw [add_zero]
        exact inside.2.le
  · cases rest
    exact kept

end Loop

theorem RateEngine.calculate_placed {engine : RateEngine} {request : CalculationRequest}
    (tiered : engine.plan.pricingModel.isTiered = true) {calculation : Calculation}
    (run : engine.calculate request = .ok calculation) :
    ∃ tiers, engine.cycleTiers request = .ok tiers ∧ Gapless tiers ∧ 0 ≤ request.cumulativeUsageBeforeKwh ∧
      ∀ value ∈ calculation.slices, value.Placed tiers := by
  obtain ⟨accepted, points, tiers, ledger, _, resolved, fold, rfl⟩ := (calculate_eq_ok engine request).mp run
  have gapless := cycleTiers_gapless tiered resolved
  refine ⟨tiers, resolved, gapless, accepted.usage, ?_⟩
  refine foldlM_invariant (fun current : Ledger => ∀ value ∈ current.slices, value.Placed tiers) _ (List.forall_mem_nil _) ?_ fold
  intro current piece next _ step sofar
  unfold priceSlice at step
  obtain ⟨tariff, _, step⟩ := bind_eq_ok.mp step
  rw [if_neg gapless.ne_nil] at step
  exact priceTiers_placed sofar step

/-! ## Totals of the segments -/

/-- The totals of each tier are those of its segments. -/
structure TierAllocation.Tallied (state : TierAllocation) : Prop where
  usage : ∀ tierId, amountAt state.usageByTier tierId =
    ((state.segments.filter fun row => row.tierId = tierId).map SegmentRow.energyKwh).sum
  charge : ∀ tierId, amountAt state.chargeByTier tierId =
    ((state.segments.filter fun row => row.tierId = tierId).map SegmentRow.energyCharge).sum

theorem recordSegment_tallied {interval : AuthoritativeInterval} {part : RatePart} {calculation : Calculation}
    {state : TierAllocation} (tallied : state.Tallied) (value : CostSlice) :
    (recordSegment interval part calculation state value).Tallied := by
  unfold recordSegment
  split
  · rename_i tierId tierName _ _
    constructor
    · intro asked
      rw [amountAt_addAmount, tallied.usage, List.filter_append, List.map_append, List.sum_append]
      by_cases same : tierId = asked <;> simp [same, eq_comm]
    · intro asked
      rw [amountAt_addAmount, tallied.charge, List.filter_append, List.map_append, List.sum_append]
      by_cases same : tierId = asked <;> simp [same, eq_comm]
  · exact tallied

theorem recordSegments_tallied {interval : AuthoritativeInterval} {part : RatePart} {calculation : Calculation}
    (slices : List CostSlice) {state : TierAllocation} (tallied : state.Tallied) :
    (slices.foldl (recordSegment interval part calculation) state).Tallied := by
  induction slices generalizing state with
  | nil => exact tallied
  | cons value rest ih => exact ih (recordSegment_tallied tallied value)

/-- A segment in its tier. -/
structure SegmentRow.Placed (row : SegmentRow) (tiers : List ResolvedTier) : Prop where
  tier : ∃ first found, row.cumulativeStartKwh = some first ∧ tierAt tiers first = some found ∧
    row.tierId = found.tier.tierId ∧ ∀ limit ∈ found.upperBoundKwh, first + row.energyKwh ≤ limit
  nonneg : 0 ≤ row.energyKwh
  free : row.energyKwh = 0 → row.energyCharge = 0

/-- The rows of a part come from its slices. -/
theorem record_placed {interval : AuthoritativeInterval} {part : RatePart} {calculation : Calculation}
    {tiers : List ResolvedTier} {slices : List CostSlice} (placed : ∀ value ∈ slices, value.Placed tiers)
    (state : TierAllocation) : ∃ rows, (slices.foldl (recordSegment interval part calculation) state).segments =
      state.segments ++ rows ∧ ∀ row ∈ rows, row.Placed tiers := by
  induction slices generalizing state with
  | nil => exact ⟨[], (List.append_nil _).symm, List.forall_mem_nil _⟩
  | cons value rest ih =>
      obtain ⟨rows, segments, later⟩ := ih (fun other member => placed other (List.mem_cons_of_mem _ member))
        (recordSegment interval part calculation state value)
      rw [List.foldl_cons, segments]
      have here := placed value List.mem_cons_self
      unfold recordSegment
      split
      · rename_i tierId tierName isId _
        refine ⟨_ :: rows, List.append_assoc _ [_] _, fun row member => ?_⟩
        rcases List.mem_cons.mp member with rfl | member
        · obtain ⟨first, found, starts, search, named, inside⟩ := here.tier
          exact ⟨⟨first, found, starts, search, Option.some.inj (isId.symm.trans named), inside⟩, here.nonneg, here.free⟩
        · exact later row member
      · exact ⟨rows, rfl, later⟩

/-! ## The tiers that usage passes -/

/-- A segment with energy lies in the tier. -/
def UsesTier (rows : List SegmentRow) (tierId : String) : Prop := ∃ row ∈ rows, row.tierId = tierId ∧ 0 < row.energyKwh

theorem usesTier_nil {tierId : String} : ¬ UsesTier [] tierId := fun ⟨_, member, _⟩ => absurd member List.not_mem_nil

theorem usesTier_append {rows more : List SegmentRow} {tierId : String} :
    UsesTier (rows ++ more) tierId ↔ UsesTier rows tierId ∨ UsesTier more tierId := by
  unfold UsesTier
  simp only [List.mem_append, or_and_right, exists_or]

section Passing
variable (cycleStart cycleEnd : Int)

/-- While the part adds its energy to the usage, the version of the part finds the tier. -/
def RatePart.Passes (part : RatePart) (usage : Rat) (tierId : String) : Prop :=
  ∃ tiers level found, part.context.engine.resolvedTiers cycleStart cycleEnd = .ok tiers ∧ usage ≤ level ∧
    level < usage + part.energyKwh ∧ tierAt tiers level = some found ∧ found.tier.tierId = tierId

/-- The energy of the parts that are priced by tiers. -/
def tieredEnergy (parts : List RatePart) : Rat := ((parts.filter fun part => part.context.tiered).map RatePart.energyKwh).sum

/-- Some part finds the tier, on top of the usage of the parts before it. -/
def PassesTier (usage : Rat) (parts : List RatePart) (tierId : String) : Prop :=
  ∃ before part after, parts = before ++ part :: after ∧ part.context.tiered = true ∧
    part.Passes cycleStart cycleEnd (usage + tieredEnergy before) tierId

variable {cycleStart cycleEnd}

theorem tieredEnergy_append (parts more : List RatePart) :
    tieredEnergy (parts ++ more) = tieredEnergy parts + tieredEnergy more := by
  unfold tieredEnergy
  rw [List.filter_append, List.map_append, List.sum_append]

theorem passesTier_nil {usage : Rat} {tierId : String} : ¬ PassesTier cycleStart cycleEnd usage [] tierId := by
  rintro ⟨before, part, after, same, _⟩
  cases before <;> cases same

theorem passesTier_append {usage : Rat} {parts more : List RatePart} {tierId : String} :
    PassesTier cycleStart cycleEnd usage (parts ++ more) tierId ↔ PassesTier cycleStart cycleEnd usage parts tierId ∨
      PassesTier cycleStart cycleEnd (usage + tieredEnergy parts) more tierId := by
  constructor
  · rintro ⟨before, part, after, same, tiered, passes⟩
    rcases List.append_eq_append_iff.mp same with ⟨middle, rfl, rest⟩ | ⟨middle, rfl, rest⟩
    · refine .inr ⟨middle, part, after, rest, tiered, ?_⟩
      rwa [tieredEnergy_append, ← add_assoc] at passes
    · cases middle with
      | nil =>
          refine .inr ⟨[], part, after, rest.symm, tiered, ?_⟩
          simpa [tieredEnergy] using passes
      | cons head middle =>
          obtain ⟨rfl, rfl⟩ := List.cons.inj rest
          exact .inl ⟨before, part, middle, rfl, tiered, passes⟩
  · rintro (⟨before, part, after, rfl, tiered, passes⟩ | ⟨before, part, after, rfl, tiered, passes⟩)
    · exact ⟨before, part, after ++ more, by simp, tiered, passes⟩
    · refine ⟨parts ++ before, part, after, by simp, tiered, ?_⟩
      rwa [tieredEnergy_append, ← add_assoc]

theorem passesTier_singleton {usage : Rat} {part : RatePart} {tierId : String} :
    PassesTier cycleStart cycleEnd usage [part] tierId ↔
      part.context.tiered = true ∧ part.Passes cycleStart cycleEnd usage tierId := by
  constructor
  · rintro ⟨before, other, after, same, tiered, passes⟩
    cases before with
    | nil =>
        obtain ⟨rfl, rfl⟩ := List.cons.inj same
        exact ⟨tiered, by simpa [tieredEnergy] using passes⟩
    | cons head before => simp at same
  · rintro ⟨tiered, passes⟩
    exact ⟨[], part, [], rfl, tiered, by simpa [tieredEnergy] using passes⟩

/-- What some parts add to the allocation. -/
structure Grown (cycleStart cycleEnd : Int) (state next : TierAllocation) (parts : List RatePart) (rows : List SegmentRow) : Prop where
  segments : next.segments = state.segments ++ rows
  cumulative : next.cumulative = state.cumulative + tieredEnergy parts
  nonneg : ∀ row ∈ rows, 0 ≤ row.energyKwh
  free : ∀ row ∈ rows, row.energyKwh = 0 → row.energyCharge = 0
  passes : ∀ tierId, UsesTier rows tierId ↔ PassesTier cycleStart cycleEnd state.cumulative parts tierId
  tallied : state.Tallied → next.Tallied

theorem Grown.nothing {state next : TierAllocation} (segments : next.segments = state.segments)
    (cumulative : next.cumulative = state.cumulative) (tallied : state.Tallied → next.Tallied) :
    Grown cycleStart cycleEnd state next [] [] where
  segments := by rw [segments, List.append_nil]
  cumulative := by rw [cumulative, tieredEnergy, List.filter_nil, List.map_nil, List.sum_nil, add_zero]
  nonneg := List.forall_mem_nil _
  free := List.forall_mem_nil _
  passes := fun _ => iff_of_false usesTier_nil passesTier_nil
  tallied := tallied

theorem Grown.append {state middle next : TierAllocation} {parts others : List RatePart} {rows more : List SegmentRow}
    (first : Grown cycleStart cycleEnd state middle parts rows) (second : Grown cycleStart cycleEnd middle next others more) :
    Grown cycleStart cycleEnd state next (parts ++ others) (rows ++ more) where
  segments := by rw [second.segments, first.segments, List.append_assoc]
  cumulative := by rw [second.cumulative, first.cumulative, tieredEnergy_append, add_assoc]
  nonneg := List.forall_mem_append.mpr ⟨first.nonneg, second.nonneg⟩
  free := List.forall_mem_append.mpr ⟨first.free, second.free⟩
  passes := by
    intro tierId
    rw [usesTier_append, passesTier_append, first.passes, second.passes, first.cumulative]
  tallied := fun tallied => second.tallied (first.tallied tallied)

/-- The rows of a part lie in the tiers that its usage passes. -/
theorem allocatePart_grown {interval : AuthoritativeInterval} {state next : TierAllocation} {part : RatePart}
    (run : allocatePart cycleStart cycleEnd interval state part = .ok next) :
    ∃ rows, Grown cycleStart cycleEnd state next [part] rows := by
  by_cases tiered : part.context.tiered = true
  · obtain ⟨rows, recorded, moved, _⟩ := @allocatePart_recorded _ _ [part.context] _ _ _ _ List.mem_cons_self tiered run
    rw [allocatePart, if_pos tiered] at run
    obtain ⟨calculation, priced, rest⟩ := bind_eq_ok.mp run
    have after := Except.ok.inj rest
    obtain ⟨tiers, resolved, gapless, usage, placed⟩ := RateEngine.calculate_placed tiered priced
    rw [RateEngine.cycleTiers_explicit _ rfl rfl] at resolved
    obtain ⟨others, segments, inTiers⟩ := @record_placed interval part calculation _ _ placed state
    have grows : next.segments = state.segments ++ others := by
      rw [← after]
      exact segments
    obtain rfl : others = rows := List.append_cancel_left (grows.symm.trans recorded.segments)
    have linked := recorded.chained.linked.view fun level => level.getD 0
    have measured : ∀ row ∈ others, ∃ first, row.cumulativeStartKwh = some first ∧
        row.cumulativeEndKwh = some (first + row.energyKwh) := recorded.chained.measured
    have rising : ∀ row ∈ others, row.cumulativeStartKwh.getD 0 ≤ row.cumulativeEndKwh.getD 0 := by
      intro row member
      obtain ⟨first, starts, ends⟩ := measured row member
      have nonneg := (inTiers row member).nonneg
      rw [starts, ends]
      show first ≤ first + row.energyKwh
      linarith
    refine ⟨others, recorded.segments, ?_, fun row member => (inTiers row member).nonneg,
      fun row member => (inTiers row member).free, fun tierId => ?_, fun tallied => ?_⟩
    · simp [moved, tieredEnergy, tiered]
    · rw [passesTier_singleton]
      constructor
      · rintro ⟨row, member, rfl, positive⟩
        obtain ⟨first, found, starts, search, named, _⟩ := (inTiers row member).tier
        obtain ⟨_, starts', ends⟩ := measured row member
        obtain rfl := Option.some.inj (starts.symm.trans starts')
        have bounds := (linked.between rising).2 row member
        rw [starts, ends] at bounds
        simp only [Option.getD_some] at bounds
        refine ⟨tiered, tiers, first, found, resolved, bounds.1, ?_, search, named.symm⟩
        have last := bounds.2
        rw [moved] at last
        linarith
      · rintro ⟨_, others_, level, found, resolved', after, before, search, rfl⟩
        obtain rfl : tiers = others_ := Except.ok.inj (resolved.symm.trans resolved')
        obtain ⟨row, member, starts, ends⟩ := linked.exists_item after (by rw [Option.getD_some, moved]; exact before)
        obtain ⟨first, held, first_, search', named, inside⟩ := (inTiers row member).tier
        obtain ⟨_, starts', ends'⟩ := measured row member
        obtain rfl := Option.some.inj (first_.symm.trans starts')
        rw [first_, Option.getD_some] at starts
        rw [ends', Option.getD_some] at ends
        have low : 0 ≤ first := usage.trans (by
          have bounds := ((linked.between rising).2 row member).1
          rwa [first_, Option.getD_some, Option.getD_some] at bounds)
        -- The tier of the row is found at every level inside it.
        have same : tierAt tiers level = some held :=
          gapless.find_eq low search' starts fun limit upper => ends.trans_le (inside limit upper)
        obtain rfl := Option.some.inj (same.symm.trans search)
        exact ⟨row, member, named, by linarith⟩
    · have folded := @recordSegments_tallied interval part calculation calculation.slices _ tallied
      rw [← after]
      exact ⟨folded.usage, folded.charge⟩
  · rw [allocatePart, if_neg tiered] at run
    cases run
    refine ⟨[], ?_, ?_, List.forall_mem_nil _, List.forall_mem_nil _, ?_, fun tallied => ⟨tallied.usage, tallied.charge⟩⟩
    · rw [List.append_nil]
    · simp [tieredEnergy, tiered]
    · intro tierId
      rw [passesTier_singleton]
      exact iff_of_false usesTier_nil fun passes => tiered passes.1

theorem allocateParts_grown {interval : AuthoritativeInterval} {parts : List RatePart} {state next : TierAllocation}
    (run : parts.foldlM (allocatePart cycleStart cycleEnd interval) state = .ok next) :
    ∃ rows, Grown cycleStart cycleEnd state next parts rows := by
  induction parts generalizing state with
  | nil =>
      cases run
      exact ⟨[], .nothing rfl rfl id⟩
  | cons part rest ih =>
      rw [List.foldlM_cons, bind_eq_ok] at run
      obtain ⟨middle, here, run⟩ := run
      obtain ⟨rows, first⟩ := allocatePart_grown here
      obtain ⟨more, second⟩ := ih run
      exact ⟨rows ++ more, first.append second⟩

end Passing

section Status
variable {cycleStart cycleEnd : Int} {contexts : List TierContext}

/-- The parts of all intervals, in the order of the allocation. -/
def pricedParts (contexts : List TierContext) (intervals : List AuthoritativeInterval) : List RatePart :=
  (sortedBy AuthoritativeInterval.sortKey intervals).flatMap (splitForRateBoundaries contexts)

theorem allocateIntervals_grown {intervals : List AuthoritativeInterval} {state final : TierAllocation}
    (run : intervals.foldlM (allocateInterval cycleStart cycleEnd contexts) state = .ok final) :
    ∃ rows, Grown cycleStart cycleEnd state final (intervals.flatMap (splitForRateBoundaries contexts)) rows := by
  induction intervals generalizing state with
  | nil =>
      cases run
      exact ⟨[], .nothing rfl rfl id⟩
  | cons interval rest ih =>
      rw [List.foldlM_cons, bind_eq_ok] at run
      obtain ⟨middle, here, run⟩ := run
      obtain ⟨more, second⟩ := ih run
      unfold allocateInterval at here
      by_cases empty : splitForRateBoundaries contexts interval = []
      · simp only [empty, List.isEmpty_nil, if_true] at here
        obtain rfl := Except.ok.inj here
        have skipped : Grown cycleStart cycleEnd state { state with missingRate := true } [] [] :=
          .nothing rfl rfl fun tallied => ⟨tallied.usage, tallied.charge⟩
        rw [List.flatMap_cons, empty]
        exact ⟨[] ++ more, skipped.append second⟩
      · simp only [List.isEmpty_iff, empty, if_false] at here
        obtain ⟨rows, first⟩ := allocateParts_grown here
        exact ⟨rows ++ more, first.append second⟩

/-- The rows of a context carry no energy. -/
theorem contextRows_empty {importId : Option String} {part : RatePart} {calculation : Calculation} {cumulative : Rat}
    (slices : List CostSlice) (rows : List SegmentRow) : ∃ more, slices.foldl (contextRow importId part calculation cumulative) rows =
      rows ++ more ∧ ∀ row ∈ more, row.energyKwh = 0 ∧ row.energyCharge = 0 := by
  induction slices generalizing rows with
  | nil => exact ⟨[], (List.append_nil _).symm, List.forall_mem_nil _⟩
  | cons value rest ih =>
      obtain ⟨more, same, empty⟩ := ih (contextRow importId part calculation cumulative rows value)
      rw [List.foldl_cons, same]
      unfold contextRow
      split
      · refine ⟨_ :: more, List.append_assoc _ [_] _, fun row member => ?_⟩
        rcases List.mem_cons.mp member with rfl | member
        · exact ⟨rfl, rfl⟩
        · exact empty row member
      · exact ⟨more, rfl, empty⟩

theorem contextSegments_empty {cumulative : Rat} {begins : Int} {importId : Option String} {rows final : List SegmentRow}
    (run : contextSegments cycleStart cycleEnd contexts cumulative begins importId rows = .ok final) :
    ∃ more, final = rows ++ more ∧ ∀ row ∈ more, row.energyKwh = 0 ∧ row.energyCharge = 0 := by
  unfold contextSegments at run
  split at run
  · refine foldlM_invariant (fun current => ∃ more, current = rows ++ more ∧
      ∀ row ∈ more, row.energyKwh = 0 ∧ row.energyCharge = 0) _ ⟨[], (List.append_nil _).symm, List.forall_mem_nil _⟩ ?_ run
    rintro _ part next _ step ⟨more, rfl, empty⟩
    unfold contextPart at step
    split at step
    · obtain ⟨calculation, _, rest⟩ := bind_eq_ok.mp step
      cases rest
      obtain ⟨others, same, none⟩ := contextRows_empty calculation.slices (rows ++ more)
      exact ⟨more ++ others, same.trans (List.append_assoc _ _ _), List.forall_mem_append.mpr ⟨empty, none⟩⟩
    · cases step
      exact ⟨more, rfl, empty⟩
  · cases run
    exact ⟨[], (List.append_nil _).symm, List.forall_mem_nil _⟩

/-- The totals of a status, and the tiers that they are for. -/
structure CycleTierStatus.Totalled (status : CycleTierStatus) (cycleStart cycleEnd : Int) (initialUsage : Rat)
    (parts : List RatePart) : Prop where
  usage : ∀ tierId, amountAt status.usageByTier tierId =
    ((status.segments.filter fun row => row.tierId = tierId).map SegmentRow.energyKwh).sum
  charge : ∀ tierId, amountAt status.chargeByTier tierId =
    ((status.segments.filter fun row => row.tierId = tierId).map SegmentRow.energyCharge).sum
  nonneg : ∀ row ∈ status.segments, 0 ≤ row.energyKwh
  free : ∀ row ∈ status.segments, row.energyKwh = 0 → row.energyCharge = 0
  passes : ∀ tierId, UsesTier status.segments tierId ↔ PassesTier cycleStart cycleEnd initialUsage parts tierId

theorem sum_filter_append_empty {rows more : List SegmentRow} {amount : SegmentRow → Rat} (empty : ∀ row ∈ more, amount row = 0)
    (keep : SegmentRow → Bool) : (((rows ++ more).filter keep).map amount).sum = ((rows.filter keep).map amount).sum := by
  rw [List.filter_append, List.map_append, List.sum_append, add_eq_left]
  apply List.sum_eq_zero
  intro value member
  obtain ⟨row, kept, rfl⟩ := List.mem_map.mp member
  exact empty row (List.mem_filter.mp kept).1

theorem calculateCycleTierStatus_totalled {initialUsage : Rat} {context : Option (Int × Option String)}
    {intervals : List AuthoritativeInterval} {status : CycleTierStatus}
    (run : calculateCycleTierStatus cycleStart cycleEnd contexts initialUsage context intervals = .ok status) :
    status.Totalled cycleStart cycleEnd initialUsage (pricedParts contexts intervals) := by
  unfold calculateCycleTierStatus at run
  obtain ⟨allocation, loop, rest⟩ := bind_eq_ok.mp run
  obtain ⟨segments, added, rest⟩ := bind_eq_ok.mp rest
  cases rest
  obtain ⟨rows, grown⟩ := allocateIntervals_grown loop
  have tallied := grown.tallied ⟨fun _ => rfl, fun _ => rfl⟩
  have own : allocation.segments = rows := grown.segments
  obtain ⟨more, rfl, empty⟩ : ∃ more, segments = allocation.segments ++ more ∧
      ∀ row ∈ more, row.energyKwh = 0 ∧ row.energyCharge = 0 := by
    unfold reportedSegments at added
    split at added
    · exact contextSegments_empty added
    · cases added
      exact ⟨[], (List.append_nil _).symm, List.forall_mem_nil _⟩
  refine ⟨fun tierId => ?_, fun tierId => ?_, ?_, ?_, fun tierId => ?_⟩
  · rw [sum_filter_append_empty fun row member => (empty row member).1]
    exact tallied.usage tierId
  · rw [sum_filter_append_empty fun row member => (empty row member).2]
    exact tallied.charge tierId
  · exact List.forall_mem_append.mpr ⟨own ▸ grown.nonneg, fun row member => (empty row member).1.ge⟩
  · exact List.forall_mem_append.mpr ⟨own ▸ grown.free, fun row member _ => (empty row member).2⟩
  · rw [usesTier_append, own, grown.passes]
    refine or_iff_left ?_
    rintro ⟨row, member, _, positive⟩
    exact absurd (empty row member).1 positive.ne'

/-- Totals for some tiers are the totals of all segments exactly when the usage passes no other tier. -/
theorem CycleTierStatus.Totalled.reconciles_iff {status : CycleTierStatus} {initialUsage : Rat} {parts : List RatePart}
    (totalled : status.Totalled cycleStart cycleEnd initialUsage parts) {tierIds : List String} (distinct : tierIds.Nodup) :
    ((tierIds.map (amountAt status.usageByTier)).sum = (status.segments.map SegmentRow.energyKwh).sum ∧
      (tierIds.map (amountAt status.chargeByTier)).sum = (status.segments.map SegmentRow.energyCharge).sum) ↔
      ∀ tierId, PassesTier cycleStart cycleEnd initialUsage parts tierId → tierId ∈ tierIds := by
  have split (amount : SegmentRow → Rat) : (status.segments.map amount).sum =
      ((status.segments.filter fun row => row.tierId ∈ tierIds).map amount).sum +
        ((status.segments.filter fun row => row.tierId ∉ tierIds).map amount).sum := by
    have parts := @sum_filter_split _ _ _ amount status.segments (fun _ => true) (fun row => decide (row.tierId ∈ tierIds))
      (fun row => decide (row.tierId ∉ tierIds)) (fun _ => false) fun row _ => by
        by_cases listed : row.tierId ∈ tierIds <;> simp [listed]
    simpa using parts
  have usage : (tierIds.map (amountAt status.usageByTier)).sum =
      ((status.segments.filter fun row => row.tierId ∈ tierIds).map SegmentRow.energyKwh).sum := by
    rw [← sum_by_key SegmentRow.energyKwh SegmentRow.tierId status.segments distinct]
    exact congrArg List.sum (List.map_congr_left fun tierId _ => totalled.usage tierId)
  have charge : (tierIds.map (amountAt status.chargeByTier)).sum =
      ((status.segments.filter fun row => row.tierId ∈ tierIds).map SegmentRow.energyCharge).sum := by
    rw [← sum_by_key SegmentRow.energyCharge SegmentRow.tierId status.segments distinct]
    exact congrArg List.sum (List.map_congr_left fun tierId _ => totalled.charge tierId)
  rw [usage, charge, split SegmentRow.energyKwh, split SegmentRow.energyCharge, left_eq_add, left_eq_add]
  constructor
  · rintro ⟨none, _⟩ tierId passes
    obtain ⟨row, member, rfl, positive⟩ := (totalled.passes tierId).mpr passes
    by_contra orphan
    have listed : row.energyKwh ∈ (status.segments.filter fun row => row.tierId ∉ tierIds).map SegmentRow.energyKwh :=
      List.mem_map_of_mem (List.mem_filter.mpr ⟨member, decide_eq_true orphan⟩)
    refine absurd none (ne_of_gt (positive.trans_le (List.single_le_sum ?_ _ listed)))
    intro value inside
    obtain ⟨other, kept, rfl⟩ := List.mem_map.mp inside
    exact totalled.nonneg other (List.mem_filter.mp kept).1
  · intro known
    -- A segment in another tier has no energy, hence no charge.
    have orphan : ∀ row ∈ status.segments.filter fun row => row.tierId ∉ tierIds, row.energyKwh = 0 := by
      intro row member
      obtain ⟨stored, unknown⟩ := List.mem_filter.mp member
      by_contra some_
      have positive := lt_of_le_of_ne (totalled.nonneg row stored) (Ne.symm some_)
      exact of_decide_eq_true unknown (known row.tierId ((totalled.passes _).mp ⟨row, stored, rfl, positive⟩))
    constructor
    · apply List.sum_eq_zero
      intro value member
      obtain ⟨row, kept, rfl⟩ := List.mem_map.mp member
      exact orphan row kept
    · apply List.sum_eq_zero
      intro value member
      obtain ⟨row, kept, rfl⟩ := List.mem_map.mp member
      exact totalled.free row (List.mem_filter.mp kept).1 (orphan row kept)

end Status

/-! ## Distinct tiers -/

theorem checkTier_distinct {basis : ThresholdBasis} {tiers : List Tier} {state final : TierCheck}
    (passed : tiers.foldlM (checkTier basis) state = .ok final) :
    (tiers.map Tier.tierId).Nodup ∧ ∀ tier ∈ tiers, tier.tierId ∉ state.tierIds := by
  induction tiers generalizing state with
  | nil => exact ⟨List.nodup_nil, by simp⟩
  | cons tier rest ih =>
      rw [List.foldlM_cons, bind_eq_ok] at passed
      obtain ⟨next, first, later⟩ := passed
      simp only [checkTier, raiseIf_bind_eq_ok, pure, Except.pure, Except.ok.injEq] at first
      obtain ⟨fresh, _, _, rfl⟩ := first
      rw [not_or] at fresh
      obtain ⟨distinct, apart⟩ := ih later
      refine ⟨List.nodup_cons.mpr ⟨?_, distinct⟩, ?_⟩
      · intro repeated
        obtain ⟨other, member, same⟩ := List.mem_map.mp repeated
        exact apart other member (same ▸ List.mem_cons_self)
      · intro other member
        rcases List.mem_cons.mp member with rfl | member
        · exact fresh.2
        · exact fun known => apart other member (List.mem_cons_of_mem _ known)

theorem RateEngine.resolvedTiers_distinct {engine : RateEngine} {cycleStart cycleEnd : Int} {tiers : List ResolvedTier}
    (resolved : engine.resolvedTiers cycleStart cycleEnd = .ok tiers) : (tiers.map fun tier => tier.tier.tierId).Nodup := by
  unfold resolvedTiers at resolved
  split at resolved
  · rename_i tiered
    have valid := validatePlan_tiers engine.valid tiered
    unfold validateTiers at valid
    rw [raiseIf_bind_eq_ok, raiseIf_bind_eq_ok, bind_eq_ok] at valid
    obtain ⟨_, _, _, passed, _⟩ := valid
    have distinct := (checkTier_distinct passed).1
    have same (baseline : Option Rat) : (engine.plan.orderedTiers.map (resolveTier engine.plan.threshold baseline)).map
        (fun tier => tier.tier.tierId) = engine.plan.orderedTiers.map Tier.tierId := by
      rw [List.map_map]
      rfl
    split at resolved
    · obtain ⟨baseline, _, rest⟩ := bind_eq_ok.mp resolved
      cases rest
      rwa [same]
    · cases resolved
      rwa [same]
  · cases resolved
    exact List.nodup_nil

end PowerMonitor.Rates
