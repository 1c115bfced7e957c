import PowerMonitor.Library.Dict
import PowerMonitor.Library.Tiling
import PowerMonitor.Rates.Tiers

/-! Pricing an interval.

The interval is cut at the tariff's boundaries and its energy spread evenly over time.
A slice is priced whole, or handed to the tiers one after another until nothing of it
remains. Charges and adjustments of the account are added to the energy charge at the
end; nothing in that part can fail.
-/

set_option autoImplicit false
namespace PowerMonitor.Rates
open Library Calendar

inductive CostScope where
  | energyOnly | allocatedAccount | fullAccount | allocatedAccountEstimate | fullAccountEstimate
  deriving DecidableEq, Repr

structure CalculationRequest where
  start : Int
  finish : Int
  energyKwh : Rat
  costScope : CostScope := .energyOnly
  baselineAllocationKwh : Option Rat := none
  billingDays : Option Int := none
  ccaAdjustmentPerKwh : Rat := 0
  otherAdjustment : Rat := 0
  cumulativeUsageBeforeKwh : Rat := 0
  cycleStart : Option Int := none
  cycleEnd : Option Int := none
  deriving DecidableEq, Repr

structure CostSlice where
  start : Int
  finish : Int
  energyKwh : Rat
  bucket : String
  pricePerKwh : Rat
  cost : Rat
  tierId : Option String := none
  tierName : Option String := none
  touPeriod : Option String := none
  cumulativeStartKwh : Option Rat := none
  cumulativeEndKwh : Option Rat := none
  deriving DecidableEq, Repr

structure Calculation where
  slices : List CostSlice
  energyByBucket : List (String × Rat)
  energyByTier : List (String × Rat)
  chargeByTier : List (String × Rat)
  tierThresholds : List ResolvedTier
  energyCharge : Rat
  fixedCharge : Rat
  baselineCredit : Rat
  ccaAdjustment : Rat
  otherAdjustment : Rat
  adjustmentBreakdown : List (String × Rat)
  total : Rat
  deriving DecidableEq, Repr

/-! ## Billing cycles -/

/-- The wall reading at which the cycle of a month begins, moved back in short months. -/
def Plan.cycleBoundary (plan : Plan) (year : Int) (month : Nat) : Int :=
  let nextMonth := if month = 12 then dateFrom (year + 1) 1 1 else dateFrom year (month + 1) 1
  let lastDay := (monthDay (nextMonth - 1)).day
  wallAt (dateFrom year month (min plan.expectedStartDay.val lastDay)) 0

/-- `billing_cycle_bounds`. Readings of one zone compare without their offsets. -/
def RateEngine.billingCycleBounds (engine : RateEngine) (instant : Int) : Int × Int :=
  let wall := engine.zone.toLocal instant
  let year := yearOf (dateOf wall)
  let month := (monthDay (dateOf wall)).month
  let current := engine.plan.cycleBoundary year month
  let start :=
    if wall < current then
      engine.plan.cycleBoundary (if month = 1 then year - 1 else year) (if month = 1 then 12 else month - 1)
    else current
  let startYear := yearOf (dateOf start)
  let startMonth := (monthDay (dateOf start)).month
  let next := engine.plan.cycleBoundary (if startMonth = 12 then startYear + 1 else startYear)
    (if startMonth = 12 then 1 else startMonth + 1)
  (engine.zone.toUtc start false, engine.zone.toUtc next false)

/-- The cycle a calculation uses: what is not given is inferred, for tiered plans only. -/
def RateEngine.cycleOf (engine : RateEngine) (request : CalculationRequest) : Option Int × Option Int :=
  if engine.plan.pricingModel.isTiered then
    let inferred := engine.billingCycleBounds request.start
    (some (request.cycleStart.getD inferred.1), some (request.cycleEnd.getD inferred.2))
  else (request.cycleStart, request.cycleEnd)

/-! ## Slices -/

/-- What `calculate` carries from slice to slice. -/
structure Ledger where
  slices : List CostSlice := []
  byBucket : List (String × Rat) := []
  byTier : List (String × Rat) := []
  chargeByTier : List (String × Rat) := []
  cumulative : Rat
  deriving DecidableEq, Repr

def Ledger.energyCharge (ledger : Ledger) : Rat := (ledger.slices.map CostSlice.cost).sum

/-- One slice of the interval: its share of the energy and the schedule's bucket and rate. -/
structure TariffSlice where
  left : Int
  right : Int
  allocated : Rat
  touBucket : String
  touRate : Rat

def secondsBetween (left right : Int) : Rat := (right - left : Int) / 1000000

/-- `_tier_price` -/
def Plan.tierPrice (plan : Plan) (tier : Tier) (touBucket : String) (touRate : Rat) : Except EngineError Rat :=
  if plan.pricingModel = .tiered then .ok tier.pricePerKwh
  else
    match plan.hybridPricing.getD .tierPeriodMatrix with
    | .tierPeriodMatrix => getKey id touBucket tier.touPrices
    | _ => .ok (tier.pricePerKwh + touRate)

def Plan.tierBucket (plan : Plan) (tier : Tier) (touBucket : String) : String :=
  if plan.pricingModel = .timeOfUseTiered then tier.name ++ " · " ++ touBucket else tier.name

def Plan.wholePrice (plan : Plan) (touRate : Rat) : Except EngineError Rat :=
  if plan.pricingModel = .flat then plan.flatRate else .ok touRate

def Plan.wholeBucket (plan : Plan) (touBucket : String) : String :=
  if plan.pricingModel = .flat then "Flat" else touBucket

/-- A slice of a plan without tiers. -/
def Plan.priceWhole (plan : Plan) (slice : TariffSlice) (ledger : Ledger) : Except EngineError Ledger := do
  let price ← plan.wholePrice slice.touRate
  let bucket := plan.wholeBucket slice.touBucket
  let entry : CostSlice :=
    { start := slice.left, finish := slice.right, energyKwh := slice.allocated, bucket := bucket, pricePerKwh := price
      cost := slice.allocated * price
      touPeriod := if plan.pricingModel = .timeOfUse then some slice.touBucket else none }
  pure { ledger with
    slices := ledger.slices ++ [entry]
    byBucket := addAmount ledger.byBucket bucket slice.allocated }

/-- The state of the loop over the tiers of one slice. -/
structure TierLoop where
  ledger : Ledger
  remaining : Rat
  segmentLeft : Int

/-- How much the tier found can take. -/
def segmentEnergy (tier : ResolvedTier) (cumulative remaining : Rat) : Rat :=
  min remaining (tier.upperBoundKwh.elim remaining fun upper => max 0 (upper - cumulative))

/-- The body of `while remaining > 0`. -/
def Plan.allocateSegment (plan : Plan) (tiers : List ResolvedTier) (slice : TariffSlice) (state : TierLoop) :
    Except EngineError TierLoop :=
  let ledger := state.ledger
  match tierAt tiers ledger.cumulative with
  | none => .error (.runtimeError "validated tiers do not cover cumulative usage")
  | some found => do
      let energy := segmentEnergy found ledger.cumulative state.remaining
      raiseIf (energy ≤ 0) (.runtimeError "tier allocation made no chronological progress")
      let fraction := if slice.allocated = 0 then 1 else energy / slice.allocated
      let microseconds := roundHalfUp (secondsBetween slice.left slice.right * fraction * 1000000)
      let segmentRight := if energy = state.remaining then slice.right else state.segmentLeft + microseconds
      let price ← plan.tierPrice found.tier slice.touBucket slice.touRate
      let bucket := plan.tierBucket found.tier slice.touBucket
      let entry : CostSlice :=
        { start := state.segmentLeft, finish := segmentRight, energyKwh := energy, bucket := bucket
          pricePerKwh := price, cost := energy * price
          tierId := some found.tier.tierId, tierName := some found.tier.name
          touPeriod := if plan.pricingModel = .timeOfUseTiered then some slice.touBucket else none
          cumulativeStartKwh := some ledger.cumulative, cumulativeEndKwh := some (ledger.cumulative + energy) }
      pure
        { ledger :=
            { slices := ledger.slices ++ [entry]
              byBucket := addAmount ledger.byBucket bucket energy
              byTier := addAmount ledger.byTier found.tier.name energy
              chargeByTier := addAmount ledger.chargeByTier found.tier.name (energy * price)
              cumulative := ledger.cumulative + energy }
          remaining := state.remaining - energy
          segmentLeft := segmentRight }

/-- What one pass of the loop does. -/
structure Segment (plan : Plan) (tiers : List ResolvedTier) (slice : TariffSlice) (state next : TierLoop)
    (found : ResolvedTier) (energy price : Rat) : Prop where
  search : tierAt tiers state.ledger.cumulative = some found
  amount : energy = segmentEnergy found state.ledger.cumulative state.remaining
  progress : 0 < energy
  priced : plan.tierPrice found.tier slice.touBucket slice.touRate = .ok price
  cost : next.ledger.energyCharge = state.ledger.energyCharge + energy * price
  byBucket : next.ledger.byBucket =
    addAmount state.ledger.byBucket (plan.tierBucket found.tier slice.touBucket) energy
  byTier : next.ledger.byTier = addAmount state.ledger.byTier found.tier.name energy
  chargeByTier : next.ledger.chargeByTier =
    addAmount state.ledger.chargeByTier found.tier.name (energy * price)
  cumulative : next.ledger.cumulative = state.ledger.cumulative + energy
  remaining : next.remaining = state.remaining - energy

theorem allocateSegment_eq_ok {plan : Plan} {tiers : List ResolvedTier} {slice : TariffSlice}
    {state next : TierLoop} (step : plan.allocateSegment tiers slice state = .ok next) :
    ∃ found energy price, Segment plan tiers slice state next found energy price := by
  cases search : tierAt tiers state.ledger.cumulative with
  | none => simp [Plan.allocateSegment, search] at step
  | some found =>
      simp only [Plan.allocateSegment, search] at step
      rw [raiseIf_bind_eq_ok, bind_eq_ok] at step
      obtain ⟨progress, price, priced, rest⟩ := step
      cases rest
      exact ⟨found, _, price, search, rfl, not_le.mp progress, priced,
        by simp [Ledger.energyCharge], rfl, rfl, rfl, rfl, rfl⟩

/-- Passes that can still come: one for each tier that reaches above the usage, and the last. -/
def passesLeft (tiers : List ResolvedTier) (state : TierLoop) : Nat :=
  stepsAbove ResolvedTier.upperBoundKwh tiers state.ledger.cumulative + if 0 < state.remaining then 1 else 0

/-- A tier that takes less than what remains is filled. -/
theorem upper_of_segmentEnergy {found : ResolvedTier} {cumulative remaining : Rat}
    (progress : 0 < segmentEnergy found cumulative remaining)
    (part : segmentEnergy found cumulative remaining ≠ remaining) :
    found.upperBoundKwh = some (cumulative + segmentEnergy found cumulative remaining) := by
  unfold segmentEnergy at progress part ⊢
  cases upper : found.upperBoundKwh with
  | none => exact absurd (by simp [upper]) part
  | some limit =>
      rw [upper, Option.elim_some] at progress part
      rw [Option.elim_some]
      rcases min_choice remaining (max 0 (limit - cumulative)) with whole | taken
      · exact absurd whole part
      · rcases max_choice 0 (limit - cumulative) with empty | gap
        · linarith [taken.trans empty]
        · rw [taken.trans gap, add_sub_cancel]

/-- A pass uses up the slice, or fills its tier and leaves it behind. -/
theorem passesLeft_lt {plan : Plan} {tiers : List ResolvedTier} {slice : TariffSlice} {state next : TierLoop}
    (more : 0 < state.remaining) (step : plan.allocateSegment tiers slice state = .ok next) :
    passesLeft tiers next < passesLeft tiers state := by
  obtain ⟨found, energy, price, segment⟩ := allocateSegment_eq_ok step
  have positive := segment.progress
  unfold passesLeft
  rw [if_pos more, segment.cumulative, segment.remaining]
  by_cases used : energy = state.remaining
  · have fewer : stepsAbove ResolvedTier.upperBoundKwh tiers (state.ledger.cumulative + energy) ≤
        stepsAbove ResolvedTier.upperBoundKwh tiers state.ledger.cumulative := stepsAbove_le (by linarith)
    rw [if_neg (by rw [used]; linarith)]
    omega
  · -- The tier took less than what remained, so the usage is now at its upper bound.
    have finish : found.upperBoundKwh = some (state.ledger.cumulative + energy) := by
      rw [segment.amount] at positive used ⊢
      exact upper_of_segmentEnergy positive used
    have member : found ∈ tiers := List.mem_of_find?_eq_some segment.search
    have fewer : stepsAbove ResolvedTier.upperBoundKwh tiers (state.ledger.cumulative + energy) <
        stepsAbove ResolvedTier.upperBoundKwh tiers state.ledger.cumulative :=
      stepsAbove_lt (by linarith) member finish
    split <;> omega

/-- The loop `while remaining > 0`. -/
def Plan.allocate (plan : Plan) (tiers : List ResolvedTier) (slice : TariffSlice) (state : TierLoop) :
    Except EngineError Ledger :=
  if more : 0 < state.remaining then
    match step : plan.allocateSegment tiers slice state with
    | .error failure => .error failure
    | .ok next =>
        have := passesLeft_lt more step
        plan.allocate tiers slice next
  else .ok state.ledger
termination_by passesLeft tiers state

/-- A slice without energy still leaves a record with the price it would have had. -/
def Plan.priceEmpty (plan : Plan) (tiers : List ResolvedTier) (slice : TariffSlice) (ledger : Ledger) :
    Except EngineError Ledger :=
  match tierAt tiers ledger.cumulative with
  | none => .ok ledger
  | some found => do
      let price ← plan.tierPrice found.tier slice.touBucket slice.touRate
      let entry : CostSlice :=
        { start := slice.left, finish := slice.right, energyKwh := 0
          bucket := plan.tierBucket found.tier slice.touBucket, pricePerKwh := price, cost := 0
          tierId := some found.tier.tierId, tierName := some found.tier.name
          touPeriod := if plan.pricingModel = .timeOfUseTiered then some slice.touBucket else none
          cumulativeStartKwh := some ledger.cumulative, cumulativeEndKwh := some ledger.cumulative }
      pure { ledger with slices := ledger.slices ++ [entry] }

/-- A slice of a tiered plan. -/
def Plan.priceTiers (plan : Plan) (tiers : List ResolvedTier) (slice : TariffSlice) (ledger : Ledger) :
    Except EngineError Ledger := do
  let allocated ← plan.allocate tiers slice ⟨ledger, slice.allocated, slice.left⟩
  if slice.allocated = 0 then plan.priceEmpty tiers slice allocated else pure allocated

/-- The energy of a piece of the interval. -/
def CalculationRequest.share (request : CalculationRequest) (left right : Int) : Rat :=
  request.energyKwh * secondsBetween left right / secondsBetween request.start request.finish

/-- The body of the loop over the slices. -/
def RateEngine.priceSlice (engine : RateEngine) (request : CalculationRequest) (tiers : List ResolvedTier)
    (ledger : Ledger) (piece : Int × Int) : Except EngineError Ledger := do
  let tariff ← engine.periodAt (piece.1 + half (piece.2 - piece.1))
  let slice : TariffSlice := ⟨piece.1, piece.2, request.share piece.1 piece.2, tariff.1, tariff.2⟩
  if tiers = [] then engine.plan.priceWhole slice ledger else engine.plan.priceTiers tiers slice ledger

/-! ## Account charges -/

def CostScope.isFull : CostScope → Bool
  | .fullAccount | .fullAccountEstimate => true
  | _ => false

def CostScope.isAllocated (scope : CostScope) : Bool :=
  scope.isFull || scope = .allocatedAccount || scope = .allocatedAccountEstimate

structure Totals where
  fixed : Rat
  baseline : Rat
  cca : Rat
  adjustments : Rat
  total : Rat
  breakdown : List (String × Rat) := []

section Account
variable (zone : Zone) (request : CalculationRequest) (slices : List CostSlice)

/-- Slices that start on a day on which the adjustment is in effect. -/
def eligibleSlices (item : Adjustment) : List CostSlice :=
  slices.filter fun value =>
    (item.effectiveFrom.all fun first => decide (first ≤ zone.localDate value.start)) &&
      item.effectiveTo.all fun last => decide (zone.localDate value.start ≤ last)

def Adjustment.inScope (item : Adjustment) (scope : CostScope) : Bool :=
  !((item.scope = "full_account_estimate" && !scope.isFull) ||
    (item.scope = "allocated_account_estimate" && !scope.isAllocated))

/-- The amount of an adjustment over its eligible slices; none where it is skipped. -/
def adjustmentAmount (item : Adjustment) (total : Rat) : Option Rat :=
  let eligible := eligibleSlices zone slices item
  let energy := (eligible.map CostSlice.energyKwh).sum
  let days := (eligible.map fun value => zone.localDate value.start).dedup
  if item.inScope request.costScope = false ∨ eligible = [] then none
  else if item.component = .baselineCredit then
    match request.baselineAllocationKwh with
    | some allocation => if request.costScope.isFull then some (min energy allocation * item.value) else none
    | none => none
  else if item.unit = "per_kwh" then some (energy * item.value)
  else if item.unit = "per_day" then some (item.value * (max 1 days.length : Nat))
  else if item.unit = "per_month" then
    let months := (days.map fun day => (yearOf day, (monthDay day).month)).dedup
    some (item.value * (max 1 months.length : Nat))
  else if item.unit = "percent" then some (total * item.value / 100)
  else some item.value

/-- How the amount changes the total. -/
def Adjustment.signed (item : Adjustment) (amount total : Rat) : Rat :=
  if item.component = .minimumCharge then max 0 (amount - total)
  else if item.operation = .multiply then total * (item.value - 1)
  else if item.operation = .subtract then -amount
  else amount

/-- The body of the loop over the adjustments. -/
def applyAdjustment (totals : Totals) (item : Adjustment) : Totals :=
  match adjustmentAmount zone request slices item totals.total with
  | none => totals
  | some amount =>
      let signed := item.signed amount totals.total
      let totals := { totals with
        total := totals.total + signed
        breakdown := setKey item.name signed totals.breakdown }
      match item.component with
      | .dailyFixedCharge | .monthlyFixedCharge => { totals with fixed := totals.fixed + signed }
      | .baselineCredit => { totals with baseline := totals.baseline + amount }
      | .cca | .directAccess | .generationProvider => { totals with cca := totals.cca + signed }
      | _ => { totals with adjustments := totals.adjustments + signed }

/-- The days a full-account estimate is charged for. -/
def billedDays : Int :=
  request.billingDays.getD
    (max 1 ((slices.map fun value => zone.localDate value.start) ++ [zone.localDate request.finish]).dedup.length)

/-- The totals before the plan's adjustments. -/
def Plan.baseTotals (plan : Plan) (energyCharge : Rat) : Totals :=
  let charged := request.costScope.isFull && plan.adjustments = []
  let fixed := if charged then plan.baseServiceChargePerDay * billedDays zone request slices else 0
  let baseline := match charged, plan.baselineCreditPerKwh, request.baselineAllocationKwh with
    | true, some credit, some allocation => min request.energyKwh allocation * credit
    | _, _, _ => 0
  let cca := request.energyKwh * request.ccaAdjustmentPerKwh
  let adjustments := if request.costScope = .energyOnly then 0 else request.otherAdjustment
  { fixed, baseline, cca, adjustments, total := energyCharge + fixed - baseline + cca + adjustments }

end Account

/-! ## Calculation -/

namespace RateEngine
variable (engine : RateEngine) (request : CalculationRequest)

/-- The result from the priced slices. -/
def settle (tiers : List ResolvedTier) (ledger : Ledger) : Calculation :=
  let energyCharge := ledger.energyCharge
  let ordered := engine.plan.adjustments.insertionSort fun a b => a.calculationOrder ≤ b.calculationOrder
  let totals := ordered.foldl (applyAdjustment engine.zone request ledger.slices)
    (engine.plan.baseTotals engine.zone request ledger.slices energyCharge)
  { slices := ledger.slices
    energyByBucket := ledger.byBucket
    energyByTier := ledger.byTier
    chargeByTier := ledger.chargeByTier
    tierThresholds := tiers
    energyCharge := energyCharge
    fixedCharge := totals.fixed
    baselineCredit := totals.baseline
    ccaAdjustment := totals.cca
    otherAdjustment := totals.adjustments
    adjustmentBreakdown := totals.breakdown
    total := totals.total }

/-- The tiers of the cycle, none without one. -/
def cycleTiers : Except EngineError (List ResolvedTier) :=
  match engine.cycleOf request with
  | (some cycleStart, some cycleEnd) => engine.resolvedTiers cycleStart cycleEnd
  | _ => pure []

/-- Whether a tiered calculation has a cycle of positive length. -/
def ProperCycle : Prop := engine.plan.pricingModel.isTiered = true →
  ∀ cycleStart ∈ (engine.cycleOf request).1, ∀ cycleEnd ∈ (engine.cycleOf request).2, cycleStart < cycleEnd

instance : Decidable (engine.ProperCycle request) := inferInstanceAs (Decidable (_ → _))

/-- `calculate` -/
def calculate : Except EngineError Calculation := do
  raiseIf (request.finish ≤ request.start ∨ request.energyKwh < 0)
    (.valueError "calculation interval and energy must be valid")
  raiseIf (request.cumulativeUsageBeforeKwh < 0) (.valueError "cumulative usage cannot be negative")
  raiseIf (¬ engine.ProperCycle request) (.valueError "tiered calculations require an exact aware billing cycle")
  let points ← engine.boundaries request.start request.finish
  let tiers ← engine.cycleTiers request
  let ledger ← (pairwise points).foldlM (engine.priceSlice request tiers)
    { cumulative := request.cumulativeUsageBeforeKwh }
  pure (engine.settle request tiers ledger)

/-- What the loop over the slices starts from. -/
def openingLedger : Ledger := { cumulative := request.cumulativeUsageBeforeKwh }

/-- A request that passes the checks at the start. -/
structure Accepted : Prop where
  interval : request.start < request.finish
  energy : 0 ≤ request.energyKwh
  usage : 0 ≤ request.cumulativeUsageBeforeKwh
  cycle : engine.ProperCycle request

/-- A calculation returns exactly when its checks pass and every part of it returns. -/
theorem calculate_eq_ok {calculation : Calculation} : engine.calculate request = .ok calculation ↔
    engine.Accepted request ∧ ∃ points tiers ledger,
      engine.boundaries request.start request.finish = .ok points ∧ engine.cycleTiers request = .ok tiers ∧
      (pairwise points).foldlM (engine.priceSlice request tiers) (openingLedger request) = .ok ledger ∧
      calculation = engine.settle request tiers ledger := by
  unfold calculate
  rw [raiseIf_bind_eq_ok, raiseIf_bind_eq_ok, raiseIf_bind_eq_ok, not_or, not_not, not_le, not_lt, not_lt]
  constructor
  · rintro ⟨⟨interval, energy⟩, usage, cycle, rest⟩
    obtain ⟨points, first, rest⟩ := bind_eq_ok.mp rest
    obtain ⟨tiers, second, rest⟩ := bind_eq_ok.mp rest
    obtain ⟨ledger, third, rest⟩ := bind_eq_ok.mp rest
    exact ⟨⟨interval, energy, usage, cycle⟩, points, tiers, ledger, first, second, third, (Except.ok.inj rest).symm⟩
  · rintro ⟨⟨interval, energy, usage, cycle⟩, points, tiers, ledger, first, second, third, rfl⟩
    refine ⟨⟨interval, energy⟩, usage, cycle, bind_eq_ok.mpr ⟨points, first, ?_⟩⟩
    exact bind_eq_ok.mpr ⟨tiers, second, bind_eq_ok.mpr ⟨ledger, third, rfl⟩⟩

end RateEngine
end PowerMonitor.Rates
