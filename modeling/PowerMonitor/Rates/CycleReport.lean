import PowerMonitor.Foundation
import PowerMonitor.Rates.ReadingOrder

/-! The report of a billing cycle.

After the usage has been allocated to tiers, the engine of the version in effect now is asked four more times: for the
price of one second from now on, for the rest of the cycle, and, where the account wants a full bill, for the cycle until
now and as a whole. Coverage decides what is said about the projection.
-/

set_option autoImplicit false
namespace PowerMonitor.Rates
open Library Calendar

/-! ## Projections -/

inductive ProjectionMethod where | straightLine | recent7Day | sameWeekdayProfile
  deriving DecidableEq, Repr

inductive Confidence where | low | medium | high
  deriving DecidableEq, Repr

structure Projection where
  method : ProjectionMethod
  actualEnergyKwh : Rat
  projectedEnergyKwh : Rat
  elapsedPercent : Rat
  confidence : Confidence
  deriving DecidableEq, Repr

/-- What a method makes of the usage so far. -/
def projectedEnergy (actualEnergyKwh : Rat) (elapsedSeconds totalSeconds : Int) (method : ProjectionMethod)
    (recentDailyAverageKwh profileRemainingKwh : Option Rat) : Except EngineError Rat :=
  match method with
  | .straightLine => pure (actualEnergyKwh * totalSeconds / elapsedSeconds)
  | .recent7Day =>
      match recentDailyAverageKwh.filter fun average => decide (0 ≤ average) with
      | some average => pure (actualEnergyKwh + average * (totalSeconds - elapsedSeconds : Int) / 86400)
      | none => .error (.valueError "recent seven-day projection requires a non-negative daily average")
  | .sameWeekdayProfile =>
      match profileRemainingKwh.filter fun energy => decide (0 ≤ energy) with
      | some energy => pure (actualEnergyKwh + energy)
      | none => .error (.valueError "same-weekday projection requires remaining profile energy")

/-- `project_billing_cycle` -/
def projectBillingCycle (actualEnergyKwh : Rat) (elapsedSeconds totalSeconds : Int) (method : ProjectionMethod)
    (recentDailyAverageKwh profileRemainingKwh : Option Rat := none) : Except EngineError Projection := do
  raiseIf (actualEnergyKwh < 0 ∨ elapsedSeconds ≤ 0 ∨ totalSeconds < elapsedSeconds)
    (.valueError "projection inputs must describe a positive partial billing cycle")
  let projected ← projectedEnergy actualEnergyKwh elapsedSeconds totalSeconds method recentDailyAverageKwh
    profileRemainingKwh
  let elapsedPercent : Rat := elapsedSeconds / totalSeconds * 100
  pure
    { method := method
      actualEnergyKwh := actualEnergyKwh
      projectedEnergyKwh := projected
      elapsedPercent := elapsedPercent
      confidence := if elapsedPercent < 25 then .low else if elapsedPercent < 60 then .medium else .high }

/-! ## What a report is made of -/

inductive UsageSource where | sensorMeasurements | advancedExternalCorrection
  deriving DecidableEq, Repr

/-- What the account says about its bills. -/
structure CycleAccount where
  costScopeDefault : CostScope
  baselineAllocationKwh : Option Rat := none
  deriving DecidableEq, Repr

/-- What is read for the calculation of a cycle. -/
structure CycleInputs where
  account : CycleAccount
  cycleStart : Int
  cycleEnd : Int
  usageSource : UsageSource
  /-- What the authority's devices gave reason to warn of. -/
  warnings : List String := []
  initialUsage : Rat := 0
  context : Option (Int × Option String) := none
  intervals : List AuthoritativeInterval
  contexts : List TierContext

structure BillComponents where
  energyCharge : Rat
  fixedCharge : Option Rat := none
  credits : Option Rat := none
  adjustments : Option Rat := none
  estimatedTotal : Option Rat := none
  projectedTotal : Option Rat := none
  scope : CostScope
  accountAdjustments : List (String × Rat) := []
  deriving DecidableEq, Repr

structure CycleReport where
  pricingModel : PricingModel
  rateVersion : String
  status : CycleTierStatus
  currentTier : Option ResolvedTier
  currentRatePeriod : String
  currentEnergyPrice : Rat
  remainingKwh : Option Rat
  /-- The tiers of the cycle with their usage and charge. -/
  tiers : List (ResolvedTier × Rat × Rat)
  energyCharge : Rat
  blendedEnergyRate : Option Rat
  projectedUsageKwh : Option Rat
  projectedEnergyCharge : Option Rat
  projectedFinalTier : Option ResolvedTier
  projectionMethod : Option ProjectionMethod
  /-- `insufficient_coverage` is `none`. -/
  projectionConfidence : Option Confidence
  coveragePercent : Rat
  billComponents : BillComponents
  warnings : List String
  deriving DecidableEq, Repr

inductive CycleAnswer where
  | unavailable (reason : String)
  | available (report : CycleReport)
  deriving DecidableEq, Repr

/-- `MINIMUM_SENSOR_PROJECTION_COVERAGE_PERCENT` -/
def minimumSensorProjectionCoveragePercent : Rat := 50

def contextWarning : String :=
  "Account tier is based on the latest explicit cumulative-usage context; " ++
    "partial-circuit energy does not advance the account tier."

def missingRateWarning : String :=
  "One or more authoritative intervals have no tiered rate coverage; totals are partial."

def coverageWarning : String := "Projection confidence is reduced by incomplete cycle coverage."

def projectionWarning : String := "Projection is unavailable until sensor coverage reaches 50% of the elapsed cycle."

/-! ## The report -/

/-- The instant of a reading of the clock, moved into the cycle. -/
def nowInCycle (cycleStart cycleEnd now : Int) : Int := min (max now cycleStart) cycleEnd

/-- The last instant that is looked up; the division of a duration rounds to whole microseconds. -/
def finalInstant (cycleStart cycleEnd : Int) : Int :=
  cycleEnd - roundHalfEven (((cycleEnd - cycleStart : Int) : Rat) / 1000000)

/-- The version in effect, else the last one of the cycle. -/
def activeContext (contexts : List TierContext) (last : TierContext) (cycleStart cycleEnd now : Int) : TierContext :=
  (tierContextAt contexts (min now (finalInstant cycleStart cycleEnd))).getD last

/-- The seconds of the cycle so far, at least one. -/
def elapsedSeconds (cycleStart now : Int) : Int := max 1 ((now - cycleStart) / 1000000)

def totalSeconds (cycleStart cycleEnd now : Int) : Int :=
  max (elapsedSeconds cycleStart now) ((cycleEnd - cycleStart) / 1000000)

namespace CycleInputs
variable (inputs : CycleInputs)

/-- An energy charge on top of the usage so far. -/
def energyRequest (start finish : Int) (energyKwh cumulative : Rat) : CalculationRequest :=
  { start := start, finish := finish, energyKwh := energyKwh, cumulativeUsageBeforeKwh := cumulative
    cycleStart := some inputs.cycleStart, cycleEnd := some inputs.cycleEnd }

/-- A bill from the start of the cycle on. -/
def billRequest (finish : Int) (energyKwh : Rat) : CalculationRequest :=
  { start := inputs.cycleStart, finish := finish, energyKwh := energyKwh, costScope := .fullAccountEstimate
    baselineAllocationKwh := inputs.account.baselineAllocationKwh
    cycleStart := some inputs.cycleStart, cycleEnd := some inputs.cycleEnd }

/-- The price of one second from now on. -/
def currentPrice (engine : RateEngine) (now : Int) (cumulative : Rat) : Except EngineError CostSlice := do
  let calculation ← engine.calculate
    (inputs.energyRequest now (min inputs.cycleEnd (now + seconds 1)) 0 cumulative)
  match calculation.slices with
  | slice :: _ => pure slice
  | [] => .error (.runtimeError "list index out of range")

/-- The energy charge with what the rest of the cycle is expected to add. -/
def projectedEnergyCharge (engine : RateEngine) (now : Int) (cumulative projected actualCharge : Rat) :
    Except EngineError Rat :=
  if cumulative < projected ∧ now < inputs.cycleEnd then do
    let calculation ← engine.calculate (inputs.energyRequest now inputs.cycleEnd (projected - cumulative) cumulative)
    pure (actualCharge + calculation.energyCharge)
  else pure actualCharge

/-- `_bill_components`, which reads the clock again. -/
def billComponents (engine : RateEngine) (later : Int) (usage projectedUsage energyCharge projectedEnergyCharge : Rat) :
    Except EngineError BillComponents :=
  if inputs.account.costScopeDefault ≠ .fullAccountEstimate then
    pure { energyCharge := energyCharge, scope := .energyOnly }
  else do
    let current ← engine.calculate (inputs.billRequest (min later inputs.cycleEnd) usage)
    let projected ← engine.calculate (inputs.billRequest inputs.cycleEnd projectedUsage)
    let currentNonEnergy := current.total - current.energyCharge
    let projectedNonEnergy := projected.total - projected.energyCharge
    pure
      { energyCharge := energyCharge
        fixedCharge := some current.fixedCharge
        credits := some (-current.baselineCredit)
        adjustments := some (current.ccaAdjustment + current.otherAdjustment)
        estimatedTotal := some (energyCharge + currentNonEnergy)
        projectedTotal := some (projectedEnergyCharge + projectedNonEnergy)
        scope := inputs.account.costScopeDefault
        accountAdjustments := current.adjustmentBreakdown }

def coveragePercent (status : CycleTierStatus) (elapsed : Int) : Rat := min 100 (status.coverageSeconds / elapsed * 100)

def projectionAvailable (coverage : Rat) : Bool :=
  inputs.usageSource ≠ .sensorMeasurements ∨ minimumSensorProjectionCoveragePercent ≤ coverage

def reportWarnings (status : CycleTierStatus) (coverage : Rat) : List String :=
  inputs.warnings ++
    (if inputs.intervals = [] ∧ inputs.context ≠ none then [contextWarning] else []) ++
    (if status.missingRate then [missingRateWarning] else []) ++
    (if coverage < 80 then [coverageWarning] else []) ++
    if inputs.projectionAvailable coverage then [] else [projectionWarning]

def confidenceFor (coverage : Rat) (projection : Projection) : Confidence :=
  if coverage < 50 then .low else if coverage < 90 then .medium else projection.confidence

/-- What follows the allocation of the usage to tiers. -/
def report (last : TierContext) (status : CycleTierStatus) (clock later : Int) : Except EngineError CycleReport := do
  let now := nowInCycle inputs.cycleStart inputs.cycleEnd clock
  let active := activeContext inputs.contexts last inputs.cycleStart inputs.cycleEnd now
  let tiers ← active.engine.resolvedTiers inputs.cycleStart inputs.cycleEnd
  let price ← inputs.currentPrice active.engine now status.cumulative
  let elapsed := elapsedSeconds inputs.cycleStart now
  let projection ← projectBillingCycle status.cumulative elapsed (totalSeconds inputs.cycleStart inputs.cycleEnd now)
    .straightLine
  let actualCharge := (status.chargeByTier.map Prod.snd).sum
  let projectedCharge ← inputs.projectedEnergyCharge active.engine now status.cumulative projection.projectedEnergyKwh
    actualCharge
  let components ← inputs.billComponents active.engine later status.cumulative projection.projectedEnergyKwh actualCharge
    projectedCharge
  let currentTier := tierAt tiers status.cumulative
  let coverage := coveragePercent status elapsed
  let projected {α : Type} (value : α) : Option α := if inputs.projectionAvailable coverage then some value else none
  pure
    { pricingModel := active.engine.plan.pricingModel
      rateVersion := active.rateVersion
      status := status
      currentTier := currentTier
      currentRatePeriod := price.bucket
      currentEnergyPrice := price.pricePerKwh
      remainingKwh := currentTier.bind fun tier => tier.upperBoundKwh.map fun upper => max 0 (upper - status.cumulative)
      tiers := tiers.map fun tier =>
        (tier, amountAt status.usageByTier tier.tier.tierId, amountAt status.chargeByTier tier.tier.tierId)
      energyCharge := actualCharge
      blendedEnergyRate :=
        if inputs.initialUsage < status.cumulative then some (actualCharge / (status.cumulative - inputs.initialUsage))
        else none
      projectedUsageKwh := projected projection.projectedEnergyKwh
      projectedEnergyCharge := projected projectedCharge
      projectedFinalTier := (projected (tierAt tiers projection.projectedEnergyKwh)).join
      projectionMethod := projected projection.method
      projectionConfidence := projected (confidenceFor coverage projection)
      coveragePercent := coverage
      billComponents :=
        { components with
          projectedTotal := if inputs.projectionAvailable coverage then components.projectedTotal else none }
      warnings := inputs.reportWarnings status coverage }

/-- `calculate_cycle_tier_status` from the rate versions on. -/
def calculate (clock later : Int) : Except EngineError CycleAnswer :=
  match inputs.contexts.getLast? with
  | none => pure (.unavailable "No effective rate version covers this billing cycle.")
  | some last =>
      if inputs.contexts.all fun context => !context.tiered then
        pure (.unavailable "The assigned rate is not a billing-cycle tiered plan.")
      else if inputs.intervals = [] ∧ inputs.initialUsage = 0 ∧ inputs.context = none then
        pure (.unavailable ("No authoritative account-total readings are available for this cycle. " ++
          "The server will not assume zero usage or guess Tier 1."))
      else do
        let status ← calculateCycleTierStatus inputs.cycleStart inputs.cycleEnd inputs.contexts inputs.initialUsage
          inputs.context inputs.intervals
        let report ← inputs.report last status clock later
        pure (.available report)

end CycleInputs

section Report
variable {inputs : CycleInputs} {last : TierContext} {status : CycleTierStatus} {clock later : Int} {report : CycleReport}

/-- A report that is available is made from the status of the cycle. -/
theorem calculate_available (run : inputs.calculate clock later = .ok (.available report)) : ∃ last status,
    calculateCycleTierStatus inputs.cycleStart inputs.cycleEnd inputs.contexts inputs.initialUsage inputs.context
      inputs.intervals = .ok status ∧ inputs.report last status clock later = .ok report := by
  unfold CycleInputs.calculate at run
  split at run
  · cases run
  · next last found =>
      split at run
      · cases run
      · split at run
        · cases run
        · obtain ⟨status, calculated, run⟩ := bind_eq_ok.mp run
          obtain ⟨made, reported, done⟩ := bind_eq_ok.mp run
          cases done
          exact ⟨last, status, calculated, reported⟩

/-- What a report says of its status, its coverage and its warnings. -/
theorem report_parts (made : inputs.report last status clock later = .ok report) :
    report.status = status ∧ report.coveragePercent = CycleInputs.coveragePercent status
        (elapsedSeconds inputs.cycleStart (nowInCycle inputs.cycleStart inputs.cycleEnd clock)) ∧
      report.warnings = inputs.reportWarnings status report.coveragePercent := by
  obtain ⟨tiers, _, made⟩ := bind_eq_ok.mp made
  obtain ⟨price, _, made⟩ := bind_eq_ok.mp made
  obtain ⟨projection, _, made⟩ := bind_eq_ok.mp made
  obtain ⟨charge, _, made⟩ := bind_eq_ok.mp made
  obtain ⟨components, _, done⟩ := bind_eq_ok.mp made
  cases done
  exact ⟨rfl, rfl, rfl⟩

end Report
end PowerMonitor.Rates
