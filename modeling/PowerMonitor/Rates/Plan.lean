import PowerMonitor.Calendar.Date
import PowerMonitor.Library.Fallible
import Mathlib.Data.List.Sort

/-! The plan dictionary of the rate engine and its validation.

The dictionary is typed: numbers are exact rationals, a key that the engine reads
with a default may be absent, and keys the lowering of a document always writes are
present. Names the engine checks itself keep a constructor for the unsupported ones.
-/

set_option autoImplicit false
namespace PowerMonitor.Rates
open Library Calendar

inductive EngineError where
  | valueError (message : String)
  | runtimeError (message : String)
  | keyError (key : String)
  deriving DecidableEq, Repr

inductive PricingModel where
  | flat | timeOfUse | tiered | timeOfUseTiered
  | unsupported (name : String)
  deriving DecidableEq, Repr

inductive ThresholdBasis where
  | fixedCycleKwh | dailyBaselineKwh
  | unsupported (name : String)
  deriving DecidableEq, Repr

inductive RoundingPolicy where | none | nearestKwh | floorKwh | ceilKwh
  deriving DecidableEq, Repr

inductive HybridMethod where | tierPeriodMatrix | tierBasePlusTouAdder | touBasePlusTierAdder
  deriving DecidableEq, Repr

inductive DayType where | weekday | weekend
  deriving DecidableEq, Repr

/-- `[start, end, bucket, price]`, in minutes of the day. -/
structure RatePeriod where
  start : Int
  finish : Int
  bucket : String
  price : Rat
  deriving DecidableEq, Repr

structure Season where
  start : MonthDay
  finish : MonthDay
  priority : Int := 0
  deriving DecidableEq, Repr

structure SeasonalBaseline where
  start : MonthDay
  finish : MonthDay
  dailyKwh : Rat
  deriving DecidableEq, Repr

structure TierThreshold where
  basis : ThresholdBasis := .fixedCycleKwh
  dailyBaselineKwh : Option Rat := none
  seasonalBaselines : List SeasonalBaseline := []
  roundingPolicy : RoundingPolicy := .none
  deriving DecidableEq, Repr

structure Tier where
  tierId : String
  name : String
  order : Int
  lowerBoundInclusiveKwh : Option Rat := none
  upperBoundExclusiveKwh : Option Rat := none
  lowerBoundMultiplier : Option Rat := none
  upperBoundMultiplier : Option Rat := none
  pricePerKwh : Rat
  touPrices : List (String × Rat) := []
  deriving DecidableEq, Repr

inductive Component where
  | dailyFixedCharge | monthlyFixedCharge | minimumCharge | baselineCredit | percentageTax | fixedTax
  | generationProvider | cca | directAccess | manualCredit | other
  deriving DecidableEq, Repr

inductive Operation where | add | subtract | minimum | multiply
  deriving DecidableEq, Repr

structure Adjustment where
  name : String
  component : Component
  operation : Operation := .add
  value : Rat
  unit : String
  scope : String := "full_account_estimate"
  effectiveFrom : Option Int := none
  effectiveTo : Option Int := none
  calculationOrder : Int := 0
  deriving DecidableEq, Repr

theorem firstDay : 1 ≤ 1 ∧ 1 ≤ 31 := by decide

/-- The dictionary `RateEngine` is built from. Dates are day numbers. -/
structure Plan where
  pricingModel : PricingModel := .timeOfUse
  baseServiceChargePerDay : Rat := 0
  baselineCreditPerKwh : Option Rat := none
  flatRatePerKwh : Option Rat := none
  expectedStartDay : { day : Nat // 1 ≤ day ∧ day ≤ 31 } := ⟨1, firstDay⟩
  threshold : TierThreshold := {}
  tiers : List Tier := []
  hybridPricing : Option HybridMethod := none
  periods : List (String × List (DayType × List RatePeriod)) := []
  specialSchedules : List (String × List (Int × List RatePeriod)) := []
  seasons : List (String × Season) := []
  adjustments : List Adjustment := []
  deriving DecidableEq, Repr

def PricingModel.isTiered : PricingModel → Bool
  | .tiered | .timeOfUseTiered => true
  | _ => false

def PricingModel.isTimeOfUse : PricingModel → Bool
  | .timeOfUse | .timeOfUseTiered => true
  | _ => false

/-! ## Tiers -/

/-- Tiers in ascending order; equal orders keep their place. -/
def Plan.orderedTiers (plan : Plan) : List Tier := plan.tiers.insertionSort fun a b => a.order ≤ b.order

def Tier.lowerBound (basis : ThresholdBasis) (tier : Tier) : Rat :=
  match basis with
  | .dailyBaselineKwh => tier.lowerBoundMultiplier.getD 0
  | _ => tier.lowerBoundInclusiveKwh.getD 0

def Tier.upperBound (basis : ThresholdBasis) (tier : Tier) : Option Rat :=
  match basis with
  | .dailyBaselineKwh => tier.upperBoundMultiplier
  | _ => tier.upperBoundExclusiveKwh

/-- What the loop over the tiers carries. -/
structure TierCheck where
  remaining : Nat
  cursor : Rat := 0
  tierIds : List String := []

def checkTier (basis : ThresholdBasis) (state : TierCheck) (tier : Tier) : Except EngineError TierCheck := do
  raiseIf (tier.tierId = "" ∨ tier.tierId ∈ state.tierIds) (.valueError "tier IDs must be present and unique")
  let lower := tier.lowerBound basis
  let upper := tier.upperBound basis
  raiseIf (lower ≠ state.cursor ∨ tier.pricePerKwh < 0)
    (.valueError "tier bounds must be gap-free and rates non-negative")
  raiseIf (1 < state.remaining ∧ ∀ limit ∈ upper, limit ≤ lower)
    (.valueError "every non-final tier needs a greater upper boundary")
  pure ⟨state.remaining - 1, upper.getD state.cursor, tier.tierId :: state.tierIds⟩

def validateTiers (plan : Plan) : Except EngineError Unit := do
  let tiers := plan.orderedTiers
  raiseIf (tiers.length < 2 ∨ tiers.map Tier.order ≠ (List.range tiers.length).map Int.ofNat)
    (.valueError "tiered pricing requires ordered contiguous tiers")
  raiseIf (plan.threshold.basis ≠ .fixedCycleKwh ∧ plan.threshold.basis ≠ .dailyBaselineKwh)
    (.valueError "unsupported tier threshold basis")
  let _ ← tiers.foldlM (checkTier plan.threshold.basis) { remaining := tiers.length }
  raiseIf (∃ last ∈ tiers.getLast?, last.upperBoundExclusiveKwh ≠ none ∨ last.upperBoundMultiplier ≠ none)
    (.valueError "the final tier must be open-ended")

/-! ## Schedules -/

def DayType.text : DayType → String
  | .weekday => "weekday"
  | .weekend => "weekend"

/-- A number with leading zeros. -/
def padded (width : Nat) (value : Int) : String :=
  let digits := toString value
  String.ofList (List.replicate (width - digits.length) '0') ++ digits

/-- `date.isoformat()` -/
def isoformat (date : Int) : String :=
  padded 4 (yearOf date) ++ "-" ++ padded 2 (monthDay date).month ++ "-" ++ padded 2 (monthDay date).day

/-- Every schedule of the plan with the label its errors carry. -/
def Plan.schedules (plan : Plan) : List (String × List RatePeriod) :=
  (plan.periods.flatMap fun (season, dayTypes) =>
    dayTypes.map fun (dayType, periods) => (season ++ "/" ++ dayType.text, periods)) ++
  plan.specialSchedules.flatMap fun (season, dates) =>
    dates.map fun (date, periods) => (season ++ "/special/" ++ isoformat date, periods)

def checkPeriod (label : String) (cursor : Int) (period : RatePeriod) : Except EngineError Int := do
  raiseIf (period.start ≠ cursor ∨ period.finish ≤ period.start ∨ period.price < 0)
    (.valueError (label ++ " periods must be non-overlapping and contiguous"))
  raiseIf (period.bucket = "") (.valueError "rate bucket cannot be empty")
  pure period.finish

def checkSchedule (schedule : String × List RatePeriod) : Except EngineError Unit := do
  let ordered := schedule.2.insertionSort fun a b => a.start ≤ b.start
  let cursor ← ordered.foldlM (checkPeriod schedule.1) 0
  raiseIf (cursor ≠ 1440) (.valueError (schedule.1 ++ " does not cover 24 hours"))

/-! ## The whole plan -/

/-- The checks of a flat plan. -/
def validateFlat (plan : Plan) : Except EngineError Unit :=
  match plan.flatRatePerKwh with
  | none => throw (.valueError "flat pricing requires a rate")
  | some rate => raiseIf (rate < 0) (.valueError "flat energy rate cannot be negative")

/-- `RateEngine.validate_plan` -/
def validatePlan (plan : Plan) : Except EngineError Unit := do
  match plan.pricingModel with
  | .unsupported _ => throw (.valueError "unsupported pricing model")
  | .flat => validateFlat plan
  | .tiered => validateTiers plan
  | .timeOfUse => plan.schedules.forM checkSchedule
  | .timeOfUseTiered => do
      validateTiers plan
      plan.schedules.forM checkSchedule

end PowerMonitor.Rates
