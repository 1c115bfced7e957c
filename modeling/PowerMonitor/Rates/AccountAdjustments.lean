import PowerMonitor.Rates.Recalculation

/-! The adjustments of an account in a cost run.

Adjustments per kilowatt hour and fixed ones become part of the calculation over the whole window. Percentages are kept
apart, each with the part of the window it is in effect, to be taken of what that calculation comes to.
-/

set_option autoImplicit false
namespace PowerMonitor.Rates
open Library Calendar

/-! ## The terms of an account -/

inductive AccountComponent where
  | ccaGeneration | directAccess | baselineCredit | serviceCharge | taxFee | customFixed | customPerKwh
  deriving DecidableEq, Repr

inductive AccountUnit where | perKwh | fixed | percent | included
  deriving DecidableEq, Repr

structure UtilityAccountAdjustment where
  component : AccountComponent
  value : Rat
  unit : AccountUnit
  effectiveFrom : Int
  effectiveTo : Option Int := none
  enabled : Bool := true
  deriving DecidableEq, Repr

structure ManualBillAdjustment where
  amount : Rat
  createdAt : Int
  deriving DecidableEq, Repr

/-- A `RateAdjustment` row of the version. -/
structure VersionAdjustment where
  component : String
  operation : String
  unit : String
  amount : Rat
  deriving DecidableEq, Repr

/-- What the worker reads for the account of a run. -/
structure AccountInputs where
  costScopeDefault : CostScope := .energyOnly
  aggregateScope : CostScope := .energyOnly
  baselineAllocationKwh : Option Rat := none
  /-- Whether the version has a document, which then holds its adjustments. -/
  documented : Bool := true
  versionAdjustments : List VersionAdjustment := []
  manualAdjustments : List ManualBillAdjustment := []
  adjustments : List UtilityAccountAdjustment := []

/-- `_window_fraction` -/
def windowFraction (windowStart windowEnd effectiveFrom : Int) (effectiveTo : Option Int) : Rat :=
  let start := max windowStart effectiveFrom
  let finish := effectiveTo.elim windowEnd (min windowEnd)
  if finish ≤ start then 0 else secondsBetween start finish / secondsBetween windowStart windowEnd

/-- `_effective_interval_energy_kwh` -/
def effectiveEnergy (intervals : List NormalizedInterval) (item : UtilityAccountAdjustment) : Rat :=
  (intervals.map fun interval => interval.energyKwh *
    windowFraction interval.intervalStart interval.intervalEnd item.effectiveFrom item.effectiveTo).sum

namespace AccountInputs
variable (account : AccountInputs)

def effectiveScope : CostScope :=
  if account.costScopeDefault = .allocatedAccountEstimate ∧
      (account.aggregateScope = .allocatedAccount ∨ account.aggregateScope = .fullAccount) then .allocatedAccountEstimate
  else if account.costScopeDefault = .fullAccountEstimate ∧ account.aggregateScope = .fullAccount then .fullAccountEstimate
  else .energyOnly

def ccaPerKwh : Rat :=
  if account.documented then 0
  else ((account.versionAdjustments.filter fun item =>
    item.component ∈ ["cca_generation", "cca", "direct_access", "generation_provider"] ∧
      (item.operation = "per_kwh" ∨ item.unit = "per_kwh")).map VersionAdjustment.amount).sum

def manualTotal (start finish : Int) : Rat :=
  ((account.manualAdjustments.filter fun item => start ≤ item.createdAt ∧ item.createdAt < finish).map
    ManualBillAdjustment.amount).sum

/-- The adjustments in effect in some part of the window. -/
def configured (start finish : Int) : List UtilityAccountAdjustment :=
  account.adjustments.filter fun item =>
    item.enabled ∧ item.effectiveFrom < finish ∧ item.effectiveTo.all fun last => decide (start < last)

end AccountInputs

/-- What the loop over the adjustments gathers. -/
structure AdjustmentTally where
  energyAmount : Rat := 0
  fixed : Rat
  percentages : List (Rat × Rat) := []
  breakdown : List (AccountComponent × Rat) := []
  deriving DecidableEq, Repr

/-- The body of the loop over the adjustments. A baseline credit is taken off, whatever its sign. -/
def tallyAdjustment (scope : CostScope) (intervals : List NormalizedInterval) (start finish : Int) (tally : AdjustmentTally)
    (item : UtilityAccountAdjustment) : AdjustmentTally :=
  let energy := effectiveEnergy intervals item
  let fraction := windowFraction start finish item.effectiveFrom item.effectiveTo
  let credit (amount : Rat) := if item.component = .baselineCredit then -|amount| else amount
  if (item.component = .ccaGeneration ∨ item.component = .directAccess ∨ item.component = .customPerKwh) ∧
      item.unit = .perKwh then
    { tally with
      energyAmount := tally.energyAmount + energy * item.value
      breakdown := addAmount tally.breakdown item.component (energy * item.value) }
  else if scope ≠ .energyOnly ∧ item.unit = .percent then
    { tally with percentages := tally.percentages ++ [(item.value, fraction)] }
  else if scope = .fullAccountEstimate ∧ item.unit = .perKwh then
    { tally with
      fixed := tally.fixed + credit (energy * item.value)
      breakdown := addAmount tally.breakdown item.component (credit (energy * item.value)) }
  else if scope = .fullAccountEstimate ∧ item.unit = .fixed then
    { tally with
      fixed := tally.fixed + credit (item.value * fraction)
      breakdown := addAmount tally.breakdown item.component (credit (item.value * fraction)) }
  else tally

namespace AccountInputs
variable (account : AccountInputs) (intervals : List NormalizedInterval) (start finish : Int)

def tally : AdjustmentTally :=
  (account.configured start finish).foldl (tallyAdjustment account.effectiveScope intervals start finish)
    { fixed := if account.effectiveScope = .fullAccountEstimate then account.manualTotal start finish else 0 }

/-- What the account and the version add to a run over the intervals. -/
def terms : AccountTerms :=
  let tally := account.tally intervals start finish
  let total := totalEnergy intervals
  { costScope := account.effectiveScope
    baselineAllocationKwh := account.baselineAllocationKwh
    ccaAdjustmentPerKwh := account.ccaPerKwh + if total = 0 then 0 else tally.energyAmount / total
    otherAdjustment := tally.fixed
    percentages := tally.percentages }

/-- The percentage adjustments that a run takes up; one that prices energy only takes up none. -/
def percentItems : List UtilityAccountAdjustment :=
  if account.effectiveScope = .energyOnly then []
  else (account.configured start finish).filter fun item => item.unit = .percent

/-- The percentages of a run, added up. -/
def percent : Rat := ((account.percentItems start finish).map UtilityAccountAdjustment.value).sum

/-- `configured_breakdown`, when the percentages come to the amount. -/
def breakdown (percentageAmount : Rat) : List (AccountComponent × Rat) :=
  let tally := account.tally intervals start finish
  if percentageAmount = 0 then tally.breakdown else addAmount tally.breakdown .taxFee percentageAmount

/-- What the breakdown has under the tax fee, less what adjustments of another unit have put there. -/
def taxFee (percentageAmount : Rat) : Rat :=
  amountAt (account.breakdown intervals start finish percentageAmount) .taxFee -
    amountAt (account.tally intervals start finish).breakdown .taxFee

@[simp] theorem taxFee_eq (percentageAmount : Rat) :
    account.taxFee intervals start finish percentageAmount = percentageAmount := by
  unfold taxFee breakdown
  dsimp only
  split
  · next none => simp [none]
  · simp

end AccountInputs

/-- The adjustment is in effect during the whole window. -/
def UtilityAccountAdjustment.Throughout (item : UtilityAccountAdjustment) (start finish : Int) : Prop :=
  item.effectiveFrom ≤ start ∧ ∀ last ∈ item.effectiveTo, finish ≤ last

instance (item : UtilityAccountAdjustment) (start finish : Int) : Decidable (item.Throughout start finish) :=
  inferInstanceAs (Decidable (_ ∧ _))

theorem windowFraction_whole {start finish effectiveFrom : Int} {effectiveTo : Option Int} (window : start < finish)
    (begins : effectiveFrom ≤ start) (ends : ∀ last ∈ effectiveTo, finish ≤ last) :
    windowFraction start finish effectiveFrom effectiveTo = 1 := by
  have last : effectiveTo.elim finish (min finish) = finish := by
    cases effectiveTo with
    | none => rfl
    | some last => exact min_eq_left (ends last rfl)
  unfold windowFraction
  dsimp only
  rw [last, max_eq_left begins, if_neg (not_le.mpr window)]
  exact div_self (secondsBetween_pos window).ne'

section Percentages
variable {account : AccountInputs} {intervals : List NormalizedInterval} {start finish : Int}

/-- The percentages that the loop gathers, each with the part of the window it is in effect. -/
theorem tally_percentages : (account.tally intervals start finish).percentages =
    (account.percentItems start finish).map fun item =>
      (item.value, windowFraction start finish item.effectiveFrom item.effectiveTo) := by
  have step : ∀ (items : List UtilityAccountAdjustment) (tally : AdjustmentTally),
      (items.foldl (tallyAdjustment account.effectiveScope intervals start finish) tally).percentages =
        tally.percentages ++ ((if account.effectiveScope = .energyOnly then []
          else items.filter fun item => item.unit = .percent).map fun item =>
            (item.value, windowFraction start finish item.effectiveFrom item.effectiveTo)) := by
    intro items
    induction items with
    | nil =>
        intro tally
        simp
    | cons item rest ih =>
        intro tally
        rw [List.foldl_cons, ih]
        unfold tallyAdjustment
        dsimp only
        by_cases energyOnly : account.effectiveScope = .energyOnly
        · simp only [energyOnly]
          split <;> simp
        · by_cases percent : item.unit = .percent
          · simp [energyOnly, percent]
          · simp only [energyOnly, percent]
            split
            · simp [percent]
            · split
              · next taken => simp at taken
              · split
                · simp [percent]
                · split <;> simp [percent]
  unfold AccountInputs.tally AccountInputs.percentItems
  rw [step]
  simp

end Percentages
end PowerMonitor.Rates
