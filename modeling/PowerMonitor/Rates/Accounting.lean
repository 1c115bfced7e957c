import Mathlib.Tactic.Ring
import PowerMonitor.Rates.Splitting

/-! The parts of a bill against its total.

Every adjustment changes the total by its signed amount and one part by the same, except a baseline
credit: its part grows by the plain amount, which the total takes off only when the operation is to
subtract. The imbalance of a calculation is what its baseline credits leave uncredited.
-/

set_option autoImplicit false
namespace PowerMonitor.Rates
open Library Calendar

/-- What the total has beyond the sum of its parts. -/
def Totals.imbalance (totals : Totals) (energyCharge : Rat) : Rat :=
  totals.total - (energyCharge + totals.fixed - totals.baseline + totals.cca + totals.adjustments)

/-- The change of the total by a baseline credit together with the credit it records. -/
def Adjustment.uncredited (item : Adjustment) (amount total : Rat) : Rat :=
  if item.component = .baselineCredit then item.signed amount total + amount else 0

theorem Adjustment.uncredited_subtract {item : Adjustment} {amount total : Rat}
    (subtracts : item.component = .baselineCredit → item.operation = .subtract) : item.uncredited amount total = 0 := by
  unfold uncredited
  split
  · next credit =>
      have operation := subtracts credit
      simp [signed, credit, operation]
  · rfl

section Adjustments
variable (zone : Zone) (request : CalculationRequest) (slices : List CostSlice)

/-- What the baseline credits of a list leave uncredited, each at the total it meets. -/
def uncreditedSum : List Adjustment → Totals → Rat
  | [], _ => 0
  | item :: rest, totals =>
      (match adjustmentAmount zone request slices item totals.total with
        | some amount => item.uncredited amount totals.total
        | none => 0) + uncreditedSum rest (applyAdjustment zone request slices totals item)

variable {zone request slices}

/-- One adjustment moves the total and the parts alike, apart from what it leaves uncredited. -/
theorem applyAdjustment_imbalance (totals : Totals) (item : Adjustment) (energyCharge : Rat) :
    (applyAdjustment zone request slices totals item).imbalance energyCharge =
      totals.imbalance energyCharge +
        match adjustmentAmount zone request slices item totals.total with
        | some amount => item.uncredited amount totals.total
        | none => 0 := by
  unfold applyAdjustment
  cases adjustmentAmount zone request slices item totals.total with
  | none => simp
  | some amount =>
      dsimp only
      cases kind : item.component <;> simp only [Totals.imbalance, Adjustment.uncredited, kind] <;> simp <;> ring

variable (zone request slices) in
theorem foldl_imbalance (items : List Adjustment) (totals : Totals) (energyCharge : Rat) :
    (items.foldl (applyAdjustment zone request slices) totals).imbalance energyCharge =
      totals.imbalance energyCharge + uncreditedSum zone request slices items totals := by
  induction items generalizing totals with
  | nil => simp [uncreditedSum]
  | cons item rest ih =>
      rw [List.foldl_cons, ih, applyAdjustment_imbalance, uncreditedSum, add_assoc]

theorem baseTotals_balanced (plan : Plan) (energyCharge : Rat) :
    (plan.baseTotals zone request slices energyCharge).imbalance energyCharge = 0 := by
  simp only [Totals.imbalance, Plan.baseTotals]
  ring

/-- Credits that subtract leave nothing uncredited. -/
theorem uncreditedSum_subtract {items : List Adjustment}
    (subtracts : ∀ item ∈ items, item.component = .baselineCredit → item.operation = .subtract) (totals : Totals) :
    uncreditedSum zone request slices items totals = 0 := by
  induction items generalizing totals with
  | nil => rfl
  | cons item rest ih =>
      rw [uncreditedSum, ih fun other member => subtracts other (List.mem_cons_of_mem _ member), add_zero]
      cases adjustmentAmount zone request slices item totals.total with
      | none => rfl
      | some amount => exact Adjustment.uncredited_subtract (subtracts item (by simp))

end Adjustments

namespace RateEngine
variable (engine : RateEngine) (request : CalculationRequest)

/-- The slices of a request. -/
def ledger : Except EngineError Ledger := do
  let points ← engine.boundaries request.start request.finish
  let tiers ← engine.cycleTiers request
  (pairwise points).foldlM (engine.priceSlice request tiers) (openingLedger request)

/-- What the baseline credits of the plan leave uncredited on a request. -/
def uncredited : Rat :=
  match engine.ledger request with
  | .error _ => 0
  | .ok ledger =>
      uncreditedSum engine.zone request ledger.slices
        (engine.plan.adjustments.insertionSort fun a b => a.calculationOrder ≤ b.calculationOrder)
        (engine.plan.baseTotals engine.zone request ledger.slices ledger.energyCharge)

end RateEngine

/-- The accounting identity of a bill. -/
def Calculation.Balances (calculation : Calculation) : Prop :=
  calculation.total = calculation.energyCharge + calculation.fixedCharge - calculation.baselineCredit +
    calculation.ccaAdjustment + calculation.otherAdjustment

instance (calculation : Calculation) : Decidable calculation.Balances := inferInstanceAs (Decidable (_ = _))

namespace RateEngine
variable {engine : RateEngine} {request : CalculationRequest}

/-- The total of a bill is its parts and what its credits leave uncredited. -/
theorem settle_total (tiers : List ResolvedTier) (ledger : Ledger) (made : engine.ledger request = .ok ledger) :
    (engine.settle request tiers ledger).total = (engine.settle request tiers ledger).energyCharge +
      (engine.settle request tiers ledger).fixedCharge - (engine.settle request tiers ledger).baselineCredit +
      (engine.settle request tiers ledger).ccaAdjustment + (engine.settle request tiers ledger).otherAdjustment +
      engine.uncredited request := by
  have gap := foldl_imbalance engine.zone request ledger.slices
    (engine.plan.adjustments.insertionSort fun a b => a.calculationOrder ≤ b.calculationOrder)
    (engine.plan.baseTotals engine.zone request ledger.slices ledger.energyCharge) ledger.energyCharge
  rw [baseTotals_balanced, zero_add] at gap
  rw [uncredited, made]
  dsimp only
  rw [← gap, Totals.imbalance]
  exact (add_sub_cancel _ _).symm

theorem settle_imbalance (tiers : List ResolvedTier) (ledger : Ledger) (made : engine.ledger request = .ok ledger) :
    (engine.settle request tiers ledger).Balances ↔ engine.uncredited request = 0 := by
  rw [Calculation.Balances, settle_total tiers ledger made, add_eq_left]

/-- The slices of a calculation that returns. -/
theorem ledger_of_calculate {calculation : Calculation} (returned : engine.calculate request = .ok calculation) :
    ∃ tiers ledger, engine.ledger request = .ok ledger ∧ calculation = engine.settle request tiers ledger := by
  obtain ⟨_, points, tiers, ledger, cut, resolved, priced, rfl⟩ := (engine.calculate_eq_ok request).mp returned
  exact ⟨tiers, ledger, bind_eq_ok.mpr ⟨points, cut, bind_eq_ok.mpr ⟨tiers, resolved, priced⟩⟩, rfl⟩

/-- A flat plan with one baseline credit of ten cents per kilowatt hour. -/
def creditPlan (operation : Operation) : Plan :=
  { pricingModel := .flat
    flatRatePerKwh := some (1 / 5)
    adjustments := [{ name := "Baseline", component := .baselineCredit, operation := operation, value := 1 / 10,
                      unit := "per_kwh" }] }

def creditEngine (operation : Operation) (valid : validatePlan (creditPlan operation) = .ok ()) : RateEngine :=
  ⟨creditPlan operation, springForward, valid⟩

def creditRequest : CalculationRequest :=
  { start := 0, finish := dayLength, energyKwh := 10, costScope := .fullAccount, baselineAllocationKwh := some 5 }

end RateEngine
end PowerMonitor.Rates
