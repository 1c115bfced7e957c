import Mathlib.Algebra.BigOperators.Ring.List
import PowerMonitor.Rates.AccountAdjustments

/-! Percentages of a cost run.

A percentage is taken of the total of a first calculation over the whole window, and added in a second one. For a tiered
plan the energy charge of the first is replaced by that of the rows. For any other plan it stays, and it prices the energy
of the run as if it were spread evenly over the window, where the rows price every interval at its own time.
-/

set_option autoImplicit false
namespace PowerMonitor.Rates
open Library Calendar

/-- What an account pays besides its energy. -/
def Calculation.apart (calculation : Calculation) : Rat :=
  calculation.fixedCharge - calculation.baselineCredit + calculation.ccaAdjustment + calculation.otherAdjustment

namespace RateEngine
variable (engine : RateEngine)

/-- `percentage_amount` -/
def percentageAmount (terms : AccountTerms) (start finish : Int) (energy : Rat) (energyCharge : Option Rat) :
    Except EngineError Rat := do
  let preliminary ← engine.calculate (terms.request start finish energy)
  let preliminaryTotal := match energyCharge with
    | some charge => preliminary.total - preliminary.energyCharge + charge
    | none => preliminary.total
  pure (terms.percentages.map fun term => preliminaryTotal * term.1 / 100 * term.2).sum

/-- What a request costs in energy; nothing, if it cannot be priced. -/
def chargeOf (request : CalculationRequest) : Rat :=
  match engine.calculate request with
  | .ok calculation => calculation.energyCharge
  | .error _ => 0

/-- What a request costs besides its energy. -/
def apartFromEnergy (request : CalculationRequest) : Rat :=
  match engine.calculate request with
  | .ok calculation => calculation.apart
  | .error _ => 0

theorem accountRows_eq_ok {terms : AccountTerms} {start finish : Int} {energy : Rat} {energyCharge : Option Rat}
    {rows : List CostIntervalResult} : engine.accountRows terms start finish energy energyCharge = .ok rows ↔
      ∃ amount components, engine.percentageAmount terms start finish energy energyCharge = .ok amount ∧
        engine.calculate { terms.request start finish energy with otherAdjustment := terms.otherAdjustment + amount } =
          .ok components ∧
        rows = componentRow start finish .fixedCharge components.fixedCharge ++
          componentRow start finish .baselineCredit (-components.baselineCredit) ++
          componentRow start finish .ccaAdjustment components.ccaAdjustment ++
          componentRow start finish .manualAdjustment components.otherAdjustment := by
  constructor
  · intro run
    obtain ⟨preliminary, first, run⟩ := bind_eq_ok.mp run
    obtain ⟨components, second, run⟩ := bind_eq_ok.mp run
    exact ⟨_, components, bind_eq_ok.mpr ⟨preliminary, first, rfl⟩, second, (Except.ok.inj run).symm⟩
  · rintro ⟨amount, components, first, second, rfl⟩
    obtain ⟨preliminary, priced, same⟩ := bind_eq_ok.mp first
    cases same
    exact bind_eq_ok.mpr ⟨preliminary, priced, bind_eq_ok.mpr ⟨components, second, rfl⟩⟩

end RateEngine

/-! ## The parts of a run -/

/-- What the rows of a component come to. -/
def JobResult.amount (result : JobResult) (component : CostComponent) : Rat :=
  totalCost (result.rows.filter fun row => row.component = component)

theorem totalCost_append (first second : List CostIntervalResult) :
    totalCost (first ++ second) = totalCost first + totalCost second := by
  rw [totalCost, List.map_append, List.sum_append]
  rfl

theorem totalCost_components (result : JobResult) : totalCost result.rows = result.amount .energy +
    result.amount .fixedCharge + result.amount .baselineCredit + result.amount .ccaAdjustment +
    result.amount .manualAdjustment := by
  unfold JobResult.amount
  induction result.rows with
  | nil => simp [totalCost]
  | cons row rest ih =>
      have head (rows : List CostIntervalResult) : totalCost (row :: rows) = row.unroundedCost + totalCost rows := rfl
      rw [head, ih]
      cases kind : row.component <;> simp [kind, head] <;> ring

theorem componentRow_amount (start finish : Int) (component other : CostComponent) (amount : Rat) :
    totalCost ((componentRow start finish component amount).filter fun row => row.component = other) =
      if component = other then amount else 0 := by
  unfold componentRow
  by_cases none : amount = 0
  · simp [none, totalCost]
  · by_cases same : component = other <;> simp [none, same, totalCost]

theorem tierRow_named {interval : NormalizedInterval} {exact : Bool} {weightedSeconds : Rat} {segment : TierSegment}
    {row : CostIntervalResult} (shared : tierRow interval exact weightedSeconds segment = some row) :
    row.normalizedIntervalId = some interval.id ∧ row.component = .energy := by
  unfold tierRow at shared
  dsimp only at shared
  split at shared
  · cases shared
  · cases shared
    exact ⟨rfl, rfl⟩

theorem tieredRows_energy {segments : List TierSegment} {selected : List NormalizedInterval} {row : CostIntervalResult}
    (member : row ∈ (tieredRows segments selected).1) : row.component = .energy := by
  induction selected with
  | nil => cases member
  | cons interval rest ih =>
      rw [tieredRows] at member
      cases shared : tierRows segments interval with
      | none => simp [shared] at member
      | some rows =>
          rw [shared] at member
          rcases List.mem_append.mp member with own | later
          · obtain ⟨_, rfl⟩ : _ ∧ _ = rows := by
              unfold tierRows at shared
              dsimp only at shared
              split at shared
              · cases shared
              · next proper => exact ⟨proper, Option.some.inj shared⟩
            obtain ⟨segment, _, shared⟩ := List.mem_filterMap.mp own
            exact (tierRow_named shared).2
          · exact ih later

namespace RateEngine
variable {engine : RateEngine} {terms : AccountTerms} {start finish : Int}

/-- What the account adds to a list of energy rows. -/
theorem accountRows_parts {energy : Rat} {energyCharge : Option Rat} {priced account : List CostIntervalResult}
    (energyOnly : ∀ row ∈ priced, row.component = .energy)
    (run : engine.accountRows terms start finish energy energyCharge = .ok account) :
    ∃ amount components, engine.percentageAmount terms start finish energy energyCharge = .ok amount ∧
      engine.calculate { terms.request start finish energy with otherAdjustment := terms.otherAdjustment + amount } =
        .ok components ∧
      ∀ completed, (⟨completed, priced ++ account⟩ : JobResult).amount .energy = totalCost priced ∧
        (⟨completed, priced ++ account⟩ : JobResult).amount .fixedCharge = components.fixedCharge ∧
        (⟨completed, priced ++ account⟩ : JobResult).amount .baselineCredit = -components.baselineCredit ∧
        (⟨completed, priced ++ account⟩ : JobResult).amount .ccaAdjustment = components.ccaAdjustment ∧
        (⟨completed, priced ++ account⟩ : JobResult).amount .manualAdjustment = components.otherAdjustment := by
  obtain ⟨amount, components, first, second, rfl⟩ := engine.accountRows_eq_ok.mp run
  refine ⟨amount, components, first, second, fun completed => ?_⟩
  have whole : priced.filter (fun row => row.component = .energy) = priced :=
    List.filter_eq_self.mpr fun row member => decide_eq_true (energyOnly row member)
  have none (component : CostComponent) (other : component ≠ .energy) :
      priced.filter (fun row => row.component = component) = [] := by
    rw [List.filter_eq_nil_iff]
    intro row member
    rw [energyOnly row member]
    simpa using other.symm
  unfold JobResult.amount
  simp only [List.filter_append, totalCost_append, componentRow_amount]
  simp [whole, none, totalCost]

/-- A calculation's total is its energy charge, what it adds to that and what its credits leave uncredited. -/
theorem calculate_total {request : CalculationRequest} {calculation : Calculation}
    (returned : engine.calculate request = .ok calculation) :
    calculation.total = calculation.energyCharge + calculation.apart + engine.uncredited request := by
  obtain ⟨tiers, ledger, made, rfl⟩ := ledger_of_calculate returned
  rw [settle_total tiers ledger made, Calculation.apart]
  ring

theorem chargeOf_eq {request : CalculationRequest} {calculation : Calculation}
    (returned : engine.calculate request = .ok calculation) : engine.chargeOf request = calculation.energyCharge := by
  rw [chargeOf, returned]

theorem apartFromEnergy_eq {request : CalculationRequest} {calculation : Calculation}
    (returned : engine.calculate request = .ok calculation) : engine.apartFromEnergy request = calculation.apart := by
  rw [apartFromEnergy, returned]

section Job
variable (engine) (devices : List String) (intervals : List NormalizedInterval) (terms) (start finish)

/-- What the percentages of a run come to. -/
def runPercentage (result : JobResult) : Rat :=
  match engine.percentageAmount terms start finish (totalEnergy (selectIntervals devices intervals start finish))
    (if engine.plan.pricingModel.isTiered then some (result.amount .energy) else none) with
  | .ok amount => amount
  | .error _ => 0

/-- What the intervals of a run cost at their own times beyond the same energy spread evenly over the window. The charge
of a tiered run replaces the latter. -/
def loadGap : Rat :=
  let selected := selectIntervals devices intervals start finish
  if engine.plan.pricingModel.isTiered then 0
  else (selected.map fun interval => engine.chargeOf interval.request).sum -
    engine.chargeOf (terms.request start finish (totalEnergy selected))

/-- What the plan's own adjustments make of an amount that is added to the bill. -/
def feedbackGap (amount : Rat) : Rat :=
  let request := terms.request start finish (totalEnergy (selectIntervals devices intervals start finish))
  engine.apartFromEnergy { request with otherAdjustment := request.otherAdjustment + amount } -
    (engine.apartFromEnergy request + amount)

variable {engine devices intervals terms start finish} {segments : List TierSegment} {result : JobResult}

/-- The rows of a completed run: those of its energy, and those of the account. -/
theorem costJob_rows (run : engine.costJob devices segments intervals terms start finish = .ok result)
    (completed : result.completed = true) :
    ∃ priced account, result = ⟨true, priced ++ account⟩ ∧ (∀ row ∈ priced, row.component = .energy) ∧
      engine.accountRows terms start finish (totalEnergy (selectIntervals devices intervals start finish))
        (if engine.plan.pricingModel.isTiered then some (totalCost priced) else none) = .ok account ∧
      (engine.plan.pricingModel.isTiered = false → totalCost priced =
        ((selectIntervals devices intervals start finish).map fun interval => engine.chargeOf interval.request).sum) := by
  unfold costJob at run
  cases tiered : engine.plan.pricingModel.isTiered with
  | true =>
      rw [tiered, if_pos rfl] at run
      dsimp only at run
      split at run
      · cases run
        cases completed
      · next rows priced =>
        obtain ⟨account, others, run⟩ := bind_eq_ok.mp run
        cases run
        exact ⟨rows, account, rfl, fun row member => tieredRows_energy (by rw [priced]; exact member), others, nofun⟩
  | false =>
      rw [tiered] at run
      obtain ⟨rows, priced, run⟩ := bind_eq_ok.mp run
      obtain ⟨account, others, run⟩ := bind_eq_ok.mp run
      cases run
      have made := mapM_rowsOf priced
      refine ⟨rows.flatten, account, rfl, ?_, others, fun _ => ?_⟩
      · intro row member
        rw [made] at member
        obtain ⟨part, listed, inside⟩ := List.mem_flatten.mp member
        obtain ⟨interval, _, rfl⟩ := List.mem_map.mp listed
        exact rowsOf_energy inside
      · rw [totalCost, List.map_flatten, List.sum_flatten, made, List.map_map, List.map_map]
        apply congrArg List.sum
        apply List.map_congr_left
        intro interval member
        obtain ⟨_, _, single⟩ := mapM_mem priced member
        obtain ⟨calculation, single, rows⟩ := bind_eq_ok.mp single
        rw [chargeOf_eq single]
        dsimp only [Function.comp_apply]
        unfold rowsOf intervalRows
        rw [single]
        change ((calculation.slices.map (sliceRow interval)).map CostIntervalResult.unroundedCost).sum = _
        obtain ⟨_, ledger, _, rfl⟩ := ledger_of_calculate single
        rw [List.map_map]
        rfl

/-- The percentages are taken of what the energy costs, spread evenly unless there are tiers, with what the account adds
to it, and become a part of what the account adds in the end. -/
theorem costJob_parts (run : engine.costJob devices segments intervals terms start finish = .ok result)
    (completed : result.completed = true) :
    let request := terms.request start finish (totalEnergy (selectIntervals devices intervals start finish))
    let amount := engine.runPercentage terms start finish devices intervals result
    engine.Accepted request ∧
      amount = (terms.percentages.map fun term =>
        (result.amount .energy - engine.loadGap terms start finish devices intervals + engine.apartFromEnergy request +
          engine.uncredited request) * term.1 / 100 * term.2).sum ∧
      result.amount .fixedCharge + result.amount .baselineCredit + result.amount .ccaAdjustment +
        result.amount .manualAdjustment =
          engine.apartFromEnergy { request with otherAdjustment := request.otherAdjustment + amount } := by
  obtain ⟨priced, account, rfl, energyOnly, others, charges⟩ := costJob_rows run completed
  obtain ⟨taken, components, first, second, parts⟩ := accountRows_parts energyOnly others
  obtain ⟨energy, fixed, baseline, cca, manual⟩ := parts true
  intro request amount
  have same : amount = taken := by
    change runPercentage _ _ _ _ _ _ _ = _
    rw [runPercentage, energy, first]
  obtain ⟨preliminary, spread, taken⟩ := bind_eq_ok.mp first
  refine ⟨((engine.calculate_eq_ok _).mp spread).1, ?_, ?_⟩
  · have base : (match (if engine.plan.pricingModel.isTiered then some (totalCost priced) else none) with
        | some charge => preliminary.total - preliminary.energyCharge + charge
        | none => preliminary.total) = totalCost priced - engine.loadGap terms start finish devices intervals +
          engine.apartFromEnergy request + engine.uncredited request := by
      rw [apartFromEnergy_eq spread, calculate_total spread, loadGap]
      cases tiered : engine.plan.pricingModel.isTiered with
      | true =>
          simp only [if_true]
          ring
      | false =>
          simp only [Bool.false_eq_true, if_false]
          rw [charges tiered, chargeOf_eq spread]
          ring
    rw [same, energy, ← Except.ok.inj taken]
    exact congrArg (fun base => (terms.percentages.map fun term => base * term.1 / 100 * term.2).sum) base
  · rw [same, fixed, baseline, cca, manual]
    refine Eq.trans ?_ (apartFromEnergy_eq second).symm
    rw [Calculation.apart]
    ring

/-! ## Without a gap -/

theorem flat_charge {request : CalculationRequest} (flat : engine.plan.pricingModel = .flat) {calculation : Calculation}
    (returned : engine.calculate request = .ok calculation) :
    calculation.energyCharge = request.energyKwh * engine.plan.wholeRate 0 := by
  have untiered : engine.plan.pricingModel.isTiered = false := by rw [flat]; rfl
  rw [← (slices_sums untiered returned).1]
  obtain ⟨accepted, points, tiers, ledger, found, resolved, fold, rfl⟩ := (calculate_eq_ok engine request).mp returned
  rw [cycleTiers_untiered untiered] at resolved
  cases resolved
  change (ledger.slices.map CostSlice.cost).sum = (ledger.slices.map CostSlice.energyKwh).sum * _
  refine foldlM_invariant (fun ledger : Ledger => (ledger.slices.map CostSlice.cost).sum =
    (ledger.slices.map CostSlice.energyKwh).sum * engine.plan.wholeRate 0) _ (by simp [openingLedger]) ?_ fold
  intro state piece next _ step before
  obtain ⟨tariff, _, step⟩ := bind_eq_ok.mp step
  rw [if_pos rfl] at step
  obtain ⟨price, priced, step⟩ := bind_eq_ok.mp step
  cases step
  -- The price of a flat plan does not depend on the period.
  have same : price = engine.plan.wholeRate 0 := by
    rw [Plan.wholePrice, if_pos flat] at priced
    rw [Plan.wholeRate, Plan.wholePrice, if_pos flat, priced]
    rfl
  rw [List.map_append, List.sum_append, before, List.map_append, List.sum_append, same]
  simp [add_mul]

/-- One price leaves no gap. -/
theorem loadGap_flat (flat : engine.plan.pricingModel = .flat)
    (run : engine.costJob devices segments intervals terms start finish = .ok result) :
    engine.loadGap terms start finish devices intervals = 0 := by
  have untiered : engine.plan.pricingModel.isTiered = false := by rw [flat]; rfl
  have priced := (costJob_ok untiered run).2
  have completed : result.completed = true := by
    unfold costJob at run
    rw [untiered] at run
    obtain ⟨rows, _, run⟩ := bind_eq_ok.mp run
    obtain ⟨account, _, run⟩ := bind_eq_ok.mp run
    cases run
    rfl
  obtain ⟨_, account, _, _, others, _⟩ := costJob_rows run completed
  obtain ⟨preliminary, spread, _⟩ := bind_eq_ok.mp others
  rw [loadGap, untiered, chargeOf_eq spread, flat_charge flat spread]
  have charges : (selectIntervals devices intervals start finish).map (fun interval => engine.chargeOf interval.request) =
      (selectIntervals devices intervals start finish).map fun interval =>
        interval.energyKwh * engine.plan.wholeRate 0 := by
    apply List.map_congr_left
    intro interval member
    obtain ⟨calculation, single⟩ := priced interval member
    rw [chargeOf_eq single, flat_charge flat single]
    rfl
  rw [charges, List.sum_map_mul_right, if_neg Bool.false_ne_true]
  exact sub_self _

theorem settle_apart (plain : engine.plan.adjustments = []) (request : CalculationRequest) (tiers : List ResolvedTier)
    (ledger : Ledger) : (engine.settle request tiers ledger).apart =
      (engine.plan.baseTotals engine.zone request ledger.slices ledger.energyCharge).fixed -
        (engine.plan.baseTotals engine.zone request ledger.slices ledger.energyCharge).baseline +
        request.energyKwh * request.ccaAdjustmentPerKwh +
        if request.costScope = .energyOnly then 0 else request.otherAdjustment := by
  unfold settle Calculation.apart
  rw [plain]
  rfl

/-- Without adjustments of its own, a plan takes an amount up as it is. -/
theorem feedbackGap_of_no_adjustments (plain : engine.plan.adjustments = []) {amount : Rat}
    (taken : terms.costScope = .energyOnly → amount = 0)
    (run : engine.costJob devices segments intervals terms start finish = .ok result)
    (completed : result.completed = true) :
    engine.feedbackGap terms start finish devices intervals amount = 0 := by
  obtain ⟨_, account, _, _, others, _⟩ := costJob_rows run completed
  obtain ⟨preliminary, spread, _⟩ := bind_eq_ok.mp others
  obtain ⟨accepted, points, tiers, ledger, found, resolved, fold, rfl⟩ := (calculate_eq_ok engine _).mp spread
  -- The charges of the account are no part of what can fail.
  have again : engine.calculate { terms.request start finish (totalEnergy (selectIntervals devices intervals start finish))
      with otherAdjustment := terms.otherAdjustment + amount } = .ok (engine.settle _ tiers ledger) :=
    (calculate_eq_ok engine _).mpr ⟨⟨accepted.interval, accepted.energy, accepted.usage, accepted.cycle⟩, points, tiers,
      ledger, found, resolved, fold, rfl⟩
  have before := (apartFromEnergy_eq spread).trans (settle_apart plain _ tiers ledger)
  have after := (apartFromEnergy_eq again).trans (settle_apart plain _ tiers ledger)
  have other : (if terms.costScope = .energyOnly then 0 else terms.otherAdjustment + amount) =
      (if terms.costScope = .energyOnly then 0 else terms.otherAdjustment) + amount := by
    split
    · next energyOnly => rw [taken energyOnly, add_zero]
    · rfl
  refine sub_eq_zero.mpr (after.trans ?_)
  rw [before]
  exact (congrArg (_ + ·) other).trans (add_assoc _ _ _).symm

end Job
end RateEngine

/-! ## The percentages -/

/-- What the rows come to without a tax fee that is part of the manual adjustment. -/
def JobResult.subtotal (result : JobResult) (fee : Rat) : Rat :=
  result.amount .energy + result.amount .fixedCharge + result.amount .baselineCredit + result.amount .ccaAdjustment +
    (result.amount .manualAdjustment - fee)

/-- The fee is the percentage of the run's own subtotal, and the rows come to both. -/
structure PercentagesApply (result : JobResult) (percent fee : Rat) : Prop where
  taken : fee = percent / 100 * result.subtotal fee
  total : totalCost result.rows = result.subtotal fee + fee

section Run
variable {engine : RateEngine} {account : AccountInputs} {devices : List String} {segments : List TierSegment}
  {intervals : List NormalizedInterval} {start finish : Int} {result : JobResult}

/-- What the rows come to beyond the total that the percentages are taken of. -/
def AccountInputs.baseGap (account : AccountInputs) (engine : RateEngine) (devices : List String)
    (intervals : List NormalizedInterval) (start finish : Int) (fee : Rat) : Rat :=
  let selected := selectIntervals devices intervals start finish
  let terms := account.terms selected start finish
  engine.loadGap terms start finish devices intervals + engine.feedbackGap terms start finish devices intervals fee -
    engine.uncredited (terms.request start finish (totalEnergy selected))

theorem terms_percentages (window : start < finish) (selected : List NormalizedInterval)
    (throughout : ∀ item ∈ account.percentItems start finish, item.Throughout start finish) (base : Rat) :
    ((account.terms selected start finish).percentages.map fun term => base * term.1 / 100 * term.2).sum =
      account.percent start finish / 100 * base := by
  change ((account.tally selected start finish).percentages.map _).sum = _
  rw [tally_percentages, List.map_map, AccountInputs.percent]
  have whole : (account.percentItems start finish).map ((fun term : Rat × Rat => base * term.1 / 100 * term.2) ∘
      fun item => (item.value, windowFraction start finish item.effectiveFrom item.effectiveTo)) =
        (account.percentItems start finish).map fun item => item.value * (base / 100) := by
    apply List.map_congr_left
    intro item member
    obtain ⟨begins, ends⟩ := throughout item member
    dsimp only [Function.comp_apply]
    rw [windowFraction_whole window begins ends]
    ring
  rw [whole, List.sum_map_mul_right]
  ring

/-- The fee of a run, as its breakdown has it. -/
def AccountInputs.runFee (account : AccountInputs) (engine : RateEngine) (devices : List String)
    (intervals : List NormalizedInterval) (start finish : Int) (result : JobResult) : Rat :=
  let selected := selectIntervals devices intervals start finish
  account.taxFee selected start finish
    (engine.runPercentage (account.terms selected start finish) start finish devices intervals result)

/-- The fee of a completed run is the percentage of its subtotal, less the gap. -/
theorem runFee_eq
    (run : engine.costJob devices segments intervals (account.terms (selectIntervals devices intervals start finish) start
      finish) start finish = .ok result) (completed : result.completed = true)
    (throughout : ∀ item ∈ account.percentItems start finish, item.Throughout start finish) :
    let fee := account.runFee engine devices intervals start finish result
    fee = account.percent start finish / 100 *
      (result.subtotal fee - account.baseGap engine devices intervals start finish fee) := by
  obtain ⟨accepted, amount, parts⟩ := RateEngine.costJob_parts run completed
  intro fee
  have same : fee = engine.runPercentage (account.terms (selectIntervals devices intervals start finish) start finish)
    start finish devices intervals result := AccountInputs.taxFee_eq _ _ _ _ _
  have window : start < finish := accepted.interval
  rw [terms_percentages window _ throughout, ← same] at amount
  rw [← same] at parts
  refine amount.trans (congrArg _ ?_)
  have feedback : engine.feedbackGap (account.terms (selectIntervals devices intervals start finish) start finish) start
      finish devices intervals fee = _ := congrArg (· - _) parts.symm
  rw [AccountInputs.baseGap, feedback, JobResult.subtotal]
  ring

end Run

/-! ## Ten percent -/

/-- A tax of ten percent, on an account whose bill is estimated with its charges. -/
def taxedAccount : AccountInputs where
  costScopeDefault := .allocatedAccountEstimate
  aggregateScope := .allocatedAccount
  adjustments := [{ component := .taxFee, value := 10, unit := .percent, effectiveFrom := 0 }]

/-- What a row of the account comes to. -/
def manualRow (start finish : Int) (amount : Rat) : CostIntervalResult :=
  { normalizedIntervalId := none, intervalStart := start, intervalEnd := finish, bucket := "account", energyKwh := 0
    pricePerKwh := 0, unroundedCost := amount, component := .manualAdjustment }

def taxedHours : JobResult := ⟨true, [hourRow "a" 0, hourRow "b" 3600000000, manualRow 0 7200000000 (1 / 25)]⟩

end PowerMonitor.Rates
