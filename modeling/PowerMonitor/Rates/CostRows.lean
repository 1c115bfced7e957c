import Mathlib.Algebra.Order.BigOperators.Group.List
import PowerMonitor.Rates.Accounting
import PowerMonitor.Rates.CycleStatus
import PowerMonitor.Rates.Splitting

/-! The rows of a cost run.

A run prices the normalized intervals that lie wholly in its window. Two runs over adjacent windows take every interval
of the joined window but those across the cut, so their energies and costs add up exactly when these carry no energy.
-/

set_option autoImplicit false
namespace PowerMonitor.Rates
open Library Calendar

namespace RateEngine
variable {engine : RateEngine} {request : CalculationRequest}

theorem cycleTiers_untiered (untiered : engine.plan.pricingModel.isTiered = false) : engine.cycleTiers request = .ok [] := by
  unfold cycleTiers resolvedTiers
  split
  · rw [if_neg (by rw [untiered]; decide)]
    rfl
  · rfl

end RateEngine

def NormalizedInterval.energyKwh (interval : NormalizedInterval) : Rat := interval.selectedEnergyWh.getD 0 / 1000

/-- The interval is in the window as a whole. -/
def NormalizedInterval.Within (interval : NormalizedInterval) (start finish : Int) : Prop :=
  start ≤ interval.intervalStart ∧ interval.intervalEnd ≤ finish

instance (interval : NormalizedInterval) (start finish : Int) : Decidable (interval.Within start finish) :=
  inferInstanceAs (Decidable (_ ∧ _))

/-- The interval is measured by one of the devices. -/
def NormalizedInterval.MeasuredBy (interval : NormalizedInterval) (devices : List String) : Prop :=
  interval.deviceId ∈ devices ∧ interval.selectedEnergyWh.isSome = true

instance (interval : NormalizedInterval) (devices : List String) : Decidable (interval.MeasuredBy devices) :=
  inferInstanceAs (Decidable (_ ∧ _))

/-- The selection of `process_cost_jobs`. -/
def selectIntervals (devices : List String) (intervals : List NormalizedInterval) (start finish : Int) :
    List NormalizedInterval :=
  sortedBy NormalizedInterval.intervalStart
    (intervals.filter fun interval => interval.MeasuredBy devices ∧ interval.Within start finish)

inductive CostComponent where
  | energy | fixedCharge | baselineCredit | ccaAdjustment | manualAdjustment
  deriving DecidableEq, Repr

structure CostIntervalResult where
  normalizedIntervalId : Option String
  intervalStart : Int
  intervalEnd : Int
  bucket : String
  energyKwh : Rat
  pricePerKwh : Rat
  unroundedCost : Rat
  component : CostComponent := .energy
  deriving DecidableEq, Repr

/-! ## The rows of an interval -/

def sliceRow (interval : NormalizedInterval) (slice : CostSlice) : CostIntervalResult where
  normalizedIntervalId := some interval.id
  intervalStart := slice.start
  intervalEnd := slice.finish
  bucket := slice.bucket
  energyKwh := slice.energyKwh
  pricePerKwh := slice.pricePerKwh
  unroundedCost := slice.cost

def NormalizedInterval.request (interval : NormalizedInterval) : CalculationRequest :=
  { start := interval.intervalStart, finish := interval.intervalEnd, energyKwh := interval.energyKwh }

/-- The rows of an interval under a flat or time-of-use plan. -/
def RateEngine.intervalRows (engine : RateEngine) (interval : NormalizedInterval) :
    Except EngineError (List CostIntervalResult) := do
  let calculation ← engine.calculate interval.request
  pure (calculation.slices.map (sliceRow interval))

/-- A segment of the allocation to tiers. -/
structure TierSegment where
  normalizedIntervalId : Option String
  intervalStart : Int
  intervalEnd : Int
  segmentEnergyKwh : Rat
  unroundedEnergyCharge : Rat
  pricePerKwh : Rat
  tierName : String
  touPeriod : Option String := none
  deriving DecidableEq, Repr

def overlapSeconds (interval : NormalizedInterval) (segment : TierSegment) : Rat :=
  secondsBetween (max interval.intervalStart segment.intervalStart) (min interval.intervalEnd segment.intervalEnd)

/-- The segments of an interval, and whether they were made from it. -/
def matchingSegments (segments : List TierSegment) (interval : NormalizedInterval) : Bool × List TierSegment :=
  let own := segments.filter fun segment => segment.normalizedIntervalId = some interval.id
  if own ≠ [] then (true, own)
  else (false, segments.filter fun segment =>
    segment.intervalStart < interval.intervalEnd ∧ interval.intervalStart < segment.intervalEnd)

/-- A segment's share of the interval, unless they only touch. -/
def tierRow (interval : NormalizedInterval) (exact : Bool) (weightedSeconds : Rat) (segment : TierSegment) :
    Option CostIntervalResult :=
  let seconds := overlapSeconds interval segment
  let segmentSeconds := secondsBetween segment.intervalStart segment.intervalEnd
  if seconds ≤ 0 ∨ segmentSeconds ≤ 0 then none
  else
    let energy := if exact then segment.segmentEnergyKwh * (seconds / segmentSeconds)
      else interval.energyKwh * seconds / weightedSeconds
    let cost := if exact then segment.unroundedEnergyCharge * (seconds / segmentSeconds)
      else energy * segment.pricePerKwh
    some
      { normalizedIntervalId := some interval.id
        intervalStart := max interval.intervalStart segment.intervalStart
        intervalEnd := min interval.intervalEnd segment.intervalEnd
        bucket := match segment.touPeriod with
          | some period => segment.tierName ++ " / " ++ period
          | none => segment.tierName
        energyKwh := energy
        pricePerKwh := segment.pricePerKwh
        unroundedCost := cost }

/-- The rows of an interval under a tiered plan; without segments there are none. -/
def tierRows (segments : List TierSegment) (interval : NormalizedInterval) : Option (List CostIntervalResult) :=
  let (exact, matching) := matchingSegments segments interval
  let weightedSeconds := (matching.map (overlapSeconds interval)).sum
  if matching = [] ∨ weightedSeconds ≤ 0 then none
  else some (matching.filterMap (tierRow interval exact weightedSeconds))

/-- The loop over the intervals of a tiered plan ends at the first without segments. -/
def tieredRows (segments : List TierSegment) : List NormalizedInterval → List CostIntervalResult × Bool
  | [] => ([], false)
  | interval :: rest =>
      match tierRows segments interval with
      | none => ([], true)
      | some rows =>
          let (later, missing) := tieredRows segments rest
          (rows ++ later, missing)

/-! ## The job -/

/-- What the account and the version add to the energy of a job. -/
structure AccountTerms where
  costScope : CostScope := .energyOnly
  baselineAllocationKwh : Option Rat := none
  ccaAdjustmentPerKwh : Rat := 0
  otherAdjustment : Rat := 0
  /-- Percentages of the total, with the part of the window that they are in effect. -/
  percentages : List (Rat × Rat) := []
  deriving DecidableEq, Repr

def totalEnergy (intervals : List NormalizedInterval) : Rat := (intervals.map NormalizedInterval.energyKwh).sum

def AccountTerms.request (terms : AccountTerms) (start finish : Int) (energy : Rat) : CalculationRequest where
  start := start
  finish := finish
  energyKwh := energy
  costScope := terms.costScope
  baselineAllocationKwh := terms.baselineAllocationKwh
  ccaAdjustmentPerKwh := terms.ccaAdjustmentPerKwh
  otherAdjustment := terms.otherAdjustment

/-- A component of the account, if there is any. -/
def componentRow (start finish : Int) (component : CostComponent) (amount : Rat) : List CostIntervalResult :=
  if amount = 0 then []
  else
    [{ normalizedIntervalId := none, intervalStart := start, intervalEnd := finish, bucket := "account", energyKwh := 0
       pricePerKwh := 0, unroundedCost := amount, component := component }]

/-- The rows of the account. `energyCharge` is what the tiers came to, where there are tiers. -/
def RateEngine.accountRows (engine : RateEngine) (terms : AccountTerms) (start finish : Int) (energy : Rat)
    (energyCharge : Option Rat) : Except EngineError (List CostIntervalResult) := do
  let preliminary ← engine.calculate (terms.request start finish energy)
  let preliminaryTotal := match energyCharge with
    | some charge => preliminary.total - preliminary.energyCharge + charge
    | none => preliminary.total
  let percentageAmount := (terms.percentages.map fun term => preliminaryTotal * term.1 / 100 * term.2).sum
  let components ← engine.calculate
    { terms.request start finish energy with otherAdjustment := terms.otherAdjustment + percentageAmount }
  pure (componentRow start finish .fixedCharge components.fixedCharge ++
    componentRow start finish .baselineCredit (-components.baselineCredit) ++
    componentRow start finish .ccaAdjustment components.ccaAdjustment ++
    componentRow start finish .manualAdjustment components.otherAdjustment)

structure JobResult where
  completed : Bool
  rows : List CostIntervalResult
  deriving DecidableEq, Repr

section Job
variable (engine : RateEngine) (devices : List String) (segments : List TierSegment) (intervals : List NormalizedInterval)

/-- `process_cost_jobs`, of one job over the devices of its aggregate. -/
def RateEngine.costJob (terms : AccountTerms) (start finish : Int) : Except EngineError JobResult :=
  let selected := selectIntervals devices intervals start finish
  if engine.plan.pricingModel.isTiered then
    match tieredRows segments selected with
    | (rows, true) => pure ⟨false, rows⟩
    | (rows, false) => do
        let charge := (rows.map CostIntervalResult.unroundedCost).sum
        let account ← engine.accountRows terms start finish (totalEnergy selected) (some charge)
        pure ⟨true, rows ++ account⟩
  else do
    let rows ← selected.mapM engine.intervalRows
    let account ← engine.accountRows terms start finish (totalEnergy selected) none
    pure ⟨true, rows.flatten ++ account⟩

end Job

def JobResult.energyRows (result : JobResult) : List CostIntervalResult :=
  result.rows.filter fun row => row.component = .energy

def JobResult.energy (result : JobResult) : Rat := (result.energyRows.map CostIntervalResult.energyKwh).sum

def JobResult.energyCost (result : JobResult) : Rat := (result.energyRows.map CostIntervalResult.unroundedCost).sum

/-! ## The slices of a calculation without tiers -/

namespace RateEngine
variable {engine : RateEngine} {request : CalculationRequest}

/-- A slice adds its share of the energy, at a price. -/
theorem priceSlice_untiered {piece : Int × Int} {ledger after : Ledger}
    (run : engine.priceSlice request [] ledger piece = .ok after) :
    ∃ entry, after.slices = ledger.slices ++ [entry] ∧ entry.energyKwh = request.share piece.1 piece.2 ∧
      entry.cost = entry.energyKwh * entry.pricePerKwh := by
  obtain ⟨tariff, _, run⟩ := bind_eq_ok.mp run
  rw [if_pos rfl] at run
  obtain ⟨price, _, run⟩ := bind_eq_ok.mp run
  cases run
  exact ⟨_, rfl, rfl, rfl⟩

theorem share_eq_sum (left right : Int) (ordered : left ≤ right) : request.share left right =
    ∑ _instant ∈ Finset.Ico left right, request.energyKwh / ((request.finish - request.start : Int) : Rat) := by
  rw [Finset.sum_const, Int.card_Ico, nsmul_eq_mul]
  have length : (((right - left).toNat : Nat) : Rat) = ((right - left : Int) : Rat) := by
    exact_mod_cast Int.toNat_of_nonneg (by omega)
  rw [length, CalculationRequest.share, secondsBetween, secondsBetween]
  by_cases empty : ((request.finish - request.start : Int) : Rat) = 0
  · rw [empty]
    simp
  · field_simp

/-- The slices of a calculation carry its energy, and cost nothing without energy. -/
theorem slices_sums (untiered : engine.plan.pricingModel.isTiered = false) {calculation : Calculation}
    (run : engine.calculate request = .ok calculation) :
    (calculation.slices.map CostSlice.energyKwh).sum = request.energyKwh ∧
      (request.energyKwh = 0 → (calculation.slices.map CostSlice.cost).sum = 0) := by
  obtain ⟨accepted, points, tiers, ledger, found, resolved, fold, rfl⟩ := (calculate_eq_ok engine request).mp run
  rw [cycleTiers_untiered untiered] at resolved
  cases resolved
  have tiles := boundaries_tiles accepted.interval found
  change (ledger.slices.map CostSlice.energyKwh).sum = _ ∧ (_ → (ledger.slices.map CostSlice.cost).sum = 0)
  constructor
  · have summed := tiles.foldlM_sum (fun _ _ => True) (fun ledger => (ledger.slices.map CostSlice.energyKwh).sum)
      (fun _ => request.energyKwh / ((request.finish - request.start : Int) : Rat)) ?_ trivial fold
    · rw [← share_eq_sum _ _ accepted.interval.le, request.share_whole accepted.interval] at summed
      simpa [openingLedger] using summed
    · intro left right state next piece step _
      obtain ⟨_, proper, _, _⟩ := tiles.piece piece
      obtain ⟨entry, slices, energy, _⟩ := priceSlice_untiered step
      refine ⟨trivial, ?_⟩
      rw [← share_eq_sum left right proper.le, slices, List.map_append, List.sum_append, List.map_singleton,
        List.sum_singleton, energy]
  · intro none
    refine foldlM_invariant (fun ledger : Ledger => (ledger.slices.map CostSlice.cost).sum = 0) _ rfl ?_ fold
    intro state piece next _ step before
    obtain ⟨entry, slices, energy, cost⟩ := priceSlice_untiered step
    rw [slices, List.map_append, List.sum_append, before, List.map_singleton, List.sum_singleton, cost, energy,
      CalculationRequest.share, none]
    simp

/-- What an interval comes to: nothing, if it cannot be priced. -/
def rowsOf (engine : RateEngine) (interval : NormalizedInterval) : List CostIntervalResult :=
  match engine.intervalRows interval with
  | .ok rows => rows
  | .error _ => []

theorem rowsOf_energy {interval : NormalizedInterval} {row : CostIntervalResult} (member : row ∈ engine.rowsOf interval) :
    row.component = .energy := by
  unfold rowsOf at member
  split at member
  · next rows priced =>
      obtain ⟨calculation, _, priced⟩ := bind_eq_ok.mp priced
      cases priced
      obtain ⟨slice, _, rfl⟩ := List.mem_map.mp member
      rfl
  · cases member

theorem mapM_rowsOf {selected : List NormalizedInterval} {rows : List (List CostIntervalResult)}
    (run : selected.mapM engine.intervalRows = .ok rows) : rows = selected.map engine.rowsOf := by
  induction selected generalizing rows with
  | nil =>
      cases run
      rfl
  | cons interval rest ih =>
      rw [List.mapM_cons] at run
      obtain ⟨first, priced, run⟩ := bind_eq_ok.mp run
      obtain ⟨later, others, run⟩ := bind_eq_ok.mp run
      cases run
      rw [List.map_cons, ← ih others, rowsOf, priced]

theorem accountRows_component {terms : AccountTerms} {start finish : Int} {energy : Rat} {charge : Option Rat}
    {rows : List CostIntervalResult} (run : engine.accountRows terms start finish energy charge = .ok rows) :
    ∀ row ∈ rows, row.component ≠ .energy := by
  obtain ⟨preliminary, _, run⟩ := bind_eq_ok.mp run
  obtain ⟨components, _, run⟩ := bind_eq_ok.mp run
  cases run
  have apart (component : CostComponent) (amount : Rat) (other : component ≠ .energy) :
      ∀ row ∈ componentRow start finish component amount, row.component ≠ .energy := by
    intro row member
    unfold componentRow at member
    split at member
    · cases member
    · rw [List.mem_singleton.mp member]
      exact other
  intro row member
  simp only [List.mem_append] at member
  rcases member with ((fixed | baseline) | cca) | manual
  · exact apart .fixedCharge _ nofun row fixed
  · exact apart .baselineCredit _ nofun row baseline
  · exact apart .ccaAdjustment _ nofun row cca
  · exact apart .manualAdjustment _ nofun row manual

section Job
variable {devices : List String} {segments : List TierSegment} {intervals : List NormalizedInterval} {terms : AccountTerms}
  {start finish : Int} {result : JobResult}

/-- A job of a plan without tiers prices every interval of its selection. -/
theorem costJob_ok (untiered : engine.plan.pricingModel.isTiered = false)
    (run : engine.costJob devices segments intervals terms start finish = .ok result) :
    result.energyRows = (selectIntervals devices intervals start finish).flatMap engine.rowsOf ∧
      ∀ interval ∈ selectIntervals devices intervals start finish, ∃ calculation,
        engine.calculate interval.request = .ok calculation := by
  unfold costJob at run
  rw [untiered] at run
  obtain ⟨rows, priced, run⟩ := bind_eq_ok.mp run
  obtain ⟨account, others, run⟩ := bind_eq_ok.mp run
  cases run
  constructor
  · have energy : rows.flatten.filter (fun row => row.component = .energy) = rows.flatten := by
      rw [List.filter_eq_self, mapM_rowsOf priced]
      intro row member
      obtain ⟨part, listed, inside⟩ := List.mem_flatten.mp member
      obtain ⟨interval, _, rfl⟩ := List.mem_map.mp listed
      exact decide_eq_true (rowsOf_energy inside)
    have none : account.filter (fun row => row.component = .energy) = [] := by
      rw [List.filter_eq_nil_iff]
      intro row member
      simpa using accountRows_component others row member
    rw [JobResult.energyRows, List.filter_append, energy, none, List.append_nil, mapM_rowsOf priced, List.flatMap]
  · intro interval member
    obtain ⟨_, _, single⟩ := mapM_mem priced member
    obtain ⟨calculation, run, _⟩ := bind_eq_ok.mp single
    exact ⟨calculation, run⟩

/-- A sum over the energy rows of a job is one over the intervals it has selected. -/
theorem costJob_sum (untiered : engine.plan.pricingModel.isTiered = false)
    (run : engine.costJob devices segments intervals terms start finish = .ok result) (value : CostIntervalResult → Rat) :
    (result.energyRows.map value).sum =
      ((intervals.filter fun interval => interval.MeasuredBy devices ∧ interval.Within start finish).map fun interval =>
        ((engine.rowsOf interval).map value).sum).sum := by
  have permuted := (perm_sortedBy NormalizedInterval.intervalStart (intervals.filter fun interval =>
    interval.MeasuredBy devices ∧ interval.Within start finish)).map fun interval =>
      ((engine.rowsOf interval).map value).sum
  rw [(costJob_ok untiered run).1, ← permuted.sum_eq, List.map_flatMap, List.flatMap, List.sum_flatten, List.map_map]
  rfl

/-- An interval that a job has priced is proper, and comes to its energy. -/
theorem priced_interval (untiered : engine.plan.pricingModel.isTiered = false)
    (run : engine.costJob devices segments intervals terms start finish = .ok result) {interval : NormalizedInterval}
    (listed : interval ∈ intervals) (measured : interval.MeasuredBy devices) (within : interval.Within start finish) :
    interval.intervalStart < interval.intervalEnd ∧ 0 ≤ interval.energyKwh ∧
      ((engine.rowsOf interval).map CostIntervalResult.energyKwh).sum = interval.energyKwh ∧
      (interval.energyKwh = 0 → ((engine.rowsOf interval).map CostIntervalResult.unroundedCost).sum = 0) := by
  have member : interval ∈ selectIntervals devices intervals start finish :=
    (perm_sortedBy _ _).mem_iff.mpr (List.mem_filter.mpr ⟨listed, decide_eq_true ⟨measured, within⟩⟩)
  obtain ⟨calculation, priced⟩ := (costJob_ok untiered run).2 interval member
  have accepted := ((calculate_eq_ok engine interval.request).mp priced).1
  have sums := slices_sums untiered priced
  have rows : engine.rowsOf interval = calculation.slices.map (sliceRow interval) := by
    unfold rowsOf intervalRows
    rw [priced]
    rfl
  rw [rows, List.map_map, List.map_map]
  exact ⟨accepted.interval, accepted.energy, sums⟩

end Job

end RateEngine

/-! ## Adjacent windows -/

/-- The interval lies across the cut of a window. -/
def NormalizedInterval.Across (interval : NormalizedInterval) (start cut finish : Int) : Prop :=
  interval.Within start finish ∧ interval.intervalStart < cut ∧ cut < interval.intervalEnd

instance (interval : NormalizedInterval) (start cut finish : Int) : Decidable (interval.Across start cut finish) :=
  inferInstanceAs (Decidable (_ ∧ _ ∧ _))

section Adjacent
variable {engine : RateEngine} {devices : List String} {segments : List TierSegment} {intervals : List NormalizedInterval}
  {start cut finish : Int} {firstTerms secondTerms terms : AccountTerms} {first second whole : JobResult}

/-- What two adjacent runs leave out is what lies across the cut. -/
theorem adjacent_sum (untiered : engine.plan.pricingModel.isTiered = false) (before : start < cut) (after : cut < finish)
    (firstRun : engine.costJob devices segments intervals firstTerms start cut = .ok first)
    (secondRun : engine.costJob devices segments intervals secondTerms cut finish = .ok second)
    (run : engine.costJob devices segments intervals terms start finish = .ok whole) (value : CostIntervalResult → Rat) :
    (whole.energyRows.map value).sum = (first.energyRows.map value).sum + (second.energyRows.map value).sum +
      ((intervals.filter fun interval => interval.MeasuredBy devices ∧ interval.Across start cut finish).map fun interval =>
        ((engine.rowsOf interval).map value).sum).sum := by
  rw [RateEngine.costJob_sum untiered run, RateEngine.costJob_sum untiered firstRun,
    RateEngine.costJob_sum untiered secondRun]
  apply sum_filter_split
  intro interval listed
  by_cases measured : interval.MeasuredBy devices
  · by_cases within : interval.Within start finish
    · -- The whole run has priced the interval, so it is proper and on one side of the cut or across it.
      have proper := (RateEngine.priced_interval untiered run listed measured within).1
      obtain ⟨begins, ends⟩ := within
      rcases le_or_gt interval.intervalEnd cut with left | reaches
      · have notRight : ¬ cut ≤ interval.intervalStart := by omega
        have notAcross : ¬ cut < interval.intervalEnd := by omega
        simp [measured, NormalizedInterval.Within, NormalizedInterval.Across, begins, ends, left, notRight, notAcross]
      · rcases le_or_gt cut interval.intervalStart with right | across
        · have notLeft : ¬ interval.intervalEnd ≤ cut := by omega
          have notAcross : ¬ interval.intervalStart < cut := by omega
          simp [measured, NormalizedInterval.Within, NormalizedInterval.Across, begins, ends, right, notLeft, notAcross]
        · have notLeft : ¬ interval.intervalEnd ≤ cut := by omega
          have notRight : ¬ cut ≤ interval.intervalStart := by omega
          simp [measured, NormalizedInterval.Within, NormalizedInterval.Across, begins, ends, across, reaches, notLeft,
            notRight]
    · have notLeft : ¬ interval.Within start cut := fun left => within ⟨left.1, by have := left.2; omega⟩
      have notRight : ¬ interval.Within cut finish := fun right => within ⟨by have := right.1; omega, right.2⟩
      simp [within, notLeft, notRight, NormalizedInterval.Across]
  · simp [measured]

/-- The energy and the cost of two adjacent runs are those of one run over both windows if and only if no interval across
the cut carries energy. -/
theorem adjacent_runs_add_iff (untiered : engine.plan.pricingModel.isTiered = false) (before : start < cut)
    (after : cut < finish)
    (firstRun : engine.costJob devices segments intervals firstTerms start cut = .ok first)
    (secondRun : engine.costJob devices segments intervals secondTerms cut finish = .ok second)
    (run : engine.costJob devices segments intervals terms start finish = .ok whole) :
    (first.energy + second.energy = whole.energy ∧ first.energyCost + second.energyCost = whole.energyCost) ↔
      ∀ interval ∈ intervals, interval.MeasuredBy devices → interval.Across start cut finish →
        interval.selectedEnergyWh = some 0 := by
  have energies := adjacent_sum untiered before after firstRun secondRun run CostIntervalResult.energyKwh
  have costs := adjacent_sum untiered before after firstRun secondRun run CostIntervalResult.unroundedCost
  change whole.energy = first.energy + second.energy + _ at energies
  change whole.energyCost = first.energyCost + second.energyCost + _ at costs
  have facts : ∀ interval ∈ intervals.filter (fun interval => interval.MeasuredBy devices ∧
      interval.Across start cut finish), 0 ≤ interval.energyKwh ∧
        ((engine.rowsOf interval).map CostIntervalResult.energyKwh).sum = interval.energyKwh ∧
        (interval.energyKwh = 0 → ((engine.rowsOf interval).map CostIntervalResult.unroundedCost).sum = 0) := by
    intro interval member
    obtain ⟨listed, chosen⟩ := List.mem_filter.mp member
    obtain ⟨measured, across⟩ := of_decide_eq_true chosen
    exact (RateEngine.priced_interval untiered run listed measured across.1).2
  have empty {interval : NormalizedInterval} (measured : interval.MeasuredBy devices) :
      interval.energyKwh = 0 ↔ interval.selectedEnergyWh = some 0 := by
    obtain ⟨energy, same⟩ := Option.isSome_iff_exists.mp measured.2
    rw [NormalizedInterval.energyKwh, same, Option.getD_some, Option.some.injEq, div_eq_zero_iff]
    norm_num
  constructor
  · rintro ⟨sameEnergy, _⟩ interval listed measured across
    -- The energies across the cut are nonnegative and sum to nothing.
    have none : ((intervals.filter fun interval => interval.MeasuredBy devices ∧ interval.Across start cut finish).map
        NormalizedInterval.energyKwh).sum = 0 := by
      rw [← List.map_congr_left fun interval member => (facts interval member).2.1]
      linarith
    have member : interval ∈ intervals.filter fun interval => interval.MeasuredBy devices ∧
        interval.Across start cut finish := List.mem_filter.mpr ⟨listed, decide_eq_true ⟨measured, across⟩⟩
    refine (empty measured).mp (List.all_zero_of_le_zero_le_of_sum_eq_zero ?_ none (List.mem_map_of_mem member))
    intro energy summand
    obtain ⟨other, chosen, rfl⟩ := List.mem_map.mp summand
    exact (facts other chosen).1
  · intro free
    have nothing : ∀ interval ∈ intervals.filter (fun interval => interval.MeasuredBy devices ∧
        interval.Across start cut finish), interval.energyKwh = 0 := by
      intro interval member
      obtain ⟨listed, chosen⟩ := List.mem_filter.mp member
      obtain ⟨measured, across⟩ := of_decide_eq_true chosen
      exact (empty measured).mpr (free interval listed measured across)
    rw [List.map_congr_left (g := fun _ => 0) fun interval member =>
      (facts interval member).2.1.trans (nothing interval member)] at energies
    rw [List.map_congr_left (g := fun _ => 0) fun interval member =>
      (facts interval member).2.2 (nothing interval member)] at costs
    rw [List.sum_map_zero, add_zero] at energies costs
    exact ⟨energies.symm, costs.symm⟩

end Adjacent

/-- Twenty cents per kilowatt hour, at any time. -/
def flatEngine : RateEngine := ⟨{ pricingModel := .flat, flatRatePerKwh := some (1 / 5) }, springForward, by decide +kernel⟩

/-- One kilowatt hour, measured over an hour. -/
def hourFrom (id : String) (start : Int) : NormalizedInterval :=
  { id := id, deviceId := "meter", intervalStart := start, intervalEnd := start + 3600000000
    selectedEnergyWh := some 1000 }

def hourRow (id : String) (start : Int) : CostIntervalResult :=
  { normalizedIntervalId := some id, intervalStart := start, intervalEnd := start + 3600000000, bucket := "Flat"
    energyKwh := 1, pricePerKwh := 1 / 5, unroundedCost := 1 / 5 }

theorem aligned_hours_add_up :
    (⟨true, [hourRow "a" 0]⟩ : JobResult).energy + (⟨true, [hourRow "b" 3600000000]⟩ : JobResult).energy =
        (⟨true, [hourRow "a" 0, hourRow "b" 3600000000]⟩ : JobResult).energy ∧
      (⟨true, [hourRow "a" 0]⟩ : JobResult).energyCost + (⟨true, [hourRow "b" 3600000000]⟩ : JobResult).energyCost =
        (⟨true, [hourRow "a" 0, hourRow "b" 3600000000]⟩ : JobResult).energyCost :=
  (@adjacent_runs_add_iff flatEngine ["meter"] [] [hourFrom "a" 0, hourFrom "b" 3600000000] 0 3600000000 7200000000
    {} {} {} _ _ _ rfl (by decide) (by decide) (by decide +kernel) (by decide +kernel) (by decide +kernel)).mpr
    (by decide)

/-- An hour that starts half an hour before the cut is in neither of the two runs. -/
theorem straddling_hour_is_lost : ∃ first second whole,
    flatEngine.costJob ["meter"] [] [hourFrom "a" 1800000000] {} 0 3600000000 = .ok first ∧
    flatEngine.costJob ["meter"] [] [hourFrom "a" 1800000000] {} 3600000000 7200000000 = .ok second ∧
    flatEngine.costJob ["meter"] [] [hourFrom "a" 1800000000] {} 0 7200000000 = .ok whole ∧
    ¬ (first.energy + second.energy = whole.energy ∧ first.energyCost + second.energyCost = whole.energyCost) :=
  ⟨⟨true, []⟩, ⟨true, []⟩, ⟨true, [hourRow "a" 1800000000]⟩, by decide +kernel, by decide +kernel, by decide +kernel,
    by decide +kernel⟩

end PowerMonitor.Rates
