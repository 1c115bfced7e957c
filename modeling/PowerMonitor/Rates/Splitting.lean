import PowerMonitor.Rates.Priceable
import Mathlib.Tactic.FieldSimp

/-! Cutting an interval in two does not change what it costs.

Usage grows evenly with time, so each microsecond has a place in the tiers and, by the
schedule, a tariff. An amount of the ledger is the sum over the microseconds of what
each adds; the boundaries and the passes of the tier loop leave no trace in it. The
parts of a cut interval put every microsecond at the same usage as the whole does.
-/

set_option autoImplicit false
namespace PowerMonitor.Rates
open Library Calendar

/-! ## Amounts of a ledger -/

inductive Amount where
  | charge
  | bucket (name : String)
  | tier (name : String)

def Ledger.amount (ledger : Ledger) : Amount → Rat
  | .charge => ledger.energyCharge
  | .bucket name => amountAt ledger.byBucket name
  | .tier name => amountAt ledger.byTier name

/-- The price of a slice without tiers; zero stands for one that is missing. -/
def Plan.wholeRate (plan : Plan) (touRate : Rat) : Rat := (plan.wholePrice touRate).toOption.getD 0

/-- What usage from `first` to `last` under one tariff adds to an amount. -/
def Plan.accrue (plan : Plan) (tiers : List ResolvedTier) (amount : Amount) (tariff : String × Rat)
    (first last : Rat) : Rat :=
  if tiers = [] then
    match amount with
    | .charge => (last - first) * plan.wholeRate tariff.2
    | .bucket name => if name = plan.wholeBucket tariff.1 then last - first else 0
    | .tier _ => 0
  else
    match amount with
    | .charge => growth tiers (plan.tierRate tariff.1 tariff.2) first last
    | .bucket name => growth tiers (inBucket plan tariff.1 name) first last
    | .tier name => growth tiers (named name) first last

/-- It is a difference of totals. -/
theorem Plan.accrue_eq_sub (plan : Plan) (tiers : List ResolvedTier) (amount : Amount) (tariff : String × Rat)
    (first last : Rat) : plan.accrue tiers amount tariff first last =
      plan.accrue tiers amount tariff 0 last - plan.accrue tiers amount tariff 0 first := by
  unfold Plan.accrue
  split
  · cases amount with
    | charge => ring
    | bucket name =>
        dsimp only
        split <;> ring
    | tier name => ring
  · cases amount with
    | charge => exact eq_sub_of_add_eq (by rw [add_comm, growth_add])
    | bucket name => exact eq_sub_of_add_eq (by rw [add_comm, growth_add])
    | tier name => exact eq_sub_of_add_eq (by rw [add_comm, growth_add])

/-- The usage reached at an instant of the interval. -/
def CalculationRequest.level (request : CalculationRequest) (instant : Int) : Rat :=
  request.cumulativeUsageBeforeKwh + request.energyKwh * (instant - request.start : Int) /
    (request.finish - request.start : Int)

section Level
variable {request : CalculationRequest}

theorem CalculationRequest.level_start : request.level request.start = request.cumulativeUsageBeforeKwh := by
  simp [level]

theorem CalculationRequest.share_eq (request : CalculationRequest) (left right : Int) :
    request.share left right = request.level right - request.level left := by
  unfold share level secondsBetween
  by_cases empty : ((request.finish - request.start : Int) : Rat) = 0
  · simp [empty]
  · push_cast at empty ⊢
    field_simp
    ring

theorem CalculationRequest.level_mono (interval : request.start < request.finish) (energy : 0 ≤ request.energyKwh)
    {first last : Int} (ordered : first ≤ last) : request.level first ≤ request.level last := by
  have length : (0 : Rat) < (request.finish - request.start : Int) := by exact_mod_cast sub_pos.mpr interval
  have places : ((first - request.start : Int) : Rat) ≤ (last - request.start : Int) := by exact_mod_cast by omega
  unfold level
  have products := mul_le_mul_of_nonneg_left places energy
  have quotients := div_le_div_of_nonneg_right products length.le
  linarith

end Level

namespace RateEngine
variable {engine : RateEngine} {request : CalculationRequest} {tiers : List ResolvedTier}

/-! ## One slice -/

theorem priceWhole_amount {plan : Plan} {slice : TariffSlice} {ledger after : Ledger}
    (run : plan.priceWhole slice ledger = .ok after) (amount : Amount) (first : Rat) :
    after.amount amount = ledger.amount amount +
      plan.accrue [] amount (slice.touBucket, slice.touRate) first (first + slice.allocated) := by
  unfold Plan.priceWhole at run
  obtain ⟨price, rate, rest⟩ := bind_eq_ok.mp run
  cases rest
  have known : plan.wholeRate slice.touRate = price := by
    rw [Plan.wholeRate, rate]
    rfl
  unfold Plan.accrue
  rw [if_pos rfl, add_sub_cancel_left]
  cases amount with
  | charge => simp [Ledger.amount, Ledger.energyCharge, known]
  | bucket name => simp only [Ledger.amount, amountAt_addAmount]
  | tier name => simp [Ledger.amount]

theorem Accrual.amount {plan : Plan} {tariff : String × Rat} {before after : Ledger} {energy : Rat}
    (accrual : Accrual plan tiers tariff.1 tariff.2 before after energy) (nonempty : tiers ≠ []) (amount : Amount) :
    after.amount amount = before.amount amount +
      plan.accrue tiers amount tariff before.cumulative after.cumulative := by
  unfold Plan.accrue
  rw [if_neg nonempty]
  cases amount with
  | charge => exact accrual.cost
  | bucket name => exact accrual.byBucket name
  | tier name => exact accrual.byTier name

/-- Where in the interval a ledger stands; without tiers the usage is not carried along. -/
def Reached (request : CalculationRequest) (tiers : List ResolvedTier) (instant : Int) (ledger : Ledger) : Prop :=
  tiers ≠ [] → ledger.cumulative = request.level instant

/-- Pricing a slice adds what its usage adds under the tariff of its middle. -/
theorem priceSlice_amount (accepted : engine.Accepted request) (gapless : tiers ≠ [] → Gapless tiers)
    {left right : Int} (begins : request.start ≤ left) (ordered : left ≤ right) {ledger after : Ledger}
    (reached : Reached request tiers left ledger)
    (run : engine.priceSlice request tiers ledger (left, right) = .ok after) :
    ∃ tariff, engine.periodAt (left + half (right - left)) = .ok tariff ∧ Reached request tiers right after ∧
      ∀ amount, after.amount amount = ledger.amount amount +
        engine.plan.accrue tiers amount tariff (request.level left) (request.level right) := by
  unfold priceSlice at run
  obtain ⟨tariff, period, run⟩ := bind_eq_ok.mp run
  refine ⟨tariff, period, ?_⟩
  have share := request.share_eq left right
  have next : request.level left + request.share left right = request.level right := by rw [share]; ring
  by_cases empty : tiers = []
  · rw [if_pos empty] at run
    refine ⟨fun nonempty => absurd empty nonempty, ?_⟩
    intro amount
    rw [empty, ← next]
    exact priceWhole_amount run amount (request.level left)
  · rw [if_neg empty] at run
    have start : ledger.cumulative = request.level left := reached empty
    have usage : 0 ≤ ledger.cumulative := by
      have := CalculationRequest.level_mono accepted.interval accepted.energy begins
      rw [CalculationRequest.level_start] at this
      rw [start]
      exact accepted.usage.trans this
    have energy : 0 ≤ request.share left right := by
      rw [share]
      exact sub_nonneg.mpr (CalculationRequest.level_mono accepted.interval accepted.energy ordered)
    have accrued : Accrual engine.plan tiers tariff.1 tariff.2 ledger after (request.share left right) :=
      priceTiers_accrual (gapless empty) usage energy run
    have finish : after.cumulative = request.level right := by rw [accrued.cumulative, start, next]
    refine ⟨fun _ => finish, ?_⟩
    intro amount
    rw [← start, ← finish]
    exact Accrual.amount accrued empty amount

/-! ## The whole interval -/

/-- What one microsecond adds to an amount. -/
def density (engine : RateEngine) (request : CalculationRequest) (tiers : List ResolvedTier) (amount : Amount)
    (instant : Int) : Rat :=
  match engine.periodAt instant with
  | .ok tariff => engine.plan.accrue tiers amount tariff (request.level instant) (request.level (instant + 1))
  | .error _ => 0

/-- Over a slice with one tariff the microseconds add up to the slice. -/
theorem sum_density {left right : Int} (ordered : left ≤ right) {tariff : String × Rat}
    (constant : ∀ instant, left ≤ instant → instant < right → engine.periodAt instant = .ok tariff) (amount : Amount) :
    ∑ instant ∈ Finset.Ico left right, density engine request tiers amount instant =
      engine.plan.accrue tiers amount tariff (request.level left) (request.level right) := by
  rw [Plan.accrue_eq_sub]
  rw [← sum_differences (fun instant => engine.plan.accrue tiers amount tariff 0 (request.level instant)) ordered]
  apply Finset.sum_congr rfl
  intro instant inside
  obtain ⟨after, before⟩ := Finset.mem_Ico.mp inside
  rw [density, constant instant after before]
  exact engine.plan.accrue_eq_sub tiers amount tariff _ _

/-- Every amount of a calculation is the sum over its microseconds. -/
theorem ledger_amount (regular : engine.zone.Regular) (accepted : engine.Accepted request)
    (gapless : tiers ≠ [] → Gapless tiers) {points : List Int}
    (found : engine.boundaries request.start request.finish = .ok points) {ledger : Ledger}
    (run : (pairwise points).foldlM (engine.priceSlice request tiers) (openingLedger request) = .ok ledger)
    (amount : Amount) : ledger.amount amount =
      ∑ instant ∈ Finset.Ico request.start request.finish, density engine request tiers amount instant := by
  have tiles := boundaries_tiles accepted.interval found
  have opening : (openingLedger request).amount amount = 0 := by
    cases amount <;> rfl
  have total := tiles.foldlM_sum (Reached request tiers) (fun ledger => ledger.amount amount)
    (density engine request tiers amount) (by
      intro left right state next piece step reached
      obtain ⟨begins, proper, _, _⟩ := tiles.piece piece
      obtain ⟨tariff, period, moved, added⟩ := priceSlice_amount accepted gapless begins proper.le reached step
      refine ⟨moved, ?_⟩
      have nonneg : 0 ≤ half (right - left) := half_nonneg (by omega)
      have small : half (right - left) < right - left := half_lt (by omega)
      rw [added, sum_density proper.le]
      intro instant after before
      rw [← period]
      exact periodAt_piece regular accepted.interval found piece ⟨after, before⟩ ⟨by omega, by omega⟩)
    (fun _ => CalculationRequest.level_start.symm) run
  rw [total, opening, zero_add]

end RateEngine

/-! ## Two parts -/

namespace CalculationRequest
variable (request : CalculationRequest) (cut : Int)

/-- The energy up to the cut. -/
def energyBefore : Rat :=
  request.energyKwh * (cut - request.start : Int) / (request.finish - request.start : Int)

/-- The request up to the cut. -/
def before : CalculationRequest := { request with finish := cut, energyKwh := request.energyBefore cut }

/-- The request from the cut on. -/
def after : CalculationRequest := { request with
  start := cut
  energyKwh := request.energyKwh - request.energyBefore cut
  cumulativeUsageBeforeKwh := request.cumulativeUsageBeforeKwh + request.energyBefore cut }

variable {request cut}

theorem level_before (begins : request.start < cut) : (request.before cut).level = request.level := by
  have length : ((cut - request.start : Int) : Rat) ≠ 0 := by exact_mod_cast (sub_pos.mpr begins).ne'
  funext instant
  simp only [level, before, energyBefore]
  by_cases empty : ((request.finish - request.start : Int) : Rat) = 0
  · simp [empty]
  · field_simp

theorem level_after (begins : request.start < cut) (ends : cut < request.finish) :
    (request.after cut).level = request.level := by
  have rest : ((request.finish - cut : Int) : Rat) ≠ 0 := by exact_mod_cast (sub_pos.mpr ends).ne'
  have whole : ((request.finish - request.start : Int) : Rat) ≠ 0 := by
    exact_mod_cast (sub_pos.mpr (begins.trans ends)).ne'
  funext instant
  simp only [level, after, energyBefore]
  push_cast at rest whole ⊢
  field_simp
  ring

end CalculationRequest

/-- The energy charge and the energy of every bucket and tier of one calculation are the sums of two others. -/
structure AddsUp (whole first second : Calculation) : Prop where
  energyCharge : whole.energyCharge = first.energyCharge + second.energyCharge
  energyByBucket : ∀ bucket, amountAt whole.energyByBucket bucket =
    amountAt first.energyByBucket bucket + amountAt second.energyByBucket bucket
  energyByTier : ∀ name, amountAt whole.energyByTier name =
    amountAt first.energyByTier name + amountAt second.energyByTier name

namespace RateEngine
variable {engine : RateEngine} {request : CalculationRequest} {tiers : List ResolvedTier}

/-- The amounts of a calculation with an explicit cycle. -/
theorem calculation_amount (request : CalculationRequest) (regular : engine.zone.Regular) {cycleStart cycleEnd : Int}
    (first : request.cycleStart = some cycleStart) (last : request.cycleEnd = some cycleEnd)
    {calculation : Calculation} (run : engine.calculate request = .ok calculation) :
    ∃ tiers ledger, engine.resolvedTiers cycleStart cycleEnd = .ok tiers ∧
      calculation = engine.settle request tiers ledger ∧
      ∀ amount, ledger.amount amount =
        ∑ instant ∈ Finset.Ico request.start request.finish, density engine request tiers amount instant := by
  obtain ⟨accepted, points, tiers, ledger, found, resolved, fold, result⟩ :=
    (calculate_eq_ok engine request).mp run
  refine ⟨tiers, ledger, cycleTiers_explicit request first last ▸ resolved, result, ?_⟩
  exact ledger_amount regular accepted (fun nonempty => (cycleTiers_spec resolved nonempty).2.1) found fold

/-- Amounts of the parts of a cut interval add up to those of the whole. -/
theorem calculation_addsUp (regular : engine.zone.Regular) {cut cycleStart cycleEnd : Int}
    (begins : request.start < cut) (ends : cut < request.finish)
    (cycleFirst : request.cycleStart = some cycleStart) (cycleLast : request.cycleEnd = some cycleEnd)
    {whole first second : Calculation} (run : engine.calculate request = .ok whole)
    (runBefore : engine.calculate (request.before cut) = .ok first)
    (runAfter : engine.calculate (request.after cut) = .ok second) : AddsUp whole first second := by
  obtain ⟨tiers, ledger, resolved, rfl, total⟩ := calculation_amount request regular cycleFirst cycleLast run
  obtain ⟨tiersBefore, ledgerBefore, resolvedBefore, rfl, totalBefore⟩ :=
    calculation_amount (request.before cut) regular cycleFirst cycleLast runBefore
  obtain ⟨tiersAfter, ledgerAfter, resolvedAfter, rfl, totalAfter⟩ :=
    calculation_amount (request.after cut) regular cycleFirst cycleLast runAfter
  rw [resolved] at resolvedBefore resolvedAfter
  cases resolvedBefore
  cases resolvedAfter
  have sum : ∀ amount, ledger.amount amount = ledgerBefore.amount amount + ledgerAfter.amount amount := by
    intro amount
    have left : density engine (request.before cut) tiers amount = density engine request tiers amount := by
      funext instant
      simp only [density, CalculationRequest.level_before begins]
    have right : density engine (request.after cut) tiers amount = density engine request tiers amount := by
      funext instant
      simp only [density, CalculationRequest.level_after begins ends]
    rw [total, totalBefore, totalAfter, left, right]
    exact (sum_Ico_split _ begins.le ends.le).symm
  exact ⟨sum .charge, fun bucket => sum (.bucket bucket), fun name => sum (.tier name)⟩

section Parts
variable {cut cycleStart cycleEnd : Int} (accepted : engine.Accepted request)
  (cycleFirst : request.cycleStart = some cycleStart) (cycleLast : request.cycleEnd = some cycleEnd)
include accepted

theorem energyBefore_bounds (begins : request.start < cut) (ends : cut < request.finish) :
    0 ≤ request.energyBefore cut ∧ request.energyBefore cut ≤ request.energyKwh := by
  have length : (0 : Rat) < (request.finish - request.start : Int) := by
    exact_mod_cast sub_pos.mpr accepted.interval
  have part : (0 : Rat) ≤ (cut - request.start : Int) := by exact_mod_cast sub_nonneg.mpr begins.le
  have fits : ((cut - request.start : Int) : Rat) ≤ (request.finish - request.start : Int) := by
    exact_mod_cast by omega
  constructor
  · exact div_nonneg (mul_nonneg accepted.energy part) length.le
  · unfold CalculationRequest.energyBefore
    rw [div_le_iff₀ length]
    exact mul_le_mul_of_nonneg_left fits accepted.energy

include cycleFirst cycleLast

/-- The parts of an accepted request with an explicit cycle are accepted. -/
theorem accepted_parts (begins : request.start < cut) (ends : cut < request.finish) :
    engine.Accepted (request.before cut) ∧ engine.Accepted (request.after cut) := by
  obtain ⟨nonneg, most⟩ := energyBefore_bounds accepted begins ends
  have proper := (properCycle_explicit request cycleFirst cycleLast).mp accepted.cycle
  constructor
  · exact ⟨begins, nonneg, accepted.usage, (properCycle_explicit (request.before cut) cycleFirst cycleLast).mpr proper⟩
  · exact ⟨ends, sub_nonneg.mpr most, add_nonneg accepted.usage nonneg,
      (properCycle_explicit (request.after cut) cycleFirst cycleLast).mpr proper⟩

theorem parts_return (priced : engine.plan.Priced)
    (resolved : engine.resolvedTiers cycleStart cycleEnd = .ok tiers)
    (begins : request.start < cut) (ends : cut < request.finish) :
    (∃ whole, engine.calculate request = .ok whole) ∧
      (∃ first, engine.calculate (request.before cut) = .ok first) ∧
      ∃ second, engine.calculate (request.after cut) = .ok second := by
  obtain ⟨acceptedBefore, acceptedAfter⟩ := accepted_parts accepted cycleFirst cycleLast begins ends
  exact ⟨calculate_returns priced accepted ((cycleTiers_explicit request cycleFirst cycleLast).trans resolved),
    calculate_returns priced acceptedBefore ((cycleTiers_explicit (request.before cut) cycleFirst cycleLast).trans resolved),
    calculate_returns priced acceptedAfter ((cycleTiers_explicit (request.after cut) cycleFirst cycleLast).trans resolved)⟩

end Parts

/-- Cutting an interval, with the energy shared by time and the usage carried over, changes neither the
energy charge nor the energy of any bucket or tier; and where the plan prices every day the calculations
of the whole and of both parts return. -/
theorem calculate_split (regular : engine.zone.Regular) {cut cycleStart cycleEnd : Int}
    (begins : request.start < cut) (ends : cut < request.finish)
    (cycleFirst : request.cycleStart = some cycleStart) (cycleLast : request.cycleEnd = some cycleEnd) :
    (∀ whole first second, engine.calculate request = .ok whole →
      engine.calculate (request.before cut) = .ok first → engine.calculate (request.after cut) = .ok second →
      AddsUp whole first second) ∧
    (engine.plan.Priced → engine.Accepted request →
      (∃ tiers, engine.resolvedTiers cycleStart cycleEnd = .ok tiers) →
      ∃ whole first second, engine.calculate request = .ok whole ∧
        engine.calculate (request.before cut) = .ok first ∧ engine.calculate (request.after cut) = .ok second ∧
        AddsUp whole first second) := by
  have sums : ∀ whole first second, engine.calculate request = .ok whole →
      engine.calculate (request.before cut) = .ok first → engine.calculate (request.after cut) = .ok second →
      AddsUp whole first second := fun whole first second run runBefore runAfter =>
    calculation_addsUp regular begins ends cycleFirst cycleLast run runBefore runAfter
  refine ⟨sums, ?_⟩
  intro priced accepted resolves
  obtain ⟨tiers, resolved⟩ := resolves
  obtain ⟨⟨whole, run⟩, ⟨first, runBefore⟩, ⟨second, runAfter⟩⟩ :=
    parts_return accepted cycleFirst cycleLast priced resolved begins ends
  exact ⟨whole, first, second, run, runBefore, runAfter, sums whole first second run runBefore runAfter⟩

/-- Two tiers whose prices are added to those of the schedule. -/
def adderPlan : Plan :=
  { yearRoundPlan eveningPeriods with
    pricingModel := .timeOfUseTiered
    hybridPricing := some .tierBasePlusTouAdder
    tiers :=
      [{ tierId := "low", name := "Low", order := 0, upperBoundExclusiveKwh := some 100, pricePerKwh := 1 / 10 },
       { tierId := "high", name := "High", order := 1, lowerBoundInclusiveKwh := some 100, pricePerKwh := 3 / 10 }] }

def adderEngine : RateEngine := ⟨adderPlan, springForward, by decide +kernel⟩

theorem adderPlan_priced : adderPlan.Priced where
  covers := fun _ => coversEveryDay_of_yearRound rfl rfl
  matrix := fun _ _ _ period _ tier _ => ⟨tier.pricePerKwh + period.price, rfl⟩

/-- Two days across the change of the clock, cut in the hour that follows it. -/
def adderRequest : CalculationRequest :=
  { start := 0, finish := 2 * dayLength, energyKwh := 24, cumulativeUsageBeforeKwh := 90
    cycleStart := some 0, cycleEnd := some (30 * dayLength) }

theorem adderRequest_split : ∃ whole first second, adderEngine.calculate adderRequest = .ok whole ∧
    adderEngine.calculate (adderRequest.before 37000000000) = .ok first ∧
    adderEngine.calculate (adderRequest.after 37000000000) = .ok second ∧ AddsUp whole first second :=
  (calculate_split springForward_regular (by decide) (by decide) rfl rfl).2 adderPlan_priced
    ⟨by decide, by decide, by decide, by decide⟩ ⟨_, rfl⟩

end RateEngine
end PowerMonitor.Rates
