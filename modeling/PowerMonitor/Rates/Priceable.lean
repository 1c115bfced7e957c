import PowerMonitor.Rates.Allocation
import PowerMonitor.Rates.Coverage

/-! When a calculation returns.

A request that passes the checks is priced when every day has a schedule, every bucket
of a schedule has a price in every tier, and the tiers of the cycle resolve. Nothing is
asked of the zone: each part of the calculation looks up one instant at a time.
-/

set_option autoImplicit false
namespace PowerMonitor.Rates
open Library Calendar

/-- Every entry of a schedule has a price in every tier. -/
def Plan.MatrixPriced (plan : Plan) : Prop := ∀ schedule ∈ plan.schedules, ∀ period ∈ schedule.2,
  ∀ tier ∈ plan.tiers, ∃ price, plan.tierPrice tier period.bucket period.price = .ok price

/-- What a plan needs besides its validation. -/
structure Plan.Priced (plan : Plan) : Prop where
  covers : plan.pricingModel.isTimeOfUse = true → plan.CoversEveryDay
  matrix : plan.pricingModel = .timeOfUseTiered → plan.MatrixPriced

theorem validatePlan_flat {plan : Plan} (valid : validatePlan plan = .ok ()) (flat : plan.pricingModel = .flat) :
    ∃ rate, plan.flatRatePerKwh = some rate := by
  unfold validatePlan validateFlat at valid
  cases rate : plan.flatRatePerKwh with
  | none => simp [flat, rate, throw, throwThe, MonadExceptOf.throw] at valid
  | some value => exact ⟨value, rfl⟩

namespace RateEngine
variable {engine : RateEngine} {request : CalculationRequest} {tiers : List ResolvedTier}

theorem wholePrice_returns (engine : RateEngine) (touRate : Rat) :
    ∃ price, engine.plan.wholePrice touRate = .ok price := by
  unfold Plan.wholePrice
  split
  · next flat =>
      obtain ⟨rate, known⟩ := validatePlan_flat engine.valid flat
      exact ⟨rate, by rw [Plan.flatRate, known]⟩
  · exact ⟨touRate, rfl⟩

theorem priceWhole_returns (engine : RateEngine) (slice : TariffSlice) (ledger : Ledger) :
    ∃ after, engine.plan.priceWhole slice ledger = .ok after ∧ after.cumulative = ledger.cumulative := by
  obtain ⟨price, rate⟩ := engine.wholePrice_returns slice.touRate
  unfold Plan.priceWhole
  rw [rate]
  exact ⟨_, rfl, rfl⟩

/-- Every instant has a tariff, and with tiers each of them a price for it. -/
theorem tariff_returns (priced : engine.plan.Priced) (instant : Int) :
    ∃ tariff, engine.periodAt instant = .ok tariff ∧ (engine.plan.pricingModel.isTiered = true →
      ∀ tier ∈ engine.plan.tiers, ∃ price, engine.plan.tierPrice tier tariff.1 tariff.2 = .ok price) := by
  by_cases timeOfUse : engine.plan.pricingModel.isTimeOfUse = true
  · obtain ⟨periods, schedule⟩ := (priced.covers timeOfUse).periodsForDate (engine.zone.localDate instant)
    obtain ⟨label, member⟩ := Plan.periodsForDate_mem timeOfUse schedule
    obtain ⟨period, inside, found⟩ := periodAt_returns timeOfUse schedule
    refine ⟨_, found, ?_⟩
    intro tiered tier tierMember
    have model : engine.plan.pricingModel = .timeOfUseTiered := by
      cases model : engine.plan.pricingModel <;> simp_all [PricingModel.isTimeOfUse, PricingModel.isTiered]
    exact priced.matrix model _ member period inside tier tierMember
  · cases not_timeOfUse timeOfUse with
    | inl flat =>
        obtain ⟨rate, known⟩ := validatePlan_flat engine.valid flat
        refine ⟨("flat", rate), ?_, ?_⟩
        · simp [periodAt, flat, Plan.flatRate, known, bind, Except.bind, pure, Except.pure]
        · simp [flat, PricingModel.isTiered]
    | inr tiered =>
        refine ⟨("all-hours", 0), by simp [periodAt, tiered, pure, Except.pure], ?_⟩
        intro _ tier _
        exact ⟨tier.pricePerKwh, by simp [Plan.tierPrice, tiered]⟩

/-- The tiers a request uses are those of the plan, and without gap if there are any. -/
theorem cycleTiers_spec (resolved : engine.cycleTiers request = .ok tiers) (nonempty : tiers ≠ []) :
    engine.plan.pricingModel.isTiered = true ∧ Gapless tiers ∧ ∀ found ∈ tiers, found.tier ∈ engine.plan.tiers := by
  by_cases tiered : engine.plan.pricingModel.isTiered = true
  · refine ⟨tiered, cycleTiers_gapless tiered resolved, ?_⟩
    have ordered : ∀ tier ∈ engine.plan.orderedTiers, tier ∈ engine.plan.tiers := by
      intro tier member
      exact (List.mem_insertionSort _).mp member
    unfold cycleTiers cycleOf at resolved
    rw [if_pos tiered] at resolved
    unfold resolvedTiers at resolved
    simp only [tiered, if_true] at resolved
    intro found member
    split at resolved
    · obtain ⟨baseline, _, rest⟩ := bind_eq_ok.mp resolved
      cases rest
      obtain ⟨tier, tierMember, rfl⟩ := List.mem_map.mp member
      exact ordered tier tierMember
    · cases resolved
      obtain ⟨tier, tierMember, rfl⟩ := List.mem_map.mp member
      exact ordered tier tierMember
  · unfold cycleTiers at resolved
    split at resolved
    · unfold resolvedTiers at resolved
      rw [if_neg tiered] at resolved
      cases resolved
      exact absurd rfl nonempty
    · cases resolved
      exact absurd rfl nonempty

/-- With an explicit cycle the tiers do not depend on the interval. -/
theorem cycleTiers_explicit (request : CalculationRequest) {cycleStart cycleEnd : Int}
    (first : request.cycleStart = some cycleStart)
    (last : request.cycleEnd = some cycleEnd) :
    engine.cycleTiers request = engine.resolvedTiers cycleStart cycleEnd := by
  unfold cycleTiers cycleOf
  split <;> simp_all

theorem properCycle_explicit (request : CalculationRequest) {cycleStart cycleEnd : Int}
    (first : request.cycleStart = some cycleStart)
    (last : request.cycleEnd = some cycleEnd) :
    engine.ProperCycle request ↔ (engine.plan.pricingModel.isTiered = true → cycleStart < cycleEnd) := by
  unfold ProperCycle
  apply imp_congr_right
  intro tiered
  simp [cycleOf, tiered, first, last]

theorem CalculationRequest.share_nonneg (accepted : engine.Accepted request) {left right : Int} (ordered : left ≤ right) :
    0 ≤ request.share left right := by
  have length := secondsBetween_pos accepted.interval
  have piece : 0 ≤ secondsBetween left right := by
    unfold secondsBetween
    have : (0 : Rat) ≤ (right - left : Int) := by exact_mod_cast sub_nonneg.mpr ordered
    positivity
  exact div_nonneg (mul_nonneg accepted.energy piece) length.le

theorem priceSlice_returns (priced : engine.plan.Priced) (accepted : engine.Accepted request)
    (resolved : engine.cycleTiers request = .ok tiers) {left right : Int} (ordered : left ≤ right)
    {ledger : Ledger} (usage : 0 ≤ ledger.cumulative) :
    ∃ after, engine.priceSlice request tiers ledger (left, right) = .ok after ∧ 0 ≤ after.cumulative := by
  obtain ⟨tariff, found, tierPrices⟩ := tariff_returns priced (left + half (right - left))
  have energy := CalculationRequest.share_nonneg accepted ordered
  by_cases empty : tiers = []
  · obtain ⟨after, run, same⟩ := engine.priceWhole_returns
      ⟨left, right, request.share left right, tariff.1, tariff.2⟩ ledger
    refine ⟨after, bind_eq_ok.mpr ⟨tariff, found, ?_⟩, same ▸ usage⟩
    rw [if_pos empty]
    exact run
  · obtain ⟨tiered, gapless, members⟩ := cycleTiers_spec resolved empty
    let slice : TariffSlice := ⟨left, right, request.share left right, tariff.1, tariff.2⟩
    obtain ⟨after, run⟩ : ∃ after, engine.plan.priceTiers tiers slice ledger = .ok after :=
      priceTiers_returns gapless (fun tier member => tierPrices tiered tier.tier (members tier member)) usage
    have accrued := priceTiers_accrual gapless usage energy run
    refine ⟨after, bind_eq_ok.mpr ⟨tariff, found, ?_⟩, ?_⟩
    · rw [if_neg empty]
      exact run
    · rw [accrued.cumulative]
      exact add_nonneg usage energy

theorem boundaries_of_priced (priced : engine.plan.Priced) (start finish : Int) :
    ∃ points, engine.boundaries start finish = .ok points := by
  by_cases timeOfUse : engine.plan.pricingModel.isTimeOfUse = true
  · exact boundaries_returns timeOfUse (priced.covers timeOfUse) start finish
  · unfold boundaries
    cases not_timeOfUse timeOfUse with
    | inl flat => exact ⟨_, by rw [flat]; rfl⟩
    | inr tiered => exact ⟨_, by rw [tiered]; rfl⟩

/-- A request that passes the checks is priced once its tiers resolve. -/
theorem calculate_returns (priced : engine.plan.Priced) (accepted : engine.Accepted request)
    (resolved : engine.cycleTiers request = .ok tiers) : ∃ calculation, engine.calculate request = .ok calculation := by
  obtain ⟨points, found⟩ := boundaries_of_priced priced request.start request.finish
  have tiles := boundaries_tiles accepted.interval found
  obtain ⟨ledger, fold⟩ : ∃ ledger,
      (pairwise points).foldlM (engine.priceSlice request tiers) (openingLedger request) = .ok ledger := by
    apply foldlM_returns (fun ledger => 0 ≤ ledger.cumulative) _ accepted.usage
    intro ledger piece member usage
    obtain ⟨_, proper, _⟩ := tiles.piece member
    exact priceSlice_returns priced accepted resolved proper.le usage
  exact ⟨_, (calculate_eq_ok engine request).mpr ⟨accepted, points, tiers, ledger, found, resolved, fold, rfl⟩⟩

end RateEngine
end PowerMonitor.Rates
