import PowerMonitor.Rates.Lowering

/-! When a document that passes its validation can be priced.

Three things the validation lets through stop the engine: two seasons of one name, of
which the dictionary keeps the last; seasonal baselines that leave out days and have no
default; and an upper bound in kilowatt-hours left on the final tier of a baseline plan.
Without them every request is priced, and each of them stops some request.
-/

set_option autoImplicit false
namespace PowerMonitor.Rates
open Library Calendar

variable {document : RatePlanDocument} {options : ValidationOptions} {zone : Zone}

/-! ## What a valid report says -/

structure RatePlanDocument.Clean (document : RatePlanDocument) : Prop where
  seasons : ∀ season ∈ document.seasons, seasonErrors season = []
  present : document.pricingModel.isTimeOfUse = true → document.seasons ≠ []
  tiers : document.pricingModel.isTiered = true → document.allTierErrors = []

theorem clean_of_valid (valid : (validateDocument options document).valid = true) : document.Clean := by
  simp only [ValidationReport.valid, validateDocument, decide_eq_true_eq, List.append_eq_nil_iff, issueIf_eq_nil,
    List.flatMap_eq_nil_iff] at valid
  obtain ⟨⟨⟨⟨⟨⟨_, present⟩, seasons⟩, _⟩, tiers⟩, _⟩, _⟩ := valid
  refine ⟨seasons, fun timeOfUse empty => present ⟨timeOfUse, empty⟩, ?_⟩
  intro tiered
  rwa [if_pos tiered] at tiers

theorem RatePlanDocument.Clean.normal (clean : document.Clean) :
    ∀ season ∈ document.seasons, season.HasNormalDays := by
  intro season member
  have errors := clean.seasons season member
  unfold seasonErrors at errors
  rw [List.append_eq_nil_iff, issueIf_eq_nil, not_not] at errors
  exact errors.1

/-! ## Construction -/

/-- The engine accepts the plan of a clean document unless its final tier kept a bound. -/
theorem validatePlan_iff (clean : document.Clean) :
    validatePlan (enginePlan document) = .ok () ↔
      (document.pricingModel.isTiered = true → document.FinalTierOpen) := by
  have schedules := schedules_pass clean.seasons
  have model : (enginePlan document).pricingModel = document.pricingModel := rfl
  unfold validatePlan
  cases kind : document.pricingModel with
  | flat =>
      cases rate : document.flatRatePerKwh with
      | none => exact absurd rate (document.flatRatePresent kind)
      | some value =>
          have nonneg := document.flatRateNonnegative value rate
          have flat : (enginePlan document).flatRatePerKwh = some value := rate
          simp [model, kind, validateFlat, flat, nonneg, PricingModel.isTiered]
  | timeOfUse => simp [model, kind, schedules, PricingModel.isTiered]
  | tiered =>
      have tiered : document.pricingModel.isTiered = true := by rw [kind]; rfl
      simp [model, kind, validateTiers_iff tiered (clean.tiers tiered), PricingModel.isTiered]
  | timeOfUseTiered =>
      have tiered : document.pricingModel.isTiered = true := by rw [kind]; rfl
      have tiers := validateTiers_iff tiered (clean.tiers tiered)
      simp only [model, kind, bind_eq_ok, PricingModel.isTiered, forall_const]
      constructor
      · rintro ⟨_, passed, _⟩
        exact tiers.mp passed
      · intro openEnded
        exact ⟨(), tiers.mpr openEnded, schedules⟩
  | unsupported name => exact absurd kind (document.supported name)

/-! ## Prices -/

theorem matrixErrors_nil {labels : List String} (tiers : List TierDefinitionDocument) {index : Nat}
    (clean : matrixErrors labels index tiers = []) :
    ∀ tier ∈ tiers, ∀ label ∈ labels, ∃ price, tier.touPrices.lookup label = some price := by
  induction tiers generalizing index with
  | nil => simp
  | cons tier rest ih =>
      simp only [matrixErrors, List.append_eq_nil_iff, issueIf_eq_nil, not_or, not_not] at clean
      obtain ⟨⟨missing, _⟩, later⟩ := clean
      intro other member label labelled
      cases List.mem_cons.mp member with
      | inl here =>
          apply exists_lookup
          by_contra absent
          have listed : label ∈ sortedDifference labels (tier.touPrices.map Prod.fst) := by
            simp only [sortedDifference, List.mem_insertionSort, List.mem_dedup, List.mem_filter, decide_eq_true_eq]
            exact ⟨labelled, here ▸ absent⟩
          rw [missing] at listed
          exact absurd listed List.not_mem_nil
      | inr deeper => exact ih later other deeper label labelled

/-- The matrix of a clean hybrid plan prices every bucket in every tier. -/
theorem matrixPriced (clean : document.Clean) (hybrid : document.pricingModel = .timeOfUseTiered) :
    (enginePlan document).MatrixPriced := by
  intro schedule member period inside tier tierMember
  obtain ⟨source, sourceMember, rfl⟩ := List.mem_map.mp tierMember
  obtain ⟨season, seasonMember, own, ownMember, values⟩ := schedules_lowered schedule member
  rw [values] at inside
  obtain ⟨entry, entryMember, rfl⟩ := List.mem_map.mp inside
  have labelled : entry.label ∈ document.periodLabels := by
    unfold RatePlanDocument.periodLabels
    simp only [List.mem_flatMap, List.mem_map]
    exact ⟨season, seasonMember, own, ownMember, entry, (List.mem_insertionSort _).mp entryMember, rfl⟩
  have model : (enginePlan document).pricingModel = .timeOfUseTiered := hybrid
  have method : (enginePlan document).hybridPricing = document.hybridPricing := rfl
  unfold Plan.tierPrice
  rw [model, if_neg (by decide), method]
  cases kind : document.hybridPricing.getD .tierPeriodMatrix with
  | tierPeriodMatrix =>
      have tiered : document.pricingModel.isTiered = true := by rw [hybrid]; rfl
      have errors := clean.tiers tiered
      unfold RatePlanDocument.allTierErrors at errors
      rw [List.append_eq_nil_iff, if_pos ⟨hybrid, kind⟩] at errors
      obtain ⟨price, known⟩ := matrixErrors_nil document.orderedTiers errors.2 source
        ((List.mem_insertionSort _).mpr sourceMember) entry.label labelled
      exact ⟨price, getKey_eq_ok.mpr known⟩
  | tierBasePlusTouAdder => exact ⟨_, rfl⟩
  | touBasePlusTierAdder => exact ⟨_, rfl⟩

/-! ## Baselines -/

/-- A day has a baseline exactly when the document gives its month-day one. -/
theorem dailyKwh_isSome (date : Int) : ((enginePlan document).threshold.dailyKwh date).isSome ↔
    document.threshold.dailyBaselineKwh ≠ none ∨
      ∃ item ∈ document.threshold.seasonalBaselines, (monthDay date).InRange item.start item.finish := by
  unfold TierThreshold.dailyKwh
  split
  · next item search =>
      obtain ⟨source, member, rfl⟩ := List.mem_map.mp (List.mem_of_find?_eq_some search)
      have covers : source.lower.Covers date := by simpa using List.find?_some search
      exact ⟨fun _ => .inr ⟨source, member, covers⟩, fun _ => rfl⟩
  · next search =>
      have missed : ∀ item ∈ document.threshold.seasonalBaselines, ¬ item.lower.Covers date := by
        intro item member
        have := List.find?_eq_none.mp search item.lower (List.mem_map.mpr ⟨item, member, rfl⟩)
        simpa using this
      have default : (enginePlan document).threshold.dailyBaselineKwh = document.threshold.dailyBaselineKwh := rfl
      rw [default, Option.isSome_iff_ne_none]
      constructor
      · exact fun given => .inl given
      · intro either
        cases either with
        | inl given => exact given
        | inr seasonal =>
            obtain ⟨item, member, covers⟩ := seasonal
            exact absurd covers (missed item member)

namespace RateEngine
variable {engine : RateEngine}

theorem addDailyKwh_eq_ok {threshold : TierThreshold} {total next : Rat} {date : Int}
    (run : addDailyKwh threshold total date = .ok next) : (threshold.dailyKwh date).isSome := by
  unfold addDailyKwh at run
  split at run
  · next kwh found => rw [found]; rfl
  · cases run

/-- The baseline of a cycle resolves exactly when each of its days has one. -/
theorem baselineForCycle_eq_ok {cycleStart cycleEnd : Int} (spans : engine.zone.localDate cycleStart <
    engine.zone.localDate cycleEnd) : (∃ baseline, engine.baselineForCycle cycleStart cycleEnd = .ok baseline) ↔
      ∀ date, engine.zone.localDate cycleStart ≤ date → date < engine.zone.localDate cycleEnd →
        (engine.plan.threshold.dailyKwh date).isSome := by
  constructor
  · rintro ⟨baseline, run⟩ date after before
    unfold baselineForCycle at run
    obtain ⟨total, fold, _⟩ := bind_eq_ok.mp run
    have member : date ∈ daysThrough (engine.zone.localDate cycleStart) (engine.zone.localDate cycleEnd - 1) :=
      mem_daysThrough.mpr ⟨after, by omega⟩
    obtain ⟨_, _, _, step⟩ := foldlM_step_of_mem (fun _ => True) trivial (fun _ _ _ _ _ => trivial) fold member
    exact addDailyKwh_eq_ok step
  · intro each
    obtain ⟨total, fold⟩ : ∃ total, (daysThrough (engine.zone.localDate cycleStart)
        (engine.zone.localDate cycleEnd - 1)).foldlM (addDailyKwh engine.plan.threshold) 0 = .ok total := by
      apply foldlM_returns (fun _ => True) _ trivial
      intro total date member _
      obtain ⟨after, before⟩ := mem_daysThrough.mp member
      obtain ⟨kwh, found⟩ := Option.isSome_iff_exists.mp (each date after (by omega))
      exact ⟨total + kwh, by rw [addDailyKwh, found], trivial⟩
    refine ⟨total, bind_eq_ok.mpr ⟨total, fold, ?_⟩⟩
    exact raiseIf_bind_eq_ok.mpr ⟨not_le.mpr spans, rfl⟩

/-- The cycle of a tiered request holds a local midnight. -/
def SpansALocalDay (engine : RateEngine) (request : CalculationRequest) : Prop :=
  engine.plan.pricingModel.isTiered = true → ∀ cycleStart ∈ (engine.cycleOf request).1,
    ∀ cycleEnd ∈ (engine.cycleOf request).2, engine.zone.localDate cycleStart < engine.zone.localDate cycleEnd

theorem cycleTiers_returns {request : CalculationRequest} (spans : engine.SpansALocalDay request)
    (baselines : engine.plan.pricingModel.isTiered = true → engine.plan.threshold.basis = .dailyBaselineKwh →
      ∀ date, (engine.plan.threshold.dailyKwh date).isSome) :
    ∃ tiers, engine.cycleTiers request = .ok tiers := by
  unfold cycleTiers
  split
  · next cycleStart cycleEnd cycle =>
      unfold resolvedTiers
      by_cases tiered : engine.plan.pricingModel.isTiered = true
      · rw [if_pos tiered]
        split
        · next daily =>
            have long := spans tiered cycleStart (by rw [cycle]; rfl) cycleEnd (by rw [cycle]; rfl)
            obtain ⟨baseline, run⟩ := (baselineForCycle_eq_ok long).mpr fun date _ _ => baselines tiered daily date
            exact ⟨_, bind_eq_ok.mpr ⟨baseline, run, rfl⟩⟩
        · exact ⟨_, rfl⟩
      · rw [if_neg tiered]
        exact ⟨_, rfl⟩
  · exact ⟨_, rfl⟩

end RateEngine

/-! ## The contract -/

namespace RatePlanDocument

/-- The engine is built and prices every request whose cycle spans a local day. -/
def Priceable (document : RatePlanDocument) (zone : Zone) : Prop :=
  ∃ engine, RateEngine.construct (enginePlan document) zone = .ok engine ∧
    ∀ request, engine.Accepted request → engine.SpansALocalDay request →
      ∃ calculation, engine.calculate request = .ok calculation

/-- What the validation does not ask for. -/
structure EngineReady (document : RatePlanDocument) : Prop where
  seasons : document.pricingModel.isTimeOfUse = true → document.SeasonsKept
  baselines : document.pricingModel.isTiered = true → document.threshold.basis = .dailyBaselineKwh →
    document.BaselineEveryDay
  finalTier : document.pricingModel.isTiered = true → document.FinalTierOpen

end RatePlanDocument

theorem priceable_of_engineReady (clean : document.Clean) (ready : document.EngineReady) : document.Priceable zone := by
  have valid := (validatePlan_iff clean).mpr ready.finalTier
  refine ⟨⟨enginePlan document, zone, valid⟩, construct_eq_ok.mpr ⟨rfl, rfl⟩, ?_⟩
  intro request accepted spans
  have priced : (enginePlan document).Priced :=
    ⟨fun timeOfUse => coversEveryDay_of_seasonsKept (ready.seasons timeOfUse) clean.normal,
      fun hybrid => matrixPriced clean hybrid⟩
  obtain ⟨tiers, resolved⟩ := RateEngine.cycleTiers_returns spans fun tiered daily date =>
    dailyKwh_isSome date |>.mpr (ready.baselines tiered daily (monthDay date) (monthDay_valid date))
  exact RateEngine.calculate_returns priced accepted resolved

/-- Four days around a date, as interval and as cycle. -/
def aroundDate (date : Int) : CalculationRequest :=
  { start := wallAt date 0 - 2 * dayLength, finish := wallAt date 0 + 2 * dayLength, energyKwh := 0
    cycleStart := some (wallAt date 0 - 2 * dayLength), cycleEnd := some (wallAt date 0 + 2 * dayLength) }

namespace RateEngine
variable {engine : RateEngine}

theorem aroundDate_accepted (date : Int) : engine.Accepted (aroundDate date) where
  interval := by simp only [aroundDate, dayLength]; omega
  energy := le_rfl
  usage := le_rfl
  cycle := (properCycle_explicit (aroundDate date) rfl rfl).mpr fun _ => by simp only [dayLength]; omega

/-- Offsets are less than a day, so the date lies between the local dates of both ends. -/
theorem aroundDate_localDates (zone : Zone) (date : Int) : zone.localDate (aroundDate date).start ≤ date ∧
    date < zone.localDate (aroundDate date).finish := by
  have first := zone.bounded (aroundDate date).start
  have last := zone.bounded (aroundDate date).finish
  simp only [Zone.localDate, Zone.toLocal, aroundDate, dateOf, wallAt, dayLength] at *
  omega

theorem aroundDate_spans (date : Int) : engine.SpansALocalDay (aroundDate date) := by
  intro tiered cycleStart first cycleEnd last
  obtain ⟨before, after⟩ := aroundDate_localDates engine.zone date
  simp only [cycleOf, tiered, if_true, aroundDate, Option.getD_some, Option.mem_def, Option.some.injEq] at first last
  rw [← first, ← last]
  exact before.trans_lt after

/-- The boundaries around a date need the date's schedule. -/
theorem periodsForDate_of_boundaries (timeOfUse : engine.plan.pricingModel.isTimeOfUse = true) {date : Int}
    {points : List Int} (found : engine.boundaries (aroundDate date).start (aroundDate date).finish = .ok points) :
    ∃ periods, engine.plan.periodsForDate date = .ok periods := by
  rw [boundaries_timeOfUse timeOfUse] at found
  obtain ⟨items, listed, _⟩ := bind_eq_ok.mp found
  obtain ⟨edges, days, _⟩ := bind_eq_ok.mp listed
  obtain ⟨before, after⟩ := aroundDate_localDates engine.zone date
  obtain ⟨_, _, day⟩ := mapM_mem days (mem_daysThrough.mpr ⟨by omega, by omega⟩ : date ∈ _)
  unfold dayCandidates at day
  obtain ⟨_, _, day⟩ := bind_eq_ok.mp day
  obtain ⟨periods, schedule, _⟩ := bind_eq_ok.mp day
  exact ⟨periods, schedule⟩

/-- The tiers of a cycle around a date need the date's baseline. -/
theorem dailyKwh_of_resolvedTiers (tiered : engine.plan.pricingModel.isTiered = true)
    (daily : engine.plan.threshold.basis = .dailyBaselineKwh) {date : Int} {tiers : List ResolvedTier}
    (resolved : engine.resolvedTiers (aroundDate date).start (aroundDate date).finish = .ok tiers) :
    (engine.plan.threshold.dailyKwh date).isSome := by
  rw [resolvedTiers, if_pos tiered, daily] at resolved
  obtain ⟨baseline, run, _⟩ := bind_eq_ok.mp resolved
  obtain ⟨before, after⟩ := aroundDate_localDates engine.zone date
  exact (baselineForCycle_eq_ok (before.trans_lt after)).mp ⟨baseline, run⟩ date before after

end RateEngine

/-- An engine that is built and reads the days around every date has a document that is ready. -/
theorem engineReady_of_aroundDates (clean : document.Clean) {engine : RateEngine}
    (plan : engine.plan = enginePlan document)
    (days : ∀ date, (∃ points, engine.boundaries (aroundDate date).start (aroundDate date).finish = .ok points) ∧
      ∃ tiers, engine.resolvedTiers (aroundDate date).start (aroundDate date).finish = .ok tiers) :
    document.EngineReady := by
  have model : engine.plan.pricingModel = document.pricingModel := by rw [plan]; rfl
  refine ⟨?_, ?_, ?_⟩
  · intro timeOfUse value valid
    obtain ⟨date, rfl⟩ := exists_monthDay valid
    obtain ⟨points, found⟩ := (days date).1
    obtain ⟨periods, schedule⟩ := RateEngine.periodsForDate_of_boundaries (by rw [model]; exact timeOfUse) found
    rw [Plan.periodsForDate, model, if_pos timeOfUse, plan] at schedule
    obtain ⟨name, found, _⟩ := bind_eq_ok.mp schedule
    obtain ⟨season, last, inRange⟩ := season_of_lowered (seasons_ne_nil (clean.present timeOfUse)) found
    obtain ⟨member, rfl⟩ := lastNamed_mem last
    exact ⟨season, member, last, inRange⟩
  · intro tiered daily value valid
    obtain ⟨date, rfl⟩ := exists_monthDay valid
    obtain ⟨tiers, resolved⟩ := (days date).2
    have baseline := RateEngine.dailyKwh_of_resolvedTiers (by rw [model]; exact tiered) (by rw [plan]; exact daily) resolved
    rw [plan] at baseline
    exact (dailyKwh_isSome date).mp baseline
  · exact (validatePlan_iff clean).mp (plan ▸ engine.valid)

theorem engineReady_of_priceable (clean : document.Clean) (priceable : document.Priceable zone) :
    document.EngineReady := by
  obtain ⟨engine, built, returns⟩ := priceable
  refine engineReady_of_aroundDates clean (construct_eq_ok.mp built).1 fun date => ?_
  obtain ⟨calculation, run⟩ := returns (aroundDate date) (RateEngine.aroundDate_accepted date)
    (RateEngine.aroundDate_spans date)
  obtain ⟨_, points, tiers, _, found, resolved, _⟩ := (RateEngine.calculate_eq_ok engine (aroundDate date)).mp run
  rw [RateEngine.cycleTiers_explicit (aroundDate date) rfl rfl] at resolved
  exact ⟨⟨points, found⟩, ⟨tiers, resolved⟩⟩

/-- Two tiers above and below a baseline that is configured for the summer, and perhaps by default. -/
def summerBaseline (default : Option Rat) : RatePlanDocument where
  pricingModel := .tiered
  threshold :=
    { basis := .dailyBaselineKwh
      dailyBaselineKwh := default
      seasonalBaselines := [⟨⟨6, 1⟩, ⟨9, 30⟩, 10, by decide, by decide, by decide⟩]
      supported := .inr rfl
      completeThreshold := ⟨fun _ => .inr (by simp), fun fixed => by cases fixed⟩ }
  tiers :=
    [{ tierId := "base", name := "Base", order := 0, upperBoundMultiplier := some 1, pricePerKwh := 1 / 5
       identified := by decide, priceNonnegative := by norm_num },
     { tierId := "over", name := "Over", order := 1, lowerBoundMultiplier := some 1, pricePerKwh := 1 / 2
       identified := by decide, priceNonnegative := by norm_num }]
  supported := tiered_supported
  flatRateNonnegative := fun _ rate => by cases rate
  flatRatePresent := fun model => by cases model
  twoTiers := fun _ => le_rfl
  hybridOnly := by simp

/-- An hour of the first of January 2024, in the cycle of that month. -/
def januaryRequest : CalculationRequest :=
  { start := 19723 * dayLength, finish := 19723 * dayLength + 60 * minuteLength, energyKwh := 1
    cycleStart := some (19723 * dayLength), cycleEnd := some (19754 * dayLength) }

end PowerMonitor.Rates
