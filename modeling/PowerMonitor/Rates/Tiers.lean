import PowerMonitor.Library.Ladder
import PowerMonitor.Rates.Tariff
import Mathlib.Data.Rat.Floor

/-! The tiers of a billing cycle.

Fixed thresholds are used as written. Baseline thresholds are multiples of the
baseline of the cycle's days, each bound rounded by itself, so that a tier may end up
empty. The bounds of neighbours still agree, because both come from one multiplier,
and rounding keeps their order.
-/

set_option autoImplicit false
namespace PowerMonitor.Rates
open Library Calendar

/-! ## Resolving thresholds -/

def SeasonalBaseline.Covers (item : SeasonalBaseline) (date : Int) : Prop :=
  (monthDay date).InRange item.start item.finish

instance (item : SeasonalBaseline) (date : Int) : Decidable (item.Covers date) :=
  inferInstanceAs (Decidable (MonthDay.InRange _ _ _))

/-- The baseline configured for a day: the first seasonal one, else the default. -/
def TierThreshold.dailyKwh (threshold : TierThreshold) (date : Int) : Option Rat :=
  match threshold.seasonalBaselines.find? fun item => decide (item.Covers date) with
  | some item => some item.dailyKwh
  | none => threshold.dailyBaselineKwh

def addDailyKwh (threshold : TierThreshold) (total : Rat) (date : Int) : Except EngineError Rat :=
  match threshold.dailyKwh date with
  | some kwh => .ok (total + kwh)
  | none => .error (.valueError ("no daily baseline is configured for " ++ isoformat date))

/-- Ties go away from zero. -/
def roundHalfUp (value : Rat) : Int := if 0 ≤ value then ⌊value + 1 / 2⌋ else -⌊-value + 1 / 2⌋

/-- `_round_threshold` -/
def roundThreshold (policy : RoundingPolicy) (value : Rat) : Rat :=
  match policy with
  | .none => value
  | .nearestKwh => roundHalfUp value
  | .floorKwh => ⌊value⌋
  | .ceilKwh => ⌈value⌉

/-- A tier with its bounds for one cycle. -/
structure ResolvedTier where
  tier : Tier
  lowerBoundKwh : Rat
  upperBoundKwh : Option Rat
  thresholdBasis : ThresholdBasis
  derivedBaselineKwh : Option Rat
  roundingPolicy : RoundingPolicy
  deriving DecidableEq, Repr

/-- The bounds of a tier, given the cycle's baseline. -/
def resolveTier (threshold : TierThreshold) (baseline : Option Rat) (tier : Tier) : ResolvedTier where
  tier := tier
  lowerBoundKwh := match threshold.basis with
    | .dailyBaselineKwh => roundThreshold threshold.roundingPolicy (baseline.getD 0 * tier.lowerBoundMultiplier.getD 0)
    | _ => tier.lowerBoundInclusiveKwh.getD 0
  upperBoundKwh := match threshold.basis with
    | .dailyBaselineKwh => tier.upperBoundMultiplier.map fun multiplier =>
        roundThreshold threshold.roundingPolicy (baseline.getD 0 * multiplier)
    | _ => tier.upperBoundExclusiveKwh
  thresholdBasis := threshold.basis
  derivedBaselineKwh := baseline
  roundingPolicy := threshold.roundingPolicy

/-- `tier_at` over tiers that are resolved already. -/
def tierAt (tiers : List ResolvedTier) (cumulative : Rat) : Option ResolvedTier :=
  tiers.find? (holds ResolvedTier.lowerBoundKwh ResolvedTier.upperBoundKwh cumulative)

namespace RateEngine
variable (engine : RateEngine)

/-- `_baseline_for_cycle` -/
def baselineForCycle (cycleStart cycleEnd : Int) : Except EngineError Rat := do
  let startDay := engine.zone.localDate cycleStart
  let endDay := engine.zone.localDate cycleEnd
  let total ← (daysThrough startDay (endDay - 1)).foldlM (addDailyKwh engine.plan.threshold) 0
  raiseIf (endDay ≤ startDay) (.valueError "billing cycle must span at least one local day")
  pure total

/-- `resolved_tiers` -/
def resolvedTiers (cycleStart cycleEnd : Int) : Except EngineError (List ResolvedTier) :=
  if engine.plan.pricingModel.isTiered then
    match engine.plan.threshold.basis with
    | .dailyBaselineKwh => do
        let baseline ← engine.baselineForCycle cycleStart cycleEnd
        pure (engine.plan.orderedTiers.map (resolveTier engine.plan.threshold (some baseline)))
    | _ => pure (engine.plan.orderedTiers.map (resolveTier engine.plan.threshold none))
  else pure []

end RateEngine

/-! ## Rounding keeps order -/

theorem roundHalfUp_mono {first second : Rat} (ordered : first ≤ second) :
    roundHalfUp first ≤ roundHalfUp second := by
  unfold roundHalfUp
  split
  · next nonneg =>
      rw [if_pos (nonneg.trans ordered)]
      exact Int.floor_le_floor (by linarith)
  · next negative =>
      have low : 0 ≤ ⌊-first + 1 / 2⌋ := Int.floor_nonneg.mpr (by linarith)
      split
      · next nonneg =>
          have high : 0 ≤ ⌊second + 1 / 2⌋ := Int.floor_nonneg.mpr (by linarith)
          omega
      · exact neg_le_neg (Int.floor_le_floor (by linarith))

theorem roundThreshold_mono (policy : RoundingPolicy) {first second : Rat} (ordered : first ≤ second) :
    roundThreshold policy first ≤ roundThreshold policy second := by
  cases policy with
  | none => exact ordered
  | nearestKwh => exact Int.cast_le.mpr (roundHalfUp_mono ordered)
  | floorKwh => exact Int.cast_le.mpr (Int.floor_le_floor ordered)
  | ceilKwh => exact Int.cast_le.mpr (Int.ceil_le_ceil ordered)

theorem roundThreshold_zero (policy : RoundingPolicy) : roundThreshold policy 0 = 0 := by
  cases policy with
  | none => rfl
  | nearestKwh => norm_num [roundThreshold, roundHalfUp]
  | floorKwh => simp [roundThreshold]
  | ceilKwh => simp [roundThreshold]

/-! ## The resolved tiers of a validated plan follow one another -/

/-- What a cycle's baseline and the rounding make of a bound as the plan writes it. -/
def scaleBound (threshold : TierThreshold) (baseline : Option Rat) (bound : Rat) : Rat :=
  match threshold.basis with
  | .dailyBaselineKwh => roundThreshold threshold.roundingPolicy (baseline.getD 0 * bound)
  | _ => bound

section Scale
variable (threshold : TierThreshold) (baseline : Option Rat)

theorem resolveTier_lower (tier : Tier) : (resolveTier threshold baseline tier).lowerBoundKwh =
    scaleBound threshold baseline (tier.lowerBound threshold.basis) := by
  cases basis : threshold.basis <;> simp [resolveTier, scaleBound, Tier.lowerBound, basis]

theorem resolveTier_upper (tier : Tier) : (resolveTier threshold baseline tier).upperBoundKwh =
    (tier.upperBound threshold.basis).map (scaleBound threshold baseline) := by
  cases basis : threshold.basis with
  | dailyBaselineKwh =>
      simp only [resolveTier, Tier.upperBound, basis]
      cases tier.upperBoundMultiplier <;> simp [scaleBound, basis]
  | fixedCycleKwh =>
      simp only [resolveTier, Tier.upperBound, basis]
      cases tier.upperBoundExclusiveKwh <;> simp [scaleBound, basis]
  | unsupported =>
      simp only [resolveTier, Tier.upperBound, basis]
      cases tier.upperBoundExclusiveKwh <;> simp [scaleBound, basis]

theorem scaleBound_zero : scaleBound threshold baseline 0 = 0 := by
  unfold scaleBound
  split
  · rw [mul_zero, roundThreshold_zero]
  · rfl

/-- Scaled bounds keep their order above zero; with a negative baseline all of them are at or below it. -/
theorem scaleBound_ordered {first second : Rat} (nonneg : 0 ≤ first) (ordered : first ≤ second) :
    max 0 (scaleBound threshold baseline first) ≤ max 0 (scaleBound threshold baseline second) := by
  unfold scaleBound
  split
  · rcases le_total 0 (baseline.getD 0) with positive | negative
    · exact max_le_max_left 0 (roundThreshold_mono _ (mul_le_mul_of_nonneg_left ordered positive))
    · have below := roundThreshold_mono threshold.roundingPolicy (mul_nonpos_of_nonpos_of_nonneg negative nonneg)
      rw [roundThreshold_zero] at below
      rw [max_eq_left below]
      exact le_max_left _ _
  · exact max_le_max_left 0 ordered

end Scale

/-- The step lemma of the validation loop. -/
theorem checkTier_eq_ok {basis : ThresholdBasis} {state next : TierCheck} {tier : Tier}
    (passed : checkTier basis state tier = .ok next) :
    tier.lowerBound basis = state.cursor ∧ 0 ≤ tier.pricePerKwh ∧ next.remaining = state.remaining - 1 ∧
      next.cursor = (tier.upperBound basis).getD state.cursor ∧
      (1 < state.remaining → ∃ limit, tier.upperBound basis = some limit ∧ state.cursor < limit) := by
  simp only [checkTier, raiseIf_bind_eq_ok, pure, Except.pure, Except.ok.injEq] at passed
  obtain ⟨_, bounds, finite, rfl⟩ := passed
  rw [not_or, not_not, not_lt] at bounds
  refine ⟨bounds.1, bounds.2, rfl, rfl, ?_⟩
  intro more
  cases upper : tier.upperBound basis with
  | none => exact absurd ⟨more, by simp [upper]⟩ finite
  | some limit =>
      refine ⟨limit, rfl, ?_⟩
      rw [← bounds.1]
      by_contra short
      exact finite ⟨more, by simpa [upper] using short⟩

theorem ladder_of_checks (threshold : TierThreshold) (baseline : Option Rat) (tiers : List Tier)
    {state final : TierCheck} (count : state.remaining = tiers.length) (nonempty : tiers ≠ [])
    (nonneg : 0 ≤ state.cursor) (passed : tiers.foldlM (checkTier threshold.basis) state = .ok final)
    (openEnded : ∀ last ∈ tiers.getLast?, last.upperBound threshold.basis = none) :
    Ladder ResolvedTier.lowerBoundKwh ResolvedTier.upperBoundKwh 0 (scaleBound threshold baseline state.cursor)
      (tiers.map (resolveTier threshold baseline)) := by
  induction tiers generalizing state with
  | nil => exact absurd rfl nonempty
  | cons tier rest ih =>
      rw [List.foldlM_cons, bind_eq_ok] at passed
      obtain ⟨next, first, later⟩ := passed
      obtain ⟨start, _, remaining, cursor, more⟩ := checkTier_eq_ok first
      have lower : (resolveTier threshold baseline tier).lowerBoundKwh =
          scaleBound threshold baseline state.cursor := by rw [resolveTier_lower, start]
      cases rest with
      | nil =>
          refine ⟨lower, ?_⟩
          rw [resolveTier_upper, openEnded tier rfl, Option.map_none]
      | cons following rest =>
          obtain ⟨limit, upper, grows⟩ := more (by simp [count])
          have finish : next.cursor = limit := by rw [cursor, upper, Option.getD_some]
          refine ⟨lower, scaleBound threshold baseline limit, ?_, ?_, ?_⟩
          · rw [resolveTier_upper, upper, Option.map_some]
          · exact scaleBound_ordered threshold baseline nonneg grows.le
          · rw [← finish]
            refine ih (by simp [remaining, count]) (List.cons_ne_nil _ _) ?_ later ?_
            · rw [finish]
              exact nonneg.trans grows.le
            · simpa [List.getLast?_cons_cons] using openEnded

theorem validatePlan_tiers {plan : Plan} (valid : validatePlan plan = .ok ())
    (tiered : plan.pricingModel.isTiered = true) : validateTiers plan = .ok () := by
  unfold validatePlan at valid
  cases model : plan.pricingModel with
  | tiered => simpa [model] using valid
  | timeOfUseTiered =>
      simp only [model, bind_eq_ok] at valid
      obtain ⟨_, passed, _⟩ := valid
      exact passed
  | flat => simp [PricingModel.isTiered, model] at tiered
  | timeOfUse => simp [PricingModel.isTiered, model] at tiered
  | unsupported => simp [PricingModel.isTiered, model] at tiered

/-- Whatever the baseline and the rounding, the resolved tiers start at zero and leave no gap. -/
theorem ladder_of_validateTiers {plan : Plan} (valid : validateTiers plan = .ok ()) (baseline : Option Rat) :
    Ladder ResolvedTier.lowerBoundKwh ResolvedTier.upperBoundKwh 0 0
      (plan.orderedTiers.map (resolveTier plan.threshold baseline)) := by
  unfold validateTiers at valid
  rw [raiseIf_bind_eq_ok, raiseIf_bind_eq_ok, bind_eq_ok] at valid
  obtain ⟨orders, _, _, passed, final⟩ := valid
  have openEnded := raiseIf_eq_ok.mp final
  rw [not_or, not_lt] at orders
  have nonempty : plan.orderedTiers ≠ [] := by
    intro empty
    simp [empty] at orders
  have upper : ∀ last ∈ plan.orderedTiers.getLast?, last.upperBound plan.threshold.basis = none := by
    intro last member
    have closed := not_exists.mp openEnded last
    rw [not_and, not_or, not_not, not_not] at closed
    obtain ⟨exclusive, multiplier⟩ := closed member
    cases basis : plan.threshold.basis <;> simp [Tier.upperBound, exclusive, multiplier]
  have ladder := ladder_of_checks plan.threshold baseline plan.orderedTiers rfl nonempty le_rfl passed upper
  rw [scaleBound_zero] at ladder
  exact ladder

theorem RateEngine.resolvedTiers_ladder {engine : RateEngine} {cycleStart cycleEnd : Int}
    {tiers : List ResolvedTier} (tiered : engine.plan.pricingModel.isTiered = true)
    (resolved : engine.resolvedTiers cycleStart cycleEnd = .ok tiers) :
    Ladder ResolvedTier.lowerBoundKwh ResolvedTier.upperBoundKwh 0 0 tiers := by
  have valid := validatePlan_tiers engine.valid tiered
  unfold RateEngine.resolvedTiers at resolved
  rw [if_pos tiered] at resolved
  split at resolved
  · rw [bind_eq_ok] at resolved
    obtain ⟨baseline, _, rest⟩ := resolved
    cases rest
    exact ladder_of_validateTiers valid (some baseline)
  · cases resolved
    exact ladder_of_validateTiers valid none

end PowerMonitor.Rates
