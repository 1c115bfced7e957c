import PowerMonitor.Library.Dict
import PowerMonitor.Rates.Plan

/-! Rate-plan documents, their validation and their lowering to a plan dictionary.

A document is what the schema models accept: each structure carries the conditions its
validators enforce. Numbers written as decimal strings are their values. Month-days and
dates are parsed. Texts that nothing here reads are left out, as are length limits.
-/

set_option autoImplicit false
namespace PowerMonitor.Rates
open Library Calendar

/-! ## Documents -/

inductive DocumentDayType where | weekday | weekend | allDays | holiday | dateOverride
  deriving DecidableEq, Repr

def DocumentDayType.text : DocumentDayType → String
  | .weekday => "weekday"
  | .weekend => "weekend"
  | .allDays => "all-days"
  | .holiday => "holiday"
  | .dateOverride => "date-override"

structure RatePeriodDocument where
  label : String
  startMinute : Int
  endMinute : Int
  pricePerKwh : Rat
  labelled : label ≠ ""
  startInDay : 0 ≤ startMinute ∧ startMinute ≤ 1439
  endInDay : 1 ≤ endMinute ∧ endMinute ≤ 1440
  validInterval : startMinute < endMinute

def RatePeriodDocument.data (row : RatePeriodDocument) :=
  (row.label, row.startMinute, row.endMinute, row.pricePerKwh)

theorem RatePeriodDocument.data_inj {first second : RatePeriodDocument} : first.data = second.data ↔ first = second := by
  cases first
  cases second
  simp [data]

instance : DecidableEq RatePeriodDocument := fun first second => decidable_of_iff (first.data = second.data) RatePeriodDocument.data_inj

structure DayScheduleDocument where
  dayType : DocumentDayType
  dates : List Int := []
  periods : List RatePeriodDocument := []
  deriving DecidableEq

structure RateSeasonDocument where
  name : String
  start : MonthDay
  finish : MonthDay
  priority : Int := 0
  schedules : List DayScheduleDocument := []
  validStart : start.Valid
  validFinish : finish.Valid
  deriving DecidableEq

structure SeasonalBaselineDocument where
  start : MonthDay
  finish : MonthDay
  dailyKwh : Rat
  validStart : start.Valid
  validFinish : finish.Valid
  positive : 0 < dailyKwh
  deriving DecidableEq

structure TierThresholdDocument where
  basis : ThresholdBasis := .fixedCycleKwh
  dailyBaselineKwh : Option Rat := none
  roundingPolicy : RoundingPolicy := .none
  seasonalBaselines : List SeasonalBaselineDocument := []
  supported : basis = .fixedCycleKwh ∨ basis = .dailyBaselineKwh
  completeThreshold : (basis = .dailyBaselineKwh → dailyBaselineKwh ≠ none ∨ seasonalBaselines ≠ []) ∧
    (basis = .fixedCycleKwh → dailyBaselineKwh = none ∧ seasonalBaselines = [])
  deriving DecidableEq

structure TierDefinitionDocument where
  tierId : String
  name : String
  order : Nat
  lowerBoundInclusiveKwh : Rat := 0
  upperBoundExclusiveKwh : Option Rat := none
  lowerBoundMultiplier : Option Rat := none
  upperBoundMultiplier : Option Rat := none
  pricePerKwh : Rat
  touPrices : List (String × Rat) := []
  identified : tierId ≠ ""
  priceNonnegative : 0 ≤ pricePerKwh
  deriving DecidableEq

structure RatePlanDocument where
  currency : String := "USD"
  utility : String := "SCE"
  pricingModel : PricingModel := .timeOfUse
  flatRatePerKwh : Option Rat := none
  expectedStartDay : { day : Nat // 1 ≤ day ∧ day ≤ 31 } := ⟨1, firstDay⟩
  threshold : TierThresholdDocument
  tiers : List TierDefinitionDocument := []
  hybridPricing : Option HybridMethod := none
  costScopeDefault : String := "energy_only"
  seasons : List RateSeasonDocument := []
  adjustments : List Adjustment := []
  supported : ∀ name, pricingModel ≠ .unsupported name
  flatRateNonnegative : ∀ rate ∈ flatRatePerKwh, 0 ≤ rate
  flatRatePresent : pricingModel = .flat → flatRatePerKwh ≠ none
  twoTiers : pricingModel.isTiered = true → 2 ≤ tiers.length
  hybridOnly : pricingModel = .timeOfUseTiered ↔ hybridPricing ≠ none

theorem timeOfUse_supported (name : String) : PricingModel.timeOfUse ≠ .unsupported name := nofun

theorem flat_supported (name : String) : PricingModel.flat ≠ .unsupported name := nofun

theorem tiered_supported (name : String) : PricingModel.tiered ≠ .unsupported name := nofun

/-- The threshold of a document without tiers. -/
def plainThreshold : TierThresholdDocument := { supported := .inl rfl, completeThreshold := ⟨nofun, fun _ => ⟨rfl, rfl⟩⟩ }

/-! ## Validation -/

/-- A message, with what its f-string puts in. -/
inductive IssueMessage where
  | plain (text : String)
  /-- Schedule has an uncovered gap starting at minute `cursor`. -/
  | gapAt (cursor : Int)
  /-- No season covers leap-year day `day`. -/
  | uncoveredDay (day : Nat)
  /-- Conflicting seasons have equal priority on leap-year day `day`. -/
  | conflictOn (day : Nat)
  /-- Tier must begin at the prior exclusive boundary (`cursor`). -/
  | tierBeginsAt (cursor : Rat)
  /-- Tier baseline multiplier must begin at `cursor`. -/
  | multiplierBeginsAt (cursor : Rat)
  /-- Hybrid matrix must exactly cover all TOU periods; missing=`missing`, extra=`extra`. -/
  | matrixCoverage (missing extra : List String)
  /-- Official candidates require `field`. -/
  | evidenceRequired (field : String)
  deriving DecidableEq, Repr

inductive IssueLevel where | error | warning
  deriving DecidableEq, Repr

structure ValidationIssue where
  level : IssueLevel
  code : String
  path : String
  message : IssueMessage
  deriving DecidableEq, Repr

structure ValidationReport where
  errors : List ValidationIssue
  warnings : List ValidationIssue
  coverage : List (String × Bool)
  deriving DecidableEq, Repr

def ValidationReport.valid (report : ValidationReport) : Bool := report.errors = []

/-- An issue where the condition holds. -/
def issueIf (condition : Prop) [Decidable condition] (level : IssueLevel) (code path : String)
    (message : IssueMessage) : List ValidationIssue :=
  if condition then [⟨level, code, path, message⟩] else []

@[simp] theorem issueIf_eq_nil {condition : Prop} [Decidable condition] {level : IssueLevel} {code path : String}
    {message : IssueMessage} : issueIf condition level code path message = [] ↔ ¬ condition := by
  unfold issueIf
  split <;> simp_all

/-- `_season_days`: the days of a leap year, from 1. -/
def RateSeasonDocument.days (season : RateSeasonDocument) : List Nat :=
  let start := season.start.leapYearDay
  let finish := season.finish.leapYearDay
  if start ≤ finish then List.range' start (finish + 1 - start)
  else List.range' start (367 - start) ++ List.range' 1 finish

section Schedules

def DayScheduleDocument.ordered (schedule : DayScheduleDocument) : List RatePeriodDocument :=
  schedule.periods.insertionSort fun a b => a.startMinute ≤ b.startMinute

/-- The minute the loop over the periods has reached. -/
def coveredTo (periods : List RatePeriodDocument) : Int :=
  periods.foldl (fun cursor period => max cursor period.endMinute) 0

/-- The errors of the loop over the periods, from a cursor and an index. -/
def periodErrors (path : String) : Nat → Int → List RatePeriodDocument → List ValidationIssue
  | _, _, [] => []
  | index, cursor, period :: rest =>
      let here := path ++ ".periods." ++ toString index
      issueIf (period.startMinute < cursor) .error "period_overlap" here
          (.plain "One or more schedule periods overlap") ++
        issueIf (cursor < period.startMinute) .error "period_gap" here (.gapAt cursor) ++
        issueIf (period.pricePerKwh < 0) .error "negative_rate" (here ++ ".price_per_kwh")
          (.plain "Energy prices must be non-negative; model credits as adjustments") ++
        periodErrors path (index + 1) (max cursor period.endMinute) rest

/-- The warnings of the same loop. -/
def periodWarnings (maxEnergyRate : Rat) (path : String) : Nat → List RatePeriodDocument → List ValidationIssue
  | _, [] => []
  | index, period :: rest =>
      issueIf (maxEnergyRate < period.pricePerKwh) .warning "rate_sanity"
          (path ++ ".periods." ++ toString index ++ ".price_per_kwh")
          (.plain "Energy price exceeds the configured sanity threshold") ++
        periodWarnings maxEnergyRate path (index + 1) rest

variable (season : RateSeasonDocument)

def schedulePath (schedule : DayScheduleDocument) : String :=
  "seasons." ++ season.name ++ "." ++ schedule.dayType.text

def scheduleErrors (schedule : DayScheduleDocument) : List ValidationIssue :=
  periodErrors (schedulePath season schedule) 0 0 schedule.ordered ++
    issueIf (coveredTo schedule.ordered ≠ 1440) .error "period_gap" (schedulePath season schedule)
      (.plain "Schedule must cover all 1,440 minutes")

/-- Whether no gap or overlap was found and the day is covered. -/
def scheduleCovered (schedule : DayScheduleDocument) : Bool :=
  (periodErrors (schedulePath season schedule) 0 0 schedule.ordered).all (fun issue => issue.code = "negative_rate") &&
    coveredTo schedule.ordered = 1440

def RateSeasonDocument.HasNormalDays : Prop :=
  (∃ schedule ∈ season.schedules, schedule.dayType = .allDays) ∨
    ((∃ schedule ∈ season.schedules, schedule.dayType = .weekday) ∧
      ∃ schedule ∈ season.schedules, schedule.dayType = .weekend)

instance : Decidable season.HasNormalDays := inferInstanceAs (Decidable (_ ∨ _))

def seasonErrors : List ValidationIssue :=
  issueIf (¬ season.HasNormalDays) .error "day_type_coverage" ("seasons." ++ season.name ++ ".schedules")
      (.plain "Each season needs all-days or both weekday and weekend schedules") ++
    season.schedules.flatMap (scheduleErrors season)

end Schedules

/-! ### The year -/

/-- The first day without a season or with two of equal priority ends the loop. -/
def annualErrors (seasons : List RateSeasonDocument) : List Nat → List ValidationIssue
  | [] => []
  | day :: rest =>
      let owners := seasons.filter fun season => decide (day ∈ season.days)
      match (owners.map RateSeasonDocument.priority).max? with
      | none => [⟨.error, "annual_gap", "seasons", .uncoveredDay day⟩]
      | some top =>
          if 1 < owners.countP fun season => season.priority = top then
            [⟨.error, "season_conflict", "seasons", .conflictOn day⟩]
          else annualErrors seasons rest

/-! ### Tiers -/

def TierDefinitionDocument.lowerBound (basis : ThresholdBasis) (tier : TierDefinitionDocument) : Rat :=
  if basis = .fixedCycleKwh then tier.lowerBoundInclusiveKwh else tier.lowerBoundMultiplier.getD 0

def TierDefinitionDocument.upperBound (basis : ThresholdBasis) (tier : TierDefinitionDocument) : Option Rat :=
  if basis = .fixedCycleKwh then tier.upperBoundExclusiveKwh else tier.upperBoundMultiplier

/-- The texts that differ between the two bases. -/
structure TierTexts where
  lowerField : String
  upperField : String
  begins : Rat → IssueMessage
  final : String
  requiredCode : String
  required : String
  bounds : String

def tierTexts (basis : ThresholdBasis) : TierTexts :=
  if basis = .fixedCycleKwh then
    { lowerField := "lower_bound_inclusive_kwh", upperField := "upper_bound_exclusive_kwh"
      begins := .tierBeginsAt, final := "The final tier must be open-ended"
      requiredCode := "tier_upper_required"
      required := "Every non-final tier needs an exclusive upper boundary"
      bounds := "Tier upper boundary must be greater than its lower boundary" }
  else
    { lowerField := "lower_bound_multiplier", upperField := "upper_bound_multiplier"
      begins := .multiplierBeginsAt, final := "The final baseline-derived tier must be open-ended"
      requiredCode := "tier_multiplier_required"
      required := "Every non-final tier needs an upper baseline multiplier"
      bounds := "Tier upper multiplier must exceed its lower multiplier" }

/-- The `if … elif … elif` over the upper bound. -/
def upperBoundErrors (texts : TierTexts) (path : String) (final : Bool) (lower : Rat) :
    Option Rat → List ValidationIssue
  | some upper =>
      if final then [⟨.error, "final_tier_open", path, .plain texts.final⟩]
      else issueIf (upper ≤ lower) .error "tier_bounds" path (.plain texts.bounds)
  | none => issueIf (final = false) .error texts.requiredCode path (.plain texts.required)

/-- The loop over the ordered tiers, from an index and the prior boundary. -/
def tierErrors (basis : ThresholdBasis) : Nat → Rat → List TierDefinitionDocument → List ValidationIssue
  | _, _, [] => []
  | index, cursor, tier :: rest =>
      let path := "tiers." ++ toString index
      let texts := tierTexts basis
      let lower := tier.lowerBound basis
      let upper := tier.upperBound basis
      issueIf (lower ≠ cursor) .error "tier_gap_or_overlap" (path ++ "." ++ texts.lowerField) (texts.begins cursor) ++
        upperBoundErrors texts (path ++ "." ++ texts.upperField) rest.isEmpty lower upper ++
        issueIf (basis = .fixedCycleKwh ∧ (tier.lowerBoundMultiplier ≠ none ∨ tier.upperBoundMultiplier ≠ none)) .error
          "threshold_basis_mismatch" path (.plain "Fixed-cycle tiers cannot include baseline multipliers") ++
        issueIf (rest.isEmpty = false ∧ upper = none) .error "open_tier_position" path
          (.plain "Only the final tier may be open-ended") ++
        tierErrors basis (index + 1) (upper.getD cursor) rest

def tierWarnings (maxEnergyRate : Rat) : Nat → List TierDefinitionDocument → List ValidationIssue
  | _, [] => []
  | index, tier :: rest =>
      issueIf (maxEnergyRate < tier.pricePerKwh) .warning "rate_sanity"
          ("tiers." ++ toString index ++ ".price_per_kwh")
          (.plain "Tier energy price exceeds the configured sanity threshold") ++
        tierWarnings maxEnergyRate (index + 1) rest

/-- `sorted(first - second)` of two sets of labels. -/
def sortedDifference (first second : List String) : List String :=
  (first.filter fun label => label ∉ second).dedup.insertionSort (· ≤ ·)

def matrixErrors (labels : List String) : Nat → List TierDefinitionDocument → List ValidationIssue
  | _, [] => []
  | index, tier :: rest =>
      let missing := sortedDifference labels (tier.touPrices.map Prod.fst)
      let extra := sortedDifference (tier.touPrices.map Prod.fst) labels
      issueIf (missing ≠ [] ∨ extra ≠ []) .error "hybrid_matrix_coverage"
          ("tiers." ++ toString index ++ ".tou_prices") (.matrixCoverage missing extra) ++
        matrixErrors labels (index + 1) rest

namespace RatePlanDocument
variable (document : RatePlanDocument)

def orderedTiers : List TierDefinitionDocument := document.tiers.insertionSort fun a b => a.order ≤ b.order

def periodLabels : List String :=
  document.seasons.flatMap fun season => season.schedules.flatMap fun schedule =>
    schedule.periods.map RatePeriodDocument.label

def allTierErrors : List ValidationIssue :=
  issueIf (document.orderedTiers.map TierDefinitionDocument.order ≠ List.range document.orderedTiers.length) .error
      "tier_order" "tiers" (.plain "Tier order values must be unique and contiguous starting at zero") ++
    issueIf (¬ (document.orderedTiers.map TierDefinitionDocument.tierId).Nodup) .error
      "tier_id_duplicate" "tiers" (.plain "Tier IDs must be unique within a rate version") ++
    tierErrors document.threshold.basis 0 0 document.orderedTiers ++
    if document.pricingModel = .timeOfUseTiered ∧
        document.hybridPricing.getD .tierPeriodMatrix = .tierPeriodMatrix then
      matrixErrors document.periodLabels 0 document.orderedTiers
    else []

end RatePlanDocument

/-! ### Adjustments and evidence -/

def adjustmentErrors : Nat → List Adjustment → List ValidationIssue
  | _, [] => []
  | index, item :: rest =>
      issueIf (item.component = .baselineCredit ∧ item.unit ≠ "per_kwh") .error "baseline_unit"
          ("adjustments." ++ toString index ++ ".unit") (.plain "Baseline credits must use per_kwh") ++
        adjustmentErrors (index + 1) rest

def adjustmentWarnings (maxFixedDaily : Rat) (costScopeDefault : String) : Nat → List Adjustment → List ValidationIssue
  | _, [] => []
  | index, item :: rest =>
      issueIf (item.component = .dailyFixedCharge ∧ maxFixedDaily < |item.value|) .warning "fixed_charge_sanity"
          ("adjustments." ++ toString index ++ ".value")
          (.plain "Daily fixed charge exceeds the configured sanity threshold") ++
        issueIf (costScopeDefault = "energy_only" ∧ item.scope = "full_account_estimate") .warning
          "inactive_account_charge" ("adjustments." ++ toString index ++ ".scope")
          (.plain "Whole-account adjustment is disabled by the default energy-only scope") ++
        adjustmentWarnings maxFixedDaily costScopeDefault (index + 1) rest

/-- What a caller of the validation may set besides the document. -/
structure ValidationOptions where
  requireSourceEvidence : Bool := false
  sourceEvidence : List (String × String) := []
  maxEnergyRate : Rat := 5
  maxFixedDaily : Rat := 25

def evidenceErrors (options : ValidationOptions) : List ValidationIssue :=
  if options.requireSourceEvidence then
    ["artifact_id", "sha256", "parser_id", "parser_version"].flatMap fun field =>
      issueIf ((options.sourceEvidence.lookup field).getD "" = "") .error "source_evidence" ("source." ++ field)
        (.evidenceRequired field)
  else []

/-- `validate_document` -/
def validateDocument (options : ValidationOptions) (document : RatePlanDocument) : ValidationReport where
  errors :=
    issueIf (document.currency ≠ "USD") .error "currency" "currency"
        (.plain "SCE and local cost calculations require USD") ++
      issueIf (document.pricingModel.isTimeOfUse = true ∧ document.seasons = []) .error "season_required" "seasons"
        (.plain "At least one season is required") ++
      document.seasons.flatMap seasonErrors ++
      (if document.pricingModel.isTimeOfUse then annualErrors document.seasons ((List.range 366).map (· + 1)) else []) ++
      (if document.pricingModel.isTiered then document.allTierErrors else []) ++
      adjustmentErrors 0 document.adjustments ++
      evidenceErrors options
  warnings :=
    issueIf (document.utility.toLower ∉ ["southern california edison", "sce", "custom"]) .warning
        "utility_unrecognized" "utility" (.plain "Utility name is not a recognized SCE or custom label") ++
      (document.seasons.flatMap fun season => season.schedules.flatMap fun schedule =>
        periodWarnings options.maxEnergyRate (schedulePath season schedule) 0 schedule.ordered) ++
      issueIf (document.pricingModel = .flat ∧ ∃ rate ∈ document.flatRatePerKwh, options.maxEnergyRate < rate) .warning
        "rate_sanity" "flat_rate_per_kwh" (.plain "Flat energy price exceeds the configured sanity threshold") ++
      (if document.pricingModel.isTiered then tierWarnings options.maxEnergyRate 0 document.orderedTiers else []) ++
      adjustmentWarnings options.maxFixedDaily document.costScopeDefault 0 document.adjustments
  coverage :=
    document.seasons.foldl (fun coverage season => season.schedules.foldl (fun coverage schedule =>
      setKey (season.name ++ "/" ++ schedule.dayType.text) (scheduleCovered season schedule) coverage) coverage) []

/-! ## Lowering -/

def RatePeriodDocument.lower (period : RatePeriodDocument) : RatePeriod :=
  ⟨period.startMinute, period.endMinute, period.label, period.pricePerKwh⟩

def DayScheduleDocument.values (schedule : DayScheduleDocument) : List RatePeriod :=
  schedule.ordered.map RatePeriodDocument.lower

/-- The normal schedules of a season; later ones replace earlier ones. -/
def addNormalDay (byDay : List (DayType × List RatePeriod)) (schedule : DayScheduleDocument) :
    List (DayType × List RatePeriod) :=
  match schedule.dayType with
  | .allDays => setKey .weekend schedule.values (setKey .weekday schedule.values byDay)
  | .weekday => setKey .weekday schedule.values byDay
  | .weekend => setKey .weekend schedule.values byDay
  | .holiday | .dateOverride => byDay

def RateSeasonDocument.byDay (season : RateSeasonDocument) : List (DayType × List RatePeriod) :=
  season.schedules.foldl addNormalDay []

/-- `special_schedules.setdefault(season.name, {})[date] = values` -/
def addSpecialDate (name : String) (values : List RatePeriod) (special : List (String × List (Int × List RatePeriod)))
    (date : Int) : List (String × List (Int × List RatePeriod)) :=
  setKey name (setKey date values ((special.lookup name).getD [])) special

def addSpecialDates (name : String) (special : List (String × List (Int × List RatePeriod)))
    (schedule : DayScheduleDocument) : List (String × List (Int × List RatePeriod)) :=
  match schedule.dayType with
  | .holiday | .dateOverride => schedule.dates.foldl (addSpecialDate name schedule.values) special
  | _ => special

def addSeasonDates (special : List (String × List (Int × List RatePeriod))) (season : RateSeasonDocument) :
    List (String × List (Int × List RatePeriod)) :=
  season.schedules.foldl (addSpecialDates season.name) special

def RateSeasonDocument.lower (season : RateSeasonDocument) : Season := ⟨season.start, season.finish, season.priority⟩

def SeasonalBaselineDocument.lower (item : SeasonalBaselineDocument) : SeasonalBaseline :=
  ⟨item.start, item.finish, item.dailyKwh⟩

def TierDefinitionDocument.lower (tier : TierDefinitionDocument) : Tier :=
  { tierId := tier.tierId, name := tier.name, order := tier.order
    lowerBoundInclusiveKwh := some tier.lowerBoundInclusiveKwh
    upperBoundExclusiveKwh := tier.upperBoundExclusiveKwh
    lowerBoundMultiplier := tier.lowerBoundMultiplier, upperBoundMultiplier := tier.upperBoundMultiplier
    pricePerKwh := tier.pricePerKwh, touPrices := tier.touPrices }

/-- `engine_plan` -/
def enginePlan (document : RatePlanDocument) : Plan where
  pricingModel := document.pricingModel
  baseServiceChargePerDay :=
    ((document.adjustments.find? fun item => item.component = .dailyFixedCharge).map Adjustment.value).getD 0
  baselineCreditPerKwh := (document.adjustments.find? fun item => item.component = .baselineCredit).map Adjustment.value
  flatRatePerKwh := document.flatRatePerKwh
  expectedStartDay := document.expectedStartDay
  threshold :=
    { basis := document.threshold.basis
      dailyBaselineKwh := document.threshold.dailyBaselineKwh
      seasonalBaselines := document.threshold.seasonalBaselines.map SeasonalBaselineDocument.lower
      roundingPolicy := document.threshold.roundingPolicy }
  tiers := document.tiers.map TierDefinitionDocument.lower
  hybridPricing := document.hybridPricing
  periods := ofPairs (document.seasons.map fun season => (season.name, season.byDay))
  specialSchedules := document.seasons.foldl addSeasonDates []
  seasons := ofPairs (document.seasons.map fun season => (season.name, season.lower))
  adjustments := document.adjustments

end PowerMonitor.Rates
