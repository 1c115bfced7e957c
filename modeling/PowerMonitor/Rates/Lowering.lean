import PowerMonitor.Rates.Document
import PowerMonitor.Rates.Priceable

/-! From a valid document to a plan that prices every request.

The two validators agree on schedules and, up to a leftover bound of the final tier, on
tiers. They part ways on coverage: the document counts every season it lists, the
dictionary keeps one season for each name; and the document asks for some baseline, the
engine for one on every day of the cycle. The conditions below say exactly when a valid
document can be priced.
-/

set_option autoImplicit false
namespace PowerMonitor.Rates
open Library Calendar

/-! ## Schedules -/

/-- A schedule without errors passes the engine's check, from any cursor. -/
theorem periodErrors_nil {path label : String} (periods : List RatePeriodDocument) {index : Nat} {cursor : Int}
    (clean : periodErrors path index cursor periods = []) :
    (periods.map RatePeriodDocument.lower).foldlM (checkPeriod label) cursor =
      .ok (periods.foldl (fun cursor period => max cursor period.endMinute) cursor) := by
  induction periods generalizing index cursor with
  | nil => rfl
  | cons period rest ih =>
      simp only [periodErrors, List.append_eq_nil_iff, issueIf_eq_nil] at clean
      obtain ⟨⟨⟨overlap, gap⟩, price⟩, later⟩ := clean
      have start : period.startMinute = cursor := by omega
      have ends : max cursor period.endMinute = period.endMinute := by
        have := period.validInterval
        omega
      have passed : checkPeriod label cursor period.lower = .ok period.endMinute := by
        unfold checkPeriod
        have here : ¬ (period.lower.start ≠ cursor ∨ period.lower.finish ≤ period.lower.start ∨
            period.lower.price < 0) := by
          simp only [RatePeriodDocument.lower, start, not_or, not_not, not_le]
          exact ⟨trivial, start ▸ period.validInterval, price⟩
        exact raiseIf_bind_eq_ok.mpr ⟨here, raiseIf_bind_eq_ok.mpr ⟨period.labelled, rfl⟩⟩
      rw [List.map_cons, List.foldlM_cons, passed, List.foldl_cons, ends]
      rw [ends] at later
      exact ih later

/-- The engine sorts a lowered schedule once more, without effect. -/
theorem values_sorted (schedule : DayScheduleDocument) :
    (schedule.values.insertionSort fun a b => a.start ≤ b.start) = schedule.values := by
  apply List.Pairwise.insertionSort_eq
  unfold DayScheduleDocument.values DayScheduleDocument.ordered
  rw [List.pairwise_map]
  exact (List.pairwise_insertionSort (fun a b : RatePeriodDocument => a.startMinute ≤ b.startMinute)
    schedule.periods).imp fun ordered => ordered

theorem scheduleErrors_nil {season : RateSeasonDocument} {schedule : DayScheduleDocument}
    (clean : scheduleErrors season schedule = []) (label : String) : checkSchedule (label, schedule.values) = .ok () := by
  unfold scheduleErrors at clean
  rw [List.append_eq_nil_iff, issueIf_eq_nil, not_not] at clean
  obtain ⟨periods, whole⟩ := clean
  unfold checkSchedule
  refine bind_eq_ok.mpr ⟨_, ?_, raiseIf_eq_ok.mpr (not_not.mpr whole)⟩
  dsimp only
  rw [values_sorted]
  exact periodErrors_nil schedule.ordered periods

/-- Schedules of the plan are schedules of the document. -/
def Lowered (document : RatePlanDocument) (values : List RatePeriod) : Prop :=
  ∃ season ∈ document.seasons, ∃ schedule ∈ season.schedules, values = schedule.values

theorem mem_byDay {season : RateSeasonDocument} :
    ∀ entry ∈ season.byDay, ∃ schedule ∈ season.schedules, entry.2 = schedule.values := by
  unfold RateSeasonDocument.byDay
  refine List.foldlRecOn (motive := fun byDay => ∀ entry ∈ byDay, ∃ schedule ∈ season.schedules,
    entry.2 = schedule.values) season.schedules addNormalDay
    (fun _ member => absurd member List.not_mem_nil) ?_
  intro byDay own schedule inside entry member
  unfold addNormalDay at member
  split at member
  · cases mem_setKey member with
    | inl new => exact ⟨schedule, inside, by rw [new]⟩
    | inr old =>
        cases mem_setKey old with
        | inl new => exact ⟨schedule, inside, by rw [new]⟩
        | inr older => exact own entry older
  · cases mem_setKey member with
    | inl new => exact ⟨schedule, inside, by rw [new]⟩
    | inr old => exact own entry old
  · cases mem_setKey member with
    | inl new => exact ⟨schedule, inside, by rw [new]⟩
    | inr old => exact own entry old
  · exact own entry member
  · exact own entry member

/-- Every dated schedule of the dictionary is one of the document's. -/
def DatesLowered (document : RatePlanDocument) (special : List (String × List (Int × List RatePeriod))) : Prop :=
  ∀ entry ∈ special, ∀ dated ∈ entry.2, Lowered document dated.2

theorem specialSchedules_lowered (document : RatePlanDocument) :
    DatesLowered document (document.seasons.foldl addSeasonDates []) := by
  refine List.foldlRecOn (motive := DatesLowered document) document.seasons addSeasonDates (by simp [DatesLowered]) ?_
  intro special own season seasonInside
  unfold addSeasonDates
  refine List.foldlRecOn (motive := DatesLowered document) season.schedules (addSpecialDates season.name) own ?_
  intro special own schedule scheduleInside
  have here : Lowered document schedule.values := ⟨season, seasonInside, schedule, scheduleInside, rfl⟩
  have dates : DatesLowered document (schedule.dates.foldl (addSpecialDate season.name schedule.values) special) := by
    refine List.foldlRecOn (motive := DatesLowered document) schedule.dates
      (addSpecialDate season.name schedule.values) own ?_
    intro special own date _ entry member dated inside
    cases mem_setKey member with
    | inl new =>
        rw [new] at inside
        cases mem_setKey inside with
        | inl latest => rw [latest]; exact here
        | inr earlier =>
            cases old : special.lookup season.name with
            | none => simp [old] at earlier
            | some dates =>
                rw [old, Option.getD_some] at earlier
                exact own _ (lookup_mem old) dated earlier
    | inr old => exact own entry old dated inside
  unfold addSpecialDates
  split
  · exact dates
  · exact dates
  · exact own

theorem schedules_lowered {document : RatePlanDocument} :
    ∀ schedule ∈ (enginePlan document).schedules, Lowered document schedule.2 := by
  intro schedule member
  unfold Plan.schedules at member
  simp only [List.mem_append, List.mem_flatMap, List.mem_map] at member
  cases member with
  | inl normal =>
      obtain ⟨entry, inside, day, dayInside, rfl⟩ := normal
      obtain ⟨season, seasonInside, rfl⟩ := List.mem_map.mp (mem_ofPairs inside)
      obtain ⟨own, ownInside, same⟩ := mem_byDay day dayInside
      exact ⟨season, seasonInside, own, ownInside, same⟩
  | inr special =>
      obtain ⟨entry, inside, day, dayInside, rfl⟩ := special
      exact specialSchedules_lowered document entry inside day dayInside

/-- The schedules of a plan lowered from a clean document pass. -/
theorem schedules_pass {document : RatePlanDocument} (clean : ∀ season ∈ document.seasons, seasonErrors season = []) :
    (enginePlan document).schedules.forM checkSchedule = .ok () := by
  rw [forM_eq_ok]
  intro schedule member
  obtain ⟨season, seasonInside, own, ownInside, values⟩ := schedules_lowered schedule member
  have errors := clean season seasonInside
  unfold seasonErrors at errors
  rw [List.append_eq_nil_iff, List.flatMap_eq_nil_iff] at errors
  have passed := scheduleErrors_nil (errors.2 own ownInside) schedule.1
  rwa [← values] at passed

/-! ## Tiers -/

theorem lower_lowerBound {basis : ThresholdBasis} (supported : basis = .fixedCycleKwh ∨ basis = .dailyBaselineKwh)
    (tier : TierDefinitionDocument) : tier.lower.lowerBound basis = tier.lowerBound basis := by
  cases supported with
  | inl fixed => rw [fixed]; rfl
  | inr daily => rw [daily]; rfl

theorem lower_upperBound {basis : ThresholdBasis} (supported : basis = .fixedCycleKwh ∨ basis = .dailyBaselineKwh)
    (tier : TierDefinitionDocument) : tier.lower.upperBound basis = tier.upperBound basis := by
  cases supported with
  | inl fixed => rw [fixed]; rfl
  | inr daily => rw [daily]; rfl

theorem tierErrors_cons_nil {basis : ThresholdBasis} {index : Nat} {cursor : Rat} {tier : TierDefinitionDocument}
    {rest : List TierDefinitionDocument} (clean : tierErrors basis index cursor (tier :: rest) = []) :
    tier.lowerBound basis = cursor ∧
      (rest ≠ [] → ∃ limit, tier.upperBound basis = some limit ∧ cursor < limit) ∧
      (rest = [] → tier.upperBound basis = none) ∧
      (basis = .fixedCycleKwh → tier.upperBoundMultiplier = none) ∧
      tierErrors basis (index + 1) ((tier.upperBound basis).getD cursor) rest = [] := by
  simp only [tierErrors, List.append_eq_nil_iff, issueIf_eq_nil, not_not] at clean
  obtain ⟨⟨⟨⟨start, upper⟩, mismatch⟩, _⟩, later⟩ := clean
  refine ⟨start, ?_, ?_, ?_, later⟩
  · intro more
    have notFinal : rest.isEmpty = false := by simpa using more
    cases bound : tier.upperBound basis with
    | none => simp [bound, upperBoundErrors, notFinal] at upper
    | some limit =>
        rw [bound, upperBoundErrors, notFinal, if_neg (by decide), issueIf_eq_nil, not_le] at upper
        exact ⟨limit, rfl, start ▸ upper⟩
  · intro last
    cases bound : tier.upperBound basis with
    | none => rfl
    | some limit => simp [bound, upperBoundErrors, last] at upper
  · intro fixed
    by_contra multiplier
    exact mismatch ⟨fixed, .inr multiplier⟩

/-- Tiers without errors pass the engine's loop. -/
theorem tierErrors_nil {basis : ThresholdBasis} (supported : basis = .fixedCycleKwh ∨ basis = .dailyBaselineKwh)
    (tiers : List TierDefinitionDocument) {index : Nat} {state : TierCheck} (count : state.remaining = tiers.length)
    (clean : tierErrors basis index state.cursor tiers = [])
    (distinct : (tiers.map TierDefinitionDocument.tierId).Nodup)
    (fresh : ∀ tier ∈ tiers, tier.tierId ∉ state.tierIds) :
    ∃ final, (tiers.map TierDefinitionDocument.lower).foldlM (checkTier basis) state = .ok final := by
  induction tiers generalizing index state with
  | nil => exact ⟨state, rfl⟩
  | cons tier rest ih =>
      obtain ⟨start, more, _, _, later⟩ := tierErrors_cons_nil clean
      obtain ⟨unused, distinct⟩ := List.nodup_cons.mp distinct
      let next : TierCheck :=
        ⟨state.remaining - 1, (tier.upperBound basis).getD state.cursor, tier.tierId :: state.tierIds⟩
      have passed : checkTier basis state tier.lower = .ok next := by
        unfold checkTier
        rw [lower_lowerBound supported, lower_upperBound supported]
        refine raiseIf_bind_eq_ok.mpr ⟨?_, raiseIf_bind_eq_ok.mpr ⟨?_, raiseIf_bind_eq_ok.mpr ⟨?_, rfl⟩⟩⟩
        · rw [not_or]
          exact ⟨tier.identified, fresh tier (by simp)⟩
        · rw [not_or, not_not, not_lt]
          exact ⟨start, tier.priceNonnegative⟩
        · rintro ⟨remaining, short⟩
          have nonempty : rest ≠ [] := by
            intro empty
            simp [count, empty] at remaining
          obtain ⟨limit, upper, grows⟩ := more nonempty
          have := short limit upper
          rw [start] at this
          exact absurd grows (not_lt.mpr this)
      have freshLater : ∀ other ∈ rest, other.tierId ∉ next.tierIds := by
        intro other member used
        cases List.mem_cons.mp used with
        | inl same => exact unused (List.mem_map.mpr ⟨other, member, same⟩)
        | inr earlier => exact fresh other (List.mem_cons_of_mem _ member) earlier
      obtain ⟨final, run⟩ : ∃ final,
          (rest.map TierDefinitionDocument.lower).foldlM (checkTier basis) next = .ok final :=
        ih (by simp [next, count]) later distinct freshLater
      exact ⟨final, by rw [List.map_cons, List.foldlM_cons, passed]; exact run⟩

/-- The last of clean tiers has no upper bound of the document's basis, nor a leftover multiplier. -/
theorem tierErrors_last {basis : ThresholdBasis} (supported : basis = .fixedCycleKwh ∨ basis = .dailyBaselineKwh)
    (tiers : List TierDefinitionDocument) {index : Nat} {cursor : Rat}
    (clean : tierErrors basis index cursor tiers = []) :
    ∀ last ∈ tiers.getLast?, last.upperBoundMultiplier = none ∧
      (basis = .fixedCycleKwh → last.upperBoundExclusiveKwh = none) := by
  induction tiers generalizing index cursor with
  | nil => simp
  | cons tier rest ih =>
      obtain ⟨_, _, final, mismatch, later⟩ := tierErrors_cons_nil clean
      cases rest with
      | nil =>
          intro last member
          cases Option.some.inj member
          have upper := final rfl
          unfold TierDefinitionDocument.upperBound at upper
          cases supported with
          | inl fixed =>
              rw [if_pos fixed] at upper
              exact ⟨mismatch fixed, fun _ => upper⟩
          | inr daily =>
              rw [daily, if_neg (by decide)] at upper
              exact ⟨upper, fun fixed => by rw [daily] at fixed; cases fixed⟩
      | cons following rest =>
          rw [List.getLast?_cons_cons]
          exact ih later

/-- A leftover bound of the final tier is the one thing the engine's tier check sees and the document's does not. -/
def RatePlanDocument.FinalTierOpen (document : RatePlanDocument) : Prop :=
  document.threshold.basis = .dailyBaselineKwh →
    ∀ last ∈ document.orderedTiers.getLast?, last.upperBoundExclusiveKwh = none

theorem orderedTiers_lower (document : RatePlanDocument) :
    (enginePlan document).orderedTiers = document.orderedTiers.map TierDefinitionDocument.lower := by
  unfold Plan.orderedTiers RatePlanDocument.orderedTiers enginePlan
  exact (List.map_insertionSort _ _ _ _ fun a _ b _ => by simp [TierDefinitionDocument.lower]).symm

theorem validateTiers_iff {document : RatePlanDocument} (tiered : document.pricingModel.isTiered = true)
    (clean : document.allTierErrors = []) :
    validateTiers (enginePlan document) = .ok () ↔ document.FinalTierOpen := by
  simp only [RatePlanDocument.allTierErrors, List.append_eq_nil_iff, issueIf_eq_nil, not_not] at clean
  obtain ⟨⟨⟨orders, distinct⟩, tiers⟩, _⟩ := clean
  have supported := document.threshold.supported
  have last := tierErrors_last supported document.orderedTiers tiers
  have start : tierErrors document.threshold.basis 0 (TierCheck.cursor { remaining := document.orderedTiers.length })
      document.orderedTiers = [] := tiers
  obtain ⟨final, run⟩ := tierErrors_nil supported document.orderedTiers rfl start distinct (by simp)
  have length : document.orderedTiers.length = document.tiers.length := List.length_insertionSort _ _
  have count : ¬ (document.orderedTiers.length < 2) := by
    rw [length, not_lt]
    exact document.twoTiers tiered
  have sequence : (document.orderedTiers.map TierDefinitionDocument.lower).map Tier.order =
      (List.range document.orderedTiers.length).map Int.ofNat := by
    rw [← orders, List.map_map, List.map_map]
    rfl
  unfold validateTiers
  rw [orderedTiers_lower]
  dsimp only
  rw [List.length_map, raiseIf_bind_eq_ok, raiseIf_bind_eq_ok, bind_eq_ok]
  constructor
  · rintro ⟨_, _, _, _, passed⟩
    have openEnded := raiseIf_eq_ok.mp passed
    intro _ tier member
    by_contra leftover
    refine openEnded ⟨tier.lower, ?_, .inl leftover⟩
    rw [List.getLast?_map, Option.mem_def.mp member, Option.map_some]
    rfl
  · intro openEnded
    refine ⟨?_, ?_, final, run, raiseIf_eq_ok.mpr ?_⟩
    · rw [not_or, not_not]
      exact ⟨count, sequence⟩
    · rintro ⟨notFixed, notDaily⟩
      cases supported with
      | inl fixed => exact notFixed fixed
      | inr daily => exact notDaily daily
    · rintro ⟨tier, member, leftover⟩
      rw [List.getLast?_map, Option.mem_map] at member
      obtain ⟨source, sourceMember, rfl⟩ := member
      obtain ⟨multiplier, fixedBound⟩ := last source sourceMember
      cases leftover with
      | inl exclusive =>
          cases supported with
          | inl fixed => exact exclusive (fixedBound fixed)
          | inr daily => exact exclusive (openEnded daily source sourceMember)
      | inr other => exact other multiplier

/-! ## Seasons -/

namespace RatePlanDocument
variable (document : RatePlanDocument)

/-- The season the dictionary keeps for a name. -/
def lastNamed (name : String) : Option RateSeasonDocument :=
  document.seasons.reverse.find? fun season => decide (season.name = name)

/-- Every day of a leap year lies in a season that no later one of its name replaces. -/
def SeasonsKept : Prop := ∀ value : MonthDay, value.Valid →
  ∃ season ∈ document.seasons, document.lastNamed season.name = some season ∧
    value.InRange season.start season.finish

/-- Every day of a leap year has a baseline. -/
def BaselineEveryDay : Prop := ∀ value : MonthDay, value.Valid →
  document.threshold.dailyBaselineKwh ≠ none ∨
    ∃ item ∈ document.threshold.seasonalBaselines, value.InRange item.start item.finish

end RatePlanDocument

theorem lookup_named {Value : Type} (value : RateSeasonDocument → Value) (seasons : List RateSeasonDocument)
    (name : String) : (seasons.map fun season => (season.name, value season)).lookup name =
      (seasons.find? fun season => decide (season.name = name)).map value := by
  induction seasons with
  | nil => rfl
  | cons season rest ih =>
      rw [List.map_cons, lookup_cons_eq, ih]
      by_cases here : season.name = name
      · rw [if_pos here.symm, List.find?_cons_of_pos (by simp [here]), Option.map_some]
      · rw [if_neg (Ne.symm here), List.find?_cons_of_neg (by simp [here])]

section Seasons
variable {document : RatePlanDocument}

theorem enginePlan_lookup_season (name : String) :
    (enginePlan document).seasons.lookup name = (document.lastNamed name).map RateSeasonDocument.lower := by
  unfold enginePlan RatePlanDocument.lastNamed
  rw [lookup_ofPairs, ← List.map_reverse, lookup_named]

theorem enginePlan_lookup_periods (name : String) :
    (enginePlan document).periods.lookup name = (document.lastNamed name).map RateSeasonDocument.byDay := by
  unfold enginePlan RatePlanDocument.lastNamed
  rw [lookup_ofPairs, ← List.map_reverse, lookup_named]

theorem lastNamed_mem {name : String} {season : RateSeasonDocument} (found : document.lastNamed name = some season) :
    season ∈ document.seasons ∧ season.name = name :=
  ⟨List.mem_reverse.mp (List.mem_of_find?_eq_some found), by simpa using List.find?_some found⟩

theorem seasons_ne_nil (present : document.seasons ≠ []) : (enginePlan document).seasons ≠ [] := by
  obtain ⟨season, member⟩ := List.exists_mem_of_ne_nil _ present
  intro empty
  have missing : (enginePlan document).seasons.lookup season.name = _ := enginePlan_lookup_season season.name
  rw [empty, List.lookup_nil] at missing
  have none := List.find?_eq_none.mp (Option.map_eq_none_iff.mp missing.symm) season (List.mem_reverse.mpr member)
  simp at none

/-- A configured season is found exactly where one of the kept ones covers the day. -/
theorem Plan.season_eq_ok {plan : Plan} (configured : plan.seasons ≠ []) {date : Int} {name : String}
    (found : plan.season date = .ok name) : ∃ season, (name, season) ∈ plan.seasons ∧ season.Covers date := by
  unfold Plan.season at found
  rw [if_neg configured] at found
  split at found
  · next entry search =>
      cases found
      exact ⟨entry.2, (List.mem_insertionSort _).mp (List.mem_of_find?_eq_some search),
        by simpa using List.find?_some search⟩
  · cases found

theorem Plan.season_returns {plan : Plan} {date : Int} {entry : String × Season} (member : entry ∈ plan.seasons)
    (covers : entry.2.Covers date) : ∃ name, plan.season date = .ok name := by
  unfold Plan.season
  rw [if_neg (List.ne_nil_of_mem member)]
  split
  · exact ⟨_, rfl⟩
  · next search =>
      have missed := List.find?_eq_none.mp search entry ((List.mem_insertionSort _).mpr member)
      simp [covers] at missed

/-- The kept seasons of a document are those of its plan. -/
theorem season_of_lowered {date : Int} {name : String} (configured : (enginePlan document).seasons ≠ [])
    (found : (enginePlan document).season date = .ok name) :
    ∃ season, document.lastNamed name = some season ∧ (monthDay date).InRange season.start season.finish := by
  obtain ⟨lowered, member, covers⟩ := Plan.season_eq_ok configured found
  have entry := lookup_of_mem (nodup_ofPairs _) member
  change (enginePlan document).seasons.lookup name = some lowered at entry
  rw [enginePlan_lookup_season, Option.map_eq_some_iff] at entry
  obtain ⟨season, last, rfl⟩ := entry
  exact ⟨season, last, covers⟩

/-- The days a normal schedule is written for. -/
def DayScheduleDocument.Writes (schedule : DayScheduleDocument) (day : DayType) : Prop :=
  schedule.dayType = .allDays ∨ (schedule.dayType = .weekday ∧ day = .weekday) ∨
    (schedule.dayType = .weekend ∧ day = .weekend)

theorem addNormalDay_lookup (byDay : List (DayType × List RatePeriod)) (schedule : DayScheduleDocument)
    (day : DayType) (present : (byDay.lookup day).isSome ∨ schedule.Writes day) :
    ((addNormalDay byDay schedule).lookup day).isSome := by
  unfold addNormalDay
  unfold DayScheduleDocument.Writes at present
  cases kind : schedule.dayType <;> cases day <;> simp_all

theorem addNormalDays_lookup (schedules : List DayScheduleDocument) (byDay : List (DayType × List RatePeriod))
    (day : DayType) (present : (byDay.lookup day).isSome ∨ ∃ schedule ∈ schedules, schedule.Writes day) :
    ((schedules.foldl addNormalDay byDay).lookup day).isSome := by
  induction schedules generalizing byDay with
  | nil => simpa using present
  | cons schedule rest ih =>
      rw [List.foldl_cons]
      apply ih
      cases present with
      | inl old => exact .inl (addNormalDay_lookup byDay schedule day (.inl old))
      | inr written =>
          obtain ⟨writer, member, writes⟩ := written
          cases List.mem_cons.mp member with
          | inl here => exact .inl (addNormalDay_lookup byDay schedule day (.inr (here ▸ writes)))
          | inr later => exact .inr ⟨writer, later, writes⟩

/-- A season with normal days has a schedule for each kind of day. -/
theorem byDay_lookup {season : RateSeasonDocument} (normal : season.HasNormalDays) (day : DayType) :
    ∃ values, season.byDay.lookup day = some values := by
  apply Option.isSome_iff_exists.mp
  apply addNormalDays_lookup season.schedules [] day
  right
  cases normal with
  | inl everyDay =>
      obtain ⟨schedule, member, kind⟩ := everyDay
      exact ⟨schedule, member, .inl kind⟩
  | inr both =>
      obtain ⟨⟨weekday, weekdayMember, weekdayKind⟩, weekend, weekendMember, weekendKind⟩ := both
      cases day with
      | weekday => exact ⟨weekday, weekdayMember, .inr (.inl ⟨weekdayKind, rfl⟩)⟩
      | weekend => exact ⟨weekend, weekendMember, .inr (.inr ⟨weekendKind, rfl⟩)⟩

/-- A season for every day gives a schedule for every day. -/
theorem coversEveryDay_of_seasonsKept (kept : document.SeasonsKept)
    (normal : ∀ season ∈ document.seasons, season.HasNormalDays) : (enginePlan document).CoversEveryDay := by
  intro date
  obtain ⟨season, _, last, inRange⟩ := kept (monthDay date) (monthDay_valid date)
  have entry : (enginePlan document).seasons.lookup season.name = some season.lower := by
    rw [enginePlan_lookup_season, last, Option.map_some]
  obtain ⟨name, found⟩ : ∃ name, (enginePlan document).season date = .ok name :=
    Plan.season_returns (lookup_mem entry) inRange
  obtain ⟨chosen, chosenLast, _⟩ := season_of_lowered (List.ne_nil_of_mem (lookup_mem entry)) found
  obtain ⟨values, schedule⟩ := byDay_lookup (normal chosen (lastNamed_mem chosenLast).1) (dayType date)
  exact ⟨name, chosen.byDay, values, found, by rw [enginePlan_lookup_periods, chosenLast, Option.map_some], schedule⟩

end Seasons
end PowerMonitor.Rates
