import PowerMonitor.Rates.Schedule

/-! Validated schedules price every instant, and each slice at one tariff.

A schedule that passes the checks has a period for every minute of the day, so a plan
with a schedule for every day is priced everywhere. The points that cut an interval
leave no place out, and each slice between them has the tariff of its middle.
-/

set_option autoImplicit false
namespace PowerMonitor.Rates
open Library Calendar

/-! ## Validated schedules -/

/-- The step lemma of the check of a schedule. -/
theorem checkPeriod_eq_ok {label : String} {cursor next : Int} {period : RatePeriod}
    (passed : checkPeriod label cursor period = .ok next) :
    period.start = cursor ∧ period.start < period.finish ∧ next = period.finish := by
  unfold checkPeriod at passed
  rw [raiseIf_bind_eq_ok, raiseIf_bind_eq_ok, not_or, not_or, not_not, not_le] at passed
  obtain ⟨⟨start, proper, _⟩, _, done⟩ := passed
  cases done
  exact ⟨start, proper, rfl⟩

/-- A schedule that passes leaves no minute out from its first to its last. -/
theorem checkPeriods_cover {label : String} (periods : List RatePeriod) {cursor final : Int}
    (passed : periods.foldlM (checkPeriod label) cursor = .ok final) :
    cursor ≤ final ∧
      (∀ period ∈ periods, cursor ≤ period.start ∧ period.start < period.finish ∧ period.finish ≤ final) ∧
      ∀ minute, cursor ≤ minute → minute < final → ∃ period ∈ periods, period.Contains minute := by
  induction periods generalizing cursor with
  | nil =>
      cases passed
      exact ⟨le_rfl, by simp, fun minute after before => by omega⟩
  | cons period rest ih =>
      rw [List.foldlM_cons, bind_eq_ok] at passed
      obtain ⟨next, first, later⟩ := passed
      obtain ⟨start, proper, finish⟩ := checkPeriod_eq_ok first
      obtain ⟨grows, inside, covers⟩ := ih later
      refine ⟨by omega, ?_, ?_⟩
      · intro other member
        cases List.mem_cons.mp member with
        | inl same => rw [same]; omega
        | inr deeper =>
            have := inside other deeper
            omega
      · intro minute after before
        by_cases here : minute < next
        · exact ⟨period, by simp, by rw [start]; exact after, by omega⟩
        · obtain ⟨other, member, contains⟩ := covers minute (by omega) before
          exact ⟨other, List.mem_cons_of_mem _ member, contains⟩

theorem checkSchedule_eq_ok {schedule : String × List RatePeriod} (passed : checkSchedule schedule = .ok ()) :
    (∀ period ∈ schedule.2, 0 ≤ period.start ∧ period.start < period.finish ∧ period.finish ≤ 1440) ∧
      ∀ minute, 0 ≤ minute → minute < 1440 → ∃ period ∈ schedule.2, period.Contains minute := by
  unfold checkSchedule at passed
  obtain ⟨cursor, run, final⟩ := bind_eq_ok.mp passed
  have whole := not_not.mp (raiseIf_eq_ok.mp final)
  obtain ⟨_, inside, covers⟩ := checkPeriods_cover _ run
  rw [whole] at inside covers
  simp only [List.mem_insertionSort] at inside covers
  exact ⟨inside, covers⟩

theorem getKey_eq_ok {Key Value : Type} [DecidableEq Key] {text : Key → String} {key : Key} {value : Value}
    {dict : List (Key × Value)} : getKey text key dict = .ok value ↔ dict.lookup key = some value := by
  unfold getKey
  cases dict.lookup key <;> simp

/-- The schedule of a day is one of those the plan was validated with. -/
theorem Plan.periodsForDate_mem {plan : Plan} (timeOfUse : plan.pricingModel.isTimeOfUse = true) {date : Int}
    {periods : List RatePeriod} (found : plan.periodsForDate date = .ok periods) :
    ∃ label, (label, periods) ∈ plan.schedules := by
  unfold Plan.periodsForDate at found
  rw [if_pos timeOfUse] at found
  obtain ⟨season, _, found⟩ := bind_eq_ok.mp found
  obtain ⟨dayTypes, seasonEntry, found⟩ := bind_eq_ok.mp found
  obtain ⟨normal, dayEntry, found⟩ := bind_eq_ok.mp found
  have chosen := Except.ok.inj found
  unfold Plan.schedules
  simp only [List.mem_append, List.mem_flatMap, List.mem_map]
  cases special : ((plan.specialSchedules.lookup season).getD []).lookup date with
  | none =>
      rw [special, Option.getD_none] at chosen
      exact ⟨_, .inl ⟨(season, dayTypes), lookup_mem (getKey_eq_ok.mp seasonEntry), (dayType date, normal),
        lookup_mem (getKey_eq_ok.mp dayEntry), by rw [chosen]⟩⟩
  | some override =>
      rw [special, Option.getD_some] at chosen
      cases dates : plan.specialSchedules.lookup season with
      | none => simp [dates] at special
      | some overrides =>
          rw [dates, Option.getD_some] at special
          exact ⟨_, .inr ⟨(season, overrides), lookup_mem dates, (date, override), lookup_mem special, by rw [chosen]⟩⟩

theorem validatePlan_schedules {plan : Plan} (valid : validatePlan plan = .ok ())
    (timeOfUse : plan.pricingModel.isTimeOfUse = true) : ∀ schedule ∈ plan.schedules, checkSchedule schedule = .ok () := by
  rw [← forM_eq_ok]
  unfold validatePlan at valid
  cases model : plan.pricingModel with
  | timeOfUse => simpa [model] using valid
  | timeOfUseTiered =>
      simp only [model, bind_eq_ok] at valid
      obtain ⟨_, _, passed⟩ := valid
      exact passed
  | flat => simp [PricingModel.isTimeOfUse, model] at timeOfUse
  | tiered => simp [PricingModel.isTimeOfUse, model] at timeOfUse
  | unsupported => simp [PricingModel.isTimeOfUse, model] at timeOfUse

/-- Every day has a season, and the season a schedule for that kind of day. -/
def Plan.CoversEveryDay (plan : Plan) : Prop := ∀ date, ∃ season dayTypes periods,
  plan.season date = .ok season ∧ plan.periods.lookup season = some dayTypes ∧
    dayTypes.lookup (dayType date) = some periods

theorem Plan.CoversEveryDay.periodsForDate {plan : Plan} (covers : plan.CoversEveryDay) (date : Int) :
    ∃ periods, plan.periodsForDate date = .ok periods := by
  obtain ⟨season, dayTypes, periods, found, seasonEntry, dayEntry⟩ := covers date
  unfold Plan.periodsForDate
  split
  · exact ⟨_, bind_eq_ok.mpr ⟨season, found, bind_eq_ok.mpr ⟨dayTypes, getKey_eq_ok.mpr seasonEntry,
      bind_eq_ok.mpr ⟨periods, getKey_eq_ok.mpr dayEntry, rfl⟩⟩⟩⟩
  · exact ⟨_, rfl⟩

namespace RateEngine
variable {engine : RateEngine}

theorem validWallInstants_returns (day : Int) {minute : Int} (nonneg : 0 ≤ minute) (inDay : minute ≤ 1440) :
    ∃ instants, engine.validWallInstants day minute = .ok instants := by
  have inRange : ¬ ((if minute = 1440 then 0 else minute) < 0 ∨ 1440 ≤ if minute = 1440 then 0 else minute) := by
    split <;> omega
  unfold validWallInstants
  exact ⟨_, raiseIf_bind_eq_ok.mpr ⟨inRange, rfl⟩⟩

theorem dayCandidates_returns (timeOfUse : engine.plan.pricingModel.isTimeOfUse = true) {day : Int}
    {periods : List RatePeriod} (schedule : engine.plan.periodsForDate day = .ok periods) :
    ∃ items, engine.dayCandidates day = .ok items := by
  obtain ⟨label, member⟩ := Plan.periodsForDate_mem timeOfUse schedule
  obtain ⟨bounds, _⟩ := checkSchedule_eq_ok (validatePlan_schedules engine.valid timeOfUse _ member)
  obtain ⟨midnight, first⟩ : ∃ instants, engine.validWallInstants day 0 = .ok instants :=
    validWallInstants_returns day le_rfl (by decide)
  have edges : ∀ period ∈ periods, ∃ items, engine.periodCandidates day period = .ok items := by
    intro period inside
    obtain ⟨nonneg, proper, inDay⟩ := bounds period inside
    obtain ⟨starts, left⟩ : ∃ instants, engine.validWallInstants day period.start = .ok instants :=
      validWallInstants_returns day nonneg (by omega)
    obtain ⟨ends, right⟩ : ∃ instants, engine.validWallInstants day period.finish = .ok instants :=
      validWallInstants_returns day (by omega) inDay
    exact ⟨starts ++ ends, by rw [periodCandidates, left, right]; rfl⟩
  obtain ⟨found, rest⟩ := mapM_returns edges
  exact ⟨midnight ++ found.flatten, by rw [dayCandidates, first, schedule]; simp [bind, Except.bind, rest, pure, Except.pure]⟩

theorem boundaries_returns (timeOfUse : engine.plan.pricingModel.isTimeOfUse = true)
    (covers : engine.plan.CoversEveryDay) (start finish : Int) :
    ∃ points, engine.boundaries start finish = .ok points := by
  obtain ⟨edges, found⟩ : ∃ edges,
      (daysThrough (engine.zone.localDate start - 1) (engine.zone.localDate finish + 1)).mapM engine.dayCandidates =
        .ok edges := by
    apply mapM_returns
    intro day _
    obtain ⟨periods, schedule⟩ := covers.periodsForDate day
    exact dayCandidates_returns timeOfUse schedule
  rw [boundaries_timeOfUse timeOfUse]
  exact ⟨_, bind_eq_ok.mpr ⟨_, bind_eq_ok.mpr ⟨edges, found, rfl⟩, rfl⟩⟩

theorem periodAt_returns (timeOfUse : engine.plan.pricingModel.isTimeOfUse = true) {instant : Int}
    {periods : List RatePeriod}
    (schedule : engine.plan.periodsForDate (engine.zone.localDate instant) = .ok periods) :
    ∃ period ∈ periods, engine.periodAt instant = .ok (period.bucket, period.price) := by
  obtain ⟨label, member⟩ := Plan.periodsForDate_mem timeOfUse schedule
  obtain ⟨_, covers⟩ := checkSchedule_eq_ok (validatePlan_schedules engine.valid timeOfUse _ member)
  obtain ⟨period, inside, contains⟩ := covers (minuteOf (engine.zone.toLocal instant)) (minuteOf_nonneg _)
    (minuteOf_lt _)
  rw [periodAt_timeOfUse timeOfUse, schedule]
  simp only [bind, Except.bind, periodIn]
  cases search : periods.find? fun period => decide (period.Contains (minuteOf (engine.zone.toLocal instant))) with
  | none =>
      have missed := List.find?_eq_none.mp search period inside
      simp [contains] at missed
  | some first => exact ⟨first, List.mem_of_find?_eq_some search, rfl⟩

/-- The slices of an interval tile it, and each has one tariff: that of its middle. -/
theorem boundaries_one_tariff (timeOfUse : engine.plan.pricingModel.isTimeOfUse = true)
    (covers : engine.plan.CoversEveryDay) (regular : engine.zone.Regular) {start finish : Int}
    (interval : start < finish) :
    ∃ points, engine.boundaries start finish = .ok points ∧ Tiles start finish points ∧
      (∀ instant, start ≤ instant → instant < finish →
        ∃ piece ∈ pairwise points, piece.1 ≤ instant ∧ instant < piece.2) ∧
      ∀ piece ∈ pairwise points, ∃ tariff, engine.periodAt (piece.1 + half (piece.2 - piece.1)) = .ok tariff ∧
        ∀ instant, piece.1 ≤ instant → instant < piece.2 → engine.periodAt instant = .ok tariff := by
  obtain ⟨points, found⟩ := boundaries_returns timeOfUse covers start finish
  have tiles := boundaries_tiles interval found
  refine ⟨points, found, tiles, ?_, ?_⟩
  · intro instant after before
    obtain ⟨left, right, member, inside⟩ := tiles.exists_piece after before
    exact ⟨(left, right), member, inside⟩
  · intro piece member
    obtain ⟨_, proper, _⟩ := tiles.piece member
    have nonneg : 0 ≤ half (piece.2 - piece.1) := half_nonneg (by omega)
    have small : half (piece.2 - piece.1) < piece.2 - piece.1 := half_lt (by omega)
    obtain ⟨periods, schedule⟩ :=
      covers.periodsForDate (engine.zone.localDate (piece.1 + half (piece.2 - piece.1)))
    obtain ⟨period, _, middle⟩ := periodAt_returns timeOfUse schedule
    refine ⟨_, middle, ?_⟩
    intro instant after before
    rw [← middle]
    exact periodAt_piece regular interval found member ⟨after, before⟩ ⟨by omega, by omega⟩

end RateEngine

/-! ## A plan with one season -/

/-- One season with the same schedule every day. -/
def yearRoundPlan (periods : List RatePeriod) : Plan :=
  { pricingModel := .timeOfUse
    seasons := [("year", { start := ⟨1, 1⟩, finish := ⟨12, 31⟩ })]
    periods := [("year", [(.weekday, periods), (.weekend, periods)])] }

theorem yearRound_covers (date : Int) : (⟨⟨1, 1⟩, ⟨12, 31⟩, 0⟩ : Season).Covers date := by
  obtain ⟨firstMonth, lastMonth, firstDay, lastDay⟩ := monthDay_valid date
  have december : (monthDay date).month = 12 → (monthDay date).day ≤ 31 := by
    intro last
    rw [MonthDay.leapYearDay, last] at lastDay
    simp only [daysBefore] at lastDay
    omega
  unfold Season.Covers MonthDay.InRange MonthDay.Le
  dsimp only
  omega

theorem coversEveryDay_of_yearRound {plan : Plan} {periods : List RatePeriod}
    (seasons : plan.seasons = (yearRoundPlan periods).seasons)
    (schedules : plan.periods = (yearRoundPlan periods).periods) : plan.CoversEveryDay := by
  intro date
  refine ⟨"year", _, periods, ?_, by rw [schedules]; rfl, ?_⟩
  · simp [Plan.season, Plan.rankedSeasons, seasons, yearRoundPlan, yearRound_covers]
  · unfold dayType
    split <;> rfl

/-- An hour forward at 10:00 UTC, from eight hours behind to seven. -/
def springForward : Zone := Zone.single 36000000000 (-28800000000) (-25200000000) Zone.standardTime Zone.daylightTime

theorem springForward_regular : springForward.Regular := Zone.single_regular (by decide) (by decide)

def eveningPeriods : List RatePeriod := [⟨0, 960, "off-peak", 1 / 5⟩, ⟨960, 1440, "peak", 1 / 2⟩]

def springEngine : RateEngine := ⟨yearRoundPlan eveningPeriods, springForward, by decide +kernel⟩

theorem springEngine_one_tariff : ∃ points,
    springEngine.boundaries 0 (2 * dayLength) = .ok points ∧ Tiles 0 (2 * dayLength) points ∧
      (∀ instant, 0 ≤ instant → instant < 2 * dayLength →
        ∃ piece ∈ pairwise points, piece.1 ≤ instant ∧ instant < piece.2) ∧
      ∀ piece ∈ pairwise points, ∃ tariff, springEngine.periodAt (piece.1 + half (piece.2 - piece.1)) = .ok tariff ∧
        ∀ instant, piece.1 ≤ instant → instant < piece.2 → springEngine.periodAt instant = .ok tariff :=
  RateEngine.boundaries_one_tariff rfl (coversEveryDay_of_yearRound rfl rfl) springForward_regular (by decide)

/-! ## A clock set back by more than a day

Only the days from the one before the first local date to the one after the last are
scanned. When the clock is set back by 25 hours an instant can fall on an earlier day. -/

/-- From fourteen hours ahead to eleven behind: 00:44:59 is followed by 23:44:59 two days before. -/
def dayRepeated : Zone := Zone.single 38699000000 50400000000 (-39600000000) (by decide) (by decide)

def latePeriods : List RatePeriod := [⟨0, 1425, "day", 1 / 5⟩, ⟨1425, 1440, "late", 1 / 2⟩]

def dayRepeatedEngine : RateEngine := ⟨yearRoundPlan latePeriods, dayRepeated, by decide +kernel⟩

/-- The probe finds the change. -/
theorem dayRepeated_changes : offsetChanges dayRepeated 38700000002 38698999999 50400000000 = [38699000000] := by
  have found : narrow dayRepeated 50400000000 38698999999 38700000002 = 38699500001 := by
    rw [narrow, if_pos (by decide)]
    change (if dayRepeated.utcoffset 38699500001 = 50400000000 then _ else _) = _
    rw [if_neg (by decide), narrow, if_neg (by decide)]
    rfl
  rw [offsetChanges, if_pos (by decide)]
  change (if dayRepeated.utcoffset 38700000002 ≠ 50400000000 then
    [wholeSecond (narrow dayRepeated 50400000000 38698999999 38700000002)] else []) ++ _ = _
  rw [if_pos (by decide), found, offsetChanges, if_neg (by decide)]
  rfl

theorem dayRepeated_two_tariffs : dayRepeated.PiecewiseConstant ∧ dayRepeated.RoundTrips ∧
    dayRepeatedEngine.plan.CoversEveryDay ∧ ∃ points,
      dayRepeatedEngine.boundaries 38698999999 38700000002 = .ok points ∧
      ∃ piece ∈ pairwise points, ∃ instant, piece.1 ≤ instant ∧ instant < piece.2 ∧
        dayRepeatedEngine.periodAt instant ≠ dayRepeatedEngine.periodAt (piece.1 + half (piece.2 - piece.1)) := by
  have scanned : (daysThrough (dayRepeated.localDate 38698999999 - 1) (dayRepeated.localDate 38700000002 + 1)).mapM
      dayRepeatedEngine.dayCandidates =
        .ok [[-50400000000, 39600000000, -50400000000, 39600000000, 35100000000, 125100000000,
          35100000000, 125100000000, 36000000000, 126000000000]] := by decide
  have points : dayRepeatedEngine.boundaries 38698999999 38700000002 =
      .ok [38698999999, 38699000000, 38700000002] := by
    have items : dayRepeatedEngine.candidates 38698999999 38700000002 =
        .ok (38698999999 :: 38700000002 :: [[-50400000000, 39600000000, -50400000000, 39600000000, 35100000000,
          125100000000, 35100000000, 125100000000, 36000000000, 126000000000]].flatten ++ [38699000000]) :=
      bind_eq_ok.mpr ⟨_, scanned, by rw [← dayRepeated_changes]; rfl⟩
    rw [RateEngine.boundaries_timeOfUse rfl, items]
    decide
  refine ⟨Zone.single_piecewiseConstant (by decide), Zone.single_roundTrips, coversEveryDay_of_yearRound rfl rfl, _,
    points, (38699000000, 38700000002), by decide, 38700000001, by decide, by decide, ?_⟩
  have late : dayRepeatedEngine.periodAt 38700000001 = .ok ("late", 1 / 2) := by decide +kernel
  have middle : dayRepeatedEngine.periodAt (38699000000 + half (38700000002 - 38699000000)) =
      .ok ("day", 1 / 5) := by decide +kernel
  rw [late, middle]
  decide

end PowerMonitor.Rates
