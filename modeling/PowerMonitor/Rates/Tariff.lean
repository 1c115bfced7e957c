import PowerMonitor.Calendar.Zone
import PowerMonitor.Rates.Plan
import Mathlib.Data.List.Dedup

/-! Which schedule applies at an instant, and where the tariff may change.

A boundary is a wall-clock edge of a schedule, found again from its local reading
with either fold, or a change of the zone's offset, found by probing every fifteen
minutes and narrowing down to a second. The loops have no bound in the source; here
they end because the span left to search shrinks.
-/

set_option autoImplicit false
namespace PowerMonitor.Rates
open Library Calendar

/-! ## Schedules of a date -/

def Season.Covers (season : Season) (date : Int) : Prop := (monthDay date).InRange season.start season.finish

instance (season : Season) (date : Int) : Decidable (season.Covers date) :=
  inferInstanceAs (Decidable (MonthDay.InRange _ _ _))

/-- Seasons by falling priority; equal priorities keep their place. -/
def Plan.rankedSeasons (plan : Plan) : List (String × Season) :=
  plan.seasons.insertionSort fun a b => b.2.priority ≤ a.2.priority

/-- `_season` -/
def Plan.season (plan : Plan) (date : Int) : Except EngineError String :=
  if plan.seasons = [] then
    .ok (if dateFrom (yearOf date) 6 1 ≤ date ∧ date ≤ dateFrom (yearOf date) 9 30 then "summer" else "winter")
  else
    match plan.rankedSeasons.find? fun entry => decide (entry.2.Covers date) with
    | some entry => .ok entry.1
    | none => .error (.runtimeError "validated rate plan has no matching season")

/-- `_day_type` -/
def dayType (date : Int) : DayType := if 5 ≤ weekday date then .weekend else .weekday

/-- `dict[key]` -/
def getKey {Key Value : Type} [BEq Key] (text : Key → String) (key : Key) (dict : List (Key × Value)) :
    Except EngineError Value :=
  match dict.lookup key with
  | some value => .ok value
  | none => .error (.keyError (text key))

/-- `_periods_for_date`. The normal schedule is looked up also when a special one replaces it. -/
def Plan.periodsForDate (plan : Plan) (date : Int) : Except EngineError (List RatePeriod) :=
  if plan.pricingModel.isTimeOfUse then do
    let season ← plan.season date
    let special := (plan.specialSchedules.lookup season).getD []
    let dayTypes ← getKey id season plan.periods
    let normal ← getKey DayType.text (dayType date) dayTypes
    pure ((special.lookup date).getD normal)
  else
    pure [⟨0, 1440, "all-hours", 0⟩]

/-- An engine exists only for a plan that `validate_plan` accepts. -/
structure RateEngine where
  plan : Plan
  zone : Zone
  valid : validatePlan plan = .ok ()

/-- `RateEngine(plan)`, in the zone the plan names. -/
def RateEngine.construct (plan : Plan) (zone : Zone) : Except EngineError RateEngine :=
  match accepted : validatePlan plan with
  | .error failure => .error failure
  | .ok () => .ok ⟨plan, zone, accepted⟩

theorem construct_eq_ok {plan : Plan} {zone : Zone} {engine : RateEngine} :
    RateEngine.construct plan zone = .ok engine ↔ engine.plan = plan ∧ engine.zone = zone := by
  constructor
  · intro built
    unfold RateEngine.construct at built
    split at built
    · cases built
    · cases built
      exact ⟨rfl, rfl⟩
  · rintro ⟨rfl, rfl⟩
    have valid := engine.valid
    unfold RateEngine.construct
    split
    · next failure rejected =>
        rw [valid] at rejected
        cases rejected
    · rfl

/-- `Decimal(str(plan["flat_rate_per_kwh"]))` -/
def Plan.flatRate (plan : Plan) : Except EngineError Rat :=
  match plan.flatRatePerKwh with
  | some rate => .ok rate
  | none => .error (.keyError "flat_rate_per_kwh")

def RatePeriod.Contains (period : RatePeriod) (minute : Int) : Prop := period.start ≤ minute ∧ minute < period.finish

instance (period : RatePeriod) (minute : Int) : Decidable (period.Contains minute) :=
  inferInstanceAs (Decidable (_ ∧ _))

/-- The first period of a schedule that holds a minute. -/
def periodIn (periods : List RatePeriod) (minute : Int) : Except EngineError (String × Rat) :=
  match periods.find? fun period => decide (period.Contains minute) with
  | some period => .ok (period.bucket, period.price)
  | none => .error (.runtimeError "validated rate plan has no matching period")

namespace RateEngine
variable (engine : RateEngine)

/-- `period_at` -/
def periodAt (instant : Int) : Except EngineError (String × Rat) :=
  match engine.plan.pricingModel with
  | .flat => do
      let rate ← engine.plan.flatRate
      pure ("flat", rate)
  | .tiered => pure ("all-hours", 0)
  | _ => do
      let wall := engine.zone.toLocal instant
      let periods ← engine.plan.periodsForDate (dateOf wall)
      periodIn periods (minuteOf wall)

/-! ## Boundaries -/

/-- `_valid_wall_instants`: the instants whose local reading with its fold is the given one. -/
def validWallInstants (day minute : Int) : Except EngineError (List Int) := do
  let naiveDay := if minute = 1440 then day + 1 else day
  let naiveMinute := if minute = 1440 then 0 else minute
  raiseIf (naiveMinute < 0 ∨ 1440 ≤ naiveMinute) (.valueError "hour must be in 0..23")
  let naive := wallAt naiveDay naiveMinute
  pure ([false, true].filterMap fun fold =>
    let utc := engine.zone.toUtc naive fold
    if engine.zone.toLocal utc = naive ∧ engine.zone.fold utc = fold then some utc else none)

/-- Both edges of a period on a day. -/
def periodCandidates (day : Int) (period : RatePeriod) : Except EngineError (List Int) := do
  let starts ← engine.validWallInstants day period.start
  let ends ← engine.validWallInstants day period.finish
  pure (starts ++ ends)

/-- The candidates of one day: its midnight and the edges of its periods. -/
def dayCandidates (day : Int) : Except EngineError (List Int) := do
  let midnight ← engine.validWallInstants day 0
  let periods ← engine.plan.periodsForDate day
  let edges ← periods.mapM (engine.periodCandidates day)
  pure (midnight ++ edges.flatten)

end RateEngine

/-- `span / 2` of a `timedelta`: halves of a microsecond go to the even side. -/
def half (span : Int) : Int :=
  if span % 2 = 0 then span / 2 else if span / 2 % 2 = 0 then span / 2 else span / 2 + 1

theorem half_nonneg {span : Int} (positive : 0 < span) : 0 ≤ half span := by
  unfold half
  split
  · omega
  · split <;> omega

theorem half_lt {span : Int} (positive : 0 < span) : half span < span := by
  unfold half
  split
  · omega
  · split <;> omega

theorem half_pos {span : Int} (long : 1 < span) : 0 < half span := by
  unfold half
  split
  · omega
  · split <;> omega

/-- The loop that halves `[low, high]` until it is a second long; `low` has the prior offset. -/
def narrow (zone : Zone) (priorOffset low high : Int) : Int :=
  if 1000000 < high - low then
    let midpoint := low + half (high - low)
    if zone.utcoffset midpoint = priorOffset then narrow zone priorOffset midpoint high
    else narrow zone priorOffset low midpoint
  else high
termination_by (high - low).toNat
decreasing_by
  · have : 0 < half (high - low) := half_pos (by omega)
    omega
  · have : half (high - low) < high - low := half_lt (by omega)
    omega

/-- `replace(microsecond=0)` -/
def wholeSecond (instant : Int) : Int := instant - instant % 1000000

/-- The probe loop: one candidate for each step over which the offset changes. -/
def offsetChanges (zone : Zone) (finish probe priorOffset : Int) : List Int :=
  if probe < finish then
    let nextProbe := min finish (probe + Zone.probeLength)
    let nextOffset := zone.utcoffset nextProbe
    let found := if nextOffset ≠ priorOffset then [wholeSecond (narrow zone priorOffset probe nextProbe)] else []
    found ++ offsetChanges zone finish nextProbe nextOffset
  else []
termination_by (finish - probe).toNat
decreasing_by
  simp only [Zone.probeLength]
  omega

/-- `sorted` of a set. -/
def sortedSet (items : List Int) : List Int := items.dedup.insertionSort (· ≤ ·)

theorem sortedSet_pair {start finish : Int} (ordered : start < finish) :
    sortedSet [start, finish] = [start, finish] := by
  have distinct : [start, finish].Nodup := by simp [ordered.ne]
  rw [sortedSet, distinct.dedup]
  simp [ordered.le]

/-- The days from `first` to `last`, both included. -/
def daysThrough (first last : Int) : List Int := (List.range (last - first + 1).toNat).map fun index : Nat => first + index

namespace RateEngine
variable (engine : RateEngine)

/-- The candidates of a schedule that depends on the time of day. -/
def candidates (start finish : Int) : Except EngineError (List Int) := do
  let days := daysThrough (engine.zone.localDate start - 1) (engine.zone.localDate finish + 1)
  let edges ← days.mapM engine.dayCandidates
  pure (start :: finish :: edges.flatten ++
    offsetChanges engine.zone finish start (engine.zone.utcoffset start))

/-- `_boundaries` -/
def boundaries (start finish : Int) : Except EngineError (List Int) :=
  match engine.plan.pricingModel with
  | .flat | .tiered => pure (sortedSet [start, finish])
  | _ => do
      let found ← engine.candidates start finish
      pure (sortedSet (found.filter fun item => decide (start ≤ item ∧ item ≤ finish)))

end RateEngine
end PowerMonitor.Rates
