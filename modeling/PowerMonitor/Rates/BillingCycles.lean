import PowerMonitor.Calendar.Conversions
import PowerMonitor.Calendar.Months
import PowerMonitor.Rates.Engine

/-! The expected billing cycles of a plan.

A cycle begins at the midnight of the expected day of a month, or of the last day of a shorter month. The
cycle of an instant is found by its local reading, its ends are the instants of two such midnights.
-/

set_option autoImplicit false
namespace PowerMonitor.Rates
open Calendar

/-! ## Cycle midnights -/

/-- The date on which the cycle of a month begins. -/
def Plan.cycleDate (plan : Plan) (index : Int) : Int :=
  monthStart index + min (plan.expectedStartDay.val : Int) (monthLength index) - 1

/-- The reading at which the cycle of a month begins. -/
def Plan.cycleStart (plan : Plan) (index : Int) : Int := wallAt (plan.cycleDate index) 0

/-- A reading at which some cycle begins. -/
def Plan.CycleMidnight (plan : Plan) (wall : Int) : Prop :=
  ∃ year, ∃ month, 1 ≤ month ∧ month ≤ 12 ∧ wall = plan.cycleBoundary year month

section Plan
variable (plan : Plan)

theorem cycleDate_bounds (index : Int) :
    monthStart index ≤ plan.cycleDate index ∧ plan.cycleDate index < monthStart (index + 1) := by
  have day := plan.expectedStartDay.property
  have length := monthLength_bounds index
  simp only [Plan.cycleDate, monthLength] at *
  omega

theorem monthIndex_cycleDate (index : Int) : monthIndex (plan.cycleDate index) = index :=
  monthIndex_eq (cycleDate_bounds plan index).1 (cycleDate_bounds plan index).2

theorem cycleBoundary_eq (year : Int) {month : Nat} (first : 1 ≤ month) (last : month ≤ 12) :
    plan.cycleBoundary year month = plan.cycleStart (year * 12 + month - 1) := by
  obtain ⟨index, number⟩ : ∃ index, year * 12 + (month : Int) - 1 = index := ⟨_, rfl⟩
  have length := monthLength_bounds index
  have nextMonth : (if month = 12 then dateFrom (year + 1) 1 1 else dateFrom year (month + 1) 1) =
      monthStart (index + 1) := by
    split
    · rw [dateFrom_eq le_rfl (by decide), show (year + 1) * 12 + ((1 : Nat) : Int) - 1 = index + 1 by omega]
      omega
    · rw [dateFrom_eq (by omega) (by omega),
        show year * 12 + ((month + 1 : Nat) : Int) - 1 = index + 1 by push_cast; omega]
      omega
  have lastDay : ((monthDay (monthStart (index + 1) - 1)).day : Int) = monthLength index := by
    have place : monthIndex (monthStart (index + 1) - 1) = index := by
      simp only [monthLength] at length
      exact monthIndex_eq (by omega) (by omega)
    rw [day_eq, place, monthLength]
    omega
  simp only [Plan.cycleBoundary, Plan.cycleStart, Plan.cycleDate, nextMonth, dateFrom_eq first last, number]
  rw [← lastDay]
  push_cast
  rfl

theorem cycleMidnight_iff {wall : Int} : plan.CycleMidnight wall ↔ ∃ index, wall = plan.cycleStart index := by
  constructor
  · rintro ⟨year, month, first, last, rfl⟩
    exact ⟨_, cycleBoundary_eq plan year first last⟩
  · rintro ⟨index, rfl⟩
    refine ⟨index / 12, (index % 12).toNat + 1, by omega, by omega, ?_⟩
    rw [cycleBoundary_eq plan _ (by omega) (by omega)]
    congr 1
    omega

/-- Cycles are at least four weeks long, less the days that a start is moved back. -/
theorem cycleStart_succ (index : Int) : plan.cycleStart index + 28 * dayLength ≤ plan.cycleStart (index + 1) := by
  have day := plan.expectedStartDay.property
  have length := monthLength_bounds index
  have next := monthLength_bounds (index + 1)
  have apart : plan.cycleDate index + 28 ≤ plan.cycleDate (index + 1) := by
    simp only [Plan.cycleDate, monthLength] at *
    omega
  simp only [Plan.cycleStart, wallAt, dayLength] at *
  omega

theorem cycleStart_strictMono : StrictMono plan.cycleStart := by
  refine strictMono_int_of_lt_succ fun index => ?_
  have := cycleStart_succ plan index
  have : 0 < dayLength := by decide
  omega

end Plan

/-! ## The cycle of an instant -/

section Engine
variable (engine : RateEngine)

/-- The conversion of the start of a month's cycle. -/
def RateEngine.cycleInstant (index : Int) : Int := engine.zone.toUtc (engine.plan.cycleStart index) false

/-- The cycle of an instant is the one its local reading falls in. -/
theorem billingCycleBounds_eq {instant index : Int} (after : engine.plan.cycleStart index ≤ engine.zone.toLocal instant)
    (before : engine.zone.toLocal instant < engine.plan.cycleStart (index + 1)) :
    engine.billingCycleBounds instant = (engine.cycleInstant index, engine.cycleInstant (index + 1)) := by
  obtain ⟨wall, reading⟩ : ∃ wall, engine.zone.toLocal instant = wall := ⟨_, rfl⟩
  rw [reading] at after before
  have numbered (date : Int) : 1 ≤ (monthDay date).month ∧ (monthDay date).month ≤ 12 :=
    ⟨(monthDay_valid date).1, (monthDay_valid date).2.1⟩
  have current : engine.plan.cycleBoundary (yearOf (dateOf wall)) (monthDay (dateOf wall)).month =
      engine.plan.cycleStart (monthIndex (dateOf wall)) := cycleBoundary_eq _ _ (numbered _).1 (numbered _).2
  -- The cycle begins in the month of the reading, or in the month before.
  have start : (if wall < engine.plan.cycleStart (monthIndex (dateOf wall)) then
      engine.plan.cycleBoundary (if (monthDay (dateOf wall)).month = 1 then yearOf (dateOf wall) - 1 else yearOf (dateOf wall))
        (if (monthDay (dateOf wall)).month = 1 then 12 else (monthDay (dateOf wall)).month - 1)
      else engine.plan.cycleStart (monthIndex (dateOf wall))) = engine.plan.cycleStart index := by
    have inMonth := monthStart_le (dateOf wall)
    have inMonth' := lt_monthStart_succ (dateOf wall)
    have earlier := cycleDate_bounds engine.plan (monthIndex (dateOf wall) - 1)
    have later := cycleDate_bounds engine.plan (monthIndex (dateOf wall) + 1)
    rw [sub_add_cancel] at earlier
    split
    · rename_i short
      have upper : index < monthIndex (dateOf wall) :=
        (cycleStart_strictMono engine.plan).lt_iff_lt.mp (after.trans_lt short)
      have lower : monthIndex (dateOf wall) - 1 < index + 1 := by
        apply (cycleStart_strictMono engine.plan).lt_iff_lt.mp
        refine lt_of_le_of_lt ?_ before
        simp only [Plan.cycleStart, wallAt, dateOf, dayLength, minuteLength] at *
        omega
      have same : monthIndex (dateOf wall) = index + 1 := by omega
      have month := numbered (dateOf wall)
      rw [cycleBoundary_eq _ _ (by split <;> omega) (by split <;> omega)]
      congr 1
      simp only [monthIndex] at same
      split <;> omega
    · rename_i reached
      have lower : monthIndex (dateOf wall) < index + 1 :=
        (cycleStart_strictMono engine.plan).lt_iff_lt.mp ((not_lt.mp reached).trans_lt before)
      have upper : index < monthIndex (dateOf wall) + 1 := by
        apply (cycleStart_strictMono engine.plan).lt_iff_lt.mp
        refine lt_of_le_of_lt after ?_
        simp only [Plan.cycleStart, wallAt, dateOf, dayLength, minuteLength] at *
        omega
      rw [show monthIndex (dateOf wall) = index by omega]
  have date : dateOf (engine.plan.cycleStart index) = engine.plan.cycleDate index :=
    dateOf_wallAt le_rfl (by decide)
  have next : engine.plan.cycleBoundary
      (if (monthDay (engine.plan.cycleDate index)).month = 12 then yearOf (engine.plan.cycleDate index) + 1
        else yearOf (engine.plan.cycleDate index))
      (if (monthDay (engine.plan.cycleDate index)).month = 12 then 1 else (monthDay (engine.plan.cycleDate index)).month + 1) =
      engine.plan.cycleStart (index + 1) := by
    have month := numbered (engine.plan.cycleDate index)
    have number := monthIndex_cycleDate engine.plan index
    rw [cycleBoundary_eq _ _ (by split <;> omega) (by split <;> omega)]
    congr 1
    simp only [monthIndex] at number
    split <;> omega
  simp only [RateEngine.billingCycleBounds, reading, current, start, date, next, RateEngine.cycleInstant]

theorem exists_cycle (wall : Int) :
    ∃ index, engine.plan.cycleStart index ≤ wall ∧ wall < engine.plan.cycleStart (index + 1) := by
  have inMonth := monthStart_le (dateOf wall)
  have inMonth' := lt_monthStart_succ (dateOf wall)
  have earlier := cycleDate_bounds engine.plan (monthIndex (dateOf wall) - 1)
  have later := cycleDate_bounds engine.plan (monthIndex (dateOf wall) + 1)
  rw [sub_add_cancel] at earlier
  by_cases short : wall < engine.plan.cycleStart (monthIndex (dateOf wall))
  · refine ⟨monthIndex (dateOf wall) - 1, ?_, by rwa [sub_add_cancel]⟩
    simp only [Plan.cycleStart, wallAt, dateOf, dayLength, minuteLength] at *
    omega
  · refine ⟨monthIndex (dateOf wall), not_lt.mp short, ?_⟩
    simp only [Plan.cycleStart, wallAt, dateOf, dayLength, minuteLength] at *
    omega

/-- What a cycle is for: the instant lies in it, it is the cycle of its start, and the next begins at its end. -/
structure RateEngine.CycleHolds (instant : Int) : Prop where
  started : (engine.billingCycleBounds instant).1 ≤ instant
  unfinished : instant < (engine.billingCycleBounds instant).2
  ofStart : engine.billingCycleBounds (engine.billingCycleBounds instant).1 = engine.billingCycleBounds instant
  next : (engine.billingCycleBounds (engine.billingCycleBounds instant).2).1 = (engine.billingCycleBounds instant).2

variable {engine} (converts : engine.zone.Converts)
include converts

theorem cycleInstant_lt_succ (index : Int) : engine.cycleInstant index < engine.cycleInstant (index + 1) := by
  have apart := cycleStart_succ engine.plan index
  have first := converts.wallOffset_bounded (engine.plan.cycleStart index)
  have second := converts.wallOffset_bounded (engine.plan.cycleStart (index + 1))
  have : 0 < dayLength := by decide
  simp only [RateEngine.cycleInstant, Zone.toUtc]
  omega

theorem cycleInstant_strictMono : StrictMono engine.cycleInstant :=
  strictMono_int_of_lt_succ (cycleInstant_lt_succ converts)

theorem billingCycleBounds_cycleInstant (index : Int) :
    engine.billingCycleBounds (engine.cycleInstant index) =
      (engine.cycleInstant index, engine.cycleInstant (index + 1)) := by
  apply billingCycleBounds_eq engine (converts.le_toLocal_toUtc _)
  have apart := cycleStart_succ engine.plan index
  have offset := converts.wallOffset_bounded (engine.plan.cycleStart index)
  have local' := engine.zone.bounded (engine.cycleInstant index)
  have : 0 < dayLength := by decide
  simp only [Zone.toLocal]
  simp only [RateEngine.cycleInstant, Zone.toUtc] at *
  omega

theorem cycleHolds_iff {instant index : Int} (after : engine.plan.cycleStart index ≤ engine.zone.toLocal instant)
    (before : engine.zone.toLocal instant < engine.plan.cycleStart (index + 1)) :
    engine.CycleHolds instant ↔ engine.cycleInstant index ≤ instant ∧ instant < engine.cycleInstant (index + 1) := by
  have bounds := billingCycleBounds_eq engine after before
  constructor
  · rintro ⟨started, unfinished, -, -⟩
    rw [bounds] at started unfinished
    exact ⟨started, unfinished⟩
  · rintro ⟨started, unfinished⟩
    refine ⟨?_, ?_, ?_, ?_⟩ <;> rw [bounds]
    · exact started
    · exact unfinished
    · exact billingCycleBounds_cycleInstant converts index
    · rw [billingCycleBounds_cycleInstant converts (index + 1)]

/-- An instant is in its cycle, and the cycles of their starts follow each other, exactly when the clock was not
set over a cycle's midnight. -/
theorem billingCycleBounds_holds_iff (instant : Int) :
    engine.CycleHolds instant ↔ ∀ wall, engine.plan.CycleMidnight wall →
      ¬ engine.zone.SetBackOver wall instant ∧ ¬ engine.zone.SetForwardOver wall instant := by
  obtain ⟨index, after, before⟩ := exists_cycle engine (engine.zone.toLocal instant)
  have ordered := (cycleInstant_strictMono converts).monotone
  have rising := cycleStart_strictMono engine.plan
  rw [cycleHolds_iff converts after before]
  constructor
  · rintro ⟨started, unfinished⟩ wall midnight
    obtain ⟨other, rfl⟩ := (cycleMidnight_iff engine.plan).mp midnight
    rw [converts.setBackOver_iff, converts.setForwardOver_iff]
    constructor
    · rintro ⟨reached, behind⟩
      have later : index < other := rising.lt_iff_lt.mp (after.trans_lt behind)
      exact unfinished.not_ge ((ordered (Int.add_one_le_of_lt later)).trans reached)
    · rintro ⟨passed, early⟩
      have earlier : other < index + 1 := rising.lt_iff_lt.mp (passed.trans_lt before)
      exact started.not_gt (early.trans_le (ordered (Int.lt_add_one_iff.mp earlier)))
  · intro apart
    have started := (apart _ ((cycleMidnight_iff engine.plan).mpr ⟨index, rfl⟩)).2
    have unfinished := (apart _ ((cycleMidnight_iff engine.plan).mpr ⟨index + 1, rfl⟩)).1
    rw [converts.setForwardOver_iff, not_and, not_lt] at started
    rw [converts.setBackOver_iff, not_and, not_lt] at unfinished
    exact ⟨started after, lt_of_not_ge fun reached => (unfinished reached).not_gt before⟩

end Engine

/-! ## A clock set back over a midnight -/

/-- Newfoundland in 2009: at 00:01 of the first of November the clock was set back by an hour. -/
def newfoundland : Zone :=
  .single (seconds 1257042660) (-9000000000) (-12600000000) (by decide) (by decide)

def monthlyEngine (zone : Zone) : RateEngine := ⟨{ pricingModel := .flat, flatRatePerKwh := some 1 }, zone, by decide⟩

theorem noon_in_its_cycle : (monthlyEngine .utc).CycleHolds (seconds 1257076800) := by
  have converts : (monthlyEngine .utc).zone.Converts := Zone.utc_converts
  refine (billingCycleBounds_holds_iff converts _).mpr ?_
  intro wall _
  have steady (instant : Int) : Zone.utc.toLocal instant = instant := by simp [Zone.utc, Zone.single, Zone.toLocal]
  simp only [monthlyEngine, Zone.SetBackOver, Zone.SetForwardOver, Zone.Shown, steady]
  exact ⟨by omega, fun forward => forward.1 ⟨wall, rfl⟩⟩

/-- In the hour that is repeated before the first of the month the cycle has ended already. -/
theorem repeated_hour_after_its_cycle :
    (monthlyEngine newfoundland).billingCycleBounds (seconds 1257044400) = (seconds 1254364200, seconds 1257042600) ∧
      ¬ (monthlyEngine newfoundland).CycleHolds (seconds 1257044400) := by
  have bounds : (monthlyEngine newfoundland).billingCycleBounds (seconds 1257044400) =
      (seconds 1254364200, seconds 1257042600) := by decide
  refine ⟨bounds, fun holds => ?_⟩
  have unfinished := holds.unfinished
  rw [bounds] at unfinished
  revert unfinished
  decide

end PowerMonitor.Rates
