import PowerMonitor.Calendar.Date
import Mathlib.Tactic.Ring
import Mathlib.Data.Int.ConditionallyCompleteOrder

/-! The months of the calendar, numbered in a row.

Month 0 is January of the year 0. The months are counted from March to find their first days, as the dates are.
-/

set_option autoImplicit false
namespace PowerMonitor.Calendar

/-- The first of March of a year. -/
def marchStart (year : Int) : Int :=
  year / 400 * 146097 + (year % 400 * 365 + year % 400 / 4 - year % 400 / 100) - 719468

theorem marchStart_succ (year : Int) :
    marchStart (year + 1) = marchStart year + 365 ∨ marchStart (year + 1) = marchStart year + 366 := by
  simp only [marchStart]
  omega

/-- The parts of a date and their bounds; a leap day comes only at the end of a group. -/
theorem marchDate_spec (date : Int) :
    let parts := marchDate date
    (0 ≤ parts.century ∧ parts.century ≤ 3) ∧ (0 ≤ parts.group ∧ parts.group ≤ 24) ∧
      (0 ≤ parts.year ∧ parts.year ≤ 3) ∧ (parts.day < 365 ∨ parts.year = 3 ∧ (parts.group < 24 ∨ parts.century = 3)) ∧
      date + 719468 =
        parts.era * 146097 + parts.century * 36524 + parts.group * 1461 + parts.year * 365 + parts.day := by
  simp only [marchDate]
  refine ⟨?_, ?_, ?_, ?_, ?_⟩ <;> omega

/-- The first of March of a year given by era, century, group and year. -/
theorem marchStart_parts {era century group year : Int} (centuries : 0 ≤ century ∧ century ≤ 3)
    (groups : 0 ≤ group ∧ group ≤ 24) (years : 0 ≤ year ∧ year ≤ 3) :
    marchStart (era * 400 + century * 100 + group * 4 + year) =
      era * 146097 + century * 36524 + group * 1461 + year * 365 - 719468 := by
  have eras : (era * 400 + century * 100 + group * 4 + year) / 400 = era := by omega
  have inEra : (era * 400 + century * 100 + group * 4 + year) % 400 = century * 100 + group * 4 + year := by omega
  rw [marchStart, eras, inEra]
  omega

/-- A date is its position after the first of March of its year. -/
theorem marchStart_add (date : Int) : marchStart (marchYear date) + marchDay date = date := by
  obtain ⟨centuries, groups, years, -, sum⟩ := marchDate_spec date
  have start := @marchStart_parts (marchDate date).era _ _ _ centuries groups years
  simp only [marchYear, marchDay, start]
  omega

theorem marchStart_succ_leap {date : Int} (last : (marchDate date).year = 3)
    (place : (marchDate date).group < 24 ∨ (marchDate date).century = 3) :
    marchStart (marchYear date + 1) = marchStart (marchYear date) + 366 := by
  obtain ⟨centuries, groups, years, -, -⟩ := marchDate_spec date
  have ofYear : marchYear date = (marchDate date).era * 400 + (marchDate date).century * 100 +
    (marchDate date).group * 4 + (marchDate date).year := rfl
  by_cases early : (marchDate date).group < 24
  · have next : marchYear date + 1 = (marchDate date).era * 400 + (marchDate date).century * 100 +
        ((marchDate date).group + 1) * 4 + 0 := by omega
    rw [next, ofYear, marchStart_parts centuries (by omega) (by omega), marchStart_parts centuries groups years]
    omega
  · -- The last year of an era.
    have next : marchYear date + 1 = ((marchDate date).era + 1) * 400 + 0 * 100 + 0 * 4 + 0 := by omega
    rw [next, ofYear, marchStart_parts (by omega) (by omega) (by omega), marchStart_parts centuries groups years]
    omega

theorem lt_marchStart_succ (date : Int) : date < marchStart (marchYear date + 1) := by
  have leap := (marchDate_spec date).2.2.2.1
  have place := marchStart_add date
  have next := marchStart_succ (marchYear date)
  have upTo := marchDay_le date
  rcases leap with short | ⟨last, place⟩
  · have ofDay : marchDay date < 365 := short
    omega
  · have inYear := marchStart_succ_leap last place
    omega

/-! ## Numbered months -/

def monthIndex (date : Int) : Int := yearOf date * 12 + (monthDay date).month - 1

/-- The first day of a month. -/
def monthStart (index : Int) : Int := marchStart ((index - 2) / 12) + (153 * ((index - 2) % 12) + 2) / 5

def monthLength (index : Int) : Int := monthStart (index + 1) - monthStart index

theorem monthLength_bounds (index : Int) : 28 ≤ monthLength index ∧ monthLength index ≤ 31 := by
  have year := marchStart_succ ((index - 2) / 12)
  simp only [monthLength, monthStart]
  by_cases february : (index - 2) % 12 = 11
  · have next : (index + 1 - 2) / 12 = (index - 2) / 12 + 1 := by omega
    rw [next]
    omega
  · have same : (index + 1 - 2) / 12 = (index - 2) / 12 := by omega
    rw [same]
    omega

theorem dateFrom_eq {year : Int} {month : Nat} (first : 1 ≤ month) (last : month ≤ 12) (day : Nat) :
    dateFrom year month day = monthStart (year * 12 + month - 1) + day - 1 := by
  simp only [dateFrom, monthStart, marchStart]
  by_cases early : month ≤ 2
  · have shifted : (year * 12 + (month : Int) - 1 - 2) / 12 = year - 1 := by omega
    rw [if_pos early, if_pos early, shifted]
    omega
  · have shifted : (year * 12 + (month : Int) - 1 - 2) / 12 = year := by omega
    rw [if_neg early, if_neg early, shifted]
    omega

/-- The month of a date, counted from March. -/
theorem monthIndex_march (date : Int) :
    (monthIndex date - 2) / 12 = marchYear date ∧ (monthIndex date - 2) % 12 = (5 * marchDay date + 2) / 153 := by
  obtain ⟨position, place⟩ := Int.eq_ofNat_of_zero_le (marchDay_nonneg date)
  have inYear := marchDay_le date
  have number : monthIndex date - 2 = marchYear date * 12 + ((5 * position + 2) / 153 : Nat) := by
    simp only [monthIndex, yearOf, monthDay, monthDayOfMarchDay, place, Int.toNat_natCast]
    split <;> split <;> omega
  push_cast at number
  rw [place]
  constructor <;> omega

theorem monthStart_le (date : Int) : monthStart (monthIndex date) ≤ date := by
  obtain ⟨year, position⟩ := monthIndex_march date
  have place := marchStart_add date
  have := marchDay_nonneg date
  rw [monthStart, year, position]
  omega

theorem lt_monthStart_succ (date : Int) : date < monthStart (monthIndex date + 1) := by
  obtain ⟨year, position⟩ := monthIndex_march date
  have place := marchStart_add date
  have := marchDay_nonneg date
  have := marchDay_le date
  rw [monthStart]
  by_cases february : (monthIndex date - 2) % 12 = 11
  · have next : (monthIndex date + 1 - 2) / 12 = marchYear date + 1 := by omega
    have := lt_marchStart_succ date
    rw [next]
    omega
  · have same : (monthIndex date + 1 - 2) / 12 = marchYear date := by omega
    rw [same]
    omega

theorem day_eq (date : Int) : ((monthDay date).day : Int) = date - monthStart (monthIndex date) + 1 := by
  obtain ⟨year, position⟩ := monthIndex_march date
  have place := marchStart_add date
  have := marchDay_nonneg date
  rw [monthStart, year, position]
  simp only [monthDay, monthDayOfMarchDay]
  omega

theorem monthStart_strictMono : StrictMono monthStart := by
  refine strictMono_int_of_lt_succ fun index => ?_
  have := (monthLength_bounds index).1
  simp only [monthLength] at this
  omega

theorem monthIndex_eq {date index : Int} (after : monthStart index ≤ date) (before : date < monthStart (index + 1)) :
    monthIndex date = index := by
  have start := monthStart_strictMono.lt_iff_lt.mp ((monthStart_le date).trans_lt before)
  have finish := monthStart_strictMono.lt_iff_lt.mp (after.trans_lt (lt_monthStart_succ date))
  omega

end PowerMonitor.Calendar
