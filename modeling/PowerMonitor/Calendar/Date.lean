import PowerMonitor.Foundation
import Mathlib.Tactic.IntervalCases

/-! The proleptic Gregorian calendar.

A date is the number of days since 1970-01-01 and a wall-clock reading the number
of microseconds since that day's midnight, without a time zone. The calendar has no
first or last year here. Years are counted from March so that the leap day is the
last of its year.
-/

set_option autoImplicit false
namespace PowerMonitor.Calendar

def dayLength : Int := 86400000000
def minuteLength : Int := 60000000

/-- The date of a wall-clock reading. -/
def dateOf (wall : Int) : Int := wall / dayLength

/-- `hour * 60 + minute` of a wall-clock reading. -/
def minuteOf (wall : Int) : Int := wall % dayLength / minuteLength

/-- The reading at a minute of a date; minute 1440 is the next midnight. -/
def wallAt (date minute : Int) : Int := date * dayLength + minute * minuteLength

theorem dateOf_wallAt {date minute : Int} (nonnegative : 0 ≤ minute) (inDay : minute < 1440) :
    dateOf (wallAt date minute) = date := by
  simp only [dateOf, wallAt, dayLength, minuteLength]
  omega

theorem minuteOf_nonneg (wall : Int) : 0 ≤ minuteOf wall := by
  simp only [minuteOf, dayLength, minuteLength]
  omega

theorem minuteOf_lt (wall : Int) : minuteOf wall < 1440 := by
  simp only [minuteOf, dayLength, minuteLength]
  omega

/-- `date.weekday()`, Monday is 0. -/
def weekday (date : Int) : Int := (date + 3) % 7

structure MonthDay where
  month : Nat
  day : Nat
  deriving DecidableEq, Repr

namespace MonthDay

/-- The order of `(month, day)` tuples. -/
def Le (a b : MonthDay) : Prop := a.month < b.month ∨ (a.month = b.month ∧ a.day ≤ b.day)

instance (a b : MonthDay) : Decidable (Le a b) := inferInstanceAs (Decidable (_ ∨ _))

/-- Inclusive, and over the turn of the year when the start is after the end. -/
def InRange (value start finish : MonthDay) : Prop :=
  (Le start finish ∧ Le start value ∧ Le value finish) ∨
    (¬ Le start finish ∧ (Le start value ∨ Le value finish))

instance (value start finish : MonthDay) : Decidable (InRange value start finish) :=
  inferInstanceAs (Decidable (_ ∨ _))

end MonthDay

/-- A date as era of 400 years, century, group of four years, year and day, counted from March. -/
structure MarchDate where
  era : Int
  century : Int
  group : Int
  year : Int
  day : Int

/-- The last century of an era and the last year of a group are one day longer. -/
def marchDate (date : Int) : MarchDate :=
  let era := (date + 719468) / 146097
  let inEra := (date + 719468) % 146097
  let century := min (inEra / 36524) 3
  let inCentury := inEra - century * 36524
  let group := inCentury / 1461
  let inGroup := inCentury % 1461
  let year := min (inGroup / 365) 3
  ⟨era, century, group, year, inGroup - year * 365⟩

/-- The day of the year that starts with March, from 0. -/
def marchDay (date : Int) : Int := (marchDate date).day

/-- The year that starts with March. -/
def marchYear (date : Int) : Int :=
  let parts := marchDate date
  parts.era * 400 + parts.century * 100 + parts.group * 4 + parts.year

/-- Month and day of a position in the March year. -/
def monthDayOfMarchDay (position : Nat) : MonthDay :=
  let index := (5 * position + 2) / 153
  ⟨if index < 10 then index + 3 else index - 9, position - (153 * index + 2) / 5 + 1⟩

def monthDay (date : Int) : MonthDay := monthDayOfMarchDay (marchDay date).toNat

def yearOf (date : Int) : Int := marchYear date + if (monthDay date).month ≤ 2 then 1 else 0

/-- `date(year, month, day)` for a month from 1 to 12. -/
def dateFrom (year : Int) (month day : Nat) : Int :=
  let shifted := if month ≤ 2 then year - 1 else year
  let index : Int := if month ≤ 2 then month + 9 else month - 3
  let yearOfEra := shifted % 400
  shifted / 400 * 146097 + (yearOfEra * 365 + yearOfEra / 4 - yearOfEra / 100) +
    ((153 * index + 2) / 5 + day - 1) - 719468

example : (yearOf 19782, monthDay 19782, dateFrom 2024 2 29) = (2024, ⟨2, 29⟩, 19782) := by decide

theorem marchDay_nonneg (date : Int) : 0 ≤ marchDay date := by
  simp only [marchDay, marchDate]
  omega

theorem marchDay_le (date : Int) : marchDay date ≤ 365 := by
  simp only [marchDay, marchDate]
  omega

/-- Every position of a leap year occurs: those of the March year 2023 end with a leap day. -/
theorem marchDay_leapYear {position : Nat} (inYear : position ≤ 365) :
    marchDay (19417 + position) = position := by
  simp only [marchDay, marchDate]
  omega

/-! ## Days of a leap year -/

/-- Days before a month in a leap year. -/
def daysBefore : Nat → Nat
  | 0 => 0
  | 1 => 0
  | 2 => 31
  | 3 => 60
  | 4 => 91
  | 5 => 121
  | 6 => 152
  | 7 => 182
  | 8 => 213
  | 9 => 244
  | 10 => 274
  | 11 => 305
  | 12 => 335
  | _ => 366

/-- `date(2024, month, day).timetuple().tm_yday` -/
def MonthDay.leapYearDay (value : MonthDay) : Nat := daysBefore value.month + value.day

/-- A month-day that `date(2024, month, day)` accepts. -/
def MonthDay.Valid (value : MonthDay) : Prop :=
  1 ≤ value.month ∧ value.month ≤ 12 ∧ 1 ≤ value.day ∧ value.leapYearDay ≤ daysBefore (value.month + 1)

instance (value : MonthDay) : Decidable value.Valid := inferInstanceAs (Decidable (_ ∧ _ ∧ _ ∧ _))

theorem monthDayOfMarchDay_valid {position : Nat} (inYear : position ≤ 365) :
    (monthDayOfMarchDay position).Valid := by
  have checked : ∀ p < 366, (monthDayOfMarchDay p).Valid := by decide +kernel
  exact checked position (by omega)

theorem monthDay_valid (date : Int) : (monthDay date).Valid := by
  have := marchDay_nonneg date
  have := marchDay_le date
  exact monthDayOfMarchDay_valid (by omega)

theorem exists_monthDay {value : MonthDay} (valid : value.Valid) : ∃ date, monthDay date = value := by
  obtain ⟨firstMonth, lastMonth, firstDay, lastDay⟩ := valid
  -- The leap year's first of January is position 306 of the March year.
  have checked : ∀ month < 13, ∀ day < 32, MonthDay.Valid ⟨month, day⟩ →
      monthDayOfMarchDay ((MonthDay.leapYearDay ⟨month, day⟩ + 305) % 366) = ⟨month, day⟩ := by decide +kernel
  have short : value.day < 32 := by
    have lengths : ∀ month < 13, daysBefore (month + 1) ≤ daysBefore month + 31 := by decide
    have := lengths value.month (by omega)
    simp only [MonthDay.leapYearDay] at lastDay
    omega
  refine ⟨19417 + ((value.leapYearDay + 305) % 366 : Nat), ?_⟩
  rw [monthDay, marchDay_leapYear (by omega), Int.toNat_natCast]
  exact checked value.month (by omega) value.day short ⟨firstMonth, lastMonth, firstDay, lastDay⟩

end PowerMonitor.Calendar
