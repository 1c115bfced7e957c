import PowerMonitor.Calendar.Conversions

/-! The weekly check of rate sources.

The latest occurrence is found on the local calendar; the next is seven days of universal time after it.
-/

set_option autoImplicit false
namespace PowerMonitor.Sources
open Calendar

def weekLength : Int := 7 * dayLength

/-- Minute, hour and weekday of a cron expression; Sunday is 0. -/
structure WeeklySchedule where
  minute : { minute : Int // 0 ≤ minute ∧ minute ≤ 59 }
  hour : { hour : Int // 0 ≤ hour ∧ hour ≤ 23 }
  cronWeekday : { weekday : Int // 0 ≤ weekday ∧ weekday ≤ 6 }

namespace WeeklySchedule
variable (schedule : WeeklySchedule)

/-- The weekday as Python counts it, from Monday. -/
def pythonWeekday : Int := (schedule.cronWeekday.val + 6) % 7

def minuteOfDay : Int := schedule.hour.val * 60 + schedule.minute.val

/-- The reading of the latest occurrence: on the scheduled weekday up to today, or a week before. -/
def latestReading (localNow : Int) : Int :=
  let daysBack := (weekday (dateOf localNow) - schedule.pythonWeekday) % 7
  let reading := wallAt (dateOf localNow - daysBack) schedule.minuteOfDay
  if localNow < reading then reading - weekLength else reading

def latestScheduledTime (zone : Zone) (now : Int) : Int :=
  zone.toUtc (schedule.latestReading (zone.toLocal now)) false

def nextScheduledTime (zone : Zone) (now : Int) : Int :=
  let latest := schedule.latestScheduledTime zone now
  if latest ≤ now then latest + weekLength else latest

/-! ## Occurrences -/

/-- The readings that the expression names. -/
def Occurs (reading : Int) : Prop :=
  ∃ date, weekday date = schedule.pythonWeekday ∧ reading = wallAt date schedule.minuteOfDay

/-- What the schedule is for, at a time between two occurrences. -/
structure Holds (zone : Zone) (now : Int) : Prop where
  past : schedule.latestScheduledTime zone now ≤ now
  future : now < schedule.nextScheduledTime zone now
  latestOccurs : ∀ reading, schedule.Occurs reading → reading ≤ zone.toLocal now →
    zone.toLocal now < reading + weekLength → zone.Shown reading →
    schedule.Occurs (zone.toLocal (schedule.latestScheduledTime zone now))
  nextOccurs : ∀ reading, schedule.Occurs reading → zone.toLocal now < reading →
    reading ≤ zone.toLocal now + weekLength → zone.Shown reading →
    schedule.Occurs (zone.toLocal (schedule.nextScheduledTime zone now))
  noneBetween : ∀ instant, schedule.latestScheduledTime zone now < instant →
    instant < schedule.nextScheduledTime zone now → ¬ schedule.Occurs (zone.toLocal instant)

/-- A week in which seven days of universal time are a week on the clock: the occurrence is shown once, it was not
skipped just before, and the next one has its offset. -/
structure Even (zone : Zone) (now : Int) : Prop where
  passed : ¬ zone.SetForwardOver (schedule.latestReading (zone.toLocal now)) now
  once : ∀ first second, zone.toLocal first = schedule.latestReading (zone.toLocal now) →
    zone.toLocal second = schedule.latestReading (zone.toLocal now) → first = second
  sameOffset : zone.Shown (schedule.latestReading (zone.toLocal now) + weekLength) →
    zone.wallOffset (schedule.latestReading (zone.toLocal now) + weekLength) false =
      zone.wallOffset (schedule.latestReading (zone.toLocal now)) false
  ahead : now + zone.wallOffset (schedule.latestReading (zone.toLocal now)) false <
    schedule.latestReading (zone.toLocal now) + weekLength

section
variable {schedule}

theorem minuteOfDay_bounds : 0 ≤ schedule.minuteOfDay ∧ schedule.minuteOfDay < 1440 := by
  have := schedule.minute.property
  have := schedule.hour.property
  simp only [minuteOfDay]
  omega

theorem pythonWeekday_bounds : 0 ≤ schedule.pythonWeekday ∧ schedule.pythonWeekday < 7 := by
  simp only [pythonWeekday]
  omega

/-- The latest reading is the one occurrence in the week up to now. -/
theorem latestReading_spec (localNow : Int) : schedule.Occurs (schedule.latestReading localNow) ∧
    schedule.latestReading localNow ≤ localNow ∧ localNow < schedule.latestReading localNow + weekLength := by
  have minute := schedule.minuteOfDay_bounds
  have day := schedule.pythonWeekday_bounds
  simp only [latestReading]
  split
  · refine ⟨⟨dateOf localNow - (weekday (dateOf localNow) - schedule.pythonWeekday) % 7 - 7, ?_, ?_⟩, ?_, ?_⟩ <;>
      simp only [weekday, wallAt, weekLength, dateOf, dayLength, minuteLength] at * <;> omega
  · refine ⟨⟨dateOf localNow - (weekday (dateOf localNow) - schedule.pythonWeekday) % 7, ?_, rfl⟩, ?_, ?_⟩ <;>
      simp only [weekday, wallAt, weekLength, dateOf, dayLength, minuteLength] at * <;> omega

/-- Occurrences are whole weeks apart. -/
theorem Occurs.eq_of_near {first second : Int} (firstOccurs : schedule.Occurs first) (secondOccurs : schedule.Occurs second)
    (after : second < first + weekLength) (before : first < second + weekLength) : second = first := by
  obtain ⟨firstDate, firstDay, rfl⟩ := firstOccurs
  obtain ⟨secondDate, secondDay, rfl⟩ := secondOccurs
  simp only [weekday, wallAt, weekLength, dayLength, minuteLength] at *
  omega

theorem Occurs.next {reading : Int} (occurs : schedule.Occurs reading) : schedule.Occurs (reading + weekLength) := by
  obtain ⟨date, day, rfl⟩ := occurs
  refine ⟨date + 7, ?_, ?_⟩ <;> simp only [weekday, wallAt, weekLength, dayLength] at * <;> omega

variable {zone : Zone} {now : Int}

/-- An instant after an occurrence and less than a week later can only show this occurrence or the next. -/
theorem occurs_between (converts : zone.Converts) {reading instant : Int} (occurs : schedule.Occurs reading)
    (after : zone.toUtc reading false < instant) (before : instant < zone.toUtc reading false + weekLength)
    (shows : schedule.Occurs (zone.toLocal instant)) :
    zone.toLocal instant = reading ∨ zone.toLocal instant = reading + weekLength := by
  have offset := converts.wallOffset_bounded reading
  have bounded := zone.bounded instant
  have near : reading - weekLength < zone.toLocal instant ∧ zone.toLocal instant < reading + 2 * weekLength := by
    simp only [Zone.toUtc, Zone.toLocal, weekLength, dayLength] at *
    omega
  by_cases late : zone.toLocal instant < reading + weekLength
  · exact .inl (occurs.eq_of_near shows late (by omega))
  · exact .inr (occurs.next.eq_of_near shows (by omega) (by omega))

theorem nextScheduledTime_eq (past : schedule.latestScheduledTime zone now ≤ now) :
    schedule.nextScheduledTime zone now = schedule.latestScheduledTime zone now + weekLength := by
  simp only [nextScheduledTime, if_pos past]

/-- The next occurrence is at the same offset when it is shown seven days of universal time later, and not before. -/
theorem sameOffset_of_shown (converts : zone.Converts) {reading : Int}
    (shown : zone.toLocal (zone.toUtc reading false + weekLength) = reading + weekLength)
    (first : zone.toUtc reading false + weekLength ≤ zone.toUtc (reading + weekLength) false) :
    zone.wallOffset (reading + weekLength) false = zone.wallOffset reading false := by
  have earliest := converts.toUtc_le_of_shown shown
  simp only [Zone.toUtc] at *
  omega

theorem Holds.even (converts : zone.Converts) (holds : schedule.Holds zone now) : schedule.Even zone now := by
  obtain ⟨reading, is⟩ : ∃ reading, schedule.latestReading (zone.toLocal now) = reading := ⟨_, rfl⟩
  obtain ⟨occurs, passed, ahead⟩ := schedule.latestReading_spec (zone.toLocal now)
  have latest : schedule.latestScheduledTime zone now = zone.toUtc reading false := by rw [latestScheduledTime, is]
  have next := nextScheduledTime_eq holds.past
  have week : weekLength = 7 * dayLength := rfl
  have positive : 0 < dayLength := by decide
  rw [is] at occurs passed ahead
  rw [latest] at next
  have future := holds.future
  rw [next] at future
  have inside (instant : Int) (after : zone.toUtc reading false < instant)
      (before : instant < zone.toUtc reading false + weekLength) : ¬ schedule.Occurs (zone.toLocal instant) := by
    apply holds.noneBetween instant
    · rwa [latest]
    · rwa [next]
  have offset := converts.wallOffset_bounded reading
  refine ⟨?_, ?_, ?_, ?_⟩ <;> rw [is]
  · rw [converts.setForwardOver_iff, ← latest]
    exact fun skips => skips.2.not_ge holds.past
  · -- A second showing would be an occurrence before the next.
    have single (instant : Int) (shows : zone.toLocal instant = reading) : instant = zone.toUtc reading false := by
      by_contra differs
      have bounded := zone.bounded instant
      refine inside instant (lt_of_le_of_ne (converts.toUtc_le_of_shown shows) (Ne.symm differs)) ?_ (shows ▸ occurs)
      simp only [Zone.toLocal, Zone.toUtc] at *
      omega
    exact fun first second firstShows secondShows => (single first firstShows).trans (single second secondShows).symm
  · intro shown
    have shows := holds.nextOccurs (reading + weekLength) occurs.next ahead (by omega) shown
    rw [next] at shows
    have bounded := zone.bounded (zone.toUtc reading false + weekLength)
    have same : zone.toLocal (zone.toUtc reading false + weekLength) = reading + weekLength := by
      refine occurs.next.eq_of_near shows ?_ ?_ <;> simp only [Zone.toLocal, Zone.toUtc] at * <;> omega
    refine sameOffset_of_shown converts same (not_lt.mp fun earlier => ?_)
    -- An earlier showing would lie between the two results.
    have after : zone.toUtc reading false < zone.toUtc (reading + weekLength) false := by
      have := converts.wallOffset_bounded (reading + weekLength)
      simp only [Zone.toUtc]
      omega
    apply inside _ after earlier
    rw [converts.toLocal_toUtc shown]
    exact occurs.next
  · simp only [Zone.toUtc] at future
    omega

theorem Even.holds (converts : zone.Converts) (even : schedule.Even zone now) : schedule.Holds zone now := by
  obtain ⟨reading, is⟩ : ∃ reading, schedule.latestReading (zone.toLocal now) = reading := ⟨_, rfl⟩
  obtain ⟨occurs, passed, ahead⟩ := schedule.latestReading_spec (zone.toLocal now)
  obtain ⟨notSkipped, once, sameOffset, before⟩ := even
  have latest : schedule.latestScheduledTime zone now = zone.toUtc reading false := by rw [latestScheduledTime, is]
  rw [is] at occurs passed ahead notSkipped once sameOffset before
  have past : schedule.latestScheduledTime zone now ≤ now := by
    rw [converts.setForwardOver_iff, not_and, not_lt] at notSkipped
    exact latest ▸ notSkipped passed
  have next := nextScheduledTime_eq past
  have following (shown : zone.Shown (reading + weekLength)) :
      zone.toUtc (reading + weekLength) false = zone.toUtc reading false + weekLength := by
    have := sameOffset shown
    simp only [Zone.toUtc]
    omega
  rw [latest] at next
  refine ⟨past, ?_, ?_, ?_, ?_⟩
  · rw [next]
    simp only [Zone.toUtc]
    omega
  · intro other otherOccurs otherPassed otherAhead shown
    rw [latest]
    obtain rfl : other = reading := occurs.eq_of_near otherOccurs (by omega) (by omega)
    exact (converts.toLocal_toUtc shown).symm ▸ occurs
  · intro other otherOccurs otherAhead otherNear shown
    rw [next]
    obtain rfl : other = reading + weekLength := occurs.next.eq_of_near otherOccurs (by omega) (by omega)
    rw [← following shown, converts.toLocal_toUtc shown]
    exact occurs.next
  · intro instant after early shows
    rw [latest] at after
    rw [next] at early
    rcases occurs_between converts occurs after early shows with same | later
    · exact after.ne' (once instant _ same (converts.toLocal_toUtc ⟨instant, same⟩))
    · have := converts.toUtc_le_of_shown later
      have := following ⟨instant, later⟩
      omega

end
end WeeklySchedule

/-- The schedule holds exactly in the weeks in which seven days of universal time are a week on the clock. -/
theorem weekly_schedule_holds_iff (schedule : WeeklySchedule) {zone : Zone} (converts : zone.Converts) (now : Int) :
    schedule.Holds zone now ↔ schedule.Even zone now :=
  ⟨WeeklySchedule.Holds.even converts, WeeklySchedule.Even.holds converts⟩

/-! ## The week in which the clock is set forward -/

/-- "15 3 * * 0" -/
def sundayMorning : WeeklySchedule := ⟨⟨15, by decide⟩, ⟨3, by decide⟩, ⟨0, by decide⟩⟩

/-- Los Angeles in 2026: at 02:00 of the eighth of March the clock was set forward by an hour. -/
def losAngeles : Zone := .single (seconds 1772964000) (-28800000000) (-25200000000) Zone.standardTime Zone.daylightTime

theorem sunday_holds_in_utc : sundayMorning.Holds .utc (seconds 1772668800) := by
  have steady (instant : Int) : Zone.utc.toLocal instant = instant := by simp [Zone.utc, Zone.single, Zone.toLocal]
  have offset (reading : Int) : Zone.utc.wallOffset reading false = 0 := by simp [Zone.utc, Zone.single]
  refine (weekly_schedule_holds_iff sundayMorning Zone.utc_converts _).mpr ⟨?_, ?_, ?_, ?_⟩
  · exact fun skips => skips.1 ⟨_, steady _⟩
  · intro first second firstShows secondShows
    rw [steady] at firstShows secondShows
    exact firstShows.trans secondShows.symm
  · intro _
    rw [offset, offset]
  · rw [offset, steady]
    decide

/-- The next check is at 04:15 on the clock, the occurrence at 03:15 is before it. -/
theorem sunday_late_after_change :
    sundayMorning.nextScheduledTime losAngeles (seconds 1772668800) = seconds 1772968500 ∧
      losAngeles.toLocal (seconds 1772968500) = wallAt (dateOf (losAngeles.toLocal (seconds 1772968500))) 255 ∧
      ¬ sundayMorning.Holds losAngeles (seconds 1772668800) := by
  refine ⟨by decide, by decide, fun holds => ?_⟩
  -- 03:15 on the eighth of March is an hour before the next check.
  refine holds.noneBetween (seconds 1772964900) (by decide) (by decide) ⟨20520, by decide, by decide⟩

end PowerMonitor.Sources
