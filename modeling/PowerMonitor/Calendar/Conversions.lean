import PowerMonitor.Calendar.Zone

/-! Conversions of local readings to instants.

The local clock may be set forward, so that some readings are never shown, or back, so that some are shown
twice. A reading with fold 0 stands for the first instant that shows it. One that is never shown is resolved
with the offset before the change that skips it.
-/

set_option autoImplicit false
namespace PowerMonitor.Calendar

namespace Zone
variable {zone : Zone} {wall instant : Int}

variable (zone) in
def Shown (wall : Int) : Prop := ∃ instant, zone.toLocal instant = wall

variable (zone) in
/-- The change sets the clock forward over the reading. -/
def SkippedAt (change wall : Int) : Prop := zone.toLocal (change - 1) < wall ∧ wall < zone.toLocal change

variable (zone) in
/-- The clock was set back over the reading and has not come to it again. -/
def SetBackOver (wall instant : Int) : Prop :=
  zone.toLocal instant < wall ∧ ∃ earlier ≤ instant, wall ≤ zone.toLocal earlier

variable (zone) in
/-- The clock was set forward over the reading, and would not have come to it by itself. -/
def SetForwardOver (wall instant : Int) : Prop :=
  ¬ zone.Shown wall ∧ ∃ change ≤ instant, zone.SkippedAt change wall ∧ instant + zone.utcoffset (change - 1) < wall

variable (zone) in
/-- What `datetime` promises about readings with fold 0, and a clock that is set back only over
readings that it has shown. -/
structure Converts : Prop where
  first : ∀ instant, zone.toUtc (zone.toLocal instant) false ≤ instant
  same : ∀ instant, zone.toLocal (zone.toUtc (zone.toLocal instant) false) = zone.toLocal instant
  skipped : ∀ change wall, ¬ zone.Shown wall → zone.SkippedAt change wall →
    zone.wallOffset wall false = zone.utcoffset (change - 1)
  setBack : ∀ earlier later wall, earlier ≤ later → zone.toLocal later ≤ wall → wall ≤ zone.toLocal earlier →
    ∃ instant ≤ earlier, zone.toLocal instant = wall

variable (zone) in
/-- The instant of the midnight of a date: `datetime.combine(day, time.min, tzinfo=zone).astimezone(UTC)` -/
def midnight (day : Int) : Int := zone.toUtc (wallAt day 0) false

variable (zone) in
/-- The clock is never set forward by more than a day. -/
def DaysInOrder : Prop := ∀ wall, zone.toUtc wall false ≤ zone.toUtc (wall + dayLength) false

/-- The clock comes to every reading that it does not show by a change that skips it. -/
theorem exists_skippedAt (missing : ¬ zone.Shown wall) : ∃ change, zone.SkippedAt change wall := by
  have early : zone.toLocal (wall - dayLength) < wall := by
    have := (zone.bounded (wall - dayLength)).2
    simp only [toLocal]
    omega
  have late : wall < zone.toLocal (wall + dayLength) := by
    have := (zone.bounded (wall + dayLength)).1
    simp only [toLocal]
    omega
  have ordered : wall - dayLength ≤ wall + dayLength := by
    have : 0 ≤ dayLength := by decide
    omega
  -- The last instant that shows less than the reading is just before the change.
  revert late
  refine Int.leInduction (motive := fun last _ => wall < zone.toLocal last → _) ?_ ?_ _ ordered
  · exact fun late => absurd late early.le.not_gt
  · intro last _ ih late
    by_cases before : zone.toLocal last < wall
    · exact ⟨last + 1, by rwa [add_sub_cancel_right], late⟩
    · exact ih (lt_of_le_of_ne (not_lt.mp before) fun same => missing ⟨last, same.symm⟩)

namespace Converts
variable (converts : zone.Converts)
include converts

theorem toUtc_le_of_shown (shown : zone.toLocal instant = wall) : zone.toUtc wall false ≤ instant :=
  shown ▸ converts.first instant

theorem toLocal_toUtc (shown : zone.Shown wall) : zone.toLocal (zone.toUtc wall false) = wall := by
  obtain ⟨instant, rfl⟩ := shown
  exact converts.same instant

/-- A reading that the clock has passed and comes back to was shown before. -/
theorem shown_by (ordered : instant ≤ zone.toUtc wall false) (shown : zone.Shown wall)
    (passed : wall ≤ zone.toLocal instant) : zone.toUtc wall false ≤ instant := by
  obtain ⟨first, before, same⟩ :=
    converts.setBack instant _ wall ordered (converts.toLocal_toUtc shown).le passed
  exact (converts.toUtc_le_of_shown same).trans before

/-- The conversion of a skipped reading carries the clock before the change on. -/
theorem toUtc_skipped {change : Int} (missing : ¬ zone.Shown wall) (skips : zone.SkippedAt change wall) :
    zone.toUtc wall false = wall - zone.utcoffset (change - 1) := by
  rw [toUtc, converts.skipped change wall missing skips]

theorem change_le_toUtc {change : Int} (missing : ¬ zone.Shown wall) (skips : zone.SkippedAt change wall) :
    change ≤ zone.toUtc wall false := by
  have before := skips.1
  rw [converts.toUtc_skipped missing skips]
  simp only [toLocal] at before
  omega

theorem passed_of_change {change : Int} (missing : ¬ zone.Shown wall) (skips : zone.SkippedAt change wall)
    (after : change ≤ instant) : wall < zone.toLocal instant := by
  by_contra behind
  obtain ⟨shown, -, same⟩ := converts.setBack change instant wall after (not_lt.mp behind) skips.2.le
  exact missing ⟨shown, same⟩

/-- The instant of a reading shows the reading, or a later one when it is skipped. -/
theorem le_toLocal_toUtc (wall : Int) : wall ≤ zone.toLocal (zone.toUtc wall false) := by
  by_cases shown : zone.Shown wall
  · exact (converts.toLocal_toUtc shown).ge
  · obtain ⟨change, skips⟩ := exists_skippedAt shown
    exact (converts.passed_of_change shown skips (converts.change_le_toUtc shown skips)).le

theorem setBackOver_iff : zone.SetBackOver wall instant ↔
    zone.toUtc wall false ≤ instant ∧ zone.toLocal instant < wall := by
  constructor
  · rintro ⟨behind, earlier, before, passed⟩
    obtain ⟨first, firstBefore, same⟩ := converts.setBack earlier instant wall before behind.le passed
    exact ⟨(converts.toUtc_le_of_shown same).trans (firstBefore.trans before), behind⟩
  · rintro ⟨reached, behind⟩
    exact ⟨behind, _, reached, converts.le_toLocal_toUtc wall⟩

theorem setForwardOver_iff : zone.SetForwardOver wall instant ↔
    wall ≤ zone.toLocal instant ∧ instant < zone.toUtc wall false := by
  constructor
  · rintro ⟨missing, change, after, skips, short⟩
    refine ⟨(converts.passed_of_change missing skips after).le, ?_⟩
    rw [converts.toUtc_skipped missing skips]
    omega
  · rintro ⟨passed, early⟩
    have missing : ¬ zone.Shown wall := fun shown =>
      (converts.shown_by early.le shown passed).not_gt early
    obtain ⟨change, skips⟩ := exists_skippedAt missing
    have after : change ≤ instant := by
      -- Before the change the clock had not come to the reading, and it is not set back to before it.
      by_contra before
      obtain ⟨shown, -, same⟩ := converts.setBack instant (change - 1) wall (by omega) skips.1.le passed
      exact missing ⟨shown, same⟩
    refine ⟨missing, change, after, skips, ?_⟩
    rw [converts.toUtc_skipped missing skips] at early
    omega

theorem wallOffset_bounded (wall : Int) :
    -dayLength < zone.wallOffset wall false ∧ zone.wallOffset wall false < dayLength := by
  by_cases shown : zone.Shown wall
  · have read := converts.toLocal_toUtc shown
    have same : zone.wallOffset wall false = zone.utcoffset (zone.toUtc wall false) := by
      rw [toLocal] at read
      nth_rewrite 1 [toUtc] at read
      omega
    exact same ▸ zone.bounded _
  · obtain ⟨change, skips⟩ := exists_skippedAt shown
    exact converts.skipped change wall shown skips ▸ zone.bounded _

end Converts

theorem midnight_le_midnight (days : zone.DaysInOrder) {first last : Int} (ordered : first ≤ last) :
    zone.midnight first ≤ zone.midnight last := by
  induction last, ordered using Int.leInduction with
  | base => exact le_rfl
  | succ last _ ih =>
      have next : wallAt (last + 1) 0 = wallAt last 0 + dayLength := by
        simp only [wallAt, dayLength]
        omega
      calc zone.midnight first ≤ zone.midnight last := ih
        _ ≤ zone.midnight (last + 1) := by
            rw [midnight, midnight, next]
            exact days (wallAt last 0)

/-! ## One transition -/

section Single
variable {change before after : Int} {boundedBefore : -dayLength < before ∧ before < dayLength}
  {boundedAfter : -dayLength < after ∧ after < dayLength}

theorem single_converts : (single change before after boundedBefore boundedAfter).Converts where
  first instant := by
    simp only [toUtc, single, toLocal, Bool.false_eq_true, if_false]
    split <;> split <;> omega
  same instant := by
    simp only [toUtc, single, toLocal, Bool.false_eq_true, if_false]
    split <;> split <;> split <;> omega
  skipped moment wall _ skips := by
    simp only [SkippedAt, toLocal, single] at skips ⊢
    simp only [Bool.false_eq_true, if_false]
    split at skips <;> split at skips <;> split <;> omega
  setBack earlier later wall ordered behind passed := by
    refine ⟨if wall < change + before then wall - before else wall - after, ?_, ?_⟩ <;>
      simp only [toLocal, single] at behind passed ⊢ <;>
      split at behind <;> split at passed <;> (try split) <;> (try split) <;> omega

theorem single_daysInOrder (small : after - before ≤ dayLength) :
    (single change before after boundedBefore boundedAfter).DaysInOrder := by
  intro wall
  have positive : 0 ≤ dayLength := by decide
  simp only [toUtc, single, Bool.false_eq_true, if_false]
  split <;> split <;> omega

end Single

theorem utc_converts : utc.Converts := single_converts

theorem utc_daysInOrder : utc.DaysInOrder := single_daysInOrder (by decide)

end Zone
end PowerMonitor.Calendar
