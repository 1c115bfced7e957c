import PowerMonitor.Ingestion.Safety
import PowerMonitor.Calendar.Conversions
import PowerMonitor.Calendar.Months
import PowerMonitor.Library.Dict
import PowerMonitor.Library.Tiling

/-! Daily and monthly rollups of one device.

The worker refreshes the rows of today and yesterday from the stored intervals, and the rows of this month
and the one before it from the daily rows. A row of any other day keeps the figures of its last refresh,
while a sensor may deliver readings of any age.
-/

set_option autoImplicit false
namespace PowerMonitor.Ingestion
open Library Calendar

/-! ## The rows -/

structure RollupFigures where
  energyWh : Rat
  peakWatts : Rat
  coveragePercent : Rat
  deriving DecidableEq, Repr

structure DeviceRollup extends RollupFigures where
  calculatedAt : Int
  deriving DecidableEq, Repr

/-- The rows of one device by `local_date` or `month_start`, which completes their primary key. -/
structure RollupTable where
  rows : List (Int × DeviceRollup)
  keyed : (rows.map Prod.fst).Nodup

namespace RollupTable

def empty : RollupTable := ⟨[], List.nodup_nil⟩

/-- Update the row of a date, or add one. -/
def put (table : RollupTable) (date : Int) (rollup : DeviceRollup) : RollupTable :=
  ⟨setKey date rollup table.rows, nodup_setKey table.keyed⟩

theorem mem_put {table : RollupTable} {date : Int} {rollup : DeviceRollup} {entry : Int × DeviceRollup} :
    entry ∈ (table.put date rollup).rows ↔
      entry = (date, rollup) ∨ (entry.1 ≠ date ∧ entry ∈ table.rows) := by
  have found : (table.put date rollup).rows.lookup entry.1 =
      if entry.1 = date then some rollup else table.rows.lookup entry.1 := lookup_setKey ..
  constructor
  · intro member
    rw [lookup_of_mem (table.put date rollup).keyed member] at found
    split at found
    · next same => exact .inl (Prod.ext same (Option.some.inj found))
    · next other => exact .inr ⟨other, lookup_mem found.symm⟩
  · rintro (rfl | ⟨other, member⟩)
    · rw [if_pos rfl] at found
      exact lookup_mem found
    · rw [if_neg other, lookup_of_mem table.keyed member] at found
      exact lookup_mem found

/-- Put the rows of some dates, each computed from its date. -/
def putAll (table : RollupTable) (dates : List Int) (value : Int → DeviceRollup) : RollupTable :=
  dates.foldl (fun table date => table.put date (value date)) table

theorem mem_putAll {table : RollupTable} {dates : List Int} {value : Int → DeviceRollup} {entry : Int × DeviceRollup} :
    entry ∈ (table.putAll dates value).rows ↔
      (entry.1 ∈ dates ∧ entry.2 = value entry.1) ∨ (entry.1 ∉ dates ∧ entry ∈ table.rows) := by
  induction dates generalizing table with
  | nil => simp [putAll]
  | cons date rest ih =>
      have first : table.putAll (date :: rest) value = (table.put date (value date)).putAll rest value := rfl
      rw [first, ih, mem_put, List.mem_cons]
      by_cases later : entry.1 ∈ rest
      · simp [later]
      · by_cases here : entry.1 = date
        · have same : entry = (date, value date) ↔ entry.2 = value entry.1 := by
            rw [here, Prod.ext_iff]
            exact and_iff_right here
          have absent : date ∉ rest := here ▸ later
          simp [absent, here, same]
        · have other : entry ≠ (date, value date) := fun same => here (congrArg Prod.fst same)
          simp [later, here, other]

end RollupTable

namespace NormalizedInterval
variable (interval : NormalizedInterval)

/-- `selected_energy_wh or Decimal("0")` -/
def energyOrZero : Rat := interval.energy.selectedEnergyWh.getD 0

def totalSeconds : Rat := ((interval.intervalEnd - interval.intervalStart : Int) : Rat) / 1000000

def averageWatts : Rat := interval.energyOrZero * 3600 / interval.totalSeconds

end NormalizedInterval

/-- `max(values, default=Decimal("0"))` -/
def peakOf (values : List Rat) : Rat := values.max?.getD 0

def dayFigures (rows : List NormalizedInterval) (daySeconds : Rat) : RollupFigures :=
  { energyWh := (rows.map NormalizedInterval.energyOrZero).sum
    peakWatts := peakOf ((rows.filter fun row => row.intervalStart < row.intervalEnd).map
      NormalizedInterval.averageWatts)
    coveragePercent :=
      if daySeconds = 0 then 0
      else min 100 ((rows.map NormalizedInterval.totalSeconds).sum / daySeconds * 100) }

def monthFigures (rows : List DeviceRollup) : RollupFigures :=
  { energyWh := (rows.map fun row => row.energyWh).sum
    peakWatts := peakOf (rows.map fun row => row.peakWatts)
    coveragePercent :=
      if rows = [] then 0 else (rows.map fun row => row.coveragePercent).sum / rows.length }

/-! ## The worker -/

structure RollupState where
  store : DeviceStore
  daily : RollupTable
  monthly : RollupTable

section Worker
variable (zone : Zone)

/-- The stored intervals that start in a local day: from its midnight to the next. -/
def dayRows (intervals : List NormalizedInterval) (day : Int) : List NormalizedInterval :=
  window NormalizedInterval.intervalStart intervals (zone.midnight day) (zone.midnight (day + 1))

def daySeconds (day : Int) : Rat := ((zone.midnight (day + 1) - zone.midnight day : Int) : Rat) / 1000000

def refreshDay (now : Int) (state : RollupState) (offset : Int) : RollupState :=
  let localDay := zone.localDate now - offset
  let figures := dayFigures (dayRows zone state.store.normalizedIntervals localDay) (daySeconds zone localDay)
  { state with daily := state.daily.put localDay { figures with calculatedAt := now } }

/-- Year and month at a distance of at most one month. -/
def monthBefore (today : Int) (offset : Nat) : Int × Nat :=
  let month := (monthDay today).month - offset
  if month = 0 then (yearOf today - 1, 12) else (yearOf today, month)

def nextMonth (year : Int) (month : Nat) : Int :=
  if month = 12 then dateFrom (year + 1) 1 1 else dateFrom year (month + 1) 1

def refreshMonth (now : Int) (state : RollupState) (offset : Nat) : RollupState :=
  let (year, month) := monthBefore (zone.localDate now) offset
  let start := dateFrom year month 1
  let entries := state.daily.rows.filter fun entry => InWindow Prod.fst start (nextMonth year month) entry
  { state with monthly := state.monthly.put start { monthFigures (entries.map Prod.snd) with calculatedAt := now } }

/-- The part of `recompute_recent_rollups` for one device with a site. -/
def recomputeRecentRollups (now : Int) (state : RollupState) : RollupState :=
  [0, 1].foldl (refreshMonth zone now) ([0, 1].foldl (refreshDay zone now) state)

/-- A batch of the sensor, or a pass of the worker, which leaves out a device that is revoked or has no site. -/
inductive RollupCall where
  | ingest (batch : Batch) (now : Int)
  | recompute (now : Int) (selected : Bool)

variable (readingContentHash : Reading → String)

def rollupStep (state : RollupState) : RollupCall → RollupState
  | .ingest batch now => { state with store := ingestCall readingContentHash state.store (batch, now) }
  | .recompute now selected => if selected then recomputeRecentRollups zone now state else state

def rollupRun (state : RollupState) (calls : List RollupCall) : RollupState :=
  calls.foldl (rollupStep zone readingContentHash) state

end Worker

/-! ## What the rows stand for -/

section Spec
variable (zone : Zone)

/-- The first day of the month after that of a date. -/
def monthEnd (date : Int) : Int := monthStart (monthIndex date + 1)

def monthEnergy (intervals : List NormalizedInterval) (date : Int) : Rat :=
  windowTotal NormalizedInterval.energyOrZero NormalizedInterval.intervalStart intervals (zone.midnight date)
    (zone.midnight (monthEnd date))

/-- The rows give the figures of a list of intervals. -/
structure Reflects (intervals : List NormalizedInterval) (daily monthly : RollupTable) : Prop where
  days : ∀ entry ∈ daily.rows,
    entry.2.toRollupFigures = dayFigures (dayRows zone intervals entry.1) (daySeconds zone entry.1)
  present : ∀ day, dayRows zone intervals day ≠ [] → ∃ entry ∈ daily.rows, entry.1 = day
  firsts : ∀ entry ∈ monthly.rows, entry.1 = monthStart (monthIndex entry.1)
  months : ∀ entry ∈ monthly.rows, entry.2.energyWh = monthEnergy zone intervals entry.1

def RollupState.Converged (state : RollupState) : Prop :=
  Reflects zone state.store.normalizedIntervals state.daily state.monthly

/-- An interval starts today or yesterday. -/
def Recent (now : Int) (interval : NormalizedInterval) : Prop :=
  InWindow NormalizedInterval.intervalStart (zone.midnight (zone.localDate now - 1))
    (zone.midnight (zone.localDate now + 1)) interval

instance (now : Int) (interval : NormalizedInterval) : Decidable (Recent zone now interval) :=
  inferInstanceAs (Decidable (InWindow ..))

variable (readingContentHash : Reading → String)

/-- Each pass of the worker comes while every interval stored since the pass before is recent, and passes over
the device only when there is none. The number is that of the intervals stored at the pass before. -/
def Timely : Nat → RollupState → List RollupCall → Prop
  | _, _, [] => True
  | passed, state, .ingest batch now :: later =>
      Timely passed (rollupStep zone readingContentHash state (.ingest batch now)) later
  | passed, state, .recompute now selected :: later =>
      (∀ interval ∈ state.store.normalizedIntervals.drop passed, selected = true ∧ Recent zone now interval) ∧
      Timely state.store.normalizedIntervals.length
        (rollupStep zone readingContentHash state (.recompute now selected)) later

def decideTimely : ∀ passed state calls, Decidable (Timely zone readingContentHash passed state calls)
  | _, _, [] => isTrue trivial
  | passed, state, .ingest batch now :: later =>
      decideTimely passed (rollupStep zone readingContentHash state (.ingest batch now)) later
  | passed, state, .recompute now selected :: later =>
      haveI := decideTimely state.store.normalizedIntervals.length
        (rollupStep zone readingContentHash state (.recompute now selected)) later
      inferInstanceAs (Decidable ((∀ interval ∈ state.store.normalizedIntervals.drop passed, _ ∧ _) ∧ _))

instance (passed : Nat) (state : RollupState) (calls : List RollupCall) :
    Decidable (Timely zone readingContentHash passed state calls) := decideTimely zone readingContentHash ..

end Spec

/-! ## Days and months -/

theorem monthBefore_spec (today : Int) {offset : Nat} (near : offset ≤ 1) :
    dateFrom (monthBefore today offset).1 (monthBefore today offset).2 1 = monthStart (monthIndex today - offset) ∧
    nextMonth (monthBefore today offset).1 (monthBefore today offset).2 =
      monthStart (monthIndex today - offset + 1) := by
  have valid := monthDay_valid today
  obtain ⟨first, last, -⟩ := valid
  have number : (monthBefore today offset).1 * 12 + (monthBefore today offset).2 - 1 = monthIndex today - offset ∧
      1 ≤ (monthBefore today offset).2 ∧ (monthBefore today offset).2 ≤ 12 := by
    simp only [monthBefore, monthIndex]
    split <;> dsimp only <;> omega
  obtain ⟨number, positive, limit⟩ := number
  constructor
  · rw [dateFrom_eq positive limit, number]
    omega
  · rw [nextMonth]
    split
    · next december =>
        rw [dateFrom_eq (by omega) (by omega), ← number, december]
        push_cast
        ring_nf
    · rw [dateFrom_eq (by omega) (by omega), ← number]
      push_cast
      ring_nf

/-! ## A pass of the worker -/

section Pass
variable {zone : Zone} {now : Int} {state : RollupState}

variable (zone now) in
def dayRollup (intervals : List NormalizedInterval) (day : Int) : DeviceRollup :=
  { dayFigures (dayRows zone intervals day) (daySeconds zone day) with calculatedAt := now }

variable (now) in
def monthRollup (daily : RollupTable) (date : Int) : DeviceRollup :=
  { monthFigures ((daily.rows.filter fun entry => InWindow Prod.fst date (monthEnd date) entry).map Prod.snd) with
    calculatedAt := now }

variable (zone now) in
/-- Today and yesterday. -/
def refreshedDays : List Int := [zone.localDate now, zone.localDate now - 1]

variable (zone now) in
/-- The first days of this month and of the one before it. -/
def refreshedMonths : List Int :=
  [monthStart (monthIndex (zone.localDate now)), monthStart (monthIndex (zone.localDate now) - 1)]

theorem refreshMonth_eq {offset : Nat} (near : offset ≤ 1) : refreshMonth zone now state offset =
    { state with
      monthly := state.monthly.put (monthStart (monthIndex (zone.localDate now) - offset))
        (monthRollup now state.daily (monthStart (monthIndex (zone.localDate now) - offset))) } := by
  obtain ⟨start, next⟩ := monthBefore_spec (zone.localDate now) near
  have ends : monthEnd (monthStart (monthIndex (zone.localDate now) - offset)) =
      monthStart (monthIndex (zone.localDate now) - offset + 1) := by
    rw [monthEnd, monthIndex_eq le_rfl (monthStart_strictMono (Int.lt_add_one_iff.mpr le_rfl))]
  simp only [refreshMonth, monthRollup, ends, start, next]

/-- A pass puts the rows of two days and, from the daily rows that result, those of two months. -/
theorem recomputeRecentRollups_eq : recomputeRecentRollups zone now state =
    { state with
      daily := state.daily.putAll (refreshedDays zone now) (dayRollup zone now state.store.normalizedIntervals)
      monthly := state.monthly.putAll (refreshedMonths zone now) (monthRollup now
        (state.daily.putAll (refreshedDays zone now) (dayRollup zone now state.store.normalizedIntervals))) } := by
  have days : [0, 1].foldl (refreshDay zone now) state = { state with
      daily := state.daily.putAll (refreshedDays zone now) (dayRollup zone now state.store.normalizedIntervals) } := by
    simp only [List.foldl_cons, List.foldl_nil, refreshDay, RollupTable.putAll, refreshedDays, dayRollup, sub_zero]
  rw [recomputeRecentRollups, days, List.foldl_cons, List.foldl_cons, List.foldl_nil, refreshMonth_eq (by decide),
    refreshMonth_eq (by decide)]
  simp only [RollupTable.putAll, refreshedMonths, List.foldl_cons, List.foldl_nil, Nat.cast_zero, sub_zero, Nat.cast_one]

variable {known added : List NormalizedInterval}

/-- Recent intervals leave the windows between other midnights as they were. -/
theorem window_append_of_recent (order : zone.DaysInOrder) (recent : ∀ interval ∈ added, Recent zone now interval)
    {first last : Int} (away : last ≤ zone.localDate now - 1 ∨ zone.localDate now + 1 ≤ first) :
    window NormalizedInterval.intervalStart (known ++ added) (zone.midnight first) (zone.midnight last) =
      window NormalizedInterval.intervalStart known (zone.midnight first) (zone.midnight last) := by
  apply window_append_of_outside
  rintro interval member ⟨started, before⟩
  obtain ⟨fromYesterday, untilTomorrow⟩ := recent interval member
  cases away with
  | inl earlier =>
      have := Zone.midnight_le_midnight order earlier
      omega
  | inr later =>
      have := Zone.midnight_le_midnight order later
      omega

/-- The daily rows of a month add up to the energy of its intervals. -/
theorem sum_daily (order : zone.DaysInOrder) {daily : RollupTable} {intervals : List NormalizedInterval}
    (days : ∀ entry ∈ daily.rows,
      entry.2.toRollupFigures = dayFigures (dayRows zone intervals entry.1) (daySeconds zone entry.1))
    (present : ∀ day, dayRows zone intervals day ≠ [] → ∃ entry ∈ daily.rows, entry.1 = day) (date : Int) :
    (monthRollup now daily date).energyWh = monthEnergy zone intervals date := by
  have ordered : date ≤ monthEnd date := (lt_monthStart_succ date).le
  have total := sum_entries (fun rollup : DeviceRollup => rollup.energyWh) daily.keyed
    (fun day => windowTotal NormalizedInterval.energyOrZero NormalizedInterval.intervalStart intervals
      (zone.midnight day) (zone.midnight (day + 1))) ?_ ?_ date (monthEnd date)
  · rw [monthEnergy, ← sum_windowTotal _ _ intervals (fun first last => Zone.midnight_le_midnight order) ordered, ← total]
    simp only [monthRollup, monthFigures, List.map_map]
    rfl
  · intro entry member
    exact congrArg RollupFigures.energyWh (days entry member)
  · intro day absent
    have nothing : dayRows zone intervals day = [] := by
      by_contra some
      obtain ⟨entry, member, rfl⟩ := present day some
      exact absent (List.mem_map_of_mem member)
    show ((dayRows zone intervals day).map _).sum = 0
    rw [nothing]
    rfl

/-- A day that a pass leaves out lies before or after its two days. -/
theorem day_away {day : Int} (absent : day ∉ refreshedDays zone now) :
    day + 1 ≤ zone.localDate now - 1 ∨ zone.localDate now + 1 ≤ day := by
  have : day ≠ zone.localDate now ∧ day ≠ zone.localDate now - 1 := by simpa [refreshedDays] using absent
  omega

/-- Both days of a pass lie in the months that it refreshes. -/
theorem month_away {date : Int} (first : date = monthStart (monthIndex date)) (absent : date ∉ refreshedMonths zone now) :
    monthEnd date ≤ zone.localDate now - 1 ∨ zone.localDate now + 1 ≤ date := by
  set today := zone.localDate now with clock
  have other : monthIndex date ≠ monthIndex today ∧ monthIndex date ≠ monthIndex today - 1 := by
    constructor <;> intro same <;> exact absent (by simp [refreshedMonths, ← clock, ← same, ← first])
  rcases lt_or_ge (monthIndex date) (monthIndex today) with before | after
  · -- The month ends by the start of the one that precedes this month, and yesterday is not before that.
    left
    have ends := monthStart_strictMono.le_iff_le.mpr (show monthIndex date + 1 ≤ monthIndex today - 1 by omega)
    have next := monthStart_strictMono (show monthIndex today - 1 < monthIndex today by omega)
    have started := monthStart_le today
    rw [monthEnd]
    omega
  · right
    have starts := monthStart_strictMono.le_iff_le.mpr (show monthIndex today + 1 ≤ monthIndex date by omega)
    have ends := lt_monthStart_succ today
    omega

theorem monthIndex_monthStart (index : Int) : monthIndex (monthStart index) = index :=
  monthIndex_eq le_rfl (monthStart_strictMono (Int.lt_add_one_iff.mpr le_rfl))

section Refresh
variable (order : zone.DaysInOrder) (reflects : Reflects zone known state.daily state.monthly)
  (recent : ∀ interval ∈ added, Recent zone now interval)
include order reflects recent

/-- The daily rows after a pass, those that it leaves included. -/
theorem refreshed_days {entry : Int × DeviceRollup}
    (member : entry ∈ (state.daily.putAll (refreshedDays zone now) (dayRollup zone now (known ++ added))).rows) :
    entry.2.toRollupFigures = dayFigures (dayRows zone (known ++ added) entry.1) (daySeconds zone entry.1) := by
  rcases RollupTable.mem_putAll.mp member with ⟨_, fresh⟩ | ⟨absent, kept⟩
  · rw [fresh, dayRollup]
  · rw [dayRows, window_append_of_recent order recent (day_away absent)]
    exact reflects.days entry kept

theorem refreshed_present (day : Int) (filled : dayRows zone (known ++ added) day ≠ []) :
    ∃ entry ∈ (state.daily.putAll (refreshedDays zone now) (dayRollup zone now (known ++ added))).rows,
      entry.1 = day := by
  by_cases refreshed : day ∈ refreshedDays zone now
  · exact ⟨(day, dayRollup zone now (known ++ added) day), RollupTable.mem_putAll.mpr (.inl ⟨refreshed, rfl⟩), rfl⟩
  · rw [dayRows, window_append_of_recent order recent (day_away refreshed)] at filled
    obtain ⟨entry, member, rfl⟩ := reflects.present day filled
    exact ⟨entry, RollupTable.mem_putAll.mpr (.inr ⟨refreshed, member⟩), rfl⟩

/-- A pass over rows that reflect some intervals, with recent ones added, makes the rows reflect all. -/
theorem recompute_converged (stored : state.store.normalizedIntervals = known ++ added) :
    (recomputeRecentRollups zone now state).Converged zone := by
  have days {entry} := @refreshed_days _ _ _ _ _ order reflects recent entry
  have present := refreshed_present order reflects recent
  rw [recomputeRecentRollups_eq, RollupState.Converged]
  dsimp only
  rw [stored]
  refine ⟨fun entry member => days member, present, ?_, ?_⟩
  · intro entry member
    rcases RollupTable.mem_putAll.mp member with ⟨refreshed, _⟩ | ⟨_, kept⟩
    · rcases List.mem_pair.mp refreshed with same | same <;> rw [same, monthIndex_monthStart]
    · exact reflects.firsts entry kept
  · intro entry member
    rcases RollupTable.mem_putAll.mp member with ⟨_, fresh⟩ | ⟨absent, kept⟩
    · rw [fresh]
      exact sum_daily order (fun entry member => days member) present entry.1
    · have away := month_away (reflects.firsts entry kept) absent
      rw [reflects.months entry kept, monthEnergy, monthEnergy, windowTotal, windowTotal,
        window_append_of_recent order recent away]

end Refresh

end Pass

/-! ## Runs -/

section Run
variable {zone : Zone} {readingContentHash : Reading → String}

theorem ingestCall_intervals (store : DeviceStore) (call : Batch × Int) :
    store.normalizedIntervals <+: (ingestCall readingContentHash store call).normalizedIntervals := by
  rw [ingestCall]
  split
  · next final response ok =>
      obtain ⟨device, generation, progress, _, _, _, loop, close⟩ := ingestReadings_ok.mp ok
      obtain ⟨rfl, rfl⟩ := Prod.mk.inj close
      have opened : (openBatch store call.1 call.2 generation).normalizedIntervals = store.normalizedIntervals := by
        rw [openBatch_frame]
      have kept : store.normalizedIntervals <+: progress.store.normalizedIntervals := by
        refine foldlM_invariant (fun state => store.normalizedIntervals <+: state.store.normalizedIntervals)
          call.1.readings (by rw [opened]) ?_ loop
        intro state reading next _ turn before
        rcases ingestReading_cases turn with ⟨_, rfl⟩ | ⟨_, existing, _, _, rfl⟩ |
          ⟨_, existing, event, _, _, rfl⟩ | ⟨_, _, rfl⟩
        · exact before
        · exact before
        · exact before
        · exact before.trans (List.prefix_append ..)
      exact kept
  · exact List.prefix_refl _

variable (readingContentHash) in
/-- A pass that leaves out no recent addition, seen from the intervals of the pass before. -/
theorem recomputeStep_converged (order : zone.DaysInOrder) {known : List NormalizedInterval} {state : RollupState}
    (stored : known <+: state.store.normalizedIntervals) (reflects : Reflects zone known state.daily state.monthly)
    {now : Int} {selected : Bool} (recent : ∀ interval ∈ state.store.normalizedIntervals.drop known.length,
      selected = true ∧ Recent zone now interval) :
    (rollupStep zone readingContentHash state (.recompute now selected)).Converged zone ∧
    (rollupStep zone readingContentHash state (.recompute now selected)).store = state.store := by
  obtain ⟨added, whole⟩ := stored
  rw [← whole, List.drop_left] at recent
  rw [rollupStep]
  split
  · refine ⟨recompute_converged order reflects (fun interval member => (recent interval member).2) whole.symm, ?_⟩
    rw [recomputeRecentRollups_eq]
  · next skipped =>
      -- Nothing was stored since the pass before.
      cases added with
      | nil =>
          rw [List.append_nil] at whole
          rw [RollupState.Converged, ← whole]
          exact ⟨reflects, rfl⟩
      | cons interval rest => exact absurd (recent interval List.mem_cons_self).1 skipped

/-- What a run keeps: the rows reflect the intervals of the last pass, and more may have been added. -/
theorem converged_of_timely (order : zone.DaysInOrder) {known : List NormalizedInterval} {state : RollupState}
    (stored : known <+: state.store.normalizedIntervals) (reflects : Reflects zone known state.daily state.monthly)
    {earlier later : List RollupCall} {now : Int} {selected : Bool}
    (timely : Timely zone readingContentHash known.length state (earlier ++ .recompute now selected :: later)) :
    (rollupRun zone readingContentHash state (earlier ++ [.recompute now selected])).Converged zone := by
  induction earlier generalizing state known with
  | nil => exact (recomputeStep_converged readingContentHash order stored reflects timely.1).1
  | cons call earlier ih =>
      cases call with
      | ingest batch now => exact ih (stored.trans (ingestCall_intervals _ _)) reflects timely
      | recompute now selected =>
          obtain ⟨converged, same⟩ := recomputeStep_converged readingContentHash order stored reflects timely.1
          have rows := congrArg DeviceStore.normalizedIntervals same
          refine ih (List.prefix_refl _) converged ?_
          rw [rows]
          exact timely.2

/-- A device without readings, and so without rollups. -/
def unmeteredState : RollupState := ⟨resetStore, .empty, .empty⟩

theorem unmeteredState_converged (zone : Zone) : unmeteredState.Converged zone where
  days := by simp [unmeteredState, RollupTable.empty]
  present day filled := absurd rfl filled
  firsts := by simp [unmeteredState, RollupTable.empty]
  months := by simp [unmeteredState, RollupTable.empty]

def minuteBatch (sequence : PositiveSignedSequence) : Batch :=
  { readings := [minuteReading 1 sequence], source := .push }

/-- Two minutes of one day, the second delivered after a pass of the worker over the first. -/
def deliveredAt (later : Int) : List RollupCall :=
  [.ingest (minuteBatch ⟨6, sixth⟩) (seconds 3600), .recompute (seconds 3600) true,
    .ingest (minuteBatch ⟨7, seventh⟩) later]

end Run
end PowerMonitor.Ingestion
