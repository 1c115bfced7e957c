import Mathlib.Data.String.Basic
import PowerMonitor.History.Costs

/-! The raw strategy: every reading is cut at the bucket boundaries and added part by part.

The loop over the rows is the loops of the single buckets and sensors, since a part touches one accumulator.
-/

set_option autoImplicit false
namespace PowerMonitor.History
open Library Rates
open Assignments (RateVersion RateContext)

/-- A reading inside one bucket. -/
structure ReadingPart where
  row : SourceRow
  left : Int
  right : Int
  deriving DecidableEq

namespace ReadingPart
variable (part : ReadingPart)

def duration : Rat := secondsBetween part.row.raw.intervalStart part.row.raw.intervalEnd

def seconds : Rat := secondsBetween part.left part.right

def energyKwh : Option Rat := part.row.selectedEnergyWh.map fun selected => selected / 1000 * part.seconds / part.duration

end ReadingPart

/-! ## _add_reading -/

section AddReading
variable (engineOf : RateVersion → RateEngine) (plan : HistoryExecutionPlan) (pricing : DevicePricing)

namespace DeviceBucketAccumulator
variable (accumulator : DeviceBucketAccumulator) (part : ReadingPart)

def addCoverage : DeviceBucketAccumulator :=
  { accumulator with
    coverageRanges := accumulator.coverageRanges ++ [(part.left, part.right)]
    qualityFlags := accumulator.qualityFlags ∪ part.row.raw.qualityFlags.toFinset }

def addPower : DeviceBucketAccumulator :=
  if plan.needsPower then
    let accumulator := match part.row.raw.powerAvg with
      | some average => { accumulator with
          powerWeighted := accumulator.powerWeighted + average * part.seconds
          powerSeconds := accumulator.powerSeconds + part.seconds }
      | none => accumulator
    { accumulator with
      peakPowerW := part.row.raw.powerMax.elim accumulator.peakPowerW (keepMax accumulator.peakPowerW) }
  else accumulator

def addEnergy : Except EngineError DeviceBucketAccumulator :=
  if plan.needsEnergy then
    match part.energyKwh with
    | some energy =>
        let accumulator := { accumulator with
          energyKwh := accumulator.energyKwh + energy
          energyAvailable := true }
        if plan.needsCost then
          applyCost engineOf pricing (part.row.normalized.map NormalizedInterval.id) part.left part.right energy accumulator
        else .ok accumulator
    | none => .ok { accumulator with qualityFlags := insert "energy_unavailable" accumulator.qualityFlags }
  else .ok accumulator

def addVoltage : DeviceBucketAccumulator :=
  if plan.needsVoltage then
    match part.row.raw.voltageAvg with
    | some average => { accumulator with
        voltageWeighted := accumulator.voltageWeighted + average * part.seconds
        voltageSeconds := accumulator.voltageSeconds + part.seconds
        voltageMinV := keepMin accumulator.voltageMinV (part.row.raw.voltageMin.getD average)
        voltageMaxV := keepMax accumulator.voltageMaxV (part.row.raw.voltageMax.getD average) }
    | none => accumulator
  else accumulator

def addCurrent : DeviceBucketAccumulator :=
  if plan.needsCurrent then
    match part.row.raw.currentAvg with
    | some average => { accumulator with
        currentWeighted := accumulator.currentWeighted + average * part.seconds
        currentSeconds := accumulator.currentSeconds + part.seconds }
    | none => accumulator
  else accumulator

def addFactor : DeviceBucketAccumulator :=
  if plan.needsPowerFactor then
    match part.row.raw.powerFactor with
    | some factor =>
        let weight := abs (part.row.raw.powerAvg.getD 0) * part.seconds
        if weight = 0 then accumulator
        else { accumulator with
          factorWeighted := accumulator.factorWeighted + factor * weight
          factorWeight := accumulator.factorWeight + weight }
    | none => accumulator
  else accumulator

def addFrequency : DeviceBucketAccumulator :=
  if plan.needsFrequency then
    match part.row.raw.frequencyHz with
    | some frequency => { accumulator with
        frequencyWeighted := accumulator.frequencyWeighted + frequency * part.seconds
        frequencySeconds := accumulator.frequencySeconds + part.seconds }
    | none => accumulator
  else accumulator

/-- `_add_reading` -/
def addReading : Except EngineError DeviceBucketAccumulator :=
  if part.duration ≤ 0 ∨ part.seconds ≤ 0 then .ok accumulator
  else do
    let metered ← addEnergy engineOf plan pricing ((accumulator.addCoverage part).addPower plan part) part
    pure ((((metered.addVoltage plan part).addCurrent plan part).addFactor plan part).addFrequency plan part)

end DeviceBucketAccumulator
end AddReading

/-! ## The rows of a query -/

/-- `ORDER BY interval_start, device_id, sequence` -/
def RawReading.sortKey (raw : RawReading) : Int ×ₗ String ×ₗ Nat :=
  toLex (raw.intervalStart, toLex (raw.deviceId, raw.sequence))

def RawReading.Overlaps (raw : RawReading) (start finish : Int) : Prop := start < raw.intervalEnd ∧ raw.intervalStart < finish

instance (raw : RawReading) (start finish : Int) : Decidable (raw.Overlaps start finish) :=
  inferInstanceAs (Decidable (_ ∧ _))

section Source
variable (store : Store) (deviceIds : List String) (snapshotAt : Int)

/-- The readings of the sensors that were stored by the snapshot. -/
def Store.visible : List RawReading :=
  store.rawReadings.filter fun raw => raw.deviceId ∈ deviceIds ∧ raw.ingestedAt ≤ snapshotAt

/-- The outer join with the normalized intervals, made only where energy is asked for. -/
def Store.sourceRow (plan : HistoryExecutionPlan) (raw : RawReading) : SourceRow :=
  ⟨raw, if plan.needsEnergy then store.normalizedOf raw else none⟩

/-- `_load_source_rows`, before its limit. -/
def Store.loadSourceRows (plan : HistoryExecutionPlan) (start finish : Int) : List SourceRow :=
  (sortByKey RawReading.sortKey ((store.visible deviceIds snapshotAt).filter fun raw => raw.Overlaps start finish)).map
    (store.sourceRow plan)

end Source

/-! ## The loop over the rows -/

section Spread
variable (points : List Int)

/-- The part of a reading in a bucket. -/
def SourceRow.clip (row : SourceRow) (window : Window) : ReadingPart :=
  ⟨row, max row.raw.intervalStart window.start, min row.raw.intervalEnd window.finish⟩

/-- The parts of a reading with their slots: from the bucket of its start on, while buckets start before its end. -/
def rawParts (row : SourceRow) : List ((Nat × String) × ReadingPart) :=
  let rawStart := max (points.head?.getD 0) row.raw.intervalStart
  let rawEnd := min (points.getLast?.getD 0) row.raw.intervalEnd
  if rawEnd ≤ rawStart then []
  else
    let index := (points.countP fun point => point ≤ rawStart) - 1
    (((windows points).drop index).takeWhile fun window => window.start < rawEnd).filterMap fun window =>
      let left := max rawStart window.start
      let right := min rawEnd window.finish
      if left < right then some ((window.bucketIndex, row.raw.deviceId), ⟨row, left, right⟩) else none

/-- The aggregation loop of `query_history`. -/
def aggregateRaw (engineOf : RateVersion → RateEngine) (plan : HistoryExecutionPlan) (pricing : String → DevicePricing)
    (rows : List SourceRow) : Except EngineError Accumulators :=
  (rows.flatMap (rawParts points)).foldlM
    (updateSlot fun slot => DeviceBucketAccumulator.addReading engineOf plan (pricing slot.2)) fun _ => {}

end Spread

/-! ## What one slot receives -/

/-- The parts of a sensor's readings in a bucket. -/
def bucketParts (rows : List SourceRow) (device : String) (window : Window) : List ReadingPart :=
  (rows.filter fun row => row.raw.deviceId = device ∧ row.raw.Overlaps window.start window.finish).map
    fun row => row.clip window

section Windows
variable {points : List Int} {index : Nat} {window : Window}

theorem getElem?_windows : (windows points)[index]? = some window ↔
    ∃ left right, points[index]? = some left ∧ points[index + 1]? = some right ∧ window = ⟨index, left, right⟩ := by
  simp only [windows, List.getElem?_map, List.getElem?_zipIdx, pairwise, Option.map_map, Option.map_eq_some_iff]
  constructor
  · rintro ⟨⟨left, right⟩, found, rfl⟩
    obtain ⟨first, second⟩ := List.getElem?_zip_eq_some.mp found
    exact ⟨left, right, first, by simpa using second, by simp⟩
  · rintro ⟨left, right, first, second, rfl⟩
    exact ⟨(left, right), List.getElem?_zip_eq_some.mpr ⟨first, by simpa using second⟩, by simp⟩

theorem mem_windows (member : window ∈ windows points) : points[window.bucketIndex]? = some window.start ∧
    points[window.bucketIndex + 1]? = some window.finish := by
  obtain ⟨index, found⟩ := List.mem_iff_getElem?.mp member
  obtain ⟨left, right, first, second, rfl⟩ := getElem?_windows.mp found
  exact ⟨first, second⟩

theorem filter_windows (points : List Int) (index : Nat) :
    ((windows points).filter fun window => window.bucketIndex = index) = (windows points)[index]?.toList := by
  have numbered : ∀ (pieces : List (Int × Int)) (first : Nat),
      ((((pieces.zipIdx first).map fun piece => (⟨piece.2, piece.1.1, piece.1.2⟩ : Window)).filter fun window =>
        window.bucketIndex = index)) =
          if first ≤ index then (pieces[index - first]?.map fun piece => (⟨index, piece.1, piece.2⟩ : Window)).toList
          else [] := by
    intro pieces
    induction pieces with
    | nil => simp
    | cons piece rest ih =>
        intro first
        rw [List.zipIdx_cons, List.map_cons, List.filter_cons, ih]
        rcases Nat.lt_trichotomy first index with before | here | after
        · obtain ⟨gap, rfl⟩ : ∃ gap, index = first + 1 + gap := ⟨index - (first + 1), by omega⟩
          rw [if_neg (by simp only [decide_eq_true_eq]; omega), if_pos (by omega), if_pos (by omega),
            show first + 1 + gap - first = gap + 1 by omega, Nat.add_sub_cancel_left, List.getElem?_cons_succ]
        · subst here
          rw [if_pos (by simp), if_neg (by omega), if_pos le_rfl, Nat.sub_self]
          rfl
        · rw [if_neg (by simp only [decide_eq_true_eq]; omega), if_neg (by omega), if_neg (by omega)]
  rw [windows, numbered, if_pos (Nat.zero_le _), Nat.sub_zero, List.getElem?_map, List.getElem?_zipIdx, Option.map_map]
  simp [Function.comp_def]

variable (rising : points.Pairwise (· < ·))
include rising

theorem windows_proper (member : window ∈ windows points) : window.start < window.finish := by
  obtain ⟨first, second⟩ := mem_windows member
  obtain ⟨early, start⟩ := List.getElem?_eq_some_iff.mp first
  obtain ⟨late, finish⟩ := List.getElem?_eq_some_iff.mp second
  rw [← start, ← finish]
  exact List.pairwise_iff_getElem.mp rising _ _ early late (Nat.lt_succ_self _)

theorem head_le_of_mem {point : Int} (member : point ∈ points) : points.head?.getD 0 ≤ point := by
  cases points with
  | nil => simp at member
  | cons head rest =>
      cases List.mem_cons.mp member with
      | inl here => exact here.symm.le
      | inr later => exact ((List.pairwise_cons.mp rising).1 point later).le

theorem le_last_of_mem {point : Int} (member : point ∈ points) : point ≤ points.getLast?.getD 0 := by
  obtain ⟨front, last, rfl⟩ := (List.eq_nil_or_concat' points).resolve_left (List.ne_nil_of_mem member)
  rw [List.getLast?_concat, Option.getD_some]
  cases List.mem_append.mp member with
  | inl before => exact ((List.pairwise_append.mp rising).2.2 point before last (by simp)).le
  | inr here => exact (List.mem_singleton.mp here).le

theorem le_of_lt_countP {value point : Int} (found : points[index]? = some point)
    (early : index < points.countP fun point => point ≤ value) : point ≤ value := by
  induction points generalizing index with
  | nil => simp at found
  | cons head rest ih =>
      obtain ⟨first, rising⟩ := List.pairwise_cons.mp rising
      by_cases reached : head ≤ value
      · cases index with
        | zero => exact (Option.some.inj found) ▸ reached
        | succ index =>
            rw [List.countP_cons_of_pos (by simpa using reached)] at early
            exact ih rising (by simpa using found) (by omega)
      · -- Nothing after a point above the value is counted.
        rw [List.countP_cons_of_neg (by simpa using reached), List.countP_eq_zero.mpr] at early
        · omega
        · intro other member
          have := first other member
          simp only [decide_eq_true_eq]
          omega

end Windows

section Slots
variable {points : List Int}

theorem slotItems_filterMap (device : String) (index : Nat) (row : SourceRow) (reached : Window → Prop)
    [DecidablePred reached] (part : Window → ReadingPart) (listed : List Window) :
    slotItems (index, device) (listed.filterMap fun window =>
      if reached window then some ((window.bucketIndex, row.raw.deviceId), part window) else none) =
        ((listed.filter fun window => window.bucketIndex = index).filter fun window =>
          row.raw.deviceId = device ∧ reached window).map part := by
  induction listed with
  | nil => rfl
  | cons window rest ih =>
      rw [List.filterMap_cons, List.filter_cons]
      by_cases here : window.bucketIndex = index <;> by_cases taken : reached window <;>
        by_cases mine : row.raw.deviceId = device <;> simp_all [slotItems_cons]

/-- Windows that a loop skips or never reaches do not matter when they yield nothing. -/
theorem filterMap_takeWhile_drop {Item Value : Type} {items : List Item} (index : Nat) (reached : Item → Bool)
    (yield : Item → Option Value) (skipped : ∀ item ∈ items.take index, yield item = none)
    (stopped : items.Pairwise fun item next => reached item = false → reached next = false)
    (beyond : ∀ item ∈ items, reached item = false → yield item = none) :
    ((items.drop index).takeWhile reached).filterMap yield = items.filterMap yield := by
  have taken : ∀ listed : List Item, (∀ item ∈ listed, reached item = false → yield item = none) →
      (listed.Pairwise fun item next => reached item = false → reached next = false) →
      (listed.takeWhile reached).filterMap yield = listed.filterMap yield := by
    intro listed
    induction listed with
    | nil => exact fun _ _ => rfl
    | cons item rest ih =>
        intro beyond stopped
        obtain ⟨first, later⟩ := List.pairwise_cons.mp stopped
        cases goes : reached item with
        | true =>
            rw [List.takeWhile_cons_of_pos goes, List.filterMap_cons, List.filterMap_cons,
              ih (fun other member => beyond other (List.mem_cons_of_mem _ member)) later]
        | false =>
            rw [List.takeWhile_cons_of_neg (by simp [goes]), List.filterMap_nil, eq_comm, List.filterMap_eq_nil_iff]
            intro other member
            cases List.mem_cons.mp member with
            | inl here => exact here ▸ beyond item List.mem_cons_self goes
            | inr deeper => exact beyond other member (first other deeper goes)
  rw [taken _ (fun item member => beyond item (List.mem_of_mem_drop member)) (stopped.sublist (List.drop_sublist _ _))]
  conv_rhs => rw [← List.take_append_drop index items, List.filterMap_append, List.filterMap_eq_nil_iff.mpr skipped]
  rfl

theorem windows_rising (rising : points.Pairwise (· < ·)) :
    (windows points).Pairwise fun window next => window.start < next.start ∧ window.finish < next.finish := by
  rw [List.pairwise_iff_getElem]
  intro first second early late before
  obtain ⟨left, right, start, finish, same⟩ := getElem?_windows.mp (List.getElem?_eq_getElem early)
  obtain ⟨next, last, later, end_, equal⟩ := getElem?_windows.mp (List.getElem?_eq_getElem late)
  rw [same, equal]
  obtain ⟨_, rfl⟩ := List.getElem?_eq_some_iff.mp start
  obtain ⟨_, rfl⟩ := List.getElem?_eq_some_iff.mp later
  obtain ⟨_, rfl⟩ := List.getElem?_eq_some_iff.mp finish
  obtain ⟨_, rfl⟩ := List.getElem?_eq_some_iff.mp end_
  exact ⟨List.pairwise_iff_getElem.mp rising _ _ _ _ before,
    List.pairwise_iff_getElem.mp rising _ _ _ _ (Nat.succ_lt_succ before)⟩

theorem slotItems_rawParts (rising : points.Pairwise (· < ·)) (row : SourceRow) (index : Nat) (device : String) :
    slotItems (index, device) (rawParts points row) =
      (windows points)[index]?.toList.flatMap (bucketParts [row] device) := by
  -- Inside a window the clipping to the work range changes nothing.
  have inside : ∀ window ∈ windows points, points.head?.getD 0 ≤ window.start ∧ window.finish ≤ points.getLast?.getD 0 := by
    intro window member
    obtain ⟨first, second⟩ := mem_windows member
    exact ⟨head_le_of_mem rising (List.mem_of_getElem? first), le_last_of_mem rising (List.mem_of_getElem? second)⟩
  have proper : ∀ window ∈ windows points, window.start < window.finish := fun window member => windows_proper rising member
  have valid := row.raw.validInterval
  generalize starts : points.head?.getD 0 = workStart at inside
  generalize ends : points.getLast?.getD 0 = workEnd at inside
  have whole : ((windows points).filter fun window => window.bucketIndex = index).filter (fun window =>
      row.raw.deviceId = device ∧ max (max workStart row.raw.intervalStart) window.start <
        min (min workEnd row.raw.intervalEnd) window.finish) =
      ((windows points)[index]?.toList.filter fun window =>
        row.raw.deviceId = device ∧ row.raw.Overlaps window.start window.finish) := by
    rw [filter_windows]
    apply List.filter_congr
    intro window member
    have listed : window ∈ windows points := List.mem_of_getElem? (Option.mem_toList.mp member)
    have bounds := inside window listed
    have positive := proper window listed
    refine decide_eq_decide.mpr (and_congr_right fun _ => ?_)
    rw [RawReading.Overlaps]
    omega
  have clipped : ∀ window ∈ windows points,
      (⟨row, max (max workStart row.raw.intervalStart) window.start, min (min workEnd row.raw.intervalEnd) window.finish⟩ :
        ReadingPart) = row.clip window := by
    intro window member
    have bounds := inside window member
    rw [SourceRow.clip]
    congr 1 <;> omega
  have parts : ((((windows points)[index]?.toList.filter fun window =>
      row.raw.deviceId = device ∧ row.raw.Overlaps window.start window.finish).map fun window =>
        (⟨row, max (max workStart row.raw.intervalStart) window.start,
          min (min workEnd row.raw.intervalEnd) window.finish⟩ : ReadingPart))) =
      (windows points)[index]?.toList.flatMap (bucketParts [row] device) := by
    cases found : (windows points)[index]? with
    | none => rfl
    | some window =>
        have member := List.mem_of_getElem? found
        simp only [Option.toList_some, List.flatMap_singleton, bucketParts, List.filter_cons, List.filter_nil]
        split
        · rw [List.map_singleton, List.map_singleton, clipped window member]
        · rfl
  rw [rawParts, starts, ends]
  dsimp only
  split
  · -- The reading misses the whole range, hence every window.
    next apart =>
      rw [← parts, ← whole]
      symm
      rw [slotItems_nil, List.map_eq_nil_iff, List.filter_eq_nil_iff]
      intro window member
      simp only [decide_eq_true_eq]
      omega
  · rw [filterMap_takeWhile_drop, slotItems_filterMap, ← parts, ← whole]
    · intro window member
      have listed := List.mem_of_mem_take member
      obtain ⟨place, found⟩ := List.mem_iff_getElem?.mp member
      rw [List.getElem?_take] at found
      split at found
      · next early =>
          obtain ⟨left, right, first, second, rfl⟩ := getElem?_windows.mp found
          have passed : right ≤ max workStart row.raw.intervalStart := le_of_lt_countP rising second (by omega)
          rw [if_neg (by dsimp only; omega)]
      · cases found
    · refine (windows_rising rising).imp fun {window next} later => ?_
      simp only [decide_eq_false_iff_not]
      omega
    · intro window member after
      simp only [decide_eq_false_iff_not] at after
      rw [if_neg (by omega)]

theorem bucketParts_flatMap (rows : List SourceRow) (device : String) (window : Window) :
    (rows.flatMap fun row => bucketParts [row] device window) = bucketParts rows device window := by
  induction rows with
  | nil => rfl
  | cons row rest ih =>
      rw [List.flatMap_cons, ih]
      simp only [bucketParts, List.filter_cons, List.filter_nil]
      split <;> rfl

/-- The loop returns exactly when the loop of every bucket and sensor returns. -/
theorem aggregateRaw_eq_ok {engineOf : RateVersion → RateEngine} {plan : HistoryExecutionPlan}
    {pricing : String → DevicePricing} {rows : List SourceRow} (rising : points.Pairwise (· < ·))
    {accumulators : Accumulators} : aggregateRaw points engineOf plan pricing rows = .ok accumulators ↔
      ∀ index device, ((windows points)[index]?.toList.flatMap (bucketParts rows device)).foldlM
        (DeviceBucketAccumulator.addReading engineOf plan (pricing device)) {} = .ok (accumulators (index, device)) := by
  rw [aggregateRaw, foldlM_updateSlot]
  have slot : ∀ index device, slotItems (index, device) (rows.flatMap (rawParts points)) =
      (windows points)[index]?.toList.flatMap (bucketParts rows device) := by
    intro index device
    rw [slotItems_flatMap, List.flatMap_congr (fun row _ => slotItems_rawParts rising row index device)]
    cases (windows points)[index]? with
    | none => simp
    | some window => simpa using bucketParts_flatMap rows device window
  constructor
  · intro each index device
    rw [← slot]
    exact each (index, device)
  · rintro each ⟨index, device⟩
    rw [slot]
    exact each index device

end Slots
end PowerMonitor.History
