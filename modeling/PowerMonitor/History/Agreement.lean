import Mathlib.Algebra.Order.BigOperators.Group.List
import PowerMonitor.History.Measurements

/-! When the measurements of the coarse strategy are those of the raw one.

Sums, averages, the peak and the coverage always are. The aggregate query reads the recorded extremes of the
voltage, where the loop falls back to the average, and it marks energy as unavailable only where all of it is.
-/

set_option autoImplicit false
namespace PowerMonitor.History
open Library Rates
open Assignments (RateVersion RateContext)

/-! ## Coverage -/

/-- Ranges that follow each other are merged or counted one after another. -/
theorem foldl_mergeRange {rest : List (Int × Int)} {first : Int × Int} {total : Rat}
    (ordered : (first :: rest).Pairwise fun first second => first.2 ≤ second.1)
    (proper : ∀ range ∈ rest, range.1 < range.2) :
    mergedSeconds (rest.foldl mergeRange (first, total)) =
      total + secondsBetween first.1 first.2 + (rest.map fun range => secondsBetween range.1 range.2).sum := by
  induction rest generalizing first total with
  | nil => simp [mergedSeconds]
  | cons range rest ih =>
      obtain ⟨after, ordered⟩ := List.pairwise_cons.mp ordered
      have next := after range List.mem_cons_self
      have positive := proper range List.mem_cons_self
      have remaining : ∀ other ∈ rest, other.1 < other.2 := fun other member => proper other (List.mem_cons_of_mem _ member)
      rw [List.foldl_cons, List.map_cons, List.sum_cons, mergeRange]
      by_cases touches : range.1 ≤ first.2
      · -- The range continues the one before it.
        have same : range.1 = first.2 := le_antisymm touches next
        have grown : max first.2 range.2 = range.2 := max_eq_right (by omega)
        have merged : ((first.1, range.2) :: rest).Pairwise fun first second => first.2 ≤ second.1 :=
          List.pairwise_cons.mpr (List.pairwise_cons.mp ordered)
        rw [if_pos touches]
        dsimp only
        rw [grown, ih merged remaining, same, secondsBetween, secondsBetween, secondsBetween]
        push_cast
        ring
      · rw [if_neg touches, ih ordered remaining]
        ring

/-- Ranges that do not overlap. -/
def RangesApart (ranges : List (Int × Int)) : Prop :=
  ranges.Pairwise fun first second => first.2 ≤ second.1 ∨ second.2 ≤ first.1

theorem mergeDuration_eq_sum {ranges : List (Int × Int)} (apart : RangesApart ranges)
    (proper : ∀ range ∈ ranges, range.1 < range.2) :
    mergeDuration ranges = (ranges.map fun range => secondsBetween range.1 range.2).sum := by
  have same : (sortByKey toLex ranges).Perm ranges := sortByKey_perm ranges
  have sorted : (sortByKey toLex ranges).Pairwise fun first second => toLex first ≤ toLex second := sortByKey_sorted ranges
  have disjoint : RangesApart (sortByKey toLex ranges) :=
    (same.pairwise_iff fun {first second} either => either.symm).mpr apart
  have ordered : (sortByKey toLex ranges).Pairwise fun first second => first.2 ≤ second.1 := by
    refine (disjoint.and sorted).imp_of_mem ?_
    rintro first second _ member ⟨either, before⟩
    have positive := proper second (same.mem_iff.mp member)
    have starts : first.1 ≤ second.1 := (Prod.Lex.le_iff.mp before).elim (fun less => less.le) fun equal => equal.1.le
    omega
  have inside : ∀ range ∈ sortByKey toLex ranges, range.1 < range.2 := fun range member =>
    proper range (same.mem_iff.mp member)
  rw [← (same.map _).sum_eq, mergeDuration]
  generalize sortByKey toLex ranges = listed at ordered inside
  cases listed with
  | nil => rfl
  | cons range rest =>
      have merged := @foldl_mergeRange rest range 0 ordered fun other member => inside other (List.mem_cons_of_mem _ member)
      rw [zero_add] at merged
      exact merged

/-! ## Readings that do not overlap -/

/-- Two readings of one sensor never overlap. -/
def ReadingsApart (readings : List RawReading) : Prop := readings.Pairwise fun first second =>
  first.deviceId = second.deviceId → first.intervalEnd ≤ second.intervalStart ∨ second.intervalEnd ≤ first.intervalStart

theorem ReadingsApart.perm {first second : List RawReading} (apart : ReadingsApart first) (same : first.Perm second) :
    ReadingsApart second :=
  (same.pairwise_iff fun {first second} separate equal => (separate equal.symm).symm).mp apart

theorem ReadingsApart.filter {readings : List RawReading} (apart : ReadingsApart readings) (keep : RawReading → Bool) :
    ReadingsApart (readings.filter keep) := apart.sublist List.filter_sublist

theorem forall_pairwise {Item : Type} {R : Item → Item → Prop} {items : List Item} (related : items.Pairwise R)
    {piece : Item × Item} (member : piece ∈ pairwise items) : R piece.1 piece.2 := by
  induction items with
  | nil => simp [pairwise] at member
  | cons head rest ih =>
      obtain ⟨first, later⟩ := List.pairwise_cons.mp related
      cases rest with
      | nil => simp [pairwise] at member
      | cons second rest =>
          cases List.mem_cons.mp (pairwise_cons_cons head second rest ▸ member) with
          | inl here => exact here ▸ first second List.mem_cons_self
          | inr deeper => exact ih later deeper

section Store
variable {store : Store} {deviceIds : List String} {snapshotAt : Int}

/-- Readings that do not overlap pass the check of the coarse strategy. -/
theorem coarseSourceHasOverlap_eq_false (apart : ReadingsApart (store.visible deviceIds snapshotAt)) (start finish : Int) :
    store.coarseSourceHasOverlap deviceIds snapshotAt start finish = false := by
  rw [Store.coarseSourceHasOverlap, List.any_eq_false]
  intro device _
  rw [Bool.not_eq_true, List.any_eq_false]
  rintro ⟨prior, next⟩ member
  rw [decide_eq_true_eq, not_lt]
  generalize listed : (store.visible deviceIds snapshotAt).filter (fun raw =>
    raw.deviceId = device ∧ raw.Overlaps start finish) = readings at member
  have mine : ∀ raw ∈ readings, raw.deviceId = device := by
    intro raw kept
    have taken := (List.mem_filter.mp (listed ▸ kept)).2
    exact (decide_eq_true_eq.mp taken).1
  have separate : ReadingsApart (sortByKey RawReading.lagKey readings) :=
    ReadingsApart.perm (listed ▸ apart.filter _) (sortByKey_perm readings).symm
  have follows := forall_pairwise (separate.and (sortByKey_sorted readings)) member
  have listedPrior := mine prior (mem_sortByKey.mp (List.of_mem_zip member).1)
  have listedNext := mine next (mem_sortByKey.mp (List.mem_of_mem_tail (List.of_mem_zip member).2))
  have starts : prior.intervalStart ≤ next.intervalStart :=
    (Prod.Lex.le_iff.mp follows.2).elim (fun less => less.le) fun equal => equal.1.le
  have positive := next.validInterval
  have either := follows.1 (listedPrior.trans listedNext.symm)
  dsimp only at either
  omega

variable {plan : HistoryExecutionPlan} {start finish : Int} {device : String} {window : Window}

/-- The raw query and the table hold the same readings of a bucket in its range. -/
theorem bucketParts_perm (after : start ≤ window.start) (upTo : window.finish ≤ finish) :
    (bucketParts (store.loadSourceRows deviceIds snapshotAt plan start finish) device window).Perm
      (bucketParts (store.sourceRows deviceIds plan snapshotAt) device window) := by
  unfold bucketParts
  apply List.Perm.map
  rw [Store.loadSourceRows, Store.sourceRows, List.filter_map, List.filter_map]
  apply List.Perm.map
  refine ((sortByKey_perm _).filter _).trans (List.Perm.of_eq ?_)
  rw [List.filter_filter]
  apply List.filter_congr
  intro raw _
  have wider : raw.Overlaps window.start window.finish → raw.Overlaps start finish := by
    unfold RawReading.Overlaps
    omega
  rw [Bool.eq_iff_iff, Bool.and_eq_true]
  refine ⟨fun both => both.1, fun taken => ⟨taken, ?_⟩⟩
  exact decide_eq_true (wider (decide_eq_true_eq.mp taken).2)

theorem bucketParts_proper {rows : List SourceRow} (proper : window.start < window.finish) :
    ∀ part ∈ bucketParts rows device window, part.left < part.right := by
  intro part member
  obtain ⟨row, kept, rfl⟩ := List.mem_map.mp member
  have overlap := (decide_eq_true_eq.mp (List.mem_filter.mp kept).2).2
  have valid := row.raw.validInterval
  rw [RawReading.Overlaps] at overlap
  simp only [SourceRow.clip]
  omega

theorem bucketParts_apart (apart : ReadingsApart (store.visible deviceIds snapshotAt)) :
    RangesApart ((bucketParts (store.sourceRows deviceIds plan snapshotAt) device window).map fun part =>
      (part.left, part.right)) := by
  unfold bucketParts Store.sourceRows
  rw [List.filter_map, List.map_map, List.map_map, RangesApart, List.pairwise_map]
  refine ((apart.filter _).imp_of_mem ?_)
  intro first second firstKept secondKept separate
  have mine : first.deviceId = device := (decide_eq_true_eq.mp (List.mem_filter.mp firstKept).2).1
  have alike : second.deviceId = device := (decide_eq_true_eq.mp (List.mem_filter.mp secondKept).2).1
  have either := separate (mine.trans alike.symm)
  simp only [Function.comp_apply, SourceRow.clip, Store.sourceRow]
  omega

end Store

/-! ## The aggregate row -/

section Row
variable {plan : HistoryExecutionPlan} {window : Window}

theorem reduceOption_column (wanted : Bool) (value : ReadingPart → Option Rat) (parts : List ReadingPart) :
    (column wanted (parts.map value)).reduceOption = (parts.map fun part => needed wanted (value part)).reduceOption := by
  unfold column needed
  cases wanted with
  | true => rfl
  | false => induction parts with
    | nil => rfl
    | cons part rest ih => simpa using ih

theorem sum_column (wanted : Bool) (value : ReadingPart → Option Rat) (parts : List ReadingPart) :
    (sqlSum (column wanted (parts.map value))).getD 0 = (parts.map fun part => (needed wanted (value part)).getD 0).sum := by
  rw [sqlSum, reduceOption_column, ← sqlSum, sqlSum_getD, List.map_map]
  rfl

theorem min_column (wanted : Bool) (value : ReadingPart → Option Rat) (parts : List ReadingPart) :
    sqlMin (column wanted (parts.map value)) = sqlMin (parts.map fun part => needed wanted (value part)) := by
  rw [sqlMin, reduceOption_column, ← sqlMin]

theorem max_column (wanted : Bool) (value : ReadingPart → Option Rat) (parts : List ReadingPart) :
    sqlMax (column wanted (parts.map value)) = sqlMax (parts.map fun part => needed wanted (value part)) := by
  rw [sqlMax, reduceOption_column, ← sqlMax]

theorem aggregateEnergyKwh_eq (part : ReadingPart) : part.aggregateEnergyKwh = part.energyKwh := by
  have positive : 0 < part.duration := secondsBetween_pos part.row.raw.validInterval
  unfold ReadingPart.aggregateEnergyKwh ReadingPart.energyKwh
  cases part.row.selectedEnergyWh with
  | none => rfl
  | some selected =>
      rw [Option.bind_some, if_pos positive, Option.map_some]
      congr 1
      ring

theorem measurementRow_perm {first second : List ReadingPart} (same : first.Perm second) :
    measurementRow plan first = measurementRow plan second := by
  have columns (wanted : Bool) (value : ReadingPart → Option Rat) :
      (column wanted (first.map value)).Perm (column wanted (second.map value)) := by
    unfold column
    split
    · exact same.map value
    · exact List.Perm.refl _
  unfold measurementRow weighted weights
  congr 1
  case e_qualityFlagCount => exact (same.map _).sum_eq
  case e_coveredSeconds => exact sqlSum_perm (same.map _)
  all_goals first
    | exact sqlSum_perm (columns _ _)
    | exact sqlMin_perm (columns _ _)
    | exact sqlMax_perm (columns _ _)

theorem coarseSlot_perm {first second : List ReadingPart} (same : first.Perm second) (accumulator : DeviceBucketAccumulator) :
    coarseSlot plan window first accumulator = coarseSlot plan window second accumulator := by
  unfold coarseSlot
  have empty : first = [] ↔ second = [] := by
    rw [← List.length_eq_zero_iff, ← List.length_eq_zero_iff, same.length_eq]
  have flags : (first.flatMap fun part => part.row.raw.qualityFlags).toFinset =
      (second.flatMap fun part => part.row.raw.qualityFlags).toFinset :=
    List.toFinset_eq_of_perm _ _ (same.flatMap_right _)
  simp only [empty, measurementRow_perm same, DeviceBucketAccumulator.addFlags, flags]

end Row

/-! ## One slot -/

/-- What the two strategies report for a sensor in a bucket is the same. -/
structure SameMeasurements (window : Window) (first second : DeviceBucketAccumulator) : Prop where
  energyKwh : first.energyKwh = second.energyKwh
  energyAvailable : first.energyAvailable = second.energyAvailable
  powerWeighted : first.powerWeighted = second.powerWeighted
  powerSeconds : first.powerSeconds = second.powerSeconds
  peakPowerW : first.peakPowerW = second.peakPowerW
  voltageWeighted : first.voltageWeighted = second.voltageWeighted
  voltageSeconds : first.voltageSeconds = second.voltageSeconds
  voltageMinV : first.voltageMinV = second.voltageMinV
  voltageMaxV : first.voltageMaxV = second.voltageMaxV
  currentWeighted : first.currentWeighted = second.currentWeighted
  currentSeconds : first.currentSeconds = second.currentSeconds
  factorWeighted : first.factorWeighted = second.factorWeighted
  factorWeight : first.factorWeight = second.factorWeight
  frequencyWeighted : first.frequencyWeighted = second.frequencyWeighted
  frequencySeconds : first.frequencySeconds = second.frequencySeconds
  covered : min (secondsBetween window.start window.finish) (mergeDuration first.coverageRanges) =
    min (secondsBetween window.start window.finish) (mergeDuration second.coverageRanges)
  qualityFlags : first.qualityFlags = second.qualityFlags

section Slot
variable (engineOf : RateVersion → RateEngine) (plan : HistoryExecutionPlan) (pricing : DevicePricing)
  (parts : List ReadingPart)

/-- The lowest voltage the loop knows of a part: the recorded minimum or else the average. -/
def ReadingPart.lowest (part : ReadingPart) : Option Rat :=
  part.row.raw.voltageAvg.map fun average => part.row.raw.voltageMin.getD average

def ReadingPart.highest (part : ReadingPart) : Option Rat :=
  part.row.raw.voltageAvg.map fun average => part.row.raw.voltageMax.getD average

/-- No reading's lowest or highest voltage passes all recorded extremes, and no recorded extreme passes the
lowest or highest voltage of every reading with an average. -/
structure ExtremesRecorded : Prop where
  lowest : ∀ part ∈ parts, ∀ value ∈ part.lowest, ∃ other ∈ parts, ∃ least ∈ other.row.raw.voltageMin, least ≤ value
  minimum : ∀ part ∈ parts, ∀ value ∈ part.row.raw.voltageMin, ∃ other ∈ parts, ∃ least ∈ other.lowest, least ≤ value
  highest : ∀ part ∈ parts, ∀ value ∈ part.highest, ∃ other ∈ parts, ∃ most ∈ other.row.raw.voltageMax, value ≤ most
  maximum : ∀ part ∈ parts, ∀ value ∈ part.row.raw.voltageMax, ∃ other ∈ parts, ∃ most ∈ other.highest, value ≤ most

/-- Readings without energy beside readings with energy, and readings whose tiers were not allocated, carry the
flags for it themselves. -/
structure FlagsRecorded : Prop where
  energy : plan.needsEnergy = true → (∃ part ∈ parts, part.row.selectedEnergyWh = none) →
    (∃ part ∈ parts, part.row.selectedEnergyWh ≠ none) → ∃ part ∈ parts, "energy_unavailable" ∈ part.row.raw.qualityFlags
  tiers : (∃ part ∈ parts, part.TierMissing engineOf plan pricing) →
    ∃ part ∈ parts, "tier_recalculation_required" ∈ part.row.raw.qualityFlags

/-- The condition on the readings of a sensor in a bucket. -/
structure Recorded : Prop where
  voltage : plan.needsVoltage = true → ExtremesRecorded parts
  flags : FlagsRecorded engineOf plan pricing parts

variable {engineOf plan pricing parts} {window : Window}

theorem energyKwh_eq_none (part : ReadingPart) : part.energyKwh = none ↔ part.row.selectedEnergyWh = none := by
  simp [ReadingPart.energyKwh]

theorem mem_reduceOption_needed {wanted : Bool} {value : ReadingPart → Option Rat} {amount : Rat} :
    amount ∈ (parts.map fun part => needed wanted (value part)).reduceOption ↔
      wanted = true ∧ ∃ part ∈ parts, amount ∈ value part := by
  rw [List.reduceOption_mem_iff, List.mem_map]
  cases wanted <;> simp [needed, Option.mem_def]

/-- The extremes of the loop are those of the query exactly when the extremes are recorded. -/
theorem extremes_iff :
    (sqlMin (parts.map fun part => needed plan.needsVoltage part.lowest) =
        sqlMin (parts.map fun part => needed plan.needsVoltage part.row.raw.voltageMin) ∧
      sqlMax (parts.map fun part => needed plan.needsVoltage part.highest) =
        sqlMax (parts.map fun part => needed plan.needsVoltage part.row.raw.voltageMax)) ↔
      (plan.needsVoltage = true → ExtremesRecorded parts) := by
  unfold sqlMin sqlMax
  rw [min?_eq_min?_iff, max?_eq_max?_iff]
  simp only [mem_reduceOption_needed]
  constructor
  · rintro ⟨⟨lowest, minimum⟩, highest, maximum⟩ wanted
    constructor
    · intro part listed value known
      obtain ⟨least, ⟨_, other, member, recorded⟩, below⟩ := lowest value ⟨wanted, part, listed, known⟩
      exact ⟨other, member, least, recorded, below⟩
    · intro part listed value known
      obtain ⟨least, ⟨_, other, member, recorded⟩, below⟩ := minimum value ⟨wanted, part, listed, known⟩
      exact ⟨other, member, least, recorded, below⟩
    · intro part listed value known
      obtain ⟨most, ⟨_, other, member, recorded⟩, above⟩ := highest value ⟨wanted, part, listed, known⟩
      exact ⟨other, member, most, recorded, above⟩
    · intro part listed value known
      obtain ⟨most, ⟨_, other, member, recorded⟩, above⟩ := maximum value ⟨wanted, part, listed, known⟩
      exact ⟨other, member, most, recorded, above⟩
  · intro recorded
    refine ⟨⟨?_, ?_⟩, ?_, ?_⟩
    · rintro value ⟨wanted, part, listed, known⟩
      obtain ⟨other, member, least, found, below⟩ := (recorded wanted).lowest part listed value known
      exact ⟨least, ⟨wanted, other, member, found⟩, below⟩
    · rintro value ⟨wanted, part, listed, known⟩
      obtain ⟨other, member, least, found, below⟩ := (recorded wanted).minimum part listed value known
      exact ⟨least, ⟨wanted, other, member, found⟩, below⟩
    · rintro value ⟨wanted, part, listed, known⟩
      obtain ⟨other, member, most, found, above⟩ := (recorded wanted).highest part listed value known
      exact ⟨most, ⟨wanted, other, member, found⟩, above⟩
    · rintro value ⟨wanted, part, listed, known⟩
      obtain ⟨other, member, most, found, above⟩ := (recorded wanted).maximum part listed value known
      exact ⟨most, ⟨wanted, other, member, found⟩, above⟩

/-- The flags of the loop are those of the query exactly when the flags are recorded. -/
theorem flags_iff : (∀ flag, (∃ part ∈ parts, flag ∈ part.flags engineOf plan pricing) ↔
      (flag = "energy_unavailable" ∧ plan.needsEnergy = true ∧ parts ≠ [] ∧
        ∀ part ∈ parts, part.row.selectedEnergyWh = none) ∨ ∃ part ∈ parts, flag ∈ part.row.raw.qualityFlags) ↔
    FlagsRecorded engineOf plan pricing parts := by
  have cases (part : ReadingPart) (flag : String) : flag ∈ part.flags engineOf plan pricing ↔
      flag ∈ part.row.raw.qualityFlags ∨
        (flag = "energy_unavailable" ∧ plan.needsEnergy = true ∧ part.row.selectedEnergyWh = none) ∨
        (flag = "tier_recalculation_required" ∧ part.TierMissing engineOf plan pricing) := by
    rw [ReadingPart.flags, Finset.mem_union, Finset.mem_union, List.mem_toFinset, or_assoc]
    refine or_congr_right (or_congr ?_ ?_)
    · split
      · next unknown => simp [unknown, energyKwh_eq_none part |>.mp unknown.2]
      · next known =>
          simp only [Finset.notMem_empty, false_iff, not_and]
          exact fun _ wanted unknown => known ⟨wanted, (energyKwh_eq_none part).mpr unknown⟩
    · split <;> simp_all
  constructor
  · intro same
    constructor
    · rintro wanted ⟨part, listed, unknown⟩ ⟨other, member, known⟩
      rcases (same "energy_unavailable").mp ⟨part, listed, (cases part _).mpr (.inr (.inl ⟨rfl, wanted, unknown⟩))⟩ with
        ⟨_, _, _, all⟩ | own
      · exact absurd (all other member) known
      · exact own
    · rintro ⟨part, listed, missing⟩
      rcases (same "tier_recalculation_required").mp ⟨part, listed, (cases part _).mpr (.inr (.inr ⟨rfl, missing⟩))⟩ with
        ⟨differs, _⟩ | own
      · exact absurd differs (by decide)
      · exact own
  · intro recorded flag
    constructor
    · rintro ⟨part, listed, raised⟩
      rcases (cases part flag).mp raised with own | ⟨rfl, wanted, unknown⟩ | ⟨rfl, missing⟩
      · exact .inr ⟨part, listed, own⟩
      · by_cases all : ∀ part ∈ parts, part.row.selectedEnergyWh = none
        · exact .inl ⟨rfl, wanted, List.ne_nil_of_mem listed, all⟩
        · push Not at all
          exact .inr (recorded.energy wanted ⟨part, listed, unknown⟩ all)
      · exact .inr (recorded.tiers ⟨part, listed, missing⟩)
    · rintro (⟨rfl, wanted, present, all⟩ | ⟨part, listed, own⟩)
      · obtain ⟨part, listed⟩ := List.exists_mem_of_ne_nil _ present
        exact ⟨part, listed, (cases part _).mpr (.inr (.inl ⟨rfl, wanted, all part listed⟩))⟩
      · exact ⟨part, listed, (cases part flag).mpr (.inl own)⟩

theorem sumEnergy_eq_none : sqlSum (column plan.needsEnergy (parts.map ReadingPart.aggregateEnergyKwh)) = none ↔
    (plan.needsEnergy = true → ∀ part ∈ parts, part.row.selectedEnergyWh = none) := by
  rw [sqlSum_eq_none, column]
  cases plan.needsEnergy <;> simp [aggregateEnergyKwh_eq, energyKwh_eq_none]

/-! ## The covered time -/

theorem roundHalfEven_intCast (value : Int) : roundHalfEven value = value := by
  have floor : (value : Rat).floor = value := Rat.floor_intCast value
  simp [roundHalfEven, floor]

theorem secondsBetween_add (start length : Int) : secondsBetween start (start + length) = (length : Rat) / 1000000 := by
  rw [secondsBetween, add_sub_cancel_left]

/-- The one range of the query stands for the seconds that the readings cover. -/
theorem covered_eq (proper : window.start < window.finish) (inside : ∀ part ∈ parts, part.left < part.right)
    (present : parts ≠ []) :
    min (secondsBetween window.start window.finish) (mergeDuration
      (DeviceBucketAccumulator.fill plan {} window (measurementRow plan parts)).coverageRanges) =
    min (secondsBetween window.start window.finish) (parts.map ReadingPart.seconds).sum := by
  have whole : ∃ count : Int, (parts.map ReadingPart.seconds).sum = (count : Rat) / 1000000 := by
    clear present inside
    induction parts with
    | nil => exact ⟨0, by simp⟩
    | cons part rest ih =>
        obtain ⟨count, total⟩ := ih
        refine ⟨part.right - part.left + count, ?_⟩
        rw [List.map_cons, List.sum_cons, total, ReadingPart.seconds, secondsBetween]
        push_cast
        ring
  obtain ⟨count, total⟩ := whole
  have positive : 0 < (parts.map ReadingPart.seconds).sum := by
    obtain ⟨part, listed⟩ := List.exists_mem_of_ne_nil _ present
    exact List.sum_pos _ (fun seconds member => by
      obtain ⟨other, found, rfl⟩ := List.mem_map.mp member
      exact secondsBetween_pos (inside other found)) (by simp [present])
  have bucket := secondsBetween_pos proper
  have summed : ((measurementRow plan parts).coveredSeconds).getD 0 = (parts.map ReadingPart.seconds).sum := by
    rw [measurementRow, sqlSum_getD, List.map_map]
    rfl
  -- Both candidates for the length are whole microseconds.
  obtain ⟨length, shorter⟩ : ∃ length : Int,
      min (parts.map ReadingPart.seconds).sum (secondsBetween window.start window.finish) = (length : Rat) / 1000000 := by
    rcases min_choice (parts.map ReadingPart.seconds).sum (secondsBetween window.start window.finish) with readings | bucket
    · exact ⟨count, readings.trans total⟩
    · exact ⟨window.finish - window.start, bucket⟩
  have covered : 0 < min (parts.map ReadingPart.seconds).sum (secondsBetween window.start window.finish) :=
    lt_min positive bucket
  have rounded : roundHalfEven ((length : Rat) / 1000000 * 1000000) = length := by
    rw [div_mul_cancel₀ _ (by norm_num), roundHalfEven_intCast]
  simp only [DeviceBucketAccumulator.fill, summed]
  rw [if_pos covered, shorter, rounded, List.nil_append]
  have single : mergeDuration [(window.start, window.start + length)] = (length : Rat) / 1000000 := by
    rw [← secondsBetween_add window.start length]
    simp [mergeDuration, sortByKey, mergedSeconds]
  rw [single, ← shorter, min_comm, min_assoc, min_self, min_comm]

/-- A slot of the two strategies agrees exactly when its readings record what the query reads. -/
theorem slot_agrees_iff {raw : DeviceBucketAccumulator} (proper : window.start < window.finish)
    (inside : ∀ part ∈ parts, part.left < part.right)
    (apart : RangesApart (parts.map fun part => (part.left, part.right)))
    (accumulated : Accumulated engineOf plan pricing parts raw) :
    SameMeasurements window raw (coarseSlot plan window parts {}) ↔ Recorded engineOf plan pricing parts := by
  have extremes := @extremes_iff plan parts
  have flags := @flags_iff engineOf plan pricing parts
  unfold ReadingPart.lowest ReadingPart.highest at extremes
  rw [← accumulated.voltageMinV, ← accumulated.voltageMaxV] at extremes
  simp only [← accumulated.qualityFlags] at flags
  by_cases empty : parts = []
  · subst empty
    rw [coarseSlot, if_pos rfl]
    constructor
    · exact fun _ => ⟨fun _ => ⟨by simp, by simp, by simp, by simp⟩, ⟨by simp, by simp⟩⟩
    · intro _
      constructor
      case energyKwh => exact accumulated.energyKwh
      case energyAvailable => exact accumulated.energyAvailable
      case powerWeighted => exact accumulated.powerWeighted
      case powerSeconds => exact accumulated.powerSeconds
      case peakPowerW => exact accumulated.peakPowerW
      case voltageWeighted => exact accumulated.voltageWeighted
      case voltageSeconds => exact accumulated.voltageSeconds
      case voltageMinV => exact accumulated.voltageMinV
      case voltageMaxV => exact accumulated.voltageMaxV
      case currentWeighted => exact accumulated.currentWeighted
      case currentSeconds => exact accumulated.currentSeconds
      case factorWeighted => exact accumulated.factorWeighted
      case factorWeight => exact accumulated.factorWeight
      case frequencyWeighted => exact accumulated.frequencyWeighted
      case frequencySeconds => exact accumulated.frequencySeconds
      case covered => rw [accumulated.coverageRanges]; rfl
      case qualityFlags =>
        ext flag
        simp [accumulated.qualityFlags]
  · rw [coarseSlot, if_neg empty]
    have available : (sqlSum (column plan.needsEnergy (parts.map ReadingPart.aggregateEnergyKwh))).isSome =
        parts.any fun part => (needed plan.needsEnergy part.energyKwh).isSome := by
      rw [Bool.eq_iff_iff, Option.isSome_iff_ne_none, ne_eq, sumEnergy_eq_none, List.any_eq_true]
      cases plan.needsEnergy <;> simp [needed, Option.isSome_iff_ne_none, energyKwh_eq_none]
    have raised (flag : String) : flag ∈ ((DeviceBucketAccumulator.fill plan {} window (measurementRow plan parts)).addFlags
          parts).qualityFlags ↔ (flag = "energy_unavailable" ∧ plan.needsEnergy = true ∧ parts ≠ [] ∧
        ∀ part ∈ parts, part.row.selectedEnergyWh = none) ∨ ∃ part ∈ parts, flag ∈ part.row.raw.qualityFlags := by
      simp only [DeviceBucketAccumulator.addFlags, DeviceBucketAccumulator.fill, measurementRow, sumEnergy_eq_none,
        Finset.mem_union, List.mem_toFinset, List.mem_flatMap]
      refine or_congr_left ?_
      split
      · next unknown =>
          have all := unknown.2 unknown.1
          rw [insert_empty_eq, Finset.mem_singleton]
          exact ⟨fun marked => ⟨marked, unknown.1, empty, all⟩, fun marked => marked.1⟩
      · next known =>
          simp only [Finset.notMem_empty, false_iff, not_and]
          exact fun _ wanted _ all => known ⟨wanted, fun _ => all⟩
    have ranges : mergeDuration raw.coverageRanges = (parts.map ReadingPart.seconds).sum := by
      rw [accumulated.coverageRanges, mergeDuration_eq_sum apart, List.map_map]
      · rfl
      · intro range member
        obtain ⟨part, listed, rfl⟩ := List.mem_map.mp member
        exact inside part listed
    constructor
    · intro same
      refine ⟨extremes.mp ⟨?_, ?_⟩, flags.mp fun flag => ?_⟩
      · exact same.voltageMinV.trans (min_column _ _ _)
      · exact same.voltageMaxV.trans (max_column _ _ _)
      · rw [same.qualityFlags, raised]
    · intro recorded
      obtain ⟨minimum, maximum⟩ := extremes.mpr recorded.voltage
      have known := flags.mpr recorded.flags
      constructor
      case energyKwh =>
        rw [accumulated.energyKwh]
        refine Eq.trans ?_ (sum_column _ _ _).symm
        simp only [aggregateEnergyKwh_eq]
      case energyAvailable => exact accumulated.energyAvailable.trans available.symm
      case powerWeighted => exact accumulated.powerWeighted.trans (sum_column _ _ _).symm
      case powerSeconds => exact accumulated.powerSeconds.trans (sum_column _ _ _).symm
      case peakPowerW => exact accumulated.peakPowerW.trans (max_column _ _ _).symm
      case voltageWeighted => exact accumulated.voltageWeighted.trans (sum_column _ _ _).symm
      case voltageSeconds => exact accumulated.voltageSeconds.trans (sum_column _ _ _).symm
      case voltageMinV => exact minimum.trans (min_column _ _ _).symm
      case voltageMaxV => exact maximum.trans (max_column _ _ _).symm
      case currentWeighted => exact accumulated.currentWeighted.trans (sum_column _ _ _).symm
      case currentSeconds => exact accumulated.currentSeconds.trans (sum_column _ _ _).symm
      case factorWeighted => exact accumulated.factorWeighted.trans (sum_column _ _ _).symm
      case factorWeight => exact accumulated.factorWeight.trans (sum_column _ _ _).symm
      case frequencyWeighted => exact accumulated.frequencyWeighted.trans (sum_column _ _ _).symm
      case frequencySeconds => exact accumulated.frequencySeconds.trans (sum_column _ _ _).symm
      case covered => rw [ranges]; exact (covered_eq proper inside empty).symm
      case qualityFlags =>
        ext flag
        rw [known, raised]

end Slot

/-! ## Every bucket and sensor -/

section Query
variable (boundaries : Boundaries) (store : Store) (deviceIds : List String) (plan : HistoryExecutionPlan)
  (snapshotAt : Int) (engineOf : RateVersion → RateEngine) (pricing : String → DevicePricing)

/-- The rows of the raw strategy over the whole range of the boundaries. -/
def rangeRows : List SourceRow :=
  store.loadSourceRows deviceIds snapshotAt plan (boundaries.points.head?.getD 0) (boundaries.points.getLast?.getD 0)

theorem getElem?_windows_of_mem {points : List Int} {window : Window} (member : window ∈ windows points) :
    (windows points)[window.bucketIndex]? = some window := by
  obtain ⟨first, second⟩ := mem_windows member
  exact getElem?_windows.mpr ⟨window.start, window.finish, first, second, rfl⟩

variable {boundaries store deviceIds plan snapshotAt engineOf pricing}

theorem loadCoarse_returns (apart : ReadingsApart (store.visible deviceIds snapshotAt)) (some : deviceIds ≠ []) :
    store.loadCoarseMeasurements deviceIds boundaries.points plan snapshotAt (fun _ => {}) =
      .ok ((chunked coarseWindowChunkSize (windows boundaries.points)).foldl
        (store.loadChunk deviceIds boundaries.points plan snapshotAt) fun _ => {}) := by
  rw [Store.loadCoarseMeasurements, if_neg some, coarseSourceHasOverlap_eq_false apart]
  rfl

theorem slot_measurements_iff (apart : ReadingsApart (store.visible deviceIds snapshotAt)) {raw : Accumulators}
    (folded : aggregateRaw boundaries.points engineOf plan pricing
      (rangeRows boundaries store deviceIds plan snapshotAt) = .ok raw) {window : Window}
    (member : window ∈ windows boundaries.points) (device : String) :
    SameMeasurements window (raw (window.bucketIndex, device))
        ((chunked coarseWindowChunkSize (windows boundaries.points)).foldl
          (store.loadChunk deviceIds boundaries.points plan snapshotAt) (fun _ => {}) (window.bucketIndex, device)) ↔
      Recorded engineOf plan (pricing device)
        (bucketParts (rangeRows boundaries store deviceIds plan snapshotAt) device window) := by
  have run := (aggregateRaw_eq_ok boundaries.rising).mp folded window.bucketIndex device
  rw [getElem?_windows_of_mem member, Option.toList_some, List.flatMap_singleton] at run
  have proper := windows_proper boundaries.rising member
  obtain ⟨first, second⟩ := mem_windows member
  have same : (bucketParts (rangeRows boundaries store deviceIds plan snapshotAt) device window).Perm _ :=
    bucketParts_perm (head_le_of_mem boundaries.rising (List.mem_of_getElem? first))
      (le_last_of_mem boundaries.rising (List.mem_of_getElem? second))
  have separate : RangesApart ((bucketParts (rangeRows boundaries store deviceIds plan snapshotAt) device window).map
      fun part => (part.left, part.right)) :=
    ((same.map _).pairwise_iff fun {first second} either => either.symm).mpr (bucketParts_apart apart)
  rw [loadCoarse_slot boundaries.rising, getElem?_windows_of_mem member, Option.toList_some, List.foldl_cons,
    List.foldl_nil, ← coarseSlot_perm same]
  have inside : ∀ part ∈ bucketParts (rangeRows boundaries store deviceIds plan snapshotAt) device window,
      part.left < part.right := bucketParts_proper proper
  exact slot_agrees_iff proper inside separate (addReadings_accumulated inside run)

/-- Readings that do not overlap are never refused by the coarse strategy, and it measures what the raw one
measures exactly when every bucket and sensor records the extremes and flags that the query reads. -/
theorem coarse_measurements_agree_iff (boundaries : Boundaries) (store : Store) (deviceIds : List String)
    (plan : HistoryExecutionPlan) (snapshotAt : Int) (engineOf : RateVersion → RateEngine) (pricing : String → DevicePricing)
    (apart : ReadingsApart (store.visible deviceIds snapshotAt)) {raw : Accumulators}
    (folded : aggregateRaw boundaries.points engineOf plan pricing
      (rangeRows boundaries store deviceIds plan snapshotAt) = .ok raw) :
    ∃ coarse, store.loadCoarseMeasurements deviceIds boundaries.points plan snapshotAt (fun _ => {}) = .ok coarse ∧
      ((∀ window ∈ windows boundaries.points, ∀ device ∈ deviceIds,
          SameMeasurements window (raw (window.bucketIndex, device)) (coarse (window.bucketIndex, device))) ↔
        ∀ window ∈ windows boundaries.points, ∀ device ∈ deviceIds, Recorded engineOf plan (pricing device)
          (bucketParts (rangeRows boundaries store deviceIds plan snapshotAt) device window)) := by
  by_cases none : deviceIds = []
  · subst none
    exact ⟨_, by rw [Store.loadCoarseMeasurements, if_pos rfl]; rfl, by simp⟩
  · refine ⟨_, loadCoarse_returns apart none, ?_⟩
    exact forall₂_congr fun window member => forall₂_congr fun device _ => slot_measurements_iff apart folded member device

theorem aggregateRaw_returns (free : plan.needsCost = false) (points : List Int) (rows : List SourceRow) :
    ∃ raw, aggregateRaw points engineOf plan pricing rows = .ok raw := by
  have step (slot : Nat × String) (accumulator : DeviceBucketAccumulator) (part : ReadingPart) :
      ∃ next, accumulator.addReading engineOf plan (pricing slot.2) part = .ok next := by
    have metered (accumulator : DeviceBucketAccumulator) :
        ∃ next, accumulator.addEnergy engineOf plan (pricing slot.2) part = .ok next := by
      unfold DeviceBucketAccumulator.addEnergy
      split
      · split
        · exact ⟨_, by rw [free]; rfl⟩
        · exact ⟨_, rfl⟩
      · exact ⟨_, rfl⟩
    unfold DeviceBucketAccumulator.addReading
    split
    · exact ⟨_, rfl⟩
    · obtain ⟨next, returned⟩ := metered ((accumulator.addCoverage part).addPower plan part)
      exact ⟨_, by rw [returned]; rfl⟩
  have moves (table : Accumulators) (entry : (Nat × String) × ReadingPart) : ∃ next, updateSlot
      (fun slot => DeviceBucketAccumulator.addReading engineOf plan (pricing slot.2)) table entry = .ok next ∧ True := by
    obtain ⟨value, moved⟩ := step entry.1 (table entry.1) entry.2
    exact ⟨_, bind_eq_ok.mpr ⟨value, moved, rfl⟩, trivial⟩
  exact foldlM_returns (fun _ => True) (rows.flatMap (rawParts points)) trivial fun table entry _ _ => moves table entry

end Query

/-! ## A reading with and without recorded extremes -/

/-- One minute of a sensor at 120 V. -/
def minuteReading (extreme : Option Rat) : RawReading :=
  { id := "r", deviceId := "panel", intervalStart := 0, intervalEnd := 60000000, voltageAvg := some 120
    voltageMin := extreme, voltageMax := extreme, validInterval := by decide }

def minuteStore (extreme : Option Rat) : Store := { rawReadings := [minuteReading extreme] }

def minuteBuckets : Boundaries := ⟨[0, 60000000], by decide⟩

def voltagePlan : HistoryExecutionPlan := .fromRequest [.voltage] .combined

theorem flatPlan_valid : validatePlan { pricingModel := .flat, flatRatePerKwh := some 1 } = .ok () := by decide

def flatEngine : RateEngine := ⟨{ pricingModel := .flat, flatRatePerKwh := some 1 }, Calendar.Zone.utc, flatPlan_valid⟩

theorem minuteReadings_apart (extreme : Option Rat) : ReadingsApart ((minuteStore extreme).visible ["panel"] 0) := by
  simp [ReadingsApart, Store.visible, minuteStore, minuteReading]

theorem recorded_minute_agrees : ∃ raw coarse,
    aggregateRaw minuteBuckets.points (fun _ => flatEngine) voltagePlan (fun _ => {})
      (rangeRows minuteBuckets (minuteStore (some 120)) ["panel"] voltagePlan 0) = .ok raw ∧
    (minuteStore (some 120)).loadCoarseMeasurements ["panel"] minuteBuckets.points voltagePlan 0 (fun _ => {}) = .ok coarse ∧
    ∀ window ∈ windows minuteBuckets.points, ∀ device ∈ ["panel"],
      SameMeasurements window (raw (window.bucketIndex, device)) (coarse (window.bucketIndex, device)) := by
  obtain ⟨raw, folded⟩ := @aggregateRaw_returns voltagePlan (fun _ => flatEngine) (fun _ => {}) rfl minuteBuckets.points
    (rangeRows minuteBuckets (minuteStore (some 120)) ["panel"] voltagePlan 0)
  obtain ⟨coarse, loaded, agree⟩ := coarse_measurements_agree_iff minuteBuckets (minuteStore (some 120)) ["panel"]
    voltagePlan 0 (fun _ => flatEngine) (fun _ => {}) (minuteReadings_apart _) folded
  refine ⟨raw, coarse, folded, loaded, agree.mpr ?_⟩
  intro window member device listed
  rw [show windows minuteBuckets.points = [⟨0, 0, 60000000⟩] by decide, List.mem_singleton] at member
  rw [List.mem_singleton] at listed
  subst member listed
  rw [show bucketParts (rangeRows minuteBuckets (minuteStore (some 120)) ["panel"] voltagePlan 0) "panel" ⟨0, 0, 60000000⟩ =
    [⟨⟨minuteReading (some 120), none⟩, 0, 60000000⟩] by decide]
  refine ⟨fun _ => ⟨?_, ?_, ?_, ?_⟩, ⟨?_, ?_⟩⟩
  all_goals simp [ReadingPart.lowest, ReadingPart.highest, minuteReading, voltagePlan, HistoryExecutionPlan.fromRequest,
    ReadingPart.TierMissing]

theorem unrecorded_minute_disagrees : ¬ ∀ (boundaries : Boundaries) (store : Store) (deviceIds : List String)
    (plan : HistoryExecutionPlan) (snapshotAt : Int) (engineOf : RateVersion → RateEngine) (pricing : String → DevicePricing)
    (raw : Accumulators), ReadingsApart (store.visible deviceIds snapshotAt) →
    aggregateRaw boundaries.points engineOf plan pricing (rangeRows boundaries store deviceIds plan snapshotAt) = .ok raw →
    ∃ coarse, store.loadCoarseMeasurements deviceIds boundaries.points plan snapshotAt (fun _ => {}) = .ok coarse ∧
      ∀ window ∈ windows boundaries.points, ∀ device ∈ deviceIds,
        SameMeasurements window (raw (window.bucketIndex, device)) (coarse (window.bucketIndex, device)) := by
  intro claim
  obtain ⟨raw, folded⟩ := @aggregateRaw_returns voltagePlan (fun _ => flatEngine) (fun _ => {}) rfl minuteBuckets.points
    (rangeRows minuteBuckets (minuteStore none) ["panel"] voltagePlan 0)
  have member : (⟨0, 0, 60000000⟩ : Window) ∈ windows minuteBuckets.points := by decide
  obtain ⟨coarse, loaded, agree⟩ := claim minuteBuckets (minuteStore none) ["panel"] voltagePlan 0 (fun _ => flatEngine)
    (fun _ => {}) raw (minuteReadings_apart none) folded
  rw [loadCoarse_returns (minuteReadings_apart none) (by decide)] at loaded
  cases loaded
  have recorded := (slot_measurements_iff (minuteReadings_apart none) folded member "panel").mp
    (agree _ member "panel" (by decide))
  rw [show bucketParts (rangeRows minuteBuckets (minuteStore none) ["panel"] voltagePlan 0) "panel" ⟨0, 0, 60000000⟩ =
    [⟨⟨minuteReading none, none⟩, 0, 60000000⟩] by decide] at recorded
  -- The average of 120 V has no recorded minimum below it.
  obtain ⟨other, listed, least, known, _⟩ := (recorded.voltage rfl).lowest _ (List.mem_singleton_self _) 120 rfl
  rw [List.mem_singleton.mp listed] at known
  simp [minuteReading] at known

end PowerMonitor.History
