import PowerMonitor.Foundation
import PowerMonitor.History.Raw
import PowerMonitor.Library.Grouping

/-! The coarse strategy: one aggregate query over the readings of every bucket and sensor.

The queries are those that run on PostgreSQL. Buckets of one width are numbered from the bounds of a
reading; others are joined on the overlap.
-/

set_option autoImplicit false
namespace PowerMonitor.History
open Library Rates

def coarseWindowChunkSize : Nat := 1000

/-! ## _fixed_interval_membership -/

/-- The one width of all buckets. -/
def fixedWidth (points : List Int) : Option Int :=
  match ((pairwise points).map fun piece => piece.2 - piece.1).dedup with
  | [width] => if 0 < width then some width else none
  | _ => none

/-- `generate_series(first_index, last_index)` of an interval clamped to the range. -/
def FixedMember (points : List Int) (width start finish : Int) (index : Nat) : Prop :=
  let rangeStart := points.head?.getD 0
  let rangeEnd := points.getLast?.getD 0
  let relativeStart := max start rangeStart - rangeStart
  let relativeEnd := min finish rangeEnd - rangeStart
  relativeStart / width ≤ index ∧ index ≤ -(-relativeEnd / width) - 1

instance (points : List Int) (width start finish : Int) (index : Nat) :
    Decidable (FixedMember points width start finish index) := inferInstanceAs (Decidable (_ ∧ _))

/-- The join of intervals with windows. -/
def Joined (points : List Int) (start finish : Int) (window : Window) : Prop :=
  match fixedWidth points with
  | some width => FixedMember points width start finish window.bucketIndex
  | none => window.start < finish ∧ start < window.finish

instance (points : List Int) (start finish : Int) (window : Window) : Decidable (Joined points start finish window) := by
  unfold Joined
  split <;> infer_instance

/-! ## The aggregate row of a group -/

/-- A null column stands for a column that the request does not need. -/
def column (needed : Bool) (values : List (Option Rat)) : List (Option Rat) := if needed then values else []

structure MeasurementRow where
  qualityFlagCount : Nat
  coveredSeconds : Option Rat
  powerWeighted : Option Rat
  powerSeconds : Option Rat
  peakPowerW : Option Rat
  energyKwh : Option Rat
  voltageWeighted : Option Rat
  voltageSeconds : Option Rat
  voltageMinV : Option Rat
  voltageMaxV : Option Rat
  currentWeighted : Option Rat
  currentSeconds : Option Rat
  factorWeighted : Option Rat
  factorWeight : Option Rat
  frequencyWeighted : Option Rat
  frequencySeconds : Option Rat
  deriving DecidableEq

section Row
variable (plan : HistoryExecutionPlan) (parts : List ReadingPart)

/-- `sum(case((value is not null, value * overlap_seconds)))` and the seconds of the same readings. -/
def weighted (value : RawReading → Option Rat) : List (Option Rat) :=
  parts.map fun part => (value part.row.raw).map fun found => found * part.seconds

def weights (value : RawReading → Option Rat) : List (Option Rat) :=
  parts.map fun part => (value part.row.raw).map fun _ => part.seconds

/-- The power that a power factor is weighted by, where both are known. -/
def ReadingPart.factorWeight (part : ReadingPart) : Option (Rat × Rat) :=
  part.row.raw.powerFactor.bind fun factor => part.row.raw.powerAvg.map fun power => (factor, |power| * part.seconds)

/-- `selected_energy * overlap_seconds / raw_seconds / 1000` -/
def ReadingPart.aggregateEnergyKwh (part : ReadingPart) : Option Rat :=
  part.row.selectedEnergyWh.bind fun selected =>
    if 0 < part.duration then some (selected * part.seconds / part.duration / 1000) else none

def measurementRow : MeasurementRow :=
  { qualityFlagCount := (parts.map fun part => part.row.raw.qualityFlags.length).sum
    coveredSeconds := sqlSum (parts.map fun part => some part.seconds)
    powerWeighted := sqlSum (column plan.needsPower (weighted parts RawReading.powerAvg))
    powerSeconds := sqlSum (column plan.needsPower (weights parts RawReading.powerAvg))
    peakPowerW := sqlMax (column plan.needsPower (parts.map fun part => part.row.raw.powerMax))
    energyKwh := sqlSum (column plan.needsEnergy (parts.map ReadingPart.aggregateEnergyKwh))
    voltageWeighted := sqlSum (column plan.needsVoltage (weighted parts RawReading.voltageAvg))
    voltageSeconds := sqlSum (column plan.needsVoltage (weights parts RawReading.voltageAvg))
    voltageMinV := sqlMin (column plan.needsVoltage (parts.map fun part => part.row.raw.voltageMin))
    voltageMaxV := sqlMax (column plan.needsVoltage (parts.map fun part => part.row.raw.voltageMax))
    currentWeighted := sqlSum (column plan.needsCurrent (weighted parts RawReading.currentAvg))
    currentSeconds := sqlSum (column plan.needsCurrent (weights parts RawReading.currentAvg))
    factorWeighted := sqlSum (column plan.needsPowerFactor (parts.map fun part =>
      part.factorWeight.map fun (factor, weight) => factor * weight))
    factorWeight := sqlSum (column plan.needsPowerFactor (parts.map fun part => part.factorWeight.map Prod.snd))
    frequencyWeighted := sqlSum (column plan.needsFrequency (weighted parts RawReading.frequencyHz))
    frequencySeconds := sqlSum (column plan.needsFrequency (weights parts RawReading.frequencyHz)) }

/-- What the loop over the aggregate rows writes. -/
def DeviceBucketAccumulator.fill (accumulator : DeviceBucketAccumulator) (window : Window) (row : MeasurementRow) :
    DeviceBucketAccumulator :=
  let covered := min (row.coveredSeconds.getD 0) (secondsBetween window.start window.finish)
  { accumulator with
    coverageRanges :=
      if 0 < covered then
        accumulator.coverageRanges ++ [(window.start, window.start + roundHalfEven (covered * 1000000))]
      else accumulator.coverageRanges
    powerWeighted := row.powerWeighted.getD 0
    powerSeconds := row.powerSeconds.getD 0
    voltageWeighted := row.voltageWeighted.getD 0
    voltageSeconds := row.voltageSeconds.getD 0
    currentWeighted := row.currentWeighted.getD 0
    currentSeconds := row.currentSeconds.getD 0
    factorWeighted := row.factorWeighted.getD 0
    factorWeight := row.factorWeight.getD 0
    frequencyWeighted := row.frequencyWeighted.getD 0
    frequencySeconds := row.frequencySeconds.getD 0
    peakPowerW := row.peakPowerW
    energyAvailable := row.energyKwh.isSome
    energyKwh := row.energyKwh.getD 0
    qualityFlags :=
      if plan.needsEnergy ∧ row.energyKwh = none then insert "energy_unavailable" accumulator.qualityFlags
      else accumulator.qualityFlags
    voltageMinV := row.voltageMinV
    voltageMaxV := row.voltageMaxV }

/-- What the loop over the distinct flags of the groups adds. -/
def DeviceBucketAccumulator.addFlags (accumulator : DeviceBucketAccumulator) : DeviceBucketAccumulator :=
  { accumulator with
    qualityFlags := accumulator.qualityFlags ∪ (parts.flatMap fun part => part.row.raw.qualityFlags).toFinset }

end Row

/-! ## _load_coarse_measurements -/

section Load
variable (store : Store) (deviceIds : List String) (points : List Int) (plan : HistoryExecutionPlan) (snapshotAt : Int)

/-- The order in which the readings of one sensor follow each other. -/
def RawReading.lagKey (raw : RawReading) : Int ×ₗ Nat := toLex (raw.intervalStart, raw.sequence)

/-- `_coarse_source_has_overlap`: a reading starts before the previous one of its sensor ends. -/
def Store.coarseSourceHasOverlap (start finish : Int) : Bool :=
  deviceIds.any fun device =>
    (pairwise (sortByKey RawReading.lagKey ((store.visible deviceIds snapshotAt).filter fun raw =>
      raw.deviceId = device ∧ raw.Overlaps start finish))).any fun (prior, next) => next.intervalStart < prior.intervalEnd

/-- The groups of a chunk's query: one for every window and sensor with a joined reading. -/
def Store.chunkGroups (chunk : List Window) : List ((Nat × String) × Window × List ReadingPart) :=
  let first := (chunk.head?.map Window.start).getD 0
  let last := (chunk.getLast?.map Window.finish).getD 0
  let source := (store.visible deviceIds snapshotAt).filter fun raw => raw.Overlaps first last
  chunk.flatMap fun window => deviceIds.dedup.filterMap fun device =>
    let parts := (source.filter fun raw =>
      raw.deviceId = device ∧ Joined points raw.intervalStart raw.intervalEnd window).map fun raw =>
        (store.sourceRow plan raw).clip window
    if parts = [] then none else some ((window.bucketIndex, device), window, parts)

/-- The body of the loop over the chunks. -/
def Store.loadChunk (accumulators : Accumulators) (chunk : List Window) : Accumulators :=
  let groups := store.chunkGroups deviceIds points plan snapshotAt chunk
  let filled := groups.foldl (setSlot fun _ accumulator (group : Window × List ReadingPart) =>
    accumulator.fill plan group.1 (measurementRow plan group.2)) accumulators
  if groups.any fun group => 0 < (measurementRow plan group.2.2).qualityFlagCount then
    groups.foldl (setSlot fun _ accumulator (group : Window × List ReadingPart) => accumulator.addFlags group.2) filled
  else filled

def coarseOverlapProblem : ProblemError :=
  { status := 409
    title := "Coarse history needs reconciliation"
    detail := "Overlapping immutable reading intervals must be reconciled before coarse history can be calculated exactly"
    code := "history_coarse_overlap" }

/-- `_load_coarse_measurements` -/
def Store.loadCoarseMeasurements (accumulators : Accumulators) : Except ProblemError Accumulators := do
  if deviceIds = [] then pure accumulators
  else
    raiseIf (store.coarseSourceHasOverlap deviceIds snapshotAt (points.head?.getD 0) (points.getLast?.getD 0) = true)
      coarseOverlapProblem
    pure ((chunked coarseWindowChunkSize (windows points)).foldl
      (store.loadChunk deviceIds points plan snapshotAt) accumulators)

end Load

/-! ## Joining by number is joining on the overlap -/

section Joining
variable {points : List Int} {width : Int}

theorem fixedWidth_pieces (fixed : fixedWidth points = some width) :
    0 < width ∧ ∀ piece ∈ pairwise points, piece.2 - piece.1 = width := by
  unfold fixedWidth at fixed
  split at fixed
  · next found only =>
      split at fixed
      · next positive =>
          cases fixed
          refine ⟨positive, fun piece member => ?_⟩
          have listed := List.mem_dedup.mpr (List.mem_map_of_mem (f := fun piece : Int × Int => piece.2 - piece.1) member)
          rw [only] at listed
          exact List.mem_singleton.mp listed
      · cases fixed
  · cases fixed

theorem fixed_point (pieces : ∀ piece ∈ pairwise points, piece.2 - piece.1 = width) {index : Nat} {point : Int}
    (found : points[index]? = some point) : point = points.head?.getD 0 + index * width := by
  induction points generalizing index with
  | nil => simp at found
  | cons head rest ih =>
      cases index with
      | zero => simpa using (Option.some.inj found).symm
      | succ index =>
          rw [List.getElem?_cons_succ] at found
          cases rest with
          | nil => simp at found
          | cons second rest =>
              have first := pieces (head, second) (by simp)
              have later := ih (fun piece member => pieces piece (by simp [member])) found
              simp only [List.head?_cons, Option.getD_some] at later ⊢
              push_cast
              linarith

theorem joined_iff (rising : points.Pairwise (· < ·)) {window : Window} (member : window ∈ windows points)
    (start finish : Int) :
    Joined points start finish window ↔ window.start < finish ∧ start < window.finish := by
  unfold Joined
  split
  · next width fixed =>
      obtain ⟨positive, pieces⟩ := fixedWidth_pieces fixed
      obtain ⟨first, second⟩ := mem_windows member
      have left := fixed_point pieces first
      have right := fixed_point pieces second
      have after := head_le_of_mem rising (List.mem_of_getElem? first)
      have upTo := le_last_of_mem rising (List.mem_of_getElem? second)
      have proper := windows_proper rising member
      have floor : (max start (points.head?.getD 0) - points.head?.getD 0) / width ≤ window.bucketIndex ↔
          start < window.finish := by
        rw [← Int.lt_add_one_iff, Int.ediv_lt_iff_lt_mul positive]
        push_cast at right
        omega
      have ceil : (window.bucketIndex : Int) ≤ -(-(min finish (points.getLast?.getD 0) - points.head?.getD 0) / width) - 1 ↔
          window.start < finish := by
        rw [Int.le_sub_one_iff, lt_neg, Int.ediv_lt_iff_lt_mul positive]
        have := Int.neg_mul (window.bucketIndex : Int) width
        omega
      rw [FixedMember, floor, ceil, and_comm]
  · exact Iff.rfl

end Joining

/-! ## What one slot receives -/

/-- The accumulator of a group after the aggregate and the flag query. -/
def coarseSlot (plan : HistoryExecutionPlan) (window : Window) (parts : List ReadingPart)
    (accumulator : DeviceBucketAccumulator) : DeviceBucketAccumulator :=
  if parts = [] then accumulator else (accumulator.fill plan window (measurementRow plan parts)).addFlags parts

section Slots
variable {store : Store} {deviceIds : List String} {points : List Int} {plan : HistoryExecutionPlan} {snapshotAt : Int}

/-- The stored readings of the sensors, in the order of the table. -/
def Store.sourceRows (store : Store) (deviceIds : List String) (plan : HistoryExecutionPlan) (snapshotAt : Int) :
    List SourceRow := (store.visible deviceIds snapshotAt).map (store.sourceRow plan)

theorem chunk_bounds {chunk : List Window} (part : chunk.Sublist (windows points)) (rising : points.Pairwise (· < ·))
    {window : Window} (member : window ∈ chunk) :
    (chunk.head?.map Window.start).getD 0 ≤ window.start ∧ window.finish ≤ (chunk.getLast?.map Window.finish).getD 0 := by
  have later := (windows_rising rising).sublist part
  constructor
  · cases chunk with
    | nil => simp at member
    | cons first rest =>
        cases List.mem_cons.mp member with
        | inl here => simp [here]
        | inr deeper => exact ((List.pairwise_cons.mp later).1 window deeper).1.le
  · obtain ⟨front, last, rfl⟩ := (List.eq_nil_or_concat' chunk).resolve_left (List.ne_nil_of_mem member)
    rw [List.getLast?_concat, Option.map_some, Option.getD_some]
    cases List.mem_append.mp member with
    | inl before => exact ((List.pairwise_append.mp later).2.2 window before last (by simp)).2.le
    | inr here => rw [List.mem_singleton.mp here]

theorem flatMap_ite {Item Value : Type} (taken : Item → Prop) [DecidablePred taken] (yield : Item → List Value)
    (items : List Item) : (items.flatMap fun item => if taken item then yield item else []) =
      (items.filter fun item => taken item).flatMap yield := by
  induction items with
  | nil => rfl
  | cons item rest ih =>
      rw [List.flatMap_cons, List.filter_cons, ih]
      by_cases here : taken item <;> simp [here]

theorem slotItems_devices {Value : Type} (index : Nat) (device : String) (window : Window)
    (parts : String → List Value) {devices : List String} (distinct : devices.Nodup) :
    slotItems (index, device) (devices.filterMap fun device =>
      if parts device = [] then none else some ((window.bucketIndex, device), window, parts device)) =
        if window.bucketIndex = index ∧ device ∈ devices ∧ parts device ≠ [] then [(window, parts device)] else [] := by
  induction devices with
  | nil => simp
  | cons head rest ih =>
      obtain ⟨absent, distinct⟩ := List.nodup_cons.mp distinct
      rw [List.filterMap_cons]
      by_cases empty : parts head = []
      · by_cases same : device = head <;> simp_all
      · by_cases same : device = head
        · subst same
          by_cases here : window.bucketIndex = index <;> simp_all [slotItems_cons]
        · by_cases here : window.bucketIndex = index <;> simp_all [slotItems_cons, Ne.symm same]

/-- The group of a window and sensor in its chunk is made of the parts of the raw strategy. -/
theorem slotItems_chunkGroups {chunk : List Window} (part : chunk.Sublist (windows points))
    (rising : points.Pairwise (· < ·)) (index : Nat) (device : String) :
    slotItems (index, device) (store.chunkGroups deviceIds points plan snapshotAt chunk) =
      (chunk.filter fun window => window.bucketIndex = index).flatMap fun window =>
        let parts := bucketParts (store.sourceRows deviceIds plan snapshotAt) device window
        if parts = [] then [] else [(window, parts)] := by
  rw [Store.chunkGroups]
  dsimp only
  rw [slotItems_flatMap]
  have single : ∀ window ∈ chunk, (((store.visible deviceIds snapshotAt).filter fun raw =>
      raw.Overlaps ((chunk.head?.map Window.start).getD 0) ((chunk.getLast?.map Window.finish).getD 0)).filter fun raw =>
        raw.deviceId = device ∧ Joined points raw.intervalStart raw.intervalEnd window).map
          (fun raw => (store.sourceRow plan raw).clip window) =
      bucketParts (store.sourceRows deviceIds plan snapshotAt) device window := by
    intro window member
    obtain ⟨first, last⟩ := chunk_bounds part rising member
    rw [bucketParts, Store.sourceRows, List.filter_map, List.map_map, List.filter_filter]
    congr 1
    apply List.filter_congr
    intro raw _
    have joined := joined_iff rising (part.subset member) raw.intervalStart raw.intervalEnd
    rw [Bool.eq_iff_iff]
    simp only [Bool.and_eq_true, decide_eq_true_eq, Function.comp_apply]
    simp only [Store.sourceRow, joined, RawReading.Overlaps]
    constructor
    · rintro ⟨⟨mine, overlap⟩, _⟩
      exact ⟨mine, overlap⟩
    · rintro ⟨mine, overlap⟩
      exact ⟨⟨mine, overlap⟩, by omega⟩
  have known : ∀ window, bucketParts (store.sourceRows deviceIds plan snapshotAt) device window ≠ [] →
      device ∈ deviceIds.dedup := by
    intro window present
    obtain ⟨part, member⟩ := List.exists_mem_of_ne_nil _ present
    obtain ⟨row, kept, _⟩ := List.mem_map.mp member
    obtain ⟨listed, mine⟩ := List.mem_filter.mp kept
    obtain ⟨raw, seen, rfl⟩ := List.mem_map.mp listed
    have visible := (List.mem_filter.mp seen).2
    simp only [decide_eq_true_eq] at mine visible
    exact List.mem_dedup.mpr (mine.1 ▸ visible.1)
  rw [← flatMap_ite]
  apply List.flatMap_congr
  intro window member
  rw [slotItems_devices index device window _ (List.nodup_dedup _), single window member]
  by_cases present : bucketParts (store.sourceRows deviceIds plan snapshotAt) device window = []
  · simp [present]
  · simp [present, List.mem_dedup.mp (known window present)]

theorem addFlags_of_none {accumulator : DeviceBucketAccumulator} {parts : List ReadingPart}
    (none : (parts.map fun part => part.row.raw.qualityFlags.length).sum = 0) : accumulator.addFlags parts = accumulator := by
  have empty : (parts.flatMap fun part => part.row.raw.qualityFlags) = [] := by
    rw [List.flatMap_eq_nil_iff]
    intro part member
    have zero := List.sum_eq_zero_iff_forall_eq_nat.mp none part.row.raw.qualityFlags.length
      (List.mem_map_of_mem (f := fun part : ReadingPart => part.row.raw.qualityFlags.length) member)
    exact List.length_eq_zero_iff.mp zero
  rw [DeviceBucketAccumulator.addFlags, empty, List.toFinset_nil, Finset.union_empty]

theorem loadChunk_slot {chunk : List Window} (part : chunk.Sublist (windows points)) (rising : points.Pairwise (· < ·))
    (accumulators : Accumulators) (index : Nat) (device : String) :
    store.loadChunk deviceIds points plan snapshotAt accumulators chunk (index, device) =
      (chunk.filter fun window => window.bucketIndex = index).foldl (fun accumulator window =>
        coarseSlot plan window (bucketParts (store.sourceRows deviceIds plan snapshotAt) device window) accumulator)
        (accumulators (index, device)) := by
  have few := (part.filter fun window => window.bucketIndex = index)
  rw [filter_windows] at few
  have groups : slotItems (index, device) (store.chunkGroups deviceIds points plan snapshotAt chunk) = _ :=
    slotItems_chunkGroups part rising index device
  unfold Store.loadChunk
  generalize store.chunkGroups deviceIds points plan snapshotAt chunk = found at groups ⊢
  set filled := found.foldl (setSlot fun _ accumulator (group : Window × List ReadingPart) =>
    accumulator.fill plan group.1 (measurementRow plan group.2)) accumulators with first
  have fills : filled (index, device) = (slotItems (index, device) found).foldl
      (fun accumulator group => accumulator.fill plan group.1 (measurementRow plan group.2)) (accumulators (index, device)) := by
    rw [first, foldl_setSlot]
  -- Without a flag in the chunk the second query is not made, and would add nothing.
  have flagged : (if found.any fun group => 0 < (measurementRow plan group.2.2).qualityFlagCount then
      found.foldl (setSlot fun _ accumulator (group : Window × List ReadingPart) => accumulator.addFlags group.2) filled
      else filled) (index, device) = (slotItems (index, device) found).foldl
        (fun accumulator group => accumulator.addFlags group.2) (filled (index, device)) := by
    split
    · exact foldl_setSlot _ _ _ _
    · next none =>
        have silent : ∀ group ∈ slotItems (index, device) found, ∀ accumulator : DeviceBucketAccumulator,
            accumulator.addFlags group.2 = accumulator := by
          intro group member accumulator
          obtain ⟨entry, kept, rfl⟩ := List.mem_map.mp member
          apply addFlags_of_none
          have absent := List.any_eq_false.mp (Bool.not_eq_true _ ▸ none) entry (List.mem_of_mem_filter kept)
          rw [decide_eq_true_eq, not_lt, Nat.le_zero] at absent
          exact absent
        generalize filled (index, device) = accumulator
        generalize slotItems (index, device) found = items at silent
        induction items with
        | nil => rfl
        | cons group rest ih =>
            rw [List.foldl_cons, silent group List.mem_cons_self]
            exact ih fun other member => silent other (List.mem_cons_of_mem _ member)
  rw [flagged, fills, groups]
  have many : (chunk.filter fun window => window.bucketIndex = index).length ≤ 1 := by
    refine few.length_le.trans ?_
    cases (windows points)[index]? <;> simp
  generalize chunk.filter (fun window => window.bucketIndex = index) = kept at many
  rcases kept with _ | ⟨window, rest⟩
  · rfl
  · obtain rfl : rest = [] := by
      rw [List.length_cons] at many
      exact List.length_eq_zero_iff.mp (by omega)
    rw [List.flatMap_singleton, List.foldl_cons, List.foldl_nil, coarseSlot]
    dsimp only
    split <;> rfl

/-- The coarse accumulators, one slot at a time. -/
theorem loadCoarse_slot (rising : points.Pairwise (· < ·)) (accumulators : Accumulators) (index : Nat) (device : String) :
    (chunked coarseWindowChunkSize (windows points)).foldl (store.loadChunk deviceIds points plan snapshotAt) accumulators
        (index, device) =
      (windows points)[index]?.toList.foldl (fun accumulator window =>
        coarseSlot plan window (bucketParts (store.sourceRows deviceIds plan snapshotAt) device window) accumulator)
        (accumulators (index, device)) := by
  have run : ∀ (chunks : List (List Window)) (accumulators : Accumulators),
      (∀ chunk ∈ chunks, chunk.Sublist (windows points)) →
      chunks.foldl (store.loadChunk deviceIds points plan snapshotAt) accumulators (index, device) =
        (chunks.flatten.filter fun window => window.bucketIndex = index).foldl (fun accumulator window =>
          coarseSlot plan window (bucketParts (store.sourceRows deviceIds plan snapshotAt) device window) accumulator)
          (accumulators (index, device)) := by
    intro chunks
    induction chunks with
    | nil => exact fun _ _ => rfl
    | cons chunk rest ih =>
        intro accumulators parts
        rw [List.foldl_cons, ih _ fun other member => parts other (List.mem_cons_of_mem _ member),
          loadChunk_slot (parts chunk List.mem_cons_self) rising, List.flatten_cons, List.filter_append, List.foldl_append]
  rw [run _ _ fun chunk member => sublist_of_mem_chunked member, chunked_flatten (by decide), filter_windows]

end Slots
end PowerMonitor.History
