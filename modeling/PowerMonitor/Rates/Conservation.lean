import Mathlib.Algebra.Order.BigOperators.Ring.List
import PowerMonitor.Rates.FailedRuns
import PowerMonitor.Rates.Percentages

/-! What the rows of an interval keep of its energy and its cost.

A plan without tiers prices the interval itself. Under tiers the rows are shares of segments, and what a segment has
outside the interval, or without any time at all, is in no row.
-/

set_option autoImplicit false
namespace PowerMonitor.Rates
open Library Calendar

/-! ## Shares -/

/-- The part of a segment that a row of the interval takes; nothing where the segment has no time. -/
def keptShare (interval : NormalizedInterval) (segment : TierSegment) : Rat :=
  let seconds := overlapSeconds interval segment
  let segmentSeconds := secondsBetween segment.intervalStart segment.intervalEnd
  if seconds ≤ 0 ∨ segmentSeconds ≤ 0 then 0 else seconds / segmentSeconds

/-- The segment takes some time, all of it in the interval. -/
def TierSegment.LastsIn (segment : TierSegment) (interval : NormalizedInterval) : Prop :=
  segment.intervalStart < segment.intervalEnd ∧ interval.intervalStart ≤ segment.intervalStart ∧
    segment.intervalEnd ≤ interval.intervalEnd

instance (segment : TierSegment) (interval : NormalizedInterval) : Decidable (segment.LastsIn interval) :=
  inferInstanceAs (Decidable (_ ∧ _ ∧ _))

section Shares
variable {interval : NormalizedInterval} {segment : TierSegment}

theorem secondsBetween_le_iff {first last left right : Int} :
    secondsBetween first last ≤ secondsBetween left right ↔ last - first ≤ right - left := by
  unfold secondsBetween
  rw [div_le_div_iff_of_pos_right (by norm_num), Int.cast_le]

theorem secondsBetween_pos_iff {first last : Int} : 0 < secondsBetween first last ↔ first < last := by
  unfold secondsBetween
  rw [div_pos_iff_of_pos_right (by norm_num), Int.cast_pos, sub_pos]

theorem overlapSeconds_le : overlapSeconds interval segment ≤ secondsBetween segment.intervalStart segment.intervalEnd := by
  rw [overlapSeconds, secondsBetween_le_iff]
  omega

theorem keptShare_bounds : 0 ≤ keptShare interval segment ∧ keptShare interval segment ≤ 1 := by
  unfold keptShare
  dsimp only
  split
  · exact ⟨le_refl 0, zero_le_one⟩
  · next lasting =>
      rw [not_or, not_le, not_le] at lasting
      exact ⟨div_nonneg lasting.1.le lasting.2.le, (div_le_one lasting.2).mpr overlapSeconds_le⟩

/-- Only a segment that lasts, within the interval, is taken whole. -/
theorem keptShare_eq_one_iff : keptShare interval segment = 1 ↔ segment.LastsIn interval := by
  unfold keptShare
  dsimp only
  split
  · next none =>
      refine iff_of_false zero_ne_one ?_
      rintro ⟨lasts, begins, ends⟩
      rw [overlapSeconds, max_eq_right begins, min_eq_right ends, or_self] at none
      exact absurd (secondsBetween_pos_iff.mpr lasts) (not_lt.mpr none)
  · next lasting =>
      rw [not_or, not_le, not_le] at lasting
      rw [div_eq_one_iff_eq lasting.2.ne']
      constructor
      · intro whole
        have length := secondsBetween_le_iff.mp whole.ge
        have lasts := secondsBetween_pos_iff.mp lasting.2
        refine ⟨lasts, ?_, ?_⟩ <;> omega
      · rintro ⟨_, begins, ends⟩
        rw [overlapSeconds, max_eq_right begins, min_eq_right ends]

/-- The rows of the interval's own segments are their shares. -/
theorem tierRow_exact_sums (segments : List TierSegment) (weightedSeconds : Rat) :
    ((segments.filterMap (tierRow interval true weightedSeconds)).map CostIntervalResult.energyKwh).sum =
        (segments.map fun segment => segment.segmentEnergyKwh * keptShare interval segment).sum ∧
      ((segments.filterMap (tierRow interval true weightedSeconds)).map CostIntervalResult.unroundedCost).sum =
        (segments.map fun segment => segment.unroundedEnergyCharge * keptShare interval segment).sum := by
  induction segments with
  | nil => exact ⟨rfl, rfl⟩
  | cons segment rest ih =>
      rw [List.filterMap_cons, List.map_cons, List.sum_cons, List.map_cons, List.sum_cons, ← ih.1, ← ih.2]
      unfold tierRow keptShare
      dsimp only
      by_cases none : overlapSeconds interval segment ≤ 0 ∨
          secondsBetween segment.intervalStart segment.intervalEnd ≤ 0
      · simp only [if_pos none, mul_zero, zero_add, and_self]
      · simp only [if_neg none, if_true, List.map_cons, List.sum_cons, and_self]

/-- Rows that are made from segments of other intervals share out the interval's energy by time. -/
theorem tierRow_weighted_sum (segments : List TierSegment) (weightedSeconds : Rat) :
    ((segments.filterMap (tierRow interval false weightedSeconds)).map CostIntervalResult.energyKwh).sum =
      interval.energyKwh * ((segments.map fun segment => max 0 (overlapSeconds interval segment)).sum / weightedSeconds) := by
  induction segments with
  | nil => simp
  | cons segment rest ih =>
      rw [List.filterMap_cons, List.map_cons, List.sum_cons, add_div, mul_add, ← ih]
      unfold tierRow
      dsimp only
      by_cases none : overlapSeconds interval segment ≤ 0
      · rw [if_pos (.inl none), max_eq_left none, zero_div, mul_zero, zero_add]
      · have overlaps := not_le.mp none
        have lasts := overlaps.trans_le overlapSeconds_le
        rw [if_neg (not_or.mpr ⟨none, not_le.mpr lasts⟩), max_eq_right overlaps.le]
        simp [mul_div_assoc]

/-- Segments that overlap an interval for some time have no negative overlap unless they run backwards. -/
theorem overlap_nonneg_iff (proper : interval.intervalStart < interval.intervalEnd)
    (begins : segment.intervalStart < interval.intervalEnd) (ends : interval.intervalStart < segment.intervalEnd) :
    0 ≤ overlapSeconds interval segment ↔ segment.intervalStart ≤ segment.intervalEnd := by
  have zero : secondsBetween 0 0 = 0 := by simp [secondsBetween]
  rw [overlapSeconds, ← zero, secondsBetween_le_iff]
  omega

end Shares

theorem sum_mul_keptShare {interval : NormalizedInterval} (segments : List TierSegment) (value : TierSegment → Rat) :
    (segments.map fun segment => value segment * keptShare interval segment).sum =
      (segments.map value).sum - (segments.map fun segment => value segment * (1 - keptShare interval segment)).sum := by
  induction segments with
  | nil => simp
  | cons segment rest ih =>
      simp only [List.map_cons, List.sum_cons, ih]
      ring

/-- Of two lists of which one is below the other, the sums agree only if all of it does. -/
theorem sum_map_eq_iff {Item : Type} {items : List Item} {first second : Item → Rat}
    (below : ∀ item ∈ items, first item ≤ second item) :
    (items.map second).sum = (items.map first).sum ↔ ∀ item ∈ items, second item = first item := by
  induction items with
  | nil => simp
  | cons item rest ih =>
      obtain ⟨here, behind⟩ := List.forall_mem_cons.mp below
      have others : (rest.map first).sum ≤ (rest.map second).sum := List.sum_le_sum behind
      rw [List.forall_mem_cons, ← ih behind]
      simp only [List.map_cons, List.sum_cons]
      constructor
      · intro same
        constructor <;> linarith
      · rintro ⟨same, rest⟩
        rw [same, rest]

/-- Nothing is lost of amounts that are not negative exactly when every segment with some is taken whole. -/
theorem lost_eq_zero_iff {interval : NormalizedInterval} {segments : List TierSegment} {value : TierSegment → Rat}
    (nonneg : ∀ segment ∈ segments, 0 ≤ value segment) :
    (segments.map fun segment => value segment * (1 - keptShare interval segment)).sum = 0 ↔
      ∀ segment ∈ segments, value segment ≠ 0 → segment.LastsIn interval := by
  have lost := sum_map_eq_iff fun segment member =>
    mul_nonneg (nonneg segment member) (sub_nonneg.mpr (@keptShare_bounds interval segment).2)
  rw [List.sum_map_zero] at lost
  rw [lost]
  refine forall₂_congr fun segment _ => ?_
  rw [mul_eq_zero, sub_eq_zero, eq_comm (a := (1 : Rat)), keptShare_eq_one_iff, or_iff_not_imp_left]

/-! ## The rows of an interval -/

/-- The energy rows of an interval. -/
def JobResult.rowsFor (result : JobResult) (interval : NormalizedInterval) : List CostIntervalResult :=
  result.energyRows.filter fun row => row.normalizedIntervalId = some interval.id

/-- The segments that were made from the interval. -/
def ownSegments (segments : List TierSegment) (interval : NormalizedInterval) : List TierSegment :=
  segments.filter fun segment => segment.normalizedIntervalId = some interval.id

/-- Every instant of the interval is in one of the segments. -/
def CoverTime (segments : List TierSegment) (interval : NormalizedInterval) : Prop :=
  ∀ instant, interval.intervalStart ≤ instant → instant < interval.intervalEnd →
    ∃ segment ∈ segments, segment.intervalStart ≤ instant ∧ instant < segment.intervalEnd

namespace JobInputs
variable (inputs : JobInputs)

/-- The engine's energy charge for an interval. -/
def chargeOf (interval : NormalizedInterval) : Rat :=
  match RateEngine.construct inputs.plan inputs.zone with
  | .ok engine => engine.chargeOf interval.request
  | .error _ => 0

/-- The rows of an interval carry its energy, and cost what the engine or the interval's own segments charge. -/
structure Conserves (result : JobResult) (interval : NormalizedInterval) : Prop where
  energy : ((result.rowsFor interval).map CostIntervalResult.energyKwh).sum = interval.energyKwh
  charge : inputs.plan.pricingModel.isTiered = false → totalCost (result.rowsFor interval) = inputs.chargeOf interval
  segments : inputs.plan.pricingModel.isTiered = true → ownSegments inputs.segments interval ≠ [] →
    CoverTime (ownSegments inputs.segments interval) interval →
      totalCost (result.rowsFor interval) =
        ((ownSegments inputs.segments interval).map TierSegment.unroundedEnergyCharge).sum

/-- What no row takes of the interval's own segments. -/
def lost (interval : NormalizedInterval) (value : TierSegment → Rat) : Rat :=
  ((ownSegments inputs.segments interval).map fun segment => value segment * (1 - keptShare interval segment)).sum

/-- No segment that overlaps the interval ends before it starts. -/
def Forward (interval : NormalizedInterval) : Prop :=
  ∀ segment ∈ inputs.segments, segment.intervalStart < interval.intervalEnd →
    interval.intervalStart < segment.intervalEnd → segment.intervalStart ≤ segment.intervalEnd

/-- The segments under which an interval keeps its energy and its cost. -/
def Keeps (interval : NormalizedInterval) : Prop := inputs.plan.pricingModel.isTiered = true →
  (ownSegments inputs.segments interval = [] → interval.energyKwh = 0 ∨ inputs.Forward interval) ∧
  (ownSegments inputs.segments interval ≠ [] →
    ((ownSegments inputs.segments interval).map TierSegment.segmentEnergyKwh).sum =
      interval.energyKwh + inputs.lost interval TierSegment.segmentEnergyKwh ∧
    (CoverTime (ownSegments inputs.segments interval) interval →
      inputs.lost interval TierSegment.unroundedEnergyCharge = 0))

end JobInputs

section Rows
variable {inputs : JobInputs} {keys : CostRunKeys} {result : JobResult} {interval : NormalizedInterval}

/-- Of rows that carry the ids of what they were made from, those of one id. -/
theorem filter_flatMap_id {selected : List NormalizedInterval} (distinct : (selected.map NormalizedInterval.id).Nodup)
    {rows : NormalizedInterval → List CostIntervalResult}
    (named : ∀ other, ∀ row ∈ rows other, row.normalizedIntervalId = some other.id) (member : interval ∈ selected) :
    (selected.flatMap rows).filter (fun row => row.normalizedIntervalId = some interval.id) = rows interval := by
  have own (other : NormalizedInterval) : (rows other).filter (fun row => row.normalizedIntervalId = some interval.id) =
      if other.id = interval.id then rows other else [] := by
    split
    · next same =>
        exact List.filter_eq_self.mpr fun row listed => decide_eq_true ((named other row listed).trans (by rw [same]))
    · next apart =>
        rw [List.filter_eq_nil_iff]
        intro row listed
        rw [named other row listed]
        simpa using apart
  induction selected with
  | nil => cases member
  | cons first rest ih =>
      rw [List.map_cons, List.nodup_cons] at distinct
      rw [List.flatMap_cons, List.filter_append, own]
      rcases List.mem_cons.mp member with rfl | behind
      · have apart : ∀ other ∈ rest, other.id ≠ interval.id := by
          intro other listed same
          exact distinct.1 (same ▸ List.mem_map_of_mem listed)
        have none : ∀ other ∈ rest, (rows other).filter (fun row => row.normalizedIntervalId = some interval.id) = [] := by
          intro other listed
          rw [own, if_neg (apart other listed)]
        rw [if_pos rfl, List.filter_flatMap, List.flatMap_eq_nil_iff.mpr none, List.append_nil]
      · have apart : first.id ≠ interval.id := by
          intro same
          exact distinct.1 (same ▸ List.mem_map_of_mem behind)
        rw [if_neg apart, List.nil_append]
        exact ih distinct.2 behind

theorem tierRows_eq_some {segments : List TierSegment} {rows : List CostIntervalResult}
    (priced : tierRows segments interval = some rows) :
    rows = (matchingSegments segments interval).2.filterMap (tierRow interval (matchingSegments segments interval).1
        ((matchingSegments segments interval).2.map (overlapSeconds interval)).sum) ∧
      0 < ((matchingSegments segments interval).2.map (overlapSeconds interval)).sum := by
  unfold tierRows at priced
  dsimp only at priced
  split at priced
  · cases priced
  · next proper =>
      rw [not_or, not_le] at proper
      exact ⟨(Option.some.inj priced).symm, proper.2⟩

theorem energyRows_named (engine : RateEngine) (other : NormalizedInterval) : ∀ row ∈ inputs.energyRows engine other,
    row.normalizedIntervalId = some other.id ∧ row.component = .energy := by
  intro row member
  unfold JobInputs.energyRows at member
  split at member
  · cases priced : tierRows inputs.segments other with
    | none =>
        rw [priced] at member
        cases member
    | some rows =>
        rw [priced, Option.getD_some, (tierRows_eq_some priced).1] at member
        obtain ⟨segment, _, shared⟩ := List.mem_filterMap.mp member
        exact tierRow_named shared
  · refine ⟨?_, RateEngine.rowsOf_energy member⟩
    unfold RateEngine.rowsOf at member
    split at member
    · next rows priced =>
        obtain ⟨calculation, _, priced⟩ := bind_eq_ok.mp priced
        cases priced
        obtain ⟨slice, _, rfl⟩ := List.mem_map.mp member
        rfl
    · cases member

/-- The rows of an interval in a completed run are those it was priced with. -/
theorem rowsFor_eq (run : inputs.calculate keys = .ok result) (completed : result.completed = true)
    (distinct : (inputs.intervals.map NormalizedInterval.id).Nodup) (member : interval ∈ inputs.selected keys) :
    ∃ engine, RateEngine.construct inputs.plan inputs.zone = .ok engine ∧ inputs.energyRows engine interval ≠ [] ∧
      result.rowsFor interval = inputs.energyRows engine interval := by
  obtain ⟨engine, account, built, some, charged, rows⟩ := ((JobInputs.calculate_spec run).1 completed).1
  refine ⟨engine, built, some interval member, ?_⟩
  have chosen : ((inputs.selected keys).map NormalizedInterval.id).Nodup := by
    have kept : ((inputs.intervals.filter fun interval => interval.MeasuredBy inputs.devices ∧
        interval.Within keys.inputStart keys.inputEnd).map NormalizedInterval.id).Nodup :=
      distinct.sublist (List.filter_sublist.map _)
    exact ((perm_sortedBy NormalizedInterval.intervalStart _).map _).nodup_iff.mpr kept
  have others : account.filter (fun row => row.component = .energy) = [] := by
    rw [List.filter_eq_nil_iff]
    intro row listed
    simpa using RateEngine.accountRows_component charged row listed
  have energyOnly : ((inputs.selected keys).flatMap (inputs.energyRows engine)).filter (fun row => row.component = .energy) =
      (inputs.selected keys).flatMap (inputs.energyRows engine) := by
    rw [List.filter_eq_self]
    intro row listed
    obtain ⟨other, _, inside⟩ := List.mem_flatMap.mp listed
    exact decide_eq_true (energyRows_named engine other row inside).2
  rw [JobResult.rowsFor, JobResult.energyRows, rows, List.filter_append, energyOnly, others, List.append_nil]
  exact filter_flatMap_id chosen (fun other row listed => (energyRows_named engine other row listed).1) member

/-- Without tiers an interval keeps its energy and its charge. -/
theorem untiered_conserves (untiered : inputs.plan.pricingModel.isTiered = false)
    (run : inputs.calculate keys = .ok result) (completed : result.completed = true)
    (distinct : (inputs.intervals.map NormalizedInterval.id).Nodup) (member : interval ∈ inputs.selected keys) :
    inputs.Conserves result interval := by
  obtain ⟨engine, built, some, rows⟩ := rowsFor_eq run completed distinct member
  have plan := (construct_eq_ok.mp built).1
  rw [JobInputs.energyRows, untiered, if_neg Bool.false_ne_true] at some rows
  cases priced : engine.intervalRows interval with
  | error failure =>
      rw [RateEngine.rowsOf, priced] at some
      exact absurd rfl some
  | ok own =>
      rw [RateEngine.rowsOf, priced] at rows
      obtain ⟨calculation, single, made⟩ := bind_eq_ok.mp priced
      cases made
      dsimp only at rows
      refine ⟨?_, fun _ => ?_, fun tiered => absurd (untiered.symm.trans tiered) Bool.false_ne_true⟩
      · rw [rows, List.map_map]
        exact (RateEngine.slices_sums (plan ▸ untiered) single).1
      · rw [rows, JobInputs.chargeOf, built]
        dsimp only
        rw [RateEngine.chargeOf_eq single, totalCost, List.map_map]
        obtain ⟨_, ledger, _, rfl⟩ := RateEngine.ledger_of_calculate single
        rfl

/-- The segments that overlap the interval in time. -/
def overlapping (segments : List TierSegment) (interval : NormalizedInterval) : List TierSegment :=
  segments.filter fun segment =>
    segment.intervalStart < interval.intervalEnd ∧ interval.intervalStart < segment.intervalEnd

theorem matchingSegments_own {segments : List TierSegment} (some : ownSegments segments interval ≠ []) :
    matchingSegments segments interval = (true, ownSegments segments interval) := if_pos some

theorem matchingSegments_overlapping {segments : List TierSegment} (none : ownSegments segments interval = []) :
    matchingSegments segments interval = (false, overlapping segments interval) := if_neg (not_not.mpr none)

/-- Without segments of its own, the interval's energy is shared out whole unless some overlap counts against it. -/
theorem overlapping_keeps_iff {segments : List TierSegment}
    (weighted : 0 < ((overlapping segments interval).map (overlapSeconds interval)).sum) :
    interval.energyKwh * (((overlapping segments interval).map fun segment => max 0 (overlapSeconds interval segment)).sum /
        ((overlapping segments interval).map (overlapSeconds interval)).sum) = interval.energyKwh ↔
      interval.energyKwh = 0 ∨ ∀ segment ∈ segments, segment.intervalStart < interval.intervalEnd →
        interval.intervalStart < segment.intervalEnd → segment.intervalStart ≤ segment.intervalEnd := by
  -- Some segment overlaps the interval for a time, so the interval is proper.
  have proper : interval.intervalStart < interval.intervalEnd := by
    have total : (((overlapping segments interval).map fun _ => (0 : Rat)).sum) <
        ((overlapping segments interval).map (overlapSeconds interval)).sum := by
      rw [List.sum_map_zero]
      exact weighted
    obtain ⟨segment, _, overlaps⟩ := List.exists_lt_of_sum_lt _ _ total
    have ordered := secondsBetween_pos_iff.mp overlaps
    omega
  rw [mul_right_eq_self₀, div_eq_one_iff_eq weighted.ne', or_comm, sum_map_eq_iff fun segment _ => le_max_right _ _]
  refine or_congr_right ?_
  have each : ∀ segment : TierSegment, segment.intervalStart < interval.intervalEnd →
      interval.intervalStart < segment.intervalEnd →
        (max 0 (overlapSeconds interval segment) = overlapSeconds interval segment ↔
          segment.intervalStart ≤ segment.intervalEnd) := by
    intro segment begins ends
    rw [max_eq_right_iff, overlap_nonneg_iff proper begins ends]
  constructor
  · intro none segment listed begins ends
    exact (each segment begins ends).mp (none segment (List.mem_filter.mpr ⟨listed, decide_eq_true ⟨begins, ends⟩⟩))
  · intro forward segment member
    obtain ⟨listed, overlaps⟩ := List.mem_filter.mp member
    obtain ⟨begins, ends⟩ := of_decide_eq_true overlaps
    exact (each segment begins ends).mpr (forward segment listed begins ends)

/-- The rows of an interval under tiers. -/
theorem tiered_conserves_iff (tiered : inputs.plan.pricingModel.isTiered = true)
    (run : inputs.calculate keys = .ok result) (completed : result.completed = true)
    (distinct : (inputs.intervals.map NormalizedInterval.id).Nodup) (member : interval ∈ inputs.selected keys) :
    inputs.Conserves result interval ↔ inputs.Keeps interval := by
  obtain ⟨engine, built, some, rows⟩ := rowsFor_eq run completed distinct member
  rw [JobInputs.energyRows, tiered, if_pos rfl] at some rows
  obtain ⟨own, priced⟩ : ∃ own, tierRows inputs.segments interval = Option.some own := by
    cases priced : tierRows inputs.segments interval with
    | none =>
        rw [priced] at some
        exact absurd rfl some
    | some own => exact ⟨own, rfl⟩
  obtain ⟨made, weighted⟩ := tierRows_eq_some priced
  rw [priced, Option.getD_some, made] at rows
  have conserves : inputs.Conserves result interval ↔
      ((result.rowsFor interval).map CostIntervalResult.energyKwh).sum = interval.energyKwh ∧
        (ownSegments inputs.segments interval ≠ [] → CoverTime (ownSegments inputs.segments interval) interval →
          totalCost (result.rowsFor interval) =
            ((ownSegments inputs.segments interval).map TierSegment.unroundedEnergyCharge).sum) :=
    ⟨fun kept => ⟨kept.energy, kept.segments tiered⟩, fun kept =>
      ⟨kept.1, fun untiered => absurd (untiered.symm.trans tiered) Bool.false_ne_true, fun _ => kept.2⟩⟩
  rw [conserves, JobInputs.Keeps, imp_iff_right tiered]
  by_cases mine : ownSegments inputs.segments interval = []
  · rw [matchingSegments_overlapping mine] at rows weighted
    rw [rows, tierRow_weighted_sum, overlapping_keeps_iff weighted]
    simp [mine, JobInputs.Forward]
  · rw [matchingSegments_own mine] at rows weighted
    obtain ⟨energies, costs⟩ := @tierRow_exact_sums interval (ownSegments inputs.segments interval)
      ((ownSegments inputs.segments interval).map (overlapSeconds interval)).sum
    rw [rows, energies, totalCost, costs, sum_mul_keptShare, sum_mul_keptShare]
    change _ - inputs.lost interval _ = _ ∧ (_ → _ → _ - inputs.lost interval _ = _) ↔ _
    rw [sub_eq_iff_eq_add, sub_eq_self]
    simp [mine]

end Rows

/-! ## Completed runs -/

/-- The interval's own segments, with energies that are not negative, no charge without energy, and no more energy than
the interval has. -/
structure JobInputs.Recorded (inputs : JobInputs) (interval : NormalizedInterval) : Prop where
  nonneg : ∀ segment ∈ ownSegments inputs.segments interval, 0 ≤ segment.segmentEnergyKwh
  free : ∀ segment ∈ ownSegments inputs.segments interval, segment.segmentEnergyKwh = 0 → segment.unroundedEnergyCharge = 0
  within : ((ownSegments inputs.segments interval).map TierSegment.segmentEnergyKwh).sum ≤ interval.energyKwh

/-- Recorded segments keep an interval's energy if they have all of it, in segments that last. -/
theorem JobInputs.Recorded.keeps_iff {inputs : JobInputs} {interval : NormalizedInterval}
    (recorded : inputs.Recorded interval) (tiered : inputs.plan.pricingModel.isTiered = true)
    (some : ownSegments inputs.segments interval ≠ []) :
    inputs.Keeps interval ↔
      ((ownSegments inputs.segments interval).map TierSegment.segmentEnergyKwh).sum = interval.energyKwh ∧
      ∀ segment ∈ ownSegments inputs.segments interval, segment.segmentEnergyKwh ≠ 0 → segment.LastsIn interval := by
  have none := @lost_eq_zero_iff interval _ _ recorded.nonneg
  change inputs.lost interval _ = 0 ↔ _ at none
  have nonneg : 0 ≤ inputs.lost interval TierSegment.segmentEnergyKwh := by
    refine List.sum_nonneg ?_
    intro amount listed
    obtain ⟨segment, inside, rfl⟩ := List.mem_map.mp listed
    exact mul_nonneg (recorded.nonneg segment inside) (sub_nonneg.mpr keptShare_bounds.2)
  rw [← none, JobInputs.Keeps, imp_iff_right tiered, imp_iff_right some]
  constructor
  · rintro ⟨_, whole, _⟩
    have within := recorded.within
    constructor <;> linarith
  · rintro ⟨whole, kept⟩
    refine ⟨fun none => absurd none some, by rw [whole, kept, add_zero], fun _ => ?_⟩
    -- A segment that is not taken whole has no energy, and so no charge.
    unfold JobInputs.lost
    rw [List.map_congr_left (g := fun _ => (0 : Rat)), List.sum_map_zero]
    intro segment member
    by_cases empty : segment.segmentEnergyKwh = 0
    · rw [recorded.free segment member empty, zero_mul]
    · rw [keptShare_eq_one_iff.mpr (none.mp kept segment member empty), sub_self, mul_zero]

/-- The segment as the worker reads it. -/
def SegmentRow.tierSegment (row : SegmentRow) : TierSegment :=
  { normalizedIntervalId := row.intervalId, intervalStart := row.start, intervalEnd := row.finish
    segmentEnergyKwh := row.energyKwh, unroundedEnergyCharge := row.energyCharge, pricePerKwh := row.pricePerKwh
    tierName := row.tierName, touPeriod := row.touPeriod }

/-- An hour of ten kilowatt hours. -/
def heavyHour : NormalizedInterval := { hourFrom "a" 0 with selectedEnergyWh := some 10000 }

/-- The hour of a tiered plan, with the segments that a cycle has recorded for it after an initial usage. -/
def heavyInputs (initialUsage : Rat) : JobInputs :=
  { tieredInputs (match calculateCycleTierStatus 0 (2 * dayLength) roundedContexts initialUsage none
      (monitoredIntervals ["meter"] 0 (2 * dayLength) [heavyHour]) with
      | .ok status => status.segments.map SegmentRow.tierSegment
      | .error _ => []) with intervals := [heavyHour] }

/-- The rows of the hour, when the usage before it leaves a tenth of it in the first tier. -/
def heavyRows : List CostIntervalResult :=
  [{ normalizedIntervalId := some "a", intervalStart := 0, intervalEnd := 360000000, bucket := "Base", energyKwh := 1
     pricePerKwh := 1 / 5, unroundedCost := 1 / 5 },
   { normalizedIntervalId := some "a", intervalStart := 360000000, intervalEnd := 3600000000, bucket := "Top"
     energyKwh := 9, pricePerKwh := 1 / 2, unroundedCost := 9 / 2 }]

end PowerMonitor.Rates
