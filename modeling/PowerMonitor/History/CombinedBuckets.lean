import PowerMonitor.History.CoverageShares

/-! The combined bucket of a history answer, and what its coverage says about the stored readings.

Rate contributions, labels and local times of a bucket are left out: nothing here reads them.
-/

set_option autoImplicit false
namespace PowerMonitor.History
open Library Rates
open Assignments (RateVersion)

/-! ## One bucket of several sensors -/

def Window.seconds (window : Window) : Rat := secondsBetween window.start window.finish

/-- `min(bucket_seconds, _merge_duration(accumulator.coverage_ranges))` -/
def DeviceBucketAccumulator.covered (accumulator : DeviceBucketAccumulator) (window : Window) : Rat :=
  min window.seconds (mergeDuration accumulator.coverageRanges)

/-- The locals of the loop of `_combined_bucket`. -/
structure CombinedTotals where
  coveredTotal : Rat := 0
  missing : List String := []
  contributing : Nat := 0
  energy : Rat := 0
  energyAvailable : Bool := false
  power : Rat := 0
  powerAvailable : Bool := false
  peak : Rat := 0
  peakAvailable : Bool := false
  voltageWeighted : Rat := 0
  voltageWeight : Rat := 0
  voltageMin : Option Rat := none
  voltageMax : Option Rat := none
  factorWeighted : Rat := 0
  factorWeight : Rat := 0
  frequencyWeighted : Rat := 0
  frequencyWeight : Rat := 0
  quality : Finset String := ∅
  costMissing : Bool := false

namespace CombinedTotals
variable (totals : CombinedTotals) (accumulator : DeviceBucketAccumulator)

def addCovered (device : String) (window : Window) : CombinedTotals :=
  let covered := accumulator.covered window
  { totals with
    coveredTotal := totals.coveredTotal + covered
    contributing := if covered ≠ 0 then totals.contributing + 1 else totals.contributing
    missing := if covered < window.seconds then totals.missing ++ [device] else totals.missing }

def addEnergy (scale : Rat) : CombinedTotals :=
  if accumulator.energyAvailable then
    { totals with
      energy := totals.energy + accumulator.energyKwh * scale
      energyAvailable := true
      costMissing := totals.costMissing || accumulator.costMissing }
  else totals

def addPower (scale : Rat) : CombinedTotals :=
  let totals := if accumulator.powerSeconds ≠ 0 then
      { totals with
        power := totals.power + accumulator.powerWeighted / accumulator.powerSeconds * scale
        powerAvailable := true }
    else totals
  match accumulator.peakPowerW with
  | some peak => { totals with peak := totals.peak + peak * scale, peakAvailable := true }
  | none => totals

/-- A sensor's own extreme counts unless it is missing or zero; the first sensor's counts as it is. -/
def keepExtreme (keep : Rat → Rat → Rat) (held own : Option Rat) : Option Rat :=
  match held with
  | none => own
  | some held => some (keep held ((own.filter fun value => value ≠ 0).getD held))

def addVoltage (window : Window) : CombinedTotals :=
  if accumulator.voltageSeconds ≠ 0 then
    let covered := accumulator.covered window
    { totals with
      voltageWeighted := totals.voltageWeighted + accumulator.voltageWeighted / accumulator.voltageSeconds * covered
      voltageWeight := totals.voltageWeight + covered
      voltageMin := keepExtreme min totals.voltageMin accumulator.voltageMinV
      voltageMax := keepExtreme max totals.voltageMax accumulator.voltageMaxV }
  else totals

def addRatios (window : Window) : CombinedTotals :=
  let totals := if accumulator.factorWeight ≠ 0 then
      { totals with
        factorWeighted := totals.factorWeighted + accumulator.factorWeighted
        factorWeight := totals.factorWeight + accumulator.factorWeight }
    else totals
  if accumulator.frequencySeconds ≠ 0 then
    let covered := accumulator.covered window
    { totals with
      frequencyWeighted :=
        totals.frequencyWeighted + accumulator.frequencyWeighted / accumulator.frequencySeconds * covered
      frequencyWeight := totals.frequencyWeight + covered }
  else totals

/-- The body of the loop of `_combined_bucket`. -/
def add (device : String) (scale : Rat) (window : Window) : CombinedTotals :=
  let totals := ((((totals.addCovered accumulator device window).addEnergy accumulator scale).addPower accumulator
    scale).addVoltage accumulator window).addRatios accumulator window
  { totals with quality := totals.quality ∪ accumulator.qualityFlags }

end CombinedTotals

/-- The measurements of a `HistoryBucket`. -/
structure MeasuredBucket where
  includedSensorCount : Nat
  contributingSensorCount : Nat
  energyKwh : Option Rat
  averagePowerW : Option Rat
  peakPowerW : Option Rat
  voltageMinV : Option Rat
  voltageAvgV : Option Rat
  voltageMaxV : Option Rat
  powerFactor : Option Rat
  frequencyHz : Option Rat
  coveragePercent : Rat
  missingSensorIds : List String
  qualityFlags : Finset String
  deriving DecidableEq

section Combined
variable (accumulators : String → DeviceBucketAccumulator) (devices : List String) (allocations : List (String × Rat))
  (window : Window)

def combinedTotals : CombinedTotals :=
  devices.foldl (fun totals device =>
    totals.add (accumulators device) device ((allocations.lookup device).getD 1) window) {}

def combinedCoverage (totals : CombinedTotals) : Rat :=
  let expected := window.seconds * devices.length
  if expected ≠ 0 then totals.coveredTotal / expected * 100 else 0

/-- `_combined_bucket` -/
def combinedBucket (strict : Bool) : MeasuredBucket :=
  let totals := combinedTotals accumulators devices allocations window
  let coverage := combinedCoverage devices window totals
  let withheld := strict && decide (coverage < 100)
  let shown := fun (available : Bool) (value : Rat) => if withheld || !available then none else some value
  { includedSensorCount := devices.length
    contributingSensorCount := totals.contributing
    energyKwh := shown totals.energyAvailable totals.energy
    averagePowerW := shown totals.powerAvailable totals.power
    peakPowerW := shown totals.peakAvailable totals.peak
    voltageMinV := if withheld then none else totals.voltageMin
    voltageAvgV := shown (totals.voltageWeight ≠ 0) (totals.voltageWeighted / totals.voltageWeight)
    voltageMaxV := if withheld then none else totals.voltageMax
    powerFactor := shown (totals.factorWeight ≠ 0) (totals.factorWeighted / totals.factorWeight)
    frequencyHz := shown (totals.frequencyWeight ≠ 0) (totals.frequencyWeighted / totals.frequencyWeight)
    coveragePercent := coverage
    missingSensorIds := totals.missing
    qualityFlags := totals.quality ∪
      (if coverage < 100 then {"partial_coverage"} else ∅) ∪
      (if 1 < devices.length then {"aggregate_current_unavailable"} else ∅) ∪
      (if totals.energyAvailable && totals.costMissing then {"rate_unavailable"} else ∅) ∪
      (if withheld then {"strict_coverage_withheld"} else ∅) }

/-! ## What the loop leaves about coverage -/

namespace CombinedTotals
variable {window} (totals : CombinedTotals) (accumulator : DeviceBucketAccumulator) (device : String) (scale : Rat)

/-- What the loop knows of coverage. -/
def knownCoverage : Rat × Nat × List String := (totals.coveredTotal, totals.contributing, totals.missing)

theorem addEnergy_knownCoverage : (totals.addEnergy accumulator scale).knownCoverage = totals.knownCoverage := by
  unfold addEnergy
  split <;> rfl

theorem addPower_knownCoverage : (totals.addPower accumulator scale).knownCoverage = totals.knownCoverage := by
  unfold addPower
  split <;> split <;> rfl

theorem addVoltage_knownCoverage : (totals.addVoltage accumulator window).knownCoverage = totals.knownCoverage := by
  unfold addVoltage
  split <;> rfl

theorem addRatios_knownCoverage : (totals.addRatios accumulator window).knownCoverage = totals.knownCoverage := by
  unfold addRatios
  split <;> split <;> rfl

/-- Everything but the coverage of a sensor is added without touching what the loop knows of coverage. -/
theorem add_coverage : (totals.add accumulator device scale window).knownCoverage =
    (totals.coveredTotal + accumulator.covered window,
      totals.contributing + (if accumulator.covered window ≠ 0 then 1 else 0),
      totals.missing ++ if accumulator.covered window < window.seconds then [device] else []) := by
  have others : (totals.add accumulator device scale window).knownCoverage =
      (totals.addCovered accumulator device window).knownCoverage := by
    refine (addRatios_knownCoverage _ accumulator).trans ?_
    rw [addVoltage_knownCoverage, addPower_knownCoverage, addEnergy_knownCoverage]
  have count : (totals.addCovered accumulator device window).contributing =
      totals.contributing + if accumulator.covered window ≠ 0 then 1 else 0 :=
    (apply_ite (totals.contributing + ·) _ 1 0).symm
  have missing : (totals.addCovered accumulator device window).missing =
      totals.missing ++ if accumulator.covered window < window.seconds then [device] else [] := by
    refine Eq.trans ?_ (apply_ite (totals.missing ++ ·) _ [device] []).symm
    rw [List.append_nil]
    rfl
  rw [others, knownCoverage, count, missing]
  rfl

end CombinedTotals

theorem combinedTotals_coverage :
    (combinedTotals accumulators devices allocations window).coveredTotal =
      (devices.map fun device => (accumulators device).covered window).sum ∧
    (combinedTotals accumulators devices allocations window).contributing =
      (devices.filter fun device => (accumulators device).covered window ≠ 0).length ∧
    (combinedTotals accumulators devices allocations window).missing =
      devices.filter fun device => (accumulators device).covered window < window.seconds := by
  have run (listed : List String) (totals : CombinedTotals) :
      let after := listed.foldl (fun totals device =>
        totals.add (accumulators device) device ((allocations.lookup device).getD 1) window) totals
      after.coveredTotal = totals.coveredTotal + (listed.map fun device => (accumulators device).covered window).sum ∧
      after.contributing = totals.contributing +
        (listed.filter fun device => (accumulators device).covered window ≠ 0).length ∧
      after.missing = totals.missing ++ listed.filter fun device => (accumulators device).covered window < window.seconds := by
    induction listed generalizing totals with
    | nil => simp
    | cons device rest ih =>
        obtain ⟨total, count, missing⟩ := ih (totals.add (accumulators device) device ((allocations.lookup device).getD 1) window)
        have adds := @CombinedTotals.add_coverage window totals (accumulators device) device ((allocations.lookup device).getD 1)
        obtain ⟨adds, counts, misses⟩ : _ ∧ _ ∧ _ := by simpa only [CombinedTotals.knownCoverage, Prod.mk.injEq] using adds
        rw [adds] at total
        rw [counts] at count
        rw [misses] at missing
        refine ⟨?_, ?_, ?_⟩
        · rw [List.map_cons, List.sum_cons, ← add_assoc]
          exact total
        · rw [List.filter_cons]
          refine count.trans ?_
          split <;> simp_all
          omega
        · rw [List.filter_cons]
          refine missing.trans ?_
          split <;> simp_all
  simpa [combinedTotals] using run devices {}

end Combined

/-! ## Coverage and the stored readings -/

section Measured
variable (store : Store) (deviceIds : List String) (snapshotAt : Int)

/-- A reading of the sensor that the query sees runs at the instant. -/
def Store.Measures (device : String) (instant : Int) : Prop :=
  ∃ raw ∈ store.visible deviceIds snapshotAt,
    raw.deviceId = device ∧ raw.intervalStart ≤ instant ∧ instant < raw.intervalEnd

instance (device : String) (instant : Int) : Decidable (store.Measures deviceIds snapshotAt device instant) :=
  inferInstanceAs (Decidable (∃ raw ∈ _, _))

/-- The microseconds of a bucket in which the sensor was measured. -/
noncomputable def Store.measured (device : String) (window : Window) : Finset Int :=
  (Finset.Ico window.start window.finish).filter fun instant => store.Measures deviceIds snapshotAt device instant

variable {store deviceIds snapshotAt} {plan : HistoryExecutionPlan} {device : String} {window : Window}

theorem rangeUnion_bucketParts :
    rangeUnion ((bucketParts (store.sourceRows deviceIds plan snapshotAt) device window).map fun part =>
      (part.left, part.right)) = store.measured deviceIds snapshotAt device window := by
  ext instant
  rw [mem_rangeUnion, Store.measured, Finset.mem_filter, Finset.mem_Ico]
  simp only [Store.Measures, bucketParts, Store.sourceRows, List.mem_map, List.mem_filter, decide_eq_true_eq]
  constructor
  · rintro ⟨_, ⟨_, ⟨_, ⟨⟨raw, seen, rfl⟩, mine, overlap⟩, rfl⟩, rfl⟩, from_, upTo⟩
    simp only [SourceRow.clip, Store.sourceRow] at from_ upTo mine
    exact ⟨⟨by omega, by omega⟩, raw, seen, mine, by omega, by omega⟩
  · rintro ⟨⟨after, before⟩, raw, seen, mine, from_, upTo⟩
    refine ⟨_, ⟨_, ⟨_, ⟨⟨raw, seen, rfl⟩, mine, ?_⟩, rfl⟩, rfl⟩, ?_, ?_⟩
    · simp only [RawReading.Overlaps, Store.sourceRow]
      omega
    · simp only [SourceRow.clip, Store.sourceRow]
      omega
    · simp only [SourceRow.clip, Store.sourceRow]
      omega

theorem card_measured_le (proper : window.start < window.finish) :
    ((store.measured deviceIds snapshotAt device window).card : Int) ≤ window.finish - window.start := by
  have all := Finset.card_filter_le (Finset.Ico window.start window.finish) fun instant =>
    store.Measures deviceIds snapshotAt device instant
  rw [Int.card_Ico] at all
  rw [Store.measured]
  omega

/-- The whole bucket is measured when it is at every instant. -/
theorem card_measured_eq_iff (proper : window.start < window.finish) :
    ((store.measured deviceIds snapshotAt device window).card : Int) = window.finish - window.start ↔
      ∀ instant, window.start ≤ instant → instant < window.finish → store.Measures deviceIds snapshotAt device instant := by
  have size : ((Finset.Ico window.start window.finish).card : Int) = window.finish - window.start := by
    rw [Int.card_Ico]
    omega
  rw [← size, Nat.cast_inj, Store.measured, Finset.card_filter_eq_iff]
  simp only [Finset.mem_Ico, and_imp]

end Measured

section Answer
variable {boundaries : Boundaries} {store : Store} {deviceIds : List String} {plan : HistoryExecutionPlan}
  {snapshotAt : Int} {engineOf : RateVersion → RateEngine} {pricing : String → DevicePricing} {raw : Accumulators}
  (folded : aggregateRaw boundaries.points engineOf plan pricing
    (rangeRows boundaries store deviceIds plan snapshotAt) = .ok raw)
  {window : Window} (member : window ∈ windows boundaries.points)
include folded member

/-- The coverage of a sensor in a bucket is the time it was measured, however its readings overlap. -/
theorem covered_eq_measured (device : String) :
    (raw (window.bucketIndex, device)).covered window =
      ((store.measured deviceIds snapshotAt device window).card : Int) / 1000000 := by
  have run := (aggregateRaw_eq_ok boundaries.rising).mp folded window.bucketIndex device
  rw [getElem?_windows_of_mem member, Option.toList_some, List.flatMap_singleton] at run
  have proper := windows_proper boundaries.rising member
  obtain ⟨first, second⟩ := mem_windows member
  have inside : ∀ part ∈ bucketParts (rangeRows boundaries store deviceIds plan snapshotAt) device window,
      part.left < part.right := bucketParts_proper proper
  have same : (bucketParts (rangeRows boundaries store deviceIds plan snapshotAt) device window).Perm _ :=
    bucketParts_perm (head_le_of_mem boundaries.rising (List.mem_of_getElem? first))
      (le_last_of_mem boundaries.rising (List.mem_of_getElem? second))
  have merged : mergeDuration (raw (window.bucketIndex, device)).coverageRanges =
      ((store.measured deviceIds snapshotAt device window).card : Int) / 1000000 := by
    rw [(addReadings_accumulated inside run).coverageRanges, mergeDuration_eq_unionSeconds, unionSeconds,
      rangeUnion_perm (same.map _), rangeUnion_bucketParts]
    intro range listed
    obtain ⟨part, kept, rfl⟩ := List.mem_map.mp listed
    exact (inside part kept).le
  rw [DeviceBucketAccumulator.covered, merged, min_eq_right]
  have bound : ((store.measured deviceIds snapshotAt device window).card : Int) ≤ window.finish - window.start :=
    card_measured_le proper
  rw [Window.seconds, secondsBetween]
  exact div_le_div_of_nonneg_right (by exact_mod_cast bound) (by norm_num)

end Answer

/-! ## The combined bucket -/

section Combined
variable {accumulators : String → DeviceBucketAccumulator} {devices : List String} {allocations : List (String × Rat)}
  {window : Window}

theorem Window.seconds_pos (proper : window.start < window.finish) : 0 < window.seconds := by
  have length : (0 : Rat) < ((window.finish - window.start : Int) : Rat) := by exact_mod_cast Int.sub_pos.mpr proper
  exact div_pos length (by norm_num)

theorem coverage_mul (proper : window.start < window.finish) (strict : Bool) :
    (combinedBucket accumulators devices allocations window strict).coveragePercent * (window.seconds * devices.length) =
      100 * (devices.map fun device => (accumulators device).covered window).sum := by
  have total := (combinedTotals_coverage accumulators devices allocations window).1
  simp only [combinedBucket, combinedCoverage, total]
  by_cases none : devices = []
  · simp [none]
  · have expected : window.seconds * (devices.length : Rat) ≠ 0 :=
      mul_ne_zero (Window.seconds_pos proper).ne' (by simpa using none)
    rw [if_pos expected, mul_assoc, mul_comm 100, ← mul_assoc, div_mul_cancel₀ _ expected, mul_comm]

/-- Nothing measured is missing when no sensor is, and a total is short when one sensor is. -/
theorem coverage_lt_iff (proper : window.start < window.finish) (some : devices ≠ []) (strict : Bool) :
    (combinedBucket accumulators devices allocations window strict).coveragePercent < 100 ↔
      ∃ device ∈ devices, (accumulators device).covered window < window.seconds := by
  have size : 0 < window.seconds * (devices.length : Rat) :=
    mul_pos (Window.seconds_pos proper) (by exact_mod_cast List.length_pos_of_ne_nil some)
  have each : ∀ device ∈ devices, (accumulators device).covered window ≤ window.seconds := fun _ _ => min_le_left _ _
  have all : (devices.map fun _ => window.seconds).sum = window.seconds * devices.length := by
    rw [List.map_const', List.sum_replicate, nsmul_eq_mul, mul_comm]
  rw [← mul_lt_mul_iff_left₀ size, coverage_mul proper, ← all, mul_lt_mul_iff_right₀ (by norm_num)]
  constructor
  · intro short
    by_contra whole
    have full : ∀ device ∈ devices, window.seconds ≤ (accumulators device).covered window :=
      fun device listed => not_lt.mp fun less => whole ⟨device, listed, less⟩
    have same : (devices.map fun device => (accumulators device).covered window) = devices.map fun _ => window.seconds :=
      List.map_congr_left fun device listed => le_antisymm (each device listed) (full device listed)
    rw [same] at short
    exact short.false
  · rintro ⟨device, listed, short⟩
    exact List.sum_lt_sum _ _ each ⟨device, listed, short⟩

end Combined

/-- The fields that strict coverage takes away. -/
structure MeasuredBucket.Withheld (bucket : MeasuredBucket) : Prop where
  energyKwh : bucket.energyKwh = none
  averagePowerW : bucket.averagePowerW = none
  peakPowerW : bucket.peakPowerW = none
  voltageMinV : bucket.voltageMinV = none
  voltageAvgV : bucket.voltageAvgV = none
  voltageMaxV : bucket.voltageMaxV = none
  powerFactor : bucket.powerFactor = none
  frequencyHz : bucket.frequencyHz = none

theorem strict_cases (accumulators : String → DeviceBucketAccumulator) (devices : List String)
    (allocations : List (String × Rat)) (window : Window) :
    ((combinedBucket accumulators devices allocations window true).coveragePercent < 100 →
      (combinedBucket accumulators devices allocations window true).Withheld) ∧
    (¬ (combinedBucket accumulators devices allocations window true).coveragePercent < 100 →
      combinedBucket accumulators devices allocations window true =
        combinedBucket accumulators devices allocations window false) := by
  constructor
  · intro short
    have withheld : (true && decide (combinedCoverage devices window
        (combinedTotals accumulators devices allocations window) < 100)) = true := by simpa [combinedBucket] using short
    constructor <;> simp only [combinedBucket, withheld, Bool.true_or, if_true]
  · intro whole
    have shown : (true && decide (combinedCoverage devices window
        (combinedTotals accumulators devices allocations window) < 100)) = false := by simpa [combinedBucket] using whole
    simp only [combinedBucket, shown, Bool.false_and]

section Answer

/-- A sensor is missing from a bucket when no reading of it runs at some instant of the bucket. -/
theorem covered_lt_iff {boundaries : Boundaries} {store : Store} {deviceIds : List String} {plan : HistoryExecutionPlan}
    {snapshotAt : Int} {engineOf : RateVersion → RateEngine} {pricing : String → DevicePricing} {raw : Accumulators}
    (folded : aggregateRaw boundaries.points engineOf plan pricing
      (rangeRows boundaries store deviceIds plan snapshotAt) = .ok raw)
    {window : Window} (member : window ∈ windows boundaries.points) {device : String} :
    (raw (window.bucketIndex, device)).covered window < window.seconds ↔ ∃ instant, window.start ≤ instant ∧
      instant < window.finish ∧ ¬ store.Measures deviceIds snapshotAt device instant := by
  have proper := windows_proper boundaries.rising member
  have bound : ((store.measured deviceIds snapshotAt device window).card : Int) ≤ window.finish - window.start :=
    card_measured_le proper
  have size : (raw (window.bucketIndex, device)).covered window < window.seconds ↔
      ((store.measured deviceIds snapshotAt device window).card : Int) < window.finish - window.start := by
    rw [covered_eq_measured folded member, Window.seconds, secondsBetween, div_lt_div_iff_of_pos_right (by norm_num),
      Int.cast_lt]
  rw [size, lt_iff_le_and_ne, and_iff_right bound, Ne, card_measured_eq_iff proper]
  simp only [not_forall, exists_prop]

variable (boundaries : Boundaries) (store : Store) (deviceIds : List String) (plan : HistoryExecutionPlan)
  (snapshotAt : Int) (engineOf : RateVersion → RateEngine) (pricing : String → DevicePricing)
  (devices : List String) (allocations : List (String × Rat))

/-- A combined bucket of the raw strategy counts, for each sensor, the instants at which a stored reading of it runs:
once where readings overlap, and inside the bucket only. -/
theorem combined_coverage_measured {raw : Accumulators} (folded : aggregateRaw boundaries.points engineOf plan pricing
      (rangeRows boundaries store deviceIds plan snapshotAt) = .ok raw)
    {window : Window} (member : window ∈ windows boundaries.points) (strict : Bool) :
    let bucket := combinedBucket (fun device => raw (window.bucketIndex, device)) devices allocations window strict
    (bucket.coveragePercent * (devices.length * (window.finish - window.start : Int)) =
      100 * (devices.map fun device => ((store.measured deviceIds snapshotAt device window).card : Rat)).sum) ∧
    (∀ device, device ∈ bucket.missingSensorIds ↔ device ∈ devices ∧ ∃ instant, window.start ≤ instant ∧
      instant < window.finish ∧ ¬ store.Measures deviceIds snapshotAt device instant) ∧
    bucket.contributingSensorCount =
      (devices.filter fun device => store.measured deviceIds snapshotAt device window ≠ ∅).length := by
  have proper := windows_proper boundaries.rising member
  have covered := covered_eq_measured folded member
  obtain ⟨_, count, missing⟩ :=
    combinedTotals_coverage (fun device => raw (window.bucketIndex, device)) devices allocations window
  refine ⟨?_, fun device => ?_, ?_⟩
  · have percent := @coverage_mul (fun device => raw (window.bucketIndex, device)) devices allocations window proper strict
    simp only [covered, Int.cast_natCast, div_eq_mul_inv, List.sum_map_mul_right, Window.seconds, secondsBetween] at percent
    linarith
  · have listed : device ∈ (combinedBucket (fun device => raw (window.bucketIndex, device)) devices allocations window
        strict).missingSensorIds ↔ device ∈ devices ∧ (raw (window.bucketIndex, device)).covered window < window.seconds := by
      rw [combinedBucket, missing, List.mem_filter, decide_eq_true_eq]
    rw [listed, covered_lt_iff folded member]
  · refine count.trans (congrArg List.length (List.filter_congr fun device _ => ?_))
    rw [decide_eq_decide, covered]
    simp [Finset.card_eq_zero]

/-- With strict coverage a bucket shows what it shows without, when every sensor was measured throughout, and no
measurement at all otherwise. -/
theorem strict_bucket_measured {raw : Accumulators} (folded : aggregateRaw boundaries.points engineOf plan pricing
      (rangeRows boundaries store deviceIds plan snapshotAt) = .ok raw)
    {window : Window} (member : window ∈ windows boundaries.points) (some : devices ≠ []) :
    let bucket := combinedBucket (fun device => raw (window.bucketIndex, device)) devices allocations window
    ((∀ device ∈ devices, ∀ instant, window.start ≤ instant → instant < window.finish →
        store.Measures deviceIds snapshotAt device instant) → bucket true = bucket false) ∧
    ((∃ device ∈ devices, ∃ instant, window.start ≤ instant ∧ instant < window.finish ∧
        ¬ store.Measures deviceIds snapshotAt device instant) → (bucket true).Withheld) := by
  have proper := windows_proper boundaries.rising member
  have short := @coverage_lt_iff (fun device => raw (window.bucketIndex, device)) devices allocations window proper some true
  simp only [covered_lt_iff folded member] at short
  obtain ⟨incomplete, complete⟩ := strict_cases (fun device => raw (window.bucketIndex, device)) devices allocations window
  refine ⟨fun whole => complete fun less => ?_, fun gap => incomplete (short.mpr gap)⟩
  obtain ⟨device, listed, instant, from_, upTo, unmeasured⟩ := short.mp less
  exact unmeasured (whole device listed instant from_ upTo)

end Answer

/-! ## A minute of a panel -/

theorem minute_run : ∃ raw, aggregateRaw minuteBuckets.points (fun _ => flatEngine) voltagePlan (fun _ => {})
    (rangeRows minuteBuckets (minuteStore none) ["panel"] voltagePlan 0) = .ok raw :=
  aggregateRaw_returns rfl minuteBuckets.points _

theorem minute_measured {instant : Int} (from_ : 0 ≤ instant) (upTo : instant < 60000000) :
    (minuteStore none).Measures ["panel"] 0 "panel" instant :=
  ⟨minuteReading none, by decide, rfl, from_, upTo⟩

theorem combined_coverage_measured_minute : ∃ raw,
    aggregateRaw minuteBuckets.points (fun _ => flatEngine) voltagePlan (fun _ => {})
      (rangeRows minuteBuckets (minuteStore none) ["panel"] voltagePlan 0) = .ok raw ∧
    "panel" ∉ (combinedBucket (fun device => raw (0, device)) ["panel"] [] ⟨0, 0, 60000000⟩ false).missingSensorIds := by
  obtain ⟨raw, folded⟩ := minute_run
  obtain ⟨-, missing, -⟩ := combined_coverage_measured minuteBuckets (minuteStore none) ["panel"] voltagePlan 0
    (fun _ => flatEngine) (fun _ => {}) ["panel"] [] folded (show ⟨0, 0, 60000000⟩ ∈ windows minuteBuckets.points by decide) false
  refine ⟨raw, folded, fun listed => ?_⟩
  obtain ⟨-, instant, from_, upTo, unmeasured⟩ := (missing "panel").mp listed
  exact unmeasured (minute_measured from_ upTo)

theorem strict_bucket_measured_minute : ∃ raw,
    aggregateRaw minuteBuckets.points (fun _ => flatEngine) voltagePlan (fun _ => {})
      (rangeRows minuteBuckets (minuteStore none) ["panel"] voltagePlan 0) = .ok raw ∧
    combinedBucket (fun device => raw (0, device)) ["panel"] [] ⟨0, 0, 60000000⟩ true =
      combinedBucket (fun device => raw (0, device)) ["panel"] [] ⟨0, 0, 60000000⟩ false := by
  obtain ⟨raw, folded⟩ := minute_run
  refine ⟨raw, folded, (strict_bucket_measured minuteBuckets (minuteStore none) ["panel"] voltagePlan 0
    (fun _ => flatEngine) (fun _ => {}) ["panel"] [] folded (show ⟨0, 0, 60000000⟩ ∈ windows minuteBuckets.points by decide)
    (by simp)).1 ?_⟩
  intro device listed instant from_ upTo
  rw [List.mem_singleton.mp listed]
  exact minute_measured from_ upTo

end PowerMonitor.History
