import PowerMonitor.History.Agreement
import PowerMonitor.Library.Unions
import PowerMonitor.Rates.Disclosure
import PowerMonitor.Rates.FailedRuns

/-! Coverage as cost runs, cycle reports and the history count it.

The history merges the ranges before it adds them up, and so measures their union. Cost runs and cycle reports add up the
lengths themselves and cut the share at a hundred percent, which counts every overlap twice until then.
-/

set_option autoImplicit false
namespace PowerMonitor.History
open Library Rates

/-! ## The union of ranges -/

/-- The seconds that lie in some of the ranges. -/
noncomputable def unionSeconds (ranges : List (Int × Int)) : Rat := ((rangeUnion ranges).card : Int) / 1000000

/-- Ranges in the order of their starts are swept into their union. -/
theorem foldl_mergeRange_union {rest : List (Int × Int)} {first : Int × Int} {total : Rat}
    (ordered : (first :: rest).Pairwise fun first second => first.1 ≤ second.1)
    (proper : ∀ range ∈ first :: rest, range.1 ≤ range.2) :
    mergedSeconds (rest.foldl mergeRange (first, total)) = total + unionSeconds (first :: rest) := by
  induction rest generalizing first total with
  | nil =>
      have here := proper first List.mem_cons_self
      have none : ∀ range ∈ ([] : List (Int × Int)), first.2 ≤ range.1 := by simp
      have size := card_rangeUnion_before here none
      simp only [rangeUnion_nil, Finset.card_empty, Nat.cast_zero, add_zero] at size
      rw [unionSeconds, size]
      rfl
  | cons range rest ih =>
      obtain ⟨after, later⟩ := List.pairwise_cons.mp ordered
      have here := proper first List.mem_cons_self
      have next := proper range (List.mem_cons_of_mem _ List.mem_cons_self)
      have starts := after range List.mem_cons_self
      rw [List.foldl_cons, mergeRange]
      by_cases touches : range.1 ≤ first.2
      · -- The range continues the one in hand, and with it they cover the same.
        rw [if_pos touches, ih, unionSeconds, rangeUnion_touching starts touches]
        · rfl
        · exact List.pairwise_cons.mpr ⟨fun other member => after other (List.mem_cons_of_mem _ member),
            (List.pairwise_cons.mp later).2⟩
        · intro other member
          rcases List.mem_cons.mp member with rfl | behind
          · exact here.trans (le_max_left _ _)
          · exact proper other (List.mem_cons_of_mem _ (List.mem_cons_of_mem _ behind))
      · rw [if_neg touches, ih later fun other member => proper other (List.mem_cons_of_mem _ member)]
        have apart : ∀ other ∈ range :: rest, first.2 ≤ other.1 := by
          intro other member
          rcases List.mem_cons.mp member with rfl | behind
          · omega
          · have := (List.pairwise_cons.mp later).1 other behind
            omega
        rw [unionSeconds, unionSeconds, card_rangeUnion_before here apart, secondsBetween]
        push_cast
        ring

/-- `_merge_duration` is the time in which some range is, whatever their overlaps. -/
theorem mergeDuration_eq_unionSeconds {ranges : List (Int × Int)} (proper : ∀ range ∈ ranges, range.1 ≤ range.2) :
    mergeDuration ranges = unionSeconds ranges := by
  have same : (sortByKey toLex ranges).Perm ranges := sortByKey_perm ranges
  have sorted : (sortByKey toLex ranges).Pairwise fun first second => toLex first ≤ toLex second := sortByKey_sorted ranges
  have ordered : (sortByKey toLex ranges).Pairwise fun first second => first.1 ≤ second.1 :=
    sorted.imp fun before => (Prod.Lex.le_iff.mp before).elim (fun less => less.le) fun equal => equal.1.le
  have inside : ∀ range ∈ sortByKey toLex ranges, range.1 ≤ range.2 := fun range member =>
    proper range (same.mem_iff.mp member)
  rw [unionSeconds, ← rangeUnion_perm same, ← unionSeconds, mergeDuration]
  generalize sortByKey toLex ranges = listed at ordered inside
  cases listed with
  | nil => simp [unionSeconds]
  | cons range rest =>
      have merged := @foldl_mergeRange_union rest range 0 ordered inside
      rw [zero_add] at merged
      exact merged

/-! ## Sums of lengths -/

def totalSeconds (ranges : List (Int × Int)) : Rat := (ranges.map fun range => secondsBetween range.1 range.2).sum

theorem totalSeconds_eq (ranges : List (Int × Int)) :
    totalSeconds ranges = ((ranges.map fun range => range.2 - range.1).sum : Int) / 1000000 := by
  unfold totalSeconds
  induction ranges with
  | nil => simp
  | cons range rest ih =>
      rw [List.map_cons, List.sum_cons, ih, List.map_cons, List.sum_cons, secondsBetween]
      push_cast
      ring

/-- The lengths do not exceed the union exactly when the ranges do not overlap. -/
theorem totalSeconds_le_iff {ranges : List (Int × Int)} (proper : ∀ range ∈ ranges, range.1 < range.2) :
    totalSeconds ranges ≤ unionSeconds ranges ↔ RangesApart ranges := by
  have bound := card_rangeUnion_le ranges fun range member => (proper range member).le
  rw [totalSeconds_eq, unionSeconds, div_le_div_iff_of_pos_right (by norm_num), Int.cast_le]
  refine Iff.trans ⟨fun least => ?_, fun same => same.ge⟩ (card_rangeUnion_eq_iff proper)
  exact le_antisymm bound least

/-- A share of the lengths, cut at a hundred, is at most that of the union exactly when the ranges do not overlap or
their union is as long as the window. -/
theorem share_le_iff {ranges : List (Int × Int)} (proper : ∀ range ∈ ranges, range.1 < range.2) {window : Rat}
    (positive : 0 < window) : min 100 (totalSeconds ranges / window * 100) ≤ 100 * unionSeconds ranges / window ↔
      RangesApart ranges ∨ window ≤ unionSeconds ranges := by
  rw [min_le_iff, or_comm, ← totalSeconds_le_iff proper]
  refine or_congr ?_ ?_
  · rw [show totalSeconds ranges / window * 100 = 100 * totalSeconds ranges / window by ring,
      div_le_div_iff_of_pos_right positive]
    constructor <;> intro <;> linarith
  · rw [le_div_iff₀ positive]
    constructor <;> intro <;> linarith

end PowerMonitor.History

/-! ## Cost runs and cycles -/

namespace PowerMonitor.Rates
open Library

/-- The ranges of the intervals a run has selected. -/
def JobInputs.ranges (inputs : JobInputs) (keys : CostRunKeys) : List (Int × Int) :=
  (inputs.selected keys).map fun interval => (interval.intervalStart, interval.intervalEnd)

def CycleInputs.ranges (inputs : CycleInputs) : List (Int × Int) :=
  inputs.intervals.map fun interval => (interval.start, interval.finish)

/-- A run that completes has a window, and intervals that last. -/
theorem completed_proper {inputs : JobInputs} {keys : CostRunKeys} {result : JobResult}
    (ran : inputs.calculate keys = .ok result) (completed : result.completed = true) :
    keys.inputStart < keys.inputEnd ∧ ∀ interval ∈ inputs.selected keys, interval.intervalStart < interval.intervalEnd := by
  obtain ⟨engine, account, built, each, charged, _⟩ := ((JobInputs.calculate_spec ran).1 completed).1
  constructor
  · obtain ⟨preliminary, run, _⟩ := bind_eq_ok.mp charged
    exact ((engine.calculate_eq_ok _).mp run).1.interval
  · intro interval member
    have some := each interval member
    unfold JobInputs.energyRows at some
    split at some
    · cases priced : tierRows inputs.segments interval with
      | none =>
          rw [priced] at some
          exact absurd rfl some
      | some rows =>
          obtain ⟨segment, _, overlaps⟩ := tierRows_overlap priced
          unfold overlapSeconds secondsBetween at overlaps
          have positive : (0 : Rat) < (min interval.intervalEnd segment.intervalEnd -
              max interval.intervalStart segment.intervalStart : Int) := by
            by_contra none
            rw [not_lt] at none
            exact absurd overlaps (not_lt.mpr (div_nonpos_of_nonpos_of_nonneg none (by norm_num)))
          have : 0 < min interval.intervalEnd segment.intervalEnd - max interval.intervalStart segment.intervalStart := by
            exact_mod_cast positive
          omega
    · unfold RateEngine.rowsOf at some
      split at some
      · next rows priced =>
          obtain ⟨calculation, run, _⟩ := bind_eq_ok.mp priced
          exact ((engine.calculate_eq_ok _).mp run).1.interval
      · exact absurd rfl some

end PowerMonitor.Rates

namespace PowerMonitor.History
open Library Rates

/-- Half an hour from midnight on, measured by a sensor. -/
def halfHour (sensor : String) : Rates.NormalizedInterval :=
  { id := sensor, deviceId := sensor, intervalStart := 0, intervalEnd := 1800000000, selectedEnergyWh := some 500 }

def legInputs (legs : List String) : JobInputs := { flatInputs (legs.map halfHour) with devices := legs }

/-- The morning of a day, as the sensors of the account have measured it. -/
def morning (sensor : String) : AuthoritativeInterval :=
  { intervalId := some sensor, start := 0, finish := 12 * 3600000000, energyKwh := 1, ordered := by decide }

def legCycle (legs : List String) : CycleInputs := { firstDayCycle 0 with intervals := legs.map morning }

theorem completed_of_run {inputs : JobInputs} {keys : CostRunKeys}
    (ends : (inputs.calculate keys).toOption.map JobResult.completed = some true) :
    ∃ result, inputs.calculate keys = .ok result ∧ result.completed = true := by
  cases ran : inputs.calculate keys with
  | error failure =>
      rw [ran] at ends
      cases ends
  | ok result =>
      rw [ran] at ends
      exact ⟨result, rfl, Option.some.inj ends⟩

theorem unionSeconds_twice (finish : Int) : unionSeconds [(0, finish), (0, finish)] = (finish.toNat : Int) / 1000000 := by
  simp [unionSeconds]

end PowerMonitor.History
