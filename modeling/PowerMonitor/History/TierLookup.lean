import PowerMonitor.History.Costs

/-! The lookup of the tier segments of a time range by the schedule of their account.

Segments are kept by start. The lookup walks back from the last one that has started, and stops at the first
that has ended: a longer segment that began before that one and is still open is not found.
-/

set_option autoImplicit false
namespace PowerMonitor.History
open Library

namespace TierSegmentIndex
variable {index : TierSegmentIndex} {values : List TierAllocationSegment} {versionId : String}
  {normalizedIntervalId : Option String} {start finish : Int}

/-! ## The walk -/

theorem walkBack_le {cursor : Nat} : walkBack values start cursor ≤ cursor := by
  induction cursor with
  | zero => simp [walkBack]
  | succ cursor ih =>
      rw [walkBack]
      split <;> omega

/-- What the walk passes is open at the start. -/
theorem open_of_walked {cursor place : Nat} {segment : TierAllocationSegment}
    (walked : walkBack values start cursor ≤ place) (inside : place < cursor) (found : values[place]? = some segment) :
    start < segment.intervalEnd := by
  induction cursor with
  | zero => omega
  | succ cursor ih =>
      rw [walkBack] at walked
      split at walked
      · rename_i stillOpen
        by_cases last : place = cursor
        · simpa [← last, found] using stillOpen
        · exact ih walked (by omega)
      · omega

/-- The walk stops at a segment that has ended, if not at the first. -/
theorem ended_of_stopped {cursor place : Nat} {segment : TierAllocationSegment}
    (stopped : walkBack values start cursor = place + 1) (found : values[place]? = some segment) :
    segment.intervalEnd ≤ start := by
  induction cursor with
  | zero => simp [walkBack] at stopped
  | succ cursor ih =>
      rw [walkBack] at stopped
      split at stopped
      · exact ih stopped
      · rename_i ended
        obtain rfl : cursor = place := by omega
        simpa [found] using ended

/-! ## The segments that have started -/

theorem byVersion_sorted :
    (index.byVersion versionId).Pairwise fun first second => first.intervalStart ≤ second.intervalStart := by
  have sorted : (index.byVersion versionId).Pairwise fun first second => first.sortKey ≤ second.sortKey :=
    sortByKey_sorted _
  refine sorted.imp ?_
  intro first second ordered
  rcases (Prod.Lex.toLex_le_toLex.mp ordered) with earlier | ⟨same, -⟩
  · exact earlier.le
  · exact same.le

/-- How many segments have started by a time. -/
def started (values : List TierAllocationSegment) (start : Int) : Nat :=
  values.countP fun segment => segment.intervalStart ≤ start

/-- Among the segments that have started, the last one apart, the open ones come last. -/
def OpenLast (values : List TierAllocationSegment) (start : Int) : Prop :=
  ∀ place later, place < later → later + 1 < started values start →
    ∀ segment ∈ values[place]?, ∀ follower ∈ values[later]?,
      start < segment.intervalEnd → start < follower.intervalEnd

/-- What the lookup leaves out is what lies before the place where the walk stops. -/
theorem skipped_eq_nil_iff :
    ((values.take (walkBack values start (started values start - 1))).filter fun segment =>
      start < segment.intervalEnd) = [] ↔ OpenLast values start := by
  have bounded : walkBack values start (started values start - 1) ≤ started values start - 1 := walkBack_le
  have total : started values start ≤ values.length := List.countP_le_length
  rw [List.filter_eq_nil_iff]
  constructor
  · intro nothing place later before early segment found follower next stillOpen
    -- An open segment lies where the walk went, and so does all that follows it.
    have reached : walkBack values start (started values start - 1) ≤ place := by
      by_contra short
      refine nothing segment ?_ (by simpa using stillOpen)
      exact List.mem_of_getElem? ((List.getElem?_take_of_lt (by omega)).trans found)
    exact open_of_walked (reached.trans before.le) (by omega) next
  · intro openLast segment skipped stillOpen
    obtain ⟨place, found⟩ := List.getElem?_of_mem skipped
    have inside : place < walkBack values start (started values start - 1) := by
      have := (List.getElem?_eq_some_iff.mp found).1
      simp only [List.length_take] at this
      omega
    rw [List.getElem?_take_of_lt inside] at found
    -- The walk stopped just after a segment that has ended.
    obtain ⟨last, stop⟩ : ∃ last, walkBack values start (started values start - 1) = last + 1 :=
      ⟨_, (Nat.succ_pred_eq_of_pos (by omega)).symm⟩
    have present : last < values.length := by omega
    have ended := ended_of_stopped stop (List.getElem?_eq_getElem present)
    simp only [decide_eq_true_eq] at stillOpen
    by_cases same : place = last
    · subst same
      rw [List.getElem?_eq_getElem present, Option.some.injEq] at found
      rw [found] at ended
      omega
    · have := openLast place last (by omega) (by omega) segment found _ (List.getElem?_eq_getElem present) stillOpen
      omega

theorem filter_overlaps (sorted : values.Pairwise fun first second => first.intervalStart ≤ second.intervalStart)
    (proper : start < finish) :
    values.filter (fun segment => segment.Overlaps start finish) =
      ((values.take (walkBack values start (started values start - 1))).filter fun segment =>
        start < segment.intervalEnd) ++ fallback values start finish := by
  have closed : values.Pairwise fun first second =>
      decide (second.intervalStart < finish) → decide (first.intervalStart < finish) := by
    refine sorted.imp ?_
    intro first second ordered early
    simp only [decide_eq_true_eq] at early ⊢
    omega
  have within : walkBack values start (started values start - 1) ≤
      values.countP fun segment => segment.intervalStart < finish := by
    have bounded : walkBack values start (started values start - 1) ≤ started values start - 1 := walkBack_le
    have more : started values start ≤ values.countP fun segment => segment.intervalStart < finish := by
      apply List.countP_mono_left
      intro segment _ early
      simp only [decide_eq_true_eq] at early ⊢
      omega
    omega
  calc values.filter (fun segment => segment.Overlaps start finish)
      = (values.filter fun segment => segment.intervalStart < finish).filter fun segment =>
          start < segment.intervalEnd := by
        rw [List.filter_filter]
        apply List.filter_congr
        intro segment _
        simp [TierAllocationSegment.Overlaps, and_comm]
    _ = (values.take (values.countP fun segment => segment.intervalStart < finish)).filter fun segment =>
          start < segment.intervalEnd := by rw [filter_eq_take closed]
    _ = _ := by
        rw [fallback, ← List.filter_append]
        congr 1
        conv_lhs => rw [← List.take_append_drop (walkBack values start (started values start - 1))
          (values.take (values.countP fun segment => segment.intervalStart < finish))]
        rw [List.take_take, min_eq_left within]
        rfl

theorem fallback_eq_scan_iff (sorted : values.Pairwise fun first second => first.intervalStart ≤ second.intervalStart)
    (proper : start < finish) :
    fallback values start finish = values.filter (fun segment => segment.Overlaps start finish) ↔
      OpenLast values start := by
  rw [filter_overlaps sorted proper, ← skipped_eq_nil_iff]
  exact List.self_eq_append_left

theorem overlapping_fallback (used : (index.overlapping versionId normalizedIntervalId start finish).2 = true) :
    (index.overlapping versionId normalizedIntervalId start finish).1 =
      fallback (index.byVersion versionId) start finish := by
  simp only [overlapping] at used ⊢
  split at used
  · cases used
  · rename_i nothing
    rw [if_neg nothing]

end TierSegmentIndex

/-- The schedule lookup is the scan of the segments of the version exactly when the open ones come last. -/
theorem overlapping_eq_scan_iff (index : TierSegmentIndex) (versionId : String) (normalizedIntervalId : Option String)
    {start finish : Int} (proper : start < finish)
    (used : (index.overlapping versionId normalizedIntervalId start finish).2 = true) :
    (index.overlapping versionId normalizedIntervalId start finish).1 =
        (index.byVersion versionId).filter (fun segment => segment.Overlaps start finish) ↔
      TierSegmentIndex.OpenLast (index.byVersion versionId) start := by
  rw [TierSegmentIndex.overlapping_fallback used]
  exact TierSegmentIndex.fallback_eq_scan_iff TierSegmentIndex.byVersion_sorted proper

/-! ## Nested segments -/

/-- A segment of the version "rates" of the account "home". -/
def segmentBetween (intervalStart intervalEnd : Int) : TierAllocationSegment :=
  { billingCycleId := "cycle", utilityAccountId := "home", intervalStart := intervalStart, intervalEnd := intervalEnd
    rateVersionId := "rates", tierStableId := "first", tierName := "First", cumulativeStartKwh := 0
    cumulativeEndKwh := 1, segmentEnergyKwh := 1, pricePerKwh := 1, unroundedEnergyCharge := 1
    usageAuthorityType := "physical_meter", recalculationVersion := 1 }

def nestedSchedule : TierSegmentIndex := ⟨[segmentBetween 0 100, segmentBetween 10 60, segmentBetween 12 22]⟩

def hiddenSchedule : TierSegmentIndex := ⟨[segmentBetween 0 100, segmentBetween 10 20, segmentBetween 12 22]⟩

theorem nestedSchedule_openLast : TierSegmentIndex.OpenLast (nestedSchedule.byVersion "rates") 50 := by
  have all : TierSegmentIndex.started (nestedSchedule.byVersion "rates") 50 = 3 := by decide
  have second : (nestedSchedule.byVersion "rates")[1]? = some (segmentBetween 10 60) := by decide
  intro place later before early segment found follower next _
  obtain rfl : later = 1 := by omega
  obtain rfl : segmentBetween 10 60 = follower := by simpa [second] using next
  decide

theorem nested_schedule_found :
    nestedSchedule.overlapping "rates" none 50 60 = ([segmentBetween 0 100, segmentBetween 10 60], true) := by
  refine Prod.ext ?_ (by decide)
  rw [(overlapping_eq_scan_iff nestedSchedule "rates" none (by decide) (by decide)).mpr nestedSchedule_openLast]
  decide

/-- A segment that is still open is lost behind a short one that began later. -/
theorem long_segment_missed :
    (∀ segment ∈ hiddenSchedule.segments, segment.intervalStart < segment.intervalEnd) ∧
      hiddenSchedule.overlapping "rates" none 50 60 = ([], true) ∧
      (hiddenSchedule.byVersion "rates").filter (fun segment => segment.Overlaps 50 60) = [segmentBetween 0 100] := by
  decide

end PowerMonitor.History
