import PowerMonitor.Ingestion.Effects
import Mathlib.Order.Bounds.Defs

/-! Acknowledgement safety and exact gap reporting over runs of ingestion calls.

The acknowledged sequence lets a sensor delete its copy of every record up to it.
-/

set_option autoImplicit false
namespace PowerMonitor.Ingestion
open Library

namespace DeviceStore

/-- A fresh cursor, one set by a data reset, or none yet. -/
def StartsCursor (store : DeviceStore) : Prop := ∀ cursor ∈ store.cursor,
  cursor.highestContiguousSequence = cursor.resetBoundary ∧ cursor.maximumSeenSequence = cursor.resetBoundary

instance (store : DeviceStore) : Decidable store.StartsCursor :=
  inferInstanceAs (Decidable (∀ _ ∈ store.cursor, _))

/-- Nothing above the reset boundary is acknowledged without being accounted for. -/
def AckSafe (store : DeviceStore) : Prop := ∀ cursor ∈ store.cursor, ∀ n,
  cursor.resetBoundary < n → n ≤ cursor.highestContiguousSequence →
    store.Accounted cursor.dataGeneration n

end DeviceStore

section Step
variable {readingContentHash : Reading → String} {store final : DeviceStore} {batch : Batch}
  {now : Int} {response : ReadingBatchResponse}

/-- A successful call recalculates the cursor of a state that has grown from the old one. -/
structure Recalculated (store middle final : DeviceStore) (now : Int)
    (response : ReadingBatchResponse) : Prop where
  opened : Opened store middle response.dataGeneration
  stored : ∀ {generation n}, store.Stored generation n → middle.Stored generation n
  aligned : ∀ cursor ∈ store.cursor, cursor.dataGeneration = response.dataGeneration
  result : final = (recalculateCursor middle now response.dataGeneration).1
  highest : response.highestContiguousAcceptedSequence = final.highestContiguous
  ranges : response.missingRanges = final.unresolvedSpans.insertionSort fun a b => a.first ≤ b.first

theorem ingestReadings_recalculated
    (ok : ingestReadings readingContentHash store batch now = .ok (final, response)) :
    ∃ middle, Recalculated store middle final now response := by
  obtain ⟨device, generation, progress, _, _, aligned, loop, close⟩ := ingestReadings_ok.mp ok
  obtain ⟨rfl, rfl⟩ := Prod.mk.inj close
  have opened := openBatch_opened store batch now generation
  have appends := readingLoop_appends loop
  refine ⟨{ progress.store with
    billingCycles := markAffectedCycles device progress.acceptedWindows now progress.store.billingCycles },
    ?_, ?_, aligned, rfl, rfl, rfl⟩
  · -- The loop and the cycle update keep the cursor and every gap row.
    have cursor := appends.cursor
    constructor
    · obtain ⟨row, present, kept⟩ := opened.cursor
      exact ⟨row, cursor.trans present, kept⟩
    · exact (congrArg (fun row => (row.map SyncCursor.resetBoundary).getD 0) cursor).trans opened.boundary
    · intro n lost
      exact (appends.lost n).mpr (opened.lostKept n lost)
    · have same := congrArg (fun row => (row.map SyncCursor.highestContiguousSequence).getD 0) cursor
      exact opened.advanced.trans_eq same.symm
    · intro n past reached
      have same := congrArg (fun row => (row.map SyncCursor.highestContiguousSequence).getD 0) cursor
      exact (appends.lost n).mpr (opened.accounted n past (reached.trans_eq same))
  · intro generation n stored
    exact appends.stored ((openBatch_stored store batch now _ _ n).mpr stored)

namespace Recalculated
variable {middle : DeviceStore}

theorem final_highest (step : Recalculated store middle final now response) : final.highestContiguous =
    (recalculateCursor middle now response.dataGeneration).2.highestContiguousSequence := by
  rw [step.result]
  rfl

theorem final_maximum (step : Recalculated store middle final now response) : final.maximumSeen =
    (recalculateCursor middle now response.dataGeneration).2.maximumSeenSequence := by
  rw [step.result]
  rfl

theorem final_accounted (step : Recalculated store middle final now response) (generation n : Nat) :
    final.Accounted generation n ↔ middle.Accounted generation n := by
  rw [step.result, recalculateCursor_accounted]

theorem final_boundary (step : Recalculated store middle final now response) :
    final.cursorBoundary = store.cursorBoundary := by
  rw [step.result, ← step.opened.boundary]
  exact recalculateCursor_boundary middle now response.dataGeneration

/-- The cursor of the new state carries the accepted generation. -/
theorem final_cursor (step : Recalculated store middle final now response) :
    ∀ cursor ∈ final.cursor, cursor.dataGeneration = response.dataGeneration := by
  intro cursor member
  obtain ⟨row, present, kept⟩ := step.opened.cursor
  have generation : row.dataGeneration = response.dataGeneration := by
    rw [kept]
    cases old : store.cursor with
    | none => rfl
    | some before => exact step.aligned before old
  rw [step.result] at member
  obtain rfl := Option.some.inj ((recalculateCursor_cursor _ _ _).symm.trans member)
  rw [recalculateCursor_dataGeneration, startCursor, present]
  exact generation

theorem advances (step : Recalculated store middle final now response) :
    store.highestContiguous ≤ final.highestContiguous := by
  rw [step.final_highest]
  exact step.opened.advanced.trans (recalculateCursor_highest_le _ _ _)

/-- Whatever a call newly acknowledges is accounted for in the state it commits. -/
theorem newly_accounted (step : Recalculated store middle final now response) {n : Nat}
    (past : store.highestContiguous < n) (reached : n ≤ final.highestContiguous) :
    final.Accounted response.dataGeneration n := by
  rw [step.final_accounted]
  rcases Nat.lt_or_ge middle.highestContiguous n with scanned | jumped
  · exact recalculateCursor_accounts middle now _ scanned (step.final_highest ▸ reached)
  · exact .inr (step.opened.accounted n past jumped)

theorem kept_accounted (step : Recalculated store middle final now response) {generation n : Nat}
    (accounted : store.Accounted generation n) : final.Accounted generation n := by
  rw [step.final_accounted]
  exact accounted.imp step.stored (step.opened.lostKept n)

theorem stops (step : Recalculated store middle final now response) :
    ¬ final.Accounted response.dataGeneration (final.highestContiguous + 1) := by
  rw [step.final_accounted, step.final_highest]
  exact recalculateCursor_stops middle now _

theorem ackSafe (step : Recalculated store middle final now response) (safe : store.AckSafe) :
    final.AckSafe := by
  intro cursor member n above reached
  have highest : final.highestContiguous = cursor.highestContiguousSequence := by
    rw [DeviceStore.highestContiguous, Option.mem_def.mp member]; rfl
  have boundary : store.cursorBoundary = cursor.resetBoundary := by
    rw [← step.final_boundary, DeviceStore.cursorBoundary, Option.mem_def.mp member]; rfl
  rw [step.final_cursor cursor member]
  rcases Nat.lt_or_ge store.highestContiguous n with past | already
  · exact step.newly_accounted past (highest ▸ reached)
  · -- Acknowledged before the call, so the old state already had a cursor row.
    cases old : store.cursor with
    | none =>
        have none : store.highestContiguous = 0 := by simp [DeviceStore.highestContiguous, old]
        omega
    | some before =>
        have oldHighest : store.highestContiguous = before.highestContiguousSequence := by
          simp [DeviceStore.highestContiguous, old]
        have oldBoundary : store.cursorBoundary = before.resetBoundary := by
          simp [DeviceStore.cursorBoundary, old]
        have accounted := safe before old n (by omega) (by omega)
        rw [step.aligned before old] at accounted
        exact step.kept_accounted accounted

theorem maximum_eq (step : Recalculated store middle final now response) : final.maximumSeen =
    max ((final.sequences response.dataGeneration).max?.getD 0) final.cursorBoundary := by
  rw [step.final_maximum, recalculateCursor_maximum, step.final_boundary, step.opened.boundary, step.result]
  rfl

theorem unresolvedSpans_eq (step : Recalculated store middle final now response) :
    final.unresolvedSpans = missing final.maximumSeen (final.highestContiguous + 1)
      (coverage middle response.dataGeneration middle.highestContiguous) := by
  rw [step.final_highest, step.final_maximum, step.result]
  exact recalculateCursor_unresolved middle now _

theorem unresolvedSpans_separated (step : Recalculated store middle final now response) :
    Separated final.unresolvedSpans := by
  rw [step.unresolvedSpans_eq]
  exact missing_separated _ _ _

/-- The recreated rows are separated, so ordering them by their start changes nothing. -/
theorem missingRanges_eq (step : Recalculated store middle final now response) :
    response.missingRanges = final.unresolvedSpans := by
  rw [step.ranges]
  refine List.Pairwise.insertionSort_eq (step.unresolvedSpans_separated.imp ?_)
  intro a b apart
  have := a.ordered
  omega

/-- A sequence below the maximum that is not accounted for has a stored reading beyond it. -/
theorem stored_beyond (step : Recalculated store middle final now response)
    (aboveBoundary : final.cursorBoundary ≤ final.highestContiguous) {n : Nat}
    (past : final.highestContiguous < n) (below : n ≤ final.maximumSeen)
    (unaccounted : ¬ middle.Accounted response.dataGeneration n) :
    ∃ m ∈ middle.sequences response.dataGeneration, n < m := by
  have boundary : final.cursorBoundary = middle.cursorBoundary := by
    rw [step.final_boundary, step.opened.boundary]
  rw [step.final_maximum, recalculateCursor_maximum] at below
  cases greatest : (middle.sequences response.dataGeneration).max? with
  | none => rw [greatest] at below; simp only [Option.getD_none] at below; omega
  | some m =>
      have member := List.max?_mem greatest
      refine ⟨m, member, ?_⟩
      have different : n ≠ m := fun same => unaccounted (.inl (same ▸ member))
      rw [greatest, Option.getD_some] at below
      omega

theorem covers_unresolvedSpans (step : Recalculated store middle final now response)
    (aboveBoundary : final.cursorBoundary ≤ final.highestContiguous) (n : Nat) :
    Covers final.unresolvedSpans n ↔ final.highestContiguous < n ∧ n ≤ final.maximumSeen ∧
      ¬ final.Accounted response.dataGeneration n := by
  have moved : middle.highestContiguous ≤ final.highestContiguous := by
    rw [step.final_highest]
    exact recalculateCursor_highest_le _ _ _
  rw [step.unresolvedSpans_eq, covers_missing _ _ _ (coverage_ascending _ _ _), step.final_accounted,
    Nat.add_one_le_iff]
  refine and_congr_right fun past => and_congr_right fun below => ?_
  rw [covers_coverage _ _ _ _ (by omega)]
  refine and_iff_left_of_imp fun unaccounted => ?_
  obtain ⟨m, member, beyond⟩ := step.stored_beyond aboveBoundary past below unaccounted
  exact ⟨Span.single m, single_mem_coverage member (by omega), beyond⟩

end Recalculated
end Step

/-! ## Runs -/

section Run
variable (readingContentHash : Reading → String)

theorem ingestCall_cases (store : DeviceStore) (call : Batch × Int) :
    ingestCall readingContentHash store call = store ∨
    ∃ middle response, Recalculated store middle (ingestCall readingContentHash store call) call.2 response := by
  rw [ingestCall]
  split
  · next final response ok => exact .inr (by
      obtain ⟨middle, step⟩ := ingestReadings_recalculated ok
      exact ⟨middle, response, step⟩)
  · exact .inl rfl

/-- What every run from a start cursor keeps. -/
structure RunSafe (store : DeviceStore) : Prop where
  ackSafe : store.AckSafe
  aboveBoundary : store.cursorBoundary ≤ store.highestContiguous

theorem StartsCursor.runSafe {store : DeviceStore} (starts : store.StartsCursor) : RunSafe store := by
  constructor
  · intro cursor member n above reached
    have := starts cursor member
    omega
  · cases row : store.cursor with
    | none => simp [DeviceStore.cursorBoundary, row]
    | some cursor =>
        simp only [DeviceStore.cursorBoundary, DeviceStore.highestContiguous, row, Option.map_some,
          Option.getD_some]
        exact (starts cursor row).1.ge

theorem ingestCall_runSafe {store : DeviceStore} (safe : RunSafe store) (call : Batch × Int) :
    RunSafe (ingestCall readingContentHash store call) := by
  rcases ingestCall_cases readingContentHash store call with same | ⟨middle, response, step⟩
  · rwa [same]
  · refine ⟨step.ackSafe safe.ackSafe, ?_⟩
    rw [step.final_boundary]
    exact safe.aboveBoundary.trans step.advances

theorem ingestCall_advances (store : DeviceStore) (call : Batch × Int) :
    store.highestContiguous ≤ (ingestCall readingContentHash store call).highestContiguous := by
  rcases ingestCall_cases readingContentHash store call with same | ⟨middle, response, step⟩
  · rw [same]
  · exact step.advances

theorem ingestRun_runSafe {store : DeviceStore} (safe : RunSafe store) (calls : List (Batch × Int)) :
    RunSafe (ingestRun readingContentHash store calls) :=
  List.foldlRecOn calls _ safe fun _ kept call _ => ingestCall_runSafe readingContentHash kept call

theorem ingestRun_advances (store : DeviceStore) (calls : List (Batch × Int)) :
    store.highestContiguous ≤ (ingestRun readingContentHash store calls).highestContiguous :=
  List.foldlRecOn (motive := fun state : DeviceStore => store.highestContiguous ≤ state.highestContiguous)
    calls _ le_rfl fun _ reached call _ =>
    reached.trans (ingestCall_advances readingContentHash _ call)

theorem ingestRun_append (store : DeviceStore) (earlier later : List (Batch × Int)) :
    ingestRun readingContentHash store (earlier ++ later) =
      ingestRun readingContentHash (ingestRun readingContentHash store earlier) later :=
  List.foldl_append

/-- In every reachable state the acknowledged sequences above the reset boundary are stored
or permanently lost, and no later state acknowledges less. -/
theorem acknowledgement_safety (start : DeviceStore) (starts : start.StartsCursor)
    (earlier later : List (Batch × Int)) :
    (ingestRun readingContentHash start earlier).AckSafe ∧
    (ingestRun readingContentHash start earlier).highestContiguous ≤
      (ingestRun readingContentHash start (earlier ++ later)).highestContiguous := by
  refine ⟨(ingestRun_runSafe readingContentHash (StartsCursor.runSafe starts) earlier).ackSafe, ?_⟩
  rw [ingestRun_append]
  exact ingestRun_advances readingContentHash _ later

/-- A minute of consumption with a device hash, so that no content hash is needed. -/
def minuteReading (generation : Nat) (sequence : PositiveSignedSequence) : Reading :=
  { dataGeneration := generation
    sequence := sequence
    bootId := "boot-a"
    intervalStart := seconds (60 * sequence.val)
    intervalEnd := seconds (60 * sequence.val + 60)
    timeTrusted := true
    powerAvg := some 600
    intervalEnergyWh := some 10
    energyMethod := "power_integration"
    ctRatingAmps := 100
    firmwareVersion := "1.0.0"
    recordHash := some (String.ofList (List.replicate 64 'a'))
    intervalOrder := by simp only [seconds]; omega
    intervalLimit := by simp only [seconds]; omega }

/-- A device after a reset to generation 1 with boundary 5. -/
def resetStore : DeviceStore :=
  { device := some { siteId := "site" }
    dataState := some { dataGeneration := 1, resetBoundary := 5 }
    cursor := some ⟨5, 5, 1, 5, 0⟩ }

theorem sixth : 1 ≤ 6 ∧ 6 ≤ signedBigintMax := by decide

theorem seventh : 1 ≤ 7 ∧ 7 ≤ signedBigintMax := by decide

theorem ninth : 1 ≤ 9 ∧ 9 ≤ signedBigintMax := by decide

def gappedCall : Batch × Int :=
  ({ readings := [minuteReading 1 ⟨9, ninth⟩, minuteReading 1 ⟨6, sixth⟩]
     source := .push
     unavailableSequenceRanges := [⟨⟨7, 7, by decide⟩, by decide, by decide⟩] }, seconds 3600)

theorem acknowledgement_safety_gapped :
    (ingestRun (fun _ => "") resetStore [gappedCall]).highestContiguous = 7 ∧
    (ingestRun (fun _ => "") resetStore [gappedCall]).AckSafe :=
  ⟨rfl, (acknowledgement_safety (fun _ => "") resetStore (by decide) [gappedCall] []).1⟩

/-- The reported ranges are the maximal runs of what is missing, and the acknowledged
sequence is the furthest one reachable over accounted sequences. -/
theorem missing_ranges_exact (start : DeviceStore) (starts : start.StartsCursor)
    (calls : List (Batch × Int)) (batch : Batch) (now : Int) {final : DeviceStore}
    {response : ReadingBatchResponse}
    (ok : ingestReadings readingContentHash (ingestRun readingContentHash start calls) batch now =
      .ok (final, response)) :
    Separated response.missingRanges ∧
    (∀ n, Covers response.missingRanges n ↔
      final.highestContiguous < n ∧ n ≤ final.maximumSeen ∧
        ¬ final.Stored response.dataGeneration n ∧ ¬ final.Lost n) ∧
    response.highestContiguousAcceptedSequence = final.highestContiguous ∧
    IsGreatest { highest | (ingestRun readingContentHash start calls).highestContiguous ≤ highest ∧
      ∀ n, (ingestRun readingContentHash start calls).highestContiguous < n → n ≤ highest →
        final.Stored response.dataGeneration n ∨ final.Lost n } final.highestContiguous := by
  have safe := ingestRun_runSafe readingContentHash (StartsCursor.runSafe starts) calls
  obtain ⟨middle, step⟩ := ingestReadings_recalculated ok
  have aboveBoundary : final.cursorBoundary ≤ final.highestContiguous := by
    rw [step.final_boundary]
    exact safe.aboveBoundary.trans step.advances
  refine ⟨?_, ?_, step.highest, ⟨step.advances, fun n past reached => step.newly_accounted past reached⟩, ?_⟩
  · rw [step.missingRanges_eq]
    exact step.unresolvedSpans_separated
  · intro n
    rw [step.missingRanges_eq, step.covers_unresolvedSpans aboveBoundary, DeviceStore.Accounted, not_or]
  · rintro highest ⟨_, accounted⟩
    by_contra further
    have advanced := step.advances
    exact step.stops (accounted _ (by omega) (by omega))

theorem missing_ranges_exact_gapped : ∃ final response,
    ingestReadings (fun _ => "") resetStore gappedCall.1 gappedCall.2 = .ok (final, response) ∧
    response.missingRanges = [⟨8, 8, le_rfl⟩] ∧ Separated response.missingRanges := by
  refine ⟨_, _, rfl, rfl, ?_⟩
  exact (missing_ranges_exact (fun _ => "") resetStore (by decide) [] gappedCall.1 gappedCall.2 rfl).1

end Run

end PowerMonitor.Ingestion
