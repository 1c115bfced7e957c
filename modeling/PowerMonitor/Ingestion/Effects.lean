import PowerMonitor.Ingestion.Service
import Mathlib.Data.List.Dedup

/-! What each part of the ingestion service does to a device's rows.

One specification per function. The claims about runs cite these and never
unfold the service again.
-/

set_option autoImplicit false
namespace PowerMonitor.Ingestion
open Library

/-! ## Permanent losses -/

theorem covers_append {left right : List Span} {n : Nat} :
    Covers (left ++ right) n ↔ Covers left n ∨ Covers right n := by
  simp [Covers, or_and_right, exists_or]

/-- Bounds of the lost rows among arbitrary gap rows. -/
def lostOf (gaps : List SequenceGap) : List Span := (gaps.filter SequenceGap.lost).map SequenceGap.span

theorem covers_lostOf {gaps : List SequenceGap} {n : Nat} :
    Covers (lostOf gaps) n ↔ ∃ gap ∈ gaps, gap.lost = true ∧ gap.span.Contains n := by
  simp [Covers, lostOf, and_assoc]

theorem markPermanentLoss_lost (now : Int) (gaps : List SequenceGap) (span : Span) (n : Nat) :
    Covers (lostOf (markPermanentLoss now gaps span)) n ↔ Covers (lostOf gaps) n ∨ span.Contains n := by
  simp only [covers_lostOf, markPermanentLoss]
  split
  · next present =>
      obtain ⟨row, rowMember, rowSpan⟩ := List.any_eq_true.mp present
      have rowSpan : row.span = span := by simpa using rowSpan
      constructor
      · rintro ⟨gap, member, lost, inside⟩
        obtain ⟨old, oldMember, rfl⟩ := List.mem_map.mp member
        split at lost <;> split at inside
        · next same => exact .inr (same ▸ inside)
        · contradiction
        · contradiction
        · exact .inl ⟨old, oldMember, lost, inside⟩
      · rintro (⟨gap, member, lost, inside⟩ | inside)
        · refine ⟨_, List.mem_map.mpr ⟨gap, member, rfl⟩, ?_⟩
          split
          · exact ⟨rfl, inside⟩
          · exact ⟨lost, inside⟩
        · refine ⟨_, List.mem_map.mpr ⟨row, rowMember, rfl⟩, ?_⟩
          rw [if_pos rowSpan]
          exact ⟨rfl, rowSpan ▸ inside⟩
  · simp [SequenceGap.lost, or_and_right, exists_or]

theorem markPermanentLosses_lost (now : Int) (gaps : List SequenceGap) (spans : List Span) (n : Nat) :
    Covers (lostOf (spans.foldl (markPermanentLoss now) gaps)) n ↔
      Covers (lostOf gaps) n ∨ Covers spans n := by
  induction spans generalizing gaps with
  | nil => simp
  | cons span rest ih => rw [List.foldl_cons, ih, markPermanentLoss_lost, covers_cons, or_assoc]

theorem mem_unavailableSequences (store : DeviceStore) (generation : Nat)
    (ranges : List UnavailableSequenceRange) (n : Nat) :
    n ∈ unavailableSequences store generation ranges ↔
      (∃ range ∈ ranges, range.span.Contains n) ∧ ¬ store.Stored generation n := by
  simp only [unavailableSequences, List.mem_insertionSort, List.mem_filter, List.mem_dedup,
    List.mem_flatMap, Span.mem_members, decide_eq_true_eq]

theorem recordPermanentLossRanges_lost (store : DeviceStore) (ranges : List UnavailableSequenceRange)
    (now : Int) (generation n : Nat) :
    (recordPermanentLossRanges store ranges now generation).Lost n ↔
      store.Lost n ∨ ((∃ range ∈ ranges, range.span.Contains n) ∧ ¬ store.Stored generation n) := by
  have marked := markPermanentLosses_lost now store.sequenceGaps
    (runs (unavailableSequences store generation ranges)) n
  rw [covers_runs, mem_unavailableSequences] at marked
  exact marked

/-! ## The cursor -/

theorem covers_coverage (store : DeviceStore) (generation highest n : Nat) (past : highest < n) :
    Covers (coverage store generation highest) n ↔ store.Accounted generation n := by
  simp only [coverage, covers_sortSpans, covers_append, DeviceStore.Accounted]
  refine or_congr ?_ ?_
  · simp only [Covers, DeviceStore.Stored, List.mem_map, List.mem_filter, decide_eq_true_eq]
    constructor
    · rintro ⟨span, ⟨m, ⟨member, _⟩, rfl⟩, inside⟩
      rw [Span.contains_single] at inside
      exact inside ▸ member
    · intro member
      exact ⟨Span.single n, ⟨n, ⟨member, past⟩, rfl⟩, by simp⟩
  · simp only [DeviceStore.Lost, Covers, List.mem_filter, decide_eq_true_eq]
    constructor
    · rintro ⟨span, ⟨member, _⟩, inside⟩
      exact ⟨span, member, inside⟩
    · rintro ⟨span, member, inside⟩
      exact ⟨span, ⟨member, by have := inside.2; omega⟩, inside⟩

theorem coverage_ascending (store : DeviceStore) (generation highest : Nat) :
    Ascending (coverage store generation highest) := sortSpans_ascending _

theorem single_mem_coverage {store : DeviceStore} {generation highest n : Nat}
    (member : n ∈ store.sequences generation) (past : highest < n) :
    Span.single n ∈ coverage store generation highest := by
  refine (List.mem_insertionSort _).mpr (List.mem_append_left _ (List.mem_map.mpr ⟨n, ?_, rfl⟩))
  exact List.mem_filter.mpr ⟨member, by simpa using past⟩

section Recalculate
variable (store : DeviceStore) (now : Int) (generation : Nat)

/-- The cursor row `recalculateCursor` starts from. -/
def startCursor : SyncCursor := store.cursor.getD (freshCursor generation now)

theorem startCursor_highest :
    (startCursor store now generation).highestContiguousSequence = store.highestContiguous := by
  cases row : store.cursor <;> simp [startCursor, DeviceStore.highestContiguous, freshCursor, row]

theorem startCursor_boundary :
    (startCursor store now generation).resetBoundary = store.cursorBoundary := by
  cases row : store.cursor <;> simp [startCursor, DeviceStore.cursorBoundary, freshCursor, row]

theorem recalculateCursor_cursor :
    (recalculateCursor store now generation).1.cursor = some (recalculateCursor store now generation).2 := rfl

@[simp] theorem recalculateCursor_stored (other n : Nat) :
    (recalculateCursor store now generation).1.Stored other n ↔ store.Stored other n := Iff.rfl

@[simp] theorem recalculateCursor_lost (n : Nat) :
    (recalculateCursor store now generation).1.Lost n ↔ store.Lost n := by
  simp only [DeviceStore.lost_iff, recalculateCursor, List.mem_append, List.mem_filter, List.mem_map]
  constructor
  · rintro ⟨gap, ⟨member, _⟩ | ⟨span, _, rfl⟩, permanent, resolved, inside⟩
    · exact ⟨gap, member, permanent, resolved, inside⟩
    · simp at permanent
  · rintro ⟨gap, member, permanent, resolved, inside⟩
    exact ⟨gap, .inl ⟨member, resolved⟩, permanent, resolved, inside⟩

@[simp] theorem recalculateCursor_accounted (other n : Nat) :
    (recalculateCursor store now generation).1.Accounted other n ↔ store.Accounted other n := by
  simp [DeviceStore.Accounted]

theorem recalculateCursor_dataGeneration :
    (recalculateCursor store now generation).2.dataGeneration =
      (startCursor store now generation).dataGeneration := rfl

theorem recalculateCursor_boundary :
    (recalculateCursor store now generation).2.resetBoundary = store.cursorBoundary :=
  startCursor_boundary store now generation

theorem recalculateCursor_maximum :
    (recalculateCursor store now generation).2.maximumSeenSequence =
      max ((store.sequences generation).max?.getD 0) store.cursorBoundary := by
  rw [← startCursor_boundary store now generation]
  rfl

theorem recalculateCursor_highest_eq :
    (recalculateCursor store now generation).2.highestContiguousSequence + 1 =
      advance (store.highestContiguous + 1) (coverage store generation store.highestContiguous) := by
  have start := startCursor_highest store now generation
  have bound := le_advance (store.highestContiguous + 1)
    (coverage store generation store.highestContiguous)
  simp only [startCursor] at start
  simp only [recalculateCursor, start]
  omega

/-- The cursor never moves back. -/
theorem recalculateCursor_highest_le :
    store.highestContiguous ≤ (recalculateCursor store now generation).2.highestContiguousSequence := by
  have bound := le_advance (store.highestContiguous + 1)
    (coverage store generation store.highestContiguous)
  have := recalculateCursor_highest_eq store now generation
  omega

/-- Every sequence the cursor moves over is accounted for. -/
theorem recalculateCursor_accounts {n : Nat} (past : store.highestContiguous < n)
    (reached : n ≤ (recalculateCursor store now generation).2.highestContiguousSequence) :
    store.Accounted generation n := by
  have position := recalculateCursor_highest_eq store now generation
  refine (covers_coverage store generation store.highestContiguous n past).mp ?_
  exact covers_below_advance (store.highestContiguous + 1) _ past (by omega)

/-- The cursor stops before a sequence that is not accounted for. -/
theorem recalculateCursor_stops :
    ¬ store.Accounted generation
      ((recalculateCursor store now generation).2.highestContiguousSequence + 1) := by
  have position := recalculateCursor_highest_eq store now generation
  have bound := le_advance (store.highestContiguous + 1)
    (coverage store generation store.highestContiguous)
  rw [position, ← covers_coverage store generation store.highestContiguous _ (by omega)]
  exact not_covers_advance _ _ (coverage_ascending _ _ _)

/-- The unresolved rows are exactly the recreated ones. -/
theorem recalculateCursor_unresolved :
    (recalculateCursor store now generation).1.unresolvedSpans =
      missing (recalculateCursor store now generation).2.maximumSeenSequence
        ((recalculateCursor store now generation).2.highestContiguousSequence + 1)
        (coverage store generation store.highestContiguous) := by
  have start := startCursor_highest store now generation
  simp only [startCursor] at start
  have noneLeft : (store.sequenceGaps.filter fun gap => gap.resolvedAt.isSome).filter
      (fun gap => gap.resolvedAt.isNone) = [] := by
    rw [List.filter_filter, List.filter_eq_nil_iff]
    intro gap _
    cases gap.resolvedAt <;> simp
  simp only [recalculateCursor, DeviceStore.unresolvedSpans, start, List.filter_append, noneLeft,
    List.nil_append, List.filter_map, List.map_map]
  rw [List.filter_eq_self.mpr (by simp)]
  simp [Function.comp_def]

end Recalculate

/-! ## Opening a batch -/

section Open
variable (store : DeviceStore) (batch : Batch) (now : Int) (generation : Nat)

/-- Either no cursor jump, or a jump from zero whose skipped sequences are recorded as lost. -/
theorem bootstrapCursor_cases (cursor : SyncCursor) :
    (bootstrapCursor store cursor batch now generation = store ∧
      ∀ first, ¬ Bootstraps store cursor batch generation first) ∨
    ∃ first, ∃ bootstraps : Bootstraps store cursor batch generation first,
      bootstrapCursor store cursor batch now generation =
        { store with
          cursor := some { cursor with
            highestContiguousSequence := first - 1
            maximumSeenSequence := first - 1
            updatedAt := now }
          sequenceGaps := markPermanentLoss now store.sequenceGaps
            ⟨1, first - 1, bootstraps.skips⟩ } := by
  rw [bootstrapCursor]
  split
  · next empty =>
      refine .inl ⟨rfl, fun first bootstraps => ?_⟩
      have minimum := bootstraps.2.1
      rw [empty] at minimum
      cases minimum
  · next first minimum =>
      by_cases bootstraps : Bootstraps store cursor batch generation first
      · exact .inr ⟨first, bootstraps, by rw [dif_pos bootstraps]⟩
      · refine .inl ⟨by rw [dif_neg bootstraps], fun other holds => ?_⟩
        have same := minimum.symm.trans holds.2.1
        exact bootstraps (Option.some.inj same ▸ holds)

/-- The cursor row a batch works with, inserted when it is missing. -/
def withCursor : DeviceStore :=
  { store with cursor := some (startCursor store now generation) }

theorem openBatch_eq : openBatch store batch now generation =
    recordPermanentLossRanges
      (bootstrapCursor (withCursor store now generation) (startCursor store now generation) batch now generation)
      batch.unavailableSequenceRanges now generation := rfl

/-- Only the cursor and the gap rows change before the reading loop. -/
theorem openBatch_frame : openBatch store batch now generation =
    { store with
      cursor := (openBatch store batch now generation).cursor
      sequenceGaps := (openBatch store batch now generation).sequenceGaps } := by
  have opened := openBatch_eq store batch now generation
  rcases bootstrapCursor_cases (withCursor store now generation) batch now generation
    (startCursor store now generation) with ⟨same, _⟩ | ⟨first, bootstraps, same⟩
  all_goals rw [opened, same]; rfl

theorem openBatch_rawReadings : (openBatch store batch now generation).rawReadings = store.rawReadings := by
  rw [openBatch_frame]

theorem openBatch_stored (other n : Nat) :
    (openBatch store batch now generation).Stored other n ↔ store.Stored other n := by
  simp only [DeviceStore.stored_iff, openBatch_rawReadings]

/-- What a batch finds when its reading loop starts. -/
structure Opened (before after : DeviceStore) (generation : Nat) : Prop where
  cursor : ∃ row, after.cursor = some row ∧
    row.dataGeneration = (before.cursor.map SyncCursor.dataGeneration).getD generation
  boundary : after.cursorBoundary = before.cursorBoundary
  lostKept : ∀ n, before.Lost n → after.Lost n
  advanced : before.highestContiguous ≤ after.highestContiguous
  accounted : ∀ n, before.highestContiguous < n → n ≤ after.highestContiguous → after.Lost n

theorem openBatch_opened : Opened store (openBatch store batch now generation) generation := by
  have generationKept : (startCursor store now generation).dataGeneration =
      (store.cursor.map SyncCursor.dataGeneration).getD generation := by
    cases row : store.cursor <;> simp [startCursor, freshCursor, row]
  have highest := startCursor_highest store now generation
  have boundary := startCursor_boundary store now generation
  have opened := openBatch_eq store batch now generation
  rcases bootstrapCursor_cases (withCursor store now generation) batch now generation
    (startCursor store now generation) with ⟨same, _⟩ | ⟨first, bootstraps, same⟩
  · rw [same] at opened
    have kept : (openBatch store batch now generation).highestContiguous = store.highestContiguous := by
      rw [opened]; exact highest
    refine ⟨⟨_, by rw [opened]; rfl, generationKept⟩, by rw [opened]; exact boundary, ?_, kept.ge, ?_⟩
    · intro n lost
      rw [opened, recordPermanentLossRanges_lost]
      exact .inl lost
    · intro n past reached
      omega
  · rw [same] at opened
    have fromZero : store.highestContiguous = 0 := highest ▸ bootstraps.1
    have jump : (openBatch store batch now generation).highestContiguous = first - 1 := by
      rw [opened]; rfl
    have marked := markPermanentLoss_lost now store.sequenceGaps
      ⟨1, first - 1, bootstraps.skips⟩
    have row : (openBatch store batch now generation).cursor =
        some { startCursor store now generation with
          highestContiguousSequence := first - 1, maximumSeenSequence := first - 1, updatedAt := now } := by
      rw [opened]; rfl
    refine ⟨⟨_, row, generationKept⟩, by rw [opened]; exact boundary, ?_, by omega, ?_⟩
    · intro n lost
      rw [opened, recordPermanentLossRanges_lost]
      exact .inl ((marked n).mpr (.inl lost))
    · intro n past reached
      rw [opened, recordPermanentLossRanges_lost]
      exact .inl ((marked n).mpr (.inr ⟨by simp only; omega, by simp only; omega⟩))

/-- Without a bootstrap the cursor stays and exactly the unbacked declared sequences become lost. -/
theorem openBatch_lost (plain : ∀ first,
    ¬ Bootstraps store (startCursor store now generation) batch generation first) (n : Nat) :
    (openBatch store batch now generation).highestContiguous = store.highestContiguous ∧
    ((openBatch store batch now generation).Lost n ↔ store.Lost n ∨
      ((∃ range ∈ batch.unavailableSequenceRanges, range.span.Contains n) ∧ ¬ store.Stored generation n)) := by
  have opened := openBatch_eq store batch now generation
  rcases bootstrapCursor_cases (withCursor store now generation) batch now generation
    (startCursor store now generation) with ⟨same, _⟩ | ⟨first, bootstraps, _⟩
  · rw [opened, same, recordPermanentLossRanges_lost]
    exact ⟨startCursor_highest store now generation, Iff.rfl⟩
  · exact absurd bootstraps (plain first)

end Open

/-! ## The reading loop -/

section Loop
variable {readingContentHash : Reading → String} {device : Device} {batch : Batch} {now : Int}
  {generation : Nat} {progress next : Progress} {reading : Reading}

/-- The four outcomes of one turn that does not raise. -/
theorem ingestReading_cases
    (turn : ingestReading readingContentHash device batch now generation progress reading = .ok next) :
    (inFuture batch now reading ∧
      next = { progress with rejected := progress.rejected ++ [futureRejection reading] }) ∨
    (¬ inFuture batch now reading ∧ ∃ existing,
      existingReading progress.store generation reading = some existing ∧
      existing.recordHash = incomingHash readingContentHash reading ∧
      next = { progress with duplicates := progress.duplicates ++ [reading.sequence.val] }) ∨
    (¬ inFuture batch now reading ∧ ∃ existing event,
      existingReading progress.store generation reading = some existing ∧
      existing.recordHash ≠ incomingHash readingContentHash reading ∧
      next = { progress with
        rejected := progress.rejected ++ [conflictRejection reading]
        store := { progress.store with deviceEvents := progress.store.deviceEvents ++ [event] } }) ∨
    (¬ inFuture batch now reading ∧
      (∀ raw ∈ progress.store.rawReadings, raw.sequence ≠ reading.sequence) ∧
      next = acceptReading readingContentHash device batch.source now generation progress reading) := by
  rw [ingestReading] at turn
  split at turn
  · next future => exact .inl ⟨future, (Except.ok.inj turn).symm⟩
  · next notFuture =>
      refine .inr ?_
      split at turn
      · next existing found =>
          rw [ingestExisting] at turn
          split at turn
          · next same => exact .inl ⟨notFuture, existing, found, same, (Except.ok.inj turn).symm⟩
          · next conflict =>
              obtain ⟨_, result⟩ := raiseIf_bind_eq_ok.mp turn
              exact .inr (.inl ⟨notFuture, existing, _, found, conflict, (Except.ok.inj result).symm⟩)
      · obtain ⟨fresh, result⟩ := raiseIf_bind_eq_ok.mp turn
        refine .inr (.inr ⟨notFuture, fun raw member same => fresh ⟨raw, member, same⟩, ?_⟩)
        exact (Except.ok.inj result).symm

/-- What the loop may do to the rows: append readings and events. -/
structure Appends (before after : DeviceStore) : Prop where
  frame : after = { before with
    rawReadings := after.rawReadings
    normalizedIntervals := after.normalizedIntervals
    deviceEvents := after.deviceEvents }
  kept : ∀ raw ∈ before.rawReadings, raw ∈ after.rawReadings

theorem Appends.refl (store : DeviceStore) : Appends store store := ⟨rfl, fun _ member => member⟩

theorem Appends.trans {first second third : DeviceStore} (earlier : Appends first second)
    (later : Appends second third) : Appends first third := by
  refine ⟨?_, fun raw member => later.kept raw (earlier.kept raw member)⟩
  rw [later.frame, earlier.frame]

theorem ingestReading_appends
    (turn : ingestReading readingContentHash device batch now generation progress reading = .ok next) :
    Appends progress.store next.store := by
  rcases ingestReading_cases turn with ⟨_, rfl⟩ | ⟨_, existing, _, _, rfl⟩ |
    ⟨_, existing, event, _, _, rfl⟩ | ⟨_, _, rfl⟩
  · exact .refl _
  · exact .refl _
  · exact ⟨rfl, fun _ member => member⟩
  · exact ⟨rfl, fun _ member => List.mem_append_left _ member⟩

theorem readingLoop_appends {readings : List Reading} {start : DeviceStore} {final : Progress}
    (loop : readings.foldlM (ingestReading readingContentHash device batch now generation)
      ({ store := start } : Progress) = .ok final) :
    Appends start final.store := by
  refine foldlM_invariant (fun state => Appends start state.store) readings (.refl start) ?_ loop
  intro state item after _ turn appended
  exact appended.trans (ingestReading_appends turn)

theorem Appends.lost {before after : DeviceStore} (appends : Appends before after) (n : Nat) :
    after.Lost n ↔ before.Lost n := by
  rw [appends.frame]
  exact Iff.rfl

theorem Appends.cursor {before after : DeviceStore} (appends : Appends before after) :
    after.cursor = before.cursor := by
  rw [appends.frame]

theorem Appends.stored {before after : DeviceStore} (appends : Appends before after) {other n : Nat}
    (stored : before.Stored other n) : after.Stored other n := by
  rw [DeviceStore.stored_iff] at stored ⊢
  obtain ⟨raw, member, holds⟩ := stored
  exact ⟨raw, appends.kept raw member, holds⟩

end Loop

/-! ## A whole call -/

section Call
variable {readingContentHash : Reading → String} {store final : DeviceStore} {batch : Batch}
  {now : Int} {response : ReadingBatchResponse}

/-- The guards a successful call has passed and the loop it has run. -/
theorem ingestReadings_ok :
    ingestReadings readingContentHash store batch now = .ok (final, response) ↔
    ∃ device generation progress, store.device = some device ∧
      enforceDataGenerationGate store.dataState batch.readings batch.dataGeneration
        batch.unavailableSequenceRanges = .ok generation ∧
      (∀ cursor ∈ store.cursor, cursor.dataGeneration = generation) ∧
      batch.readings.foldlM (ingestReading readingContentHash device batch now generation)
        ({ store := openBatch store batch now generation } : Progress) = .ok progress ∧
      closeBatch device now generation progress = (final, response) := by
  rw [ingestReadings]
  cases known : store.device with
  | none => simp [throw, throwThe, MonadExceptOf.throw]
  | some device =>
      simp only [Option.some.injEq]
      constructor
      · intro run
        obtain ⟨generation, gate, run⟩ := bind_eq_ok.mp run
        obtain ⟨aligned, run⟩ := raiseIf_bind_eq_ok.mp run
        obtain ⟨progress, loop, close⟩ := bind_eq_ok.mp run
        refine ⟨device, generation, progress, rfl, ?_, ?_, loop, Except.ok.inj close⟩
        · cases passed : enforceDataGenerationGate store.dataState batch.readings batch.dataGeneration
            batch.unavailableSequenceRanges with
          | error failure => simp [passed, Except.mapError] at gate
          | ok value => simpa [passed, Except.mapError] using gate
        · intro cursor member
          by_contra different
          exact aligned ⟨cursor, member, different⟩
      · rintro ⟨device, generation, progress, rfl, gate, aligned, loop, close⟩
        refine bind_eq_ok.mpr ⟨generation, by rw [gate]; rfl, raiseIf_bind_eq_ok.mpr ⟨?_, ?_⟩⟩
        · rintro ⟨cursor, member, different⟩
          exact different (aligned cursor member)
        · exact bind_eq_ok.mpr ⟨progress, loop, congrArg Except.ok close⟩

end Call

end PowerMonitor.Ingestion
