import PowerMonitor.Ingestion.Safety
import PowerMonitor.Ingestion.Gate
import Mathlib.Data.List.Count
import Mathlib.Data.List.Induction

/-! Ingestion is idempotent and does not depend on the order of the batches.

Push and pull deliver overlapping windows in any order, with retries after lost
responses. A run is compared with the set of batches it delivers: whether a batch
is admitted does not depend on what was ingested before it, and the rows, the
cursor and the gaps are determined by the admitted batches alone.
-/

set_option autoImplicit false
namespace PowerMonitor.Ingestion
open Library

/-- Sequences are unique and each stored reading has exactly one normalized interval. -/
structure DeviceStore.OneIntervalEach (store : DeviceStore) : Prop where
  unique : (store.rawReadings.map RawReading.sequence).Nodup
  paired : (store.normalizedIntervals.map NormalizedInterval.rawReading).Perm
    (store.rawReadings.map RawReading.sequence)

theorem DeviceStore.OneIntervalEach.count {store : DeviceStore} (each : store.OneIntervalEach)
    {raw : RawReading} (member : raw ∈ store.rawReadings) :
    store.normalizedIntervals.countP (fun interval => interval.rawReading = raw.sequence) = 1 := by
  have counted : (store.normalizedIntervals.map NormalizedInterval.rawReading).count raw.sequence = 1 := by
    rw [each.paired.count_eq]
    exact List.count_eq_one_of_mem each.unique (List.mem_map_of_mem member)
  rw [List.count_eq_countP, List.countP_map] at counted
  rw [← counted]
  refine List.countP_congr fun interval _ => ?_
  simp

theorem DeviceStore.OneIntervalEach.eq_of_sequence {store : DeviceStore} (each : store.OneIntervalEach)
    {first second : RawReading} (left : first ∈ store.rawReadings) (right : second ∈ store.rawReadings)
    (same : first.sequence = second.sequence) : first = second :=
  List.inj_on_of_nodup_map each.unique left right same

/-! ## The reading loop without conflicts -/

section Loop
variable (readingContentHash : Reading → String) (device : Device) (batch : Batch) (now : Int)
  (generation : Nat)

/-- One turn on a reading that no stored row contradicts. -/
def settleReading (progress : Progress) (reading : Reading) : Progress :=
  if progress.store.Stored generation reading.sequence then
    { progress with duplicates := progress.duplicates ++ [reading.sequence.val] }
  else acceptReading readingContentHash device batch.source now generation progress reading

/-- Every stored row with the sequence of the reading is the same record of the same generation. -/
def Compatible (store : DeviceStore) (reading : Reading) : Prop :=
  ∀ raw ∈ store.rawReadings, raw.sequence = reading.sequence →
    raw.dataGeneration = generation ∧ raw.recordHash = incomingHash readingContentHash reading

variable {readingContentHash device batch now generation}

theorem existingReading_eq_none {store : DeviceStore} {reading : Reading}
    (compatible : Compatible readingContentHash generation store reading)
    (absent : ¬ store.Stored generation reading.sequence) :
    existingReading store generation reading = none ∧
      ∀ raw ∈ store.rawReadings, raw.sequence ≠ reading.sequence := by
  have fresh : ∀ raw ∈ store.rawReadings, raw.sequence ≠ reading.sequence := by
    intro raw member same
    exact absent (store.stored_iff.mpr ⟨raw, member, (compatible raw member same).1, same⟩)
  refine ⟨List.find?_eq_none.mpr fun raw member => ?_, fresh⟩
  have := fresh raw member
  simp [this]

theorem exists_existingReading {store : DeviceStore} {reading : Reading}
    (compatible : Compatible readingContentHash generation store reading)
    (stored : store.Stored generation reading.sequence) :
    ∃ existing, existingReading store generation reading = some existing ∧
      existing.recordHash = incomingHash readingContentHash reading := by
  cases found : existingReading store generation reading with
  | none =>
      obtain ⟨raw, member, same⟩ := store.stored_iff.mp stored
      have := List.find?_eq_none.mp found raw member
      simp [same] at this
  | some existing =>
      have matched : existing.sequence = reading.sequence := by
        have := List.find?_some found
        simp only [decide_eq_true_eq] at this
        exact this.2
      exact ⟨existing, rfl, (compatible existing (List.mem_of_find?_eq_some found) matched).2⟩

theorem ingestReading_settles {progress : Progress} {reading : Reading}
    (present : ¬ inFuture batch now reading)
    (compatible : Compatible readingContentHash generation progress.store reading) :
    ingestReading readingContentHash device batch now generation progress reading =
      .ok (settleReading readingContentHash device batch now generation progress reading) := by
  rw [ingestReading, if_neg present, settleReading]
  by_cases stored : progress.store.Stored generation reading.sequence
  · obtain ⟨existing, found, same⟩ := exists_existingReading compatible stored
    simp [found, ingestExisting, same, stored, pure, Except.pure]
  · obtain ⟨missing, fresh⟩ := existingReading_eq_none compatible stored
    rw [missing, if_neg stored]
    refine raiseIf_bind_eq_ok.mpr ⟨?_, rfl⟩
    rintro ⟨raw, member, same⟩
    exact fresh raw member same

/-- What the loop has done after the readings `done`. -/
structure Settled (readingContentHash : Reading → String) (generation : Nat) (start : DeviceStore)
    (done : List Reading) (progress : Progress) : Prop where
  kept : ∀ raw ∈ start.rawReadings, raw ∈ progress.store.rawReadings
  origin : ∀ raw ∈ progress.store.rawReadings, raw ∈ start.rawReadings ∨
    (raw.dataGeneration = generation ∧ raw.reading ∈ done ∧
      raw.recordHash = incomingHash readingContentHash raw.reading)
  present : ∀ reading ∈ done, progress.store.Stored generation reading.sequence
  unrejected : progress.rejected = []
  repeated : (∀ reading ∈ done, start.Stored generation reading.sequence) →
    progress.accepted = [] ∧ progress.duplicates = done.map fun reading => reading.sequence.val

theorem Settled.compatible {start : DeviceStore} {done : List Reading} {progress : Progress}
    {reading : Reading} (settled : Settled readingContentHash generation start done progress)
    (compatible : Compatible readingContentHash generation start reading)
    (consistent : ∀ other ∈ done, other.sequence = reading.sequence →
      incomingHash readingContentHash other = incomingHash readingContentHash reading) :
    Compatible readingContentHash generation progress.store reading := by
  intro raw member same
  rcases settled.origin raw member with old | ⟨sameGeneration, processed, hash⟩
  · exact compatible raw old same
  · exact ⟨sameGeneration, hash.trans (consistent raw.reading processed (Subtype.ext same))⟩

theorem acceptReading_stored (progress : Progress) (reading : Reading) (n : Nat) :
    (acceptReading readingContentHash device batch.source now generation progress reading).store.Stored
      generation n ↔ progress.store.Stored generation n ∨ n = reading.sequence := by
  simp only [DeviceStore.stored_iff, acceptReading, List.mem_append, List.mem_singleton, or_and_right,
    exists_or, exists_eq_left]
  refine or_congr Iff.rfl ?_
  simp [toRaw, RawReading.sequence, eq_comm]

theorem Settled.step {start : DeviceStore} {done : List Reading} {progress : Progress}
    (settled : Settled readingContentHash generation start done progress) (reading : Reading) :
    Settled readingContentHash generation start (done ++ [reading])
      (settleReading readingContentHash device batch now generation progress reading) := by
  rw [settleReading]
  split
  · next stored =>
      refine ⟨settled.kept, fun raw member => ?_, fun other member => ?_, settled.unrejected, fun all => ?_⟩
      · exact (settled.origin raw member).imp_right fun ⟨same, processed, hash⟩ =>
          ⟨same, List.mem_append_left _ processed, hash⟩
      · rcases List.mem_append.mp member with earlier | last
        · exact settled.present other earlier
        · rw [List.mem_singleton.mp last]; exact stored
      · obtain ⟨noneAccepted, duplicates⟩ := settled.repeated fun other member =>
          all other (List.mem_append_left _ member)
        exact ⟨noneAccepted, by simp [duplicates]⟩
  · next absent =>
      refine ⟨fun raw member => List.mem_append_left _ (settled.kept raw member), fun raw member => ?_,
        fun other member => ?_, settled.unrejected, fun all => ?_⟩
      · rcases List.mem_append.mp member with earlier | last
        · exact (settled.origin raw earlier).imp_right fun ⟨same, processed, hash⟩ =>
            ⟨same, List.mem_append_left _ processed, hash⟩
        · rw [List.mem_singleton.mp last]
          exact .inr ⟨rfl, List.mem_append_right _ (by simp [toRaw]), rfl⟩
      · rw [acceptReading_stored]
        rcases List.mem_append.mp member with earlier | last
        · exact .inl (settled.present other earlier)
        · exact .inr (by rw [List.mem_singleton.mp last])
      · -- A sequence that was stored from the start is never inserted again.
        have stored := start.stored_iff.mp (all reading (by simp))
        obtain ⟨raw, member, same⟩ := stored
        exact absurd (progress.store.stored_iff.mpr ⟨raw, settled.kept raw member, same⟩) absent

theorem ingestReading_oneIntervalEach {progress next : Progress} {reading : Reading}
    (turn : ingestReading readingContentHash device batch now generation progress reading = .ok next)
    (each : progress.store.OneIntervalEach) : next.store.OneIntervalEach := by
  rcases ingestReading_cases turn with ⟨_, rfl⟩ | ⟨_, existing, _, _, rfl⟩ |
    ⟨_, existing, event, _, _, rfl⟩ | ⟨_, fresh, rfl⟩
  · exact each
  · exact each
  · exact ⟨each.unique, each.paired⟩
  · constructor
    · simp only [acceptReading, List.map_append, List.map_cons, List.map_nil]
      refine List.nodup_append.mpr ⟨each.unique, List.nodup_singleton _, ?_⟩
      intro n member other last same
      obtain ⟨raw, rawMember, rfl⟩ := List.mem_map.mp member
      exact fresh raw rawMember (same.trans (List.mem_singleton.mp last))
    · simp only [acceptReading, List.map_append, List.map_cons, List.map_nil]
      exact each.paired.append (List.Perm.refl _)

/-- The whole loop over readings that agree with each other and with the stored rows. -/
theorem readingLoop_settles {start : DeviceStore} {done rest : List Reading} {progress : Progress}
    (present : ∀ reading ∈ rest, ¬ inFuture batch now reading)
    (compatible : ∀ reading ∈ rest, Compatible readingContentHash generation start reading)
    (consistent : ∀ first ∈ done ++ rest, ∀ second ∈ done ++ rest, first.sequence = second.sequence →
      incomingHash readingContentHash first = incomingHash readingContentHash second)
    (settled : Settled readingContentHash generation start done progress)
    (each : progress.store.OneIntervalEach) :
    ∃ final, rest.foldlM (ingestReading readingContentHash device batch now generation) progress = .ok final ∧
      Settled readingContentHash generation start (done ++ rest) final ∧ final.store.OneIntervalEach := by
  induction rest generalizing done progress with
  | nil => exact ⟨progress, rfl, by simpa using settled, each⟩
  | cons reading rest ih =>
      have agrees : Compatible readingContentHash generation progress.store reading :=
        settled.compatible (compatible reading (by simp)) fun other member same =>
          consistent other (List.mem_append_left _ member) reading (by simp) same
      have turn : ingestReading readingContentHash device batch now generation progress reading = .ok _ :=
        ingestReading_settles (present reading (by simp)) agrees
      have next : Settled readingContentHash generation start (done ++ [reading])
          (settleReading readingContentHash device batch now generation progress reading) :=
        settled.step reading
      obtain ⟨final, loop, result, eachFinal⟩ := ih
        (fun other member => present other (List.mem_cons_of_mem _ member))
        (fun other member => compatible other (List.mem_cons_of_mem _ member))
        (by simpa using consistent) next (ingestReading_oneIntervalEach turn each)
      refine ⟨final, ?_, by simpa using result, eachFinal⟩
      rw [List.foldlM_cons]
      exact bind_eq_ok.mpr ⟨_, turn, loop⟩

/-- Rows of another generation keep their sequence for themselves. -/
theorem readingLoop_exclusive {start : DeviceStore} {readings : List Reading} {final : Progress}
    (each : start.OneIntervalEach) (present : ∀ reading ∈ readings, ¬ inFuture batch now reading)
    (loop : readings.foldlM (ingestReading readingContentHash device batch now generation)
      ({ store := start } : Progress) = .ok final) :
    ∀ reading ∈ readings, ∀ raw ∈ start.rawReadings, raw.sequence = reading.sequence →
      raw.dataGeneration = generation := by
  intro reading member raw rawMember same
  obtain ⟨state, next, ⟨appends, eachState⟩, turn⟩ := foldlM_step_of_mem
    (fun progress => Appends start progress.store ∧ progress.store.OneIntervalEach) ⟨.refl start, each⟩
    (fun _ _ _ turn ⟨appends, each⟩ =>
      ⟨appends.trans (ingestReading_appends turn), ingestReading_oneIntervalEach turn each⟩) loop member
  have found : ∀ existing, existingReading state.store generation reading = some existing →
      raw.dataGeneration = generation := by
    intro existing found
    have matched : existing.dataGeneration = generation ∧ existing.sequence = reading.sequence := by
      have := List.find?_some found
      simpa only [decide_eq_true_eq] using this
    have equal : raw = existing := eachState.eq_of_sequence (appends.kept raw rawMember)
      (List.mem_of_find?_eq_some found) (same.trans matched.2.symm)
    exact equal ▸ matched.1
  rcases ingestReading_cases turn with ⟨future, _⟩ | ⟨_, existing, row, _⟩ |
    ⟨_, existing, event, row, _⟩ | ⟨_, fresh, _⟩
  · exact absurd future (present reading member)
  · exact found existing row
  · exact found existing row
  · exact absurd same (fresh raw (appends.kept raw rawMember))

end Loop

/-! ## One call -/

/-- The generation a device's gate accepts. -/
def DeviceStore.acceptedGeneration (store : DeviceStore) : Nat :=
  (store.dataState.map DeviceDataState.dataGeneration).getD 0

/-- What makes a batch succeed, read from the state before any of the batches. -/
structure Admits (store : DeviceStore) (batch : Batch) : Prop where
  known : store.device.isSome
  gate : enforceDataGenerationGate store.dataState batch.readings batch.dataGeneration
    batch.unavailableSequenceRanges = .ok store.acceptedGeneration
  aligned : (store.cursor.map SyncCursor.dataGeneration).getD store.acceptedGeneration = store.acceptedGeneration
  exclusive : ∀ reading ∈ batch.readings, ∀ raw ∈ store.rawReadings, raw.sequence = reading.sequence →
    raw.dataGeneration = store.acceptedGeneration

section Call
variable {readingContentHash : Reading → String} {store final : DeviceStore} {batch : Batch} {now : Int}
  {response : ReadingBatchResponse}

theorem aligned_iff (store : DeviceStore) (generation : Nat) :
    (store.cursor.map SyncCursor.dataGeneration).getD generation = generation ↔
      ∀ cursor ∈ store.cursor, cursor.dataGeneration = generation := by
  cases row : store.cursor <;> simp

theorem openBatch_oneIntervalEach (each : store.OneIntervalEach) (generation : Nat) :
    (openBatch store batch now generation).OneIntervalEach := by
  rw [openBatch_frame]
  exact ⟨each.unique, each.paired⟩

/-- Every successful call keeps one interval per reading, conflicts and rejections included. -/
theorem ingestReadings_oneIntervalEach (each : store.OneIntervalEach)
    (ok : ingestReadings readingContentHash store batch now = .ok (final, response)) :
    final.OneIntervalEach := by
  obtain ⟨device, generation, progress, _, _, _, loop, close⟩ := ingestReadings_ok.mp ok
  obtain ⟨rfl, rfl⟩ := Prod.mk.inj close
  have eachProgress := foldlM_invariant (fun progress => progress.store.OneIntervalEach) batch.readings
    (openBatch_oneIntervalEach each generation)
    (fun _ _ _ _ turn each => ingestReading_oneIntervalEach turn each) loop
  exact ⟨eachProgress.unique, eachProgress.paired⟩

theorem admits_of_ok (each : store.OneIntervalEach)
    (present : ∀ reading ∈ batch.readings, ¬ inFuture batch now reading)
    (ok : ingestReadings readingContentHash store batch now = .ok (final, response)) :
    Admits store batch := by
  obtain ⟨device, generation, progress, known, gate, aligned, loop, _⟩ := ingestReadings_ok.mp ok
  obtain rfl : generation = store.acceptedGeneration := (enforceDataGenerationGate_admitted gate).generation
  have rows := openBatch_rawReadings store batch now store.acceptedGeneration
  have exclusive := readingLoop_exclusive (openBatch_oneIntervalEach each _) present loop
  rw [rows] at exclusive
  exact ⟨by simp [known], gate, (aligned_iff _ _).mpr aligned, exclusive⟩

/-- The rows, losses and response of an admitted batch that nothing disturbs. -/
structure Delivered (readingContentHash : Reading → String) (store : DeviceStore) (batch : Batch)
    (final : DeviceStore) (response : ReadingBatchResponse) : Prop where
  generation : response.dataGeneration = store.acceptedGeneration
  frame : final.device = store.device ∧ final.dataState = store.dataState
  each : final.OneIntervalEach
  kept : ∀ raw ∈ store.rawReadings, raw ∈ final.rawReadings
  origin : ∀ raw ∈ final.rawReadings, raw ∈ store.rawReadings ∨
    (raw.dataGeneration = store.acceptedGeneration ∧ raw.reading ∈ batch.readings ∧
      raw.recordHash = incomingHash readingContentHash raw.reading)
  present : ∀ reading ∈ batch.readings, final.Stored store.acceptedGeneration reading.sequence
  lost : ∀ n, final.Lost n ↔ store.Lost n ∨
    ((∃ range ∈ batch.unavailableSequenceRanges, range.span.Contains n) ∧
      ¬ store.Stored store.acceptedGeneration n)
  unrejected : response.rejected = []
  repeated : (∀ reading ∈ batch.readings, store.Stored store.acceptedGeneration reading.sequence) →
    response.accepted = [] ∧ response.duplicates = batch.readings.map fun reading => reading.sequence.val

theorem delivered_of_admits (admits : Admits store batch) (each : store.OneIntervalEach)
    (present : ∀ reading ∈ batch.readings, ¬ inFuture batch now reading)
    (agrees : ∀ reading ∈ batch.readings, ∀ raw ∈ store.rawReadings,
      raw.dataGeneration = store.acceptedGeneration → raw.sequence = reading.sequence →
        raw.recordHash = incomingHash readingContentHash reading)
    (consistent : ∀ first ∈ batch.readings, ∀ second ∈ batch.readings, first.sequence = second.sequence →
      incomingHash readingContentHash first = incomingHash readingContentHash second)
    (plain : ∀ first, ¬ Bootstraps store (startCursor store now store.acceptedGeneration) batch
      store.acceptedGeneration first) :
    ∃ final response, ingestReadings readingContentHash store batch now = .ok (final, response) ∧
      Delivered readingContentHash store batch final response := by
  obtain ⟨device, known⟩ := Option.isSome_iff_exists.mp admits.known
  have frame := openBatch_frame store batch now store.acceptedGeneration
  have rows := openBatch_rawReadings store batch now store.acceptedGeneration
  have compatible : ∀ reading ∈ batch.readings, Compatible readingContentHash store.acceptedGeneration
      (openBatch store batch now store.acceptedGeneration) reading := by
    intro reading member raw rawMember same
    rw [rows] at rawMember
    have generation := admits.exclusive reading member raw rawMember same
    exact ⟨generation, agrees reading member raw rawMember generation same⟩
  have start : Settled readingContentHash store.acceptedGeneration
      (openBatch store batch now store.acceptedGeneration) []
      { store := openBatch store batch now store.acceptedGeneration } :=
    ⟨fun _ member => member, fun _ member => .inl member, by simp, rfl, by simp⟩
  have looped : ∃ progress,
      batch.readings.foldlM (ingestReading readingContentHash device batch now store.acceptedGeneration)
        ({ store := openBatch store batch now store.acceptedGeneration } : Progress) = .ok progress ∧
      Settled readingContentHash store.acceptedGeneration
        (openBatch store batch now store.acceptedGeneration) batch.readings progress ∧
      progress.store.OneIntervalEach :=
    readingLoop_settles present compatible (by simpa using consistent) start (openBatch_oneIntervalEach each _)
  obtain ⟨progress, loop, settled, eachFinal⟩ := looped
  have appends := readingLoop_appends loop
  refine ⟨(closeBatch device now store.acceptedGeneration progress).1,
    (closeBatch device now store.acceptedGeneration progress).2,
    ingestReadings_ok.mpr ⟨device, _, progress, known, admits.gate, (aligned_iff _ _).mp admits.aligned,
      loop, rfl⟩, ?_⟩
  refine ⟨rfl, ?_, ⟨eachFinal.unique, eachFinal.paired⟩, ?_, ?_, settled.present, ?_, settled.unrejected, ?_⟩
  · have unchanged : progress.store.device = store.device ∧ progress.store.dataState = store.dataState := by
      rw [appends.frame, frame]
      exact ⟨rfl, rfl⟩
    exact unchanged
  · intro raw member
    exact settled.kept raw (rows ▸ member)
  · intro raw member
    have origin := settled.origin raw member
    rwa [rows] at origin
  · intro n
    have recalculated : (closeBatch device now store.acceptedGeneration progress).1.Lost n ↔
        progress.store.Lost n := recalculateCursor_lost _ now _ n
    rw [recalculated, appends.lost, (openBatch_lost store batch now _ plain n).2]
  · intro all
    exact settled.repeated fun reading member =>
      (openBatch_stored store batch now _ _ _).mpr (all reading member)

theorem Delivered.stored (delivered : Delivered readingContentHash store batch final response) (n : Nat) :
    final.Stored store.acceptedGeneration n ↔ store.Stored store.acceptedGeneration n ∨
      ∃ reading ∈ batch.readings, reading.sequence = n := by
  constructor
  · intro stored
    obtain ⟨raw, member, generation, same⟩ := final.stored_iff.mp stored
    rcases delivered.origin raw member with old | ⟨_, read, _⟩
    · exact .inl (store.stored_iff.mpr ⟨raw, old, generation, same⟩)
    · exact .inr ⟨raw.reading, read, same⟩
  · rintro (stored | ⟨reading, member, rfl⟩)
    · obtain ⟨raw, member, same⟩ := store.stored_iff.mp stored
      exact final.stored_iff.mpr ⟨raw, delivered.kept raw member, same⟩
    · exact delivered.present reading member

/-- A sequence the batch reads or declares unavailable. -/
def Batch.Mentions (batch : Batch) (n : Nat) : Prop :=
  (∃ reading ∈ batch.readings, reading.sequence = n) ∨
    ∃ range ∈ batch.unavailableSequenceRanges, range.span.Contains n

/-- Declaring a stored sequence lost changes nothing, so stored and lost sequences together
grow by what the batch mentions, in any order. -/
theorem Delivered.accounted (delivered : Delivered readingContentHash store batch final response) (n : Nat) :
    final.Accounted store.acceptedGeneration n ↔
      store.Accounted store.acceptedGeneration n ∨ batch.Mentions n := by
  rw [DeviceStore.Accounted, DeviceStore.Accounted, Batch.Mentions, delivered.stored, delivered.lost]
  generalize store.Stored _ n = stored, (∃ reading ∈ batch.readings, _) = read,
    (∃ range ∈ batch.unavailableSequenceRanges, _) = declared
  tauto

end Call

/-! ## Runs -/

section Run
variable (readingContentHash : Reading → String)

/-- A family of calls without conflicts, bootstraps and readings from the future. -/
structure Undisturbed (start : DeviceStore) (calls : List (Batch × Int)) : Prop where
  present : ∀ call ∈ calls, ∀ reading ∈ call.1.readings, ¬ inFuture call.1 call.2 reading
  consistent : ∀ first ∈ calls, ∀ a ∈ first.1.readings, ∀ second ∈ calls, ∀ b ∈ second.1.readings,
    a.sequence = b.sequence → incomingHash readingContentHash a = incomingHash readingContentHash b
  agrees : ∀ call ∈ calls, ∀ reading ∈ call.1.readings, ∀ raw ∈ start.rawReadings,
    raw.dataGeneration = start.acceptedGeneration → raw.sequence = reading.sequence →
      raw.recordHash = incomingHash readingContentHash reading
  unbootstrapped : ∀ earlier call later, calls = earlier ++ call :: later → ∀ first,
    ¬ Bootstraps (ingestRun readingContentHash start earlier)
      (startCursor (ingestRun readingContentHash start earlier) call.2 start.acceptedGeneration) call.1
      start.acceptedGeneration first

/-- The batch is among the calls and the start state admits it. -/
def Delivers (start : DeviceStore) (calls : List (Batch × Int)) (batch : Batch) : Prop :=
  batch ∈ calls.map Prod.fst ∧ Admits start batch

theorem delivers_append {start : DeviceStore} {calls : List (Batch × Int)} {call : Batch × Int}
    {batch : Batch} : Delivers start (calls ++ [call]) batch ↔
      Delivers start calls batch ∨ (batch = call.1 ∧ Admits start batch) := by
  simp only [Delivers, List.map_append, List.mem_append, List.map_cons, List.map_nil, List.mem_singleton,
    or_and_right]

/-- The cursor and the gap rows are those the last recalculation has left. -/
structure Recomputed (state : DeviceStore) (generation : Nat) : Prop where
  stops : ¬ state.Accounted generation (state.highestContiguous + 1)
  maximum : state.maximumSeen = max ((state.sequences generation).max?.getD 0) state.cursorBoundary
  separated : Separated state.unresolvedSpans
  covers : ∀ n, Covers state.unresolvedSpans n ↔ state.highestContiguous < n ∧ n ≤ state.maximumSeen ∧
    ¬ state.Accounted generation n

/-- How the state of a run depends on the batches it has delivered. -/
structure Tracks (start : DeviceStore) (calls : List (Batch × Int)) (state : DeviceStore) : Prop where
  frame : state.device = start.device ∧ state.dataState = start.dataState
  cursor : (state.cursor.map SyncCursor.dataGeneration).getD start.acceptedGeneration =
    (start.cursor.map SyncCursor.dataGeneration).getD start.acceptedGeneration
  boundary : state.cursorBoundary = start.cursorBoundary
  each : state.OneIntervalEach
  kept : ∀ raw ∈ start.rawReadings, raw ∈ state.rawReadings
  origin : ∀ raw ∈ state.rawReadings, raw ∈ start.rawReadings ∨
    (raw.dataGeneration = start.acceptedGeneration ∧
      (∃ batch, Delivers start calls batch ∧ raw.reading ∈ batch.readings) ∧
      raw.recordHash = incomingHash readingContentHash raw.reading)
  accounted : ∀ n, state.Accounted start.acceptedGeneration n ↔
    start.Accounted start.acceptedGeneration n ∨ ∃ batch, Delivers start calls batch ∧ batch.Mentions n
  stored : ∀ batch, Delivers start calls batch → ∀ reading ∈ batch.readings,
    state.Stored start.acceptedGeneration reading.sequence
  advanced : start.highestContiguous ≤ state.highestContiguous
  acknowledged : ∀ n, start.highestContiguous < n → n ≤ state.highestContiguous →
    state.Accounted start.acceptedGeneration n
  idle : (¬ ∃ batch, Delivers start calls batch) → state = start
  recomputed : (∃ batch, Delivers start calls batch) → Recomputed state start.acceptedGeneration

theorem Tracks.refl {start : DeviceStore} (each : start.OneIntervalEach) :
    Tracks readingContentHash start [] start where
  frame := ⟨rfl, rfl⟩
  cursor := rfl
  boundary := rfl
  each := each
  kept := fun _ member => member
  origin := fun _ member => .inl member
  accounted := by simp [Delivers]
  stored := by simp [Delivers]
  advanced := le_rfl
  acknowledged := fun n past reached => by omega
  idle := fun _ => rfl
  recomputed := by simp [Delivers]

variable {readingContentHash} {start state : DeviceStore} {calls : List (Batch × Int)} {batch : Batch}

theorem Tracks.acceptedGeneration (tracks : Tracks readingContentHash start calls state) :
    state.acceptedGeneration = start.acceptedGeneration := by
  rw [DeviceStore.acceptedGeneration, tracks.frame.2]
  rfl

theorem Tracks.stored_iff (tracks : Tracks readingContentHash start calls state) (n : Nat) :
    state.Stored start.acceptedGeneration n ↔ start.Stored start.acceptedGeneration n ∨
      ∃ batch, Delivers start calls batch ∧ ∃ reading ∈ batch.readings, reading.sequence = n := by
  constructor
  · intro stored
    obtain ⟨raw, member, generation, same⟩ := state.stored_iff.mp stored
    rcases tracks.origin raw member with old | ⟨_, ⟨batch, delivers, read⟩, _⟩
    · exact .inl (start.stored_iff.mpr ⟨raw, old, generation, same⟩)
    · exact .inr ⟨batch, delivers, raw.reading, read, same⟩
  · rintro (stored | ⟨batch, delivers, reading, read, rfl⟩)
    · obtain ⟨raw, member, same⟩ := start.stored_iff.mp stored
      exact state.stored_iff.mpr ⟨raw, tracks.kept raw member, same⟩
    · exact tracks.stored batch delivers reading read

/-- Whether a batch is admitted does not depend on what the run has ingested. -/
theorem Tracks.admits_iff (tracks : Tracks readingContentHash start calls state) :
    Admits state batch ↔ Admits start batch := by
  have generation := tracks.acceptedGeneration
  constructor
  · rintro ⟨known, gate, aligned, exclusive⟩
    rw [generation] at gate aligned exclusive
    refine ⟨tracks.frame.1 ▸ known, tracks.frame.2 ▸ gate, tracks.cursor ▸ aligned, ?_⟩
    intro reading member raw rawMember same
    exact exclusive reading member raw (tracks.kept raw rawMember) same
  · rintro ⟨known, gate, aligned, exclusive⟩
    refine ⟨tracks.frame.1 ▸ known, ?_, ?_, ?_⟩
    · rw [generation, tracks.frame.2]
      exact gate
    · rw [generation, tracks.cursor]
      exact aligned
    · rw [generation]
      intro reading member raw rawMember same
      rcases tracks.origin raw rawMember with old | ⟨current, _⟩
      · exact exclusive reading member raw old same
      · exact current

/-- Rows of the accepted generation agree with every reading of the family. -/
theorem Tracks.agrees {family : List (Batch × Int)} {call : Batch × Int}
    (tracks : Tracks readingContentHash start calls state)
    (undisturbed : Undisturbed readingContentHash start family)
    (within : ∀ earlier ∈ calls, earlier ∈ family) (member : call ∈ family) :
    ∀ reading ∈ call.1.readings, ∀ raw ∈ state.rawReadings,
      raw.dataGeneration = start.acceptedGeneration → raw.sequence = reading.sequence →
        raw.recordHash = incomingHash readingContentHash reading := by
  intro reading read raw rawMember generation same
  rcases tracks.origin raw rawMember with old | ⟨_, ⟨batch, ⟨delivered, _⟩, stored⟩, hash⟩
  · exact undisturbed.agrees call member reading read raw old generation same
  · obtain ⟨earlier, earlierMember, rfl⟩ := List.mem_map.mp delivered
    rw [hash]
    exact undisturbed.consistent earlier (within earlier earlierMember) raw.reading stored call
      member reading read (Subtype.ext same)

/-- An admitted call, at whatever point of the run it comes. -/
theorem Tracks.delivered {call : Batch × Int}
    (tracks : Tracks readingContentHash start calls (ingestRun readingContentHash start calls))
    (undisturbed : Undisturbed readingContentHash start (calls ++ [call])) (admits : Admits start call.1) :
    ∃ final response,
      ingestReadings readingContentHash (ingestRun readingContentHash start calls) call.1 call.2 =
        .ok (final, response) ∧
      Delivered readingContentHash (ingestRun readingContentHash start calls) call.1 final response := by
  have generation := tracks.acceptedGeneration
  refine delivered_of_admits (tracks.admits_iff.mpr admits) tracks.each
    (undisturbed.present call (by simp)) ?_ ?_ ?_
  · rw [generation]
    exact tracks.agrees undisturbed (fun _ member => List.mem_append_left _ member) (by simp)
  · intro first firstMember second secondMember
    exact undisturbed.consistent call (by simp) first firstMember call (by simp) second secondMember
  · rw [generation]
    exact undisturbed.unbootstrapped calls call [] rfl

theorem Tracks.step {call : Batch × Int} (safe : RunSafe start)
    (tracks : Tracks readingContentHash start calls (ingestRun readingContentHash start calls))
    (undisturbed : Undisturbed readingContentHash start (calls ++ [call])) :
    Tracks readingContentHash start (calls ++ [call])
      (ingestCall readingContentHash (ingestRun readingContentHash start calls) call) := by
  by_cases admits : Admits start call.1
  · obtain ⟨final, response, ok, delivered⟩ := tracks.delivered undisturbed admits
    obtain ⟨middle, step⟩ := ingestReadings_recalculated ok
    have committed : ingestCall readingContentHash (ingestRun readingContentHash start calls) call = final := by
      rw [ingestCall, ok]
    have generation := tracks.acceptedGeneration
    have accepted : response.dataGeneration = start.acceptedGeneration := delivered.generation.trans generation
    have runSafe := ingestRun_runSafe readingContentHash safe calls
    have aboveBoundary : final.cursorBoundary ≤ final.highestContiguous := by
      rw [step.final_boundary]
      exact runSafe.aboveBoundary.trans step.advances
    have accounted := delivered.accounted
    rw [generation] at accounted
    rw [committed]
    refine
      { frame := ⟨delivered.frame.1.trans tracks.frame.1, delivered.frame.2.trans tracks.frame.2⟩
        cursor := ?_
        boundary := step.final_boundary.trans tracks.boundary
        each := delivered.each
        kept := fun raw member => delivered.kept raw (tracks.kept raw member)
        origin := ?_
        accounted := ?_
        stored := ?_
        advanced := tracks.advanced.trans step.advances
        acknowledged := ?_
        idle := fun none => absurd ⟨call.1, delivers_append.mpr (.inr ⟨rfl, admits⟩)⟩ none
        recomputed := fun _ => ?_ }
    · rw [admits.aligned, aligned_iff]
      intro cursor member
      exact (step.final_cursor cursor member).trans accepted
    · intro raw member
      rcases delivered.origin raw member with old | ⟨current, read, hash⟩
      · refine (tracks.origin raw old).imp_right ?_
        rintro ⟨current, ⟨batch, delivers, read⟩, hash⟩
        exact ⟨current, ⟨batch, delivers_append.mpr (.inl delivers), read⟩, hash⟩
      · exact .inr ⟨current.trans generation, ⟨call.1, delivers_append.mpr (.inr ⟨rfl, admits⟩), read⟩, hash⟩
    · intro n
      rw [accounted, tracks.accounted, or_assoc]
      refine or_congr Iff.rfl ?_
      constructor
      · rintro (⟨batch, delivers, mentions⟩ | mentions)
        · exact ⟨batch, delivers_append.mpr (.inl delivers), mentions⟩
        · exact ⟨call.1, delivers_append.mpr (.inr ⟨rfl, admits⟩), mentions⟩
      · rintro ⟨batch, delivers, mentions⟩
        rcases delivers_append.mp delivers with earlier | ⟨rfl, _⟩
        · exact .inl ⟨batch, earlier, mentions⟩
        · exact .inr mentions
    · intro batch delivers reading member
      have stored := delivered.stored reading.sequence
      rw [generation] at stored
      rcases delivers_append.mp delivers with earlier | ⟨rfl, _⟩
      · exact stored.mpr (.inl (tracks.stored batch earlier reading member))
      · exact stored.mpr (.inr ⟨reading, member, rfl⟩)
    · intro n past reached
      rcases Nat.lt_or_ge (ingestRun readingContentHash start calls).highestContiguous n with new | old
      · exact accepted ▸ step.newly_accounted new reached
      · exact (accounted n).mpr (.inl (tracks.acknowledged n past old))
    · exact accepted ▸ ⟨step.stops, step.maximum_eq, step.unresolvedSpans_separated,
        step.covers_unresolvedSpans aboveBoundary⟩
  · have unchanged : ingestCall readingContentHash (ingestRun readingContentHash start calls) call =
        ingestRun readingContentHash start calls := by
      rw [ingestCall]
      split
      · next final response ok =>
          have admitted := admits_of_ok tracks.each (undisturbed.present call (by simp)) ok
          exact absurd (tracks.admits_iff.mp admitted) admits
      · rfl
    have same : ∀ batch, Delivers start (calls ++ [call]) batch ↔ Delivers start calls batch := by
      intro batch
      rw [delivers_append, or_iff_left]
      rintro ⟨rfl, admitted⟩
      exact admits admitted
    rw [unchanged]
    refine { tracks with origin := ?_, accounted := ?_, stored := ?_, idle := ?_, recomputed := ?_ }
    all_goals simp only [same]
    · exact tracks.origin
    · exact tracks.accounted
    · exact tracks.stored
    · exact tracks.idle
    · exact tracks.recomputed

theorem Undisturbed.of_append {earlier later : List (Batch × Int)}
    (undisturbed : Undisturbed readingContentHash start (earlier ++ later)) :
    Undisturbed readingContentHash start earlier where
  present := fun call member => undisturbed.present call (List.mem_append_left _ member)
  consistent := fun first firstMember a left second secondMember =>
    undisturbed.consistent first (List.mem_append_left _ firstMember) a left second
      (List.mem_append_left _ secondMember)
  agrees := fun call member => undisturbed.agrees call (List.mem_append_left _ member)
  unbootstrapped := fun before call after split =>
    undisturbed.unbootstrapped before call (after ++ later) (by simp [split])

theorem ingestRun_tracks (safe : RunSafe start) (each : start.OneIntervalEach)
    (undisturbed : Undisturbed readingContentHash start calls) :
    Tracks readingContentHash start calls (ingestRun readingContentHash start calls) := by
  induction calls using List.reverseRecOn with
  | nil => exact Tracks.refl readingContentHash each
  | append_singleton earlier call ih =>
      rw [ingestRun_append]
      exact Tracks.step safe (ih undisturbed.of_append) undisturbed

theorem ingestRun_oneIntervalEach (each : start.OneIntervalEach) (calls : List (Batch × Int)) :
    (ingestRun readingContentHash start calls).OneIntervalEach := by
  refine List.foldlRecOn calls _ each fun store kept call _ => ?_
  rw [ingestCall]
  split
  · next final response ok => exact ingestReadings_oneIntervalEach kept ok
  · exact kept

/-! ## Two runs of one family -/

/-- The stored records, each identified by its hash. -/
def DeviceStore.recordSet (store : DeviceStore) : Set (Nat × String) :=
  { key | ∃ raw ∈ store.rawReadings, key = (raw.sequence, raw.recordHash) }

def DeviceStore.readingSet (store : DeviceStore) : Set (Nat × Reading) :=
  { key | ∃ raw ∈ store.rawReadings, key = (raw.sequence, raw.reading) }

theorem max?_getD_eq {left right : List Nat} (same : ∀ n, n ∈ left ↔ n ∈ right) :
    left.max?.getD 0 = right.max?.getD 0 := by
  have bounded : ∀ {one two : List Nat}, (∀ n ∈ one, n ∈ two) → one.max?.getD 0 ≤ two.max?.getD 0 := by
    intro one two within
    cases greatest : one.max? with
    | none => simp
    | some n =>
        have member := within n (List.max?_mem greatest)
        cases other : two.max? with
        | none => simp [List.max?_eq_none_iff.mp other] at member
        | some m => exact (List.max?_eq_some_iff.mp other).2 n member
  exact le_antisymm (bounded fun n member => (same n).mp member) (bounded fun n member => (same n).mpr member)

section Compare
variable {first second : List (Batch × Int)} {one two : DeviceStore}

theorem Delivers.congr (same : ∀ batch, batch ∈ first.map Prod.fst ↔ batch ∈ second.map Prod.fst) :
    Delivers start first batch ↔ Delivers start second batch := by
  rw [Delivers, Delivers, same]

/-- The row that the other run holds for a delivered reading. -/
theorem Tracks.counterpart (left : Tracks readingContentHash start first one)
    (right : Tracks readingContentHash start second two)
    (same : ∀ batch, batch ∈ first.map Prod.fst ↔ batch ∈ second.map Prod.fst)
    {raw : RawReading} (member : raw ∈ one.rawReadings) :
    raw ∈ two.rawReadings ∨ ∃ call ∈ second, raw.reading ∈ call.1.readings ∧
      raw.recordHash = incomingHash readingContentHash raw.reading ∧
      ∃ other ∈ two.rawReadings, other.dataGeneration = start.acceptedGeneration ∧
        other.sequence = raw.sequence := by
  rcases left.origin raw member with old | ⟨_, ⟨batch, delivers, read⟩, hash⟩
  · exact .inl (right.kept raw old)
  · have delivered := (Delivers.congr same).mp delivers
    obtain ⟨call, callMember, rfl⟩ := List.mem_map.mp delivered.1
    have stored := right.stored call.1 delivered raw.reading read
    exact .inr ⟨call, callMember, read, hash, two.stored_iff.mp stored⟩

theorem Tracks.recordSet_subset (left : Tracks readingContentHash start first one)
    (right : Tracks readingContentHash start second two)
    (undisturbed : Undisturbed readingContentHash start second)
    (same : ∀ batch, batch ∈ first.map Prod.fst ↔ batch ∈ second.map Prod.fst) :
    one.recordSet ⊆ two.recordSet := by
  rintro key ⟨raw, member, rfl⟩
  rcases left.counterpart right same member with kept | ⟨call, callMember, read, hash, other, row, current, equal⟩
  · exact ⟨raw, kept, rfl⟩
  · have otherHash := right.agrees undisturbed (fun _ member => member) callMember raw.reading read other row
      current equal
    exact ⟨other, row, by rw [equal, otherHash, hash]⟩

/-- Where hashes identify the family's readings, the stored readings themselves agree. -/
theorem Tracks.readingSet_subset (left : Tracks readingContentHash start first one)
    (right : Tracks readingContentHash start second two)
    (undisturbed : Undisturbed readingContentHash start second)
    (same : ∀ batch, batch ∈ first.map Prod.fst ↔ batch ∈ second.map Prod.fst)
    (injective : ∀ a b : Reading, (∃ call ∈ second, a ∈ call.1.readings) →
      (∃ call ∈ second, b ∈ call.1.readings) →
      incomingHash readingContentHash a = incomingHash readingContentHash b → a = b) :
    one.readingSet ⊆ two.readingSet := by
  rintro key ⟨raw, member, rfl⟩
  rcases left.counterpart right same member with kept | ⟨call, callMember, read, hash, other, row, current, equal⟩
  · exact ⟨raw, kept, rfl⟩
  · refine ⟨other, row, ?_⟩
    rcases right.origin other row with old | ⟨_, ⟨batch, delivers, otherRead⟩, otherHash⟩
    · -- A row of the start state is in both runs.
      rw [left.each.eq_of_sequence (left.kept other old) member equal]
    · have agreed := right.agrees undisturbed (fun _ member => member) callMember raw.reading read other row
        current equal
      obtain ⟨otherCall, otherMember, rfl⟩ := List.mem_map.mp delivers.1
      have identified := injective other.reading raw.reading ⟨otherCall, otherMember, otherRead⟩
        ⟨call, callMember, read⟩ (otherHash.symm.trans agreed)
      rw [equal, identified]

/-- The cursor and the gaps are determined by the accounted sequences. -/
theorem Tracks.cursor_eq (left : Tracks readingContentHash start first one)
    (right : Tracks readingContentHash start second two)
    (same : ∀ batch, batch ∈ first.map Prod.fst ↔ batch ∈ second.map Prod.fst) :
    one.highestContiguous = two.highestContiguous ∧ one.maximumSeen = two.maximumSeen ∧
      one.unresolvedSpans = two.unresolvedSpans := by
  have delivers : ∀ batch, Delivers start first batch ↔ Delivers start second batch :=
    fun batch => Delivers.congr same
  by_cases some : ∃ batch, Delivers start first batch
  · have leftCursor := left.recomputed some
    have rightCursor := right.recomputed (by simpa only [delivers] using some)
    have accounted : ∀ n, one.Accounted start.acceptedGeneration n ↔
        two.Accounted start.acceptedGeneration n := by
      intro n
      rw [left.accounted, right.accounted]
      simp only [delivers]
    have highest : one.highestContiguous = two.highestContiguous := by
      -- Whichever cursor were ahead would have moved over the sequence the other stopped at.
      rcases Nat.lt_trichotomy one.highestContiguous two.highestContiguous with behind | equal | ahead
      · have := left.advanced
        exact absurd ((accounted _).mpr (right.acknowledged _ (by omega) behind)) leftCursor.stops
      · exact equal
      · have := right.advanced
        exact absurd ((accounted _).mp (left.acknowledged _ (by omega) ahead)) rightCursor.stops
    have maximum : one.maximumSeen = two.maximumSeen := by
      rw [leftCursor.maximum, rightCursor.maximum, left.boundary, right.boundary]
      refine congrArg (max · _) (max?_getD_eq fun n => ?_)
      have stored := (left.stored_iff n).trans (by simp only [delivers]; exact (right.stored_iff n).symm)
      exact stored
    refine ⟨highest, maximum, leftCursor.separated.ext rightCursor.separated fun n => ?_⟩
    rw [leftCursor.covers, rightCursor.covers, highest, maximum, accounted]
  · rw [left.idle some, right.idle (by simpa only [delivers] using some)]
    exact ⟨rfl, rfl, rfl⟩

end Compare

/-- Two runs with the same batches, in any order and with any repetition, end with the same
records, one interval per record and the same cursor and gaps; a batch that has succeeded
before reports every sequence as a duplicate. -/
theorem ingestion_confluent (readingContentHash : Reading → String) (origin : DeviceStore)
    (starts : origin.StartsCursor) (each : origin.OneIntervalEach)
    (history first second : List (Batch × Int))
    (same : ∀ batch, batch ∈ first.map Prod.fst ↔ batch ∈ second.map Prod.fst)
    (firstUndisturbed : Undisturbed readingContentHash (ingestRun readingContentHash origin history) first)
    (secondUndisturbed : Undisturbed readingContentHash (ingestRun readingContentHash origin history) second) :
    (ingestRun readingContentHash origin (history ++ first)).recordSet =
      (ingestRun readingContentHash origin (history ++ second)).recordSet ∧
    ((∀ a b : Reading, (∃ call ∈ first, a ∈ call.1.readings) → (∃ call ∈ first, b ∈ call.1.readings) →
        incomingHash readingContentHash a = incomingHash readingContentHash b → a = b) →
      (ingestRun readingContentHash origin (history ++ first)).readingSet =
        (ingestRun readingContentHash origin (history ++ second)).readingSet) ∧
    (∀ raw ∈ (ingestRun readingContentHash origin (history ++ first)).rawReadings,
      (ingestRun readingContentHash origin (history ++ first)).normalizedIntervals.countP
        (fun interval => interval.rawReading = raw.sequence) = 1) ∧
    (ingestRun readingContentHash origin (history ++ first)).highestContiguous =
      (ingestRun readingContentHash origin (history ++ second)).highestContiguous ∧
    (ingestRun readingContentHash origin (history ++ first)).maximumSeen =
      (ingestRun readingContentHash origin (history ++ second)).maximumSeen ∧
    (ingestRun readingContentHash origin (history ++ first)).unresolvedSpans =
      (ingestRun readingContentHash origin (history ++ second)).unresolvedSpans ∧
    ∀ earlier batch before later now result, first = earlier ++ (batch, before) :: later →
      ingestReadings readingContentHash (ingestRun readingContentHash origin (history ++ earlier)) batch before =
        .ok result →
      Undisturbed readingContentHash (ingestRun readingContentHash origin history) (first ++ [(batch, now)]) →
      ∃ final response,
        ingestReadings readingContentHash (ingestRun readingContentHash origin (history ++ first)) batch now =
          .ok (final, response) ∧
        response.accepted = [] ∧ response.rejected = [] ∧
        response.duplicates = batch.readings.map fun reading => reading.sequence.val := by
  have safe := ingestRun_runSafe readingContentHash (StartsCursor.runSafe starts) history
  have eachStart : (ingestRun readingContentHash origin history).OneIntervalEach :=
    ingestRun_oneIntervalEach each history
  have left := ingestRun_tracks safe eachStart firstUndisturbed
  have right := ingestRun_tracks safe eachStart secondUndisturbed
  have back : ∀ batch, batch ∈ second.map Prod.fst ↔ batch ∈ first.map Prod.fst := fun batch => (same batch).symm
  simp only [ingestRun_append]
  obtain ⟨highest, maximum, unresolved⟩ := left.cursor_eq right same
  refine ⟨?_, ?_, fun raw member => left.each.count member, highest, maximum, unresolved, ?_⟩
  · exact (left.recordSet_subset right secondUndisturbed same).antisymm
      (right.recordSet_subset left firstUndisturbed back)
  · intro injective
    have transfer : ∀ a : Reading, (∃ call ∈ second, a ∈ call.1.readings) → ∃ call ∈ first, a ∈ call.1.readings := by
      rintro a ⟨call, member, read⟩
      obtain ⟨other, otherMember, equal⟩ := List.mem_map.mp ((back call.1).mp (List.mem_map_of_mem member))
      exact ⟨other, otherMember, equal ▸ read⟩
    refine (left.readingSet_subset right secondUndisturbed same ?_).antisymm
      (right.readingSet_subset left firstUndisturbed back injective)
    intro a b aRead bRead
    exact injective a b (transfer a aRead) (transfer b bRead)
  · rintro earlier batch before later now ⟨middle, answer⟩ rfl ok repeated
    have prior := ingestRun_tracks safe eachStart firstUndisturbed.of_append
    have admits : Admits (ingestRun readingContentHash origin history) batch :=
      prior.admits_iff.mp (admits_of_ok prior.each
        (firstUndisturbed.present (batch, before) (by simp)) ok)
    obtain ⟨final, response, ok, delivered⟩ := left.delivered repeated admits
    have stored : ∀ reading ∈ batch.readings, _ := left.stored batch ⟨by simp, admits⟩
    rw [← left.acceptedGeneration] at stored
    obtain ⟨noneAccepted, duplicates⟩ := delivered.repeated stored
    exact ⟨final, response, ok, noneAccepted, delivered.unrejected, duplicates⟩

/-- A pushed window and a pulled one that overlap in sequence 7. -/
def pushedCall : Batch × Int :=
  ({ readings := [minuteReading 1 ⟨6, sixth⟩, minuteReading 1 ⟨7, seventh⟩], source := .push }, seconds 3600)

def pulledCall : Batch × Int :=
  ({ readings := [minuteReading 1 ⟨7, seventh⟩, minuteReading 1 ⟨9, ninth⟩], source := .pull }, seconds 3660)

theorem undisturbed_overlap {calls : List (Batch × Int)}
    (within : ∀ call ∈ calls, call = pushedCall ∨ call = pulledCall) :
    Undisturbed (fun _ => "") resetStore calls where
  present := by
    intro call member
    rcases within call member with rfl | rfl <;> decide
  consistent := by
    intro first firstMember a left second secondMember b right same
    have hashed : ∀ call ∈ calls, ∀ reading ∈ call.1.readings,
        reading.recordHash = some (String.ofList (List.replicate 64 'a')) := by
      intro call member
      rcases within call member with rfl | rfl <;> simp [pushedCall, pulledCall, minuteReading]
    simp only [incomingHash, hashed first firstMember a left, hashed second secondMember b right]
  agrees := by simp [resetStore]
  unbootstrapped := by
    rintro earlier call later split first ⟨_, _, _, available, _⟩
    rcases within call (by simp [split]) with rfl | rfl <;> simp [pushedCall, pulledCall] at available

theorem ingestion_confluent_overlap :
    (ingestRun (fun _ => "") resetStore [pushedCall, pulledCall]).highestContiguous = 7 ∧
    (ingestRun (fun _ => "") resetStore [pushedCall, pulledCall]).recordSet =
      (ingestRun (fun _ => "") resetStore [pulledCall, pushedCall, pulledCall]).recordSet := by
  refine ⟨rfl, ?_⟩
  exact (ingestion_confluent (fun _ => "") resetStore (by decide) ⟨by simp [resetStore], by simp [resetStore]⟩
    [] [pushedCall, pulledCall] [pulledCall, pushedCall, pulledCall] (by simp [or_comm])
    (undisturbed_overlap (by simp)) (undisturbed_overlap (by simp [or_comm]))).1

end Run

end PowerMonitor.Ingestion
