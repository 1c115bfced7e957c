import PowerMonitor.Ingestion.Records
import PowerMonitor.Library.Fallible

/-! The reading ingestion service: energy normalisation, the data-generation
gate, the sequence cursor and `ingest_readings`.

The session flushes pending changes before each query, so a statement sees every
earlier write of the same call. A raised error rolls the call back. The content
hash of a reading is a parameter, for its canonical JSON and SHA-256 are not
modelled. Log records are left out.
-/

set_option autoImplicit false
namespace PowerMonitor.Ingestion
open Library

/-! ## Energy normalisation -/

/-- The server's own estimate: counter difference, or the power integral when the
counter's whole-Wh resolution hides a low-power interval. -/
def serverEnergy (reading : Reading) : Option Rat :=
  let elapsed : Rat := ((reading.intervalEnd - reading.intervalStart : Int) : Rat) / 1000000
  let powerEnergy := reading.powerAvg.map fun power => power * elapsed / 3600
  let counterEnergy : Option Rat :=
    match reading.pzemEnergyStartWh, reading.pzemEnergyEndWh with
    | some first, some last => if 0 ≤ last - first then some (last - first) else none
    | _, _ => none
  let usePowerIntegration : Bool :=
    match powerEnergy with
    | none => false
    | some power => decide (0 ≤ power) && (reading.energyMethod == "power_integration" ||
        (counterEnergy == some 0 && decide (0 < power)))
  if usePowerIntegration then powerEnergy else counterEnergy.or powerEnergy

def normalizeEnergy (reading : Reading) (tolerancePercent : Rat := 10) : EnergySelection :=
  match reading.intervalEnergyWh, serverEnergy reading with
  | none, none => ⟨none, none, none, "unknown", "unavailable", "No energy source"⟩
  | none, some server =>
      ⟨none, some server, some server, "server-derived", "accepted", "Device omitted interval energy"⟩
  | some device, none =>
      ⟨some device, none, some device, "device-reported", "unverified", "No independent server estimate"⟩
  | some device, some server =>
      let variance := |device - server| / max |server| (1 / 1000) * 100
      if variance ≤ tolerancePercent ∧ "counter_reset" ∉ reading.qualityFlags then
        ⟨some device, some server, some device, "device-reported", "accepted",
          "Independent variance " ++ formatThousandths variance ++ "%"⟩
      else if "time_untrusted" ∈ reading.qualityFlags ∨ reading.timeTrusted = false then
        ⟨some device, some server, none, "unknown", "rejected",
          "Energy mismatch " ++ formatThousandths variance ++ "% with untrusted time"⟩
      else
        ⟨some device, some server, some server, "server-derived", "corrected",
          "Device energy differed by " ++ formatThousandths variance ++ "%"⟩

/-! ## The data-generation gate -/

def sensorResetRequired (expected boundary : Nat) : ProblemError :=
  { status := 409
    title := "Sensor reset required"
    detail := "Reading synchronization is paused until the coordinated data reset completes"
    code := "sensor_reset_required"
    extra := [("required_data_generation", expected), ("reset_boundary", boundary)] }

def dataGenerationMixed : ProblemError :=
  { status := 422
    title := "Mixed data generations"
    detail := "Every reading in a batch must use the same data generation"
    code := "data_generation_mixed" }

def dataGenerationMismatch : ProblemError :=
  { status := 422
    title := "Data generation mismatch"
    detail := "The batch and reading data generations must match"
    code := "data_generation_mismatch" }

def dataGenerationRequired (expected : Nat) : ProblemError :=
  { status := 422
    title := "Data generation required"
    detail := "This sensor must include the coordinated reset data generation"
    code := "data_generation_required"
    extra := [("required_data_generation", expected)] }

def dataGenerationObsolete (expected supplied : Nat) : ProblemError :=
  { status := 409
    title := "Obsolete data generation"
    detail := "Pre-reset readings cannot be accepted"
    code := "data_generation_obsolete"
    extra := [("required_data_generation", expected), ("received_data_generation", supplied)] }

def dataGenerationAhead (expected supplied : Nat) : ProblemError :=
  { status := 409
    title := "Unknown data generation"
    detail := "The sensor generation is ahead of the server's committed generation"
    code := "data_generation_ahead"
    extra := [("required_data_generation", expected), ("received_data_generation", supplied)] }

def readingPrecedesResetBoundary (boundary offending : Nat) : ProblemError :=
  { status := 409
    title := "Reading precedes reset boundary"
    detail := "A reading at or below the committed reset boundary cannot be accepted"
    code := "reading_precedes_reset_boundary"
    extra := [("reset_boundary", boundary), ("received_sequence", offending)] }

/-- The generation a batch claims: its own, else the common one of its readings. -/
def suppliedGeneration (readings : List Reading) (batchGeneration : Option Nat) :
    Except ProblemError (Option Nat) := do
  let readingGenerations := (readings.map Reading.dataGeneration).dedup
  raiseIf (1 < readingGenerations.length) dataGenerationMixed
  let readingGeneration := readingGenerations.head?
  raiseIf (batchGeneration.isSome ∧ readingGeneration.isSome ∧ batchGeneration ≠ readingGeneration)
    dataGenerationMismatch
  pure (batchGeneration.or readingGeneration)

/-- The smallest sequence at or below the boundary, readings before declared ranges. -/
def offendingSequence (readings : List Reading) (ranges : List UnavailableSequenceRange)
    (boundary : Nat) : Option Nat :=
  ((readings.map fun reading => reading.sequence.val).filter (· ≤ boundary)).min?.or
    ((ranges.map fun range => range.span.first).filter (· ≤ boundary)).min?

/-- Return the accepted generation after enforcing the durable reset gate. -/
def enforceDataGenerationGate (state : Option DeviceDataState) (readings : List Reading)
    (batchGeneration : Option Nat) (ranges : List UnavailableSequenceRange) :
    Except ProblemError Nat := do
  let expected := (state.map DeviceDataState.dataGeneration).getD 0
  let boundary := (state.map DeviceDataState.resetBoundary).getD 0
  raiseIf (∃ row ∈ state, row.ingestionGate ≠ .opened ∨ row.resetRequiredOnReconnect = true)
    (sensorResetRequired expected boundary)
  let claimed ← suppliedGeneration readings batchGeneration
  raiseIf (claimed = none ∧ 0 < expected) (dataGenerationRequired expected)
  let supplied := claimed.getD 0
  raiseIf (supplied < expected) (dataGenerationObsolete expected supplied)
  raiseIf (expected < supplied) (dataGenerationAhead expected supplied)
  match offendingSequence readings ranges boundary with
  | some offending => throw (readingPrecedesResetBoundary boundary offending)
  | none => pure expected

/-! ## The sequence cursor -/

def freshCursor (generation : Nat) (now : Int) : SyncCursor :=
  { highestContiguousSequence := 0, maximumSeenSequence := 0, dataGeneration := generation
    resetBoundary := 0, updatedAt := now }

/-- Stored sequences and permanent-loss ranges past the cursor, in scan order. -/
def coverage (store : DeviceStore) (generation highest : Nat) : List Span :=
  sortSpans (((store.sequences generation).filter (highest < ·)).map Span.single ++
    store.lostSpans.filter fun span => highest < span.last)

/-- `_recalculate_cursor`: advance over the coverage, then recreate the unresolved gaps. -/
def recalculateCursor (store : DeviceStore) (now : Int) (generation : Nat) :
    DeviceStore × SyncCursor :=
  let cursor := store.cursor.getD (freshCursor generation now)
  let covered := coverage store generation cursor.highestContiguousSequence
  let highest := advance (cursor.highestContiguousSequence + 1) covered - 1
  let maximum := max ((store.sequences generation).max?.getD 0) cursor.resetBoundary
  let updated := { cursor with
    highestContiguousSequence := highest
    maximumSeenSequence := maximum
    updatedAt := now }
  let gaps := (missing maximum (highest + 1) covered).map fun span =>
    ({ span := span, detectedAt := now } : SequenceGap)
  ({ store with
    cursor := some updated
    sequenceGaps := store.sequenceGaps.filter (fun gap => gap.resolvedAt.isSome) ++ gaps }, updated)

/-- Mark the gap row with these bounds as a permanent loss, inserting it when absent. -/
def markPermanentLoss (now : Int) (gaps : List SequenceGap) (span : Span) : List SequenceGap :=
  if gaps.any fun gap => gap.span = span then
    gaps.map fun gap =>
      if gap.span = span then { gap with resolvedAt := some now, permanentLoss := true } else gap
  else gaps ++ [{ span := span, detectedAt := now, resolvedAt := some now, permanentLoss := true }]

/-- Declared sequences that no reading of the generation backs, ascending. -/
def unavailableSequences (store : DeviceStore) (generation : Nat)
    (ranges : List UnavailableSequenceRange) : List Nat :=
  ((ranges.flatMap fun range => range.span.members).dedup.filter
    fun n => ¬ store.Stored generation n).insertionSort (· ≤ ·)

/-- `_record_permanent_loss_ranges` -/
def recordPermanentLossRanges (store : DeviceStore) (ranges : List UnavailableSequenceRange)
    (now : Int) (generation : Nat) : DeviceStore :=
  { store with
    sequenceGaps := (runs (unavailableSequences store generation ranges)).foldl
      (markPermanentLoss now) store.sequenceGaps }

/-! ## `ingest_readings` -/

section
variable (readingContentHash : Reading → String)

/-- The hash a reading is stored and compared under. -/
def incomingHash (reading : Reading) : String :=
  reading.recordHash.getD (readingContentHash reading)

/-- What the reading loop carries from one reading to the next. -/
structure Progress where
  store : DeviceStore
  accepted : List Nat := []
  duplicates : List Nat := []
  rejected : List RejectedReading := []
  acceptedWindows : List (Int × Int) := []
  deriving DecidableEq, Repr

def futureRejection (reading : Reading) : RejectedReading :=
  ⟨reading.sequence, "measurement_timestamp_in_future",
    "Reading timestamp exceeds the permitted device clock skew"⟩

def conflictRejection (reading : Reading) : RejectedReading :=
  ⟨reading.sequence, "conflicting_duplicate", "Sequence already exists with different content"⟩

def conflictEvent (now : Int) (reading : Reading) (stored incoming : String) : DeviceEvent :=
  { eventId := "conflict-" ++ toString reading.sequence.val ++ "-" ++ String.ofList (incoming.toList.take 12)
    occurredAt := now
    receivedAt := now
    category := "security"
    severity := "critical"
    evidence := [("sequence", .inl reading.sequence.val), ("stored_hash", .inr stored),
      ("incoming_hash", .inr incoming)] }

def existingReading (store : DeviceStore) (generation : Nat) (reading : Reading) : Option RawReading :=
  store.rawReadings.find? fun raw =>
    raw.dataGeneration = generation ∧ raw.sequence = reading.sequence

/-- A stored reading with the same sequence: a duplicate, or a conflict with its event.
The event key is unique per device. -/
def ingestExisting (now : Int) (progress : Progress) (reading : Reading) (existing : RawReading) :
    Except IngestError Progress :=
  let hash := incomingHash readingContentHash reading
  if existing.recordHash = hash then
    pure { progress with duplicates := progress.duplicates ++ [reading.sequence.val] }
  else do
    let event := conflictEvent now reading existing.recordHash hash
    raiseIf (∃ other ∈ progress.store.deviceEvents, other.eventId = event.eventId)
      (.integrityError "uq_device_event")
    pure { progress with
      rejected := progress.rejected ++ [conflictRejection reading]
      store := { progress.store with deviceEvents := progress.store.deviceEvents ++ [event] } }

/-- `_to_raw` -/
def toRaw (siteId : String) (reading : Reading) (source : Source) (now : Int) (generation : Nat) :
    RawReading :=
  { siteId := siteId
    dataGeneration := generation
    reading := reading
    recordHash := incomingHash readingContentHash reading
    ingestionSource := source
    ingestedAt := now }

/-- The raw row and its normalized interval are inserted together. -/
def acceptReading (device : Device) (source : Source) (now : Int) (generation : Nat)
    (progress : Progress) (reading : Reading) : Progress :=
  let raw := toRaw readingContentHash device.siteId reading source now generation
  let interval : NormalizedInterval :=
    ⟨reading.sequence, reading.intervalStart, reading.intervalEnd, normalizeEnergy reading⟩
  { progress with
    store := { progress.store with
      rawReadings := progress.store.rawReadings ++ [raw]
      normalizedIntervals := progress.store.normalizedIntervals ++ [interval] }
    accepted := progress.accepted ++ [reading.sequence.val]
    acceptedWindows := progress.acceptedWindows ++ [(reading.intervalStart, reading.intervalEnd)] }

/-- A new sequence. It is unique over all generations of the device. -/
def ingestNew (device : Device) (source : Source) (now : Int) (generation : Nat)
    (progress : Progress) (reading : Reading) : Except IngestError Progress := do
  raiseIf (∃ raw ∈ progress.store.rawReadings, raw.sequence = reading.sequence)
    (.integrityError "uq_raw_device_sequence")
  pure (acceptReading readingContentHash device source now generation progress reading)

def inFuture (batch : Batch) (now : Int) (reading : Reading) : Prop :=
  now + seconds batch.maximumClockSkewSeconds < reading.intervalEnd

instance (batch : Batch) (now : Int) (reading : Reading) : Decidable (inFuture batch now reading) :=
  inferInstanceAs (Decidable (_ < _))

/-- One turn of the reading loop. -/
def ingestReading (device : Device) (batch : Batch) (now : Int) (generation : Nat)
    (progress : Progress) (reading : Reading) : Except IngestError Progress :=
  if inFuture batch now reading then
    pure { progress with rejected := progress.rejected ++ [futureRejection reading] }
  else match existingReading progress.store generation reading with
    | some existing => ingestExisting readingContentHash now progress reading existing
    | none => ingestNew readingContentHash device batch.source now generation progress reading

/-- The condition for starting the cursor at the first sequence a sensor still holds. -/
def Bootstraps (store : DeviceStore) (cursor : SyncCursor) (batch : Batch) (generation first : Nat) : Prop :=
  cursor.highestContiguousSequence = 0 ∧
  (batch.readings.map fun reading => reading.sequence.val).min? = some first ∧
  1 < first ∧ batch.firstAvailableSequence = some first ∧
  ∀ existing ∈ (store.sequences generation).min?, existing = first

instance (store : DeviceStore) (cursor : SyncCursor) (batch : Batch) (generation first : Nat) :
    Decidable (Bootstraps store cursor batch generation first) :=
  inferInstanceAs (Decidable (_ ∧ _ ∧ _ ∧ _ ∧ _))

theorem Bootstraps.skips {store : DeviceStore} {cursor : SyncCursor} {batch : Batch} {generation first : Nat}
    (bootstraps : Bootstraps store cursor batch generation first) : 1 ≤ first - 1 := Nat.le_sub_one_of_lt bootstraps.2.2.1

/-- Skip the sequences before the first available one and record them as lost. -/
def bootstrapCursor (store : DeviceStore) (cursor : SyncCursor) (batch : Batch) (now : Int)
    (generation : Nat) : DeviceStore :=
  match (batch.readings.map fun reading => reading.sequence.val).min? with
  | none => store
  | some first =>
      if bootstraps : Bootstraps store cursor batch generation first then
        { store with
          cursor := some { cursor with
            highestContiguousSequence := first - 1
            maximumSeenSequence := first - 1
            updatedAt := now }
          sequenceGaps := markPermanentLoss now store.sequenceGaps
            ⟨1, first - 1, bootstraps.skips⟩ }
      else store

/-- Reopen the unfinalized cycles of the account that overlap the accepted readings. -/
def markAffectedCycles (device : Device) (windows : List (Int × Int)) (now : Int)
    (cycles : List BillingCycle) : List BillingCycle :=
  match device.utilityAccountId, (windows.map Prod.fst).min?, (windows.map Prod.snd).max? with
  | some account, some earliest, some latest =>
      if account.isEmpty then cycles
      else cycles.map fun cycle =>
        if cycle.utilityAccountId = account ∧ cycle.finalizedAt = none ∧
            cycle.startsAt < latest ∧ earliest < cycle.endsAt then
          { cycle with status := "recalculating", updatedAt := now }
        else cycle
  | _, _, _ => cycles

def cursorGenerationMismatch : ProblemError :=
  { status := 409
    title := "Sequence cursor generation mismatch"
    detail := "The server cursor is not aligned with the committed data generation"
    code := "data_generation_cursor_mismatch" }

/-- The state the reading loop starts from: cursor inserted, bootstrap and losses recorded. -/
def openBatch (store : DeviceStore) (batch : Batch) (now : Int) (generation : Nat) : DeviceStore :=
  let cursor := store.cursor.getD (freshCursor generation now)
  let withCursor := { store with cursor := some cursor }
  recordPermanentLossRanges (bootstrapCursor withCursor cursor batch now generation)
    batch.unavailableSequenceRanges now generation

/-- The committed state after the reading loop, and the response built from it. -/
def closeBatch (device : Device) (now : Int) (generation : Nat) (progress : Progress) :
    DeviceStore × ReadingBatchResponse :=
  let cycled := { progress.store with
    billingCycles := markAffectedCycles device progress.acceptedWindows now progress.store.billingCycles }
  let (recalculated, cursor) := recalculateCursor cycled now generation
  (recalculated,
    { accepted := progress.accepted
      duplicates := progress.duplicates
      rejected := progress.rejected
      highestContiguousAcceptedSequence := cursor.highestContiguousSequence
      missingRanges := recalculated.unresolvedSpans.insertionSort fun a b => a.first ≤ b.first
      dataGeneration := generation
      resetBoundary := cursor.resetBoundary })

def ingestReadings (store : DeviceStore) (batch : Batch) (now : Int) :
    Except IngestError (DeviceStore × ReadingBatchResponse) := do
  match store.device with
  | none => throw (.valueError "device must exist before reading ingestion")
  | some device =>
      let generation ← (enforceDataGenerationGate store.dataState batch.readings batch.dataGeneration
        batch.unavailableSequenceRanges).mapError .problem
      raiseIf (∃ cursor ∈ store.cursor, cursor.dataGeneration ≠ generation)
        (.problem cursorGenerationMismatch)
      let progress ← batch.readings.foldlM (ingestReading readingContentHash device batch now generation)
        ({ store := openBatch store batch now generation } : Progress)
      pure (closeBatch device now generation progress)

/-- One call as the database sees it: a raised error leaves every row as it was. -/
def ingestCall (store : DeviceStore) (call : Batch × Int) : DeviceStore :=
  match ingestReadings readingContentHash store call.1 call.2 with
  | .ok (final, _) => final
  | .error _ => store

/-- Calls in the order in which their transactions commit. -/
def ingestRun (store : DeviceStore) (calls : List (Batch × Int)) : DeviceStore :=
  calls.foldl (ingestCall readingContentHash) store

end
end PowerMonitor.Ingestion
