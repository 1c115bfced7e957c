import PowerMonitor.Ingestion.Redaction
import PowerMonitor.Ingestion.Service

/-! The messages of a device over both protocols: heartbeats, reading batches and event batches.

A headless agent and a device with its own address send heartbeats to different routes; readings
and events take the same path in both protocols. A route that rejects a message after it has
committed rows returns both.
-/

set_option autoImplicit false
namespace PowerMonitor.Ingestion
open Library

/-! ## Rows -/

structure LiveMeasurement where
  measuredAt : Option Int
  voltageV : Rat
  currentA : Rat
  powerW : Rat
  powerFactor : Rat
  frequencyHz : Rat
  energyWh : Rat
  deriving DecidableEq, Repr

/-- `DeviceHeartbeat`. `latest` is the entry of the stored payload. -/
structure DeviceHeartbeat where
  receivedAt : Int
  deviceTime : Option Int := none
  currentWatts : Option Rat := none
  currentVoltageVolts : Option Rat := none
  currentAmps : Option Rat := none
  currentPowerFactor : Option Rat := none
  currentFrequencyHz : Option Rat := none
  currentEnergyWh : Option Rat := none
  dataGeneration : Nat
  newestSequence : Nat
  backlogEstimate : Nat
  latest : Option LiveMeasurement := none
  deriving DecidableEq, Repr

structure DeviceStatusSnapshot where
  capturedAt : Int
  status : String
  deriving DecidableEq, Repr

/-- `DeviceEvent` with its nested evidence. -/
structure StoredEvent where
  eventId : String
  eventSequence : Option Nat
  occurredAt : Int
  receivedAt : Int
  category : String
  severity : String
  evidence : Json

structure EventCursor where
  highestContiguousSequence : Nat
  maximumSeenSequence : Nat
  deriving DecidableEq, Repr

/-- The rows a message of one device reads and writes. -/
structure DeviceRows where
  store : DeviceStore
  lastResetAt : Option Int := none
  heartbeats : List DeviceHeartbeat := []
  statusSnapshots : List DeviceStatusSnapshot := []
  events : List StoredEvent := []
  eventCursor : Option EventCursor := none

/-! ## The device heartbeat -/

/-- The fields read of a heartbeat. `status` is what `_status_from_heartbeat` makes of its health. -/
structure Heartbeat where
  dataGeneration : Option Nat
  latest : Option LiveMeasurement := none
  newestStoredSequence : Nat
  backlogEstimate : Nat
  status : String
  deriving DecidableEq, Repr

structure HeartbeatResponse where
  highestContiguousAcceptedSequence : Nat
  maximumSeenSequence : Nat
  nextSequenceFloor : Nat
  dataGeneration : Nat
  resetBoundary : Nat
  gapRanges : List Span
  immediateSyncRequested : Bool
  deriving DecidableEq, Repr

def heartbeatProblem (code detail : String) (state : DeviceDataState) : ProblemError :=
  { status := if code = "data_generation_required" then 422 else 409
    title := if code = "sensor_reset_required" then "Sensor reset required" else "Data generation rejected"
    detail := detail
    code := code
    extra := [("required_data_generation", state.dataGeneration), ("reset_boundary", state.resetBoundary)] }

/-- Why the gate turns a heartbeat away. -/
def heartbeatRejection (payload : Heartbeat) (state : DeviceDataState) : Option ProblemError :=
  let effective := payload.dataGeneration.getD 0
  if state.ingestionGate ≠ .opened ∨ state.resetRequiredOnReconnect = true then
    some (heartbeatProblem "sensor_reset_required"
      ("This sensor must complete its coordinated local data reset before " ++
        "measurement synchronization resumes") state)
  else if payload.dataGeneration = none ∧ 0 < state.dataGeneration then
    some (heartbeatProblem "data_generation_required"
      "This sensor must report its coordinated reset data generation" state)
  else if effective < state.dataGeneration then
    some (heartbeatProblem "data_generation_obsolete" "A pre-reset heartbeat cannot update measurement state" state)
  else if state.dataGeneration < effective then
    some (heartbeatProblem "data_generation_ahead"
      "The sensor generation is ahead of the server's committed generation" state)
  else none

/-- `_reject_gated_heartbeat`: the liveness rows it commits. -/
def recordGatedHeartbeat (rows : DeviceRows) (payload : Heartbeat) (state : DeviceDataState) (now : Int) : DeviceRows :=
  { rows with
    heartbeats := rows.heartbeats ++ [{
      receivedAt := now
      dataGeneration := payload.dataGeneration.getD 0
      newestSequence := state.resetBoundary
      backlogEstimate := 0 }]
    statusSnapshots := rows.statusSnapshots ++ [⟨now, "reset_pending"⟩] }

def heartbeatCursorMismatch : ProblemError :=
  { status := 409
    title := "Sequence cursor generation mismatch"
    detail := "The heartbeat generation is not aligned with the committed sequence cursor"
    code := "data_generation_cursor_mismatch" }

/-- `heartbeat` of the device protocol. -/
def heartbeat (rows : DeviceRows) (payload : Heartbeat) (now : Int) : DeviceRows × Except ProblemError HeartbeatResponse :=
  match rows.store.dataState.bind fun state => (heartbeatRejection payload state).map fun problem => (state, problem) with
  | some (state, problem) => (recordGatedHeartbeat rows payload state now, .error problem)
  | none =>
      let generation := payload.dataGeneration.getD 0
      let cursor := rows.store.cursor.getD (freshCursor generation now)
      if cursor.dataGeneration ≠ generation then (rows, .error heartbeatCursorMismatch)
      else
        let maximum := max cursor.highestContiguousSequence cursor.maximumSeenSequence
        let gaps := rows.store.unresolvedSpans.insertionSort fun first second => first.first ≤ second.first
        ({ rows with
            store := { rows.store with cursor := some cursor }
            heartbeats := rows.heartbeats ++ [{
              receivedAt := now
              deviceTime := payload.latest.bind LiveMeasurement.measuredAt
              currentWatts := payload.latest.map LiveMeasurement.powerW
              dataGeneration := generation
              newestSequence := payload.newestStoredSequence
              backlogEstimate := payload.backlogEstimate
              latest := payload.latest }]
            statusSnapshots := rows.statusSnapshots ++ [⟨now, payload.status⟩] },
          .ok
            { highestContiguousAcceptedSequence := cursor.highestContiguousSequence
              maximumSeenSequence := maximum
              nextSequenceFloor := maximum + 1
              dataGeneration := cursor.dataGeneration
              resetBoundary := cursor.resetBoundary
              gapRanges := gaps
              immediateSyncRequested := !gaps.isEmpty || decide (0 < payload.backlogEstimate) })

/-! ## The heartbeat of a headless agent -/

structure AgentSequences where
  sequenceFloor : Nat
  maximumSeenSequence : Nat
  serverAcknowledgement : Nat
  nextSequence : Nat
  newestStoredSequence : Nat
  newestSyncableSequence : Nat
  deriving DecidableEq, Repr

/-- `legacyWatts` says that the measurement uses the deprecated name of the power. -/
structure AgentHeartbeat where
  bootId : String
  resetGeneration : Nat
  sequences : AgentSequences
  latest : Option LiveMeasurement := none
  legacyWatts : Bool := false
  deriving DecidableEq, Repr

structure AgentHeartbeatResponse where
  serverAcknowledgement : Nat
  serverMaximumSeenSequence : Nat
  requiredResetGeneration : Nat
  resetRequired : Bool
  nextSequenceFloor : Nat
  immediateBacklogSyncRequested : Bool
  deriving DecidableEq, Repr

/-- The next sequence is above everything the agent reports. -/
def AgentSequences.Valid (sequences : AgentSequences) : Prop :=
  max sequences.sequenceFloor (max sequences.maximumSeenSequence (max sequences.serverAcknowledgement
    (max sequences.newestStoredSequence sequences.newestSyncableSequence))) < sequences.nextSequence

instance (sequences : AgentSequences) : Decidable sequences.Valid := inferInstanceAs (Decidable (_ < _))

def sequenceEvidenceInvalid : ProblemError :=
  { status := 422
    title := "Sequence evidence invalid"
    detail := "next_sequence must remain above every trusted boundary"
    code := "sequence_evidence_invalid" }

/-- The event that records a deprecated field, once for each boot. -/
def deprecationEvent (payload : AgentHeartbeat) (now : Int) : StoredEvent :=
  { eventId := payload.bootId ++ ":legacy-heartbeat-watts"
    eventSequence := none
    occurredAt := now
    receivedAt := now
    category := "protocol_deprecation"
    severity := "info"
    evidence := .object [("code", .text "agent_latest_watts_alias_deprecated"), ("replacement", .text "power_w")] }

/-- `heartbeat` of the agent protocol. -/
def agentHeartbeat (rows : DeviceRows) (payload : AgentHeartbeat) (now : Int) :
    DeviceRows × Except ProblemError AgentHeartbeatResponse :=
  let sequences := payload.sequences
  if ¬ sequences.Valid then (rows, .error sequenceEvidenceInvalid)
  else
    let cursor := rows.store.cursor.getD (freshCursor payload.resetGeneration now)
    let serverMaximum := max cursor.maximumSeenSequence sequences.maximumSeenSequence
    let serverAck := max cursor.highestContiguousSequence sequences.serverAcknowledgement
    let state := rows.store.dataState
    let requiredGeneration := max cursor.dataGeneration ((state.map DeviceDataState.dataGeneration).getD 0)
    let resetRequired := (state.map DeviceDataState.resetRequiredOnReconnect).getD false ||
      decide (payload.resetGeneration < requiredGeneration)
    let backlog := sequences.newestSyncableSequence - serverAck
    let deprecated := deprecationEvent payload now
    ({ rows with
        store := { rows.store with cursor := some cursor }
        heartbeats := rows.heartbeats ++ [{
          receivedAt := now
          deviceTime := payload.latest.bind LiveMeasurement.measuredAt
          currentWatts := payload.latest.map LiveMeasurement.powerW
          currentVoltageVolts := payload.latest.map LiveMeasurement.voltageV
          currentAmps := payload.latest.map LiveMeasurement.currentA
          currentPowerFactor := payload.latest.map LiveMeasurement.powerFactor
          currentFrequencyHz := payload.latest.map LiveMeasurement.frequencyHz
          currentEnergyWh := payload.latest.map LiveMeasurement.energyWh
          dataGeneration := payload.resetGeneration
          newestSequence := sequences.newestStoredSequence
          backlogEstimate := backlog
          latest := payload.latest }]
        events := if payload.latest.isSome ∧ payload.legacyWatts = true ∧
            ¬ ∃ event ∈ rows.events, event.eventId = deprecated.eventId then rows.events ++ [deprecated]
          else rows.events },
      .ok
        { serverAcknowledgement := serverAck
          serverMaximumSeenSequence := serverMaximum
          requiredResetGeneration := requiredGeneration
          resetRequired := resetRequired
          nextSequenceFloor := max serverMaximum sequences.sequenceFloor
          immediateBacklogSyncRequested := decide (0 < backlog) && !resetRequired })

/-! ## Event batches -/

/-- `eventSequence` is the entry of the evidence, which the schema has checked. -/
structure DeviceEventInput where
  eventId : String
  occurredAt : Int
  category : String
  severity : String
  evidence : Json
  eventSequence : Option PositiveSignedSequence := none

structure DeviceEventBatch where
  dataGeneration : Nat
  firstStoredEventSequence : Option PositiveSignedSequence := none
  events : List DeviceEventInput

structure EventBatchResponse where
  accepted : List String
  duplicates : List String
  highestContiguousEventSequence : Nat
  deriving DecidableEq, Repr

def eventSequenceConflict : ProblemError :=
  { status := 422
    title := "Event sequence conflict"
    detail := "One event sequence cannot identify multiple events"
    code := "event_sequence_conflict" }

def DeviceEventInput.sequence? (event : DeviceEventInput) : Option Nat := event.eventSequence.map Subtype.val

/-- Two events of a batch claim one sequence. -/
def SequenceConflict (events : List DeviceEventInput) : Prop :=
  ∃ first ∈ events, ∃ second ∈ events, first.sequence?.isSome = true ∧ first.sequence? = second.sequence? ∧
    first.eventId ≠ second.eventId

instance (events : List DeviceEventInput) : Decidable (SequenceConflict events) :=
  inferInstanceAs (Decidable (∃ first ∈ events, ∃ second ∈ events, _))

/-- The event is stored already. -/
def DeviceRows.Holds (rows : DeviceRows) (eventId : String) : Prop := ∃ event ∈ rows.events, event.eventId = eventId

instance (rows : DeviceRows) (eventId : String) : Decidable (rows.Holds eventId) :=
  inferInstanceAs (Decidable (∃ event ∈ rows.events, _))

section Events
variable (lower redactText : String → String)

/-- The evidence of an event is redacted before it is stored. -/
def Redacts (rows : DeviceRows) (batch : DeviceEventBatch) (event : DeviceEventInput) : Prop :=
  ∃ state ∈ rows.store.dataState, batch.dataGeneration ≠ state.dataGeneration ∨ state.ingestionGate ≠ .opened ∨
    ∃ reset ∈ rows.lastResetAt, event.occurredAt ≤ reset

instance (rows : DeviceRows) (batch : DeviceEventBatch) (event : DeviceEventInput) :
    Decidable (Redacts rows batch event) := inferInstanceAs (Decidable (∃ state ∈ rows.store.dataState, _))

def storeEvent (rows : DeviceRows) (batch : DeviceEventBatch) (now : Int) (event : DeviceEventInput) : StoredEvent :=
  { eventId := event.eventId
    eventSequence := event.sequence?
    occurredAt := event.occurredAt
    receivedAt := now
    category := event.category
    severity := event.severity
    evidence := if Redacts rows batch event then redactHistoryValues lower redactText event.evidence
      else event.evidence }

/-- A stored event takes over the first sequence a repetition of it brings. -/
def adoptSequence (events : List DeviceEventInput) (row : StoredEvent) : StoredEvent :=
  { row with
    eventSequence := row.eventSequence.or
      (events.findSome? fun event => if event.eventId = row.eventId then event.sequence? else none) }

/-- The event rows after a batch. -/
def eventRows (rows : DeviceRows) (batch : DeviceEventBatch) (now : Int) : List StoredEvent :=
  rows.events.map (adoptSequence batch.events) ++
    (batch.events.filter fun event => ¬ rows.Holds event.eventId).map
      (storeEvent lower redactText rows batch now)

/-- The unique keys of the event table. -/
def Insertable (events : List StoredEvent) : Prop :=
  (events.map StoredEvent.eventId).Nodup ∧ (events.filterMap StoredEvent.eventSequence).Nodup

instance (events : List StoredEvent) : Decidable (Insertable events) := inferInstanceAs (Decidable (_ ∧ _))

/-- Sequences of the batch in ascending order. -/
def orderedSequences (events : List DeviceEventInput) : List Nat :=
  (events.filterMap DeviceEventInput.sequence?).dedup.insertionSort (· ≤ ·)

/-- The cursor over the stored event sequences. -/
def advanceEvents (batch : DeviceEventBatch) (events : List StoredEvent) (cursor : Option EventCursor) : EventCursor :=
  let ordered := orderedSequences batch.events
  let complete := ordered ≠ [] ∧ ordered.length = batch.events.length
  let explicit := complete ∧ batch.firstStoredEventSequence.isSome = true ∧
    batch.firstStoredEventSequence.map Subtype.val = ordered.head?
  let start : EventCursor := cursor.getD ⟨if explicit then ordered.headD 0 - 1 else 0, 0⟩
  if complete then
    let maximum := max start.maximumSeenSequence (ordered.getLastD 0)
    let persisted := (events.filterMap StoredEvent.eventSequence).filter fun sequence =>
      start.highestContiguousSequence < sequence ∧ sequence ≤ maximum
    ⟨advance (start.highestContiguousSequence + 1) (sortSpans (persisted.map Span.single)) - 1, maximum⟩
  else start

/-- `event_batch`, and `events` of the agent protocol. -/
def eventBatch (rows : DeviceRows) (batch : DeviceEventBatch) (now : Int) :
    Except IngestError (DeviceRows × EventBatchResponse) := do
  raiseIf (SequenceConflict batch.events) (.problem eventSequenceConflict)
  let events := eventRows lower redactText rows batch now
  raiseIf (¬ Insertable events) (.integrityError "uq_device_event")
  let ordered := orderedSequences batch.events
  let cursor := advanceEvents batch events rows.eventCursor
  pure ({ rows with events := events, eventCursor := some cursor },
    { accepted := (batch.events.filter fun event => ¬ rows.Holds event.eventId).map DeviceEventInput.eventId
      duplicates := (batch.events.filter fun event => rows.Holds event.eventId).map DeviceEventInput.eventId
      highestContiguousEventSequence := if ordered ≠ [] ∧ ordered.length = batch.events.length then
          cursor.highestContiguousSequence
        else 0 })

end Events

/-! ## All messages -/

inductive Message where
  | heartbeat (payload : Heartbeat)
  | agentHeartbeat (payload : AgentHeartbeat)
  | readings (batch : Batch)
  | events (batch : DeviceEventBatch)

inductive Reply where
  | rejected
  | heartbeat (response : HeartbeatResponse)
  | agentHeartbeat (response : AgentHeartbeatResponse)
  | readings (response : ReadingBatchResponse)
  | events (response : EventBatchResponse)

section Process
variable (readingContentHash : Reading → String) (lower redactText : String → String)

/-- One message as the database and the sender see it. -/
def process (rows : DeviceRows) (message : Message) (now : Int) : DeviceRows × Reply :=
  match message with
  | .heartbeat payload => match heartbeat rows payload now with
    | (after, .ok response) => (after, .heartbeat response)
    | (after, .error _) => (after, .rejected)
  | .agentHeartbeat payload => match agentHeartbeat rows payload now with
    | (after, .ok response) => (after, .agentHeartbeat response)
    | (after, .error _) => (after, .rejected)
  | .readings batch => match ingestReadings readingContentHash rows.store batch now with
    | .ok (store, response) => ({ rows with store := store }, .readings response)
    | .error _ => (rows, .rejected)
  | .events batch => match eventBatch lower redactText rows batch now with
    | .ok (after, response) => (after, .events response)
    | .error _ => (rows, .rejected)

/-- Messages in the order in which their transactions commit. -/
def processAll (rows : DeviceRows) (messages : List (Message × Int)) : DeviceRows :=
  messages.foldl (fun rows message => (process readingContentHash lower redactText rows message.1 message.2).1) rows

end Process
end PowerMonitor.Ingestion
