import PowerMonitor.DataReset.Records
import PowerMonitor.Library.Dict

/-! Planning a data reset and the requests an administrator can make.

`canonical_sha256` is a parameter over the two kinds of value it is applied to. What
the planner lists beside the sensors comes from tables outside this model and is an
input of each calculation.
-/

set_option autoImplicit false
namespace PowerMonitor.DataReset
open Ingestion Library

/-- `MAX_RESET_BOUNDARY` -/
def maxResetBoundary : Nat := 2 ^ 63 - 3

/-- `PLAN_TTL` -/
def planTtl : Int := seconds (15 * 60)

def verifiedBackupConfirmationPhrase : String := "RESET ALL READINGS AND PRICING HISTORY"

def noBackupConfirmationPhrase : String :=
  "PERMANENTLY RESET ALL READINGS AND PRICING HISTORY WITHOUT BACKUP"

namespace Database
variable (db : Database)

def device? (deviceId : String) : Option Sensor := db.devices.lookup deviceId
def site? (siteId : String) : Option Site := db.sites.lookup siteId
def plan? (planId : String) : Option DataResetPlan := db.plans.find? fun plan => plan.id = planId

def operation? (operationId : String) : Option DataResetOperation :=
  db.operations.find? fun operation => operation.id = operationId

def siteDevices (siteId : String) : List (String × Sensor) :=
  db.devices.filter fun entry => entry.2.InSite siteId

/-- Change every device row in place. -/
def updateDevices (update : String → Sensor → Sensor) : Database :=
  { db with devices := db.devices.map fun entry => (entry.1, update entry.1 entry.2) }

def updateDevice (deviceId : String) (update : Sensor → Sensor) : Database :=
  db.updateDevices fun id sensor => if id = deviceId then update sensor else sensor

/-- Replace the operation row with this identifier. -/
def setOperation (operation : DataResetOperation) : Database :=
  { db with operations := db.operations.map fun old => if old.id = operation.id then operation else old }

/-- A reset of the site has not reached a terminal state. -/
def SiteBusy (siteId : String) : Prop :=
  ∃ operation ∈ db.operations, operation.siteId = siteId ∧ operation.Active

instance (siteId : String) : Decidable (db.SiteBusy siteId) :=
  inferInstanceAs (Decidable (∃ operation ∈ db.operations, _))

end Database

/-! ## The plan snapshot of one device -/

/-- `_valid_reset_firmware_identity` -/
def validResetFirmwareIdentity (sensor : Sensor) : Bool :=
  match sensor.firmwareVersion, sensor.firmwareBuildHash with
  | some version, some buildHash =>
      decide (1 ≤ version.length ∧ version.length ≤ 80 ∧ buildHash.length = 64) &&
        buildHash.toList.all fun c => "0123456789abcdef".toList.contains c
  | _, _ => false

def sensorInventoryBusy (deviceId : String) : ProblemError :=
  { status := 409
    title := "Sensor inventory is changing"
    detail := "A connected sensor could not provide one coherent exact prepare " ++
      "projection; retry the read-only plan"
    code := "data_reset_sensor_inventory_busy"
    extraTexts := [("device_id", [deviceId])] }

def sequenceSpaceExhausted (deviceId : String) (boundary : Nat) : ProblemError :=
  { status := 409
    title := "Sensor sequence space is exhausted"
    detail := "The sensor boundary is too high to guarantee post-reset readings in signed storage"
    code := "data_reset_sequence_space_exhausted"
    extra := [("boundary", boundary)]
    extraTexts := [("device_id", [deviceId])] }

/-- The classification of a sensor, whether it still counts as supported, the probe status, and the
probe when it is authoritative. -/
structure Classified where
  classification : Classification
  supported : Bool
  probeStatus : String := "not_attempted"
  probe : Option StorageSnapshot := none
  deriving DecidableEq, Repr

def classifyProbe (deviceId : String) :
    Except SensorResetCommunicationError StorageSnapshot → Except ProblemError Classified
  | .ok probe => pure ⟨.connected, true, "authenticated", some probe⟩
  | .error error => do
      raiseIf (error.code = "sensor_probe_projection_busy") (sensorInventoryBusy deviceId)
      pure (if error.code = "sensor_probe_authentication_failed" then ⟨.authenticationFailed, true, error.code, none⟩
        else if error.code = "sensor_probe_unsupported" then ⟨.unsupported, false, error.code, none⟩
        -- A fresh sensor with rejected evidence must not be deferred as disconnected.
        else if error.retryable = false then ⟨.authenticationFailed, true, error.code, none⟩
        else ⟨.disconnected, true, error.code, none⟩)

def classify (deviceId : String) (sensor : Sensor) (observation : Observation)
    (observedAt offlineAfterSeconds : Int) : Except ProblemError Classified :=
  let fresh := ∃ heartbeat ∈ observation.heartbeat,
    observedAt - seconds offlineAfterSeconds ≤ heartbeat.receivedAt
  if sensor.revoked then pure ⟨.revoked, sensor.supportsDataReset, "not_attempted", none⟩
  else if sensor.lifecycleStatus ≠ .active then pure ⟨.removed, sensor.supportsDataReset, "not_attempted", none⟩
  else if sensor.supportsDataReset = false then pure ⟨.unsupported, false, "not_attempted", none⟩
  else if validResetFirmwareIdentity sensor = false then
    pure ⟨.unsupported, false, "firmware_identity_incomplete", none⟩
  else if ¬ fresh then pure ⟨.disconnected, true, "skipped_stale_heartbeat", none⟩
  else classifyProbe deviceId observation.probe

/-- The sequences a heartbeat reports, before a probe replaces them. -/
def Heartbeat.newest (heartbeat : Heartbeat) : Nat :=
  max heartbeat.newestSequence (max heartbeat.newestStoredSequence heartbeat.newestSyncableSequence)

def Heartbeat.next (heartbeat : Heartbeat) : Nat :=
  let reported := heartbeat.nextSequence.getD (heartbeat.newest + 1)
  if reported = 0 then heartbeat.newest + 1 else reported

/-- `_device_plan_snapshot` -/
def devicePlanSnapshot (deviceId : String) (sensor : Sensor) (observation : Observation)
    (observedAt offlineAfterSeconds : Int) : Except ProblemError DeviceSnapshot := do
  let heartbeat := observation.heartbeat.getD { receivedAt := 0 }
  let classified ← classify deviceId sensor observation observedAt offlineAfterSeconds
  let probe := classified.probe
  let newest := (probe.map fun p => max p.newestSequence p.newestSyncableSequence).getD heartbeat.newest
  let nextSequence := (probe.map StorageSnapshot.nextSequence).getD heartbeat.next
  let localFloor := (probe.map StorageSnapshot.sequenceFloor).getD
    (max heartbeat.sequenceFloor heartbeat.preparedRemovalFloor)
  let serverAck := (probe.map StorageSnapshot.serverAckSequence).getD heartbeat.serverAckSequence
  let highest := sensor.store.highestContiguous
  let maximum := sensor.store.maximumSeen
  let rawMax := (sensor.store.rawReadings.map RawReading.sequence).max?.getD 0
  let existingBoundary := max sensor.store.cursorBoundary sensor.resetBoundary
  let boundary := max existingBoundary (max highest (max maximum (max rawMax (max serverAck
    (max heartbeat.serverMaximumSeenSequence (max newest (max localFloor (nextSequence - 1))))))))
  raiseIf (classified.classification ≠ .revoked ∧ classified.classification ≠ .removed ∧
    maxResetBoundary < boundary) (sequenceSpaceExhausted deviceId boundary)
  let sensorGeneration := (probe.map StorageSnapshot.dataGeneration).getD heartbeat.dataGeneration
  pure
    { deviceId := deviceId
      classification := classified.classification
      supported := classified.supported
      lastSeenAt := observation.heartbeat.map Heartbeat.receivedAt
      firmwareVersion := sensor.firmwareVersion
      firmwareBuildHash := sensor.firmwareBuildHash
      dataGeneration := max sensor.dataGeneration sensorGeneration
      sensorDataGeneration := sensorGeneration
      boundary := boundary
      serverHighestContiguous := highest
      serverMaximumSeen := maximum
      sensorAckSequence := serverAck
      sensorNewestSequence := newest
      sensorNewestSyncableSequence :=
        (probe.map StorageSnapshot.newestSyncableSequence).getD heartbeat.newestSyncableSequence
      sensorDurableNewestSyncableSequence :=
        (probe.map StorageSnapshot.durableNewestSyncableSequence).getD heartbeat.newestSyncableSequence
      oldSequenceFloor := localFloor
      oldNextSequence := max nextSequence (boundary + 1)
      cardGeneration := (probe.map StorageSnapshot.cardGeneration).getD heartbeat.cardGeneration
      cardIdentityStatus := probe.map StorageSnapshot.cardIdentityStatus
      sdStatus := probe.map StorageSnapshot.sdStatus
      probeStatus := classified.probeStatus
      localRecordCount := (probe.map StorageSnapshot.localRecordCount).getD (heartbeat.localRecordCount.getD 0)
      backlogEstimate := (probe.map StorageSnapshot.backlogEstimate).getD heartbeat.backlogEstimate
      prepareDrainRecordsProjected := (probe.map StorageSnapshot.prepareDrainRecordsProjected).getD 0
      prepareDrainFirstSequenceProjected := probe.bind StorageSnapshot.prepareDrainFirstSequenceProjected
      prepareDrainLastSequenceProjected := probe.bind StorageSnapshot.prepareDrainLastSequenceProjected
      prepareDrainSyncableRecordsProjected :=
        (probe.map StorageSnapshot.prepareDrainSyncableRecordsProjected).getD 0 }

/-! ## Plans -/

/-- What a calculation of the plan reads outside the reset's own rows. -/
structure PlanInputs where
  observations : String → Observation
  inventory : Except ProblemError String
  offlineAfterSeconds : Int

/-- `calculate_plan_snapshot` -/
def calculatePlanSnapshot (db : Database) (siteId : String) (policy : DisconnectedSensorPolicy)
    (resetAt observedAt : Int) (inputs : PlanInputs) : Except ProblemError PlanSnapshot := do
  let participants ← (db.siteDevices siteId).mapM fun entry =>
    devicePlanSnapshot entry.1 entry.2 (inputs.observations entry.1) observedAt inputs.offlineAfterSeconds
  let inventory ← inputs.inventory
  let siteGeneration := ((db.site? siteId).bind Site.dataGeneration).getD 0
  pure
    { siteId := siteId
      disconnectedSensorPolicy := policy
      resetTimestamp := resetAt
      resetGeneration := (participants.map DeviceSnapshot.dataGeneration).foldr max siteGeneration + 1
      participants := participants
      inventory := inventory }

def siteMissing (detail : String) : ProblemError :=
  { status := 404, title := "Site not found", detail := detail, code := "site_missing" }

def dataResetActive (operationId : String) : ProblemError :=
  { status := 409
    title := "Data reset already active"
    detail := "Wait for the existing site reset and every pending sensor to finish"
    code := "data_reset_active"
    extraTexts := [("operation_id", [operationId])] }

/-- `create_reset_plan`. The identifier is the new row's random one. -/
def createResetPlan (db : Database) (id siteId : String) (policy : DisconnectedSensorPolicy) (now : Int)
    (inputs : PlanInputs) : Except ProblemError Database := do
  match db.site? siteId with
  | none => throw (siteMissing "The active reset site does not exist")
  | some site =>
      raiseIf (site.active = false) (siteMissing "The active reset site does not exist")
      match db.operations.find? fun operation => operation.siteId = siteId ∧ operation.Active with
      | some active => throw (dataResetActive active.id)
      | none =>
          let snapshot ← calculatePlanSnapshot db siteId policy now now inputs
          let plan : DataResetPlan :=
            { id := id
              siteId := siteId
              disconnectedSensorPolicy := policy
              planSnapshot := snapshot
              expiresAt := now + planTtl }
          pure { db with plans := db.plans ++ [plan] }

/-! ## Fingerprints -/

/-- The values `canonical_sha256` is applied to. -/
inductive Canonical where
  | plan (snapshot : PlanSnapshot)
  | request (request : ExecutionRequest)
  deriving DecidableEq, Repr

def DeviceSnapshot.material (item : DeviceSnapshot) : DeviceSnapshot := { item with lastSeenAt := none }

/-- The snapshot without the harmless liveness timestamps. -/
def PlanSnapshot.material (snapshot : PlanSnapshot) : PlanSnapshot :=
  { snapshot with participants := snapshot.participants.map DeviceSnapshot.material }

section Fingerprints
variable {Digest : Type} [DecidableEq Digest] (canonicalSha256 : Canonical → Digest)

def resetPlanFingerprint (snapshot : PlanSnapshot) : Digest := canonicalSha256 (.plan snapshot.material)

/-- `plan_fingerprint`, written once when the plan is stored. -/
def DataResetPlan.planFingerprint (plan : DataResetPlan) : Digest :=
  resetPlanFingerprint canonicalSha256 plan.planSnapshot

def planExpired : ProblemError :=
  { status := 409
    title := "Reset plan expired"
    detail := "Generate and review a new data-only reset plan"
    code := "data_reset_plan_expired" }

def planStale : ProblemError :=
  { status := 409
    title := "Reset plan changed"
    detail := "Site, sensor boundary, pricing, or deletion counts changed; review a new plan"
    code := "data_reset_plan_stale" }

/-- `_revalidate_plan` -/
def revalidatePlan (db : Database) (plan : DataResetPlan) (now : Int) (inputs : PlanInputs) :
    Except ProblemError Unit := do
  raiseIf (plan.invalidated = true ∨ plan.expiresAt ≤ now) planExpired
  raiseIf (db.site? plan.siteId = none) (siteMissing "The reset site no longer exists")
  let current ← calculatePlanSnapshot db plan.siteId plan.disconnectedSensorPolicy
    plan.planSnapshot.resetTimestamp now inputs
  raiseIf (resetPlanFingerprint canonicalSha256 current ≠ plan.planFingerprint canonicalSha256) planStale

/-! ## `create_reset_operation` -/

/-- The characters `str.split` separates at. -/
def isSpace (c : Char) : Bool :=
  let n := c.toNat
  (9 ≤ n && n ≤ 13) || (28 ≤ n && n ≤ 32) || n = 0x85 || n = 0xa0 || n = 0x1680 || (0x2000 ≤ n && n ≤ 0x200a) ||
    n = 0x2028 || n = 0x2029 || n = 0x202f || n = 0x205f || n = 0x3000

/-- `" ".join(reason.split())` -/
def normalizeReason (reason : String) : String :=
  " ".intercalate (((reason.toList.splitOnP isSpace).filter (· ≠ [])).map String.ofList)

example : normalizeReason "  meter \t replaced\n" = "meter replaced" := by decide

def planMissing : ProblemError :=
  { status := 404, title := "Reset plan not found", detail := "Generate a new reset plan"
    code := "data_reset_plan_missing" }

def planRevisionMismatch : ProblemError :=
  { status := 409, title := "Reset plan revision changed", detail := "Review the latest plan revision"
    code := "data_reset_plan_revision_mismatch" }

def reasonInvalid : ProblemError :=
  { status := 422
    title := "Reset reason required"
    detail := "Enter an operational reason of 8 to 500 characters"
    code := "data_reset_reason_invalid" }

def confirmationMismatch : ProblemError :=
  { status := 422
    title := "Confirmation phrase does not match"
    detail := "Enter the exact site-specific confirmation phrase"
    code := "data_reset_confirmation_mismatch" }

def noBackupAcknowledgementRequired : ProblemError :=
  { status := 422
    title := "Permanent reset acknowledgement required"
    detail := "A reset without backup is irreversible and needs separate acknowledgement"
    code := "data_reset_no_backup_ack_required" }

def idempotencyConflict : ProblemError :=
  { status := 409
    title := "Idempotency conflict"
    detail := "The idempotency key belongs to a different reset request"
    code := "idempotency_conflict" }

def sensorAuthenticationFailed (deviceIds : List String) : ProblemError :=
  { status := 409
    title := "Sensor authentication must be repaired"
    detail := "A recently connected sensor rejected the authenticated read-only inventory probe"
    code := "data_reset_sensor_authentication_failed"
    extraTexts := [("device_ids", deviceIds)] }

def sensorUnavailable (deviceIds : List String) : ProblemError :=
  { status := 409
    title := "All sensors must be ready"
    detail := "The plan blocks execution while an active sensor is disconnected or unsupported"
    code := "data_reset_sensor_unavailable"
    extraTexts := [("device_ids", deviceIds)] }

def confirmationPhrase : BackupMode → String
  | .verifiedBackup => verifiedBackupConfirmationPhrase
  | .permanentWithoutBackup => noBackupConfirmationPhrase

/-- The state a participant starts in. -/
def initialState : Classification → ParticipantState
  | .connected => .pending
  | .revoked | .removed => .notApplicable
  | .unsupported => .unsupported
  | .authenticationFailed | .disconnected => .unreachable

def initialParticipant (resetGeneration : Nat) (snapshot : DeviceSnapshot) : DataResetParticipant :=
  { deviceId := snapshot.deviceId
    state := initialState snapshot.classification
    plannedClassification := snapshot.classification
    resetGeneration := resetGeneration
    resetBoundary := snapshot.boundary
    oldSequenceFloor := snapshot.oldSequenceFloor
    oldNextSequence := snapshot.oldNextSequence
    serverHighestContiguous := snapshot.serverHighestContiguous
    serverMaximumSeen := snapshot.serverMaximumSeen
    sensorAckSequence := some snapshot.sensorAckSequence
    sensorNewestSequence := some snapshot.sensorNewestSequence
    firmwareVersion := snapshot.firmwareVersion
    firmwareBuildHash := snapshot.firmwareBuildHash
    cardGeneration := snapshot.cardGeneration }

/-- Insert the data state when it is missing, then close the gate or let the device go. -/
def Sensor.enterOperation (operationId : String) (snapshot : DeviceSnapshot) (sensor : Sensor) : Sensor :=
  let withState : Sensor := { sensor with store := { sensor.store with
    dataState := some (sensor.store.dataState.getD { dataGeneration := snapshot.dataGeneration }) } }
  if initialState snapshot.classification = .notApplicable then withState.openGate
  else
    { withState.setGate (if snapshot.classification = .connected then .preparing else .pendingReconnect)
        (snapshot.classification ≠ .connected) with
      activeOperation := some operationId }

/-- The rows `create_reset_operation` inserts for an approved plan. -/
def newOperation (id : String) (plan : DataResetPlan) (idempotencyKey : String)
    (request : ExecutionRequest) : DataResetOperation :=
  { id := id
    plan := plan
    siteId := plan.siteId
    resetGeneration := plan.planSnapshot.resetGeneration
    resetTimestamp := plan.planSnapshot.resetTimestamp
    planRevision := request.planRevision
    backupMode := request.backupMode
    idempotencyKey := idempotencyKey
    request := request
    participants := plan.planSnapshot.participants.map (initialParticipant plan.planSnapshot.resetGeneration) }

def Database.startOperation (db : Database) (operation : DataResetOperation) : Database :=
  let gated := db.updateDevices fun id sensor =>
    match operation.plan.planSnapshot.participants.find? fun snapshot => snapshot.deviceId = id with
    | some snapshot => sensor.enterOperation operation.id snapshot
    | none => sensor
  { gated with operations := gated.operations ++ [operation] }

/-- How the request can fail beside a `ProblemError`: a unique index rejects the insert. -/
inductive RequestError where
  | problem (problem : ProblemError)
  | integrityError (constraint : String)
  deriving DecidableEq, Repr

/-- The checks of the request itself, before the plan is looked at again. -/
def checkRequest (plan : DataResetPlan) (request : ExecutionRequest) : Except ProblemError Unit := do
  raiseIf (plan.revision ≠ request.planRevision) planRevisionMismatch
  raiseIf (¬ (8 ≤ request.reason.length ∧ request.reason.length ≤ 500)) reasonInvalid
  raiseIf (request.confirmationPhrase ≠ confirmationPhrase request.backupMode) confirmationMismatch
  raiseIf (request.backupMode = .permanentWithoutBackup ∧ request.permanentWithoutBackupAcknowledged = false)
    noBackupAcknowledgementRequired

/-- The checks of the approved snapshot. -/
def checkSnapshot (plan : DataResetPlan) : Except ProblemError Unit := do
  let snapshots := plan.planSnapshot.participants
  let failures := snapshots.filter fun item => item.classification = .authenticationFailed
  raiseIf (failures ≠ []) (sensorAuthenticationFailed (failures.map DeviceSnapshot.deviceId))
  let blocking := snapshots.filter fun item =>
    item.classification = .disconnected ∨ item.classification = .unsupported
  raiseIf (blocking ≠ [] ∧ plan.disconnectedSensorPolicy = .block)
    (sensorUnavailable (blocking.map DeviceSnapshot.deviceId))

/-- The primary key and the unique indexes of the operations table. -/
def checkUnique (db : Database) (operation : DataResetOperation) : Except RequestError Unit := do
  raiseIf (∃ other ∈ db.operations, other.id = operation.id) (.integrityError "data_reset_operations_pkey")
  raiseIf (∃ other ∈ db.operations, other.plan.id = operation.plan.id)
    (.integrityError "uq_data_reset_operation_plan")
  raiseIf (db.SiteBusy operation.siteId) (.integrityError "uq_data_reset_operation_active_site")

/-- `create_reset_operation`. A repeated idempotency key returns the operation that has it. -/
def createResetOperation (db : Database) (id idempotencyKey : String) (request : ExecutionRequest) (now : Int)
    (inputs : PlanInputs) : Except RequestError Database := do
  match db.plan? request.planId with
  | none => throw (.problem planMissing)
  | some plan =>
      let normalized := { request with reason := normalizeReason request.reason }
      (checkRequest plan normalized).mapError .problem
      match db.operations.find? fun operation =>
          operation.siteId = plan.siteId ∧ operation.idempotencyKey = idempotencyKey with
      | some existing =>
          raiseIf (canonicalSha256 (.request existing.request) ≠ canonicalSha256 (.request normalized))
            (.problem idempotencyConflict)
          pure db
      | none =>
          (revalidatePlan canonicalSha256 db plan now inputs).mapError .problem
          (checkSnapshot plan).mapError .problem
          let operation := newOperation id plan idempotencyKey normalized
          checkUnique db operation
          pure (db.startOperation operation)

end Fingerprints

/-! ## Cancellation and retry -/

def cancelUnsafe (detail : String) : ProblemError :=
  { status := 409, title := "Cancellation is no longer safe", detail := detail, code := "data_reset_cancel_unsafe" }

def cancelUnavailable : ProblemError :=
  { status := 409
    title := "Cancellation is unavailable"
    detail := "The reset operation is already terminal"
    code := "data_reset_cancel_unavailable" }

def markCancelRequested (operation : DataResetOperation) : Except ProblemError DataResetOperation := do
  raiseIf operation.Committed (cancelUnsafe "The reset has crossed its irreversible commit boundary")
  raiseIf (¬ operation.Active) cancelUnavailable
  raiseIf (∃ participant ∈ operation.participants, participant.commitAuthorizedAt.isSome = true)
    (cancelUnsafe "A sensor has durably authorized commit")
  pure { operation with cancelRequested := true }

def retryUnavailable : ProblemError :=
  { status := 409
    title := "Reset cannot be retried"
    detail := "Completed, cancelled, and pre-commit-failed operations are terminal"
    code := "data_reset_retry_unavailable" }

def retryResetOperation (operation : DataResetOperation) : Except ProblemError DataResetOperation := do
  raiseIf (¬ operation.Active) retryUnavailable
  pure { operation with
    state := if operation.Committed then .sensorCommitRunning
      else if operation.backupRunId.isSome then .backupRunning else .preparingSensors
    failureCode := none
    failureSummary := none }

end PowerMonitor.DataReset
