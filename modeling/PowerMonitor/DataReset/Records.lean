import PowerMonitor.Ingestion.Service

/-! Rows of the coordinated data reset and the evidence sensors send for it.

A device row is kept together with the rows ingestion reads and writes for that
device, so the reset and the ingestion of readings share one state. Foreign keys
are the identifiers of the rows they point to; the plan of an operation never
changes after approval and is part of the operation row.
-/

set_option autoImplicit false
namespace PowerMonitor.DataReset
open Ingestion

/-! ## Enumerations -/

inductive OperationState where
  | planning | awaitingConfirmation | preparingSensors | sensorsPrepared | backupRunning | backupVerified
  | databaseResetRunning | databaseResetCommitted | sensorCommitRunning | verificationRunning | completed
  | completedWithResetsPendingOnReconnect | partialFailure | attentionRequired | cancelled | failedBeforeCommit
  deriving DecidableEq, Repr

/-- `TERMINAL_OPERATION_STATES` -/
def OperationState.terminal : OperationState → Bool
  | .completed | .cancelled | .failedBeforeCommit => true
  | _ => false

inductive ParticipantState where
  | pending | unreachable | unsupported | prepareRequested | prepared | commitRequested | committed | verified
  | pendingReconnect | failed | attentionRequired | notApplicable
  deriving DecidableEq, Repr

inductive Classification where
  | connected | authenticationFailed | disconnected | unsupported | revoked | removed
  deriving DecidableEq, Repr

inductive LifecycleStatus where | active | decommissioning | decommissioned
  deriving DecidableEq, Repr

inductive DisconnectedSensorPolicy where | block | deferUntilReconnect
  deriving DecidableEq, Repr

inductive BackupMode where | verifiedBackup | permanentWithoutBackup
  deriving DecidableEq, Repr

/-- The states a sensor answers with. The agent queue also reports that it has no command. -/
inductive ResponseState where
  | none | preparing | prepared | commitAuthorized | sequenceAdvanced | cursorsAdvanced | readingsCleared
  | baselineInstalled | verified | completed | attentionRequired | cancelled
  deriving DecidableEq, Repr

/-! ## What sensors report -/

structure SensorResetCommunicationError where
  code : String
  summary : String
  retryable : Bool := true
  requestMayHaveReachedSensor : Bool := true
  deriving DecidableEq, Repr

/-- The latest heartbeat, its payload read through `_safe_int`. -/
structure Heartbeat where
  receivedAt : Int
  dataGeneration : Nat := 0
  newestSequence : Nat := 0
  newestStoredSequence : Nat := 0
  newestSyncableSequence : Nat := 0
  serverAckSequence : Nat := 0
  serverMaximumSeenSequence : Nat := 0
  nextSequence : Option Nat := none
  sequenceFloor : Nat := 0
  preparedRemovalFloor : Nat := 0
  cardGeneration : Option String := none
  localRecordCount : Option Nat := none
  backlogEstimate : Nat := 0
  deriving DecidableEq, Repr

/-- What `validate_sensor_storage_snapshot` returns to the planner. -/
structure StorageSnapshot where
  dataGeneration : Nat
  sequenceFloor : Nat
  nextSequence : Nat
  newestSequence : Nat
  newestSyncableSequence : Nat
  durableNewestSyncableSequence : Nat
  serverAckSequence : Nat
  localRecordCount : Nat
  backlogEstimate : Nat
  prepareDrainRecordsProjected : Nat := 0
  prepareDrainFirstSequenceProjected : Option Nat := none
  prepareDrainLastSequenceProjected : Option Nat := none
  prepareDrainSyncableRecordsProjected : Nat := 0
  cardGeneration : Option String := none
  cardIdentityStatus : String
  sdStatus : String
  deriving DecidableEq, Repr

/-- What the planner knows of one sensor beside its rows. -/
structure Observation where
  heartbeat : Option Heartbeat := none
  probe : Except SensorResetCommunicationError StorageSnapshot
  deriving DecidableEq, Repr

/-- The fields read of a prepared receipt. An integer is `none` when the receipt omits it or holds
something else; the two drain bounds keep the difference between a missing key and a null. -/
structure PreparedReceipt (Digest : Type) where
  protocol : Option String
  operationId : Option String
  deviceId : Option String
  targetGeneration : Option Int
  planRevision : Option Int
  planDigest : Option Digest
  state : Option ResponseState
  checkpoint : Option ResponseState
  firmwareVersion : Option String
  firmwareBuildHash : Option String
  bootId : Option String
  cardGeneration : Option String
  sdStatus : Option String
  serverAckSequence : Option Int
  serverMaximumSeen : Option Int
  resetBoundary : Option Int
  sequenceFloor : Option Int
  nextSequence : Option Int
  localRecordsBefore : Option Int
  localRecordsAfter : Option Int
  newestStoredSequence : Option Int
  newestSyncableSequence : Option Int
  backlogBefore : Option Int
  backlogAfter : Option Int
  prepareDrainRecordsAdded : Option Int
  prepareDrainSyncableRecordsAdded : Option Int
  prepareDrainFirstSequence : Option (Option Int)
  prepareDrainLastSequence : Option (Option Int)
  measurementPauseStartedUtcMs : Option Int
  preparedPzemEnergyWh : Option Int
  softwareEnergyBaselineBeforeWh : Option Int
  configurationPreserved : Bool
  pzemBaselineCaptured : Bool
  configurationPreservationDigestBefore : Option String
  deriving DecidableEq, Repr

/-- The fields read of a completion receipt. -/
structure CommitReceipt (Digest : Type) where
  protocol : Option String
  operationId : Option String
  deviceId : Option String
  targetGeneration : Option Int
  planRevision : Option Int
  planDigest : Option Digest
  state : Option ResponseState
  checkpoint : Option ResponseState
  preparedReceiptDigest : Option String
  firmwareVersion : Option String
  firmwareBuildHash : Option String
  bootId : Option String
  cardGeneration : Option String
  localRecordsBefore : Option Int
  localRecordsAfter : Option Int
  backlogBefore : Option Int
  backlogAfter : Option Int
  recordsDeleted : Option Int
  resetBoundary : Option Int
  sequenceFloor : Option Int
  nextSequence : Option Int
  serverAckSequence : Option Int
  serverMaximumSeen : Option Int
  preparedPzemEnergyWh : Option Int
  commitPzemEnergyWh : Option Int
  verifiedPzemEnergyWh : Option Int
  measurementPauseStartedUtcMs : Option Int
  measurementPauseEndedUtcMs : Option Int
  measurementPauseEvidenced : Bool
  configurationPreserved : Bool
  pzemBaselineCaptured : Bool
  queuesCleared : Bool
  exportsCleared : Bool
  indexesRebuilt : Bool
  configurationPreservationDigestBefore : Option String
  configurationPreservationDigestAfter : Option String
  deriving DecidableEq, Repr

/-- A response whose receipts, if any, carry a valid keyed digest. -/
structure SensorResponse (Digest : Type) where
  state : ResponseState
  failureCode : Option String := none
  preparedReceipt : Option (PreparedReceipt Digest) := none
  preparedReceiptDigest : Option String := none
  commitReceipt : Option (CommitReceipt Digest) := none
  commitReceiptDigest : Option String := none
  configurationPreservationDigestBefore : Option String := none
  configurationPreservationDigestAfter : Option String := none
  deriving DecidableEq, Repr

/-- How one request to a sensor ends. The worker may stop after it has recorded that it asks and
before it records an answer. -/
inductive Exchange (Digest : Type) where
  | stopped
  | failed (error : SensorResetCommunicationError)
  | answered (response : SensorResponse Digest)
  deriving DecidableEq, Repr

/-! ## Plans -/

/-- The part of `_device_plan_snapshot` that a reset reads again. -/
structure DeviceSnapshot where
  deviceId : String
  classification : Classification
  supported : Bool
  lastSeenAt : Option Int
  firmwareVersion : Option String
  firmwareBuildHash : Option String
  dataGeneration : Nat
  sensorDataGeneration : Nat
  boundary : Nat
  serverHighestContiguous : Nat
  serverMaximumSeen : Nat
  sensorAckSequence : Nat
  sensorNewestSequence : Nat
  sensorNewestSyncableSequence : Nat
  sensorDurableNewestSyncableSequence : Nat
  oldSequenceFloor : Nat
  oldNextSequence : Nat
  cardGeneration : Option String
  cardIdentityStatus : Option String
  sdStatus : Option String
  probeStatus : String
  localRecordCount : Nat
  backlogEstimate : Nat
  prepareDrainRecordsProjected : Nat
  prepareDrainFirstSequenceProjected : Option Nat
  prepareDrainLastSequenceProjected : Option Nat
  prepareDrainSyncableRecordsProjected : Nat
  deriving DecidableEq, Repr

/-- `inventory` is the canonical text of what the snapshot lists beside the sensors: the site, the
pricing, the outputs and the rows to be deleted. -/
structure PlanSnapshot where
  siteId : String
  disconnectedSensorPolicy : DisconnectedSensorPolicy
  resetTimestamp : Int
  resetGeneration : Nat
  participants : List DeviceSnapshot
  inventory : String
  deriving DecidableEq, Repr

structure DataResetPlan where
  id : String
  siteId : String
  disconnectedSensorPolicy : DisconnectedSensorPolicy
  planSnapshot : PlanSnapshot
  revision : Nat := 1
  expiresAt : Int
  invalidated : Bool := false
  deriving DecidableEq, Repr

/-! ## Operations and participants -/

/-- What stays of a prepared receipt for the comparison with the completion receipt. -/
structure SafeReceipt where
  localRecordsBefore : Option Int := none
  backlogBefore : Option Int := none
  measurementPauseStartedUtcMs : Option Int := none
  deriving DecidableEq, Repr

structure DataResetParticipant where
  deviceId : String
  state : ParticipantState := .pending
  plannedClassification : Classification
  resetGeneration : Nat
  resetBoundary : Nat
  oldSequenceFloor : Nat := 0
  oldNextSequence : Nat := 1
  newSequenceFloor : Option Nat := none
  newNextSequence : Option Nat := none
  serverHighestContiguous : Nat := 0
  serverMaximumSeen : Nat := 0
  sensorAckSequence : Option Nat := none
  sensorNewestSequence : Option Nat := none
  bootId : Option String := none
  firmwareVersion : Option String := none
  firmwareBuildHash : Option String := none
  cardGeneration : Option String := none
  prepareReceiptSafe : SafeReceipt := {}
  cancelConfirmationRequired : Bool := false
  prepareReceiptDigest : Option String := none
  commitReceiptDigest : Option String := none
  preservationHashBefore : Option String := none
  preservationHashAfter : Option String := none
  failureCode : Option String := none
  failureSummary : Option String := none
  lastAttemptAt : Option Int := none
  preparedAt : Option Int := none
  commitAuthorizedAt : Option Int := none
  committedAt : Option Int := none
  verifiedAt : Option Int := none
  deriving DecidableEq, Repr

/-- Nothing more is asked of such a participant. -/
def DataResetParticipant.Settled (participant : DataResetParticipant) : Prop :=
  participant.state = .verified ∨ participant.state = .notApplicable

instance (participant : DataResetParticipant) : Decidable participant.Settled :=
  inferInstanceAs (Decidable (_ ∨ _))

/-- What the request fingerprint of an operation covers. -/
structure ExecutionRequest where
  planId : String
  planRevision : Nat
  requestedBy : String
  reason : String
  backupMode : BackupMode
  confirmationPhrase : String
  permanentWithoutBackupAcknowledged : Bool
  deriving DecidableEq, Repr

structure DataResetOperation where
  id : String
  plan : DataResetPlan
  siteId : String
  state : OperationState := .preparingSensors
  resetGeneration : Nat
  resetTimestamp : Int
  planRevision : Nat
  backupMode : BackupMode
  backupRunId : Option String := none
  backupChecksum : Option String := none
  backupVerifiedAt : Option Int := none
  idempotencyKey : String
  request : ExecutionRequest
  centralCommitAt : Option Int := none
  completedAt : Option Int := none
  failureCode : Option String := none
  failureSummary : Option String := none
  cancelRequested : Bool := false
  cancelFailsBeforeCommit : Bool := false
  quarantined : Bool := false
  participants : List DataResetParticipant := []
  deriving DecidableEq, Repr

/-- The operation still owns its site. -/
def DataResetOperation.Active (operation : DataResetOperation) : Prop := operation.state.terminal = false

instance (operation : DataResetOperation) : Decidable operation.Active :=
  inferInstanceAs (Decidable (_ = false))

/-- `central_commit_at is not None` -/
def DataResetOperation.Committed (operation : DataResetOperation) : Prop :=
  operation.centralCommitAt.isSome = true

instance (operation : DataResetOperation) : Decidable operation.Committed :=
  inferInstanceAs (Decidable (_ = true))

/-! ## Devices, sites and the database -/

/-- A device row with its capability, its data state and the rows of its readings.
`activeOperation` is the column of the data state. -/
structure Sensor where
  hardwareId : String
  store : DeviceStore
  activeOperation : Option String := none
  revoked : Bool := false
  lifecycleStatus : LifecycleStatus := .active
  supportsDataReset : Bool := true
  firmwareVersion : Option String := none
  firmwareBuildHash : Option String := none
  deriving DecidableEq, Repr

namespace Sensor

def InSite (sensor : Sensor) (siteId : String) : Prop := ∃ device ∈ sensor.store.device, device.siteId = siteId

instance (sensor : Sensor) (siteId : String) : Decidable (sensor.InSite siteId) :=
  inferInstanceAs (Decidable (∃ device ∈ sensor.store.device, _))

/-- Neither revoked nor taken out of service. -/
def InService (sensor : Sensor) : Prop := sensor.revoked = false ∧ sensor.lifecycleStatus = .active

instance (sensor : Sensor) : Decidable sensor.InService := inferInstanceAs (Decidable (_ ∧ _))

def dataGeneration (sensor : Sensor) : Nat := (sensor.store.dataState.map DeviceDataState.dataGeneration).getD 0
def resetBoundary (sensor : Sensor) : Nat := (sensor.store.dataState.map DeviceDataState.resetBoundary).getD 0

/-- The gate lets readings in. A missing row counts as an open gate. -/
def GateOpen (sensor : Sensor) : Prop :=
  ∀ row ∈ sensor.store.dataState, row.ingestionGate = .opened ∧ row.resetRequiredOnReconnect = false

instance (sensor : Sensor) : Decidable sensor.GateOpen :=
  inferInstanceAs (Decidable (∀ row ∈ sensor.store.dataState, _))

/-- Update the data state, if there is one. -/
def updateState (update : DeviceDataState → DeviceDataState) (sensor : Sensor) : Sensor :=
  { sensor with store := { sensor.store with dataState := sensor.store.dataState.map update } }

/-- Set the gate and the reconnect flag. -/
def setGate (gate : IngestionGate) (resetRequired : Bool) : Sensor → Sensor :=
  updateState fun row => { row with ingestionGate := gate, resetRequiredOnReconnect := resetRequired }

/-- Open the gate and let go of the operation. -/
def openGate (sensor : Sensor) : Sensor := { sensor.setGate .opened false with activeOperation := none }

end Sensor

structure Site where
  active : Bool := true
  dataGeneration : Option Nat := none
  deriving DecidableEq, Repr

structure Database where
  sites : List (String × Site) := []
  devices : List (String × Sensor) := []
  plans : List DataResetPlan := []
  operations : List DataResetOperation := []
  deriving DecidableEq, Repr

end PowerMonitor.DataReset
