import PowerMonitor.DataReset.Receipts

/-! The reset worker: what one exchange with a sensor, a cancellation and the central
commit do to an operation, its participants and their device rows.

A function for one participant returns the participant and the device row it
leaves behind. Requests to sensors are inputs, for the network is not modelled.
-/

set_option autoImplicit false
namespace PowerMonitor.DataReset
open Ingestion Library

/-! ## Participants that cannot take part -/

/-- `_mark_not_applicable`, the participant row. -/
def DataResetParticipant.markNotApplicable (now : Int) (participant : DataResetParticipant) : DataResetParticipant :=
  { participant with
    state := .notApplicable
    failureCode := none
    failureSummary := none
    lastAttemptAt := some now }

/-- `_mark_not_applicable`, the device row: a gate of another operation is left alone. -/
def Sensor.release (operationId : String) (sensor : Sensor) : Sensor :=
  if sensor.activeOperation = none ∨ sensor.activeOperation = some operationId then sensor.openGate else sensor

/-- A sensor that does not advertise the reset protocol any more, or never did. -/
def DataResetParticipant.markUnsupported (now : Int) (participant : DataResetParticipant) : DataResetParticipant :=
  if participant.plannedClassification = .connected then
    { participant with
      state := .attentionRequired
      failureCode := some "sensor_reset_capability_changed"
      failureSummary :=
        some "A sensor that was connected at confirmation no longer advertises data-reset/1.0.0"
      lastAttemptAt := some now }
  else
    { participant with
      state := .unsupported
      failureCode := some "sensor_reset_unsupported"
      failureSummary := some "Sensor must run data-reset/1.0.0 firmware"
      lastAttemptAt := some now }

/-! ## `_prepare_one` -/

inductive PrepareAction where | prepare | status
  deriving DecidableEq, Repr

def prepareAction (participant : DataResetParticipant) : PrepareAction :=
  if participant.state = .prepareRequested then .status else .prepare

def declaresPrepared (state : ResponseState) : Bool := state == .prepared || state == .commitAuthorized

section Exchange
variable {Digest : Type} [DecidableEq Digest] (canonicalSha256 : Canonical → Digest)

/-- An accepted prepared receipt raises the boundary and pins the sensor's identity. -/
def DataResetParticipant.recordPrepared (now : Int) (participant : DataResetParticipant)
    (response : SensorResponse Digest) (receipt : PreparedReceipt Digest) : DataResetParticipant :=
  { participant with
    resetBoundary := receiptBoundary receipt participant.resetBoundary
    oldSequenceFloor := max participant.oldSequenceFloor (receipt.sequenceFloor.getD 0).toNat
    oldNextSequence := max participant.oldNextSequence (receipt.nextSequence.getD 0).toNat
    sensorAckSequence := some (max (participant.sensorAckSequence.getD 0) (receipt.serverAckSequence.getD 0).toNat)
    sensorNewestSequence := some (max (participant.sensorNewestSequence.getD 0)
      (max (receipt.newestStoredSequence.getD 0).toNat (receipt.newestSyncableSequence.getD 0).toNat))
    prepareReceiptSafe := ⟨receipt.localRecordsBefore, receipt.backlogBefore, receipt.measurementPauseStartedUtcMs⟩
    cancelConfirmationRequired := false
    prepareReceiptDigest := response.preparedReceiptDigest
    preservationHashBefore := response.configurationPreservationDigestBefore
    bootId := receipt.bootId
    firmwareVersion := receipt.firmwareVersion
    firmwareBuildHash := receipt.firmwareBuildHash
    cardGeneration := receipt.cardGeneration.or participant.cardGeneration
    state := .prepared
    preparedAt := some now
    failureCode := none
    failureSummary := none }

/-- What an answer to a prepare or status request makes of the participant. -/
def prepareAnswered (now : Int) (operation : DataResetOperation) (participant : DataResetParticipant)
    (sensor : Sensor) (action : PrepareAction) (response : SensorResponse Digest) : Checked DataResetParticipant := do
  if response.state = .none ∧ action = .status then pure { participant with state := .pending }
  else if declaresPrepared response.state then
    let receipt ← validatePreparedReceipt canonicalSha256 operation participant sensor response
    raiseIf (response.preparedReceiptDigest = none ∨ response.configurationPreservationDigestBefore = none ∨
        receipt.configurationPreservationDigestBefore ≠ response.configurationPreservationDigestBefore)
      (rejection "sensor_reset_prepare_receipt_missing"
        "Sensor prepared without complete HMAC-covered preservation evidence")
    raiseIf (participant.cardGeneration.isSome = true ∧ receipt.cardGeneration ≠ participant.cardGeneration)
      (rejection "sensor_reset_card_changed" "Sensor card generation changed after planning")
    pure (participant.recordPrepared now response receipt)
  else if response.state = .attentionRequired then
    pure { participant with
      state := .attentionRequired
      failureCode := some (response.failureCode.getD "sensor_reset_attention_required")
      failureSummary := some "Sensor reported a reset safety mismatch" }
  else pure { participant with state := .prepareRequested }

/-- A failed prepare. An unusable receipt still shows that the sensor has armed its gate. -/
def DataResetParticipant.prepareFailed (now : Int) (participant : DataResetParticipant) (declaredPrepared : Bool)
    (error : SensorResetCommunicationError) : DataResetParticipant :=
  { participant with
    state := if error.retryable ∧ participant.plannedClassification ≠ .connected then .pendingReconnect
      else .attentionRequired
    failureCode := some error.code
    failureSummary := some error.summary
    lastAttemptAt := some now
    preparedAt := if declaredPrepared then participant.preparedAt.or (some now) else participant.preparedAt
    cancelConfirmationRequired := participant.cancelConfirmationRequired || error.requestMayHaveReachedSensor }

/-- The gate after a failed prepare: only a sensor planned as connected needs attention. -/
def Sensor.prepareFailed (participant : DataResetParticipant) (sensor : Sensor) : Sensor :=
  if participant.plannedClassification = .connected then sensor.setGate .attentionRequired true else sensor

/-- The worker records that it asks before it asks. -/
def DataResetParticipant.requestPrepare (now : Int) (participant : DataResetParticipant) : DataResetParticipant :=
  { participant with state := .prepareRequested, lastAttemptAt := some now }

/-- `_prepare_one` -/
def prepareOne (now : Int) (operation : DataResetOperation) (participant : DataResetParticipant) (sensor : Sensor)
    (exchange : Exchange Digest) : DataResetParticipant × Sensor :=
  if ¬ sensor.InService then (participant.markNotApplicable now, sensor.release operation.id)
  else if sensor.supportsDataReset = false then
    (participant.markUnsupported now,
      sensor.setGate (if participant.plannedClassification = .connected then .attentionRequired
        else .pendingReconnect) true)
  else
    let requested := participant.requestPrepare now
    match exchange with
    | .stopped => (requested, sensor)
    | .failed error => (requested.prepareFailed now false error, sensor.prepareFailed participant)
    | .answered response =>
        match prepareAnswered canonicalSha256 now operation requested sensor (prepareAction participant) response with
        | .ok answered => (answered, sensor)
        | .error error => (requested.prepareFailed now (declaresPrepared response.state) error,
            sensor.prepareFailed participant)

/-! ## `_commit_one` -/

def commitReceiptMissing : SensorResetCommunicationError :=
  rejection "sensor_reset_prepare_receipt_missing" "Sensor commit requires its verified prepared receipt"

/-- The rows of a device whose reset the sensor has completed. -/
def Sensor.verifyReset (now : Int) (operation : DataResetOperation) (boundary : Nat) (sensor : Sensor) : Sensor :=
  let cursor : SyncCursor := match sensor.store.cursor with
    | some row => { row with
        highestContiguousSequence := max row.highestContiguousSequence boundary
        maximumSeenSequence := max row.maximumSeenSequence boundary
        dataGeneration := operation.resetGeneration
        resetBoundary := max row.resetBoundary boundary
        updatedAt := now }
    | none => ⟨boundary, boundary, operation.resetGeneration, boundary, now⟩
  let advanced := sensor.updateState fun row =>
    { row with
      dataGeneration := operation.resetGeneration
      resetBoundary := max row.resetBoundary boundary }
  { advanced.openGate with store := { advanced.openGate.store with cursor := some cursor } }

def DataResetParticipant.recordVerified (now : Int) (participant : DataResetParticipant)
    (response : SensorResponse Digest) (receipt : CommitReceipt Digest) : DataResetParticipant :=
  { participant with
    commitReceiptDigest := response.commitReceiptDigest
    preservationHashAfter := response.configurationPreservationDigestAfter
    newSequenceFloor := some (receipt.sequenceFloor.getD 0).toNat
    newNextSequence := some (receipt.nextSequence.getD 0).toNat
    state := .verified
    committedAt := some now
    verifiedAt := some now
    failureCode := none
    failureSummary := none }

/-- What an answer to a commit or status request makes of the participant and its device. -/
def commitAnswered (now : Int) (operation : DataResetOperation) (participant : DataResetParticipant)
    (sensor : Sensor) (response : SensorResponse Digest) : Checked (DataResetParticipant × Sensor) :=
  match response.state with
  | .attentionRequired => throw (rejection (response.failureCode.getD "sensor_reset_attention_required")
      "Sensor reported a post-commit safety mismatch")
  | .preparing | .cancelled => throw (rejection "sensor_reset_commit_state_regressed"
      "Sensor reset state regressed after the central commit")
  | .completed => do
      let receipt ← validateCompletedReceipt canonicalSha256 operation participant response
      raiseIf (participant.preservationHashBefore = none ∨
          participant.preservationHashBefore ≠ response.configurationPreservationDigestBefore ∨
          participant.preservationHashBefore ≠ response.configurationPreservationDigestAfter)
        (configurationChanged "Sensor configuration preservation digest changed")
      raiseIf (sensor.store.dataState = none) (rejection "sensor_reset_device_state_missing"
        "Server reset gate disappeared before sensor verification")
      pure (participant.recordVerified now response receipt,
        sensor.verifyReset now operation participant.resetBoundary)
  -- A transient failure before authorization leaves the sensor prepared; the commit is sent again.
  | .prepared => pure
      ({ participant with
          state := .prepared
          failureCode := response.failureCode
          failureSummary := some "Sensor remains prepared; retrying the exact commit" }, sensor)
  | _ => pure ({ participant with state := .commitRequested }, sensor)

def commitFailed (participant : DataResetParticipant) (sensor : Sensor) (error : SensorResetCommunicationError) :
    DataResetParticipant × Sensor :=
  ({ participant with
      state := if error.retryable then .failed else .attentionRequired
      failureCode := some error.code
      failureSummary := some error.summary },
    sensor.setGate (if error.retryable then .committing else .attentionRequired) true)

def DataResetParticipant.requestCommit (now : Int) (participant : DataResetParticipant) : DataResetParticipant :=
  { participant with
    state := .commitRequested
    lastAttemptAt := some now
    commitAuthorizedAt := participant.commitAuthorizedAt.or (some now) }

def Sensor.holdForCommit : Sensor → Sensor := Sensor.updateState fun row => { row with ingestionGate := .committing }

/-- The commit request of a prepared participant. A status request asks for the outcome of the last one. -/
def commitPrepared (now : Int) (operation : DataResetOperation) (participant : DataResetParticipant)
    (sensor : Sensor) (exchange : Exchange Digest) : DataResetParticipant × Sensor :=
  let requested := participant.requestCommit now
  let gated := sensor.holdForCommit
  if participant.state ≠ .commitRequested ∧ participant.prepareReceiptDigest = none then
    commitFailed requested gated commitReceiptMissing
  else match exchange with
    | .stopped => (requested, gated)
    | .failed error => commitFailed requested gated error
    | .answered response =>
        match commitAnswered canonicalSha256 now operation requested gated response with
        | .ok outcome => outcome
        | .error error => commitFailed requested gated error

/-- States from which a late sensor is prepared before it is asked to commit. -/
def NeedsPrepare (state : ParticipantState) : Prop :=
  state = .pendingReconnect ∨ state = .unsupported ∨ state = .unreachable ∨ state = .failed

instance (state : ParticipantState) : Decidable (NeedsPrepare state) :=
  inferInstanceAs (Decidable (_ ∨ _ ∨ _ ∨ _))

/-- `_commit_one` -/
def commitOne (now : Int) (operation : DataResetOperation) (participant : DataResetParticipant) (sensor : Sensor)
    (prepare commit : Exchange Digest) : DataResetParticipant × Sensor :=
  if ¬ sensor.InService then (participant.markNotApplicable now, sensor.release operation.id)
  else if NeedsPrepare participant.state then
    if sensor.supportsDataReset = false then (participant, sensor)
    else
      let prepared := prepareOne canonicalSha256 now operation participant sensor prepare
      if prepared.1.state = .prepared then
        commitPrepared canonicalSha256 now operation prepared.1 prepared.2 commit
      else prepared
  else commitPrepared canonicalSha256 now operation participant sensor commit

end Exchange

/-! ## `_cancel_operation` -/

/-- A sensor that may hold an armed reset has to confirm the cancellation. -/
def NeedsSensorCancel (participant : DataResetParticipant) : Prop :=
  participant.state = .prepared ∨ participant.state = .prepareRequested ∨
  (participant.state = .attentionRequired ∧
    (participant.preparedAt.isSome = true ∨ participant.cancelConfirmationRequired = true))

instance (participant : DataResetParticipant) : Decidable (NeedsSensorCancel participant) :=
  inferInstanceAs (Decidable (_ ∨ _ ∨ _))

/-- The answers to the cancel requests: the state a sensor reports, or a failed exchange. -/
abbrev CancelAnswers := String → Except SensorResetCommunicationError ResponseState

def cancelParticipant (answers : CancelAnswers) (participant : DataResetParticipant) : DataResetParticipant :=
  if NeedsSensorCancel participant then
    match answers participant.deviceId with
    | .error error => { participant with failureCode := some error.code, failureSummary := some error.summary }
    | .ok .cancelled => { participant with
        state := .pending
        failureCode := none
        failureSummary := none
        cancelConfirmationRequired := false }
    | .ok _ => participant
  else participant

def Cancelled (answers : CancelAnswers) (participant : DataResetParticipant) : Prop :=
  NeedsSensorCancel participant → answers participant.deviceId = .ok .cancelled

instance (answers : CancelAnswers) (participant : DataResetParticipant) :
    Decidable (Cancelled answers participant) := inferInstanceAs (Decidable (_ → _))

/-- How an operation ends once every armed sensor has confirmed. -/
def cancelTerminalState (operation : DataResetOperation) : OperationState :=
  if operation.cancelFailsBeforeCommit then .failedBeforeCommit else .cancelled

/-- `_cancel_operation`; `restored` is the outcome of moving quarantined artifacts back. -/
def cancelOperation (now : Int) (operation : DataResetOperation) (answers : CancelAnswers)
    (restored : Except ProblemError Unit) : DataResetOperation :=
  let asked := { operation with participants := operation.participants.map (cancelParticipant answers) }
  if ¬ ∀ participant ∈ operation.participants, Cancelled answers participant then asked
  else match restored with
    | .error problem => { asked with
        state := .attentionRequired
        failureCode := some problem.code
        failureSummary := some problem.detail }
    | .ok () => { asked with
        state := cancelTerminalState operation
        completedAt := some now }

/-! ## The end of a prepare pass -/

/-- A participant the central commit may go ahead with. -/
def ReadyForCommit (participant : DataResetParticipant) : Prop :=
  participant.state = .prepared ∨ participant.state = .notApplicable ∨
  (participant.plannedClassification ≠ .connected ∧
    (participant.state = .pendingReconnect ∨ participant.state = .unreachable ∨ participant.state = .unsupported))

instance (participant : DataResetParticipant) : Decidable (ReadyForCommit participant) :=
  inferInstanceAs (Decidable (_ ∨ _ ∨ _))

/-- `_prepare_operation` after its loop. -/
def finishPreparing (operation : DataResetOperation) : DataResetOperation :=
  if ∃ participant ∈ operation.participants, participant.state = .attentionRequired then
    { operation with
      state := .attentionRequired
      failureCode := some "sensor_prepare_attention_required"
      failureSummary := some "A sensor failed a pre-reset safety check" }
  else if ∀ participant ∈ operation.participants, ReadyForCommit participant then
    { operation with state := .sensorsPrepared }
  else operation

/-! ## The backup -/

/-- What the worker finds of the backup it has asked for. -/
inductive BackupEvidence where
  | missing
  | conclusive (manifestHash : Option String) (verifiedAt : Option Int)
  | inconclusive
  | failed (code summary : Option String)
  | running
  deriving DecidableEq, Repr

/-- `queue_reset_backup`, or the transition that replaces it without a backup. -/
def requestBackup (backupId : String) (operation : DataResetOperation) : DataResetOperation :=
  match operation.backupMode with
  | .verifiedBackup =>
      if operation.backupRunId.isSome then operation
      else { operation with backupRunId := some backupId, state := .backupRunning }
  | .permanentWithoutBackup => { operation with state := .backupVerified }

/-- A failed backup cancels the operation before anything is deleted. -/
def failBackup (code summary : String) (operation : DataResetOperation) : DataResetOperation :=
  { operation with
    failureCode := some code
    failureSummary := some summary
    cancelRequested := true
    cancelFailsBeforeCommit := true
    state := .preparingSensors }

def checkBackup (evidence : BackupEvidence) (operation : DataResetOperation) : DataResetOperation :=
  match evidence with
  | .missing => failBackup "data_reset_backup_missing" "The reset backup record is missing" operation
  | .conclusive manifestHash verifiedAt =>
      { operation with backupChecksum := manifestHash, backupVerifiedAt := verifiedAt, state := .backupVerified }
  | .inconclusive => failBackup "data_reset_backup_verification_inconclusive"
      "The isolated restore verifier did not record conclusive backup evidence" operation
  | .failed code summary => failBackup (code.getD "data_reset_backup_failed")
      (summary.getD "Verified reset backup could not be created") operation
  | .running => operation

/-! ## `perform_central_reset` -/

/-- Delete the measurement rows of a site. -/
def Sensor.deleteMeasurements (siteId : String) (resetAt : Int) (sensor : Sensor) : Sensor :=
  let deleted := sensor.store.rawReadings.filter fun raw => raw.siteId = siteId
  { sensor with store := { sensor.store with
    rawReadings := sensor.store.rawReadings.filter fun raw => raw.siteId ≠ siteId
    normalizedIntervals := sensor.store.normalizedIntervals.filter fun interval =>
      interval.rawReading ∉ deleted.map RawReading.sequence
    sequenceGaps := if sensor.InSite siteId then
        sensor.store.sequenceGaps.filter fun gap => resetAt < gap.detectedAt
      else sensor.store.sequenceGaps } }

/-- The generation, boundary, gate and cursor of a participant's device at the central commit. -/
def Sensor.advance (now : Int) (operation : DataResetOperation) (participant : DataResetParticipant)
    (sensor : Sensor) : Sensor :=
  let boundary := participant.resetBoundary
  let cursor : SyncCursor := match sensor.store.cursor with
    | some row => { row with
        highestContiguousSequence := max row.highestContiguousSequence boundary
        maximumSeenSequence := max row.maximumSeenSequence boundary
        dataGeneration := operation.resetGeneration
        resetBoundary := max row.resetBoundary boundary
        updatedAt := now }
    | none => ⟨boundary, boundary, operation.resetGeneration, boundary, now⟩
  let advanced := sensor.updateState fun row =>
    { row with
      dataGeneration := operation.resetGeneration
      resetBoundary := max row.resetBoundary boundary }
  let gated := if participant.state = .notApplicable then advanced.openGate
    else advanced.setGate (if participant.state = .prepared then .committing else .pendingReconnect)
      (participant.state ≠ .prepared)
  { gated with store := { gated.store with cursor := some cursor } }

def transitionInvalid : ProblemError :=
  { status := 409
    title := "Reset is not ready for central commit"
    detail := "Sensors and the selected backup must complete first"
    code := "data_reset_transition_invalid" }

def backupNotVerified : ProblemError :=
  { status := 409
    title := "Verified backup required"
    detail := "Central deletion cannot begin before backup restore verification succeeds"
    code := "data_reset_backup_not_verified" }

def sensorNotPrepared (deviceIds : List String) : ProblemError :=
  { status := 409
    title := "Sensors are not prepared"
    detail := "Every connected participant must be prepared before central commit"
    code := "data_reset_sensor_not_prepared"
    extraTexts := [("device_ids", deviceIds)] }

def generationConflict : ProblemError :=
  { status := 409
    title := "Reset generation conflict"
    detail := "The site has already advanced to this or a newer data generation"
    code := "data_reset_generation_conflict" }

def deviceStateMissing : ProblemError :=
  { status := 409
    title := "Sensor reset state missing"
    detail := "A participant's durable ingestion gate is missing"
    code := "data_reset_device_state_missing" }

/-- The data state of a participant's device is there. -/
def Database.HasDataState (db : Database) (deviceId : String) : Prop :=
  ∃ sensor ∈ db.device? deviceId, sensor.store.dataState ≠ none

instance (db : Database) (deviceId : String) : Decidable (db.HasDataState deviceId) :=
  inferInstanceAs (Decidable (∃ sensor ∈ db.device? deviceId, _))

/-- The rows the central commit writes. -/
def Database.commitCentrally (db : Database) (now : Int) (operation : DataResetOperation) : Database :=
  let site := (db.site? operation.siteId).getD {}
  let deleted := db.updateDevices fun _ => Sensor.deleteMeasurements operation.siteId operation.resetTimestamp
  let advanced := deleted.updateDevices fun id sensor =>
    match operation.participants.find? fun participant => participant.deviceId = id with
    | some participant => sensor.advance now operation participant
    | none => sensor
  let recorded := advanced.setOperation
    { operation with state := .databaseResetCommitted, centralCommitAt := some now }
  { recorded with
    sites := setKey operation.siteId { site with dataGeneration := some operation.resetGeneration } db.sites }

/-- `perform_central_reset` on an operation without a central commit. `scope` is the outcome of the
checks of the backup, the pricing and the counts of rows outside this model. -/
def performCentralReset (db : Database) (now : Int) (operation : DataResetOperation)
    (scope : Except ProblemError Unit) : Except ProblemError Database := do
  raiseIf (¬ (operation.state = .backupVerified ∨ operation.state = .databaseResetRunning)) transitionInvalid
  raiseIf (operation.backupMode = .verifiedBackup ∧ operation.backupVerifiedAt = none) backupNotVerified
  let unsafeParticipants := operation.participants.filter fun participant => ¬ ReadyForCommit participant
  raiseIf (unsafeParticipants ≠ []) (sensorNotPrepared (unsafeParticipants.map DataResetParticipant.deviceId))
  scope
  let siteGeneration := ((db.site? operation.siteId).bind Site.dataGeneration).getD 0
  raiseIf (operation.resetGeneration ≤ siteGeneration) generationConflict
  raiseIf (∃ participant ∈ operation.participants, ¬ db.HasDataState participant.deviceId) deviceStateMissing
  pure (db.commitCentrally now operation)

/-! ## The end of a commit pass -/

/-- What the worker finds of the first costs after the reset. -/
inductive CostEvidence where | missingAggregates | pending | confirmed | notRequired
  deriving DecidableEq, Repr

/-- A verified device has sent a reading of the new generation. -/
def Database.ReadingReceived (db : Database) (operation : DataResetOperation) (deviceId : String) : Prop :=
  ∃ sensor ∈ db.device? deviceId, ∃ raw ∈ sensor.store.rawReadings,
    raw.dataGeneration = operation.resetGeneration ∧ ∃ committed ∈ operation.centralCommitAt, committed ≤ raw.ingestedAt

instance (db : Database) (operation : DataResetOperation) (deviceId : String) :
    Decidable (db.ReadingReceived operation deviceId) :=
  inferInstanceAs (Decidable (∃ sensor ∈ db.device? deviceId, ∃ raw ∈ sensor.store.rawReadings, _ ∧ _))

/-- A participant that is waited for without holding the others up. -/
def Deferred (participant : DataResetParticipant) : Prop :=
  participant.state = .pendingReconnect ∨ participant.state = .unsupported ∨ participant.state = .unreachable

instance (participant : DataResetParticipant) : Decidable (Deferred participant) :=
  inferInstanceAs (Decidable (_ ∨ _ ∨ _))

/-- `_commit_operation` after its loop. -/
def finishCommitting (db : Database) (now : Int) (operation : DataResetOperation) (costs : CostEvidence) :
    DataResetOperation :=
  let participants := operation.participants
  let verified := participants.filter fun participant => participant.state = .verified
  let received := ∀ participant ∈ verified, db.ReadingReceived operation participant.deviceId
  if ∃ participant ∈ participants, participant.state = .attentionRequired then
    { operation with
      state := .attentionRequired
      failureCode := some "sensor_reset_attention_required"
      failureSummary := some "One or more sensors require manual attention" }
  else if ∃ participant ∈ participants, participant.state = .failed then
    { operation with
      state := .partialFailure
      failureCode := some "sensor_reset_partial_failure"
      failureSummary := some "One or more sensor reset checkpoints need retry" }
  else if ∃ participant ∈ participants, ¬ (participant.Settled ∨ Deferred participant) then
    { operation with state := .sensorCommitRunning, failureCode := none, failureSummary := none }
  else if verified ≠ [] ∧ received ∧ costs = .missingAggregates then
    { operation with
      state := .attentionRequired
      failureCode := some "data_reset_post_reset_cost_scope_invalid"
      failureSummary := some "A preserved utility account has no aggregate that can price the new sensor reading" }
  else if ¬ (verified = [] ∨ (received ∧ costs ≠ .pending)) then
    { operation with state := .verificationRunning, failureCode := none, failureSummary := none }
  else
    { operation with
      state := if ∃ participant ∈ participants, Deferred participant then .completedWithResetsPendingOnReconnect
        else .completed
      completedAt := operation.completedAt.or (some now)
      failureCode := none
      failureSummary := none }

end PowerMonitor.DataReset
