import PowerMonitor.Firmware.Records

/-! Post-boot verification by heartbeats and readings of the direct protocol.

A heartbeat of the target image proves the installation. A deployment is completed after enough healthy heartbeats, a durable
reading and a stabilization time, all of which are recorded in its row.
-/

set_option autoImplicit false
namespace PowerMonitor.Firmware
open Library Access

structure FirmwareSettings where
  heartbeatExpectationSeconds : Int := 15
  manifestTtlSeconds : Int := 24 * 60 * 60
  verificationHeartbeatCount : Int := 10
  downloadStaleSeconds : Int := 10 * 60
  interruptionGraceSeconds : Int := 45
  sensorReturnTimeoutSeconds : Int := 5 * 60
  postBootTimeoutSeconds : Int := 15 * 60
  legacyEvidenceTimeoutSeconds : Int := 24 * 60 * 60
  deriving DecidableEq, Repr

/-- `resources["ota_recovery"]` of a heartbeat, a field that is missing or of another type as none. -/
structure OtaRecovery where
  deploymentId : Option Nat := none
  attempt : Option Int := none
  evidenceSequence : Option Int := none
  previousBootStage : String := ""
  previousBootUpdateOpen : Bool := false
  deriving DecidableEq, Repr

structure Heartbeat where
  deviceId : String
  bootId : String
  firmwareVersion : String
  firmwareBuildHash : String
  pzemOk : Bool := true
  sdOk : Bool := true
  timeTrusted : Bool := true
  otaRecovery : OtaRecovery := {}
  deriving DecidableEq, Repr

def Heartbeat.Healthy (payload : Heartbeat) : Prop :=
  payload.pzemOk = true ∧ payload.sdOk = true ∧ payload.timeTrusted = true

instance (payload : Heartbeat) : Decidable payload.Healthy := inferInstanceAs (Decidable (_ ∧ _))

structure Reading where
  sequence : Nat
  bootId : String
  firmwareVersion : String
  deriving DecidableEq, Repr

/-! ## Completion -/

/-- `stabilization_started_at` is old enough. -/
def Stabilized (settings : FirmwareSettings) (now : Int) (started : Int) : Prop :=
  started ≤ now - seconds ((settings.verificationHeartbeatCount - 1) * settings.heartbeatExpectationSeconds)

instance (settings : FirmwareSettings) (now started : Int) : Decidable (Stabilized settings now started) :=
  inferInstanceAs (Decidable (_ ≤ _))

/-- What `_complete_firmware_if_stable` asks of the row. -/
def Stable (settings : FirmwareSettings) (deployment : FirmwareDeployment) (now : Int) : Prop :=
  deployment.state = .awaitingHeartbeat ∧ settings.verificationHeartbeatCount ≤ deployment.verificationHeartbeats ∧
    deployment.readingConfirmedAt.isSome ∧ ∃ started ∈ deployment.stabilizationStartedAt, Stabilized settings now started

instance (settings : FirmwareSettings) (deployment : FirmwareDeployment) (now : Int) :
    Decidable (Stable settings deployment now) := inferInstanceAs (Decidable (_ ∧ _ ∧ _ ∧ _))

def completeFirmwareIfStable (settings : FirmwareSettings) (deployment : FirmwareDeployment) (criticalAlert : Bool) (now : Int) :
    Except Failure FirmwareDeployment :=
  if Stable settings deployment now ∧ criticalAlert = false then do
    let completed ← transitionFirmwareDeployment deployment .completed now .declared
    .ok { completed with
      progress := 100
      validatedAt := completed.validatedAt <|> some now }
  else .ok deployment

/-! ## Reconciliation -/

section Reconciliation
variable (deployment : FirmwareDeployment) (release : FirmwareRelease) (payload : Heartbeat) (now : Int)

def TargetIdentity : Prop :=
  payload.firmwareVersion = release.version ∧ some payload.firmwareBuildHash = release.buildHash

def SourceIdentity : Prop :=
  some payload.firmwareVersion = deployment.sourceVersion ∧ some payload.firmwareBuildHash = deployment.sourceBuildHash

def RecoveryIdentityMatches : Prop :=
  payload.otaRecovery.deploymentId = some deployment.id ∧ payload.otaRecovery.attempt = some (deployment.attempt : Int)

instance : Decidable (TargetIdentity release payload) := inferInstanceAs (Decidable (_ ∧ _))
instance : Decidable (SourceIdentity deployment payload) := inferInstanceAs (Decidable (_ ∧ _))
instance : Decidable (RecoveryIdentityMatches deployment payload) := inferInstanceAs (Decidable (_ ∧ _))

/-- Evidence is ordered within one attempt only; a sequence of another one counts as missing. -/
def recoveryEvidenceSequence : Option Int :=
  if RecoveryIdentityMatches deployment payload then
    payload.otaRecovery.evidenceSequence.filter fun sequence => 0 ≤ sequence ∧ sequence ≤ 2 ^ 64 - 1
  else none

/-- The target image reports newer evidence than the terminal report, from another boot. -/
def TargetSupersedesTerminalReport : Prop :=
  deployment.state ∈ [.failed, .rolledBack] ∧ TargetIdentity release payload ∧ RecoveryIdentityMatches deployment payload ∧
    (∃ sequence ∈ recoveryEvidenceSequence deployment payload, ∃ terminal ∈ deployment.lastReportPayload.evidenceSequence,
      terminal < sequence) ∧
    ∃ boot ∈ deployment.lastReportPayload.bootId, payload.bootId ≠ boot

instance : Decidable (TargetSupersedesTerminalReport deployment release payload) :=
  inferInstanceAs (Decidable (_ ∧ _ ∧ _ ∧ _ ∧ _))

def TargetWasObserved : Prop :=
  deployment.installedAt.isSome ∨ deployment.validatedVersion.any (· ≠ "") ∨
    deployment.state ∈ [.postBootValidation, .validated, .awaitingHeartbeat]

/-- `first or second` -/
def orElseBlank (first second : Option String) : Option String := if first.any (· ≠ "") then first else second

def RollbackBootIsNew : Prop :=
  payload.bootId ≠ "" ∧ some payload.bootId ≠ deployment.sourceBootId ∧
    some payload.bootId ≠ orElseBlank deployment.interruptionEvidence.targetHeartbeatBootId deployment.lastBootId

def RollbackEvidenceIsNew : Prop :=
  RecoveryIdentityMatches deployment payload ∧
    ∃ sequence ∈ recoveryEvidenceSequence deployment payload,
      ∃ target ∈ deployment.interruptionEvidence.targetHeartbeatEvidenceSequence, target < sequence

/-- The source image is back after the target image was seen. -/
def RollbackProved : Prop :=
  TargetWasObserved deployment ∧ SourceIdentity deployment payload ∧ RollbackBootIsNew deployment payload ∧
    RollbackEvidenceIsNew deployment payload

instance : Decidable (TargetWasObserved deployment) := inferInstanceAs (Decidable (_ ∨ _ ∨ _))
instance : Decidable (RollbackBootIsNew deployment payload) := inferInstanceAs (Decidable (_ ∧ _ ∧ _))
instance : Decidable (RollbackEvidenceIsNew deployment payload) := inferInstanceAs (Decidable (_ ∧ _))
instance : Decidable (RollbackProved deployment payload) := inferInstanceAs (Decidable (_ ∧ _ ∧ _ ∧ _))

def preinstallStates : List DeploymentState := [.manifestAuthenticated, .downloadStarted, .downloading, .binaryVerified]

def interruptedStages : List String :=
  ["firmware_request", "firmware_response_headers", "image_metadata_received", "image_metadata_validated",
   "update_begin_completed", "first_bytes_written", "sha_finalized", "protocol_marker_verified", "http_transport_destroyed",
   "update_end_beginning",
   -- Names of earlier builds.
   "download_request", "image_metadata", "update_begin", "streaming", "stream_complete", "hash_verified",
   "partition_finalizing"]

/-- The sensor rebooted during the download and came back on the source image. -/
def DownloadInterrupted (settings : FirmwareSettings) : Prop :=
  deployment.state ∈ preinstallStates ∧ SourceIdentity deployment payload ∧
    ((deployment.lastReportAt <|> deployment.downloadedAt).getD deployment.scheduledAt ≤
      now - seconds settings.interruptionGraceSeconds) ∧
    (deployment.sourceBootId.any (fun boot => boot ≠ "" ∧ payload.bootId ≠ boot) ∨
      payload.otaRecovery.previousBootStage ∈ interruptedStages ∨ payload.otaRecovery.previousBootUpdateOpen = true)

instance (settings : FirmwareSettings) : Decidable (DownloadInterrupted deployment payload now settings) :=
  inferInstanceAs (Decidable (_ ∧ _ ∧ _ ∧ _))

/-- A heartbeat of another image than the target. -/
def reconcileSourceHeartbeat (settings : FirmwareSettings) : Except Failure FirmwareDeployment :=
  if RollbackProved deployment payload then do
    let rolledBack ← transitionFirmwareDeployment deployment .rolledBack now .evidenceReconciliation
    .ok { rolledBack with
      rollbackAt := some now
      rollbackVersion := some payload.firmwareVersion
      rollbackBuildHash := some payload.firmwareBuildHash
      failureCode := some "ota_rollback_detected"
      failureSummary := some "The sensor returned to its previous firmware after the target image was observed."
      interruptionEvidence :=
        { reason := some "target_then_source_identity"
          targetHeartbeatBootId := deployment.interruptionEvidence.targetHeartbeatBootId
          targetHeartbeatEvidenceSequence := deployment.interruptionEvidence.targetHeartbeatEvidenceSequence } }
  else if DownloadInterrupted deployment payload now settings then do
    let failed ← transitionFirmwareDeployment deployment .failed now .declared
    .ok { failed with
      failureCode := some "ota_interrupted_before_install"
      failureSummary := some "The sensor rebooted during the download workflow and returned on the previous firmware."
      interruptionEvidence := { reason := some "source_identity_after_reboot" }
      lastBootId := some payload.bootId }
  else .ok deployment

/-- What a target heartbeat leaves behind for the ordering of later reports. -/
def retainedEvidence : InterruptionEvidence :=
  let sequence := recoveryEvidenceSequence deployment payload
  let newest (previous : Option Int) : Option Int :=
    match sequence, previous with
    | some new, some old => if old < new then some new else some old
    | some new, none => some new
    | none, previous => previous
  let evidence := deployment.interruptionEvidence
  { evidence with
    targetHeartbeatBootId := some payload.bootId
    targetHeartbeatHealthy := some (decide payload.Healthy)
    targetHeartbeatDeploymentId := if sequence.isSome then some deployment.id else evidence.targetHeartbeatDeploymentId
    targetHeartbeatAttempt := if sequence.isSome then some deployment.attempt else evidence.targetHeartbeatAttempt
    targetHeartbeatEvidenceSequence := newest evidence.targetHeartbeatEvidenceSequence
    targetHealthyHeartbeatBootId :=
      if payload.Healthy then some payload.bootId else evidence.targetHealthyHeartbeatBootId
    targetHealthyHeartbeatEvidenceSequence :=
      if payload.Healthy then newest evidence.targetHealthyHeartbeatEvidenceSequence
      else evidence.targetHealthyHeartbeatEvidenceSequence }

/-- The boot of the target image changed while it was stabilizing. -/
def TargetRestarted : Prop := ∃ boot ∈ deployment.lastBootId, boot ≠ "" ∧ boot ≠ payload.bootId

instance : Decidable (TargetRestarted deployment payload) := inferInstanceAs (Decidable (∃ boot ∈ deployment.lastBootId, _))

/-- The row after a target heartbeat, before its health is looked at. -/
def observeTarget : Except Failure FirmwareDeployment :=
  if deployment.state ∉ [.validated, .awaitingHeartbeat] then do
    let supersedes := TargetSupersedesTerminalReport deployment release payload
    let awaiting ← transitionFirmwareDeployment deployment .awaitingHeartbeat now
      (if supersedes then .supersedeTerminalEvidence else .evidenceReconciliation)
    .ok { awaiting with
      progress := 100
      bytesReceived := max awaiting.bytesReceived release.sizeBytes
      installedAt := awaiting.installedAt <|> some now
      validatedVersion := some payload.firmwareVersion
      validatedBuildHash := some payload.firmwareBuildHash
      stabilizationStartedAt := awaiting.stabilizationStartedAt <|> some now
      lastBootId := some payload.bootId
      failureCode := if supersedes then none else awaiting.failureCode
      failureSummary := if supersedes then none else awaiting.failureSummary
      failureReason := if supersedes then none else awaiting.failureReason
      rollbackAt := if supersedes then none else awaiting.rollbackAt
      rollbackVersion := if supersedes then none else awaiting.rollbackVersion
      rollbackBuildHash := if supersedes then none else awaiting.rollbackBuildHash }
  else if TargetRestarted deployment payload then
    -- A reboot of the target image starts a new proof window.
    .ok { deployment with
      verificationHeartbeats := 0
      stabilizationStartedAt := some now
      readingConfirmedAt := none
      revision := deployment.revision + 1
      stateChangedAt := now }
  else .ok deployment

/-- Verification begins with the first heartbeat after the validation. -/
def startAwaiting : Except Failure FirmwareDeployment :=
  if deployment.state = .validated then do
    let awaiting ← transitionFirmwareDeployment deployment .awaitingHeartbeat now .declared
    .ok { awaiting with stabilizationStartedAt := awaiting.stabilizationStartedAt <|> some now }
  else .ok deployment

/-- A healthy target heartbeat counts. -/
def countHeartbeat (settings : FirmwareSettings) (criticalAlert : Bool) : Except Failure FirmwareDeployment := do
  let awaiting ← startAwaiting deployment now
  completeFirmwareIfStable settings { awaiting with verificationHeartbeats := awaiting.verificationHeartbeats + 1 } criticalAlert now

def reconcileTargetHeartbeat (settings : FirmwareSettings) (criticalAlert : Bool) : Except Failure FirmwareDeployment := do
  let observed ← observeTarget deployment release payload now
  let retained := { observed with
    lastBootId := some payload.bootId
    interruptionEvidence := retainedEvidence observed payload }
  if payload.Healthy then countHeartbeat retained now settings criticalAlert else .ok retained

/-- `_reconcile_firmware_heartbeat`, for the deployment that was selected. -/
def reconcileFirmwareHeartbeat (settings : FirmwareSettings) (criticalAlert : Bool) : Except Failure FirmwareDeployment :=
  if deployment.state ∈ [.failed, .rolledBack] ∧ ¬ TargetSupersedesTerminalReport deployment release payload then .ok deployment
  else if ¬ TargetIdentity release payload then reconcileSourceHeartbeat deployment payload now settings
  else reconcileTargetHeartbeat deployment release payload now settings criticalAlert

end Reconciliation

def reconciledStates : List DeploymentState :=
  [.manifestAuthenticated, .waitingForSchedule, .downloadStarted, .downloading, .binaryVerified, .partitionWritten, .rebooting,
   .postBootValidation, .validated, .awaitingHeartbeat, .failed, .rolledBack]

/-- The row was scheduled last among those of the sensor that a heartbeat may concern. -/
def LatestForHeartbeat (deployments : Deployments) (deviceId : String) (row : FirmwareDeployment) : Prop :=
  (row.deviceId = deviceId ∧ row.state ∈ reconciledStates) ∧
    ∀ other ∈ deployments.table.rows, other.deviceId = deviceId → other.state ∈ reconciledStates →
      other.scheduledAt ≤ row.scheduledAt

instance (deployments : Deployments) (deviceId : String) (row : FirmwareDeployment) :
    Decidable (LatestForHeartbeat deployments deviceId row) := inferInstanceAs (Decidable (_ ∧ _))

/-! ## Readings -/

/-- One of the readings is durable, and of the boot and the image under verification. -/
def ProvesReading (deployment : FirmwareDeployment) (readings : List Reading) (durable : List Nat) : Prop :=
  ∃ reading ∈ readings, reading.sequence ∈ durable ∧ some reading.bootId = deployment.lastBootId ∧
    some reading.firmwareVersion = deployment.validatedVersion

instance (deployment : FirmwareDeployment) (readings : List Reading) (durable : List Nat) :
    Decidable (ProvesReading deployment readings durable) := inferInstanceAs (Decidable (∃ reading ∈ _, _))

/-- `_confirm_firmware_reading`, for the deployment that awaits heartbeats. -/
def confirmFirmwareReading (settings : FirmwareSettings) (deployment : FirmwareDeployment) (readings : List Reading)
    (durable : List Nat) (criticalAlert : Bool) (now : Int) : Except Failure FirmwareDeployment :=
  if ProvesReading deployment readings durable then
    completeFirmwareIfStable settings
      { deployment with readingConfirmedAt := deployment.readingConfirmedAt <|> some now } criticalAlert now
  else .ok deployment

end PowerMonitor.Firmware
