import PowerMonitor.Firmware.Heartbeats

/-! Authenticated milestone reports of the direct protocol, and the outcome of overdue attempts. -/

set_option autoImplicit false
namespace PowerMonitor.Firmware
open Library Access

/-! ## Reports -/

section Reports
variable (deployment : FirmwareDeployment) (release : FirmwareRelease) (payload : FirmwareDeploymentReport) (now : Int)

/-- A milestone made obsolete by newer signed target heartbeat evidence. -/
def IsSupersededTargetReport : Prop :=
  deployment.state ∈ [.awaitingHeartbeat, .completed] ∧
    payload.state ∈ [.partitionWritten, .rebooting, .postBootValidation, .validated] ∧
    payload.currentFirmwareVersion = release.version ∧ some payload.currentBuildHash = release.buildHash

instance : Decidable (IsSupersededTargetReport deployment release payload) := inferInstanceAs (Decidable (_ ∧ _ ∧ _ ∧ _))

/-- The report comes from another boot than the one under verification. -/
def StaleBootReport : Prop :=
  deployment.state ∈ [.awaitingHeartbeat, .completed] ∧ ∃ boot ∈ deployment.lastBootId, boot ≠ "" ∧ payload.bootId ≠ boot

/-- A failure report that a healthy target heartbeat of the same boot outdates. -/
def OutdatedFailureReport : Prop :=
  deployment.state = .awaitingHeartbeat ∧ payload.state ∈ [.failed, .rollbackDetected, .rolledBack] ∧
    deployment.interruptionEvidence.targetHealthyHeartbeatBootId = some payload.bootId ∧
    ¬ ∃ sequence ∈ payload.evidenceSequence,
      ∃ healthy ∈ deployment.interruptionEvidence.targetHealthyHeartbeatEvidenceSequence, healthy < (sequence : Int)

/-- The report is older than the accepted one. -/
def OutdatedReport : Prop :=
  ∃ sequence ∈ payload.evidenceSequence, ∃ previous ∈ deployment.lastReportPayload.evidenceSequence, (sequence : Int) < previous

instance : Decidable (StaleBootReport deployment payload) := inferInstanceAs (Decidable (_ ∧ _))
instance : Decidable (OutdatedFailureReport deployment payload) := inferInstanceAs (Decidable (_ ∧ _ ∧ _ ∧ _))
instance : Decidable (OutdatedReport deployment payload) := inferInstanceAs (Decidable (∃ sequence ∈ payload.evidenceSequence, _))

/-- The report concerns this deployment, its attempt and its target. -/
def requireReportMatches : Except Failure Unit := do
  refuseIf (deployment.releaseId ≠ payload.releaseId) 409 "Release mismatch" "Report release does not match deployment"
    "firmware_report_mismatch"
  refuseIf (payload.attempt ≠ deployment.attempt) 409 "Attempt mismatch"
    "Report attempt does not match the active deployment attempt"
    (if payload.attempt < deployment.attempt then "firmware_report_stale" else "firmware_report_mismatch")
  refuseIf (payload.targetVersion ≠ release.version ∨ payload.targetSha256 ≠ release.sha256 ∨
      payload.imageSize ≠ release.sizeBytes) 409 "Target mismatch"
    "Report firmware target does not match the authenticated deployment" "firmware_report_mismatch"

/-- Either download progress within a state or a declared transition. -/
def requireReportTransition : Except Failure Unit :=
  if payload.state = deployment.state then do
    refuseIf (payload.state ≠ .downloading) 409 "Stale report" "Repeated state report differs from the recorded milestone"
      "firmware_report_stale"
    refuseIf (payload.progress < deployment.progress ∨ payload.bytesReceived < deployment.bytesReceived) 409 "Stale report"
      "Download progress cannot move backwards" "firmware_report_stale"
  else
    refuseIf (payload.state ∉ deploymentTransitions deployment.state) 409 "Invalid firmware transition"
      ("Deployment cannot move from " ++ deployment.state.name ++ " to " ++ payload.state.name) "firmware_transition_invalid"

/-- What a milestone writes besides the state. -/
def milestoneRecorded (moved : FirmwareDeployment) : FirmwareDeployment :=
  let recorded := { moved with
    progress := max moved.progress payload.progress
    bytesReceived := max moved.bytesReceived payload.bytesReceived
    lastReportAt := some now
    lastReportPayload := .report payload
    lastBootId := some payload.bootId }
  match payload.state with
  | .downloadStarted => { recorded with downloadedAt := some now }
  | .partitionWritten => { recorded with installedAt := some now }
  | .validated =>
      { recorded with
        validatedAt := some now
        validatedVersion := some payload.currentFirmwareVersion
        validatedBuildHash := some payload.currentBuildHash
        stabilizationStartedAt := some now }
  | .failed =>
      { recorded with
        failureCode := payload.failureCode
        failureSummary := payload.failureSummary
        failureReason := payload.failureSummary }
  | .rollbackDetected | .rolledBack =>
      { recorded with
        rollbackAt := some now
        rollbackVersion := some payload.currentFirmwareVersion
        rollbackBuildHash := some payload.currentBuildHash
        failureCode := orElseBlank payload.failureCode recorded.failureCode
        failureSummary := orElseBlank payload.failureSummary recorded.failureSummary }
  | _ => recorded

def recordMilestone : Except Failure FirmwareDeployment := do
  requireReportTransition deployment payload
  let moved ←
    if payload.state = deployment.state then .ok { deployment with revision := deployment.revision + 1 }
    else transitionFirmwareDeployment deployment payload.state now .declared
  refuseIf (payload.state = .validated ∧
      (payload.currentFirmwareVersion ≠ release.version ∨ some payload.currentBuildHash ≠ release.buildHash)) 409
    "Validation mismatch" "Validated firmware identity does not match the release" "firmware_report_mismatch"
  .ok (milestoneRecorded payload now moved)

/-- `report_deployment`, for a deployment of the sensor that sent the report. -/
def reportMilestone : Except Failure FirmwareDeployment := do
  requireReportMatches deployment release payload
  -- Once a target heartbeat owns the verification, reports of earlier boots are stale.
  refuseIf (StaleBootReport deployment payload) 409 "Stale boot report"
    "Report boot identity was superseded by a newer authenticated target boot" "firmware_report_stale"
  refuseIf (OutdatedFailureReport deployment payload) 409 "Stale firmware evidence"
    "Failure report was superseded by newer authenticated target-heartbeat evidence" "firmware_report_stale"
  if deployment.lastReportPayload = .report payload then .ok deployment
  else do
    refuseIf (OutdatedReport deployment payload) 409 "Stale firmware evidence"
      "Report evidence sequence is older than the accepted deployment evidence" "firmware_report_stale"
    if IsSupersededTargetReport deployment release payload then .ok deployment
    else recordMilestone deployment release payload now

end Reports

/-! ## Overdue attempts -/

structure ReconciliationDecision where
  state : DeploymentState
  outcome : state ∈ [.failed, .rolledBack]
  code : String
  summary : String
  reason : String
  deriving DecidableEq, Repr

def failedDecision (code summary reason : String) : ReconciliationDecision :=
  { state := .failed, outcome := by decide, code := code, summary := summary, reason := reason }

section Overdue
variable (settings : FirmwareSettings) (deployment : FirmwareDeployment) (now : Int)

/-- `_last_activity` -/
def lastActivity : Int :=
  if deployment.state ∈ [.manifestAuthenticated, .waitingForSchedule, .downloadStarted, .downloading, .binaryVerified] then
    deployment.lastReportAt.getD deployment.stateChangedAt
  else deployment.stateChangedAt

def ageSeconds : Int := max 0 ((now - lastActivity deployment) / 1000000)

/-- A deployment that waits is failed when it expires, or after the legacy period if it has no expiry. -/
def classifyWaiting (code expired expiredReason legacy legacyReason : String) : Option ReconciliationDecision :=
  match deployment.expiresAt with
  | some expires => if expires ≤ now then some (failedDecision code expired expiredReason) else none
  | none =>
      if settings.legacyEvidenceTimeoutSeconds ≤ ageSeconds deployment now then some (failedDecision code legacy legacyReason)
      else none

def classifySilent (limit : Int) (code summary reason : String) : Option ReconciliationDecision :=
  if limit ≤ ageSeconds deployment now then some (failedDecision code summary reason) else none

def classifyRollback : Option ReconciliationDecision :=
  if deployment.rollbackVersion.any (· ≠ "") ∨ deployment.rollbackBuildHash.any (· ≠ "") then
    some { state := .rolledBack
           outcome := by decide
           code := "ota_rollback_detected"
           summary := "The sensor returned to its previous firmware after the target image was observed."
           reason := "authenticated_rollback_identity" }
  else
    classifySilent deployment now settings.sensorReturnTimeoutSeconds "ota_rollback_detected"
      "Rollback was reported, but the sensor did not provide enough identity evidence to confirm the recovered image."
      "rollback_identity_incomplete"

def classifyByState : Option ReconciliationDecision :=
  match deployment.state with
  | .rollbackDetected => classifyRollback settings deployment now
  | .waitingCanary =>
      classifyWaiting settings deployment now "ota_deployment_expired"
        "The rollout expired before this sensor was promoted from the canary queue." "canary_wait_expired"
        "This legacy canary deployment has no retained expiry and did not advance within the conservative reconciliation window."
        "legacy_canary_missing_expiry"
  | .scheduled =>
      classifyWaiting settings deployment now "ota_manifest_expired"
        "The authenticated firmware offer expired before the sensor requested it." "manifest_not_requested"
        "This legacy scheduled deployment has no retained manifest expiry and did not advance within the conservative reconciliation window."
        "legacy_manifest_missing_expiry"
  | .offered =>
      classifySilent deployment now settings.sensorReturnTimeoutSeconds "ota_sensor_did_not_return"
        "The sensor requested the update but did not return an authenticated installation report." "offer_not_acknowledged"
  | .waitingForSchedule =>
      -- The maintenance window has not opened; this is no download activity.
      classifyWaiting settings deployment now "ota_manifest_expired"
        "The authenticated firmware offer expired before the configured sensor update window opened."
        "update_window_not_reached_before_expiry"
        "This legacy scheduled update has no retained manifest expiry and did not reach its update window within the conservative reconciliation window."
        "legacy_update_window_missing_expiry"
  | .manifestAuthenticated | .downloadStarted | .downloading | .binaryVerified =>
      classifySilent deployment now settings.downloadStaleSeconds "ota_update_timed_out"
        "The sensor stopped reporting during the authenticated download workflow; the previous firmware remains authoritative until Retry is requested."
        "authenticated_report_timeout"
  | .partitionWritten | .rebooting =>
      classifySilent deployment now settings.sensorReturnTimeoutSeconds "ota_sensor_did_not_return"
        "The image was written, but the sensor did not return with authenticated boot evidence within the recovery window."
        "post_write_sensor_absent"
  | .postBootValidation | .validated | .awaitingHeartbeat =>
      classifySilent deployment now settings.postBootTimeoutSeconds "ota_post_boot_timeout"
        "The target image did not complete server-side health stabilization within the allowed window."
        "post_boot_validation_timeout"
  | .completed | .failed | .cancelled | .rolledBack => none

/-- `classify_stale_firmware_deployment` -/
def classifyStaleFirmwareDeployment : Option ReconciliationDecision :=
  if deployment.state ∈ terminalDeploymentStates then none
  else if (¬ deployment.sourceVersion.any (· ≠ "") ∨ ¬ deployment.sourceBuildHash.any (· ≠ "")) ∧
      settings.legacyEvidenceTimeoutSeconds ≤ ageSeconds deployment now then
    some (failedDecision "ota_legacy_evidence_incomplete"
      "This legacy deployment has insufficient retained identity evidence to prove a safe outcome. Retry creates a new, fully evidenced attempt."
      "missing_source_identity")
  else classifyByState settings deployment now

/-- What `reconcile_stale_firmware_deployments` does with one row of its batch. -/
def reconcileStale : Except Failure FirmwareDeployment :=
  match classifyStaleFirmwareDeployment settings deployment now with
  | none => .ok deployment
  | some decision => do
      let terminal ← transitionFirmwareDeployment deployment decision.state now .evidenceReconciliation
      .ok { terminal with
        failureCode := some decision.code
        failureSummary := some decision.summary
        failureReason := some decision.summary
        interruptionEvidence := { reason := some decision.reason }
        rollbackAt := if decision.state = .rolledBack then terminal.rollbackAt <|> some now else terminal.rollbackAt }

end Overdue
end PowerMonitor.Firmware
