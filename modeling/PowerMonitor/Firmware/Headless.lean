import PowerMonitor.Firmware.Heartbeats

/-! Post-boot verification of the headless agent, by command results and heartbeats of its own protocol. -/

set_option autoImplicit false
namespace PowerMonitor.Firmware
open Library Access

structure AgentHeartbeat where
  deviceId : String
  bootId : String
  firmwareVersion : String
  buildHash : String
  otaState : Option String := none
  deriving DecidableEq, Repr

section Results
variable (deployment : FirmwareDeployment) (now : Int)

/-- The milestones of a headless update in their order. -/
def orderedStates : List DeploymentState :=
  [.scheduled, .offered, .manifestAuthenticated, .downloadStarted, .downloading, .binaryVerified, .partitionWritten, .rebooting,
   .postBootValidation, .validated]

/-- `_advance_headless_deployment`: every milestone up to the target is passed. -/
def advanceHeadlessDeployment (target : DeploymentState) : Except Failure FirmwareDeployment :=
  if deployment.state = target then .ok deployment
  else if target = .failed then transitionFirmwareDeployment deployment .failed now .declared
  else if deployment.state ∉ orderedStates ∨ target ∉ orderedStates then .ok deployment
  else
    ((orderedStates.take (orderedStates.idxOf target + 1)).drop (orderedStates.idxOf deployment.state + 1)).foldlM
      (fun row state => transitionFirmwareDeployment row state now .declared) deployment

/-- The milestone that a result reports. -/
def headlessTarget (result : OtaResult) (commandFailed : Bool) : Option DeploymentState :=
  if commandFailed then some .failed
  else
    match result.stage with
    | some "accepted" => some .offered
    | some "downloading" => some .downloading
    | some "rebooting" => some .rebooting
    | some "validated" => some .validated
    | some "failed" => some .failed
    | _ => none

/-- What a result writes besides the state. -/
def headlessRecorded (result : OtaResult) (moved : FirmwareDeployment) : Option DeploymentState → FirmwareDeployment
  | some .downloading =>
      { moved with downloadedAt := if result.bytesReceived.getD 0 = result.imageSize.getD 0 then some now else none }
  | some .rebooting => { moved with installedAt := some now }
  | some .validated =>
      { moved with
        validatedAt := some now
        validatedVersion := result.targetVersion
        validatedBuildHash := result.targetBuildHash }
  | some .failed =>
      { moved with
        failureCode := some "ota_agent_failed"
        failureSummary := some "The headless agent reported an OTA failure." }
  | _ => moved

/-- `_record_headless_ota_result`, for the deployment that the result names. -/
def recordHeadlessOtaResult (deviceId : String) (result : OtaResult) (commandFailed : Bool) :
    Except Failure FirmwareDeployment := do
  refuseIf (deployment.deviceId ≠ deviceId ∨ result.releaseId ≠ some deployment.releaseId) 409 "OTA result conflict"
    "The OTA result does not match its assigned deployment" "ota_result_conflict"
  refuseIf (result.imageSize.getD 0 = 0 ∨ result.imageSize.getD 0 < result.bytesReceived.getD 0 ∨
      100 < result.progress.getD 0) 422 "OTA result invalid" "The agent reported invalid OTA progress" "ota_result_invalid"
  -- A terminal deployment is immutable; the command result is accepted all the same.
  if deployment.state ∈ terminalDeploymentStates then .ok deployment
  else do
    let reported := { deployment with
      bytesReceived := max deployment.bytesReceived (result.bytesReceived.getD 0)
      progress := max deployment.progress (result.progress.getD 0)
      lastReportAt := some now
      lastReportPayload := .result result }
    match headlessTarget result commandFailed with
    | none => .ok reported
    | some target => do
        let moved ← advanceHeadlessDeployment reported now target
        .ok (headlessRecorded now result moved (some target))

end Results

/-- The agent runs the image of the release. -/
def AgentTargetIdentity (release : FirmwareRelease) (payload : AgentHeartbeat) : Prop :=
  payload.firmwareVersion = release.version ∧ some payload.buildHash = release.buildHash

instance (release : FirmwareRelease) (payload : AgentHeartbeat) : Decidable (AgentTargetIdentity release payload) :=
  inferInstanceAs (Decidable (_ ∧ _))

/-- `_record_headless_ota_heartbeat`, for the deployment that is validated or awaits heartbeats. -/
def recordHeadlessOtaHeartbeat (settings : FirmwareSettings) (deployment : FirmwareDeployment) (release : FirmwareRelease)
    (payload : AgentHeartbeat) (criticalAlert : Bool) (now : Int) : Except Failure FirmwareDeployment :=
  if AgentTargetIdentity release payload then do
    let awaiting ← startAwaiting deployment now
    completeFirmwareIfStable settings
      { awaiting with
        lastBootId := some payload.bootId
        verificationHeartbeats := awaiting.verificationHeartbeats + 1 } criticalAlert now
  else .ok deployment

end PowerMonitor.Firmware
