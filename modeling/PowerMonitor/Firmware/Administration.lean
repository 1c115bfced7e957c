import PowerMonitor.Firmware.Reports
import Mathlib.Data.List.MinMax
import Mathlib.Data.List.Sort

/-! Creation, cancellation, retry and promotion of deployments, and the manifest that offers one to its sensor.

A rollout over several sensors is one group. Its first member is scheduled, the others wait in the canary queue and are promoted
one after the other.
-/

set_option autoImplicit false
namespace PowerMonitor.Firmware
open Library Access

/-- A sensor as an administrative request finds it: whether it can be a target, whether the principal may see it, what
`release_compatibility` and `compare_semver` say of it and the release, and the image it runs. -/
structure DeviceView where
  available : Bool := true
  siteAllowed : Bool := true
  blockingReasons : List String := []
  versionOrder : Option Int := none
  agent : Bool := false
  firmwareVersion : Option String := none
  firmwareBuildHash : Option String := none
  latestBootId : Option String := none
  deriving DecidableEq, Repr

/-- What an administrative request finds besides the table of deployments. -/
structure Surroundings where
  userId : String := ""
  mayDeploy : Bool := true
  reauthenticated : Bool := true
  device : String → Option DeviceView
  resettingDevices : List String := []
  criticalAlert : String → Bool := fun _ => false

structure FirmwareDeploymentCreate where
  firmwareReleaseId : String
  deviceIds : List String
  distinct : deviceIds.Nodup
  scheduledAt : Int
  expiresAt : Option Int := none
  allowDowngrade : Bool := false
  idempotencyKey : Option String := none
  deriving DecidableEq, Repr

section Requests
variable (releases : String → Option FirmwareRelease) (settings : FirmwareSettings) (deployments : Deployments)
  (around : Surroundings) (now : Int)

/-- `_operator` for `firmware.deploy` -/
def requireDeployPermission : Except Failure Unit :=
  refuseIf (around.mayDeploy = false) 403 "Permission denied" "Firmware permission is required" "forbidden"

def ensureDeviceResetMutationsAllowed (deviceIds : List String) : Except Failure Unit := do
  refuseIf (∃ id ∈ deviceIds, around.device id = none) 404 "Sensor not found" "One or more sensors do not exist" "device_missing"
  refuseIf (∃ id ∈ deviceIds, id ∈ around.resettingDevices) 409 "Sensor reset in progress"
    "Configuration, credential, storage, and OTA changes are locked until the sensor reset checkpoint finishes"
    "data_reset_device_mutation_blocked"

def siteAllowed (device : DeviceView) : Except Failure Unit :=
  refuseIf (device.siteAllowed = false) 403 "Permission denied" "Sensor is outside your assigned sites" "forbidden"

def loadDeployment (deploymentId : Nat) : Except Failure FirmwareDeployment :=
  required (deployments.table.get? deploymentId) 404 "Deployment not found" "Deployment does not exist" "firmware_missing"

/-- The sensor of a deployment, in a site of the principal. -/
def loadDevice (deployment : FirmwareDeployment) : Except Failure DeviceView := do
  let device ← required (around.device deployment.deviceId) 404 "Sensor not found" "Sensor does not exist" "device_missing"
  siteAllowed device
  .ok device

def loadRelease (releaseId : String) : Except Failure FirmwareRelease :=
  required (releases releaseId) 404 "Release not found" "Firmware release does not exist" "firmware_missing"

/-- `_queue_headless_ota_command`, as far as it can fail. -/
def queueHeadlessOtaCommand (release : FirmwareRelease) (device : DeviceView) : Except Failure Unit :=
  refuseIf (device.agent = true ∧ release.buildHash = none) 503 "Firmware unavailable"
    "The headless release is missing its verified build identity" "firmware_integrity_failure"

/-! ## Creation -/

/-- The rows of an earlier request with the same key, in their order. -/
def priorDeployments (key : String) : List FirmwareDeployment :=
  (deployments.table.rows.filter fun row => row.idempotencyKey = some key).insertionSort fun first second =>
    first.rolloutOrder < second.rolloutOrder ∨ first.rolloutOrder = second.rolloutOrder ∧ first.id ≤ second.id

/-- The earlier rows are those of the same complete rollout. -/
def SameRollout (payload : FirmwareDeploymentCreate) (priors : List FirmwareDeployment) : Prop :=
  priors.map FirmwareDeployment.deviceId = payload.deviceIds ∧
    ∀ prior ∈ priors, prior.releaseId = payload.firmwareReleaseId ∧ prior.allowDowngrade = payload.allowDowngrade ∧
      prior.scheduledAt = payload.scheduledAt ∧ (∀ expires ∈ payload.expiresAt, prior.expiresAt = some expires) ∧
      (1 < payload.deviceIds.length → prior.rolloutGroupId ≠ none) ∧
      ∀ other ∈ priors, other.rolloutGroupId = prior.rolloutGroupId

instance (payload : FirmwareDeploymentCreate) (priors : List FirmwareDeployment) : Decidable (SameRollout payload priors) :=
  inferInstanceAs (Decidable (_ ∧ ∀ prior ∈ priors, _))

/-- The rows of an earlier request that this one repeats, and the group of its own rows. -/
def findRollout (payload : FirmwareDeploymentCreate) : Except Failure (List FirmwareDeployment × Option Nat) :=
  let group := if 1 < payload.deviceIds.length then some deployments.freshGroup else none
  match payload.idempotencyKey with
  | none => .ok ([], group)
  | some key =>
      match priorDeployments deployments key with
      | [] => .ok ([], group)
      | prior :: rest => do
          refuseIf (¬ SameRollout payload (prior :: rest)) 409 "Idempotency conflict"
            "Idempotency key belongs to a different complete firmware rollout" "idempotency_conflict"
          .ok (prior :: rest, prior.rolloutGroupId)

def newDeployment (payload : FirmwareDeploymentCreate) (device : DeviceView) (group : Option Nat) (order : Nat)
    (deviceId : String) : FirmwareDeployment :=
  { id := 0
    releaseId := payload.firmwareReleaseId
    deviceId := deviceId
    state := if order = 0 then .scheduled else .waitingCanary
    idempotencyKey := payload.idempotencyKey
    rolloutGroupId := group
    rolloutOrder := order
    scheduledAt := payload.scheduledAt
    expiresAt := payload.expiresAt <|> some (max payload.scheduledAt now + seconds settings.manifestTtlSeconds)
    allowDowngrade := payload.allowDowngrade
    sourceVersion := device.firmwareVersion
    sourceBuildHash := device.firmwareBuildHash
    sourceBootId := device.latestBootId
    stateChangedAt := now
    createdBy := around.userId
    createdAt := now }

/-- The sensor can take the release. -/
def requireTarget (payload : FirmwareDeploymentCreate) (device : DeviceView) (deviceId : String) : Except Failure Unit := do
  refuseIf (device.blockingReasons ≠ []) 422 "Incompatible target" ("Sensor " ++ deviceId ++ " is not ready")
    (if "bootstrap_required" ∈ device.blockingReasons then "firmware_bootstrap_required" else "firmware_incompatible")
  refuseIf (device.versionOrder = some 0) 409 "Already current" ("Sensor " ++ deviceId ++ " already runs the firmware")
    "firmware_already_current"
  refuseIf ((∃ order ∈ device.versionOrder, order < 0) ∧ payload.allowDowngrade = false) 409 "Downgrade blocked"
    "Older firmware requires explicit downgrade confirmation" "firmware_downgrade_blocked"

/-- The active deployment of the sensor, if any. -/
def activeOf (deviceId : String) : Option FirmwareDeployment :=
  deployments.table.rows.find? fun row => row.deviceId = deviceId ∧ row.Active

/-- The turn of one sensor in `create_deployments`. -/
def createFor (payload : FirmwareDeploymentCreate) (release : FirmwareRelease) (priors : List FirmwareDeployment)
    (group : Option Nat) (deployments : Deployments) (target : String × Nat) : Except Failure Deployments := do
  let device ← required ((around.device target.1).filter DeviceView.available) 422 "Invalid target"
    ("Sensor " ++ target.1 ++ " is unavailable") "device_missing"
  siteAllowed device
  if target.1 ∈ priors.map FirmwareDeployment.deviceId then .ok deployments
  else do
    requireTarget payload device target.1
    match activeOf deployments target.1 with
    | some active => do
        refuseIf (¬ (active.releaseId = payload.firmwareReleaseId ∧ payload.deviceIds.length = 1)) 409
          "Firmware deployment active"
          ("Sensor " ++ target.1 ++ " already has an active firmware deployment; a multi-sensor rollout must be created as one atomic group")
          "firmware_deployment_active"
        .ok deployments
    | none => do
        let created ← deployments.add (newDeployment settings around now payload device group target.2 target.1)
        onlyIf (target.2 = 0) (queueHeadlessOtaCommand release device)
        .ok created

def createDeployments (payload : FirmwareDeploymentCreate) : Except Failure Deployments := do
  requireDeployPermission around
  let release ← required ((releases payload.firmwareReleaseId).filter fun release => release.verificationStatus = "verified")
    404 "Release not found" "Verified firmware release does not exist" "firmware_missing"
  refuseIf (release.trustMode ≠ "existing_device_hmac") 422 "Unsupported firmware trust"
    "Only device-authenticated HMAC releases can be deployed by this workflow" "firmware_trust"
  onlyIf (payload.allowDowngrade = true) (refuseIf (around.reauthenticated = false) 428 "Reauthentication required"
    "Confirm your current password or MFA code before this protected change" "reauthentication_required")
  let rollout ← findRollout deployments payload
  ensureDeviceResetMutationsAllowed around payload.deviceIds
  payload.deviceIds.zipIdx.foldlM (createFor settings around now payload release rollout.1 rollout.2) deployments

/-! ## Cancellation and retry -/

def cancelDeployment (deploymentId : Nat) : Except Failure Deployments := do
  requireDeployPermission around
  let deployment ← loadDeployment deployments deploymentId
  let _ ← loadDevice around deployment
  if deployment.state ∈ terminalDeploymentStates then .ok deployments
  else do
    refuseIf (.cancelled ∉ deploymentTransitions deployment.state) 409 "Cancellation unsafe"
      "Deployment can no longer be safely cancelled" "firmware_transition_invalid"
    let cancelled ← transitionFirmwareDeployment deployment .cancelled now .declared
    deployments.save cancelled

/-- Another member of the rollout group is under way. -/
def SiblingOperational (deployment : FirmwareDeployment) : Prop :=
  ∃ group ∈ deployment.rolloutGroupId, ∃ other ∈ deployments.table.rows,
    other.rolloutGroupId = some group ∧ other.id ≠ deployment.id ∧ Operational other.state

instance (deployment : FirmwareDeployment) : Decidable (SiblingOperational deployments deployment) :=
  inferInstanceAs (Decidable (∃ group ∈ deployment.rolloutGroupId, ∃ other ∈ _, _))

/-- A new attempt starts without the evidence of the one before. -/
def freshAttempt (scheduled : FirmwareDeployment) (device : DeviceView) : FirmwareDeployment :=
  { scheduled with
    attempt := scheduled.attempt + 1
    progress := 0
    bytesReceived := 0
    scheduledAt := now
    expiresAt := some (now + seconds settings.manifestTtlSeconds)
    failureReason := none
    failureCode := none
    failureSummary := none
    lastReportAt := none
    lastReportPayload := .empty
    downloadedAt := none
    installedAt := none
    validatedAt := none
    validatedVersion := none
    validatedBuildHash := none
    rollbackAt := none
    rollbackVersion := none
    rollbackBuildHash := none
    verificationHeartbeats := 0
    stabilizationStartedAt := none
    readingConfirmedAt := none
    lastBootId := none
    interruptionEvidence := {}
    sourceVersion := device.firmwareVersion
    sourceBuildHash := device.firmwareBuildHash
    sourceBootId := device.latestBootId }

def retryDeployment (deploymentId : Nat) : Except Failure Deployments := do
  requireDeployPermission around
  let deployment ← loadDeployment deployments deploymentId
  let device ← loadDevice around deployment
  ensureDeviceResetMutationsAllowed around [deployment.deviceId]
  refuseIf (deployment.state ∉ [.failed, .cancelled, .rolledBack]) 409 "Retry unavailable"
    "Only a terminal unsuccessful deployment can be retried" "firmware_transition_invalid"
  refuseIf (deployments.Occupied deployment) 409 "Retry unavailable" "Another firmware deployment is active for this sensor"
    "firmware_deployment_active"
  refuseIf (SiblingOperational deployments deployment) 409 "Retry unavailable"
    "Another sensor in this rollout is already active" "firmware_rollout_busy"
  let scheduled ← transitionFirmwareDeployment deployment .scheduled now .retry
  let release ← loadRelease releases deployment.releaseId
  queueHeadlessOtaCommand release device
  deployments.save (freshAttempt settings now scheduled device)

/-! ## Promotion -/

/-- What a promotion asks of the completed canary. -/
def CanaryVerified (canary : FirmwareDeployment) : Prop :=
  canary.state = .completed ∧ settings.verificationHeartbeatCount ≤ canary.verificationHeartbeats ∧
    canary.readingConfirmedAt.isSome ∧ canary.rollbackAt = none ∧ around.criticalAlert canary.deviceId = false

instance (canary : FirmwareDeployment) : Decidable (CanaryVerified settings around canary) :=
  inferInstanceAs (Decidable (_ ∧ _ ∧ _ ∧ _ ∧ _))

/-- The next member of the group in the queue. -/
def nextWaiting (group : Nat) : Option FirmwareDeployment :=
  List.argmin FirmwareDeployment.rolloutOrder
    (deployments.table.rows.filter fun row => row.rolloutGroupId = some group ∧ row.state = .waitingCanary)

def promoteCanary (deploymentId : Nat) : Except Failure Deployments := do
  requireDeployPermission around
  let canary ← loadDeployment deployments deploymentId
  let _ ← loadDevice around canary
  let group ← required canary.rolloutGroupId 409 "Canary unavailable" "Deployment is not part of a multi-sensor rollout"
    "firmware_canary_unavailable"
  refuseIf (¬ CanaryVerified settings around canary) 409 "Canary not verified"
    "Canary promotion requires completed stabilization, readings, and no rollback or alert" "firmware_canary_not_verified"
  refuseIf (∃ other ∈ deployments.table.rows, other.rolloutGroupId = some group ∧ Operational other.state) 409 "Rollout busy"
    "Another sensor in this rollout is already active" "firmware_rollout_busy"
  match nextWaiting deployments group with
  | none => .ok deployments
  | some next => do
      let device ← required ((around.device next.deviceId).filter DeviceView.siteAllowed) 403 "Permission denied"
        "Next rollout sensor is outside your assigned sites" "forbidden"
      ensureDeviceResetMutationsAllowed around [next.deviceId]
      let scheduled ← transitionFirmwareDeployment next .scheduled now .declared
      let release ← loadRelease releases next.releaseId
      queueHeadlessOtaCommand release device
      deployments.save { scheduled with
        scheduledAt := now
        expiresAt := some (now + seconds settings.manifestTtlSeconds)
        promotedAt := some now }

/-! ## The manifest -/

/-- The deployment that is offered to the sensor: of those that are due and not expired, the one scheduled first. -/
def offeredDeployment (deviceId : String) : Option FirmwareDeployment :=
  @List.argmin _ Int Int.instLinearOrder.toPreorder _ FirmwareDeployment.scheduledAt (deployments.table.rows.filter fun row =>
    row.deviceId = deviceId ∧ row.state ∈ [.scheduled, .offered] ∧ row.scheduledAt ≤ now ∧
      ∀ expires ∈ row.expiresAt, now < expires)

/-- `firmware_manifest`. `compatible` says that the artifact is there and that the sensor can still take the release. -/
def firmwareManifest (deviceId : String) (artifactAvailable compatible : Bool) : Except Failure Deployments := do
  refuseIf (deviceId ∈ around.resettingDevices) 409 "Sensor reset in progress"
    "Configuration, credential, storage, and OTA changes are locked until the sensor reset checkpoint finishes"
    "data_reset_device_mutation_blocked"
  match offeredDeployment deployments now deviceId with
  | none => .ok deployments
  | some deployment => do
      let release ← required (releases deployment.releaseId) 503 "Firmware unavailable"
        "Verified firmware metadata or artifact is unavailable" "firmware_integrity_failure"
      refuseIf (release.trustMode ≠ "existing_device_hmac" ∨ release.verificationStatus ≠ "verified" ∨
          release.projectName = none ∨ release.buildHash = none ∨ deployment.expiresAt = none ∨ artifactAvailable = false) 503
        "Firmware unavailable" "Verified firmware metadata or artifact is unavailable" "firmware_integrity_failure"
      refuseIf (compatible = false) 409 "Firmware incompatible"
        "Sensor capability no longer matches the scheduled firmware" "firmware_incompatible"
      let offered ←
        if deployment.state = .scheduled then transitionFirmwareDeployment deployment .offered now .declared
        else .ok deployment
      deployments.save offered

end Requests
end PowerMonitor.Firmware
