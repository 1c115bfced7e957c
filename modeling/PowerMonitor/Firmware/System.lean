import PowerMonitor.Firmware.Administration
import PowerMonitor.Firmware.Headless
import PowerMonitor.Library.Runs

/-! The system of all firmware operations, each of them atomic.

An operation that fails leaves the table as it was. What an operation finds besides the table is part of its event.
-/

set_option autoImplicit false
namespace PowerMonitor.Firmware
open Library Access

inductive Action where
  | create (payload : FirmwareDeploymentCreate) (around : Surroundings)
  | cancel (deploymentId : Nat) (around : Surroundings)
  | retry (deploymentId : Nat) (around : Surroundings)
  | promote (deploymentId : Nat) (around : Surroundings)
  | manifest (deviceId : String) (around : Surroundings) (artifactAvailable compatible : Bool)
  | report (deviceId : String) (payload : FirmwareDeploymentReport) (resetting : Bool)
  /-- `matched` is the row that the database returns for the heartbeat, one of those that were scheduled last. -/
  | heartbeat (payload : Heartbeat) (matched : Nat) (criticalAlert : Bool)
  | readings (deviceId : String) (readings : List Reading) (durable : List Nat) (criticalAlert : Bool)
  /-- `batch` are the rows that one pass of the reconciler locks. -/
  | stale (batch : List Nat)
  | headlessResult (deviceId : String) (result : OtaResult) (commandFailed : Bool)
  | headlessHeartbeat (payload : AgentHeartbeat) (criticalAlert : Bool)

structure Event where
  now : Int
  action : Action

/-- The releases, which never change their image, and the settings. -/
structure Catalog where
  releases : String → Option FirmwareRelease
  settings : FirmwareSettings := {}

section Events
variable (catalog : Catalog) (deployments : Deployments) (now : Int)

/-- The row of the sensor in one of the states. -/
def rowIn (deviceId : String) (states : List DeploymentState) : Option FirmwareDeployment :=
  deployments.table.rows.find? fun row => row.deviceId = deviceId ∧ row.state ∈ states

/-- A change of one row is written back. -/
def update (found : Option FirmwareDeployment) (change : FirmwareDeployment → Except Failure FirmwareDeployment) :
    Except Failure Deployments :=
  match found with
  | none => .ok deployments
  | some row => change row >>= deployments.save

def reportDeployment (deviceId : String) (payload : FirmwareDeploymentReport) (resetting : Bool) : Except Failure Deployments := do
  refuseIf (payload.deviceId ≠ deviceId) 403 "Device identity mismatch" "Signed header and report device IDs differ"
    "device_id_mismatch"
  refuseIf (resetting = true) 409 "Sensor reset in progress"
    "Configuration, credential, storage, and OTA changes are locked until the sensor reset checkpoint finishes"
    "data_reset_device_mutation_blocked"
  let deployment ← required ((deployments.table.get? payload.deploymentId).filter fun row => row.deviceId = deviceId) 404
    "Deployment unavailable" "Deployment does not belong to this sensor" "firmware_unavailable"
  let release ← required (catalog.releases deployment.releaseId) 409 "Release mismatch"
    "Report release does not match deployment" "firmware_report_mismatch"
  update deployments (some deployment) fun row => reportMilestone row release payload now

/-- With the release of the row; without one nothing happens. -/
def withRelease (change : FirmwareDeployment → FirmwareRelease → Except Failure FirmwareDeployment) (row : FirmwareDeployment) :
    Except Failure FirmwareDeployment :=
  match catalog.releases row.releaseId with
  | none => .ok row
  | some release => change row release

/-- The query for critical alerts writes the row while it awaits heartbeats, before it is completed. -/
def flushed (row : FirmwareDeployment) : Except Failure FirmwareDeployment :=
  if row.state = .completed ∧ deployments.Occupied row then .error .integrity else .ok row

def receiveHeartbeat (payload : Heartbeat) (matched : Nat) (criticalAlert : Bool) : Except Failure Deployments :=
  update deployments ((deployments.table.get? matched).filter fun row => LatestForHeartbeat deployments payload.deviceId row)
    fun row => withRelease catalog (fun row release =>
      reconcileFirmwareHeartbeat row release payload now catalog.settings criticalAlert) row >>= flushed deployments

def receiveReadings (deviceId : String) (readings : List Reading) (durable : List Nat) (criticalAlert : Bool) :
    Except Failure Deployments :=
  update deployments (rowIn deployments deviceId [.awaitingHeartbeat]) fun row =>
    confirmFirmwareReading catalog.settings row readings durable criticalAlert now

/-- `reconcile_stale_firmware_deployments` -/
def reconcileStaleFirmwareDeployments (batch : List Nat) : Except Failure Deployments :=
  batch.foldlM (fun deployments id =>
    update deployments (deployments.table.get? id) fun row => reconcileStale catalog.settings row now) deployments

def receiveHeadlessResult (deviceId : String) (result : OtaResult) (commandFailed : Bool) : Except Failure Deployments := do
  refuseIf (result.deploymentId = none ∨ result.releaseId = none) 422 "OTA result invalid"
    "The agent omitted deployment identity" "ota_result_invalid"
  let deployment ← required (result.deploymentId.bind deployments.table.get?) 409 "OTA result conflict"
    "The OTA result does not match its assigned deployment" "ota_result_conflict"
  update deployments (some deployment) fun row => recordHeadlessOtaResult row now deviceId result commandFailed

def receiveHeadlessHeartbeat (payload : AgentHeartbeat) (criticalAlert : Bool) : Except Failure Deployments :=
  if payload.otaState = some "validated" then
    update deployments (rowIn deployments payload.deviceId [.validated, .awaitingHeartbeat])
      (withRelease catalog fun row release => recordHeadlessOtaHeartbeat catalog.settings row release payload criticalAlert now)
  else .ok deployments

def Event.apply (event : Event) : Except Failure Deployments :=
  match event.action with
  | .create payload around => createDeployments catalog.releases catalog.settings deployments around event.now payload
  | .cancel deploymentId around => cancelDeployment deployments around event.now deploymentId
  | .retry deploymentId around => retryDeployment catalog.releases catalog.settings deployments around event.now deploymentId
  | .promote deploymentId around => promoteCanary catalog.releases catalog.settings deployments around event.now deploymentId
  | .manifest deviceId around artifactAvailable compatible =>
      firmwareManifest catalog.releases deployments around event.now deviceId artifactAvailable compatible
  | .report deviceId payload resetting => reportDeployment catalog deployments event.now deviceId payload resetting
  | .heartbeat payload matched criticalAlert => receiveHeartbeat catalog deployments event.now payload matched criticalAlert
  | .readings deviceId readings durable criticalAlert =>
      receiveReadings catalog deployments event.now deviceId readings durable criticalAlert
  | .stale batch => reconcileStaleFirmwareDeployments catalog deployments event.now batch
  | .headlessResult deviceId result commandFailed =>
      receiveHeadlessResult deployments event.now deviceId result commandFailed
  | .headlessHeartbeat payload criticalAlert => receiveHeadlessHeartbeat catalog deployments event.now payload criticalAlert

/-- A failed operation is rolled back. -/
def step (event : Event) : Deployments :=
  match event.apply catalog deployments with
  | .ok after => after
  | .error _ => deployments

end Events

/-- The table after the events, from the empty one. -/
def reached (catalog : Catalog) (events : List Event) : Deployments := events.foldl (step catalog) .initial

/-! ## An update -/

def exampleRelease : FirmwareRelease :=
  { version := "2.0.0", buildHash := some "target-build", sha256 := "aa", sizeBytes := 1, projectName := some "sensor" }

def exampleCatalog : Catalog := { releases := fun id => if id = "release" then some exampleRelease else none }

def exampleSurroundings : Surroundings :=
  { device := fun _ => some { firmwareVersion := some "1.0.0", firmwareBuildHash := some "source-build" } }

theorem failed_reportable : DeploymentState.failed ∈ deviceReportStates := by decide

def exampleReport (deviceId : String) (deploymentId : Nat) (state : DeploymentState) (reportable : state ∈ deviceReportStates)
    (bootId : String) (sequence : Nat) (failureCode : Option String) : FirmwareDeploymentReport :=
  { deviceId := deviceId, deploymentId := deploymentId, releaseId := "release", attempt := 1, state := state
    reportable := reportable, currentFirmwareVersion := "1.0.0", currentBuildHash := "source-build", targetVersion := "2.0.0"
    targetSha256 := "aa", bytesReceived := 0, imageSize := 1, progress := 0, bootId := bootId
    evidenceSequence := some sequence, failureCode := failureCode }

def targetHeartbeat (deviceId bootId : String) (deploymentId : Nat) (sequence : Int) : Heartbeat :=
  { deviceId := deviceId, bootId := bootId, firmwareVersion := "2.0.0", firmwareBuildHash := "target-build"
    otaRecovery := { deploymentId := some deploymentId, attempt := some 1, evidenceSequence := some sequence } }

/-- The manifest is fetched and acknowledged. -/
def offerTo (deviceId : String) (deploymentId : Nat) (now : Int) : List Event :=
  [⟨seconds now, .manifest deviceId exampleSurroundings true true⟩,
   ⟨seconds (now + 1), .report deviceId
      (exampleReport deviceId deploymentId .manifestAuthenticated (by decide) "source-boot" 1 none) false⟩]

def heartbeatsFrom (deviceId bootId : String) (deploymentId count : Nat) : List Event :=
  (List.range count).map fun turn =>
    ⟨seconds (10 + 15 * turn), .heartbeat (targetHeartbeat deviceId bootId deploymentId (2 + turn)) deploymentId false⟩

end PowerMonitor.Firmware
