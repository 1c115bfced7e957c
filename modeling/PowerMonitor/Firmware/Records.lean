import PowerMonitor.Access.Effects
import PowerMonitor.Library.Table

/-! Firmware deployments: the graph of their states, the rows and the table with its index of active deployments.

Every operation moves a deployment through `transitionFirmwareDeployment`. The table holds at most one active deployment of
each sensor; a write that would add a second one is refused by the database.
-/

set_option autoImplicit false
namespace PowerMonitor.Firmware
open Library Access

/-! ## States -/

inductive DeploymentState where
  | waitingCanary | scheduled | offered | manifestAuthenticated | waitingForSchedule | downloadStarted | downloading
  | binaryVerified | partitionWritten | rebooting | postBootValidation | validated | awaitingHeartbeat | rollbackDetected
  | completed | failed | cancelled | rolledBack
  deriving DecidableEq, Repr

def DeploymentState.name : DeploymentState → String
  | .waitingCanary => "waiting_canary"
  | .scheduled => "scheduled"
  | .offered => "offered"
  | .manifestAuthenticated => "manifest_authenticated"
  | .waitingForSchedule => "waiting_for_schedule"
  | .downloadStarted => "download_started"
  | .downloading => "downloading"
  | .binaryVerified => "binary_verified"
  | .partitionWritten => "partition_written"
  | .rebooting => "rebooting"
  | .postBootValidation => "post_boot_validation"
  | .validated => "validated"
  | .awaitingHeartbeat => "awaiting_heartbeat"
  | .rollbackDetected => "rollback_detected"
  | .completed => "completed"
  | .failed => "failed"
  | .cancelled => "cancelled"
  | .rolledBack => "rolled_back"

def terminalDeploymentStates : List DeploymentState := [.completed, .failed, .cancelled, .rolledBack]

def activeDeploymentStates : List DeploymentState :=
  [.waitingCanary, .scheduled, .offered, .manifestAuthenticated, .waitingForSchedule, .downloadStarted, .downloading,
   .binaryVerified, .partitionWritten, .rebooting, .postBootValidation, .validated, .awaitingHeartbeat, .rollbackDetected]

def deviceReportStates : List DeploymentState :=
  [.manifestAuthenticated, .waitingForSchedule, .downloadStarted, .downloading, .binaryVerified, .partitionWritten, .rebooting,
   .postBootValidation, .validated, .failed, .rollbackDetected, .rolledBack]

def deploymentTransitions : DeploymentState → List DeploymentState
  | .waitingCanary => [.scheduled, .cancelled]
  | .scheduled => [.offered, .cancelled]
  | .offered => [.manifestAuthenticated, .failed, .cancelled]
  | .manifestAuthenticated => [.waitingForSchedule, .downloadStarted, .failed, .cancelled]
  | .waitingForSchedule => [.downloadStarted, .failed, .cancelled]
  | .downloadStarted => [.downloading, .failed, .cancelled]
  | .downloading => [.binaryVerified, .failed, .cancelled]
  | .binaryVerified => [.partitionWritten, .failed, .cancelled]
  | .partitionWritten => [.rebooting, .failed, .rollbackDetected]
  | .rebooting => [.postBootValidation, .failed, .rollbackDetected]
  | .postBootValidation => [.validated, .failed, .rollbackDetected]
  | .validated => [.awaitingHeartbeat, .failed, .rollbackDetected]
  | .awaitingHeartbeat => [.completed, .failed, .rollbackDetected]
  | .rollbackDetected => [.rolledBack]
  | .completed | .failed | .cancelled | .rolledBack => []

/-- A deployment that is under way: active, and no longer in the queue behind its canary. -/
def Operational (state : DeploymentState) : Prop := state ∈ activeDeploymentStates ∧ state ≠ .waitingCanary

instance (state : DeploymentState) : Decidable (Operational state) := inferInstanceAs (Decidable (_ ∧ _))

/-! ## Releases and reports -/

structure FirmwareRelease where
  version : String
  buildHash : Option String
  sha256 : String
  sizeBytes : Nat
  trustMode : String := "existing_device_hmac"
  verificationStatus : String := "verified"
  projectName : Option String := none
  deriving DecidableEq, Repr

structure FirmwareDeploymentReport where
  deviceId : String
  deploymentId : Nat
  releaseId : String
  attempt : Nat
  state : DeploymentState
  reportable : state ∈ deviceReportStates
  currentFirmwareVersion : String
  currentBuildHash : String
  targetVersion : String
  targetSha256 : String
  bytesReceived : Nat
  imageSize : Nat
  progress : Nat
  bootId : String
  evidenceSequence : Option Nat := none
  failureCode : Option String := none
  failureSummary : Option String := none
  deriving DecidableEq, Repr

/-- The result of an `ota_update` command of a headless agent, a field that is missing or of another type as none. -/
structure OtaResult where
  deploymentId : Option Nat := none
  releaseId : Option String := none
  bytesReceived : Option Nat := none
  imageSize : Option Nat := none
  progress : Option Nat := none
  stage : Option String := none
  targetVersion : Option String := none
  targetBuildHash : Option String := none
  evidenceSequence : Option Int := none
  bootId : Option String := none
  deriving DecidableEq, Repr

/-- `last_report_payload` -/
inductive ReportPayload where
  | empty
  | report (payload : FirmwareDeploymentReport)
  | result (outcome : OtaResult)
  deriving DecidableEq, Repr

def ReportPayload.evidenceSequence : ReportPayload → Option Int
  | .empty => none
  | .report payload => payload.evidenceSequence.map Int.ofNat
  | .result outcome => outcome.evidenceSequence

def ReportPayload.bootId : ReportPayload → Option String
  | .empty => none
  | .report payload => some payload.bootId
  | .result outcome => outcome.bootId

/-- `interruption_evidence`: why the attempt ended, and what is retained of its target heartbeats. -/
structure InterruptionEvidence where
  reason : Option String := none
  targetHeartbeatBootId : Option String := none
  targetHeartbeatHealthy : Option Bool := none
  targetHeartbeatDeploymentId : Option Nat := none
  targetHeartbeatAttempt : Option Nat := none
  targetHeartbeatEvidenceSequence : Option Int := none
  targetHealthyHeartbeatBootId : Option String := none
  targetHealthyHeartbeatEvidenceSequence : Option Int := none
  deriving DecidableEq, Repr

/-! ## Deployments -/

structure FirmwareDeployment where
  id : Nat
  releaseId : String
  deviceId : String
  state : DeploymentState
  idempotencyKey : Option String := none
  rolloutGroupId : Option Nat := none
  rolloutOrder : Nat := 0
  promotedAt : Option Int := none
  revision : Nat := 1
  attempt : Nat := 1
  progress : Nat := 0
  bytesReceived : Nat := 0
  scheduledAt : Int
  expiresAt : Option Int := none
  allowDowngrade : Bool := false
  downloadedAt : Option Int := none
  installedAt : Option Int := none
  validatedAt : Option Int := none
  failureReason : Option String := none
  failureCode : Option String := none
  failureSummary : Option String := none
  lastReportAt : Option Int := none
  lastReportPayload : ReportPayload := .empty
  validatedVersion : Option String := none
  validatedBuildHash : Option String := none
  rollbackVersion : Option String := none
  rollbackBuildHash : Option String := none
  lastBootId : Option String := none
  sourceVersion : Option String := none
  sourceBuildHash : Option String := none
  sourceBootId : Option String := none
  interruptionEvidence : InterruptionEvidence := {}
  verificationHeartbeats : Nat := 0
  stabilizationStartedAt : Option Int := none
  readingConfirmedAt : Option Int := none
  rollbackAt : Option Int := none
  stateChangedAt : Int
  terminalAt : Option Int := none
  createdBy : String
  createdAt : Int
  deriving DecidableEq, Repr

def FirmwareDeployment.Active (deployment : FirmwareDeployment) : Prop := deployment.state ∈ activeDeploymentStates

instance (deployment : FirmwareDeployment) : Decidable deployment.Active := inferInstanceAs (Decidable (_ ∈ _))

inductive TransitionMode where | declared | evidenceReconciliation | supersedeTerminalEvidence | retry
  deriving DecidableEq, Repr

def TransitionAllowed (mode : TransitionMode) (state target : DeploymentState) : Prop :=
  match mode with
  | .declared => target ∈ deploymentTransitions state
  | .evidenceReconciliation =>
      state ∈ activeDeploymentStates ∧ (target ∈ terminalDeploymentStates ∨ target = .awaitingHeartbeat)
  | .supersedeTerminalEvidence => state ∈ [.failed, .rolledBack] ∧ target = .awaitingHeartbeat
  | .retry => state ∈ [.failed, .cancelled, .rolledBack] ∧ target = .scheduled

instance (mode : TransitionMode) (state target : DeploymentState) : Decidable (TransitionAllowed mode state target) :=
  match mode with
  | .declared => inferInstanceAs (Decidable (_ ∈ _))
  | .evidenceReconciliation | .supersedeTerminalEvidence | .retry => inferInstanceAs (Decidable (_ ∧ _))

/-- The row after a transition to another state. -/
def FirmwareDeployment.moved (deployment : FirmwareDeployment) (target : DeploymentState) (now : Int) : FirmwareDeployment :=
  { deployment with
    state := target
    stateChangedAt := now
    terminalAt := if target ∈ terminalDeploymentStates then some now else none
    revision := deployment.revision + 1 }

/-- `transition_firmware_deployment`. An invalid transition raises, which ends the request as a refused write does. -/
def transitionFirmwareDeployment (deployment : FirmwareDeployment) (target : DeploymentState) (now : Int) (mode : TransitionMode) :
    Except Failure FirmwareDeployment :=
  if deployment.state = target then .ok deployment
  else if TransitionAllowed mode deployment.state target then .ok (deployment.moved target now)
  else .error .integrity

theorem transition_eq_ok {deployment after : FirmwareDeployment} {target : DeploymentState} {now : Int} {mode : TransitionMode} :
    transitionFirmwareDeployment deployment target now mode = .ok after ↔
      deployment.state = target ∧ after = deployment ∨
      deployment.state ≠ target ∧ TransitionAllowed mode deployment.state target ∧ after = deployment.moved target now := by
  unfold transitionFirmwareDeployment
  split
  · rename_i same
    simp [same, eq_comm]
  · rename_i different
    split
    · rename_i allowed
      simp [different, allowed, eq_comm]
    · rename_i refused
      simp [different, refused]

/-! ## The table -/

/-- `firmware_deployments` with the index `uq_firmware_deployment_active_device`. -/
structure Deployments where
  table : Table FirmwareDeployment.id
  oneActive : ∀ first ∈ table.rows, ∀ second ∈ table.rows,
    first.deviceId = second.deviceId → first.Active → second.Active → first = second

namespace Deployments

/-- No deployment was ever created. -/
def initial : Deployments where
  table := { rows := [], distinct := List.nodup_nil }
  oneActive := List.forall_mem_nil _

variable (deployments : Deployments)

/-- Another deployment of the sensor is active. -/
def Occupied (row : FirmwareDeployment) : Prop :=
  ∃ other ∈ deployments.table.rows, other.id ≠ row.id ∧ other.deviceId = row.deviceId ∧ other.Active

instance (row : FirmwareDeployment) : Decidable (deployments.Occupied row) := inferInstanceAs (Decidable (∃ other ∈ _, _))

/-- The table with `row` in the place of the row of the same id. -/
def replace (row : FirmwareDeployment) : Table FirmwareDeployment.id :=
  deployments.table.modify row.id (fun old => { row with id := old.id }) fun _ => rfl

variable {deployments}

theorem mem_replace {row other : FirmwareDeployment} : other ∈ (deployments.replace row).rows ↔
    (other ∈ deployments.table.rows ∧ other.id ≠ row.id) ∨ (∃ old, deployments.table.get? row.id = some old) ∧ other = row := by
  rw [replace, Table.mem_modify]
  refine or_congr_right ?_
  constructor
  · rintro ⟨old, found, rfl⟩
    rw [(Table.get?_eq_some.mp found).2]
    exact ⟨⟨old, found⟩, rfl⟩
  · rintro ⟨⟨old, found⟩, rfl⟩
    exact ⟨old, found, by rw [(Table.get?_eq_some.mp found).2]⟩

/-- A row that takes no second place of its sensor keeps the index. -/
theorem oneActive_replace {row : FirmwareDeployment} (free : row.Active → ¬ deployments.Occupied row) :
    ∀ first ∈ (deployments.replace row).rows, ∀ second ∈ (deployments.replace row).rows,
      first.deviceId = second.deviceId → first.Active → second.Active → first = second := by
  have alone : ∀ other ∈ deployments.table.rows, other.id ≠ row.id → other.deviceId = row.deviceId → row.Active → ¬ other.Active :=
    fun other listed different same active otherActive => free active ⟨other, listed, different, same, otherActive⟩
  intro first firstListed second secondListed same firstActive secondActive
  rcases mem_replace.mp firstListed with ⟨held, different⟩ | ⟨_, rfl⟩ <;>
    rcases mem_replace.mp secondListed with ⟨secondHeld, secondDifferent⟩ | ⟨_, rfl⟩
  · exact deployments.oneActive first held second secondHeld same firstActive secondActive
  · exact absurd firstActive (alone first held different same secondActive)
  · exact absurd secondActive (alone second secondHeld secondDifferent same.symm firstActive)
  · rfl

variable (deployments)

/-- Write a changed row. -/
def save (row : FirmwareDeployment) : Except Failure Deployments :=
  if free : row.Active → ¬ deployments.Occupied row then .ok ⟨deployments.replace row, oneActive_replace free⟩
  else .error .integrity

/-- Another row has the same idempotency key for the sensor: `uq_firmware_deployment_device_idempotency`. -/
def Repeated (row : FirmwareDeployment) : Prop :=
  ∃ other ∈ deployments.table.rows, other.deviceId = row.deviceId ∧ other.idempotencyKey = row.idempotencyKey ∧
    row.idempotencyKey ≠ none

instance (row : FirmwareDeployment) : Decidable (deployments.Repeated row) := inferInstanceAs (Decidable (∃ other ∈ _, _))

/-- The row as it is stored, under a new id. -/
def numbered (row : FirmwareDeployment) : FirmwareDeployment := { row with id := deployments.table.freshNumber }

/-- Write a new row. -/
def add (row : FirmwareDeployment) : Except Failure Deployments :=
  if free : ¬ deployments.Repeated row ∧ ((deployments.numbered row).Active → ¬ deployments.Occupied (deployments.numbered row)) then
    .ok {
      table := deployments.table.push (deployments.numbered row) deployments.table.freshNumber_not_mem
      oneActive := by
        have alone : ∀ other ∈ deployments.table.rows, other.deviceId = row.deviceId → (deployments.numbered row).Active →
            ¬ other.Active := by
          intro other listed same active otherActive
          refine free.2 active ⟨other, listed, fun taken => ?_, same, otherActive⟩
          exact deployments.table.freshNumber_not_mem (List.mem_map.mpr ⟨other, listed, taken⟩)
        intro first firstListed second secondListed same firstActive secondActive
        rcases Table.mem_push.mp firstListed with rfl | held <;> rcases Table.mem_push.mp secondListed with rfl | secondHeld
        · rfl
        · exact absurd secondActive (alone second secondHeld same.symm firstActive)
        · exact absurd firstActive (alone first held same secondActive)
        · exact deployments.oneActive first held second secondHeld same firstActive secondActive }
  else .error .integrity

/-- A group number that no row has. -/
def freshGroup : Nat := (deployments.table.rows.filterMap FirmwareDeployment.rolloutGroupId).foldr max 0 + 1

variable {deployments}

theorem save_eq_ok {row : FirmwareDeployment} {after : Deployments} (ok : deployments.save row = .ok after) :
    after.table = deployments.replace row := by
  unfold save at ok
  split at ok
  · cases ok
    rfl
  · cases ok

theorem free_of_save {row : FirmwareDeployment} {after : Deployments} (ok : deployments.save row = .ok after) :
    row.Active → ¬ deployments.Occupied row := by
  unfold save at ok
  split at ok
  · rename_i free
    exact free
  · cases ok

theorem add_eq_ok {row : FirmwareDeployment} {after : Deployments} (ok : deployments.add row = .ok after) :
    after.table.rows = deployments.numbered row :: deployments.table.rows := by
  unfold add at ok
  split at ok
  · cases ok
    rfl
  · cases ok

theorem freshGroup_not_mem {row : FirmwareDeployment} (listed : row ∈ deployments.table.rows) :
    row.rolloutGroupId ≠ some deployments.freshGroup := fun same =>
  Table.foldr_max_succ_not_mem _ (List.mem_filterMap.mpr ⟨row, listed, same⟩)

end Deployments
end PowerMonitor.Firmware
