import PowerMonitor.DataReset.Coordinator

/-! The whole system: administrators, the reset worker, enrollment and ingestion as
steps on one database.

Each step is one transaction. The worker handles one participant in a transaction of
its own, so every step of a pass may be separated by steps of others, and a pass may
stop anywhere. A step that is refused leaves the database as it was.
-/

set_option autoImplicit false
namespace PowerMonitor.DataReset
open Ingestion Library

/-! ## Enrollment -/

structure EnrollmentClaim where
  hardwareId : String
  protocolVersion : String
  sdPresent : Bool
  sdRequired : Bool
  dataResetProtocol : Option String := none
  supportedEndpoints : List String := []
  deriving DecidableEq, Repr

/-- The reset protocol a claim advertises, directly or among its endpoints. -/
def EnrollmentClaim.advertisedResetProtocol (claim : EnrollmentClaim) : Option String :=
  claim.dataResetProtocol.or
    (claim.supportedEndpoints.find? (· = DataReset.dataResetProtocol))

def protocolIncompatible : ProblemError :=
  { status := 426
    title := "Protocol upgrade required"
    detail := "This server requires pm-protocol/1.0.0 or pm-agent/2.0.0"
    code := "protocol_incompatible" }

def storageRequired : ProblemError :=
  { status := 422
    title := "Required storage unavailable"
    detail := "Enrollment requires operational microSD storage"
    code := "sd_required" }

def hardwareExists : ProblemError :=
  { status := 409, title := "Already enrolled", detail := "Hardware identity already exists", code := "hardware_exists" }

def siteRequired : ProblemError :=
  { status := 409, title := "No site", detail := "Create a site before enrollment", code := "site_required" }

def siteNotAssignable : ProblemError :=
  { status := 409
    title := "Active site required"
    detail := "Enable the site before enrolling or reassigning sensors"
    code := "site_not_assignable" }

def siteMutationBlocked (siteId : String) : ProblemError :=
  { status := 409
    title := "Site reset in progress"
    detail := "Topology, pricing, account, report, export, and log mutations are " ++
      "locked until the coordinated reset finishes"
    code := "data_reset_site_mutation_blocked"
    extraTexts := [("site_ids", [siteId])] }

def deviceMutationBlocked (deviceId : String) : ProblemError :=
  { status := 409
    title := "Sensor reset in progress"
    detail := "Configuration, credential, storage, and OTA changes are locked " ++
      "until the sensor reset checkpoint finishes"
    code := "data_reset_device_mutation_blocked"
    extraTexts := [("device_ids", [deviceId])] }

def recoveryRequired (deviceId : String) (generation boundary : Nat) : ProblemError :=
  { status := 409
    title := "Local data reset recovery required"
    detail := "This decommissioned sensor did not complete the site's latest " ++
      "data reset. Reenrollment cannot issue new credentials until a " ++
      "future authenticated catch-up workflow clears its device-wide " ++
      "local readings and installs the committed generation."
    code := "reenrollment_requires_data_reset_recovery"
    extra := [("required_data_generation", generation), ("reset_boundary", boundary)]
    extraTexts := [("device_id", [deviceId])] }

def enrollmentGenerationUnsupported (generation : Nat) : ProblemError :=
  { status := 409
    title := "Data-generation enrollment unsupported"
    detail := "This site requires a sensor enrollment client that can durably install " ++
      "the server's reset generation before its first heartbeat or reading upload."
    code := "enrollment_data_generation_unsupported"
    extra := [("required_data_generation", generation)] }

def networkBlocked : ProblemError :=
  { status := 403
    title := "Enrollment denied"
    detail := "This sensor network is not accepted for enrollment"
    code := "enrollment_network_blocked" }

/-- `max(...) or 0` of a query over rows. -/
def largest (values : List Nat) : Nat := values.foldr max 0

namespace Database
variable (db : Database)

/-- Every participant row of a device, with its operation. -/
def participations (deviceId : String) : List (DataResetOperation × DataResetParticipant) :=
  db.operations.flatMap fun operation =>
    (operation.participants.filter fun participant => participant.deviceId = deviceId).map fun participant =>
      (operation, participant)

/-- The generation a new device of the site starts in. -/
def requiredSiteGeneration (siteId : String) : Nat :=
  let committed := db.operations.filter fun operation => operation.siteId = siteId ∧ operation.Committed
  max (largest (committed.map DataResetOperation.resetGeneration))
    (((db.site? siteId).bind Site.dataGeneration).getD 0)

/-- The reset keeps `ensure_device_reset_mutations_allowed` from passing. -/
def DeviceBlocked (deviceId : String) (sensor : Sensor) : Prop :=
  sensor.activeOperation ≠ none ∨ ¬ sensor.GateOpen ∨
  ∃ entry ∈ db.participations deviceId, ¬ entry.2.Settled ∧ entry.1.Active

instance (deviceId : String) (sensor : Sensor) : Decidable (db.DeviceBlocked deviceId sensor) :=
  inferInstanceAs (Decidable (_ ∨ _ ∨ _))

/-- The generation a returning device has to be in. -/
def reenrollmentGeneration (siteId deviceId : String) (sensor : Sensor) : Nat :=
  max (largest ((db.participations deviceId).map fun entry => entry.2.resetGeneration))
    (max (db.requiredSiteGeneration siteId)
      (max sensor.dataGeneration ((sensor.store.cursor.map SyncCursor.dataGeneration).getD 0)))

/-- The sequences a returning device may not use again. -/
def reenrollmentBoundary (deviceId : String) (sensor : Sensor) : Nat :=
  max (largest ((db.participations deviceId).map fun entry => entry.2.resetBoundary))
    (max sensor.resetBoundary (max sensor.store.cursorBoundary
      (max sensor.store.highestContiguous sensor.store.maximumSeen)))

/-- The device has completed a committed reset of this generation. -/
def VerifiedReset (deviceId : String) (generation : Nat) : Prop :=
  ∃ entry ∈ db.participations deviceId,
    entry.2.resetGeneration = generation ∧ entry.2.state = .verified ∧ entry.1.Committed

instance (deviceId : String) (generation : Nat) : Decidable (db.VerifiedReset deviceId generation) :=
  inferInstanceAs (Decidable (∃ entry ∈ db.participations deviceId, _))

end Database

/-- The rows of a device that returns. A missing data state is inserted with boundary zero. -/
def Sensor.reenroll (now : Int) (generation boundary : Nat) (advertised : Bool) (sensor : Sensor) : Sensor :=
  { sensor with
    activeOperation := none
    revoked := false
    lifecycleStatus := .active
    supportsDataReset := advertised
    store := { sensor.store with
      dataState := match sensor.store.dataState with
        | some _ => some { dataGeneration := generation, resetBoundary := boundary }
        | none => some { dataGeneration := generation }
      cursor := some ⟨boundary, boundary, generation, boundary, now⟩ } }

def newSensor (now : Int) (hardwareId siteId : String) (generation : Nat) (advertised : Bool) : Sensor :=
  { hardwareId := hardwareId
    supportsDataReset := advertised
    store :=
      { device := some { siteId := siteId }
        dataState := some { dataGeneration := generation }
        cursor := some ⟨0, 0, generation, 0, now⟩ } }

/-- What the claim of a token brings beside the claim itself. -/
structure ClaimInputs where
  preassignedSite : Option String
  newDeviceId : String
  ingressAllowed : Bool
  deriving DecidableEq, Repr

/-- The site of the token, or any site when the token names none. -/
def claimSite (db : Database) (inputs : ClaimInputs) : Option (String × Site) :=
  match inputs.preassignedSite with
  | some siteId => (db.site? siteId).map fun site => (siteId, site)
  | none => db.sites.head?

/-- Record the generation the enrollment relies on. -/
def Database.installGeneration (db : Database) (siteId : String) (site : Site) (generation : Nat) : Database :=
  { db with sites := setKey siteId { site with dataGeneration := some generation } db.sites }

/-- `claim_enrollment` with a valid token. -/
def claimEnrollment (db : Database) (claim : EnrollmentClaim) (inputs : ClaimInputs) (now : Int) :
    Except RequestError Database := do
  raiseIf (claim.protocolVersion ≠ "pm-protocol/1.0.0" ∧ claim.protocolVersion ≠ "pm-agent/2.0.0")
    (.problem protocolIncompatible)
  raiseIf (claim.protocolVersion ≠ "pm-agent/2.0.0" ∧ (claim.sdPresent = false ∨ claim.sdRequired = false))
    (.problem storageRequired)
  let advertised := claim.advertisedResetProtocol
  let existing := db.devices.find? fun entry => entry.2.hardwareId = claim.hardwareId
  raiseIf (∃ entry ∈ existing, entry.2.lifecycleStatus ≠ .decommissioned) (.problem hardwareExists)
  match claimSite db inputs with
  | none => throw (.problem siteRequired)
  | some (siteId, site) =>
      raiseIf (site.active = false) (.problem siteNotAssignable)
      raiseIf (db.SiteBusy siteId) (.problem (siteMutationBlocked siteId))
      let siteGeneration := db.requiredSiteGeneration siteId
      match existing with
      | some (deviceId, sensor) =>
          raiseIf (db.DeviceBlocked deviceId sensor) (.problem (deviceMutationBlocked deviceId))
          let generation := db.reenrollmentGeneration siteId deviceId sensor
          let boundary := db.reenrollmentBoundary deviceId sensor
          raiseIf (¬ sensor.InSite siteId ∨ ¬ sensor.GateOpen ∨
              ((0 < generation ∨ 0 < boundary) ∧ ¬ db.VerifiedReset deviceId generation))
            (.problem (recoveryRequired deviceId generation boundary))
          raiseIf (0 < generation ∧ advertised = none) (.problem (enrollmentGenerationUnsupported generation))
          raiseIf (inputs.ingressAllowed = false) (.problem networkBlocked)
          pure ((db.updateDevice deviceId (Sensor.reenroll now generation boundary advertised.isSome)).installGeneration
            siteId site siteGeneration)
      | none =>
          raiseIf (0 < siteGeneration ∧ advertised = none)
            (.problem (enrollmentGenerationUnsupported siteGeneration))
          raiseIf (inputs.ingressAllowed = false) (.problem networkBlocked)
          raiseIf (∃ entry ∈ db.devices, entry.1 = inputs.newDeviceId) (.integrityError "devices_pkey")
          let added := { db with devices := db.devices ++
            [(inputs.newDeviceId, newSensor now claim.hardwareId siteId siteGeneration advertised.isSome)] }
          pure (added.installGeneration siteId site siteGeneration)

/-- Take a device out of service, with or without revoking it. The reset barrier in front of the
management routes is left out: nothing below depends on it. -/
def Sensor.decommission (revoke : Bool) (sensor : Sensor) : Sensor :=
  { sensor with revoked := sensor.revoked || revoke, lifecycleStatus := .decommissioned }

/-! ## Steps -/

/-- How the purge that follows the central commit ends. A worker that stops before it leaves the
artifacts to a later iteration. -/
inductive Purge where | done | failed | stopped
  deriving DecidableEq, Repr

inductive Step (Digest : Type) where
  | createResetPlan (id siteId : String) (policy : DisconnectedSensorPolicy) (now : Int) (inputs : PlanInputs)
  | executeDataReset (id idempotencyKey : String) (request : ExecutionRequest) (now : Int) (inputs : PlanInputs)
  | cancelDataReset (operationId : String)
  | retryDataReset (operationId : String)
  | prepareSensor (operationId deviceId : String) (now : Int) (exchange : Exchange Digest)
  | finishPreparing (operationId : String)
  | requestBackup (operationId backupId : String)
  | checkBackup (operationId : String) (evidence : BackupEvidence)
  | centralReset (operationId : String) (now : Int) (scope : Except ProblemError Unit) (purge : Purge)
  | purgeArtifacts (operationId : String) (purged : Bool)
  | beginSensorCommit (operationId : String)
  | commitSensor (operationId deviceId : String) (now : Int) (prepare commit : Exchange Digest)
  | finishCommitting (operationId : String) (now : Int) (costs : CostEvidence)
  | cancelOperation (operationId : String) (now : Int) (answers : CancelAnswers) (restored : Except ProblemError Unit)
  | claimEnrollment (claim : EnrollmentClaim) (inputs : ClaimInputs) (now : Int)
  | decommissionDevice (deviceId : String) (revoke : Bool)
  | ingestReadings (deviceId : String) (batch : Batch) (now : Int)

def DataResetOperation.setParticipant (operation : DataResetOperation) (participant : DataResetParticipant) :
    DataResetOperation :=
  { operation with participants := operation.participants.map fun old =>
      if old.deviceId = participant.deviceId then participant else old }

namespace Database
variable (db : Database)

/-- Act on an operation when the worker or a route finds it in a suitable state. -/
def onOperation (operationId : String) (guard : DataResetOperation → Prop) [DecidablePred guard]
    (effect : DataResetOperation → Database) : Database :=
  match db.operation? operationId with
  | some operation => if guard operation then effect operation else db
  | none => db

/-- Write back what an exchange made of a participant and its device. -/
def record (operation : DataResetOperation) (deviceId : String) (outcome : DataResetParticipant × Sensor) :
    Database :=
  (db.setOperation (operation.setParticipant outcome.1)).updateDevice deviceId fun _ => outcome.2

/-- One exchange with a participant that the pass has not skipped. -/
def exchange (operation : DataResetOperation) (deviceId : String) (skips : DataResetParticipant → Prop)
    [DecidablePred skips] (act : DataResetParticipant → Sensor → DataResetParticipant × Sensor) : Database :=
  match operation.participants.find? (fun participant => participant.deviceId = deviceId), db.device? deviceId with
  | some participant, some sensor =>
      if skips participant then db else db.record operation deviceId (act participant sensor)
  | _, _ => db

/-- The execute route keeps a plan that turned out expired or stale from being used again. -/
def invalidatePlan (planId : String) : Database :=
  { db with plans := db.plans.map fun plan => if plan.id = planId then { plan with invalidated := true } else plan }

/-- Open every gate of a cancelled operation. -/
def releaseAll (operation : DataResetOperation) : Database :=
  db.updateDevices fun id sensor =>
    if ∃ participant ∈ operation.participants, participant.deviceId = id then sensor.openGate else sensor

end Database

/-- A prepare pass runs in these states; a cancellation may be requested while it runs. -/
def Preparing (operation : DataResetOperation) : Prop :=
  operation.state = .preparingSensors ∨ operation.state = .awaitingConfirmation

/-- A commit pass runs in these states, after the central commit. -/
def Committing (operation : DataResetOperation) : Prop :=
  operation.Committed ∧ operation.quarantined = false ∧ (operation.state = .sensorCommitRunning ∨ operation.state = .verificationRunning ∨
    operation.state = .completedWithResetsPendingOnReconnect)

/-- The worker finds the operation in this state, without a request to cancel it and without
artifacts that are still to be purged. -/
def Dispatched (state : OperationState) (operation : DataResetOperation) : Prop :=
  operation.state = state ∧ operation.cancelRequested = false ∧ operation.quarantined = false

def CentralReady (operation : DataResetOperation) : Prop :=
  (operation.state = .backupVerified ∨ operation.state = .databaseResetRunning) ∧
  operation.cancelRequested = false ∧ ¬ operation.Committed

instance : DecidablePred Preparing := fun _ => inferInstanceAs (Decidable (_ ∨ _))
instance : DecidablePred Committing := fun _ => inferInstanceAs (Decidable (_ ∧ _ ∧ _))
instance (state : OperationState) : DecidablePred (Dispatched state) := fun _ =>
  inferInstanceAs (Decidable (_ ∧ _ ∧ _))
instance : DecidablePred CentralReady := fun _ => inferInstanceAs (Decidable (_ ∧ _ ∧ _))

/-- A raised problem leaves the operation waiting for an administrator. -/
def DataResetOperation.needsAttention (code summary : String) (operation : DataResetOperation) :
    DataResetOperation :=
  { operation with state := .attentionRequired, failureCode := some code, failureSummary := some summary }

def purgeFailed (operation : DataResetOperation) : DataResetOperation :=
  { operation.needsAttention "data_reset_quarantine_purge_failed"
      "Central data committed, but quarantined artifacts need cleanup" with quarantined := true }

/-- The worker tries once more to purge what the central commit has set aside. -/
def purgeAgain (purged : Bool) (operation : DataResetOperation) : DataResetOperation :=
  if purged then { operation with quarantined := false }
  else operation.needsAttention "data_reset_quarantine_purge_failed"
    "Central reset committed; retry the artifact-purge checkpoint"

/-- The committed operation row after the purge. -/
def Purge.row (committed : DataResetOperation) : Purge → DataResetOperation
  | .done => committed
  | .failed => purgeFailed committed
  | .stopped => { committed with quarantined := true }

/-- The central reset as the worker runs it: a raised problem, or a committed reset whose artifacts
may still have to be purged. -/
def runCentralReset (db : Database) (now : Int) (scope : Except ProblemError Unit) (purge : Purge)
    (operation : DataResetOperation) : Database :=
  match performCentralReset db now operation scope with
  | .error problem => db.setOperation (operation.needsAttention problem.code problem.detail)
  | .ok committed => committed.setOperation
      (purge.row { operation with state := .databaseResetCommitted, centralCommitAt := some now })

def runCancel (db : Database) (now : Int) (answers : CancelAnswers) (restored : Except ProblemError Unit)
    (operation : DataResetOperation) : Database :=
  let cancelled := cancelOperation now operation answers restored
  let released := if cancelled.Active then db else db.releaseAll operation
  released.setOperation cancelled

section Run
variable {Digest : Type} [DecidableEq Digest] (canonicalSha256 : Canonical → Digest)
  (readingContentHash : Reading → String)

def executeDataReset (db : Database) (id idempotencyKey : String) (request : ExecutionRequest) (now : Int)
    (inputs : PlanInputs) : Database :=
  match createResetOperation canonicalSha256 db id idempotencyKey request now inputs with
  | .ok created => created
  | .error (.problem problem) =>
      if problem.code = planExpired.code ∨ problem.code = planStale.code then db.invalidatePlan request.planId else db
  | .error (.integrityError _) => db

def step (db : Database) : Step Digest → Database
  | .createResetPlan id siteId policy now inputs => (createResetPlan db id siteId policy now inputs).toOption.getD db
  | .executeDataReset id idempotencyKey request now inputs =>
      executeDataReset canonicalSha256 db id idempotencyKey request now inputs
  | .cancelDataReset operationId => db.onOperation operationId (fun _ => True) fun operation =>
      ((markCancelRequested operation).toOption.map db.setOperation).getD db
  | .retryDataReset operationId => db.onOperation operationId (fun _ => True) fun operation =>
      ((retryResetOperation operation).toOption.map db.setOperation).getD db
  | .prepareSensor operationId deviceId now exchange => db.onOperation operationId Preparing fun operation =>
      db.exchange operation deviceId (fun participant => participant.state = .prepared ∨
        participant.state = .notApplicable) fun participant sensor =>
          prepareOne canonicalSha256 now operation participant sensor exchange
  | .finishPreparing operationId => db.onOperation operationId Preparing fun operation =>
      db.setOperation (finishPreparing operation)
  | .requestBackup operationId backupId => db.onOperation operationId (Dispatched .sensorsPrepared) fun operation =>
      db.setOperation (requestBackup backupId operation)
  | .checkBackup operationId evidence => db.onOperation operationId (Dispatched .backupRunning) fun operation =>
      db.setOperation (checkBackup evidence operation)
  | .centralReset operationId now scope purge =>
      db.onOperation operationId CentralReady (runCentralReset db now scope purge)
  | .purgeArtifacts operationId purged =>
      db.onOperation operationId (fun operation => operation.Active ∧ operation.Committed ∧
        operation.quarantined = true) fun operation => db.setOperation (purgeAgain purged operation)
  | .beginSensorCommit operationId => db.onOperation operationId (Dispatched .databaseResetCommitted) fun operation =>
      db.setOperation { operation with state := .sensorCommitRunning }
  | .commitSensor operationId deviceId now prepare commit => db.onOperation operationId Committing fun operation =>
      db.exchange operation deviceId DataResetParticipant.Settled fun participant sensor =>
        commitOne canonicalSha256 now operation participant sensor prepare commit
  | .finishCommitting operationId now costs => db.onOperation operationId Committing fun operation =>
      db.setOperation (finishCommitting db now operation costs)
  | .cancelOperation operationId now answers restored =>
      db.onOperation operationId (fun operation => operation.Active ∧ operation.cancelRequested = true)
        (runCancel db now answers restored)
  | .claimEnrollment claim inputs now => (claimEnrollment db claim inputs now).toOption.getD db
  | .decommissionDevice deviceId revoke => db.updateDevice deviceId (Sensor.decommission revoke)
  -- Authentication turns a revoked or inactive device away before its batch is read.
  | .ingestReadings deviceId batch now => db.updateDevice deviceId fun sensor =>
      if sensor.InService then { sensor with store := ingestCall readingContentHash sensor.store (batch, now) }
      else sensor

/-- Steps in the order in which their transactions commit. -/
def run (db : Database) (steps : List (Step Digest)) : Database :=
  steps.foldl (step canonicalSha256 readingContentHash) db

end Run
end PowerMonitor.DataReset
