import PowerMonitor.DataReset.Approval

/-! What holds along every run of the system: pre-reset data never comes back. -/

set_option autoImplicit false
namespace PowerMonitor.DataReset
open Ingestion Library

section Steps
variable {Digest : Type} [DecidableEq Digest] {canonicalSha256 : Canonical → Digest}
  {readingContentHash : Reading → String} {db : Database}

theorem createResetPlan_preserved (inv : Invariant db) (id siteId : String) (policy : DisconnectedSensorPolicy)
    (now : Int) (inputs : PlanInputs) :
    Preserved db ((createResetPlan db id siteId policy now inputs).toOption.getD db) := by
  cases result : createResetPlan db id siteId policy now inputs with
  | error problem => exact .refl inv
  | ok next =>
      unfold createResetPlan at result
      split at result
      · cases result
      · obtain ⟨_, result⟩ := raiseIf_bind_eq_ok.mp result
        split at result
        · cases result
        · obtain ⟨snapshot, _, result⟩ := bind_eq_ok.mp result
          cases result
          exact unchanged_preserved inv rfl rfl fun _ => le_rfl

theorem executeDataReset_preserved (injective : Function.Injective canonicalSha256) (inv : Invariant db)
    (id key : String) (request : ExecutionRequest) (now : Int) (inputs : PlanInputs) :
    Preserved db (executeDataReset canonicalSha256 db id key request now inputs) := by
  rw [executeDataReset]
  split
  · next created ok =>
      rcases createResetOperation_ok injective inv.devices ok with rfl | ⟨operation, rfl, approved⟩
      · exact .refl inv
      · exact startOperation_preserved inv approved
  · split
    · exact unchanged_preserved inv rfl rfl fun _ => le_rfl
    · exact .refl inv
  · exact .refl inv

/-- Every step keeps the invariant and takes nothing back. -/
theorem step_preserved (injective : Function.Injective canonicalSha256) (inv : Invariant db) (action : Step Digest) :
    Preserved db (step canonicalSha256 readingContentHash db action) := by
  cases action with
  | createResetPlan id siteId policy now inputs => exact createResetPlan_preserved inv id siteId policy now inputs
  | executeDataReset id key request now inputs =>
      exact executeDataReset_preserved injective inv id key request now inputs
  | cancelDataReset operationId =>
      exact .onOperation inv fun operation member _ => markCancelRequested_preserved inv member
  | retryDataReset operationId =>
      exact .onOperation inv fun operation member _ => retryResetOperation_preserved inv member
  | prepareSensor operationId deviceId now exchange =>
      exact .onOperation inv fun operation member preparing =>
        prepareSensor_preserved inv member preparing deviceId now exchange
  | finishPreparing operationId =>
      exact .onOperation inv fun operation member preparing => finishPreparing_preserved inv member preparing
  | requestBackup operationId backupId =>
      exact .onOperation inv fun operation member dispatched => requestBackup_preserved inv member backupId dispatched
  | checkBackup operationId evidence =>
      exact .onOperation inv fun operation member dispatched => checkBackup_preserved inv member evidence dispatched
  | centralReset operationId now scope purge =>
      exact .onOperation inv fun operation member ready => runCentralReset_preserved inv member ready scope purge
  | purgeArtifacts operationId purged =>
      exact .onOperation inv fun operation member held => purgeAgain_preserved inv member purged held.1
  | beginSensorCommit operationId =>
      exact .onOperation inv fun operation member dispatched => beginSensorCommit_preserved inv member dispatched
  | commitSensor operationId deviceId now prepare commit =>
      exact .onOperation inv fun operation member committing =>
        commitSensor_preserved inv member committing deviceId now prepare commit
  | finishCommitting operationId now costs =>
      exact .onOperation inv fun operation member committing =>
        finishCommitting_preserved inv member now costs committing
  | cancelOperation operationId now answers restored =>
      exact .onOperation inv fun operation member held =>
        runCancel_preserved inv member held.1 held.2 answers restored
  | claimEnrollment claim inputs now => exact claimEnrollment_preserved inv claim inputs now
  | decommissionDevice deviceId revoke => exact decommissionDevice_preserved inv deviceId revoke
  | ingestReadings deviceId batch now => exact ingestReadings_preserved inv readingContentHash deviceId batch now

end Steps

/-! ## Whole runs -/

/-- A database before its first reset. Enrollment and the migration that introduced resets give every
device its data state. -/
structure Initial (db : Database) : Prop where
  devices : (db.devices.map Prod.fst).Nodup
  rows : ∀ entry ∈ db.devices, entry.2.store.dataState.isSome = true
  operations : db.operations = []

theorem Initial.invariant {db : Database} (initial : Initial db) : Invariant db := by
  refine ⟨initial.devices, ?_, ?_, fun id sensor found => initial.rows _ (lookup_mem found), ?_, ?_, ?_⟩
  all_goals rw [initial.operations]
  · exact List.nodup_nil
  all_goals
    intro operation member
    cases member

/-- What any number of steps leaves: generations and boundaries that do not go back, and operations
that evolve. -/
structure Later (before after : Database) : Prop where
  devices : ∀ id sensor, before.device? id = some sensor → ∃ later, after.device? id = some later ∧
    sensor.dataGeneration ≤ later.dataGeneration ∧ sensor.resetBoundary ≤ later.resetBoundary
  operations : ∀ operation ∈ before.operations, ∃ later ∈ after.operations, operation.Evolves later
  sites : ∀ siteId, before.siteGeneration siteId ≤ after.siteGeneration siteId

namespace Later
variable {first second third : Database}

theorem refl (db : Database) : Later db db := ⟨(Advances.refl db).devices, (Advances.refl db).operations, fun _ => le_rfl⟩

theorem trans (earlier : Later first second) (later : Later second third) : Later first third where
  devices := by
    intro id sensor found
    obtain ⟨middle, middleFound, generation, boundary⟩ := earlier.devices id sensor found
    obtain ⟨last, lastFound, generation', boundary'⟩ := later.devices id middle middleFound
    exact ⟨last, lastFound, generation.trans generation', boundary.trans boundary'⟩
  operations := by
    intro operation member
    obtain ⟨middle, middleMember, evolves⟩ := earlier.operations operation member
    obtain ⟨last, lastMember, evolves'⟩ := later.operations middle middleMember
    exact ⟨last, lastMember, evolves.trans evolves'⟩
  sites siteId := (earlier.sites siteId).trans (later.sites siteId)

end Later

theorem Advances.later {before after : Database} (advances : Advances before after) : Later before after :=
  ⟨advances.devices, advances.operations, advances.sites⟩

section Runs
variable {Digest : Type} [DecidableEq Digest] {canonicalSha256 : Canonical → Digest}
  {readingContentHash : Reading → String}

theorem run_preserved (injective : Function.Injective canonicalSha256) {db : Database} (inv : Invariant db)
    (steps : List (Step Digest)) :
    Invariant (run canonicalSha256 readingContentHash db steps) ∧
      Later db (run canonicalSha256 readingContentHash db steps) := by
  induction steps generalizing db with
  | nil => exact ⟨inv, .refl db⟩
  | cons action rest ih =>
      have stepped : Preserved db (step canonicalSha256 readingContentHash db action) := step_preserved injective inv action
      obtain ⟨kept, later⟩ := ih stepped.invariant
      exact ⟨kept, stepped.advances.later.trans later⟩

/-- A reading that is let in is in a generation and above a boundary no committed reset of its device
is ahead of. -/
theorem letIn_above {db : Database} (inv : Invariant db) {id : String} {sensor : Sensor}
    (found : db.device? id = some sensor) {raw : RawReading} (letIn : LetIn sensor raw)
    {operation : DataResetOperation} (member : operation ∈ db.operations) (done : operation.Committed)
    {participant : DataResetParticipant} (inside : participant ∈ operation.participants)
    (own : participant.deviceId = id) :
    operation.resetGeneration ≤ raw.dataGeneration ∧ participant.resetBoundary < raw.sequence := by
  obtain ⟨inService, readings, brought, admitted⟩ := letIn
  have sound := inv.sound operation member
  rw [← own] at found
  constructor
  · rw [admitted.generation]
    exact sound.after done participant inside sensor found
  · apply lt_of_le_of_lt _ (admitted.above raw.reading brought)
    cases sound.boundary done participant inside sensor found inService with
    | inl lower => exact lower
    | inr pending =>
        -- The gate of a participant that is still to be reset is closed.
        exact absurd admitted.opened (sound.gated done pending.1 participant inside pending.2 sensor found)

variable (readingContentHash) in
/-- Over every run, a reading is stored only through an open gate and in the generation of its device;
generations and boundaries never go back; and nothing from before a committed reset is stored after it. -/
theorem pre_reset_data_never_reenters (injective : Function.Injective canonicalSha256) {start : Database}
    (initial : Initial start) (earlier later : List (Step Digest)) (action : Step Digest) :
    let past := run canonicalSha256 readingContentHash start earlier
    let before := run canonicalSha256 readingContentHash past later
    let after := step canonicalSha256 readingContentHash before action
    (∀ id sensor, after.device? id = some sensor → ∀ raw ∈ sensor.store.rawReadings,
      (∀ old, before.device? id = some old → raw ∉ old.store.rawReadings) →
      (∃ old row, before.device? id = some old ∧ old.InService ∧ old.store.dataState = some row ∧
        row.ingestionGate = .opened ∧ row.resetRequiredOnReconnect = false ∧
        raw.dataGeneration = row.dataGeneration) ∧
      ∀ operation ∈ past.operations, operation.Committed → ∀ participant ∈ operation.participants,
        participant.deviceId = id →
        operation.resetGeneration ≤ raw.dataGeneration ∧ participant.resetBoundary < raw.sequence) ∧
    ∀ id old, before.device? id = some old → ∃ sensor, after.device? id = some sensor ∧
      old.dataGeneration ≤ sensor.dataGeneration ∧ old.resetBoundary ≤ sensor.resetBoundary := by
  intro past before after
  have settled : Invariant past := (run_preserved injective initial.invariant earlier).1
  obtain ⟨inv, since⟩ : Invariant before ∧ Later past before := run_preserved injective settled later
  have stepped : Preserved before after := step_preserved injective inv action
  refine ⟨fun id sensor found raw member fresh => ?_, stepped.advances.devices⟩
  obtain ⟨old, oldFound, source⟩ := stepped.advances.readings id sensor found raw member
  have letIn : LetIn old raw := source.resolve_left (fresh old oldFound)
  obtain ⟨row, state⟩ := Option.isSome_iff_exists.mp (inv.rows id old oldFound)
  refine ⟨⟨old, row, oldFound, letIn.1, state, ?_⟩, fun operation operationMember done participant inside own => ?_⟩
  · obtain ⟨_, readings, _, admitted⟩ := letIn
    rw [state] at admitted
    have opened := admitted.opened row rfl
    exact ⟨opened.1, opened.2, admitted.generation⟩
  · obtain ⟨now, nowMember, evolves⟩ := since.operations operation operationMember
    obtain ⟨current, currentInside, step⟩ := forall₂_exists_right evolves.participants inside
    have above := letIn_above inv oldFound letIn nowMember (evolves.committed done) currentInside
      (step.deviceId.trans own)
    rw [evolves.resetGeneration] at above
    exact ⟨above.1, step.resetBoundary.trans_lt above.2⟩

end Runs

/-! ## A reset that commits while its sensor is away -/

/-- One site with one sensor that has stored readings up to sequence 7. -/
def meterSite : Database :=
  { sites := [("home", {})]
    devices := [("meter",
      { hardwareId := "esp-1"
        store :=
          { device := some { siteId := "home" }
            dataState := some {}
            cursor := some ⟨7, 7, 0, 0, 0⟩ } })] }

/-- What the planner finds of a sensor that has been silent. -/
def silentInputs : PlanInputs :=
  { observations := fun _ => { probe := .error { code := "sensor_probe_unreachable", summary := "" } }
    inventory := .ok "measurements"
    offlineAfterSeconds := 30 }

def resetRequest : ExecutionRequest :=
  { planId := "plan"
    planRevision := 1
    requestedBy := "admin"
    reason := "meter replaced"
    backupMode := .permanentWithoutBackup
    confirmationPhrase := noBackupConfirmationPhrase
    permanentWithoutBackupAcknowledged := true }

def deferredReset : List (Step Canonical) :=
  [.createResetPlan "plan" "home" .deferUntilReconnect 0 silentInputs,
    .executeDataReset "reset" "key" resetRequest 1 silentInputs,
    .prepareSensor "reset" "meter" 2 (.failed { code := "sensor_reset_unreachable", summary := "" }),
    .finishPreparing "reset",
    .requestBackup "reset" "backup",
    .centralReset "reset" 3 (.ok ()) .done]

theorem meterSite_initial : Initial meterSite := ⟨by decide, by decide, rfl⟩

theorem meterSite_pre_reset_data_never_reenters :
    let past := run id (fun _ => "") meterSite deferredReset
    (∃ operation ∈ past.operations, operation.Committed ∧ operation.resetGeneration = 1) ∧
    ∀ batch now deviceId sensor, (step id (fun _ => "") past (.ingestReadings "meter" batch now)).device? deviceId = some sensor →
      ∀ raw ∈ sensor.store.rawReadings, (∀ old, past.device? deviceId = some old → raw ∉ old.store.rawReadings) →
      ∀ operation ∈ past.operations, operation.Committed → ∀ participant ∈ operation.participants,
        participant.deviceId = deviceId →
        operation.resetGeneration ≤ raw.dataGeneration ∧ participant.resetBoundary < raw.sequence := by
  refine ⟨by decide, fun batch now deviceId sensor found raw member fresh => ?_⟩
  exact ((pre_reset_data_never_reenters (fun _ => "") Function.injective_id meterSite_initial deferredReset []
    (.ingestReadings "meter" batch now)).1 deviceId sensor found raw member fresh).2

end PowerMonitor.DataReset
