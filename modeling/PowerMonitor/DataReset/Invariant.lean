import PowerMonitor.DataReset.Effects
import PowerMonitor.Library.Related
import Mathlib.Data.List.Nodup

/-! The invariant of the reset, and the ways in which a step may change the database.

A device belongs to at most one operation that is still active. Until the central
commit of that operation the device is in an older generation; from then on it is in
the operation's own, and its gate stays closed until the participant is settled. A
settled participant of a device in service lies below the boundary of the device. While
the gate is closed nothing the server knows of the device rises above the boundary of
the participant.
-/

set_option autoImplicit false
namespace PowerMonitor.DataReset
open Ingestion Library

/-! ## Reading an updated database -/

namespace Database
variable {db : Database} {update : String → Sensor → Sensor} {id : String}

@[simp] theorem device?_updateDevices : (db.updateDevices update).device? id = (db.device? id).map (update id) :=
  lookup_map_values update db.devices id

@[simp] theorem device?_setOperation {operation : DataResetOperation} :
    (db.setOperation operation).device? id = db.device? id := rfl

theorem keys_updateDevices : (db.updateDevices update).devices.map Prod.fst = db.devices.map Prod.fst := by
  simp [updateDevices, Function.comp_def]

theorem mem_setOperation {new operation : DataResetOperation} (member : operation ∈ (db.setOperation new).operations) :
    operation = new ∨ (operation ∈ db.operations ∧ operation.id ≠ new.id) := by
  obtain ⟨old, oldMember, rfl⟩ := List.mem_map.mp member
  by_cases same : old.id = new.id
  · exact .inl (if_pos same)
  · rw [if_neg same]
    exact .inr ⟨oldMember, same⟩

theorem ids_setOperation (new : DataResetOperation) :
    (db.setOperation new).operations.map DataResetOperation.id = db.operations.map DataResetOperation.id := by
  rw [setOperation, List.map_map]
  apply List.map_congr_left
  intro old _
  simp only [Function.comp_apply]
  split
  · next same => exact same.symm
  · rfl

theorem mem_of_operation? {operationId : String} {operation : DataResetOperation}
    (found : db.operation? operationId = some operation) :
    operation ∈ db.operations ∧ operation.id = operationId :=
  ⟨List.mem_of_find?_eq_some found, by simpa using List.find?_some found⟩

/-- The generation recorded for a site. -/
def siteGeneration (db : Database) (siteId : String) : Nat := ((db.site? siteId).bind Site.dataGeneration).getD 0

end Database

/-- A device is at one site. -/
theorem Sensor.InSite.unique {sensor : Sensor} {first second : String} (one : sensor.InSite first)
    (other : sensor.InSite second) : first = second := by
  obtain ⟨device, found, rfl⟩ := one
  obtain ⟨again, foundAgain, rfl⟩ := other
  rw [Option.mem_unique found foundAgain]

/-! ## The invariant -/

/-- States an operation with a central commit can be in. -/
def OperationState.afterCommit : OperationState → Bool
  | .databaseResetCommitted | .sensorCommitRunning | .verificationRunning | .completed
  | .completedWithResetsPendingOnReconnect | .partialFailure | .attentionRequired => true
  | _ => false

/-- What holds of an operation and the device rows of its participants. -/
structure DataResetOperation.Sound (operation : DataResetOperation) (device? : String → Option Sensor) : Prop where
  phase : operation.Committed → operation.state.afterCommit = true ∧ operation.cancelRequested = false
  before : operation.Active → ¬ operation.Committed → ∀ participant ∈ operation.participants,
    ∀ sensor ∈ device? participant.deviceId, sensor.dataGeneration < operation.resetGeneration
  during : operation.Active → operation.Committed → ∀ participant ∈ operation.participants,
    ∀ sensor ∈ device? participant.deviceId, sensor.dataGeneration = operation.resetGeneration
  after : operation.Committed → ∀ participant ∈ operation.participants,
    ∀ sensor ∈ device? participant.deviceId, operation.resetGeneration ≤ sensor.dataGeneration
  boundary : operation.Committed → ∀ participant ∈ operation.participants,
    ∀ sensor ∈ device? participant.deviceId, sensor.InService →
      participant.resetBoundary ≤ sensor.resetBoundary ∨ (operation.Active ∧ ¬ participant.Settled)
  gated : operation.Committed → operation.Active → ∀ participant ∈ operation.participants, ¬ participant.Settled →
    ∀ sensor ∈ device? participant.deviceId, ¬ sensor.GateOpen
  shut : operation.Active → ¬ operation.Committed → ∀ participant ∈ operation.participants,
    ∀ sensor ∈ device? participant.deviceId, ¬ (sensor.GateOpen ∧ sensor.InService)
  under : operation.Active → ∀ participant ∈ operation.participants, (operation.Committed → ¬ participant.Settled) →
    ∀ sensor ∈ device? participant.deviceId, sensor.Under participant.resetBoundary
  limited : ∀ participant ∈ operation.participants, participant.Limited

structure Invariant (db : Database) : Prop where
  devices : (db.devices.map Prod.fst).Nodup
  operations : (db.operations.map DataResetOperation.id).Nodup
  participants : ∀ operation ∈ db.operations, (operation.participants.map DataResetParticipant.deviceId).Nodup
  rows : ∀ id sensor, db.device? id = some sensor → sensor.store.dataState.isSome = true
  located : ∀ operation ∈ db.operations, ∀ participant ∈ operation.participants,
    ∃ sensor, db.device? participant.deviceId = some sensor ∧ sensor.InSite operation.siteId
  exclusive : ∀ first ∈ db.operations, ∀ second ∈ db.operations, first.Active → second.Active →
    first.siteId = second.siteId → first = second
  sound : ∀ operation ∈ db.operations, operation.Sound db.device?

theorem Invariant.eq_of_id {db : Database} (inv : Invariant db) {first second : DataResetOperation}
    (one : first ∈ db.operations) (other : second ∈ db.operations) (same : first.id = second.id) : first = second :=
  List.inj_on_of_nodup_map inv.operations one other same

/-! ## What one step leaves -/

/-- What no step takes back from an operation. -/
structure DataResetOperation.Evolves (before after : DataResetOperation) : Prop where
  id : after.id = before.id
  siteId : after.siteId = before.siteId
  resetGeneration : after.resetGeneration = before.resetGeneration
  committed : before.Committed → after.Committed
  participants : List.Forall₂ DataResetParticipant.Evolves before.participants after.participants

namespace DataResetOperation.Evolves
variable {first second third : DataResetOperation}

theorem refl (operation : DataResetOperation) : operation.Evolves operation :=
  ⟨rfl, rfl, rfl, fun done => done, List.forall₂_same.mpr fun participant _ => .refl participant⟩

theorem trans (earlier : first.Evolves second) (later : second.Evolves third) : first.Evolves third where
  id := later.id.trans earlier.id
  siteId := later.siteId.trans earlier.siteId
  resetGeneration := later.resetGeneration.trans earlier.resetGeneration
  committed done := later.committed (earlier.committed done)
  participants := forall₂_trans (fun _ _ _ => .trans) earlier.participants later.participants

theorem deviceIds (evolves : first.Evolves second) :
    second.participants.map DataResetParticipant.deviceId = first.participants.map DataResetParticipant.deviceId :=
  forall₂_map_eq (fun _ _ step => step.deviceId) evolves.participants

end DataResetOperation.Evolves

/-- A row may join the readings of a device only through the gate of a device in service. -/
def LetIn (sensor : Sensor) (raw : RawReading) : Prop :=
  sensor.InService ∧ ∃ readings, raw.reading ∈ readings ∧
    Admitted sensor.store.dataState readings raw.dataGeneration

/-- What one step leaves: generations and boundaries that do not go back, operations that evolve, and
readings that were there or have passed the gate. -/
structure Advances (before after : Database) : Prop where
  devices : ∀ id sensor, before.device? id = some sensor → ∃ later, after.device? id = some later ∧
    sensor.dataGeneration ≤ later.dataGeneration ∧ sensor.resetBoundary ≤ later.resetBoundary
  operations : ∀ operation ∈ before.operations, ∃ later ∈ after.operations, operation.Evolves later
  readings : ∀ id sensor, after.device? id = some sensor → ∀ raw ∈ sensor.store.rawReadings,
    ∃ earlier, before.device? id = some earlier ∧ (raw ∈ earlier.store.rawReadings ∨ LetIn earlier raw)
  sites : ∀ siteId, before.siteGeneration siteId ≤ after.siteGeneration siteId

theorem Advances.refl (db : Database) : Advances db db where
  devices _ sensor found := ⟨sensor, found, le_rfl, le_rfl⟩
  operations operation member := ⟨operation, member, .refl operation⟩
  readings _ sensor found _ member := ⟨sensor, found, .inl member⟩
  sites _ := le_rfl

/-! ## Soundness carried over -/

/-- A device row that no reset has touched. It may have left service. -/
structure Sensor.Unmoved (before after : Sensor) : Prop where
  device : after.store.device = before.store.device
  dataState : after.store.dataState = before.store.dataState
  inService : after.InService → before.InService
  under : ∀ boundary, ¬ (before.GateOpen ∧ before.InService) → before.Under boundary → after.Under boundary

namespace Sensor.Unmoved
variable {before after : Sensor}

theorem refl (sensor : Sensor) : sensor.Unmoved sensor := ⟨rfl, rfl, id, fun _ _ held => held⟩

theorem dataGeneration (unmoved : before.Unmoved after) : after.dataGeneration = before.dataGeneration := by
  rw [Sensor.dataGeneration, unmoved.dataState, Sensor.dataGeneration]

theorem resetBoundary (unmoved : before.Unmoved after) : after.resetBoundary = before.resetBoundary := by
  rw [Sensor.resetBoundary, unmoved.dataState, Sensor.resetBoundary]

theorem gateOpen (unmoved : before.Unmoved after) : after.GateOpen ↔ before.GateOpen := by
  rw [Sensor.GateOpen, unmoved.dataState, Sensor.GateOpen]

end Sensor.Unmoved

/-- A finished operation asks of its devices only that they stay above it. -/
def DataResetOperation.Below (operation : DataResetOperation) (device? : String → Option Sensor) : Prop :=
  ∀ participant ∈ operation.participants, ∀ sensor ∈ device? participant.deviceId,
    operation.resetGeneration ≤ sensor.dataGeneration ∧
    (sensor.InService → participant.resetBoundary ≤ sensor.resetBoundary)

namespace DataResetOperation.Sound
variable {operation : DataResetOperation} {device? after : String → Option Sensor}

theorem below (sound : operation.Sound device?) (inactive : ¬ operation.Active) (done : operation.Committed) :
    operation.Below device? := by
  intro participant member sensor found
  refine ⟨sound.after done participant member sensor found, fun inService => ?_⟩
  cases sound.boundary done participant member sensor found inService with
  | inl lower => exact lower
  | inr pending => exact absurd pending.1 inactive

/-- A device that is still to be reset takes no readings. -/
theorem closed (sound : operation.Sound device?) (active : operation.Active) {participant : DataResetParticipant}
    (member : participant ∈ operation.participants) (unsettled : operation.Committed → ¬ participant.Settled)
    {sensor : Sensor} (found : sensor ∈ device? participant.deviceId) : ¬ (sensor.GateOpen ∧ sensor.InService) := by
  by_cases done : operation.Committed
  · exact fun passes => sound.gated done active participant member (unsettled done) sensor found passes.1
  · exact sound.shut active done participant member sensor found

/-- Soundness survives where the devices of an active operation are untouched. -/
theorem untouched (sound : operation.Sound device?)
    (same : ∀ participant ∈ operation.participants, ∀ sensor ∈ after participant.deviceId,
      ∃ old ∈ device? participant.deviceId, old.Unmoved sensor) : operation.Sound after := by
  refine ⟨sound.phase, ?_, ?_, ?_, ?_, ?_, ?_, ?_, sound.limited⟩
  · intro active fresh participant member sensor found
    obtain ⟨old, oldFound, unmoved⟩ := same participant member sensor found
    rw [unmoved.dataGeneration]
    exact sound.before active fresh participant member old oldFound
  · intro active done participant member sensor found
    obtain ⟨old, oldFound, unmoved⟩ := same participant member sensor found
    rw [unmoved.dataGeneration]
    exact sound.during active done participant member old oldFound
  · intro done participant member sensor found
    obtain ⟨old, oldFound, unmoved⟩ := same participant member sensor found
    rw [unmoved.dataGeneration]
    exact sound.after done participant member old oldFound
  · intro done participant member sensor found inService
    obtain ⟨old, oldFound, unmoved⟩ := same participant member sensor found
    rw [unmoved.resetBoundary]
    exact sound.boundary done participant member old oldFound (unmoved.inService inService)
  · intro done active participant member unsettled sensor found
    obtain ⟨old, oldFound, unmoved⟩ := same participant member sensor found
    rw [unmoved.gateOpen]
    exact sound.gated done active participant member unsettled old oldFound
  · intro active fresh participant member sensor found passes
    obtain ⟨old, oldFound, unmoved⟩ := same participant member sensor found
    exact sound.shut active fresh participant member old oldFound
      ⟨unmoved.gateOpen.mp passes.1, unmoved.inService passes.2⟩
  · intro active participant member unsettled sensor found
    obtain ⟨old, oldFound, unmoved⟩ := same participant member sensor found
    exact unmoved.under _ (sound.closed active member unsettled oldFound)
      (sound.under active participant member unsettled old oldFound)

/-- A finished operation stays sound while its devices stay above it. -/
theorem finished (sound : operation.Sound device?) (inactive : ¬ operation.Active)
    (stays : operation.Committed → operation.Below after) : operation.Sound after where
  phase := sound.phase
  before active := absurd active inactive
  during active := absurd active inactive
  after done participant member sensor found := (stays done participant member sensor found).1
  boundary done participant member sensor found inService :=
    .inl ((stays done participant member sensor found).2 inService)
  gated _ active := absurd active inactive
  shut active := absurd active inactive
  under active := absurd active inactive
  limited := sound.limited

end DataResetOperation.Sound

/-- An update of the device rows that keeps them and does not lower a generation. -/
structure Raises (device? : String → Option Sensor) (update : String → Sensor → Sensor) : Prop where
  keeps : ∀ id sensor, device? id = some sensor → sensor.Keeps (update id sensor)
  generation : ∀ id sensor, device? id = some sensor → sensor.dataGeneration ≤ (update id sensor).dataGeneration

theorem DataResetOperation.Below.raised {operation : DataResetOperation} {device? : String → Option Sensor}
    {update : String → Sensor → Sensor} (below : operation.Below device?) (raises : Raises device? update) :
    operation.Below fun id => (device? id).map (update id) := by
  intro participant member sensor found
  obtain ⟨old, oldFound, rfl⟩ := Option.map_eq_some_iff.mp found
  have lower := below participant member old oldFound
  have kept := raises.keeps _ old oldFound
  refine ⟨lower.1.trans (raises.generation _ old oldFound), fun inService => ?_⟩
  exact (lower.2 (kept.inService.mp inService)).trans kept.boundary

end PowerMonitor.DataReset
