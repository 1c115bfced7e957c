import PowerMonitor.DataReset.Invariant

/-! Steps of the worker and of administrators keep the invariant.

Each of them lets one active operation act on its own row and on the devices of its
participants. That no other active operation shares those devices is the invariant's
own doing, so the rest of the database is dealt with once.
-/

set_option autoImplicit false
namespace PowerMonitor.DataReset
open Ingestion Library

/-! ## One operation acts -/

/-- An active operation acts on itself and on the devices of its participants. -/
structure Acts (db : Database) (operation after : DataResetOperation) (update : String → Sensor → Sensor) : Prop where
  member : operation ∈ db.operations
  active : operation.Active
  evolves : operation.Evolves after
  raises : Raises db.device? update
  others : ∀ id sensor, db.device? id = some sensor →
    (∀ participant ∈ operation.participants, participant.deviceId ≠ id) → sensor.Unmoved (update id sensor)
  sound : after.Sound fun id => (db.device? id).map (update id)

/-- The rows of `after` are those of `before` with the operation and the devices replaced. -/
structure Writes (before after : Database) (operation : DataResetOperation) (update : String → Sensor → Sensor) :
    Prop where
  devices : after.devices = (before.updateDevices update).devices
  operations : after.operations = (before.setOperation operation).operations
  sites : ∀ siteId, before.siteGeneration siteId ≤ after.siteGeneration siteId

namespace Writes
variable {before after : Database} {operation : DataResetOperation} {update : String → Sensor → Sensor}

theorem device? (writes : Writes before after operation update) (id : String) :
    after.device? id = (before.device? id).map (update id) := by
  rw [Database.device?, writes.devices]
  exact Database.device?_updateDevices

theorem mem (writes : Writes before after operation update) {other : DataResetOperation}
    (member : other ∈ after.operations) : other = operation ∨ (other ∈ before.operations ∧ other.id ≠ operation.id) := by
  rw [writes.operations] at member
  exact Database.mem_setOperation member

end Writes

namespace Acts
variable {db next : Database} {operation after : DataResetOperation} {update : String → Sensor → Sensor}

/-- The other operations stay sound: an active one is at another site, a finished one only needs its
devices to stay above it. -/
theorem other_sound (inv : Invariant db) (acts : Acts db operation after update) {other : DataResetOperation}
    (member : other ∈ db.operations) (differs : other.id ≠ operation.id) :
    other.Sound fun id => (db.device? id).map (update id) := by
  by_cases active : other.Active
  · refine (inv.sound other member).untouched fun participant inside sensor found => ?_
    obtain ⟨old, oldFound, rfl⟩ := Option.map_eq_some_iff.mp found
    refine ⟨old, oldFound, acts.others _ old oldFound fun own ownMember same => ?_⟩
    obtain ⟨here, hereFound, hereSite⟩ := inv.located other member participant inside
    obtain ⟨there, thereFound, thereSite⟩ := inv.located operation acts.member own ownMember
    rw [same] at thereFound
    obtain rfl := Option.some.inj (hereFound.symm.trans thereFound)
    exact differs (congrArg DataResetOperation.id
      (inv.exclusive other member operation acts.member active acts.active (hereSite.unique thereSite)))
  · exact (inv.sound other member).finished active fun done =>
      ((inv.sound other member).below active done).raised acts.raises

theorem invariant (inv : Invariant db) (acts : Acts db operation after update)
    (writes : Writes db next after update) : Invariant next where
  devices := by
    rw [writes.devices, Database.keys_updateDevices]
    exact inv.devices
  operations := by
    rw [writes.operations, Database.ids_setOperation]
    exact inv.operations
  participants := by
    intro other member
    cases writes.mem member with
    | inl own =>
        rw [own, acts.evolves.deviceIds]
        exact inv.participants operation acts.member
    | inr old => exact inv.participants other old.1
  rows := by
    intro id sensor found
    rw [writes.device? id] at found
    obtain ⟨old, oldFound, rfl⟩ := Option.map_eq_some_iff.mp found
    exact (acts.raises.keeps id old oldFound).rows (inv.rows id old oldFound)
  located := by
    intro other member participant inside
    have place : ∃ sensor, db.device? participant.deviceId = some sensor ∧ sensor.InSite other.siteId := by
      cases writes.mem member with
      | inl own =>
          rw [own] at inside ⊢
          obtain ⟨earlier, earlierMember, step⟩ := forall₂_exists_left acts.evolves.participants inside
          rw [step.deviceId, acts.evolves.siteId]
          exact inv.located operation acts.member earlier earlierMember
      | inr old => exact inv.located other old.1 participant inside
    obtain ⟨sensor, found, site⟩ := place
    refine ⟨update participant.deviceId sensor, ?_, ?_⟩
    · rw [writes.device?, found]
      rfl
    · exact ((acts.raises.keeps _ sensor found).inSite other.siteId).mpr site
  exclusive := by
    -- The site of the operation was its own before, so no other active operation is there now.
    have alone : ∀ other ∈ db.operations, other.id ≠ after.id → other.Active → other.siteId ≠ after.siteId := by
      intro other member differs active same
      rw [acts.evolves.siteId] at same
      apply differs
      rw [inv.exclusive other member operation acts.member active acts.active same, acts.evolves.id]
    intro first firstMember second secondMember firstActive secondActive same
    cases writes.mem firstMember with
    | inl firstOwn =>
        cases writes.mem secondMember with
        | inl secondOwn => rw [firstOwn, secondOwn]
        | inr secondOld =>
            rw [firstOwn] at same
            exact absurd same.symm (alone second secondOld.1 secondOld.2 secondActive)
    | inr firstOld =>
        cases writes.mem secondMember with
        | inl secondOwn =>
            rw [secondOwn] at same
            exact absurd same (alone first firstOld.1 firstOld.2 firstActive)
        | inr secondOld =>
            exact inv.exclusive first firstOld.1 second secondOld.1 firstActive secondActive same
  sound := by
    intro other member
    rw [show next.device? = fun id => (db.device? id).map (update id) from funext writes.device?]
    cases writes.mem member with
    | inl own => exact own ▸ acts.sound
    | inr old => exact acts.other_sound inv old.1 (acts.evolves.id ▸ old.2)

theorem advances (inv : Invariant db) (acts : Acts db operation after update)
    (writes : Writes db next after update) : Advances db next where
  devices := by
    intro id sensor found
    refine ⟨update id sensor, ?_, acts.raises.generation id sensor found, (acts.raises.keeps id sensor found).boundary⟩
    rw [writes.device?, found]
    rfl
  operations := by
    intro old member
    by_cases own : old.id = after.id
    · have same : old = operation := inv.eq_of_id member acts.member (own.trans acts.evolves.id)
      refine ⟨after, ?_, same ▸ acts.evolves⟩
      rw [writes.operations]
      exact List.mem_map.mpr ⟨old, member, if_pos own⟩
    · refine ⟨old, ?_, .refl old⟩
      rw [writes.operations]
      exact List.mem_map.mpr ⟨old, member, if_neg own⟩
  readings := by
    intro id sensor found raw member
    rw [writes.device?] at found
    obtain ⟨old, oldFound, rfl⟩ := Option.map_eq_some_iff.mp found
    exact ⟨old, oldFound, .inl ((acts.raises.keeps id old oldFound).readings raw member)⟩
  sites := writes.sites

end Acts

/-- The invariant holds after a step and the step takes nothing back. -/
structure Preserved (before after : Database) : Prop where
  invariant : Invariant after
  advances : Advances before after

theorem Preserved.refl {db : Database} (inv : Invariant db) : Preserved db db := ⟨inv, .refl db⟩

theorem Acts.preserved {db next : Database} {operation after : DataResetOperation}
    {update : String → Sensor → Sensor} (inv : Invariant db) (acts : Acts db operation after update)
    (writes : Writes db next after update) : Preserved db next :=
  ⟨acts.invariant inv writes, acts.advances inv writes⟩

/-! ## Operation rows -/

theorem updateDevices_id (db : Database) : db.updateDevices (fun _ sensor => sensor) = db := by
  simp [Database.updateDevices]

/-- What an operation without a central commit promises of a participant's device: its generation is
still to come, no reading gets in, and everything known lies below the boundary. -/
structure Awaits (operation : DataResetOperation) (participant : DataResetParticipant) (sensor : Sensor) : Prop where
  before : sensor.dataGeneration < operation.resetGeneration
  shut : ¬ (sensor.GateOpen ∧ sensor.InService)
  under : sensor.Under participant.resetBoundary

theorem DataResetOperation.Sound.of_uncommitted {operation : DataResetOperation} {device? : String → Option Sensor}
    (fresh : ¬ operation.Committed) (limited : ∀ participant ∈ operation.participants, participant.Limited)
    (awaits : operation.Active → ∀ participant ∈ operation.participants,
      ∀ sensor ∈ device? participant.deviceId, Awaits operation participant sensor) :
    operation.Sound device? where
  phase done := absurd done fresh
  before active _ participant member sensor found := (awaits active participant member sensor found).before
  during _ done := absurd done fresh
  after done := absurd done fresh
  boundary done := absurd done fresh
  gated done := absurd done fresh
  shut active _ participant member sensor found := (awaits active participant member sensor found).shut
  under active participant member _ sensor found := (awaits active participant member sensor found).under
  limited := limited

theorem DataResetOperation.Sound.awaits {operation : DataResetOperation} {device? : String → Option Sensor}
    (sound : operation.Sound device?) (active : operation.Active) (fresh : ¬ operation.Committed)
    {participant : DataResetParticipant} (member : participant ∈ operation.participants) {sensor : Sensor}
    (found : sensor ∈ device? participant.deviceId) : Awaits operation participant sensor where
  before := sound.before active fresh participant member sensor found
  shut := sound.shut active fresh participant member sensor found
  under := sound.under active participant member (fun done => absurd done fresh) sensor found

section Rows
variable {db : Database} {operation after : DataResetOperation}

/-- A change of the state column alone. An operation ends only with every participant settled, once it
has committed centrally. -/
structure Relabels (operation after : DataResetOperation) : Prop where
  id : after.id = operation.id
  siteId : after.siteId = operation.siteId
  resetGeneration : after.resetGeneration = operation.resetGeneration
  centralCommitAt : after.centralCommitAt = operation.centralCommitAt
  participants : after.participants = operation.participants
  phase : operation.Committed → after.state.afterCommit = true ∧ after.cancelRequested = false
  ends : ¬ after.Active → operation.Committed → ∀ participant ∈ operation.participants, participant.Settled

theorem Relabels.committed (relabels : Relabels operation after) : after.Committed ↔ operation.Committed := by
  rw [DataResetOperation.Committed, relabels.centralCommitAt, DataResetOperation.Committed]

theorem Relabels.sound (relabels : Relabels operation after) (active : operation.Active)
    {device? : String → Option Sensor} (sound : operation.Sound device?) : after.Sound device? := by
  have committed := relabels.committed
  constructor
  · exact fun done => relabels.phase (committed.mp done)
  · rw [relabels.participants, relabels.resetGeneration]
    exact fun _ fresh => sound.before active fun done => fresh (committed.mpr done)
  · rw [relabels.participants, relabels.resetGeneration]
    exact fun _ done => sound.during active (committed.mp done)
  · rw [relabels.participants, relabels.resetGeneration]
    exact fun done => sound.after (committed.mp done)
  · rw [relabels.participants]
    intro done participant member sensor found inService
    have held := sound.boundary (committed.mp done) participant member sensor found inService
    by_cases still : after.Active
    · exact held.imp_right fun pending => ⟨still, pending.2⟩
    · exact .inl (held.resolve_right fun pending =>
        pending.2 (relabels.ends still (committed.mp done) participant member))
  · rw [relabels.participants]
    exact fun done _ => sound.gated (committed.mp done) active
  · rw [relabels.participants]
    exact fun _ fresh => sound.shut active fun done => fresh (committed.mpr done)
  · rw [relabels.participants]
    exact fun _ participant member unsettled =>
      sound.under active participant member fun done => unsettled (committed.mpr done)
  · rw [relabels.participants]
    exact sound.limited

theorem Relabels.preserved (relabels : Relabels operation after) (inv : Invariant db)
    (member : operation ∈ db.operations) (active : operation.Active) : Preserved db (db.setOperation after) := by
  have evolves : operation.Evolves after := by
    refine ⟨relabels.id, relabels.siteId, relabels.resetGeneration, relabels.committed.mpr, ?_⟩
    rw [relabels.participants]
    exact (DataResetOperation.Evolves.refl operation).participants
  have acts : Acts db operation after fun _ sensor => sensor := by
    refine ⟨member, active, evolves, ⟨fun _ sensor _ => .refl sensor, fun _ _ _ => le_rfl⟩,
      fun _ sensor _ _ => .refl sensor, ?_⟩
    simp only [Option.map_id']
    exact relabels.sound active (inv.sound operation member)
  exact acts.preserved inv ⟨by rw [updateDevices_id]; rfl, rfl, fun _ => le_rfl⟩

end Rows
end PowerMonitor.DataReset
