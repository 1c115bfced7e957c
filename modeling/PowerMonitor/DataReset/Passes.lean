import PowerMonitor.DataReset.WorkerSteps

/-! The steps of a worker pass that write device rows: the exchanges with sensors, the central
commit, and the end of a cancelled operation. -/

set_option autoImplicit false
namespace PowerMonitor.DataReset
open Ingestion Library

/-! ## One participant among the others -/

namespace DataResetOperation
variable {operation : DataResetOperation} {participant : DataResetParticipant}

theorem mem_setParticipant {new : DataResetParticipant}
    (member : participant ∈ (operation.setParticipant new).participants) :
    participant = new ∨ (participant ∈ operation.participants ∧ participant.deviceId ≠ new.deviceId) := by
  obtain ⟨old, inside, rfl⟩ := List.mem_map.mp member
  by_cases same : old.deviceId = new.deviceId
  · exact .inl (if_pos same)
  · rw [if_neg same]
    exact .inr ⟨inside, same⟩

theorem find_participant (unique : (operation.participants.map DataResetParticipant.deviceId).Nodup)
    (member : participant ∈ operation.participants) :
    operation.participants.find? (fun other => other.deviceId = participant.deviceId) = some participant := by
  cases found : operation.participants.find? fun other => other.deviceId = participant.deviceId with
  | none =>
      have missing := List.find?_eq_none.mp found participant member
      simp at missing
  | some other =>
      have same : other.deviceId = participant.deviceId := by simpa using List.find?_some found
      rw [List.inj_on_of_nodup_map unique (List.mem_of_find?_eq_some found) member same]

theorem find_none {id : String} (missing : ∀ other ∈ operation.participants, other.deviceId ≠ id) :
    operation.participants.find? (fun other => other.deviceId = id) = none := by
  rw [List.find?_eq_none]
  intro other member
  simpa using missing other member

/-- Replacing a participant by what has become of it evolves the operation. -/
theorem setParticipant_evolves (unique : (operation.participants.map DataResetParticipant.deviceId).Nodup)
    (member : participant ∈ operation.participants) {new : DataResetParticipant} (evolves : participant.Evolves new) :
    operation.Evolves (operation.setParticipant new) := by
  refine ⟨rfl, rfl, rfl, fun done => done, ?_⟩
  rw [setParticipant, List.forall₂_map_right_iff, List.forall₂_same]
  intro old inside
  split
  · next same =>
      rw [List.inj_on_of_nodup_map unique inside member (same.trans evolves.deviceId)]
      exact evolves
  · exact .refl old

end DataResetOperation

/-! ## Exchanges -/

section Exchange
variable {db : Database} {operation : DataResetOperation} {participant : DataResetParticipant} {sensor : Sensor}
  {outcome : DataResetParticipant × Sensor}

/-- The device rows an exchange leaves. -/
def Recorded (deviceId : String) (after : Sensor) (id : String) (sensor : Sensor) : Sensor :=
  if id = deviceId then after else sensor

/-- The generation of a participant's device is never past that of its operation. -/
theorem Invariant.generation_le (inv : Invariant db) (member : operation ∈ db.operations) (active : operation.Active)
    (inside : participant ∈ operation.participants) (found : db.device? participant.deviceId = some sensor) :
    sensor.dataGeneration ≤ operation.resetGeneration := by
  have sound := inv.sound operation member
  by_cases done : operation.Committed
  · exact (sound.during active done participant inside sensor found).le
  · exact (sound.before active done participant inside sensor found).le

/-- A participant and a device row after an exchange are those it wrote, or an old pair. -/
theorem recorded_pairs (named : outcome.1.deviceId = participant.deviceId) {device? : String → Option Sensor}
    {other : DataResetParticipant} {row : Sensor}
    (member : other ∈ (operation.setParticipant outcome.1).participants)
    (found : (device? other.deviceId).map (Recorded participant.deviceId outcome.2 other.deviceId) = some row) :
    (other = outcome.1 ∧ row = outcome.2) ∨
      (other ∈ operation.participants ∧ device? other.deviceId = some row) := by
  obtain ⟨old, oldFound, rfl⟩ := Option.map_eq_some_iff.mp found
  cases DataResetOperation.mem_setParticipant member with
  | inl own =>
      refine .inl ⟨own, ?_⟩
      rw [Recorded, if_pos (own ▸ named)]
  | inr elsewhere =>
      refine .inr ⟨elsewhere.1, ?_⟩
      rw [Recorded, if_neg fun same => elsewhere.2 (same.trans named.symm)]
      exact oldFound

theorem setParticipant_limited (inv : Invariant db) (member : operation ∈ db.operations)
    (inside : participant ∈ operation.participants) (evolves : participant.Evolves outcome.1) :
    ∀ other ∈ (operation.setParticipant outcome.1).participants, other.Limited := by
  intro other otherMember
  have sound := inv.sound operation member
  cases DataResetOperation.mem_setParticipant otherMember with
  | inl own => exact own ▸ evolves.limited (sound.limited participant inside)
  | inr elsewhere => exact sound.limited other elsewhere.1

/-- Before the central commit an exchange changes no generation and opens no gate of a device in service. -/
theorem exchange_sound_uncommitted (inv : Invariant db) (member : operation ∈ db.operations)
    (active : operation.Active) (fresh : ¬ operation.Committed) (inside : participant ∈ operation.participants)
    (found : db.device? participant.deviceId = some sensor) (acted : Outcome operation participant sensor outcome)
    (generation : outcome.2.dataGeneration = sensor.dataGeneration)
    (released : outcome.1.Settled → ¬ sensor.InService) :
    (operation.setParticipant outcome.1).Sound fun id =>
      (db.device? id).map (Recorded participant.deviceId outcome.2 id) := by
  have sound := inv.sound operation member
  have awaits := sound.awaits active fresh inside found
  have still : ¬ (operation.setParticipant outcome.1).Committed := fresh
  apply DataResetOperation.Sound.of_uncommitted still (setParticipant_limited inv member inside acted.evolves)
  intro _ other otherMember row rowFound
  rcases recorded_pairs acted.evolves.deviceId otherMember rowFound with ⟨rfl, rfl⟩ | ⟨old, oldFound⟩
  · refine ⟨?_, fun passes => ?_, acted.under awaits.under⟩
    · rw [generation]
      exact awaits.before
    · have inService := acted.keeps.inService.mp passes.2
      have closed : ¬ sensor.GateOpen := fun opened => awaits.shut ⟨opened, inService⟩
      exact acted.gated (fun settled => released settled inService) closed passes.1
  · have kept := sound.awaits active fresh old oldFound
    exact ⟨kept.before, kept.shut, kept.under⟩

/-- After the central commit an exchange either leaves the participant to be reset behind a closed
gate or settles it at its boundary. -/
theorem exchange_sound_committed (inv : Invariant db) (member : operation ∈ db.operations) (active : operation.Active)
    (done : operation.Committed) (inside : participant ∈ operation.participants) (unsettled : ¬ participant.Settled)
    (found : db.device? participant.deviceId = some sensor) (acted : Outcome operation participant sensor outcome) :
    (operation.setParticipant outcome.1).Sound fun id =>
      (db.device? id).map (Recorded participant.deviceId outcome.2 id) := by
  have sound := inv.sound operation member
  have named := acted.evolves.deviceId
  have moved : outcome.2.dataGeneration = operation.resetGeneration :=
    acted.generation.elim (fun same => same.trans (sound.during active done participant inside sensor found)) id
  have during : ∀ other ∈ (operation.setParticipant outcome.1).participants, ∀ row,
      (db.device? other.deviceId).map (Recorded participant.deviceId outcome.2 other.deviceId) = some row →
      row.dataGeneration = operation.resetGeneration := by
    intro other otherMember row rowFound
    rcases recorded_pairs named otherMember rowFound with ⟨rfl, rfl⟩ | ⟨old, oldFound⟩
    · exact moved
    · exact sound.during active done other old row oldFound
  constructor
  · exact sound.phase
  · exact fun _ fresh => absurd done fresh
  · exact fun _ _ other otherMember row rowFound => during other otherMember row rowFound
  · exact fun _ other otherMember row rowFound => (during other otherMember row rowFound).ge
  · intro _ other otherMember row rowFound inService
    rcases recorded_pairs named otherMember rowFound with ⟨rfl, rfl⟩ | ⟨old, oldFound⟩
    · by_cases settled : outcome.1.Settled
      · exact .inl (acted.settled settled (acted.keeps.inService.mp inService))
      · exact .inr ⟨active, settled⟩
    · exact sound.boundary done other old row oldFound inService
  · intro _ _ other otherMember remains row rowFound
    rcases recorded_pairs named otherMember rowFound with ⟨rfl, rfl⟩ | ⟨old, oldFound⟩
    · exact acted.gated remains (sound.gated done active participant inside unsettled sensor found)
    · exact sound.gated done active other old remains row oldFound
  · exact fun _ fresh => absurd done fresh
  · intro _ other otherMember remains row rowFound
    rcases recorded_pairs named otherMember rowFound with ⟨rfl, rfl⟩ | ⟨old, oldFound⟩
    · exact acted.under (sound.under active participant inside (fun _ => unsettled) sensor found)
    · exact sound.under active other old remains row oldFound
  · exact setParticipant_limited inv member inside acted.evolves

theorem record_preserved (inv : Invariant db) (member : operation ∈ db.operations) (active : operation.Active)
    (inside : participant ∈ operation.participants) (found : db.device? participant.deviceId = some sensor)
    (acted : Outcome operation participant sensor outcome)
    (sound : (operation.setParticipant outcome.1).Sound fun id =>
      (db.device? id).map (Recorded participant.deviceId outcome.2 id)) :
    Preserved db (db.record operation participant.deviceId outcome) := by
  have evolves := DataResetOperation.setParticipant_evolves (inv.participants operation member) inside acted.evolves
  have ceiling := inv.generation_le member active inside found
  have raised : sensor.dataGeneration ≤ outcome.2.dataGeneration := by
    cases acted.generation with
    | inl same => exact same.ge
    | inr same => exact ceiling.trans same.ge
  have acts : Acts db operation (operation.setParticipant outcome.1)
      (Recorded participant.deviceId outcome.2) := by
    refine ⟨member, active, evolves, ⟨fun id row rowFound => ?_, fun id row rowFound => ?_⟩,
      fun id row _ outside => ?_, sound⟩
    · rw [Recorded]
      split
      · next own =>
          rw [own, found] at rowFound
          exact Option.some.inj rowFound ▸ acted.keeps
      · exact .refl row
    · rw [Recorded]
      split
      · next own =>
          rw [own, found] at rowFound
          exact Option.some.inj rowFound ▸ raised
      · exact le_rfl
    · rw [Recorded, if_neg (outside participant inside).symm]
      exact .refl row
  exact acts.preserved inv ⟨rfl, rfl, fun _ => le_rfl⟩

theorem Database.exchange_preserved (inv : Invariant db) {deviceId : String} {skips : DataResetParticipant → Prop}
    [DecidablePred skips] {act : DataResetParticipant → Sensor → DataResetParticipant × Sensor}
    (each : ∀ participant ∈ operation.participants, ¬ skips participant → ∀ sensor,
      db.device? participant.deviceId = some sensor →
      Preserved db (db.record operation participant.deviceId (act participant sensor))) :
    Preserved db (db.exchange operation deviceId skips act) := by
  rw [Database.exchange]
  split
  · next participant sensor chosen found =>
      have named : participant.deviceId = deviceId := by simpa using List.find?_some chosen
      split
      · exact .refl inv
      · next proceeds =>
          rw [← named] at found ⊢
          exact each participant (List.mem_of_find?_eq_some chosen) proceeds sensor found
  · exact .refl inv

end Exchange

section Exchanges
variable {Digest : Type} [DecidableEq Digest] {canonicalSha256 : Canonical → Digest}
variable {db : Database} {operation : DataResetOperation}

theorem prepareSensor_preserved (inv : Invariant db) (member : operation ∈ db.operations)
    (preparing : Preparing operation) (deviceId : String) (now : Int) (exchange : Exchange Digest) :
    Preserved db (db.exchange operation deviceId
      (fun participant => participant.state = .prepared ∨ participant.state = .notApplicable)
      fun participant sensor => prepareOne canonicalSha256 now operation participant sensor exchange) := by
  apply Database.exchange_preserved inv
  intro participant inside _ sensor found
  have fresh := inv.uncommitted member preparing.early
  obtain ⟨acted, generation, released⟩ :=
    prepareOne_outcome now operation participant sensor canonicalSha256 exchange
  exact record_preserved inv member preparing.active inside found acted
    (exchange_sound_uncommitted inv member preparing.active fresh inside found acted generation released)

theorem commitSensor_preserved (inv : Invariant db) (member : operation ∈ db.operations)
    (committing : Committing operation) (deviceId : String) (now : Int) (prepare commit : Exchange Digest) :
    Preserved db (db.exchange operation deviceId DataResetParticipant.Settled
      fun participant sensor => commitOne canonicalSha256 now operation participant sensor prepare commit) := by
  apply Database.exchange_preserved inv
  intro participant inside unsettled sensor found
  have acted := commitOne_outcome now operation participant sensor canonicalSha256 unsettled prepare commit
  exact record_preserved inv member committing.active inside found acted
    (exchange_sound_committed inv member committing.active committing.1 inside unsettled found acted)

end Exchanges

/-! ## The central commit -/

section CentralCommit
variable {db : Database} {operation : DataResetOperation} {now : Int}

theorem CentralReady.active (ready : CentralReady operation) : operation.Active := by
  cases ready.1 with
  | inl state => rw [DataResetOperation.Active, state]; rfl
  | inr state => rw [DataResetOperation.Active, state]; rfl

/-- The device rows the central commit leaves. -/
def Advanced (now : Int) (operation : DataResetOperation) (id : String) (sensor : Sensor) : Sensor :=
  let deleted := sensor.deleteMeasurements operation.siteId operation.resetTimestamp
  match operation.participants.find? fun participant => participant.deviceId = id with
  | some participant => deleted.advance now operation participant
  | none => deleted

theorem deleteMeasurements_keeps (siteId : String) (resetAt : Int) (sensor : Sensor) :
    sensor.Keeps (sensor.deleteMeasurements siteId resetAt) where
  device := rfl
  revoked := rfl
  lifecycle := rfl
  rows row := row
  boundary := le_rfl
  readings _ member := List.mem_of_mem_filter member

theorem deleteMeasurements_unmoved (siteId : String) (resetAt : Int) (sensor : Sensor) :
    sensor.Unmoved (sensor.deleteMeasurements siteId resetAt) where
  device := rfl
  dataState := rfl
  inService := id
  under _ _ held := ⟨held.highest, held.maximum, held.cursor, held.state,
    fun raw member => held.stored raw (List.mem_of_mem_filter member)⟩

section Advance
variable (participant : DataResetParticipant) (sensor : Sensor)

theorem advance_keeps : sensor.Keeps (sensor.advance now operation participant) := by
  have raised : sensor.Keeps (sensor.updateState fun row =>
      { row with dataGeneration := operation.resetGeneration
                 resetBoundary := max row.resetBoundary participant.resetBoundary }) :=
    Sensor.keeps_updateState fun row => le_max_left _ _
  unfold Sensor.advance
  dsimp only
  split
  · have kept := raised.trans Sensor.keeps_openGate
    exact ⟨kept.device, kept.revoked, kept.lifecycle, kept.rows, kept.boundary, kept.readings⟩
  · have kept := raised.trans (Sensor.keeps_setGate (if participant.state = .prepared then .committing
      else .pendingReconnect) (decide (participant.state ≠ .prepared)))
    exact ⟨kept.device, kept.revoked, kept.lifecycle, kept.rows, kept.boundary, kept.readings⟩

/-- The device enters the generation of the operation at or above the participant's boundary. -/
theorem advance_state (row : sensor.store.dataState.isSome = true) :
    (sensor.advance now operation participant).dataGeneration = operation.resetGeneration ∧
    participant.resetBoundary ≤ (sensor.advance now operation participant).resetBoundary := by
  obtain ⟨row, state⟩ := Option.isSome_iff_exists.mp row
  unfold Sensor.advance
  dsimp only
  split <;> simp [Sensor.dataGeneration, Sensor.resetBoundary, Sensor.openGate, Sensor.setGate, Sensor.updateState, state]

theorem advance_closed (row : sensor.store.dataState.isSome = true) (applicable : participant.state ≠ .notApplicable) :
    ¬ (sensor.advance now operation participant).GateOpen := by
  unfold Sensor.advance
  dsimp only
  rw [if_neg applicable]
  apply Sensor.closed_setGate
  · simpa [Sensor.updateState] using row
  · by_cases prepared : participant.state = .prepared
    · exact .inl (by simp [prepared])
    · exact .inr (by simp [prepared])

theorem advance_under (under : sensor.Under participant.resetBoundary) :
    (sensor.advance now operation participant).Under participant.resetBoundary := by
  have highest := under.highest
  have maximum := under.maximum
  have cursor := under.cursor
  have state := under.state
  unfold Sensor.advance
  dsimp only
  constructor
  · cases row : sensor.store.cursor <;> simp_all [DeviceStore.highestContiguous]
  · cases row : sensor.store.cursor <;> simp_all [DeviceStore.maximumSeen]
  · cases row : sensor.store.cursor <;> simp_all [DeviceStore.cursorBoundary]
  · cases row : sensor.store.dataState <;> split <;>
      simp_all [Sensor.resetBoundary, Sensor.openGate, Sensor.setGate, Sensor.updateState]
  · split <;> exact under.stored

end Advance

/-- What the operation row becomes at the central commit. -/
structure Commits (operation after : DataResetOperation) : Prop where
  id : after.id = operation.id
  siteId : after.siteId = operation.siteId
  resetGeneration : after.resetGeneration = operation.resetGeneration
  participants : after.participants = operation.participants
  committed : after.Committed
  active : after.Active
  phase : after.state.afterCommit = true ∧ after.cancelRequested = false

/-- Artifacts that are still to be purged do not undo the commit. -/
theorem CentralReady.commits (ready : CentralReady operation) (now : Int) (purge : Purge) :
    Commits operation
      (purge.row { operation with state := .databaseResetCommitted, centralCommitAt := some now }) := by
  cases purge <;> exact ⟨rfl, rfl, rfl, rfl, rfl, rfl, rfl, ready.2.1⟩

theorem advanced_participant (inv : Invariant db) (member : operation ∈ db.operations)
    {participant : DataResetParticipant} (inside : participant ∈ operation.participants) (sensor : Sensor) :
    Advanced now operation participant.deviceId sensor =
      (sensor.deleteMeasurements operation.siteId operation.resetTimestamp).advance now operation participant := by
  rw [Advanced, DataResetOperation.find_participant (inv.participants operation member) inside]

theorem advanced_keeps (id : String) (sensor : Sensor) : sensor.Keeps (Advanced now operation id sensor) := by
  have deleted := deleteMeasurements_keeps operation.siteId operation.resetTimestamp sensor
  unfold Advanced
  dsimp only
  split
  · exact deleted.trans (advance_keeps _ _)
  · exact deleted

/-- Every participant is in the new generation, at or above its boundary, behind a closed gate unless
it needs no reset. -/
theorem commitCentrally_acts (inv : Invariant db) (member : operation ∈ db.operations) (active : operation.Active)
    (fresh : ¬ operation.Committed) {after : DataResetOperation} (commits : Commits operation after) :
    Acts db operation after (Advanced now operation) := by
  have sound := inv.sound operation member
  have row : ∀ id sensor, db.device? id = some sensor →
      (sensor.deleteMeasurements operation.siteId operation.resetTimestamp).store.dataState.isSome = true :=
    fun id sensor found => inv.rows id sensor found
  have moved : ∀ participant ∈ operation.participants, ∀ sensor,
      (db.device? participant.deviceId).map (Advanced now operation participant.deviceId) = some sensor →
      ∃ old, db.device? participant.deviceId = some old ∧ sensor =
        (old.deleteMeasurements operation.siteId operation.resetTimestamp).advance now operation participant := by
    intro participant inside sensor found
    obtain ⟨old, oldFound, rfl⟩ := Option.map_eq_some_iff.mp found
    exact ⟨old, oldFound, advanced_participant inv member inside old⟩
  refine ⟨member, active, ?_, ⟨fun id sensor _ => advanced_keeps id sensor, fun id sensor found => ?_⟩,
    fun id sensor _ outside => ?_, ?_⟩
  · refine ⟨commits.id, commits.siteId, commits.resetGeneration, fun _ => commits.committed, ?_⟩
    rw [commits.participants]
    exact (DataResetOperation.Evolves.refl operation).participants
  · unfold Advanced
    dsimp only
    split
    · next participant chosen =>
        have named : participant.deviceId = id := by simpa using List.find?_some chosen
        have inside := List.mem_of_find?_eq_some chosen
        rw [(advance_state _ _ (row id sensor found)).1]
        exact (sound.before active fresh participant inside sensor (named ▸ found)).le
    · exact le_rfl
  · rw [Advanced, DataResetOperation.find_none outside]
    exact deleteMeasurements_unmoved _ _ sensor
  · rw [DataResetOperation.Active] at active
    constructor
    · exact fun _ => commits.phase
    · exact fun _ undone => absurd commits.committed undone
    · rw [commits.participants, commits.resetGeneration]
      intro _ _ participant inside sensor found
      obtain ⟨old, oldFound, rfl⟩ := moved participant inside sensor found
      exact (advance_state _ _ (row _ old oldFound)).1
    · rw [commits.participants, commits.resetGeneration]
      intro _ participant inside sensor found
      obtain ⟨old, oldFound, rfl⟩ := moved participant inside sensor found
      exact (advance_state _ _ (row _ old oldFound)).1.ge
    · rw [commits.participants]
      intro _ participant inside sensor found _
      obtain ⟨old, oldFound, rfl⟩ := moved participant inside sensor found
      exact .inl (advance_state _ _ (row _ old oldFound)).2
    · rw [commits.participants]
      intro _ _ participant inside unsettled sensor found
      obtain ⟨old, oldFound, rfl⟩ := moved participant inside sensor found
      exact advance_closed _ _ (row _ old oldFound) fun settled => unsettled (.inr settled)
    · exact fun _ undone => absurd commits.committed undone
    · rw [commits.participants]
      intro _ participant inside _ sensor found
      obtain ⟨old, oldFound, rfl⟩ := moved participant inside sensor found
      have awaits := sound.awaits active fresh inside oldFound
      exact advance_under _ _ ((deleteMeasurements_unmoved _ _ old).under _ awaits.shut awaits.under)
    · rw [commits.participants]
      exact sound.limited

theorem Database.setOperation_twice (db : Database) (first second : DataResetOperation) (same : first.id = second.id) :
    (db.setOperation first).setOperation second = db.setOperation second := by
  unfold Database.setOperation
  congr 1
  rw [List.map_map]
  apply List.map_congr_left
  intro old _
  by_cases own : old.id = first.id
  · simp [Function.comp_apply, own, same]
  · simp [Function.comp_apply, own, same ▸ own]

theorem commitCentrally_devices (db : Database) (now : Int) (operation : DataResetOperation) :
    (db.commitCentrally now operation).devices = (db.updateDevices (Advanced now operation)).devices := by
  unfold Database.commitCentrally Database.updateDevices Database.setOperation
  dsimp only
  rw [List.map_map]
  rfl

theorem commitCentrally_siteGeneration (db : Database) (now : Int) (operation : DataResetOperation) (siteId : String) :
    (db.commitCentrally now operation).siteGeneration siteId =
      if siteId = operation.siteId then operation.resetGeneration else db.siteGeneration siteId := by
  unfold Database.commitCentrally Database.siteGeneration Database.site?
  dsimp only
  rw [lookup_setKey]
  split <;> rfl

theorem performCentralReset_ok {scope : Except ProblemError Unit} {committed : Database}
    (ok : performCentralReset db now operation scope = .ok committed) :
    committed = db.commitCentrally now operation ∧ db.siteGeneration operation.siteId < operation.resetGeneration ∧
    ∀ participant ∈ operation.participants, ReadyForCommit participant := by
  rw [performCentralReset] at ok
  obtain ⟨_, ok⟩ := raiseIf_bind_eq_ok.mp ok
  obtain ⟨_, ok⟩ := raiseIf_bind_eq_ok.mp ok
  obtain ⟨ready, ok⟩ := raiseIf_bind_eq_ok.mp ok
  obtain ⟨_, _, ok⟩ := bind_eq_ok.mp ok
  obtain ⟨newer, ok⟩ := raiseIf_bind_eq_ok.mp ok
  obtain ⟨_, ok⟩ := raiseIf_bind_eq_ok.mp ok
  cases ok
  refine ⟨rfl, not_le.mp newer, ?_⟩
  rw [not_not, List.filter_eq_nil_iff] at ready
  intro participant inside
  simpa using ready participant inside

theorem runCentralReset_preserved (inv : Invariant db) (member : operation ∈ db.operations)
    (ready : CentralReady operation) (scope : Except ProblemError Unit) (purge : Purge) :
    Preserved db (runCentralReset db now scope purge operation) := by
  rw [runCentralReset]
  split
  · exact needsAttention_preserved inv member ready.active _ _
  · next committed ok =>
      obtain ⟨rfl, newer, _⟩ := performCentralReset_ok ok
      have sites : ∀ siteId, db.siteGeneration siteId ≤ (db.commitCentrally now operation).siteGeneration siteId := by
        intro siteId
        rw [commitCentrally_siteGeneration]
        split
        · next here => exact here ▸ newer.le
        · exact le_rfl
      let row : DataResetOperation := { operation with state := .databaseResetCommitted, centralCommitAt := some now }
      -- The row is written twice, and only the second write stays.
      have rows : ((db.commitCentrally now operation).setOperation (purge.row row)).operations =
          (db.setOperation (purge.row row)).operations := by
        have twice := Database.setOperation_twice db row (purge.row row) (ready.commits now purge).id.symm
        rw [← twice]
        rfl
      exact (commitCentrally_acts inv member ready.active ready.2.2 (ready.commits now purge)).preserved inv
        ⟨commitCentrally_devices db now operation, rows, sites⟩

end CentralCommit

/-! ## The end of a cancelled operation -/

section Cancel
variable {db : Database} {operation : DataResetOperation} {now : Int}

theorem cancelParticipant_evolves (answers : CancelAnswers) (participant : DataResetParticipant) :
    participant.Evolves (cancelParticipant answers participant) := by
  rw [cancelParticipant]
  split
  · split <;> exact .same rfl rfl rfl rfl
  · exact .refl participant

theorem cancelOperation_row (operation : DataResetOperation) (now : Int) (answers : CancelAnswers)
    (restored : Except ProblemError Unit) :
    (cancelOperation now operation answers restored).id = operation.id ∧
    (cancelOperation now operation answers restored).siteId = operation.siteId ∧
    (cancelOperation now operation answers restored).resetGeneration = operation.resetGeneration ∧
    (cancelOperation now operation answers restored).centralCommitAt = operation.centralCommitAt ∧
    (cancelOperation now operation answers restored).participants =
      operation.participants.map (cancelParticipant answers) := by
  unfold cancelOperation
  dsimp only
  split
  · exact ⟨rfl, rfl, rfl, rfl, rfl⟩
  · split <;> exact ⟨rfl, rfl, rfl, rfl, rfl⟩

/-- The device rows a cancelled operation leaves. -/
def Released (operation : DataResetOperation) (ended : Prop) [Decidable ended] (id : String) (sensor : Sensor) :
    Sensor :=
  if ended ∧ ∃ participant ∈ operation.participants, participant.deviceId = id then sensor.openGate else sensor

/-- A cancelled operation has not committed, so what it promised of its devices ends with it. -/
theorem runCancel_preserved (inv : Invariant db) (member : operation ∈ db.operations) (active : operation.Active)
    (requested : operation.cancelRequested = true) (answers : CancelAnswers) (restored : Except ProblemError Unit) :
    Preserved db (runCancel db now answers restored operation) := by
  have fresh := inv.uncommitted_of_cancel member requested
  have sound := inv.sound operation member
  obtain ⟨id, siteId, resetGeneration, centralCommitAt, participants⟩ :=
    cancelOperation_row operation now answers restored
  have still : ¬ (cancelOperation now operation answers restored).Committed := by
    rw [DataResetOperation.Committed, centralCommitAt]
    exact fresh
  have evolves : operation.Evolves (cancelOperation now operation answers restored) := by
    refine ⟨id, siteId, resetGeneration, fun done => absurd done fresh, ?_⟩
    rw [participants, List.forall₂_map_right_iff, List.forall₂_same]
    exact fun participant _ => cancelParticipant_evolves answers participant
  have keeps : ∀ id sensor, sensor.Keeps (Released operation
      (¬ (cancelOperation now operation answers restored).Active) id sensor) ∧
      (Released operation (¬ (cancelOperation now operation answers restored).Active) id sensor).dataGeneration =
        sensor.dataGeneration := by
    intro id sensor
    rw [Released]
    split
    · exact ⟨Sensor.keeps_openGate, Sensor.dataGeneration_openGate⟩
    · exact ⟨.refl sensor, rfl⟩
  have acts : Acts db operation (cancelOperation now operation answers restored)
      (Released operation (¬ (cancelOperation now operation answers restored).Active)) := by
    refine ⟨member, active, evolves, ⟨fun id sensor _ => (keeps id sensor).1, fun id sensor _ => (keeps id sensor).2.ge⟩,
      fun id sensor _ outside => ?_, .of_uncommitted still ?_ ?_⟩
    · rw [Released, if_neg fun held => held.2.elim fun participant own => outside participant own.1 own.2]
      exact .refl sensor
    · rw [participants]
      intro participant inside
      obtain ⟨old, oldInside, rfl⟩ := List.mem_map.mp inside
      exact (cancelParticipant_evolves answers old).limited (sound.limited old oldInside)
    · intro remains participant inside sensor found
      rw [participants] at inside
      obtain ⟨old, oldInside, rfl⟩ := List.mem_map.mp inside
      obtain ⟨row, rowFound, rfl⟩ := Option.map_eq_some_iff.mp found
      have evolved := cancelParticipant_evolves answers old
      rw [evolved.deviceId] at rowFound
      have awaits := sound.awaits active fresh oldInside rowFound
      rw [Released, if_neg fun ended => ended.1 remains]
      exact ⟨resetGeneration ▸ awaits.before, awaits.shut, awaits.under.mono evolved.resetBoundary⟩
  apply acts.preserved inv
  unfold runCancel
  dsimp only
  split
  · next remains =>
      refine ⟨?_, rfl, fun _ => le_rfl⟩
      have same : Released operation (¬ (cancelOperation now operation answers restored).Active) =
          fun _ sensor => sensor := by
        funext id sensor
        rw [Released, if_neg fun held => held.1 remains]
      rw [same, updateDevices_id]
      rfl
  · next ended =>
      refine ⟨?_, rfl, fun _ => le_rfl⟩
      simp [Released, ended, Database.releaseAll, Database.updateDevices, Database.setOperation]

end Cancel
end PowerMonitor.DataReset
