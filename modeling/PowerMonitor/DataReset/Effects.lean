import PowerMonitor.DataReset.System
import PowerMonitor.Ingestion.Gate

/-! What one exchange of the worker does to a participant and its device row.

Every exchange keeps the identity of both, never lowers a boundary, and leaves the gate
of a participant that is still to be reset closed.
-/

set_option autoImplicit false
namespace PowerMonitor.DataReset
open Ingestion Library

/-! ## Device rows -/

namespace Sensor
variable {sensor middle other : Sensor} {update : DeviceDataState → DeviceDataState}

/-- What a reset keeps of a device row: where it is, whether it is in service, and everything below
its boundary. It stores no reading. -/
structure Keeps (before after : Sensor) : Prop where
  device : after.store.device = before.store.device
  revoked : after.revoked = before.revoked
  lifecycle : after.lifecycleStatus = before.lifecycleStatus
  rows : before.store.dataState.isSome → after.store.dataState.isSome
  boundary : before.resetBoundary ≤ after.resetBoundary
  readings : ∀ raw ∈ after.store.rawReadings, raw ∈ before.store.rawReadings

theorem Keeps.refl (sensor : Sensor) : Keeps sensor sensor :=
  ⟨rfl, rfl, rfl, fun row => row, le_rfl, fun _ member => member⟩

theorem Keeps.trans (first : Keeps sensor middle) (second : Keeps middle other) : Keeps sensor other where
  device := second.device.trans first.device
  revoked := second.revoked.trans first.revoked
  lifecycle := second.lifecycle.trans first.lifecycle
  rows row := second.rows (first.rows row)
  boundary := first.boundary.trans second.boundary
  readings raw member := first.readings raw (second.readings raw member)

theorem Keeps.inSite (keeps : Keeps sensor other) (siteId : String) :
    other.InSite siteId ↔ sensor.InSite siteId := by
  rw [InSite, InSite, keeps.device]

theorem Keeps.inService (keeps : Keeps sensor other) : other.InService ↔ sensor.InService := by
  rw [InService, InService, keeps.revoked, keeps.lifecycle]

theorem dataGeneration_updateState (same : ∀ row, (update row).dataGeneration = row.dataGeneration) :
    (sensor.updateState update).dataGeneration = sensor.dataGeneration := by
  cases state : sensor.store.dataState <;> simp [dataGeneration, updateState, state, same]

theorem resetBoundary_updateState (same : ∀ row, (update row).resetBoundary = row.resetBoundary) :
    (sensor.updateState update).resetBoundary = sensor.resetBoundary := by
  cases state : sensor.store.dataState <;> simp [resetBoundary, updateState, state, same]

theorem keeps_updateState (raised : ∀ row, row.resetBoundary ≤ (update row).resetBoundary) :
    Keeps sensor (sensor.updateState update) where
  device := rfl
  revoked := rfl
  lifecycle := rfl
  rows row := by simpa [updateState] using row
  boundary := by
    cases state : sensor.store.dataState <;> simp [resetBoundary, updateState, state, raised]
  readings _ member := member

theorem keeps_setGate (gate : IngestionGate) (resetRequired : Bool) :
    Keeps sensor (sensor.setGate gate resetRequired) := keeps_updateState fun _ => le_rfl

theorem keeps_openGate : Keeps sensor sensor.openGate where
  device := rfl
  revoked := rfl
  lifecycle := rfl
  rows row := (keeps_setGate .opened false).rows row
  boundary := (keeps_setGate .opened false).boundary
  readings _ member := member

theorem keeps_release (operationId : String) : Keeps sensor (sensor.release operationId) := by
  rw [release]
  split
  · exact keeps_openGate
  · exact .refl sensor

@[simp] theorem dataGeneration_setGate (gate : IngestionGate) (resetRequired : Bool) :
    (sensor.setGate gate resetRequired).dataGeneration = sensor.dataGeneration :=
  dataGeneration_updateState fun _ => rfl

@[simp] theorem dataGeneration_openGate : sensor.openGate.dataGeneration = sensor.dataGeneration :=
  dataGeneration_setGate .opened false

@[simp] theorem dataGeneration_release (operationId : String) :
    (sensor.release operationId).dataGeneration = sensor.dataGeneration := by
  rw [release]
  split
  · exact dataGeneration_openGate
  · rfl

/-- A closed gate belongs to a row. -/
theorem exists_state_of_closed (closed : ¬ sensor.GateOpen) : ∃ row, sensor.store.dataState = some row := by
  cases state : sensor.store.dataState with
  | none => exact absurd (fun row member => by rw [state] at member; cases member) closed
  | some row => exact ⟨row, rfl⟩

theorem closed_updateState (row : sensor.store.dataState.isSome = true)
    (closes : ∀ row, (update row).ingestionGate ≠ .opened ∨ (update row).resetRequiredOnReconnect = true) :
    ¬ (sensor.updateState update).GateOpen := by
  obtain ⟨row, state⟩ := Option.isSome_iff_exists.mp row
  intro isOpen
  have opened := isOpen (update row) (by simp [updateState, state])
  cases closes row with
  | inl gate => exact gate opened.1
  | inr flag => rw [opened.2] at flag; cases flag

theorem closed_setGate {gate : IngestionGate} {resetRequired : Bool} (row : sensor.store.dataState.isSome = true)
    (closes : gate ≠ .opened ∨ resetRequired = true) : ¬ (sensor.setGate gate resetRequired).GateOpen :=
  closed_updateState row fun _ => closes

end Sensor

/-! ## Devices below a boundary -/

/-- Every sequence the server knows of a device lies at or below the boundary. -/
structure Sensor.Under (sensor : Sensor) (boundary : Nat) : Prop where
  highest : sensor.store.highestContiguous ≤ boundary
  maximum : sensor.store.maximumSeen ≤ boundary
  cursor : sensor.store.cursorBoundary ≤ boundary
  state : sensor.resetBoundary ≤ boundary
  stored : ∀ raw ∈ sensor.store.rawReadings, raw.sequence ≤ boundary

namespace Sensor.Under
variable {sensor : Sensor} {boundary higher : Nat}

theorem mono (under : sensor.Under boundary) (raised : boundary ≤ higher) : sensor.Under higher where
  highest := under.highest.trans raised
  maximum := under.maximum.trans raised
  cursor := under.cursor.trans raised
  state := under.state.trans raised
  stored raw member := (under.stored raw member).trans raised

theorem updateState {update : DeviceDataState → DeviceDataState} (under : sensor.Under boundary)
    (same : ∀ row, (update row).resetBoundary = row.resetBoundary) : (sensor.updateState update).Under boundary where
  highest := under.highest
  maximum := under.maximum
  cursor := under.cursor
  state := by
    rw [resetBoundary_updateState same]
    exact under.state
  stored := under.stored

theorem setGate (under : sensor.Under boundary) (gate : IngestionGate) (resetRequired : Bool) :
    (sensor.setGate gate resetRequired).Under boundary := under.updateState fun _ => rfl

theorem openGate (under : sensor.Under boundary) : sensor.openGate.Under boundary where
  highest := under.highest
  maximum := under.maximum
  cursor := under.cursor
  state := (under.setGate .opened false).state
  stored := under.stored

theorem release (under : sensor.Under boundary) (operationId : String) :
    (sensor.release operationId).Under boundary := by
  rw [Sensor.release]
  split
  · exact under.openGate
  · exact under

end Sensor.Under

/-! ## Participants -/

/-- The boundary of a sensor that will measure again leaves room above it in signed storage. -/
def DataResetParticipant.Limited (participant : DataResetParticipant) : Prop :=
  participant.plannedClassification ≠ .revoked → participant.plannedClassification ≠ .removed →
    participant.resetBoundary ≤ maxResetBoundary

/-- What no step takes back from a participant. -/
structure DataResetParticipant.Evolves (before after : DataResetParticipant) : Prop where
  deviceId : after.deviceId = before.deviceId
  planned : after.plannedClassification = before.plannedClassification
  resetGeneration : after.resetGeneration = before.resetGeneration
  resetBoundary : before.resetBoundary ≤ after.resetBoundary
  limited : before.Limited → after.Limited

namespace DataResetParticipant.Evolves
variable {first second third : DataResetParticipant}

/-- A change that leaves the identity and the boundary of a participant. -/
theorem same (deviceId : second.deviceId = first.deviceId)
    (planned : second.plannedClassification = first.plannedClassification)
    (resetGeneration : second.resetGeneration = first.resetGeneration)
    (resetBoundary : second.resetBoundary = first.resetBoundary) : first.Evolves second := by
  refine ⟨deviceId, planned, resetGeneration, resetBoundary.ge, fun limited => ?_⟩
  rw [Limited, planned, resetBoundary]
  exact limited

theorem refl (participant : DataResetParticipant) : participant.Evolves participant := .same rfl rfl rfl rfl

theorem trans (earlier : first.Evolves second) (later : second.Evolves third) : first.Evolves third where
  deviceId := later.deviceId.trans earlier.deviceId
  planned := later.planned.trans earlier.planned
  resetGeneration := later.resetGeneration.trans earlier.resetGeneration
  resetBoundary := earlier.resetBoundary.trans later.resetBoundary
  limited held := later.limited (earlier.limited held)

end DataResetParticipant.Evolves

theorem markUnsupported_evolves (now : Int) (participant : DataResetParticipant) :
    participant.Evolves (participant.markUnsupported now) ∧ ¬ (participant.markUnsupported now).Settled := by
  rw [DataResetParticipant.markUnsupported]
  split <;> exact ⟨.same rfl rfl rfl rfl, by simp [DataResetParticipant.Settled]⟩

/-- The cursor and the data state stand exactly at a generation and a boundary. -/
structure Sensor.Exact (sensor : Sensor) (generation boundary : Nat) : Prop where
  state : ∃ row, sensor.store.dataState = some row ∧ row.dataGeneration = generation ∧ row.resetBoundary = boundary
  cursor : ∃ cursor, sensor.store.cursor = some cursor ∧ cursor.dataGeneration = generation ∧
    cursor.highestContiguousSequence = boundary ∧ cursor.maximumSeenSequence = boundary ∧
    cursor.resetBoundary = boundary

/-- The outcome of an exchange: the participant evolves, the device row is kept, and the gate opens
only for a participant that needs nothing more. A sensor in service is let go only at its boundary. -/
structure Outcome (operation : DataResetOperation) (participant : DataResetParticipant) (sensor : Sensor)
    (outcome : DataResetParticipant × Sensor) : Prop where
  evolves : participant.Evolves outcome.1
  keeps : sensor.Keeps outcome.2
  generation : outcome.2.dataGeneration = sensor.dataGeneration ∨
    outcome.2.dataGeneration = operation.resetGeneration
  settled : outcome.1.Settled → sensor.InService → outcome.1.resetBoundary ≤ outcome.2.resetBoundary
  gated : ¬ outcome.1.Settled → ¬ sensor.GateOpen → ¬ outcome.2.GateOpen
  under : sensor.Under participant.resetBoundary → outcome.2.Under outcome.1.resetBoundary
  exact : outcome.1.state = .verified → sensor.store.dataState.isSome = true →
    sensor.Under participant.resetBoundary → outcome.2.Exact operation.resetGeneration outcome.1.resetBoundary

namespace Outcome
variable {operation : DataResetOperation} {participant : DataResetParticipant} {sensor : Sensor}
  {middle outcome : DataResetParticipant × Sensor}

/-- A participant that is still to be reset, with a gate that is still closed. -/
theorem pending (evolves : participant.Evolves outcome.1) (keeps : sensor.Keeps outcome.2)
    (generation : outcome.2.dataGeneration = sensor.dataGeneration) (unsettled : ¬ outcome.1.Settled)
    (gated : ¬ sensor.GateOpen → ¬ outcome.2.GateOpen)
    (under : ∀ boundary, sensor.Under boundary → outcome.2.Under boundary) :
    Outcome operation participant sensor outcome where
  evolves := evolves
  keeps := keeps
  generation := .inl generation
  settled done := absurd done unsettled
  gated _ := gated
  under held := (under _ held).mono evolves.resetBoundary
  exact verified := absurd (.inl verified) unsettled

/-- A sensor out of service is let go. -/
theorem notApplicable (now : Int) (outOfService : ¬ sensor.InService) :
    Outcome operation participant sensor (participant.markNotApplicable now, sensor.release operation.id) where
  evolves := .same rfl rfl rfl rfl
  keeps := Sensor.keeps_release operation.id
  generation := .inl (Sensor.dataGeneration_release operation.id)
  settled _ inService := absurd inService outOfService
  gated unsettled := absurd (.inr rfl) unsettled
  under held := held.release operation.id
  exact verified := by cases verified

/-- Two exchanges in a row, the first of which has not settled the participant. -/
theorem trans (first : Outcome operation participant sensor middle) (unsettled : ¬ middle.1.Settled)
    (generation : middle.2.dataGeneration = sensor.dataGeneration)
    (second : Outcome operation middle.1 middle.2 outcome) : Outcome operation participant sensor outcome where
  evolves := first.evolves.trans second.evolves
  keeps := first.keeps.trans second.keeps
  generation := second.generation.imp_left fun same => same.trans generation
  settled done inService := second.settled done (first.keeps.inService.mpr inService)
  gated remains closed := second.gated remains (first.gated unsettled closed)
  under held := second.under (first.under held)
  exact verified row held := second.exact verified (first.keeps.rows row) (first.under held)

end Outcome

section Exchange
variable {Digest : Type} [DecidableEq Digest] {canonicalSha256 : Canonical → Digest}
variable (now : Int) (operation : DataResetOperation) (participant : DataResetParticipant) (sensor : Sensor)

/-- An answer leaves the participant unsettled and its boundary at least where it was. -/
theorem prepareAnswered_evolves {action : PrepareAction} {response : SensorResponse Digest}
    {answered : DataResetParticipant}
    (ok : prepareAnswered canonicalSha256 now operation participant sensor action response = .ok answered) :
    participant.Evolves answered ∧ ¬ answered.Settled := by
  rw [prepareAnswered] at ok
  split at ok
  · cases ok
    exact ⟨.same rfl rfl rfl rfl, by simp [DataResetParticipant.Settled]⟩
  · split at ok
    · obtain ⟨receipt, valid, ok⟩ := bind_eq_ok.mp ok
      obtain ⟨_, ok⟩ := raiseIf_bind_eq_ok.mp ok
      obtain ⟨_, ok⟩ := raiseIf_bind_eq_ok.mp ok
      cases ok
      have limit := (validatePreparedReceipt_ok canonicalSha256 valid).2.2
      exact ⟨⟨rfl, rfl, rfl, le_receiptBoundary receipt _, fun _ _ _ => limit⟩,
        by simp [DataResetParticipant.Settled, DataResetParticipant.recordPrepared]⟩
    · split at ok
      · cases ok
        exact ⟨.same rfl rfl rfl rfl, by simp [DataResetParticipant.Settled]⟩
      · cases ok
        exact ⟨.same rfl rfl rfl rfl, by simp [DataResetParticipant.Settled]⟩

theorem prepareFailed_evolves (declared : Bool) (error : SensorResetCommunicationError) :
    participant.Evolves (participant.prepareFailed now declared error) ∧
      ¬ (participant.prepareFailed now declared error).Settled := by
  refine ⟨.same rfl rfl rfl rfl, ?_⟩
  rw [DataResetParticipant.Settled, DataResetParticipant.prepareFailed]
  split <;> simp

theorem sensor_prepareFailed_keeps :
    sensor.Keeps (sensor.prepareFailed participant) ∧
    (sensor.prepareFailed participant).dataGeneration = sensor.dataGeneration ∧
    (¬ sensor.GateOpen → ¬ (sensor.prepareFailed participant).GateOpen) ∧
    ∀ boundary, sensor.Under boundary → (sensor.prepareFailed participant).Under boundary := by
  rw [Sensor.prepareFailed]
  split
  · refine ⟨Sensor.keeps_setGate _ _, Sensor.dataGeneration_setGate _ _, fun closed => ?_, fun _ under => under.setGate _ _⟩
    obtain ⟨row, state⟩ := Sensor.exists_state_of_closed closed
    exact Sensor.closed_setGate (by rw [state]; rfl) (.inr rfl)
  · exact ⟨.refl sensor, rfl, id, fun _ under => under⟩

theorem requestPrepare_evolves :
    participant.Evolves (participant.requestPrepare now) ∧ ¬ (participant.requestPrepare now).Settled :=
  ⟨.same rfl rfl rfl rfl, by simp [DataResetParticipant.requestPrepare, DataResetParticipant.Settled]⟩

/-- A prepare never touches the generation of the device, and settles only a sensor out of service. -/
theorem prepareOne_outcome (canonicalSha256 : Canonical → Digest) (exchange : Exchange Digest) :
    Outcome operation participant sensor (prepareOne canonicalSha256 now operation participant sensor exchange) ∧
    (prepareOne canonicalSha256 now operation participant sensor exchange).2.dataGeneration =
      sensor.dataGeneration ∧
    ((prepareOne canonicalSha256 now operation participant sensor exchange).1.Settled → ¬ sensor.InService) := by
  obtain ⟨failedKeeps, failedGeneration, failedGated, failedUnder⟩ := sensor_prepareFailed_keeps participant sensor
  have request := requestPrepare_evolves now participant
  rw [prepareOne]
  split
  · next outOfService =>
      exact ⟨.notApplicable now outOfService, Sensor.dataGeneration_release operation.id, fun _ => outOfService⟩
  · split
    · have unsettled := markUnsupported_evolves now participant
      refine ⟨.pending unsettled.1 (Sensor.keeps_setGate _ _) (Sensor.dataGeneration_setGate _ _) unsettled.2
        (fun closed => ?_) (fun _ under => under.setGate _ _), Sensor.dataGeneration_setGate _ _,
        fun settled => absurd settled unsettled.2⟩
      obtain ⟨row, state⟩ := Sensor.exists_state_of_closed closed
      exact Sensor.closed_setGate (by rw [state]; rfl) (.inr rfl)
    · cases exchange with
      | stopped =>
          exact ⟨.pending request.1 (.refl sensor) rfl request.2 id fun _ under => under, rfl,
            fun settled => absurd settled request.2⟩
      | failed error =>
          have unsettled := prepareFailed_evolves now (participant.requestPrepare now) false error
          exact ⟨.pending (request.1.trans unsettled.1) failedKeeps failedGeneration unsettled.2 failedGated failedUnder,
            failedGeneration, fun settled => absurd settled unsettled.2⟩
      | answered response =>
          dsimp only
          split
          · next answered ok =>
              have unsettled := prepareAnswered_evolves now operation _ sensor ok
              exact ⟨.pending (request.1.trans unsettled.1) (.refl sensor) rfl unsettled.2 id fun _ under => under, rfl,
                fun settled => absurd settled unsettled.2⟩
          · next error _ =>
              have unsettled := prepareFailed_evolves now (participant.requestPrepare now)
                (declaresPrepared response.state) error
              exact ⟨.pending (request.1.trans unsettled.1) failedKeeps failedGeneration unsettled.2 failedGated
                failedUnder, failedGeneration, fun settled => absurd settled unsettled.2⟩

/-- A participant is prepared only by a receipt, and its boundary covers what the receipt reports. -/
theorem prepareOne_covered {exchange : Exchange Digest}
    (prepared : (prepareOne canonicalSha256 now operation participant sensor exchange).1.state = .prepared) :
    ∃ response receipt, exchange = .answered response ∧ response.preparedReceipt = some receipt ∧
      receipt.Names canonicalSha256 operation participant sensor = true ∧
      receipt.Covered (prepareOne canonicalSha256 now operation participant sensor exchange).1.resetBoundary := by
  rw [prepareOne] at prepared ⊢
  split at prepared
  · cases prepared
  · next inService =>
      rw [if_neg inService]
      split at prepared
      · rw [DataResetParticipant.markUnsupported] at prepared
        split at prepared <;> cases prepared
      · next supported =>
          rw [if_neg supported]
          cases exchange with
          | stopped => cases prepared
          | failed error =>
              dsimp only [DataResetParticipant.prepareFailed] at prepared
              split at prepared <;> cases prepared
          | answered response =>
              dsimp only at prepared ⊢
              split at prepared
              · next answered ok =>
                  unfold prepareAnswered at ok
                  split at ok
                  · cases ok
                    cases prepared
                  · split at ok
                    · obtain ⟨receipt, valid, ok⟩ := bind_eq_ok.mp ok
                      obtain ⟨_, ok⟩ := raiseIf_bind_eq_ok.mp ok
                      obtain ⟨_, ok⟩ := raiseIf_bind_eq_ok.mp ok
                      cases ok
                      obtain ⟨given, named, _⟩ := validatePreparedReceipt_ok canonicalSha256 valid
                      exact ⟨response, receipt, rfl, given, named, receiptBoundary_covered receipt _⟩
                    · split at ok
                      · cases ok
                        cases prepared
                      · cases ok
                        cases prepared
              · dsimp only [DataResetParticipant.prepareFailed] at prepared
                split at prepared <;> cases prepared

/-! ## Commits -/

theorem requestCommit_evolves :
    participant.Evolves (participant.requestCommit now) ∧ ¬ (participant.requestCommit now).Settled :=
  ⟨.same rfl rfl rfl rfl, by simp [DataResetParticipant.requestCommit, DataResetParticipant.Settled]⟩

/-- Raising a cursor row of a device below a boundary brings it exactly there. -/
theorem verifyReset_under {boundary : Nat} (under : sensor.Under boundary) :
    (sensor.verifyReset now operation boundary).Under boundary := by
  have highest := under.highest
  have maximum := under.maximum
  have cursor := under.cursor
  have state := under.state
  constructor
  · cases row : sensor.store.cursor <;>
      simp_all [DeviceStore.highestContiguous, Sensor.verifyReset]
  · cases row : sensor.store.cursor <;>
      simp_all [DeviceStore.maximumSeen, Sensor.verifyReset]
  · cases row : sensor.store.cursor <;>
      simp_all [DeviceStore.cursorBoundary, Sensor.verifyReset]
  · cases row : sensor.store.dataState <;>
      simp_all [Sensor.resetBoundary, Sensor.verifyReset, Sensor.openGate, Sensor.setGate, Sensor.updateState]
  · exact under.stored

theorem verifyReset_exact {boundary : Nat} (row : sensor.store.dataState.isSome = true)
    (under : sensor.Under boundary) :
    (sensor.verifyReset now operation boundary).Exact operation.resetGeneration boundary := by
  obtain ⟨row, state⟩ := Option.isSome_iff_exists.mp row
  have highest := under.highest
  have maximum := under.maximum
  have cursor := under.cursor
  have lower := under.state
  constructor
  · simp_all [Sensor.resetBoundary, Sensor.verifyReset, Sensor.openGate, Sensor.setGate, Sensor.updateState]
  · cases known : sensor.store.cursor <;>
      simp_all [DeviceStore.highestContiguous, DeviceStore.maximumSeen, DeviceStore.cursorBoundary, Sensor.verifyReset]

/-- A completed reset opens the gate at the generation and above the boundary of the participant. -/
theorem verifyReset_outcome (boundary : Nat) :
    sensor.Keeps (sensor.verifyReset now operation boundary) ∧
    (sensor.store.dataState.isSome →
      (sensor.verifyReset now operation boundary).dataGeneration = operation.resetGeneration ∧
      boundary ≤ (sensor.verifyReset now operation boundary).resetBoundary) := by
  have raised : sensor.Keeps (sensor.updateState fun row =>
      { row with dataGeneration := operation.resetGeneration, resetBoundary := max row.resetBoundary boundary }) :=
    Sensor.keeps_updateState fun row => le_max_left _ _
  have kept := raised.trans Sensor.keeps_openGate
  refine ⟨⟨kept.device, kept.revoked, kept.lifecycle, kept.rows, kept.boundary, kept.readings⟩, fun present => ?_⟩
  obtain ⟨row, state⟩ := Option.isSome_iff_exists.mp present
  simp [Sensor.verifyReset, Sensor.dataGeneration, Sensor.resetBoundary, Sensor.openGate, Sensor.setGate,
    Sensor.updateState, state]

theorem commitFailed_outcome (error : SensorResetCommunicationError) :
    Outcome operation participant sensor (commitFailed participant sensor error) := by
  refine .pending (.same rfl rfl rfl rfl) (Sensor.keeps_setGate _ _) (Sensor.dataGeneration_setGate _ _) ?_
    (fun closed => ?_) fun _ under => under.setGate _ _
  · rw [DataResetParticipant.Settled, commitFailed]
    dsimp only
    split <;> simp
  · obtain ⟨row, state⟩ := Sensor.exists_state_of_closed closed
    exact Sensor.closed_setGate (by rw [state]; rfl) (.inr rfl)

theorem commitAnswered_outcome {response : SensorResponse Digest} {outcome : DataResetParticipant × Sensor}
    (ok : commitAnswered canonicalSha256 now operation participant sensor response = .ok outcome) :
    Outcome operation participant sensor outcome := by
  rw [commitAnswered] at ok
  split at ok
  · cases ok
  · cases ok
  · cases ok
  · obtain ⟨receipt, _, ok⟩ := bind_eq_ok.mp ok
    obtain ⟨_, ok⟩ := raiseIf_bind_eq_ok.mp ok
    obtain ⟨present, ok⟩ := raiseIf_bind_eq_ok.mp ok
    cases ok
    have verified := verifyReset_outcome now operation sensor participant.resetBoundary
    have moved := verified.2 (Option.isSome_iff_ne_none.mpr present)
    exact ⟨.same rfl rfl rfl rfl, verified.1, .inr moved.1, fun _ _ => moved.2,
      fun unsettled => absurd (.inl rfl) unsettled, verifyReset_under now operation sensor,
      fun _ row under => verifyReset_exact now operation sensor row under⟩
  · cases ok
    exact .pending (.same rfl rfl rfl rfl) (.refl sensor) rfl (by simp [DataResetParticipant.Settled]) id
      fun _ under => under
  · cases ok
    exact .pending (.same rfl rfl rfl rfl) (.refl sensor) rfl (by simp [DataResetParticipant.Settled]) id
      fun _ under => under

theorem holdForCommit_outcome :
    Outcome operation participant sensor (participant.requestCommit now, sensor.holdForCommit) := by
  have request := requestCommit_evolves now participant
  refine .pending request.1 (Sensor.keeps_updateState fun _ => le_rfl)
    (Sensor.dataGeneration_updateState fun _ => rfl) request.2 (fun closed => ?_)
    fun _ under => under.updateState fun _ => rfl
  obtain ⟨row, state⟩ := Sensor.exists_state_of_closed closed
  exact Sensor.closed_updateState (by rw [state]; rfl) fun _ => .inl (by simp)

theorem commitPrepared_outcome (exchange : Exchange Digest) :
    Outcome operation participant sensor
      (commitPrepared canonicalSha256 now operation participant sensor exchange) := by
  have request := holdForCommit_outcome now operation participant sensor
  have unsettled := (requestCommit_evolves now participant).2
  have generation : sensor.holdForCommit.dataGeneration = sensor.dataGeneration :=
    Sensor.dataGeneration_updateState fun _ => rfl
  have failed := fun error => request.trans unsettled generation
    (commitFailed_outcome operation (participant.requestCommit now) sensor.holdForCommit error)
  unfold commitPrepared
  dsimp only
  split
  · exact failed _
  · cases exchange with
    | stopped => exact request
    | failed error => exact failed error
    | answered response =>
        dsimp only
        split
        · next outcome ok =>
            exact request.trans unsettled generation (commitAnswered_outcome now operation _ _ ok)
        · next error _ => exact failed error

theorem commitOne_outcome (canonicalSha256 : Canonical → Digest) (unsettled : ¬ participant.Settled)
    (prepare commit : Exchange Digest) :
    Outcome operation participant sensor
      (commitOne canonicalSha256 now operation participant sensor prepare commit) := by
  rw [commitOne]
  split
  · next outOfService => exact .notApplicable now outOfService
  · split
    · split
      · exact .pending (.refl participant) (.refl sensor) rfl unsettled id fun _ under => under
      · have prepared := prepareOne_outcome now operation participant sensor canonicalSha256 prepare
        dsimp only
        split
        · next ready =>
            have pending : ¬ (prepareOne canonicalSha256 now operation participant sensor prepare).1.Settled := by
              rw [DataResetParticipant.Settled, ready]
              simp
            exact prepared.1.trans pending prepared.2.1 (commitPrepared_outcome now operation _ _ commit)
        · exact prepared.1
    · exact commitPrepared_outcome now operation participant sensor commit

end Exchange
end PowerMonitor.DataReset
