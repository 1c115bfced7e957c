import PowerMonitor.DataReset.Safety

/-! The boundary of a reset and the cursor it leaves. -/

set_option autoImplicit false
namespace PowerMonitor.DataReset
open Ingestion Library

/-! ## The central commit -/

section CentralCommit
variable {db : Database} {operation : DataResetOperation} {now : Int}

/-- A device below its participant's boundary ends up exactly there. -/
theorem advance_exact {participant : DataResetParticipant} {sensor : Sensor}
    (row : sensor.store.dataState.isSome = true) (under : sensor.Under participant.resetBoundary) :
    (sensor.advance now operation participant).Exact operation.resetGeneration participant.resetBoundary := by
  obtain ⟨row, state⟩ := Option.isSome_iff_exists.mp row
  have highest := under.highest
  have maximum := under.maximum
  have cursor := under.cursor
  have lower := under.state
  unfold Sensor.advance
  dsimp only
  constructor
  · split <;> simp_all [Sensor.resetBoundary, Sensor.openGate, Sensor.setGate, Sensor.updateState]
  · cases known : sensor.store.cursor <;>
      simp_all [DeviceStore.highestContiguous, DeviceStore.maximumSeen, DeviceStore.cursorBoundary]

/-- The rows of an operation that the central reset has just committed. -/
structure CommittedExactly (before after : Database) (operation : DataResetOperation) : Prop where
  devices : ∀ participant ∈ operation.participants, ∃ old sensor, before.device? participant.deviceId = some old ∧
    after.device? participant.deviceId = some sensor ∧ old.dataGeneration < operation.resetGeneration ∧
    sensor.Exact operation.resetGeneration participant.resetBoundary
  site : before.siteGeneration operation.siteId < operation.resetGeneration

theorem commitCentrally_exact (inv : Invariant db) (member : operation ∈ db.operations) (ready : CentralReady operation)
    {scope : Except ProblemError Unit} {committed next : Database}
    (ok : performCentralReset db now operation scope = .ok committed) (devices : next.devices = committed.devices)
    {after : DataResetOperation} (commits : Commits operation after) : CommittedExactly db next after := by
  obtain ⟨rfl, newer, _⟩ := performCentralReset_ok ok
  have sound := inv.sound operation member
  have writes : ∀ id, next.device? id = (db.device? id).map (Advanced now operation id) := by
    intro id
    rw [Database.device?, devices, commitCentrally_devices]
    exact Database.device?_updateDevices
  refine ⟨?_, by rw [commits.siteId, commits.resetGeneration]; exact newer⟩
  rw [commits.participants, commits.resetGeneration]
  intro participant inside
  obtain ⟨old, found, _⟩ := inv.located operation member participant inside
  have awaits := sound.awaits ready.active ready.2.2 inside found
  refine ⟨old, Advanced now operation participant.deviceId old, found, by rw [writes, found]; rfl, awaits.before, ?_⟩
  rw [advanced_participant inv member inside]
  exact advance_exact (inv.rows _ old found) ((deleteMeasurements_unmoved _ _ old).under _ awaits.shut awaits.under)

/-- Whatever the outcome of purging artifacts, a reset that has just committed is exact. -/
theorem runCentralReset_exact (inv : Invariant db) (member : operation ∈ db.operations) (ready : CentralReady operation)
    (scope : Except ProblemError Unit) (purge : Purge) {after : DataResetOperation}
    (written : after ∈ (runCentralReset db now scope purge operation).operations) (own : after.id = operation.id)
    (done : after.Committed) : CommittedExactly db (runCentralReset db now scope purge operation) after := by
  rw [runCentralReset] at written ⊢
  split at written
  · next problem failed =>
      cases Database.mem_setOperation written with
      | inl same =>
          rw [same] at done
          exact absurd done ready.2.2
      | inr other => exact absurd own other.2
  · next committed ok =>
      obtain ⟨rfl, newer, _⟩ := performCentralReset_ok ok
      cases Database.mem_setOperation written with
      | inl same =>
          rw [same]
          refine commitCentrally_exact inv member ready ok ?_ (ready.commits now purge)
          rfl
      | inr other => exact absurd (own.trans (ready.commits now purge).id.symm) other.2

end CentralCommit

/-! ## The verification of a sensor -/

section Verification
variable {Digest : Type} [DecidableEq Digest] {canonicalSha256 : Canonical → Digest}
variable {db : Database} {operation : DataResetOperation}

theorem commitSensor_exact (inv : Invariant db) (member : operation ∈ db.operations) (committing : Committing operation)
    {deviceId : String} {now : Int} {prepare commit : Exchange Digest} {after : DataResetOperation}
    (written : after ∈ (db.exchange operation deviceId DataResetParticipant.Settled fun participant sensor =>
      commitOne canonicalSha256 now operation participant sensor prepare commit).operations)
    (own : after.id = operation.id) {participant : DataResetParticipant} (inside : participant ∈ after.participants)
    (named : participant.deviceId = deviceId) (verified : participant.state = .verified)
    (pending : ∀ old ∈ operation.participants, old.deviceId = deviceId → old.state ≠ .verified) :
    ∃ sensor, (db.exchange operation deviceId DataResetParticipant.Settled fun participant sensor =>
        commitOne canonicalSha256 now operation participant sensor prepare commit).device? deviceId = some sensor ∧
      sensor.Exact after.resetGeneration participant.resetBoundary := by
  have idle : after ∈ db.operations → False := fun kept =>
    pending participant (inv.eq_of_id kept member own ▸ inside) named verified
  rw [Database.exchange] at written ⊢
  split at written
  · next chosen sensor selected found =>
      have chosenInside := List.mem_of_find?_eq_some selected
      have chosenNamed : chosen.deviceId = deviceId := by simpa using List.find?_some selected
      split at written
      · exact absurd written idle
      · next unsettled =>
          have acted := commitOne_outcome now operation chosen sensor canonicalSha256 unsettled prepare commit
          have sound := inv.sound operation member
          rw [← chosenNamed] at found
          have under := sound.under committing.active chosen chosenInside (fun _ => unsettled) sensor found
          rw [if_neg unsettled]
          cases Database.mem_setOperation written with
          | inr other => exact absurd own other.2
          | inl same =>
              rw [same] at inside ⊢
              cases DataResetOperation.mem_setParticipant inside with
              | inr other => exact absurd verified (pending participant other.1 named)
              | inl new =>
                  rw [new] at verified ⊢
                  refine ⟨_, ?_, acted.exact verified (inv.rows _ sensor found) under⟩
                  rw [Database.record, Database.updateDevice, Database.device?_updateDevices,
                    Database.device?_setOperation, ← chosenNamed, found]
                  simp
  · exact absurd written idle

end Verification

/-! ## Whole runs -/

/-- The boundary of a new participant covers what the server holds of the device and what the sensor
has reported to the planner. -/
structure CoveredAtApproval (db : Database) (inputs : PlanInputs) (participant : DataResetParticipant) : Prop where
  server : ∃ sensor, db.device? participant.deviceId = some sensor ∧ sensor.Under participant.resetBoundary
  sensor : ∃ item : DeviceSnapshot, item.boundary = participant.resetBoundary ∧
    item.classification = participant.plannedClassification ∧ item.dataGeneration < participant.resetGeneration ∧
    Reported (inputs.observations participant.deviceId) item

section Runs
variable {Digest : Type} [DecidableEq Digest] {canonicalSha256 : Canonical → Digest}
  {readingContentHash : Reading → String}

theorem executeDataReset_covered (injective : Function.Injective canonicalSha256) {db : Database} (inv : Invariant db)
    {id key : String} {request : ExecutionRequest} {now : Int} {inputs : PlanInputs} {operation : DataResetOperation}
    (written : operation ∈ (executeDataReset canonicalSha256 db id key request now inputs).operations)
    (new : operation ∉ db.operations) :
    ∀ participant ∈ operation.participants, CoveredAtApproval db inputs participant := by
  rw [executeDataReset] at written
  split at written
  · next created ok =>
      rcases createResetOperation_ok injective inv.devices ok with rfl | ⟨fresh, rfl, approved⟩
      · exact absurd written new
      · cases List.mem_append.mp written with
        | inl old => exact absurd old new
        | inr single =>
            obtain rfl := List.mem_singleton.mp single
            intro participant inside
            rw [approved.participants_eq.1] at inside
            obtain ⟨item, itemInside, rfl⟩ := List.mem_map.mp inside
            obtain ⟨sensor, found, _, snapshots⟩ := approved.approved.each item itemInside
            exact ⟨⟨sensor, found, snapshots.under⟩, item, rfl, rfl, approved.approved.newer item itemInside,
              snapshots.reported⟩
  · split at written <;> exact absurd written new
  · exact absurd written new

variable (readingContentHash) in
/-- Over every run the boundary of a participant covers what the server holds and what the sensor has
reported in the evidence the coordinator relies on; the central commit and the verification of a sensor
leave the cursor exactly at that boundary, in one generation that is newer than all before. -/
theorem reset_leaves_exact_cursor (injective : Function.Injective canonicalSha256) {start : Database}
    (initial : Initial start) (earlier later : List (Step Digest)) (action : Step Digest) :
    let past := run canonicalSha256 readingContentHash start earlier
    let before := run canonicalSha256 readingContentHash past later
    let after := step canonicalSha256 readingContentHash before action
    (∀ id key request now inputs, action = .executeDataReset id key request now inputs →
      ∀ operation ∈ after.operations, operation ∉ before.operations →
      ∀ participant ∈ operation.participants, CoveredAtApproval before inputs participant) ∧
    (∀ now operation participant sensor exchange,
      (prepareOne canonicalSha256 now operation participant sensor exchange).1.state = .prepared →
      ∃ response receipt, exchange = .answered response ∧ response.preparedReceipt = some receipt ∧
        participant.resetBoundary ≤ (prepareOne canonicalSha256 now operation participant sensor exchange).1.resetBoundary ∧
        receipt.Covered (prepareOne canonicalSha256 now operation participant sensor exchange).1.resetBoundary) ∧
    (∀ operation ∈ after.operations, operation.Active → ∀ participant ∈ operation.participants,
      (operation.Committed → ¬ participant.Settled) → ∀ sensor, after.device? participant.deviceId = some sensor →
      sensor.Under participant.resetBoundary) ∧
    (∀ operationId now scope purge, action = .centralReset operationId now scope purge →
      ∀ operation ∈ after.operations, operation.id = operationId → operation.Committed →
      (∀ old ∈ before.operations, old.id = operationId → ¬ old.Committed) →
      (∀ participant ∈ operation.participants,
        (∃ sensor, after.device? participant.deviceId = some sensor ∧
          sensor.Exact operation.resetGeneration participant.resetBoundary) ∧
        ∀ old, past.device? participant.deviceId = some old → old.dataGeneration < operation.resetGeneration) ∧
      past.siteGeneration operation.siteId < operation.resetGeneration) ∧
    (∀ operationId deviceId now prepare commit, action = .commitSensor operationId deviceId now prepare commit →
      ∀ operation ∈ after.operations, operation.id = operationId → ∀ participant ∈ operation.participants,
      participant.deviceId = deviceId → participant.state = .verified →
      (∀ old ∈ before.operations, old.id = operationId → ∀ other ∈ old.participants, other.deviceId = deviceId →
        other.state ≠ .verified) →
      ∃ sensor, after.device? deviceId = some sensor ∧
        sensor.Exact operation.resetGeneration participant.resetBoundary) ∧
    ∀ operation ∈ after.operations, ∀ participant ∈ operation.participants,
      participant.plannedClassification ≠ .revoked → participant.plannedClassification ≠ .removed →
      participant.resetBoundary + 1 < 2 ^ 63 := by
  intro past before after
  have settled : Invariant past := (run_preserved injective initial.invariant earlier).1
  obtain ⟨inv, since⟩ : Invariant before ∧ Later past before := run_preserved injective settled later
  have stepped : Preserved before after := step_preserved injective inv action
  refine ⟨?_, ?_, ?_, ?_, ?_, ?_⟩
  · intro id key request now inputs same operation written new
    have executed : after = executeDataReset canonicalSha256 before id key request now inputs := by
      rw [show after = step canonicalSha256 readingContentHash before action from rfl, same]
      rfl
    rw [executed] at written
    exact executeDataReset_covered injective inv written new
  · intro now operation participant sensor exchange prepared
    obtain ⟨response, receipt, answered, given, _, covered⟩ := prepareOne_covered now operation participant sensor prepared
    exact ⟨response, receipt, answered, given,
      (prepareOne_outcome now operation participant sensor canonicalSha256 exchange).1.evolves.resetBoundary, covered⟩
  · intro operation member active participant inside unsettled sensor found
    exact (stepped.invariant.sound operation member).under active participant inside unsettled sensor found
  · intro operationId now scope purge same operation written own done fresh
    have ran : after = before.onOperation operationId CentralReady (runCentralReset before now scope purge) := by
      rw [show after = step canonicalSha256 readingContentHash before action from rfl, same]
      rfl
    -- The step acted, for nothing else commits the operation.
    have exactly : CommittedExactly before after operation := by
      rw [ran, Database.onOperation] at written ⊢
      split at written
      · next old selected =>
          obtain ⟨member, named⟩ := Database.mem_of_operation? selected
          split at written
          · next ready =>
              rw [if_pos ready]
              exact runCentralReset_exact inv member ready scope purge written (own.trans named.symm) done
          · exact absurd done (fresh operation written own)
      · exact absurd done (fresh operation written own)
    refine ⟨fun participant inside => ?_, (since.sites operation.siteId).trans_lt exactly.site⟩
    obtain ⟨old, sensor, oldFound, found, newer, exact'⟩ := exactly.devices participant inside
    refine ⟨⟨sensor, found, exact'⟩, fun earliest earliestFound => ?_⟩
    obtain ⟨middle, middleFound, generation, _⟩ := since.devices _ earliest earliestFound
    obtain rfl := Option.some.inj (middleFound.symm.trans oldFound)
    exact generation.trans_lt newer
  · intro operationId deviceId now prepare commit same operation written own participant inside named verified pending
    have ran : after = before.onOperation operationId Committing fun operation =>
        before.exchange operation deviceId DataResetParticipant.Settled fun participant sensor =>
          commitOne canonicalSha256 now operation participant sensor prepare commit := by
      rw [show after = step canonicalSha256 readingContentHash before action from rfl, same]
      rfl
    rw [ran, Database.onOperation] at written ⊢
    split at written
    · next old selected =>
        obtain ⟨member, oldNamed⟩ := Database.mem_of_operation? selected
        split at written
        · next committing =>
            rw [if_pos committing]
            exact commitSensor_exact inv member committing written (own.trans oldNamed.symm) inside named verified
              (pending old member oldNamed)
        · exact absurd verified (pending operation written own participant inside named)
    · exact absurd verified (pending operation written own participant inside named)
  · intro operation member participant inside revoked removed
    have limit := (stepped.invariant.sound operation member).limited participant inside revoked removed
    rw [maxResetBoundary] at limit
    omega

end Runs

theorem meterSite_exact_cursor :
    let before := run id (fun _ => "") meterSite deferredReset.dropLast
    let after := step id (fun _ => "") before (.centralReset "reset" 3 (.ok ()) .done)
    ∃ operation ∈ after.operations, operation.id = "reset" ∧ operation.Committed ∧
      ∀ participant ∈ operation.participants, ∃ sensor, after.device? participant.deviceId = some sensor ∧
        sensor.Exact operation.resetGeneration participant.resetBoundary := by
  intro before after
  have committed : ∃ operation ∈ after.operations, operation.id = "reset" ∧ operation.Committed := by decide
  have fresh : ∀ old ∈ before.operations, old.id = "reset" → ¬ old.Committed := by decide
  obtain ⟨operation, member, named, done⟩ := committed
  refine ⟨operation, member, named, done, fun participant inside => ?_⟩
  have exactly := (reset_leaves_exact_cursor (fun _ => "") Function.injective_id meterSite_initial deferredReset.dropLast []
    (.centralReset "reset" 3 (.ok ()) .done)).2.2.2.1 "reset" 3 (.ok ()) .done rfl operation member named done fresh
  exact (exactly.1 participant inside).1

/-! ## A probe that is behind the heartbeat

The authenticated probe replaces what the cached heartbeat says, also where it says less: after a
change of the storage card, say. -/

def probedSite : Database :=
  { sites := [("home", {})]
    devices := [("meter",
      { hardwareId := "esp-1"
        firmwareVersion := some "1.0.0"
        firmwareBuildHash := some "0123456789abcdef0123456789abcdef0123456789abcdef0123456789abcdef"
        store :=
          { device := some { siteId := "home" }
            dataState := some {}
            cursor := some ⟨7, 7, 0, 0, 0⟩ } })] }

def rolledBackInputs : PlanInputs :=
  { observations := fun _ =>
      { heartbeat := some { receivedAt := 0, newestSequence := 100 }
        probe := .ok
          { dataGeneration := 0, sequenceFloor := 0, nextSequence := 8, newestSequence := 7
            newestSyncableSequence := 7, durableNewestSyncableSequence := 7, serverAckSequence := 7
            localRecordCount := 0, backlogEstimate := 0, cardIdentityStatus := "verified", sdStatus := "writable" } }
    inventory := .ok "measurements"
    offlineAfterSeconds := 30 }

/-- The heartbeat has reported sequence 100, and the approved boundary is 7. -/
theorem boundary_below_cached_heartbeat :
    ∃ operation ∈ (run id (fun _ => "") probedSite
        [.createResetPlan "plan" "home" .block 0 rolledBackInputs,
          .executeDataReset "reset" "key" resetRequest 1 rolledBackInputs]).operations,
      ∃ participant ∈ operation.participants,
        ∃ heartbeat ∈ (rolledBackInputs.observations participant.deviceId).heartbeat,
          participant.resetBoundary < heartbeat.newestSequence := by
  decide +kernel
end PowerMonitor.DataReset
