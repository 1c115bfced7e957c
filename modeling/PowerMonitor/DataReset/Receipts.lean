import PowerMonitor.DataReset.Planning

/-! Validation of the receipts a sensor sends while it is reset.

A receipt is accepted only when it names the approved operation and its counters agree
with the plan. Every rejection ends the exchange with a communication error.
-/

set_option autoImplicit false
namespace PowerMonitor.DataReset
open Library

/-- `DATA_RESET_PROTOCOL` -/
def dataResetProtocol : String := "data-reset/1.0.0"

/-- `_MAX_SIGNED_SEQUENCE` -/
def maxSignedSequence : Int := 2 ^ 63 - 1

/-- `_MAX_UNSIGNED_COUNTER` -/
def maxUnsignedCounter : Int := 2 ^ 64 - 1

abbrev Checked := Except SensorResetCommunicationError

/-- A rejection no later attempt can mend. -/
def rejection (code summary : String) : SensorResetCommunicationError :=
  { code := code, summary := summary, retryable := false }

def receiptIncomplete (field : String) : SensorResetCommunicationError :=
  rejection "sensor_reset_receipt_incomplete" ("Sensor reset receipt omitted valid " ++ field ++ " evidence")

/-- `_required_receipt_integer` -/
def requiredReceiptInteger (field : String) (value : Option Int) (least : Int := 0)
    (maximum : Int := maxSignedSequence) : Checked Int :=
  match value with
  | some n => if least ≤ n ∧ n ≤ maximum then pure n else throw (receiptIncomplete field)
  | none => throw (receiptIncomplete field)

/-- An expected text that may be unknown is then not compared. -/
def matchesExpected (found expected : Option String) : Bool := expected.isNone || found == expected

section Receipts
variable {Digest : Type} [DecidableEq Digest] (canonicalSha256 : Canonical → Digest)

/-! ## Prepared receipts -/

/-- `_expected_prepare_firmware`: the planned identity for a sensor that was connected, else the
current one. -/
def expectedPrepareFirmware (participant : DataResetParticipant) (sensor : Sensor) :
    Option String × Option String :=
  if participant.plannedClassification = .connected ∨ participant.plannedClassification = .authenticationFailed then
    (participant.firmwareVersion, participant.firmwareBuildHash)
  else (sensor.firmwareVersion, sensor.firmwareBuildHash)

/-- The snapshot the plan holds for a participant. -/
def DataResetPlan.planned? (plan : DataResetPlan) (deviceId : String) : Option DeviceSnapshot :=
  plan.planSnapshot.participants.find? fun item => item.deviceId = deviceId

def PreparedReceipt.Names (operation : DataResetOperation) (participant : DataResetParticipant) (sensor : Sensor)
    (receipt : PreparedReceipt Digest) : Bool :=
  let firmware := expectedPrepareFirmware participant sensor
  receipt.protocol == some dataResetProtocol && receipt.operationId == some operation.id &&
  receipt.deviceId == some participant.deviceId &&
  receipt.targetGeneration == some (operation.resetGeneration : Int) &&
  receipt.planRevision == some (operation.planRevision : Int) &&
  decide (receipt.planDigest = some (operation.plan.planFingerprint canonicalSha256)) &&
  receipt.state == some .prepared && receipt.checkpoint == some .prepared &&
  matchesExpected receipt.firmwareVersion firmware.1 && matchesExpected receipt.firmwareBuildHash firmware.2

def prepareReceiptMismatch : SensorResetCommunicationError :=
  rejection "sensor_reset_prepare_receipt_mismatch"
    "Sensor prepared receipt did not match the approved operation and firmware"

def prepareReceiptInconclusive (summary : String) : SensorResetCommunicationError :=
  rejection "sensor_reset_prepare_receipt_inconclusive" summary

/-- The counters of a prepared receipt, each within its storage. -/
structure PreparedCounters where
  serverAckSequence : Int
  serverMaximumSeen : Int
  resetBoundary : Int
  sequenceFloor : Int
  localRecordsBefore : Int
  localRecordsAfter : Int
  newestStoredSequence : Int
  newestSyncableSequence : Int
  backlogBefore : Int
  backlogAfter : Int
  prepareDrainRecordsAdded : Int
  prepareDrainSyncableRecordsAdded : Int
  deriving DecidableEq, Repr

def PreparedReceipt.counters (receipt : PreparedReceipt Digest) : Checked PreparedCounters := do
  let serverAck ← requiredReceiptInteger "server_ack_sequence" receipt.serverAckSequence
  let serverMaximum ← requiredReceiptInteger "server_maximum_seen" receipt.serverMaximumSeen
  let boundary ← requiredReceiptInteger "reset_boundary" receipt.resetBoundary
  let floor ← requiredReceiptInteger "sequence_floor" receipt.sequenceFloor
  let localBefore ← requiredReceiptInteger "local_records_before" receipt.localRecordsBefore
  let localAfter ← requiredReceiptInteger "local_records_after" receipt.localRecordsAfter
  let newestStored ← requiredReceiptInteger "newest_stored_sequence" receipt.newestStoredSequence
  let newestSyncable ← requiredReceiptInteger "newest_syncable_sequence" receipt.newestSyncableSequence
  let backlogBefore ← requiredReceiptInteger "backlog_before" receipt.backlogBefore
  let backlogAfter ← requiredReceiptInteger "backlog_after" receipt.backlogAfter
  let drain ← requiredReceiptInteger "prepare_drain_records_added" receipt.prepareDrainRecordsAdded
  let drainSyncable ← requiredReceiptInteger "prepare_drain_syncable_records_added"
    receipt.prepareDrainSyncableRecordsAdded
  let _ ← requiredReceiptInteger "measurement_pause_started_utc_ms" receipt.measurementPauseStartedUtcMs
  let _ ← requiredReceiptInteger "prepared_pzem_energy_wh" receipt.preparedPzemEnergyWh 0 maxUnsignedCounter
  let _ ← requiredReceiptInteger "software_energy_baseline_before_wh" receipt.softwareEnergyBaselineBeforeWh 0
    maxUnsignedCounter
  pure ⟨serverAck, serverMaximum, boundary, floor, localBefore, localAfter, newestStored, newestSyncable,
    backlogBefore, backlogAfter, drain, drainSyncable⟩

/-- The newest syncable sequence a probed sensor held before it drained its buffers. -/
def durableNewestSyncable (plan : DataResetPlan) (participant : DataResetParticipant) : Option Int :=
  match plan.planned? participant.deviceId with
  | some planned =>
      if participant.plannedClassification = .connected ∧ planned.probeStatus = "authenticated" then
        some planned.sensorDurableNewestSyncableSequence
      else none
  | none => none

/-- The drained records are reported exactly: none, or one or two in a row up to the newest one. -/
def exactDrain (durable : Option Int) (counters : PreparedCounters) (nextSequence : Int)
    (first last : Option Int) : Bool :=
  let records := counters.prepareDrainRecordsAdded
  let syncable := counters.prepareDrainSyncableRecordsAdded
  match first, last with
  | none, none => records == 0 && syncable == 0
  | some first, some last =>
      decide (1 ≤ records ∧ records ≤ 2 ∧ 0 < first ∧ first ≤ last ∧ last - first + 1 = records ∧
        nextSequence = last + 1 ∧ last = counters.newestStoredSequence) &&
      (match durable with
        | some durable =>
            if syncable = 0 then counters.newestSyncableSequence == durable
            else counters.newestSyncableSequence == first + syncable - 1
        | none => syncable == 0 || counters.newestSyncableSequence == first + syncable - 1)
  | _, _ => false

def planStaleDuringPrepare (summary : String) : SensorResetCommunicationError :=
  rejection "data_reset_plan_stale" summary

/-- `_validate_connected_plan_snapshot` -/
def validateConnectedPlanSnapshot (operation : DataResetOperation) (participant : DataResetParticipant)
    (receipt : PreparedReceipt Digest) : Checked Unit :=
  if operation.Committed ∨ participant.plannedClassification ≠ .connected then pure ()
  else match operation.plan.planned? participant.deviceId with
    | none => throw (planStaleDuringPrepare "The approved sensor inventory is no longer available")
    | some planned =>
        let agrees : Prop :=
          receipt.resetBoundary = some (planned.boundary : Int) ∧
          receipt.localRecordsBefore = some (planned.localRecordCount : Int) ∧
          receipt.backlogBefore = some (planned.backlogEstimate : Int) ∧
          receipt.prepareDrainRecordsAdded = some (planned.prepareDrainRecordsProjected : Int) ∧
          receipt.prepareDrainFirstSequence =
            some (planned.prepareDrainFirstSequenceProjected.map Int.ofNat) ∧
          receipt.prepareDrainLastSequence =
            some (planned.prepareDrainLastSequenceProjected.map Int.ofNat) ∧
          receipt.prepareDrainSyncableRecordsAdded =
            some (planned.prepareDrainSyncableRecordsProjected : Int) ∧
          (planned.probeStatus = "authenticated" →
            receipt.newestSyncableSequence = some (planned.sensorNewestSyncableSequence : Int))
        raiseIf (¬ agrees) (planStaleDuringPrepare
          "Sensor boundary or exact local deletion counts changed after confirmation")

def nonempty (text : Option String) : Bool := text.any (· ≠ "")

/-- `_validate_prepared_receipt` -/
def validatePreparedReceipt (operation : DataResetOperation) (participant : DataResetParticipant) (sensor : Sensor)
    (response : SensorResponse Digest) : Checked (PreparedReceipt Digest) := do
  match response.preparedReceipt with
  | none => throw (rejection "sensor_reset_prepare_receipt_missing"
      "Sensor prepared without a durable HMAC-covered receipt")
  | some receipt =>
      raiseIf (receipt.Names canonicalSha256 operation participant sensor = false) prepareReceiptMismatch
      let counters ← receipt.counters
      raiseIf (2 < counters.prepareDrainRecordsAdded ∨
          counters.prepareDrainRecordsAdded < counters.prepareDrainSyncableRecordsAdded)
        (prepareReceiptInconclusive "Sensor prepared receipt reported an invalid prepare-drain count")
      match receipt.prepareDrainFirstSequence, receipt.prepareDrainLastSequence with
      | some first, some last =>
          let nextSequence ← requiredReceiptInteger "next_sequence" receipt.nextSequence 1
          raiseIf (exactDrain (durableNewestSyncable operation.plan participant) counters nextSequence first last =
              false)
            (prepareReceiptInconclusive "Sensor prepared receipt omitted exact prepare-drain evidence")
          let trustedBoundary := max (participant.resetBoundary : Int) (max counters.serverAckSequence
            (max counters.serverMaximumSeen (max counters.sequenceFloor (max counters.newestStoredSequence
              (max counters.newestSyncableSequence (nextSequence - 1))))))
          raiseIf (counters.resetBoundary ≠ trustedBoundary ∨ (maxResetBoundary : Int) < counters.resetBoundary ∨
              counters.localRecordsAfter ≠ counters.localRecordsBefore ∨
              counters.backlogAfter ≠ counters.backlogBefore ∨ receipt.configurationPreserved = false ∨
              receipt.pzemBaselineCaptured = false ∨ receipt.sdStatus ≠ some "verified" ∨
              nonempty receipt.bootId = false ∨ nonempty receipt.firmwareVersion = false ∨
              nonempty receipt.firmwareBuildHash = false ∨ nonempty receipt.cardGeneration = false)
            (prepareReceiptInconclusive ("Sensor prepared receipt did not conclusively preserve readings, " ++
              "storage, and configuration"))
          validateConnectedPlanSnapshot operation participant receipt
          pure receipt
      | _, _ => throw (prepareReceiptInconclusive
          "Sensor prepared receipt omitted exact prepare-drain evidence")

/-- `_receipt_boundary`: the largest of the current boundary and the counters that are not negative. -/
def receiptBoundary (receipt : PreparedReceipt Digest) (current : Nat) : Nat :=
  let reported := [receipt.resetBoundary, receipt.sequenceFloor, receipt.serverAckSequence,
    receipt.serverMaximumSeen, receipt.newestStoredSequence, receipt.newestSyncableSequence,
    receipt.nextSequence.map (· - 1)]
  (reported.map fun value => (value.getD 0).toNat).foldr max current

theorem le_foldr_max (start : Nat) (values : List Nat) : start ≤ values.foldr max start := by
  induction values with
  | nil => exact le_rfl
  | cons value rest ih => exact ih.trans (le_max_right _ _)

theorem mem_le_foldr_max (start : Nat) {values : List Nat} {value : Nat} (member : value ∈ values) :
    value ≤ values.foldr max start := by
  induction values with
  | nil => cases member
  | cons first rest ih =>
      cases List.mem_cons.mp member with
      | inl same => exact same ▸ le_max_left _ _
      | inr later => exact (ih later).trans (le_max_right _ _)

theorem foldr_max_le {start bound : Nat} {values : List Nat} (least : start ≤ bound)
    (each : ∀ value ∈ values, value ≤ bound) : values.foldr max start ≤ bound := by
  induction values with
  | nil => exact least
  | cons first rest ih =>
      apply max_le (each first List.mem_cons_self)
      exact ih fun value member => each value (List.mem_cons_of_mem _ member)

omit [DecidableEq Digest] in
theorem le_receiptBoundary (receipt : PreparedReceipt Digest) (current : Nat) :
    current ≤ receiptBoundary receipt current := le_foldr_max _ _

/-- Every sequence a prepared receipt reports lies at or below the boundary. -/
structure PreparedReceipt.Covered (receipt : PreparedReceipt Digest) (boundary : Nat) : Prop where
  resetBoundary : ∀ value ∈ receipt.resetBoundary, value ≤ boundary
  sequenceFloor : ∀ value ∈ receipt.sequenceFloor, value ≤ boundary
  serverAckSequence : ∀ value ∈ receipt.serverAckSequence, value ≤ boundary
  serverMaximumSeen : ∀ value ∈ receipt.serverMaximumSeen, value ≤ boundary
  newestStoredSequence : ∀ value ∈ receipt.newestStoredSequence, value ≤ boundary
  newestSyncableSequence : ∀ value ∈ receipt.newestSyncableSequence, value ≤ boundary
  nextSequence : ∀ value ∈ receipt.nextSequence, value - 1 ≤ boundary

omit [DecidableEq Digest] in
theorem receiptBoundary_covered (receipt : PreparedReceipt Digest) (current : Nat) :
    receipt.Covered (receiptBoundary receipt current) := by
  -- A reported value is below its own natural part, which is one of the values of the maximum.
  have below : ∀ {field : Option Int}, (field.getD 0).toNat ≤ receiptBoundary receipt current →
      ∀ value ∈ field, value ≤ receiptBoundary receipt current := by
    intro field least value member
    rw [Option.mem_def.mp member] at least
    exact (Int.self_le_toNat value).trans (Int.ofNat_le.mpr least)
  constructor
  · exact below (mem_le_foldr_max current (by simp))
  · exact below (mem_le_foldr_max current (by simp))
  · exact below (mem_le_foldr_max current (by simp))
  · exact below (mem_le_foldr_max current (by simp))
  · exact below (mem_le_foldr_max current (by simp))
  · exact below (mem_le_foldr_max current (by simp))
  · intro value member
    have shifted : value - 1 ∈ receipt.nextSequence.map (· - 1) := Option.mem_map_of_mem (· - 1) member
    exact below (mem_le_foldr_max current (by simp)) (value - 1) shifted

/-! ## What an accepted prepared receipt says -/

theorem requiredReceiptInteger_ok {field : String} {value : Option Int} {least maximum n : Int}
    (ok : requiredReceiptInteger field value least maximum = .ok n) : value = some n ∧ least ≤ n ∧ n ≤ maximum := by
  unfold requiredReceiptInteger at ok
  split at ok
  · split at ok
    · next within =>
        cases ok
        exact ⟨rfl, within⟩
    · cases ok
  · cases ok

omit [DecidableEq Digest] in
/-- The counters are the receipt's own, and none is negative. -/
theorem PreparedReceipt.counters_ok {receipt : PreparedReceipt Digest} {counters : PreparedCounters}
    (ok : receipt.counters = .ok counters) :
    receipt.serverAckSequence = some counters.serverAckSequence ∧
    receipt.serverMaximumSeen = some counters.serverMaximumSeen ∧
    receipt.resetBoundary = some counters.resetBoundary ∧
    receipt.sequenceFloor = some counters.sequenceFloor ∧
    receipt.newestStoredSequence = some counters.newestStoredSequence ∧
    receipt.newestSyncableSequence = some counters.newestSyncableSequence := by
  rw [PreparedReceipt.counters] at ok
  obtain ⟨serverAck, ack, ok⟩ := bind_eq_ok.mp ok
  obtain ⟨serverMaximum, maximum, ok⟩ := bind_eq_ok.mp ok
  obtain ⟨boundary, reset, ok⟩ := bind_eq_ok.mp ok
  obtain ⟨floor, floored, ok⟩ := bind_eq_ok.mp ok
  obtain ⟨_, _, ok⟩ := bind_eq_ok.mp ok
  obtain ⟨_, _, ok⟩ := bind_eq_ok.mp ok
  obtain ⟨stored, newest, ok⟩ := bind_eq_ok.mp ok
  obtain ⟨syncable, newestSyncable, ok⟩ := bind_eq_ok.mp ok
  obtain ⟨_, _, ok⟩ := bind_eq_ok.mp ok
  obtain ⟨_, _, ok⟩ := bind_eq_ok.mp ok
  obtain ⟨_, _, ok⟩ := bind_eq_ok.mp ok
  obtain ⟨_, _, ok⟩ := bind_eq_ok.mp ok
  obtain ⟨_, _, ok⟩ := bind_eq_ok.mp ok
  obtain ⟨_, _, ok⟩ := bind_eq_ok.mp ok
  obtain ⟨_, _, ok⟩ := bind_eq_ok.mp ok
  cases ok
  exact ⟨(requiredReceiptInteger_ok ack).1, (requiredReceiptInteger_ok maximum).1, (requiredReceiptInteger_ok reset).1,
    (requiredReceiptInteger_ok floored).1, (requiredReceiptInteger_ok newest).1,
    (requiredReceiptInteger_ok newestSyncable).1⟩

/-- An accepted receipt names the approved operation and keeps the boundary within its limit. -/
theorem validatePreparedReceipt_ok {operation : DataResetOperation} {participant : DataResetParticipant}
    {sensor : Sensor} {response : SensorResponse Digest} {receipt : PreparedReceipt Digest}
    (ok : validatePreparedReceipt canonicalSha256 operation participant sensor response = .ok receipt) :
    response.preparedReceipt = some receipt ∧ receipt.Names canonicalSha256 operation participant sensor = true ∧
    receiptBoundary receipt participant.resetBoundary ≤ maxResetBoundary := by
  rw [validatePreparedReceipt] at ok
  split at ok
  · cases ok
  · next found given =>
      obtain ⟨named, ok⟩ := raiseIf_bind_eq_ok.mp ok
      obtain ⟨counters, counted, ok⟩ := bind_eq_ok.mp ok
      obtain ⟨_, ok⟩ := raiseIf_bind_eq_ok.mp ok
      split at ok
      · obtain ⟨next, required, ok⟩ := bind_eq_ok.mp ok
        obtain ⟨_, ok⟩ := raiseIf_bind_eq_ok.mp ok
        obtain ⟨conclusive, ok⟩ := raiseIf_bind_eq_ok.mp ok
        obtain ⟨_, _, ok⟩ := bind_eq_ok.mp ok
        cases ok
        refine ⟨given, by simpa using named, ?_⟩
        obtain ⟨trusted, conclusive⟩ := not_or.mp conclusive
        have limit : counters.resetBoundary ≤ maxResetBoundary := not_lt.mp (not_or.mp conclusive).1
        obtain ⟨ack, maximum, reset, floor, stored, syncable⟩ := PreparedReceipt.counters_ok counted
        have following := (requiredReceiptInteger_ok required).1
        rw [not_not] at trusted
        have within : ∀ value, value ≤ counters.resetBoundary → value.toNat ≤ maxResetBoundary :=
          fun value least => Int.toNat_le.mpr (least.trans limit)
        apply foldr_max_le
        · have planned := within participant.resetBoundary (by rw [trusted]; exact le_max_left _ _)
          exact planned
        · simp only [ack, maximum, reset, floor, stored, syncable, following, List.map_cons, List.map_nil,
            Option.getD_some, Option.map_some, List.mem_cons, List.not_mem_nil, or_false]
          rintro value (rfl | rfl | rfl | rfl | rfl | rfl | rfl)
          · exact within _ le_rfl
          all_goals
            apply within
            rw [trusted]
            simp only [le_max_iff, le_refl, true_or, or_true]
      · cases ok

/-! ## Completion receipts -/

def CommitReceipt.Names (operation : DataResetOperation) (participant : DataResetParticipant)
    (receipt : CommitReceipt Digest) : Bool :=
  receipt.protocol == some dataResetProtocol && receipt.operationId == some operation.id &&
  receipt.deviceId == some participant.deviceId &&
  receipt.targetGeneration == some (operation.resetGeneration : Int) &&
  receipt.planRevision == some (operation.planRevision : Int) &&
  decide (receipt.planDigest = some (operation.plan.planFingerprint canonicalSha256)) &&
  receipt.state == some .completed && receipt.checkpoint == some .completed &&
  receipt.resetBoundary == some (participant.resetBoundary : Int) &&
  receipt.preparedReceiptDigest == participant.prepareReceiptDigest &&
  matchesExpected receipt.firmwareVersion participant.firmwareVersion &&
  matchesExpected receipt.firmwareBuildHash participant.firmwareBuildHash &&
  matchesExpected receipt.bootId participant.bootId &&
  matchesExpected receipt.cardGeneration participant.cardGeneration

def commitReceiptInconclusive : SensorResetCommunicationError :=
  rejection "sensor_reset_commit_receipt_inconclusive"
    "Sensor completion receipt did not prove exact prepared-data cleanup"

/-- The counters prove that exactly the prepared records are gone. -/
def CommitReceipt.checkCleanup (participant : DataResetParticipant) (receipt : CommitReceipt Digest) :
    Checked Unit := do
  let localBefore ← requiredReceiptInteger "local_records_before" receipt.localRecordsBefore
  let _ ← requiredReceiptInteger "local_records_after" receipt.localRecordsAfter
  let backlogBefore ← requiredReceiptInteger "backlog_before" receipt.backlogBefore
  let _ ← requiredReceiptInteger "backlog_after" receipt.backlogAfter
  let deleted ← requiredReceiptInteger "records_deleted" receipt.recordsDeleted
  let _ ← requiredReceiptInteger "reset_boundary" receipt.resetBoundary
  let _ ← requiredReceiptInteger "sequence_floor" receipt.sequenceFloor
  let serverAck ← requiredReceiptInteger "server_ack_sequence" receipt.serverAckSequence
  let serverMaximum ← requiredReceiptInteger "server_maximum_seen" receipt.serverMaximumSeen
  let prepared ← requiredReceiptInteger "prepared_pzem_energy_wh" receipt.preparedPzemEnergyWh 0 maxUnsignedCounter
  let commit ← requiredReceiptInteger "commit_pzem_energy_wh" receipt.commitPzemEnergyWh 0 maxUnsignedCounter
  let verified ← requiredReceiptInteger "verified_pzem_energy_wh" receipt.verifiedPzemEnergyWh 0 maxUnsignedCounter
  let started ← requiredReceiptInteger "measurement_pause_started_utc_ms" receipt.measurementPauseStartedUtcMs
  let ended ← requiredReceiptInteger "measurement_pause_ended_utc_ms" receipt.measurementPauseEndedUtcMs
  let _ ← requiredReceiptInteger "next_sequence" receipt.nextSequence 1
  let safe := participant.prepareReceiptSafe
  raiseIf (some localBefore ≠ safe.localRecordsBefore ∨ deleted ≠ localBefore ∨
      some backlogBefore ≠ safe.backlogBefore ∨ serverAck < participant.resetBoundary ∨
      serverMaximum < participant.resetBoundary ∨ commit < prepared ∨ verified < commit ∨
      some started ≠ safe.measurementPauseStartedUtcMs ∨ ended < started ∨
      receipt.measurementPauseEvidenced = false)
    commitReceiptInconclusive

def configurationChanged (summary : String) : SensorResetCommunicationError :=
  rejection "sensor_reset_configuration_changed" summary

/-- `_validate_completed_receipt` -/
def validateCompletedReceipt (operation : DataResetOperation) (participant : DataResetParticipant)
    (response : SensorResponse Digest) : Checked (CommitReceipt Digest) := do
  match response.commitReceipt with
  | none => throw (rejection "sensor_reset_commit_receipt_missing"
      "Sensor completed without a durable commit receipt")
  | some receipt =>
      raiseIf (receipt.Names canonicalSha256 operation participant = false)
        (rejection "sensor_reset_commit_receipt_mismatch"
          "Sensor completion receipt did not match the prepared operation")
      receipt.checkCleanup participant
      raiseIf (receipt.configurationPreserved = false)
        (configurationChanged "Sensor could not prove configuration preservation")
      raiseIf (receipt.pzemBaselineCaptured = false)
        (rejection "sensor_reset_energy_baseline_missing"
          "Sensor could not prove the software energy baseline was installed")
      raiseIf (receipt.localRecordsAfter ≠ some 0)
        (rejection "sensor_reset_readings_remain" "Sensor still reports local pre-reset reading records")
      raiseIf (receipt.backlogAfter ≠ some 0)
        (rejection "sensor_reset_backlog_remains" "Sensor still reports a pre-reset reading backlog")
      raiseIf (receipt.configurationPreservationDigestBefore = none ∨
          receipt.configurationPreservationDigestAfter = none ∨
          receipt.configurationPreservationDigestBefore ≠ response.configurationPreservationDigestBefore ∨
          receipt.configurationPreservationDigestAfter ≠ response.configurationPreservationDigestAfter)
        (configurationChanged "Sensor completion receipt did not cover configuration preservation digests")
      raiseIf (receipt.queuesCleared = false) (rejection "sensor_reset_queues_not_cleared"
        "Sensor could not prove pending reading queues were cleared")
      raiseIf (receipt.exportsCleared = false) (rejection "sensor_reset_exports_not_cleared"
        "Sensor could not prove local reading exports were cleared")
      raiseIf (receipt.indexesRebuilt = false) (rejection "sensor_reset_indexes_not_rebuilt"
        "Sensor could not prove reading indexes were rebuilt")
      raiseIf (receipt.sequenceFloor.getD (-1) < participant.resetBoundary ∨
          receipt.nextSequence.getD (-1) ≤ participant.resetBoundary)
        (rejection "sensor_reset_sequence_verification_failed"
          "Sensor sequence floor did not advance above the reset boundary")
      pure receipt

end Receipts
end PowerMonitor.DataReset
