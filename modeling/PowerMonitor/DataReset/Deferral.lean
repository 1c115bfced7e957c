import PowerMonitor.DataReset.Commands
import PowerMonitor.DataReset.Safety

/-! One prepare pass over the participants of an operation.

A sensor is asked over its address, or through the command queue of headless agents. What a sensor
with an address answers is an input; what an agent answers is in the queue.
-/

set_option autoImplicit false
namespace PowerMonitor.DataReset
open Library

/-! ## Requests over either transport -/

/-- What the pass meets outside of the database. `headless` is the protocol version of a device, and
`receipts` the receipts of a result whose digests are valid. -/
structure Network (Digest : Type) where
  headless : String → Bool
  direct : String → Exchange Digest
  receipts : CommandResult → SensorResponse Digest
  receiptProblem : String → CommandResult → Option SensorResetCommunicationError
  commandId : String → String
  clock : String → Int

/-- A request that times out. -/
def requestUnreachable : SensorResetCommunicationError :=
  { code := "sensor_reset_unreachable", summary := "Sensor reset endpoint is temporarily unreachable" }

def PrepareAction.resetAction : PrepareAction → ResetAction
  | .prepare => .prepare
  | .status => .status

def prepareRequest (operation : DataResetOperation) (participant : DataResetParticipant) : ResetRequest :=
  { deviceId := participant.deviceId
    action := (prepareAction participant).resetAction
    operationId := operation.id
    targetGeneration := operation.resetGeneration }

section Requests
variable {Digest : Type} (network : Network Digest)

/-- The response of `request_sensor_reset` for the row it finds or inserts. -/
def agentResponse (request : ResetRequest) (command : DeviceCommand) : Exchange Digest :=
  match request.answer network.receiptProblem command with
  | .error error => .failed error
  | .ok state =>
      let stated := state.getD .preparing
      match command.state, command.result with
      | .completed, some result | .cancelled, some result =>
          .answered { network.receipts result with state := stated }
      | .failed, _ => .answered { state := stated, failureCode := command.failureCode.filter (· ≠ "") }
      | _, _ => .answered { state := stated }

def agentExchange (queue : Queue) (request : ResetRequest) (id : String) (now : Int) : Exchange Digest × Queue :=
  match request.find queue with
  | some command => (agentResponse network request command, queue)
  | none => match request.action with
    | .status => (.answered { state := .none }, queue)
    | _ => (agentResponse network request (request.command id now), queue ++ [request.command id now])

/-- `request_sensor_reset` -/
def Network.exchange (queue : Queue) (operation : DataResetOperation) (participant : DataResetParticipant) :
    Exchange Digest × Queue :=
  if network.headless participant.deviceId then
    agentExchange network queue (prepareRequest operation participant) (network.commandId participant.deviceId)
      (network.clock participant.deviceId)
  else (network.direct participant.deviceId, queue)

end Requests

/-! ## `_prepare_operation` -/

structure PreparePass where
  operation : DataResetOperation
  db : Database
  queue : Queue

section Passes
variable {Digest : Type} [DecidableEq Digest] (canonicalSha256 : Canonical → Digest) (network : Network Digest)

def Skipped (participant : DataResetParticipant) : Prop :=
  participant.state = .prepared ∨ participant.state = .notApplicable

instance : DecidablePred Skipped := fun _ => inferInstanceAs (Decidable (_ ∨ _))

/-- The exchange with a device, which only a device in service that advertises the protocol is asked for. -/
def askDevice (pass : PreparePass) (participant : DataResetParticipant) (sensor : Sensor) : Exchange Digest × Queue :=
  if sensor.InService ∧ sensor.supportsDataReset = true then
    network.exchange pass.queue pass.operation participant
  else (.stopped, pass.queue)

/-- One turn of the loop. -/
def prepareParticipant (pass : PreparePass) (participant : DataResetParticipant) : PreparePass :=
  if Skipped participant then pass
  else match pass.db.device? participant.deviceId with
    | none =>
        let operation := pass.operation.setParticipant
          (participant.markNotApplicable (network.clock participant.deviceId))
        { pass with operation := operation, db := pass.db.setOperation operation }
    | some sensor =>
        let asked := askDevice network pass participant sensor
        let outcome := prepareOne canonicalSha256 (network.clock participant.deviceId) pass.operation participant
          sensor asked.1
        { operation := pass.operation.setParticipant outcome.1
          db := pass.db.record pass.operation participant.deviceId outcome
          queue := asked.2 }

/-- The participants in the order of their devices. -/
def DataResetOperation.byDevice (operation : DataResetOperation) : List DataResetParticipant :=
  operation.participants.mergeSort fun first second => first.deviceId ≤ second.deviceId

def prepareLoop (pass : PreparePass) : PreparePass := pass.operation.byDevice.foldl (prepareParticipant canonicalSha256 network) pass

def prepareOperation (pass : PreparePass) : PreparePass :=
  let prepared := prepareLoop canonicalSha256 network pass
  let finished := finishPreparing prepared.operation
  { prepared with operation := finished, db := prepared.db.setOperation finished }

/-- The participant that a turn of the loop leaves. -/
def preparedParticipant (pass : PreparePass) (participant : DataResetParticipant) : DataResetParticipant :=
  if Skipped participant then participant
  else match pass.db.device? participant.deviceId with
    | none => participant.markNotApplicable (network.clock participant.deviceId)
    | some sensor => (prepareOne canonicalSha256 (network.clock participant.deviceId) pass.operation participant
        sensor (askDevice network pass participant sensor).1).1

/-! ## Silence -/

def PlannedDeferred (participant : DataResetParticipant) : Prop :=
  participant.plannedClassification = .disconnected ∨ participant.plannedClassification = .unsupported

/-- The participants of an operation as it was created: what is neither connected nor deferred takes no part. -/
def Planned (participant : DataResetParticipant) : Prop :=
  participant.plannedClassification = .connected ∨ PlannedDeferred participant ∨ participant.state = .notApplicable

/-- No result in the queue was posted by the device or names it. -/
def Unheard (deviceId : String) (queue : Queue) : Prop :=
  ∀ command ∈ queue, ∀ result ∈ command.result, command.deviceId ≠ deviceId ∧ result.deviceId ≠ some deviceId

/-- Nothing is received from the device. -/
structure Silent (deviceId : String) (queue : Queue) : Prop where
  direct : network.direct deviceId = .failed requestUnreachable
  unheard : Unheard deviceId queue

/-- The pass asks the device through the queue. -/
def AsksAgent (db : Database) (participant : DataResetParticipant) : Prop :=
  ¬ Skipped participant ∧ network.headless participant.deviceId = true ∧
    ∃ sensor ∈ db.device? participant.deviceId, sensor.InService ∧ sensor.supportsDataReset = true

end Passes

section Silence
variable {Digest : Type} {network : Network Digest}

theorem PlannedDeferred.not_connected {participant : DataResetParticipant} (deferred : PlannedDeferred participant) :
    participant.plannedClassification ≠ .connected := by
  intro connected
  rw [PlannedDeferred, connected] at deferred
  rcases deferred with same | same <;> cases same

theorem Unheard.exchange {deviceId : String} {queue : Queue} (unheard : Unheard deviceId queue)
    (operation : DataResetOperation) (participant : DataResetParticipant) :
    Unheard deviceId (network.exchange queue operation participant).2 := by
  unfold Network.exchange agentExchange
  split
  · split
    · exact unheard
    · split
      · exact unheard
      · intro command member result found
        rcases List.mem_append.mp member with old | new
        · exact unheard command old result found
        · cases List.mem_singleton.mp new
          cases found
  · exact unheard

/-- An answer without a prepared receipt. -/
def Unprepared (exchange : Exchange Digest) : Prop :=
  (∃ error, exchange = .failed error ∧ error.retryable = false) ∨
    ∃ response, exchange = .answered response ∧ response.preparedReceipt = none

theorem agentResponse_unprepared {request : ResetRequest} {command : DeviceCommand}
    (unheard : ∀ result ∈ command.result, result.deviceId ≠ some request.deviceId) :
    Unprepared (agentResponse network request command) := by
  have mismatch (result : CommandResult) (found : command.result = some result) :
      verifyResetResponse network.receiptProblem request result = .error identityMismatch := by
    rw [verifyResetResponse, if_pos (.inr (.inr (.inl (unheard result found))))]
  unfold agentResponse ResetRequest.answer
  cases state : command.state <;> cases found : command.result
  case completed.some result => exact .inl ⟨identityMismatch, by simp [mismatch result found], rfl⟩
  case cancelled.some result => exact .inl ⟨identityMismatch, by simp [mismatch result found], rfl⟩
  all_goals exact .inr ⟨_, rfl, rfl⟩

/-- A device that is not heard is never prepared through the queue. -/
theorem agentExchange_unprepared {queue : Queue} {request : ResetRequest} (unheard : Unheard request.deviceId queue)
    (id : String) (now : Int) (asks : request.action = .prepare ∨ request.action = .status) :
    Unprepared (agentExchange network queue request id now).1 := by
  unfold agentExchange
  cases found : request.find queue with
  | some command =>
      refine agentResponse_unprepared fun result posted => (unheard command ?_ result posted).2
      unfold ResetRequest.find at found
      split at found
      · exact List.mem_of_mem_filter (firstBy_mem found)
      · exact List.mem_of_find?_eq_some found
  | none =>
      rcases asks with prepare | status
      · rw [prepare]
        have fresh : Unprepared (agentResponse network request (request.command id now)) :=
          agentResponse_unprepared fun result posted => nomatch posted
        exact fresh
      · rw [status]
        exact .inr ⟨_, rfl, rfl⟩

end Silence

/-! ## One participant -/

section Participant
variable {Digest : Type} [DecidableEq Digest] {canonicalSha256 : Canonical → Digest} {network : Network Digest}
variable {pass : PreparePass} {participant : DataResetParticipant}

theorem preparedParticipant_same : (preparedParticipant canonicalSha256 network pass participant).deviceId =
      participant.deviceId ∧
    (preparedParticipant canonicalSha256 network pass participant).plannedClassification =
      participant.plannedClassification := by
  unfold preparedParticipant
  split
  · exact ⟨rfl, rfl⟩
  · split
    · exact ⟨rfl, rfl⟩
    · next sensor _ =>
        have acted := (prepareOne_outcome (network.clock participant.deviceId) pass.operation participant sensor
          canonicalSha256 (askDevice network pass participant sensor).1).1
        exact ⟨acted.evolves.deviceId, acted.evolves.planned⟩

theorem ready_of_skipped (skipped : Skipped participant) : ReadyForCommit participant := by
  rcases skipped with prepared | notApplicable
  · exact .inl prepared
  · exact .inr (.inl notApplicable)

theorem Skipped.kept (skipped : Skipped participant) :
    preparedParticipant canonicalSha256 network pass participant = participant := by
  rw [preparedParticipant, if_pos skipped]

/-- An answer without a prepared receipt leaves the participant pending, requested or in need of attention. -/
theorem prepareAnswered_unprepared {response : SensorResponse Digest} (missing : response.preparedReceipt = none)
    (now : Int) (operation : DataResetOperation) (sensor : Sensor) (action : PrepareAction) :
    (∃ answered, prepareAnswered canonicalSha256 now operation participant sensor action response = .ok answered ∧
      (answered.state = .pending ∨ answered.state = .attentionRequired ∨ answered.state = .prepareRequested)) ∨
    ∃ error, prepareAnswered canonicalSha256 now operation participant sensor action response = .error error ∧
      error.retryable = false := by
  unfold prepareAnswered
  split
  · exact .inl ⟨_, rfl, .inl rfl⟩
  · split
    · refine .inr ⟨rejection "sensor_reset_prepare_receipt_missing"
        "Sensor prepared without a durable HMAC-covered receipt", ?_, rfl⟩
      rw [validatePreparedReceipt, missing]
      rfl
    · split
      · exact .inl ⟨_, rfl, .inr (.inl rfl)⟩
      · exact .inl ⟨_, rfl, .inr (.inr rfl)⟩

theorem not_ready_of_state (state : participant.state = .pending ∨ participant.state = .attentionRequired ∨
    participant.state = .prepareRequested) : ¬ ReadyForCommit participant := by
  unfold ReadyForCommit
  rcases state with state | state | state <;> simp [state]

/-- A device in service that sends no prepared receipt and is not known to be out of reach is not ready. -/
theorem prepareOne_unprepared {exchange : Exchange Digest} (unprepared : Unprepared exchange) {sensor : Sensor}
    (asked : sensor.InService ∧ sensor.supportsDataReset = true) (now : Int) (operation : DataResetOperation) :
    ¬ ReadyForCommit (prepareOne canonicalSha256 now operation participant sensor exchange).1 := by
  have failed (declared : Bool) (error : SensorResetCommunicationError) (final : error.retryable = false) :
      ¬ ReadyForCommit ((participant.requestPrepare now).prepareFailed now declared error) := by
    refine not_ready_of_state (.inr (.inl ?_))
    exact if_neg fun held => by rw [final] at held; cases held.1
  rw [prepareOne, if_neg (not_not.mpr asked.1), if_neg (by simp [asked.2])]
  rcases unprepared with ⟨error, rfl, final⟩ | ⟨response, rfl, missing⟩
  · exact failed false error final
  · dsimp only
    rcases prepareAnswered_unprepared missing now operation sensor (prepareAction participant) with
      ⟨answered, result, state⟩ | ⟨error, result, final⟩
    · rw [result]
      exact not_ready_of_state state
    · rw [result]
      exact failed _ error final

/-- A silent participant is ready after its turn, unless it is asked through the queue. -/
theorem silent_ready_iff (deferred : PlannedDeferred participant) (silent : Silent network participant.deviceId pass.queue) :
    ReadyForCommit (preparedParticipant canonicalSha256 network pass participant) ↔
      ¬ AsksAgent network pass.db participant := by
  by_cases skipped : Skipped participant
  · rw [skipped.kept]
    exact iff_of_true (ready_of_skipped skipped) fun asks => asks.1 skipped
  rw [preparedParticipant, if_neg skipped]
  cases found : pass.db.device? participant.deviceId with
  | none =>
      refine iff_of_true (.inr (.inl rfl)) fun asks => ?_
      obtain ⟨sensor, row, _⟩ := asks.2.2
      rw [found] at row
      cases row
  | some sensor =>
      dsimp only
      have own (asks : AsksAgent network pass.db participant) : sensor.InService ∧ sensor.supportsDataReset = true := by
        obtain ⟨other, row, able⟩ := asks.2.2
        rw [found] at row
        cases row
        exact able
      by_cases able : sensor.InService ∧ sensor.supportsDataReset = true
      · rw [askDevice, if_pos able, Network.exchange]
        cases transport : network.headless participant.deviceId with
        | true =>
            refine iff_of_false (prepareOne_unprepared ?_ able _ _) fun free => free ⟨skipped, transport, sensor, found, able⟩
            refine agentExchange_unprepared silent.unheard _ _ ?_
            unfold prepareRequest
            cases prepareAction participant
            · exact .inl rfl
            · exact .inr rfl
        | false =>
            refine iff_of_true ?_ fun asks => ?_
            · rw [if_neg (by simp), silent.direct, prepareOne, if_neg (not_not.mpr able.1), if_neg (by simp [able.2])]
              refine .inr (.inr ⟨deferred.not_connected, .inl ?_⟩)
              exact if_pos ⟨rfl, deferred.not_connected⟩
            · have headless := asks.2.1
              rw [transport] at headless
              cases headless
      · refine iff_of_true ?_ fun asks => able (own asks)
        rw [prepareOne]
        split
        · exact .inr (.inl rfl)
        · next inService =>
            rw [if_pos]
            · rw [DataResetParticipant.markUnsupported, if_neg deferred.not_connected]
              exact .inr (.inr ⟨deferred.not_connected, .inr (.inr rfl)⟩)
            · by_contra supports
              exact able ⟨not_not.mp inService, by simpa using supports⟩

end Participant

/-! ## The loop -/

namespace DataResetOperation
variable {operation : DataResetOperation}

theorem setParticipant_ids (new : DataResetParticipant) :
    (operation.setParticipant new).participants.map DataResetParticipant.deviceId =
      operation.participants.map DataResetParticipant.deviceId := by
  rw [setParticipant, List.map_map]
  refine List.map_congr_left fun old _ => ?_
  rw [Function.comp_apply]
  split
  · next same => exact same.symm
  · rfl

theorem setParticipant_self (unique : (operation.participants.map DataResetParticipant.deviceId).Nodup)
    {participant : DataResetParticipant} (member : participant ∈ operation.participants) :
    operation.setParticipant participant = operation := by
  have same : operation.participants.map (fun old => if old.deviceId = participant.deviceId then participant else old) =
      operation.participants.map (fun old => old) := by
    refine List.map_congr_left fun old inside => ?_
    split
    · next named => exact List.inj_on_of_nodup_map unique member inside named.symm
    · rfl
  rw [setParticipant, same, List.map_id']

theorem mem_setParticipant_of_ne {new other : DataResetParticipant} (member : other ∈ operation.participants)
    (apart : other.deviceId ≠ new.deviceId) : other ∈ (operation.setParticipant new).participants :=
  List.mem_map.mpr ⟨other, member, if_neg apart⟩

theorem new_mem_setParticipant {old new : DataResetParticipant} (member : old ∈ operation.participants)
    (same : new.deviceId = old.deviceId) : new ∈ (operation.setParticipant new).participants :=
  List.mem_map.mpr ⟨old, member, if_pos same.symm⟩

end DataResetOperation

section Loop
variable {Digest : Type} [DecidableEq Digest] {canonicalSha256 : Canonical → Digest} {network : Network Digest}

theorem turn_operation {pass : PreparePass} {participant : DataResetParticipant}
    (unique : (pass.operation.participants.map DataResetParticipant.deviceId).Nodup)
    (member : participant ∈ pass.operation.participants) :
    (prepareParticipant canonicalSha256 network pass participant).operation =
      pass.operation.setParticipant (preparedParticipant canonicalSha256 network pass participant) := by
  unfold prepareParticipant preparedParticipant
  split
  · exact (DataResetOperation.setParticipant_self unique member).symm
  · split <;> rfl

/-- A turn writes no device row but its own. -/
theorem turn_device {pass : PreparePass} {participant : DataResetParticipant} {id : String} (apart : id ≠ participant.deviceId) :
    (prepareParticipant canonicalSha256 network pass participant).db.device? id = pass.db.device? id := by
  unfold prepareParticipant
  split
  · rfl
  · split
    · rfl
    · dsimp only
      rw [Database.record, Database.updateDevice, Database.device?_updateDevices, Database.device?_setOperation]
      cases pass.db.device? id with
      | none => rfl
      | some sensor => rw [Option.map_some, if_neg apart]

theorem turn_unheard {pass : PreparePass} {participant : DataResetParticipant} {id : String} (unheard : Unheard id pass.queue) :
    Unheard id (prepareParticipant canonicalSha256 network pass participant).queue := by
  unfold prepareParticipant
  split
  · exact unheard
  · split
    · exact unheard
    · dsimp only
      unfold askDevice
      split
      · exact unheard.exchange pass.operation participant
      · exact unheard

section Turned
variable (canonicalSha256 network)

/-- What the loop leaves of a participant, whose turn has found its device row as the loop has. -/
def Turned (start : PreparePass) (participant left : DataResetParticipant) : Prop :=
  ∃ before, before.db.device? participant.deviceId = start.db.device? participant.deviceId ∧
    (∀ id, Unheard id start.queue → Unheard id before.queue) ∧
    left = preparedParticipant canonicalSha256 network before participant

/-- The participants after turns of those in a list: the others stay as they are. -/
structure Looped (start : PreparePass) (todo : List DataResetParticipant) (final : PreparePass) : Prop where
  each : ∀ left ∈ final.operation.participants,
    (∃ participant ∈ todo, Turned canonicalSha256 network start participant left) ∨
      (left ∈ start.operation.participants ∧ ∀ participant ∈ todo, left.deviceId ≠ participant.deviceId)
  kept : ∀ other ∈ start.operation.participants, (∀ participant ∈ todo, other.deviceId ≠ participant.deviceId) →
    other ∈ final.operation.participants
  all : ∀ participant ∈ todo, ∃ left ∈ final.operation.participants,
    Turned canonicalSha256 network start participant left

end Turned

theorem Turned.later {start next : PreparePass} {participant left : DataResetParticipant}
    (turned : Turned canonicalSha256 network next participant left)
    (device : next.db.device? participant.deviceId = start.db.device? participant.deviceId)
    (unheard : ∀ id, Unheard id start.queue → Unheard id next.queue) :
    Turned canonicalSha256 network start participant left := by
  obtain ⟨before, found, still, same⟩ := turned
  exact ⟨before, found.trans device, fun id held => still id (unheard id held), same⟩

theorem loop_participants {todo : List DataResetParticipant} {pass : PreparePass}
    (unique : (pass.operation.participants.map DataResetParticipant.deviceId).Nodup)
    (inside : ∀ participant ∈ todo, participant ∈ pass.operation.participants)
    (distinct : (todo.map DataResetParticipant.deviceId).Nodup) :
    Looped canonicalSha256 network pass todo (todo.foldl (prepareParticipant canonicalSha256 network) pass) := by
  -- Induction on the turns that are left, from the pass that the first of them makes.
  induction todo generalizing pass with
  | nil =>
      rw [List.foldl_nil]
      have empty : ∀ participant, participant ∉ ([] : List DataResetParticipant) := fun _ => List.not_mem_nil
      exact ⟨fun left member => .inr ⟨member, fun participant none => absurd none (empty participant)⟩,
        fun other member _ => member, fun participant none => absurd none (empty participant)⟩
  | cons participant rest ih =>
      have member := inside participant List.mem_cons_self
      have written := @turn_operation _ _ canonicalSha256 network _ _ unique member
      rw [List.map_cons, List.nodup_cons] at distinct
      have apart : ∀ other ∈ rest, other.deviceId ≠ participant.deviceId := fun other later same =>
        distinct.1 (same ▸ List.mem_map_of_mem later)
      have named := (@preparedParticipant_same _ _ canonicalSha256 network pass participant).1
      have looped := @ih (prepareParticipant canonicalSha256 network pass participant)
        (by rw [written, DataResetOperation.setParticipant_ids]; exact unique)
        (fun other later => by
          rw [written]
          exact DataResetOperation.mem_setParticipant_of_ne (inside other (List.mem_cons_of_mem _ later))
            (named ▸ apart other later)) distinct.2
      have lift {other left : DataResetParticipant} (later : other ∈ rest)
          (turned : Turned canonicalSha256 network (prepareParticipant canonicalSha256 network pass participant) other left) :
          Turned canonicalSha256 network pass other left :=
        turned.later (turn_device (apart other later)) fun _ held => turn_unheard held
      have own : Turned canonicalSha256 network pass participant
          (preparedParticipant canonicalSha256 network pass participant) := ⟨pass, rfl, fun _ held => held, rfl⟩
      rw [List.foldl_cons]
      refine ⟨fun left leftIn => ?_, fun other otherIn differs => ?_, fun other otherIn => ?_⟩
      · rcases looped.each left leftIn with ⟨other, later, turned⟩ | ⟨old, differs⟩
        · exact .inl ⟨other, List.mem_cons_of_mem _ later, lift later turned⟩
        · rw [written] at old
          rcases DataResetOperation.mem_setParticipant old with rfl | ⟨old, named'⟩
          · exact .inl ⟨participant, List.mem_cons_self, own⟩
          · refine .inr ⟨old, fun other otherIn => ?_⟩
            rcases List.mem_cons.mp otherIn with rfl | later
            · exact named ▸ named'
            · exact differs other later
      · refine looped.kept other ?_ fun later laterIn => differs later (List.mem_cons_of_mem _ laterIn)
        rw [written]
        exact DataResetOperation.mem_setParticipant_of_ne otherIn (named ▸ differs participant List.mem_cons_self)
      · rcases List.mem_cons.mp otherIn with rfl | later
        · refine ⟨_, looped.kept _ ?_ fun later laterIn => ?_, own⟩
          · rw [written]
            exact DataResetOperation.new_mem_setParticipant member named
          · rw [named]
            exact (apart later laterIn).symm
        · obtain ⟨left, leftIn, turned⟩ := looped.all other later
          exact ⟨left, leftIn, lift later turned⟩

theorem prepareLoop_participants {pass : PreparePass}
    (unique : (pass.operation.participants.map DataResetParticipant.deviceId).Nodup) :
    (∀ left ∈ (prepareLoop canonicalSha256 network pass).operation.participants, ∃ participant ∈ pass.operation.participants,
      Turned canonicalSha256 network pass participant left) ∧
    ∀ participant ∈ pass.operation.participants, ∃ left ∈ (prepareLoop canonicalSha256 network pass).operation.participants,
      Turned canonicalSha256 network pass participant left := by
  have order : pass.operation.byDevice.Perm pass.operation.participants := List.mergeSort_perm _ _
  have looped := @loop_participants _ _ canonicalSha256 network _ _ unique
    (fun participant member => order.mem_iff.mp member) ((order.map _).nodup_iff.mpr unique)
  refine ⟨fun left member => ?_, fun participant member => looped.all participant (order.mem_iff.mpr member)⟩
  rcases looped.each left member with ⟨participant, inside, turned⟩ | ⟨old, apart⟩
  · exact ⟨participant, order.mem_iff.mp inside, turned⟩
  · exact absurd rfl (apart left (order.mem_iff.mpr old))

end Loop

/-! ## Whole passes -/

section Whole
variable {Digest : Type} [DecidableEq Digest]

theorem finishPreparing_participants (operation : DataResetOperation) :
    (finishPreparing operation).participants = operation.participants := by
  unfold finishPreparing
  split
  · rfl
  · split <;> rfl

theorem not_attention_of_ready {participant : DataResetParticipant} (ready : ReadyForCommit participant) :
    participant.state ≠ .attentionRequired := by
  intro attention
  exact not_ready_of_state (.inr (.inl attention)) ready

theorem finishPreparing_state_iff {operation : DataResetOperation} (preparing : operation.state ≠ .sensorsPrepared) :
    (finishPreparing operation).state = .sensorsPrepared ↔
      ∀ participant ∈ operation.participants, ReadyForCommit participant := by
  unfold finishPreparing
  split
  · next failed =>
      obtain ⟨participant, member, attention⟩ := failed
      exact iff_of_false nofun fun ready => not_attention_of_ready (ready participant member) attention
  · split
    · next ready => exact iff_of_true rfl ready
    · next waiting => exact iff_of_false preparing waiting

theorem turn_state (canonicalSha256 : Canonical → Digest) (network : Network Digest) (pass : PreparePass)
    (participant : DataResetParticipant) :
    (prepareParticipant canonicalSha256 network pass participant).operation.state = pass.operation.state := by
  unfold prepareParticipant
  split
  · rfl
  · split <;> rfl

theorem prepareLoop_state (canonicalSha256 : Canonical → Digest) (network : Network Digest) (pass : PreparePass) :
    (prepareLoop canonicalSha256 network pass).operation.state = pass.operation.state := by
  unfold prepareLoop
  generalize pass.operation.byDevice = todo
  induction todo generalizing pass with
  | nil => rfl
  | cons participant rest ih => rw [List.foldl_cons, ih, turn_state]

/-- With every connected participant prepared and nothing heard of the deferred ones, the pass goes on to the central
commit exactly when none of these is asked through the queue. -/
theorem deferred_never_block_iff (canonicalSha256 : Canonical → Digest) (network : Network Digest) (pass : PreparePass)
    (unique : (pass.operation.participants.map DataResetParticipant.deviceId).Nodup)
    (preparing : Preparing pass.operation) (planned : ∀ participant ∈ pass.operation.participants, Planned participant)
    (connected : ∀ left ∈ (prepareOperation canonicalSha256 network pass).operation.participants,
      left.plannedClassification = .connected → left.state = .prepared)
    (silent : ∀ participant ∈ pass.operation.participants, PlannedDeferred participant →
      Silent network participant.deviceId pass.queue) :
    ((prepareOperation canonicalSha256 network pass).operation.state = .sensorsPrepared ∧
        ∀ left ∈ (prepareOperation canonicalSha256 network pass).operation.participants,
          PlannedDeferred left → ReadyForCommit left) ↔
      ∀ participant ∈ pass.operation.participants, PlannedDeferred participant →
        ¬ AsksAgent network pass.db participant := by
  obtain ⟨origin, outcome⟩ :=
    @prepareLoop_participants _ _ canonicalSha256 network _ unique
  have rows : (prepareOperation canonicalSha256 network pass).operation.participants =
      (prepareLoop canonicalSha256 network pass).operation.participants := finishPreparing_participants _
  rw [rows] at connected ⊢
  have same {participant left : DataResetParticipant} (turned : Turned canonicalSha256 network pass participant left) :
      left.plannedClassification = participant.plannedClassification := by
    obtain ⟨before, _, _, rfl⟩ := turned
    exact preparedParticipant_same.2
  -- What a silent participant is left as depends on its own row alone, whenever its turn comes.
  have ready_iff {participant left : DataResetParticipant} (member : participant ∈ pass.operation.participants)
      (deferred : PlannedDeferred participant) (turned : Turned canonicalSha256 network pass participant left) :
      ReadyForCommit left ↔ ¬ AsksAgent network pass.db participant := by
    obtain ⟨before, device, unheard, rfl⟩ := turned
    have quiet := silent participant member deferred
    have asks : AsksAgent network before.db participant ↔ AsksAgent network pass.db participant := by
      rw [AsksAgent, AsksAgent, device]
    rw [silent_ready_iff deferred ⟨quiet.direct, unheard _ quiet.unheard⟩, asks]
  constructor
  · rintro ⟨_, ready⟩ participant member deferred
    obtain ⟨left, leftIn, turned⟩ := outcome participant member
    refine (ready_iff member deferred turned).mp (ready left leftIn ?_)
    rw [PlannedDeferred, same turned]
    exact deferred
  · intro free
    have each : ∀ left ∈ (prepareLoop canonicalSha256 network pass).operation.participants, ReadyForCommit left := by
      intro left leftIn
      obtain ⟨participant, member, turned⟩ := origin left leftIn
      rcases planned participant member with isConnected | deferred | notApplicable
      · exact .inl (connected left leftIn ((same turned).trans isConnected))
      · exact (ready_iff member deferred turned).mpr (free participant member deferred)
      · obtain ⟨before, _, _, rfl⟩ := turned
        rw [Skipped.kept (.inr notApplicable)]
        exact .inr (.inl notApplicable)
    refine ⟨(finishPreparing_state_iff ?_).mpr each, fun left leftIn _ => each left leftIn⟩
    rw [prepareLoop_state]
    rcases preparing with state | state <;> rw [state] <;> decide

end Whole

/-! ## A headless agent that is away -/

/-- The reset of a site whose only sensor is disconnected, as it was requested. -/
def awayReset : Database := run id (fun _ => "") meterSite (deferredReset.take 2)

def awayOperation : DataResetOperation := (awayReset.operation? "reset").get (by decide)

/-- A silent sensor that speaks over its address, or through the queue. -/
def awayNetwork (headless : Bool) : Network Canonical :=
  { headless := fun _ => headless
    direct := fun _ => .failed requestUnreachable
    receipts := fun _ => { state := .preparing }
    receiptProblem := fun _ _ => none
    commandId := id
    clock := fun _ => 2 }

def awayPass : PreparePass := ⟨awayOperation, awayReset, []⟩

instance : DecidablePred PlannedDeferred := fun _ => inferInstanceAs (Decidable (_ ∨ _))
instance : DecidablePred Planned := fun _ => inferInstanceAs (Decidable (_ ∨ _ ∨ _))

theorem away_silent (headless : Bool) (deviceId : String) : Silent (awayNetwork headless) deviceId awayPass.queue :=
  ⟨rfl, fun _ member => absurd member List.not_mem_nil⟩

theorem away_direct_never_blocks :
    ((prepareOperation id (awayNetwork false) awayPass).operation.state = .sensorsPrepared ∧
        ∀ left ∈ (prepareOperation id (awayNetwork false) awayPass).operation.participants,
          PlannedDeferred left → ReadyForCommit left) ↔
      ∀ participant ∈ awayPass.operation.participants, PlannedDeferred participant →
        ¬ AsksAgent (awayNetwork false) awayPass.db participant :=
  deferred_never_block_iff id (awayNetwork false) awayPass (by decide) (.inl (by decide))
    (by decide +kernel) (by decide +kernel) fun _ _ _ => away_silent false _

/-- The command of the agent waits in the queue, and the operation waits for it. -/
theorem away_agent_blocks :
    (awayPass.operation.plan.disconnectedSensorPolicy = .deferUntilReconnect ∧ Preparing awayPass.operation ∧
      (∀ participant ∈ awayPass.operation.participants, PlannedDeferred participant ∧
        Silent (awayNetwork true) participant.deviceId awayPass.queue)) ∧
    (prepareOperation id (awayNetwork true) awayPass).operation.state = .preparingSensors ∧
    ∃ left ∈ (prepareOperation id (awayNetwork true) awayPass).operation.participants,
      left.state = .prepareRequested ∧ ¬ ReadyForCommit left := by
  have deferred : ∀ participant ∈ awayPass.operation.participants, PlannedDeferred participant := by decide
  exact ⟨⟨by decide, .inl (by decide), fun participant member =>
    ⟨deferred participant member, away_silent true _⟩⟩, by decide +kernel, by decide +kernel⟩

end PowerMonitor.DataReset
