import PowerMonitor.Library.Runs
import PowerMonitor.DataReset.Receipts

/-! The command queue of headless agents.

A headless agent opens no port, so the coordinator leaves commands for it in a table. The agent
picks them up with its heartbeats and posts results. The coordinator asks once for each action of an
operation and finds its command again by an idempotency key.
-/

set_option autoImplicit false
namespace PowerMonitor.DataReset
open Library

/-! ## Rows -/

inductive ResetAction where | prepare | commit | status | cancel
  deriving DecidableEq, Repr

inductive CommandType where
  | applyConfiguration | reboot | dataResetPrepare | dataResetCommit | dataResetCancel | dataResetStatus | otaUpdate
  | syncNow
  deriving DecidableEq, Repr

inductive CommandState where
  | queued | delivered | accepted | running | completed | failed | expired | cancelled
  deriving DecidableEq, Repr

/-- `data_reset_{action}` -/
def ResetAction.commandType : ResetAction → CommandType
  | .prepare => .dataResetPrepare
  | .commit => .dataResetCommit
  | .status => .dataResetStatus
  | .cancel => .dataResetCancel

/-- `data-reset:{operation}:{generation}:{action}`, or the key of a command that belongs to no reset. -/
inductive IdempotencyKey where
  | dataReset (operationId : String) (targetGeneration : Nat) (action : ResetAction)
  | other (key : String)
  deriving DecidableEq, Repr

/-- The fields read of the result an agent posts. `state` is `none` when it is none of the known ones. -/
structure CommandResult where
  protocol : Option String := none
  operationId : Option String := none
  deviceId : Option String := none
  targetGeneration : Option Int := none
  state : Option ResponseState := none
  deriving DecidableEq, Repr

structure DeviceCommand where
  id : String
  deviceId : String
  commandType : CommandType
  state : CommandState := .queued
  result : Option CommandResult := none
  idempotencyKey : IdempotencyKey
  createdAt : Int
  expiresAt : Int
  deliveredAt : Option Int := none
  acceptedAt : Option Int := none
  startedAt : Option Int := none
  completedAt : Option Int := none
  deliveryAttempts : Nat := 0
  failureCode : Option String := none
  deriving DecidableEq, Repr

namespace DeviceCommand

/-- The states in which an agent may still be given the command. -/
def Live (command : DeviceCommand) : Prop :=
  command.state = .queued ∨ command.state = .delivered ∨ command.state = .accepted ∨ command.state = .running

instance (command : DeviceCommand) : Decidable command.Live := inferInstanceAs (Decidable (_ ∨ _ ∨ _ ∨ _))

/-- `_next_command` can still deliver it. -/
def Deliverable (now : Int) (command : DeviceCommand) : Prop := command.Live ∧ now < command.expiresAt

instance (now : Int) (command : DeviceCommand) : Decidable (command.Deliverable now) :=
  inferInstanceAs (Decidable (_ ∧ _))

/-- The command belongs to this operation and generation. -/
def OfOperation (operationId : String) (targetGeneration : Nat) (command : DeviceCommand) : Prop :=
  match command.idempotencyKey with
  | .dataReset operation generation _ => operation = operationId ∧ generation = targetGeneration
  | .other _ => False

instance (operationId : String) (targetGeneration : Nat) (command : DeviceCommand) :
    Decidable (command.OfOperation operationId targetGeneration) := by
  unfold OfOperation
  split <;> infer_instance

/-- Order by creation time, then by identifier. -/
def Earlier (first second : DeviceCommand) : Prop :=
  first.createdAt < second.createdAt ∨ (first.createdAt = second.createdAt ∧ first.id < second.id)

instance (first second : DeviceCommand) : Decidable (first.Earlier second) := inferInstanceAs (Decidable (_ ∨ _))

end DeviceCommand

/-- The least row of a query with `ORDER BY` and `LIMIT 1`. -/
def firstBy (earlier : DeviceCommand → DeviceCommand → Prop) [DecidableRel earlier] :
    List DeviceCommand → Option DeviceCommand
  | [] => none
  | command :: rest => match firstBy earlier rest with
    | none => some command
    | some best => if earlier best command then some best else some command

theorem firstBy_mem {earlier : DeviceCommand → DeviceCommand → Prop} [DecidableRel earlier]
    {commands : List DeviceCommand} {command : DeviceCommand} (found : firstBy earlier commands = some command) :
    command ∈ commands := by
  induction commands with
  | nil => cases found
  | cons head rest ih =>
      rw [firstBy] at found
      split at found
      · cases found
        exact List.mem_cons_self
      · next best chosen =>
          split at found
          · cases found
            exact List.mem_cons_of_mem head (ih chosen)
          · cases found
            exact List.mem_cons_self

abbrev Queue := List DeviceCommand

/-- Update the rows with an identifier. -/
def Queue.update (queue : Queue) (id : String) (change : DeviceCommand → DeviceCommand) : Queue :=
  queue.map fun command => if command.id = id then change command else command

/-! ## `request_sensor_reset` for a headless agent -/

structure ResetRequest where
  deviceId : String
  action : ResetAction
  operationId : String
  targetGeneration : Nat
  deriving DecidableEq, Repr

def identityMismatch : SensorResetCommunicationError :=
  { code := "sensor_reset_identity_mismatch"
    summary := "Sensor reset status did not match the requested operation"
    retryable := false }

section Request
variable (receiptProblem : String → CommandResult → Option SensorResetCommunicationError)

/-- The row the request finds: the newest of the operation for a status, else the one with the key of
the action, whichever device it is for. -/
def ResetRequest.find (request : ResetRequest) (queue : Queue) : Option DeviceCommand :=
  match request.action with
  | .status => firstBy (fun first second => second.Earlier first) (queue.filter fun command =>
      command.deviceId = request.deviceId ∧ command.OfOperation request.operationId request.targetGeneration)
  | action => queue.find? fun command =>
      command.idempotencyKey = .dataReset request.operationId request.targetGeneration action

/-- The row the request inserts when it finds none. -/
def ResetRequest.command (request : ResetRequest) (id : String) (now : Int) : DeviceCommand :=
  { id := id
    deviceId := request.deviceId
    commandType := request.action.commandType
    idempotencyKey := .dataReset request.operationId request.targetGeneration request.action
    createdAt := now
    expiresAt := now + seconds (30 * 60) }

/-- `verify_reset_response`. `receiptProblem` is what the credential and the keyed digests of the
receipts raise. -/
def verifyResetResponse (request : ResetRequest) (result : CommandResult) :
    Except SensorResetCommunicationError (Option ResponseState) :=
  if result.protocol ≠ some dataResetProtocol ∨ result.operationId ≠ some request.operationId ∨
      result.deviceId ≠ some request.deviceId ∨ result.targetGeneration ≠ some (request.targetGeneration : Int) then
    .error identityMismatch
  else match receiptProblem request.deviceId result with
    | some problem => .error problem
    | none => .ok result.state

/-- The state `request_sensor_reset` answers with, given the row. -/
def ResetRequest.answer (request : ResetRequest) (command : DeviceCommand) :
    Except SensorResetCommunicationError (Option ResponseState) :=
  let waiting : ResponseState := if command.commandType = .dataResetCommit then .commitAuthorized else .preparing
  match command.state, command.result with
  | .completed, some result | .cancelled, some result => verifyResetResponse receiptProblem request result
  | .failed, _ => .ok (some .attentionRequired)
  | _, _ => .ok (some waiting)

/-- `request_sensor_reset`: the answer and the table it leaves. -/
def requestSensorReset (queue : Queue) (request : ResetRequest) (id : String) (now : Int) :
    Except SensorResetCommunicationError (Option ResponseState) × Queue :=
  match request.find queue with
  | some command => (request.answer receiptProblem command, queue)
  | none => match request.action with
    | .status => (.ok (some .none), queue)
    | _ => (request.answer receiptProblem (request.command id now), queue ++ [request.command id now])

end Request

/-! ## `_next_command` and `command_result` -/

def expireCommands (queue : Queue) (deviceId : String) (now : Int) : Queue :=
  queue.map fun command =>
    if command.deviceId = deviceId ∧ command.Live ∧ command.expiresAt ≤ now then
      { command with state := .expired, failureCode := some "command_expired", completedAt := some now }
    else command

/-- The row after its delivery. -/
def DeviceCommand.deliver (now : Int) (command : DeviceCommand) : DeviceCommand :=
  { command with
    state := if command.state = .queued ∨ command.state = .delivered then .delivered else command.state
    deliveredAt := command.deliveredAt.or (some now)
    deliveryAttempts := command.deliveryAttempts + 1 }

/-- `_next_command`. `rotationMissing` says that the command hands over a credential that is gone. -/
def nextCommand (queue : Queue) (deviceId : String) (now : Int) (rotationMissing : DeviceCommand → Bool) :
    Option DeviceCommand × Queue :=
  let expired := expireCommands queue deviceId now
  match firstBy DeviceCommand.Earlier (expired.filter fun command =>
      command.deviceId = deviceId ∧ command.Live ∧ command.createdAt ≤ now ∧ now < command.expiresAt) with
  | none => (none, expired)
  | some command =>
      if command.commandType = .applyConfiguration ∧ rotationMissing command = true then
        (none, expired.update command.id fun row => { row.deliver now with
          state := .failed
          failureCode := some "credential_rotation_missing"
          completedAt := some now })
      else (some (command.deliver now), expired.update command.id (DeviceCommand.deliver now))

/-- The states an agent may report. -/
inductive ReportedState where | accepted | running | completed | failed | cancelled
  deriving DecidableEq, Repr

def ReportedState.state : ReportedState → CommandState
  | .accepted => .accepted
  | .running => .running
  | .completed => .completed
  | .failed => .failed
  | .cancelled => .cancelled

def CommandState.terminal : CommandState → Bool
  | .completed | .failed | .cancelled => true
  | _ => false

def commandUnknown : ProblemError :=
  { status := 404
    title := "Command not found"
    detail := "Command is not assigned to this device"
    code := "command_unknown" }

def commandResultConflict : ProblemError :=
  { status := 409
    title := "Command result conflict"
    detail := "Terminal result is immutable"
    code := "command_result_conflict" }

structure AgentCommandResult where
  deviceId : String
  commandId : String
  state : ReportedState
  result : CommandResult := {}
  failureCode : Option String := none
  deriving DecidableEq, Repr

/-- The row after a posted result. -/
def DeviceCommand.report (payload : AgentCommandResult) (now : Int) (command : DeviceCommand) : DeviceCommand :=
  { command with
    state := payload.state.state
    result := some payload.result
    failureCode := payload.failureCode
    acceptedAt := if payload.state = .accepted ∨ payload.state = .running then command.acceptedAt.or (some now)
      else command.acceptedAt
    startedAt := if payload.state = .running then command.startedAt.or (some now) else command.startedAt
    completedAt := if payload.state.state.terminal then some now else command.completedAt }

/-- `command_result`. `ota` is what recording the result of a firmware update raises. -/
def commandResult (queue : Queue) (payload : AgentCommandResult) (now : Int) (ota : Except ProblemError Unit) :
    Except ProblemError Queue := do
  match queue.find? fun command => command.id = payload.commandId with
  | none => throw commandUnknown
  | some command =>
      raiseIf (command.deviceId ≠ payload.deviceId) commandUnknown
      if command.state.terminal then do
        raiseIf (command.state ≠ payload.state.state ∨ command.result.getD {} ≠ payload.result) commandResultConflict
        pure queue
      else do
        if command.commandType = .otaUpdate then ota
        pure (queue.update payload.commandId (DeviceCommand.report payload now))

/-! ## Interleavings -/

/-- One transaction on the table: a request of the worker, a heartbeat or a result of an agent, or an
administrator's command. -/
inductive CommandStep where
  | request (request : ResetRequest) (id : String) (now : Int)
  | heartbeat (deviceId : String) (now : Int) (rotationMissing : DeviceCommand → Bool)
  | result (payload : AgentCommandResult) (now : Int) (ota : Except ProblemError Unit)
  | create (id deviceId : String) (commandType : CommandType) (key : String) (now lifetime : Int)

/-- `create_device_command` with a key that may be in use. -/
def createDeviceCommand (queue : Queue) (id deviceId : String) (commandType : CommandType) (key : String)
    (now lifetime : Int) : Queue :=
  if ∃ command ∈ queue, command.idempotencyKey = .other key then queue
  else queue ++ [{
    id := id
    deviceId := deviceId
    commandType := commandType
    idempotencyKey := .other key
    createdAt := now
    expiresAt := now + lifetime }]

section Runs
variable (receiptProblem : String → CommandResult → Option SensorResetCommunicationError)

def commandStep (queue : Queue) : CommandStep → Queue
  | .request request id now => (requestSensorReset receiptProblem queue request id now).2
  | .heartbeat deviceId now rotationMissing => (nextCommand queue deviceId now rotationMissing).2
  | .result payload now ota => (commandResult queue payload now ota).toOption.getD queue
  | .create id deviceId commandType key now lifetime =>
      createDeviceCommand queue id deviceId commandType key now lifetime

def commandRun (steps : List CommandStep) : Queue := steps.foldl (commandStep receiptProblem) []

/-- What holds of the table in every run. -/
structure Keyed (queue : Queue) : Prop where
  keys : (queue.map DeviceCommand.idempotencyKey).Nodup
  finished : ∀ command ∈ queue, command.state = .completed ∨ command.state = .cancelled → command.result ≠ none

variable {queue : Queue}

theorem Keyed.unique (keyed : Keyed queue) {first second : DeviceCommand} (firstIn : first ∈ queue)
    (secondIn : second ∈ queue) (same : first.idempotencyKey = second.idempotencyKey) : first = second :=
  List.inj_on_of_nodup_map keyed.keys firstIn secondIn same

theorem Keyed.map (keyed : Keyed queue) {change : DeviceCommand → DeviceCommand}
    (key : ∀ command, (change command).idempotencyKey = command.idempotencyKey)
    (finished : ∀ command ∈ queue, (change command).state = .completed ∨ (change command).state = .cancelled →
      (change command).result ≠ none) : Keyed (queue.map change) where
  keys := by
    have same : DeviceCommand.idempotencyKey ∘ change = DeviceCommand.idempotencyKey := funext key
    rw [List.map_map, same]
    exact keyed.keys
  finished := by
    intro command inside
    obtain ⟨old, oldInside, rfl⟩ := List.mem_map.mp inside
    exact finished old oldInside

theorem Keyed.append (keyed : Keyed queue) {command : DeviceCommand}
    (fresh : ∀ old ∈ queue, old.idempotencyKey ≠ command.idempotencyKey) (queued : command.state = .queued) :
    Keyed (queue ++ [command]) where
  keys := by
    rw [List.map_append, List.nodup_append]
    refine ⟨keyed.keys, List.nodup_singleton _, ?_⟩
    intro key inside other single
    obtain ⟨old, oldInside, rfl⟩ := List.mem_map.mp inside
    rw [List.mem_singleton.mp single]
    exact fresh old oldInside
  finished := by
    intro row inside done
    rcases List.mem_append.mp inside with old | new
    · exact keyed.finished row old done
    · rw [List.mem_singleton.mp new, queued] at done
      rcases done with done | done <;> cases done

theorem requestSensorReset_keyed (keyed : Keyed queue) (request : ResetRequest) (id : String) (now : Int) :
    Keyed (requestSensorReset receiptProblem queue request id now).2 := by
  rw [requestSensorReset]
  split
  · exact keyed
  · next missing =>
      split
      · exact keyed
      · next asked =>
          refine keyed.append (fun old inside same => ?_) rfl
          -- The lookup by key has just found nothing.
          have unused : queue.find? (fun command => command.idempotencyKey =
              .dataReset request.operationId request.targetGeneration request.action) = none := by
            rw [ResetRequest.find] at missing
            split at missing
            · next status => exact absurd status asked
            · exact missing
          have other := List.find?_eq_none.mp unused old inside
          exact other (decide_eq_true same)

theorem nextCommand_keyed (keyed : Keyed queue) (deviceId : String) (now : Int)
    (rotationMissing : DeviceCommand → Bool) : Keyed (nextCommand queue deviceId now rotationMissing).2 := by
  have expired : Keyed (expireCommands queue deviceId now) := by
    refine keyed.map (fun command => ?_) fun command inside done => ?_
    · split <;> rfl
    · split at done
      · rcases done with done | done <;> cases done
      · next kept =>
          rw [if_neg kept]
          exact keyed.finished command inside done
  unfold nextCommand
  dsimp only
  split
  · exact expired
  · next command chosen =>
      have live : command.Live := by
        have inside := firstBy_mem chosen
        rw [List.mem_filter] at inside
        exact (of_decide_eq_true inside.2).2.1
      split
      · refine expired.map (fun row => ?_) fun row inside done => ?_
        · split <;> rfl
        · split at done
          · rcases done with done | done <;> cases done
          · next other =>
              rw [if_neg other]
              exact expired.finished row inside done
      · refine expired.map (fun row => ?_) fun row inside done => ?_
        · split <;> rfl
        · split at done
          · next own =>
              rw [if_pos own]
              apply expired.finished row inside
              dsimp only [DeviceCommand.deliver] at done
              split at done
              · rcases done with done | done <;> cases done
              · exact done
          · next other =>
              rw [if_neg other]
              exact expired.finished row inside done

theorem commandResult_keyed (keyed : Keyed queue) (payload : AgentCommandResult) (now : Int)
    (ota : Except ProblemError Unit) : Keyed ((commandResult queue payload now ota).toOption.getD queue) := by
  cases result : commandResult queue payload now ota with
  | error problem => exact keyed
  | ok after =>
      rw [commandResult] at result
      split at result
      · cases result
      · obtain ⟨_, result⟩ := raiseIf_bind_eq_ok.mp result
        split at result
        · obtain ⟨_, result⟩ := raiseIf_bind_eq_ok.mp result
          cases result
          exact keyed
        · have reported : Keyed (queue.update payload.commandId (DeviceCommand.report payload now)) := by
            refine keyed.map (fun command => ?_) fun command inside done => ?_
            · split <;> rfl
            · split at done
              · next own =>
                  rw [if_pos own]
                  exact Option.some_ne_none _
              · next other =>
                  rw [if_neg other]
                  exact keyed.finished command inside done
          dsimp only at result
          split at result
          · obtain ⟨_, _, result⟩ := bind_eq_ok.mp result
            cases result
            exact reported
          · cases result
            exact reported

theorem commandStep_keyed (keyed : Keyed queue) (step : CommandStep) :
    Keyed (commandStep receiptProblem queue step) := by
  cases step with
  | request request id now => exact requestSensorReset_keyed receiptProblem keyed request id now
  | heartbeat deviceId now rotationMissing => exact nextCommand_keyed keyed deviceId now rotationMissing
  | result payload now ota => exact commandResult_keyed keyed payload now ota
  | create id deviceId commandType key now lifetime =>
      rw [commandStep, createDeviceCommand]
      split
      · exact keyed
      · next unused =>
          exact keyed.append (fun old inside same => unused ⟨old, inside, same⟩) rfl

theorem commandRun_keyed (steps : List CommandStep) : Keyed (commandRun receiptProblem steps) := by
  refine foldl_invariant (P := Keyed) ?_ (fun _ step keyed => commandStep_keyed receiptProblem keyed step) steps
  exact ⟨List.nodup_nil, fun command inside => by cases inside⟩

/-! ## Waiting for a command -/

/-- The answers that make the coordinator wait. -/
def Waits (answer : Except SensorResetCommunicationError (Option ResponseState)) : Prop :=
  answer = .ok (some .preparing) ∨ answer = .ok (some .commitAuthorized)

/-- The action an answer is about: for a status, that of the newest command. -/
def ResetRequest.awaited (request : ResetRequest) (queue : Queue) : Option ResetAction :=
  match request.action with
  | .status => (request.find queue).bind fun command => match command.idempotencyKey with
    | .dataReset _ _ action => some action
    | .other _ => none
  | action => some action

/-- The table holds a command of the operation and the awaited action that the agent can still get. -/
def Awaitable (request : ResetRequest) (now : Int) (before after : Queue) : Prop :=
  ∃ action ∈ request.awaited before, ∃ command ∈ after, command.deviceId = request.deviceId ∧
    command.idempotencyKey = .dataReset request.operationId request.targetGeneration action ∧ command.Deliverable now

/-- The row is another agent's, has expired, or has ended with a result that says to wait. -/
def Orphaned (request : ResetRequest) (now : Int) (command : DeviceCommand) : Prop :=
  (command.Live ∧ (command.deviceId ≠ request.deviceId ∨ command.expiresAt ≤ now)) ∨ command.state = .expired ∨
  ((command.state = .completed ∨ command.state = .cancelled) ∧ ∃ result ∈ command.result,
    verifyResetResponse receiptProblem request result = .ok result.state ∧
    (result.state = some .preparing ∨ result.state = some .commitAuthorized))

theorem ResetRequest.find_some {request : ResetRequest} {command : DeviceCommand}
    (found : request.find queue = some command) :
    command ∈ queue ∧ ∃ action ∈ request.awaited queue,
      command.idempotencyKey = .dataReset request.operationId request.targetGeneration action := by
  cases asked : request.action with
  | status =>
      have newest := found
      rw [ResetRequest.find, asked] at newest
      have inside := List.mem_filter.mp (firstBy_mem newest)
      have own := (of_decide_eq_true inside.2).2
      rw [DeviceCommand.OfOperation] at own
      split at own
      · next operation generation action key =>
          obtain ⟨rfl, rfl⟩ := own
          refine ⟨inside.1, action, ?_, key⟩
          rw [ResetRequest.awaited, asked]
          dsimp only
          rw [found, Option.bind_some, key]
          exact Option.mem_def.mpr rfl
      · exact own.elim
  | prepare | commit | cancel =>
      have keyed := found
      rw [ResetRequest.find, asked] at keyed
      refine ⟨List.mem_of_find?_eq_some keyed, _, ?_, by simpa using List.find?_some keyed⟩
      rw [ResetRequest.awaited, asked]
      exact Option.mem_def.mpr rfl

theorem ResetRequest.answer_live {request : ResetRequest} {command : DeviceCommand} (live : command.Live) :
    Waits (request.answer receiptProblem command) := by
  unfold ResetRequest.answer
  dsimp only
  rcases live with state | state | state | state
  all_goals
    rw [state]
    dsimp only
    split
    · exact .inr rfl
    · exact .inl rfl

theorem verifyResetResponse_ok {request : ResetRequest} {result : CommandResult} {state : Option ResponseState}
    (ok : verifyResetResponse receiptProblem request result = .ok state) : state = result.state := by
  rw [verifyResetResponse] at ok
  split at ok
  · cases ok
  · split at ok
    · cases ok
    · cases ok
      rfl

/-- An answer to wait that is about a finished command repeats the result of the agent. -/
theorem ResetRequest.answer_finished {request : ResetRequest} {command : DeviceCommand} {result : CommandResult}
    (done : command.state = .completed ∨ command.state = .cancelled) (given : command.result = some result) :
    request.answer receiptProblem command = verifyResetResponse receiptProblem request result := by
  unfold ResetRequest.answer
  dsimp only
  rcases done with state | state <;> rw [state, given]

theorem orphaned_waits {request : ResetRequest} {now : Int} {command : DeviceCommand}
    (orphaned : Orphaned receiptProblem request now command) : Waits (request.answer receiptProblem command) := by
  rcases orphaned with ⟨live, _⟩ | expired | ⟨done, result, given, verified, state⟩
  · exact ResetRequest.answer_live receiptProblem live
  · unfold ResetRequest.answer
    dsimp only
    rw [expired]
    dsimp only
    split
    · exact .inr rfl
    · exact .inl rfl
  · rw [ResetRequest.answer_finished receiptProblem done given, verified]
    exact state.imp (fun same => congrArg _ same) fun same => congrArg _ same

/-- An orphaned row is not one the agent of the request can still get. -/
theorem Orphaned.lost {request : ResetRequest} {now : Int} {command : DeviceCommand}
    (orphaned : Orphaned receiptProblem request now command) (own : command.deviceId = request.deviceId) :
    ¬ command.Deliverable now := by
  intro deliverable
  rcases orphaned with ⟨_, other | late⟩ | expired | ⟨done, _⟩
  · exact other own
  · exact absurd deliverable.2 (not_lt.mpr late)
  · rcases deliverable.1 with state | state | state | state <;> rw [expired] at state <;> cases state
  · rcases deliverable.1 with state | state | state | state <;> rw [state] at done <;>
      rcases done with done | done <;> cases done

/-- A row that makes the coordinator wait without being orphaned can still be delivered. -/
theorem waits_deliverable (keyed : Keyed queue) {request : ResetRequest} {now : Int} {command : DeviceCommand}
    (inside : command ∈ queue) (waits : Waits (request.answer receiptProblem command))
    (kept : ¬ Orphaned receiptProblem request now command) :
    command.deviceId = request.deviceId ∧ command.Deliverable now := by
  have live : command.Live → command.deviceId = request.deviceId ∧ command.Deliverable now := by
    intro live
    have bound := not_or.mp (not_and.mp (not_or.mp kept).1 live)
    exact ⟨not_not.mp bound.1, live, not_le.mp bound.2⟩
  have unfinished : ¬ (command.state = .completed ∨ command.state = .cancelled) := by
    intro done
    obtain ⟨result, given⟩ := Option.ne_none_iff_exists'.mp (keyed.finished command inside done)
    rw [ResetRequest.answer_finished receiptProblem done given] at waits
    apply kept
    refine .inr (.inr ⟨done, result, given, ?_⟩)
    rcases waits with reported | reported
    · have state := verifyResetResponse_ok receiptProblem reported
      exact ⟨reported.trans (congrArg _ state), .inl state.symm⟩
    · have state := verifyResetResponse_ok receiptProblem reported
      exact ⟨reported.trans (congrArg _ state), .inr state.symm⟩
  cases state : command.state with
  | queued => exact live (.inl state)
  | delivered => exact live (.inr (.inl state))
  | accepted => exact live (.inr (.inr (.inl state)))
  | running => exact live (.inr (.inr (.inr state)))
  | completed => exact absurd (.inl state) unfinished
  | cancelled => exact absurd (.inr state) unfinished
  | expired => exact absurd (.inr (.inl state)) kept
  | failed =>
      unfold ResetRequest.answer at waits
      dsimp only at waits
      rw [state] at waits
      rcases waits with reported | reported <;> cases reported

/-- In every interleaving, an answer that makes the coordinator wait is backed by a command the agent
can still get exactly when the row it finds is not orphaned. -/
theorem headless_wait_is_backed (steps : List CommandStep) (request : ResetRequest) (id : String) (now : Int) :
    let queue := commandRun receiptProblem steps
    let requested := requestSensorReset receiptProblem queue request id now
    (Waits requested.1 → Awaitable request now queue requested.2) ↔
      ∀ command, request.find queue = some command → ¬ Orphaned receiptProblem request now command := by
  intro queue requested
  have keyed : Keyed queue := commandRun_keyed receiptProblem steps
  cases found : request.find queue with
  | some command =>
      obtain ⟨inside, action, awaited, key⟩ := ResetRequest.find_some found
      have same : requested = (request.answer receiptProblem command, queue) := by
        dsimp only [requested]
        rw [requestSensorReset, found]
      rw [same]
      constructor
      · intro backed row chosen orphaned
        obtain rfl := Option.some.inj chosen
        obtain ⟨named, namedAwaited, other, otherIn, own, otherKey, deliverable⟩ :=
          backed (orphaned_waits receiptProblem orphaned)
        obtain rfl := Option.some.inj (namedAwaited.symm.trans awaited)
        obtain rfl := keyed.unique otherIn inside (otherKey.trans key.symm)
        exact orphaned.lost receiptProblem own deliverable
      · intro kept waits
        obtain ⟨own, deliverable⟩ := waits_deliverable receiptProblem keyed inside waits (kept command rfl)
        exact ⟨action, awaited, command, inside, own, key, deliverable⟩
  | none =>
      refine iff_of_true (fun waits => ?_) fun command impossible => by cases impossible
      dsimp only [requested] at waits ⊢
      rw [requestSensorReset, found] at waits ⊢
      dsimp only at waits ⊢
      cases asked : request.action with
      | status =>
          rw [asked] at waits
          rcases waits with reported | reported <;> cases reported
      | prepare | commit | cancel =>
          -- The row has just been inserted.
          refine ⟨request.action, ?_, request.command id now, List.mem_append_right _ List.mem_cons_self, rfl, rfl,
            .inl rfl, ?_⟩
          · rw [ResetRequest.awaited, asked]
            exact Option.mem_def.mpr rfl
          · simp only [ResetRequest.command, seconds]
            omega

/-- The agent is silent for half an hour, and its next heartbeat expires the prepare command. -/
theorem expired_command_awaited :
    let request : ResetRequest := ⟨"agent", .prepare, "reset", 1⟩
    let queue := commandRun (fun _ _ => none) [.request request "command" 0,
      .heartbeat "agent" (seconds 1800) fun _ => false]
    let requested := requestSensorReset (fun _ _ => none) queue request "again" (seconds 1801)
    Waits requested.1 ∧ ¬ Awaitable request (seconds 1801) queue requested.2 := by
  intro request queue requested
  refine ⟨.inl (by decide), ?_⟩
  have lost : ∀ command ∈ requested.2, ¬ command.Deliverable (seconds 1801) := by decide
  rintro ⟨_, _, command, inside, _, _, deliverable⟩
  exact lost command inside deliverable

end Runs
end PowerMonitor.DataReset
