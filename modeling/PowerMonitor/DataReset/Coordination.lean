import PowerMonitor.DataReset.Passes

/-! The coordinator of one operation, transaction by transaction.

A pass of the worker commits after every participant and again around every request to a
sensor, so an administrator may act and the worker may stop between any two of these
transactions. Each transaction is one action here. Only one worker runs at a time: a
process-wide advisory lock is held for a whole iteration. What the transactions read of
other tables (the device row, the backup, the rows of the site) is an input of the
action, so everything below holds whatever happens there.
-/

set_option autoImplicit false
namespace PowerMonitor.DataReset
open Ingestion Library

/-! ## The halves of an exchange -/

section Halves
variable {Digest : Type} [DecidableEq Digest] (canonicalSha256 : Canonical → Digest)

/-- How a request to a sensor ends when the worker lives to see it. -/
abbrev Reply (Digest : Type) := Except SensorResetCommunicationError (SensorResponse Digest)

/-- `_prepare_one` up to its first commit: the request to make, if any, and the rows. -/
def beginPrepare (now : Int) (operation : DataResetOperation) (participant : DataResetParticipant)
    (sensor : Sensor) : Option PrepareAction × (DataResetParticipant × Sensor) :=
  if ¬ sensor.InService then (none, participant.markNotApplicable now, sensor.release operation.id)
  else if sensor.supportsDataReset = false then
    (none, participant.markUnsupported now,
      sensor.setGate (if participant.plannedClassification = .connected then .attentionRequired
        else .pendingReconnect) true)
  else (some (prepareAction participant), participant.requestPrepare now, sensor)

/-- `_prepare_one` after the reply. -/
def finishPrepare (now : Int) (operation : DataResetOperation) (participant : DataResetParticipant) (sensor : Sensor)
    (action : PrepareAction) : Reply Digest → DataResetParticipant × Sensor
  | .error error => (participant.prepareFailed now false error, sensor.prepareFailed participant)
  | .ok response =>
      match prepareAnswered canonicalSha256 now operation participant sensor action response with
      | .ok answered => (answered, sensor)
      | .error error => (participant.prepareFailed now (declaresPrepared response.state) error,
          sensor.prepareFailed participant)

/-- `_commit_one` asks for the status of a commit it has already requested. -/
def asksStatus (participant : DataResetParticipant) : Bool := participant.state == .commitRequested

/-- `_commit_one` after the reply. `_commit_payload` fails without the digest of a prepared receipt. -/
def finishCommit (now : Int) (operation : DataResetOperation) (participant : DataResetParticipant) (sensor : Sensor)
    (status : Bool) (reply : Reply Digest) : DataResetParticipant × Sensor :=
  if status = false ∧ participant.prepareReceiptDigest = none then commitFailed participant sensor commitReceiptMissing
  else match reply with
    | .error error => commitFailed participant sensor error
    | .ok response =>
        match commitAnswered canonicalSha256 now operation participant sensor response with
        | .ok outcome => outcome
        | .error error => commitFailed participant sensor error

end Halves

/-! ## The coordinator -/

inductive Pass where | prepare | commit
  deriving DecidableEq, Repr

/-- A request the worker waits for. -/
inductive Pending where
  | prepare (action : PrepareAction)
  | commit (status : Bool)
  deriving DecidableEq, Repr

/-- Where the worker is in an iteration for this operation. After a late prepare it goes on with the
commit of the same participant. -/
inductive Worker where
  | idle
  | between (pass : Pass) (remaining : List String)
  | waiting (pass : Pass) (deviceId : String) (pending : Pending) (remaining : List String)
  | preparedLate (deviceId : String) (remaining : List String)
  deriving DecidableEq, Repr

inductive SensorRequest where
  | prepare
  | status
  | commit (preparedReceiptDigest : String)
  deriving DecidableEq, Repr

/-- What an observer of the requests and replies sees. `payload` is a call of `_commit_payload`. -/
inductive Event (Digest : Type) where
  | asked (deviceId : String) (request : SensorRequest)
  | payload (deviceId : String) (preparedReceiptDigest : Option String)
  | replied (deviceId : String) (request : SensorRequest) (reply : Reply Digest)
  | cancelAsked (deviceId : String)
  | cancelReplied (deviceId : String) (reply : Except SensorResetCommunicationError ResponseState)
  deriving DecidableEq

structure Coordination (Digest : Type) where
  operation : DataResetOperation
  worker : Worker := .idle
  log : List (Event Digest) := []

/-- One transaction, with what it reads elsewhere. `crash` stops the worker; a crash inside the single
transaction of a cancellation records nothing and leaves the first `reached` of its events. -/
inductive Action (Digest : Type) where
  | cancelDataReset
  | retryDataReset
  | beginPass
  | takeUp (now : Int) (sensor : Sensor)
  | reply (now : Int) (sensor : Sensor) (reply : Reply Digest)
  | finishPass (db : Database) (now : Int) (costs : CostEvidence)
  | requestBackup (backupId : String)
  | checkBackup (evidence : BackupEvidence)
  | centralReset (db : Database) (now : Int) (scope : Except ProblemError Unit) (purge : Purge)
  | purgeArtifacts (purged : Bool)
  | beginSensorCommit
  | cancelOperation (now : Int) (answers : CancelAnswers) (restored : Except ProblemError Unit)
  | cancelCrash (answers : CancelAnswers) (reached : Nat)
  | crash

def Worker.pass? : Worker → Option Pass
  | .idle => none
  | .between pass _ | .waiting pass _ _ _ => some pass
  | .preparedLate _ _ => some .commit

def DataResetOperation.participant? (operation : DataResetOperation) (deviceId : String) :
    Option DataResetParticipant :=
  operation.participants.find? fun participant => participant.deviceId = deviceId

namespace Coordination
variable {Digest : Type} [DecidableEq Digest] (canonicalSha256 : Canonical → Digest)

/-- An operation as `create_reset_operation` leaves it. -/
def start (operation : DataResetOperation) : Coordination Digest := { operation := operation }

variable (c : Coordination Digest)

def record (participant : DataResetParticipant) (worker : Worker) (events : List (Event Digest)) :
    Coordination Digest :=
  { operation := c.operation.setParticipant participant, worker := worker, log := c.log ++ events }

def PrepareAction.request : PrepareAction → SensorRequest
  | .prepare => .prepare
  | .status => .status

/-- The first transaction of a prepare exchange. -/
def beginPrepare (now : Int) (pass : Pass) (participant : DataResetParticipant) (sensor : Sensor)
    (remaining : List String) : Coordination Digest :=
  match DataReset.beginPrepare now c.operation participant sensor with
  | (none, outcome) => c.record outcome.1 (.between pass remaining) []
  | (some action, outcome) => c.record outcome.1 (.waiting pass participant.deviceId (.prepare action) remaining)
      [.asked participant.deviceId (PrepareAction.request action)]

/-- The first transaction of a commit exchange. -/
def beginCommit (now : Int) (participant : DataResetParticipant) (remaining : List String) : Coordination Digest :=
  let status := asksStatus participant
  let waiting := Worker.waiting .commit participant.deviceId (.commit status) remaining
  if status then c.record (participant.requestCommit now) waiting [.asked participant.deviceId .status]
  else match participant.prepareReceiptDigest with
    | none => c.record (participant.requestCommit now) waiting [.payload participant.deviceId none]
    | some digest => c.record (participant.requestCommit now) waiting
        [.payload participant.deviceId (some digest), .asked participant.deviceId (.commit digest)]

/-- The worker takes up the next participant of its pass. -/
def takeUp (now : Int) (sensor : Sensor) : Coordination Digest :=
  match c.worker with
  | .between pass (deviceId :: remaining) =>
      match c.operation.participant? deviceId with
      | none => { c with worker := .between pass remaining }
      | some participant =>
          match pass with
          | .prepare =>
              if participant.state = .prepared ∨ participant.state = .notApplicable then
                { c with worker := .between pass remaining }
              else c.beginPrepare now pass participant sensor remaining
          | .commit =>
              if participant.Settled then { c with worker := .between pass remaining }
              else if ¬ sensor.InService then
                c.record (participant.markNotApplicable now) (.between pass remaining) []
              else if NeedsPrepare participant.state then
                if sensor.supportsDataReset = false then { c with worker := .between pass remaining }
                else c.beginPrepare now pass participant sensor remaining
              else c.beginCommit now participant remaining
  | .preparedLate deviceId remaining =>
      match c.operation.participant? deviceId with
      | none => { c with worker := .between .commit remaining }
      | some participant => c.beginCommit now participant remaining
  | _ => c

/-- The worker records the reply it has waited for. -/
def recordReply (now : Int) (sensor : Sensor) (reply : Reply Digest) : Coordination Digest :=
  match c.worker with
  | .waiting pass deviceId pending remaining =>
      match c.operation.participant? deviceId with
      | none => { c with worker := .between pass remaining }
      | some participant =>
          match pending with
          | .prepare action =>
              let after := (finishPrepare canonicalSha256 now c.operation participant sensor action reply).1
              let next := if pass = .commit ∧ after.state = .prepared then Worker.preparedLate deviceId remaining
                else .between pass remaining
              c.record after next [.replied deviceId (PrepareAction.request action) reply]
          | .commit status =>
              let after := (finishCommit canonicalSha256 now c.operation participant sensor status reply).1
              let events := if status then [.replied deviceId .status reply]
                else (participant.prepareReceiptDigest.map fun digest =>
                  Event.replied deviceId (.commit digest) reply).toList
              c.record after (.between pass remaining) events
  | _ => c

/-- The worker takes the operation up for a prepare or a commit pass. -/
def beginPass : Coordination Digest :=
  let devices := c.operation.participants.map DataResetParticipant.deviceId
  if c.worker = .idle ∧ c.operation.cancelRequested = false then
    if Preparing c.operation then { c with worker := .between .prepare devices }
    else if Committing c.operation then { c with worker := .between .commit devices }
    else c
  else c

def finishPass (db : Database) (now : Int) (costs : CostEvidence) : Coordination Digest :=
  match c.worker with
  | .between .prepare [] => { c with operation := finishPreparing c.operation, worker := .idle }
  | .between .commit [] => { c with operation := finishCommitting db now c.operation costs, worker := .idle }
  | _ => c

/-- A transition of the idle worker that asks no sensor. -/
def whenIdle (guard : DataResetOperation → Prop) [DecidablePred guard]
    (effect : DataResetOperation → DataResetOperation) : Coordination Digest :=
  if c.worker = .idle ∧ guard c.operation then { c with operation := effect c.operation } else c

/-- The operation row after the central reset, as in `runCentralReset`. -/
def centralResetRow (db : Database) (now : Int) (scope : Except ProblemError Unit) (purge : Purge)
    (operation : DataResetOperation) : DataResetOperation :=
  match performCentralReset db now operation scope with
  | .error problem => operation.needsAttention problem.code problem.detail
  | .ok _ => purge.row { operation with state := .databaseResetCommitted, centralCommitAt := some now }

/-- The requests of a cancellation and their replies. -/
def cancelEvents (answers : CancelAnswers) (participants : List DataResetParticipant) : List (Event Digest) :=
  (participants.filter NeedsSensorCancel).flatMap fun participant =>
    [.cancelAsked participant.deviceId, .cancelReplied participant.deviceId (answers participant.deviceId)]

def Cancelling (operation : DataResetOperation) : Prop :=
  operation.Active ∧ operation.cancelRequested = true

instance : DecidablePred Cancelling := fun _ => inferInstanceAs (Decidable (_ ∧ _))

def act : Action Digest → Coordination Digest
  | .cancelDataReset => { c with operation := ((markCancelRequested c.operation).toOption.getD c.operation) }
  | .retryDataReset => { c with operation := ((retryResetOperation c.operation).toOption.getD c.operation) }
  | .beginPass => c.beginPass
  | .takeUp now sensor => c.takeUp now sensor
  | .reply now sensor reply => c.recordReply canonicalSha256 now sensor reply
  | .finishPass db now costs => c.finishPass db now costs
  | .requestBackup backupId => c.whenIdle (Dispatched .sensorsPrepared) (DataReset.requestBackup backupId)
  | .checkBackup evidence => c.whenIdle (Dispatched .backupRunning) (DataReset.checkBackup evidence)
  | .centralReset db now scope purge => c.whenIdle CentralReady (centralResetRow db now scope purge)
  | .purgeArtifacts purged => c.whenIdle (fun operation => operation.Active ∧ operation.Committed ∧
      operation.quarantined = true) (purgeAgain purged)
  | .beginSensorCommit => c.whenIdle (Dispatched .databaseResetCommitted) fun operation =>
      { operation with state := .sensorCommitRunning }
  | .cancelOperation now answers restored =>
      if c.worker = .idle ∧ Cancelling c.operation then
        { c with
          operation := DataReset.cancelOperation now c.operation answers restored
          log := c.log ++ cancelEvents answers c.operation.participants }
      else c
  | .cancelCrash answers reached =>
      if c.worker = .idle ∧ Cancelling c.operation then
        { c with log := c.log ++ (cancelEvents answers c.operation.participants).take reached }
      else c
  | .crash => { c with worker := .idle }

def run (actions : List (Action Digest)) : Coordination Digest := actions.foldl (act canonicalSha256) c

end Coordination
end PowerMonitor.DataReset
