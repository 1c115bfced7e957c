import PowerMonitor.Alerts.Records
import Mathlib.Data.List.Sort
import Mathlib.Logic.Function.Basic

/-! The worker that delivers alerts to notification channels.

A run queues first attempts, takes a batch of due ones and works through it. It commits once for every attempt that it is
about to send, and a last time at its end; what lies between two commits is one block.
-/

set_option autoImplicit false
namespace PowerMonitor.Alerts
open Library

inductive AttemptStatus where | queued | sending | delivered | failed | cancelled
  deriving DecidableEq, Repr

structure NotificationAttempt where
  id : Nat
  alertInstanceId : Option String
  channelId : String
  status : AttemptStatus := .queued
  attemptNumber : Nat := 0
  nextAttemptAt : Option Int
  isTest : Bool := false
  deriving DecidableEq, Repr

abbrev AttemptLog := Table NotificationAttempt.id

/-! ## Queueing -/

/-- An alert as the delivery of alerts sees it. -/
structure AlertRow where
  id : String
  ruleType : String
  status : AlertStatus
  silencedUntil : Option Int := none
  deriving DecidableEq, Repr

/-- A channel with the event types of its configuration; none if it cannot be read. -/
structure NotificationChannel where
  id : String
  enabled : Bool := true
  eventTypes : List String := []
  deriving DecidableEq, Repr

def Deliverable (now : Int) (alert : AlertRow) : Prop :=
  (alert.status = .active ∨ alert.status = .acknowledged) ∧ ∀ until_ ∈ alert.silencedUntil, until_ ≤ now

instance (now : Int) (alert : AlertRow) : Decidable (Deliverable now alert) := inferInstanceAs (Decidable (_ ∧ _))

/-- The alerts and channels to deliver between, in the order of the two loops. -/
def deliveryPairs (now : Int) (alerts : List AlertRow) (channels : List NotificationChannel) : List (String × String) :=
  (alerts.filter fun alert => Deliverable now alert).flatMap fun alert =>
    (channels.filter fun channel =>
      channel.enabled = true ∧ (channel.eventTypes = [] ∨ alert.ruleType ∈ channel.eventTypes)).map fun channel =>
        (alert.id, channel.id)

def HasAttempt (log : AttemptLog) (alertId channelId : String) : Prop :=
  ∃ attempt ∈ log.rows, attempt.alertInstanceId = some alertId ∧ attempt.channelId = channelId

instance (log : AttemptLog) (alertId channelId : String) : Decidable (HasAttempt log alertId channelId) :=
  inferInstanceAs (Decidable (∃ attempt ∈ _, _))

def firstAttempt (log : AttemptLog) (now : Int) (alertId channelId : String) : NotificationAttempt :=
  { id := log.freshNumber, alertInstanceId := some alertId, channelId := channelId, nextAttemptAt := some now }

def queueFirst (now : Int) (log : AttemptLog) (pair : String × String) : AttemptLog :=
  if HasAttempt log pair.1 pair.2 then log else log.push (firstAttempt log now pair.1 pair.2) log.freshNumber_not_mem

/-! ## Sending -/

def Due (now : Int) (attempt : NotificationAttempt) : Prop :=
  attempt.status = .queued ∧ ∃ at_ ∈ attempt.nextAttemptAt, at_ ≤ now

instance (now : Int) (attempt : NotificationAttempt) : Decidable (Due now attempt) := inferInstanceAs (Decidable (_ ∧ _))

/-- The selection of a batch. Its row locks end with the block that takes them. -/
def dueAttempts (now : Int) (limit : Nat) (log : AttemptLog) : List Nat :=
  (((log.rows.filter fun attempt => Due now attempt).insertionSort fun first second =>
    first.nextAttemptAt.getD 0 ≤ second.nextAttemptAt.getD 0).take limit).map NotificationAttempt.id

def withStatus (status : AttemptStatus) (attempt : NotificationAttempt) : NotificationAttempt := { attempt with status := status }

/-- The outcome of a delivery; nothing is left to attempt. -/
def concluded (status : AttemptStatus) (attempt : NotificationAttempt) : NotificationAttempt :=
  { attempt with status := status, nextAttemptAt := none }

/-- The next attempt of the batch whose channel is available is marked for sending. The rows are those of the selection: what
became of an attempt since then is not looked at. -/
def advance (available : String → Bool) : AttemptLog → List Nat → AttemptLog × Option (Nat × List Nat)
  | log, [] => (log, none)
  | log, id :: rest =>
      match log.get? id with
      | none => advance available log rest
      | some attempt =>
          if available attempt.channelId then (log.modify id (withStatus .sending) fun _ => rfl, some (id, rest))
          else advance available (log.modify id (withStatus .cancelled) fun _ => rfl) rest

def delays : List Int := [60, 300, 900, 3600, 14400]

def retryAttempt (log : AttemptLog) (now : Int) (attempt : NotificationAttempt) : NotificationAttempt :=
  { id := log.freshNumber
    alertInstanceId := attempt.alertInstanceId
    channelId := attempt.channelId
    attemptNumber := attempt.attemptNumber + 1
    nextAttemptAt := some (now + delays.getD attempt.attemptNumber 0)
    isTest := attempt.isTest }

/-- A failed attempt is retried, up to the fifth. -/
def failAttempt (now : Int) (log : AttemptLog) (attempt : NotificationAttempt) : AttemptLog :=
  let failed := log.modify attempt.id (concluded .failed) fun _ => rfl
  if attempt.attemptNumber < 4 then failed.push (retryAttempt failed now attempt) failed.freshNumber_not_mem else failed

def recordOutcome (now : Int) (accepted : Bool) (log : AttemptLog) (id : Nat) : AttemptLog :=
  match log.get? id with
  | none => log
  | some attempt => if accepted then log.modify id (concluded .delivered) fun _ => rfl else failAttempt now log attempt

/-! ## Workers -/

/-- A run between two of its commits: the attempt it is sending and the rest of its batch. -/
structure Execution where
  current : Nat
  batch : List Nat
  now : Int
  deriving DecidableEq, Repr

/-- The committed rows, the runs in progress and what was handed to `_deliver_notification` by whom. -/
structure Deliveries where
  log : AttemptLog
  executions : String → Option Execution
  handed : List (Nat × String) := []

/-- The rest of a block, once its batch is known. -/
def Deliveries.proceed (state : Deliveries) (worker : String) (now : Int) (available : String → Bool) (batch : List Nat) :
    Deliveries :=
  let advanced := advance available state.log batch
  { state with
    log := advanced.1
    executions := Function.update state.executions worker (advanced.2.map fun next => ⟨next.1, next.2, now⟩) }

/-- The outcome is recorded; the run is not committed yet. -/
def Deliveries.conclude (state : Deliveries) (worker : String) (execution : Execution) (accepted : Bool) : Deliveries where
  log := recordOutcome execution.now accepted state.log execution.current
  executions := Function.update state.executions worker none
  handed := (execution.current, worker) :: state.handed

section Executions
variable {state : Deliveries} {worker other : String}

theorem Deliveries.proceed_self {now : Int} {available : String → Bool} {batch : List Nat} :
    (state.proceed worker now available batch).executions worker =
      (advance available state.log batch).2.map fun next => ⟨next.1, next.2, now⟩ := Function.update_self ..

theorem Deliveries.proceed_other {now : Int} {available : String → Bool} {batch : List Nat} (different : other ≠ worker) :
    (state.proceed worker now available batch).executions other = state.executions other := Function.update_of_ne different ..

theorem Deliveries.conclude_self {execution : Execution} {accepted : Bool} :
    (state.conclude worker execution accepted).executions worker = none := Function.update_self ..

theorem Deliveries.conclude_other {execution : Execution} {accepted : Bool} (different : other ≠ worker) :
    (state.conclude worker execution accepted).executions other = state.executions other := Function.update_of_ne different ..

end Executions

/-- A block of `process_notification_jobs`, or a crash between two blocks. `available` says which channels are found enabled
when their turn comes. -/
inductive DeliveryStep where
  | start (worker : String) (alerts : List AlertRow) (channels : List NotificationChannel) (now : Int) (limit : Nat)
      (available : String → Bool)
  | resume (worker : String) (accepted : Bool) (available : String → Bool)
  | crash (worker : String)

def queued (state : Deliveries) (alerts : List AlertRow) (channels : List NotificationChannel) (now : Int) : AttemptLog :=
  (deliveryPairs now alerts channels).foldl (queueFirst now) state.log

def DeliveryStep.apply (state : Deliveries) : DeliveryStep → Deliveries
  | .start worker alerts channels now limit available =>
      match state.executions worker with
      | some _ => state
      | none =>
          let log := queued state alerts channels now
          { state with log := log }.proceed worker now available (dueAttempts now limit log)
  | .resume worker accepted available =>
      match state.executions worker with
      | none => state
      | some execution => (state.conclude worker execution accepted).proceed worker execution.now available execution.batch
  | .crash worker => { state with executions := Function.update state.executions worker none }

end PowerMonitor.Alerts
