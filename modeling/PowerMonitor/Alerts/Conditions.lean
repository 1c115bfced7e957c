import PowerMonitor.Alerts.Records

/-! The conditions of alert rules, as `evaluate_alerts` applies them.

The condition of a rule is observed at every evaluation. An alert debounces before it becomes active, and resolves before it is
resolved; what the second threshold needs is kept in its evidence.
-/

set_option autoImplicit false
namespace PowerMonitor.Alerts
open Library

/-- What an evaluation raises when the evidence does not hold a time. -/
inductive EvaluationError where | valueError
  deriving DecidableEq, Repr

def IsOpenAlert (ruleId : String) (deviceId : Option String) (alert : AlertInstance) : Prop :=
  alert.ruleId = ruleId ∧ alert.deviceId = deviceId ∧ alert.status ≠ .resolved

instance (ruleId : String) (deviceId : Option String) (alert : AlertInstance) : Decidable (IsOpenAlert ruleId deviceId alert) :=
  inferInstanceAs (Decidable (_ ∧ _))

def openAlert? (alerts : AlertTable) (ruleId : String) (deviceId : Option String) : Option AlertInstance :=
  alerts.rows.find? fun alert => IsOpenAlert ruleId deviceId alert

def preservedKeys : List String := ["acknowledgement_note", "resolve_observed_at", "status_before_resolve"]

/-- `update_observation` -/
def updateObservation (now : Int) (evidence : Evidence) (alert : AlertInstance) : AlertInstance :=
  let preserved := alert.evidence.filter fun entry => entry.1 ∈ preservedKeys
  let observed := alert.evidence.filter fun entry => entry.1 ∉ preservedKeys
  if Evidence.Same evidence observed then { alert with lastSeenAt := now }
  else { alert with
         occurrenceCount := max 1 alert.occurrenceCount + 1
         evidence := evidence.merge preserved
         lastSeenAt := now }

def newAlert (alerts : AlertTable) (rule : AlertRule) (deviceId siteId : Option String) (now : Int) (evidence : Evidence) :
    AlertInstance :=
  { id := alerts.freshNumber, ruleId := rule.id, deviceId := deviceId, siteId := siteId
    status := if rule.debounceSeconds ≠ 0 then .debouncing else .active
    severity := rule.severity, openedAt := now, lastSeenAt := now, evidence := evidence }

def activated (alert : AlertInstance) : AlertInstance := { alert with status := .active }

/-- The status before the alert began to resolve. -/
def priorStatus (evidence : Evidence) : AlertStatus :=
  if List.lookup "status_before_resolve" evidence = some (.text "acknowledged") then .acknowledged else .active

def reopened (alert : AlertInstance) : AlertInstance := { alert with status := priorStatus alert.evidence }

def resolvedAlert (now : Int) (alert : AlertInstance) : AlertInstance := { alert with status := .resolved, resolvedAt := some now }

@[simp] theorem resolvedAlert_id (now : Int) (alert : AlertInstance) : (resolvedAlert now alert).id = alert.id := rfl

def beginResolving (now : Int) (alert : AlertInstance) : AlertInstance :=
  { alert with
    status := .resolving
    evidence := alert.evidence.merge
      [("resolve_observed_at", .instant now), ("status_before_resolve", .text alert.status.name)] }

@[simp] theorem beginResolving_id (now : Int) (alert : AlertInstance) : (beginResolving now alert).id = alert.id := rfl

def resolveObservedAt (evidence : Evidence) : Except EvaluationError Int :=
  match List.lookup "resolve_observed_at" evidence with
  | some (.instant time) => .ok time
  | _ => .error .valueError

theorem updateObservation_id (now : Int) (evidence : Evidence) (alert : AlertInstance) :
    (updateObservation now evidence alert).id = alert.id := by
  unfold updateObservation
  dsimp only
  split <;> rfl

/-- A change that comes after the observation was updated. -/
def observedThen (now : Int) (evidence : Evidence) (change : AlertInstance → AlertInstance) (alert : AlertInstance) :
    AlertInstance := change (updateObservation now evidence alert)

section Conditions
variable (alerts : AlertTable) (rule : AlertRule) (now : Int) (active : Bool) (evidence : Evidence)

structure DeviceRow where
  id : String
  siteId : String
  deriving DecidableEq, Repr

/-- `set_condition` -/
def setCondition (device : DeviceRow) : Except EvaluationError AlertTable :=
  match openAlert? alerts rule.id (some device.id), active with
  | none, true =>
      .ok (alerts.push (newAlert alerts rule (some device.id) (some device.siteId) now evidence) alerts.freshNumber_not_mem)
  | none, false => .ok alerts
  | some alert, true =>
      if alert.status = .debouncing then
        if alert.openedAt ≤ now - seconds rule.debounceSeconds then
          .ok (alerts.modify alert.id (observedThen now evidence activated) (updateObservation_id now evidence))
        else .ok (alerts.modify alert.id (updateObservation now evidence) (updateObservation_id now evidence))
      else if alert.status = .resolving then
        .ok (alerts.modify alert.id (observedThen now evidence reopened) (updateObservation_id now evidence))
      else .ok (alerts.modify alert.id (updateObservation now evidence) (updateObservation_id now evidence))
  | some alert, false =>
      if alert.status = .debouncing then .ok (alerts.remove alert.id)
      else if rule.resolveSeconds = 0 then .ok (alerts.modify alert.id (resolvedAlert now) (resolvedAlert_id now))
      else if alert.status ≠ .resolving then .ok (alerts.modify alert.id (beginResolving now) (beginResolving_id now))
      else do
        let observed ← resolveObservedAt alert.evidence
        if observed ≤ now - seconds rule.resolveSeconds then
          .ok (alerts.modify alert.id (resolvedAlert now) (resolvedAlert_id now))
        else .ok alerts

/-- `set_system_condition`, for a rule about the server. -/
def setSystemCondition : Except EvaluationError AlertTable :=
  match openAlert? alerts rule.id none, active with
  | none, true => .ok (alerts.push (newAlert alerts rule none rule.siteId now evidence) alerts.freshNumber_not_mem)
  | none, false => .ok alerts
  | some alert, true =>
      if alert.status = .debouncing then
        if alert.openedAt ≤ now - seconds rule.debounceSeconds then
          .ok (alerts.modify alert.id (observedThen now evidence activated) (updateObservation_id now evidence))
        else .ok (alerts.modify alert.id (updateObservation now evidence) (updateObservation_id now evidence))
      else if alert.status = .resolving then
        .ok (alerts.modify alert.id (observedThen now evidence reopened) (updateObservation_id now evidence))
      else .ok (alerts.modify alert.id (updateObservation now evidence) (updateObservation_id now evidence))
  | some alert, false =>
      if alert.status = .debouncing then .ok (alerts.remove alert.id)
      else if rule.resolveSeconds = 0 then .ok (alerts.modify alert.id (resolvedAlert now) (resolvedAlert_id now))
      else if alert.status ≠ .resolving then .ok (alerts.modify alert.id (beginResolving now) (beginResolving_id now))
      else do
        let observed ← resolveObservedAt alert.evidence
        if observed ≤ now - seconds rule.resolveSeconds then
          .ok (alerts.modify alert.id (resolvedAlert now) (resolvedAlert_id now))
        else .ok alerts

end Conditions

/-! ## Acknowledgement -/

def acknowledged (now : Int) (note : Option String) (alert : AlertInstance) : AlertInstance :=
  if alert.acknowledgedAt = none then
    { alert with
      status := .acknowledged
      acknowledgedAt := some now
      evidence := alert.evidence.merge [("acknowledgement_note", (note.map .text).getD .null)] }
  else alert

theorem acknowledged_id (now : Int) (note : Option String) (alert : AlertInstance) : (acknowledged now note alert).id = alert.id := by
  unfold acknowledged
  split <;> rfl

/-- `acknowledge_alert`, which refuses a resolved alert. -/
def acknowledgeAlert (alerts : AlertTable) (id : Nat) (now : Int) (note : Option String) : AlertTable :=
  match alerts.get? id with
  | none => alerts
  | some alert =>
      if alert.resolvedAt.isSome = true ∨ alert.status = .resolved then alerts
      else alerts.modify id (acknowledged now note) (acknowledged_id now note)

/-! ## Runs -/

/-- What a rule is about. -/
inductive Subject where
  | device (row : DeviceRow)
  | system
  deriving DecidableEq, Repr

def Subject.deviceId : Subject → Option String
  | .device row => some row.id
  | .system => none

/-- An evaluation of the rule, or an acknowledgement of an alert. -/
inductive AlertStep where
  | evaluate (now : Int) (active : Bool) (evidence : Evidence)
  | acknowledge (id : Nat) (now : Int) (note : Option String)
  deriving DecidableEq, Repr

def evaluateRule (rule : AlertRule) (alerts : AlertTable) (now : Int) (active : Bool) (evidence : Evidence) :
    Subject → Except EvaluationError AlertTable
  | .device row => setCondition alerts rule now active evidence row
  | .system => setSystemCondition alerts rule now active evidence

/-- An evaluation that raises is rolled back. -/
def AlertStep.apply (rule : AlertRule) (subject : Subject) (alerts : AlertTable) : AlertStep → AlertTable
  | .evaluate now active evidence => (evaluateRule rule alerts now active evidence subject).toOption.getD alerts
  | .acknowledge id now note => acknowledgeAlert alerts id now note

end PowerMonitor.Alerts
