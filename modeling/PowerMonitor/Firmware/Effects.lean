import PowerMonitor.Firmware.System

/-! What each operation does to a deployment.

A change of a row is one of a few kinds, told apart by what becomes of the evidence of the attempt: the boot under verification,
its heartbeats, its reading and the start of its stabilization.
-/

set_option autoImplicit false
namespace PowerMonitor.Firmware
open Library Access

/-! ## Kinds of changes -/

/-- The states before the target image is known to run. -/
def BeforeProof (state : DeploymentState) : Prop :=
  state ∈ [.waitingCanary, .scheduled, .offered, .manifestAuthenticated, .waitingForSchedule, .downloadStarted, .downloading,
    .binaryVerified, .partitionWritten, .rebooting, .postBootValidation]

instance (state : DeploymentState) : Decidable (BeforeProof state) := inferInstanceAs (Decidable (_ ∈ _))

theorem not_early_of_stabilizing {state : DeploymentState} (stabilizing : state ∈ [.validated, .awaitingHeartbeat]) :
    ¬ BeforeProof state := by
  revert stabilizing
  cases state <;> decide

/-- A row keeps what it was created for. -/
structure Identity (old new : FirmwareDeployment) : Prop where
  id : new.id = old.id
  device : new.deviceId = old.deviceId
  release : new.releaseId = old.releaseId
  group : new.rolloutGroupId = old.rolloutGroupId

theorem Identity.refl (row : FirmwareDeployment) : Identity row row := ⟨rfl, rfl, rfl, rfl⟩

theorem Identity.trans {first second third : FirmwareDeployment} (earlier : Identity first second)
    (later : Identity second third) : Identity first third where
  id := later.id.trans earlier.id
  device := later.device.trans earlier.device
  release := later.release.trans earlier.release
  group := later.group.trans earlier.group

/-- Attempt, heartbeats, stabilization and reading are untouched. -/
structure SameEvidence (old new : FirmwareDeployment) : Prop where
  attempt : new.attempt = old.attempt
  count : new.verificationHeartbeats = old.verificationHeartbeats
  started : new.stabilizationStartedAt = old.stabilizationStartedAt
  reading : new.readingConfirmedAt = old.readingConfirmedAt

theorem SameEvidence.refl (row : FirmwareDeployment) : SameEvidence row row := ⟨rfl, rfl, rfl, rfl⟩

/-- The deployment goes on or ends without being verified. -/
structure Moved (old new : FirmwareDeployment) : Prop where
  evidence : SameEvidence old new
  outside : new.state ∉ [.validated, .awaitingHeartbeat, .completed]
  operational : Operational new.state → Operational old.state
  early : BeforeProof new.state → BeforeProof old.state

/-- The end of a verification, if it is stable. -/
inductive Settled (settings : FirmwareSettings) (now : Int) (awaiting : FirmwareDeployment) : FirmwareDeployment → Prop where
  | pending : Settled settings now awaiting awaiting
  | completed (stable : Stable settings awaiting now) : Settled settings now awaiting
      { awaiting.moved .completed now with
        progress := 100
        validatedAt := awaiting.validatedAt <|> some now }

/-- What a target heartbeat does before its health counts. -/
inductive Observed (release : FirmwareRelease) (payload : Heartbeat) (now : Int) (old new : FirmwareDeployment) : Prop where
  | entered (allowed : Operational old.state ∧ old.state ≠ .rollbackDetected ∧
        old.state ∉ [.validated, .awaitingHeartbeat] ∨ TargetSupersedesTerminalReport old release payload)
      (state : new.state = .awaitingHeartbeat) (attempt : new.attempt = old.attempt)
      (count : new.verificationHeartbeats = old.verificationHeartbeats)
      (started : new.stabilizationStartedAt = (old.stabilizationStartedAt <|> some now))
      (reading : new.readingConfirmedAt = old.readingConfirmedAt)
  | restarted (stabilizing : old.state ∈ [.validated, .awaitingHeartbeat]) (state : new.state = old.state)
      (attempt : new.attempt = old.attempt) (count : new.verificationHeartbeats = 0)
      (started : new.stabilizationStartedAt = some now) (reading : new.readingConfirmedAt = none)
  | continued (stabilizing : old.state ∈ [.validated, .awaitingHeartbeat]) (same : ¬ TargetRestarted old payload)
      (state : new.state = old.state) (evidence : SameEvidence old new)

/-- A heartbeat is counted for a row that awaits heartbeats or starts to. -/
structure Counted (now : Int) (old new : FirmwareDeployment) : Prop where
  state : new.state = .awaitingHeartbeat
  attempt : new.attempt = old.attempt
  count : new.verificationHeartbeats = old.verificationHeartbeats + 1
  started : new.stabilizationStartedAt =
    if old.state = .validated then old.stabilizationStartedAt <|> some now else old.stabilizationStartedAt
  reading : new.readingConfirmedAt = old.readingConfirmedAt

/-- What a target heartbeat ends in: it is noted, or counted with what follows. -/
def HeartbeatOutcome (settings : FirmwareSettings) (payload : Heartbeat) (now : Int) (observed new : FirmwareDeployment) : Prop :=
  ¬ payload.Healthy ∧ new = observed ∨ payload.Healthy ∧ ∃ counted, Counted now observed counted ∧
    counted.lastBootId = some payload.bootId ∧ Settled settings now counted new

/-- What one event does to one row. -/
inductive RowChange (catalog : Catalog) (before : Deployments) (event : Event) (old new : FirmwareDeployment) : Prop where
  | same (unchanged : new = old)
  | moved (moved : Moved old new)
  | promoted (canary : FirmwareDeployment) (id : Nat) (around : Surroundings) (action : event.action = .promote id around)
      (found : before.table.get? id = some canary) (group : Nat) (member : canary.rolloutGroupId = some group)
      (next : nextWaiting before group = some old) (own : old.rolloutGroupId = some group)
      (alone : ∀ other ∈ before.table.rows, other.rolloutGroupId = some group → ¬ Operational other.state)
      (evidence : SameEvidence old new) (waiting : old.state = .waitingCanary) (scheduled : new.state = .scheduled)
  | retried (around : Surroundings) (action : event.action = .retry old.id around)
      (terminal : old.state ∈ [.failed, .cancelled, .rolledBack]) (alone : ¬ SiblingOperational before old)
      (scheduled : new.state = .scheduled) (attempt : new.attempt = old.attempt + 1) (count : new.verificationHeartbeats = 0)
      (started : new.stabilizationStartedAt = none) (reading : new.readingConfirmedAt = none)
  | validated (payload : FirmwareDeploymentReport) (resetting : Bool)
      (action : event.action = .report old.deviceId payload resetting) (named : payload.deploymentId = old.id)
      (reported : payload.state = .validated) (from_ : old.state = .postBootValidation) (state : new.state = .validated)
      (attempt : new.attempt = old.attempt) (count : new.verificationHeartbeats = old.verificationHeartbeats)
      (started : new.stabilizationStartedAt = some event.now) (reading : new.readingConfirmedAt = old.readingConfirmedAt)
      (boot : new.lastBootId = some payload.bootId)
  | heartbeat (payload : Heartbeat) (criticalAlert : Bool) (action : event.action = .heartbeat payload old.id criticalAlert)
      (latest : LatestForHeartbeat before payload.deviceId old) (free : ¬ before.Occupied old)
      (release : FirmwareRelease) (released : catalog.releases old.releaseId = some release)
      (target : TargetIdentity release payload) (observed : FirmwareDeployment) (seen : Observed release payload event.now old observed)
      (boot : observed.lastBootId = some payload.bootId)
      (outcome : HeartbeatOutcome catalog.settings payload event.now observed new)
  | reading (readings : List Reading) (durable : List Nat) (criticalAlert : Bool)
      (action : event.action = .readings old.deviceId readings durable criticalAlert)
      (awaiting : old.state = .awaitingHeartbeat) (proof : ProvesReading old readings durable)
      (settled : Settled catalog.settings event.now
        { old with readingConfirmedAt := old.readingConfirmedAt <|> some event.now } new)
  | headlessResult (result : OtaResult) (commandFailed : Bool) (deviceId : String)
      (action : event.action = .headlessResult deviceId result commandFailed) (evidence : SameEvidence old new)
      (boot : new.lastBootId = old.lastBootId)
      (states : new.state = old.state ∨ old.state ∈ orderedStates ∧ new.state ∈ orderedStates ∨ new.state = .failed)
  | headlessHeartbeat (payload : AgentHeartbeat) (criticalAlert : Bool)
      (action : event.action = .headlessHeartbeat payload criticalAlert) (device : old.deviceId = payload.deviceId)
      (stabilizing : old.state ∈ [.validated, .awaitingHeartbeat]) (release : FirmwareRelease)
      (released : catalog.releases old.releaseId = some release) (target : AgentTargetIdentity release payload)
      (counted : FirmwareDeployment) (counts : Counted event.now old counted)
      (boot : counted.lastBootId = some payload.bootId) (settled : Settled catalog.settings event.now counted new)

/-- A row that the event created. -/
structure Created (before : Deployments) (event : Event) (row : FirmwareDeployment) : Prop where
  place : ∃ payload around, event.action = .create payload around ∧ (row.deviceId, row.rolloutOrder) ∈ payload.deviceIds.zipIdx
  state : row.state = if row.rolloutOrder = 0 then .scheduled else .waitingCanary
  group : row.rolloutGroupId = none ∨ row.rolloutGroupId = some before.freshGroup
  count : row.verificationHeartbeats = 0
  started : row.stabilizationStartedAt = none
  reading : row.readingConfirmedAt = none

/-! ## Changes of one row -/

section Rows
variable {settings : FirmwareSettings} {now : Int} {old new : FirmwareDeployment}

theorem moved_identity (row : FirmwareDeployment) (target : DeploymentState) (now : Int) : Identity row (row.moved target now) :=
  ⟨rfl, rfl, rfl, rfl⟩

theorem Settled.identity (settled : Settled settings now old new) : Identity old new := by
  cases settled with
  | pending => exact .refl _
  | completed => exact ⟨rfl, rfl, rfl, rfl⟩

theorem complete_settled {criticalAlert : Bool} (ok : completeFirmwareIfStable settings old criticalAlert now = .ok new) :
    Settled settings now old new := by
  unfold completeFirmwareIfStable at ok
  split at ok
  · rename_i stable
    obtain ⟨completed, transition, ok⟩ := bind_eq_ok.mp ok
    cases ok
    rcases transition_eq_ok.mp transition with ⟨already, _⟩ | ⟨_, _, rfl⟩
    · have awaiting := stable.1.1
      rw [already] at awaiting
      cases awaiting
    · exact .completed stable.1
  · cases ok
    exact .pending

theorem unsuccessful_state {target : DeploymentState} (terminal : target ∈ [.failed, .rolledBack, .cancelled]) :
    target ∉ [.validated, .awaitingHeartbeat, .completed] ∧ ¬ Operational target ∧ ¬ BeforeProof target := by
  revert terminal
  cases target <;> decide

/-- A row that ends without success. -/
theorem moved_terminal {target : DeploymentState} (evidence : SameEvidence old new) (state : new.state = target)
    (terminal : target ∈ [.failed, .rolledBack, .cancelled]) : Moved old new := by
  subst state
  obtain ⟨outside, idle, late⟩ := unsuccessful_state terminal
  exact ⟨evidence, outside, fun operational => absurd operational idle, fun early => absurd early late⟩

theorem decision_terminal (decision : ReconciliationDecision) : decision.state ∈ [.failed, .rolledBack, .cancelled] :=
  show decision.state ∈ [DeploymentState.failed, .rolledBack] ++ [.cancelled] from List.mem_append_left _ decision.outcome

theorem reconcileStale_ok (ok : reconcileStale settings old now = .ok new) :
    Identity old new ∧ (new = old ∨ Moved old new) := by
  unfold reconcileStale at ok
  split at ok
  · cases ok
    exact ⟨.refl _, .inl rfl⟩
  · rename_i decision classified
    obtain ⟨terminal, transition, ok⟩ := bind_eq_ok.mp ok
    cases ok
    rcases transition_eq_ok.mp transition with ⟨already, rfl⟩ | ⟨_, _, rfl⟩
    · exact ⟨⟨rfl, rfl, rfl, rfl⟩, .inr (moved_terminal ⟨rfl, rfl, rfl, rfl⟩ already (decision_terminal decision))⟩
    · exact ⟨⟨rfl, rfl, rfl, rfl⟩, .inr (moved_terminal ⟨rfl, rfl, rfl, rfl⟩ rfl (decision_terminal decision))⟩

/-! ### Reports -/

theorem milestone_identity (payload : FirmwareDeploymentReport) (now : Int) (row : FirmwareDeployment) :
    Identity row (milestoneRecorded payload now row) := by
  unfold milestoneRecorded
  split <;> exact ⟨rfl, rfl, rfl, rfl⟩

theorem milestone_state (payload : FirmwareDeploymentReport) (now : Int) (row : FirmwareDeployment) :
    (milestoneRecorded payload now row).state = row.state := by
  unfold milestoneRecorded
  split <;> rfl

theorem milestone_evidence {payload : FirmwareDeploymentReport} (other : payload.state ≠ .validated) (row : FirmwareDeployment) :
    SameEvidence row (milestoneRecorded payload now row) := by
  unfold milestoneRecorded
  split
  case h_3 validated => exact absurd validated other
  all_goals exact ⟨rfl, rfl, rfl, rfl⟩

/-- The graph leads to `validated` from one state, and back before the proof from none after it. -/
theorem reported_transition {state target : DeploymentState} (edge : target ∈ deploymentTransitions state)
    (reportable : target ∈ deviceReportStates) :
    (target = .validated → state = .postBootValidation) ∧
      (target ≠ .validated → target ∉ [.validated, .awaitingHeartbeat, .completed]) ∧
      (Operational target → Operational state) ∧ (BeforeProof target → BeforeProof state) := by
  revert edge reportable
  cases state <;> cases target <;> decide

theorem recordMilestone_ok {release : FirmwareRelease} {payload : FirmwareDeploymentReport}
    (ok : recordMilestone old release payload now = .ok new) : Identity old new ∧
      (Moved old new ∨ payload.state = .validated ∧ old.state = .postBootValidation ∧
        new = milestoneRecorded payload now (old.moved .validated now)) := by
  obtain ⟨_, allowed, ok⟩ := bind_eq_ok.mp ok
  unfold requireReportTransition at allowed
  by_cases same : payload.state = old.state
  · -- Progress of a download; every other repeated milestone is refused.
    rw [if_pos same, refuseIf_bind] at allowed
    have downloading : payload.state = .downloading := not_not.mp allowed.1
    rw [if_pos same] at ok
    obtain ⟨_, ok⟩ := refuseIf_bind.mp ok
    cases ok
    have other : payload.state ≠ .validated := by rw [downloading]; decide
    have state : old.state = .downloading := same.symm.trans downloading
    have evidence : SameEvidence { old with revision := old.revision + 1 } (milestoneRecorded payload now _) :=
      milestone_evidence other _
    have identity := milestone_identity payload now { old with revision := old.revision + 1 }
    have kept : (milestoneRecorded payload now { old with revision := old.revision + 1 }).state = old.state :=
      milestone_state payload now _
    refine ⟨⟨identity.id, identity.device, identity.release, identity.group⟩, .inl ⟨?_, ?_, ?_, ?_⟩⟩
    · exact ⟨evidence.attempt, evidence.count, evidence.started, evidence.reading⟩
    · rw [kept, state]
      decide
    · rw [kept]
      exact id
    · rw [kept]
      exact id
  · rw [if_neg same] at allowed
    have edge : payload.state ∈ deploymentTransitions old.state := by simpa [refuseIf] using allowed
    obtain ⟨fromState, outside, operational, early⟩ := reported_transition edge payload.reportable
    rw [if_neg same] at ok
    obtain ⟨moved, transition, ok⟩ := bind_eq_ok.mp ok
    obtain ⟨_, ok⟩ := refuseIf_bind.mp ok
    cases ok
    rcases transition_eq_ok.mp transition with ⟨already, _⟩ | ⟨_, _, rfl⟩
    · exact absurd already.symm same
    · have identity : Identity old (milestoneRecorded payload now (old.moved payload.state now)) :=
        (moved_identity old payload.state now).trans (milestone_identity payload now _)
      by_cases validated : payload.state = .validated
      · exact ⟨identity, .inr ⟨validated, fromState validated, by rw [validated]⟩⟩
      · have evidence : SameEvidence (old.moved payload.state now) (milestoneRecorded payload now _) :=
          milestone_evidence validated _
        refine ⟨identity, .inl ⟨⟨evidence.attempt, evidence.count, evidence.started, evidence.reading⟩, ?_, ?_, ?_⟩⟩
        all_goals rw [milestone_state]
        · exact outside validated
        · exact operational
        · exact early

theorem reportMilestone_ok {release : FirmwareRelease} {payload : FirmwareDeploymentReport}
    (ok : reportMilestone old release payload now = .ok new) : Identity old new ∧
      (new = old ∨ Moved old new ∨ payload.state = .validated ∧ old.state = .postBootValidation ∧
        new = milestoneRecorded payload now (old.moved .validated now)) := by
  obtain ⟨_, _, ok⟩ := bind_eq_ok.mp ok
  obtain ⟨_, ok⟩ := refuseIf_bind.mp ok
  obtain ⟨_, ok⟩ := refuseIf_bind.mp ok
  split at ok
  · cases ok
    exact ⟨.refl _, .inl rfl⟩
  · obtain ⟨_, ok⟩ := refuseIf_bind.mp ok
    split at ok
    · cases ok
      exact ⟨.refl _, .inl rfl⟩
    · exact (recordMilestone_ok ok).imp_right .inr

/-! ### Heartbeats -/

theorem reconcileSource_ok {payload : Heartbeat} (ok : reconcileSourceHeartbeat old payload now settings = .ok new) :
    Identity old new ∧ (new = old ∨ Moved old new) := by
  unfold reconcileSourceHeartbeat at ok
  split at ok
  · obtain ⟨rolled, transition, ok⟩ := bind_eq_ok.mp ok
    cases ok
    rcases transition_eq_ok.mp transition with ⟨already, rfl⟩ | ⟨_, _, rfl⟩
    · exact ⟨⟨rfl, rfl, rfl, rfl⟩, .inr (moved_terminal ⟨rfl, rfl, rfl, rfl⟩ already (by decide))⟩
    · exact ⟨⟨rfl, rfl, rfl, rfl⟩, .inr (moved_terminal ⟨rfl, rfl, rfl, rfl⟩ (rfl : _ = DeploymentState.rolledBack) (by decide))⟩
  · split at ok
    · obtain ⟨failed, transition, ok⟩ := bind_eq_ok.mp ok
      cases ok
      rcases transition_eq_ok.mp transition with ⟨already, rfl⟩ | ⟨_, _, rfl⟩
      · exact ⟨⟨rfl, rfl, rfl, rfl⟩, .inr (moved_terminal ⟨rfl, rfl, rfl, rfl⟩ already (by decide))⟩
      · exact ⟨⟨rfl, rfl, rfl, rfl⟩, .inr (moved_terminal ⟨rfl, rfl, rfl, rfl⟩ (rfl : _ = DeploymentState.failed) (by decide))⟩
    · cases ok
      exact ⟨.refl _, .inl rfl⟩

theorem observeTarget_ok {release : FirmwareRelease} {payload : Heartbeat} (listed : old.state ∈ reconciledStates)
    (held : old.state ∈ [.failed, .rolledBack] → TargetSupersedesTerminalReport old release payload)
    (ok : observeTarget old release payload now = .ok new) : Identity old new ∧ Observed release payload now old new := by
  unfold observeTarget at ok
  split at ok
  · rename_i entering
    obtain ⟨awaiting, transition, ok⟩ := bind_eq_ok.mp ok
    cases ok
    rcases transition_eq_ok.mp transition with ⟨already, _⟩ | ⟨_, _, rfl⟩
    · rw [already] at entering
      exact absurd (by decide) entering
    · refine ⟨⟨rfl, rfl, rfl, rfl⟩, .entered ?_ rfl rfl rfl rfl rfl⟩
      by_cases ended : old.state ∈ [.failed, .rolledBack]
      · exact .inr (held ended)
      · refine .inl ?_
        revert listed ended entering
        cases old.state <;> decide
  · rename_i stabilizing
    have stabilizing := not_not.mp stabilizing
    split at ok
    · cases ok
      exact ⟨⟨rfl, rfl, rfl, rfl⟩, .restarted stabilizing rfl rfl rfl rfl rfl⟩
    · rename_i same
      cases ok
      exact ⟨.refl _, .continued stabilizing same rfl (.refl _)⟩

theorem startAwaiting_ok (stabilizing : old.state ∈ [.validated, .awaitingHeartbeat]) (ok : startAwaiting old now = .ok new) :
    Identity old new ∧ new.state = .awaitingHeartbeat ∧ new.attempt = old.attempt ∧
      new.verificationHeartbeats = old.verificationHeartbeats ∧ new.readingConfirmedAt = old.readingConfirmedAt ∧
      (new.stabilizationStartedAt =
        if old.state = .validated then old.stabilizationStartedAt <|> some now else old.stabilizationStartedAt) ∧
      new.lastBootId = old.lastBootId := by
  unfold startAwaiting at ok
  by_cases validated : old.state = .validated
  · rw [if_pos validated] at ok
    obtain ⟨moved, transition, ok⟩ := bind_eq_ok.mp ok
    cases ok
    rcases transition_eq_ok.mp transition with ⟨already, _⟩ | ⟨_, _, rfl⟩
    · rw [validated] at already
      cases already
    · exact ⟨⟨rfl, rfl, rfl, rfl⟩, rfl, rfl, rfl, rfl, (if_pos validated).symm, rfl⟩
  · rw [if_neg validated] at ok
    cases ok
    have awaiting : old.state = .awaitingHeartbeat := by simpa [validated] using stabilizing
    exact ⟨.refl _, awaiting, rfl, rfl, rfl, (if_neg validated).symm, rfl⟩

theorem countHeartbeat_ok {criticalAlert : Bool} (stabilizing : old.state ∈ [.validated, .awaitingHeartbeat])
    (ok : countHeartbeat old now settings criticalAlert = .ok new) : ∃ counted, Identity old counted ∧
      Counted now old counted ∧ counted.lastBootId = old.lastBootId ∧ Settled settings now counted new := by
  obtain ⟨awaiting, entered, ok⟩ := bind_eq_ok.mp ok
  obtain ⟨identity, state, attempt, count, reading, started, boot⟩ := startAwaiting_ok stabilizing entered
  have counts : Counted now old { awaiting with verificationHeartbeats := awaiting.verificationHeartbeats + 1 } :=
    ⟨state, attempt, congrArg (· + 1) count, started, reading⟩
  refine ⟨_, ?_, counts, boot, complete_settled ok⟩
  exact ⟨identity.id, identity.device, identity.release, identity.group⟩

/-- After a target heartbeat the deployment is stabilizing. -/
theorem Observed.stabilizing {release : FirmwareRelease} {payload : Heartbeat}
    (observed : Observed release payload now old new) : new.state ∈ [.validated, .awaitingHeartbeat] := by
  cases observed with
  | entered allowed state => rw [state]; decide
  | restarted stabilizing state => rw [state]; exact stabilizing
  | continued stabilizing same state => rw [state]; exact stabilizing

theorem HeartbeatOutcome.active_or_completed {release : FirmwareRelease} {payload : Heartbeat} {observed : FirmwareDeployment}
    (seen : Observed release payload now old observed) (outcome : HeartbeatOutcome settings payload now observed new) :
    new.Active ∨ new.state = .completed := by
  rcases outcome with ⟨_, rfl⟩ | ⟨_, counted, counts, _, settled⟩
  · have stabilizing := seen.stabilizing
    revert stabilizing
    unfold FirmwareDeployment.Active
    cases new.state <;> decide
  · cases settled with
    | pending =>
        refine .inl ?_
        unfold FirmwareDeployment.Active
        rw [counts.state]
        decide
    | completed => exact .inr rfl

theorem reconcileTarget_ok {release : FirmwareRelease} {payload : Heartbeat} {criticalAlert : Bool}
    (listed : old.state ∈ reconciledStates)
    (held : old.state ∈ [.failed, .rolledBack] → TargetSupersedesTerminalReport old release payload)
    (ok : reconcileTargetHeartbeat old release payload now settings criticalAlert = .ok new) : Identity old new ∧
      ∃ observed, Observed release payload now old observed ∧ observed.lastBootId = some payload.bootId ∧
        HeartbeatOutcome settings payload now observed new := by
  obtain ⟨seen, observation, ok⟩ := bind_eq_ok.mp ok
  obtain ⟨identity, observed⟩ := observeTarget_ok listed held observation
  -- The boot and the retained evidence are written after what is observed.
  have retained : Observed release payload now old { seen with
      lastBootId := some payload.bootId
      interruptionEvidence := retainedEvidence seen payload } := by
    cases observed with
    | entered allowed state attempt count started reading => exact .entered allowed state attempt count started reading
    | restarted stabilizing state attempt count started reading => exact .restarted stabilizing state attempt count started reading
    | continued stabilizing same state evidence =>
        exact .continued stabilizing same state ⟨evidence.attempt, evidence.count, evidence.started, evidence.reading⟩
  by_cases healthy : payload.Healthy
  · rw [if_pos healthy] at ok
    obtain ⟨counted, same, counts, boot, settled⟩ := countHeartbeat_ok retained.stabilizing ok
    have through : Identity old new :=
      identity.trans ((Identity.trans ⟨same.id, same.device, same.release, same.group⟩ settled.identity))
    exact ⟨through, _, retained, rfl, .inr ⟨healthy, counted, counts, boot, settled⟩⟩
  · rw [if_neg healthy] at ok
    cases ok
    exact ⟨⟨identity.id, identity.device, identity.release, identity.group⟩, _, retained, rfl, .inl ⟨healthy, rfl⟩⟩

theorem reconcileFirmwareHeartbeat_ok {release : FirmwareRelease} {payload : Heartbeat} {criticalAlert : Bool}
    (listed : old.state ∈ reconciledStates)
    (ok : reconcileFirmwareHeartbeat old release payload now settings criticalAlert = .ok new) : Identity old new ∧
      (new = old ∨ Moved old new ∨ TargetIdentity release payload ∧
        ∃ observed, Observed release payload now old observed ∧ observed.lastBootId = some payload.bootId ∧
          HeartbeatOutcome settings payload now observed new) := by
  unfold reconcileFirmwareHeartbeat at ok
  split at ok
  · cases ok
    exact ⟨.refl _, .inl rfl⟩
  · rename_i held
    split at ok
    · obtain ⟨identity, outcome⟩ := reconcileSource_ok ok
      exact ⟨identity, outcome.imp_right .inl⟩
    · rename_i target
      have held : old.state ∈ [.failed, .rolledBack] → TargetSupersedesTerminalReport old release payload :=
        fun ended => not_not.mp fun stale => held ⟨ended, stale⟩
      obtain ⟨identity, outcome⟩ := reconcileTarget_ok listed held ok
      exact ⟨identity, .inr (.inr ⟨not_not.mp target, outcome⟩)⟩

theorem confirmFirmwareReading_ok {readings : List Reading} {durable : List Nat} {criticalAlert : Bool}
    (ok : confirmFirmwareReading settings old readings durable criticalAlert now = .ok new) :
    new = old ∨ ProvesReading old readings durable ∧
      Settled settings now { old with readingConfirmedAt := old.readingConfirmedAt <|> some now } new := by
  unfold confirmFirmwareReading at ok
  split at ok
  · rename_i proof
    exact .inr ⟨proof, complete_settled ok⟩
  · cases ok
    exact .inl rfl

/-! ### The headless agent -/

/-- The state moves along the milestones; the evidence and the boot stay. -/
structure Advanced (old new : FirmwareDeployment) : Prop where
  identity : Identity old new
  evidence : SameEvidence old new
  boot : new.lastBootId = old.lastBootId
  states : new.state = old.state ∨ old.state ∈ orderedStates ∧ new.state ∈ orderedStates ∨ new.state = .failed

theorem advanceHeadless_ok {target : DeploymentState} (ok : advanceHeadlessDeployment old now target = .ok new) :
    Advanced old new := by
  unfold advanceHeadlessDeployment at ok
  split at ok
  · cases ok
    exact ⟨.refl _, .refl _, rfl, .inl rfl⟩
  · split at ok
    · rcases transition_eq_ok.mp ok with ⟨_, rfl⟩ | ⟨_, _, rfl⟩
      · exact ⟨.refl _, .refl _, rfl, .inl rfl⟩
      · exact ⟨⟨rfl, rfl, rfl, rfl⟩, ⟨rfl, rfl, rfl, rfl⟩, rfl, .inr (.inr rfl)⟩
    · split at ok
      · cases ok
        exact ⟨.refl _, .refl _, rfl, .inl rfl⟩
      · rename_i between
        have listed : old.state ∈ orderedStates := not_not.mp (not_or.mp between).1
        let Passed (row : FirmwareDeployment) : Prop :=
          Identity old row ∧ SameEvidence old row ∧ row.lastBootId = old.lastBootId ∧ row.state ∈ orderedStates
        have passed : Passed new := by
          refine foldlM_invariant Passed _ ⟨.refl _, .refl _, rfl, listed⟩ ?_ ok
          rintro row milestone next member moved ⟨identity, evidence, boot, _⟩
          have along : milestone ∈ orderedStates := List.mem_of_mem_take (List.mem_of_mem_drop member)
          rcases transition_eq_ok.mp moved with ⟨already, rfl⟩ | ⟨_, _, rfl⟩
          · exact ⟨identity, evidence, boot, by rw [already]; exact along⟩
          · exact ⟨⟨identity.id, identity.device, identity.release, identity.group⟩,
              ⟨evidence.attempt, evidence.count, evidence.started, evidence.reading⟩, boot, along⟩
        exact ⟨passed.1, passed.2.1, passed.2.2.1, .inr (.inl ⟨listed, passed.2.2.2⟩)⟩

theorem headlessRecorded_keeps (result : OtaResult) (target : Option DeploymentState) (row : FirmwareDeployment) :
    Identity row (headlessRecorded now result row target) ∧ SameEvidence row (headlessRecorded now result row target) ∧
      (headlessRecorded now result row target).lastBootId = row.lastBootId ∧
      (headlessRecorded now result row target).state = row.state := by
  unfold headlessRecorded
  split <;> exact ⟨⟨rfl, rfl, rfl, rfl⟩, ⟨rfl, rfl, rfl, rfl⟩, rfl, rfl⟩

theorem recordHeadlessOtaResult_ok {deviceId : String} {result : OtaResult} {commandFailed : Bool}
    (ok : recordHeadlessOtaResult old now deviceId result commandFailed = .ok new) : Advanced old new := by
  obtain ⟨_, ok⟩ := refuseIf_bind.mp ok
  obtain ⟨_, ok⟩ := refuseIf_bind.mp ok
  split at ok
  · cases ok
    exact ⟨.refl _, .refl _, rfl, .inl rfl⟩
  · split at ok
    · cases ok
      exact ⟨⟨rfl, rfl, rfl, rfl⟩, ⟨rfl, rfl, rfl, rfl⟩, rfl, .inl rfl⟩
    · rename_i target _
      obtain ⟨moved, advance, ok⟩ := bind_eq_ok.mp ok
      cases ok
      obtain ⟨identity, evidence, boot, states⟩ := advanceHeadless_ok advance
      obtain ⟨identity', evidence', boot', state'⟩ :
        Identity moved (headlessRecorded now result moved (some target)) ∧ _ :=
          headlessRecorded_keeps result (some target) moved
      refine ⟨⟨?_, ?_, ?_, ?_⟩, ⟨?_, ?_, ?_, ?_⟩, boot'.trans boot, by rw [state']; exact states⟩
      · exact identity'.id.trans identity.id
      · exact identity'.device.trans identity.device
      · exact identity'.release.trans identity.release
      · exact identity'.group.trans identity.group
      · exact evidence'.attempt.trans evidence.attempt
      · exact evidence'.count.trans evidence.count
      · exact evidence'.started.trans evidence.started
      · exact evidence'.reading.trans evidence.reading

theorem recordHeadlessOtaHeartbeat_ok {release : FirmwareRelease} {payload : AgentHeartbeat} {criticalAlert : Bool}
    (stabilizing : old.state ∈ [.validated, .awaitingHeartbeat])
    (ok : recordHeadlessOtaHeartbeat settings old release payload criticalAlert now = .ok new) : Identity old new ∧
      (new = old ∨ AgentTargetIdentity release payload ∧ ∃ counted, Counted now old counted ∧
        counted.lastBootId = some payload.bootId ∧ Settled settings now counted new) := by
  unfold recordHeadlessOtaHeartbeat at ok
  split at ok
  · rename_i target
    obtain ⟨awaiting, entered, ok⟩ := bind_eq_ok.mp ok
    obtain ⟨identity, state, attempt, count, reading, started, _⟩ := startAwaiting_ok stabilizing entered
    have settled := complete_settled ok
    have counts : Counted now old { awaiting with
        lastBootId := some payload.bootId
        verificationHeartbeats := awaiting.verificationHeartbeats + 1 } :=
      ⟨state, attempt, congrArg (· + 1) count, started, reading⟩
    have same := settled.identity
    exact ⟨identity.trans ⟨same.id, same.device, same.release, same.group⟩, .inr ⟨target, _, counts, rfl, settled⟩⟩
  · cases ok
    exact ⟨.refl _, .inl rfl⟩

end Rows
end PowerMonitor.Firmware
