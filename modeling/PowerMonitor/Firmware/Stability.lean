import PowerMonitor.Firmware.Verification

/-! Completion by the evidence of one boot, in the direct protocol.

The counters of a row stand for messages in the history of its attempt. They do as long as nothing leaves them in place when
another boot is heard: not a heartbeat that resumes an ended attempt, nor one that the reconciliation passes over.
-/

set_option autoImplicit false
namespace PowerMonitor.Firmware
open Library Access

/-- A healthy heartbeat of the target image from the boot. -/
def VerifyingHeartbeat (release : FirmwareRelease) (attempt : Attempt) (boot : String) (event : Event) : Prop :=
  match event.action with
  | .heartbeat payload _ _ => payload.deviceId = attempt.deviceId ∧ payload.bootId = boot ∧ payload.Healthy ∧
      TargetIdentity release payload
  | _ => False

instance (release : FirmwareRelease) (attempt : Attempt) (boot : String) (event : Event) :
    Decidable (VerifyingHeartbeat release attempt boot event) := by
  unfold VerifyingHeartbeat
  rcases event with ⟨_, _ | _⟩ <;> infer_instance

/-- A heartbeat or the validation report of the boot. -/
def HeardFromBoot (attempt : Attempt) (boot : String) (event : Event) : Prop :=
  match event.action with
  | .heartbeat payload _ _ => payload.deviceId = attempt.deviceId ∧ payload.bootId = boot
  | .report deviceId payload _ => deviceId = attempt.deviceId ∧ payload.deploymentId = attempt.id ∧
      payload.state = .validated ∧ payload.bootId = boot
  | _ => False

instance (attempt : Attempt) (boot : String) (event : Event) : Decidable (HeardFromBoot attempt boot event) := by
  unfold HeardFromBoot
  rcases event with ⟨_, _ | _⟩ <;> infer_instance

/-- The row was verified by one boot: in the current attempt and without a heartbeat of another boot in between, enough healthy
heartbeats of the target image; a durable reading; and the boot was heard from long enough ago. -/
def ContinuousBoot (catalog : Catalog) (row : FirmwareDeployment) (now : Int) (past : History) : Prop :=
  ∃ boot ∈ row.lastBootId, ∃ release ∈ catalog.releases row.releaseId,
    catalog.settings.verificationHeartbeatCount ≤
      heartbeatsOfBoot (fun event => VerifyingHeartbeat release row.current boot event) row.current boot past ∧
    (∃ entry ∈ currentAttempt row.current past, ReadingOfBoot row.current boot entry.2) ∧
    ∃ entry ∈ currentAttempt row.current past, HeardFromBoot row.current boot entry.2 ∧
      Stabilized catalog.settings now entry.2.now

instance (catalog : Catalog) (row : FirmwareDeployment) (now : Int) (past : History) :
    Decidable (ContinuousBoot catalog row now past) := inferInstanceAs (Decidable (∃ boot ∈ row.lastBootId, _))

/-! ## Heartbeats that leave evidence of another boot in place -/

section Guard
variable (catalog : Catalog) (deployments : Deployments) (payload : Heartbeat) (matched : Nat)

/-- An ended attempt is resumed with the evidence that it had gathered. -/
def ResumesVerification : Prop :=
  ∃ row ∈ deployments.table.rows, row.id = matched ∧ LatestForHeartbeat deployments payload.deviceId row ∧
    (∃ release ∈ catalog.releases row.releaseId, TargetSupersedesTerminalReport row release payload) ∧
    ¬ deployments.Occupied row ∧ row.stabilizationStartedAt ≠ none

/-- The reconciliation starts the evidence of the row anew or rolls it back. -/
def TakenUp (row : FirmwareDeployment) : Prop :=
  row.id = matched ∧ LatestForHeartbeat deployments payload.deviceId row ∧
    ∃ release ∈ catalog.releases row.releaseId,
      TargetIdentity release payload ∧ TargetRestarted row payload ∨ ¬ TargetIdentity release payload ∧ RollbackProved row payload

instance (row : FirmwareDeployment) : Decidable (TakenUp catalog deployments payload matched row) :=
  inferInstanceAs (Decidable (_ ∧ _ ∧ _))

/-- Another boot is heard from while heartbeats are counted, and passed over. -/
def PassedOver : Prop :=
  ∃ row ∈ deployments.table.rows, row.deviceId = payload.deviceId ∧ row.state = .awaitingHeartbeat ∧
    0 < row.verificationHeartbeats ∧ row.lastBootId ≠ some payload.bootId ∧ ¬ TakenUp catalog deployments payload matched row

/-- The boot before had an empty id, which is no boot to tell this one from. -/
def AfterUnnamedBoot : Prop :=
  ∃ row ∈ deployments.table.rows, row.id = matched ∧ LatestForHeartbeat deployments payload.deviceId row ∧
    row.state ∈ [.validated, .awaitingHeartbeat] ∧ row.lastBootId = some "" ∧ payload.bootId ≠ "" ∧
    ∃ release ∈ catalog.releases row.releaseId, TargetIdentity release payload

instance : Decidable (ResumesVerification catalog deployments payload matched) :=
  inferInstanceAs (Decidable (∃ row ∈ deployments.table.rows, _))
instance : Decidable (PassedOver catalog deployments payload matched) :=
  inferInstanceAs (Decidable (∃ row ∈ deployments.table.rows, _))
instance : Decidable (AfterUnnamedBoot catalog deployments payload matched) :=
  inferInstanceAs (Decidable (∃ row ∈ deployments.table.rows, _))

end Guard

def KeepsStaleEvidence (catalog : Catalog) (deployments : Deployments) (event : Event) : Prop :=
  match event.action with
  | .heartbeat payload matched _ => ResumesVerification catalog deployments payload matched ∨
      PassedOver catalog deployments payload matched ∨ AfterUnnamedBoot catalog deployments payload matched
  | _ => False

instance (catalog : Catalog) (deployments : Deployments) (event : Event) :
    Decidable (KeepsStaleEvidence catalog deployments event) := by
  unfold KeepsStaleEvidence
  rcases event with ⟨_, _ | _⟩ <;> infer_instance

/-- An event that is not of the headless agent. -/
def Direct (event : Event) : Prop :=
  match event.action with
  | .headlessResult .. | .headlessHeartbeat .. => False
  | _ => True

instance (event : Event) : Decidable (Direct event) := by
  unfold Direct
  rcases event with ⟨_, _ | _⟩ <;> infer_instance

/-! ## What the counters of a row stand for -/

structure Evidence (catalog : Catalog) (past : History) (row : FirmwareDeployment) : Prop where
  early : BeforeProof row.state → row.stabilizationStartedAt = none
  unproved : row.stabilizationStartedAt = none → row.verificationHeartbeats = 0 ∧ row.readingConfirmedAt = none
  validated : row.state = .validated → row.verificationHeartbeats = 0 ∧ row.readingConfirmedAt = none
  heard : row.state ∈ [.validated, .awaitingHeartbeat] → ∃ boot started, row.lastBootId = some boot ∧
    row.stabilizationStartedAt = some started ∧
    ∃ entry ∈ currentAttempt row.current past, HeardFromBoot row.current boot entry.2 ∧ entry.2.now = started
  counted : row.state = .awaitingHeartbeat → ∃ release, catalog.releases row.releaseId = some release ∧
    ∀ boot ∈ row.lastBootId, row.verificationHeartbeats ≤
      heartbeatsOfBoot (fun event => VerifyingHeartbeat release row.current boot event) row.current boot past
  read : row.state = .awaitingHeartbeat → row.readingConfirmedAt ≠ none → ∀ boot ∈ row.lastBootId,
    ∃ entry ∈ currentAttempt row.current past, ReadingOfBoot row.current boot entry.2

section Rows
variable {catalog : Catalog} {past : History} {row : FirmwareDeployment} {now : Int}

theorem Evidence.of_early (early : BeforeProof row.state) (started : row.stabilizationStartedAt = none)
    (count : row.verificationHeartbeats = 0) (reading : row.readingConfirmedAt = none) : Evidence catalog past row := by
  have outside : row.state ≠ .validated ∧ row.state ≠ .awaitingHeartbeat := by
    revert early
    cases row.state <;> decide
  refine ⟨fun _ => started, fun _ => ⟨count, reading⟩, fun _ => ⟨count, reading⟩, ?_, ?_, ?_⟩
  · intro stabilizing
    simp [outside] at stabilizing
  · exact fun awaiting => absurd awaiting outside.2
  · exact fun awaiting => absurd awaiting outside.2

/-- A row that is stable was verified by one boot. -/
theorem Evidence.continuous (evidence : Evidence catalog past row) (stable : Stable catalog.settings row now) :
    ContinuousBoot catalog row now past := by
  obtain ⟨awaiting, enough, confirmed, started, begun, old⟩ := stable
  obtain ⟨boot, started', booted, begun', entry, member, heard, at_⟩ := evidence.heard (by rw [awaiting]; decide)
  obtain ⟨release, released, counted⟩ := evidence.counted awaiting
  have read := evidence.read awaiting (fun none => by rw [none] at confirmed; cases confirmed) boot booted
  have same : started' = started := Option.some.inj (begun'.symm.trans begun)
  exact ⟨boot, booted, release, released, enough.trans (by exact_mod_cast counted boot booted), read,
    entry, member, heard, by rw [at_, same]; exact old⟩

/-! ## A heartbeat that is taken up -/

section TakenUp
variable {before : Deployments} {event : Event} {payload : Heartbeat} {matched : Nat} {criticalAlert : Bool}
  {old new : FirmwareDeployment} {release : FirmwareRelease}

theorem active_alone (listed : old ∈ before.table.rows) (active : old.Active) : ¬ before.Occupied old := by
  rintro ⟨other, held, different, same, alsoActive⟩
  exact different (congrArg _ (before.oneActive other held old listed same alsoActive active))

/-- What the reconciliation makes of an active row is written. -/
theorem heartbeat_written (action : event.action = .heartbeat payload matched criticalAlert) (listed : old ∈ before.table.rows)
    (named : old.id = matched) (latest : LatestForHeartbeat before payload.deviceId old) (active : old.Active)
    (released : catalog.releases old.releaseId = some release)
    (ok : reconcileFirmwareHeartbeat old release payload event.now catalog.settings criticalAlert = .ok new)
    (member : row ∈ (step catalog before event).table.rows) (own : row.id = old.id) : row = new := by
  have identity := (reconcileFirmwareHeartbeat_ok latest.1.2 ok).1
  have free : ¬ before.Occupied new := by
    rw [occupied_identity identity]
    exact active_alone listed active
  have found : (before.table.get? matched).filter (fun row => LatestForHeartbeat before payload.deviceId row) = some old :=
    Option.filter_eq_some_iff.mpr ⟨Table.get?_eq_some.mpr ⟨listed, named⟩, decide_eq_true latest⟩
  have flush : flushed before new = .ok new := if_neg fun blocked => free blocked.2
  have saved : before.save new = .ok ⟨before.replace new, Deployments.oneActive_replace fun _ => free⟩ := dif_pos fun _ => free
  have applied : event.apply catalog before = .ok ⟨before.replace new, Deployments.oneActive_replace fun _ => free⟩ := by
    simp only [Event.apply, action, receiveHeartbeat, found, update, withRelease, released, ok]
    simp only [bind, Except.bind, flush, saved]
  simp only [step, applied] at member
  rcases Deployments.mem_replace.mp member with ⟨_, other⟩ | ⟨_, same⟩
  · exact absurd (own.trans identity.id.symm) other
  · exact same

theorem complete_returns (settings : FirmwareSettings) (row : FirmwareDeployment) (awaiting : row.state = .awaitingHeartbeat)
    (criticalAlert : Bool) (now : Int) : ∃ new, completeFirmwareIfStable settings row criticalAlert now = .ok new := by
  unfold completeFirmwareIfStable
  split
  · have moved : transitionFirmwareDeployment row .completed now .declared = .ok (row.moved .completed now) :=
      transition_eq_ok.mpr (.inr ⟨by rw [awaiting]; decide, by rw [awaiting]; decide, rfl⟩)
    exact ⟨_, by rw [moved]; rfl⟩
  · exact ⟨row, rfl⟩

/-- A row that awaits heartbeats takes every target heartbeat. -/
theorem reconcileTarget_returns (settings : FirmwareSettings) (criticalAlert : Bool) (now : Int)
    (awaiting : old.state = .awaitingHeartbeat) :
    ∃ new, reconcileTargetHeartbeat old release payload now settings criticalAlert = .ok new := by
  obtain ⟨observed, observes, state⟩ : ∃ observed, observeTarget old release payload now = .ok observed ∧
      observed.state = .awaitingHeartbeat := by
    unfold observeTarget
    rw [if_neg (by rw [awaiting]; decide)]
    split
    · exact ⟨_, rfl, awaiting⟩
    · exact ⟨old, rfl, awaiting⟩
  let retained : FirmwareDeployment :=
    { observed with lastBootId := some payload.bootId, interruptionEvidence := retainedEvidence observed payload }
  by_cases healthy : payload.Healthy
  · obtain ⟨new, done⟩ := complete_returns settings
      { retained with verificationHeartbeats := retained.verificationHeartbeats + 1 } state criticalAlert now
    have starts : startAwaiting retained now = .ok retained := if_neg (by
      rw [show retained.state = .awaitingHeartbeat from state]
      decide)
    refine ⟨new, bind_eq_ok.mpr ⟨observed, observes, ?_⟩⟩
    rw [if_pos healthy]
    exact bind_eq_ok.mpr ⟨retained, starts, done⟩
  · refine ⟨retained, bind_eq_ok.mpr ⟨observed, observes, ?_⟩⟩
    rw [if_neg healthy]

theorem HeartbeatOutcome.boot {settings : FirmwareSettings} {observed : FirmwareDeployment}
    (boot : observed.lastBootId = some payload.bootId) (outcome : HeartbeatOutcome settings payload now observed new) :
    new.lastBootId = some payload.bootId := by
  rcases outcome with ⟨_, rfl⟩ | ⟨_, counted, _, counted, settled⟩
  · exact boot
  · cases settled with
    | pending => exact counted
    | completed => exact counted

/-- After a heartbeat that is taken up, a row that still awaits heartbeats awaits those of the new boot. -/
theorem taken_up (action : event.action = .heartbeat payload matched criticalAlert) (listed : old ∈ before.table.rows)
    (taken : TakenUp catalog before payload matched old) (awaiting : old.state = .awaitingHeartbeat)
    (member : row ∈ (step catalog before event).table.rows) (own : row.id = old.id) (still : row.state = .awaitingHeartbeat) :
    row.lastBootId = some payload.bootId := by
  obtain ⟨named, latest, release, released, outcome⟩ := taken
  have active : old.Active := by
    unfold FirmwareDeployment.Active
    rw [awaiting]
    decide
  have unended : ¬ (old.state ∈ [.failed, .rolledBack] ∧ ¬ TargetSupersedesTerminalReport old release payload) := by
    rintro ⟨ended, _⟩
    rw [awaiting] at ended
    exact absurd ended (by decide)
  rcases outcome with ⟨target, _⟩ | ⟨target, rollback⟩
  · obtain ⟨new, ok⟩ := reconcileTarget_returns catalog.settings criticalAlert event.now awaiting
    have reconciled : reconcileFirmwareHeartbeat old release payload event.now catalog.settings criticalAlert = .ok new := by
      unfold reconcileFirmwareHeartbeat
      rw [if_neg unended, if_neg (not_not.mpr target), ok]
    rw [heartbeat_written action listed named latest active released reconciled member own]
    have held : old.state ∈ [.failed, .rolledBack] → TargetSupersedesTerminalReport old release payload :=
      fun ended => not_not.mp fun stale => unended ⟨ended, stale⟩
    obtain ⟨_, observed, _, boot, outcome⟩ := reconcileTarget_ok latest.1.2 held ok
    exact outcome.boot boot
  · have rolled : transitionFirmwareDeployment old .rolledBack event.now .evidenceReconciliation =
        .ok (old.moved .rolledBack event.now) :=
      transition_eq_ok.mpr (.inr ⟨by rw [awaiting]; decide, by rw [awaiting]; decide, rfl⟩)
    have ok : ∃ new, reconcileFirmwareHeartbeat old release payload event.now catalog.settings criticalAlert = .ok new ∧
        new.state = .rolledBack := by
      unfold reconcileFirmwareHeartbeat reconcileSourceHeartbeat
      rw [if_neg unended, if_pos target, if_pos rollback, rolled]
      exact ⟨_, rfl, rfl⟩
    obtain ⟨new, ok, state⟩ := ok
    rw [heartbeat_written action listed named latest active released ok member own, state] at still
    cases still

end TakenUp

/-! ## One step -/

section Step
variable {before : Deployments} {event : Event} {old new : FirmwareDeployment} {release : FirmwareRelease} {boot : String}

/-- The evidence of a row that is stabilizing, part by part. -/
theorem Evidence.of_stabilizing (stabilizing : row.state ∈ [.validated, .awaitingHeartbeat]) (booted : row.lastBootId = some boot)
    (released : catalog.releases row.releaseId = some release)
    (validated : row.state = .validated → row.verificationHeartbeats = 0 ∧ row.readingConfirmedAt = none)
    (heard : ∃ started, row.stabilizationStartedAt = some started ∧
      ∃ entry ∈ currentAttempt row.current past, HeardFromBoot row.current boot entry.2 ∧ entry.2.now = started)
    (counted : row.verificationHeartbeats ≤
      heartbeatsOfBoot (fun event => VerifyingHeartbeat release row.current boot event) row.current boot past)
    (read : row.readingConfirmedAt ≠ none → ∃ entry ∈ currentAttempt row.current past, ReadingOfBoot row.current boot entry.2) :
    Evidence catalog past row := by
  obtain ⟨started, begun, heard⟩ := heard
  have only : ∀ other ∈ row.lastBootId, other = boot := fun other member => Option.some.inj (member.symm.trans booted)
  refine ⟨?_, ?_, validated, fun _ => ⟨boot, started, booted, begun, heard⟩, ?_, ?_⟩
  · exact fun early => absurd early (not_early_of_stabilizing stabilizing)
  · intro unbegun
    rw [begun] at unbegun
    cases unbegun
  · intro _
    refine ⟨release, released, ?_⟩
    intro other member
    rw [only other member]
    exact counted
  · intro _ confirmed other member
    rw [only other member]
    exact read confirmed

/-- The end of a verification stands on the evidence of the row that awaited it. -/
theorem Settled.evidence (settled : Settled catalog.settings now old new) (evidence : Evidence catalog past old)
    (awaiting : old.state = .awaitingHeartbeat) :
    Evidence catalog past new ∧ (new.state = .completed → ContinuousBoot catalog new now past) := by
  cases settled with
  | pending =>
      refine ⟨evidence, fun completed => ?_⟩
      rw [awaiting] at completed
      cases completed
  | completed stable =>
      have outside : ∀ {state : DeploymentState}, DeploymentState.completed = state → state = .completed := fun same => same.symm
      refine ⟨⟨?_, evidence.unproved, ?_, ?_, ?_, ?_⟩, fun _ => evidence.continuous stable⟩
      · exact fun early => absurd (show BeforeProof .completed from early) (by decide)
      · exact fun validated => nomatch outside validated
      · exact fun stabilizing => absurd (show DeploymentState.completed ∈ [.validated, .awaitingHeartbeat] from stabilizing) (by decide)
      · exact fun awaits => nomatch outside awaits
      · exact fun awaits => nomatch outside awaits

/-- The counted heartbeats stay behind the row, unless another boot was heard. -/
theorem Evidence.window (listed : old ∈ before.table.rows) {counts : Event → Bool}
    (counted : old.verificationHeartbeats ≤ heartbeatsOfBoot counts old.current boot past)
    (same : old.verificationHeartbeats = 0 ∨ ∀ other ∈ heartbeatBoot old.deviceId event, other = boot) :
    old.verificationHeartbeats ≤ heartbeatsOfBoot counts old.current boot ((before, event) :: past) := by
  rcases same with none | same
  · rw [none]
    exact Nat.zero_le _
  · rw [heartbeatsOfBoot_cons listed same]
    exact Nat.le_add_right_of_le counted

theorem Evidence.unchanged (evidence : Evidence catalog past old) (listed : old ∈ before.table.rows)
    (same : ∀ boot ∈ old.lastBootId, old.state = .awaitingHeartbeat →
      old.verificationHeartbeats = 0 ∨ ∀ other ∈ heartbeatBoot old.deviceId event, other = boot) :
    Evidence catalog ((before, event) :: past) old where
  early := evidence.early
  unproved := evidence.unproved
  validated := evidence.validated
  heard := by
    intro stabilizing
    obtain ⟨boot, started, booted, begun, entry, member, heard⟩ := evidence.heard stabilizing
    exact ⟨boot, started, booted, begun, entry, mem_currentAttempt_cons listed member, heard⟩
  counted := by
    intro awaiting
    obtain ⟨release, released, counted⟩ := evidence.counted awaiting
    exact ⟨release, released, fun boot member => Evidence.window listed (counted boot member) (same boot member awaiting)⟩
  read := by
    intro awaiting confirmed boot member
    obtain ⟨entry, inside, read⟩ := evidence.read awaiting confirmed boot member
    exact ⟨entry, mem_currentAttempt_cons listed inside, read⟩

/-- A heartbeat of another boot that is not passed over does not leave a counting row as it was. -/
theorem boot_of_unchanged (listed : old ∈ before.table.rows) (member : old ∈ (step catalog before event).table.rows)
    (direct : Direct event) (guarded : ¬ KeepsStaleEvidence catalog before event) (booted : boot ∈ old.lastBootId)
    (awaiting : old.state = .awaitingHeartbeat) :
    old.verificationHeartbeats = 0 ∨ ∀ other ∈ heartbeatBoot old.deviceId event, other = boot := by
  rcases Nat.eq_zero_or_pos old.verificationHeartbeats with none | counting
  · exact .inl none
  refine .inr fun other heard => ?_
  by_contra different
  obtain ⟨now, action⟩ := event
  cases action with
  | heartbeat payload matched criticalAlert =>
      have own : payload.deviceId = old.deviceId ∧ payload.bootId = other := by simpa [heartbeatBoot] using heard
      have moved : old.lastBootId ≠ some payload.bootId := by
        rw [show old.lastBootId = some boot from booted, own.2]
        exact fun same => different (Option.some.inj same).symm
      have taken : TakenUp catalog before payload matched old := by
        by_contra passed
        exact guarded (.inr (.inl ⟨old, listed, own.1.symm, awaiting, counting, moved, passed⟩))
      exact moved (taken_up rfl listed taken awaiting member rfl awaiting)
  | headlessHeartbeat payload criticalAlert => exact direct
  | create | cancel | retry | promote | manifest | report | readings | stale | headlessResult => cases heard

/-- What stands behind a row once a target heartbeat is noted, and before it is counted. -/
structure Noted (before : Deployments) (event : Event) (past : History) (release : FirmwareRelease) (boot : String)
    (old observed : FirmwareDeployment) : Prop where
  attempt : observed.attempt = old.attempt
  validated : observed.state = .validated → observed.verificationHeartbeats = 0 ∧ observed.readingConfirmedAt = none
  heard : ∃ started, observed.stabilizationStartedAt = some started ∧
    ∃ entry ∈ currentAttempt old.current ((before, event) :: past), HeardFromBoot old.current boot entry.2 ∧ entry.2.now = started
  counted : observed.verificationHeartbeats ≤
    heartbeatsOfBoot (fun event => VerifyingHeartbeat release old.current boot event) old.current boot past
  read : observed.readingConfirmedAt ≠ none → ∃ entry ∈ currentAttempt old.current past, ReadingOfBoot old.current boot entry.2

theorem Observed.noted {payload : Heartbeat} {criticalAlert : Bool} {observed : FirmwareDeployment}
    (seen : Observed release payload event.now old observed) (action : event.action = .heartbeat payload old.id criticalAlert)
    (listed : old ∈ before.table.rows) (latest : LatestForHeartbeat before payload.deviceId old) (free : ¬ before.Occupied old)
    (released : catalog.releases old.releaseId = some release) (target : TargetIdentity release payload)
    (guarded : ¬ KeepsStaleEvidence catalog before event) (evidence : Evidence catalog past old) :
    Noted before event past release payload.bootId old observed := by
  -- The heartbeat itself is heard from its boot.
  have now : ∃ entry ∈ currentAttempt old.current ((before, event) :: past),
      HeardFromBoot old.current payload.bootId entry.2 ∧ entry.2.now = event.now := by
    refine ⟨(before, event), head_currentAttempt listed, ?_, rfl⟩
    unfold HeardFromBoot
    rw [action]
    exact ⟨latest.1.1.symm, rfl⟩
  unfold KeepsStaleEvidence at guarded
  rw [action] at guarded
  obtain ⟨fresh, _, named⟩ := not_or.mp guarded |>.imp_right not_or.mp
  cases seen with
  | entered allowed state attempt count started reading =>
      have unbegun : old.stabilizationStartedAt = none := by
        rcases allowed with ⟨under, _, outside⟩ | supersedes
        · apply evidence.early
          revert under outside
          generalize old.state = state at *
          cases state <;> simp_all +decide
        · by_contra begun
          exact fresh ⟨old, listed, rfl, latest, ⟨release, released, supersedes⟩, free, begun⟩
      obtain ⟨none, unread⟩ := evidence.unproved unbegun
      refine ⟨attempt, ?_, ⟨event.now, ?_, now⟩, ?_, ?_⟩
      · intro validated
        rw [state] at validated
        cases validated
      · rw [started, unbegun]
        rfl
      · rw [count, none]
        exact Nat.zero_le _
      · rw [reading, unread]
        exact fun confirmed => absurd rfl confirmed
  | restarted stabilizing state attempt count started reading =>
      refine ⟨attempt, fun _ => ⟨count, reading⟩, ⟨event.now, started, now⟩, ?_, ?_⟩
      · rw [count]
        exact Nat.zero_le _
      · exact fun confirmed => absurd reading confirmed
  | continued stabilizing same state kept =>
      obtain ⟨boot, started, booted, begun, entry, member, heard, at_⟩ := evidence.heard stabilizing
      -- The boot is the one before: a new one restarts, and only an empty id could hide it.
      have own : boot = payload.bootId := by
        by_contra different
        rcases eq_or_ne boot "" with rfl | given
        · exact named ⟨old, listed, rfl, latest, stabilizing, booted, Ne.symm different, release, released, target⟩
        · exact same ⟨boot, booted, given, different⟩
      subst own
      refine ⟨kept.attempt, ?_, ⟨started, kept.started.trans begun, entry, mem_currentAttempt_cons listed member, heard, at_⟩,
        ?_, ?_⟩
      · rw [state, kept.count, kept.reading]
        exact evidence.validated
      · rw [kept.count]
        rcases (by simpa using stabilizing : old.state = .validated ∨ old.state = .awaitingHeartbeat) with validated | awaiting
        · rw [(evidence.validated validated).1]
          exact Nat.zero_le _
        · obtain ⟨release', released', counted⟩ := evidence.counted awaiting
          obtain rfl := Option.some.inj (released'.symm.trans released)
          exact counted _ booted
      · rw [kept.reading]
        intro confirmed
        rcases (by simpa using stabilizing : old.state = .validated ∨ old.state = .awaitingHeartbeat) with validated | awaiting
        · exact absurd (evidence.validated validated).2 confirmed
        · exact evidence.read awaiting confirmed _ booted

/-- A target heartbeat of a row keeps what stands behind it. -/
theorem heartbeat_evidence {payload : Heartbeat} {criticalAlert : Bool} {observed : FirmwareDeployment}
    (action : event.action = .heartbeat payload old.id criticalAlert) (listed : old ∈ before.table.rows)
    (device : old.deviceId = payload.deviceId) (identity : Identity old new)
    (released : catalog.releases old.releaseId = some release) (target : TargetIdentity release payload)
    (stabilizing : observed.state ∈ [.validated, .awaitingHeartbeat]) (boot : observed.lastBootId = some payload.bootId)
    (noted : Noted before event past release payload.bootId old observed)
    (outcome : HeartbeatOutcome catalog.settings payload event.now observed new) :
    Evidence catalog ((before, event) :: past) new ∧
      (new.state = .completed → ContinuousBoot catalog new event.now ((before, event) :: past)) := by
  have same : ∀ other ∈ heartbeatBoot old.deviceId event, other = payload.bootId := by
    intro other heard
    have told : old.deviceId = payload.deviceId ∧ payload.bootId = other := by
      simpa [heartbeatBoot, action, device] using heard
    exact told.2.symm
  let counting (event : Event) : Bool := VerifyingHeartbeat release old.current payload.bootId event
  have window : heartbeatsOfBoot counting old.current payload.bootId ((before, event) :: past) =
      heartbeatsOfBoot counting old.current payload.bootId past + if counting event then 1 else 0 :=
    heartbeatsOfBoot_cons listed same
  have read : observed.readingConfirmedAt ≠ none →
      ∃ entry ∈ currentAttempt old.current ((before, event) :: past), ReadingOfBoot old.current payload.bootId entry.2 := by
    intro confirmed
    obtain ⟨entry, member, read⟩ := noted.read confirmed
    exact ⟨entry, mem_currentAttempt_cons listed member, read⟩
  obtain ⟨started, begun, heard⟩ := noted.heard
  rcases outcome with ⟨_, rfl⟩ | ⟨healthy, counted, counts, countedBoot, settled⟩
  · have current := identity.current noted.attempt
    refine ⟨Evidence.of_stabilizing stabilizing boot (by rw [identity.release]; exact released) noted.validated
      ⟨started, begun, by rw [current]; exact heard⟩ ?_ (by rw [current]; exact read), fun completed => ?_⟩
    · rw [current, window]
      exact Nat.le_add_right_of_le noted.counted
    · rw [completed] at stabilizing
      exact absurd stabilizing (by decide)
  · have between := settled.identity
    have current : counted.current = old.current := by
      have ends : new.current = counted.current := by
        cases settled with
        | pending => rfl
        | completed => rfl
      have attempt : new.attempt = old.attempt := by
        have kept : new.attempt = counted.attempt := by
          cases settled with
          | pending => rfl
          | completed => rfl
        rw [kept, counts.attempt, noted.attempt]
      rw [← ends, identity.current attempt]
    have releases : counted.releaseId = old.releaseId := congrArg Attempt.releaseId current
    have verifies : VerifyingHeartbeat release old.current payload.bootId event := by
      unfold VerifyingHeartbeat
      rw [action]
      exact ⟨device.symm, rfl, healthy, target⟩
    refine settled.evidence (Evidence.of_stabilizing (by rw [counts.state]; decide) countedBoot
      (by rw [releases]; exact released) ?_ ⟨started, ?_, by rw [current]; exact heard⟩ ?_ ?_) counts.state
    · intro validated
      rw [counts.state] at validated
      cases validated
    · rw [counts.started]
      split
      · rw [begun]
        rfl
      · exact begun
    · rw [current, window, counts.count, if_pos (decide_eq_true verifies)]
      exact Nat.add_le_add_right noted.counted 1
    · rw [current, counts.reading]
      exact read

/-- A durable reading is behind the row that it confirms. -/
theorem reading_evidence {readings : List Reading} {durable : List Nat} {criticalAlert : Bool}
    (action : event.action = .readings old.deviceId readings durable criticalAlert) (listed : old ∈ before.table.rows)
    (awaiting : old.state = .awaitingHeartbeat) (proof : ProvesReading old readings durable)
    (evidence : Evidence catalog past old)
    (settled : Settled catalog.settings event.now
      { old with readingConfirmedAt := old.readingConfirmedAt <|> some event.now } new) :
    Evidence catalog ((before, event) :: past) new ∧
      (new.state = .completed → ContinuousBoot catalog new event.now ((before, event) :: past)) := by
  obtain ⟨boot, started, booted, begun, entry, member, heard⟩ := evidence.heard (by rw [awaiting]; decide)
  obtain ⟨release, released, counted⟩ := evidence.counted awaiting
  obtain ⟨reading, sent, kept, own, _⟩ := proof
  have silent : ∀ other ∈ heartbeatBoot old.deviceId event, other = boot := by simp [heartbeatBoot, action]
  have window := Evidence.window listed (counted boot booted) (.inr silent)
  have heard : ∃ entry ∈ currentAttempt old.current ((before, event) :: past),
      HeardFromBoot old.current boot entry.2 ∧ entry.2.now = started := ⟨entry, mem_currentAttempt_cons listed member, heard⟩
  have read : ∃ entry ∈ currentAttempt old.current ((before, event) :: past), ReadingOfBoot old.current boot entry.2 := by
    refine ⟨(before, event), head_currentAttempt listed, ?_⟩
    unfold ReadingOfBoot
    rw [action]
    exact ⟨rfl, reading, sent, kept, Option.some.inj (own.trans booted)⟩
  let confirmed := { old with readingConfirmedAt := old.readingConfirmedAt <|> some event.now }
  have stabilizing : confirmed.state ∈ [.validated, .awaitingHeartbeat] := by
    rw [show confirmed.state = .awaitingHeartbeat from awaiting]
    decide
  have outside : confirmed.state = .validated → confirmed.verificationHeartbeats = 0 ∧ confirmed.readingConfirmedAt = none := by
    rw [show confirmed.state = .awaitingHeartbeat from awaiting]
    exact nofun
  have behind : Evidence catalog ((before, event) :: past) confirmed :=
    .of_stabilizing stabilizing booted released outside ⟨started, begun, heard⟩ window fun _ => read
  exact settled.evidence behind awaiting

theorem RowChange.evidence (change : RowChange catalog before event old new) (identity : Identity old new)
    (listed : old ∈ before.table.rows) (member : new ∈ (step catalog before event).table.rows) (direct : Direct event)
    (guarded : ¬ KeepsStaleEvidence catalog before event) (evidence : Evidence catalog past old) :
    Evidence catalog ((before, event) :: past) new ∧ (new.state = .completed →
      old.state = .completed ∨ ContinuousBoot catalog new event.now ((before, event) :: past)) := by
  cases change with
  | same unchanged =>
      subst unchanged
      exact ⟨evidence.unchanged listed fun boot booted awaiting => boot_of_unchanged listed member direct guarded booted awaiting,
        .inl⟩
  | moved moved =>
      have outside := moved.outside
      simp only [List.mem_cons, List.not_mem_nil, or_false, not_or] at outside
      refine ⟨⟨fun early => ?_, ?_, ?_, ?_, ?_, ?_⟩, fun completed => absurd completed outside.2.2⟩
      · exact moved.evidence.started.trans (evidence.early (moved.early early))
      · rw [moved.evidence.started, moved.evidence.count, moved.evidence.reading]
        exact evidence.unproved
      · exact fun validated => absurd validated outside.1
      · exact fun stabilizing => absurd stabilizing (by simp [outside])
      · exact fun awaiting => absurd awaiting outside.2.1
      · exact fun awaiting => absurd awaiting outside.2.1
  | promoted canary id around action found group member next own alone kept waiting scheduled =>
      have unbegun := evidence.early (by rw [waiting]; decide)
      obtain ⟨none, unread⟩ := evidence.unproved unbegun
      refine ⟨.of_early (by rw [scheduled]; decide) (kept.started.trans unbegun) (kept.count.trans none)
        (kept.reading.trans unread), fun completed => ?_⟩
      rw [scheduled] at completed
      cases completed
  | retried around action terminal alone scheduled attempt count started reading =>
      refine ⟨.of_early (by rw [scheduled]; decide) started count reading, fun completed => ?_⟩
      rw [scheduled] at completed
      cases completed
  | validated payload resetting action named reported from_ state attempt count started reading boot =>
      have unbegun := evidence.early (by rw [from_]; decide)
      obtain ⟨none, unread⟩ := evidence.unproved unbegun
      have current := identity.current attempt
      refine ⟨⟨?_, ?_, fun _ => ⟨count.trans none, reading.trans unread⟩, fun _ => ?_, ?_, ?_⟩, ?_⟩
      · rw [state]
        exact fun early => absurd early (by decide)
      · rw [started]
        exact nofun
      · refine ⟨payload.bootId, event.now, boot, started, (before, event), ?_, ?_, rfl⟩
        · rw [current]
          exact head_currentAttempt listed
        · rw [current]
          unfold HeardFromBoot
          rw [action]
          exact ⟨rfl, named, reported, rfl⟩
      all_goals
        rw [state]
        exact nofun
  | heartbeat payload criticalAlert action latest free release released target observed seen boot outcome =>
      obtain ⟨evidence, completed⟩ := heartbeat_evidence action listed latest.1.1 identity released target seen.stabilizing boot
        (seen.noted action listed latest free released target guarded evidence) outcome
      exact ⟨evidence, fun done => .inr (completed done)⟩
  | reading readings durable criticalAlert action awaiting proof settled =>
      obtain ⟨evidence, completed⟩ := reading_evidence action listed awaiting proof evidence settled
      exact ⟨evidence, fun done => .inr (completed done)⟩
  | headlessResult result commandFailed deviceId action =>
      unfold Direct at direct
      rw [action] at direct
      exact direct.elim
  | headlessHeartbeat payload criticalAlert action =>
      unfold Direct at direct
      rw [action] at direct
      exact direct.elim

theorem Created.evidence (created : Created before event row) : Evidence catalog past row := by
  refine .of_early ?_ created.started created.count created.reading
  rw [created.state]
  split <;> decide

end Step

/-! ## Every run -/

theorem step_evidence {before : Deployments} {event : Event} (evidence : ∀ row ∈ before.table.rows, Evidence catalog past row)
    (direct : Direct event) (guarded : ¬ KeepsStaleEvidence catalog before event) :
    ∀ row ∈ (step catalog before event).table.rows, Evidence catalog ((before, event) :: past) row := by
  intro row member
  rcases step_rows row member with ⟨old, listed, identity, change⟩ | created
  · exact (change.evidence identity listed member direct guarded (evidence old listed)).1
  · exact created.evidence


end Rows

/-- In a run of the direct protocol in which no heartbeat keeps evidence of another boot, a deployment that becomes completed was
verified by one boot. -/
theorem continuous_boot_completion (catalog : Catalog) (events earlier later : List Event) (event : Event)
    (split : events = earlier ++ event :: later) (direct : ∀ event ∈ events, Direct event)
    (along : Along (step catalog) (fun deployments event => ¬ KeepsStaleEvidence catalog deployments event) .initial events)
    (row : FirmwareDeployment) (member : row ∈ (reached catalog (earlier ++ [event])).table.rows)
    (completed : row.state = .completed)
    (entered : ∀ old ∈ (reached catalog earlier).table.rows, old.id = row.id → old.state ≠ .completed) :
    ContinuousBoot catalog row event.now (history catalog (earlier ++ [event])) := by
  subst split
  have evidence : ∀ row ∈ (reached catalog earlier).table.rows, Evidence catalog (history catalog earlier) row := by
    have guarded := Along.and along.of_append (Along.of_forall fun turn listed => direct turn (List.mem_append_left _ listed))
    refine guarded.history_invariant (P := fun deployments past => ∀ row ∈ deployments.table.rows, Evidence catalog past row) ?_ ?_
    · exact List.forall_mem_nil _
    · intro before past turn held guard
      exact step_evidence held guard.2 guard.1
  have reaches : reached catalog (earlier ++ [event]) = step catalog (reached catalog earlier) event := List.foldl_concat ..
  rw [reaches] at member
  rw [history_concat]
  rcases step_rows row member with ⟨old, listed, identity, change⟩ | created
  · have directed := direct event (by simp)
    have kept := (change.evidence identity listed member directed along.of_split (evidence old listed)).2 completed
    exact kept.resolve_left (entered old listed identity.id.symm)
  · rw [created.state] at completed
    split at completed <;> cases completed

/-! ## One sensor -/

def singleRequest : FirmwareDeploymentCreate :=
  { firmwareReleaseId := "release", deviceIds := ["sensor"], distinct := by decide, scheduledAt := 0 }

/-- The sensor is offered the update and comes back with the target image. -/
def updateRun (heartbeats : Nat) : List Event :=
  ⟨seconds 0, .create singleRequest exampleSurroundings⟩ :: offerTo "sensor" 1 1 ++ heartbeatsFrom "sensor" "one" 1 heartbeats

def readingOfOne : Event := ⟨seconds 150, .readings "sensor" [⟨7, "one", "2.0.0"⟩] [7] false⟩

/-- The row of the only deployment. -/
def onlyRow (events : List Event) : FirmwareDeployment :=
  ((reached exampleCatalog events).table.get? 1).getD
    (newDeployment exampleCatalog.settings exampleSurroundings 0 singleRequest {} none 0 "sensor")

theorem sensor_completes : ∃ row ∈ (reached exampleCatalog (updateRun 10 ++ [readingOfOne])).table.rows,
    ContinuousBoot exampleCatalog row (seconds 150) (history exampleCatalog (updateRun 10 ++ [readingOfOne])) := by
  refine ⟨onlyRow (updateRun 10 ++ [readingOfOne]), by decide, ?_⟩
  exact continuous_boot_completion exampleCatalog (updateRun 10 ++ [readingOfOne]) (updateRun 10) [] readingOfOne rfl
    (by decide) (by decide) _ (by decide) (by decide) (by decide)

/-- One boot has been heard nine times and has sent a reading; then it reports a failure. -/
def failedRun : List Event :=
  updateRun 9 ++ [readingOfOne,
    ⟨seconds 160, .report "sensor" (exampleReport "sensor" 1 .failed failed_reportable "one" 20 (some "ota_validation_failed")) false⟩]

/-- The first heartbeat of another boot. -/
def heartbeatOfTwo : Event := ⟨seconds 170, .heartbeat (targetHeartbeat "sensor" "two" 1 21) 1 false⟩

theorem completed_by_one_heartbeat : ¬ ∀ (catalog : Catalog) (earlier : List Event) (event : Event),
    (∀ turn ∈ earlier ++ [event], Direct turn) → ∀ row ∈ (reached catalog (earlier ++ [event])).table.rows,
      row.state = .completed → (∀ old ∈ (reached catalog earlier).table.rows, old.id = row.id → old.state ≠ .completed) →
        ContinuousBoot catalog row event.now (history catalog (earlier ++ [event])) := by
  intro always
  have verified := always exampleCatalog failedRun heartbeatOfTwo (by decide) (onlyRow (failedRun ++ [heartbeatOfTwo]))
    (by decide) (by decide) (by decide)
  exact absurd verified (by decide)

end PowerMonitor.Firmware
