import PowerMonitor.Firmware.Verification

/-! Completion by the evidence of one boot, in the protocol of the headless agent.

The agent's heartbeats are counted whatever boot they come from. They stand for one boot only as long as no other one is heard
from while the deployment awaits them.
-/

set_option autoImplicit false
namespace PowerMonitor.Firmware
open Library Access

/-- A heartbeat of the target image from the boot. -/
def AgentVerifyingHeartbeat (release : FirmwareRelease) (attempt : Attempt) (boot : String) (event : Event) : Prop :=
  match event.action with
  | .headlessHeartbeat payload _ => payload.deviceId = attempt.deviceId ∧ payload.bootId = boot ∧
      AgentTargetIdentity release payload
  | _ => False

instance (release : FirmwareRelease) (attempt : Attempt) (boot : String) (event : Event) :
    Decidable (AgentVerifyingHeartbeat release attempt boot event) := by
  unfold AgentVerifyingHeartbeat
  rcases event with ⟨_, _ | _⟩ <;> infer_instance

/-- The row was verified by one boot: in the current attempt and without a heartbeat of another boot in between, enough heartbeats
of the target image, one of them long enough ago; and a durable reading. -/
def AgentContinuousBoot (catalog : Catalog) (row : FirmwareDeployment) (now : Int) (past : History) : Prop :=
  ∃ boot ∈ row.lastBootId, ∃ release ∈ catalog.releases row.releaseId,
    catalog.settings.verificationHeartbeatCount ≤
      heartbeatsOfBoot (fun event => AgentVerifyingHeartbeat release row.current boot event) row.current boot past ∧
    (∃ entry ∈ currentAttempt row.current past, ReadingOfBoot row.current boot entry.2) ∧
    ∃ entry ∈ sameBoot row.deviceId boot (currentAttempt row.current past),
      AgentVerifyingHeartbeat release row.current boot entry.2 ∧ Stabilized catalog.settings now entry.2.now

instance (catalog : Catalog) (row : FirmwareDeployment) (now : Int) (past : History) :
    Decidable (AgentContinuousBoot catalog row now past) := inferInstanceAs (Decidable (∃ boot ∈ row.lastBootId, _))

/-- An agent is heard from another boot than the one whose heartbeats are awaited. -/
def HeardFromOtherBoot (deployments : Deployments) (event : Event) : Prop :=
  match event.action with
  | .headlessHeartbeat payload _ => ∃ row ∈ deployments.table.rows, row.deviceId = payload.deviceId ∧
      row.state = .awaitingHeartbeat ∧ row.lastBootId ≠ some payload.bootId
  | _ => False

instance (deployments : Deployments) (event : Event) : Decidable (HeardFromOtherBoot deployments event) := by
  unfold HeardFromOtherBoot
  rcases event with ⟨_, _ | _⟩ <;> infer_instance

/-- An event that is not of the direct protocol's verification. -/
def Headless (event : Event) : Prop :=
  match event.action with
  | .report .. | .heartbeat .. => False
  | _ => True

instance (event : Event) : Decidable (Headless event) := by
  unfold Headless
  rcases event with ⟨_, _ | _⟩ <;> infer_instance

/-! ## What the counters of a row stand for -/

/-- The evidence of a row that awaits the heartbeats of a boot. -/
structure AgentProof (catalog : Catalog) (past : History) (row : FirmwareDeployment) (boot : String) (release : FirmwareRelease) :
    Prop where
  booted : row.lastBootId = some boot
  released : catalog.releases row.releaseId = some release
  counted : row.verificationHeartbeats ≤
    heartbeatsOfBoot (fun event => AgentVerifyingHeartbeat release row.current boot event) row.current boot past
  begun : ∃ started, row.stabilizationStartedAt = some started ∧
    ∃ entry ∈ sameBoot row.deviceId boot (currentAttempt row.current past),
      AgentVerifyingHeartbeat release row.current boot entry.2 ∧ entry.2.now = started
  read : row.readingConfirmedAt ≠ none → ∃ entry ∈ currentAttempt row.current past, ReadingOfBoot row.current boot entry.2

structure AgentEvidence (catalog : Catalog) (past : History) (row : FirmwareDeployment) : Prop where
  early : BeforeProof row.state ∨ row.state = .validated →
    row.stabilizationStartedAt = none ∧ row.verificationHeartbeats = 0 ∧ row.readingConfirmedAt = none
  awaiting : row.state = .awaitingHeartbeat → ∃ boot release, AgentProof catalog past row boot release

section Rows
variable {catalog : Catalog} {past : History} {before : Deployments} {event : Event} {row old new : FirmwareDeployment}
  {now : Int} {boot : String} {release : FirmwareRelease}

theorem AgentEvidence.of_early (started : row.stabilizationStartedAt = none) (count : row.verificationHeartbeats = 0)
    (reading : row.readingConfirmedAt = none) (outside : row.state ≠ .awaitingHeartbeat) : AgentEvidence catalog past row :=
  ⟨fun _ => ⟨started, count, reading⟩, fun awaiting => absurd awaiting outside⟩

theorem AgentEvidence.of_proof (state : row.state = .awaitingHeartbeat) (proof : AgentProof catalog past row boot release) :
    AgentEvidence catalog past row where
  early := by
    rw [state]
    exact fun early => absurd early (by decide)
  awaiting := fun _ => ⟨boot, release, proof⟩

theorem AgentProof.continuous (proof : AgentProof catalog past row boot release) (stable : Stable catalog.settings row now) :
    AgentContinuousBoot catalog row now past := by
  obtain ⟨_, enough, confirmed, started, begun, old⟩ := stable
  obtain ⟨started', begun', entry, member, verifies, at_⟩ := proof.begun
  have same : started' = started := Option.some.inj (begun'.symm.trans begun)
  have read := proof.read fun none => by
    rw [none] at confirmed
    cases confirmed
  exact ⟨boot, proof.booted, release, proof.released, enough.trans (by exact_mod_cast proof.counted), read, entry, member,
    verifies, by rw [at_, same]; exact old⟩

/-- The end of a verification stands on the evidence of the row that awaited it. -/
theorem Settled.agent_evidence (settled : Settled catalog.settings now old new) (state : old.state = .awaitingHeartbeat)
    (proof : AgentProof catalog past old boot release) :
    AgentEvidence catalog past new ∧ (new.state = .completed → AgentContinuousBoot catalog new now past) := by
  cases settled with
  | pending =>
      refine ⟨.of_proof state proof, fun completed => ?_⟩
      rw [state] at completed
      cases completed
  | completed stable =>
      refine ⟨⟨fun early => ?_, fun awaits => ?_⟩, fun _ => proof.continuous stable⟩
      · exact absurd (show BeforeProof .completed ∨ DeploymentState.completed = .validated from early) (by decide)
      · exact absurd (show DeploymentState.completed = .awaitingHeartbeat from awaits) (by decide)

/-- A row with the same evidence keeps it while no other boot is heard from. -/
theorem AgentProof.extended (proof : AgentProof catalog past old boot release) (listed : old ∈ before.table.rows)
    (identity : Identity old new) (evidence : SameEvidence old new) (same : new.lastBootId = old.lastBootId)
    (heard : ∀ other ∈ heartbeatBoot old.deviceId event, other = boot) :
    AgentProof catalog ((before, event) :: past) new boot release := by
  have current := identity.current evidence.attempt
  refine ⟨same.trans proof.booted, identity.release ▸ proof.released, ?_, ?_, ?_⟩
  · rw [current, evidence.count, heartbeatsOfBoot_cons listed heard]
    exact Nat.le_add_right_of_le proof.counted
  · obtain ⟨started, begun, entry, member, verifies⟩ := proof.begun
    rw [current, identity.device, sameBoot_cons listed heard]
    exact ⟨started, evidence.started.trans begun, entry, List.mem_cons_of_mem _ member, verifies⟩
  · rw [current, evidence.reading]
    intro confirmed
    obtain ⟨entry, member, read⟩ := proof.read confirmed
    exact ⟨entry, mem_currentAttempt_cons listed member, read⟩

/-- While a deployment awaits heartbeats, those of its sensor come from its boot. -/
theorem heard_same_boot (headless : Headless event) (guarded : ¬ HeardFromOtherBoot before event)
    (listed : old ∈ before.table.rows) (awaiting : old.state = .awaitingHeartbeat) (booted : old.lastBootId = some boot) :
    ∀ other ∈ heartbeatBoot old.deviceId event, other = boot := by
  intro other heard
  obtain ⟨now, action⟩ := event
  cases action with
  | headlessHeartbeat payload criticalAlert =>
      have own : payload.deviceId = old.deviceId ∧ payload.bootId = other := by simpa [heartbeatBoot] using heard
      by_contra different
      refine guarded ⟨old, listed, own.1.symm, awaiting, ?_⟩
      rw [booted, own.2]
      exact fun same => different (Option.some.inj same).symm
  | heartbeat payload matched criticalAlert => exact headless.elim
  | create | cancel | retry | promote | manifest | report | readings | stale | headlessResult => cases heard

/-- A counted heartbeat is in the history that stands behind the row. -/
theorem headlessHeartbeat_evidence {payload : AgentHeartbeat} {criticalAlert : Bool} {counted : FirmwareDeployment}
    (action : event.action = .headlessHeartbeat payload criticalAlert) (listed : old ∈ before.table.rows)
    (device : old.deviceId = payload.deviceId) (identity : Identity old new)
    (stabilizing : old.state ∈ [.validated, .awaitingHeartbeat]) (released : catalog.releases old.releaseId = some release)
    (target : AgentTargetIdentity release payload) (counts : Counted event.now old counted)
    (boot : counted.lastBootId = some payload.bootId) (settled : Settled catalog.settings event.now counted new)
    (headless : Headless event) (guarded : ¬ HeardFromOtherBoot before event) (evidence : AgentEvidence catalog past old) :
    AgentEvidence catalog ((before, event) :: past) new ∧
      (new.state = .completed → AgentContinuousBoot catalog new event.now ((before, event) :: past)) := by
  have current : counted.current = old.current := by
    have kept : new.attempt = counted.attempt ∧ new.current = counted.current := by
      cases settled with
      | pending => exact ⟨rfl, rfl⟩
      | completed => exact ⟨rfl, rfl⟩
    rw [← kept.2, identity.current (kept.1.trans counts.attempt)]
  have releases : counted.releaseId = old.releaseId := congrArg Attempt.releaseId current
  have devices : counted.deviceId = old.deviceId := congrArg Attempt.deviceId current
  have own : ∀ other ∈ heartbeatBoot old.deviceId event, other = payload.bootId := by
    intro other heard
    have told : old.deviceId = payload.deviceId ∧ payload.bootId = other := by
      simpa [heartbeatBoot, action, device] using heard
    exact told.2.symm
  have verifies : AgentVerifyingHeartbeat release old.current payload.bootId event := by
    unfold AgentVerifyingHeartbeat
    rw [action]
    exact ⟨device.symm, rfl, target⟩
  -- What the history held before the heartbeat.
  have behind : old.verificationHeartbeats ≤
        heartbeatsOfBoot (fun event => AgentVerifyingHeartbeat release old.current payload.bootId event) old.current
          payload.bootId past ∧
      (∃ started, counted.stabilizationStartedAt = some started ∧
        ∃ entry ∈ sameBoot old.deviceId payload.bootId (currentAttempt old.current ((before, event) :: past)),
          AgentVerifyingHeartbeat release old.current payload.bootId entry.2 ∧ entry.2.now = started) ∧
      (old.readingConfirmedAt ≠ none →
        ∃ entry ∈ currentAttempt old.current past, ReadingOfBoot old.current payload.bootId entry.2) := by
    rw [sameBoot_cons listed own, counts.started]
    rcases (by simpa using stabilizing : old.state = .validated ∨ old.state = .awaitingHeartbeat) with validated | awaiting
    · obtain ⟨unbegun, none, unread⟩ := evidence.early (.inr validated)
      refine ⟨by rw [none]; exact Nat.zero_le _, ⟨event.now, ?_, (before, event), List.mem_cons_self, verifies, rfl⟩,
        fun confirmed => absurd unread confirmed⟩
      rw [if_pos validated, unbegun]
      rfl
    · obtain ⟨first, release', proof⟩ := evidence.awaiting awaiting
      obtain rfl := Option.some.inj (proof.released.symm.trans released)
      have same : first = payload.bootId :=
        (heard_same_boot headless guarded listed awaiting proof.booted payload.bootId (by simp [heartbeatBoot, action, device])).symm
      subst same
      obtain ⟨started, begun, entry, member, verified⟩ := proof.begun
      refine ⟨proof.counted, ⟨started, ?_, entry, List.mem_cons_of_mem _ member, verified⟩, proof.read⟩
      rw [if_neg (by rw [awaiting]; decide), begun]
  obtain ⟨count, begun, read⟩ := behind
  refine settled.agent_evidence counts.state ⟨boot, by rw [releases]; exact released, ?_, ?_, ?_⟩
  · rw [current, heartbeatsOfBoot_cons listed own, counts.count, if_pos (decide_eq_true verifies)]
    exact Nat.add_le_add_right count 1
  · rw [current, devices]
    exact begun
  · rw [current, counts.reading]
    intro confirmed
    obtain ⟨entry, member, read⟩ := read confirmed
    exact ⟨entry, mem_currentAttempt_cons listed member, read⟩

theorem RowChange.agent_evidence (change : RowChange catalog before event old new) (identity : Identity old new)
    (listed : old ∈ before.table.rows) (headless : Headless event) (guarded : ¬ HeardFromOtherBoot before event)
    (evidence : AgentEvidence catalog past old) :
    AgentEvidence catalog ((before, event) :: past) new ∧ (new.state = .completed →
      old.state = .completed ∨ AgentContinuousBoot catalog new event.now ((before, event) :: past)) := by
  -- A row whose state and evidence stay has what stood behind it.
  have kept : SameEvidence old new → new.lastBootId = old.lastBootId → new.state = old.state →
      AgentEvidence catalog ((before, event) :: past) new ∧ (new.state = .completed →
        old.state = .completed ∨ AgentContinuousBoot catalog new event.now ((before, event) :: past)) := by
    intro same boot state
    refine ⟨⟨?_, fun awaiting => ?_⟩, fun completed => .inl (state.symm.trans completed)⟩
    · rw [state, same.started, same.count, same.reading]
      exact evidence.early
    · have awaiting := state.symm.trans awaiting
      obtain ⟨first, release, proof⟩ := evidence.awaiting awaiting
      exact ⟨first, release, proof.extended listed identity same boot
        (heard_same_boot headless guarded listed awaiting proof.booted)⟩
  cases change with
  | same unchanged =>
      subst unchanged
      exact kept (.refl _) rfl rfl
  | moved moved =>
      have outside := moved.outside
      simp only [List.mem_cons, List.not_mem_nil, or_false, not_or] at outside
      refine ⟨⟨fun early => ?_, fun awaiting => absurd awaiting outside.2.1⟩, fun completed => absurd completed outside.2.2⟩
      rw [moved.evidence.started, moved.evidence.count, moved.evidence.reading]
      exact evidence.early (.inl (moved.early (early.resolve_right outside.1)))
  | promoted canary id around action found group member next own alone same waiting scheduled =>
      obtain ⟨unbegun, none, unread⟩ := evidence.early (.inl (by rw [waiting]; decide))
      refine ⟨.of_early (same.started.trans unbegun) (same.count.trans none) (same.reading.trans unread) ?_, ?_⟩
      all_goals
        rw [scheduled]
        exact nofun
  | retried around action terminal alone scheduled attempt count started reading =>
      refine ⟨.of_early started count reading ?_, ?_⟩
      all_goals
        rw [scheduled]
        exact nofun
  | validated payload resetting action =>
      unfold Headless at headless
      rw [action] at headless
      exact headless.elim
  | heartbeat payload criticalAlert action =>
      unfold Headless at headless
      rw [action] at headless
      exact headless.elim
  | reading readings durable criticalAlert action awaiting shown settled =>
      obtain ⟨boot, release, proof⟩ := evidence.awaiting awaiting
      obtain ⟨reading, sent, durable, own, _⟩ := shown
      have extended := proof.extended listed (.refl _) (.refl _) rfl
        (heard_same_boot headless guarded listed awaiting proof.booted)
      have read : ∃ entry ∈ currentAttempt old.current ((before, event) :: past), ReadingOfBoot old.current boot entry.2 := by
        refine ⟨(before, event), head_currentAttempt listed, ?_⟩
        unfold ReadingOfBoot
        rw [action]
        exact ⟨rfl, reading, sent, durable, Option.some.inj (own.trans proof.booted)⟩
      have confirmed : AgentProof catalog ((before, event) :: past)
          { old with readingConfirmedAt := old.readingConfirmedAt <|> some event.now } boot release :=
        ⟨extended.booted, extended.released, extended.counted, extended.begun, fun _ => read⟩
      obtain ⟨evidence, completed⟩ := settled.agent_evidence awaiting confirmed
      exact ⟨evidence, fun done => .inr (completed done)⟩
  | headlessResult result commandFailed deviceId action same boot states =>
      rcases states with state | ⟨ordered, between⟩ | failed
      · exact kept same boot state
      · have early : BeforeProof old.state ∨ old.state = .validated := by
          revert ordered
          cases old.state <;> decide
        obtain ⟨unbegun, none, unread⟩ := evidence.early early
        refine ⟨.of_early (same.started.trans unbegun) (same.count.trans none) (same.reading.trans unread) ?_, ?_⟩
        all_goals
          intro state
          rw [state] at between
          exact absurd between (by decide)
      · refine ⟨⟨fun early => ?_, fun awaiting => ?_⟩, fun completed => ?_⟩
        · rw [failed] at early
          exact absurd early (by decide)
        · rw [failed] at awaiting
          cases awaiting
        · rw [failed] at completed
          cases completed
  | headlessHeartbeat payload criticalAlert action device stabilizing release released target counted counts boot settled =>
      obtain ⟨evidence, completed⟩ := headlessHeartbeat_evidence action listed device identity stabilizing released target counts
        boot settled headless guarded evidence
      exact ⟨evidence, fun done => .inr (completed done)⟩

theorem Created.agent_evidence (created : Created before event row) : AgentEvidence catalog past row := by
  refine .of_early created.started created.count created.reading ?_
  rw [created.state]
  split <;> decide

/-! ## Every run -/

theorem step_agent_evidence (evidence : ∀ row ∈ before.table.rows, AgentEvidence catalog past row) (headless : Headless event)
    (guarded : ¬ HeardFromOtherBoot before event) :
    ∀ row ∈ (step catalog before event).table.rows, AgentEvidence catalog ((before, event) :: past) row := by
  intro row member
  rcases step_rows row member with ⟨old, listed, identity, change⟩ | created
  · exact (change.agent_evidence identity listed headless guarded (evidence old listed)).1
  · exact created.agent_evidence

end Rows

/-- In a run of the headless protocol in which no agent is heard from another boot while its heartbeats are awaited, a deployment
that becomes completed was verified by one boot. -/
theorem agent_continuous_boot (catalog : Catalog) (events earlier later : List Event) (event : Event)
    (split : events = earlier ++ event :: later) (headless : ∀ turn ∈ events, Headless turn)
    (along : Along (step catalog) (fun deployments event => ¬ HeardFromOtherBoot deployments event) .initial events)
    (row : FirmwareDeployment) (member : row ∈ (reached catalog (earlier ++ [event])).table.rows)
    (completed : row.state = .completed)
    (entered : ∀ old ∈ (reached catalog earlier).table.rows, old.id = row.id → old.state ≠ .completed) :
    AgentContinuousBoot catalog row event.now (history catalog (earlier ++ [event])) := by
  subst split
  have evidence : ∀ row ∈ (reached catalog earlier).table.rows, AgentEvidence catalog (history catalog earlier) row := by
    have guarded := Along.and along.of_append (Along.of_forall fun turn listed => headless turn (List.mem_append_left _ listed))
    refine guarded.history_invariant
      (P := fun deployments past => ∀ row ∈ deployments.table.rows, AgentEvidence catalog past row) ?_ ?_
    · exact List.forall_mem_nil _
    · intro before past turn held guard
      exact step_agent_evidence held guard.2 guard.1
  have reaches : reached catalog (earlier ++ [event]) = step catalog (reached catalog earlier) event := List.foldl_concat ..
  rw [reaches] at member
  rw [history_concat]
  rcases step_rows row member with ⟨old, listed, identity, change⟩ | created
  · have agent := headless event (by simp)
    have kept := (change.agent_evidence identity listed agent along.of_split (evidence old listed)).2 completed
    exact kept.resolve_left (entered old listed identity.id.symm)
  · rw [created.state] at completed
    split at completed <;> cases completed

/-! ## One agent -/

def agentRequest : FirmwareDeploymentCreate :=
  { firmwareReleaseId := "release", deviceIds := ["agent"], distinct := by decide, scheduledAt := 0 }

def validatedResult : OtaResult :=
  { deploymentId := some 1, releaseId := some "release", bytesReceived := some 1, imageSize := some 1, progress := some 100
    stage := some "validated", targetVersion := some "2.0.0", targetBuildHash := some "target-build" }

def agentHeartbeat (bootId : String) (now : Int) : Event :=
  let payload : AgentHeartbeat :=
    { deviceId := "agent", bootId := bootId, firmwareVersion := "2.0.0", buildHash := "target-build"
      otaState := some "validated" }
  ⟨seconds now, .headlessHeartbeat payload false⟩

/-- The agent validates the update; its boot is heard from and sends a reading. -/
def agentRun (heartbeats : Nat) : List Event :=
  [⟨seconds 0, .create agentRequest exampleSurroundings⟩, ⟨seconds 5, .headlessResult "agent" validatedResult false⟩] ++
    (List.range heartbeats).map (fun turn => agentHeartbeat "one" (10 + 15 * turn)) ++
    [⟨seconds 146, .readings "agent" [⟨7, "one", "2.0.0"⟩] [7] false⟩]

def agentRow (events : List Event) : FirmwareDeployment :=
  ((reached exampleCatalog events).table.get? 1).getD
    (newDeployment exampleCatalog.settings exampleSurroundings 0 agentRequest {} none 0 "agent")

theorem agent_completes : ∃ row ∈ (reached exampleCatalog (agentRun 9 ++ [agentHeartbeat "one" 150])).table.rows,
    AgentContinuousBoot exampleCatalog row (seconds 150) (history exampleCatalog (agentRun 9 ++ [agentHeartbeat "one" 150])) := by
  refine ⟨agentRow (agentRun 9 ++ [agentHeartbeat "one" 150]), by decide, ?_⟩
  exact agent_continuous_boot exampleCatalog (agentRun 9 ++ [agentHeartbeat "one" 150]) (agentRun 9) []
    (agentHeartbeat "one" 150) rfl (by decide) (by decide) _ (by decide) (by decide)
    (by decide)

theorem agent_completed_by_two_boots : ¬ ∀ (catalog : Catalog) (earlier : List Event) (event : Event),
    (∀ turn ∈ earlier ++ [event], Headless turn) → ∀ row ∈ (reached catalog (earlier ++ [event])).table.rows,
      row.state = .completed → (∀ old ∈ (reached catalog earlier).table.rows, old.id = row.id → old.state ≠ .completed) →
        AgentContinuousBoot catalog row event.now (history catalog (earlier ++ [event])) := by
  intro always
  have verified := always exampleCatalog (agentRun 9) (agentHeartbeat "two" 150) (by decide)
    (agentRow (agentRun 9 ++ [agentHeartbeat "two" 150])) (by decide) (by decide) (by decide)
  exact absurd verified (by decide)

end PowerMonitor.Firmware
