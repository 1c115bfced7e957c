import PowerMonitor.Firmware.Effects

/-! What one event does to the table of deployments. -/

set_option autoImplicit false
namespace PowerMonitor.Firmware
open Library Access

/-- Every row after the event is a row before it, changed in one of the known ways, or was created by the event. -/
def RowsChange (catalog : Catalog) (before after : Deployments) (event : Event) : Prop :=
  ∀ row ∈ after.table.rows,
    (∃ old ∈ before.table.rows, Identity old row ∧ RowChange catalog before event old row) ∨ Created before event row

section Steps
variable {catalog : Catalog} {before after : Deployments} {event : Event}

theorem RowsChange.refl : RowsChange catalog before before event :=
  fun row listed => .inl ⟨row, listed, .refl _, .same rfl⟩

theorem save_rows {old new : FirmwareDeployment} (ok : before.save new = .ok after) (held : old ∈ before.table.rows)
    (identity : Identity old new) (change : RowChange catalog before event old new) : RowsChange catalog before after event := by
  intro row listed
  rw [Deployments.save_eq_ok ok] at listed
  rcases Deployments.mem_replace.mp listed with ⟨kept, _⟩ | ⟨_, rfl⟩
  · exact .inl ⟨row, kept, .refl _, .same rfl⟩
  · exact .inl ⟨old, held, identity, change⟩

theorem update_rows {found : Option FirmwareDeployment} {change : FirmwareDeployment → Except Failure FirmwareDeployment}
    (held : ∀ row, found = some row → row ∈ before.table.rows)
    (each : ∀ row new, found = some row → change row = .ok new → (new.Active → ¬ before.Occupied new) →
      Identity row new ∧ RowChange catalog before event row new)
    (ok : update before found change = .ok after) : RowsChange catalog before after event := by
  unfold update at ok
  split at ok
  · cases ok
    exact .refl
  · rename_i row
    obtain ⟨new, changed, saved⟩ := bind_eq_ok.mp ok
    obtain ⟨identity, kind⟩ := each row new rfl changed (Deployments.free_of_save saved)
    exact save_rows saved (held row rfl) identity kind

theorem get_mem {id : Nat} {row : FirmwareDeployment} (found : before.table.get? id = some row) :
    row ∈ before.table.rows ∧ row.id = id := Table.get?_eq_some.mp found

theorem rowIn_mem {deviceId : String} {states : List DeploymentState} {row : FirmwareDeployment}
    (found : rowIn before deviceId states = some row) :
    row ∈ before.table.rows ∧ row.deviceId = deviceId ∧ row.state ∈ states := by
  have chosen := List.find?_some found
  exact ⟨List.mem_of_find?_eq_some found, of_decide_eq_true chosen⟩

/-! ## Messages of sensors -/

theorem reportDeployment_rows {deviceId : String} {payload : FirmwareDeploymentReport} {resetting : Bool}
    (action : event.action = .report deviceId payload resetting)
    (ok : reportDeployment catalog before event.now deviceId payload resetting = .ok after) :
    RowsChange catalog before after event := by
  obtain ⟨_, ok⟩ := refuseIf_bind.mp ok
  obtain ⟨_, ok⟩ := refuseIf_bind.mp ok
  obtain ⟨deployment, found, ok⟩ := required_bind.mp ok
  obtain ⟨release, _, ok⟩ := required_bind.mp ok
  obtain ⟨found, own⟩ := Option.filter_eq_some_iff.mp found
  have own : deployment.deviceId = deviceId := of_decide_eq_true own
  obtain ⟨listed, named⟩ := get_mem found
  refine update_rows (fun row chosen => Option.some.inj chosen ▸ listed) ?_ ok
  rintro row new chosen reported _
  obtain rfl := Option.some.inj chosen
  obtain ⟨identity, rfl | moved | ⟨validated, from_, rfl⟩⟩ := reportMilestone_ok reported
  · exact ⟨identity, .same rfl⟩
  · exact ⟨identity, .moved moved⟩
  · refine ⟨identity, .validated payload resetting (own ▸ action) named.symm validated from_ ?_ ?_ ?_ ?_ ?_ ?_⟩
    all_goals simp only [milestoneRecorded, validated, FirmwareDeployment.moved]

theorem flushed_ok {row new : FirmwareDeployment} (ok : flushed before row = .ok new) :
    (row.state = .completed → ¬ before.Occupied row) ∧ new = row := by
  unfold flushed at ok
  split at ok
  · cases ok
  · rename_i free
    cases ok
    exact ⟨fun completed occupied => free ⟨completed, occupied⟩, rfl⟩

theorem occupied_identity {old new : FirmwareDeployment} (identity : Identity old new) :
    before.Occupied new ↔ before.Occupied old := by
  unfold Deployments.Occupied
  rw [identity.id, identity.device]

theorem receiveHeartbeat_rows {payload : Heartbeat} {matched : Nat} {criticalAlert : Bool}
    (action : event.action = .heartbeat payload matched criticalAlert)
    (ok : receiveHeartbeat catalog before event.now payload matched criticalAlert = .ok after) :
    RowsChange catalog before after event := by
  refine update_rows (fun row chosen => (get_mem (Option.filter_eq_some_iff.mp chosen).1).1) ?_ ok
  intro row new chosen changed free
  obtain ⟨found, latest⟩ := Option.filter_eq_some_iff.mp chosen
  have latest : LatestForHeartbeat before payload.deviceId row := of_decide_eq_true latest
  obtain ⟨_, rfl⟩ := get_mem found
  obtain ⟨reconciled, changed, flush⟩ := bind_eq_ok.mp changed
  obtain ⟨unblocked, rfl⟩ := flushed_ok flush
  unfold withRelease at changed
  split at changed
  · cases changed
    exact ⟨.refl _, .same rfl⟩
  · rename_i release released
    obtain ⟨identity, rfl | moved | ⟨target, observed, seen, boot, outcome⟩⟩ := reconcileFirmwareHeartbeat_ok latest.1.2 changed
    · exact ⟨identity, .same rfl⟩
    · exact ⟨identity, .moved moved⟩
    · have alone : ¬ before.Occupied row := by
        rw [← occupied_identity identity]
        exact (outcome.active_or_completed seen).elim free unblocked
      exact ⟨identity, .heartbeat payload criticalAlert action latest alone release released target observed seen boot outcome⟩

theorem receiveReadings_rows {deviceId : String} {readings : List Reading} {durable : List Nat} {criticalAlert : Bool}
    (action : event.action = .readings deviceId readings durable criticalAlert)
    (ok : receiveReadings catalog before event.now deviceId readings durable criticalAlert = .ok after) :
    RowsChange catalog before after event := by
  refine update_rows (fun row chosen => (rowIn_mem chosen).1) ?_ ok
  intro row new chosen changed _
  obtain ⟨_, rfl, awaiting⟩ := rowIn_mem chosen
  rcases confirmFirmwareReading_ok changed with rfl | ⟨proof, settled⟩
  · exact ⟨.refl _, .same rfl⟩
  · have same := settled.identity
    exact ⟨⟨same.id, same.device, same.release, same.group⟩,
      .reading readings durable criticalAlert action (List.mem_singleton.mp awaiting) proof settled⟩

theorem receiveHeadlessResult_rows {deviceId : String} {result : OtaResult} {commandFailed : Bool}
    (action : event.action = .headlessResult deviceId result commandFailed)
    (ok : receiveHeadlessResult before event.now deviceId result commandFailed = .ok after) :
    RowsChange catalog before after event := by
  obtain ⟨_, ok⟩ := refuseIf_bind.mp ok
  obtain ⟨deployment, found, ok⟩ := required_bind.mp ok
  obtain ⟨id, _, found⟩ := Option.bind_eq_some_iff.mp found
  refine update_rows (fun row chosen => Option.some.inj chosen ▸ (get_mem found).1) ?_ ok
  intro row new chosen changed _
  obtain ⟨identity, evidence, boot, states⟩ := recordHeadlessOtaResult_ok changed
  exact ⟨identity, .headlessResult result commandFailed deviceId action evidence boot states⟩

theorem receiveHeadlessHeartbeat_rows {payload : AgentHeartbeat} {criticalAlert : Bool}
    (action : event.action = .headlessHeartbeat payload criticalAlert)
    (ok : receiveHeadlessHeartbeat catalog before event.now payload criticalAlert = .ok after) :
    RowsChange catalog before after event := by
  unfold receiveHeadlessHeartbeat at ok
  split at ok
  · refine update_rows (fun row chosen => (rowIn_mem chosen).1) ?_ ok
    intro row new chosen changed _
    obtain ⟨_, own, stabilizing⟩ := rowIn_mem chosen
    unfold withRelease at changed
    split at changed
    · cases changed
      exact ⟨.refl _, .same rfl⟩
    · rename_i release released
      obtain ⟨identity, rfl | ⟨target, counted, counts, boot, settled⟩⟩ := recordHeadlessOtaHeartbeat_ok stabilizing changed
      · exact ⟨identity, .same rfl⟩
      · exact ⟨identity, .headlessHeartbeat payload criticalAlert action own stabilizing release released target counted counts
          boot settled⟩
  · cases ok
    exact .refl

/-! ## The reconciler -/

/-- A row that the reconciler has ended is left alone by the rest of the pass. -/
theorem reconcileStaleFirmwareDeployments_rows {batch : List Nat}
    (ok : reconcileStaleFirmwareDeployments catalog before event.now batch = .ok after) :
    RowsChange catalog before after event := by
  let Passed (current : Deployments) : Prop := ∀ row ∈ current.table.rows,
    ∃ old ∈ before.table.rows, Identity old row ∧ (row = old ∨ Moved old row)
  have passed : Passed after := by
    refine foldlM_invariant Passed batch (fun row listed => ⟨row, listed, .refl _, .inl rfl⟩) ?_ ok
    intro current id next _ turn holds row listed
    unfold update at turn
    split at turn
    · cases turn
      exact holds row listed
    · rename_i asked found
      obtain ⟨new, changed, saved⟩ := bind_eq_ok.mp turn
      rw [Deployments.save_eq_ok saved] at listed
      rcases Deployments.mem_replace.mp listed with ⟨kept, _⟩ | ⟨_, rfl⟩
      · exact holds row kept
      · obtain ⟨old, held, identity, earlier⟩ := holds asked (get_mem found).1
        obtain ⟨later, outcome⟩ := reconcileStale_ok changed
        refine ⟨old, held, identity.trans later, ?_⟩
        rcases outcome with rfl | moved
        · exact earlier
        · rcases earlier with rfl | before
          · exact .inr moved
          · exact .inr ⟨⟨moved.evidence.attempt.trans before.evidence.attempt, moved.evidence.count.trans before.evidence.count,
              moved.evidence.started.trans before.evidence.started, moved.evidence.reading.trans before.evidence.reading⟩,
              moved.outside, before.operational ∘ moved.operational, before.early ∘ moved.early⟩
  intro row listed
  obtain ⟨old, held, identity, rfl | moved⟩ := passed row listed
  · exact .inl ⟨row, held, identity, .same rfl⟩
  · exact .inl ⟨old, held, identity, .moved moved⟩

/-! ## Administration -/

theorem loadDevice_bind {α : Type} {around : Surroundings} {deployment : FirmwareDeployment} {next : DeviceView → Except Failure α}
    {result : α} (ok : (loadDevice around deployment >>= next) = .ok result) : ∃ device, next device = .ok result := by
  obtain ⟨device, _, ok⟩ := bind_eq_ok.mp ok
  exact ⟨device, ok⟩

theorem cancelDeployment_rows {deploymentId : Nat} {around : Surroundings}
    (ok : cancelDeployment before around event.now deploymentId = .ok after) : RowsChange catalog before after event := by
  obtain ⟨_, _, ok⟩ := bind_eq_ok.mp ok
  obtain ⟨deployment, found, ok⟩ := required_bind.mp ok
  obtain ⟨_, ok⟩ := loadDevice_bind ok
  split at ok
  · cases ok
    exact .refl
  · rename_i active
    obtain ⟨_, ok⟩ := refuseIf_bind.mp ok
    obtain ⟨cancelled, transition, saved⟩ := bind_eq_ok.mp ok
    rcases transition_eq_ok.mp transition with ⟨already, _⟩ | ⟨_, _, rfl⟩
    · rw [already] at active
      exact absurd (by decide) active
    · exact save_rows saved (get_mem found).1 ⟨rfl, rfl, rfl, rfl⟩
        (.moved (moved_terminal ⟨rfl, rfl, rfl, rfl⟩ (rfl : _ = DeploymentState.cancelled) (by decide)))

theorem retryDeployment_rows {deploymentId : Nat} {around : Surroundings} (action : event.action = .retry deploymentId around)
    (ok : retryDeployment catalog.releases catalog.settings before around event.now deploymentId = .ok after) :
    RowsChange catalog before after event := by
  obtain ⟨_, _, ok⟩ := bind_eq_ok.mp ok
  obtain ⟨deployment, found, ok⟩ := required_bind.mp ok
  obtain ⟨device, ok⟩ := loadDevice_bind ok
  obtain ⟨_, _, ok⟩ := bind_eq_ok.mp ok
  obtain ⟨terminal, ok⟩ := refuseIf_bind.mp ok
  obtain ⟨_, ok⟩ := refuseIf_bind.mp ok
  obtain ⟨alone, ok⟩ := refuseIf_bind.mp ok
  obtain ⟨scheduled, transition, ok⟩ := bind_eq_ok.mp ok
  obtain ⟨_, _, ok⟩ := bind_eq_ok.mp ok
  obtain ⟨_, _, saved⟩ := bind_eq_ok.mp ok
  have terminal := not_not.mp terminal
  obtain ⟨listed, rfl⟩ := get_mem found
  rcases transition_eq_ok.mp transition with ⟨already, _⟩ | ⟨_, _, rfl⟩
  · rw [already] at terminal
    exact absurd terminal (by decide)
  · exact save_rows saved listed ⟨rfl, rfl, rfl, rfl⟩ (.retried around action terminal alone rfl rfl rfl rfl rfl)

theorem promoteCanary_rows {deploymentId : Nat} {around : Surroundings} (action : event.action = .promote deploymentId around)
    (ok : promoteCanary catalog.releases catalog.settings before around event.now deploymentId = .ok after) :
    RowsChange catalog before after event := by
  obtain ⟨_, _, ok⟩ := bind_eq_ok.mp ok
  obtain ⟨canary, found, ok⟩ := required_bind.mp ok
  obtain ⟨_, ok⟩ := loadDevice_bind ok
  obtain ⟨group, member, ok⟩ := required_bind.mp ok
  obtain ⟨_, ok⟩ := refuseIf_bind.mp ok
  obtain ⟨alone, ok⟩ := refuseIf_bind.mp ok
  split at ok
  · cases ok
    exact .refl
  · rename_i next chosen
    obtain ⟨_, _, ok⟩ := required_bind.mp ok
    obtain ⟨_, _, ok⟩ := bind_eq_ok.mp ok
    obtain ⟨scheduled, transition, ok⟩ := bind_eq_ok.mp ok
    obtain ⟨_, _, ok⟩ := bind_eq_ok.mp ok
    obtain ⟨_, _, saved⟩ := bind_eq_ok.mp ok
    obtain ⟨listed, waiting⟩ := List.mem_filter.mp (List.argmin_mem chosen)
    obtain ⟨own, waiting⟩ := of_decide_eq_true waiting
    rcases transition_eq_ok.mp transition with ⟨already, _⟩ | ⟨_, _, rfl⟩
    · rw [waiting] at already
      cases already
    · refine save_rows saved listed ⟨rfl, rfl, rfl, rfl⟩ ?_
      exact .promoted canary deploymentId around action found group member chosen own
        (fun other held same operational => alone ⟨other, held, same, operational⟩) ⟨rfl, rfl, rfl, rfl⟩ waiting rfl

theorem firmwareManifest_rows {deviceId : String} {around : Surroundings} {artifactAvailable compatible : Bool}
    (ok : firmwareManifest catalog.releases before around event.now deviceId artifactAvailable compatible = .ok after) :
    RowsChange catalog before after event := by
  obtain ⟨_, ok⟩ := refuseIf_bind.mp ok
  split at ok
  · cases ok
    exact .refl
  · rename_i deployment chosen
    obtain ⟨_, _, ok⟩ := required_bind.mp ok
    obtain ⟨_, ok⟩ := refuseIf_bind.mp ok
    obtain ⟨_, ok⟩ := refuseIf_bind.mp ok
    have listed := (List.mem_filter.mp (List.argmin_mem chosen)).1
    by_cases scheduled : deployment.state = .scheduled
    · rw [if_pos scheduled] at ok
      obtain ⟨offered, transition, saved⟩ := bind_eq_ok.mp ok
      rcases transition_eq_ok.mp transition with ⟨already, rfl⟩ | ⟨_, _, rfl⟩
      · exact save_rows saved listed (.refl _) (.same rfl)
      · refine save_rows saved listed ⟨rfl, rfl, rfl, rfl⟩ (.moved ⟨⟨rfl, rfl, rfl, rfl⟩, by simp [FirmwareDeployment.moved], ?_, ?_⟩)
        all_goals
          intro _
          rw [scheduled]
          decide
    · rw [if_neg scheduled] at ok
      exact save_rows ok listed (.refl _) (.same rfl)

/-! ## Creation -/

theorem add_rows {row : FirmwareDeployment} {created : Deployments} (ok : before.add row = .ok created)
    {listed : FirmwareDeployment} (member : listed ∈ created.table.rows) :
    listed = before.numbered row ∨ listed ∈ before.table.rows := by
  rw [Deployments.add_eq_ok ok] at member
  exact List.mem_cons.mp member

/-- A rollout that repeats an earlier one has nothing to create; the group of a new one is its own. -/
theorem findRollout_ok {payload : FirmwareDeploymentCreate} {rollout : List FirmwareDeployment × Option Nat}
    (ok : findRollout before payload = .ok rollout) :
    rollout.1.map FirmwareDeployment.deviceId = payload.deviceIds ∨
      rollout.2 = none ∨ rollout.2 = some before.freshGroup := by
  unfold findRollout at ok
  dsimp only at ok
  split at ok
  · cases ok
    refine .inr ?_
    dsimp only
    split
    · exact .inr rfl
    · exact .inl rfl
  · split at ok
    · cases ok
      refine .inr ?_
      dsimp only
      split
      · exact .inr rfl
      · exact .inl rfl
    · obtain ⟨same, ok⟩ := refuseIf_bind.mp ok
      cases ok
      exact .inl (not_not.mp same).1

theorem createDeployments_rows {payload : FirmwareDeploymentCreate} {around : Surroundings}
    (action : event.action = .create payload around)
    (ok : createDeployments catalog.releases catalog.settings before around event.now payload = .ok after) :
    RowsChange catalog before after event := by
  obtain ⟨_, _, ok⟩ := bind_eq_ok.mp ok
  obtain ⟨release, _, ok⟩ := required_bind.mp ok
  obtain ⟨_, ok⟩ := refuseIf_bind.mp ok
  obtain ⟨_, _, ok⟩ := bind_eq_ok.mp ok
  obtain ⟨rollout, found, ok⟩ := bind_eq_ok.mp ok
  obtain ⟨_, _, ok⟩ := bind_eq_ok.mp ok
  let Passed (current : Deployments) : Prop :=
    ∀ row ∈ current.table.rows, row ∈ before.table.rows ∨ Created before event row
  have passed : Passed after := by
    refine foldlM_invariant Passed _ (fun row listed => .inl listed) ?_ ok
    rintro current ⟨deviceId, order⟩ next member turn holds row listed
    obtain ⟨device, _, turn⟩ := required_bind.mp turn
    obtain ⟨_, turn⟩ := refuseIf_bind.mp turn
    split at turn
    · cases turn
      exact holds row listed
    · rename_i fresh
      obtain ⟨_, _, turn⟩ := bind_eq_ok.mp turn
      split at turn
      · obtain ⟨_, turn⟩ := refuseIf_bind.mp turn
        cases turn
        exact holds row listed
      · obtain ⟨created, added, turn⟩ := bind_eq_ok.mp turn
        obtain ⟨_, _, turn⟩ := bind_eq_ok.mp turn
        cases turn
        rcases add_rows added listed with rfl | kept
        · refine .inr ⟨⟨payload, around, action, member⟩, rfl, ?_, rfl, rfl, rfl⟩
          rcases findRollout_ok found with repeated | group
          · have target := (List.mem_zipIdx member).2.2
            exact absurd (repeated ▸ target ▸ List.getElem_mem _) fresh
          · exact group
        · exact holds row kept
  intro row listed
  exact (passed row listed).imp_left fun held => ⟨row, held, .refl _, .same rfl⟩

/-! ## Every event -/

theorem apply_rows (ok : event.apply catalog before = .ok after) : RowsChange catalog before after event := by
  unfold Event.apply at ok
  split at ok
  case h_1 action => exact createDeployments_rows action ok
  case h_2 => exact cancelDeployment_rows ok
  case h_3 action => exact retryDeployment_rows action ok
  case h_4 action => exact promoteCanary_rows action ok
  case h_5 => exact firmwareManifest_rows ok
  case h_6 action => exact reportDeployment_rows action ok
  case h_7 action => exact receiveHeartbeat_rows action ok
  case h_8 action => exact receiveReadings_rows action ok
  case h_9 => exact reconcileStaleFirmwareDeployments_rows ok
  case h_10 action => exact receiveHeadlessResult_rows action ok
  case h_11 action => exact receiveHeadlessHeartbeat_rows action ok

theorem step_rows : RowsChange catalog before (step catalog before event) event := by
  unfold step
  split
  · rename_i ok
    exact apply_rows ok
  · exact .refl

end Steps
end PowerMonitor.Firmware
