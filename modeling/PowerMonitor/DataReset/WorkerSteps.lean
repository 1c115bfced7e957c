import PowerMonitor.DataReset.Preservation

/-! The steps of the worker and of the administrator's requests, one by one. -/

set_option autoImplicit false
namespace PowerMonitor.DataReset
open Ingestion Library

/-! ## Finding the operation -/

/-- A step on an operation preserves the database when its effect does. -/
theorem Preserved.onOperation {db : Database} (inv : Invariant db) {operationId : String}
    {guard : DataResetOperation → Prop} [DecidablePred guard] {effect : DataResetOperation → Database}
    (each : ∀ operation ∈ db.operations, guard operation → Preserved db (effect operation)) :
    Preserved db (db.onOperation operationId guard effect) := by
  rw [Database.onOperation]
  split
  · next operation found =>
      split
      · next holds => exact each operation (Database.mem_of_operation? found).1 holds
      · exact .refl inv
  · exact .refl inv

section Phases
variable {db : Database} {operation : DataResetOperation}

/-- Before the central commit the operation is not yet in a later state. -/
theorem Invariant.uncommitted (inv : Invariant db) (member : operation ∈ db.operations)
    (early : operation.state.afterCommit = false) : ¬ operation.Committed := by
  intro done
  have late := ((inv.sound operation member).phase done).1
  rw [early] at late
  cases late

theorem Invariant.uncommitted_of_cancel (inv : Invariant db) (member : operation ∈ db.operations)
    (cancel : operation.cancelRequested = true) : ¬ operation.Committed := by
  intro done
  have flag := ((inv.sound operation member).phase done).2
  rw [cancel] at flag
  cases flag

theorem Preparing.active (preparing : Preparing operation) : operation.Active := by
  cases preparing with
  | inl state => rw [DataResetOperation.Active, state]; rfl
  | inr state => rw [DataResetOperation.Active, state]; rfl

theorem Preparing.early (preparing : Preparing operation) : operation.state.afterCommit = false := by
  cases preparing with
  | inl state => rw [state]; rfl
  | inr state => rw [state]; rfl

theorem Committing.active (committing : Committing operation) : operation.Active := by
  rcases committing.2.2 with state | state | state
  all_goals rw [DataResetOperation.Active, state]; rfl

end Phases

/-! ## Requests of an administrator -/

section Requests
variable {db : Database} {operation : DataResetOperation}

theorem markCancelRequested_preserved (inv : Invariant db) (member : operation ∈ db.operations) :
    Preserved db (((markCancelRequested operation).toOption.map db.setOperation).getD db) := by
  cases result : markCancelRequested operation with
  | error problem => exact .refl inv
  | ok after =>
      rw [markCancelRequested] at result
      obtain ⟨fresh, result⟩ := raiseIf_bind_eq_ok.mp result
      obtain ⟨active, result⟩ := raiseIf_bind_eq_ok.mp result
      obtain ⟨_, result⟩ := raiseIf_bind_eq_ok.mp result
      cases result
      have live := not_not.mp active
      have relabels : Relabels operation { operation with cancelRequested := true } :=
        ⟨rfl, rfl, rfl, rfl, rfl, fun done => absurd done fresh, fun ended => absurd live ended⟩
      exact relabels.preserved inv member live

theorem retryResetOperation_preserved (inv : Invariant db) (member : operation ∈ db.operations) :
    Preserved db (((retryResetOperation operation).toOption.map db.setOperation).getD db) := by
  cases result : retryResetOperation operation with
  | error problem => exact .refl inv
  | ok after =>
      rw [retryResetOperation] at result
      obtain ⟨active, result⟩ := raiseIf_bind_eq_ok.mp result
      cases result
      have live := not_not.mp active
      refine Relabels.preserved ?_ inv member live
      refine ⟨rfl, rfl, rfl, rfl, rfl, fun done => ?_, fun ended => ?_⟩
      · dsimp only
        rw [if_pos done]
        exact ⟨rfl, ((inv.sound operation member).phase done).2⟩
      · apply absurd ?_ ended
        unfold DataResetOperation.Active
        dsimp only
        split
        · rfl
        · split <;> rfl

end Requests

/-! ## The state column -/

section States
variable {db : Database} {operation : DataResetOperation}

/-- A transition to a state that is not terminal and suits the central commit. -/
theorem transition_preserved (inv : Invariant db) (member : operation ∈ db.operations) (active : operation.Active)
    {after : DataResetOperation}
    (same : after.id = operation.id ∧ after.siteId = operation.siteId ∧
      after.resetGeneration = operation.resetGeneration ∧ after.centralCommitAt = operation.centralCommitAt ∧
      after.participants = operation.participants)
    (flag : operation.Committed → after.cancelRequested = operation.cancelRequested)
    (live : after.Active) (suits : operation.Committed → after.state.afterCommit = true) :
    Preserved db (db.setOperation after) := by
  have relabels : Relabels operation after := by
    refine ⟨same.1, same.2.1, same.2.2.1, same.2.2.2.1, same.2.2.2.2, fun done => ⟨suits done, ?_⟩,
      fun ended => absurd live ended⟩
    rw [flag done]
    exact ((inv.sound operation member).phase done).2
  exact relabels.preserved inv member active

theorem needsAttention_preserved (inv : Invariant db) (member : operation ∈ db.operations)
    (active : operation.Active) (code summary : String) :
    Preserved db (db.setOperation (operation.needsAttention code summary)) :=
  transition_preserved inv member active ⟨rfl, rfl, rfl, rfl, rfl⟩ (fun _ => rfl) rfl fun _ => rfl

theorem finishPreparing_preserved (inv : Invariant db) (member : operation ∈ db.operations)
    (preparing : Preparing operation) : Preserved db (db.setOperation (finishPreparing operation)) := by
  have fresh := inv.uncommitted member preparing.early
  have active := preparing.active
  rw [finishPreparing]
  split
  · exact needsAttention_preserved inv member active _ _
  · split
    · exact transition_preserved inv member active ⟨rfl, rfl, rfl, rfl, rfl⟩ (fun _ => rfl) rfl
        fun done => absurd done fresh
    · exact transition_preserved inv member active ⟨rfl, rfl, rfl, rfl, rfl⟩ (fun _ => rfl) active
        fun done => absurd done fresh

theorem requestBackup_preserved (inv : Invariant db) (member : operation ∈ db.operations) (backupId : String)
    (dispatched : Dispatched .sensorsPrepared operation) :
    Preserved db (db.setOperation (requestBackup backupId operation)) := by
  have active : operation.Active := by rw [DataResetOperation.Active, dispatched.1]; rfl
  have fresh := inv.uncommitted member (by rw [dispatched.1]; rfl)
  rw [requestBackup]
  split
  · split
    · exact transition_preserved inv member active ⟨rfl, rfl, rfl, rfl, rfl⟩ (fun _ => rfl) active
        fun done => absurd done fresh
    · exact transition_preserved inv member active ⟨rfl, rfl, rfl, rfl, rfl⟩ (fun _ => rfl) rfl
        fun done => absurd done fresh
  · exact transition_preserved inv member active ⟨rfl, rfl, rfl, rfl, rfl⟩ (fun _ => rfl) rfl
      fun done => absurd done fresh

theorem checkBackup_preserved (inv : Invariant db) (member : operation ∈ db.operations) (evidence : BackupEvidence)
    (dispatched : Dispatched .backupRunning operation) :
    Preserved db (db.setOperation (checkBackup evidence operation)) := by
  have active : operation.Active := by rw [DataResetOperation.Active, dispatched.1]; rfl
  have fresh := inv.uncommitted member (by rw [dispatched.1]; rfl)
  have failed : ∀ code summary, Preserved db (db.setOperation (failBackup code summary operation)) := fun _ _ =>
    transition_preserved inv member active ⟨rfl, rfl, rfl, rfl, rfl⟩ (fun done => absurd done fresh) rfl
      fun done => absurd done fresh
  cases evidence with
  | missing => exact failed _ _
  | inconclusive => exact failed _ _
  | failed code summary => exact failed _ _
  | conclusive manifestHash verifiedAt =>
      exact transition_preserved inv member active ⟨rfl, rfl, rfl, rfl, rfl⟩ (fun _ => rfl) rfl
        fun done => absurd done fresh
  | running =>
      exact transition_preserved inv member active ⟨rfl, rfl, rfl, rfl, rfl⟩ (fun _ => rfl) active
        fun done => absurd done fresh

theorem beginSensorCommit_preserved (inv : Invariant db) (member : operation ∈ db.operations)
    (dispatched : Dispatched .databaseResetCommitted operation) :
    Preserved db (db.setOperation { operation with state := .sensorCommitRunning }) := by
  have active : operation.Active := by rw [DataResetOperation.Active, dispatched.1]; rfl
  exact transition_preserved inv member active ⟨rfl, rfl, rfl, rfl, rfl⟩ (fun _ => rfl) rfl fun _ => rfl

theorem purgeAgain_preserved (inv : Invariant db) (member : operation ∈ db.operations) (purged : Bool)
    (active : operation.Active) : Preserved db (db.setOperation (purgeAgain purged operation)) := by
  rw [purgeAgain]
  split
  · exact transition_preserved inv member active ⟨rfl, rfl, rfl, rfl, rfl⟩ (fun _ => rfl) active
      fun done => ((inv.sound operation member).phase done).1
  · exact needsAttention_preserved inv member active _ _

/-- An operation completes only when no participant is deferred, in progress or failed. -/
theorem finishCommitting_preserved (inv : Invariant db) (member : operation ∈ db.operations) (now : Int)
    (costs : CostEvidence) (committing : Committing operation) :
    Preserved db (db.setOperation (finishCommitting db now operation costs)) := by
  have active := committing.active
  unfold finishCommitting
  dsimp only
  split
  · exact needsAttention_preserved inv member active _ _
  · split
    · exact transition_preserved inv member active ⟨rfl, rfl, rfl, rfl, rfl⟩ (fun _ => rfl) rfl fun _ => rfl
    · split
      · exact transition_preserved inv member active ⟨rfl, rfl, rfl, rfl, rfl⟩ (fun _ => rfl) rfl fun _ => rfl
      · next idle =>
          split
          · exact needsAttention_preserved inv member active _ _
          · split
            · exact transition_preserved inv member active ⟨rfl, rfl, rfl, rfl, rfl⟩ (fun _ => rfl) rfl fun _ => rfl
            · refine Relabels.preserved ?_ inv member active
              refine ⟨rfl, rfl, rfl, rfl, rfl, fun done => ⟨?_, ?_⟩, fun ended done => ?_⟩
              · dsimp only
                split <;> rfl
              · exact ((inv.sound operation member).phase done).2
              · intro participant inside
                by_contra unsettled
                apply ended
                unfold DataResetOperation.Active
                dsimp only
                rw [if_pos]
                · rfl
                · refine ⟨participant, inside, ?_⟩
                  by_contra waiting
                  exact idle ⟨participant, inside, fun held => held.elim unsettled waiting⟩

end States
end PowerMonitor.DataReset
