import PowerMonitor.Library.Runs
import PowerMonitor.DataReset.Coordination

/-! Commit and cancel exclude each other.

The central commit divides the life of an operation: before it sensors are asked to prepare
or to cancel, after it to commit. The flag that asks for a cancellation cannot be set once
the commit is durable, and the commit cannot happen once the flag is set.
-/

set_option autoImplicit false
namespace PowerMonitor.DataReset
open Ingestion Library

/-! ## What a transaction writes -/

/-- The columns of an operation that its approval fixes. -/
structure SameApproval (before after : DataResetOperation) : Prop where
  id : after.id = before.id
  resetGeneration : after.resetGeneration = before.resetGeneration
  planRevision : after.planRevision = before.planRevision
  plan : after.plan = before.plan

namespace SameApproval
variable {first second third : DataResetOperation}

theorem refl (operation : DataResetOperation) : SameApproval operation operation := ⟨rfl, rfl, rfl, rfl⟩

theorem trans (earlier : SameApproval first second) (later : SameApproval second third) : SameApproval first third :=
  ⟨later.id.trans earlier.id, later.resetGeneration.trans earlier.resetGeneration,
    later.planRevision.trans earlier.planRevision, later.plan.trans earlier.plan⟩

end SameApproval

/-- A participant row that keeps its device and the digest of its prepared receipt. -/
def SameDigest (before after : DataResetParticipant) : Prop :=
  after.deviceId = before.deviceId ∧ after.prepareReceiptDigest = before.prepareReceiptDigest

theorem markUnsupported_sameDigest (now : Int) (participant : DataResetParticipant) :
    SameDigest participant (participant.markUnsupported now) := by
  rw [DataResetParticipant.markUnsupported]
  split <;> exact ⟨rfl, rfl⟩

theorem beginPrepare_sameDigest (now : Int) (operation : DataResetOperation) (participant : DataResetParticipant)
    (sensor : Sensor) : SameDigest participant (beginPrepare now operation participant sensor).2.1 := by
  rw [beginPrepare]
  split
  · exact ⟨rfl, rfl⟩
  · split
    · exact markUnsupported_sameDigest now participant
    · exact ⟨rfl, rfl⟩

section Replies
variable {Digest : Type} [DecidableEq Digest] (canonicalSha256 : Canonical → Digest)

/-- A reply writes a digest only from a prepared receipt it has validated. -/
theorem finishPrepare_digest (now : Int) (operation : DataResetOperation) (participant : DataResetParticipant)
    (sensor : Sensor) (action : PrepareAction) (reply : Reply Digest) :
    let after := (finishPrepare canonicalSha256 now operation participant sensor action reply).1
    after.deviceId = participant.deviceId ∧ (after.prepareReceiptDigest = participant.prepareReceiptDigest ∨
      ∃ response receipt, reply = .ok response ∧ after.prepareReceiptDigest = response.preparedReceiptDigest ∧
        validatePreparedReceipt canonicalSha256 operation participant sensor response = .ok receipt) := by
  intro after
  cases reply with
  | error error => exact ⟨rfl, .inl rfl⟩
  | ok response =>
      dsimp only [after, finishPrepare]
      split
      · next answered ok =>
          unfold prepareAnswered at ok
          split at ok
          · cases ok
            exact ⟨rfl, .inl rfl⟩
          · split at ok
            · obtain ⟨receipt, valid, ok⟩ := bind_eq_ok.mp ok
              obtain ⟨_, ok⟩ := raiseIf_bind_eq_ok.mp ok
              obtain ⟨_, ok⟩ := raiseIf_bind_eq_ok.mp ok
              cases ok
              exact ⟨rfl, .inr ⟨response, receipt, rfl, rfl, valid⟩⟩
            · split at ok
              · cases ok
                exact ⟨rfl, .inl rfl⟩
              · cases ok
                exact ⟨rfl, .inl rfl⟩
      · exact ⟨rfl, .inl rfl⟩

variable {canonicalSha256}

theorem commitAnswered_sameDigest {now : Int} {operation : DataResetOperation} {participant : DataResetParticipant}
    {sensor : Sensor} {response : SensorResponse Digest} {outcome : DataResetParticipant × Sensor}
    (ok : commitAnswered canonicalSha256 now operation participant sensor response = .ok outcome) :
    SameDigest participant outcome.1 := by
  rw [commitAnswered] at ok
  split at ok
  · cases ok
  · cases ok
  · cases ok
  · obtain ⟨receipt, _, ok⟩ := bind_eq_ok.mp ok
    obtain ⟨_, ok⟩ := raiseIf_bind_eq_ok.mp ok
    obtain ⟨_, ok⟩ := raiseIf_bind_eq_ok.mp ok
    cases ok
    exact ⟨rfl, rfl⟩
  · cases ok
    exact ⟨rfl, rfl⟩
  · cases ok
    exact ⟨rfl, rfl⟩

theorem finishCommit_sameDigest (now : Int) (operation : DataResetOperation) (participant : DataResetParticipant)
    (sensor : Sensor) (status : Bool) (reply : Reply Digest) :
    SameDigest participant (finishCommit canonicalSha256 now operation participant sensor status reply).1 := by
  unfold finishCommit
  split
  · exact ⟨rfl, rfl⟩
  · cases reply with
    | error error => exact ⟨rfl, rfl⟩
    | ok response =>
        dsimp only
        split
        · next outcome ok => exact commitAnswered_sameDigest ok
        · exact ⟨rfl, rfl⟩

end Replies

theorem DataResetOperation.participant?_some {operation : DataResetOperation} {deviceId : String}
    {participant : DataResetParticipant} (found : operation.participant? deviceId = some participant) :
    participant ∈ operation.participants ∧ participant.deviceId = deviceId :=
  ⟨List.mem_of_find?_eq_some found, by simpa using List.find?_some found⟩

/-! ## The invariant -/

section Invariant
variable {Digest : Type} [DecidableEq Digest] (canonicalSha256 : Canonical → Digest)

/-- The digest of a prepared receipt that was validated for the operation. -/
def Accepted (origin : DataResetOperation) (log : List (Event Digest)) (deviceId digest : String) : Prop :=
  ∃ request response receipt operation participant sensor, .replied deviceId request (.ok response) ∈ log ∧
    response.preparedReceiptDigest = some digest ∧ SameApproval origin operation ∧ participant.deviceId = deviceId ∧
    validatePreparedReceipt canonicalSha256 operation participant sensor response = .ok receipt

structure Orderly (origin : DataResetOperation) (c : Coordination Digest) : Prop where
  approval : SameApproval origin c.operation
  phase : c.operation.Committed → c.operation.state.afterCommit = true ∧ c.operation.cancelRequested = false
  working : ∀ pass, c.worker.pass? = some pass → c.operation.Active ∧ (pass = .commit ↔ c.operation.Committed)
  asked : ∀ deviceId digest, .asked deviceId (.commit digest) ∈ c.log → c.operation.Committed
  digests : ∀ participant ∈ c.operation.participants, ∀ digest ∈ participant.prepareReceiptDigest,
    Accepted canonicalSha256 origin c.log participant.deviceId digest

variable {canonicalSha256} {origin : DataResetOperation} {c : Coordination Digest}

theorem Accepted.mono {log longer : List (Event Digest)} {deviceId digest : String}
    (accepted : Accepted canonicalSha256 origin log deviceId digest) (grows : ∀ event ∈ log, event ∈ longer) :
    Accepted canonicalSha256 origin longer deviceId digest := by
  obtain ⟨request, response, receipt, operation, participant, sensor, member, rest⟩ := accepted
  exact ⟨request, response, receipt, operation, participant, sensor, grows _ member, rest⟩

/-- A transaction keeps order when it writes no central commit after a request to cancel, asks for
commits only once that commit is durable, and takes its digests from validated receipts. -/
theorem Orderly.advance (orderly : Orderly canonicalSha256 origin c) (next : Coordination Digest)
    (events : List (Event Digest)) (log : next.log = c.log ++ events) (approval : SameApproval c.operation next.operation)
    (committed : c.operation.Committed → next.operation.Committed)
    (phase : next.operation.Committed →
      next.operation.state.afterCommit = true ∧ next.operation.cancelRequested = false)
    (working : ∀ pass, next.worker.pass? = some pass →
      next.operation.Active ∧ (pass = .commit ↔ next.operation.Committed))
    (asked : ∀ deviceId digest, .asked deviceId (.commit digest) ∈ events → c.operation.Committed)
    (digests : ∀ participant ∈ next.operation.participants, (∃ old ∈ c.operation.participants,
      SameDigest old participant) ∨ ∀ digest ∈ participant.prepareReceiptDigest,
        Accepted canonicalSha256 origin next.log participant.deviceId digest) :
    Orderly canonicalSha256 origin next where
  approval := orderly.approval.trans approval
  phase := phase
  working := working
  asked := by
    intro deviceId digest member
    rw [log, List.mem_append] at member
    exact committed (member.elim (orderly.asked deviceId digest) (asked deviceId digest))
  digests := by
    intro participant inside digest held
    cases digests participant inside with
    | inr fresh => exact fresh digest held
    | inl old =>
        obtain ⟨old, oldInside, deviceId, same⟩ := old
        rw [same] at held
        rw [deviceId]
        apply (orderly.digests old oldInside digest held).mono
        intro event member
        rw [log]
        exact List.mem_append_left events member

/-- A transaction that only replaces the operation row, keeping its participants. -/
theorem Orderly.relabel (orderly : Orderly canonicalSha256 origin c) {after : DataResetOperation}
    (approval : SameApproval c.operation after) (participants : after.participants = c.operation.participants)
    (committed : c.operation.Committed → after.Committed)
    (phase : after.Committed → after.state.afterCommit = true ∧ after.cancelRequested = false)
    (working : ∀ pass, c.worker.pass? = some pass → after.Active ∧ (pass = .commit ↔ after.Committed)) :
    Orderly canonicalSha256 origin { c with operation := after } := by
  apply orderly.advance { c with operation := after } [] (List.append_nil _).symm approval committed phase working
  · intro deviceId digest member
    cases member
  · intro participant inside
    rw [participants] at inside
    exact .inl ⟨participant, inside, rfl, rfl⟩

/-- A transaction of a pass that replaces one participant row. -/
theorem Orderly.record (orderly : Orderly canonicalSha256 origin c) {pass : Pass}
    (current : c.worker.pass? = some pass) {old participant : DataResetParticipant} (member : old ∈ c.operation.participants)
    (worker : Worker) (events : List (Event Digest)) (stays : worker.pass? = some pass)
    (asked : ∀ deviceId digest, .asked deviceId (.commit digest) ∈ events → pass = .commit)
    (digest : SameDigest old participant ∨ ∀ digest ∈ participant.prepareReceiptDigest,
      Accepted canonicalSha256 origin (c.log ++ events) participant.deviceId digest) :
    Orderly canonicalSha256 origin (c.record participant worker events) := by
  have busy := orderly.working pass current
  refine orderly.advance (c.record participant worker events) events rfl ⟨rfl, rfl, rfl, rfl⟩ id orderly.phase ?_ ?_ ?_
  · intro other same
    have passes : worker.pass? = some other := same
    rw [stays] at passes
    cases passes
    exact busy
  · exact fun deviceId digest inside => busy.2.mp (asked deviceId digest inside)
  · intro row inside
    cases DataResetOperation.mem_setParticipant inside with
    | inl new =>
        rw [new]
        exact digest.imp_left fun same => ⟨old, member, same⟩
    | inr kept => exact .inl ⟨row, kept.1, rfl, rfl⟩

theorem Orderly.pass (orderly : Orderly canonicalSha256 origin c) {pass : Pass} (current : c.worker.pass? = some pass)
    (worker : Worker) (stays : worker.pass? = some pass) : Orderly canonicalSha256 origin { c with worker := worker } := by
  refine orderly.advance { c with worker := worker } [] (List.append_nil _).symm (.refl _) id orderly.phase ?_ ?_ ?_
  · intro other same
    have passes : worker.pass? = some other := same
    rw [stays] at passes
    cases passes
    exact orderly.working pass current
  · intro deviceId digest member
    cases member
  · exact fun participant inside => .inl ⟨participant, inside, rfl, rfl⟩

end Invariant

/-! ## Operation rows -/

/-- A transition that keeps the approval, the participants and the central commit. -/
structure Labels (before after : DataResetOperation) : Prop where
  approval : SameApproval before after
  participants : after.participants = before.participants
  centralCommitAt : after.centralCommitAt = before.centralCommitAt

theorem Labels.committed {before after : DataResetOperation} (labels : Labels before after) :
    after.Committed ↔ before.Committed := by
  rw [DataResetOperation.Committed, labels.centralCommitAt, DataResetOperation.Committed]

section Rows
variable (operation : DataResetOperation)

theorem labels_refl : Labels operation operation := ⟨.refl operation, rfl, rfl⟩

theorem needsAttention_labels (code summary : String) : Labels operation (operation.needsAttention code summary) :=
  ⟨⟨rfl, rfl, rfl, rfl⟩, rfl, rfl⟩

theorem finishPreparing_labels : Labels operation (finishPreparing operation) := by
  rw [finishPreparing]
  split
  · exact ⟨⟨rfl, rfl, rfl, rfl⟩, rfl, rfl⟩
  · split
    · exact ⟨⟨rfl, rfl, rfl, rfl⟩, rfl, rfl⟩
    · exact labels_refl operation

/-- However a commit pass ends, the state is one that follows a central commit. -/
theorem finishCommitting_labels (db : Database) (now : Int) (costs : CostEvidence) :
    Labels operation (finishCommitting db now operation costs) ∧
    (finishCommitting db now operation costs).state.afterCommit = true ∧
    (finishCommitting db now operation costs).cancelRequested = operation.cancelRequested := by
  unfold finishCommitting
  dsimp only
  split
  · exact ⟨⟨⟨rfl, rfl, rfl, rfl⟩, rfl, rfl⟩, rfl, rfl⟩
  · split
    · exact ⟨⟨⟨rfl, rfl, rfl, rfl⟩, rfl, rfl⟩, rfl, rfl⟩
    · split
      · exact ⟨⟨⟨rfl, rfl, rfl, rfl⟩, rfl, rfl⟩, rfl, rfl⟩
      · split
        · exact ⟨⟨⟨rfl, rfl, rfl, rfl⟩, rfl, rfl⟩, rfl, rfl⟩
        · split
          · exact ⟨⟨⟨rfl, rfl, rfl, rfl⟩, rfl, rfl⟩, rfl, rfl⟩
          · refine ⟨⟨⟨rfl, rfl, rfl, rfl⟩, rfl, rfl⟩, ?_, rfl⟩
            dsimp only
            split <;> rfl

theorem requestBackup_labels (backupId : String) : Labels operation (requestBackup backupId operation) := by
  rw [requestBackup]
  split
  · split
    · exact labels_refl operation
    · exact ⟨⟨rfl, rfl, rfl, rfl⟩, rfl, rfl⟩
  · exact ⟨⟨rfl, rfl, rfl, rfl⟩, rfl, rfl⟩

theorem checkBackup_labels (evidence : BackupEvidence) : Labels operation (checkBackup evidence operation) := by
  cases evidence <;> exact ⟨⟨rfl, rfl, rfl, rfl⟩, rfl, rfl⟩

theorem purgeAgain_labels (purged : Bool) : Labels operation (purgeAgain purged operation) := by
  rw [purgeAgain]
  split <;> exact ⟨⟨rfl, rfl, rfl, rfl⟩, rfl, rfl⟩

/-- An accepted request to cancel finds an active operation without a central commit. -/
theorem markCancelRequested_cases :
    (markCancelRequested operation).toOption.getD operation = operation ∨
    (operation.Active ∧ ¬ operation.Committed ∧
      (markCancelRequested operation).toOption.getD operation = { operation with cancelRequested := true }) := by
  cases result : markCancelRequested operation with
  | error problem => exact .inl rfl
  | ok after =>
      rw [markCancelRequested] at result
      obtain ⟨fresh, result⟩ := raiseIf_bind_eq_ok.mp result
      obtain ⟨active, result⟩ := raiseIf_bind_eq_ok.mp result
      obtain ⟨_, result⟩ := raiseIf_bind_eq_ok.mp result
      cases result
      exact .inr ⟨not_not.mp active, fresh, rfl⟩

theorem retryResetOperation_cases :
    (retryResetOperation operation).toOption.getD operation = operation ∨
    (operation.Active ∧ ((retryResetOperation operation).toOption.getD operation).Active ∧
      Labels operation ((retryResetOperation operation).toOption.getD operation) ∧
      ((retryResetOperation operation).toOption.getD operation).cancelRequested = operation.cancelRequested ∧
      (operation.Committed →
        ((retryResetOperation operation).toOption.getD operation).state.afterCommit = true)) := by
  cases result : retryResetOperation operation with
  | error problem => exact .inl rfl
  | ok after =>
      rw [retryResetOperation] at result
      obtain ⟨active, result⟩ := raiseIf_bind_eq_ok.mp result
      cases result
      refine .inr ⟨not_not.mp active, ?_, ⟨⟨rfl, rfl, rfl, rfl⟩, rfl, rfl⟩, rfl, fun done => ?_⟩
      · unfold DataResetOperation.Active
        dsimp only [Except.toOption, Option.getD_some]
        split
        · rfl
        · split <;> rfl
      · dsimp only [Except.toOption, Option.getD_some]
        rw [if_pos done]
        rfl

end Rows

/-! ## Every transaction keeps order -/

section Transactions
variable {Digest : Type} [DecidableEq Digest] {canonicalSha256 : Canonical → Digest} {origin : DataResetOperation}
  {c : Coordination Digest}

theorem Orderly.labels (orderly : Orderly canonicalSha256 origin c) {after : DataResetOperation}
    (labels : Labels c.operation after)
    (phase : c.operation.Committed → after.state.afterCommit = true ∧ after.cancelRequested = false)
    (active : c.worker.pass? ≠ none → after.Active) : Orderly canonicalSha256 origin { c with operation := after } := by
  refine orderly.relabel labels.approval labels.participants labels.committed.mpr
    (fun done => phase (labels.committed.mp done)) fun pass current => ⟨active (by rw [current]; simp), ?_⟩
  rw [labels.committed]
  exact (orderly.working pass current).2

theorem beginPrepare_orderly (orderly : Orderly canonicalSha256 origin c) {pass : Pass}
    (current : c.worker.pass? = some pass) {participant : DataResetParticipant}
    (member : participant ∈ c.operation.participants) (now : Int) (sensor : Sensor) (remaining : List String) :
    Orderly canonicalSha256 origin (c.beginPrepare now pass participant sensor remaining) := by
  have same := beginPrepare_sameDigest now c.operation participant sensor
  rw [Coordination.beginPrepare]
  split
  · next outcome eq =>
      rw [eq] at same
      exact orderly.record current member _ [] rfl (fun _ _ inside => by cases inside) (.inl same)
  · next action outcome eq =>
      rw [eq] at same
      refine orderly.record current member _ _ rfl (fun deviceId digest inside => ?_) (.inl same)
      cases action <;> simp [Coordination.PrepareAction.request] at inside

theorem beginCommit_orderly (orderly : Orderly canonicalSha256 origin c) (current : c.worker.pass? = some .commit)
    {participant : DataResetParticipant} (member : participant ∈ c.operation.participants) (now : Int)
    (remaining : List String) : Orderly canonicalSha256 origin (c.beginCommit now participant remaining) := by
  have recorded : ∀ (worker : Worker) (events : List (Event Digest)), worker.pass? = some .commit →
      Orderly canonicalSha256 origin (c.record (participant.requestCommit now) worker events) := by
    intro worker events stays
    exact orderly.record current member worker events stays (fun _ _ _ => rfl) (.inl ⟨rfl, rfl⟩)
  unfold Coordination.beginCommit
  dsimp only
  split
  · exact recorded _ _ rfl
  · split
    · exact recorded _ _ rfl
    · exact recorded _ _ rfl

theorem takeUp_orderly (orderly : Orderly canonicalSha256 origin c) (now : Int) (sensor : Sensor) :
    Orderly canonicalSha256 origin (c.takeUp now sensor) := by
  rw [Coordination.takeUp]
  split
  · next pass deviceId remaining worker =>
      have current : c.worker.pass? = some pass := by rw [worker]; rfl
      have skipped := orderly.pass current (.between pass remaining) rfl
      split
      · exact skipped
      · next participant found =>
          have member := (DataResetOperation.participant?_some found).1
          cases pass with
          | prepare =>
              dsimp only
              split
              · exact skipped
              · exact beginPrepare_orderly orderly current member now sensor remaining
          | commit =>
              dsimp only
              split
              · exact skipped
              · split
                · exact orderly.record current member _ [] rfl (fun _ _ inside => by cases inside) (.inl ⟨rfl, rfl⟩)
                · split
                  · split
                    · exact skipped
                    · exact beginPrepare_orderly orderly current member now sensor remaining
                  · exact beginCommit_orderly orderly current member now remaining
  · next deviceId remaining worker =>
      have current : c.worker.pass? = some .commit := by rw [worker]; rfl
      split
      · exact orderly.pass current (.between .commit remaining) rfl
      · next participant found =>
          exact beginCommit_orderly orderly current (DataResetOperation.participant?_some found).1 now remaining
  · exact orderly

theorem recordReply_orderly (orderly : Orderly canonicalSha256 origin c) (now : Int) (sensor : Sensor)
    (reply : Reply Digest) : Orderly canonicalSha256 origin (c.recordReply canonicalSha256 now sensor reply) := by
  rw [Coordination.recordReply]
  split
  · next pass deviceId pending remaining worker =>
      have current : c.worker.pass? = some pass := by rw [worker]; rfl
      split
      · exact orderly.pass current (.between pass remaining) rfl
      · next participant found =>
          obtain ⟨member, named⟩ := DataResetOperation.participant?_some found
          cases pending with
          | prepare action =>
              dsimp only
              obtain ⟨deviceSame, digest⟩ := finishPrepare_digest canonicalSha256 now c.operation participant
                sensor action reply
              refine orderly.record current member _ _ ?_ ?_ ?_
              · split
                · next late => rw [late.1]; rfl
                · rfl
              · intro other digest inside
                cases List.mem_singleton.mp inside
              · cases digest with
                | inl same => exact .inl ⟨deviceSame, same⟩
                | inr fresh =>
                    obtain ⟨response, receipt, replied, written, valid⟩ := fresh
                    refine .inr fun digest held => ?_
                    refine ⟨Coordination.PrepareAction.request action, response, receipt, c.operation, participant, sensor,
                      ?_, ?_, orderly.approval, ?_, valid⟩
                    · rw [deviceSame, named, ← replied]
                      exact List.mem_append_right _ List.mem_cons_self
                    · rw [← written]
                      exact held
                    · exact deviceSame.symm
          | commit status =>
              dsimp only
              refine orderly.record current member _ _ rfl ?_ (.inl (finishCommit_sameDigest now c.operation participant
                sensor status reply))
              intro other digest inside
              split at inside
              · cases List.mem_singleton.mp inside
              · cases held : participant.prepareReceiptDigest <;> simp [held] at inside
  · exact orderly

theorem beginPass_orderly (orderly : Orderly canonicalSha256 origin c) :
    Orderly canonicalSha256 origin c.beginPass := by
  have begins : ∀ pass devices, c.operation.Active → (pass = .commit ↔ c.operation.Committed) →
      Orderly canonicalSha256 origin { c with worker := .between pass devices } := by
    intro pass devices active side
    refine orderly.advance { c with worker := .between pass devices } [] (List.append_nil _).symm (.refl _) id
      orderly.phase (fun other current => ?_) (fun _ _ inside => by cases inside)
      fun participant inside => .inl ⟨participant, inside, rfl, rfl⟩
    cases current
    exact ⟨active, side⟩
  unfold Coordination.beginPass
  dsimp only
  split
  · split
    · next preparing =>
        have fresh : ¬ c.operation.Committed := by
          intro done
          have late := (orderly.phase done).1
          rw [preparing.early] at late
          cases late
        exact begins .prepare _ preparing.active ⟨fun impossible => Pass.noConfusion impossible,
          fun done => absurd done fresh⟩
    · split
      · next committing => exact begins .commit _ committing.active ⟨fun _ => committing.1, fun _ => rfl⟩
      · exact orderly
  · exact orderly

/-- The end of a pass: the row is labelled anew and the worker is idle. -/
theorem finishPass_orderly (orderly : Orderly canonicalSha256 origin c) (db : Database) (now : Int)
    (costs : CostEvidence) : Orderly canonicalSha256 origin (c.finishPass db now costs) := by
  have rests : ∀ after, Labels c.operation after →
      (c.operation.Committed → after.state.afterCommit = true ∧ after.cancelRequested = false) →
      Orderly canonicalSha256 origin { c with operation := after, worker := .idle } := by
    intro after labels phase
    refine orderly.advance { c with operation := after, worker := .idle } [] (List.append_nil _).symm labels.approval
      labels.committed.mpr (fun done => phase (labels.committed.mp done)) (fun pass current => by cases current)
      (fun _ _ inside => by cases inside) fun participant inside => ?_
    rw [labels.participants] at inside
    exact .inl ⟨participant, inside, rfl, rfl⟩
  rw [Coordination.finishPass]
  split
  · next worker =>
      have busy := orderly.working .prepare (by rw [worker]; rfl)
      exact rests _ (finishPreparing_labels c.operation) fun done => by cases busy.2.mpr done
  · next worker =>
      obtain ⟨labels, state, flag⟩ := finishCommitting_labels c.operation db now costs
      exact rests _ labels fun done => ⟨state, flag.trans (orderly.phase done).2⟩
  · exact orderly

theorem whenIdle_orderly (orderly : Orderly canonicalSha256 origin c) {guard : DataResetOperation → Prop}
    [DecidablePred guard] {effect : DataResetOperation → DataResetOperation}
    (each : guard c.operation → SameApproval c.operation (effect c.operation) ∧
      (effect c.operation).participants = c.operation.participants ∧
      (c.operation.Committed → (effect c.operation).Committed) ∧
      ((effect c.operation).Committed →
        (effect c.operation).state.afterCommit = true ∧ (effect c.operation).cancelRequested = false)) :
    Orderly canonicalSha256 origin (c.whenIdle guard effect) := by
  rw [Coordination.whenIdle]
  split
  · next held =>
      obtain ⟨approval, participants, committed, phase⟩ := each held.2
      refine orderly.relabel approval participants committed phase fun pass current => ?_
      rw [held.1] at current
      cases current
  · exact orderly

/-- Labels of an operation that has not committed say nothing of its phase. -/
theorem Orderly.early (orderly : Orderly canonicalSha256 origin c) {after : DataResetOperation}
    (early : c.operation.state.afterCommit = false) (labels : Labels c.operation after) :
    SameApproval c.operation after ∧ after.participants = c.operation.participants ∧
    (c.operation.Committed → after.Committed) ∧
    (after.Committed → after.state.afterCommit = true ∧ after.cancelRequested = false) := by
  refine ⟨labels.approval, labels.participants, labels.committed.mpr, fun done => ?_⟩
  have late := (orderly.phase (labels.committed.mp done)).1
  rw [early] at late
  cases late

theorem centralResetRow_cases (db : Database) (now : Int) (scope : Except ProblemError Unit) (purge : Purge)
    (operation : DataResetOperation) :
    (∃ code summary, Coordination.centralResetRow db now scope purge operation =
      operation.needsAttention code summary) ∨
    (SameApproval operation (Coordination.centralResetRow db now scope purge operation) ∧
      (Coordination.centralResetRow db now scope purge operation).participants = operation.participants ∧
      (Coordination.centralResetRow db now scope purge operation).Committed ∧
      (Coordination.centralResetRow db now scope purge operation).state.afterCommit = true ∧
      (Coordination.centralResetRow db now scope purge operation).cancelRequested = operation.cancelRequested) := by
  unfold Coordination.centralResetRow
  split
  · exact .inl ⟨_, _, rfl⟩
  · cases purge <;> exact .inr ⟨⟨rfl, rfl, rfl, rfl⟩, rfl, rfl, rfl, rfl⟩

theorem cancelOperation_labels (operation : DataResetOperation) (now : Int) (answers : CancelAnswers)
    (restored : Except ProblemError Unit) :
    SameApproval operation (cancelOperation now operation answers restored) ∧
    (cancelOperation now operation answers restored).centralCommitAt = operation.centralCommitAt := by
  unfold cancelOperation
  dsimp only
  split
  · exact ⟨⟨rfl, rfl, rfl, rfl⟩, rfl⟩
  · split <;> exact ⟨⟨rfl, rfl, rfl, rfl⟩, rfl⟩

theorem cancelParticipant_sameDigest (answers : CancelAnswers) (participant : DataResetParticipant) :
    SameDigest participant (cancelParticipant answers participant) := by
  rw [cancelParticipant]
  split
  · split <;> exact ⟨rfl, rfl⟩
  · exact ⟨rfl, rfl⟩

omit [DecidableEq Digest] in
theorem cancelEvents_asks {answers : CancelAnswers} {participants : List DataResetParticipant} {deviceId digest : String}
    (member : Event.asked deviceId (.commit digest) ∈
      (Coordination.cancelEvents answers participants : List (Event Digest))) : False := by
  obtain ⟨participant, _, event⟩ := List.mem_flatMap.mp member
  simp at event

theorem act_orderly (orderly : Orderly canonicalSha256 origin c) (action : Action Digest) :
    Orderly canonicalSha256 origin (c.act canonicalSha256 action) := by
  cases action with
  | cancelDataReset =>
      rcases markCancelRequested_cases c.operation with same | ⟨active, fresh, marked⟩
      · rw [Coordination.act, same]
        exact orderly
      · rw [Coordination.act, marked]
        exact orderly.labels ⟨⟨rfl, rfl, rfl, rfl⟩, rfl, rfl⟩ (fun done => absurd done fresh) fun _ => active
  | retryDataReset =>
      rcases retryResetOperation_cases c.operation with same | ⟨_, active, labels, flag, state⟩
      · rw [Coordination.act, same]
        exact orderly
      · exact orderly.labels labels (fun done => ⟨state done, flag.trans (orderly.phase done).2⟩) fun _ => active
  | beginPass => exact beginPass_orderly orderly
  | takeUp now sensor => exact takeUp_orderly orderly now sensor
  | reply now sensor reply => exact recordReply_orderly orderly now sensor reply
  | finishPass db now costs => exact finishPass_orderly orderly db now costs
  | requestBackup backupId =>
      apply whenIdle_orderly orderly
      intro dispatched
      exact orderly.early (by rw [dispatched.1]; rfl) (requestBackup_labels c.operation backupId)
  | checkBackup evidence =>
      apply whenIdle_orderly orderly
      intro dispatched
      exact orderly.early (by rw [dispatched.1]; rfl) (checkBackup_labels c.operation evidence)
  | centralReset db now scope purge =>
      apply whenIdle_orderly orderly
      intro ready
      rcases centralResetRow_cases db now scope purge c.operation with ⟨code, summary, failed⟩ | committed
      · rw [failed]
        have labels := needsAttention_labels c.operation code summary
        exact ⟨labels.approval, labels.participants, labels.committed.mpr,
          fun done => absurd (labels.committed.mp done) ready.2.2⟩
      · obtain ⟨approval, participants, done, state, flag⟩ := committed
        exact ⟨approval, participants, fun _ => done, fun _ => ⟨state, flag.trans ready.2.1⟩⟩
  | purgeArtifacts purged =>
      rw [Coordination.act]
      apply whenIdle_orderly orderly
      intro held
      have labels := purgeAgain_labels c.operation purged
      refine ⟨labels.approval, labels.participants, labels.committed.mpr, fun _ => ?_⟩
      have phase := orderly.phase held.2.1
      rw [purgeAgain]
      split
      · exact phase
      · exact ⟨rfl, phase.2⟩
  | beginSensorCommit =>
      rw [Coordination.act]
      apply whenIdle_orderly orderly
      intro dispatched
      exact ⟨⟨rfl, rfl, rfl, rfl⟩, rfl, id, fun done => ⟨rfl, dispatched.2.1⟩⟩
  | cancelOperation now answers restored =>
      rw [Coordination.act]
      split
      · next held =>
          have fresh : ¬ c.operation.Committed := by
            intro done
            have flag := (orderly.phase done).2
            rw [held.2.2] at flag
            cases flag
          obtain ⟨approval, centralCommitAt⟩ := cancelOperation_labels c.operation now answers restored
          have still : ¬ (cancelOperation now c.operation answers restored).Committed := by
            rw [DataResetOperation.Committed, centralCommitAt]
            exact fresh
          refine orderly.advance _ _ rfl approval (fun done => absurd done fresh) (fun done => absurd done still)
            (fun pass current => ?_) (fun _ _ inside => (cancelEvents_asks inside).elim) fun participant inside => ?_
          · have idle : Worker.pass? c.worker = some pass := current
            rw [held.1] at idle
            cases idle
          · rw [(cancelOperation_row c.operation now answers restored).2.2.2.2] at inside
            obtain ⟨old, oldInside, rfl⟩ := List.mem_map.mp inside
            exact .inl ⟨old, oldInside, cancelParticipant_sameDigest answers old⟩
      · exact orderly
  | cancelCrash answers reached =>
      rw [Coordination.act]
      split
      · refine orderly.advance _ _ rfl (.refl _) id orderly.phase orderly.working
          (fun _ _ inside => (cancelEvents_asks (List.mem_of_mem_take inside)).elim)
          fun participant inside => .inl ⟨participant, inside, rfl, rfl⟩
      · exact orderly
  | crash =>
      refine orderly.advance _ [] (List.append_nil _).symm (.refl _) id orderly.phase (fun pass current => ?_)
        (fun _ _ inside => by cases inside) fun participant inside => .inl ⟨participant, inside, rfl, rfl⟩
      cases current

end Transactions

/-! ## What is asked of sensors -/

section Requests
variable {Digest : Type} [DecidableEq Digest] {canonicalSha256 : Canonical → Digest} {origin : DataResetOperation}

/-- Commits are asked for in a commit pass, with a digest on record, and cancellations only after a
request to cancel. -/
structure Restrained (c : Coordination Digest) (events : List (Event Digest)) : Prop where
  commit : ∀ deviceId digest, .asked deviceId (.commit digest) ∈ events → c.worker.pass? = some .commit ∧
    ∃ participant ∈ c.operation.participants, participant.deviceId = deviceId ∧
      participant.prepareReceiptDigest = some digest
  cancel : ∀ deviceId, .cancelAsked deviceId ∈ events → c.operation.cancelRequested = true

/-- The log after a transaction. -/
def Appends (c next : Coordination Digest) : Prop := ∃ events, next.log = c.log ++ events ∧ Restrained c events

variable {c : Coordination Digest}

omit [DecidableEq Digest] in
theorem appends_silent {next : Coordination Digest} (log : next.log = c.log) : Appends c next := by
  refine ⟨[], by rw [log, List.append_nil], fun _ _ inside => ?_, fun _ inside => ?_⟩
  all_goals cases inside

omit [DecidableEq Digest] in
theorem beginPrepare_appends (now : Int) (pass : Pass) (participant : DataResetParticipant) (sensor : Sensor)
    (remaining : List String) : Appends c (c.beginPrepare now pass participant sensor remaining) := by
  rw [Coordination.beginPrepare]
  split
  · exact appends_silent (List.append_nil _)
  · next action outcome eq =>
      refine ⟨_, rfl, fun _ _ inside => ?_, fun _ inside => ?_⟩
      · cases action <;> simp [Coordination.PrepareAction.request] at inside
      · simp at inside

omit [DecidableEq Digest] in
theorem beginCommit_appends (current : c.worker.pass? = some .commit) {participant : DataResetParticipant}
    (member : participant ∈ c.operation.participants) (now : Int) (remaining : List String) :
    Appends c (c.beginCommit now participant remaining) := by
  unfold Coordination.beginCommit
  dsimp only
  split
  · exact ⟨_, rfl, fun _ _ inside => by simp at inside, fun _ inside => by simp at inside⟩
  · split
    · exact ⟨_, rfl, fun _ _ inside => by simp at inside, fun _ inside => by simp at inside⟩
    · next digest held =>
        refine ⟨_, rfl, fun deviceId asked inside => ?_, fun _ inside => by simp at inside⟩
        simp only [List.mem_cons, reduceCtorEq, Event.asked.injEq, SensorRequest.commit.injEq, List.not_mem_nil,
          or_false, false_or] at inside
        obtain ⟨rfl, rfl⟩ := inside
        exact ⟨current, participant, member, rfl, held⟩

omit [DecidableEq Digest] in
theorem takeUp_appends (now : Int) (sensor : Sensor) : Appends c (c.takeUp now sensor) := by
  rw [Coordination.takeUp]
  split
  · next pass deviceId remaining worker =>
      split
      · exact appends_silent rfl
      · next participant found =>
          have member := (DataResetOperation.participant?_some found).1
          cases pass with
          | prepare =>
              dsimp only
              split
              · exact appends_silent rfl
              · exact beginPrepare_appends now .prepare participant sensor remaining
          | commit =>
              dsimp only
              split
              · exact appends_silent rfl
              · split
                · exact appends_silent (List.append_nil _)
                · split
                  · split
                    · exact appends_silent rfl
                    · exact beginPrepare_appends now .commit participant sensor remaining
                  · exact beginCommit_appends (by rw [worker]; rfl) member now remaining
  · next deviceId remaining worker =>
      split
      · exact appends_silent rfl
      · next participant found =>
          exact beginCommit_appends (by rw [worker]; rfl) (DataResetOperation.participant?_some found).1 now remaining
  · exact appends_silent rfl

theorem recordReply_appends (now : Int) (sensor : Sensor) (reply : Reply Digest) :
    Appends c (c.recordReply canonicalSha256 now sensor reply) := by
  rw [Coordination.recordReply]
  split
  · next pass deviceId pending remaining worker =>
      split
      · exact appends_silent rfl
      · next participant found =>
          cases pending with
          | prepare action => exact ⟨_, rfl, fun _ _ inside => by simp at inside, fun _ inside => by simp at inside⟩
          | commit status =>
              refine ⟨_, rfl, fun _ _ inside => ?_, fun _ inside => ?_⟩
              all_goals
                split at inside
                · simp at inside
                · cases held : participant.prepareReceiptDigest <;> simp [held] at inside
  · exact appends_silent rfl

omit [DecidableEq Digest] in
theorem cancelEvents_restrained (flag : c.operation.cancelRequested = true) (answers : CancelAnswers)
    (participants : List DataResetParticipant) {events : List (Event Digest)}
    (inside : ∀ event ∈ events, event ∈ Coordination.cancelEvents answers participants) : Restrained c events :=
  ⟨fun _ _ member => (cancelEvents_asks (inside _ member)).elim, fun _ _ => flag⟩

theorem act_appends (action : Action Digest) : Appends c (c.act canonicalSha256 action) := by
  cases action with
  | cancelDataReset => exact appends_silent rfl
  | retryDataReset => exact appends_silent rfl
  | crash => exact appends_silent rfl
  | beginPass =>
      apply appends_silent
      simp only [Coordination.act, Coordination.beginPass]
      split_ifs <;> rfl
  | takeUp now sensor => exact takeUp_appends now sensor
  | reply now sensor reply => exact recordReply_appends now sensor reply
  | finishPass db now costs =>
      apply appends_silent
      simp only [Coordination.act, Coordination.finishPass]
      split <;> rfl
  | cancelOperation now answers restored =>
      rw [Coordination.act]
      split
      · next held => exact ⟨_, rfl, cancelEvents_restrained held.2.2 answers c.operation.participants fun _ => id⟩
      · exact appends_silent rfl
  | cancelCrash answers reached =>
      rw [Coordination.act]
      split
      · next held =>
          exact ⟨_, rfl, cancelEvents_restrained held.2.2 answers c.operation.participants
            fun _ => List.mem_of_mem_take⟩
      · exact appends_silent rfl
  | requestBackup | checkBackup | centralReset | purgeArtifacts | beginSensorCommit =>
      apply appends_silent
      simp only [Coordination.act, Coordination.whenIdle]
      split <;> rfl

theorem act_ended (orderly : Orderly canonicalSha256 origin c) (ended : ¬ c.operation.Active) (action : Action Digest) :
    (c.act canonicalSha256 action).operation = c.operation ∧ (c.act canonicalSha256 action).log = c.log := by
  have idle : c.worker = .idle := by
    cases worker : c.worker with
    | idle => rfl
    | between pass remaining => exact absurd (orderly.working pass (by rw [worker]; rfl)).1 ended
    | waiting pass deviceId pending remaining =>
        exact absurd (orderly.working pass (by rw [worker]; rfl)).1 ended
    | preparedLate deviceId remaining => exact absurd (orderly.working .commit (by rw [worker]; rfl)).1 ended
  have unmoved : ∀ {guard : DataResetOperation → Prop} [DecidablePred guard]
      {effect : DataResetOperation → DataResetOperation}, (guard c.operation → c.operation.Active) →
      (c.whenIdle guard effect).operation = c.operation ∧ (c.whenIdle guard effect).log = c.log := by
    intro guard _ effect active
    rw [Coordination.whenIdle, if_neg fun held => ended (active held.2)]
    exact ⟨rfl, rfl⟩
  have dispatched : ∀ {state : OperationState}, state.terminal = false → Dispatched state c.operation →
      c.operation.Active := by
    intro state live held
    rw [DataResetOperation.Active, held.1]
    exact live
  cases action with
  | cancelDataReset =>
      rcases markCancelRequested_cases c.operation with same | ⟨active, _⟩
      · exact ⟨same, rfl⟩
      · exact absurd active ended
  | retryDataReset =>
      rcases retryResetOperation_cases c.operation with same | ⟨active, _⟩
      · exact ⟨same, rfl⟩
      · exact absurd active ended
  | beginPass =>
      simp only [Coordination.act, Coordination.beginPass]
      split
      · rw [if_neg fun preparing => ended preparing.active, if_neg fun committing => ended committing.active]
        exact ⟨rfl, rfl⟩
      · exact ⟨rfl, rfl⟩
  | takeUp now sensor => simp only [Coordination.act, Coordination.takeUp, idle, and_self]
  | reply now sensor reply => simp only [Coordination.act, Coordination.recordReply, idle, and_self]
  | finishPass db now costs => simp only [Coordination.act, Coordination.finishPass, idle, and_self]
  | requestBackup backupId => exact unmoved (dispatched rfl)
  | checkBackup evidence => exact unmoved (dispatched rfl)
  | centralReset db now scope purge => exact unmoved fun ready => ready.active
  | purgeArtifacts purged =>
      rw [Coordination.act]
      exact unmoved fun held => held.1
  | beginSensorCommit =>
      rw [Coordination.act]
      exact unmoved (dispatched rfl)
  | cancelOperation now answers restored =>
      rw [Coordination.act, if_neg fun held => ended held.2.1]
      exact ⟨rfl, rfl⟩
  | cancelCrash answers reached =>
      rw [Coordination.act, if_neg fun held => ended held.2.1]
      exact ⟨rfl, rfl⟩
  | crash => exact ⟨rfl, rfl⟩

end Requests

/-! ## Runs -/

section Runs
variable {Digest : Type} [DecidableEq Digest] (canonicalSha256 : Canonical → Digest)

theorem start_orderly (id : String) (plan : DataResetPlan) (key : String) (request : ExecutionRequest) :
    Orderly canonicalSha256 (newOperation id plan key request)
      (.start (newOperation id plan key request) : Coordination Digest) where
  approval := .refl _
  phase := fun done => by cases done
  working := fun pass current => by cases current
  asked := fun deviceId digest member => by cases member
  digests := by
    intro participant inside digest held
    obtain ⟨snapshot, _, rfl⟩ := List.mem_map.mp inside
    cases held

theorem run_orderly {origin : DataResetOperation} {c : Coordination Digest}
    (orderly : Orderly canonicalSha256 origin c) (actions : List (Action Digest)) :
    Orderly canonicalSha256 origin (c.run canonicalSha256 actions) :=
  foldl_invariant orderly (fun _ action kept => act_orderly kept action) actions

theorem run_ended {origin : DataResetOperation} {c : Coordination Digest} (orderly : Orderly canonicalSha256 origin c)
    (ended : ¬ c.operation.Active) (actions : List (Action Digest)) :
    (c.run canonicalSha256 actions).operation = c.operation ∧ (c.run canonicalSha256 actions).log = c.log := by
  induction actions generalizing c with
  | nil => exact ⟨rfl, rfl⟩
  | cons action rest ih =>
      obtain ⟨operation, log⟩ := act_ended orderly ended action
      obtain ⟨laterOperation, laterLog⟩ := ih (act_orderly orderly action) (by rw [operation]; exact ended)
      exact ⟨laterOperation.trans operation, laterLog.trans log⟩

/-- In every order of transactions, crashes and answers: a commit is asked for only once the central
commit is durable and with the digest of a receipt validated for this operation; a cancellation only
before it; an operation that ended without a commit has asked for none and never will; and a completed
operation stays completed. -/
theorem commit_and_cancel_exclude (id : String) (plan : DataResetPlan) (key : String) (request : ExecutionRequest)
    (actions : List (Action Digest)) :
    let origin := newOperation id plan key request
    let c := (Coordination.start origin).run canonicalSha256 actions
    (∀ action, ∃ events, (c.act canonicalSha256 action).log = c.log ++ events ∧
      (∀ deviceId digest, .asked deviceId (.commit digest) ∈ events →
        c.operation.Committed ∧ Accepted canonicalSha256 origin c.log deviceId digest) ∧
      ∀ deviceId, .cancelAsked deviceId ∈ events → ¬ c.operation.Committed) ∧
    (c.operation.state = .cancelled ∨ c.operation.state = .failedBeforeCommit → ∀ later deviceId digest,
      .asked deviceId (.commit digest) ∉ (c.run canonicalSha256 later).log) ∧
    (c.operation.state = .completed → ∀ later, (c.run canonicalSha256 later).operation.state = .completed) := by
  intro origin c
  have orderly : Orderly canonicalSha256 origin c :=
    run_orderly canonicalSha256 (start_orderly canonicalSha256 id plan key request) actions
  refine ⟨fun action => ?_, fun ended later deviceId digest member => ?_, fun done later => ?_⟩
  · have appends : Appends c (c.act canonicalSha256 action) := act_appends action
    obtain ⟨events, log, restrained⟩ := appends
    refine ⟨events, log, fun deviceId digest member => ?_, fun deviceId member done => ?_⟩
    · obtain ⟨current, participant, inside, rfl, held⟩ := restrained.commit deviceId digest member
      exact ⟨(orderly.working .commit current).2.mp rfl, orderly.digests participant inside digest held⟩
    · have flag := (orderly.phase done).2
      rw [restrained.cancel deviceId member] at flag
      cases flag
  · have inactive : ¬ c.operation.Active := by
      intro active
      rw [DataResetOperation.Active] at active
      rcases ended with state | state <;> rw [state] at active <;> cases active
    rw [(run_ended canonicalSha256 orderly inactive later).2] at member
    have late := (orderly.phase (orderly.asked deviceId digest member)).1
    rcases ended with state | state <;> rw [state] at late <;> cases late
  · have inactive : ¬ c.operation.Active := by
      intro active
      rw [DataResetOperation.Active, done] at active
      cases active
    rw [(run_ended canonicalSha256 orderly inactive later).1]
    exact done

end Runs
end PowerMonitor.DataReset
