import PowerMonitor.DataReset.Exclusion
import PowerMonitor.DataReset.Safety

/-! Sensors that a cancelled operation leaves armed.

A sensor that has received a prepare request stops measuring until it completes or cancels the
reset. A cancellation asks the participants whose rows say that they may be armed, and ends the
operation once all of these have confirmed.
-/

set_option autoImplicit false
namespace PowerMonitor.DataReset
open Library

section Armed
variable {Digest : Type}

/-- The request may have been delivered. -/
def Reply.reaches : Reply Digest → Bool
  | .ok _ => true
  | .error error => error.requestMayHaveReachedSensor

/-- Whether the sensor may be armed after an event. -/
def Event.arm (deviceId : String) (armed : Bool) : Event Digest → Bool
  | .replied id .prepare reply => if id = deviceId ∧ reply.reaches = true then true else armed
  | .cancelReplied id (.ok .cancelled) => if id = deviceId then false else armed
  | _ => armed

/-- A prepare request may have reached the sensor, and it has confirmed no cancellation since. -/
def armed (log : List (Event Digest)) (deviceId : String) : Bool := log.foldl (Event.arm deviceId) false

def Disarmed (c : Coordination Digest) : Prop := ∀ deviceId, armed c.log deviceId = false

/-- A cancellation asks every sensor that may be armed. -/
def AsksArmed (c : Coordination Digest) : Prop := ∀ deviceId, armed c.log deviceId = true →
  ∃ participant ∈ c.operation.participants, participant.deviceId = deviceId ∧ NeedsSensorCancel participant

/-- The operation has ended without a central commit. -/
def EndedUncommitted (operation : DataResetOperation) : Prop :=
  operation.state = .cancelled ∨ operation.state = .failedBeforeCommit

instance (operation : DataResetOperation) : Decidable (EndedUncommitted operation) :=
  inferInstanceAs (Decidable (_ ∨ _))

theorem cancelEvents_cons (answers : CancelAnswers) (participant : DataResetParticipant)
    (rest : List DataResetParticipant) :
    (Coordination.cancelEvents answers (participant :: rest) : List (Event Digest)) =
      if NeedsSensorCancel participant then
        .cancelAsked participant.deviceId :: .cancelReplied participant.deviceId (answers participant.deviceId) ::
          Coordination.cancelEvents answers rest
      else Coordination.cancelEvents answers rest := by
  unfold Coordination.cancelEvents
  rw [List.filter_cons]
  split
  · next needs =>
      rw [if_pos (by simpa using needs), List.flatMap_cons]
      rfl
  · next spared => rw [if_neg (by simpa using spared)]

/-- Confirmed cancellations disarm the sensors that were asked, and no others. -/
theorem cancelEvents_armed {answers : CancelAnswers} {participants : List DataResetParticipant} (deviceId : String)
    (confirmed : ∀ participant ∈ participants, Cancelled answers participant) (before : Bool) :
    (Coordination.cancelEvents answers participants : List (Event Digest)).foldl (Event.arm deviceId) before = true ↔
      before = true ∧ ∀ participant ∈ participants, participant.deviceId = deviceId →
        ¬ NeedsSensorCancel participant := by
  induction participants generalizing before with
  | nil => simp [Coordination.cancelEvents]
  | cons participant rest ih =>
      have later := ih fun other inside => confirmed other (List.mem_cons_of_mem participant inside)
      rw [cancelEvents_cons]
      split
      · next needs =>
          rw [List.foldl_cons, List.foldl_cons, confirmed participant List.mem_cons_self needs]
          dsimp only [Event.arm]
          rw [later]
          by_cases own : participant.deviceId = deviceId
          · rw [if_pos own]
            simp [own, needs]
          · rw [if_neg own]
            simp [own]
      · next spared =>
          rw [later]
          simp [spared]

end Armed

section Ending
variable {Digest : Type} [DecidableEq Digest] {canonicalSha256 : Canonical → Digest} {origin : DataResetOperation}
  {c : Coordination Digest}

theorem EndedUncommitted.inactive {operation : DataResetOperation} (ended : EndedUncommitted operation) :
    ¬ operation.Active := by
  rw [DataResetOperation.Active]
  rcases ended with state | state <;> rw [state] <;> exact Bool.noConfusion

theorem EndedUncommitted.early {operation : DataResetOperation} (ended : EndedUncommitted operation) :
    operation.state.afterCommit = false := by
  rcases ended with state | state <;> rw [state] <;> rfl

theorem not_endedUncommitted {operation : DataResetOperation}
    (live : operation.Active ∨ operation.state.afterCommit = true) : ¬ EndedUncommitted operation := by
  intro ended
  rcases live with active | late
  · exact ended.inactive active
  · rw [ended.early] at late
    cases late

omit [DecidableEq Digest] in
theorem beginPrepare_state (now : Int) (pass : Pass) (participant : DataResetParticipant) (sensor : Sensor)
    (remaining : List String) :
    (c.beginPrepare now pass participant sensor remaining).operation.state = c.operation.state := by
  rw [Coordination.beginPrepare]
  split <;> rfl

omit [DecidableEq Digest] in
theorem beginCommit_state (now : Int) (participant : DataResetParticipant) (remaining : List String) :
    (c.beginCommit now participant remaining).operation.state = c.operation.state := by
  unfold Coordination.beginCommit
  dsimp only
  split
  · rfl
  · split <;> rfl

omit [DecidableEq Digest] in
/-- Exchanges with sensors leave the state of the operation alone. -/
theorem takeUp_state (now : Int) (sensor : Sensor) : (c.takeUp now sensor).operation.state = c.operation.state := by
  rw [Coordination.takeUp]
  split
  · next pass deviceId remaining worker =>
      split
      · rfl
      · next participant found =>
          cases pass with
          | prepare =>
              dsimp only
              split
              · rfl
              · exact beginPrepare_state now .prepare participant sensor remaining
          | commit =>
              dsimp only
              split
              · rfl
              · split
                · rfl
                · split
                  · split
                    · rfl
                    · exact beginPrepare_state now .commit participant sensor remaining
                  · exact beginCommit_state now participant remaining
  · split
    · rfl
    · exact beginCommit_state now _ _
  · rfl

theorem recordReply_state (now : Int) (sensor : Sensor) (reply : Reply Digest) :
    (c.recordReply canonicalSha256 now sensor reply).operation.state = c.operation.state := by
  rw [Coordination.recordReply]
  split
  · split
    · rfl
    · next pending _ _ _ _ _ => cases pending <;> rfl
  · rfl

/-- Only a cancellation that every sensor it asked has confirmed ends the operation uncommitted. -/
theorem act_ends (active : c.operation.Active) {action : Action Digest}
    (ended : EndedUncommitted (c.act canonicalSha256 action).operation) :
    ∃ now answers restored, action = .cancelOperation now answers restored ∧ c.worker = .idle ∧
      Coordination.Cancelling c.operation ∧ ∀ participant ∈ c.operation.participants, Cancelled answers participant := by
  have same : ∀ {after : DataResetOperation}, after.state = c.operation.state → ¬ EndedUncommitted after := by
    intro after state
    apply not_endedUncommitted
    rw [DataResetOperation.Active, state]
    exact .inl active
  have whenIdle : ∀ {guard : DataResetOperation → Prop} [DecidablePred guard]
      {effect : DataResetOperation → DataResetOperation}, (guard c.operation → ¬ EndedUncommitted (effect c.operation)) →
      ¬ EndedUncommitted (c.whenIdle guard effect).operation := by
    intro guard _ effect each
    rw [Coordination.whenIdle]
    split
    · next held => exact each held.2
    · exact same rfl
  cases action with
  | cancelDataReset =>
      refine absurd ended ?_
      rcases markCancelRequested_cases c.operation with kept | ⟨_, _, marked⟩
      · exact same (congrArg DataResetOperation.state kept)
      · have state := congrArg DataResetOperation.state marked
        exact same state
  | retryDataReset =>
      refine absurd ended ?_
      rcases retryResetOperation_cases c.operation with kept | ⟨_, live, _⟩
      · exact same (congrArg DataResetOperation.state kept)
      · exact not_endedUncommitted (.inl live)
  | beginPass =>
      refine absurd ended (same ?_)
      simp only [Coordination.act, Coordination.beginPass]
      split_ifs <;> rfl
  | takeUp now sensor => exact absurd ended (same (takeUp_state now sensor))
  | reply now sensor reply => exact absurd ended (same (recordReply_state now sensor reply))
  | finishPass db now costs =>
      refine absurd ended ?_
      rw [Coordination.act, Coordination.finishPass]
      split
      · dsimp only
        rw [finishPreparing]
        split
        · exact not_endedUncommitted (.inl rfl)
        · split
          · exact not_endedUncommitted (.inl rfl)
          · exact same rfl
      · exact not_endedUncommitted (.inr (finishCommitting_labels c.operation db now costs).2.1)
      · exact same rfl
  | requestBackup backupId =>
      refine absurd ended (whenIdle fun _ => ?_)
      rw [requestBackup]
      split
      · split
        · exact same rfl
        · exact not_endedUncommitted (.inl rfl)
      · exact not_endedUncommitted (.inl rfl)
  | checkBackup evidence =>
      refine absurd ended (whenIdle fun _ => ?_)
      cases evidence with
      | running => exact same rfl
      | missing | conclusive | inconclusive | failed => exact not_endedUncommitted (.inl rfl)
  | centralReset db now scope purge =>
      refine absurd ended (whenIdle fun _ => ?_)
      rcases centralResetRow_cases db now scope purge c.operation with ⟨code, summary, failed⟩ | committed
      · rw [failed]
        exact not_endedUncommitted (.inl rfl)
      · exact not_endedUncommitted (.inr committed.2.2.2.1)
  | purgeArtifacts purged =>
      rw [Coordination.act] at ended
      refine absurd ended (whenIdle fun _ => ?_)
      rw [purgeAgain]
      split
      · exact same rfl
      · exact not_endedUncommitted (.inl rfl)
  | beginSensorCommit =>
      rw [Coordination.act] at ended
      exact absurd ended (whenIdle fun _ => not_endedUncommitted (.inr rfl))
  | cancelOperation now answers restored =>
      rw [Coordination.act] at ended
      split at ended
      · next held =>
          refine ⟨now, answers, restored, rfl, held.1, held.2, ?_⟩
          by_contra refused
          refine absurd ended (same ?_)
          dsimp only
          unfold cancelOperation
          rw [if_pos refused]
      · exact absurd ended (same rfl)
  | cancelCrash answers reached =>
      refine absurd ended ?_
      rw [Coordination.act]
      split <;> exact same rfl
  | crash => exact absurd ended (same rfl)

/-- At the step that ends the operation no sensor stays armed exactly when every armed one is asked. -/
theorem act_disarms (active : c.operation.Active) {action : Action Digest}
    (ended : EndedUncommitted (c.act canonicalSha256 action).operation) :
    Disarmed (c.act canonicalSha256 action) ↔ AsksArmed c := by
  obtain ⟨now, answers, restored, rfl, idle, cancelling, confirmed⟩ := act_ends active ended
  have after : ∀ deviceId, armed (c.act canonicalSha256 (.cancelOperation now answers restored)).log deviceId = true ↔
      armed c.log deviceId = true ∧ ∀ participant ∈ c.operation.participants, participant.deviceId = deviceId →
        ¬ NeedsSensorCancel participant := by
    intro deviceId
    rw [Coordination.act, if_pos ⟨idle, cancelling⟩]
    dsimp only [armed]
    rw [List.foldl_append]
    exact cancelEvents_armed deviceId confirmed _
  constructor
  · intro disarmed deviceId held
    by_contra spared
    have still := (after deviceId).mpr ⟨held, fun participant inside own needs =>
      spared ⟨participant, inside, own, needs⟩⟩
    rw [disarmed deviceId] at still
    cases still
  · intro asks deviceId
    rw [← Bool.not_eq_true]
    intro still
    obtain ⟨held, spared⟩ := (after deviceId).mp still
    obtain ⟨participant, inside, own, needs⟩ := asks deviceId held
    exact spared participant inside own needs

end Ending

section Runs
variable {Digest : Type} [DecidableEq Digest] (canonicalSha256 : Canonical → Digest)

/-- A cancelled operation leaves no sensor armed exactly when the step that ends it asks every sensor
that may be armed. -/
theorem cancelled_leaves_no_armed_sensor (id : String) (plan : DataResetPlan) (key : String)
    (request : ExecutionRequest) (actions : List (Action Digest)) :
    let origin := Coordination.start (newOperation id plan key request)
    let c := origin.run canonicalSha256 actions
    (∀ action, c.operation.Active → EndedUncommitted (c.act canonicalSha256 action).operation →
      (Disarmed (c.act canonicalSha256 action) ↔ AsksArmed c)) ∧
    ((∀ earlier action later, actions = earlier ++ action :: later →
        (origin.run canonicalSha256 earlier).operation.Active →
        EndedUncommitted ((origin.run canonicalSha256 earlier).act canonicalSha256 action).operation →
        AsksArmed (origin.run canonicalSha256 earlier)) →
      EndedUncommitted c.operation → Disarmed c) := by
  intro origin c
  refine ⟨fun action active ended => act_disarms active ended, fun asks ended => ?_⟩
  obtain ⟨earlier, action, later, rfl, before, after⟩ :=
    foldl_loses (P := fun state : Coordination Digest => state.operation.Active)
      (show origin.operation.Active from rfl) ended.inactive
  have orderly := run_orderly canonicalSha256 (start_orderly canonicalSha256 id plan key request) earlier
  -- Nothing changes after the step that ends the operation.
  obtain ⟨operation, log⟩ := run_ended canonicalSha256 (act_orderly orderly action) after later
  have last : c = ((origin.run canonicalSha256 earlier).act canonicalSha256 action).run canonicalSha256 later := by
    change (earlier ++ action :: later).foldl _ _ = _
    rw [List.foldl_append]
    rfl
  rw [last, operation] at ended
  intro deviceId
  rw [last, log]
  exact (act_disarms before ended).mpr (asks earlier action later rfl before ended) deviceId

end Runs

/-! ## A prepare request whose answer is lost -/

def meter : Sensor :=
  { hardwareId := "esp-1"
    store :=
      { device := some { siteId := "home" }
        dataState := some {}
        cursor := some ⟨7, 7, 0, 0, 0⟩ } }

/-- The answer of a sensor that was planned as disconnected is lost, and an administrator cancels. -/
def lostPrepare : List (Action Canonical) :=
  [.beginPass,
    .takeUp 2 meter,
    .reply 3 meter (.error { code := "sensor_reset_unreachable", summary := "" }),
    .finishPass meterSite 3 .notRequired,
    .cancelDataReset,
    .cancelOperation 4 (fun _ => .error { code := "sensor_reset_unreachable", summary := "" }) (.ok ())]

theorem lostPrepare_leaves_armed_sensor :
    ∃ plan ∈ (step id (fun _ => "") meterSite
      (.createResetPlan "plan" "home" .deferUntilReconnect 0 silentInputs : Step Canonical)).plans,
    let c := (Coordination.start (newOperation "reset" plan "key" resetRequest)).run id lostPrepare
    EndedUncommitted c.operation ∧ ¬ Disarmed c := by
  have armedMeter : ∃ plan ∈ (step id (fun _ => "") meterSite
      (.createResetPlan "plan" "home" .deferUntilReconnect 0 silentInputs : Step Canonical)).plans,
      let c := (Coordination.start (newOperation "reset" plan "key" resetRequest)).run id lostPrepare
      EndedUncommitted c.operation ∧ armed c.log "meter" = true := by
    decide
  obtain ⟨plan, planned, ended, held⟩ := armedMeter
  refine ⟨plan, planned, ended, fun disarmed => ?_⟩
  rw [disarmed "meter"] at held
  cases held

end PowerMonitor.DataReset
