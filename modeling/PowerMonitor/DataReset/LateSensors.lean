import PowerMonitor.DataReset.Disarming

/-! Sensors that return after the central commit.

A late sensor is prepared and then asked to commit. A commit pass sends a participant whose prepare
was answered asynchronously, or not at all, straight to its commit, for which there is no prepared
receipt yet.
-/

set_option autoImplicit false
namespace PowerMonitor.DataReset
open Library

/-! ## Rows without a prepared receipt -/

/-- States that follow a prepared receipt. -/
def ParticipantState.pastPrepare : ParticipantState → Bool
  | .prepared | .commitRequested | .committed | .verified => true
  | _ => false

/-- A participant without a prepared receipt is not past its prepare phase. -/
def Bare (participant : DataResetParticipant) : Prop :=
  participant.prepareReceiptDigest = none → participant.state.pastPrepare = false

theorem Bare.of_digest {participant : DataResetParticipant} (held : participant.prepareReceiptDigest ≠ none) :
    Bare participant := fun missing => absurd missing held

theorem markUnsupported_bare (now : Int) (participant : DataResetParticipant) :
    Bare (participant.markUnsupported now) := by
  rw [DataResetParticipant.markUnsupported]
  split
  · exact fun _ => rfl
  · exact fun _ => rfl

theorem prepareFailed_bare (now : Int) (participant : DataResetParticipant) (declared : Bool)
    (error : SensorResetCommunicationError) : Bare (participant.prepareFailed now declared error) := by
  rw [DataResetParticipant.prepareFailed]
  split
  · exact fun _ => rfl
  · exact fun _ => rfl

theorem beginPrepare_bare (now : Int) (operation : DataResetOperation) (participant : DataResetParticipant)
    (sensor : Sensor) : Bare (beginPrepare now operation participant sensor).2.1 := by
  rw [beginPrepare]
  split
  · exact fun _ => rfl
  · split
    · exact markUnsupported_bare now participant
    · exact fun _ => rfl

section Rows
variable {Digest : Type} [DecidableEq Digest] (canonicalSha256 : Canonical → Digest)

/-- However a prepare is answered, a prepared participant holds the digest of its receipt. -/
theorem finishPrepare_bare (now : Int) (operation : DataResetOperation) (participant : DataResetParticipant)
    (sensor : Sensor) (action : PrepareAction) (reply : Reply Digest) :
    Bare (finishPrepare canonicalSha256 now operation participant sensor action reply).1 := by
  cases reply with
  | error error => exact prepareFailed_bare now participant false error
  | ok response =>
      dsimp only [finishPrepare]
      split
      · next answered ok =>
          unfold prepareAnswered at ok
          split at ok
          · cases ok
            exact fun _ => rfl
          · split at ok
            · obtain ⟨receipt, _, ok⟩ := bind_eq_ok.mp ok
              obtain ⟨complete, ok⟩ := raiseIf_bind_eq_ok.mp ok
              obtain ⟨_, ok⟩ := raiseIf_bind_eq_ok.mp ok
              cases ok
              exact .of_digest (not_or.mp complete).1
            · split at ok
              · cases ok
                exact fun _ => rfl
              · cases ok
                exact fun _ => rfl
      · exact prepareFailed_bare now participant _ _

end Rows

/-! ## The invariant -/

/-- The participant the worker is about to ask for a commit, or has asked. -/
def Worker.commits? : Worker → Option String
  | .waiting _ deviceId (.commit _) _ => some deviceId
  | .preparedLate deviceId _ => some deviceId
  | _ => none

section Invariant
variable {Digest : Type} [DecidableEq Digest] (canonicalSha256 : Canonical → Digest)

/-- The worker takes up, for its commit, a participant without a prepared receipt that is not sent
through the prepare phase first. -/
def SkipsPrepare (c : Coordination Digest) : Action Digest → Prop
  | .takeUp _ sensor => ∃ deviceId remaining participant, c.worker = .between .commit (deviceId :: remaining) ∧
      c.operation.participant? deviceId = some participant ∧ sensor.InService ∧
      participant.prepareReceiptDigest = none ∧ (participant.state = .pending ∨
        participant.state = .prepareRequested ∨ participant.state = .attentionRequired)
  | _ => False

structure Grounded (origin : DataResetOperation) (c : Coordination Digest) : Prop where
  rows : ∀ participant ∈ c.operation.participants, Bare participant
  commits : ∀ deviceId, c.worker.commits? = some deviceId → ∀ participant ∈ c.operation.participants,
    participant.deviceId = deviceId → participant.prepareReceiptDigest ≠ none
  payloads : ∀ deviceId digest, .payload deviceId digest ∈ c.log →
    ∃ held, digest = some held ∧ Accepted canonicalSha256 origin c.log deviceId held

variable {canonicalSha256} {origin : DataResetOperation} {c : Coordination Digest}

theorem Grounded.advance (grounded : Grounded canonicalSha256 origin c) {next : Coordination Digest}
    (events : List (Event Digest)) (log : next.log = c.log ++ events)
    (rows : ∀ participant ∈ next.operation.participants, participant ∈ c.operation.participants ∨ Bare participant)
    (commits : ∀ deviceId, next.worker.commits? = some deviceId → ∀ participant ∈ next.operation.participants,
      participant.deviceId = deviceId → participant.prepareReceiptDigest ≠ none)
    (payloads : ∀ deviceId digest, .payload deviceId digest ∈ events →
      ∃ held, digest = some held ∧ Accepted canonicalSha256 origin c.log deviceId held) :
    Grounded canonicalSha256 origin next where
  rows := fun participant inside => (rows participant inside).elim (grounded.rows participant) id
  commits := commits
  payloads := by
    intro deviceId digest member
    rw [log, List.mem_append] at member
    obtain ⟨held, eq, accepted⟩ := member.elim (grounded.payloads deviceId digest) (payloads deviceId digest)
    refine ⟨held, eq, accepted.mono fun event inside => ?_⟩
    rw [log]
    exact List.mem_append_left events inside

/-- A transaction that keeps the participants and lets the worker rest or go on as before. -/
theorem Grounded.keep (grounded : Grounded canonicalSha256 origin c) {next : Coordination Digest}
    (log : next.log = c.log)
    (participants : next.operation.participants = c.operation.participants)
    (worker : next.worker = c.worker ∨ next.worker.commits? = none) : Grounded canonicalSha256 origin next := by
  refine grounded.advance [] (by rw [log, List.append_nil]) (fun participant inside => ?_)
    (fun deviceId current participant inside => ?_) fun deviceId digest member => by cases member
  · rw [participants] at inside
    exact .inl inside
  · rw [participants] at inside
    rcases worker with same | rests
    · rw [same] at current
      exact grounded.commits deviceId current participant inside
    · rw [rests] at current
      cases current

theorem Grounded.record (grounded : Grounded canonicalSha256 origin c) {participant : DataResetParticipant}
    {worker : Worker} {events : List (Event Digest)} (bare : Bare participant)
    (commits : ∀ deviceId, worker.commits? = some deviceId → deviceId = participant.deviceId ∧
      participant.prepareReceiptDigest ≠ none)
    (payloads : ∀ deviceId digest, .payload deviceId digest ∈ events →
      ∃ held, digest = some held ∧ Accepted canonicalSha256 origin c.log deviceId held) :
    Grounded canonicalSha256 origin (c.record participant worker events) := by
  refine grounded.advance events rfl (fun row inside => ?_) (fun deviceId current row inside own => ?_) payloads
  · rcases DataResetOperation.mem_setParticipant inside with new | kept
    · exact .inr (new ▸ bare)
    · exact .inl kept.1
  · obtain ⟨named, held⟩ := commits deviceId current
    rcases DataResetOperation.mem_setParticipant inside with new | kept
    · exact new ▸ held
    · exact absurd (own.trans named) kept.2

/-! ## Every transaction that skips no prepare -/

theorem beginPrepare_grounded (grounded : Grounded canonicalSha256 origin c) (now : Int) (pass : Pass)
    (participant : DataResetParticipant) (sensor : Sensor) (remaining : List String) :
    Grounded canonicalSha256 origin (c.beginPrepare now pass participant sensor remaining) := by
  have bare := beginPrepare_bare now c.operation participant sensor
  rw [Coordination.beginPrepare]
  split
  · next outcome eq =>
      rw [eq] at bare
      exact grounded.record bare (fun _ current => by cases current) fun _ _ member => by cases member
  · next action outcome eq =>
      rw [eq] at bare
      exact grounded.record bare (fun _ current => by cases current) fun _ _ member => by simp at member

theorem beginCommit_grounded (grounded : Grounded canonicalSha256 origin c) (orderly : Orderly canonicalSha256 origin c)
    (now : Int) {participant : DataResetParticipant} (member : participant ∈ c.operation.participants)
    (remaining : List String) (held : participant.prepareReceiptDigest ≠ none) :
    Grounded canonicalSha256 origin (c.beginCommit now participant remaining) := by
  have recorded : ∀ (status : Bool) (events : List (Event Digest)),
      (∀ deviceId digest, .payload deviceId digest ∈ events →
        ∃ held, digest = some held ∧ Accepted canonicalSha256 origin c.log deviceId held) →
      Grounded canonicalSha256 origin (c.record (participant.requestCommit now)
        (.waiting .commit participant.deviceId (.commit status) remaining) events) := by
    intro status events payloads
    refine grounded.record (.of_digest held) (fun deviceId current => ?_) payloads
    cases current
    exact ⟨rfl, held⟩
  unfold Coordination.beginCommit
  dsimp only
  split
  · exact recorded _ _ fun _ _ inside => by simp at inside
  · split
    · next missing => exact absurd missing held
    · next digest eq =>
        refine recorded _ _ fun deviceId payload inside => ?_
        simp only [List.mem_cons, Event.payload.injEq, reduceCtorEq, List.not_mem_nil, or_false] at inside
        obtain ⟨rfl, rfl⟩ := inside
        exact ⟨digest, rfl, orderly.digests participant member digest eq⟩

/-- A participant that a commit pass sends straight to its commit holds a prepared receipt. -/
theorem Grounded.held (grounded : Grounded canonicalSha256 origin c) {now : Int} {sensor : Sensor} {deviceId : String}
    {remaining : List String} {participant : DataResetParticipant}
    (worker : c.worker = .between .commit (deviceId :: remaining))
    (found : c.operation.participant? deviceId = some participant) (unsettled : ¬ participant.Settled)
    (serving : sensor.InService) (late : ¬ NeedsPrepare participant.state)
    (careful : ¬ SkipsPrepare c (.takeUp now sensor)) : participant.prepareReceiptDigest ≠ none := by
  intro missing
  have early := grounded.rows participant (DataResetOperation.participant?_some found).1 missing
  apply careful
  refine ⟨deviceId, remaining, participant, worker, found, serving, missing, ?_⟩
  cases state : participant.state with
  | pending => exact .inl rfl
  | prepareRequested => exact .inr (.inl rfl)
  | attentionRequired => exact .inr (.inr rfl)
  | prepared | commitRequested | committed | verified =>
      rw [state] at early
      cases early
  | notApplicable => exact absurd (.inr state) unsettled
  | unreachable | unsupported | pendingReconnect | failed =>
      refine absurd ?_ late
      rw [state, NeedsPrepare]
      decide

theorem takeUp_grounded (grounded : Grounded canonicalSha256 origin c) (orderly : Orderly canonicalSha256 origin c)
    (now : Int) (sensor : Sensor) (careful : ¬ SkipsPrepare c (.takeUp now sensor)) :
    Grounded canonicalSha256 origin (c.takeUp now sensor) := by
  rw [Coordination.takeUp]
  split
  · next pass deviceId remaining worker =>
      have skipped : Grounded canonicalSha256 origin { c with worker := .between pass remaining } :=
        grounded.keep rfl rfl (.inr rfl)
      split
      · exact skipped
      · next participant found =>
          have member := (DataResetOperation.participant?_some found).1
          cases pass with
          | prepare =>
              dsimp only
              split
              · exact skipped
              · exact beginPrepare_grounded grounded now .prepare participant sensor remaining
          | commit =>
              dsimp only
              split
              · exact skipped
              · next unsettled =>
                  split
                  · exact grounded.record (fun _ => rfl) (fun _ current => by cases current)
                      fun _ _ inside => by cases inside
                  · next serving =>
                      split
                      · split
                        · exact skipped
                        · exact beginPrepare_grounded grounded now .commit participant sensor remaining
                      · next late =>
                          exact beginCommit_grounded grounded orderly now member remaining
                            (grounded.held worker found unsettled (not_not.mp serving) late careful)
  · next deviceId remaining worker =>
      split
      · exact grounded.keep rfl rfl (.inr rfl)
      · next participant found =>
          obtain ⟨member, named⟩ := DataResetOperation.participant?_some found
          have held := grounded.commits deviceId (by rw [worker]; rfl) participant member named
          exact beginCommit_grounded grounded orderly now member remaining held
  · exact grounded

theorem recordReply_grounded (grounded : Grounded canonicalSha256 origin c) (now : Int) (sensor : Sensor)
    (reply : Reply Digest) : Grounded canonicalSha256 origin (c.recordReply canonicalSha256 now sensor reply) := by
  rw [Coordination.recordReply]
  split
  · next pass deviceId pending remaining worker =>
      split
      · exact grounded.keep rfl rfl (.inr rfl)
      · next participant found =>
          obtain ⟨member, named⟩ := DataResetOperation.participant?_some found
          cases pending with
          | prepare action =>
              have bare := finishPrepare_bare canonicalSha256 now c.operation participant sensor action reply
              have own := (finishPrepare_digest canonicalSha256 now c.operation participant sensor action reply).1
              refine grounded.record bare (fun other current => ?_) fun _ _ inside => by simp at inside
              split at current
              · next prepared =>
                  cases current
                  refine ⟨(own.trans named).symm, fun missing => ?_⟩
                  have early := bare missing
                  rw [prepared.2] at early
                  cases early
              · cases current
          | commit status =>
              have held := grounded.commits deviceId (by rw [worker]; rfl) participant member named
              have same : SameDigest participant
                  (finishCommit canonicalSha256 now c.operation participant sensor status reply).1 :=
                finishCommit_sameDigest now c.operation participant sensor status reply
              refine grounded.record (.of_digest ?_) (fun _ current => by cases current) fun _ _ inside => ?_
              · rw [same.2]
                exact held
              · split at inside
                · simp at inside
                · cases eq : participant.prepareReceiptDigest <;> simp [eq] at inside
  · exact grounded

theorem act_grounded (grounded : Grounded canonicalSha256 origin c) (orderly : Orderly canonicalSha256 origin c)
    {action : Action Digest} (careful : ¬ SkipsPrepare c action) :
    Grounded canonicalSha256 origin (c.act canonicalSha256 action) := by
  have whenIdle : ∀ {guard : DataResetOperation → Prop} [DecidablePred guard]
      {effect : DataResetOperation → DataResetOperation},
      (effect c.operation).participants = c.operation.participants →
      Grounded canonicalSha256 origin (c.whenIdle guard effect) := by
    intro guard _ effect participants
    rw [Coordination.whenIdle]
    split
    · exact grounded.keep rfl participants (.inl rfl)
    · exact grounded
  cases action with
  | cancelDataReset =>
      refine grounded.keep rfl ?_ (.inl rfl)
      rcases markCancelRequested_cases c.operation with kept | ⟨_, _, marked⟩
      · exact congrArg DataResetOperation.participants kept
      · have participants := congrArg DataResetOperation.participants marked
        exact participants
  | retryDataReset =>
      refine grounded.keep rfl ?_ (.inl rfl)
      rcases retryResetOperation_cases c.operation with kept | ⟨_, _, labels, _⟩
      · exact congrArg DataResetOperation.participants kept
      · exact labels.participants
  | beginPass =>
      rw [Coordination.act, Coordination.beginPass]
      split_ifs
      · exact grounded.keep rfl rfl (.inr rfl)
      · exact grounded.keep rfl rfl (.inr rfl)
      · exact grounded
      · exact grounded
  | takeUp now sensor => exact takeUp_grounded grounded orderly now sensor careful
  | reply now sensor reply => exact recordReply_grounded grounded now sensor reply
  | finishPass db now costs =>
      rw [Coordination.act, Coordination.finishPass]
      split
      · exact grounded.keep rfl (finishPreparing_labels c.operation).participants (.inr rfl)
      · exact grounded.keep rfl (finishCommitting_labels c.operation db now costs).1.participants (.inr rfl)
      · exact grounded
  | requestBackup backupId => exact whenIdle (requestBackup_labels c.operation backupId).participants
  | checkBackup evidence => exact whenIdle (checkBackup_labels c.operation evidence).participants
  | centralReset db now scope purge =>
      refine whenIdle ?_
      rcases centralResetRow_cases db now scope purge c.operation with ⟨code, summary, failed⟩ | committed
      · rw [failed]
        rfl
      · exact committed.2.1
  | purgeArtifacts purged =>
      rw [Coordination.act]
      exact whenIdle (purgeAgain_labels c.operation purged).participants
  | beginSensorCommit =>
      rw [Coordination.act]
      exact whenIdle rfl
  | cancelOperation now answers restored =>
      rw [Coordination.act]
      split
      · next held =>
          refine grounded.advance _ rfl (fun participant inside => ?_) (fun _ current => ?_)
            fun _ _ inside => ?_
          · rw [(cancelOperation_row c.operation now answers restored).2.2.2.2] at inside
            obtain ⟨old, oldInside, rfl⟩ := List.mem_map.mp inside
            have bare := grounded.rows old oldInside
            rw [cancelParticipant]
            split
            · split
              · exact .inr bare
              · exact .inr fun _ => rfl
              · exact .inl oldInside
            · exact .inl oldInside
          · have idle : Worker.commits? c.worker = some _ := current
            rw [held.1] at idle
            cases idle
          · obtain ⟨_, _, event⟩ := List.mem_flatMap.mp inside
            simp at event
      · exact grounded
  | cancelCrash answers reached =>
      rw [Coordination.act]
      split
      · next held =>
          refine grounded.advance _ rfl (fun _ inside => .inl inside) grounded.commits fun _ _ inside => ?_
          obtain ⟨_, _, event⟩ := List.mem_flatMap.mp (List.mem_of_mem_take inside)
          simp at event
      · exact grounded
  | crash => exact grounded.keep rfl rfl (.inr rfl)

end Invariant

/-! ## Why a participant needs attention -/

section Attention
variable {Digest : Type} [DecidableEq Digest] (canonicalSha256 : Canonical → Digest)

/-- The sensor reports a problem, its evidence fails validation, or the request fails for good. A
timeout alone does so only for a sensor that was planned as connected. -/
def Refuses (operation : DataResetOperation) (planned : Classification) : Reply Digest → Prop
  | .error error => error.retryable = false ∨ planned = .connected
  | .ok response => response.state = .attentionRequired ∨
      (∃ now participant sensor action error,
        prepareAnswered canonicalSha256 now operation participant sensor action response = .error error) ∨
      ∃ now participant sensor error,
        commitAnswered canonicalSha256 now operation participant sensor response = .error error

variable {canonicalSha256} {origin : DataResetOperation} {c : Coordination Digest}

theorem finishPrepare_attention {now : Int} {operation : DataResetOperation} {participant : DataResetParticipant}
    {sensor : Sensor} {action : PrepareAction} {reply : Reply Digest}
    (state : (finishPrepare canonicalSha256 now operation participant sensor action reply).1.state =
      .attentionRequired) :
    Refuses canonicalSha256 operation
      (finishPrepare canonicalSha256 now operation participant sensor action reply).1.plannedClassification reply := by
  cases reply with
  | error error =>
      dsimp only [finishPrepare, DataResetParticipant.prepareFailed] at state
      split at state
      · cases state
      · next held =>
          rw [not_and_or, not_not, Bool.not_eq_true] at held
          exact held
  | ok response =>
      dsimp only [finishPrepare] at state
      cases answered : prepareAnswered canonicalSha256 now operation participant sensor action response with
      | error error => exact .inr (.inl ⟨now, participant, sensor, action, error, answered⟩)
      | ok after =>
          rw [answered] at state
          dsimp only at state
          unfold prepareAnswered at answered
          split at answered
          · cases answered
            cases state
          · split at answered
            · obtain ⟨receipt, _, answered⟩ := bind_eq_ok.mp answered
              obtain ⟨_, answered⟩ := raiseIf_bind_eq_ok.mp answered
              obtain ⟨_, answered⟩ := raiseIf_bind_eq_ok.mp answered
              cases answered
              cases state
            · split at answered
              · next reported => exact .inl reported
              · cases answered
                cases state

theorem finishCommit_attention {now : Int} {operation : DataResetOperation} {participant : DataResetParticipant}
    {sensor : Sensor} {status : Bool} {reply : Reply Digest} (held : participant.prepareReceiptDigest ≠ none)
    (state : (finishCommit canonicalSha256 now operation participant sensor status reply).1.state =
      .attentionRequired) (planned : Classification) : Refuses canonicalSha256 operation planned reply := by
  unfold finishCommit at state
  rw [if_neg fun missing => held missing.2] at state
  cases reply with
  | error error =>
      dsimp only [commitFailed] at state
      split at state
      · cases state
      · next lasting => exact .inl (Bool.eq_false_of_not_eq_true lasting)
  | ok response =>
      dsimp only at state
      cases answered : commitAnswered canonicalSha256 now operation participant sensor response with
      | error error => exact .inr (.inr ⟨now, participant, sensor, error, answered⟩)
      | ok outcome =>
          rw [answered] at state
          dsimp only at state
          rw [commitAnswered] at answered
          split at answered
          · cases answered
          · cases answered
          · cases answered
          · obtain ⟨receipt, _, answered⟩ := bind_eq_ok.mp answered
            obtain ⟨_, answered⟩ := raiseIf_bind_eq_ok.mp answered
            obtain ⟨_, answered⟩ := raiseIf_bind_eq_ok.mp answered
            cases answered
            cases state
          · cases answered
            cases state
          · cases answered
            cases state

/-- New rows that need attention come with a reply that refuses. -/
def Explained (canonicalSha256 : Canonical → Digest) (c next : Coordination Digest) : Prop :=
  ∃ events, next.log = c.log ++ events ∧ ∀ participant ∈ next.operation.participants,
    participant.state = .attentionRequired → participant ∈ c.operation.participants ∨
      ∃ request reply, .replied participant.deviceId request reply ∈ events ∧
        Refuses canonicalSha256 c.operation participant.plannedClassification reply

theorem explained_keep {next : Coordination Digest} (log : next.log = c.log)
    (participants : next.operation.participants = c.operation.participants) : Explained canonicalSha256 c next := by
  refine ⟨[], by rw [log, List.append_nil], fun participant inside _ => .inl ?_⟩
  rw [← participants]
  exact inside

theorem explained_record {participant : DataResetParticipant} (worker : Worker) (events : List (Event Digest))
    (reason : participant.state = .attentionRequired → ∃ request reply,
      .replied participant.deviceId request reply ∈ events ∧
        Refuses canonicalSha256 c.operation participant.plannedClassification reply) :
    Explained canonicalSha256 c (c.record participant worker events) := by
  refine ⟨events, rfl, fun row inside state => ?_⟩
  rcases DataResetOperation.mem_setParticipant inside with new | kept
  · rw [new] at state ⊢
    exact .inr (reason state)
  · exact .inl kept.1

theorem beginCommit_explained (now : Int) (participant : DataResetParticipant) (remaining : List String) :
    Explained canonicalSha256 c (c.beginCommit now participant remaining) := by
  unfold Coordination.beginCommit
  dsimp only
  split
  · exact explained_record _ _ fun state => by cases state
  · split
    · exact explained_record _ _ fun state => by cases state
    · exact explained_record _ _ fun state => by cases state

/-- After the central commit a participant taken up changes to a request, or drops out. -/
theorem takeUp_explained (orderly : Orderly canonicalSha256 origin c) (done : c.operation.Committed) (now : Int)
    (sensor : Sensor) : Explained canonicalSha256 c (c.takeUp now sensor) := by
  rw [Coordination.takeUp]
  split
  · next pass deviceId remaining worker =>
      split
      · exact explained_keep rfl rfl
      · next participant found =>
          cases pass with
          | prepare =>
              have side := (orderly.working .prepare (by rw [worker]; rfl)).2.mpr done
              cases side
          | commit =>
              dsimp only
              split
              · exact explained_keep rfl rfl
              · split
                · exact explained_record _ _ fun state => by cases state
                · next serving =>
                    split
                    · split
                      · exact explained_keep rfl rfl
                      · next supported =>
                          -- The capability has just been read, so the prepare is asked for.
                          rw [Coordination.beginPrepare, DataReset.beginPrepare, if_neg serving, if_neg supported]
                          exact explained_record _ _ fun state => by cases state
                    · exact beginCommit_explained now participant remaining
  · split
    · exact explained_keep rfl rfl
    · exact beginCommit_explained now _ _
  · exact explained_keep rfl rfl

theorem recordReply_explained (grounded : Grounded canonicalSha256 origin c) (now : Int) (sensor : Sensor)
    (reply : Reply Digest) : Explained canonicalSha256 c (c.recordReply canonicalSha256 now sensor reply) := by
  rw [Coordination.recordReply]
  split
  · next pass deviceId pending remaining worker =>
      split
      · exact explained_keep rfl rfl
      · next participant found =>
          obtain ⟨member, named⟩ := DataResetOperation.participant?_some found
          cases pending with
          | prepare action =>
              have own := (finishPrepare_digest canonicalSha256 now c.operation participant sensor action reply).1
              refine explained_record _ _ fun state =>
                ⟨Coordination.PrepareAction.request action, reply, ?_, finishPrepare_attention state⟩
              rw [own, named]
              exact List.mem_singleton_self _
          | commit status =>
              have held := grounded.commits deviceId (by rw [worker]; rfl) participant member named
              have own : SameDigest participant
                  (finishCommit canonicalSha256 now c.operation participant sensor status reply).1 :=
                finishCommit_sameDigest now c.operation participant sensor status reply
              obtain ⟨digest, eq⟩ := Option.ne_none_iff_exists'.mp held
              refine explained_record _ _ fun state => ⟨if status then .status else .commit digest, reply, ?_,
                finishCommit_attention held state _⟩
              rw [own.1, named, eq]
              cases status <;> exact List.mem_singleton_self _
  · exact explained_keep rfl rfl

theorem act_explained (grounded : Grounded canonicalSha256 origin c) (orderly : Orderly canonicalSha256 origin c)
    (done : c.operation.Committed) (action : Action Digest) :
    Explained canonicalSha256 c (c.act canonicalSha256 action) := by
  have uncancelled : ¬ Coordination.Cancelling c.operation := by
    intro cancelling
    have flag := (orderly.phase done).2
    rw [cancelling.2] at flag
    cases flag
  have whenIdle : ∀ {guard : DataResetOperation → Prop} [DecidablePred guard]
      {effect : DataResetOperation → DataResetOperation},
      (effect c.operation).participants = c.operation.participants →
      Explained canonicalSha256 c (c.whenIdle guard effect) := by
    intro guard _ effect participants
    rw [Coordination.whenIdle]
    split
    · exact explained_keep rfl participants
    · exact explained_keep rfl rfl
  cases action with
  | cancelDataReset =>
      refine explained_keep rfl ?_
      rcases markCancelRequested_cases c.operation with kept | ⟨_, fresh, _⟩
      · exact congrArg DataResetOperation.participants kept
      · exact absurd done fresh
  | retryDataReset =>
      refine explained_keep rfl ?_
      rcases retryResetOperation_cases c.operation with kept | ⟨_, _, labels, _⟩
      · exact congrArg DataResetOperation.participants kept
      · exact labels.participants
  | beginPass =>
      rw [Coordination.act, Coordination.beginPass]
      split_ifs <;> exact explained_keep rfl rfl
  | takeUp now sensor => exact takeUp_explained orderly done now sensor
  | reply now sensor reply => exact recordReply_explained grounded now sensor reply
  | finishPass db now costs =>
      rw [Coordination.act, Coordination.finishPass]
      split
      · exact explained_keep rfl (finishPreparing_labels c.operation).participants
      · exact explained_keep rfl (finishCommitting_labels c.operation db now costs).1.participants
      · exact explained_keep rfl rfl
  | requestBackup backupId => exact whenIdle (requestBackup_labels c.operation backupId).participants
  | checkBackup evidence => exact whenIdle (checkBackup_labels c.operation evidence).participants
  | centralReset db now scope purge =>
      rw [Coordination.act, Coordination.whenIdle, if_neg fun held => held.2.2.2 done]
      exact explained_keep rfl rfl
  | purgeArtifacts purged =>
      rw [Coordination.act]
      exact whenIdle (purgeAgain_labels c.operation purged).participants
  | beginSensorCommit =>
      rw [Coordination.act]
      exact whenIdle rfl
  | cancelOperation now answers restored =>
      rw [Coordination.act, if_neg fun held => uncancelled held.2]
      exact explained_keep rfl rfl
  | cancelCrash answers reached =>
      rw [Coordination.act, if_neg fun held => uncancelled held.2]
      exact explained_keep rfl rfl
  | crash => exact explained_keep rfl rfl

end Attention

/-! ## Runs -/

section Runs
variable {Digest : Type} [DecidableEq Digest] (canonicalSha256 : Canonical → Digest)

theorem start_grounded (id : String) (plan : DataResetPlan) (key : String) (request : ExecutionRequest) :
    Grounded canonicalSha256 (newOperation id plan key request)
      (.start (newOperation id plan key request) : Coordination Digest) where
  rows := by
    intro participant inside missing
    obtain ⟨snapshot, _, rfl⟩ := List.mem_map.mp inside
    cases planned : snapshot.classification <;> rw [initialParticipant, planned] <;> rfl
  commits := fun deviceId current => by cases current
  payloads := fun deviceId digest member => by cases member

theorem skipsPrepare_payload {c : Coordination Digest} {action : Action Digest} (skips : SkipsPrepare c action) :
    ∃ deviceId, .payload deviceId none ∈ (c.act canonicalSha256 action).log := by
  cases action with
  | takeUp now sensor =>
      obtain ⟨deviceId, remaining, participant, worker, found, serving, missing, state⟩ := skips
      have unsettled : ¬ participant.Settled := by
        rcases state with state | state | state <;> simp [DataResetParticipant.Settled, state]
      have late : ¬ NeedsPrepare participant.state := by
        rcases state with state | state | state <;> rw [state] <;> decide
      have fresh : asksStatus participant = false := by
        rcases state with state | state | state <;> simp [asksStatus, state]
      refine ⟨participant.deviceId, ?_⟩
      rw [Coordination.act, Coordination.takeUp, worker]
      dsimp only
      rw [found]
      dsimp only
      rw [if_neg unsettled, if_neg (not_not.mpr serving), if_neg late, Coordination.beginCommit, fresh, missing]
      exact List.mem_append_right _ List.mem_cons_self
  | _ => exact skips.elim

theorem run_log (c : Coordination Digest) (actions : List (Action Digest)) {event : Event Digest}
    (member : event ∈ c.log) : event ∈ (c.run canonicalSha256 actions).log := by
  refine foldl_invariant (P := fun state : Coordination Digest => event ∈ state.log) member
    (fun state action kept => ?_) actions
  have appends : Appends state (state.act canonicalSha256 action) := act_appends action
  obtain ⟨events, log, _⟩ := appends
  rw [log]
  exact List.mem_append_left events kept

end Runs

/-! ## A late sensor that answers asynchronously -/

/-- A sensor is away during the central commit. When it returns it answers that it is preparing, and the
next pass asks it to commit. -/
def queuedPrepare : List (Action Canonical) :=
  [.beginPass,
    .takeUp 2 meter,
    .reply 3 meter (.error { code := "sensor_reset_unreachable", summary := "" }),
    .finishPass meterSite 3 .notRequired,
    .requestBackup "backup",
    .centralReset meterSite 4 (.ok ()) .done,
    .beginSensorCommit,
    .beginPass,
    .takeUp 5 meter,
    .reply 5 meter (.ok { state := .preparing }),
    .finishPass meterSite 5 .notRequired,
    .beginPass,
    .takeUp 6 meter,
    .reply 6 meter (.ok { state := .preparing })]

end PowerMonitor.DataReset
