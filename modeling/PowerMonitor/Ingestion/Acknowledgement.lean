import PowerMonitor.Ingestion.Messages
import PowerMonitor.Ingestion.Safety

/-! What a reply lets the sensor forget.

A sensor drops the records up to the acknowledged sequence of a reply. The reading service and the
device heartbeat answer with the stored cursor; the heartbeat of a headless agent answers with the
larger of the cursor and the acknowledgement the agent itself claims.
-/

set_option autoImplicit false
namespace PowerMonitor.Ingestion
open Library

/-- The sequence a reply acknowledges to the sensor. -/
def Reply.acknowledged? : Reply → Option Nat
  | .heartbeat response => some response.highestContiguousAcceptedSequence
  | .agentHeartbeat response => some response.serverAcknowledgement
  | .readings response => some response.highestContiguousAcceptedSequence
  | .rejected | .events _ => none

/-- An acknowledgement claimed by an accepted heartbeat that the cursor does not reach. -/
def Message.Overclaims (rows : DeviceRows) : Message → Prop
  | .agentHeartbeat payload => payload.sequences.Valid ∧
      rows.store.highestContiguous < payload.sequences.serverAcknowledgement
  | .heartbeat _ | .readings _ | .events _ => False

theorem getD_freshCursor_highest (cursor : Option SyncCursor) (generation : Nat) (now : Int) :
    (cursor.getD (freshCursor generation now)).highestContiguousSequence =
      (cursor.map SyncCursor.highestContiguousSequence).getD 0 := by
  cases cursor with
  | none => rfl
  | some row => rfl

section Replies
variable {rows : DeviceRows} {now : Int}

theorem heartbeat_acknowledges {payload : Heartbeat} {after : DeviceRows} {response : HeartbeatResponse}
    (ok : heartbeat rows payload now = (after, .ok response)) :
    response.highestContiguousAcceptedSequence = after.store.highestContiguous := by
  unfold heartbeat at ok
  split at ok
  · cases (Prod.mk.inj ok).2
  · dsimp only at ok
    split at ok
    · cases (Prod.mk.inj ok).2
    · obtain ⟨rfl, answer⟩ := Prod.mk.inj ok
      rw [← Except.ok.inj answer]
      rfl

/-- The answer to an agent joins the stored cursor with the claim of the agent. -/
theorem agentHeartbeat_acknowledges {payload : AgentHeartbeat} {after : DeviceRows}
    {response : AgentHeartbeatResponse} (ok : agentHeartbeat rows payload now = (after, .ok response)) :
    payload.sequences.Valid ∧ after.store.highestContiguous = rows.store.highestContiguous ∧
      response.serverAcknowledgement = max rows.store.highestContiguous payload.sequences.serverAcknowledgement := by
  unfold agentHeartbeat at ok
  dsimp only at ok
  split at ok
  · cases (Prod.mk.inj ok).2
  · next valid =>
      obtain ⟨rfl, answer⟩ := Prod.mk.inj ok
      rw [← Except.ok.inj answer]
      have kept := getD_freshCursor_highest rows.store.cursor payload.resetGeneration now
      refine ⟨not_not.mp valid, kept, ?_⟩
      exact congrArg (max · payload.sequences.serverAcknowledgement) kept

theorem agentHeartbeat_answers {payload : AgentHeartbeat} (valid : payload.sequences.Valid) :
    ∃ after response, agentHeartbeat rows payload now = (after, .ok response) := by
  unfold agentHeartbeat
  rw [if_neg (not_not.mpr valid)]
  exact ⟨_, _, rfl⟩

end Replies

section Bound
variable (readingContentHash : Reading → String) (lower redactText : String → String)

/-- The acknowledged sequence of a reply stays within the cursor stored with it. -/
def AcknowledgesStored (rows : DeviceRows) (message : Message) (now : Int) : Prop :=
  ∀ acknowledged ∈ (process readingContentHash lower redactText rows message now).2.acknowledged?,
    acknowledged ≤ (process readingContentHash lower redactText rows message now).1.store.highestContiguous

theorem agentHeartbeat_acknowledgesStored (rows : DeviceRows) (payload : AgentHeartbeat) (now : Int) :
    AcknowledgesStored readingContentHash lower redactText rows (.agentHeartbeat payload) now ↔
      ¬ (Message.agentHeartbeat payload).Overclaims rows := by
  by_cases valid : payload.sequences.Valid
  · obtain ⟨after, response, answered⟩ := @agentHeartbeat_answers rows now payload valid
    obtain ⟨_, kept, joined⟩ := agentHeartbeat_acknowledges answered
    have reply : process readingContentHash lower redactText rows (.agentHeartbeat payload) now =
        (after, .agentHeartbeat response) := by
      simp only [process, answered]
    simp only [AcknowledgesStored, reply, Reply.acknowledged?, Option.mem_some_iff, forall_eq', joined, kept,
      max_le_iff, le_refl, true_and, Message.Overclaims, valid, not_lt]
  · -- an invalid claim is rejected and acknowledges nothing
    have rejected : agentHeartbeat rows payload now = (rows, .error sequenceEvidenceInvalid) := by
      unfold agentHeartbeat
      rw [if_pos valid]
    have reply : process readingContentHash lower redactText rows (.agentHeartbeat payload) now =
        (rows, .rejected) := by
      simp only [process, rejected]
    simp [AcknowledgesStored, reply, Reply.acknowledged?, Message.Overclaims, valid]

/-- A reply acknowledges at most the stored contiguous sequence exactly when it does not answer an
agent that claims more. -/
theorem acknowledges_only_stored (rows : DeviceRows) (message : Message) (now : Int) :
    AcknowledgesStored readingContentHash lower redactText rows message now ↔ ¬ message.Overclaims rows := by
  cases message with
  | agentHeartbeat payload => exact agentHeartbeat_acknowledgesStored readingContentHash lower redactText rows payload now
  | heartbeat payload =>
      refine iff_of_true ?_ not_false
      rw [AcknowledgesStored, process]
      split
      · next after response ok =>
          rintro acknowledged ⟨⟩
          exact (heartbeat_acknowledges ok).le
      · rintro acknowledged ⟨⟩
  | readings batch =>
      refine iff_of_true ?_ not_false
      rw [AcknowledgesStored, process]
      split
      · next final response ok =>
          obtain ⟨middle, step⟩ := ingestReadings_recalculated ok
          rintro acknowledged ⟨⟩
          exact step.highest.le
      · rintro acknowledged ⟨⟩
  | events batch =>
      refine iff_of_true ?_ not_false
      rw [AcknowledgesStored, process]
      split
      · rintro acknowledged ⟨⟩
      · rintro acknowledged ⟨⟩

end Bound

/-- A server restored without its cursor, and the agent that still remembers its acknowledgement. -/
def restoredServer : DeviceRows := { store := {} }

def remembersAcknowledgement : AgentHeartbeat :=
  { bootId := "boot-1"
    resetGeneration := 0
    sequences := ⟨0, 5, 5, 6, 5, 5⟩ }

/-- The agent is told that five records are safe that the server does not hold. -/
theorem restoredServer_overacknowledges :
    ¬ ∀ rows message now, AcknowledgesStored (fun _ => "") id id rows message now := by
  intro always
  exact absurd (always restoredServer (.agentHeartbeat remembersAcknowledgement) 0 5 (by rfl)) (by decide)

end PowerMonitor.Ingestion
