import PowerMonitor.Ingestion.Gate
import PowerMonitor.Ingestion.Messages

/-! What a sensor that the gate holds back can still write.

While a data reset is under way the deletion inventory of the approved plan is counted a second time,
so a held-back sensor must add no measurement. The device heartbeat, the reading service and the event
route each look at the gate of the data state; the heartbeat of a headless agent does not, and the event
route does not look at the flag that asks for a reset on reconnect.
-/

set_option autoImplicit false
namespace PowerMonitor.Ingestion
open Library

/-! ## Held-back messages -/

/-- A generation that a message claims for its data. -/
def Message.Reports (generation : Nat) : Message → Prop
  | .heartbeat payload => payload.dataGeneration.getD 0 = generation
  | .agentHeartbeat payload => payload.resetGeneration = generation
  | .readings batch => batch.dataGeneration = some generation ∨
      ∃ reading ∈ batch.readings, reading.dataGeneration = generation
  | .events batch => batch.dataGeneration = generation

/-- The data state closes the gate, asks for a reset or commits another generation than the message. -/
def HeldBack (state : Option DeviceDataState) (message : Message) : Prop :=
  ∃ row ∈ state, row.ingestionGate ≠ .opened ∨ row.resetRequiredOnReconnect = true ∨
    ∃ generation, message.Reports generation ∧ generation ≠ row.dataGeneration

theorem heartbeatRejection_heldBack {payload : Heartbeat} {row : DeviceDataState}
    (held : row.ingestionGate ≠ .opened ∨ row.resetRequiredOnReconnect = true ∨
      payload.dataGeneration.getD 0 ≠ row.dataGeneration) :
    ∃ problem, heartbeatRejection payload row = some problem := by
  unfold heartbeatRejection
  dsimp only
  by_cases closed : row.ingestionGate ≠ .opened ∨ row.resetRequiredOnReconnect = true
  · exact ⟨_, if_pos closed⟩
  · have differs : payload.dataGeneration.getD 0 ≠ row.dataGeneration := by tauto
    rw [if_neg closed]
    split
    · exact ⟨_, rfl⟩
    · split
      · exact ⟨_, rfl⟩
      · next notBelow =>
          rw [if_pos (lt_of_le_of_ne (not_lt.mp notBelow) differs.symm)]
          exact ⟨_, rfl⟩

/-- The generation taken from a batch is every generation the batch reports. -/
theorem suppliedGeneration_reports {readings : List Reading} {batchGeneration claimed : Option Nat} {generation : Nat}
    (ok : suppliedGeneration readings batchGeneration = .ok claimed)
    (reported : batchGeneration = some generation ∨ ∃ reading ∈ readings, reading.dataGeneration = generation) :
    claimed = some generation := by
  rw [suppliedGeneration] at ok
  obtain ⟨single, ok⟩ := raiseIf_bind_eq_ok.mp ok
  obtain ⟨agree, ok⟩ := raiseIf_bind_eq_ok.mp ok
  have value : batchGeneration.or (readings.map Reading.dataGeneration).dedup.head? = claimed := Except.ok.inj ok
  cases reported with
  | inl given =>
      rw [← value, given]
      rfl
  | inr given =>
      obtain ⟨reading, member, rfl⟩ := given
      have listed : reading.dataGeneration ∈ (readings.map Reading.dataGeneration).dedup :=
        List.mem_dedup.mpr (List.mem_map.mpr ⟨reading, member, rfl⟩)
      obtain ⟨only, shape⟩ : ∃ only, (readings.map Reading.dataGeneration).dedup = [only] :=
        List.length_eq_one_iff.mp (le_antisymm (not_lt.mp single) (List.length_pos_of_mem listed))
      rw [shape, List.mem_singleton] at listed
      rw [shape, ← listed] at value agree
      cases batchGeneration with
      | none => exact value.symm
      | some own =>
          have same : some own = some reading.dataGeneration := by
            by_contra differs
            exact agree ⟨rfl, rfl, differs⟩
          rw [← value, same]
          rfl

/-- A batch through the gate claims the generation of the data state. -/
theorem enforceDataGenerationGate_reported {row : DeviceDataState} {readings : List Reading}
    {batchGeneration : Option Nat} {ranges : List UnavailableSequenceRange} {accepted generation : Nat}
    (passed : enforceDataGenerationGate (some row) readings batchGeneration ranges = .ok accepted)
    (reported : batchGeneration = some generation ∨ ∃ reading ∈ readings, reading.dataGeneration = generation) :
    generation = row.dataGeneration := by
  rw [enforceDataGenerationGate] at passed
  obtain ⟨_, passed⟩ := raiseIf_bind_eq_ok.mp passed
  obtain ⟨claimed, supplied, passed⟩ := bind_eq_ok.mp passed
  obtain ⟨_, passed⟩ := raiseIf_bind_eq_ok.mp passed
  obtain ⟨notBelow, passed⟩ := raiseIf_bind_eq_ok.mp passed
  obtain ⟨notAbove, _⟩ := raiseIf_bind_eq_ok.mp passed
  rw [suppliedGeneration_reports supplied reported] at notBelow notAbove
  exact le_antisymm (not_lt.mp notAbove) (not_lt.mp notBelow)

theorem ingestReadings_heldBack {readingContentHash : Reading → String} {store : DeviceStore} {batch : Batch}
    {now : Int} (held : HeldBack store.dataState (.readings batch)) :
    ∃ problem, ingestReadings readingContentHash store batch now = .error problem := by
  cases outcome : ingestReadings readingContentHash store batch now with
  | error problem => exact ⟨problem, rfl⟩
  | ok result =>
      exfalso
      obtain ⟨_, accepted, _, _, gate, _⟩ := ingestReadings_ok.mp outcome
      obtain ⟨row, found, shut⟩ := held
      have opened := (enforceDataGenerationGate_admitted gate).opened row found
      rw [found] at gate
      rcases shut with closed | flagged | ⟨generation, reported, differs⟩
      · exact closed opened.1
      · rw [opened.2] at flagged
        cases flagged
      · exact differs (enforceDataGenerationGate_reported gate reported)

/-! ## Measurements in the stored rows -/

/-- A live column or the stored payload holds a measurement. -/
def DeviceHeartbeat.Measures (row : DeviceHeartbeat) : Prop :=
  row.currentWatts.isSome = true ∨ row.currentVoltageVolts.isSome = true ∨ row.currentAmps.isSome = true ∨
    row.currentPowerFactor.isSome = true ∨ row.currentFrequencyHz.isSome = true ∨
    row.currentEnergyWh.isSome = true ∨ row.latest.isSome = true

section Silent
variable (lower redactText : String → String)

/-- The evidence is the result of a redaction. -/
def Redacted (evidence : Json) : Prop := ∃ original, evidence = redactHistoryValues lower redactText original

/-- Between two states of the rows no measurement has been stored. -/
structure Silent (before after : DeviceRows) : Prop where
  readings : after.store.rawReadings = before.store.rawReadings
  heartbeats : ∃ fresh, after.heartbeats = before.heartbeats ++ fresh ∧ ∀ row ∈ fresh, ¬ row.Measures
  events : ∀ event ∈ after.events,
    (∃ old ∈ before.events, old.eventId = event.eventId ∧ old.evidence = event.evidence) ∨
      Redacted lower redactText event.evidence

/-- An accepted agent heartbeat that carries a live measurement. -/
def AgentHeartbeat.Measures (payload : AgentHeartbeat) : Prop :=
  payload.sequences.Valid ∧ payload.latest.isSome = true

instance (payload : AgentHeartbeat) : Decidable payload.Measures := inferInstanceAs (Decidable (_ ∧ _))

/-- An accepted event batch with a new event whose evidence is stored as it came. -/
def DeviceEventBatch.Exposes (rows : DeviceRows) (batch : DeviceEventBatch) (now : Int) : Prop :=
  ¬ SequenceConflict batch.events ∧ Insertable (eventRows lower redactText rows batch now) ∧
    ∃ event ∈ batch.events, ¬ rows.Holds event.eventId ∧ ¬ Redacts rows batch event ∧
      ¬ Redacted lower redactText event.evidence

/-- The messages through which a held-back sensor stores a measurement. -/
def Leaks (rows : DeviceRows) (now : Int) : Message → Prop
  | .agentHeartbeat payload => payload.Measures
  | .events batch => batch.Exposes lower redactText rows now
  | .heartbeat _ | .readings _ => False

theorem Silent.refl (rows : DeviceRows) : Silent lower redactText rows rows :=
  ⟨rfl, ⟨[], (List.append_nil _).symm, fun _ => (List.not_mem_nil · |>.elim)⟩,
    fun event member => .inl ⟨event, member, rfl, rfl⟩⟩

end Silent

/-! ## One message -/

/-- The row an agent heartbeat stores. -/
def agentRow (rows : DeviceRows) (payload : AgentHeartbeat) (now : Int) : DeviceHeartbeat :=
  { receivedAt := now
    deviceTime := payload.latest.bind LiveMeasurement.measuredAt
    currentWatts := payload.latest.map LiveMeasurement.powerW
    currentVoltageVolts := payload.latest.map LiveMeasurement.voltageV
    currentAmps := payload.latest.map LiveMeasurement.currentA
    currentPowerFactor := payload.latest.map LiveMeasurement.powerFactor
    currentFrequencyHz := payload.latest.map LiveMeasurement.frequencyHz
    currentEnergyWh := payload.latest.map LiveMeasurement.energyWh
    dataGeneration := payload.resetGeneration
    newestSequence := payload.sequences.newestStoredSequence
    backlogEstimate := payload.sequences.newestSyncableSequence -
      max (rows.store.cursor.getD (freshCursor payload.resetGeneration now)).highestContiguousSequence
        payload.sequences.serverAcknowledgement
    latest := payload.latest }

theorem agentRow_measures (rows : DeviceRows) (payload : AgentHeartbeat) (now : Int) :
    (agentRow rows payload now).Measures ↔ payload.latest.isSome = true := by
  simp [DeviceHeartbeat.Measures, agentRow]

section OneMessage
variable {readingContentHash : Reading → String} {lower redactText : String → String} {rows : DeviceRows} {now : Int}

theorem process_heartbeat_heldBack {payload : Heartbeat} (held : HeldBack rows.store.dataState (.heartbeat payload)) :
    ∃ row, (process readingContentHash lower redactText rows (.heartbeat payload) now).1 =
      recordGatedHeartbeat rows payload row now := by
  obtain ⟨row, found, shut⟩ := held
  obtain ⟨problem, rejected⟩ := @heartbeatRejection_heldBack payload row (by
    rcases shut with closed | flagged | ⟨generation, reported, differs⟩
    · exact .inl closed
    · exact .inr (.inl flagged)
    · exact .inr (.inr (reported.symm ▸ differs)))
  refine ⟨row, ?_⟩
  have state : rows.store.dataState = some row := found
  simp only [process, heartbeat, state, Option.bind_some, rejected, Option.map_some]

theorem process_readings_heldBack {batch : Batch} (held : HeldBack rows.store.dataState (.readings batch)) :
    (process readingContentHash lower redactText rows (.readings batch) now).1 = rows := by
  obtain ⟨problem, rejected⟩ := @ingestReadings_heldBack readingContentHash _ _ now held
  simp only [process, rejected]

theorem process_agentHeartbeat_invalid {payload : AgentHeartbeat} (invalid : ¬ payload.sequences.Valid) :
    (process readingContentHash lower redactText rows (.agentHeartbeat payload) now).1 = rows := by
  simp only [process, agentHeartbeat, invalid, not_false_eq_true, if_true]

/-- An accepted agent heartbeat, whatever the data state holds. -/
theorem process_agentHeartbeat_valid {payload : AgentHeartbeat} (valid : payload.sequences.Valid) :
    ∃ cursor events, (process readingContentHash lower redactText rows (.agentHeartbeat payload) now).1 =
      { rows with
        store := { rows.store with cursor := cursor }
        heartbeats := rows.heartbeats ++ [agentRow rows payload now]
        events := events } ∧ (payload.latest = none → events = rows.events) := by
  simp only [process, agentHeartbeat, valid, not_true_eq_false, if_false]
  refine ⟨_, _, rfl, fun absent => ?_⟩
  rw [absent]
  simp

theorem process_events (batch : DeviceEventBatch) :
    (process readingContentHash lower redactText rows (.events batch) now).1 =
      if ¬ SequenceConflict batch.events ∧ Insertable (eventRows lower redactText rows batch now) then
        { rows with
          events := eventRows lower redactText rows batch now
          eventCursor := some (advanceEvents batch (eventRows lower redactText rows batch now) rows.eventCursor) }
      else rows := by
  by_cases stored : ¬ SequenceConflict batch.events ∧ Insertable (eventRows lower redactText rows batch now)
  · obtain ⟨response, ok⟩ : ∃ response, eventBatch lower redactText rows batch now =
        .ok ({ rows with
          events := eventRows lower redactText rows batch now
          eventCursor := some (advanceEvents batch (eventRows lower redactText rows batch now) rows.eventCursor) },
          response) :=
      ⟨_, raiseIf_bind_eq_ok.mpr ⟨stored.1, raiseIf_bind_eq_ok.mpr ⟨not_not.mpr stored.2, rfl⟩⟩⟩
    rw [if_pos stored]
    simp only [process, ok]
  · rw [if_neg stored]
    cases outcome : eventBatch lower redactText rows batch now with
    | error problem => simp only [process, outcome]
    | ok result =>
        rw [eventBatch] at outcome
        obtain ⟨free, outcome⟩ := raiseIf_bind_eq_ok.mp outcome
        obtain ⟨insertable, _⟩ := raiseIf_bind_eq_ok.mp outcome
        exact absurd ⟨free, not_not.mp insertable⟩ stored

/-- A stored batch is silent when redaction covers the evidence of every new event. -/
theorem eventRows_silent_iff {batch : DeviceEventBatch} {cursor : Option EventCursor} :
    Silent lower redactText rows
      { rows with events := eventRows lower redactText rows batch now, eventCursor := cursor } ↔
    ∀ event ∈ batch.events, ¬ rows.Holds event.eventId →
      Redacts rows batch event ∨ Redacted lower redactText event.evidence := by
  constructor
  · intro silent event member fresh
    by_contra exposed
    obtain ⟨open_, plain⟩ := not_or.mp exposed
    have filed : storeEvent lower redactText rows batch now event ∈ eventRows lower redactText rows batch now :=
      List.mem_append.mpr (.inr (List.mem_map.mpr
        ⟨event, List.mem_filter.mpr ⟨member, decide_eq_true fresh⟩, rfl⟩))
    rcases silent.events _ filed with ⟨old, held, same, _⟩ | redaction
    · exact fresh ⟨old, held, same⟩
    · rw [storeEvent, if_neg open_] at redaction
      exact plain redaction
  · intro covered
    refine ⟨rfl, ⟨[], (List.append_nil _).symm, fun _ => (List.not_mem_nil · |>.elim)⟩, ?_⟩
    intro stored member
    rcases List.mem_append.mp member with kept | filed
    · obtain ⟨old, held, rfl⟩ := List.mem_map.mp kept
      exact .inl ⟨old, held, rfl, rfl⟩
    · obtain ⟨event, chosen, rfl⟩ := List.mem_map.mp filed
      obtain ⟨inBatch, fresh⟩ := List.mem_filter.mp chosen
      refine .inr ?_
      rw [storeEvent]
      by_cases redacts : Redacts rows batch event
      · rw [if_pos redacts]
        exact ⟨event.evidence, rfl⟩
      · rw [if_neg redacts]
        exact (covered event inBatch (of_decide_eq_true fresh)).resolve_left redacts

/-- A held-back message stores no measurement exactly when it is not one of the leaking kinds. -/
theorem process_silent_iff {message : Message} (held : HeldBack rows.store.dataState message) :
    Silent lower redactText rows (process readingContentHash lower redactText rows message now).1 ↔
      ¬ Leaks lower redactText rows now message := by
  cases message with
  | heartbeat payload =>
      obtain ⟨row, after⟩ := process_heartbeat_heldBack held
      rw [after]
      refine iff_of_true ⟨rfl, ⟨_, rfl, ?_⟩, fun event member => .inl ⟨event, member, rfl, rfl⟩⟩ not_false
      intro gated member
      rw [List.mem_singleton.mp member]
      simp [DeviceHeartbeat.Measures]
  | readings batch =>
      rw [process_readings_heldBack held]
      exact iff_of_true (Silent.refl lower redactText rows) not_false
  | agentHeartbeat payload =>
      by_cases valid : payload.sequences.Valid
      · obtain ⟨cursor, events, after, plain⟩ := @process_agentHeartbeat_valid readingContentHash lower redactText
          rows now payload valid
        rw [after]
        constructor
        · rintro ⟨_, ⟨fresh, appended, quiet⟩, _⟩ ⟨_, measures⟩
          -- the appended row is the one the agent sent
          have row : [agentRow rows payload now] = fresh := List.append_cancel_left appended
          refine quiet _ (row ▸ List.mem_singleton_self _) ?_
          exact (agentRow_measures rows payload now).mpr measures
        · intro quiet
          have absent : payload.latest = none := by
            rw [← Option.not_isSome_iff_eq_none]
            exact fun measures => quiet ⟨valid, measures⟩
          refine ⟨rfl, ⟨_, rfl, fun row member => ?_⟩, fun event member => ?_⟩
          · rw [List.mem_singleton.mp member, agentRow_measures, absent]
            exact Bool.false_ne_true
          · rw [plain absent] at member
            exact .inl ⟨event, member, rfl, rfl⟩
      · rw [process_agentHeartbeat_invalid valid]
        exact iff_of_true (Silent.refl lower redactText rows) fun leak => valid leak.1
  | events batch =>
      rw [process_events]
      split
      · next stored =>
          rw [eventRows_silent_iff]
          constructor
          · rintro covered ⟨_, _, event, member, fresh, open_, plain⟩
            exact (covered event member fresh).elim open_ plain
          · intro quiet event member fresh
            by_contra exposed
            obtain ⟨open_, plain⟩ := not_or.mp exposed
            exact quiet ⟨stored.1, stored.2, event, member, fresh, open_, plain⟩
      · next rejected =>
          exact iff_of_true (Silent.refl lower redactText rows) fun leak => rejected ⟨leak.1, leak.2.1⟩

end OneMessage

/-! ## The deletion inventory -/

/-- What the inventory of a plan counts: the site with its accounts, the instants at which the sensor was
assigned to the site, and the reset instant. -/
structure DeletionScope where
  siteId : String
  accounts : List String
  assigned : Int → Bool
  resetAt : Int

/-- The counts over rows that a message of a sensor can touch. -/
structure DeletionCounts where
  rawReadings : Nat
  normalizedIntervals : Nat
  deviceHeartbeats : Nat
  deviceStatusSnapshots : Nat
  sequenceGaps : Nat
  billingCycles : Nat
  deriving DecidableEq, Repr

def DeletionCounts.addHeartbeats (counts : DeletionCounts) (more : Nat) : DeletionCounts :=
  { counts with deviceHeartbeats := counts.deviceHeartbeats + more }

theorem DeletionCounts.addHeartbeats_add (counts : DeletionCounts) (first second : Nat) :
    (counts.addHeartbeats first).addHeartbeats second = counts.addHeartbeats (first + second) := by
  simp only [addHeartbeats, Nat.add_assoc]

theorem DeletionCounts.addHeartbeats_eq_self {counts : DeletionCounts} {more : Nat} :
    counts.addHeartbeats more = counts ↔ more = 0 := by
  constructor
  · intro same
    exact Nat.add_eq_left.mp (congrArg DeletionCounts.deviceHeartbeats same)
  · rintro rfl
    rfl

namespace DeletionScope
variable (scope : DeletionScope)

def countsHeartbeat (row : DeviceHeartbeat) : Bool :=
  scope.assigned row.receivedAt && (decide (row.receivedAt ≤ scope.resetAt) || row.currentWatts.isSome)

def countsSnapshot (row : DeviceStatusSnapshot) : Bool :=
  scope.assigned row.capturedAt && decide (row.capturedAt ≤ scope.resetAt)

/-- The counts of `calculate_plan_snapshot`. -/
def counts (rows : DeviceRows) : DeletionCounts :=
  let raw := rows.store.rawReadings.filter fun row => row.siteId = scope.siteId
  { rawReadings := raw.length
    normalizedIntervals := rows.store.normalizedIntervals.countP fun row =>
      decide (row.rawReading ∈ raw.map RawReading.sequence)
    deviceHeartbeats := rows.heartbeats.countP scope.countsHeartbeat
    deviceStatusSnapshots := rows.statusSnapshots.countP scope.countsSnapshot
    sequenceGaps := rows.store.sequenceGaps.countP fun gap =>
      scope.assigned gap.detectedAt && decide (gap.detectedAt ≤ scope.resetAt)
    billingCycles := rows.store.billingCycles.countP fun cycle =>
      scope.accounts.contains cycle.utilityAccountId && decide (cycle.startsAt < scope.resetAt) }

/-- A message whose heartbeat row the inventory counts even after the reset instant. -/
def Counts (message : Message × Int) : Prop :=
  match message with
  | (.agentHeartbeat payload, now) => payload.Measures ∧ scope.assigned now = true
  | _ => False

instance (message : Message × Int) : Decidable (scope.Counts message) :=
  match message with
  | (.agentHeartbeat payload, now) => inferInstanceAs (Decidable (payload.Measures ∧ scope.assigned now = true))
  | (.heartbeat _, _) | (.readings _, _) | (.events _, _) => inferInstanceAs (Decidable False)

variable {scope}

/-- Rows after the reset instant enter the inventory through their live power only. -/
theorem counts_after {rows after : DeviceRows} {fresh : List DeviceHeartbeat} {captured : List DeviceStatusSnapshot}
    {cursor : Option SyncCursor} (store : after.store = { rows.store with cursor := cursor })
    (heartbeats : after.heartbeats = rows.heartbeats ++ fresh)
    (snapshots : after.statusSnapshots = rows.statusSnapshots ++ captured)
    (later : ∀ row ∈ captured, scope.resetAt < row.capturedAt) :
    scope.counts after = (scope.counts rows).addHeartbeats (fresh.countP scope.countsHeartbeat) := by
  have uncounted : captured.countP scope.countsSnapshot = 0 := by
    refine List.countP_eq_zero.mpr fun row member => ?_
    simp [countsSnapshot, later row member]
  simp only [counts, store, heartbeats, snapshots, List.countP_append, uncounted, Nat.add_zero,
    DeletionCounts.addHeartbeats]

end DeletionScope

section Runs
variable {readingContentHash : Reading → String} {lower redactText : String → String} {scope : DeletionScope}

/-- What a held-back message appends to the rows. -/
theorem process_heldBack_frame {rows : DeviceRows} {message : Message} {now : Int}
    (held : HeldBack rows.store.dataState message) (later : scope.resetAt < now) :
    ∃ cursor fresh captured,
      (process readingContentHash lower redactText rows message now).1.store = { rows.store with cursor := cursor } ∧
      (process readingContentHash lower redactText rows message now).1.heartbeats = rows.heartbeats ++ fresh ∧
      (process readingContentHash lower redactText rows message now).1.statusSnapshots =
        rows.statusSnapshots ++ captured ∧
      (∀ row ∈ captured, scope.resetAt < row.capturedAt) ∧
      fresh.countP scope.countsHeartbeat = if scope.Counts (message, now) then 1 else 0 := by
  have unchanged : ∀ after : DeviceRows, after = rows →
      after.store = { rows.store with cursor := rows.store.cursor } ∧ after.heartbeats = rows.heartbeats ++ [] ∧
        after.statusSnapshots = rows.statusSnapshots ++ [] ∧
        ∀ row ∈ ([] : List DeviceStatusSnapshot), scope.resetAt < row.capturedAt := by
    rintro _ rfl
    simp
  cases message with
  | heartbeat payload =>
      obtain ⟨row, after⟩ := process_heartbeat_heldBack held
      rw [after]
      refine ⟨rows.store.cursor, _, _, rfl, rfl, rfl, ?_, ?_⟩
      · intro row member
        rw [List.mem_singleton.mp member]
        exact later
      · simp [DeletionScope.countsHeartbeat, DeletionScope.Counts, later]
  | readings batch =>
      have kept := unchanged _ (@process_readings_heldBack readingContentHash lower redactText rows now batch held)
      exact ⟨_, _, _, kept.1, kept.2.1, kept.2.2.1, kept.2.2.2, rfl⟩
  | agentHeartbeat payload =>
      by_cases valid : payload.sequences.Valid
      · obtain ⟨cursor, events, after, _⟩ := @process_agentHeartbeat_valid readingContentHash lower redactText
          rows now payload valid
        rw [after]
        refine ⟨cursor, _, [], rfl, rfl, (List.append_nil _).symm, fun _ => (List.not_mem_nil · |>.elim), ?_⟩
        have power : scope.countsHeartbeat (agentRow rows payload now) = true ↔
            payload.Measures ∧ scope.assigned now = true := by
          have after : ¬ now ≤ scope.resetAt := not_le.mpr later
          simp [DeletionScope.countsHeartbeat, agentRow, AgentHeartbeat.Measures, valid, after, and_comm]
        rw [List.countP_singleton]
        exact if_congr power rfl rfl
      · have kept := unchanged _ (@process_agentHeartbeat_invalid readingContentHash lower redactText rows now
          payload valid)
        refine ⟨_, _, _, kept.1, kept.2.1, kept.2.2.1, kept.2.2.2, ?_⟩
        rw [if_neg fun counted => valid counted.1.1]
        rfl
  | events batch =>
      rw [process_events]
      refine ⟨rows.store.cursor, [], [], ?_⟩
      split <;> simp [DeletionScope.Counts]

/-- A run of held-back messages adds to the heartbeat count what its agents measured. -/
theorem processAll_counts {rows : DeviceRows} {messages : List (Message × Int)}
    (held : ∀ message ∈ messages, HeldBack rows.store.dataState message.1 ∧ scope.resetAt < message.2) :
    scope.counts (processAll readingContentHash lower redactText rows messages) =
      (scope.counts rows).addHeartbeats (messages.countP fun message => decide (scope.Counts message)) := by
  induction messages generalizing rows with
  | nil => rfl
  | cons message rest ih =>
      have first := held message List.mem_cons_self
      obtain ⟨cursor, fresh, captured, store, heartbeats, snapshots, later, counted⟩ :=
        @process_heldBack_frame readingContentHash lower redactText scope rows message.1 message.2 first.1 first.2
      -- the data state that holds the rest back is still the same
      have state : (process readingContentHash lower redactText rows message.1 message.2).1.store.dataState =
          rows.store.dataState := by
        rw [store]
      have tail := @ih (process readingContentHash lower redactText rows message.1 message.2).1 fun other member => by
        rw [state]
        exact held other (List.mem_cons_of_mem _ member)
      have step := DeletionScope.counts_after store heartbeats snapshots later
      rw [step, counted, DeletionCounts.addHeartbeats_add, Nat.add_comm] at tail
      rw [List.countP_cons]
      simp only [decide_eq_true_eq]
      exact tail

theorem processAll_counts_iff {rows : DeviceRows} {messages : List (Message × Int)}
    (held : ∀ message ∈ messages, HeldBack rows.store.dataState message.1 ∧ scope.resetAt < message.2) :
    scope.counts (processAll readingContentHash lower redactText rows messages) = scope.counts rows ↔
      ∀ message ∈ messages, ¬ scope.Counts message := by
  rw [processAll_counts held, DeletionCounts.addHeartbeats_eq_self, List.countP_eq_zero]
  simp only [decide_eq_true_eq]

end Runs

/-- Held-back messages store no measurement and leave the deletion counts alone, apart from the two leaks:
an agent heartbeat with a measurement, and an event that no condition of the event route redacts. -/
theorem held_back_silence (readingContentHash : Reading → String) (lower redactText : String → String) :
    (∀ rows message now, HeldBack rows.store.dataState message →
      (Silent lower redactText rows (process readingContentHash lower redactText rows message now).1 ↔
        ¬ Leaks lower redactText rows now message)) ∧
    ∀ (scope : DeletionScope) rows messages,
      (∀ message ∈ messages, HeldBack rows.store.dataState message.1 ∧ scope.resetAt < message.2) →
      (scope.counts (processAll readingContentHash lower redactText rows messages) = scope.counts rows ↔
        ∀ message ∈ messages, ¬ scope.Counts message) :=
  ⟨fun _ _ _ held => process_silent_iff held, fun _ _ _ held => processAll_counts_iff held⟩

/-- A sensor behind a closed gate, a live measurement, and the site whose reset is under way. -/
def blockedSensor : DeviceRows := { store := { dataState := some { ingestionGate := .blocked } } }

def liveMeasurement : LiveMeasurement := ⟨none, 120, 2, 240, 1, 60, 1000⟩

def blockedSite : DeletionScope := { siteId := "site-1", accounts := [], assigned := fun _ => true, resetAt := 0 }

theorem blockedSensor_heldBack (message : Message) : HeldBack blockedSensor.store.dataState message :=
  ⟨_, rfl, .inl (by decide)⟩

theorem held_back_silence_heartbeat :
    Silent id id blockedSensor (process (fun _ => "") id id blockedSensor
      (.heartbeat { dataGeneration := some 0, latest := some liveMeasurement, newestStoredSequence := 1
                    backlogEstimate := 0, status := "online" }) 1).1 :=
  ((held_back_silence (fun _ => "") id id).1 _ _ _ (blockedSensor_heldBack _)).mpr not_false

def liveAgent : AgentHeartbeat :=
  { bootId := "boot-1", resetGeneration := 0, sequences := ⟨0, 0, 0, 1, 0, 0⟩, latest := some liveMeasurement }

/-- The headless agent of a blocked sensor stores its live measurement, and the inventory of the plan
counts the row. -/
theorem blockedSensor_leaks :
    (¬ ∀ rows message now, HeldBack rows.store.dataState message →
      Silent id id rows (process (fun _ => "") id id rows message now).1) ∧
    ¬ ∀ (scope : DeletionScope) rows messages,
      (∀ message ∈ messages, HeldBack rows.store.dataState message.1 ∧ scope.resetAt < message.2) →
      scope.counts (processAll (fun _ => "") id id rows messages) = scope.counts rows := by
  constructor
  · intro silent
    have stored := silent blockedSensor (.agentHeartbeat liveAgent) 1 (blockedSensor_heldBack _)
    exact (process_silent_iff (blockedSensor_heldBack _)).mp stored ⟨by decide, rfl⟩
  · intro unchanged
    have held : ∀ message ∈ [(Message.agentHeartbeat liveAgent, (1 : Int))],
        HeldBack blockedSensor.store.dataState message.1 ∧ blockedSite.resetAt < message.2 := by
      intro message member
      rw [List.mem_singleton.mp member]
      exact ⟨blockedSensor_heldBack _, by decide⟩
    have same := unchanged blockedSite blockedSensor _ held
    exact (processAll_counts_iff held).mp same _ (List.mem_singleton_self _) ⟨⟨by decide, rfl⟩, rfl⟩

end PowerMonitor.Ingestion
