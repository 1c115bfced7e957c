import PowerMonitor.Ingestion.Messages
import PowerMonitor.Library.Dict

/-! The two event handlers, `event_batch` and `events` of the agent protocol, loop by loop.

Both receive events whose evidence the schema has checked, and check its sequence once more in their own
words. On such events their loops collect the same rows and sequences, so each stores what `eventBatch`
describes in closed form.
-/

set_option autoImplicit false
namespace PowerMonitor.Ingestion
open Library

/-- The value of `evidence.get("event_sequence")`. -/
inductive SequenceEvidence where
  | absent
  | boolean (value : Bool)
  | integer (value : Int)
  | other
  deriving DecidableEq, Repr

namespace SequenceEvidence

/-- `isinstance(value, int)`, which a boolean is too. -/
def isInt : SequenceEvidence → Bool
  | boolean _ | integer _ => true
  | absent | other => false

/-- `isinstance(value, bool)` -/
def isBool : SequenceEvidence → Bool
  | boolean _ => true
  | _ => false

def toInt : SequenceEvidence → Int
  | boolean value => if value then 1 else 0
  | integer value => value
  | absent | other => 0

/-- The test of the schema and of the device handler. -/
def Invalid (value : SequenceEvidence) : Prop :=
  value ≠ absent ∧ (value.isBool ∨ ¬ value.isInt ∨ ¬ (1 ≤ value.toInt ∧ value.toInt ≤ signedBigintMax))

instance (value : SequenceEvidence) : Decidable value.Invalid := inferInstanceAs (Decidable (_ ∧ _))

end SequenceEvidence

/-- An event that `valid_event_sequence_evidence` has let through. -/
structure EventInput where
  eventId : String
  occurredAt : Int
  category : String
  severity : String
  evidence : Json
  sequence : SequenceEvidence := .absent
  valid : ¬ sequence.Invalid

structure EventBatch where
  dataGeneration : Nat
  firstStoredEventSequence : Option PositiveSignedSequence := none
  events : List EventInput

theorem SequenceEvidence.integer_bounds {value : Int} (valid : ¬ (integer value).Invalid) :
    1 ≤ value.toNat ∧ value.toNat ≤ signedBigintMax := by
  simp only [Invalid, isBool, isInt, toInt, ne_eq, reduceCtorEq, not_false_eq_true, Bool.false_eq_true, true_and,
    not_true_eq_false, false_or, not_not] at valid
  omega

/-- The sequence of the event, as the schema guarantees it. -/
def EventInput.eventSequence (event : EventInput) : Option PositiveSignedSequence :=
  match stated : event.sequence with
  | .integer value => some ⟨value.toNat, SequenceEvidence.integer_bounds (stated ▸ event.valid)⟩
  | _ => none

def EventInput.checked (event : EventInput) : DeviceEventInput :=
  { eventId := event.eventId, occurredAt := event.occurredAt, category := event.category, severity := event.severity
    evidence := event.evidence, eventSequence := event.eventSequence }

def EventBatch.checked (batch : EventBatch) : DeviceEventBatch :=
  { dataGeneration := batch.dataGeneration, firstStoredEventSequence := batch.firstStoredEventSequence
    events := batch.events.map EventInput.checked }

/-! ## The loops -/

/-- What the loops collect; `stored` are the rows of the database that the session has loaded. -/
structure EventLoop where
  stored : List StoredEvent
  added : List StoredEvent := []
  accepted : List String := []
  duplicates : List String := []
  sequences : List Nat := []
  owners : List (Int × String) := []

def eventSequenceInvalid : ProblemError :=
  { status := 422
    title := "Event sequence invalid"
    detail := "Event sequence evidence must fit signed BIGINT storage"
    code := "event_sequence_invalid" }

/-- The conflict in the words of the agent protocol. -/
def agentSequenceConflict : ProblemError :=
  { status := 422
    title := "Event sequence conflict"
    detail := "One sequence cannot identify multiple events"
    code := "event_sequence_conflict" }

section Handlers
variable (lower redactText : String → String) (rows : DeviceRows) (batch : EventBatch) (now : Int)

/-- The row of a new event. -/
def newEvent (event : EventInput) (eventSequence : Option Nat) : StoredEvent :=
  { storeEvent lower redactText rows batch.checked now event.checked with eventSequence := eventSequence }

/-- A loaded row takes a sequence if it has none. -/
def fillSequence (eventId : String) (sequence : Nat) (row : StoredEvent) : StoredEvent :=
  if row.eventId = eventId ∧ row.eventSequence = none then { row with eventSequence := some sequence } else row

/-- One event in `event_batch`. -/
def deviceEventStep (state : EventLoop) (event : EventInput) : Except IngestError EventLoop := do
  let value := event.sequence
  raiseIf value.Invalid (.problem eventSequenceInvalid)
  raiseIf ((value.isInt ∧ 0 < value.toInt) ∧ ∃ owner ∈ state.owners.lookup value.toInt, owner ≠ event.eventId)
    (.problem eventSequenceConflict)
  let state := if value.isInt ∧ 0 < value.toInt then
      { state with
        owners := setKey value.toInt event.eventId state.owners
        sequences := state.sequences ++ [value.toInt.toNat] }
    else state
  if rows.Holds event.eventId then
    pure { state with
      stored := if value.isInt ∧ 0 < value.toInt then state.stored.map (fillSequence event.eventId value.toInt.toNat)
        else state.stored
      duplicates := state.duplicates ++ [event.eventId] }
  else
    pure { state with
      added := state.added ++ [newEvent lower redactText rows batch now event
        (if value.isInt ∧ 0 < value.toInt then some value.toInt.toNat else none)]
      accepted := state.accepted ++ [event.eventId] }

/-- One event in `events` of the agent protocol. -/
def agentEventStep (state : EventLoop) (event : EventInput) : Except IngestError EventLoop := do
  let value := event.sequence
  raiseIf ((value.isInt ∧ ¬ value.isBool) ∧ ∃ owner ∈ state.owners.lookup value.toInt, owner ≠ event.eventId)
    (.problem agentSequenceConflict)
  let state := if value.isInt ∧ ¬ value.isBool then
      { state with
        owners := setKey value.toInt event.eventId state.owners
        sequences := state.sequences ++ [value.toInt.toNat] }
    else state
  if rows.Holds event.eventId then
    pure { state with
      stored := if value.isInt then state.stored.map (fillSequence event.eventId value.toInt.toNat) else state.stored
      duplicates := state.duplicates ++ [event.eventId] }
  else
    pure { state with
      -- The value itself is stored: nothing when it is absent.
      added := state.added ++ [newEvent lower redactText rows batch now event
        (if value.isInt then some value.toInt.toNat else none)]
      accepted := state.accepted ++ [event.eventId] }

/-! ## The cursor -/

/-- `while highest + 1 in persisted: highest += 1` -/
def catchUp (persisted : List Nat) (highest : Nat) : Nat :=
  if highest + 1 ∈ persisted then catchUp persisted (highest + 1) else highest
  termination_by (persisted.filter (highest < ·)).length
  decreasing_by
    next present =>
    have nested : persisted.filter (fun n => decide (highest + 1 < n)) =
        (persisted.filter fun n => decide (highest < n)).filter fun n => decide (highest + 1 < n) := by
      rw [List.filter_filter]
      apply List.filter_congr
      intro n _
      rw [← Bool.decide_and]
      exact decide_eq_decide.mpr (by omega)
    rw [nested]
    refine List.length_filter_lt_length_iff_exists.mpr ⟨highest + 1, ?_, by simp⟩
    exact List.mem_filter.mpr ⟨present, by simp⟩

/-- The cursor after the flush and the acknowledged sequence, in the same words in both handlers. -/
def syncEventCursor (sequences : List Nat) (events : List StoredEvent) : EventCursor × Nat :=
  let ordered := sequences.dedup.insertionSort (· ≤ ·)
  let complete := ordered ≠ [] ∧ ordered.length = batch.events.length
  let explicit := complete ∧ batch.firstStoredEventSequence.isSome = true ∧
    batch.firstStoredEventSequence.map Subtype.val = ordered.head?
  let cursor := rows.eventCursor.getD ⟨if explicit then ordered.headD 0 - 1 else 0, 0⟩
  if complete then
    let maximum := max cursor.maximumSeenSequence (ordered.getLastD 0)
    let persisted := (events.filterMap StoredEvent.eventSequence).filter fun sequence =>
      cursor.highestContiguousSequence < sequence ∧ sequence ≤ maximum
    let highest := catchUp persisted cursor.highestContiguousSequence
    (⟨highest, maximum⟩, highest)
  else (cursor, 0)

/-- A handler around its loop. -/
def handleEvents (step : EventLoop → EventInput → Except IngestError EventLoop) :
    Except IngestError (DeviceRows × EventBatchResponse) := do
  let state ← batch.events.foldlM step { stored := rows.events }
  let events := state.stored ++ state.added
  raiseIf (¬ Insertable events) (.integrityError "uq_device_event")
  let (cursor, acknowledged) := syncEventCursor rows batch state.sequences events
  pure ({ rows with events := events, eventCursor := some cursor },
    { accepted := state.accepted, duplicates := state.duplicates, highestContiguousEventSequence := acknowledged })

/-- `event_batch` -/
def deviceEventBatch : Except IngestError (DeviceRows × EventBatchResponse) :=
  handleEvents rows batch (deviceEventStep lower redactText rows batch now)

/-- `events` of the agent protocol. -/
def agentEvents : Except IngestError (DeviceRows × EventBatchResponse) :=
  handleEvents rows batch (agentEventStep lower redactText rows batch now)

end Handlers

/-! ## One step in terms of the checked sequence -/

section Loop
variable {lower redactText : String → String} {rows : DeviceRows} {batch : EventBatch} {now : Int}

/-- What the loop has collected after some events. -/
structure Collected (lower redactText : String → String) (rows : DeviceRows) (batch : EventBatch) (now : Int)
    (seen : List EventInput) (state : EventLoop) : Prop where
  stored : state.stored = rows.events.map (adoptSequence (seen.map EventInput.checked))
  added : state.added = ((seen.map EventInput.checked).filter fun event => ¬ rows.Holds event.eventId).map
    (storeEvent lower redactText rows batch.checked now)
  accepted : state.accepted = ((seen.map EventInput.checked).filter fun event => ¬ rows.Holds event.eventId).map
    DeviceEventInput.eventId
  duplicates : state.duplicates = ((seen.map EventInput.checked).filter fun event => rows.Holds event.eventId).map
    DeviceEventInput.eventId
  sequences : state.sequences = (seen.map EventInput.checked).filterMap DeviceEventInput.sequence?
  owners : ∀ (n : Nat) (eventId : String), state.owners.lookup (n : Int) = some eventId ↔
    ∃ event ∈ seen, event.checked.sequence? = some n ∧ event.eventId = eventId

/-- A step without the words in which it is checked: the loops differ in the text of the conflict only. -/
def collectStep (lower redactText : String → String) (rows : DeviceRows) (batch : EventBatch) (now : Int)
    (conflict : ProblemError) (state : EventLoop) (event : EventInput) : Except IngestError EventLoop :=
  match event.checked.sequence? with
  | some n => do
      raiseIf (∃ owner ∈ state.owners.lookup (n : Int), owner ≠ event.eventId) (.problem conflict)
      let state := { state with
        owners := setKey (n : Int) event.eventId state.owners
        sequences := state.sequences ++ [n] }
      if rows.Holds event.eventId then
        pure { state with
          stored := state.stored.map (fillSequence event.eventId n)
          duplicates := state.duplicates ++ [event.eventId] }
      else
        pure { state with
          added := state.added ++ [newEvent lower redactText rows batch now event (some n)]
          accepted := state.accepted ++ [event.eventId] }
  | none =>
      if rows.Holds event.eventId then pure { state with duplicates := state.duplicates ++ [event.eventId] }
      else
        pure { state with
          added := state.added ++ [newEvent lower redactText rows batch now event none]
          accepted := state.accepted ++ [event.eventId] }

/-- The schema leaves an absent value or an integer from one to the bound. -/
theorem EventInput.sequence_cases (event : EventInput) :
    (event.sequence = .absent ∧ event.checked.sequence? = none) ∨
    ∃ value : Int, event.sequence = .integer value ∧ 1 ≤ value ∧ event.checked.sequence? = some value.toNat := by
  obtain ⟨eventId, occurredAt, category, severity, evidence, sequence, valid⟩ := event
  cases sequence with
  | absent => exact .inl ⟨rfl, rfl⟩
  | boolean value => exact absurd ⟨by simp, .inl rfl⟩ valid
  | integer value =>
      have bounds := SequenceEvidence.integer_bounds valid
      exact .inr ⟨value, rfl, by omega, rfl⟩
  | other => exact absurd ⟨by simp, .inr (.inl (by simp [SequenceEvidence.isInt]))⟩ valid

theorem deviceEventStep_eq (state : EventLoop) (event : EventInput) :
    deviceEventStep lower redactText rows batch now state event =
      collectStep lower redactText rows batch now eventSequenceConflict state event := by
  have valid := event.valid
  rcases event.sequence_cases with ⟨absent, none_⟩ | ⟨value, stated, positive, some_⟩
  · simp only [deviceEventStep, collectStep, none_, absent, raiseIf, SequenceEvidence.Invalid, SequenceEvidence.isInt]
    simp [bind, Except.bind]
  · rw [stated] at valid
    have whole : ((value.toNat : Nat) : Int) = value := by omega
    simp only [deviceEventStep, collectStep, some_, stated, raiseIf, if_neg valid, SequenceEvidence.isInt,
      SequenceEvidence.toInt, whole]
    have later : 0 < value := by omega
    simp [bind, Except.bind, later]

theorem agentEventStep_eq (state : EventLoop) (event : EventInput) :
    agentEventStep lower redactText rows batch now state event =
      collectStep lower redactText rows batch now agentSequenceConflict state event := by
  rcases event.sequence_cases with ⟨absent, none_⟩ | ⟨value, stated, positive, some_⟩
  · simp only [agentEventStep, collectStep, none_, absent, raiseIf, SequenceEvidence.isInt, SequenceEvidence.isBool]
    simp [bind, Except.bind]
  · have whole : ((value.toNat : Nat) : Int) = value := by omega
    simp only [agentEventStep, collectStep, some_, stated, raiseIf, SequenceEvidence.isInt, SequenceEvidence.isBool,
      SequenceEvidence.toInt, whole]
    simp [bind, Except.bind]

/-! ## Whole loops -/

theorem adoptSequence_append (events : List DeviceEventInput) (event : DeviceEventInput) (row : StoredEvent) :
    adoptSequence (events ++ [event]) row =
      match event.sequence? with
      | some n => fillSequence event.eventId n (adoptSequence events row)
      | none => adoptSequence events row := by
  have joined : (events ++ [event]).findSome? (fun event => if event.eventId = row.eventId then event.sequence? else none) =
      (events.findSome? fun event => if event.eventId = row.eventId then event.sequence? else none).or
        (if event.eventId = row.eventId then event.sequence? else none) := by
    rw [List.findSome?_append, List.findSome?_singleton]
  unfold adoptSequence
  rw [joined]
  cases numbered : event.sequence? with
  | none => simp
  | some n =>
      by_cases same : event.eventId = row.eventId
      · simp only [same, if_true, fillSequence]
        cases row.eventSequence <;>
          cases (events.findSome? fun event => if event.eventId = row.eventId then event.sequence? else none) <;> simp
      · have other : ¬ row.eventId = event.eventId := fun equal => same equal.symm
        simp [same, other, fillSequence]

theorem collected_nil : Collected lower redactText rows batch now [] { stored := rows.events } where
  stored := by
    have unchanged : adoptSequence ([].map EventInput.checked) = id := by
      funext row
      simp [adoptSequence]
    rw [unchanged, List.map_id]
  added := rfl
  accepted := rfl
  duplicates := rfl
  sequences := rfl
  owners := by simp

variable {seen : List EventInput} {state result : EventLoop} {event : EventInput} {conflict : ProblemError}

theorem owners_setKey {n : Nat} (collected : Collected lower redactText rows batch now seen state)
    (numbered : event.checked.sequence? = some n)
    (alone : ¬ ∃ owner ∈ state.owners.lookup (n : Int), owner ≠ event.eventId) (m : Nat) (eventId : String) :
    (setKey (n : Int) event.eventId state.owners).lookup (m : Int) = some eventId ↔
      ∃ other ∈ seen ++ [event], other.checked.sequence? = some m ∧ other.eventId = eventId := by
  rw [lookup_setKey]
  by_cases same : (m : Int) = n
  · obtain rfl : m = n := by omega
    rw [if_pos rfl, Option.some.injEq]
    constructor
    · rintro rfl
      exact ⟨event, by simp, numbered, rfl⟩
    · rintro ⟨other, member, claimed, rfl⟩
      rcases List.mem_append.mp member with before | here
      · by_contra different
        have owner := (collected.owners m other.eventId).mpr ⟨other, before, claimed, rfl⟩
        exact alone ⟨other.eventId, owner, fun equal => different equal.symm⟩
      · rw [List.mem_singleton.mp here]
  · rw [if_neg same, collected.owners]
    constructor
    · rintro ⟨other, member, claimed, named⟩
      exact ⟨other, List.mem_append_left _ member, claimed, named⟩
    · rintro ⟨other, member, claimed, named⟩
      rcases List.mem_append.mp member with before | here
      · exact ⟨other, before, claimed, named⟩
      · rw [List.mem_singleton.mp here, numbered, Option.some.injEq] at claimed
        exact absurd (congrArg Nat.cast claimed.symm) same

theorem owners_unnumbered (collected : Collected lower redactText rows batch now seen state)
    (absent : event.checked.sequence? = none) (m : Nat) (eventId : String) :
    state.owners.lookup (m : Int) = some eventId ↔
      ∃ other ∈ seen ++ [event], other.checked.sequence? = some m ∧ other.eventId = eventId := by
  rw [collected.owners]
  constructor
  · rintro ⟨other, member, claimed, named⟩
    exact ⟨other, List.mem_append_left _ member, claimed, named⟩
  · rintro ⟨other, member, claimed, named⟩
    rcases List.mem_append.mp member with before | here
    · exact ⟨other, before, claimed, named⟩
    · rw [List.mem_singleton.mp here, absent] at claimed
      cases claimed

theorem stored_append (collected : Collected lower redactText rows batch now seen state) (event : EventInput) :
    rows.events.map (adoptSequence ((seen ++ [event]).map EventInput.checked)) =
      match event.checked.sequence? with
      | some n => state.stored.map (fillSequence event.eventId n)
      | none => state.stored := by
  rw [collected.stored, List.map_append, List.map_singleton]
  cases numbered : event.checked.sequence? with
  | none =>
      apply List.map_congr_left
      intro row _
      rw [adoptSequence_append, numbered]
  | some n =>
      dsimp only
      rw [List.map_map]
      apply List.map_congr_left
      intro row _
      rw [adoptSequence_append, numbered]
      rfl

/-- A new event is no row of the table, so filling in its sequence changes none. -/
theorem fillSequence_fresh (collected : Collected lower redactText rows batch now seen state) (n : Nat)
    (fresh : ¬ rows.Holds event.eventId) : state.stored.map (fillSequence event.eventId n) = state.stored := by
  rw [collected.stored, List.map_map]
  apply List.map_congr_left
  intro row member
  have other : ¬ (adoptSequence (seen.map EventInput.checked) row).eventId = event.eventId :=
    fun same => fresh ⟨row, member, same⟩
  rw [Function.comp_apply, fillSequence, if_neg fun both => other both.1]

theorem newEvent_checked {n : Option Nat} (numbered : event.checked.sequence? = n) :
    newEvent lower redactText rows batch now event n = storeEvent lower redactText rows batch.checked now event.checked := by
  rw [newEvent, ← numbered]
  rfl

@[simp] theorem EventInput.checked_eventId (event : EventInput) : event.checked.eventId = event.eventId := rfl

/-- One more event, known or new. -/
theorem Collected.extend (collected : Collected lower redactText rows batch now seen state) {next : EventLoop}
    (stored : next.stored = rows.events.map (adoptSequence ((seen ++ [event]).map EventInput.checked)))
    (sequences : next.sequences = state.sequences ++ event.checked.sequence?.toList)
    (owners : ∀ (n : Nat) (eventId : String), next.owners.lookup (n : Int) = some eventId ↔
      ∃ other ∈ seen ++ [event], other.checked.sequence? = some n ∧ other.eventId = eventId)
    (lists : (rows.Holds event.eventId ∧ next.added = state.added ∧ next.accepted = state.accepted ∧
        next.duplicates = state.duplicates ++ [event.eventId]) ∨
      (¬ rows.Holds event.eventId ∧
        next.added = state.added ++ [storeEvent lower redactText rows batch.checked now event.checked] ∧
        next.accepted = state.accepted ++ [event.eventId] ∧ next.duplicates = state.duplicates)) :
    Collected lower redactText rows batch now (seen ++ [event]) next := by
  have numbered : next.sequences = ((seen ++ [event]).map EventInput.checked).filterMap DeviceEventInput.sequence? := by
    rw [sequences, collected.sequences, List.map_append, List.filterMap_append]
    cases stated : event.checked.sequence? <;> simp [stated]
  rcases lists with ⟨held, added, accepted, duplicates⟩ | ⟨fresh, added, accepted, duplicates⟩
  · refine ⟨stored, ?_, ?_, ?_, numbered, owners⟩
    · simp [added, collected.added, held]
    · simp [accepted, collected.accepted, held]
    · simp [duplicates, collected.duplicates, held]
  · refine ⟨stored, ?_, ?_, ?_, numbered, owners⟩
    · simp [added, collected.added, fresh]
    · simp [accepted, collected.accepted, fresh]
    · simp [duplicates, collected.duplicates, fresh]

theorem collectStep_collected (collected : Collected lower redactText rows batch now seen state)
    (step : collectStep lower redactText rows batch now conflict state event = .ok result) :
    Collected lower redactText rows batch now (seen ++ [event]) result := by
  have stored := stored_append collected event
  unfold collectStep at step
  cases numbered : event.checked.sequence? with
  | none =>
      simp only [numbered] at step stored
      have owners := owners_unnumbered collected numbered
      split at step
      · next held =>
          obtain rfl := Except.ok.inj step
          refine collected.extend stored.symm (by simp [numbered]) owners (.inl ?_)
          exact ⟨held, rfl, rfl, rfl⟩
      · next fresh =>
          obtain rfl := Except.ok.inj step
          refine collected.extend stored.symm (by simp [numbered]) owners (.inr ?_)
          exact ⟨fresh, by rw [newEvent_checked numbered], rfl, rfl⟩
  | some n =>
      simp only [numbered] at step stored
      obtain ⟨alone, step⟩ := raiseIf_bind_eq_ok.mp step
      have owners := owners_setKey collected numbered alone
      split at step
      · next held =>
          obtain rfl := Except.ok.inj step
          refine collected.extend stored.symm (by simp [numbered]) owners (.inl ?_)
          exact ⟨held, rfl, rfl, rfl⟩
      · next fresh =>
          obtain rfl := Except.ok.inj step
          have unchanged := fillSequence_fresh collected n fresh
          refine collected.extend (stored.trans unchanged).symm (by simp [numbered]) owners (.inr ?_)
          exact ⟨fresh, by rw [newEvent_checked numbered], rfl, rfl⟩

/-- The step raises when an earlier event has the sequence under another id. -/
theorem collectStep_raises (collected : Collected lower redactText rows batch now seen state) {failure : IngestError}
    (step : collectStep lower redactText rows batch now conflict state event = .error failure) :
    SequenceConflict ((seen ++ [event]).map EventInput.checked) := by
  unfold collectStep at step
  cases numbered : event.checked.sequence? with
  | none =>
      simp only [numbered] at step
      split at step <;> cases step
  | some n =>
      simp only [numbered] at step
      by_cases claimed : ∃ owner ∈ state.owners.lookup (n : Int), owner ≠ event.eventId
      · obtain ⟨owner, found, different⟩ := claimed
        obtain ⟨other, member, same, rfl⟩ := (collected.owners n owner).mp found
        refine ⟨other.checked, ?_, event.checked, ?_, ?_, ?_, different⟩
        · exact List.mem_map_of_mem (List.mem_append_left _ member)
        · exact List.mem_map_of_mem (by simp)
        · simp [same]
        · rw [same, numbered]
      · rw [raiseIf, if_neg claimed] at step
        simp only [bind, Except.bind] at step
        split at step <;> cases step

theorem Collected.noConflict (collected : Collected lower redactText rows batch now seen state) :
    ¬ SequenceConflict (seen.map EventInput.checked) := by
  rintro ⟨first, firstMember, second, secondMember, some_, same, different⟩
  obtain ⟨left, leftMember, rfl⟩ := List.mem_map.mp firstMember
  obtain ⟨right, rightMember, rfl⟩ := List.mem_map.mp secondMember
  obtain ⟨n, stated⟩ := Option.isSome_iff_exists.mp some_
  have leftOwner := (collected.owners n left.eventId).mpr ⟨left, leftMember, stated, rfl⟩
  have rightOwner := (collected.owners n right.eventId).mpr ⟨right, rightMember, same ▸ stated, rfl⟩
  exact different (Option.some.inj (leftOwner.symm.trans rightOwner))

theorem SequenceConflict.mono {events more : List DeviceEventInput} (found : SequenceConflict events) :
    SequenceConflict (events ++ more) := by
  obtain ⟨first, firstMember, second, secondMember, rest⟩ := found
  exact ⟨first, List.mem_append_left _ firstMember, second, List.mem_append_left _ secondMember, rest⟩

/-- The whole loop returns exactly when the batch has no conflict, with everything collected. -/
theorem foldlM_collectStep (conflict : ProblemError) (events : List EventInput) :
    (SequenceConflict (events.map EventInput.checked) ∧
      ∃ failure, events.foldlM (collectStep lower redactText rows batch now conflict) { stored := rows.events } = .error failure) ∨
    (¬ SequenceConflict (events.map EventInput.checked) ∧
      ∃ state, events.foldlM (collectStep lower redactText rows batch now conflict) { stored := rows.events } = .ok state ∧
        Collected lower redactText rows batch now events state) := by
  suffices general : ∀ seen state, Collected lower redactText rows batch now seen state →
      (SequenceConflict ((seen ++ events).map EventInput.checked) ∧
        ∃ failure, events.foldlM (collectStep lower redactText rows batch now conflict) state = .error failure) ∨
      ∃ final, events.foldlM (collectStep lower redactText rows batch now conflict) state = .ok final ∧
        Collected lower redactText rows batch now (seen ++ events) final by
    rcases general [] _ collected_nil with raised | ⟨final, done, collected⟩
    · exact .inl raised
    · exact .inr ⟨collected.noConflict, final, done, collected⟩
  induction events with
  | nil =>
      intro seen state collected
      exact .inr ⟨state, rfl, by rwa [List.append_nil]⟩
  | cons event rest ih =>
      intro seen state collected
      have joined : seen ++ event :: rest = seen ++ [event] ++ rest := by simp
      rw [List.foldlM_cons, joined]
      cases step : collectStep lower redactText rows batch now conflict state event with
      | error failure =>
          refine .inl ⟨?_, failure, rfl⟩
          rw [List.map_append]
          exact (collectStep_raises collected step).mono
      | ok next => exact ih (seen ++ [event]) next (collectStep_collected collected step)

/-! ## The handlers in closed form -/

theorem catchUp_spec (persisted : List Nat) (highest : Nat) :
    highest ≤ catchUp persisted highest ∧ (∀ n, highest < n → n ≤ catchUp persisted highest → n ∈ persisted) ∧
      catchUp persisted highest + 1 ∉ persisted := by
  fun_induction catchUp persisted highest with
  | case1 highest present ih =>
      obtain ⟨upTo, members, stops⟩ := ih
      refine ⟨by omega, fun n after before => ?_, stops⟩
      by_cases next : n = highest + 1
      · exact next ▸ present
      · exact members n (by omega) before
  | case2 highest absent => exact ⟨le_rfl, fun n after before => by omega, absent⟩

theorem catchUp_eq_advance (persisted : List Nat) (highest : Nat) :
    catchUp persisted highest = advance (highest + 1) (sortSpans (persisted.map Span.single)) - 1 := by
  have covered : ∀ n, Covers (sortSpans (persisted.map Span.single)) n ↔ n ∈ persisted := by
    intro n
    rw [covers_sortSpans]
    simp [Covers, eq_comm]
  obtain ⟨upTo, members, stops⟩ := catchUp_spec persisted highest
  have after := le_advance (highest + 1) (sortSpans (persisted.map Span.single))
  have inside := fun {n : Nat} => covers_below_advance (n := n) (highest + 1) (sortSpans (persisted.map Span.single))
  have outside := not_covers_advance (highest + 1) _ (sortSpans_ascending (persisted.map Span.single))
  rw [covered] at outside
  apply Nat.le_antisymm
  · by_contra beyond
    exact outside (members _ (by omega) (by omega))
  · by_contra beyond
    exact stops ((covered _).mp (inside (by omega) (by omega)))

theorem syncEventCursor_eq {sequences : List Nat} (events : List StoredEvent)
    (collected : sequences = (batch.events.map EventInput.checked).filterMap DeviceEventInput.sequence?) :
    syncEventCursor rows batch sequences events =
      (advanceEvents batch.checked events rows.eventCursor,
        if orderedSequences batch.checked.events ≠ [] ∧
            (orderedSequences batch.checked.events).length = batch.checked.events.length then
          (advanceEvents batch.checked events rows.eventCursor).highestContiguousSequence
        else 0) := by
  have ordered : sequences.dedup.insertionSort (· ≤ ·) = orderedSequences batch.checked.events := by rw [collected]; rfl
  have count : batch.events.length = batch.checked.events.length := (List.length_map _).symm
  unfold syncEventCursor advanceEvents
  rw [ordered, count]
  dsimp only
  split
  · next complete => simp only [catchUp_eq_advance, complete, if_true]; rfl
  · next incomplete => rfl

/-- A handler whose steps collect returns what the closed form returns. -/
theorem handleEvents_eq (step : EventLoop → EventInput → Except IngestError EventLoop)
    (collects : ∀ state event, step state event = collectStep lower redactText rows batch now conflict state event)
    (outcome : DeviceRows × EventBatchResponse) :
    handleEvents rows batch step = .ok outcome ↔ eventBatch lower redactText rows batch.checked now = .ok outcome := by
  have same : step = collectStep lower redactText rows batch now conflict := by
    funext state event
    exact collects state event
  subst same
  unfold handleEvents eventBatch
  rcases foldlM_collectStep conflict batch.events with ⟨clash, failure, raised⟩ | ⟨clear, state, done, collected⟩
  · rw [raised]
    have refused : SequenceConflict batch.checked.events := clash
    rw [raiseIf, if_pos refused]
    simp [bind, Except.bind]
  · have table : state.stored ++ state.added = eventRows lower redactText rows batch.checked now := by
      rw [collected.stored, collected.added]
      rfl
    have admitted : ¬ SequenceConflict batch.checked.events := clear
    rw [done, raiseIf, if_neg admitted]
    simp only [bind, Except.bind, table, syncEventCursor_eq _ collected.sequences, collected.accepted,
      collected.duplicates]
    exact Iff.rfl

variable (lower redactText rows batch now) (outcome : DeviceRows × EventBatchResponse)

theorem deviceEventBatch_ok : deviceEventBatch lower redactText rows batch now = .ok outcome ↔
    eventBatch lower redactText rows batch.checked now = .ok outcome :=
  handleEvents_eq _ deviceEventStep_eq outcome

theorem agentEvents_ok : agentEvents lower redactText rows batch now = .ok outcome ↔
    eventBatch lower redactText rows batch.checked now = .ok outcome :=
  handleEvents_eq _ agentEventStep_eq outcome

end Loop

end PowerMonitor.Ingestion
