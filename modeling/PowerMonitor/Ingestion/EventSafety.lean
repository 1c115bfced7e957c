import PowerMonitor.Ingestion.Events
import PowerMonitor.Library.Runs

/-! Event acknowledgements over any sequence of event batches on both routes.

The cursor starts at the boundary of the batch that creates it and moves past a sequence only when an
event row holds it. Rows keep the sequence they have, so what was acknowledged stays stored.
-/

set_option autoImplicit false
namespace PowerMonitor.Ingestion
open Library

inductive EventRoute where | device | agent
  deriving DecidableEq, Repr

structure EventCall where
  route : EventRoute
  batch : EventBatch
  now : Int

/-- Some event of the device has the sequence. -/
def DeviceRows.StoresEvent (rows : DeviceRows) (n : Nat) : Prop := ∃ event ∈ rows.events, event.eventSequence = some n

/-- Every event of the batch has a sequence of its own. -/
def EventBatch.Complete (batch : EventBatch) : Prop :=
  orderedSequences batch.checked.events ≠ [] ∧
    (orderedSequences batch.checked.events).length = batch.events.length

instance (batch : EventBatch) : Decidable batch.Complete := inferInstanceAs (Decidable (_ ∧ _))

/-- Where a cursor starts that the batch creates: before the oldest retained event when the batch states
it and it is the least of the batch, at zero otherwise. -/
def EventBatch.boundary (batch : EventBatch) : Nat :=
  match batch.firstStoredEventSequence with
  | some first =>
      if batch.Complete ∧ (orderedSequences batch.checked.events).head? = some first.val then first.val - 1 else 0
  | none => 0

section Safety
variable (lower redactText : String → String)

def EventCall.outcome (rows : DeviceRows) (call : EventCall) : Except IngestError (DeviceRows × EventBatchResponse) :=
  match call.route with
  | .device => deviceEventBatch lower redactText rows call.batch call.now
  | .agent => agentEvents lower redactText rows call.batch call.now

/-- The rows after a call; a failure rolls the session back. -/
def EventCall.perform (rows : DeviceRows) (call : EventCall) : DeviceRows :=
  match call.outcome lower redactText rows with
  | .ok (after, _) => after
  | .error _ => rows

def performCalls (rows : DeviceRows) (calls : List EventCall) : DeviceRows :=
  calls.foldl (EventCall.perform lower redactText) rows

variable {lower redactText} {rows after : DeviceRows} {call : EventCall} {response : EventBatchResponse}

theorem EventCall.outcome_ok {outcome : DeviceRows × EventBatchResponse} : call.outcome lower redactText rows = .ok outcome ↔
    eventBatch lower redactText rows call.batch.checked call.now = .ok outcome := by
  unfold EventCall.outcome
  cases call.route with
  | device => exact deviceEventBatch_ok lower redactText rows call.batch call.now outcome
  | agent => exact agentEvents_ok lower redactText rows call.batch call.now outcome

/-! ## One call -/

/-- What a stored batch does to the rows and to the cursor. -/
structure Acknowledges (rows after : DeviceRows) (batch : EventBatch) (response : EventBatchResponse) : Prop where
  keeps : ∀ n, rows.StoresEvent n → after.StoresEvent n
  cursor : ∃ cursor, after.eventCursor = some cursor ∧
    (rows.eventCursor.getD ⟨batch.boundary, 0⟩).highestContiguousSequence ≤ cursor.highestContiguousSequence ∧
    (∀ n, (rows.eventCursor.getD ⟨batch.boundary, 0⟩).highestContiguousSequence < n →
      n ≤ cursor.highestContiguousSequence → after.StoresEvent n) ∧
    response.highestContiguousEventSequence ≤ cursor.highestContiguousSequence

theorem boundary_eq (batch : EventBatch) :
    (if (orderedSequences batch.checked.events ≠ [] ∧
          (orderedSequences batch.checked.events).length = batch.checked.events.length) ∧
        batch.checked.firstStoredEventSequence.isSome = true ∧
        batch.checked.firstStoredEventSequence.map Subtype.val = (orderedSequences batch.checked.events).head? then
      (orderedSequences batch.checked.events).headD 0 - 1 else 0) = batch.boundary := by
  have count : batch.checked.events.length = batch.events.length := List.length_map _
  unfold EventBatch.boundary EventBatch.Complete
  rw [count, show batch.checked.firstStoredEventSequence = batch.firstStoredEventSequence from rfl]
  cases batch.firstStoredEventSequence with
  | none => simp
  | some first =>
      by_cases head : (orderedSequences batch.checked.events).head? = some first.val
      · have least : (orderedSequences batch.checked.events).headD 0 = first.val := by
          rw [List.headD_eq_head?_getD, head]
          rfl
        simp only [head, least, Option.isSome_some, Option.map_some, and_true]
      · have other : ¬ some first.val = (orderedSequences batch.checked.events).head? := fun same => head same.symm
        simp [head, other]

theorem adoptSequence_keeps (events : List DeviceEventInput) {row : StoredEvent} {n : Nat}
    (has : row.eventSequence = some n) : (adoptSequence events row).eventSequence = some n := by
  simp [adoptSequence, has]

theorem eventRows_keeps {batch : DeviceEventBatch} {now : Int} {n : Nat} (stored : rows.StoresEvent n) :
    ∃ event ∈ eventRows lower redactText rows batch now, event.eventSequence = some n := by
  obtain ⟨row, member, has⟩ := stored
  refine ⟨adoptSequence batch.events row, ?_, adoptSequence_keeps batch.events has⟩
  exact List.mem_append_left _ (List.mem_map_of_mem member)

/-- The cursor of a batch starts where it stood and passes stored sequences only. -/
theorem advanceEvents_spec (batch : EventBatch) (events : List StoredEvent) (cursor : Option EventCursor) :
    (cursor.getD ⟨batch.boundary, 0⟩).highestContiguousSequence ≤
        (advanceEvents batch.checked events cursor).highestContiguousSequence ∧
      ∀ n, (cursor.getD ⟨batch.boundary, 0⟩).highestContiguousSequence < n →
        n ≤ (advanceEvents batch.checked events cursor).highestContiguousSequence →
          ∃ event ∈ events, event.eventSequence = some n := by
  unfold advanceEvents
  dsimp only
  rw [boundary_eq]
  split
  · next complete =>
      generalize cursor.getD ⟨batch.boundary, 0⟩ = start
      dsimp only
      have after := le_advance (start.highestContiguousSequence + 1) (sortSpans
        (((events.filterMap StoredEvent.eventSequence).filter fun sequence =>
          decide (start.highestContiguousSequence < sequence ∧
            sequence ≤ max start.maximumSeenSequence ((orderedSequences batch.checked.events).getLastD 0))).map Span.single))
      refine ⟨by omega, fun n above below => ?_⟩
      have covered := covers_below_advance (start.highestContiguousSequence + 1) _ above
        (lt_of_le_of_lt below (Nat.sub_lt (lt_of_lt_of_le (Nat.succ_pos _) after) Nat.one_pos))
      rw [covers_sortSpans] at covered
      obtain ⟨span, member, contains⟩ := covered
      obtain ⟨m, kept, rfl⟩ := List.mem_map.mp member
      rw [Span.contains_single] at contains
      obtain ⟨event, stored, has⟩ := List.mem_filterMap.mp (List.mem_of_mem_filter kept)
      exact ⟨event, stored, contains ▸ has⟩
  · exact ⟨le_rfl, fun n above below => absurd above below.not_gt⟩

theorem outcome_acknowledges (ok : call.outcome lower redactText rows = .ok (after, response)) :
    Acknowledges rows after call.batch response := by
  rw [EventCall.outcome_ok] at ok
  unfold eventBatch at ok
  obtain ⟨_, ok⟩ := raiseIf_bind_eq_ok.mp ok
  obtain ⟨_, ok⟩ := raiseIf_bind_eq_ok.mp ok
  obtain ⟨rfl, rfl⟩ := Prod.mk.inj (Except.ok.inj ok)
  obtain ⟨upTo, stored⟩ := advanceEvents_spec call.batch
    (eventRows lower redactText rows call.batch.checked call.now) rows.eventCursor
  refine ⟨fun n held => eventRows_keeps held, _, rfl, upTo, stored, ?_⟩
  dsimp only
  split
  · exact le_rfl
  · exact Nat.zero_le _

/-! ## Runs -/

/-- The cursor was created at `boundary`, and what it has passed since is stored. -/
def Acknowledged (boundary : Nat) (rows : DeviceRows) : Prop :=
  ∃ cursor, rows.eventCursor = some cursor ∧
    ∀ n, boundary < n → n ≤ cursor.highestContiguousSequence → rows.StoresEvent n

theorem perform_ok (ok : call.outcome lower redactText rows = .ok (after, response)) :
    call.perform lower redactText rows = after := by
  rw [EventCall.perform, ok]

/-- A call is stored or leaves the rows alone. -/
theorem perform_cases (rows : DeviceRows) (call : EventCall) :
    call.perform lower redactText rows = rows ∨
      ∃ after response, call.outcome lower redactText rows = .ok (after, response) ∧
        call.perform lower redactText rows = after := by
  cases result : call.outcome lower redactText rows with
  | error failure =>
      left
      rw [EventCall.perform, result]
  | ok outcome => exact .inr ⟨outcome.1, outcome.2, rfl, perform_ok result⟩

theorem Acknowledged.step {boundary : Nat} (safe : Acknowledged boundary rows) (call : EventCall) :
    Acknowledged boundary (call.perform lower redactText rows) := by
  rcases perform_cases rows call with same | ⟨after, response, ok, moved⟩
  · rwa [same]
  · obtain ⟨cursor, present, stored⟩ := safe
    obtain ⟨keeps, next, created, _, passed, _⟩ := outcome_acknowledges ok
    rw [moved]
    refine ⟨next, created, fun n above below => ?_⟩
    rw [present, Option.getD_some] at passed
    rcases le_or_gt n cursor.highestContiguousSequence with old | new
    · exact keeps n (stored n above old)
    · exact passed n new below

/-- The call that creates the cursor creates it at the boundary of its batch. -/
theorem Acknowledged.created (fresh : rows.eventCursor = none)
    (ok : call.outcome lower redactText rows = .ok (after, response)) : Acknowledged call.batch.boundary after := by
  obtain ⟨_, cursor, created, _, passed, _⟩ := outcome_acknowledges ok
  rw [fresh, Option.getD_none] at passed
  exact ⟨cursor, created, passed⟩

theorem performCalls_append (rows : DeviceRows) (earlier later : List EventCall) :
    performCalls lower redactText rows (earlier ++ later) =
      performCalls lower redactText (performCalls lower redactText rows earlier) later := by
  simp [performCalls]

/-- Either no call has been stored yet, or one of them was the first. -/
theorem performCalls_created (fresh : rows.eventCursor = none) (calls : List EventCall) :
    (performCalls lower redactText rows calls).eventCursor = none ∨
    ∃ earlier call later created response, calls = earlier ++ call :: later ∧
      (performCalls lower redactText rows earlier).eventCursor = none ∧
      call.outcome lower redactText (performCalls lower redactText rows earlier) = .ok (created, response) ∧
      Acknowledged call.batch.boundary (performCalls lower redactText rows calls) := by
  induction calls generalizing rows with
  | nil => exact .inl fresh
  | cons call rest ih =>
      rcases perform_cases rows call with same | ⟨after, response, ok, moved⟩
      · have again := ih fresh
        have head : performCalls lower redactText rows (call :: rest) = performCalls lower redactText rows rest := by
          rw [performCalls, List.foldl_cons, same]
          rfl
        rw [head]
        refine again.imp id ?_
        rintro ⟨earlier, first, later, created, response, rfl, before, ok, safe⟩
        have skip : performCalls lower redactText rows (call :: earlier) = performCalls lower redactText rows earlier := by
          rw [performCalls, List.foldl_cons, same]
          rfl
        exact ⟨call :: earlier, first, later, created, response, rfl, skip ▸ before, skip ▸ ok, safe⟩
      · refine .inr ⟨[], call, rest, after, response, rfl, fresh, ok, ?_⟩
        rw [performCalls, List.foldl_cons, moved]
        exact foldl_invariant (Acknowledged.created fresh ok) (fun _ call safe => safe.step call) rest

theorem performCalls_monotone {cursor : EventCursor} (present : rows.eventCursor = some cursor) (calls : List EventCall) :
    ∃ final, (performCalls lower redactText rows calls).eventCursor = some final ∧
      cursor.highestContiguousSequence ≤ final.highestContiguousSequence := by
  refine foldl_invariant (P := fun rows : DeviceRows => ∃ final, rows.eventCursor = some final ∧
    cursor.highestContiguousSequence ≤ final.highestContiguousSequence) ⟨cursor, present, le_rfl⟩ ?_ calls
  rintro rows call ⟨current, here, upTo⟩
  rcases perform_cases rows call with same | ⟨after, response, ok, moved⟩
  · rw [same]
    exact ⟨current, here, upTo⟩
  · obtain ⟨_, next, created, advanced, _⟩ := outcome_acknowledges ok
    rw [here, Option.getD_some] at advanced
    exact ⟨next, moved ▸ created, upTo.trans advanced⟩

variable (lower redactText) in
/-- Whatever batches arrive on either route at a device without a cursor: the cursor, once a first stored
batch has created it, has passed stored sequences only since the boundary of that batch; it never moves
back; no acknowledgement exceeds it; and both routes make the same of a batch. -/
theorem event_acknowledgement_safety (start : DeviceRows) (fresh : start.eventCursor = none) (calls : List EventCall) :
    (∀ cursor, (performCalls lower redactText start calls).eventCursor = some cursor →
      ∃ earlier call later created response, calls = earlier ++ call :: later ∧
        (performCalls lower redactText start earlier).eventCursor = none ∧
        call.outcome lower redactText (performCalls lower redactText start earlier) = .ok (created, response) ∧
        ∀ n, call.batch.boundary < n → n ≤ cursor.highestContiguousSequence →
          (performCalls lower redactText start calls).StoresEvent n) ∧
    (∀ earlier later, calls = earlier ++ later → ∀ cursor,
      (performCalls lower redactText start earlier).eventCursor = some cursor →
        ∃ final, (performCalls lower redactText start calls).eventCursor = some final ∧
          cursor.highestContiguousSequence ≤ final.highestContiguousSequence) ∧
    (∀ (call : EventCall) (after : DeviceRows) (response : EventBatchResponse), call.outcome lower redactText (performCalls lower redactText start calls) = .ok (after, response) →
      ∃ cursor, after.eventCursor = some cursor ∧
        response.highestContiguousEventSequence ≤ cursor.highestContiguousSequence) ∧
    ∀ batch now outcome,
      deviceEventBatch lower redactText (performCalls lower redactText start calls) batch now = .ok outcome ↔
        agentEvents lower redactText (performCalls lower redactText start calls) batch now = .ok outcome := by
  refine ⟨?_, ?_, ?_, ?_⟩
  · intro cursor present
    rcases performCalls_created fresh calls with none_ | ⟨earlier, call, later, created, response, split, before, ok, safe⟩
    · rw [none_] at present
      cases present
    · obtain ⟨other, same, stored⟩ := safe
      obtain rfl := Option.some.inj (present.symm.trans same)
      exact ⟨earlier, call, later, created, response, split, before, ok, stored⟩
  · rintro earlier later rfl cursor present
    rw [performCalls_append]
    exact performCalls_monotone present later
  · intro call after response ok
    obtain ⟨_, cursor, created, _, _, bounded⟩ := outcome_acknowledges ok
    exact ⟨cursor, created, bounded⟩
  · intro batch now outcome
    rw [deviceEventBatch_ok, agentEvents_ok]

/-! ## Two batches -/

def bootEvent (eventId : String) (n : Nat) (valid : ¬ (SequenceEvidence.integer n).Invalid) : EventInput :=
  { eventId := eventId, occurredAt := 0, category := "boot", severity := "info", evidence := Json.null,
    sequence := .integer n, valid := valid }

/-- The device retains its events from 5 on and sends 5 and 6. -/
def retainedCall : EventCall where
  route := .device
  batch :=
    { dataGeneration := 0
      firstStoredEventSequence := some ⟨5, by decide⟩
      events := [bootEvent "a" 6 (by decide), bootEvent "b" 5 (by decide)] }
  now := 10

/-- Event 6 arrives again, with 7, through an agent. -/
def repeatedCall : EventCall where
  route := .agent
  batch := { dataGeneration := 0, events := [bootEvent "a" 6 (by decide), bootEvent "c" 7 (by decide)] }
  now := 20

theorem retainedCall_stored : ∃ after response,
    retainedCall.outcome id id { store := {} } = .ok (after, response) ∧ after.eventCursor = some ⟨6, 6⟩ ∧
      response.highestContiguousEventSequence = 6 := by
  have evaluated : (eventBatch id id { store := {} } retainedCall.batch.checked retainedCall.now).toOption.map
      (fun outcome => (outcome.1.eventCursor, outcome.2.highestContiguousEventSequence)) = some (some ⟨6, 6⟩, 6) := by
    decide
  cases outcome : eventBatch id id { store := {} } retainedCall.batch.checked retainedCall.now with
  | error failure =>
      rw [outcome] at evaluated
      cases evaluated
  | ok result =>
      rw [outcome] at evaluated
      obtain ⟨cursor, acknowledged⟩ := Prod.mk.inj (Option.some.inj evaluated)
      exact ⟨result.1, result.2, EventCall.outcome_ok.mpr outcome, cursor, acknowledged⟩

/-- The cursor goes on from 6, and what it has passed since 4 is stored. -/
theorem retainedCalls_acknowledged : retainedCall.batch.boundary = 4 ∧
    ∃ cursor, (performCalls id id { store := {} } [retainedCall, repeatedCall]).eventCursor = some cursor ∧
      6 ≤ cursor.highestContiguousSequence := by
  obtain ⟨after, response, ok, created, _⟩ := retainedCall_stored
  have first : performCalls id id { store := {} } [retainedCall] = after := perform_ok ok
  refine ⟨by decide, ?_⟩
  exact (event_acknowledgement_safety id id { store := {} } rfl [retainedCall, repeatedCall]).2.1
    [retainedCall] [repeatedCall] rfl ⟨6, 6⟩ (first ▸ created)

end Safety

end PowerMonitor.Ingestion
