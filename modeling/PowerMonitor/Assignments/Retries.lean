import PowerMonitor.Assignments.Outcomes

/-! Requests on assignments that are sent again.

An idempotency key is looked up in three ways: in the newest audit events of a kind, in those of one user, and in
the table of assignments. What an earlier request has left in the tables stays there, so a repeated request is
recognized as long as the lookup reaches that far back.
-/

set_option autoImplicit false
namespace PowerMonitor.Assignments
open Library
open Pricing (UtilityAccount require require_eq_ok)

inductive RateRequest where
  | replaceCurrentAssignment (request : ReplaceRequest)
  | createRateAssignment (request : CreateRequest)
  | endCurrentRateAssignment (request : EndPayload)
  | repairAssignmentConflicts (request : RepairPayload)
  | unassignRatePlan (request : UnassignRequest)

namespace RateRequest

/-- The key of a request; an empty one counts as none where the handler tests it. -/
def key : RateRequest → Option String
  | replaceCurrentAssignment request => request.idempotencyKey.filter (· ≠ "")
  | createRateAssignment request => request.idempotencyKey.filter (· ≠ "")
  | endCurrentRateAssignment request => some request.idempotencyKey
  | repairAssignmentConflicts request => some request.idempotencyKey
  | unassignRatePlan request => request.idempotencyKey

/-- The account on which the request works. -/
def account? (book : RateBook) : RateRequest → Option String
  | replaceCurrentAssignment request => some request.accountId
  | createRateAssignment request => (request.account? book).map UtilityAccount.id
  | endCurrentRateAssignment request => some request.accountId
  | repairAssignmentConflicts request => some request.accountId
  | unassignRatePlan request => some request.accountId

/-- The version that the request assigns, or the plan that it takes away. -/
def tariff : RateRequest → Option String
  | replaceCurrentAssignment request => some request.rateVersionId
  | createRateAssignment request => request.rateVersionId.filter (· ≠ "")
  | unassignRatePlan request => some request.planId
  | _ => none

inductive SameKind : RateRequest → RateRequest → Prop where
  | replaced (first again) : SameKind (replaceCurrentAssignment first) (replaceCurrentAssignment again)
  | created (first again) : SameKind (createRateAssignment first) (createRateAssignment again)
  | ended (first again) : SameKind (endCurrentRateAssignment first) (endCurrentRateAssignment again)
  | repaired (first again) : SameKind (repairAssignmentConflicts first) (repairAssignmentConflicts again)
  | unassigned (first again) : SameKind (unassignRatePlan first) (unassignRatePlan again)

end RateRequest

/-- A request of a user, at the time it is executed, with the id of the row it may create. -/
structure Turn where
  principal : Principal
  request : RateRequest
  id : String
  now : Int

namespace Turn
variable (services : DeskServices) (desk : RateDesk)

def perform (turn : Turn) : Except RequestFailure RateDesk :=
  match turn.request with
  | .replaceCurrentAssignment request =>
      (replaceCurrentAssignment services desk turn.principal request turn.id turn.now).map Prod.snd
  | .createRateAssignment request => (createRateAssignment services desk turn.principal request turn.id turn.now).map Prod.snd
  | .endCurrentRateAssignment request => (endCurrentRateAssignment services desk turn.principal request turn.now).map Prod.snd
  | .repairAssignmentConflicts request => (repairAssignmentConflicts services desk turn.principal request turn.now).map Prod.snd
  | .unassignRatePlan request => (unassignRatePlan services desk turn.principal request turn.now).map Prod.snd

/-- A request that fails is rolled back. -/
def apply (turn : Turn) : RateDesk := (turn.perform services desk).toOption.getD desk

end Turn

/-- No assignment and no account is changed. -/
structure SameRates (before after : RateDesk) : Prop where
  rateAssignments : after.book.rateAssignments = before.book.rateAssignments
  utilityAccounts : after.book.utilityAccounts = before.book.utilityAccounts
  settings : after.settings = before.settings

/-! ## How far a lookup reaches -/

/-- The selected events that are at least as new as one of them. -/
def RateDesk.newerEvents (desk : RateDesk) (selected : AuditEvent → Bool) (event : AuditEvent) : List AuditEvent :=
  (desk.auditEvents.filter selected).filter fun other => event.occurredAt ≤ other.occurredAt

def EndPayload.Recorded (request : EndPayload) (event : AuditEvent) : Prop :=
  event.action = .assignmentEnded ∧ event.idempotencyKey = some request.idempotencyKey ∧
    event.utilityAccountId = some request.accountId

def UnassignRequest.Recorded (request : UnassignRequest) (event : AuditEvent) : Prop :=
  event.action = .planUnassigned ∧ event.idempotencyKey = request.idempotencyKey ∧
    event.ratePlanId = some request.planId ∧ event.utilityAccountId = some request.accountId

/-- What makes the handlers honour an idempotency key. A repeated end is looked for among 200 events and a repeated
unassignment among 100 of its user; a repeated creation finds the settings of the account as it sets them. No key of
an end, a repair, an unassignment or a creation is used for another account or tariff. -/
def Turn.Honoured (desk : RateDesk) (turn : Turn) : Prop :=
  match turn.request with
  | .replaceCurrentAssignment _ => True
  | .createRateAssignment request => ∀ row ∈ desk.book.keyed? request.idempotencyKey, ∀ account ∈ request.account? desk.book,
      row.utilityAccountId = account.id ∧ some row.rateVersionId = request.rateVersionId.filter (· ≠ "") ∧
        request.applied (desk.settings account.id) = some (desk.settings account.id)
  | .endCurrentRateAssignment request =>
      (∀ event ∈ desk.auditEvents, event.action = .assignmentEnded → event.idempotencyKey = some request.idempotencyKey →
        event.utilityAccountId = some request.accountId) ∧
      ((∃ event ∈ desk.auditEvents, request.Recorded event) → ∃ event ∈ desk.auditEvents, request.Recorded event ∧
        (desk.newerEvents (fun event => event.action = .assignmentEnded) event).length ≤ 200)
  | .repairAssignmentConflicts request => ∀ event ∈ desk.auditEvents, event.action = .conflictRepaired →
      event.idempotencyKey = some request.idempotencyKey → event.objectId = request.accountId
  | .unassignRatePlan request => request.idempotencyKey ≠ none →
      (∀ event ∈ desk.auditEvents, event.action = .planUnassigned → event.idempotencyKey = request.idempotencyKey →
        event.utilityAccountId = some request.accountId ∧ event.ratePlanId = some request.planId) ∧
      ((∃ event ∈ desk.auditEvents, request.Recorded event) → ∃ event ∈ desk.auditEvents, request.Recorded event ∧
        event.actorId = turn.principal.userId ∧ (desk.newerEvents (fun event =>
          event.action = .planUnassigned ∧ event.actorId = turn.principal.userId) event).length ≤ 100)

section Lookups
variable {desk : RateDesk} {event : AuditEvent} {row : RateAssignment} {key : String}

theorem mem_recentEvents_of_few {selected : AuditEvent → Bool} {limit : Nat} (recorded : event ∈ desk.auditEvents)
    (chosen : selected event = true) (few : (desk.newerEvents selected event).length ≤ limit) :
    event ∈ desk.recentEvents selected limit := by
  have perm := perm_sortedBy (fun event : AuditEvent => - event.occurredAt) (desk.auditEvents.filter selected)
  refine mem_take_of_few (sortedBy_pairwise _ _) (perm.mem_iff.mpr (List.mem_filter.mpr ⟨recorded, chosen⟩)) ?_
  rw [(perm.filter _).length_eq]
  refine le_trans (le_of_eq ?_) few
  rw [RateDesk.newerEvents]
  congr 1
  apply List.filter_congr
  intro other _
  simp

theorem find?_of_mem {Item : Type} {items : List Item} {wanted : Item → Bool} {item : Item} (member : item ∈ items)
    (found : wanted item = true) : ∃ first, items.find? wanted = some first := by
  cases result : items.find? wanted with
  | some first => exact ⟨first, rfl⟩
  | none => exact absurd found (List.find?_eq_none.mp result item member)

theorem StoredAssignments.same_key {rows : List RateAssignment} (stored : StoredAssignments rows) {first second : RateAssignment}
    (firstStored : first ∈ rows) (secondStored : second ∈ rows) (firstKey : first.idempotencyKey = some key)
    (secondKey : second.idempotencyKey = some key) : first = second := by
  have distinct := List.pairwise_filterMap.mp stored.keys
  have symmetric : Std.Symm fun first second : RateAssignment => ∀ left, first.idempotencyKey = some left →
      ∀ right, second.idempotencyKey = some right → left ≠ right :=
    ⟨fun _ _ differs left isLeft right isRight same => differs right isRight left isLeft same.symm⟩
  by_contra different
  exact List.Pairwise.forall distinct firstStored secondStored different key firstKey key secondKey rfl

theorem keyed?_of_row (stored : row ∈ desk.book.rateAssignments) (named : row.idempotencyKey = some key) {asked : Option String}
    (given : asked.filter (· ≠ "") = some key) : desk.book.keyed? asked = some row := by
  obtain ⟨first, found⟩ : ∃ first, (desk.book.rateAssignments.find? fun row => row.idempotencyKey = some key) = some first :=
    find?_of_mem stored (by simpa using named)
  have same := desk.stored.same_key (List.mem_of_find?_eq_some found) stored (by simpa using List.find?_some found) named
  rw [RateBook.keyed?, given, Option.bind_some, found, same]

end Lookups

/-! ## Conflicts that were repaired -/

section Conflicts
variable {services : Services} {book after : RateBook} {request : ResolveRequest} {receipt : ResolveReceipt} {now : Int}

theorem mem_conflictIds {pairs : List (RateAssignment × RateAssignment)} {id : String} :
    id ∈ conflictIds pairs ↔ ∃ pair ∈ pairs, id = pair.1.id ∨ id = pair.2.id := by
  simp [conflictIds, List.mem_insertionSort]

theorem overlappingPairs_members {rows : List RateAssignment} {pair : RateAssignment × RateAssignment}
    (distinct : (rows.map RateAssignment.id).Nodup) (member : pair ∈ overlappingPairs rows) :
    pair.1 ∈ rows ∧ pair.2 ∈ rows ∧ pair.1.id ≠ pair.2.id := by
  induction rows with
  | nil => cases member
  | cons item rest ih =>
      rw [List.map_cons, List.nodup_cons] at distinct
      rcases List.mem_append.mp member with here | later
      · obtain ⟨other, chosen, rfl⟩ := List.mem_map.mp here
        have inRest := List.mem_of_mem_filter chosen
        refine ⟨List.mem_cons_self, List.mem_cons_of_mem _ inRest, fun same => distinct.1 ?_⟩
        exact same ▸ List.mem_map_of_mem inRest
      · obtain ⟨first, second, differ⟩ := ih distinct.2 later
        exact ⟨List.mem_cons_of_mem _ first, List.mem_cons_of_mem _ second, differ⟩

theorem accountAssignments_all_perm (book : RateBook) (accountId : String) : (book.accountAssignments accountId).Perm
    (book.rateAssignments.filter fun row => row.utilityAccountId = accountId) := by
  refine (List.perm_insertionSort _ _).trans (List.Perm.of_eq (List.filter_congr ?_))
  intro row _
  simp

/-- The rows of the conflicts of an account are two of its rows in force. -/
theorem conflictingPairs_members (stored : StoredAssignments book.rateAssignments) {accountId : String}
    {pair : RateAssignment × RateAssignment} (member : pair ∈ conflictingPairs (book.accountAssignments accountId)) :
    pair.1 ∈ book.active accountId ∧ pair.2 ∈ book.active accountId ∧ pair.1.id ≠ pair.2.id := by
  have perm := accountAssignments_all_perm book accountId
  have distinct : (((book.accountAssignments accountId).filter fun item => item.cancelledAt = none).map RateAssignment.id).Nodup := by
    have mine : ((book.rateAssignments.filter fun row => row.utilityAccountId = accountId).map RateAssignment.id).Nodup :=
      stored.ids.sublist (List.filter_sublist.map _)
    exact ((perm.map RateAssignment.id).nodup_iff.mpr mine).sublist (List.filter_sublist.map _)
  have inForce : ∀ row ∈ (book.accountAssignments accountId).filter (fun item => decide (item.cancelledAt = none)),
      row ∈ book.active accountId := by
    intro row inside
    obtain ⟨listed, active⟩ := List.mem_filter.mp inside
    obtain ⟨present, mine⟩ := List.mem_filter.mp (perm.mem_iff.mp listed)
    exact RateBook.mem_active.mpr ⟨present, by simpa using mine, by simpa using active⟩
  obtain ⟨first, second, differ⟩ := overlappingPairs_members distinct member
  exact ⟨inForce _ first, inForce _ second, differ⟩

/-- A repair that succeeds changes nothing on an account without conflicts. Otherwise it was asked for exactly the
conflicting rows, and one of them is cancelled afterwards. -/
theorem resolveAssignmentConflict_ok (stored : StoredAssignments book.rateAssignments)
    (ok : resolveAssignmentConflict services book request now = (.ok receipt, after)) :
    (NonOverlapping (book.active request.accountId) ∧ after = book) ∨
      ((∀ id ∈ request.expectedAssignmentIds, ∃ row ∈ book.active request.accountId, row.id = id) ∧
        ∃ row ∈ after.rateAssignments, row.id ∈ request.expectedAssignmentIds ∧ row.cancelledAt ≠ none) := by
  unfold resolveAssignmentConflict at ok
  split at ok
  · cases ok
  · dsimp only at ok
    split at ok
    · next none =>
        cases ok
        rw [conflictIds_eq_nil, conflictingPairs_eq_nil] at none
        exact .inl ⟨none, rfl⟩
    · next some =>
        split at ok
        · cases ok
        · next expected =>
            rw [not_not] at expected
            split at ok
            · cases ok
            · next keep found =>
                split at ok
                · cases ok
                · split at ok
                  · cases ok
                  · cases ok
                    refine .inr ⟨fun id member => ?_, ?_⟩
                    · rw [← List.mem_insertionSort (r := (· ≤ ·)), expected, mem_conflictIds] at member
                      obtain ⟨pair, inside, same⟩ := member
                      obtain ⟨first, second, _⟩ := conflictingPairs_members stored inside
                      rcases same with same | same
                      · exact ⟨pair.1, first, same.symm⟩
                      · exact ⟨pair.2, second, same.symm⟩
                    · -- Of the two rows of a conflict at most one is kept.
                      rw [conflictIds_eq_nil] at some
                      obtain ⟨pair, inside⟩ := List.exists_mem_of_ne_nil _ some
                      obtain ⟨first, second, differ⟩ := conflictingPairs_members stored inside
                      obtain ⟨lost, lostMine, other, listed⟩ : ∃ lost ∈ book.active request.accountId, lost.id ≠ keep.id ∧
                          lost.id ∈ conflictIds (conflictingPairs (book.accountAssignments request.accountId)) := by
                        by_cases kept : pair.1.id = keep.id
                        · exact ⟨pair.2, second, fun same => differ (kept.trans same.symm),
                            mem_conflictIds.mpr ⟨pair, inside, .inr rfl⟩⟩
                        · exact ⟨pair.1, first, kept, mem_conflictIds.mpr ⟨pair, inside, .inl rfl⟩⟩
                      obtain ⟨present, mine⟩ := RateBook.mem_active.mp lostMine
                      refine ⟨cancelConflict request now lost, List.mem_map.mpr ⟨lost, present, if_pos ?_⟩, ?_, by simp [cancelConflict]⟩
                      · rw [List.mem_filter, (accountAssignments_all_perm book request.accountId).mem_iff, List.mem_filter]
                        exact ⟨⟨present, by simpa using mine.1⟩, by simpa using ⟨other, listed⟩⟩
                      · rw [← List.mem_insertionSort (r := (· ≤ ·)), expected]
                        exact listed

end Conflicts

/-! ## What a request leaves -/

/-- What the tables say of a request after it has succeeded on an account. -/
def RateRequest.Done (desk : RateDesk) (account : Option String) : RateRequest → Prop
  | replaceCurrentAssignment request => ∀ key, request.idempotencyKey.filter (· ≠ "") = some key →
      ∃ row ∈ desk.book.rateAssignments, row.idempotencyKey = some key ∧ row.utilityAccountId = request.accountId ∧
        row.rateVersionId = request.rateVersionId
  | createRateAssignment request => ∀ key, request.idempotencyKey.filter (· ≠ "") = some key →
      ∃ row ∈ desk.book.rateAssignments, row.idempotencyKey = some key ∧ some row.utilityAccountId = account ∧
        some row.rateVersionId = request.rateVersionId.filter (· ≠ "")
  | endCurrentRateAssignment request => ∃ event ∈ desk.auditEvents, request.Recorded event
  | repairAssignmentConflicts request =>
      (∃ event ∈ desk.auditEvents, event.action = .conflictRepaired ∧
        event.idempotencyKey = some request.idempotencyKey ∧ event.objectId = request.accountId) ∧
      (NonOverlapping (desk.book.active request.accountId) ∨
        ∃ row ∈ desk.book.rateAssignments, row.id ∈ request.expectedAssignmentIds ∧ row.cancelledAt ≠ none)
  | unassignRatePlan request => ∃ event ∈ desk.auditEvents, request.Recorded event

theorem RateRequest.Done.mono {before after : RateDesk} {account : Option String} {request : RateRequest}
    (advances : Advances before after) (done : request.Done before account) : request.Done after account := by
  cases request with
  | replaceCurrentAssignment request =>
      intro key given
      obtain ⟨row, stored, named, owner, version⟩ := done key given
      obtain ⟨next, kept, continues, _⟩ := advances.rows row stored
      exact ⟨next, kept, continues.idempotencyKey.trans named, continues.utilityAccountId.trans owner,
        continues.rateVersionId.trans version⟩
  | createRateAssignment request =>
      intro key given
      obtain ⟨row, stored, named, owner, version⟩ := done key given
      obtain ⟨next, kept, continues, _⟩ := advances.rows row stored
      exact ⟨next, kept, continues.idempotencyKey.trans named, continues.utilityAccountId ▸ owner,
        continues.rateVersionId ▸ version⟩
  | endCurrentRateAssignment request =>
      obtain ⟨event, recorded, fits⟩ := done
      exact ⟨event, advances.events event recorded, fits⟩
  | repairAssignmentConflicts request =>
      obtain ⟨⟨event, recorded, fits⟩, settled⟩ := done
      refine ⟨⟨event, advances.events event recorded, fits⟩, ?_⟩
      rcases settled with apart | ⟨row, stored, asked, cancelled⟩
      · exact .inl (advances.apart request.accountId apart)
      · obtain ⟨next, kept, continues, stays⟩ := advances.rows row stored
        exact .inr ⟨next, kept, continues.id ▸ asked, stays cancelled⟩
  | unassignRatePlan request =>
      obtain ⟨event, recorded, fits⟩ := done
      exact ⟨event, advances.events event recorded, fits⟩

section Steps
variable {services : DeskServices} {desk after : RateDesk} {turn : Turn}

/-- No repair event names an account in its details. -/
def RateDesk.Unnamed (desk : RateDesk) : Prop :=
  ∀ event ∈ desk.auditEvents, event.action = .conflictRepaired → event.utilityAccountId = none

theorem map_snd_eq_ok {α : Type} {result : Except RequestFailure (α × RateDesk)} (ok : result.map Prod.snd = .ok after) :
    ∃ value, result = .ok (value, after) := by
  cases result with
  | error failure => cases ok
  | ok pair =>
      obtain ⟨value, last⟩ := pair
      cases ok
      exact ⟨value, rfl⟩

/-- A repair is never recognized by its key. -/
theorem Unnamed.unrecognized (unnamed : desk.Unnamed) (key accountId : String) :
    desk.idempotentOperation .conflictRepaired key accountId = none := by
  refine List.find?_eq_none.mpr fun event recent => ?_
  have listed := (perm_sortedBy _ _).mem_iff.mp (List.mem_of_mem_take recent)
  obtain ⟨recorded, action⟩ := List.mem_filter.mp listed
  have missing := unnamed event recorded (by simpa using action)
  simp [missing]

theorem unassign_advances {request : UnassignRequest} {now : Int} {target : RateAssignment}
    {events : List AuditEvent}
    (found : (desk.book.assignedAt request.planId request.accountId request.effectiveAt).head? = some target)
    (stored : StoredAssignments (desk.book.unassign request now target).rateAssignments)
    (written : after.book = desk.book.unassign request now target)
    (recorded : after.auditEvents = desk.auditEvents ++ events) : Advances desk after := by
  obtain ⟨present, _, _, covers⟩ := mem_assignedAt.mp (List.mem_of_head? found)
  have ends := unassignRow_ends present covers stored
  have table : after.book.rateAssignments = (desk.book.rateAssignments.map fun row =>
      if row.id = target.id then unassignRow request row else row) ++ [] := by
    rw [written, List.append_nil]
    rfl
  refine .of_rewrites (ends.rewrites desk.stored present) table (fun accountId timeline => ?_) recorded
  have kept := ends.timeline desk.stored present timeline
  rw [written]
  exact ⟨kept.apart, kept.proper⟩

theorem Unnamed.record {event : AuditEvent} (unnamed : desk.Unnamed)
    (recorded : after.auditEvents = desk.auditEvents ++ [event])
    (fits : event.action = .conflictRepaired → event.utilityAccountId = none) : after.Unnamed := by
  intro other member repaired
  rw [recorded, List.mem_append, List.mem_singleton] at member
  rcases member with earlier | rfl
  · exact unnamed other earlier repaired
  · exact fits repaired

theorem mem_recorded {event : AuditEvent} (recorded : after.auditEvents = desk.auditEvents ++ [event]) :
    event ∈ after.auditEvents := by
  rw [recorded]
  exact List.mem_append_right _ (List.mem_singleton_self _)

theorem Advances.queued {middle : RateDesk} {accountId : String} {event : AuditEvent} (advances : Advances desk middle) :
    Advances desk ((middle.queueUnfinalizedCostRuns accountId).record event) :=
  advances.trans (.of_same rfl rfl)

theorem resolve_advances {request : ResolveRequest} {receipt : ResolveReceipt} {now : Int} {events : List AuditEvent}
    (resolved : resolveAssignmentConflict services.assignment desk.book request now = (.ok receipt, after.book))
    (recorded : after.auditEvents = desk.auditEvents ++ events) : Advances desk after := by
  obtain ⟨_, raised⟩ | ⟨_, nothing⟩ | ⟨_, ended, change, _, _, written⟩ :=
    @resolveAssignmentConflict_cases services.assignment desk.book now request
  · rw [raised] at resolved
    cases resolved
  · rw [nothing] at resolved
    exact .of_same (congrArg RateBook.rateAssignments (Prod.mk.inj resolved).2.symm) recorded
  · have rewrites : Rewrites (fun row => if row ∈ ended then cancelConflict request now row else row)
        desk.book.rateAssignments := .of_rows fun row _ => cancelConflict_writes request row
    rw [resolved] at written
    dsimp only at written
    have table : after.book.rateAssignments = (desk.book.rateAssignments.map fun row =>
        if row ∈ ended then cancelConflict request now row else row) ++ [] := by
      rw [written, List.append_nil]
      rfl
    refine .of_rewrites rewrites table (fun accountId timeline => ?_) recorded
    exact rewrites.timeline timeline (by rw [table, List.append_nil])

/-- A successful request advances the tables and leaves what a repeated one needs. -/
theorem perform_done (unnamed : desk.Unnamed) (honoured : turn.Honoured desk) (ok : turn.perform services desk = .ok after) :
    Advances desk after ∧ after.Unnamed ∧ turn.request.Done after (turn.request.account? desk.book) := by
  obtain ⟨principal, request, id, now⟩ := turn
  cases request with
  | replaceCurrentAssignment request =>
      obtain ⟨reply, ok⟩ := map_snd_eq_ok ok
      rcases replaceCurrentAssignment_spec ok with ⟨existing, found, owner, version, _, rfl⟩ |
        ⟨fresh, middle, event, assigned, ⟨book, stored, rfl⟩, action, rfl⟩
      · refine ⟨.refl after, unnamed, fun key given => ?_⟩
        rw [RateBook.keyed?, given, Option.bind_some] at found
        exact ⟨existing, List.mem_of_find?_eq_some found, by simpa using List.find?_some found, owner, version⟩
      · refine ⟨(assigned.advances (List.append_nil _).symm).queued, ?_, fun key given => ?_⟩
        · exact Unnamed.record unnamed rfl fun repaired => absurd repaired action
        · obtain ⟨asked, nonempty⟩ := Option.filter_eq_some_iff.mp given
          obtain ⟨row, stored, named, agrees⟩ := assigned.keyed asked (by simpa using nonempty)
          refine ⟨row, stored, named, agrees fun existing member => ?_⟩
          change desk.book.keyed? request.idempotencyKey = some existing at member
          rw [fresh] at member
          cases member
  | createRateAssignment request =>
      obtain ⟨reply, ok⟩ := map_snd_eq_ok ok
      obtain ⟨account, versionId, settings, middle, event, found, given, applied, assigned, ⟨book, stored, rfl⟩, action, rfl⟩ :=
        createRateAssignment_spec ok
      refine ⟨(assigned.advances (List.append_nil _).symm).queued, ?_, fun key asked => ?_⟩
      · exact Unnamed.record unnamed rfl fun repaired => absurd repaired action
      · obtain ⟨_, nonempty⟩ := Option.filter_eq_some_iff.mp asked
        obtain ⟨row, stored, named, agrees⟩ := assigned.keyed asked (by simpa using nonempty)
        have owned := agrees fun existing member => by
          have keyed : existing ∈ desk.book.keyed? request.idempotencyKey := by
            change existing ∈ ((request.idempotencyKey.filter (· ≠ "")).filter (· ≠ "")).bind _ at member
            rw [asked, Option.filter_some, if_pos nonempty] at member
            rw [RateBook.keyed?, asked]
            exact member
          obtain ⟨mine, version, _⟩ := honoured existing keyed account found
          exact ⟨mine, Option.some.inj (version.trans given)⟩
        refine ⟨row, stored, named, ?_, ?_⟩
        · rw [RateRequest.account?, found, Option.map_some, owned.1]
          rfl
        · rw [given, owned.2]
          rfl
  | endCurrentRateAssignment request =>
      obtain ⟨reply, ok⟩ := map_snd_eq_ok ok
      rcases endCurrentRateAssignment_spec ok with ⟨⟨event, found⟩, rfl⟩ |
        ⟨_, current, stored, event, mine, covers, action, key, account, rfl⟩
      · have listed := (perm_sortedBy _ _).mem_iff.mp (List.mem_of_mem_take (List.mem_of_find?_eq_some found))
        obtain ⟨recorded, action⟩ := List.mem_filter.mp listed
        have fits := List.find?_some found
        simp only [decide_eq_true_eq] at action fits
        exact ⟨.refl after, unnamed, event, recorded, action, fits⟩
      · refine ⟨Advances.queued ?_, ?_, event, mem_recorded rfl, action, key, account⟩
        · have rewrites : Rewrites (fun row => if row = current then endRow (request.toEnd principal) now row else row)
              desk.book.rateAssignments := endCurrent_rewrites covers
          exact .of_rewrites rewrites (List.append_nil _).symm (fun _ timeline => rewrites.timeline timeline rfl)
            (List.append_nil _).symm
        · exact Unnamed.record unnamed rfl fun repaired => absurd (action.symm.trans repaired) nofun
  | repairAssignmentConflicts request =>
      obtain ⟨receipt, ok⟩ := map_snd_eq_ok ok
      rcases repairAssignmentConflicts_spec ok with ⟨⟨event, found⟩, _⟩ |
        ⟨_, book, stored, event, resolved, action, key, object, named, rfl⟩
      · rw [Unnamed.unrecognized unnamed] at found
        cases found
      · refine ⟨Advances.queued (resolve_advances resolved (List.append_nil _).symm), ?_,
          ⟨event, mem_recorded rfl, action, key, object⟩, ?_⟩
        · exact Unnamed.record unnamed rfl fun _ => named
        · rcases resolveAssignmentConflict_ok desk.stored resolved with ⟨apart, same⟩ | ⟨_, cancelled⟩
          · left
            change NonOverlapping (book.active request.accountId)
            rw [same]
            exact apart
          · exact .inr cancelled
  | unassignRatePlan request =>
      obtain ⟨reply, ok⟩ := map_snd_eq_ok ok
      rcases unassignRatePlan_cases ok with ⟨repeated, rfl⟩ |
        ⟨_, target, found, stored, written, event, action, key, plan, account, recorded⟩
      · obtain ⟨event, found⟩ := Option.ne_none_iff_exists'.mp repeated
        have listed := (perm_sortedBy _ _).mem_iff.mp (List.mem_of_mem_take (List.mem_of_find?_eq_some found))
        obtain ⟨recorded, action⟩ := List.mem_filter.mp listed
        have fits := List.find?_some found
        simp only [decide_eq_true_eq] at action fits
        exact ⟨.refl after, unnamed, event, recorded, action.1, fits⟩
      · refine ⟨unassign_advances found stored written recorded, ?_, event, mem_recorded recorded, action, key, plan, account⟩
        exact Unnamed.record unnamed recorded fun repaired => absurd (action.symm.trans repaired) nofun

/-- A request whose earlier success is in the tables changes no rate. -/
theorem sameRates_of_done {account : Option String} (unnamed : desk.Unnamed) (honoured : turn.Honoured desk)
    (keyed : turn.request.key ≠ none) (done : turn.request.Done desk account) (ok : turn.perform services desk = .ok after) :
    SameRates desk after := by
  obtain ⟨principal, request, id, now⟩ := turn
  obtain ⟨key, given⟩ := Option.ne_none_iff_exists'.mp keyed
  cases request with
  | replaceCurrentAssignment request =>
      obtain ⟨reply, ok⟩ := map_snd_eq_ok ok
      obtain ⟨row, stored, named, _⟩ := done key given
      rcases replaceCurrentAssignment_spec ok with ⟨_, _, _, _, _, rfl⟩ | ⟨fresh, _⟩
      · exact ⟨rfl, rfl, rfl⟩
      · rw [keyed?_of_row stored named given] at fresh
        cases fresh
  | createRateAssignment request =>
      obtain ⟨reply, ok⟩ := map_snd_eq_ok ok
      change request.idempotencyKey.filter (· ≠ "") = some key at given
      obtain ⟨row, stored, named, _⟩ := done key given
      have found := keyed?_of_row stored named given
      obtain ⟨account, versionId, settings, middle, event, owner, _, applied, assigned, ⟨book, _, rfl⟩, _, rfl⟩ :=
        createRateAssignment_spec ok
      obtain ⟨_, _, settled⟩ := honoured row found account owner
      obtain rfl : settings = desk.settings account.id := Option.some.inj (applied.symm.trans settled)
      have replayed : desk.book.replayed? (request.toAssignment principal account.id versionId now) = some row := by
        change ((request.idempotencyKey.filter (· ≠ "")).filter (· ≠ "")).bind _ = some row
        obtain ⟨_, nonempty⟩ := Option.filter_eq_some_iff.mp given
        rw [given, Option.filter_some, if_pos nonempty]
        rw [RateBook.keyed?, given] at found
        exact found
      cases assigned with
      | replayed existing found same =>
          obtain rfl : book = desk.book := same
          exact ⟨rfl, rfl, Function.update_eq_self _ _⟩
      | placed placement fresh accepted written =>
          rw [replayed] at fresh
          cases fresh
  | endCurrentRateAssignment request =>
      obtain ⟨reply, ok⟩ := map_snd_eq_ok ok
      obtain ⟨event, recorded, fits, few⟩ := honoured.2 done
      have recent := mem_recentEvents_of_few recorded (by simpa using fits.1) few
      rcases endCurrentRateAssignment_spec ok with ⟨_, rfl⟩ | ⟨missing, _⟩
      · exact ⟨rfl, rfl, rfl⟩
      · have absent := List.find?_eq_none.mp missing event recent
        simp [fits.2.1, fits.2.2] at absent
  | repairAssignmentConflicts request =>
      obtain ⟨receipt, ok⟩ := map_snd_eq_ok ok
      rcases repairAssignmentConflicts_spec ok with ⟨_, rfl⟩ | ⟨_, book, stored, event, resolved, _, _, _, _, rfl⟩
      · exact ⟨rfl, rfl, rfl⟩
      · rcases resolveAssignmentConflict_ok desk.stored resolved with ⟨_, rfl⟩ | ⟨conflicts, _⟩
        · exact ⟨rfl, rfl, rfl⟩
        · rcases done.2 with apart | ⟨row, present, asked, cancelled⟩
          · -- Without conflicts the account was left as it is.
            obtain ⟨_, raised⟩ | ⟨_, nothing⟩ | ⟨overlap, _⟩ :=
              @resolveAssignmentConflict_cases services.assignment desk.book now (request.toResolve principal)
            · rw [raised] at resolved
              cases resolved
            · rw [nothing] at resolved
              cases resolved
              exact ⟨rfl, rfl, rfl⟩
            · exact absurd apart overlap
          · -- The request names a row that has been cancelled, which is in no conflict.
            obtain ⟨other, inForce, same⟩ := conflicts row.id asked
            obtain ⟨otherPresent, mine⟩ := RateBook.mem_active.mp inForce
            rw [desk.stored.same_row otherPresent present same] at mine
            exact absurd mine.2 cancelled
  | unassignRatePlan request =>
      obtain ⟨reply, ok⟩ := map_snd_eq_ok ok
      obtain ⟨event, recorded, fits, actor, few⟩ := (honoured keyed).2 done
      have recent := mem_recentEvents_of_few recorded (by simpa using ⟨fits.1, actor⟩) few
      rcases unassignRatePlan_cases ok with ⟨_, rfl⟩ | ⟨missing, _⟩
      · exact ⟨rfl, rfl, rfl⟩
      · have absent := List.find?_eq_none.mp missing event recent
        simp [fits.2.1, fits.2.2.1, fits.2.2.2] at absent

/-- A request that succeeds with the key of an earlier one of its kind is for the same account and tariff. -/
theorem same_of_done {first : RateRequest} {before : RateBook} (honoured : turn.Honoured desk)
    (kind : first.SameKind turn.request) (keyed : first.key ≠ none) (reused : turn.request.key = first.key)
    (done : first.Done desk (first.account? before)) (ok : turn.perform services desk = .ok after) :
    turn.request.account? desk.book = first.account? before ∧ turn.request.tariff = first.tariff := by
  obtain ⟨principal, request, id, now⟩ := turn
  obtain ⟨key, given⟩ := Option.ne_none_iff_exists'.mp keyed
  cases kind with
  | replaced first again =>
      obtain ⟨reply, ok⟩ := map_snd_eq_ok ok
      obtain ⟨row, stored, named, owner, version⟩ := done key given
      have found := keyed?_of_row stored named (reused.trans given)
      rcases replaceCurrentAssignment_spec ok with ⟨existing, same, mine, tariff, _⟩ | ⟨fresh, _⟩
      · obtain rfl : row = existing := Option.some.inj (found.symm.trans same)
        exact ⟨congrArg some (mine.symm.trans owner), congrArg some (tariff.symm.trans version)⟩
      · rw [found] at fresh
        cases fresh
  | created first again =>
      obtain ⟨reply, ok⟩ := map_snd_eq_ok ok
      obtain ⟨row, stored, named, owner, version⟩ := done key given
      have found := keyed?_of_row stored named (reused.trans given)
      obtain ⟨account, _, _, _, _, present, _⟩ := createRateAssignment_spec ok
      obtain ⟨mine, tariff, _⟩ := honoured row found account present
      refine ⟨?_, tariff.symm.trans version⟩
      rw [← owner, mine]
      change (again.account? desk.book).map UtilityAccount.id = some account.id
      rw [present]
      rfl
  | ended first again =>
      obtain ⟨event, recorded, action, named, owner⟩ := done
      have mine := honoured.1 event recorded action (named.trans reused.symm)
      exact ⟨mine.symm.trans owner, rfl⟩
  | repaired first again =>
      obtain ⟨⟨event, recorded, action, named, owner⟩, _⟩ := done
      have mine := honoured event recorded action (named.trans reused.symm)
      exact ⟨congrArg some (mine.symm.trans owner), rfl⟩
  | unassigned first again =>
      obtain ⟨event, recorded, action, named, plan, owner⟩ := done
      have asked : again.idempotencyKey ≠ none := by
        change again.idempotencyKey = first.idempotencyKey at reused
        rw [reused]
        exact keyed
      obtain ⟨mine, tariff⟩ := (honoured asked).1 event recorded action (named.trans reused.symm)
      exact ⟨mine.symm.trans owner, tariff.symm.trans plan⟩

end Steps

/-! ## Runs -/

section Runs
variable (services : DeskServices)

/-- Of two requests of a run, the later one repeats the earlier one and changes no rate, or uses its key for another
account or tariff and fails. -/
structure TakesEffectOnce (before : RateDesk) (first : Turn) (desk : RateDesk) (again : Turn) : Prop where
  repeated : again.request = first.request → SameRates desk (again.apply services desk)
  reused : first.request.SameKind again.request → again.request.key = first.request.key →
    again.request.account? desk.book ≠ first.request.account? before.book ∨ again.request.tariff ≠ first.request.tariff →
      ∃ failure, again.perform services desk = .error failure

variable {services} {start : RateDesk}

theorem run_advances (unnamed : start.Unnamed) {run : List Turn}
    (honoured : ∀ earlier turn later, run = earlier ++ turn :: later →
      turn.Honoured (earlier.foldl (Turn.apply services) start)) :
    Advances start (run.foldl (Turn.apply services) start) ∧ (run.foldl (Turn.apply services) start).Unnamed := by
  refine foldl_guarded (P := fun desk => Advances start desk ∧ desk.Unnamed) (G := fun desk turn => turn.Honoured desk)
    ⟨.refl start, unnamed⟩ ?_ honoured
  rintro desk turn ⟨advances, named⟩ guarded
  unfold Turn.apply
  cases done : turn.perform services desk with
  | error failure => exact ⟨advances, named⟩
  | ok after =>
      obtain ⟨next, kept, _⟩ := perform_done named guarded done
      exact ⟨advances.trans next, kept⟩

variable (services start) in
/-- In every run whose requests are all honoured, a request that succeeded with a key takes effect once. -/
theorem retries_take_effect_once (unnamed : start.Unnamed) (earlier : List Turn) (first : Turn) (middle : List Turn)
    (again : Turn) (later : List Turn)
    (honoured : ∀ before turn after, earlier ++ first :: (middle ++ again :: later) = before ++ turn :: after →
      turn.Honoured (before.foldl (Turn.apply services) start))
    (keyed : first.request.key ≠ none) (reached : RateDesk)
    (succeeded : first.perform services (earlier.foldl (Turn.apply services) start) = .ok reached) :
    TakesEffectOnce services (earlier.foldl (Turn.apply services) start) first (middle.foldl (Turn.apply services) reached)
      again := by
  have firstHonoured := honoured earlier first _ rfl
  have stepped : first.apply services (earlier.foldl (Turn.apply services) start) = reached := by
    rw [Turn.apply, succeeded]
    rfl
  obtain ⟨_, namedBefore⟩ := @run_advances services start unnamed earlier fun before turn after split =>
    honoured before turn (after ++ first :: (middle ++ again :: later)) (by rw [split]; simp)
  obtain ⟨_, namedFirst, done⟩ := perform_done namedBefore firstHonoured succeeded
  have shifted : ∀ before turn after, middle ++ again :: later = before ++ turn :: after →
      turn.Honoured (before.foldl (Turn.apply services) reached) := by
    intro before turn after split
    have guarded := honoured (earlier ++ first :: before) turn after (by rw [split]; simp)
    rwa [List.foldl_append, List.foldl_cons, stepped] at guarded
  obtain ⟨advances, named⟩ := @run_advances services reached namedFirst middle fun before turn after split =>
    shifted before turn (after ++ again :: later) (by rw [split]; simp)
  have guarded := shifted middle again later rfl
  have still := done.mono advances
  constructor
  · intro same
    rw [Turn.apply]
    cases result : again.perform services (middle.foldl (Turn.apply services) reached) with
    | error failure => exact ⟨rfl, rfl, rfl⟩
    | ok after =>
        rw [← same] at still keyed
        exact sameRates_of_done named guarded keyed still result
  · intro kind reused different
    cases result : again.perform services (middle.foldl (Turn.apply services) reached) with
    | error failure => exact ⟨failure, rfl⟩
    | ok after =>
        obtain ⟨account, tariff⟩ := same_of_done guarded kind keyed reused still result
        exact absurd tariff (different.resolve_left (not_not.mpr account))

end Runs

/-! ## Two households -/

/-- The household and a neighbour without a plan. -/
def neighbours : RateDesk where
  book := { household with utilityAccounts := household.utilityAccounts ++ [{ id := "neighbour", siteId := "site" }] }
  stored := by decide

def endsPlan : Turn :=
  { principal := owner, id := "", now := 150
    request := .endCurrentRateAssignment
      { accountId := "service", effectiveAt := 120, reason := "moving out", idempotencyKey := "end-once"
        representable := at120 } }

/-- The end of the plan is sent twice. -/
theorem repeated_end_takes_effect_once : ∃ reached, endsPlan.perform quietDesk neighbours = .ok reached ∧
    TakesEffectOnce quietDesk neighbours endsPlan reached endsPlan := by
  have events : (endsPlan.perform quietDesk neighbours).toOption.map RateDesk.auditEvents = some
      [{ action := .assignmentEnded, actorId := "owner", occurredAt := 150, objectId := "first"
         idempotencyKey := some "end-once", utilityAccountId := some "service" }] := by decide
  cases done : endsPlan.perform quietDesk neighbours with
  | error failure =>
      rw [done] at events
      cases events
  | ok reached =>
      rw [done] at events
      have recorded : reached.auditEvents = _ := Option.some.inj events
      refine ⟨reached, rfl, ?_⟩
      refine retries_take_effect_once quietDesk neighbours (fun _ event => by cases event) [] endsPlan [] endsPlan [] ?_
        (by decide) reached done
      have first : endsPlan.Honoured neighbours := by
        refine ⟨fun _ event => ?_, fun ⟨_, event, _⟩ => ?_⟩
        · cases event
        · cases event
      have second : endsPlan.Honoured reached := by
        refine ⟨fun event member _ _ => ?_, fun _ => ⟨_, recorded ▸ List.mem_singleton_self _, ⟨rfl, rfl, rfl⟩, ?_⟩⟩
        · rw [recorded] at member
          rw [List.mem_singleton.mp member]
        · rw [RateDesk.newerEvents, recorded]
          decide
      have stepped : endsPlan.apply quietDesk neighbours = reached := by
        rw [Turn.apply, done]
        rfl
      refine forall_splits_cons.mpr ⟨first, forall_splits_cons.mpr ⟨?_, forall_splits_nil⟩⟩
      rw [List.foldl_cons, List.foldl_nil, stepped]
      exact second

/-- A creation with one key, for either account. -/
def creates (accountId : String) (now : Int) : Turn :=
  { principal := owner, id := "second", now := now
    request := .createRateAssignment
      { accountId := some accountId, rateVersionId := some "tou", effectiveFrom := some 200, replaceCurrent := true
        idempotencyKey := some "create-once" } }

/-- The neighbour's request with the key of the household is answered with the assignment of the household. -/
theorem reused_key_answers_neighbour :
    ¬ ∀ (services : DeskServices) (start : RateDesk), start.Unnamed → ∀ (earlier : List Turn) (first : Turn)
      (middle : List Turn) (again : Turn), first.request.key ≠ none → ∀ reached,
      first.perform services (earlier.foldl (Turn.apply services) start) = .ok reached →
        TakesEffectOnce services (earlier.foldl (Turn.apply services) start) first
          (middle.foldl (Turn.apply services) reached) again := by
  intro always
  have answered : ((creates "service" 150).perform quietDesk neighbours).toOption.map (fun reached =>
      (((creates "neighbour" 160).perform quietDesk reached).toOption.isSome,
        decide ((creates "neighbour" 160).request.account? reached.book = some "neighbour"))) = some (true, true) := by
    decide
  cases done : (creates "service" 150).perform quietDesk neighbours with
  | error failure =>
      rw [done] at answered
      cases answered
  | ok reached =>
      rw [done] at answered
      obtain ⟨succeeds, found⟩ := Prod.mk.inj (Option.some.inj answered)
      have once := always quietDesk neighbours (fun _ event => by cases event) [] (creates "service" 150) []
        (creates "neighbour" 160) (by decide) reached done
      have different : (creates "neighbour" 160).request.account? reached.book ≠
          (creates "service" 150).request.account? neighbours.book := by
        rw [of_decide_eq_true found]
        decide
      obtain ⟨failure, failed⟩ := once.reused (.created _ _) rfl (.inl different)
      change (Turn.perform quietDesk reached (creates "neighbour" 160)).toOption.isSome = true at succeeds
      change Turn.perform quietDesk reached (creates "neighbour" 160) = .error failure at failed
      rw [failed] at succeeds
      cases succeeds

end PowerMonitor.Assignments
