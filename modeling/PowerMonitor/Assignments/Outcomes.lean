import PowerMonitor.Assignments.Edits

/-! What a successful request on assignments has done to the tables.

No request deletes an assignment, brings a cancelled one back, creates an overlap or removes an audit event.
-/

set_option autoImplicit false
namespace PowerMonitor.Assignments
open Library
open Pricing (UtilityAccount require require_eq_ok)

/-- The tables after some requests. -/
structure Advances (before after : RateDesk) : Prop where
  rows : ∀ row ∈ before.book.rateAssignments, ∃ next ∈ after.book.rateAssignments, row.Continues next ∧
    (row.cancelledAt ≠ none → next.cancelledAt ≠ none)
  apart : ∀ accountId, NonOverlapping (before.book.active accountId) → NonOverlapping (after.book.active accountId)
  events : ∀ event ∈ before.auditEvents, event ∈ after.auditEvents

namespace Advances
variable {before middle after : RateDesk}

theorem refl (desk : RateDesk) : Advances desk desk :=
  ⟨fun row stored => ⟨row, stored, .refl row, id⟩, fun _ apart => apart, fun _ event => event⟩

theorem trans (first : Advances before middle) (second : Advances middle after) : Advances before after where
  rows := fun row stored => by
    obtain ⟨next, nextStored, continues, cancelled⟩ := first.rows row stored
    obtain ⟨last, lastStored, continues', cancelled'⟩ := second.rows next nextStored
    exact ⟨last, lastStored, continues.trans continues', fun before => cancelled' (cancelled before)⟩
  apart := fun accountId apart => second.apart accountId (first.apart accountId apart)
  events := fun event recorded => second.events event (first.events event recorded)

theorem of_rewrites {change : RateAssignment → RateAssignment} {added : List RateAssignment} {events : List AuditEvent}
    (rewrites : Rewrites change before.book.rateAssignments)
    (table : after.book.rateAssignments = before.book.rateAssignments.map change ++ added)
    (timeline : ∀ accountId, before.book.Timeline accountId → after.book.Timeline accountId)
    (recorded : after.auditEvents = before.auditEvents ++ events) : Advances before after where
  rows := fun row stored => by
    refine ⟨change row, ?_, rewrites.continues row stored, rewrites.cancelled row stored⟩
    rw [table]
    exact List.mem_append_left _ (List.mem_map_of_mem stored)
  apart := fun accountId apart => (timeline accountId (before.timeline apart)).apart
  events := fun event member => by
    rw [recorded]
    exact List.mem_append_left _ member

theorem of_same {events : List AuditEvent} (table : after.book.rateAssignments = before.book.rateAssignments)
    (recorded : after.auditEvents = before.auditEvents ++ events) : Advances before after where
  rows := fun row stored => ⟨row, table ▸ stored, .refl row, id⟩
  apart := fun accountId apart => by
    rw [RateBook.active, table]
    exact apart
  events := fun event member => by
    rw [recorded]
    exact List.mem_append_left _ member

end Advances

section Outcomes
variable {services : DeskServices} {desk after : RateDesk} {book : RateBook} {principal : Principal} {id : String} {now : Int}

/-! ## Assigning a version -/

/-- The session has repeated an earlier assignment, or has placed a new one. -/
inductive Assigned (desk after : RateDesk) (request : AssignmentRequest) (id : String) (now : Int) : Prop where
  | replayed (existing : RateAssignment) (found : desk.book.replayed? request = some existing)
      (same : after.book = desk.book)
  | placed (placement : Placement) (fresh : desk.book.replayed? request = none)
      (accepted : Accepted desk.book request placement) (written : after.book = desk.book.place request id now placement)

theorem assign_spec {request : AssignmentRequest} {receipt : AssignmentReceipt} {refused : String}
    (ok : desk.assign services.assignment request id now refused = .ok (receipt, after)) :
    Assigned desk after request id now ∧ ∃ book stored, after = { desk with book := book, stored := stored } := by
  unfold RateDesk.assign at ok
  obtain ⟨⟨given, book⟩, assigned, ok⟩ := bind_eq_ok.mp ok
  rw [continuing_eq_ok] at assigned
  dsimp only at ok
  split at ok
  · next flushed written =>
      cases ok
      obtain ⟨stored, rfl⟩ := flush_spec written
      refine ⟨?_, book, stored, rfl⟩
      obtain ⟨_, raised⟩ | ⟨existing, _, found, replayed⟩ | ⟨fresh, placement, _, accepted, placed⟩ :=
        @assignVersion_cases services.assignment desk.book now request id
      · rw [raised] at assigned
        cases assigned
      · rw [replayed] at assigned
        cases assigned
        exact .replayed existing found rfl
      · rw [placed] at assigned
        cases assigned
        exact .placed placement fresh accepted rfl
  · cases ok

theorem Assigned.advances {request : AssignmentRequest} {events : List AuditEvent} (assigned : Assigned desk after request id now)
    (recorded : after.auditEvents = desk.auditEvents ++ events) : Advances desk after := by
  cases assigned with
  | replayed existing found same => exact .of_same (congrArg RateBook.rateAssignments same) recorded
  | placed placement fresh accepted written =>
      have table : after.book.rateAssignments = (desk.book.rateAssignments.map fun row =>
          if row ∈ placement.replaced then replaceRow request now row else row) ++ [newAssignment request id now placement] := by
        rw [written, place_rateAssignments]
        rfl
      refine .of_rewrites (replaced_rewrites accepted) table (fun accountId timeline => ?_) recorded
      rw [written]
      exact place_timeline accepted id timeline

/-- The key of a request names one of the stored rows afterwards, which gives the version of the request to its account
unless the key named another row before. -/
theorem Assigned.keyed {request : AssignmentRequest} {key : String} (assigned : Assigned desk after request id now)
    (asked : request.idempotencyKey = some key) (given : key ≠ "") :
    ∃ row ∈ after.book.rateAssignments, row.idempotencyKey = some key ∧
      ((∀ existing ∈ desk.book.replayed? request,
          existing.utilityAccountId = request.accountId ∧ existing.rateVersionId = request.rateVersionId) →
        row.utilityAccountId = request.accountId ∧ row.rateVersionId = request.rateVersionId) := by
  cases assigned with
  | replayed existing found same =>
      have named := found
      simp only [RateBook.replayed?, asked, Option.filter_some, given, ne_eq, not_false_eq_true, decide_true, if_true,
        Option.bind_some] at named
      refine ⟨existing, ?_, by simpa using List.find?_some named, fun agrees => agrees existing found⟩
      rw [same]
      exact List.mem_of_find?_eq_some named
  | placed placement fresh accepted written =>
      refine ⟨newAssignment request id now placement, ?_, asked, fun _ => ⟨rfl, rfl⟩⟩
      rw [written, place_rateAssignments]
      exact List.mem_append_right _ (List.mem_singleton_self _)

/-- `replace_current_assignment` answers a repeated request, or assigns the version of the request. -/
theorem replaceCurrentAssignment_spec {request : ReplaceRequest} {reply : AssignmentReply}
    (ok : replaceCurrentAssignment services desk principal request id now = .ok (reply, after)) :
    (∃ existing, desk.book.keyed? request.idempotencyKey = some existing ∧ existing.utilityAccountId = request.accountId ∧
      existing.rateVersionId = request.rateVersionId ∧ existing.effectiveFrom = request.effectiveFrom ∧ after = desk) ∨
    (desk.book.keyed? request.idempotencyKey = none ∧ ∃ middle event, Assigned desk middle (request.toAssignment principal) id now ∧
      (∃ book stored, middle = { desk with book := book, stored := stored }) ∧ event.action ≠ .conflictRepaired ∧
      after = (middle.queueUnfinalizedCostRuns request.accountId).record event) := by
  unfold replaceCurrentAssignment at ok
  obtain ⟨_, _, ok⟩ := bind_eq_ok.mp ok
  obtain ⟨_, _, ok⟩ := bind_eq_ok.mp ok
  split at ok
  · next existing found =>
      obtain ⟨_, same, ok⟩ := bind_eq_ok.mp ok
      obtain ⟨_, _, ok⟩ := bind_eq_ok.mp ok
      cases ok
      have agrees := raiseIf_eq_ok.mp (rising_eq_ok.mp same)
      simp only [not_or, ne_eq, not_not] at agrees
      exact .inl ⟨existing, found, agrees.1, agrees.2.1, agrees.2.2, rfl⟩
  · next fresh =>
      obtain ⟨⟨receipt, middle⟩, assigned, ok⟩ := bind_eq_ok.mp ok
      obtain ⟨_, _, ok⟩ := bind_eq_ok.mp ok
      cases ok
      obtain ⟨written, frame⟩ := assign_spec assigned
      refine .inr ⟨fresh, middle, _, written, frame, ?_, rfl⟩
      dsimp only
      split <;> exact (absurd · (by decide))

/-- `create_rate_assignment` sets the account as the payload says and assigns the version. -/
theorem createRateAssignment_spec {request : CreateRequest} {reply : AssignmentReply}
    (ok : createRateAssignment services desk principal request id now = .ok (reply, after)) :
    ∃ account versionId settings middle event, request.account? desk.book = some account ∧
      request.rateVersionId.filter (· ≠ "") = some versionId ∧ request.applied (desk.settings account.id) = some settings ∧
      Assigned desk middle (request.toAssignment principal account.id versionId now) id now ∧
      (∃ book stored, middle = { desk with
        book := book, stored := stored, settings := Function.update desk.settings account.id settings }) ∧
      event.action ≠ .conflictRepaired ∧ after = (middle.queueUnfinalizedCostRuns account.id).record event := by
  unfold createRateAssignment at ok
  obtain ⟨_, _, ok⟩ := bind_eq_ok.mp ok
  obtain ⟨account, found, ok⟩ := bind_eq_ok.mp ok
  obtain ⟨versionId, given, ok⟩ := bind_eq_ok.mp ok
  obtain ⟨_, _, ok⟩ := bind_eq_ok.mp ok
  obtain ⟨settings, applied, ok⟩ := bind_eq_ok.mp ok
  obtain ⟨⟨receipt, middle⟩, assigned, ok⟩ := bind_eq_ok.mp ok
  cases ok
  obtain ⟨written, book, stored, frame⟩ := assign_spec assigned
  refine ⟨account, versionId, settings, middle, _, require_eq_ok.mp (rising_eq_ok.mp found),
    require_eq_ok.mp (rising_eq_ok.mp given), require_eq_ok.mp (rising_eq_ok.mp applied), ?_, ⟨book, stored, frame⟩, ?_, rfl⟩
  · -- The settings are no part of the rates, so the assignment is one of the desk as it was.
    cases written with
    | replayed existing found same => exact .replayed existing found same
    | placed placement fresh accepted placed => exact .placed placement fresh accepted placed
  · dsimp only
    split
    · exact nofun
    · split <;> exact nofun

/-! ## Ending and repairing -/

/-- `end_current_rate_assignment` answers a repeated request, or ends the row in force at the instant. -/
theorem endCurrentRateAssignment_spec {request : EndPayload} {reply : EndReply}
    (ok : endCurrentRateAssignment services desk principal request now = .ok (reply, after)) :
    ((∃ event, desk.idempotentOperation .assignmentEnded request.idempotencyKey request.accountId = some event) ∧
      after = desk) ∨
    (desk.idempotentOperation .assignmentEnded request.idempotencyKey request.accountId = none ∧
      ∃ current stored event, current ∈ desk.book.active request.accountId ∧ current.Covers request.effectiveAt ∧
        event.action = .assignmentEnded ∧ event.idempotencyKey = some request.idempotencyKey ∧
        event.utilityAccountId = some request.accountId ∧
        after = (RateDesk.queueUnfinalizedCostRuns
          { desk with book := desk.book.endCurrent (request.toEnd principal) now current, stored := stored }
          request.accountId).record event) := by
  unfold endCurrentRateAssignment at ok
  obtain ⟨_, _, ok⟩ := bind_eq_ok.mp ok
  obtain ⟨_, _, ok⟩ := bind_eq_ok.mp ok
  split at ok
  · next event found =>
      cases ok
      exact .inl ⟨⟨event, found⟩, rfl⟩
  · next fresh =>
      obtain ⟨⟨assignment, book⟩, ended, ok⟩ := bind_eq_ok.mp ok
      obtain ⟨flushed, written, ok⟩ := bind_eq_ok.mp ok
      cases ok
      rw [continuing_eq_ok] at ended
      obtain ⟨_, raised⟩ | ⟨_, current, _, mine, covers, done⟩ :=
        @endAssignment_cases services.assignment desk.book now (request.toEnd principal)
      · rw [raised] at ended
        cases ended
      · rw [done] at ended
        cases ended
        obtain ⟨stored, rfl⟩ := flush_spec written
        exact .inr ⟨fresh, current, stored, _, mine, covers, rfl, rfl, rfl, rfl⟩

/-- `repair_assignment_conflicts` answers a repeated request, finds no conflict, or cancels rows of one. -/
theorem repairAssignmentConflicts_spec {request : RepairPayload} {receipt : ResolveReceipt}
    (ok : repairAssignmentConflicts services desk principal request now = .ok (receipt, after)) :
    ((∃ event, desk.idempotentOperation .conflictRepaired request.idempotencyKey request.accountId = some event) ∧
      after = desk) ∨
    desk.idempotentOperation .conflictRepaired request.idempotencyKey request.accountId = none ∧
    ∃ book stored event, resolveAssignmentConflict services.assignment desk.book (request.toResolve principal) now =
        (.ok receipt, book) ∧
      event.action = .conflictRepaired ∧ event.idempotencyKey = some request.idempotencyKey ∧
      event.objectId = request.accountId ∧ event.utilityAccountId = none ∧
      after = (RateDesk.queueUnfinalizedCostRuns { desk with book := book, stored := stored } request.accountId).record event := by
  unfold repairAssignmentConflicts at ok
  obtain ⟨_, _, ok⟩ := bind_eq_ok.mp ok
  obtain ⟨_, _, ok⟩ := bind_eq_ok.mp ok
  split at ok
  · next event found =>
      cases ok
      exact .inl ⟨⟨event, found⟩, rfl⟩
  · next fresh =>
      obtain ⟨⟨given, book⟩, resolved, ok⟩ := bind_eq_ok.mp ok
      obtain ⟨flushed, written, ok⟩ := bind_eq_ok.mp ok
      cases ok
      obtain ⟨stored, rfl⟩ := flush_spec written
      exact .inr ⟨fresh, book, stored, _, continuing_eq_ok.mp resolved, rfl, rfl, rfl, rfl, rfl⟩

end Outcomes
end PowerMonitor.Assignments
