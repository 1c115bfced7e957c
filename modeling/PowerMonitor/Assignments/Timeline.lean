import PowerMonitor.Assignments.Service
import PowerMonitor.Library.Runs

/-! The timeline of an account under the three operations.

A written row keeps its start and is either cancelled or ended inside its own window, so nothing that was
apart comes to overlap. The window that `assign_version` adds is apart from what it leaves of the others.
-/

set_option autoImplicit false
namespace PowerMonitor.Assignments
open Library
open Pricing (UtilityAccount require require_eq_ok)

/-- The non-cancelled assignments of the account are non-empty windows without overlaps. -/
structure RateBook.Timeline (book : RateBook) (accountId : String) : Prop where
  apart : NonOverlapping (book.active accountId)
  proper : ∀ row ∈ book.active accountId, row.window.Proper

/-- The same assignment at a later time. -/
structure RateAssignment.Continues (row next : RateAssignment) : Prop where
  id : next.id = row.id
  utilityAccountId : next.utilityAccountId = row.utilityAccountId
  rateVersionId : next.rateVersionId = row.rateVersionId
  effectiveFrom : next.effectiveFrom = row.effectiveFrom
  createdAt : next.createdAt = row.createdAt
  idempotencyKey : next.idempotencyKey = row.idempotencyKey

theorem RateAssignment.Continues.refl (row : RateAssignment) : row.Continues row :=
  ⟨rfl, rfl, rfl, rfl, rfl, rfl⟩

theorem RateAssignment.Continues.trans {first second third : RateAssignment} (before : first.Continues second)
    (after : second.Continues third) : first.Continues third :=
  ⟨after.id.trans before.id, after.utilityAccountId.trans before.utilityAccountId,
    after.rateVersionId.trans before.rateVersionId, after.effectiveFrom.trans before.effectiveFrom,
    after.createdAt.trans before.createdAt, after.idempotencyKey.trans before.idempotencyKey⟩

/-- What writing a row may do to it: cancel it, or end its window earlier. -/
inductive Shortened (row next : RateAssignment) : Prop where
  | kept (same : next = row)
  | cancelled (at_ : next.cancelledAt ≠ none)
  | ended (finish : Int) (later : row.effectiveFrom < finish) (inside : finish ≤ row.effectiveTo.getD datetimeMax)
      (window : next.window = row.window.cut finish) (state : next.cancelledAt = row.cancelledAt)

theorem Shortened.overlaps {row next : RateAssignment} (shortened : Shortened row next)
    (active : next.cancelledAt = none) {other : Window Int} (overlap : next.window.Overlaps datetimeMax other) :
    row.window.Overlaps datetimeMax other := by
  cases shortened with
  | kept same => exact same ▸ overlap
  | cancelled cancelled => exact absurd active cancelled
  | ended finish later inside window state =>
      rw [window] at overlap
      exact overlap.of_cut inside

theorem Shortened.proper {row next : RateAssignment} (shortened : Shortened row next)
    (active : next.cancelledAt = none) (proper : row.window.Proper) : next.window.Proper := by
  cases shortened with
  | kept same => exact same ▸ proper
  | cancelled cancelled => exact absurd active cancelled
  | ended finish later inside window state =>
      rw [window]
      exact Window.cut_proper later

/-! ## Rewritten tables -/

/-- Every row is continued, some are shortened, and no cancelled row comes back. -/
structure Rewrites (change : RateAssignment → RateAssignment) (rows : List RateAssignment) : Prop where
  continues : ∀ row ∈ rows, row.Continues (change row)
  shortened : ∀ row ∈ rows, Shortened row (change row)
  cancelled : ∀ row ∈ rows, row.cancelledAt ≠ none → (change row).cancelledAt ≠ none

section Rewriting
variable {other : String} {change : RateAssignment → RateAssignment} {book after : RateBook}

theorem Rewrites.of (rewrites : Rewrites change book.rateAssignments) {row : RateAssignment}
    (stored : row ∈ book.rateAssignments) (mine : (change row).Of other) : row.Of other := by
  refine ⟨(rewrites.continues row stored).utilityAccountId ▸ mine.1, ?_⟩
  by_contra cancelled
  exact rewrites.cancelled row stored cancelled mine.2

/-- The rows that stay in the account are among those it had. -/
theorem Rewrites.active_sublist (rewrites : Rewrites change book.rateAssignments) :
    (book.rateAssignments.filter fun row => (change row).Of other).Sublist (book.active other) := by
  have twice : book.rateAssignments.filter (fun row => decide ((change row).Of other)) =
      (book.active other).filter fun row => (change row).Of other := by
    rw [RateBook.active, List.filter_filter]
    apply List.filter_congr
    intro row stored
    by_cases mine : (change row).Of other
    · simp [mine, rewrites.of stored mine]
    · simp [mine]
  rw [twice]
  exact List.filter_sublist

theorem active_map : (book.rateAssignments.map change).filter (fun row => decide (row.Of other)) =
    (book.rateAssignments.filter fun row => (change row).Of other).map change := by
  rw [List.filter_map]
  rfl

theorem Rewrites.timeline (rewrites : Rewrites change book.rateAssignments)
    (timeline : book.Timeline other) (table : after.rateAssignments = book.rateAssignments.map change) :
    after.Timeline other := by
  have rows : after.active other = (book.rateAssignments.filter fun row => (change row).Of other).map change := by
    rw [RateBook.active, table, active_map]
  have stored : ∀ row ∈ book.rateAssignments.filter (fun row => (change row).Of other),
      row ∈ book.rateAssignments ∧ (change row).Of other := fun row member => by simpa using member
  constructor
  · rw [rows]
    apply Apart.map (timeline.apart.sublist rewrites.active_sublist)
    intro row member window overlap
    obtain ⟨kept, mine⟩ := stored row member
    exact (rewrites.shortened row kept).overlaps mine.2 overlap
  · intro next member
    rw [rows, List.mem_map] at member
    obtain ⟨row, member, rfl⟩ := member
    obtain ⟨kept, mine⟩ := stored row member
    exact (rewrites.shortened row kept).proper mine.2
      (timeline.proper row (RateBook.mem_active.mpr ⟨kept, rewrites.of kept mine⟩))

theorem RateBook.Timeline.append {row : RateAssignment} (timeline : book.Timeline other)
    (table : after.rateAssignments = book.rateAssignments ++ [row])
    (separate : row.Of other → row.window.Proper ∧ ∀ item ∈ book.active other, ¬ overlaps item.window row.window) :
    after.Timeline other := by
  have rows : after.active other = book.active other ++ [row].filter fun row => decide (row.Of other) := by
    rw [RateBook.active, table, List.filter_append]
    rfl
  by_cases mine : row.Of other
  · obtain ⟨proper, separate⟩ := separate mine
    rw [List.filter_cons_of_pos (by simpa using mine), List.filter_nil] at rows
    constructor
    · rw [rows]
      refine List.pairwise_append.mpr ⟨timeline.apart, List.pairwise_singleton _ _, ?_⟩
      intro item member new here
      exact List.mem_singleton.mp here ▸ separate item member
    · intro item member
      rw [rows, List.mem_append, List.mem_singleton] at member
      rcases member with member | rfl
      · exact timeline.proper item member
      · exact proper
  · rw [List.filter_cons_of_neg (by simpa using mine), List.filter_nil, List.append_nil] at rows
    exact ⟨rows ▸ timeline.apart, rows ▸ timeline.proper⟩

end Rewriting

/-! ## The loop of assign_version -/

/-- What the loop has collected about the rows it has seen. -/
structure Placed (request : AssignmentRequest) (rows : List RateAssignment) (placement : Placement) : Prop where
  seen : ∀ item ∈ rows, overlaps item.window request.window →
    item ∈ placement.replaced ∨ ∃ next ∈ placement.nextFutureStart, next ≤ item.effectiveFrom
  covering : ∀ item ∈ rows, overlaps item.window request.window → request.replaceCurrent = true →
    item.Covers request.effectiveFrom → item ∈ placement.replaced
  replaced : ∀ item ∈ placement.replaced, item ∈ rows ∧ overlaps item.window request.window ∧
    request.replaceCurrent = true ∧ item.Covers request.effectiveFrom
  next : ∀ next ∈ placement.nextFutureStart, request.effectiveTo = none ∧ request.effectiveFrom < next ∧
    next < datetimeMax ∧ ∃ item ∈ rows, item.effectiveFrom = next

section Loop
variable {request : AssignmentRequest} {rows : List RateAssignment} {placement result : Placement} {item : RateAssignment}

theorem placed_nil : Placed request [] {} where
  seen := by simp
  covering := by simp
  replaced := by simp
  next := by simp

theorem Placed.mono (placed : Placed request rows placement) :
    ∀ kept ∈ placement.replaced, kept ∈ rows ++ [item] ∧ overlaps kept.window request.window ∧
      request.replaceCurrent = true ∧ kept.Covers request.effectiveFrom := by
  intro kept member
  obtain ⟨row, rest⟩ := placed.replaced kept member
  exact ⟨List.mem_append_left _ row, rest⟩

theorem Placed.mono_next (placed : Placed request rows placement) :
    ∀ next ∈ placement.nextFutureStart, request.effectiveTo = none ∧ request.effectiveFrom < next ∧
      next < datetimeMax ∧ ∃ row ∈ rows ++ [item], row.effectiveFrom = next := by
  intro next member
  obtain ⟨openEnded, later, early, row, stored, start⟩ := placed.next next member
  exact ⟨openEnded, later, early, row, List.mem_append_left _ stored, start⟩

theorem placeStep_placed (placed : Placed request rows placement) (step : placeStep request placement item = .ok result) :
    Placed request (rows ++ [item]) result := by
  unfold placeStep at step
  split at step
  · next separate =>
      obtain rfl := Except.ok.inj step
      refine ⟨?_, ?_, placed.mono, placed.mono_next⟩
      · rw [List.forall_mem_append]
        refine ⟨placed.seen, ?_⟩
        simpa using fun overlap => absurd overlap separate
      · rw [List.forall_mem_append]
        refine ⟨placed.covering, ?_⟩
        simpa using fun overlap => absurd overlap separate
  · next overlap =>
      rw [not_not] at overlap
      split at step
      · next covers =>
          obtain rfl := Except.ok.inj step
          refine ⟨?_, ?_, ?_, placed.mono_next⟩
          · rw [List.forall_mem_append]
            refine ⟨fun row member overlaps => ?_, by simp⟩
            exact (placed.seen row member overlaps).imp_left (List.mem_append_left _)
          · rw [List.forall_mem_append]
            refine ⟨fun row member overlaps replaces covers => ?_, by simp⟩
            exact List.mem_append_left _ (placed.covering row member overlaps replaces covers)
          · rw [List.forall_mem_append]
            exact ⟨placed.mono, by simpa using ⟨overlap, covers.1, covers.2⟩⟩
      · next elsewhere =>
          split at step
          · next future =>
              obtain rfl := Except.ok.inj step
              obtain ⟨replaces, openEnded, later⟩ := future
              have early : item.effectiveFrom < datetimeMax := by
                have before := overlap.1
                simp only [AssignmentRequest.window, openEnded] at before
                exact before
              refine ⟨?_, ?_, placed.mono, ?_⟩
              · rw [List.forall_mem_append]
                constructor
                · intro row member overlaps
                  rcases placed.seen row member overlaps with replaced | ⟨next, found, upTo⟩
                  · exact .inl replaced
                  · refine .inr ⟨_, rfl, ?_⟩
                    rw [found]
                    exact (min_le_left _ _).trans upTo
                · intro row member _
                  obtain rfl := List.mem_singleton.mp member
                  refine .inr ⟨_, rfl, ?_⟩
                  split
                  · exact le_rfl
                  · exact min_le_right _ _
              · rw [List.forall_mem_append]
                refine ⟨placed.covering, ?_⟩
                intro row member _ _ covers
                obtain rfl := List.mem_singleton.mp member
                exact absurd ⟨replaces, covers⟩ elsewhere
              · intro next member
                obtain rfl := Option.some.inj member
                -- The least start so far is one that was kept or the one of this row.
                split
                · exact ⟨openEnded, later, early, item, by simp, rfl⟩
                · next start found =>
                    rcases min_choice start item.effectiveFrom with least | least
                    · rw [least]
                      exact placed.mono_next start found
                    · rw [least]
                      exact ⟨openEnded, later, early, item, by simp, rfl⟩
          · cases step

/-- The loop over all rows. -/
theorem placed_of_foldlM (done : rows.foldlM (placeStep request) {} = .ok result) : Placed request rows result := by
  suffices general : ∀ earlier placement, Placed request earlier placement →
      rows.foldlM (placeStep request) placement = .ok result → Placed request (earlier ++ rows) result from
    general [] {} placed_nil done
  clear done
  induction rows with
  | nil =>
      intro earlier placement placed done
      simp only [List.foldlM_nil, pure, Except.pure, Except.ok.injEq] at done
      rw [List.append_nil]
      exact done ▸ placed
  | cons item rest ih =>
      intro earlier placement placed done
      rw [List.foldlM_cons, bind_eq_ok] at done
      obtain ⟨middle, first, later⟩ := done
      have := ih (earlier ++ [item]) middle (placeStep_placed placed first) later
      rwa [List.append_assoc] at this

end Loop

/-! ## The operations -/

section Operations
variable {services : Services} {book : RateBook} {now : Int}

theorem ensureAccountRateMutationsAllowed_ok {accountId : String} {extra : List String} {account : UtilityAccount}
    (allowed : ensureAccountRateMutationsAllowed services book accountId extra = .ok account) :
    book.account? accountId = some account := by
  unfold ensureAccountRateMutationsAllowed at allowed
  obtain ⟨found, required, rest⟩ := bind_eq_ok.mp allowed
  obtain ⟨_, _, rest⟩ := bind_eq_ok.mp rest
  obtain ⟨_, _, same⟩ := bind_eq_ok.mp rest
  exact Except.ok.inj same ▸ require_eq_ok.mp required

theorem Placed.congr {request : AssignmentRequest} {rows others : List RateAssignment} {placement : Placement}
    (placed : Placed request rows placement) (same : ∀ row, row ∈ rows ↔ row ∈ others) :
    Placed request others placement where
  seen := fun item member => placed.seen item ((same item).mpr member)
  covering := fun item member => placed.covering item ((same item).mpr member)
  replaced := fun item member => by
    obtain ⟨row, rest⟩ := placed.replaced item member
    exact ⟨(same item).mp row, rest⟩
  next := fun next member => by
    obtain ⟨openEnded, later, early, row, stored, start⟩ := placed.next next member
    exact ⟨openEnded, later, early, row, (same row).mp stored, start⟩

/-- What a request has passed when its window is placed. -/
structure Accepted (book : RateBook) (request : AssignmentRequest) (placement : Placement) : Prop where
  account : ∃ account, book.account? request.accountId = some account
  version : ∃ version plan, book.version? request.rateVersionId = some version ∧
    book.plan? version.ratePlanId = some plan
  proper : request.window.Proper
  apart : NonOverlapping (book.active request.accountId)
  placed : Placed request (book.active request.accountId) placement

theorem checkVersion_ok {request : AssignmentRequest} (ok : checkVersion services book request = .ok ()) :
    (∃ account, book.account? request.accountId = some account) ∧
      ∃ version plan, book.version? request.rateVersionId = some version ∧ book.plan? version.ratePlanId = some plan := by
  unfold checkVersion at ok
  obtain ⟨account, allowed, ok⟩ := bind_eq_ok.mp ok
  obtain ⟨_, ok⟩ := raiseIf_bind_eq_ok.mp ok
  obtain ⟨_, ok⟩ := raiseIf_bind_eq_ok.mp ok
  obtain ⟨version, stored, ok⟩ := bind_eq_ok.mp ok
  obtain ⟨_, ok⟩ := raiseIf_bind_eq_ok.mp ok
  obtain ⟨plan, planned, _⟩ := bind_eq_ok.mp ok
  exact ⟨⟨account, ensureAccountRateMutationsAllowed_ok allowed⟩, version, plan, require_eq_ok.mp stored,
    require_eq_ok.mp planned⟩

theorem placeWindow_ok {request : AssignmentRequest} {placement : Placement}
    (ok : placeWindow book request now = .ok placement) :
    request.window.Proper ∧ NonOverlapping (book.active request.accountId) ∧
      Placed request (book.active request.accountId) placement := by
  unfold placeWindow at ok
  obtain ⟨ordered, ok⟩ := raiseIf_bind_eq_ok.mp ok
  obtain ⟨_, ok⟩ := raiseIf_bind_eq_ok.mp ok
  obtain ⟨clear, ok⟩ := raiseIf_bind_eq_ok.mp ok
  refine ⟨?_, ?_, ?_⟩
  · intro finish closes
    by_contra early
    exact ordered ⟨finish, closes, not_lt.mp early⟩
  · have kept : (book.accountAssignments request.accountId false).filter (fun item => decide (item.cancelledAt = none)) =
        book.accountAssignments request.accountId false := by
      refine List.filter_eq_self.mpr fun item member => ?_
      have mine := ((book.mem_accountAssignments).mp member)
      simpa using (RateBook.mem_active.mp mine).2.2
    rw [not_not, conflictingPairs, kept, overlappingPairs_eq_nil] at clear
    exact clear.perm (book.accountAssignments_perm _)
  · exact (placed_of_foldlM ok).congr fun row => book.mem_accountAssignments

/-- `assign_version` raises, repeats an earlier request, or places its window. -/
theorem assignVersion_cases (request : AssignmentRequest) (id : String) :
    (∃ problem, assignVersion services book request id now = (.error problem, book)) ∨
    (∃ existing receipt, book.replayed? request = some existing ∧
      assignVersion services book request id now = (.ok receipt, book)) ∨
    (book.replayed? request = none ∧ ∃ placement receipt, Accepted book request placement ∧
      assignVersion services book request id now = (.ok receipt, book.place request id now placement)) := by
  unfold assignVersion
  cases again : book.replayed? request with
  | some existing => exact .inr (.inl ⟨existing, _, rfl, rfl⟩)
  | none =>
      dsimp only
      split
      · next problem _ => exact .inl ⟨problem, rfl⟩
      · next placement ok =>
          refine .inr (.inr ⟨rfl, placement, _, ?_, rfl⟩)
          obtain ⟨_, checked, ok⟩ := bind_eq_ok.mp ok
          obtain ⟨account, version⟩ := checkVersion_ok checked
          obtain ⟨proper, apart, placed⟩ := placeWindow_ok ok
          exact ⟨account, version, proper, apart, placed⟩

/-- `end_assignment` raises or ends the row that covers the instant. -/
theorem endAssignment_cases (request : EndRequest) :
    (∃ problem, endAssignment services book request now = (.error problem, book)) ∨
    ∃ account current, book.account? request.accountId = some account ∧ current ∈ book.active request.accountId ∧
      current.Covers request.effectiveAt ∧
      endAssignment services book request now = (.ok (endRow request now current), book.endCurrent request now current) := by
  unfold endAssignment
  split
  · next problem _ => exact .inl ⟨problem, rfl⟩
  · next account allowed =>
      split
      · exact .inl ⟨_, rfl⟩
      · next current found =>
          have covers := List.find?_some found
          refine .inr ⟨account, current, ensureAccountRateMutationsAllowed_ok allowed, ?_, by simpa using covers, rfl⟩
          exact book.mem_accountAssignments.mp (List.mem_of_find?_eq_some found)

theorem conflictingPairs_eq_nil {accountId : String} :
    conflictingPairs (book.accountAssignments accountId) = [] ↔ NonOverlapping (book.active accountId) := by
  have same : ((book.accountAssignments accountId).filter fun item => item.cancelledAt = none).Perm
      (book.active accountId) := by
    refine ((List.perm_insertionSort _ _).filter _).trans (List.Perm.of_eq ?_)
    rw [List.filter_filter]
    apply List.filter_congr
    intro row _
    rw [← Bool.decide_and]
    exact decide_eq_decide.mpr (by simp [RateAssignment.Of, and_comm])
  rw [conflictingPairs, overlappingPairs_eq_nil]
  exact ⟨fun apart => apart.perm same, fun apart => apart.perm same.symm⟩

/-- `resolve_assignment_conflict` raises, finds nothing to resolve, or cancels rows of a conflict. -/
theorem resolveAssignmentConflict_cases (request : ResolveRequest) :
    (∃ problem, resolveAssignmentConflict services book request now = (.error problem, book)) ∨
    (∃ receipt, resolveAssignmentConflict services book request now = (.ok receipt, book)) ∨
    (¬ NonOverlapping (book.active request.accountId) ∧
      ∃ ended change, (∀ row ∈ ended, row.utilityAccountId = request.accountId) ∧
        (∀ account : UtilityAccount, (change account).id = account.id) ∧
        (resolveAssignmentConflict services book request now).2 =
          (book.cancelConflicts request now ended).updateAccount request.accountId change) := by
  unfold resolveAssignmentConflict
  split
  · next problem _ => exact .inl ⟨problem, rfl⟩
  · dsimp only
    split
    · exact .inr (.inl ⟨_, rfl⟩)
    · next conflicts =>
        rw [conflictIds_eq_nil, conflictingPairs_eq_nil] at conflicts
        split
        · exact .inl ⟨_, rfl⟩
        · split
          · exact .inl ⟨_, rfl⟩
          · split
            · exact .inl ⟨_, rfl⟩
            · next keep _ _ =>
                refine .inr (.inr ⟨conflicts, (book.accountAssignments request.accountId).filter fun item =>
                  item.id ≠ keep.id ∧ item.id ∈ conflictIds (conflictingPairs (book.accountAssignments request.accountId)), ?_⟩)
                have mine : ∀ row ∈ book.accountAssignments request.accountId,
                    row.utilityAccountId = request.accountId := by
                  intro row member
                  have stored := (List.mem_insertionSort _).mp member
                  simp only [List.mem_filter, decide_eq_true_eq] at stored
                  exact stored.2.1
                split
                · exact ⟨id, fun row member => mine row (List.mem_of_mem_filter member), fun _ => rfl,
                    (RateBook.updateAccount_id _ _).symm⟩
                · refine ⟨_, fun row member => mine row (List.mem_of_mem_filter member), ?_, rfl⟩
                  exact fun _ => rfl

/-! ## What they write -/

theorem Rewrites.of_rows {rows chosen : List RateAssignment} {write : RateAssignment → RateAssignment}
    (writes : ∀ row ∈ chosen, row.Continues (write row) ∧ Shortened row (write row) ∧
      (row.cancelledAt ≠ none → (write row).cancelledAt ≠ none)) :
    Rewrites (fun row => if row ∈ chosen then write row else row) rows where
  continues := fun row _ => by
    split
    · next member => exact (writes row member).1
    · exact .refl row
  shortened := fun row _ => by
    split
    · next member => exact (writes row member).2.1
    · exact .kept rfl
  cancelled := fun row _ cancelled => by
    split
    · next member => exact (writes row member).2.2 cancelled
    · exact cancelled

theorem replaceRow_writes {request : AssignmentRequest} {placement : Placement} (accepted : Accepted book request placement)
    {row : RateAssignment} (member : row ∈ placement.replaced) :
    row.Continues (replaceRow request now row) ∧ Shortened row (replaceRow request now row) ∧
      (row.cancelledAt ≠ none → (replaceRow request now row).cancelledAt ≠ none) := by
  obtain ⟨_, overlap, _, covers⟩ := accepted.placed.replaced row member
  unfold replaceRow
  split
  · exact ⟨⟨rfl, rfl, rfl, rfl, rfl, rfl⟩, .cancelled (by simp), by simp⟩
  · next differs =>
      refine ⟨⟨rfl, rfl, rfl, rfl, rfl, rfl⟩, ?_, id⟩
      exact .ended request.effectiveFrom (lt_of_le_of_ne covers.1 differs) overlap.2.le rfl rfl

theorem endRow_writes {request : EndRequest} {row : RateAssignment} (covers : row.Covers request.effectiveAt) :
    row.Continues (endRow request now row) ∧ Shortened row (endRow request now row) ∧
      (row.cancelledAt ≠ none → (endRow request now row).cancelledAt ≠ none) := by
  unfold endRow
  split
  · exact ⟨⟨rfl, rfl, rfl, rfl, rfl, rfl⟩, .cancelled (by simp), by simp⟩
  · next differs =>
      refine ⟨⟨rfl, rfl, rfl, rfl, rfl, rfl⟩, ?_, id⟩
      have inside : request.effectiveAt ≤ row.effectiveTo.getD datetimeMax := by
        cases closes : row.effectiveTo with
        | none => exact request.representable
        | some finish => exact (covers.2 finish closes).le
      exact .ended request.effectiveAt (lt_of_le_of_ne covers.1 differs) inside rfl rfl

theorem cancelConflict_writes (request : ResolveRequest) (row : RateAssignment) :
    row.Continues (cancelConflict request now row) ∧ Shortened row (cancelConflict request now row) ∧
      (row.cancelledAt ≠ none → (cancelConflict request now row).cancelledAt ≠ none) :=
  ⟨⟨rfl, rfl, rfl, rfl, rfl, rfl⟩, .cancelled (by simp [cancelConflict]), by simp [cancelConflict]⟩

/-- The rows after `assign_version`, before the new one is added. -/
def replacedBook (book : RateBook) (request : AssignmentRequest) (now : Int) (placement : Placement) : RateBook :=
  { book with rateAssignments := book.rateAssignments.map fun row =>
      if row ∈ placement.replaced then replaceRow request now row else row }

theorem place_rateAssignments (request : AssignmentRequest) (id : String) (placement : Placement) :
    (book.place request id now placement).rateAssignments =
      (replacedBook book request now placement).rateAssignments ++ [newAssignment request id now placement] := rfl

theorem replaced_rewrites {request : AssignmentRequest} {placement : Placement}
    (accepted : Accepted book request placement) :
    Rewrites (fun row => if row ∈ placement.replaced then replaceRow request now row else row) book.rateAssignments :=
  .of_rows fun _ member => replaceRow_writes accepted member

/-- A row that is left beside the new window either stood apart from it or ends where it starts. -/
theorem mem_replacedBook {request : AssignmentRequest} {placement : Placement} (accepted : Accepted book request placement)
    {item : RateAssignment} (member : item ∈ (replacedBook book request now placement).active request.accountId) :
    (item ∈ book.active request.accountId ∧ item ∉ placement.replaced) ∨
      ∃ row ∈ placement.replaced, item.window = row.window.cut request.effectiveFrom := by
  obtain ⟨stored, mine⟩ := RateBook.mem_active.mp member
  obtain ⟨row, kept, rfl⟩ := List.mem_map.mp stored
  have before := (replaced_rewrites accepted).of kept mine
  by_cases chosen : row ∈ placement.replaced
  · rw [if_pos chosen] at mine ⊢
    refine .inr ⟨row, chosen, ?_⟩
    unfold replaceRow at mine ⊢
    split
    · next same =>
        rw [if_pos same] at mine
        exact absurd mine.2 (by simp)
    · rfl
  · rw [if_neg chosen]
    exact .inl ⟨RateBook.mem_active.mpr ⟨kept, before⟩, chosen⟩

theorem newAssignment_proper {request : AssignmentRequest} {id : String} {placement : Placement}
    (accepted : Accepted book request placement) : (newAssignment request id now placement).window.Proper := by
  intro finish closes
  cases future : placement.nextFutureStart with
  | none =>
      simp only [RateAssignment.window, newAssignment, future] at closes
      exact accepted.proper finish closes
  | some start =>
      simp only [RateAssignment.window, newAssignment, future, Option.mem_some_iff] at closes
      exact closes ▸ (accepted.placed.next start future).2.1

theorem newAssignment_separate {request : AssignmentRequest} {id : String} {placement : Placement}
    (accepted : Accepted book request placement) {item : RateAssignment}
    (member : item ∈ (replacedBook book request now placement).active request.accountId) :
    ¬ overlaps item.window (newAssignment request id now placement).window := by
  intro overlap
  rcases mem_replacedBook accepted member with ⟨kept, notReplaced⟩ | ⟨row, _, ends⟩
  · cases future : placement.nextFutureStart with
    | none =>
        have requested : overlaps item.window request.window := by
          simpa only [RateAssignment.window, AssignmentRequest.window, newAssignment, future] using overlap
        rcases accepted.placed.seen item kept requested with replaced | ⟨next, found, _⟩
        · exact notReplaced replaced
        · rw [future] at found
          cases found
    | some start =>
        obtain ⟨openEnded, _, early, _⟩ := accepted.placed.next start future
        have before : item.effectiveFrom < start := by
          have bound := overlap.1
          simp only [RateAssignment.window, newAssignment, future] at bound
          exact bound
        have requested : overlaps item.window request.window := by
          have := overlap.2
          refine ⟨?_, this⟩
          simp only [AssignmentRequest.window, openEnded]
          exact before.trans early
        rcases accepted.placed.seen item kept requested with replaced | ⟨next, found, upTo⟩
        · exact notReplaced replaced
        · obtain rfl := Option.some.inj (future.symm.trans found)
          exact absurd before upTo.not_gt
  · rw [ends] at overlap
    exact lt_irrefl _ overlap.2

theorem place_timeline {request : AssignmentRequest} {placement : Placement} (accepted : Accepted book request placement)
    (id : String) {accountId : String} (timeline : book.Timeline accountId) :
    (book.place request id now placement).Timeline accountId := by
  have replaced : (replacedBook book request now placement).Timeline accountId :=
    (replaced_rewrites accepted).timeline timeline rfl
  apply replaced.append (place_rateAssignments request id placement)
  rintro ⟨mine, _⟩
  obtain rfl : request.accountId = accountId := mine
  exact ⟨newAssignment_proper accepted, fun item member => newAssignment_separate accepted member⟩

end Operations

/-! ## Runs -/

/-- One request of the assignment service, at the time it is executed. -/
inductive Operation where
  | assignVersion (request : AssignmentRequest) (id : String) (now : Int)
  | endAssignment (request : EndRequest) (now : Int)
  | resolveAssignmentConflict (request : ResolveRequest) (now : Int)

namespace Operation

def accountId : Operation → String
  | assignVersion request _ _ => request.accountId
  | endAssignment request _ => request.accountId
  | resolveAssignmentConflict request _ => request.accountId

/-- The time at which the operation is executed. -/
def now : Operation → Int
  | assignVersion _ _ now => now
  | endAssignment _ now => now
  | resolveAssignmentConflict _ now => now

/-- The failure of the operation, if it raises, and the rows it leaves. -/
def perform (services : Services) (book : RateBook) : Operation → Outcome Unit
  | assignVersion request id now =>
      let outcome := Assignments.assignVersion services book request id now
      (outcome.1.map fun _ => (), outcome.2)
  | endAssignment request now =>
      let outcome := Assignments.endAssignment services book request now
      (outcome.1.map fun _ => (), outcome.2)
  | resolveAssignmentConflict request now =>
      let outcome := Assignments.resolveAssignmentConflict services book request now
      (outcome.1.map fun _ => (), outcome.2)

end Operation

section Runs
variable (services : Services)

/-- The rows after the operations in turn. -/
def performAll (book : RateBook) (operations : List Operation) : RateBook :=
  operations.foldl (fun book operation => (operation.perform services book).2) book

/-- No row is deleted and every row remains the same assignment. -/
def Preserves (book after : RateBook) : Prop :=
  ∀ row ∈ book.rateAssignments, ∃ next ∈ after.rateAssignments, row.Continues next

variable {services} {book after : RateBook}

theorem Preserves.refl : Preserves book book := fun row stored => ⟨row, stored, .refl row⟩

theorem Rewrites.preserves {change : RateAssignment → RateAssignment} {added : List RateAssignment}
    (rewrites : Rewrites change book.rateAssignments)
    (table : after.rateAssignments = book.rateAssignments.map change ++ added) : Preserves book after := by
  intro row stored
  refine ⟨change row, ?_, rewrites.continues row stored⟩
  rw [table]
  exact List.mem_append_left _ (List.mem_map_of_mem stored)

theorem endCurrent_rewrites {request : EndRequest} {now : Int} {current : RateAssignment}
    (covers : current.Covers request.effectiveAt) :
    Rewrites (fun row => if row = current then endRow request now row else row) book.rateAssignments := by
  have rewrites : Rewrites (fun row => if row ∈ [current] then endRow request now row else row) book.rateAssignments :=
    .of_rows fun row member => endRow_writes (List.mem_singleton.mp member ▸ covers)
  simpa only [List.mem_singleton] using rewrites

/-- One operation keeps the timeline of every account and all rows. -/
theorem perform_keeps (operation : Operation) (accountId : String) (timeline : book.Timeline accountId) :
    (operation.perform services book).2.Timeline accountId ∧ Preserves book (operation.perform services book).2 := by
  cases operation with
  | assignVersion request id now =>
      dsimp only [Operation.perform]
      obtain ⟨_, raised⟩ | ⟨_, _, _, replayed⟩ | ⟨_, placement, _, accepted, placed⟩ :=
        assignVersion_cases request id
      · exact raised ▸ ⟨timeline, .refl⟩
      · exact replayed ▸ ⟨timeline, .refl⟩
      · rw [placed]
        exact ⟨place_timeline accepted id timeline, (replaced_rewrites accepted).preserves rfl⟩
  | endAssignment request now =>
      dsimp only [Operation.perform]
      obtain ⟨_, raised⟩ | ⟨_, current, _, _, covers, ended⟩ := endAssignment_cases request
      · exact raised ▸ ⟨timeline, .refl⟩
      · rw [ended]
        exact ⟨(endCurrent_rewrites covers).timeline timeline rfl,
          (endCurrent_rewrites covers).preserves (List.append_nil _).symm⟩
  | resolveAssignmentConflict request now =>
      dsimp only [Operation.perform]
      obtain ⟨_, raised⟩ | ⟨_, nothing⟩ | ⟨_, ended, _, _, _, written⟩ := resolveAssignmentConflict_cases request
      · exact raised ▸ ⟨timeline, .refl⟩
      · exact nothing ▸ ⟨timeline, .refl⟩
      · have rewrites : Rewrites (fun row => if row ∈ ended then cancelConflict request now row else row)
            book.rateAssignments := .of_rows fun row _ => cancelConflict_writes request row
        rw [written]
        exact ⟨rewrites.timeline timeline rfl, rewrites.preserves (List.append_nil _).symm⟩

/-- On an account without overlaps a failed operation has written nothing. -/
theorem perform_raised {operation : Operation} {problem : ProblemError}
    (apart : NonOverlapping (book.active operation.accountId))
    (raised : (operation.perform services book).1 = .error problem) : (operation.perform services book).2 = book := by
  cases operation with
  | assignVersion request id now =>
      dsimp only [Operation.perform] at raised ⊢
      obtain ⟨_, failed⟩ | ⟨_, _, _, replayed⟩ | ⟨_, placement, _, accepted, placed⟩ :=
        assignVersion_cases request id
      · rw [failed]
      · rw [replayed]
      · rw [placed] at raised
        cases raised
  | endAssignment request now =>
      dsimp only [Operation.perform] at raised ⊢
      obtain ⟨_, failed⟩ | ⟨_, current, _, _, covers, ended⟩ := endAssignment_cases request
      · rw [failed]
      · rw [ended] at raised
        cases raised
  | resolveAssignmentConflict request now =>
      dsimp only [Operation.perform] at raised ⊢
      obtain ⟨_, failed⟩ | ⟨_, nothing⟩ | ⟨conflicts, _⟩ := resolveAssignmentConflict_cases request
      · rw [failed]
      · rw [nothing]
      · exact absurd apart conflicts

theorem performAll_keeps (operations : List Operation) {accountId : String} (timeline : book.Timeline accountId) :
    (performAll services book operations).Timeline accountId ∧
      Preserves book (performAll services book operations) := by
  refine foldl_invariant (P := fun reached => reached.Timeline accountId ∧ Preserves book reached)
    ⟨timeline, .refl⟩ ?_ operations
  rintro reached operation ⟨kept, preserved⟩
  obtain ⟨timeline, preserves⟩ := perform_keeps operation accountId kept
  refine ⟨timeline, fun row stored => ?_⟩
  obtain ⟨middle, reachedRow, before⟩ := preserved row stored
  obtain ⟨next, nextRow, later⟩ := preserves middle reachedRow
  exact ⟨next, nextRow, before.trans later⟩

variable (services)

/-- From an account without overlaps, whatever operations of any accounts follow: its assignments stay
non-empty windows without overlaps, no row is lost, and an operation on it that raises leaves every row
as it was. -/
theorem assignment_timeline (start : RateBook) (accountId : String) (timeline : start.Timeline accountId)
    (operations : List Operation) :
    (performAll services start operations).Timeline accountId ∧
    Preserves start (performAll services start operations) ∧
    ∀ earlier operation later, operations = earlier ++ operation :: later → operation.accountId = accountId →
      ∀ problem, (operation.perform services (performAll services start earlier)).1 = .error problem →
        (operation.perform services (performAll services start earlier)).2 = performAll services start earlier := by
  obtain ⟨kept, preserved⟩ := performAll_keeps operations timeline
  refine ⟨kept, preserved, ?_⟩
  rintro earlier operation later - rfl problem raised
  exact perform_raised (performAll_keeps earlier timeline).1.apart raised

/-! ## A household -/

/-- No reset is under way and every document is valid. -/
def quietServices : Services where
  ensureSiteResetMutationsAllowed := fun _ => .ok ()
  documentErrors := fun _ => []

/-- One account on its first plan since instant 0, and a second published plan. -/
def household : RateBook :=
  { utilityAccounts := [{ id := "service", siteId := "site", activeRateVersionId := some "flat" }]
    ratePlans := [{ id := "flat-plan" }, { id := "tou-plan" }]
    rateVersions := [{ id := "flat", ratePlanId := "flat-plan", status := .published },
      { id := "tou", ratePlanId := "tou-plan", status := .published }]
    rateAssignments := [{ id := "first", utilityAccountId := "service", rateVersionId := "flat", effectiveFrom := 0 }] }

theorem household_timeline : household.Timeline "service" := by
  constructor
  · simp [NonOverlapping, Apart, RateBook.active, household, RateAssignment.Of]
  · intro row member
    simp only [RateBook.mem_active, household, List.mem_singleton] at member
    obtain ⟨rfl, _⟩ := member
    simp [Window.Proper, RateAssignment.window]

theorem at120 : 120 ≤ datetimeMax := by decide

theorem at200 : 200 ≤ datetimeMax := by decide

/-- A change of plan at 100, its end at 200, and an end at a time without a plan. -/
def householdChanges : List Operation :=
  [.assignVersion { accountId := "service", rateVersionId := "tou", effectiveFrom := 100, replaceCurrent := true } "second" 150,
    .endAssignment { accountId := "service", effectiveAt := 200, representable := at200 } 250,
    .endAssignment { accountId := "service", effectiveAt := 300, representable := by decide } 350]

theorem household_assignment_timeline :
    ((performAll quietServices household householdChanges).active "service").map (fun row => (row.id, row.effectiveFrom, row.effectiveTo)) =
      [("first", 0, some 100), ("second", 100, some 200)] ∧
    (performAll quietServices household householdChanges).Timeline "service" :=
  ⟨by decide, (assignment_timeline quietServices household "service" household_timeline householdChanges).1⟩

end Runs

end PowerMonitor.Assignments
