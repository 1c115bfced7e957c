import PowerMonitor.Assignments.ActiveRate
import PowerMonitor.Assignments.Requests

/-! Edits of the assignments of an account, beside the assignment service.

Unassigning a plan ends the row it finds at the requested instant, a patch ends a named row, and a deletion cancels
a scheduled one. The first two also find cancelled rows, and they decide on the active rate by tests of their own.
-/

set_option autoImplicit false
namespace PowerMonitor.Assignments
open Library
open Pricing (UtilityAccount require require_eq_ok)

inductive Edit where
  | unassignRatePlan (principal : Principal) (request : UnassignRequest) (now : Int)
  | patchRateAssignment (principal : Principal) (request : PatchRequest) (now : Int)
  | deleteRateAssignment (principal : Principal) (assignmentId : String) (now : Int)

namespace Edit

/-- The time at which the request is executed. -/
def now : Edit → Int
  | unassignRatePlan _ _ now => now
  | patchRateAssignment _ _ now => now
  | deleteRateAssignment _ _ now => now

def perform (services : DeskServices) (desk : RateDesk) : Edit → Except RequestFailure RateDesk
  | unassignRatePlan principal request now => (Assignments.unassignRatePlan services desk principal request now).map Prod.snd
  | patchRateAssignment principal request now => Assignments.patchRateAssignment services desk principal request now
  | deleteRateAssignment principal assignmentId now => Assignments.deleteRateAssignment services desk principal assignmentId now

/-- After a plan is unassigned, no row in force gives a version of it at the requested instant. -/
def Releases (after : RateBook) (accountId : String) : Edit → Prop
  | unassignRatePlan _ request _ => request.accountId = accountId → ∀ row ∈ after.active accountId,
      row.rateVersionId ∈ after.versionIdsOf request.planId → ¬ row.Covers request.effectiveAt
  | _ => True

/-- What makes an edit keep the rate authority of the account coherent. A request that is taken for a repeated one
must find the plan released already. Otherwise the row found at the instant is not cancelled, and no other row of the
plan is in force now when an earlier one is ended in the past. A patch names a row that is not cancelled and does not
end the current one in the past. -/
def Careful (desk : RateDesk) (accountId : String) : Edit → Prop
  | unassignRatePlan principal request now => request.accountId = accountId →
      if desk.unassigned? principal request ≠ none then
        ∀ row ∈ desk.book.active accountId, row.rateVersionId ∈ desk.book.versionIdsOf request.planId →
          ¬ row.Covers request.effectiveAt
      else
        (∀ row ∈ (desk.book.assignedAt request.planId accountId request.effectiveAt).head?, row.cancelledAt = none) ∧
          ¬ (request.effectiveAt ≤ now ∧ ∃ row ∈ desk.book.active accountId,
            row.rateVersionId ∈ desk.book.versionIdsOf request.planId ∧ row.Covers now ∧ ¬ row.Covers request.effectiveAt)
  | patchRateAssignment _ request now => ∀ row ∈ desk.book.assignment? request.assignmentId,
      row.utilityAccountId = accountId → ∀ finish ∈ request.effectiveTo,
        row.cancelledAt = none ∧ ¬ (row.Covers now ∧ finish ≤ now)
  | deleteRateAssignment _ _ _ => True

end Edit

/-- The cancelled rows of the account are as they were, its other rows are non-empty windows without overlaps, the
active rate is the one they give now, and an unassigned plan is released. -/
structure EditedWell (before after : RateDesk) (edit : Edit) (accountId : String) : Prop where
  cancelled : ∀ row ∈ before.book.rateAssignments, row.utilityAccountId = accountId → row.cancelledAt ≠ none →
    row ∈ after.book.rateAssignments
  timeline : after.book.Timeline accountId
  coherent : after.book.Coherent accountId edit.now
  released : edit.Releases after.book accountId

/-! ## Writing one row -/

section Rows
variable {book : RateBook} {target row : RateAssignment} {write : RateAssignment → RateAssignment} {accountId versionId : String}
  {finish instant : Int}

/-- The row that has the id is the only one. -/
theorem StoredAssignments.same_row {rows : List RateAssignment} (stored : StoredAssignments rows) (member : row ∈ rows)
    (present : target ∈ rows) (same : row.id = target.id) : row = target :=
  List.inj_on_of_nodup_map stored.ids member present same

/-- The row is ended inside its window. -/
structure Ends (finish : Int) (row next : RateAssignment) : Prop where
  continues : row.Continues next
  later : row.effectiveFrom < finish
  inside : finish ≤ row.effectiveTo.getD datetimeMax
  window : next.window = row.window.cut finish
  state : next.cancelledAt = row.cancelledAt

theorem Ends.covers_iff (ends : Ends finish row (write row)) :
    (write row).Covers instant ↔ row.Covers instant ∧ instant < finish := by
  rw [RateAssignment.Covers, ends.window, Window.contains_cut]
  · exact Iff.rfl
  · intro value closes
    have inside := ends.inside
    rw [show row.effectiveTo = some value from closes] at inside
    exact inside

theorem Ends.rewrites (stored : StoredAssignments book.rateAssignments) (present : target ∈ book.rateAssignments)
    (ends : Ends finish target (write target)) :
    Rewrites (fun row => if row.id = target.id then write row else row) book.rateAssignments where
  continues := fun row member => by
    split
    · next same =>
        rw [stored.same_row member present same]
        exact ends.continues
    · exact .refl row
  shortened := fun row member => by
    split
    · next same =>
        rw [stored.same_row member present same]
        exact .ended finish ends.later ends.inside ends.window ends.state
    · exact .kept rfl
  cancelled := fun row member cancelled => by
    split
    · next same =>
        rw [stored.same_row member present same] at cancelled ⊢
        exact ends.state ▸ cancelled
    · exact cancelled

theorem Ends.timeline (stored : StoredAssignments book.rateAssignments) (present : target ∈ book.rateAssignments)
    (ends : Ends finish target (write target)) (timeline : book.Timeline accountId) :
    (book.updateAssignment target.id write).Timeline accountId :=
  (ends.rewrites stored present).timeline timeline rfl

theorem Ends.active_iff (stored : StoredAssignments book.rateAssignments) (present : target ∈ book.rateAssignments)
    (ends : Ends finish target (write target)) {P : String → Prop} :
    (∃ row ∈ (book.updateAssignment target.id write).active accountId, row.Covers instant ∧ P row.rateVersionId) ↔
      ∃ row ∈ book.active accountId, row.Covers instant ∧ P row.rateVersionId ∧ (row = target → instant < finish) := by
  constructor
  · rintro ⟨next, member, covers, version⟩
    obtain ⟨written, mine⟩ := RateBook.mem_active.mp member
    obtain ⟨row, kept, rfl⟩ := List.mem_map.mp written
    have before := (ends.rewrites stored present).of kept mine
    refine ⟨row, RateBook.mem_active.mpr ⟨kept, before⟩, ?_⟩
    by_cases same : row.id = target.id
    · obtain rfl := stored.same_row kept present same
      rw [if_pos rfl] at covers version
      rw [ends.covers_iff] at covers
      exact ⟨covers.1, ends.continues.rateVersionId ▸ version, fun _ => covers.2⟩
    · rw [if_neg same] at covers version
      exact ⟨covers, version, fun equal => absurd (congrArg RateAssignment.id equal) same⟩
  · rintro ⟨row, member, covers, version, before⟩
    obtain ⟨kept, mine⟩ := RateBook.mem_active.mp member
    refine ⟨if row.id = target.id then write row else row, ?_⟩
    have written : (if row.id = target.id then write row else row) ∈
        (book.updateAssignment target.id write).rateAssignments := List.mem_map_of_mem kept
    by_cases same : row.id = target.id
    · obtain rfl := stored.same_row kept present same
      rw [if_pos rfl] at written ⊢
      refine ⟨RateBook.mem_active.mpr ⟨written, ?_⟩, ends.covers_iff.mpr ⟨covers, before rfl⟩,
        ends.continues.rateVersionId.symm ▸ version⟩
      exact ⟨ends.continues.utilityAccountId.trans mine.1, ends.state.trans mine.2⟩
    · rw [if_neg same] at written ⊢
      exact ⟨RateBook.mem_active.mpr ⟨written, mine⟩, covers, version⟩

theorem Ends.prices_iff (stored : StoredAssignments book.rateAssignments) (present : target ∈ book.rateAssignments)
    (ends : Ends finish target (write target)) :
    (book.updateAssignment target.id write).Prices accountId instant versionId ↔
      ∃ row ∈ book.active accountId, row.Covers instant ∧ row.rateVersionId = versionId ∧
        (row = target → instant < finish) :=
  ends.active_iff (P := fun version => version = versionId) stored present

/-- A written row is no longer in the table. -/
theorem not_mem_updateAssignment (stored : StoredAssignments book.rateAssignments) (present : target ∈ book.rateAssignments)
    (changed : write target ≠ target) (keeps : (write target).id = target.id) :
    target ∉ (book.updateAssignment target.id write).rateAssignments := by
  intro member
  obtain ⟨row, kept, same⟩ := List.mem_map.mp member
  by_cases here : row.id = target.id
  · obtain rfl := stored.same_row kept present here
    rw [if_pos rfl] at same
    exact changed same
  · rw [if_neg here] at same
    exact here (congrArg RateAssignment.id same)

theorem mem_updateAssignment_of_ne (member : row ∈ book.rateAssignments) (different : row.id ≠ target.id) :
    row ∈ (book.updateAssignment target.id write).rateAssignments :=
  List.mem_map.mpr ⟨row, member, if_neg different⟩

/-- The accounts beside the changed one are found as before. -/
theorem RateBook.account?_updateAccount_of_ne {other : String} {change : UtilityAccount → UtilityAccount}
    (different : other ≠ accountId) (keeps : ∀ account, (change account).id = account.id) :
    (book.updateAccount accountId change).account? other = book.account? other := by
  unfold account? updateAccount
  generalize book.utilityAccounts = accounts
  dsimp only
  induction accounts with
  | nil => rfl
  | cons account rest ih =>
      by_cases here : account.id = accountId
      · have away : ¬ account.id = other := fun same => different (same.symm.trans here)
        rw [List.map_cons, if_pos here, List.find?_cons_of_neg (by simpa [keeps] using away),
          List.find?_cons_of_neg (by simpa using away), ih]
      · rw [List.map_cons, if_neg here]
        by_cases found : account.id = other
        · rw [List.find?_cons_of_pos (by simpa using found), List.find?_cons_of_pos (by simpa using found)]
        · rw [List.find?_cons_of_neg (by simpa using found), List.find?_cons_of_neg (by simpa using found), ih]

end Rows

/-! ## What a successful edit has done -/

section Success
variable {services : DeskServices} {desk after : RateDesk} {book : RateBook} {principal : Principal} {now : Int}

theorem flush_spec (ok : desk.flush book = .ok after) :
    ∃ stored, after = { desk with book := book, stored := stored } := by
  unfold RateDesk.flush at ok
  split at ok
  · next stored =>
      cases ok
      exact ⟨stored, rfl⟩
  · cases ok

theorem mem_assignedAt {planId accountId : String} {instant : Int} {row : RateAssignment} :
    row ∈ book.assignedAt planId accountId instant ↔ row ∈ book.rateAssignments ∧ row.utilityAccountId = accountId ∧
      row.rateVersionId ∈ book.versionIdsOf planId ∧ row.Covers instant := by
  simp only [RateBook.assignedAt, (perm_sortedBy _ _).mem_iff, List.mem_filter, decide_eq_true_eq]

/-- The row found starts last among those that could be found. -/
theorem assignedAt_head {planId accountId : String} {instant : Int} {target row : RateAssignment}
    (found : (book.assignedAt planId accountId instant).head? = some target)
    (member : row ∈ book.assignedAt planId accountId instant) : row.effectiveFrom ≤ target.effectiveFrom := by
  have sorted := sortedBy_pairwise (fun row : RateAssignment => - row.effectiveFrom) (book.rateAssignments.filter fun row =>
    row.utilityAccountId = accountId ∧ row.rateVersionId ∈ book.versionIdsOf planId ∧ row.Covers instant)
  change (book.assignedAt planId accountId instant).Pairwise _ at sorted
  obtain ⟨rest, split⟩ := List.head?_eq_some_iff.mp found
  rw [split] at sorted member
  rcases List.mem_cons.mp member with rfl | later
  · exact le_rfl
  · have := (List.pairwise_cons.mp sorted).1 row later
    omega

/-- `unassign_rate_plan` repeats an earlier request, or ends the row it finds. -/
theorem unassignRatePlan_cases {request : UnassignRequest} {reply : EndReply}
    (ok : unassignRatePlan services desk principal request now = .ok (reply, after)) :
    (desk.unassigned? principal request ≠ none ∧ after = desk) ∨
      (desk.unassigned? principal request = none ∧ ∃ target,
        (desk.book.assignedAt request.planId request.accountId request.effectiveAt).head? = some target ∧
        StoredAssignments (desk.book.unassign request now target).rateAssignments ∧
        after.book = desk.book.unassign request now target ∧
        ∃ event, event.action = .planUnassigned ∧ event.idempotencyKey = request.idempotencyKey ∧
          event.ratePlanId = some request.planId ∧ event.utilityAccountId = some request.accountId ∧
          after.auditEvents = desk.auditEvents ++ [event]) := by
  unfold unassignRatePlan at ok
  obtain ⟨_, _, ok⟩ := bind_eq_ok.mp ok
  obtain ⟨_, _, ok⟩ := bind_eq_ok.mp ok
  obtain ⟨_, _, ok⟩ := bind_eq_ok.mp ok
  obtain ⟨_, _, ok⟩ := bind_eq_ok.mp ok
  obtain ⟨_, _, ok⟩ := bind_eq_ok.mp ok
  obtain ⟨_, _, ok⟩ := bind_eq_ok.mp ok
  split at ok
  · next event found =>
      cases ok
      exact .inl ⟨by simp [found], rfl⟩
  · next missing =>
      obtain ⟨target, checked, ok⟩ := bind_eq_ok.mp ok
      obtain ⟨flushed, stored, ok⟩ := bind_eq_ok.mp ok
      cases ok
      obtain ⟨constraints, rfl⟩ := flush_spec stored
      unfold unassignChecks at checked
      obtain ⟨_, checked⟩ := raiseIf_bind_eq_ok.mp (rising_eq_ok.mp checked)
      obtain ⟨_, checked⟩ := raiseIf_bind_eq_ok.mp checked
      obtain ⟨_, checked⟩ := raiseIf_bind_eq_ok.mp checked
      exact .inr ⟨missing, target, require_eq_ok.mp checked, constraints, rfl, _, rfl, rfl, rfl, rfl, rfl⟩

/-- `patch_rate_assignment` writes the row of its id, which is not over, to an end inside its window. -/
theorem patchRateAssignment_ok {request : PatchRequest}
    (ok : patchRateAssignment services desk principal request now = .ok after) :
    ∃ target, desk.book.assignment? request.assignmentId = some target ∧ assignmentState target now ≠ .historical ∧
      (∀ finish ∈ request.effectiveTo, Ends finish target (patchRow request target)) ∧
      ∃ stored event, after = (RateDesk.queueUnfinalizedCostRuns
        { desk with book := desk.book.updateAssignment request.assignmentId (patchRow request), stored := stored }
        target.utilityAccountId).record event := by
  unfold patchRateAssignment at ok
  obtain ⟨_, _, ok⟩ := bind_eq_ok.mp ok
  obtain ⟨target, found, ok⟩ := bind_eq_ok.mp ok
  obtain ⟨_, _, ok⟩ := bind_eq_ok.mp ok
  obtain ⟨_, checked, ok⟩ := bind_eq_ok.mp ok
  obtain ⟨flushed, stored, ok⟩ := bind_eq_ok.mp ok
  cases ok
  unfold patchChecks at checked
  obtain ⟨current, checked⟩ := raiseIf_bind_eq_ok.mp (rising_eq_ok.mp checked)
  obtain ⟨_, checked⟩ := raiseIf_bind_eq_ok.mp checked
  obtain ⟨later, checked⟩ := raiseIf_bind_eq_ok.mp checked
  have narrower := raiseIf_eq_ok.mp checked
  obtain ⟨kept, rfl⟩ := flush_spec stored
  refine ⟨target, require_eq_ok.mp (rising_eq_ok.mp found), current, ?_, kept, _, rfl⟩
  intro finish asked
  have written : patchRow request target = { target with effectiveTo := some finish, revision := target.revision + 1 } := by
    unfold patchRow
    rw [show request.effectiveTo = some finish from asked]
  rw [written]
  refine ⟨⟨rfl, rfl, rfl, rfl, rfl, rfl⟩, ?_, ?_, rfl, rfl⟩
  · by_contra early
    exact later ⟨finish, asked, not_lt.mp early⟩
  · cases closes : target.effectiveTo with
    | none => exact request.representable finish asked
    | some current =>
        by_contra beyond
        exact narrower ⟨finish, asked, current, closes, not_le.mp beyond⟩

/-- `delete_rate_assignment` finds nothing, or cancels a row that has not started. -/
theorem deleteRateAssignment_cases {assignmentId : String}
    (ok : deleteRateAssignment services desk principal assignmentId now = .ok after) :
    after = desk ∨ ∃ target, desk.book.assignment? assignmentId = some target ∧ assignmentState target now = .scheduled ∧
      after.book = desk.book.updateAssignment assignmentId (cancelScheduled principal now) := by
  unfold deleteRateAssignment at ok
  obtain ⟨_, _, ok⟩ := bind_eq_ok.mp ok
  split at ok
  · cases ok
    exact .inl rfl
  · next target found =>
      obtain ⟨_, _, ok⟩ := bind_eq_ok.mp ok
      obtain ⟨_, scheduled, ok⟩ := bind_eq_ok.mp ok
      obtain ⟨flushed, stored, ok⟩ := bind_eq_ok.mp ok
      cases ok
      have state := raiseIf_eq_ok.mp (rising_eq_ok.mp scheduled)
      obtain ⟨_, rfl⟩ := flush_spec stored
      exact .inr ⟨target, found, not_not.mp state, rfl⟩

end Success

/-! ## When an edit keeps the account coherent -/

section Coherence
variable {services : DeskServices} {desk after : RateDesk} {principal : Principal} {accountId : String} {now : Int}
  {target : RateAssignment}

theorem RateDesk.timeline (desk : RateDesk) (apart : NonOverlapping (desk.book.active accountId)) :
    desk.book.Timeline accountId :=
  ⟨apart, fun row member => desk.stored.proper row (RateBook.mem_active.mp member).1⟩

theorem Ends.prices_elsewhere {write : RateAssignment → RateAssignment} {finish instant : Int} {versionId : String}
    (present : target ∈ desk.book.rateAssignments) (ends : Ends finish target (write target))
    (elsewhere : target ∉ desk.book.active accountId) :
    (desk.book.updateAssignment target.id write).Prices accountId instant versionId ↔
      desk.book.Prices accountId instant versionId := by
  rw [ends.prices_iff desk.stored present]
  constructor
  · rintro ⟨row, member, covers, version, _⟩
    exact ⟨row, member, covers, version⟩
  · rintro ⟨row, member, covers, version⟩
    exact ⟨row, member, covers, version, fun same => absurd (same ▸ member) elsewhere⟩

theorem unassignRow_ends {request : UnassignRequest} (present : target ∈ desk.book.rateAssignments)
    (covers : target.Covers request.effectiveAt)
    (stored : StoredAssignments (desk.book.unassign request now target).rateAssignments) :
    Ends request.effectiveAt target (unassignRow request target) := by
  refine ⟨⟨rfl, rfl, rfl, rfl, rfl, rfl⟩, ?_, ?_, rfl, rfl⟩
  · -- The constraint on the table refuses an empty window.
    have written : unassignRow request target ∈ (desk.book.unassign request now target).rateAssignments :=
      List.mem_map.mpr ⟨target, present, if_pos rfl⟩
    exact stored.proper _ written request.effectiveAt rfl
  · cases closes : target.effectiveTo with
    | none => exact request.representable
    | some finish => exact (covers.2 finish closes).le

/-- The pointer of the account after a plan has been unassigned. -/
theorem unassign_account {request : UnassignRequest} {account : UtilityAccount}
    (found : desk.book.account? request.accountId = some account) :
    ∃ later, (desk.book.unassign request now target).account? request.accountId = some later ∧
      later.activeRateVersionId = if desk.book.PointsTo request.planId account ∧ request.effectiveAt ≤ now then none
        else account.activeRateVersionId := by
  have there : (desk.book.updateAssignment target.id (unassignRow request)).account? request.accountId = some account := found
  refine ⟨_, RateBook.account?_updateAccount there ?_, ?_⟩
  · intro row
    split <;> rfl
  · split <;> rfl

/-- The active rate is right unless a later row of the plan is in force now and its pointer was cleared. -/
theorem unassign_coherent_iff {request : UnassignRequest} (apart : NonOverlapping (desk.book.active request.accountId))
    (coherent : desk.book.Coherent request.accountId now) (below : now < datetimeMax)
    (mine : target ∈ desk.book.active request.accountId) (planned : target.rateVersionId ∈ desk.book.versionIdsOf request.planId)
    (covers : target.Covers request.effectiveAt) (ends : Ends request.effectiveAt target (unassignRow request target)) :
    (desk.book.unassign request now target).Coherent request.accountId now ↔
      ¬ (request.effectiveAt ≤ now ∧ ∃ row ∈ desk.book.active request.accountId,
        row.rateVersionId ∈ desk.book.versionIdsOf request.planId ∧ row.Covers now ∧ ¬ row.Covers request.effectiveAt) := by
  obtain ⟨account, found, agrees⟩ := coherent
  obtain ⟨later, present, pointer⟩ := @unassign_account desk now target request account found
  rw [RateBook.coherent_iff present, pointer]
  have prices : ∀ versionId, (desk.book.unassign request now target).Prices request.accountId now versionId ↔
      ∃ row ∈ desk.book.active request.accountId, row.Covers now ∧ row.rateVersionId = versionId ∧
        (row = target → now < request.effectiveAt) :=
    fun versionId => ends.prices_iff desk.stored (RateBook.mem_active.mp mine).1
  simp only [prices]
  by_cases past : request.effectiveAt ≤ now
  · by_cases points : desk.book.PointsTo request.planId account
    · rw [if_pos ⟨points, past⟩]
      obtain ⟨versionId, active, planVersion⟩ := points
      obtain ⟨current, currentMine, currentCovers, version⟩ := (agrees versionId).mp active
      constructor
      · rintro cleared ⟨_, row, rowMine, _, rowCovers, elsewhere⟩
        have different : row ≠ target := fun same => elsewhere (same ▸ covers)
        have priced := (cleared row.rateVersionId).mpr ⟨row, rowMine, rowCovers, rfl, fun same => absurd same different⟩
        cases priced
      · intro alone versionId
        refine iff_of_false (by simp) ?_
        rintro ⟨row, rowMine, rowCovers, _, before⟩
        -- The row in force now gives a version of the plan, so it is the one that was ended.
        have same : row = target := by
          obtain rfl := (desk.timeline apart).apart.unique below rowMine currentMine rowCovers currentCovers
          by_contra different
          refine alone ⟨past, row, rowMine, version ▸ planVersion, rowCovers, fun here => different ?_⟩
          exact (desk.timeline apart).apart.unique (past.trans_lt below) rowMine mine here covers
        exact absurd (before same) past.not_gt
    · rw [if_neg (fun both => points both.1)]
      have away : ∀ row ∈ desk.book.active request.accountId, row.Covers now →
          row.rateVersionId ∉ desk.book.versionIdsOf request.planId := by
        intro row rowMine rowCovers planVersion
        exact points ⟨row.rateVersionId, (agrees _).mpr ⟨row, rowMine, rowCovers, rfl⟩, planVersion⟩
      refine iff_of_true (fun versionId => ?_) ?_
      · rw [agrees]
        constructor
        · rintro ⟨row, rowMine, rowCovers, version⟩
          exact ⟨row, rowMine, rowCovers, version, fun same => absurd (same ▸ planned) (away row rowMine rowCovers)⟩
        · rintro ⟨row, rowMine, rowCovers, version, _⟩
          exact ⟨row, rowMine, rowCovers, version⟩
      · rintro ⟨_, row, rowMine, planVersion, rowCovers, _⟩
        exact away row rowMine rowCovers planVersion
  · rw [if_neg (fun both => past both.2), unmoved_iff (desk.timeline apart) below agrees]
    refine iff_of_true ?_ fun both => past both.1
    rintro ⟨_, _, _, _, passed⟩
    exact past passed

/-- No other row in force gives a version of the plan at the instant, for it would overlap the one that was found. -/
theorem unassign_releases {request : UnassignRequest} (apart : NonOverlapping (desk.book.active request.accountId))
    (found : (desk.book.assignedAt request.planId request.accountId request.effectiveAt).head? = some target)
    (mine : target ∈ desk.book.active request.accountId) (ends : Ends request.effectiveAt target (unassignRow request target)) :
    ∀ row ∈ (desk.book.unassign request now target).active request.accountId,
      row.rateVersionId ∈ desk.book.versionIdsOf request.planId → ¬ row.Covers request.effectiveAt := by
  intro next member planVersion covers
  obtain ⟨row, rowMine, rowCovers, version, before⟩ :=
    (ends.active_iff (P := fun version => version ∈ desk.book.versionIdsOf request.planId) desk.stored
      (RateBook.mem_active.mp mine).1).mp ⟨next, member, covers, planVersion⟩
  have different : row ≠ target := fun same => lt_irrefl _ (before same)
  obtain ⟨stored, owned⟩ := RateBook.mem_active.mp rowMine
  have first := assignedAt_head found (mem_assignedAt.mpr ⟨stored, owned.1, version, rowCovers⟩)
  refine apart.separate rowMine mine different ⟨?_, ?_⟩
  · exact (first.trans_lt ends.later).trans_le ends.inside
  · refine ends.later.trans_le ?_
    cases closes : row.effectiveTo with
    | none =>
        rw [RateAssignment.window, closes]
        exact request.representable
    | some finish =>
        rw [RateAssignment.window, closes]
        exact (rowCovers.2 finish closes).le

theorem unassign_well_iff {request : UnassignRequest} {reply : EndReply}
    (ok : unassignRatePlan services desk principal request now = .ok (reply, after))
    (apart : NonOverlapping (desk.book.active accountId)) (coherent : desk.book.Coherent accountId now)
    (below : now < datetimeMax) :
    EditedWell desk after (.unassignRatePlan principal request now) accountId ↔
      Edit.Careful desk accountId (.unassignRatePlan principal request now) := by
  rcases unassignRatePlan_cases ok with ⟨repeated, rfl⟩ | ⟨fresh, target, found, stored, written, _⟩
  · simp only [Edit.Careful, if_pos repeated]
    refine ⟨fun well => well.released, fun released => ?_⟩
    exact ⟨fun _ member _ _ => member, after.timeline apart, coherent, released⟩
  · obtain ⟨present, owner, planned, covers⟩ := mem_assignedAt.mp (List.mem_of_head? found)
    have ends := unassignRow_ends present covers stored
    have table : after.book.rateAssignments =
        (desk.book.updateAssignment target.id (unassignRow request)).rateAssignments := written ▸ rfl
    have timeline : after.book.Timeline accountId := by
      have kept := ends.timeline desk.stored present (desk.timeline apart)
      rw [written]
      exact ⟨kept.apart, kept.proper⟩
    simp only [Edit.Careful, fresh, ne_eq, not_true_eq_false, if_false]
    by_cases mine : request.accountId = accountId
    · subst mine
      simp only [forall_const, found, Option.mem_some_iff, forall_eq']
      constructor
      · intro well
        have active : target.cancelledAt = none := by
          by_contra cancelled
          have kept := well.cancelled target present owner cancelled
          rw [table] at kept
          refine not_mem_updateAssignment desk.stored present ?_ rfl kept
          intro same
          exact lt_irrefl _ (covers.2 request.effectiveAt (congrArg RateAssignment.effectiveTo same).symm)
        have inForce := RateBook.mem_active.mpr ⟨present, owner, active⟩
        exact ⟨active, (unassign_coherent_iff apart coherent below inForce planned covers ends).mp (written ▸ well.coherent)⟩
      · rintro ⟨active, careful⟩
        have inForce := RateBook.mem_active.mpr ⟨present, owner, active⟩
        refine ⟨?_, timeline, ?_, ?_⟩
        · intro row member _ cancelled
          rw [table]
          refine mem_updateAssignment_of_ne member fun same => cancelled ?_
          rw [desk.stored.same_row member present same]
          exact active
        · rw [written]
          exact (unassign_coherent_iff apart coherent below inForce planned covers ends).mpr careful
        · intro _ row member planVersion
          rw [written] at member planVersion
          exact unassign_releases apart found inForce ends row member planVersion
    · have elsewhere : target ∉ desk.book.active accountId := fun member =>
        mine (owner.symm.trans (RateBook.mem_active.mp member).2.1)
      refine iff_of_true ⟨?_, timeline, ?_, fun same => absurd same mine⟩ (fun same => absurd same mine)
      · intro row member owned _
        rw [table]
        refine mem_updateAssignment_of_ne member fun same => mine ?_
        rw [desk.stored.same_row member present same] at owned
        exact owner.symm.trans owned
      · obtain ⟨account, there, agrees⟩ := coherent
        refine ⟨account, ?_, fun versionId => ?_⟩
        · rw [written]
          refine (RateBook.account?_updateAccount_of_ne (Ne.symm mine) fun row => ?_).trans there
          split <;> rfl
        · rw [agrees, written]
          exact (ends.prices_elsewhere present elsewhere).symm

theorem assignment?_eq_some {assignmentId : String} (found : desk.book.assignment? assignmentId = some target) :
    target ∈ desk.book.rateAssignments ∧ target.id = assignmentId :=
  ⟨List.mem_of_find?_eq_some found, by simpa using List.find?_some found⟩

theorem updateAssignment_id (book : RateBook) (assignmentId : String) : book.updateAssignment assignmentId id = book := by
  simp [RateBook.updateAssignment]

theorem patch_well_iff {request : PatchRequest} (ok : patchRateAssignment services desk principal request now = .ok after)
    (apart : NonOverlapping (desk.book.active accountId)) (coherent : desk.book.Coherent accountId now)
    (below : now < datetimeMax) :
    EditedWell desk after (.patchRateAssignment principal request now) accountId ↔
      Edit.Careful desk accountId (.patchRateAssignment principal request now) := by
  obtain ⟨target, found, _, ends, kept, event, done⟩ := patchRateAssignment_ok ok
  have written : after.book = desk.book.updateAssignment request.assignmentId (patchRow request) := by
    rw [done]
    rfl
  obtain ⟨present, named⟩ := assignment?_eq_some found
  rw [← named] at written
  simp only [Edit.Careful, found, Option.mem_some_iff, forall_eq']
  cases asked : request.effectiveTo with
  | none =>
      -- Without an end nothing is written.
      have same : after.book = desk.book := by
        rw [written, show patchRow request = id from funext fun row => by rw [patchRow, asked]; rfl, updateAssignment_id]
      refine iff_of_true ⟨?_, same ▸ desk.timeline apart, same ▸ coherent, trivial⟩ (by simp)
      exact fun row member _ _ => same ▸ member
  | some finish =>
      have ends := ends finish asked
      obtain ⟨account, there, agrees⟩ := coherent
      have accountAfter : after.book.account? accountId = some account := written ▸ there
      have timeline : after.book.Timeline accountId := by
        rw [written]
        exact ends.timeline desk.stored present (desk.timeline apart)
      simp only [Option.mem_some_iff, forall_eq']
      by_cases mine : target.utilityAccountId = accountId
      · rw [forall_prop_of_true mine]
        constructor
        · intro well
          have active : target.cancelledAt = none := by
            by_contra cancelled
            have kept := well.cancelled target present mine cancelled
            rw [written] at kept
            refine not_mem_updateAssignment desk.stored present ?_ ends.continues.id kept
            intro same
            have revision := congrArg RateAssignment.revision same
            simp [patchRow, asked] at revision
          refine ⟨active, fun ⟨covers, past⟩ => ?_⟩
          have inForce := RateBook.mem_active.mpr ⟨present, mine, active⟩
          have pointed := (agrees target.rateVersionId).mpr ⟨target, inForce, covers, rfl⟩
          have priced := ((RateBook.coherent_iff accountAfter).mp well.coherent target.rateVersionId).mp pointed
          rw [written, ends.prices_iff desk.stored present] at priced
          obtain ⟨row, rowMine, rowCovers, _, before⟩ := priced
          have same := apart.unique below rowMine inForce rowCovers covers
          exact absurd (before same) past.not_gt
        · rintro ⟨active, future⟩
          refine ⟨?_, timeline, ⟨account, accountAfter, fun versionId => ?_⟩, trivial⟩
          · intro row member _ cancelled
            rw [written]
            refine mem_updateAssignment_of_ne member fun same => cancelled ?_
            rw [desk.stored.same_row member present same]
            exact active
          · rw [agrees, written, ends.prices_iff desk.stored present]
            constructor
            · rintro ⟨row, rowMine, rowCovers, version⟩
              refine ⟨row, rowMine, rowCovers, version, ?_⟩
              rintro rfl
              by_contra past
              exact future ⟨rowCovers, not_lt.mp past⟩
            · rintro ⟨row, rowMine, rowCovers, version, _⟩
              exact ⟨row, rowMine, rowCovers, version⟩
      · have elsewhere : target ∉ desk.book.active accountId := fun member => mine (RateBook.mem_active.mp member).2.1
        refine iff_of_true ⟨?_, timeline, ⟨account, accountAfter, fun versionId => ?_⟩, trivial⟩ fun same => absurd same mine
        · intro row member owned _
          rw [written]
          refine mem_updateAssignment_of_ne member fun same => mine ?_
          rw [desk.stored.same_row member present same] at owned
          exact owned
        · rw [agrees, written]
          exact (ends.prices_elsewhere present elsewhere).symm

theorem assignmentState_scheduled (scheduled : assignmentState target now = .scheduled) :
    target.cancelledAt = none ∧ now < target.effectiveFrom := by
  unfold assignmentState at scheduled
  split at scheduled
  · cases scheduled
  · next active =>
      split at scheduled
      · next later => exact ⟨not_not.mp active, later⟩
      · split at scheduled <;> cases scheduled

theorem cancelScheduled_rewrites (principal : Principal) (now : Int) (assignmentId : String) (rows : List RateAssignment) :
    Rewrites (fun row => if row.id = assignmentId then cancelScheduled principal now row else row) rows where
  continues := fun row _ => by
    split
    · exact ⟨rfl, rfl, rfl, rfl, rfl, rfl⟩
    · exact .refl row
  shortened := fun row _ => by
    split
    · exact .cancelled (by simp [cancelScheduled])
    · exact .kept rfl
  cancelled := fun row _ cancelled => by
    split
    · simp [cancelScheduled]
    · exact cancelled

/-- A row that has not started is not in force now, so its cancellation leaves the active rate right. -/
theorem delete_well {assignmentId : String} (ok : deleteRateAssignment services desk principal assignmentId now = .ok after)
    (apart : NonOverlapping (desk.book.active accountId)) (coherent : desk.book.Coherent accountId now) :
    EditedWell desk after (.deleteRateAssignment principal assignmentId now) accountId := by
  rcases deleteRateAssignment_cases ok with rfl | ⟨target, found, scheduled, written⟩
  · exact ⟨fun _ member _ _ => member, after.timeline apart, coherent, trivial⟩
  · obtain ⟨present, named⟩ := assignment?_eq_some found
    obtain ⟨active, later⟩ := assignmentState_scheduled scheduled
    have rewrites := cancelScheduled_rewrites principal now assignmentId desk.book.rateAssignments
    have unstarted : ∀ row ∈ desk.book.rateAssignments, row.Covers now → row.id ≠ assignmentId := by
      intro row member covers same
      rw [desk.stored.same_row member present (same.trans named.symm)] at covers
      exact absurd covers.1 later.not_ge
    obtain ⟨account, there, agrees⟩ := coherent
    refine ⟨?_, ?_, ⟨account, written ▸ there, fun versionId => ?_⟩, trivial⟩
    · intro row member _ cancelled
      rw [written, ← named]
      refine mem_updateAssignment_of_ne member fun same => cancelled ?_
      rw [desk.stored.same_row member present same]
      exact active
    · rw [written]
      exact rewrites.timeline (desk.timeline apart) rfl
    · rw [agrees, written, RateBook.prices_iff, RateBook.prices_iff]
      constructor
      · rintro ⟨row, member, mine, covers, version⟩
        exact ⟨row, List.mem_map.mpr ⟨row, member, if_neg (unstarted row member covers)⟩, mine, covers, version⟩
      · rintro ⟨next, member, mine, covers, version⟩
        obtain ⟨row, kept, rfl⟩ := List.mem_map.mp member
        by_cases here : row.id = assignmentId
        · rw [if_pos here] at mine
          exact absurd mine.2 (by simp [cancelScheduled])
        · rw [if_neg here] at mine covers version
          exact ⟨row, kept, mine, covers, version⟩

/-- From an account without overlaps whose active rate is the one in force, a successful edit leaves the account
coherent if and only if it is careful. -/
theorem edit_keeps_authority_iff (services : DeskServices) (desk : RateDesk) (edit : Edit) (accountId : String)
    (apart : NonOverlapping (desk.book.active accountId)) (coherent : desk.book.Coherent accountId edit.now)
    (below : edit.now < datetimeMax) (after : RateDesk) (ok : edit.perform services desk = .ok after) :
    EditedWell desk after edit accountId ↔ edit.Careful desk accountId := by
  cases edit with
  | unassignRatePlan principal request now =>
      dsimp only [Edit.perform] at ok
      cases done : unassignRatePlan services desk principal request now with
      | error failure =>
          rw [done] at ok
          cases ok
      | ok result =>
          rw [done] at ok
          cases ok
          exact unassign_well_iff done apart coherent below
  | patchRateAssignment principal request now => exact patch_well_iff ok apart coherent below
  | deleteRateAssignment principal assignmentId now => exact iff_of_true (delete_well ok apart coherent) trivial

end Coherence

/-! ## A household with a cancelled row -/

def quietDesk : DeskServices where
  assignment := quietServices
  dependencyToken := fun _ _ => "token"
  strip := id
  casefold := id

def owner : Principal := { userId := "owner", permissions := ["rates.assign"], roles := ["admin"] }

def cancelledRow : RateAssignment :=
  { id := "third", utilityAccountId := "service", rateVersionId := "tou", effectiveFrom := 110, cancelledAt := some 105 }

/-- The time-of-use plan since 100; another assignment of it, from 110 on, was cancelled. -/
def reassignedDesk : RateDesk where
  book := { changedHousehold with rateAssignments := changedHousehold.rateAssignments ++ [cancelledRow] }
  plans := fun _ => { code := "TOU-D" }
  stored := by decide

theorem reassignedDesk_active : reassignedDesk.book.active "service" = changedHousehold.rateAssignments := by
  decide

theorem reassignedDesk_apart : NonOverlapping (reassignedDesk.book.active "service") := by
  rw [reassignedDesk_active, ← overlappingPairs_eq_nil]
  decide

theorem reassignedDesk_coherent : reassignedDesk.book.Coherent "service" 150 := by
  refine ⟨_, rfl, fun versionId => ?_⟩
  rw [RateBook.Prices, reassignedDesk_active]
  simp [changedHousehold, RateAssignment.Covers, RateAssignment.window, Window.Contains]

/-- The plan is taken from the account at an instant. -/
def unassignsAt (effectiveAt : Int) (representable : effectiveAt ≤ datetimeMax) : Edit :=
  .unassignRatePlan owner
    { planId := "tou-plan", accountId := "service", expectedRevision := 1, expectedDependencyToken := "token"
      effectiveAt := effectiveAt, reason := "moving to another plan", confirmation := "unassign TOU-D"
      representable := representable } 150

/-- At 105 only the row in force is found. -/
theorem unassign_before_cancelled_row : ∃ after, (unassignsAt 105 (by decide)).perform quietDesk reassignedDesk = .ok after ∧
    EditedWell reassignedDesk after (unassignsAt 105 (by decide)) "service" := by
  have succeeds : ((unassignsAt 105 (by decide)).perform quietDesk reassignedDesk).toOption.isSome = true := by decide
  cases done : (unassignsAt 105 (by decide)).perform quietDesk reassignedDesk with
  | error failure =>
      rw [done] at succeeds
      cases succeeds
  | ok after =>
      refine ⟨after, rfl, (edit_keeps_authority_iff quietDesk reassignedDesk (unassignsAt 105 (by decide)) "service"
        reassignedDesk_apart reassignedDesk_coherent (by decide) after done).mpr ?_⟩
      intro _
      have fresh : ¬ reassignedDesk.unassigned? owner
          { planId := "tou-plan", accountId := "service", expectedRevision := 1, expectedDependencyToken := "token"
            effectiveAt := 105, reason := "moving to another plan", confirmation := "unassign TOU-D"
            representable := by decide } ≠ none := by
        decide
      rw [if_neg fresh]
      refine ⟨by decide, ?_⟩
      rw [reassignedDesk_active]
      decide

/-- At 120 the cancelled row is found instead, because it starts later. -/
theorem unassign_ends_cancelled_row : ¬ ∀ (services : DeskServices) (desk : RateDesk) (edit : Edit) (accountId : String),
    NonOverlapping (desk.book.active accountId) → desk.book.Coherent accountId edit.now → edit.now < datetimeMax →
    ∀ after, edit.perform services desk = .ok after → EditedWell desk after edit accountId := by
  intro always
  have changed : (((unassignsAt 120 (by decide)).perform quietDesk reassignedDesk).toOption.map fun desk =>
      decide (cancelledRow ∈ desk.book.rateAssignments)) = some false := by decide
  cases done : (unassignsAt 120 (by decide)).perform quietDesk reassignedDesk with
  | error failure =>
      rw [done] at changed
      cases changed
  | ok after =>
      have well := always quietDesk reassignedDesk (unassignsAt 120 (by decide)) "service" reassignedDesk_apart
        reassignedDesk_coherent (by decide) after done
      have kept := well.cancelled cancelledRow (by decide) rfl (by decide)
      rw [done] at changed
      exact of_decide_eq_false (Option.some.inj changed) kept

end PowerMonitor.Assignments
