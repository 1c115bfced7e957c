import PowerMonitor.Assignments.ActiveRate

/-! `publish_and_assign`, and the timeline of the account it assigns the rate to.

Publication does not go through `assign_version`. It ends every row of the account without an end, also
cancelled ones, adds a window without an end and moves the active rate at once. The timeline survives this
exactly when no bounded row reaches past the effective time, and the active rate is right when that time
has come.
-/

set_option autoImplicit false
namespace PowerMonitor.Bills
open Library Assignments
open Pricing (UtilityAccount require require_eq_ok)

/-! ## Bill imports, as the review and publication services read and write them -/

inductive BillStatus where | processing | reviewRequired | readyToPublish | published | rejected | failed
  deriving DecidableEq, Repr

inductive RetentionMode where | retain | retainUntil | deleteAfterApproval
  deriving DecidableEq, Repr

/-- An entry of `blocking_warnings`. -/
structure BlockingWarning where
  code : String
  fields : List String := []
  message : String
  deriving DecidableEq, Repr

structure UtilityBillImport where
  id : String
  utilityAccountId : Option String := none
  contentSha256 : String
  status : BillStatus := .reviewRequired
  retentionMode : RetentionMode := .retain
  retainUntil : Option Int := none
  originalDeletedAt : Option Int := none
  ratePlanId : Option String := none
  rateVersionId : Option String := none
  revision : Nat := 1
  blockingWarnings : List BlockingWarning := []
  createdBy : String
  deriving DecidableEq, Repr

/-- The review is over: the bill may be published and its original deleted. -/
def UtilityBillImport.Approved (bill : UtilityBillImport) : Prop :=
  bill.status = .readyToPublish ∨ bill.status = .published

instance (bill : UtilityBillImport) : Decidable bill.Approved := inferInstanceAs (Decidable (_ ∨ _))

/-! ## activate_version -/

/-- What publication calls besides the assignment service: the reset barrier of a plan, the kind of source of a
version, and whether a blocking conflict of a bill is unresolved. -/
structure PublicationServices extends Services where
  ensureRatePlansResetMutationsAllowed : RatePlan → Except ProblemError Unit
  billCandidate : RateVersion → Bool
  unresolvedConflict : UtilityBillImport → Bool

def ratePlanMissing : ProblemError :=
  { status := 404, title := "Rate plan not found", detail := "Rate plan does not exist", code := "rate_plan_missing" }

def rateVersionMissing : ProblemError :=
  { status := 404, title := "Rate version not found", detail := "Version does not exist", code := "rate_version_missing" }

def ratePlanIsUnavailable : ProblemError :=
  { status := 409, title := "Rate plan is unavailable"
    detail := "Restore the removed or retired rate plan before activating a version", code := "rate_plan_removed" }

def utilityBillReviewRequired : ProblemError :=
  { status := 409, title := "Utility-bill review required"
    detail := "A utility bill can never activate a rate until an administrator " ++
      "reviews every required field and source conflict"
    code := "utility_bill_review_required" }

def rateValidationFailed (errors : List BlockingIssue) : ProblemError :=
  { status := 422, title := "Rate version failed validation"
    detail := "Correct all blocking validation errors before activation", code := "rate_validation_failed"
    extraTexts := [("validation.code", errors.map BlockingIssue.code), ("validation.path", errors.map BlockingIssue.path),
      ("validation.message", errors.map BlockingIssue.message)] }

/-- The bill behind a version allows its activation. -/
def PublicationServices.Reviewed (services : PublicationServices) (bill : UtilityBillImport) : Prop :=
  bill.Approved ∧ bill.blockingWarnings = [] ∧ services.unresolvedConflict bill = false

instance (services : PublicationServices) (bill : UtilityBillImport) : Decidable (services.Reviewed bill) :=
  inferInstanceAs (Decidable (_ ∧ _))

/-- A version superseded by the activated one, or that one itself. -/
def activatedVersion (version other : RateVersion) : RateVersion :=
  if other.ratePlanId ≠ version.ratePlanId then other
  else if other.id = version.id then { other with isActive := true, status := .published }
  else if other.isActive then
    { other with
      isActive := false
      status := if other.status ∈ [RateVersionStatus.retired, .removed] then other.status else .superseded }
  else other

/-- The writes of `activate_version`. -/
def activated (book : RateBook) (version : RateVersion) : RateBook :=
  { book with
    rateVersions := book.rateVersions.map (activatedVersion version)
    ratePlans := book.ratePlans.map fun plan =>
      if plan.id = version.ratePlanId then { plan with status := .active } else plan }

section Publication
variable (services : PublicationServices)

/-- The checks of `activate_version`. -/
def activationChecks (book : RateBook) (bill : UtilityBillImport) (version : RateVersion) :
    Except ProblemError Unit := do
  let plan ← require (book.plan? version.ratePlanId) ratePlanMissing
  services.ensureRatePlansResetMutationsAllowed plan
  let version ← require (book.version? version.id) rateVersionMissing
  raiseIf (plan.status ∈ [RatePlanStatus.removed, .retired]) ratePlanIsUnavailable
  raiseIf (services.billCandidate version = true ∧ ¬ services.Reviewed bill) utilityBillReviewRequired
  raiseIf (services.documentErrors version ≠ []) (rateValidationFailed (services.documentErrors version))

def activateVersion (book : RateBook) (bill : UtilityBillImport) (version : RateVersion) : Outcome Unit :=
  match activationChecks services book bill version with
  | .error problem => (.error problem, book)
  | .ok () => (.ok (), activated book version)

/-! ## publish_and_assign -/

def billReviewIncomplete (bill : UtilityBillImport) : ProblemError :=
  { status := 409, title := "Bill review is incomplete"
    detail := "Resolve all required fields and conflicts before publication", code := "bill_review_incomplete"
    extraTexts := [("blocking_warnings.code", bill.blockingWarnings.map BlockingWarning.code)] }

def billRateDraftMissing : ProblemError :=
  { status := 404, title := "Rate draft missing", detail := "The linked rate-plan draft no longer exists"
    code := "bill_rate_draft_missing" }

def billRatePlanRemoved : ProblemError :=
  { status := 409, title := "Rate plan unavailable"
    detail := "Restore the linked draft before publishing or assigning it", code := "rate_plan_removed" }

def rateAssignmentFutureConflict (existing : RateAssignment) : ProblemError :=
  { status := 409, title := "A scheduled rate assignment already exists"
    detail := "Choose an effective time after the existing scheduled assignment"
    code := "rate_assignment_future_conflict"
    extra := [("existing_effective_from", existing.effectiveFrom)]
    extraTexts := [("existing_assignment_id", [existing.id])] }

/-- The requested time is a datetime, so none after the last one. -/
structure PublicationRequest where
  accountId : String
  userId : String := ""
  effectiveFrom : Int
  representable : effectiveFrom ≤ datetimeMax
  deriving Repr

/-- The effective time is never before the present. -/
def PublicationRequest.effectiveTime (request : PublicationRequest) (now : Int) : Int := max request.effectiveFrom now

/-- The rows of the account without an end, cancelled or not. -/
def OpenEnded (accountId : String) (row : RateAssignment) : Prop :=
  row.utilityAccountId = accountId ∧ row.effectiveTo = none

instance (accountId : String) (row : RateAssignment) : Decidable (OpenEnded accountId row) :=
  inferInstanceAs (Decidable (_ ∧ _))

def endOpenRow (accountId : String) (instant : Int) (row : RateAssignment) : RateAssignment :=
  if OpenEnded accountId row then { row with effectiveTo := some instant } else row

/-- The row that publication adds. -/
def publishedAssignment (request : PublicationRequest) (bill : UtilityBillImport) (versionId id : String) (now : Int) :
    RateAssignment :=
  { id := id
    utilityAccountId := request.accountId
    rateVersionId := versionId
    effectiveFrom := request.effectiveTime now
    assignmentReason := some ("Administrator-approved utility bill import " ++ bill.id)
    assignedBy := some request.userId
    createdAt := now }

/-- The writes of `publish_and_assign` to the rates. -/
def publish (book : RateBook) (request : PublicationRequest) (bill : UtilityBillImport) (versionId id : String)
    (now : Int) : RateBook :=
  { book with rateAssignments :=
      book.rateAssignments.map (endOpenRow request.accountId (request.effectiveTime now)) ++
        [publishedAssignment request bill versionId id now] }.updateAccount request.accountId fun account =>
    { account with activeRateVersionId := some versionId }

/-- The bill after its publication. -/
def publishedBill (bill : UtilityBillImport) (now : Int) : UtilityBillImport :=
  { bill with
    status := .published
    originalDeletedAt :=
      if bill.retentionMode = .deleteAfterApproval then some (bill.originalDeletedAt.getD now)
      else bill.originalDeletedAt }

/-- The checks before the version is activated. -/
def publicationVersion (book : RateBook) (bill : UtilityBillImport) (request : PublicationRequest) :
    Except ProblemError RateVersion := do
  raiseIf (bill.status ≠ .readyToPublish ∨ bill.blockingWarnings ≠ []) (billReviewIncomplete bill)
  let version ← require (bill.rateVersionId.bind book.version?) billRateDraftMissing
  let plan ← require (book.plan? version.ratePlanId) billRatePlanRemoved
  raiseIf (plan.status ∈ [RatePlanStatus.removed, .retired]) billRatePlanRemoved
  let _ ← ensureAccountRateMutationsAllowed services.toServices book request.accountId [version.id]
  pure version

def publishAndAssign (book : RateBook) (bill : UtilityBillImport) (request : PublicationRequest) (id : String)
    (now : Int) : Outcome RateAssignment × UtilityBillImport :=
  match publicationVersion services book bill request with
  | .error problem => ((.error problem, book), bill)
  | .ok version =>
      match activateVersion services book bill version with
      | (.error problem, book) => ((.error problem, book), bill)
      | (.ok (), book) =>
          match book.rateAssignments.find? fun row =>
              OpenEnded request.accountId row ∧ request.effectiveTime now ≤ row.effectiveFrom with
          -- The version is already activated when the schedule turns out to be taken.
          | some existing => ((.error (rateAssignmentFutureConflict existing), book), bill)
          | none =>
              ((.ok (publishedAssignment request bill version.id id now), publish book request bill version.id id now),
                publishedBill bill now)

end Publication

/-! ## What a publication leaves -/

section Effects
variable {services : PublicationServices} {book : RateBook} {bill : UtilityBillImport} {request : PublicationRequest}
  {versionId versionId' id : String} {now instant : Int}

/-- A publication that succeeds activates the linked version and writes on top of that; every row without an end
starts before the effective time. -/
theorem publishAndAssign_ok {assignment : RateAssignment}
    (ok : (publishAndAssign services book bill request id now).1.1 = .ok assignment) :
    ∃ version, bill.rateVersionId = some version.id ∧ (∃ account, book.account? request.accountId = some account) ∧
      (publishAndAssign services book bill request id now).1.2 =
        publish (activated book version) request bill version.id id now ∧
      ∀ row ∈ book.rateAssignments, OpenEnded request.accountId row → row.effectiveFrom < request.effectiveTime now := by
  unfold publishAndAssign at ok ⊢
  split at ok
  · cases ok
  · next version checked =>
      unfold publicationVersion at checked
      obtain ⟨_, checked⟩ := raiseIf_bind_eq_ok.mp checked
      obtain ⟨found, linked, checked⟩ := bind_eq_ok.mp checked
      obtain ⟨plan, _, checked⟩ := bind_eq_ok.mp checked
      obtain ⟨_, checked⟩ := raiseIf_bind_eq_ok.mp checked
      obtain ⟨account, allowed, same⟩ := bind_eq_ok.mp checked
      cases same
      obtain ⟨versionId, link, stored⟩ := Option.bind_eq_some_iff.mp (require_eq_ok.mp linked)
      have known : version.id = versionId := by simpa using List.find?_some stored
      unfold activateVersion at ok ⊢
      split at ok
      · cases ok
      · next written activation =>
          split at activation
          · cases activation
          · cases activation
            split at ok
            · cases ok
            · next unscheduled =>
                refine ⟨version, known ▸ link, ⟨account, ensureAccountRateMutationsAllowed_ok allowed⟩, rfl, ?_⟩
                intro row member openEnded
                have missed := List.find?_eq_none.mp unscheduled row member
                by_contra late
                exact missed (by simpa using ⟨openEnded, not_lt.mp late⟩)

theorem endOpenRow_of (row : RateAssignment) (accountId : String) (cut : Int) (other : String) :
    (endOpenRow accountId cut row).Of other ↔ row.Of other := by
  unfold endOpenRow
  split <;> exact Iff.rfl

theorem endOpenRow_rateVersionId (row : RateAssignment) (accountId : String) (cut : Int) :
    (endOpenRow accountId cut row).rateVersionId = row.rateVersionId := by
  unfold endOpenRow
  split <;> rfl

/-- Ending the open rows keeps the instants before the cut and all of the bounded rows. -/
theorem endOpenRow_covers {row : RateAssignment} {accountId : String} {cut : Int} (mine : row.Of accountId) :
    (endOpenRow accountId cut row).Covers instant ↔
      row.Covers instant ∧ (row.effectiveTo = none → instant < cut) := by
  unfold endOpenRow
  by_cases openEnded : row.effectiveTo = none
  · rw [if_pos ⟨mine.1, openEnded⟩]
    simp only [RateAssignment.Covers, RateAssignment.window, Window.Contains, openEnded, Option.mem_some_iff,
      forall_eq', Option.not_mem_none, false_imp_iff, implies_true, and_true, true_imp_iff]
  · rw [if_neg (fun both => openEnded both.2)]
    exact ⟨fun covers => ⟨covers, fun none => absurd none openEnded⟩, fun both => both.1⟩

theorem endOpenRow_rewrites {cut : Int} (representable : cut ≤ datetimeMax)
    (early : ∀ row ∈ book.rateAssignments, OpenEnded request.accountId row → row.effectiveFrom < cut) :
    Rewrites (endOpenRow request.accountId cut) book.rateAssignments where
  continues := fun row _ => by
    unfold endOpenRow
    split
    · exact ⟨rfl, rfl, rfl, rfl, rfl, rfl⟩
    · exact .refl row
  shortened := fun row stored => by
    unfold endOpenRow
    split
    · next openEnded =>
        refine .ended cut (early row stored openEnded) ?_ rfl rfl
        rw [openEnded.2]
        exact representable
    · exact .kept rfl
  cancelled := fun row _ cancelled => by
    unfold endOpenRow
    split <;> exact cancelled

/-- The prices a publication leaves: its own from the effective time on, and those of the old rows, the open ones
up to that time. -/
theorem prices_publish : (publish book request bill versionId id now).Prices request.accountId instant versionId' ↔
    (request.effectiveTime now ≤ instant ∧ versionId = versionId') ∨
      ∃ row ∈ book.active request.accountId, row.Covers instant ∧ row.rateVersionId = versionId' ∧
        (row.effectiveTo = none → instant < request.effectiveTime now) := by
  rw [RateBook.prices_iff]
  constructor
  · rintro ⟨item, member, mine, covers, version⟩
    rcases List.mem_append.mp member with kept | added
    · obtain ⟨row, stored, rfl⟩ := List.mem_map.mp kept
      rw [endOpenRow_of] at mine
      rw [endOpenRow_covers mine] at covers
      rw [endOpenRow_rateVersionId] at version
      exact .inr ⟨row, RateBook.mem_active.mpr ⟨stored, mine⟩, covers.1, version, covers.2⟩
    · rw [List.mem_singleton.mp added] at covers version
      exact .inl ⟨covers.1, version⟩
  · rintro (⟨started, version⟩ | ⟨row, mine, covers, version, before⟩)
    · refine ⟨_, List.mem_append_right _ (List.mem_singleton_self _), ⟨rfl, rfl⟩, ⟨started, ?_⟩, version⟩
      exact fun finish closes => absurd closes (by simp [RateAssignment.window, publishedAssignment])
    · obtain ⟨stored, owned⟩ := RateBook.mem_active.mp mine
      refine ⟨_, List.mem_append_left _ (List.mem_map_of_mem stored), ?_, ?_, ?_⟩
      · rwa [endOpenRow_of]
      · exact (endOpenRow_covers owned).mpr ⟨covers, before⟩
      · rwa [endOpenRow_rateVersionId]

theorem publish_account {account : UtilityAccount} (found : book.account? request.accountId = some account) :
    ∃ after, (publish book request bill versionId id now).account? request.accountId = some after ∧
      after.activeRateVersionId = some versionId :=
  ⟨_, RateBook.account?_updateAccount found fun _ => rfl, rfl⟩

/-! ## The exact condition -/

/-- `assign_version` for the same plan and time, in place of whatever is current then. -/
def replacement (request : PublicationRequest) (versionId : String) (now : Int) : AssignmentRequest :=
  { accountId := request.accountId, rateVersionId := versionId, effectiveFrom := request.effectiveTime now
    replaceCurrent := true, actorId := request.userId }

/-- What is asked of a publication that leaves the rows `after`. -/
structure RespectsTimeline (services : Services) (book after : RateBook) (request : PublicationRequest)
    (versionId : String) (now : Int) : Prop where
  timeline : after.Timeline request.accountId
  cancelled : after.rateAssignments.filter (fun row => row.cancelledAt ≠ none) =
    book.rateAssignments.filter fun row => row.cancelledAt ≠ none
  coherent : after.Coherent request.accountId now
  agrees : ∀ id receipt other, assignVersion services book (replacement request versionId now) id now =
      (.ok receipt, other) →
    ∀ instant version, request.effectiveTime now ≤ instant → instant < datetimeMax →
      (∀ row ∈ book.active request.accountId, request.effectiveTime now < row.effectiveFrom →
        instant < row.effectiveFrom) →
      (after.Prices request.accountId instant version ↔ other.Prices request.accountId instant version)

/-- No bounded assignment reaches past the effective time, no cancelled one is open, and the effective time has
come unless the current assignment has the same version. -/
structure ClearPublication (book : RateBook) (request : PublicationRequest) (versionId : String) (now : Int) :
    Prop where
  bounded : ∀ row ∈ book.active request.accountId, row.effectiveTo ≠ none →
    ¬ overlaps row.window ⟨request.effectiveTime now, none⟩
  cancelled : ∀ row ∈ book.rateAssignments, row.cancelledAt ≠ none → ¬ OpenEnded request.accountId row
  current : request.effectiveFrom ≤ now ∨
    ∃ row ∈ book.active request.accountId, row.Covers now ∧ row.rateVersionId = versionId

theorem publish_cancelled : (publish book request bill versionId id now).rateAssignments.filter
      (fun row => row.cancelledAt ≠ none) = book.rateAssignments.filter (fun row => row.cancelledAt ≠ none) ↔
    ∀ row ∈ book.rateAssignments, row.cancelledAt ≠ none → ¬ OpenEnded request.accountId row := by
  have rows : (publish book request bill versionId id now).rateAssignments.filter (fun row => row.cancelledAt ≠ none) =
      (book.rateAssignments.filter fun row => row.cancelledAt ≠ none).map
        (endOpenRow request.accountId (request.effectiveTime now)) := by
    change (book.rateAssignments.map _ ++ [publishedAssignment request bill versionId id now]).filter _ = _
    rw [List.filter_append, List.filter_map, List.filter_cons_of_neg (by simp [publishedAssignment]), List.filter_nil,
      List.append_nil]
    congr 1
    apply List.filter_congr
    intro row _
    simp only [Function.comp, endOpenRow]
    split <;> rfl
  rw [rows]
  constructor
  · intro same row stored cancelled openEnded
    have member : row ∈ book.rateAssignments.filter fun row => row.cancelledAt ≠ none := by
      simpa using ⟨stored, cancelled⟩
    have kept := List.map_inj_left.mp (same.trans (List.map_id _).symm) row member
    rw [endOpenRow, if_pos openEnded] at kept
    have ends : some (request.effectiveTime now) = row.effectiveTo := congrArg RateAssignment.effectiveTo kept
    rw [openEnded.2] at ends
    cases ends
  · intro closed
    refine (List.map_congr_left fun row member => ?_).trans (List.map_id _)
    obtain ⟨stored, cancelled⟩ := List.mem_filter.mp member
    exact if_neg (closed row stored (by simpa using cancelled))

theorem publish_timeline (early : ∀ row ∈ book.rateAssignments, OpenEnded request.accountId row →
      row.effectiveFrom < request.effectiveTime now) (below : now < datetimeMax)
    (timeline : book.Timeline request.accountId) :
    (publish book request bill versionId id now).Timeline request.accountId ↔
      ∀ row ∈ book.active request.accountId, row.effectiveTo ≠ none →
        ¬ overlaps row.window ⟨request.effectiveTime now, none⟩ := by
  let cut := request.effectiveTime now
  let ended : RateBook := { book with rateAssignments := book.rateAssignments.map (endOpenRow request.accountId cut) }
  have table : (publish book request bill versionId id now).rateAssignments =
      ended.rateAssignments ++ [publishedAssignment request bill versionId id now] := rfl
  have mine : (publishedAssignment request bill versionId id now).Of request.accountId := ⟨rfl, rfl⟩
  constructor
  · intro after row member bounded overlap
    obtain ⟨stored, owned⟩ := RateBook.mem_active.mp member
    -- A bounded row stays as it was, beside the new one.
    have apart := after.apart
    rw [NonOverlapping, Apart, RateBook.active, table, List.filter_append, List.pairwise_append] at apart
    refine apart.2.2 row ?_ (publishedAssignment request bill versionId id now) (by simpa using mine) overlap
    refine List.mem_filter.mpr ⟨List.mem_map.mpr ⟨row, stored, if_neg fun both => bounded both.2⟩, by simpa using owned⟩
  · intro bounded
    have rewritten : ended.Timeline request.accountId :=
      (endOpenRow_rewrites (max_le request.representable below.le) early).timeline timeline rfl
    refine rewritten.append table fun _ => ⟨fun finish closes => absurd closes (by simp [RateAssignment.window, publishedAssignment]), ?_⟩
    intro item member
    obtain ⟨stored, owned⟩ := RateBook.mem_active.mp member
    obtain ⟨row, kept, rfl⟩ := List.mem_map.mp stored
    rw [endOpenRow_of] at owned
    by_cases openEnded : row.effectiveTo = none
    · rw [endOpenRow, if_pos ⟨owned.1, openEnded⟩]
      exact Window.not_overlaps_of_le cut rfl le_rfl
    · rw [endOpenRow, if_neg fun both => openEnded both.2]
      exact bounded row (RateBook.mem_active.mpr ⟨kept, owned⟩) openEnded

/-- A bounded row that does not reach past an instant covers none from there on. -/
theorem not_covers_of_bounded {row : RateAssignment} {cut : Int} (separate : ¬ overlaps row.window ⟨cut, none⟩)
    (after : cut ≤ instant) (below : instant < datetimeMax) : ¬ row.Covers instant := by
  intro covers
  exact separate (Window.Contains.overlaps covers ⟨after, by simp⟩ below)

theorem publish_coherent (below : now < datetimeMax) (timeline : book.Timeline request.accountId)
    (found : ∃ account, book.account? request.accountId = some account)
    (bounded : ∀ row ∈ book.active request.accountId, row.effectiveTo ≠ none →
      ¬ overlaps row.window ⟨request.effectiveTime now, none⟩) :
    (publish book request bill versionId id now).Coherent request.accountId now ↔
      (request.effectiveFrom ≤ now ∨
        ∃ row ∈ book.active request.accountId, row.Covers now ∧ row.rateVersionId = versionId) := by
  obtain ⟨account, known⟩ := found
  obtain ⟨after, present, pointer⟩ := publish_account known
  rw [RateBook.coherent_iff present, pointer]
  simp only [prices_publish, Option.some.injEq]
  by_cases come : request.effectiveFrom ≤ now
  · -- The new row covers the present, and nothing else does.
    have cut : request.effectiveTime now = now := max_eq_right come
    refine iff_of_true (fun version => ⟨fun same => .inl ⟨cut.le, same⟩, ?_⟩) (.inl come)
    rintro (⟨_, same⟩ | ⟨row, mine, covers, _, before⟩)
    · exact same
    · by_cases openEnded : row.effectiveTo = none
      · exact absurd (before openEnded) (by rw [cut]; exact lt_irrefl _)
      · exact absurd covers (not_covers_of_bounded (bounded row mine openEnded) cut.le below)
  · have later : now < request.effectiveTime now := lt_max_of_lt_left (not_le.mp come)
    simp only [not_le.mpr later, false_and, false_or, come, later, implies_true, and_true]
    constructor
    · intro agrees
      exact (agrees versionId).mp rfl
    · rintro ⟨row, mine, covers, version⟩ other
      constructor
      · rintro rfl
        exact ⟨row, mine, covers, version⟩
      · rintro ⟨second, secondMine, secondCovers, secondVersion⟩
        obtain rfl := timeline.apart.unique below mine secondMine covers secondCovers
        exact version.symm.trans secondVersion

theorem publish_agrees (bounded : ∀ row ∈ book.active request.accountId, row.effectiveTo ≠ none →
      ¬ overlaps row.window ⟨request.effectiveTime now, none⟩) {placement : Placement}
    (accepted : Accepted book (replacement request versionId now) placement) (otherId : String) {version : String}
    (after : request.effectiveTime now ≤ instant) (below : instant < datetimeMax)
    (unscheduled : ∀ row ∈ book.active request.accountId, request.effectiveTime now < row.effectiveFrom →
      instant < row.effectiveFrom) :
    (publish book request bill versionId id now).Prices request.accountId instant version ↔
      (book.place (replacement request versionId now) otherId now placement).Prices request.accountId instant version := by
  -- At such an instant both give the version of the bill and no other.
  have published : (publish book request bill versionId id now).Prices request.accountId instant version ↔
      versionId = version := by
    rw [prices_publish]
    refine ⟨?_, fun same => .inl ⟨after, same⟩⟩
    rintro (⟨_, same⟩ | ⟨row, mine, covers, _, before⟩)
    · exact same
    · by_cases openEnded : row.effectiveTo = none
      · exact absurd (before openEnded) after.not_gt
      · exact absurd covers (not_covers_of_bounded (bounded row mine openEnded) after below)
  have assigned : (book.place (replacement request versionId now) otherId now placement).Prices request.accountId
      instant version ↔ versionId = version := by
    rw [show request.accountId = (replacement request versionId now).accountId from rfl, prices_place accepted]
    have current : (newAssignment (replacement request versionId now) otherId now placement).Covers instant := by
      refine ⟨after, fun finish closes => ?_⟩
      cases future : placement.nextFutureStart with
      | none => simp [RateAssignment.window, newAssignment, future, replacement] at closes
      | some start =>
          simp only [RateAssignment.window, newAssignment, future, Option.mem_some_iff] at closes
          obtain ⟨_, later, _, item, scheduled, starts⟩ := accepted.placed.next start future
          rw [← closes, ← starts]
          exact unscheduled item scheduled (starts ▸ later)
    constructor
    · rintro (⟨_, same⟩ | ⟨row, mine, covers, _, before⟩)
      · exact same
      · -- A row that covers the instant covers the effective time too, so it was replaced.
        have started : row.effectiveFrom ≤ request.effectiveTime now := by
          by_contra late
          exact absurd covers.1 (not_le.mpr (unscheduled row mine (not_le.mp late)))
        have atCut : row.Covers (request.effectiveTime now) :=
          ⟨started, fun finish closes => after.trans_lt (covers.2 finish closes)⟩
        have overlap : overlaps row.window (replacement request versionId now).window :=
          Window.Contains.starts atCut (after.trans_lt below) accepted.proper
        exact absurd (before (accepted.placed.covering row mine overlap rfl atCut)) after.not_gt
    · exact fun same => .inl ⟨current, same⟩
  exact published.trans assigned.symm

end Effects

/-! ## A household that publishes a bill -/

def quietPublication : PublicationServices where
  toServices := quietServices
  ensureRatePlansResetMutationsAllowed := fun _ => .ok ()
  billCandidate := fun _ => true
  unresolvedConflict := fun _ => false

def reviewedBill : UtilityBillImport :=
  { id := "bill", contentSha256 := "digest", status := .readyToPublish, ratePlanId := some "tou-plan"
    rateVersionId := some "tou", createdBy := "admin" }

def publishNow : PublicationRequest := { accountId := "service", effectiveFrom := 120, representable := Assignments.at120 }

theorem household_coherent : household.Coherent "service" 150 := by
  refine ⟨_, rfl, fun versionId => ?_⟩
  rw [RateBook.Prices, show household.active "service" = household.rateAssignments by decide]
  simp [household, RateAssignment.Covers, RateAssignment.window, Window.Contains]

/-- The current plan ends at 200. -/
def boundedHousehold : RateBook :=
  { household with
    rateAssignments := household.rateAssignments.map fun row => { row with effectiveTo := some 200 } }

theorem boundedHousehold_active : boundedHousehold.active "service" = boundedHousehold.rateAssignments := by
  decide

theorem boundedHousehold_timeline : boundedHousehold.Timeline "service" := by
  constructor
  · rw [boundedHousehold_active, ← overlappingPairs_eq_nil]
    decide
  · rw [boundedHousehold_active]
    simp [boundedHousehold, household, Window.Proper, RateAssignment.window]

theorem boundedHousehold_coherent : boundedHousehold.Coherent "service" 150 := by
  refine ⟨_, rfl, fun versionId => ?_⟩
  rw [RateBook.Prices, boundedHousehold_active]
  simp [boundedHousehold, household, RateAssignment.Covers, RateAssignment.window, Window.Contains]

end PowerMonitor.Bills
