import PowerMonitor.Assignments.Records

/-! `assign_version`, `end_assignment` and `resolve_assignment_conflict`.

An operation returns its result together with the rows as the session holds them, also when it raises:
a row that was written before the error stays written until the caller rolls back. The reset barrier of
the site and the validation of a version's document are parameters. The dictionaries inside the extras of
a failure are flattened to one entry for each key.
-/

set_option autoImplicit false
namespace PowerMonitor.Assignments
open Library
open Pricing (UtilityAccount require)

/-- A blocking error of a validation report. -/
structure BlockingIssue where
  code : String
  path : String
  message : String
  deriving DecidableEq, Repr

/-- What the operations call: `ensure_site_reset_mutations_allowed`, and `validate_document` of a version. -/
structure Services where
  ensureSiteResetMutationsAllowed : String → Except ProblemError Unit
  documentErrors : RateVersion → List BlockingIssue

/-- The result of an operation and the rows it leaves. -/
abbrev Outcome (α : Type) := Except ProblemError α × RateBook

/-! ## Failures -/

def notFound : ProblemError :=
  { status := 404, title := "Electric service not found", detail := "The electric service does not exist",
    code := "not_found" }

def scopeChanged (planIds missingPlanIds : List String) : ProblemError :=
  { status := 409, title := "Rate dependency scope changed"
    detail := "Pricing dependencies changed while reset-safe locks were being acquired. " ++
      "Reload and retry the operation."
    code := "rate_plan_dependency_scope_changed"
    extraTexts := [("rate_plan_ids", planIds), ("missing_rate_plan_ids", missingPlanIds)] }

def utilityAccountArchived : ProblemError :=
  { status := 409, title := "Active electric service required"
    detail := "Restore the electric service before changing its rate plan", code := "utility_account_archived" }

def staleElectricService (account : UtilityAccount) : ProblemError :=
  { status := 409, title := "Electric service changed"
    detail := "Reload the electric service before changing its current plan", code := "stale_electric_service"
    extra := [("current_service_revision", account.revision)]
    extraTexts := [("blockers.code", ["service_revision_changed"]),
      ("blockers.message", ["The electric service was updated by another request."]), ("blockers.action", ["reload"])] }

def rateVersionUnavailable : ProblemError :=
  { status := 422, title := "Published rate version required"
    detail := "Publish the selected version before assigning it", code := "rate_version_unavailable" }

def ratePlanRemoved : ProblemError :=
  { status := 409, title := "Rate plan unavailable"
    detail := "Restore the plan and version before assigning it", code := "rate_plan_removed" }

def rateVersionInvalid (errors : List BlockingIssue) : ProblemError :=
  { status := 422, title := "Rate version is incomplete"
    detail := "Resolve every validation error and publish a complete rate version before assignment"
    code := "rate_version_invalid"
    extraTexts := [("blockers.code", errors.map BlockingIssue.code), ("blockers.path", errors.map BlockingIssue.path),
      ("blockers.message", errors.map BlockingIssue.message), ("blockers.action", errors.map fun _ => "review_and_publish")] }

def rateAssignmentInvalid : ProblemError :=
  { status := 422, title := "Invalid assignment dates", detail := "Assignment end must follow its start"
    code := "rate_assignment_invalid" }

def staleRateAssignment (current : Option RateAssignment) : ProblemError :=
  { status := 409, title := "Current assignment changed", detail := "Reload the current plan before replacing it"
    code := "stale_rate_assignment"
    extra := current.toList.map fun row => ("current_assignment_revision", (row.revision : Int))
    extraTexts := [("blockers.code", ["assignment_revision_changed"]),
      ("blockers.message", ["The effective assignment changed before this request committed."]),
      ("blockers.action", ["reload"]), ("current_assignment_id", current.toList.map RateAssignment.id)] }

def rateAssignmentRepairRequired (accountId : String) (conflicts : List (RateAssignment × RateAssignment)) :
    ProblemError :=
  { status := 409, title := "Existing assignment conflict requires repair"
    detail := "Choose the current plan in the assignment repair workflow before adding a schedule"
    code := "rate_assignment_repair_required"
    extraTexts := [("utility_account_id", [accountId]), ("conflicting_assignment_ids", conflictIds conflicts),
      ("allowed_resolution_actions", ["review_conflicts", "select_current"])] }

def rateAssignmentOverlap (item : RateAssignment) : ProblemError :=
  { status := 409, title := "Rate assignment overlaps"
    detail := "The selected effective window overlaps an existing current or scheduled plan"
    code := "rate_assignment_overlap"
    extra := ("conflicting_effective_from", item.effectiveFrom) ::
      item.effectiveTo.toList.map fun finish => ("conflicting_effective_to", finish)
    extraTexts := [("conflicting_assignment_id", [item.id]), ("conflicting_rate_version_id", [item.rateVersionId]),
      ("allowed_resolution_actions", ["replace_current", "choose_boundary", "cancel_scheduled"])] }

def rateAssignmentNotCurrent : ProblemError :=
  { status := 409, title := "No current assignment", detail := "There is no plan to end at the selected time"
    code := "rate_assignment_not_current" }

def staleAssignmentConflicts (actualIds : List String) : ProblemError :=
  { status := 409, title := "Assignment conflicts changed"
    detail := "Reload the repair report before choosing the current plan", code := "stale_assignment_conflicts"
    extraTexts := [("conflicting_assignment_ids", actualIds)] }

def rateAssignmentResolutionInvalid : ProblemError :=
  { status := 422, title := "Invalid current-plan selection", detail := "Select one of the conflicting assignments"
    code := "rate_assignment_resolution_invalid" }

def rateAssignmentResolutionIncomplete : ProblemError :=
  { status := 409, title := "Assignment repair is incomplete"
    detail := "The selected assignment does not resolve every overlap", code := "rate_assignment_resolution_incomplete" }

/-! ## Locks -/

section Operations
variable (services : Services)

namespace RateBook
variable (book : RateBook)

def ratePlanIdsForVersions (versionIds : List String) : List String :=
  (book.rateVersions.filter fun version => version.id ∈ versionIds).map RateVersion.ratePlanId

def accountRatePlanIds (accountId : String) : List String :=
  book.ratePlanIdsForVersions
    ((book.rateAssignments.filter fun row => row.utilityAccountId = accountId).map RateAssignment.rateVersionId ++
      ((book.account? accountId).bind UtilityAccount.activeRateVersionId).toList)

end RateBook

def lockRatePlans (book : RateBook) (planIds : List String) : Except ProblemError Unit :=
  let missing := planIds.filter fun planId => (book.plan? planId).isNone
  raiseIf (missing ≠ []) (scopeChanged planIds missing)

def ensureAccountRateMutationsAllowed (book : RateBook) (accountId : String) (extraVersionIds : List String := []) :
    Except ProblemError UtilityAccount := do
  let account ← require (book.account? accountId) notFound
  services.ensureSiteResetMutationsAllowed account.siteId
  lockRatePlans book (book.accountRatePlanIds accountId ++ book.ratePlanIdsForVersions extraVersionIds)
  pure account

/-! ## assign_version -/

structure AssignmentRequest where
  accountId : String
  rateVersionId : String
  effectiveFrom : Int
  effectiveTo : Option Int := none
  replaceCurrent : Bool := false
  reason : Option String := none
  actorId : String := ""
  idempotencyKey : Option String := none
  expectedAccountRevision : Option Nat := none
  expectedCurrentAssignmentRevision : Option Nat := none
  deriving DecidableEq, Repr

/-- The requested window. -/
def AssignmentRequest.window (request : AssignmentRequest) : Window Int := ⟨request.effectiveFrom, request.effectiveTo⟩

/-- What the loop over the assignments of the account collects. -/
structure Placement where
  replaced : List RateAssignment := []
  nextFutureStart : Option Int := none
  deriving DecidableEq, Repr

def placeStep (request : AssignmentRequest) (placement : Placement) (item : RateAssignment) :
    Except ProblemError Placement :=
  if ¬ overlaps item.window request.window then pure placement
  else if request.replaceCurrent ∧ item.Covers request.effectiveFrom then
    pure { placement with replaced := placement.replaced ++ [item] }
  else if request.replaceCurrent ∧ request.effectiveTo = none ∧ request.effectiveFrom < item.effectiveFrom then
    pure { placement with nextFutureStart := some (match placement.nextFutureStart with
      | none => item.effectiveFrom
      | some start => min start item.effectiveFrom) }
  else throw (rateAssignmentOverlap item)

def ASSIGNABLE_VERSION_STATUSES : List RateVersionStatus := [.published, .active, .approved]

/-- The checks of the account, the version and its plan. -/
def checkVersion (book : RateBook) (request : AssignmentRequest) : Except ProblemError Unit := do
  let account ← ensureAccountRateMutationsAllowed services book request.accountId [request.rateVersionId]
  raiseIf (account.active = false) utilityAccountArchived
  raiseIf (∃ revision ∈ request.expectedAccountRevision, account.revision ≠ revision) (staleElectricService account)
  let version ← require (book.version? request.rateVersionId) rateVersionUnavailable
  raiseIf (version.status ∉ ASSIGNABLE_VERSION_STATUSES) rateVersionUnavailable
  let plan ← require (book.plan? version.ratePlanId) ratePlanRemoved
  raiseIf (plan.status ∈ [RatePlanStatus.removed, .retired] ∨ version.status ∈ [RateVersionStatus.removed, .retired])
    ratePlanRemoved
  raiseIf (services.documentErrors version ≠ []) (rateVersionInvalid (services.documentErrors version))

/-- The checks of the window against the assignments of the account. -/
def placeWindow (book : RateBook) (request : AssignmentRequest) (now : Int) : Except ProblemError Placement := do
  raiseIf (∃ finish ∈ request.effectiveTo, finish ≤ request.effectiveFrom) rateAssignmentInvalid
  let assignments := book.accountAssignments request.accountId false
  let currentAtRequest := assignments.find? fun item => assignmentState item now = .current
  raiseIf (∃ revision ∈ request.expectedCurrentAssignmentRevision,
    ∀ current ∈ currentAtRequest, current.revision ≠ revision) (staleRateAssignment currentAtRequest)
  let existingConflicts := conflictingPairs assignments
  raiseIf (existingConflicts ≠ []) (rateAssignmentRepairRequired request.accountId existingConflicts)
  assignments.foldlM (placeStep request) {}

/-- A replaced row: cancelled when it starts with the new one, else ended there. -/
def replaceRow (request : AssignmentRequest) (now : Int) (item : RateAssignment) : RateAssignment :=
  if item.effectiveFrom = request.effectiveFrom then
    { item with
      cancelledAt := some now
      cancelledBy := some request.actorId
      cancellationReason := some ((request.reason.filter (· ≠ "")).getD "Replaced at the same effective instant")
      revision := item.revision + 1 }
  else { item with effectiveTo := some request.effectiveFrom, revision := item.revision + 1 }

/-- The new row; `id` is the fresh identifier it is given. -/
def newAssignment (request : AssignmentRequest) (id : String) (now : Int) (placement : Placement) : RateAssignment :=
  { id := id
    utilityAccountId := request.accountId
    rateVersionId := request.rateVersionId
    effectiveFrom := request.effectiveFrom
    effectiveTo := match placement.nextFutureStart with
      | some start => some start
      | none => request.effectiveTo
    assignmentReason := request.reason
    assignedBy := some request.actorId
    idempotencyKey := request.idempotencyKey
    createdAt := now }

/-- The writes of `assign_version`. -/
def RateBook.place (book : RateBook) (request : AssignmentRequest) (id : String) (now : Int) (placement : Placement) :
    RateBook :=
  let assignment := newAssignment request id now placement
  { book with rateAssignments := book.rateAssignments.map (fun row =>
      if row ∈ placement.replaced then replaceRow request now row else row) ++ [assignment] }.updateAccount
    request.accountId fun account =>
      { account with
        activeRateVersionId := if assignment.Covers now then some request.rateVersionId else account.activeRateVersionId
        revision := account.revision + 1 }

/-- The row that an idempotency key names; an empty key names none. -/
def RateBook.replayed? (book : RateBook) (request : AssignmentRequest) : Option RateAssignment :=
  (request.idempotencyKey.filter (· ≠ "")).bind fun key =>
    book.rateAssignments.find? fun row => row.idempotencyKey = some key

structure AssignmentReceipt where
  assignment : RateAssignment
  replacedIds : List String := []
  effectiveNow : Bool
  deriving DecidableEq, Repr

def assignVersion (book : RateBook) (request : AssignmentRequest) (id : String) (now : Int) :
    Outcome AssignmentReceipt :=
  match book.replayed? request with
  | some existing => (.ok { assignment := existing, effectiveNow := assignmentState existing now = .current }, book)
  | none =>
      match (do checkVersion services book request; placeWindow book request now) with
      | .error problem => (.error problem, book)
      | .ok placement =>
          let assignment := newAssignment request id now placement
          (.ok { assignment := assignment
                 replacedIds := placement.replaced.map RateAssignment.id
                 effectiveNow := assignment.Covers now }, book.place request id now placement)

/-! ## end_assignment -/

/-- The instant is a datetime, so none after the last one. -/
structure EndRequest where
  accountId : String
  effectiveAt : Int
  reason : String := ""
  actorId : String := ""
  representable : effectiveAt ≤ datetimeMax
  deriving DecidableEq, Repr

def endRow (request : EndRequest) (now : Int) (current : RateAssignment) : RateAssignment :=
  if current.effectiveFrom = request.effectiveAt then
    { current with
      cancelledAt := some now
      cancelledBy := some request.actorId
      cancellationReason := some request.reason
      assignmentReason := some request.reason
      revision := current.revision + 1 }
  else
    { current with
      effectiveTo := some request.effectiveAt
      assignmentReason := some request.reason
      revision := current.revision + 1 }

/-- The writes of `end_assignment`. -/
def RateBook.endCurrent (book : RateBook) (request : EndRequest) (now : Int) (current : RateAssignment) : RateBook :=
  { book with rateAssignments := book.rateAssignments.map fun row =>
      if row = current then endRow request now row else row }.updateAccount request.accountId fun account =>
    { account with
      activeRateVersionId := if request.effectiveAt ≤ now then none else account.activeRateVersionId
      revision := account.revision + 1 }

def endAssignment (book : RateBook) (request : EndRequest) (now : Int) : Outcome RateAssignment :=
  match ensureAccountRateMutationsAllowed services book request.accountId with
  | .error problem => (.error problem, book)
  | .ok _ =>
      match (book.accountAssignments request.accountId false).find? fun item => item.Covers request.effectiveAt with
      | none => (.error rateAssignmentNotCurrent, book)
      | some current => (.ok (endRow request now current), book.endCurrent request now current)

/-! ## resolve_assignment_conflict -/

structure ResolveRequest where
  accountId : String
  keepAssignmentId : String
  expectedAssignmentIds : List String
  reason : String := ""
  actorId : String := ""
  deriving DecidableEq, Repr

structure ResolveReceipt where
  idempotent : Bool
  keptAssignmentId : Option String := none
  endedAssignmentIds : List String := []
  deriving DecidableEq, Repr

/-- A row of a conflict that another one wins. -/
def cancelConflict (request : ResolveRequest) (now : Int) (item : RateAssignment) : RateAssignment :=
  { item with
    cancelledAt := some now
    cancelledBy := some request.actorId
    cancellationReason := some request.reason
    revision := item.revision + 1 }

def RateBook.cancelConflicts (book : RateBook) (request : ResolveRequest) (now : Int) (ended : List RateAssignment) :
    RateBook :=
  { book with rateAssignments := book.rateAssignments.map fun row =>
      if row ∈ ended then cancelConflict request now row else row }

def resolveAssignmentConflict (book : RateBook) (request : ResolveRequest) (now : Int) : Outcome ResolveReceipt :=
  match ensureAccountRateMutationsAllowed services book request.accountId with
  | .error problem => (.error problem, book)
  | .ok _ =>
      let assignments := book.accountAssignments request.accountId
      let actualIds := conflictIds (conflictingPairs assignments)
      if actualIds = [] then (.ok { idempotent := true }, book)
      else if request.expectedAssignmentIds.insertionSort (· ≤ ·) ≠ actualIds then
        (.error (staleAssignmentConflicts actualIds), book)
      else
        match assignments.find? fun item => item.id = request.keepAssignmentId with
        | none => (.error rateAssignmentResolutionInvalid, book)
        | some keep =>
            if keep.id ∉ actualIds then (.error rateAssignmentResolutionInvalid, book)
            else
              let ended := assignments.filter fun item => item.id ≠ keep.id ∧ item.id ∈ actualIds
              let written := book.cancelConflicts request now ended
              let remaining := assignments.filter fun item =>
                item.id ∉ ended.map RateAssignment.id ∧ item.cancelledAt = none
              -- The rows are already written when the repair turns out to be incomplete.
              if conflictingPairs remaining ≠ [] then (.error rateAssignmentResolutionIncomplete, written)
              else
                (.ok { idempotent := false
                       keptAssignmentId := some keep.id
                       endedAssignmentIds := ended.map RateAssignment.id },
                  written.updateAccount request.accountId fun account =>
                    { account with
                      activeRateVersionId :=
                        if assignmentState keep now = .current then some keep.rateVersionId else none
                      revision := account.revision + 1 })

end Operations

end PowerMonitor.Assignments
