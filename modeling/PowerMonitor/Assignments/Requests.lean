import PowerMonitor.Assignments.Timeline
import PowerMonitor.Library.Linked

/-! The requests on rate assignments, as their handlers answer them.

A request is atomic: it returns the tables it commits, or it fails and is rolled back. The table of assignments
keeps its constraints, so no stored window is empty. `dependency_token` and the folding of a confirmation are
parameters.
-/

set_option autoImplicit false
namespace PowerMonitor.Assignments
open Library
open Pricing (UtilityAccount require)

/-! ## The tables of a request -/

structure Principal where
  userId : String
  permissions : List String
  roles : List String := []
  allSites : Bool := true
  siteIds : List String := []
  deriving DecidableEq, Repr

inductive ProviderMode where
  | sceBundled | sceDeliveryGeneration | sceDeliveryCca | sceDeliveryDirectAccess | customCombined
  deriving DecidableEq, Repr

inductive CostScope where | energyOnly | allocatedAccountEstimate | fullAccountEstimate
  deriving DecidableEq, Repr

/-- What an assignment request sets on the account beside its rate. -/
structure AccountSettings where
  providerMode : ProviderMode := .sceBundled
  costScopeDefault : CostScope := .energyOnly
  baselineAllocationKwh : Option Rat := none
  generationProvider : Option String := none
  deriving DecidableEq, Repr

/-- The lifecycle fields of a plan. -/
structure PlanRecord where
  code : String := ""
  lifecycleRevision : Nat := 1
  deriving DecidableEq, Repr

inductive AuditAction where
  | assignmentReplaced | assignmentCreated | assignmentScheduled | assignmentEnded | assignmentUpdated
  | assignmentCancelled | conflictRepaired | planUnassigned
  deriving DecidableEq, Repr

/-- An audit event, with the entries of its details that a later request may look up. -/
structure AuditEvent where
  action : AuditAction
  actorId : String
  occurredAt : Int
  objectId : String
  idempotencyKey : Option String := none
  ratePlanId : Option String := none
  utilityAccountId : Option String := none
  deriving DecidableEq, Repr

inductive RunStatus where | queued | running | completed | failed
  deriving DecidableEq, Repr

/-- A run has its version and its window, a non-empty one between two datetimes, since it was created. -/
structure CostCalculationRun where
  id : String
  utilityAccountId : String
  rateVersionId : String
  inputStart : Int
  inputEnd : Int
  status : RunStatus := .queued
  createdAt : Int := 0
  ordered : inputStart < inputEnd
  representable : inputEnd ≤ datetimeMax
  deriving Repr

def CostCalculationRun.withStatus (run : CostCalculationRun) (status : RunStatus) : CostCalculationRun :=
  { run with status := status }

namespace CostCalculationRun
variable (run : CostCalculationRun) (first : RunStatus)

@[simp] theorem withStatus_status : (run.withStatus first).status = first := rfl

@[simp] theorem withStatus_self : run.withStatus run.status = run := rfl

end CostCalculationRun

structure CostIntervalResult where
  runId : String
  bucket : String
  energyKwh : Rat
  unroundedCost : Rat
  deriving DecidableEq, Repr

/-- A finalized billing cycle of an account. -/
structure FinalizedCycle where
  utilityAccountId : String
  startsAt : Int
  endsAt : Int
  deriving DecidableEq, Repr

/-- The constraints on the table of assignments. -/
structure StoredAssignments (rows : List RateAssignment) : Prop where
  ids : (rows.map RateAssignment.id).Nodup
  proper : ∀ row ∈ rows, row.window.Proper
  keys : (rows.filterMap RateAssignment.idempotencyKey).Nodup

instance (window : Window Int) : Decidable window.Proper := inferInstanceAs (Decidable (∀ finish ∈ window.finish, _))

theorem storedAssignments_iff {rows : List RateAssignment} : StoredAssignments rows ↔
    (rows.map RateAssignment.id).Nodup ∧ (∀ row ∈ rows, row.window.Proper) ∧
      (rows.filterMap RateAssignment.idempotencyKey).Nodup :=
  ⟨fun stored => ⟨stored.ids, stored.proper, stored.keys⟩, fun stored => ⟨stored.1, stored.2.1, stored.2.2⟩⟩

instance (rows : List RateAssignment) : Decidable (StoredAssignments rows) := decidable_of_iff _ storedAssignments_iff.symm

structure RateDesk where
  book : RateBook
  settings : String → AccountSettings := fun _ => {}
  plans : String → PlanRecord := fun _ => {}
  auditEvents : List AuditEvent := []
  costRuns : List CostCalculationRun := []
  costRows : List CostIntervalResult := []
  finalizedCycles : List FinalizedCycle := []
  stored : StoredAssignments book.rateAssignments
  runIds : (costRuns.map CostCalculationRun.id).Nodup := by first | exact List.nodup_nil | decide

/-- What ends a request: a problem it raises, or a constraint that refuses its rows. -/
inductive RequestFailure where
  | problem (error : ProblemError)
  | integrity
  deriving DecidableEq, Repr

/-- What the handlers call: the assignment service, the hash of a dependency report, and the two string methods with
which a confirmation is compared. -/
structure DeskServices where
  assignment : Services
  dependencyToken : RateDesk → String → String
  strip : String → String
  casefold : String → String

def RateDesk.flush (desk : RateDesk) (book : RateBook) : Except RequestFailure RateDesk :=
  if stored : StoredAssignments book.rateAssignments then .ok { desk with book := book, stored := stored }
  else .error .integrity

def RateDesk.record (desk : RateDesk) (event : AuditEvent) : RateDesk :=
  { desk with auditEvents := desk.auditEvents ++ [event] }

/-- A problem of the assignment service ends the request. -/
def rising {α : Type} (result : Except ProblemError α) : Except RequestFailure α := result.mapError .problem

/-- The result of a service call and the rows it leaves, for a request that goes on. -/
def continuing {α : Type} (outcome : Outcome α) : Except RequestFailure (α × RateBook) := do
  let value ← rising outcome.1
  pure (value, outcome.2)

theorem rising_eq_ok {α : Type} {result : Except ProblemError α} {value : α} : rising result = .ok value ↔ result = .ok value := by
  cases result with
  | error problem => simp [rising, Except.mapError]
  | ok found => simp [rising, Except.mapError]

theorem rising_eq_error {α : Type} {result : Except ProblemError α} {problem : ProblemError} :
    rising result = .error (.problem problem) ↔ result = .error problem := by
  cases result with
  | error other => simp [rising, Except.mapError]
  | ok found => simp [rising, Except.mapError]

theorem continuing_eq_ok {α : Type} {outcome : Outcome α} {book : RateBook} {value : α} :
    continuing outcome = .ok (value, book) ↔ outcome = (.ok value, book) := by
  obtain ⟨result, left⟩ := outcome
  cases result with
  | error problem => simp [continuing, rising, Except.mapError, bind, Except.bind]
  | ok found => simp [continuing, rising, Except.mapError, bind, Except.bind, pure, Except.pure]

def permissionDenied (permission : String) : ProblemError :=
  { status := 403, title := "Permission denied", detail := "Your account does not have the required rate permission"
    code := "forbidden", extraTexts := [("required_permission", [permission])] }

/-- `_rate_manager` -/
def rateManager (principal : Principal) (permission : String) : Except RequestFailure Unit :=
  rising (raiseIf (permission ∉ principal.permissions) (permissionDenied permission))

def RateBook.assignment? (book : RateBook) (assignmentId : String) : Option RateAssignment :=
  book.rateAssignments.find? fun row => row.id = assignmentId

/-- Write the row of one id. -/
def RateBook.updateAssignment (book : RateBook) (assignmentId : String) (write : RateAssignment → RateAssignment) : RateBook :=
  { book with rateAssignments := book.rateAssignments.map fun row => if row.id = assignmentId then write row else row }

/-! ## Cost runs -/

/-- The run overlaps a finalized cycle of its account. -/
def RateDesk.Protected (desk : RateDesk) (run : CostCalculationRun) : Prop :=
  ∃ cycle ∈ desk.finalizedCycles, cycle.utilityAccountId = run.utilityAccountId ∧
    run.inputStart < cycle.endsAt ∧ cycle.startsAt < run.inputEnd

instance (desk : RateDesk) (run : CostCalculationRun) : Decidable (desk.Protected run) :=
  inferInstanceAs (Decidable (∃ cycle ∈ _, _))

/-- Give some runs another status. -/
def RateDesk.updateRuns (desk : RateDesk) (change : CostCalculationRun → RunStatus) : RateDesk :=
  { desk with
    costRuns := desk.costRuns.map fun run => run.withStatus (change run)
    runIds := by
      rw [List.map_map]
      exact desk.runIds }

/-- `_queue_unfinalized_cost_runs`: every run of the account that is not protected, whatever its status. -/
def RateDesk.queueUnfinalizedCostRuns (desk : RateDesk) (accountId : String) : RateDesk :=
  desk.updateRuns fun run => if run.utilityAccountId = accountId ∧ ¬ desk.Protected run then .queued else run.status

/-! ## Replacing and creating -/

structure AssignmentReply where
  assignmentId : String
  utilityAccountId : String
  rateVersionId : String
  idempotent : Bool
  deriving DecidableEq, Repr

def AssignmentReply.of (assignment : RateAssignment) (idempotent : Bool) : AssignmentReply :=
  ⟨assignment.id, assignment.utilityAccountId, assignment.rateVersionId, idempotent⟩

def assignmentResultInvalid : ProblemError :=
  { status := 500, title := "Assignment result is incomplete"
    detail := "The committed assignment could not be resolved to its service and rate version"
    code := "rate_assignment_result_invalid" }

/-- `_assignment_result`, which resolves the version, the plan and the account of an assignment. -/
def assignmentResult (book : RateBook) (assignment : RateAssignment) (idempotent : Bool) :
    Except RequestFailure AssignmentReply := rising do
  let version ← require (book.version? assignment.rateVersionId) assignmentResultInvalid
  let _ ← require (book.plan? version.ratePlanId) assignmentResultInvalid
  let _ ← require (book.account? assignment.utilityAccountId) assignmentResultInvalid
  pure (.of assignment idempotent)

def idempotencyKeyReused : ProblemError :=
  { status := 409, title := "Idempotency key already used"
    detail := "Use a new operation identifier for different assignment values", code := "idempotency_key_reused" }

def concurrentOverlap (detail : String) : ProblemError :=
  { status := 409, title := "Rate assignment overlaps", detail := detail, code := "rate_assignment_overlap"
    extraTexts := [("allowed_resolution_actions", ["reload"])] }

/-- `assign_version` up to its flush; a refused row is reported as a concurrent change. -/
def RateDesk.assign (services : Services) (desk : RateDesk) (request : AssignmentRequest) (id : String) (now : Int)
    (refused : String) : Except RequestFailure (AssignmentReceipt × RateDesk) := do
  let (receipt, book) ← continuing (assignVersion services desk.book request id now)
  match desk.flush book with
  | .ok flushed => pure (receipt, flushed)
  | .error _ => .error (.problem (concurrentOverlap refused))

/-- The payload of `replace_current_assignment`. -/
structure ReplaceRequest where
  accountId : String
  rateVersionId : String
  effectiveFrom : Int
  effectiveTo : Option Int := none
  assignmentReason : Option String := none
  idempotencyKey : Option String := none
  expectedAccountRevision : Option Nat := none
  expectedCurrentAssignmentRevision : Option Nat := none
  deriving DecidableEq, Repr

def ReplaceRequest.toAssignment (request : ReplaceRequest) (principal : Principal) : AssignmentRequest :=
  { accountId := request.accountId
    rateVersionId := request.rateVersionId
    effectiveFrom := request.effectiveFrom
    effectiveTo := request.effectiveTo
    replaceCurrent := true
    reason := some ((request.assignmentReason.filter (· ≠ "")).getD "Owner replaced the current rate plan")
    actorId := principal.userId
    idempotencyKey := request.idempotencyKey
    expectedAccountRevision := request.expectedAccountRevision
    expectedCurrentAssignmentRevision := request.expectedCurrentAssignmentRevision }

/-- The row that a key names, if the request has one. -/
def RateBook.keyed? (book : RateBook) (key : Option String) : Option RateAssignment :=
  (key.filter (· ≠ "")).bind fun key => book.rateAssignments.find? fun row => row.idempotencyKey = some key

def replaceCurrentAssignment (services : DeskServices) (desk : RateDesk) (principal : Principal) (request : ReplaceRequest)
    (id : String) (now : Int) : Except RequestFailure (AssignmentReply × RateDesk) := do
  rateManager principal "rates.assign"
  let _ ← rising (ensureAccountRateMutationsAllowed services.assignment desk.book request.accountId [request.rateVersionId])
  match desk.book.keyed? request.idempotencyKey with
  | some existing => do
      rising (raiseIf (existing.utilityAccountId ≠ request.accountId ∨ existing.rateVersionId ≠ request.rateVersionId ∨
        existing.effectiveFrom ≠ request.effectiveFrom) idempotencyKeyReused)
      let reply ← assignmentResult desk.book existing true
      pure (reply, desk)
  | none => do
      let (receipt, desk) ← desk.assign services.assignment (request.toAssignment principal) id now
        "Another assignment changed concurrently; reload before replacing it"
      let desk := desk.queueUnfinalizedCostRuns request.accountId
      let reply ← assignmentResult desk.book receipt.assignment false
      pure (reply, desk.record
        { action := if receipt.replacedIds = [] then .assignmentCreated else .assignmentReplaced
          actorId := principal.userId, occurredAt := now, objectId := receipt.assignment.id
          idempotencyKey := request.idempotencyKey, utilityAccountId := some request.accountId })

/-- The payload of `create_rate_assignment`, whose entries may be missing. -/
structure CreateRequest where
  accountId : Option String := none
  siteId : Option String := none
  rateVersionId : Option String := none
  effectiveFrom : Option Int := none
  effectiveTo : Option Int := none
  providerMode : Option String := none
  costScope : Option String := none
  baselineAllocationKwh : Option (Option Rat) := none
  generationProvider : Option String := none
  replaceCurrent : Bool := false
  assignmentReason : Option String := none
  idempotencyKey : Option String := none
  deriving DecidableEq, Repr

def createAssignmentInvalid (detail : String) : ProblemError :=
  { status := 422, title := "Invalid rate assignment", detail := detail, code := "rate_assignment_invalid" }

def parseProviderMode : String → Option ProviderMode
  | "sce_bundled" => some .sceBundled
  | "sce_delivery_generation" => some .sceDeliveryGeneration
  | "sce_delivery_cca" => some .sceDeliveryCca
  | "sce_delivery_direct_access" => some .sceDeliveryDirectAccess
  | "custom_combined" => some .customCombined
  | _ => none

def parseCostScope : String → Option CostScope
  | "energy_only" => some .energyOnly
  | "allocated_account_estimate" => some .allocatedAccountEstimate
  | "full_account_estimate" => some .fullAccountEstimate
  | _ => none

/-- The account of the payload, or the first one of its site. -/
def CreateRequest.account? (request : CreateRequest) (book : RateBook) : Option UtilityAccount :=
  ((request.accountId.filter (· ≠ "")).bind book.account?).or
    ((request.siteId.filter (· ≠ "")).bind fun siteId => book.utilityAccounts.find? fun row => row.siteId = siteId)

/-- The settings of the account as the payload leaves them. -/
def CreateRequest.applied (request : CreateRequest) (settings : AccountSettings) : Option AccountSettings := do
  let providerMode ← match request.providerMode with
    | some text => parseProviderMode text
    | none => some settings.providerMode
  let costScope ← match request.costScope with
    | some text => parseCostScope text
    | none => some settings.costScopeDefault
  pure { providerMode := providerMode
         costScopeDefault := costScope
         baselineAllocationKwh := request.baselineAllocationKwh.getD settings.baselineAllocationKwh
         generationProvider := match request.generationProvider.filter (· ≠ "") with
           | some provider => some (String.ofList (provider.toList.take 32))
           | none => settings.generationProvider }

def CreateRequest.toAssignment (request : CreateRequest) (principal : Principal) (accountId versionId : String) (now : Int) :
    AssignmentRequest :=
  { accountId := accountId
    rateVersionId := versionId
    effectiveFrom := request.effectiveFrom.getD now
    effectiveTo := request.effectiveTo
    replaceCurrent := request.replaceCurrent
    reason := some ((request.assignmentReason.filter (· ≠ "")).getD "Assigned through rate editor")
    actorId := principal.userId
    idempotencyKey := request.idempotencyKey.filter (· ≠ "") }

def createRateAssignment (services : DeskServices) (desk : RateDesk) (principal : Principal) (request : CreateRequest)
    (id : String) (now : Int) : Except RequestFailure (AssignmentReply × RateDesk) := do
  rateManager principal "rates.assign"
  let invalid := createAssignmentInvalid "Electric service and published rate version are required"
  let account ← rising (require (request.account? desk.book) invalid)
  let versionId ← rising (require (request.rateVersionId.filter (· ≠ "")) invalid)
  let _ ← rising (ensureAccountRateMutationsAllowed services.assignment desk.book account.id [versionId])
  let settings ← rising (require (request.applied (desk.settings account.id))
    (createAssignmentInvalid "Provider mode or cost scope is not supported"))
  let desk := { desk with settings := Function.update desk.settings account.id settings }
  let (receipt, desk) ← desk.assign services.assignment (request.toAssignment principal account.id versionId now) id now
    "Another assignment changed at the same time; reload and try again"
  let desk := desk.queueUnfinalizedCostRuns account.id
  pure (.of receipt.assignment false, desk.record
    { action := if receipt.replacedIds ≠ [] then .assignmentReplaced
        else if receipt.effectiveNow then .assignmentCreated else .assignmentScheduled
      actorId := principal.userId, occurredAt := now, objectId := receipt.assignment.id
      utilityAccountId := some account.id })

/-! ## Ending and repairing -/

/-- The newest events that a query selects, at most `limit` of them. -/
def RateDesk.recentEvents (desk : RateDesk) (selected : AuditEvent → Bool) (limit : Nat) : List AuditEvent :=
  (sortedBy (fun event => - event.occurredAt) (desk.auditEvents.filter selected)).take limit

/-- `_idempotent_operation` -/
def RateDesk.idempotentOperation (desk : RateDesk) (action : AuditAction) (key accountId : String) : Option AuditEvent :=
  (desk.recentEvents (fun event => event.action = action) 200).find? fun event =>
    event.idempotencyKey = some key ∧ event.utilityAccountId = some accountId

structure EndPayload where
  accountId : String
  effectiveAt : Int
  reason : String
  idempotencyKey : String
  representable : effectiveAt ≤ datetimeMax
  deriving Repr

def EndPayload.toEnd (request : EndPayload) (principal : Principal) : EndRequest :=
  { accountId := request.accountId, effectiveAt := request.effectiveAt, reason := request.reason
    actorId := principal.userId, representable := request.representable }

structure EndReply where
  assignmentId : String
  idempotent : Bool
  deriving DecidableEq, Repr

def endCurrentRateAssignment (services : DeskServices) (desk : RateDesk) (principal : Principal) (request : EndPayload)
    (now : Int) : Except RequestFailure (EndReply × RateDesk) := do
  rateManager principal "rates.assign"
  let _ ← rising (ensureAccountRateMutationsAllowed services.assignment desk.book request.accountId)
  match desk.idempotentOperation .assignmentEnded request.idempotencyKey request.accountId with
  | some event => pure (⟨event.objectId, true⟩, desk)
  | none => do
      let (assignment, book) ← continuing (endAssignment services.assignment desk.book (request.toEnd principal) now)
      let desk ← desk.flush book
      let desk := desk.queueUnfinalizedCostRuns request.accountId
      pure (⟨assignment.id, false⟩, desk.record
        { action := .assignmentEnded, actorId := principal.userId, occurredAt := now, objectId := assignment.id
          idempotencyKey := some request.idempotencyKey, utilityAccountId := some request.accountId })

structure RepairPayload where
  accountId : String
  keepAssignmentId : String
  expectedAssignmentIds : List String
  reason : String
  idempotencyKey : String
  few : 2 ≤ expectedAssignmentIds.length ∧ expectedAssignmentIds.length ≤ 50
  deriving DecidableEq, Repr

def RepairPayload.toResolve (request : RepairPayload) (principal : Principal) : ResolveRequest :=
  { accountId := request.accountId, keepAssignmentId := request.keepAssignmentId
    expectedAssignmentIds := request.expectedAssignmentIds, reason := request.reason, actorId := principal.userId }

def repairAssignmentConflicts (services : DeskServices) (desk : RateDesk) (principal : Principal) (request : RepairPayload)
    (now : Int) : Except RequestFailure (ResolveReceipt × RateDesk) := do
  rateManager principal "rates.assign"
  let _ ← rising (ensureAccountRateMutationsAllowed services.assignment desk.book request.accountId)
  match desk.idempotentOperation .conflictRepaired request.idempotencyKey request.accountId with
  | some _ => pure ({ idempotent := true }, desk)
  | none => do
      let (receipt, book) ← continuing
        (resolveAssignmentConflict services.assignment desk.book (request.toResolve principal) now)
      let desk ← desk.flush book
      let desk := desk.queueUnfinalizedCostRuns request.accountId
      -- The details are the result of the repair, which names no account.
      pure (receipt, desk.record
        { action := .conflictRepaired, actorId := principal.userId, occurredAt := now, objectId := request.accountId
          idempotencyKey := some request.idempotencyKey })

/-! ## Unassigning a plan -/

structure UnassignRequest where
  planId : String
  accountId : String
  expectedRevision : Nat
  expectedDependencyToken : String
  effectiveAt : Int
  reason : String
  confirmation : String
  idempotencyKey : Option String := none
  representable : effectiveAt ≤ datetimeMax
  deriving Repr

def ownerPermissionRequired : ProblemError :=
  { status := 403, title := "Owner permission required"
    detail := "Only an Owner can remove the current plan from an electric service", code := "rate_plan_unassign_forbidden" }

def assignmentMissing (detail : String) : ProblemError :=
  { status := 404, title := "Rate assignment not found", detail := detail, code := "rate_assignment_missing" }

def stalePlanRevision (record : PlanRecord) : ProblemError :=
  { status := 409, title := "Rate plan changed", detail := "Reload the dependency review before unassigning this plan"
    code := "stale_revision", extra := [("current_revision", record.lifecycleRevision)] }

def confirmationMismatch (code : String) : ProblemError :=
  { status := 409, title := "Confirmation does not match", detail := "Type UNASSIGN " ++ code ++ " exactly"
    code := "rate_plan_confirmation_required" }

def staleDependencyToken : ProblemError :=
  { status := 409, title := "Rate-plan dependencies changed", detail := "Reload the impact review before unassigning this plan"
    code := "stale_dependency_token" }

def planNotAssigned : ProblemError :=
  { status := 409, title := "Plan is not assigned at that time"
    detail := "Reload the electric service and choose its current assigned plan", code := "rate_assignment_not_current" }

def RateBook.versionIdsOf (book : RateBook) (planId : String) : List String :=
  (book.rateVersions.filter fun version => version.ratePlanId = planId).map RateVersion.id

/-- The active rate of the account is a version of the plan. -/
def RateBook.PointsTo (book : RateBook) (planId : String) (account : UtilityAccount) : Prop :=
  ∃ versionId ∈ account.activeRateVersionId, versionId ∈ book.versionIdsOf planId

instance (book : RateBook) (planId : String) (account : UtilityAccount) : Decidable (book.PointsTo planId account) :=
  inferInstanceAs (Decidable (∃ versionId ∈ account.activeRateVersionId, _))

/-- The rows of the account with a version of the plan that cover the instant, cancelled or not, the latest start first. -/
def RateBook.assignedAt (book : RateBook) (planId accountId : String) (instant : Int) : List RateAssignment :=
  sortedBy (fun row => - row.effectiveFrom) (book.rateAssignments.filter fun row =>
    row.utilityAccountId = accountId ∧ row.rateVersionId ∈ book.versionIdsOf planId ∧ row.Covers instant)

/-- The earlier event that a request of this user is taken to repeat; two requests without a key have the same one. -/
def RateDesk.unassigned? (desk : RateDesk) (principal : Principal) (request : UnassignRequest) : Option AuditEvent :=
  (desk.recentEvents (fun event => event.action = .planUnassigned ∧ event.actorId = principal.userId) 100).find? fun event =>
    event.idempotencyKey = request.idempotencyKey ∧ event.ratePlanId = some request.planId ∧
      event.utilityAccountId = some request.accountId

def unassignRow (request : UnassignRequest) (row : RateAssignment) : RateAssignment :=
  { row with effectiveTo := some request.effectiveAt, assignmentReason := some request.reason }

/-- The writes of `unassign_rate_plan` on the rates of the account. -/
def RateBook.unassign (book : RateBook) (request : UnassignRequest) (now : Int) (assignment : RateAssignment) : RateBook :=
  (book.updateAssignment assignment.id (unassignRow request)).updateAccount request.accountId fun account =>
    if book.PointsTo request.planId account ∧ request.effectiveAt ≤ now then
      { account with activeRateVersionId := none, revision := account.revision + 1 }
    else account

def RateDesk.advancePlan (desk : RateDesk) (planId : String) : RateDesk :=
  let record := desk.plans planId
  { desk with
    plans := Function.update desk.plans planId { record with lifecycleRevision := record.lifecycleRevision + 1 } }

/-- The checks of a request that repeats no earlier one, down to the row it ends. -/
def unassignChecks (services : DeskServices) (desk : RateDesk) (request : UnassignRequest) :
    Except ProblemError RateAssignment := do
  let record := desk.plans request.planId
  raiseIf (record.lifecycleRevision ≠ request.expectedRevision) (stalePlanRevision record)
  raiseIf (services.casefold (services.strip request.confirmation) ≠ services.casefold ("unassign " ++ record.code))
    (confirmationMismatch record.code)
  raiseIf (request.expectedDependencyToken ≠ services.dependencyToken desk request.planId) staleDependencyToken
  require (desk.book.assignedAt request.planId request.accountId request.effectiveAt).head? planNotAssigned

def unassignRatePlan (services : DeskServices) (desk : RateDesk) (principal : Principal) (request : UnassignRequest)
    (now : Int) : Except RequestFailure (EndReply × RateDesk) := do
  rateManager principal "rates.assign"
  rising (raiseIf ("admin" ∉ principal.roles) ownerPermissionRequired)
  let missing := assignmentMissing "The selected plan or electric service does not exist"
  let _ ← rising (require (desk.book.plan? request.planId) missing)
  let account ← rising (require (desk.book.account? request.accountId) missing)
  let _ ← rising (ensureAccountRateMutationsAllowed services.assignment desk.book request.accountId)
  rising (raiseIf (¬ (principal.allSites = true ∨ account.siteId ∈ principal.siteIds)) missing)
  match desk.unassigned? principal request with
  | some event => pure (⟨event.objectId, true⟩, desk)
  | none => do
      let assignment ← rising (unassignChecks services desk request)
      let desk ← desk.flush (desk.book.unassign request now assignment)
      pure (⟨assignment.id, false⟩, (desk.advancePlan request.planId).record
        { action := .planUnassigned, actorId := principal.userId, occurredAt := now, objectId := assignment.id
          idempotencyKey := request.idempotencyKey, ratePlanId := some request.planId
          utilityAccountId := some request.accountId })

/-! ## Changing and cancelling one row -/

structure PatchRequest where
  assignmentId : String
  revision : Option Nat := none
  effectiveTo : Option Int := none
  representable : ∀ finish ∈ effectiveTo, finish ≤ datetimeMax

def historicalImmutable : ProblemError :=
  { status := 409, title := "Historical assignment is immutable"
    detail := "Historical rate authority and calculated costs must be preserved", code := "rate_assignment_historical" }

def staleAssignmentRevision (assignment : RateAssignment) : ProblemError :=
  { status := 409, title := "Rate assignment changed", detail := "Reload the assignment before changing its boundary"
    code := "stale_revision", extra := [("current_revision", assignment.revision)] }

def windowExpanded : ProblemError :=
  { status := 409, title := "Assignment window cannot be expanded"
    detail := "Use the explicit Replace current workflow to change rate authority", code := "rate_assignment_replace_required" }

def onlyScheduledCancelled : ProblemError :=
  { status := 409, title := "Only scheduled assignments can be cancelled"
    detail := "End a current assignment explicitly; historical assignments are immutable"
    code := "rate_assignment_delete_blocked" }

def patchChecks (assignment : RateAssignment) (request : PatchRequest) (now : Int) : Except ProblemError Unit := do
  raiseIf (assignmentState assignment now = .historical) historicalImmutable
  raiseIf (request.revision ≠ some assignment.revision) (staleAssignmentRevision assignment)
  raiseIf (∃ finish ∈ request.effectiveTo, finish ≤ assignment.effectiveFrom) rateAssignmentInvalid
  raiseIf (∃ finish ∈ request.effectiveTo, ∃ current ∈ assignment.effectiveTo, current < finish) windowExpanded

def patchRow (request : PatchRequest) (row : RateAssignment) : RateAssignment :=
  match request.effectiveTo with
  | some finish => { row with effectiveTo := some finish, revision := row.revision + 1 }
  | none => row

def patchRateAssignment (services : DeskServices) (desk : RateDesk) (principal : Principal) (request : PatchRequest)
    (now : Int) : Except RequestFailure RateDesk := do
  rateManager principal "rates.assign"
  let assignment ← rising (require (desk.book.assignment? request.assignmentId) (assignmentMissing "Assignment does not exist"))
  let _ ← rising (ensureAccountRateMutationsAllowed services.assignment desk.book assignment.utilityAccountId)
  rising (patchChecks assignment request now)
  let desk ← desk.flush (desk.book.updateAssignment request.assignmentId (patchRow request))
  let desk := desk.queueUnfinalizedCostRuns assignment.utilityAccountId
  pure (desk.record
    { action := .assignmentUpdated, actorId := principal.userId, occurredAt := now, objectId := assignment.id })

def cancelScheduled (principal : Principal) (now : Int) (row : RateAssignment) : RateAssignment :=
  { row with
    cancelledAt := some now
    cancelledBy := some principal.userId
    cancellationReason := some "Cancelled scheduled assignment"
    revision := row.revision + 1 }

/-- `delete_rate_assignment`; the costs of the account are not calculated again. -/
def deleteRateAssignment (services : DeskServices) (desk : RateDesk) (principal : Principal) (assignmentId : String)
    (now : Int) : Except RequestFailure RateDesk := do
  rateManager principal "rates.assign"
  match desk.book.assignment? assignmentId with
  | none => pure desk
  | some assignment => do
      let _ ← rising (ensureAccountRateMutationsAllowed services.assignment desk.book assignment.utilityAccountId)
      rising (raiseIf (assignmentState assignment now ≠ .scheduled) onlyScheduledCancelled)
      let desk ← desk.flush (desk.book.updateAssignment assignmentId (cancelScheduled principal now))
      pure (desk.record
        { action := .assignmentCancelled, actorId := principal.userId, occurredAt := now, objectId := assignment.id })

end PowerMonitor.Assignments
