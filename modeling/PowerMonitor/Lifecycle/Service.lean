import PowerMonitor.Lifecycle.Records

/-! The operations on plans and versions.

A request is atomic: it returns the library it commits, or it fails and is rolled back. The reset barrier, the hashes,
the review state of a utility bill and the string methods of a confirmation are parameters. A version whose rows make
no document ends a request that reads it.
-/

set_option autoImplicit false
namespace PowerMonitor.Lifecycle
open Library Rates
open Assignments (RatePlanStatus RateVersionStatus RateAssignment RateBook AssignmentState assignmentState BlockingIssue
  Principal RequestFailure rising continuing rateManager StoredAssignments)
open Pricing (UtilityAccount CandidateStatus require)

structure LibraryServices where
  ensureRatePlansResetMutationsAllowed : List String → Except ProblemError Unit
  ensureSiteResetMutationsAllowed : String → Except ProblemError Unit
  documentHash : PlanDocument → String
  payloadHash : ClonePayload → String
  /-- Whether the bill of a version has been reviewed, for an activation that may be automatic. -/
  utilityBillReview : String → Bool → Except ProblemError Unit
  dependencyToken : RateLibrary → String → Int → String
  issueText : IssueMessage → String
  strip : String → String
  casefold : String → String

/-! ## Failures -/

def ratePlanMissing : ProblemError :=
  { status := 404, title := "Rate plan not found", detail := "Rate plan does not exist", code := "rate_plan_missing" }

def rateVersionMissing : ProblemError :=
  { status := 404, title := "Rate version not found", detail := "Version does not exist", code := "rate_version_missing" }

def ratePlanCodeConflict : ProblemError :=
  { status := 409, title := "Rate plan code exists", detail := "Choose a unique plan code"
    code := "rate_plan_code_conflict" }

def ratePlanWithoutVersion : ProblemError :=
  { status := 404, title := "Rate version not found", detail := "Rate plan has no versions", code := "rate_version_missing" }

def rateVersionImmutable : ProblemError :=
  { status := 409, title := "Rate version is immutable"
    detail := "Create a new version to edit an active or used rate", code := "rate_version_immutable" }

def ratePeriodGap : RatePeriodGap → ProblemError
  | .notContiguous season dayType =>
      { status := 422, title := "Invalid rate periods", code := "rate_period_gap"
        detail := "('" ++ season ++ "', '" ++ dayType.text ++ "') is not contiguous" }
  | .notWholeDay season dayType =>
      { status := 422, title := "Invalid rate periods", code := "rate_period_gap"
        detail := "('" ++ season ++ "', '" ++ dayType.text ++ "') does not cover 24 hours" }

/-- The plan has been removed or retired. -/
def ratePlanUnavailable (title detail : String) : ProblemError :=
  { status := 409, title := title, detail := detail, code := "rate_plan_removed" }

def rateValidationFailed : ProblemError :=
  { status := 422, title := "Rate version failed validation"
    detail := "Correct all blocking validation errors before activation", code := "rate_validation_failed" }

def assignmentBlocked (title detail : String) : ProblemError :=
  { status := 409, title := title, detail := detail, code := "rate_version_assignment_blocked" }

def staleRevision (title detail : String) (current : Nat) : ProblemError :=
  { status := 409, title := title, detail := detail, code := "stale_revision", extra := [("current_revision", current)] }

def staleDependencyToken (detail : String) : ProblemError :=
  { status := 409, title := "Rate-plan dependencies changed", detail := detail, code := "stale_dependency_token" }

def planConfirmationRequired : ProblemError :=
  { status := 409, title := "Confirmation does not match", detail := "Type the rate-plan code or name exactly"
    code := "rate_plan_confirmation_required" }

def versionConfirmationInvalid (version : RateVersion) : ProblemError :=
  { status := 422, title := "Version confirmation does not match"
    detail := "Type version " ++ toString version.version ++ " or its identifier to continue"
    code := "rate_version_confirmation_invalid" }

/-- A plan that is still depended on. -/
def ratePlanDependencies (title detail : String) : ProblemError :=
  { status := 409, title := title, detail := detail, code := "rate_plan_dependencies" }

def deleteDraftAvailable : ProblemError :=
  { status := 409, title := "Unused draft should be deleted"
    detail := "Use Delete draft for a version with no dependencies", code := "rate_version_delete_draft_available" }

def rateVersionInUse (title detail : String) : ProblemError :=
  { status := 409, title := title, detail := detail, code := "rate_version_in_use" }

section Operations
variable (services : LibraryServices) (library : RateLibrary)

/-- `_ensure_version_reset_mutations_allowed` -/
def ensureVersionResetMutationsAllowed (version : RateVersion) : Except RequestFailure Unit :=
  match library.plan? version.ratePlanId with
  | some plan => rising (services.ensureRatePlansResetMutationsAllowed [plan.id])
  | none => pure ()

/-- `session.get(RateVersion, version_id)` of a version that must exist. -/
def requireVersion (versionId : String) : Except RequestFailure RateVersion :=
  rising (require (library.version? versionId) rateVersionMissing)

def requirePlan (planId : String) : Except RequestFailure RatePlan :=
  rising (require (library.plan? planId) ratePlanMissing)

/-- The document of a version; without one the request ends in an error of the model. -/
def readDocument (version : RateVersion) : Except RequestFailure PlanDocument :=
  match library.versionDocument? version with
  | some document => pure document
  | none => .error .integrity

/-- A row takes the identifier that no other row of its table has. -/
def addPlan (plan : RatePlan) : Except RequestFailure RateLibrary := do
  raiseIf (∃ row ∈ library.ratePlans, row.id = plan.id) .integrity
  pure { library with ratePlans := library.ratePlans ++ [plan] }

def addVersion (version : RateVersion) : Except RequestFailure RateLibrary := do
  raiseIf (∃ row ∈ library.rateVersions, row.id = version.id ∨
    (row.ratePlanId = version.ratePlanId ∧ row.version = version.version)) .integrity
  pure { library with rateVersions := library.rateVersions ++ [version] }

/-! ## Creation -/

/-- A plan of the seed file, with the version that goes with it. -/
structure SeedPlan where
  plan : RatePlan
  versionId : String
  version : Nat
  effectiveFrom : Int := 0
  effectiveTo : Option Int := none
  contentHash : String
  rows : VersionRows

/-- The version of a seed, active from the start. -/
def SeedPlan.seeded (seed : SeedPlan) : RateVersion :=
  { id := seed.versionId, ratePlanId := seed.plan.id, version := seed.version, status := .active, isActive := true
    immutableAfterUse := true, sourceKind := .officialSce, effectiveFrom := seed.effectiveFrom
    effectiveTo := seed.effectiveTo, timezone := seed.plan.timezone, currency := seed.plan.currency
    content := { contentHash := seed.contentHash, rows := seed.rows } }

def seedPlan (library : RateLibrary) (seed : SeedPlan) : Except RequestFailure RateLibrary := do
  let library ← addPlan library { seed.plan with planKind := .officialSce, status := .active, lifecycleRevision := 1 }
  addVersion library seed.seeded

/-- `bootstrap`: the seeds of an empty library. -/
def bootstrap (seeds : List SeedPlan) : Except RequestFailure RateLibrary :=
  if library.ratePlans = [] then seeds.foldlM seedPlan library else pure library

/-- A draft with a document, as `create_custom_plan` and its siblings write it. -/
def draftVersion (id planId : String) (number : Nat) (sourceKind : SourceKind) (document : PlanDocument) : RateVersion :=
  { id := id, ratePlanId := planId, version := number, sourceKind := sourceKind
    effectiveFrom := document.effectiveFrom, effectiveTo := document.effectiveThrough, timezone := document.timezone
    currency := document.prices.currency
    content :=
      { normalizedPayload := some document, contentHash := services.documentHash document
        rows := replaceVersionRows document.prices } }

/-- `create_custom_plan`, with the new identifiers. -/
def createCustomPlan (document : PlanDocument) (planId versionId : String) (sourceKind : SourceKind := .custom) :
    Except RequestFailure RateLibrary := do
  let source := document.clonedFromRateVersionId.bind library.version? |>.bind fun version => library.plan? version.ratePlanId
  rising (services.ensureRatePlansResetMutationsAllowed (source.toList.map RatePlan.id))
  rising (raiseIf (∃ row ∈ library.ratePlans, row.utility = document.prices.utility ∧ row.code = document.planCode)
    ratePlanCodeConflict)
  let library ← addPlan library
    { id := planId, utility := document.prices.utility, code := document.planCode, name := document.planName
      planKind := .custom, currency := document.prices.currency, timezone := document.timezone, status := .draft
      clonedFromRateVersionId := document.clonedFromRateVersionId }
  addVersion library (draftVersion services versionId planId 1 sourceKind document)

/-- `create_rate_plan` -/
def createRatePlan (principal : Principal) (document : PlanDocument) (planId versionId : String) :
    Except RequestFailure RateLibrary := do
  rateManager principal "rates.manage_custom"
  createCustomPlan services library document planId versionId

/-- `ensure_bill_rate_draft` of a bill without a draft to reuse: a custom plan whose version refers to the bill. -/
def ensureBillRateDraft (document : PlanDocument) (planId versionId billId : String) (source : RateVersionSource) :
    Except RequestFailure RateLibrary := do
  let library ← createCustomPlan services library document planId versionId .utilityBillCandidate
  pure { library with
    sources := library.sources ++ [{ source with rateVersionId := versionId }]
    bills := (library.bills.filter fun bill => bill.id ≠ billId) ++
      [{ id := billId, ratePlanId := some planId, rateVersionId := some versionId }] }

def updatedPlan (document : PlanDocument) (plan : RatePlan) : RatePlan :=
  { plan with name := document.planName, currency := document.prices.currency, timezone := document.timezone }

def updatedVersion (document : PlanDocument) (version : RateVersion) : RateVersion :=
  { version with
    effectiveFrom := document.effectiveFrom
    effectiveTo := document.effectiveThrough
    timezone := document.timezone
    currency := document.prices.currency
    content :=
      { normalizedPayload := some document, contentHash := services.documentHash document
        rows := replaceVersionRows document.prices } }

/-- `update_draft_version` -/
def updateDraftVersion (versionId : String) (document : PlanDocument) : Except RequestFailure RateLibrary := do
  let version ← requireVersion library versionId
  let plan ← requirePlan library version.ratePlanId
  rising (services.ensureRatePlansResetMutationsAllowed [plan.id])
  rising (raiseIf (version.status ≠ .draft ∨ version.isActive = true ∨ version.immutableAfterUse = true)
    rateVersionImmutable)
  pure ((library.updatePlan plan.id (updatedPlan document)).updateVersion version.id (updatedVersion services document))

/-- `patch_rate_version` -/
def patchRateVersion (principal : Principal) (versionId : String) (document : PlanDocument) :
    Except RequestFailure RateLibrary := do
  rateManager principal "rates.manage_custom"
  updateDraftVersion services library versionId document

/-- `create_plan_version`: a draft from the newest version, unless the plan has a draft. -/
def createPlanVersion (principal : Principal) (planId versionId : String) : Except RequestFailure RateLibrary := do
  rateManager principal "rates.manage_custom"
  let plan ← requirePlan library planId
  rising (services.ensureRatePlansResetMutationsAllowed [plan.id])
  rising (raiseIf (plan.status ∈ [RatePlanStatus.removed, .retired])
    (ratePlanUnavailable "Rate plan unavailable" "Restore the rate plan before creating another version"))
  if ∃ row ∈ library.versionsOf planId, row.status = .draft then pure library
  else do
    let latest := library.latestNumber planId
    let source ← rising (require ((library.versionsOf planId).find? fun row => row.version = latest) ratePlanWithoutVersion)
    let document ← readDocument library source
    addVersion library
      { draftVersion services versionId planId (latest + 1) .custom document with parentVersionId := some source.id }

/-- The payload of `clone_rate_version` beside its tariff. -/
structure CloneRequest where
  payload : ClonePayload
  effectiveFrom : Int := 0
  effectiveTo : Option Int := none
  timezone : String := "America/Los_Angeles"
  currency : String := "USD"

/-- `clone_rate_version` -/
def cloneRateVersion (principal : Principal) (planId versionId : String) (request : CloneRequest) :
    Except RequestFailure RateLibrary := do
  rateManager principal "rates.manage_custom"
  let plan ← requirePlan library planId
  let rows ← (cloneVersionRows request.payload).mapError fun gap => .problem (ratePeriodGap gap)
  rising (services.ensureRatePlansResetMutationsAllowed [plan.id])
  addVersion library
    { id := versionId, ratePlanId := plan.id, version := library.latestNumber plan.id + 1
      effectiveFrom := request.effectiveFrom, effectiveTo := request.effectiveTo, timezone := request.timezone
      currency := request.currency
      content := { contentHash := services.payloadHash request.payload, rows := rows } }

/-! ## Activation -/

/-- A row of the plan when one of its versions is published. -/
def publishRow (version : RateVersion) (automatically : Bool) (row : RateVersion) : RateVersion :=
  if row.id = version.id then
    { row with isActive := true, status := .published, immutableAfterUse := true, automaticallyActivated := automatically }
  else if row.ratePlanId = version.ratePlanId ∧ row.isActive = true then
    { row with
      isActive := false
      status := if row.status ∈ [RateVersionStatus.retired, .removed] then row.status else .superseded }
  else row

def RateLibrary.publish (library : RateLibrary) (version : RateVersion) (automatically : Bool) : RateLibrary :=
  { library with rateVersions := library.rateVersions.map (publishRow version automatically) }.updatePlan
    version.ratePlanId fun plan => { plan with status := .active }

/-- `activate_version`. The status of the version itself is not looked at. -/
def activateVersion (versionId : String) (automatically : Bool := false) : Except RequestFailure RateLibrary := do
  let version ← requireVersion library versionId
  let plan ← requirePlan library version.ratePlanId
  rising (services.ensureRatePlansResetMutationsAllowed [plan.id])
  rising (raiseIf (plan.status ∈ [RatePlanStatus.removed, .retired])
    (ratePlanUnavailable "Rate plan is unavailable"
      "Restore the removed or retired rate plan before activating a version"))
  if version.sourceKind = .utilityBillCandidate then rising (services.utilityBillReview version.id automatically)
  let document ← readDocument library version
  rising (raiseIf ((validateDocument (library.validationOptions version) document.prices).errors ≠ []) rateValidationFailed)
  pure (library.publish version automatically)

/-- `activate_managed_version` -/
def activateManagedVersion (principal : Principal) (versionId : String) : Except RequestFailure RateLibrary := do
  rateManager principal "rates.manage_custom"
  let version ← requireVersion library versionId
  ensureVersionResetMutationsAllowed services library version
  activateVersion services library versionId

/-- Only the version is active among those of its plan; nothing else is written. -/
def RateLibrary.flag (library : RateLibrary) (version : RateVersion) : RateLibrary :=
  { library with rateVersions := library.rateVersions.map fun row =>
    if row.ratePlanId = version.ratePlanId then { row with isActive := row.id = version.id } else row }

/-- `activate_rate_version` -/
def activateRateVersion (principal : Principal) (versionId : String) : Except RequestFailure RateLibrary := do
  rateManager principal "rates.manage_custom"
  let version ← requireVersion library versionId
  let plan ← requirePlan library version.ratePlanId
  rising (services.ensureRatePlansResetMutationsAllowed [plan.id])
  pure (library.flag version)

end Operations

end PowerMonitor.Lifecycle
