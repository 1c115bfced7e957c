import PowerMonitor.Lifecycle.Service

/-! Removal, candidates and assignments, and the system that takes all requests.

The versions and plans of the library are retired, removed, restored and deleted by requests that look at what depends on
them. A candidate is created by the source check, decided by a reviewer and activated by either. Each request reads the
clock once.
-/

set_option autoImplicit false
namespace PowerMonitor.Lifecycle
open Library Rates
open Assignments (RatePlanStatus RateVersionStatus RateAssignment RateBook AssignmentState assignmentState BlockingIssue
  Principal RequestFailure rising continuing rateManager StoredAssignments)
open Pricing (UtilityAccount CandidateStatus require)

section Operations
variable (services : LibraryServices) (library : RateLibrary)

/-! ## Versions -/

structure RateVersionLifecycleRequest where
  expectedRevision : Nat
  confirmation : String
  deriving DecidableEq, Repr

def versionBlocked : ProblemError :=
  assignmentBlocked "Assigned rate version cannot be changed" "Replace, end, or cancel its assignments first"

/-- `_validate_version_lifecycle` -/
def validateVersionLifecycle (version : RateVersion) (now : Int) (payload : RateVersionLifecycleRequest) :
    Except RequestFailure Unit := do
  rising (raiseIf (version.lifecycleRevision ≠ payload.expectedRevision)
    (staleRevision "Rate version changed" "Reload the version lifecycle review" version.lifecycleRevision))
  rising (raiseIf (services.casefold (services.strip payload.confirmation) ∉
      [services.casefold (toString version.version), services.casefold version.id]) (versionConfirmationInvalid version))
  rising (raiseIf (library.versionAssignments version.id now ≠ []) versionBlocked)

/-- Another version of the plan is active. -/
def RateLibrary.OtherActive (library : RateLibrary) (version : RateVersion) : Prop :=
  ∃ row ∈ library.rateVersions, row.ratePlanId = version.ratePlanId ∧ row.isActive = true ∧ row.id ≠ version.id

instance (version : RateVersion) : Decidable (library.OtherActive version) := inferInstanceAs (Decidable (∃ row ∈ _, _))

def retiredRow (version : RateVersion) : RateVersion :=
  { version with status := .retired, isActive := false, lifecycleRevision := version.lifecycleRevision + 1 }

/-- The writes of `retire_managed_version`: without another active version the plan is retired too. -/
def RateLibrary.retireVersion (library : RateLibrary) (version : RateVersion) : RateLibrary :=
  let retired := library.updateVersion version.id retiredRow
  if library.OtherActive version then retired
  else retired.updatePlan version.ratePlanId fun plan => { plan with status := .retired }

/-- `retire_managed_version` -/
def retireManagedVersion (principal : Principal) (versionId : String) (payload : Option RateVersionLifecycleRequest)
    (now : Int) : Except RequestFailure RateLibrary := do
  rateManager principal "rates.remove"
  let version ← requireVersion library versionId
  ensureVersionResetMutationsAllowed services library version
  rising (raiseIf (library.versionAssignments version.id now ≠ [])
    (assignmentBlocked "Assigned rate version cannot be retired" "Replace, end, or cancel the effective assignments first"))
  if let some payload := payload then validateVersionLifecycle services library version now payload
  pure (library.retireVersion version)

def removedRow (version : RateVersion) : RateVersion :=
  { version with
    statusBeforeRemoval := some version.status
    status := .removed
    isActive := false
    lifecycleRevision := version.lifecycleRevision + 1 }

/-- `remove_rate_version` -/
def removeRateVersion (principal : Principal) (versionId : String) (payload : RateVersionLifecycleRequest) (now : Int) :
    Except RequestFailure RateLibrary := do
  rateManager principal "rates.remove"
  let version ← requireVersion library versionId
  ensureVersionResetMutationsAllowed services library version
  if version.status = .removed then pure library
  else do
    validateVersionLifecycle services library version now payload
    rising (raiseIf (version.status = .draft ∧ library.DeleteDraftEligible version) deleteDraftAvailable)
    pure (library.updateVersion version.id removedRow)

/-- The status that a restored version gets. -/
def restoredStatus (version : RateVersion) : RateVersionStatus :=
  match version.statusBeforeRemoval with
  | some .active | some .approved | none => if version.immutableAfterUse then .published else .draft
  | some status => status

def restoredRow (version : RateVersion) : RateVersion :=
  { version with
    status := restoredStatus version
    statusBeforeRemoval := none
    lifecycleRevision := version.lifecycleRevision + 1 }

/-- `restore_rate_version` -/
def restoreRateVersion (principal : Principal) (versionId : String) (expectedRevision : Nat) :
    Except RequestFailure RateLibrary := do
  rateManager principal "rates.restore"
  let version ← requireVersion library versionId
  ensureVersionResetMutationsAllowed services library version
  if version.status ∉ [RateVersionStatus.removed, .retired] then pure library
  else do
    rising (raiseIf (version.lifecycleRevision ≠ expectedRevision)
      (staleRevision "Rate version changed" "Reload before restoring it" version.lifecycleRevision))
    pure (library.updateVersion version.id restoredRow)

/-- `delete_draft_version` -/
def deleteDraftVersion (principal : Principal) (versionId : String) : Except RequestFailure RateLibrary := do
  rateManager principal "rates.remove"
  match library.version? versionId with
  | none => pure library
  | some version => do
      ensureVersionResetMutationsAllowed services library version
      rising (raiseIf (version.status ≠ .draft ∨ library.versionUsageCount version.id ≠ 0)
        (rateVersionInUse "Rate version cannot be deleted" "Only unused drafts can be deleted"))
      pure (library.deleteVersions fun row => row.id = version.id)

/-- `delete_rate_version_draft` -/
def deleteRateVersionDraft (principal : Principal) (versionId : String) (payload : RateVersionLifecycleRequest) (now : Int) :
    Except RequestFailure RateLibrary := do
  rateManager principal "rates.remove"
  match library.version? versionId with
  | none => pure library
  | some version => do
      ensureVersionResetMutationsAllowed services library version
      validateVersionLifecycle services library version now payload
      rising (raiseIf (¬ library.DeleteDraftEligible version)
        (rateVersionInUse "Rate draft cannot be deleted"
          "Assignments, costs, bills, candidates, or evidence require preservation"))
      pure (library.deleteVersions fun row => row.id = version.id)

/-! ## Plans -/

structure RatePlanLifecycleRequest where
  expectedRevision : Nat
  confirmation : String := ""
  expectedDependencyToken : Option String := none
  deriving DecidableEq, Repr

/-- `_confirmation_matches` -/
def ConfirmationMatches (plan : RatePlan) (confirmation : String) : Prop :=
  services.casefold (services.strip confirmation) ∈
    [services.casefold (services.strip plan.code), services.casefold (services.strip plan.name)]

instance (plan : RatePlan) (confirmation : String) : Decidable (ConfirmationMatches services plan confirmation) :=
  inferInstanceAs (Decidable (_ ∈ _))

def checkPlanRevision (plan : RatePlan) (payload : RatePlanLifecycleRequest) (detail : String) : Except RequestFailure Unit :=
  rising (raiseIf (plan.lifecycleRevision ≠ payload.expectedRevision)
    (staleRevision "Rate plan changed" detail plan.lifecycleRevision))

def checkConfirmation (plan : RatePlan) (payload : RatePlanLifecycleRequest) : Except RequestFailure Unit :=
  rising (raiseIf (¬ ConfirmationMatches services plan payload.confirmation) planConfirmationRequired)

/-- An empty token is not compared. -/
def checkDependencyToken (plan : RatePlan) (now : Int) (payload : RatePlanLifecycleRequest) (detail : String) :
    Except RequestFailure Unit :=
  rising (raiseIf (∃ token ∈ payload.expectedDependencyToken,
    token ≠ "" ∧ token ≠ services.dependencyToken library plan.id now) (staleDependencyToken detail))

def removedPlan (status : RatePlanStatus) (plan : RatePlan) : RatePlan :=
  { plan with status := status, lifecycleRevision := plan.lifecycleRevision + 1 }

def removalRefused : ProblemError :=
  ratePlanDependencies "Rate plan has active or future assignments"
    "Replace, schedule, or end affected assignments before removal"

def retirementRefused : ProblemError :=
  ratePlanDependencies "Rate plan has active or future assignments"
    "Replace or unassign affected electric services before retirement"

/-- `remove_rate_plan` -/
def removeRatePlan (principal : Principal) (planId : String) (payload : RatePlanLifecycleRequest) (now : Int) :
    Except RequestFailure RateLibrary := do
  rateManager principal "rates.remove"
  let plan ← requirePlan library planId
  rising (services.ensureRatePlansResetMutationsAllowed [plan.id])
  if plan.status ∈ [RatePlanStatus.removed, .retired] then pure library
  else do
    checkPlanRevision plan payload "Reload the dependency review before removing this plan"
    checkConfirmation services plan payload
    if plan.planKind = .officialSce then rateManager principal "rates.manage_sources"
    checkDependencyToken services library plan now payload "Reload the dependency review before changing this plan"
    rising (raiseIf (library.planDependencies plan now).RemovalBlocked removalRefused)
    pure (library.updatePlan plan.id (removedPlan (if plan.planKind = .officialSce then .retired else .removed)))

/-- `retire_rate_plan` -/
def retireRatePlan (principal : Principal) (planId : String) (payload : RatePlanLifecycleRequest) (now : Int) :
    Except RequestFailure RateLibrary := do
  rateManager principal "rates.remove"
  let plan ← requirePlan library planId
  rising (services.ensureRatePlansResetMutationsAllowed [plan.id])
  if plan.status = .retired then pure library
  else do
    rising (raiseIf (plan.status = .removed) (ratePlanUnavailable "Restore plan before retirement"
      "A removed plan must be restored before changing its lifecycle state"))
    checkPlanRevision plan payload "Reload the dependency review before retiring this plan"
    checkConfirmation services plan payload
    checkDependencyToken services library plan now payload "Reload the dependency review before retiring this plan"
    rising (raiseIf (library.planDependencies plan now).RemovalBlocked retirementRefused)
    pure (library.updatePlan plan.id (removedPlan .retired))

def notRestorable : ProblemError :=
  { status := 409, title := "Rate plan is not restorable"
    detail := "Only removed or retired rate plans can be restored", code := "rate_plan_not_removed" }

/-- `restore_rate_plan` -/
def restoreRatePlan (principal : Principal) (planId : String) (payload : RatePlanLifecycleRequest) (now : Int) :
    Except RequestFailure RateLibrary := do
  rateManager principal "rates.restore"
  let plan ← requirePlan library planId
  rising (services.ensureRatePlansResetMutationsAllowed [plan.id])
  if plan.status = .active then pure library
  else do
    rising (raiseIf (plan.status ∉ [RatePlanStatus.removed, .retired]) notRestorable)
    checkPlanRevision plan payload "Reload the removed-plan record before restoring it"
    checkDependencyToken services library plan now payload "Reload the removed plan before restoring it"
    if plan.planKind = .officialSce then rateManager principal "rates.manage_sources"
    pure (library.updatePlan plan.id (removedPlan .active))

/-- `delete_unused_rate_plan_draft` -/
def deleteUnusedRatePlanDraft (principal : Principal) (planId : String) (payload : RatePlanLifecycleRequest) (now : Int) :
    Except RequestFailure RateLibrary := do
  rateManager principal "rates.remove"
  match library.plan? planId with
  | none => pure library
  | some plan => do
      rising (services.ensureRatePlansResetMutationsAllowed [plan.id])
      checkDependencyToken services library plan now payload "Reload the dependency review before deleting this draft"
      checkPlanRevision plan payload "Reload the dependency review before deleting this draft"
      checkConfirmation services plan payload
      rising (raiseIf ((library.planDependencies plan now).permanentDraftDeletionEligible = false)
        (ratePlanDependencies "Draft cannot be permanently deleted"
          "Only never-published custom drafts without dependencies can be deleted"))
      let library := library.deleteVersions fun row => row.ratePlanId = plan.id
      pure { library with ratePlans := library.ratePlans.filter fun row => row.id ≠ plan.id }

/-! ## Candidates -/

/-- What a check of a source has found out beside the document. -/
structure SourceCheck where
  source : RateVersionSource
  sourceAllowlisted : Bool := true
  parserApproved : Bool := true
  archived : Bool := true
  warnings : Bool := false
  succeeded : Bool := true
  /-- Days from the effective date to today. -/
  daysSinceEffective : Int := 0
  /-- No price differs by more than the configured percentage. -/
  changesSafe : Bool := true
  deriving DecidableEq, Repr

def reasonIf (condition : Prop) [Decidable condition] (reason : AutoReason) : List AutoReason :=
  if condition then [reason] else []

/-- `auto_activation_reasons` -/
def autoActivationReasons (document : PlanDocument) (active : Option PlanDocument) (check : SourceCheck)
    (retroactiveDays : Int) : List AutoReason :=
  let report := validateDocument { requireSourceEvidence := true, sourceEvidence := check.source.evidence } document.prices
  reasonIf (check.sourceAllowlisted = false) .sourceNotOfficialAllowlisted ++
    reasonIf (check.parserApproved = false) .parserVersionNotApproved ++
    reasonIf (check.archived = false) .sourceArtifactNotArchived ++
    reasonIf (check.warnings = true) .parserWarningPresent ++
    reasonIf (check.succeeded = false) .parserOrExtractionFailed ++
    reasonIf (report.errors ≠ []) .schemaOrScheduleValidationFailed ++
    reasonIf (report.warnings ≠ []) .validationWarningPresent ++
    reasonIf (retroactiveDays < check.daysSinceEffective) .effectiveDateTooRetroactive ++
    reasonIf (check.changesSafe = false) .changeThresholdExceeded ++
    active.toList.flatMap fun current =>
      reasonIf (current.providerMode ≠ document.providerMode) .providerAssumptionChanged ++
        reasonIf (current.prices.pricingModel ≠ document.prices.pricingModel) .pricingModelChangeRequiresExplicitReview

structure CandidatePolicy where
  approvalMode : ApprovalMode := .manualReview
  autoActivateVerified : Bool := false
  retroactiveDays : Int := 0
  deriving DecidableEq, Repr

/-- The active version of a plan with the highest number. -/
def RateLibrary.activeVersion? (library : RateLibrary) (planId : String) : Option RateVersion :=
  (library.versionsOf planId).foldl (fun found row =>
    if row.isActive = true ∧ ∀ other ∈ found, other.version < row.version then some row else found) none

/-- Pending candidates of the plan for another document with the same effective date. -/
def RateLibrary.conflicting (library : RateLibrary) (version : RateVersion) : List String :=
  (library.candidates.filter fun other => other.ratePlanId = some version.ratePlanId ∧ other.status = .pendingReview ∧
    ∃ otherId ∈ other.candidateRateVersionId, ∃ row ∈ library.version? otherId,
      row.effectiveFrom = version.effectiveFrom ∧ row.content.contentHash ≠ version.content.contentHash).map
    RateChangeCandidate.id

def blockedBy (candidateId : String) (other : RateChangeCandidate) : RateChangeCandidate :=
  { other with
    riskLevel := .blocking
    conflictingCandidateIds := other.conflictingCandidateIds ++ [candidateId] }

/-- The new version and candidate, before an automatic activation. -/
def RateLibrary.addCandidate (library : RateLibrary) (version : RateVersion) (candidate : RateChangeCandidate)
    (source : RateVersionSource) : Except RequestFailure RateLibrary := do
  let conflicts := library.conflicting version
  let library ← addVersion library version
  raiseIf (∃ row ∈ library.candidates, row.id = candidate.id) .integrity
  pure { library with
    candidates := library.candidates.map (fun other => if other.id ∈ conflicts then blockedBy candidate.id other else other) ++
      [{ candidate with
         riskLevel := if conflicts ≠ [] then .blocking else candidate.riskLevel
         conflictingCandidateIds := conflicts }]
    sources := library.sources ++ [{ source with rateVersionId := version.id }] }

/-- The document of the active version, if there is one. -/
def readActive (active : Option RateVersion) : Except RequestFailure (Option PlanDocument) :=
  match active with
  | some row => (readDocument library row).map some
  | none => pure none

/-- The document is the active one, or a version with its hash is on its way or live. -/
def KnownDocument (planId : String) (current : Option PlanDocument) (document : PlanDocument) : Prop :=
  current.map services.documentHash = some (services.documentHash document) ∨
    ∃ row ∈ library.versionsOf planId, row.content.contentHash = services.documentHash document ∧
      row.status ∈ [RateVersionStatus.candidate, .approved, .active, .published]

instance (planId : String) (current : Option PlanDocument) (document : PlanDocument) :
    Decidable (KnownDocument services library planId current document) := inferInstanceAs (Decidable (_ ∨ _))

/-- The document passes its validation, which asks for evidence. -/
def sourceValid (document : PlanDocument) (check : SourceCheck) : Bool :=
  (validateDocument { requireSourceEvidence := true, sourceEvidence := check.source.evidence } document.prices).errors = []

/-- The version of a new candidate. -/
def candidateVersion (plan : RatePlan) (document : PlanDocument) (check : SourceCheck) (versionId : String) : RateVersion :=
  { draftVersion services versionId plan.id (library.latestNumber plan.id + 1) .officialSceCandidate document with
    status := if sourceValid document check then .candidate else .rejected }

/-- The reasons against an automatic activation; they are looked for only where the policy has it. -/
def candidateOrigin (plan : RatePlan) (current : Option PlanDocument) (document : PlanDocument) (check : SourceCheck)
    (policy : CandidatePolicy) (versionId : String) : CandidateOrigin where
  approvalMode := policy.approvalMode
  autoActivateVerified := policy.autoActivateVerified
  valid := sourceValid document check
  autoReasons :=
    if policy.approvalMode = .autoActivateVerified ∧ policy.autoActivateVerified = true then
      reasonIf (library.conflicting (candidateVersion services library plan document check versionId) ≠ [])
        .sourceConflictPresent ++ autoActivationReasons document current check policy.retroactiveDays
    else []

def newCandidate (plan : RatePlan) (origin : CandidateOrigin) (versionId candidateId : String) : RateChangeCandidate where
  id := candidateId
  ratePlanId := some plan.id
  baseRateVersionId := (library.activeVersion? plan.id).map RateVersion.id
  candidateRateVersionId := some versionId
  status := if origin.valid then .pendingReview else .validationFailed
  riskLevel := if origin.valid then .manualReview else .blocking
  origin := origin

/-- The candidate of a new document, activated at once where nothing speaks against it. -/
def proposeCandidate (plan : RatePlan) (current : Option PlanDocument) (document : PlanDocument) (check : SourceCheck)
    (policy : CandidatePolicy) (versionId candidateId : String) : Except RequestFailure RateLibrary := do
  let origin := candidateOrigin services library plan current document check policy versionId
  let created ← library.addCandidate (candidateVersion services library plan document check versionId)
    (newCandidate library plan origin versionId candidateId) check.source
  if origin.Automatic then do
    let activated ← activateVersion services created versionId true
    pure (activated.updateCandidate candidateId fun row =>
      { row with status := .automaticallyActivated, riskLevel := .verified })
  else pure created

/-- `create_candidate_from_document` -/
def createCandidateFromDocument (document : PlanDocument) (check : SourceCheck) (policy : CandidatePolicy)
    (versionId candidateId : String) : Except RequestFailure RateLibrary :=
  match library.ratePlans.find? fun row => row.code = document.planCode with
  | none => do
      raiseIf (∃ row ∈ library.candidates, row.id = candidateId) .integrity
      pure { library with candidates := library.candidates ++
        [{ id := candidateId, status := .validationFailed, riskLevel := .blocking, origin := { valid := false } }] }
  | some plan => do
      let current ← readActive library (library.activeVersion? plan.id)
      if KnownDocument services library plan.id current document ∨ policy.approvalMode = .notifyOnly then pure library
      else proposeCandidate services library plan current document check policy versionId candidateId

def candidateMissing : ProblemError :=
  { status := 404, title := "Rate candidate not found", detail := "Candidate does not exist"
    code := "rate_candidate_missing" }

def candidateClosed : ProblemError :=
  { status := 409, title := "Candidate is closed", detail := "Only pending candidates can be reviewed"
    code := "rate_candidate_closed" }

def sourceConflict (unresolved : List String) : ProblemError :=
  { status := 409, title := "Source conflict is unresolved"
    detail := "Reject the conflicting candidate before approving this evidence", code := "rate_source_conflict"
    extraTexts := [("conflicting_candidate_ids", unresolved)] }

def candidateNotApproved : ProblemError :=
  { status := 409, title := "Candidate is not approved", detail := "Approve a valid candidate before activation"
    code := "rate_candidate_not_approved" }

/-- The conflicting candidates that are still open. -/
def RateLibrary.unresolved (library : RateLibrary) (candidate : RateChangeCandidate) : List String :=
  candidate.conflictingCandidateIds.filter fun id =>
    ∃ other ∈ library.candidate? id, other.status ∉ [CandidateStatus.rejected, .validationFailed]

def decidedStatus : Decision → RateVersionStatus
  | .approve => .approved
  | .reject => .rejected

def decidedCandidate (decision : Decision) (candidate : RateChangeCandidate) : RateChangeCandidate :=
  { candidate with status := match decision with
    | .approve => .approved
    | .reject => .rejected }

/-- The writes of `_decide_candidate`: the status of the version follows, whatever state it is in. -/
def RateLibrary.recordDecision (library : RateLibrary) (candidate : RateChangeCandidate) (decision : Decision)
    (principal : Principal) : RateLibrary :=
  let decided := { library.updateCandidate candidate.id (decidedCandidate decision) with
    decisions := library.decisions ++ [⟨candidate.id, decision, principal⟩] }
  match candidate.candidateRateVersionId with
  | some versionId => decided.updateVersion versionId fun row => { row with status := decidedStatus decision }
  | none => decided

/-- `_decide_candidate` -/
def decideCandidate (principal : Principal) (candidateId : String) (decision : Decision) :
    Except RequestFailure RateLibrary := do
  rateManager principal "rates.approve_candidates"
  let candidate ← rising (require (library.candidate? candidateId) candidateMissing)
  rising (services.ensureRatePlansResetMutationsAllowed candidate.ratePlanId.toList)
  rising (raiseIf (candidate.status ∉ [CandidateStatus.pendingReview, .approved]) candidateClosed)
  rising (raiseIf (decision = .approve ∧ candidate.riskLevel = .blocking ∧ library.unresolved candidate ≠ [])
    (sourceConflict (library.unresolved candidate)))
  pure (library.recordDecision candidate decision principal)

/-- `activate_candidate` -/
def activateCandidate (principal : Principal) (candidateId : String) : Except RequestFailure RateLibrary := do
  rateManager principal "rates.approve_candidates"
  let candidate ← rising (require (library.candidate? candidateId) candidateNotApproved)
  rising (raiseIf (candidate.status ≠ .approved) candidateNotApproved)
  let versionId ← rising (require candidate.candidateRateVersionId candidateNotApproved)
  rising (services.ensureRatePlansResetMutationsAllowed candidate.ratePlanId.toList)
  let _ ← requireVersion library versionId
  let library ← activateVersion services library versionId
  pure (library.updateCandidate candidate.id fun row => { row with status := .scheduled })

/-! ## Assignments and cost runs -/

def BlockingIssue.of (text : IssueMessage → String) (issue : ValidationIssue) : BlockingIssue :=
  ⟨issue.code, issue.path, text issue.message⟩

/-- A version whose rows make no document is not assigned either. -/
def unreadableDocument : BlockingIssue := ⟨"unreadable", "", ""⟩

/-- The errors that keep a version from being assigned. -/
def RateLibrary.documentErrors (library : RateLibrary) (text : IssueMessage → String) (versionId : String) :
    List BlockingIssue :=
  match (library.version? versionId).bind library.versionDocument? with
  | some document => (validateDocument {} document.prices).errors.map (BlockingIssue.of text)
  | none => [unreadableDocument]

def assignmentServices : Assignments.Services where
  ensureSiteResetMutationsAllowed := services.ensureSiteResetMutationsAllowed
  documentErrors row := library.documentErrors services.issueText row.id

/-- The rows of the session are flushed against the constraints of the table. -/
def RateLibrary.flush (library : RateLibrary) (book : RateBook) : Except RequestFailure RateLibrary := do
  raiseIf (¬ StoredAssignments book.rateAssignments) .integrity
  pure (library.withBook book)

/-- A handler that calls `assign_version`. -/
def assignRate (principal : Principal) (request : Assignments.AssignmentRequest) (id : String) (now : Int) :
    Except RequestFailure RateLibrary := do
  rateManager principal "rates.assign"
  let (_, book) ← continuing (Assignments.assignVersion (assignmentServices services library) library.book request id now)
  library.flush book

/-- A handler that calls `end_assignment`. -/
def endRate (principal : Principal) (request : Assignments.EndRequest) (now : Int) : Except RequestFailure RateLibrary := do
  rateManager principal "rates.assign"
  let (_, book) ← continuing (Assignments.endAssignment (assignmentServices services library) library.book request now)
  library.flush book

/-- A cost run is queued for a version. -/
def queueCostRun (versionId : String) : Except RequestFailure RateLibrary := do
  let version ← requireVersion library versionId
  pure { library with costRuns := library.costRuns ++ [version.id] }

/-- A cost run of a version is completed. -/
def completeCostRun (versionId : String) : Except RequestFailure RateLibrary := do
  raiseIf (versionId ∉ library.costRuns) .integrity
  let version ← requireVersion library versionId
  pure (library.updateVersion version.id fun row => { row with immutableAfterUse := true })

end Operations

/-! ## The system -/

inductive LibraryAction where
  | bootstrap (seeds : List SeedPlan)
  | createRatePlan (principal : Principal) (document : PlanDocument) (planId versionId : String)
  | ensureBillRateDraft (document : PlanDocument) (planId versionId billId : String) (source : RateVersionSource)
  | createPlanVersion (principal : Principal) (planId versionId : String)
  | cloneRateVersion (principal : Principal) (planId versionId : String) (request : CloneRequest)
  | patchRateVersion (principal : Principal) (versionId : String) (document : PlanDocument)
  | activateManagedVersion (principal : Principal) (versionId : String)
  | activateRateVersion (principal : Principal) (versionId : String)
  | retireManagedVersion (principal : Principal) (versionId : String) (payload : Option RateVersionLifecycleRequest)
  | removeRateVersion (principal : Principal) (versionId : String) (payload : RateVersionLifecycleRequest)
  | restoreRateVersion (principal : Principal) (versionId : String) (expectedRevision : Nat)
  | deleteDraftVersion (principal : Principal) (versionId : String)
  | deleteRateVersionDraft (principal : Principal) (versionId : String) (payload : RateVersionLifecycleRequest)
  | removeRatePlan (principal : Principal) (planId : String) (payload : RatePlanLifecycleRequest)
  | retireRatePlan (principal : Principal) (planId : String) (payload : RatePlanLifecycleRequest)
  | restoreRatePlan (principal : Principal) (planId : String) (payload : RatePlanLifecycleRequest)
  | deleteUnusedRatePlanDraft (principal : Principal) (planId : String) (payload : RatePlanLifecycleRequest)
  | createCandidate (document : PlanDocument) (check : SourceCheck) (policy : CandidatePolicy)
      (versionId candidateId : String)
  | decideCandidate (principal : Principal) (candidateId : String) (decision : Decision)
  | activateCandidate (principal : Principal) (candidateId : String)
  | assign (principal : Principal) (request : Assignments.AssignmentRequest) (id : String)
  | endAssignment (principal : Principal) (request : Assignments.EndRequest)
  | queueCostRun (versionId : String)
  | completeCostRun (versionId : String)

/-- One request, at an instant. -/
def perform (services : LibraryServices) (library : RateLibrary) (now : Int) :
    LibraryAction → Except RequestFailure RateLibrary
  | .bootstrap seeds => bootstrap library seeds
  | .createRatePlan principal document planId versionId =>
      createRatePlan services library principal document planId versionId
  | .ensureBillRateDraft document planId versionId billId source =>
      ensureBillRateDraft services library document planId versionId billId source
  | .createPlanVersion principal planId versionId => createPlanVersion services library principal planId versionId
  | .cloneRateVersion principal planId versionId request =>
      cloneRateVersion services library principal planId versionId request
  | .patchRateVersion principal versionId document => patchRateVersion services library principal versionId document
  | .activateManagedVersion principal versionId => activateManagedVersion services library principal versionId
  | .activateRateVersion principal versionId => activateRateVersion services library principal versionId
  | .retireManagedVersion principal versionId payload =>
      retireManagedVersion services library principal versionId payload now
  | .removeRateVersion principal versionId payload => removeRateVersion services library principal versionId payload now
  | .restoreRateVersion principal versionId revision => restoreRateVersion services library principal versionId revision
  | .deleteDraftVersion principal versionId => deleteDraftVersion services library principal versionId
  | .deleteRateVersionDraft principal versionId payload =>
      deleteRateVersionDraft services library principal versionId payload now
  | .removeRatePlan principal planId payload => removeRatePlan services library principal planId payload now
  | .retireRatePlan principal planId payload => retireRatePlan services library principal planId payload now
  | .restoreRatePlan principal planId payload => restoreRatePlan services library principal planId payload now
  | .deleteUnusedRatePlanDraft principal planId payload =>
      deleteUnusedRatePlanDraft services library principal planId payload now
  | .createCandidate document check policy versionId candidateId =>
      createCandidateFromDocument services library document check policy versionId candidateId
  | .decideCandidate principal candidateId decision => decideCandidate services library principal candidateId decision
  | .activateCandidate principal candidateId => activateCandidate services library principal candidateId
  | .assign principal request id => assignRate services library principal request id now
  | .endAssignment principal request => endRate services library principal request now
  | .queueCostRun versionId => queueCostRun library versionId
  | .completeCostRun versionId => completeCostRun library versionId

/-- A request with what it finds: the services, and the microseconds since the last one. -/
structure Turn where
  services : LibraryServices
  elapsed : Nat
  action : LibraryAction

/-- The library with its clock. -/
structure Clocked where
  library : RateLibrary
  now : Int

/-- The clock goes on, and a failed request leaves the library as it was. -/
def advance (state : Clocked) (turn : Turn) : Clocked :=
  let now := state.now + turn.elapsed
  ⟨((perform turn.services state.library now turn.action).toOption).getD state.library, now⟩

/-! ## A library to run -/

/-- Nothing is reset, every bill is reviewed, and texts are compared as they are. -/
def openServices : LibraryServices where
  ensureRatePlansResetMutationsAllowed _ := .ok ()
  ensureSiteResetMutationsAllowed _ := .ok ()
  documentHash document := document.planCode
  payloadHash _ := "clone"
  utilityBillReview _ _ := .ok ()
  dependencyToken _ _ _ := "token"
  issueText _ := ""
  strip text := text
  casefold text := text

def flatPrices (price : Rat) (nonnegative : 0 ≤ price) : RatePlanDocument where
  pricingModel := .flat
  flatRatePerKwh := some price
  threshold := plainThreshold
  supported := flat_supported
  flatRateNonnegative := fun _ rate => Option.mem_some_iff.mp rate ▸ nonnegative
  flatRatePresent := fun _ => nofun
  twoTiers := nofun
  hybridOnly := by simp

theorem flatPrice_nonneg : (0 : Rat) ≤ 1 / 5 := by norm_num

def flatDocument : PlanDocument := { prices := flatPrices (1 / 5) flatPrice_nonneg, planCode := "FLAT", planName := "Flat" }

def owner : Principal :=
  { userId := "owner"
    permissions := ["rates.manage_custom", "rates.remove", "rates.restore", "rates.assign", "rates.approve_candidates"] }

def requested (action : LibraryAction) : Turn := ⟨openServices, 1, action⟩

/-- One account and no plan. -/
def newLibrary : Clocked := ⟨{ utilityAccounts := [{ id := "home", siteId := "site" }] }, 0⟩

end PowerMonitor.Lifecycle
