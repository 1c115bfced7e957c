import PowerMonitor.Assignments.Requests
import PowerMonitor.Rates.VersionRows

/-! The rate library: plans, their versions, the candidates of official sources, and what refers to them.

The flags of a version are its status, whether it is the active one of its plan, and whether it has been used. Its
content is held apart from them: the normalized payload with its hash, and the rows. The rows of cost runs,
bill imports and source evidence stand for the versions they refer to.
-/

set_option autoImplicit false
namespace PowerMonitor.Lifecycle
open Library Rates
open Assignments (RatePlanStatus RateVersionStatus RateAssignment RateBook AssignmentState assignmentState ProviderMode
  BlockingIssue)
open Pricing (UtilityAccount CandidateStatus)

/-- A rate plan document: its prices, and the parts that the library reads beside them. -/
structure PlanDocument where
  prices : RatePlanDocument
  planCode : String
  planName : String := ""
  effectiveFrom : Int := 0
  effectiveThrough : Option Int := none
  timezone : String := "America/Los_Angeles"
  providerMode : ProviderMode := .sceBundled
  clonedFromRateVersionId : Option String := none

inductive PlanKind where | officialSce | custom
  deriving DecidableEq, Repr

inductive SourceKind where | custom | officialSce | officialSceCandidate | utilityBillCandidate
  deriving DecidableEq, Repr

structure RatePlan where
  id : String
  utility : String
  code : String
  name : String
  planKind : PlanKind := .officialSce
  currency : String := "USD"
  timezone : String := "America/Los_Angeles"
  status : RatePlanStatus := .active
  lifecycleRevision : Nat := 1
  clonedFromRateVersionId : Option String := none
  deriving DecidableEq, Repr

structure VersionContent where
  normalizedPayload : Option PlanDocument := none
  contentHash : String
  rows : VersionRows := {}

structure RateVersion where
  id : String
  ratePlanId : String
  version : Nat
  status : RateVersionStatus := .draft
  isActive : Bool := false
  immutableAfterUse : Bool := false
  sourceKind : SourceKind := .custom
  automaticallyActivated : Bool := false
  statusBeforeRemoval : Option RateVersionStatus := none
  lifecycleRevision : Nat := 1
  effectiveFrom : Int := 0
  effectiveTo : Option Int := none
  timezone : String := "America/Los_Angeles"
  currency : String := "USD"
  parentVersionId : Option String := none
  content : VersionContent

inductive RiskLevel where | manualReview | blocking | verified
  deriving DecidableEq, Repr

inductive ApprovalMode where | manualReview | notifyOnly | autoActivateVerified
  deriving DecidableEq, Repr

/-- What `auto_activation_reasons` may find. -/
inductive AutoReason where
  | sourceConflictPresent | sourceNotOfficialAllowlisted | parserVersionNotApproved | sourceArtifactNotArchived
  | parserWarningPresent | parserOrExtractionFailed | schemaOrScheduleValidationFailed | validationWarningPresent
  | effectiveDateTooRetroactive | changeThresholdExceeded | providerAssumptionChanged
  | pricingModelChangeRequiresExplicitReview
  deriving DecidableEq, Repr

/-- How a candidate came about: the policy then, whether its document was valid, and what spoke against activating it. -/
structure CandidateOrigin where
  approvalMode : ApprovalMode := .manualReview
  autoActivateVerified : Bool := false
  valid : Bool
  autoReasons : List AutoReason := []
  deriving DecidableEq, Repr

/-- The conditions of the automatic activation. -/
def CandidateOrigin.Automatic (origin : CandidateOrigin) : Prop :=
  origin.approvalMode = .autoActivateVerified ∧ origin.autoActivateVerified = true ∧ origin.valid = true ∧
    origin.autoReasons = []

instance (origin : CandidateOrigin) : Decidable origin.Automatic := inferInstanceAs (Decidable (_ ∧ _ ∧ _ ∧ _))

structure RateChangeCandidate where
  id : String
  ratePlanId : Option String := none
  baseRateVersionId : Option String := none
  candidateRateVersionId : Option String := none
  status : CandidateStatus := .pendingReview
  riskLevel : RiskLevel := .manualReview
  conflictingCandidateIds : List String := []
  origin : CandidateOrigin
  deriving DecidableEq, Repr

inductive Decision where | approve | reject
  deriving DecidableEq, Repr

/-- A decision on a candidate. The principal stands for its user, with the permissions held at the time. -/
structure RateApprovalDecision where
  candidateId : String
  decision : Decision
  decidedBy : Assignments.Principal
  deriving DecidableEq, Repr

/-- The evidence that a version is linked to. -/
structure RateVersionSource where
  rateVersionId : String
  artifactId : String := ""
  sha256 : String := ""
  parserId : String := ""
  parserVersion : String := ""
  deriving DecidableEq, Repr

def RateVersionSource.evidence (source : RateVersionSource) : List (String × String) :=
  [("artifact_id", source.artifactId), ("sha256", source.sha256), ("parser_id", source.parserId),
    ("parser_version", source.parserVersion)]

structure UtilityBillImport where
  id : String
  ratePlanId : Option String := none
  rateVersionId : Option String := none
  deriving DecidableEq, Repr

structure RateLibrary where
  utilityAccounts : List UtilityAccount := []
  ratePlans : List RatePlan := []
  rateVersions : List RateVersion := []
  rateAssignments : List RateAssignment := []
  candidates : List RateChangeCandidate := []
  decisions : List RateApprovalDecision := []
  sources : List RateVersionSource := []
  bills : List UtilityBillImport := []
  /-- The version of each cost run. -/
  costRuns : List String := []

namespace RateLibrary
variable (library : RateLibrary)

def plan? (planId : String) : Option RatePlan := library.ratePlans.find? fun row => row.id = planId

def version? (versionId : String) : Option RateVersion := library.rateVersions.find? fun row => row.id = versionId

def candidate? (candidateId : String) : Option RateChangeCandidate :=
  library.candidates.find? fun row => row.id = candidateId

def versionsOf (planId : String) : List RateVersion := library.rateVersions.filter fun row => row.ratePlanId = planId

def latestNumber (planId : String) : Nat := ((library.versionsOf planId).map RateVersion.version).foldl max 0

/-- The rows that the assignment service works on. -/
def book : RateBook where
  utilityAccounts := library.utilityAccounts
  ratePlans := library.ratePlans.map fun plan => { id := plan.id, status := plan.status }
  rateVersions := library.rateVersions.map fun version =>
    { id := version.id, ratePlanId := version.ratePlanId, status := version.status
      effectiveFrom := version.effectiveFrom, effectiveTo := version.effectiveTo, timezone := version.timezone
      isActive := version.isActive }
  rateAssignments := library.rateAssignments

/-- The accounts and assignments as the service leaves them. -/
def withBook (book : RateBook) : RateLibrary :=
  { library with utilityAccounts := book.utilityAccounts, rateAssignments := book.rateAssignments }

def updatePlan (planId : String) (write : RatePlan → RatePlan) : RateLibrary :=
  { library with ratePlans := library.ratePlans.map fun row => if row.id = planId then write row else row }

def updateVersion (versionId : String) (write : RateVersion → RateVersion) : RateLibrary :=
  { library with rateVersions := library.rateVersions.map fun row => if row.id = versionId then write row else row }

def updateCandidate (candidateId : String) (write : RateChangeCandidate → RateChangeCandidate) : RateLibrary :=
  { library with candidates := library.candidates.map fun row => if row.id = candidateId then write row else row }

/-- Delete versions. References to them are set to null, and the links to their evidence go with them. -/
def deleteVersions (doomed : RateVersion → Bool) : RateLibrary :=
  let gone := (library.rateVersions.filter doomed).map RateVersion.id
  let keep (reference : Option String) : Option String := reference.filter (· ∉ gone)
  { library with
    rateVersions := (library.rateVersions.filter fun row => ¬ doomed row).map fun row =>
      { row with parentVersionId := keep row.parentVersionId }
    ratePlans := library.ratePlans.map fun row => { row with clonedFromRateVersionId := keep row.clonedFromRateVersionId }
    utilityAccounts := library.utilityAccounts.map fun row =>
      { row with activeRateVersionId := keep row.activeRateVersionId }
    candidates := library.candidates.map fun row =>
      { row with
        baseRateVersionId := keep row.baseRateVersionId
        candidateRateVersionId := keep row.candidateRateVersionId }
    bills := library.bills.map fun row => { row with rateVersionId := keep row.rateVersionId }
    sources := library.sources.filter fun row => row.rateVersionId ∉ gone }

/-! ## Documents -/

/-- `version_document`. A version without a payload is read from its rows, which may not make a document. -/
def versionDocument? (version : RateVersion) : Option PlanDocument :=
  match version.content.normalizedPayload with
  | some document => some document
  | none => do
      let plan ← library.plan? version.ratePlanId
      let prices ← version.content.rows.versionDocument? version.currency plan.utility
      some
        { prices := prices
          planCode := plan.code
          planName := plan.name
          effectiveFrom := version.effectiveFrom
          effectiveThrough := version.effectiveTo
          timezone := version.timezone }

/-- `validate_document` with its default options finds no error. -/
def Validates (version : RateVersion) : Prop :=
  ∃ document ∈ library.versionDocument? version, (validateDocument {} document.prices).errors = []

instance (version : RateVersion) : Decidable (library.Validates version) :=
  inferInstanceAs (Decidable (∃ document ∈ _, _))

/-- The options of `validate_version`: the versions of candidates need evidence. -/
def validationOptions (version : RateVersion) : ValidationOptions :=
  if version.sourceKind ∈ [SourceKind.officialSceCandidate, .utilityBillCandidate] then
    { requireSourceEvidence := true
      sourceEvidence := ((library.sources.find? fun row => row.rateVersionId = version.id).map
        RateVersionSource.evidence).getD [] }
  else {}

/-! ## Dependencies -/

/-- `assignments` of `_rate_plan_dependencies`, cancelled ones among them. -/
def planAssignments (planId : String) : List RateAssignment :=
  library.rateAssignments.filter fun row => row.rateVersionId ∈ (library.versionsOf planId).map RateVersion.id

def activeAccountPointers (planId : String) : List UtilityAccount :=
  library.utilityAccounts.filter fun account =>
    (∃ versionId ∈ account.activeRateVersionId, versionId ∈ (library.versionsOf planId).map RateVersion.id) ∧
      account.active = true

end RateLibrary

/-- `_rate_plan_dependencies`, without what only describes it. -/
structure PlanDependencies where
  activeAssignments : List RateAssignment
  futureAssignments : List RateAssignment
  activeAccountPointers : List UtilityAccount
  permanentDraftDeletionEligible : Bool

def PlanDependencies.RemovalBlocked (dependencies : PlanDependencies) : Prop :=
  dependencies.activeAssignments ≠ [] ∨ dependencies.futureAssignments ≠ [] ∨ dependencies.activeAccountPointers ≠ []

instance (dependencies : PlanDependencies) : Decidable dependencies.RemovalBlocked :=
  inferInstanceAs (Decidable (_ ∨ _ ∨ _))

namespace RateLibrary
variable (library : RateLibrary)

/-- Nothing refers to the plan or to a version of it. -/
def Unreferenced (planId : String) : Prop :=
  library.planAssignments planId = [] ∧ library.activeAccountPointers planId = [] ∧
    (∀ version ∈ library.versionsOf planId, version.id ∉ library.costRuns) ∧
    (∀ version ∈ library.versionsOf planId, ∀ source ∈ library.sources, source.rateVersionId ≠ version.id) ∧
    (∀ bill ∈ library.bills, bill.ratePlanId ≠ some planId) ∧
    (∀ candidate ∈ library.candidates, candidate.ratePlanId ≠ some planId) ∧
    (∀ version ∈ library.versionsOf planId, ∀ plan ∈ library.ratePlans, plan.clonedFromRateVersionId ≠ some version.id) ∧
    ∀ version ∈ library.versionsOf planId, ∀ candidate ∈ library.candidates,
      candidate.baseRateVersionId ≠ some version.id ∧ candidate.candidateRateVersionId ≠ some version.id

instance (planId : String) : Decidable (library.Unreferenced planId) :=
  inferInstanceAs (Decidable (_ ∧ _ ∧ _ ∧ _ ∧ _ ∧ _ ∧ _ ∧ _))

def planDependencies (plan : RatePlan) (now : Int) : PlanDependencies where
  activeAssignments := (library.planAssignments plan.id).filter fun row => row.Covers now
  futureAssignments := (library.planAssignments plan.id).filter fun row => now < row.effectiveFrom
  activeAccountPointers := library.activeAccountPointers plan.id
  permanentDraftDeletionEligible :=
    plan.planKind = .custom ∧ plan.status = .draft ∧
      (library.versionsOf plan.id ≠ [] ∧ ∀ version ∈ library.versionsOf plan.id, version.status = .draft) ∧
      library.Unreferenced plan.id

/-- The current and future assignments of `_rate_version_dependencies`: cancelled rows are left out. -/
def versionAssignments (versionId : String) (now : Int) : List RateAssignment :=
  library.rateAssignments.filter fun row => row.rateVersionId = versionId ∧ row.cancelledAt = none ∧
    assignmentState row now ∈ [AssignmentState.current, .scheduled]

/-- `delete_draft_eligible` -/
def DeleteDraftEligible (version : RateVersion) : Prop :=
  version.status = .draft ∧ version.immutableAfterUse = false ∧
    (∀ row ∈ library.rateAssignments, row.rateVersionId ≠ version.id) ∧ version.id ∉ library.costRuns ∧
    (∀ source ∈ library.sources, source.rateVersionId ≠ version.id) ∧
    (∀ bill ∈ library.bills, bill.rateVersionId ≠ some version.id) ∧
    ∀ candidate ∈ library.candidates,
      candidate.baseRateVersionId ≠ some version.id ∧ candidate.candidateRateVersionId ≠ some version.id

instance (version : RateVersion) : Decidable (library.DeleteDraftEligible version) :=
  inferInstanceAs (Decidable (_ ∧ _ ∧ _ ∧ _ ∧ _ ∧ _ ∧ _))

/-- `version_usage_count`, which does not count candidates. -/
def versionUsageCount (versionId : String) : Nat :=
  (library.costRuns.filter fun run => run = versionId).length +
    (library.rateAssignments.filter fun row => row.rateVersionId = versionId).length +
    (library.utilityAccounts.filter fun account => account.activeRateVersionId = some versionId).length +
    (library.bills.filter fun bill => bill.rateVersionId = some versionId).length +
    (library.sources.filter fun source => source.rateVersionId = versionId).length

end RateLibrary

end PowerMonitor.Lifecycle
