import PowerMonitor.Library.Fallible
import PowerMonitor.Library.Pruning
import PowerMonitor.Pricing.Records

/-! `_pricing_history_scope` and `_delete_pricing_history_scope`.

The sets of identifiers are lists, their order and repetitions being immaterial. The loop over the
parent links of the versions runs on fuel and answers `none` without it. Artifact files are staged
elsewhere.
-/

set_option autoImplicit false
namespace PowerMonitor.Pricing
open Library

structure ScopeRequest where
  siteId : String
  accountIds : List String
  protectedVersionIds : List String
  resetAt : Int
  deleteImportedBillDocuments : Bool

/-- The UTC day of an instant. -/
def utcDay (instant : Int) : Int := instant / seconds 86400

/-- `TERMINAL_RATE_CANDIDATE_STATES` -/
def CandidateStatus.terminal : CandidateStatus → Bool
  | .activated | .automaticallyActivated | .rejected | .validationFailed => true
  | .pendingReview | .approved | .scheduled => false

namespace PricingRows
variable (rows : PricingRows) (request : ScopeRequest)

/-! ## Accounts and bills -/

def assignmentIds : List String :=
  (rows.rateAssignments.filter fun row =>
    decide (row.utilityAccountId ∈ request.accountIds ∧ row.effectiveFrom ≤ request.resetAt)).map RateAssignment.id

def accountAdjustmentIds : List String :=
  (rows.accountAdjustments.filter fun row =>
    decide (row.utilityAccountId ∈ request.accountIds ∧ row.effectiveFrom < request.resetAt ∧
      ((∃ finish ∈ row.effectiveTo, finish ≤ request.resetAt) ∨ row.status ≠ .active ∨ row.enabled = false))).map
    UtilityAccountAdjustment.id

def accountBills : List UtilityBillImport :=
  rows.bills.filter fun row => decide (∃ account ∈ row.utilityAccountId, account ∈ request.accountIds)

def billIds : List String :=
  if request.deleteImportedBillDocuments then (rows.accountBills request).map UtilityBillImport.id else []

def billRevisionIds : List String :=
  (rows.billRevisions.filter fun row => decide (row.billImportId ∈ rows.billIds request)).map
    UtilityBillExtractionRevision.id

def billFieldIds : List String :=
  (rows.billFields.filter fun row => decide (row.extractionRevisionId ∈ rows.billRevisionIds request)).map
    UtilityBillExtractedField.id

def billConflictIds : List String :=
  (rows.billConflicts.filter fun row => decide (row.billImportId ∈ rows.billIds request)).map
    UtilityBillFieldConflict.id

/-! ## Versions -/

def planIds : List String :=
  (rows.ratePlans.filter fun row => decide (row.ownerSiteId = some request.siteId ∨
    ∃ account ∈ row.ownerUtilityAccountId, account ∈ request.accountIds)).map RatePlan.id

def scopedVersionIds : List String :=
  (rows.rateVersions.filter fun row => decide (row.ratePlanId ∈ rows.planIds request)).map RateVersion.id

/-- An optional reference into a set of identifiers. -/
def InSet (reference : Option String) (ids : List String) : Prop := ∃ id ∈ reference, id ∈ ids

instance (reference : Option String) (ids : List String) : Decidable (InSet reference ids) :=
  inferInstanceAs (Decidable (∃ id ∈ reference, _))

def candidateIds : List String :=
  (rows.candidates.filter fun row => decide (row.createdAt < request.resetAt ∧ row.status.terminal = true ∧
    (InSet row.ratePlanId (rows.planIds request) ∨ InSet row.baseRateVersionId (rows.scopedVersionIds request) ∨
      InSet row.candidateRateVersionId (rows.scopedVersionIds request)))).map RateChangeCandidate.id

/-- Versions that ended before the day of the reset and are neither protected nor active. -/
def endedVersionIds : List String :=
  (rows.rateVersions.filter fun row => decide (row.ratePlanId ∈ rows.planIds request ∧
    (∃ last ∈ row.effectiveTo, last < utcDay request.resetAt) ∧
    row.id ∉ request.protectedVersionIds ∧ row.isActive = false)).map RateVersion.id

/-- Versions that a row outside the scope refers to. -/
def blockedVersionIds : List String :=
  rows.utilityAccounts.filterMap UtilityAccount.activeRateVersionId ++
  (rows.rateAssignments.filter fun row => decide (row.id ∉ rows.assignmentIds request)).map
    RateAssignment.rateVersionId ++
  (rows.bills.filter fun row => decide (row.id ∉ rows.billIds request)).filterMap UtilityBillImport.rateVersionId ++
  rows.pricingBaselines.map DataResetPricingBaseline.rateVersionId ++
  (rows.costRuns.filter fun row => decide (row.utilityAccountId ∉ request.accountIds)).map
    CostCalculationRun.rateVersionId ++
  (rows.tierSegments.filter fun row => decide (row.utilityAccountId ∉ request.accountIds)).map
    TierAllocationSegment.rateVersionId ++
  rows.ratePlans.filterMap RatePlan.clonedFromRateVersionId ++
  (rows.candidates.filter fun row => decide (row.id ∉ rows.candidateIds request)).filterMap
    RateChangeCandidate.baseRateVersionId ++
  (rows.candidates.filter fun row => decide (row.id ∉ rows.candidateIds request)).filterMap
    RateChangeCandidate.candidateRateVersionId

/-- The parents in the set whose child is outside of it. -/
def parentIds (versionIds : List String) : List String :=
  ((rows.rateVersions.filter fun row => decide (row.id ∉ versionIds)).filterMap RateVersion.parentVersionId).filter
    (· ∈ versionIds)

def versionIds (fuel : Nat) : Option (List String) :=
  prune rows.parentIds fuel ((rows.endedVersionIds request).filter (· ∉ rows.blockedVersionIds request))

/-! ## Sources -/

/-- Versions whose sources may be detached when an imported bill is deleted. -/
def detachableVersionIds : List String :=
  if rows.billIds request = [] then []
  else (rows.scopedVersionIds request).filter fun id => decide (
    (¬ ∃ row ∈ rows.utilityAccounts, row.siteId ≠ request.siteId ∧ row.activeRateVersionId = some id) ∧
    (¬ ∃ row ∈ rows.rateAssignments, row.utilityAccountId ∉ request.accountIds ∧ row.rateVersionId = id) ∧
    (¬ ∃ row ∈ rows.bills, row.id ∉ rows.billIds request ∧ row.rateVersionId = some id) ∧
    (¬ ∃ row ∈ rows.costRuns, row.utilityAccountId ∉ request.accountIds ∧ row.rateVersionId = id) ∧
    ¬ ∃ row ∈ rows.tierSegments, row.utilityAccountId ∉ request.accountIds ∧ row.rateVersionId = id)

/-- The artifact behind an extraction result. -/
def extractionArtifact (resultId : String) : Option String :=
  (rows.extractionResults.find? fun row => row.id = resultId).map RateExtractionResult.artifactId

def artifactCandidateIds (artifactId : String) : List String :=
  (rows.candidates.filter fun row => decide (rows.extractionArtifact row.extractionResultId = some artifactId)).map
    RateChangeCandidate.id

def artifactVersionIds (artifactId : String) : List String :=
  (rows.versionSources.filter fun row => decide (row.artifactId = artifactId)).map RateVersionSource.rateVersionId

def artifactBillIds (artifactId : String) : List String :=
  (rows.bills.filter fun row => decide (row.artifactId = artifactId)).map UtilityBillImport.id

section Sources
variable (versionIds : List String)

/-- The artifact belongs to something deleted and to nothing kept. -/
def ArtifactDeletable (artifact : RateSourceArtifact) : Prop :=
  artifact.capturedAt < request.resetAt ∧
  ((∃ id ∈ rows.artifactCandidateIds artifact.id, id ∈ rows.candidateIds request) ∨
    (∃ id ∈ rows.artifactVersionIds artifact.id, id ∈ versionIds) ∨
    ∃ id ∈ rows.artifactBillIds artifact.id, id ∈ rows.billIds request) ∧
  (∀ id ∈ rows.artifactCandidateIds artifact.id, id ∈ rows.candidateIds request) ∧
  (∀ id ∈ rows.artifactVersionIds artifact.id, id ∈ versionIds ∨
    ((∃ bill ∈ rows.artifactBillIds artifact.id, bill ∈ rows.billIds request) ∧
      id ∈ rows.detachableVersionIds request)) ∧
  ∀ id ∈ rows.artifactBillIds artifact.id, id ∈ rows.billIds request

instance (artifact : RateSourceArtifact) : Decidable (rows.ArtifactDeletable request versionIds artifact) :=
  inferInstanceAs (Decidable (_ ∧ _ ∧ _ ∧ _ ∧ _))

def artifactIds : List String :=
  (rows.artifacts.filter fun row => decide (rows.ArtifactDeletable request versionIds row)).map RateSourceArtifact.id

def versionSourceKeys : List (String × String) :=
  (rows.versionSources.filter fun row => decide (row.rateVersionId ∈ versionIds ∨
    row.artifactId ∈ rows.artifactIds request versionIds)).map RateVersionSource.key

def extractionIds : List String :=
  (rows.extractionResults.filter fun row => decide (row.artifactId ∈ rows.artifactIds request versionIds)).map
    RateExtractionResult.id

def checkIds : List String :=
  (rows.checkRuns.filter fun check => decide (check.checkedAt < request.resetAt ∧
    (∃ artifact ∈ rows.artifacts, artifact.sourceCheckId = check.id) ∧
    ∀ artifact ∈ rows.artifacts, artifact.sourceCheckId = check.id →
      artifact.id ∈ rows.artifactIds request versionIds)).map RateSourceCheckRun.id

def jobIds : List String :=
  (rows.backgroundJobs.filter fun job => decide (
    ((∃ check ∈ rows.checkRuns, check.jobId = job.id ∧ check.id ∈ rows.checkIds request versionIds) ∨
      ∃ bill ∈ rows.bills, bill.jobId = job.id ∧ bill.id ∈ rows.billIds request) ∧
    (∀ check ∈ rows.checkRuns, check.jobId = job.id → check.id ∈ rows.checkIds request versionIds) ∧
    ∀ bill ∈ rows.bills, bill.jobId = job.id → bill.id ∈ rows.billIds request)).map BackgroundJob.id

end Sources
end PricingRows

/-! ## The scope -/

structure PricingHistoryScope where
  rateAssignmentIds : List String
  utilityAccountAdjustmentIds : List String
  historicalRateVersionIds : List String
  versionChildIds : List (VersionTable × String)
  rateVersionSourceKeys : List (String × String)
  rateChangeCandidateIds : List String
  candidateChildIds : List (CandidateTable × String)
  rateExtractionResultIds : List String
  rateSourceArtifactIds : List String
  rateSourceCheckRunIds : List String
  rateSourceBackgroundJobIds : List String
  importedBillDocumentIds : List String
  importedBillExtractionRevisionIds : List String
  importedBillExtractedFieldIds : List String
  importedBillFieldConflictIds : List String
  importedBillDocumentsPreserved : Nat
  deriving DecidableEq, Repr

/-- The scope around the selected versions. -/
def PricingRows.historyScope (rows : PricingRows) (request : ScopeRequest) (versionIds : List String) :
    PricingHistoryScope :=
  { rateAssignmentIds := rows.assignmentIds request
    utilityAccountAdjustmentIds := rows.accountAdjustmentIds request
    historicalRateVersionIds := versionIds
    versionChildIds := (rows.versionChildren.filter fun row => decide (row.rateVersionId ∈ versionIds)).map
      VersionChild.key
    rateVersionSourceKeys := rows.versionSourceKeys request versionIds
    rateChangeCandidateIds := rows.candidateIds request
    candidateChildIds := (rows.candidateChildren.filter fun row =>
      decide (row.candidateId ∈ rows.candidateIds request)).map CandidateChild.key
    rateExtractionResultIds := rows.extractionIds request versionIds
    rateSourceArtifactIds := rows.artifactIds request versionIds
    rateSourceCheckRunIds := rows.checkIds request versionIds
    rateSourceBackgroundJobIds := rows.jobIds request versionIds
    importedBillDocumentIds := rows.billIds request
    importedBillExtractionRevisionIds := rows.billRevisionIds request
    importedBillExtractedFieldIds := rows.billFieldIds request
    importedBillFieldConflictIds := rows.billConflictIds request
    importedBillDocumentsPreserved := (rows.accountBills request).length - (rows.billIds request).length }

/-- `_pricing_history_scope` -/
def pricingHistoryScope (rows : PricingRows) (request : ScopeRequest) (fuel : Nat) : Option PricingHistoryScope :=
  (rows.versionIds request fuel).map (rows.historyScope request)

/-! ## Deletion -/

def pricingHistoryChanged (detail : String) : ProblemError :=
  { status := 409
    title := "Pricing history changed"
    detail := detail
    code := "data_reset_plan_stale" }

/-- The rows of a table without the given keys. -/
def keep {Row Key : Type} [DecidableEq Key] (key : Row → Key) (table : List Row) (deleted : List Key) : List Row :=
  table.filter fun row => decide (key row ∉ deleted)

/-- Delete the rows with the expected keys; every key must name a row. -/
def deleteExpected {Row Key : Type} [DecidableEq Key] (key : Row → Key) (table : List Row) (expected : List Key)
    (detail : String := "The exact approved pricing-history rows are no longer available") :
    Except ProblemError (List Row) := do
  raiseIf (table.countP (fun row => decide (key row ∈ expected)) ≠ expected.length) (pricingHistoryChanged detail)
  pure (keep key table expected)

/-- `_delete_pricing_history_scope`, in the order of its statements. -/
def deletePricingHistoryScope (rows : PricingRows) (scope : PricingHistoryScope) : Except ProblemError PricingRows := do
  let evidence := "Imported bill evidence changed after the reset plan was approved"
  let _ ← deleteExpected UtilityBillImport.id rows.bills scope.importedBillDocumentIds evidence
  let _ ← deleteExpected UtilityBillExtractionRevision.id rows.billRevisions scope.importedBillExtractionRevisionIds
    evidence
  let _ ← deleteExpected RateSourceArtifact.id rows.artifacts scope.rateSourceArtifactIds
    "Rate-source evidence changed after the reset plan was approved"
  let rateAssignments ← deleteExpected RateAssignment.id rows.rateAssignments scope.rateAssignmentIds
  let accountAdjustments ← deleteExpected UtilityAccountAdjustment.id rows.accountAdjustments
    scope.utilityAccountAdjustmentIds
  let candidateChildren ← deleteExpected CandidateChild.key rows.candidateChildren scope.candidateChildIds
  let candidates ← deleteExpected RateChangeCandidate.id rows.candidates scope.rateChangeCandidateIds
  let billFields ← deleteExpected UtilityBillExtractedField.id rows.billFields scope.importedBillExtractedFieldIds
  let billConflicts ← deleteExpected UtilityBillFieldConflict.id rows.billConflicts scope.importedBillFieldConflictIds
  let versionSources ← deleteExpected RateVersionSource.key rows.versionSources scope.rateVersionSourceKeys
    "Rate-version source relationships changed after plan approval"
  let billRevisions ← deleteExpected UtilityBillExtractionRevision.id rows.billRevisions
    scope.importedBillExtractionRevisionIds
  let bills ← deleteExpected UtilityBillImport.id rows.bills scope.importedBillDocumentIds
  let versionChildren ← deleteExpected VersionChild.key rows.versionChildren scope.versionChildIds
  let rateVersions ← deleteExpected RateVersion.id rows.rateVersions scope.historicalRateVersionIds
  let extractionResults ← deleteExpected RateExtractionResult.id rows.extractionResults scope.rateExtractionResultIds
  let artifacts ← deleteExpected RateSourceArtifact.id rows.artifacts scope.rateSourceArtifactIds
  let checkRuns ← deleteExpected RateSourceCheckRun.id rows.checkRuns scope.rateSourceCheckRunIds
  let backgroundJobs ← deleteExpected BackgroundJob.id rows.backgroundJobs scope.rateSourceBackgroundJobIds
  pure { rows with
    rateAssignments, accountAdjustments, candidateChildren, candidates, billFields, billConflicts, versionSources
    billRevisions, bills, versionChildren, rateVersions, extractionResults, artifacts, checkRuns, backgroundJobs }

/-- The rows of the accounts that `perform_central_reset` deletes before the pricing history. -/
def deleteAccountHistory (rows : PricingRows) (accountIds : List String) : PricingRows :=
  { rows with
    costRuns := rows.costRuns.filter fun row => decide (row.utilityAccountId ∉ accountIds)
    tierSegments := rows.tierSegments.filter fun row => decide (row.utilityAccountId ∉ accountIds)
    cycleDrafts := rows.cycleDrafts.filter fun row =>
      decide (¬ ∃ account ∈ row.utilityAccountId, account ∈ accountIds) }

end PowerMonitor.Pricing
