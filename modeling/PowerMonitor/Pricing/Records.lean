import PowerMonitor.Foundation

/-! The pricing rows of the database that a data reset reads and deletes.

Instants are microseconds and dates are days since the epoch. The nine tables of rules below a rate
version are one list tagged with the table, and so are the two tables below a rate-change candidate.
-/

set_option autoImplicit false
namespace PowerMonitor.Pricing

structure UtilityAccount where
  id : String
  siteId : String
  active : Bool := true
  revision : Nat := 1
  adjustmentConfig : String := ""
  activeRateVersionId : Option String := none
  deriving DecidableEq, Repr

inductive AdjustmentStatus where | active | removed
  deriving DecidableEq, Repr

structure UtilityAccountAdjustment where
  id : String
  utilityAccountId : String
  component : String
  value : Rat
  unit : String
  provenance : String
  effectiveFrom : Int
  effectiveTo : Option Int := none
  enabled : Bool := true
  status : AdjustmentStatus := .active
  revision : Nat := 1
  deriving DecidableEq, Repr

structure RatePlan where
  id : String
  code : String := ""
  name : String := ""
  ownerSiteId : Option String := none
  ownerUtilityAccountId : Option String := none
  clonedFromRateVersionId : Option String := none
  deriving DecidableEq, Repr

/-- `effectiveTo` is the last day of the version. -/
structure RateVersion where
  id : String
  ratePlanId : String
  version : Nat := 1
  effectiveTo : Option Int := none
  isActive : Bool := false
  parentVersionId : Option String := none
  deriving DecidableEq, Repr

inductive VersionTable where
  | seasons | dayTypes | periods | tierDefinitions | thresholdRules | seasonalBaselines | baselineRules
  | fixedChargeRules | adjustments
  deriving DecidableEq, Repr

/-- A rule row of a rate version with its other columns as `content`. -/
structure VersionChild where
  table : VersionTable
  id : String
  rateVersionId : String
  content : String := ""
  deriving DecidableEq, Repr

/-- The check constraint keeps every window non-empty. -/
structure RateAssignment where
  id : String
  utilityAccountId : String
  rateVersionId : String
  effectiveFrom : Int
  effectiveTo : Option Int := none
  revision : Nat := 1
  cancelledAt : Option Int := none
  window : ∀ finish ∈ effectiveTo, effectiveFrom < finish
  deriving DecidableEq, Repr

inductive CandidateStatus where
  | pendingReview | approved | scheduled | activated | automaticallyActivated | rejected | validationFailed
  deriving DecidableEq, Repr

structure RateChangeCandidate where
  id : String
  ratePlanId : Option String := none
  extractionResultId : String
  baseRateVersionId : Option String := none
  candidateRateVersionId : Option String := none
  status : CandidateStatus := .pendingReview
  createdAt : Int
  deriving DecidableEq, Repr

inductive CandidateTable where | differences | decisions
  deriving DecidableEq, Repr

structure CandidateChild where
  table : CandidateTable
  id : String
  candidateId : String
  deriving DecidableEq, Repr

structure BackgroundJob where
  id : String
  deriving DecidableEq, Repr

structure RateSourceCheckRun where
  id : String
  jobId : String
  checkedAt : Int
  deriving DecidableEq, Repr

structure RateSourceArtifact where
  id : String
  sourceCheckId : String
  capturedAt : Int
  deriving DecidableEq, Repr

structure RateExtractionResult where
  id : String
  artifactId : String
  deriving DecidableEq, Repr

structure RateVersionSource where
  rateVersionId : String
  artifactId : String
  extractionResultId : Option String := none
  deriving DecidableEq, Repr

structure UtilityBillImport where
  id : String
  jobId : String
  utilityAccountId : Option String
  artifactId : String
  rateVersionId : Option String := none
  deriving DecidableEq, Repr

structure UtilityBillExtractionRevision where
  id : String
  billImportId : String
  deriving DecidableEq, Repr

structure UtilityBillExtractedField where
  id : String
  extractionRevisionId : String
  deriving DecidableEq, Repr

structure UtilityBillFieldConflict where
  id : String
  billImportId : String
  deriving DecidableEq, Repr

structure UtilityBillCycleDraft where
  id : String
  billImportId : String
  utilityAccountId : Option String
  deriving DecidableEq, Repr

structure CostCalculationRun where
  id : String
  utilityAccountId : String
  rateVersionId : String
  deriving DecidableEq, Repr

structure TierAllocationSegment where
  id : String
  utilityAccountId : String
  rateVersionId : String
  deriving DecidableEq, Repr

structure DataResetPricingBaseline where
  id : String
  utilityAccountId : String
  rateVersionId : String
  deriving DecidableEq, Repr

structure PricingRows where
  utilityAccounts : List UtilityAccount := []
  accountAdjustments : List UtilityAccountAdjustment := []
  ratePlans : List RatePlan := []
  rateVersions : List RateVersion := []
  versionChildren : List VersionChild := []
  rateAssignments : List RateAssignment := []
  candidates : List RateChangeCandidate := []
  candidateChildren : List CandidateChild := []
  backgroundJobs : List BackgroundJob := []
  checkRuns : List RateSourceCheckRun := []
  artifacts : List RateSourceArtifact := []
  extractionResults : List RateExtractionResult := []
  versionSources : List RateVersionSource := []
  bills : List UtilityBillImport := []
  billRevisions : List UtilityBillExtractionRevision := []
  billFields : List UtilityBillExtractedField := []
  billConflicts : List UtilityBillFieldConflict := []
  cycleDrafts : List UtilityBillCycleDraft := []
  costRuns : List CostCalculationRun := []
  tierSegments : List TierAllocationSegment := []
  pricingBaselines : List DataResetPricingBaseline := []

def VersionChild.key (row : VersionChild) : VersionTable × String := (row.table, row.id)
def CandidateChild.key (row : CandidateChild) : CandidateTable × String := (row.table, row.id)
def RateVersionSource.key (row : RateVersionSource) : String × String := (row.rateVersionId, row.artifactId)

/-- Primary keys of the tables a reset deletes from. -/
structure PrimaryKeys (rows : PricingRows) : Prop where
  utilityAccounts : (rows.utilityAccounts.map UtilityAccount.id).Nodup
  accountAdjustments : (rows.accountAdjustments.map UtilityAccountAdjustment.id).Nodup
  rateVersions : (rows.rateVersions.map RateVersion.id).Nodup
  versionChildren : (rows.versionChildren.map VersionChild.key).Nodup
  rateAssignments : (rows.rateAssignments.map RateAssignment.id).Nodup
  candidates : (rows.candidates.map RateChangeCandidate.id).Nodup
  candidateChildren : (rows.candidateChildren.map CandidateChild.key).Nodup
  backgroundJobs : (rows.backgroundJobs.map BackgroundJob.id).Nodup
  checkRuns : (rows.checkRuns.map RateSourceCheckRun.id).Nodup
  artifacts : (rows.artifacts.map RateSourceArtifact.id).Nodup
  extractionResults : (rows.extractionResults.map RateExtractionResult.id).Nodup
  versionSources : (rows.versionSources.map RateVersionSource.key).Nodup
  bills : (rows.bills.map UtilityBillImport.id).Nodup
  billRevisions : (rows.billRevisions.map UtilityBillExtractionRevision.id).Nodup
  billFields : (rows.billFields.map UtilityBillExtractedField.id).Nodup
  billConflicts : (rows.billConflicts.map UtilityBillFieldConflict.id).Nodup

/-- A database state: pricing rows whose primary keys are unique. -/
structure Database extends PricingRows where
  keys : PrimaryKeys toPricingRows

end PowerMonitor.Pricing
