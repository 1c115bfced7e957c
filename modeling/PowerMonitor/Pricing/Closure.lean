import PowerMonitor.Pricing.Scope
import PowerMonitor.Pricing.Snapshot

/-! The deletion scope of the pricing history is closed under references.

What a reset deletes is named once by the scope and once more, for cost rows and bill drafts, by their
account. A row that stays must not refer to a row that goes.
-/

set_option autoImplicit false
namespace PowerMonitor.Pricing
open Library

/-! ## References -/

/-- A row that other rows refer to. -/
inductive Target where
  | version (id : String)
  | artifact (id : String)
  | extraction (id : String)
  | candidate (id : String)
  | check (id : String)
  | job (id : String)
  | bill (id : String)
  deriving DecidableEq, Repr

/-- The row exists. -/
def PricingRows.Names (rows : PricingRows) : Target → Prop
  | .version id => id ∈ rows.rateVersions.map RateVersion.id
  | .artifact id => id ∈ rows.artifacts.map RateSourceArtifact.id
  | .extraction id => id ∈ rows.extractionResults.map RateExtractionResult.id
  | .candidate id => id ∈ rows.candidates.map RateChangeCandidate.id
  | .check id => id ∈ rows.checkRuns.map RateSourceCheckRun.id
  | .job id => id ∈ rows.backgroundJobs.map BackgroundJob.id
  | .bill id => id ∈ rows.bills.map UtilityBillImport.id

/-- Some column of some row holds the identifier. -/
def PricingRows.Refers (rows : PricingRows) : Target → Prop
  | .version id =>
      (∃ row ∈ rows.utilityAccounts, row.activeRateVersionId = some id) ∨
      (∃ row ∈ rows.ratePlans, row.clonedFromRateVersionId = some id) ∨
      (∃ row ∈ rows.rateVersions, row.parentVersionId = some id) ∨
      (∃ row ∈ rows.versionChildren, row.rateVersionId = id) ∨
      (∃ row ∈ rows.rateAssignments, row.rateVersionId = id) ∨
      (∃ row ∈ rows.candidates, row.baseRateVersionId = some id ∨ row.candidateRateVersionId = some id) ∨
      (∃ row ∈ rows.versionSources, row.rateVersionId = id) ∨
      (∃ row ∈ rows.bills, row.rateVersionId = some id) ∨
      (∃ row ∈ rows.costRuns, row.rateVersionId = id) ∨
      (∃ row ∈ rows.tierSegments, row.rateVersionId = id) ∨
      ∃ row ∈ rows.pricingBaselines, row.rateVersionId = id
  | .artifact id =>
      (∃ row ∈ rows.extractionResults, row.artifactId = id) ∨
      (∃ row ∈ rows.versionSources, row.artifactId = id) ∨
      ∃ row ∈ rows.bills, row.artifactId = id
  | .extraction id =>
      (∃ row ∈ rows.candidates, row.extractionResultId = id) ∨
      ∃ row ∈ rows.versionSources, row.extractionResultId = some id
  | .candidate id => ∃ row ∈ rows.candidateChildren, row.candidateId = id
  | .check id => ∃ row ∈ rows.artifacts, row.sourceCheckId = id
  | .job id => (∃ row ∈ rows.checkRuns, row.jobId = id) ∨ ∃ row ∈ rows.bills, row.jobId = id
  | .bill id =>
      (∃ row ∈ rows.billRevisions, row.billImportId = id) ∨
      (∃ row ∈ rows.billConflicts, row.billImportId = id) ∨
      ∃ row ∈ rows.cycleDrafts, row.billImportId = id

/-- The two columns that no part of the scope follows: the extraction result of a version source, when it
belongs to another artifact than the source, and the bill of a cycle draft, when the two have different
accounts. -/
def PricingRows.Stray (rows : PricingRows) : Target → Prop
  | .extraction id => ∃ source ∈ rows.versionSources, source.extractionResultId = some id ∧
      rows.extractionArtifact id ≠ some source.artifactId
  | .bill id => ∃ draft ∈ rows.cycleDrafts, ∃ bill ∈ rows.bills, draft.billImportId = id ∧ bill.id = id ∧
      draft.utilityAccountId ≠ bill.utilityAccountId
  | .version _ | .artifact _ | .candidate _ | .check _ | .job _ => False

/-! ## Deletion as a filter -/

/-- The rows that a scope leaves. -/
def PricingRows.without (rows : PricingRows) (scope : PricingHistoryScope) : PricingRows :=
  { rows with
    rateAssignments := keep RateAssignment.id rows.rateAssignments scope.rateAssignmentIds
    accountAdjustments := keep UtilityAccountAdjustment.id rows.accountAdjustments scope.utilityAccountAdjustmentIds
    candidateChildren := keep CandidateChild.key rows.candidateChildren scope.candidateChildIds
    candidates := keep RateChangeCandidate.id rows.candidates scope.rateChangeCandidateIds
    billFields := keep UtilityBillExtractedField.id rows.billFields scope.importedBillExtractedFieldIds
    billConflicts := keep UtilityBillFieldConflict.id rows.billConflicts scope.importedBillFieldConflictIds
    versionSources := keep RateVersionSource.key rows.versionSources scope.rateVersionSourceKeys
    billRevisions := keep UtilityBillExtractionRevision.id rows.billRevisions scope.importedBillExtractionRevisionIds
    bills := keep UtilityBillImport.id rows.bills scope.importedBillDocumentIds
    versionChildren := keep VersionChild.key rows.versionChildren scope.versionChildIds
    rateVersions := keep RateVersion.id rows.rateVersions scope.historicalRateVersionIds
    extractionResults := keep RateExtractionResult.id rows.extractionResults scope.rateExtractionResultIds
    artifacts := keep RateSourceArtifact.id rows.artifacts scope.rateSourceArtifactIds
    checkRuns := keep RateSourceCheckRun.id rows.checkRuns scope.rateSourceCheckRunIds
    backgroundJobs := keep BackgroundJob.id rows.backgroundJobs scope.rateSourceBackgroundJobIds }

section Expected
variable {Row Key : Type} [DecidableEq Key] {key : Row → Key} {table : List Row} {expected : List Key} {detail : String}

@[simp] theorem mem_keep {row : Row} : row ∈ keep key table expected ↔ row ∈ table ∧ key row ∉ expected := by
  rw [keep, List.mem_filter, decide_eq_true_eq]

/-- A key that a deletion removes from its table was to be deleted. -/
theorem mem_of_deleted {item : Key} (present : item ∈ table.map key)
    (gone : item ∉ (keep key table expected).map key) : item ∈ expected := by
  obtain ⟨row, member, rfl⟩ := List.mem_map.mp present
  by_contra kept
  exact gone (List.mem_map.mpr ⟨row, mem_keep.mpr ⟨member, kept⟩, rfl⟩)

theorem deleteExpected_of_keys (unique : (table.map key).Nodup) (distinct : expected.Nodup)
    (present : expected ⊆ table.map key) :
    deleteExpected key table expected detail = .ok (keep key table expected) := by
  have counted := countP_mem_keys unique distinct present
  exact raiseIf_bind_eq_ok.mpr ⟨not_not.mpr counted, rfl⟩

theorem deleteExpected_selected (unique : (table.map key).Nodup) (chosen : Row → Bool) :
    deleteExpected key table ((table.filter chosen).map key) detail =
      .ok (keep key table ((table.filter chosen).map key)) :=
  deleteExpected_of_keys unique (selected_nodup unique chosen) (selected_subset chosen)

end Expected

/-! ## Members of the scope -/

section Members
variable {rows : PricingRows} {request : ScopeRequest} {fuel : Nat} {versionIds : List String}

theorem parentIds_subset (ids : List String) : rows.parentIds ids ⊆ ids := by
  intro id member
  exact of_decide_eq_true (List.mem_filter.mp member).2

/-- The loop over the parent links ends. -/
theorem versionIds_returns (enough : rows.rateVersions.length < fuel) :
    ∃ ids, rows.versionIds request fuel = some ids := by
  refine prune_returns parentIds_subset (lt_of_le_of_lt ?_ enough)
  calc ((rows.endedVersionIds request).filter (· ∉ rows.blockedVersionIds request)).length
      ≤ (rows.endedVersionIds request).length := List.length_filter_le _ _
    _ ≤ rows.rateVersions.length := by
      rw [PricingRows.endedVersionIds, List.length_map]
      exact List.length_filter_le _ _

variable (ends : rows.versionIds request fuel = some versionIds)
include ends

theorem versionIds_sublist : versionIds.Sublist (rows.endedVersionIds request) :=
  (prune_result parentIds_subset ends).1.trans List.filter_sublist

theorem versionIds_unblocked {id : String} (member : id ∈ versionIds) : id ∉ rows.blockedVersionIds request :=
  of_decide_eq_true (List.mem_filter.mp ((prune_result parentIds_subset ends).1.subset member)).2

/-- A version in the scope is the parent of scoped versions only. -/
theorem versionIds_parent {row : RateVersion} (kept : row ∈ rows.rateVersions) (outside : row.id ∉ versionIds)
    {parent : String} (link : row.parentVersionId = some parent) : parent ∉ versionIds := by
  intro member
  have named : parent ∈ rows.parentIds versionIds := by
    refine List.mem_filter.mpr ⟨List.mem_filterMap.mpr ⟨row, ?_, link⟩, decide_eq_true member⟩
    exact List.mem_filter.mpr ⟨kept, decide_eq_true outside⟩
  rw [(prune_result parentIds_subset ends).2] at named
  exact List.not_mem_nil named

theorem versionIds_ended {id : String} (member : id ∈ versionIds) :
    ∃ row ∈ rows.rateVersions, row.id = id ∧ id ∉ request.protectedVersionIds ∧ row.isActive = false := by
  obtain ⟨row, chosen, rfl⟩ := List.mem_map.mp ((versionIds_sublist ends).subset member)
  obtain ⟨stored, conditions⟩ := List.mem_filter.mp chosen
  obtain ⟨_, _, unprotected, inactive⟩ := of_decide_eq_true conditions
  exact ⟨row, stored, rfl, unprotected, inactive⟩

end Members

/-! ## The deletion goes through -/

section Deletion
variable {rows : PricingRows} {request : ScopeRequest} {fuel : Nat} {versionIds : List String}

theorem billIds_selected : ∃ chosen, rows.billIds request = (rows.bills.filter chosen).map UtilityBillImport.id := by
  rw [PricingRows.billIds]
  split
  · exact ⟨_, rfl⟩
  · exact ⟨fun _ => false, by simp⟩

/-- The scope names rows that exist, each once, so that no count fails. -/
theorem deletePricingHistoryScope_returns (keys : PrimaryKeys rows)
    (ends : rows.versionIds request fuel = some versionIds) (accountIds : List String) :
    deletePricingHistoryScope (deleteAccountHistory rows accountIds) (rows.historyScope request versionIds) =
      .ok ((deleteAccountHistory rows accountIds).without (rows.historyScope request versionIds)) := by
  have versions := (versionIds_sublist ends).trans (List.filter_sublist.map RateVersion.id)
  have bills : ∀ detail, deleteExpected UtilityBillImport.id rows.bills (rows.billIds request) detail =
      .ok (keep UtilityBillImport.id rows.bills (rows.billIds request)) := by
    intro detail
    obtain ⟨chosen, selected⟩ := @billIds_selected rows request
    rw [selected]
    exact deleteExpected_selected keys.bills chosen
  have ended : deleteExpected RateVersion.id rows.rateVersions versionIds =
      .ok (keep RateVersion.id rows.rateVersions versionIds) :=
    deleteExpected_of_keys keys.rateVersions (keys.rateVersions.sublist versions) versions.subset
  -- the other sets are selections of their table
  have revisions : ∀ detail, deleteExpected UtilityBillExtractionRevision.id rows.billRevisions
      (rows.billRevisionIds request) detail =
      .ok (keep UtilityBillExtractionRevision.id rows.billRevisions (rows.billRevisionIds request)) :=
    fun _ => deleteExpected_selected keys.billRevisions _
  have artifacts : ∀ detail, deleteExpected RateSourceArtifact.id rows.artifacts
      (rows.artifactIds request versionIds) detail =
      .ok (keep RateSourceArtifact.id rows.artifacts (rows.artifactIds request versionIds)) :=
    fun _ => deleteExpected_selected keys.artifacts _
  have assignments : deleteExpected RateAssignment.id rows.rateAssignments (rows.assignmentIds request) = .ok _ :=
    deleteExpected_selected keys.rateAssignments _
  have adjustments : deleteExpected UtilityAccountAdjustment.id rows.accountAdjustments
      (rows.accountAdjustmentIds request) = .ok _ :=
    deleteExpected_selected keys.accountAdjustments _
  have candidates : deleteExpected RateChangeCandidate.id rows.candidates (rows.candidateIds request) = .ok _ :=
    deleteExpected_selected keys.candidates _
  have fields : deleteExpected UtilityBillExtractedField.id rows.billFields (rows.billFieldIds request) = .ok _ :=
    deleteExpected_selected keys.billFields _
  have conflicts : deleteExpected UtilityBillFieldConflict.id rows.billConflicts (rows.billConflictIds request) =
      .ok _ :=
    deleteExpected_selected keys.billConflicts _
  have sources : deleteExpected RateVersionSource.key rows.versionSources
      (rows.versionSourceKeys request versionIds)
      "Rate-version source relationships changed after plan approval" = .ok _ :=
    deleteExpected_selected keys.versionSources _
  have extractions : deleteExpected RateExtractionResult.id rows.extractionResults
      (rows.extractionIds request versionIds) = .ok _ :=
    deleteExpected_selected keys.extractionResults _
  have checks : deleteExpected RateSourceCheckRun.id rows.checkRuns (rows.checkIds request versionIds) = .ok _ :=
    deleteExpected_selected keys.checkRuns _
  have jobs : deleteExpected BackgroundJob.id rows.backgroundJobs (rows.jobIds request versionIds) = .ok _ :=
    deleteExpected_selected keys.backgroundJobs _
  rw [deletePricingHistoryScope]
  dsimp only [deleteAccountHistory, PricingRows.historyScope, PricingRows.without]
  rw [bills, revisions, artifacts, assignments, adjustments, deleteExpected_selected keys.candidateChildren,
    candidates, fields, conflicts, sources, revisions, bills, deleteExpected_selected keys.versionChildren, ended,
    extractions, artifacts, checks, jobs]
  rfl

end Deletion

/-! ## Closure for each kind of row -/

/-- The rows after the deletion of both scopes. -/
def PricingRows.afterReset (rows : PricingRows) (request : ScopeRequest) (versionIds : List String) : PricingRows :=
  (deleteAccountHistory rows request.accountIds).without (rows.historyScope request versionIds)

section Kinds
variable {rows : PricingRows} {request : ScopeRequest} {fuel : Nat} {versionIds : List String} {id : String}

/-- What it means that no row outside the scope blocks a version. -/
structure Unblocked (rows : PricingRows) (request : ScopeRequest) (id : String) : Prop where
  accounts : ∀ row ∈ rows.utilityAccounts, row.activeRateVersionId ≠ some id
  assignments : ∀ row ∈ rows.rateAssignments, row.id ∉ rows.assignmentIds request → row.rateVersionId ≠ id
  bills : ∀ row ∈ rows.bills, row.id ∉ rows.billIds request → row.rateVersionId ≠ some id
  baselines : ∀ row ∈ rows.pricingBaselines, row.rateVersionId ≠ id
  costRuns : ∀ row ∈ rows.costRuns, row.utilityAccountId ∉ request.accountIds → row.rateVersionId ≠ id
  segments : ∀ row ∈ rows.tierSegments, row.utilityAccountId ∉ request.accountIds → row.rateVersionId ≠ id
  plans : ∀ row ∈ rows.ratePlans, row.clonedFromRateVersionId ≠ some id
  candidates : ∀ row ∈ rows.candidates, row.id ∉ rows.candidateIds request →
    row.baseRateVersionId ≠ some id ∧ row.candidateRateVersionId ≠ some id

theorem unblocked_of_not_mem (outside : id ∉ rows.blockedVersionIds request) : Unblocked rows request id := by
  simp only [PricingRows.blockedVersionIds, List.mem_append, not_or, List.mem_filterMap, List.mem_map, List.mem_filter,
    decide_eq_true_eq, not_exists, not_and, and_imp] at outside
  obtain ⟨⟨⟨⟨⟨⟨⟨⟨accounts, assignments⟩, bills⟩, baselines⟩, costRuns⟩, segments⟩, plans⟩, base⟩, proposed⟩ := outside
  exact ⟨accounts, assignments, bills, baselines, costRuns, segments, plans,
    fun row stored open_ => ⟨base row stored open_, proposed row stored open_⟩⟩

theorem version_closed (ends : rows.versionIds request fuel = some versionIds) (member : id ∈ versionIds) :
    ¬ (rows.afterReset request versionIds).Refers (.version id) := by
  have free := unblocked_of_not_mem (versionIds_unblocked ends member)
  rintro (⟨row, kept, refers⟩ | ⟨row, kept, refers⟩ | ⟨row, kept, refers⟩ | ⟨row, kept, refers⟩ | ⟨row, kept, refers⟩ |
    ⟨row, kept, refers⟩ | ⟨row, kept, refers⟩ | ⟨row, kept, refers⟩ | ⟨row, kept, refers⟩ | ⟨row, kept, refers⟩ |
    ⟨row, kept, refers⟩)
  · exact free.accounts row kept refers
  · exact free.plans row kept refers
  · obtain ⟨stored, outside⟩ := mem_keep.mp kept
    exact versionIds_parent ends stored outside refers member
  · -- rule rows go with their version
    obtain ⟨stored, outside⟩ := mem_keep.mp kept
    refine outside (List.mem_map.mpr ⟨row, List.mem_filter.mpr ⟨stored, decide_eq_true ?_⟩, rfl⟩)
    exact refers ▸ member
  · obtain ⟨stored, outside⟩ := mem_keep.mp kept
    exact free.assignments row stored outside refers
  · obtain ⟨stored, outside⟩ := mem_keep.mp kept
    exact refers.elim (free.candidates row stored outside).1 (free.candidates row stored outside).2
  · obtain ⟨stored, outside⟩ := mem_keep.mp kept
    refine outside (List.mem_map.mpr ⟨row, List.mem_filter.mpr ⟨stored, decide_eq_true (.inl ?_)⟩, rfl⟩)
    exact refers ▸ member
  · obtain ⟨stored, outside⟩ := mem_keep.mp kept
    exact free.bills row stored outside refers
  · obtain ⟨stored, other⟩ := List.mem_filter.mp kept
    exact free.costRuns row stored (of_decide_eq_true other) refers
  · obtain ⟨stored, other⟩ := List.mem_filter.mp kept
    exact free.segments row stored (of_decide_eq_true other) refers
  · exact free.baselines row kept refers

/-- A deleted artifact meets the conditions of its deletion. -/
theorem artifactIds_deletable (member : id ∈ rows.artifactIds request versionIds) :
    ∃ artifact, artifact.id = id ∧ rows.ArtifactDeletable request versionIds artifact := by
  obtain ⟨artifact, chosen, rfl⟩ := List.mem_map.mp member
  exact ⟨artifact, rfl, of_decide_eq_true (List.mem_filter.mp chosen).2⟩

theorem artifact_closed (member : id ∈ rows.artifactIds request versionIds) :
    ¬ (rows.afterReset request versionIds).Refers (.artifact id) := by
  obtain ⟨artifact, rfl, _, _, _, _, bills⟩ := artifactIds_deletable member
  rintro (⟨row, kept, refers⟩ | ⟨row, kept, refers⟩ | ⟨row, kept, refers⟩)
  · obtain ⟨stored, outside⟩ := mem_keep.mp kept
    refine outside (List.mem_map.mpr ⟨row, List.mem_filter.mpr ⟨stored, decide_eq_true ?_⟩, rfl⟩)
    exact refers ▸ member
  · obtain ⟨stored, outside⟩ := mem_keep.mp kept
    refine outside (List.mem_map.mpr ⟨row, List.mem_filter.mpr ⟨stored, decide_eq_true (.inr ?_)⟩, rfl⟩)
    exact refers ▸ member
  · obtain ⟨stored, outside⟩ := mem_keep.mp kept
    refine outside (bills row.id (List.mem_map.mpr ⟨row, List.mem_filter.mpr ⟨stored, ?_⟩, rfl⟩))
    exact decide_eq_true refers

/-- Unique identifiers make the lookup of an extraction result exact. -/
theorem extractionArtifact_eq (unique : (rows.extractionResults.map RateExtractionResult.id).Nodup)
    {result : RateExtractionResult} (stored : result ∈ rows.extractionResults) :
    rows.extractionArtifact result.id = some result.artifactId := by
  rw [PricingRows.extractionArtifact]
  cases found : rows.extractionResults.find? fun row => row.id = result.id with
  | none =>
      have missing := List.find?_eq_none.mp found result stored
      simp at missing
  | some other =>
      have same : other.id = result.id := by simpa using List.find?_some found
      have equal := List.inj_on_of_nodup_map unique (List.mem_of_find?_eq_some found) stored same
      rw [equal]
      rfl

theorem extraction_closed (unique : (rows.extractionResults.map RateExtractionResult.id).Nodup)
    (member : id ∈ rows.extractionIds request versionIds)
    (refers : (rows.afterReset request versionIds).Refers (.extraction id)) : rows.Stray (.extraction id) := by
  obtain ⟨result, chosen, rfl⟩ := List.mem_map.mp member
  obtain ⟨stored, deleted⟩ := List.mem_filter.mp chosen
  have artifactDeleted : result.artifactId ∈ rows.artifactIds request versionIds := of_decide_eq_true deleted
  have artifact := extractionArtifact_eq unique stored
  rcases refers with ⟨row, kept, refers⟩ | ⟨row, kept, refers⟩
  · -- the candidates of a deleted artifact are deleted with it
    exfalso
    obtain ⟨stored, outside⟩ := mem_keep.mp kept
    obtain ⟨owner, owns, _, _, candidates, _⟩ := artifactIds_deletable artifactDeleted
    refine outside (candidates row.id (List.mem_map.mpr ⟨row, List.mem_filter.mpr ⟨stored, ?_⟩, rfl⟩))
    rw [refers, artifact, owns]
    exact decide_eq_true rfl
  · obtain ⟨stored, outside⟩ := mem_keep.mp kept
    refine ⟨row, stored, refers, fun same => outside ?_⟩
    rw [artifact] at same
    refine List.mem_map.mpr ⟨row, List.mem_filter.mpr ⟨stored, decide_eq_true (.inr ?_)⟩, rfl⟩
    rw [← Option.some.inj same]
    exact artifactDeleted

theorem candidate_closed (member : id ∈ rows.candidateIds request) :
    ¬ (rows.afterReset request versionIds).Refers (.candidate id) := by
  rintro ⟨row, kept, refers⟩
  obtain ⟨stored, outside⟩ := mem_keep.mp kept
  refine outside (List.mem_map.mpr ⟨row, List.mem_filter.mpr ⟨stored, decide_eq_true ?_⟩, rfl⟩)
  exact refers ▸ member

theorem check_closed (member : id ∈ rows.checkIds request versionIds) :
    ¬ (rows.afterReset request versionIds).Refers (.check id) := by
  obtain ⟨check, chosen, rfl⟩ := List.mem_map.mp member
  obtain ⟨_, _, owned⟩ := of_decide_eq_true (List.mem_filter.mp chosen).2
  rintro ⟨row, kept, refers⟩
  obtain ⟨stored, outside⟩ := mem_keep.mp kept
  exact outside (owned row stored refers)

theorem job_closed (member : id ∈ rows.jobIds request versionIds) :
    ¬ (rows.afterReset request versionIds).Refers (.job id) := by
  obtain ⟨job, chosen, rfl⟩ := List.mem_map.mp member
  obtain ⟨_, checks, bills⟩ := of_decide_eq_true (List.mem_filter.mp chosen).2
  rintro (⟨row, kept, refers⟩ | ⟨row, kept, refers⟩)
  · obtain ⟨stored, outside⟩ := mem_keep.mp kept
    exact outside (checks row stored refers)
  · obtain ⟨stored, outside⟩ := mem_keep.mp kept
    exact outside (bills row stored refers)

/-- Only bills of the accounts are deleted. -/
theorem billIds_account (member : id ∈ rows.billIds request) :
    ∃ bill ∈ rows.bills, bill.id = id ∧ ∃ account ∈ bill.utilityAccountId, account ∈ request.accountIds := by
  rw [PricingRows.billIds] at member
  split at member
  · obtain ⟨bill, chosen, rfl⟩ := List.mem_map.mp member
    obtain ⟨stored, owned⟩ := List.mem_filter.mp chosen
    exact ⟨bill, stored, rfl, of_decide_eq_true owned⟩
  · exact absurd member List.not_mem_nil

theorem bill_closed (member : id ∈ rows.billIds request)
    (refers : (rows.afterReset request versionIds).Refers (.bill id)) : rows.Stray (.bill id) := by
  rcases refers with ⟨row, kept, refers⟩ | ⟨row, kept, refers⟩ | ⟨row, kept, refers⟩
  · exfalso
    obtain ⟨stored, outside⟩ := mem_keep.mp kept
    refine outside (List.mem_map.mpr ⟨row, List.mem_filter.mpr ⟨stored, decide_eq_true ?_⟩, rfl⟩)
    exact refers ▸ member
  · exfalso
    obtain ⟨stored, outside⟩ := mem_keep.mp kept
    refine outside (List.mem_map.mpr ⟨row, List.mem_filter.mpr ⟨stored, decide_eq_true ?_⟩, rfl⟩)
    exact refers ▸ member
  · -- a draft of the same account went with the account's rows
    obtain ⟨stored, outside⟩ := List.mem_filter.mp kept
    obtain ⟨bill, present, rfl, owned⟩ := billIds_account member
    refine ⟨row, stored, bill, present, refers, rfl, fun same => ?_⟩
    exact of_decide_eq_true outside (same ▸ owned)

/-- A row that the deletion removes is referred to by no row that stays, the stray columns apart. -/
theorem afterReset_closed (keys : PrimaryKeys rows) (ends : rows.versionIds request fuel = some versionIds)
    {target : Target} (present : rows.Names target) (gone : ¬ (rows.afterReset request versionIds).Names target)
    (refers : (rows.afterReset request versionIds).Refers target) : rows.Stray target := by
  cases target with
  | version id => exact (version_closed ends (mem_of_deleted present gone) refers).elim
  | artifact id => exact (artifact_closed (mem_of_deleted present gone) refers).elim
  | extraction id => exact extraction_closed keys.extractionResults (mem_of_deleted present gone) refers
  | candidate id => exact (candidate_closed (mem_of_deleted present gone) refers).elim
  | check id => exact (check_closed (mem_of_deleted present gone) refers).elim
  | job id => exact (job_closed (mem_of_deleted present gone) refers).elim
  | bill id => exact bill_closed (mem_of_deleted present gone) refers

end Kinds

/-! ## The scope of a reset -/

/-- The versions of the current and of the scheduled pricing. -/
def PricingSnapshot.Uses {Document : Type} (snapshot : PricingSnapshot Document) (id : String) : Prop :=
  id = snapshot.rateVersionId ∨
    ∃ assignment ∈ snapshot.canonicalConfiguration.futureAssignments, assignment.rateVersionId = id

theorem mem_protectedPricingVersionIds {Document : Type} {pricing : List (PricingSnapshot Document)}
    {snapshot : PricingSnapshot Document} (listed : snapshot ∈ pricing) {id : String} (used : snapshot.Uses id) :
    id ∈ protectedPricingVersionIds pricing := by
  refine List.mem_flatMap.mpr ⟨snapshot, listed, ?_⟩
  rcases used with rfl | ⟨assignment, scheduled, rfl⟩
  · exact List.mem_cons_self
  · exact List.mem_cons_of_mem _ (List.mem_map.mpr ⟨assignment, scheduled, rfl⟩)

/-- What holds of a scope and of the rows after its deletion. -/
structure ClosedScope {Document : Type} (rows after : PricingRows) (scope : PricingHistoryScope)
    (pricing : List (PricingSnapshot Document)) (Excused : Target → Prop) : Prop where
  references : ∀ target, rows.Names target → ¬ after.Names target → after.Refers target → Excused target
  unprotected : ∀ snapshot ∈ pricing, ∀ id, snapshot.Uses id → id ∉ scope.historicalRateVersionIds
  inactive : ∀ version ∈ rows.rateVersions, version.isActive = true → version.id ∉ scope.historicalRateVersionIds
  parents : ∀ version ∈ after.rateVersions, version ∈ rows.rateVersions ∧
    ∀ parent ∈ version.parentVersionId, rows.Names (.version parent) → after.Names (.version parent)

/-- The scope is computed, its deletion goes through, and the result has no dangling reference. -/
def ScopeCloses {Document : Type} (db : Database) (request : ScopeRequest) (pricing : List (PricingSnapshot Document))
    (Excused : Target → Prop) : Prop :=
  ∃ scope after,
    (∀ fuel, db.rateVersions.length < fuel → pricingHistoryScope db.toPricingRows
      { request with protectedVersionIds := protectedPricingVersionIds pricing } fuel = some scope) ∧
    deletePricingHistoryScope (deleteAccountHistory db.toPricingRows request.accountIds) scope = .ok after ∧
    ClosedScope db.toPricingRows after scope pricing Excused

/-- A source of the current version names an extraction result of the artifact of an old version. -/
def strayRows : PricingRows :=
  { ratePlans := [{ id := "plan", ownerSiteId := some "site" }]
    rateVersions := [
      { id := "old", ratePlanId := "plan", effectiveTo := some 0 },
      { id := "current", ratePlanId := "plan", isActive := true }]
    backgroundJobs := [⟨"job"⟩]
    checkRuns := [⟨"check", "job", 0⟩]
    artifacts := [⟨"old-page", "check", 0⟩, ⟨"current-page", "check", 0⟩]
    extractionResults := [⟨"old-result", "old-page"⟩]
    versionSources := [⟨"old", "old-page", none⟩, ⟨"current", "current-page", some "old-result"⟩] }

def strayDatabase : Database where
  toPricingRows := strayRows
  keys := by constructor <;> decide

def strayRequest : ScopeRequest := ⟨"site", [], [], seconds 864000, false⟩

theorem strayDatabase_scope : strayRows.versionIds strayRequest 3 = some ["old"] := by decide

end PowerMonitor.Pricing
