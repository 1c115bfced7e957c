import PowerMonitor.Lifecycle.Requests

/-! What a successful request does to the library.

Each request is read back once from its success, with the guards it has passed. The results on the library go by these
effects and do not open the requests again.
-/

set_option autoImplicit false
namespace PowerMonitor.Lifecycle
open Library Rates
open Assignments (RatePlanStatus RateVersionStatus RateAssignment RateBook AssignmentState assignmentState BlockingIssue
  Principal RequestFailure rising rising_eq_ok continuing continuing_eq_ok rateManager StoredAssignments AssignmentRequest
  EndRequest Placement)
open Pricing (UtilityAccount CandidateStatus require require_eq_ok)

/-! ## Steps that a request shares with others -/

theorem rateManager_eq_ok {principal : Principal} {permission : String} {done : Unit} :
    rateManager principal permission = .ok done ↔ permission ∈ principal.permissions := by
  rw [rateManager, rising_eq_ok, raiseIf_eq_ok, not_not]

section Steps
variable {services : LibraryServices} {library after : RateLibrary}

theorem requireVersion_eq_ok {versionId : String} {version : RateVersion} :
    requireVersion library versionId = .ok version ↔ library.version? versionId = some version := by
  rw [requireVersion, rising_eq_ok, require_eq_ok]

theorem requirePlan_eq_ok {planId : String} {plan : RatePlan} :
    requirePlan library planId = .ok plan ↔ library.plan? planId = some plan := by
  rw [requirePlan, rising_eq_ok, require_eq_ok]

theorem version?_id {versionId : String} {version : RateVersion} (found : library.version? versionId = some version) :
    version.id = versionId := by
  have named := List.find?_some found
  simpa using named

theorem version?_mem {versionId : String} {version : RateVersion} (found : library.version? versionId = some version) :
    version ∈ library.rateVersions := List.mem_of_find?_eq_some found

theorem plan?_id {planId : String} {plan : RatePlan} (found : library.plan? planId = some plan) : plan.id = planId := by
  have named := List.find?_some found
  simpa using named

theorem plan?_mem {planId : String} {plan : RatePlan} (found : library.plan? planId = some plan) :
    plan ∈ library.ratePlans := List.mem_of_find?_eq_some found

theorem candidate?_mem {candidateId : String} {candidate : RateChangeCandidate}
    (found : library.candidate? candidateId = some candidate) : candidate ∈ library.candidates :=
  List.mem_of_find?_eq_some found

theorem readDocument_eq_ok {version : RateVersion} {document : PlanDocument} :
    readDocument library version = .ok document ↔ library.versionDocument? version = some document := by
  unfold readDocument
  split
  · next found => simp [found, pure, Except.pure]
  · next none => simp [none]

theorem addPlan_eq_ok {plan : RatePlan} : addPlan library plan = .ok after ↔
    (∀ row ∈ library.ratePlans, row.id ≠ plan.id) ∧ after = { library with ratePlans := library.ratePlans ++ [plan] } := by
  rw [addPlan, raiseIf_bind_eq_ok]
  refine and_congr (by simp) ⟨fun done => (Except.ok.inj done).symm, fun same => same ▸ rfl⟩

/-- The version has an identifier that is new to the library. -/
def RateLibrary.NewVersion (library : RateLibrary) (version : RateVersion) : Prop :=
  ∀ row ∈ library.rateVersions, row.id ≠ version.id

theorem addVersion_ok {version : RateVersion} (added : addVersion library version = .ok after) :
    library.NewVersion version ∧ after = { library with rateVersions := library.rateVersions ++ [version] } := by
  rw [addVersion, raiseIf_bind_eq_ok] at added
  refine ⟨fun row member same => added.1 ⟨row, member, .inl same⟩, (Except.ok.inj added.2).symm⟩

/-! ## Validation -/

/-- Evidence only adds to what is validated. -/
theorem validateDocument_errors_default {options : ValidationOptions} {document : RatePlanDocument}
    (clean : (validateDocument options document).errors = []) : (validateDocument {} document).errors = [] := by
  simp only [validateDocument, List.append_eq_nil_iff] at clean ⊢
  exact ⟨clean.1, by simp [evidenceErrors]⟩

/-- What `activate_version` has checked. -/
structure Activatable (library : RateLibrary) (versionId : String) (version : RateVersion) : Prop where
  found : library.version? versionId = some version
  available : ∃ plan, library.plan? version.ratePlanId = some plan ∧ plan.status ∉ [RatePlanStatus.removed, .retired]
  validates : library.Validates version

theorem activateVersion_ok {versionId : String} {automatically : Bool}
    (activated : activateVersion services library versionId automatically = .ok after) :
    ∃ version, Activatable library versionId version ∧ after = library.publish version automatically := by
  unfold activateVersion at activated
  obtain ⟨version, found, rest⟩ := bind_eq_ok.mp activated
  obtain ⟨plan, planned, rest⟩ := bind_eq_ok.mp rest
  obtain ⟨_, _, rest⟩ := bind_eq_ok.mp rest
  obtain ⟨_, available, rest⟩ := bind_eq_ok.mp rest
  -- The review of a bill changes nothing of what follows.
  obtain ⟨document, readable, clean, done⟩ : ∃ document, library.versionDocument? version = some document ∧
      (validateDocument (library.validationOptions version) document.prices).errors = [] ∧
      after = library.publish version automatically := by
    have finish : ∀ {result}, (do
        let document ← readDocument library version
        rising (raiseIf ((validateDocument (library.validationOptions version) document.prices).errors ≠ [])
          rateValidationFailed)
        pure (library.publish version automatically) : Except RequestFailure RateLibrary) = .ok result →
        ∃ document, library.versionDocument? version = some document ∧
          (validateDocument (library.validationOptions version) document.prices).errors = [] ∧
          result = library.publish version automatically := by
      intro result run
      obtain ⟨document, readable, run⟩ := bind_eq_ok.mp run
      obtain ⟨_, clean, run⟩ := bind_eq_ok.mp run
      rw [rising_eq_ok, raiseIf_eq_ok, not_not] at clean
      exact ⟨document, readDocument_eq_ok.mp readable, clean, (Except.ok.inj run).symm⟩
    split at rest
    · obtain ⟨_, _, rest⟩ := bind_eq_ok.mp rest
      exact finish rest
    · exact finish rest
  rw [rising_eq_ok, raiseIf_eq_ok] at available
  exact ⟨version, ⟨requireVersion_eq_ok.mp found, ⟨plan, requirePlan_eq_ok.mp planned, available⟩,
    document, readable, validateDocument_errors_default clean⟩, done⟩

end Steps

/-! ## The effects -/

/-- A version as it is created: a draft that nothing has happened to. -/
structure RateVersion.Fresh (version : RateVersion) : Prop where
  draft : version.status = .draft
  inactive : version.isActive = false
  unused : version.immutableAfterUse = false
  kept : version.statusBeforeRemoval = none
  ordinary : version.sourceKind ≠ .officialSceCandidate

/-- The version of a new candidate. -/
structure RateVersion.Proposed (version : RateVersion) : Prop where
  undecided : version.status ∈ [RateVersionStatus.candidate, .rejected]
  inactive : version.isActive = false
  unused : version.immutableAfterUse = false
  kept : version.statusBeforeRemoval = none

/-- The tables after `addCandidate`. -/
structure CandidateAdded (library : RateLibrary) (version : RateVersion) (candidate : RateChangeCandidate)
    (created : RateLibrary) : Prop where
  newVersion : library.NewVersion version
  newCandidate : ∀ row ∈ library.candidates, row.id ≠ candidate.id
  written : ∃ conflicts risk sources, created =
    { library with
      rateVersions := library.rateVersions ++ [version]
      candidates := library.candidates.map (fun other => if other.id ∈ conflicts then blockedBy candidate.id other else other) ++
        [{ candidate with riskLevel := risk, conflictingCandidateIds := conflicts }]
      sources := sources }

/-- What `assign_version` has checked of the version. -/
structure Assignable (library : RateLibrary) (versionId : String) (version : RateVersion) : Prop where
  found : library.version? versionId = some version
  status : version.status ∈ Assignments.ASSIGNABLE_VERSION_STATUSES
  available : ∃ plan, library.plan? version.ratePlanId = some plan ∧ plan.status ∉ [RatePlanStatus.removed, .retired]
  validates : library.Validates version

/-- What a successful request does, with the guards it has passed. -/
inductive Effect (library : RateLibrary) (now : Int) : LibraryAction → RateLibrary → Prop where
  | kept {action : LibraryAction} : Effect library now action library
  | bootstrapped {seeds : List SeedPlan} {after : RateLibrary} (empty : library.ratePlans = [])
      (run : seeds.foldlM seedPlan library = .ok after) : Effect library now (.bootstrap seeds) after
  | planCreated {action : LibraryAction} (plan : RatePlan) (version : RateVersion) (sources : List RateVersionSource)
      (bills : List UtilityBillImport) (newPlan : ∀ row ∈ library.ratePlans, row.id ≠ plan.id) (draft : plan.status = .draft)
      (newVersion : library.NewVersion version) (fresh : version.Fresh) :
      Effect library now action
        { library with
          ratePlans := library.ratePlans ++ [plan]
          rateVersions := library.rateVersions ++ [version]
          sources := sources
          bills := bills }
  | versionCreated {action : LibraryAction} (version : RateVersion) (newVersion : library.NewVersion version)
      (fresh : version.Fresh) :
      Effect library now action { library with rateVersions := library.rateVersions ++ [version] }
  | edited {services : LibraryServices} {principal : Principal} {versionId : String} {document : PlanDocument}
      (version : RateVersion) (plan : RatePlan) (found : library.version? versionId = some version)
      (draft : version.status = .draft) (inactive : version.isActive = false) (unused : version.immutableAfterUse = false) :
      Effect library now (.patchRateVersion principal versionId document)
        ((library.updatePlan plan.id (updatedPlan document)).updateVersion version.id (updatedVersion services document))
  | published {principal : Principal} {versionId : String} (version : RateVersion)
      (activatable : Activatable library versionId version) :
      Effect library now (.activateManagedVersion principal versionId) (library.publish version false)
  | flagged {principal : Principal} {versionId : String} (version : RateVersion)
      (found : library.version? versionId = some version) :
      Effect library now (.activateRateVersion principal versionId) (library.flag version)
  | retired {principal : Principal} {versionId : String} {payload : Option RateVersionLifecycleRequest}
      (version : RateVersion) (found : library.version? versionId = some version)
      (clear : library.versionAssignments version.id now = []) :
      Effect library now (.retireManagedVersion principal versionId payload) (library.retireVersion version)
  | removed {principal : Principal} {versionId : String} {payload : RateVersionLifecycleRequest} (version : RateVersion)
      (found : library.version? versionId = some version) :
      Effect library now (.removeRateVersion principal versionId payload) (library.updateVersion version.id removedRow)
  | restored {principal : Principal} {versionId : String} {revision : Nat} (version : RateVersion)
      (found : library.version? versionId = some version)
      (gone : version.status ∈ [RateVersionStatus.removed, .retired]) :
      Effect library now (.restoreRateVersion principal versionId revision) (library.updateVersion version.id restoredRow)
  | deletedDraft {principal : Principal} {versionId : String} (version : RateVersion)
      (found : library.version? versionId = some version) (draft : version.status = .draft)
      (unreferenced : library.versionUsageCount version.id = 0) :
      Effect library now (.deleteDraftVersion principal versionId) (library.deleteVersions fun row => row.id = version.id)
  | deletedEligible {principal : Principal} {versionId : String} {payload : RateVersionLifecycleRequest}
      (version : RateVersion) (found : library.version? versionId = some version)
      (eligible : library.DeleteDraftEligible version) :
      Effect library now (.deleteRateVersionDraft principal versionId payload)
        (library.deleteVersions fun row => row.id = version.id)
  | deletedPlan {principal : Principal} {planId : String} {payload : RatePlanLifecycleRequest} (plan : RatePlan)
      (found : library.plan? planId = some plan) (draft : plan.status = .draft)
      (drafts : ∀ version ∈ library.versionsOf plan.id, version.status = .draft)
      (unreferenced : library.Unreferenced plan.id) :
      Effect library now (.deleteUnusedRatePlanDraft principal planId payload)
        { library.deleteVersions fun row => row.ratePlanId = plan.id with
          ratePlans := (library.deleteVersions fun row => row.ratePlanId = plan.id).ratePlans.filter fun row =>
            row.id ≠ plan.id }
  | planRemoved {action : LibraryAction} (plan : RatePlan) (status : RatePlanStatus)
      (found : library.plan? plan.id = some plan) (unblocked : ¬ (library.planDependencies plan now).RemovalBlocked) :
      Effect library now action (library.updatePlan plan.id (removedPlan status))
  | planRestored {principal : Principal} {planId : String} {payload : RatePlanLifecycleRequest} (plan : RatePlan)
      (found : library.plan? planId = some plan) :
      Effect library now (.restoreRatePlan principal planId payload) (library.updatePlan plan.id (removedPlan .active))
  | candidateFailed {action : LibraryAction} (candidate : RateChangeCandidate)
      (newCandidate : ∀ row ∈ library.candidates, row.id ≠ candidate.id) (unlinked : candidate.candidateRateVersionId = none)
      (closed : candidate.status = .validationFailed) :
      Effect library now action { library with candidates := library.candidates ++ [candidate] }
  | candidateCreated {action : LibraryAction} (version : RateVersion) (candidate : RateChangeCandidate)
      (created : RateLibrary) (added : CandidateAdded library version candidate created) (proposed : version.Proposed)
      (linked : candidate.candidateRateVersionId = some version.id)
      (undecided : candidate.status ∈ [CandidateStatus.pendingReview, .validationFailed]) :
      Effect library now action created
  | candidateActivated {action : LibraryAction} (version : RateVersion) (candidate : RateChangeCandidate)
      (created : RateLibrary) (added : CandidateAdded library version candidate created) (proposed : version.Proposed)
      (linked : candidate.candidateRateVersionId = some version.id) (automatic : candidate.origin.Automatic)
      (valid : version.status = .candidate) (activatable : Activatable created version.id version)
      (undecided : candidate.status ∈ [CandidateStatus.pendingReview, .validationFailed]) :
      Effect library now action ((created.publish version true).updateCandidate candidate.id fun row =>
        { row with status := .automaticallyActivated, riskLevel := .verified })
  | decided {principal : Principal} {candidateId : String} {decision : Decision} (candidate : RateChangeCandidate)
      (found : library.candidate? candidateId = some candidate)
      (permitted : "rates.approve_candidates" ∈ principal.permissions)
      (pending : candidate.status ∈ [CandidateStatus.pendingReview, .approved]) :
      Effect library now (.decideCandidate principal candidateId decision) (library.recordDecision candidate decision principal)
  | candidatePublished {principal : Principal} {candidateId : String} (candidate : RateChangeCandidate)
      (version : RateVersion) (found : library.candidate? candidateId = some candidate)
      (approved : candidate.status = .approved) (linked : candidate.candidateRateVersionId = some version.id)
      (activatable : Activatable library version.id version) :
      Effect library now (.activateCandidate principal candidateId)
        ((library.publish version false).updateCandidate candidate.id fun row => { row with status := .scheduled })
  | assigned {principal : Principal} {request : AssignmentRequest} {id : String} (version : RateVersion)
      (placement : Placement) (assignable : Assignable library request.rateVersionId version)
      (accepted : Assignments.Accepted library.book request placement)
      (stored : StoredAssignments (library.book.place request id now placement).rateAssignments) :
      Effect library now (.assign principal request id) (library.withBook (library.book.place request id now placement))
  | ended {principal : Principal} {request : EndRequest} (current : RateAssignment)
      (listed : current ∈ library.book.active request.accountId) (covers : current.Covers request.effectiveAt) :
      Effect library now (.endAssignment principal request) (library.withBook (library.book.endCurrent request now current))
  | runQueued {versionId : String} :
      Effect library now (.queueCostRun versionId) { library with costRuns := library.costRuns ++ [versionId] }
  | runCompleted {versionId : String} (run : versionId ∈ library.costRuns) (version : RateVersion)
      (found : library.version? versionId = some version) :
      Effect library now (.completeCostRun versionId)
        (library.updateVersion version.id fun row => { row with immutableAfterUse := true })

/-! ## Every request has its effect -/

section Success
variable {services : LibraryServices} {library after : RateLibrary} {now : Int} {principal : Principal}

theorem bootstrap_effect {seeds : List SeedPlan} (done : bootstrap library seeds = .ok after) :
    Effect library now (.bootstrap seeds) after := by
  unfold bootstrap at done
  split at done
  · next empty => exact .bootstrapped empty done
  · cases done
    exact .kept

theorem draftVersion_fresh {id planId : String} {number : Nat} {kind : SourceKind} {document : PlanDocument}
    (ordinary : kind ≠ .officialSceCandidate) : (draftVersion services id planId number kind document).Fresh :=
  ⟨rfl, rfl, rfl, rfl, ordinary⟩

theorem createCustomPlan_ok {document : PlanDocument} {planId versionId : String} {kind : SourceKind}
    (ordinary : kind ≠ .officialSceCandidate)
    (done : createCustomPlan services library document planId versionId kind = .ok after) :
    ∃ plan version, (∀ row ∈ library.ratePlans, row.id ≠ plan.id) ∧ plan.status = .draft ∧ library.NewVersion version ∧
      version.Fresh ∧ after = { library with
        ratePlans := library.ratePlans ++ [plan], rateVersions := library.rateVersions ++ [version] } := by
  unfold createCustomPlan at done
  obtain ⟨_, _, done⟩ := bind_eq_ok.mp done
  obtain ⟨_, _, done⟩ := bind_eq_ok.mp done
  obtain ⟨middle, planned, done⟩ := bind_eq_ok.mp done
  obtain ⟨newPlan, rfl⟩ := addPlan_eq_ok.mp planned
  obtain ⟨newVersion, rfl⟩ := addVersion_ok done
  exact ⟨_, _, newPlan, rfl, newVersion, draftVersion_fresh ordinary, rfl⟩

theorem createRatePlan_effect {document : PlanDocument} {planId versionId : String}
    (done : createRatePlan services library principal document planId versionId = .ok after) {action : LibraryAction} :
    Effect library now action after := by
  obtain ⟨_, _, done⟩ := bind_eq_ok.mp done
  obtain ⟨plan, version, newPlan, draft, newVersion, fresh, rfl⟩ := createCustomPlan_ok (by decide) done
  exact .planCreated plan version library.sources library.bills newPlan draft newVersion fresh

theorem ensureBillRateDraft_effect {document : PlanDocument} {planId versionId billId : String} {source : RateVersionSource}
    (done : ensureBillRateDraft services library document planId versionId billId source = .ok after) {action : LibraryAction} :
    Effect library now action after := by
  obtain ⟨middle, created, done⟩ := bind_eq_ok.mp done
  obtain ⟨plan, version, newPlan, draft, newVersion, fresh, rfl⟩ := createCustomPlan_ok (by decide) created
  cases done
  exact .planCreated plan version _ _ newPlan draft newVersion fresh

theorem createPlanVersion_effect {planId versionId : String}
    (done : createPlanVersion services library principal planId versionId = .ok after) {action : LibraryAction} :
    Effect library now action after := by
  unfold createPlanVersion at done
  obtain ⟨_, _, done⟩ := bind_eq_ok.mp done
  obtain ⟨_, _, done⟩ := bind_eq_ok.mp done
  obtain ⟨_, _, done⟩ := bind_eq_ok.mp done
  obtain ⟨_, _, done⟩ := bind_eq_ok.mp done
  split at done
  · cases done
    exact .kept
  · obtain ⟨source, _, done⟩ := bind_eq_ok.mp done
    obtain ⟨document, _, done⟩ := bind_eq_ok.mp done
    obtain ⟨newVersion, rfl⟩ := addVersion_ok done
    exact .versionCreated _ newVersion ⟨rfl, rfl, rfl, rfl, nofun⟩

theorem cloneRateVersion_effect {planId versionId : String} {request : CloneRequest}
    (done : cloneRateVersion services library principal planId versionId request = .ok after) {action : LibraryAction} :
    Effect library now action after := by
  unfold cloneRateVersion at done
  obtain ⟨_, _, done⟩ := bind_eq_ok.mp done
  obtain ⟨_, _, done⟩ := bind_eq_ok.mp done
  obtain ⟨_, _, done⟩ := bind_eq_ok.mp done
  obtain ⟨_, _, done⟩ := bind_eq_ok.mp done
  obtain ⟨newVersion, rfl⟩ := addVersion_ok done
  exact .versionCreated _ newVersion ⟨rfl, rfl, rfl, rfl, nofun⟩

theorem patchRateVersion_effect {versionId : String} {document : PlanDocument}
    (done : patchRateVersion services library principal versionId document = .ok after) :
    Effect library now (.patchRateVersion principal versionId document) after := by
  obtain ⟨_, _, done⟩ := bind_eq_ok.mp done
  unfold updateDraftVersion at done
  obtain ⟨version, found, done⟩ := bind_eq_ok.mp done
  obtain ⟨plan, _, done⟩ := bind_eq_ok.mp done
  obtain ⟨_, _, done⟩ := bind_eq_ok.mp done
  obtain ⟨_, editable, done⟩ := bind_eq_ok.mp done
  rw [rising_eq_ok, raiseIf_eq_ok, not_or, not_or, not_not, Bool.not_eq_true, Bool.not_eq_true] at editable
  cases done
  exact .edited version plan (requireVersion_eq_ok.mp found) editable.1 editable.2.1 editable.2.2

theorem activateManagedVersion_effect {versionId : String}
    (done : activateManagedVersion services library principal versionId = .ok after) :
    Effect library now (.activateManagedVersion principal versionId) after := by
  obtain ⟨_, _, done⟩ := bind_eq_ok.mp done
  obtain ⟨_, _, done⟩ := bind_eq_ok.mp done
  obtain ⟨_, _, done⟩ := bind_eq_ok.mp done
  obtain ⟨version, activatable, rfl⟩ := activateVersion_ok done
  exact .published version activatable

theorem activateRateVersion_effect {versionId : String}
    (done : activateRateVersion services library principal versionId = .ok after) :
    Effect library now (.activateRateVersion principal versionId) after := by
  obtain ⟨_, _, done⟩ := bind_eq_ok.mp done
  obtain ⟨version, found, done⟩ := bind_eq_ok.mp done
  obtain ⟨_, _, done⟩ := bind_eq_ok.mp done
  obtain ⟨_, _, done⟩ := bind_eq_ok.mp done
  cases done
  exact .flagged version (requireVersion_eq_ok.mp found)

theorem retireManagedVersion_effect {versionId : String} {payload : Option RateVersionLifecycleRequest}
    (done : retireManagedVersion services library principal versionId payload now = .ok after) :
    Effect library now (.retireManagedVersion principal versionId payload) after := by
  unfold retireManagedVersion at done
  obtain ⟨_, _, done⟩ := bind_eq_ok.mp done
  obtain ⟨version, found, done⟩ := bind_eq_ok.mp done
  obtain ⟨_, _, done⟩ := bind_eq_ok.mp done
  obtain ⟨_, clear, done⟩ := bind_eq_ok.mp done
  rw [rising_eq_ok, raiseIf_eq_ok, not_not] at clear
  have written : after = library.retireVersion version := by
    cases payload with
    | none => exact (Except.ok.inj done).symm
    | some payload =>
        obtain ⟨_, _, done⟩ := bind_eq_ok.mp done
        exact (Except.ok.inj done).symm
  rw [written]
  exact .retired version (requireVersion_eq_ok.mp found) clear

theorem removeRateVersion_effect {versionId : String} {payload : RateVersionLifecycleRequest}
    (done : removeRateVersion services library principal versionId payload now = .ok after) :
    Effect library now (.removeRateVersion principal versionId payload) after := by
  unfold removeRateVersion at done
  obtain ⟨_, _, done⟩ := bind_eq_ok.mp done
  obtain ⟨version, found, done⟩ := bind_eq_ok.mp done
  obtain ⟨_, _, done⟩ := bind_eq_ok.mp done
  split at done
  · cases done
    exact .kept
  · obtain ⟨_, _, done⟩ := bind_eq_ok.mp done
    obtain ⟨_, _, done⟩ := bind_eq_ok.mp done
    cases done
    exact .removed version (requireVersion_eq_ok.mp found)

theorem restoreRateVersion_effect {versionId : String} {revision : Nat}
    (done : restoreRateVersion services library principal versionId revision = .ok after) :
    Effect library now (.restoreRateVersion principal versionId revision) after := by
  unfold restoreRateVersion at done
  obtain ⟨_, _, done⟩ := bind_eq_ok.mp done
  obtain ⟨version, found, done⟩ := bind_eq_ok.mp done
  obtain ⟨_, _, done⟩ := bind_eq_ok.mp done
  split at done
  · cases done
    exact .kept
  · next gone =>
      obtain ⟨_, _, done⟩ := bind_eq_ok.mp done
      cases done
      exact .restored version (requireVersion_eq_ok.mp found) (not_not.mp gone)

theorem deleteDraftVersion_effect {versionId : String}
    (done : deleteDraftVersion services library principal versionId = .ok after) :
    Effect library now (.deleteDraftVersion principal versionId) after := by
  unfold deleteDraftVersion at done
  obtain ⟨_, _, done⟩ := bind_eq_ok.mp done
  split at done
  · cases done
    exact .kept
  · next version found =>
      obtain ⟨_, _, done⟩ := bind_eq_ok.mp done
      obtain ⟨_, deletable, done⟩ := bind_eq_ok.mp done
      rw [rising_eq_ok, raiseIf_eq_ok, not_or, not_not, not_not] at deletable
      cases done
      exact .deletedDraft version found deletable.1 deletable.2

theorem deleteRateVersionDraft_effect {versionId : String} {payload : RateVersionLifecycleRequest}
    (done : deleteRateVersionDraft services library principal versionId payload now = .ok after) :
    Effect library now (.deleteRateVersionDraft principal versionId payload) after := by
  unfold deleteRateVersionDraft at done
  obtain ⟨_, _, done⟩ := bind_eq_ok.mp done
  split at done
  · cases done
    exact .kept
  · next version found =>
      obtain ⟨_, _, done⟩ := bind_eq_ok.mp done
      obtain ⟨_, _, done⟩ := bind_eq_ok.mp done
      obtain ⟨_, eligible, done⟩ := bind_eq_ok.mp done
      rw [rising_eq_ok, raiseIf_eq_ok, not_not] at eligible
      cases done
      exact .deletedEligible version found eligible

theorem removeRatePlan_effect {planId : String} {payload : RatePlanLifecycleRequest}
    (done : removeRatePlan services library principal planId payload now = .ok after) {action : LibraryAction} :
    Effect library now action after := by
  unfold removeRatePlan at done
  obtain ⟨_, _, done⟩ := bind_eq_ok.mp done
  obtain ⟨plan, found, done⟩ := bind_eq_ok.mp done
  obtain ⟨_, _, done⟩ := bind_eq_ok.mp done
  split at done
  · cases done
    exact .kept
  · obtain ⟨_, _, done⟩ := bind_eq_ok.mp done
    obtain ⟨_, _, done⟩ := bind_eq_ok.mp done
    -- An official plan needs one more permission.
    have rest : ∃ status, ¬ (library.planDependencies plan now).RemovalBlocked ∧
        after = library.updatePlan plan.id (removedPlan status) := by
      split at done
      · obtain ⟨_, _, done⟩ := bind_eq_ok.mp done
        obtain ⟨_, _, done⟩ := bind_eq_ok.mp done
        obtain ⟨_, unblocked, done⟩ := bind_eq_ok.mp done
        rw [rising_eq_ok, raiseIf_eq_ok] at unblocked
        exact ⟨_, unblocked, (Except.ok.inj done).symm⟩
      · obtain ⟨_, _, done⟩ := bind_eq_ok.mp done
        obtain ⟨_, unblocked, done⟩ := bind_eq_ok.mp done
        rw [rising_eq_ok, raiseIf_eq_ok] at unblocked
        exact ⟨_, unblocked, (Except.ok.inj done).symm⟩
    obtain ⟨status, unblocked, rfl⟩ := rest
    have known := requirePlan_eq_ok.mp found
    exact .planRemoved plan status (by rw [plan?_id known]; exact known) unblocked

theorem retireRatePlan_effect {planId : String} {payload : RatePlanLifecycleRequest}
    (done : retireRatePlan services library principal planId payload now = .ok after) {action : LibraryAction} :
    Effect library now action after := by
  unfold retireRatePlan at done
  obtain ⟨_, _, done⟩ := bind_eq_ok.mp done
  obtain ⟨plan, found, done⟩ := bind_eq_ok.mp done
  obtain ⟨_, _, done⟩ := bind_eq_ok.mp done
  split at done
  · cases done
    exact .kept
  · obtain ⟨_, _, done⟩ := bind_eq_ok.mp done
    obtain ⟨_, _, done⟩ := bind_eq_ok.mp done
    obtain ⟨_, _, done⟩ := bind_eq_ok.mp done
    obtain ⟨_, _, done⟩ := bind_eq_ok.mp done
    obtain ⟨_, unblocked, done⟩ := bind_eq_ok.mp done
    rw [rising_eq_ok, raiseIf_eq_ok] at unblocked
    cases done
    have known := requirePlan_eq_ok.mp found
    exact .planRemoved plan _ (by rw [plan?_id known]; exact known) unblocked

theorem restoreRatePlan_effect {planId : String} {payload : RatePlanLifecycleRequest}
    (done : restoreRatePlan services library principal planId payload now = .ok after) :
    Effect library now (.restoreRatePlan principal planId payload) after := by
  unfold restoreRatePlan at done
  obtain ⟨_, _, done⟩ := bind_eq_ok.mp done
  obtain ⟨plan, found, done⟩ := bind_eq_ok.mp done
  obtain ⟨_, _, done⟩ := bind_eq_ok.mp done
  split at done
  · cases done
    exact .kept
  · obtain ⟨_, _, done⟩ := bind_eq_ok.mp done
    obtain ⟨_, _, done⟩ := bind_eq_ok.mp done
    obtain ⟨_, _, done⟩ := bind_eq_ok.mp done
    have written : after = library.updatePlan plan.id (removedPlan .active) := by
      split at done
      · obtain ⟨_, _, done⟩ := bind_eq_ok.mp done
        exact (Except.ok.inj done).symm
      · exact (Except.ok.inj done).symm
    rw [written]
    exact .planRestored plan (requirePlan_eq_ok.mp found)

theorem deleteUnusedRatePlanDraft_effect {planId : String} {payload : RatePlanLifecycleRequest}
    (done : deleteUnusedRatePlanDraft services library principal planId payload now = .ok after) :
    Effect library now (.deleteUnusedRatePlanDraft principal planId payload) after := by
  unfold deleteUnusedRatePlanDraft at done
  obtain ⟨_, _, done⟩ := bind_eq_ok.mp done
  split at done
  · cases done
    exact .kept
  · next plan found =>
      obtain ⟨_, _, done⟩ := bind_eq_ok.mp done
      obtain ⟨_, _, done⟩ := bind_eq_ok.mp done
      obtain ⟨_, _, done⟩ := bind_eq_ok.mp done
      obtain ⟨_, _, done⟩ := bind_eq_ok.mp done
      obtain ⟨_, eligible, done⟩ := bind_eq_ok.mp done
      rw [rising_eq_ok, raiseIf_eq_ok, Bool.not_eq_false] at eligible
      obtain ⟨_, draft, drafts, unreferenced⟩ := of_decide_eq_true eligible
      cases done
      exact .deletedPlan plan found draft drafts.2 unreferenced

/-! ### Candidates -/

theorem addCandidate_ok {version : RateVersion} {candidate : RateChangeCandidate} {source : RateVersionSource}
    (done : library.addCandidate version candidate source = .ok after) : CandidateAdded library version candidate after := by
  unfold RateLibrary.addCandidate at done
  obtain ⟨middle, added, done⟩ := bind_eq_ok.mp done
  obtain ⟨newVersion, rfl⟩ := addVersion_ok added
  obtain ⟨newCandidate, done⟩ := raiseIf_bind_eq_ok.mp done
  cases done
  exact ⟨newVersion, by simpa using newCandidate, _, _, _, rfl⟩

theorem CandidateAdded.version?_new {version : RateVersion} {candidate : RateChangeCandidate}
    (added : CandidateAdded library version candidate after) : after.version? version.id = some version := by
  obtain ⟨_, _, _, rfl⟩ := added.written
  have absent : library.rateVersions.find? (fun row => row.id = version.id) = none := by
    rw [List.find?_eq_none]
    intro row member
    simpa using added.newVersion row member
  simp [RateLibrary.version?, absent]

theorem proposeCandidate_effect {plan : RatePlan} {current : Option PlanDocument} {document : PlanDocument} {check : SourceCheck}
    {policy : CandidatePolicy} {versionId candidateId : String}
    (done : proposeCandidate services library plan current document check policy versionId candidateId = .ok after)
    {action : LibraryAction} : Effect library now action after := by
  unfold proposeCandidate at done
  obtain ⟨created, added, done⟩ := bind_eq_ok.mp done
  have spec := addCandidate_ok added
  split at done
  · next automatic =>
      obtain ⟨activated, run, done⟩ := bind_eq_ok.mp done
      obtain ⟨version, activatable, rfl⟩ := activateVersion_ok run
      have valid : sourceValid document check = true := automatic.2.2.1
      -- The version that is published is the one just added.
      cases activatable.found.symm.trans spec.version?_new
      have candidate : (candidateVersion services library plan document check versionId).status = .candidate := if_pos valid
      cases done
      refine .candidateActivated _ _ created spec ⟨by simp [candidate], rfl, rfl, rfl⟩ rfl automatic candidate activatable ?_
      rw [newCandidate]
      dsimp only
      split <;> simp
  · cases done
    refine .candidateCreated _ _ _ spec ⟨?_, rfl, rfl, rfl⟩ rfl ?_
    · rw [candidateVersion]
      dsimp only
      split <;> simp
    · rw [newCandidate]
      dsimp only
      split <;> simp

theorem createCandidate_effect {document : PlanDocument} {check : SourceCheck} {policy : CandidatePolicy}
    {versionId candidateId : String}
    (done : createCandidateFromDocument services library document check policy versionId candidateId = .ok after)
    {action : LibraryAction} : Effect library now action after := by
  unfold createCandidateFromDocument at done
  split at done
  · obtain ⟨newCandidate, done⟩ := raiseIf_bind_eq_ok.mp done
    cases done
    exact .candidateFailed _ (by simpa using newCandidate) rfl rfl
  · obtain ⟨current, _, done⟩ := bind_eq_ok.mp done
    split at done
    · cases done
      exact .kept
    · exact proposeCandidate_effect done

theorem decideCandidate_effect {candidateId : String} {decision : Decision}
    (done : decideCandidate services library principal candidateId decision = .ok after) :
    Effect library now (.decideCandidate principal candidateId decision) after := by
  unfold decideCandidate at done
  obtain ⟨_, permitted, done⟩ := bind_eq_ok.mp done
  obtain ⟨candidate, found, done⟩ := bind_eq_ok.mp done
  obtain ⟨_, _, done⟩ := bind_eq_ok.mp done
  obtain ⟨_, pending, done⟩ := bind_eq_ok.mp done
  obtain ⟨_, _, done⟩ := bind_eq_ok.mp done
  rw [rising_eq_ok, require_eq_ok] at found
  rw [rising_eq_ok, raiseIf_eq_ok, not_not] at pending
  cases done
  exact .decided candidate found (rateManager_eq_ok.mp permitted) pending

theorem activateCandidate_effect {candidateId : String}
    (done : activateCandidate services library principal candidateId = .ok after) :
    Effect library now (.activateCandidate principal candidateId) after := by
  unfold activateCandidate at done
  obtain ⟨_, _, done⟩ := bind_eq_ok.mp done
  obtain ⟨candidate, found, done⟩ := bind_eq_ok.mp done
  obtain ⟨_, approved, done⟩ := bind_eq_ok.mp done
  obtain ⟨versionId, linked, done⟩ := bind_eq_ok.mp done
  obtain ⟨_, _, done⟩ := bind_eq_ok.mp done
  obtain ⟨_, _, done⟩ := bind_eq_ok.mp done
  obtain ⟨activated, run, done⟩ := bind_eq_ok.mp done
  rw [rising_eq_ok, require_eq_ok] at found linked
  rw [rising_eq_ok, raiseIf_eq_ok, not_not] at approved
  obtain ⟨version, activatable, rfl⟩ := activateVersion_ok run
  have named := version?_id activatable.found
  rw [← named] at linked activatable
  cases done
  exact .candidatePublished candidate version found approved linked activatable

/-! ### Assignments -/

theorem book_version? (library : RateLibrary) (versionId : String) :
    library.book.version? versionId = (library.version? versionId).map fun version =>
      { id := version.id, ratePlanId := version.ratePlanId, status := version.status
        effectiveFrom := version.effectiveFrom, effectiveTo := version.effectiveTo, timezone := version.timezone
        isActive := version.isActive } := by
  simp only [RateBook.version?, RateLibrary.book, List.find?_map, RateLibrary.version?]
  rfl

theorem book_plan? (library : RateLibrary) (planId : String) :
    library.book.plan? planId = (library.plan? planId).map fun plan => { id := plan.id, status := plan.status } := by
  simp only [RateBook.plan?, RateLibrary.book, List.find?_map, RateLibrary.plan?]
  rfl

theorem documentErrors_eq_nil {text : IssueMessage → String} {versionId : String} {version : RateVersion}
    (found : library.version? versionId = some version) (clean : library.documentErrors text versionId = []) :
    library.Validates version := by
  unfold RateLibrary.documentErrors at clean
  rw [found, Option.bind_some] at clean
  split at clean
  · next document readable => exact ⟨document, readable, List.map_eq_nil_iff.mp clean⟩
  · cases clean

theorem checkVersion_assignable {request : AssignmentRequest}
    (ok : Assignments.checkVersion (assignmentServices services library) library.book request = .ok ()) :
    ∃ version, Assignable library request.rateVersionId version := by
  unfold Assignments.checkVersion at ok
  obtain ⟨_, _, ok⟩ := bind_eq_ok.mp ok
  obtain ⟨_, ok⟩ := raiseIf_bind_eq_ok.mp ok
  obtain ⟨_, ok⟩ := raiseIf_bind_eq_ok.mp ok
  obtain ⟨row, stored, ok⟩ := bind_eq_ok.mp ok
  obtain ⟨status, ok⟩ := raiseIf_bind_eq_ok.mp ok
  obtain ⟨planRow, planned, ok⟩ := bind_eq_ok.mp ok
  obtain ⟨available, ok⟩ := raiseIf_bind_eq_ok.mp ok
  have clean := raiseIf_eq_ok.mp ok
  rw [require_eq_ok, book_version?] at stored
  obtain ⟨version, found, rfl⟩ := Option.map_eq_some_iff.mp stored
  rw [require_eq_ok, book_plan?] at planned
  obtain ⟨plan, known, rfl⟩ := Option.map_eq_some_iff.mp planned
  rw [not_not] at status clean
  rw [not_or] at available
  have errors : library.documentErrors services.issueText request.rateVersionId = [] := version?_id found ▸ clean
  exact ⟨version, found, status, ⟨plan, known, available.1⟩, documentErrors_eq_nil found errors⟩

theorem assignRate_effect {request : AssignmentRequest} {id : String}
    (done : assignRate services library principal request id now = .ok after) :
    Effect library now (.assign principal request id) after := by
  unfold assignRate at done
  obtain ⟨_, _, done⟩ := bind_eq_ok.mp done
  obtain ⟨⟨receipt, book⟩, assigned, done⟩ := bind_eq_ok.mp done
  obtain ⟨stored, done⟩ := raiseIf_bind_eq_ok.mp done
  rw [continuing_eq_ok] at assigned
  rw [not_not] at stored
  cases done
  unfold Assignments.assignVersion at assigned
  split at assigned
  · cases assigned
    exact .kept
  · split at assigned
    · cases assigned
    · next placement ok =>
        cases assigned
        obtain ⟨_, checked, ok⟩ := bind_eq_ok.mp ok
        obtain ⟨version, assignable⟩ := checkVersion_assignable checked
        obtain ⟨account, known⟩ := Assignments.checkVersion_ok checked
        obtain ⟨proper, apart, placed⟩ := Assignments.placeWindow_ok ok
        exact .assigned version placement assignable ⟨account, known, proper, apart, placed⟩ stored

theorem endRate_effect {request : EndRequest} (done : endRate services library principal request now = .ok after) :
    Effect library now (.endAssignment principal request) after := by
  unfold endRate at done
  obtain ⟨_, _, done⟩ := bind_eq_ok.mp done
  obtain ⟨⟨row, book⟩, ended, done⟩ := bind_eq_ok.mp done
  obtain ⟨_, done⟩ := raiseIf_bind_eq_ok.mp done
  rw [continuing_eq_ok] at ended
  cases done
  obtain ⟨_, failed⟩ | ⟨_, current, _, listed, covers, written⟩ :=
    @Assignments.endAssignment_cases (assignmentServices services library) library.book now request
  · rw [failed] at ended
    cases ended
  · rw [written] at ended
    cases ended
    exact .ended current listed covers

theorem queueCostRun_effect {versionId : String} (done : queueCostRun library versionId = .ok after) :
    Effect library now (.queueCostRun versionId) after := by
  obtain ⟨version, found, done⟩ := bind_eq_ok.mp done
  cases done
  rw [version?_id (requireVersion_eq_ok.mp found)]
  exact .runQueued

theorem completeCostRun_effect {versionId : String} (done : completeCostRun library versionId = .ok after) :
    Effect library now (.completeCostRun versionId) after := by
  obtain ⟨queued, done⟩ := raiseIf_bind_eq_ok.mp done
  obtain ⟨version, found, done⟩ := bind_eq_ok.mp done
  cases done
  exact .runCompleted (not_not.mp queued) version (requireVersion_eq_ok.mp found)

end Success

theorem perform_effect {services : LibraryServices} {library after : RateLibrary} {now : Int} {action : LibraryAction}
    (done : perform services library now action = .ok after) : Effect library now action after := by
  cases action with
  | bootstrap => exact bootstrap_effect done
  | createRatePlan => exact createRatePlan_effect done
  | ensureBillRateDraft => exact ensureBillRateDraft_effect done
  | createPlanVersion => exact createPlanVersion_effect done
  | cloneRateVersion => exact cloneRateVersion_effect done
  | patchRateVersion => exact patchRateVersion_effect done
  | activateManagedVersion => exact activateManagedVersion_effect done
  | activateRateVersion => exact activateRateVersion_effect done
  | retireManagedVersion => exact retireManagedVersion_effect done
  | removeRateVersion => exact removeRateVersion_effect done
  | restoreRateVersion => exact restoreRateVersion_effect done
  | deleteDraftVersion => exact deleteDraftVersion_effect done
  | deleteRateVersionDraft => exact deleteRateVersionDraft_effect done
  | removeRatePlan => exact removeRatePlan_effect done
  | retireRatePlan => exact retireRatePlan_effect done
  | restoreRatePlan => exact restoreRatePlan_effect done
  | deleteUnusedRatePlanDraft => exact deleteUnusedRatePlanDraft_effect done
  | createCandidate => exact createCandidate_effect done
  | decideCandidate => exact decideCandidate_effect done
  | activateCandidate => exact activateCandidate_effect done
  | assign => exact assignRate_effect done
  | endAssignment => exact endRate_effect done
  | queueCostRun => exact queueCostRun_effect done
  | completeCostRun => exact completeCostRun_effect done

/-- A turn leaves the library as it was, or has an effect on it. -/
theorem advance_effect (state : Clocked) (turn : Turn) :
    Effect state.library (state.now + turn.elapsed) turn.action (advance state turn).library := by
  unfold advance
  dsimp only
  cases done : perform turn.services state.library (state.now + turn.elapsed) turn.action with
  | error failure => exact .kept
  | ok after => exact perform_effect done

end PowerMonitor.Lifecycle
