import PowerMonitor.Lifecycle.Immutability

/-! Validation and review of what goes live.

A version goes live when a request makes it active or assigns it. `activate_version` validates the document and looks at
the plan, but not at the status of the version nor at the candidate it came from; `activate_rate_version` looks at
nothing; and an assignment goes by the status of the version, which a restoration may have set to published after the
candidate was rejected.
-/

set_option autoImplicit false
namespace PowerMonitor.Lifecycle
open Library Rates
open Assignments (RatePlanStatus RateVersionStatus RateAssignment Principal)
open Pricing (CandidateStatus)

namespace RateLibrary
variable (library : RateLibrary)

/-- The latest decision on a candidate. -/
def latestDecision? (candidateId : String) : Option RateApprovalDecision :=
  (library.decisions.filter fun row => row.candidateId = candidateId).getLast?

/-- The latest decision is an approval by a principal who may approve, or the conditions of the automatic activation
were met. -/
def Reviewed (candidate : RateChangeCandidate) : Prop :=
  candidate.origin.Automatic ∨ ∃ decision ∈ library.latestDecision? candidate.id,
    decision.decision = .approve ∧ "rates.approve_candidates" ∈ decision.decidedBy.permissions

def Rejected (candidate : RateChangeCandidate) : Prop :=
  ∃ decision ∈ library.latestDecision? candidate.id, decision.decision = .reject

/-- The candidate a version came from, if there is one, is reviewed. -/
def OriginReviewed (versionId : String) : Prop :=
  ∀ candidate ∈ library.candidates, candidate.candidateRateVersionId = some versionId → library.Reviewed candidate

instance (candidate : RateChangeCandidate) : Decidable (library.Reviewed candidate) := inferInstanceAs (Decidable (_ ∨ _))

instance (candidate : RateChangeCandidate) : Decidable (library.Rejected candidate) :=
  inferInstanceAs (Decidable (∃ decision ∈ _, _))

instance (versionId : String) : Decidable (library.OriginReviewed versionId) :=
  inferInstanceAs (Decidable (∀ candidate ∈ _, _))

end RateLibrary

/-- The version is removed, retired or rejected. -/
def RateVersion.Gone (version : RateVersion) : Prop :=
  version.status ∈ [RateVersionStatus.removed, .retired, .rejected]

instance (version : RateVersion) : Decidable version.Gone := inferInstanceAs (Decidable (_ ∈ _))

/-- The plan of a version is neither removed nor retired. -/
def RateLibrary.PlanAvailable (library : RateLibrary) (planId : String) : Prop :=
  ∀ plan ∈ library.plan? planId, plan.status ∉ [RatePlanStatus.removed, .retired]

instance (library : RateLibrary) (planId : String) : Decidable (library.PlanAvailable planId) :=
  inferInstanceAs (Decidable (∀ plan ∈ _, _))

/-- What a version has to meet in order to go live. -/
structure Cleared (library : RateLibrary) (version : RateVersion) : Prop where
  validates : library.Validates version
  standing : ¬ version.Gone
  plan : library.PlanAvailable version.ratePlanId
  reviewed : library.OriginReviewed version.id

/-- What a request has made live was cleared: a version that it found, when it found it, and a version that it created,
as it left it and under the plan that it found. -/
structure LiveCleared (library after : RateLibrary) : Prop where
  activated : ∀ version ∈ library.rateVersions, version.isActive = false →
    (∃ row ∈ after.rateVersions, row.id = version.id ∧ row.isActive = true) → Cleared library version
  created : ∀ row ∈ after.rateVersions, row.isActive = true → library.version? row.id = none →
    Cleared after row ∧ library.PlanAvailable row.ratePlanId
  assigned : ∀ row ∈ after.rateAssignments, row.id ∉ library.rateAssignments.map RateAssignment.id →
    ∃ version, library.version? row.rateVersionId = some version ∧ Cleared library version

/-- The condition of a request: what is activated directly is cleared, with `activate_version` checking the document and
the plan by itself; an approved candidate is activated while its version is not gone; and a version whose candidate was
rejected is not assigned. -/
def ReviewSound (library : RateLibrary) (action : LibraryAction) : Prop :=
  match action with
  | .activateRateVersion _ versionId => ∀ version ∈ library.version? versionId, version.isActive = false →
      Cleared library version
  | .activateManagedVersion _ versionId => ∀ version ∈ library.version? versionId, version.isActive = false →
      ¬ version.Gone ∧ library.OriginReviewed version.id
  | .activateCandidate _ candidateId => ∀ candidate ∈ library.candidate? candidateId, candidate.status = .approved →
      ∀ versionId ∈ candidate.candidateRateVersionId, ∀ version ∈ library.version? versionId, version.isActive = false →
        ¬ version.Gone
  | .assign _ request _ => ∀ candidate ∈ library.candidates,
      candidate.candidateRateVersionId = some request.rateVersionId → ¬ library.Rejected candidate
  | _ => True

/-- The library is not seeded, and no cost run is completed: neither is a request of its users. -/
def Requested : LibraryAction → Prop
  | .bootstrap _ | .completeCostRun _ => False
  | _ => True

/-! ## What decisions leave behind -/

/-- The version is or was live, or may be once it is restored. -/
def RateVersion.Marked (version : RateVersion) : Prop :=
  version.isActive = true ∨ version.immutableAfterUse = true ∨ version.status ∈ Assignments.ASSIGNABLE_VERSION_STATUSES ∨
    ∃ status ∈ version.statusBeforeRemoval, status ∈ Assignments.ASSIGNABLE_VERSION_STATUSES

/-- Somebody, or the automatic activation, has decided on the candidate. -/
def RateLibrary.Considered (library : RateLibrary) (candidate : RateChangeCandidate) : Prop :=
  candidate.origin.Automatic ∨ ∃ decision ∈ library.decisions, decision.candidateId = candidate.id

structure Reviews (library : RateLibrary) : Prop where
  candidateIds : (library.candidates.map RateChangeCandidate.id).Nodup
  permitted : ∀ decision ∈ library.decisions, "rates.approve_candidates" ∈ decision.decidedBy.permissions
  approved : ∀ candidate ∈ library.candidates, candidate.status = .approved → library.Reviewed candidate
  known : ∀ candidate ∈ library.candidates, ∀ versionId ∈ candidate.candidateRateVersionId, versionId ∈ library.versionIds
  single : ∀ first ∈ library.candidates, ∀ second ∈ library.candidates, ∀ versionId,
    first.candidateRateVersionId = some versionId → second.candidateRateVersionId = some versionId → first.id = second.id
  considered : ∀ candidate ∈ library.candidates, ∀ version ∈ library.rateVersions,
    candidate.candidateRateVersionId = some version.id → version.Marked → library.Considered candidate

section Tables
variable {library after : RateLibrary}

theorem Reviewed.considered {candidate : RateChangeCandidate} (reviewed : library.Reviewed candidate) :
    library.Considered candidate := by
  rcases reviewed with automatic | ⟨decision, latest, _⟩
  · exact .inl automatic
  · have listed := List.mem_of_getLast? latest
    obtain ⟨stored, named⟩ := List.mem_filter.mp listed
    exact .inr ⟨decision, stored, of_decide_eq_true named⟩

/-- A candidate that is considered and not rejected is reviewed. -/
theorem Reviews.reviewed (reviews : Reviews library) {candidate : RateChangeCandidate}
    (considered : library.Considered candidate) (unrejected : ¬ library.Rejected candidate) : library.Reviewed candidate := by
  rcases considered with automatic | ⟨decision, stored, named⟩
  · exact .inl automatic
  · have present : library.decisions.filter (fun row => row.candidateId = candidate.id) ≠ [] :=
      List.ne_nil_of_mem (List.mem_filter.mpr ⟨stored, decide_eq_true named⟩)
    have latest := List.getLast?_eq_some_getLast present
    have kept := List.mem_of_mem_filter (List.getLast_mem present)
    refine .inr ⟨_, latest, ?_, reviews.permitted _ kept⟩
    cases verdict : (List.getLast _ present).decision with
    | approve => rfl
    | reject => exact absurd ⟨_, latest, verdict⟩ unrejected

/-- The rows of candidates and versions after a request come from rows before it. -/
structure Carried (library after : RateLibrary) : Prop where
  candidateIds : after.candidates.map RateChangeCandidate.id = library.candidates.map RateChangeCandidate.id
  decisions : after.decisions = library.decisions
  candidates : ∀ row ∈ after.candidates, ∃ old ∈ library.candidates, old.id = row.id ∧ old.origin = row.origin ∧
    (row.status = .approved → old.status = .approved) ∧
    ∀ versionId, row.candidateRateVersionId = some versionId →
      old.candidateRateVersionId = some versionId ∧ versionId ∈ after.versionIds
  versions : ∀ row ∈ after.rateVersions, row.Marked → ∃ old ∈ library.rateVersions, old.id = row.id ∧
    (old.Marked ∨ library.OriginReviewed old.id)

theorem Carried.reviewed_iff (carried : Carried library after) {row old : RateChangeCandidate} (id : old.id = row.id)
    (origin : old.origin = row.origin) : after.Reviewed row ↔ library.Reviewed old := by
  unfold RateLibrary.Reviewed RateLibrary.latestDecision?
  rw [carried.decisions, id, origin]

theorem Reviews.of_carried (reviews : Reviews library) (carried : Carried library after) : Reviews after where
  candidateIds := carried.candidateIds ▸ reviews.candidateIds
  permitted := carried.decisions ▸ reviews.permitted
  approved := by
    intro row stored approved
    obtain ⟨old, kept, id, origin, status, _⟩ := carried.candidates row stored
    exact (carried.reviewed_iff id origin).mpr (reviews.approved old kept (status approved))
  known := by
    intro row stored versionId linked
    obtain ⟨old, kept, _, _, _, links⟩ := carried.candidates row stored
    exact (links versionId linked).2
  single := by
    intro first firstIn second secondIn versionId firstLink secondLink
    obtain ⟨one, oneIn, oneId, _, _, oneLinks⟩ := carried.candidates first firstIn
    obtain ⟨two, twoIn, twoId, _, _, twoLinks⟩ := carried.candidates second secondIn
    rw [← oneId, ← twoId]
    exact reviews.single one oneIn two twoIn versionId (oneLinks versionId firstLink).1 (twoLinks versionId secondLink).1
  considered := by
    intro row stored version present linked marked
    obtain ⟨old, kept, id, origin, _, links⟩ := carried.candidates row stored
    obtain ⟨was, wasIn, wasId, justified⟩ := carried.versions version present marked
    have link : old.candidateRateVersionId = some was.id := by rw [wasId, (links version.id linked).1]
    have before : library.Considered old := by
      rcases justified with marked | reviewed
      · exact reviews.considered old kept was wasIn link marked
      · exact Reviewed.considered (reviewed old kept link)
    unfold RateLibrary.Considered at before ⊢
    rwa [carried.decisions, ← id, ← origin]

/-- The candidates are as they were, and no version is lost. -/
theorem Reviews.of_versions (reviews : Reviews library) (candidates : after.candidates = library.candidates)
    (decisions : after.decisions = library.decisions) (ids : ∀ versionId ∈ library.versionIds, versionId ∈ after.versionIds)
    (versions : ∀ row ∈ after.rateVersions, row.Marked → ∃ old ∈ library.rateVersions, old.id = row.id ∧
      (old.Marked ∨ library.OriginReviewed old.id)) : Reviews after := by
  refine reviews.of_carried ⟨by rw [candidates], decisions, ?_, versions⟩
  intro row stored
  rw [candidates] at stored
  refine ⟨row, stored, rfl, rfl, id, ?_⟩
  intro versionId linked
  exact ⟨linked, ids versionId (reviews.known row stored versionId linked)⟩

theorem Reviews.of_map (reviews : Reviews library) (change : RateVersion → RateVersion)
    (table : after.rateVersions = library.rateVersions.map change) (candidates : after.candidates = library.candidates)
    (decisions : after.decisions = library.decisions) (keeps : ∀ row, (change row).id = row.id)
    (marks : ∀ row ∈ library.rateVersions, (change row).Marked → row.Marked ∨ library.OriginReviewed row.id) :
    Reviews after := by
  refine reviews.of_versions candidates decisions ?_ ?_
  · intro versionId listed
    obtain ⟨row, stored, rfl⟩ := List.mem_map.mp listed
    rw [RateLibrary.versionIds, table]
    exact List.mem_map.mpr ⟨change row, List.mem_map_of_mem stored, keeps row⟩
  · intro row stored marked
    rw [table] at stored
    obtain ⟨old, member, rfl⟩ := List.mem_map.mp stored
    exact ⟨old, member, (keeps old).symm, marks old member marked⟩

theorem Reviews.of_update (reviews : Reviews library) {versionId : String} {write : RateVersion → RateVersion}
    (table : after.rateVersions = (library.updateVersion versionId write).rateVersions)
    (keeps : ∀ row, (write row).id = row.id)
    (marks : ∀ row ∈ library.rateVersions, row.id = versionId → (write row).Marked → row.Marked)
    (candidates : after.candidates = library.candidates) (decisions : after.decisions = library.decisions) :
    Reviews after := by
  refine reviews.of_map _ table candidates decisions ?_ ?_
  · intro row
    split
    · exact keeps row
    · rfl
  · intro row stored marked
    split at marked
    · next here => exact .inl (marks row stored here marked)
    · exact .inl marked

theorem Reviews.of_same (reviews : Reviews library) (table : after.rateVersions = library.rateVersions)
    (candidates : after.candidates = library.candidates) (decisions : after.decisions = library.decisions) :
    Reviews after := by
  refine reviews.of_versions candidates decisions ?_ ?_
  · intro versionId listed
    rwa [RateLibrary.versionIds, table]
  · intro row stored marked
    exact ⟨row, table ▸ stored, rfl, .inl marked⟩

theorem Reviews.of_append (reviews : Reviews library) {version : RateVersion} (unmarked : ¬ version.Marked)
    (table : after.rateVersions = library.rateVersions ++ [version]) (candidates : after.candidates = library.candidates)
    (decisions : after.decisions = library.decisions) : Reviews after := by
  refine reviews.of_versions candidates decisions ?_ ?_
  · intro versionId listed
    rw [RateLibrary.versionIds, table, List.map_append]
    exact List.mem_append_left _ listed
  · intro row stored marked
    rw [table, List.mem_append, List.mem_singleton] at stored
    rcases stored with old | rfl
    · exact ⟨row, old, rfl, .inl marked⟩
    · exact absurd marked unmarked

theorem Reviews.of_delete (reviews : Reviews library) {doomed : RateVersion → Bool}
    (table : after.rateVersions = (library.deleteVersions doomed).rateVersions)
    (candidates : after.candidates = (library.deleteVersions doomed).candidates)
    (decisions : after.decisions = library.decisions) : Reviews after := by
  refine reviews.of_carried ⟨?_, decisions, ?_, ?_⟩
  · rw [candidates, RateLibrary.deleteVersions, List.map_map]
    rfl
  · intro row stored
    rw [candidates] at stored
    obtain ⟨old, member, rfl⟩ := List.mem_map.mp stored
    refine ⟨old, member, rfl, rfl, id, ?_⟩
    intro versionId linked
    obtain ⟨link, spared⟩ := Option.filter_eq_some_iff.mp linked
    refine ⟨link, ?_⟩
    obtain ⟨version, present, rfl⟩ := List.mem_map.mp (reviews.known old member versionId link)
    -- The version is not among the deleted ones.
    have kept : version ∈ library.rateVersions.filter fun row => ¬ doomed row := by
      refine List.mem_filter.mpr ⟨present, ?_⟩
      by_contra dies
      have dead : version ∈ library.rateVersions.filter doomed := List.mem_filter.mpr ⟨present, by simpa using dies⟩
      exact of_decide_eq_true spared (List.mem_map_of_mem dead)
    rw [RateLibrary.versionIds, table]
    exact List.mem_map.mpr ⟨_, List.mem_map_of_mem kept, rfl⟩
  · intro row stored marked
    rw [table] at stored
    obtain ⟨old, member, rfl⟩ := List.mem_map.mp stored
    exact ⟨old, List.mem_of_mem_filter member, rfl, .inl marked⟩

/-- Publishing marks one version, and the others no more than before. -/
theorem publishRow_marked {version row : RateVersion} {automatically : Bool} (other : row.id ≠ version.id)
    (marked : (publishRow version automatically row).Marked) : row.Marked := by
  unfold publishRow at marked
  rw [if_neg other] at marked
  split at marked
  · next active => exact .inl active.2
  · exact marked

theorem Reviews.publish (reviews : Reviews library) {version : RateVersion} {automatically : Bool}
    (justified : version.Marked ∨ library.OriginReviewed version.id) (linked : Linked library) {versionId : String}
    (found : library.version? versionId = some version) : Reviews (library.publish version automatically) := by
  refine reviews.of_map (publishRow version automatically) rfl rfl rfl
    (fun row => (RateLibrary.publishRow_keys version row automatically).1) ?_
  intro row stored marked
  by_cases here : row.id = version.id
  · rwa [linked.row_eq found stored here]
  · exact .inl (publishRow_marked here marked)

theorem Reviews.flag (reviews : Reviews library) {version : RateVersion}
    (justified : version.Marked ∨ library.OriginReviewed version.id) (linked : Linked library) {versionId : String}
    (found : library.version? versionId = some version) : Reviews (library.flag version) := by
  refine reviews.of_map _ rfl rfl rfl ?_ ?_
  · intro row
    split <;> rfl
  · intro row stored marked
    by_cases here : row.id = version.id
    · rwa [linked.row_eq found stored here]
    · split at marked
      · refine .inl ?_
        rcases marked with active | rest
        · exact absurd (of_decide_eq_true active) here
        · exact .inr rest
      · exact .inl marked

/-- The status of a candidate moves on from approved. -/
theorem Reviews.close (reviews : Reviews library) {candidateId : String} {write : RateChangeCandidate → RateChangeCandidate}
    (keeps : ∀ row, (write row).id = row.id ∧ (write row).origin = row.origin ∧
      (write row).candidateRateVersionId = row.candidateRateVersionId ∧ (write row).status ≠ .approved) :
    Reviews (library.updateCandidate candidateId write) := by
  refine reviews.of_carried ⟨?_, rfl, ?_, fun row stored marked => ⟨row, stored, rfl, .inl marked⟩⟩
  · rw [RateLibrary.updateCandidate, List.map_map]
    refine List.map_congr_left fun row _ => ?_
    dsimp only [Function.comp]
    split
    · exact (keeps row).1
    · rfl
  · intro row stored
    obtain ⟨old, member, rfl⟩ := List.mem_map.mp stored
    refine ⟨old, member, ?_⟩
    split
    · obtain ⟨id, origin, link, closed⟩ := keeps old
      refine ⟨id.symm, origin.symm, fun approved => absurd approved closed, ?_⟩
      intro versionId linked
      rw [link] at linked
      exact ⟨linked, reviews.known old member versionId linked⟩
    · exact ⟨rfl, rfl, id, fun versionId linked => ⟨linked, reviews.known old member versionId linked⟩⟩

/-- A candidate that nobody has decided on, for no version or for one that only it refers to. -/
theorem Reviews.append_candidate (reviews : Reviews library) {candidate : RateChangeCandidate}
    (newCandidate : ∀ row ∈ library.candidates, row.id ≠ candidate.id) (undecided : candidate.status ≠ .approved)
    (link : ∀ versionId, candidate.candidateRateVersionId = some versionId → versionId ∈ library.versionIds ∧
      (∀ row ∈ library.candidates, row.candidateRateVersionId ≠ some versionId) ∧
      ∀ version ∈ library.rateVersions, version.id = versionId → ¬ version.Marked) :
    Reviews { library with candidates := library.candidates ++ [candidate] } where
  candidateIds := by
    rw [List.map_append, List.map_singleton, List.nodup_append]
    refine ⟨reviews.candidateIds, List.nodup_singleton _, ?_⟩
    intro first firstIn second secondIn
    obtain ⟨row, stored, rfl⟩ := List.mem_map.mp firstIn
    rw [List.mem_singleton.mp secondIn]
    exact newCandidate row stored
  permitted := reviews.permitted
  approved := by
    intro row stored approved
    rcases List.mem_append.mp stored with old | new
    · exact reviews.approved row old approved
    · rw [List.mem_singleton.mp new] at approved
      exact absurd approved undecided
  known := by
    intro row stored versionId linked
    rcases List.mem_append.mp stored with old | new
    · exact reviews.known row old versionId linked
    · rw [List.mem_singleton.mp new] at linked
      exact (link versionId linked).1
  single := by
    intro first firstIn second secondIn versionId firstLink secondLink
    rcases List.mem_append.mp firstIn with firstOld | firstNew <;>
      rcases List.mem_append.mp secondIn with secondOld | secondNew
    · exact reviews.single first firstOld second secondOld versionId firstLink secondLink
    · rw [List.mem_singleton.mp secondNew] at secondLink
      exact absurd firstLink ((link versionId secondLink).2.1 first firstOld)
    · rw [List.mem_singleton.mp firstNew] at firstLink
      exact absurd secondLink ((link versionId firstLink).2.1 second secondOld)
    · rw [List.mem_singleton.mp firstNew, List.mem_singleton.mp secondNew]
  considered := by
    intro row stored version present linked marked
    rcases List.mem_append.mp stored with old | new
    · exact reviews.considered row old version present linked marked
    · rw [List.mem_singleton.mp new] at linked
      exact absurd marked ((link version.id linked).2.2 version present rfl)

theorem RateVersion.Proposed.unmarked {version : RateVersion} (proposed : version.Proposed) : ¬ version.Marked := by
  have undecided := proposed.undecided
  simp only [List.mem_cons, List.not_mem_nil, or_false] at undecided
  rintro (active | used | assignable | ⟨status, kept, _⟩)
  · rw [proposed.inactive] at active
    cases active
  · rw [proposed.unused] at used
    cases used
  · rcases undecided with same | same <;> rw [same] at assignable <;> exact absurd assignable (by decide)
  · rw [proposed.kept] at kept
    cases kept

theorem RateVersion.Fresh.unmarked {version : RateVersion} (fresh : version.Fresh) : ¬ version.Marked := by
  rintro (active | used | assignable | ⟨status, kept, _⟩)
  · rw [fresh.inactive] at active
    cases active
  · rw [fresh.unused] at used
    cases used
  · rw [fresh.draft] at assignable
    exact absurd assignable (by decide)
  · rw [fresh.kept] at kept
    cases kept

theorem Reviews.add (reviews : Reviews library) {version : RateVersion} {candidate : RateChangeCandidate}
    (added : CandidateAdded library version candidate after) (proposed : version.Proposed)
    (linked : candidate.candidateRateVersionId = some version.id) (undecided : candidate.status ≠ .approved) :
    Reviews after := by
  obtain ⟨conflicts, risk, sources, rfl⟩ := added.written
  let joined : RateLibrary := { library with rateVersions := library.rateVersions ++ [version], sources := sources }
  have known : ∀ row ∈ library.candidates, ∀ versionId ∈ row.candidateRateVersionId, versionId ∈ joined.versionIds := by
    intro row stored versionId link
    have listed := reviews.known row stored versionId link
    rw [RateLibrary.versionIds, List.map_append]
    exact List.mem_append_left _ listed
  have kept (row : RateChangeCandidate) : ∀ other, other = (if row.id ∈ conflicts then blockedBy candidate.id row else row) →
      other.id = row.id ∧ other.origin = row.origin ∧ other.status = row.status ∧
        other.candidateRateVersionId = row.candidateRateVersionId := by
    rintro other rfl
    split <;> exact ⟨rfl, rfl, rfl, rfl⟩
  -- The conflicting candidates are blocked, which none of the invariants reads.
  have blocked : Reviews { joined with candidates := library.candidates.map fun other =>
      if other.id ∈ conflicts then blockedBy candidate.id other else other } := by
    have base : Reviews joined := reviews.of_append proposed.unmarked rfl rfl rfl
    refine base.of_carried ⟨?_, rfl, ?_, fun row stored marked => ⟨row, stored, rfl, .inl marked⟩⟩
    · rw [List.map_map]
      exact List.map_congr_left fun row _ => (kept row _ rfl).1
    · intro row stored
      obtain ⟨old, member, same⟩ := List.mem_map.mp stored
      obtain ⟨id, origin, status, link⟩ := kept old row same.symm
      refine ⟨old, member, id.symm, origin.symm, fun approved => status ▸ approved, ?_⟩
      intro versionId points
      rw [link] at points
      exact ⟨points, known old member versionId points⟩
  refine @Reviews.append_candidate _ blocked { candidate with riskLevel := risk, conflictingCandidateIds := conflicts } ?_
    undecided ?_
  · intro row stored
    obtain ⟨old, member, same⟩ := List.mem_map.mp stored
    rw [(kept old row same.symm).1]
    exact added.newCandidate old member
  · intro versionId points
    cases points.symm.trans linked
    refine ⟨by simp [joined, RateLibrary.versionIds], ?_, ?_⟩
    · intro row stored link
      obtain ⟨old, member, same⟩ := List.mem_map.mp stored
      rw [(kept old row same.symm).2.2.2] at link
      obtain ⟨other, present, id⟩ := List.mem_map.mp (reviews.known old member version.id link)
      exact added.newVersion other present id
    · intro row stored named
      rcases List.mem_append.mp stored with old | new
      · exact absurd named (added.newVersion row old)
      · rw [List.mem_singleton.mp new]
        exact proposed.unmarked

/-- The new candidate is there, with its link and its origin. -/
theorem CandidateAdded.candidate_mem {version : RateVersion} {candidate : RateChangeCandidate}
    (added : CandidateAdded library version candidate after) : ∃ row ∈ after.candidates,
      row.candidateRateVersionId = candidate.candidateRateVersionId ∧ row.origin = candidate.origin := by
  obtain ⟨conflicts, risk, sources, rfl⟩ := added.written
  exact ⟨_, List.mem_append_right _ (List.mem_singleton_self _), rfl, rfl⟩

/-! ## Decisions -/

theorem latestDecision?_append {decisions : List RateApprovalDecision} {decision : RateApprovalDecision}
    (table : after.decisions = decisions ++ [decision]) (candidateId : String) : after.latestDecision? candidateId =
      if decision.candidateId = candidateId then some decision
      else (decisions.filter fun row => row.candidateId = candidateId).getLast? := by
  rw [RateLibrary.latestDecision?, table, List.filter_append]
  split
  · next same => simp [same]
  · next other => simp [other]

theorem recordDecision_candidates {candidate : RateChangeCandidate} {decision : Decision} {principal : Principal} :
    (library.recordDecision candidate decision principal).candidates =
        (library.updateCandidate candidate.id (decidedCandidate decision)).candidates ∧
      (library.recordDecision candidate decision principal).decisions =
        library.decisions ++ [⟨candidate.id, decision, principal⟩] := by
  unfold RateLibrary.recordDecision
  cases candidate.candidateRateVersionId <;> exact ⟨rfl, rfl⟩

theorem Reviews.decide (reviews : Reviews library) {candidate : RateChangeCandidate} {decision : Decision}
    {principal : Principal} (stored : candidate ∈ library.candidates)
    (permitted : "rates.approve_candidates" ∈ principal.permissions) :
    Reviews (library.recordDecision candidate decision principal) := by
  obtain ⟨table, decisions⟩ := @recordDecision_candidates library candidate decision principal
  have rows : ∀ row ∈ (library.recordDecision candidate decision principal).candidates, ∃ old ∈ library.candidates,
      old.id = row.id ∧ old.origin = row.origin ∧ old.candidateRateVersionId = row.candidateRateVersionId ∧
        (row.id = candidate.id → row.status = .approved → decision = .approve) ∧ (row.id ≠ candidate.id → row = old) := by
    intro row member
    rw [table] at member
    obtain ⟨old, kept, rfl⟩ := List.mem_map.mp member
    refine ⟨old, kept, ?_⟩
    split
    · next here =>
        refine ⟨rfl, rfl, rfl, ?_, fun other => absurd here other⟩
        cases decision <;> simp [decidedCandidate]
    · next other => exact ⟨rfl, rfl, rfl, fun here => absurd here other, fun _ => rfl⟩
  have ids : (library.recordDecision candidate decision principal).versionIds = library.versionIds := by
    rw [RateLibrary.versionIds, recordDecision_rows, List.map_map]
    refine List.map_congr_left fun row _ => ?_
    dsimp only [Function.comp]
    split <;> rfl
  constructor
  · rw [table, RateLibrary.updateCandidate, List.map_map]
    refine (List.map_congr_left fun row _ => ?_) ▸ reviews.candidateIds
    dsimp only [Function.comp]
    split <;> rfl
  · intro row listed
    rw [decisions, List.mem_append, List.mem_singleton] at listed
    rcases listed with old | rfl
    · exact reviews.permitted row old
    · exact permitted
  · intro row member approved
    obtain ⟨old, kept, id, origin, link, decided, same⟩ := rows row member
    by_cases here : row.id = candidate.id
    · refine .inr ⟨⟨candidate.id, decision, principal⟩, ?_, decided here approved, permitted⟩
      rw [latestDecision?_append decisions, if_pos here.symm]
      rfl
    · rw [same here] at approved ⊢
      have before := reviews.approved old kept approved
      unfold RateLibrary.Reviewed at before ⊢
      rwa [latestDecision?_append decisions, if_neg (by rw [← same here]; exact fun equal => here equal.symm)]
  · intro row member versionId points
    obtain ⟨old, kept, _, _, link, _⟩ := rows row member
    rw [ids]
    exact reviews.known old kept versionId (link ▸ points)
  · intro first firstIn second secondIn versionId firstLink secondLink
    obtain ⟨one, oneIn, oneId, _, oneLink, _⟩ := rows first firstIn
    obtain ⟨two, twoIn, twoId, _, twoLink, _⟩ := rows second secondIn
    rw [← oneId, ← twoId]
    exact reviews.single one oneIn two twoIn versionId (oneLink.trans firstLink) (twoLink.trans secondLink)
  · intro row member version present linked marked
    obtain ⟨old, kept, id, origin, link, _⟩ := rows row member
    by_cases here : row.id = candidate.id
    · refine .inr ⟨⟨candidate.id, decision, principal⟩, ?_, here.symm⟩
      rw [decisions]
      exact List.mem_append_right _ (List.mem_singleton_self _)
    · -- The version of another candidate keeps its status.
      rw [recordDecision_rows] at present
      obtain ⟨was, wasIn, rfl⟩ := List.mem_map.mp present
      have untouched : candidate.candidateRateVersionId ≠ some was.id := by
        intro mine
        have points : old.candidateRateVersionId = some was.id := by
          rw [link, linked]
          split <;> rfl
        exact here (id ▸ reviews.single old kept candidate stored was.id points mine)
      rw [if_neg untouched] at linked marked
      have before := reviews.considered old kept was wasIn (link.trans linked) marked
      rcases before with automatic | ⟨decision, listed, named⟩
      · exact .inl (origin ▸ automatic)
      · refine .inr ⟨decision, ?_, named.trans id⟩
        rw [decisions]
        exact List.mem_append_left _ listed

end Tables

/-! ## The effects -/

section Effects
variable {library after : RateLibrary} {now : Int} {action : LibraryAction}

/-- An approved candidate is the only one of its version. -/
theorem Reviews.originReviewed (reviews : Reviews library) {candidate : RateChangeCandidate} {versionId : String}
    (stored : candidate ∈ library.candidates) (linked : candidate.candidateRateVersionId = some versionId)
    (reviewed : library.Reviewed candidate) : library.OriginReviewed versionId := by
  intro other present points
  have same : other = candidate :=
    List.inj_on_of_nodup_map reviews.candidateIds present stored (reviews.single other present candidate stored versionId
      points linked)
  exact same ▸ reviewed

/-- Where the condition is only asked of an inactive version, an active one is marked. -/
theorem marked_or_reviewed {version : RateVersion} (condition : version.isActive = false → library.OriginReviewed version.id) :
    version.Marked ∨ library.OriginReviewed version.id := by
  cases active : version.isActive with
  | true => exact .inl (.inl active)
  | false => exact .inr (condition active)

theorem restored_marked {version : RateVersion} (marked : (restoredRow version).Marked) : version.Marked := by
  rcases marked with active | used | assignable | ⟨status, kept, _⟩
  · exact .inl active
  · exact .inr (.inl used)
  · change restoredStatus version ∈ _ at assignable
    unfold restoredStatus at assignable
    -- A used version becomes published; otherwise the former status decides.
    split at assignable <;> try split at assignable
    all_goals first
      | exact .inr (.inl ‹_›)
      | exact absurd assignable (by decide)
      | exact .inr (.inr (.inr ⟨_, ‹_›, assignable⟩))
  · cases kept

theorem Effect.reviews (effect : Effect library now action after) (linked : Linked library) (reviews : Reviews library)
    (requested : Requested action) (sound : ReviewSound library action) : Reviews after := by
  cases effect with
  | kept => exact reviews
  | bootstrapped => exact requested.elim
  | planCreated plan version sources bills newPlan _ newVersion fresh => exact reviews.of_append fresh.unmarked rfl rfl rfl
  | versionCreated version newVersion fresh => exact reviews.of_append fresh.unmarked rfl rfl rfl
  | edited version plan found draft inactive unused =>
      exact reviews.of_update rfl (fun _ => rfl) (fun row _ _ marked => marked) rfl rfl
  | published version activatable =>
      exact reviews.publish (marked_or_reviewed fun inactive => (sound version activatable.found inactive).2) linked
        activatable.found
  | flagged version found =>
      exact reviews.flag (marked_or_reviewed fun inactive => (sound version found inactive).reviewed) linked found
  | retired version found clear =>
      refine reviews.of_update retireVersion_rows (fun _ => rfl) ?_ ?_ ?_
      · rintro row _ _ (active | used | assignable | kept)
        · cases active
        · exact .inr (.inl used)
        · exact absurd assignable (by simp [retiredRow, Assignments.ASSIGNABLE_VERSION_STATUSES])
        · exact .inr (.inr (.inr kept))
      all_goals
        unfold RateLibrary.retireVersion
        dsimp only
        split <;> rfl
  | removed version found =>
      refine reviews.of_update rfl (fun _ => rfl) ?_ rfl rfl
      rintro row _ _ (active | used | assignable | ⟨status, kept, assignable⟩)
      · cases active
      · exact .inr (.inl used)
      · exact absurd assignable (by simp [removedRow, Assignments.ASSIGNABLE_VERSION_STATUSES])
      · cases kept
        exact .inr (.inr (.inl assignable))
  | restored version found gone =>
      exact reviews.of_update rfl (fun _ => rfl) (fun row _ _ marked => restored_marked marked) rfl rfl
  | deletedDraft version _ _ _ => exact reviews.of_delete rfl rfl rfl
  | deletedEligible version _ _ => exact reviews.of_delete rfl rfl rfl
  | deletedPlan plan _ _ _ _ => exact reviews.of_delete rfl rfl rfl
  | planRemoved plan status _ _ => exact reviews.of_same rfl rfl rfl
  | planRestored plan _ => exact reviews.of_same rfl rfl rfl
  | candidateFailed candidate newCandidate unlinked closed =>
      refine reviews.append_candidate newCandidate (by simp [closed]) ?_
      intro versionId points
      rw [unlinked] at points
      cases points
  | candidateCreated version candidate created added proposed link undecided =>
      refine reviews.add added proposed link ?_
      intro approved
      simp [approved] at undecided
  | candidateActivated version candidate created added proposed link automatic valid activatable undecided =>
      have joined : Linked created := by
        obtain ⟨_, _, _, rfl⟩ := added.written
        exact linked.append_version added.newVersion rfl rfl rfl rfl
      have proposals : Reviews created := reviews.add added proposed link fun approved => by simp [approved] at undecided
      have reviewed : created.OriginReviewed version.id := by
        obtain ⟨row, stored, points, origin⟩ := added.candidate_mem
        exact proposals.originReviewed stored (points.trans link) (.inl (origin ▸ automatic))
      exact (proposals.publish (.inr reviewed) joined activatable.found).close fun _ => ⟨rfl, rfl, rfl, nofun⟩
  | decided candidate found permitted pending => exact reviews.decide (candidate?_mem found) permitted
  | candidatePublished candidate version found approved link activatable =>
      have stored := candidate?_mem found
      have reviewed := reviews.originReviewed stored link (reviews.approved candidate stored approved)
      exact (reviews.publish (.inr reviewed) linked activatable.found).close fun _ => ⟨rfl, rfl, rfl, nofun⟩
  | assigned => exact reviews.of_same rfl rfl rfl
  | ended => exact reviews.of_same rfl rfl rfl
  | runQueued => exact reviews.of_same rfl rfl rfl
  | runCompleted => exact requested.elim

/-- What is active afterwards was active or cleared before, and no assignment is new. -/
theorem LiveCleared.of_rows (linked : Linked library) (rows : ∀ row ∈ after.rateVersions, row.isActive = true →
      ∃ old ∈ library.rateVersions, old.id = row.id ∧ (old.isActive = false → Cleared library old))
    (assignments : ∀ row ∈ after.rateAssignments, row.id ∉ library.rateAssignments.map RateAssignment.id →
      ∃ version, library.version? row.rateVersionId = some version ∧ Cleared library version) :
    LiveCleared library after where
  activated := by
    rintro version stored inactive ⟨row, present, named, active⟩
    obtain ⟨old, kept, id, cleared⟩ := rows row present active
    have same : old = version := List.inj_on_of_nodup_map linked.versionIds kept stored (id.trans named)
    exact same ▸ cleared (same ▸ inactive)
  created := by
    intro row present active missing
    obtain ⟨old, kept, id, _⟩ := rows row present active
    rw [← id, linked.version?_eq kept] at missing
    cases missing
  assigned := assignments

/-- The same assignments, and nothing active that was not. -/
theorem LiveCleared.of_quiet (linked : Linked library) (rows : ∀ row ∈ after.rateVersions, row.isActive = true →
      ∃ old ∈ library.rateVersions, old.id = row.id ∧ old.isActive = true)
    (assignments : after.rateAssignments = library.rateAssignments) : LiveCleared library after := by
  refine .of_rows linked ?_ ?_
  · intro row present active
    obtain ⟨old, kept, id, wasActive⟩ := rows row present active
    exact ⟨old, kept, id, fun inactive => absurd (inactive.symm.trans wasActive) nofun⟩
  · intro row stored new
    rw [assignments] at stored
    exact absurd (List.mem_map_of_mem stored) new

theorem quiet_of_map {change : RateVersion → RateVersion} (table : after.rateVersions = library.rateVersions.map change)
    (keeps : ∀ row ∈ library.rateVersions, (change row).id = row.id ∧ ((change row).isActive = true → row.isActive = true)) :
    ∀ row ∈ after.rateVersions, row.isActive = true → ∃ old ∈ library.rateVersions, old.id = row.id ∧ old.isActive = true := by
  intro row present active
  rw [table] at present
  obtain ⟨old, kept, rfl⟩ := List.mem_map.mp present
  exact ⟨old, kept, (keeps old kept).1.symm, (keeps old kept).2 active⟩

theorem quiet_of_update {versionId : String} {write : RateVersion → RateVersion}
    (table : after.rateVersions = (library.updateVersion versionId write).rateVersions)
    (keeps : ∀ row, (write row).id = row.id ∧ ((write row).isActive = true → row.isActive = true)) :
    ∀ row ∈ after.rateVersions, row.isActive = true → ∃ old ∈ library.rateVersions, old.id = row.id ∧ old.isActive = true := by
  refine quiet_of_map table fun row _ => ?_
  split
  · exact keeps row
  · exact ⟨rfl, id⟩

theorem quiet_of_append {version : RateVersion} (inactive : version.isActive = false)
    (table : after.rateVersions = library.rateVersions ++ [version]) :
    ∀ row ∈ after.rateVersions, row.isActive = true → ∃ old ∈ library.rateVersions, old.id = row.id ∧ old.isActive = true := by
  intro row present active
  rw [table, List.mem_append, List.mem_singleton] at present
  rcases present with old | rfl
  · exact ⟨row, old, rfl, active⟩
  · rw [inactive] at active
    cases active

theorem quiet_of_delete {doomed : RateVersion → Bool}
    (table : after.rateVersions = (library.deleteVersions doomed).rateVersions) :
    ∀ row ∈ after.rateVersions, row.isActive = true → ∃ old ∈ library.rateVersions, old.id = row.id ∧ old.isActive = true := by
  intro row present active
  rw [table] at present
  obtain ⟨old, kept, rfl⟩ := List.mem_map.mp present
  exact ⟨old, List.mem_of_mem_filter kept, rfl, active⟩

/-- Publishing a version of the library. -/
theorem LiveCleared.publish (linked : Linked library) {versionId : String} {version : RateVersion} {automatically : Bool}
    (found : library.version? versionId = some version) (cleared : version.isActive = false → Cleared library version)
    (table : after.rateVersions = library.rateVersions.map (publishRow version automatically))
    (assignments : after.rateAssignments = library.rateAssignments) : LiveCleared library after := by
  refine .of_rows linked ?_ ?_
  · intro row present active
    rw [table] at present
    obtain ⟨old, kept, rfl⟩ := List.mem_map.mp present
    refine ⟨old, kept, (RateLibrary.publishRow_keys version old automatically).1.symm, fun inactive => ?_⟩
    rcases publishRow_active active with here | ⟨_, wasActive, _⟩
    · cases linked.row_eq found kept here
      exact cleared inactive
    · exact absurd (inactive.symm.trans wasActive) nofun
  · intro row stored new
    rw [assignments] at stored
    exact absurd (List.mem_map_of_mem stored) new

theorem LiveCleared.flag (linked : Linked library) {versionId : String} {version : RateVersion}
    (found : library.version? versionId = some version) (cleared : version.isActive = false → Cleared library version) :
    LiveCleared library (library.flag version) := by
  refine .of_rows linked ?_ fun row stored new => absurd (List.mem_map_of_mem stored) new
  intro row present active
  obtain ⟨old, kept, rfl⟩ := List.mem_map.mp present
  refine ⟨old, kept, by split <;> rfl, fun inactive => ?_⟩
  split at active
  · cases linked.row_eq found kept (of_decide_eq_true active)
    exact cleared inactive
  · exact absurd (inactive.symm.trans active) nofun

/-- `activate_version` has checked the document and the plan. -/
theorem Activatable.cleared {versionId : String} {version : RateVersion}
    (activatable : Activatable library versionId version) (standing : ¬ version.Gone)
    (reviewed : library.OriginReviewed version.id) : Cleared library version where
  validates := activatable.validates
  standing := standing
  plan := by
    obtain ⟨plan, known, available⟩ := activatable.available
    rintro other found
    cases found.symm.trans known
    exact available
  reviewed := reviewed

theorem publish_plan? {version : RateVersion} {automatically : Bool} (planId : String) :
    (library.publish version automatically).plan? planId = (library.plan? planId).map fun plan =>
      if plan.id = version.ratePlanId then { plan with status := .active } else plan := by
  simp only [RateLibrary.plan?, RateLibrary.publish, RateLibrary.updatePlan, List.find?_map]
  congr 2
  funext plan
  dsimp only [Function.comp]
  split <;> rfl

/-- The document of a version depends on the plans, and on nothing else of the library. -/
theorem validates_congr {version : RateVersion} (plans : after.ratePlans = library.ratePlans) :
    after.Validates version ↔ library.Validates version := by
  simp only [RateLibrary.Validates, RateLibrary.versionDocument?, RateLibrary.plan?, plans]

theorem publish_validates {version : RateVersion} {automatically : Bool} (validates : library.Validates version) :
    (library.publish version automatically).Validates (publishRow version automatically version) := by
  have published : publishRow version automatically version =
      { version with isActive := true, status := .published, immutableAfterUse := true
                     automaticallyActivated := automatically } := if_pos rfl
  have same : (library.publish version automatically).versionDocument? (publishRow version automatically version) =
      library.versionDocument? version := by
    rw [published]
    unfold RateLibrary.versionDocument?
    dsimp only
    split
    · rfl
    · rw [publish_plan?]
      cases library.plan? version.ratePlanId with
      | none => rfl
      | some plan =>
          dsimp only [Option.map_some, Option.bind_eq_bind, Option.bind_some]
          split <;> rfl
  unfold RateLibrary.Validates
  rw [same]
  exact validates

/-- The candidate that is activated at once. -/
theorem LiveCleared.automatic {version : RateVersion} {candidate : RateChangeCandidate} {created : RateLibrary}
    (added : CandidateAdded library version candidate created) (proposed : version.Proposed)
    (activatable : Activatable created version.id version) (base : Linked library) (linked : Linked created)
    (table : after.rateVersions = (created.publish version true).rateVersions)
    (plans : after.ratePlans = (created.publish version true).ratePlans)
    (assignments : after.rateAssignments = library.rateAssignments) (reviewed : after.OriginReviewed version.id) :
    LiveCleared library after := by
  obtain ⟨conflicts, risk, sources, created_eq⟩ := added.written
  have ownRows : ∀ row ∈ after.rateVersions, row.isActive = true →
      row = publishRow version true version ∨ ∃ old ∈ library.rateVersions, old.id = row.id ∧ old.isActive = true := by
    intro row present active
    rw [table] at present
    obtain ⟨old, kept, rfl⟩ := List.mem_map.mp present
    rcases publishRow_active active with here | ⟨_, wasActive, same⟩
    · exact .inl (congrArg _ (linked.row_eq activatable.found kept here))
    · rw [same]
      rw [created_eq, List.mem_append, List.mem_singleton] at kept
      rcases kept with older | rfl
      · exact .inr ⟨old, older, rfl, wasActive⟩
      · exact absurd (proposed.inactive.symm.trans wasActive) nofun
  have id : (publishRow version true version).id = version.id := (RateLibrary.publishRow_keys version version true).1
  have planId : (publishRow version true version).ratePlanId = version.ratePlanId :=
    (RateLibrary.publishRow_keys version version true).2
  have planOf : after.plan? version.ratePlanId = (created.publish version true).plan? version.ratePlanId := by
    rw [RateLibrary.plan?, plans]
    rfl
  obtain ⟨plan, known, available⟩ := activatable.available
  constructor
  · rintro old stored inactive ⟨row, present, named, active⟩
    -- A version of the library is not the new one, and only the new one is made active.
    rcases ownRows row present active with rfl | ⟨older, kept, same, wasActive⟩
    · exact absurd (named.symm.trans id) (added.newVersion old stored)
    · have same : older = old := List.inj_on_of_nodup_map base.versionIds kept stored (same.trans named)
      rw [same, inactive] at wasActive
      cases wasActive
  · intro row present active missing
    rcases ownRows row present active with rfl | ⟨older, kept, same, _⟩
    · rw [planId]
      refine ⟨⟨(validates_congr plans).mpr (publish_validates activatable.validates), ?_, ?_, id.symm ▸ reviewed⟩, ?_⟩
      · rw [RateVersion.Gone, publishRow, if_pos rfl]
        simp
      · rintro other found
        rw [planId, planOf, publish_plan?, known, Option.map_some] at found
        rw [← Option.some.inj found, if_pos (plan?_id known)]
        simp
      · rintro other found
        rw [created_eq] at known
        cases found.symm.trans known
        exact available
    · rw [← same, base.version?_eq kept] at missing
      cases missing
  · intro row stored new
    rw [assignments] at stored
    exact absurd (List.mem_map_of_mem stored) new

theorem rewritten_id {change : RateAssignment → RateAssignment} {rows : List RateAssignment}
    (rewrites : Assignments.Rewrites change rows) {row : RateAssignment} (member : row ∈ rows.map change) :
    row.id ∈ rows.map RateAssignment.id := by
  obtain ⟨old, stored, rfl⟩ := List.mem_map.mp member
  exact List.mem_map.mpr ⟨old, stored, (rewrites.continues old stored).id.symm⟩

/-- `assign_version` has checked the document, the status and the plan. That the candidate was considered follows from
the status. -/
theorem Assignable.cleared {versionId : String} {version : RateVersion} (assignable : Assignable library versionId version)
    (reviews : Reviews library) (unrejected : ∀ candidate ∈ library.candidates,
      candidate.candidateRateVersionId = some versionId → ¬ library.Rejected candidate) : Cleared library version where
  validates := assignable.validates
  standing := by
    intro gone
    have listed := assignable.status
    simp only [RateVersion.Gone, Assignments.ASSIGNABLE_VERSION_STATUSES, List.mem_cons, List.not_mem_nil, or_false]
      at gone listed
    rcases gone with same | same | same <;> rw [same] at listed <;> simp at listed
  plan := by
    obtain ⟨plan, known, available⟩ := assignable.available
    rintro other found
    cases found.symm.trans known
    exact available
  reviewed := by
    intro candidate stored link
    have considered := reviews.considered candidate stored version (version?_mem assignable.found) link
      (.inr (.inr (.inl assignable.status)))
    exact reviews.reviewed considered (unrejected candidate stored (version?_id assignable.found ▸ link))

theorem Effect.liveCleared (effect : Effect library now action after) (linked : Linked library) (reviews : Reviews library)
    (requested : Requested action) (sound : ReviewSound library action) : LiveCleared library after := by
  have quiet : ∀ row ∈ library.rateVersions, row.isActive = true → ∃ old ∈ library.rateVersions, old.id = row.id ∧
      old.isActive = true := fun row stored active => ⟨row, stored, rfl, active⟩
  have reviewsAfter := effect.reviews linked reviews requested sound
  cases effect with
  | kept => exact .of_quiet linked quiet rfl
  | bootstrapped => exact requested.elim
  | planCreated plan version sources bills newPlan _ newVersion fresh =>
      exact .of_quiet linked (quiet_of_append fresh.inactive rfl) rfl
  | versionCreated version newVersion fresh => exact .of_quiet linked (quiet_of_append fresh.inactive rfl) rfl
  | edited version plan found draft inactive unused =>
      exact .of_quiet linked (@quiet_of_update library _ _ _ rfl fun _ => ⟨rfl, id⟩) rfl
  | published version activatable =>
      refine .publish linked activatable.found (fun inactive => ?_) rfl rfl
      obtain ⟨standing, reviewed⟩ := sound version activatable.found inactive
      exact activatable.cleared standing reviewed
  | flagged version found => exact .flag linked found (sound version found)
  | retired version found clear =>
      refine .of_quiet linked (@quiet_of_update library _ _ _ retireVersion_rows fun _ => ⟨rfl, nofun⟩) ?_
      unfold RateLibrary.retireVersion
      dsimp only
      split <;> rfl
  | removed version found => exact .of_quiet linked (@quiet_of_update library _ _ _ rfl fun _ => ⟨rfl, nofun⟩) rfl
  | restored version found gone => exact .of_quiet linked (@quiet_of_update library _ _ _ rfl fun _ => ⟨rfl, id⟩) rfl
  | deletedDraft version _ _ _ => exact .of_quiet linked (quiet_of_delete rfl) rfl
  | deletedEligible version _ _ => exact .of_quiet linked (quiet_of_delete rfl) rfl
  | deletedPlan plan _ _ _ _ => exact .of_quiet linked (@quiet_of_delete library _ _ rfl) rfl
  | planRemoved plan status _ _ => exact .of_quiet linked quiet rfl
  | planRestored plan _ => exact .of_quiet linked quiet rfl
  | candidateFailed candidate newCandidate unlinked closed => exact .of_quiet linked quiet rfl
  | candidateCreated version candidate created added proposed link undecided =>
      obtain ⟨_, _, _, rfl⟩ := added.written
      exact .of_quiet linked (quiet_of_append proposed.inactive rfl) rfl
  | candidateActivated version candidate created added proposed link automatic valid activatable undecided =>
      have joined : Linked created := by
        obtain ⟨_, _, _, rfl⟩ := added.written
        exact linked.append_version added.newVersion rfl rfl rfl rfl
      have kept : created.rateAssignments = library.rateAssignments := by
        obtain ⟨_, _, _, rfl⟩ := added.written
        rfl
      refine .automatic added proposed activatable linked joined rfl rfl kept ?_
      obtain ⟨row, stored, points, origin⟩ := added.candidate_mem
      -- The row of the candidate is written once more, with its link and its origin.
      refine reviewsAfter.originReviewed (List.mem_map_of_mem stored) ?_ (.inl ?_)
      · split <;> exact points.trans link
      · split <;> exact origin ▸ automatic
  | decided candidate found permitted pending =>
      refine .of_quiet linked (quiet_of_map recordDecision_rows fun row _ => ?_) ?_
      · split <;> exact ⟨rfl, id⟩
      · unfold RateLibrary.recordDecision
        dsimp only
        split <;> rfl
  | candidatePublished candidate version found approved link activatable =>
      have stored := candidate?_mem found
      refine .publish linked activatable.found (fun inactive => ?_) rfl rfl
      exact activatable.cleared (sound candidate found approved version.id link version activatable.found inactive)
        (reviews.originReviewed stored link (reviews.approved candidate stored approved))
  | assigned version placement assignable accepted stored =>
      refine .of_rows linked (fun row stored active => ⟨row, stored, rfl, fun inactive => ?_⟩) ?_
      · exact absurd (inactive.symm.trans active) nofun
      · intro row member new
        change row ∈ (library.book.place _ _ _ _).rateAssignments at member
        rw [Assignments.place_rateAssignments, List.mem_append, List.mem_singleton] at member
        rcases member with old | rfl
        · exact absurd (rewritten_id (Assignments.replaced_rewrites accepted) old) new
        · exact ⟨version, assignable.found, assignable.cleared reviews sound⟩
  | ended current listed covers =>
      refine .of_rows linked (fun row stored active => ⟨row, stored, rfl, fun inactive => ?_⟩) ?_
      · exact absurd (inactive.symm.trans active) nofun
      · intro row member new
        exact absurd (rewritten_id (@Assignments.endCurrent_rewrites library.book _ now current covers) member) new
  | runQueued => exact .of_quiet linked quiet rfl
  | runCompleted => exact requested.elim

end Effects

/-! ## Runs -/

/-- Every turn of a run is a request of a user that meets the condition at the library it comes to. -/
def RunReviewed (start : Clocked) (turns : List Turn) : Prop :=
  ∀ earlier turn later, turns = earlier ++ turn :: later →
    Requested turn.action ∧ ReviewSound (earlier.foldl advance start).library turn.action

/-- From a library without candidates, every request of a run that meets the condition makes live only what is cleared. -/
theorem live_versions_are_cleared {start : Clocked} (linked : Linked start.library)
    (candidates : start.library.candidates = []) (decisions : start.library.decisions = []) {turns : List Turn}
    (sound : RunReviewed start turns) : ∀ earlier turn later, turns = earlier ++ turn :: later →
      LiveCleared (earlier.foldl advance start).library (advance (earlier.foldl advance start) turn).library := by
  rintro earlier turn later rfl
  have initial : Reviews start.library := by constructor <;> simp [candidates, decisions]
  have reached : Linked (earlier.foldl advance start).library ∧ Reviews (earlier.foldl advance start).library := by
    refine foldl_guarded (P := fun state : Clocked => Linked state.library ∧ Reviews state.library)
      (G := fun (state : Clocked) (turn : Turn) => Requested turn.action ∧ ReviewSound state.library turn.action)
      ⟨linked, initial⟩ ?_ ?_
    · intro state turn ⟨linked, reviews⟩ ⟨requested, sound⟩
      have effect := advance_effect state turn
      exact ⟨effect.linked linked, effect.reviews linked reviews requested sound⟩
    · rintro before action after rfl
      exact sound before action (after ++ turn :: later) (by simp)
  obtain ⟨requested, meets⟩ := sound earlier turn later rfl
  exact (advance_effect _ turn).liveCleared reached.1 reached.2 requested meets

/-- The services of a library that tells documents apart by their names. -/
def namedServices : LibraryServices := { openServices with documentHash := PlanDocument.planName }

def named (action : LibraryAction) : Turn := ⟨namedServices, 1, action⟩

def revisedDocument : PlanDocument := { flatDocument with planName := "Flat 2" }

def archivedSource : SourceCheck where
  source := { rateVersionId := "", artifactId := "artifact", sha256 := "hash", parserId := "parser", parserVersion := "1" }

/-- A plan, and a candidate for its second version. -/
def proposedTurns : List Turn :=
  [named (.createRatePlan owner flatDocument "plan" "v1"),
    named (.createCandidate revisedDocument archivedSource {} "v2" "c")]

/-- The candidate is approved, activated and assigned. -/
def reviewedTurns : List Turn :=
  proposedTurns ++
    [named (.decideCandidate owner "c" .approve), named (.activateCandidate owner "c"),
      named (.assign owner { accountId := "home", rateVersionId := "v2", effectiveFrom := 0 } "a1")]

theorem reviewed_candidate_cleared :
    LiveCleared ((reviewedTurns.take 4).foldl advance newLibrary).library (reviewedTurns.foldl advance newLibrary).library ∧
      (reviewedTurns.foldl advance newLibrary).library.rateAssignments.map RateAssignment.rateVersionId = ["v2"] := by
  have sound : RunReviewed newLibrary reviewedTurns := by
    simp only [RunReviewed, reviewedTurns, proposedTurns, List.cons_append, List.nil_append, forall_splits_cons]
    refine ⟨⟨trivial, trivial⟩, ⟨trivial, trivial⟩, ⟨trivial, trivial⟩, ⟨trivial, ?_⟩, ⟨trivial, ?_⟩, forall_splits_nil⟩
    · dsimp only [ReviewSound, named]
      decide
    · dsimp only [ReviewSound, named]
      decide
  exact ⟨live_versions_are_cleared newLibrary_empty.linked rfl rfl sound (reviewedTurns.take 4) _ [] rfl,
    by decide⟩

/-- `activate_rate_version` on the version of a candidate that nobody has decided on. -/
theorem undecided_candidate_activated : Linked newLibrary.library ∧
    ¬ LiveCleared (proposedTurns.foldl advance newLibrary).library
      (advance (proposedTurns.foldl advance newLibrary) (named (.activateRateVersion owner "v2"))).library := by
  refine ⟨newLibrary_empty.linked, fun live => ?_⟩
  have reviewed : ∀ version ∈ (proposedTurns.foldl advance newLibrary).library.rateVersions, version.isActive = false →
      (∃ row ∈ (advance (proposedTurns.foldl advance newLibrary) (named (.activateRateVersion owner "v2"))).library.rateVersions,
        row.id = version.id ∧ row.isActive = true) →
        (proposedTurns.foldl advance newLibrary).library.OriginReviewed version.id :=
    fun version stored inactive active => (live.activated version stored inactive active).reviewed
  revert reviewed
  decide

end PowerMonitor.Lifecycle
