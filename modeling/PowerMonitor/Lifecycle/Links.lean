import PowerMonitor.Lifecycle.Effects

/-! The keys of the library.

Identifiers are unique, a version keeps its plan, and what refers to a version refers to one that is there: no request
leaves an assignment or an account with a version that is gone.
-/

set_option autoImplicit false
namespace PowerMonitor.Lifecycle
open Library Rates
open Assignments (RatePlanStatus RateVersionStatus RateAssignment RateBook AssignmentState assignmentState StoredAssignments)
open Pricing (UtilityAccount CandidateStatus)

namespace RateLibrary
variable (library : RateLibrary)

/-- The versions with their plans. -/
def versionKeys : List (String × String) := library.rateVersions.map fun row => (row.id, row.ratePlanId)

def versionIds : List String := library.rateVersions.map RateVersion.id

/-- The version belongs to the plan. -/
def Holds (planId versionId : String) : Prop := (versionId, planId) ∈ library.versionKeys

theorem versionIds_eq : library.versionIds = library.versionKeys.map Prod.fst := by
  rw [versionIds, versionKeys, List.map_map]
  rfl

variable {library}

theorem mem_versionsOf_ids {planId versionId : String} :
    versionId ∈ (library.versionsOf planId).map RateVersion.id ↔ library.Holds planId versionId := by
  simp only [versionsOf, Holds, versionKeys, List.mem_map, List.mem_filter, decide_eq_true_eq, Prod.mk.injEq]
  exact ⟨fun ⟨row, ⟨stored, mine⟩, named⟩ => ⟨row, stored, named, mine⟩,
    fun ⟨row, stored, named, mine⟩ => ⟨row, ⟨stored, mine⟩, named⟩⟩

theorem holds_of_mem {version : RateVersion} (stored : version ∈ library.rateVersions) :
    library.Holds version.ratePlanId version.id := List.mem_map_of_mem stored

/-! ## Writes that keep the keys -/

theorem versionKeys_map {change : RateVersion → RateVersion}
    (keeps : ∀ row, (change row).id = row.id ∧ (change row).ratePlanId = row.ratePlanId) {after : RateLibrary}
    (table : after.rateVersions = library.rateVersions.map change) : after.versionKeys = library.versionKeys := by
  rw [versionKeys, table, List.map_map]
  apply List.map_congr_left
  intro row _
  simp [keeps row]

theorem updateVersion_versionKeys {versionId : String} {write : RateVersion → RateVersion}
    (keeps : ∀ row, (write row).id = row.id ∧ (write row).ratePlanId = row.ratePlanId) :
    (library.updateVersion versionId write).versionKeys = library.versionKeys := by
  refine versionKeys_map (fun row => ?_) rfl
  split
  · exact keeps row
  · exact ⟨rfl, rfl⟩

theorem publishRow_keys (version row : RateVersion) (automatically : Bool) :
    (publishRow version automatically row).id = row.id ∧
      (publishRow version automatically row).ratePlanId = row.ratePlanId := by
  unfold publishRow
  split
  · exact ⟨rfl, rfl⟩
  · split <;> exact ⟨rfl, rfl⟩

theorem publish_versionKeys (version : RateVersion) (automatically : Bool) :
    (library.publish version automatically).versionKeys = library.versionKeys :=
  versionKeys_map (fun row => publishRow_keys version row automatically) rfl

theorem flag_versionKeys (version : RateVersion) : (library.flag version).versionKeys = library.versionKeys := by
  refine versionKeys_map (fun row => ?_) rfl
  split <;> exact ⟨rfl, rfl⟩

theorem recordDecision_versionKeys (candidate : RateChangeCandidate) (decision : Decision) (principal : Assignments.Principal) :
    (library.recordDecision candidate decision principal).versionKeys = library.versionKeys := by
  unfold recordDecision
  dsimp only
  split
  · exact updateVersion_versionKeys fun _ => ⟨rfl, rfl⟩
  · rfl

theorem deleteVersions_versionKeys (doomed : RateVersion → Bool) : (library.deleteVersions doomed).versionKeys =
    (library.rateVersions.filter fun row => ¬ doomed row).map fun row => (row.id, row.ratePlanId) := by
  rw [versionKeys, deleteVersions, List.map_map]
  rfl

theorem append_versionKeys {version : RateVersion} {after : RateLibrary}
    (table : after.rateVersions = library.rateVersions ++ [version]) :
    after.versionKeys = library.versionKeys ++ [(version.id, version.ratePlanId)] := by
  rw [versionKeys, table, List.map_append]
  rfl

/-! ## Plans -/

theorem updatePlan_planIds {planId : String} {write : RatePlan → RatePlan} (keeps : ∀ row, (write row).id = row.id) :
    (library.updatePlan planId write).ratePlans.map RatePlan.id = library.ratePlans.map RatePlan.id := by
  rw [updatePlan, List.map_map]
  apply List.map_congr_left
  intro row _
  dsimp only [Function.comp_apply]
  split
  · exact keeps row
  · rfl

end RateLibrary

/-- Identifiers are unique and references are to versions that are there. -/
structure Linked (library : RateLibrary) : Prop where
  planIds : (library.ratePlans.map RatePlan.id).Nodup
  versionIds : library.versionIds.Nodup
  assignments : ∀ row ∈ library.rateAssignments, row.rateVersionId ∈ library.versionIds
  pointers : ∀ account ∈ library.utilityAccounts, ∀ versionId ∈ account.activeRateVersionId, versionId ∈ library.versionIds

namespace Linked
variable {library after : RateLibrary}

theorem of_keys (linked : Linked library) (plans : after.ratePlans.map RatePlan.id = library.ratePlans.map RatePlan.id)
    (keys : after.versionKeys = library.versionKeys) (rows : after.rateAssignments = library.rateAssignments)
    (accounts : after.utilityAccounts = library.utilityAccounts) : Linked after where
  planIds := plans ▸ linked.planIds
  versionIds := by
    rw [RateLibrary.versionIds_eq, keys, ← RateLibrary.versionIds_eq]
    exact linked.versionIds
  assignments := by
    rw [rows, RateLibrary.versionIds_eq, keys, ← RateLibrary.versionIds_eq]
    exact linked.assignments
  pointers := by
    rw [accounts, RateLibrary.versionIds_eq, keys, ← RateLibrary.versionIds_eq]
    exact linked.pointers

theorem append_version (linked : Linked library) {version : RateVersion} (newVersion : library.NewVersion version)
    (plans : after.ratePlans = library.ratePlans) (table : after.rateVersions = library.rateVersions ++ [version])
    (rows : after.rateAssignments = library.rateAssignments) (accounts : after.utilityAccounts = library.utilityAccounts) :
    Linked after := by
  have ids : after.versionIds = library.versionIds ++ [version.id] := by
    rw [RateLibrary.versionIds, table, List.map_append]
    rfl
  have absent : version.id ∉ library.versionIds := by
    intro present
    obtain ⟨row, stored, same⟩ := List.mem_map.mp present
    exact newVersion row stored same
  refine ⟨plans ▸ linked.planIds, ?_, ?_, ?_⟩
  · rw [ids]
    exact List.nodup_append.mpr ⟨linked.versionIds, List.nodup_singleton _, by
      intro id member other here
      rw [List.mem_singleton.mp here]
      exact fun same => absent (same ▸ member)⟩
  · intro row stored
    rw [rows] at stored
    rw [ids]
    exact List.mem_append_left _ (linked.assignments row stored)
  · intro account stored versionId points
    rw [accounts] at stored
    rw [ids]
    exact List.mem_append_left _ (linked.pointers account stored versionId points)

theorem append_plan (linked : Linked library) {plan : RatePlan} (newPlan : ∀ row ∈ library.ratePlans, row.id ≠ plan.id) :
    Linked { library with ratePlans := library.ratePlans ++ [plan] } where
  planIds := by
    rw [List.map_append, List.nodup_append]
    refine ⟨linked.planIds, List.nodup_singleton _, ?_⟩
    intro id member other here
    obtain ⟨row, stored, rfl⟩ := List.mem_map.mp member
    rw [List.mem_singleton.mp here]
    exact newPlan row stored
  versionIds := linked.versionIds
  assignments := linked.assignments
  pointers := linked.pointers

theorem delete (linked : Linked library) {doomed : RateVersion → Bool}
    (unassigned : ∀ version ∈ library.rateVersions, doomed version = true → ∀ row ∈ library.rateAssignments,
      row.rateVersionId ≠ version.id) : Linked (library.deleteVersions doomed) := by
  have remains {versionId : String} (listed : versionId ∈ library.versionIds)
      (kept : versionId ∉ (library.rateVersions.filter doomed).map RateVersion.id) :
      versionId ∈ (library.deleteVersions doomed).versionIds := by
    obtain ⟨version, stored, rfl⟩ := List.mem_map.mp listed
    have spared : doomed version ≠ true := fun dies =>
      kept (List.mem_map_of_mem (List.mem_filter.mpr ⟨stored, dies⟩))
    rw [RateLibrary.versionIds_eq, RateLibrary.deleteVersions_versionKeys, List.map_map]
    exact List.mem_map.mpr ⟨version, List.mem_filter.mpr ⟨stored, by simpa using spared⟩, rfl⟩
  refine ⟨?_, ?_, ?_, ?_⟩
  · rw [RateLibrary.deleteVersions]
    dsimp only
    rw [List.map_map]
    exact linked.planIds
  · rw [RateLibrary.versionIds_eq, RateLibrary.deleteVersions_versionKeys, List.map_map]
    exact linked.versionIds.sublist (List.filter_sublist.map _)
  · intro row stored
    refine remains (linked.assignments row stored) fun gone => ?_
    obtain ⟨version, dying, same⟩ := List.mem_map.mp gone
    obtain ⟨member, dies⟩ := List.mem_filter.mp dying
    exact unassigned version member dies row stored same.symm
  · intro account stored versionId points
    obtain ⟨old, member, rfl⟩ := List.mem_map.mp stored
    rw [Option.mem_def, Option.filter_eq_some_iff, decide_eq_true_eq] at points
    exact remains (linked.pointers old member versionId points.1) points.2

/-- Rows of assignments that keep their versions, and accounts whose versions are there. -/
theorem of_book (linked : Linked library) {book : RateBook}
    (rows : ∀ row ∈ book.rateAssignments, row.rateVersionId ∈ library.versionIds)
    (accounts : ∀ account ∈ book.utilityAccounts, ∀ versionId ∈ account.activeRateVersionId,
      versionId ∈ library.versionIds) : Linked (library.withBook book) :=
  ⟨linked.planIds, linked.versionIds, rows, accounts⟩

end Linked

section Book
variable {library : RateLibrary} {now : Int}

theorem rewritten_row {change : RateAssignment → RateAssignment} {rows : List RateAssignment}
    (rewrites : Assignments.Rewrites change rows) {row : RateAssignment} (member : row ∈ rows.map change) :
    ∃ old ∈ rows, old.rateVersionId = row.rateVersionId ∧ Assignments.Shortened old row ∧
      (row.cancelledAt = none → old.cancelledAt = none) := by
  obtain ⟨old, stored, rfl⟩ := List.mem_map.mp member
  refine ⟨old, stored, (rewrites.continues old stored).rateVersionId.symm, rewrites.shortened old stored, ?_⟩
  intro active
  by_contra cancelled
  exact rewrites.cancelled old stored cancelled active

/-- The accounts after the pointer of one of them is written. -/
theorem updated_account {book : RateBook} {accountId : String} {change : UtilityAccount → UtilityAccount}
    {account : UtilityAccount} (member : account ∈ (book.updateAccount accountId change).utilityAccounts) :
    account ∈ book.utilityAccounts ∨ ∃ old ∈ book.utilityAccounts, account = change old := by
  obtain ⟨old, stored, rfl⟩ := List.mem_map.mp member
  split
  · exact .inr ⟨old, stored, rfl⟩
  · exact .inl stored

/-- The pointer of an account after an assignment is its old one, or the assigned version. -/
theorem placed_account {request : Assignments.AssignmentRequest} {id : String} {placement : Assignments.Placement}
    {account : UtilityAccount} (member : account ∈ (library.book.place request id now placement).utilityAccounts)
    {versionId : String} (points : versionId ∈ account.activeRateVersionId) :
    versionId = request.rateVersionId ∨
      ∃ old ∈ library.utilityAccounts, old.active = account.active ∧ versionId ∈ old.activeRateVersionId := by
  rcases updated_account member with same | ⟨old, stored, rfl⟩
  · exact .inr ⟨account, same, rfl, points⟩
  · dsimp only at points
    split at points
    · exact .inl (Option.mem_some_iff.mp points).symm
    · exact .inr ⟨old, stored, rfl, points⟩

theorem ended_account {request : Assignments.EndRequest} {current : RateAssignment} {account : UtilityAccount}
    (member : account ∈ (library.book.endCurrent request now current).utilityAccounts)
    {versionId : String} (points : versionId ∈ account.activeRateVersionId) :
    ∃ old ∈ library.utilityAccounts, old.active = account.active ∧ versionId ∈ old.activeRateVersionId := by
  rcases updated_account member with same | ⟨old, stored, rfl⟩
  · exact ⟨account, same, rfl, points⟩
  · dsimp only at points
    split at points
    · cases points
    · exact ⟨old, stored, rfl, points⟩

/-- A row after an assignment is the new one, or an old one that may have been shortened. -/
theorem placed_row {request : Assignments.AssignmentRequest} {id : String} {placement : Assignments.Placement}
    (accepted : Assignments.Accepted library.book request placement) {row : RateAssignment}
    (member : row ∈ (library.book.place request id now placement).rateAssignments) :
    row = Assignments.newAssignment request id now placement ∨
      ∃ old ∈ library.rateAssignments, old.rateVersionId = row.rateVersionId ∧ Assignments.Shortened old row ∧
        (row.cancelledAt = none → old.cancelledAt = none) := by
  rw [Assignments.place_rateAssignments, List.mem_append, List.mem_singleton] at member
  rcases member with old | rfl
  · exact .inr (rewritten_row (Assignments.replaced_rewrites accepted) old)
  · exact .inl rfl

theorem ended_row {request : Assignments.EndRequest} {current : RateAssignment} (covers : current.Covers request.effectiveAt)
    {row : RateAssignment} (member : row ∈ (library.book.endCurrent request now current).rateAssignments) :
    ∃ old ∈ library.rateAssignments, old.rateVersionId = row.rateVersionId ∧ Assignments.Shortened old row ∧
      (row.cancelledAt = none → old.cancelledAt = none) :=
  rewritten_row (@Assignments.endCurrent_rewrites library.book request now current covers) member

end Book

/-- A usage count of zero leaves no assignment. -/
theorem unassigned_of_usage {library : RateLibrary} {versionId : String} (unused : library.versionUsageCount versionId = 0) :
    ∀ row ∈ library.rateAssignments, row.rateVersionId ≠ versionId := by
  intro row stored same
  have present : row ∈ library.rateAssignments.filter fun row => row.rateVersionId = versionId :=
    List.mem_filter.mpr ⟨stored, by simpa using same⟩
  have counted := List.length_pos_of_mem present
  unfold RateLibrary.versionUsageCount at unused
  omega

theorem Linked.append_both {library : RateLibrary} (linked : Linked library) {plan : RatePlan} {version : RateVersion}
    {sources : List RateVersionSource} {bills : List UtilityBillImport} (newPlan : ∀ row ∈ library.ratePlans, row.id ≠ plan.id)
    (newVersion : library.NewVersion version) : Linked
      { library with
        ratePlans := library.ratePlans ++ [plan]
        rateVersions := library.rateVersions ++ [version]
        sources := sources
        bills := bills } :=
  (linked.append_plan newPlan).append_version newVersion rfl rfl rfl rfl

/-- Seeding is a plan and a version at a time. -/
theorem seedPlan_ok {library after : RateLibrary} {seed : SeedPlan} (done : seedPlan library seed = .ok after) :
    ∃ plan version, (∀ row ∈ library.ratePlans, row.id ≠ plan.id) ∧ plan.status = .active ∧ library.NewVersion version ∧
      version = seed.seeded ∧ after = { library with
        ratePlans := library.ratePlans ++ [plan], rateVersions := library.rateVersions ++ [version] } := by
  obtain ⟨middle, planned, done⟩ := bind_eq_ok.mp done
  obtain ⟨newPlan, rfl⟩ := addPlan_eq_ok.mp planned
  obtain ⟨newVersion, rfl⟩ := addVersion_ok done
  exact ⟨_, _, newPlan, rfl, newVersion, rfl, rfl⟩

theorem Effect.linked {library after : RateLibrary} {now : Int} {action : LibraryAction}
    (effect : Effect library now action after) (linked : Linked library) : Linked after := by
  cases effect with
  | kept => exact linked
  | bootstrapped empty run =>
      refine foldlM_invariant Linked _ linked ?_ run
      intro state seed next _ step linked
      obtain ⟨plan, version, newPlan, _, newVersion, _, rfl⟩ := seedPlan_ok step
      exact linked.append_both newPlan newVersion
  | planCreated plan version sources bills newPlan _ newVersion _ => exact linked.append_both newPlan newVersion
  | versionCreated version newVersion _ => exact linked.append_version newVersion rfl rfl rfl rfl
  | edited version plan _ _ _ _ =>
      exact linked.of_keys (RateLibrary.updatePlan_planIds fun _ => rfl)
        (RateLibrary.updateVersion_versionKeys fun _ => ⟨rfl, rfl⟩) rfl rfl
  | published version _ =>
      exact linked.of_keys (RateLibrary.updatePlan_planIds fun _ => rfl) (RateLibrary.publish_versionKeys _ _) rfl rfl
  | flagged version _ => exact linked.of_keys rfl (RateLibrary.flag_versionKeys _) rfl rfl
  | retired version _ _ =>
      have written : Linked (library.updateVersion version.id retiredRow) :=
        linked.of_keys rfl (RateLibrary.updateVersion_versionKeys fun _ => ⟨rfl, rfl⟩) rfl rfl
      unfold RateLibrary.retireVersion
      dsimp only
      split
      · exact written
      · exact written.of_keys (RateLibrary.updatePlan_planIds fun _ => rfl) rfl rfl rfl
  | removed version _ => exact linked.of_keys rfl (RateLibrary.updateVersion_versionKeys fun _ => ⟨rfl, rfl⟩) rfl rfl
  | restored version _ _ => exact linked.of_keys rfl (RateLibrary.updateVersion_versionKeys fun _ => ⟨rfl, rfl⟩) rfl rfl
  | deletedDraft version _ _ unreferenced =>
      apply linked.delete
      intro row _ dies
      rw [of_decide_eq_true dies]
      exact unassigned_of_usage unreferenced
  | deletedEligible version _ eligible =>
      apply linked.delete
      intro row _ dies
      rw [of_decide_eq_true dies]
      exact eligible.2.2.1
  | deletedPlan plan _ _ _ unreferenced =>
      have deleted : Linked (library.deleteVersions fun row => row.ratePlanId = plan.id) := by
        apply linked.delete
        intro version stored dies row listed same
        have mine : row ∈ library.planAssignments plan.id := by
          refine List.mem_filter.mpr ⟨listed, decide_eq_true ?_⟩
          rw [RateLibrary.mem_versionsOf_ids, same, ← of_decide_eq_true dies]
          exact RateLibrary.holds_of_mem stored
        rw [unreferenced.1] at mine
        cases mine
      exact ⟨deleted.planIds.sublist (List.filter_sublist.map _), deleted.versionIds, deleted.assignments, deleted.pointers⟩
  | planRemoved plan status _ _ => exact linked.of_keys (RateLibrary.updatePlan_planIds fun _ => rfl) rfl rfl rfl
  | planRestored plan _ => exact linked.of_keys (RateLibrary.updatePlan_planIds fun _ => rfl) rfl rfl rfl
  | candidateFailed candidate _ _ _ => exact linked.of_keys rfl rfl rfl rfl
  | candidateCreated version candidate created added _ _ _ =>
      obtain ⟨_, _, _, rfl⟩ := added.written
      exact linked.append_version added.newVersion rfl rfl rfl rfl
  | candidateActivated version candidate created added _ _ _ _ _ =>
      have joined : Linked created := by
        obtain ⟨_, _, _, rfl⟩ := added.written
        exact linked.append_version added.newVersion rfl rfl rfl rfl
      exact joined.of_keys (RateLibrary.updatePlan_planIds fun _ => rfl) (RateLibrary.publish_versionKeys version true) rfl rfl
  | decided candidate _ _ _ =>
      refine linked.of_keys ?_ (RateLibrary.recordDecision_versionKeys _ _ _) ?_ ?_ <;>
        unfold RateLibrary.recordDecision <;> dsimp only <;> split <;> rfl
  | candidatePublished candidate version _ _ _ _ =>
      exact linked.of_keys (RateLibrary.updatePlan_planIds fun _ => rfl) (RateLibrary.publish_versionKeys version false) rfl rfl
  | assigned version placement assignable accepted _ =>
      have listed : version.id ∈ library.versionIds := List.mem_map_of_mem (version?_mem assignable.found)
      rw [version?_id assignable.found] at listed
      apply linked.of_book
      · intro row member
        rcases placed_row accepted member with rfl | ⟨old, stored, same, _⟩
        · exact listed
        · exact same ▸ linked.assignments old stored
      · intro account member versionId points
        rcases placed_account member points with rfl | ⟨old, stored, _, pointed⟩
        · exact listed
        · exact linked.pointers old stored versionId pointed
  | ended current _ covers =>
      apply linked.of_book
      · intro row member
        obtain ⟨old, stored, same, _⟩ := ended_row covers member
        exact same ▸ linked.assignments old stored
      · intro account member versionId points
        obtain ⟨old, stored, _, pointed⟩ := ended_account member points
        exact linked.pointers old stored versionId pointed
  | runQueued => exact linked.of_keys rfl rfl rfl rfl
  | runCompleted _ version _ =>
      exact linked.of_keys rfl (RateLibrary.updateVersion_versionKeys fun _ => ⟨rfl, rfl⟩) rfl rfl

end PowerMonitor.Lifecycle
