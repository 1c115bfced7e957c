import PowerMonitor.Lifecycle.Links

/-! The rate authority of a plan.

A plan has authority through a live assignment of one of its versions or through an active account that points to one.
Requests at the plan look at all of its versions before they retire it. `retire_managed_version` looks at one version
and may retire the plan with it, and the requests at the plan also count cancelled assignments.
-/

set_option autoImplicit false
namespace PowerMonitor.Lifecycle
open Library Rates
open Assignments (RatePlanStatus RateVersionStatus RateAssignment RateBook AssignmentState assignmentState RequestFailure
  rising rising_eq_error rateManager)
open Pricing (UtilityAccount CandidateStatus)

/-- The assignment is not cancelled, and current or scheduled. -/
def Live (row : RateAssignment) (now : Int) : Prop := assignmentState row now ∈ [AssignmentState.current, .scheduled]

instance (row : RateAssignment) (now : Int) : Decidable (Live row now) := inferInstanceAs (Decidable (_ ∈ _))

/-- The window of the assignment has not ended. -/
def Unexpired (row : RateAssignment) (now : Int) : Prop := ∀ finish ∈ row.effectiveTo, now < finish

instance (row : RateAssignment) (now : Int) : Decidable (Unexpired row now) := inferInstanceAs (Decidable (∀ finish ∈ _, _))

theorem live_iff {row : RateAssignment} {now : Int} :
    Live row now ↔ row.cancelledAt = none ∧ (now < row.effectiveFrom ∨ Unexpired row now) := by
  unfold Live assignmentState
  split
  · next cancelled => simp [cancelled]
  · next active =>
      rw [not_not] at active
      split
      · next later => simp [active, later]
      · next started =>
          split
          · next openEnded => exact iff_of_true (by simp) ⟨active, .inr openEnded⟩
          · next ended => exact iff_of_false (by simp) fun ⟨_, either⟩ => either.elim started ended

theorem Live.earlier {row : RateAssignment} {now later : Int} (live : Live row later) (order : now ≤ later) : Live row now := by
  obtain ⟨active, scheduled | unexpired⟩ := live_iff.mp live
  · exact live_iff.mpr ⟨active, .inl (order.trans_lt scheduled)⟩
  · exact live_iff.mpr ⟨active, .inr fun finish ends => order.trans_lt (unexpired finish ends)⟩

theorem Live.of_shortened {old row : RateAssignment} {now : Int} (live : Live row now)
    (shortened : Assignments.Shortened old row) (active : row.cancelledAt = none → old.cancelledAt = none) : Live old now := by
  obtain ⟨here, window⟩ := live_iff.mp live
  refine live_iff.mpr ⟨active here, ?_⟩
  cases shortened with
  | kept same => exact same ▸ window
  | cancelled gone => exact absurd here gone
  | ended finish later inside cut state =>
      have start : row.effectiveFrom = old.effectiveFrom := congrArg Window.start cut
      have finishes : row.effectiveTo = some finish := congrArg Window.finish cut
      rcases window with scheduled | unexpired
      · exact .inl (start ▸ scheduled)
      · right
        intro last ends
        rw [ends] at inside
        exact (unexpired finish finishes).trans_le inside

/-! ## Authority -/

/-- A live assignment of a version of the plan, or an active account that points to one. -/
def RateLibrary.Authority (library : RateLibrary) (planId : String) (now : Int) : Prop :=
  (∃ row ∈ library.rateAssignments, library.Holds planId row.rateVersionId ∧ Live row now) ∨
    ∃ account ∈ library.utilityAccounts, account.active = true ∧
      ∃ versionId ∈ account.activeRateVersionId, library.Holds planId versionId

instance (library : RateLibrary) (planId versionId : String) : Decidable (library.Holds planId versionId) :=
  inferInstanceAs (Decidable (_ ∈ _))

instance (library : RateLibrary) (planId : String) (now : Int) : Decidable (library.Authority planId now) :=
  inferInstanceAs (Decidable (_ ∨ _))

/-- The plan has been removed or retired. -/
def RatePlan.Gone (plan : RatePlan) : Prop := plan.status ∈ [RatePlanStatus.removed, .retired]

instance (plan : RatePlan) : Decidable plan.Gone := inferInstanceAs (Decidable (_ ∈ _))

/-- No removed or retired plan has authority. -/
def Powerless (library : RateLibrary) (now : Int) : Prop :=
  ∀ plan ∈ library.ratePlans, plan.Gone → ¬ library.Authority plan.id now

/-- Whatever carries authority afterwards has done so before. -/
structure Shrinks (library after : RateLibrary) (now : Int) : Prop where
  holds : ∀ planId versionId, after.Holds planId versionId → versionId ∈ library.versionIds → library.Holds planId versionId
  rows : ∀ row ∈ after.rateAssignments, Live row now →
    ∃ old ∈ library.rateAssignments, old.rateVersionId = row.rateVersionId ∧ Live old now
  pointers : ∀ account ∈ after.utilityAccounts, account.active = true → ∀ versionId ∈ account.activeRateVersionId,
    ∃ old ∈ library.utilityAccounts, old.active = true ∧ versionId ∈ old.activeRateVersionId

namespace Shrinks
variable {library after : RateLibrary} {now : Int}

theorem authority (shrinks : Shrinks library after now) (linked : Linked library) {planId : String}
    (held : after.Authority planId now) : library.Authority planId now := by
  rcases held with ⟨row, stored, holds, live⟩ | ⟨account, stored, active, versionId, points, holds⟩
  · obtain ⟨old, member, same, wasLive⟩ := shrinks.rows row stored live
    have listed := linked.assignments old member
    rw [same] at listed
    exact .inl ⟨old, member, by rw [same]; exact shrinks.holds _ _ holds listed, wasLive⟩
  · obtain ⟨old, member, wasActive, pointed⟩ := shrinks.pointers account stored active versionId points
    exact .inr ⟨old, member, wasActive, versionId, pointed, shrinks.holds _ _ holds (linked.pointers old member _ pointed)⟩

/-- Writes that leave assignments and accounts alone, and move no version to another plan. -/
theorem of_tables (rows : after.rateAssignments = library.rateAssignments)
    (accounts : after.utilityAccounts = library.utilityAccounts)
    (holds : ∀ planId versionId, after.Holds planId versionId → versionId ∈ library.versionIds → library.Holds planId versionId) :
    Shrinks library after now where
  holds := holds
  rows := fun row stored live => ⟨row, rows ▸ stored, rfl, live⟩
  pointers := fun account stored active _ points => ⟨account, accounts ▸ stored, active, points⟩

theorem of_keys (rows : after.rateAssignments = library.rateAssignments)
    (accounts : after.utilityAccounts = library.utilityAccounts) (keys : after.versionKeys = library.versionKeys) :
    Shrinks library after now :=
  of_tables rows accounts fun _ _ held _ => by
    rw [RateLibrary.Holds, keys] at held
    exact held

theorem of_append {version : RateVersion} (newVersion : library.NewVersion version)
    (rows : after.rateAssignments = library.rateAssignments) (accounts : after.utilityAccounts = library.utilityAccounts)
    (table : after.rateVersions = library.rateVersions ++ [version]) : Shrinks library after now := by
  refine of_tables rows accounts fun planId versionId held listed => ?_
  rw [RateLibrary.Holds, RateLibrary.append_versionKeys table, List.mem_append, List.mem_singleton, Prod.mk.injEq] at held
  rcases held with held | ⟨same, _⟩
  · exact held
  · obtain ⟨row, stored, named⟩ := List.mem_map.mp listed
    exact absurd (named.trans same) (newVersion row stored)

theorem of_delete (doomed : RateVersion → Bool) : Shrinks library (library.deleteVersions doomed) now where
  holds := fun planId versionId held _ => by
    rw [RateLibrary.Holds, RateLibrary.deleteVersions_versionKeys] at held
    exact (List.filter_sublist.map _).subset held
  rows := fun row stored live => ⟨row, stored, rfl, live⟩
  pointers := fun account stored active _ points => by
    obtain ⟨old, member, rfl⟩ := List.mem_map.mp stored
    rw [Option.mem_def, Option.filter_eq_some_iff] at points
    exact ⟨old, member, active, points.1⟩

end Shrinks

/-! ## One request -/

namespace Powerless
variable {library after : RateLibrary} {now : Int}

/-- Authority has not grown, and every plan that is gone was gone or has no authority. -/
theorem step (powerless : Powerless library now) (linked : Linked library) (shrinks : Shrinks library after now)
    (plans : ∀ plan ∈ after.ratePlans, plan.Gone →
      (∃ old ∈ library.ratePlans, old.id = plan.id ∧ old.Gone) ∨ ¬ library.Authority plan.id now) : Powerless after now := by
  intro plan stored gone held
  have before := shrinks.authority linked held
  rcases plans plan stored gone with ⟨old, member, same, wasGone⟩ | quiet
  · exact powerless old member wasGone (same ▸ before)
  · exact quiet before

theorem of_plans (powerless : Powerless library now) (linked : Linked library) (shrinks : Shrinks library after now)
    (plans : after.ratePlans = library.ratePlans) : Powerless after now :=
  powerless.step linked shrinks fun plan stored gone => .inl ⟨plan, plans ▸ stored, rfl, gone⟩

theorem of_append (powerless : Powerless library now) (linked : Linked library) (shrinks : Shrinks library after now)
    {added : RatePlan} (here : ¬ added.Gone) (plans : after.ratePlans = library.ratePlans ++ [added]) : Powerless after now := by
  refine powerless.step linked shrinks fun plan stored gone => ?_
  rw [plans, List.mem_append, List.mem_singleton] at stored
  rcases stored with old | rfl
  · exact .inl ⟨plan, old, rfl, gone⟩
  · exact absurd gone here

/-- A plan is written: it is there afterwards, it was gone before, or it has no authority. -/
theorem of_update (powerless : Powerless library now) (linked : Linked library) (shrinks : Shrinks library after now)
    {planId : String} {write : RatePlan → RatePlan} (plans : after.ratePlans = (library.updatePlan planId write).ratePlans)
    (keeps : ∀ row, (write row).id = row.id)
    (allowed : ∀ plan ∈ library.ratePlans, plan.id = planId → (write plan).Gone →
      plan.Gone ∨ ¬ library.Authority planId now) : Powerless after now := by
  refine powerless.step linked shrinks fun plan stored gone => ?_
  rw [plans] at stored
  obtain ⟨old, member, rfl⟩ := List.mem_map.mp stored
  split at gone
  · next here =>
      rw [if_pos here]
      rcases allowed old member here gone with wasGone | quiet
      · exact .inl ⟨old, member, (keeps old).symm, wasGone⟩
      · right
        rw [keeps, here]
        exact quiet
  · next other =>
      rw [if_neg other]
      exact .inl ⟨old, member, rfl, gone⟩

/-- Time passes. -/
theorem later (powerless : Powerless library now) {later : Int} (order : now ≤ later) : Powerless library later := by
  intro plan stored gone held
  refine powerless plan stored gone ?_
  rcases held with ⟨row, member, holds, live⟩ | pointed
  · exact .inl ⟨row, member, holds, live.earlier order⟩
  · exact .inr pointed

end Powerless

/-! ## What the requests need -/

/-- A cancelled assignment of the plan whose window has not ended. -/
def RateLibrary.CancelledLeft (library : RateLibrary) (planId : String) (now : Int) : Prop :=
  ∃ row ∈ library.rateAssignments, library.Holds planId row.rateVersionId ∧ row.cancelledAt ≠ none ∧
    (now < row.effectiveFrom ∨ Unexpired row now)

instance (library : RateLibrary) (planId : String) (now : Int) : Decidable (library.CancelledLeft planId now) :=
  inferInstanceAs (Decidable (∃ row ∈ _, _))

/-- The condition of a turn: a version without live assignments is not retired as the last active one of a plan that
has authority, and a plan with a cancelled assignment left is not to be removed or retired unless it has authority. -/
def TurnSound (state : Clocked) (turn : Turn) : Prop :=
  let now := state.now + turn.elapsed
  match turn.action with
  | .retireManagedVersion _ versionId _ => ∀ version ∈ state.library.version? versionId,
      state.library.versionAssignments version.id now = [] →
        state.library.OtherActive version ∨ ¬ state.library.Authority version.ratePlanId now
  | .removeRatePlan _ planId _ | .retireRatePlan _ planId _ =>
      state.library.CancelledLeft planId now → state.library.Authority planId now
  | _ => True

theorem not_authority_of_unblocked {library : RateLibrary} {plan : RatePlan} {now : Int}
    (unblocked : ¬ (library.planDependencies plan now).RemovalBlocked) : ¬ library.Authority plan.id now := by
  rintro (⟨row, stored, holds, live⟩ | ⟨account, stored, active, versionId, points, holds⟩)
  · have mine : row ∈ library.planAssignments plan.id :=
      List.mem_filter.mpr ⟨stored, decide_eq_true (RateLibrary.mem_versionsOf_ids.mpr holds)⟩
    by_cases later : now < row.effectiveFrom
    · exact unblocked (.inr (.inl (List.ne_nil_of_mem (List.mem_filter.mpr ⟨mine, decide_eq_true later⟩))))
    · have unexpired := (live_iff.mp live).2.resolve_left later
      have covers : row.Covers now := ⟨not_lt.mp later, unexpired⟩
      exact unblocked (.inl (List.ne_nil_of_mem (List.mem_filter.mpr ⟨mine, decide_eq_true covers⟩)))
  · have pointed : account ∈ library.activeAccountPointers plan.id :=
      List.mem_filter.mpr ⟨stored, decide_eq_true
        ⟨⟨versionId, points, RateLibrary.mem_versionsOf_ids.mpr holds⟩, active⟩⟩
    exact unblocked (.inr (.inr (List.ne_nil_of_mem pointed)))

/-- A blocked plan has authority, or a cancelled assignment left. -/
theorem authority_of_blocked {library : RateLibrary} {plan : RatePlan} {now : Int}
    (blocked : (library.planDependencies plan now).RemovalBlocked) :
    library.Authority plan.id now ∨ library.CancelledLeft plan.id now := by
  have assigned {row : RateAssignment} (mine : row ∈ library.planAssignments plan.id)
      (window : now < row.effectiveFrom ∨ Unexpired row now) :
      library.Authority plan.id now ∨ library.CancelledLeft plan.id now := by
    obtain ⟨stored, holds⟩ := List.mem_filter.mp mine
    have holds := RateLibrary.mem_versionsOf_ids.mp (of_decide_eq_true holds)
    by_cases active : row.cancelledAt = none
    · exact .inl (.inl ⟨row, stored, holds, live_iff.mpr ⟨active, window⟩⟩)
    · exact .inr ⟨row, stored, holds, active, window⟩
  rcases blocked with current | future | pointed
  · obtain ⟨row, member⟩ := List.exists_mem_of_ne_nil _ current
    obtain ⟨mine, covers⟩ := List.mem_filter.mp member
    exact assigned mine (.inr (of_decide_eq_true covers).2)
  · obtain ⟨row, member⟩ := List.exists_mem_of_ne_nil _ future
    obtain ⟨mine, later⟩ := List.mem_filter.mp member
    exact assigned mine (.inl (of_decide_eq_true later))
  · obtain ⟨account, member⟩ := List.exists_mem_of_ne_nil _ pointed
    obtain ⟨stored, ⟨versionId, points, holds⟩, active⟩ := List.mem_filter.mp member |>.imp_right of_decide_eq_true
    exact .inl (.inr ⟨account, stored, active, versionId, points, RateLibrary.mem_versionsOf_ids.mp holds⟩)

section Step
variable {library after : RateLibrary} {now : Int} {action : LibraryAction}

/-- The assigned version is of a plan that is there, so only such a plan gains authority. -/
theorem assigned_powerless (powerless : Powerless library now) (linked : Linked library)
    {request : Assignments.AssignmentRequest} {id : String} {placement : Assignments.Placement} {version : RateVersion}
    (assignable : Assignable library request.rateVersionId version)
    (accepted : Assignments.Accepted library.book request placement) :
    Powerless (library.withBook (library.book.place request id now placement)) now := by
  obtain ⟨assignedPlan, planned, available⟩ := assignable.available
  -- The version of the request belongs to one plan only.
  have only {planId : String} (holds : library.Holds planId request.rateVersionId) : planId = assignedPlan.id := by
    obtain ⟨row, stored, same⟩ := List.mem_map.mp holds
    obtain ⟨named, mine⟩ := Prod.mk.inj same
    have whole : row = version := List.inj_on_of_nodup_map linked.versionIds stored (version?_mem assignable.found)
      (named.trans (version?_id assignable.found).symm)
    rw [plan?_id planned, ← whole, mine]
  intro plan stored gone held
  have notAssigned : ¬ library.Holds plan.id request.rateVersionId := by
    intro holds
    have same : plan = assignedPlan :=
      List.inj_on_of_nodup_map linked.planIds stored (plan?_mem planned) (only holds)
    exact available (same ▸ gone)
  refine powerless plan stored gone ?_
  rcases held with ⟨row, member, holds, live⟩ | ⟨account, member, active, versionId, points, holds⟩
  · rcases placed_row accepted member with rfl | ⟨old, member, same, shortened, kept⟩
    · exact absurd holds notAssigned
    · exact .inl ⟨old, member, by rw [same]; exact holds, live.of_shortened shortened kept⟩
  · rcases placed_account member points with rfl | ⟨old, member, same, pointed⟩
    · exact absurd holds notAssigned
    · exact .inr ⟨old, member, same.trans active, versionId, pointed, holds⟩

theorem published_powerless (powerless : Powerless library now) (linked : Linked library) {version : RateVersion}
    {automatically : Bool} (rows : after.rateAssignments = library.rateAssignments)
    (accounts : after.utilityAccounts = library.utilityAccounts)
    (keys : after.versionKeys = (library.publish version automatically).versionKeys)
    (plans : after.ratePlans = (library.publish version automatically).ratePlans) : Powerless after now := by
  refine powerless.of_update linked (.of_keys rows accounts (keys.trans (RateLibrary.publish_versionKeys _ _))) plans
    (fun _ => rfl) ?_
  intro plan _ _ gone
  simp [RatePlan.Gone] at gone

theorem Effect.powerless (effect : Effect library now action after) (linked : Linked library) (powerless : Powerless library now)
    (retiring : ∀ principal versionId payload, action = .retireManagedVersion principal versionId payload →
      ∀ version ∈ library.version? versionId, library.versionAssignments version.id now = [] →
        library.OtherActive version ∨ ¬ library.Authority version.ratePlanId now) : Powerless after now := by
  have draftHere {plan : RatePlan} (draft : plan.status = .draft) : ¬ plan.Gone := by simp [RatePlan.Gone, draft]
  cases effect with
  | kept => exact powerless
  | bootstrapped empty run =>
      have both : Linked after ∧ Powerless after now := by
        refine foldlM_invariant (fun state => Linked state ∧ Powerless state now) _ ⟨linked, powerless⟩ ?_ run
        rintro state seed next _ step ⟨linked, powerless⟩
        obtain ⟨plan, version, newPlan, active, newVersion, _, rfl⟩ := seedPlan_ok step
        refine ⟨linked.append_both newPlan newVersion, ?_⟩
        exact powerless.of_append linked (.of_append newVersion rfl rfl rfl) (by simp [RatePlan.Gone, active]) rfl
      exact both.2
  | planCreated plan version sources bills _ draft newVersion _ =>
      exact powerless.of_append linked (.of_append newVersion rfl rfl rfl) (draftHere draft) rfl
  | versionCreated version newVersion _ => exact powerless.of_plans linked (.of_append newVersion rfl rfl rfl) rfl
  | edited version plan _ _ _ _ =>
      refine powerless.of_update linked (.of_keys rfl rfl ?_) rfl (fun _ => rfl) fun _ _ _ gone => .inl gone
      exact RateLibrary.updateVersion_versionKeys fun _ => ⟨rfl, rfl⟩
  | published version _ => exact published_powerless powerless linked rfl rfl rfl rfl
  | flagged version _ => exact powerless.of_plans linked (.of_keys rfl rfl (RateLibrary.flag_versionKeys _)) rfl
  | retired version found clear =>
      have shrinks : Shrinks library (library.updateVersion version.id retiredRow) now :=
        .of_keys rfl rfl (RateLibrary.updateVersion_versionKeys fun _ => ⟨rfl, rfl⟩)
      have condition := retiring _ _ _ rfl version found clear
      unfold RateLibrary.retireVersion
      dsimp only
      split
      · exact powerless.of_plans linked shrinks rfl
      · next last =>
          refine powerless.of_update linked ⟨shrinks.holds, shrinks.rows, shrinks.pointers⟩ rfl (fun _ => rfl) ?_
          exact fun _ _ _ _ => .inr (condition.resolve_left last)
  | removed version _ =>
      exact powerless.of_plans linked (.of_keys rfl rfl (RateLibrary.updateVersion_versionKeys fun _ => ⟨rfl, rfl⟩)) rfl
  | restored version _ _ =>
      exact powerless.of_plans linked (.of_keys rfl rfl (RateLibrary.updateVersion_versionKeys fun _ => ⟨rfl, rfl⟩)) rfl
  | deletedDraft version _ _ _ =>
      refine powerless.step linked (.of_delete _) fun plan stored gone => ?_
      obtain ⟨old, member, rfl⟩ := List.mem_map.mp stored
      exact .inl ⟨old, member, rfl, gone⟩
  | deletedEligible version _ _ =>
      refine powerless.step linked (.of_delete _) fun plan stored gone => ?_
      obtain ⟨old, member, rfl⟩ := List.mem_map.mp stored
      exact .inl ⟨old, member, rfl, gone⟩
  | deletedPlan plan _ _ _ _ =>
      have shrinks : Shrinks library (library.deleteVersions fun row => row.ratePlanId = plan.id) now := .of_delete _
      refine powerless.step linked ⟨shrinks.holds, shrinks.rows, shrinks.pointers⟩ fun row stored gone => ?_
      obtain ⟨old, member, rfl⟩ := List.mem_map.mp (List.mem_of_mem_filter stored)
      exact .inl ⟨old, member, rfl, gone⟩
  | planRemoved plan status _ unblocked =>
      refine powerless.of_update linked (.of_keys rfl rfl rfl) rfl (fun _ => rfl) ?_
      exact fun _ _ _ _ => .inr (not_authority_of_unblocked unblocked)
  | planRestored plan _ =>
      refine powerless.of_update linked (.of_keys rfl rfl rfl) rfl (fun _ => rfl) ?_
      intro row _ _ gone
      simp [RatePlan.Gone, removedPlan] at gone
  | candidateFailed candidate _ _ _ => exact powerless.of_plans linked (.of_keys rfl rfl rfl) rfl
  | candidateCreated version candidate created added _ _ _ =>
      obtain ⟨_, _, _, rfl⟩ := added.written
      exact powerless.of_plans linked (.of_append added.newVersion rfl rfl rfl) rfl
  | candidateActivated version candidate created added _ _ _ _ _ =>
      have joined : Linked created ∧ Powerless created now := by
        obtain ⟨_, _, _, rfl⟩ := added.written
        exact ⟨linked.append_version added.newVersion rfl rfl rfl rfl,
          powerless.of_plans linked (.of_append added.newVersion rfl rfl rfl) rfl⟩
      exact published_powerless joined.2 joined.1 rfl rfl rfl rfl
  | decided candidate _ _ _ =>
      refine powerless.of_plans linked (.of_keys ?_ ?_ (RateLibrary.recordDecision_versionKeys _ _ _)) ?_ <;>
        unfold RateLibrary.recordDecision <;> dsimp only <;> split <;> rfl
  | candidatePublished candidate version _ _ _ _ => exact published_powerless powerless linked rfl rfl rfl rfl
  | assigned version placement assignable accepted _ => exact assigned_powerless powerless linked assignable accepted
  | ended current _ covers =>
      refine powerless.of_plans linked ⟨fun _ _ held _ => held, ?_, ?_⟩ rfl
      · intro row member live
        obtain ⟨old, stored, same, shortened, kept⟩ := ended_row covers member
        exact ⟨old, stored, same, live.of_shortened shortened kept⟩
      · intro account member active versionId points
        obtain ⟨old, stored, same, pointed⟩ := ended_account member points
        exact ⟨old, stored, same.trans active, pointed⟩
  | runQueued => exact powerless.of_plans linked (.of_keys rfl rfl rfl) rfl
  | runCompleted _ version _ =>
      exact powerless.of_plans linked (.of_keys rfl rfl (RateLibrary.updateVersion_versionKeys fun _ => ⟨rfl, rfl⟩)) rfl

end Step

/-! ## Refusals -/

section Refusals
variable {services : LibraryServices} {library : RateLibrary} {now : Int} {principal : Assignments.Principal}
  {payload : RatePlanLifecycleRequest} {plan : RatePlan} {planId detail : String} {problem : ProblemError}

/-- A check with another code has not refused the request. -/
theorem passed_of_code {condition : Prop} [Decidable condition] {failure : ProblemError} {next : Except RequestFailure RateLibrary}
    (other : failure.code ≠ problem.code)
    (refused : (rising (raiseIf condition failure) >>= fun _ => next) = .error (.problem problem)) :
    next = .error (.problem problem) := by
  rcases bind_eq_error.mp refused with here | ⟨_, _, later⟩
  · rw [rising_eq_error, raiseIf_eq_error] at here
    exact absurd (congrArg ProblemError.code here.2) other
  · exact later

/-- A plan is found unless the request fails for want of it. -/
theorem found_of_code {next : RatePlan → Except RequestFailure RateLibrary} (code : problem.code = "rate_plan_dependencies")
    (refused : (requirePlan library planId >>= next) = .error (.problem problem)) :
    ∃ plan, library.plan? planId = some plan ∧ next plan = .error (.problem problem) := by
  rcases bind_eq_error.mp refused with missing | ⟨plan, found, refused⟩
  · rw [requirePlan, rising_eq_error] at missing
    cases row : library.plan? planId with
    | none =>
        rw [row] at missing
        cases missing
        exact absurd code (by decide)
    | some plan =>
        rw [row] at missing
        cases missing
  · exact ⟨plan, requirePlan_eq_ok.mp found, refused⟩

theorem past_barrier {next : Except RequestFailure RateLibrary} (known : library.plan? planId = some plan)
    (barrier : services.ensureRatePlansResetMutationsAllowed [planId] = .ok ())
    (refused : (rising (services.ensureRatePlansResetMutationsAllowed [plan.id]) >>= fun _ => next) = .error (.problem problem)) :
    next = .error (.problem problem) := by
  rcases bind_eq_error.mp refused with here | ⟨_, _, refused⟩
  · rw [rising_eq_error, plan?_id known, barrier] at here
    cases here
  · exact refused

/-- The dependencies are the last check of a request. -/
theorem blocked_of_refused {failure : ProblemError} {after : RateLibrary}
    (refused : (rising (raiseIf (library.planDependencies plan now).RemovalBlocked failure) >>= fun _ => pure after) =
      .error (.problem problem)) : (library.planDependencies plan now).RemovalBlocked := by
  rcases bind_eq_error.mp refused with here | ⟨_, _, later⟩
  · rw [rising_eq_error, raiseIf_eq_error] at here
    exact here.1
  · cases later

theorem removeRatePlan_refused (barrier : services.ensureRatePlansResetMutationsAllowed [planId] = .ok ())
    (refused : removeRatePlan services library principal planId payload now = .error (.problem problem))
    (code : problem.code = "rate_plan_dependencies") :
    ∃ plan, library.plan? planId = some plan ∧ (library.planDependencies plan now).RemovalBlocked := by
  have others : ∀ name ∈ ["forbidden", "stale_revision", "rate_plan_confirmation_required", "stale_dependency_token"],
      name ≠ problem.code := by
    rw [code]
    decide
  unfold removeRatePlan at refused
  have refused := passed_of_code (others _ (by simp [Assignments.permissionDenied])) refused
  obtain ⟨plan, known, refused⟩ := found_of_code code refused
  refine ⟨plan, known, ?_⟩
  have refused := past_barrier known barrier refused
  split at refused
  · cases refused
  · have refused := passed_of_code (others _ (by simp [staleRevision])) refused
    have refused := passed_of_code (others _ (by simp [planConfirmationRequired])) refused
    -- An official plan asks for one more permission.
    split at refused
    · have refused := passed_of_code (others _ (by simp [Assignments.permissionDenied])) refused
      exact blocked_of_refused (passed_of_code (others _ (by simp [staleDependencyToken])) refused)
    · exact blocked_of_refused (passed_of_code (others _ (by simp [staleDependencyToken])) refused)

theorem retireRatePlan_refused (barrier : services.ensureRatePlansResetMutationsAllowed [planId] = .ok ())
    (refused : retireRatePlan services library principal planId payload now = .error (.problem problem))
    (code : problem.code = "rate_plan_dependencies") :
    ∃ plan, library.plan? planId = some plan ∧ (library.planDependencies plan now).RemovalBlocked := by
  have others : ∀ name ∈ ["forbidden", "rate_plan_removed", "stale_revision", "rate_plan_confirmation_required",
      "stale_dependency_token"], name ≠ problem.code := by
    rw [code]
    decide
  unfold retireRatePlan at refused
  have refused := passed_of_code (others _ (by simp [Assignments.permissionDenied])) refused
  obtain ⟨plan, known, refused⟩ := found_of_code code refused
  refine ⟨plan, known, ?_⟩
  have refused := past_barrier known barrier refused
  split at refused
  · cases refused
  · have refused := passed_of_code (others _ (by simp [ratePlanUnavailable])) refused
    have refused := passed_of_code (others _ (by simp [staleRevision])) refused
    have refused := passed_of_code (others _ (by simp [planConfirmationRequired])) refused
    exact blocked_of_refused (passed_of_code (others _ (by simp [staleDependencyToken])) refused)

end Refusals

/-- A request to remove or retire a plan, refused for its dependencies and not by the reset barrier, is refused for a
plan with authority. -/
def RefusalJustified (state : Clocked) (turn : Turn) : Prop :=
  let now := state.now + turn.elapsed
  match turn.action with
  | .removeRatePlan _ planId _ | .retireRatePlan _ planId _ =>
      turn.services.ensureRatePlansResetMutationsAllowed [planId] = .ok () →
        ∀ problem, perform turn.services state.library now turn.action = .error (.problem problem) →
          problem.code = "rate_plan_dependencies" → state.library.Authority planId now
  | _ => True

theorem refusalJustified {state : Clocked} {turn : Turn} (sound : TurnSound state turn) : RefusalJustified state turn := by
  obtain ⟨services, elapsed, action⟩ := turn
  -- A blocked plan has authority, or a cancelled assignment that the condition excludes.
  have justified {plan : RatePlan} {planId : String} (known : state.library.plan? planId = some plan)
      (blocked : (state.library.planDependencies plan (state.now + elapsed)).RemovalBlocked)
      (condition : state.library.CancelledLeft planId (state.now + elapsed) →
        state.library.Authority planId (state.now + elapsed)) : state.library.Authority planId (state.now + elapsed) := by
    have either := authority_of_blocked blocked
    rw [plan?_id known] at either
    exact either.elim id condition
  cases action with
  | removeRatePlan principal planId payload =>
      intro barrier problem refused code
      obtain ⟨plan, known, blocked⟩ := removeRatePlan_refused barrier refused code
      exact justified known blocked sound
  | retireRatePlan principal planId payload =>
      intro barrier problem refused code
      obtain ⟨plan, known, blocked⟩ := retireRatePlan_refused barrier refused code
      exact justified known blocked sound
  | _ => exact trivial

/-! ## Runs -/

/-- No plans, no versions and no assignments, and no account that points to a version. -/
structure EmptyLibrary (library : RateLibrary) : Prop where
  plans : library.ratePlans = []
  versions : library.rateVersions = []
  assignments : library.rateAssignments = []
  pointers : ∀ account ∈ library.utilityAccounts, account.activeRateVersionId = none

theorem EmptyLibrary.linked {library : RateLibrary} (empty : EmptyLibrary library) : Linked library where
  planIds := by simp [empty.plans]
  versionIds := by simp [RateLibrary.versionIds, empty.versions]
  assignments := by simp [empty.assignments]
  pointers := fun account stored versionId points => by
    rw [empty.pointers account stored] at points
    cases points

theorem advance_powerless {state : Clocked} {turn : Turn} (linked : Linked state.library)
    (powerless : Powerless state.library state.now) (sound : TurnSound state turn) :
    Linked (advance state turn).library ∧ Powerless (advance state turn).library (advance state turn).now := by
  have effect := advance_effect state turn
  have later : Powerless state.library (state.now + turn.elapsed) := powerless.later (by omega)
  refine ⟨effect.linked linked, effect.powerless linked later ?_⟩
  intro principal versionId payload same version found clear
  unfold TurnSound at sound
  rw [same] at sound
  exact sound version found clear

/-- In a run whose turns meet the condition no plan that is gone has authority, and the requests that are refused for
dependencies are refused for authority. -/
theorem gone_plans_are_powerless {start : Clocked} (empty : EmptyLibrary start.library) {turns : List Turn}
    (sound : ∀ earlier turn later, turns = earlier ++ turn :: later → TurnSound (earlier.foldl advance start) turn) :
    (∀ earlier later, turns = earlier ++ later →
      Powerless (earlier.foldl advance start).library (earlier.foldl advance start).now) ∧
    ∀ earlier turn later, turns = earlier ++ turn :: later → RefusalJustified (earlier.foldl advance start) turn := by
  refine ⟨?_, fun earlier turn later split => refusalJustified (sound earlier turn later split)⟩
  rintro earlier later rfl
  have initial : Linked start.library ∧ Powerless start.library start.now :=
    ⟨empty.linked, by simp [Powerless, empty.plans]⟩
  have reached : Linked (earlier.foldl advance start).library ∧
      Powerless (earlier.foldl advance start).library (earlier.foldl advance start).now := by
    refine foldl_guarded (P := fun state : Clocked => Linked state.library ∧ Powerless state.library state.now)
      (G := TurnSound) initial (fun state turn kept => advance_powerless kept.1 kept.2) ?_
    rintro before turn after rfl
    exact sound before turn (after ++ later) (by simp)
  exact reached.2

/-- A plan is published, assigned, unassigned and retired. -/
def orderlyTurns : List Turn :=
  [requested (.createRatePlan owner flatDocument "plan" "v1"), requested (.activateManagedVersion owner "v1"),
    requested (.assign owner { accountId := "home", rateVersionId := "v1", effectiveFrom := 0 } "a1"),
    requested (.endAssignment owner { accountId := "home", effectiveAt := 2, representable := by decide }),
    requested (.retireRatePlan owner "plan" { expectedRevision := 1, confirmation := "FLAT" })]

instance (library : RateLibrary) (now : Int) : Decidable (Powerless library now) :=
  inferInstanceAs (Decidable (∀ plan ∈ library.ratePlans, plan.Gone → ¬ library.Authority plan.id now))

theorem newLibrary_empty : EmptyLibrary newLibrary.library := ⟨rfl, rfl, rfl, by decide⟩

theorem orderly_run_powerless :
    Powerless (orderlyTurns.foldl advance newLibrary).library (orderlyTurns.foldl advance newLibrary).now ∧
      (orderlyTurns.foldl advance newLibrary).library.ratePlans.map RatePlan.status = [.retired] := by
  refine ⟨(@gone_plans_are_powerless newLibrary newLibrary_empty orderlyTurns ?_).1 orderlyTurns [] (by simp),
    by decide⟩
  simp only [orderlyTurns, forall_splits_cons]
  refine ⟨trivial, trivial, trivial, trivial, ?_, forall_splits_nil⟩
  have clean : ¬ (([requested (.createRatePlan owner flatDocument "plan" "v1"), requested (.activateManagedVersion owner "v1"),
      requested (.assign owner { accountId := "home", rateVersionId := "v1", effectiveFrom := 0 } "a1"),
      requested (.endAssignment owner { accountId := "home", effectiveAt := 2, representable := by decide })].foldl advance
        newLibrary).library.CancelledLeft "plan" 5) := by decide
  exact fun left => absurd left clean

/-- The second version of a plan is retired while the first one is assigned. -/
def retiringTurns : List Turn :=
  [requested (.createRatePlan owner flatDocument "plan" "v1"), requested (.activateManagedVersion owner "v1"),
    requested (.assign owner { accountId := "home", rateVersionId := "v1", effectiveFrom := 0 } "a1"),
    requested (.createPlanVersion owner "plan" "v2"), requested (.activateManagedVersion owner "v2"),
    requested (.retireManagedVersion owner "v2" none)]

theorem retired_plan_keeps_assignment : EmptyLibrary newLibrary.library ∧
    ¬ Powerless (retiringTurns.foldl advance newLibrary).library (retiringTurns.foldl advance newLibrary).now :=
  ⟨newLibrary_empty, by decide⟩

end PowerMonitor.Lifecycle
