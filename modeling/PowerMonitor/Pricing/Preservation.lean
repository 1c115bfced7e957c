import PowerMonitor.Pricing.Baseline
import PowerMonitor.Pricing.Closure

/-! Pricing from the reset instant on.

The reset replaces every assignment that has started by one baseline. The baseline ends where the next
scheduled assignment starts, wherever the replaced one ended, so pricing is the same afterwards exactly when
the replaced assignment already ended there.
-/

set_option autoImplicit false
namespace PowerMonitor.Pricing
open Library

/-! ## Pricing in time -/

/-- A non-cancelled assignment of the account prices the instant. -/
def PricingRows.Prices (rows : PricingRows) (accountId : String) (instant : Int) (versionId : String) : Prop :=
  ∃ row ∈ rows.rateAssignments, row.Of accountId ∧ row.Covers instant ∧ row.rateVersionId = versionId

/-- The non-cancelled assignments of the account do not overlap. -/
def PricingRows.Disjoint (rows : PricingRows) (accountId : String) : Prop :=
  ∀ first ∈ rows.rateAssignments, ∀ second ∈ rows.rateAssignments, first.Of accountId → second.Of accountId →
    first ≠ second → ∀ instant, first.Covers instant → ¬ second.Covers instant

/-- The assignment of the reset instant ends where the next one starts. -/
def PricingRows.Continues (rows : PricingRows) (accountId : String) (resetAt : Int) : Prop :=
  ∃ current ∈ rows.rateAssignments, current.Of accountId ∧ current.Covers resetAt ∧
    current.effectiveTo = rows.futureStart accountId resetAt

/-- What a reset must keep for an account. -/
structure Preserved (before after : PricingRows) (accountId : String) (resetAt : Int) : Prop where
  pricing : ∀ instant, resetAt ≤ instant → ∀ versionId,
    after.Prices accountId instant versionId ↔ before.Prices accountId instant versionId
  disjoint : after.Disjoint accountId
  starts : ∀ row ∈ after.rateAssignments, row.utilityAccountId = accountId → resetAt ≤ row.effectiveFrom

/-- The assignments of the account are those scheduled after the reset and the baseline. -/
structure Rebased (before after : PricingRows) (accountId : String) (resetAt : Int) (baseline : RateAssignment) :
    Prop where
  owned : baseline.Of accountId
  start : baseline.effectiveFrom = resetAt
  finish : baseline.effectiveTo = before.futureStart accountId resetAt
  rows : ∀ row, row.utilityAccountId = accountId → (row ∈ after.rateAssignments ↔
    (row ∈ before.rateAssignments ∧ resetAt < row.effectiveFrom) ∨ row = baseline)

section Timeline
variable {before after : PricingRows} {accountId : String} {resetAt : Int} {baseline : RateAssignment}

theorem Rebased.covers_iff (rebased : Rebased before after accountId resetAt baseline) {instant : Int} :
    baseline.Covers instant ↔ resetAt ≤ instant ∧ ∀ start ∈ before.futureStart accountId resetAt, instant < start := by
  rw [RateAssignment.Covers, rebased.start, rebased.finish]

/-- A scheduled assignment starts after everything the baseline covers. -/
theorem Rebased.apart (rebased : Rebased before after accountId resetAt baseline) {row : RateAssignment}
    (stored : row ∈ before.rateAssignments) (owned : row.Of accountId) (later : resetAt < row.effectiveFrom)
    {instant : Int} (covered : baseline.Covers instant) : ¬ row.Covers instant := by
  obtain ⟨start, next, le⟩ := futureStart_le stored owned later
  have earlier := (rebased.covers_iff.mp covered).2 start next
  exact fun covers => absurd (covers.1.trans_lt earlier) (not_lt.mpr le)

theorem Rebased.disjoint (rebased : Rebased before after accountId resetAt baseline)
    (disjoint : before.Disjoint accountId) : after.Disjoint accountId := by
  intro first firstMember second secondMember firstOwned secondOwned differ instant firstCovers secondCovers
  rcases (rebased.rows first firstOwned.1).mp firstMember with ⟨firstStored, firstLater⟩ | rfl
  · rcases (rebased.rows second secondOwned.1).mp secondMember with ⟨secondStored, _⟩ | rfl
    · exact disjoint first firstStored second secondStored firstOwned secondOwned differ instant firstCovers secondCovers
    · exact rebased.apart firstStored firstOwned firstLater secondCovers firstCovers
  · rcases (rebased.rows second secondOwned.1).mp secondMember with ⟨secondStored, secondLater⟩ | rfl
    · exact rebased.apart secondStored secondOwned secondLater firstCovers secondCovers
    · exact differ rfl

theorem Rebased.starts (rebased : Rebased before after accountId resetAt baseline) {row : RateAssignment}
    (member : row ∈ after.rateAssignments) (owned : row.utilityAccountId = accountId) : resetAt ≤ row.effectiveFrom := by
  rcases (rebased.rows row owned).mp member with ⟨_, later⟩ | rfl
  · exact later.le
  · exact rebased.start.ge

/-- An assignment that has started and still prices a later instant prices the reset instant. -/
theorem covers_resetAt {row : RateAssignment} {instant : Int} (started : row.effectiveFrom ≤ resetAt)
    (later : resetAt ≤ instant) (covers : row.Covers instant) : row.Covers resetAt :=
  ⟨started, fun finish ends => later.trans_lt (covers.2 finish ends)⟩

theorem Disjoint.eq_of_covers (disjoint : before.Disjoint accountId) {first second : RateAssignment}
    (firstStored : first ∈ before.rateAssignments) (secondStored : second ∈ before.rateAssignments)
    (firstOwned : first.Of accountId) (secondOwned : second.Of accountId) {instant : Int}
    (firstCovers : first.Covers instant) (secondCovers : second.Covers instant) : first = second := by
  by_contra differ
  exact disjoint first firstStored second secondStored firstOwned secondOwned differ instant firstCovers secondCovers

/-- The window of the current assignment cannot reach past the next scheduled start. -/
theorem finish_le_futureStart (disjoint : before.Disjoint accountId) {current : RateAssignment}
    (stored : current ∈ before.rateAssignments) (owned : current.Of accountId) (covers : current.Covers resetAt)
    {start : Int} (next : before.futureStart accountId resetAt = some start) :
    ∃ finish, current.effectiveTo = some finish ∧ finish ≤ start := by
  obtain ⟨row, scheduled, rowOwned, later, rfl⟩ := futureStart_some next
  have rowCovers : row.Covers row.effectiveFrom := ⟨le_rfl, row.window⟩
  have uncovered : ¬ current.Covers row.effectiveFrom := by
    intro reaches
    have same := Disjoint.eq_of_covers disjoint stored scheduled owned rowOwned reaches rowCovers
    exact absurd covers.1 (not_le.mpr (same ▸ later))
  cases ends : current.effectiveTo with
  | none =>
      refine absurd ⟨covers.1.trans later.le, fun finish member => ?_⟩ uncovered
      rw [ends] at member
      cases member
  | some finish =>
      refine ⟨finish, rfl, ?_⟩
      by_contra past
      refine uncovered ⟨covers.1.trans later.le, fun other member => ?_⟩
      rw [ends] at member
      rw [← Option.some.inj member]
      exact not_le.mp past

/-- Without a gap or an overlap at its end, the baseline prices what the current assignment priced. -/
theorem Rebased.pricing_of_continues (rebased : Rebased before after accountId resetAt baseline)
    (disjoint : before.Disjoint accountId) (continues : before.Continues accountId resetAt)
    (version : ∀ current ∈ before.rateAssignments, current.Of accountId → current.Covers resetAt →
      current.rateVersionId = baseline.rateVersionId)
    {instant : Int} (later : resetAt ≤ instant) (versionId : String) :
    after.Prices accountId instant versionId ↔ before.Prices accountId instant versionId := by
  obtain ⟨current, stored, owned, covers, ends⟩ := continues
  have baseline_iff : baseline.Covers instant ↔ current.Covers instant := by
    rw [rebased.covers_iff, RateAssignment.Covers, ends]
    exact ⟨fun held => ⟨covers.1.trans later, held.2⟩, fun held => ⟨later, held.2⟩⟩
  constructor
  · rintro ⟨row, member, rowOwned, rowCovers, priced⟩
    rcases (rebased.rows row rowOwned.1).mp member with ⟨kept, _⟩ | rfl
    · exact ⟨row, kept, rowOwned, rowCovers, priced⟩
    · exact ⟨current, stored, owned, baseline_iff.mp rowCovers, (version current stored owned covers).trans priced⟩
  · rintro ⟨row, kept, rowOwned, rowCovers, priced⟩
    by_cases scheduled : resetAt < row.effectiveFrom
    · exact ⟨row, (rebased.rows row rowOwned.1).mpr (.inl ⟨kept, scheduled⟩), rowOwned, rowCovers, priced⟩
    · -- the row has started, so it is the current assignment
      have atReset := covers_resetAt (not_lt.mp scheduled) later rowCovers
      have same := Disjoint.eq_of_covers disjoint kept stored rowOwned owned atReset covers
      refine ⟨baseline, (rebased.rows baseline rebased.owned.1).mpr (.inr rfl), rebased.owned, ?_, ?_⟩
      · exact baseline_iff.mpr (same ▸ rowCovers)
      · rw [← priced, ← version row kept rowOwned atReset]

/-- Equal pricing forces the current assignment to end at the next scheduled start. -/
theorem Rebased.continues_of_pricing (rebased : Rebased before after accountId resetAt baseline)
    (disjoint : before.Disjoint accountId)
    (pricing : ∀ instant, resetAt ≤ instant → ∀ versionId,
      after.Prices accountId instant versionId ↔ before.Prices accountId instant versionId) :
    before.Continues accountId resetAt := by
  have priced : ∀ instant, baseline.Covers instant → after.Prices accountId instant baseline.rateVersionId :=
    fun instant covers =>
      ⟨baseline, (rebased.rows baseline rebased.owned.1).mpr (.inr rfl), rebased.owned, covers, rfl⟩
  have atReset : baseline.Covers resetAt :=
    rebased.covers_iff.mpr ⟨le_rfl, fun start next => resetAt_lt_futureStart next⟩
  obtain ⟨current, stored, owned, covers, _⟩ := (pricing resetAt le_rfl _).mp (priced resetAt atReset)
  refine ⟨current, stored, owned, covers, ?_⟩
  -- if the window ended earlier, its end would be priced by the baseline and by nothing before
  cases ends : current.effectiveTo with
  | none =>
      cases next : before.futureStart accountId resetAt with
      | none => rfl
      | some start =>
          obtain ⟨finish, bounded, _⟩ := finish_le_futureStart disjoint stored owned covers next
          rw [ends] at bounded
          cases bounded
  | some finish =>
      have afterReset : resetAt < finish := covers.2 finish ends
      by_contra differs
      have gap : baseline.Covers finish := by
        refine rebased.covers_iff.mpr ⟨afterReset.le, fun start next => ?_⟩
        obtain ⟨other, same, le⟩ := finish_le_futureStart disjoint stored owned covers next
        rw [ends] at same
        obtain rfl := Option.some.inj same
        refine lt_of_le_of_ne le fun equal => differs ?_
        rw [equal]
        exact next.symm
      obtain ⟨row, kept, rowOwned, rowCovers, _⟩ := (pricing finish afterReset.le _).mp (priced finish gap)
      by_cases scheduled : resetAt < row.effectiveFrom
      · exact rebased.apart kept rowOwned scheduled gap rowCovers
      · have reaches := covers_resetAt (not_lt.mp scheduled) afterReset.le rowCovers
        have same := Disjoint.eq_of_covers disjoint kept stored rowOwned owned reaches covers
        exact absurd ((same ▸ rowCovers).2 finish ends) (lt_irrefl _)

theorem Rebased.preserved_iff (rebased : Rebased before after accountId resetAt baseline)
    (disjoint : before.Disjoint accountId)
    (version : ∀ current ∈ before.rateAssignments, current.Of accountId → current.Covers resetAt →
      current.rateVersionId = baseline.rateVersionId) :
    Preserved before after accountId resetAt ↔ before.Continues accountId resetAt := by
  constructor
  · exact fun preserved => rebased.continues_of_pricing disjoint preserved.pricing
  · exact fun continues => ⟨fun instant later versionId =>
      rebased.pricing_of_continues disjoint continues version later versionId,
      rebased.disjoint disjoint, fun row member owned => rebased.starts member owned⟩

end Timeline

/-! ## The reset rebases every priced account -/

/-- Assignments that cover the reset instant are the only ones the snapshot chooses from. -/
theorem currentAssignment_eq {rows : PricingRows} {accountId : String} {resetAt : Int}
    (disjoint : rows.Disjoint accountId) {current : RateAssignment} (stored : current ∈ rows.rateAssignments)
    (owned : current.Of accountId) (covers : current.Covers resetAt) :
    rows.currentAssignment accountId resetAt = some current := by
  have listed : current ∈ rows.rateAssignments.filter fun row => decide (row.Of accountId ∧ row.Covers resetAt) :=
    List.mem_filter.mpr ⟨stored, decide_eq_true ⟨owned, covers⟩⟩
  cases chosen : rows.currentAssignment accountId resetAt with
  | none =>
      rw [PricingRows.currentAssignment, List.head?_eq_none_iff, ← List.length_eq_zero_iff, List.length_insertionSort,
        List.length_eq_zero_iff] at chosen
      rw [chosen] at listed
      exact absurd listed List.not_mem_nil
  | some row =>
      have member := List.mem_of_head? chosen
      rw [List.mem_insertionSort, List.mem_filter] at member
      obtain ⟨rowOwned, rowCovers⟩ := of_decide_eq_true member.2
      rw [Disjoint.eq_of_covers disjoint member.1 stored rowOwned owned rowCovers covers]

section Reset
variable {Document : Type} {versionDocument : RatePlan → RateVersion → List VersionChild → Document}
  {canonicalSha256 : CanonicalConfiguration Document → String} {newId : String → String} {resetAt : Int}

/-- An approved snapshot that still holds names the version of the current assignment. -/
theorem checkPricing_version {rows : PricingRows} {approved : PricingSnapshot Document}
    (passed : checkPricing versionDocument canonicalSha256 rows resetAt approved = .ok ())
    (disjoint : rows.Disjoint approved.utilityAccountId) {current : RateAssignment}
    (stored : current ∈ rows.rateAssignments) (owned : current.Of approved.utilityAccountId)
    (covers : current.Covers resetAt) : current.rateVersionId = approved.rateVersionId := by
  rw [checkPricing] at passed
  obtain ⟨account, found, passed⟩ := bind_eq_ok.mp passed
  obtain ⟨taken, snapshot, passed⟩ := bind_eq_ok.mp passed
  obtain ⟨seen, present, passed⟩ := bind_eq_ok.mp passed
  obtain rfl := require_eq_ok.mp present
  have unchanged := raiseIf_eq_ok.mp passed
  simp only [not_or, not_not] at unchanged
  have named : account.id = approved.utilityAccountId := by simpa using List.find?_some (require_eq_ok.mp found)
  have priced := (activePricingSnapshot_some versionDocument canonicalSha256 snapshot).2
  rw [PricingRows.pricingVersion, named, currentAssignment_eq disjoint stored owned covers] at priced
  rw [← unchanged.2.1]
  exact Option.some.inj priced

theorem installBaseline_assignments {rows next : PricingRows} {approved : PricingSnapshot Document}
    (ok : installBaseline versionDocument canonicalSha256 newId resetAt rows approved = .ok next) :
    next.rateAssignments = rows.rateAssignments ++ [baselineAssignment newId resetAt rows approved] := by
  rw [installBaseline] at ok
  obtain ⟨account, _, ok⟩ := bind_eq_ok.mp ok
  obtain ⟨version, _, ok⟩ := bind_eq_ok.mp ok
  obtain ⟨plan, _, ok⟩ := bind_eq_ok.mp ok
  obtain ⟨snapshot, _, ok⟩ := bind_eq_ok.mp ok
  obtain ⟨_, ok⟩ := raiseIf_bind_eq_ok.mp ok
  rw [← Except.ok.inj ok]

/-- A baseline starts at the reset instant and is not a scheduled assignment. -/
theorem futureStart_append_baseline {rows next : PricingRows} {approved : PricingSnapshot Document}
    (appended : next.rateAssignments = rows.rateAssignments ++ [baselineAssignment newId resetAt rows approved])
    (accountId : String) : next.futureStart accountId resetAt = rows.futureStart accountId resetAt := by
  simp [PricingRows.futureStart, PricingRows.futureStarts, appended, List.filter_append, baselineAssignment]

theorem baselineAssignment_congr {rows next : PricingRows} {approved : PricingSnapshot Document}
    (same : next.futureStart approved.utilityAccountId resetAt = rows.futureStart approved.utilityAccountId resetAt) :
    baselineAssignment newId resetAt next approved = baselineAssignment newId resetAt rows approved := by
  unfold baselineAssignment
  congr 1

/-- The loop appends one baseline for each approved snapshot. -/
theorem foldlM_installBaseline {pricing : List (PricingSnapshot Document)} {rows after : PricingRows}
    (ok : pricing.foldlM (installBaseline versionDocument canonicalSha256 newId resetAt) rows = .ok after) :
    after.rateAssignments = rows.rateAssignments ++ pricing.map (baselineAssignment newId resetAt rows) := by
  induction pricing generalizing rows with
  | nil =>
      rw [← Except.ok.inj ok]
      exact (List.append_nil _).symm
  | cons approved rest ih =>
      rw [List.foldlM_cons] at ok
      obtain ⟨next, first, ok⟩ := bind_eq_ok.mp ok
      have appended := installBaseline_assignments first
      have later : rest.map (baselineAssignment newId resetAt next) = rest.map (baselineAssignment newId resetAt rows) :=
        List.map_congr_left fun other _ => baselineAssignment_congr (futureStart_append_baseline appended _)
      rw [ih ok, later, appended, List.append_assoc]
      rfl

theorem mapM_snapshot_accounts {rows : PricingRows} {accounts : List UtilityAccount}
    {snapshots : List (Option (PricingSnapshot Document))}
    (taken : accounts.mapM (fun account => activePricingSnapshot versionDocument canonicalSha256 rows account resetAt) =
      .ok snapshots) :
    ((snapshots.filterMap id).map PricingSnapshot.utilityAccountId).Sublist (accounts.map UtilityAccount.id) := by
  induction accounts generalizing snapshots with
  | nil =>
      obtain rfl := Except.ok.inj taken
      exact List.Sublist.refl _
  | cons account rest ih =>
      rw [List.mapM_cons] at taken
      obtain ⟨first, snapshot, taken⟩ := bind_eq_ok.mp taken
      obtain ⟨others, later, taken⟩ := bind_eq_ok.mp taken
      obtain rfl := Except.ok.inj taken
      cases first with
      | none => exact (ih later).cons _
      | some value =>
          have named := (activePricingSnapshot_some versionDocument canonicalSha256 snapshot).1
          show (value.utilityAccountId :: (others.filterMap id).map PricingSnapshot.utilityAccountId).Sublist
            (account.id :: rest.map UtilityAccount.id)
          rw [named]
          exact (ih later).cons_cons _

theorem planPricing_accounts {planned : Database} {siteId : String} {deletesBills : Bool} {plan : PricingPlan Document}
    (ok : planPricing versionDocument canonicalSha256 planned.toPricingRows siteId resetAt deletesBills = .ok plan) :
    (plan.pricing.map PricingSnapshot.utilityAccountId).Nodup ∧
      plan.pricing.map PricingSnapshot.utilityAccountId ⊆ plan.accountScopeIds := by
  rw [planPricing] at ok
  obtain ⟨snapshots, taken, ok⟩ := bind_eq_ok.mp ok
  obtain ⟨scope, _, ok⟩ := bind_eq_ok.mp ok
  obtain rfl := Except.ok.inj ok
  have active : ((snapshots.filterMap id).map PricingSnapshot.utilityAccountId).Sublist
      ((planned.toPricingRows.siteAccounts siteId).map UtilityAccount.id) :=
    (mapM_snapshot_accounts taken).trans (List.filter_sublist.map _)
  have unique : ((planned.toPricingRows.siteAccounts siteId).map UtilityAccount.id).Nodup :=
    planned.keys.utilityAccounts.sublist (List.filter_sublist.map _)
  exact ⟨unique.sublist active, active.subset⟩

/-- A scheduled assignment is not in the deletion scope, for identifiers are unique. -/
theorem not_mem_assignmentIds {rows : PricingRows} (unique : (rows.rateAssignments.map RateAssignment.id).Nodup)
    {request : ScopeRequest} {row : RateAssignment} (stored : row ∈ rows.rateAssignments)
    (later : request.resetAt < row.effectiveFrom) : row.id ∉ rows.assignmentIds request := by
  intro member
  obtain ⟨other, chosen, same⟩ := List.mem_map.mp member
  obtain ⟨present, conditions⟩ := List.mem_filter.mp chosen
  have equal := List.inj_on_of_nodup_map unique present stored same
  exact absurd (of_decide_eq_true conditions).2 (not_le.mpr (equal ▸ later))

/-- What the deletion leaves of the assignments. -/
theorem mem_keep_assignmentIds {rows : PricingRows} (unique : (rows.rateAssignments.map RateAssignment.id).Nodup)
    {request : ScopeRequest} {row : RateAssignment} (inScope : row.utilityAccountId ∈ request.accountIds) :
    row ∈ keep RateAssignment.id rows.rateAssignments (rows.assignmentIds request) ↔
      row ∈ rows.rateAssignments ∧ request.resetAt < row.effectiveFrom := by
  rw [mem_keep]
  constructor
  · rintro ⟨stored, outside⟩
    refine ⟨stored, not_le.mp fun started => outside ?_⟩
    exact List.mem_map.mpr ⟨row, List.mem_filter.mpr ⟨stored, decide_eq_true ⟨inScope, started⟩⟩, rfl⟩
  · exact fun kept => ⟨kept.1, not_mem_assignmentIds unique kept.1 kept.2⟩

theorem futureStart_keep {rows cleared : PricingRows} (unique : (rows.rateAssignments.map RateAssignment.id).Nodup)
    {request : ScopeRequest}
    (kept : cleared.rateAssignments = keep RateAssignment.id rows.rateAssignments (rows.assignmentIds request))
    (accountId : String) : cleared.futureStart accountId request.resetAt = rows.futureStart accountId request.resetAt := by
  have same : (keep RateAssignment.id rows.rateAssignments (rows.assignmentIds request)).filter
        (fun row => decide (row.Of accountId ∧ request.resetAt < row.effectiveFrom)) =
      rows.rateAssignments.filter fun row => decide (row.Of accountId ∧ request.resetAt < row.effectiveFrom) := by
    rw [keep, List.filter_filter]
    refine List.filter_congr fun row stored => ?_
    by_cases scheduled : row.Of accountId ∧ request.resetAt < row.effectiveFrom
    · simp [scheduled, not_mem_assignmentIds unique stored scheduled.2]
    · simp [scheduled]
  rw [PricingRows.futureStart, PricingRows.futureStarts, kept, same]
  rfl

/-- Each account of the plan is left with its scheduled assignments and the baseline. -/
theorem resetPricing_rebased {db : Database} {plan : PricingPlan Document} {after : PricingRows}
    (ok : resetPricing versionDocument canonicalSha256 newId db.toPricingRows plan = .ok after)
    (distinct : (plan.pricing.map PricingSnapshot.utilityAccountId).Nodup)
    (inScope : plan.pricing.map PricingSnapshot.utilityAccountId ⊆ plan.accountScopeIds)
    {snapshot : PricingSnapshot Document} (listed : snapshot ∈ plan.pricing) :
    Rebased db.toPricingRows after snapshot.utilityAccountId plan.resetAt
      (baselineAssignment newId plan.resetAt db.toPricingRows snapshot) ∧
    checkPricing versionDocument canonicalSha256 db.toPricingRows plan.resetAt snapshot = .ok () := by
  rw [resetPricing] at ok
  obtain ⟨_, ok⟩ := raiseIf_bind_eq_ok.mp ok
  obtain ⟨_, checks, ok⟩ := bind_eq_ok.mp ok
  obtain ⟨fresh, ok⟩ := raiseIf_bind_eq_ok.mp ok
  obtain ⟨cleared, deletion, ok⟩ := bind_eq_ok.mp ok
  refine ⟨?_, forM_eq_ok.mp checks snapshot listed⟩
  obtain ⟨versionIds, ends, same⟩ := Option.map_eq_some_iff.mp (not_not.mp fresh)
  -- the deletion of the approved scope keeps the assignments outside of it
  rw [← same, deletePricingHistoryScope_returns db.keys ends] at deletion
  obtain rfl := Except.ok.inj deletion
  have scheduled := @futureStart_keep db.toPricingRows
    ((deleteAccountHistory db.toPricingRows plan.accountScopeIds).without
      (db.toPricingRows.historyScope plan.request versionIds)) db.keys.rateAssignments plan.request rfl
  have appended := foldlM_installBaseline ok
  have account := inScope (List.mem_map.mpr ⟨snapshot, listed, rfl⟩)
  refine ⟨⟨rfl, rfl⟩, rfl, rfl, fun row owned => ?_⟩
  rw [appended, List.mem_append]
  refine or_congr (mem_keep_assignmentIds db.keys.rateAssignments (owned ▸ account)) ?_
  constructor
  · intro member
    obtain ⟨other, otherListed, rfl⟩ := List.mem_map.mp member
    have equal := List.inj_on_of_nodup_map distinct otherListed listed owned
    rw [equal]
    exact baselineAssignment_congr (scheduled _)
  · rintro rfl
    exact List.mem_map.mpr ⟨snapshot, listed, baselineAssignment_congr (scheduled _)⟩

/-- After a reset the account is priced as before, without overlap and from the reset instant on, exactly when the
assignment of that instant ended at the next scheduled start. -/
theorem pricing_preserved_iff {planned db : Database} {siteId : String} {deletesBills : Bool}
    {plan : PricingPlan Document} {after : PricingRows}
    (approved : planPricing versionDocument canonicalSha256 planned.toPricingRows siteId resetAt deletesBills = .ok plan)
    (ok : resetPricing versionDocument canonicalSha256 newId db.toPricingRows plan = .ok after)
    {snapshot : PricingSnapshot Document} (listed : snapshot ∈ plan.pricing)
    (disjoint : db.toPricingRows.Disjoint snapshot.utilityAccountId) :
    Preserved db.toPricingRows after snapshot.utilityAccountId plan.resetAt ↔
      db.toPricingRows.Continues snapshot.utilityAccountId plan.resetAt := by
  obtain ⟨distinct, inScope⟩ := planPricing_accounts approved
  obtain ⟨rebased, checked⟩ := resetPricing_rebased ok distinct inScope listed
  exact rebased.preserved_iff disjoint fun current stored owned covers =>
    checkPricing_version checked disjoint stored owned covers

end Reset

/-- One account with one assignment that starts at zero. -/
def assignedUntil (finish : Option Int) (window : ∀ last ∈ finish, 0 < last) : Database where
  utilityAccounts := [{ id := "account", siteId := "site" }]
  ratePlans := [{ id := "plan" }]
  rateVersions := [{ id := "version", ratePlanId := "plan" }]
  rateAssignments := [
    { id := "first", utilityAccountId := "account", rateVersionId := "version", effectiveFrom := 0
      effectiveTo := finish, window := window }]
  keys := by constructor <;> simp

theorem assignedUntil_disjoint (finish : Option Int) (window : ∀ last ∈ finish, 0 < last) (accountId : String) :
    (assignedUntil finish window).toPricingRows.Disjoint accountId := by
  intro first firstMember second secondMember _ _ differ
  exact absurd ((List.mem_singleton.mp firstMember).trans (List.mem_singleton.mp secondMember).symm) differ

def plainDocument (_ : RatePlan) (_ : RateVersion) (_ : List VersionChild) : Unit := ()

def versionHash (canonical : CanonicalConfiguration Unit) : String := canonical.rateVersionId

/-- An assignment without an end and without a successor is continued as it was. -/
theorem pricing_preserved_open : ∃ after : PricingRows,
    Preserved (assignedUntil none (by simp)).toPricingRows after "account" 10 := by
  obtain ⟨plan, after, snapshot, approved, ok, listed, named, at_⟩ : ∃ plan after, ∃ snapshot : PricingSnapshot Unit,
      planPricing plainDocument versionHash (assignedUntil none (by simp)).toPricingRows "site" 10 false = .ok plan ∧
      resetPricing plainDocument versionHash id (assignedUntil none (by simp)).toPricingRows plan = .ok after ∧
      snapshot ∈ plan.pricing ∧ snapshot.utilityAccountId = "account" ∧ plan.resetAt = 10 :=
    ⟨_, _, _, rfl, rfl, List.mem_singleton_self _, rfl, rfl⟩
  have exact_ := pricing_preserved_iff approved ok listed (assignedUntil_disjoint none _ _)
  rw [named, at_] at exact_
  refine ⟨after, exact_.mpr ⟨_, List.mem_singleton_self _, ⟨rfl, rfl⟩, ⟨by decide, by simp⟩, rfl⟩⟩

/-- An assignment that was to end keeps pricing after its end. -/
theorem endingAssignment_outlives : ¬ ∀ (planned db : Database) (siteId : String) (resetAt : Int) (deletesBills : Bool)
    (plan : PricingPlan Unit) (after : PricingRows),
    planPricing plainDocument versionHash planned.toPricingRows siteId resetAt deletesBills = .ok plan →
    resetPricing plainDocument versionHash id db.toPricingRows plan = .ok after →
    ∀ snapshot ∈ plan.pricing, db.toPricingRows.Disjoint snapshot.utilityAccountId →
      Preserved db.toPricingRows after snapshot.utilityAccountId plan.resetAt := by
  intro always
  obtain ⟨plan, after, snapshot, approved, ok, listed, named, at_⟩ : ∃ plan after, ∃ snapshot : PricingSnapshot Unit,
      planPricing plainDocument versionHash (assignedUntil (some 20) (by simp)).toPricingRows "site" 10 false =
        .ok plan ∧
      resetPricing plainDocument versionHash id (assignedUntil (some 20) (by simp)).toPricingRows plan = .ok after ∧
      snapshot ∈ plan.pricing ∧ snapshot.utilityAccountId = "account" ∧ plan.resetAt = 10 :=
    ⟨_, _, _, rfl, rfl, List.mem_singleton_self _, rfl, rfl⟩
  have disjoint := assignedUntil_disjoint (some 20) (by simp) snapshot.utilityAccountId
  have preserved := always _ _ _ _ _ plan after approved ok snapshot listed disjoint
  obtain ⟨distinct, inScope⟩ := planPricing_accounts approved
  obtain ⟨rebased, _⟩ := resetPricing_rebased ok distinct inScope listed
  obtain ⟨current, stored, _, _, ends⟩ := rebased.continues_of_pricing disjoint preserved.pricing
  rw [List.mem_singleton.mp stored, named, at_] at ends
  exact absurd ends (by decide)

end PowerMonitor.Pricing
