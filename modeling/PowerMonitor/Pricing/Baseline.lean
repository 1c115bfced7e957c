import PowerMonitor.Pricing.Scope
import PowerMonitor.Pricing.Snapshot

/-! The pricing part of `perform_central_reset`.

A plan records the pricing of the active accounts of a site and the deletion scope. The reset checks both
against the rows it finds, deletes the history and gives every priced account one baseline assignment that
starts at the reset instant.
-/

set_option autoImplicit false
namespace PowerMonitor.Pricing
open Library

/-- What the approved plan records about pricing. -/
structure PricingPlan (Document : Type) where
  siteId : String
  resetAt : Int
  deleteImportedBillDocuments : Bool
  accountScopeIds : List String
  pricing : List (PricingSnapshot Document)
  pricingHistoryScope : PricingHistoryScope

/-- What the plan asks of `_pricing_history_scope`. -/
def PricingPlan.request {Document : Type} (plan : PricingPlan Document) : ScopeRequest :=
  { siteId := plan.siteId
    accountIds := plan.accountScopeIds
    protectedVersionIds := protectedPricingVersionIds plan.pricing
    resetAt := plan.resetAt
    deleteImportedBillDocuments := plan.deleteImportedBillDocuments }

def PricingRows.siteAccounts (rows : PricingRows) (siteId : String) : List UtilityAccount :=
  rows.utilityAccounts.filter fun account => account.siteId = siteId

section Scheduled
variable (rows : PricingRows) (accountId : String) (resetAt : Int)

/-- The starts of the assignments scheduled after the reset. -/
def PricingRows.futureStarts : List Int :=
  (rows.rateAssignments.filter fun row => decide (row.Of accountId ∧ resetAt < row.effectiveFrom)).map
    RateAssignment.effectiveFrom

def PricingRows.futureStart : Option Int := (rows.futureStarts accountId resetAt).min?

variable {rows accountId resetAt}

theorem mem_futureStarts {start : Int} : start ∈ rows.futureStarts accountId resetAt ↔
    ∃ row ∈ rows.rateAssignments, row.Of accountId ∧ resetAt < row.effectiveFrom ∧ row.effectiveFrom = start := by
  simp only [PricingRows.futureStarts, List.mem_map, List.mem_filter, decide_eq_true_eq, and_assoc]

theorem futureStart_some {start : Int} (next : rows.futureStart accountId resetAt = some start) :
    ∃ row ∈ rows.rateAssignments, row.Of accountId ∧ resetAt < row.effectiveFrom ∧ row.effectiveFrom = start :=
  mem_futureStarts.mp (List.min?_mem next)

theorem resetAt_lt_futureStart {start : Int} (next : start ∈ rows.futureStart accountId resetAt) : resetAt < start := by
  obtain ⟨row, _, _, later, rfl⟩ := futureStart_some next
  exact later

theorem futureStart_le {row : RateAssignment} (stored : row ∈ rows.rateAssignments) (owned : row.Of accountId)
    (later : resetAt < row.effectiveFrom) :
    ∃ start, rows.futureStart accountId resetAt = some start ∧ start ≤ row.effectiveFrom := by
  have listed : row.effectiveFrom ∈ rows.futureStarts accountId resetAt :=
    mem_futureStarts.mpr ⟨row, stored, owned, later, rfl⟩
  cases next : rows.futureStart accountId resetAt with
  | none =>
      rw [List.min?_eq_none_iff.mp next] at listed
      exact absurd listed List.not_mem_nil
  | some start => exact ⟨start, rfl, (List.min?_eq_some_iff.mp next).2 _ listed⟩

end Scheduled

def pricingAccountChanged : ProblemError :=
  { status := 409
    title := "Pricing account changed"
    detail := "A utility account from the reset plan is no longer available"
    code := "data_reset_pricing_changed" }

def pricingConfigurationChanged (detail : String) : ProblemError :=
  { status := 409
    title := "Pricing configuration changed"
    detail := detail
    code := "data_reset_pricing_changed" }

def accountScopeChanged : ProblemError :=
  { status := 409
    title := "Utility-account scope changed"
    detail := "The site's utility-account scope changed after the reset plan was approved"
    code := "data_reset_plan_stale" }

def pricingHashMismatch : ProblemError :=
  { status := 409
    title := "Pricing preservation verification failed"
    detail := "The exact active rate configuration changed during reset"
    code := "data_reset_pricing_hash_mismatch" }

section Reset
variable {Document : Type} (versionDocument : RatePlan → RateVersion → List VersionChild → Document)
  (canonicalSha256 : CanonicalConfiguration Document → String)

/-- The pricing entries of `calculate_plan_snapshot`. -/
def planPricing (rows : PricingRows) (siteId : String) (resetAt : Int) (deleteImportedBillDocuments : Bool) :
    Except ProblemError (PricingPlan Document) := do
  let accounts := rows.siteAccounts siteId
  let snapshots ← (accounts.filter UtilityAccount.active).mapM fun account =>
    activePricingSnapshot versionDocument canonicalSha256 rows account resetAt
  let pricing := snapshots.filterMap id
  let accountIds := accounts.map UtilityAccount.id
  -- the scope is there, for the loop over the parent links ends within this fuel
  let scope ← require (pricingHistoryScope rows
      ⟨siteId, accountIds, protectedPricingVersionIds pricing, resetAt, deleteImportedBillDocuments⟩
      (rows.rateVersions.length + 1)) (pricingInvalid "")
  pure
    { siteId := siteId
      resetAt := resetAt
      deleteImportedBillDocuments := deleteImportedBillDocuments
      accountScopeIds := accountIds
      pricing := pricing
      pricingHistoryScope := scope }

/-- The pricing of an account is still as approved. -/
def checkPricing (rows : PricingRows) (resetAt : Int) (approved : PricingSnapshot Document) : Except ProblemError Unit := do
  let changed := pricingConfigurationChanged "Active or future pricing changed after the reset plan was approved"
  let account ← require (rows.utilityAccounts.find? fun row => row.id = approved.utilityAccountId) changed
  let snapshot ← activePricingSnapshot versionDocument canonicalSha256 rows account resetAt
  let current ← require snapshot changed
  raiseIf (current.ratePlanId ≠ approved.ratePlanId ∨ current.rateVersionId ≠ approved.rateVersionId ∨
    current.rateAssignmentId ≠ approved.rateAssignmentId ∨
    current.pricingConfigurationHash ≠ approved.pricingConfigurationHash ∨
    current.futureAssignmentIds ≠ approved.futureAssignmentIds) changed

/-- The assignment that continues the approved version from the reset instant to the next scheduled start. -/
def baselineAssignment (newId : String → String) (resetAt : Int) (rows : PricingRows)
    (approved : PricingSnapshot Document) : RateAssignment :=
  { id := newId approved.utilityAccountId
    utilityAccountId := approved.utilityAccountId
    rateVersionId := approved.rateVersionId
    effectiveFrom := resetAt
    effectiveTo := rows.futureStart approved.utilityAccountId resetAt
    window := fun _ next => resetAt_lt_futureStart next }

/-- One turn of the baseline loop. -/
def installBaseline (newId : String → String) (resetAt : Int) (rows : PricingRows)
    (approved : PricingSnapshot Document) : Except ProblemError PricingRows := do
  let account ← require (rows.utilityAccounts.find? fun row => row.id = approved.utilityAccountId) pricingAccountChanged
  let unavailable := pricingConfigurationChanged "The active rate selected in the reset plan is no longer available"
  let version ← require (rows.rateVersions.find? fun row => row.id = approved.rateVersionId) unavailable
  let _ ← require (rows.ratePlans.find? fun row => row.id = approved.ratePlanId) unavailable
  let assigned := { rows with
    rateAssignments := rows.rateAssignments ++ [baselineAssignment newId resetAt rows approved] }
  let after ← activePricingSnapshot versionDocument canonicalSha256 assigned account resetAt
  raiseIf (after.map PricingSnapshot.pricingConfigurationHash ≠ some approved.pricingConfigurationHash) pricingHashMismatch
  pure { assigned with
    pricingBaselines := assigned.pricingBaselines ++ [⟨newId version.id, approved.utilityAccountId, approved.rateVersionId⟩] }

/-- The pricing part of `perform_central_reset`. -/
def resetPricing (newId : String → String) (rows : PricingRows) (plan : PricingPlan Document) :
    Except ProblemError PricingRows := do
  let accountIds := (rows.siteAccounts plan.siteId).map UtilityAccount.id
  raiseIf (¬ (accountIds ⊆ plan.accountScopeIds ∧ plan.accountScopeIds ⊆ accountIds)) accountScopeChanged
  plan.pricing.forM (checkPricing versionDocument canonicalSha256 rows plan.resetAt)
  raiseIf (pricingHistoryScope rows plan.request (rows.rateVersions.length + 1) ≠ some plan.pricingHistoryScope)
    (pricingHistoryChanged "Pricing-history rows or preserved dependencies changed after plan approval")
  let cleared ← deletePricingHistoryScope (deleteAccountHistory rows plan.accountScopeIds) plan.pricingHistoryScope
  plan.pricing.foldlM (installBaseline versionDocument canonicalSha256 newId plan.resetAt) cleared

end Reset
end PowerMonitor.Pricing
