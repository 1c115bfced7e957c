import Mathlib.Data.List.Sort
import PowerMonitor.Library.Fallible
import PowerMonitor.Pricing.Records

/-! `_active_pricing_snapshot` and the versions a snapshot protects.

The document of a version is computed from the version, its plan and its rule rows by a parameter, and
the canonical configuration is hashed by a parameter. The end of the current billing cycle is left out.
-/

set_option autoImplicit false
namespace PowerMonitor.Pricing
open Library

/-- The assignment covers an instant. -/
def RateAssignment.Covers (row : RateAssignment) (instant : Int) : Prop :=
  row.effectiveFrom ≤ instant ∧ ∀ finish ∈ row.effectiveTo, instant < finish

instance (row : RateAssignment) (instant : Int) : Decidable (row.Covers instant) := inferInstanceAs (Decidable (_ ∧ _))

/-- The assignment belongs to the account and has not been cancelled. -/
def RateAssignment.Of (row : RateAssignment) (accountId : String) : Prop :=
  row.utilityAccountId = accountId ∧ row.cancelledAt = none

instance (row : RateAssignment) (accountId : String) : Decidable (row.Of accountId) :=
  inferInstanceAs (Decidable (_ ∧ _))

namespace PricingRows
variable (rows : PricingRows) (accountId : String) (resetAt : Int)

/-- The latest assignment of the account that covers the reset instant. -/
def currentAssignment : Option RateAssignment :=
  ((rows.rateAssignments.filter fun row => decide (row.Of accountId ∧ row.Covers resetAt)).insertionSort
    fun first second => second.effectiveFrom < first.effectiveFrom ∨
      (second.effectiveFrom = first.effectiveFrom ∧ second.revision ≤ first.revision)).head?

/-- Scheduled assignments in the order of their start. -/
def futureAssignments : List RateAssignment :=
  (rows.rateAssignments.filter fun row => decide (row.Of accountId ∧ resetAt < row.effectiveFrom)).insertionSort
    fun first second => first.effectiveFrom < second.effectiveFrom ∨
      (first.effectiveFrom = second.effectiveFrom ∧ first.id ≤ second.id)

def activeAdjustments : List UtilityAccountAdjustment :=
  (rows.accountAdjustments.filter fun row => decide (row.utilityAccountId = accountId ∧ row.enabled = true ∧
    row.status = .active ∧ row.effectiveFrom ≤ resetAt ∧ ∀ finish ∈ row.effectiveTo, resetAt < finish)).insertionSort
    fun first second => first.component < second.component ∨ (first.component = second.component ∧
      (first.effectiveFrom < second.effectiveFrom ∨ (first.effectiveFrom = second.effectiveFrom ∧ first.id ≤ second.id)))

end PricingRows

structure CanonicalAdjustment where
  component : String
  value : Rat
  unit : String
  provenance : String
  effectiveFrom : Int
  effectiveTo : Option Int
  revision : Nat
  deriving DecidableEq, Repr

structure CanonicalAssignment where
  id : String
  rateVersionId : String
  effectiveFrom : Int
  effectiveTo : Option Int
  revision : Nat
  deriving DecidableEq, Repr

structure CanonicalConfiguration (Document : Type) where
  accountId : String
  accountRevision : Nat
  ratePlanId : String
  ratePlanCode : String
  ratePlanName : String
  rateVersionId : String
  rateVersionNumber : Nat
  document : Document
  accountAdjustmentConfig : String
  activeAccountAdjustments : List CanonicalAdjustment
  futureAssignments : List CanonicalAssignment
  deriving DecidableEq, Repr

structure PricingSnapshot (Document : Type) where
  utilityAccountId : String
  ratePlanId : String
  rateVersionId : String
  rateAssignmentId : Option String
  futureAssignmentIds : List String
  pricingConfigurationHash : String
  canonicalConfiguration : CanonicalConfiguration Document
  deriving DecidableEq, Repr

def UtilityAccountAdjustment.canonical (row : UtilityAccountAdjustment) : CanonicalAdjustment :=
  ⟨row.component, row.value, row.unit, row.provenance, row.effectiveFrom, row.effectiveTo, row.revision⟩

def RateAssignment.canonical (row : RateAssignment) : CanonicalAssignment :=
  ⟨row.id, row.rateVersionId, row.effectiveFrom, row.effectiveTo, row.revision⟩

def pricingInvalid (detail : String) : ProblemError :=
  { status := 409
    title := "Pricing configuration invalid"
    detail := detail
    code := "data_reset_pricing_invalid" }

/-- A row that must exist. -/
def require {Row : Type} (row : Option Row) (failure : ProblemError) : Except ProblemError Row :=
  match row with
  | none => throw failure
  | some value => pure value

theorem require_eq_ok {Row : Type} {row : Option Row} {failure : ProblemError} {value : Row} :
    require row failure = .ok value ↔ row = some value := by
  cases row with
  | none => simp [require, throw, throwThe, MonadExceptOf.throw]
  | some other => simp [require, pure, Except.pure]

section Snapshot
variable {Document : Type} (versionDocument : RatePlan → RateVersion → List VersionChild → Document)
  (canonicalSha256 : CanonicalConfiguration Document → String)

/-- The snapshot of an account that is priced by a version. -/
def snapshotOf (rows : PricingRows) (account : UtilityAccount) (resetAt : Int) (plan : RatePlan) (version : RateVersion) :
    PricingSnapshot Document :=
  let canonical : CanonicalConfiguration Document :=
    { accountId := account.id
      accountRevision := account.revision
      ratePlanId := plan.id
      ratePlanCode := plan.code
      ratePlanName := plan.name
      rateVersionId := version.id
      rateVersionNumber := version.version
      document := versionDocument plan version (rows.versionChildren.filter fun row => row.rateVersionId = version.id)
      accountAdjustmentConfig := account.adjustmentConfig
      activeAccountAdjustments := (rows.activeAdjustments account.id resetAt).map UtilityAccountAdjustment.canonical
      futureAssignments := (rows.futureAssignments account.id resetAt).map RateAssignment.canonical }
  { utilityAccountId := account.id
    ratePlanId := plan.id
    rateVersionId := version.id
    rateAssignmentId := (rows.currentAssignment account.id resetAt).map RateAssignment.id
    futureAssignmentIds := (rows.futureAssignments account.id resetAt).map RateAssignment.id
    pricingConfigurationHash := canonicalSha256 canonical
    canonicalConfiguration := canonical }

/-- The version that prices the account: of its current assignment, else its active version. -/
def PricingRows.pricingVersion (rows : PricingRows) (account : UtilityAccount) (resetAt : Int) : Option String :=
  match rows.currentAssignment account.id resetAt with
  | some assignment => some assignment.rateVersionId
  | none => account.activeRateVersionId

/-- `_active_pricing_snapshot` -/
def activePricingSnapshot (rows : PricingRows) (account : UtilityAccount) (resetAt : Int) :
    Except ProblemError (Option (PricingSnapshot Document)) :=
  match rows.pricingVersion account resetAt with
  | none => pure none
  | some versionId => do
      let version ← require (rows.rateVersions.find? fun row => row.id = versionId)
        (pricingInvalid "The current utility account references a missing rate version")
      let plan ← require (rows.ratePlans.find? fun row => row.id = version.ratePlanId)
        (pricingInvalid "The current rate version references a missing plan")
      pure (some (snapshotOf versionDocument canonicalSha256 rows account resetAt plan version))

/-- A snapshot is about the account and the version that prices it. -/
theorem activePricingSnapshot_some {rows : PricingRows} {account : UtilityAccount} {resetAt : Int}
    {snapshot : PricingSnapshot Document}
    (taken : activePricingSnapshot versionDocument canonicalSha256 rows account resetAt = .ok (some snapshot)) :
    snapshot.utilityAccountId = account.id ∧ rows.pricingVersion account resetAt = some snapshot.rateVersionId := by
  unfold activePricingSnapshot at taken
  split at taken
  · cases taken
  · next versionId priced =>
      obtain ⟨version, found, taken⟩ := bind_eq_ok.mp taken
      obtain ⟨plan, _, taken⟩ := bind_eq_ok.mp taken
      obtain rfl := Option.some.inj (Except.ok.inj taken)
      have named : version.id = versionId := by simpa using List.find?_some (require_eq_ok.mp found)
      refine ⟨rfl, ?_⟩
      rw [priced]
      exact congrArg some named.symm

end Snapshot

/-- `_protected_pricing_version_ids` -/
def protectedPricingVersionIds {Document : Type} (pricing : List (PricingSnapshot Document)) : List String :=
  pricing.flatMap fun snapshot => snapshot.rateVersionId ::
    snapshot.canonicalConfiguration.futureAssignments.map CanonicalAssignment.rateVersionId

end PowerMonitor.Pricing
