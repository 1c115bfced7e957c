import Mathlib.Data.List.Dedup
import Mathlib.Data.List.Sort
import PowerMonitor.Library.Fallible
import PowerMonitor.Library.Windows
import PowerMonitor.Pricing.Snapshot

/-! The rate assignments of an account and what the assignment service reads of them.

A row is the object of the session, so its window is checked by no constraint yet. Naive datetimes are
read as UTC before they are compared, and every instant here is one in UTC.
-/

set_option autoImplicit false
namespace PowerMonitor.Assignments
open Library
open Pricing (UtilityAccount)

inductive RatePlanStatus where | draft | active | retired | removed
  deriving DecidableEq, Repr

inductive RateVersionStatus where
  | draft | candidate | rejected | approved | scheduled | published | active | superseded | retired | removed
  deriving DecidableEq, Repr

structure RatePlan where
  id : String
  status : RatePlanStatus := .active
  deriving DecidableEq, Repr

/-- The dates of a version are days since the epoch; `effectiveTo` is its last day. -/
structure RateVersion where
  id : String
  ratePlanId : String
  status : RateVersionStatus := .draft
  effectiveFrom : Int := 0
  effectiveTo : Option Int := none
  timezone : String := "America/Los_Angeles"
  isActive : Bool := false
  deriving DecidableEq, Repr

structure RateAssignment where
  id : String
  utilityAccountId : String
  rateVersionId : String
  effectiveFrom : Int
  effectiveTo : Option Int := none
  assignmentReason : Option String := none
  assignedBy : Option String := none
  revision : Nat := 1
  cancelledAt : Option Int := none
  cancelledBy : Option String := none
  cancellationReason : Option String := none
  idempotencyKey : Option String := none
  createdAt : Int := 0
  deriving DecidableEq, Repr

/-- The rows that assigning a rate reads and writes. -/
structure RateBook where
  utilityAccounts : List UtilityAccount := []
  ratePlans : List RatePlan := []
  rateVersions : List RateVersion := []
  rateAssignments : List RateAssignment := []
  deriving DecidableEq, Repr

/-- `datetime.max` in microseconds since the epoch. -/
def datetimeMax : Int := 253402300799999999

namespace RateAssignment

def window (row : RateAssignment) : Window Int := ⟨row.effectiveFrom, row.effectiveTo⟩

def Covers (row : RateAssignment) (instant : Int) : Prop := row.window.Contains instant

instance (row : RateAssignment) (instant : Int) : Decidable (row.Covers instant) :=
  inferInstanceAs (Decidable (row.window.Contains instant))

/-- The assignment belongs to the account and has not been cancelled. -/
def Of (row : RateAssignment) (accountId : String) : Prop :=
  row.utilityAccountId = accountId ∧ row.cancelledAt = none

instance (row : RateAssignment) (accountId : String) : Decidable (row.Of accountId) :=
  inferInstanceAs (Decidable (_ ∧ _))

end RateAssignment

/-- `overlaps` of two windows. -/
def overlaps (first second : Window Int) : Prop := first.Overlaps datetimeMax second

instance (first second : Window Int) : Decidable (overlaps first second) :=
  inferInstanceAs (Decidable (first.Overlaps datetimeMax second))

inductive AssignmentState where | cancelled | scheduled | current | historical
  deriving DecidableEq, Repr

def assignmentState (assignment : RateAssignment) (now : Int) : AssignmentState :=
  if assignment.cancelledAt ≠ none then .cancelled
  else if now < assignment.effectiveFrom then .scheduled
  else if ∀ finish ∈ assignment.effectiveTo, now < finish then .current
  else .historical

namespace RateBook
variable (book : RateBook)

def account? (accountId : String) : Option UtilityAccount := book.utilityAccounts.find? fun row => row.id = accountId

def version? (versionId : String) : Option RateVersion := book.rateVersions.find? fun row => row.id = versionId

def plan? (planId : String) : Option RatePlan := book.ratePlans.find? fun row => row.id = planId

/-- The assignments of an account in the order of the table. -/
def active (accountId : String) : List RateAssignment := book.rateAssignments.filter fun row => row.Of accountId

/-- The order of `account_assignments`; rows with one start and one time of creation come as the table has them. -/
def Earlier (first second : RateAssignment) : Prop :=
  first.effectiveFrom < second.effectiveFrom ∨
    (first.effectiveFrom = second.effectiveFrom ∧ first.createdAt ≤ second.createdAt)

instance (first second : RateAssignment) : Decidable (Earlier first second) := inferInstanceAs (Decidable (_ ∨ _))

def accountAssignments (accountId : String) (includeCancelled : Bool := true) : List RateAssignment :=
  (book.rateAssignments.filter fun row =>
    row.utilityAccountId = accountId ∧ (includeCancelled ∨ row.cancelledAt = none)).insertionSort Earlier

theorem accountAssignments_perm (accountId : String) :
    (book.accountAssignments accountId false).Perm (book.active accountId) := by
  refine (List.perm_insertionSort _ _).trans (List.Perm.of_eq (List.filter_congr ?_))
  intro row _
  exact decide_eq_decide.mpr (by simp [RateAssignment.Of])

theorem mem_accountAssignments {accountId : String} {row : RateAssignment} :
    row ∈ book.accountAssignments accountId false ↔ row ∈ book.active accountId :=
  (book.accountAssignments_perm accountId).mem_iff

variable {book} in
@[simp] theorem mem_active {accountId : String} {row : RateAssignment} :
    row ∈ book.active accountId ↔ row ∈ book.rateAssignments ∧ row.Of accountId := by
  simp [active]

/-- Change the row of an account. -/
def updateAccount (accountId : String) (change : UtilityAccount → UtilityAccount) : RateBook :=
  { book with utilityAccounts := book.utilityAccounts.map fun row => if row.id = accountId then change row else row }

theorem updateAccount_id (accountId : String) : book.updateAccount accountId id = book := by
  simp [updateAccount]

variable {book} in
theorem account?_updateAccount {accountId : String} {account : UtilityAccount} {change : UtilityAccount → UtilityAccount}
    (found : book.account? accountId = some account) (keeps : ∀ row, (change row).id = row.id) :
    (book.updateAccount accountId change).account? accountId = some (change account) := by
  unfold account? updateAccount at *
  dsimp only
  generalize book.utilityAccounts = rows at found ⊢
  induction rows with
  | nil => simp at found
  | cons row rest ih =>
      by_cases here : row.id = accountId
      · rw [List.find?_cons_of_pos (by simpa using here), Option.some.injEq] at found
        subst found
        rw [List.map_cons, if_pos here, List.find?_cons_of_pos (by simpa [keeps] using here)]
      · rw [List.find?_cons_of_neg (by simpa using here)] at found
        rw [List.map_cons, if_neg here, List.find?_cons_of_neg (by simpa using here)]
        exact ih found

end RateBook

/-! ## Conflicts -/

/-- The overlapping pairs of a list, each with its earlier member first. -/
def overlappingPairs : List RateAssignment → List (RateAssignment × RateAssignment)
  | [] => []
  | item :: rest =>
      (rest.filter fun other => overlaps item.window other.window).map (Prod.mk item) ++ overlappingPairs rest

def conflictingPairs (assignments : List RateAssignment) : List (RateAssignment × RateAssignment) :=
  overlappingPairs (assignments.filter fun item => item.cancelledAt = none)

/-- The sorted set of the ids of the pairs. -/
def conflictIds (pairs : List (RateAssignment × RateAssignment)) : List String :=
  ((pairs.flatMap fun pair => [pair.1.id, pair.2.id]).dedup).insertionSort (· ≤ ·)

/-- No two assignments overlap, in the sense of `overlaps`. -/
def NonOverlapping (rows : List RateAssignment) : Prop := Apart datetimeMax RateAssignment.window rows

theorem overlappingPairs_eq_nil {rows : List RateAssignment} : overlappingPairs rows = [] ↔ NonOverlapping rows := by
  induction rows with
  | nil => simp [overlappingPairs, NonOverlapping, Apart]
  | cons item rest ih =>
      rw [NonOverlapping, Apart, List.pairwise_cons, overlappingPairs, List.append_eq_nil_iff, ih, List.map_eq_nil_iff,
        List.filter_eq_nil_iff]
      simp only [decide_eq_true_eq]
      exact Iff.rfl

theorem conflictIds_eq_nil {pairs : List (RateAssignment × RateAssignment)} : conflictIds pairs = [] ↔ pairs = [] := by
  have empty : conflictIds pairs = [] ↔ (pairs.flatMap fun pair => [pair.1.id, pair.2.id]).dedup = [] := by
    rw [← List.length_eq_zero_iff, conflictIds, List.length_insertionSort, List.length_eq_zero_iff]
  rw [empty]
  cases pairs with
  | nil => simp
  | cons pair rest =>
      have present : pair.1.id ∈ ((pair :: rest).flatMap fun pair => [pair.1.id, pair.2.id]).dedup := by simp
      exact iff_of_false (List.ne_nil_of_mem present) (List.cons_ne_nil _ _)

end PowerMonitor.Assignments
