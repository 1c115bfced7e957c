import PowerMonitor.Assignments.Records
import PowerMonitor.Rates.CycleStatus

/-! Billing cycles, the rows calculated for them and the imports of an account.

The tables of a session keep the constraints of their schema: ids are unique, a cycle ends after it starts, and
no two cycles of an account have the same window.
-/

set_option autoImplicit false
namespace PowerMonitor.Cycles
open Library Rates Calendar
open Assignments (datetimeMax overlaps)

inductive CycleStatus where | expected | confirmed | recalculating | finalized
  deriving DecidableEq, Repr

inductive BoundarySource where | generated | manualOverride | utilityImport | externalFeed | dataReset
  deriving DecidableEq, Repr

structure BillingCycle where
  id : String
  utilityAccountId : String
  startsAt : Int
  endsAt : Int
  explicitMeterDates : Bool := false
  status : CycleStatus := .expected
  boundarySource : BoundarySource := .generated
  overrideRevision : Nat := 0
  recalculationVersion : Nat := 0
  usageSourceType : CalculationRole := .sensorMeasurements
  recalculationRequired : Bool := false
  lockedSnapshotHash : Option String := none
  updatedAt : Int := 0
  finalizedAt : Option Int := none
  deriving DecidableEq, Repr

namespace BillingCycle

def Holds (cycle : BillingCycle) (instant : Int) : Prop := cycle.startsAt ≤ instant ∧ instant < cycle.endsAt

instance (cycle : BillingCycle) (instant : Int) : Decidable (cycle.Holds instant) := inferInstanceAs (Decidable (_ ∧ _))

/-- The overlap test of every query: each window starts before the other ends. -/
def Meets (cycle : BillingCycle) (startsAt endsAt : Int) : Prop := cycle.startsAt < endsAt ∧ startsAt < cycle.endsAt

instance (cycle : BillingCycle) (startsAt endsAt : Int) : Decidable (cycle.Meets startsAt endsAt) :=
  inferInstanceAs (Decidable (_ ∧ _))

end BillingCycle

/-- A segment or summary row belongs to a cycle and to one of its calculations. -/
structure TierAllocationSegment where
  billingCycleId : String
  recalculationVersion : Nat
  row : SegmentRow
  deriving DecidableEq, Repr

structure CycleTierSummary where
  billingCycleId : String
  recalculationVersion : Nat
  tierStableId : String
  usageKwh : Rat
  energyCharge : Rat
  deriving DecidableEq, Repr

/-- A row of a usage import, its timestamps in UTC. -/
inductive ImportRow where
  | usage (start finish : Int) (energyKwh : Rat)
  | cumulative (effectiveAt : Int) (cumulativeKwh : Rat)
  | cycleDates (startsAt endsAt : Int)
  | billTotal (startsAt endsAt : Int) (totalAmount : Rat) (usageKwh : Option Rat) (reference : String)
  deriving DecidableEq, Repr

/-- The window of a row; a cumulative value stands for one microsecond. -/
def ImportRow.window : ImportRow → Int × Int
  | .usage start finish _ => (start, finish)
  | .cumulative effectiveAt _ => (effectiveAt, effectiveAt + 1)
  | .cycleDates startsAt endsAt => (startsAt, endsAt)
  | .billTotal startsAt endsAt _ _ _ => (startsAt, endsAt)

/-- An import is committed until it is reversed. -/
structure UsageImport where
  id : String
  utilityAccountId : String
  importKind : ImportKind
  calculationRole : CalculationRole
  contentSha256 : String
  normalizedRows : List ImportRow
  reversedAt : Option Int := none
  deriving DecidableEq, Repr

structure ManualAccountUsage where
  utilityAccountId : String
  billingCycleId : String
  effectiveAt : Int
  cumulativeKwh : Rat
  idempotencyKey : String
  deriving DecidableEq, Repr

/-- What cycles read of an account: its calendar, and whether it is active with a usage authority. -/
structure CycleAccount where
  id : String
  zone : Zone
  billingCycleStartDay : { day : Nat // 1 ≤ day ∧ day ≤ 31 }
  configured : Bool := true

/-- The constraints on the table of cycles. -/
structure ValidCycles (cycles : List BillingCycle) : Prop where
  ids : (cycles.map BillingCycle.id).Nodup
  proper : ∀ cycle ∈ cycles, cycle.startsAt < cycle.endsAt
  windows : (cycles.map fun cycle => (cycle.utilityAccountId, cycle.startsAt, cycle.endsAt)).Nodup

theorem validCycles_iff {cycles : List BillingCycle} : ValidCycles cycles ↔
    (cycles.map BillingCycle.id).Nodup ∧ (∀ cycle ∈ cycles, cycle.startsAt < cycle.endsAt) ∧
      (cycles.map fun cycle => (cycle.utilityAccountId, cycle.startsAt, cycle.endsAt)).Nodup :=
  ⟨fun valid => ⟨valid.ids, valid.proper, valid.windows⟩, fun valid => ⟨valid.1, valid.2.1, valid.2.2⟩⟩

instance (cycles : List BillingCycle) : Decidable (ValidCycles cycles) := decidable_of_iff _ validCycles_iff.symm

structure CycleBook where
  accounts : List CycleAccount := []
  cycles : List BillingCycle := []
  segments : List TierAllocationSegment := []
  summaries : List CycleTierSummary := []
  imports : List UsageImport := []
  manualUsages : List ManualAccountUsage := []
  accountIds : (accounts.map CycleAccount.id).Nodup
  valid : ValidCycles cycles

/-- What ends a request: a problem it raises, or a constraint that refuses its rows. -/
inductive Failure where
  | problem (error : ProblemError)
  | integrity
  deriving DecidableEq, Repr

namespace CycleBook
variable (book : CycleBook)

def account? (accountId : String) : Option CycleAccount := book.accounts.find? fun account => account.id = accountId

/-- The cycles of an account. -/
def of (accountId : String) : List BillingCycle := book.cycles.filter fun cycle => cycle.utilityAccountId = accountId

/-- The cycles of an account that meet a window. -/
def meeting (accountId : String) (startsAt endsAt : Int) : List BillingCycle :=
  (book.of accountId).filter fun cycle => cycle.Meets startsAt endsAt

/-- `flush`: the cycles are stored if the constraints allow it. -/
def flush (cycles : List BillingCycle) : Except Failure CycleBook :=
  if valid : ValidCycles cycles then .ok { book with cycles := cycles, valid := valid } else .error .integrity

def addCycle (cycle : BillingCycle) : Except Failure CycleBook := book.flush (book.cycles ++ [cycle])

/-- Change the cycles that a query selects. -/
def updateCycles (selected : BillingCycle → Bool) (change : BillingCycle → BillingCycle) : Except Failure CycleBook :=
  book.flush (book.cycles.map fun cycle => if selected cycle then change cycle else cycle)

end CycleBook
end PowerMonitor.Cycles
