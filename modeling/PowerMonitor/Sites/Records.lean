import PowerMonitor.Access.Service
import PowerMonitor.Library.Table

/-! Sites and the rows that refer to them.

Sensors, circuits, utility accounts and aggregate sets belong to one site each and refer to one another. A removed site stays
as a tombstone; its history stays with it.
-/

set_option autoImplicit false
namespace PowerMonitor.Sites
open Library Access

inductive SiteState where | active | disabled | removed
  deriving DecidableEq, Repr

structure Site where
  id : String
  name : String
  code : String
  lifecycleState : SiteState := .active
  isDefault : Bool := false
  disabledAt : Option Int := none
  disabledBy : Option String := none
  removedAt : Option Int := none
  removedBy : Option String := none
  removalReason : Option String := none
  restoredAt : Option Int := none
  restoredBy : Option String := none
  revision : Nat := 1
  deriving DecidableEq, Repr

inductive DeviceStatus where | active | decommissioning | decommissioned
  deriving DecidableEq, Repr

inductive CostScope where | energyOnly | allocatedAccount | fullAccount
  deriving DecidableEq, Repr

structure Device where
  id : String
  siteId : String
  utilityAccountId : Option String := none
  circuitId : Option String := none
  costScope : CostScope := .energyOnly
  includeInDefaultSiteTotal : Bool := false
  lifecycleStatus : DeviceStatus := .active
  lifecycleGeneration : Nat := 0
  decommissionedAt : Option Int := none
  decommissionedBy : Option String := none
  decommissionReason : Option String := none
  deriving DecidableEq, Repr

inductive AccountStatus where | active | archived
  deriving DecidableEq, Repr

structure UtilityAccount where
  id : String
  siteId : String
  status : AccountStatus := .active
  archivedAt : Option Int := none
  archivedBy : Option String := none
  revision : Nat := 1
  deriving DecidableEq, Repr

structure Circuit where
  id : String
  siteId : String
  deriving DecidableEq, Repr

structure AggregateSet where
  id : String
  siteId : String
  utilityAccountId : Option String := none
  deriving DecidableEq, Repr

/-- What a member of an aggregate set measures. -/
inductive MemberTarget where
  | circuit (circuitId : String)
  | device (deviceId : String)
  deriving DecidableEq, Repr

structure AggregateMember where
  id : String
  aggregateSetId : String
  target : MemberTarget
  deriving DecidableEq, Repr

structure AccountUsageAuthority where
  utilityAccountId : String
  aggregateSetId : Option String := none
  deviceIds : List String := []
  confidence : String := "unverified"
  completeAccount : Bool := false
  revision : Nat := 1
  updatedBy : Option String := none
  updatedAt : Int
  deriving DecidableEq, Repr

structure BillingCycle where
  id : String
  utilityAccountId : String
  finalized : Bool := false
  recalculationRequired : Bool := false
  usageSourceType : String := "sensor_measurements"
  tierProgressSourceType : String := "sensor_measurements"
  projectionSourceType : String := "sensor_trend"
  updatedBy : Option String := none
  updatedAt : Int
  deriving DecidableEq, Repr

/-- A row of `device_site_assignments` or of `utility_account_site_assignments`; it is open without an end. -/
structure SiteAssignment where
  ownerId : String
  siteId : String
  effectiveFrom : Int
  effectiveTo : Option Int := none
  assignedBy : Option String := none
  reason : Option String := none
  deriving DecidableEq, Repr

structure EnrollmentToken where
  id : String
  consumedAt : Option Int := none
  revokedAt : Option Int := none
  preassignedSiteId : Option String := none
  deriving DecidableEq, Repr

structure SiteBook where
  sites : Table Site.id
  devices : Table Device.id
  accounts : Table UtilityAccount.id
  circuits : Table Circuit.id
  aggregateSets : Table AggregateSet.id
  aggregateMembers : List AggregateMember := []
  usageAuthorities : List AccountUsageAuthority := []
  billingCycles : List BillingCycle := []
  deviceAssignments : List SiteAssignment := []
  accountAssignments : List SiteAssignment := []
  enrollmentTokens : List EnrollmentToken := []
  access : AccessBook

namespace SiteBook
variable (book : SiteBook)

def siteIds : List String := book.sites.rows.map Site.id

/-- `_active_count` -/
def activeCount : Nat := (book.sites.rows.filter fun site => site.lifecycleState = .active).length

def updateSite (id : String) (change : Site → Site) (keeps : ∀ site, (change site).id = site.id) : SiteBook :=
  { book with sites := book.sites.modify id change keeps }

def updateDevice (id : String) (change : Device → Device) (keeps : ∀ device, (change device).id = device.id) : SiteBook :=
  { book with devices := book.devices.modify id change keeps }

def updateAccount (id : String) (change : UtilityAccount → UtilityAccount)
    (keeps : ∀ account, (change account).id = account.id) : SiteBook :=
  { book with accounts := book.accounts.modify id change keeps }

end SiteBook
end PowerMonitor.Sites
