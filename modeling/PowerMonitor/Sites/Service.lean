import PowerMonitor.Sites.Records

/-! The requests that create, disable, remove and restore sites and move what belongs to them.

Every request sees the tables as the one before left them; one that is refused leaves them as they were.
-/

set_option autoImplicit false
namespace PowerMonitor.Sites
open Library Access

/-- What a request finds besides the tables: the sites and sensors of an unfinished reset, the imports and calculations in
progress for the site it names, the network policies that are there and the time. -/
structure Surroundings where
  resettingSites : List String := []
  resettingDevices : List String := []
  activeJobs : Nat := 0
  networkPolicyIds : List String := []
  now : Int

section Requests
variable (book : SiteBook) (principal : SessionPrincipal) (around : Surroundings)

/-! ## Guards -/

/-- `_permission` -/
def requireSitePermission (permission : Permission) : Except Failure Unit :=
  refuseIf (permission ∉ principal.permissions) 403 "Permission denied"
    "Your account does not have the required site-management permission" "forbidden"

def ensureSiteResetMutationsAllowed (siteIds : List String) : Except Failure Unit := do
  refuseIf (¬ siteIds ⊆ book.siteIds) 404 "Site not found" "One or more sites do not exist" "site_missing"
  refuseIf (∃ id ∈ siteIds, id ∈ around.resettingSites) 409 "Site reset in progress"
    "Topology, pricing, account, report, export, and log mutations are locked until the coordinated reset finishes"
    "data_reset_site_mutation_blocked"

def ensureDeviceResetMutationsAllowed (deviceIds : List String) : Except Failure Unit := do
  refuseIf (¬ deviceIds ⊆ book.devices.rows.map Device.id) 404 "Sensor not found" "One or more sensors do not exist"
    "device_missing"
  refuseIf (∃ id ∈ deviceIds, id ∈ around.resettingDevices) 409 "Sensor reset in progress"
    "Configuration, credential, storage, and OTA changes are locked until the sensor reset checkpoint finishes"
    "data_reset_device_mutation_blocked"

/-- `_site` -/
def loadSite (siteId : String) : Except Failure Site :=
  required ((book.sites.get? siteId).filter fun site => principal.canAccessSite site.id) 404 "Site not found"
    "Site does not exist" "site_missing"

/-- `_stale` -/
def refuseStale (site : Site) (revision : Nat) : Except Failure Unit :=
  refuseIf (site.revision ≠ revision) 409 "Site changed" "Refresh the site details and review the latest revision"
    "stale_site_revision"

/-! ## Creation and the default -/

inductive NetworkPolicyMode where
  | inherit
  | explicit
  | existing (policyId : String)
  deriving DecidableEq, Repr

structure SiteAdminCreate where
  name : String
  code : String
  initialUserIds : List String := []
  makeDefault : Bool := false
  networkPolicyMode : NetworkPolicyMode := .inherit

def newSite (payload : SiteAdminCreate) (id : String) (isDefault : Bool) : Site :=
  { id := id, name := payload.name, code := payload.code, isDefault := isDefault }

/-- Another site was the default until now. -/
def defaultCleared (siteId : String) (site : Site) : Site :=
  if site.isDefault = true ∧ site.id ≠ siteId then { site with isDefault := false, revision := site.revision + 1 } else site

theorem defaultCleared_id (siteId : String) (site : Site) : (defaultCleared siteId site).id = site.id := by
  unfold defaultCleared
  split <;> rfl

def clearDefaults (sites : Table Site.id) (siteId : String) : Table Site.id :=
  sites.map (defaultCleared siteId) (defaultCleared_id siteId)

/-- Initial access; a user of all sites needs none. -/
def initialAccess (payload : SiteAdminCreate) (siteId : String) (user : User) : User :=
  if user.id ∈ payload.initialUserIds ∧ user.allSites = false then { user with sites := user.sites ++ [siteId] } else user

def requirePolicy : NetworkPolicyMode → Except Failure Unit
  | .existing policyId =>
      refuseIf (policyId ∉ around.networkPolicyIds) 422 "Network policy not found" "The selected network policy does not exist"
        "network_policy_missing"
  | _ => pure ()

/-- The row is stored under an id of its own. -/
def storeSite (sites : Table Site.id) (site : Site) : Except Failure (Table Site.id) :=
  (sites.insert site).elim (.error .integrity) .ok

def createAdminSite (payload : SiteAdminCreate) (id : String) : Except Failure SiteBook := do
  requireSitePermission principal .sitesCreate
  refuseIf (principal.allSites = false) 403 "Permission denied"
    "Creating a new site requires organization-wide administrative scope" "site_create_scope"
  refuseIf (∃ site ∈ book.sites.rows, site.name = payload.name ∨ site.code = payload.code) 409 "Site already exists"
    "Site display names and stable codes must be unique" "site_identity_conflict"
  -- The count of active sites already includes the new one.
  let makeDefault := payload.makeDefault = true ∨ book.activeCount + 1 = 1
  let others := if makeDefault then clearDefaults book.sites id else book.sites
  let sites ← storeSite others (newSite payload id (decide makeDefault))
  requirePolicy around payload.networkPolicyMode
  refuseIf (¬ payload.initialUserIds ⊆ book.access.users.map User.id) 422 "User assignment invalid"
    "One or more selected users do not exist" "site_user_missing"
  refuseIf (∃ user ∈ book.access.users, user.id ∈ payload.initialUserIds ∧ user.lifecycleState ≠ .active) 409
    "User assignment invalid" "Only active users may receive initial site access" "site_user_inactive"
  let access ← AccessBook.store (book.access.users.map (initialAccess payload id)) book.access.roles
  pure { book with sites := sites, access := access }

structure SiteLifecycleRequest where
  revision : Nat
  reason : String

def madeDefault (site : Site) : Site := { site with isDefault := true, revision := site.revision + 1 }

def otherDefault? (siteId : String) : Option Site :=
  book.sites.rows.find? fun site => site.isDefault = true ∧ site.id ≠ siteId

def setDefaultSite (siteId : String) (payload : SiteLifecycleRequest) : Except Failure SiteBook := do
  requireSitePermission principal .sitesSetDefault
  ensureSiteResetMutationsAllowed book around (siteId :: ((otherDefault? book siteId).map Site.id).toList)
  let site ← loadSite book principal siteId
  refuseIf (site.lifecycleState ≠ .active) 409 "Active site required" "Enable the site before making it the default"
    "default_site_inactive"
  if site.isDefault = true then pure book
  else do
    refuseStale site payload.revision
    pure ({ book with sites := clearDefaults book.sites site.id }.updateSite site.id madeDefault fun _ => rfl)

/-! ## Disabling and enabling -/

def disabledSite (now : Int) (actorId : String) (site : Site) : Site :=
  { site with lifecycleState := .disabled, disabledAt := some now, disabledBy := some actorId, revision := site.revision + 1 }

def disableSite (siteId : String) (payload : SiteLifecycleRequest) : Except Failure SiteBook := do
  requireSitePermission principal .sitesDisable
  ensureSiteResetMutationsAllowed book around [siteId]
  let site ← loadSite book principal siteId
  if site.lifecycleState = .disabled then pure book
  else do
    refuseIf (site.lifecycleState = .removed) 409 "Site is removed" "Restore the site before enabling it" "site_removed"
    refuseStale site payload.revision
    refuseIf (site.isDefault = true) 409 "Default site cannot be disabled" "Set another active site as default first"
      "default_site_protected"
    refuseIf (book.activeCount ≤ 1) 409 "Last active site cannot be disabled"
      "At least one active administrative site must remain" "last_active_site"
    pure (book.updateSite site.id (disabledSite around.now principal.userId) fun _ => rfl)

def enabledSite (site : Site) : Site :=
  { site with lifecycleState := .active, disabledAt := none, disabledBy := none, revision := site.revision + 1 }

def enableSite (siteId : String) (payload : SiteLifecycleRequest) : Except Failure SiteBook := do
  requireSitePermission principal .sitesDisable
  ensureSiteResetMutationsAllowed book around [siteId]
  let site ← loadSite book principal siteId
  if site.lifecycleState = .active then pure book
  else do
    refuseIf (site.lifecycleState = .removed) 409 "Site is removed" "Restore the site before enabling it" "site_removed"
    refuseStale site payload.revision
    pure (book.updateSite site.id enabledSite fun _ => rfl)

/-! ## What a sensor leaves behind -/

/-- The aggregate sets that the sensor is a member of itself. -/
def memberSetIds (device : Device) : List String :=
  (book.aggregateMembers.filter fun member => member.target = .device device.id).map AggregateMember.aggregateSetId

/-- The authority counts on the sensor, or on an aggregate set of it. -/
def AuthorityReferences (device : Device) (authority : AccountUsageAuthority) : Prop :=
  device.id ∈ authority.deviceIds ∨ ∃ setId ∈ authority.aggregateSetId, setId ∈ memberSetIds book device

instance (device : Device) (authority : AccountUsageAuthority) : Decidable (AuthorityReferences book device authority) :=
  inferInstanceAs (Decidable (_ ∨ _))

def affectedUtilityAccountIds (device : Device) : List String :=
  (book.aggregateSets.rows.filter fun set => set.id ∈ memberSetIds book device).filterMap AggregateSet.utilityAccountId ++
    device.utilityAccountId.toList ++
    (book.usageAuthorities.filter fun authority => AuthorityReferences book device authority).map
      AccountUsageAuthority.utilityAccountId

def authorityCleared (deviceId : String) (effectiveAt : Int) (updatedBy : Option String) (authority : AccountUsageAuthority) :
    AccountUsageAuthority :=
  { authority with
    deviceIds := authority.deviceIds.filter fun id => id ≠ deviceId
    completeAccount := false
    confidence := "unverified"
    revision := authority.revision + 1
    updatedBy := updatedBy
    updatedAt := effectiveAt }

def cycleInvalidated (effectiveAt : Int) (updatedBy : Option String) (cycle : BillingCycle) : BillingCycle :=
  { cycle with
    recalculationRequired := true
    usageSourceType := "unavailable"
    tierProgressSourceType := "unavailable"
    projectionSourceType := "unavailable"
    updatedBy := updatedBy
    updatedAt := effectiveAt }

/-- `_assignment_end`: an assignment ends a microsecond after it starts at the earliest. -/
def assignmentEnd (effectiveAt effectiveFrom : Int) : Int := if effectiveAt ≤ effectiveFrom then effectiveFrom + 1 else effectiveAt

def deviceCleared (device : Device) : Device :=
  { device with circuitId := none, utilityAccountId := none, costScope := .energyOnly, includeInDefaultSiteTotal := false }

/-- `clear_device_assignment_relationships`, which also closes the assignment to the site. -/
def clearDeviceAssignmentRelationships (device : Device) (effectiveAt : Int) (updatedBy : Option String) : SiteBook :=
  { book with
    aggregateMembers := book.aggregateMembers.filter fun member => member.target ≠ .device device.id
    usageAuthorities := book.usageAuthorities.map fun authority =>
      if AuthorityReferences book device authority then authorityCleared device.id effectiveAt updatedBy authority else authority
    billingCycles := book.billingCycles.map fun cycle =>
      if cycle.utilityAccountId ∈ affectedUtilityAccountIds book device ∧ cycle.finalized = false then
        cycleInvalidated effectiveAt updatedBy cycle else cycle
    deviceAssignments := book.deviceAssignments.map fun row =>
      if row.ownerId = device.id ∧ row.effectiveTo = none then
        { row with effectiveTo := some (assignmentEnd effectiveAt row.effectiveFrom) } else row
    devices := book.devices.modify device.id deviceCleared fun _ => rfl }

/-! ## Dependencies of a site -/

/-- What becomes of a sensor or an account. An archived one may name a site too. -/
inductive ResolutionAction where
  | archive (targetSiteId : Option String)
  | transfer (targetSiteId : String)
  deriving DecidableEq, Repr

def ResolutionAction.target? : ResolutionAction → Option String
  | .archive targetSiteId => targetSiteId
  | .transfer targetSiteId => some targetSiteId

structure SiteSensorResolution where
  deviceId : String
  action : ResolutionAction
  deriving DecidableEq, Repr

structure SiteAccountResolution where
  utilityAccountId : String
  action : ResolutionAction
  deriving DecidableEq, Repr

structure SiteDependencyResolution where
  revision : Nat
  reason : String
  sensors : List SiteSensorResolution := []
  utilityAccounts : List SiteAccountResolution := []
  endUserAccessIds : List String := []

def transferTarget (targetSiteId : String) : Except Failure Site :=
  required ((book.sites.get? targetSiteId).filter fun site =>
      site.lifecycleState = .active ∧ principal.canAccessSite site.id) 409 "Transfer target unavailable"
    "Choose an authorized active destination site" "site_transfer_target_unavailable"

def archivedDevice (now : Int) (actorId : String) (device : Device) : Device :=
  { device with
    lifecycleStatus := .decommissioned
    lifecycleGeneration := device.lifecycleGeneration + 1
    decommissionedAt := some now
    decommissionedBy := some actorId
    decommissionReason := some "site_removed" }

def transferredDevice (siteId : String) (device : Device) : Device :=
  { device with siteId := siteId, lifecycleGeneration := device.lifecycleGeneration + 1 }

def openAssignment (ownerId siteId : String) (now : Int) (actorId reason : String) : SiteAssignment :=
  { ownerId := ownerId, siteId := siteId, effectiveFrom := now, assignedBy := some actorId, reason := some reason }

def resolveSensor (siteId reason : String) (book : SiteBook) (resolution : SiteSensorResolution) : Except Failure SiteBook := do
  let device ← required ((book.devices.get? resolution.deviceId).filter fun device =>
      device.siteId = siteId ∧ device.lifecycleStatus = .active) 409 "Sensor dependency changed"
    "Refresh the dependency review before continuing" "site_sensor_dependency_changed"
  match resolution.action with
  | .archive _ =>
      pure ((clearDeviceAssignmentRelationships book device around.now (some principal.userId)).updateDevice device.id
        (archivedDevice around.now principal.userId) fun _ => rfl)
  | .transfer targetSiteId => do
      let target ← transferTarget book principal targetSiteId
      let cleared := clearDeviceAssignmentRelationships book device around.now (some principal.userId)
      pure ({ cleared with
              deviceAssignments := openAssignment device.id target.id around.now principal.userId reason ::
                cleared.deviceAssignments }.updateDevice device.id (transferredDevice target.id) fun _ => rfl)

def archivedAccount (now : Int) (actorId : String) (account : UtilityAccount) : UtilityAccount :=
  { account with status := .archived, archivedAt := some now, archivedBy := some actorId, revision := account.revision + 1 }

def transferredAccount (siteId : String) (account : UtilityAccount) : UtilityAccount :=
  { account with siteId := siteId, revision := account.revision + 1 }

/-- The open assignment of the account; the tables hold at most one. -/
def IsOpenAssignment (accountId : String) (row : SiteAssignment) : Prop := row.ownerId = accountId ∧ row.effectiveTo = none

instance (accountId : String) (row : SiteAssignment) : Decidable (IsOpenAssignment accountId row) :=
  inferInstanceAs (Decidable (_ ∧ _))

def resolveAccount (siteId reason : String) (book : SiteBook) (resolution : SiteAccountResolution) :
    Except Failure SiteBook := do
  let account ← required ((book.accounts.get? resolution.utilityAccountId).filter fun account =>
      account.siteId = siteId ∧ account.status = .active) 409 "Account dependency changed"
    "Refresh the dependency review before continuing" "site_account_dependency_changed"
  match resolution.action with
  | .archive _ => pure (book.updateAccount account.id (archivedAccount around.now principal.userId) fun _ => rfl)
  | .transfer targetSiteId => do
      let target ← transferTarget book principal targetSiteId
      -- The constraint of the table: an assignment ends after it starts.
      raiseIf (∃ row ∈ book.accountAssignments, IsOpenAssignment account.id row ∧ around.now ≤ row.effectiveFrom)
        Failure.integrity
      pure ({ book with
              accountAssignments := openAssignment account.id target.id around.now principal.userId reason ::
                book.accountAssignments.map fun row =>
                  if IsOpenAssignment account.id row then { row with effectiveTo := some around.now } else row
              }.updateAccount account.id (transferredAccount target.id) fun _ => rfl)

def accessEnded (siteId : String) (userIds : List String) (user : User) : User :=
  if user.id ∈ userIds then { user with sites := user.sites.filter fun id => id ≠ siteId } else user

def endUserAccess (siteId : String) (userIds : List String) (book : SiteBook) : Except Failure SiteBook := do
  refuseIf (∃ id ∈ userIds, ¬ ∃ user ∈ book.access.users, user.id = id ∧ siteId ∈ user.sites) 409 "User dependency changed"
    "Refresh the dependency review before continuing" "site_user_dependency_changed"
  let access ← AccessBook.store (book.access.users.map (accessEnded siteId userIds)) book.access.roles
  pure { book with access := access }

def siteRevised (site : Site) : Site := { site with revision := site.revision + 1 }

/-- The sites that a request names. -/
def affectedSiteIds (siteId : String) (payload : SiteDependencyResolution) : List String :=
  siteId :: (payload.sensors.filterMap fun item => item.action.target?) ++
    payload.utilityAccounts.filterMap fun item => item.action.target?

def resolveSiteDependencies (siteId : String) (payload : SiteDependencyResolution) : Except Failure SiteBook := do
  requireSitePermission principal .sitesTransferResources
  ensureSiteResetMutationsAllowed book around (affectedSiteIds siteId payload)
  ensureDeviceResetMutationsAllowed book around (payload.sensors.map SiteSensorResolution.deviceId)
  let site ← loadSite book principal siteId
  refuseIf (site.lifecycleState = .removed) 409 "Site is removed" "Removed-site dependencies are immutable" "site_removed"
  refuseStale site payload.revision
  let withSensors ← payload.sensors.foldlM (resolveSensor principal around site.id payload.reason) book
  let withAccounts ← payload.utilityAccounts.foldlM (resolveAccount principal around site.id payload.reason) withSensors
  let withUsers ← endUserAccess site.id payload.endUserAccessIds withAccounts
  pure (withUsers.updateSite site.id siteRevised fun _ => rfl)

/-! ## Removal and restoration -/

inductive SiteBlocker where | defaultSite | lastActiveSite | activeJobs
  deriving DecidableEq, Repr

inductive RequiredAction where | sensors | utilityAccounts | userAccess
  deriving DecidableEq, Repr

/-- A token that was neither consumed nor revoked and enrolls into the site. -/
def OpenToken (siteId : String) (token : EnrollmentToken) : Prop :=
  token.consumedAt = none ∧ token.revokedAt = none ∧ token.preassignedSiteId = some siteId

instance (siteId : String) (token : EnrollmentToken) : Decidable (OpenToken siteId token) := inferInstanceAs (Decidable (_ ∧ _))

structure Dependencies where
  sensors : List Device
  utilityAccounts : List UtilityAccount
  users : List User
  enrollmentTokens : Nat
  blockers : List SiteBlocker
  requiredActions : List RequiredAction

/-- `_dependencies` -/
def dependencies (site : Site) : Dependencies :=
  let sensors := book.devices.rows.filter fun device => device.siteId = site.id ∧ device.lifecycleStatus = .active
  let accounts := book.accounts.rows.filter fun account => account.siteId = site.id ∧ account.status = .active
  let users := book.access.users.filter fun user => site.id ∈ user.sites ∧ user.lifecycleState ≠ .removed
  { sensors := sensors
    utilityAccounts := accounts
    users := users
    enrollmentTokens := (book.enrollmentTokens.filter fun token => OpenToken site.id token).length
    blockers :=
      (if site.isDefault = true then [.defaultSite] else []) ++
        (if site.lifecycleState = .active ∧ book.activeCount ≤ 1 then [.lastActiveSite] else []) ++
        (if around.activeJobs ≠ 0 then [.activeJobs] else [])
    requiredActions :=
      (if sensors ≠ [] then [.sensors] else []) ++ (if accounts ≠ [] then [.utilityAccounts] else []) ++
        (if users ≠ [] then [.userAccess] else []) }

structure SiteRemoveRequest where
  revision : Nat
  reason : String
  confirmation : String
  dependencyReviewed : Bool

def removedSite (now : Int) (actorId reason : String) (site : Site) : Site :=
  { site with
    lifecycleState := .removed
    isDefault := false
    removedAt := some now
    removedBy := some actorId
    removalReason := some reason
    revision := site.revision + 1 }

def removeSite (siteId : String) (payload : SiteRemoveRequest) : Except Failure SiteBook := do
  requireSitePermission principal .sitesRemove
  ensureSiteResetMutationsAllowed book around [siteId]
  let site ← loadSite book principal siteId
  if site.lifecycleState = .removed then pure book
  else do
    refuseStale site payload.revision
    refuseIf (payload.confirmation ≠ site.name ∧ payload.confirmation ≠ site.code) 422 "Confirmation does not match"
      "Type the exact site name or stable code" "site_confirmation_mismatch"
    refuseIf (payload.dependencyReviewed = false) 409 "Dependency review required"
      "Review retained and active dependencies before removing the site" "site_dependency_review_required"
    refuseIf ((dependencies book around site).blockers ≠ [] ∨ (dependencies book around site).requiredActions ≠ []) 409
      "Site dependencies are unresolved" "Resolve active resources and protection rules before removal"
      "site_dependencies_unresolved"
    pure ({ book with
            enrollmentTokens := book.enrollmentTokens.map fun token =>
              if OpenToken site.id token then { token with revokedAt := some around.now } else token
            }.updateSite site.id (removedSite around.now principal.userId payload.reason) fun _ => rfl)

structure SiteRestoreRequest where
  revision : Nat
  reason : String
  confirmHighRisk : Bool

def restoredSite (now : Int) (actorId : String) (site : Site) : Site :=
  { site with
    lifecycleState := .disabled
    isDefault := false
    disabledAt := some now
    disabledBy := some actorId
    restoredAt := some now
    restoredBy := some actorId
    revision := site.revision + 1 }

def restoreSite (siteId : String) (payload : SiteRestoreRequest) : Except Failure SiteBook := do
  requireSitePermission principal .sitesRestore
  ensureSiteResetMutationsAllowed book around [siteId]
  let site ← loadSite book principal siteId
  if site.lifecycleState = .disabled ∧ site.restoredAt.isSome = true then pure book
  else do
    refuseIf (site.lifecycleState ≠ .removed) 409 "Site is not removed" "Only removed sites can be restored" "site_not_removed"
    refuseStale site payload.revision
    refuseIf (payload.confirmHighRisk = false) 409 "High-risk confirmation required"
      "Review users, policies, sensors, accounts, and rates before restoration" "site_restore_confirmation_required"
    pure (book.updateSite site.id (restoredSite around.now principal.userId) fun _ => rfl)

/-- `update_user_access` of the access routes, with the sites that exist. -/
def updateUserAccess (userId : String) (payload : UserAccessUpdate) : Except Failure SiteBook := do
  let access ← Access.updateUserAccess book.access principal book.siteIds userId payload
  pure { book with access := access }

end Requests

/-! ## Runs -/

inductive SiteRequest where
  | create (payload : SiteAdminCreate) (id : String)
  | setDefault (siteId : String) (payload : SiteLifecycleRequest)
  | disable (siteId : String) (payload : SiteLifecycleRequest)
  | enable (siteId : String) (payload : SiteLifecycleRequest)
  | resolveDependencies (siteId : String) (payload : SiteDependencyResolution)
  | remove (siteId : String) (payload : SiteRemoveRequest)
  | restore (siteId : String) (payload : SiteRestoreRequest)
  | updateUserAccess (userId : String) (payload : UserAccessUpdate)

/-- A request of a user, with the state of its session. -/
structure SiteCall where
  actorId : String
  reauthenticated : Bool := true
  throttled : Bool := false
  around : Surroundings
  request : SiteRequest

def SiteRequest.handle (around : Surroundings) (book : SiteBook) (principal : SessionPrincipal) :
    SiteRequest → Except Failure SiteBook
  | .create payload id => createAdminSite book principal around payload id
  | .setDefault siteId payload => setDefaultSite book principal around siteId payload
  | .disable siteId payload => disableSite book principal around siteId payload
  | .enable siteId payload => enableSite book principal around siteId payload
  | .resolveDependencies siteId payload => resolveSiteDependencies book principal around siteId payload
  | .remove siteId payload => removeSite book principal around siteId payload
  | .restore siteId payload => restoreSite book principal around siteId payload
  | .updateUserAccess userId payload => Sites.updateUserAccess book principal userId payload

def SiteCall.perform (book : SiteBook) (call : SiteCall) : Except Failure SiteBook := do
  let principal ← required (authenticateSession book.access call.actorId call.reauthenticated call.throttled) 401
    "Session expired" "Sign in again" "session_expired"
  call.request.handle call.around book principal

/-- A request that fails is rolled back. -/
def SiteCall.apply (book : SiteBook) (call : SiteCall) : SiteBook := (call.perform book).toOption.getD book

end PowerMonitor.Sites
