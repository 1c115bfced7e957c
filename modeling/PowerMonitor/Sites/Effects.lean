import PowerMonitor.Access.Effects
import PowerMonitor.Sites.Service

/-! What a request about sites that succeeds has found, and what it has changed. -/

set_option autoImplicit false
namespace PowerMonitor.Sites
open Library Access

section Guards
variable {α : Type} {book : SiteBook} {principal : SessionPrincipal}

theorem loadSite_bind {siteId : String} {next : Site → Except Failure α} {result : α}
    (ok : (loadSite book principal siteId >>= next) = .ok result) :
    ∃ site, book.sites.get? siteId = some site ∧ next site = .ok result := by
  obtain ⟨site, found, ok⟩ := required_bind.mp ok
  exact ⟨site, (Option.filter_eq_some_iff.mp found).1, ok⟩

theorem transferTarget_bind {siteId : String} {next : Site → Except Failure α} {result : α}
    (ok : (transferTarget book principal siteId >>= next) = .ok result) :
    ∃ site, book.sites.get? siteId = some site ∧ site.lifecycleState = .active ∧ next site = .ok result := by
  obtain ⟨site, found, ok⟩ := required_bind.mp ok
  obtain ⟨listed, allowed⟩ := Option.filter_eq_some_iff.mp found
  exact ⟨site, listed, (of_decide_eq_true allowed).1, ok⟩

theorem storeSite_eq_ok {sites after : Table Site.id} {site : Site} (ok : storeSite sites site = .ok after) :
    site.id ∉ sites.rows.map Site.id ∧ after.rows = site :: sites.rows := by
  rw [storeSite] at ok
  cases inserted : sites.insert site with
  | none =>
      rw [inserted] at ok
      cases ok
  | some stored =>
      rw [inserted] at ok
      cases ok
      exact Table.insert_eq_some.mp inserted

end Guards

/-! ## Sensors and accounts -/

/-- An active site of the id is there. -/
def LiveSite (book : SiteBook) (siteId : String) : Prop :=
  ∃ site, book.sites.get? siteId = some site ∧ site.lifecycleState = .active

/-- A sensor was archived, or moved to an active site; it is on no account, circuit or aggregate set any more. -/
structure SensorMoved (siteId : String) (book : SiteBook) (deviceId : String) (after : SiteBook) : Prop where
  present : ∃ device, book.devices.get? deviceId = some device ∧ device.siteId = siteId ∧ device.lifecycleStatus = .active
  sites : after.sites = book.sites
  accounts : after.accounts = book.accounts
  circuits : after.circuits = book.circuits
  aggregateSets : after.aggregateSets = book.aggregateSets
  aggregateMembers : after.aggregateMembers = book.aggregateMembers.filter fun member => member.target ≠ .device deviceId
  enrollmentTokens : after.enrollmentTokens = book.enrollmentTokens
  access : after.access = book.access
  others : ∀ id, id ≠ deviceId → after.devices.get? id = book.devices.get? id
  moved : ∃ device, after.devices.get? deviceId = some device ∧ device.utilityAccountId = none ∧ device.circuitId = none ∧
    (device.lifecycleStatus = .active → LiveSite book device.siteId)

/-- Where an account belongs after its resolution. -/
def ResolutionAction.destination (siteId : String) : ResolutionAction → String
  | .archive _ => siteId
  | .transfer targetSiteId => targetSiteId

/-- An account was archived, or moved to an active site. -/
structure AccountMoved (siteId : String) (book : SiteBook) (resolution : SiteAccountResolution) (after : SiteBook) : Prop where
  present : ∃ account, book.accounts.get? resolution.utilityAccountId = some account ∧ account.siteId = siteId
  sites : after.sites = book.sites
  devices : after.devices = book.devices
  circuits : after.circuits = book.circuits
  aggregateSets : after.aggregateSets = book.aggregateSets
  aggregateMembers : after.aggregateMembers = book.aggregateMembers
  enrollmentTokens : after.enrollmentTokens = book.enrollmentTokens
  access : after.access = book.access
  others : ∀ id, id ≠ resolution.utilityAccountId → after.accounts.get? id = book.accounts.get? id
  moved : ∃ account, after.accounts.get? resolution.utilityAccountId = some account ∧
    account.siteId = resolution.action.destination siteId ∧ (account.status = .active → LiveSite book account.siteId)


section Steps
variable {book after : SiteBook} {principal : SessionPrincipal} {around : Surroundings} {siteId reason : String}

theorem cleared_moved {device : Device} {change : Device → Device} {keeps : ∀ device, (change device).id = device.id}
    {assignments : List SiteAssignment} {now : Int} {actor : Option String} {deviceId : String}
    (found : book.devices.get? deviceId = some device) (here : device.siteId = siteId) (active : device.lifecycleStatus = .active)
    (severed : (change (deviceCleared device)).utilityAccountId = none ∧ (change (deviceCleared device)).circuitId = none)
    (outcome : (change (deviceCleared device)).lifecycleStatus = .active →
      LiveSite book (change (deviceCleared device)).siteId) :
    SensorMoved siteId book deviceId ({ clearDeviceAssignmentRelationships book device now actor with
      deviceAssignments := assignments }.updateDevice device.id change keeps) := by
  obtain ⟨listed, rfl⟩ := Table.get?_eq_some.mp found
  exact
    { present := ⟨device, found, here, active⟩
      sites := rfl, accounts := rfl, circuits := rfl, aggregateSets := rfl, aggregateMembers := rfl
      enrollmentTokens := rfl, access := rfl
      others := fun id other =>
        (Table.get?_modify_other change keeps other).trans (Table.get?_modify_other deviceCleared (fun _ => rfl) other)
      moved := ⟨_, Table.get?_modify_same change keeps (Table.get?_modify_same deviceCleared (fun _ => rfl) found), severed.1, severed.2, outcome⟩ }

theorem resolveSensor_moved {resolution : SiteSensorResolution}
    (ok : resolveSensor principal around siteId reason book resolution = .ok after) :
    SensorMoved siteId book resolution.deviceId after := by
  obtain ⟨device, found, ok⟩ := required_bind.mp ok
  obtain ⟨found, belongs⟩ := Option.filter_eq_some_iff.mp found
  obtain ⟨here, active⟩ := of_decide_eq_true belongs
  cases action : resolution.action with
  | archive targetSiteId =>
      rw [action] at ok
      cases ok
      exact cleared_moved found here active ⟨rfl, rfl⟩ fun archived => nomatch archived
  | transfer targetSiteId =>
      rw [action] at ok
      obtain ⟨target, listed, live, ok⟩ := transferTarget_bind ok
      cases ok
      obtain ⟨_, rfl⟩ := Table.get?_eq_some.mp listed
      exact cleared_moved found here active ⟨rfl, rfl⟩ fun _ => ⟨target, listed, live⟩

theorem resolveAccount_moved {resolution : SiteAccountResolution}
    (ok : resolveAccount principal around siteId reason book resolution = .ok after) :
    AccountMoved siteId book resolution after := by
  obtain ⟨account, found, ok⟩ := required_bind.mp ok
  obtain ⟨found, belongs⟩ := Option.filter_eq_some_iff.mp found
  obtain ⟨here, _⟩ := of_decide_eq_true belongs
  obtain ⟨_, keyed⟩ := Table.get?_eq_some.mp found
  rw [← keyed] at found
  cases action : resolution.action with
  | archive targetSiteId =>
      rw [action] at ok
      cases ok
      exact
        { present := ⟨account, keyed ▸ found, here⟩
          sites := rfl, devices := rfl, circuits := rfl, aggregateSets := rfl, aggregateMembers := rfl
          enrollmentTokens := rfl, access := rfl
          others := fun id other => Table.get?_modify_other (archivedAccount around.now principal.userId) (fun _ => rfl) (keyed.symm ▸ other)
          moved := by
            rw [← keyed, action]
            exact ⟨_, Table.get?_modify_same (archivedAccount around.now principal.userId) (fun _ => rfl) found, here, fun archived => nomatch archived⟩ }
  | transfer targetSiteId =>
      rw [action] at ok
      obtain ⟨target, listed, live, ok⟩ := transferTarget_bind ok
      obtain ⟨_, ok⟩ := raiseIf_bind_eq_ok.mp ok
      cases ok
      obtain ⟨_, rfl⟩ := Table.get?_eq_some.mp listed
      exact
        { present := ⟨account, keyed ▸ found, here⟩
          sites := rfl, devices := rfl, circuits := rfl, aggregateSets := rfl, aggregateMembers := rfl
          enrollmentTokens := rfl, access := rfl
          others := fun id other => Table.get?_modify_other (transferredAccount target.id) (fun _ => rfl) (keyed.symm ▸ other)
          moved := by
            rw [← keyed, action]
            exact ⟨_, Table.get?_modify_same (transferredAccount target.id) (fun _ => rfl) found, rfl, fun _ => ⟨target, listed, live⟩⟩ }

end Steps

/-! ## Requests -/

/-- A request that does nothing to a site that is already as it asks. -/
def SiteRequest.Repeatable : SiteRequest → Prop
  | .setDefault .. | .disable .. | .enable .. | .remove .. | .restore .. => True
  | _ => False

/-- What a request comes to that succeeds. -/
inductive SiteEffect (book : SiteBook) (after : SiteBook) : SiteRequest → Prop where
  | unchanged {request : SiteRequest} (same : after = book) (repeatable : request.Repeatable) : SiteEffect book after request
  | created {payload : SiteAdminCreate} {id : String} {isDefault : Bool} {sites others : Table Site.id} {access : AccessBook}
      (replaced : others = if isDefault then clearDefaults book.sites id else book.sites) (fresh : id ∉ book.siteIds)
      (rows : sites.rows = newSite payload id isDefault :: others.rows)
      (users : access.users = book.access.users.map (initialAccess payload id))
      (result : after = { book with sites := sites, access := access }) : SiteEffect book after (.create payload id)
  | defaultSet {siteId : String} {payload : SiteLifecycleRequest} {site : Site} (found : book.sites.get? siteId = some site)
      (active : site.lifecycleState = .active) (other : site.isDefault = false)
      (result : after = { book with sites := (clearDefaults book.sites siteId).modify siteId madeDefault fun _ => rfl }) :
      SiteEffect book after (.setDefault siteId payload)
  | disabled {siteId : String} {payload : SiteLifecycleRequest} {site : Site} {now : Int} {actor : String}
      (found : book.sites.get? siteId = some site) (current : site.lifecycleState ≠ .removed) (other : site.isDefault = false)
      (result : after = book.updateSite siteId (disabledSite now actor) fun _ => rfl) :
      SiteEffect book after (.disable siteId payload)
  | enabled {siteId : String} {payload : SiteLifecycleRequest} {site : Site} (found : book.sites.get? siteId = some site)
      (idle : site.lifecycleState ≠ .active) (current : site.lifecycleState ≠ .removed)
      (result : after = book.updateSite siteId enabledSite fun _ => rfl) : SiteEffect book after (.enable siteId payload)
  | resolved {siteId : String} {payload : SiteDependencyResolution} {site : Site} {principal : SessionPrincipal}
      {around : Surroundings} {withSensors withAccounts withUsers : SiteBook}
      (found : book.sites.get? siteId = some site) (current : site.lifecycleState ≠ .removed)
      (sensors : payload.sensors.foldlM (resolveSensor principal around siteId payload.reason) book = .ok withSensors)
      (accounts : payload.utilityAccounts.foldlM (resolveAccount principal around siteId payload.reason) withSensors =
        .ok withAccounts)
      (users : endUserAccess siteId payload.endUserAccessIds withAccounts = .ok withUsers)
      (result : after = withUsers.updateSite siteId siteRevised fun _ => rfl) :
      SiteEffect book after (.resolveDependencies siteId payload)
  | removed {siteId : String} {payload : SiteRemoveRequest} {site : Site} {around : Surroundings} {actor : String}
      (found : book.sites.get? siteId = some site) (unblocked : (dependencies book around site).blockers = [])
      (resolved : (dependencies book around site).requiredActions = [])
      (result : after = { book with
          enrollmentTokens := book.enrollmentTokens.map fun token =>
            if OpenToken siteId token then { token with revokedAt := some around.now } else token
          }.updateSite siteId (removedSite around.now actor payload.reason) fun _ => rfl) :
      SiteEffect book after (.remove siteId payload)
  | restored {siteId : String} {payload : SiteRestoreRequest} {site : Site} {now : Int} {actor : String}
      (found : book.sites.get? siteId = some site) (former : site.lifecycleState = .removed)
      (result : after = book.updateSite siteId (restoredSite now actor) fun _ => rfl) :
      SiteEffect book after (.restore siteId payload)
  | accessUpdated {userId : String} {payload : UserAccessUpdate} {user : User} {access : AccessBook}
      (found : book.access.user? userId = some user) (current : user.lifecycleState ≠ .removed)
      (changes : Changes book.access access userId (accessUpdated payload))
      (result : after = { book with access := access }) : SiteEffect book after (.updateUserAccess userId payload)

section Requests
variable {book after : SiteBook} {principal : SessionPrincipal} {around : Surroundings} {siteId : String}

theorem clearDefaults_ids (sites : Table Site.id) : (clearDefaults sites siteId).rows.map Site.id = sites.rows.map Site.id := by
  rw [clearDefaults, Table.map, List.map_map, show Site.id ∘ defaultCleared siteId = Site.id from funext (defaultCleared_id siteId)]

theorem createAdminSite_effect {payload : SiteAdminCreate} {id : String}
    (ok : createAdminSite book principal around payload id = .ok after) : SiteEffect book after (.create payload id) := by
  obtain ⟨_, _, ok⟩ := bind_eq_ok.mp ok
  obtain ⟨_, ok⟩ := refuseIf_bind.mp ok
  obtain ⟨_, ok⟩ := refuseIf_bind.mp ok
  obtain ⟨sites, stored, ok⟩ := bind_eq_ok.mp ok
  obtain ⟨_, _, ok⟩ := bind_eq_ok.mp ok
  obtain ⟨_, ok⟩ := refuseIf_bind.mp ok
  obtain ⟨_, ok⟩ := refuseIf_bind.mp ok
  obtain ⟨access, users, ok⟩ := bind_eq_ok.mp ok
  cases ok
  obtain ⟨fresh, rows⟩ := storeSite_eq_ok stored
  refine .created (by simp only [decide_eq_true_eq]) ?_ rows (store_eq_ok users).1 rfl
  intro taken
  apply fresh
  split
  · rw [clearDefaults_ids]
    exact taken
  · exact taken

theorem setDefaultSite_effect {payload : SiteLifecycleRequest}
    (ok : setDefaultSite book principal around siteId payload = .ok after) : SiteEffect book after (.setDefault siteId payload) := by
  obtain ⟨_, _, ok⟩ := bind_eq_ok.mp ok
  obtain ⟨_, _, ok⟩ := bind_eq_ok.mp ok
  obtain ⟨site, found, ok⟩ := loadSite_bind ok
  obtain ⟨active, ok⟩ := refuseIf_bind.mp ok
  split at ok
  · cases ok
    exact .unchanged rfl trivial
  · rename_i other
    obtain ⟨_, _, ok⟩ := bind_eq_ok.mp ok
    cases ok
    obtain ⟨_, rfl⟩ := Table.get?_eq_some.mp found
    exact .defaultSet found (not_not.mp active) (Bool.eq_false_iff.mpr other) rfl

theorem disableSite_effect {payload : SiteLifecycleRequest}
    (ok : disableSite book principal around siteId payload = .ok after) : SiteEffect book after (.disable siteId payload) := by
  obtain ⟨_, _, ok⟩ := bind_eq_ok.mp ok
  obtain ⟨_, _, ok⟩ := bind_eq_ok.mp ok
  obtain ⟨site, found, ok⟩ := loadSite_bind ok
  split at ok
  · cases ok
    exact .unchanged rfl trivial
  · obtain ⟨current, ok⟩ := refuseIf_bind.mp ok
    obtain ⟨_, _, ok⟩ := bind_eq_ok.mp ok
    obtain ⟨other, ok⟩ := refuseIf_bind.mp ok
    obtain ⟨_, ok⟩ := refuseIf_bind.mp ok
    cases ok
    obtain ⟨_, rfl⟩ := Table.get?_eq_some.mp found
    exact .disabled found current (Bool.eq_false_iff.mpr other) rfl

theorem enableSite_effect {payload : SiteLifecycleRequest}
    (ok : enableSite book principal around siteId payload = .ok after) : SiteEffect book after (.enable siteId payload) := by
  obtain ⟨_, _, ok⟩ := bind_eq_ok.mp ok
  obtain ⟨_, _, ok⟩ := bind_eq_ok.mp ok
  obtain ⟨site, found, ok⟩ := loadSite_bind ok
  split at ok
  · cases ok
    exact .unchanged rfl trivial
  · rename_i idle
    obtain ⟨current, ok⟩ := refuseIf_bind.mp ok
    obtain ⟨_, _, ok⟩ := bind_eq_ok.mp ok
    cases ok
    obtain ⟨_, rfl⟩ := Table.get?_eq_some.mp found
    exact .enabled found idle current rfl

theorem resolveSiteDependencies_effect {payload : SiteDependencyResolution}
    (ok : resolveSiteDependencies book principal around siteId payload = .ok after) :
    SiteEffect book after (.resolveDependencies siteId payload) := by
  obtain ⟨_, _, ok⟩ := bind_eq_ok.mp ok
  obtain ⟨_, _, ok⟩ := bind_eq_ok.mp ok
  obtain ⟨_, _, ok⟩ := bind_eq_ok.mp ok
  obtain ⟨site, found, ok⟩ := loadSite_bind ok
  obtain ⟨current, ok⟩ := refuseIf_bind.mp ok
  obtain ⟨_, _, ok⟩ := bind_eq_ok.mp ok
  obtain ⟨withSensors, sensors, ok⟩ := bind_eq_ok.mp ok
  obtain ⟨withAccounts, accounts, ok⟩ := bind_eq_ok.mp ok
  obtain ⟨withUsers, users, ok⟩ := bind_eq_ok.mp ok
  cases ok
  obtain ⟨_, rfl⟩ := Table.get?_eq_some.mp found
  exact .resolved found current sensors accounts users rfl

theorem removeSite_effect {payload : SiteRemoveRequest} (ok : removeSite book principal around siteId payload = .ok after) :
    SiteEffect book after (.remove siteId payload) := by
  obtain ⟨_, _, ok⟩ := bind_eq_ok.mp ok
  obtain ⟨_, _, ok⟩ := bind_eq_ok.mp ok
  obtain ⟨site, found, ok⟩ := loadSite_bind ok
  split at ok
  · cases ok
    exact .unchanged rfl trivial
  · obtain ⟨_, _, ok⟩ := bind_eq_ok.mp ok
    obtain ⟨_, ok⟩ := refuseIf_bind.mp ok
    obtain ⟨_, ok⟩ := refuseIf_bind.mp ok
    obtain ⟨clear, ok⟩ := refuseIf_bind.mp ok
    cases ok
    obtain ⟨_, rfl⟩ := Table.get?_eq_some.mp found
    rw [not_or, not_not, not_not] at clear
    exact .removed found clear.1 clear.2 rfl

theorem restoreSite_effect {payload : SiteRestoreRequest} (ok : restoreSite book principal around siteId payload = .ok after) :
    SiteEffect book after (.restore siteId payload) := by
  obtain ⟨_, _, ok⟩ := bind_eq_ok.mp ok
  obtain ⟨_, _, ok⟩ := bind_eq_ok.mp ok
  obtain ⟨site, found, ok⟩ := loadSite_bind ok
  split at ok
  · cases ok
    exact .unchanged rfl trivial
  · obtain ⟨former, ok⟩ := refuseIf_bind.mp ok
    obtain ⟨_, _, ok⟩ := bind_eq_ok.mp ok
    obtain ⟨_, ok⟩ := refuseIf_bind.mp ok
    cases ok
    obtain ⟨_, rfl⟩ := Table.get?_eq_some.mp found
    exact .restored found (not_not.mp former) rfl

theorem updateUserAccess_siteEffect {userId : String} {payload : UserAccessUpdate}
    (ok : updateUserAccess book principal userId payload = .ok after) : SiteEffect book after (.updateUserAccess userId payload) := by
  obtain ⟨access, updated, ok⟩ := bind_eq_ok.mp ok
  cases ok
  cases (updateUserAccess_effect updated).1 with
  | nothing _ quiet => cases quiet
  | roleCreated _ _ quiet => cases quiet
  | accessUpdated found current _ _ _ _ _ _ changes => exact .accessUpdated found current changes rfl

theorem perform_siteEffect {call : SiteCall} (ok : call.perform book = .ok after) : SiteEffect book after call.request := by
  obtain ⟨principal, _, ok⟩ := required_bind.mp ok
  cases request : call.request with
  | create => exact createAdminSite_effect (by rwa [request] at ok)
  | setDefault => exact setDefaultSite_effect (by rwa [request] at ok)
  | disable => exact disableSite_effect (by rwa [request] at ok)
  | enable => exact enableSite_effect (by rwa [request] at ok)
  | resolveDependencies => exact resolveSiteDependencies_effect (by rwa [request] at ok)
  | remove => exact removeSite_effect (by rwa [request] at ok)
  | restore => exact restoreSite_effect (by rwa [request] at ok)
  | updateUserAccess => exact updateUserAccess_siteEffect (by rwa [request] at ok)

end Requests
end PowerMonitor.Sites
