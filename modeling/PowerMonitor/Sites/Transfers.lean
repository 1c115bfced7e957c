import PowerMonitor.Sites.Effects

/-! What belongs together stays at one site.

A sensor that is archived or moved leaves its account, its circuit and its aggregate sets. An account that moves leaves
nothing: the sensors and aggregate sets of the old site go on referring to it.
-/

set_option autoImplicit false
namespace PowerMonitor.Sites
open Library Access

/-- Sensors in use, circuits, accounts and aggregate sets refer to rows of their own site only. -/
structure WithinSite (book : SiteBook) : Prop where
  sensorAccounts : ∀ device ∈ book.devices.rows, device.lifecycleStatus = .active → ∀ account ∈ book.accounts.rows,
    device.utilityAccountId = some account.id → account.siteId = device.siteId
  sensorCircuits : ∀ device ∈ book.devices.rows, ∀ circuit ∈ book.circuits.rows,
    device.circuitId = some circuit.id → circuit.siteId = device.siteId
  aggregateAccounts : ∀ set ∈ book.aggregateSets.rows, ∀ account ∈ book.accounts.rows,
    set.utilityAccountId = some account.id → account.siteId = set.siteId
  aggregateSensors : ∀ member ∈ book.aggregateMembers, ∀ set ∈ book.aggregateSets.rows, ∀ device ∈ book.devices.rows,
    member.aggregateSetId = set.id → member.target = .device device.id → device.siteId = set.siteId

/-- An account that moves to another site takes all its sensors along or they are archived, and it is on no aggregate set. -/
def AccountsMoveAlone (book : SiteBook) (siteId : String) (payload : SiteDependencyResolution) : Prop :=
  ∀ item ∈ payload.utilityAccounts, item.action.destination siteId ≠ siteId →
    (∀ device ∈ book.devices.rows, device.lifecycleStatus = .active → device.utilityAccountId = some item.utilityAccountId →
      device.id ∈ payload.sensors.map SiteSensorResolution.deviceId) ∧
    ∀ set ∈ book.aggregateSets.rows, set.utilityAccountId ≠ some item.utilityAccountId

section Runs
variable {book after : SiteBook} {principal : SessionPrincipal} {around : Surroundings} {siteId reason : String}

/-- Every listed sensor is on nothing any more; the others are as they were. -/
structure SensorsMoved (book : SiteBook) (ids : List String) (after : SiteBook) : Prop where
  accounts : after.accounts = book.accounts
  circuits : after.circuits = book.circuits
  aggregateSets : after.aggregateSets = book.aggregateSets
  aggregateMembers : ∀ member ∈ after.aggregateMembers, member ∈ book.aggregateMembers ∧ ∀ id ∈ ids, member.target ≠ .device id
  others : ∀ id, id ∉ ids → after.devices.get? id = book.devices.get? id
  severed : ∀ id ∈ ids, ∀ device, after.devices.get? id = some device → device.utilityAccountId = none ∧ device.circuitId = none

theorem resolveSensors_moved {items : List SiteSensorResolution}
    (run : items.foldlM (resolveSensor principal around siteId reason) book = .ok after) :
    SensorsMoved book (items.map SiteSensorResolution.deviceId) after := by
  induction items generalizing book with
  | nil =>
      cases run
      exact ⟨rfl, rfl, rfl, fun member listed => ⟨listed, nofun⟩, fun _ _ => rfl, nofun⟩
  | cons item rest ih =>
      rw [List.foldlM_cons, bind_eq_ok] at run
      obtain ⟨middle, step, later⟩ := run
      have first := resolveSensor_moved step
      have moved := ih later
      refine ⟨moved.accounts.trans first.accounts, moved.circuits.trans first.circuits,
        moved.aggregateSets.trans first.aggregateSets, ?_, ?_, ?_⟩
      · intro member listed
        obtain ⟨kept, others⟩ := moved.aggregateMembers member listed
        rw [first.aggregateMembers] at kept
        obtain ⟨held, different⟩ := List.mem_filter.mp kept
        exact ⟨held, List.forall_mem_cons.mpr ⟨of_decide_eq_true different, others⟩⟩
      · intro id absent
        rw [List.map_cons, List.mem_cons, not_or] at absent
        rw [moved.others id absent.2, first.others id absent.1]
      · intro id listed device found
        by_cases again : id ∈ rest.map SiteSensorResolution.deviceId
        · exact moved.severed id again device found
        · have here : id = item.deviceId := (List.mem_cons.mp listed).resolve_right again
          obtain ⟨left, present, account, circuit, _⟩ := first.moved
          rw [moved.others id again, here, present] at found
          rw [← Option.some.inj found]
          exact ⟨account, circuit⟩

/-- What an account that is at the site now, and where it is afterwards, has to do with the items. -/
structure AccountsMoved (siteId : String) (book : SiteBook) (items : List SiteAccountResolution) (after : SiteBook) : Prop where
  devices : after.devices = book.devices
  circuits : after.circuits = book.circuits
  aggregateSets : after.aggregateSets = book.aggregateSets
  aggregateMembers : after.aggregateMembers = book.aggregateMembers
  from_before : ∀ id account, after.accounts.get? id = some account → ∃ before, book.accounts.get? id = some before ∧
    (account.siteId = before.siteId ∨
      ∃ item ∈ items, item.utilityAccountId = id ∧ item.action.destination siteId ≠ siteId)
  gone : ∀ item ∈ items, item.action.destination siteId ≠ siteId → ∃ before account,
    book.accounts.get? item.utilityAccountId = some before ∧ before.siteId = siteId ∧
      after.accounts.get? item.utilityAccountId = some account ∧ account.siteId ≠ siteId

theorem account_away {items : List SiteAccountResolution} {id : String} {account : UtilityAccount}
    (run : items.foldlM (resolveAccount principal around siteId reason) book = .ok after)
    (found : book.accounts.get? id = some account) (away : account.siteId ≠ siteId) : after.accounts.get? id = some account := by
  induction items generalizing book with
  | nil =>
      cases run
      exact found
  | cons item rest ih =>
      rw [List.foldlM_cons, bind_eq_ok] at run
      obtain ⟨middle, step, later⟩ := run
      have moved := resolveAccount_moved step
      refine ih later ?_
      rw [moved.others, found]
      rintro rfl
      obtain ⟨present, listed, here⟩ := moved.present
      rw [found] at listed
      exact away (Option.some.inj listed ▸ here)

theorem resolveAccounts_moved {items : List SiteAccountResolution}
    (run : items.foldlM (resolveAccount principal around siteId reason) book = .ok after) :
    AccountsMoved siteId book items after := by
  induction items generalizing book with
  | nil =>
      cases run
      exact ⟨rfl, rfl, rfl, rfl, fun id account found => ⟨account, found, .inl rfl⟩, nofun⟩
  | cons item rest ih =>
      rw [List.foldlM_cons, bind_eq_ok] at run
      obtain ⟨middle, step, later⟩ := run
      have first := resolveAccount_moved step
      have moved := ih later
      obtain ⟨present, listed, here⟩ := first.present
      obtain ⟨left, stored, destination, _⟩ := first.moved
      refine ⟨moved.devices.trans first.devices, moved.circuits.trans first.circuits,
        moved.aggregateSets.trans first.aggregateSets, moved.aggregateMembers.trans first.aggregateMembers, ?_, ?_⟩
      · intro id account found
        obtain ⟨between, held, same | ⟨other, member, named, leaves⟩⟩ := moved.from_before id account found
        · by_cases chosen : id = item.utilityAccountId
          · subst chosen
            rw [stored] at held
            refine ⟨present, listed, ?_⟩
            by_cases stays : item.action.destination siteId = siteId
            · exact .inl (by rw [same, ← Option.some.inj held, destination, stays, here])
            · exact .inr ⟨item, List.mem_cons_self, rfl, stays⟩
          · rw [first.others id chosen] at held
            exact ⟨between, held, .inl same⟩
        · by_cases chosen : id = item.utilityAccountId
          · exact ⟨present, chosen ▸ listed, .inr ⟨other, List.mem_cons_of_mem _ member, named, leaves⟩⟩
          · rw [first.others id chosen] at held
            exact ⟨between, held, .inr ⟨other, List.mem_cons_of_mem _ member, named, leaves⟩⟩
      · intro other member leaves
        rcases List.mem_cons.mp member with rfl | deeper
        · have away : left.siteId ≠ siteId := destination ▸ leaves
          exact ⟨present, left, listed, here, account_away later stored away, away⟩
        · obtain ⟨before, account, held, at_site, reached, away⟩ := moved.gone other deeper leaves
          by_cases chosen : other.utilityAccountId = item.utilityAccountId
          · exact ⟨present, account, chosen ▸ listed, here, reached, away⟩
          · rw [first.others _ chosen] at held
            exact ⟨before, account, held, at_site, reached, away⟩

end Runs

/-! ## Requests -/

section Requests
variable {book after : SiteBook} {principal : SessionPrincipal} {around : Surroundings} {siteId : String}
  {payload : SiteDependencyResolution}

/-- What the sensors and the accounts of a request come to together. -/
theorem resolved_moved (ok : resolveSiteDependencies book principal around siteId payload = .ok after) :
    ∃ middle, SensorsMoved book (payload.sensors.map SiteSensorResolution.deviceId) middle ∧
      AccountsMoved siteId middle payload.utilityAccounts after := by
  cases resolveSiteDependencies_effect ok with
  | unchanged _ repeatable => cases repeatable
  | @resolved _ _ site principal around middle withAccounts withUsers found current sensors accounts users result =>
      subst result
      have moved := resolveAccounts_moved accounts
      obtain ⟨_, users⟩ := refuseIf_bind.mp users
      obtain ⟨access, _, users⟩ := bind_eq_ok.mp users
      cases users
      exact ⟨middle, resolveSensors_moved sensors, moved.devices, moved.circuits, moved.aggregateSets, moved.aggregateMembers,
        moved.from_before, moved.gone⟩

/-- After a request everything refers to its own site if and only if every account that leaves the site leaves nothing behind. -/
theorem transfer_within_site_iff (within : WithinSite book)
    (ok : resolveSiteDependencies book principal around siteId payload = .ok after) :
    WithinSite after ↔ AccountsMoveAlone book siteId payload := by
  obtain ⟨middle, sensors, accounts⟩ := resolved_moved ok
  have unlisted : ∀ device, device.id ∉ payload.sensors.map SiteSensorResolution.deviceId →
      (device ∈ after.devices.rows ↔ device ∈ book.devices.rows) := by
    intro device absent
    have same := sensors.others device.id absent
    rw [← accounts.devices] at same
    have here := @Table.get?_eq_some _ _ _ _ after.devices device.id device
    have there := @Table.get?_eq_some _ _ _ _ book.devices device.id device
    rw [same, there, and_iff_left rfl, and_iff_left rfl] at here
    exact here.symm
  have severed : ∀ device ∈ after.devices.rows, device.id ∈ payload.sensors.map SiteSensorResolution.deviceId →
      device.utilityAccountId = none ∧ device.circuitId = none := by
    intro device listed member
    exact sensors.severed device.id member device (accounts.devices ▸ Table.get?_eq_some.mpr ⟨listed, rfl⟩)
  have sets : after.aggregateSets = book.aggregateSets := accounts.aggregateSets.trans sensors.aggregateSets
  have circuits : after.circuits = book.circuits := accounts.circuits.trans sensors.circuits
  have before : ∀ account ∈ after.accounts.rows, ∃ old ∈ book.accounts.rows, old.id = account.id ∧
      (account.siteId = old.siteId ∨ ∃ item ∈ payload.utilityAccounts, item.utilityAccountId = account.id ∧
        item.action.destination siteId ≠ siteId) := by
    intro account listed
    obtain ⟨old, held, moved⟩ := accounts.from_before account.id account (Table.get?_eq_some.mpr ⟨listed, rfl⟩)
    rw [sensors.accounts] at held
    obtain ⟨present, keyed⟩ := Table.get?_eq_some.mp held
    exact ⟨old, present, keyed, moved⟩
  constructor
  · intro kept item member leaves
    obtain ⟨old, account, held, here, reached, away⟩ := accounts.gone item member leaves
    rw [sensors.accounts] at held
    obtain ⟨present, keyed⟩ := Table.get?_eq_some.mp held
    obtain ⟨listed, named⟩ := Table.get?_eq_some.mp reached
    refine ⟨?_, ?_⟩
    · intro device inside active linked
      by_contra absent
      have old_site := within.sensorAccounts device inside active old present (keyed ▸ linked)
      have new_site := kept.sensorAccounts device ((unlisted device absent).mpr inside) active account listed (named ▸ linked)
      exact away (new_site.trans (old_site.symm.trans here))
    · intro set inside linked
      have old_site := within.aggregateAccounts set inside old present (keyed ▸ linked)
      have new_site := kept.aggregateAccounts set (sets ▸ inside) account listed (named ▸ linked)
      exact away (new_site.trans (old_site.symm.trans here))
  · intro alone
    constructor
    · intro device listed active account present linked
      have absent : device.id ∉ payload.sensors.map SiteSensorResolution.deviceId := by
        intro member
        rw [(severed device listed member).1] at linked
        cases linked
      have inside := (unlisted device absent).mp listed
      obtain ⟨old, held, keyed, same | ⟨item, member, named, leaves⟩⟩ := before account present
      · rw [same]
        exact within.sensorAccounts device inside active old held (keyed ▸ linked)
      · exact absurd ((alone item member leaves).1 device inside active (named ▸ linked)) absent
    · intro device listed circuit present linked
      have absent : device.id ∉ payload.sensors.map SiteSensorResolution.deviceId := by
        intro member
        rw [(severed device listed member).2] at linked
        cases linked
      exact within.sensorCircuits device ((unlisted device absent).mp listed) circuit (circuits ▸ present) linked
    · intro set listed account present linked
      rw [sets] at listed
      obtain ⟨old, held, keyed, same | ⟨item, member, named, leaves⟩⟩ := before account present
      · rw [same]
        exact within.aggregateAccounts set listed old held (keyed ▸ linked)
      · exact absurd (named ▸ linked) ((alone item member leaves).2 set listed)
    · intro member listed set present device inside grouped target
      rw [accounts.aggregateMembers] at listed
      obtain ⟨held, untouched⟩ := sensors.aggregateMembers member listed
      have absent : device.id ∉ payload.sensors.map SiteSensorResolution.deviceId :=
        fun chosen => untouched device.id chosen target
      exact within.aggregateSensors member held set (sets ▸ present) device ((unlisted device absent).mp inside) grouped target

end Requests

/-! ## A meter and its account -/

def nobody : AccessBook where
  valid := by decide

/-- Two active sites; the meter feeds the account of the first. -/
def meteredHome : SiteBook where
  sites := ⟨[{ id := "home", name := "Home", code := "home", isDefault := true }, { id := "annex", name := "Annex", code := "annex" }],
    by decide⟩
  devices := ⟨[{ id := "meter", siteId := "home", utilityAccountId := some "bill", costScope := .fullAccount }], by decide⟩
  accounts := ⟨[{ id := "bill", siteId := "home" }], by decide⟩
  circuits := ⟨[], List.nodup_nil⟩
  aggregateSets := ⟨[], List.nodup_nil⟩
  access := nobody

def mover : SessionPrincipal where
  userId := "mover"
  permissions := {.sitesTransferResources}
  allSites := true
  siteIds := []
  reauthenticated := true
  throttled := false

def moveAccount : SiteDependencyResolution where
  revision := 1
  reason := "moved"
  utilityAccounts := [{ utilityAccountId := "bill", action := .transfer "annex" }]

/-- The account moves with its meter. -/
def moveBoth : SiteDependencyResolution := { moveAccount with sensors := [{ deviceId := "meter", action := .transfer "annex" }] }

theorem meteredHome_within : WithinSite meteredHome := by constructor <;> decide

theorem meter_moves_with_account : ∃ after,
    resolveSiteDependencies meteredHome mover { now := 0 } "home" moveBoth = .ok after ∧ WithinSite after := by
  have done : (resolveSiteDependencies meteredHome mover { now := 0 } "home" moveBoth).toOption.isSome = true := by decide
  cases run : resolveSiteDependencies meteredHome mover { now := 0 } "home" moveBoth with
  | error failure =>
      rw [run] at done
      cases done
  | ok after =>
      refine ⟨after, rfl, (transfer_within_site_iff meteredHome_within run).mpr ?_⟩
      intro item listed _
      obtain rfl := List.mem_singleton.mp listed
      decide

/-- The account moves alone; the meter stays and goes on feeding it. -/
theorem meter_feeds_moved_account : WithinSite meteredHome ∧ ∃ after,
    resolveSiteDependencies meteredHome mover { now := 0 } "home" moveAccount = .ok after ∧ ¬ WithinSite after := by
  refine ⟨meteredHome_within, ?_⟩
  have left : ∃ after ∈ (resolveSiteDependencies meteredHome mover { now := 0 } "home" moveAccount).toOption,
      ∃ device ∈ after.devices.rows, device.lifecycleStatus = .active ∧ ∃ account ∈ after.accounts.rows,
        device.utilityAccountId = some account.id ∧ account.siteId ≠ device.siteId := by decide
  obtain ⟨after, done, device, listed, active, account, present, linked, away⟩ := left
  refine ⟨after, ?_, fun within => away (within.sensorAccounts device listed active account present linked)⟩
  cases run : resolveSiteDependencies meteredHome mover { now := 0 } "home" moveAccount with
  | error failure =>
      rw [run] at done
      cases done
  | ok result =>
      rw [run] at done
      cases done
      rfl

end PowerMonitor.Sites
