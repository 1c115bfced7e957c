import PowerMonitor.Library.Runs
import PowerMonitor.Sites.Effects

/-! One default site, and tombstones that nothing refers to.

A removal finds nothing that uses the site, and transfers and creations only ever refer to active sites. Access is granted to
any site that exists: it is the one change that can bring a reference to a removed site back.
-/

set_option autoImplicit false
namespace PowerMonitor.Sites
open Library Access

/-- Exactly one site is the default, and it is active. -/
def OneDefault (sites : Table Site.id) : Prop :=
  ∃ site ∈ sites.rows, site.isDefault = true ∧ site.lifecycleState = .active ∧
    ∀ other ∈ sites.rows, other.isDefault = true → other = site

def Removed (book : SiteBook) (siteId : String) : Prop :=
  ∃ site ∈ book.sites.rows, site.id = siteId ∧ site.lifecycleState = .removed

instance (book : SiteBook) (siteId : String) : Decidable (Removed book siteId) := inferInstanceAs (Decidable (∃ site ∈ _, _))

/-- Nothing in use refers to the site. -/
structure Unreferenced (book : SiteBook) (siteId : String) : Prop where
  sensors : ∀ device ∈ book.devices.rows, device.siteId = siteId → device.lifecycleStatus ≠ .active
  accounts : ∀ account ∈ book.accounts.rows, account.siteId = siteId → account.status ≠ .active
  tokens : ∀ token ∈ book.enrollmentTokens, ¬ OpenToken siteId token
  users : ∀ user ∈ book.access.users, user.lifecycleState ≠ .removed → siteId ∉ user.sites

structure SiteInvariant (book : SiteBook) : Prop where
  oneDefault : OneDefault book.sites
  unreferenced : ∀ siteId, Removed book siteId → Unreferenced book siteId

/-! ## The default site -/

section Defaults
variable {sites : Table Site.id} {siteId : String} {change : Site → Site}

/-- The default survives a change that leaves the flag, and the state of the default. -/
theorem OneDefault.modify (keeps : ∀ site, (change site).id = site.id) (one : OneDefault sites)
    (flag : ∀ site, sites.get? siteId = some site → (change site).isDefault = site.isDefault)
    (state : ∀ site, sites.get? siteId = some site → site.isDefault = true → (change site).lifecycleState = site.lifecycleState) :
    OneDefault (sites.modify siteId change keeps) := by
  obtain ⟨site, listed, isDefault, active, only⟩ := one
  by_cases chosen : site.id = siteId
  · have found : sites.get? siteId = some site := Table.get?_eq_some.mpr ⟨listed, chosen⟩
    refine ⟨change site, Table.mem_modify.mpr (.inr ⟨site, found, rfl⟩), (flag site found).trans isDefault,
      (state site found isDefault).trans active, ?_⟩
    intro other present marked
    rcases Table.mem_modify.mp present with ⟨old, different⟩ | ⟨old, same, rfl⟩
    · exact absurd (only other old marked ▸ chosen) different
    · rw [Option.some.inj (same.symm.trans found)]
  · refine ⟨site, Table.mem_modify.mpr (.inl ⟨listed, chosen⟩), isDefault, active, ?_⟩
    intro other present marked
    rcases Table.mem_modify.mp present with ⟨old, _⟩ | ⟨old, found, rfl⟩
    · exact only other old marked
    · obtain ⟨held, keyed⟩ := Table.get?_eq_some.mp found
      rw [flag old found] at marked
      exact absurd (only old held marked ▸ keyed) chosen

/-- A change of a site that is not the default and does not become it. -/
theorem OneDefault.update_other {book : SiteBook} {keeps : ∀ site, (change site).id = site.id}
    (one : OneDefault book.sites) {site : Site}
    (found : book.sites.get? siteId = some site) (other : site.isDefault = false) (stays : (change site).isDefault = false) :
    OneDefault (book.updateSite siteId change keeps).sites := by
  apply one.modify keeps
  · intro row same
    rw [Option.some.inj (same.symm.trans found), stays, other]
  · intro row same marked
    rw [Option.some.inj (same.symm.trans found), other] at marked
    cases marked

theorem mem_clearDefaults {site : Site} :
    site ∈ (clearDefaults sites siteId).rows ↔ ∃ old ∈ sites.rows, defaultCleared siteId old = site := List.mem_map

/-- A site that is not active is not the default. -/
theorem OneDefault.other_of_idle (one : OneDefault sites) {site : Site} (found : sites.get? siteId = some site)
    (idle : site.lifecycleState ≠ .active) : site.isDefault = false := by
  obtain ⟨chosen, _, _, active, only⟩ := one
  by_contra marked
  rw [only site (Table.get?_eq_some.mp found).1 (Bool.not_eq_false _ ▸ marked)] at idle
  exact idle active

theorem clearDefaults_isDefault {site : Site} (listed : site ∈ (clearDefaults sites siteId).rows) (marked : site.isDefault = true) :
    site.id = siteId := by
  obtain ⟨old, _, rfl⟩ := mem_clearDefaults.mp listed
  rw [defaultCleared_id]
  unfold defaultCleared at marked
  split at marked
  · cases marked
  · rename_i kept
    by_contra different
    exact kept ⟨marked, different⟩

theorem OneDefault.set {site : Site} (found : sites.get? siteId = some site) (active : site.lifecycleState = .active) :
    OneDefault ((clearDefaults sites siteId).modify siteId madeDefault fun _ => rfl) := by
  obtain ⟨listed, keyed⟩ := Table.get?_eq_some.mp found
  have kept : (clearDefaults sites siteId).get? siteId = some (defaultCleared siteId site) :=
    Table.get?_eq_some.mpr ⟨mem_clearDefaults.mpr ⟨site, listed, rfl⟩, (defaultCleared_id siteId site).trans keyed⟩
  have same : defaultCleared siteId site = site := if_neg fun cleared => cleared.2 keyed
  rw [same] at kept
  refine ⟨madeDefault site, Table.mem_modify.mpr (.inr ⟨site, kept, rfl⟩), rfl, active, ?_⟩
  intro other present marked
  rcases Table.mem_modify.mp present with ⟨old, different⟩ | ⟨old, held, rfl⟩
  · exact absurd (clearDefaults_isDefault old marked) different
  · rw [Option.some.inj (held.symm.trans kept)]

theorem OneDefault.created (one : OneDefault sites) {payload : SiteAdminCreate} {id : String} {isDefault : Bool}
    {others after : Table Site.id} (replaced : others = if isDefault then clearDefaults sites id else sites)
    (fresh : id ∉ sites.rows.map Site.id) (rows : after.rows = newSite payload id isDefault :: others.rows) :
    OneDefault after := by
  cases isDefault with
  | true =>
      refine ⟨newSite payload id true, by rw [rows]; exact List.mem_cons_self, rfl, rfl, ?_⟩
      intro other present marked
      rw [rows] at present
      rcases List.mem_cons.mp present with same | old
      · exact same
      · rw [replaced, if_pos rfl] at old
        refine absurd ?_ fresh
        rw [← clearDefaults_ids sites]
        exact List.mem_map.mpr ⟨other, old, clearDefaults_isDefault old marked⟩
  | false =>
      rw [replaced, if_neg Bool.false_ne_true] at rows
      obtain ⟨site, listed, flagged, active, only⟩ := one
      refine ⟨site, by rw [rows]; exact List.mem_cons_of_mem _ listed, flagged, active, ?_⟩
      intro other present marked
      rw [rows] at present
      rcases List.mem_cons.mp present with rfl | old
      · cases marked
      · exact only other old marked

end Defaults

/-! ## Tombstones -/

/-- No site is removed, and no removed site is referred to again. -/
structure KeepsTombstones (book after : SiteBook) : Prop where
  removed : ∀ siteId, Removed after siteId → Removed book siteId
  unreferenced : ∀ siteId, Removed book siteId → Unreferenced book siteId → Unreferenced after siteId

namespace KeepsTombstones
variable {book middle after : SiteBook}

theorem refl : KeepsTombstones book book := ⟨fun _ removed => removed, fun _ _ free => free⟩

theorem trans (stays : ∀ siteId, Removed book siteId → Removed middle siteId) (first : KeepsTombstones book middle)
    (second : KeepsTombstones middle after) : KeepsTombstones book after where
  removed siteId removed := first.removed siteId (second.removed siteId removed)
  unreferenced siteId removed free := second.unreferenced siteId (stays siteId removed) (first.unreferenced siteId removed free)

theorem unreferenced_after (kept : KeepsTombstones book after) (free : ∀ siteId, Removed book siteId → Unreferenced book siteId)
    (siteId : String) (removed : Removed after siteId) : Unreferenced after siteId :=
  kept.unreferenced siteId (kept.removed siteId removed) (free siteId (kept.removed siteId removed))

theorem of_sites {sites : Table Site.id} (removed : ∀ siteId, Removed { book with sites := sites } siteId → Removed book siteId) :
    KeepsTombstones book { book with sites := sites } :=
  ⟨removed, fun _ _ free => ⟨free.sensors, free.accounts, free.tokens, free.users⟩⟩

/-- A change of one site that does not remove it. -/
theorem modify {id : String} {change : Site → Site} {keeps : ∀ site, (change site).id = site.id}
    (state : ∀ site, book.sites.get? id = some site → (change site).lifecycleState = .removed → site.lifecycleState = .removed) :
    KeepsTombstones book (book.updateSite id change keeps) := by
  apply of_sites
  rintro siteId ⟨site, listed, rfl, removed⟩
  change site ∈ (book.sites.modify id change keeps).rows at listed
  rcases Table.mem_modify.mp listed with ⟨old, _⟩ | ⟨old, found, rfl⟩
  · exact ⟨site, old, rfl, removed⟩
  · exact ⟨old, (Table.get?_eq_some.mp found).1, (keeps old).symm, state old found removed⟩

theorem clearDefaults {id : String} : KeepsTombstones book { book with sites := Sites.clearDefaults book.sites id } := by
  apply of_sites
  rintro siteId ⟨site, listed, rfl, removed⟩
  obtain ⟨old, present, rfl⟩ := mem_clearDefaults.mp listed
  refine ⟨old, present, (defaultCleared_id id old).symm, ?_⟩
  unfold defaultCleared at removed
  split at removed <;> exact removed

theorem removed_clearDefaults {id siteId : String} (removed : Removed book siteId) :
    Removed { book with sites := Sites.clearDefaults book.sites id } siteId := by
  obtain ⟨site, listed, keyed, state⟩ := removed
  refine ⟨defaultCleared id site, mem_clearDefaults.mpr ⟨site, listed, rfl⟩, (defaultCleared_id id site).trans keyed, ?_⟩
  unfold defaultCleared
  split <;> exact state

/-- A change of the users that gives access to no removed site. -/
theorem of_users {access : AccessBook} {change : User → User} (users : access.users = book.access.users.map change)
    (state : ∀ user, (change user).lifecycleState = user.lifecycleState)
    (granted : ∀ user, ∀ siteId ∈ (change user).sites, Removed book siteId → siteId ∈ user.sites) :
    KeepsTombstones book { book with access := access } where
  removed _ removed := removed
  unreferenced siteId removed free := by
    refine ⟨free.sensors, free.accounts, free.tokens, ?_⟩
    intro user listed current held
    change user ∈ access.users at listed
    rw [users] at listed
    obtain ⟨old, present, rfl⟩ := List.mem_map.mp listed
    rw [state] at current
    exact free.users old present current (granted old siteId held removed)

end KeepsTombstones

section Requests
variable {book after : SiteBook} {siteId : String}

theorem LiveSite.not_removed (live : LiveSite book siteId) : ¬ Removed book siteId := by
  rintro ⟨site, listed, keyed, removed⟩
  obtain ⟨found, same, active⟩ := live
  rw [Table.get?_eq_some.mpr ⟨listed, keyed⟩] at same
  rw [← Option.some.inj same, removed] at active
  cases active

theorem SensorMoved.tombstones {deviceId : String} (moved : SensorMoved siteId book deviceId after) :
    KeepsTombstones book after where
  removed id removed := by
    rw [Removed, moved.sites] at removed
    exact removed
  unreferenced id removed free := by
    refine ⟨?_, moved.accounts ▸ free.accounts, moved.enrollmentTokens ▸ free.tokens, moved.access ▸ free.users⟩
    intro device listed here active
    by_cases same : device.id = deviceId
    · obtain ⟨found, present, _, _, live⟩ := moved.moved
      have chosen := Option.some.inj (present.symm.trans (Table.get?_eq_some.mpr ⟨listed, same⟩))
      rw [chosen, here] at live
      exact (live active).not_removed removed
    · have found : after.devices.get? device.id = some device := Table.get?_eq_some.mpr ⟨listed, rfl⟩
      rw [moved.others device.id same] at found
      exact free.sensors device (Table.get?_eq_some.mp found).1 here active

theorem AccountMoved.tombstones {resolution : SiteAccountResolution} (moved : AccountMoved siteId book resolution after) :
    KeepsTombstones book after where
  removed id removed := by
    rw [Removed, moved.sites] at removed
    exact removed
  unreferenced id removed free := by
    refine ⟨moved.devices ▸ free.sensors, ?_, moved.enrollmentTokens ▸ free.tokens, moved.access ▸ free.users⟩
    intro account listed here active
    by_cases same : account.id = resolution.utilityAccountId
    · obtain ⟨found, present, _, live⟩ := moved.moved
      have chosen := Option.some.inj (present.symm.trans (Table.get?_eq_some.mpr ⟨listed, same⟩))
      rw [chosen, here] at live
      exact (live active).not_removed removed
    · have found : after.accounts.get? account.id = some account := Table.get?_eq_some.mpr ⟨listed, rfl⟩
      rw [moved.others account.id same] at found
      exact free.accounts account (Table.get?_eq_some.mp found).1 here active

theorem resolveSensors_tombstones {principal : SessionPrincipal} {around : Surroundings} {reason : String}
    {items : List SiteSensorResolution} (run : items.foldlM (resolveSensor principal around siteId reason) book = .ok after) :
    after.sites = book.sites ∧ KeepsTombstones book after := by
  refine foldlM_invariant (fun state => state.sites = book.sites ∧ KeepsTombstones book state) items ⟨rfl, .refl⟩ ?_ run
  rintro state item next _ ok ⟨sites, kept⟩
  have moved := resolveSensor_moved ok
  refine ⟨moved.sites.trans sites, kept.trans ?_ moved.tombstones⟩
  intro id removed
  rw [Removed, sites]
  exact removed

theorem resolveAccounts_tombstones {principal : SessionPrincipal} {around : Surroundings} {reason : String}
    {items : List SiteAccountResolution} (run : items.foldlM (resolveAccount principal around siteId reason) book = .ok after) :
    after.sites = book.sites ∧ KeepsTombstones book after := by
  refine foldlM_invariant (fun state => state.sites = book.sites ∧ KeepsTombstones book state) items ⟨rfl, .refl⟩ ?_ run
  rintro state item next _ ok ⟨sites, kept⟩
  have moved := resolveAccount_moved ok
  refine ⟨moved.sites.trans sites, kept.trans ?_ moved.tombstones⟩
  intro id removed
  rw [Removed, sites]
  exact removed

theorem endUserAccess_tombstones {userIds : List String} (ok : endUserAccess siteId userIds book = .ok after) :
    after.sites = book.sites ∧ KeepsTombstones book after := by
  obtain ⟨_, ok⟩ := refuseIf_bind.mp ok
  obtain ⟨access, stored, ok⟩ := bind_eq_ok.mp ok
  cases ok
  refine ⟨rfl, .of_users (store_eq_ok stored).1 ?_ ?_⟩
  · intro user
    unfold accessEnded
    split <;> rfl
  · intro user id held _
    unfold accessEnded at held
    split at held
    · exact (List.mem_filter.mp held).1
    · exact held

theorem removed_congr (sites : after.sites = book.sites) (id : String) (removed : Removed book id) : Removed after id := by
  rw [Removed, sites]
  exact removed

theorem default_not_removable {around : Surroundings} {site : Site} (unblocked : (dependencies book around site).blockers = []) :
    site.isDefault = false := by
  obtain ⟨rest, _⟩ := List.append_eq_nil_iff.mp unblocked
  obtain ⟨flag, _⟩ := List.append_eq_nil_iff.mp rest
  rw [ite_eq_right_iff, imp_iff_not (List.cons_ne_nil _ _)] at flag
  exact Bool.eq_false_iff.mpr flag

/-- A removal has found nothing that uses the site. -/
theorem unreferenced_of_resolved {around : Surroundings} {site : Site}
    (resolved : (dependencies book around site).requiredActions = [])
    (tokens : ∀ token ∈ after.enrollmentTokens, ¬ OpenToken site.id token) (devices : after.devices = book.devices)
    (accounts : after.accounts = book.accounts) (access : after.access = book.access) : Unreferenced after site.id := by
  obtain ⟨rest, users⟩ := List.append_eq_nil_iff.mp resolved
  obtain ⟨sensors, utilityAccounts⟩ := List.append_eq_nil_iff.mp rest
  rw [ite_eq_right_iff, imp_iff_not (List.cons_ne_nil _ _), not_not, List.filter_eq_nil_iff] at sensors utilityAccounts users
  refine ⟨?_, ?_, tokens, ?_⟩
  · rw [devices]
    exact fun device listed here active => sensors device listed (decide_eq_true ⟨here, active⟩)
  · rw [accounts]
    exact fun account listed here active => utilityAccounts account listed (decide_eq_true ⟨here, active⟩)
  · rw [access]
    exact fun user listed current held => users user listed (decide_eq_true ⟨held, current⟩)

/-! ## Steps -/

theorem created_tombstones {payload : SiteAdminCreate} {id : String} {isDefault : Bool} {sites others : Table Site.id}
    {access : AccessBook} (replaced : others = if isDefault then clearDefaults book.sites id else book.sites)
    (fresh : id ∉ book.siteIds) (rows : sites.rows = newSite payload id isDefault :: others.rows)
    (users : access.users = book.access.users.map (initialAccess payload id)) :
    KeepsTombstones book { book with sites := sites, access := access } := by
  have granted : KeepsTombstones book { book with access := access } := by
    refine .of_users users ?_ ?_
    · intro user
      unfold initialAccess
      split <;> rfl
    · rintro user siteId held ⟨site, listed, keyed, _⟩
      unfold initialAccess at held
      split at held
      · rcases List.mem_append.mp held with before | new
        · exact before
        · refine absurd (List.mem_map.mpr ⟨site, listed, ?_⟩) fresh
          rw [keyed, List.mem_singleton.mp new]
      · exact held
  have bare : KeepsTombstones { book with access := access } { book with sites := sites, access := access } := by
    apply KeepsTombstones.of_sites
    rintro siteId ⟨site, listed, keyed, removed⟩
    change site ∈ sites.rows at listed
    rw [rows] at listed
    rcases List.mem_cons.mp listed with rfl | old
    · cases removed
    · rw [replaced] at old
      split at old
      · exact KeepsTombstones.clearDefaults.removed siteId ⟨site, old, keyed, removed⟩
      · exact ⟨site, old, keyed, removed⟩
  exact @KeepsTombstones.trans book { book with access := access } _ (fun _ removed => removed) granted bare

/-- Access is granted to no removed site, unless to all sites. -/
def GrantsLiveSites (book : SiteBook) (request : SiteRequest) : Prop :=
  ∀ userId payload, request = .updateUserAccess userId payload → payload.allSites = false →
    ∀ siteId ∈ payload.siteIds, ¬ Removed book siteId

theorem accessUpdated_tombstones {userId : String} {payload : UserAccessUpdate} {access : AccessBook}
    (changes : Changes book.access access userId (accessUpdated payload))
    (live : GrantsLiveSites book (.updateUserAccess userId payload)) : KeepsTombstones book { book with access := access } := by
  refine .of_users changes.1 ?_ ?_
  · intro user
    split <;> rfl
  · intro user siteId held removed
    split at held
    · simp only [accessUpdated] at held
      split at held
      · cases held
      · rename_i some
        exact absurd removed (live userId payload rfl (Bool.eq_false_iff.mpr some) siteId held)
    · exact held

theorem removed_effect {site : Site} {around : Surroundings} {actor reason : String} (invariant : SiteInvariant book)
    (found : book.sites.get? siteId = some site) (resolved : (dependencies book around site).requiredActions = [])
    (result : after = { book with
        enrollmentTokens := book.enrollmentTokens.map fun token =>
          if OpenToken siteId token then { token with revokedAt := some around.now } else token
        }.updateSite siteId (removedSite around.now actor reason) fun _ => rfl) :
    ∀ id, Removed after id → Unreferenced after id := by
  obtain ⟨_, rfl⟩ := Table.get?_eq_some.mp found
  have tokens : ∀ token ∈ after.enrollmentTokens, ∀ id, OpenToken id token →
      token ∈ book.enrollmentTokens ∧ ¬ OpenToken site.id token := by
    intro token listed id opened
    rw [result] at listed
    obtain ⟨old, present, rfl⟩ := List.mem_map.mp listed
    split at opened
    · cases opened.2.1
    · rename_i closed
      rw [if_neg closed]
      exact ⟨present, closed⟩
  rintro id ⟨row, listed, rfl, removed⟩
  rw [result] at listed
  change row ∈ (book.sites.modify site.id (removedSite around.now actor reason) fun _ => rfl).rows at listed
  rcases Table.mem_modify.mp listed with ⟨old, _⟩ | ⟨old, held, rfl⟩
  · have free := invariant.unreferenced row.id ⟨row, old, rfl, removed⟩
    exact ⟨result ▸ free.sensors, result ▸ free.accounts,
      fun token present opened => free.tokens token (tokens token present _ opened).1 opened, result ▸ free.users⟩
  · rw [show (removedSite around.now actor reason old).id = site.id from (Table.get?_eq_some.mp held).2]
    exact unreferenced_of_resolved resolved
      (fun token present opened => (tokens token present _ opened).2 opened) (result ▸ rfl) (result ▸ rfl) (result ▸ rfl)

/-- One request, unless it grants access to a removed site. -/
theorem SiteEffect.invariant {request : SiteRequest} (effect : SiteEffect book after request) (invariant : SiteInvariant book)
    (live : GrantsLiveSites book request) : SiteInvariant after := by
  obtain ⟨one, free⟩ := invariant
  cases effect with
  | unchanged same => exact same ▸ ⟨one, free⟩
  | created replaced fresh rows users result =>
      subst result
      exact ⟨one.created replaced fresh rows, (created_tombstones replaced fresh rows users).unreferenced_after free⟩
  | @defaultSet siteId payload site found active other result =>
      subst result
      have made : KeepsTombstones { book with sites := clearDefaults book.sites siteId } _ :=
        @KeepsTombstones.modify _ siteId madeDefault (fun _ => rfl) fun row _ removed => removed
      exact ⟨.set found active,
        (KeepsTombstones.clearDefaults.trans (fun _ => KeepsTombstones.removed_clearDefaults) made).unreferenced_after free⟩
  | @disabled siteId payload site now actor found current other result =>
      subst result
      have kept : KeepsTombstones book (book.updateSite siteId (disabledSite now actor) fun _ => rfl) :=
        .modify fun row _ removed => by cases removed
      exact ⟨one.update_other found other other, kept.unreferenced_after free⟩
  | @enabled siteId payload site found idle current result =>
      subst result
      have other := one.other_of_idle found idle
      have kept : KeepsTombstones book (book.updateSite siteId enabledSite fun _ => rfl) :=
        .modify fun row _ removed => by cases removed
      exact ⟨one.update_other found other other, kept.unreferenced_after free⟩
  | @resolved siteId payload site principal around withSensors withAccounts withUsers found current sensors accounts users result =>
      subst result
      obtain ⟨sites₁, kept₁⟩ := resolveSensors_tombstones sensors
      obtain ⟨sites₂, kept₂⟩ := resolveAccounts_tombstones accounts
      obtain ⟨sites₃, kept₃⟩ := endUserAccess_tombstones users
      have revised : KeepsTombstones withUsers (withUsers.updateSite siteId siteRevised fun _ => rfl) :=
        .modify fun row _ removed => removed
      have kept := ((kept₁.trans (removed_congr sites₁) kept₂).trans (removed_congr (sites₂.trans sites₁)) kept₃).trans
        (removed_congr (sites₃.trans (sites₂.trans sites₁))) revised
      refine ⟨?_, kept.unreferenced_after free⟩
      have still : OneDefault withUsers.sites := sites₃ ▸ sites₂ ▸ sites₁ ▸ one
      exact @OneDefault.modify _ siteId siteRevised (fun _ => rfl) still (fun _ _ => rfl) fun _ _ _ => rfl
  | @removed siteId payload site around actor found unblocked resolved result =>
      have kept := removed_effect ⟨one, free⟩ found resolved result
      refine ⟨?_, kept⟩
      subst result
      exact @OneDefault.update_other siteId (removedSite around.now actor payload.reason) { book with enrollmentTokens := _ }
        (fun _ => rfl) one site found
        (default_not_removable unblocked) rfl
  | @restored siteId payload site now actor found former result =>
      subst result
      have other := one.other_of_idle found (by rw [former]; exact SiteState.noConfusion)
      have kept : KeepsTombstones book (book.updateSite siteId (restoredSite now actor) fun _ => rfl) :=
        .modify fun row _ removed => by cases removed
      exact ⟨one.update_other found other rfl, kept.unreferenced_after free⟩
  | accessUpdated found current changes result =>
      subst result
      exact ⟨one, (accessUpdated_tombstones changes live).unreferenced_after free⟩

/-! ## Runs -/

/-- Only the grant matters. -/
theorem apply_invariant_iff {call : SiteCall} (invariant : SiteInvariant book) : SiteInvariant (call.apply book) ↔
    ∀ after, call.perform book = .ok after → GrantsLiveSites book call.request := by
  cases ran : call.perform book with
  | error failure =>
      rw [SiteCall.apply, ran]
      exact iff_of_true invariant fun after ok => nomatch ok
  | ok after =>
      have effect := perform_siteEffect ran
      rw [SiteCall.apply, ran, Except.toOption, Option.getD_some]
      constructor
      · rintro reached _ _ userId payload request some siteId named removed
        rw [request] at effect
        cases effect with
        | unchanged _ repeatable => cases repeatable
        | @accessUpdated userId payload user access found current changes result =>
            subst result
            have granted : accessUpdated payload user ∈ access.users := by
              rw [changes.1]
              exact List.mem_map.mpr ⟨user, (user?_mem found).1, if_pos (user?_mem found).2⟩
            refine (reached.unreferenced siteId removed).users _ granted current ?_
            simp only [accessUpdated, some]
            exact named
      · intro live
        exact effect.invariant invariant (live after rfl)

/-- One active default site and no other. -/
def OneSite (book : SiteBook) : Prop :=
  ∃ site, book.sites.rows = [site] ∧ site.isDefault = true ∧ site.lifecycleState = .active

theorem OneSite.invariant (one : OneSite book) : SiteInvariant book := by
  obtain ⟨site, rows, isDefault, active⟩ := one
  refine ⟨⟨site, by simp [rows], isDefault, active, by simp [rows]⟩, ?_⟩
  rintro siteId ⟨other, listed, _, removed⟩
  rw [rows, List.mem_singleton] at listed
  rw [listed, active] at removed
  cases removed

/-- From one active default site, exactly one site is the default and no tombstone is referred to in every state of a run, if
and only if no request that is carried out grants access to a removed site. -/
theorem site_lifecycle_iff {calls : List SiteCall} (initial : OneSite book) :
    (∀ earlier later, calls = earlier ++ later → SiteInvariant (earlier.foldl SiteCall.apply book)) ↔
      ∀ earlier call later, calls = earlier ++ call :: later → ∀ after,
        call.perform (earlier.foldl SiteCall.apply book) = .ok after →
          GrantsLiveSites (earlier.foldl SiteCall.apply book) call.request := by
  rw [forall_prefixes_iff initial.invariant]
  exact @foldl_guarded_iff SiteBook SiteCall SiteCall.apply SiteInvariant (fun _ _ => True)
    (fun state call => ∀ after, call.perform state = .ok after → GrantsLiveSites state call.request)
    (fun state call => SiteInvariant (call.apply state)) book initial.invariant
    (fun state call invariant _ => apply_invariant_iff invariant)
    (fun state call invariant _ live => (apply_invariant_iff invariant).mpr live) calls (fun _ _ _ _ => trivial)

end Requests

/-! ## An annex -/

/-- An administrator of all sites and a viewer of one. -/
def staff : AccessBook where
  users :=
    [{ id := "admin", email := "admin", passwordHash := "a", roles := ["admin"] },
      { id := "viewer", email := "viewer", passwordHash := "v", allSites := false, roles := ["viewer"], sites := ["home"] }]
  roles :=
    [{ name := "admin", displayName := "Administrator", permissions := ∅, isBuiltin := true },
      { name := "viewer", displayName := "Viewer", permissions := ∅, isBuiltin := true }]
  valid := by decide

def homeOnly : SiteBook where
  sites := ⟨[{ id := "home", name := "Home", code := "home", isDefault := true }], by decide⟩
  devices := ⟨[], List.nodup_nil⟩
  accounts := ⟨[], List.nodup_nil⟩
  circuits := ⟨[], List.nodup_nil⟩
  aggregateSets := ⟨[], List.nodup_nil⟩
  access := staff

def byAdmin (request : SiteRequest) : SiteCall := { actorId := "admin", around := { now := 0 }, request := request }

def createAnnex : SiteCall := byAdmin (.create { name := "Annex", code := "annex" } "annex")

def removeAnnex : SiteCall := byAdmin (.remove "annex" { revision := 1, reason := "sold", confirmation := "annex", dependencyReviewed := true })

def restoreAnnex : SiteCall := byAdmin (.restore "annex" { revision := 2, reason := "kept after all", confirmHighRisk := true })

def grantAnnex : SiteCall :=
  byAdmin (.updateUserAccess "viewer" { roleIds := ["viewer"], allSites := false, siteIds := ["home", "annex"], expectedRevision := 1 })

theorem homeOnly_oneSite : OneSite homeOnly := ⟨_, rfl, rfl, rfl⟩

/-- Access to the annex is granted after it was restored. -/
theorem restored_annex_keeps_invariant :
    SiteInvariant ([createAnnex, removeAnnex, restoreAnnex, grantAnnex].foldl SiteCall.apply homeOnly) := by
  refine (site_lifecycle_iff homeOnly_oneSite).mpr ?_ [createAnnex, removeAnnex, restoreAnnex, grantAnnex] [] rfl
  refine forall_splits_cons.mpr ⟨fun _ _ _ _ => nofun, forall_splits_cons.mpr ⟨fun _ _ _ _ => nofun,
    forall_splits_cons.mpr ⟨fun _ _ _ _ => nofun, forall_splits_cons.mpr ⟨?_, forall_splits_nil⟩⟩⟩⟩
  rintro after _ userId payload ⟨⟩ _
  decide

/-- Access to the annex is granted while it is removed. -/
theorem removed_annex_regains_viewer : OneSite homeOnly ∧
    ¬ SiteInvariant ([createAnnex, removeAnnex, grantAnnex].foldl SiteCall.apply homeOnly) := by
  refine ⟨homeOnly_oneSite, fun invariant => ?_⟩
  have removed : Removed ([createAnnex, removeAnnex, grantAnnex].foldl SiteCall.apply homeOnly) "annex" := by decide
  have granted : ∃ user ∈ ([createAnnex, removeAnnex, grantAnnex].foldl SiteCall.apply homeOnly).access.users,
      user.lifecycleState ≠ .removed ∧ "annex" ∈ user.sites := by decide
  obtain ⟨user, listed, current, held⟩ := granted
  exact (invariant.unreferenced "annex" removed).users user listed current held

end PowerMonitor.Sites
