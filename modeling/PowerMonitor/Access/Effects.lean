import PowerMonitor.Access.Service

/-! What a request that succeeds has checked, and what it has changed. -/

set_option autoImplicit false
namespace PowerMonitor.Access
open Library

section Guards
variable {α : Type} {condition : Prop} [Decidable condition] {status : Nat} {title detail code : String}

theorem refuseIf_bind {next : Unit → Except Failure α} {result : α} :
    (refuseIf condition status title detail code >>= next) = .ok result ↔ ¬ condition ∧ next () = .ok result :=
  raiseIf_bind_eq_ok

theorem required_bind {β : Type} {value : Option α} {next : α → Except Failure β} {result : β} :
    (required value status title detail code >>= next) = .ok result ↔ ∃ found, value = some found ∧ next found = .ok result := by
  cases value with
  | none => exact ⟨nofun, nofun⟩
  | some found => simp [required, bind, Except.bind]

theorem loadManageableUser_bind {book : AccessBook} {principal : SessionPrincipal} {userId : String}
    {next : User → Except Failure α} {result : α} (ok : (loadManageableUser book principal userId >>= next) = .ok result) :
    ∃ user, book.user? userId = some user ∧ TargetScopeAllowed principal user ∧ next user = .ok result := by
  obtain ⟨user, found, ok⟩ := required_bind.mp ok
  obtain ⟨listed, allowed⟩ := Option.filter_eq_some_iff.mp found
  exact ⟨user, listed, of_decide_eq_true allowed, ok⟩

end Guards

/-! ## Tables after a request -/

section Tables
variable {book after : AccessBook}

theorem store_eq_ok {users : List User} {roles : List Role} {failure : Failure}
    (ok : AccessBook.store users roles failure = .ok after) : after.users = users ∧ after.roles = roles := by
  unfold AccessBook.store at ok
  split at ok
  · cases ok
    exact ⟨rfl, rfl⟩
  · cases ok

theorem user?_mem {id : String} {user : User} (found : book.user? id = some user) : user ∈ book.users ∧ user.id = id := by
  have chosen := List.find?_some found
  exact ⟨List.mem_of_find?_eq_some found, of_decide_eq_true chosen⟩

/-- Ids are unique, so a listed user is the one that is found. -/
theorem user?_of_mem {user : User} (listed : user ∈ book.users) : book.user? user.id = some user := by
  have unique := book.valid.ids
  rw [AccessBook.user?]
  generalize book.users = users at listed unique
  induction users with
  | nil => cases listed
  | cons first rest ih =>
      rw [List.map_cons, List.nodup_cons] at unique
      rcases List.mem_cons.mp listed with rfl | later
      · exact List.find?_cons_of_pos (decide_eq_true rfl)
      · have other : first.id ≠ user.id := fun same => unique.1 (same ▸ List.mem_map_of_mem later)
        rw [List.find?_cons_of_neg (by simpa using other)]
        exact ih later unique.2

theorem user?_updated {change : User → User} {target : String} (keeps : ∀ user, (change user).id = user.id)
    (users : after.users = book.users.map fun user => if user.id = target then change user else user) (id : String) :
    after.user? id = (book.user? id).map fun user => if user.id = target then change user else user := by
  rw [AccessBook.user?, users, List.find?_map, AccessBook.user?]
  congr 2
  funext user
  rw [Function.comp_apply]
  split
  · rw [keeps]
  · rfl

end Tables

/-! ## Permissions -/

section Permissions
variable {book after : AccessBook} {permission : Permission}

/-- What a role that is not archived permits, or a built-in role of the name. -/
def Grants (book : AccessBook) (name : String) (permission : Permission) : Prop :=
  (∃ role ∈ book.roles, role.name = name ∧ role.isArchived = false ∧ permission ∈ role.permissions) ∨
    permission ∈ builtinRolePermissions name

theorem mem_permissionsForRoles {names : List String} : permission ∈ book.permissionsForRoles names ↔
    "admin" ∈ names ∨ ((∃ name ∈ names, Grants book name permission) ∧ permission ∉ ADMIN_ONLY_PERMISSIONS) := by
  unfold AccessBook.permissionsForRoles
  by_cases admin : "admin" ∈ names
  · rw [if_pos admin]
    exact iff_of_true (mem_ALL_PERMISSIONS permission) (.inl admin)
  · rw [if_neg admin, Finset.mem_sdiff, Finset.mem_filter, or_iff_right admin]
    refine and_congr_left fun _ => ?_
    rw [and_iff_right (mem_ALL_PERMISSIONS permission)]
    constructor
    · rintro (⟨role, listed, held, current, granted⟩ | ⟨name, held, granted⟩)
      · exact ⟨role.name, held, .inl ⟨role, listed, rfl, current, granted⟩⟩
      · exact ⟨name, held, .inr granted⟩
    · rintro ⟨name, held, ⟨role, listed, rfl, current, granted⟩ | granted⟩
      · exact .inl ⟨role, listed, held, current, granted⟩
      · exact .inr ⟨name, held, granted⟩

theorem permissionsForRoles_mono {names others : List String} (more : names ⊆ others) :
    book.permissionsForRoles names ⊆ book.permissionsForRoles others := by
  intro permission listed
  rw [mem_permissionsForRoles] at listed ⊢
  refine listed.imp (fun admin => more admin) fun ⟨⟨name, held, granted⟩, open_⟩ => ⟨⟨name, more held, granted⟩, open_⟩

theorem effectivePermissions_of_user {id : String} {user : User} (found : book.user? id = some user) :
    book.effectivePermissions id = book.permissionsForRoles (book.activeRoles user) := by
  rw [AccessBook.effectivePermissions, AccessBook.userRoleNames, found]
  rfl

theorem effectivePermissions_of_absent {id : String} (absent : book.user? id = none) : book.effectivePermissions id = ∅ := by
  rw [AccessBook.effectivePermissions, AccessBook.userRoleNames, absent, Option.map_none, Option.getD_none]
  ext permission
  simp [mem_permissionsForRoles]

theorem mem_activeRoles {user : User} {name : String} :
    name ∈ book.activeRoles user ↔ name ∈ user.roles ∧ book.Available name := by
  rw [AccessBook.activeRoles, List.mem_filter, decide_eq_true_eq]

theorem activeRoles_congr (roles : after.roles = book.roles) (user : User) : after.activeRoles user = book.activeRoles user := by
  refine List.filter_congr fun name _ => ?_
  rw [decide_eq_decide, AccessBook.Available, roles, AccessBook.Available]

theorem permissionsForRoles_congr (roles : after.roles = book.roles) (names : List String) :
    after.permissionsForRoles names = book.permissionsForRoles names := by
  ext permission
  simp only [mem_permissionsForRoles, Grants, roles]

/-- Permissions come from the table of roles and the names that a user holds. -/
theorem effectivePermissions_congr {id : String} (roles : after.roles = book.roles)
    (held : (after.user? id).map User.roles = (book.user? id).map User.roles) :
    after.effectivePermissions id = book.effectivePermissions id := by
  have names : after.userRoleNames id = book.userRoleNames id := by
    rw [AccessBook.userRoleNames, AccessBook.userRoleNames]
    cases found : book.user? id with
    | none =>
        rw [found, Option.map_none, Option.map_eq_none_iff] at held
        rw [held]
        rfl
    | some user =>
        rw [found, Option.map_some, Option.map_eq_some_iff] at held
        obtain ⟨now, listed, same⟩ := held
        rw [listed, Option.map_some, Option.map_some, Option.getD_some, Option.getD_some, activeRoles_congr roles,
          AccessBook.activeRoles, same]
        rfl
  rw [AccessBook.effectivePermissions, names, permissionsForRoles_congr roles, AccessBook.effectivePermissions]

end Permissions

/-! ## Effects -/

/-- The users after a change of one of them. -/
def Changes (book after : AccessBook) (userId : String) (change : User → User) : Prop :=
  after.users = (book.users.map fun user => if user.id = userId then change user else user) ∧ after.roles = book.roles

/-- The account whose password the request lets its actor choose. -/
def AccessRequest.passwordChosen : AccessRequest → Option String
  | .createUser _ id => some id
  | .adminPasswordReset userId _ => some userId
  | _ => none

/-- A request that may do nothing, or makes a role. -/
def AccessRequest.Quiet : AccessRequest → Prop
  | .removeUser .. | .restoreUser .. | .createRole .. | .cloneRole .. => True
  | _ => False

/-- What a request comes to that succeeds. -/
inductive Effect (book : AccessBook) (principal : SessionPrincipal) (after : AccessBook) : AccessRequest → Prop where
  | nothing {request : AccessRequest} (same : after = book) (quiet : request.Quiet) : Effect book principal after request
  | created {payload : UserCreate} {id : String} (users : after.users = book.users ++ [newUser principal payload id])
      (roles : after.roles = book.roles)
      (granted : book.permissionsForRoles (effectiveRoles payload) ⊆ principal.permissions) :
      Effect book principal after (.createUser payload id)
  | accessUpdated {userId : String} {payload : UserAccessUpdate} {user : User} (found : book.user? userId = some user)
      (current : user.lifecycleState ≠ .removed) (available : ∀ name ∈ payload.roleIds, book.Available name)
      (granted : book.permissionsForRoles payload.roleIds ⊆ principal.permissions)
      (everywhere : payload.allSites = true → principal.allSites = true)
      (within : payload.allSites = false → ∀ site ∈ payload.siteIds, principal.canAccessSite site)
      (lastAdmin : "admin" ∈ book.userRoleNames userId → "admin" ∉ payload.roleIds →
        book.activeRecoveryAdministratorCount userId ≠ 0)
      (selfLockout : SelfRestriction book principal userId payload → book.activeRecoveryAdministratorCount userId ≠ 0)
      (changes : Changes book after userId (accessUpdated payload)) :
      Effect book principal after (.updateUserAccess userId payload)
  | statusChanged {active : Bool} {userId : String} {payload : UserStatusChange} {user : User}
      (found : book.user? userId = some user) (current : user.lifecycleState ≠ .removed)
      (lastAdmin : active = false → RecoverySignIn book user → book.activeRecoveryAdministratorCount userId ≠ 0)
      (changes : Changes book after userId (statusChanged active)) :
      Effect book principal after (.setUserActive active userId payload)
  | removed {userId : String} {payload : UserRemovalRequest} {user : User} {roles : List String} {now : Int}
      (found : book.user? userId = some user)
      (lastAdmin : RecoverySignIn book user → book.activeRecoveryAdministratorCount userId ≠ 0)
      (changes : Changes book after userId (removedUser roles now)) :
      Effect book principal after (.removeUser userId payload)
  | restored {userId : String} {payload : UserRestoreRequest} {user : User} {now : Int}
      (found : book.user? userId = some user) (former : user.lifecycleState = .removed)
      (changes : Changes book after userId (restoredUser now)) : Effect book principal after (.restoreUser userId payload)
  | passwordReset {userId : String} {payload : PasswordReset} {user : User} (found : book.user? userId = some user)
      (within : TargetUserScopeAllowed principal user) (changes : Changes book after userId (passwordChanged payload)) :
      Effect book principal after (.adminPasswordReset userId payload)
  | deactivated {userId : String} {user : User} (found : book.user? userId = some user)
      (changes : Changes book after userId deactivatedUser) : Effect book principal after (.deactivateUser userId)
  | inactive {userId : String} {user : User} (found : book.user? userId = some user) (inactive : user.isActive = false)
      (same : after = book) : Effect book principal after (.deactivateUser userId)
  | roleCreated {request : AccessRequest} {role : Role} (users : after.users = book.users)
      (roles : after.roles = book.roles ++ [role]) (quiet : request.Quiet) : Effect book principal after request
  | roleUpdated {roleId : String} {payload : RoleWrite} {role : Role} {displayName : String}
      (found : book.role? roleId = some role) (current : role.isArchived = false)
      (granted : payload.permissions ⊆ principal.permissions)
      (users : after.users = book.users.map fun user =>
        if roleId ∈ user.roles then { user with accessRevision := user.accessRevision + 1 } else user)
      (roles : after.roles = book.roles.map fun row =>
        if row.name = roleId then roleUpdated displayName payload.permissions row else row) :
      Effect book principal after (.updateRole roleId payload)
  | roleArchived {roleId : String} (unassigned : ∀ user ∈ book.users, roleId ∉ user.roles) (users : after.users = book.users)
      (roles : after.roles = book.roles.map fun row => if row.name = roleId then archivedRole row else row) :
      Effect book principal after (.archiveRole roleId)

section Effects
variable {book after : AccessBook} {principal : SessionPrincipal} {userId : String}

theorem createUser_effect {payload : UserCreate} {id : String} (ok : createUser book principal payload id = .ok after) :
    Effect book principal after (.createUser payload id) := by
  obtain ⟨_, _, ok⟩ := bind_eq_ok.mp ok
  obtain ⟨_, ok⟩ := refuseIf_bind.mp ok
  obtain ⟨_, ok⟩ := refuseIf_bind.mp ok
  obtain ⟨_, ok⟩ := refuseIf_bind.mp ok
  obtain ⟨_, _, ok⟩ := bind_eq_ok.mp ok
  obtain ⟨_, _, ok⟩ := bind_eq_ok.mp ok
  obtain ⟨granted, ok⟩ := refuseIf_bind.mp ok
  obtain ⟨users, roles⟩ := store_eq_ok ok
  exact .created users roles (not_not.mp granted)

theorem updateUserAccess_effect {siteIds : List String} {payload : UserAccessUpdate}
    (ok : updateUserAccess book principal siteIds userId payload = .ok after) :
    Effect book principal after (.updateUserAccess userId payload) ∧
      (payload.allSites = false → payload.siteIds ⊆ siteIds) := by
  obtain ⟨_, _, ok⟩ := bind_eq_ok.mp ok
  obtain ⟨_, _, ok⟩ := bind_eq_ok.mp ok
  obtain ⟨user, found, _, ok⟩ := loadManageableUser_bind ok
  obtain ⟨current, ok⟩ := refuseIf_bind.mp ok
  obtain ⟨_, ok⟩ := refuseIf_bind.mp ok
  obtain ⟨unavailable, ok⟩ := refuseIf_bind.mp ok
  obtain ⟨granted, ok⟩ := refuseIf_bind.mp ok
  obtain ⟨everywhere, ok⟩ := refuseIf_bind.mp ok
  obtain ⟨within, ok⟩ := refuseIf_bind.mp ok
  obtain ⟨existing, ok⟩ := refuseIf_bind.mp ok
  obtain ⟨lastAdmin, ok⟩ := refuseIf_bind.mp ok
  obtain ⟨_, ok⟩ := refuseIf_bind.mp ok
  obtain ⟨_, _, ok⟩ := bind_eq_ok.mp ok
  obtain ⟨selfLockout, ok⟩ := refuseIf_bind.mp ok
  have changes := store_eq_ok ok
  rw [(user?_mem found).2] at lastAdmin selfLockout changes
  refine ⟨.accessUpdated found current ?_ (not_not.mp granted) ?_ ?_ ?_ ?_ changes, ?_⟩
  · intro name requested
    by_contra absent
    exact unavailable ⟨name, requested, absent⟩
  · intro all
    by_contra some
    exact everywhere ⟨all, by simpa using some⟩
  · intro some site listed
    by_contra outside
    rw [SessionPrincipal.canAccessSite, not_or] at outside
    exact within ⟨some, by simpa using outside.1, fun inside => outside.2 (inside listed)⟩
  · intro held dropped none
    exact lastAdmin ⟨held, dropped, none⟩
  · intro restricts none
    exact selfLockout ⟨restricts, none⟩
  · intro some
    by_contra missing
    exact existing ⟨some, missing⟩

theorem setUserActive_effect {active : Bool} {payload : UserStatusChange}
    (ok : setUserActive book principal active userId payload = .ok after) :
    Effect book principal after (.setUserActive active userId payload) := by
  obtain ⟨_, _, ok⟩ := bind_eq_ok.mp ok
  obtain ⟨_, _, ok⟩ := bind_eq_ok.mp ok
  obtain ⟨user, found, _, ok⟩ := loadManageableUser_bind ok
  obtain ⟨current, ok⟩ := refuseIf_bind.mp ok
  obtain ⟨_, ok⟩ := refuseIf_bind.mp ok
  obtain ⟨_, ok⟩ := refuseIf_bind.mp ok
  obtain ⟨lastAdmin, ok⟩ := refuseIf_bind.mp ok
  obtain ⟨_, ok⟩ := refuseIf_bind.mp ok
  obtain ⟨_, ok⟩ := refuseIf_bind.mp ok
  obtain ⟨_, _, ok⟩ := bind_eq_ok.mp ok
  have changes := store_eq_ok ok
  rw [(user?_mem found).2] at lastAdmin changes
  exact .statusChanged found current (fun disables recovers none => lastAdmin ⟨disables, recovers, none⟩) changes

theorem removeUser_effect {lower : String → String} {payload : UserRemovalRequest} {now : Int}
    (ok : removeUser book principal lower userId payload now = .ok after) :
    Effect book principal after (.removeUser userId payload) := by
  obtain ⟨_, _, ok⟩ := bind_eq_ok.mp ok
  obtain ⟨_, _, ok⟩ := bind_eq_ok.mp ok
  obtain ⟨user, found, _, ok⟩ := loadManageableUser_bind ok
  split at ok
  · cases ok
    exact .nothing rfl trivial
  · obtain ⟨_, ok⟩ := refuseIf_bind.mp ok
    obtain ⟨_, ok⟩ := refuseIf_bind.mp ok
    obtain ⟨_, ok⟩ := refuseIf_bind.mp ok
    obtain ⟨_, ok⟩ := refuseIf_bind.mp ok
    obtain ⟨lastAdmin, ok⟩ := refuseIf_bind.mp ok
    obtain ⟨_, _, ok⟩ := bind_eq_ok.mp ok
    have changes := store_eq_ok ok
    rw [(user?_mem found).2] at lastAdmin changes
    exact .removed found (fun recovers none => lastAdmin ⟨recovers, none⟩) changes

theorem restoreUser_effect {payload : UserRestoreRequest} {now : Int}
    (ok : restoreUser book principal userId payload now = .ok after) :
    Effect book principal after (.restoreUser userId payload) := by
  obtain ⟨_, _, ok⟩ := bind_eq_ok.mp ok
  obtain ⟨_, _, ok⟩ := bind_eq_ok.mp ok
  obtain ⟨user, found, _, ok⟩ := loadManageableUser_bind ok
  split at ok
  · obtain ⟨_, ok⟩ := refuseIf_bind.mp ok
    cases ok
    exact .nothing rfl trivial
  · next former =>
      obtain ⟨_, ok⟩ := refuseIf_bind.mp ok
      obtain ⟨_, ok⟩ := refuseIf_bind.mp ok
      have changes := store_eq_ok ok
      rw [(user?_mem found).2] at changes
      exact .restored found (not_not.mp former) changes

theorem adminPasswordReset_effect {payload : PasswordReset} (ok : adminPasswordReset book principal userId payload = .ok after) :
    Effect book principal after (.adminPasswordReset userId payload) := by
  obtain ⟨_, _, ok⟩ := bind_eq_ok.mp ok
  obtain ⟨_, ok⟩ := refuseIf_bind.mp ok
  obtain ⟨user, found, ok⟩ := required_bind.mp ok
  obtain ⟨_, ok⟩ := refuseIf_bind.mp ok
  obtain ⟨within, ok⟩ := refuseIf_bind.mp ok
  obtain ⟨_, _, ok⟩ := bind_eq_ok.mp ok
  have changes := store_eq_ok ok
  rw [(user?_mem found).2] at changes
  exact .passwordReset found (not_not.mp within) changes

theorem deactivateUser_effect (ok : deactivateUser book principal userId = .ok after) :
    Effect book principal after (.deactivateUser userId) := by
  obtain ⟨_, _, ok⟩ := bind_eq_ok.mp ok
  obtain ⟨user, found, ok⟩ := required_bind.mp ok
  obtain ⟨_, ok⟩ := refuseIf_bind.mp ok
  obtain ⟨_, ok⟩ := refuseIf_bind.mp ok
  split at ok
  · next inactive =>
      cases ok
      exact .inactive found inactive rfl
  · obtain ⟨_, ok⟩ := refuseIf_bind.mp ok
    obtain ⟨_, _, ok⟩ := bind_eq_ok.mp ok
    have changes := store_eq_ok ok
    rw [(user?_mem found).2] at changes
    exact .deactivated found changes

theorem createRole_effect {lower : String → String} {payload : RoleWrite} {name : String} {request : AccessRequest}
    (ok : createRole book principal lower payload name = .ok after) (quiet : request.Quiet) :
    Effect book principal after request := by
  obtain ⟨_, _, ok⟩ := bind_eq_ok.mp ok
  obtain ⟨_, _, ok⟩ := bind_eq_ok.mp ok
  obtain ⟨_, _, ok⟩ := bind_eq_ok.mp ok
  obtain ⟨_, _, ok⟩ := bind_eq_ok.mp ok
  obtain ⟨_, ok⟩ := refuseIf_bind.mp ok
  obtain ⟨_, _, ok⟩ := bind_eq_ok.mp ok
  obtain ⟨_, _, ok⟩ := bind_eq_ok.mp ok
  obtain ⟨users, roles⟩ := store_eq_ok ok
  exact .roleCreated users roles quiet

theorem role?_name {roleId : String} {role : Role} (found : book.role? roleId = some role) : role.name = roleId := by
  have chosen := List.find?_some found
  exact of_decide_eq_true chosen

theorem updateRole_effect {lower : String → String} {roleId : String} {payload : RoleWrite}
    (ok : updateRole book principal lower roleId payload = .ok after) :
    Effect book principal after (.updateRole roleId payload) := by
  obtain ⟨_, _, ok⟩ := bind_eq_ok.mp ok
  obtain ⟨_, _, ok⟩ := bind_eq_ok.mp ok
  obtain ⟨role, found, ok⟩ := required_bind.mp ok
  obtain ⟨_, ok⟩ := refuseIf_bind.mp ok
  obtain ⟨current, ok⟩ := refuseIf_bind.mp ok
  obtain ⟨_, ok⟩ := refuseIf_bind.mp ok
  obtain ⟨_, _, ok⟩ := bind_eq_ok.mp ok
  obtain ⟨granted, ok⟩ := refuseIf_bind.mp ok
  obtain ⟨_, _, ok⟩ := bind_eq_ok.mp ok
  obtain ⟨_, _, ok⟩ := bind_eq_ok.mp ok
  obtain ⟨_, _, ok⟩ := bind_eq_ok.mp ok
  obtain ⟨users, roles⟩ := store_eq_ok ok
  rw [role?_name found] at users roles
  exact .roleUpdated found (by simpa using current) (not_not.mp granted) users roles

theorem archiveRole_effect {roleId : String} (ok : archiveRole book principal roleId = .ok after) :
    Effect book principal after (.archiveRole roleId) := by
  obtain ⟨_, _, ok⟩ := bind_eq_ok.mp ok
  obtain ⟨role, found, ok⟩ := required_bind.mp ok
  obtain ⟨_, ok⟩ := refuseIf_bind.mp ok
  obtain ⟨unassigned, ok⟩ := refuseIf_bind.mp ok
  obtain ⟨users, roles⟩ := store_eq_ok ok
  rw [role?_name found] at unassigned roles
  exact .roleArchived (fun user listed held => unassigned ⟨user, listed, held⟩) users roles

/-- Each request that succeeds has one of the effects. -/
theorem handle_effect {lower : String → String} {siteIds : List String} {now : Int} {request : AccessRequest}
    (ok : request.handle lower siteIds now book principal = .ok after) : Effect book principal after request := by
  cases request with
  | createUser payload id => exact createUser_effect ok
  | updateUserAccess userId payload => exact (updateUserAccess_effect ok).1
  | setUserActive active userId payload => exact setUserActive_effect ok
  | removeUser userId payload => exact removeUser_effect ok
  | restoreUser userId payload => exact restoreUser_effect ok
  | adminPasswordReset userId payload => exact adminPasswordReset_effect ok
  | deactivateUser userId => exact deactivateUser_effect ok
  | createRole payload name => exact createRole_effect ok trivial
  | updateRole roleId payload => exact updateRole_effect ok
  | cloneRole roleId payload name =>
      obtain ⟨_, _, ok⟩ := required_bind.mp ok
      exact createRole_effect ok trivial
  | archiveRole roleId => exact archiveRole_effect ok

theorem principal?_some {call : Call} (signedIn : call.principal? book = some principal) :
    principal.userId = call.actorId ∧ principal.permissions = book.effectivePermissions call.actorId ∧
      ∃ user, book.user? call.actorId = some user ∧ user.isActive = true ∧ principal.allSites = user.allSites ∧
        principal.siteIds = user.sites := by
  obtain ⟨user, found, some⟩ := Option.bind_eq_some_iff.mp signedIn
  split at some
  · next active =>
      cases some
      exact ⟨rfl, rfl, user, found, active, rfl, rfl⟩
  · cases some

theorem perform_effect {lower : String → String} {call : Call} (ok : call.perform lower book = .ok after) :
    ∃ principal, call.principal? book = some principal ∧ Effect book principal after call.request := by
  obtain ⟨principal, signedIn, ok⟩ := required_bind.mp ok
  exact ⟨principal, signedIn, handle_effect ok⟩

end Effects

end PowerMonitor.Access
