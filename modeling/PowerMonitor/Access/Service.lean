import PowerMonitor.Access.Records

/-! The requests that administer users and roles.

The principal of a request is read from the tables when it comes in. A request is atomic; one that is refused leaves the
tables as they were.
-/

set_option autoImplicit false
namespace PowerMonitor.Access
open Library

/-- Refuse the request when the condition holds. -/
def refuseIf (condition : Prop) [Decidable condition] (status : Nat) (title detail code : String) : Except Failure Unit :=
  raiseIf condition (.problem { status := status, title := title, detail := detail, code := code })

def required {α : Type} (value : Option α) (status : Nat) (title detail code : String) : Except Failure α :=
  match value with
  | some found => .ok found
  | none => .error (.problem { status := status, title := title, detail := detail, code := code })

/-! ## Principals -/

/-- `SessionPrincipal`. The session was confirmed in the last five minutes if it is `reauthenticated`; a principal is
`throttled` after too many protected changes. -/
structure SessionPrincipal where
  userId : String
  permissions : Finset Permission
  allSites : Bool
  siteIds : List String
  reauthenticated : Bool
  throttled : Bool
  deriving DecidableEq

/-- A site is in the scope of the principal. -/
def SessionPrincipal.canAccessSite (principal : SessionPrincipal) (siteId : String) : Prop :=
  principal.allSites = true ∨ siteId ∈ principal.siteIds

instance (principal : SessionPrincipal) (siteId : String) : Decidable (principal.canAccessSite siteId) :=
  inferInstanceAs (Decidable (_ ∨ _))

/-- `authenticate_session`, for a session that is there and has not ended. -/
def authenticateSession (book : AccessBook) (userId : String) (reauthenticated throttled : Bool) : Option SessionPrincipal :=
  (book.user? userId).bind fun user =>
    if user.isActive then some
      { userId := userId, permissions := book.effectivePermissions userId, allSites := user.allSites
        siteIds := user.sites, reauthenticated := reauthenticated, throttled := throttled }
    else none

section Requests
variable (book : AccessBook) (principal : SessionPrincipal)

/-- `_require` -/
def requirePermission (permission : Permission) : Except Failure Unit :=
  refuseIf (permission ∉ principal.permissions) 403 "Permission denied"
    "Your account does not have the required permission" "forbidden"

/-- `_rate_limit` -/
def rateLimit : Except Failure Unit :=
  refuseIf (principal.throttled = true) 429 "Too many protected changes"
    "Wait five minutes before trying another protected change" "protected_change_throttled"

def requireRecentReauthentication : Except Failure Unit :=
  refuseIf (principal.reauthenticated = false) 428 "Reauthentication required"
    "Confirm your current password or MFA code before this protected change" "reauthentication_required"

/-- The checks of a branch. -/
def onlyIf (condition : Prop) [Decidable condition] (checks : Except Failure Unit) : Except Failure Unit :=
  if condition then checks else pure ()

/-- A protected change is confirmed, and the session was confirmed recently. -/
def confirmProtected (protectedChange : Prop) [Decidable protectedChange] (confirmed : Bool) (title detail code : String) :
    Except Failure Unit :=
  onlyIf protectedChange do
    refuseIf (confirmed = false) 409 title detail code
    requireRecentReauthentication principal

/-- `_target_scope_allowed` -/
def TargetScopeAllowed (user : User) : Prop :=
  principal.allSites = true ∨
    ((if user.lifecycleState = .removed then user.removedAllSites else user.allSites) = false ∧
      (if user.lifecycleState = .removed then user.removedSiteIds else user.sites) ⊆ principal.siteIds)

instance (user : User) : Decidable (TargetScopeAllowed principal user) := inferInstanceAs (Decidable (_ ∨ _))

/-- `_load_manageable_user` -/
def loadManageableUser (userId : String) : Except Failure User :=
  required ((book.user? userId).filter fun user => TargetScopeAllowed principal user) 404 "User not found"
    "User does not exist" "user_missing"

/-! ## Access of users -/

structure UserAccessUpdate where
  roleIds : List String
  allSites : Bool
  siteIds : List String := []
  expectedRevision : Nat
  confirmHighRisk : Bool := false

def accessUpdated (payload : UserAccessUpdate) (user : User) : User :=
  { user with
    roles := payload.roleIds
    sites := if payload.allSites then [] else payload.siteIds
    allSites := payload.allSites
    accessRevision := user.accessRevision + 1 }

/-- The principal takes management or all-site scope from itself. -/
def SelfRestriction (userId : String) (payload : UserAccessUpdate) : Prop :=
  userId = principal.userId ∧ (.usersManage ∉ book.permissionsForRoles payload.roleIds ∨
    .rolesManage ∉ book.permissionsForRoles payload.roleIds ∨ (principal.allSites = true ∧ payload.allSites = false))

instance (userId : String) (payload : UserAccessUpdate) : Decidable (SelfRestriction book principal userId payload) :=
  inferInstanceAs (Decidable (_ ∧ _))

/-- `update_user_access`; `siteIds` are the sites that exist. -/
def updateUserAccess (siteIds : List String) (userId : String) (payload : UserAccessUpdate) : Except Failure AccessBook := do
  requirePermission principal .usersManage
  rateLimit principal
  let user ← loadManageableUser book principal userId
  refuseIf (user.lifecycleState = .removed) 409 "User is removed"
    "Restore the user before assigning roles or site access" "user_removed"
  refuseIf (user.accessRevision ≠ payload.expectedRevision) 409 "User access changed"
    "Reload the user before applying your changes" "access_revision_conflict"
  refuseIf (∃ name ∈ payload.roleIds, ¬ book.Available name) 422 "Invalid role" "A selected role is unavailable" "role_invalid"
  let requestedPermissions := book.permissionsForRoles payload.roleIds
  refuseIf (¬ requestedPermissions ⊆ principal.permissions) 403 "Privilege delegation denied"
    "You cannot grant permissions that you do not possess" "permission_delegation_forbidden"
  refuseIf (payload.allSites = true ∧ principal.allSites = false) 403 "Site delegation denied"
    "You cannot grant all-site access" "site_delegation_forbidden"
  refuseIf (payload.allSites = false ∧ principal.allSites = false ∧ ¬ payload.siteIds ⊆ principal.siteIds) 403
    "Site delegation denied" "You cannot grant access to an unassigned site" "site_delegation_forbidden"
  refuseIf (payload.allSites = false ∧ ¬ payload.siteIds ⊆ siteIds) 403 "Site delegation denied"
    "One or more selected sites are unavailable" "site_delegation_forbidden"
  let priorRoles := book.userRoleNames user.id
  refuseIf ("admin" ∈ priorRoles ∧ "admin" ∉ payload.roleIds ∧ book.activeRecoveryAdministratorCount user.id = 0) 409
    "Last administrator is protected" "Create another active administrator before changing this account" "last_admin_required"
  let selfRestriction := SelfRestriction book principal user.id payload
  let highRisk := ¬ ("admin" ∈ priorRoles ↔ "admin" ∈ payload.roleIds) ∨
    ¬ requestedPermissions ⊆ book.effectivePermissions user.id ∨ selfRestriction
  refuseIf ("admin" ∈ priorRoles ∧ .usersManageProtected ∉ principal.permissions) 403 "Protected administrator"
    "Your account cannot change protected administrators" "protected_administrator_forbidden"
  confirmProtected principal highRisk payload.confirmHighRisk "Protected confirmation required"
    "Confirm the permission increase or administrator-role change" "high_risk_confirmation_required"
  refuseIf (selfRestriction ∧ book.activeRecoveryAdministratorCount user.id = 0) 409 "Self-lockout prevented"
    "Another active administrator must retain user and role management" "self_lockout_prevented"
  book.updateUser user.id (accessUpdated payload)

structure UserStatusChange where
  confirmHighRisk : Bool := false
  expectedRevision : Option Nat := none

def statusChanged (active : Bool) (user : User) : User :=
  let state : LifecycleState := if active then .active else .disabled
  { user with
    isActive := active
    lifecycleState := state
    accessRevision :=
      if user.isActive ≠ active ∨ user.lifecycleState ≠ state then user.accessRevision + 1 else user.accessRevision }

/-- A recovery administrator as `_set_user_active` and `remove_user` see it, whatever its lifecycle state. -/
def RecoverySignIn (user : User) : Prop :=
  user.isActive = true ∧ user.allSites = true ∧ RECOVERY_PERMISSIONS ⊆ book.effectivePermissions user.id

instance (user : User) : Decidable (RecoverySignIn book user) := inferInstanceAs (Decidable (_ ∧ _))

/-- `_set_user_active` -/
def setUserActive (active : Bool) (userId : String) (payload : UserStatusChange) : Except Failure AccessBook := do
  requirePermission principal .usersDisable
  rateLimit principal
  let user ← loadManageableUser book principal userId
  refuseIf (user.lifecycleState = .removed) 409 "User is removed" "Restore the user before changing sign-in status"
    "user_removed"
  refuseIf (∃ revision ∈ payload.expectedRevision, user.accessRevision ≠ revision) 409 "User status changed"
    "Reload the user before applying your change" "access_revision_conflict"
  refuseIf (active = true ∧ book.userRoleNames user.id = []) 409 "User access is not assigned"
    "Assign at least one role before enabling sign-in" "user_access_required"
  refuseIf (active = false ∧ RecoverySignIn book user ∧ book.activeRecoveryAdministratorCount user.id = 0) 409
    "Last administrator is protected" "Create another active administrator before disabling this account" "last_admin_required"
  refuseIf (active = false ∧ user.id = principal.userId) 409 "Self-disable prevented"
    "Use another administrator account to disable this user" "self_deactivation_forbidden"
  refuseIf (active = false ∧ user.isProtected = true) 409 "Protected bootstrap account"
    "The protected bootstrap account cannot be disabled" "protected_account"
  confirmProtected principal (active = false ∧ ("admin" ∈ book.userRoleNames user.id ∨ RecoverySignIn book user))
    payload.confirmHighRisk "Protected confirmation required" "Confirm that this administrator should be disabled"
    "high_risk_confirmation_required"
  book.updateUser user.id (statusChanged active)

structure UserRemovalRequest where
  confirmation : String
  expectedRevision : Nat
  confirmHighRisk : Bool := false

def removedUser (roles : List String) (now : Int) (user : User) : User :=
  { user with
    roles := []
    sites := []
    removedRoleIds := roles
    removedSiteIds := user.sites
    removedAllSites := user.allSites
    allSites := false
    isActive := false
    lifecycleState := .removed
    removedAt := some now
    restoredAt := none
    accessRevision := user.accessRevision + 1 }

/-- The email, or the last eight characters of the id. -/
def RemovalConfirmed (lower : String → String) (confirmation : String) (user : User) : Prop :=
  lower confirmation = lower user.email ∨ confirmation.toList = user.id.toList.drop (user.id.length - 8)

instance (lower : String → String) (confirmation : String) (user : User) : Decidable (RemovalConfirmed lower confirmation user) :=
  inferInstanceAs (Decidable (_ ∨ _))

def removeUser (lower : String → String) (userId : String) (payload : UserRemovalRequest) (now : Int) :
    Except Failure AccessBook := do
  requirePermission principal .usersRemove
  rateLimit principal
  let user ← loadManageableUser book principal userId
  if user.lifecycleState = .removed then pure book
  else do
    refuseIf (user.accessRevision ≠ payload.expectedRevision) 409 "User access changed"
      "Reload the user before removing the account" "access_revision_conflict"
    refuseIf (¬ RemovalConfirmed lower payload.confirmation user) 422 "Removal confirmation does not match"
      "Enter the user's exact email address or final eight ID characters" "removal_confirmation_mismatch"
    refuseIf (user.id = principal.userId) 409 "Self-removal prevented"
      "Use another administrator account to remove this user" "self_removal_forbidden"
    refuseIf (user.isProtected = true) 409 "Protected bootstrap account"
      "The protected bootstrap account cannot be removed" "protected_account"
    refuseIf (RecoverySignIn book user ∧ book.activeRecoveryAdministratorCount user.id = 0) 409
      "Last administrator is protected" "Create another active all-site administrator before removing this account"
      "last_admin_required"
    confirmProtected principal True payload.confirmHighRisk "Protected confirmation required"
      "Confirm that this user should be removed" "high_risk_confirmation_required"
    book.updateUser user.id (removedUser (book.userRoleNames user.id) now)

structure UserRestoreRequest where
  expectedRevision : Nat
  confirmHighRisk : Bool := false

def restoredUser (now : Int) (user : User) : User :=
  { user with
    lifecycleState := .disabled
    isActive := false
    allSites := false
    restoredAt := some now
    accessRevision := user.accessRevision + 1 }

def restoreUser (userId : String) (payload : UserRestoreRequest) (now : Int) : Except Failure AccessBook := do
  requirePermission principal .usersRestore
  rateLimit principal
  let user ← loadManageableUser book principal userId
  if user.lifecycleState ≠ .removed then do
    refuseIf (user.restoredAt = none ∨ user.removedAt = none) 409 "User is not removed"
      "Only removed users can be restored" "user_not_removed"
    pure book
  else do
    refuseIf (user.accessRevision ≠ payload.expectedRevision) 409 "User lifecycle changed"
      "Reload the user before restoring the account" "access_revision_conflict"
    refuseIf (payload.confirmHighRisk = false) 409 "Restore confirmation required"
      "Confirm that the retained identity should be restored in a disabled state" "high_risk_confirmation_required"
    book.updateUser user.id (restoredUser now)

/-! ## The older endpoints -/

/-- `_target_user_scope_allowed` -/
def TargetUserScopeAllowed (user : User) : Prop :=
  principal.allSites = true ∨ (user.allSites = false ∧ user.sites ⊆ principal.siteIds)

instance (user : User) : Decidable (TargetUserScopeAllowed principal user) := inferInstanceAs (Decidable (_ ∨ _))

inductive BuiltinRole where | admin | operator | rateManager | viewer
  deriving DecidableEq, Repr

def BuiltinRole.name : BuiltinRole → String
  | .admin => "admin"
  | .operator => "operator"
  | .rateManager => "rate-manager"
  | .viewer => "viewer"

/-- `passwordStrong` is what `password_is_strong` says of the password. -/
structure UserCreate where
  email : String
  passwordHash : String
  passwordStrong : Bool := true
  roles : List BuiltinRole
  confirmHighRisk : Bool := false

/-- A rate manager is a viewer too. -/
def effectiveRoles (payload : UserCreate) : List String :=
  payload.roles.map BuiltinRole.name ++
    (if BuiltinRole.rateManager ∈ payload.roles ∧ BuiltinRole.viewer ∉ payload.roles then ["viewer"] else [])

def newUser (payload : UserCreate) (id : String) : User :=
  { id := id, email := payload.email, passwordHash := payload.passwordHash, allSites := principal.allSites
    roles := effectiveRoles payload }

def createUser (payload : UserCreate) (id : String) : Except Failure AccessBook := do
  requirePermission principal .usersManage
  refuseIf (payload.passwordStrong = false) 422 "Weak password" "Use at least 14 characters and three character classes"
    "weak_password"
  refuseIf (∃ user ∈ book.users, user.email = payload.email ∧ user.lifecycleState = .removed) 409
    "Removed user already exists" "Restore the removed identity instead of creating a duplicate account"
    "user_removed_restore_required"
  refuseIf (∃ user ∈ book.users, user.email = payload.email) 409 "User already exists"
    "An account with this email address already exists" "user_email_exists"
  onlyIf (BuiltinRole.admin ∈ payload.roles) (requirePermission principal .usersManageProtected)
  confirmProtected principal (BuiltinRole.admin ∈ payload.roles) payload.confirmHighRisk "Protected confirmation required"
    "Confirm creation of the protected administrator" "protected_confirmation_required"
  refuseIf (¬ book.permissionsForRoles (effectiveRoles payload) ⊆ principal.permissions) 403 "Privilege delegation denied"
    "You cannot grant permissions that you do not possess" "permission_delegation_forbidden"
  AccessBook.store (book.users ++ [newUser principal payload id]) book.roles

structure PasswordReset where
  passwordHash : String
  passwordStrong : Bool := true

def passwordChanged (payload : PasswordReset) (user : User) : User :=
  { user with passwordHash := payload.passwordHash, accessRevision := user.accessRevision + 1 }

def adminPasswordReset (userId : String) (payload : PasswordReset) : Except Failure AccessBook := do
  requirePermission principal .usersManage
  refuseIf (payload.passwordStrong = false) 422 "Weak password" "Use at least 14 characters and three character classes"
    "weak_password"
  let user ← required (book.user? userId) 404 "User not found" "User does not exist" "user_missing"
  refuseIf (user.lifecycleState = .removed) 409 "User is removed" "Restore the user before resetting the password"
    "user_removed"
  refuseIf (¬ TargetUserScopeAllowed principal user) 404 "User not found" "User does not exist" "user_missing"
  onlyIf ("admin" ∈ book.userRoleNames user.id) do
    requirePermission principal .usersManageProtected
    requireRecentReauthentication principal
  book.updateUser user.id (passwordChanged payload)

def deactivatedUser (user : User) : User :=
  { user with isActive := false, lifecycleState := .disabled, accessRevision := user.accessRevision + 1 }

def deactivateUser (userId : String) : Except Failure AccessBook := do
  requirePermission principal .usersDisable
  let user ← required (book.user? userId) 404 "User not found" "User does not exist" "user_missing"
  refuseIf (¬ TargetUserScopeAllowed principal user) 404 "User not found" "User does not exist" "user_missing"
  refuseIf (user.id = principal.userId) 409 "Cannot remove your own account"
    "Another administrator must remove this account" "self_deactivation_forbidden"
  if user.isActive = false then pure book
  else do
    refuseIf (user.isProtected = true) 409 "Protected bootstrap account"
      "The protected bootstrap account cannot be disabled" "protected_account"
    -- Only sign-ins with the administrator role itself are counted here.
    onlyIf ("admin" ∈ book.userRoleNames user.id) do
      requirePermission principal .usersManageProtected
      requireRecentReauthentication principal
      refuseIf (book.activeAdminCount user.id = 0) 409 "Last administrator cannot be removed"
        "Create another administrator before removing this account" "last_admin_required"
    book.updateUser user.id deactivatedUser

/-! ## Roles -/

/-- `displayName` is what `validate_role_display_name` makes of the name. -/
structure RoleWrite where
  displayName : Option String
  permissions : Finset Permission
  expectedRevision : Option Nat := none
  confirmHighRisk : Bool := false

def validatePermissions (codes : Finset Permission) : Except Failure Unit := do
  refuseIf (codes ∩ ADMIN_ONLY_PERMISSIONS ≠ ∅) 422 "Administrator-only permission"
    "Administrator-only system operations cannot be assigned to a custom role" "permission_admin_only"
  refuseIf (∃ code ∈ codes, ¬ PERMISSION_DEPENDENCIES code ⊆ codes) 422 "Permission dependencies missing"
    "Add the required view or parent permissions" "permission_dependencies_missing"

def requireDisplayName (payload : RoleWrite) : Except Failure String :=
  required payload.displayName 422 "Invalid role name" "Role names must contain 3 to 120 printable characters"
    "role_name_invalid"

def roleNameExists : Failure :=
  .problem { status := 409, title := "Role already exists", detail := "Choose a unique role name", code := "role_name_exists" }

def createRole (lower : String → String) (payload : RoleWrite) (name : String) : Except Failure AccessBook := do
  requirePermission principal .rolesManage
  rateLimit principal
  let displayName ← requireDisplayName payload
  validatePermissions payload.permissions
  refuseIf (¬ payload.permissions ⊆ principal.permissions) 403 "Privilege delegation denied"
    "You cannot grant permissions that you do not possess" "permission_delegation_forbidden"
  confirmProtected principal (payload.permissions ∩ HIGH_RISK_PERMISSIONS ≠ ∅) payload.confirmHighRisk
    "Protected confirmation required" "Confirm creation of a role with high-risk permissions" "high_risk_confirmation_required"
  raiseIf (∃ role ∈ book.roles, lower role.displayName = lower displayName) roleNameExists
  AccessBook.store book.users
    (book.roles ++ [{ name := name, displayName := displayName, permissions := payload.permissions }]) roleNameExists

def roleUpdated (displayName : String) (permissions : Finset Permission) (role : Role) : Role :=
  { role with displayName := displayName, permissions := permissions, revision := role.revision + 1 }

def requireRole (roleId : String) : Except Failure Role :=
  required (book.role? roleId) 404 "Role not found" "Role does not exist" "role_missing"

/-- The permissions that one of the sets has and the other has not. -/
def changedPermissions (first second : Finset Permission) : Finset Permission := (first \ second) ∪ (second \ first)

def updateRole (lower : String → String) (roleId : String) (payload : RoleWrite) : Except Failure AccessBook := do
  requirePermission principal .rolesManage
  rateLimit principal
  let role ← requireRole book roleId
  refuseIf (role.isBuiltin = true) 409 "Built-in role is immutable"
    "Clone the built-in role before changing its permissions" "builtin_role_immutable"
  refuseIf (role.isArchived = true) 409 "Role is archived" "Archived roles cannot be edited" "role_archived"
  refuseIf (payload.expectedRevision ≠ some role.revision) 409 "Role changed" "Reload the role before applying changes"
    "role_revision_conflict"
  validatePermissions payload.permissions
  refuseIf (¬ payload.permissions ⊆ principal.permissions) 403 "Privilege delegation denied"
    "You cannot grant permissions that you do not possess" "permission_delegation_forbidden"
  confirmProtected principal (changedPermissions payload.permissions role.permissions ∩ HIGH_RISK_PERMISSIONS ≠ ∅)
    payload.confirmHighRisk "Protected confirmation required" "Confirm this material role change"
    "high_risk_confirmation_required"
  let displayName ← requireDisplayName payload
  raiseIf (∃ other ∈ book.roles, lower other.displayName = lower displayName ∧ other.name ≠ role.name) roleNameExists
  AccessBook.store
    (book.users.map fun user =>
      if role.name ∈ user.roles then { user with accessRevision := user.accessRevision + 1 } else user)
    (book.roles.map fun row => if row.name = role.name then roleUpdated displayName payload.permissions row else row)
    roleNameExists

/-- Without permissions of its own the clone takes those of the source. -/
def cloneRole (lower : String → String) (roleId : String) (payload : RoleWrite) (name : String) : Except Failure AccessBook := do
  let source ← requireRole book roleId
  createRole book principal lower
    { payload with permissions := if payload.permissions = ∅ then source.permissions else payload.permissions
                   expectedRevision := none } name

def archivedRole (role : Role) : Role := { role with isArchived := true, revision := role.revision + 1 }

def archiveRole (roleId : String) : Except Failure AccessBook := do
  requirePermission principal .rolesManage
  let role ← requireRole book roleId
  refuseIf (role.isBuiltin = true) 409 "Built-in role is protected" "Built-in roles cannot be archived"
    "builtin_role_immutable"
  refuseIf (∃ user ∈ book.users, role.name ∈ user.roles) 409 "Role is assigned"
    "Reassign all users before archiving this role" "role_in_use"
  AccessBook.store book.users (book.roles.map fun row => if row.name = role.name then archivedRole row else row)

end Requests

/-! ## Runs -/

inductive AccessRequest where
  | createUser (payload : UserCreate) (id : String)
  | updateUserAccess (userId : String) (payload : UserAccessUpdate)
  | setUserActive (active : Bool) (userId : String) (payload : UserStatusChange)
  | removeUser (userId : String) (payload : UserRemovalRequest)
  | restoreUser (userId : String) (payload : UserRestoreRequest)
  | adminPasswordReset (userId : String) (payload : PasswordReset)
  | deactivateUser (userId : String)
  | createRole (payload : RoleWrite) (name : String)
  | updateRole (roleId : String) (payload : RoleWrite)
  | cloneRole (roleId : String) (payload : RoleWrite) (name : String)
  | archiveRole (roleId : String)

/-- A request with the user who makes it, the session's state, the sites that exist and the time. -/
structure Call where
  actorId : String
  reauthenticated : Bool := true
  throttled : Bool := false
  siteIds : List String := []
  now : Int := 0
  request : AccessRequest

def AccessRequest.handle (lower : String → String) (siteIds : List String) (now : Int) (book : AccessBook)
    (principal : SessionPrincipal) : AccessRequest → Except Failure AccessBook
  | .createUser payload id => Access.createUser book principal payload id
  | .updateUserAccess userId payload => Access.updateUserAccess book principal siteIds userId payload
  | .setUserActive active userId payload => Access.setUserActive book principal active userId payload
  | .removeUser userId payload => Access.removeUser book principal lower userId payload now
  | .restoreUser userId payload => Access.restoreUser book principal userId payload now
  | .adminPasswordReset userId payload => Access.adminPasswordReset book principal userId payload
  | .deactivateUser userId => Access.deactivateUser book principal userId
  | .createRole payload name => Access.createRole book principal lower payload name
  | .updateRole roleId payload => Access.updateRole book principal lower roleId payload
  | .cloneRole roleId payload name => Access.cloneRole book principal lower roleId payload name
  | .archiveRole roleId => Access.archiveRole book principal roleId

def Call.principal? (call : Call) (book : AccessBook) : Option SessionPrincipal :=
  authenticateSession book call.actorId call.reauthenticated call.throttled

def Call.perform (lower : String → String) (book : AccessBook) (call : Call) : Except Failure AccessBook := do
  let principal ← required (call.principal? book) 401 "Session expired" "Sign in again" "session_expired"
  call.request.handle lower call.siteIds call.now book principal

/-- A request that fails is rolled back. -/
def Call.apply (lower : String → String) (book : AccessBook) (call : Call) : AccessBook :=
  (call.perform lower book).toOption.getD book

end PowerMonitor.Access
