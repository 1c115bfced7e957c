import PowerMonitor.Foundation
import PowerMonitor.Library.Fallible
import Mathlib.Data.Finset.Lattice.Basic
import Mathlib.Data.Finset.Filter
import Mathlib.Data.Finset.SDiff

/-! Users, roles and what they permit.

A user holds roles and a site scope. What it may do is the union of what its roles permit that are not archived; the
administrator role permits everything, and permissions for administrators alone are taken out of every other union.
-/

set_option autoImplicit false
namespace PowerMonitor.Access
open Library

/-! ## The catalog of permissions -/

inductive Permission where
  | overviewView | usageView | historyView | historyExport | costsView | costsExport | costsRecalculate
  | usageImportsManage | utilityBillsView | utilityBillsManage
  | sitesView | sitesManage | sitesCreate | sitesEdit | sitesSetDefault | sitesDisable | sitesRemove | sitesRestore
  | sitesTransferResources | sitesViewAudit | utilityAccountsView | utilityAccountsManage
  | networkView | networkManage | topologyView | topologyManage | devicesView | devicesManage | devicesRemove
  | storageView | storageManage | enrollmentView | enrollmentManage | firmwareView | firmwareManage | firmwareDeploy
  | ratesView | ratesManageCustom | ratesManageSources | ratesCheckSources | ratesReviewCandidates
  | ratesApproveCandidates | ratesAssign | adjustmentsManage | ratesRemove | ratesRestore
  | alertsView | alertsAcknowledge | alertsManageRules | alertsManageDelivery
  | backupsView | backupsCreate | backupsVerify | backupsDelete | backupsRestore | logsExport
  | usersView | usersManage | usersDisable | usersRemove | usersRestore | usersManageProtected
  | rolesView | rolesManage | auditView | settingsView | settingsManage | systemDataReset
  | interfaceTextView | interfaceTextManage | statusIndicatorsView | statusIndicatorsManage
  deriving DecidableEq, Repr

def PERMISSION_DEFINITIONS : List Permission :=
  [.overviewView, .usageView, .historyView, .historyExport, .costsView, .costsExport, .costsRecalculate,
   .usageImportsManage, .utilityBillsView, .utilityBillsManage, .sitesView, .sitesManage, .sitesCreate, .sitesEdit,
   .sitesSetDefault, .sitesDisable, .sitesRemove, .sitesRestore, .sitesTransferResources, .sitesViewAudit,
   .utilityAccountsView, .utilityAccountsManage, .networkView, .networkManage, .topologyView, .topologyManage,
   .devicesView, .devicesManage, .devicesRemove, .storageView, .storageManage, .enrollmentView, .enrollmentManage,
   .firmwareView, .firmwareManage, .firmwareDeploy, .ratesView, .ratesManageCustom, .ratesManageSources,
   .ratesCheckSources, .ratesReviewCandidates, .ratesApproveCandidates, .ratesAssign, .adjustmentsManage,
   .ratesRemove, .ratesRestore, .alertsView, .alertsAcknowledge, .alertsManageRules, .alertsManageDelivery,
   .backupsView, .backupsCreate, .backupsVerify, .backupsDelete, .backupsRestore, .logsExport, .usersView,
   .usersManage, .usersDisable, .usersRemove, .usersRestore, .usersManageProtected, .rolesView, .rolesManage,
   .auditView, .settingsView, .settingsManage, .systemDataReset, .interfaceTextView, .interfaceTextManage,
   .statusIndicatorsView, .statusIndicatorsManage]

/-- `frozenset(PERMISSION_CATALOG)` -/
def ALL_PERMISSIONS : Finset Permission := ⟨PERMISSION_DEFINITIONS, by decide⟩

theorem mem_ALL_PERMISSIONS (permission : Permission) : permission ∈ ALL_PERMISSIONS := by
  change permission ∈ PERMISSION_DEFINITIONS
  cases permission <;> decide

/-- The permissions whose definition says `high_risk`. -/
def HIGH_RISK_PERMISSIONS : Finset Permission :=
  {.costsRecalculate, .usageImportsManage, .utilityBillsView, .utilityBillsManage, .sitesManage, .sitesCreate,
   .sitesEdit, .sitesSetDefault, .sitesDisable, .sitesRemove, .sitesRestore, .sitesTransferResources,
   .sitesViewAudit, .utilityAccountsManage, .networkManage, .devicesRemove, .storageManage, .enrollmentManage,
   .firmwareManage, .firmwareDeploy, .ratesManageSources, .ratesApproveCandidates, .ratesAssign, .adjustmentsManage,
   .ratesRemove, .ratesRestore, .alertsManageDelivery, .backupsVerify, .backupsDelete, .backupsRestore, .logsExport,
   .usersManage, .usersDisable, .usersRemove, .usersRestore, .usersManageProtected, .rolesManage, .settingsManage,
   .systemDataReset, .interfaceTextManage, .statusIndicatorsManage}

def PERMISSION_DEPENDENCIES : Permission → Finset Permission
  | .usersManage => {.usersView}
  | .usersDisable | .usersRemove | .usersRestore | .usersManageProtected => {.usersManage, .usersView}
  | .rolesManage => {.rolesView}
  | .ratesManageCustom | .ratesManageSources | .ratesReviewCandidates | .ratesAssign => {.ratesView}
  | .ratesCheckSources => {.ratesManageSources, .ratesView}
  | .ratesApproveCandidates => {.ratesReviewCandidates, .ratesView}
  | .adjustmentsManage => {.ratesView, .sitesView}
  | .ratesRemove | .ratesRestore => {.ratesManageCustom, .ratesView}
  | .costsRecalculate => {.costsView}
  | .usageImportsManage => {.usageView, .utilityAccountsView}
  | .backupsRestore | .backupsVerify | .backupsDelete | .backupsCreate => {.backupsView}
  | .interfaceTextManage => {.interfaceTextView}
  | .statusIndicatorsManage => {.statusIndicatorsView}
  | .sitesManage | .sitesCreate | .sitesEdit | .sitesSetDefault | .sitesDisable | .sitesRemove | .sitesRestore
  | .sitesTransferResources | .utilityAccountsView | .networkView => {.sitesView}
  | .sitesViewAudit => {.sitesView, .auditView}
  | .utilityAccountsManage => {.utilityAccountsView, .sitesView}
  | .networkManage => {.networkView, .sitesView}
  | .topologyManage => {.topologyView}
  | .devicesManage | .storageView => {.devicesView}
  | .devicesRemove => {.devicesManage, .devicesView}
  | .storageManage => {.storageView, .devicesManage, .devicesView}
  | .enrollmentManage => {.enrollmentView}
  | .firmwareManage | .firmwareDeploy => {.firmwareView}
  | .alertsAcknowledge | .alertsManageRules | .alertsManageDelivery => {.alertsView}
  | .systemDataReset => {.settingsView, .auditView, .backupsView, .devicesView, .ratesView}
  | _ => ∅

def ADMIN_ONLY_PERMISSIONS : Finset Permission := {.systemDataReset}

def VIEWER_PERMISSIONS : Finset Permission :=
  {.overviewView, .usageView, .historyView, .costsView, .sitesView, .utilityAccountsView, .topologyView, .devicesView,
   .storageView, .ratesView, .alertsView, .statusIndicatorsView}

def OPERATOR_PERMISSIONS : Finset Permission :=
  VIEWER_PERMISSIONS ∪ {.topologyManage, .devicesManage, .storageManage, .enrollmentView, .enrollmentManage, .firmwareView,
    .alertsAcknowledge, .alertsManageRules}

def RATE_MANAGER_PERMISSIONS : Finset Permission :=
  VIEWER_PERMISSIONS ∪ {.ratesManageCustom, .ratesManageSources, .ratesCheckSources, .ratesReviewCandidates,
    .ratesApproveCandidates, .ratesAssign, .adjustmentsManage, .ratesRemove, .ratesRestore}

/-- `BUILTIN_ROLE_PERMISSIONS.get(role_name, ())` -/
def builtinRolePermissions (roleName : String) : Finset Permission :=
  if roleName = "admin" then ALL_PERMISSIONS
  else if roleName = "operator" then OPERATOR_PERMISSIONS
  else if roleName = "rate-manager" then RATE_MANAGER_PERMISSIONS
  else if roleName = "viewer" then VIEWER_PERMISSIONS
  else ∅

/-- What an administrator needs to recover the access of others. -/
def RECOVERY_PERMISSIONS : Finset Permission := {.usersManage, .rolesManage, .usersDisable, .usersRemove, .usersRestore}

/-! ## Tables -/

/-- What ends a request: a problem it raises, or a constraint that refuses its rows. -/
inductive Failure where
  | problem (error : ProblemError)
  | integrity
  deriving DecidableEq, Repr

/-- A role, with its rows of `role_permissions`. -/
structure Role where
  name : String
  displayName : String
  isBuiltin : Bool := false
  isArchived : Bool := false
  revision : Nat := 1
  permissions : Finset Permission
  deriving DecidableEq

inductive LifecycleState where | active | disabled | removed
  deriving DecidableEq, Repr

/-- A user, with its rows of `user_roles` and `user_sites`. -/
structure User where
  id : String
  email : String
  passwordHash : String
  isActive : Bool := true
  lifecycleState : LifecycleState := .active
  isProtected : Bool := false
  allSites : Bool := true
  accessRevision : Nat := 1
  roles : List String := []
  sites : List String := []
  removedAt : Option Int := none
  restoredAt : Option Int := none
  removedRoleIds : List String := []
  removedSiteIds : List String := []
  removedAllSites : Bool := false
  deriving DecidableEq, Repr

/-- The constraints of the tables: names are unique, and a user holds roles that are there. -/
structure ValidAccess (users : List User) (roles : List Role) : Prop where
  ids : (users.map User.id).Nodup
  emails : (users.map User.email).Nodup
  names : (roles.map Role.name).Nodup
  linked : ∀ user ∈ users, ∀ name ∈ user.roles, name ∈ roles.map Role.name

theorem validAccess_iff {users : List User} {roles : List Role} : ValidAccess users roles ↔
    (users.map User.id).Nodup ∧ (users.map User.email).Nodup ∧ (roles.map Role.name).Nodup ∧
      ∀ user ∈ users, ∀ name ∈ user.roles, name ∈ roles.map Role.name :=
  ⟨fun valid => ⟨valid.ids, valid.emails, valid.names, valid.linked⟩,
    fun valid => ⟨valid.1, valid.2.1, valid.2.2.1, valid.2.2.2⟩⟩

instance (users : List User) (roles : List Role) : Decidable (ValidAccess users roles) := decidable_of_iff _ validAccess_iff.symm

structure AccessBook where
  users : List User := []
  roles : List Role := []
  valid : ValidAccess users roles

namespace AccessBook
variable (book : AccessBook)

def user? (id : String) : Option User := book.users.find? fun user => user.id = id

def role? (name : String) : Option Role := book.roles.find? fun role => role.name = name

/-- The rows are stored if the constraints allow it. -/
def store (users : List User) (roles : List Role) (failure : Failure := .integrity) : Except Failure AccessBook :=
  if valid : ValidAccess users roles then .ok ⟨users, roles, valid⟩ else .error failure

def updateUser (id : String) (change : User → User) : Except Failure AccessBook :=
  store (book.users.map fun user => if user.id = id then change user else user) book.roles

/-- A role of the name is there and not archived. -/
def Available (name : String) : Prop := ∃ role ∈ book.roles, role.name = name ∧ role.isArchived = false

instance (name : String) : Decidable (book.Available name) := inferInstanceAs (Decidable (∃ role ∈ _, _))

/-! ## Effective permissions -/

/-- The roles of a user that are not archived. -/
def activeRoles (user : User) : List String := user.roles.filter fun name => book.Available name

def permissionsForRoles (roleNames : List String) : Finset Permission :=
  if "admin" ∈ roleNames then ALL_PERMISSIONS
  else (ALL_PERMISSIONS.filter fun permission =>
    (∃ role ∈ book.roles, role.name ∈ roleNames ∧ role.isArchived = false ∧ permission ∈ role.permissions) ∨
      ∃ name ∈ roleNames, permission ∈ builtinRolePermissions name) \ ADMIN_ONLY_PERMISSIONS

def userRoleNames (userId : String) : List String := ((book.user? userId).map book.activeRoles).getD []

def effectivePermissions (userId : String) : Finset Permission := book.permissionsForRoles (book.userRoleNames userId)

/-- `active_recovery_administrator_count` counts these users. -/
def RecoveryAdministrator (user : User) : Prop :=
  user.isActive = true ∧ user.lifecycleState = .active ∧ user.allSites = true ∧
    RECOVERY_PERMISSIONS ⊆ book.effectivePermissions user.id

instance (user : User) : Decidable (book.RecoveryAdministrator user) := inferInstanceAs (Decidable (_ ∧ _))

def activeRecoveryAdministratorCount (excludingUserId : Option String := none) : Nat :=
  (book.users.filter fun user => some user.id ≠ excludingUserId ∧ book.RecoveryAdministrator user).length

/-- Sign-ins with the administrator role itself. -/
def activeAdminCount (excludingUserId : String) : Nat :=
  (book.users.filter fun user => user.isActive = true ∧ "admin" ∈ user.roles ∧ user.id ≠ excludingUserId).length

end AccessBook
end PowerMonitor.Access
