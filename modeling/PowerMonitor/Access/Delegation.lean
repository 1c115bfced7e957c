import PowerMonitor.Access.Effects
import PowerMonitor.Library.Runs

/-! Nobody obtains what nobody in the group holds.

A request gives each user at most what the user held and what the actor holds. An account whose password an actor chooses
joins those who act for the actor; a reset asks for the site scope of the account and for the administrator role, but not
for its other permissions.
-/

set_option autoImplicit false
namespace PowerMonitor.Access
open Library

/-! ## Scope -/

/-- The user has all sites. -/
def Everywhere (book : AccessBook) (userId : String) : Prop := ∃ user, book.user? userId = some user ∧ user.allSites = true

/-- The site is in the scope of the user. -/
def Reaches (book : AccessBook) (userId site : String) : Prop :=
  ∃ user, book.user? userId = some user ∧ (user.allSites = true ∨ site ∈ user.sites)

/-- After a request every user has at most what it had and what the principal has. -/
structure Within (book after : AccessBook) (principal : SessionPrincipal) : Prop where
  permissions : ∀ userId, after.effectivePermissions userId ⊆ book.effectivePermissions userId ∪ principal.permissions
  everywhere : ∀ userId, Everywhere after userId → Everywhere book userId ∨ principal.allSites = true
  sites : ∀ userId site, Reaches after userId site → Reaches book userId site ∨ principal.canAccessSite site

/-- Everything that an account has is the principal's too. -/
structure Covered (book : AccessBook) (userId : String) (principal : SessionPrincipal) : Prop where
  permissions : book.effectivePermissions userId ⊆ principal.permissions
  everywhere : Everywhere book userId → principal.allSites = true
  sites : ∀ site, Reaches book userId site → principal.canAccessSite site

section Effects
variable {book after : AccessBook} {principal : SessionPrincipal} {userId : String} {user : User}

theorem mem_effectivePermissions {id : String} {permission : Permission} : permission ∈ book.effectivePermissions id ↔
    ∃ user, book.user? id = some user ∧ (("admin" ∈ user.roles ∧ book.Available "admin") ∨
      ((∃ name ∈ user.roles, book.Available name ∧ Grants book name permission) ∧ permission ∉ ADMIN_ONLY_PERMISSIONS)) := by
  cases found : book.user? id with
  | none =>
      rw [effectivePermissions_of_absent found]
      simp
  | some user =>
      rw [effectivePermissions_of_user found, mem_permissionsForRoles]
      simp only [mem_activeRoles, Option.some.injEq, exists_eq_left', and_assoc]

/-- A change of one user that gives it no more than it had and than the principal has. -/
theorem Changes.within {change : User → User} (changes : Changes book after userId change)
    (keeps : ∀ user, (change user).id = user.id) (found : book.user? userId = some user)
    (roles : book.permissionsForRoles (book.activeRoles (change user)) ⊆ book.effectivePermissions userId ∪ principal.permissions)
    (everywhere : (change user).allSites = true → user.allSites = true ∨ principal.allSites = true)
    (sites : ∀ site, (change user).allSites = true ∨ site ∈ (change user).sites →
      (user.allSites = true ∨ site ∈ user.sites) ∨ principal.canAccessSite site) : Within book after principal := by
  obtain ⟨users, sameRoles⟩ := changes
  have listed := user?_updated keeps users
  have here : after.user? userId = some (change user) := by
    rw [listed, found, Option.map_some, if_pos (user?_mem found).2]
  have others {id : String} (other : id ≠ userId) : after.user? id = book.user? id := by
    rw [listed]
    cases present : book.user? id with
    | none => rfl
    | some row => rw [Option.map_some, if_neg ((user?_mem present).2 ▸ other)]
  refine ⟨fun id => ?_, fun id => ?_, fun id site => ?_⟩
  · by_cases same : id = userId
    · subst same
      rw [effectivePermissions_of_user here, activeRoles_congr sameRoles, permissionsForRoles_congr sameRoles]
      exact roles
    · rw [effectivePermissions_congr sameRoles (by rw [others same])]
      exact Finset.subset_union_left
  · rintro ⟨row, present, all⟩
    by_cases same : id = userId
    · subst same
      cases here.symm.trans present
      exact (everywhere all).imp_left fun before => ⟨user, found, before⟩
    · exact .inl ⟨row, others same ▸ present, all⟩
  · rintro ⟨row, present, reached⟩
    by_cases same : id = userId
    · subst same
      cases here.symm.trans present
      exact (sites site reached).imp_left fun before => ⟨user, found, before⟩
    · exact .inl ⟨row, others same ▸ present, reached⟩

theorem Changes.within_of_less {change : User → User} (changes : Changes book after userId change)
    (keeps : ∀ user, (change user).id = user.id) (found : book.user? userId = some user)
    (roles : (change user).roles ⊆ user.roles) (everywhere : (change user).allSites = true → user.allSites = true)
    (sites : (change user).sites ⊆ user.sites) : Within book after principal := by
  refine changes.within keeps found ?_ (fun all => .inl (everywhere all)) fun site reached =>
    .inl (reached.imp everywhere fun listed => sites listed)
  rw [effectivePermissions_of_user found]
  refine (permissionsForRoles_mono fun name held => ?_).trans Finset.subset_union_left
  rw [mem_activeRoles] at held ⊢
  exact ⟨roles held.1, held.2⟩

/-- Users whose roles grant no more than before, as far as the principal does not grant it. -/
theorem within_of_roles (users : ∀ id, (after.user? id).map (fun user => (user.roles, user.allSites, user.sites)) =
      (book.user? id).map fun user => (user.roles, user.allSites, user.sites))
    (available : ∀ user ∈ book.users, ∀ name ∈ user.roles, after.Available name → book.Available name)
    (grants : ∀ user ∈ book.users, ∀ name ∈ user.roles, ∀ permission, Grants after name permission →
      Grants book name permission ∨ permission ∈ principal.permissions) : Within book after principal := by
  have before {id : String} {row : User} (present : after.user? id = some row) :
      ∃ old, book.user? id = some old ∧ old.roles = row.roles ∧ old.allSites = row.allSites ∧ old.sites = row.sites := by
    have same := users id
    rw [present, Option.map_some, eq_comm, Option.map_eq_some_iff] at same
    obtain ⟨old, listed, same⟩ := same
    exact ⟨old, listed, congrArg Prod.fst same, congrArg (fun triple => triple.2.1) same,
      congrArg (fun triple => triple.2.2) same⟩
  refine ⟨fun id permission listed => ?_, fun id => ?_, fun id site => ?_⟩
  · rw [mem_effectivePermissions] at listed
    obtain ⟨row, present, held⟩ := listed
    obtain ⟨old, found, sameRoles, _⟩ := before present
    have stored := (user?_mem found).1
    rw [← sameRoles] at held
    rw [Finset.mem_union, mem_effectivePermissions]
    rcases held with ⟨admin, current⟩ | ⟨⟨name, held, current, granted⟩, common⟩
    · exact .inl ⟨old, found, .inl ⟨admin, available old stored _ admin current⟩⟩
    · refine (grants old stored name held permission granted).imp_left fun granted => ?_
      exact ⟨old, found, .inr ⟨⟨name, held, available old stored name held current, granted⟩, common⟩⟩
  · rintro ⟨row, present, all⟩
    obtain ⟨old, found, _, same, _⟩ := before present
    exact .inl ⟨old, found, same.trans all⟩
  · rintro ⟨row, present, reached⟩
    obtain ⟨old, found, _, same, sites⟩ := before present
    exact .inl ⟨old, found, by rw [same, sites]; exact reached⟩

/-- A new role is held by no user yet. -/
theorem created_unassigned {role : Role} (roles : after.roles = book.roles ++ [role]) (user : User) (stored : user ∈ book.users) :
    role.name ∉ user.roles := by
  intro held
  have unique := after.valid.names
  rw [roles, List.map_append, List.nodup_append] at unique
  exact unique.2.2 _ (book.valid.linked user stored _ held) _ (List.mem_singleton_self _) rfl

theorem available_created {role : Role} {name : String} (roles : after.roles = book.roles ++ [role]) (other : role.name ≠ name) :
    after.Available name ↔ book.Available name := by
  rw [AccessBook.Available, roles, AccessBook.Available]
  simp [other]

theorem grants_created {role : Role} {name : String} {permission : Permission} (roles : after.roles = book.roles ++ [role])
    (other : role.name ≠ name) : Grants after name permission ↔ Grants book name permission := by
  rw [Grants, roles, Grants]
  simp [other]

/-- What is granted under a name after one of the roles has changed. -/
theorem grants_changed {change : Role → Role} {roleId name : String} {permission : Permission}
    (roles : after.roles = book.roles.map fun row => if row.name = roleId then change row else row)
    (keeps : ∀ role, (change role).name = role.name) (granted : Grants after name permission) :
    Grants book name permission ∨ (name = roleId ∧ ∃ role ∈ book.roles, role.name = roleId ∧
      (change role).isArchived = false ∧ permission ∈ (change role).permissions) := by
  rw [Grants, roles] at granted
  rcases granted with ⟨row, listed, named, current, held⟩ | builtin
  · obtain ⟨role, stored, rfl⟩ := List.mem_map.mp listed
    split at named
    · next changed =>
        rw [if_pos changed] at current held
        exact .inr ⟨by rw [← named, keeps, changed], role, stored, changed, current, held⟩
    · next other =>
        rw [if_neg other] at current held
        exact .inl (.inl ⟨role, stored, named, current, held⟩)
  · exact .inl (.inr builtin)

/-- A role that was available stays so, and one that is available was so, unless the change archives it. -/
theorem available_changed {change : Role → Role} {roleId name : String}
    (roles : after.roles = book.roles.map fun row => if row.name = roleId then change row else row)
    (keeps : ∀ role, (change role).name = role.name) (current : name = roleId → ∀ role, (change role).isArchived = role.isArchived) :
    after.Available name ↔ book.Available name := by
  rw [AccessBook.Available, roles, AccessBook.Available]
  simp only [List.mem_map, exists_exists_and_eq_and]
  refine exists_congr fun role => and_congr_right fun _ => ?_
  by_cases changed : role.name = roleId
  · rw [if_pos changed, keeps]
    exact and_congr_right fun named => by rw [current (named ▸ changed)]
  · rw [if_neg changed]

/-- A request gives no user more than it had and than its actor has. -/
theorem Effect.within {request : AccessRequest} (effect : Effect book principal after request) : Within book after principal := by
  cases effect with
  | nothing same _ =>
      subst same
      exact ⟨fun _ => Finset.subset_union_left, fun _ => .inl, fun _ _ => .inl⟩
  | @created payload id users roles granted =>
      have cases {other : String} {row : User} (present : after.user? other = some row) :
          book.user? other = some row ∨ row = newUser principal payload id := by
        rw [AccessBook.user?, users, List.find?_append, Option.or_eq_some_iff] at present
        refine present.imp_right fun new => ?_
        exact List.mem_singleton.mp (List.mem_of_find?_eq_some new.2)
      refine ⟨fun other permission held => ?_, fun other => ?_, fun other site => ?_⟩
      · cases present : after.user? other with
        | none =>
            rw [effectivePermissions_of_absent present] at held
            cases held
        | some row =>
            rw [effectivePermissions_of_user present, activeRoles_congr roles, permissionsForRoles_congr roles] at held
            rw [Finset.mem_union]
            rcases cases present with old | rfl
            · rw [effectivePermissions_of_user old]
              exact .inl held
            · refine .inr (granted (permissionsForRoles_mono (fun name own => ?_) held))
              exact (mem_activeRoles.mp own).1
      · rintro ⟨row, present, all⟩
        rcases cases present with old | rfl
        · exact .inl ⟨row, old, all⟩
        · exact .inr all
      · rintro ⟨row, present, reached⟩
        rcases cases present with old | rfl
        · exact .inl ⟨row, old, reached⟩
        · exact .inr (reached.imp_right fun listed => absurd listed List.not_mem_nil)
  | accessUpdated found _ _ granted everywhere within _ _ changes =>
      refine changes.within (fun _ => rfl) found ?_ (fun all => .inr (everywhere all)) fun site reached => .inr ?_
      · refine ((permissionsForRoles_mono fun name own => ?_).trans granted).trans Finset.subset_union_right
        exact (mem_activeRoles.mp own).1
      · rcases reached with all | listed
        · exact .inl (everywhere all)
        · rw [Access.accessUpdated] at listed
          dsimp only at listed
          split at listed
          · cases listed
          · next some => exact within (by simpa using some) site listed
  | statusChanged found _ _ changes => exact changes.within_of_less (fun _ => rfl) found (List.Subset.refl _) id (List.Subset.refl _)
  | removed found _ changes => exact changes.within_of_less (fun _ => rfl) found (List.nil_subset _) (absurd · Bool.false_ne_true) (List.nil_subset _)
  | restored found _ changes => exact changes.within_of_less (fun _ => rfl) found (List.Subset.refl _) (absurd · Bool.false_ne_true) (List.Subset.refl _)
  | passwordReset found _ changes => exact changes.within_of_less (fun _ => rfl) found (List.Subset.refl _) id (List.Subset.refl _)
  | deactivated found changes => exact changes.within_of_less (fun _ => rfl) found (List.Subset.refl _) id (List.Subset.refl _)
  | inactive _ _ same =>
      subst same
      exact ⟨fun _ => Finset.subset_union_left, fun _ => .inl, fun _ _ => .inl⟩
  | @roleCreated _ role users roles _ =>
      have other (user : User) (stored : user ∈ book.users) (name : String) (held : name ∈ user.roles) : role.name ≠ name :=
        fun same => created_unassigned roles user stored (same ▸ held)
      refine within_of_roles (fun id => by rw [AccessBook.user?, users, AccessBook.user?])
        (fun user stored name held => (available_created roles (other user stored name held)).mp)
        fun user stored name held permission granted => .inl ((grants_created roles (other user stored name held)).mp granted)
  | @roleUpdated roleId payload role displayName found current granted users roles =>
      refine within_of_roles (fun id => ?_) (fun user _ name _ => ?_) fun user _ name _ permission given => ?_
      · rw [AccessBook.user?, users, List.find?_map, AccessBook.user?, Option.map_map]
        congr 1
        · funext user
          rw [Function.comp_apply]
          split <;> rfl
        · congr 1
          funext user
          rw [Function.comp_apply]
          split <;> rfl
      · exact (available_changed roles (fun _ => rfl) fun _ _ => rfl).mp
      · refine (grants_changed roles (fun _ => rfl) given).imp_right ?_
        rintro ⟨_, role, _, _, _, held⟩
        exact granted held
  | @roleArchived roleId unassigned users roles =>
      refine within_of_roles (fun id => by rw [AccessBook.user?, users, AccessBook.user?]) (fun user stored name held => ?_)
        fun user stored name held permission given => ?_
      · have other : name ≠ roleId := fun same => unassigned user stored (same ▸ held)
        exact (available_changed roles (fun _ => rfl) fun same => absurd same other).mp
      · refine (grants_changed roles (fun _ => rfl) given).imp_right ?_
        rintro ⟨same, _⟩
        exact absurd (same ▸ held) (unassigned user stored)

/-! ## Passwords -/

/-- A password reset names an account whose effective permissions the actor has. -/
def ResetWithinReach (book : AccessBook) (actorId : String) : AccessRequest → Prop
  | .adminPasswordReset userId _ => book.effectivePermissions userId ⊆ book.effectivePermissions actorId
  | _ => True

instance (book : AccessBook) (actorId : String) (request : AccessRequest) : Decidable (ResetWithinReach book actorId request) := by
  unfold ResetWithinReach
  rcases request with _ | _ <;> infer_instance

theorem quiet_of_chosen {request : AccessRequest} {chosen : String} (named : chosen ∈ request.passwordChosen) :
    ¬ request.Quiet := by
  cases request <;> first | exact id | cases named

theorem user?_created {payload : UserCreate} {id : String} (users : after.users = book.users ++ [newUser principal payload id]) :
    after.user? id = some (newUser principal payload id) := by
  have listed : newUser principal payload id ∈ after.users := by
    rw [users]
    exact List.mem_append_right _ (List.mem_singleton_self _)
  exact user?_of_mem listed

/-- An account whose password is chosen has nothing that the actor has not. -/
theorem Effect.covered {actorId : String} {request : AccessRequest} (effect : Effect book principal after request)
    (held : principal.permissions = book.effectivePermissions actorId) (within : ResetWithinReach book actorId request) :
    ∀ chosen ∈ request.passwordChosen, Covered after chosen principal := by
  intro chosen named
  cases effect with
  | nothing _ quiet => exact absurd quiet (quiet_of_chosen named)
  | roleCreated _ _ quiet => exact absurd quiet (quiet_of_chosen named)
  | @created payload id users roles granted =>
      cases named
      have present := user?_created users
      refine ⟨?_, ?_, ?_⟩
      · rw [effectivePermissions_of_user present, activeRoles_congr roles, permissionsForRoles_congr roles]
        exact (permissionsForRoles_mono fun name own => (mem_activeRoles.mp own).1).trans granted
      · rintro ⟨row, found, all⟩
        cases present.symm.trans found
        exact all
      · rintro site ⟨row, found, reached⟩
        cases present.symm.trans found
        exact reached.imp_right nofun
  | @passwordReset userId payload user found scope changes =>
      cases named
      obtain ⟨users, roles⟩ := changes
      have listed := @user?_updated book after (passwordChanged payload) chosen (fun _ => rfl) users chosen
      rw [found, Option.map_some, if_pos (user?_mem found).2] at listed
      refine ⟨?_, ?_, ?_⟩
      · rw [effectivePermissions_congr roles (by rw [listed, found]; rfl), held]
        exact within
      · rintro ⟨row, present, all⟩
        cases listed.symm.trans present
        exact scope.elim id fun limited => absurd (limited.1.symm.trans all) nofun
      · rintro site ⟨row, present, reached⟩
        cases listed.symm.trans present
        refine scope.imp_right fun limited => limited.2 ?_
        exact reached.resolve_left fun all => absurd (limited.1.symm.trans all) nofun
  | _ => cases named

end Effects

/-! ## Runs -/

section Runs
variable (lower : String → String)

/-- The accounts that a call adds to those who act for its actor. -/
def Call.joining (book : AccessBook) (call : Call) : List String :=
  match call.perform lower book with
  | .ok _ => call.request.passwordChosen.toList
  | .error _ => []

/-- The tables, and the accounts under the control of a group. -/
structure Controlled where
  book : AccessBook
  group : List String

def Controlled.act (state : Controlled) (call : Call) : Controlled where
  book := call.apply lower state.book
  group := state.group ++ call.joining lower state.book

/-- A group has nothing that no member had in the beginning. -/
structure NoAmplification (start state : Controlled) : Prop where
  permissions : ∀ userId ∈ state.group, ∀ permission ∈ state.book.effectivePermissions userId,
    ∃ member ∈ start.group, permission ∈ start.book.effectivePermissions member
  everywhere : ∀ userId ∈ state.group, Everywhere state.book userId → ∃ member ∈ start.group, Everywhere start.book member
  sites : ∀ userId ∈ state.group, ∀ site, Reaches state.book userId site → ∃ member ∈ start.group, Reaches start.book member site

variable {lower} {start state : Controlled} {call : Call}

theorem NoAmplification.act (safe : NoAmplification start state) (mine : call.actorId ∈ state.group)
    (within : ResetWithinReach state.book call.actorId call.request) : NoAmplification start (state.act lower call) := by
  unfold Controlled.act Call.apply Call.joining
  cases run : call.perform lower state.book with
  | error failure =>
      rw [Except.toOption, Option.getD_none, List.append_nil]
      exact safe
  | ok after =>
      rw [Except.toOption, Option.getD_some]
      obtain ⟨principal, signedIn, effect⟩ := perform_effect run
      obtain ⟨_, held, actor, found, _, allSites, siteIds⟩ := principal?_some signedIn
      -- What the principal has, the actor's account has.
      have everywhere : principal.allSites = true → Everywhere state.book call.actorId :=
        fun all => ⟨actor, found, allSites ▸ all⟩
      have sites {site : String} : principal.canAccessSite site → Reaches state.book call.actorId site :=
        fun reached => ⟨actor, found, reached.imp (fun all => allSites ▸ all) fun listed => siteIds ▸ listed⟩
      have less := effect.within
      have covered := effect.covered held within
      refine ⟨fun userId member permission granted => ?_, fun userId member all => ?_, fun userId member site reached => ?_⟩
      · have own : permission ∈ state.book.effectivePermissions call.actorId →
            ∃ member ∈ start.group, permission ∈ start.book.effectivePermissions member :=
          safe.permissions call.actorId mine permission
        rcases List.mem_append.mp member with old | new
        · rcases Finset.mem_union.mp (less.permissions userId granted) with before | given
          · exact safe.permissions userId old permission before
          · exact own (held ▸ given)
        · exact own (held ▸ (covered userId (Option.mem_toList.mp new)).permissions granted)
      · have own := fun all => safe.everywhere call.actorId mine (everywhere all)
        rcases List.mem_append.mp member with old | new
        · exact (less.everywhere userId all).elim (safe.everywhere userId old) own
        · exact own ((covered userId (Option.mem_toList.mp new)).everywhere all)
      · have own := fun reached => safe.sites call.actorId mine site (sites reached)
        rcases List.mem_append.mp member with old | new
        · exact (less.sites userId site reached).elim (safe.sites userId old site) own
        · exact own ((covered userId (Option.mem_toList.mp new)).sites site reached)

/-- In a run whose password resets name accounts within the reach of their actors, every request gives each user at most
what it had and what its actor has, and every account whose password is chosen has nothing that the actor has not. Whatever
group makes all the requests, itself or through such accounts, it has nothing in the end that no member had at first. -/
theorem no_privilege_amplification (lower : String → String) {book : AccessBook} {calls : List Call}
    (within : ∀ earlier call later, calls = earlier ++ call :: later →
      ResetWithinReach (earlier.foldl (Call.apply lower) book) call.actorId call.request) :
    (∀ earlier call later after principal, calls = earlier ++ call :: later →
        call.principal? (earlier.foldl (Call.apply lower) book) = some principal →
        call.perform lower (earlier.foldl (Call.apply lower) book) = .ok after →
        Within (earlier.foldl (Call.apply lower) book) after principal ∧
          ∀ chosen ∈ call.request.passwordChosen, Covered after chosen principal) ∧
      ∀ group : List String, (∀ earlier call later, calls = earlier ++ call :: later →
          call.actorId ∈ (earlier.foldl (Controlled.act lower) ⟨book, group⟩).group) →
        NoAmplification ⟨book, group⟩ (calls.foldl (Controlled.act lower) ⟨book, group⟩) := by
  constructor
  · intro earlier call later after principal split signedIn ok
    obtain ⟨actual, same, effect⟩ := perform_effect ok
    cases signedIn.symm.trans same
    exact ⟨effect.within, effect.covered (principal?_some signedIn).2.1 (within earlier call later split)⟩
  · intro group acting
    have tables (earlier : List Call) : (earlier.foldl (Controlled.act lower) ⟨book, group⟩).book =
        earlier.foldl (Call.apply lower) book := by
      induction earlier using List.reverseRecOn with
      | nil => rfl
      | append_singleton earlier call ih =>
          rw [List.foldl_concat, List.foldl_concat, ← ih]
          rfl
    refine foldl_guarded (P := NoAmplification ⟨book, group⟩)
      (G := fun (state : Controlled) (call : Call) => call.actorId ∈ state.group ∧
        ResetWithinReach state.book call.actorId call.request) ?_ (fun state call safe meets => safe.act meets.1 meets.2) ?_
    · exact ⟨fun userId member permission granted => ⟨userId, member, granted⟩,
        fun userId member all => ⟨userId, member, all⟩, fun userId member site reached => ⟨userId, member, reached⟩⟩
    · intro earlier call later split
      refine ⟨acting earlier call later split, ?_⟩
      rw [tables]
      exact within earlier call later split

end Runs

/-! ## A help desk -/

/-- The administrator, a clerk who manages users and a rate manager, all for all sites. -/
def helpDesk : AccessBook where
  users :=
    [{ id := "root", email := "root", passwordHash := "r", roles := ["admin"] },
      { id := "clerk", email := "clerk", passwordHash := "c", roles := ["custom-clerk"] },
      { id := "rates", email := "rates", passwordHash := "m", roles := ["rate-manager", "viewer"] }]
  roles :=
    [{ name := "admin", displayName := "Administrator", isBuiltin := true, permissions := ALL_PERMISSIONS },
      { name := "rate-manager", displayName := "Rate Manager", isBuiltin := true, permissions := RATE_MANAGER_PERMISSIONS },
      { name := "viewer", displayName := "Viewer", isBuiltin := true, permissions := VIEWER_PERMISSIONS },
      { name := "custom-clerk", displayName := "Clerk", permissions := {.usersView, .usersManage} }]
  valid := by decide

/-- The administrator creates a viewer and sets its password again. -/
def newcomer : List Call :=
  [{ actorId := "root", request := .createUser { email := "new", passwordHash := "n", roles := [.viewer] } "new" },
    { actorId := "root", request := .adminPasswordReset "new" { passwordHash := "x" } }]

theorem newcomer_amplifies_nothing :
    NoAmplification ⟨helpDesk, ["root"]⟩ (newcomer.foldl (Controlled.act id) ⟨helpDesk, ["root"]⟩) ∧
      (newcomer.foldl (Controlled.act id) ⟨helpDesk, ["root"]⟩).group = ["root", "new", "new"] := by
  refine ⟨(no_privilege_amplification id ?_).2 ["root"] ?_, by decide⟩
  · simp only [newcomer, forall_splits_cons]
    exact ⟨trivial, by decide, forall_splits_nil⟩
  · simp only [newcomer, forall_splits_cons]
    exact ⟨by decide, by decide, forall_splits_nil⟩

def takeover : Call := { actorId := "clerk", request := .adminPasswordReset "rates" { passwordHash := "x" } }

/-- The clerk may choose the password of the rate manager, and so assigns rates. -/
theorem clerk_takes_over_rate_manager :
    (∃ after principal, takeover.principal? helpDesk = some principal ∧ takeover.perform id helpDesk = .ok after ∧
      ¬ Covered after "rates" principal) ∧
    ¬ NoAmplification ⟨helpDesk, ["clerk"]⟩ ([takeover].foldl (Controlled.act id) ⟨helpDesk, ["clerk"]⟩) := by
  have powerless : Permission.ratesAssign ∉ helpDesk.effectivePermissions "clerk" := by decide +kernel
  constructor
  · have runs : (takeover.perform id helpDesk).toOption.map (fun after =>
        decide (.ratesAssign ∈ after.effectivePermissions "rates")) = some true := by decide +kernel
    cases run : takeover.perform id helpDesk with
    | error failure => rw [run] at runs; cases runs
    | ok after =>
        obtain ⟨principal, signedIn, _⟩ := perform_effect run
        rw [run] at runs
        refine ⟨after, principal, signedIn, rfl, fun covered => powerless ?_⟩
        have given := covered.permissions (of_decide_eq_true (Option.some.inj runs))
        rwa [(principal?_some signedIn).2.1] at given
  · intro safe
    obtain ⟨member, alone, held⟩ := safe.permissions "rates" (by decide) .ratesAssign (by decide)
    rw [List.mem_singleton.mp alone] at held
    exact powerless held

end PowerMonitor.Access
