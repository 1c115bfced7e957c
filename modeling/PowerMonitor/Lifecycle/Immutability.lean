import PowerMonitor.Lifecycle.Authority

/-! The flags of a version and the content of a used one.

A version is made active by publishing it, which also marks it as used, and a used version is neither edited nor deleted.
Four requests write one of the flags without the others: the seeds are active under another status,
`activate_rate_version` writes the active flag only, a decision on a candidate the status only, and the deletion of a
draft does not look at the mark.
-/

set_option autoImplicit false
namespace PowerMonitor.Lifecycle
open Library Rates
open Assignments (RatePlanStatus RateVersionStatus)

/-- At most one version of a plan is active, and an active version is published and marked as used. -/
structure Flags (library : RateLibrary) : Prop where
  one : ∀ first ∈ library.rateVersions, ∀ second ∈ library.rateVersions, first.ratePlanId = second.ratePlanId →
    first.isActive = true → second.isActive = true → first.id = second.id
  active : ∀ version ∈ library.rateVersions, version.isActive = true →
    version.status = .published ∧ version.immutableAfterUse = true

/-- Used versions are still there, with their content and their mark. -/
def Frozen (library after : RateLibrary) : Prop :=
  ∀ version ∈ library.rateVersions, version.immutableAfterUse = true → ∃ next ∈ after.rateVersions,
    next.id = version.id ∧ next.content = version.content ∧ next.immutableAfterUse = true

theorem Frozen.refl (library : RateLibrary) : Frozen library library :=
  fun version stored used => ⟨version, stored, rfl, rfl, used⟩

theorem Frozen.trans {first second third : RateLibrary} (before : Frozen first second) (after : Frozen second third) :
    Frozen first third := by
  intro version stored used
  obtain ⟨middle, reached, id, content, used⟩ := before version stored used
  obtain ⟨next, kept, sameId, sameContent, used⟩ := after middle reached used
  exact ⟨next, kept, sameId.trans id, sameContent.trans content, used⟩

/-- The condition of a request: nothing is seeded, `activate_rate_version` names a published and used version, no open
candidate of an active version is decided, and no draft that has been used is deleted. -/
def ActionSound (library : RateLibrary) (action : LibraryAction) : Prop :=
  match action with
  | .bootstrap seeds => library.ratePlans = [] → seeds = []
  | .activateRateVersion _ versionId => ∀ version ∈ library.version? versionId,
      version.status = .published ∧ version.immutableAfterUse = true
  | .decideCandidate _ candidateId _ => ∀ candidate ∈ library.candidate? candidateId,
      candidate.status ∈ [Pricing.CandidateStatus.pendingReview, .approved] →
        ∀ versionId ∈ candidate.candidateRateVersionId, ∀ version ∈ library.version? versionId, version.isActive = false
  | .deleteDraftVersion _ versionId => ∀ version ∈ library.version? versionId,
      version.status = .draft → version.immutableAfterUse = false
  | .deleteUnusedRatePlanDraft _ planId _ => ∀ version ∈ library.versionsOf planId,
      version.status = .draft → version.immutableAfterUse = false
  | _ => True

section Tables
variable {library after : RateLibrary}

theorem Linked.row_eq (linked : Linked library) {versionId : String} {version row : RateVersion}
    (found : library.version? versionId = some version) (stored : row ∈ library.rateVersions) (named : row.id = version.id) :
    row = version := List.inj_on_of_nodup_map linked.versionIds stored (version?_mem found) named

theorem Linked.version?_eq (linked : Linked library) {row : RateVersion} (stored : row ∈ library.rateVersions) :
    library.version? row.id = some row := by
  have present : (library.version? row.id).isSome := List.find?_isSome.mpr ⟨row, stored, by simp⟩
  obtain ⟨found, known⟩ := Option.isSome_iff_exists.mp present
  rw [known, linked.row_eq known stored (version?_id known).symm]

/-- What is active afterwards was active before, and is published and used. -/
theorem Flags.of_rows (flags : Flags library) (rows : ∀ row ∈ after.rateVersions, row.isActive = true →
    (∃ old ∈ library.rateVersions, old.isActive = true ∧ old.id = row.id ∧ old.ratePlanId = row.ratePlanId) ∧
      row.status = .published ∧ row.immutableAfterUse = true) : Flags after where
  one := by
    intro first firstIn second secondIn plan firstActive secondActive
    obtain ⟨⟨one, oneIn, oneActive, oneId, onePlan⟩, _⟩ := rows first firstIn firstActive
    obtain ⟨⟨two, twoIn, twoActive, twoId, twoPlan⟩, _⟩ := rows second secondIn secondActive
    rw [← oneId, ← twoId]
    exact flags.one one oneIn two twoIn (by rw [onePlan, twoPlan, plan]) oneActive twoActive
  active := fun row stored active => (rows row stored active).2

/-- A rewritten table, where a row is active only as it was. -/
theorem Flags.of_map (flags : Flags library) {change : RateVersion → RateVersion}
    (table : after.rateVersions = library.rateVersions.map change)
    (keeps : ∀ row ∈ library.rateVersions, (change row).isActive = true → row.isActive = true ∧ (change row).id = row.id ∧
      (change row).ratePlanId = row.ratePlanId ∧ (change row).status = .published ∧ (change row).immutableAfterUse = true) :
    Flags after := by
  refine flags.of_rows fun row stored active => ?_
  rw [table] at stored
  obtain ⟨old, member, rfl⟩ := List.mem_map.mp stored
  obtain ⟨wasActive, id, plan, status, used⟩ := keeps old member active
  exact ⟨⟨old, member, wasActive, id.symm, plan.symm⟩, status, used⟩

/-- The rows of one version are written; it is not active afterwards, or as it was. -/
theorem Flags.of_update (flags : Flags library) {versionId : String} {write : RateVersion → RateVersion}
    (keeps : ∀ row ∈ library.rateVersions, row.id = versionId → (write row).isActive = true →
      row.isActive = true ∧ (write row).id = row.id ∧ (write row).ratePlanId = row.ratePlanId ∧
        (write row).status = .published ∧ (write row).immutableAfterUse = true)
    (table : after.rateVersions = (library.updateVersion versionId write).rateVersions) : Flags after := by
  refine flags.of_map table fun row stored active => ?_
  split at active
  · next here =>
      rw [if_pos here]
      exact keeps row stored here active
  · next other =>
      rw [if_neg other]
      exact ⟨active, rfl, rfl, flags.active row stored active⟩

theorem Flags.of_same (flags : Flags library) (table : after.rateVersions = library.rateVersions) : Flags after :=
  flags.of_rows fun row stored active => by
    rw [table] at stored
    exact ⟨⟨row, stored, active, rfl, rfl⟩, flags.active row stored active⟩

theorem Flags.of_append (flags : Flags library) {version : RateVersion} (inactive : version.isActive = false)
    (table : after.rateVersions = library.rateVersions ++ [version]) : Flags after := by
  refine flags.of_rows fun row stored active => ?_
  rw [table, List.mem_append, List.mem_singleton] at stored
  rcases stored with old | rfl
  · exact ⟨⟨row, old, active, rfl, rfl⟩, flags.active row old active⟩
  · rw [inactive] at active
    cases active

theorem Frozen.of_map {change : RateVersion → RateVersion} (table : after.rateVersions = library.rateVersions.map change)
    (keeps : ∀ row ∈ library.rateVersions, row.immutableAfterUse = true →
      (change row).id = row.id ∧ (change row).content = row.content ∧ (change row).immutableAfterUse = true) :
    Frozen library after := by
  intro version stored used
  exact ⟨change version, table ▸ List.mem_map_of_mem stored, keeps version stored used⟩

theorem Frozen.of_update {versionId : String} {write : RateVersion → RateVersion}
    (table : after.rateVersions = (library.updateVersion versionId write).rateVersions)
    (keeps : ∀ row ∈ library.rateVersions, row.id = versionId → row.immutableAfterUse = true →
      (write row).id = row.id ∧ (write row).content = row.content ∧ (write row).immutableAfterUse = true) :
    Frozen library after := by
  refine .of_map table fun row stored used => ?_
  split
  · next here => exact keeps row stored here used
  · exact ⟨rfl, rfl, used⟩

theorem Frozen.of_append {version : RateVersion} (table : after.rateVersions = library.rateVersions ++ [version]) :
    Frozen library after := by
  intro row stored used
  exact ⟨row, table ▸ List.mem_append_left _ stored, rfl, rfl, used⟩

theorem Frozen.of_delete {doomed : RateVersion → Bool}
    (table : after.rateVersions = (library.deleteVersions doomed).rateVersions)
    (unused : ∀ version ∈ library.rateVersions, doomed version = true → version.immutableAfterUse = false) :
    Frozen library after := by
  intro version stored used
  have spared : doomed version ≠ true := by
    intro dies
    rw [unused version stored dies] at used
    cases used
  have kept : version ∈ library.rateVersions.filter fun row => ¬ doomed row :=
    List.mem_filter.mpr ⟨stored, by simpa using spared⟩
  rw [table]
  exact ⟨_, List.mem_map_of_mem kept, rfl, rfl, used⟩

theorem Flags.of_delete (flags : Flags library) {doomed : RateVersion → Bool}
    (table : after.rateVersions = (library.deleteVersions doomed).rateVersions) : Flags after := by
  refine flags.of_rows fun row stored active => ?_
  rw [table] at stored
  obtain ⟨old, member, rfl⟩ := List.mem_map.mp stored
  have stored := List.mem_of_mem_filter member
  exact ⟨⟨old, stored, active, rfl, rfl⟩, flags.active old stored active⟩

/-! ## Activation -/

theorem publishRow_active {version row : RateVersion} {automatically : Bool}
    (active : (publishRow version automatically row).isActive = true) : row.id = version.id ∨
      (row.ratePlanId ≠ version.ratePlanId ∧ row.isActive = true ∧ publishRow version automatically row = row) := by
  unfold publishRow at active ⊢
  split at active
  · next here => exact .inl here
  · split at active
    · cases active
    · next other =>
        refine .inr ⟨fun plan => other ⟨plan, active⟩, active, ?_⟩
        rw [if_neg ‹_›, if_neg other]

/-- Publishing makes one version of the plan active, with the other two flags. -/
theorem Flags.publish (flags : Flags library) {version : RateVersion} {automatically : Bool}
    (linked : Linked library) {versionId : String} (found : library.version? versionId = some version)
    (table : after.rateVersions = library.rateVersions.map (publishRow version automatically)) : Flags after := by
  have written {row : RateVersion} (here : row.id = version.id) : publishRow version automatically row =
      { row with isActive := true, status := .published, immutableAfterUse := true, automaticallyActivated := automatically } :=
    if_pos here
  constructor
  · intro first firstIn second secondIn plan firstActive secondActive
    rw [table] at firstIn secondIn
    obtain ⟨one, oneIn, rfl⟩ := List.mem_map.mp firstIn
    obtain ⟨two, twoIn, rfl⟩ := List.mem_map.mp secondIn
    rw [(RateLibrary.publishRow_keys version one automatically).2,
      (RateLibrary.publishRow_keys version two automatically).2] at plan
    rw [(RateLibrary.publishRow_keys version one automatically).1, (RateLibrary.publishRow_keys version two automatically).1]
    rcases publishRow_active firstActive with oneHere | ⟨oneElse, oneActive, _⟩
    · rcases publishRow_active secondActive with twoHere | ⟨twoElse, _⟩
      · rw [oneHere, twoHere]
      · rw [linked.row_eq found oneIn oneHere] at plan
        exact absurd plan.symm twoElse
    · rcases publishRow_active secondActive with twoHere | ⟨_, twoActive, _⟩
      · rw [linked.row_eq found twoIn twoHere] at plan
        exact absurd plan oneElse
      · exact flags.one one oneIn two twoIn plan oneActive twoActive
  · intro row stored active
    rw [table] at stored
    obtain ⟨old, member, rfl⟩ := List.mem_map.mp stored
    rcases publishRow_active active with here | ⟨_, wasActive, same⟩
    · rw [written here]
      exact ⟨rfl, rfl⟩
    · rw [same]
      exact flags.active old member wasActive

theorem Frozen.publish {version : RateVersion} {automatically : Bool}
    (table : after.rateVersions = library.rateVersions.map (publishRow version automatically)) : Frozen library after := by
  refine .of_map table fun row _ used => ?_
  unfold publishRow
  split
  · exact ⟨rfl, rfl, rfl⟩
  · split <;> exact ⟨rfl, rfl, used⟩

theorem Flags.flag (flags : Flags library) {version : RateVersion} (linked : Linked library) {versionId : String}
    (found : library.version? versionId = some version) (ready : version.status = .published ∧ version.immutableAfterUse = true) :
    Flags (library.flag version) := by
  constructor
  · intro first firstIn second secondIn plan firstActive secondActive
    obtain ⟨one, oneIn, rfl⟩ := List.mem_map.mp firstIn
    obtain ⟨two, twoIn, rfl⟩ := List.mem_map.mp secondIn
    split at firstActive <;> split at secondActive <;> simp_all
    exact flags.one one oneIn two twoIn plan firstActive secondActive
  · intro row stored active
    obtain ⟨old, member, rfl⟩ := List.mem_map.mp stored
    split at active
    · next mine =>
        rw [if_pos mine]
        rw [linked.row_eq found member (of_decide_eq_true active)]
        exact ready
    · next other =>
        rw [if_neg other]
        exact flags.active old member active

theorem Frozen.flag {version : RateVersion} : Frozen library (library.flag version) := by
  refine .of_map rfl fun row _ used => ?_
  split <;> exact ⟨rfl, rfl, used⟩

/-- The rows after a decision, for a candidate with or without a version. -/
theorem recordDecision_rows {candidate : RateChangeCandidate} {decision : Decision} {principal : Assignments.Principal} :
    (library.recordDecision candidate decision principal).rateVersions = library.rateVersions.map fun row =>
      if candidate.candidateRateVersionId = some row.id then { row with status := decidedStatus decision } else row := by
  unfold RateLibrary.recordDecision
  cases candidate.candidateRateVersionId with
  | none => simp [RateLibrary.updateCandidate]
  | some versionId =>
      refine List.map_congr_left fun row _ => ?_
      simp only [Option.some.injEq, eq_comm]

theorem retireVersion_rows {version : RateVersion} :
    (library.retireVersion version).rateVersions = (library.updateVersion version.id retiredRow).rateVersions := by
  unfold RateLibrary.retireVersion
  dsimp only
  split <;> rfl

end Tables

/-! ## The effects -/

section Effects
variable {library after : RateLibrary} {now : Int} {action : LibraryAction}

theorem Effect.flags (effect : Effect library now action after) (linked : Linked library) (flags : Flags library)
    (sound : ActionSound library action) : Flags after := by
  cases effect with
  | kept => exact flags
  | bootstrapped empty run =>
      rw [sound empty] at run
      cases run
      exact flags
  | planCreated plan version sources bills newPlan _ newVersion fresh => exact flags.of_append fresh.inactive rfl
  | versionCreated version newVersion fresh => exact flags.of_append fresh.inactive rfl
  | edited version plan found draft inactive unused =>
      refine flags.of_update (fun row stored named active => ?_) rfl
      -- An edited version is a draft that is not active.
      cases linked.row_eq found stored named
      rw [show (updatedVersion _ _ version).isActive = version.isActive from rfl, inactive] at active
      cases active
  | published version activatable => exact flags.publish linked activatable.found rfl
  | flagged version found => exact flags.flag linked found (sound version found)
  | retired version found clear =>
      refine flags.of_update (fun row stored named active => ?_) retireVersion_rows
      cases active
  | removed version found =>
      refine flags.of_update (fun row stored named active => ?_) rfl
      cases active
  | restored version found gone =>
      refine flags.of_update (fun row stored named active => ?_) rfl
      -- A version that is gone is not published, hence not active.
      cases linked.row_eq found stored named
      rw [(flags.active version stored active).1] at gone
      simp at gone
  | deletedDraft version _ _ _ => exact flags.of_delete rfl
  | deletedEligible version _ _ => exact flags.of_delete rfl
  | deletedPlan plan _ _ _ _ => exact flags.of_delete rfl
  | planRemoved plan status _ _ => exact flags.of_same rfl
  | planRestored plan _ => exact flags.of_same rfl
  | candidateFailed candidate _ _ _ => exact flags.of_same rfl
  | candidateCreated version candidate created added proposed _ _ =>
      obtain ⟨_, _, _, rfl⟩ := added.written
      exact flags.of_append proposed.inactive rfl
  | candidateActivated version candidate created added proposed _ _ _ activatable =>
      have joined : Linked created ∧ Flags created := by
        obtain ⟨_, _, _, rfl⟩ := added.written
        exact ⟨linked.append_version added.newVersion rfl rfl rfl rfl, flags.of_append proposed.inactive rfl⟩
      exact joined.2.publish joined.1 activatable.found rfl
  | decided candidate found _ pending =>
      refine flags.of_map recordDecision_rows fun row stored active => ?_
      split at active
      · next decided =>
          have known : library.version? row.id = some row := linked.version?_eq stored
          rw [show row.isActive = false from sound candidate found pending row.id decided row known] at active
          cases active
      · next other =>
          rw [if_neg other]
          exact ⟨active, rfl, rfl, flags.active row stored active⟩
  | candidatePublished candidate version _ _ _ activatable => exact flags.publish linked activatable.found rfl
  | assigned => exact flags.of_same rfl
  | ended => exact flags.of_same rfl
  | runQueued => exact flags.of_same rfl
  | runCompleted _ version found =>
      refine flags.of_update (fun row stored named active => ?_) rfl
      exact ⟨active, rfl, rfl, (flags.active row stored active).1, rfl⟩

theorem Effect.frozen (effect : Effect library now action after) (linked : Linked library)
    (sound : ActionSound library action) : Frozen library after := by
  cases effect with
  | kept => exact .refl library
  | bootstrapped empty run =>
      rw [sound empty] at run
      cases run
      exact .refl library
  | planCreated => exact .of_append rfl
  | versionCreated => exact .of_append rfl
  | edited version plan found draft inactive unused =>
      refine .of_update rfl fun row stored named used => ?_
      -- An edited version has not been used.
      cases linked.row_eq found stored named
      rw [unused] at used
      cases used
  | published version activatable => exact .publish rfl
  | flagged version found => exact .flag
  | retired version found clear => exact .of_update retireVersion_rows fun _ _ _ used => ⟨rfl, rfl, used⟩
  | removed version found => exact .of_update rfl fun _ _ _ used => ⟨rfl, rfl, used⟩
  | restored version found gone => exact .of_update rfl fun _ _ _ used => ⟨rfl, rfl, used⟩
  | deletedDraft version found draft _ =>
      refine .of_delete rfl fun row stored dies => ?_
      cases linked.row_eq found stored (of_decide_eq_true dies)
      exact sound version found draft
  | deletedEligible version found eligible =>
      refine .of_delete rfl fun row stored dies => ?_
      cases linked.row_eq found stored (of_decide_eq_true dies)
      exact eligible.2.1
  | deletedPlan plan found _ drafts _ =>
      refine @Frozen.of_delete library _ _ rfl fun row stored dies => ?_
      have draft := drafts row (List.mem_filter.mpr ⟨stored, dies⟩)
      rw [plan?_id found] at dies
      exact sound row (List.mem_filter.mpr ⟨stored, dies⟩) draft
  | planRemoved => exact .refl library
  | planRestored => exact .refl library
  | candidateFailed => exact .refl library
  | candidateCreated version candidate created added _ _ _ =>
      obtain ⟨_, _, _, rfl⟩ := added.written
      exact .of_append rfl
  | candidateActivated version candidate created added _ _ _ _ _ =>
      have joined : Frozen library created := by
        obtain ⟨_, _, _, rfl⟩ := added.written
        exact .of_append rfl
      exact joined.trans (.publish rfl)
  | decided candidate found _ _ =>
      refine .of_map recordDecision_rows fun row _ used => ?_
      split <;> exact ⟨rfl, rfl, used⟩
  | candidatePublished candidate version _ _ _ activatable => exact .publish rfl
  | assigned => exact .refl library
  | ended => exact .refl library
  | runQueued => exact .refl library
  | runCompleted => exact .of_update rfl fun _ _ _ _ => ⟨rfl, rfl, rfl⟩

end Effects

/-! ## Runs -/

/-- All requests of a run meet the condition, each at the library it comes to. -/
def RunSound (start : Clocked) (turns : List Turn) : Prop :=
  ∀ earlier turn later, turns = earlier ++ turn :: later → ActionSound (earlier.foldl advance start).library turn.action

theorem RunSound.tail {start : Clocked} {earlier later : List Turn} (sound : RunSound start (earlier ++ later)) :
    RunSound (earlier.foldl advance start) later := by
  rintro before turn after rfl
  rw [← List.foldl_append]
  exact sound (earlier ++ before) turn after (by simp)

theorem RunSound.head {start : Clocked} {earlier later : List Turn} (sound : RunSound start (earlier ++ later)) :
    RunSound start earlier := by
  rintro before turn after rfl
  exact sound before turn (after ++ later) (by simp)

/-- From a sound library a sound run keeps the flags, and the content of what is used at its start. -/
theorem run_keeps_flags {start : Clocked} (linked : Linked start.library) (flags : Flags start.library) {turns : List Turn}
    (sound : RunSound start turns) :
    Linked (turns.foldl advance start).library ∧ Flags (turns.foldl advance start).library ∧
      Frozen start.library (turns.foldl advance start).library := by
  refine foldl_guarded (P := fun state : Clocked => Linked state.library ∧ Flags state.library ∧
    Frozen start.library state.library) (G := fun (state : Clocked) (turn : Turn) => ActionSound state.library turn.action)
    ⟨linked, flags, .refl _⟩ ?_ sound
  intro state turn ⟨linked, flags, frozen⟩ meets
  have effect := advance_effect state turn
  exact ⟨effect.linked linked, effect.flags linked flags meets, frozen.trans (effect.frozen linked meets)⟩

theorem EmptyLibrary.flags {library : RateLibrary} (empty : EmptyLibrary library) : Flags library := by
  constructor <;> simp [empty.versions]

/-- In a run whose requests meet the condition the flags of the versions agree in every state, and from any state on the
versions that are used keep their content and are not deleted. -/
theorem used_versions_are_frozen {start : Clocked} (empty : EmptyLibrary start.library) {turns : List Turn}
    (sound : RunSound start turns) :
    (∀ earlier later, turns = earlier ++ later → Flags (earlier.foldl advance start).library) ∧
      ∀ earlier middle later, turns = earlier ++ (middle ++ later) →
        Frozen (earlier.foldl advance start).library ((earlier ++ middle).foldl advance start).library := by
  constructor
  · rintro earlier later rfl
    exact (run_keeps_flags empty.linked empty.flags sound.head).2.1
  · rintro earlier middle later rfl
    obtain ⟨linked, flags, _⟩ := run_keeps_flags empty.linked empty.flags sound.head
    rw [List.foldl_append]
    exact (run_keeps_flags linked flags sound.tail.head).2.2

/-- A version is edited, published and superseded. -/
def editedTurns : List Turn :=
  [requested (.createRatePlan owner flatDocument "plan" "v1"), requested (.patchRateVersion owner "v1" flatDocument),
    requested (.activateManagedVersion owner "v1"), requested (.patchRateVersion owner "v1" { flatDocument with planName := "x" }),
    requested (.createPlanVersion owner "plan" "v2"), requested (.activateManagedVersion owner "v2")]

theorem edited_run_frozen :
    Frozen ((editedTurns.take 3).foldl advance newLibrary).library (editedTurns.foldl advance newLibrary).library ∧
      Flags (editedTurns.foldl advance newLibrary).library ∧
      ((editedTurns.foldl advance newLibrary).library.rateVersions.map fun row => (row.status, row.isActive)) =
        [(.superseded, false), (.published, true)] := by
  have sound : RunSound newLibrary editedTurns := by
    simp only [RunSound, editedTurns, forall_splits_cons]
    exact ⟨trivial, trivial, trivial, trivial, trivial, trivial, forall_splits_nil⟩
  have kept := used_versions_are_frozen newLibrary_empty sound
  exact ⟨kept.2 (editedTurns.take 3) (editedTurns.drop 3) [] rfl, kept.1 editedTurns [] (by simp), by decide⟩

/-- `activate_rate_version` on a draft. -/
theorem active_draft_of_flag : EmptyLibrary newLibrary.library ∧ ¬ Flags
    ([requested (.createRatePlan owner flatDocument "plan" "v1"), requested (.activateRateVersion owner "v1")].foldl advance
      newLibrary).library := by
  refine ⟨newLibrary_empty, fun flags => ?_⟩
  have published : ∀ row ∈ ([requested (.createRatePlan owner flatDocument "plan" "v1"),
      requested (.activateRateVersion owner "v1")].foldl advance newLibrary).library.rateVersions,
      row.isActive = true → row.status = .published := fun row stored active => (flags.active row stored active).1
  revert published
  decide

end PowerMonitor.Lifecycle
