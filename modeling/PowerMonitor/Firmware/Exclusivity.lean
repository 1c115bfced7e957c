import PowerMonitor.Firmware.Steps

/-! Exclusive deployments, over every run.

The index of the table keeps a sensor from having two active deployments. Nothing of the kind keeps a rollout group from having
two members under way: each operation has to see to it, and the heartbeat that reactivates an ended deployment does not.
-/

set_option autoImplicit false
namespace PowerMonitor.Firmware
open Library Access

/-- Each sensor has at most one active deployment. -/
def DevicesExclusive (deployments : Deployments) : Prop :=
  ∀ first ∈ deployments.table.rows, ∀ second ∈ deployments.table.rows,
    first.deviceId = second.deviceId → first.Active → second.Active → first = second

/-- Each rollout group has at most one active deployment outside the canary queue. -/
def GroupsExclusive (deployments : Deployments) : Prop :=
  ∀ first ∈ deployments.table.rows, ∀ second ∈ deployments.table.rows, first.rolloutGroupId ≠ none →
    first.rolloutGroupId = second.rolloutGroupId → Operational first.state → Operational second.state → first = second

instance (deployments : Deployments) : Decidable (GroupsExclusive deployments) :=
  inferInstanceAs (Decidable (∀ first ∈ _, ∀ second ∈ _, _))

/-- A heartbeat takes a failed or rolled-back deployment up again while another member of its rollout group is under way. -/
def ReactivatesBeside (catalog : Catalog) (deployments : Deployments) (event : Event) : Prop :=
  match event.action with
  | .heartbeat payload matched _ => ∃ row ∈ deployments.table.rows, row.id = matched ∧
      LatestForHeartbeat deployments payload.deviceId row ∧
      (∃ release ∈ catalog.releases row.releaseId, TargetSupersedesTerminalReport row release payload) ∧
      ¬ deployments.Occupied row ∧ SiblingOperational deployments row
  | _ => False

instance (catalog : Catalog) (deployments : Deployments) (event : Event) :
    Decidable (ReactivatesBeside catalog deployments event) := by
  unfold ReactivatesBeside
  rcases event with ⟨_, _ | _⟩ <;> infer_instance

/-- The row that an event may bring under way. -/
def activatedId (before : Deployments) (event : Event) : Option Nat :=
  match event.action with
  | .retry id _ => some id
  | .promote id _ =>
      (before.table.get? id).bind fun canary =>
        canary.rolloutGroupId.bind fun group => (nextWaiting before group).map FirmwareDeployment.id
  | .heartbeat _ matched _ => some matched
  | _ => none

section Step
variable {catalog : Catalog} {before : Deployments} {event : Event} {old new : FirmwareDeployment}

/-- A row that an event brings under way is the one that it names, and its group was idle. -/
theorem RowChange.activation (change : RowChange catalog before event old new) (listed : old ∈ before.table.rows)
    (guarded : ¬ ReactivatesBeside catalog before event) (operational : Operational new.state) :
    Operational old.state ∨ activatedId before event = some old.id ∧ ¬ SiblingOperational before old := by
  cases change with
  | same unchanged => exact .inl (unchanged ▸ operational)
  | moved moved => exact .inl (moved.operational operational)
  | promoted canary id around action found group member next own alone evidence waiting scheduled =>
      refine .inr ⟨by simp [activatedId, action, found, member, next], ?_⟩
      rintro ⟨asked, held, other, otherListed, same, _, under⟩
      have asked : asked = group := Option.some.inj (held.symm.trans own)
      exact alone other otherListed (asked ▸ same) under
  | retried around action terminal alone => exact .inr ⟨by simp [activatedId, action], alone⟩
  | validated payload resetting action named reported from_ => exact .inl (by rw [from_]; decide)
  | heartbeat payload criticalAlert action latest free release released target observed seen boot outcome =>
      cases seen with
      | entered allowed =>
          rcases allowed with ⟨under, _⟩ | supersedes
          · exact .inl under
          · refine .inr ⟨by simp [activatedId, action], fun sibling => guarded ?_⟩
            simp only [ReactivatesBeside, action]
            exact ⟨old, listed, rfl, latest, ⟨release, released, supersedes⟩, free, sibling⟩
      | restarted stabilizing | continued stabilizing =>
          refine .inl ?_
          revert stabilizing
          cases old.state <;> decide
  | reading readings durable criticalAlert action awaiting => exact .inl (by rw [awaiting]; decide)
  | headlessResult result commandFailed deviceId action evidence boot states =>
      rcases states with same | ⟨ordered, _⟩ | failed
      · exact .inl (same ▸ operational)
      · refine .inl ?_
        revert ordered
        cases old.state <;> decide
      · rw [failed] at operational
        exact absurd operational (by decide)
  | headlessHeartbeat payload criticalAlert action device stabilizing =>
      refine .inl ?_
      revert stabilizing
      cases old.state <;> decide

theorem created_once {after : Deployments} {first second : FirmwareDeployment} (firstListed : first ∈ after.table.rows)
    (secondListed : second ∈ after.table.rows) (firstCreated : Created before event first)
    (secondCreated : Created before event second) (firstUnder : Operational first.state) (secondUnder : Operational second.state) :
    first = second := by
  have leads : ∀ row, Created before event row → Operational row.state → row.rolloutOrder = 0 := by
    intro row created under
    by_contra later
    rw [created.state, if_neg later] at under
    exact absurd under (by decide)
  obtain ⟨payload, around, action, firstPlace⟩ := firstCreated.place
  obtain ⟨payload', around', action', secondPlace⟩ := secondCreated.place
  obtain ⟨rfl, _⟩ := Action.create.inj (action.symm.trans action')
  -- Both stand at the head of the request.
  rw [leads first firstCreated firstUnder] at firstPlace
  rw [leads second secondCreated secondUnder] at secondPlace
  have same : first.deviceId = second.deviceId := by
    rw [(List.mem_zipIdx firstPlace).2.2, (List.mem_zipIdx secondPlace).2.2]
  exact after.oneActive first firstListed second secondListed same firstUnder.1 secondUnder.1

theorem step_groupsExclusive (exclusive : GroupsExclusive before) (guarded : ¬ ReactivatesBeside catalog before event) :
    GroupsExclusive (step catalog before event) := by
  intro first firstListed second secondListed grouped same firstUnder secondUnder
  -- A row of a group that is not new, against one that the event created.
  have fresh : ∀ row other, Created before event row → row.rolloutGroupId ≠ none → other ∈ before.table.rows →
      other.rolloutGroupId = row.rolloutGroupId → False := by
    intro row other created rowGrouped held alike
    rcases created.group with none | new
    · exact rowGrouped none
    · exact Deployments.freshGroup_not_mem held (alike.trans new)
  rcases step_rows first firstListed with ⟨firstOld, firstHeld, firstIdentity, firstChange⟩ | firstCreated <;>
    rcases step_rows second secondListed with ⟨secondOld, secondHeld, secondIdentity, secondChange⟩ | secondCreated
  · apply (step catalog before event).table.eq_of_key firstListed secondListed
    rw [firstIdentity.id, secondIdentity.id]
    by_contra different
    have oldGrouped : firstOld.rolloutGroupId ≠ none := firstIdentity.group ▸ grouped
    have oldSame : firstOld.rolloutGroupId = secondOld.rolloutGroupId :=
      firstIdentity.group.symm.trans (same.trans secondIdentity.group)
    obtain ⟨group, member⟩ := Option.ne_none_iff_exists'.mp oldGrouped
    have secondMember : secondOld.rolloutGroupId = some group := oldSame ▸ member
    -- Either both were under way, or one of them alone was activated.
    rcases firstChange.activation firstHeld guarded firstUnder with firstWas | ⟨firstActivated, firstAlone⟩
    · rcases secondChange.activation secondHeld guarded secondUnder with secondWas | ⟨_, secondAlone⟩
      · exact different (congrArg _ (exclusive firstOld firstHeld secondOld secondHeld oldGrouped oldSame firstWas secondWas))
      · exact secondAlone ⟨group, secondMember, firstOld, firstHeld, member, different, firstWas⟩
    · rcases secondChange.activation secondHeld guarded secondUnder with secondWas | ⟨secondActivated, _⟩
      · exact firstAlone ⟨group, member, secondOld, secondHeld, secondMember, Ne.symm different, secondWas⟩
      · exact different (Option.some.inj (firstActivated.symm.trans secondActivated))
  · exact (fresh second firstOld secondCreated (same ▸ grouped) firstHeld (firstIdentity.group ▸ same)).elim
  · exact (fresh first secondOld firstCreated grouped secondHeld (secondIdentity.group ▸ same.symm)).elim
  · exact created_once firstListed secondListed firstCreated secondCreated firstUnder secondUnder

end Step

theorem initial_groupsExclusive : GroupsExclusive .initial := List.forall_mem_nil _

/-- In every state of a run each sensor has at most one active deployment; as long as no heartbeat takes up an ended deployment
beside another one of its group, each rollout group has at most one under way. -/
theorem deployments_exclusive (catalog : Catalog) (events earlier later : List Event) (split : events = earlier ++ later) :
    DevicesExclusive (reached catalog earlier) ∧
      (Along (step catalog) (fun deployments event => ¬ ReactivatesBeside catalog deployments event) .initial events →
        GroupsExclusive (reached catalog earlier)) := by
  subst split
  refine ⟨(reached catalog earlier).oneActive, fun along => ?_⟩
  apply along.of_append.invariant initial_groupsExclusive
  intro before event
  exact step_groupsExclusive

/-! ## A rollout with two members under way -/

def exampleRequest : FirmwareDeploymentCreate :=
  { firmwareReleaseId := "release", deviceIds := ["first", "second", "third"], distinct := by decide, scheduledAt := 0 }

/-- The first sensor is updated and verified, the second one is promoted and reports a failure, the third one is promoted. -/
def rolloutRun : List Event :=
  [⟨seconds 0, .create exampleRequest exampleSurroundings⟩] ++ offerTo "first" 1 1 ++
    heartbeatsFrom "first" "target-boot" 1 10 ++
    [⟨seconds 150, .readings "first" [⟨7, "target-boot", "2.0.0"⟩] [7] false⟩,
     ⟨seconds 160, .promote 1 exampleSurroundings⟩] ++ offerTo "second" 2 170 ++
    [⟨seconds 180, .report "second"
        (exampleReport "second" 2 .failed failed_reportable "source-boot" 2 (some "ota_download_failed")) false⟩,
     ⟨seconds 190, .promote 1 exampleSurroundings⟩]

/-- The second sensor comes back with the target image after all. -/
def lateTarget : Event := ⟨seconds 200, .heartbeat (targetHeartbeat "second" "late-boot" 2 3) 2 false⟩

theorem rollout_exclusive : GroupsExclusive (reached exampleCatalog rolloutRun) ∧
    (reached exampleCatalog rolloutRun).table.rows.map FirmwareDeployment.state = [.scheduled, .failed, .completed] :=
  ⟨(deployments_exclusive exampleCatalog rolloutRun rolloutRun [] (List.append_nil _).symm).2 (by decide),
    by decide⟩

theorem two_members_under_way : ¬ ∀ (catalog : Catalog) (events : List Event),
    DevicesExclusive (reached catalog events) ∧ GroupsExclusive (reached catalog events) := by
  intro exclusive
  have both : ¬ GroupsExclusive (reached exampleCatalog (rolloutRun ++ [lateTarget])) := by decide +kernel
  exact both (exclusive exampleCatalog _).2

end PowerMonitor.Firmware
