import PowerMonitor.DataReset.Passes

/-! Steps that bring something new: readings, devices that come, return or leave, and operations. -/

set_option autoImplicit false
namespace PowerMonitor.DataReset
open Ingestion Library

/-! ## Device rows alone -/

section Devices
variable {db next : Database}

/-- A device row that a step replaces. It is unmoved, or no active operation has the device and the
new row stays above the finished ones. -/
structure Replaced (db : Database) (id : String) (before after : Sensor) : Prop where
  device : after.store.device = before.store.device
  rows : after.store.dataState.isSome = true
  generation : before.dataGeneration ≤ after.dataGeneration
  boundary : before.resetBoundary ≤ after.resetBoundary
  readings : ∀ raw ∈ after.store.rawReadings, raw ∈ before.store.rawReadings ∨ LetIn before raw
  safe : before.Unmoved after ∨ ∀ operation ∈ db.operations, ∀ participant ∈ operation.participants,
    participant.deviceId = id → ¬ operation.Active ∧ (operation.Committed →
      operation.resetGeneration ≤ after.dataGeneration ∧
      (after.InService → participant.resetBoundary ≤ after.resetBoundary))

theorem Replaced.refl (inv : Invariant db) {id : String} {sensor : Sensor} (found : db.device? id = some sensor) :
    Replaced db id sensor sensor where
  device := rfl
  rows := inv.rows id sensor found
  generation := le_rfl
  boundary := le_rfl
  readings _ member := .inl member
  safe := .inl (.refl sensor)

/-- A row in the same data state is unmoved as far as a reset is concerned. -/
theorem Replaced.unmoved (inv : Invariant db) {id : String} {sensor after : Sensor}
    (found : db.device? id = some sensor) (unmoved : sensor.Unmoved after)
    (readings : ∀ raw ∈ after.store.rawReadings, raw ∈ sensor.store.rawReadings ∨ LetIn sensor raw) :
    Replaced db id sensor after where
  device := unmoved.device
  rows := by
    rw [unmoved.dataState]
    exact inv.rows id sensor found
  generation := unmoved.dataGeneration.ge
  boundary := unmoved.resetBoundary.ge
  readings := readings
  safe := .inl unmoved

theorem replaced_sound (inv : Invariant db) {update : String → Sensor → Sensor}
    (each : ∀ id sensor, db.device? id = some sensor → Replaced db id sensor (update id sensor))
    {operation : DataResetOperation} (member : operation ∈ db.operations) :
    operation.Sound fun id => (db.device? id).map (update id) := by
  have sound := inv.sound operation member
  by_cases active : operation.Active
  · apply sound.untouched
    intro participant inside sensor found
    obtain ⟨old, oldFound, rfl⟩ := Option.map_eq_some_iff.mp found
    refine ⟨old, oldFound, ?_⟩
    cases (each _ old oldFound).safe with
    | inl unmoved => exact unmoved
    | inr ended => exact absurd active (ended operation member participant inside rfl).1
  · apply sound.finished active
    intro done participant inside sensor found
    obtain ⟨old, oldFound, rfl⟩ := Option.map_eq_some_iff.mp found
    cases (each _ old oldFound).safe with
    | inl unmoved =>
        have below := sound.below active done participant inside old oldFound
        rw [unmoved.dataGeneration, unmoved.resetBoundary]
        exact ⟨below.1, fun inService => below.2 (unmoved.inService inService)⟩
    | inr ended => exact (ended operation member participant inside rfl).2 done

theorem devices_preserved (inv : Invariant db) (update : String → Sensor → Sensor)
    (devices : next.devices = (db.updateDevices update).devices) (operations : next.operations = db.operations)
    (sites : ∀ siteId, db.siteGeneration siteId ≤ next.siteGeneration siteId)
    (each : ∀ id sensor, db.device? id = some sensor → Replaced db id sensor (update id sensor)) :
    Preserved db next := by
  have found : ∀ id, next.device? id = (db.device? id).map (update id) := by
    intro id
    rw [Database.device?, devices]
    exact Database.device?_updateDevices
  have sensors : next.device? = fun id => (db.device? id).map (update id) := funext found
  refine ⟨⟨?_, ?_, ?_, ?_, ?_, ?_, ?_⟩, ⟨?_, ?_, ?_, sites⟩⟩
  · rw [devices, Database.keys_updateDevices]
    exact inv.devices
  · rw [operations]
    exact inv.operations
  · rw [operations]
    exact inv.participants
  · intro id sensor present
    rw [found] at present
    obtain ⟨old, oldFound, rfl⟩ := Option.map_eq_some_iff.mp present
    exact (each id old oldFound).rows
  · rw [operations]
    intro operation member participant inside
    obtain ⟨sensor, present, site⟩ := inv.located operation member participant inside
    refine ⟨update participant.deviceId sensor, by rw [found, present]; rfl, ?_⟩
    rw [Sensor.InSite, (each _ sensor present).device]
    exact site
  · rw [operations]
    exact inv.exclusive
  · rw [operations, sensors]
    exact fun operation member => replaced_sound inv each member
  · intro id sensor present
    have replaced := each id sensor present
    exact ⟨update id sensor, by rw [found, present]; rfl, replaced.generation, replaced.boundary⟩
  · rw [operations]
    exact fun operation member => ⟨operation, member, .refl operation⟩
  · intro id sensor present raw member
    rw [found] at present
    obtain ⟨old, oldFound, rfl⟩ := Option.map_eq_some_iff.mp present
    exact ⟨old, oldFound, (each id old oldFound).readings raw member⟩

theorem unchanged_preserved (inv : Invariant db) (devices : next.devices = db.devices)
    (operations : next.operations = db.operations)
    (sites : ∀ siteId, db.siteGeneration siteId ≤ next.siteGeneration siteId) : Preserved db next := by
  apply devices_preserved inv (fun _ sensor => sensor) _ operations sites
  · exact fun _ _ found => .refl inv found
  · rw [updateDevices_id]
    exact devices

theorem updateDevice_preserved (inv : Invariant db) {deviceId : String} {update : Sensor → Sensor}
    (each : ∀ sensor, db.device? deviceId = some sensor → Replaced db deviceId sensor (update sensor)) :
    Preserved db (db.updateDevice deviceId update) := by
  apply devices_preserved inv (fun id sensor => if id = deviceId then update sensor else sensor) rfl rfl
    fun _ => le_rfl
  intro id sensor found
  split
  · next own =>
      subst own
      exact each sensor found
  · exact .refl inv found

/-! ## Devices that leave and readings that arrive -/

theorem decommissionDevice_preserved (inv : Invariant db) (deviceId : String) (revoke : Bool) :
    Preserved db (db.updateDevice deviceId (Sensor.decommission revoke)) := by
  apply updateDevice_preserved inv
  intro sensor found
  apply Replaced.unmoved inv found
  · refine ⟨rfl, rfl, fun inService => ?_, fun _ _ held => ⟨held.highest, held.maximum, held.cursor, held.state, held.stored⟩⟩
    cases inService.2
  · exact fun raw member => .inl member

theorem ingestReadings_preserved (inv : Invariant db) (readingContentHash : Reading → String) (deviceId : String)
    (batch : Batch) (now : Int) :
    Preserved db (db.updateDevice deviceId fun sensor =>
      if sensor.InService then { sensor with store := ingestCall readingContentHash sensor.store (batch, now) }
      else sensor) := by
  apply updateDevice_preserved inv
  intro sensor found
  split
  · next inService =>
      have gated := ingestCall_gated readingContentHash sensor.store (batch, now)
      apply Replaced.unmoved inv found
      · refine ⟨gated.device, gated.dataState, fun _ => inService, fun boundary held under => ?_⟩
        -- A device in service that takes no readings has its gate closed, and the call changes nothing.
        have closed : ¬ sensor.GateOpen := fun opened => held ⟨opened, inService⟩
        have same : ingestCall readingContentHash sensor.store (batch, now) = sensor.store := by
          apply gated.closed
          by_contra none
          apply closed
          intro row member
          by_contra shut
          apply none
          refine ⟨row, member, ?_⟩
          cases flag : row.resetRequiredOnReconnect with
          | true => exact .inr rfl
          | false => exact .inl fun opened => shut ⟨opened, flag⟩
        rw [same]
        exact under
      · intro raw member
        by_cases old : raw ∈ sensor.store.rawReadings
        · exact .inl old
        · exact .inr ⟨inService, gated.stored raw member old⟩
  · exact .refl inv found

end Devices

/-! ## Devices that come and return -/

section Enrollment
variable {db : Database}

theorem installGeneration_siteGeneration {siteId : String} {site : Site} {generation : Nat}
    (newer : db.siteGeneration siteId ≤ generation) (other : String) :
    db.siteGeneration other ≤ (db.installGeneration siteId site generation).siteGeneration other := by
  unfold Database.installGeneration Database.siteGeneration Database.site? at *
  rw [lookup_setKey]
  split
  · next here =>
      rw [here]
      exact newer
  · exact le_rfl

theorem siteGeneration_le_required (siteId : String) :
    db.siteGeneration siteId ≤ db.requiredSiteGeneration siteId := le_max_right _ _

/-- Every committed reset of a site counts for the devices enrolled there. -/
theorem le_requiredSiteGeneration {operation : DataResetOperation} (member : operation ∈ db.operations)
    (done : operation.Committed) : operation.resetGeneration ≤ db.requiredSiteGeneration operation.siteId := by
  apply le_trans _ (le_max_left _ _)
  apply mem_le_foldr_max
  refine List.mem_map.mpr ⟨operation, List.mem_filter.mpr ⟨member, ?_⟩, rfl⟩
  simpa using done

theorem mem_participations {operation : DataResetOperation} {participant : DataResetParticipant}
    (member : operation ∈ db.operations) (inside : participant ∈ operation.participants) :
    (operation, participant) ∈ db.participations participant.deviceId := by
  refine List.mem_flatMap.mpr ⟨operation, member, List.mem_map.mpr ⟨participant, ?_, rfl⟩⟩
  simpa using inside

/-- A device that returns starts above every reset it ever took part in. -/
theorem reenroll_replaced (inv : Invariant db) {deviceId siteId : String} {sensor : Sensor} (now : Int)
    (advertised : Bool) (found : db.device? deviceId = some sensor) (idle : ¬ db.SiteBusy siteId)
    (here : sensor.InSite siteId) :
    Replaced db deviceId sensor (sensor.reenroll now (db.reenrollmentGeneration siteId deviceId sensor)
      (db.reenrollmentBoundary deviceId sensor) advertised) := by
  obtain ⟨row, state⟩ := Option.isSome_iff_exists.mp (inv.rows deviceId sensor found)
  have generation : (sensor.reenroll now (db.reenrollmentGeneration siteId deviceId sensor)
      (db.reenrollmentBoundary deviceId sensor) advertised).dataGeneration =
      db.reenrollmentGeneration siteId deviceId sensor := by
    simp [Sensor.dataGeneration, Sensor.reenroll, state]
  have boundary : (sensor.reenroll now (db.reenrollmentGeneration siteId deviceId sensor)
      (db.reenrollmentBoundary deviceId sensor) advertised).resetBoundary =
      db.reenrollmentBoundary deviceId sensor := by
    simp [Sensor.resetBoundary, Sensor.reenroll, state]
  refine ⟨rfl, by simp [Sensor.reenroll, state], ?_, ?_, fun raw member => .inl member, .inr ?_⟩
  · rw [generation]
    exact (le_max_left _ _).trans ((le_max_right _ _).trans (le_max_right _ _))
  · rw [boundary]
    exact (le_max_left _ _).trans (le_max_right _ _)
  · intro operation member participant inside own
    obtain ⟨row, rowFound, site⟩ := inv.located operation member participant inside
    rw [own, found] at rowFound
    obtain rfl := Option.some.inj rowFound
    have same := site.unique here
    refine ⟨fun active => idle ⟨operation, member, same, active⟩, fun done => ⟨?_, fun _ => ?_⟩⟩
    · rw [generation]
      exact (same ▸ le_requiredSiteGeneration member done).trans ((le_max_left _ _).trans (le_max_right _ _))
    · rw [boundary]
      apply le_trans _ (le_max_left _ _)
      apply mem_le_foldr_max
      exact List.mem_map.mpr ⟨(operation, participant), own ▸ mem_participations member inside, rfl⟩

theorem newSensor_preserved (inv : Invariant db) {id : String} {sensor : Sensor} {next : Database}
    (devices : next.devices = db.devices ++ [(id, sensor)]) (operations : next.operations = db.operations)
    (sites : ∀ siteId, db.siteGeneration siteId ≤ next.siteGeneration siteId)
    (new : ∀ entry ∈ db.devices, entry.1 ≠ id) (row : sensor.store.dataState.isSome = true)
    (empty : sensor.store.rawReadings = []) : Preserved db next := by
  have found : ∀ other, next.device? other = (db.device? other).or (if other = id then some sensor else none) := by
    intro other
    rw [Database.device?, devices, List.lookup_append]
    congr 1
    rw [lookup_cons_eq]
    rfl
  have missing : db.device? id = none := by
    cases present : db.device? id with
    | none => rfl
    | some old => exact absurd rfl (new _ (lookup_mem present))
  have stays : ∀ other old, db.device? other = some old → next.device? other = some old := by
    intro other old present
    rw [found, present]
    rfl
  have origin : ∀ other present, next.device? other = some present →
      db.device? other = some present ∨ (other = id ∧ present = sensor) := by
    intro other present there
    rw [found, Option.or_eq_some_iff] at there
    cases there with
    | inl old => exact .inl old
    | inr fresh =>
        have given := fresh.2
        split at given
        · next own => exact .inr ⟨own, (Option.some.inj given).symm⟩
        · cases given
  refine ⟨⟨?_, ?_, ?_, ?_, ?_, ?_, ?_⟩, ⟨?_, ?_, ?_, sites⟩⟩
  · rw [devices, List.map_append, List.nodup_append]
    refine ⟨inv.devices, List.nodup_singleton id, fun key member other single => ?_⟩
    obtain ⟨entry, inside, rfl⟩ := List.mem_map.mp member
    rw [List.map_singleton, List.mem_singleton] at single
    rw [single]
    exact new entry inside
  · rw [operations]
    exact inv.operations
  · rw [operations]
    exact inv.participants
  · intro other present there
    rcases origin other present there with old | ⟨_, rfl⟩
    · exact inv.rows other present old
    · exact row
  · rw [operations]
    intro operation member participant inside
    obtain ⟨old, oldFound, site⟩ := inv.located operation member participant inside
    exact ⟨old, stays _ old oldFound, site⟩
  · rw [operations]
    exact inv.exclusive
  · rw [operations]
    intro operation member
    apply (inv.sound operation member).untouched
    intro participant inside present there
    obtain ⟨old, oldFound, _⟩ := inv.located operation member participant inside
    rw [Option.mem_def, stays _ old oldFound] at there
    obtain rfl := Option.some.inj there
    exact ⟨old, oldFound, .refl old⟩
  · exact fun other old present => ⟨old, stays other old present, le_rfl, le_rfl⟩
  · rw [operations]
    exact fun operation member => ⟨operation, member, .refl operation⟩
  · intro other present there raw member
    rcases origin other present there with old | ⟨_, rfl⟩
    · exact ⟨present, old, .inl member⟩
    · rw [empty] at member
      cases member

theorem claimEnrollment_preserved (inv : Invariant db) (claim : EnrollmentClaim) (inputs : ClaimInputs) (now : Int) :
    Preserved db ((claimEnrollment db claim inputs now).toOption.getD db) := by
  cases result : claimEnrollment db claim inputs now with
  | error failure => exact .refl inv
  | ok next =>
      unfold claimEnrollment at result
      obtain ⟨_, result⟩ := raiseIf_bind_eq_ok.mp result
      obtain ⟨_, result⟩ := raiseIf_bind_eq_ok.mp result
      dsimp only at result
      obtain ⟨_, result⟩ := raiseIf_bind_eq_ok.mp result
      split at result
      · cases result
      · next siteId site chosen =>
          obtain ⟨_, result⟩ := raiseIf_bind_eq_ok.mp result
          obtain ⟨idle, result⟩ := raiseIf_bind_eq_ok.mp result
          split at result
          · next deviceId sensor existing =>
              obtain ⟨_, result⟩ := raiseIf_bind_eq_ok.mp result
              obtain ⟨recovered, result⟩ := raiseIf_bind_eq_ok.mp result
              obtain ⟨_, result⟩ := raiseIf_bind_eq_ok.mp result
              obtain ⟨_, result⟩ := raiseIf_bind_eq_ok.mp result
              cases result
              have found : db.device? deviceId = some sensor :=
                lookup_of_mem inv.devices (List.mem_of_find?_eq_some existing)
              have here := not_not.mp (not_or.mp recovered).1
              refine devices_preserved inv (fun id other => if id = deviceId then
                  Sensor.reenroll now (db.reenrollmentGeneration siteId deviceId sensor)
                    (db.reenrollmentBoundary deviceId sensor) claim.advertisedResetProtocol.isSome other
                else other) rfl rfl (installGeneration_siteGeneration (siteGeneration_le_required siteId)) ?_
              intro id other present
              split
              · next own =>
                  subst own
                  obtain rfl := Option.some.inj (found.symm.trans present)
                  exact reenroll_replaced inv now _ found idle here
              · exact .refl inv present
          · obtain ⟨_, result⟩ := raiseIf_bind_eq_ok.mp result
            obtain ⟨_, result⟩ := raiseIf_bind_eq_ok.mp result
            obtain ⟨new, result⟩ := raiseIf_bind_eq_ok.mp result
            cases result
            refine newSensor_preserved inv rfl rfl
              (installGeneration_siteGeneration (siteGeneration_le_required siteId)) ?_ rfl rfl
            exact fun entry member same => new ⟨entry, member, same⟩

end Enrollment
end PowerMonitor.DataReset
