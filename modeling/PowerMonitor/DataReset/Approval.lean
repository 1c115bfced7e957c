import PowerMonitor.DataReset.Arrivals

/-! From a plan to an operation.

The request recomputes the plan and compares fingerprints, so the approved snapshot agrees
with the device rows at the moment the operation starts, whatever happened since the plan
was made.
-/

set_option autoImplicit false
namespace PowerMonitor.DataReset
open Ingestion Library

/-! ## The plan of one device -/

/-- The sequences a sensor reports, from the authenticated probe where the plan relies on one and from
the latest heartbeat otherwise, lie at or below the planned boundary. -/
structure Reported (observation : Observation) (item : DeviceSnapshot) : Prop where
  serverMaximumSeen : ∀ heartbeat ∈ observation.heartbeat, heartbeat.serverMaximumSeenSequence ≤ item.boundary
  probe : item.classification = .connected → ∃ probe, observation.probe = .ok probe ∧
    probe.serverAckSequence ≤ item.boundary ∧ probe.newestSequence ≤ item.boundary ∧
    probe.newestSyncableSequence ≤ item.boundary ∧ probe.sequenceFloor ≤ item.boundary ∧
    probe.nextSequence - 1 ≤ item.boundary ∧ probe.dataGeneration ≤ item.dataGeneration
  heartbeat : item.classification ≠ .connected → ∀ heartbeat ∈ observation.heartbeat,
    heartbeat.serverAckSequence ≤ item.boundary ∧ heartbeat.newest ≤ item.boundary ∧
    heartbeat.sequenceFloor ≤ item.boundary ∧ heartbeat.preparedRemovalFloor ≤ item.boundary ∧
    heartbeat.next - 1 ≤ item.boundary ∧ heartbeat.dataGeneration ≤ item.dataGeneration

/-- What the planner writes down of a device. -/
structure Snapshots (id : String) (sensor : Sensor) (observation : Observation) (item : DeviceSnapshot) : Prop where
  deviceId : item.deviceId = id
  generation : sensor.dataGeneration ≤ item.dataGeneration
  under : sensor.Under item.boundary
  service : initialState item.classification = .notApplicable ↔ ¬ sensor.InService
  limited : item.classification ≠ .revoked → item.classification ≠ .removed → item.boundary ≤ maxResetBoundary
  reported : Reported observation item

/-- A sensor out of service takes no part; only a sensor in service is probed, and it counts as
connected exactly when the probe succeeds. -/
theorem classify_ok {deviceId : String} {sensor : Sensor} {observation : Observation} {observedAt offline : Int}
    {classified : Classified} (ok : classify deviceId sensor observation observedAt offline = .ok classified) :
    (initialState classified.classification = .notApplicable ↔ ¬ sensor.InService) ∧
    (classified.classification = .connected → ∃ probe, observation.probe = .ok probe ∧ classified.probe = some probe) ∧
    (classified.classification ≠ .connected → classified.probe = none) := by
  unfold classify at ok
  dsimp only at ok
  split at ok
  · next revoked =>
      cases ok
      simp [initialState, Sensor.InService, revoked]
  · next valid =>
      split at ok
      · next removed =>
          cases ok
          simp [initialState, Sensor.InService, removed]
      · next stays =>
          have inService : sensor.InService := ⟨by simpa using valid, not_not.mp stays⟩
          split at ok
          · cases ok
            simp [initialState, inService]
          · split at ok
            · cases ok
              simp [initialState, inService]
            · split at ok
              · cases ok
                simp [initialState, inService]
              · cases outcome : observation.probe with
                | ok probe =>
                    rw [outcome] at ok
                    cases ok
                    simp [initialState, inService]
                | error error =>
                    rw [outcome, classifyProbe] at ok
                    obtain ⟨_, ok⟩ := raiseIf_bind_eq_ok.mp ok
                    cases ok
                    split
                    · simp [initialState, inService]
                    · split
                      · simp [initialState, inService]
                      · split <;> simp [initialState, inService]

theorem stored_le_max {readings : List RawReading} {raw : RawReading} (member : raw ∈ readings) :
    raw.sequence ≤ (readings.map RawReading.sequence).max?.getD 0 := by
  have inside : raw.sequence ∈ readings.map RawReading.sequence := List.mem_map.mpr ⟨raw, member, rfl⟩
  cases largest : (readings.map RawReading.sequence).max? with
  | none =>
      rw [List.max?_eq_none_iff.mp largest] at inside
      cases inside
  | some top => exact (List.max?_eq_some_iff.mp largest).2 _ inside

theorem devicePlanSnapshot_ok {deviceId : String} {sensor : Sensor} {observation : Observation}
    {observedAt offline : Int} {item : DeviceSnapshot}
    (ok : devicePlanSnapshot deviceId sensor observation observedAt offline = .ok item) :
    Snapshots deviceId sensor observation item := by
  unfold devicePlanSnapshot at ok
  dsimp only at ok
  obtain ⟨classified, classification, ok⟩ := bind_eq_ok.mp ok
  obtain ⟨limit, ok⟩ := raiseIf_bind_eq_ok.mp ok
  obtain ⟨service, connected, otherwise⟩ := classify_ok classification
  cases ok
  -- Every source is one of the values the boundary is the maximum of.
  refine ⟨rfl, le_max_left _ _, ⟨?_, ?_, ?_, ?_, ?_⟩, service, ?_, ⟨?_, ?_, ?_⟩⟩
  · simp only [le_max_iff, le_refl, true_or, or_true]
  · simp only [le_max_iff, le_refl, true_or, or_true]
  · simp only [le_max_iff, le_refl, true_or]
  · simp only [le_max_iff, le_refl, true_or, or_true]
  · intro raw member
    apply (stored_le_max member).trans
    simp only [le_max_iff, le_refl, true_or, or_true]
  · intro revoked removed
    by_contra exceeds
    exact limit ⟨revoked, removed, not_le.mp exceeds⟩
  · intro heartbeat given
    rw [Option.mem_def.mp given]
    simp only [Option.getD_some, le_max_iff, le_refl, true_or, or_true]
  · intro isConnected
    obtain ⟨probe, answered, used⟩ := connected isConnected
    refine ⟨probe, answered, ?_⟩
    simp only [used, Option.map_some, Option.getD_some, le_max_iff, le_refl, true_or, or_true, and_self]
  · intro unconnected heartbeat given
    simp only [otherwise unconnected, Option.mem_def.mp given, Option.map_none, Option.getD_none, Option.getD_some,
      le_max_iff, le_refl, true_or, or_true, and_self]

/-! ## The plan of a site -/

/-- A snapshot that agrees with the rows of its site. -/
structure Approved (db : Database) (siteId : String) (inputs : PlanInputs) (snapshot : PlanSnapshot) : Prop where
  unique : (snapshot.participants.map DeviceSnapshot.deviceId).Nodup
  each : ∀ item ∈ snapshot.participants, ∃ sensor, db.device? item.deviceId = some sensor ∧
    sensor.InSite siteId ∧ Snapshots item.deviceId sensor (inputs.observations item.deviceId) item
  newer : ∀ item ∈ snapshot.participants, item.dataGeneration < snapshot.resetGeneration
  site : db.siteGeneration siteId < snapshot.resetGeneration

theorem calculatePlanSnapshot_approved {db : Database} (distinct : (db.devices.map Prod.fst).Nodup) {siteId : String}
    {policy : DisconnectedSensorPolicy} {resetAt observedAt : Int} {inputs : PlanInputs} {snapshot : PlanSnapshot}
    (ok : calculatePlanSnapshot db siteId policy resetAt observedAt inputs = .ok snapshot) :
    Approved db siteId inputs snapshot := by
  unfold calculatePlanSnapshot at ok
  obtain ⟨participants, mapped, ok⟩ := bind_eq_ok.mp ok
  obtain ⟨inventory, _, ok⟩ := bind_eq_ok.mp ok
  cases ok
  have aligned : List.Forall₂ (fun entry item => Snapshots entry.1 entry.2 (inputs.observations entry.1) item)
      (db.siteDevices siteId) participants := by
    apply (mapM_forall₂ mapped).imp
    intro entry item step
    exact devicePlanSnapshot_ok step
  have names : participants.map DeviceSnapshot.deviceId = (db.siteDevices siteId).map Prod.fst :=
    forall₂_map_eq (fun _ _ snapshots => snapshots.deviceId) aligned
  refine ⟨?_, fun item inside => ?_, fun item inside => ?_, ?_⟩
  · rw [names]
    exact distinct.sublist (List.filter_sublist.map Prod.fst)
  · obtain ⟨entry, member, snapshots⟩ := forall₂_exists_left aligned inside
    obtain ⟨stored, here⟩ := List.mem_filter.mp member
    refine ⟨entry.2, ?_, by simpa using here, ?_⟩
    · rw [snapshots.deviceId]
      exact lookup_of_mem distinct stored
    · rw [snapshots.deviceId]
      exact snapshots
  · exact Nat.lt_succ_of_le (mem_le_foldr_max _ (List.mem_map.mpr ⟨item, inside, rfl⟩))
  · exact Nat.lt_succ_of_le (le_foldr_max _ _)

/-- What two rows of the same fingerprint share. -/
structure SameMaterial (row item : DeviceSnapshot) : Prop where
  deviceId : row.deviceId = item.deviceId
  classification : row.classification = item.classification
  dataGeneration : row.dataGeneration = item.dataGeneration
  boundary : row.boundary = item.boundary

theorem sameMaterial {row item : DeviceSnapshot} (same : row.material = item.material) : SameMaterial row item := by
  constructor
  · have kept := congrArg DeviceSnapshot.deviceId same
    exact kept
  · have kept := congrArg DeviceSnapshot.classification same
    exact kept
  · have kept := congrArg DeviceSnapshot.dataGeneration same
    exact kept
  · have kept := congrArg DeviceSnapshot.boundary same
    exact kept

/-- A planned row is a current row up to its timestamp. -/
theorem material_origin {current planned : List DeviceSnapshot}
    (rows : current.map DeviceSnapshot.material = planned.map DeviceSnapshot.material) {item : DeviceSnapshot}
    (inside : item ∈ planned) : ∃ row ∈ current, SameMaterial row item := by
  have erased : item.material ∈ current.map DeviceSnapshot.material := by
    rw [rows]
    exact List.mem_map.mpr ⟨item, inside, rfl⟩
  obtain ⟨row, rowInside, same⟩ := List.mem_map.mp erased
  exact ⟨row, rowInside, sameMaterial same⟩

/-- The liveness timestamps a fingerprint leaves out decide nothing. -/
theorem Approved.of_material {db : Database} {siteId : String} {inputs : PlanInputs} {current planned : PlanSnapshot}
    (approved : Approved db siteId inputs current) (same : current.material = planned.material) :
    Approved db siteId inputs planned := by
  have rows : current.participants.map DeviceSnapshot.material =
      planned.participants.map DeviceSnapshot.material := by
    have kept := congrArg PlanSnapshot.participants same
    exact kept
  have generation : current.resetGeneration = planned.resetGeneration := by
    have kept := congrArg PlanSnapshot.resetGeneration same
    exact kept
  refine ⟨?_, fun item inside => ?_, fun item inside => ?_, ?_⟩
  · have names := congrArg (List.map DeviceSnapshot.deviceId) rows
    rw [List.map_map, List.map_map] at names
    have kept : planned.participants.map DeviceSnapshot.deviceId = current.participants.map DeviceSnapshot.deviceId :=
      names.symm
    rw [kept]
    exact approved.unique
  · obtain ⟨row, rowInside, kept⟩ := material_origin rows inside
    obtain ⟨sensor, found, here, snapshots⟩ := approved.each row rowInside
    rw [kept.deviceId] at found snapshots
    refine ⟨sensor, found, here, rfl, ?_, ?_, ?_, ?_, ⟨?_, ?_, ?_⟩⟩
    · rw [← kept.dataGeneration]
      exact snapshots.generation
    · rw [← kept.boundary]
      exact snapshots.under
    · rw [← kept.classification]
      exact snapshots.service
    · rw [← kept.classification, ← kept.boundary]
      exact snapshots.limited
    · rw [← kept.boundary]
      exact snapshots.reported.serverMaximumSeen
    · rw [← kept.classification, ← kept.boundary, ← kept.dataGeneration]
      exact snapshots.reported.probe
    · rw [← kept.classification, ← kept.boundary, ← kept.dataGeneration]
      exact snapshots.reported.heartbeat
  · obtain ⟨row, rowInside, kept⟩ := material_origin rows inside
    rw [← kept.dataGeneration, ← generation]
    exact approved.newer row rowInside
  · rw [← generation]
    exact approved.site

/-! ## The request -/

section Request
variable {Digest : Type} [DecidableEq Digest] {canonicalSha256 : Canonical → Digest} {db : Database}

/-- An operation that has just been created, with the plan it was approved for. -/
structure Created (db : Database) (inputs : PlanInputs) (operation : DataResetOperation) : Prop where
  shape : ∃ id plan key request, operation = newOperation id plan key request
  approved : Approved db operation.siteId inputs operation.plan.planSnapshot
  newId : ∀ other ∈ db.operations, other.id ≠ operation.id
  idle : ¬ db.SiteBusy operation.siteId

/-- The fingerprints agree, so the approved snapshot describes the rows of this moment. -/
theorem revalidatePlan_approved (injective : Function.Injective canonicalSha256)
    (distinct : (db.devices.map Prod.fst).Nodup) {plan : DataResetPlan} {now : Int} {inputs : PlanInputs}
    (ok : revalidatePlan canonicalSha256 db plan now inputs = .ok ()) :
    Approved db plan.siteId inputs plan.planSnapshot := by
  rw [revalidatePlan] at ok
  obtain ⟨_, ok⟩ := raiseIf_bind_eq_ok.mp ok
  obtain ⟨_, ok⟩ := raiseIf_bind_eq_ok.mp ok
  obtain ⟨current, calculated, ok⟩ := bind_eq_ok.mp ok
  have fingerprints := not_not.mp (raiseIf_eq_ok.mp ok)
  have same : current.material = plan.planSnapshot.material := by
    have hashed := injective fingerprints
    injection hashed
  exact (calculatePlanSnapshot_approved distinct calculated).of_material same

theorem mapError_eq_ok {ε ε' α : Type} {f : ε → ε'} {result : Except ε α} {value : α}
    (ok : result.mapError f = .ok value) : result = .ok value := by
  cases result with
  | error failure => cases ok
  | ok found =>
      cases ok
      rfl

theorem createResetOperation_ok (injective : Function.Injective canonicalSha256)
    (distinct : (db.devices.map Prod.fst).Nodup) {id key : String} {request : ExecutionRequest} {now : Int}
    {inputs : PlanInputs} {next : Database}
    (ok : createResetOperation canonicalSha256 db id key request now inputs = .ok next) :
    next = db ∨ ∃ operation, next = db.startOperation operation ∧ Created db inputs operation := by
  unfold createResetOperation at ok
  split at ok
  · cases ok
  · next plan _ =>
      dsimp only at ok
      obtain ⟨_, _, ok⟩ := bind_eq_ok.mp ok
      split at ok
      · obtain ⟨_, ok⟩ := raiseIf_bind_eq_ok.mp ok
        cases ok
        exact .inl rfl
      · obtain ⟨_, revalidated, ok⟩ := bind_eq_ok.mp ok
        obtain ⟨_, _, ok⟩ := bind_eq_ok.mp ok
        obtain ⟨_, unique, ok⟩ := bind_eq_ok.mp ok
        cases ok
        obtain ⟨newId, unique⟩ := raiseIf_bind_eq_ok.mp unique
        obtain ⟨_, unique⟩ := raiseIf_bind_eq_ok.mp unique
        refine .inr ⟨_, rfl, ⟨_, _, _, _, rfl⟩, ?_, fun other member same => newId ⟨other, member, same⟩,
          raiseIf_eq_ok.mp unique⟩
        exact revalidatePlan_approved injective distinct (mapError_eq_ok revalidated)

end Request

/-! ## The start of an operation -/

section Start
variable {db : Database} {inputs : PlanInputs} {operation : DataResetOperation}

/-- A device enters an operation in its old generation, behind a closed gate if it is in service. -/
theorem enterOperation_entered {operationId : String} {item : DeviceSnapshot} {sensor : Sensor}
    (row : sensor.store.dataState.isSome = true)
    (service : initialState item.classification = .notApplicable ↔ ¬ sensor.InService) :
    sensor.Keeps (sensor.enterOperation operationId item) ∧
    (sensor.enterOperation operationId item).dataGeneration = sensor.dataGeneration ∧
    (∀ boundary, sensor.Under boundary → (sensor.enterOperation operationId item).Under boundary) ∧
    ¬ ((sensor.enterOperation operationId item).GateOpen ∧ (sensor.enterOperation operationId item).InService) := by
  obtain ⟨state, present⟩ := Option.isSome_iff_exists.mp row
  have same : ({ sensor with store := { sensor.store with
      dataState := some (sensor.store.dataState.getD { dataGeneration := item.dataGeneration }) } } : Sensor) =
      sensor := by
    rw [present, Option.getD_some, ← present]
  unfold Sensor.enterOperation
  dsimp only
  rw [same]
  split
  · next away =>
      have outOfService := service.mp away
      refine ⟨Sensor.keeps_openGate, Sensor.dataGeneration_openGate, fun _ under => under.openGate, fun passes => ?_⟩
      exact outOfService (Sensor.keeps_openGate.inService.mp passes.2)
  · have kept := @Sensor.keeps_setGate sensor
    have closed : ¬ (sensor.setGate (if item.classification = .connected then .preparing else .pendingReconnect)
        (decide (item.classification ≠ .connected))).GateOpen := by
      apply Sensor.closed_setGate row
      by_cases connected : item.classification = .connected
      · exact .inl (by simp [connected])
      · exact .inr (by simp [connected])
    refine ⟨⟨rfl, rfl, rfl, (kept _ _).rows, (kept _ _).boundary, fun _ member => member⟩,
      Sensor.dataGeneration_setGate _ _, fun _ under => ?_, fun passes => closed passes.1⟩
    have held := under.setGate (if item.classification = .connected then .preparing else .pendingReconnect)
      (decide (item.classification ≠ .connected))
    exact ⟨held.highest, held.maximum, held.cursor, held.state, held.stored⟩

/-- The device rows a new operation leaves. -/
def Entered (operation : DataResetOperation) (id : String) (sensor : Sensor) : Sensor :=
  match operation.plan.planSnapshot.participants.find? fun snapshot => snapshot.deviceId = id with
  | some snapshot => sensor.enterOperation operation.id snapshot
  | none => sensor

/-- A device of the plan, with what the plan says of it. -/
theorem entered_cases (created : Created db inputs operation) {id : String} {sensor : Sensor}
    (found : db.device? id = some sensor) :
    (Entered operation id sensor = sensor ∧
      ∀ item ∈ operation.plan.planSnapshot.participants, item.deviceId ≠ id) ∨
    ∃ item ∈ operation.plan.planSnapshot.participants, item.deviceId = id ∧
      Entered operation id sensor = sensor.enterOperation operation.id item ∧ sensor.InSite operation.siteId ∧
      Snapshots id sensor (inputs.observations id) item := by
  unfold Entered
  split
  · next item chosen =>
      have named : item.deviceId = id := by simpa using List.find?_some chosen
      have inside := List.mem_of_find?_eq_some chosen
      obtain ⟨row, rowFound, here, snapshots⟩ := created.approved.each item inside
      rw [named] at rowFound snapshots
      obtain rfl := Option.some.inj (found.symm.trans rowFound)
      exact .inr ⟨item, inside, named, rfl, here, snapshots⟩
  · next missing =>
      refine .inl ⟨rfl, fun item inside same => ?_⟩
      have other := List.find?_eq_none.mp missing item inside
      simp [same] at other

theorem entered_replaced (inv : Invariant db) (created : Created db inputs operation) {id : String} {sensor : Sensor}
    (found : db.device? id = some sensor) : Replaced db id sensor (Entered operation id sensor) := by
  rcases entered_cases created found with ⟨same, _⟩ | ⟨item, _, _, moved, here, snapshots⟩
  · rw [same]
    exact .refl inv found
  · have row := inv.rows id sensor found
    obtain ⟨keeps, generation, _, _⟩ := @enterOperation_entered operation.id item sensor row snapshots.service
    rw [moved]
    refine ⟨keeps.device, keeps.rows row, generation.ge, keeps.boundary, fun raw member => .inl (keeps.readings raw member),
      .inr ?_⟩
    intro other member participant inside own
    obtain ⟨held, heldFound, site⟩ := inv.located other member participant inside
    rw [own, found] at heldFound
    obtain rfl := Option.some.inj heldFound
    have inactive : ¬ other.Active := fun active => created.idle ⟨other, member, site.unique here, active⟩
    refine ⟨inactive, fun done => ?_⟩
    have below := (inv.sound other member).below inactive done participant inside sensor (own ▸ found)
    exact ⟨below.1.trans generation.ge,
      fun inService => (below.2 (keeps.inService.mp inService)).trans keeps.boundary⟩

theorem Created.participants_eq (created : Created db inputs operation) :
    operation.participants = operation.plan.planSnapshot.participants.map
      (initialParticipant operation.plan.planSnapshot.resetGeneration) ∧
    operation.resetGeneration = operation.plan.planSnapshot.resetGeneration ∧ ¬ operation.Committed ∧
    operation.Active := by
  obtain ⟨id, plan, key, request, rfl⟩ := created.shape
  exact ⟨rfl, rfl, by simp [DataResetOperation.Committed, newOperation], rfl⟩

theorem created_sound (inv : Invariant db) (created : Created db inputs operation) :
    operation.Sound fun id => (db.device? id).map (Entered operation id) := by
  obtain ⟨participants, resetGeneration, fresh, _⟩ := created.participants_eq
  have origin : ∀ participant ∈ operation.participants, ∃ item ∈ operation.plan.planSnapshot.participants,
      participant = initialParticipant operation.plan.planSnapshot.resetGeneration item := by
    intro participant inside
    rw [participants] at inside
    obtain ⟨item, itemInside, same⟩ := List.mem_map.mp inside
    exact ⟨item, itemInside, same.symm⟩
  apply DataResetOperation.Sound.of_uncommitted fresh
  · intro participant inside
    obtain ⟨item, itemInside, rfl⟩ := origin participant inside
    obtain ⟨_, _, _, snapshots⟩ := created.approved.each item itemInside
    exact snapshots.limited
  · intro _ participant inside sensor found
    obtain ⟨item, itemInside, rfl⟩ := origin participant inside
    obtain ⟨old, oldFound, rfl⟩ := Option.map_eq_some_iff.mp found
    rcases entered_cases created oldFound with ⟨_, outside⟩ | ⟨chosen, chosenInside, named, moved, _, snapshots⟩
    · exact absurd rfl (outside item itemInside)
    · have same : chosen = item := List.inj_on_of_nodup_map created.approved.unique chosenInside itemInside named
      rw [same] at moved snapshots
      obtain ⟨_, generation, under, shut⟩ :=
        @enterOperation_entered operation.id item old (inv.rows _ old oldFound) snapshots.service
      rw [moved]
      refine ⟨?_, shut, under _ snapshots.under⟩
      rw [generation, resetGeneration]
      exact snapshots.generation.trans_lt (created.approved.newer item itemInside)

theorem startOperation_preserved (inv : Invariant db) (created : Created db inputs operation) :
    Preserved db (db.startOperation operation) := by
  obtain ⟨participants, _, _, active⟩ := created.participants_eq
  have entered : Preserved db (db.updateDevices (Entered operation)) :=
    devices_preserved inv (Entered operation) rfl rfl (fun _ => le_rfl) fun _ _ found => entered_replaced inv created found
  have found : ∀ id, (db.startOperation operation).device? id = (db.device? id).map (Entered operation id) := by
    intro id
    have updated : (db.updateDevices (Entered operation)).device? id = (db.device? id).map (Entered operation id) :=
      Database.device?_updateDevices
    exact updated
  have member : ∀ other ∈ (db.startOperation operation).operations, other ∈ db.operations ∨ other = operation := by
    intro other inside
    exact (List.mem_append.mp inside).imp_right List.mem_singleton.mp
  have alone : ∀ other ∈ db.operations, other.Active → other.siteId ≠ operation.siteId :=
    fun other inside otherActive same => created.idle ⟨other, inside, same, otherActive⟩
  refine ⟨⟨entered.invariant.devices, ?_, ?_, entered.invariant.rows, ?_, ?_, ?_⟩, ⟨entered.advances.devices, ?_,
    entered.advances.readings, fun _ => le_rfl⟩⟩
  · refine (List.map_append ..).symm ▸ List.nodup_append.mpr ⟨inv.operations, List.nodup_singleton _, ?_⟩
    intro id inside other single
    obtain ⟨old, oldInside, rfl⟩ := List.mem_map.mp inside
    rw [List.mem_singleton.mp single]
    exact created.newId old oldInside
  · intro other inside
    cases member other inside with
    | inl old => exact inv.participants other old
    | inr new =>
        rw [new, participants, List.map_map]
        exact created.approved.unique
  · intro other inside participant part
    cases member other inside with
    | inl old => exact entered.invariant.located other old participant part
    | inr new =>
        rw [new] at part ⊢
        rw [participants] at part
        obtain ⟨item, itemInside, rfl⟩ := List.mem_map.mp part
        obtain ⟨sensor, present, here, _⟩ := created.approved.each item itemInside
        refine ⟨Entered operation item.deviceId sensor, by rw [found]; exact congrArg _ present, ?_⟩
        rw [Sensor.InSite, (entered_replaced inv created present).device]
        exact here
  · intro first firstInside second secondInside firstActive secondActive same
    cases member first firstInside with
    | inl firstOld =>
        cases member second secondInside with
        | inl secondOld => exact inv.exclusive first firstOld second secondOld firstActive secondActive same
        | inr secondNew => exact absurd (secondNew ▸ same) (alone first firstOld firstActive)
    | inr firstNew =>
        cases member second secondInside with
        | inl secondOld => exact absurd (firstNew ▸ same.symm) (alone second secondOld secondActive)
        | inr secondNew => rw [firstNew, secondNew]
  · intro other inside
    cases member other inside with
    | inl old => exact entered.invariant.sound other old
    | inr new =>
        rw [new, funext found]
        exact created_sound inv created
  · intro other inside
    exact ⟨other, List.mem_append_left _ inside, .refl other⟩

end Start
end PowerMonitor.DataReset
