import PowerMonitor.History.Agreement

/-! When the coarse strategy refuses to answer.

The check compares each reading with the previous one of its sensor only. Readings have positive length, so an overlap of
any two shows up between neighbours.
-/

set_option autoImplicit false
namespace PowerMonitor.History
open Library Rates

/-- A reading that ends before the next one of its sensor starts. -/
def RawReading.Before (first second : RawReading) : Prop := first.intervalEnd ≤ second.intervalStart

instance : Trans RawReading.Before RawReading.Before RawReading.Before where
  trans {first second third} before after := by
    have positive := second.validInterval
    unfold RawReading.Before at *
    omega

theorem pairwise_any_eq_false {readings : List RawReading} :
    ((pairwise readings).any fun pair => pair.2.intervalStart < pair.1.intervalEnd) = false ↔
      readings.IsChain RawReading.Before := by
  induction readings with
  | nil => simp [pairwise]
  | cons first rest ih =>
      cases rest with
      | nil => simp [pairwise]
      | cons second rest =>
          rw [pairwise_cons_cons, List.any_cons, Bool.or_eq_false_iff, ih, List.isChain_cons_cons]
          simp [RawReading.Before]

section Query
variable (store : Store) (deviceIds : List String) (snapshotAt : Int)

/-- The readings of the sensors in a time range. -/
def Store.inRange (start finish : Int) : List RawReading :=
  (store.visible deviceIds snapshotAt).filter fun raw => raw.Overlaps start finish

/-- The readings of one sensor are apart exactly when each ends before the next one starts. -/
theorem chain_iff_apart {readings : List RawReading} {device : String} (mine : ∀ raw ∈ readings, raw.deviceId = device) :
    (sortByKey RawReading.lagKey readings).IsChain RawReading.Before ↔ ReadingsApart readings := by
  have same : (sortByKey RawReading.lagKey readings).Perm readings := sortByKey_perm readings
  rw [List.isChain_iff_pairwise]
  constructor
  · intro before
    have apart : ReadingsApart (sortByKey RawReading.lagKey readings) := before.imp fun follows _ => .inl follows
    exact apart.perm same
  · intro apart
    have separate := (ReadingsApart.perm apart same.symm).and (sortByKey_sorted readings)
    refine separate.imp_of_mem fun {first second} firstListed secondListed follows => ?_
    have alike := (mine first (mem_sortByKey.mp firstListed)).trans (mine second (mem_sortByKey.mp secondListed)).symm
    have starts : first.intervalStart ≤ second.intervalStart :=
      (Prod.Lex.le_iff.mp follows.2).elim (fun less => less.le) fun equal => equal.1.le
    have positive := second.validInterval
    have either := follows.1 alike
    unfold RawReading.Before
    omega

/-- The check finds an overlap exactly when two rows of one sensor in the range overlap. -/
theorem coarseSourceHasOverlap_iff (start finish : Int) :
    store.coarseSourceHasOverlap deviceIds snapshotAt start finish = false ↔
      ReadingsApart (store.inRange deviceIds snapshotAt start finish) := by
  have sensor (device : String) : ((store.visible deviceIds snapshotAt).filter fun raw =>
      raw.deviceId = device ∧ raw.Overlaps start finish) =
        (store.inRange deviceIds snapshotAt start finish).filter fun raw => raw.deviceId = device := by
    rw [Store.inRange, List.filter_filter]
    exact List.filter_congr fun raw _ => by rw [Bool.decide_and]
  have each : store.coarseSourceHasOverlap deviceIds snapshotAt start finish = false ↔ ∀ device ∈ deviceIds,
      ReadingsApart ((store.inRange deviceIds snapshotAt start finish).filter fun raw => raw.deviceId = device) := by
    rw [Store.coarseSourceHasOverlap, List.any_eq_false]
    refine forall₂_congr fun device _ => ?_
    rw [Bool.not_eq_true, pairwise_any_eq_false, sensor]
    exact @chain_iff_apart _ device fun raw kept => of_decide_eq_true (List.mem_filter.mp kept).2
  rw [each]
  constructor
  · intro apart
    refine List.pairwise_iff_forall_sublist.mpr fun {first second} pair alike => ?_
    have seen : first ∈ store.visible deviceIds snapshotAt :=
      (List.mem_filter.mp (pair.subset List.mem_cons_self)).1
    have listed : first.deviceId ∈ deviceIds := (of_decide_eq_true (List.mem_filter.mp seen).2).1
    have kept := pair.filter fun raw => raw.deviceId = first.deviceId
    have both : [first, second].filter (fun raw => raw.deviceId = first.deviceId) = [first, second] := by
      simp [alike]
    rw [both] at kept
    exact List.pairwise_iff_forall_sublist.mp (apart first.deviceId listed) kept alike
  · exact fun apart device _ => apart.filter _

/-- The coarse strategy answers exactly when no two readings of one sensor in the queried range overlap. -/
theorem coarse_answers_iff (points : List Int) (plan : HistoryExecutionPlan) (accumulators : Accumulators) :
    (∃ coarse, store.loadCoarseMeasurements deviceIds points plan snapshotAt accumulators = .ok coarse) ↔
      ReadingsApart (store.inRange deviceIds snapshotAt (points.head?.getD 0) (points.getLast?.getD 0)) := by
  rw [← coarseSourceHasOverlap_iff, Store.loadCoarseMeasurements]
  by_cases none : deviceIds = []
  · rw [if_pos none]
    exact iff_of_true ⟨_, rfl⟩ (by rw [Store.coarseSourceHasOverlap, none]; rfl)
  · rw [if_neg none]
    cases store.coarseSourceHasOverlap deviceIds snapshotAt (points.head?.getD 0) (points.getLast?.getD 0) with
    | false => exact iff_of_true ⟨_, rfl⟩ rfl
    | true => exact iff_of_false (fun answered => by obtain ⟨_, returned⟩ := answered; cases returned) (by simp)

end Query
end PowerMonitor.History
