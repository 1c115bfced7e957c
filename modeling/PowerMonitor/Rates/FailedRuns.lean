import PowerMonitor.Rates.ReadingOrder
import PowerMonitor.Rates.Recalculation

/-! What a pass leaves behind of the runs that fail.

The rows of an interval are added before the next interval is looked at, and the one commit at the end of a pass keeps
what was added. A tiered run that stops at an interval without segments therefore leaves the rows of those before it.
-/

set_option autoImplicit false
namespace PowerMonitor.Rates
open Library Calendar

/-! ## The whole interval list -/

namespace JobInputs
variable (inputs : JobInputs) (keys : CostRunKeys)

/-- The energy rows of one interval. -/
def energyRows (engine : RateEngine) (interval : NormalizedInterval) : List CostIntervalResult :=
  if inputs.plan.pricingModel.isTiered then (tierRows inputs.segments interval).getD [] else engine.rowsOf interval

/-- The rows are those of all selected intervals, each of which has some, and of the account. -/
def WholeRows (rows : List CostIntervalResult) : Prop :=
  ∃ engine account, RateEngine.construct inputs.plan inputs.zone = .ok engine ∧
    (∀ interval ∈ inputs.selected keys, inputs.energyRows engine interval ≠ []) ∧
    engine.accountRows inputs.terms keys.inputStart keys.inputEnd (totalEnergy (inputs.selected keys))
      (if inputs.plan.pricingModel.isTiered then
        some (totalCost ((inputs.selected keys).flatMap (inputs.energyRows engine))) else none) = .ok account ∧
    rows = (inputs.selected keys).flatMap (inputs.energyRows engine) ++ account

/-- Some selected interval of a tiered plan has no segments to take its cost from. -/
def LacksSegments : Prop := inputs.plan.pricingModel.isTiered = true ∧
  ∃ interval ∈ inputs.selected keys, tierRows inputs.segments interval = none

/-- If some interval has no segments, then the first has none. -/
def FailsFirst : Prop := inputs.LacksSegments keys →
  ∃ first ∈ (inputs.selected keys).head?, tierRows inputs.segments first = none

end JobInputs

theorem tieredRows_missing_iff {segments : List TierSegment} {selected : List NormalizedInterval} :
    (tieredRows segments selected).2 = true ↔ ∃ interval ∈ selected, tierRows segments interval = none := by
  induction selected with
  | nil => simp [tieredRows]
  | cons interval rest ih =>
      cases rows : tierRows segments interval with
      | none => simp [tieredRows, rows]
      | some own => simp [tieredRows, rows, ih]

theorem tieredRows_whole {segments : List TierSegment} {selected : List NormalizedInterval}
    (priced : (tieredRows segments selected).2 = false) :
    (tieredRows segments selected).1 = selected.flatMap fun interval => (tierRows segments interval).getD [] := by
  induction selected with
  | nil => rfl
  | cons interval rest ih =>
      cases rows : tierRows segments interval with
      | none => simp [tieredRows, rows] at priced
      | some own =>
          simp only [tieredRows, rows] at priced ⊢
          rw [ih priced, List.flatMap_cons, rows, Option.getD_some]

namespace JobInputs
variable {inputs : JobInputs} {keys : CostRunKeys} {result : JobResult} {rows more : List CostIntervalResult}

theorem WholeRows.unique (first : inputs.WholeRows keys rows) (second : inputs.WholeRows keys more) : rows = more := by
  obtain ⟨engine, account, built, -, charged, rfl⟩ := first
  obtain ⟨engine', account', built', -, charged', rfl⟩ := second
  obtain rfl : engine = engine' := Except.ok.inj (built.symm.trans built')
  obtain rfl : account = account' := Except.ok.inj (charged.symm.trans charged')
  rfl

theorem intervalRows_ne_nil {engine : RateEngine} (untiered : engine.plan.pricingModel.isTiered = false)
    {interval : NormalizedInterval} (priced : ∃ rows, engine.intervalRows interval = .ok rows) :
    engine.rowsOf interval ≠ [] := by
  obtain ⟨rows, priced⟩ := priced
  rw [RateEngine.rowsOf, priced]
  obtain ⟨calculation, calculated, done⟩ := bind_eq_ok.mp priced
  cases done
  simp [RateEngine.slices_ne_nil untiered calculated]

/-- A calculation completes with the rows of the whole list, or fails for want of segments. -/
theorem calculate_spec (run : inputs.calculate keys = .ok result) :
    (result.completed = true → inputs.WholeRows keys result.rows ∧ ¬ inputs.LacksSegments keys) ∧
      (result.completed = false → inputs.LacksSegments keys) := by
  obtain ⟨engine, built, run⟩ := bind_eq_ok.mp run
  have plan := (construct_eq_ok.mp built).1
  unfold RateEngine.costJob at run
  dsimp only at run
  have chosen : selectIntervals inputs.devices inputs.intervals keys.inputStart keys.inputEnd = inputs.selected keys := rfl
  rw [plan, chosen] at run
  cases tiered : inputs.plan.pricingModel.isTiered with
  | true =>
      rw [if_pos tiered] at run
      have missing := @tieredRows_missing_iff inputs.segments (inputs.selected keys)
      have whole := @tieredRows_whole inputs.segments (inputs.selected keys)
      rcases shape : tieredRows inputs.segments (inputs.selected keys) with ⟨rows, lacks⟩
      rw [shape] at run missing whole
      cases lacks with
      | true =>
          cases run
          exact ⟨nofun, fun _ => ⟨tiered, missing.mp rfl⟩⟩
      | false =>
          obtain ⟨account, charged, done⟩ := bind_eq_ok.mp run
          cases done
          have all := whole rfl
          dsimp only at all
          have own : (inputs.selected keys).flatMap (inputs.energyRows engine) = rows := by
            rw [all]
            congr 1
            funext interval
            rw [energyRows, if_pos tiered]
          have none : ¬ ∃ interval ∈ inputs.selected keys, tierRows inputs.segments interval = none := by
            rw [← missing]
            exact Bool.false_ne_true
          refine ⟨fun _ => ⟨⟨engine, account, built, ?_, ?_, by rw [own]⟩, fun lacks => none lacks.2⟩, nofun⟩
          · intro interval member
            rw [energyRows, if_pos tiered]
            cases priced : tierRows inputs.segments interval with
            | none => exact absurd ⟨interval, member, priced⟩ none
            | some own => exact tierRows_ne_nil priced
          · rw [if_pos tiered, own]
            exact charged
  | false =>
      rw [if_neg (by rw [tiered]; decide)] at run
      obtain ⟨rows, priced, run⟩ := bind_eq_ok.mp run
      obtain ⟨account, charged, done⟩ := bind_eq_ok.mp run
      cases done
      have untiered : engine.plan.pricingModel.isTiered = false := plan ▸ tiered
      have own : (inputs.selected keys).flatMap (inputs.energyRows engine) = rows.flatten := by
        rw [RateEngine.mapM_rowsOf priced, List.flatMap]
        congr 2
        funext interval
        rw [energyRows, if_neg (by rw [tiered]; decide)]
      refine ⟨fun _ => ⟨⟨engine, account, built, ?_, ?_, by rw [own]⟩, ?_⟩, nofun⟩
      · intro interval member
        rw [energyRows, if_neg (by rw [tiered]; decide)]
        obtain ⟨rows, _, single⟩ := mapM_mem priced member
        exact intervalRows_ne_nil untiered ⟨rows, single⟩
      · rw [if_neg (by rw [tiered]; decide)]
        exact charged
      · rintro ⟨also, -⟩
        rw [tiered] at also
        cases also

/-- A calculation that fails has no rows exactly when it fails at the first interval. -/
theorem failed_rows_nil_iff (run : inputs.calculate keys = .ok result) (failed : result.completed = false) :
    result.rows = [] ↔ inputs.FailsFirst keys := by
  have lacks := (calculate_spec run).2 failed
  rw [calculate_rows_eq_nil run, Idle]
  constructor
  · rintro (⟨empty, -⟩ | ⟨-, first⟩) _
    · obtain ⟨-, interval, member, -⟩ := lacks
      rw [empty] at member
      cases member
    · exact first
  · exact fun first => .inr ⟨lacks.1, first lacks⟩

end JobInputs

/-! ## A pass -/

namespace CostStore
variable (store : CostStore)

def statusOf (id : String) : Option CostRunStatus := (store.runs.get? id).map CostRun.status

/-- A failed run has no rows, and a completed one those of its whole interval list. -/
structure LeavesClean (after : CostStore) (inputs : CostInputs) (job : CostRun) : Prop where
  failed : after.statusOf job.id = some .failed → after.rowsOf job.id = []
  completed : after.statusOf job.id = some .completed →
    ∃ found, inputs job.toCostRunKeys = some found ∧ found.WholeRows job.toCostRunKeys (after.rowsOf job.id)

/-- Without a job that failed, the others of the pass have the same rows. -/
def FailuresApart (after : CostStore) (inputs : CostInputs) (now : Int) (jobs : List CostRun) : Prop :=
  ∀ job ∈ jobs, after.statusOf job.id = some .failed → ∃ without,
    (jobs.filter fun other => other.id ≠ job.id).foldlM (fun store job => store.processCostJob inputs now job) store =
      .ok without ∧
    ∀ other ∈ jobs, other.id ≠ job.id → without.rowsOf other.id = after.rowsOf other.id

theorem queuedJobs_stored (limit : Nat) : ∀ job ∈ store.queuedJobs limit, job ∈ store.runs.rows := by
  intro job member
  unfold queuedJobs at member
  have sorted := List.mem_of_mem_take member
  rw [(perm_sortedBy _ _).mem_iff] at sorted
  exact (List.mem_filter.mp sorted).1

theorem queuedJobs_distinct (limit : Nat) : ((store.queuedJobs limit).map CostRun.id).Nodup := by
  unfold queuedJobs
  have sorted := (perm_sortedBy CostRun.createdAt (store.runs.rows.filter fun run => run.status = .queued)).map CostRun.id
  have all := store.runs.distinct.sublist ((List.filter_sublist (p := fun run => run.status = .queued)).map CostRun.id)
  exact (sorted.nodup_iff.mpr all).sublist ((List.take_sublist limit _).map _)

end CostStore

/-- The status a run ends in. -/
def Processing.status (processing : Processing) : CostRunStatus :=
  match processing.inputs with
  | none => .failed
  | some inputs =>
      match inputs.calculate processing.keys with
      | .ok result => if result.completed then .completed else .failed
      | .error _ => .failed

def CostRun.processing (job : CostRun) (inputs : CostInputs) : Processing :=
  ⟨job.toCostRunKeys, inputs job.toCostRunKeys⟩

section Pass
variable {store after : CostStore} {inputs : CostInputs} {now : Int} {jobs : List CostRun} {job : CostRun}

theorem processCostJob_status (step : store.processCostJob inputs now job = .ok after) (id : String) :
    after.statusOf id = if id = job.id then (store.statusOf id).map fun _ => (job.processing inputs).status
      else store.statusOf id := by
  unfold CostStore.processCostJob at step
  unfold CostRun.processing Processing.status CostStore.statusOf
  cases read : inputs job.toCostRunKeys with
  | none =>
      rw [read] at step
      cases step
      rw [Table.get?_modify]
      by_cases own : id = job.id
      · rw [if_pos own, if_pos own, Option.map_map, Option.map_map]
        rfl
      · rw [if_neg own, if_neg own]
  | some found =>
      rw [read] at step
      obtain ⟨result, calculated, done⟩ := bind_eq_ok.mp step
      cases done
      dsimp only
      rw [calculated, Table.get?_modify]
      by_cases own : id = job.id
      · rw [if_pos own, if_pos own, Option.map_map, Option.map_map]
        rfl
      · rw [if_neg own, if_neg own]

theorem processJobs_status (distinct : (jobs.map CostRun.id).Nodup)
    (run : jobs.foldlM (fun store job => store.processCostJob inputs now job) store = .ok after) :
    (∀ id, id ∉ jobs.map CostRun.id → after.statusOf id = store.statusOf id) ∧
      ∀ job ∈ jobs, after.statusOf job.id = (store.statusOf job.id).map fun _ => (job.processing inputs).status := by
  induction jobs generalizing store with
  | nil =>
      cases run
      exact ⟨fun _ _ => rfl, nofun⟩
  | cons first rest ih =>
      rw [List.map_cons, List.nodup_cons] at distinct
      rw [List.foldlM_cons] at run
      obtain ⟨middle, here, later⟩ := bind_eq_ok.mp run
      obtain ⟨others, own⟩ := ih distinct.2 later
      have step := processCostJob_status here
      constructor
      · intro id absent
        rw [List.map_cons, List.mem_cons, not_or] at absent
        rw [others id absent.2, step id, if_neg absent.1]
      · intro job member
        rcases List.mem_cons.mp member with rfl | behind
        · rw [others job.id distinct.1, step, if_pos rfl]
        · have apart : job.id ≠ first.id := by
            intro same
            exact distinct.1 (same ▸ List.mem_map_of_mem behind)
          rw [own job behind, step, if_neg apart]

theorem filter_id_eq (distinct : (jobs.map CostRun.id).Nodup) (member : job ∈ jobs) :
    (jobs.filter fun other => other.id = job.id) = [job] := by
  induction jobs with
  | nil => cases member
  | cons first rest ih =>
      rw [List.map_cons, List.nodup_cons] at distinct
      rcases List.mem_cons.mp member with rfl | behind
      · rw [List.filter_cons_of_pos (by simp), List.filter_eq_nil_iff.mpr]
        intro other listed same
        rw [decide_eq_true_eq] at same
        exact distinct.1 (same ▸ List.mem_map_of_mem listed)
      · have apart : first.id ≠ job.id := by
          intro same
          exact distinct.1 (same ▸ List.mem_map_of_mem behind)
        rw [List.filter_cons_of_neg (by simpa using apart)]
        exact ih distinct.2 behind

/-- A job adds the rows of its own calculation, whatever the other jobs do. -/
theorem processJobs_own_rows (distinct : (jobs.map CostRun.id).Nodup) (member : job ∈ jobs)
    (run : jobs.foldlM (fun store job => store.processCostJob inputs now job) store = .ok after) :
    after.rowsOf job.id = store.rowsOf job.id ++ (job.processing inputs).rows := by
  rw [processJobs_rows run, filter_id_eq distinct member, List.map_singleton, List.flatMap_singleton]
  rfl

/-- Whether a step returns does not depend on the tables. -/
theorem processCostJob_returns (other : CostStore) (step : store.processCostJob inputs now job = .ok after) :
    ∃ next, other.processCostJob inputs now job = .ok next := by
  unfold CostStore.processCostJob at step ⊢
  cases read : inputs job.toCostRunKeys with
  | none => exact ⟨_, rfl⟩
  | some found =>
      rw [read] at step
      obtain ⟨result, calculated, -⟩ := bind_eq_ok.mp step
      exact ⟨_, bind_eq_ok.mpr ⟨result, calculated, rfl⟩⟩

theorem processJobs_apart (distinct : (jobs.map CostRun.id).Nodup)
    (run : jobs.foldlM (fun store job => store.processCostJob inputs now job) store = .ok after) :
    store.FailuresApart after inputs now jobs := by
  intro job member _
  obtain ⟨without, rest⟩ : ∃ without, (jobs.filter fun other => other.id ≠ job.id).foldlM
      (fun store job => store.processCostJob inputs now job) store = .ok without := by
    refine foldlM_returns (fun _ => True) _ trivial ?_
    intro state other listed _
    obtain ⟨before, next, -, step⟩ := foldlM_step_of_mem (fun _ => True) trivial (fun _ _ _ _ _ => trivial) run
      (List.mem_filter.mp listed).1
    obtain ⟨reached, step⟩ := processCostJob_returns state step
    exact ⟨reached, step, trivial⟩
  refine ⟨without, rest, fun other listed apart => ?_⟩
  have kept : other ∈ jobs.filter fun other => other.id ≠ job.id := List.mem_filter.mpr ⟨listed, by simpa using apart⟩
  rw [processJobs_own_rows (distinct.sublist (List.filter_sublist.map _)) kept rest, processJobs_own_rows distinct listed run]

/-- What a job leaves behind is clean exactly when nothing was there and its failure, if it fails, comes first. -/
theorem leavesClean_iff (stored : (store.statusOf job.id).isSome = true) (distinct : (jobs.map CostRun.id).Nodup)
    (member : job ∈ jobs) (run : jobs.foldlM (fun store job => store.processCostJob inputs now job) store = .ok after) :
    after.LeavesClean inputs job ↔
      store.rowsOf job.id = [] ∧ ∀ found ∈ inputs job.toCostRunKeys, found.FailsFirst job.toCostRunKeys := by
  have rows := processJobs_own_rows distinct member run
  have status := (processJobs_status distinct run).2 job member
  obtain ⟨before, held⟩ := Option.isSome_iff_exists.mp stored
  obtain ⟨_, _, -, step⟩ := foldlM_step_of_mem (fun _ => True) trivial (fun _ _ _ _ _ => trivial) run member
  rw [held, Option.map_some] at status
  unfold CostStore.processCostJob at step
  unfold CostRun.processing Processing.rows at rows
  unfold CostRun.processing Processing.status at status
  cases read : inputs job.toCostRunKeys with
  | none =>
      rw [read] at rows status
      rw [List.append_nil] at rows
      constructor
      · intro clean
        refine ⟨rows.symm.trans (clean.failed status), fun found listed => ?_⟩
        cases listed
      · rintro ⟨none, -⟩
        refine ⟨fun _ => rows.trans none, fun completed => ?_⟩
        rw [status] at completed
        cases completed
  | some found =>
      rw [read] at rows status step
      obtain ⟨result, calculated, -⟩ := bind_eq_ok.mp step
      simp only [calculated] at rows status
      simp only [Option.mem_def, Option.some.injEq, forall_eq']
      have spec := JobInputs.calculate_spec calculated
      cases ended : result.completed with
      | true =>
          rw [ended, if_pos rfl] at status
          obtain ⟨whole, complete⟩ := spec.1 ended
          constructor
          · intro clean
            obtain ⟨other, same, all⟩ := clean.completed status
            rw [read] at same
            cases same
            have equal := all.unique whole
            rw [rows, List.append_left_eq_self] at equal
            exact ⟨equal, fun lacks => absurd lacks complete⟩
          · rintro ⟨none, -⟩
            rw [none, List.nil_append] at rows
            refine ⟨fun failed => ?_, fun _ => ⟨found, read, rows ▸ whole⟩⟩
            rw [status] at failed
            cases failed
      | false =>
          rw [ended, if_neg (by decide)] at status
          rw [← JobInputs.failed_rows_nil_iff calculated ended, ← List.append_eq_nil_iff, ← rows]
          constructor
          · exact fun clean => clean.failed status
          · intro none
            refine ⟨fun _ => none, fun completed => ?_⟩
            rw [status] at completed
            cases completed

end Pass

/-- A pass leaves no rows of a failed run and the whole rows of a completed one, exactly when no run of it had rows
before and every run that lacks segments lacks them at its first interval. That a run fails changes no other run. -/
theorem failed_runs_clean_iff {store after : CostStore} {inputs : CostInputs} {now : Int} {limit : Nat}
    (pass : store.processCostJobs inputs now limit = .ok after) :
    ((∀ job ∈ store.queuedJobs limit, after.LeavesClean inputs job) ∧
        store.FailuresApart after inputs now (store.queuedJobs limit)) ↔
      ∀ job ∈ store.queuedJobs limit, store.rowsOf job.id = [] ∧
        ∀ found ∈ inputs job.toCostRunKeys, found.FailsFirst job.toCostRunKeys := by
  have distinct := store.queuedJobs_distinct limit
  have stored := store.queuedJobs_stored limit
  unfold CostStore.processCostJobs at pass
  generalize store.queuedJobs limit = jobs at distinct stored pass
  rw [and_iff_left (processJobs_apart distinct pass)]
  refine forall₂_congr fun job member => ?_
  refine leavesClean_iff ?_ distinct member pass
  rw [CostStore.statusOf, Table.get?_eq_some.mpr ⟨stored job member, rfl⟩]
  rfl

/-! ### A tiered run that stops half way -/

/-- The hour from the given instant, in its tier. -/
def hourSegment (id : String) (start : Int) : TierSegment :=
  { normalizedIntervalId := some id, intervalStart := start, intervalEnd := start + 3600000000, segmentEnergyKwh := 1
    unroundedEnergyCharge := 1 / 5, pricePerKwh := 1 / 5, tierName := "Base" }

/-- Two measured hours of a tiered plan, with the segments that there are. -/
def tieredInputs (segments : List TierSegment) : JobInputs where
  plan := RateEngine.roundedPlan
  zone := Zone.utc
  devices := ["meter"]
  segments := segments
  intervals := [hourFrom "a" 0, hourFrom "b" 3600000000]
  terms := {}

def twoHourRun : CostRun := { queuedRun with inputEnd := 7200000000 }

def twoHours : CostStore := ⟨⟨[twoHourRun], by decide⟩, []⟩

theorem twoHours_queued : twoHours.queuedJobs 4 = [twoHourRun] := by decide

/-- With segments for both hours the run completes with the rows of both. -/
theorem segmented_run_clean : ∃ after,
    twoHours.processCostJobs (fun _ => some (tieredInputs [hourSegment "a" 0, hourSegment "b" 3600000000])) 0 4 = .ok after ∧
    after.statusOf "run" = some .completed ∧
    (∀ job ∈ twoHours.queuedJobs 4, after.LeavesClean
      (fun _ => some (tieredInputs [hourSegment "a" 0, hourSegment "b" 3600000000])) job) ∧
    twoHours.FailuresApart after (fun _ => some (tieredInputs [hourSegment "a" 0, hourSegment "b" 3600000000])) 0
      (twoHours.queuedJobs 4) := by
  have ends : (twoHours.processCostJobs
      (fun _ => some (tieredInputs [hourSegment "a" 0, hourSegment "b" 3600000000])) 0 4).toOption.map
        (fun after => after.statusOf "run") = some (some .completed) := by decide +kernel
  cases pass : twoHours.processCostJobs
      (fun _ => some (tieredInputs [hourSegment "a" 0, hourSegment "b" 3600000000])) 0 4 with
  | error failure =>
      rw [pass] at ends
      cases ends
  | ok after =>
      rw [pass] at ends
      refine ⟨after, rfl, Option.some.inj ends, (failed_runs_clean_iff pass).mpr ?_⟩
      intro job member
      rw [twoHours_queued, List.mem_singleton] at member
      subst member
      refine ⟨rfl, fun found read => ?_⟩
      cases read
      rintro ⟨-, interval, listed, unpriced⟩
      -- Both hours have segments.
      have priced : ∀ interval ∈ (tieredInputs [hourSegment "a" 0, hourSegment "b" 3600000000]).selected
          twoHourRun.toCostRunKeys, tierRows [hourSegment "a" 0, hourSegment "b" 3600000000] interval ≠ none := by
        decide +kernel
      exact absurd unpriced (priced interval listed)

/-- Without segments for the second hour the run fails, and the row of the first stays. -/
theorem half_segmented_run_leaves_a_row : ∃ after,
    twoHours.processCostJobs (fun _ => some (tieredInputs [hourSegment "a" 0])) 0 4 = .ok after ∧
    after.statusOf "run" = some .failed ∧ after.rowsOf "run" ≠ [] := by
  have ends : (twoHours.processCostJobs (fun _ => some (tieredInputs [hourSegment "a" 0])) 0 4).toOption.map
      (fun after => (after.statusOf "run", (after.rowsOf "run").length)) = some (some .failed, 1) := by decide +kernel
  cases pass : twoHours.processCostJobs (fun _ => some (tieredInputs [hourSegment "a" 0])) 0 4 with
  | error failure =>
      rw [pass] at ends
      cases ends
  | ok after =>
      rw [pass] at ends
      obtain ⟨status, rows⟩ := Prod.mk.inj (Option.some.inj ends)
      refine ⟨after, rfl, status, fun none => ?_⟩
      rw [none] at rows
      cases rows

end PowerMonitor.Rates
