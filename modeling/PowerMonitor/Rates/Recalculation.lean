import PowerMonitor.Library.Linked
import PowerMonitor.Library.Table
import PowerMonitor.Rates.CostRows

/-! Cost runs that are calculated again.

A change of the assignments puts the runs of an account back to queued, and the worker calculates a queued run and
writes its rows. Neither takes away the rows that are there, so a run has the rows of all its calculations.
-/

set_option autoImplicit false
namespace PowerMonitor.Rates
open Library Calendar

inductive CostRunStatus where | queued | running | completed | failed
  deriving DecidableEq, Repr

/-- What a run is calculated for. -/
structure CostRunKeys where
  utilityAccountId : String
  aggregateSetId : String
  rateVersionId : String
  inputStart : Int
  inputEnd : Int
  deriving DecidableEq, Repr

/-- `CostCalculationRun` -/
structure CostRun extends CostRunKeys where
  id : String
  status : CostRunStatus := .queued
  coveragePercent : Rat := 0
  createdAt : Int
  completedAt : Option Int := none
  deriving DecidableEq, Repr

/-- What the worker reads for a run, where its account, aggregate set and version exist. -/
structure JobInputs where
  plan : Plan
  zone : Zone
  devices : List String
  segments : List TierSegment
  intervals : List NormalizedInterval
  terms : AccountTerms

abbrev CostInputs := CostRunKeys → Option JobInputs

namespace JobInputs
variable (inputs : JobInputs) (keys : CostRunKeys)

def selected : List NormalizedInterval := selectIntervals inputs.devices inputs.intervals keys.inputStart keys.inputEnd

def coveragePercent : Rat :=
  let coveredSeconds := ((inputs.selected keys).map fun interval =>
    secondsBetween interval.intervalStart interval.intervalEnd).sum
  min 100 (coveredSeconds / secondsBetween keys.inputStart keys.inputEnd * 100)

def calculate : Except EngineError JobResult := do
  let engine ← RateEngine.construct inputs.plan inputs.zone
  engine.costJob inputs.devices inputs.segments inputs.intervals inputs.terms keys.inputStart keys.inputEnd

end JobInputs

/-! ## The tables -/

/-- The runs, and the rows of `cost_interval_results` under the ids of their runs. -/
structure CostStore where
  runs : Table CostRun.id
  results : List (String × CostIntervalResult) := []

namespace CostStore
variable (store : CostStore)

def rowsOf (id : String) : List CostIntervalResult :=
  (store.results.filter fun entry => entry.1 = id).map Prod.snd

/-- The body of the worker's loop. Rows that were added stay when a tiered run fails. -/
def processCostJob (inputs : CostInputs) (now : Int) (job : CostRun) : Except EngineError CostStore :=
  match inputs job.toCostRunKeys with
  | none => pure { store with runs := store.runs.modify job.id (fun run => { run with status := .failed }) fun _ => rfl }
  | some found => do
      let result ← found.calculate job.toCostRunKeys
      let finish (run : CostRun) : CostRun :=
        { run with
          status := if result.completed then .completed else .failed
          coveragePercent := if result.completed then found.coveragePercent job.toCostRunKeys else run.coveragePercent
          completedAt := some now }
      pure
        { runs := store.runs.modify job.id finish fun _ => rfl
          results := store.results ++ result.rows.map fun row => (job.id, row) }

/-- The queued runs a pass takes up. -/
def queuedJobs (limit : Nat) : List CostRun :=
  (sortedBy CostRun.createdAt (store.runs.rows.filter fun run => run.status = .queued)).take limit

/-- `process_cost_jobs`. A calculation that raises ends the pass before anything is committed. -/
def processCostJobs (inputs : CostInputs) (now : Int) (limit : Nat) : Except EngineError CostStore :=
  (store.queuedJobs limit).foldlM (fun store job => store.processCostJob inputs now job) store

/-- `_queue_unfinalized_cost_runs`, with the windows of the account's finalized cycles. -/
def queueUnfinalizedCostRuns (finalized : List (Int × Int)) (accountId : String) : CostStore :=
  let locked (run : CostRun) : Bool :=
    finalized.any fun cycle => decide (run.inputStart < cycle.2) && decide (cycle.1 < run.inputEnd)
  { store with
    runs := store.runs.map (fun run =>
      if run.utilityAccountId = accountId ∧ locked run = false then { run with status := .queued } else run) fun run => by
        split <;> rfl }

end CostStore

/-- An entry of `billing_runs`. -/
structure RunReport where
  id : String
  status : CostRunStatus
  inputStart : Int
  inputEnd : Int
  coveragePercent : Rat
  unroundedEnergyCost : Rat
  deriving DecidableEq, Repr

def totalCost (rows : List CostIntervalResult) : Rat := (rows.map CostIntervalResult.unroundedCost).sum

def CostStore.report (store : CostStore) (run : CostRun) : RunReport where
  id := run.id
  status := run.status
  inputStart := run.inputStart
  inputEnd := run.inputEnd
  coveragePercent := run.coveragePercent
  unroundedEnergyCost := totalCost (store.rowsOf run.id)

/-- `billing_runs`: the newest hundred. -/
def CostStore.billingRuns (store : CostStore) : List RunReport :=
  ((store.runs.rows.insertionSort fun first second => second.createdAt ≤ first.createdAt).take 100).map store.report

/-! ## Histories -/

inductive CostEvent where
  | queue (finalized : List (Int × Int)) (accountId : String)
  | process (inputs : CostInputs) (now : Int) (limit : Nat)

/-- A pass that raises leaves the tables as they were. -/
def CostStore.after (store : CostStore) : CostEvent → CostStore
  | .queue finalized accountId => store.queueUnfinalizedCostRuns finalized accountId
  | .process inputs now limit =>
      match store.processCostJobs inputs now limit with
      | .ok next => next
      | .error _ => store

/-- One calculation of a run: what it is for, and what the worker read. -/
structure Processing where
  keys : CostRunKeys
  inputs : Option JobInputs

/-- The rows of a single calculation. -/
def Processing.rows (processing : Processing) : List CostIntervalResult :=
  match processing.inputs with
  | none => []
  | some inputs =>
      match inputs.calculate processing.keys with
      | .ok result => result.rows
      | .error _ => []

/-- The calculations of a run in one event. -/
def CostStore.processingsIn (store : CostStore) (id : String) : CostEvent → List Processing
  | .queue _ _ => []
  | .process inputs now limit =>
      match store.processCostJobs inputs now limit with
      | .ok _ => ((store.queuedJobs limit).filter fun job => job.id = id).map fun job =>
          ⟨job.toCostRunKeys, inputs job.toCostRunKeys⟩
      | .error _ => []

/-- The calculations of a run in a history, in their order. -/
def CostStore.processings (id : String) : CostStore → List CostEvent → List Processing
  | _, [] => []
  | store, event :: rest => store.processingsIn id event ++ CostStore.processings id (store.after event) rest

/-! ## The rows of a run -/

section Rows
variable {store after : CostStore} {inputs : CostInputs} {now : Int} {id : String}

theorem processCostJob_rows {job : CostRun} (step : store.processCostJob inputs now job = .ok after) :
    after.rowsOf id = store.rowsOf id ++
      if job.id = id then (Processing.mk job.toCostRunKeys (inputs job.toCostRunKeys)).rows else [] := by
  unfold CostStore.processCostJob at step
  unfold Processing.rows
  cases read : inputs job.toCostRunKeys with
  | none =>
      rw [read] at step
      cases step
      simp [CostStore.rowsOf]
  | some found =>
      rw [read] at step
      obtain ⟨result, calculated, done⟩ := bind_eq_ok.mp step
      cases done
      dsimp only
      rw [calculated]
      unfold CostStore.rowsOf
      rw [List.filter_append, List.map_append]
      congr 1
      -- All the new rows are the job's.
      by_cases own : job.id = id
      · rw [if_pos own, List.filter_eq_self.mpr, List.map_map]
        · exact List.map_id _
        · intro entry member
          obtain ⟨row, -, rfl⟩ := List.mem_map.mp member
          exact decide_eq_true own
      · rw [if_neg own, List.filter_eq_nil_iff.mpr]
        · rfl
        · intro entry member
          obtain ⟨row, -, rfl⟩ := List.mem_map.mp member
          rwa [decide_eq_true_eq]

theorem processJobs_rows {jobs : List CostRun}
    (run : jobs.foldlM (fun store job => store.processCostJob inputs now job) store = .ok after) :
    after.rowsOf id = store.rowsOf id ++ ((jobs.filter fun job => job.id = id).map fun job =>
      Processing.mk job.toCostRunKeys (inputs job.toCostRunKeys)).flatMap Processing.rows := by
  induction jobs generalizing store with
  | nil =>
      cases run
      exact (List.append_nil _).symm
  | cons job rest ih =>
      rw [List.foldlM_cons] at run
      obtain ⟨middle, first, later⟩ := bind_eq_ok.mp run
      rw [ih later, processCostJob_rows first, List.append_assoc, List.filter_cons]
      by_cases own : job.id = id
      · rw [if_pos own, if_pos (decide_eq_true own), List.map_cons, List.flatMap_cons]
      · rw [if_neg own, if_neg (by simpa using own), List.nil_append]

/-- An event adds the rows of the calculations in it, and takes none away. -/
theorem after_rows (event : CostEvent) : (store.after event).rowsOf id =
    store.rowsOf id ++ (store.processingsIn id event).flatMap Processing.rows := by
  cases event with
  | queue finalized accountId => exact (List.append_nil _).symm
  | process inputs now limit =>
      unfold CostStore.after CostStore.processingsIn
      dsimp only
      cases pass : store.processCostJobs inputs now limit with
      | error failure => exact (List.append_nil _).symm
      | ok next => exact processJobs_rows pass

theorem history_rows (events : List CostEvent) : (events.foldl CostStore.after store).rowsOf id =
    store.rowsOf id ++ (store.processings id events).flatMap Processing.rows := by
  induction events generalizing store with
  | nil => exact (List.append_nil _).symm
  | cons event rest ih =>
      rw [List.foldl_cons, ih, after_rows, CostStore.processings, List.flatMap_append, List.append_assoc]

end Rows

/-! ## Calculations that write nothing -/

namespace JobInputs
variable (inputs : JobInputs) (keys : CostRunKeys)

/-- Without energy no component of the account is different from zero. -/
def ChargesNothing : Prop :=
  ∃ engine, RateEngine.construct inputs.plan inputs.zone = .ok engine ∧
    engine.accountRows inputs.terms keys.inputStart keys.inputEnd 0
      (if inputs.plan.pricingModel.isTiered then some 0 else none) = .ok []

/-- No interval is in the window and the account has nothing to add, or a tiered plan has no segments for the first
interval. -/
def Idle : Prop :=
  (inputs.selected keys = [] ∧ inputs.ChargesNothing keys) ∨
    inputs.plan.pricingModel.isTiered = true ∧
      ∃ first ∈ (inputs.selected keys).head?, tierRows inputs.segments first = none

end JobInputs

section Idle
variable {engine : RateEngine}

/-- A calculation without tiers has a slice. -/
theorem RateEngine.slices_ne_nil {request : CalculationRequest} (untiered : engine.plan.pricingModel.isTiered = false)
    {calculation : Calculation} (run : engine.calculate request = .ok calculation) : calculation.slices ≠ [] := by
  obtain ⟨accepted, points, tiers, ledger, found, resolved, fold, rfl⟩ := (engine.calculate_eq_ok request).mp run
  rw [RateEngine.cycleTiers_untiered untiered] at resolved
  cases resolved
  obtain ⟨left, right, piece, -⟩ := (boundaries_tiles accepted.interval found).exists_piece le_rfl accepted.interval
  change ledger.slices ≠ []
  cases pieces : pairwise points with
  | nil =>
      rw [pieces] at piece
      cases piece
  | cons first rest =>
      rw [pieces, List.foldlM_cons] at fold
      obtain ⟨middle, here, later⟩ := bind_eq_ok.mp fold
      obtain ⟨entry, slices, -⟩ := RateEngine.priceSlice_untiered here
      refine foldlM_invariant (fun ledger : Ledger => ledger.slices ≠ []) rest (by simp [slices]) ?_ later
      intro state piece next _ step _
      obtain ⟨entry, slices, -⟩ := RateEngine.priceSlice_untiered step
      simp [slices]

/-- An interval with rows overlaps one of its segments for some time. -/
theorem tierRows_overlap {segments : List TierSegment} {interval : NormalizedInterval} {rows : List CostIntervalResult}
    (priced : tierRows segments interval = some rows) :
    ∃ segment ∈ (matchingSegments segments interval).2, 0 < overlapSeconds interval segment := by
  unfold tierRows at priced
  dsimp only at priced
  split at priced
  · cases priced
  · next weighted =>
      rw [not_or, not_le] at weighted
      have total : (((matchingSegments segments interval).2.map fun _ => (0 : Rat)).sum) <
          ((matchingSegments segments interval).2.map (overlapSeconds interval)).sum := by
        rw [List.sum_map_zero]
        exact weighted.2
      exact List.exists_lt_of_sum_lt _ _ total

theorem tierRows_ne_nil {segments : List TierSegment} {interval : NormalizedInterval} {rows : List CostIntervalResult}
    (priced : tierRows segments interval = some rows) : rows ≠ [] := by
  obtain ⟨segment, listed, overlaps⟩ := tierRows_overlap priced
  unfold tierRows at priced
  dsimp only at priced
  split at priced
  · cases priced
  · cases priced
    intro none
    -- A segment that overlaps the interval for some time lasts itself.
    have lasts : 0 < secondsBetween segment.intervalStart segment.intervalEnd := by
      refine overlaps.trans_le ?_
      unfold overlapSeconds secondsBetween
      have wider : min interval.intervalEnd segment.intervalEnd - max interval.intervalStart segment.intervalStart ≤
          segment.intervalEnd - segment.intervalStart := by omega
      exact div_le_div_of_nonneg_right (by exact_mod_cast wider) (by norm_num)
    have kept := List.filterMap_eq_nil_iff.mp none segment listed
    unfold tierRow at kept
    dsimp only at kept
    rw [if_neg (not_or.mpr ⟨not_le.mpr overlaps, not_le.mpr lasts⟩)] at kept
    cases kept

theorem tieredRows_nil_iff {segments : List TierSegment} {selected : List NormalizedInterval} :
    (tieredRows segments selected).1 = [] ↔
      selected = [] ∨ ∃ first ∈ selected.head?, tierRows segments first = none := by
  cases selected with
  | nil => simp [tieredRows]
  | cons first rest =>
      unfold tieredRows
      cases rows : tierRows segments first with
      | none => simp [rows]
      | some own => simp [rows, tierRows_ne_nil rows]

theorem mapM_intervalRows_nil (untiered : engine.plan.pricingModel.isTiered = false) {selected : List NormalizedInterval}
    {rows : List (List CostIntervalResult)} (run : selected.mapM engine.intervalRows = .ok rows) :
    rows.flatten = [] ↔ selected = [] := by
  cases selected with
  | nil =>
      cases run
      simp
  | cons interval rest =>
      rw [List.mapM_cons] at run
      obtain ⟨first, priced, run⟩ := bind_eq_ok.mp run
      obtain ⟨later, -, run⟩ := bind_eq_ok.mp run
      cases run
      obtain ⟨calculation, calculated, done⟩ := bind_eq_ok.mp priced
      cases done
      simp [RateEngine.slices_ne_nil untiered calculated]

/-- A calculation has no rows exactly when its inputs give it nothing to write. -/
theorem calculate_rows_eq_nil {inputs : JobInputs} {keys : CostRunKeys} {result : JobResult}
    (run : inputs.calculate keys = .ok result) : result.rows = [] ↔ inputs.Idle keys := by
  obtain ⟨engine, built, run⟩ := bind_eq_ok.mp run
  have plan := (construct_eq_ok.mp built).1
  have charges : inputs.ChargesNothing keys ↔ engine.accountRows inputs.terms keys.inputStart keys.inputEnd 0
      (if inputs.plan.pricingModel.isTiered then some 0 else none) = .ok [] := by
    constructor
    · rintro ⟨other, same, nothing⟩
      rw [built] at same
      cases same
      exact nothing
    · intro nothing
      exact ⟨engine, built, nothing⟩
  have chosen : selectIntervals inputs.devices inputs.intervals keys.inputStart keys.inputEnd = inputs.selected keys := rfl
  unfold RateEngine.costJob at run
  dsimp only at run
  rw [plan, chosen] at run
  unfold JobInputs.Idle
  rw [charges]
  cases tiered : inputs.plan.pricingModel.isTiered with
  | true =>
      rw [if_pos tiered] at run
      have empty := @tieredRows_nil_iff inputs.segments (inputs.selected keys)
      rcases shape : tieredRows inputs.segments (inputs.selected keys) with ⟨rows, missing⟩
      rw [shape] at run empty
      cases missing with
      | true =>
          cases run
          have selects : inputs.selected keys ≠ [] := by
            intro none
            rw [none] at shape
            cases shape
          simpa [selects] using empty
      | false =>
          obtain ⟨account, components, done⟩ := bind_eq_ok.mp run
          cases done
          -- The loop has got past the first interval.
          have priced : ¬ ∃ first ∈ (inputs.selected keys).head?, tierRows inputs.segments first = none := by
            rintro ⟨first, head, unpriced⟩
            obtain ⟨rest, selected⟩ := List.head?_eq_some_iff.mp head
            rw [selected, tieredRows, unpriced] at shape
            cases shape
          rw [or_iff_left priced] at empty
          dsimp only at empty ⊢
          rw [List.append_eq_nil_iff, empty]
          simp only [priced, and_false, or_false, if_true]
          refine and_congr_right fun none => ?_
          rw [none, empty.mpr none, show totalEnergy [] = 0 from rfl] at components
          change engine.accountRows inputs.terms keys.inputStart keys.inputEnd 0 (some 0) = .ok account at components
          rw [components]
          simp
  | false =>
      rw [if_neg (by rw [tiered]; decide)] at run
      obtain ⟨rows, priced, run⟩ := bind_eq_ok.mp run
      obtain ⟨account, components, done⟩ := bind_eq_ok.mp run
      cases done
      have untiered : engine.plan.pricingModel.isTiered = false := plan ▸ tiered
      rw [List.append_eq_nil_iff, mapM_intervalRows_nil untiered priced]
      simp only [Bool.false_eq_true, false_and, or_false, if_false]
      refine and_congr_right fun none => ?_
      rw [none, show totalEnergy [] = 0 from rfl] at components
      rw [components]
      simp

end Idle

/-- What the worker has read gives the run nothing to write. -/
def Processing.Idle (processing : Processing) : Prop := ∀ inputs ∈ processing.inputs, inputs.Idle processing.keys

/-- A calculation of a history has returned. -/
theorem processings_returned {store : CostStore} {id : String} {events : List CostEvent} {processing : Processing}
    (member : processing ∈ store.processings id events) {inputs : JobInputs} (read : processing.inputs = some inputs) :
    ∃ result, inputs.calculate processing.keys = .ok result := by
  induction events generalizing store with
  | nil => cases member
  | cons event rest ih =>
      rcases List.mem_append.mp member with here | later
      · cases event with
        | queue finalized accountId => cases here
        | process all now limit =>
            unfold CostStore.processingsIn at here
            dsimp only at here
            cases pass : store.processCostJobs all now limit with
            | error failure =>
                rw [pass] at here
                cases here
            | ok next =>
                rw [pass] at here
                obtain ⟨job, listed, rfl⟩ := List.mem_map.mp here
                obtain ⟨before, after, -, step⟩ := foldlM_step_of_mem (fun _ => True) trivial (fun _ _ _ _ _ => trivial)
                  pass (List.mem_filter.mp listed).1
                unfold CostStore.processCostJob at step
                rw [show all job.toCostRunKeys = some inputs from read] at step
                obtain ⟨result, calculated, -⟩ := bind_eq_ok.mp step
                exact ⟨result, calculated⟩
      · exact ih later

theorem processing_rows_nil {store : CostStore} {id : String} {events : List CostEvent} {processing : Processing}
    (member : processing ∈ store.processings id events) : processing.rows = [] ↔ processing.Idle := by
  unfold Processing.rows Processing.Idle
  cases read : processing.inputs with
  | none => simp
  | some inputs =>
      obtain ⟨result, calculated⟩ := processings_returned member read
      simp only [calculated, Option.mem_def, Option.some.injEq, forall_eq']
      exact calculate_rows_eq_nil calculated

/-- After any history of a run its rows are those of one calculation, the last, exactly when nothing was there before
and no earlier calculation had anything to write. -/
theorem recalculation_replaces_iff {store : CostStore} {events : List CostEvent} {id : String}
    {earlier : List Processing} {last : Processing} (history : store.processings id events = earlier ++ [last]) :
    (((events.foldl CostStore.after store).rowsOf id).Perm last.rows ∧
        ∀ report ∈ (events.foldl CostStore.after store).billingRuns, report.id = id →
          report.unroundedEnergyCost = totalCost last.rows) ↔
      store.rowsOf id = [] ∧ ∀ processing ∈ earlier, processing.Idle := by
  have rows := @history_rows store id events
  rw [history, List.flatMap_append, List.flatMap_singleton, ← List.append_assoc] at rows
  have idle : earlier.flatMap Processing.rows = [] ↔ ∀ processing ∈ earlier, processing.Idle := by
    rw [List.flatMap_eq_nil_iff]
    refine forall₂_congr fun processing member => ?_
    exact processing_rows_nil (history ▸ List.mem_append_left _ member)
  rw [← idle, ← List.append_eq_nil_iff]
  constructor
  · rintro ⟨same, -⟩
    have lengths := same.length_eq
    rw [rows, List.length_append] at lengths
    exact List.eq_nil_of_length_eq_zero (by omega)
  · intro nothing
    rw [nothing, List.nil_append] at rows
    refine ⟨List.Perm.of_eq rows, fun report listed named => ?_⟩
    obtain ⟨run, -, rfl⟩ := List.mem_map.mp listed
    rw [← rows, ← named]
    rfl

/-! ### A run that is calculated twice -/

def queuedRun : CostRun :=
  { utilityAccountId := "account", aggregateSetId := "house", rateVersionId := "flat", inputStart := 0
    inputEnd := 3600000000, id := "run", createdAt := 0 }

def oneRun : CostStore := ⟨⟨[queuedRun], by decide⟩, []⟩

/-- A flat plan of twenty cents, and the intervals that were measured. -/
def flatInputs (intervals : List NormalizedInterval) : JobInputs where
  plan := { pricingModel := .flat, flatRatePerKwh := some (1 / 5) }
  zone := springForward
  devices := ["meter"]
  segments := []
  intervals := intervals
  terms := {}

/-- A calculation, a change of the assignments, and the calculation again. -/
def calculatedTwice (intervals : List NormalizedInterval) : List CostEvent :=
  [.process (fun _ => some (flatInputs intervals)) 0 2, .queue [] "account",
    .process (fun _ => some (flatInputs intervals)) 1 2]

/-- Without measurements the second calculation leaves what the first did. -/
theorem empty_run_recalculated : ∃ earlier last,
    oneRun.processings "run" (calculatedTwice []) = earlier ++ [last] ∧ earlier.length = 1 ∧
      (((calculatedTwice []).foldl CostStore.after oneRun).rowsOf "run").Perm last.rows ∧
      ∀ report ∈ ((calculatedTwice []).foldl CostStore.after oneRun).billingRuns, report.id = "run" →
        report.unroundedEnergyCost = totalCost last.rows := by
  have two : (oneRun.processings "run" (calculatedTwice [])).length = 2 := by decide +kernel
  have nothing : ∀ processing ∈ oneRun.processings "run" (calculatedTwice []), processing.rows = [] := by decide +kernel
  obtain none | ⟨earlier, last, history⟩ := List.eq_nil_or_concat' (oneRun.processings "run" (calculatedTwice []))
  · rw [none] at two
    cases two
  · refine ⟨earlier, last, history, ?_, (recalculation_replaces_iff history).mpr ⟨rfl, fun processing member => ?_⟩⟩
    · rw [history, List.length_append] at two
      exact Nat.succ.inj two
    · have listed : processing ∈ oneRun.processings "run" (calculatedTwice []) := history ▸ List.mem_append_left _ member
      exact (processing_rows_nil listed).mp (nothing processing listed)

/-- The hour is on the bill twice. -/
theorem recalculated_hour_doubles :
    ((calculatedTwice [hourFrom "a" 0]).foldl CostStore.after oneRun).rowsOf "run" = [hourRow "a" 0, hourRow "a" 0] ∧
    (Processing.mk queuedRun.toCostRunKeys (some (flatInputs [hourFrom "a" 0]))).rows = [hourRow "a" 0] ∧
    ((calculatedTwice [hourFrom "a" 0]).foldl CostStore.after oneRun).billingRuns.map RunReport.unroundedEnergyCost =
      [2 / 5] ∧
    ((calculatedTwice [hourFrom "a" 0]).foldl CostStore.after oneRun).runs.rows.map CostRun.status = [.completed] := by
  decide +kernel

end PowerMonitor.Rates
