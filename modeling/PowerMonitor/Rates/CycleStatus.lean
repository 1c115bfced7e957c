import PowerMonitor.Library.Linked
import PowerMonitor.Rates.Engine
import Mathlib.Data.Prod.Lex
import Mathlib.Data.String.Basic

/-! The tier status of a billing cycle.

Authoritative intervals come from sensors or from utility imports. They are sorted, cut
where a rate version takes over from another, and handed to the engine of the version
one part after another while a single cumulative usage runs through all of them. The
slices the engine returns become the segments of the cycle.
-/

set_option autoImplicit false
namespace PowerMonitor.Rates
open Library Calendar

/-- An interval of account usage, clipped to the cycle; the builders below leave empty ones out. -/
structure AuthoritativeInterval where
  intervalId : Option String
  importId : Option String := none
  start : Int
  finish : Int
  energyKwh : Rat
  qualityFlags : List String := []
  ordered : start < finish
  deriving Repr

def AuthoritativeInterval.data (row : AuthoritativeInterval) :=
  (row.intervalId, row.importId, row.start, row.finish, row.energyKwh, row.qualityFlags)

theorem AuthoritativeInterval.data_inj {first second : AuthoritativeInterval} : first.data = second.data ↔ first = second := by
  cases first
  cases second
  simp [data]

instance : DecidableEq AuthoritativeInterval := fun first second => decidable_of_iff (first.data = second.data) AuthoritativeInterval.data_inj

/-! ## Where intervals come from -/

/-- A normalized interval with the quality flags of its reading. -/
structure NormalizedInterval where
  id : String
  deviceId : String
  intervalStart : Int
  intervalEnd : Int
  selectedEnergyWh : Option Rat
  qualityFlags : List String := []
  deriving DecidableEq, Repr

/-- The part of a row inside the span, with its share of the energy. -/
def monitoredInterval (start finish : Int) (row : NormalizedInterval) : Option AuthoritativeInterval :=
  let left := max row.intervalStart start
  let right := min row.intervalEnd finish
  match row.selectedEnergyWh with
  | none => none
  | some energyWh =>
      if proper : row.intervalStart < row.intervalEnd ∧ left < right then
        some { intervalId := some row.id, start := left, finish := right
               energyKwh := energyWh / 1000 * secondsBetween left right /
                 secondsBetween row.intervalStart row.intervalEnd
               qualityFlags := row.qualityFlags, ordered := proper.2 }
      else none

/-- `_monitored_intervals`, with its `ORDER BY`. -/
def monitoredIntervals (deviceIds : List String) (start finish : Int) (rows : List NormalizedInterval) :
    List AuthoritativeInterval :=
  let selected := rows.filter fun row =>
    row.deviceId ∈ deviceIds ∧ row.intervalStart < finish ∧ start < row.intervalEnd
  (sortedBy (fun row : NormalizedInterval => toLex (row.intervalStart, row.id)) selected).filterMap
    (monitoredInterval start finish)

inductive ImportKind where
  | interval | daily | cycleCumulative | cycleDates | billTotal
  deriving DecidableEq, Repr

inductive CalculationRole where
  | tariffRule | referenceOnly | sensorMeasurements | advancedExternalCorrection
  deriving DecidableEq, Repr

/-- A row of an import, as far as it could be read. -/
structure ImportedRow where
  start : Int
  finish : Int
  energyKwh : Rat
  deriving DecidableEq, Repr

/-- A committed import; a row that does not parse is `none`. -/
structure UtilityUsageImport where
  id : String
  importKind : ImportKind
  calculationRole : CalculationRole
  normalizedRows : List (Option ImportedRow)
  deriving DecidableEq, Repr

def importedInterval (importId : String) (start finish : Int) (row : ImportedRow) : Option AuthoritativeInterval :=
  let left := max row.start start
  let right := min row.finish finish
  if row.energyKwh < 0 ∨ row.finish ≤ row.start then none
  else if proper : left < right then
    some { intervalId := none, importId := some importId, start := left, finish := right
           energyKwh := row.energyKwh * (secondsBetween left right / secondsBetween row.start row.finish)
           qualityFlags := ["utility_import"], ordered := proper }
  else none

/-- `_parse_imported_intervals` -/
def parseImportedIntervals (imports : List UtilityUsageImport) (start finish : Int) : List AuthoritativeInterval :=
  imports.flatMap fun item =>
    if (item.importKind = .interval ∨ item.importKind = .daily) ∧
        item.calculationRole = .advancedExternalCorrection then
      item.normalizedRows.reduceOption.filterMap (importedInterval item.id start finish)
    else []

/-! ## Rate versions -/

/-- The span of the cycle in which a rate version applies, with its engine. -/
structure TierContext where
  start : Int
  finish : Int
  rateVersion : String
  engine : RateEngine
  ordered : start < finish

namespace TierContext

def Holds (context : TierContext) (instant : Int) : Prop := context.start ≤ instant ∧ instant < context.finish

instance (context : TierContext) (instant : Int) : Decidable (context.Holds instant) :=
  inferInstanceAs (Decidable (_ ∧ _))

def tiered (context : TierContext) : Bool := context.engine.plan.pricingModel.isTiered

end TierContext

/-- `_context_at` -/
def tierContextAt (contexts : List TierContext) (instant : Int) : Option TierContext :=
  contexts.find? fun context => context.Holds instant

/-- A part of an interval that lies in one context. -/
structure RatePart where
  start : Int
  finish : Int
  energyKwh : Rat
  context : TierContext

/-- The instants at which a window is cut: its ends and those of the contexts inside it. -/
def rateBoundaries (contexts : List TierContext) (start finish : Int) : List Int :=
  sortedSet ([start, finish] ++ contexts.flatMap fun context =>
    [context.start, context.finish].filter fun value => decide (start < value ∧ value < finish))

/-- `_split_for_rate_boundaries` -/
def splitForRateBoundaries (contexts : List TierContext) (interval : AuthoritativeInterval) : List RatePart :=
  (Library.pairwise (rateBoundaries contexts interval.start interval.finish)).filterMap fun (left, right) =>
    (tierContextAt contexts (left + half (right - left))).map fun context =>
      { start := left, finish := right
        energyKwh := interval.energyKwh * secondsBetween left right / secondsBetween interval.start interval.finish
        context := context }

/-! ## The allocation -/

/-- The key under which the segments of an interval are counted. -/
inductive IntervalKey where
  | interval (id : String)
  | imported (importId : Option String) (start finish : Int)
  deriving DecidableEq, Repr

structure SegmentRow where
  intervalId : Option String
  importId : Option String
  segmentOrder : Nat
  start : Int
  finish : Int
  rateVersion : String
  tierId : String
  tierName : String
  touPeriod : Option String
  cumulativeStartKwh : Option Rat
  cumulativeEndKwh : Option Rat
  energyKwh : Rat
  pricePerKwh : Rat
  energyCharge : Rat
  thresholdKwh : Option Rat
  qualityFlags : List String
  deriving DecidableEq, Repr

/-- What the loop over the intervals carries along. -/
structure TierAllocation where
  cumulative : Rat
  usageByTier : List (String × Rat) := []
  chargeByTier : List (String × Rat) := []
  segments : List SegmentRow := []
  segmentOrders : List (IntervalKey × Nat) := []
  missingRate : Bool := false
  deriving DecidableEq, Repr

namespace AuthoritativeInterval

/-- `interval_id or ""` and `interval_id or f"import:…"` take an empty id for none. -/
def intervalKey (interval : AuthoritativeInterval) : IntervalKey :=
  match interval.intervalId with
  | some id => if id = "" then .imported interval.importId interval.start interval.finish else .interval id
  | none => .imported interval.importId interval.start interval.finish

def sortKey (interval : AuthoritativeInterval) : Int ×ₗ Int ×ₗ String :=
  toLex (interval.start, toLex (interval.finish, interval.intervalId.getD ""))

end AuthoritativeInterval

/-- The bound of the first tier with the id. -/
def Calculation.thresholdOf (calculation : Calculation) (tierId : String) : Option Rat :=
  (calculation.tierThresholds.find? fun tier => tier.tier.tierId = tierId).bind ResolvedTier.upperBoundKwh

/-- The body of the loop over the slices of a part. -/
def recordSegment (interval : AuthoritativeInterval) (part : RatePart) (calculation : Calculation)
    (state : TierAllocation) (value : CostSlice) : TierAllocation :=
  match value.tierId, value.tierName with
  | some tierId, some tierName =>
      let key := interval.intervalKey
      let row : SegmentRow :=
        { intervalId := interval.intervalId, importId := interval.importId
          segmentOrder := amountAt state.segmentOrders key
          start := value.start, finish := value.finish, rateVersion := part.context.rateVersion
          tierId := tierId, tierName := tierName, touPeriod := value.touPeriod
          cumulativeStartKwh := value.cumulativeStartKwh, cumulativeEndKwh := value.cumulativeEndKwh
          energyKwh := value.energyKwh, pricePerKwh := value.pricePerKwh, energyCharge := value.cost
          thresholdKwh := calculation.thresholdOf tierId, qualityFlags := interval.qualityFlags }
      { state with
        segmentOrders := addAmount state.segmentOrders key 1
        usageByTier := addAmount state.usageByTier tierId value.energyKwh
        chargeByTier := addAmount state.chargeByTier tierId value.cost
        segments := state.segments ++ [row] }
  | _, _ => state

section Cycle
variable (cycleStart cycleEnd : Int) (contexts : List TierContext)

/-- The calculation of a part on top of the usage so far. -/
def RatePart.request (part : RatePart) (cumulative : Rat) : CalculationRequest :=
  { start := part.start, finish := part.finish, energyKwh := part.energyKwh
    cumulativeUsageBeforeKwh := cumulative, cycleStart := some cycleStart, cycleEnd := some cycleEnd }

/-- The body of the loop over the parts of an interval. -/
def allocatePart (interval : AuthoritativeInterval) (state : TierAllocation) (part : RatePart) :
    Except EngineError TierAllocation :=
  if part.context.tiered then do
    let calculation ← part.context.engine.calculate (part.request cycleStart cycleEnd state.cumulative)
    let recorded := calculation.slices.foldl (recordSegment interval part calculation) state
    pure { recorded with cumulative := recorded.cumulative + part.energyKwh }
  else pure { state with missingRate := true }

/-- The body of the loop over the intervals. -/
def allocateInterval (state : TierAllocation) (interval : AuthoritativeInterval) : Except EngineError TierAllocation :=
  let parts := splitForRateBoundaries contexts interval
  if parts.isEmpty then pure { state with missingRate := true }
  else parts.foldlM (allocatePart cycleStart cycleEnd interval) state

/-- A segment that only shows the tier reached by an explicit cumulative usage. -/
def contextRow (importId : Option String) (part : RatePart) (calculation : Calculation) (cumulative : Rat)
    (rows : List SegmentRow) (value : CostSlice) : List SegmentRow :=
  match value.tierId, value.tierName with
  | some tierId, some tierName => rows ++
      [{ intervalId := none, importId := importId, segmentOrder := rows.length
         start := value.start, finish := value.finish, rateVersion := part.context.rateVersion
         tierId := tierId, tierName := tierName, touPeriod := value.touPeriod
         cumulativeStartKwh := some cumulative, cumulativeEndKwh := some cumulative
         energyKwh := 0, pricePerKwh := value.pricePerKwh, energyCharge := 0
         thresholdKwh := calculation.thresholdOf tierId, qualityFlags := ["account_tier_context_only"] }]
  | _, _ => rows

def contextPart (importId : Option String) (cumulative : Rat) (rows : List SegmentRow) (part : RatePart) :
    Except EngineError (List SegmentRow) :=
  if part.context.tiered then do
    let calculation ← part.context.engine.calculate (part.request cycleStart cycleEnd cumulative)
    pure (calculation.slices.foldl (contextRow importId part calculation cumulative) rows)
  else pure rows

/-- The rest of the cycle from the given instant, without energy. From the end of the cycle on there is no
context, so nothing is left then. -/
def contextSegments (cumulative : Rat) (begins : Int) (importId : Option String) (rows : List SegmentRow) :
    Except EngineError (List SegmentRow) :=
  if ordered : begins < cycleEnd then
    let interval : AuthoritativeInterval :=
      { intervalId := none, importId := importId, start := begins, finish := cycleEnd, energyKwh := 0
        qualityFlags := ["account_tier_context_only"], ordered := ordered }
    (splitForRateBoundaries contexts interval).foldlM (contextPart cycleStart cycleEnd importId cumulative) rows
  else pure rows

/-- What is reported, and stored with the cycle. -/
structure CycleTierStatus where
  cumulative : Rat
  usageByTier : List (String × Rat)
  chargeByTier : List (String × Rat)
  segments : List SegmentRow
  missingRate : Bool
  coverageSeconds : Rat
  deriving DecidableEq, Repr

/-- The segments after the loop. `context` is the instant and the import of an explicit cumulative usage, where
there is one; it is used when no interval is. -/
def reportedSegments (context : Option (Int × Option String)) (intervals : List AuthoritativeInterval)
    (allocation : TierAllocation) : Except EngineError (List SegmentRow) :=
  match context, intervals with
  | some (begins, importId), [] =>
      contextSegments cycleStart cycleEnd contexts allocation.cumulative (max begins cycleStart) importId
        allocation.segments
  | _, _ => pure allocation.segments

/-- `calculate_cycle_tier_status` from the loop on. -/
def calculateCycleTierStatus (initialUsage : Rat) (context : Option (Int × Option String))
    (intervals : List AuthoritativeInterval) : Except EngineError CycleTierStatus := do
  let allocation ← (sortedBy AuthoritativeInterval.sortKey intervals).foldlM
    (allocateInterval cycleStart cycleEnd contexts) { cumulative := initialUsage }
  let segments ← reportedSegments cycleStart cycleEnd contexts context intervals allocation
  pure { cumulative := allocation.cumulative
         usageByTier := allocation.usageByTier
         chargeByTier := allocation.chargeByTier
         segments := segments
         missingRate := allocation.missingRate
         coverageSeconds := (intervals.map fun interval => secondsBetween interval.start interval.finish).sum }

end Cycle
end PowerMonitor.Rates
