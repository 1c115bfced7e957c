import PowerMonitor.History.Records

/-! Pricing a part of a reading.

Flat and time-of-use energy is priced by the engine of its rate context. Tiered energy takes the stored
allocation segments of its interval, or else those of the account that overlap it.
-/

set_option autoImplicit false
namespace PowerMonitor.History
open Library Rates Calendar
open Assignments (RateVersion RateContext findCostContexts)

/-! ## Tier segments -/

/-- The order of segments: by start, end and segment order. -/
def TierAllocationSegment.sortKey (segment : TierAllocationSegment) : Int ×ₗ Int ×ₗ Int :=
  toLex (segment.intervalStart, toLex (segment.intervalEnd, segment.segmentOrder))

def TierAllocationSegment.Overlaps (segment : TierAllocationSegment) (start finish : Int) : Prop :=
  segment.intervalStart < finish ∧ start < segment.intervalEnd

instance (segment : TierAllocationSegment) (start finish : Int) : Decidable (segment.Overlaps start finish) :=
  inferInstanceAs (Decidable (_ ∧ _))

/-- The segments of one account; a missing key of either dictionary stands for no segments. -/
structure TierSegmentIndex where
  segments : List TierAllocationSegment

namespace TierSegmentIndex
variable (index : TierSegmentIndex)

def byVersion (versionId : String) : List TierAllocationSegment :=
  sortByKey TierAllocationSegment.sortKey (index.segments.filter fun segment => segment.rateVersionId = versionId)

def byInterval (versionId intervalId : String) : List TierAllocationSegment :=
  sortByKey TierAllocationSegment.sortKey (index.segments.filter fun segment =>
    segment.rateVersionId = versionId ∧ segment.normalizedIntervalId = some intervalId)

/-- `while cursor > 0 and values[cursor - 1].end > start: cursor -= 1` -/
def walkBack (values : List TierAllocationSegment) (start : Int) : Nat → Nat
  | 0 => 0
  | cursor + 1 =>
      if values[cursor]?.any fun segment => start < segment.intervalEnd then walkBack values start cursor else cursor + 1

/-- The schedule fallback: the segments of the version from the cursor on that end after the start. -/
def fallback (values : List TierAllocationSegment) (start finish : Int) : List TierAllocationSegment :=
  let stop := values.countP fun segment => segment.intervalStart < finish
  let cursor := walkBack values start ((values.countP fun segment => segment.intervalStart ≤ start) - 1)
  ((values.take stop).drop cursor).filter fun segment => start < segment.intervalEnd

def overlapping (versionId : String) (normalizedIntervalId : Option String) (start finish : Int) :
    List TierAllocationSegment × Bool :=
  let exactly := (normalizedIntervalId.elim [] (index.byInterval versionId)).filter fun segment =>
    segment.Overlaps start finish
  if exactly ≠ [] then (exactly, false) else (fallback (index.byVersion versionId) start finish, true)

end TierSegmentIndex

/-- `tier_segments.overlapping(...) if tier_segments else ((), True)` -/
def matchingSegments (tierSegments : Option TierSegmentIndex) (versionId : String) (normalizedIntervalId : Option String)
    (start finish : Int) : List TierAllocationSegment × Bool :=
  tierSegments.elim ([], true) fun index => index.overlapping versionId normalizedIntervalId start finish

/-! ## Charges -/

section Apply
variable (engineOf : RateVersion → RateEngine)

/-- A part of a reading inside one rate context. -/
structure CostPiece where
  accountId : String
  version : RateVersion
  left : Int
  right : Int
  energyKwh : Rat

namespace CostPiece
variable (piece : CostPiece)

def request : CalculationRequest :=
  { start := piece.left, finish := piece.right, energyKwh := piece.energyKwh, costScope := .energyOnly }

/-- The charge of a priced slice: what the adjustments add is spread over the energy. -/
def sliceCharge (calculation : Calculation) (item : CostSlice) : Charge :=
  let extra := calculation.total - calculation.energyCharge
  let extraShare := if piece.energyKwh = 0 then 0 else extra * item.energyKwh / piece.energyKwh
  let cost := item.cost + extraShare
  { accountId := piece.accountId, version := piece.version, touPeriod := item.bucket
    rate := if item.energyKwh = 0 then item.pricePerKwh else cost / item.energyKwh
    energyKwh := item.energyKwh, cost := cost }

def applyEngine (accumulator : DeviceBucketAccumulator) : Except EngineError DeviceBucketAccumulator := do
  let calculation ← (engineOf piece.version).calculate piece.request
  pure ((calculation.slices.map (piece.sliceCharge calculation)).foldl DeviceBucketAccumulator.addCost accumulator)

/-- The label of a tier and its period; an empty period counts as none. -/
def tierLabel (segment : TierAllocationSegment) : String :=
  match segment.touPeriod with
  | some period => if period = "" then segment.tierName else segment.tierName ++ " / " ++ period
  | none => segment.tierName

def overlapSeconds (segment : TierAllocationSegment) : Rat :=
  secondsBetween (max piece.left segment.intervalStart) (min piece.right segment.intervalEnd)

/-- The charge of a matching segment. -/
def tierCharge (accountScheduleFallback : Bool) (weightedSeconds : Rat) (segment : TierAllocationSegment) : Option Charge :=
  let segmentSeconds := secondsBetween segment.intervalStart segment.intervalEnd
  let overlapSeconds := piece.overlapSeconds segment
  if segmentSeconds ≤ 0 ∨ overlapSeconds ≤ 0 then none
  else
    let fraction := overlapSeconds / segmentSeconds
    let allocatedEnergy :=
      if accountScheduleFallback ∧ weightedSeconds ≠ 0 then piece.energyKwh * overlapSeconds / weightedSeconds
      else segment.segmentEnergyKwh * fraction
    let allocatedCost :=
      if accountScheduleFallback then allocatedEnergy * segment.pricePerKwh else segment.unroundedEnergyCharge * fraction
    let offsetFraction :=
      secondsBetween segment.intervalStart (max piece.left segment.intervalStart) / segmentSeconds
    let cumulativeStart := segment.cumulativeStartKwh + segment.segmentEnergyKwh * offsetFraction
    some { accountId := piece.accountId, version := piece.version, touPeriod := tierLabel segment
           rate := segment.pricePerKwh, energyKwh := allocatedEnergy, cost := allocatedCost
           tierId := some segment.tierStableId, tierName := some segment.tierName
           cumulativeStartKwh := some cumulativeStart, cumulativeEndKwh := some (cumulativeStart + allocatedEnergy)
           recalculationVersion := some segment.recalculationVersion
           usageAuthorityType := some segment.usageAuthorityType }

def applyTiers (matching : List TierAllocationSegment × Bool) (accumulator : DeviceBucketAccumulator) :
    DeviceBucketAccumulator :=
  if matching.1 = [] then
    { accumulator with
      costMissing := true
      qualityFlags := insert "tier_recalculation_required" accumulator.qualityFlags }
  else
    let weightedSeconds := (matching.1.map piece.overlapSeconds).sum
    (matching.1.filterMap (piece.tierCharge matching.2 weightedSeconds)).foldl DeviceBucketAccumulator.addCost accumulator

end CostPiece

/-- What is known about the pricing of a sensor: its account, the account's contexts and segments. -/
structure DevicePricing where
  accountId : String := ""
  contexts : List RateContext := []
  tierSegments : Option TierSegmentIndex := none

/-- The body of the loop of `_apply_cost` over the pieces between the boundaries of the contexts. -/
def applyPiece (pricing : DevicePricing) (normalizedIntervalId : Option String) (start finish : Int) (energyKwh : Rat)
    (accumulator : DeviceBucketAccumulator) (part : Int × Int × Option RateContext) :
    Except EngineError DeviceBucketAccumulator :=
  let (left, right, selected) := part
  match selected with
  | none => .ok { accumulator with costMissing := true }
  | some context =>
      let piece : CostPiece :=
        { accountId := pricing.accountId, version := context.version, left := left, right := right
          energyKwh := energyKwh * secondsBetween left right / secondsBetween start finish }
      if (engineOf context.version).plan.pricingModel.isTiered then
        .ok (piece.applyTiers
          (matchingSegments pricing.tierSegments context.version.id normalizedIntervalId left right) accumulator)
      else piece.applyEngine engineOf accumulator

/-- `_apply_cost` -/
def applyCost (pricing : DevicePricing) (normalizedIntervalId : Option String) (start finish : Int) (energyKwh : Rat)
    (accumulator : DeviceBucketAccumulator) : Except EngineError DeviceBucketAccumulator :=
  if secondsBetween start finish ≤ 0 then .ok accumulator
  else (findCostContexts pricing.contexts start finish).foldlM
    (applyPiece engineOf pricing normalizedIntervalId start finish energyKwh) accumulator

end Apply
end PowerMonitor.History
