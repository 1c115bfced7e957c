import Mathlib.Data.Finset.Basic
import PowerMonitor.Assignments.Readers
import PowerMonitor.Library.Aggregates
import PowerMonitor.Library.Slots
import PowerMonitor.Library.SortedRows
import PowerMonitor.Rates.Engine

/-! The rows a history query reads and what it accumulates for a sensor in a bucket.

Instants are microseconds and decimals are exact. Labels and links of a rate plan travel with its version.
-/

set_option autoImplicit false
namespace PowerMonitor.History
open Library Rates
open Assignments (RateVersion RateContext)

/-! ## Stored rows -/

/-- A reading covers a positive time: the table checks `interval_end > interval_start`. -/
structure RawReading where
  id : String
  deviceId : String
  sequence : Nat := 1
  intervalStart : Int
  intervalEnd : Int
  voltageAvg : Option Rat := none
  voltageMin : Option Rat := none
  voltageMax : Option Rat := none
  currentAvg : Option Rat := none
  powerAvg : Option Rat := none
  powerMax : Option Rat := none
  powerFactor : Option Rat := none
  frequencyHz : Option Rat := none
  deviceIntervalEnergyWh : Option Rat := none
  qualityFlags : List String := []
  ingestedAt : Int := 0
  validInterval : intervalStart < intervalEnd

def RawReading.data (row : RawReading) :=
  ((row.id, row.deviceId, row.sequence, row.intervalStart, row.intervalEnd),
    [row.voltageAvg, row.voltageMin, row.voltageMax, row.currentAvg, row.powerAvg, row.powerMax, row.powerFactor,
      row.frequencyHz, row.deviceIntervalEnergyWh],
    row.qualityFlags, row.ingestedAt)

theorem RawReading.data_inj {first second : RawReading} : first.data = second.data ↔ first = second := by
  cases first
  cases second
  simp [data, and_assoc]

instance : DecidableEq RawReading := fun first second => decidable_of_iff (first.data = second.data) RawReading.data_inj

structure NormalizedInterval where
  id : String
  rawReadingId : String
  deviceId : String
  selectedEnergyWh : Option Rat := none
  deriving DecidableEq, Repr

structure TierAllocationSegment where
  billingCycleId : String
  utilityAccountId : String
  normalizedIntervalId : Option String := none
  segmentOrder : Int := 0
  intervalStart : Int
  intervalEnd : Int
  rateVersionId : String
  tierStableId : String
  tierName : String
  touPeriod : Option String := none
  cumulativeStartKwh : Rat
  cumulativeEndKwh : Rat
  segmentEnergyKwh : Rat
  pricePerKwh : Rat
  unroundedEnergyCharge : Rat
  usageAuthorityType : String
  recalculationVersion : Nat
  deriving DecidableEq, Repr

structure BillingCycle where
  id : String
  recalculationVersion : Nat
  deriving DecidableEq, Repr

structure Store where
  rawReadings : List RawReading := []
  normalizedIntervals : List NormalizedInterval := []
  tierAllocationSegments : List TierAllocationSegment := []
  billingCycles : List BillingCycle := []

/-- A reading with the normalized interval it is joined to; `raw_reading_id` is unique. -/
structure SourceRow where
  raw : RawReading
  normalized : Option NormalizedInterval := none
  deriving DecidableEq

def Store.normalizedOf (store : Store) (raw : RawReading) : Option NormalizedInterval :=
  store.normalizedIntervals.find? fun row => row.rawReadingId = raw.id

/-- `normalized.selected_energy_wh if normalized else raw.device_interval_energy_wh` -/
def SourceRow.selectedEnergyWh (row : SourceRow) : Option Rat :=
  match row.normalized with
  | some normalized => normalized.selectedEnergyWh
  | none => row.raw.deviceIntervalEnergyWh

/-! ## The request's work -/

inductive HistoryMetric where
  | power | energy | voltage | current | powerFactor | frequency | energyCost | usageCost
  deriving DecidableEq, Repr

inductive DisplayMode where | combined | individual | combinedPlusIndividual
  deriving DecidableEq, Repr

structure HistoryExecutionPlan where
  needsPower : Bool
  needsEnergy : Bool
  needsVoltage : Bool
  needsCurrent : Bool
  needsPowerFactor : Bool
  needsFrequency : Bool
  needsCost : Bool
  returnCombined : Bool := true
  buildIndividual : Bool := false
  deriving DecidableEq, Repr

def HistoryExecutionPlan.fromRequest (metrics : List HistoryMetric) (mode : DisplayMode) : HistoryExecutionPlan :=
  let needsCost := decide (.energyCost ∈ metrics ∨ .usageCost ∈ metrics)
  { needsPower := .power ∈ metrics
    needsEnergy := .energy ∈ metrics ∨ needsCost
    needsVoltage := .voltage ∈ metrics
    needsCurrent := .current ∈ metrics
    needsPowerFactor := .powerFactor ∈ metrics
    needsFrequency := .frequency ∈ metrics
    needsCost := needsCost
    returnCombined := mode = .combined ∨ mode = .combinedPlusIndividual
    buildIndividual := mode = .individual ∨ mode = .combinedPlusIndividual }

/-- Bucket boundaries rise: they are read from a sorted set, or step forward from the start. -/
structure Boundaries where
  points : List Int
  rising : points.Pairwise (· < ·)
  deriving DecidableEq

/-- One bucket and its place. -/
structure Window where
  bucketIndex : Nat
  start : Int
  finish : Int
  deriving DecidableEq, Repr

def windows (points : List Int) : List Window :=
  (pairwise points).zipIdx.map fun (piece, index) => ⟨index, piece.1, piece.2⟩

/-! ## Accumulators -/

structure CostKey where
  accountId : String
  versionId : String
  touPeriod : String
  tierId : Option String
  rate : Rat
  recalculationVersion : Option Nat
  deriving DecidableEq, Repr

structure CostPart where
  accountId : String
  version : RateVersion
  touPeriod : String
  tierId : Option String := none
  tierName : Option String := none
  cumulativeStartKwh : Option Rat := none
  cumulativeEndKwh : Option Rat := none
  recalculationVersion : Option Nat := none
  usageAuthorityType : Option String := none
  energyKwh : Rat := 0
  cost : Rat := 0
  deriving DecidableEq, Repr

/-- The keyword arguments of `add_cost`. -/
structure Charge where
  accountId : String
  version : RateVersion
  touPeriod : String
  rate : Rat
  energyKwh : Rat
  cost : Rat
  tierId : Option String := none
  tierName : Option String := none
  cumulativeStartKwh : Option Rat := none
  cumulativeEndKwh : Option Rat := none
  recalculationVersion : Option Nat := none
  usageAuthorityType : Option String := none
  deriving DecidableEq, Repr

structure DeviceBucketAccumulator where
  coverageRanges : List (Int × Int) := []
  powerWeighted : Rat := 0
  powerSeconds : Rat := 0
  peakPowerW : Option Rat := none
  energyKwh : Rat := 0
  energyAvailable : Bool := false
  voltageWeighted : Rat := 0
  voltageSeconds : Rat := 0
  voltageMinV : Option Rat := none
  voltageMaxV : Option Rat := none
  currentWeighted : Rat := 0
  currentSeconds : Rat := 0
  factorWeighted : Rat := 0
  factorWeight : Rat := 0
  frequencyWeighted : Rat := 0
  frequencySeconds : Rat := 0
  qualityFlags : Finset String := ∅
  costParts : List (CostKey × CostPart) := []
  costMissing : Bool := false
  deriving DecidableEq

/-- `accumulators[index][device_id]` -/
abbrev Accumulators := Nat × String → DeviceBucketAccumulator

def Charge.key (charge : Charge) : CostKey :=
  ⟨charge.accountId, charge.version.id, charge.touPeriod, charge.tierId, charge.rate, charge.recalculationVersion⟩

/-- The part a key begins with. -/
def Charge.opening (charge : Charge) : CostPart :=
  { accountId := charge.accountId, version := charge.version, touPeriod := charge.touPeriod
    tierId := charge.tierId, tierName := charge.tierName
    cumulativeStartKwh := charge.cumulativeStartKwh, cumulativeEndKwh := charge.cumulativeEndKwh
    recalculationVersion := charge.recalculationVersion, usageAuthorityType := charge.usageAuthorityType }

def CostPart.add (part : CostPart) (charge : Charge) : CostPart :=
  { part with
    energyKwh := part.energyKwh + charge.energyKwh
    cost := part.cost + charge.cost
    cumulativeStartKwh := charge.cumulativeStartKwh.elim part.cumulativeStartKwh (keepMin part.cumulativeStartKwh)
    cumulativeEndKwh := charge.cumulativeEndKwh.elim part.cumulativeEndKwh (keepMax part.cumulativeEndKwh) }

def DeviceBucketAccumulator.addCost (accumulator : DeviceBucketAccumulator) (charge : Charge) : DeviceBucketAccumulator :=
  let part := (accumulator.costParts.lookup charge.key).getD charge.opening
  { accumulator with costParts := setKey charge.key (part.add charge) accumulator.costParts }

/-- One pass of the loop over the ranges: the range in hand and the seconds of those before it. -/
def mergeRange (state : (Int × Int) × Rat) (range : Int × Int) : (Int × Int) × Rat :=
  if range.1 ≤ state.1.2 then ((state.1.1, max state.1.2 range.2), state.2)
  else (range, state.2 + secondsBetween state.1.1 state.1.2)

def mergedSeconds (state : (Int × Int) × Rat) : Rat := state.2 + secondsBetween state.1.1 state.1.2

/-- `_merge_duration`, in seconds. -/
def mergeDuration (ranges : List (Int × Int)) : Rat :=
  match sortByKey toLex ranges with
  | [] => 0
  | first :: rest => mergedSeconds (rest.foldl mergeRange (first, 0))

end PowerMonitor.History
