import Mathlib.Data.Prod.Lex
import Mathlib.Data.String.Basic
import PowerMonitor.Library.Grouping
import PowerMonitor.Library.Linked
import PowerMonitor.Rates.Document

/-! The rows of a rate version.

A version holds its tariff twice: as a normalized document, and as rows of seasons, periods and the rest. The rows of a
document are written together with it. A version that a clone makes has rows only, and they are read back as a document.
-/

set_option autoImplicit false
namespace PowerMonitor.Rates
open Library Calendar

structure RateSeasonRow where
  name : String
  start : MonthDay
  finish : MonthDay
  priority : Int := 0
  deriving DecidableEq, Repr

structure RatePeriodRow where
  seasonName : String
  dayType : DocumentDayType
  startMinute : Int
  endMinute : Int
  bucket : String
  pricePerKwh : Rat
  displayOrder : Int := 0
  deriving DecidableEq, Repr

structure RateThresholdRule where
  basis : ThresholdBasis
  dailyBaselineKwh : Option Rat
  roundingPolicy : RoundingPolicy
  expectedCycleStartDay : Nat
  deriving DecidableEq, Repr

structure FixedChargeRule where
  name : String
  amountPerDay : Rat
  deriving DecidableEq, Repr

/-- The child rows of a version, table by table. -/
structure VersionRows where
  seasons : List RateSeasonRow := []
  dayTypes : List DocumentDayType := []
  periods : List RatePeriodRow := []
  thresholdRules : List RateThresholdRule := []
  tierDefinitions : List Tier := []
  seasonalBaselines : List SeasonalBaseline := []
  adjustments : List Adjustment := []
  fixedChargeRules : List FixedChargeRule := []
  /-- The credits of the baseline rules. -/
  baselineRules : List Rat := []
  deriving DecidableEq, Repr

/-! ## The rows of a document -/

def RateSeasonDocument.periodRows (season : RateSeasonDocument) : List RatePeriodRow :=
  season.schedules.flatMap fun schedule => schedule.periods.map fun period =>
    { seasonName := season.name, dayType := schedule.dayType, startMinute := period.startMinute
      endMinute := period.endMinute, bucket := period.label, pricePerKwh := period.pricePerKwh }

/-- `_replace_version_rows` -/
def replaceVersionRows (document : RatePlanDocument) : VersionRows where
  seasons := document.seasons.map fun season =>
    { name := season.name, start := season.start, finish := season.finish, priority := season.priority }
  dayTypes := (document.seasons.flatMap fun season => season.schedules.map DayScheduleDocument.dayType).eraseDups
  periods := document.seasons.flatMap RateSeasonDocument.periodRows
  thresholdRules :=
    [{ basis := document.threshold.basis
       dailyBaselineKwh := document.threshold.dailyBaselineKwh
       roundingPolicy := document.threshold.roundingPolicy
       expectedCycleStartDay := document.expectedStartDay }]
  tierDefinitions := document.tiers.map TierDefinitionDocument.lower
  seasonalBaselines := document.threshold.seasonalBaselines.map SeasonalBaselineDocument.lower
  adjustments := document.adjustments
  fixedChargeRules := (document.adjustments.filter fun item => item.component = .dailyFixedCharge).map fun item =>
    { name := item.name, amountPerDay := item.value }
  baselineRules := (document.adjustments.filter fun item => item.component = .baselineCredit).map Adjustment.value

/-! ## The rows of a clone -/

structure ClonePeriod where
  season : String
  dayType : DayType
  startMinute : Int
  endMinute : Int
  bucket : String
  pricePerKwh : Rat
  deriving DecidableEq, Repr

/-- The tariff in the payload of `clone_rate_version`. The seasons are a dictionary. -/
structure ClonePayload where
  seasons : List (String × MonthDay × MonthDay) :=
    [("summer", ⟨6, 1⟩, ⟨9, 30⟩), ("winter", ⟨10, 1⟩, ⟨5, 31⟩)]
  periods : List ClonePeriod
  baseServiceChargePerDay : Option Rat := none
  baselineCreditPerKwh : Option Rat := none
  distinct : (seasons.map Prod.fst).Nodup := by decide
  deriving DecidableEq, Repr

/-- `rate_period_gap` with the key of the table. -/
inductive RatePeriodGap where
  | notContiguous (season : String) (dayType : DayType)
  | notWholeDay (season : String) (dayType : DayType)
  deriving DecidableEq, Repr

def clonePeriodStep (key : String × DayType) (cursor : Int) (period : ClonePeriod) : Except RatePeriodGap Int := do
  raiseIf (period.startMinute ≠ cursor ∨ period.endMinute ≤ cursor) (.notContiguous key.1 key.2)
  pure period.endMinute

/-- The loop over the tables of the payload: each is contiguous and covers the day. -/
def checkCloneTable (table : (String × DayType) × List ClonePeriod) : Except RatePeriodGap Unit := do
  let cursor ← (sortedBy ClonePeriod.startMinute table.2).foldlM (clonePeriodStep table.1) 0
  raiseIf (cursor ≠ 1440) (.notWholeDay table.1.1 table.1.2)

def ClonePayload.tables (payload : ClonePayload) : List ((String × DayType) × List ClonePeriod) :=
  collect (fun period => (period.season, period.dayType)) [] (fun values period => values ++ [period]) payload.periods

def DayType.document : DayType → DocumentDayType
  | .weekday => .weekday
  | .weekend => .weekend

def ClonePeriod.row (period : ClonePeriod) : RatePeriodRow :=
  { seasonName := period.season, dayType := period.dayType.document, startMinute := period.startMinute
    endMinute := period.endMinute, bucket := period.bucket, pricePerKwh := period.pricePerKwh }

/-- The rows that `clone_rate_version` adds, once its tables pass. -/
def cloneVersionRows (payload : ClonePayload) : Except RatePeriodGap VersionRows := do
  payload.tables.forM checkCloneTable
  pure
    { seasons := payload.seasons.map fun season => { name := season.1, start := season.2.1, finish := season.2.2 }
      dayTypes := [.weekday, .weekend]
      periods := payload.periods.map ClonePeriod.row
      fixedChargeRules := payload.baseServiceChargePerDay.toList.map fun amount =>
        { name := "Base service charge", amountPerDay := amount }
      baselineRules := payload.baselineCreditPerKwh.toList }

/-! ## Rows as a document -/

/-- A period of a document, unless its model refuses the row. -/
def RatePeriodRow.document? (row : RatePeriodRow) : Option RatePeriodDocument :=
  if valid : row.bucket ≠ "" ∧ (0 ≤ row.startMinute ∧ row.startMinute ≤ 1439) ∧
      (1 ≤ row.endMinute ∧ row.endMinute ≤ 1440) ∧ row.startMinute < row.endMinute then
    some
      { label := row.bucket, startMinute := row.startMinute, endMinute := row.endMinute, pricePerKwh := row.pricePerKwh
        labelled := valid.1, startInDay := valid.2.1, endInDay := valid.2.2.1, validInterval := valid.2.2.2 }
  else none

namespace VersionRows
variable (rows : VersionRows)

def orderedSeasons : List RateSeasonRow := sortedBy (fun row => toLex (-row.priority, row.name)) rows.seasons

def matching (season : String) (dayType : DocumentDayType) : List RatePeriodRow :=
  (sortedBy (fun row => toLex (row.displayOrder, row.startMinute)) rows.periods).filter fun row =>
    row.seasonName = season ∧ row.dayType = dayType

def schedule? (season : String) (dayType : DocumentDayType) : Option DayScheduleDocument := do
  let periods ← (rows.matching season dayType).mapM RatePeriodRow.document?
  some { dayType := dayType, periods := periods }

def season? (row : RateSeasonRow) : Option RateSeasonDocument := do
  let schedules ← (rows.dayTypes.filter fun dayType => rows.matching row.name dayType ≠ []).mapM (rows.schedule? row.name)
  if valid : row.start.Valid ∧ row.finish.Valid then
    some
      { name := row.name, start := row.start, finish := row.finish, priority := row.priority, schedules := schedules
        validStart := valid.1, validFinish := valid.2 }
  else none

/-- The rows of adjustments, or without any those that the account rules stand for. -/
def documentAdjustments : List Adjustment :=
  if rows.adjustments ≠ [] then sortedBy Adjustment.calculationOrder rows.adjustments
  else
    (rows.fixedChargeRules.head?.toList.map fun rule =>
      { name := rule.name, component := .dailyFixedCharge, value := rule.amountPerDay, unit := "per_day" }) ++
    rows.baselineRules.head?.toList.map fun credit =>
      { name := "Baseline credit", component := .baselineCredit, operation := .subtract, value := credit, unit := "per_kwh" }

theorem noFlatRate : ∀ rate ∈ (none : Option Rat), 0 ≤ rate := by simp

/-- `version_document` of a version without a normalized payload; its pricing model is the default of the column. -/
def versionDocument? (currency utility : String) : Option RatePlanDocument := do
  let seasons ← rows.orderedSeasons.mapM rows.season?
  some
    { currency := currency
      utility := utility
      pricingModel := .timeOfUse
      threshold := plainThreshold
      seasons := seasons
      adjustments := rows.documentAdjustments
      supported := timeOfUse_supported
      flatRateNonnegative := noFlatRate
      flatRatePresent := nofun
      twoTiers := nofun
      hybridOnly := by simp }

end VersionRows

end PowerMonitor.Rates
