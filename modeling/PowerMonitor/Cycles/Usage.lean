import PowerMonitor.Cycles.Service

/-! The usage that a cycle is calculated from.

`calculate_cycle_tier_status` first decides by the usage authority of the account which of the sensors, the manual entries
and the committed imports count. What it comes to depends on the window of the cycle and on these, and on nothing else of
the cycle.
-/

set_option autoImplicit false
namespace PowerMonitor.Cycles
open Library Rates Calendar

inductive AuthorityType where
  | completeSiteAggregate | serviceLegPair | wholeAccountMeter
  | utilityIntervalImport | manualCycleUsage | externalFeed | partialMonitoredCircuits
  deriving DecidableEq, Repr

def SENSOR_AUTHORITY_TYPES : List AuthorityType := [.completeSiteAggregate, .serviceLegPair, .wholeAccountMeter]

def authorityCalculationRole (authority : AuthorityType) : CalculationRole :=
  if authority ∈ SENSOR_AUTHORITY_TYPES then .sensorMeasurements else .advancedExternalCorrection

/-- The authority of an account. `billReference` is what `is_bill_reference` makes of its source. -/
structure AccountUsageAuthority where
  authorityType : AuthorityType
  calculationRole : CalculationRole
  billReference : Bool := false
  completeAccount : Bool := true
  deriving DecidableEq, Repr

/-- An entry of cumulative usage that is in force as an external correction. -/
structure ManualStart where
  effectiveAt : Int
  cumulativeKwh : Rat
  deriving DecidableEq, Repr

/-- What a calculation reads beside the window of the cycle and the imports. -/
structure CycleSources where
  authority : Option AccountUsageAuthority
  /-- `_authority_device_ids` -/
  deviceIds : List String := []
  normalizedIntervals : List NormalizedInterval := []
  manualUsages : List ManualStart := []
  /-- `_rate_contexts`, of a window. -/
  rateContexts : Int → Int → List TierContext
  /-- There is a row of `RateTierDefinition` for the version and the tier. -/
  tierDefined : String → String → Bool := fun _ _ => true

/-- `_committed_imports` -/
def CycleBook.committedImports (book : CycleBook) (accountId : String) : List UsageImport :=
  book.imports.filter fun item => item.utilityAccountId = accountId ∧ item.reversedAt = none

/-- What `_parse_imported_intervals` can read of a row. -/
def ImportRow.usage? : ImportRow → Option ImportedRow
  | .usage start finish energyKwh => some ⟨start, finish, energyKwh⟩
  | _ => none

def UsageImport.readable (item : UsageImport) : UtilityUsageImport where
  id := item.id
  importKind := item.importKind
  calculationRole := item.calculationRole
  normalizedRows := item.normalizedRows.map ImportRow.usage?

/-- `_manual_start`: the latest entry in the window. -/
def manualStart (manuals : List ManualStart) (start finish : Int) : Option ManualStart :=
  ((sortedBy (fun entry : ManualStart => -entry.effectiveAt)) (manuals.filter fun entry =>
    start ≤ entry.effectiveAt ∧ entry.effectiveAt < finish)).head?

def UsageImport.Cumulative (item : UsageImport) : Prop :=
  item.importKind = .cycleCumulative ∧ item.calculationRole = .advancedExternalCorrection

instance (item : UsageImport) : Decidable item.Cumulative := inferInstanceAs (Decidable (_ ∧ _))

/-- The imported totals, each with its import. -/
def importedTotals (imports : List UsageImport) : List (ManualStart × String) :=
  (imports.filter fun item => item.Cumulative).flatMap fun item => item.normalizedRows.filterMap fun
    | .cumulative effectiveAt cumulativeKwh => some (⟨effectiveAt, cumulativeKwh⟩, item.id)
    | _ => none

/-- The first of the latest totals, as `max` takes it. -/
def latestTotal (totals : List (ManualStart × String)) : Option (ManualStart × String) :=
  totals.foldl (fun found total => match found with
    | none => some total
    | some best => if best.1.effectiveAt < total.1.effectiveAt then some total else some best) none

/-- What the allocation starts from. -/
structure UsageInputs where
  usageSource : CalculationRole
  initialUsage : Rat
  context : Option (Int × Option String)
  intervals : List AuthoritativeInterval

section Reading
variable (sources : CycleSources) (imports : List UsageImport) (start finish : Int)

/-- Every device of the authority has an interval in the window. -/
def CycleSources.AllReport (begins finish : Int) : Prop :=
  ∀ deviceId ∈ sources.deviceIds, ∃ row ∈ sources.normalizedIntervals,
    row.deviceId = deviceId ∧ (monitoredInterval begins finish row).isSome

instance (begins finish : Int) : Decidable (sources.AllReport begins finish) :=
  inferInstanceAs (Decidable (∀ deviceId ∈ _, ∃ row ∈ _, _))

/-- Authorities that take an explicit cumulative usage. -/
def CUMULATIVE_AUTHORITY_TYPES : List AuthorityType := [.manualCycleUsage, .externalFeed, .partialMonitoredCircuits]

def authoritativeIntervals (authority : AuthorityType) (begins : Int) : List AuthoritativeInterval :=
  if authority = .utilityIntervalImport then parseImportedIntervals (imports.map UsageImport.readable) start finish
  else if authority = .partialMonitoredCircuits then []
  else monitoredIntervals sources.deviceIds begins finish sources.normalizedIntervals

/-- The usage of an authority that may be calculated with. `imports` and `manual` are those it takes into account. -/
def readAuthority (authority : AccountUsageAuthority) (imports : List UsageImport) (manual : Option ManualStart) :
    Option UsageInputs :=
  let takesTotals : Bool := authority.authorityType ∈ CUMULATIVE_AUTHORITY_TYPES
  let entered := if takesTotals then manual else none
  let begins := (entered.map ManualStart.effectiveAt).getD start
  let intervals := authoritativeIntervals sources imports start finish authority.authorityType begins
  let sensors : Bool := authority.authorityType ∈ SENSOR_AUTHORITY_TYPES
  let imported := if takesTotals ∧ intervals = [] then latestTotal (importedTotals imports) else none
  let initialUsage := ((imported.map Prod.fst <|> entered).map ManualStart.cumulativeKwh).getD 0
  let contextStart := ((imported.map Prod.fst <|> entered).map ManualStart.effectiveAt).getD start
  let hasCumulativeImport : Bool := ∃ item ∈ imports, item.Cumulative ∧ item.normalizedRows ≠ []
  let contexts := sources.rateContexts start finish
  if sensors ∧ sources.deviceIds ≠ [] ∧ ¬ sources.AllReport begins finish then none
  else if authority.completeAccount = false ∧ authority.authorityType = .partialMonitoredCircuits ∧ manual = none ∧
      hasCumulativeImport = false then none
  else if ¬ ∃ context ∈ contexts, context.tiered = true then none
  else if intervals = [] ∧ initialUsage = 0 ∧ manual = none ∧ hasCumulativeImport = false then none
  else some
    { usageSource := if sensors then .sensorMeasurements else .advancedExternalCorrection
      initialUsage := initialUsage
      context := if manual ≠ none ∨ hasCumulativeImport = true then some (contextStart, imported.map Prod.snd) else none
      intervals := intervals }

/-- The start of `calculate_cycle_tier_status`. A sensor authority sees neither imports nor manual entries. -/
def readUsage : Option UsageInputs :=
  sources.authority.bind fun authority =>
    if authority.calculationRole = .referenceOnly ∨ authority.billReference = true ∨
        authority.calculationRole ≠ authorityCalculationRole authority.authorityType then none
    else if authority.authorityType ∈ SENSOR_AUTHORITY_TYPES then readAuthority sources start finish authority [] none
    else readAuthority sources start finish authority imports (manualStart sources.manualUsages start finish)

/-- The status of the window. -/
def cycleStatus? : Option (Except EngineError CycleTierStatus) :=
  (readUsage sources imports start finish).map fun inputs =>
    calculateCycleTierStatus start finish (sources.rateContexts start finish) inputs.initialUsage inputs.context
      inputs.intervals

/-- The division of a `timedelta`, which rounds halves to even. -/
def divideAndRound (dividend divisor : Int) : Int :=
  let quotient := dividend / divisor
  let remainder := dividend % divisor
  if divisor < 2 * remainder ∨ (2 * remainder = divisor ∧ quotient % 2 = 1) then quotient + 1 else quotient

/-- The context at the given time, or the last one. -/
def activeContext? (contexts : List TierContext) (now : Int) : Option TierContext :=
  let instant := min (max now start) finish
  tierContextAt contexts (min instant (finish - divideAndRound (finish - start) 1000000)) <|> contexts.getLast?

/-- `calculate_cycle_tier_status`, up to the rows that it stores. -/
def cycleCalculation (now : Int) : CycleCalculation :=
  match readUsage sources imports start finish with
  | none => .unavailable
  | some inputs =>
      let contexts := sources.rateContexts start finish
      let result := do
        let status ← calculateCycleTierStatus start finish contexts inputs.initialUsage inputs.context inputs.intervals
        let tiers ← match activeContext? start finish contexts now with
          | some active => active.engine.resolvedTiers start finish
          | none => pure []
        pure (status, tiers)
      match result with
      | .error _ => .raised .integrity
      | .ok (status, tiers) => .computed inputs.usageSource status.segments
          (tiers.map fun tier => (tier.tier.tierId, amountAt status.usageByTier tier.tier.tierId,
            amountAt status.chargeByTier tier.tier.tierId))
          (status.segments.any fun row => !sources.tierDefined row.rateVersion row.tierId)

end Reading

end PowerMonitor.Cycles
