import PowerMonitor.Cycles.Finalized
import PowerMonitor.Cycles.Separation
import PowerMonitor.Cycles.Usage
import PowerMonitor.Rates.TierTotals

/-! The summaries of a recalculation against its segments.

Summaries are stored for the tiers of one version, the active one; segments for those of all versions in the cycle.
-/

set_option autoImplicit false
namespace PowerMonitor.Cycles
open Library Rates Calendar

/-- The tiers that a recalculation stores summaries for. -/
def activeTierIds (sources : CycleSources) (start finish now : Int) : List String :=
  match activeContext? start finish (sources.rateContexts start finish) now with
  | some active =>
      match active.engine.resolvedTiers start finish with
      | .ok tiers => tiers.map fun tier => tier.tier.tierId
      | .error _ => []
  | none => []

theorem activeTierIds_distinct (sources : CycleSources) (start finish now : Int) : (activeTierIds sources start finish now).Nodup := by
  unfold activeTierIds
  split
  · split
    · rename_i tiers resolved
      exact RateEngine.resolvedTiers_distinct resolved
    · exact List.nodup_nil
  · exact List.nodup_nil

/-- Whatever tier the usage of the window passes, the active version has a tier of that name. -/
def TiersCarryOver (sources : CycleSources) (imports : List UsageImport) (start finish now : Int) : Prop :=
  ∀ inputs, readUsage sources imports start finish = some inputs → ∀ tierId,
    PassesTier start finish inputs.initialUsage (pricedParts (sources.rateContexts start finish) inputs.intervals) tierId →
      tierId ∈ activeTierIds sources start finish now

/-- The rows agree on the usage and on the energy charge. -/
def Reconciled (summaries : List CycleTierSummary) (segments : List TierAllocationSegment) : Prop :=
  (summaries.map CycleTierSummary.usageKwh).sum = (segments.map fun segment => segment.row.energyKwh).sum ∧
    (summaries.map CycleTierSummary.energyCharge).sum = (segments.map fun segment => segment.row.energyCharge).sum

instance (summaries : List CycleTierSummary) (segments : List TierAllocationSegment) : Decidable (Reconciled summaries segments) :=
  inferInstanceAs (Decidable (_ ∧ _))

/-- What a calculation with rows computed. -/
theorem cycleCalculation_computed {sources : CycleSources} {imports : List UsageImport} {start finish now : Int}
    {usageSource : CalculationRole} {segments : List SegmentRow} {summaries : List (String × Rat × Rat)} {missing : Bool}
    (computed : cycleCalculation sources imports start finish now = .computed usageSource segments summaries missing) :
    ∃ inputs status, readUsage sources imports start finish = some inputs ∧
      calculateCycleTierStatus start finish (sources.rateContexts start finish) inputs.initialUsage inputs.context
        inputs.intervals = .ok status ∧ segments = status.segments ∧
      summaries = (activeTierIds sources start finish now).map fun tierId =>
        (tierId, amountAt status.usageByTier tierId, amountAt status.chargeByTier tierId) := by
  unfold cycleCalculation at computed
  split at computed
  · cases computed
  · rename_i inputs read
    dsimp only at computed
    split at computed
    · cases computed
    · rename_i status tiers result
      obtain ⟨found, run, result⟩ := bind_eq_ok.mp result
      cases computed
      split at result
      · rename_i active named
        obtain ⟨resolved, known, result⟩ := bind_eq_ok.mp result
        cases result
        have listed : activeTierIds sources start finish now = tiers.map fun tier => tier.tier.tierId := by
          simp only [activeTierIds, named, known]
        refine ⟨inputs, _, read, run, rfl, ?_⟩
        rw [listed, List.map_map]
        rfl
      · rename_i named
        cases result
        have listed : activeTierIds sources start finish now = [] := by
          simp only [activeTierIds, named]
        rw [listed]
        exact ⟨inputs, _, read, run, rfl, rfl⟩

/-- The rows that a recalculation adds to the book, under its version. -/
structure StoredRows (book after : CycleBook) (cycle : BillingCycle) (segments : List TierAllocationSegment)
    (summaries : List CycleTierSummary) : Prop where
  added : after.segments = book.segments ++ segments ∧ after.summaries = book.summaries ++ summaries
  versioned : (∀ segment ∈ segments, segment.billingCycleId = cycle.id ∧
      segment.recalculationVersion = cycle.recalculationVersion + 1) ∧
    ∀ summary ∈ summaries, summary.billingCycleId = cycle.id ∧ summary.recalculationVersion = cycle.recalculationVersion + 1

/-- Two tiers with the given ids. -/
def twoTiers (low high : String) : Plan :=
  { pricingModel := .tiered
    tiers := [{ tierId := low, name := low, order := 0, upperBoundExclusiveKwh := some 1, pricePerKwh := 1 / 5 },
      { tierId := high, name := high, order := 1, lowerBoundInclusiveKwh := some 1, pricePerKwh := 1 / 2 }] }

def springEngine : RateEngine := ⟨twoTiers "base" "top", Zone.utc, by decide +kernel⟩

def summerEngine : RateEngine := ⟨twoTiers "low" "high", Zone.utc, by decide +kernel⟩

/-- The second half of the window has the given engine. -/
def halvedSources (later : RateEngine) : CycleSources where
  authority := some { authorityType := .utilityIntervalImport, calculationRole := .advancedExternalCorrection }
  rateContexts start finish := if halves : start < 50 ∧ 50 < finish then
    [⟨start, 50, "spring", springEngine, halves.1⟩, ⟨50, finish, "summer", later, halves.2⟩] else []

def halvedUsage : UsageImport where
  id := "a"
  utilityAccountId := "account"
  importKind := .interval
  calculationRole := .advancedExternalCorrection
  contentSha256 := ""
  normalizedRows := [.usage 0 50 1, .usage 50 100 1]

def halvedCycle : BillingCycle := { id := "cycle", utilityAccountId := "account", startsAt := 0, endsAt := 100 }

def halvedBook : CycleBook :=
  { freshAccount with
    cycles := [halvedCycle]
    valid := by decide }

def halvedRun (later : RateEngine) : Except Failure (Bool × CycleBook) :=
  calculateCycle halvedBook halvedCycle (cycleCalculation (halvedSources later) [halvedUsage] 0 100 200) 200

end PowerMonitor.Cycles
