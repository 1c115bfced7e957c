import PowerMonitor.History.Coarse
import PowerMonitor.Library.Grouping
import PowerMonitor.Rates.Allocation

/-! Measurements of the two strategies.

What a part of a reading adds to an accumulator is said field by field; the loop then holds sums, extremes
and unions over the parts, which are compared with the columns of the aggregate query.
-/

set_option autoImplicit false
namespace PowerMonitor.History
open Library Rates
open Assignments (RateVersion RateContext findCostContexts)

/-! ## Loops over a list -/

theorem foldl_or {Item : Type} (known : Item → Bool) (items : List Item) (held : Bool) :
    items.foldl (fun held item => held || known item) held = (held || items.any known) := by
  induction items generalizing held with
  | nil => simp
  | cons item rest ih => rw [List.foldl_cons, ih, List.any_cons, Bool.or_assoc]

theorem mem_foldl_union {Item Flag : Type} [DecidableEq Flag] (flags : Item → Finset Flag) (items : List Item)
    (held : Finset Flag) (flag : Flag) :
    flag ∈ items.foldl (fun held item => held ∪ flags item) held ↔ flag ∈ held ∨ ∃ item ∈ items, flag ∈ flags item := by
  induction items generalizing held with
  | nil => simp
  | cons item rest ih =>
      rw [List.foldl_cons, ih, Finset.mem_union]
      simp [or_assoc]

/-! ## Pricing leaves the measurements alone -/

/-- A value of a quantity that the request needs. -/
def needed {α : Type} (wanted : Bool) (value : Option α) : Option α := if wanted then value else none

theorem foldl_addCost (charges : List Charge) (accumulator : DeviceBucketAccumulator) :
    ∃ costParts, charges.foldl DeviceBucketAccumulator.addCost accumulator = { accumulator with costParts := costParts } := by
  induction charges generalizing accumulator with
  | nil => exact ⟨accumulator.costParts, rfl⟩
  | cons charge rest ih => exact ih (accumulator.addCost charge)

section Apply
variable {engineOf : RateVersion → RateEngine} {pricing : DevicePricing} {normalizedIntervalId : Option String}
  {start finish : Int} {energyKwh : Rat}

/-- A piece in a tiered context without a matching segment. -/
def Unallocated (engineOf : RateVersion → RateEngine) (pricing : DevicePricing) (normalizedIntervalId : Option String)
    (part : Int × Int × Option RateContext) : Prop :=
  ∃ context ∈ part.2.2, (engineOf context.version).plan.pricingModel.isTiered = true ∧
    (matchingSegments pricing.tierSegments context.version.id normalizedIntervalId part.1 part.2.1).1 = []

instance (part : Int × Int × Option RateContext) :
    Decidable (Unallocated engineOf pricing normalizedIntervalId part) := by
  unfold Unallocated
  exact inferInstanceAs (Decidable (∃ context ∈ part.2.2, _))

theorem applyPiece_frame {part : Int × Int × Option RateContext} {before after : DeviceBucketAccumulator}
    (step : applyPiece engineOf pricing normalizedIntervalId start finish energyKwh before part = .ok after) :
    ∃ costParts costMissing, after = { before with
      costParts := costParts
      costMissing := costMissing
      qualityFlags := before.qualityFlags ∪
        if Unallocated engineOf pricing normalizedIntervalId part then {"tier_recalculation_required"} else ∅ } := by
  obtain ⟨left, right, selected⟩ := part
  cases selected with
  | none =>
      cases step
      exact ⟨before.costParts, true, by simp [Unallocated]⟩
  | some context =>
      simp only [applyPiece] at step
      split at step
      · next tiered =>
          cases step
          simp only [CostPiece.applyTiers]
          split
          · next empty =>
              exact ⟨before.costParts, true, by simp [Unallocated, tiered, empty]⟩
          · next found =>
              obtain ⟨costParts, same⟩ := foldl_addCost _ before
              exact ⟨costParts, before.costMissing, by rw [same]; simp [Unallocated, found]⟩
      · next untiered =>
          obtain ⟨calculation, _, rest⟩ := bind_eq_ok.mp step
          cases rest
          obtain ⟨costParts, same⟩ := foldl_addCost _ before
          exact ⟨costParts, before.costMissing, by rw [same]; simp [Unallocated, untiered]⟩

/-- Pricing changes the cost parts and the missing mark, and may ask for a tier recalculation. -/
theorem applyCost_frame {before after : DeviceBucketAccumulator} (proper : start < finish)
    (run : applyCost engineOf pricing normalizedIntervalId start finish energyKwh before = .ok after) :
    ∃ costParts costMissing, after = { before with
      costParts := costParts
      costMissing := costMissing
      qualityFlags := before.qualityFlags ∪
        if ∃ part ∈ findCostContexts pricing.contexts start finish,
            Unallocated engineOf pricing normalizedIntervalId part then {"tier_recalculation_required"} else ∅ } := by
  rw [applyCost, if_neg (not_le.mpr (secondsBetween_pos proper))] at run
  generalize findCostContexts pricing.contexts start finish = parts at run
  induction parts generalizing before with
  | nil =>
      cases run
      exact ⟨after.costParts, after.costMissing, by simp⟩
  | cons part rest ih =>
      obtain ⟨between, first, later⟩ := bind_eq_ok.mp run
      obtain ⟨_, _, rfl⟩ := applyPiece_frame first
      obtain ⟨costParts, costMissing, rfl⟩ := ih later
      refine ⟨costParts, costMissing, ?_⟩
      by_cases here : Unallocated engineOf pricing normalizedIntervalId part <;>
        by_cases deeper : ∃ part ∈ rest, Unallocated engineOf pricing normalizedIntervalId part <;>
        simp [here, deeper]

end Apply

/-! ## What one part adds -/

section Contribution
variable (engineOf : RateVersion → RateEngine) (plan : HistoryExecutionPlan) (pricing : DevicePricing) (part : ReadingPart)

/-- Pricing the part finds a tiered context without an allocation. -/
def ReadingPart.TierMissing : Prop :=
  plan.needsEnergy = true ∧ plan.needsCost = true ∧ part.energyKwh ≠ none ∧
    ∃ piece ∈ findCostContexts pricing.contexts part.left part.right,
      Unallocated engineOf pricing (part.row.normalized.map NormalizedInterval.id) piece

instance : Decidable (part.TierMissing engineOf plan pricing) := inferInstanceAs (Decidable (_ ∧ _))

/-- The flags a part adds: its own, one for unknown energy, and one for tiers that were not allocated. -/
def ReadingPart.flags : Finset String :=
  part.row.raw.qualityFlags.toFinset ∪
    (if plan.needsEnergy = true ∧ part.energyKwh = none then {"energy_unavailable"} else ∅) ∪
      if part.TierMissing engineOf plan pricing then {"tier_recalculation_required"} else ∅

/-- The accumulator with one more part, up to its cost. -/
structure Contributed (before after : DeviceBucketAccumulator) : Prop where
  coverageRanges : after.coverageRanges = before.coverageRanges ++ [(part.left, part.right)]
  powerWeighted : after.powerWeighted =
    before.powerWeighted + (needed plan.needsPower (part.row.raw.powerAvg.map (· * part.seconds))).getD 0
  powerSeconds : after.powerSeconds =
    before.powerSeconds + (needed plan.needsPower (part.row.raw.powerAvg.map fun _ => part.seconds)).getD 0
  peakPowerW : after.peakPowerW = (needed plan.needsPower part.row.raw.powerMax).elim before.peakPowerW (keepMax before.peakPowerW)
  energyKwh : after.energyKwh = before.energyKwh + (needed plan.needsEnergy part.energyKwh).getD 0
  energyAvailable : after.energyAvailable = (before.energyAvailable || (needed plan.needsEnergy part.energyKwh).isSome)
  voltageWeighted : after.voltageWeighted =
    before.voltageWeighted + (needed plan.needsVoltage (part.row.raw.voltageAvg.map (· * part.seconds))).getD 0
  voltageSeconds : after.voltageSeconds =
    before.voltageSeconds + (needed plan.needsVoltage (part.row.raw.voltageAvg.map fun _ => part.seconds)).getD 0
  voltageMinV : after.voltageMinV = (needed plan.needsVoltage (part.row.raw.voltageAvg.map fun average =>
    part.row.raw.voltageMin.getD average)).elim before.voltageMinV (keepMin before.voltageMinV)
  voltageMaxV : after.voltageMaxV = (needed plan.needsVoltage (part.row.raw.voltageAvg.map fun average =>
    part.row.raw.voltageMax.getD average)).elim before.voltageMaxV (keepMax before.voltageMaxV)
  currentWeighted : after.currentWeighted =
    before.currentWeighted + (needed plan.needsCurrent (part.row.raw.currentAvg.map (· * part.seconds))).getD 0
  currentSeconds : after.currentSeconds =
    before.currentSeconds + (needed plan.needsCurrent (part.row.raw.currentAvg.map fun _ => part.seconds)).getD 0
  factorWeighted : after.factorWeighted = before.factorWeighted +
    (needed plan.needsPowerFactor (part.factorWeight.map fun (factor, weight) => factor * weight)).getD 0
  factorWeight : after.factorWeight =
    before.factorWeight + (needed plan.needsPowerFactor (part.factorWeight.map Prod.snd)).getD 0
  frequencyWeighted : after.frequencyWeighted =
    before.frequencyWeighted + (needed plan.needsFrequency (part.row.raw.frequencyHz.map (· * part.seconds))).getD 0
  frequencySeconds : after.frequencySeconds =
    before.frequencySeconds + (needed plan.needsFrequency (part.row.raw.frequencyHz.map fun _ => part.seconds)).getD 0
  qualityFlags : after.qualityFlags = before.qualityFlags ∪ part.flags engineOf plan pricing

variable {engineOf plan pricing part}

theorem addEnergy_frame {before after : DeviceBucketAccumulator} (proper : part.left < part.right)
    (run : before.addEnergy engineOf plan pricing part = .ok after) : ∃ costParts costMissing, after = { before with
      energyKwh := before.energyKwh + (needed plan.needsEnergy part.energyKwh).getD 0
      energyAvailable := before.energyAvailable || (needed plan.needsEnergy part.energyKwh).isSome
      costParts := costParts
      costMissing := costMissing
      qualityFlags := before.qualityFlags ∪
        ((if plan.needsEnergy = true ∧ part.energyKwh = none then {"energy_unavailable"} else ∅) ∪
          if part.TierMissing engineOf plan pricing then {"tier_recalculation_required"} else ∅) } := by
  unfold DeviceBucketAccumulator.addEnergy at run
  by_cases wanted : plan.needsEnergy = true
  · rw [if_pos wanted] at run
    cases known : part.energyKwh with
    | none =>
        rw [known] at run
        cases run
        exact ⟨before.costParts, before.costMissing, by simp [needed, ReadingPart.TierMissing, wanted, known]⟩
    | some energy =>
        rw [known] at run
        dsimp only at run
        by_cases priced : plan.needsCost = true
        · rw [if_pos priced] at run
          obtain ⟨costParts, costMissing, rfl⟩ := applyCost_frame proper run
          refine ⟨costParts, costMissing, ?_⟩
          simp only [needed, ReadingPart.TierMissing, wanted, known, priced, if_true, Option.getD_some, Option.isSome_some,
            Bool.or_true, reduceCtorEq, and_false, if_false, Finset.empty_union, ne_eq, not_false_eq_true, true_and]
        · rw [if_neg priced] at run
          cases run
          exact ⟨before.costParts, before.costMissing, by simp [needed, ReadingPart.TierMissing, wanted, known, priced]⟩
  · rw [if_neg wanted] at run
    cases run
    exact ⟨before.costParts, before.costMissing, by simp [needed, ReadingPart.TierMissing, wanted]⟩

section Adders
variable (accumulator : DeviceBucketAccumulator)

theorem addPower_eq : accumulator.addPower plan part = { accumulator with
    powerWeighted := accumulator.powerWeighted + (needed plan.needsPower (part.row.raw.powerAvg.map (· * part.seconds))).getD 0
    powerSeconds := accumulator.powerSeconds + (needed plan.needsPower (part.row.raw.powerAvg.map fun _ => part.seconds)).getD 0
    peakPowerW := (needed plan.needsPower part.row.raw.powerMax).elim accumulator.peakPowerW (keepMax accumulator.peakPowerW) } := by
  unfold DeviceBucketAccumulator.addPower needed
  split
  · cases part.row.raw.powerAvg <;> simp
  · simp

theorem addVoltage_eq : accumulator.addVoltage plan part = { accumulator with
    voltageWeighted :=
      accumulator.voltageWeighted + (needed plan.needsVoltage (part.row.raw.voltageAvg.map (· * part.seconds))).getD 0
    voltageSeconds :=
      accumulator.voltageSeconds + (needed plan.needsVoltage (part.row.raw.voltageAvg.map fun _ => part.seconds)).getD 0
    voltageMinV := (needed plan.needsVoltage (part.row.raw.voltageAvg.map fun average =>
      part.row.raw.voltageMin.getD average)).elim accumulator.voltageMinV (keepMin accumulator.voltageMinV)
    voltageMaxV := (needed plan.needsVoltage (part.row.raw.voltageAvg.map fun average =>
      part.row.raw.voltageMax.getD average)).elim accumulator.voltageMaxV (keepMax accumulator.voltageMaxV) } := by
  unfold DeviceBucketAccumulator.addVoltage needed
  split
  · cases part.row.raw.voltageAvg <;> simp
  · simp

theorem addCurrent_eq : accumulator.addCurrent plan part = { accumulator with
    currentWeighted :=
      accumulator.currentWeighted + (needed plan.needsCurrent (part.row.raw.currentAvg.map (· * part.seconds))).getD 0
    currentSeconds :=
      accumulator.currentSeconds + (needed plan.needsCurrent (part.row.raw.currentAvg.map fun _ => part.seconds)).getD 0 } := by
  unfold DeviceBucketAccumulator.addCurrent needed
  split
  · cases part.row.raw.currentAvg <;> simp
  · simp

/-- A weight of zero, which the loop skips, adds nothing to either sum. -/
theorem addFactor_eq : accumulator.addFactor plan part = { accumulator with
    factorWeighted := accumulator.factorWeighted +
      (needed plan.needsPowerFactor (part.factorWeight.map fun (factor, weight) => factor * weight)).getD 0
    factorWeight := accumulator.factorWeight + (needed plan.needsPowerFactor (part.factorWeight.map Prod.snd)).getD 0 } := by
  unfold DeviceBucketAccumulator.addFactor needed ReadingPart.factorWeight
  split
  · cases part.row.raw.powerFactor with
    | none => simp
    | some factor =>
        cases part.row.raw.powerAvg with
        | none => simp
        | some power =>
            dsimp only [Option.getD_some]
            split
            · next empty => simp [empty]
            · simp
  · simp

theorem addFrequency_eq : accumulator.addFrequency plan part = { accumulator with
    frequencyWeighted :=
      accumulator.frequencyWeighted + (needed plan.needsFrequency (part.row.raw.frequencyHz.map (· * part.seconds))).getD 0
    frequencySeconds :=
      accumulator.frequencySeconds + (needed plan.needsFrequency (part.row.raw.frequencyHz.map fun _ => part.seconds)).getD 0 } := by
  unfold DeviceBucketAccumulator.addFrequency needed
  split
  · cases part.row.raw.frequencyHz <;> simp
  · simp

end Adders

theorem addReading_contributed {before after : DeviceBucketAccumulator} (proper : part.left < part.right)
    (run : before.addReading engineOf plan pricing part = .ok after) :
    Contributed engineOf plan pricing part before after := by
  have positive : 0 < part.duration := secondsBetween_pos part.row.raw.validInterval
  have covered : 0 < part.seconds := secondsBetween_pos proper
  rw [DeviceBucketAccumulator.addReading, if_neg (by simp [positive, covered])] at run
  obtain ⟨metered, energy, rest⟩ := bind_eq_ok.mp run
  -- The adders are named one by one, so that a field is followed through them without unfolding them all.
  obtain ⟨powered, power⟩ : ∃ powered, (before.addCoverage part).addPower plan part = powered := ⟨_, rfl⟩
  obtain ⟨volted, voltage⟩ : ∃ volted, metered.addVoltage plan part = volted := ⟨_, rfl⟩
  obtain ⟨charged, current⟩ : ∃ charged, volted.addCurrent plan part = charged := ⟨_, rfl⟩
  obtain ⟨factored, factor⟩ : ∃ factored, charged.addFactor plan part = factored := ⟨_, rfl⟩
  rw [power] at energy
  obtain ⟨costParts, costMissing, energy⟩ := addEnergy_frame proper energy
  rw [addPower_eq] at power
  have frequency := Except.ok.inj rest
  rw [voltage, current, factor, addFrequency_eq] at frequency
  rw [addVoltage_eq] at voltage
  rw [addCurrent_eq] at current
  rw [addFactor_eq] at factor
  constructor
  all_goals
    simp only [← frequency, ← factor, ← current, ← voltage, energy, ← power, DeviceBucketAccumulator.addCoverage]
  rw [ReadingPart.flags, Finset.union_assoc, Finset.union_assoc]

end Contribution

/-! ## What the parts of a slot add up to -/

section Totals
variable (engineOf : RateVersion → RateEngine) (plan : HistoryExecutionPlan) (pricing : DevicePricing)

/-- The accumulator after the parts, up to its cost. -/
structure Accumulated (parts : List ReadingPart) (after : DeviceBucketAccumulator) : Prop where
  coverageRanges : after.coverageRanges = parts.map fun part => (part.left, part.right)
  powerWeighted : after.powerWeighted =
    (parts.map fun part => (needed plan.needsPower (part.row.raw.powerAvg.map (· * part.seconds))).getD 0).sum
  powerSeconds : after.powerSeconds =
    (parts.map fun part => (needed plan.needsPower (part.row.raw.powerAvg.map fun _ => part.seconds)).getD 0).sum
  peakPowerW : after.peakPowerW = sqlMax (parts.map fun part => needed plan.needsPower part.row.raw.powerMax)
  energyKwh : after.energyKwh = (parts.map fun part => (needed plan.needsEnergy part.energyKwh).getD 0).sum
  energyAvailable : after.energyAvailable = parts.any fun part => (needed plan.needsEnergy part.energyKwh).isSome
  voltageWeighted : after.voltageWeighted =
    (parts.map fun part => (needed plan.needsVoltage (part.row.raw.voltageAvg.map (· * part.seconds))).getD 0).sum
  voltageSeconds : after.voltageSeconds =
    (parts.map fun part => (needed plan.needsVoltage (part.row.raw.voltageAvg.map fun _ => part.seconds)).getD 0).sum
  voltageMinV : after.voltageMinV = sqlMin (parts.map fun part =>
    needed plan.needsVoltage (part.row.raw.voltageAvg.map fun average => part.row.raw.voltageMin.getD average))
  voltageMaxV : after.voltageMaxV = sqlMax (parts.map fun part =>
    needed plan.needsVoltage (part.row.raw.voltageAvg.map fun average => part.row.raw.voltageMax.getD average))
  currentWeighted : after.currentWeighted =
    (parts.map fun part => (needed plan.needsCurrent (part.row.raw.currentAvg.map (· * part.seconds))).getD 0).sum
  currentSeconds : after.currentSeconds =
    (parts.map fun part => (needed plan.needsCurrent (part.row.raw.currentAvg.map fun _ => part.seconds)).getD 0).sum
  factorWeighted : after.factorWeighted = (parts.map fun part =>
    (needed plan.needsPowerFactor (part.factorWeight.map fun (factor, weight) => factor * weight)).getD 0).sum
  factorWeight : after.factorWeight =
    (parts.map fun part => (needed plan.needsPowerFactor (part.factorWeight.map Prod.snd)).getD 0).sum
  frequencyWeighted : after.frequencyWeighted =
    (parts.map fun part => (needed plan.needsFrequency (part.row.raw.frequencyHz.map (· * part.seconds))).getD 0).sum
  frequencySeconds : after.frequencySeconds =
    (parts.map fun part => (needed plan.needsFrequency (part.row.raw.frequencyHz.map fun _ => part.seconds)).getD 0).sum
  qualityFlags : ∀ flag, flag ∈ after.qualityFlags ↔ ∃ part ∈ parts, flag ∈ part.flags engineOf plan pricing

variable {engineOf plan pricing}

theorem addReadings_accumulated {parts : List ReadingPart} {after : DeviceBucketAccumulator}
    (proper : ∀ part ∈ parts, part.left < part.right)
    (run : parts.foldlM (DeviceBucketAccumulator.addReading engineOf plan pricing) {} = .ok after) :
    Accumulated engineOf plan pricing parts after := by
  have total (field : DeviceBucketAccumulator → Rat) (amount : ReadingPart → Rat)
      (adds : ∀ part before after, Contributed engineOf plan pricing part before after →
        field after = field before + amount part) : field after = field {} + (parts.map amount).sum := by
    rw [foldlM_view field (fun held part => held + amount part) (fun part member before after step =>
      adds part before after (addReading_contributed (proper part member) step)) run]
    exact foldl_adds id amount (fun _ _ => rfl) parts _
  have extreme (field : DeviceBucketAccumulator → Option Rat) (keep : Option Rat → Rat → Option Rat)
      (value : ReadingPart → Option Rat) (keeps : ∀ part before after, Contributed engineOf plan pricing part before after →
        field after = (value part).elim (field before) (keep (field before))) :
      field after = (parts.map value).foldl (fun held value => value.elim held (keep held)) (field {}) := by
    rw [foldlM_view field (fun held part => (value part).elim held (keep held)) (fun part member before after step =>
      keeps part before after (addReading_contributed (proper part member) step)) run, List.foldl_map]
  have view {View : Type} (field : DeviceBucketAccumulator → View) (move : View → ReadingPart → View)
      (moves : ∀ part before after, Contributed engineOf plan pricing part before after →
        field after = move (field before) part) : field after = parts.foldl move (field {}) :=
    foldlM_view field move (fun part member before after step =>
      moves part before after (addReading_contributed (proper part member) step)) run
  constructor
  case coverageRanges =>
    rw [view DeviceBucketAccumulator.coverageRanges (fun held part => held ++ [(part.left, part.right)])
      (fun _ _ _ added => added.coverageRanges), foldl_append_map, List.nil_append]
  case powerWeighted => rw [total _ _ fun _ _ _ added => added.powerWeighted, zero_add]
  case powerSeconds => rw [total _ _ fun _ _ _ added => added.powerSeconds, zero_add]
  case energyKwh => rw [total _ _ fun _ _ _ added => added.energyKwh, zero_add]
  case voltageWeighted => rw [total _ _ fun _ _ _ added => added.voltageWeighted, zero_add]
  case voltageSeconds => rw [total _ _ fun _ _ _ added => added.voltageSeconds, zero_add]
  case currentWeighted => rw [total _ _ fun _ _ _ added => added.currentWeighted, zero_add]
  case currentSeconds => rw [total _ _ fun _ _ _ added => added.currentSeconds, zero_add]
  case factorWeighted => rw [total _ _ fun _ _ _ added => added.factorWeighted, zero_add]
  case factorWeight => rw [total _ _ fun _ _ _ added => added.factorWeight, zero_add]
  case frequencyWeighted => rw [total _ _ fun _ _ _ added => added.frequencyWeighted, zero_add]
  case frequencySeconds => rw [total _ _ fun _ _ _ added => added.frequencySeconds, zero_add]
  case peakPowerW => rw [extreme _ keepMax _ fun _ _ _ added => added.peakPowerW, ← foldl_keepMax]
  case voltageMinV => rw [extreme _ keepMin _ fun _ _ _ added => added.voltageMinV, ← foldl_keepMin]
  case voltageMaxV => rw [extreme _ keepMax _ fun _ _ _ added => added.voltageMaxV, ← foldl_keepMax]
  case energyAvailable =>
    rw [view DeviceBucketAccumulator.energyAvailable
      (fun held part => held || (needed plan.needsEnergy part.energyKwh).isSome) fun _ _ _ added => added.energyAvailable]
    exact foldl_or _ _ false
  case qualityFlags =>
    intro flag
    rw [view DeviceBucketAccumulator.qualityFlags (fun held part => held ∪ part.flags engineOf plan pricing)
      fun _ _ _ added => added.qualityFlags, mem_foldl_union]
    simp

end Totals
end PowerMonitor.History
