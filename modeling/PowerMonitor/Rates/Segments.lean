import PowerMonitor.Library.Linked
import PowerMonitor.Rates.Splitting

/-! The slices of a tiered calculation, one after another.

Each pass of the tier loop leaves a slice that starts at the usage and at the instant the
one before it stopped at and stays inside one tier. Over the whole interval the slices
lead from the usage before it to the usage after it, and from its first instant to its
last.
-/

set_option autoImplicit false
namespace PowerMonitor.Rates
open Library Calendar

/-- A slice within one of the tiers. -/
structure CostSlice.Fits (value : CostSlice) (tiers : List ResolvedTier) : Prop where
  named : ∃ tierId tierName, value.tierId = some tierId ∧ value.tierName = some tierName
  levels : ∃ first, value.cumulativeStartKwh = some first ∧ value.cumulativeEndKwh = some (first + value.energyKwh)
  uncrossed : ∀ first ∈ value.cumulativeStartKwh, ∀ last ∈ value.cumulativeEndKwh, ∀ tier ∈ tiers, ∀ limit,
    IsBound ResolvedTier.lowerBoundKwh ResolvedTier.upperBoundKwh tier limit → limit ≤ first ∨ last ≤ limit

/-- The slices that lead from one ledger to another. -/
structure Extension (tiers : List ResolvedTier) (left right : Int) (before after : Ledger) (added : List CostSlice) :
    Prop where
  slices : after.slices = before.slices ++ added
  linked : Linked CostSlice.cumulativeStartKwh CostSlice.cumulativeEndKwh (some before.cumulative)
    (some after.cumulative) added
  block : Block CostSlice.start CostSlice.finish left right added
  fits : ∀ value ∈ added, value.Fits tiers

theorem Extension.append {tiers : List ResolvedTier} {left middle next right : Int} {before between after : Ledger}
    {added more : List CostSlice} (first : Extension tiers left middle before between added)
    (second : Extension tiers next right between after more) (later : left < next) :
    Extension tiers left right before after (added ++ more) where
  slices := by rw [second.slices, first.slices, List.append_assoc]
  linked := first.linked.append second.linked
  block := first.block.append second.block later
  fits := by
    intro value member
    exact (List.mem_append.mp member).elim (first.fits value) (second.fits value)

section Loop
variable {plan : Plan} {tiers : List ResolvedTier} {slice : TariffSlice}

/-- The slice a pass of the tier loop leaves. -/
theorem allocateSegment_entry (gapless : Gapless tiers) {state next : TierLoop} (usage : 0 ≤ state.ledger.cumulative)
    (step : plan.allocateSegment tiers slice state = .ok next) :
    ∃ entry : CostSlice, next.ledger.slices = state.ledger.slices ++ [entry] ∧ entry.start = state.segmentLeft ∧
      entry.finish = next.segmentLeft ∧ entry.cumulativeStartKwh = some state.ledger.cumulative ∧
      entry.cumulativeEndKwh = some next.ledger.cumulative ∧ entry.Fits tiers ∧
      (next.remaining = 0 → next.segmentLeft = slice.right) := by
  obtain ⟨found, energy, price, segment⟩ := allocateSegment_eq_ok step
  simp only [Plan.allocateSegment, segment.search] at step
  rw [raiseIf_bind_eq_ok, bind_eq_ok] at step
  obtain ⟨_, price, _, rest⟩ := step
  cases rest
  have amount := segment.amount
  refine ⟨_, rfl, rfl, rfl, rfl, rfl, ⟨⟨_, _, rfl, rfl⟩, ⟨_, rfl, rfl⟩, ?_⟩, ?_⟩
  · intro first isFirst last isLast tier member limit isBound
    obtain rfl := Option.some.inj isFirst
    obtain rfl := Option.some.inj isLast
    exact gapless.not_crossed usage usage segment.search (amount ▸ segment.within) member isBound
  · intro used
    exact if_pos (sub_eq_zero.mp used).symm

/-- The slices of a tariff slice with energy. -/
theorem allocate_extension (gapless : Gapless tiers) {ledger after : Ledger} (usage : 0 ≤ ledger.cumulative)
    (energy : 0 < slice.allocated)
    (run : plan.allocate tiers slice ⟨ledger, slice.allocated, slice.left⟩ = .ok after) :
    ∃ added, Extension tiers slice.left slice.right ledger after added := by
  -- The block grows by one slice a pass, up to where the next one starts.
  let Holds := fun current : TierLoop => 0 ≤ current.ledger.cumulative ∧ 0 ≤ current.remaining ∧
    (current.remaining = 0 → current.segmentLeft = slice.right) ∧
    ((current = ⟨ledger, slice.allocated, slice.left⟩) ∨
      ∃ added, Extension tiers slice.left current.segmentLeft ledger current.ledger added)
  have initial : Holds ⟨ledger, slice.allocated, slice.left⟩ :=
    ⟨usage, energy.le, fun none => absurd none energy.ne', .inl rfl⟩
  have preserved : ∀ current next, 0 < current.remaining → plan.allocateSegment tiers slice current = .ok next →
      Holds current → Holds next := by
    intro current next _ step held
    obtain ⟨nonneg, _, _, sofar⟩ := held
    obtain ⟨found, taken, price, segment⟩ := allocateSegment_eq_ok step
    obtain ⟨entry, slices, starts, ends, first, last, fits, finished⟩ := allocateSegment_entry gapless nonneg step
    have most : taken ≤ current.remaining := segment.amount ▸ segmentEnergy_le_remaining _ _ _
    have positive := segment.progress
    refine ⟨by rw [segment.cumulative]; linarith, by rw [segment.remaining]; linarith, finished, .inr ?_⟩
    have single : Linked CostSlice.cumulativeStartKwh CostSlice.cumulativeEndKwh (some current.ledger.cumulative)
        (some next.ledger.cumulative) [entry] := ⟨first, last⟩
    rcases sofar with rfl | ⟨added, extension⟩
    · refine ⟨[entry], slices, single, ?_, by simpa using fits⟩
      rw [← ends, show slice.left = entry.start from starts.symm]
      exact Block.singleton entry
    · refine ⟨added ++ [entry], by rw [slices, extension.slices, List.append_assoc], extension.linked.append single,
        ends ▸ extension.block.concat starts, ?_⟩
      intro value member
      rcases List.mem_append.mp member with earlier | here
      · exact extension.fits value earlier
      · exact List.mem_singleton.mp here ▸ fits
  obtain ⟨final, ⟨_, remaining, finished, reached⟩, rfl, done⟩ := allocate_invariant Holds initial preserved run
  have used : final.remaining = 0 := le_antisymm done remaining
  rcases reached with rfl | ⟨added, extension⟩
  · exact absurd used energy.ne'
  · exact ⟨added, finished used ▸ extension⟩

/-- A slice without energy leaves one entry, in the tier of the usage. -/
theorem priceEmpty_extension (gapless : Gapless tiers) {ledger after : Ledger} (usage : 0 ≤ ledger.cumulative)
    (run : plan.priceEmpty tiers slice ledger = .ok after) :
    ∃ added, Extension tiers slice.left slice.right ledger after added := by
  obtain ⟨found, search⟩ := gapless.exists_holds usage
  unfold Plan.priceEmpty at run
  rw [tierAt, search] at run
  obtain ⟨price, _, rest⟩ := bind_eq_ok.mp run
  cases rest
  refine ⟨_, rfl, ⟨rfl, rfl⟩, ⟨rfl, rfl, .singleton _⟩, ?_⟩
  intro value member
  rw [List.mem_singleton.mp member]
  refine ⟨⟨_, _, rfl, rfl⟩, ⟨_, rfl, by rw [add_zero]⟩, ?_⟩
  intro first isFirst last isLast tier _ limit _
  obtain rfl := Option.some.inj isFirst
  obtain rfl := Option.some.inj isLast
  exact le_total _ _

theorem priceTiers_extension (gapless : Gapless tiers) {ledger after : Ledger} (usage : 0 ≤ ledger.cumulative)
    (energy : 0 ≤ slice.allocated) (run : plan.priceTiers tiers slice ledger = .ok after) :
    ∃ added, Extension tiers slice.left slice.right ledger after added := by
  unfold Plan.priceTiers at run
  obtain ⟨middle, loop, rest⟩ := bind_eq_ok.mp run
  by_cases empty : slice.allocated = 0
  · rw [allocate_done (by simp [empty])] at loop
    cases loop
    rw [if_pos empty] at rest
    exact priceEmpty_extension gapless usage rest
  · rw [if_neg empty] at rest
    cases rest
    exact allocate_extension gapless usage (lt_of_le_of_ne energy (Ne.symm empty)) loop

end Loop

namespace RateEngine
variable {engine : RateEngine} {request : CalculationRequest} {tiers : List ResolvedTier}

theorem priceSlice_extension (accepted : engine.Accepted request) (gapless : Gapless tiers) {left right : Int}
    (begins : request.start ≤ left) (ordered : left ≤ right) {ledger after : Ledger}
    (reached : ledger.cumulative = request.level left)
    (run : engine.priceSlice request tiers ledger (left, right) = .ok after) :
    after.cumulative = request.level right ∧ ∃ added, Extension tiers left right ledger after added := by
  obtain ⟨_, _, moved, _⟩ := priceSlice_amount accepted (fun _ => gapless) begins ordered (fun _ => reached) run
  refine ⟨moved gapless.ne_nil, ?_⟩
  unfold priceSlice at run
  obtain ⟨tariff, _, run⟩ := bind_eq_ok.mp run
  rw [if_neg gapless.ne_nil] at run
  have usage : 0 ≤ ledger.cumulative := by
    have grown := CalculationRequest.level_mono accepted.interval accepted.energy begins
    rw [CalculationRequest.level_start] at grown
    rw [reached]
    exact accepted.usage.trans grown
  exact priceTiers_extension gapless usage (CalculationRequest.share_nonneg accepted ordered) run

/-- The slices between two boundaries, by the pieces between them. -/
theorem fold_extension (accepted : engine.Accepted request) (gapless : Gapless tiers) {left right : Int}
    {points : List Int} (tiles : Tiles left right points) (begins : request.start ≤ left) (ordered : left < right)
    {ledger after : Ledger} (reached : ledger.cumulative = request.level left)
    (run : (pairwise points).foldlM (engine.priceSlice request tiers) ledger = .ok after) :
    after.cumulative = request.level right ∧ ∃ added, Extension tiers left right ledger after added := by
  induction points generalizing left ledger with
  | nil => exact absurd tiles.first (by simp)
  | cons head rest ih =>
      have same : head = left := Option.some.inj tiles.first
      subst same
      cases rest with
      | nil =>
          have single : head = right := Option.some.inj tiles.last
          exact absurd ordered (by simp [single])
      | cons second rest =>
          obtain ⟨before, later⟩ := tiles.tail rfl
          rw [pairwise_cons_cons, List.foldlM_cons, bind_eq_ok] at run
          obtain ⟨next, here, run⟩ := run
          obtain ⟨moved, added, extension⟩ := priceSlice_extension accepted gapless begins before.le reached here
          rcases (later.le_of_mem List.mem_cons_self).2.lt_or_eq with inside | last
          · obtain ⟨done, more, further⟩ := ih later (begins.trans before.le) inside moved run
            exact ⟨done, added ++ more, extension.append further before⟩
          · -- The second point is the last one, so no piece is left.
            have alone : rest = [] := by
              cases rest with
              | nil => rfl
              | cons third rest =>
                  have above := (List.pairwise_cons.mp later.rising).1 third List.mem_cons_self
                  exact absurd (later.le_of_mem (List.mem_cons_of_mem _ List.mem_cons_self)).2 (by rw [← last]; exact not_le.mpr above)
            subst alone
            cases run
            rw [← last]
            exact ⟨moved, added, extension⟩

/-- A tiered calculation leads from the usage before it to the usage after it, slice by slice. -/
theorem calculate_slices (tiered : engine.plan.pricingModel.isTiered = true) {calculation : Calculation}
    (run : engine.calculate request = .ok calculation) :
    ∃ tiers, engine.cycleTiers request = .ok tiers ∧
      Linked CostSlice.cumulativeStartKwh CostSlice.cumulativeEndKwh (some request.cumulativeUsageBeforeKwh)
        (some (request.cumulativeUsageBeforeKwh + request.energyKwh)) calculation.slices ∧
      Block CostSlice.start CostSlice.finish request.start request.finish calculation.slices ∧
      ∀ value ∈ calculation.slices, value.Fits tiers := by
  obtain ⟨accepted, points, tiers, ledger, found, resolved, fold, rfl⟩ := (calculate_eq_ok engine request).mp run
  have tiles := boundaries_tiles accepted.interval found
  obtain ⟨done, added, extension⟩ := fold_extension accepted (cycleTiers_gapless tiered resolved) tiles le_rfl
    accepted.interval CalculationRequest.level_start.symm fold
  have slices : (engine.settle request tiers ledger).slices = added := extension.slices
  have level : ledger.cumulative = request.cumulativeUsageBeforeKwh + request.energyKwh := by
    have length : ((request.finish - request.start : Int) : Rat) ≠ 0 := by
      exact_mod_cast (sub_pos.mpr accepted.interval).ne'
    rw [done, CalculationRequest.level]
    field_simp
  refine ⟨tiers, resolved, ?_, ?_, ?_⟩
  · rw [slices, ← level]
    exact extension.linked
  · exact slices ▸ extension.block
  · exact slices ▸ extension.fits

end RateEngine
end PowerMonitor.Rates
