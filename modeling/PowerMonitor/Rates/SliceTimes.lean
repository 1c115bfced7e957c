import PowerMonitor.Library.Linked
import PowerMonitor.Rates.CostRows

/-! Where the slices of a calculation begin and end.

Between two boundaries a tier that is left behind takes its share of the time, rounded to a microsecond, and the
last tier ends at the boundary. The rounded times may add up to more than there is: the last slice then begins
after its end.
-/

set_option autoImplicit false
namespace PowerMonitor.Rates
open Library Calendar

/-- The rounded time of an amount of energy of a slice. -/
def TariffSlice.time (slice : TariffSlice) (energy : Rat) : Int :=
  roundHalfUp (secondsBetween slice.left slice.right * (if slice.allocated = 0 then 1 else energy / slice.allocated) * 1000000)

/-- The rounded times of the tiers that are filled on the way from one usage to another. -/
def TariffSlice.climbTime (slice : TariffSlice) (tiers : List ResolvedTier) (first last : Rat) : Int :=
  ((climbs ResolvedTier.upperBoundKwh tiers first last).map slice.time).sum

section Loop
variable {plan : Plan} {tiers : List ResolvedTier} {slice : TariffSlice}

theorem roundHalfUp_nonneg {value : Rat} (nonneg : 0 ≤ value) : 0 ≤ roundHalfUp value := by
  rw [roundHalfUp, if_pos nonneg]
  exact Int.floor_nonneg.mpr (by linarith)

theorem time_nonneg (ordered : slice.left ≤ slice.right) (allocated : 0 ≤ slice.allocated) {energy : Rat}
    (nonneg : 0 ≤ energy) : 0 ≤ slice.time energy := by
  apply roundHalfUp_nonneg
  have length : 0 ≤ secondsBetween slice.left slice.right := by
    unfold secondsBetween
    have : (0 : Rat) ≤ (slice.right - slice.left : Int) := by exact_mod_cast sub_nonneg.mpr ordered
    positivity
  have part : 0 ≤ (if slice.allocated = 0 then 1 else energy / slice.allocated) := by
    split
    · exact zero_le_one
    · exact div_nonneg nonneg allocated
  positivity

/-- The slice that a pass leaves, and where the next one begins. -/
theorem allocateSegment_timed {state next : TierLoop} (step : plan.allocateSegment tiers slice state = .ok next) :
    ∃ entry : CostSlice, next.ledger.slices = state.ledger.slices ++ [entry] ∧ entry.start = state.segmentLeft ∧
      entry.finish = next.segmentLeft ∧ entry.energyKwh = state.remaining - next.remaining ∧
      next.segmentLeft = if next.remaining = 0 then slice.right
        else state.segmentLeft + slice.time (state.remaining - next.remaining) := by
  obtain ⟨found, energy, price, segment⟩ := allocateSegment_eq_ok step
  simp only [Plan.allocateSegment, segment.search] at step
  rw [raiseIf_bind_eq_ok, bind_eq_ok] at step
  obtain ⟨_, price, _, rest⟩ := step
  cases rest
  refine ⟨_, rfl, rfl, rfl, (sub_sub_cancel _ _).symm, ?_⟩
  simp only [TariffSlice.time, sub_sub_cancel, sub_eq_zero]
  exact if_congr eq_comm rfl rfl

/-- What the passes of a slice leave behind: slices in a chain up to the end, with the energy that was left. They
all go forward when the rounded times leave room for the last. -/
theorem allocate_timed (gapless : Gapless tiers) (ordered : slice.left ≤ slice.right) (allocated : 0 ≤ slice.allocated)
    {state : TierLoop} {after : Ledger} (usage : 0 ≤ state.ledger.cumulative) (more : 0 < state.remaining)
    (run : plan.allocate tiers slice state = .ok after) :
    ∃ added, after.slices = state.ledger.slices ++ added ∧
      Linked CostSlice.start CostSlice.finish state.segmentLeft slice.right added ∧
      (∀ value ∈ added, 0 ≤ value.energyKwh) ∧ (added.map CostSlice.energyKwh).sum = state.remaining ∧
      ((∀ value ∈ added, value.start ≤ value.finish) ↔ state.segmentLeft +
        slice.climbTime tiers state.ledger.cumulative (state.ledger.cumulative + state.remaining) ≤ slice.right) := by
  induction passes : passesLeft tiers state using Nat.strong_induction_on generalizing state with
  | _ count ih =>
      rw [allocate_more more, bind_eq_ok] at run
      obtain ⟨next, step, run⟩ := run
      obtain ⟨found, energy, price, segment⟩ := allocateSegment_eq_ok step
      obtain ⟨entry, slices, starts, ends, taken, place⟩ := allocateSegment_timed step
      have positive := segment.progress
      have most : energy ≤ state.remaining := segment.amount ▸ segmentEnergy_le_remaining _ _ _
      have used : state.remaining - next.remaining = energy := by rw [segment.remaining]; ring
      rw [used] at taken place
      by_cases last : next.remaining = 0
      · -- The tier takes all that is left: it reaches the last level.
        rw [allocate_done (by rw [last]; exact lt_irrefl _)] at run
        cases run
        rw [if_pos last] at place
        have whole : energy = state.remaining := by rw [← used, last, sub_zero]
        have reach : ∀ limit ∈ found.upperBoundKwh, state.ledger.cumulative + state.remaining ≤ limit :=
          whole ▸ segment.within
        have nothing := Ladder.climbs_of_reach gapless usage usage segment.search reach
        refine ⟨[entry], slices, ⟨starts, by rw [ends, place]; rfl⟩, ?_, ?_, ?_⟩
        · intro value member
          rw [List.mem_singleton.mp member, taken]
          exact positive.le
        · simp [taken, whole]
        · simp [TariffSlice.climbTime, nothing, starts, ends, place]
      · rw [if_neg last] at place
        have part : segmentEnergy found state.ledger.cumulative state.remaining ≠ state.remaining := by
          rw [← segment.amount]
          intro whole
          exact last (by rw [segment.remaining, whole, sub_self])
        have finish : found.upperBoundKwh = some (state.ledger.cumulative + energy) := by
          rw [segment.amount] at positive ⊢
          exact upper_of_segmentEnergy positive part
        have left : 0 < next.remaining := lt_of_le_of_ne (by rw [segment.remaining]; linarith) (Ne.symm last)
        obtain ⟨added, later, linked, nonneg, sum, forward⟩ := ih _ (passes ▸ passesLeft_lt more step)
          (by rw [segment.cumulative]; linarith) left run rfl
        have climb := @Ladder.climbs_of_pass _ _ _ _ _ _ _ _ _ gapless _ (state.ledger.cumulative + state.remaining) _ usage _
          segment.search finish (by rw [segment.remaining] at left; linarith)
        have same : next.ledger.cumulative + next.remaining = state.ledger.cumulative + state.remaining := by
          rw [segment.cumulative, segment.remaining]
          ring
        have here := time_nonneg ordered allocated positive.le
        rw [same, segment.cumulative, place] at forward
        refine ⟨entry :: added, by rw [later, slices, List.append_assoc]; rfl, ⟨starts, ends ▸ linked⟩, ?_, ?_, ?_⟩
        · intro value member
          cases List.mem_cons.mp member with
          | inl first => rw [first, taken]; exact positive.le
          | inr deeper => exact nonneg value deeper
        · rw [List.map_cons, List.sum_cons, taken, sum, segment.remaining]
          ring
        · have times : slice.climbTime tiers state.ledger.cumulative (state.ledger.cumulative + state.remaining) =
              slice.time energy + slice.climbTime tiers (state.ledger.cumulative + energy)
                (state.ledger.cumulative + state.remaining) := by
            simp only [TariffSlice.climbTime, climb, List.map_cons, List.sum_cons, add_sub_cancel_left]
          rw [List.forall_mem_cons, starts, ends, place, forward, times, and_iff_right (by omega), add_assoc]

end Loop

/-! ## Pieces -/

/-- The rounded times of the tiers that are filled between two boundaries. -/
def CalculationRequest.climbTime (request : CalculationRequest) (tiers : List ResolvedTier) (left right : Int) : Int :=
  TariffSlice.climbTime ⟨left, right, request.share left right, "", 0⟩ tiers (request.level left) (request.level right)

/-- Slices in a chain over a span that go forward when the rounded times of each piece leave room for its last. -/
structure Timed (request : CalculationRequest) (tiers : List ResolvedTier) (left right : Int) (pieces : List (Int × Int))
    (added : List CostSlice) : Prop where
  linked : Linked CostSlice.start CostSlice.finish left right added
  nonneg : ∀ value ∈ added, 0 ≤ value.energyKwh
  sum : (added.map CostSlice.energyKwh).sum = request.share left right
  forward : (∀ value ∈ added, value.start ≤ value.finish) ↔
    ∀ piece ∈ pieces, request.climbTime tiers piece.1 piece.2 ≤ piece.2 - piece.1

theorem Timed.append {request : CalculationRequest} {tiers : List ResolvedTier} {left middle right : Int}
    {pieces others : List (Int × Int)} {added more : List CostSlice} (first : Timed request tiers left middle pieces added)
    (second : Timed request tiers middle right others more) :
    Timed request tiers left right (pieces ++ others) (added ++ more) where
  linked := first.linked.append second.linked
  nonneg := by
    intro value member
    exact (List.mem_append.mp member).elim (first.nonneg value) (second.nonneg value)
  sum := by
    rw [List.map_append, List.sum_append, first.sum, second.sum, request.share_eq, request.share_eq, request.share_eq]
    ring
  forward := by rw [List.forall_mem_append, List.forall_mem_append, first.forward, second.forward]

namespace RateEngine
variable {engine : RateEngine} {request : CalculationRequest} {tiers : List ResolvedTier}

theorem priceSlice_timed (accepted : engine.Accepted request) (energy : 0 < request.energyKwh)
    (gapless : tiers ≠ [] → Gapless tiers) {left right : Int} (begins : request.start ≤ left) (proper : left < right)
    {ledger after : Ledger} (reached : Reached request tiers left ledger)
    (run : engine.priceSlice request tiers ledger (left, right) = .ok after) :
    ∃ added, after.slices = ledger.slices ++ added ∧ Timed request tiers left right [(left, right)] added := by
  have next : request.level left + request.share left right = request.level right := by
    rw [request.share_eq]
    ring
  have allocated : 0 < request.share left right := by
    have length := secondsBetween_pos accepted.interval
    have piece := secondsBetween_pos proper
    exact div_pos (mul_pos energy piece) length
  unfold priceSlice at run
  obtain ⟨tariff, _, run⟩ := bind_eq_ok.mp run
  by_cases untiered : tiers = []
  · rw [if_pos untiered] at run
    obtain ⟨price, _, rest⟩ := bind_eq_ok.mp run
    cases rest
    refine ⟨_, rfl, ⟨rfl, rfl⟩, by simpa using allocated.le, by simp, ?_⟩
    subst untiered
    simp [CalculationRequest.climbTime, TariffSlice.climbTime, climbs, proper.le]
  · rw [if_neg untiered] at run
    obtain ⟨middle, loop, rest⟩ := bind_eq_ok.mp run
    rw [if_neg allocated.ne'] at rest
    cases rest
    have start : ledger.cumulative = request.level left := reached untiered
    have usage : 0 ≤ ledger.cumulative := by
      have grown := CalculationRequest.level_mono accepted.interval accepted.energy begins
      rw [CalculationRequest.level_start] at grown
      rw [start]
      exact accepted.usage.trans grown
    obtain ⟨added, slices, linked, nonneg, sum, forward⟩ :=
      allocate_timed (gapless untiered) proper.le allocated.le usage allocated loop
    refine ⟨added, slices, linked, nonneg, sum, ?_⟩
    rw [forward, List.forall_mem_singleton, CalculationRequest.climbTime, ← next, ← start, le_sub_iff_add_le']
    exact Iff.rfl

/-- The slices of a row of pieces. -/
theorem fold_timed (accepted : engine.Accepted request) (energy : 0 < request.energyKwh)
    (gapless : tiers ≠ [] → Gapless tiers) {left right : Int} {points : List Int} (tiles : Tiles left right points)
    (begins : request.start ≤ left) {ledger after : Ledger} (reached : Reached request tiers left ledger)
    (run : (pairwise points).foldlM (engine.priceSlice request tiers) ledger = .ok after) :
    ∃ added, after.slices = ledger.slices ++ added ∧ Timed request tiers left right (pairwise points) added := by
  induction points generalizing left ledger with
  | nil => exact absurd tiles.first (by simp)
  | cons head rest ih =>
      obtain rfl : head = left := Option.some.inj tiles.first
      cases rest with
      | nil =>
          obtain rfl : head = right := Option.some.inj tiles.last
          cases run
          refine ⟨[], by simp, rfl, by simp, ?_, by simp [pairwise]⟩
          simp [CalculationRequest.share, secondsBetween]
      | cons second rest =>
          obtain ⟨before, later⟩ := tiles.tail rfl
          rw [pairwise_cons_cons, List.foldlM_cons, bind_eq_ok] at run
          obtain ⟨next, here, run⟩ := run
          obtain ⟨_, _, moved, _⟩ := priceSlice_amount accepted gapless begins before.le reached here
          obtain ⟨added, slices, timed⟩ := priceSlice_timed accepted energy gapless begins before reached here
          obtain ⟨more, further, rest⟩ := ih later (begins.trans before.le) moved run
          exact ⟨added ++ more, by rw [further, slices, List.append_assoc], timed.append rest⟩

end RateEngine

/-- Slices that tile the interval in time, and its energy. -/
structure SlicesTile (request : CalculationRequest) (slices : List CostSlice) : Prop where
  linked : Linked CostSlice.start CostSlice.finish request.start request.finish slices
  forward : ∀ value ∈ slices, value.start ≤ value.finish
  within : ∀ value ∈ slices, request.start ≤ value.start ∧ value.finish ≤ request.finish
  nonneg : ∀ value ∈ slices, 0 ≤ value.energyKwh
  sum : (slices.map CostSlice.energyKwh).sum = request.energyKwh

/-- The slices of a calculation, timed over its pieces. -/
theorem RateEngine.calculate_timed {engine : RateEngine} {request : CalculationRequest} (energy : 0 < request.energyKwh)
    {calculation : Calculation} (run : engine.calculate request = .ok calculation) {points : List Int}
    (found : engine.boundaries request.start request.finish = .ok points) {tiers : List ResolvedTier}
    (resolved : engine.cycleTiers request = .ok tiers) :
    Timed request tiers request.start request.finish (pairwise points) calculation.slices := by
  obtain ⟨accepted, _, _, ledger, isFound, isResolved, fold, rfl⟩ := (engine.calculate_eq_ok request).mp run
  cases found.symm.trans isFound
  cases resolved.symm.trans isResolved
  have tiles := boundaries_tiles accepted.interval found
  have gapless : tiers ≠ [] → Gapless tiers := by
    intro nonempty
    by_cases tiered : engine.plan.pricingModel.isTiered = true
    · exact cycleTiers_gapless tiered resolved
    · rw [cycleTiers_untiered (by simpa using tiered)] at resolved
      cases resolved
      exact absurd rfl nonempty
  obtain ⟨added, slices, timed⟩ :=
    fold_timed accepted energy gapless tiles le_rfl (fun _ => CalculationRequest.level_start.symm) fold
  have same : (engine.settle request tiers ledger).slices = added := slices
  exact same ▸ timed

/-- Four tiers, three of which end within a minute of 0.6 kWh. -/
def fourTiers (first second third : Rat) : Plan :=
  { pricingModel := .tiered
    tiers :=
      [{ tierId := "one", name := "One", order := 0, lowerBoundInclusiveKwh := some 0
         upperBoundExclusiveKwh := some first, pricePerKwh := 1 / 10 },
       { tierId := "two", name := "Two", order := 1, lowerBoundInclusiveKwh := some first
         upperBoundExclusiveKwh := some second, pricePerKwh := 1 / 5 },
       { tierId := "three", name := "Three", order := 2, lowerBoundInclusiveKwh := some second
         upperBoundExclusiveKwh := some third, pricePerKwh := 3 / 10 },
       { tierId := "four", name := "Four", order := 3, lowerBoundInclusiveKwh := some third, pricePerKwh := 2 / 5 }] }

def minuteOfEnergy : CalculationRequest :=
  { start := 0, finish := 60000000, energyKwh := 3 / 5, cycleStart := some 0, cycleEnd := some (30 * dayLength) }

def evenTiers : RateEngine := ⟨fourTiers (1 / 5) (2 / 5) (1 / 2), .utc, by decide +kernel⟩

/-- The bounds are half a microsecond's worth of energy apart from whole microseconds. -/
def unevenTiers : RateEngine :=
  ⟨fourTiers (200000005 / 1000000000) (40000001 / 100000000) (599999995 / 1000000000), .utc, by decide +kernel⟩

end PowerMonitor.Rates
