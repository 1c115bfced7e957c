import PowerMonitor.Rates.Engine

/-! The loop over the tiers of a slice, and the charge of a tiered plan.

The resolved tiers form a ladder, so every usage is held by a tier with room above it
and each pass moves on. What a pass adds is the growth of the ladder's total over the
energy it took, for prices, for the energy of a tier and for that of a bucket alike;
the passes of a slice therefore add the growth over the whole slice.
-/

set_option autoImplicit false
namespace PowerMonitor.Rates
open Library Calendar

/-- What usage from `first` to `last` adds to a weighted total over the tiers. -/
def growth (tiers : List ResolvedTier) (weight : ResolvedTier → Rat) (first last : Rat) : Rat :=
  ladderTotal ResolvedTier.lowerBoundKwh ResolvedTier.upperBoundKwh weight tiers last -
    ladderTotal ResolvedTier.lowerBoundKwh ResolvedTier.upperBoundKwh weight tiers first

theorem growth_self (tiers : List ResolvedTier) (weight : ResolvedTier → Rat) (level : Rat) :
    growth tiers weight level level = 0 := sub_self _

theorem growth_add (tiers : List ResolvedTier) (weight : ResolvedTier → Rat) (first middle last : Rat) :
    growth tiers weight first middle + growth tiers weight middle last = growth tiers weight first last := by
  unfold growth
  ring

/-- Growth is the integral of the weight over the usage. -/
theorem growth_eq_overlap (tiers : List ResolvedTier) (weight : ResolvedTier → Rat) {first last : Rat}
    (ordered : first ≤ last) : growth tiers weight first last =
      (tiers.map fun tier => weight tier * overlap first last tier.lowerBoundKwh tier.upperBoundKwh).sum := by
  unfold growth ladderTotal
  induction tiers with
  | nil => simp
  | cons tier rest ih =>
      simp only [List.map_cons, List.sum_cons]
      rw [overlap_eq ordered, ← ih]
      ring

/-- The tiers of a cycle, from zero and without a gap. -/
def Gapless (tiers : List ResolvedTier) : Prop :=
  Ladder ResolvedTier.lowerBoundKwh ResolvedTier.upperBoundKwh 0 0 tiers

theorem Gapless.ne_nil {tiers : List ResolvedTier} (gapless : Gapless tiers) : tiers ≠ [] := by
  intro empty
  rw [empty] at gapless
  exact gapless

/-- The price a tier has in a slice; zero stands for one that is missing. -/
def Plan.tierRate (plan : Plan) (touBucket : String) (touRate : Rat) (found : ResolvedTier) : Rat :=
  (plan.tierPrice found.tier touBucket touRate).toOption.getD 0

def inBucket (plan : Plan) (touBucket bucket : String) (found : ResolvedTier) : Rat :=
  if bucket = plan.tierBucket found.tier touBucket then 1 else 0

def named (name : String) (found : ResolvedTier) : Rat := if name = found.tier.name then 1 else 0

/-- What pricing some energy with one schedule entry adds to the ledger. -/
structure Accrual (plan : Plan) (tiers : List ResolvedTier) (touBucket : String) (touRate : Rat)
    (before after : Ledger) (energy : Rat) : Prop where
  cumulative : after.cumulative = before.cumulative + energy
  cost : after.energyCharge = before.energyCharge +
    growth tiers (plan.tierRate touBucket touRate) before.cumulative after.cumulative
  byBucket : ∀ bucket, amountAt after.byBucket bucket = amountAt before.byBucket bucket +
    growth tiers (inBucket plan touBucket bucket) before.cumulative after.cumulative
  byTier : ∀ name, amountAt after.byTier name = amountAt before.byTier name +
    growth tiers (named name) before.cumulative after.cumulative
  chargeByTier : ∀ name, amountAt after.chargeByTier name = amountAt before.chargeByTier name +
    growth tiers (fun tier => named name tier * plan.tierRate touBucket touRate tier)
      before.cumulative after.cumulative

section Loop
variable {plan : Plan} {tiers : List ResolvedTier} {slice : TariffSlice}

theorem Accrual.refl (touBucket : String) (touRate : Rat) (ledger : Ledger) :
    Accrual plan tiers touBucket touRate ledger ledger 0 where
  cumulative := (add_zero _).symm
  cost := by rw [growth_self, add_zero]
  byBucket := fun bucket => by rw [growth_self, add_zero]
  byTier := fun name => by rw [growth_self, add_zero]
  chargeByTier := fun name => by rw [growth_self, add_zero]

theorem Accrual.trans {touBucket : String} {touRate : Rat} {first second third : Ledger} {amount more : Rat}
    (left : Accrual plan tiers touBucket touRate first second amount)
    (right : Accrual plan tiers touBucket touRate second third more) :
    Accrual plan tiers touBucket touRate first third (amount + more) where
  cumulative := by rw [right.cumulative, left.cumulative, add_assoc]
  cost := by rw [right.cost, left.cost, add_assoc, growth_add]
  byBucket := fun bucket => by rw [right.byBucket, left.byBucket, add_assoc, growth_add]
  byTier := fun name => by rw [right.byTier, left.byTier, add_assoc, growth_add]
  chargeByTier := fun name => by rw [right.chargeByTier, left.chargeByTier, add_assoc, growth_add]

theorem segmentEnergy_le_remaining (found : ResolvedTier) (cumulative remaining : Rat) :
    segmentEnergy found cumulative remaining ≤ remaining := min_le_left _ _

theorem segmentEnergy_pos {found : ResolvedTier} {cumulative remaining : Rat}
    (inside : holds ResolvedTier.lowerBoundKwh ResolvedTier.upperBoundKwh cumulative found = true)
    (more : 0 < remaining) : 0 < segmentEnergy found cumulative remaining := by
  unfold segmentEnergy
  cases upper : found.upperBoundKwh with
  | none => simpa using more
  | some limit =>
      simp only [holds, upper, Option.all_some, Bool.and_eq_true, decide_eq_true_eq] at inside
      apply lt_min more
      exact lt_max_of_lt_right (sub_pos.mpr inside.2)

namespace Segment
variable {state next : TierLoop} {found : ResolvedTier} {energy price : Rat}

/-- The energy taken stays within the tier. -/
theorem within (segment : Segment plan tiers slice state next found energy price) :
    ∀ limit ∈ found.upperBoundKwh, state.ledger.cumulative + energy ≤ limit := by
  intro limit finish
  have most : energy ≤ max 0 (limit - state.ledger.cumulative) := by
    rw [segment.amount, segmentEnergy, Option.mem_def.mp finish]
    exact min_le_right _ _
  cases le_max_iff.mp most with
  | inl none => linarith [segment.progress]
  | inr room => linarith

/-- One tier takes the energy of a pass, so only its weight grows. -/
theorem growth_eq (segment : Segment plan tiers slice state next found energy price) (gapless : Gapless tiers)
    (nonneg : 0 ≤ state.ledger.cumulative) (weight : ResolvedTier → Rat) :
    growth tiers weight state.ledger.cumulative next.ledger.cumulative = weight found * energy := by
  have positive := segment.progress
  rw [segment.cumulative, growth]
  rw [gapless.total_sub weight nonneg nonneg (by linarith) segment.search segment.within]
  ring

theorem accrual (segment : Segment plan tiers slice state next found energy price) (gapless : Gapless tiers)
    (nonneg : 0 ≤ state.ledger.cumulative) :
    Accrual plan tiers slice.touBucket slice.touRate state.ledger next.ledger energy where
  cumulative := segment.cumulative
  cost := by
    rw [segment.growth_eq gapless nonneg, segment.cost, Plan.tierRate, segment.priced]
    simp [Except.toOption, mul_comm]
  byBucket := fun bucket => by
    rw [segment.growth_eq gapless nonneg, segment.byBucket, amountAt_addAmount, inBucket, ite_mul, one_mul, zero_mul]
  byTier := fun name => by
    rw [segment.growth_eq gapless nonneg, segment.byTier, amountAt_addAmount, named, ite_mul, one_mul, zero_mul]
  chargeByTier := fun name => by
    rw [segment.growth_eq gapless nonneg, segment.chargeByTier, amountAt_addAmount, Plan.tierRate, segment.priced, named]
    simp [Except.toOption, mul_comm]

end Segment

theorem allocate_more {state : TierLoop} (more : 0 < state.remaining) :
    plan.allocate tiers slice state = plan.allocateSegment tiers slice state >>= plan.allocate tiers slice := by
  rw [Plan.allocate, dif_pos more]
  split
  · next failure step => rw [step]; rfl
  · next next step =>
      change plan.allocate tiers slice next = _
      rw [step]
      rfl

theorem allocate_done {state : TierLoop} (done : ¬ 0 < state.remaining) :
    plan.allocate tiers slice state = .ok state.ledger := by
  rw [Plan.allocate, dif_neg done]

/-- What every pass keeps holds when the loop has ended. -/
theorem allocate_invariant (Holds : TierLoop → Prop) {state : TierLoop} {ledger : Ledger} (initial : Holds state)
    (preserved : ∀ state next, 0 < state.remaining → plan.allocateSegment tiers slice state = .ok next →
      Holds state → Holds next)
    (run : plan.allocate tiers slice state = .ok ledger) :
    ∃ final, Holds final ∧ final.ledger = ledger ∧ final.remaining ≤ 0 := by
  induction passes : passesLeft tiers state using Nat.strong_induction_on generalizing state with
  | _ count ih =>
      by_cases more : 0 < state.remaining
      · rw [allocate_more more, bind_eq_ok] at run
        obtain ⟨next, step, rest⟩ := run
        exact ih _ (passes ▸ passesLeft_lt more step) (preserved state next more step initial) rest rfl
      · rw [allocate_done more] at run
        exact ⟨state, initial, Except.ok.inj run, not_lt.mp more⟩

/-- The whole loop adds the growth over all the energy it was given. -/
theorem allocate_accrual (gapless : Gapless tiers) {state : TierLoop} {ledger : Ledger}
    (usage : 0 ≤ state.ledger.cumulative) (energy : 0 ≤ state.remaining)
    (run : plan.allocate tiers slice state = .ok ledger) :
    Accrual plan tiers slice.touBucket slice.touRate state.ledger ledger state.remaining := by
  -- What was taken and what remains make up the energy at the start.
  let Holds := fun current : TierLoop => 0 ≤ current.ledger.cumulative ∧ 0 ≤ current.remaining ∧
    Accrual plan tiers slice.touBucket slice.touRate state.ledger current.ledger (state.remaining - current.remaining)
  have initial : Holds state := ⟨usage, energy, by rw [sub_self]; exact Accrual.refl _ _ _⟩
  have preserved : ∀ current next, 0 < current.remaining → plan.allocateSegment tiers slice current = .ok next →
      Holds current → Holds next := by
    intro current next _ step held
    obtain ⟨nonneg, _, sofar⟩ := held
    obtain ⟨found, taken, price, segment⟩ := allocateSegment_eq_ok step
    have most : taken ≤ current.remaining := segment.amount ▸ segmentEnergy_le_remaining _ _ _
    have positive := segment.progress
    refine ⟨by rw [segment.cumulative]; linarith, by rw [segment.remaining]; linarith, ?_⟩
    have both := sofar.trans (segment.accrual gapless nonneg)
    rw [segment.remaining]
    convert both using 1
    ring
  obtain ⟨final, ⟨_, remaining, accrued⟩, rfl, done⟩ := allocate_invariant Holds initial preserved run
  rwa [le_antisymm done remaining, sub_zero] at accrued

theorem allocate_returns (gapless : Gapless tiers)
    (priced : ∀ found ∈ tiers, ∃ price, plan.tierPrice found.tier slice.touBucket slice.touRate = .ok price)
    {state : TierLoop} (usage : 0 ≤ state.ledger.cumulative) :
    ∃ ledger, plan.allocate tiers slice state = .ok ledger := by
  induction passes : passesLeft tiers state using Nat.strong_induction_on generalizing state with
  | _ count ih =>
      by_cases more : 0 < state.remaining
      · obtain ⟨found, search⟩ := gapless.exists_holds usage
        have room := segmentEnergy_pos (List.find?_some search) more
        obtain ⟨price, known⟩ := priced found (List.mem_of_find?_eq_some search)
        have step : ∃ next, plan.allocateSegment tiers slice state = .ok next := by
          rw [Plan.allocateSegment, tierAt, search]
          simp [raiseIf, not_le.mpr room, known, bind, Except.bind, pure, Except.pure]
        obtain ⟨next, step⟩ := step
        obtain ⟨_, _, _, segment⟩ := allocateSegment_eq_ok step
        have usage' : 0 ≤ next.ledger.cumulative := by
          rw [segment.cumulative]
          linarith [segment.progress]
        obtain ⟨ledger, rest⟩ := ih _ (passes ▸ passesLeft_lt more step) usage' rfl
        exact ⟨ledger, by rw [allocate_more more, step]; exact rest⟩
      · exact ⟨state.ledger, allocate_done more⟩

/-! ## Slices of tiered plans -/

theorem priceEmpty_accrual {ledger after : Ledger} (run : plan.priceEmpty tiers slice ledger = .ok after) :
    Accrual plan tiers slice.touBucket slice.touRate ledger after 0 := by
  unfold Plan.priceEmpty at run
  split at run
  · cases run
    exact Accrual.refl _ _ _
  · rw [bind_eq_ok] at run
    obtain ⟨price, _, rest⟩ := run
    cases rest
    have same : Accrual plan tiers slice.touBucket slice.touRate ledger ledger 0 := Accrual.refl _ _ _
    exact ⟨same.cumulative, by simpa [Ledger.energyCharge] using same.cost, same.byBucket, same.byTier,
      same.chargeByTier⟩

theorem priceTiers_accrual (gapless : Gapless tiers) {ledger after : Ledger} (usage : 0 ≤ ledger.cumulative)
    (energy : 0 ≤ slice.allocated) (run : plan.priceTiers tiers slice ledger = .ok after) :
    Accrual plan tiers slice.touBucket slice.touRate ledger after slice.allocated := by
  unfold Plan.priceTiers at run
  rw [bind_eq_ok] at run
  obtain ⟨middle, loop, rest⟩ := run
  have filled : Accrual plan tiers slice.touBucket slice.touRate ledger middle slice.allocated :=
    allocate_accrual gapless usage energy loop
  split at rest
  · have both := filled.trans (priceEmpty_accrual rest)
    rwa [add_zero] at both
  · cases rest
    exact filled

theorem priceTiers_returns (gapless : Gapless tiers)
    (priced : ∀ found ∈ tiers, ∃ price, plan.tierPrice found.tier slice.touBucket slice.touRate = .ok price)
    {ledger : Ledger} (usage : 0 ≤ ledger.cumulative) : ∃ after, plan.priceTiers tiers slice ledger = .ok after := by
  obtain ⟨middle, loop⟩ : ∃ middle, plan.allocate tiers slice ⟨ledger, slice.allocated, slice.left⟩ = .ok middle :=
    allocate_returns gapless priced usage
  unfold Plan.priceTiers
  rw [loop]
  by_cases empty : slice.allocated = 0
  · simp only [bind, Except.bind, empty, if_true, Plan.priceEmpty]
    cases search : tierAt tiers middle.cumulative with
    | none => exact ⟨middle, rfl⟩
    | some found =>
        obtain ⟨price, known⟩ := priced found (List.mem_of_find?_eq_some search)
        simp [known, pure, Except.pure]
  · simp [bind, Except.bind, empty, pure, Except.pure]

end Loop

/-! ## Tiers that received energy -/

/-- A tier has an entry exactly when it received energy, and then a charge too. -/
structure Ledger.Recorded (ledger : Ledger) : Prop where
  positive : ∀ name amount, ledger.byTier.lookup name = some amount → 0 < amount
  charged : ∀ name, (ledger.chargeByTier.lookup name).isSome = (ledger.byTier.lookup name).isSome

section Recorded
variable {plan : Plan} {tiers : List ResolvedTier} {slice : TariffSlice}

theorem Segment.recorded {state next : TierLoop} {found : ResolvedTier} {energy price : Rat}
    (segment : Segment plan tiers slice state next found energy price) (before : state.ledger.Recorded) :
    next.ledger.Recorded where
  positive := by
    intro name amount entry
    rw [segment.byTier, addAmount, lookup_setKey] at entry
    split at entry
    · cases entry
      have := segment.progress
      cases old : state.ledger.byTier.lookup found.tier.name with
      | none => simpa [amountAt, old] using this
      | some sofar =>
          have := before.positive _ _ old
          simp only [amountAt, old, Option.getD_some]
          linarith
    · exact before.positive name amount entry
  charged := by
    intro name
    rw [segment.byTier, segment.chargeByTier, addAmount, addAmount, lookup_setKey, lookup_setKey]
    split
    · rfl
    · exact before.charged name

theorem priceTiers_recorded {ledger after : Ledger} (before : ledger.Recorded)
    (run : plan.priceTiers tiers slice ledger = .ok after) : after.Recorded := by
  unfold Plan.priceTiers at run
  rw [bind_eq_ok] at run
  obtain ⟨middle, loop, rest⟩ := run
  have kept : middle.Recorded := by
    obtain ⟨final, recorded, rfl, _⟩ := allocate_invariant (fun state => state.ledger.Recorded) before
      (fun state next _ step held => by
        obtain ⟨_, _, _, segment⟩ := allocateSegment_eq_ok step
        exact segment.recorded held) loop
    exact recorded
  split at rest
  · unfold Plan.priceEmpty at rest
    split at rest
    · cases rest
      exact kept
    · rw [bind_eq_ok] at rest
      obtain ⟨_, _, done⟩ := rest
      cases done
      exact ⟨kept.positive, kept.charged⟩
  · cases rest
    exact kept

/-- With entries only where there is energy, an entry is read off the amount. -/
theorem Ledger.Recorded.lookup {ledger : Ledger} (recorded : ledger.Recorded) {name : String} {energy charge : Rat}
    (byTier : amountAt ledger.byTier name = energy) (chargeByTier : amountAt ledger.chargeByTier name = charge) :
    ledger.byTier.lookup name = (if 0 < energy then some energy else none) ∧
      ledger.chargeByTier.lookup name = if 0 < energy then some charge else none := by
  have charged := recorded.charged name
  subst byTier chargeByTier
  cases entry : ledger.byTier.lookup name with
  | none =>
      rw [entry, Option.isSome_none, Option.isSome_eq_false_iff, Option.isNone_iff_eq_none] at charged
      simp [amountAt, entry, charged]
  | some amount =>
      have positive := recorded.positive name amount entry
      rw [entry, Option.isSome_some] at charged
      obtain ⟨cost, costEntry⟩ := Option.isSome_iff_exists.mp charged
      simp [amountAt, entry, costEntry, positive]

end Recorded

/-! ## The charge of a tiered plan -/

/-- The part of a request's usage that falls into a tier. -/
def usageIn (request : CalculationRequest) (tier : ResolvedTier) : Rat :=
  overlap request.cumulativeUsageBeforeKwh (request.cumulativeUsageBeforeKwh + request.energyKwh)
    tier.lowerBoundKwh tier.upperBoundKwh

theorem sum_named (tiers : List ResolvedTier) (distinct : (tiers.map fun tier => tier.tier.name).Nodup)
    (value : ResolvedTier → Rat) {found : ResolvedTier} (member : found ∈ tiers) :
    (tiers.map fun tier => named found.tier.name tier * value tier).sum = value found := by
  induction tiers with
  | nil => simp at member
  | cons head rest ih =>
      rw [List.map_cons, List.nodup_cons] at distinct
      rw [List.map_cons, List.sum_cons]
      cases List.mem_cons.mp member with
      | inl same =>
          have others : (rest.map fun tier => named found.tier.name tier * value tier).sum = 0 := by
            apply List.sum_eq_zero
            intro summand inside
            obtain ⟨tier, tierMember, rfl⟩ := List.mem_map.mp inside
            have differs : found.tier.name ≠ tier.tier.name := by
              intro equal
              exact distinct.1 (List.mem_map.mpr ⟨tier, tierMember, by rw [← equal, same]⟩)
            rw [named, if_neg differs, zero_mul]
          rw [others, ← same, named, if_pos rfl, one_mul, add_zero]
      | inr later =>
          have differs : found.tier.name ≠ head.tier.name := by
            intro equal
            exact distinct.1 (List.mem_map.mpr ⟨found, later, equal⟩)
          rw [ih distinct.2 later, named, if_neg differs, zero_mul, zero_add]

theorem sum_unnamed (tiers : List ResolvedTier) {name : String}
    (absent : name ∉ tiers.map fun tier => tier.tier.name) (value : ResolvedTier → Rat) :
    (tiers.map fun tier => named name tier * value tier).sum = 0 := by
  apply List.sum_eq_zero
  intro summand inside
  obtain ⟨tier, member, rfl⟩ := List.mem_map.mp inside
  have differs : name ≠ tier.tier.name := fun equal => absent (List.mem_map.mpr ⟨tier, member, equal.symm⟩)
  rw [named, if_neg differs, zero_mul]

theorem secondsBetween_pos {left right : Int} (ordered : left < right) : 0 < secondsBetween left right := by
  unfold secondsBetween
  have : (0 : Rat) < (right - left : Int) := by exact_mod_cast sub_pos.mpr ordered
  positivity

theorem CalculationRequest.share_whole (request : CalculationRequest) (interval : request.start < request.finish) :
    request.share request.start request.finish = request.energyKwh := by
  have positive := secondsBetween_pos interval
  unfold CalculationRequest.share
  field_simp

namespace RateEngine
variable {engine : RateEngine} {request : CalculationRequest} {tiers : List ResolvedTier}

/-- The tiers a request uses leave no gap. -/
theorem cycleTiers_gapless (tiered : engine.plan.pricingModel.isTiered = true)
    (resolved : engine.cycleTiers request = .ok tiers) : Gapless tiers := by
  unfold cycleTiers cycleOf at resolved
  rw [if_pos tiered] at resolved
  exact resolvedTiers_ladder tiered resolved

/-- A tiered plan prices the whole interval as one slice. -/
theorem priceSlice_tiered (model : engine.plan.pricingModel = .tiered) (interval : request.start < request.finish)
    (nonempty : tiers ≠ []) (ledger : Ledger) :
    engine.priceSlice request tiers ledger (request.start, request.finish) =
      engine.plan.priceTiers tiers ⟨request.start, request.finish, request.energyKwh, "all-hours", 0⟩ ledger := by
  simp [priceSlice, periodAt, model, nonempty, request.share_whole interval]

/-- The ledger of a tiered plan, as integrals over the usage. -/
theorem tiered_ledger (model : engine.plan.pricingModel = .tiered) (accepted : engine.Accepted request)
    (resolved : engine.cycleTiers request = .ok tiers) :
    ∃ ledger, engine.calculate request = .ok (engine.settle request tiers ledger) ∧ ledger.Recorded ∧
      ledger.energyCharge = (tiers.map fun tier => tier.tier.pricePerKwh * usageIn request tier).sum ∧
      (∀ name, amountAt ledger.byTier name = (tiers.map fun tier => named name tier * usageIn request tier).sum) ∧
      ∀ name, amountAt ledger.chargeByTier name =
        (tiers.map fun tier => named name tier * (tier.tier.pricePerKwh * usageIn request tier)).sum := by
  have tiered : engine.plan.pricingModel.isTiered = true := by rw [model]; rfl
  have gapless := cycleTiers_gapless tiered resolved
  have points : engine.boundaries request.start request.finish = .ok [request.start, request.finish] := by
    simp [boundaries, model, sortedSet_pair accepted.interval, pure, Except.pure]
  let slice : TariffSlice := ⟨request.start, request.finish, request.energyKwh, "all-hours", 0⟩
  have price : ∀ tier : ResolvedTier, engine.plan.tierPrice tier.tier "all-hours" 0 = .ok tier.tier.pricePerKwh := by
    intro tier
    simp [Plan.tierPrice, model]
  have rate : engine.plan.tierRate "all-hours" 0 = fun tier => tier.tier.pricePerKwh := by
    funext tier
    rw [Plan.tierRate, price]
    rfl
  obtain ⟨ledger, run⟩ : ∃ ledger, engine.plan.priceTiers tiers slice (openingLedger request) = .ok ledger :=
    priceTiers_returns gapless (fun tier _ => ⟨_, price tier⟩) accepted.usage
  have loop : (pairwise [request.start, request.finish]).foldlM (engine.priceSlice request tiers)
      (openingLedger request) = .ok ledger := by
    simp [pairwise, priceSlice_tiered model accepted.interval gapless.ne_nil, run, slice]
  have recorded : ledger.Recorded :=
    priceTiers_recorded ⟨fun _ _ entry => by simp [openingLedger] at entry, fun _ => rfl⟩ run
  have accrued : Accrual engine.plan tiers "all-hours" 0 (openingLedger request) ledger request.energyKwh :=
    priceTiers_accrual gapless accepted.usage accepted.energy run
  have last : ledger.cumulative = request.cumulativeUsageBeforeKwh + request.energyKwh := accrued.cumulative
  have ordered : request.cumulativeUsageBeforeKwh ≤ ledger.cumulative := by
    rw [last]
    linarith [accepted.energy]
  refine ⟨ledger, (calculate_eq_ok engine request).mpr ⟨accepted, _, tiers, ledger, points, resolved, loop, rfl⟩,
    recorded, ?_, ?_, ?_⟩
  · have cost := accrued.cost
    rw [rate, openingLedger, growth_eq_overlap tiers _ ordered, last] at cost
    simpa [Ledger.energyCharge, usageIn] using cost
  · intro name
    have amount := accrued.byTier name
    rw [openingLedger, growth_eq_overlap tiers _ ordered, last] at amount
    simpa [usageIn] using amount
  · intro name
    have amount := accrued.chargeByTier name
    rw [rate, openingLedger, growth_eq_overlap tiers _ ordered, last] at amount
    simpa [usageIn, mul_assoc] using amount

/-- A tiered plan charges each tier's price for the part of the usage that falls into it, whatever
thresholds the baseline and the rounding give. -/
theorem calculate_tiered_eq_integral (model : engine.plan.pricingModel = .tiered)
    (accepted : engine.Accepted request) (resolved : engine.cycleTiers request = .ok tiers) :
    ∃ calculation, engine.calculate request = .ok calculation ∧
      calculation.energyCharge = (tiers.map fun tier => tier.tier.pricePerKwh * usageIn request tier).sum ∧
      ((tiers.map fun tier => tier.tier.name).Nodup →
        (∀ tier ∈ tiers,
          calculation.energyByTier.lookup tier.tier.name =
            (if 0 < usageIn request tier then some (usageIn request tier) else none) ∧
          calculation.chargeByTier.lookup tier.tier.name =
            if 0 < usageIn request tier then some (tier.tier.pricePerKwh * usageIn request tier) else none) ∧
        ∀ name ∉ tiers.map fun tier => tier.tier.name,
          calculation.energyByTier.lookup name = none ∧ calculation.chargeByTier.lookup name = none) := by
  obtain ⟨ledger, run, recorded, cost, byTier, chargeByTier⟩ := tiered_ledger model accepted resolved
  refine ⟨_, run, cost, fun distinct => ⟨?_, ?_⟩⟩
  · intro tier member
    apply recorded.lookup
    · rw [byTier, sum_named tiers distinct _ member]
    · rw [chargeByTier, sum_named tiers distinct _ member]
  · intro name absent
    have entries := recorded.lookup (byTier name) (chargeByTier name)
    rw [sum_unnamed tiers absent, if_neg (lt_irrefl 0), if_neg (lt_irrefl 0)] at entries
    exact entries

/-- Two days of one kilowatt-hour; rounding leaves the middle tier empty. -/
def roundedPlan : Plan :=
  { pricingModel := .tiered
    threshold := { basis := .dailyBaselineKwh, dailyBaselineKwh := some 1, roundingPolicy := .nearestKwh }
    tiers :=
      [{ tierId := "base", name := "Base", order := 0, upperBoundMultiplier := some (6 / 5), pricePerKwh := 1 / 5 },
       { tierId := "mid", name := "Mid", order := 1, lowerBoundMultiplier := some (6 / 5),
         upperBoundMultiplier := some (31 / 25), pricePerKwh := 1 },
       { tierId := "top", name := "Top", order := 2, lowerBoundMultiplier := some (31 / 25), pricePerKwh := 1 / 2 }] }

def roundedEngine : RateEngine := ⟨roundedPlan, Zone.utc, by decide +kernel⟩

def roundedRequest : CalculationRequest :=
  { start := 0, finish := 3600000000, energyKwh := 4, cumulativeUsageBeforeKwh := 1
    cycleStart := some 0, cycleEnd := some (2 * dayLength) }

theorem roundedRequest_charge : ∃ calculation, roundedEngine.calculate roundedRequest = .ok calculation ∧
    calculation.energyCharge = 1 / 5 * 1 + 1 / 2 * 3 := by
  have resolved : roundedEngine.cycleTiers roundedRequest = .ok
      (roundedPlan.orderedTiers.map (resolveTier roundedPlan.threshold (some 2))) := by decide +kernel
  have accepted : roundedEngine.Accepted roundedRequest :=
    ⟨by decide, by decide, by decide, by decide⟩
  obtain ⟨calculation, run, charge, _⟩ := calculate_tiered_eq_integral rfl accepted resolved
  exact ⟨calculation, run, charge.trans (by decide +kernel)⟩

end RateEngine
end PowerMonitor.Rates
