import Mathlib.Algebra.Order.BigOperators.Group.List
import PowerMonitor.Rates.CycleReport

/-! When usage without a price is disclosed.

An interval is marked when no context holds any part of it, or when some part of it is priced by a version without tiers.
A part between two contexts is left out without a mark, so an interval that begins in one loses energy silently.
-/

set_option autoImplicit false
namespace PowerMonitor.Rates
open Library Calendar

/-! ## Marked intervals -/

/-- The interval is outside of all contexts, or some instant of it is in one without tiers. -/
def Marked (contexts : List TierContext) (interval : AuthoritativeInterval) : Prop :=
  (∀ instant, interval.start ≤ instant → instant < interval.finish → tierContextAt contexts instant = none) ∨
    ∃ instant, interval.start ≤ instant ∧ instant < interval.finish ∧
      ∃ context ∈ tierContextAt contexts instant, context.tiered = false

/-- Every instant of the interval is in a tiered context. -/
def Covered (contexts : List TierContext) (interval : AuthoritativeInterval) : Prop :=
  ∀ instant, interval.start ≤ instant → instant < interval.finish → TierCovered contexts instant

section Pieces
variable {contexts : List TierContext} {interval : AuthoritativeInterval}

/-- What is found somewhere in the interval is found at a piece of it. -/
theorem exists_piece_at {instant : Int} (after : interval.start ≤ instant) (before : instant < interval.finish)
    {context : TierContext} (found : tierContextAt contexts instant = some context) :
    ∃ piece ∈ ratePieces contexts interval.start interval.finish, piece.2.2 = context := by
  obtain ⟨left, right, pair, from_, upTo⟩ := (rateBoundaries_tiles interval.ordered).exists_piece after before
  have search := tierContextAt_piece interval.ordered pair from_ upTo
  refine ⟨(left, right, context), List.mem_filterMap.mpr ⟨(left, right), pair, ?_⟩, rfl⟩
  dsimp only
  rw [search, found, Option.map_some]

theorem piece_found {piece : RatePiece} (member : piece ∈ ratePieces contexts interval.start interval.finish) :
    ∃ instant, interval.start ≤ instant ∧ instant < interval.finish ∧
      tierContextAt contexts instant = some piece.2.2 := by
  obtain ⟨⟨left, right⟩, pair, found⟩ := List.mem_filterMap.mp member
  obtain ⟨context, search, rfl⟩ := Option.map_eq_some_iff.mp found
  obtain ⟨fromStart, proper, upTo, _⟩ := (rateBoundaries_tiles interval.ordered).piece pair
  refine ⟨left, fromStart, by omega, ?_⟩
  rw [← tierContextAt_piece interval.ordered pair le_rfl proper]
  exact search

theorem marked_iff_pieces : Marked contexts interval ↔ ratePieces contexts interval.start interval.finish = [] ∨
    ∃ piece ∈ ratePieces contexts interval.start interval.finish, piece.2.2.tiered = false := by
  unfold Marked
  refine or_congr ⟨?_, ?_⟩ ⟨?_, ?_⟩
  · intro outside
    rw [List.eq_nil_iff_forall_not_mem]
    intro piece member
    obtain ⟨instant, after, before, found⟩ := piece_found member
    rw [outside instant after before] at found
    cases found
  · intro empty instant after before
    cases found : tierContextAt contexts instant with
    | none => rfl
    | some context =>
        obtain ⟨piece, member, _⟩ := exists_piece_at after before found
        rw [empty] at member
        cases member
  · rintro ⟨instant, after, before, context, found, untiered⟩
    obtain ⟨piece, member, rfl⟩ := exists_piece_at after before found
    exact ⟨piece, member, untiered⟩
  · rintro ⟨piece, member, untiered⟩
    obtain ⟨instant, after, before, found⟩ := piece_found member
    exact ⟨instant, after, before, _, found, untiered⟩

end Pieces

/-! ## The mark of a run -/

section Loop
variable {cycleStart cycleEnd : Int} {contexts : List TierContext} {interval : AuthoritativeInterval}
  {state next : TierAllocation}

theorem recordSegments_missingRate (part : RatePart) (calculation : Calculation) (slices : List CostSlice)
    (state : TierAllocation) :
    (slices.foldl (recordSegment interval part calculation) state).missingRate = state.missingRate := by
  induction slices generalizing state with
  | nil => rfl
  | cons value rest ih =>
      rw [List.foldl_cons, ih]
      unfold recordSegment
      split <;> rfl

theorem allocatePart_missingRate {part : RatePart}
    (step : allocatePart cycleStart cycleEnd interval state part = .ok next) :
    next.missingRate = true ↔ state.missingRate = true ∨ part.context.tiered = false := by
  cases tiered : part.context.tiered with
  | true =>
      rw [allocatePart, if_pos tiered] at step
      obtain ⟨calculation, _, done⟩ := bind_eq_ok.mp step
      cases done
      dsimp only
      rw [recordSegments_missingRate]
      simp
  | false =>
      rw [allocatePart_untiered (by simp [tiered])] at step
      cases step
      simp [TierAllocation.marked]

/-- A run of marking steps ends marked if it starts so or some step marks. -/
theorem foldlM_missingRate {Item : Type} {step : TierAllocation → Item → Except EngineError TierAllocation}
    (marks : Item → Prop) {items : List Item}
    (each : ∀ item ∈ items, ∀ state next, step state item = .ok next →
      (next.missingRate = true ↔ state.missingRate = true ∨ marks item))
    (run : items.foldlM step state = .ok next) :
    next.missingRate = true ↔ state.missingRate = true ∨ ∃ item ∈ items, marks item := by
  induction items generalizing state with
  | nil =>
      cases run
      simp
  | cons item rest ih =>
      rw [List.foldlM_cons] at run
      obtain ⟨middle, here, later⟩ := bind_eq_ok.mp run
      have tail := ih (fun other member => each other (List.mem_cons_of_mem _ member)) later
      rw [tail, each item List.mem_cons_self state middle here]
      simp [or_assoc]

theorem allocateInterval_missingRate (step : allocateInterval cycleStart cycleEnd contexts state interval = .ok next) :
    next.missingRate = true ↔ state.missingRate = true ∨ Marked contexts interval := by
  rw [marked_iff_pieces]
  unfold allocateInterval at step
  dsimp only at step
  rw [split_eq_map] at step
  split at step
  · next empty =>
      cases step
      rw [List.isEmpty_iff, List.map_eq_nil_iff] at empty
      simp [empty]
  · next some =>
      rw [List.isEmpty_iff, List.map_eq_nil_iff] at some
      have run := foldlM_missingRate (fun part : RatePart => part.context.tiered = false)
        (fun part _ before after here => allocatePart_missingRate here) step
      rw [run]
      simp [some, AuthoritativeInterval.part]

variable {initialUsage : Rat} {context : Option (Int × Option String)} {intervals : List AuthoritativeInterval}
  {status : CycleTierStatus}

/-- A status is marked exactly when some interval is. -/
theorem status_missingRate (run : calculateCycleTierStatus cycleStart cycleEnd contexts initialUsage context intervals =
    .ok status) : status.missingRate = true ↔ ∃ interval ∈ intervals, Marked contexts interval := by
  obtain ⟨allocation, loop, rest⟩ := bind_eq_ok.mp run
  obtain ⟨segments, _, done⟩ := bind_eq_ok.mp rest
  cases done
  have marks := foldlM_missingRate (Marked contexts)
    (fun interval _ before after here => allocateInterval_missingRate here) loop
  dsimp only at marks ⊢
  rw [marks]
  simp [(perm_sortedBy AuthoritativeInterval.sortKey intervals).mem_iff]

/-- The energy of an interval that is not marked has been checked by the engine. -/
theorem unmarked_energy (run : calculateCycleTierStatus cycleStart cycleEnd contexts initialUsage context intervals =
    .ok status) (member : interval ∈ intervals) (unmarked : ¬ Marked contexts interval) : 0 ≤ interval.energyKwh := by
  obtain ⟨allocation, loop, _⟩ := bind_eq_ok.mp run
  obtain ⟨state, next, _, step⟩ := foldlM_step_of_mem (fun _ => True) trivial (fun _ _ _ _ _ => trivial) loop
    ((perm_sortedBy AuthoritativeInterval.sortKey intervals).mem_iff.mpr member)
  rw [marked_iff_pieces, not_or] at unmarked
  obtain ⟨some, tiered⟩ := unmarked
  unfold allocateInterval at step
  dsimp only at step
  rw [split_eq_map, if_neg (by simpa using some)] at step
  obtain ⟨piece, inside⟩ := List.exists_mem_of_ne_nil _ some
  obtain ⟨before, after, _, part⟩ := foldlM_step_of_mem (fun _ => True) trivial (fun _ _ _ _ _ => trivial) step
    (List.mem_map_of_mem inside)
  have isTiered : (interval.part piece).context.tiered = true := by
    by_contra untiered
    exact tiered ⟨piece, inside, Bool.eq_false_iff.mpr untiered⟩
  rw [allocatePart, if_pos isTiered] at part
  obtain ⟨calculation, priced, _⟩ := bind_eq_ok.mp part
  have share := ((RateEngine.calculate_eq_ok _ _).mp priced).1.energy
  -- The share of the part is positive, so the energy has its sign.
  obtain ⟨⟨left, right⟩, pair, found⟩ := List.mem_filterMap.mp inside
  obtain ⟨other, _, rfl⟩ := Option.map_eq_some_iff.mp found
  obtain ⟨_, proper, _, _⟩ := (rateBoundaries_tiles interval.ordered).piece pair
  have length := secondsBetween_pos interval.ordered
  have positive := secondsBetween_pos proper
  have product : 0 ≤ interval.energyKwh * secondsBetween left right := by
    have := mul_nonneg share length.le
    simpa [RatePart.request, AuthoritativeInterval.part, div_mul_cancel₀ _ length.ne'] using this
  exact nonneg_of_mul_nonneg_left product positive

end Loop

/-! ## Energy that is lost -/

section Energy
variable {contexts : List TierContext} {interval : AuthoritativeInterval}

theorem coveredEnergy_le (energy : 0 ≤ interval.energyKwh) : coveredEnergy contexts interval ≤ interval.energyKwh := by
  have length : (0 : Rat) < (interval.finish - interval.start : Int) := by exact_mod_cast sub_pos.mpr interval.ordered
  have some : (((Finset.Ico interval.start interval.finish).filter (TierCovered contexts)).card : Rat) ≤
      (interval.finish - interval.start : Int) := by
    have all := Finset.card_filter_le (Finset.Ico interval.start interval.finish) (TierCovered contexts)
    rw [Int.card_Ico] at all
    have ordered := interval.ordered
    have : (((Finset.Ico interval.start interval.finish).filter (TierCovered contexts)).card : Int) ≤
        interval.finish - interval.start := by omega
    exact_mod_cast this
  rw [coveredEnergy, div_le_iff₀ length]
  exact mul_le_mul_of_nonneg_left some energy

/-- An interval keeps its energy exactly when it has none or is covered. -/
theorem coveredEnergy_eq_iff : coveredEnergy contexts interval = interval.energyKwh ↔
    (interval.energyKwh ≠ 0 → Covered contexts interval) := by
  have length : ((interval.finish - interval.start : Int) : Rat) ≠ 0 := by
    exact_mod_cast (sub_pos.mpr interval.ordered).ne'
  have ordered := interval.ordered
  by_cases none : interval.energyKwh = 0
  · simp [coveredEnergy, none]
  · rw [coveredEnergy, div_eq_iff length, mul_right_inj' none, imp_iff_right none]
    have count : (((Finset.Ico interval.start interval.finish).filter (TierCovered contexts)).card : Rat) =
        (interval.finish - interval.start : Int) ↔
          ((Finset.Ico interval.start interval.finish).filter (TierCovered contexts)).card =
            (Finset.Ico interval.start interval.finish).card := by
      rw [Int.card_Ico, ← Int.cast_natCast, Int.cast_inj]
      omega
    rw [count, Finset.card_filter_eq_iff]
    unfold Covered
    constructor
    · intro all instant after before
      exact all instant (Finset.mem_Ico.mpr ⟨after, before⟩)
    · intro all instant member
      exact all instant (Finset.mem_Ico.mp member).1 (Finset.mem_Ico.mp member).2

/-- Where no interval is marked, nothing is lost exactly when every interval with energy is covered. -/
theorem nothing_lost_iff {intervals : List AuthoritativeInterval}
    (energies : ∀ interval ∈ intervals, 0 ≤ interval.energyKwh) :
    ¬ (intervals.map (coveredEnergy contexts)).sum < (intervals.map AuthoritativeInterval.energyKwh).sum ↔
      ∀ interval ∈ intervals, interval.energyKwh ≠ 0 → Covered contexts interval := by
  induction intervals with
  | nil => simp
  | cons interval rest ih =>
      have here : coveredEnergy contexts interval ≤ interval.energyKwh := coveredEnergy_le (energies interval List.mem_cons_self)
      have others := fun other member => energies other (List.mem_cons_of_mem _ member)
      have behind : (rest.map (coveredEnergy contexts)).sum ≤ (rest.map AuthoritativeInterval.energyKwh).sum :=
        List.sum_le_sum fun other member => coveredEnergy_le (others other member)
      rw [List.forall_mem_cons, ← coveredEnergy_eq_iff, ← ih others, List.map_cons, List.map_cons, List.sum_cons,
        List.sum_cons]
      constructor
      · intro kept
        refine ⟨?_, ?_⟩ <;> linarith
      · rintro ⟨same, kept⟩
        linarith

end Energy

/-! ## The report -/

/-- The segments hold less than the intervals. -/
def CycleTierStatus.Short (status : CycleTierStatus) (intervals : List AuthoritativeInterval) : Prop :=
  (status.segments.map SegmentRow.energyKwh).sum < (intervals.map AuthoritativeInterval.energyKwh).sum

instance (status : CycleTierStatus) (intervals : List AuthoritativeInterval) : Decidable (status.Short intervals) :=
  inferInstanceAs (Decidable (_ < _))

/-- The warning of missing rates is in the report exactly when the status is marked. -/
theorem mem_reportWarnings {inputs : CycleInputs} (other : missingRateWarning ∉ inputs.warnings)
    (status : CycleTierStatus) (coverage : Rat) :
    missingRateWarning ∈ inputs.reportWarnings status coverage ↔ status.missingRate = true := by
  have apart : missingRateWarning ≠ contextWarning ∧ missingRateWarning ≠ coverageWarning ∧
      missingRateWarning ≠ projectionWarning := by decide
  obtain ⟨first, second, third⟩ := apart
  unfold CycleInputs.reportWarnings
  simp only [List.mem_append, other, false_or]
  constructor
  · rintro (((context | missing) | coverage) | projection)
    · split at context
      · exact absurd (List.mem_singleton.mp context) first
      · cases context
    · split at missing
      · assumption
      · cases missing
    · split at coverage
      · exact absurd (List.mem_singleton.mp coverage) second
      · cases coverage
    · split at projection
      · cases projection
      · exact absurd (List.mem_singleton.mp projection) third
  · intro marked
    rw [if_pos marked]
    exact .inl (.inl (.inr List.mem_cons_self))

def firstDayContext : TierContext :=
  { start := 0, finish := dayLength, rateVersion := "v1", engine := RateEngine.roundedEngine, ordered := by decide }

/-- Two days with a version for the first, and twelve hours of usage from the given hour on. -/
def firstDayCycle (hour : Int) : CycleInputs where
  account := { costScopeDefault := .energyOnly }
  cycleStart := 0
  cycleEnd := 2 * dayLength
  usageSource := .sensorMeasurements
  intervals := [{ intervalId := some "half-day", start := hour * 3600000000, finish := (hour + 12) * 3600000000
                  energyKwh := 2, ordered := by omega }]
  contexts := [firstDayContext]

def CycleAnswer.report? : CycleAnswer → Option CycleReport
  | .unavailable _ => none
  | .available report => some report

/-- A report that the calculation gives, with what can be computed about it. -/
theorem report_of_answer {Value : Type} {inputs : CycleInputs} {clock later : Int} {view : CycleReport → Value} {value : Value}
    (run : ((inputs.calculate clock later).toOption.bind CycleAnswer.report?).map view = some value) :
    ∃ report, inputs.calculate clock later = .ok (.available report) ∧ view report = value := by
  cases answer : inputs.calculate clock later with
  | error failure =>
      rw [answer] at run
      cases run
  | ok answer' =>
      rw [answer] at run
      cases answer' with
      | unavailable reason => cases run
      | available report => exact ⟨report, rfl, Option.some.inj run⟩

end PowerMonitor.Rates
