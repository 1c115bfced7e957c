import PowerMonitor.Library.Related
import PowerMonitor.Rates.Acceptance
import PowerMonitor.Rates.CycleReport
import PowerMonitor.Rates.Recalculation

/-! When a started cycle has a report.

Every calculation of the report covers a window that ends after it starts as long as the cycle has not ended. At its end
the window of the current price is empty, and the engine refuses it.
-/

set_option autoImplicit false
namespace PowerMonitor.Rates
open Library Calendar

/-! ## The versions of a cycle -/

/-- A version of an assignment, with the part of the cycle it applies to. -/
structure RateSpan where
  start : Int
  finish : Int
  rateVersion : String
  document : RatePlanDocument
  zone : Zone
  ordered : start < finish

/-- The body of the loop of `_rate_contexts`. -/
def RateSpan.context (span : RateSpan) : Except EngineError TierContext := do
  let engine ← RateEngine.construct (enginePlan span.document) span.zone
  pure { start := span.start, finish := span.finish, rateVersion := span.rateVersion, engine := engine
         ordered := span.ordered }

/-- `calculate_cycle_tier_status`, with the engines built from the documents of the versions. -/
def CycleInputs.calculateFrom (inputs : CycleInputs) (spans : List RateSpan) (clock later : Int) :
    Except EngineError CycleAnswer := do
  let contexts ← spans.mapM RateSpan.context
  ({ inputs with contexts := contexts }).calculate clock later

theorem RateSpan.context_eq_ok {span : RateSpan} {context : TierContext} (built : span.context = .ok context) :
    context.engine.plan = enginePlan span.document ∧ context.engine.zone = span.zone ∧ context.start = span.start ∧
      context.finish = span.finish := by
  obtain ⟨engine, constructed, done⟩ := bind_eq_ok.mp built
  cases done
  obtain ⟨plan, zone⟩ := construct_eq_ok.mp constructed
  exact ⟨plan, zone, rfl, rfl⟩

section Span
variable {span : RateSpan} {context : TierContext}

theorem RateSpan.context_returns (clean : span.document.Clean) (ready : span.document.EngineReady) :
    ∃ context, span.context = .ok context :=
  ⟨_, bind_eq_ok.mpr ⟨⟨enginePlan span.document, span.zone, (validatePlan_iff clean).mpr ready.finalTier⟩,
    construct_eq_ok.mpr ⟨rfl, rfl⟩, rfl⟩⟩

theorem RateSpan.context_tiered (built : span.context = .ok context) :
    context.tiered = span.document.pricingModel.isTiered := by
  unfold TierContext.tiered
  rw [(RateSpan.context_eq_ok built).1]
  rfl

/-- The engine of a document that can be priced is ready for every cycle that holds a local day. -/
theorem RateSpan.context_ready (clean : span.document.Clean) (ready : span.document.EngineReady)
    (built : span.context = .ok context) {cycleStart cycleEnd : Int}
    (spans : span.zone.localDate cycleStart < span.zone.localDate cycleEnd) : context.Ready cycleStart cycleEnd := by
  obtain ⟨plan, zone, _⟩ := RateSpan.context_eq_ok built
  constructor
  · rw [plan]
    exact ⟨fun timeOfUse => coversEveryDay_of_seasonsKept (ready.seasons timeOfUse) clean.normal,
      fun hybrid => matrixPriced clean hybrid⟩
  · unfold RateEngine.resolvedTiers
    by_cases tiered : context.engine.plan.pricingModel.isTiered = true
    · rw [if_pos tiered]
      split
      · next daily =>
          rw [← zone] at spans
          obtain ⟨baseline, run⟩ := (RateEngine.baselineForCycle_eq_ok spans).mpr fun date _ _ => by
            rw [plan]
            rw [plan] at tiered daily
            exact (dailyKwh_isSome date).mpr (ready.baselines tiered daily (monthDay date) (monthDay_valid date))
          exact ⟨_, bind_eq_ok.mpr ⟨baseline, run, rfl⟩⟩
      · exact ⟨_, rfl⟩
    · rw [if_neg tiered]
      exact ⟨_, rfl⟩

end Span

/-! ## The calculations of a report -/

/-- A calculation that returns has a slice. -/
theorem RateEngine.calculate_has_slice {engine : RateEngine} {request : CalculationRequest} {calculation : Calculation}
    (run : engine.calculate request = .ok calculation) : calculation.slices ≠ [] := by
  cases tiered : engine.plan.pricingModel.isTiered with
  | true =>
      obtain ⟨_, _, _, block, _⟩ := RateEngine.calculate_slices tiered run
      exact block.ne_nil
  | false => exact RateEngine.slices_ne_nil tiered run

section Report
variable {inputs : CycleInputs} {last context : TierContext} {status : CycleTierStatus} {clock later : Int}

theorem activeContext_mem {contexts : List TierContext} (listed : last ∈ contexts) (cycleStart cycleEnd now : Int) :
    activeContext contexts last cycleStart cycleEnd now ∈ contexts := by
  unfold activeContext tierContextAt
  cases found : contexts.find? fun context => context.Holds (min now (finalInstant cycleStart cycleEnd)) with
  | none => exact listed
  | some context => exact List.mem_of_find?_eq_some found

/-- A window of the cycle is priced by a version that is ready. -/
theorem TierContext.Ready.prices (ready : context.Ready inputs.cycleStart inputs.cycleEnd) {request : CalculationRequest}
    (first : request.cycleStart = some inputs.cycleStart) (second : request.cycleEnd = some inputs.cycleEnd)
    (cycle : inputs.cycleStart < inputs.cycleEnd) (window : request.start < request.finish)
    (energy : 0 ≤ request.energyKwh) (usage : 0 ≤ request.cumulativeUsageBeforeKwh) :
    ∃ calculation, context.engine.calculate request = .ok calculation := by
  obtain ⟨priced, tiers, resolved⟩ := ready
  have accepted : context.engine.Accepted request :=
    ⟨window, energy, usage, (RateEngine.properCycle_explicit request first second).mpr fun _ => cycle⟩
  exact RateEngine.calculate_returns priced accepted ((RateEngine.cycleTiers_explicit request first second).trans resolved)

theorem elapsedSeconds_pos (cycleStart now : Int) : 0 < elapsedSeconds cycleStart now :=
  lt_of_lt_of_le Int.zero_lt_one (le_max_left _ _)

/-- A straight line through usage that is not negative does not fall. -/
theorem straightLine_returns {usage : Rat} (nonneg : 0 ≤ usage) {elapsed total : Int} (positive : 0 < elapsed)
    (longer : elapsed ≤ total) : ∃ projection, projectBillingCycle usage elapsed total .straightLine = .ok projection ∧
      usage ≤ projection.projectedEnergyKwh := by
  refine ⟨_, raiseIf_bind_eq_ok.mpr ⟨?_, rfl⟩, ?_⟩
  · rintro (negative | none | shorter)
    · exact absurd nonneg (not_le.mpr negative)
    · omega
    · omega
  · have some : (0 : Rat) < elapsed := by exact_mod_cast positive
    have more : (elapsed : Rat) ≤ total := by exact_mod_cast longer
    rw [le_div_iff₀ some]
    exact mul_le_mul_of_nonneg_left more nonneg

/-- The open part of a full bill: the clock has moved on since the cycle started. -/
def CycleInputs.BillStarted (inputs : CycleInputs) (later : Int) : Prop :=
  inputs.account.costScopeDefault = .fullAccountEstimate → inputs.cycleStart < later

instance (later : Int) : Decidable (inputs.BillStarted later) := inferInstanceAs (Decidable (_ → _))

/-- A report of a running cycle is made. -/
theorem report_returns (cycle : inputs.cycleStart < inputs.cycleEnd)
    (ready : ∀ context ∈ inputs.contexts, context.Ready inputs.cycleStart inputs.cycleEnd)
    (listed : last ∈ inputs.contexts) (usage : 0 ≤ status.cumulative) (started : inputs.cycleStart ≤ clock)
    (running : clock < inputs.cycleEnd) (bill : inputs.BillStarted later) :
    ∃ report, inputs.report last status clock later = .ok report := by
  have now : nowInCycle inputs.cycleStart inputs.cycleEnd clock = clock := by
    unfold nowInCycle
    omega
  have active := ready _ (activeContext_mem listed inputs.cycleStart inputs.cycleEnd clock)
  obtain ⟨tiers, resolved⟩ := active.resolves
  obtain ⟨projection, projected, grows⟩ := straightLine_returns usage (elapsedSeconds_pos inputs.cycleStart clock)
    (le_max_left (elapsedSeconds inputs.cycleStart clock) ((inputs.cycleEnd - inputs.cycleStart) / 1000000))
  obtain ⟨price, priced⟩ : ∃ price, inputs.currentPrice
      (activeContext inputs.contexts last inputs.cycleStart inputs.cycleEnd clock).engine clock status.cumulative =
        .ok price := by
    obtain ⟨calculation, run⟩ := active.prices
      (show (inputs.energyRequest clock (min inputs.cycleEnd (clock + seconds 1)) 0 status.cumulative).cycleStart = _ from rfl)
      rfl cycle (by simp only [CycleInputs.energyRequest, seconds]; omega) le_rfl usage
    obtain ⟨slice, rest, shape⟩ := List.exists_cons_of_ne_nil (RateEngine.calculate_has_slice run)
    exact ⟨slice, bind_eq_ok.mpr ⟨calculation, run, by rw [shape]; rfl⟩⟩
  obtain ⟨charge, charged⟩ : ∃ charge, inputs.projectedEnergyCharge
      (activeContext inputs.contexts last inputs.cycleStart inputs.cycleEnd clock).engine clock status.cumulative
        projection.projectedEnergyKwh (status.chargeByTier.map Prod.snd).sum = .ok charge := by
    unfold CycleInputs.projectedEnergyCharge
    split
    · obtain ⟨calculation, run⟩ := active.prices (show (inputs.energyRequest clock inputs.cycleEnd
        (projection.projectedEnergyKwh - status.cumulative) status.cumulative).cycleStart = _ from rfl) rfl cycle running
          (sub_nonneg.mpr grows) usage
      exact ⟨_, bind_eq_ok.mpr ⟨calculation, run, rfl⟩⟩
    · exact ⟨_, rfl⟩
  obtain ⟨components, billed⟩ : ∃ components, inputs.billComponents
      (activeContext inputs.contexts last inputs.cycleStart inputs.cycleEnd clock).engine later status.cumulative
        projection.projectedEnergyKwh (status.chargeByTier.map Prod.snd).sum charge = .ok components := by
    unfold CycleInputs.billComponents
    split
    · exact ⟨_, rfl⟩
    · next full =>
        have moved := bill (not_not.mp full)
        obtain ⟨current, first⟩ := active.prices
          (show (inputs.billRequest (min later inputs.cycleEnd) status.cumulative).cycleStart = _ from rfl) rfl cycle
          (by simp only [CycleInputs.billRequest]; omega) usage le_rfl
        obtain ⟨whole, second⟩ := active.prices
          (show (inputs.billRequest inputs.cycleEnd projection.projectedEnergyKwh).cycleStart = _ from rfl) rfl cycle cycle
          (usage.trans grows) le_rfl
        exact ⟨_, bind_eq_ok.mpr ⟨current, first, bind_eq_ok.mpr ⟨whole, second, rfl⟩⟩⟩
  unfold CycleInputs.report
  dsimp only
  rw [now]
  exact ⟨_, bind_eq_ok.mpr ⟨tiers, resolved, bind_eq_ok.mpr ⟨price, priced, bind_eq_ok.mpr ⟨projection, projected,
    bind_eq_ok.mpr ⟨charge, charged, bind_eq_ok.mpr ⟨components, billed, rfl⟩⟩⟩⟩⟩⟩

/-- What a report that is made says about the clock, whatever the versions. -/
theorem running_of_report {report : CycleReport} (made : inputs.report last status clock later = .ok report) :
    clock < inputs.cycleEnd ∧ inputs.BillStarted later := by
  obtain ⟨tiers, _, made⟩ := bind_eq_ok.mp made
  obtain ⟨price, priced, made⟩ := bind_eq_ok.mp made
  obtain ⟨projection, _, made⟩ := bind_eq_ok.mp made
  obtain ⟨charge, _, made⟩ := bind_eq_ok.mp made
  obtain ⟨components, billed, _⟩ := bind_eq_ok.mp made
  constructor
  · obtain ⟨calculation, run, _⟩ := bind_eq_ok.mp priced
    have window := ((RateEngine.calculate_eq_ok _ _).mp run).1.interval
    simp only [CycleInputs.energyRequest, nowInCycle] at window
    omega
  · intro full
    unfold CycleInputs.billComponents at billed
    rw [if_neg (not_not.mpr full)] at billed
    obtain ⟨current, run, _⟩ := bind_eq_ok.mp billed
    have window := ((RateEngine.calculate_eq_ok _ _).mp run).1.interval
    simp only [CycleInputs.billRequest] at window
    omega

/-- With versions that are ready a started cycle has a report exactly while it runs. -/
theorem calculate_available_iff (cycle : inputs.cycleStart < inputs.cycleEnd)
    (ready : ∀ context ∈ inputs.contexts, context.Ready inputs.cycleStart inputs.cycleEnd)
    (tiered : ∃ context ∈ inputs.contexts, context.tiered = true) (measured : inputs.intervals ≠ [])
    (usage : 0 ≤ inputs.initialUsage) (energies : ∀ interval ∈ inputs.intervals, 0 ≤ interval.energyKwh)
    (started : inputs.cycleStart ≤ clock) : (∃ report, inputs.calculate clock later = .ok (.available report)) ↔
      clock < inputs.cycleEnd ∧ inputs.BillStarted later := by
  constructor
  · rintro ⟨report, run⟩
    obtain ⟨last, status, _, made⟩ := calculate_available run
    exact running_of_report made
  · rintro ⟨running, bill⟩
    obtain ⟨one, member, isTiered⟩ := tiered
    obtain ⟨status, calculated⟩ := @calculateCycleTierStatus_returns _ _ _ _ inputs.context _ cycle ready usage energies
      (.inl measured)
    have nonneg := calculateCycleTierStatus_nonneg usage energies calculated
    unfold CycleInputs.calculate
    cases found : inputs.contexts.getLast? with
    | none =>
        rw [List.getLast?_eq_none_iff] at found
        rw [found] at member
        cases member
    | some last =>
        obtain ⟨report, made⟩ := report_returns cycle ready (List.mem_of_getLast? found) nonneg started running bill
        have some : ¬ (inputs.contexts.all fun context => !context.tiered) = true := by
          rw [List.all_eq_true]
          intro all
          simpa [isTiered] using all one member
        dsimp only
        rw [if_neg some, if_neg fun empty => measured empty.1]
        exact ⟨report, bind_eq_ok.mpr ⟨status, calculated, bind_eq_ok.mpr ⟨report, made, rfl⟩⟩⟩

end Report

/-! ## Cycles over valid documents -/

/-- A cycle that has started, over versions of the documents, with measured intervals. -/
structure StartedCycle (documents : Set RatePlanDocument) (inputs : CycleInputs) (spans : List RateSpan) (clock : Int) :
    Prop where
  documented : ∀ span ∈ spans, span.document ∈ documents
  tiered : ∃ span ∈ spans, span.document.pricingModel.isTiered = true
  cycle : inputs.cycleStart < inputs.cycleEnd
  localDay : ∀ span ∈ spans, span.zone.localDate inputs.cycleStart < span.zone.localDate inputs.cycleEnd
  measured : inputs.intervals ≠ []
  inside : ∀ interval ∈ inputs.intervals, inputs.cycleStart ≤ interval.start ∧ interval.finish ≤ inputs.cycleEnd
  usage : 0 ≤ inputs.initialUsage
  energies : ∀ interval ∈ inputs.intervals, 0 ≤ interval.energyKwh
  started : inputs.cycleStart ≤ clock

section Started
variable {documents : Set RatePlanDocument} {inputs : CycleInputs} {spans : List RateSpan} {clock later : Int}

theorem mem_of_contexts {contexts : List TierContext} (built : spans.mapM RateSpan.context = .ok contexts)
    {context : TierContext} (member : context ∈ contexts) : ∃ span ∈ spans, span.context = .ok context :=
  forall₂_exists_left (mapM_forall₂ built) member

/-- Over documents the engine can price, a started cycle has a report exactly while it runs. -/
theorem StartedCycle.available_iff (valid : ∀ document ∈ documents, document.Clean)
    (ready : ∀ document ∈ documents, document.EngineReady) (cycle : StartedCycle documents inputs spans clock) :
    (∃ report, inputs.calculateFrom spans clock later = .ok (.available report)) ↔
      clock < inputs.cycleEnd ∧ inputs.BillStarted later := by
  obtain ⟨contexts, built⟩ := mapM_returns fun span member =>
    RateSpan.context_returns (valid _ (cycle.documented span member)) (ready _ (cycle.documented span member))
  have readyContexts : ∀ context ∈ contexts, context.Ready inputs.cycleStart inputs.cycleEnd := by
    intro context member
    obtain ⟨span, listed, single⟩ := mem_of_contexts built member
    exact RateSpan.context_ready (valid _ (cycle.documented span listed)) (ready _ (cycle.documented span listed)) single
      (cycle.localDay span listed)
  have tiered : ∃ context ∈ contexts, context.tiered = true := by
    obtain ⟨span, listed, isTiered⟩ := cycle.tiered
    obtain ⟨context, member, single⟩ := mapM_mem built listed
    exact ⟨context, member, (RateSpan.context_tiered single).trans isTiered⟩
  have available := @calculate_available_iff { inputs with contexts := contexts } clock later cycle.cycle readyContexts
    tiered cycle.measured cycle.usage cycle.energies cycle.started
  rw [← show inputs.BillStarted later ↔ CycleInputs.BillStarted { inputs with contexts := contexts } later from Iff.rfl]
    at available
  refine Iff.trans (exists_congr fun report => ?_) available
  unfold CycleInputs.calculateFrom
  rw [built]
  rfl

theorem aroundDate_before (date : Int) : (aroundDate date).start < wallAt date 0 := by
  simp only [aroundDate, dayLength]
  omega

theorem aroundDate_after (date : Int) : wallAt date 0 < (aroundDate date).finish := by
  simp only [aroundDate, dayLength]
  omega

/-- Two days before midnight of a date a tiered version applies, and two days after it another one. -/
def changeover (date : Int) (tiered document : RatePlanDocument) : List RateSpan :=
  [{ start := (aroundDate date).start, finish := wallAt date 0, rateVersion := "tiered", document := tiered, zone := Zone.utc
     ordered := aroundDate_before date },
   { start := wallAt date 0, finish := (aroundDate date).finish, rateVersion := "next", document := document
     zone := Zone.utc, ordered := aroundDate_after date }]

/-- The cycle of both, with an interval without energy, on an account that wants full bills. -/
def changeoverCycle (date : Int) : CycleInputs where
  account := { costScopeDefault := .fullAccountEstimate }
  cycleStart := (aroundDate date).start
  cycleEnd := (aroundDate date).finish
  usageSource := .sensorMeasurements
  intervals := [{ intervalId := some "first", start := (aroundDate date).start, finish := wallAt date 0, energyKwh := 0
                  ordered := aroundDate_before date }]
  contexts := []

theorem changeover_started (date : Int) {tiered document : RatePlanDocument} (first : tiered ∈ documents)
    (second : document ∈ documents) (isTiered : tiered.pricingModel.isTiered = true) :
    StartedCycle documents (changeoverCycle date) (changeover date tiered document) (wallAt date 0) where
  documented := by
    intro span member
    rcases List.mem_cons.mp member with rfl | later
    · exact first
    · rw [List.mem_singleton.mp later]
      exact second
  tiered := ⟨_, List.mem_cons_self, isTiered⟩
  cycle := by simp only [changeoverCycle, aroundDate, dayLength]; omega
  localDay := by
    intro span member
    obtain ⟨before, after⟩ := RateEngine.aroundDate_localDates span.zone date
    exact before.trans_lt after
  measured := List.cons_ne_nil _ _
  inside := by
    intro interval member
    rw [List.mem_singleton.mp member]
    simp only [changeoverCycle, aroundDate, dayLength]
    omega
  usage := le_rfl
  energies := by
    intro interval member
    rw [List.mem_singleton.mp member]
  started := by simp only [changeoverCycle, aroundDate, dayLength]; omega

theorem changeover_active {date : Int} {first second : TierContext} (firstEnds : first.finish = wallAt date 0)
    (begins : second.start = wallAt date 0) (ends : second.finish = (aroundDate date).finish) (last : TierContext) :
    activeContext [first, second] last (aroundDate date).start (aroundDate date).finish (wallAt date 0) = second := by
  have final : finalInstant (aroundDate date).start (aroundDate date).finish = (aroundDate date).finish - 345600 := by
    unfold finalInstant
    rw [show (aroundDate date).finish - (aroundDate date).start = 345600000000 by
      simp only [aroundDate, dayLength]; omega]
    congr 1
    decide +kernel
  have instant : min (wallAt date 0) (finalInstant (aroundDate date).start (aroundDate date).finish) = wallAt date 0 := by
    rw [final]
    simp only [aroundDate, dayLength]
    omega
  have outside : ¬ first.Holds (wallAt date 0) := by
    rintro ⟨_, before⟩
    omega
  have holds : second.Holds (wallAt date 0) := by
    refine ⟨begins.le, ?_⟩
    rw [ends]
    simp only [aroundDate, dayLength]
    omega
  unfold activeContext tierContextAt
  rw [instant]
  simp [outside, holds]

/-- A report at the changeover looks up what the second version says of the days around the date. -/
theorem days_of_report {date : Int} {tiered document : RatePlanDocument} {report : CycleReport}
    (run : (changeoverCycle date).calculateFrom (changeover date tiered document) (wallAt date 0) (wallAt date 0) =
      .ok (.available report)) :
    ∃ engine, RateEngine.construct (enginePlan document) Zone.utc = .ok engine ∧
      (∃ points, engine.boundaries (aroundDate date).start (aroundDate date).finish = .ok points) ∧
      ∃ tiers, engine.resolvedTiers (aroundDate date).start (aroundDate date).finish = .ok tiers := by
  obtain ⟨contexts, built, run⟩ := bind_eq_ok.mp run
  obtain ⟨first, second, rfl, firstBuilt, secondBuilt⟩ : ∃ first second, contexts = [first, second] ∧
      RateSpan.context _ = .ok first ∧ RateSpan.context _ = .ok second := by
    cases mapM_forall₂ built with
    | cons firstBuilt rest =>
        cases rest with
        | cons secondBuilt rest =>
            cases rest
            exact ⟨_, _, rfl, firstBuilt, secondBuilt⟩
  obtain ⟨last, status, _, made⟩ := calculate_available run
  have active := changeover_active (RateSpan.context_eq_ok firstBuilt).2.2.2 (RateSpan.context_eq_ok secondBuilt).2.2.1
    (RateSpan.context_eq_ok secondBuilt).2.2.2 last
  have now : nowInCycle (aroundDate date).start (aroundDate date).finish (wallAt date 0) = wallAt date 0 := by
    simp only [nowInCycle, aroundDate, dayLength]
    omega
  unfold CycleInputs.report at made
  dsimp only [changeoverCycle] at made
  rw [now, active] at made
  obtain ⟨tiers, resolved, made⟩ := bind_eq_ok.mp made
  obtain ⟨price, _, made⟩ := bind_eq_ok.mp made
  obtain ⟨projection, _, made⟩ := bind_eq_ok.mp made
  obtain ⟨charge, _, made⟩ := bind_eq_ok.mp made
  obtain ⟨components, billed, _⟩ := bind_eq_ok.mp made
  unfold CycleInputs.billComponents at billed
  rw [if_neg (by simp)] at billed
  obtain ⟨current, _, billed⟩ := bind_eq_ok.mp billed
  obtain ⟨whole, priced, _⟩ := bind_eq_ok.mp billed
  obtain ⟨_, points, _, _, found, _⟩ := (RateEngine.calculate_eq_ok _ _).mp priced
  obtain ⟨engine, constructed, made⟩ := bind_eq_ok.mp secondBuilt
  cases made
  exact ⟨engine, constructed, ⟨points, found⟩, ⟨tiers, resolved⟩⟩

end Started

theorem summerBaseline_ready : (summerBaseline (some 8)).EngineReady where
  seasons := nofun
  baselines := fun _ _ value _ => .inl (by simp [summerBaseline])
  finalTier := by
    intro _ _ last member
    revert last
    decide

theorem summerBaseline_changeover : StartedCycle {summerBaseline (some 8)} (changeoverCycle 20000)
    (changeover 20000 (summerBaseline (some 8)) (summerBaseline (some 8))) (wallAt 20000 0) :=
  changeover_started 20000 rfl rfl rfl

end PowerMonitor.Rates
