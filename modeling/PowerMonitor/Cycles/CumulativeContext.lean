import PowerMonitor.Cycles.Usage
import PowerMonitor.Rates.ReadingOrder

/-! The cumulative usage a cycle starts from.

Entries by hand are looked up within the cycle. Totals of imports are not: the latest of all of them is taken, of whatever
cycle it is, wherever the sensors have measured nothing.
-/

set_option autoImplicit false
namespace PowerMonitor.Cycles
open Library Rates Calendar

/-! ## Records -/

def ManualStart.InCycle (record : ManualStart) (start finish : Int) : Prop :=
  start ≤ record.effectiveAt ∧ record.effectiveAt < finish

instance (record : ManualStart) (start finish : Int) : Decidable (record.InCycle start finish) :=
  inferInstanceAs (Decidable (_ ∧ _))

/-- The import without the totals that are in effect outside the cycle. -/
def UsageImport.inCycle (item : UsageImport) (start finish : Int) : UsageImport :=
  if item.Cumulative then
    { item with
      normalizedRows := item.normalizedRows.filter fun
        | .cumulative effectiveAt _ => decide (start ≤ effectiveAt ∧ effectiveAt < finish)
        | _ => true }
  else item

/-- The sources without the entries that are in effect outside the cycle. -/
def CycleSources.inCycle (sources : CycleSources) (start finish : Int) : CycleSources :=
  { sources with manualUsages := sources.manualUsages.filter fun entry => entry.InCycle start finish }

section Records
variable (sources : CycleSources) (imports : List UsageImport) (start finish : Int)

/-- The entries and the imported totals. -/
def cumulativeRecords : List ManualStart := sources.manualUsages ++ (importedTotals imports).map Prod.fst

/-- What the sensors have measured since the entry of the cycle, where they count. -/
def measuredIntervals (authority : AuthorityType) : List AuthoritativeInterval :=
  authoritativeIntervals sources imports start finish authority
    (((manualStart sources.manualUsages start finish).map ManualStart.effectiveAt).getD start)

/-- The record that the initial usage is taken from. -/
def initialRecord (authority : AuthorityType) : Option ManualStart :=
  (if measuredIntervals sources imports start finish authority = [] then latestTotal (importedTotals imports)
    else none).map Prod.fst <|> manualStart sources.manualUsages start finish

/-- The record lies in the cycle, and is the latest that does. -/
structure BelongsToCycle (record : Option ManualStart) : Prop where
  inside : ∀ found ∈ record, found.InCycle start finish
  latest : ∀ other ∈ cumulativeRecords sources imports, other.InCycle start finish →
    ∃ found ∈ record, other.effectiveAt ≤ found.effectiveAt

/-- Where nothing is measured: no totals at all, or none from the end of the cycle on, and one in it that is no older than
its entry. Otherwise no total of the cycle that is later than its entry. -/
def TotalsSettled (authority : AuthorityType) : Prop :=
  if measuredIntervals sources imports start finish authority = [] then
    importedTotals imports = [] ∨
      (∀ total ∈ importedTotals imports, total.1.effectiveAt < finish) ∧
      ∃ total ∈ importedTotals imports, start ≤ total.1.effectiveAt ∧
        ∀ found ∈ manualStart sources.manualUsages start finish, found.effectiveAt ≤ total.1.effectiveAt
  else ∀ total ∈ importedTotals imports, total.1.InCycle start finish →
    ∃ found ∈ manualStart sources.manualUsages start finish, total.1.effectiveAt ≤ found.effectiveAt

instance (authority : AuthorityType) : Decidable (TotalsSettled sources imports start finish authority) := by
  unfold TotalsSettled
  infer_instance

end Records

/-! ## The latest record -/

theorem latestTotal_concat (rest : List (ManualStart × String)) (last : ManualStart × String) :
    latestTotal (rest ++ [last]) = match latestTotal rest with
      | none => some last
      | some best => if best.1.effectiveAt < last.1.effectiveAt then some last else some best := by
  rw [latestTotal, List.foldl_append]
  rfl

theorem latestTotal_eq_none {totals : List (ManualStart × String)} : latestTotal totals = none ↔ totals = [] := by
  induction totals using List.reverseRecOn with
  | nil => exact iff_of_true rfl rfl
  | append_singleton rest last _ =>
      rw [latestTotal_concat]
      refine iff_of_false ?_ (by simp)
      cases latestTotal rest with
      | none => nofun
      | some best =>
          dsimp only
          split <;> nofun

theorem latestTotal_spec {totals : List (ManualStart × String)} {best : ManualStart × String}
    (found : latestTotal totals = some best) :
    best ∈ totals ∧ ∀ total ∈ totals, total.1.effectiveAt ≤ best.1.effectiveAt := by
  induction totals using List.reverseRecOn generalizing best with
  | nil => cases found
  | append_singleton rest last ih =>
      rw [latestTotal_concat] at found
      simp only [List.mem_append, List.mem_singleton]
      cases earlier : latestTotal rest with
      | none =>
          rw [earlier] at found
          obtain rfl := Option.some.inj found
          obtain rfl := latestTotal_eq_none.mp earlier
          simp
      | some before =>
          obtain ⟨member, above⟩ := ih earlier
          rw [earlier] at found
          dsimp only at found
          split at found
          · next later =>
              obtain rfl := Option.some.inj found
              refine ⟨.inr rfl, ?_⟩
              rintro total (inside | rfl)
              · exact (above total inside).trans later.le
              · exact le_refl _
          · next older =>
              obtain rfl := Option.some.inj found
              refine ⟨.inl member, ?_⟩
              rintro total (inside | rfl)
              · exact above total inside
              · exact not_lt.mp older

/-- The latest total stays the latest when others are left out. -/
theorem latestTotal_filter {totals : List (ManualStart × String)} {best : ManualStart × String}
    (keep : ManualStart × String → Bool) (found : latestTotal totals = some best) (kept : keep best = true) :
    latestTotal (totals.filter keep) = some best := by
  induction totals using List.reverseRecOn generalizing best with
  | nil => cases found
  | append_singleton rest last ih =>
      rw [latestTotal_concat] at found
      rw [List.filter_append]
      cases earlier : latestTotal rest with
      | none =>
          rw [earlier] at found
          obtain rfl := Option.some.inj found
          obtain rfl := latestTotal_eq_none.mp earlier
          simp [kept, latestTotal]
      | some before =>
          obtain ⟨_, above⟩ := latestTotal_spec earlier
          rw [earlier] at found
          dsimp only at found
          split at found
          · next later =>
              obtain rfl := Option.some.inj found
              rw [List.filter_singleton, kept, cond_true, latestTotal_concat]
              -- What is left of the others is no later than before.
              cases left : latestTotal (rest.filter keep) with
              | none => rfl
              | some other =>
                  have member := List.mem_of_mem_filter (latestTotal_spec left).1
                  dsimp only
                  rw [if_pos ((above other member).trans_lt later)]
          · next older =>
              obtain rfl := Option.some.inj found
              have first := ih earlier kept
              rw [List.filter_singleton]
              cases keep last with
              | false => rw [cond_false, List.append_nil, first]
              | true =>
                  rw [cond_true, latestTotal_concat, first]
                  dsimp only
                  rw [if_neg older]

section Records
variable {sources : CycleSources} {imports : List UsageImport} {start finish : Int}

/-- The entry of a cycle is the latest of those in it. -/
theorem manualStart_belongs {manuals : List ManualStart} :
    (∀ found ∈ manualStart manuals start finish, found ∈ manuals ∧ found.InCycle start finish) ∧
      ∀ other ∈ manuals, other.InCycle start finish →
        ∃ found ∈ manualStart manuals start finish, other.effectiveAt ≤ found.effectiveAt := by
  unfold manualStart
  have listed (entry : ManualStart) : entry ∈ sortedBy (fun entry : ManualStart => -entry.effectiveAt)
      (manuals.filter fun entry => start ≤ entry.effectiveAt ∧ entry.effectiveAt < finish) ↔
        entry ∈ manuals ∧ entry.InCycle start finish := by
    rw [(perm_sortedBy _ _).mem_iff, List.mem_filter, decide_eq_true_eq]
    rfl
  have ordered := sortedBy_pairwise (fun entry : ManualStart => -entry.effectiveAt)
    (manuals.filter fun entry => start ≤ entry.effectiveAt ∧ entry.effectiveAt < finish)
  generalize sortedBy (fun entry : ManualStart => -entry.effectiveAt) (manuals.filter fun entry =>
    start ≤ entry.effectiveAt ∧ entry.effectiveAt < finish) = sorted at listed ordered ⊢
  cases sorted with
  | nil => exact ⟨nofun, fun other member inside => absurd ((listed other).mpr ⟨member, inside⟩) List.not_mem_nil⟩
  | cons first rest =>
      refine ⟨?_, fun other member inside => ⟨first, rfl, ?_⟩⟩
      · intro found isFirst
        obtain rfl := Option.some.inj isFirst
        exact (listed first).mp List.mem_cons_self
      · rcases List.mem_cons.mp ((listed other).mpr ⟨member, inside⟩) with rfl | later
        · exact le_refl _
        · exact neg_le_neg_iff.mp ((List.pairwise_cons.mp ordered).1 other later)

theorem initialRecord_eq_entry {authority : AuthorityType}
    (kept : measuredIntervals sources imports start finish authority = [] → importedTotals imports = []) :
    initialRecord sources imports start finish authority = manualStart sources.manualUsages start finish := by
  unfold initialRecord
  by_cases quiet : measuredIntervals sources imports start finish authority = []
  · rw [if_pos quiet, latestTotal_eq_none.mpr (kept quiet)]
    rfl
  · rw [if_neg quiet]
    rfl

theorem initialRecord_eq_total {authority : AuthorityType} {best : ManualStart × String}
    (quiet : measuredIntervals sources imports start finish authority = [])
    (found : latestTotal (importedTotals imports) = some best) :
    initialRecord sources imports start finish authority = some best.1 := by
  unfold initialRecord
  rw [if_pos quiet, found]
  rfl

/-- The record of a cycle belongs to it exactly when the totals are settled. -/
theorem initialRecord_belongs_iff {authority : AuthorityType} :
    BelongsToCycle sources imports start finish (initialRecord sources imports start finish authority) ↔
      TotalsSettled sources imports start finish authority := by
  obtain ⟨entered, latest⟩ := @manualStart_belongs start finish sources.manualUsages
  unfold TotalsSettled
  by_cases quiet : measuredIntervals sources imports start finish authority = []
  · rw [if_pos quiet]
    cases found : latestTotal (importedTotals imports) with
    | none =>
        have none := latestTotal_eq_none.mp found
        rw [initialRecord_eq_entry fun _ => none]
        refine iff_of_true ⟨fun entry isEntry => (entered entry isEntry).2, ?_⟩ (.inl none)
        intro other member inside
        rw [cumulativeRecords, none, List.map_nil, List.append_nil] at member
        exact latest other member inside
    | some best =>
        obtain ⟨listed, above⟩ := latestTotal_spec found
        rw [initialRecord_eq_total quiet found]
        constructor
        · rintro ⟨inside, latest⟩
          have here := inside best.1 rfl
          refine .inr ⟨fun total member => (above total member).trans_lt here.2, best, listed, here.1, ?_⟩
          intro entry isEntry
          obtain ⟨member, within⟩ := entered entry isEntry
          obtain ⟨_, isBest, later⟩ := latest entry (List.mem_append_left _ member) within
          obtain rfl := Option.some.inj isBest
          exact later
        · rintro (none | ⟨ended, total, member, begun, older⟩)
          · rw [none] at listed
            cases listed
          · have later := above total member
            refine ⟨?_, ?_⟩
            · intro record isBest
              obtain rfl := Option.some.inj isBest
              exact ⟨begun.trans later, ended best listed⟩
            · intro other record within
              refine ⟨best.1, rfl, ?_⟩
              rcases List.mem_append.mp record with entry | imported
              · obtain ⟨last, isLast, before⟩ := latest other entry within
                exact (before.trans (older last isLast)).trans later
              · obtain ⟨other, inside, rfl⟩ := List.mem_map.mp imported
                exact above other inside
  · rw [if_neg quiet, initialRecord_eq_entry fun none => absurd none quiet]
    constructor
    · rintro ⟨_, latest⟩ total member within
      exact latest total.1 (List.mem_append_right _ (List.mem_map_of_mem member)) within
    · intro settled
      refine ⟨fun entry isEntry => (entered entry isEntry).2, ?_⟩
      intro other record within
      rcases List.mem_append.mp record with entry | imported
      · exact latest other entry within
      · obtain ⟨total, member, rfl⟩ := List.mem_map.mp imported
        exact settled total member within

/-! ## Records of other cycles -/

theorem manualStart_inCycle :
    manualStart (sources.inCycle start finish).manualUsages start finish = manualStart sources.manualUsages start finish := by
  have twice : ((sources.inCycle start finish).manualUsages.filter fun entry =>
      start ≤ entry.effectiveAt ∧ entry.effectiveAt < finish) =
        sources.manualUsages.filter fun entry => start ≤ entry.effectiveAt ∧ entry.effectiveAt < finish :=
    List.filter_eq_self.mpr fun entry member => (List.mem_filter.mp member).2
  unfold manualStart
  rw [twice]

/-- Without the rows of other cycles, the totals are those of this one. -/
theorem importedTotals_inCycle : importedTotals (imports.map fun item => item.inCycle start finish) =
    (importedTotals imports).filter fun total => total.1.InCycle start finish := by
  induction imports with
  | nil => rfl
  | cons item rest ih =>
      have kind : (item.inCycle start finish).Cumulative ↔ item.Cumulative := by
        unfold UsageImport.inCycle
        split <;> rfl
      unfold importedTotals at ih ⊢
      rw [List.map_cons]
      by_cases cumulative : item.Cumulative
      · rw [List.filter_cons_of_pos (by simpa using kind.mpr cumulative), List.filter_cons_of_pos (by simpa using cumulative),
          List.flatMap_cons, List.flatMap_cons, ih, List.filter_append]
        congr 1
        rw [UsageImport.inCycle, if_pos cumulative, List.filterMap_filter, List.filter_filterMap]
        apply List.filterMap_congr
        intro row _
        cases row with
        | cumulative effectiveAt cumulativeKwh =>
            by_cases within : start ≤ effectiveAt ∧ effectiveAt < finish <;>
              simp [ManualStart.InCycle, Option.filter, within]
        | usage | cycleDates | billTotal => simp
      · rw [List.filter_cons_of_neg (by simpa using fun also => cumulative (kind.mp also)),
          List.filter_cons_of_neg (by simpa using cumulative), ih]

/-- An authority with explicit usage does not read the rows of imports as intervals. -/
theorem measuredIntervals_inCycle {authority : AuthorityType} (explicit : authority ∈ CUMULATIVE_AUTHORITY_TYPES)
    (others : List UsageImport) : measuredIntervals (sources.inCycle start finish) others start finish authority =
      measuredIntervals sources imports start finish authority := by
  have other : authority ≠ .utilityIntervalImport := by
    rintro rfl
    revert explicit
    decide
  unfold measuredIntervals authoritativeIntervals
  rw [manualStart_inCycle, if_neg other, if_neg other]
  rfl

/-- Settled totals give the record that is there without other cycles. -/
theorem initialRecord_inCycle {authority : AuthorityType} (explicit : authority ∈ CUMULATIVE_AUTHORITY_TYPES)
    (settled : TotalsSettled sources imports start finish authority) :
    initialRecord (sources.inCycle start finish) (imports.map fun item => item.inCycle start finish) start finish authority =
      initialRecord sources imports start finish authority := by
  have belongs := initialRecord_belongs_iff.mpr settled
  unfold initialRecord
  rw [measuredIntervals_inCycle explicit, manualStart_inCycle, importedTotals_inCycle]
  by_cases quiet : measuredIntervals sources imports start finish authority = []
  · rw [if_pos quiet, if_pos quiet]
    cases found : latestTotal (importedTotals imports) with
    | none =>
        rw [latestTotal_eq_none.mp found]
        rfl
    | some best =>
        rw [initialRecord_eq_total quiet found] at belongs
        rw [latestTotal_filter _ found (decide_eq_true (belongs.inside best.1 rfl))]
  · rw [if_neg quiet, if_neg quiet]

theorem total_of_import {total : ManualStart × String} (member : total ∈ importedTotals imports) :
    ∃ item ∈ imports, item.Cumulative ∧ item.normalizedRows ≠ [] := by
  obtain ⟨item, listed, read⟩ := List.mem_flatMap.mp member
  obtain ⟨stored, cumulative⟩ := List.mem_filter.mp listed
  refine ⟨item, stored, of_decide_eq_true cumulative, fun none => ?_⟩
  rw [none] at read
  cases read

/-- Imports without totals have nothing that could lie outside the cycle. -/
theorem inCycle_of_no_totals (none : importedTotals imports = []) :
    (imports.map fun item => item.inCycle start finish) = imports := by
  refine (List.map_congr_left ?_).trans (List.map_id _)
  intro item member
  unfold UsageImport.inCycle
  split
  · next cumulative =>
      have unread := List.flatMap_eq_nil_iff.mp none item (List.mem_filter.mpr ⟨member, decide_eq_true cumulative⟩)
      have whole : (item.normalizedRows.filter fun
          | .cumulative effectiveAt _ => decide (start ≤ effectiveAt ∧ effectiveAt < finish)
          | _ => true) = item.normalizedRows := by
        rw [List.filter_eq_self]
        intro row listed
        have skipped := List.filterMap_eq_nil_iff.mp unread row listed
        cases row with
        | cumulative => cases skipped
        | usage | cycleDates | billTotal => rfl
      rw [whole]
      rfl
  · rfl

/-- Where nothing is measured and the totals are settled, an import with totals still has some. -/
theorem hasCumulative_inCycle {authority : AuthorityType}
    (quiet : measuredIntervals sources imports start finish authority = [])
    (settled : TotalsSettled sources imports start finish authority) :
    (∃ item ∈ imports.map fun item => item.inCycle start finish, item.Cumulative ∧ item.normalizedRows ≠ []) ↔
      ∃ item ∈ imports, item.Cumulative ∧ item.normalizedRows ≠ [] := by
  rw [TotalsSettled, if_pos quiet] at settled
  rcases settled with none | ⟨ended, total, member, begun, _⟩
  · rw [inCycle_of_no_totals none]
  · have within : total ∈ importedTotals (imports.map fun item => item.inCycle start finish) := by
      rw [importedTotals_inCycle]
      exact List.mem_filter.mpr ⟨member, decide_eq_true ⟨begun, ended total member⟩⟩
    exact iff_of_true (total_of_import within) (total_of_import member)

/-- An authority that takes explicit usage, and may be calculated with. -/
def AccountUsageAuthority.Explicit (authority : AccountUsageAuthority) : Prop :=
  authority.authorityType ∈ CUMULATIVE_AUTHORITY_TYPES

instance (authority : AccountUsageAuthority) : Decidable authority.Explicit := inferInstanceAs (Decidable (_ ∈ _))

theorem readUsage_explicit {authority : AccountUsageAuthority} (named : sources.authority = some authority)
    (explicit : authority.Explicit) :
    (readUsage sources imports start finish).map UsageInputs.initialUsage =
      let record := initialRecord sources imports start finish authority.authorityType
      let initialUsage := (record.map ManualStart.cumulativeKwh).getD 0
      let none := manualStart sources.manualUsages start finish = none ∧
        ¬ ∃ item ∈ imports, item.Cumulative ∧ item.normalizedRows ≠ []
      if authority.calculationRole = .referenceOnly ∨ authority.billReference = true ∨
          authority.calculationRole ≠ authorityCalculationRole authority.authorityType then Option.none
      else if authority.completeAccount = false ∧ authority.authorityType = .partialMonitoredCircuits ∧ none then Option.none
      else if ¬ ∃ context ∈ sources.rateContexts start finish, context.tiered = true then Option.none
      else if measuredIntervals sources imports start finish authority.authorityType = [] ∧ initialUsage = 0 ∧ none then
        Option.none
      else some initialUsage := by
  have sensors : authority.authorityType ∉ SENSOR_AUTHORITY_TYPES := by
    unfold AccountUsageAuthority.Explicit at explicit
    revert explicit
    cases authority.authorityType <;> decide
  unfold readUsage
  rw [named, Option.bind_some]
  dsimp only
  split
  · rfl
  · unfold readAuthority initialRecord measuredIntervals
    have takes : decide (authority.authorityType ∈ CUMULATIVE_AUTHORITY_TYPES) = true := decide_eq_true explicit
    have apart : decide (authority.authorityType ∈ SENSOR_AUTHORITY_TYPES) = false := decide_eq_false sensors
    simp only [takes, apart, if_true, true_and, Bool.false_eq_true, false_and, if_false, decide_eq_false_iff_not,
      apply_ite (Option.map UsageInputs.initialUsage), Option.map_none, Option.map_some]

theorem readUsage_initial {authority : AccountUsageAuthority} (named : sources.authority = some authority)
    (explicit : authority.Explicit) {inputs : UsageInputs} (read : readUsage sources imports start finish = some inputs) :
    inputs.initialUsage = ((initialRecord sources imports start finish authority.authorityType).map
      ManualStart.cumulativeKwh).getD 0 := by
  have whole := @readUsage_explicit _ imports start finish _ named explicit
  rw [read, Option.map_some] at whole
  dsimp only at whole
  split_ifs at whole
  exact Option.some.inj whole

/-- Without the records of other cycles a settled calculation reads the same initial usage. -/
theorem readUsage_inCycle {authority : AccountUsageAuthority} (named : sources.authority = some authority)
    (explicit : authority.Explicit) (settled : TotalsSettled sources imports start finish authority.authorityType) :
    (readUsage (sources.inCycle start finish) (imports.map fun item => item.inCycle start finish) start finish).map
        UsageInputs.initialUsage =
      (readUsage sources imports start finish).map UsageInputs.initialUsage := by
  have again : (sources.inCycle start finish).authority = some authority := named
  rw [readUsage_explicit again explicit, readUsage_explicit named explicit, initialRecord_inCycle explicit settled,
    @measuredIntervals_inCycle sources imports start finish _ explicit, manualStart_inCycle]
  by_cases quiet : measuredIntervals sources imports start finish authority.authorityType = []
  · simp only [hasCumulative_inCycle quiet settled]
    rfl
  · have measured : authority.authorityType ≠ .partialMonitoredCircuits := by
      intro monitored
      refine quiet ?_
      unfold measuredIntervals authoritativeIntervals
      rw [monitored]
      rfl
    simp only [quiet, measured, false_and, and_false, if_false]
    rfl

end Records

/-! ## Cycles of their own -/

/-- The initial usage of a calculation comes from the latest record of its cycle, where there is one, and is the same
without the records of any other. -/
structure UsageOfCycle (sources : CycleSources) (imports : List UsageImport) (start finish : Int) (authority : AuthorityType)
    (initialUsage : Rat) : Prop where
  origin : initialUsage = ((initialRecord sources imports start finish authority).map ManualStart.cumulativeKwh).getD 0
  belongs : BelongsToCycle sources imports start finish (initialRecord sources imports start finish authority)
  alone : (readUsage (sources.inCycle start finish) (imports.map fun item => item.inCycle start finish) start finish).map
    UsageInputs.initialUsage = some initialUsage

/-- The initial usage of a cycle is its own exactly when the imported totals are settled. It is then the same for any two
sets of records with the same records in the cycle. -/
theorem cumulative_context_iff {sources : CycleSources} {imports : List UsageImport} {start finish : Int}
    {authority : AccountUsageAuthority} {inputs : UsageInputs} (named : sources.authority = some authority)
    (explicit : authority.Explicit) (read : readUsage sources imports start finish = some inputs) :
    (UsageOfCycle sources imports start finish authority.authorityType inputs.initialUsage ↔
      TotalsSettled sources imports start finish authority.authorityType) ∧
    (TotalsSettled sources imports start finish authority.authorityType →
      ∀ (others : CycleSources) (files : List UsageImport) (again : UsageInputs),
        others.inCycle start finish = sources.inCycle start finish →
        importedTotals (files.map fun item => item.inCycle start finish) =
          importedTotals (imports.map fun item => item.inCycle start finish) →
        TotalsSettled others files start finish authority.authorityType →
        readUsage others files start finish = some again → again.initialUsage = inputs.initialUsage) := by
  have taken := readUsage_initial named explicit read
  refine ⟨⟨fun own => initialRecord_belongs_iff.mp own.belongs, fun settled => ?_⟩, ?_⟩
  · refine ⟨taken, initialRecord_belongs_iff.mpr settled, ?_⟩
    rw [readUsage_inCycle named explicit settled, read]
    rfl
  · intro settled others files again sameSources sameTotals otherSettled otherRead
    have otherNamed : others.authority = some authority := by
      have same := congrArg CycleSources.authority sameSources
      exact same.trans named
    have record : initialRecord others files start finish authority.authorityType =
        initialRecord sources imports start finish authority.authorityType := by
      rw [← initialRecord_inCycle explicit otherSettled, ← initialRecord_inCycle explicit settled, sameSources]
      unfold initialRecord
      rw [sameTotals, @measuredIntervals_inCycle sources imports start finish _ explicit,
        @measuredIntervals_inCycle sources imports start finish _ explicit]
    rw [taken, readUsage_initial otherNamed explicit otherRead, record]

/-! ### A total of the next cycle -/

/-- Two days of an account whose usage is fed in from outside. -/
def fedSources : CycleSources where
  authority := some { authorityType := .externalFeed, calculationRole := .advancedExternalCorrection }
  manualUsages := [⟨0, 1⟩]
  rateContexts := fun _ _ => roundedContexts

/-- A total of an external feed. -/
def fedTotal (id : String) (effectiveAt : Int) (cumulativeKwh : Rat) : UsageImport where
  id := id
  utilityAccountId := "account"
  importKind := .cycleCumulative
  calculationRole := .advancedExternalCorrection
  contentSha256 := id
  normalizedRows := [.cumulative effectiveAt cumulativeKwh]

theorem fed_cycle_is_its_own : ∃ inputs, readUsage fedSources [fedTotal "now" 3600000000 5] 0 (2 * dayLength) = some inputs ∧
    inputs.initialUsage = 5 ∧
    UsageOfCycle fedSources [fedTotal "now" 3600000000 5] 0 (2 * dayLength) .externalFeed inputs.initialUsage := by
  have usage : (readUsage fedSources [fedTotal "now" 3600000000 5] 0 (2 * dayLength)).map UsageInputs.initialUsage =
      some 5 := by decide
  obtain ⟨inputs, read, taken⟩ := Option.map_eq_some_iff.mp usage
  exact ⟨inputs, read, taken, (cumulative_context_iff rfl (by decide) read).1.mpr (by decide)⟩

/-- A total of the next cycle is taken for the usage at the start of this one. -/
theorem next_cycle_leaks : ∃ inputs,
    readUsage fedSources [fedTotal "now" 3600000000 5, fedTotal "next" (3 * dayLength) 40] 0 (2 * dayLength) =
      some inputs ∧
    inputs.initialUsage = 40 ∧
    ¬ UsageOfCycle fedSources [fedTotal "now" 3600000000 5, fedTotal "next" (3 * dayLength) 40] 0 (2 * dayLength)
      .externalFeed inputs.initialUsage := by
  have usage : (readUsage fedSources [fedTotal "now" 3600000000 5, fedTotal "next" (3 * dayLength) 40] 0
      (2 * dayLength)).map UsageInputs.initialUsage = some 40 := by decide
  obtain ⟨inputs, read, taken⟩ := Option.map_eq_some_iff.mp usage
  refine ⟨inputs, read, taken, fun own => ?_⟩
  have inside := own.belongs.inside ⟨3 * dayLength, 40⟩ (by decide)
  revert inside
  decide

end PowerMonitor.Cycles
