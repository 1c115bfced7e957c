import PowerMonitor.Cycles.Separation
import PowerMonitor.Cycles.Usage
import PowerMonitor.Rates.TierChain

/-! Imported usage, counted once.

The rows of one import do not overlap: the sweep over its windows refuses them otherwise. Rows of two imports are only
compared by the digest of the whole, so a file that overlaps an earlier one without being the same is counted beside it.
Where no such file is committed, the usage of a cycle is the sum of one density over its microseconds.
-/

set_option autoImplicit false
namespace PowerMonitor.Cycles
open Library Rates Calendar

/-- Two windows have no instant in common. -/
def Apart (first second : Int × Int) : Prop := first.2 ≤ second.1 ∨ second.2 ≤ first.1

instance (first second : Int × Int) : Decidable (Apart first second) := inferInstanceAs (Decidable (_ ∨ _))

theorem Apart.symm {first second : Int × Int} (apart : Apart first second) : Apart second first := Or.symm apart

/-! ## The sweep -/

/-- Windows that the sweep passes begin after all that came before. -/
theorem overlapCount_some {windows : List (Int × Int)} {furthest : Int} (clean : overlapCount windows (some furthest) = 0) :
    (∀ window ∈ windows, furthest ≤ window.1) ∧ windows.Pairwise fun first second => first.2 ≤ second.1 := by
  induction windows generalizing furthest with
  | nil => exact ⟨nofun, .nil⟩
  | cons window rest ih =>
      unfold overlapCount at clean
      obtain ⟨here, later⟩ := Nat.add_eq_zero_iff.mp clean
      have begins : furthest ≤ window.1 := by
        by_contra before
        rw [if_pos ⟨furthest, rfl, by omega⟩] at here
        cases here
      obtain ⟨after, ordered⟩ := ih later
      rw [Option.getD_some] at after
      refine ⟨?_, List.pairwise_cons.mpr ⟨fun next member => ?_, ordered⟩⟩
      · intro next member
        rcases List.mem_cons.mp member with rfl | member
        · exact begins
        · exact (le_max_left _ _).trans (after next member)
      · exact (le_max_right _ _).trans (after next member)

theorem overlapCount_none {windows : List (Int × Int)} (clean : overlapCount windows none = 0) :
    windows.Pairwise Apart := by
  cases windows with
  | nil => exact .nil
  | cons window rest =>
      unfold overlapCount at clean
      obtain ⟨_, later⟩ := Nat.add_eq_zero_iff.mp clean
      obtain ⟨after, ordered⟩ := overlapCount_some later
      rw [Option.getD_none, max_self] at after
      exact List.pairwise_cons.mpr ⟨fun next member => .inl (after next member), ordered.imp .inl⟩

/-- The windows of an import that passes its checks are apart, in whatever order they are listed. -/
theorem windows_apart {kind : ImportKind} {rows : List ImportRow} (windows : kind ≠ .cycleCumulative)
    (clean : (importQuality kind rows).overlapCount = 0) : (rows.map ImportRow.window).Pairwise Apart := by
  rw [importQuality] at clean
  dsimp only at clean
  rw [if_neg windows] at clean
  have sorted := overlapCount_none clean
  exact (List.Perm.pairwise_iff Apart.symm (perm_sortedBy _ _)).mp sorted

/-! ## The rows that are counted -/

def rowWindow (row : ImportedRow) : Int × Int := (row.start, row.finish)

/-- A row that is read of an import: of a positive window, and not negative. -/
structure ValidRow (row : ImportedRow) : Prop where
  proper : row.start < row.finish
  energy : 0 ≤ row.energyKwh

def UsageImport.Counted (item : UsageImport) : Prop :=
  (item.importKind = .interval ∨ item.importKind = .daily) ∧ item.calculationRole = .advancedExternalCorrection

instance (item : UsageImport) : Decidable item.Counted := inferInstanceAs (Decidable (_ ∧ _))

/-- The rows that `_parse_imported_intervals` reads of an import. -/
def UsageImport.usageRows (item : UsageImport) : List ImportedRow :=
  if item.Counted then item.normalizedRows.filterMap ImportRow.usage? else []

def countedRows (imports : List UsageImport) : List (String × ImportedRow) :=
  imports.flatMap fun item => item.usageRows.map fun row => (item.id, row)

theorem reduceOption_map {Item Value : Type} (read : Item → Option Value) (items : List Item) :
    (items.map read).reduceOption = items.filterMap read :=
  List.filterMap_map

/-- The intervals of a window are clipped from the rows. -/
theorem parseImportedIntervals_eq (imports : List UsageImport) (start finish : Int) :
    parseImportedIntervals (imports.map UsageImport.readable) start finish =
      (countedRows imports).filterMap fun row => importedInterval row.1 start finish row.2 := by
  induction imports with
  | nil => rfl
  | cons item rest ih =>
      rw [parseImportedIntervals, List.map_cons, List.flatMap_cons, countedRows, List.flatMap_cons, List.filterMap_append]
      change _ ++ parseImportedIntervals (rest.map UsageImport.readable) start finish = _ ++ (countedRows rest).filterMap _
      rw [ih, List.filterMap_map, UsageImport.usageRows]
      congr 1
      by_cases counted : item.Counted
      · rw [if_pos counted]
        refine (if_pos counted).trans ?_
        rw [UsageImport.readable, reduceOption_map]
        rfl
      · rw [if_neg counted]
        exact if_neg counted

/-- All counted rows are valid, and no two of them overlap. -/
structure CountedOnce (imports : List UsageImport) : Prop where
  valid : ∀ row ∈ countedRows imports, ValidRow row.2
  apart : ((countedRows imports).map fun row => rowWindow row.2).Pairwise Apart

/-! ## One density -/

def Covers (row : ImportedRow) (instant : Int) : Prop := row.start ≤ instant ∧ instant < row.finish

instance (row : ImportedRow) (instant : Int) : Decidable (Covers row instant) := inferInstanceAs (Decidable (_ ∧ _))

/-- The energy of a row per microsecond. -/
def rowRate (row : ImportedRow) : Rat := row.energyKwh / ((row.finish - row.start : Int) : Rat)

/-- The density of the usage at an instant: that of a row that covers it. -/
def usageDensity (imports : List UsageImport) (instant : Int) : Rat :=
  match (countedRows imports).find? fun row => Covers row.2 instant with
  | some row => rowRate row.2
  | none => 0

def rowDensity (instant : Int) (row : String × ImportedRow) : Rat := if Covers row.2 instant then rowRate row.2 else 0

/-- Of rows that are apart, one counts at an instant. -/
theorem sum_rowDensity {rows : List (String × ImportedRow)} (apart : (rows.map fun row => rowWindow row.2).Pairwise Apart)
    (instant : Int) : (rows.map (rowDensity instant)).sum =
      match rows.find? fun row => Covers row.2 instant with
      | some row => rowRate row.2
      | none => 0 := by
  induction rows with
  | nil => rfl
  | cons row rest ih =>
      rw [List.map_cons, List.pairwise_cons] at apart
      rw [List.map_cons, List.sum_cons, ih apart.2, rowDensity, List.find?_cons]
      by_cases covers : Covers row.2 instant
      · have others : rest.find? (fun row => Covers row.2 instant) = none := by
          rw [List.find?_eq_none]
          intro other member covered
          have covered : Covers other.2 instant := by simpa using covered
          have separate := apart.1 (rowWindow other.2) (List.mem_map_of_mem member)
          simp only [Apart, rowWindow, Covers] at separate covered covers
          omega
        simp [covers, others]
      · simp [covers]

theorem importedInterval_some {importId : String} {start finish : Int} {row : ImportedRow} {interval : AuthoritativeInterval}
    (clipped : importedInterval importId start finish row = some interval) :
    interval.start = max row.start start ∧ interval.finish = min row.finish finish ∧ row.start < row.finish ∧
      interval.energyKwh / ((interval.finish - interval.start : Int) : Rat) = rowRate row := by
  unfold importedInterval at clipped
  dsimp only at clipped
  split at clipped
  · cases clipped
  · next sound =>
      split at clipped
      · next proper =>
          cases clipped
          have ordered : row.start < row.finish := by omega
          refine ⟨rfl, rfl, ordered, ?_⟩
          have row_ne : ((row.finish - row.start : Int) : Rat) ≠ 0 := by exact_mod_cast (sub_pos.mpr ordered).ne'
          have part_ne : ((min row.finish finish - max row.start start : Int) : Rat) ≠ 0 := by
            exact_mod_cast (sub_pos.mpr proper).ne'
          dsimp only [rowRate, secondsBetween]
          field_simp
      · cases clipped

theorem importedInterval_none {importId : String} {start finish : Int} {row : ImportedRow} (valid : ValidRow row)
    (outside : importedInterval importId start finish row = none) : min row.finish finish ≤ max row.start start := by
  unfold importedInterval at outside
  dsimp only at outside
  rw [if_neg (by have := valid.proper; have := valid.energy; rw [not_or, not_lt, not_le]; exact ⟨valid.energy, valid.proper⟩)]
    at outside
  split at outside
  · cases outside
  · omega

section Amounts
variable (chosen : Int → Prop) [DecidablePred chosen]

/-- The energy of the chosen instants of an interval. -/
noncomputable def chosenEnergy (interval : AuthoritativeInterval) : Rat :=
  interval.energyKwh * ((Finset.Ico interval.start interval.finish).filter chosen).card /
    ((interval.finish - interval.start : Int) : Rat)

/-- The chosen energy of a clipped row is the sum of its density over the chosen instants of the window. -/
theorem chosenEnergy_row {start finish : Int} {row : String × ImportedRow} (valid : ValidRow row.2) :
    ((importedInterval row.1 start finish row.2).map (chosenEnergy chosen)).getD 0 =
      ∑ instant ∈ (Finset.Ico start finish).filter chosen, rowDensity instant row := by
  have summed : ∑ instant ∈ (Finset.Ico start finish).filter chosen, rowDensity instant row =
      ((Finset.Ico (max row.2.start start) (min row.2.finish finish)).filter chosen).card * rowRate row.2 := by
    have same : ((Finset.Ico start finish).filter chosen).filter (Covers row.2) =
        (Finset.Ico (max row.2.start start) (min row.2.finish finish)).filter chosen := by
      ext instant
      simp only [Finset.mem_filter, Finset.mem_Ico, Covers, max_le_iff, lt_min_iff]
      tauto
    simp only [rowDensity]
    rw [← Finset.sum_filter, same, Finset.sum_const, nsmul_eq_mul]
  rw [summed]
  cases clipped : importedInterval row.1 start finish row.2 with
  | none =>
      have empty := importedInterval_none valid clipped
      rw [Finset.Ico_eq_empty (by omega), Finset.filter_empty, Finset.card_empty]
      simp
  | some interval =>
      obtain ⟨begins, ends, _, rate⟩ := importedInterval_some clipped
      rw [Option.map_some, Option.getD_some, chosenEnergy, ← rate, ← begins, ← ends]
      ring

/-- The chosen energies of the intervals of a window make up the sum of one density. -/
theorem chosenEnergy_sum {imports : List UsageImport} (once : CountedOnce imports) (start finish : Int) :
    ((parseImportedIntervals (imports.map UsageImport.readable) start finish).map (chosenEnergy chosen)).sum =
      ∑ instant ∈ (Finset.Ico start finish).filter chosen, usageDensity imports instant := by
  have perRow : ((parseImportedIntervals (imports.map UsageImport.readable) start finish).map (chosenEnergy chosen)).sum =
      ((countedRows imports).map fun row => ∑ instant ∈ (Finset.Ico start finish).filter chosen,
        rowDensity instant row).sum := by
    rw [parseImportedIntervals_eq]
    have valid := once.valid
    generalize countedRows imports = rows at valid
    induction rows with
    | nil => rfl
    | cons row rest ih =>
        rw [List.map_cons, List.sum_cons, ← chosenEnergy_row chosen (valid row List.mem_cons_self),
          ← ih fun other member => valid other (List.mem_cons_of_mem _ member), List.filterMap_cons]
        cases importedInterval row.1 start finish row.2 with
        | none => simp
        | some interval => simp
  have swapped (rows : List (String × ImportedRow)) :
      (rows.map fun row => ∑ instant ∈ (Finset.Ico start finish).filter chosen, rowDensity instant row).sum =
        ∑ instant ∈ (Finset.Ico start finish).filter chosen, (rows.map (rowDensity instant)).sum := by
    induction rows with
    | nil => simp
    | cons row rest ih =>
        simp only [List.map_cons, List.sum_cons, Finset.sum_add_distrib]
        rw [ih]
  rw [perRow, swapped]
  refine Finset.sum_congr rfl fun instant _ => ?_
  exact sum_rowDensity once.apart instant

end Amounts

theorem parseImportedIntervals_apart {imports : List UsageImport} (once : CountedOnce imports) (start finish : Int) :
    (parseImportedIntervals (imports.map UsageImport.readable) start finish).Pairwise fun first second =>
      Apart (first.start, first.finish) (second.start, second.finish) := by
  rw [parseImportedIntervals_eq]
  refine (List.pairwise_map.mp once.apart).filterMap _ ?_
  intro first second apart one oneClipped two twoClipped
  obtain ⟨oneBegins, oneEnds, _⟩ := importedInterval_some oneClipped
  obtain ⟨twoBegins, twoEnds, _⟩ := importedInterval_some twoClipped
  simp only [Apart, rowWindow] at apart ⊢
  omega

/-! ## The requests -/

section Requests
variable {book after : CycleBook} {now : Int}

theorem importCycleDates_imports {accountId : String} {row : (Int × Int) × String}
    (ok : importCycleDates accountId now book row = .ok after) : after.imports = book.imports := by
  obtain ⟨_, ok⟩ := guardAgainst_bind.mp ok
  obtain ⟨_, ok⟩ := guardAgainst_bind.mp ok
  unfold datedCycle at ok
  split at ok <;> exact (flush_eq_ok ok).2.2.2.2

theorem importUsage_imports {digest : ImportKind → String → List ImportRow → String} {request : ImportRequest} {id : String}
    {ids : Nat → String} (ok : importUsage digest book request id ids now = .ok after) :
    ∃ rows, checkedImportRows digest book request = .ok rows ∧ after.imports = book.imports ++
      [newUsageImport request id (digest request.importKind request.timezone rows) rows] := by
  obtain ⟨rows, checked, ok⟩ := bind_eq_ok.mp ok
  refine ⟨rows, checked, ?_⟩
  split at ok
  · exact foldlM_invariant (fun state : CycleBook => state.imports = _) _ rfl
      (fun state row next _ step kept => (importCycleDates_imports step).trans kept) ok
  · exact foldlM_invariant (fun state : CycleBook => state.imports = _) _ rfl
      (fun state row next _ step kept => (flush_eq_ok step).2.2.2.2.trans kept) ok

/-- The rows of a recorded import are valid, sorted, and apart where they are windows. -/
theorem checkedImportRows_ok {digest : ImportKind → String → List ImportRow → String} {request : ImportRequest}
    {rows : List ImportRow} (ok : checkedImportRows digest book request = .ok rows) :
    rows.Perm request.rows ∧ (∀ row ∈ rows, validImportRow request.importKind row) ∧
      (importQuality request.importKind rows).overlapCount = 0 ∧
      ∀ item ∈ book.imports, item.utilityAccountId = request.accountId →
        item.contentSha256 ≠ digest request.importKind request.timezone rows := by
  obtain ⟨_, _, ok⟩ := bind_eq_ok.mp ok
  obtain ⟨normalized, normal, ok⟩ := bind_eq_ok.mp ok
  obtain ⟨new, ok⟩ := guardAgainst_bind.mp ok
  obtain ⟨clean, ok⟩ := guardAgainst_bind.mp ok
  obtain ⟨_, ok⟩ := guardAgainst_bind.mp ok
  cases ok
  obtain ⟨valid, sorted⟩ := guardAgainst_bind.mp normal
  cases sorted
  rw [not_not] at valid
  rw [not_or, not_not, not_not] at clean
  refine ⟨perm_sortedBy _ _, fun row member => valid row ((perm_sortedBy _ _).mem_iff.mp member), clean.2, ?_⟩
  intro item stored mine same
  exact new ⟨item, stored, mine, same⟩

theorem reverseUsageImport_committed {accountId importId : String}
    (ok : reverseUsageImport book accountId importId now = .ok after) (other : String) :
    (after.committedImports other).Sublist (book.committedImports other) := by
  obtain ⟨account, _, ok⟩ := bind_eq_ok.mp ok
  obtain ⟨item, _, ok⟩ := bind_eq_ok.mp ok
  split at ok
  · cases ok
    exact .refl _
  · obtain ⟨_, ok⟩ := guardAgainst_bind.mp ok
    have imports : after.imports = book.imports.map fun row =>
        if row.id = item.id then { row with reversedAt := some now } else row :=
      foldlM_invariant (fun state : CycleBook => state.imports = _) _ rfl
        (fun state row next _ step kept => (flush_eq_ok step).2.2.2.2.trans kept) ok
    rw [CycleBook.committedImports, imports, CycleBook.committedImports]
    generalize book.imports = items
    induction items with
    | nil => exact .refl _
    | cons row rest ih =>
        rw [List.map_cons]
        by_cases reversed : row.id = item.id
        · rw [if_pos reversed, List.filter_cons_of_neg (by simp)]
          exact ih.trans ((List.sublist_cons_self row rest).filter _)
        · rw [if_neg reversed, List.filter_cons, List.filter_cons]
          split
          · exact ih.cons_cons row
          · exact ih

end Requests

/-! ## Runs of imports and reversals -/

/-- A commit or a reversal of an import. -/
def ImportRequested : Operation → Prop
  | .importUsage .. | .reverseUsageImport .. => True
  | _ => False

/-- The condition of a commit of usage rows: none of them overlaps a row of a committed import of the account. -/
def OverlapsNone (book : CycleBook) : Operation → Prop
  | .importUsage request _ _ _ => (request.importKind = .interval ∨ request.importKind = .daily) →
      ∀ row ∈ request.rows, ∀ counted ∈ countedRows (book.committedImports request.accountId),
        Apart row.window (rowWindow counted.2)
  | _ => True

instance (book : CycleBook) (operation : Operation) : Decidable (OverlapsNone book operation) := by
  cases operation <;> unfold OverlapsNone <;> infer_instance

theorem CountedOnce.sublist {imports others : List UsageImport} (once : CountedOnce imports) (fewer : others.Sublist imports) :
    CountedOnce others := by
  have rows : (countedRows others).Sublist (countedRows imports) := fewer.flatMap _
  exact ⟨fun row member => once.valid row (rows.subset member), once.apart.sublist (rows.map _)⟩

theorem usage?_some {row : ImportRow} {read : ImportedRow} (found : row.usage? = some read) :
    row = .usage read.start read.finish read.energyKwh ∧ row.window = rowWindow read := by
  cases row with
  | usage start finish energy =>
      cases found
      exact ⟨rfl, rfl⟩
  | _ => cases found

/-- A further import whose rows are valid, and apart from each other and from the others. -/
theorem CountedOnce.append {imports : List UsageImport} {item : UsageImport} (once : CountedOnce imports)
    (valid : ∀ row ∈ item.usageRows, ValidRow row) (within : (item.usageRows.map rowWindow).Pairwise Apart)
    (across : ∀ row ∈ item.usageRows, ∀ counted ∈ countedRows imports, Apart (rowWindow row) (rowWindow counted.2)) :
    CountedOnce (imports ++ [item]) := by
  have rows : countedRows (imports ++ [item]) = countedRows imports ++ item.usageRows.map fun row => (item.id, row) := by
    simp [countedRows]
  constructor
  · intro row member
    rw [rows] at member
    rcases List.mem_append.mp member with old | new
    · exact once.valid row old
    · obtain ⟨mine, listed, rfl⟩ := List.mem_map.mp new
      exact valid mine listed
  · rw [rows, List.map_append, List.pairwise_append]
    refine ⟨once.apart, ?_, ?_⟩
    · rwa [List.map_map]
    · intro first firstIn second secondIn
      obtain ⟨counted, old, rfl⟩ := List.mem_map.mp firstIn
      obtain ⟨_, new, rfl⟩ := List.mem_map.mp secondIn
      obtain ⟨mine, listed, rfl⟩ := List.mem_map.mp new
      exact (across mine listed counted old).symm

theorem usageRows_checked {digest : ImportKind → String → List ImportRow → String} {book : CycleBook} {request : ImportRequest}
    {rows : List ImportRow} (checked : checkedImportRows digest book request = .ok rows) (id hash : String) :
    (∀ row ∈ (newUsageImport request id hash rows).usageRows, ValidRow row ∧
        (request.importKind = .interval ∨ request.importKind = .daily) ∧
        ∃ given ∈ request.rows, given.window = rowWindow row) ∧
      ((newUsageImport request id hash rows).usageRows.map rowWindow).Pairwise Apart := by
  obtain ⟨perm, valid, clean, _⟩ := checkedImportRows_ok checked
  unfold UsageImport.usageRows
  split
  · next counted =>
      have kind : request.importKind = .interval ∨ request.importKind = .daily := counted.1
      constructor
      · intro row member
        obtain ⟨given, stored, read⟩ := List.mem_filterMap.mp member
        obtain ⟨same, window⟩ := usage?_some read
        have sound := valid given stored
        rw [same] at sound
        exact ⟨⟨sound.2.1, sound.2.2⟩, kind, given, perm.mem_iff.mp stored, window⟩
      · have apart := windows_apart (by rcases kind with same | same <;> rw [same] <;> exact nofun) clean
        rw [List.pairwise_map] at apart ⊢
        refine apart.filterMap _ ?_
        intro first second separate one readOne two readTwo
        rw [← (usage?_some readOne).2, ← (usage?_some readTwo).2]
        exact separate
  · exact ⟨nofun, .nil⟩

/-- Each account counts its imported usage once. -/
def AllCountedOnce (book : CycleBook) : Prop := ∀ accountId, CountedOnce (book.committedImports accountId)

theorem apply_once {digest : ImportKind → String → List ImportRow → String} {book : CycleBook} {operation : Operation}
    (requested : ImportRequested operation) (sound : OverlapsNone book operation) (once : AllCountedOnce book) :
    AllCountedOnce (operation.apply digest book) := by
  unfold Operation.apply
  cases done : operation.perform digest book with
  | error failure => exact once
  | ok after =>
      change AllCountedOnce after
      intro accountId
      cases operation with
      | importUsage request id ids now =>
          obtain ⟨rows, checked, imports⟩ := importUsage_imports done
          obtain ⟨each, within⟩ := usageRows_checked checked id (digest request.importKind request.timezone rows)
          rw [CycleBook.committedImports, imports, List.filter_append]
          by_cases mine : request.accountId = accountId
          · rw [List.filter_cons_of_pos (by simp [newUsageImport, mine]), List.filter_nil]
            refine (once accountId).append (fun row member => (each row member).1) within ?_
            intro row member counted listed
            obtain ⟨_, kind, given, stored, window⟩ := each row member
            rw [← window]
            exact sound kind given stored counted (mine ▸ listed)
          · rw [List.filter_cons_of_neg (by simp [newUsageImport, mine]), List.filter_nil, List.append_nil]
            exact once accountId
      | reverseUsageImport account importId now =>
          exact (once accountId).sublist (reverseUsageImport_committed done accountId)
      | _ => exact requested.elim

/-- What the calculation of a window reads is counted once: its intervals do not overlap, and the usage they come to is
the sum of one density over the microseconds of the window, of those that a tiered rate covers for what is allocated. -/
structure UsageCountedOnce (sources : CycleSources) (imports : List UsageImport) (start finish : Int)
    (inputs : UsageInputs) : Prop where
  apart : inputs.intervals.Pairwise fun first second => Apart (first.start, first.finish) (second.start, second.finish)
  total : (inputs.intervals.map AuthoritativeInterval.energyKwh).sum =
    ∑ instant ∈ Finset.Ico start finish, usageDensity imports instant
  allocated : ContextsApart (sources.rateContexts start finish) → ∀ status,
    calculateCycleTierStatus start finish (sources.rateContexts start finish) inputs.initialUsage inputs.context
      inputs.intervals = .ok status →
    status.cumulative = ∑ instant ∈ (Finset.Ico start finish).filter (TierCovered (sources.rateContexts start finish)),
      usageDensity imports instant

/-- The authority of interval imports takes the rows of the imports, from zero. -/
theorem readUsage_imported {sources : CycleSources} {authority : AccountUsageAuthority} {imports : List UsageImport}
    {start finish : Int} {inputs : UsageInputs} (configured : sources.authority = some authority)
    (imported : authority.authorityType = .utilityIntervalImport)
    (read : readUsage sources imports start finish = some inputs) :
    inputs.intervals = parseImportedIntervals (imports.map UsageImport.readable) start finish ∧ inputs.initialUsage = 0 := by
  unfold readUsage at read
  rw [configured, Option.bind_some, Option.ite_none_left_eq_some, imported, if_neg (by decide)] at read
  have read := read.2
  unfold readAuthority at read
  rw [imported] at read
  simp only [Option.ite_none_left_eq_some] at read
  obtain ⟨_, _, _, _, same⟩ := read
  cases same
  exact ⟨rfl, rfl⟩

theorem usageCountedOnce {sources : CycleSources} {authority : AccountUsageAuthority} {imports : List UsageImport}
    {start finish : Int} {inputs : UsageInputs} (once : CountedOnce imports) (configured : sources.authority = some authority)
    (imported : authority.authorityType = .utilityIntervalImport)
    (read : readUsage sources imports start finish = some inputs) :
    UsageCountedOnce sources imports start finish inputs := by
  obtain ⟨intervals, initial⟩ := readUsage_imported configured imported read
  refine ⟨?_, ?_, ?_⟩
  · rw [intervals]
    exact parseImportedIntervals_apart once start finish
  · have summed := chosenEnergy_sum (fun _ => True) once start finish
    rw [Finset.filter_true] at summed
    rw [intervals, ← summed]
    refine congrArg List.sum (List.map_congr_left fun interval _ => ?_)
    have length : ((interval.finish - interval.start : Int) : Rat) ≠ 0 := by
      exact_mod_cast (sub_pos.mpr interval.ordered).ne'
    have card : (((Finset.Ico interval.start interval.finish).card : Nat) : Rat) =
        ((interval.finish - interval.start : Int) : Rat) := by
      rw [Int.card_Ico]
      exact_mod_cast Int.toNat_of_nonneg (sub_nonneg.mpr interval.ordered.le)
    rw [chosenEnergy, Finset.filter_true, card, mul_div_assoc, div_self length, mul_one]
  · intro apart status run
    have covered := (calculateCycleTierStatus_chained apart run).covered
    rw [initial, sub_zero, intervals] at covered
    rw [covered]
    exact chosenEnergy_sum _ once start finish

/-- A commit of one row of usage. -/
def commitRow (id : String) (start finish : Int) (energyKwh : Rat) : Operation :=
  .importUsage { accountId := "account", importKind := .interval, timezone := "UTC", rows := [.usage start finish energyKwh] }
    id (fun _ => "") 0

/-- Files are told apart by the end of their first row. -/
def endDigest (_ : ImportKind) (_ : String) (rows : List ImportRow) : String :=
  toString ((rows.head?.map fun row => row.window.2).getD 0)

/-- An account with the authority of interval imports, on a tiered rate at all times. -/
def importedSources : CycleSources where
  authority := some { authorityType := .utilityIntervalImport, calculationRole := .advancedExternalCorrection }
  rateContexts start finish := if ordered : start < finish then [⟨start, finish, "version", RateEngine.roundedEngine, ordered⟩] else []

/-- Two files, one after the other, of which the first is reversed and committed again with a later row. -/
def adjacentFiles : List Operation :=
  [commitRow "a" 0 10 1, commitRow "b" 10 20 2, .reverseUsageImport "account" "a" 0, commitRow "c" 0 5 1]

end PowerMonitor.Cycles
