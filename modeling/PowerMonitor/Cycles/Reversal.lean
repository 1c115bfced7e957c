import PowerMonitor.Cycles.ImportedUsage
import PowerMonitor.Library.Related

/-! A usage import that is committed and reversed.

The commit marks the cycles it touches and records the import, the reversal marks them again and takes the import out of
the committed ones. What a calculation reads of a cycle, its window and its version, neither of them writes, unless
the import is one of cycle dates. The import stays on record, so the same one is refused from then on.
-/

set_option autoImplicit false
namespace PowerMonitor.Cycles
open Library Rates Calendar

/-- What calculations read and store of a cycle is the same. -/
structure SameCycle (cycle other : BillingCycle) : Prop where
  id : other.id = cycle.id
  account : other.utilityAccountId = cycle.utilityAccountId
  startsAt : other.startsAt = cycle.startsAt
  endsAt : other.endsAt = cycle.endsAt
  explicit : other.explicitMeterDates = cycle.explicitMeterDates
  version : other.recalculationVersion = cycle.recalculationVersion
  finalized : other.finalizedAt = cycle.finalizedAt
  locked : other.status = .finalized ↔ cycle.status = .finalized

theorem SameCycle.refl (cycle : BillingCycle) : SameCycle cycle cycle := ⟨rfl, rfl, rfl, rfl, rfl, rfl, rfl, .rfl⟩

theorem SameCycle.trans {first second third : BillingCycle} (before : SameCycle first second)
    (after : SameCycle second third) : SameCycle first third where
  id := after.id.trans before.id
  account := after.account.trans before.account
  startsAt := after.startsAt.trans before.startsAt
  endsAt := after.endsAt.trans before.endsAt
  explicit := after.explicit.trans before.explicit
  version := after.version.trans before.version
  finalized := after.finalized.trans before.finalized
  locked := after.locked.trans before.locked

/-- The cycles correspond. -/
def SameCycles (cycles others : List BillingCycle) : Prop := List.Forall₂ SameCycle cycles others

theorem SameCycles.refl (cycles : List BillingCycle) : SameCycles cycles cycles :=
  List.forall₂_same.mpr fun cycle _ => .refl cycle

theorem SameCycles.trans {first second third : List BillingCycle} (before : SameCycles first second)
    (after : SameCycles second third) : SameCycles first third :=
  forall₂_trans (R := SameCycle) (S := SameCycle) (fun _ _ _ first second => first.trans second) before after

/-- The constraints of the table do not tell corresponding cycles apart. -/
theorem SameCycles.valid {cycles others : List BillingCycle} (same : SameCycles cycles others) :
    ValidCycles others ↔ ValidCycles cycles := by
  have ids : others.map BillingCycle.id = cycles.map BillingCycle.id := forall₂_map_eq (fun _ _ kept => kept.id) same
  have windows : (others.map fun cycle => (cycle.utilityAccountId, cycle.startsAt, cycle.endsAt)) =
      cycles.map fun cycle => (cycle.utilityAccountId, cycle.startsAt, cycle.endsAt) :=
    forall₂_map_eq (fun _ _ kept => by rw [kept.account, kept.startsAt, kept.endsAt]) same
  rw [validCycles_iff, validCycles_iff, ids, windows]
  refine and_congr_right fun _ => and_congr_left fun _ => ⟨fun proper cycle stored => ?_, fun proper cycle stored => ?_⟩
  · obtain ⟨other, present, kept⟩ := forall₂_exists_right same stored
    have ordered := proper other present
    rwa [kept.startsAt, kept.endsAt] at ordered
  · obtain ⟨old, present, kept⟩ := forall₂_exists_left same stored
    rw [kept.startsAt, kept.endsAt]
    exact proper old present

section Marking
variable {book after : CycleBook} {accountId : String} {change : BillingCycle → BillingCycle}

theorem updateCycles_same {selected : BillingCycle → Bool}
    (keeps : ∀ cycle ∈ book.cycles, selected cycle = true → SameCycle cycle (change cycle)) :
    ∃ after, book.updateCycles selected change = .ok after ∧ SameCycles book.cycles after.cycles ∧
      after.segments = book.segments ∧ after.summaries = book.summaries ∧ after.accounts = book.accounts ∧
      after.imports = book.imports := by
  have same : SameCycles book.cycles (book.cycles.map fun cycle => if selected cycle then change cycle else cycle) := by
    rw [SameCycles, List.forall₂_map_right_iff, List.forall₂_same]
    intro cycle stored
    split
    · next chosen => exact keeps cycle stored chosen
    · exact .refl cycle
  have valid := same.valid.mpr book.valid
  refine ⟨{ book with cycles := _, valid := valid }, ?_, same, rfl, rfl, rfl, rfl⟩
  rw [CycleBook.updateCycles, CycleBook.flush, dif_pos valid]

/-- No cycle of the account is finalized. -/
def Unfinalized (accountId : String) (cycles : List BillingCycle) : Prop :=
  ∀ cycle ∈ cycles, cycle.utilityAccountId = accountId → cycle.finalizedAt = none ∧ cycle.status ≠ .finalized

instance (accountId : String) (cycles : List BillingCycle) : Decidable (Unfinalized accountId cycles) :=
  inferInstanceAs (Decidable (∀ cycle ∈ cycles, _))

theorem Unfinalized.same {cycles others : List BillingCycle} (opened : Unfinalized accountId cycles)
    (same : SameCycles cycles others) : Unfinalized accountId others := by
  intro cycle stored mine
  obtain ⟨old, present, kept⟩ := forall₂_exists_left same stored
  rw [kept.finalized, ne_eq, kept.locked]
  exact opened old present (kept.account ▸ mine)

/-- The tables that calculations read, apart from the imports. -/
structure SameTables (book after : CycleBook) : Prop where
  cycles : SameCycles book.cycles after.cycles
  segments : after.segments = book.segments
  summaries : after.summaries = book.summaries
  accounts : after.accounts = book.accounts

theorem SameTables.trans {first second third : CycleBook} (before : SameTables first second)
    (after : SameTables second third) : SameTables first third :=
  ⟨before.cycles.trans after.cycles, after.segments.trans before.segments, after.summaries.trans before.summaries,
    after.accounts.trans before.accounts⟩

/-- Reopening the cycles of windows goes through, and leaves what calculations read. -/
theorem reopen_same (windows : List (Int × Int)) (opened : Unfinalized accountId book.cycles)
    (keeps : ∀ cycle, cycle.status ≠ .finalized → SameCycle cycle (change cycle)) :
    ∃ after, windows.foldlM (reopenCycles accountId change) book = .ok after ∧ SameTables book after ∧
      after.imports = book.imports := by
  induction windows generalizing book with
  | nil => exact ⟨book, rfl, ⟨.refl _, rfl, rfl, rfl⟩, rfl⟩
  | cons window rest ih =>
      obtain ⟨middle, first, cycles, segments, summaries, accounts, imports⟩ :=
        @updateCycles_same book change (fun cycle => decide (Affected accountId window cycle)) fun cycle stored chosen =>
          keeps cycle (opened cycle stored (of_decide_eq_true chosen).1).2
      obtain ⟨after, run, tables, kept⟩ := ih (opened.same cycles)
      refine ⟨after, ?_, SameTables.trans ⟨cycles, segments, summaries, accounts⟩ tables, kept.trans imports⟩
      rw [List.foldlM_cons]
      exact bind_eq_ok.mpr ⟨middle, first, run⟩

end Marking

/-! ## Commit and reversal -/

section Undoing
variable {digest : ImportKind → String → List ImportRow → String} {book committed : CycleBook} {request : ImportRequest}
  {id : String} {ids : Nat → String} {now : Int}

theorem reopened_same (role : CalculationRole) (now : Int) (cycle : BillingCycle) (opened : cycle.status ≠ .finalized) :
    SameCycle cycle (reopened role now cycle) :=
  ⟨rfl, rfl, rfl, rfl, rfl, rfl, rfl, iff_of_false nofun opened⟩

/-- The commit of an import other than of cycle dates leaves what calculations read, apart from the import. -/
theorem importUsage_same (ok : importUsage digest book request id ids now = .ok committed)
    (kind : request.importKind ≠ .cycleDates) (opened : Unfinalized request.accountId book.cycles) :
    SameTables book committed := by
  obtain ⟨rows, _, ok⟩ := bind_eq_ok.mp ok
  rw [if_neg kind] at ok
  let recorded : CycleBook := { book with
    imports := book.imports ++ [newUsageImport request id (digest request.importKind request.timezone rows) rows] }
  obtain ⟨after, run, tables, _⟩ := @reopen_same recorded request.accountId
    (reopened request.calculationRole now) (rows.map ImportRow.window) opened (reopened_same _ _)
  cases run.symm.trans ok
  exact ⟨tables.cycles, tables.segments, tables.summaries, tables.accounts⟩

/-- Taking back an import with a new identifier restores the committed imports of every account. -/
theorem committed_restored {items : List UsageImport} {item : UsageImport} (newId : ∀ row ∈ items, row.id ≠ item.id)
    (later : Int) (accountId : String) :
    (((items ++ [item]).map fun row => if row.id = item.id then { row with reversedAt := some later } else row).filter
        fun row => row.utilityAccountId = accountId ∧ row.reversedAt = none) =
      items.filter fun row => row.utilityAccountId = accountId ∧ row.reversedAt = none := by
  have untouched : (items.map fun row => if row.id = item.id then { row with reversedAt := some later } else row) = items := by
    conv_rhs => rw [← List.map_id items]
    exact List.map_congr_left fun row member => if_neg (newId row member)
  rw [List.map_append, untouched, List.filter_append, List.map_singleton, if_pos rfl,
    List.filter_cons_of_neg (by simp), List.filter_nil, List.append_nil]

/-- The reversal goes through. It restores the committed imports and leaves what else calculations read. -/
theorem reverseUsageImport_restores (ok : importUsage digest book request id ids now = .ok committed)
    (newId : ∀ row ∈ book.imports, row.id ≠ id) (opened : Unfinalized request.accountId committed.cycles)
    (accounts : committed.accounts = book.accounts) (later : Int) :
    ∃ reversed, reverseUsageImport committed request.accountId id later = .ok reversed ∧ SameTables committed reversed ∧
      (∀ accountId, reversed.committedImports accountId = book.committedImports accountId) ∧
      ∃ item ∈ reversed.imports, item.utilityAccountId = request.accountId ∧ ∃ rows,
        checkedImportRows digest book request = .ok rows ∧
        item.contentSha256 = digest request.importKind request.timezone rows := by
  obtain ⟨rows, checked, imports⟩ := importUsage_imports ok
  let item := newUsageImport request id (digest request.importKind request.timezone rows) rows
  obtain ⟨account, found, _⟩ := bind_eq_ok.mp checked
  have named : account.id = request.accountId := by
    have listed := List.find?_some (required_eq_ok.mp found)
    simpa using listed
  have known : requireAccount committed request.accountId = .ok account := by
    rw [← found, requireAccount, requireAccount, CycleBook.account?, CycleBook.account?, accounts]
  have mine : (committed.imports.find? fun row => row.id = id ∧ row.utilityAccountId = account.id) = some item := by
    have absent : (book.imports.find? fun row => row.id = id ∧ row.utilityAccountId = account.id) = none := by
      rw [List.find?_eq_none]
      intro row member chosen
      exact newId row member (of_decide_eq_true chosen).1
    rw [imports, List.find?_append, absent, Option.none_or, List.find?_cons_of_pos]
    exact decide_eq_true ⟨rfl, named.symm⟩
  have clear : ¬ ∃ window ∈ item.normalizedRows.map ImportRow.window,
      ∃ cycle ∈ committed.meeting account.id window.1 window.2, cycle.finalizedAt ≠ none := by
    rintro ⟨window, _, cycle, met, locked⟩
    obtain ⟨stored, owned⟩ := List.mem_filter.mp (List.mem_of_mem_filter met)
    exact locked (opened cycle stored ((of_decide_eq_true owned).trans named)).1
  let marked : CycleBook := { committed with imports := committed.imports.map fun row =>
    if row.id = item.id then { row with reversedAt := some later } else row }
  obtain ⟨reversed, run, tables, kept⟩ := @reopen_same marked account.id
    (fun cycle => { cycle with status := .recalculating, updatedAt := later }) (item.normalizedRows.map ImportRow.window)
    (named ▸ opened) fun cycle unlocked => ⟨rfl, rfl, rfl, rfl, rfl, rfl, rfl, iff_of_false nofun unlocked⟩
  refine ⟨reversed, ?_, ⟨tables.cycles, tables.segments, tables.summaries, tables.accounts⟩, ?_, ?_⟩
  · unfold reverseUsageImport
    refine bind_eq_ok.mpr ⟨account, known, bind_eq_ok.mpr ⟨item, required_eq_ok.mpr mine, ?_⟩⟩
    refine (if_neg fun taken : item.reversedAt ≠ none => taken rfl).trans ?_
    exact guardAgainst_bind.mpr ⟨clear, run⟩
  · intro accountId
    rw [CycleBook.committedImports, kept, CycleBook.committedImports]
    change (committed.imports.map _).filter _ = _
    rw [imports]
    exact committed_restored newId later accountId
  · refine ⟨{ item with reversedAt := some later }, ?_, rfl, rows, checked, rfl⟩
    rw [kept]
    refine List.mem_map.mpr ⟨item, ?_, if_pos rfl⟩
    rw [imports]
    exact List.mem_append_right _ (List.mem_singleton_self _)

/-- The commit of cycle dates does not finalize a cycle, and leaves the accounts. -/
theorem importCycleDates_unfinalized {accountId target : String} {after : CycleBook} {row : (Int × Int) × String}
    (ok : importCycleDates target now book row = .ok after) (opened : Unfinalized accountId book.cycles) :
    Unfinalized accountId after.cycles ∧ after.accounts = book.accounts := by
  obtain ⟨_, ok⟩ := guardAgainst_bind.mp ok
  obtain ⟨_, ok⟩ := guardAgainst_bind.mp ok
  unfold datedCycle at ok
  split at ok
  · obtain ⟨cycles, _, _, accounts, _⟩ := flush_eq_ok ok
    refine ⟨fun cycle stored mine => ?_, accounts⟩
    rw [cycles] at stored
    rcases List.mem_append.mp stored with old | new
    · exact opened cycle old mine
    · cases List.mem_singleton.mp new
      exact ⟨rfl, nofun⟩
  · obtain ⟨cycles, _, _, accounts, _⟩ := flush_eq_ok ok
    refine ⟨fun cycle stored mine => ?_, accounts⟩
    rw [cycles] at stored
    obtain ⟨old, present, rfl⟩ := List.mem_map.mp stored
    split
    · next chosen =>
        rw [if_pos chosen] at mine
        exact ⟨(opened old present mine).1, nofun⟩
    · next other =>
        rw [if_neg other] at mine
        exact opened old present mine

/-- No commit of an import finalizes a cycle. -/
theorem importUsage_unfinalized (ok : importUsage digest book request id ids now = .ok committed)
    (opened : Unfinalized request.accountId book.cycles) :
    Unfinalized request.accountId committed.cycles ∧ committed.accounts = book.accounts := by
  by_cases dates : request.importKind = .cycleDates
  · obtain ⟨rows, _, ok⟩ := bind_eq_ok.mp ok
    rw [if_pos dates] at ok
    let recorded : CycleBook := { book with
      imports := book.imports ++ [newUsageImport request id (digest request.importKind request.timezone rows) rows] }
    have started : Unfinalized request.accountId recorded.cycles ∧ recorded.accounts = book.accounts := ⟨opened, rfl⟩
    refine foldlM_invariant (fun state : CycleBook => Unfinalized request.accountId state.cycles ∧
      state.accounts = book.accounts) _ started (fun state row next _ step kept => ?_) ok
    obtain ⟨still, accounts⟩ := importCycleDates_unfinalized step kept.1
    exact ⟨still, accounts.trans kept.2⟩
  · have same := importUsage_same ok dates opened
    exact ⟨opened.same same.cycles, same.accounts⟩

end Undoing

/-! ## Calculating again -/

section Recalculation
variable (sources : CycleSources) (accountId : String) (now : Int)

/-- `recalculate_billing_cycle`, with what the calculation of the stored cycle comes to. -/
def recalculateStored (book : CycleBook) (cycleId : String) : Except Failure CycleBook := do
  let account ← requireAccount book accountId
  let cycle ← requireCycle book account.id cycleId
  recalculateCycle book accountId cycleId
    (cycleCalculation sources (book.committedImports account.id) cycle.startsAt cycle.endsAt now) now

/-- The given cycles, one after the other. -/
def recalculateAll (cycleIds : List String) (book : CycleBook) : Except Failure CycleBook :=
  cycleIds.foldlM (recalculateStored sources accountId now) book

/-- What is shown of a cycle: its window, its calculated status and the rows stored by its latest calculation. -/
structure CycleBill where
  id : String
  startsAt : Int
  endsAt : Int
  status : Option (Except EngineError CycleTierStatus)
  segments : List TierAllocationSegment
  summaries : List CycleTierSummary

def cycleBill (book : CycleBook) (cycle : BillingCycle) : CycleBill where
  id := cycle.id
  startsAt := cycle.startsAt
  endsAt := cycle.endsAt
  status := cycleStatus? sources (book.committedImports cycle.utilityAccountId) cycle.startsAt cycle.endsAt
  segments := book.currentSegments cycle
  summaries := book.currentSummaries cycle

def CycleBook.bills (book : CycleBook) : List CycleBill := book.cycles.map (cycleBill sources book)

end Recalculation

/-- The books differ in nothing that a calculation reads. -/
structure Alike (book other : CycleBook) : Prop where
  tables : SameTables book other
  imports : ∀ accountId, other.committedImports accountId = book.committedImports accountId

section Alike
variable {book other : CycleBook}

theorem SameCycles.find {cycles others : List BillingCycle} (same : SameCycles cycles others)
    (selected : BillingCycle → Bool) (kept : ∀ cycle other, SameCycle cycle other → selected other = selected cycle) :
    Option.Rel SameCycle (cycles.find? selected) (others.find? selected) := by
  induction same with
  | nil => exact .none
  | cons here _ ih =>
      rw [List.find?_cons, List.find?_cons, kept _ _ here]
      split
      · exact .some here
      · exact ih

theorem SameCycles.filter {cycles others : List BillingCycle} (same : SameCycles cycles others)
    (selected : BillingCycle → Bool) (kept : ∀ cycle other, SameCycle cycle other → selected other = selected cycle) :
    SameCycles (cycles.filter selected) (others.filter selected) := by
  induction same with
  | nil => exact .nil
  | cons here _ ih =>
      rw [List.filter_cons, List.filter_cons, kept _ _ here]
      split
      · exact .cons here ih
      · exact ih

theorem Alike.requireAccount (alike : Alike book other) (accountId : String) :
    requireAccount other accountId = requireAccount book accountId := by
  rw [Cycles.requireAccount, Cycles.requireAccount, CycleBook.account?, CycleBook.account?, alike.tables.accounts]

theorem required_agree {Row : Type} {R : Row → Row → Prop} {found twin : Option Row} {status : Nat} {title detail code : String}
    (related : Option.Rel R found twin) : Agree R (required found status title detail code) (required twin status title detail code) := by
  cases related with
  | none => exact .error _
  | some same => exact .ok same

theorem guardAgainst_agree {condition other : Prop} [Decidable condition] [Decidable other] {status : Nat}
    {title detail code : String} (same : condition ↔ other) :
    Agree (fun _ _ => True) (guardAgainst condition status title detail code) (guardAgainst other status title detail code) := by
  unfold guardAgainst raiseIf
  by_cases holds : condition
  · rw [if_pos holds, if_pos (same.mp holds)]
    exact .error _
  · rw [if_neg holds, if_neg fun also => holds (same.mpr also)]
    exact .ok trivial

theorem Alike.requireCycle (alike : Alike book other) (accountId cycleId : String) :
    Agree SameCycle (requireCycle book accountId cycleId) (requireCycle other accountId cycleId) := by
  have owned : SameCycles (book.of accountId) (other.of accountId) :=
    alike.tables.cycles.filter _ fun _ _ kept => by rw [kept.account]
  have found := owned.find (fun cycle => cycle.id = cycleId) fun _ _ kept => by rw [kept.id]
  exact required_agree found

/-- A change that keeps cycles the same goes through in both books or in neither. -/
theorem Alike.updateCycles (alike : Alike book other) (cycleId : String) {change : BillingCycle → BillingCycle}
    (keeps : ∀ cycle other, SameCycle cycle other → SameCycle (change cycle) (change other)) :
    Agree Alike (book.updateCycles (fun row => row.id = cycleId) change)
      (other.updateCycles (fun row => row.id = cycleId) change) := by
  have same : SameCycles (book.cycles.map fun cycle => if cycle.id = cycleId then change cycle else cycle)
      (other.cycles.map fun cycle => if cycle.id = cycleId then change cycle else cycle) := by
    rw [SameCycles, List.forall₂_map_left_iff, List.forall₂_map_right_iff]
    refine alike.tables.cycles.imp fun cycle other kept => ?_
    rw [kept.id]
    split
    · exact keeps cycle other kept
    · exact kept
  unfold CycleBook.updateCycles CycleBook.flush
  simp only [decide_eq_true_eq]
  by_cases valid : ValidCycles (book.cycles.map fun cycle => if cycle.id = cycleId then change cycle else cycle)
  · rw [dif_pos valid, dif_pos (same.valid.mpr valid)]
    exact .ok ⟨⟨same, alike.tables.segments, alike.tables.summaries, alike.tables.accounts⟩, alike.imports⟩
  · rw [dif_neg valid, dif_neg fun stored => valid (same.valid.mp stored)]
    exact .error _

theorem SameCycle.recalculated {cycle other : BillingCycle} (same : SameCycle cycle other) (usageSource : CalculationRole)
    (now : Int) : SameCycle (recalculated usageSource now cycle) (recalculated usageSource now other) where
  id := same.id
  account := same.account
  startsAt := same.startsAt
  endsAt := same.endsAt
  explicit := same.explicit
  version := congrArg (· + 1) same.version
  finalized := same.finalized
  locked := by
    rw [Cycles.recalculated, Cycles.recalculated, same.explicit]

theorem Alike.calculateCycle (alike : Alike book other) {cycle twin : BillingCycle} (same : SameCycle cycle twin)
    (calculation : CycleCalculation) (now : Int) :
    Agree (fun first second => Alike first.2 second.2) (calculateCycle book cycle calculation now)
      (calculateCycle other twin calculation now) := by
  cases calculation with
  | unavailable => exact .ok alike
  | raised failure => exact .error failure
  | computed usageSource segments summaries missing =>
      unfold Cycles.calculateCycle
      dsimp only
      rw [same.version, same.id]
      refine (guardAgainst_agree (or_congr (not_congr (by rw [same.finalized])) same.locked.symm)).bind fun _ _ _ => ?_
      refine (alike.updateCycles cycle.id fun _ _ kept => kept.recalculated usageSource now).bind fun stored twin related => ?_
      refine Agree.refl.bind fun _ _ _ => .ok ?_
      exact ⟨⟨related.tables.cycles, by rw [related.tables.segments], by rw [related.tables.summaries],
        related.tables.accounts⟩, related.imports⟩

theorem Alike.recalculateStored (alike : Alike book other) (sources : CycleSources) (accountId cycleId : String) (now : Int) :
    Agree Alike (recalculateStored sources accountId now book cycleId) (recalculateStored sources accountId now other cycleId) := by
  unfold Cycles.recalculateStored recalculateCycle
  rw [alike.requireAccount]
  refine Agree.refl.bind fun account _ same => ?_
  cases same
  refine (alike.requireCycle account.id cycleId).bind fun cycle twin kept => ?_
  rw [kept.startsAt, kept.endsAt, alike.imports]
  refine Agree.refl.bind fun owner _ same => ?_
  cases same
  refine (alike.requireCycle owner.id cycleId).bind fun found foundTwin related => ?_
  exact (alike.calculateCycle related _ now).bind fun _ _ done => .ok done

/-- Books that differ in nothing a calculation reads have the same bills. -/
theorem Alike.bills (alike : Alike book other) (sources : CycleSources) : other.bills sources = book.bills sources := by
  refine forall₂_map_eq (fun cycle twin same => ?_) alike.tables.cycles
  rw [cycleBill, cycleBill, CycleBook.currentSegments, CycleBook.currentSegments, CycleBook.currentSummaries,
    CycleBook.currentSummaries, same.id, same.startsAt, same.endsAt, same.account, same.version, alike.imports,
    alike.tables.segments, alike.tables.summaries]

end Alike

/-! ## The import on record -/

/-- The refusal of an import that is on record. -/
def duplicateImport : Failure :=
  .problem { status := 409, title := "Usage import already exists",
             detail := "This exact normalized import was already recorded", code := "usage_import_duplicate" }

/-- Rows that have passed their checks are refused where an import with their digest is on record. -/
theorem checkedImportRows_duplicate {digest : ImportKind → String → List ImportRow → String} {book other : CycleBook}
    {request : ImportRequest} {rows : List ImportRow} (checked : checkedImportRows digest book request = .ok rows)
    (accounts : other.accounts = book.accounts) {item : UsageImport} (stored : item ∈ other.imports)
    (mine : item.utilityAccountId = request.accountId)
    (same : item.contentSha256 = digest request.importKind request.timezone rows) :
    checkedImportRows digest other request = .error duplicateImport := by
  obtain ⟨account, found, checked⟩ := bind_eq_ok.mp checked
  obtain ⟨normalized, normal, checked⟩ := bind_eq_ok.mp checked
  obtain ⟨_, checked⟩ := guardAgainst_bind.mp checked
  obtain ⟨_, checked⟩ := guardAgainst_bind.mp checked
  obtain ⟨_, checked⟩ := guardAgainst_bind.mp checked
  cases checked
  have known : requireAccount other request.accountId = .ok account := by
    rw [← found, requireAccount, requireAccount, CycleBook.account?, CycleBook.account?, accounts]
  refine bind_eq_error.mpr (.inr ⟨account, known, bind_eq_error.mpr (.inr ⟨rows, normal, bind_eq_error.mpr (.inl ?_)⟩)⟩)
  exact raiseIf_eq_error.mpr ⟨⟨item, stored, mine, same⟩, rfl⟩

/-- A committed import is reversed: the committed imports are those before it, and no cycle is moved. Unless it was one of
cycle dates, calculating any cycles then gives the bills that it would have given without the import. The same import is
refused from then on. -/
theorem reversal_undoes_import {digest : ImportKind → String → List ImportRow → String} {book committed : CycleBook}
    {request : ImportRequest} {id : String} {ids : Nat → String} {now : Int}
    (opened : Unfinalized request.accountId book.cycles) (newId : ∀ row ∈ book.imports, row.id ≠ id)
    (ok : importUsage digest book request id ids now = .ok committed) (later : Int) :
    ∃ reversed, reverseUsageImport committed request.accountId id later = .ok reversed ∧
      (∀ accountId, reversed.committedImports accountId = book.committedImports accountId) ∧
      SameCycles committed.cycles reversed.cycles ∧
      (request.importKind ≠ .cycleDates → ∀ (sources : CycleSources) (cycleIds : List String) (clock : Int),
        (recalculateAll sources request.accountId clock cycleIds reversed).map (CycleBook.bills sources) =
          (recalculateAll sources request.accountId clock cycleIds book).map (CycleBook.bills sources)) ∧
      ∀ (again : String) (others : Nat → String) (clock : Int),
        importUsage digest reversed request again others clock = .error duplicateImport := by
  obtain ⟨still, accounts⟩ := importUsage_unfinalized ok opened
  obtain ⟨reversed, run, tables, imports, item, stored, mine, rows, checked, same⟩ :=
    reverseUsageImport_restores ok newId still accounts later
  refine ⟨reversed, run, imports, tables.cycles, ?_, ?_⟩
  · intro kind sources cycleIds clock
    have alike : Alike book reversed := ⟨(importUsage_same ok kind opened).trans tables, imports⟩
    have agree : Agree Alike (recalculateAll sources request.accountId clock cycleIds book)
        (recalculateAll sources request.accountId clock cycleIds reversed) :=
      Agree.foldlM (fun _ _ cycleId related => related.recalculateStored sources request.accountId cycleId clock) cycleIds alike
    exact (agree.map_eq fun _ _ related => (related.bills sources).symm).symm
  · intro again others clock
    have refused := checkedImportRows_duplicate checked (tables.accounts.trans accounts) stored mine same
    exact bind_eq_error.mpr (.inl refused)

/-! ## One file -/

/-- The account with its cycle of one hundred microseconds. -/
def cycleAccount : CycleBook :=
  { freshAccount with
    cycles := [{ id := "cycle", utilityAccountId := "account", startsAt := 0, endsAt := 100 }]
    valid := by decide }

def oneFile : ImportRequest :=
  { accountId := "account", importKind := .interval, timezone := "UTC", rows := [.usage 0 10 1] }

theorem one_file_undone : ∃ committed reversed,
    importUsage endDigest cycleAccount oneFile "a" (fun _ => "") 0 = .ok committed ∧
    reverseUsageImport committed "account" "a" 1 = .ok reversed ∧
    (recalculateAll importedSources "account" 2 ["cycle"] reversed).map (CycleBook.bills importedSources) =
      (recalculateAll importedSources "account" 2 ["cycle"] cycleAccount).map (CycleBook.bills importedSources) := by
  have returns : (importUsage endDigest cycleAccount oneFile "a" (fun _ => "") 0).toOption.isSome := by decide
  obtain ⟨committed, ok⟩ : ∃ committed, importUsage endDigest cycleAccount oneFile "a" (fun _ => "") 0 = .ok committed := by
    cases run : importUsage endDigest cycleAccount oneFile "a" (fun _ => "") 0 with
    | ok committed => exact ⟨committed, rfl⟩
    | error failure => rw [run] at returns; cases returns
  obtain ⟨reversed, run, _, _, bills, _⟩ := reversal_undoes_import (by decide) (by decide) ok 1
  exact ⟨committed, reversed, ok, run, bills nofun importedSources ["cycle"] 2⟩

/-- Dates of a cycle that is not stored yet. -/
def datesFile : ImportRequest :=
  { accountId := "account", importKind := .cycleDates, timezone := "UTC", rows := [.cycleDates 0 (30 * dayLength)] }

def committedThenReversed (book : CycleBook) (request : ImportRequest) : Except Failure CycleBook := do
  let committed ← importUsage endDigest book request "a" (fun _ => "new") 0
  reverseUsageImport committed request.accountId "a" 1

/-- A file that was reversed cannot be committed again, and the cycle that imported dates made stays. -/
theorem reversed_import_stays_on_record :
    (committedThenReversed cycleAccount oneFile >>= fun reversed =>
      importUsage endDigest reversed oneFile "b" (fun _ => "") 2).toOption.isNone = true ∧
    (committedThenReversed cycleAccount oneFile).toOption.isSome = true ∧
    (committedThenReversed freshAccount datesFile).toOption.map (fun book =>
      book.cycles.map fun cycle => (cycle.startsAt, cycle.endsAt)) = some [(0, 30 * dayLength)] ∧
    freshAccount.cycles = [] := by
  refine ⟨?_, ?_, ?_, rfl⟩ <;> decide

end PowerMonitor.Cycles
