import PowerMonitor.Cycles.Service
import PowerMonitor.Library.Runs

/-! Finalized cycles do not change.

Every operation goes through a few changes of the table of cycles. What each of them leaves of the finalized
cycles is said once, and the operations are composed from that.
-/

set_option autoImplicit false
namespace PowerMonitor.Cycles
open Library Rates

section Changes
variable {book middle after : CycleBook} {cycle row : BillingCycle}

/-! ## What a change leaves -/

/-- The rows of the current calculation of a cycle. -/
def CycleBook.currentSegments (book : CycleBook) (cycle : BillingCycle) : List TierAllocationSegment :=
  book.segments.filter fun segment =>
    segment.billingCycleId = cycle.id ∧ segment.recalculationVersion = cycle.recalculationVersion

def CycleBook.currentSummaries (book : CycleBook) (cycle : BillingCycle) : List CycleTierSummary :=
  book.summaries.filter fun summary =>
    summary.billingCycleId = cycle.id ∧ summary.recalculationVersion = cycle.recalculationVersion

/-- The row of the cycle and the rows of its current calculation are the same. -/
structure Frozen (cycle : BillingCycle) (before after : CycleBook) : Prop where
  row : cycle ∈ after.cycles
  segments : after.currentSegments cycle = before.currentSegments cycle
  summaries : after.currentSummaries cycle = before.currentSummaries cycle

/-- Every finalized cycle is frozen. -/
def KeepsFinalized (before after : CycleBook) : Prop :=
  ∀ cycle ∈ before.cycles, cycle.finalizedAt ≠ none → Frozen cycle before after

/-- No cycle is finalized. -/
def FinalizesNone (before after : CycleBook) : Prop :=
  ∀ row ∈ after.cycles, row.finalizedAt ≠ none → ∃ old ∈ before.cycles, old.id = row.id ∧ old.finalizedAt ≠ none

theorem KeepsFinalized.refl (book : CycleBook) : KeepsFinalized book book :=
  fun _ stored _ => ⟨stored, rfl, rfl⟩

theorem KeepsFinalized.trans (first : KeepsFinalized book middle) (second : KeepsFinalized middle after) :
    KeepsFinalized book after := by
  intro cycle stored locked
  have kept := first cycle stored locked
  have again := second cycle kept.row locked
  exact ⟨again.row, again.segments.trans kept.segments, again.summaries.trans kept.summaries⟩

theorem FinalizesNone.refl (book : CycleBook) : FinalizesNone book book :=
  fun row stored locked => ⟨row, stored, rfl, locked⟩

theorem FinalizesNone.trans (first : FinalizesNone book middle) (second : FinalizesNone middle after) :
    FinalizesNone book after := by
  intro row stored locked
  obtain ⟨old, present, same, alsoLocked⟩ := second row stored locked
  obtain ⟨older, earlier, sameId, wasLocked⟩ := first old present alsoLocked
  exact ⟨older, earlier, sameId.trans same, wasLocked⟩

/-- No finalized cycle has the id. -/
def Unlocked (book : CycleBook) (id : String) : Prop := ∀ row ∈ book.cycles, row.id = id → row.finalizedAt = none

theorem unlocked_of_mem (stored : cycle ∈ book.cycles) (opened : cycle.finalizedAt = none) : Unlocked book cycle.id := by
  intro row present same
  obtain rfl := List.inj_on_of_nodup_map book.valid.ids present stored same
  exact opened

theorem Unlocked.step {id : String} (unlocked : Unlocked book id) (none : FinalizesNone book after) : Unlocked after id := by
  intro row stored same
  by_contra locked
  obtain ⟨old, present, sameId, wasLocked⟩ := none row stored locked
  exact wasLocked (unlocked old present (sameId.trans same))

/-! ## The changes of the table -/

theorem flush_eq_ok {cycles : List BillingCycle} (ok : book.flush cycles = .ok after) :
    after.cycles = cycles ∧ after.segments = book.segments ∧ after.summaries = book.summaries ∧
      after.accounts = book.accounts ∧ after.imports = book.imports := by
  unfold CycleBook.flush at ok
  split at ok
  · cases ok
    exact ⟨rfl, rfl, rfl, rfl, rfl⟩
  · cases ok

theorem addCycle_keeps (ok : book.addCycle cycle = .ok after) : KeepsFinalized book after := by
  obtain ⟨cycles, segments, summaries, _⟩ := flush_eq_ok ok
  intro old stored _
  refine ⟨?_, ?_, ?_⟩
  · rw [cycles]
    exact List.mem_append_left _ stored
  · rw [CycleBook.currentSegments, segments]
    rfl
  · rw [CycleBook.currentSummaries, summaries]
    rfl

/-- A change that selects no finalized cycle leaves them all alone. -/
theorem updateCycles_keeps {selected : BillingCycle → Bool} {change : BillingCycle → BillingCycle}
    (ok : book.updateCycles selected change = .ok after)
    (opened : ∀ row ∈ book.cycles, selected row = true → row.finalizedAt = none) : KeepsFinalized book after := by
  obtain ⟨cycles, segments, summaries, _⟩ := flush_eq_ok ok
  intro old stored locked
  refine ⟨?_, ?_, ?_⟩
  · rw [cycles, List.mem_map]
    exact ⟨old, stored, if_neg fun chosen => locked (opened old stored chosen)⟩
  · rw [CycleBook.currentSegments, segments]
    rfl
  · rw [CycleBook.currentSummaries, summaries]
    rfl

theorem updateCycles_finalizesNone {selected : BillingCycle → Bool} {change : BillingCycle → BillingCycle}
    (ok : book.updateCycles selected change = .ok after)
    (same : ∀ row, (change row).id = row.id ∧ (change row).finalizedAt = row.finalizedAt) : FinalizesNone book after := by
  intro row stored locked
  rw [(flush_eq_ok ok).1] at stored
  obtain ⟨old, present, rfl⟩ := List.mem_map.mp stored
  refine ⟨old, present, ?_⟩
  split at locked
  · next chosen =>
      rw [if_pos chosen, (same old).1]
      exact ⟨rfl, (same old).2 ▸ locked⟩
  · next other =>
      rw [if_neg other]
      exact ⟨rfl, locked⟩

theorem updateById_keeps {id : String} {change : BillingCycle → BillingCycle}
    (ok : book.updateCycles (fun row => row.id = id) change = .ok after) (unlocked : Unlocked book id) :
    KeepsFinalized book after :=
  updateCycles_keeps ok fun row stored chosen => unlocked row stored (of_decide_eq_true chosen)

theorem reopenCycles_keeps {accountId : String} {change : BillingCycle → BillingCycle} {window : Int × Int}
    (ok : reopenCycles accountId change book window = .ok after) : KeepsFinalized book after :=
  updateCycles_keeps ok fun _ _ chosen => (of_decide_eq_true chosen).2.2

/-! ## Calculations -/

theorem guardAgainst_bind {α : Type} {condition : Prop} [Decidable condition] {status : Nat} {title detail code : String}
    {next : Unit → Except Failure α} {result : α} :
    (guardAgainst condition status title detail code >>= next) = .ok result ↔ ¬ condition ∧ next () = .ok result :=
  raiseIf_bind_eq_ok

theorem required_eq_ok {α : Type} {value : Option α} {status : Nat} {title detail code : String} {found : α} :
    required value status title detail code = .ok found ↔ value = some found := by
  cases value <;> simp [required, raise]

/-- Rows added for an unlocked cycle are not rows of a finalized one. -/
theorem addRows_keeps {id : String} (unlocked : Unlocked book id) (segments : List TierAllocationSegment)
    (summaries : List CycleTierSummary) (ownSegments : ∀ segment ∈ segments, segment.billingCycleId = id)
    (ownSummaries : ∀ summary ∈ summaries, summary.billingCycleId = id) :
    KeepsFinalized book { book with
      segments := book.segments ++ segments
      summaries := book.summaries ++ summaries } := by
  intro old stored locked
  have other : old.id ≠ id := fun same => locked (unlocked old stored same)
  refine ⟨stored, ?_, ?_⟩
  · simp only [CycleBook.currentSegments, List.filter_append]
    refine List.append_right_eq_self.mpr (List.filter_eq_nil_iff.mpr fun segment member chosen => ?_)
    exact other ((of_decide_eq_true chosen).1.symm.trans (ownSegments segment member))
  · simp only [CycleBook.currentSummaries, List.filter_append]
    refine List.append_right_eq_self.mpr (List.filter_eq_nil_iff.mpr fun summary member chosen => ?_)
    exact other ((of_decide_eq_true chosen).1.symm.trans (ownSummaries summary member))

variable {calculation : CycleCalculation} {now : Int} {available : Bool}

/-- A calculation either stores nothing or is of a cycle that is not finalized. -/
theorem calculateCycle_keeps (ok : calculateCycle book cycle calculation now = .ok (available, after))
    (known : cycle.finalizedAt = none → Unlocked book cycle.id) :
    KeepsFinalized book after ∧ FinalizesNone book after ∧ (available = true → cycle.finalizedAt = none) := by
  cases calculation with
  | unavailable =>
      cases ok
      exact ⟨.refl book, .refl book, fun available => absurd available (by decide)⟩
  | raised failure => cases ok
  | computed usageSource segments summaries definitionMissing =>
      obtain ⟨opened, ok⟩ := guardAgainst_bind.mp ok
      obtain ⟨middle, updated, ok⟩ := bind_eq_ok.mp ok
      obtain ⟨_, ok⟩ := guardAgainst_bind.mp ok
      cases ok
      have unfinalized : cycle.finalizedAt = none := not_not.mp fun locked => opened (.inl locked)
      have unlocked := known unfinalized
      have none : FinalizesNone book middle := updateCycles_finalizesNone updated fun _ => ⟨rfl, rfl⟩
      refine ⟨(updateById_keeps updated unlocked).trans ?_, none, fun _ => unfinalized⟩
      refine addRows_keeps (unlocked.step none) _ _ ?_ ?_
      · intro segment member
        obtain ⟨_, _, rfl⟩ := List.mem_map.mp member
        rfl
      · intro summary member
        obtain ⟨_, _, rfl⟩ := List.mem_map.mp member
        rfl

theorem currentBillingCycle_keeps {account : CycleAccount} {instant : Int} {id : String}
    (ok : currentBillingCycle book account instant id now = .ok (cycle, after)) :
    KeepsFinalized book after ∧ cycle ∈ after.cycles := by
  unfold currentBillingCycle at ok
  split at ok
  · next found =>
      cases ok
      refine ⟨.refl book, ?_⟩
      have chosen := List.mem_of_mem_head? found
      rw [List.mem_insertionSort] at chosen
      exact List.mem_of_mem_filter (List.mem_of_mem_filter chosen)
  · obtain ⟨stored, added, ok⟩ := bind_eq_ok.mp ok
    cases ok
    refine ⟨addCycle_keeps added, ?_⟩
    rw [(flush_eq_ok added).1]
    exact List.mem_append_right _ (List.mem_singleton_self _)

theorem requireCycle_mem {accountId cycleId : String} (ok : requireCycle book accountId cycleId = .ok cycle) :
    cycle ∈ book.cycles :=
  List.mem_of_mem_filter (List.mem_of_find?_eq_some (required_eq_ok.mp ok))

/-- A fold whose steps keep the finalized cycles keeps them. -/
theorem foldlM_keeps {Item : Type} {step : CycleBook → Item → Except Failure CycleBook} {items : List Item}
    (each : ∀ book item after, step book item = .ok after → KeepsFinalized book after)
    (ok : items.foldlM step book = .ok after) : KeepsFinalized book after :=
  foldlM_invariant (KeepsFinalized book) items (.refl book)
    (fun state item next _ stepped kept => kept.trans (each state item next stepped)) ok

/-! ## The operations -/

theorem recalculateCycle_keeps {accountId cycleId : String}
    (ok : recalculateCycle book accountId cycleId calculation now = .ok after) : KeepsFinalized book after := by
  obtain ⟨account, _, ok⟩ := bind_eq_ok.mp ok
  obtain ⟨cycle, found, ok⟩ := bind_eq_ok.mp ok
  obtain ⟨⟨available, last⟩, calculated, ok⟩ := bind_eq_ok.mp ok
  cases ok
  exact (calculateCycle_keeps calculated (unlocked_of_mem (requireCycle_mem found))).1

theorem recalculateCurrentCycle_keeps {accountId id : String}
    (ok : recalculateCurrentCycle book accountId id calculation now = .ok after) : KeepsFinalized book after := by
  obtain ⟨account, _, ok⟩ := bind_eq_ok.mp ok
  obtain ⟨⟨current, middle⟩, opened, ok⟩ := bind_eq_ok.mp ok
  obtain ⟨cycle, found, ok⟩ := bind_eq_ok.mp ok
  obtain ⟨⟨available, last⟩, calculated, ok⟩ := bind_eq_ok.mp ok
  cases ok
  exact (currentBillingCycle_keeps opened).1.trans
    (calculateCycle_keeps calculated (unlocked_of_mem (requireCycle_mem found))).1

theorem finalizeCycle_keeps {accountId cycleId hash : String}
    (ok : finalizeCycle book accountId cycleId calculation hash now = .ok after) : KeepsFinalized book after := by
  obtain ⟨account, _, ok⟩ := bind_eq_ok.mp ok
  obtain ⟨cycle, found, ok⟩ := bind_eq_ok.mp ok
  split at ok
  · cases ok
    exact .refl book
  · next opened =>
      obtain ⟨⟨available, middle⟩, calculated, ok⟩ := bind_eq_ok.mp ok
      obtain ⟨_, ok⟩ := guardAgainst_bind.mp ok
      have unlocked := unlocked_of_mem (requireCycle_mem found) (not_not.mp opened)
      obtain ⟨kept, none, _⟩ := calculateCycle_keeps calculated fun _ => unlocked
      exact kept.trans (updateById_keeps ok (unlocked.step none))

theorem enterManualUsage_keeps {request : ManualUsageRequest} {id : String}
    (ok : enterManualUsage book request id now = .ok after) : KeepsFinalized book after := by
  obtain ⟨account, _, ok⟩ := bind_eq_ok.mp ok
  split at ok
  · cases ok
    exact .refl book
  · obtain ⟨⟨cycle, middle⟩, opened, ok⟩ := bind_eq_ok.mp ok
    cases ok
    exact (currentBillingCycle_keeps opened).1.trans fun _ stored _ => ⟨stored, rfl, rfl⟩

/-- The cycle that new dates are for is not finalized when none of those they meet is. -/
theorem datedCycle_keeps {accountId id : String} {startsAt endsAt : Int} {change : BillingCycle → BillingCycle}
    (ok : datedCycle book accountId startsAt endsAt id now change = .ok after)
    (opened : ¬ ∃ cycle ∈ book.meeting accountId startsAt endsAt, cycle.finalizedAt ≠ none) : KeepsFinalized book after := by
  unfold datedCycle at ok
  split at ok
  · exact addCycle_keeps ok
  · next cycle rest met =>
      have member : cycle ∈ book.meeting accountId startsAt endsAt := by
        rw [met]
        exact List.mem_cons_self
      refine updateById_keeps ok (unlocked_of_mem (List.mem_of_mem_filter (List.mem_of_mem_filter member)) ?_)
      by_contra locked
      exact opened ⟨cycle, member, locked⟩

theorem importCycleDates_keeps {accountId : String} {row : (Int × Int) × String}
    (ok : importCycleDates accountId now book row = .ok after) : KeepsFinalized book after := by
  obtain ⟨opened, ok⟩ := guardAgainst_bind.mp ok
  obtain ⟨_, ok⟩ := guardAgainst_bind.mp ok
  exact datedCycle_keeps ok opened

theorem importUsage_keeps {digest : ImportKind → String → List ImportRow → String} {request : ImportRequest}
    {id : String} {ids : Nat → String} (ok : importUsage digest book request id ids now = .ok after) :
    KeepsFinalized book after := by
  obtain ⟨rows, _, ok⟩ := bind_eq_ok.mp ok
  -- The import row itself touches no cycle.
  have recorded : KeepsFinalized book { book with imports := book.imports ++
      [newUsageImport request id (digest request.importKind request.timezone rows) rows] } :=
    fun _ stored _ => ⟨stored, rfl, rfl⟩
  refine recorded.trans ?_
  split at ok
  · exact foldlM_keeps (fun _ _ _ stepped => importCycleDates_keeps stepped) ok
  · exact foldlM_keeps (fun _ _ _ stepped => reopenCycles_keeps stepped) ok

theorem reverseUsageImport_keeps {accountId importId : String}
    (ok : reverseUsageImport book accountId importId now = .ok after) : KeepsFinalized book after := by
  obtain ⟨account, _, ok⟩ := bind_eq_ok.mp ok
  obtain ⟨item, _, ok⟩ := bind_eq_ok.mp ok
  split at ok
  · cases ok
    exact .refl book
  · obtain ⟨_, ok⟩ := guardAgainst_bind.mp ok
    have recorded : KeepsFinalized book { book with imports := book.imports.map fun row =>
        if row.id = item.id then { row with reversedAt := some now } else row } :=
      fun _ stored _ => ⟨stored, rfl, rfl⟩
    exact recorded.trans (foldlM_keeps (fun _ _ _ stepped => reopenCycles_keeps stepped) ok)

theorem overrideBillingCycle_keeps {request : OverrideRequest} {id : String}
    (ok : overrideBillingCycle book request id now = .ok after) : KeepsFinalized book after := by
  obtain ⟨account, _, ok⟩ := bind_eq_ok.mp ok
  obtain ⟨opened, ok⟩ := guardAgainst_bind.mp ok
  obtain ⟨_, ok⟩ := guardAgainst_bind.mp ok
  exact datedCycle_keeps ok opened

theorem approveCycleDraft_keeps {draft : CycleDraft} {id : String}
    (ok : approveCycleDraft book draft id now = .ok after) : KeepsFinalized book after := by
  obtain ⟨account, _, ok⟩ := bind_eq_ok.mp ok
  obtain ⟨_, ok⟩ := guardAgainst_bind.mp ok
  split at ok
  · cases ok
    exact .refl book
  · obtain ⟨⟨startsAt, endsAt⟩, _, ok⟩ := bind_eq_ok.mp ok
    simp only [applyDraftDates] at ok
    split at ok
    · exact addCycle_keeps ok
    · next existing found =>
        obtain ⟨opened, ok⟩ := guardAgainst_bind.mp ok
        have stored := List.mem_of_mem_filter (List.mem_of_find?_eq_some found)
        exact updateById_keeps ok (unlocked_of_mem stored (not_not.mp opened))

theorem prepareCurrentCycle_keeps {ids : String → String} {account : CycleAccount}
    (ok : prepareCurrentCycle ids now book account = .ok after) : KeepsFinalized book after := by
  obtain ⟨⟨cycle, middle⟩, current, ok⟩ := bind_eq_ok.mp ok
  obtain ⟨kept, stored⟩ := currentBillingCycle_keeps current
  dsimp only at ok
  split at ok
  · next opened => exact kept.trans (updateById_keeps ok (unlocked_of_mem stored opened.2))
  · cases ok
    exact kept

theorem processRecalculation_keeps {calculations : String → CycleCalculation}
    (ok : processRecalculation calculations now book cycle = .ok after) (unlocked : Unlocked book cycle.id) :
    KeepsFinalized book after ∧ FinalizesNone book after := by
  unfold processRecalculation at ok
  split at ok
  · exact ⟨updateById_keeps ok unlocked, updateCycles_finalizesNone ok fun _ => ⟨rfl, rfl⟩⟩
  · obtain ⟨⟨available, middle⟩, calculated, ok⟩ := bind_eq_ok.mp ok
    obtain ⟨kept, none, _⟩ := calculateCycle_keeps calculated fun _ => unlocked
    dsimp only at ok
    split at ok
    · cases ok
      exact ⟨kept, none⟩
    · exact ⟨kept.trans (updateById_keeps ok (unlocked.step none)),
        none.trans (updateCycles_finalizesNone ok fun _ => ⟨rfl, rfl⟩)⟩

theorem processTierRecalculations_keeps {ids : String → String} {calculations : String → CycleCalculation} {limit : Nat}
    (ok : processTierRecalculations book ids calculations limit now = .ok after) : KeepsFinalized book after := by
  obtain ⟨prepared, first, ok⟩ := bind_eq_ok.mp ok
  have kept := foldlM_keeps (fun _ _ _ stepped => prepareCurrentCycle_keeps stepped) first
  refine kept.trans ?_
  -- The batch is chosen before its first calculation; no calculation finalizes a cycle of it.
  have batch := foldlM_invariant (fun state => KeepsFinalized prepared state ∧ FinalizesNone prepared state) _
    ⟨.refl prepared, .refl prepared⟩ (fun state cycle next member stepped holds => ?_) ok
  · exact batch.1
  · have waiting := (perm_sortedBy _ _).mem_iff.mp (List.mem_of_mem_take member)
    obtain ⟨stored, chosen⟩ := List.mem_filter.mp waiting
    have unlocked := (unlocked_of_mem stored (of_decide_eq_true chosen).2).step holds.2
    obtain ⟨kept, none⟩ := processRecalculation_keeps stepped unlocked
    exact ⟨holds.1.trans kept, holds.2.trans none⟩

theorem ingestReadings_keeps {accountId : String} {windows : List (Int × Int)}
    (ok : ingestReadings book accountId windows now = .ok after) : KeepsFinalized book after := by
  unfold ingestReadings at ok
  split at ok
  · exact reopenCycles_keeps ok
  · cases ok
    exact .refl book

theorem perform_keeps {digest : ImportKind → String → List ImportRow → String} {operation : Operation}
    (ok : operation.perform digest book = .ok after) : KeepsFinalized book after := by
  cases operation with
  | currentBillingCycle accountId instant id now =>
      obtain ⟨account, _, ok⟩ := bind_eq_ok.mp ok
      obtain ⟨⟨cycle, middle⟩, current, ok⟩ := bind_eq_ok.mp ok
      cases ok
      exact (currentBillingCycle_keeps current).1
  | enterManualUsage request id now => exact enterManualUsage_keeps ok
  | importUsage request id ids now => exact importUsage_keeps ok
  | reverseUsageImport accountId importId now => exact reverseUsageImport_keeps ok
  | overrideBillingCycle request id now => exact overrideBillingCycle_keeps ok
  | approveCycleDraft draft id now => exact approveCycleDraft_keeps ok
  | recalculateCycle accountId cycleId calculation now => exact recalculateCycle_keeps ok
  | recalculateCurrentCycle accountId id calculation now => exact recalculateCurrentCycle_keeps ok
  | finalizeCycle accountId cycleId calculation hash now => exact finalizeCycle_keeps ok
  | processTierRecalculations ids calculations limit now => exact processTierRecalculations_keeps ok
  | ingestReadings accountId windows now => exact ingestReadings_keeps ok
  | changeStartDay accountId day =>
      cases ok
      exact fun _ stored _ => ⟨stored, rfl, rfl⟩

theorem apply_keeps (digest : ImportKind → String → List ImportRow → String) (book : CycleBook) (operation : Operation) :
    KeepsFinalized book (operation.apply digest book) := by
  unfold Operation.apply
  cases done : operation.perform digest book with
  | error failure => exact .refl book
  | ok after => exact perform_keeps done

/-- After any operations, every cycle that was finalized has its row, its segments and its summaries as they were. -/
theorem finalized_cycles_immutable (digest : ImportKind → String → List ImportRow → String) (book : CycleBook)
    (earlier later : List Operation) :
    KeepsFinalized (earlier.foldl (Operation.apply digest) book) ((earlier ++ later).foldl (Operation.apply digest) book) := by
  rw [List.foldl_append]
  exact foldl_invariant (KeepsFinalized.refl _)
    (fun state operation kept => kept.trans (apply_keeps digest state operation)) later

end Changes
end PowerMonitor.Cycles
