import PowerMonitor.Cycles.Finalized

/-! Billing cycles of an account do not overlap while every window that is created without an overlap test is clear
of the stored ones.

Imported dates and overrides move the only cycle they meet, so they keep the cycles apart by themselves. A generated
cycle is created when none contains the instant, and an approved bill when none has the very same bounds; both may
cross a stored cycle.
-/

set_option autoImplicit false
namespace PowerMonitor.Cycles
open Library Rates Calendar
open Assignments (datetimeMax)

/-! ## Windows of an account -/

def Crosses (first second : Int × Int) : Prop := first.1 < second.2 ∧ second.1 < first.2

instance (first second : Int × Int) : Decidable (Crosses first second) := inferInstanceAs (Decidable (_ ∧ _))

theorem Crosses.symm {first second : Int × Int} (cross : Crosses first second) : Crosses second first :=
  ⟨cross.2, cross.1⟩

def BillingCycle.span (cycle : BillingCycle) : Int × Int := (cycle.startsAt, cycle.endsAt)

def CycleBook.windowsOf (book : CycleBook) (accountId : String) : List (Int × Int) :=
  (book.of accountId).map BillingCycle.span

def CyclesApart (book : CycleBook) (accountId : String) : Prop :=
  (book.windowsOf accountId).Pairwise fun first second => ¬ Crosses first second

/-- The cycles of an account are apart, so no reading is allocated twice and nothing crosses a finalized cycle. -/
structure SeparatedCycles (book : CycleBook) (accountId : String) : Prop where
  apart : CyclesApart book accountId
  allocatedOnce : ∀ first ∈ book.of accountId, ∀ second ∈ book.of accountId, first ≠ second →
    ∀ row, ∀ left ∈ monitoredInterval first.startsAt first.endsAt row,
      ∀ right ∈ monitoredInterval second.startsAt second.endsAt row, left.finish ≤ right.start ∨ right.finish ≤ left.start
  lockedClear : ∀ locked ∈ book.of accountId, locked.finalizedAt ≠ none →
    ∀ other ∈ book.of accountId, other ≠ locked → ¬ Crosses other.span locked.span

/-- A window meets no stored cycle of the account, except one with the very same bounds. -/
def Clear (book : CycleBook) (accountId : String) (window : Int × Int) : Prop :=
  ∀ stored ∈ book.windowsOf accountId, Crosses stored window → stored = window

/-- At the instant the account has a cycle, or the calendar window is clear. -/
def ClearAt (book : CycleBook) (account : CycleAccount) (instant : Int) : Prop :=
  (∃ stored ∈ book.windowsOf account.id, stored.1 ≤ instant ∧ instant < stored.2) ∨
    Clear book account.id (expectedCycleBounds account instant)

/-- What an operation creates for the account without an overlap test is clear. -/
def Operation.Separate (accountId : String) (book : CycleBook) : Operation → Prop
  | .currentBillingCycle target instant _ _ => target = accountId → ∀ account ∈ book.account? target, ClearAt book account instant
  | .enterManualUsage request _ _ => request.accountId = accountId →
      ∀ account ∈ book.account? request.accountId, ClearAt book account request.effectiveAt
  | .recalculateCurrentCycle target _ _ now => target = accountId → ∀ account ∈ book.account? target, ClearAt book account now
  | .processTierRecalculations _ _ _ now =>
      ∀ account ∈ book.accounts, account.id = accountId → account.configured = true → ClearAt book account now
  | .approveCycleDraft draft _ _ => draft.accountId = accountId → draft.approved = true → draft.imported = false →
      ∀ startsAt ∈ draft.startsAt, ∀ endsAt ∈ draft.endsAt, Clear book accountId (startsAt, endsAt)
  | _ => True

section Changes
variable {book middle after : CycleBook} {accountId : String} {cycle : BillingCycle} {now : Int}

theorem separatedCycles_of_apart (apart : CyclesApart book accountId) : SeparatedCycles book accountId := by
  have separate : ∀ first ∈ book.of accountId, ∀ second ∈ book.of accountId, first ≠ second →
      ¬ Crosses first.span second.span := by
    intro first firstStored second secondStored different
    have symmetric : Std.Symm fun first second : BillingCycle => ¬ Crosses first.span second.span :=
      ⟨fun _ _ apart cross => apart cross.symm⟩
    exact List.Pairwise.forall (List.pairwise_map.mp apart) firstStored secondStored different
  refine ⟨apart, ?_, ?_⟩
  · intro first firstStored second secondStored different row left leftPiece right rightPiece
    have pieces : ∀ (start finish : Int) (piece : AuthoritativeInterval), piece ∈ monitoredInterval start finish row →
        start ≤ piece.start ∧ piece.finish ≤ finish := by
      intro start finish piece member
      simp only [monitoredInterval] at member
      split at member
      · cases member
      · split at member
        · cases member
          exact ⟨le_max_right _ _, min_le_right _ _⟩
        · cases member
    have leftInside := pieces _ _ left leftPiece
    have rightInside := pieces _ _ right rightPiece
    have apartSpans := separate first firstStored second secondStored different
    simp only [Crosses, BillingCycle.span, not_and_or, not_lt] at apartSpans
    omega
  · intro locked lockedStored _ other otherStored different
    exact separate other otherStored locked lockedStored different

/-! ## What a change does to the windows -/

theorem updateCycles_windows {selected : BillingCycle → Bool} {change : BillingCycle → BillingCycle}
    (ok : book.updateCycles selected change = .ok after)
    (same : ∀ row, (change row).utilityAccountId = row.utilityAccountId ∧ (change row).span = row.span) :
    after.windowsOf accountId = book.windowsOf accountId := by
  have account : ∀ row, (if selected row then change row else row).utilityAccountId = row.utilityAccountId := by
    intro row
    split
    · exact (same row).1
    · rfl
  rw [CycleBook.windowsOf, CycleBook.of, (flush_eq_ok ok).1, List.filter_map, List.map_map, CycleBook.windowsOf, CycleBook.of]
  have kept : (fun cycle : BillingCycle => decide (cycle.utilityAccountId = accountId)) ∘
      (fun row => if selected row then change row else row) = fun cycle => decide (cycle.utilityAccountId = accountId) := by
    funext row
    simp only [Function.comp, account]
  rw [kept]
  apply List.map_congr_left
  intro row _
  simp only [Function.comp]
  split
  · exact (same row).2
  · rfl

theorem addCycle_windows (ok : book.addCycle cycle = .ok after) : after.windowsOf accountId =
    book.windowsOf accountId ++ if cycle.utilityAccountId = accountId then [cycle.span] else [] := by
  rw [CycleBook.windowsOf, CycleBook.of, (flush_eq_ok ok).1, List.filter_append, List.map_append]
  by_cases mine : cycle.utilityAccountId = accountId
  · simp [mine, CycleBook.windowsOf, CycleBook.of]
  · simp [mine, CycleBook.windowsOf, CycleBook.of]

/-- The stored windows of an account are different from one another. -/
theorem windowsOf_nodup (book : CycleBook) (accountId : String) : (book.windowsOf accountId).Nodup := by
  have distinct := book.valid.windows
  rw [List.nodup_map_iff_inj_on (List.Nodup.of_map _ book.valid.ids)] at distinct
  refine (List.nodup_map_iff_inj_on ((List.Nodup.of_map _ book.valid.ids).filter _)).mpr ?_
  intro first firstStored second secondStored same
  obtain ⟨firstMember, firstAccount⟩ := List.mem_filter.mp firstStored
  obtain ⟨secondMember, secondAccount⟩ := List.mem_filter.mp secondStored
  refine distinct first firstMember second secondMember ?_
  rw [of_decide_eq_true firstAccount, of_decide_eq_true secondAccount]
  simpa [BillingCycle.span] using same

/-- A clear window can be added: a stored window with its bounds would be refused by the constraint. -/
theorem addCycle_apart (ok : book.addCycle cycle = .ok after) (apart : CyclesApart book accountId)
    (clear : cycle.utilityAccountId = accountId → Clear book accountId cycle.span) : CyclesApart after accountId := by
  have windows := @addCycle_windows book after accountId cycle ok
  by_cases mine : cycle.utilityAccountId = accountId
  · rw [if_pos mine] at windows
    have distinct := windowsOf_nodup after accountId
    rw [windows, List.nodup_append] at distinct
    rw [CyclesApart, windows, List.pairwise_append]
    refine ⟨apart, List.pairwise_singleton _ _, ?_⟩
    intro stored member new added cross
    rw [List.mem_singleton.mp added] at cross
    exact distinct.2.2 stored member cycle.span (List.mem_singleton_self _) (clear mine stored member cross)
  · rw [if_neg mine, List.append_nil] at windows
    rw [CyclesApart, windows]
    exact apart

theorem meeting_iff {startsAt endsAt : Int} {row : BillingCycle} : row ∈ book.meeting accountId startsAt endsAt ↔
    row ∈ book.cycles ∧ row.utilityAccountId = accountId ∧ Crosses row.span (startsAt, endsAt) := by
  simp only [CycleBook.meeting, CycleBook.of, List.mem_filter, decide_eq_true_eq, and_assoc]
  exact Iff.rfl

theorem moveCycle_apart {startsAt endsAt : Int} {change : BillingCycle → BillingCycle}
    (ok : book.updateCycles (fun row => row.id = cycle.id) change = .ok after) (apart : CyclesApart book accountId)
    (only : book.meeting cycle.utilityAccountId startsAt endsAt = [cycle])
    (moved : ∀ row, (change row).utilityAccountId = row.utilityAccountId ∧ (change row).span = (startsAt, endsAt)) :
    CyclesApart after accountId := by
  have stored : cycle ∈ book.cycles := (meeting_iff.mp (only ▸ List.mem_singleton_self cycle)).1
  have account : ∀ row : BillingCycle,
      (if decide (row.id = cycle.id) = true then change row else row).utilityAccountId = row.utilityAccountId := by
    intro row
    split
    · exact (moved row).1
    · rfl
  -- Another cycle of the account that would cross the new window would have been met.
  have away : ∀ row ∈ book.of accountId, ∀ mine : cycle.utilityAccountId = accountId, row.id ≠ cycle.id →
      ¬ Crosses row.span (startsAt, endsAt) := by
    intro row member mine different cross
    obtain ⟨present, owner⟩ := List.mem_filter.mp member
    have met := meeting_iff.mpr ⟨present, (of_decide_eq_true owner).trans mine.symm, cross⟩
    rw [only, List.mem_singleton] at met
    exact different (congrArg BillingCycle.id met)
  have pairs := List.pairwise_map.mp apart
  have ids : (book.of accountId).Pairwise fun first second => first.id ≠ second.id :=
    List.pairwise_map.mp (book.valid.ids.sublist (List.filter_sublist.map _))
  rw [CyclesApart, CycleBook.windowsOf, CycleBook.of, (flush_eq_ok ok).1, List.filter_map, List.map_map, List.pairwise_map]
  have kept : (fun cycle : BillingCycle => decide (cycle.utilityAccountId = accountId)) ∘
      (fun row => if decide (row.id = cycle.id) = true then change row else row) =
        fun cycle => decide (cycle.utilityAccountId = accountId) := by
    funext row
    simp only [Function.comp, account]
  rw [kept]
  refine List.Pairwise.imp_of_mem ?_ (pairs.and ids)
  intro first second firstStored secondStored both
  have mineOf : ∀ row ∈ book.of accountId, row.id = cycle.id → cycle.utilityAccountId = accountId := by
    intro row member same
    obtain ⟨present, owner⟩ := List.mem_filter.mp member
    obtain rfl := List.inj_on_of_nodup_map book.valid.ids present stored same
    exact of_decide_eq_true owner
  simp only [Function.comp, decide_eq_true_eq]
  by_cases firstMoved : first.id = cycle.id
  · have secondKept : second.id ≠ cycle.id := fun same => both.2 (firstMoved.trans same.symm)
    rw [if_pos firstMoved, if_neg secondKept, (moved first).2]
    exact fun cross => away second secondStored (mineOf first firstStored firstMoved) secondKept cross.symm
  · rw [if_neg firstMoved]
    by_cases secondMoved : second.id = cycle.id
    · rw [if_pos secondMoved, (moved second).2]
      exact away first firstStored (mineOf second secondStored secondMoved) firstMoved
    · rw [if_neg secondMoved]
      exact both.1

/-- New dates keep the cycles apart when they meet at most one. -/
theorem datedCycle_apart {target id : String} {startsAt endsAt : Int} {change : BillingCycle → BillingCycle}
    (ok : datedCycle book target startsAt endsAt id now change = .ok after) (apart : CyclesApart book accountId)
    (few : ¬ 1 < (book.meeting target startsAt endsAt).length)
    (moved : ∀ row, (change row).utilityAccountId = row.utilityAccountId ∧ (change row).span = (startsAt, endsAt)) :
    CyclesApart after accountId := by
  unfold datedCycle at ok
  split at ok
  · next none =>
      refine addCycle_apart ok apart fun mine stored member cross => ?_
      rw [(moved _).1] at mine
      rw [(moved _).2] at cross
      obtain ⟨row, present, rfl⟩ := List.mem_map.mp member
      obtain ⟨kept, owner⟩ := List.mem_filter.mp present
      have met := meeting_iff.mpr ⟨kept, (of_decide_eq_true owner).trans mine.symm, cross⟩
      rw [none] at met
      cases met
  · next cycle rest met =>
      have alone : rest = [] := by
        rw [met, List.length_cons] at few
        exact List.length_eq_zero_iff.mp (by omega)
      rw [alone] at met
      have owner := (meeting_iff.mp (met ▸ List.mem_singleton_self cycle)).2.1
      exact moveCycle_apart ok apart (owner ▸ met) moved

theorem importCycleDates_apart {target : String} {row : (Int × Int) × String}
    (ok : importCycleDates target now book row = .ok after) (apart : CyclesApart book accountId) :
    CyclesApart after accountId := by
  obtain ⟨_, ok⟩ := guardAgainst_bind.mp ok
  obtain ⟨few, ok⟩ := guardAgainst_bind.mp ok
  exact datedCycle_apart ok apart few fun _ => ⟨rfl, rfl⟩

theorem reopenCycles_windows {target : String} {change : BillingCycle → BillingCycle} {window : Int × Int}
    (ok : reopenCycles target change book window = .ok after)
    (same : ∀ row, (change row).utilityAccountId = row.utilityAccountId ∧ (change row).span = row.span) :
    after.windowsOf accountId = book.windowsOf accountId := updateCycles_windows ok same

theorem calculateCycle_windows {calculation : CycleCalculation} {available : Bool}
    (ok : calculateCycle book cycle calculation now = .ok (available, after)) :
    after.windowsOf accountId = book.windowsOf accountId := by
  cases calculation with
  | unavailable =>
      cases ok
      rfl
  | raised failure => cases ok
  | computed usageSource segments summaries definitionMissing =>
      obtain ⟨_, ok⟩ := guardAgainst_bind.mp ok
      obtain ⟨middle, updated, ok⟩ := bind_eq_ok.mp ok
      obtain ⟨_, ok⟩ := guardAgainst_bind.mp ok
      cases ok
      have same : middle.windowsOf accountId = book.windowsOf accountId :=
        updateCycles_windows updated fun _ => ⟨rfl, rfl⟩
      rw [← same]
      rfl

/-- The cycle of an instant is created where the account is clear, and not for another account. -/
theorem currentBillingCycle_apart {account : CycleAccount} {instant : Int} {id : String}
    (ok : currentBillingCycle book account instant id now = .ok (cycle, after)) (apart : CyclesApart book accountId)
    (clear : account.id = accountId → ClearAt book account instant) : CyclesApart after accountId := by
  unfold currentBillingCycle at ok
  split at ok
  · cases ok
    exact apart
  · next missing =>
      obtain ⟨stored, added, ok⟩ := bind_eq_ok.mp ok
      cases ok
      refine addCycle_apart added apart fun mine => ?_
      rcases clear mine with ⟨window, held, inside⟩ | free
      · -- A cycle that contains the instant would have been returned.
        obtain ⟨row, present, rfl⟩ := List.mem_map.mp held
        have chosen : row ∈ ((book.of account.id).filter fun cycle => cycle.Holds instant).insertionSort Preferred := by
          rw [List.mem_insertionSort]
          exact List.mem_filter.mpr ⟨present, decide_eq_true (show row.Holds instant from inside)⟩
        rw [List.head?_eq_none_iff.mp missing] at chosen
        cases chosen
      · rw [← mine]
        exact free

theorem currentBillingCycle_foreign {account : CycleAccount} {instant : Int} {id : String}
    (ok : currentBillingCycle book account instant id now = .ok (cycle, after)) (foreign : account.id ≠ accountId) :
    after.windowsOf accountId = book.windowsOf accountId := by
  unfold currentBillingCycle at ok
  split at ok
  · cases ok
    rfl
  · obtain ⟨stored, added, ok⟩ := bind_eq_ok.mp ok
    cases ok
    rw [addCycle_windows added, if_neg (show (generatedCycle account instant id now).utilityAccountId ≠ accountId from foreign),
      List.append_nil]

/-! ## The operations -/

theorem prepareCurrentCycle_windows {ids : String → String} {account : CycleAccount}
    (ok : prepareCurrentCycle ids now book account = .ok after) (foreign : account.id ≠ accountId) :
    after.windowsOf accountId = book.windowsOf accountId := by
  obtain ⟨⟨cycle, middle⟩, current, ok⟩ := bind_eq_ok.mp ok
  have same : middle.windowsOf accountId = book.windowsOf accountId := currentBillingCycle_foreign current foreign
  dsimp only at ok
  split at ok
  · exact (updateCycles_windows ok fun _ => ⟨rfl, rfl⟩).trans same
  · cases ok
    exact same

theorem prepareCurrentCycle_apart {ids : String → String} {account : CycleAccount}
    (ok : prepareCurrentCycle ids now book account = .ok after) (apart : CyclesApart book accountId)
    (clear : account.id = accountId → ClearAt book account now) : CyclesApart after accountId := by
  obtain ⟨⟨cycle, middle⟩, current, ok⟩ := bind_eq_ok.mp ok
  have kept : CyclesApart middle accountId := currentBillingCycle_apart current apart clear
  dsimp only at ok
  split at ok
  · rw [CyclesApart, updateCycles_windows ok fun _ => ⟨rfl, rfl⟩]
    exact kept
  · cases ok
    exact kept

theorem ClearAt.congr {account : CycleAccount} {instant : Int} (clear : ClearAt book account instant)
    (same : after.windowsOf account.id = book.windowsOf account.id) : ClearAt after account instant := by
  unfold ClearAt Clear
  rw [same]
  exact clear

/-- Every account comes up once, so its own windows are untouched until then. -/
theorem prepareCycles_apart {ids : String → String} {accounts : List CycleAccount}
    (distinct : (accounts.map CycleAccount.id).Nodup) (ok : accounts.foldlM (prepareCurrentCycle ids now) book = .ok after)
    (apart : CyclesApart book accountId) (clear : ∀ account ∈ accounts, account.id = accountId → ClearAt book account now) :
    CyclesApart after accountId := by
  induction accounts generalizing book with
  | nil =>
      cases ok
      exact apart
  | cons account rest ih =>
      rw [List.foldlM_cons] at ok
      obtain ⟨middle, first, ok⟩ := bind_eq_ok.mp ok
      rw [List.map_cons, List.nodup_cons] at distinct
      have kept := prepareCurrentCycle_apart first apart (clear account List.mem_cons_self)
      refine ih distinct.2 ok kept fun other member mine => ?_
      -- The account that has just come up has another id.
      have foreign : account.id ≠ other.id := fun same => distinct.1 (same ▸ List.mem_map_of_mem member)
      exact (clear other (List.mem_cons_of_mem _ member) mine).congr (prepareCurrentCycle_windows first foreign)

theorem processRecalculation_windows {calculations : String → CycleCalculation}
    (ok : processRecalculation calculations now book cycle = .ok after) :
    after.windowsOf accountId = book.windowsOf accountId := by
  unfold processRecalculation at ok
  split at ok
  · exact updateCycles_windows ok fun _ => ⟨rfl, rfl⟩
  · obtain ⟨⟨available, middle⟩, calculated, ok⟩ := bind_eq_ok.mp ok
    have same : middle.windowsOf accountId = book.windowsOf accountId := calculateCycle_windows calculated
    dsimp only at ok
    split at ok
    · cases ok
      exact same
    · exact (updateCycles_windows ok fun _ => ⟨rfl, rfl⟩).trans same

theorem foldlM_windows {Item : Type} {step : CycleBook → Item → Except Failure CycleBook} {items : List Item}
    (each : ∀ book item after, step book item = .ok after → after.windowsOf accountId = book.windowsOf accountId)
    (ok : items.foldlM step book = .ok after) : after.windowsOf accountId = book.windowsOf accountId :=
  foldlM_invariant (fun state => state.windowsOf accountId = book.windowsOf accountId) items rfl
    (fun state item next _ stepped kept => (each state item next stepped).trans kept) ok

theorem requireAccount_eq_ok {account : CycleAccount} (ok : requireAccount book accountId = .ok account) :
    account ∈ book.account? accountId ∧ account.id = accountId := by
  have found := required_eq_ok.mp ok
  exact ⟨found, by simpa using List.find?_some found⟩

theorem reopenAll_apart {target : String} {change : BillingCycle → BillingCycle} {windows : List (Int × Int)}
    (ok : windows.foldlM (reopenCycles target change) book = .ok after) (apart : CyclesApart book accountId)
    (same : ∀ row, (change row).utilityAccountId = row.utilityAccountId ∧ (change row).span = row.span) :
    CyclesApart after accountId := by
  rw [CyclesApart, foldlM_windows (fun _ _ _ stepped => reopenCycles_windows stepped same) ok]
  exact apart

theorem importUsage_apart {digest : ImportKind → String → List ImportRow → String} {request : ImportRequest}
    {id : String} {ids : Nat → String} (ok : importUsage digest book request id ids now = .ok after)
    (apart : CyclesApart book accountId) : CyclesApart after accountId := by
  obtain ⟨rows, _, ok⟩ := bind_eq_ok.mp ok
  simp only at ok
  split at ok
  · refine foldlM_invariant (fun state => CyclesApart state accountId) _ ?_ ?_ ok
    · exact apart
    · exact fun _ _ _ _ stepped kept => importCycleDates_apart stepped kept
  · exact reopenAll_apart ok apart fun _ => ⟨rfl, rfl⟩

theorem reverseUsageImport_apart {target importId : String} (ok : reverseUsageImport book target importId now = .ok after)
    (apart : CyclesApart book accountId) : CyclesApart after accountId := by
  obtain ⟨account, _, ok⟩ := bind_eq_ok.mp ok
  obtain ⟨item, _, ok⟩ := bind_eq_ok.mp ok
  simp only at ok
  split at ok
  · cases ok
    exact apart
  · obtain ⟨_, ok⟩ := guardAgainst_bind.mp ok
    exact reopenAll_apart ok apart fun _ => ⟨rfl, rfl⟩

theorem approveCycleDraft_apart {draft : CycleDraft} {id : String} (ok : approveCycleDraft book draft id now = .ok after)
    (apart : CyclesApart book accountId)
    (separate : (Operation.approveCycleDraft draft id now).Separate accountId book) : CyclesApart after accountId := by
  obtain ⟨account, found, ok⟩ := bind_eq_ok.mp ok
  obtain ⟨approved, ok⟩ := guardAgainst_bind.mp ok
  split at ok
  · cases ok
    exact apart
  · next fresh =>
      obtain ⟨⟨startsAt, endsAt⟩, dated, ok⟩ := bind_eq_ok.mp ok
      have dates : draft.startsAt = some startsAt ∧ draft.endsAt = some endsAt := by
        unfold draftDates at dated
        split at dated
        · next starts ends =>
            cases dated
            exact ⟨starts, ends⟩
        · cases dated
      simp only [applyDraftDates] at ok
      split at ok
      · refine addCycle_apart ok apart fun mine => ?_
        have owner : draft.accountId = accountId := (requireAccount_eq_ok found).2.symm.trans mine
        exact separate owner (by simpa using approved) (by simpa using fresh) startsAt dates.1 endsAt dates.2
      · obtain ⟨_, ok⟩ := guardAgainst_bind.mp ok
        rw [CyclesApart, updateCycles_windows ok fun _ => ⟨rfl, rfl⟩]
        exact apart

theorem perform_apart {digest : ImportKind → String → List ImportRow → String} {operation : Operation}
    (ok : operation.perform digest book = .ok after) (apart : CyclesApart book accountId)
    (separate : operation.Separate accountId book) : CyclesApart after accountId := by
  cases operation with
  | currentBillingCycle target instant id now =>
      obtain ⟨account, found, ok⟩ := bind_eq_ok.mp ok
      obtain ⟨⟨cycle, middle⟩, current, ok⟩ := bind_eq_ok.mp ok
      cases ok
      obtain ⟨present, named⟩ := requireAccount_eq_ok found
      exact currentBillingCycle_apart current apart fun mine => separate (named.symm.trans mine) account present
  | enterManualUsage request id now =>
      obtain ⟨account, found, ok⟩ := bind_eq_ok.mp ok
      obtain ⟨present, named⟩ := requireAccount_eq_ok found
      split at ok
      · cases ok
        exact apart
      · obtain ⟨⟨cycle, middle⟩, current, ok⟩ := bind_eq_ok.mp ok
        cases ok
        have kept : CyclesApart middle accountId :=
          currentBillingCycle_apart current apart fun mine => separate (named.symm.trans mine) account present
        exact kept
  | importUsage request id ids now => exact importUsage_apart ok apart
  | reverseUsageImport target importId now => exact reverseUsageImport_apart ok apart
  | overrideBillingCycle request id now =>
      obtain ⟨account, _, ok⟩ := bind_eq_ok.mp ok
      obtain ⟨_, ok⟩ := guardAgainst_bind.mp ok
      obtain ⟨few, ok⟩ := guardAgainst_bind.mp ok
      exact datedCycle_apart ok apart few fun _ => ⟨rfl, rfl⟩
  | approveCycleDraft draft id now => exact approveCycleDraft_apart ok apart separate
  | recalculateCycle target cycleId calculation now =>
      obtain ⟨account, _, ok⟩ := bind_eq_ok.mp ok
      obtain ⟨cycle, _, ok⟩ := bind_eq_ok.mp ok
      obtain ⟨⟨available, last⟩, calculated, ok⟩ := bind_eq_ok.mp ok
      cases ok
      rw [CyclesApart, calculateCycle_windows calculated]
      exact apart
  | recalculateCurrentCycle target id calculation now =>
      obtain ⟨account, found, ok⟩ := bind_eq_ok.mp ok
      obtain ⟨⟨current, middle⟩, opened, ok⟩ := bind_eq_ok.mp ok
      obtain ⟨cycle, _, ok⟩ := bind_eq_ok.mp ok
      obtain ⟨⟨available, last⟩, calculated, ok⟩ := bind_eq_ok.mp ok
      cases ok
      obtain ⟨present, named⟩ := requireAccount_eq_ok found
      rw [CyclesApart, calculateCycle_windows calculated]
      exact currentBillingCycle_apart opened apart fun mine => separate (named.symm.trans mine) account present
  | finalizeCycle target cycleId calculation hash now =>
      obtain ⟨account, _, ok⟩ := bind_eq_ok.mp ok
      obtain ⟨cycle, _, ok⟩ := bind_eq_ok.mp ok
      split at ok
      · cases ok
        exact apart
      · obtain ⟨⟨available, middle⟩, calculated, ok⟩ := bind_eq_ok.mp ok
        obtain ⟨_, ok⟩ := guardAgainst_bind.mp ok
        rw [CyclesApart, updateCycles_windows ok fun _ => ⟨rfl, rfl⟩, calculateCycle_windows calculated]
        exact apart
  | processTierRecalculations ids calculations limit now =>
      obtain ⟨prepared, first, ok⟩ := bind_eq_ok.mp ok
      rw [CyclesApart, foldlM_windows (fun _ _ _ stepped => processRecalculation_windows stepped) ok]
      refine prepareCycles_apart (book.accountIds.sublist (List.filter_sublist.map _)) first apart fun account member mine => ?_
      obtain ⟨stored, configured⟩ := List.mem_filter.mp member
      exact separate account stored mine configured
  | ingestReadings target windows now =>
      change ingestReadings book target windows now = .ok after at ok
      unfold ingestReadings at ok
      split at ok
      · rw [CyclesApart, reopenCycles_windows ok fun _ => ⟨rfl, rfl⟩]
        exact apart
      · cases ok
        exact apart
  | changeStartDay target day =>
      cases ok
      exact apart

/-- From an account without cycles, any operations whose unchecked windows are clear of the stored ones leave the
cycles of the account apart. -/
theorem cycles_never_overlap (digest : ImportKind → String → List ImportRow → String) (book : CycleBook)
    (accountId : String) (empty : book.of accountId = []) (run : List Operation)
    (separate : ∀ earlier operation later, run = earlier ++ operation :: later →
      operation.Separate accountId (earlier.foldl (Operation.apply digest) book)) :
    SeparatedCycles (run.foldl (Operation.apply digest) book) accountId := by
  refine separatedCycles_of_apart (foldl_guarded (P := fun state => CyclesApart state accountId)
    (G := fun state (operation : Operation) => operation.Separate accountId state) ?_ ?_ separate)
  · rw [CyclesApart, CycleBook.windowsOf, empty]
    exact List.Pairwise.nil
  · intro state operation apart clear
    unfold Operation.apply
    cases done : operation.perform digest state with
    | error failure => exact apart
    | ok after => exact perform_apart done apart clear

/-- One account on calendar months, without cycles. -/
def freshAccount : CycleBook where
  accounts := [{ id := "account", zone := Zone.utc, billingCycleStartDay := ⟨1, by decide⟩ }]
  accountIds := by decide
  valid := by decide

/-- A bill from the tenth of January to the ninth of February. -/
def winterBill : CycleDraft :=
  { accountId := "account", approved := true, startsAt := some (9 * dayLength), endsAt := some (39 * dayLength) }

def januaryCycle : Operation := .currentBillingCycle "account" 0 "january" 0

/-- The bill is approved first, and the cycle of March, which it does not reach, is generated afterwards. -/
theorem cycles_never_overlap_of_clear_months :
    SeparatedCycles ([.approveCycleDraft winterBill "bill" 0, .currentBillingCycle "account" (60 * dayLength) "march" 0].foldl
      (Operation.apply fun _ _ _ => "") freshAccount) "account" := by
  apply cycles_never_overlap (fun _ _ _ => "") freshAccount "account" rfl
  have billed : CycleBook.windowsOf (Operation.apply (fun _ _ _ => "") freshAccount (.approveCycleDraft winterBill "bill" 0))
      "account" = [(9 * dayLength, 39 * dayLength)] := by
    decide
  refine forall_splits_cons.mpr ⟨?_, forall_splits_cons.mpr ⟨?_, forall_splits_nil⟩⟩
  · intro _ _ _ startsAt _ endsAt _ stored member
    cases member
  · intro _ account present
    have march : expectedCycleBounds account (60 * dayLength) = (59 * dayLength, 90 * dayLength) := by
      cases present
      decide
    refine .inr fun stored member cross => ?_
    have named : account.id = "account" := by
      cases present
      rfl
    rw [named] at member
    have bill := List.mem_singleton.mp (billed ▸ member)
    rw [bill, march] at cross
    exact absurd cross (by decide)

/-- The cycle of January is generated, and a bill that reaches into February is approved. -/
theorem generated_cycle_overlaps_bill :
    ¬ ∀ (digest : ImportKind → String → List ImportRow → String) (book : CycleBook) (accountId : String),
      book.of accountId = [] → ∀ run : List Operation,
        SeparatedCycles (run.foldl (Operation.apply digest) book) accountId := by
  intro always
  have apart := (always (fun _ _ _ => "") freshAccount "account" rfl [januaryCycle, .approveCycleDraft winterBill "bill" 0]).apart
  have windows : CycleBook.windowsOf ([januaryCycle, .approveCycleDraft winterBill "bill" 0].foldl
      (Operation.apply fun _ _ _ => "") freshAccount) "account" =
        [(0, 31 * dayLength), (9 * dayLength, 39 * dayLength)] := by
    decide
  rw [CyclesApart, windows] at apart
  revert apart
  decide

end Changes
end PowerMonitor.Cycles
