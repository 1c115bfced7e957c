import PowerMonitor.Assignments.Timeline

/-! The active rate of an account against the assignment that covers the present.

The three operations decide on the pointer by tests of their own. What they leave agrees with the
timeline unless the row that covers the present is ended in the past by a window that is over already, or
another row is ended in the past.
-/

set_option autoImplicit false
namespace PowerMonitor.Assignments
open Library
open Pricing (UtilityAccount)

/-- Some non-cancelled assignment of the account gives the version at the instant. -/
def RateBook.Prices (book : RateBook) (accountId : String) (instant : Int) (versionId : String) : Prop :=
  ∃ row ∈ book.active accountId, row.Covers instant ∧ row.rateVersionId = versionId

/-- The active rate of the account is the one its assignments give now, and none when they give none. -/
def RateBook.Coherent (book : RateBook) (accountId : String) (now : Int) : Prop :=
  ∃ account, book.account? accountId = some account ∧
    ∀ versionId, account.activeRateVersionId = some versionId ↔ book.Prices accountId now versionId

/-! ## Rows cut at an instant -/

/-- The row is cancelled if it starts at the instant and ends there if not. -/
structure CutAt (instant : Int) (row next : RateAssignment) : Prop where
  utilityAccountId : next.utilityAccountId = row.utilityAccountId
  rateVersionId : next.rateVersionId = row.rateVersionId
  cancelled : row.effectiveFrom = instant → next.cancelledAt ≠ none
  ended : row.effectiveFrom ≠ instant → next.cancelledAt = row.cancelledAt ∧ next.window = row.window.cut instant

theorem replaceRow_cutAt (request : AssignmentRequest) (now : Int) (row : RateAssignment) :
    CutAt request.effectiveFrom row (replaceRow request now row) := by
  unfold replaceRow
  split
  · next same => exact ⟨rfl, rfl, by simp, fun differs => absurd same differs⟩
  · next differs => exact ⟨rfl, rfl, fun same => absurd same differs, fun _ => ⟨rfl, rfl⟩⟩

theorem endRow_cutAt (request : EndRequest) (now : Int) (row : RateAssignment) :
    CutAt request.effectiveAt row (endRow request now row) := by
  unfold endRow
  split
  · next same => exact ⟨rfl, rfl, by simp, fun differs => absurd same differs⟩
  · next differs => exact ⟨rfl, rfl, fun same => absurd same differs, fun _ => ⟨rfl, rfl⟩⟩

section Cutting
variable {cut instant : Int} {row next : RateAssignment} {accountId : String}

/-- Of a row that covers the instant of the cut, the part before it remains. -/
theorem CutAt.covers_iff (cutAt : CutAt cut row next) (inside : row.Covers cut) (mine : row.Of accountId) :
    next.Of accountId ∧ next.Covers instant ↔ row.Covers instant ∧ instant < cut := by
  have bounds : ∀ finish ∈ row.window.finish, cut ≤ finish := fun finish closes => (inside.2 finish closes).le
  by_cases same : row.effectiveFrom = cut
  · constructor
    · rintro ⟨kept, _⟩
      exact absurd kept.2 (cutAt.cancelled same)
    · rintro ⟨covers, before⟩
      have started : row.effectiveFrom ≤ instant := covers.1
      omega
  · obtain ⟨state, window⟩ := cutAt.ended same
    have kept : next.Of accountId := ⟨cutAt.utilityAccountId.trans mine.1, state.trans mine.2⟩
    rw [RateAssignment.Covers, window, Window.contains_cut bounds]
    exact and_iff_right kept

/-- The prices a table gives after some of its rows have been cut. -/
theorem prices_cut (rows : List RateAssignment) (instant : Int) (versionId : String) {chosen : List RateAssignment}
    {write : RateAssignment → RateAssignment} (cuts : ∀ row ∈ chosen, CutAt cut row (write row))
    (inside : ∀ row ∈ chosen, row.Covers cut ∧ row.Of accountId) :
    (∃ item ∈ rows.map (fun row => if row ∈ chosen then write row else row),
      item.Of accountId ∧ item.Covers instant ∧ item.rateVersionId = versionId) ↔
    ∃ row ∈ rows, row.Of accountId ∧ row.Covers instant ∧ row.rateVersionId = versionId ∧
      (row ∈ chosen → instant < cut) := by
  constructor
  · rintro ⟨item, member, mine, covers, version⟩
    obtain ⟨row, stored, rfl⟩ := List.mem_map.mp member
    by_cases written : row ∈ chosen
    · rw [if_pos written] at mine covers version
      obtain ⟨covered, owned⟩ := inside row written
      have remains := ((cuts row written).covers_iff covered owned).mp ⟨mine, covers⟩
      exact ⟨row, stored, owned, remains.1, (cuts row written).rateVersionId ▸ version, fun _ => remains.2⟩
    · rw [if_neg written] at mine covers version
      exact ⟨row, stored, mine, covers, version, fun chosen => absurd chosen written⟩
  · rintro ⟨row, stored, mine, covers, version, before⟩
    refine ⟨_, List.mem_map_of_mem stored, ?_⟩
    by_cases written : row ∈ chosen
    · rw [if_pos written]
      obtain ⟨covered, owned⟩ := inside row written
      have remains := ((cuts row written).covers_iff covered owned).mpr ⟨covers, before written⟩
      exact ⟨remains.1, remains.2, (cuts row written).rateVersionId.trans version⟩
    · rw [if_neg written]
      exact ⟨mine, covers, version⟩

end Cutting

section Operations
variable {services : Services} {book : RateBook} {now instant : Int} {versionId : String}

theorem RateBook.prices_iff {accountId : String} : book.Prices accountId instant versionId ↔
    ∃ row ∈ book.rateAssignments, row.Of accountId ∧ row.Covers instant ∧ row.rateVersionId = versionId := by
  simp only [RateBook.Prices, RateBook.mem_active, and_assoc]

theorem prices_place {request : AssignmentRequest} {placement : Placement} (accepted : Accepted book request placement)
    (id : String) :
    (book.place request id now placement).Prices request.accountId instant versionId ↔
      ((newAssignment request id now placement).Covers instant ∧ request.rateVersionId = versionId) ∨
      ∃ row ∈ book.active request.accountId, row.Covers instant ∧ row.rateVersionId = versionId ∧
        (row ∈ placement.replaced → instant < request.effectiveFrom) := by
  have cuts := prices_cut book.rateAssignments instant versionId
    (fun row (_ : row ∈ placement.replaced) => replaceRow_cutAt request now row)
    (fun row member => ⟨(accepted.placed.replaced row member).2.2.2,
      (RateBook.mem_active.mp (accepted.placed.replaced row member).1).2⟩)
  rw [RateBook.prices_iff, place_rateAssignments, replacedBook]
  simp only [List.mem_append, List.mem_singleton, or_and_right, exists_or, exists_eq_left, cuts, RateBook.mem_active,
    and_assoc]
  have mine : (newAssignment request id now placement).Of request.accountId := ⟨rfl, rfl⟩
  rw [or_comm, and_iff_right mine]
  rfl

theorem prices_endCurrent {request : EndRequest} {current : RateAssignment} (mine : current ∈ book.active request.accountId)
    (covers : current.Covers request.effectiveAt) :
    (book.endCurrent request now current).Prices request.accountId instant versionId ↔
      ∃ row ∈ book.active request.accountId, row.Covers instant ∧ row.rateVersionId = versionId ∧
        (row = current → instant < request.effectiveAt) := by
  have inside : ∀ row ∈ [current], row.Covers request.effectiveAt ∧ row.Of request.accountId := by
    intro row member
    rw [List.mem_singleton.mp member]
    exact ⟨covers, (RateBook.mem_active.mp mine).2⟩
  have cuts := prices_cut book.rateAssignments instant versionId
    (fun row (_ : row ∈ [current]) => endRow_cutAt request now row) inside
  simp only [List.mem_singleton] at cuts
  rw [RateBook.prices_iff]
  simp only [RateBook.mem_active, and_assoc]
  exact cuts

/-! ## The pointer -/

theorem place_account {request : AssignmentRequest} {account : UtilityAccount} (id : String) (now : Int)
    (placement : Placement)
    (found : book.account? request.accountId = some account) :
    ∃ after, (book.place request id now placement).account? request.accountId = some after ∧
      after.activeRateVersionId = if (newAssignment request id now placement).Covers now then some request.rateVersionId
        else account.activeRateVersionId :=
  ⟨_, RateBook.account?_updateAccount found fun _ => rfl, rfl⟩

theorem endCurrent_account {request : EndRequest} {account : UtilityAccount} (current : RateAssignment)
    (found : book.account? request.accountId = some account) :
    ∃ after, (book.endCurrent request now current).account? request.accountId = some after ∧
      after.activeRateVersionId = if request.effectiveAt ≤ now then none else account.activeRateVersionId :=
  ⟨_, RateBook.account?_updateAccount found fun _ => rfl, rfl⟩

theorem RateBook.coherent_iff {accountId : String} {account : UtilityAccount}
    (found : book.account? accountId = some account) : book.Coherent accountId now ↔
      ∀ versionId, account.activeRateVersionId = some versionId ↔ book.Prices accountId now versionId := by
  constructor
  · rintro ⟨other, same, agrees⟩
    obtain rfl := Option.some.inj (found.symm.trans same)
    exact agrees
  · exact fun agrees => ⟨account, found, agrees⟩

/-- Leaving the pointer alone is right exactly when the row that covers the present stays in force. -/
theorem unmoved_iff {accountId : String} {account : UtilityAccount} {Written : RateAssignment → Prop} {cut : Int}
    (timeline : book.Timeline accountId) (below : now < datetimeMax)
    (coherent : ∀ versionId, account.activeRateVersionId = some versionId ↔ book.Prices accountId now versionId) :
    (∀ versionId, account.activeRateVersionId = some versionId ↔
      ∃ row ∈ book.active accountId, row.Covers now ∧ row.rateVersionId = versionId ∧ (Written row → now < cut)) ↔
    ¬ ∃ row ∈ book.active accountId, Written row ∧ row.Covers now ∧ cut ≤ now := by
  constructor
  · rintro agrees ⟨row, mine, written, covers, passed⟩
    have active := (coherent row.rateVersionId).mpr ⟨row, mine, covers, rfl⟩
    obtain ⟨other, otherMine, otherCovers, _, before⟩ := (agrees row.rateVersionId).mp active
    obtain rfl := timeline.apart.unique below mine otherMine covers otherCovers
    exact absurd (before written) passed.not_gt
  · intro stays versionId
    rw [coherent]
    constructor
    · rintro ⟨row, mine, covers, version⟩
      refine ⟨row, mine, covers, version, fun written => ?_⟩
      by_contra passed
      exact stays ⟨row, mine, written, covers, not_lt.mp passed⟩
    · rintro ⟨row, mine, covers, version, _⟩
      exact ⟨row, mine, covers, version⟩

/-- The new window is over by now exactly when an end in the past was asked for. -/
theorem requested_end_of_passed {request : AssignmentRequest} {placement : Placement} {id : String}
    (accepted : Accepted book request placement) (timeline : book.Timeline request.accountId) (below : now < datetimeMax)
    {row : RateAssignment} (replaced : row ∈ placement.replaced) (covers : row.Covers now)
    (started : request.effectiveFrom ≤ now) (uncovered : ¬ (newAssignment request id now placement).Covers now) :
    ∃ finish ∈ request.effectiveTo, finish ≤ now := by
  have ended : ∃ finish ∈ (newAssignment request id now placement).effectiveTo, finish ≤ now := by
    by_contra later
    refine uncovered ⟨started, fun finish closes => ?_⟩
    by_contra passed
    exact later ⟨finish, closes, not_lt.mp passed⟩
  obtain ⟨finish, closes, passed⟩ := ended
  cases future : placement.nextFutureStart with
  | none =>
      simp only [newAssignment, future] at closes
      exact ⟨finish, closes, passed⟩
  | some start =>
      simp only [newAssignment, future, Option.mem_some_iff] at closes
      subst closes
      -- A plan scheduled between the two would lie inside the row that covers both.
      obtain ⟨_, later, _, item, scheduled, starts⟩ := accepted.placed.next start future
      obtain ⟨mine, _, _, atStart⟩ := accepted.placed.replaced row replaced
      have between : row.Covers start :=
        ⟨atStart.1.trans later.le, fun finish closes => passed.trans_lt (covers.2 finish closes)⟩
      have inside : item.Covers start := by
        refine ⟨starts.le, fun finish closes => ?_⟩
        exact starts ▸ timeline.proper item scheduled finish closes
      obtain rfl := timeline.apart.unique (passed.trans_lt below) mine scheduled between inside
      have first : row.effectiveFrom ≤ request.effectiveFrom := atStart.1
      omega

/-! ## The exact condition -/

/-- The operation does not end the current plan behind the pointer's back: it is no replacement of the
row that covers the present by a window already over, and no past end of a row other than that one. -/
def Operation.KeepsActive (book : RateBook) : Operation → Prop
  | assignVersion request _ now => book.replayed? request ≠ none ∨
      ¬ (request.replaceCurrent = true ∧ request.effectiveFrom ≤ now ∧ (∃ finish ∈ request.effectiveTo, finish ≤ now) ∧
        ∃ row ∈ book.active request.accountId, row.Covers request.effectiveFrom ∧ row.Covers now)
  | endAssignment request now =>
      ¬ (request.effectiveAt ≤ now ∧ ∃ row ∈ book.active request.accountId, row.Covers now ∧ ¬ row.Covers request.effectiveAt)
  | resolveAssignmentConflict _ _ => True

theorem place_coherent_iff {request : AssignmentRequest} {placement : Placement} (id : String)
    (accepted : Accepted book request placement) (timeline : book.Timeline request.accountId)
    (coherent : book.Coherent request.accountId now) (below : now < datetimeMax) :
    (book.place request id now placement).Coherent request.accountId now ↔
      ¬ (request.replaceCurrent = true ∧ request.effectiveFrom ≤ now ∧ (∃ finish ∈ request.effectiveTo, finish ≤ now) ∧
        ∃ row ∈ book.active request.accountId, row.Covers request.effectiveFrom ∧ row.Covers now) := by
  obtain ⟨account, found, agrees⟩ := coherent
  obtain ⟨after, present, pointer⟩ := place_account id now placement found
  rw [RateBook.coherent_iff present, pointer]
  by_cases current : (newAssignment request id now placement).Covers now
  · rw [if_pos current]
    refine iff_of_true (fun versionId => ?_) ?_
    · -- Nothing else covers the present beside the new row.
      rw [prices_place accepted]
      constructor
      · rintro same
        exact .inl ⟨current, Option.some.inj same⟩
      · rintro (⟨_, same⟩ | ⟨row, mine, covers, version, before⟩)
        · rw [same]
        · have unwritten : row ∉ placement.replaced := fun written =>
            absurd current.1 (before written).not_ge
          have left : row ∈ (replacedBook book request now placement).active request.accountId := by
            obtain ⟨stored, owned⟩ := RateBook.mem_active.mp mine
            refine RateBook.mem_active.mpr ⟨List.mem_map.mpr ⟨row, stored, if_neg unwritten⟩, owned⟩
          exact absurd (Window.Contains.overlaps covers current below) (newAssignment_separate accepted left)
    · rintro ⟨_, _, ⟨finish, closes, passed⟩, _⟩
      have asked : (newAssignment request id now placement).effectiveTo = some finish := by
        cases future : placement.nextFutureStart with
        | none =>
            simp only [newAssignment, future]
            exact closes
        | some start =>
            rw [(accepted.placed.next start future).1] at closes
            cases closes
      exact absurd (current.2 finish asked) passed.not_gt
  · rw [if_neg current]
    simp only [prices_place accepted, current, false_and, false_or]
    rw [unmoved_iff timeline below agrees]
    apply not_congr
    constructor
    · rintro ⟨row, mine, replaced, covers, passed⟩
      obtain ⟨_, _, replaces, atStart⟩ := accepted.placed.replaced row replaced
      exact ⟨replaces, passed, requested_end_of_passed accepted timeline below replaced covers passed current,
        row, mine, atStart, covers⟩
    · rintro ⟨replaces, passed, _, row, mine, atStart, covers⟩
      have overlap : overlaps row.window request.window :=
        Window.Contains.starts atStart (passed.trans_lt below) accepted.proper
      exact ⟨row, mine, accepted.placed.covering row mine overlap replaces atStart, covers, passed⟩

theorem endCurrent_coherent_iff {request : EndRequest} {current : RateAssignment}
    (mine : current ∈ book.active request.accountId) (covers : current.Covers request.effectiveAt)
    (timeline : book.Timeline request.accountId) (coherent : book.Coherent request.accountId now)
    (below : now < datetimeMax) :
    (book.endCurrent request now current).Coherent request.accountId now ↔
      ¬ (request.effectiveAt ≤ now ∧
        ∃ row ∈ book.active request.accountId, row.Covers now ∧ ¬ row.Covers request.effectiveAt) := by
  obtain ⟨account, found, agrees⟩ := coherent
  obtain ⟨after, present, pointer⟩ := endCurrent_account current found
  rw [RateBook.coherent_iff present, pointer]
  simp only [prices_endCurrent mine covers]
  by_cases passed : request.effectiveAt ≤ now
  · rw [if_pos passed]
    constructor
    · rintro cleared ⟨_, row, rowMine, rowCovers, elsewhere⟩
      have different : row ≠ current := fun same => elsewhere (same ▸ covers)
      have priced := (cleared row.rateVersionId).mpr ⟨row, rowMine, rowCovers, rfl, fun same => absurd same different⟩
      cases priced
    · intro alone versionId
      refine iff_of_false (by simp) ?_
      rintro ⟨row, rowMine, rowCovers, _, before⟩
      by_cases here : row.Covers request.effectiveAt
      · have same := timeline.apart.unique (passed.trans_lt below) rowMine mine here covers
        exact absurd (before same) passed.not_gt
      · exact alone ⟨passed, row, rowMine, rowCovers, here⟩
  · rw [if_neg passed, unmoved_iff timeline below agrees]
    refine iff_of_true ?_ fun ⟨past, _⟩ => passed past
    rintro ⟨_, _, _, _, past⟩
    exact passed past

variable (services book) in
/-- From a coherent account without overlaps, a successful operation leaves the active rate the one that
covers the present if and only if it keeps the current plan in view. -/
theorem active_rate_coherent_iff (operation : Operation) (timeline : book.Timeline operation.accountId)
    (coherent : book.Coherent operation.accountId operation.now) (below : operation.now < datetimeMax)
    (ok : (operation.perform services book).1 = .ok ()) :
    (operation.perform services book).2.Coherent operation.accountId operation.now ↔ operation.KeepsActive book := by
  cases operation with
  | assignVersion request id now =>
      dsimp only [Operation.perform, Operation.KeepsActive, Operation.accountId, Operation.now] at *
      obtain ⟨_, raised⟩ | ⟨_, _, again, replayed⟩ | ⟨fresh, placement, _, accepted, placed⟩ :=
        assignVersion_cases request id
      · rw [raised] at ok
        cases ok
      · rw [replayed, again]
        exact iff_of_true coherent (.inl (by simp))
      · rw [placed, fresh, place_coherent_iff id accepted timeline coherent below]
        simp
  | endAssignment request now =>
      dsimp only [Operation.perform, Operation.KeepsActive, Operation.accountId, Operation.now] at *
      obtain ⟨_, raised⟩ | ⟨_, current, _, mine, covers, ended⟩ := endAssignment_cases request
      · rw [raised] at ok
        cases ok
      · rw [ended]
        exact endCurrent_coherent_iff mine covers timeline coherent below
  | resolveAssignmentConflict request now =>
      dsimp only [Operation.perform, Operation.KeepsActive, Operation.accountId, Operation.now] at *
      obtain ⟨_, raised⟩ | ⟨_, nothing⟩ | ⟨conflicts, _⟩ := resolveAssignmentConflict_cases request
      · rw [raised] at ok
        cases ok
      · rw [nothing]
        exact iff_of_true coherent trivial
      · exact absurd timeline.apart conflicts

end Operations

/-! ## A household after a change of plan -/

/-- The flat plan until 100 and the time-of-use plan since. -/
def changedHousehold : RateBook :=
  { household with
    utilityAccounts := [{ id := "service", siteId := "site", activeRateVersionId := some "tou" }]
    rateAssignments :=
      [{ id := "first", utilityAccountId := "service", rateVersionId := "flat", effectiveFrom := 0, effectiveTo := some 100 },
        { id := "second", utilityAccountId := "service", rateVersionId := "tou", effectiveFrom := 100 }] }

theorem changedHousehold_active : changedHousehold.active "service" = changedHousehold.rateAssignments := by
  decide

theorem changedHousehold_timeline : changedHousehold.Timeline "service" := by
  constructor
  · rw [changedHousehold_active, ← overlappingPairs_eq_nil]
    decide
  · rw [changedHousehold_active]
    simp [changedHousehold, Window.Proper, RateAssignment.window]

theorem changedHousehold_coherent : changedHousehold.Coherent "service" 150 := by
  refine ⟨_, rfl, fun versionId => ?_⟩
  rw [RateBook.Prices, changedHousehold_active]
  simp [changedHousehold, RateAssignment.Covers, RateAssignment.window, Window.Contains]

/-- Ending the current plan at 120. -/
def endsCurrent : Operation := .endAssignment { accountId := "service", effectiveAt := 120, representable := at120 } 150

theorem endsCurrent_coherent :
    (endsCurrent.perform quietServices changedHousehold).2.Coherent "service" 150 := by
  have keeps : endsCurrent.KeepsActive changedHousehold := by
    rintro ⟨_, row, mine, covers, elsewhere⟩
    rw [show ({ accountId := "service", effectiveAt := 120, representable := at120 } : EndRequest).accountId = "service"
      from rfl, changedHousehold_active] at mine
    simp only [changedHousehold, List.mem_cons, List.not_mem_nil, or_false] at mine
    rcases mine with rfl | rfl
    · exact absurd (covers.2 100 rfl) (by decide)
    · exact elsewhere ⟨by decide, by simp [RateAssignment.window]⟩
  exact (active_rate_coherent_iff quietServices changedHousehold endsCurrent changedHousehold_timeline
    changedHousehold_coherent (by decide) (by decide)).mpr keeps

/-- Ending the earlier plan at 50, long after it was replaced. -/
def endsEarlier : Operation := .endAssignment { accountId := "service", effectiveAt := 50, representable := by decide } 150

/-- The end of an earlier plan clears the active rate although the current plan goes on. -/
theorem endsEarlier_clears_active : ¬ ∀ (services : Services) (book : RateBook) (operation : Operation),
    book.Timeline operation.accountId → book.Coherent operation.accountId operation.now →
    operation.now < datetimeMax → (operation.perform services book).1 = .ok () →
    (operation.perform services book).2.Coherent operation.accountId operation.now := by
  intro always
  obtain ⟨account, found, agrees⟩ := always quietServices changedHousehold endsEarlier changedHousehold_timeline
    changedHousehold_coherent (by decide) (by decide)
  have cleared : ((endsEarlier.perform quietServices changedHousehold).2.account? "service").map
      UtilityAccount.activeRateVersionId = some none := by decide
  rw [show endsEarlier.accountId = "service" from rfl] at found
  rw [found, Option.map_some, Option.some.injEq] at cleared
  have priced : (endsEarlier.perform quietServices changedHousehold).2.Prices "service" 150 "tou" := by
    refine ⟨{ id := "second", utilityAccountId := "service", rateVersionId := "tou", effectiveFrom := 100 }, ?_, ?_, rfl⟩
    · decide
    · decide
  have active := (agrees "tou").mpr priced
  rw [cleared] at active
  cases active

end PowerMonitor.Assignments
