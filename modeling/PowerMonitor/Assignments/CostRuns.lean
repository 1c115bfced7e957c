import PowerMonitor.Assignments.Outcomes

/-! Cost runs after a change of the assignments.

A run keeps the version and the window it was created with. A change of the timeline queues the runs of the account
again, and the worker calculates each with its own version. So the costs follow the timeline exactly when no run that
is calculated again has lost the assignment over its window.
-/

set_option autoImplicit false
namespace PowerMonitor.Assignments
open Library
open Pricing (UtilityAccount require require_eq_ok)

/-! ## The worker -/

/-- What the calculation of a job comes to. Rows of one that fails for want of tier segments are kept. -/
structure CostOutcome where
  completed : Bool
  rows : List CostIntervalResult

/-- A job without an account or a version fails. -/
def RateBook.calculated (calculate : CostCalculationRun → CostOutcome) (book : RateBook) (job : CostCalculationRun) :
    CostOutcome :=
  if (book.account? job.utilityAccountId).isSome ∧ (book.version? job.rateVersionId).isSome then calculate job
  else { completed := false, rows := [] }

def RateDesk.processCostJob (calculate : CostCalculationRun → CostOutcome) (desk : RateDesk)
    (job : CostCalculationRun) : RateDesk :=
  let result := desk.book.calculated calculate job
  let status : RunStatus := if result.completed then .completed else .failed
  let desk := desk.updateRuns fun run => if run.id = job.id then status else run.status
  { desk with costRows := desk.costRows ++ result.rows.map fun row => { row with runId := job.id } }

/-- `process_cost_jobs` -/
def RateDesk.processCostJobs (calculate : CostCalculationRun → CostOutcome) (desk : RateDesk)
    (limit : Nat) : RateDesk :=
  ((sortedBy CostCalculationRun.createdAt (desk.costRuns.filter fun run => run.status = .queued)).take limit).foldl
    (RateDesk.processCostJob calculate) desk

/-! ## Changes -/

/-- Where a new window ends a row. -/
def AssignmentRequest.cut? (request : AssignmentRequest) (row : RateAssignment) : Option Int :=
  if request.replaceCurrent ∧ row.utilityAccountId = request.accountId ∧ overlaps row.window request.window ∧
    row.Covers request.effectiveFrom then some request.effectiveFrom else none

/-- A request that changes the timeline of an account and queues its costs. -/
inductive TimelineChange where
  | replaceCurrentAssignment (principal : Principal) (request : ReplaceRequest) (id : String) (now : Int)
  | createRateAssignment (principal : Principal) (request : CreateRequest) (id : String) (now : Int)
  | endCurrentRateAssignment (principal : Principal) (request : EndPayload) (now : Int)
  | patchRateAssignment (principal : Principal) (request : PatchRequest) (now : Int)
  | repairAssignmentConflicts (principal : Principal) (request : RepairPayload) (now : Int)

namespace TimelineChange
variable (services : DeskServices) (desk : RateDesk)

def perform : TimelineChange → Except RequestFailure RateDesk
  | replaceCurrentAssignment principal request id now =>
      (Assignments.replaceCurrentAssignment services desk principal request id now).map Prod.snd
  | createRateAssignment principal request id now =>
      (Assignments.createRateAssignment services desk principal request id now).map Prod.snd
  | endCurrentRateAssignment principal request now =>
      (Assignments.endCurrentRateAssignment services desk principal request now).map Prod.snd
  | patchRateAssignment principal request now => Assignments.patchRateAssignment services desk principal request now
  | repairAssignmentConflicts principal request now =>
      (Assignments.repairAssignmentConflicts services desk principal request now).map Prod.snd

/-- The new window that the request places, unless its key names a row already. -/
def placed? : TimelineChange → Option AssignmentRequest
  | replaceCurrentAssignment principal request _ _ =>
      match desk.book.keyed? request.idempotencyKey with
      | some _ => none
      | none => some (request.toAssignment principal)
  | createRateAssignment principal request _ now =>
      match desk.book.keyed? request.idempotencyKey, request.account? desk.book, request.rateVersionId.filter (· ≠ "") with
      | none, some account, some versionId => some (request.toAssignment principal account.id versionId now)
      | _, _, _ => none
  | _ => none

/-- The instant at which the request ends a row in force. A new window ends the rows that cover its start. -/
def cut? (row : RateAssignment) (change : TimelineChange) : Option Int :=
  match change with
  | endCurrentRateAssignment _ request _ =>
      if (desk.idempotentOperation .assignmentEnded request.idempotencyKey request.accountId).isNone ∧
        row.utilityAccountId = request.accountId ∧ row.Covers request.effectiveAt then some request.effectiveAt else none
  | patchRateAssignment _ request _ => if row.id = request.assignmentId then request.effectiveTo else none
  | repairAssignmentConflicts _ _ _ => none
  | replaceCurrentAssignment principal request id now =>
      ((replaceCurrentAssignment principal request id now).placed? desk).bind fun request => request.cut? row
  | createRateAssignment principal request id now =>
      ((createRateAssignment principal request id now).placed? desk).bind fun request => request.cut? row

/-- The account whose runs are queued, unless the request only answers a repeated one. -/
def queues? : TimelineChange → Option String
  | replaceCurrentAssignment _ request _ _ => if (desk.book.keyed? request.idempotencyKey).isSome then none else some request.accountId
  | createRateAssignment _ request _ _ => (request.account? desk.book).map UtilityAccount.id
  | endCurrentRateAssignment _ request _ =>
      if (desk.idempotentOperation .assignmentEnded request.idempotencyKey request.accountId).isSome then none
      else some request.accountId
  | patchRateAssignment _ request _ => (desk.book.assignment? request.assignmentId).map RateAssignment.utilityAccountId
  | repairAssignmentConflicts _ request _ =>
      if (desk.idempotentOperation .conflictRepaired request.idempotencyKey request.accountId).isSome then none
      else some request.accountId

end TimelineChange

/-! ## Costs that follow the timeline -/

/-- The assignment covers the whole window. -/
def RateAssignment.CoversWindow (row : RateAssignment) (start finish : Int) : Prop :=
  row.effectiveFrom ≤ start ∧ ∀ ends ∈ row.effectiveTo, finish ≤ ends

def RateBook.CoversRun (book : RateBook) (run : CostCalculationRun) : Prop :=
  ∃ row ∈ book.active run.utilityAccountId, row.rateVersionId = run.rateVersionId ∧
    row.CoversWindow run.inputStart run.inputEnd

/-- Every completed run outside the finalized cycles has the version whose assignment covers its window. -/
def RateDesk.CostsFollow (desk : RateDesk) (accountId : String) : Prop :=
  ∀ run ∈ desk.costRuns, run.utilityAccountId = accountId → run.status = .completed → ¬ desk.Protected run →
    desk.book.CoversRun run

instance (row : RateAssignment) (start finish : Int) : Decidable (row.CoversWindow start finish) :=
  inferInstanceAs (Decidable (_ ∧ ∀ ends ∈ row.effectiveTo, _))

instance (book : RateBook) (run : CostCalculationRun) : Decidable (book.CoversRun run) :=
  inferInstanceAs (Decidable (∃ row ∈ _, _))

instance (desk : RateDesk) (accountId : String) : Decidable (desk.CostsFollow accountId) :=
  inferInstanceAs (Decidable (∀ run ∈ _, _))

/-- The runs of the account in its finalized cycles keep their status, version and rows. -/
def KeepsFinalizedRuns (before after : RateDesk) (accountId : String) : Prop :=
  ∀ run ∈ before.costRuns, run.utilityAccountId = accountId → before.Protected run →
    run ∈ after.costRuns ∧ (after.costRows.filter fun row => row.runId = run.id) =
      before.costRows.filter fun row => row.runId = run.id

/-- The assignment over the run's window is left in force that long, or the window lies in the new one, up to the next
scheduled assignment. -/
def TimelineChange.LeavesCovered (desk : RateDesk) (change : TimelineChange) (run : CostCalculationRun) : Prop :=
  (∃ row ∈ desk.book.active run.utilityAccountId, row.rateVersionId = run.rateVersionId ∧
      row.CoversWindow run.inputStart run.inputEnd ∧ ∀ instant ∈ change.cut? desk row, run.inputEnd ≤ instant) ∨
    ∃ request ∈ change.placed? desk, request.accountId = run.utilityAccountId ∧ request.rateVersionId = run.rateVersionId ∧
      request.effectiveFrom ≤ run.inputStart ∧ (∀ finish ∈ request.effectiveTo, run.inputEnd ≤ finish) ∧
      ∀ row ∈ desk.book.active run.utilityAccountId, overlaps row.window request.window →
        request.effectiveFrom < row.effectiveFrom → run.inputEnd ≤ row.effectiveFrom

/-- The run is calculated after the change: it is queued by it, or was before. -/
def TimelineChange.Recalculates (calculate : CostCalculationRun → CostOutcome) (desk : RateDesk)
    (change : TimelineChange) (run : CostCalculationRun) : Prop :=
  (change.queues? desk = some run.utilityAccountId ∨ run.status = .queued) ∧
    (desk.book.calculated calculate (run.withStatus .queued)).completed = true

/-! ## What the worker leaves -/

section Worker
variable {calculate : CostCalculationRun → CostOutcome} {desk : RateDesk}

/-- The run as it is once it has been calculated. -/
def RateBook.settled (calculate : CostCalculationRun → CostOutcome) (book : RateBook)
    (run : CostCalculationRun) : CostCalculationRun :=
  if run.status = .queued then run.withStatus (if (book.calculated calculate run).completed then .completed else .failed)
  else run

/-- What a pass of the worker keeps: the rates, the finalized cycles and what every run comes to. -/
structure Worked (calculate : CostCalculationRun → CostOutcome) (before after : RateDesk) : Prop where
  book : after.book = before.book
  finalizedCycles : after.finalizedCycles = before.finalizedCycles
  settled : after.costRuns.map (before.book.settled calculate) = before.costRuns.map (before.book.settled calculate)
  idle : ∀ run ∈ before.costRuns, run.status ≠ .queued → run ∈ after.costRuns ∧
    (after.costRows.filter fun row => row.runId = run.id) = before.costRows.filter fun row => row.runId = run.id

theorem Worked.refl (desk : RateDesk) : Worked calculate desk desk :=
  ⟨rfl, rfl, rfl, fun _ stored _ => ⟨stored, rfl⟩⟩

theorem Worked.trans {before middle after : RateDesk} (first : Worked calculate before middle)
    (second : Worked calculate middle after) : Worked calculate before after where
  book := second.book.trans first.book
  finalizedCycles := second.finalizedCycles.trans first.finalizedCycles
  settled := by
    have later := second.settled
    rw [first.book] at later
    exact later.trans first.settled
  idle := fun run stored idle => by
    obtain ⟨kept, rows⟩ := first.idle run stored idle
    obtain ⟨still, rows'⟩ := second.idle run kept idle
    exact ⟨still, rows'.trans rows⟩

theorem same_run {runs : List CostCalculationRun} (distinct : (runs.map CostCalculationRun.id).Nodup)
    {first second : CostCalculationRun} (firstStored : first ∈ runs) (secondStored : second ∈ runs)
    (same : first.id = second.id) : first = second :=
  List.inj_on_of_nodup_map distinct firstStored secondStored same

theorem processCostJob_worked {job : CostCalculationRun} (stored : job ∈ desk.costRuns) (queued : job.status = .queued) :
    Worked calculate desk (desk.processCostJob calculate job) := by
  refine ⟨rfl, rfl, ?_, ?_⟩
  · rw [RateDesk.processCostJob, RateDesk.updateRuns, List.map_map]
    apply List.map_congr_left
    intro run member
    simp only [Function.comp]
    by_cases here : run.id = job.id
    · obtain rfl := same_run desk.runIds member stored here
      rw [if_pos rfl, RateBook.settled, RateBook.settled, if_pos queued, if_neg]
      split <;> simp
    · rw [if_neg here, CostCalculationRun.withStatus_self]
  · intro run member idle
    have different : run.id ≠ job.id := fun here => idle (same_run desk.runIds member stored here ▸ queued)
    refine ⟨List.mem_map.mpr ⟨run, member, by dsimp only; rw [if_neg different, CostCalculationRun.withStatus_self]⟩, ?_⟩
    have unrelated : (((desk.book.calculated calculate job).rows.map fun row : CostIntervalResult =>
        { row with runId := job.id }).filter fun row => row.runId = run.id) = [] := by
      refine List.filter_eq_nil_iff.mpr fun row added => ?_
      obtain ⟨_, _, rfl⟩ := List.mem_map.mp added
      simpa using Ne.symm different
    rw [RateDesk.processCostJob, List.filter_append, unrelated, List.append_nil]
    rfl

theorem processCostJob_others {job other : CostCalculationRun} (stored : other ∈ desk.costRuns) (different : other.id ≠ job.id) :
    other ∈ (desk.processCostJob calculate job).costRuns :=
  List.mem_map.mpr ⟨other, stored, by dsimp only; rw [if_neg different, CostCalculationRun.withStatus_self]⟩

theorem processAll_worked {jobs : List CostCalculationRun} (distinct : (jobs.map CostCalculationRun.id).Nodup)
    (stored : ∀ job ∈ jobs, job ∈ desk.costRuns ∧ job.status = .queued) :
    Worked calculate desk (jobs.foldl (RateDesk.processCostJob calculate) desk) := by
  induction jobs generalizing desk with
  | nil => exact .refl desk
  | cons job rest ih =>
      rw [List.map_cons, List.nodup_cons] at distinct
      obtain ⟨present, queued⟩ := stored job List.mem_cons_self
      refine (processCostJob_worked present queued).trans (ih distinct.2 fun other later => ?_)
      obtain ⟨otherPresent, otherQueued⟩ := stored other (List.mem_cons_of_mem _ later)
      have different : other.id ≠ job.id := fun same => distinct.1 (same ▸ List.mem_map_of_mem later)
      exact ⟨processCostJob_others otherPresent different, otherQueued⟩

theorem processCostJobs_worked (limit : Nat) : Worked calculate desk (desk.processCostJobs calculate limit) := by
  have perm := perm_sortedBy CostCalculationRun.createdAt (desk.costRuns.filter fun run => run.status = .queued)
  apply processAll_worked
  · have all : ((desk.costRuns.filter fun run => run.status = .queued).map CostCalculationRun.id).Nodup :=
      desk.runIds.sublist (List.filter_sublist.map _)
    exact ((perm.map _).nodup_iff.mpr all).sublist ((List.take_sublist _ _).map _)
  · intro job taken
    obtain ⟨present, queued⟩ := List.mem_filter.mp (perm.mem_iff.mp (List.mem_of_mem_take taken))
    exact ⟨present, by simpa using queued⟩

theorem passes_worked (limits : List Nat) :
    Worked calculate desk (limits.foldl (RateDesk.processCostJobs calculate) desk) :=
  foldl_invariant (P := fun reached => Worked calculate desk reached) (.refl desk)
    (fun _ limit worked => worked.trans (processCostJobs_worked limit)) limits

/-- When no run is queued any more, every run is what it comes to. -/
theorem Worked.costRuns {after : RateDesk} (worked : Worked calculate desk after)
    (idle : ∀ run ∈ after.costRuns, run.status ≠ .queued) :
    after.costRuns = desk.costRuns.map (desk.book.settled calculate) := by
  rw [← worked.settled]
  refine (List.map_id' _).symm.trans (List.map_congr_left fun run stored => ?_)
  rw [RateBook.settled, if_neg (idle run stored)]

end Worker

/-! ## The assignments over a window after a change -/

section Windows
variable {book : RateBook} {row next : RateAssignment} {accountId : String} {cut start finish : Int}

/-- Of a row that is cut at an instant it covers, what is left covers the windows up to the cut. -/
theorem CutAt.coversWindow_iff (cutAt : CutAt cut row next) (inside : row.Covers cut)
    (ordered : start < finish) : next.Of accountId ∧ next.CoversWindow start finish ↔
      row.Of accountId ∧ row.CoversWindow start finish ∧ finish ≤ cut := by
  by_cases same : row.effectiveFrom = cut
  · constructor
    · rintro ⟨mine, _⟩
      exact absurd mine.2 (cutAt.cancelled same)
    · rintro ⟨_, ⟨started, _⟩, early⟩
      omega
  · obtain ⟨state, window⟩ := cutAt.ended same
    have starts : next.effectiveFrom = row.effectiveFrom := congrArg Window.start window
    have closes : next.effectiveTo = some cut := congrArg Window.finish window
    have owner : next.Of accountId ↔ row.Of accountId := by
      rw [RateAssignment.Of, RateAssignment.Of, cutAt.utilityAccountId, state]
    rw [owner, RateAssignment.CoversWindow, RateAssignment.CoversWindow, starts, closes]
    simp only [Option.mem_some_iff, forall_eq']
    constructor
    · rintro ⟨mine, started, early⟩
      exact ⟨mine, ⟨started, fun ends closing => early.trans (inside.2 ends closing).le⟩, early⟩
    · rintro ⟨mine, ⟨started, _⟩, early⟩
      exact ⟨mine, started, early⟩

/-- The windows a table covers after some of its rows have been cut. -/
theorem coversWindow_cut {rows chosen : List RateAssignment} {write : RateAssignment → RateAssignment} {versionId : String}
    (cuts : ∀ row ∈ chosen, CutAt cut row (write row)) (inside : ∀ row ∈ chosen, row.Covers cut)
    (ordered : start < finish) :
    (∃ item ∈ rows.map (fun row => if row ∈ chosen then write row else row),
      item.Of accountId ∧ item.rateVersionId = versionId ∧ item.CoversWindow start finish) ↔
    ∃ row ∈ rows, row.Of accountId ∧ row.rateVersionId = versionId ∧ row.CoversWindow start finish ∧
      (row ∈ chosen → finish ≤ cut) := by
  constructor
  · rintro ⟨item, member, mine, version, covers⟩
    obtain ⟨row, stored, rfl⟩ := List.mem_map.mp member
    by_cases written : row ∈ chosen
    · rw [if_pos written] at mine version covers
      obtain ⟨owned, whole, early⟩ := ((cuts row written).coversWindow_iff (inside row written) ordered).mp ⟨mine, covers⟩
      exact ⟨row, stored, owned, (cuts row written).rateVersionId ▸ version, whole, fun _ => early⟩
    · rw [if_neg written] at mine version covers
      exact ⟨row, stored, mine, version, covers, fun chosen => absurd chosen written⟩
  · rintro ⟨row, stored, mine, version, covers, early⟩
    refine ⟨_, List.mem_map_of_mem stored, ?_⟩
    by_cases written : row ∈ chosen
    · rw [if_pos written]
      obtain ⟨owned, whole⟩ :=
        ((cuts row written).coversWindow_iff (inside row written) ordered).mpr ⟨mine, covers, early written⟩
      exact ⟨owned, (cuts row written).rateVersionId.trans version, whole⟩
    · rw [if_neg written]
      exact ⟨mine, version, covers⟩

theorem RateBook.coversRun_iff {run : CostCalculationRun} : book.CoversRun run ↔ ∃ row ∈ book.rateAssignments,
    row.Of run.utilityAccountId ∧ row.rateVersionId = run.rateVersionId ∧ row.CoversWindow run.inputStart run.inputEnd := by
  simp only [RateBook.CoversRun, RateBook.mem_active, and_assoc]

theorem coversRun_place {request : AssignmentRequest} {placement : Placement} {id : String} {now : Int}
    (accepted : Accepted book request placement) (run : CostCalculationRun) :
    (book.place request id now placement).CoversRun run ↔
      (∃ row ∈ book.active run.utilityAccountId, row.rateVersionId = run.rateVersionId ∧
        row.CoversWindow run.inputStart run.inputEnd ∧ (row ∈ placement.replaced → run.inputEnd ≤ request.effectiveFrom)) ∨
      (request.accountId = run.utilityAccountId ∧ request.rateVersionId = run.rateVersionId ∧
        (newAssignment request id now placement).CoversWindow run.inputStart run.inputEnd) := by
  have cuts := @coversWindow_cut run.utilityAccountId request.effectiveFrom run.inputStart run.inputEnd book.rateAssignments
    placement.replaced (replaceRow request now) run.rateVersionId (fun row _ => replaceRow_cutAt request now row)
    (fun row member => (accepted.placed.replaced row member).2.2.2) run.ordered
  rw [RateBook.coversRun_iff, place_rateAssignments, replacedBook]
  simp only [List.mem_append, List.mem_singleton, or_and_right, exists_or, exists_eq_left, cuts, RateBook.mem_active,
    and_assoc]
  apply or_congr Iff.rfl
  constructor
  · rintro ⟨mine, version, covers⟩
    exact ⟨mine.1, version, covers⟩
  · rintro ⟨mine, version, covers⟩
    exact ⟨⟨mine, rfl⟩, version, covers⟩

/-- The new row covers a window that starts in it, up to the requested end and the next scheduled row. -/
theorem newAssignment_coversWindow {request : AssignmentRequest} {placement : Placement} {id : String} {now : Int}
    (accepted : Accepted book request placement) (proper : ∀ row ∈ book.active request.accountId, row.window.Proper) :
    (newAssignment request id now placement).CoversWindow start finish ↔
      request.effectiveFrom ≤ start ∧ (∀ ends ∈ request.effectiveTo, finish ≤ ends) ∧
        ∀ row ∈ book.active request.accountId, overlaps row.window request.window →
          request.effectiveFrom < row.effectiveFrom → finish ≤ row.effectiveFrom := by
  cases future : placement.nextFutureStart with
  | none =>
      have window : (newAssignment request id now placement).CoversWindow start finish ↔
          request.effectiveFrom ≤ start ∧ ∀ ends ∈ request.effectiveTo, finish ≤ ends := by
        simp only [RateAssignment.CoversWindow, newAssignment, future]
      rw [window]
      refine and_congr_right fun _ => (and_iff_left ?_).symm
      intro row mine overlap later
      rcases accepted.placed.seen row mine overlap with replaced | ⟨next, found, _⟩
      · exact absurd (accepted.placed.replaced row replaced).2.2.2.1 (not_le.mpr later)
      · rw [future] at found
        cases found
  | some next =>
      obtain ⟨openEnded, later, early, item, scheduled, starts⟩ := accepted.placed.next next future
      have window : (newAssignment request id now placement).CoversWindow start finish ↔
          request.effectiveFrom ≤ start ∧ finish ≤ next := by
        simp only [RateAssignment.CoversWindow, newAssignment, future, Option.mem_some_iff, forall_eq']
      rw [window, openEnded]
      simp only [Option.not_mem_none, false_imp_iff, implies_true, true_and]
      refine and_congr_right fun _ => ⟨fun upTo row mine overlap after => ?_, fun every => ?_⟩
      · rcases accepted.placed.seen row mine overlap with replaced | ⟨first, found, least⟩
        · exact absurd (accepted.placed.replaced row replaced).2.2.2.1 (not_le.mpr after)
        · obtain rfl := Option.some.inj (future.symm.trans found)
          exact upTo.trans least
      · -- The next start is that of a row which overlaps the open window.
        rw [← starts] at later early ⊢
        refine every item scheduled ⟨?_, ?_⟩ later
        · simp only [AssignmentRequest.window, openEnded]
          exact early
        · have ends := proper item scheduled
          cases closes : item.effectiveTo with
          | none =>
              rw [RateAssignment.window, closes]
              exact later.trans early
          | some value =>
              rw [RateAssignment.window, closes]
              exact later.trans (ends value closes)

end Windows

/-! ## What a change leaves -/

/-- The runs after a change, and the windows that are covered then. -/
structure Changed (desk after : RateDesk) (change : TimelineChange) : Prop where
  finalizedCycles : after.finalizedCycles = desk.finalizedCycles
  costRows : after.costRows = desk.costRows
  costRuns : after.costRuns = desk.costRuns.map fun run =>
    if change.queues? desk = some run.utilityAccountId ∧ ¬ desk.Protected run then run.withStatus .queued else run
  calculated : ∀ calculate run, after.book.calculated calculate run = desk.book.calculated calculate run
  covers : ∀ run, NonOverlapping (desk.book.active run.utilityAccountId) →
    (after.book.CoversRun run ↔ change.LeavesCovered desk run)

section Changes
variable {services : DeskServices} {desk after : RateDesk} {book : RateBook} {change : TimelineChange}

theorem account?_isSome {accountId : String} :
    (book.account? accountId).isSome = true ↔ ∃ account ∈ book.utilityAccounts, account.id = accountId := by
  simp [RateBook.account?, List.find?_isSome]

/-- A calculation needs the ids of the accounts and the versions. -/
theorem calculated_congr {later : RateBook} {calculate : CostCalculationRun → CostOutcome}
    {run : CostCalculationRun} (versions : later.rateVersions = book.rateVersions)
    (accounts : later.utilityAccounts.map UtilityAccount.id = book.utilityAccounts.map UtilityAccount.id) :
    later.calculated calculate run = book.calculated calculate run := by
  have found : (later.account? run.utilityAccountId).isSome = true ↔ (book.account? run.utilityAccountId).isSome = true := by
    rw [account?_isSome, account?_isSome]
    have ids : run.utilityAccountId ∈ later.utilityAccounts.map UtilityAccount.id ↔
        run.utilityAccountId ∈ book.utilityAccounts.map UtilityAccount.id := by rw [accounts]
    simpa only [List.mem_map] using ids
  have version : later.version? run.rateVersionId = book.version? run.rateVersionId := by
    rw [RateBook.version?, versions]
    rfl
  simp only [RateBook.calculated, found, version]

theorem updateAccount_ids {accountId : String} {write : UtilityAccount → UtilityAccount}
    (keeps : ∀ account, (write account).id = account.id) :
    (book.updateAccount accountId write).utilityAccounts.map UtilityAccount.id = book.utilityAccounts.map UtilityAccount.id := by
  rw [RateBook.updateAccount, List.map_map]
  apply List.map_congr_left
  intro account _
  simp only [Function.comp]
  split
  · exact keeps account
  · rfl

theorem queued_costRuns {middle : RateDesk} {accountId : String} {event : AuditEvent}
    (runs : middle.costRuns = desk.costRuns) (cycles : middle.finalizedCycles = desk.finalizedCycles) :
    ((middle.queueUnfinalizedCostRuns accountId).record event).costRuns = desk.costRuns.map fun run =>
      if some accountId = some run.utilityAccountId ∧ ¬ desk.Protected run then run.withStatus .queued else run := by
  change (middle.costRuns.map fun run => run.withStatus
    (if run.utilityAccountId = accountId ∧ ¬ middle.Protected run then .queued else run.status)) = _
  rw [runs]
  apply List.map_congr_left
  intro run _
  have same : middle.Protected run ↔ desk.Protected run := by
    rw [RateDesk.Protected, RateDesk.Protected, cycles]
  by_cases mine : run.utilityAccountId = accountId
  · by_cases locked : desk.Protected run
    · rw [if_neg (fun both => both.2 (same.mpr locked)), if_neg (fun both => both.2 locked), CostCalculationRun.withStatus_self]
    · rw [if_pos ⟨mine, fun both => locked (same.mp both)⟩, if_pos ⟨congrArg some mine.symm, locked⟩]
  · rw [if_neg (fun both => mine both.1), if_neg (fun both => mine (Option.some.inj both.1).symm),
      CostCalculationRun.withStatus_self]

/-- Without a cut and a new window, what is covered stays covered. -/
theorem leavesCovered_of_idle {run : CostCalculationRun} (placed : change.placed? desk = none)
    (cuts : ∀ row ∈ desk.book.active run.utilityAccountId, change.cut? desk row = none) :
    change.LeavesCovered desk run ↔ desk.book.CoversRun run := by
  rw [TimelineChange.LeavesCovered, placed]
  constructor
  · rintro (⟨row, mine, version, covers, _⟩ | ⟨_, none, _⟩)
    · exact ⟨row, mine, version, covers⟩
    · cases none
  · rintro ⟨row, mine, version, covers⟩
    refine .inl ⟨row, mine, version, covers, fun instant cut => ?_⟩
    rw [cuts row mine] at cut
    cases cut

/-- A new window ends the rows that cover its start. -/
theorem leavesCovered_placed {request : AssignmentRequest} {placement : Placement} {id : String} {now : Int}
    (accepted : Accepted desk.book request placement) (run : CostCalculationRun) (placed : change.placed? desk = some request)
    (cuts : ∀ row, change.cut? desk row = request.cut? row) :
    (desk.book.place request id now placement).CoversRun run ↔ change.LeavesCovered desk run := by
  rw [coversRun_place accepted, TimelineChange.LeavesCovered, placed]
  simp only [Option.mem_some_iff, exists_eq_left', cuts, AssignmentRequest.cut?]
  apply or_congr
  · refine exists_congr fun row => and_congr_right fun mine => and_congr_right fun _ => and_congr_right fun _ => ?_
    obtain ⟨stored, owned⟩ := RateBook.mem_active.mp mine
    constructor
    · intro early instant cut
      split at cut
      · next covered =>
          cases cut
          obtain ⟨replaces, owner, overlap, covers⟩ := covered
          have theirs : row ∈ desk.book.active request.accountId := RateBook.mem_active.mpr ⟨stored, owner, owned.2⟩
          exact early (accepted.placed.covering row theirs overlap replaces covers)
      · cases cut
    · intro early replaced
      obtain ⟨theirs, overlap, replaces, covers⟩ := accepted.placed.replaced row replaced
      exact early request.effectiveFrom (if_pos ⟨replaces, (RateBook.mem_active.mp theirs).2.1, overlap, covers⟩)
  · refine and_congr_right fun mine => and_congr_right fun _ => ?_
    rw [newAssignment_coversWindow accepted fun row member => desk.stored.proper row (RateBook.mem_active.mp member).1, mine]

theorem place_ids {request : AssignmentRequest} {placement : Placement} {id : String} {now : Int} :
    (book.place request id now placement).utilityAccounts.map UtilityAccount.id = book.utilityAccounts.map UtilityAccount.id :=
  @updateAccount_ids { book with rateAssignments := _ } request.accountId _ fun _ => rfl

/-- What follows from a placed window or a repeated assignment. -/
theorem Assigned.changed {middle : RateDesk} {request : AssignmentRequest} {id : String} {now : Int} {event : AuditEvent}
    (assigned : Assigned desk middle request id now) (runs : middle.costRuns = desk.costRuns)
    (rows : middle.costRows = desk.costRows) (cycles : middle.finalizedCycles = desk.finalizedCycles)
    (queues : change.queues? desk = some request.accountId)
    (replayed : desk.book.replayed? request ≠ none → change.placed? desk = none ∧ ∀ row, change.cut? desk row = none)
    (placed : desk.book.replayed? request = none →
      change.placed? desk = some request ∧ ∀ row, change.cut? desk row = request.cut? row) :
    Changed desk ((middle.queueUnfinalizedCostRuns request.accountId).record event) change := by
  refine ⟨cycles, rows, ?_, fun calculate run => ?_, fun run _ => ?_⟩
  · rw [queued_costRuns runs cycles, queues]
  · cases assigned with
    | replayed existing found same => exact congrArg (fun book => RateBook.calculated calculate book run) same
    | placed placement fresh accepted written =>
        change middle.book.calculated calculate run = _
        rw [written]
        exact calculated_congr rfl place_ids
  · cases assigned with
    | replayed existing found same =>
        obtain ⟨none, cuts⟩ := replayed (by rw [found]; simp)
        rw [leavesCovered_of_idle none fun row _ => cuts row]
        change middle.book.CoversRun run ↔ _
        rw [same]
    | placed placement fresh accepted written =>
        obtain ⟨some, cuts⟩ := placed fresh
        change middle.book.CoversRun run ↔ _
        rw [written]
        exact leavesCovered_placed accepted run some cuts

/-- A request that is answered from its key changes nothing. -/
theorem Changed.of_idle (queues : change.queues? desk = none) (placed : change.placed? desk = none)
    (cuts : ∀ row, change.cut? desk row = none) : Changed desk desk change := by
  refine ⟨rfl, rfl, ?_, fun _ _ => rfl, fun run _ => (leavesCovered_of_idle placed fun row _ => cuts row).symm⟩
  rw [queues]
  simp

/-- Queueing the runs of the account of a request that has ended or cancelled rows. -/
theorem Changed.of_queued {middle : RateDesk} {accountId : String} {event : AuditEvent}
    (runs : middle.costRuns = desk.costRuns) (rows : middle.costRows = desk.costRows)
    (cycles : middle.finalizedCycles = desk.finalizedCycles) (queues : change.queues? desk = some accountId)
    (versions : middle.book.rateVersions = desk.book.rateVersions)
    (accounts : middle.book.utilityAccounts.map UtilityAccount.id = desk.book.utilityAccounts.map UtilityAccount.id)
    (covers : ∀ run, NonOverlapping (desk.book.active run.utilityAccountId) →
      (middle.book.CoversRun run ↔ change.LeavesCovered desk run)) :
    Changed desk ((middle.queueUnfinalizedCostRuns accountId).record event) change := by
  refine ⟨cycles, rows, ?_, fun calculate run => calculated_congr versions accounts, covers⟩
  rw [queued_costRuns runs cycles, queues]

theorem replace_changed {principal : Principal} {request : ReplaceRequest} {id : String} {now : Int} {reply : AssignmentReply}
    (ok : replaceCurrentAssignment services desk principal request id now = .ok (reply, after)) :
    Changed desk after (.replaceCurrentAssignment principal request id now) := by
  rcases replaceCurrentAssignment_spec ok with ⟨existing, found, _, _, _, rfl⟩ | ⟨fresh, middle, event, assigned, frame, _, rfl⟩
  · have placed : TimelineChange.placed? after (.replaceCurrentAssignment principal request id now) = none := by
      simp only [TimelineChange.placed?, found]
    refine .of_idle ?_ placed fun row => ?_
    · simp only [TimelineChange.queues?, found, Option.isSome_some, if_true]
    · rw [TimelineChange.cut?, placed, Option.bind_none]
  · obtain ⟨book, stored, rfl⟩ := frame
    have placed : TimelineChange.placed? desk (.replaceCurrentAssignment principal request id now) =
        some (request.toAssignment principal) := by
      simp only [TimelineChange.placed?, fresh]
    refine assigned.changed rfl rfl rfl ?_ (fun replayed => absurd fresh replayed) fun _ => ⟨placed, fun row => ?_⟩
    · simp only [TimelineChange.queues?, fresh, Option.isSome_none, Bool.false_eq_true, if_false]
      rfl
    · rw [TimelineChange.cut?, placed, Option.bind_some]

theorem keyed?_filter (key : Option String) : book.keyed? (key.filter (· ≠ "")) = book.keyed? key := by
  simp only [RateBook.keyed?, Option.filter_filter, Bool.and_self]

theorem create_changed {principal : Principal} {request : CreateRequest} {id : String} {now : Int} {reply : AssignmentReply}
    (ok : createRateAssignment services desk principal request id now = .ok (reply, after)) :
    Changed desk after (.createRateAssignment principal request id now) := by
  obtain ⟨account, versionId, settings, middle, event, found, given, _, assigned, frame, _, rfl⟩ := createRateAssignment_spec ok
  obtain ⟨book, stored, rfl⟩ := frame
  have keys : desk.book.replayed? (request.toAssignment principal account.id versionId now) =
      desk.book.keyed? request.idempotencyKey := keyed?_filter request.idempotencyKey
  refine assigned.changed rfl rfl rfl ?_ (fun replayed => ?_) fun fresh => ?_
  · simp only [TimelineChange.queues?, found, Option.map_some]
    rfl
  · rw [keys] at replayed
    obtain ⟨existing, named⟩ := Option.ne_none_iff_exists'.mp replayed
    have placed : TimelineChange.placed? desk (.createRateAssignment principal request id now) = none := by
      simp only [TimelineChange.placed?, named]
    exact ⟨placed, fun row => by rw [TimelineChange.cut?, placed, Option.bind_none]⟩
  · rw [keys] at fresh
    have placed : TimelineChange.placed? desk (.createRateAssignment principal request id now) =
        some (request.toAssignment principal account.id versionId now) := by
      simp only [TimelineChange.placed?, fresh, found, given]
    exact ⟨placed, fun row => by rw [TimelineChange.cut?, placed, Option.bind_some]⟩

theorem end_covers {principal : Principal} {request : EndPayload} {now : Int} {current : RateAssignment} (run : CostCalculationRun)
    (fresh : desk.idempotentOperation .assignmentEnded request.idempotencyKey request.accountId = none)
    (mine : current ∈ desk.book.active request.accountId) (covers : current.Covers request.effectiveAt)
    (apart : NonOverlapping (desk.book.active run.utilityAccountId)) :
    (desk.book.endCurrent (request.toEnd principal) now current).CoversRun run ↔
      TimelineChange.LeavesCovered desk (.endCurrentRateAssignment principal request now) run := by
  have inside : ∀ row ∈ [current], row.Covers request.effectiveAt := by
    intro row member
    rw [List.mem_singleton.mp member]
    exact covers
  have cuts := @coversWindow_cut run.utilityAccountId request.effectiveAt run.inputStart run.inputEnd desk.book.rateAssignments
    [current] (endRow (request.toEnd principal) now) run.rateVersionId (fun row _ => endRow_cutAt (request.toEnd principal) now row) inside run.ordered
  simp only [List.mem_singleton] at cuts
  rw [RateBook.coversRun_iff, TimelineChange.LeavesCovered]
  refine cuts.trans ?_
  simp only [TimelineChange.placed?, Option.not_mem_none, false_and, exists_false, or_false, TimelineChange.cut?, fresh,
    Option.isNone_none, true_and, RateBook.mem_active, and_assoc]
  refine exists_congr fun row => and_congr_right fun stored => and_congr_right fun owned => and_congr_right fun _ =>
    and_congr_right fun _ => ?_
  constructor
  · intro early instant cut
    split at cut
    · next covered =>
        cases cut
        by_cases last : request.effectiveAt < datetimeMax
        · -- Only one assignment is in force at the instant.
          have owner : request.accountId = run.utilityAccountId := covered.1.symm.trans owned.1
          have theirs : current ∈ desk.book.active run.utilityAccountId := owner ▸ mine
          exact early (apart.unique last (RateBook.mem_active.mpr ⟨stored, owned⟩) theirs covered.2 covers)
        · exact run.representable.trans (not_lt.mp last)
    · cases cut
  · rintro early rfl
    exact early request.effectiveAt (if_pos ⟨(RateBook.mem_active.mp mine).2.1, covers⟩)

theorem end_changed {principal : Principal} {request : EndPayload} {now : Int} {reply : EndReply}
    (ok : endCurrentRateAssignment services desk principal request now = .ok (reply, after)) :
    Changed desk after (.endCurrentRateAssignment principal request now) := by
  rcases endCurrentRateAssignment_spec ok with
    ⟨⟨event, found⟩, rfl⟩ | ⟨fresh, current, stored, event, mine, covers, _, _, _, rfl⟩
  · refine .of_idle ?_ rfl fun row => ?_
    · simp only [TimelineChange.queues?, found, Option.isSome_some, if_true]
    · simp only [TimelineChange.cut?, found, Option.isNone_some, Bool.false_eq_true, false_and, if_false]
  · refine .of_queued rfl rfl rfl ?_ rfl ?_ fun run apart => end_covers run fresh mine covers apart
    · simp only [TimelineChange.queues?, fresh, Option.isSome_none, Bool.false_eq_true, if_false]
    · exact @updateAccount_ids { desk.book with rateAssignments := _ } request.accountId _ fun _ => rfl

theorem Ends.coversWindow_iff {row next : RateAssignment} {start stop finish : Int} (ends : Ends finish row next) :
    next.CoversWindow start stop ↔ row.CoversWindow start stop ∧ stop ≤ finish := by
  have starts : next.effectiveFrom = row.effectiveFrom := congrArg Window.start ends.window
  have closes : next.effectiveTo = some finish := congrArg Window.finish ends.window
  simp only [RateAssignment.CoversWindow, starts, closes, Option.mem_some_iff, forall_eq']
  constructor
  · rintro ⟨started, early⟩
    refine ⟨⟨started, fun value closing => ?_⟩, early⟩
    have inside := ends.inside
    rw [show row.effectiveTo = some value from closing] at inside
    exact early.trans inside
  · rintro ⟨⟨started, _⟩, early⟩
    exact ⟨started, early⟩

theorem Ends.coversRun_iff {target : RateAssignment} {write : RateAssignment → RateAssignment} {finish : Int}
    (stored : StoredAssignments book.rateAssignments) (present : target ∈ book.rateAssignments)
    (ends : Ends finish target (write target)) (run : CostCalculationRun) :
    (book.updateAssignment target.id write).CoversRun run ↔
      ∃ row ∈ book.active run.utilityAccountId, row.rateVersionId = run.rateVersionId ∧
        row.CoversWindow run.inputStart run.inputEnd ∧ (row.id = target.id → run.inputEnd ≤ finish) := by
  simp only [RateBook.coversRun_iff, RateBook.mem_active, and_assoc, RateBook.updateAssignment, List.mem_map,
    exists_exists_and_eq_and]
  refine exists_congr fun row => and_congr_right fun member => ?_
  by_cases same : row.id = target.id
  · obtain rfl := stored.same_row member present same
    simp only [if_true, ends.coversWindow_iff, ends.continues.rateVersionId, RateAssignment.Of, ends.state,
      ends.continues.utilityAccountId, true_imp_iff]
  · rw [if_neg same]
    simp only [same, false_imp_iff, and_true]

theorem patch_changed {principal : Principal} {request : PatchRequest} {now : Int}
    (ok : patchRateAssignment services desk principal request now = .ok after) :
    Changed desk after (.patchRateAssignment principal request now) := by
  obtain ⟨target, found, _, ends, stored, event, rfl⟩ := patchRateAssignment_ok ok
  obtain ⟨present, named⟩ := assignment?_eq_some found
  refine .of_queued rfl rfl rfl ?_ rfl rfl fun run _ => ?_
  · simp only [TimelineChange.queues?, found, Option.map_some]
  · cases asked : request.effectiveTo with
    | none =>
        rw [leavesCovered_of_idle rfl fun row _ => by simp only [TimelineChange.cut?, asked, ite_self]]
        dsimp only
        rw [show patchRow request = id from funext fun row => by rw [patchRow, asked]; rfl, updateAssignment_id]
    | some finish =>
        dsimp only
        rw [← named, (ends finish asked).coversRun_iff desk.stored present run, TimelineChange.LeavesCovered]
        simp only [TimelineChange.placed?, Option.not_mem_none, false_and, exists_false, or_false, TimelineChange.cut?, asked,
          named]
        refine exists_congr fun row => and_congr_right fun _ => and_congr_right fun _ => and_congr_right fun _ => ?_
        by_cases same : row.id = request.assignmentId <;> simp [same]

theorem cancelConflicts_coversRun {request : ResolveRequest} {now : Int} {ended : List RateAssignment} {run : CostCalculationRun}
    {accountId : String} {change : UtilityAccount → UtilityAccount}
    (others : ∀ row ∈ ended, row.utilityAccountId ≠ run.utilityAccountId) :
    ((book.cancelConflicts request now ended).updateAccount accountId change).CoversRun run ↔ book.CoversRun run := by
  simp only [RateBook.coversRun_iff, RateBook.cancelConflicts, RateBook.updateAccount, List.mem_map, exists_exists_and_eq_and]
  refine exists_congr fun row => and_congr_right fun _ => ?_
  by_cases cancelled : row ∈ ended
  · rw [if_pos cancelled]
    refine iff_of_false ?_ fun same => others row cancelled same.1.1
    exact fun same => others row cancelled same.1.1
  · rw [if_neg cancelled]

theorem repair_changed {principal : Principal} {request : RepairPayload} {now : Int} {receipt : ResolveReceipt}
    (ok : repairAssignmentConflicts services desk principal request now = .ok (receipt, after)) :
    Changed desk after (.repairAssignmentConflicts principal request now) := by
  rcases repairAssignmentConflicts_spec ok with ⟨⟨event, found⟩, rfl⟩ | ⟨fresh, book, stored, event, resolved, _, _, _, _, rfl⟩
  · refine .of_idle ?_ rfl fun _ => rfl
    simp only [TimelineChange.queues?, found, Option.isSome_some, if_true]
  · have queues : TimelineChange.queues? desk (.repairAssignmentConflicts principal request now) = some request.accountId := by
      simp only [TimelineChange.queues?, fresh, Option.isSome_none, Bool.false_eq_true, if_false]
    obtain ⟨_, raised⟩ | ⟨_, nothing⟩ | ⟨conflict, ended, change, theirs, keeps, written⟩ :=
      @resolveAssignmentConflict_cases services.assignment desk.book now (request.toResolve principal)
    · rw [raised] at resolved
      cases resolved
    · obtain rfl := (Prod.mk.inj (nothing.symm.trans resolved)).2
      exact .of_queued rfl rfl rfl queues rfl rfl fun run _ => (leavesCovered_of_idle rfl fun _ _ => rfl).symm
    · rw [resolved] at written
      dsimp only at written
      subst written
      refine .of_queued rfl rfl rfl queues rfl ?_ fun run apart => ?_
      · exact @updateAccount_ids (desk.book.cancelConflicts (request.toResolve principal) now ended) _ _ keeps
      · -- The rows of an account without conflicts are not written.
        rw [leavesCovered_of_idle rfl fun _ _ => rfl]
        have other : request.accountId ≠ run.utilityAccountId := by
          intro same
          rw [← same] at apart
          exact conflict apart
        exact cancelConflicts_coversRun fun row member mine => other ((theirs row member).symm.trans mine)

theorem TimelineChange.changed (ok : change.perform services desk = .ok after) : Changed desk after change := by
  have opened {α : Type} {outcome : Except RequestFailure (α × RateDesk)} (mapped : outcome.map Prod.snd = .ok after) :
      ∃ reply, outcome = .ok (reply, after) := by
    cases outcome with
    | error problem => cases mapped
    | ok value =>
        cases mapped
        exact ⟨value.1, rfl⟩
  cases change with
  | replaceCurrentAssignment principal request id now =>
      obtain ⟨reply, done⟩ := opened ok
      exact replace_changed done
  | createRateAssignment principal request id now =>
      obtain ⟨reply, done⟩ := opened ok
      exact create_changed done
  | endCurrentRateAssignment principal request now =>
      obtain ⟨reply, done⟩ := opened ok
      exact end_changed done
  | patchRateAssignment principal request now => exact patch_changed ok
  | repairAssignmentConflicts principal request now =>
      obtain ⟨receipt, done⟩ := opened ok
      exact repair_changed done

/-- A change ends no row of an account whose runs it does not queue. -/
theorem cut?_of_unqueued {row : RateAssignment} (stored : row ∈ desk.book.rateAssignments)
    (unqueued : change.queues? desk ≠ some row.utilityAccountId) : change.cut? desk row = none := by
  have placed {request : AssignmentRequest} (other : request.accountId ≠ row.utilityAccountId) : request.cut? row = none :=
    if_neg fun covered => other covered.2.1.symm
  cases change with
  | replaceCurrentAssignment principal request id now =>
      simp only [TimelineChange.queues?, TimelineChange.cut?, TimelineChange.placed?] at unqueued ⊢
      cases keyed : desk.book.keyed? request.idempotencyKey with
      | some existing => rfl
      | none =>
          rw [keyed] at unqueued
          exact placed fun same => unqueued (congrArg some same)
  | createRateAssignment principal request id now =>
      simp only [TimelineChange.queues?, TimelineChange.cut?, TimelineChange.placed?] at unqueued ⊢
      split
      · next account versionId _ found _ =>
          rw [found] at unqueued
          exact placed fun same => unqueued (congrArg some same)
      · rfl
  | endCurrentRateAssignment principal request now =>
      simp only [TimelineChange.queues?, TimelineChange.cut?] at unqueued ⊢
      refine if_neg ?_
      rintro ⟨fresh, mine, _⟩
      rw [Option.isNone_iff_eq_none] at fresh
      rw [fresh] at unqueued
      exact unqueued (congrArg some mine.symm)
  | patchRateAssignment principal request now =>
      simp only [TimelineChange.queues?, TimelineChange.cut?] at unqueued ⊢
      refine if_neg fun named => ?_
      cases found : desk.book.assignment? request.assignmentId with
      | none =>
          have missing := List.find?_eq_none.mp found row stored
          exact missing (by simpa using named)
      | some target =>
          obtain ⟨present, same⟩ := assignment?_eq_some found
          obtain rfl := desk.stored.same_row stored present (named.trans same.symm)
          rw [found] at unqueued
          exact unqueued rfl
  | repairAssignmentConflicts principal request now => rfl

theorem leavesCovered_of_unqueued {run : CostCalculationRun} (unqueued : change.queues? desk ≠ some run.utilityAccountId)
    (covered : desk.book.CoversRun run) : change.LeavesCovered desk run := by
  obtain ⟨row, mine, version, covers⟩ := covered
  refine .inl ⟨row, mine, version, covers, fun instant cut => ?_⟩
  obtain ⟨stored, owned⟩ := RateBook.mem_active.mp mine
  rw [cut?_of_unqueued stored (by rw [owned.1]; exact unqueued)] at cut
  cases cut

end Changes

/-! ## Costs after a change and the worker -/

section Costs
variable {services : DeskServices} {calculate : CostCalculationRun → CostOutcome}
  {desk after final : RateDesk} {change : TimelineChange} {accountId : String}

/-- The run as the change leaves it. -/
def TimelineChange.requeued (desk : RateDesk) (change : TimelineChange) (run : CostCalculationRun) : CostCalculationRun :=
  if change.queues? desk = some run.utilityAccountId ∧ ¬ desk.Protected run then run.withStatus .queued else run

/-- What the change and the worker make of an unprotected run. -/
theorem settled_completed_iff {run : CostCalculationRun} (free : ¬ desk.Protected run) :
    (desk.book.settled calculate (change.requeued desk run)).status = .completed ↔
      change.Recalculates calculate desk run ∨
        (change.queues? desk ≠ some run.utilityAccountId ∧ run.status = .completed) := by
  have calculated {job : CostCalculationRun} (queued : job.status = .queued) :
      (desk.book.settled calculate job).status = .completed ↔ (desk.book.calculated calculate job).completed = true := by
    rw [RateBook.settled, if_pos queued, CostCalculationRun.withStatus_status]
    split <;> simp_all
  rw [TimelineChange.requeued, TimelineChange.Recalculates]
  by_cases queues : change.queues? desk = some run.utilityAccountId
  · rw [if_pos ⟨queues, free⟩, calculated rfl]
    simp only [queues, true_or, true_and, ne_eq, not_true_eq_false, false_and, or_false]
  · rw [if_neg fun both => queues both.1]
    by_cases waiting : run.status = .queued
    · have same : run.withStatus .queued = run := by rw [← waiting, CostCalculationRun.withStatus_self]
      rw [calculated waiting, same]
      simp [waiting]
    · rw [RateBook.settled, if_neg waiting]
      simp [queues, waiting]

/-- The change and the worker write only the status of a run. -/
theorem settled_requeued (run : CostCalculationRun) : ∃ status,
    desk.book.settled calculate (change.requeued desk run) = run.withStatus status := by
  have settles (job : CostCalculationRun) : ∃ status, desk.book.settled calculate job = job.withStatus status := by
    unfold RateBook.settled
    split
    · exact ⟨_, rfl⟩
    · exact ⟨job.status, rfl⟩
  obtain ⟨status, same⟩ := settles (change.requeued desk run)
  rw [same, TimelineChange.requeued]
  split
  · exact ⟨status, rfl⟩
  · exact ⟨status, rfl⟩

/-- The runs once the worker has calculated every queued one. -/
theorem Changed.final_costRuns (changed : Changed desk after change) (worked : Worked calculate after final)
    (idle : ∀ run ∈ final.costRuns, run.status ≠ .queued) :
    final.costRuns = desk.costRuns.map fun run => desk.book.settled calculate (change.requeued desk run) := by
  rw [worked.costRuns idle, changed.costRuns, List.map_map]
  apply List.map_congr_left
  intro run _
  simp only [Function.comp, RateBook.settled, changed.calculated]
  rfl

theorem Changed.protected_iff (changed : Changed desk after change) (worked : Worked calculate after final)
    (run : CostCalculationRun) (status : RunStatus) : final.Protected (run.withStatus status) ↔ desk.Protected run := by
  rw [RateDesk.Protected, worked.finalizedCycles, changed.finalizedCycles]
  rfl

theorem Changed.costsFollow_iff (changed : Changed desk after change) (worked : Worked calculate after final)
    (idle : ∀ run ∈ final.costRuns, run.status ≠ .queued) (apart : NonOverlapping (desk.book.active accountId))
    (follows : desk.CostsFollow accountId) :
    final.CostsFollow accountId ↔ ∀ run ∈ desk.costRuns, run.utilityAccountId = accountId → ¬ desk.Protected run →
      change.Recalculates calculate desk run → change.LeavesCovered desk run := by
  have covers (run : CostCalculationRun) (mine : run.utilityAccountId = accountId) (status : RunStatus) :
      final.book.CoversRun (run.withStatus status) ↔ change.LeavesCovered desk run := by
    rw [worked.book, ← changed.covers run (by rw [mine]; exact apart)]
    exact Iff.rfl
  have runs := changed.final_costRuns worked idle
  constructor
  · intro followed run stored mine free again
    obtain ⟨status, same⟩ := @settled_requeued calculate desk change run
    have completed := (settled_completed_iff free).mpr (.inl again)
    rw [same] at completed
    have present : run.withStatus status ∈ final.costRuns := by
      rw [runs]
      exact List.mem_map.mpr ⟨run, stored, same⟩
    rw [← covers run mine status]
    exact followed _ present mine completed fun locked => free ((changed.protected_iff worked run status).mp locked)
  · intro kept later present mine completed free
    rw [runs] at present
    obtain ⟨run, stored, rfl⟩ := List.mem_map.mp present
    obtain ⟨status, same⟩ := @settled_requeued calculate desk change run
    rw [same] at mine free ⊢
    have unlocked : ¬ desk.Protected run := fun locked => free ((changed.protected_iff worked run status).mpr locked)
    rw [covers run mine status]
    rcases (settled_completed_iff unlocked).mp completed with again | ⟨unqueued, before⟩
    · exact kept run stored mine unlocked again
    · -- The run was completed before and is not calculated again.
      exact leavesCovered_of_unqueued unqueued (follows run stored mine before unlocked)

theorem Changed.keepsFinalizedRuns_iff (changed : Changed desk after change) (worked : Worked calculate after final)
    (idle : ∀ run ∈ final.costRuns, run.status ≠ .queued) :
    KeepsFinalizedRuns desk final accountId ↔ ∀ run ∈ desk.costRuns, run.utilityAccountId = accountId →
      desk.Protected run → run.status ≠ .queued := by
  constructor
  · intro kept run stored mine locked
    exact idle run (kept run stored mine locked).1
  · intro settled run stored mine locked
    have still : run ∈ after.costRuns := by
      rw [changed.costRuns]
      exact List.mem_map.mpr ⟨run, stored, if_neg fun both => both.2 locked⟩
    obtain ⟨present, rows⟩ := worked.idle run still (settled run stored mine locked)
    exact ⟨present, by rw [rows, changed.costRows]⟩

end Costs

/-- After a change of the timeline and the calculation of all queued runs, the costs of the account follow its assignments
and the finalized cycles keep their runs, exactly when every run that is calculated again lies in an assignment that the
change has left or placed, and no run of a finalized cycle was waiting. -/
theorem costs_follow_timeline_iff (services : DeskServices) (calculate : CostCalculationRun → CostOutcome)
    (desk after : RateDesk) (change : TimelineChange) (accountId : String) (limits : List Nat)
    (apart : NonOverlapping (desk.book.active accountId)) (follows : desk.CostsFollow accountId)
    (ok : change.perform services desk = .ok after)
    (processed : ∀ run ∈ (limits.foldl (RateDesk.processCostJobs calculate) after).costRuns, run.status ≠ .queued) :
    (limits.foldl (RateDesk.processCostJobs calculate) after).CostsFollow accountId ∧
        KeepsFinalizedRuns desk (limits.foldl (RateDesk.processCostJobs calculate) after) accountId ↔
      (∀ run ∈ desk.costRuns, run.utilityAccountId = accountId → ¬ desk.Protected run →
        change.Recalculates calculate desk run → change.LeavesCovered desk run) ∧
      ∀ run ∈ desk.costRuns, run.utilityAccountId = accountId → desk.Protected run → run.status ≠ .queued := by
  have changed := TimelineChange.changed ok
  have worked := @passes_worked calculate after limits
  exact and_congr (changed.costsFollow_iff worked processed apart follows) (changed.keepsFinalizedRuns_iff worked processed)

/-! ## A change of plan at 100 -/

/-- A run of the household on its first plan. -/
def flatRun (finish : Int) (ordered : 0 < finish) (representable : finish ≤ datetimeMax) : CostCalculationRun :=
  { id := "cost", utilityAccountId := "service", rateVersionId := "flat", inputStart := 0, inputEnd := finish
    status := .completed, ordered := ordered, representable := representable }

def earlyRun : CostCalculationRun := flatRun 100 (by decide) (by decide)

def straddlingRun : CostCalculationRun := flatRun 200 (by decide) at200

def billedDesk (run : CostCalculationRun) : RateDesk where
  book := household
  costRuns := [run]
  stored := by decide
  runIds := List.nodup_singleton _

def changesPlan : TimelineChange :=
  .replaceCurrentAssignment owner { accountId := "service", rateVersionId := "tou", effectiveFrom := 100 } "second" 150

/-- What a calculation makes of a window without measurements. -/
def unmeasured (_ : CostCalculationRun) : CostOutcome := { completed := true, rows := [] }

def onePass : List Nat := [10]

/-- The run up to the change is calculated again under the plan that was in force. -/
theorem run_before_change_follows :
    ∃ after, changesPlan.perform quietDesk (billedDesk earlyRun) = .ok after ∧
      ((onePass.foldl (RateDesk.processCostJobs unmeasured) after).CostsFollow "service" ∧
        KeepsFinalizedRuns (billedDesk earlyRun)
          (onePass.foldl (RateDesk.processCostJobs unmeasured) after) "service") := by
  have computed : (changesPlan.perform quietDesk (billedDesk earlyRun)).toOption.map
      (fun after : RateDesk => decide (∀ run ∈ (onePass.foldl (RateDesk.processCostJobs unmeasured) after).costRuns, run.status ≠ .queued)) =
        some true := by decide
  cases done : changesPlan.perform quietDesk (billedDesk earlyRun) with
  | error failure =>
      rw [done] at computed
      cases computed
  | ok after =>
      rw [done] at computed
      refine ⟨after, rfl, ?_⟩
      refine (costs_follow_timeline_iff quietDesk unmeasured _ after changesPlan "service" onePass household_timeline.apart
        (by decide) done (of_decide_eq_true (Option.some.inj computed))).mpr ⟨?_, ?_⟩
      · intro run stored _ _ _
        obtain rfl := List.mem_singleton.mp stored
        refine .inl ⟨household.rateAssignments.head (by decide), by decide, rfl, by decide, ?_⟩
        decide
      · intro run stored _ _
        obtain rfl := List.mem_singleton.mp stored
        exact nofun

/-- A run over the change is calculated again under the first plan alone. -/
theorem run_over_change_keeps_old_plan :
    NonOverlapping ((billedDesk straddlingRun).book.active "service") ∧
    (billedDesk straddlingRun).CostsFollow "service" ∧
    ∃ after, changesPlan.perform quietDesk (billedDesk straddlingRun) = .ok after ∧
      (∀ run ∈ (onePass.foldl (RateDesk.processCostJobs unmeasured) after).costRuns, run.status ≠ .queued) ∧
      ¬ (onePass.foldl (RateDesk.processCostJobs unmeasured) after).CostsFollow "service" := by
  refine ⟨household_timeline.apart, by decide, ?_⟩
  have computed : (changesPlan.perform quietDesk (billedDesk straddlingRun)).toOption.map
      (fun after : RateDesk => decide ((∀ run ∈ (onePass.foldl (RateDesk.processCostJobs unmeasured) after).costRuns, run.status ≠ .queued) ∧
        ¬ (onePass.foldl (RateDesk.processCostJobs unmeasured) after).CostsFollow "service")) = some true := by decide
  cases done : changesPlan.perform quietDesk (billedDesk straddlingRun) with
  | error failure =>
      rw [done] at computed
      cases computed
  | ok after =>
      rw [done] at computed
      exact ⟨after, rfl, of_decide_eq_true (Option.some.inj computed)⟩

end PowerMonitor.Assignments
