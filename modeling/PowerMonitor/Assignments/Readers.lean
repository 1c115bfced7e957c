import Mathlib.Data.List.Find
import PowerMonitor.Assignments.ActiveRate
import PowerMonitor.Calendar.Zone
import PowerMonitor.Rates.Schedule

/-! The two pricing readers: the contexts of a billing cycle and those of a history query.

Both read the assignments of an account by their dates, cancelled or not, and take the first context
that contains an instant. The engine of a context belongs to its version and is left out. Zones and the
dates at which adjustments of a version change are parameters.
-/

set_option autoImplicit false
namespace PowerMonitor.Assignments
open Library Calendar Rates
open Pricing (UtilityAccount)

/-- A span of datetimes, such as a billing cycle or the range of a query. -/
structure Span where
  start : Int
  finish : Int
  representable : finish ≤ datetimeMax
  deriving Repr

structure RateContext where
  start : Int
  finish : Int
  version : RateVersion
  adjustmentBoundaries : List Int := []
  deriving DecidableEq, Repr

def RateContext.Holds (context : RateContext) (instant : Int) : Prop := context.start ≤ instant ∧ instant < context.finish

instance (context : RateContext) (instant : Int) : Decidable (context.Holds instant) := inferInstanceAs (Decidable (_ ∧ _))

/-- The rows of the account whose dates meet the span. -/
def RateBook.overlapping (book : RateBook) (accountId : String) (span : Span) : List RateAssignment :=
  book.rateAssignments.filter fun row => row.utilityAccountId = accountId ∧ row.effectiveFrom < span.finish ∧
    ∀ finish ∈ row.effectiveTo, span.start < finish

/-! ## tiered._rate_contexts -/

/-- The context of an assignment inside the cycle. -/
def cycleContext (book : RateBook) (cycle : Span) (assignment : RateAssignment) : Option RateContext :=
  (book.version? assignment.rateVersionId).bind fun version =>
    let start := max cycle.start assignment.effectiveFrom
    let finish := min cycle.finish (assignment.effectiveTo.getD cycle.finish)
    if finish ≤ start then none else some { start := start, finish := finish, version := version }

/-- Without any row the active version stands for the whole cycle. -/
def cycleFallback (book : RateBook) (account : UtilityAccount) (cycle : Span) : List RateAssignment :=
  ((account.activeRateVersionId.bind book.version?).map fun version =>
    { id := "", utilityAccountId := account.id, rateVersionId := version.id, effectiveFrom := cycle.start,
      effectiveTo := some cycle.finish, createdAt := cycle.start : RateAssignment }).toList

def rateContexts (book : RateBook) (account : UtilityAccount) (cycle : Span) : List RateContext :=
  let assignments := (book.overlapping account.id cycle).insertionSort fun first second =>
    first.effectiveFrom ≤ second.effectiveFrom
  (if assignments = [] then cycleFallback book account cycle else assignments).filterMap (cycleContext book cycle)

def contextAt (contexts : List RateContext) (instant : Int) : Option RateContext :=
  contexts.find? fun context => context.Holds instant

/-! ## history._load_rate_contexts -/

section History
variable (zones : String → Zone) (adjustmentBoundaries : RateVersion → List Int)

def effectiveBounds (version : RateVersion) : Int × Int :=
  let zone := zones version.timezone
  (zone.toUtc (wallAt version.effectiveFrom 0) false,
    match version.effectiveTo with
    | some day => zone.toUtc (wallAt (day + 1) 0) false
    | none => datetimeMax)

/-- The version is in effect by its own dates. -/
def InEffect (version : RateVersion) (instant : Int) : Prop :=
  (effectiveBounds zones version).1 ≤ instant ∧ instant < (effectiveBounds zones version).2

/-- The context of an assignment, clipped to the dates of its version. -/
def historyContext (book : RateBook) (range : Span) (assignment : RateAssignment) : Option RateContext :=
  (book.version? assignment.rateVersionId).bind fun version =>
    (book.plan? version.ratePlanId).bind fun _ =>
      let start := max assignment.effectiveFrom (effectiveBounds zones version).1
      let finish := min (assignment.effectiveTo.getD datetimeMax) (effectiveBounds zones version).2
      if finish ≤ range.start ∨ range.finish ≤ start ∨ finish ≤ start then none
      else some { start := start, finish := finish, version := version,
                  adjustmentBoundaries := adjustmentBoundaries version }

def historyFallback (book : RateBook) (account : UtilityAccount) : List RateAssignment :=
  ((account.activeRateVersionId.bind book.version?).map fun version =>
    { id := "", utilityAccountId := account.id, rateVersionId := version.id
      effectiveFrom := (effectiveBounds zones version).1
      effectiveTo := some (effectiveBounds zones version).2
      createdAt := (effectiveBounds zones version).1 : RateAssignment }).toList

/-- The sort key of a context: its start, its end and the id of its version. -/
def RateContext.Precedes (first second : RateContext) : Prop :=
  first.start < second.start ∨ (first.start = second.start ∧ (first.finish < second.finish ∨
    (first.finish = second.finish ∧ first.version.id ≤ second.version.id)))

instance (first second : RateContext) : Decidable (first.Precedes second) := inferInstanceAs (Decidable (_ ∨ _))

/-- The contexts of one account. -/
def loadRateContexts (book : RateBook) (account : UtilityAccount) (range : Span) : List RateContext :=
  let assignments := book.overlapping account.id range
  ((if assignments = [] then historyFallback zones book account else assignments).filterMap
    (historyContext zones adjustmentBoundaries book range)).insertionSort RateContext.Precedes

end History

/-- `_find_cost_contexts`: the pieces of an interval between the boundaries in it, with their contexts. -/
def findCostContexts (contexts : List RateContext) (start finish : Int) : List (Int × Int × Option RateContext) :=
  let inside := fun value => decide (start < value ∧ value < finish)
  let ordered := sortedSet ([start, finish] ++ contexts.flatMap fun context =>
    ([context.start, context.finish] ++ context.adjustmentBoundaries).filter inside)
  (Library.pairwise ordered).map fun (left, right) =>
    (left, right, contexts.find? fun context => context.Holds (left + half (right - left)))

/-! ## Pieces hold one context -/

section Pieces
variable {contexts : List RateContext} {start finish left right instant : Int} {selected : Option RateContext}

theorem findCostContexts_tiles (ordered : start < finish) : Tiles start finish
    (sortedSet ([start, finish] ++ contexts.flatMap fun context =>
      ([context.start, context.finish] ++ context.adjustmentBoundaries).filter fun value =>
        decide (start < value ∧ value < finish))) := by
  apply sortedSet_tiles (by simp) (by simp)
  intro item member
  rcases List.mem_append.mp member with ends | within
  · simp only [List.mem_cons, List.not_mem_nil, or_false] at ends
    omega
  · obtain ⟨context, _, inside⟩ := List.mem_flatMap.mp within
    have := (List.mem_filter.mp inside).2
    simp only [decide_eq_true_eq] at this
    omega

/-- The context of a piece is the one that is found at each of its instants. -/
theorem findCostContexts_piece (ordered : start < finish)
    (piece : (left, right, selected) ∈ findCostContexts contexts start finish) (after : left ≤ instant)
    (before : instant < right) : selected = contextAt contexts instant := by
  obtain ⟨⟨first, last⟩, member, same⟩ := List.mem_map.mp piece
  obtain ⟨rfl, rfl, rfl⟩ : first = left ∧ last = right ∧ _ := by simpa using same
  obtain ⟨fromStart, proper, upTo, empty⟩ := (findCostContexts_tiles ordered).piece member
  -- No context starts or ends strictly inside a piece.
  have steady : ∀ context ∈ contexts, ∀ edge ∈ [context.start, context.finish], edge ≤ first ∨ last ≤ edge := by
    intro context stored edge isEdge
    by_cases inside : start < edge ∧ edge < finish
    · apply empty
      rw [mem_sortedSet, List.mem_append, List.mem_flatMap]
      refine .inr ⟨context, stored, ?_⟩
      rw [List.mem_filter]
      exact ⟨List.mem_append_left _ isEdge, by simpa using inside⟩
    · omega
  have middle : 0 ≤ half (last - first) := half_nonneg (by omega)
  have short : half (last - first) < last - first := half_lt (by omega)
  rw [contextAt]
  apply List.find?_congr
  intro context stored
  have starts := steady context stored context.start (by simp)
  have ends := steady context stored context.finish (by simp)
  refine decide_eq_decide.mpr ⟨?_, ?_⟩ <;> rintro ⟨started, open_⟩ <;> constructor <;> omega

end Pieces

/-! ## What a context comes from -/

/-- Foreign keys: the version of an assignment and the plan of that version are stored. -/
def RateBook.References (book : RateBook) (accountId : String) : Prop :=
  ∀ row ∈ book.rateAssignments, row.utilityAccountId = accountId →
    ∃ version plan, book.version? row.rateVersionId = some version ∧ book.plan? version.ratePlanId = some plan

section Contexts
variable {book : RateBook} {accountId : String} {account : UtilityAccount} {span : Span} {row : RateAssignment}
  {context : RateContext} {instant : Int}

theorem RateBook.version?_id {versionId : String} {version : RateVersion} (found : book.version? versionId = some version) :
    version.id = versionId := by
  simpa using List.find?_some found

theorem mem_overlapping : row ∈ book.overlapping accountId span ↔ row ∈ book.rateAssignments ∧
    row.utilityAccountId = accountId ∧ row.effectiveFrom < span.finish ∧
      ∀ finish ∈ row.effectiveTo, span.start < finish := by
  simp [RateBook.overlapping]

theorem overlapping_of_covers (stored : row ∈ book.rateAssignments) (mine : row.utilityAccountId = accountId)
    (covers : row.Covers instant) (after : span.start ≤ instant) (before : instant < span.finish) :
    row ∈ book.overlapping accountId span :=
  mem_overlapping.mpr ⟨stored, mine, lt_of_le_of_lt covers.1 before,
    fun finish closes => lt_of_le_of_lt after (covers.2 finish closes)⟩

theorem cycleContext_some (found : cycleContext book span row = some context) (after : span.start ≤ instant)
    (before : instant < span.finish) :
    context.version.id = row.rateVersionId ∧ (context.Holds instant ↔ row.Covers instant) := by
  unfold cycleContext at found
  obtain ⟨version, stored, found⟩ := Option.bind_eq_some_iff.mp found
  dsimp only at found
  split at found
  · cases found
  · cases found
    refine ⟨RateBook.version?_id stored, ?_⟩
    simp only [RateContext.Holds, RateAssignment.Covers, RateAssignment.window, Window.Contains]
    cases row.effectiveTo <;> simp [after, before]

theorem cycleContext_returns (references : book.References accountId) (stored : row ∈ book.rateAssignments)
    (mine : row.utilityAccountId = accountId) (covers : row.Covers instant) (after : span.start ≤ instant)
    (before : instant < span.finish) : ∃ context, cycleContext book span row = some context := by
  obtain ⟨version, _, found, _⟩ := references row stored mine
  unfold cycleContext
  rw [found, Option.bind_some]
  dsimp only
  obtain ⟨started, open_⟩ := covers
  have starts : row.effectiveFrom ≤ instant := started
  have ends : instant < row.effectiveTo.getD span.finish := by
    cases closes : row.effectiveTo with
    | none => exact before
    | some finish => exact open_ finish closes
  rw [if_neg (by omega)]
  exact ⟨_, rfl⟩

variable {zones : String → Zone} {adjustmentBoundaries : RateVersion → List Int}

theorem historyContext_some (found : historyContext zones adjustmentBoundaries book span row = some context)
    (below : instant < datetimeMax) :
    book.version? row.rateVersionId = some context.version ∧
      (context.Holds instant ↔ row.Covers instant ∧ InEffect zones context.version instant) := by
  unfold historyContext at found
  obtain ⟨version, stored, found⟩ := Option.bind_eq_some_iff.mp found
  obtain ⟨plan, _, found⟩ := Option.bind_eq_some_iff.mp found
  dsimp only at found
  split at found
  · cases found
  · cases found
    refine ⟨stored, ?_⟩
    simp only [RateContext.Holds, RateAssignment.Covers, RateAssignment.window, Window.Contains, InEffect]
    cases row.effectiveTo with
    | none => simp only [Option.getD_none, max_le_iff, lt_min_iff, Option.not_mem_none, false_imp_iff, implies_true]; tauto
    | some finish =>
        simp only [Option.getD_some, max_le_iff, lt_min_iff, Option.mem_some_iff, forall_eq']
        tauto

theorem historyContext_returns (references : book.References accountId) (stored : row ∈ book.rateAssignments)
    (mine : row.utilityAccountId = accountId) (covers : row.Covers instant) {version : RateVersion}
    (found : book.version? row.rateVersionId = some version) (inEffect : InEffect zones version instant)
    (after : span.start ≤ instant) (before : instant < span.finish) :
    ∃ context, historyContext zones adjustmentBoundaries book span row = some context := by
  obtain ⟨other, plan, same, planned⟩ := references row stored mine
  obtain rfl := Option.some.inj (found.symm.trans same)
  unfold historyContext
  rw [found, Option.bind_some, planned, Option.bind_some]
  dsimp only
  obtain ⟨started, open_⟩ := covers
  have starts : row.effectiveFrom ≤ instant := started
  have ends : instant < row.effectiveTo.getD datetimeMax := by
    cases closes : row.effectiveTo with
    | none => exact lt_of_lt_of_le before span.representable
    | some finish => exact open_ finish closes
  obtain ⟨first, last⟩ := inEffect
  rw [if_neg (by omega)]
  exact ⟨_, rfl⟩

end Contexts

/-! ## Selection -/

/-- No assignment of the account has been cancelled. -/
def RateBook.NoCancelled (book : RateBook) (accountId : String) : Prop :=
  ∀ row ∈ book.rateAssignments, row.utilityAccountId = accountId → row.cancelledAt = none

/-- Both readers give an instant the version of the non-cancelled assignment that contains it, and none
without one, in every span that meets an assignment of the account. The history reader does so inside
the dates of the version. -/
structure RateBook.ReadersAgree (zones : String → Zone) (adjustmentBoundaries : RateVersion → List Int) (book : RateBook)
    (account : UtilityAccount) : Prop where
  tiered : ∀ (cycle : Span) (instant : Int), cycle.start ≤ instant → instant < cycle.finish →
    book.overlapping account.id cycle ≠ [] → ∀ versionId,
    (contextAt (rateContexts book account cycle) instant).map (fun context => context.version.id) = some versionId ↔
      book.Prices account.id instant versionId
  history : ∀ (range : Span) (start finish left right instant : Int) (selected : Option RateContext), start < finish →
    (left, right, selected) ∈
      findCostContexts (loadRateContexts zones adjustmentBoundaries book account range) start finish →
    left ≤ instant → instant < right → range.start ≤ instant → instant < range.finish →
    book.overlapping account.id range ≠ [] → ∀ versionId,
    selected.map (fun context => context.version.id) = some versionId ↔
      book.Prices account.id instant versionId ∧
        ∃ version, book.version? versionId = some version ∧ InEffect zones version instant

section Selection
variable {book : RateBook} {account : UtilityAccount} {cycle range : Span} {instant : Int} {context : RateContext}
  {versionId : String}

/-- The version of a selected context is that of the one assignment at the instant. -/
theorem selected_eq_iff {selected : Option RateContext} (InForce : String → Prop) (timeline : book.Timeline account.id)
    (below : instant < datetimeMax)
    (sound : ∀ context, selected = some context →
      book.Prices account.id instant context.version.id ∧ InForce context.version.id)
    (complete : ∀ versionId, book.Prices account.id instant versionId → InForce versionId → selected ≠ none) :
    selected.map (fun context => context.version.id) = some versionId ↔
      book.Prices account.id instant versionId ∧ InForce versionId := by
  constructor
  · intro found
    obtain ⟨context, chosen, rfl⟩ := Option.map_eq_some_iff.mp found
    exact sound context chosen
  · rintro ⟨priced, inForce⟩
    obtain ⟨context, chosen⟩ := Option.ne_none_iff_exists'.mp (complete versionId priced inForce)
    obtain ⟨row, mine, covers, same⟩ := (sound context chosen).1
    obtain ⟨other, otherMine, otherCovers, otherSame⟩ := priced
    obtain rfl := timeline.apart.unique below mine otherMine covers otherCovers
    rw [chosen, Option.map_some, ← same, otherSame]

theorem RateBook.prices_of_row (clean : book.NoCancelled account.id) {row : RateAssignment}
    (member : row ∈ book.overlapping account.id cycle) (covers : row.Covers instant) :
    book.Prices account.id instant row.rateVersionId := by
  obtain ⟨stored, mine, _⟩ := mem_overlapping.mp member
  exact ⟨row, RateBook.mem_active.mpr ⟨stored, mine, clean row stored mine⟩, covers, rfl⟩

theorem tiered_selects (timeline : book.Timeline account.id) (clean : book.NoCancelled account.id)
    (references : book.References account.id) (after : cycle.start ≤ instant) (before : instant < cycle.finish)
    (met : book.overlapping account.id cycle ≠ []) :
    (contextAt (rateContexts book account cycle) instant).map (fun context => context.version.id) = some versionId ↔
      book.Prices account.id instant versionId := by
  have rows : ∀ row, row ∈ (book.overlapping account.id cycle).insertionSort (fun first second =>
      first.effectiveFrom ≤ second.effectiveFrom) ↔ row ∈ book.overlapping account.id cycle :=
    fun row => List.mem_insertionSort _
  have present : (book.overlapping account.id cycle).insertionSort (fun first second =>
      first.effectiveFrom ≤ second.effectiveFrom) ≠ [] := by
    obtain ⟨row, member⟩ := List.exists_mem_of_ne_nil _ met
    exact List.ne_nil_of_mem ((rows row).mpr member)
  have below := lt_of_lt_of_le before cycle.representable
  rw [contextAt, rateContexts, if_neg present]
  rw [← and_true (book.Prices account.id instant versionId)]
  refine selected_eq_iff (fun _ => True) timeline below ?_ ?_
  · intro context chosen
    obtain ⟨row, member, made⟩ := List.mem_filterMap.mp (List.mem_of_find?_eq_some chosen)
    obtain ⟨version, holds⟩ := cycleContext_some made after before
    have covers := holds.mp (by simpa using List.find?_some chosen)
    exact ⟨version ▸ book.prices_of_row clean ((rows row).mp member) covers, trivial⟩
  · rintro versionId ⟨row, mine, covers, rfl⟩ _
    obtain ⟨stored, owned⟩ := RateBook.mem_active.mp mine
    obtain ⟨context, made⟩ := cycleContext_returns references stored owned.1 covers after before
    have member := (rows row).mpr (overlapping_of_covers stored owned.1 covers after before)
    intro missing
    have outside := List.find?_eq_none.mp missing context (List.mem_filterMap.mpr ⟨row, member, made⟩)
    rw [decide_eq_true_eq] at outside
    exact outside ((cycleContext_some made after before).2.mpr covers)

variable {zones : String → Zone} {adjustmentBoundaries : RateVersion → List Int}

theorem history_selects (timeline : book.Timeline account.id) (clean : book.NoCancelled account.id)
    (references : book.References account.id) (after : range.start ≤ instant) (before : instant < range.finish)
    (met : book.overlapping account.id range ≠ []) :
    (contextAt (loadRateContexts zones adjustmentBoundaries book account range) instant).map
        (fun context => context.version.id) = some versionId ↔
      book.Prices account.id instant versionId ∧
        ∃ version, book.version? versionId = some version ∧ InEffect zones version instant := by
  have below := lt_of_lt_of_le before range.representable
  have contexts : ∀ context, context ∈ loadRateContexts zones adjustmentBoundaries book account range ↔
      ∃ row ∈ book.overlapping account.id range,
        historyContext zones adjustmentBoundaries book range row = some context := by
    intro context
    rw [loadRateContexts, if_neg met, List.mem_insertionSort, List.mem_filterMap]
  rw [contextAt]
  apply selected_eq_iff (fun versionId => ∃ version, book.version? versionId = some version ∧ InEffect zones version instant)
    timeline below
  · intro context chosen
    obtain ⟨row, member, made⟩ := (contexts context).mp (List.mem_of_find?_eq_some chosen)
    obtain ⟨stored, holds⟩ := historyContext_some made below
    have version := RateBook.version?_id stored
    obtain ⟨covers, inEffect⟩ := holds.mp (by simpa using List.find?_some chosen)
    exact ⟨version ▸ book.prices_of_row clean member covers, context.version, version ▸ stored, inEffect⟩
  · rintro versionId ⟨row, mine, covers, rfl⟩ ⟨version, found, inEffect⟩
    obtain ⟨stored, owned⟩ := RateBook.mem_active.mp mine
    obtain ⟨context, made⟩ := historyContext_returns references stored owned.1 covers found inEffect after before
    obtain ⟨same, holds⟩ := historyContext_some made below
    obtain rfl := Option.some.inj (found.symm.trans same)
    intro missing
    have outside := List.find?_eq_none.mp missing context
      ((contexts context).mpr ⟨row, overlapping_of_covers stored owned.1 covers after before, made⟩)
    rw [decide_eq_true_eq] at outside
    exact outside (holds.mpr ⟨covers, inEffect⟩)

/-- Without cancelled rows the readers follow the timeline. -/
theorem readersAgree_of_noCancelled (timeline : book.Timeline account.id) (clean : book.NoCancelled account.id)
    (references : book.References account.id) : book.ReadersAgree zones adjustmentBoundaries account where
  tiered := fun _ _ after before met _ => tiered_selects timeline clean references after before met
  history := fun range start finish left right instant selected ordered piece from_ upTo after before met versionId => by
    rw [findCostContexts_piece ordered piece from_ upTo]
    exact history_selects timeline clean references after before met

end Selection

/-! ## Runs that cancel nothing -/

/-- The operation cancels no assignment: it replaces or ends none at the instant it starts. Repairing an
account without overlaps cancels nothing. -/
def Operation.CancelsNothing (book : RateBook) : Operation → Prop
  | assignVersion request _ _ => book.replayed? request ≠ none ∨ request.replaceCurrent = false ∨
      ∀ row ∈ book.active request.accountId, row.effectiveFrom ≠ request.effectiveFrom
  | endAssignment request _ => ∀ row ∈ book.active request.accountId, row.effectiveFrom ≠ request.effectiveAt
  | resolveAssignmentConflict _ _ => True

/-- What a run keeps of the account. -/
structure RateBook.Clean (book : RateBook) (accountId : String) : Prop where
  timeline : book.Timeline accountId
  noCancelled : book.NoCancelled accountId
  references : book.References accountId

section Runs
variable {services : Services} {book after : RateBook} {accountId : String} {change : RateAssignment → RateAssignment}

/-- Continued rows keep their references while versions and plans stay. -/
theorem Rewrites.references (rewrites : Rewrites change book.rateAssignments) (references : book.References accountId)
    (table : after.rateAssignments = book.rateAssignments.map change)
    (versions : after.rateVersions = book.rateVersions) (plans : after.ratePlans = book.ratePlans) :
    after.References accountId := by
  intro row stored mine
  rw [table] at stored
  obtain ⟨before, kept, rfl⟩ := List.mem_map.mp stored
  have continues := rewrites.continues before kept
  obtain ⟨version, plan, found, planned⟩ := references before kept (continues.utilityAccountId ▸ mine)
  rw [← continues.rateVersionId] at found
  refine ⟨version, plan, ?_, ?_⟩
  · rwa [RateBook.version?, versions]
  · rwa [RateBook.plan?, plans]

theorem NoCancelled.map (clean : book.NoCancelled accountId)
    (table : after.rateAssignments = book.rateAssignments.map change)
    (keeps : ∀ row ∈ book.rateAssignments, (change row).utilityAccountId = accountId →
      row.utilityAccountId = accountId ∧ (change row).cancelledAt = row.cancelledAt) : after.NoCancelled accountId := by
  intro row stored mine
  rw [table] at stored
  obtain ⟨before, kept, rfl⟩ := List.mem_map.mp stored
  obtain ⟨owned, state⟩ := keeps before kept mine
  exact state.trans (clean before kept owned)

theorem place_clean {request : AssignmentRequest} {placement : Placement} (id : String) {now : Int}
    (accepted : Accepted book request placement) (clean : book.Clean accountId)
    (starts : request.accountId = accountId → request.replaceCurrent = false ∨
      ∀ row ∈ book.active request.accountId, row.effectiveFrom ≠ request.effectiveFrom) :
    (book.place request id now placement).Clean accountId := by
  have rewrites : Rewrites (fun row => if row ∈ placement.replaced then replaceRow request now row else row)
      book.rateAssignments := replaced_rewrites accepted
  have replaced : (replacedBook book request now placement).NoCancelled accountId := by
    refine NoCancelled.map clean.noCancelled rfl ?_
    intro row stored mine
    refine ⟨(rewrites.continues row stored).utilityAccountId ▸ mine, ?_⟩
    by_cases written : row ∈ placement.replaced
    · obtain ⟨active, _, replaces, _⟩ := accepted.placed.replaced row written
      have owned := (RateBook.mem_active.mp active).2.1
      have same : request.accountId = accountId := by
        rw [← owned, ← (rewrites.continues row stored).utilityAccountId, mine]
      rcases starts same with never | apart
      · rw [never] at replaces
        cases replaces
      · rw [if_pos written, replaceRow, if_neg (apart row active)]
    · rw [if_neg written]
  have referenced : (replacedBook book request now placement).References accountId :=
    rewrites.references clean.references rfl rfl rfl
  refine ⟨place_timeline accepted id clean.timeline, ?_, ?_⟩
  · intro row stored mine
    rw [place_rateAssignments, List.mem_append, List.mem_singleton] at stored
    rcases stored with kept | rfl
    · exact replaced row kept mine
    · rfl
  · intro row stored mine
    rw [place_rateAssignments, List.mem_append, List.mem_singleton] at stored
    rcases stored with kept | rfl
    · exact referenced row kept mine
    · exact accepted.version

theorem endCurrent_clean {request : EndRequest} {now : Int} {current : RateAssignment}
    (active : current ∈ book.active request.accountId) (covers : current.Covers request.effectiveAt)
    (clean : book.Clean accountId)
    (starts : request.accountId = accountId → ∀ row ∈ book.active request.accountId, row.effectiveFrom ≠ request.effectiveAt) :
    (book.endCurrent request now current).Clean accountId := by
  have rewrites : Rewrites (fun row => if row = current then endRow request now row else row) book.rateAssignments :=
    endCurrent_rewrites covers
  refine ⟨rewrites.timeline clean.timeline rfl, NoCancelled.map clean.noCancelled rfl ?_,
    rewrites.references clean.references rfl rfl rfl⟩
  intro row stored mine
  have owner := (rewrites.continues row stored).utilityAccountId
  refine ⟨owner ▸ mine, ?_⟩
  by_cases written : row = current
  · subst written
    have same : request.accountId = accountId := (RateBook.mem_active.mp active).2.1.symm.trans (owner ▸ mine)
    rw [if_pos rfl, endRow, if_neg (starts same row active)]
  · rw [if_neg written]

theorem perform_clean (operation : Operation) (clean : book.Clean accountId)
    (condition : operation.accountId = accountId → operation.CancelsNothing book) :
    (operation.perform services book).2.Clean accountId := by
  cases operation with
  | assignVersion request id now =>
      dsimp only [Operation.perform, Operation.accountId, Operation.CancelsNothing] at *
      obtain ⟨_, raised⟩ | ⟨_, _, _, replayed⟩ | ⟨fresh, placement, _, accepted, placed⟩ :=
        assignVersion_cases request id
      · exact raised ▸ clean
      · exact replayed ▸ clean
      · rw [placed]
        apply place_clean id accepted clean
        intro same
        exact (condition same).resolve_left (by simp [fresh])
  | endAssignment request now =>
      dsimp only [Operation.perform, Operation.accountId, Operation.CancelsNothing] at *
      obtain ⟨_, raised⟩ | ⟨_, current, _, active, covers, ended⟩ := endAssignment_cases request
      · exact raised ▸ clean
      · rw [ended]
        exact endCurrent_clean active covers clean condition
  | resolveAssignmentConflict request now =>
      dsimp only [Operation.perform, Operation.accountId, Operation.CancelsNothing] at *
      obtain ⟨_, raised⟩ | ⟨_, nothing⟩ | ⟨conflicts, ended, _, mine, _, written⟩ := resolveAssignmentConflict_cases request
      · exact raised ▸ clean
      · exact nothing ▸ clean
      · -- Only an account with overlaps is repaired, so this one is another account.
        have other : request.accountId ≠ accountId := by
          rintro rfl
          exact conflicts clean.timeline.apart
        have rewrites : Rewrites (fun row => if row ∈ ended then cancelConflict request now row else row)
            book.rateAssignments := .of_rows fun row _ => cancelConflict_writes request row
        rw [written]
        refine ⟨rewrites.timeline clean.timeline rfl, NoCancelled.map clean.noCancelled rfl ?_,
          rewrites.references clean.references rfl rfl rfl⟩
        intro row stored owned
        have owner := (rewrites.continues row stored).utilityAccountId
        refine ⟨owner ▸ owned, ?_⟩
        rw [if_neg fun member => other ((mine row member).symm.trans (owner ▸ owned))]

/-- Every zone is UTC and no version has dated adjustments. -/
def utcZone (_ : String) : Zone where
  utcoffset := fun _ => 0
  fold := fun _ => false
  wallOffset := fun _ _ => 0
  bounded := fun _ => by decide

def noAdjustments (_ : RateVersion) : List Int := []

def householdAccount : UtilityAccount := { id := "service", siteId := "site", activeRateVersionId := some "flat" }

theorem household_clean : household.Clean "service" := by
  refine ⟨household_timeline, ?_, ?_⟩
  · intro row stored _
    simp only [household, List.mem_singleton] at stored
    rw [stored]
  · intro row stored _
    simp only [household, List.mem_singleton] at stored
    rw [stored]
    exact ⟨_, _, rfl, rfl⟩

/-- The plan is changed at 100, after it has started. -/
def laterChange : Operation :=
  .assignVersion { accountId := "service", rateVersionId := "tou", effectiveFrom := 100, replaceCurrent := true } "second" 150

/-- The plan is replaced from the very instant it started. -/
def sameInstantChange : Operation :=
  .assignVersion { accountId := "service", rateVersionId := "tou", effectiveFrom := 0, replaceCurrent := true } "second" 150

def firstDay : Span := ⟨0, 1000, by decide⟩

end Runs

end PowerMonitor.Assignments
