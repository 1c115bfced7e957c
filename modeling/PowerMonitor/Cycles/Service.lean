import PowerMonitor.Cycles.Records
import PowerMonitor.Library.Fallible

/-! The operations on billing cycles.

Each request is atomic: one that fails leaves the tables as they were. What the tier calculation computes is an
input, from which a request either returns without a result, raises, or stores the computed rows.
-/

set_option autoImplicit false
namespace PowerMonitor.Cycles
open Library Rates Calendar

def raise {α : Type} (status : Nat) (title detail code : String) : Except Failure α :=
  .error (.problem { status := status, title := title, detail := detail, code := code })

def guardAgainst (condition : Prop) [Decidable condition] (status : Nat) (title detail code : String) :
    Except Failure Unit :=
  raiseIf condition (.problem { status := status, title := title, detail := detail, code := code })

def required {α : Type} (value : Option α) (status : Nat) (title detail code : String) : Except Failure α :=
  match value with
  | some found => .ok found
  | none => raise status title detail code

/-! ## current_billing_cycle -/

/-- The plan on which `expected_cycle_bounds` asks for the cycle of an instant. -/
def cyclePlan (account : CycleAccount) : Plan :=
  { pricingModel := .flat, flatRatePerKwh := some 0, expectedStartDay := account.billingCycleStartDay }

theorem validatePlan_cyclePlan (account : CycleAccount) : validatePlan (cyclePlan account) = .ok () := rfl

def expectedCycleBounds (account : CycleAccount) (instant : Int) : Int × Int :=
  RateEngine.billingCycleBounds ⟨cyclePlan account, account.zone, validatePlan_cyclePlan account⟩ instant

/-- `ORDER BY explicit_meter_dates DESC, override_revision DESC` -/
def Preferred (first second : BillingCycle) : Prop :=
  (first.explicitMeterDates = true ∧ second.explicitMeterDates = false) ∨
    (first.explicitMeterDates = second.explicitMeterDates ∧ second.overrideRevision ≤ first.overrideRevision)

instance (first second : BillingCycle) : Decidable (Preferred first second) := inferInstanceAs (Decidable (_ ∨ _))

def CycleBook.holding (book : CycleBook) (accountId : String) (instant : Int) : Option BillingCycle :=
  (((book.of accountId).filter fun cycle => cycle.Holds instant).insertionSort Preferred).head?

def generatedCycle (account : CycleAccount) (instant : Int) (id : String) (now : Int) : BillingCycle :=
  { id := id
    utilityAccountId := account.id
    startsAt := (expectedCycleBounds account instant).1
    endsAt := (expectedCycleBounds account instant).2
    updatedAt := now }

/-- `current_billing_cycle` with `create=True`. -/
def currentBillingCycle (book : CycleBook) (account : CycleAccount) (instant : Int) (id : String) (now : Int) :
    Except Failure (BillingCycle × CycleBook) :=
  match book.holding account.id instant with
  | some cycle => .ok (cycle, book)
  | none => do
      let cycle := generatedCycle account instant id now
      let book ← book.addCycle cycle
      pure (cycle, book)

/-! ## Calculations -/

/-- What `calculate_cycle_tier_status` comes to: it returns early without a status, raises, or has rows to store, for
which a tier definition may be missing. -/
inductive CycleCalculation where
  | unavailable
  | raised (failure : Failure)
  | computed (usageSource : CalculationRole) (segments : List SegmentRow) (summaries : List (String × Rat × Rat))
      (definitionMissing : Bool)

def recalculated (usageSource : CalculationRole) (now : Int) (cycle : BillingCycle) : BillingCycle :=
  { cycle with
    recalculationVersion := cycle.recalculationVersion + 1
    status := if cycle.explicitMeterDates then .confirmed else .expected
    usageSourceType := usageSource
    recalculationRequired := false
    updatedAt := now }

/-- `calculate_cycle_tier_status` with `persist=True`; the flag says whether a status is available. -/
def calculateCycle (book : CycleBook) (cycle : BillingCycle) (calculation : CycleCalculation) (now : Int) :
    Except Failure (Bool × CycleBook) :=
  match calculation with
  | .unavailable => .ok (false, book)
  | .raised failure => .error failure
  | .computed usageSource segments summaries definitionMissing => do
      guardAgainst (cycle.finalizedAt ≠ none ∨ cycle.status = .finalized) 409 "Billing cycle is finalized"
        "Finalized tier allocations are immutable" "billing_cycle_finalized"
      let version := cycle.recalculationVersion + 1
      let book ← book.updateCycles (fun row => row.id = cycle.id) (recalculated usageSource now)
      guardAgainst (definitionMissing = true) 409 "Tier definition missing"
        "The immutable rate version is missing normalized tier rows" "tier_definition_missing"
      pure (true, { book with
        segments := book.segments ++ segments.map fun row => ⟨cycle.id, version, row⟩
        summaries := book.summaries ++ summaries.map fun (tierId, usage, charge) => ⟨cycle.id, version, tierId, usage, charge⟩ })

/-- `_account` -/
def requireAccount (book : CycleBook) (accountId : String) : Except Failure CycleAccount :=
  required (book.account? accountId) 404 "Utility account not found" "Resource does not exist" "utility_account_missing"

/-- `_cycle` -/
def requireCycle (book : CycleBook) (accountId cycleId : String) : Except Failure BillingCycle :=
  required ((book.of accountId).find? fun cycle => cycle.id = cycleId) 404 "Billing cycle not found"
    "Resource does not exist" "billing_cycle_missing"

def recalculateCycle (book : CycleBook) (accountId cycleId : String) (calculation : CycleCalculation) (now : Int) :
    Except Failure CycleBook := do
  let account ← requireAccount book accountId
  let cycle ← requireCycle book account.id cycleId
  let (_, book) ← calculateCycle book cycle calculation now
  pure book

def recalculateCurrentCycle (book : CycleBook) (accountId id : String) (calculation : CycleCalculation) (now : Int) :
    Except Failure CycleBook := do
  let account ← requireAccount book accountId
  let (current, book) ← currentBillingCycle book account now id now
  let cycle ← requireCycle book account.id current.id
  let (_, book) ← calculateCycle book cycle calculation now
  pure book

def finalized (hash : String) (now : Int) (cycle : BillingCycle) : BillingCycle :=
  { cycle with lockedSnapshotHash := some hash, finalizedAt := some now, status := .finalized }

def finalizeCycle (book : CycleBook) (accountId cycleId : String) (calculation : CycleCalculation) (hash : String)
    (now : Int) : Except Failure CycleBook := do
  let account ← requireAccount book accountId
  let cycle ← requireCycle book account.id cycleId
  if cycle.finalizedAt ≠ none then pure book
  else do
    let (available, book) ← calculateCycle book cycle calculation now
    guardAgainst (available = false) 409 "Billing cycle cannot be finalized"
      "Complete rate, usage-authority, and cycle calculation setup before finalizing" "billing_cycle_not_calculated"
    book.updateCycles (fun row => row.id = cycle.id) (finalized hash now)

/-! ## Manual usage -/

structure ManualUsageRequest where
  accountId : String
  effectiveAt : Int
  cumulativeKwh : Rat
  idempotencyKey : String

def enterManualUsage (book : CycleBook) (request : ManualUsageRequest) (id : String) (now : Int) :
    Except Failure CycleBook := do
  let account ← requireAccount book request.accountId
  if book.manualUsages.any (fun row => row.utilityAccountId = account.id ∧ row.idempotencyKey = request.idempotencyKey) then
    pure book
  else do
    let (cycle, book) ← currentBillingCycle book account request.effectiveAt id now
    pure { book with manualUsages := book.manualUsages ++
      [⟨account.id, cycle.id, request.effectiveAt, request.cumulativeKwh, request.idempotencyKey⟩] }

/-! ## Usage imports -/

/-- `normalized_import_rows` on rows whose timestamps and decimals are read already. -/
def validImportRow (kind : ImportKind) : ImportRow → Prop
  | .usage start finish energyKwh => (kind = .interval ∨ kind = .daily) ∧ start < finish ∧ 0 ≤ energyKwh
  | .cumulative _ cumulativeKwh => kind = .cycleCumulative ∧ 0 ≤ cumulativeKwh
  | .cycleDates startsAt endsAt => kind = .cycleDates ∧ startsAt < endsAt ∧ 20 * dayLength ≤ endsAt - startsAt ∧
      endsAt - startsAt ≤ 45 * dayLength
  | .billTotal startsAt endsAt totalAmount usageKwh _ => kind = .billTotal ∧ startsAt < endsAt ∧ 0 ≤ totalAmount ∧
      ∀ usage ∈ usageKwh, 0 ≤ usage

instance (kind : ImportKind) (row : ImportRow) : Decidable (validImportRow kind row) := by
  cases row <;> unfold validImportRow <;> infer_instance

def normalizedImportRows (kind : ImportKind) (rows : List ImportRow) : Except Failure (List ImportRow) := do
  guardAgainst (¬ ∀ row ∈ rows, validImportRow kind row) 422 "Usage import is invalid"
    "Correct the field mapping, timestamps, and exact decimal values" "usage_import_invalid"
  pure (sortedBy (fun row : ImportRow => row.window.1) rows)

/-- The sweep of `import_quality` over the sorted windows. -/
def overlapCount : List (Int × Int) → Option Int → Nat
  | [], _ => 0
  | window :: rest, furthestEnd =>
      (if ∃ finish ∈ furthestEnd, window.1 < finish then 1 else 0) +
        overlapCount rest (some (max (furthestEnd.getD window.2) window.2))

structure ImportQuality where
  duplicateRowCount : Nat
  overlapCount : Nat
  deriving DecidableEq, Repr

def importQuality (kind : ImportKind) (rows : List ImportRow) : ImportQuality where
  duplicateRowCount := rows.length - rows.dedup.length
  overlapCount :=
    if kind = .cycleCumulative then 0
    else overlapCount (sortedBy (fun window : Int × Int => toLex window) (rows.map ImportRow.window)) none

inductive ConflictPolicy where | reject | preferUtility | preferMonitored | keepSeparate
  deriving DecidableEq, Repr

/-- A committed import. `conflicts` is the number of rows that meet monitored data. -/
structure ImportRequest where
  accountId : String
  importKind : ImportKind
  timezone : String
  rows : List ImportRow
  conflictPolicy : ConflictPolicy := .reject
  conflicts : Nat := 0

/-- `protected_calculation_role`: the role follows from the kind. -/
def ImportRequest.calculationRole (request : ImportRequest) : CalculationRole :=
  if request.importKind = .cycleDates ∨ request.importKind = .billTotal then .referenceOnly
  else .advancedExternalCorrection

def importedDates (startsAt endsAt now : Int) (cycle : BillingCycle) : BillingCycle :=
  { cycle with
    startsAt := startsAt
    endsAt := endsAt
    explicitMeterDates := true
    status := .recalculating
    boundarySource := .utilityImport
    usageSourceType := .sensorMeasurements
    recalculationRequired := true
    overrideRevision := cycle.overrideRevision + 1
    updatedAt := now }

/-- The cycle that new dates are for: the only one they meet, or a new one. -/
def datedCycle (book : CycleBook) (accountId : String) (startsAt endsAt : Int) (id : String) (now : Int)
    (change : BillingCycle → BillingCycle) : Except Failure CycleBook :=
  match book.meeting accountId startsAt endsAt with
  | [] => book.addCycle (change { id := id, utilityAccountId := accountId, startsAt := startsAt, endsAt := endsAt, updatedAt := now })
  | cycle :: _ => book.updateCycles (fun row => row.id = cycle.id) change

/-- One row of imported cycle dates. -/
def importCycleDates (accountId : String) (now : Int) (book : CycleBook) (row : (Int × Int) × String) :
    Except Failure CycleBook := do
  let overlapping := book.meeting accountId row.1.1 row.1.2
  guardAgainst (∃ cycle ∈ overlapping, cycle.finalizedAt ≠ none) 409 "Finalized cycle is protected"
    "Imported cycle dates cannot rewrite a finalized billing cycle" "billing_cycle_finalized"
  guardAgainst (1 < overlapping.length) 409 "Imported dates overlap multiple billing cycles"
    "Correct the existing unfinalized cycle boundaries before committing this import" "billing_cycle_multiple_overlap"
  datedCycle book accountId row.1.1 row.1.2 row.2 now (importedDates row.1.1 row.1.2 now)

/-- The unfinalized cycles of the account that meet a window are calculated again. -/
def Affected (accountId : String) (window : Int × Int) (cycle : BillingCycle) : Prop :=
  cycle.utilityAccountId = accountId ∧ cycle.Meets window.1 window.2 ∧ cycle.finalizedAt = none

instance (accountId : String) (window : Int × Int) (cycle : BillingCycle) : Decidable (Affected accountId window cycle) :=
  inferInstanceAs (Decidable (_ ∧ _))

def reopened (role : CalculationRole) (now : Int) (cycle : BillingCycle) : BillingCycle :=
  { cycle with
    status := .recalculating
    recalculationRequired := true
    usageSourceType := if role = .advancedExternalCorrection then .advancedExternalCorrection else cycle.usageSourceType
    updatedAt := now }

def reopenCycles (accountId : String) (change : BillingCycle → BillingCycle) (book : CycleBook) (window : Int × Int) :
    Except Failure CycleBook :=
  book.updateCycles (fun cycle => decide (Affected accountId window cycle)) change

def newUsageImport (request : ImportRequest) (id digest : String) (rows : List ImportRow) : UsageImport :=
  { id := id, utilityAccountId := request.accountId, importKind := request.importKind
    calculationRole := request.calculationRole, contentSha256 := digest, normalizedRows := rows }

/-- The checks of a committed import, down to its rows. -/
def checkedImportRows (digest : ImportKind → String → List ImportRow → String) (book : CycleBook) (request : ImportRequest) :
    Except Failure (List ImportRow) := do
  let _ ← requireAccount book request.accountId
  let rows ← normalizedImportRows request.importKind request.rows
  guardAgainst (∃ item ∈ book.imports, item.utilityAccountId = request.accountId ∧
      item.contentSha256 = digest request.importKind request.timezone rows) 409 "Usage import already exists"
    "This exact normalized import was already recorded" "usage_import_duplicate"
  guardAgainst ((importQuality request.importKind rows).duplicateRowCount ≠ 0 ∨
      (importQuality request.importKind rows).overlapCount ≠ 0) 422 "Usage import contains duplicate or overlapping rows"
    "Remove duplicate rows and make imported windows non-overlapping before committing" "usage_import_internal_overlap"
  guardAgainst (request.conflicts ≠ 0 ∧ request.conflictPolicy = .reject) 409 "Usage import overlaps monitored data"
    "Choose an explicit conflict policy after reviewing the preview" "usage_import_conflict"
  pure rows

/-- `import_usage` with `commit`; `ids` are those of the cycles that the rows of imported dates may create. -/
def importUsage (digest : ImportKind → String → List ImportRow → String) (book : CycleBook) (request : ImportRequest)
    (id : String) (ids : Nat → String) (now : Int) : Except Failure CycleBook := do
  let rows ← checkedImportRows digest book request
  let item := newUsageImport request id (digest request.importKind request.timezone rows) rows
  let book := { book with imports := book.imports ++ [item] }
  if request.importKind = .cycleDates then
    ((rows.map ImportRow.window).mapIdx fun index window => (window, ids index)).foldlM
      (importCycleDates request.accountId now) book
  else (rows.map ImportRow.window).foldlM (reopenCycles request.accountId (reopened request.calculationRole now)) book

def reverseUsageImport (book : CycleBook) (accountId importId : String) (now : Int) : Except Failure CycleBook := do
  let account ← requireAccount book accountId
  let item ← required (book.imports.find? fun item => item.id = importId ∧ item.utilityAccountId = account.id) 404
    "Usage import not found" "Resource does not exist" "usage_import_missing"
  if item.reversedAt ≠ none then pure book
  else do
    let windows := item.normalizedRows.map ImportRow.window
    guardAgainst (∃ window ∈ windows, ∃ cycle ∈ book.meeting account.id window.1 window.2, cycle.finalizedAt ≠ none) 409
      "Finalized cycle is protected"
      "Add a reconciliation adjustment instead of reversing evidence used by a finalized cycle" "billing_cycle_finalized"
    let book := { book with imports := book.imports.map fun row =>
      if row.id = item.id then { row with reversedAt := some now } else row }
    windows.foldlM (reopenCycles account.id fun cycle => { cycle with status := .recalculating, updatedAt := now }) book

/-! ## Dates set by an administrator or a bill -/

/-- `BillingCycleOverrideWrite`, whose days are whole days of the difference. -/
structure OverrideRequest where
  accountId : String
  startsAt : Int
  endsAt : Int
  source : BoundarySource := .manualOverride
  ordered : startsAt < endsAt
  days : 20 ≤ (endsAt - startsAt) / dayLength ∧ (endsAt - startsAt) / dayLength ≤ 45

def overridden (request : OverrideRequest) (now : Int) (cycle : BillingCycle) : BillingCycle :=
  { cycle with
    startsAt := request.startsAt
    endsAt := request.endsAt
    explicitMeterDates := true
    status := .confirmed
    boundarySource := request.source
    overrideRevision := cycle.overrideRevision + 1
    updatedAt := now }

def overrideBillingCycle (book : CycleBook) (request : OverrideRequest) (id : String) (now : Int) :
    Except Failure CycleBook := do
  let account ← requireAccount book request.accountId
  let overlapping := book.meeting account.id request.startsAt request.endsAt
  guardAgainst (∃ cycle ∈ overlapping, cycle.finalizedAt ≠ none) 409 "Finalized cycle is protected"
    "Create a reconciliation adjustment instead of changing finalized dates" "billing_cycle_finalized"
  guardAgainst (1 < overlapping.length) 409 "Dates overlap multiple billing cycles"
    "Correct one unfinalized cycle at a time" "billing_cycle_multiple_overlap"
  datedCycle book account.id request.startsAt request.endsAt id now (overridden request now)

/-- The cycle draft of a bill, and whether the bill is approved. -/
structure CycleDraft where
  accountId : String
  approved : Bool
  imported : Bool := false
  startsAt : Option Int
  endsAt : Option Int

def approvedDates (now : Int) (cycle : BillingCycle) : BillingCycle :=
  { cycle with
    explicitMeterDates := true
    status := .confirmed
    boundarySource := .utilityImport
    overrideRevision := cycle.overrideRevision + 1
    updatedAt := now
    recalculationRequired := true }

def draftCycle (accountId : String) (startsAt endsAt : Int) (id : String) (now : Int) : BillingCycle :=
  { id := id, utilityAccountId := accountId, startsAt := startsAt, endsAt := endsAt, explicitMeterDates := true
    status := .confirmed, boundarySource := .utilityImport, recalculationRequired := true, updatedAt := now }

def draftDates (draft : CycleDraft) : Except Failure (Int × Int) :=
  match draft.startsAt, draft.endsAt with
  | some startsAt, some endsAt => .ok (startsAt, endsAt)
  | _, _ =>
      raise 422 "Billing-cycle draft incomplete" "Reviewed cycle start and end dates are required" "bill_cycle_draft_incomplete"

/-- Only a cycle with the very same bounds is looked for. -/
def applyDraftDates (book : CycleBook) (accountId : String) (startsAt endsAt : Int) (id : String) (now : Int) :
    Except Failure CycleBook :=
  match (book.of accountId).find? fun cycle => cycle.startsAt = startsAt ∧ cycle.endsAt = endsAt with
  | none => book.addCycle (draftCycle accountId startsAt endsAt id now)
  | some existing => do
      guardAgainst (existing.finalizedAt ≠ none) 409 "Billing cycle is finalized"
        "Finalized billing evidence cannot be overwritten" "billing_cycle_finalized"
      book.updateCycles (fun row => row.id = existing.id) (approvedDates now)

def approveCycleDraft (book : CycleBook) (draft : CycleDraft) (id : String) (now : Int) : Except Failure CycleBook := do
  let account ← requireAccount book draft.accountId
  guardAgainst (draft.approved = false) 409 "Bill review is incomplete"
    "Review all required fields and conflicts before applying billing-cycle dates" "bill_review_incomplete"
  if draft.imported then pure book
  else do
    let (startsAt, endsAt) ← draftDates draft
    applyDraftDates book account.id startsAt endsAt id now

/-! ## The worker and the readings -/

/-- The current cycle of a configured account is calculated for the first time. -/
def prepareCurrentCycle (ids : String → String) (now : Int) (book : CycleBook) (account : CycleAccount) :
    Except Failure CycleBook := do
  let (cycle, book) ← currentBillingCycle book account now (ids account.id) now
  if cycle.recalculationVersion = 0 ∧ cycle.finalizedAt = none then
    book.updateCycles (fun row => row.id = cycle.id) fun row => { row with status := .recalculating }
  else pure book

/-- One cycle of the worker's batch; a cycle without an account is put back. -/
def processRecalculation (calculations : String → CycleCalculation) (now : Int) (book : CycleBook) (cycle : BillingCycle) :
    Except Failure CycleBook :=
  match book.account? cycle.utilityAccountId with
  | none => book.updateCycles (fun row => row.id = cycle.id) fun row => { row with status := .expected }
  | some _ => do
      let (available, book) ← calculateCycle book cycle (calculations cycle.id) now
      if available then pure book
      else book.updateCycles (fun row => row.id = cycle.id) fun row =>
        { row with status := if row.explicitMeterDates then .confirmed else .expected, updatedAt := now }

def processTierRecalculations (book : CycleBook) (ids : String → String) (calculations : String → CycleCalculation)
    (limit : Nat) (now : Int) : Except Failure CycleBook := do
  let book ← (book.accounts.filter CycleAccount.configured).foldlM (prepareCurrentCycle ids now) book
  let waiting := book.cycles.filter fun cycle => cycle.status = .recalculating ∧ cycle.finalizedAt = none
  ((sortedBy BillingCycle.updatedAt waiting).take limit).foldlM (processRecalculation calculations now) book

/-- The end of `ingest_readings`: accepted readings of a device of the account reopen the cycles they fall into. -/
def ingestReadings (book : CycleBook) (accountId : String) (windows : List (Int × Int)) (now : Int) :
    Except Failure CycleBook :=
  match (windows.map Prod.fst).min?, (windows.map Prod.snd).max? with
  | some earliest, some latest =>
      reopenCycles accountId (fun cycle => { cycle with status := .recalculating, updatedAt := now }) book (earliest, latest)
  | _, _ => .ok book

def changedStartDay (accountId : String) (day : { day : Nat // 1 ≤ day ∧ day ≤ 31 }) (account : CycleAccount) : CycleAccount :=
  if account.id = accountId then { account with billingCycleStartDay := day } else account

theorem changedStartDay_id (accountId : String) (day : { day : Nat // 1 ≤ day ∧ day ≤ 31 }) (account : CycleAccount) :
    (changedStartDay accountId day account).id = account.id := by
  unfold changedStartDay
  split <;> rfl

def changeStartDay (book : CycleBook) (accountId : String) (day : { day : Nat // 1 ≤ day ∧ day ≤ 31 }) : CycleBook :=
  { book with
    accounts := book.accounts.map (changedStartDay accountId day)
    accountIds := by
      rw [List.map_map, show CycleAccount.id ∘ changedStartDay accountId day = CycleAccount.id from
        funext (changedStartDay_id accountId day)]
      exact book.accountIds }

/-! ## Runs -/

/-- A request on the cycles, with the ids it draws and the results of its calculations. -/
inductive Operation where
  | currentBillingCycle (accountId : String) (instant : Int) (id : String) (now : Int)
  | enterManualUsage (request : ManualUsageRequest) (id : String) (now : Int)
  | importUsage (request : ImportRequest) (id : String) (ids : Nat → String) (now : Int)
  | reverseUsageImport (accountId importId : String) (now : Int)
  | overrideBillingCycle (request : OverrideRequest) (id : String) (now : Int)
  | approveCycleDraft (draft : CycleDraft) (id : String) (now : Int)
  | recalculateCycle (accountId cycleId : String) (calculation : CycleCalculation) (now : Int)
  | recalculateCurrentCycle (accountId id : String) (calculation : CycleCalculation) (now : Int)
  | finalizeCycle (accountId cycleId : String) (calculation : CycleCalculation) (hash : String) (now : Int)
  | processTierRecalculations (ids : String → String) (calculations : String → CycleCalculation) (limit : Nat) (now : Int)
  | ingestReadings (accountId : String) (windows : List (Int × Int)) (now : Int)
  | changeStartDay (accountId : String) (day : { day : Nat // 1 ≤ day ∧ day ≤ 31 })

def Operation.perform (digest : ImportKind → String → List ImportRow → String) (book : CycleBook) :
    Operation → Except Failure CycleBook
  | .currentBillingCycle accountId instant id now => do
      let account ← requireAccount book accountId
      let (_, book) ← Cycles.currentBillingCycle book account instant id now
      pure book
  | .enterManualUsage request id now => Cycles.enterManualUsage book request id now
  | .importUsage request id ids now => Cycles.importUsage digest book request id ids now
  | .reverseUsageImport accountId importId now => Cycles.reverseUsageImport book accountId importId now
  | .overrideBillingCycle request id now => Cycles.overrideBillingCycle book request id now
  | .approveCycleDraft draft id now => Cycles.approveCycleDraft book draft id now
  | .recalculateCycle accountId cycleId calculation now => Cycles.recalculateCycle book accountId cycleId calculation now
  | .recalculateCurrentCycle accountId id calculation now => Cycles.recalculateCurrentCycle book accountId id calculation now
  | .finalizeCycle accountId cycleId calculation hash now => Cycles.finalizeCycle book accountId cycleId calculation hash now
  | .processTierRecalculations ids calculations limit now =>
      Cycles.processTierRecalculations book ids calculations limit now
  | .ingestReadings accountId windows now => Cycles.ingestReadings book accountId windows now
  | .changeStartDay accountId day => .ok (Cycles.changeStartDay book accountId day)

/-- A request that fails is rolled back. -/
def Operation.apply (digest : ImportKind → String → List ImportRow → String) (book : CycleBook) (operation : Operation) :
    CycleBook :=
  (operation.perform digest book).toOption.getD book

end PowerMonitor.Cycles
