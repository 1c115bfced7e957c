import Mathlib.Data.List.Sort
import Mathlib.Data.String.Basic
import Mathlib.Logic.Function.Basic
import PowerMonitor.Bills.Publication
import PowerMonitor.Library.Runs

/-! The private files of the bill imports.

Files are kept by the digest of the uploaded bytes, rows by account and user. Two imports with one digest
share a folder, and nothing counts the rows that still need it. Temporary names are renamed within the
call that writes them and are left out.
-/

set_option autoImplicit false
namespace PowerMonitor.Bills
open Library Assignments

/-! ## File names -/

def originalName : String := "original.pdf"

/-- The sanitized text of an extraction revision; creation writes the first. -/
def sanitizedTextName (revision : Nat) : String :=
  if revision = 1 then "sanitized-evidence.txt" else "sanitized-evidence-r" ++ Nat.repr revision ++ ".txt"

def sanitizedEvidenceName : String := "sanitized-evidence.json"

theorem repr_inj {first second : Nat} (same : Nat.repr first = Nat.repr second) : first = second := by
  have digits : Nat.toDigits 10 first = Nat.toDigits 10 second := by
    rw [← Nat.toList_repr, same, Nat.toList_repr]
  rw [← @Nat.ofDigitChars_ten_toDigits first, digits, Nat.ofDigitChars_ten_toDigits]

theorem sanitizedTextName_inj {first second : Nat} :
    sanitizedTextName first = sanitizedTextName second ↔ first = second := by
  refine ⟨fun same => ?_, fun same => same ▸ rfl⟩
  -- The first name goes on with a dot where the others have a dash.
  unfold sanitizedTextName at same
  split at same
  · next one =>
      split at same
      · next alsoOne => exact one.trans alsoOne.symm
      · exact absurd (congrArg (fun name => name.toList[18]?) same) (by simp)
  · split at same
    · exact absurd (congrArg (fun name => name.toList[18]?) same) (by simp)
    · exact repr_inj ((String.append_right_inj _).mp ((String.append_left_inj _).mp same))

theorem sanitizedTextName_ne_originalName (revision : Nat) : sanitizedTextName revision ≠ originalName := by
  intro same
  have first := congrArg (fun name => name.toList[0]?) same
  unfold sanitizedTextName at first
  split at first <;> simp [originalName] at first

theorem sanitizedTextName_ne_sanitizedEvidenceName (revision : Nat) :
    sanitizedTextName revision ≠ sanitizedEvidenceName := by
  intro same
  have last := congrArg (fun name => name.toList.getLast?) same
  unfold sanitizedTextName at last
  split at last
  · simp [sanitizedEvidenceName] at last
  · rw [String.toList_append, List.getLast?_append] at last
    simp [sanitizedEvidenceName] at last

/-! ## Imports and their folders -/

section Store
variable {Bytes : Type}

/-- The files under one digest by name. -/
abbrev Folder (Bytes : Type) := String → Option Bytes

/-- A bill import with the bytes it was made from: the upload, the evidence, and the sanitized text of each
extraction revision. -/
structure StoredImport (Bytes : Type) where
  bill : UtilityBillImport
  content : Bytes
  evidence : Bytes
  text : Bytes
  laterTexts : List Bytes := []

/-- `_safe_path` puts a file into the folder of its digest. -/
structure Store (Bytes : Type) where
  imports : List (StoredImport Bytes) := []
  folders : String → Folder Bytes := fun _ _ => none

namespace StoredImport
variable (item : StoredImport Bytes)

def digest : String := item.bill.contentSha256

def texts : List Bytes := item.text :: item.laterTexts

/-- One above the highest extraction revision. -/
def nextRevision : Nat := item.texts.length + 1

/-- The files that an import refers to, with its bytes. The original is one of them until it is deleted. -/
inductive RefersTo : String → Bytes → Prop where
  | original (kept : item.bill.originalDeletedAt = none) : RefersTo originalName item.content
  | evidence : RefersTo sanitizedEvidenceName item.evidence
  | text (index : Nat) (text : Bytes) (present : item.texts[index]? = some text) :
      RefersTo (sanitizedTextName (index + 1)) text

/-- The files of the import are in the folder. -/
def HeldIn (folder : Folder Bytes) : Prop := ∀ name bytes, item.RefersTo name bytes → folder name = some bytes

end StoredImport

namespace Store
variable (store : Store Bytes)

def import? (id : String) : Option (StoredImport Bytes) := store.imports.find? fun item => item.bill.id = id

def updateImport (id : String) (change : StoredImport Bytes → StoredImport Bytes) : Store Bytes :=
  { store with imports := store.imports.map fun item => if item.bill.id = id then change item else item }

/-- `_write_private` -/
def writePrivate (digest name : String) (bytes : Bytes) : Store Bytes :=
  { store with folders := Function.update store.folders digest (Function.update (store.folders digest) name (some bytes)) }

def unlink (digest name : String) : Store Bytes :=
  { store with folders := Function.update store.folders digest (Function.update (store.folders digest) name none) }

end Store

/-! ## create_bill_import and reprocess_bill_import -/

structure Upload (Bytes : Type) where
  accountId : Option String := none
  userId : String
  content : Bytes
  retentionMode : RetentionMode := .retain
  retainUntil : Option Int := none

/-- How far an import gets: `extract_bill` raises, a later step raises and the rows are rolled back, or all is
stored. -/
inductive ImportOutcome (Bytes : Type) where
  | extractionFailed
  | abandoned (text : Bytes)
  | stored (text evidence : Bytes) (warnings : List BlockingWarning)

/-- An import of the same bytes for the account, or by the user without one. -/
def Duplicates (upload : Upload Bytes) (digest : String) (bill : UtilityBillImport) : Prop :=
  bill.contentSha256 = digest ∧
    match upload.accountId with
    | some accountId => bill.utilityAccountId = some accountId
    | none => bill.utilityAccountId = none ∧ bill.createdBy = upload.userId

instance (upload : Upload Bytes) (digest : String) (bill : UtilityBillImport) : Decidable (Duplicates upload digest bill) := by
  unfold Duplicates
  cases upload.accountId <;> infer_instance

def Store.duplicate? (store : Store Bytes) (upload : Upload Bytes) (digest : String) : Option (StoredImport Bytes) :=
  store.imports.find? fun item => Duplicates upload digest item.bill

def newImport (upload : Upload Bytes) (digest id : String) (text evidence : Bytes) (warnings : List BlockingWarning) :
    StoredImport Bytes :=
  { bill := { id := id
              utilityAccountId := upload.accountId
              contentSha256 := digest
              retentionMode := upload.retentionMode
              retainUntil := upload.retainUntil
              blockingWarnings := warnings
              createdBy := upload.userId }
    content := upload.content
    evidence := evidence
    text := text }

def createBillImport (sha256 : Bytes → String) (store : Store Bytes) (upload : Upload Bytes) (id : String)
    (outcome : ImportOutcome Bytes) : Store Bytes :=
  let digest := sha256 upload.content
  match store.duplicate? upload digest with
  | some _ => store
  | none =>
      let written := store.writePrivate digest originalName upload.content
      match outcome with
      | .extractionFailed => written.unlink digest originalName
      | .abandoned text => written.writePrivate digest (sanitizedTextName 1) text
      | .stored text evidence warnings =>
          let evident := (written.writePrivate digest (sanitizedTextName 1) text).writePrivate digest
            sanitizedEvidenceName evidence
          { evident with imports := evident.imports ++ [newImport upload digest id text evidence warnings] }

def billOriginalUnavailable : ProblemError :=
  { status := 410, title := "Original utility bill is unavailable"
    detail := "Reprocessing requires the retained private PDF", code := "bill_original_removed" }

/-- The new extraction writes its text beside the earlier ones; it is `none` when it raises. -/
def reprocessBillImport (store : Store Bytes) (item : StoredImport Bytes) (text : Option Bytes) :
    Except ProblemError (Store Bytes) := do
  raiseIf ((store.folders item.digest originalName).isNone = true ∨ item.bill.originalDeletedAt ≠ none)
    billOriginalUnavailable
  match text with
  | none => pure store
  | some text =>
      pure ((store.writePrivate item.digest (sanitizedTextName item.nextRevision) text).updateImport item.bill.id
        fun row => { row with laterTexts := row.laterTexts ++ [text] })

/-! ## Deletions -/

def billOriginalDeleteBlocked : ProblemError :=
  { status := 409, title := "Approved extraction required"
    detail := "Review and approve the extraction before deleting the original PDF", code := "bill_original_delete_blocked" }

/-- The row keeps the time of its first deletion. -/
def deletedOriginal (now : Int) (row : StoredImport Bytes) : StoredImport Bytes :=
  { row with bill := { row.bill with originalDeletedAt := some (row.bill.originalDeletedAt.getD now) } }

def unlinkOriginal (store : Store Bytes) (item : StoredImport Bytes) (now : Int) : Store Bytes :=
  (store.unlink item.digest originalName).updateImport item.bill.id (deletedOriginal now)

def deleteOriginalArtifact (store : Store Bytes) (item : StoredImport Bytes) (now : Int) :
    Except ProblemError (Store Bytes) := do
  raiseIf (¬ item.bill.Approved) billOriginalDeleteBlocked
  pure (unlinkOriginal store item now)

/-- The end of a publication that succeeded. -/
def publishedImport (store : Store Bytes) (item : StoredImport Bytes) (now : Int) : Store Bytes :=
  let store := store.updateImport item.bill.id fun row => { row with bill := { row.bill with status := .published } }
  if item.bill.retentionMode = .deleteAfterApproval then unlinkOriginal store item now else store

/-- The query of `due_retention_deletions`. -/
def RetentionDue (now : Int) (bill : UtilityBillImport) : Prop :=
  bill.retentionMode = .retainUntil ∧ (∃ limit ∈ bill.retainUntil, limit ≤ now) ∧ bill.originalDeletedAt = none ∧
    bill.Approved

instance (now : Int) (bill : UtilityBillImport) : Decidable (RetentionDue now bill) := inferInstanceAs (Decidable (_ ∧ _))

/-- The sites of the accounts and the reset barrier. -/
structure RetentionServices where
  siteOf : String → Option String
  ensureSiteResetMutationsAllowed : String → Except ProblemError Unit

/-- The sites under a reset; any other failure of the barrier is raised. -/
def blockedSites (services : RetentionServices) (sites : List String) : Except ProblemError (List String) :=
  sites.foldlM (fun blocked site =>
    match services.ensureSiteResetMutationsAllowed site with
    | .ok () => .ok blocked
    | .error problem =>
        if problem.code = "data_reset_site_mutation_blocked" then .ok (blocked ++ [site]) else .error problem) []

/-- A bill without an account is not held back; one whose account is unknown is. -/
def Deletable (services : RetentionServices) (blocked : List String) (bill : UtilityBillImport) : Prop :=
  ∀ accountId ∈ bill.utilityAccountId, ∃ site ∈ services.siteOf accountId, site ∉ blocked

instance (services : RetentionServices) (blocked : List String) (bill : UtilityBillImport) :
    Decidable (Deletable services blocked bill) := by
  unfold Deletable
  infer_instance

/-- The bills whose originals `due_retention_deletions` deletes. -/
def retentionTargets (services : RetentionServices) (store : Store Bytes) (now : Int) :
    Except ProblemError (List (StoredImport Bytes)) := do
  let due := store.imports.filter fun item => RetentionDue now item.bill
  let sites := (due.filterMap fun item => item.bill.utilityAccountId.bind services.siteOf).dedup.insertionSort (· ≤ ·)
  let blocked ← blockedSites services sites
  pure (due.filter fun item => Deletable services blocked item.bill)

def dueRetentionDeletions (services : RetentionServices) (store : Store Bytes) (now : Int) :
    Except ProblemError (Store Bytes) := do
  let targets ← retentionTargets services store now
  targets.foldlM (fun store item => deleteOriginalArtifact store item now) store

/-! ## Runs -/

/-- What happens to the imports. `revise` stands for review, attachment to an account and retention settings, which
change no file: it may change anything of the row but its id, its digest and the deletion of its original. -/
inductive Step (Bytes : Type) where
  | create (upload : Upload Bytes) (id : String) (outcome : ImportOutcome Bytes)
  | reprocess (id : String) (text : Option Bytes)
  | deleteOriginal (id : String) (now : Int)
  | publish (id : String) (now : Int)
  | dueRetentionDeletions (services : RetentionServices) (now : Int)
  | revise (id : String) (change : UtilityBillImport → UtilityBillImport)

def revised (change : UtilityBillImport → UtilityBillImport) (row : StoredImport Bytes) : StoredImport Bytes :=
  { row with bill := { change row.bill with
                       id := row.bill.id
                       contentSha256 := row.bill.contentSha256
                       originalDeletedAt := row.bill.originalDeletedAt } }

/-- The bill may be published. -/
def Publishable (bill : UtilityBillImport) : Prop := bill.status = .readyToPublish ∧ bill.blockingWarnings = []

instance (bill : UtilityBillImport) : Decidable (Publishable bill) := inferInstanceAs (Decidable (_ ∧ _))

/-- One operation; what raises leaves the store as it was. -/
def Step.apply (sha256 : Bytes → String) (store : Store Bytes) : Step Bytes → Store Bytes
  | .create upload id outcome => createBillImport sha256 store upload id outcome
  | .reprocess id text =>
      match store.import? id with
      | none => store
      | some item => (reprocessBillImport store item text).toOption.getD store
  | .deleteOriginal id now =>
      match store.import? id with
      | none => store
      | some item => (deleteOriginalArtifact store item now).toOption.getD store
  | .publish id now =>
      match store.import? id with
      | none => store
      | some item => if Publishable item.bill then publishedImport store item now else store
  | .dueRetentionDeletions services now => (Bills.dueRetentionDeletions services store now).toOption.getD store
  | .revise id change => store.updateImport id (revised change)

/-- The imports that an operation is on. -/
def Step.targets (store : Store Bytes) : Step Bytes → List String
  | .create .. => []
  | .reprocess id _ | .deleteOriginal id _ | .publish id _ | .revise id _ => [id]
  | .dueRetentionDeletions services now =>
      ((retentionTargets services store now).toOption.getD []).map fun item => item.bill.id

/-- Every original not deleted is there with its bytes, and no file of another import has changed. -/
structure KeepsFiles (before after : Store Bytes) (targets : List String) : Prop where
  originals : ∀ item ∈ after.imports, item.bill.originalDeletedAt = none →
    after.folders item.digest originalName = some item.content
  others : ∀ item ∈ before.imports, item.bill.id ∉ targets → ∀ name bytes, item.RefersTo name bytes →
    after.folders item.digest name = before.folders item.digest name

/-! ## The condition -/

/-- An import of these bytes leaves the files of an earlier one with the same digest alone. -/
def ImportOutcome.Spares (content : Bytes) (other : StoredImport Bytes) : ImportOutcome Bytes → Prop
  | .extractionFailed => other.bill.originalDeletedAt ≠ none
  | .abandoned text => (other.bill.originalDeletedAt = none → other.content = content) ∧ other.text = text
  | .stored text evidence _ =>
      (other.bill.originalDeletedAt = none → other.content = content) ∧ other.text = text ∧ other.evidence = evidence

/-- The imports whose originals an operation deletes. -/
def Step.deletions (store : Store Bytes) : Step Bytes → List (StoredImport Bytes)
  | .deleteOriginal id _ => (store.import? id).toList.filter fun item => item.bill.Approved
  | .publish id _ =>
      (store.import? id).toList.filter fun item => Publishable item.bill ∧ item.bill.retentionMode = .deleteAfterApproval
  | .dueRetentionDeletions services now => (retentionTargets services store now).toOption.getD []
  | _ => []

/-- No other import with the digest of one whose original is deleted still has its own. -/
def Unshared (store : Store Bytes) (deletions : List (StoredImport Bytes)) : Prop :=
  ∀ target ∈ deletions, ∀ other ∈ store.imports, other.bill.id ∉ deletions.map (fun item => item.bill.id) →
    other.digest = target.digest → other.bill.originalDeletedAt ≠ none

/-- No other import with the digest has another text for the revision. -/
def TextUnshared (store : Store Bytes) (item : StoredImport Bytes) (text : Bytes) : Prop :=
  ∀ other ∈ store.imports, other.bill.id ≠ item.bill.id → other.digest = item.digest →
    ∀ earlier ∈ other.texts[item.texts.length]?, earlier = text

/-- An operation does not meet the files of another import with the same digest. -/
def Step.Separate (sha256 : Bytes → String) (store : Store Bytes) : Step Bytes → Prop
  | .create upload _ outcome => store.duplicate? upload (sha256 upload.content) = none →
      ∀ other ∈ store.imports, other.digest = sha256 upload.content → outcome.Spares upload.content other
  | .reprocess id text => ∀ item ∈ store.import? id, item.bill.originalDeletedAt = none →
      ∀ written ∈ text, TextUnshared store item written
  | step => Unshared store (step.deletions store)

/-- The id of a new import is not taken. -/
def Step.Fresh (store : Store Bytes) : Step Bytes → Prop
  | .create _ id (.stored ..) => ∀ item ∈ store.imports, item.bill.id ≠ id
  | _ => True

end Store
end PowerMonitor.Bills
