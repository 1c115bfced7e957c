import PowerMonitor.Bills.Files

/-! The files of different bill imports are kept apart exactly while no operation meets another import with the
same digest. -/

set_option autoImplicit false
namespace PowerMonitor.Bills
open Library

section Isolation
variable {Bytes : Type} {sha256 : Bytes → String} {store : Store Bytes} {item : StoredImport Bytes} {folder : Folder Bytes}

/-! ## One folder -/

theorem StoredImport.heldIn_iff : item.HeldIn folder ↔
    (item.bill.originalDeletedAt = none → folder originalName = some item.content) ∧
    folder sanitizedEvidenceName = some item.evidence ∧
    ∀ index text, item.texts[index]? = some text → folder (sanitizedTextName (index + 1)) = some text := by
  constructor
  · intro held
    exact ⟨fun kept => held _ _ (.original kept), held _ _ .evidence, fun index text present => held _ _ (.text index text present)⟩
  · rintro ⟨original, evidence, texts⟩ name bytes (kept | _ | ⟨index, _, present⟩)
    · exact original kept
    · exact evidence
    · exact texts index bytes present

theorem heldIn_original (held : item.HeldIn folder) (bytes : Option Bytes) :
    item.HeldIn (Function.update folder originalName bytes) ↔
      (item.bill.originalDeletedAt = none → bytes = some item.content) := by
  rw [StoredImport.heldIn_iff] at held ⊢
  simp only [Function.update_self, Function.update_of_ne (show sanitizedEvidenceName ≠ originalName by decide),
    Function.update_of_ne (sanitizedTextName_ne_originalName _)]
  exact and_iff_left held.2

theorem heldIn_text (held : item.HeldIn folder) (index : Nat) (bytes : Bytes) :
    item.HeldIn (Function.update folder (sanitizedTextName (index + 1)) (some bytes)) ↔
      ∀ text ∈ item.texts[index]?, text = bytes := by
  rw [StoredImport.heldIn_iff] at held ⊢
  rw [Function.update_of_ne (sanitizedTextName_ne_originalName _).symm,
    Function.update_of_ne (sanitizedTextName_ne_sanitizedEvidenceName _).symm]
  refine (and_iff_right held.1).trans ((and_iff_right held.2.1).trans ?_)
  constructor
  · intro texts text present
    simpa using (texts index text present).symm
  · intro same other text present
    by_cases hit : other = index
    · subst hit
      rw [Function.update_self, same text present]
    · rw [Function.update_of_ne (fun names => hit (by simpa using sanitizedTextName_inj.mp names))]
      exact held.2.2 other text present

theorem heldIn_evidence (held : item.HeldIn folder) (bytes : Bytes) :
    item.HeldIn (Function.update folder sanitizedEvidenceName (some bytes)) ↔ item.evidence = bytes := by
  rw [StoredImport.heldIn_iff] at held ⊢
  rw [Function.update_of_ne (show originalName ≠ sanitizedEvidenceName by decide), Function.update_self]
  simp only [Function.update_of_ne (sanitizedTextName_ne_sanitizedEvidenceName _)]
  refine (and_iff_right held.1).trans ((and_iff_left held.2.2).trans ?_)
  rw [Option.some.injEq, eq_comm]

/-- The folder that an upload leaves, from the one it found. -/
def ImportOutcome.leaves (content : Bytes) (folder : Folder Bytes) : ImportOutcome Bytes → Folder Bytes
  | .extractionFailed => Function.update folder originalName none
  | .abandoned text =>
      Function.update (Function.update folder originalName (some content)) (sanitizedTextName 1) (some text)
  | .stored text evidence _ =>
      Function.update (Function.update (Function.update folder originalName (some content)) (sanitizedTextName 1) (some text))
        sanitizedEvidenceName (some evidence)

theorem heldIn_abandoned (held : item.HeldIn folder) (content text : Bytes) :
    item.HeldIn ((ImportOutcome.abandoned text).leaves content folder) ↔
      (item.bill.originalDeletedAt = none → item.content = content) ∧ item.text = text := by
  constructor
  · intro kept
    constructor
    · intro live
      have original := kept _ _ (.original live)
      rw [ImportOutcome.leaves, Function.update_of_ne (sanitizedTextName_ne_originalName 1).symm, Function.update_self] at original
      exact (Option.some.inj original).symm
    · have first := kept _ _ (.text 0 item.text rfl)
      rw [ImportOutcome.leaves, Function.update_self] at first
      exact (Option.some.inj first).symm
  · rintro ⟨original, first⟩
    have written := (heldIn_original held (some content)).mpr fun live => by rw [original live]
    refine (heldIn_text written 0 text).mpr fun earlier present => ?_
    rw [← first]
    exact (Option.some.inj present).symm

theorem heldIn_stored (held : item.HeldIn folder) (content text evidence : Bytes) (warnings : List BlockingWarning) :
    item.HeldIn ((ImportOutcome.stored text evidence warnings).leaves content folder) ↔
      (item.bill.originalDeletedAt = none → item.content = content) ∧ item.text = text ∧ item.evidence = evidence := by
  -- The evidence goes on top of what an abandoned import leaves.
  have names : ∀ name ≠ sanitizedEvidenceName, (ImportOutcome.stored text evidence warnings).leaves content folder name =
      (ImportOutcome.abandoned text).leaves content folder name := fun name other => Function.update_of_ne other _ _
  rw [← and_assoc]
  constructor
  · intro kept
    have same : item.evidence = evidence := by
      have stored := kept _ _ .evidence
      rw [ImportOutcome.leaves, Function.update_self] at stored
      exact (Option.some.inj stored).symm
    refine ⟨(heldIn_abandoned held content text).mp ?_, same⟩
    rw [StoredImport.heldIn_iff] at held kept ⊢
    refine ⟨fun live => ?_, ?_, fun index earlier present => ?_⟩
    · rw [← names _ (by decide)]
      exact kept.1 live
    · rw [ImportOutcome.leaves, Function.update_of_ne (sanitizedTextName_ne_sanitizedEvidenceName 1).symm,
        Function.update_of_ne (by decide)]
      exact held.2.1
    · rw [← names _ (sanitizedTextName_ne_sanitizedEvidenceName _)]
      exact kept.2.2 index earlier present
  · rintro ⟨spared, same⟩
    exact (heldIn_evidence ((heldIn_abandoned held content text).mpr spared) evidence).mpr same

/-- An upload spares an import with its digest exactly when the files of that import are still there. -/
theorem heldIn_leaves (held : item.HeldIn folder) (content : Bytes) (outcome : ImportOutcome Bytes) :
    item.HeldIn (outcome.leaves content folder) ↔ outcome.Spares content item := by
  cases outcome with
  | extractionFailed => simp [ImportOutcome.leaves, ImportOutcome.Spares, heldIn_original held]
  | abandoned text => exact heldIn_abandoned held content text
  | stored text evidence warnings => exact heldIn_stored held content text evidence warnings

/-! ## Deletions -/

/-- Several originals deleted one after the other. -/
def unlinkOriginals (store : Store Bytes) (targets : List (StoredImport Bytes)) (now : Int) : Store Bytes :=
  targets.foldl (fun store item => unlinkOriginal store item now) store

theorem unlinkOriginals_folders (store : Store Bytes) (targets : List (StoredImport Bytes)) (now : Int) (digest : String) :
    (unlinkOriginals store targets now).folders digest =
      if digest ∈ targets.map StoredImport.digest then Function.update (store.folders digest) originalName none
      else store.folders digest := by
  induction targets generalizing store with
  | nil => rfl
  | cons target rest ih =>
      rw [unlinkOriginals, List.foldl_cons]
      refine (ih _).trans ?_
      have first : (unlinkOriginal store target now).folders digest =
          if digest = target.digest then Function.update (store.folders digest) originalName none else store.folders digest := by
        split
        · next same =>
            subst same
            exact Function.update_self _ _ _
        · next other => exact Function.update_of_ne other _ _
      rw [first, List.map_cons]
      by_cases same : digest = target.digest
      · simp [same, Function.update_idem]
      · simp [same]

theorem unlinkOriginals_imports (store : Store Bytes) (targets : List (StoredImport Bytes)) (now : Int) :
    (unlinkOriginals store targets now).imports = store.imports.map fun row =>
      if row.bill.id ∈ targets.map (fun target => target.bill.id) then deletedOriginal now row else row := by
  induction targets generalizing store with
  | nil => simp [unlinkOriginals]
  | cons target rest ih =>
      rw [unlinkOriginals, List.foldl_cons]
      refine (ih _).trans ?_
      change (store.imports.map _).map _ = _
      rw [List.map_map]
      apply List.map_congr_left
      intro row _
      simp only [Function.comp, List.map_cons, List.mem_cons]
      by_cases first : row.bill.id = target.bill.id
      · simp only [first, if_true, true_or, deletedOriginal, Option.getD_some, ite_self]
      · simp only [first, if_false, false_or]

/-! ## What a step does to the imports -/

/-- Every file that an import refers to is there with its bytes. -/
structure Store.Sound (store : Store Bytes) : Prop where
  distinct : (store.imports.map fun item => item.bill.id).Nodup
  held : ∀ item ∈ store.imports, item.HeldIn (store.folders item.digest)

/-- The other imports still have their files. -/
def OthersHeld (store after : Store Bytes) (targets : List String) : Prop :=
  ∀ row ∈ store.imports, row.bill.id ∉ targets → row.HeldIn (after.folders row.digest)

/-- What a step owes: the imports it is on have their files, and the others have theirs under the condition. -/
structure StepSpec (store after : Store Bytes) (targets : List String) (condition : Prop) : Prop where
  distinct : (after.imports.map fun item => item.bill.id).Nodup
  rows : ∀ row ∈ after.imports, (row ∈ store.imports ∧ row.bill.id ∉ targets) ∨ row.HeldIn (after.folders row.digest)
  others : OthersHeld store after targets ↔ condition

variable {after : Store Bytes} {targets : List String} {condition : Prop}

theorem StepSpec.keepsFiles_iff (spec : StepSpec store after targets condition) (sound : store.Sound) :
    KeepsFiles store after targets ↔ condition := by
  rw [← spec.others]
  constructor
  · intro keeps row stored other name bytes refers
    rw [keeps.others row stored other name bytes refers]
    exact sound.held row stored name bytes refers
  · intro held
    constructor
    · intro row stored live
      rcases spec.rows row stored with ⟨unchanged, other⟩ | own
      · exact held row unchanged other _ _ (.original live)
      · exact own _ _ (.original live)
    · intro row stored other name bytes refers
      rw [held row stored other name bytes refers, sound.held row stored name bytes refers]

theorem StepSpec.sound (spec : StepSpec store after targets condition) (met : condition) : after.Sound := by
  refine ⟨spec.distinct, fun row stored => ?_⟩
  rcases spec.rows row stored with ⟨unchanged, other⟩ | own
  · exact spec.others.mpr met row unchanged other
  · exact own

theorem stepSpec_same (sound : store.Sound) (holds : condition) : StepSpec store store targets condition where
  distinct := sound.distinct
  rows := fun row stored => .inr (sound.held row stored)
  others := iff_of_true (fun row stored _ => sound.held row stored) holds

/-- The files of a row depend on these of its fields. -/
structure SameFiles (row changed : StoredImport Bytes) : Prop where
  id : changed.bill.id = row.bill.id
  digest : changed.digest = row.digest
  evidence : changed.evidence = row.evidence
  texts : changed.texts = row.texts

theorem map_ids {change : StoredImport Bytes → StoredImport Bytes} (same : ∀ row, SameFiles row (change row)) :
    (store.imports.map change).map (fun item => item.bill.id) = store.imports.map fun item => item.bill.id := by
  rw [List.map_map]
  exact List.map_congr_left fun row _ => (same row).id

theorem stepSpec_update (sound : store.Sound) (holds : condition) {change : StoredImport Bytes → StoredImport Bytes}
    (same : ∀ row, SameFiles row (change row)) (content : ∀ row, (change row).content = row.content)
    (deletion : ∀ row, (change row).bill.originalDeletedAt = row.bill.originalDeletedAt) :
    StepSpec store { store with imports := store.imports.map change } targets condition where
  distinct := by
    rw [map_ids same]
    exact sound.distinct
  rows := by
    intro changed stored
    obtain ⟨row, member, rfl⟩ := List.mem_map.mp stored
    right
    have held := sound.held row member
    rw [StoredImport.heldIn_iff] at held ⊢
    rw [(same row).digest, (same row).evidence, (same row).texts, content, deletion]
    exact held
  others := iff_of_true (fun row stored _ => sound.held row stored) holds

theorem stepSpec_delete (sound : store.Sound) (deleted : List (StoredImport Bytes))
    {change : StoredImport Bytes → StoredImport Bytes} (same : ∀ row, SameFiles row (change row))
    (others : ∀ row, row.bill.id ∉ deleted.map (fun item => item.bill.id) → change row = row)
    (deletion : ∀ row, row.bill.id ∈ deleted.map (fun item => item.bill.id) → (change row).bill.originalDeletedAt ≠ none)
    (imports : after.imports = store.imports.map change)
    (folders : ∀ digest, after.folders digest = if digest ∈ deleted.map StoredImport.digest then
      Function.update (store.folders digest) originalName none else store.folders digest) :
    StepSpec store after (deleted.map fun item => item.bill.id) (Unshared store deleted) where
  distinct := by
    rw [imports, map_ids same]
    exact sound.distinct
  rows := by
    intro changed stored
    rw [imports] at stored
    obtain ⟨row, member, rfl⟩ := List.mem_map.mp stored
    by_cases target : row.bill.id ∈ deleted.map fun item => item.bill.id
    · -- A row whose original goes keeps its other files.
      right
      have held := sound.held row member
      rw [StoredImport.heldIn_iff] at held ⊢
      rw [(same row).digest, (same row).evidence, (same row).texts, folders]
      refine ⟨fun live => absurd live (deletion row target), ?_⟩
      split
      · simp only [Function.update_of_ne (show sanitizedEvidenceName ≠ originalName by decide),
          Function.update_of_ne (sanitizedTextName_ne_originalName _)]
        exact held.2
      · exact held.2
    · rw [others row target]
      exact .inl ⟨member, target⟩
  others := by
    constructor
    · intro held target targeted other stored foreign shared live
      have original := held other stored foreign _ _ (.original live)
      rw [folders, if_pos (List.mem_map.mpr ⟨target, targeted, shared.symm⟩), Function.update_self] at original
      cases original
    · intro unshared row stored foreign
      rw [folders]
      split
      · next shared =>
          obtain ⟨target, targeted, same⟩ := List.mem_map.mp shared
          refine (heldIn_original (sound.held row stored) none).mpr fun live => ?_
          exact absurd live (unshared target targeted row stored foreign same.symm)
      · exact sound.held row stored

/-! ## Creating and reprocessing -/

section Creating
variable {upload : Upload Bytes} {outcome : ImportOutcome Bytes} {id : String}

theorem createBillImport_folders (missing : store.duplicate? upload (sha256 upload.content) = none) :
    (createBillImport sha256 store upload id outcome).folders =
      Function.update store.folders (sha256 upload.content)
        (outcome.leaves upload.content (store.folders (sha256 upload.content))) := by
  unfold createBillImport
  simp only [missing]
  cases outcome <;>
    simp [Store.writePrivate, Store.unlink, ImportOutcome.leaves, Function.update_idem]

theorem createBillImport_imports (missing : store.duplicate? upload (sha256 upload.content) = none) :
    (createBillImport sha256 store upload id outcome).imports = store.imports ++
      match outcome with
      | .stored text evidence warnings => [newImport upload (sha256 upload.content) id text evidence warnings]
      | _ => [] := by
  unfold createBillImport
  simp only [missing]
  cases outcome <;> simp [Store.writePrivate, Store.unlink]

theorem newImport_heldIn (folder : Folder Bytes) (digest : String) (text evidence : Bytes) (warnings : List BlockingWarning) :
    (newImport upload digest id text evidence warnings).HeldIn
      ((ImportOutcome.stored text evidence warnings).leaves upload.content folder) := by
  rintro name bytes (_ | _ | ⟨index, _, present⟩)
  · rw [ImportOutcome.leaves, Function.update_of_ne (show originalName ≠ sanitizedEvidenceName by decide),
      Function.update_of_ne (sanitizedTextName_ne_originalName 1).symm]
    exact Function.update_self _ _ _
  · rw [ImportOutcome.leaves, Function.update_self]
    rfl
  · cases index with
    | zero =>
        cases present
        rw [ImportOutcome.leaves, Function.update_of_ne (sanitizedTextName_ne_sanitizedEvidenceName _)]
        exact Function.update_self _ _ _
    | succ index => exact absurd present (by simp [StoredImport.texts, newImport])

theorem stepSpec_create (sound : store.Sound) (fresh : (Step.create upload id outcome).Fresh store) :
    StepSpec store (createBillImport sha256 store upload id outcome) []
      ((Step.create upload id outcome).Separate sha256 store) := by
  cases found : store.duplicate? upload (sha256 upload.content) with
  | some existing =>
      have unchanged : createBillImport sha256 store upload id outcome = store := by simp [createBillImport, found]
      rw [unchanged]
      exact stepSpec_same sound fun missing => absurd (found.symm.trans missing) (by simp)
  | none =>
      have imports : (createBillImport sha256 store upload id outcome).imports = _ := createBillImport_imports found
      have folders : (createBillImport sha256 store upload id outcome).folders = _ := createBillImport_folders found
      refine ⟨?_, ?_, ?_⟩
      · rw [imports]
        cases outcome with
        | extractionFailed => simpa using sound.distinct
        | abandoned text => simpa using sound.distinct
        | stored text evidence warnings =>
            rw [List.map_append, List.nodup_append]
            refine ⟨sound.distinct, List.nodup_singleton _, ?_⟩
            rintro other member new added rfl
            obtain ⟨row, stored, same⟩ := List.mem_map.mp member
            exact fresh row stored (same.trans (List.mem_singleton.mp added))
      · intro row stored
        rw [imports] at stored
        rcases List.mem_append.mp stored with kept | added
        · exact .inl ⟨kept, List.not_mem_nil⟩
        · right
          rw [folders]
          cases outcome with
          | extractionFailed => cases added
          | abandoned text => cases added
          | stored text evidence warnings =>
              rw [List.mem_singleton.mp added, show (newImport upload (sha256 upload.content) id text evidence warnings).digest =
                sha256 upload.content from rfl, Function.update_self]
              exact newImport_heldIn _ _ _ _ _
      · -- Only the imports in the folder of the upload are concerned.
        have folder (row : StoredImport Bytes) (stored : row ∈ store.imports) :
            row.HeldIn ((createBillImport sha256 store upload id outcome).folders row.digest) ↔
              (row.digest = sha256 upload.content → outcome.Spares upload.content row) := by
          rw [folders]
          by_cases shared : row.digest = sha256 upload.content
          · rw [shared, Function.update_self, heldIn_leaves (shared ▸ sound.held row stored)]
            simp
          · rw [Function.update_of_ne shared]
            exact iff_of_true (sound.held row stored) fun same => absurd same shared
        constructor
        · intro held _ other stored
          exact (folder other stored).mp (held other stored List.not_mem_nil)
        · intro spares row stored _
          exact (folder row stored).mpr (spares found row stored)

end Creating

theorem Store.import?_some {id : String} (found : store.import? id = some item) : item ∈ store.imports ∧ item.bill.id = id :=
  ⟨List.mem_of_find?_eq_some found, by simpa using List.find?_some found⟩

theorem Store.Sound.unique (sound : store.Sound) {row other : StoredImport Bytes} (first : row ∈ store.imports)
    (second : other ∈ store.imports) (same : row.bill.id = other.bill.id) : row = other :=
  List.inj_on_of_nodup_map sound.distinct first second same

/-- The row of a reprocessed import has its new text beside the others. -/
theorem heldIn_reprocessed (held : item.HeldIn folder) (text : Bytes) :
    { item with laterTexts := item.laterTexts ++ [text] }.HeldIn
      (Function.update folder (sanitizedTextName item.nextRevision) (some text)) := by
  rw [StoredImport.heldIn_iff] at held ⊢
  rw [Function.update_of_ne (sanitizedTextName_ne_originalName _).symm,
    Function.update_of_ne (sanitizedTextName_ne_sanitizedEvidenceName _).symm]
  refine ⟨held.1, held.2.1, fun index earlier present => ?_⟩
  by_cases last : index = item.texts.length
  · subst last
    rw [show item.texts.length + 1 = item.nextRevision from rfl, Function.update_self]
    have new : (item.texts ++ [text])[item.texts.length]? = some earlier := present
    rw [List.getElem?_append_right le_rfl] at new
    simpa using new
  · rw [Function.update_of_ne fun names => last (by simpa [StoredImport.nextRevision] using sanitizedTextName_inj.mp names)]
    have kept : (item.texts ++ [text])[index]? = some earlier := present
    have bound : index < item.texts.length := by
      have inside := (List.getElem?_eq_some_iff.mp kept).1
      rw [List.length_append, List.length_singleton] at inside
      omega
    rw [List.getElem?_append_left bound] at kept
    exact held.2.2 index earlier kept

theorem stepSpec_reprocess (sound : store.Sound) {id : String} (found : store.import? id = some item) (text : Option Bytes) :
    StepSpec store ((reprocessBillImport store item text).toOption.getD store) [id]
      (item.bill.originalDeletedAt = none → ∀ written ∈ text, TextUnshared store item written) := by
  obtain ⟨stored, named⟩ := Store.import?_some found
  by_cases live : item.bill.originalDeletedAt = none
  · cases text with
    | none =>
        have unchanged : (reprocessBillImport store item none).toOption.getD store = store := by
          unfold reprocessBillImport raiseIf
          split <;> rfl
        rw [unchanged]
        exact stepSpec_same sound (by simp)
    | some text =>
        have present := sound.held item stored _ _ (.original live)
        have written : (reprocessBillImport store item (some text)).toOption.getD store =
            (store.writePrivate item.digest (sanitizedTextName item.nextRevision) text).updateImport item.bill.id
              fun row => { row with laterTexts := row.laterTexts ++ [text] } := by
          simp [reprocessBillImport, raiseIf, present, live, Except.toOption, pure, Except.pure, bind, Except.bind]
        rw [written]
        refine ⟨?_, ?_, ?_⟩
        · change ((store.imports.map _).map _).Nodup
          rw [List.map_map]
          convert sound.distinct using 2
          funext row
          simp only [Function.comp]
          split <;> rfl
        · intro changed member
          obtain ⟨row, kept, rfl⟩ := List.mem_map.mp member
          by_cases same : row.bill.id = item.bill.id
          · obtain rfl := sound.unique kept stored same
            right
            simp only [if_true]
            have held := heldIn_reprocessed (sound.held row kept) text
            have folder : (store.writePrivate row.digest (sanitizedTextName row.nextRevision) text).folders row.digest =
                Function.update (store.folders row.digest) (sanitizedTextName row.nextRevision) (some text) :=
              Function.update_self _ _ _
            rwa [← folder] at held
          · left
            rw [if_neg same]
            exact ⟨kept, by simpa [← named] using same⟩
        · have folder (row : StoredImport Bytes) (kept : row ∈ store.imports) :
              row.HeldIn ((store.writePrivate item.digest (sanitizedTextName item.nextRevision) text).folders row.digest) ↔
                (row.digest = item.digest → ∀ earlier ∈ row.texts[item.texts.length]?, earlier = text) := by
            by_cases shared : row.digest = item.digest
            · have own := heldIn_text (sound.held row kept) item.texts.length text
              rw [show (store.writePrivate item.digest (sanitizedTextName item.nextRevision) text).folders row.digest =
                Function.update (store.folders row.digest) (sanitizedTextName (item.texts.length + 1)) (some text) by
                  rw [shared]
                  exact Function.update_self _ _ _, own]
              simp [shared]
            · refine iff_of_true ?_ fun same => absurd same shared
              rw [show (store.writePrivate item.digest (sanitizedTextName item.nextRevision) text).folders row.digest =
                store.folders row.digest from Function.update_of_ne shared _ _]
              exact sound.held row kept
          constructor
          · intro held _ new written other kept foreign shared
            rw [← Option.mem_some_iff.mp written]
            exact (folder other kept).mp (held other kept (by simpa [← named] using foreign)) shared
          · intro unshared row kept foreign
            refine (folder row kept).mpr (unshared live text rfl row kept ?_)
            simpa [← named] using foreign
  · have unchanged : (reprocessBillImport store item text).toOption.getD store = store := by
      simp [reprocessBillImport, raiseIf, live, Except.toOption, bind, Except.bind]
    rw [unchanged]
    exact stepSpec_same sound fun kept => absurd kept live

/-! ## Every step and every run -/

theorem sameFiles_deletedOriginal (now : Int) (row : StoredImport Bytes) : SameFiles row (deletedOriginal now row) :=
  ⟨rfl, rfl, rfl, rfl⟩

theorem stepSpec_unlinkOriginals (sound : store.Sound) (deleted : List (StoredImport Bytes)) (now : Int) :
    StepSpec store (unlinkOriginals store deleted now) (deleted.map fun item => item.bill.id) (Unshared store deleted) := by
  refine stepSpec_delete sound deleted (fun row => ?_) (fun row other => if_neg other) (fun row target => ?_)
    (unlinkOriginals_imports store deleted now) (unlinkOriginals_folders store deleted now)
  · split
    · exact sameFiles_deletedOriginal now row
    · exact ⟨rfl, rfl, rfl, rfl⟩
  · rw [if_pos target]
    simp [deletedOriginal]

theorem stepSpec_deleteOriginal (sound : store.Sound) {id : String} (found : store.import? id = some item) (now : Int) :
    StepSpec store ((deleteOriginalArtifact store item now).toOption.getD store) [id]
      (Unshared store ([item].filter fun item => item.bill.Approved)) := by
  obtain ⟨_, named⟩ := Store.import?_some found
  by_cases approved : item.bill.Approved
  · have deleted := stepSpec_unlinkOriginals sound [item] now
    have kept : [item].filter (fun item => item.bill.Approved) = [item] := by simp [approved]
    have written : (deleteOriginalArtifact store item now).toOption.getD store = unlinkOriginals store [item] now := by
      simp [deleteOriginalArtifact, raiseIf, approved, unlinkOriginals, Except.toOption, pure, Except.pure, bind, Except.bind]
    rw [written, kept, ← named]
    exact deleted
  · have unchanged : (deleteOriginalArtifact store item now).toOption.getD store = store := by
      simp [deleteOriginalArtifact, raiseIf, approved, Except.toOption, bind, Except.bind]
    rw [unchanged]
    exact stepSpec_same sound (by simp [approved, Unshared])

theorem stepSpec_publish (sound : store.Sound) {id : String} (found : store.import? id = some item) (now : Int) :
    StepSpec store (if Publishable item.bill then publishedImport store item now else store) [id]
      (Unshared store ([item].filter fun item => Publishable item.bill ∧ item.bill.retentionMode = .deleteAfterApproval)) := by
  obtain ⟨_, named⟩ := Store.import?_some found
  by_cases publishable : Publishable item.bill
  · rw [if_pos publishable]
    by_cases deletes : item.bill.retentionMode = .deleteAfterApproval
    · have kept : [item].filter (fun item => Publishable item.bill ∧ item.bill.retentionMode = .deleteAfterApproval) = [item] := by
        simp [publishable, deletes]
      rw [kept, ← named]
      have imports : (publishedImport store item now).imports = store.imports.map fun row =>
          if row.bill.id = item.bill.id then deletedOriginal now { row with bill := { row.bill with status := .published } }
          else row := by
        unfold publishedImport
        rw [if_pos deletes]
        simp only [unlinkOriginal, Store.updateImport, Store.unlink, List.map_map]
        apply List.map_congr_left
        intro row _
        by_cases same : row.bill.id = item.bill.id <;> simp [same]
      refine stepSpec_delete sound [item] (fun row => ?_) (fun row other => ?_) (fun row target => ?_) imports
        (fun digest => ?_)
      · split <;> exact ⟨rfl, rfl, rfl, rfl⟩
      · exact if_neg (by simpa using other)
      · rw [if_pos (by simpa using target)]
        simp [deletedOriginal]
      · unfold publishedImport
        rw [if_pos deletes]
        simp only [unlinkOriginal, Store.updateImport, Store.unlink, List.map_cons, List.map_nil, List.mem_singleton]
        by_cases same : digest = item.digest
        · simp [same]
        · simp [same]
    · have none : [item].filter (fun item => Publishable item.bill ∧ item.bill.retentionMode = .deleteAfterApproval) = [] := by
        simp [deletes]
      rw [none, publishedImport, if_neg deletes]
      refine stepSpec_update sound (by simp [Unshared]) (fun row => ?_) (fun row => ?_) (fun row => ?_)
      · split <;> exact ⟨rfl, rfl, rfl, rfl⟩
      · split <;> rfl
      · split <;> rfl
  · rw [if_neg publishable]
    exact stepSpec_same sound (by simp [publishable, Unshared])

/-- The bills of the retention query are approved, so no deletion is refused. -/
theorem dueRetentionDeletions_eq (services : RetentionServices) (now : Int) :
    dueRetentionDeletions services store now = (retentionTargets services store now).map fun targets =>
      unlinkOriginals store targets now := by
  unfold dueRetentionDeletions
  cases chosen : retentionTargets services store now with
  | error problem => rfl
  | ok targets =>
      have approved : ∀ item ∈ targets, item.bill.Approved := by
        unfold retentionTargets at chosen
        obtain ⟨blocked, _, same⟩ := bind_eq_ok.mp chosen
        cases same
        intro item member
        have due := List.mem_filter.mp (List.mem_filter.mp member).1
        exact (of_decide_eq_true due.2).2.2.2
      change targets.foldlM (fun store item => deleteOriginalArtifact store item now) store =
        .ok (targets.foldl (fun store item => unlinkOriginal store item now) store)
      clear chosen
      induction targets generalizing store with
      | nil => rfl
      | cons target rest ih =>
          rw [List.foldlM_cons, List.foldl_cons, deleteOriginalArtifact, raiseIf, if_neg (not_not.mpr (approved target List.mem_cons_self))]
          exact ih fun item member => approved item (List.mem_cons_of_mem _ member)

/-- Every operation keeps the files apart exactly under its condition, and leaves every import with its files then. -/
theorem stepSpec (sound : store.Sound) (step : Step Bytes) (fresh : step.Fresh store) :
    StepSpec store (step.apply sha256 store) (step.targets store) (step.Separate sha256 store) := by
  cases step with
  | create upload id outcome => exact stepSpec_create sound fresh
  | reprocess id text =>
      simp only [Step.apply, Step.targets, Step.Separate]
      cases found : store.import? id with
      | none => exact stepSpec_same sound (by simp)
      | some item => simpa using stepSpec_reprocess sound found text
  | deleteOriginal id now =>
      simp only [Step.apply, Step.targets, Step.Separate, Step.deletions]
      cases found : store.import? id with
      | none => exact stepSpec_same sound (by simp [Unshared])
      | some item => exact stepSpec_deleteOriginal sound found now
  | publish id now =>
      simp only [Step.apply, Step.targets, Step.Separate, Step.deletions]
      cases found : store.import? id with
      | none => exact stepSpec_same sound (by simp [Unshared])
      | some item => exact stepSpec_publish sound found now
  | dueRetentionDeletions services now =>
      simp only [Step.apply, Step.targets, Step.Separate, Step.deletions, dueRetentionDeletions_eq]
      cases retentionTargets services store now with
      | error problem => exact stepSpec_same sound (by simp [Unshared, Except.toOption])
      | ok targets => exact stepSpec_unlinkOriginals sound targets now
  | revise id change =>
      refine stepSpec_update sound (by simp [Step.Separate, Step.deletions, Unshared]) (fun row => ?_) (fun row => ?_)
        (fun row => ?_)
      · split <;> exact ⟨rfl, rfl, rfl, rfl⟩
      · split <;> rfl
      · split <;> rfl

theorem sound_empty : ({} : Store Bytes).Sound :=
  ⟨List.nodup_nil, fun _ member => absurd member List.not_mem_nil⟩

/-- In a run of operations on an empty store, every operation leaves the originals in place and the files of the other imports
alone if and only if none of them meets another import with the same digest. -/
theorem bill_files_isolated_iff (sha256 : Bytes → String) (run : List (Step Bytes))
    (fresh : ∀ earlier step later, run = earlier ++ step :: later →
      step.Fresh (earlier.foldl (Step.apply sha256) {})) :
    (∀ earlier step later, run = earlier ++ step :: later →
      KeepsFiles (earlier.foldl (Step.apply sha256) {}) (step.apply sha256 (earlier.foldl (Step.apply sha256) {}))
        (step.targets (earlier.foldl (Step.apply sha256) {}))) ↔
    ∀ earlier step later, run = earlier ++ step :: later →
      step.Separate sha256 (earlier.foldl (Step.apply sha256) {}) :=
  foldl_guarded_iff sound_empty
    (fun _ step sound fresh => (stepSpec sound step fresh).keepsFiles_iff sound)
    (fun _ step sound fresh separate => (stepSpec sound step fresh).sound separate) fresh

end Isolation

/-! ## Two accounts with one bill -/

/-- The digest of the bill below. -/
def billDigest (_ : String) : String := "646503f6596f7aae2687bb21a765508509d2d7f4087aade1af4f03a21de864ba"

def storesBill (account id : String) : Step String :=
  .create { accountId := some account, userId := "admin", content := "%PDF-1.7 bill" } id (.stored "text" "evidence" [])

def approves (bill : UtilityBillImport) : UtilityBillImport := { bill with status := .readyToPublish }

/-- One account stores its bill, approves it and deletes the original. -/
def oneBill : List (Step String) := [storesBill "first" "bill", .revise "bill" approves, .deleteOriginal "bill" 10]

theorem oneBill_isolated : oneBill.length = 3 ∧ ∀ earlier step later, oneBill = earlier ++ step :: later →
    KeepsFiles (earlier.foldl (Step.apply billDigest) {}) (step.apply billDigest (earlier.foldl (Step.apply billDigest) {}))
      (step.targets (earlier.foldl (Step.apply billDigest) {})) := by
  have fresh : ∀ earlier step later, oneBill = earlier ++ step :: later →
      step.Fresh (earlier.foldl (Step.apply billDigest) {}) := by
    unfold oneBill
    rw [forall_splits_cons, forall_splits_cons, forall_splits_cons]
    exact ⟨by simp [storesBill, Step.Fresh], trivial, trivial, forall_splits_nil⟩
  refine ⟨rfl, (bill_files_isolated_iff billDigest oneBill fresh).mpr ?_⟩
  unfold oneBill
  rw [forall_splits_cons, forall_splits_cons, forall_splits_cons]
  refine ⟨?_, ?_, ?_, forall_splits_nil⟩
  · exact fun _ other stored => absurd stored List.not_mem_nil
  · exact fun target deleted => absurd deleted List.not_mem_nil
  · intro target deleted other stored foreign
    have same : other.bill.id = "bill" := by
      simp [storesBill, Step.apply, createBillImport, Store.duplicate?, Store.writePrivate, Store.updateImport, newImport,
        revised] at stored
      rw [stored]
    have found := Option.mem_toList.mp (List.mem_filter.mp deleted).1
    have targeted : target.bill.id = "bill" := (Store.import?_some found).2
    exact absurd (List.mem_map.mpr ⟨target, deleted, targeted.trans same.symm⟩) foreign

/-- The same bill of another account fails in the extraction, which takes the original of the first with it. -/
theorem failed_upload_removes_original : ¬ ∀ (sha256 : String → String) (run : List (Step String)),
    (∀ earlier step later, run = earlier ++ step :: later → step.Fresh (earlier.foldl (Step.apply sha256) {})) →
    ∀ earlier step later, run = earlier ++ step :: later →
      KeepsFiles (earlier.foldl (Step.apply sha256) {}) (step.apply sha256 (earlier.foldl (Step.apply sha256) {}))
        (step.targets (earlier.foldl (Step.apply sha256) {})) := by
  intro always
  let second : Step String :=
    .create { accountId := some "second", userId := "admin", content := "%PDF-1.7 bill" } "other" .extractionFailed
  have kept := always billDigest [storesBill "first" "bill", second]
    (by
      rw [forall_splits_cons, forall_splits_cons]
      exact ⟨by simp [storesBill, Step.Fresh], trivial, forall_splits_nil⟩)
    [storesBill "first" "bill"] second [] rfl
  have lost := kept.originals (newImport { accountId := some "first", userId := "admin", content := "%PDF-1.7 bill" }
    (billDigest "%PDF-1.7 bill") "bill" "text" "evidence" []) (List.mem_singleton_self _) rfl
  cases lost

end PowerMonitor.Bills
