import PowerMonitor.Sources.Sync

/-! Rate changes that are fetched and rate changes that are offered.

A check is skipped on the evidence of the last response: the server answers that nothing changed since, or the digest is
that of the newest artifact. Both are stored before the page is processed. A skipped check therefore stands for the
processing of the page only where the check that stored the artifact raised nothing.
-/

set_option autoImplicit false
namespace PowerMonitor.Sources
open Library

section Statements
variable {Document : Type} (parsers : Parsers Document)

/-- Every document that the adapter extracts at a check that did not fail has been accepted, then or before. -/
def NothingLost (checks : List (RateSourceCheck Document)) : Prop :=
  ∀ later check earlier, checks = later ++ check :: earlier → check.outcome ≠ .failed → ∀ document ∈ check.extracted,
    ∃ other ∈ check :: earlier, other.rateSourceId = check.rateSourceId ∧ document ∈ other.accepted

/-- The page of the last response of a source: the one that its validators are for. -/
def lastServed (checks : List (RateSourceCheck Document)) (id : String) : Option Page :=
  checks.findSome? fun check => if check.rateSourceId = id then check.served else none

/-- `If-None-Match` or `If-Modified-Since` is sent. -/
def RateSource.Conditional (source : RateSource) : Prop :=
  (∃ etag ∈ source.etag, etag ≠ "") ∨ ∃ time ∈ source.lastModified, time ≠ ""

instance (source : RateSource) : Decidable source.Conditional := by
  unfold RateSource.Conditional
  infer_instance

/-- A server answers that a page is not modified only where it is the one whose validators were sent. The same content has
the same type and address. -/
structure Honest (state : SyncState Document) (source : RateSource) (exchange : Exchange) : Prop where
  notModified : exchange.answer = .notModified →
    source.Conditional ∧ lastServed state.checks source.id = some exchange.page
  sameContent : exchange.answer = .full → ∀ page ∈ lastServed state.checks source.id,
    page.content = exchange.page.content → page = exchange.page

instance (state : SyncState Document) (source : RateSource) (exchange : Exchange) :
    Decidable (Honest state source exchange) :=
  decidable_of_iff ((exchange.answer = .notModified →
      source.Conditional ∧ lastServed state.checks source.id = some exchange.page) ∧
    (exchange.answer = .full → ∀ page ∈ lastServed state.checks source.id,
      page.content = exchange.page.content → page = exchange.page))
    ⟨fun both => ⟨both.1, both.2⟩, fun honest => ⟨honest.notModified, honest.sameContent⟩⟩

/-- The check finds that nothing changed. -/
def FindsUnchanged (state : SyncState Document) (source : RateSource) (exchange : Exchange) : Prop :=
  exchange.answer = .notModified ∨ (exchange.answer = .full ∧
    (state.newestArtifact source.id).map RateSourceArtifact.sha256 = some (parsers.sha256 exchange.page.content))

/-- The check that stored the newest artifact of a source raised nothing. -/
def NewestProcessed (state : SyncState Document) (id : String) : Prop :=
  ∀ artifact ∈ state.newestArtifact id, ∀ check ∈ state.checks, check.id = artifact.sourceCheckId → check.errorCode = none

/-- A check that finds nothing changed finds a processed artifact. -/
def Sound (state : SyncState Document) (source : RateSource) (exchange : Exchange) : Prop :=
  FindsUnchanged parsers state source exchange → NewestProcessed state source.id

instance (state : SyncState Document) (source : RateSource) (exchange : Exchange) :
    Decidable (Sound parsers state source exchange) := by
  unfold Sound FindsUnchanged NewestProcessed
  infer_instance

/-- A guard of the checks, for all checks of a job, of the jobs of a run and of a sequence of runs. -/
def TurnMeets (G : SyncState Document → RateSource → Exchange → Prop) (run : SyncRun) (jobId : String)
    (state : SyncState Document) (sourceId : String) : Prop :=
  ∀ source ∈ state.source? sourceId, G state source (run.exchange jobId sourceId)

def JobMeets (G : SyncState Document → RateSource → Exchange → Prop) (run : SyncRun) (state : SyncState Document)
    (job : BackgroundJob) : Prop :=
  Along (checkTurn parsers run job.id) (TurnMeets G run job.id) (state.setJob job.id .running) (jobSources state job)

def JobsMeet (G : SyncState Document → RateSource → Exchange → Prop) (run : SyncRun) :
    SyncState Document → List BackgroundJob → Prop
  | _, [] => True
  | pending, job :: rest => run.blockedJob job.id = false →
      JobMeets parsers G run pending job ∧ JobsMeet G run (processJob parsers run pending job) rest

instance JobsMeet.decidable (G : SyncState Document → RateSource → Exchange → Prop)
    [∀ state source exchange, Decidable (G state source exchange)] (run : SyncRun) :
    (pending : SyncState Document) → (jobs : List BackgroundJob) → Decidable (JobsMeet parsers G run pending jobs)
  | _, [] => .isTrue trivial
  | pending, job :: rest =>
      have : Decidable (JobMeets parsers G run pending job) := by
        unfold JobMeets TurnMeets
        infer_instance
      have := JobsMeet.decidable G run (processJob parsers run pending job) rest
      inferInstanceAs (Decidable (_ → _ ∧ _))

def RunMeets (G : SyncState Document → RateSource → Exchange → Prop) (state : SyncState Document) (run : SyncRun) : Prop :=
  run.blocked = false → JobsMeet parsers G run (enqueueScheduledSync run state) (dueJobs run (enqueueScheduledSync run state))

instance (G : SyncState Document → RateSource → Exchange → Prop)
    [∀ state source exchange, Decidable (G state source exchange)] (state : SyncState Document) (run : SyncRun) :
    Decidable (RunMeets parsers G state run) :=
  inferInstanceAs (Decidable (_ → _))

end Statements

/-! ## One check -/

/-- The change keeps what the adapter of a source depends on. -/
structure KeepsAdapter (change : RateSource → RateSource) : Prop where
  id : ∀ source, (change source).id = source.id
  parser : ∀ source, (change source).parserId = source.parserId
  hint : ∀ source, (change source).effectiveFromHint = source.effectiveFromHint

section Checks
variable {Document : Type} {parsers : Parsers Document} {state : SyncState Document} {source : RateSource} {exchange : Exchange}

theorem source?_updateSource {change : RateSource → RateSource} (keeps : KeepsAdapter change) (id other : String) :
    (state.updateSource id change).source? other =
      (state.source? other).map fun row => if row.id = id then change row else row := by
  rw [SyncState.source?, SyncState.updateSource, List.find?_map, SyncState.source?]
  congr 2
  funext row
  rw [Function.comp_apply]
  split
  · rw [keeps.id]
  · rfl

theorem adapterDocuments_changed {change : RateSource → RateSource} (keeps : KeepsAdapter change) (row : RateSource)
    (page : Page) : adapterDocuments parsers (change row) page = adapterDocuments parsers row page := by
  rw [adapterDocuments, parsePage, keeps.parser, keeps.hint]
  rfl

/-- An exception ends the processing, or all documents have come back. -/
theorem processPage_cases (source : RateSource) (page : Page) (trouble : Option Trouble) :
    (processPage parsers source page trouble).2 = none ∨
      (processPage parsers source page trouble).1 = adapterDocuments parsers source page := by
  unfold processPage adapterDocuments
  cases parsePage parsers source page with
  | none => exact .inl rfl
  | some parsed =>
      cases trouble with
      | none => exact .inr rfl
      | some trouble =>
          cases trouble with
          | parsing => exact .inl rfl
          | candidate index =>
              dsimp only
              split
              · exact .inl rfl
              · exact .inr rfl

/-- What a check adds to the tables. -/
inductive CheckResult (parsers : Parsers Document) (state : SyncState Document) (source : RateSource) (exchange : Exchange)
    (check : RateSourceCheck Document) : List RateSourceArtifact → Prop where
  | unavailable (unserved : check.served = none) (failed : check.outcome = .failed) :
      CheckResult parsers state source exchange check state.artifacts
  | unchanged (found : FindsUnchanged parsers state source exchange) (served : check.served = some exchange.page)
      (extracted : check.extracted = adapterDocuments parsers source exchange.page) :
      CheckResult parsers state source exchange check state.artifacts
  | processed (served : check.served = some exchange.page)
      (extracted : check.extracted = adapterDocuments parsers source exchange.page)
      (done : check.errorCode = none → check.accepted = check.extracted)
      (failed : check.errorCode ≠ none → check.outcome = .failed) :
      CheckResult parsers state source exchange check
        (⟨source.id, check.id, parsers.sha256 exchange.page.content⟩ :: state.artifacts)

/-- A check adds one row for its source, and changes the source in its validators and counter alone. -/
theorem checkSource_spec (parsers : Parsers Document) (state : SyncState Document) (source : RateSource) (exchange : Exchange) :
    ∃ check change, (checkSource parsers state source exchange).checks = check :: state.checks ∧
      check.rateSourceId = source.id ∧ KeepsAdapter change ∧
      (checkSource parsers state source exchange).sources = (state.updateSource source.id change).sources ∧
      CheckResult parsers state source exchange check (checkSource parsers state source exchange).artifacts := by
  have twice (fetched : FetchResult) {second : RateSource → RateSource} (keeps : KeepsAdapter second) :
      KeepsAdapter (second ∘ storeValidators fetched) ∧
        ((state.updateSource source.id (storeValidators fetched)).updateSource source.id second).sources =
          (state.updateSource source.id (second ∘ storeValidators fetched)).sources := by
    refine ⟨⟨fun row => keeps.id _, fun row => keeps.parser _, fun row => keeps.hint _⟩, ?_⟩
    simp only [SyncState.updateSource, List.map_map]
    refine List.map_congr_left fun row _ => ?_
    simp only [Function.comp_apply]
    by_cases same : row.id = source.id
    · rw [if_pos same, if_pos same]
      exact if_pos same
    · rw [if_neg same, if_neg same]
      exact (if_neg same).symm
  have succeeded : KeepsAdapter succeededCheck := ⟨fun _ => rfl, fun _ => rfl, fun _ => rfl⟩
  have failed : KeepsAdapter failedCheck := ⟨fun _ => rfl, fun _ => rfl, fun _ => rfl⟩
  unfold checkSource fetchSource
  cases answer : exchange.answer with
  | unavailable code => exact ⟨_, failedCheck, rfl, rfl, failed, rfl, .unavailable rfl rfl⟩
  | notModified =>
      obtain ⟨keeps, same⟩ := twice ⟨304, ⟨"", exchange.page.contentType, exchange.page.finalUrl⟩,
        exchange.etag <|> source.etag, exchange.lastModified <|> source.lastModified⟩ succeeded
      exact ⟨_, _, rfl, rfl, keeps, same, .unchanged (.inl answer) rfl rfl⟩
  | full =>
      let fetched : FetchResult := ⟨200, exchange.page, exchange.etag, exchange.lastModified⟩
      dsimp only
      rw [if_neg (by decide)]
      split
      · next same =>
          obtain ⟨keeps, rows⟩ := twice fetched succeeded
          exact ⟨_, _, rfl, rfl, keeps, rows, .unchanged (.inr ⟨answer, same⟩) rfl rfl⟩
      · have returned := @processPage_cases Document parsers source exchange.page exchange.trouble
        split
        · next accepted outcome processed =>
            rw [processed] at returned
            obtain ⟨keeps, rows⟩ := twice fetched succeeded
            exact ⟨_, _, rfl, rfl, keeps, rows, .processed rfl rfl (fun _ => returned.resolve_left nofun) nofun⟩
        · next accepted processed =>
            obtain ⟨keeps, rows⟩ := twice fetched failed
            exact ⟨_, _, rfl, rfl, keeps, rows, .processed rfl rfl nofun fun _ => rfl⟩

/-! ## The evidence -/

/-- What the newest artifact of a source stands for: the page of the last response, and a check that has offered all of its
documents unless it raised. -/
structure Evidence (parsers : Parsers Document) (state : SyncState Document) (source : RateSource)
    (artifact : RateSourceArtifact) : Prop where
  intro ::
  backed : ∃ page check, lastServed state.checks source.id = some page ∧
    artifact.sha256 = parsers.sha256 page.content ∧ check ∈ state.checks ∧ check.id = artifact.sourceCheckId ∧
    check.rateSourceId = source.id ∧ check.extracted = adapterDocuments parsers source page ∧
    (check.errorCode = none → check.accepted = check.extracted)

/-- Nothing is lost so far, and every source has evidence of its last response. -/
structure Kept (parsers : Parsers Document) (state : SyncState Document) : Prop where
  nothingLost : NothingLost state.checks
  evidence : ∀ id, ∀ source ∈ state.source? id, ∀ artifact ∈ state.newestArtifact id, Evidence parsers state source artifact
  served : ∀ id, state.newestArtifact id = none → lastServed state.checks id = none

theorem source?_id {id : String} (found : state.source? id = some source) : source.id = id := by
  have chosen := List.find?_some found
  simpa using chosen

/-- A further check whose documents are accepted by then loses nothing. -/
theorem NothingLost.cons {checks : List (RateSourceCheck Document)} {check : RateSourceCheck Document}
    (before : NothingLost checks) (covered : check.outcome ≠ .failed → ∀ document ∈ check.extracted,
      ∃ other ∈ check :: checks, other.rateSourceId = check.rateSourceId ∧ document ∈ other.accepted) :
    NothingLost (check :: checks) := by
  rintro (_ | ⟨_, later⟩) row earlier same
  · cases same
    exact covered
  · cases same
    exact before later row earlier rfl

theorem lastServed_cons (check : RateSourceCheck Document) (checks : List (RateSourceCheck Document)) (id : String) :
    lastServed (check :: checks) id =
      if check.rateSourceId = id then check.served <|> lastServed checks id else lastServed checks id := by
  rw [lastServed, List.findSome?_cons]
  by_cases mine : check.rateSourceId = id
  · rw [if_pos mine, if_pos mine]
    cases check.served <;> rfl
  · rw [if_neg mine, if_neg mine]
    rfl

/-- Evidence outlasts further checks that leave the last response. -/
theorem Evidence.later {after : SyncState Document} {row : RateSource} {artifact : RateSourceArtifact}
    (evidence : Evidence parsers state source artifact) (sameId : row.id = source.id)
    (documents : ∀ page, adapterDocuments parsers row page = adapterDocuments parsers source page)
    (served : lastServed after.checks source.id = lastServed state.checks source.id)
    (more : state.checks ⊆ after.checks) : Evidence parsers after row artifact := by
  obtain ⟨page, check, last, digest, stored, named, mine, extracted, accepted⟩ := evidence.backed
  refine ⟨page, check, ?_, digest, more stored, named, mine.trans sameId.symm, ?_, accepted⟩
  · rw [sameId, served, last]
  · rw [extracted, documents]

/-- A check that finds nothing changed finds the page of the newest artifact. -/
theorem Kept.unchanged_page (collisionFree : Function.Injective parsers.sha256) (kept : Kept parsers state)
    (found : state.source? source.id = some source) (honest : Honest state source exchange)
    (unchanged : FindsUnchanged parsers state source exchange) :
    ∃ artifact ∈ state.newestArtifact source.id, Evidence parsers state source artifact ∧
      lastServed state.checks source.id = some exchange.page := by
  rcases unchanged with answer | ⟨answer, digest⟩
  · have last := (honest.notModified answer).2
    cases newest : state.newestArtifact source.id with
    | none => rw [kept.served source.id newest] at last; cases last
    | some artifact => exact ⟨artifact, rfl, kept.evidence _ source found artifact newest, last⟩
  · obtain ⟨artifact, newest, same⟩ := Option.map_eq_some_iff.mp digest
    have evidence := kept.evidence _ source found artifact newest
    obtain ⟨page, _, last, stored, _⟩ := evidence.backed
    have content : page.content = exchange.page.content := collisionFree (stored.symm.trans same)
    rw [honest.sameContent answer page last content] at last
    exact ⟨artifact, newest, evidence, last⟩

/-- What a check that is skipped would have offered has been accepted before. -/
theorem Evidence.accepted {artifact : RateSourceArtifact} (evidence : Evidence parsers state source artifact)
    (newest : state.newestArtifact source.id = some artifact) (processed : NewestProcessed state source.id) {page : Page}
    (last : lastServed state.checks source.id = some page) :
    ∃ other ∈ state.checks, other.rateSourceId = source.id ∧ other.accepted = adapterDocuments parsers source page := by
  obtain ⟨served, check, same, _, stored, named, mine, extracted, accepted⟩ := evidence.backed
  cases same.symm.trans last
  refine ⟨check, stored, mine, ?_⟩
  rw [accepted (processed artifact newest check stored named), extracted]

theorem checkSource_kept (collisionFree : Function.Injective parsers.sha256) (kept : Kept parsers state)
    (found : state.source? source.id = some source) (honest : Honest state source exchange)
    (sound : FindsUnchanged parsers state source exchange → NewestProcessed state source.id) :
    Kept parsers (checkSource parsers state source exchange) := by
  obtain ⟨check, change, checks, mine, keeps, sources, result⟩ := checkSource_spec parsers state source exchange
  generalize checkSource parsers state source exchange = after at checks sources result
  have more : state.checks ⊆ after.checks := by
    rw [checks]
    exact List.subset_cons_self check state.checks
  -- A row of the sources is the earlier one, as far as its adapter goes.
  have rows {id : String} {row : RateSource} (listed : after.source? id = some row) :
      ∃ old, state.source? id = some old ∧ row.id = old.id ∧
        ∀ page, adapterDocuments parsers row page = adapterDocuments parsers old page := by
    have same : after.source? id = (state.updateSource source.id change).source? id := by
      rw [SyncState.source?, sources, SyncState.source?]
    rw [same, source?_updateSource keeps] at listed
    obtain ⟨old, present, rfl⟩ := Option.map_eq_some_iff.mp listed
    refine ⟨old, present, ?_⟩
    split
    · exact ⟨keeps.id old, adapterDocuments_changed keeps old⟩
    · exact ⟨rfl, fun _ => rfl⟩
  -- The sources that the check is not for keep their last response.
  have others {id : String} (other : source.id ≠ id) : lastServed after.checks id = lastServed state.checks id := by
    rw [checks, lastServed_cons, mine, if_neg other]
  -- A check that stores no artifact keeps the evidence when it repeats the last response.
  have repeated (same : ∀ id, lastServed after.checks id = lastServed state.checks id)
      (stored : after.artifacts = state.artifacts) (lossless : NothingLost after.checks) : Kept parsers after := by
    have newest (id : String) : after.newestArtifact id = state.newestArtifact id := by
      rw [SyncState.newestArtifact, stored, SyncState.newestArtifact]
    refine ⟨lossless, ?_, ?_⟩
    · intro id row listed artifact first
      obtain ⟨old, present, sameId, documents⟩ := rows listed
      rw [newest] at first
      exact (kept.evidence id old present artifact first).later sameId documents (same old.id) more
    · intro id none
      rw [same]
      exact kept.served id (newest id ▸ none)
  generalize stored : after.artifacts = artifacts at result
  cases result with
  | unavailable unserved failed =>
      refine repeated (fun id => ?_) stored (checks ▸ kept.nothingLost.cons fun ok => absurd failed ok)
      rw [checks, lastServed_cons, unserved]
      split <;> rfl
  | unchanged unchanged served extracted =>
      obtain ⟨current, newestNow, evidence, last⟩ := kept.unchanged_page collisionFree found honest unchanged
      refine repeated (fun id => ?_) stored ?_
      · by_cases here : source.id = id
        · rw [checks, lastServed_cons, mine, if_pos here, served, ← here, last]
          rfl
        · exact others here
      · rw [checks]
        refine kept.nothingLost.cons fun _ document listed => ?_
        obtain ⟨other, present, own, accepted⟩ := evidence.accepted newestNow (sound unchanged) last
        refine ⟨other, List.mem_cons_of_mem _ present, own.trans mine.symm, ?_⟩
        rw [accepted, ← extracted]
        exact listed
  | processed served extracted done failed =>
      have newest (id : String) : after.newestArtifact id = if source.id = id
          then some ⟨source.id, check.id, parsers.sha256 exchange.page.content⟩ else state.newestArtifact id := by
        rw [SyncState.newestArtifact, stored, List.find?_cons]
        split
        · next here => rw [if_pos (of_decide_eq_true here)]
        · next other => rw [if_neg (of_decide_eq_false other), SyncState.newestArtifact]
      refine ⟨?_, ?_, ?_⟩
      · rw [checks]
        refine kept.nothingLost.cons fun ok document listed => ⟨check, List.mem_cons_self, rfl, ?_⟩
        rw [done (not_not.mp fun raised => ok (failed raised))]
        exact listed
      · intro id row listed artifact first
        obtain ⟨old, present, sameId, documents⟩ := rows listed
        have oldId := source?_id present
        rw [newest] at first
        by_cases here : source.id = id
        · rw [if_pos here] at first
          cases first
          rw [← here, found] at present
          cases present
          refine ⟨exchange.page, check, ?_, rfl, ?_, rfl, mine.trans sameId.symm, ?_, done⟩
          · rw [checks, lastServed_cons, mine, if_pos sameId.symm, served]
            rfl
          · rw [checks]
            exact List.mem_cons_self
          · rw [extracted, documents]
        · rw [if_neg here] at first
          have other : source.id ≠ old.id := oldId ▸ here
          exact (kept.evidence id old present artifact first).later sameId documents (others other) more
      · intro id none
        rw [newest] at none
        by_cases here : source.id = id
        · rw [if_pos here] at none
          cases none
        · rw [if_neg here] at none
          rw [others here]
          exact kept.served id none

end Checks

/-! ## Runs -/

section Runs
variable {Document : Type} {parsers : Parsers Document} {G H : SyncState Document → RateSource → Exchange → Prop}
  {state : SyncState Document} {run : SyncRun}

theorem JobsMeet.and {jobs : List BackgroundJob} (first : JobsMeet parsers G run state jobs)
    (second : JobsMeet parsers H run state jobs) :
    JobsMeet parsers (fun state source exchange => G state source exchange ∧ H state source exchange) run state jobs := by
  induction jobs generalizing state with
  | nil => trivial
  | cons job rest ih =>
      intro clear
      obtain ⟨one, others⟩ := first clear
      obtain ⟨two, more⟩ := second clear
      refine ⟨(Along.and one two).imp ?_, ih others more⟩
      rintro pending sourceId ⟨meets, also⟩ source found
      exact ⟨meets source found, also source found⟩

/-- Jobs do not enter into what is kept. -/
theorem Kept.jobs {other : SyncState Document} (kept : Kept parsers state) (sources : other.sources = state.sources)
    (checks : other.checks = state.checks) (artifacts : other.artifacts = state.artifacts) : Kept parsers other := by
  have newest (id : String) : other.newestArtifact id = state.newestArtifact id := by
    rw [SyncState.newestArtifact, artifacts, SyncState.newestArtifact]
  refine ⟨checks ▸ kept.nothingLost, ?_, ?_⟩
  · intro id source found artifact first
    rw [newest] at first
    rw [SyncState.source?, sources] at found
    exact (kept.evidence id source found artifact first).later rfl (fun _ => rfl) (by rw [checks])
      (by rw [checks]; exact List.Subset.refl _)
  · intro id none
    rw [checks]
    exact kept.served id (newest id ▸ none)

variable (collisionFree : Function.Injective parsers.sha256)
include collisionFree

theorem processJob_kept {job : BackgroundJob} (kept : Kept parsers state)
    (meets : JobMeets parsers (fun state source exchange => Honest state source exchange ∧ Sound parsers state source exchange)
      run state job) : Kept parsers (processJob parsers run state job) := by
  have started : Kept parsers (state.setJob job.id .running) := kept.jobs rfl rfl rfl
  have checked := meets.invariant started fun pending sourceId kept meets => by
    unfold checkTurn
    split
    · exact kept
    · next source found =>
        obtain ⟨honest, sound⟩ := meets source found
        exact checkSource_kept collisionFree kept (source?_id found ▸ found) honest sound
  exact checked.jobs rfl rfl rfl

theorem processJobs_kept {committed : SyncState Document} {jobs : List BackgroundJob} (before : Kept parsers committed)
    (kept : Kept parsers state) (meets : JobsMeet parsers
      (fun state source exchange => Honest state source exchange ∧ Sound parsers state source exchange) run state jobs) :
    Kept parsers (processJobs parsers run committed state jobs) := by
  induction jobs generalizing committed state with
  | nil => exact kept
  | cons job rest ih =>
      unfold processJobs
      split
      · exact before
      · next clear =>
          obtain ⟨here, later⟩ := meets (Bool.eq_false_iff.mpr clear)
          have done := processJob_kept collisionFree kept here
          exact ih done done later

theorem processRateSyncJobs_kept (kept : Kept parsers state) (server : RunMeets parsers Honest state run)
    (sound : RunMeets parsers (Sound parsers) state run) : Kept parsers (processRateSyncJobs parsers state run) := by
  unfold processRateSyncJobs
  split
  · exact kept
  · next clear =>
      have clear := Bool.eq_false_iff.mpr clear
      exact processJobs_kept collisionFree kept (kept.jobs rfl rfl rfl) ((server clear).and (sound clear))

/-- In runs against honest servers, in which every check that finds nothing changed finds that the check which stored the
newest artifact raised nothing, no document is lost. -/
theorem fetched_changes_never_lost (unchecked : state.checks = []) (empty : state.artifacts = []) {runs : List SyncRun}
    (server : Along (processRateSyncJobs parsers) (RunMeets parsers Honest) state runs)
    (sound : Along (processRateSyncJobs parsers) (RunMeets parsers (Sound parsers)) state runs) :
    ∀ earlier later, runs = earlier ++ later → NothingLost (earlier.foldl (processRateSyncJobs parsers) state).checks := by
  rintro earlier later rfl
  have initial : Kept parsers state := by
    refine ⟨?_, ?_, ?_⟩
    · rw [unchecked]
      intro before check after same
      simp at same
    · intro id source _ artifact first
      rw [SyncState.newestArtifact, empty] at first
      cases first
    · intro id _
      rw [unchecked]
      rfl
  have reached := (Along.and server sound).of_append.invariant initial fun pending run kept meets =>
    processRateSyncJobs_kept collisionFree kept meets.1 meets.2
  exact reached.nothingLost

end Runs

/-! ## Two pages -/

/-- The page is its only document. -/
def wholePage : Parsers String where
  adapters _ := some fun _ page => { status := .succeeded, documents := [page.content] }
  sha256 content := content

def onePage : SyncState String where
  sources := [{ id := "source", url := "https://source", parserId := "parser" }]

/-- A scheduled run that meets the exchange. -/
def scheduledRun (id : String) (exchange : Exchange) : SyncRun where
  scheduled := some { id := id, requestedAt := 0 }
  now := 0
  exchange _ _ := exchange

def summerPage : Page := ⟨"summer", "text/html", "https://source"⟩

def winterPage : Page := ⟨"winter", "text/html", "https://source"⟩

/-- The summer page fails to parse and is replaced before the next check; the winter page is then found unchanged. -/
def replacedRuns : List SyncRun :=
  [scheduledRun "first" { page := summerPage, etag := some "s", trouble := some .parsing },
    scheduledRun "second" { page := winterPage, etag := some "w" },
    scheduledRun "third" { page := winterPage, answer := .notModified },
    scheduledRun "fourth" { page := winterPage, trouble := some (.candidate 0) }]

theorem replaced_page_is_not_lost :
    NothingLost (replacedRuns.foldl (processRateSyncJobs wholePage) onePage).checks ∧
      (replacedRuns.foldl (processRateSyncJobs wholePage) onePage).checks.map RateSourceCheck.outcome =
        [.unchangedContent, .notModified, .succeeded, .failed] := by
  have server : Along (processRateSyncJobs wholePage) (RunMeets wholePage Honest) onePage replacedRuns := by decide
  have sound : Along (processRateSyncJobs wholePage) (RunMeets wholePage (Sound wholePage)) onePage replacedRuns := by
    decide
  refine ⟨?_, by decide⟩
  exact fetched_changes_never_lost (fun _ _ same => same) rfl rfl server sound replacedRuns [] (by simp)

/-- The summer page fails to parse, and is found not modified ever after. -/
def forgottenRuns : List SyncRun :=
  [scheduledRun "first" { page := summerPage, etag := some "s", trouble := some .parsing },
    scheduledRun "second" { page := summerPage, answer := .notModified }]

theorem failed_page_is_forgotten :
    Along (processRateSyncJobs wholePage) (RunMeets wholePage Honest) onePage forgottenRuns ∧
      ¬ NothingLost (forgottenRuns.foldl (processRateSyncJobs wholePage) onePage).checks := by
  refine ⟨by decide, fun lossless => ?_⟩
  have covered : ∃ other ∈ (forgottenRuns.foldl (processRateSyncJobs wholePage) onePage).checks,
      other.rateSourceId = "source" ∧ "summer" ∈ other.accepted :=
    lossless [] _ _ rfl (by decide) "summer" (by decide)
  revert covered
  decide

end PowerMonitor.Sources
