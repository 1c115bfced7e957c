import PowerMonitor.Library.Linked
import PowerMonitor.Library.Runs
import Mathlib.Data.String.Basic

/-! The checks of rate sources by the worker.

A check sends the validators of the last response. What it fetches is stored as an artifact before it is parsed, and an
exception in parsing or in the creation of a candidate is caught inside the transaction of the job: the artifact and the
validators stay.
-/

set_option autoImplicit false
namespace PowerMonitor.Sources
open Library

/-- What a server has at the address of a source. -/
structure Page where
  content : String
  contentType : String
  finalUrl : String
  deriving DecidableEq, Repr

inductive Outcome where | notModified | unchangedContent | succeeded | manualReview | failed
  deriving DecidableEq, Repr

/-- The status of an extraction becomes the outcome of the check. -/
structure ParseResult (Document : Type) where
  status : Outcome
  documents : List Document
  deriving Repr

structure RateSource where
  id : String
  url : String
  parserId : String
  effectiveFromHint : Option Int := none
  enabled : Bool := true
  etag : Option String := none
  lastModified : Option String := none
  consecutiveFailures : Nat := 0
  deriving DecidableEq, Repr

/-- `ADAPTERS`, by parser and hint, and the digest of a content. -/
structure Parsers (Document : Type) where
  adapters : String → Option (Option Int → Page → ParseResult Document)
  sha256 : String → String

/-- A check of a source. The page served at it, what the adapter extracts from that page and the documents that were passed
to `create_candidate_from_document` and came back are recorded beside the columns of the row. -/
structure RateSourceCheck (Document : Type) where
  id : Nat
  rateSourceId : String
  outcome : Outcome
  errorCode : Option String := none
  served : Option Page := none
  extracted : List Document := []
  accepted : List Document := []
  deriving Repr

structure RateSourceArtifact where
  rateSourceId : String
  sourceCheckId : Nat
  sha256 : String
  deriving DecidableEq, Repr

inductive JobStatus where | queued | running | succeeded | failed
  deriving DecidableEq, Repr

/-- A job of type `rate_source_sync`. Without source ids it is for all enabled sources. -/
structure BackgroundJob where
  id : String
  status : JobStatus := .queued
  requestedAt : Int
  scheduledFor : Option Int := none
  sourceIds : List String := []
  deriving DecidableEq, Repr

/-- The tables, with the latest check and the latest artifact first. -/
structure SyncState (Document : Type) where
  jobs : List BackgroundJob := []
  sources : List RateSource := []
  checks : List (RateSourceCheck Document) := []
  artifacts : List RateSourceArtifact := []

/-! ## fetch_source -/

inductive Answer where
  | unavailable (code : String)
  | notModified
  | full
  deriving DecidableEq, Repr

/-- Where a `ValueError` or `KeyError` is raised: in the adapter, or for the document at an index. -/
inductive Trouble where
  | parsing
  | candidate (index : Nat)
  deriving DecidableEq, Repr

/-- What a check meets: the page that is served, the headers and the kind of the answer, and the exception in processing. -/
structure Exchange where
  page : Page
  etag : Option String := none
  lastModified : Option String := none
  answer : Answer := .full
  trouble : Option Trouble := none
  deriving DecidableEq, Repr

structure FetchResult where
  statusCode : Nat
  page : Page
  etag : Option String
  lastModified : Option String
  deriving DecidableEq, Repr

def fetchSource (source : RateSource) (exchange : Exchange) : Except String FetchResult :=
  match exchange.answer with
  | .unavailable code => .error code
  | .notModified => .ok
      { statusCode := 304
        page := { content := "", contentType := exchange.page.contentType, finalUrl := exchange.page.finalUrl }
        etag := exchange.etag <|> source.etag
        lastModified := exchange.lastModified <|> source.lastModified }
  | .full => .ok
      { statusCode := 200, page := exchange.page, etag := exchange.etag, lastModified := exchange.lastModified }

/-! ## process_rate_sync_jobs -/

section Checks
variable {Document : Type} (parsers : Parsers Document)

/-- What the adapter of the source makes of a page. -/
def parsePage (source : RateSource) (page : Page) : Option (ParseResult Document) :=
  (parsers.adapters source.parserId).map fun adapter => adapter source.effectiveFromHint page

def adapterDocuments (source : RateSource) (page : Page) : List Document :=
  ((parsePage parsers source page).map ParseResult.documents).getD []

/-- Parsing and the loop over the documents: the documents that came back, and the outcome unless an exception ended it. -/
def processPage (source : RateSource) (page : Page) (trouble : Option Trouble) : List Document × Option Outcome :=
  match parsePage parsers source page with
  | none => ([], none)
  | some parsed =>
      match trouble with
      | some .parsing => ([], none)
      | some (.candidate index) =>
          if index < parsed.documents.length then (parsed.documents.take index, none)
          else (parsed.documents, some parsed.status)
      | none => (parsed.documents, some parsed.status)

namespace SyncState
variable (state : SyncState Document)

def source? (id : String) : Option RateSource := state.sources.find? fun source => source.id = id

/-- The artifact captured last among those of the checks of a source. -/
def newestArtifact (id : String) : Option RateSourceArtifact :=
  state.artifacts.find? fun artifact => artifact.rateSourceId = id

def updateSource (id : String) (change : RateSource → RateSource) : SyncState Document :=
  { state with sources := state.sources.map fun source => if source.id = id then change source else source }

def addCheck (check : RateSourceCheck Document) : SyncState Document := { state with checks := check :: state.checks }

def setJob (id : String) (status : JobStatus) : SyncState Document :=
  { state with jobs := state.jobs.map fun job => if job.id = id then { job with status := status } else job }

end SyncState

/-- The validators of a response are stored as soon as it is there. -/
def storeValidators (fetched : FetchResult) (source : RateSource) : RateSource :=
  { source with etag := fetched.etag, lastModified := fetched.lastModified }

def succeededCheck (source : RateSource) : RateSource := { source with consecutiveFailures := 0 }

def failedCheck (source : RateSource) : RateSource := { source with consecutiveFailures := source.consecutiveFailures + 1 }

/-- One source of a job. -/
def checkSource (state : SyncState Document) (source : RateSource) (exchange : Exchange) : SyncState Document :=
  let row : RateSourceCheck Document := { id := state.checks.length, rateSourceId := source.id, outcome := .failed }
  match fetchSource source exchange with
  | .error code => (state.updateSource source.id failedCheck).addCheck { row with errorCode := some code }
  | .ok fetched =>
      let row := { row with served := some exchange.page, extracted := adapterDocuments parsers source exchange.page }
      let state := state.updateSource source.id (storeValidators fetched)
      if fetched.statusCode = 304 then
        (state.updateSource source.id succeededCheck).addCheck { row with outcome := .notModified }
      else
        let digest := parsers.sha256 fetched.page.content
        if (state.newestArtifact source.id).map RateSourceArtifact.sha256 = some digest then
          (state.updateSource source.id succeededCheck).addCheck { row with outcome := .unchangedContent }
        else
          -- The artifact is flushed before the adapter runs.
          let state := { state with artifacts := ⟨source.id, row.id, digest⟩ :: state.artifacts }
          match processPage parsers source fetched.page exchange.trouble with
          | (accepted, some outcome) =>
              (state.updateSource source.id succeededCheck).addCheck { row with outcome := outcome, accepted := accepted }
          | (accepted, none) => (state.updateSource source.id failedCheck).addCheck
              { row with errorCode := some "processing_error", accepted := accepted }

/-- What a run of the worker meets: the reset barrier, the job of the schedule, and for each source its exchange. -/
structure SyncRun where
  blocked : Bool := false
  scheduled : Option BackgroundJob := none
  now : Int
  limit : Nat := 1
  blockedJob : String → Bool := fun _ => false
  exchange : String → String → Exchange

def checkTurn (run : SyncRun) (jobId : String) (state : SyncState Document) (sourceId : String) : SyncState Document :=
  match state.source? sourceId with
  | none => state
  | some source => checkSource parsers state source (run.exchange jobId sourceId)

/-- The enabled sources that a job is for, in the order of their addresses. -/
def jobSources (state : SyncState Document) (job : BackgroundJob) : List String :=
  (sortedBy RateSource.url (state.sources.filter fun source =>
    source.enabled = true ∧ (job.sourceIds ≠ [] → source.id ∈ job.sourceIds))).map RateSource.id

def processJob (run : SyncRun) (state : SyncState Document) (job : BackgroundJob) : SyncState Document :=
  let sourceIds := jobSources state job
  let checked := sourceIds.foldl (checkTurn parsers run job.id) (state.setJob job.id .running)
  let succeeded := (checked.checks.take sourceIds.length).all fun check => check.outcome ≠ .failed
  checked.setJob job.id (if succeeded then .succeeded else .failed)

/-- The loop over the jobs. Each is committed by itself; one that the barrier stops rolls back to the last commit. -/
def processJobs (run : SyncRun) (committed : SyncState Document) :
    SyncState Document → List BackgroundJob → SyncState Document
  | pending, [] => pending
  | pending, job :: rest =>
      if run.blockedJob job.id then committed
      else
        let done := processJob parsers run pending job
        processJobs run done done rest

def enqueueScheduledSync (run : SyncRun) (state : SyncState Document) : SyncState Document :=
  { state with jobs := state.jobs ++ run.scheduled.toList }

def dueJobs (run : SyncRun) (state : SyncState Document) : List BackgroundJob :=
  (sortedBy BackgroundJob.requestedAt (state.jobs.filter fun job =>
    job.status = .queued ∧ ∀ time ∈ job.scheduledFor, time ≤ run.now)).take run.limit

def processRateSyncJobs (state : SyncState Document) (run : SyncRun) : SyncState Document :=
  if run.blocked then state
  else
    let enqueued := enqueueScheduledSync run state
    processJobs parsers run state enqueued (dueJobs run enqueued)

end Checks

end PowerMonitor.Sources
