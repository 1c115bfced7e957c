import PowerMonitor.Foundation
import PowerMonitor.Library.Spans

/-! Device readings and the rows the ingestion service keeps for one device.

Every table is restricted to the rows of one device, so the device key of each
row is implicit. Row identifiers that only link tables are replaced by the
unique key they stand for: a raw reading is identified by its sequence.
-/

set_option autoImplicit false
namespace PowerMonitor.Ingestion
open Library

/-- One durable sensor record as the wire schema admits it. -/
structure Reading where
  dataGeneration : Nat := 0
  sequence : PositiveSignedSequence
  bootId : String
  intervalStart : Int
  intervalEnd : Int
  timeTrusted : Bool
  voltageAvg : Option Rat := none
  voltageMin : Option Rat := none
  voltageMax : Option Rat := none
  currentAvg : Option Rat := none
  currentMin : Option Rat := none
  currentMax : Option Rat := none
  powerAvg : Option Rat := none
  powerMin : Option Rat := none
  powerMax : Option Rat := none
  powerFactor : Option Rat := none
  frequencyHz : Option Rat := none
  pzemEnergyStartWh : Option Rat := none
  pzemEnergyEndWh : Option Rat := none
  deviceLifetimeEnergyWh : Option Rat := none
  intervalEnergyWh : Option Rat := none
  energyMethod : String
  ctRatingAmps : Rat
  qualityFlags : List String := []
  firmwareVersion : String
  recordHash : Option String := none
  intervalOrder : intervalStart < intervalEnd
  intervalLimit : intervalEnd - intervalStart ≤ seconds 86400
  deriving DecidableEq, Repr

/-- A range the sensor declares permanently unavailable. -/
structure UnavailableSequenceRange where
  span : Span
  positive : 1 ≤ span.first
  storable : span.last ≤ signedBigintMax
  deriving DecidableEq, Repr

inductive Source where | pull | push
  deriving DecidableEq, Repr

/-- One call of the service: the batch with the transport's side information. -/
structure Batch where
  readings : List Reading
  source : Source
  dataGeneration : Option Nat := none
  firstAvailableSequence : Option Nat := none
  unavailableSequenceRanges : List UnavailableSequenceRange := []
  maximumClockSkewSeconds : Int := 300
  deriving DecidableEq, Repr

structure EnergySelection where
  deviceEnergyWh : Option Rat
  serverEnergyWh : Option Rat
  selectedEnergyWh : Option Rat
  selectedMethod : String
  validationResult : String
  validationReason : String
  deriving DecidableEq, Repr

structure Device where
  siteId : String
  utilityAccountId : Option String := none
  deriving DecidableEq, Repr

inductive IngestionGate where
  | opened | preparing | blocked | pendingReconnect | committing | verifying | attentionRequired
  deriving DecidableEq, Repr

structure DeviceDataState where
  dataGeneration : Nat := 0
  resetBoundary : Nat := 0
  ingestionGate : IngestionGate := .opened
  resetRequiredOnReconnect : Bool := false
  deriving DecidableEq, Repr

structure SyncCursor where
  highestContiguousSequence : Nat
  maximumSeenSequence : Nat
  dataGeneration : Nat
  resetBoundary : Nat
  updatedAt : Int
  deriving DecidableEq, Repr

/-- `original_payload` and the measurement columns are the fields of `reading`. -/
structure RawReading where
  siteId : String
  dataGeneration : Nat
  reading : Reading
  recordHash : String
  ingestionSource : Source
  ingestedAt : Int
  deriving DecidableEq, Repr

def RawReading.sequence (raw : RawReading) : Nat := raw.reading.sequence

structure NormalizedInterval where
  rawReading : Nat
  intervalStart : Int
  intervalEnd : Int
  energy : EnergySelection
  deriving DecidableEq, Repr

structure SequenceGap where
  span : Span
  detectedAt : Int
  resolvedAt : Option Int := none
  permanentLoss : Bool := false
  deriving DecidableEq, Repr

/-- Unresolved gaps are recreated by every batch; resolved ones record a permanent loss. -/
def SequenceGap.lost (gap : SequenceGap) : Bool := gap.permanentLoss && gap.resolvedAt.isSome

/-- Evidence is a flat object of numbers and texts. -/
structure DeviceEvent where
  eventId : String
  occurredAt : Int
  receivedAt : Int
  category : String
  severity : String
  evidence : List (String × (Int ⊕ String))
  deriving DecidableEq, Repr

structure BillingCycle where
  utilityAccountId : String
  startsAt : Int
  endsAt : Int
  status : String
  finalizedAt : Option Int
  updatedAt : Int
  deriving DecidableEq, Repr

/-- What the service reads and writes for one device. -/
structure DeviceStore where
  device : Option Device := none
  dataState : Option DeviceDataState := none
  cursor : Option SyncCursor := none
  rawReadings : List RawReading := []
  normalizedIntervals : List NormalizedInterval := []
  sequenceGaps : List SequenceGap := []
  deviceEvents : List DeviceEvent := []
  billingCycles : List BillingCycle := []
  deriving DecidableEq, Repr

structure RejectedReading where
  sequence : Nat
  code : String
  detail : String
  deriving DecidableEq, Repr

structure ReadingBatchResponse where
  accepted : List Nat
  duplicates : List Nat
  rejected : List RejectedReading
  highestContiguousAcceptedSequence : Nat
  missingRanges : List Span
  dataGeneration : Nat
  resetBoundary : Nat
  deriving DecidableEq, Repr

/-- How a call can fail; every failure rolls the session back. -/
inductive IngestError where
  | valueError (message : String)
  | problem (problem : ProblemError)
  | integrityError (constraint : String)
  deriving DecidableEq, Repr

namespace DeviceStore
variable (store : DeviceStore)

/-- Sequences stored for one generation, in row order. -/
def sequences (generation : Nat) : List Nat :=
  (store.rawReadings.filter fun raw => raw.dataGeneration = generation).map RawReading.sequence

def Stored (generation n : Nat) : Prop := n ∈ store.sequences generation

instance (generation n : Nat) : Decidable (store.Stored generation n) :=
  inferInstanceAs (Decidable (_ ∈ _))

/-- Bounds of the resolved permanent-loss rows. -/
def lostSpans : List Span := (store.sequenceGaps.filter SequenceGap.lost).map SequenceGap.span

def Lost (n : Nat) : Prop := Covers store.lostSpans n

instance (n : Nat) : Decidable (store.Lost n) := inferInstanceAs (Decidable (Covers _ _))

/-- A sequence the sensor may forget: the server holds it or knows that it is gone. -/
def Accounted (generation n : Nat) : Prop := store.Stored generation n ∨ store.Lost n

def unresolvedSpans : List Span :=
  (store.sequenceGaps.filter fun gap => gap.resolvedAt.isNone).map SequenceGap.span

/-- A missing cursor row stands for the fresh cursor the service would insert. -/
def highestContiguous : Nat := (store.cursor.map SyncCursor.highestContiguousSequence).getD 0
def maximumSeen : Nat := (store.cursor.map SyncCursor.maximumSeenSequence).getD 0
def cursorBoundary : Nat := (store.cursor.map SyncCursor.resetBoundary).getD 0

theorem stored_iff {generation n : Nat} : store.Stored generation n ↔
    ∃ raw ∈ store.rawReadings, raw.dataGeneration = generation ∧ raw.sequence = n := by
  simp [Stored, sequences, and_assoc]

theorem lost_iff {n : Nat} : store.Lost n ↔
    ∃ gap ∈ store.sequenceGaps, gap.permanentLoss = true ∧ gap.resolvedAt.isSome ∧ gap.span.Contains n := by
  simp [Lost, Covers, lostSpans, SequenceGap.lost, and_assoc]

end DeviceStore
end PowerMonitor.Ingestion
