import CryptoCollector.Storage.Manifest.Model
import CryptoCollector.Storage.Part

/-!
# A raw part with its envelopes

`storage/raw_writer.py: _PartAccumulator, _ActivePart` with the facts that only the manifest
reports, on top of `Part`: the sets of symbols, connections, egresses and intervals, the event
times, and the rows with their bytes. `written` are the frames in the file; a frame is written
before its completion is applied, and a part whose write failed is never frozen.
-/

namespace CryptoCollector.Storage

open Lib

/-- `models.py: AcceptedRecordIdentityV1` with its exchange and worker. -/
structure AcceptedIdentity extends Identity where
  exchange : Exchange
  workerInstanceId : String
  deriving DecidableEq

/-- `models.py: AcceptedRecord` with its identity. -/
structure Row where
  envelope : RawEnvelope
  encodedJsonl : Bytes
  identity : AcceptedIdentity

namespace Row

/-- What a part keeps of a row. -/
def toRecord (r : Row) : Record where
  identity := r.identity.toIdentity
  receivedAtNs := r.envelope.receivedAtNs
  acceptedMonotonicNs := r.envelope.monotonicNs
  size := r.encodedJsonl.length

/-- `_validate_pair`. -/
def isPair (r : Row) : Bool :=
  (r.identity.exchange, r.identity.key, r.identity.workerInstanceId, r.identity.writerSequence,
      r.identity.configSha256) =
    (r.envelope.exchange, r.envelope.key, r.envelope.workerInstanceId,
      r.envelope.writerSequence, r.envelope.configSha256)

/-- `BufferedRow.__post_init__`. -/
def validateBuffered (r : Row) : Option Err :=
  refuseIf (r.encodedJsonl.getLast? ≠ some 10 || r.encodedJsonl.dropLast.contains 10)
    "buffered row must be exactly one non-empty JSONL row" <|>
  refuseIf (maxSignedInt64 < r.envelope.monotonicNs)
    "accepted_monotonic_ns must fit a signed 64-bit integer"

end Row

/-- The facts of `_PartAccumulator` that `Part` leaves out. -/
structure PartFacts where
  wireSymbols : Finset String := ∅
  connectionGenerations : Finset Nat := ∅
  egressIds : Finset String := ∅
  requestedIntervalsNs : Finset Nat := ∅
  effectiveIntervalsNs : Finset Nat := ∅
  firstEventTimeNs : Option Nat := none
  lastEventTimeNs : Option Nat := none
  deriving DecidableEq

/-- `append_validated`. The assertion on the effective interval holds, since the metadata of an
envelope pairs the intervals. -/
def PartFacts.appendValidated (f : PartFacts) (e : RawEnvelope) : PartFacts where
  wireSymbols := collect e.wireSymbol f.wireSymbols
  connectionGenerations := collect e.connectionGeneration f.connectionGenerations
  egressIds := collect e.egressId f.egressIds
  requestedIntervalsNs := collect e.requestedIntervalNs f.requestedIntervalsNs
  effectiveIntervalsNs := collect e.effectiveIntervalNs f.effectiveIntervalsNs
  firstEventTimeNs := f.firstEventTimeNs <|> e.eventTimeNs
  lastEventTimeNs := e.eventTimeNs <|> f.lastEventTimeNs

/-- `_ActivePart`. `rows` and `lags` are history variables: the rows appended and the durability
lags of the rows completed. -/
structure ActivePart where
  part : Part
  exchange : Exchange
  workerInstanceId : String
  dataRelativePath : String
  manifestRelativePath : String
  zstdLevel : Nat
  maxPlainFrameBytes : Nat
  durabilitySloNs : Nat
  facts : PartFacts := {}
  pending : List Row := []
  claimed : List Row := []
  written : List (List Row) := []
  rows : List Row := []
  lags : List Nat := []

namespace ActivePart

/-- `allocate`: the part for a first record, which is not appended yet. -/
def allocate (first : Row) (partStartNs partSequence createdAtNs : Nat)
    (zstdLevel maxPlainFrameBytes durabilitySloNs : Nat) : Except Err ActivePart := do
  let dataRelativePath ← rawDataPath first.envelope.toEnvelopeFields partStartNs partSequence
  ManifestFields.raise (refuseIf (zstdLevel < 1 || 22 < zstdLevel)
    "zstd_level must be at most 22")
  ManifestFields.raise (refuseIf (maxPlainFrameBytes < 1)
    "max_plain_frame_bytes must be positive")
  ManifestFields.raise (refuseIf (!first.isPair) "accepted identity does not match its record")
  ManifestFields.raise (refuseIf (durabilitySloNs == 0) "durability_slo_ns must be positive")
  let manifestRelativePath ← manifestPathForData dataRelativePath
  return {
    part := {
      path := ⟨first.envelope.key, partStartNs, partSequence⟩
      createdAtNs
      receivedHour := first.envelope.receivedAtNs / hourNs
      configSha256 := first.envelope.configSha256
      configGeneration := first.identity.configGeneration }
    exchange := first.envelope.exchange
    workerInstanceId := first.envelope.workerInstanceId
    dataRelativePath
    manifestRelativePath
    zstdLevel
    maxPlainFrameBytes
    durabilitySloNs }

/-- `_PartAccumulator.validate_record`. -/
def validateRecord (a : ActivePart) (r : Row) : Option Err :=
  if a.part.accumulator.frozen then some (.valueError "part accumulator is frozen")
  else if !r.isPair then some (.valueError "accepted identity does not match its record")
  else if a.exchange ≠ r.envelope.exchange ∨ a.workerInstanceId ≠ r.envelope.workerInstanceId then
    some (.valueError "record does not belong to this raw part")
  else a.part.validateRecord r.toRecord

/-- A row enters the part. -/
def record (a : ActivePart) (r : Row) (part : Part) : ActivePart :=
  { a with part, facts := a.facts.appendValidated r.envelope, rows := a.rows ++ [r] }

/-- `append_accepted`. -/
def appendAccepted (r : Row) : Proc Err ActivePart := fun a =>
  if a.part.closeReason.isSome then
    (some (.valueError "retired raw parts cannot accept records"), a)
  else
    match a.validateRecord r <|> r.validateBuffered with
    | some e => (some e, a)
    | none =>
      match a.part.appendAccepted a.maxPlainFrameBytes r.toRecord with
      | (some e, _) => (some e, a)
      | (none, part) => (none, { a.record r part with pending := a.pending ++ [r] })

/-- `seal_oversized`. -/
def sealOversized (r : Row) : Proc Err ActivePart := fun a =>
  if a.part.closeReason.isSome then
    (some (.valueError "retired raw parts cannot accept records"), a)
  else if !a.part.pending.isEmpty ∨ a.part.claimed.isSome then
    (some (.valueError "oversized work requires a quiescent raw part"), a)
  else if r.encodedJsonl.length ≤ a.maxPlainFrameBytes then
    (some (.valueError "oversized work must exceed the plain frame limit"), a)
  else
    match a.validateRecord r <|> r.validateBuffered with
    | some e => (some e, a)
    | none =>
      match a.part.sealOversized a.maxPlainFrameBytes r.toRecord with
      | (some e, _) => (some e, a)
      | (none, part) => (none, { a.record r part with claimed := [r] })

/-- The check of `PendingRows.__post_init__` on the order of the acceptance times. -/
def isOrdered (rows : List Row) : Bool :=
  decide (rows.Pairwise fun r s => r.envelope.monotonicNs ≤ s.envelope.monotonicNs)

/-- `seal_for_sync`. -/
def sealForSync (forceSync : Bool) : Proc Err ActivePart := fun a =>
  if a.part.claimed.isSome then
    (some (.valueError "raw part already has sync work in flight"), a)
  else if !isOrdered a.pending then
    (some (.valueError "pending row monotonic times must be non-decreasing"), a)
  else if a.pending.isEmpty ∧ !forceSync then (none, a)
  else
    (none, { a with
      part := (a.part.sealForSync forceSync).2, pending := [], claimed := a.pending })

/-- `apply_completion` of the claim in flight, whose frame was written. -/
def applyCompletion (result : FileDurabilityResult) : Proc Err ActivePart := fun a =>
  match a.part.applyCompletion a.durabilitySloNs result with
  | (some e, _) => (some e, a)
  | (none, part) =>
    (none, { a with
      part
      claimed := []
      written := if a.claimed.isEmpty then a.written else a.written ++ [a.claimed]
      lags := a.lags ++ lagsAt (result.syncCompletedMonotonicNs.getD 0)
        (a.claimed.map Row.toRecord) })

/-- `apply_failure` of the claim in flight. -/
def applyFailure (e : Err) : Proc Err ActivePart := fun a =>
  match a.part.applyFailure e with
  | (some e, _) => (some e, a)
  | (none, part) => (none, { a with part, claimed := [] })

/-- `fold_durable_control`. -/
def foldDurableControl (association : ControlAssociation) : Proc Err ActivePart := fun a =>
  let (e, part) := a.part.foldDurableControl association
  (e, { a with part })

/-- `retire`. -/
def retire (reason : CloseReason) (closedAtNs : Nat) : Proc Err ActivePart := fun a =>
  match a.part.validateRetirement reason closedAtNs with
  | some e => (some e, a)
  | none => (none, { a with part := a.part.retire reason closedAtNs })

end ActivePart

/-- What is done to a part between its allocation and its publication. The event id of an
association is nonempty. -/
inductive PartOp where
  | append (r : Row)
  | sealOversized (r : Row)
  | sealForSync (forceSync : Bool)
  | complete (result : FileDurabilityResult)
  | fail (e : Err)
  | fold (association : ControlAssociation) (named : association.controlEventId ≠ "")
  | retire (reason : CloseReason) (closedAtNs : Nat)

namespace ActivePart

/-- One operation; the caller may catch its error and go on. -/
def step (a : ActivePart) : PartOp → ActivePart
  | .append r => (a.appendAccepted r).2
  | .sealOversized r => (a.sealOversized r).2
  | .sealForSync forceSync => (a.sealForSync forceSync).2
  | .complete result => (a.applyCompletion result).2
  | .fail e => (a.applyFailure e).2
  | .fold association _ => (a.foldDurableControl association).2
  | .retire reason closedAtNs => (a.retire reason closedAtNs).2

/-- A sequence of operations. -/
def run (a : ActivePart) (ops : List PartOp) : ActivePart := ops.foldl step a

end ActivePart

/-! ## The manifest -/

/-- `_PartSummary`. -/
structure PartSummary where
  exchange : Exchange
  key : LogicalKey
  wireSymbols : List String
  recordCount : Nat
  firstReceivedAtNs : Nat
  lastReceivedAtNs : Nat
  firstEventTimeNs : Option Nat
  lastEventTimeNs : Option Nat
  workerInstanceId : String
  connectionGenerations : List Nat
  writerSequenceFirst : Nat
  writerSequenceLast : Nat
  configSha256 : String
  egressIds : List String
  requestedIntervalsNs : List Nat
  effectiveIntervalsNs : List Nat
  counters : ControlCounters
  controlEventIds : List String
  durabilitySampleCount : Nat
  durabilityLagP50Ns : Nat
  durabilityLagP95Ns : Nat
  durabilityLagP99Ns : Nat
  durabilityLagMaxNs : Nat
  syncCount : Nat
  syncDurationTotalNs : Nat
  syncDurationMaxNs : Nat
  sloBreachCount : Nat
  writeFailureCount : Nat
  syncFailureCount : Nat
  deriving DecidableEq

namespace ActivePart

/-- An assertion that a value is set. -/
def assertSome {α : Type} (value : Option α) : Except Err α :=
  match value with
  | some v => .ok v
  | none => .error (.assertionError "is not None")

/-- `freeze_summary`: the summary of a part that it freezes. -/
def freezeSummary (a : ActivePart) : Except Err PartSummary :=
  match a.part.freezeSummary with
  | (some e, _) => .error e
  | (none, part) => do
    let acc := part.accumulator
    let durability ← acc.histogram.snapshot
    return {
      exchange := a.exchange
      key := a.part.key
      wireSymbols := a.facts.wireSymbols.sort (· ≤ ·)
      recordCount := acc.recordCount
      firstReceivedAtNs := ← assertSome acc.firstReceivedAtNs
      lastReceivedAtNs := ← assertSome acc.lastReceivedAtNs
      firstEventTimeNs := a.facts.firstEventTimeNs
      lastEventTimeNs := a.facts.lastEventTimeNs
      workerInstanceId := a.workerInstanceId
      connectionGenerations := a.facts.connectionGenerations.sort (· ≤ ·)
      writerSequenceFirst := ← assertSome acc.writerSequenceFirst
      writerSequenceLast := ← assertSome acc.writerSequenceLast
      configSha256 := a.part.configSha256
      egressIds := a.facts.egressIds.sort (· ≤ ·)
      requestedIntervalsNs := a.facts.requestedIntervalsNs.sort (· ≤ ·)
      effectiveIntervalsNs := a.facts.effectiveIntervalsNs.sort (· ≤ ·)
      counters := acc.counters
      controlEventIds := acc.controlEventIds.toFinset.sort (· ≤ ·)
      durabilitySampleCount := durability.sampleCount
      durabilityLagP50Ns := ← assertSome durability.lagP50Ns
      durabilityLagP95Ns := ← assertSome durability.lagP95Ns
      durabilityLagP99Ns := ← assertSome durability.lagP99Ns
      durabilityLagMaxNs := ← assertSome durability.lagMaxNs
      syncCount := acc.syncCount
      syncDurationTotalNs := acc.syncDurationTotalNs
      syncDurationMaxNs := acc.syncDurationMaxNs
      sloBreachCount := acc.sloBreachCount
      writeFailureCount := acc.writeFailureCount
      syncFailureCount := acc.syncFailureCount }

/-- The fields that `build_manifest` gives to `RawManifestV1`. -/
def manifestFields (a : ActivePart) (summary : PartSummary) (fileSizeBytes : Nat)
    (fileSha256 : String) (closeReason : CloseReason) (closedAtNs : Nat) : ManifestFields where
  exchange := summary.exchange
  market := summary.key.market
  instrumentKey := summary.key.instrumentKey
  logicalStream := summary.key.logicalStream
  wireSymbols := summary.wireSymbols
  dataRelativePath := a.dataRelativePath
  manifestRelativePath := a.manifestRelativePath
  fileSizeBytes
  fileSha256
  zstdLevel := some a.zstdLevel
  maxPlainFrameBytes := some a.maxPlainFrameBytes
  recordCount := summary.recordCount
  firstReceivedAtNs := summary.firstReceivedAtNs
  lastReceivedAtNs := summary.lastReceivedAtNs
  firstEventTimeNs := summary.firstEventTimeNs
  lastEventTimeNs := summary.lastEventTimeNs
  workerInstanceId := summary.workerInstanceId
  connectionGenerations := summary.connectionGenerations
  writerSequenceFirst := summary.writerSequenceFirst
  writerSequenceLast := summary.writerSequenceLast
  configSha256 := summary.configSha256
  egressIds := summary.egressIds
  requestedIntervalsNs := summary.requestedIntervalsNs
  effectiveIntervalsNs := summary.effectiveIntervalsNs
  gapCount := some summary.counters.gapCount
  reconnectCount := some summary.counters.reconnectCount
  parseErrorCount := some summary.counters.parseErrorCount
  checksumErrorCount := some summary.counters.checksumErrorCount
  queueOverflowCount := some summary.counters.queueOverflowCount
  controlEventIds := some summary.controlEventIds
  durabilityMeasurement := .measured
  durabilitySampleCount := some summary.durabilitySampleCount
  durabilityLagP50Ns := some summary.durabilityLagP50Ns
  durabilityLagP95Ns := some summary.durabilityLagP95Ns
  durabilityLagP99Ns := some summary.durabilityLagP99Ns
  durabilityLagMaxNs := some summary.durabilityLagMaxNs
  syncCount := some summary.syncCount
  syncDurationTotalNs := some summary.syncDurationTotalNs
  syncDurationMaxNs := some summary.syncDurationMaxNs
  sloBreachCount := some summary.sloBreachCount
  writeFailureCount := some summary.writeFailureCount
  syncFailureCount := some summary.syncFailureCount
  closeReason
  createdAtNs := some a.part.createdAtNs
  closedAtNs
  recoveryTransactionId := none
  recoverySourceState := none
  recoverySourceRelativePath := none
  recoverySourceBytes := none
  recoverySourceSha256 := none
  recoveryControlEventId := none
  recoveredFrameCount := none
  recoveredRecordCount := none
  recoveredBytes := none
  recoveredSha256 := none
  quarantinedSuffixRelativePath := none
  quarantinedSuffixBytes := none
  quarantinedSuffixSha256 := none
  unavailableFields := []

/-- `build_manifest`. -/
def buildManifest (a : ActivePart) (summary : PartSummary) (fileSizeBytes : Nat)
    (fileSha256 : String) : Except Err RawManifest :=
  match a.part.closeReason, a.part.closedAtNs with
  | some reason, some closedAtNs =>
    RawManifest.create (a.manifestFields summary fileSizeBytes fileSha256 reason closedAtNs)
  | _, _ => .error (.valueError "raw part must be retired before manifest construction")

end ActivePart

end CryptoCollector.Storage
