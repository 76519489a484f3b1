import CryptoCollector.Storage.Json
import CryptoCollector.Storage.Manifest.Part
import CryptoCollector.Storage.Recovery.Plan

/-!
# Recovery control carriers

The part that carries one `recovery_reconciled` row: `storage/service.py:
_process_pending_recovery_control` writes it and publishes a normal manifest for it,
`storage/recovery.py: _validate_normal_owned_control_manifest` and
`_verify_owned_control_carrier` check it against the ownership fact that was bound before, when
the row is acknowledged and at every later start.

* `RecoveryControlOwnershipV1` : `OwnershipFields`, `ControlOwnership`
* `_ownership_from_admission` : `ownershipFromAdmission`
* `_process_pending_recovery_control` : `processPendingRecoveryControl`

Base64 texts are the bytes they stand for. The checks of the payload and of the association of an
admission are not here; they raise before anything is written.
-/

namespace CryptoCollector.Storage.Recovery

open ManifestFields (raise)

/-- A check that raises `RecoveryBlocked(message)` when its condition holds. -/
def blockIf (refused : Bool) (message : String) : Except Err Unit :=
  if refused then .error (.recoveryBlocked message) else .ok ()

@[simp] theorem blockIf_eq_ok {refused : Bool} {message : String} {u : Unit} :
    blockIf refused message = .ok u ↔ refused = false := by
  cases refused <;> simp [blockIf]

/-- The functions of the packages that write and check a carrier. -/
structure CarrierCodec extends Encoders where
  /-- `ZstdCompressor.compress`. -/
  compress : Bytes → Bytes
  /-- `encode_envelope`. -/
  encodeEnvelope : RawEnvelope → Bytes
  /-- The JSON decoder of `model_validate_json`. -/
  parseManifest : Bytes → Except Err ManifestFields

variable (codec : CarrierCodec)

/-! ## Ownership -/

/-- The fields of `RecoveryControlOwnershipV1` that its validation and the carrier read. -/
structure OwnershipFields where
  transactionId : String
  createdAtNs : Nat
  recoveryControlEventId : String
  identity : AcceptedIdentity
  envelope : RawEnvelope
  encodedSha256 : String
  frame : Bytes
  frameSizeBytes : Nat
  frameSha256 : String
  recoveryManifest : Bytes
  recoveryManifestSizeBytes : Nat
  recoveryManifestSha256 : String
  generationId : GenerationId
  dataRelativePath : String
  manifestRelativePath : String
  zstdLevel : Nat
  maxPlainFrameBytes : Nat

/-- The manifest that a recovery publishes for a carrier. -/
def carrierRecoveryManifest (scan : RecoveryFrameScan) (frame : Bytes)
    (dataRelativePath transactionId : String) (createdAtNs : Nat) : Except Err RawManifest :=
  recoveryManifest codec.toEncoders scan frame (dataRelativePath ++ ".partial")
    .ownedControlCarrier transactionId createdAtNs
    (plannedBytes codec.toEncoders dataRelativePath frame) none

/-- The frame of a carrier holds exactly its envelope. -/
def holdsExactly (scan : RecoveryFrameScan) (frame : Bytes) (e : RawEnvelope) : Bool :=
  scan.validPrefixSizeBytes = frame.length &&
    match scan.frames with
    | [f] =>
      match f.envelopes with
      | [row] => row.toEnvelopeFields.equal e.toEnvelopeFields
      | _ => false
    | _ => false

namespace OwnershipFields

/-- The envelope of an owned control uses the internal null source context. -/
def isInternal (e : RawEnvelope) : Bool :=
  e.logicalStream = "_control" && e.transport = .internal && e.market.isNone &&
    e.instrumentKey.isNone && e.wireSymbol.isNone && e.nativeChannel.isNone &&
    e.eventTimeNs.isNone && e.eventTimeSource.isNone && e.integrityMode.isNone &&
    e.coverage.isNone && e.restMetadata.isNone && e.connectionId.isNone &&
    e.connectionGeneration.isNone && e.egressId.isNone

/-- `_validate_ownership_identity`. -/
def validate (o : OwnershipFields) : Except Err Unit := do
  raise (refuseIf (o.recoveryControlEventId ≠ recoveryEventPrefix ++ o.transactionId)
    "ownership event ID does not match transaction")
  raise (refuseIf (!isInternal o.envelope)
    "owned control envelope must use internal null source context")
  raise (refuseIf (o.identity.key.logicalStream ≠ "_control" ||
      (o.identity.exchange, o.identity.key.market, o.identity.key.instrumentKey,
        o.identity.workerInstanceId, o.identity.writerSequence, o.identity.configSha256) ≠
      (o.envelope.exchange, o.envelope.market, o.envelope.instrumentKey,
        o.envelope.workerInstanceId, o.envelope.writerSequence, o.envelope.configSha256))
    "ownership identity does not match control envelope")
  let manifestPath ← manifestPathForData o.dataRelativePath
  raise (refuseIf (o.manifestRelativePath ≠ manifestPath)
    "owned control manifest is not the data sibling")
  raise (refuseIf ((codec.sha256 (codec.encodeEnvelope o.envelope)).hex ≠ o.encodedSha256)
    "owned control encoded hash is invalid")
  raise (refuseIf (o.frame.length ≠ o.frameSizeBytes ||
      (codec.sha256 o.frame).hex ≠ o.frameSha256)
    "owned control frame facts are invalid")
  let scan ← scanRecoveryFrames codec.toCodec o.frame (o.dataRelativePath ++ ".partial")
  raise (refuseIf (!holdsExactly scan o.frame o.envelope)
    "owned control frame is not the exact envelope")
  let manifest ← carrierRecoveryManifest codec scan o.frame o.dataRelativePath o.transactionId
    o.createdAtNs
  raise (refuseIf (o.recoveryManifest ≠ codec.manifestBytes manifest ||
      o.recoveryManifest.length ≠ o.recoveryManifestSizeBytes ||
      (codec.sha256 o.recoveryManifest).hex ≠ o.recoveryManifestSha256)
    "owned control recovery manifest facts are invalid")

end OwnershipFields

/-- `RecoveryControlOwnershipV1`: fields that passed the validation. -/
structure ControlOwnership extends OwnershipFields where
  valid : toOwnershipFields.validate codec = .ok ()

/-- `RecoveryControlOwnershipV1.create`. -/
def ControlOwnership.create (o : OwnershipFields) : Except Err (ControlOwnership codec) :=
  match h : o.validate codec with
  | .ok () => .ok ⟨o, h⟩
  | .error e => .error e

/-- `RecoveryControlAdmission`, what the ownership takes from it. -/
structure ControlAdmission where
  transactionId : String
  recoveryControlEventId : String
  row : Row
  generationId : GenerationId
  dataRelativePath : String
  manifestRelativePath : String
  frame : Bytes
  zstdLevel : Nat
  maxPlainFrameBytes : Nat

/-- `_ownership_from_admission`. -/
def ownershipFromAdmission (admission : ControlAdmission) (createdAtNs : Nat) :
    Except Err (ControlOwnership codec) := do
  let scan ← scanRecoveryFrames codec.toCodec admission.frame
    (admission.dataRelativePath ++ ".partial")
  let manifest ← carrierRecoveryManifest codec scan admission.frame admission.dataRelativePath
    admission.transactionId createdAtNs
  let manifestBytes := codec.manifestBytes manifest
  ControlOwnership.create codec
    { transactionId := admission.transactionId
      createdAtNs
      recoveryControlEventId := admission.recoveryControlEventId
      identity := admission.row.identity
      envelope := admission.row.envelope
      encodedSha256 := (codec.sha256 admission.row.encodedJsonl).hex
      frame := admission.frame
      frameSizeBytes := admission.frame.length
      frameSha256 := (codec.sha256 admission.frame).hex
      recoveryManifest := manifestBytes
      recoveryManifestSizeBytes := manifestBytes.length
      recoveryManifestSha256 := (codec.sha256 manifestBytes).hex
      generationId := admission.generationId
      dataRelativePath := admission.dataRelativePath
      manifestRelativePath := admission.manifestRelativePath
      zstdLevel := admission.zstdLevel
      maxPlainFrameBytes := admission.maxPlainFrameBytes }

/-! ## Checking a carrier -/

/-- The identity and the row facts of a manifest agree with the row that is owned. -/
def agreesWithRow (m : ManifestFields) (o : OwnershipFields) : Bool :=
  let e := o.envelope
  (m.exchange, m.market, m.instrumentKey, m.logicalStream, m.wireSymbols) =
      (e.exchange, none, none, "_control", []) &&
    (m.dataRelativePath, m.manifestRelativePath, m.fileSizeBytes, m.fileSha256, m.zstdLevel) =
      (o.dataRelativePath, o.manifestRelativePath, o.frameSizeBytes, o.frameSha256,
        some o.zstdLevel) &&
    (m.maxPlainFrameBytes, m.recordCount, m.firstReceivedAtNs, m.lastReceivedAtNs) =
      (some o.maxPlainFrameBytes, 1, e.receivedAtNs, e.receivedAtNs) &&
    (m.firstEventTimeNs, m.lastEventTimeNs, m.workerInstanceId, m.connectionGenerations) =
      (e.eventTimeNs, e.eventTimeNs, e.workerInstanceId, e.connectionGeneration.toList) &&
    (m.writerSequenceFirst, m.writerSequenceLast, m.configSha256, m.egressIds) =
      (e.writerSequence, e.writerSequence, e.configSha256, e.egressId.toList) &&
    (m.requestedIntervalsNs, m.effectiveIntervalsNs) =
      (e.requestedIntervalNs.toList, e.effectiveIntervalNs.toList)

/-- The control summaries of a carrier are empty. -/
def hasNoControls (m : ManifestFields) : Bool :=
  (m.gapCount, m.reconnectCount, m.parseErrorCount, m.checksumErrorCount) =
      (some 0, some 0, some 0, some 0) &&
    (m.queueOverflowCount, m.controlEventIds) = (some 0, some [])

/-- The quantiles that one sample of the stated maximum has. -/
def expectedLags (lagMaxNs : Option Nat) :
    Except Err (Option (Option Nat × Option Nat × Option Nat × Option Nat)) :=
  match lagMaxNs with
  | none => .ok none
  | some lag => do
    let s ← (({} : Histogram).add lag).snapshot
    return some (s.lagP50Ns, s.lagP95Ns, s.lagP99Ns, s.lagMaxNs)

/-- The last check of `_validate_normal_owned_control_manifest`. -/
def refusesDurability (m : ManifestFields) (o : OwnershipFields)
    (lags : Option (Option Nat × Option Nat × Option Nat × Option Nat)) : Bool :=
  m.closeReason ≠ .recoveryControl || m.durabilityMeasurement ≠ .measured ||
    m.durabilitySampleCount ≠ some 1 ||
    some (m.durabilityLagP50Ns, m.durabilityLagP95Ns, m.durabilityLagP99Ns,
      m.durabilityLagMaxNs) ≠ lags ||
    m.syncCount.isNone || m.syncCount.getD 0 < 1 || m.syncDurationTotalNs.isNone ||
    m.syncDurationMaxNs.isNone || m.syncDurationTotalNs.getD 0 < m.syncDurationMaxNs.getD 0 ||
    !(m.sloBreachCount = some 0 || m.sloBreachCount = some 1) ||
    m.writeFailureCount ≠ some 0 || m.syncFailureCount ≠ some 0 || m.createdAtNs.isNone ||
    m.createdAtNs.getD 0 < o.createdAtNs || m.closedAtNs < m.createdAtNs.getD 0

/-- `_validate_normal_owned_control_manifest`. -/
def validateNormalOwnedControlManifest (source : Bytes) (o : OwnershipFields) :
    Except Err Unit := do
  let manifest ← match codec.parseManifest source >>= RawManifest.create with
    | .ok manifest => .ok manifest
    | .error _ => .error (.recoveryBlocked "owned control normal manifest is invalid")
  blockIf (codec.manifestBytes manifest ≠ source)
    "owned control normal manifest is noncanonical"
  blockIf (!agreesWithRow manifest.toManifestFields o)
    "owned control normal manifest disagrees with row"
  blockIf (!hasNoControls manifest.toManifestFields)
    "owned control normal summaries are invalid"
  let lags ← expectedLags manifest.durabilityLagMaxNs
  blockIf (refusesDurability manifest.toManifestFields o lags)
    "owned control measured durability facts are invalid"

/-- The files below the data root. -/
abbrev DataRoot := String → Option Bytes

/-- `_verify_owned_control_carrier`. -/
def verifyOwnedControlCarrier (root : DataRoot) (o : OwnershipFields) : Except Err Unit := do
  match root o.dataRelativePath with
  | none => throw (.recoveryBlocked "recovery artifact is missing or unsafe")
  | some data =>
    blockIf (data.length ≠ o.frameSizeBytes || (codec.sha256 data).hex ≠ o.frameSha256)
      "recovery artifact disagrees with intent"
  blockIf (root (o.dataRelativePath ++ ".partial")).isSome
    "owned control partial remains after publication"
  match root o.manifestRelativePath with
  | none => throw (.recoveryBlocked "owned control manifest is missing or unsafe")
  | some observed =>
    if observed ≠ o.recoveryManifest then validateNormalOwnedControlManifest codec observed o
  let scan ← scanRecoveryFrames codec.toCodec o.frame (o.dataRelativePath ++ ".partial")
  blockIf (!holdsExactly scan o.frame o.envelope)
    "owned control carrier does not contain its exact row"

/-- `RecoveryControlReceipt`, what is compared with the ownership. -/
structure ControlReceipt where
  transactionId : String
  recoveryControlEventId : String
  identity : AcceptedIdentity
  generationId : GenerationId
  dataRelativePath : String
  encodedSha256 : String

/-- `acknowledge_control_durable` for a chain that ends with the ownership, up to the facts it
publishes; `settled` is what `_verify_settled_chain_artifacts` says of the source. -/
def acknowledgeControlDurable (root : DataRoot) (settled : Except Err Unit)
    (o : OwnershipFields) (receipt : ControlReceipt) : Except Err Unit := do
  blockIf ((receipt.transactionId, receipt.recoveryControlEventId, receipt.identity,
      receipt.generationId, receipt.dataRelativePath, receipt.encodedSha256) ≠
      (o.transactionId, o.recoveryControlEventId, o.identity, o.generationId,
        o.dataRelativePath, o.encodedSha256))
    "durable receipt disagrees with control ownership"
  settled
  verifyOwnedControlCarrier codec root o

/-! ## Writing a carrier -/

/-- What the service knows when it writes a carrier. -/
structure RecoveryWriter where
  exchange : Exchange
  workerInstanceId : String
  configSha256 : String
  configGeneration : Nat
  zstdLevel : Nat
  maxPlainFrameBytes : Nat
  durabilitySloNs : Nat

/-- `PendingRecoveryControl`, what the carrier takes from it. -/
structure PendingControl where
  transactionId : String
  recoveryControlEventId : String
  payload : Json

/-- The readings of the clocks and the result of the sync while one control is processed. The wall
clock is read when the record is accepted, when the ownership is bound, when the part is created
and when it is closed. -/
structure Readings where
  receivedAtNs : Nat
  acceptedMonotonicNs : Nat
  writerSequence : Nat
  acceptanceOrdinal : Nat
  partStartNs : Nat
  partSequence : Nat
  boundAtNs : Nat
  createdAtNs : Nat
  closedAtNs : Nat
  completion : FileDurabilityResult

/-- The fields of the envelope that the ingress makes of the draft of a pending control. -/
def controlEnvelope (w : RecoveryWriter) (pending : PendingControl) (t : Readings) :
    EnvelopeFields where
  exchange := w.exchange
  market := none
  instrumentKey := none
  wireSymbol := none
  logicalStream := "_control"
  nativeChannel := none
  transport := .internal
  eventTimeNs := none
  eventTimeSource := none
  integrityMode := none
  coverage := none
  restMetadata := none
  payload := pending.payload
  receivedAtNs := t.receivedAtNs
  monotonicNs := t.acceptedMonotonicNs
  workerInstanceId := w.workerInstanceId
  connectionId := none
  connectionGeneration := none
  writerSequence := t.writerSequence
  egressId := none
  configSha256 := w.configSha256

/-- The record that the ingress accepts for a pending control. -/
def acceptControl (w : RecoveryWriter) (pending : PendingControl) (t : Readings) :
    Except Err Row :=
  match h : (controlEnvelope w pending t).validate with
  | some e => .error e
  | none =>
    let envelope : RawEnvelope := ⟨controlEnvelope w pending t, h⟩
    .ok
      { envelope
        encodedJsonl := codec.encodeEnvelope envelope
        identity :=
          { key := envelope.key
            writerSequence := t.writerSequence
            acceptanceOrdinal := t.acceptanceOrdinal
            configSha256 := w.configSha256
            configGeneration := w.configGeneration
            exchange := w.exchange
            workerInstanceId := w.workerInstanceId } }

/-- Perform an operation on a part that may raise. -/
def attempt (operation : Lib.Proc Err ActivePart) (a : ActivePart) : Except Err ActivePart :=
  match operation a with
  | (none, a) => .ok a
  | (some e, _) => .error e

/-- A carrier that was published: the ownership bound before, the bytes of the data file, the
normal manifest and the receipt that is acknowledged. -/
structure PublishedCarrier where
  ownership : ControlOwnership codec
  data : Bytes
  manifest : RawManifest
  receipt : ControlReceipt

/-- The final barrier of a carrier, from the retirement of its part to its manifest. -/
def closeCarrier (a : ActivePart) (t : Readings) : Except Err (Bytes × RawManifest) := do
  let a ← attempt (ActivePart.retire .recoveryControl t.closedAtNs) a
  let a ← attempt (ActivePart.sealForSync true) a
  let a ← attempt (ActivePart.applyCompletion t.completion) a
  let summary ← a.freezeSummary
  let data := a.written.flatMap fun frame => codec.compress (frame.flatMap (·.encodedJsonl))
  let manifest ← a.buildManifest summary data.length (codec.sha256 data).hex
  return (data, manifest)

/-- `_process_pending_recovery_control`, up to the publication of the carrier. -/
def processPendingRecoveryControl (w : RecoveryWriter) (pending : PendingControl)
    (t : Readings) : Except Err (PublishedCarrier codec) := do
  let row ← acceptControl codec w pending t
  let dataRelativePath ← rawDataPath row.envelope.toEnvelopeFields t.partStartNs t.partSequence
  let manifestRelativePath ← manifestPathForData dataRelativePath
  let ownership ← ownershipFromAdmission codec
    { transactionId := pending.transactionId
      recoveryControlEventId := pending.recoveryControlEventId
      row
      generationId := t.partSequence
      dataRelativePath
      manifestRelativePath
      frame := codec.compress row.encodedJsonl
      zstdLevel := w.zstdLevel
      maxPlainFrameBytes := w.maxPlainFrameBytes } t.boundAtNs
  let a ← ActivePart.allocate row t.partStartNs t.partSequence t.createdAtNs w.zstdLevel
    w.maxPlainFrameBytes w.durabilitySloNs
  let a ← attempt (ActivePart.appendAccepted row) a
  let (data, manifest) ← closeCarrier codec a t
  return {
    ownership
    data
    manifest
    receipt :=
      { transactionId := pending.transactionId
        recoveryControlEventId := pending.recoveryControlEventId
        identity := row.identity
        generationId := t.partSequence
        dataRelativePath
        encodedSha256 := (codec.sha256 row.encodedJsonl).hex } }

end CryptoCollector.Storage.Recovery
