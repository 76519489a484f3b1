import CryptoCollector.Storage.Manifest.Model

/-!
# Reading a published part

`storage/manifest.py: load_raw_manifest` and `RawManifestReader`: a manifest is loaded from its
bytes, the data file is compared with it, and every row and the completed set of rows are checked
against it. Directories, leases and cleanup proofs are not here.
-/

namespace CryptoCollector.Storage

open ManifestFields (raise)

/-- The functions of the codec packages that writing and reading a part use. -/
structure PartCodec where
  /-- `ZstdCompressor.compress`. -/
  compress : Bytes → Bytes
  /-- `ZstdDecompressor.stream_reader` with `read_across_frames`, read to its end. -/
  decompress : Bytes → Except Err Bytes
  /-- The JSON decoder and the validation of an envelope. -/
  decodeObject : Bytes → Except Err RawEnvelope
  /-- `RawManifestV1.canonical_bytes`. -/
  manifestBytes : ManifestFields → Bytes
  /-- The JSON decoder of `model_validate_json`. -/
  parseManifest : Bytes → Except Err ManifestFields
  sha256 : Bytes → Sha256

variable (codec : PartCodec)

/-- `load_raw_manifest`, of the bytes of the manifest file. -/
def loadRawManifest (source : Bytes) : Except Err RawManifest := do
  let fields ← codec.parseManifest source
  let manifest ← RawManifest.create fields
  raise (refuseIf (source ≠ codec.manifestBytes manifest.toManifestFields)
    "raw manifest bytes are not canonical")
  return manifest

/-- The lines that `readline` returns in turn, each with its newline. -/
def readLines : Bytes → List Bytes
  | [] => []
  | b :: bs =>
    if b = 10 then [b] :: readLines bs
    else
      match readLines bs with
      | [] => [[b]]
      | line :: lines => (b :: line) :: lines

/-- `_validate_row_identity`. -/
def validateRowIdentity (m : ManifestFields) (rows : List RawEnvelope) (e : RawEnvelope) :
    Option Err :=
  refuseIf ((m.exchange, m.market, m.instrumentKey, m.logicalStream, m.workerInstanceId,
      m.configSha256) ≠ (e.exchange, e.market, e.instrumentKey, e.logicalStream,
      e.workerInstanceId, e.configSha256))
    "raw row identity does not match its manifest" <|>
  refuseIf (rows.getLast?.any fun last => e.writerSequence ≤ last.writerSequence)
    "raw writer sequences are not increasing"

/-- One call of `__next__` that returns a row. -/
def readRow (m : ManifestFields) (rows : List RawEnvelope) (line : Bytes) :
    Except Err (List RawEnvelope) := do
  let e ← decodeEnvelopeJsonl codec.decodeObject line
  raise (validateRowIdentity m rows e)
  raise (refuseIf (m.recordCount < (rows ++ [e]).length)
    "raw source has more rows than its manifest")
  return rows ++ [e]

/-- The sorted values of an optional field. -/
def sortedValues {α : Type} [LinearOrder α] (field : RawEnvelope → Option α)
    (rows : List RawEnvelope) : List α :=
  (rows.filterMap field).toFinset.sort (· ≤ ·)

/-- The facts that `_validate_complete_rows` compares. -/
structure RowSetFacts where
  firstReceivedAtNs : Option Nat
  lastReceivedAtNs : Option Nat
  firstEventTimeNs : Option Nat
  lastEventTimeNs : Option Nat
  writerSequenceFirst : Option Nat
  writerSequenceLast : Option Nat
  wireSymbols : List String
  connectionGenerations : List Nat
  egressIds : List String
  requestedIntervalsNs : List Nat
  effectiveIntervalsNs : List Nat
  deriving DecidableEq

/-- The facts observed in the rows. -/
def observedFacts (rows : List RawEnvelope) : RowSetFacts where
  firstReceivedAtNs := rows.head?.map (·.receivedAtNs)
  lastReceivedAtNs := rows.getLast?.map (·.receivedAtNs)
  firstEventTimeNs := (rows.filterMap (·.eventTimeNs)).head?
  lastEventTimeNs := (rows.filterMap (·.eventTimeNs)).getLast?
  writerSequenceFirst := rows.head?.map (·.writerSequence)
  writerSequenceLast := rows.getLast?.map (·.writerSequence)
  wireSymbols := sortedValues (·.wireSymbol) rows
  connectionGenerations := sortedValues (·.connectionGeneration) rows
  egressIds := sortedValues (·.egressId) rows
  requestedIntervalsNs := sortedValues (·.requestedIntervalNs) rows
  effectiveIntervalsNs := sortedValues (·.effectiveIntervalNs) rows

/-- The facts that a manifest states. -/
def ManifestFields.expectedFacts (m : ManifestFields) : RowSetFacts where
  firstReceivedAtNs := some m.firstReceivedAtNs
  lastReceivedAtNs := some m.lastReceivedAtNs
  firstEventTimeNs := m.firstEventTimeNs
  lastEventTimeNs := m.lastEventTimeNs
  writerSequenceFirst := some m.writerSequenceFirst
  writerSequenceLast := some m.writerSequenceLast
  wireSymbols := m.wireSymbols
  connectionGenerations := m.connectionGenerations
  egressIds := m.egressIds
  requestedIntervalsNs := m.requestedIntervalsNs
  effectiveIntervalsNs := m.effectiveIntervalsNs

/-- `_validate_complete_rows`. -/
def validateCompleteRows (m : ManifestFields) (rows : List RawEnvelope) : Option Err :=
  refuseIf (rows.length ≠ m.recordCount) "raw source row count does not match manifest" <|>
  refuseIf rows.isEmpty "raw source must contain at least one row" <|>
  refuseIf (observedFacts rows ≠ m.expectedFacts) "raw row facts do not match their manifest"

/-- `RawManifestReader`, iterated to its end: the rows it returns. -/
def readManifest (manifestSource file : Bytes) : Except Err (List RawEnvelope) := do
  let manifest ← loadRawManifest codec manifestSource
  raise (refuseIf (file.length ≠ manifest.fileSizeBytes)
    "local source size does not match its manifest")
  raise (refuseIf ((codec.sha256 file).hex ≠ manifest.fileSha256)
    "local source SHA-256 does not match its manifest")
  let plain ← codec.decompress file
  let rows ← (readLines plain).foldlM (readRow codec manifest.toManifestFields) []
  raise (validateCompleteRows manifest.toManifestFields rows)
  return rows

end CryptoCollector.Storage
