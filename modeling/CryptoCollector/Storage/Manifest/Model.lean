import CryptoCollector.Lib.Except
import CryptoCollector.Storage.Layout
import Mathlib.Data.String.Basic

/-!
# Raw manifests

`storage/manifest.py: RawManifestV1` with its validation, for the manifests of a normal close and
of a recovery.
-/

namespace CryptoCollector.Storage

open Lib

instance isTrans_string_le : @IsTrans String (· ≤ ·) := ⟨fun _ _ _ => le_trans⟩

instance antisymm_string_le : @Std.Antisymm String (· ≤ ·) := ⟨fun _ _ => le_antisymm⟩

/-- A check that raises `ValueError(message)` when its condition holds. -/
def refuseIf (refused : Bool) (message : String) : Option Err :=
  if refused then some (.valueError message) else none

@[simp] theorem refuseIf_eq_none {refused : Bool} {message : String} :
    refuseIf refused message = none ↔ refused = false := by
  cases refused <;> simp [refuseIf]

/-- `manifest.py: RecoverySourceState`. -/
inductive RecoverySourceState where
  | partialComplete
  | partialTruncated
  | orphanClosedData
  | ownedControlCarrier
  | publicationCoexistence
  | cleanupIntent
  | cleanupTombstone
  deriving DecidableEq

/-- The literal of `durability_measurement`. -/
inductive DurabilityMeasurement where
  | measured
  | unavailableAfterCrash
  deriving DecidableEq

/-- `RECOVERY_UNAVAILABLE_FIELDS`. -/
def recoveryUnavailableFields : List String :=
  ["checksum_error_count", "control_event_ids", "created_at_ns", "durability_lag_max_ns",
    "durability_lag_p50_ns", "durability_lag_p95_ns", "durability_lag_p99_ns",
    "durability_sample_count", "gap_count", "max_plain_frame_bytes", "parse_error_count",
    "queue_overflow_count", "reconnect_count", "slo_breach_count", "sync_count",
    "sync_duration_max_ns", "sync_duration_total_ns", "sync_failure_count",
    "write_failure_count", "zstd_level"]

/-- `_RECOVERY_EVENT_PREFIX`. -/
def recoveryEventPrefix : String := "raw-recovery-lineage:v1:"

/-- The pattern of `CanonicalUuid`. -/
def isCanonicalUuid (s : String) : Bool :=
  match (s.toList.splitOn '-') with
  | [a, b, c, d, e] =>
    [a, b, c, d, e].all (·.all isLowerHex) &&
      ([a, b, c, d, e].map List.length == [8, 4, 4, 4, 12]) &&
      (c.head?.any fun x => '1' ≤ x && x ≤ '5') && (d.head?.any "89ab".toList.contains)
  | _ => false

/-- The fields of `RawManifestV1`; `schema_version` is 1 and the two codec flags are true. -/
structure ManifestFields where
  exchange : Exchange
  market : Option Market
  instrumentKey : Option String
  logicalStream : String
  wireSymbols : List String
  dataRelativePath : String
  manifestRelativePath : String
  fileSizeBytes : Nat
  fileSha256 : String
  zstdLevel : Option Nat
  maxPlainFrameBytes : Option Nat
  recordCount : Nat
  firstReceivedAtNs : Nat
  lastReceivedAtNs : Nat
  firstEventTimeNs : Option Nat
  lastEventTimeNs : Option Nat
  workerInstanceId : String
  connectionGenerations : List Nat
  writerSequenceFirst : Nat
  writerSequenceLast : Nat
  configSha256 : String
  egressIds : List String
  requestedIntervalsNs : List Nat
  effectiveIntervalsNs : List Nat
  gapCount : Option Nat
  reconnectCount : Option Nat
  parseErrorCount : Option Nat
  checksumErrorCount : Option Nat
  queueOverflowCount : Option Nat
  controlEventIds : Option (List String)
  durabilityMeasurement : DurabilityMeasurement
  durabilitySampleCount : Option Nat
  durabilityLagP50Ns : Option Nat
  durabilityLagP95Ns : Option Nat
  durabilityLagP99Ns : Option Nat
  durabilityLagMaxNs : Option Nat
  syncCount : Option Nat
  syncDurationTotalNs : Option Nat
  syncDurationMaxNs : Option Nat
  sloBreachCount : Option Nat
  writeFailureCount : Option Nat
  syncFailureCount : Option Nat
  closeReason : CloseReason
  createdAtNs : Option Nat
  closedAtNs : Nat
  recoveryTransactionId : Option String
  recoverySourceState : Option RecoverySourceState
  recoverySourceRelativePath : Option String
  recoverySourceBytes : Option Nat
  recoverySourceSha256 : Option String
  recoveryControlEventId : Option String
  recoveredFrameCount : Option Nat
  recoveredRecordCount : Option Nat
  recoveredBytes : Option Nat
  recoveredSha256 : Option String
  quarantinedSuffixRelativePath : Option String
  quarantinedSuffixBytes : Option Nat
  quarantinedSuffixSha256 : Option String
  unavailableFields : List String
  deriving DecidableEq

namespace ManifestFields

/-- The constraints on single fields. -/
def validateFields (m : ManifestFields) : Option Err :=
  refuseIf ((m.instrumentKey.toList ++ [m.logicalStream] ++ m.wireSymbols ++
      [m.workerInstanceId] ++ m.egressIds ++ m.controlEventIds.getD [] ++
      m.recoveryControlEventId.toList ++ m.unavailableFields).contains "")
    "String should have at least 1 character" <|>
  refuseIf (!([m.dataRelativePath, m.manifestRelativePath] ++
      m.recoverySourceRelativePath.toList ++
      m.quarantinedSuffixRelativePath.toList).all isNormalizedRelativePath)
    "path must be normalized POSIX relative data path" <|>
  refuseIf (!([m.fileSha256, m.configSha256] ++ m.recoverySourceSha256.toList ++
      m.recoveredSha256.toList ++ m.quarantinedSuffixSha256.toList).all isSha256)
    "String should match pattern" <|>
  refuseIf (!m.recoveryTransactionId.toList.all isCanonicalUuid)
    "String should match pattern" <|>
  refuseIf (([m.fileSizeBytes, m.recordCount] ++ m.maxPlainFrameBytes.toList ++
      m.requestedIntervalsNs ++ m.effectiveIntervalsNs ++ m.recoverySourceBytes.toList ++
      m.recoveredFrameCount.toList ++ m.recoveredRecordCount.toList ++ m.recoveredBytes.toList ++
      m.quarantinedSuffixBytes.toList).contains 0)
    "Input should be greater than 0" <|>
  refuseIf (m.zstdLevel.any fun level => level < 1 || 22 < level)
    "Input should be less than or equal to 22"

/-- `_require_sorted_unique`. -/
def isSortedUnique {α : Type} [LinearOrder α] (values : List α) : Bool :=
  decide (values.Pairwise (· ≤ ·)) && decide values.Nodup

/-- `_validate_sorted_facts`. -/
def validateSortedFacts (m : ManifestFields) : Option Err :=
  refuseIf (!isSortedUnique m.wireSymbols) "wire_symbols must be sorted and unique" <|>
  refuseIf (!isSortedUnique m.connectionGenerations)
    "connection_generations must be sorted and unique" <|>
  refuseIf (!isSortedUnique m.egressIds) "egress_ids must be sorted and unique" <|>
  refuseIf (!isSortedUnique m.requestedIntervalsNs)
    "requested_intervals_ns must be sorted and unique" <|>
  refuseIf (!isSortedUnique m.effectiveIntervalsNs)
    "effective_intervals_ns must be sorted and unique" <|>
  refuseIf (!isSortedUnique m.unavailableFields) "unavailable_fields must be sorted and unique" <|>
  refuseIf (!m.controlEventIds.all isSortedUnique) "control_event_ids must be sorted and unique"

/-- `_validate_row_facts`. -/
def validateRowFacts (m : ManifestFields) : Option Err :=
  refuseIf (m.firstEventTimeNs.isNone != m.lastEventTimeNs.isNone)
    "event-time bounds must be paired" <|>
  refuseIf (m.writerSequenceLast < m.writerSequenceFirst)
    "writer sequence bounds are reversed" <|>
  refuseIf (m.instrumentKey.isNone && !m.wireSymbols.isEmpty)
    "unscoped manifests cannot contain wire symbols" <|>
  refuseIf (m.instrumentKey.isSome && m.wireSymbols.isEmpty)
    "instrument manifests require wire symbols" <|>
  refuseIf (m.requestedIntervalsNs.isEmpty != m.effectiveIntervalsNs.isEmpty)
    "requested and effective interval sets must be paired"

/-- The scope segments that `_validate_layout` expects. -/
def expectedScope (m : ManifestFields) : Except Err (List String) :=
  if m.logicalStream = "_control" then
    if m.market.isSome || m.instrumentKey.isSome then
      .error (.valueError "_control manifest scope is invalid")
    else .ok ["raw", m.exchange.value, "_control"]
  else
    match m.market with
    | none => .error (.valueError "non-control manifests require a market")
    | some market =>
      if marketScopedStreams.contains m.logicalStream then
        if m.instrumentKey.isSome then
          .error (.valueError "market-scoped manifests cannot name an instrument")
        else .ok ["raw", m.exchange.value, market.value, "_market", m.logicalStream]
      else
        match m.instrumentKey with
        | none => .error (.valueError "instrument-scoped manifests require an instrument")
        | some key => do
          return ["raw", m.exchange.value, market.value, ← encodeInstrumentKey key,
            m.logicalStream]

/-- `_validate_layout`. -/
def validateLayout (m : ManifestFields) : Except Err Unit := do
  let scope ← m.expectedScope
  let firstHour ← utcStorageHour m.firstReceivedAtNs
  let lastHour ← utcStorageHour m.lastReceivedAtNs
  if firstHour ≠ lastHour then throw (.valueError "manifest rows cross a UTC storage hour")
  let parts := segments m.dataRelativePath
  if parts.dropLast ≠ scope ++ firstHour || (parsePartName (parts.getLastD "")).isNone then
    throw (.valueError "data path does not match manifest identity/layout/hour")
  let expected ← manifestPathForData m.dataRelativePath
  if m.manifestRelativePath ≠ expected then
    throw (.valueError "manifest path is not the exact data sibling")

/-- The control summaries are all there. -/
def hasControlSummaries (m : ManifestFields) : Bool :=
  m.gapCount.isSome && m.reconnectCount.isSome && m.parseErrorCount.isSome &&
    m.checksumErrorCount.isSome && m.queueOverflowCount.isSome && m.controlEventIds.isSome

/-- The durability summaries are all there. -/
def hasDurability (m : ManifestFields) : Bool :=
  m.durabilitySampleCount.isSome && m.durabilityLagP50Ns.isSome && m.durabilityLagP95Ns.isSome &&
    m.durabilityLagP99Ns.isSome && m.durabilityLagMaxNs.isSome && m.syncCount.isSome &&
    m.syncDurationTotalNs.isSome && m.syncDurationMaxNs.isSome && m.sloBreachCount.isSome &&
    m.writeFailureCount.isSome && m.syncFailureCount.isSome

/-- None of the control and durability summaries is there. -/
def hasNoSummaries (m : ManifestFields) : Bool :=
  m.gapCount.isNone && m.reconnectCount.isNone && m.parseErrorCount.isNone &&
    m.checksumErrorCount.isNone && m.queueOverflowCount.isNone && m.controlEventIds.isNone &&
    m.durabilitySampleCount.isNone && m.durabilityLagP50Ns.isNone &&
    m.durabilityLagP95Ns.isNone && m.durabilityLagP99Ns.isNone &&
    m.durabilityLagMaxNs.isNone && m.syncCount.isNone && m.syncDurationTotalNs.isNone &&
    m.syncDurationMaxNs.isNone && m.sloBreachCount.isNone && m.writeFailureCount.isNone &&
    m.syncFailureCount.isNone

/-- No recovery fact is there. -/
def hasNoLineage (m : ManifestFields) : Bool :=
  m.recoveryTransactionId.isNone && m.recoverySourceState.isNone &&
    m.recoverySourceRelativePath.isNone && m.recoverySourceBytes.isNone &&
    m.recoverySourceSha256.isNone && m.recoveryControlEventId.isNone &&
    m.recoveredFrameCount.isNone && m.recoveredRecordCount.isNone &&
    m.recoveredBytes.isNone && m.recoveredSha256.isNone &&
    m.quarantinedSuffixRelativePath.isNone && m.quarantinedSuffixBytes.isNone &&
    m.quarantinedSuffixSha256.isNone

/-- The required recovery facts are all there. -/
def hasLineage (m : ManifestFields) : Bool :=
  m.recoveryTransactionId.isSome && m.recoverySourceState.isSome &&
    m.recoverySourceRelativePath.isSome && m.recoverySourceBytes.isSome &&
    m.recoverySourceSha256.isSome && m.recoveryControlEventId.isSome &&
    m.recoveredFrameCount.isSome && m.recoveredRecordCount.isSome &&
    m.recoveredBytes.isSome && m.recoveredSha256.isSome

/-- `_validate_normal_manifest`. -/
def validateNormalManifest (m : ManifestFields) : Option Err :=
  refuseIf m.createdAtNs.isNone "normal manifests require created_at_ns" <|>
  refuseIf (m.zstdLevel.isNone || m.maxPlainFrameBytes.isNone)
    "normal manifests require codec settings" <|>
  refuseIf (!m.hasControlSummaries) "normal manifests require control summaries" <|>
  refuseIf (m.durabilityMeasurement ≠ .measured || !m.hasDurability)
    "normal manifests require measured durability summaries" <|>
  refuseIf (m.durabilitySampleCount ≠ some m.recordCount)
    "durability sample count must match record_count" <|>
  refuseIf (!(m.durabilityLagP50Ns.getD 0 ≤ m.durabilityLagP95Ns.getD 0 &&
      m.durabilityLagP95Ns.getD 0 ≤ m.durabilityLagP99Ns.getD 0))
    "durability quantiles must be non-decreasing" <|>
  refuseIf (!m.hasNoLineage) "normal manifests cannot contain recovery lineage" <|>
  refuseIf (!m.unavailableFields.isEmpty) "normal manifests cannot name unavailable fields"

/-- The source is the published file. -/
def sourceMatchesPublished (m : ManifestFields) : Bool :=
  m.recoverySourceBytes = some m.fileSizeBytes && m.recoverySourceSha256 = some m.fileSha256

/-- The last checks of `_validate_recovery_manifest`, by the state of the source. -/
def validateSourceState (m : ManifestFields) : Option Err :=
  let suffixPresent := m.quarantinedSuffixRelativePath.isSome
  let source := m.recoverySourceRelativePath.getD ""
  let sourceIsPartial := endsWith source ".jsonl.zst.partial"
  match m.recoverySourceState with
  | some .partialComplete =>
    refuseIf (suffixPresent || !sourceIsPartial || !m.sourceMatchesPublished)
      "complete partial recovery facts are inconsistent"
  | some .partialTruncated =>
    refuseIf (!suffixPresent || !sourceIsPartial)
      "truncated partial recovery requires a bad suffix"
  | some .orphanClosedData =>
    refuseIf (suffixPresent || source ≠ m.dataRelativePath || !m.sourceMatchesPublished)
      "retained closed orphan must preserve its source"
  | some .ownedControlCarrier =>
    refuseIf (suffixPresent || m.logicalStream ≠ "_control" || m.recordCount ≠ 1 ||
        m.recoveredFrameCount ≠ some 1 || source ≠ m.dataRelativePath ++ ".partial" ||
        !m.sourceMatchesPublished)
      "owned control carrier facts are inconsistent"
  | some .publicationCoexistence =>
    refuseIf (suffixPresent || !sourceIsPartial || !m.sourceMatchesPublished)
      "publication coexistence facts are inconsistent"
  | _ => none

/-- `_validate_recovery_manifest`. -/
def validateRecoveryManifest (m : ManifestFields) : Option Err :=
  let suffix := [m.quarantinedSuffixRelativePath.isSome, m.quarantinedSuffixBytes.isSome,
    m.quarantinedSuffixSha256.isSome]
  refuseIf (m.zstdLevel.isSome || m.maxPlainFrameBytes.isSome)
    "recovery manifests cannot invent codec settings" <|>
  refuseIf (m.durabilityMeasurement ≠ .unavailableAfterCrash || !m.hasNoSummaries)
    "recovery summaries must be unavailable after crash" <|>
  refuseIf (!m.hasLineage) "recovery manifests require complete lineage facts" <|>
  refuseIf (m.recoverySourceState = some .cleanupIntent ||
      m.recoverySourceState = some .cleanupTombstone)
    "cleanup outcomes do not publish recovery manifests" <|>
  refuseIf m.createdAtNs.isSome "recovery manifests cannot invent created_at_ns" <|>
  refuseIf (m.unavailableFields ≠ recoveryUnavailableFields)
    "recovery unavailable_fields set is not canonical" <|>
  refuseIf (m.recoveryControlEventId ≠
      m.recoveryTransactionId.map (recoveryEventPrefix ++ ·))
    "recovery control event ID does not match its transaction" <|>
  refuseIf (m.recoveredRecordCount ≠ some m.recordCount)
    "recovered record count must match record_count" <|>
  refuseIf (m.recoveredBytes ≠ some m.fileSizeBytes)
    "recovered bytes must match the published file" <|>
  refuseIf (m.recoveredSha256 ≠ some m.fileSha256)
    "recovered hash must match the published file" <|>
  refuseIf (suffix.contains true && suffix.contains false)
    "quarantined suffix facts must be all present or all absent" <|>
  refuseIf (m.recoveredRecordCount.getD 0 < m.recoveredFrameCount.getD 0)
    "recovered frames cannot exceed recovered records" <|>
  refuseIf (suffix.contains true &&
      m.recoveredBytes.getD 0 + m.quarantinedSuffixBytes.getD 0 ≠ m.recoverySourceBytes.getD 0)
    "recovery prefix and suffix bytes must cover the source" <|>
  refuseIf (!suffix.contains true && m.recoveredBytes ≠ m.recoverySourceBytes)
    "complete recovery bytes must match the source" <|>
  m.validateSourceState

/-- Raise what a check found. -/
def raise (found : Option Err) : Except Err Unit :=
  match found with
  | some e => .error e
  | none => .ok ()

@[simp] theorem raise_eq_ok {found : Option Err} {u : Unit} :
    raise found = .ok u ↔ found = none := by
  cases found <;> simp [raise]

/-- `validate_manifest`, after the constraints on single fields. -/
def validate (m : ManifestFields) : Except Err Unit := do
  raise m.validateFields
  raise m.validateSortedFacts
  raise m.validateRowFacts
  m.validateLayout
  if m.closeReason = .recovery then raise m.validateRecoveryManifest
  else raise m.validateNormalManifest

end ManifestFields

/-- `RawManifestV1`: fields that passed the validation. -/
structure RawManifest extends ManifestFields where
  valid : toManifestFields.validate = .ok ()

/-- The constructor of `RawManifestV1`. -/
def RawManifest.create (m : ManifestFields) : Except Err RawManifest :=
  match h : m.validate with
  | .ok () => .ok ⟨m, h⟩
  | .error e => .error e

namespace RawManifest

theorem create_of_valid {m : ManifestFields} (h : m.validate = .ok ()) :
    create m = .ok ⟨m, h⟩ := by
  unfold create
  split
  · rfl
  · simp_all

theorem create_eq_ok {m : ManifestFields} {r : RawManifest} :
    create m = .ok r ↔ r.toManifestFields = m := by
  constructor
  · intro h
    unfold create at h
    split at h
    · cases h; rfl
    · cases h
  · rintro rfl
    exact create_of_valid r.valid

end RawManifest

end CryptoCollector.Storage
