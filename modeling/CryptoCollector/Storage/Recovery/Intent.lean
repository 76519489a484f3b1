import CryptoCollector.Storage.Recovery.Scan

/-!
# Recovery intents

`storage/recovery.py: RecoveryIntentV1` with its validation, the paths that an intent plans and
the manifest of a recovered part.
-/

namespace CryptoCollector.Storage.Recovery

open ManifestFields (raise)

/-- `RecoverySourceDisposition`. -/
inductive RecoverySourceDisposition where
  | retained
  | removed
  | movedToQuarantine
  | legitimatelyMissing
  deriving DecidableEq

/-- `manifest.py: CleanupProofKind`. -/
inductive CleanupProofKind where
  | durableIntent
  | finalTombstone
  deriving DecidableEq

/-- The fields of `RecoveryIntentV1` without its hash; `predecessor_sha256` is null. -/
structure IntentFields where
  transactionId : String
  createdAtNs : Nat
  sourceState : RecoverySourceState
  sourceRelativePath : String
  sourceSizeBytes : Nat
  sourceSha256 : String
  plannedSourceDisposition : RecoverySourceDisposition
  plannedDataGenerationId : Option String
  plannedDataRelativePath : Option String
  plannedDataSizeBytes : Option Nat
  plannedDataSha256 : Option String
  plannedManifestRelativePath : Option String
  plannedManifestSizeBytes : Option Nat
  plannedManifestSha256 : Option String
  plannedQuarantineRelativePath : Option String
  plannedQuarantineSizeBytes : Option Nat
  plannedQuarantineSha256 : Option String
  cleanupProofKind : Option CleanupProofKind
  cleanupProofRelativePath : Option String
  cleanupProofSizeBytes : Option Nat
  cleanupProofSha256 : Option String
  recoveryControlEventId : String
  deriving DecidableEq

/-- The encoders of the facts: `uuid.uuid5` in the generation namespace, the canonical bytes of a
manifest and the hashed bytes of an intent. -/
structure Encoders extends Codec where
  uuid5 : String → String
  manifestBytes : RawManifest → Bytes
  intentBytes : IntentFields → Bytes

variable (enc : Encoders)

/-! ## Paths -/

/-- `recovery_generation_id`. -/
def recoveryGenerationId (dataRelativePath : String) : Except Err String := do
  let normalized ← normalizedRelativePath dataRelativePath "data_relative_path"
  raise (refuseIf (parsePartName ((segments normalized).getLastD "")).isNone
    "data_relative_path must name a canonical final raw part")
  let _ ← parseSourcePath normalized
  return enc.uuid5 normalized

/-- `_quarantine_relative_path`. -/
def quarantineRelativePath (sourceRelativePath suffix : String) : Except Err String := do
  let source ← normalizedRelativePath sourceRelativePath "source_relative_path"
  raise (refuseIf (!endsWith source ".jsonl.zst" && !endsWith source ".jsonl.zst.partial")
    "source_relative_path must name raw data")
  normalizedRelativePath ("quarantine/" ++ source ++ "." ++ suffix) "quarantine_relative_path"

/-- `bad_tail_quarantine_relative_path`. -/
def badTailQuarantineRelativePath (source : String) : Except Err String :=
  quarantineRelativePath source "bad-tail"

/-- `whole_source_quarantine_relative_path`. -/
def wholeSourceQuarantineRelativePath (source : String) : Except Err String :=
  quarantineRelativePath source "whole"

/-- `_next_recovery_relative_path`. -/
def nextRecoveryRelativePath (sourceRelativePath : String) (nextPartSequence : Nat) :
    Except Err String :=
  let parts := segments sourceRelativePath
  match parsePartName (removeSuffix (parts.getLastD "") ".partial") with
  | none => .error (.valueError "partial source does not have a canonical part name")
  | some (start, _) =>
    let candidate := joinPath (parts.dropLast ++ [partName start nextPartSequence])
    if candidate = removeSuffix sourceRelativePath ".partial" then
      .error (.valueError "recovery sequence must allocate a distinct part path")
    else .ok candidate

/-! ## The validation of an intent -/

/-- `_group_presence`. -/
def groupPresence (present : List Bool) (fieldName : String) : Except Err Bool :=
  if present.contains true && present.contains false then
    .error (.valueError (fieldName ++ " fields must be all present or all null"))
  else .ok (present.headD false)

namespace IntentFields

/-- The constraints on single fields. -/
def validateFields (f : IntentFields) : Option Err :=
  refuseIf (!isCanonicalUuid f.transactionId) "String should match pattern" <|>
  refuseIf (!([f.sourceRelativePath] ++ f.plannedDataRelativePath.toList ++
      f.plannedManifestRelativePath.toList ++ f.plannedQuarantineRelativePath.toList ++
      f.cleanupProofRelativePath.toList).all isNormalizedRelativePath)
    "path must be normalized POSIX relative data path" <|>
  refuseIf (!([f.sourceSha256] ++ f.plannedDataSha256.toList ++ f.plannedManifestSha256.toList ++
      f.plannedQuarantineSha256.toList ++ f.cleanupProofSha256.toList).all isSha256)
    "String should match pattern" <|>
  refuseIf ((f.plannedDataSizeBytes.toList ++ f.plannedManifestSizeBytes.toList ++
      f.cleanupProofSizeBytes.toList).contains 0) "Input should be greater than 0" <|>
  refuseIf ((f.plannedDataGenerationId.toList ++ [f.recoveryControlEventId]).contains "")
    "String should have at least 1 character"

/-- The checks of a removed source. -/
def validateRemoved (f : IntentFields) (dataPresent quarantinePresent cleanupPresent : Bool) :
    Except Err Unit := do
  let removed := removeSuffix f.sourceRelativePath ".partial"
  raise (refuseIf (!([.partialComplete, .partialTruncated, .publicationCoexistence].contains
    f.sourceState)) "removed disposition requires a partial source")
  raise (refuseIf (!endsWith f.sourceRelativePath ".jsonl.zst.partial")
    "removed source must be a partial")
  raise (refuseIf (!dataPresent || cleanupPresent)
    "removed source requires replacement artifacts only")
  raise (refuseIf (f.plannedDataRelativePath = some removed &&
      f.sourceState ≠ .publicationCoexistence)
    "partial recovery must allocate a distinct generation")
  raise (refuseIf (f.sourceState = .publicationCoexistence &&
      f.plannedDataRelativePath ≠ some removed)
    "publication coexistence must preserve the final destination")
  raise (refuseIf ((segments (f.plannedDataRelativePath.getD "")).dropLast ≠
      (segments f.sourceRelativePath).dropLast)
    "partial recovery must remain in its source scope")
  if f.sourceState = .partialTruncated then do
    raise (refuseIf (!quarantinePresent) "truncated partial requires a bad-tail quarantine")
    let expected ← badTailQuarantineRelativePath f.sourceRelativePath
    raise (refuseIf (f.plannedQuarantineRelativePath ≠ some expected ||
        f.plannedQuarantineSizeBytes = some 0)
      "truncated partial quarantine is invalid")
    raise (refuseIf (f.plannedDataSizeBytes.getD 0 + f.plannedQuarantineSizeBytes.getD 0 ≠
        f.sourceSizeBytes)
      "recovered prefix and bad tail must cover the source size")
  else do
    raise (refuseIf quarantinePresent "complete partial cannot have a bad tail")
    raise (refuseIf (f.plannedDataSizeBytes ≠ some f.sourceSizeBytes ||
        f.plannedDataSha256 ≠ some f.sourceSha256)
      "complete partial replacement must preserve the source")

/-- The checks of a source moved to quarantine. -/
def validateQuarantined (f : IntentFields)
    (dataPresent manifestPresent quarantinePresent cleanupPresent : Bool) : Except Err Unit := do
  raise (refuseIf (dataPresent || manifestPresent || cleanupPresent || !quarantinePresent)
    "whole quarantine cannot publish recovered artifacts")
  raise (refuseIf (!([.partialTruncated, .orphanClosedData].contains f.sourceState))
    "source state cannot be wholly quarantined")
  let expected ← wholeSourceQuarantineRelativePath f.sourceRelativePath
  raise (refuseIf (f.plannedQuarantineRelativePath ≠ some expected ||
      f.plannedQuarantineSizeBytes ≠ some f.sourceSizeBytes ||
      f.plannedQuarantineSha256 ≠ some f.sourceSha256)
    "whole quarantine must preserve the complete source")

/-- The checks of a retained source. -/
def validateRetained (f : IntentFields) (dataPresent quarantinePresent cleanupPresent : Bool) :
    Except Err Unit := do
  raise (refuseIf (f.sourceState ≠ .orphanClosedData || !dataPresent || quarantinePresent ||
      cleanupPresent)
    "retained disposition requires a valid closed orphan")
  raise (refuseIf (f.plannedDataRelativePath ≠ some f.sourceRelativePath ||
      f.plannedDataSizeBytes ≠ some f.sourceSizeBytes || f.plannedDataSha256 ≠ some f.sourceSha256)
    "retained orphan must preserve the source identity")

/-- The proof that a cleanup state asks for. -/
def expectedProof : RecoverySourceState → Option CleanupProofKind
  | .cleanupIntent => some .durableIntent
  | .cleanupTombstone => some .finalTombstone
  | _ => none

/-- The checks of a source that is legitimately missing. -/
def validateMissing (f : IntentFields)
    (dataPresent manifestPresent quarantinePresent cleanupPresent : Bool) : Except Err Unit := do
  raise (refuseIf ((expectedProof f.sourceState).isNone || f.sourceSizeBytes = 0 || dataPresent ||
      quarantinePresent || !manifestPresent || !cleanupPresent ||
      f.cleanupProofKind ≠ expectedProof f.sourceState)
    "legitimately missing source requires exact cleanup proof")
  raise (refuseIf (!endsWith f.sourceRelativePath ".jsonl.zst")
    "cleanup source must name final raw data")
  let expected ← manifestPathForData f.sourceRelativePath
  raise (refuseIf (f.plannedManifestRelativePath ≠ some expected)
    "cleanup manifest must be the source sibling")

/-- `_validate_intent`, after the constraints on single fields. -/
def validate (f : IntentFields) : Except Err Unit := do
  raise f.validateFields
  let _ ← parseSourcePath f.sourceRelativePath
  raise (refuseIf ([RecoverySourceState.partialComplete, .partialTruncated,
      .publicationCoexistence].contains f.sourceState !=
      endsWith f.sourceRelativePath ".jsonl.zst.partial")
    "recovery source state does not match its path")
  raise (refuseIf (f.recoveryControlEventId ≠ recoveryEventPrefix ++ f.transactionId)
    "recovery control event ID does not match transaction")
  let dataPresent ← groupPresence [f.plannedDataGenerationId.isSome,
    f.plannedDataRelativePath.isSome, f.plannedDataSizeBytes.isSome, f.plannedDataSha256.isSome]
    "planned data"
  let manifestPresent ← groupPresence [f.plannedManifestRelativePath.isSome,
    f.plannedManifestSizeBytes.isSome, f.plannedManifestSha256.isSome] "planned manifest"
  let quarantinePresent ← groupPresence [f.plannedQuarantineRelativePath.isSome,
    f.plannedQuarantineSizeBytes.isSome, f.plannedQuarantineSha256.isSome] "planned quarantine"
  let cleanupPresent ← groupPresence [f.cleanupProofKind.isSome,
    f.cleanupProofRelativePath.isSome, f.cleanupProofSizeBytes.isSome,
    f.cleanupProofSha256.isSome] "cleanup proof"
  if dataPresent then do
    let generation ← recoveryGenerationId enc (f.plannedDataRelativePath.getD "")
    raise (refuseIf (f.plannedDataGenerationId ≠ some generation)
      "planned generation does not match canonical path")
    raise (refuseIf (!manifestPresent) "planned data requires a planned manifest")
    let expected ← manifestPathForData (f.plannedDataRelativePath.getD "")
    raise (refuseIf (f.plannedManifestRelativePath ≠ some expected)
      "planned manifest is not the data sibling")
  else pure ()
  match f.plannedSourceDisposition with
  | .removed => f.validateRemoved dataPresent quarantinePresent cleanupPresent
  | .movedToQuarantine =>
    f.validateQuarantined dataPresent manifestPresent quarantinePresent cleanupPresent
  | .retained => f.validateRetained dataPresent quarantinePresent cleanupPresent
  | .legitimatelyMissing =>
    f.validateMissing dataPresent manifestPresent quarantinePresent cleanupPresent

end IntentFields

/-- `RecoveryIntentV1`. -/
structure RecoveryIntent where
  fields : IntentFields
  factSha256 : Sha256
  deriving DecidableEq

/-- `_RecoveryFact.create` of an intent: the hash is computed of validated fields. -/
def RecoveryIntent.create (f : IntentFields) : Except Err RecoveryIntent := do
  f.validate enc
  return ⟨f, enc.sha256 (enc.intentBytes f)⟩

theorem RecoveryIntent.fields_of_create {enc : Encoders} {f : IntentFields} {i : RecoveryIntent}
    (h : create enc f = .ok i) : i.fields = f := by
  unfold create at h
  cases hvalid : f.validate enc with
  | error e => simp [hvalid, Bind.bind, Except.bind] at h
  | ok _ =>
    simp only [hvalid, Bind.bind, Except.bind, pure, Except.pure, Except.ok.injEq] at h
    rw [← h]

/-! ## The manifest of a recovered part -/

/-- A byte string that a plan names: its path, its size and its digest. -/
structure PlannedBytes where
  path : String
  sizeBytes : Nat
  sha256 : Sha256
  deriving DecidableEq

/-- `_recovery_manifest_from_facts`. -/
def recoveryManifestFromFacts (rowFacts : RecoveryRowFacts) (recoveredFrameCount : Nat)
    (sourceSizeBytes : Nat) (sourceSha256 : Sha256) (sourceRelativePath : String)
    (sourceState : RecoverySourceState) (transactionId : String) (createdAtNs : Nat)
    (data : PlannedBytes) (quarantine : Option PlannedBytes) : Except Err RawManifest := do
  let manifestRelativePath ← manifestPathForData data.path
  RawManifest.create
    { exchange := rowFacts.exchange
      market := rowFacts.market
      instrumentKey := rowFacts.instrumentKey
      logicalStream := rowFacts.logicalStream
      wireSymbols := rowFacts.wireSymbols
      dataRelativePath := data.path
      manifestRelativePath
      fileSizeBytes := data.sizeBytes
      fileSha256 := data.sha256.hex
      zstdLevel := none
      maxPlainFrameBytes := none
      recordCount := rowFacts.recordCount
      firstReceivedAtNs := rowFacts.firstReceivedAtNs
      lastReceivedAtNs := rowFacts.lastReceivedAtNs
      firstEventTimeNs := rowFacts.firstEventTimeNs
      lastEventTimeNs := rowFacts.lastEventTimeNs
      workerInstanceId := rowFacts.workerInstanceId
      connectionGenerations := rowFacts.connectionGenerations
      writerSequenceFirst := rowFacts.writerSequenceFirst
      writerSequenceLast := rowFacts.writerSequenceLast
      configSha256 := rowFacts.configSha256
      egressIds := rowFacts.egressIds
      requestedIntervalsNs := rowFacts.requestedIntervalsNs
      effectiveIntervalsNs := rowFacts.effectiveIntervalsNs
      gapCount := none
      reconnectCount := none
      parseErrorCount := none
      checksumErrorCount := none
      queueOverflowCount := none
      controlEventIds := none
      durabilityMeasurement := .unavailableAfterCrash
      durabilitySampleCount := none
      durabilityLagP50Ns := none
      durabilityLagP95Ns := none
      durabilityLagP99Ns := none
      durabilityLagMaxNs := none
      syncCount := none
      syncDurationTotalNs := none
      syncDurationMaxNs := none
      sloBreachCount := none
      writeFailureCount := none
      syncFailureCount := none
      closeReason := .recovery
      createdAtNs := none
      closedAtNs := createdAtNs
      recoveryTransactionId := some transactionId
      recoverySourceState := some sourceState
      recoverySourceRelativePath := some sourceRelativePath
      recoverySourceBytes := some sourceSizeBytes
      recoverySourceSha256 := some sourceSha256.hex
      recoveryControlEventId := some (recoveryEventPrefix ++ transactionId)
      recoveredFrameCount := some recoveredFrameCount
      recoveredRecordCount := some rowFacts.recordCount
      recoveredBytes := some data.sizeBytes
      recoveredSha256 := some data.sha256.hex
      quarantinedSuffixRelativePath := quarantine.map (·.path)
      quarantinedSuffixBytes := quarantine.map (·.sizeBytes)
      quarantinedSuffixSha256 := quarantine.map (·.sha256.hex)
      unavailableFields := recoveryUnavailableFields }

end CryptoCollector.Storage.Recovery
