import CryptoCollector.Storage.Histogram
import CryptoCollector.Storage.Ledger

/-!
# Raw parts

`storage/raw_writer.py: _PartAccumulator, _ActivePart` and the buffer of
`storage/stream_file.py: StreamFile`. The rows of the frame buffer and their durability claims
are appended and cleared together, so one list `pending` stands for both. Facts of a part that
storage threads change (the file itself, its compressed size, its descriptor) are not here.
-/

namespace CryptoCollector.Storage

open Lib

/-- `durability.py: FileDurabilityResult`. -/
structure FileDurabilityResult where
  generationId : GenerationId
  wasDirty : Bool
  recordCount : Nat
  syncCompletedMonotonicNs : Option Nat
  syncDurationNs : Nat
  lagP50Ns : Option Nat
  lagP95Ns : Option Nat
  lagP99Ns : Option Nat
  lagMaxNs : Option Nat
  /-- `__post_init__` checks that the completion time is a signed 64-bit integer. -/
  fits : ∀ t ∈ syncCompletedMonotonicNs, t ≤ maxSignedInt64
  deriving DecidableEq

/-- The lags of rows that became durable at `completed`. -/
def lagsAt (completed : Nat) (rows : List Record) : List Nat :=
  rows.map fun r => completed - r.acceptedMonotonicNs

/-- The tail of `_persist_blocking` after a successful write and sync: the result, or a sync
failure when a row was accepted after the completion. -/
def persistResult (generationId : GenerationId) (rows : List Record) (started completed : Nat) :
    Except Err FileDurabilityResult :=
  if h : maxSignedInt64 < completed then .error (.filePersistence .syncFailed)
  else if rows.any fun r => completed < r.acceptedMonotonicNs then
    .error (.filePersistence .syncFailed)
  else
    let result (s : Option HistogramSnapshot) : FileDurabilityResult :=
      { generationId
        wasDirty := !rows.isEmpty
        recordCount := rows.length
        syncCompletedMonotonicNs := some completed
        syncDurationNs := completed - started
        lagP50Ns := s.bind (·.lagP50Ns)
        lagP95Ns := s.bind (·.lagP95Ns)
        lagP99Ns := s.bind (·.lagP99Ns)
        lagMaxNs := s.bind (·.lagMaxNs)
        fits := by simpa using h }
    if rows.isEmpty then .ok (result none)
    else
      match (({} : Histogram).addAll (lagsAt completed rows)).snapshot with
      | .ok s => .ok (result (some s))
      | .error _ => .error (.filePersistence .syncFailed)

/-- The control counters of a part. -/
structure ControlCounters where
  gapCount : Nat := 0
  reconnectCount : Nat := 0
  parseErrorCount : Nat := 0
  checksumErrorCount : Nat := 0
  queueOverflowCount : Nat := 0
  deriving DecidableEq

/-- `_CONTROL_KIND_COUNTER`: count an event of a kind that has a counter. -/
def ControlCounters.count (c : ControlCounters) (kind : String) : ControlCounters :=
  if kind = "gap_detected" then { c with gapCount := c.gapCount + 1 }
  else if kind = "reconnect" then { c with reconnectCount := c.reconnectCount + 1 }
  else if kind = "parse_error" then { c with parseErrorCount := c.parseErrorCount + 1 }
  else if kind = "checksum_error" then { c with checksumErrorCount := c.checksumErrorCount + 1 }
  else if kind = "queue_overflow" then { c with queueOverflowCount := c.queueOverflowCount + 1 }
  else c

/-- `_PartAccumulator`, without the sets of envelope facts that only the manifest reports. -/
structure PartAccumulator where
  recordCount : Nat := 0
  firstReceivedAtNs : Option Nat := none
  lastReceivedAtNs : Option Nat := none
  writerSequenceFirst : Option Nat := none
  writerSequenceLast : Option Nat := none
  histogram : Histogram := {}
  syncCount : Nat := 0
  syncDurationTotalNs : Nat := 0
  syncDurationMaxNs : Nat := 0
  sloBreachCount : Nat := 0
  writeFailureCount : Nat := 0
  syncFailureCount : Nat := 0
  counters : ControlCounters := {}
  controlEventIds : List String := []
  frozen : Bool := false
  deriving DecidableEq

namespace PartAccumulator

/-- `append_validated`. -/
def appendValidated (a : PartAccumulator) (r : Record) : PartAccumulator :=
  { a with
    firstReceivedAtNs := if a.recordCount = 0 then some r.receivedAtNs else a.firstReceivedAtNs
    writerSequenceFirst :=
      if a.recordCount = 0 then some r.identity.writerSequence else a.writerSequenceFirst
    lastReceivedAtNs := some r.receivedAtNs
    writerSequenceLast := some r.identity.writerSequence
    recordCount := a.recordCount + 1 }

/-- The update of `apply_completion` once its checks have passed. -/
def credit (a : PartAccumulator) (durabilitySloNs completed duration : Nat)
    (claims : List Record) : PartAccumulator :=
  { a with
    histogram := a.histogram.addAll (lagsAt completed claims)
    sloBreachCount := a.sloBreachCount + (lagsAt completed claims).countP (durabilitySloNs < ·)
    syncCount := a.syncCount + 1
    syncDurationTotalNs := a.syncDurationTotalNs + duration
    syncDurationMaxNs := max a.syncDurationMaxNs duration }

/-- `apply_completion`. -/
def applyCompletion (durabilitySloNs : Nat) (result : FileDurabilityResult)
    (claims : List Record) : Proc Err PartAccumulator := fun a =>
  if a.frozen then (some (.valueError "part accumulator is frozen"), a)
  else if result.recordCount ≠ claims.length ∨ result.wasDirty ≠ !claims.isEmpty then
    (some (.valueError "completion record count does not match its claims"), a)
  else
    match result.syncCompletedMonotonicNs with
    | none => (some (.valueError "final sync completion requires a completion time"), a)
    | some completed =>
      if claims.any fun r => completed < r.acceptedMonotonicNs then
        (some (.valueError "sync completion precedes record acceptance"), a)
      else
        match (({} : Histogram).addAll (lagsAt completed claims)).snapshot with
        | .error e => (some e, a)
        | .ok batch =>
          if (result.lagP50Ns, result.lagP95Ns, result.lagP99Ns, result.lagMaxNs) ≠
              (batch.lagP50Ns, batch.lagP95Ns, batch.lagP99Ns, batch.lagMaxNs) then
            (some (.valueError "completion durability statistics do not match claims"), a)
          else (none, a.credit durabilitySloNs completed result.syncDurationNs claims)

/-- `apply_failure`. -/
def applyFailure (a : PartAccumulator) (e : Err) : PartAccumulator :=
  if e = .filePersistence .writeFailed then
    { a with writeFailureCount := a.writeFailureCount + 1 }
  else { a with syncFailureCount := a.syncFailureCount + 1 }

/-- `validate_durable_control`. -/
def validateDurableControl (a : PartAccumulator) (association : ControlAssociation)
    (self : ControlTarget) : Option Err :=
  if a.frozen then some (.valueError "part accumulator is frozen")
  else if association.targets.count self ≠ 1 then
    some (.valueError "durable control does not target this exact raw part")
  else if association.controlEventId ∈ a.controlEventIds then
    some (.valueError "durable control association was already folded")
  else none

/-- The update of `fold_durable_control`. -/
def fold (a : PartAccumulator) (association : ControlAssociation) : PartAccumulator :=
  { a with
    counters := a.counters.count association.controlKind
    controlEventIds := a.controlEventIds ++ [association.controlEventId] }

/-- The checks of `freeze`. -/
def validateFreeze (a : PartAccumulator) : Option Err :=
  if a.frozen then some (.valueError "part accumulator is already frozen")
  else if a.recordCount = 0 then some (.valueError "empty raw parts cannot be frozen")
  else
    match a.histogram.snapshot with
    | .error e => some e
    | .ok durability =>
      if durability.sampleCount ≠ a.recordCount then
        some (.valueError "not every raw record is durable")
      else if a.writeFailureCount ≠ 0 ∨ a.syncFailureCount ≠ 0 then
        some (.valueError "failed raw parts cannot publish normal manifests")
      else none

end PartAccumulator

/-- `_ClaimedSealedWork`: the rows sealed into one frame. -/
structure Claimed where
  claimId : Nat
  rows : List Record
  deriving DecidableEq

/-- `_ActivePart`. `rows` is a history variable: every row ever appended, in order. -/
structure Part where
  path : PartPath
  createdAtNs : Nat
  receivedHour : Nat
  configSha256 : String
  configGeneration : Nat
  accumulator : PartAccumulator := {}
  pending : List Record := []
  claimed : Option Claimed := none
  nextClaimId : Nat := 0
  /-- The batch that writes the claim in flight (`_batch_task_by_claim_id`). -/
  claimBatch : Option Nat := none
  closeReason : Option CloseReason := none
  closedAtNs : Option Nat := none
  rows : List Record := []
  deriving DecidableEq

namespace Part

/-- `generation_id`. -/
def generationId (p : Part) : GenerationId := p.path.partSequence

/-- The logical key of the part. -/
def key (p : Part) : LogicalKey := p.path.key

/-- The part as a control target. -/
def target (p : Part) : ControlTarget := ⟨p.generationId, p.path⟩

/-- `record_count`. -/
def recordCount (p : Part) : Nat := p.accumulator.recordCount

/-- `pending_plain_bytes`. -/
def pendingPlainBytes (p : Part) : Nat := (p.pending.map (·.size)).sum

/-- `_PartAccumulator.validate_record`. -/
def validateRecord (p : Part) (r : Record) : Option Err :=
  if p.accumulator.frozen then some (.valueError "part accumulator is frozen")
  else if p.key ≠ r.key ∨ p.configSha256 ≠ r.identity.configSha256 ∨
      p.configGeneration ≠ r.identity.configGeneration then
    some (.valueError "record does not belong to this raw part")
  else if p.accumulator.writerSequenceLast.any (r.identity.writerSequence ≤ ·) then
    some (.valueError "part writer sequences must be strictly increasing")
  else none

/-- A row enters the part. -/
def record (p : Part) (r : Record) : Part :=
  { p with accumulator := p.accumulator.appendValidated r, rows := p.rows ++ [r] }

/-- `append_accepted`, on an open descriptor. -/
def appendAccepted (maxPlainFrameBytes : Nat) (r : Record) : Proc Err Part := fun p =>
  if p.closeReason.isSome then
    (some (.valueError "retired raw parts cannot accept records"), p)
  else
    match p.validateRecord r with
    | some e => (some e, p)
    | none =>
      if maxPlainFrameBytes < p.pendingPlainBytes + r.size then (some .frameSealRequired, p)
      else (none, { p.record r with pending := p.pending ++ [r] })

/-- `seal_for_sync`. Without pending rows it does nothing unless `forceSync`. -/
def sealForSync (forceSync : Bool) : Proc Err Part := fun p =>
  if p.claimed.isSome then (some (.valueError "raw part already has sync work in flight"), p)
  else if p.pending.isEmpty ∧ !forceSync then (none, p)
  else
    (none, { p with
      pending := []
      claimed := some ⟨p.nextClaimId, p.pending⟩
      nextClaimId := p.nextClaimId + 1 })

/-- `seal_oversized`. -/
def sealOversized (maxPlainFrameBytes : Nat) (r : Record) : Proc Err Part := fun p =>
  if p.closeReason.isSome then
    (some (.valueError "retired raw parts cannot accept records"), p)
  else if !p.pending.isEmpty ∨ p.claimed.isSome then
    (some (.valueError "oversized work requires a quiescent raw part"), p)
  else if r.size ≤ maxPlainFrameBytes then
    (some (.valueError "oversized work must exceed the plain frame limit"), p)
  else
    match p.validateRecord r with
    | some e => (some e, p)
    | none =>
      (none, { p.record r with
        claimed := some ⟨p.nextClaimId, [r]⟩
        nextClaimId := p.nextClaimId + 1 })

/-- `apply_completion`, for the claim that is in flight. -/
def applyCompletion (durabilitySloNs : Nat) (result : FileDurabilityResult) : Proc Err Part :=
  fun p =>
    match p.claimed with
    | none => (some (.valueError "claimed work is not owned by this raw part"), p)
    | some claimed =>
      if result.generationId ≠ p.generationId then
        (some (.valueError "completion generation does not match raw part"), p)
      else
        match p.accumulator.applyCompletion durabilitySloNs result claimed.rows with
        | (some e, a) => (some e, { p with accumulator := a })
        | (none, a) => (none, { p with accumulator := a, claimed := none, claimBatch := none })

/-- `apply_failure`, for the claim that is in flight. -/
def applyFailure (e : Err) : Proc Err Part := fun p =>
  match p.claimed with
  | none => (some (.valueError "claimed work is not owned by this raw part"), p)
  | some _ =>
    (none, { p with
      accumulator := p.accumulator.applyFailure e, claimed := none, claimBatch := none })

/-- `validate_retirement`. -/
def validateRetirement (p : Part) (reason : CloseReason) (closedAtNs : Nat) : Option Err :=
  if reason = .recovery then some (.valueError "active parts require a normal close reason")
  else if p.closeReason.isSome ∧ (p.closeReason ≠ some reason ∨ p.closedAtNs ≠ some closedAtNs)
  then some (.valueError "raw part was already retired with different facts")
  else none

/-- `retire`, after its validation. -/
def retire (p : Part) (reason : CloseReason) (closedAtNs : Nat) : Part :=
  if p.closeReason.isSome then p
  else { p with closeReason := some reason, closedAtNs := some closedAtNs }

/-- `validate_final_barrier`; `closed` is the state of the descriptor. -/
def validateFinalBarrier (p : Part) (closed : Bool) (reason : CloseReason) (closedAtNs : Nat) :
    Option Err :=
  match p.validateRetirement reason (p.closedAtNs.getD closedAtNs) with
  | some e => some e
  | none =>
    if closed then some (.valueError "closed raw files cannot enter a final barrier")
    else if p.recordCount = 0 then some (.valueError "empty raw parts cannot enter a final barrier")
    else none

/-- `fold_durable_control`. -/
def foldDurableControl (association : ControlAssociation) : Proc Err Part := fun p =>
  match p.accumulator.validateDurableControl association p.target with
  | some e => (some e, p)
  | none => (none, { p with accumulator := p.accumulator.fold association })

/-- `freeze_summary`. -/
def freezeSummary : Proc Err Part := fun p =>
  if !p.pending.isEmpty ∨ p.claimed.isSome then
    (some (.valueError "raw part still owns unsettled durability claims"), p)
  else
    match p.accumulator.validateFreeze with
    | some e => (some e, p)
    | none => (none, { p with accumulator := { p.accumulator with frozen := true } })

end Part

/-- The part of `RawManifestV1` that the accumulator supplies. -/
structure Manifest where
  path : PartPath
  closeReason : Option CloseReason
  createdAtNs : Nat
  closedAtNs : Option Nat
  recordCount : Nat
  writerSequenceFirst : Option Nat
  writerSequenceLast : Option Nat
  counters : ControlCounters
  controlEventIds : List String
  durabilitySampleCount : Nat
  durabilityLagMaxNs : Option Nat
  syncCount : Nat
  syncDurationTotalNs : Nat
  syncDurationMaxNs : Nat
  sloBreachCount : Nat
  deriving DecidableEq

/-- `build_manifest` of a frozen part. -/
def Part.buildManifest (p : Part) : Manifest where
  path := p.path
  closeReason := p.closeReason
  createdAtNs := p.createdAtNs
  closedAtNs := p.closedAtNs
  recordCount := p.accumulator.recordCount
  writerSequenceFirst := p.accumulator.writerSequenceFirst
  writerSequenceLast := p.accumulator.writerSequenceLast
  counters := p.accumulator.counters
  controlEventIds := p.accumulator.controlEventIds
  durabilitySampleCount := p.accumulator.histogram.sampleCount
  durabilityLagMaxNs := p.accumulator.histogram.lagMaxNs
  syncCount := p.accumulator.syncCount
  syncDurationTotalNs := p.accumulator.syncDurationTotalNs
  syncDurationMaxNs := p.accumulator.syncDurationMaxNs
  sloBreachCount := p.accumulator.sloBreachCount

end CryptoCollector.Storage
