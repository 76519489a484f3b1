import CryptoCollector.Storage.Service.State

/-!
# Status and metrics of the service

`status()` and `metrics_snapshot()` assemble a record from every part of the service and have it
check itself (`storage/models.py: WriterStatus, WriterMetricsSnapshotV1`). The checks are listed
in the order of the source, each with its message.
-/

namespace CryptoCollector.Storage

open Lib

/-- Checks with their messages, in the order in which they are made. -/
abbrev Checks := List (Bool × String)

/-- Raise the message of the first check that fails. -/
def Checks.run (cs : Checks) : Except Err Unit :=
  match cs.find? (!·.1) with
  | some c => .error (.valueError c.2)
  | none => .ok ()

theorem Checks.run_eq_ok {cs : Checks} : cs.run = .ok () ↔ ∀ c ∈ cs, c.1 = true := by
  unfold Checks.run
  constructor
  · intro h c hc
    cases hf : cs.find? (!·.1) with
    | some d => simp [hf] at h
    | none => simpa using List.find?_eq_none.mp hf c hc
  · intro h
    have : cs.find? (!·.1) = none := by
      rw [List.find?_eq_none]
      intro c hc
      simp [h c hc]
    simp [this]

/-- `_validate_lifecycle_admission`. -/
def lifecycleAdmission (l : WriterLifecycle) (a : AdmissionState) : Bool :=
  match l with
  | .rotating => true
  | .accepting => a = .opened
  | _ => a = .closed

/-- `_validate_record_byte_pair`. -/
def recordBytePair (records bytes : Nat) : Bool := decide (records = 0) = decide (bytes = 0)

/-- The message of `_validate_record_byte_pair`. -/
def pairMessage (stage : String) : String := stage ++ " record/byte zero-state invariant failed"

/-! ## Status -/

/-- `WriterStatus.__post_init__`. -/
def WriterStatus.checks (s : WriterStatus) : Checks :=
  [(lifecycleAdmission s.lifecycle s.admission, "lifecycle admission state invariant failed"),
    (s.incompleteReason.all normalized, "incomplete_reason must be a normalized nonempty string"),
    (decide (s.lifecycle = .critical) = s.criticalReason.isSome,
      "critical lifecycle must agree with critical_reason"),
    (s.acceptedRecordCount =
      s.durableRecordCount + s.unpersistedRecordCount + s.uncertainRecordCount,
      "accepted record conservation invariant failed"),
    (s.unpersistedRecordCount = s.queuedRecords + s.bufferedRecords + s.inFlightRecords,
      "unpersisted stage conservation invariant failed"),
    (recordBytePair s.queuedRecords s.queuedBytes, pairMessage "queued"),
    (recordBytePair s.bufferedRecords s.bufferedBytes, pairMessage "buffered"),
    (recordBytePair s.inFlightRecords s.inFlightBytes, pairMessage "in_flight"),
    (decide (s.unpersistedRecordCount = 0) = s.oldestUnpersistedAgeNs.isNone,
      "oldest_unpersisted_age_ns must be None exactly when no records are unpersisted"),
    (s.lifecycle ≠ .closed ∨ s.publication = .idle ∧ s.incompleteReason = none ∧
      [s.queuedRecords, s.queuedBytes, s.bufferedRecords, s.bufferedBytes, s.inFlightRecords,
        s.inFlightBytes, s.activeLogicalGenerationCount, s.retiringGenerationCount,
        s.openFileDescriptorCount, s.dirtyFileCount, s.syncInflight, s.unpersistedRecordCount,
        s.uncertainRecordCount].all (· = 0),
      "closed writer terminal state invariant failed")]

/-- A status, if it passes its checks. -/
def WriterStatus.checked (s : WriterStatus) : Except Err WriterStatus := s.checks.run.map fun _ => s

/-- `_stage_bytes`. -/
def Accounts.stageBytes (a : Accounts) (stage : DurabilityStage) : Except Err Nat :=
  match (a.recordStages.entries.filter (·.2 = stage)).mapM
      (fun e => a.recordChargeBytes.get? e.1) with
  | some charges => .ok charges.sum
  | none => .error (.keyError "unknown record")

namespace Writer

/-- The active parts and the retiring parts. -/
def ownedParts (p : Params) (w : Writer) : List Part :=
  w.core.parts.activeParts p.layout ++ w.flow.retiring.filterMap w.core.parts.part?

/-- The ids of the owned parts. -/
def ownedIds (p : Params) (w : Writer) : List GenerationId :=
  (w.ownedParts p).map (·.generationId)

/-- The status that `_build_status` assembles, given the bytes of the stages and the oldest age. -/
def statusOf (p : Params) (w : Writer) (queued buffered inFlight : Nat) (oldest : Option Nat) :
    WriterStatus where
  lifecycle := w.life.lifecycle
  admission := w.life.admission
  publication := w.life.publication
  incompleteReason := w.life.incompleteReason
  criticalReason := w.life.criticalReason
  queuedRecords := w.acct.ledger.stageCount .queued
  queuedBytes := queued
  bufferedRecords := w.acct.ledger.stageCount .buffered
  bufferedBytes := buffered
  inFlightRecords := w.acct.ledger.stageCount .inFlight
  inFlightBytes := inFlight
  activeLogicalGenerationCount := w.core.parts.active.entries.length
  retiringGenerationCount := w.flow.retiring.length
  openFileDescriptorCount :=
    (w.ownedParts p).countP fun q => !(w.core.disk.file q.generationId).closed
  dirtyFileCount := (w.ownedParts p).countP fun q => !q.pending.isEmpty || q.claimed.isSome
  syncInflight := w.flow.completionClaims.entries.length
  oldestUnpersistedAgeNs := oldest
  acceptedRecordCount := w.acct.ledger.acceptedCount
  durableRecordCount := w.acct.ledger.durableCount
  unpersistedRecordCount := w.acct.ledger.unpersistedCount
  uncertainRecordCount := w.acct.ledger.uncertainCount

/-- `_build_status`. It reads the clock and may compact the heap of the ledger. -/
def buildStatus (p : Params) (w : Writer) : Except Err WriterStatus × Writer :=
  match w.acct.stageBytes .queued, w.acct.stageBytes .buffered, w.acct.stageBytes .inFlight with
  | .ok queued, .ok buffered, .ok inFlight =>
    match w.acct.ledger.oldestUnpersistedAgeNs w.core.clock with
    | (ledger, clock, oldest) =>
      ((w.statusOf p queued buffered inFlight oldest).checked,
        { w with acct := { w.acct with ledger }, core := { w.core with clock } })
  | .error e, _, _ => (.error e, w)
  | _, .error e, _ => (.error e, w)
  | _, _, .error e => (.error e, w)

/-- `_sample_monotonic`. -/
def sampleMonotonic (w : Writer) : Nat × Writer :=
  (max w.core.clock.monotonicNs (w.cache.lastObservedMonotonicNs + 1), { w with
    core := { w.core with clock := w.core.clock.afterMonotonic }
    cache := { w.cache with
      lastObservedMonotonicNs :=
        max w.core.clock.monotonicNs (w.cache.lastObservedMonotonicNs + 1) } })

/-- `_sample_wall`. -/
def sampleWall (w : Writer) : Nat × Writer :=
  (w.core.clock.timeNs, { w with core := { w.core with clock := w.core.clock.afterTime } })

end Writer

/-! ## Metrics -/

/-- The interval of the bucket that `_validate_histogram_fields` requires the maximum to lie in. -/
def inBucket (index lag : Nat) : Bool :=
  (index = 0 || bucketUpperBoundsNs.getD (index - 1) 0 < lag) &&
    lag ≤ bucketUpperBoundsNs.getD index 0

/-- `_validate_histogram_fields`. A quantile that `_nearest_rank` cannot find is an error too. -/
def histogramChecks (bucketCounts : List Nat) (sampleCount : Nat)
    (lagP50Ns lagP95Ns lagP99Ns lagMaxNs : Option Nat) : Checks :=
  [(bucketCounts.length = bucketCount, "bucket_counts must match the durability histogram schema"),
    (bucketCounts.sum = sampleCount,
      "histogram sample count must equal the disjoint bucket sum"),
    (((nearestRank bucketCounts sampleCount 50).toOption = some lagP50Ns ∧
      (nearestRank bucketCounts sampleCount 95).toOption = some lagP95Ns ∧
      (nearestRank bucketCounts sampleCount 99).toOption = some lagP99Ns),
      "durability quantiles must match nearest-rank buckets"),
    (sampleCount ≠ 0 ∨ lagMaxNs = none, "empty histogram cannot have a maximum"),
    (sampleCount = 0 ∨ lagMaxNs.isSome, "nonempty histogram requires a maximum"),
    (lagMaxNs.all fun lag => (highestNonempty bucketCounts).any (inBucket · lag),
      "histogram maximum must use its highest nonempty bucket")]

/-- `DurabilityHistogramSeriesV1.validate_histogram`. -/
def HistogramSeries.checks (s : HistogramSeries) : Checks :=
  histogramChecks s.bucketCounts s.sampleCount s.lagP50Ns s.lagP95Ns s.lagP99Ns s.lagMaxNs

/-- The sort key of a series. -/
def seriesKey (market : Option Market) (stream : String) : String × String :=
  ((market.map Market.value).getD "", stream)

/-- The order of series keys. -/
def seriesKeyLe (a b : String × String) : Bool := a.1 < b.1 ∨ a.1 = b.1 ∧ a.2 ≤ b.2

/-- The key of a series in a snapshot. -/
def HistogramSeries.key (s : HistogramSeries) : String × String :=
  seriesKey s.market s.logicalStream

/-- The maximum of the maxima that are present. -/
def maximum (maxima : List (Option Nat)) : Option Nat := (maxima.filterMap id).max?

/-- The checks of `validate_snapshot` on lifecycle, counts and bytes. -/
def MetricsSnapshot.gaugeChecks (s : MetricsSnapshot) : Checks :=
  [(lifecycleAdmission s.lifecycle s.admission, "lifecycle admission state invariant failed"),
    (decide (s.lifecycle = .critical) = s.criticalReason.isSome,
      "critical lifecycle must agree with critical_reason"),
    (s.acceptanceOrdinalHighWater =
      (if s.acceptedRecordCount = 0 then none else some (s.acceptedRecordCount - 1)),
      "acceptance ordinal high-water must match accepted record count"),
    (s.acceptedRecordCount =
      s.durableRecordCount + s.unpersistedRecordCount + s.uncertainRecordCount,
      "accepted record conservation invariant failed"),
    (s.unpersistedRecordCount = s.queuedRecords + s.bufferedRecords + s.inFlightRecords,
      "unpersisted stage conservation invariant failed"),
    (s.residentRecordBytes = s.queuedBytes + s.bufferedBytes + s.inFlightBytes,
      "resident byte conservation invariant failed"),
    (s.residentControlBytes ≤ s.residentRecordBytes,
      "resident control bytes exceed all resident bytes"),
    (s.residentControlRecords ≤ s.unpersistedRecordCount,
      "resident control records exceed unpersisted records"),
    (recordBytePair s.queuedRecords s.queuedBytes, pairMessage "queued"),
    (recordBytePair s.bufferedRecords s.bufferedBytes, pairMessage "buffered"),
    (recordBytePair s.inFlightRecords s.inFlightBytes, pairMessage "in_flight"),
    (recordBytePair s.residentControlRecords s.residentControlBytes,
      pairMessage "resident control"),
    (decide (s.unpersistedRecordCount = 0) = s.oldestUnpersistedAgeNs.isNone,
      "oldest_unpersisted_age_ns must be None exactly when no records are unpersisted"),
    (s.lifecycle ≠ .closed ∨ s.publication = .idle ∧
      [s.queuedRecords, s.queuedBytes, s.bufferedRecords, s.bufferedBytes, s.inFlightRecords,
        s.inFlightBytes, s.residentRecordBytes, s.residentControlRecords, s.residentControlBytes,
        s.activeLogicalGenerationCount, s.retiringGenerationCount, s.openFileDescriptorCount,
        s.syncInflight, s.unpersistedRecordCount, s.uncertainRecordCount].all (· = 0),
      "closed writer terminal state invariant failed"),
    (s.durability.sampleCount = s.durableRecordCount,
      "durability sample count must equal durable record count")]

/-- The checks of `validate_snapshot` that compare the series with the aggregate. -/
def MetricsSnapshot.seriesChecks (s : MetricsSnapshot) : Checks :=
  [((s.durabilityHistogramSeries.map (·.key)).Pairwise (seriesKeyLe · ·) ∧
      (s.durabilityHistogramSeries.map (·.key)).Nodup,
      "durability histogram series must be sorted and unique"),
    ((s.durabilityHistogramSeries.map (·.sampleCount)).sum = s.durability.sampleCount,
      "durability series sample counts do not match aggregate"),
    ((List.range bucketCount).all fun i =>
      (s.durabilityHistogramSeries.map (·.bucketCounts.getD i 0)).sum =
        s.durability.bucketCounts.getD i 0,
      "durability series buckets do not match aggregate"),
    (s.durability.lagMaxNs = maximum (s.durabilityHistogramSeries.map (·.lagMaxNs)),
      "durability series maxima do not match aggregate")]

/-- `WriterMetricsSnapshotV1.validate_snapshot`. -/
def MetricsSnapshot.checks (s : MetricsSnapshot) : Checks :=
  s.gaugeChecks ++
    histogramChecks s.durability.bucketCounts s.durability.sampleCount s.durability.lagP50Ns
      s.durability.lagP95Ns s.durability.lagP99Ns s.durability.lagMaxNs ++
    s.seriesChecks

/-- A snapshot, if it passes its checks. -/
def MetricsSnapshot.checked (s : MetricsSnapshot) : Except Err MetricsSnapshot :=
  s.checks.run.map fun _ => s

/-- One series of a snapshot. -/
def seriesOf (e : (Option Market × String) × Histogram) : Except Err HistogramSeries := do
  let s ← e.2.snapshot
  let series : HistogramSeries :=
    { market := e.1.1, logicalStream := e.1.2, bucketCounts := s.bucketCounts
      sampleCount := s.sampleCount, lagP50Ns := s.lagP50Ns, lagP95Ns := s.lagP95Ns
      lagP99Ns := s.lagP99Ns, lagMaxNs := s.lagMaxNs }
  series.checks.run
  return series

/-- The series of a snapshot, sorted by their keys. -/
def sortedSeries (series : Dict (Option Market × String) Histogram) :
    Except Err (List HistogramSeries) :=
  (series.entries.insertionSort fun a b =>
    seriesKeyLe (seriesKey a.1.1 a.1.2) (seriesKey b.1.1 b.1.2)).mapM seriesOf

namespace Writer

/-- The snapshot that `_assemble_metrics_snapshot` builds from its parts. -/
def snapshotOf (w : Writer) (status : WriterStatus) (aggregate : HistogramSnapshot)
    (series : List HistogramSeries) (observed : Nat) : MetricsSnapshot where
  observedMonotonicNs := observed
  configSha256 := w.configSha256
  configGeneration := w.configGeneration
  lifecycle := w.life.lifecycle
  admission := w.life.admission
  publication := w.life.publication
  criticalReason := w.life.criticalReason
  acceptanceOrdinalHighWater :=
    if w.acct.ledger.acceptedCount = 0 then none else some (w.acct.ledger.acceptedCount - 1)
  acceptedRecordCount := w.acct.ledger.acceptedCount
  durableRecordCount := w.acct.ledger.durableCount
  unpersistedRecordCount := w.acct.ledger.unpersistedCount
  uncertainRecordCount := w.acct.ledger.uncertainCount
  queuedRecords := status.queuedRecords
  queuedBytes := status.queuedBytes
  bufferedRecords := status.bufferedRecords
  bufferedBytes := status.bufferedBytes
  inFlightRecords := status.inFlightRecords
  inFlightBytes := status.inFlightBytes
  residentRecordBytes := w.acct.budget.residentBytes
  residentControlRecords := w.acct.budget.controlResidentRecords
  residentControlBytes := w.acct.budget.controlResidentBytes
  oldestUnpersistedAgeNs := status.oldestUnpersistedAgeNs
  enqueueHighWaterCount := w.ingress.enqueueHighWaterCount
  normalOverflowCount := w.ingress.normalOverflowCount
  controlOverflowCount := w.ingress.controlOverflowCount
  notAcceptingCount := w.acct.notAcceptingCount
  activeLogicalGenerationCount := status.activeLogicalGenerationCount
  retiringGenerationCount := status.retiringGenerationCount
  openFileDescriptorCount := status.openFileDescriptorCount
  syncInflight := status.syncInflight
  durability := aggregate
  durabilityHistogramSeries := series
  syncCount := w.acct.syncCount
  syncDurationTotalNs := w.acct.syncDurationTotalNs
  syncDurationMaxNs := w.acct.syncDurationMaxNs
  sloBreachCount := w.acct.sloBreachCount
  writeFailureCount := w.acct.writeFailureCount
  syncFailureCount := w.acct.syncFailureCount
  publicationFailureCount := w.acct.publicationFailureCount

/-- `_assemble_metrics_snapshot`. -/
def assembleMetricsSnapshot (p : Params) (w : Writer) : Except Err MetricsSnapshot × Writer :=
  match w.buildStatus p with
  | (.error e, w) => (.error e, w)
  | (.ok status, w) =>
    match w.acct.histogram.snapshot with
    | .error e => (.error e, w)
    | .ok aggregate =>
      match sortedSeries w.acct.series with
      | .error e => (.error e, w)
      | .ok series =>
        ((w.snapshotOf status aggregate series w.sampleMonotonic.1).checked, w.sampleMonotonic.2)

/-- `_invalidate_metrics_cache`. -/
def invalidate (w : Writer) : Writer := { w with cache := { w.cache with dirty := true } }

/-- `_refresh_metrics_cache`. -/
def refreshMetricsCache (p : Params) : Proc Err Writer := fun w =>
  match w.assembleMetricsSnapshot p with
  | (.error e, w) => (some e, w)
  | (.ok snapshot, w) =>
    (none, { w with cache := { w.cache with snapshot := some snapshot, dirty := false } })

/-- `metrics_snapshot`. -/
def metricsSnapshot (p : Params) (w : Writer) : Except Err (Option MetricsSnapshot) × Writer :=
  if w.cache.dirty then
    match w.refreshMetricsCache p with
    | (some e, w) => (.error e, w)
    | (none, w) => (.ok w.cache.snapshot, w)
  else (.ok w.cache.snapshot, w)

end Writer

end CryptoCollector.Storage
