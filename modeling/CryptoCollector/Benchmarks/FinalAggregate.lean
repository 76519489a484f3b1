import CryptoCollector.Benchmarks.Merging
import CryptoCollector.Benchmarks.Thinning

/-!
# The final aggregate of the workers

`benchmarks/contracts.py: FinalWorkerAggregateV1` with its validation, and
`aggregate_final_worker_snapshots` of `benchmarks/aggregation.py`.

* `aggregate_of_validated`: accepted rounds have an aggregate, which reports the histogram of all
  durability samples; thinned rounds are accepted too.
-/

namespace CryptoCollector.Benchmarks

open Lib Storage

/-- The texts of `_validate_summary_histogram`. -/
def summaryTexts : FieldTexts where
  rank := "histogram buckets do not contain their declared samples"
  schema := "summary histogram buckets do not match schema"
  samples := "summary histogram sample count does not match buckets"
  quantiles := "summary histogram quantiles do not match buckets"
  noMaximum := "empty summary histogram cannot have a maximum"
  maximum := "nonempty summary histogram requires a maximum"
  bucket := "summary histogram maximum does not match buckets"

/-- `FinalWorkerAggregateV1`. -/
structure WorkerAggregate where
  workerCount : Nat
  samplingRoundCount : Nat
  finalRoundIndex : Nat
  acceptedRecordCount : Nat
  durableRecordCount : Nat
  unpersistedRecordCount : Nat
  uncertainRecordCount : Nat
  enqueueHighWaterCount : Nat
  normalOverflowCount : Nat
  controlOverflowCount : Nat
  notAcceptingCount : Nat
  durabilityHistogramSchemaVersion : Nat
  durabilityBucketCounts : List Nat
  durabilitySampleCount : Nat
  durabilityLagP50Ns : Option Nat
  durabilityLagP95Ns : Option Nat
  durabilityLagP99Ns : Option Nat
  durabilityLagMaxNs : Option Nat
  syncCount : Nat
  syncDurationTotalNs : Nat
  syncDurationMaxNs : Nat
  sloBreachCount : Nat
  writeFailureCount : Nat
  syncFailureCount : Nat
  publicationFailureCount : Nat
  unpersistedRecordCountPeak : Nat
  queuedRecordsPeak : Nat
  queuedBytesPeak : Nat
  bufferedRecordsPeak : Nat
  bufferedBytesPeak : Nat
  inFlightRecordsPeak : Nat
  inFlightBytesPeak : Nat
  residentRecordBytesPeak : Nat
  residentControlRecordsPeak : Nat
  residentControlBytesPeak : Nat
  oldestUnpersistedAgeMaxNs : Option Nat
  activeLogicalGenerationCountPeak : Nat
  retiringGenerationCountPeak : Nat
  openFileDescriptorCountPeak : Nat
  syncInflightPeak : Nat

/-- The validation of `FinalWorkerAggregateV1`. -/
def WorkerAggregate.validate (a : WorkerAggregate) : Except Err Unit := do
  if a.workerCount ≠ 5 then throw (.valueError "Input should be 5")
  if a.samplingRoundCount = 0 then throw (.valueError "Input should be greater than 0")
  if a.durabilityHistogramSchemaVersion ≠ 1 then throw (.valueError "Input should be 1")
  if a.finalRoundIndex ≠ a.samplingRoundCount - 1 then
    throw (.valueError "final round index must terminate the sampling rounds")
  if ¬ (a.acceptedRecordCount = a.durableRecordCount ∧
      a.durableRecordCount = a.durabilitySampleCount) then
    throw (.valueError "final accepted, durable, and sampled counts must agree")
  if a.unpersistedRecordCount ≠ 0 ∨ a.uncertainRecordCount ≠ 0 then
    throw (.valueError "final aggregate terminal counts must be zero")
  validateFields summaryTexts a.durabilityBucketCounts a.durabilitySampleCount
    a.durabilityLagP50Ns a.durabilityLagP95Ns a.durabilityLagP99Ns a.durabilityLagMaxNs
  if ¬ (a.unpersistedRecordCountPeak = 0 ↔ a.oldestUnpersistedAgeMaxNs = none) then
    throw (.valueError "unpersisted peak and oldest age zero states must agree")

/-- The snapshots of a round. -/
def sampledMetrics (r : WorkerRound) : List MetricsSnapshot :=
  r.samples.map fun s => s.snapshot.metrics

/-- The last snapshot of every worker. -/
def finalSnapshots (sequences : List (List WorkerSample)) : Except Err (List MetricsSnapshot) :=
  sequences.mapM fun sequence =>
    match sequence.getLast? with
    | some s => .ok s.snapshot.metrics
    | none => .error (.keyError "tuple index out of range")

/-- The greatest sum of a field over the samples of a round. There is a round. -/
def roundPeak (rounds : List WorkerRound) (field : MetricsSnapshot → Nat) : Nat :=
  maximumOf (rounds.map fun r => ((sampledMetrics r).map field).sum)

/-- `_nearest_rank`. -/
def aggregateNearestRank (bucketCounts : List Nat) (numerator : Nat) : Except Err (Option Nat) :=
  nearestRankOr (.assertionError "aggregate histogram buckets are inconsistent") bucketCounts
    bucketCounts.sum numerator

/-- The aggregate of the final snapshots, with its quantiles. -/
def aggregateOf (rounds : List WorkerRound) (snapshots : List MetricsSnapshot)
    (p50 p95 p99 : Option Nat) : WorkerAggregate where
  workerCount := 5
  samplingRoundCount := rounds.length
  finalRoundIndex := (rounds.getLast?.map WorkerRound.roundIndex).getD 0
  acceptedRecordCount := (snapshots.map (·.acceptedRecordCount)).sum
  durableRecordCount := (snapshots.map (·.durableRecordCount)).sum
  unpersistedRecordCount := (snapshots.map (·.unpersistedRecordCount)).sum
  uncertainRecordCount := (snapshots.map (·.uncertainRecordCount)).sum
  enqueueHighWaterCount := (snapshots.map (·.enqueueHighWaterCount)).sum
  normalOverflowCount := (snapshots.map (·.normalOverflowCount)).sum
  controlOverflowCount := (snapshots.map (·.controlOverflowCount)).sum
  notAcceptingCount := (snapshots.map (·.notAcceptingCount)).sum
  durabilityHistogramSchemaVersion := 1
  durabilityBucketCounts := bucketSums (snapshots.map (·.durability.bucketCounts))
  durabilitySampleCount := (snapshots.map (·.durability.sampleCount)).sum
  durabilityLagP50Ns := p50
  durabilityLagP95Ns := p95
  durabilityLagP99Ns := p99
  durabilityLagMaxNs := Storage.maximum (snapshots.map (·.durability.lagMaxNs))
  syncCount := (snapshots.map (·.syncCount)).sum
  syncDurationTotalNs := (snapshots.map (·.syncDurationTotalNs)).sum
  syncDurationMaxNs := maximumOf (snapshots.map (·.syncDurationMaxNs))
  sloBreachCount := (snapshots.map (·.sloBreachCount)).sum
  writeFailureCount := (snapshots.map (·.writeFailureCount)).sum
  syncFailureCount := (snapshots.map (·.syncFailureCount)).sum
  publicationFailureCount := (snapshots.map (·.publicationFailureCount)).sum
  unpersistedRecordCountPeak := roundPeak rounds (·.unpersistedRecordCount)
  queuedRecordsPeak := roundPeak rounds (·.queuedRecords)
  queuedBytesPeak := roundPeak rounds (·.queuedBytes)
  bufferedRecordsPeak := roundPeak rounds (·.bufferedRecords)
  bufferedBytesPeak := roundPeak rounds (·.bufferedBytes)
  inFlightRecordsPeak := roundPeak rounds (·.inFlightRecords)
  inFlightBytesPeak := roundPeak rounds (·.inFlightBytes)
  residentRecordBytesPeak := roundPeak rounds (·.residentRecordBytes)
  residentControlRecordsPeak := roundPeak rounds (·.residentControlRecords)
  residentControlBytesPeak := roundPeak rounds (·.residentControlBytes)
  oldestUnpersistedAgeMaxNs :=
    Storage.maximum ((rounds.flatMap sampledMetrics).map (·.oldestUnpersistedAgeNs))
  activeLogicalGenerationCountPeak := roundPeak rounds (·.activeLogicalGenerationCount)
  retiringGenerationCountPeak := roundPeak rounds (·.retiringGenerationCount)
  openFileDescriptorCountPeak := roundPeak rounds (·.openFileDescriptorCount)
  syncInflightPeak := roundPeak rounds (·.syncInflight)

/-- `aggregate_final_worker_snapshots`. -/
def aggregateFinalWorkerSnapshots (L : JsonLibraries) (sequences : ValidatedWorkerSequences) :
    Except Err WorkerAggregate := do
  let validated ← validateWorkerRounds L sequences.rounds sequences.expectedWorkers
    sequences.requireNonoverlap
  let snapshots ← finalSnapshots validated.workerSequences
  let bucketCounts := bucketSums (snapshots.map (·.durability.bucketCounts))
  let p50 ← aggregateNearestRank bucketCounts 50
  let p95 ← aggregateNearestRank bucketCounts 95
  let p99 ← aggregateNearestRank bucketCounts 99
  let aggregate := aggregateOf validated.rounds snapshots p50 p95 p99
  aggregate.validate
  return aggregate

/-! ## The aggregate is valid -/

/-- What the validation of a snapshot says about it. -/
theorem of_snapshotChecks {s : WorkerSnapshot} (h : s.checks.run = .ok ()) :
    HistogramAgrees s.metrics.durability ∧
      (s.metrics.unpersistedRecordCount = 0 ↔ s.metrics.oldestUnpersistedAgeNs = none) := by
  rw [Checks.run_eq_ok, WorkerSnapshot.checks, List.forall_mem_append] at h
  obtain ⟨-, hmetrics⟩ := h
  rw [MetricsSnapshot.checks, List.forall_mem_append, List.forall_mem_append] at hmetrics
  obtain ⟨⟨hgauges, hhistogram⟩, -⟩ := hmetrics
  refine ⟨run_histogramChecks.mp (Checks.run_eq_ok.mpr hhistogram), ?_⟩
  simp only [MetricsSnapshot.gaugeChecks, List.forall_mem_cons, decide_eq_true_eq] at hgauges
  obtain ⟨-, -, -, -, -, -, -, -, -, -, -, -, hage, -⟩ := hgauges
  rw [← Option.isNone_iff_eq_none, ← hage, decide_eq_true_eq]

/-- What the checks of a final snapshot say about it. -/
theorem of_finalChecks {m : MetricsSnapshot} (h : (finalChecks m).run = .ok ()) :
    m.acceptedRecordCount = m.durableRecordCount ∧
      m.durableRecordCount = m.durability.sampleCount ∧ m.unpersistedRecordCount = 0 ∧
      m.uncertainRecordCount = 0 := by
  rw [Checks.run_eq_ok] at h
  simp only [finalChecks, List.forall_mem_cons, decide_eq_true_eq, finalZeroFields, List.all_cons,
    Bool.and_eq_true] at h
  exact ⟨h.2.2.2.1.1, h.2.2.2.1.2, h.2.1.1, h.2.1.2.1⟩

theorem maximumOf_eq_zero_iff {xs : List Nat} : maximumOf xs = 0 ↔ ∀ x ∈ xs, x = 0 := by
  constructor
  · intro h x hx
    have := List.le_max?_getD_of_mem (k := 0) hx
    exact Nat.le_zero.mp (this.trans_eq h)
  · intro h
    unfold maximumOf
    cases hmax : xs.max? with
    | none => rfl
    | some m => exact h m (List.max?_eq_some_iff.mp hmax).1

/-- The peak of the unpersisted records is zero exactly when no age was observed. -/
theorem roundPeak_eq_zero_iff {rounds : List WorkerRound}
    (h : ∀ r ∈ rounds, ∀ m ∈ sampledMetrics r,
      m.unpersistedRecordCount = 0 ↔ m.oldestUnpersistedAgeNs = none) :
    roundPeak rounds (·.unpersistedRecordCount) = 0 ↔
      Storage.maximum ((rounds.flatMap sampledMetrics).map (·.oldestUnpersistedAgeNs)) = none := by
  rw [roundPeak, maximumOf_eq_zero_iff, Storage.maximum, List.max?_eq_none_iff,
    List.filterMap_eq_nil_iff, List.forall_mem_map, List.forall_mem_map]
  simp only [List.sum_eq_zero_iff, List.forall_mem_map, List.mem_flatMap, forall_exists_index,
    and_imp, id]
  constructor
  · intro hzero m r hr hm
    exact (h r hr m hm).mp (hzero r hr m hm)
  · intro hnone r hr m hm
    exact (h r hr m hm).mpr (hnone m r hr hm)

/-- The last snapshots are those of the final round. -/
theorem finalSnapshots_eq_ok {sequences : List (List WorkerSample)} {samples : List WorkerSample}
    (h : sequences.map List.getLast? = samples.map some) :
    finalSnapshots sequences = .ok (samples.map fun s => s.snapshot.metrics) := by
  induction sequences generalizing samples with
  | nil =>
    cases samples with
    | nil => rfl
    | cons s samples => cases h
  | cons sequence sequences ih =>
    cases samples with
    | nil => cases h
    | cons s samples =>
      rw [List.map_cons, List.map_cons, List.cons.injEq] at h
      rw [finalSnapshots, List.mapM_cons, h.1, ok_bind]
      exact congrArg (fun x => x >>= fun rest => pure (s.snapshot.metrics :: rest)) (ih h.2)

/-- The final snapshots of accepted rounds, with what their validation says. -/
structure FinalRound (rounds : List WorkerRound) (final : WorkerRound) : Prop where
  last : rounds.getLast? = some final
  index : final.roundIndex = rounds.length - 1
  agrees : ∀ m ∈ sampledMetrics final, HistogramAgrees m.durability
  closed : ∀ m ∈ sampledMetrics final, (finalChecks m).run = .ok ()
  ages : ∀ r ∈ rounds, ∀ m ∈ sampledMetrics r,
    m.unpersistedRecordCount = 0 ↔ m.oldestUnpersistedAgeNs = none

variable {L : JsonLibraries} {rounds : List WorkerRound} {expectedWorkers : List WorkerKey}
  {requireNonoverlap : Bool} {v : ValidatedWorkerSequences}

theorem exists_finalRound (hL : Distinguishes L)
    (h : validateWorkerRounds L rounds expectedWorkers requireNonoverlap = .ok v) :
    ∃ final, FinalRound rounds final ∧
      finalSnapshots v.workerSequences = .ok (sampledMetrics final) := by
  obtain ⟨-, init, final, rfl, haccepted⟩ := (exists_validated_iff hL).mp ⟨v, h⟩
  have hvalid : ∀ r ∈ init ++ [final], r.checks.run = .ok () := by
    intro r hr
    rcases List.mem_append.mp hr with hr | hr
    · exact (haccepted.earlier r hr).valid
    · exact List.mem_singleton.mp hr ▸ haccepted.last.valid
  have hsnapshot (r : WorkerRound) (hr : r ∈ init ++ [final]) :
      ∀ m ∈ sampledMetrics r, HistogramAgrees m.durability ∧
        (m.unpersistedRecordCount = 0 ↔ m.oldestUnpersistedAgeNs = none) := by
    refine List.forall_mem_map.mpr fun s hs => of_snapshotChecks ?_
    exact (of_sampleChecks ((validRound_of_checks (hvalid r hr)).samples s hs)).1
  have hfinal : final ∈ init ++ [final] := by simp
  refine ⟨final, ⟨List.getLast?_concat, ?_, fun m hm => (hsnapshot final hfinal m hm).1,
    List.forall_mem_map.mpr fun s hs => haccepted.last.final rfl s hs,
    fun r hr m hm => (hsnapshot r hr m hm).2⟩, ?_⟩
  · have hindex := haccepted.indices (final, init.length) (by simp [List.zipIdx_append])
    simpa using hindex
  · obtain ⟨-, -, scan, hscan, rfl⟩ := of_validateWorkerRounds h
    have hlasts := (workersScanned_foldlM workersScanned_nil hscan).lasts
    rw [List.nil_append, List.getLast?_concat] at hlasts
    exact finalSnapshots_eq_ok hlasts

/-- The aggregate of the final round passes its validation. -/
theorem aggregateOf_valid {final : WorkerRound} (hfinal : FinalRound rounds final)
    {p50 p95 p99 : Option Nat}
    (hfields : FieldsAgree (bucketSums ((sampledMetrics final).map (·.durability.bucketCounts)))
      ((sampledMetrics final).map (·.durability.sampleCount)).sum p50 p95 p99
      (Storage.maximum ((sampledMetrics final).map (·.durability.lagMaxNs)))) :
    (aggregateOf rounds (sampledMetrics final) p50 p95 p99).validate = .ok () := by
  have hclosed := fun m hm => of_finalChecks (hfinal.closed m hm)
  have hsums : ((sampledMetrics final).map (·.acceptedRecordCount)).sum =
      ((sampledMetrics final).map (·.durableRecordCount)).sum :=
    congrArg List.sum (List.map_congr_left fun m hm => (hclosed m hm).1)
  have hsums' : ((sampledMetrics final).map (·.durableRecordCount)).sum =
      ((sampledMetrics final).map (·.durability.sampleCount)).sum :=
    congrArg List.sum (List.map_congr_left fun m hm => (hclosed m hm).2.1)
  have hunpersisted : ((sampledMetrics final).map (·.unpersistedRecordCount)).sum = 0 := by
    rw [List.sum_eq_zero_iff, List.forall_mem_map]
    exact fun m hm => (hclosed m hm).2.2.1
  have huncertain : ((sampledMetrics final).map (·.uncertainRecordCount)).sum = 0 := by
    rw [List.sum_eq_zero_iff, List.forall_mem_map]
    exact fun m hm => (hclosed m hm).2.2.2
  have hne : rounds.length ≠ 0 := by
    intro hzero
    have hlast := hfinal.last
    rw [List.length_eq_zero_iff.mp hzero] at hlast
    cases hlast
  unfold WorkerAggregate.validate aggregateOf
  dsimp only
  rw [hfinal.last, hsums, hsums', hunpersisted, huncertain]
  simp only [throw_bind_eq_ok, check_bind_eq_ok, validateFields_eq_ok, throw_eq_ok, Option.map_some,
    Option.getD_some, not_not]
  exact ⟨by simp, hne, by simp, hfinal.index, by simp, by simp, hfields,
    roundPeak_eq_zero_iff hfinal.ages⟩

/-! ## What the aggregate reports -/

/-- An aggregate reports a histogram: its buckets, quantiles, maximum and counters. -/
structure WorkerAggregate.Reports (a : WorkerAggregate) (h : Histogram) : Prop where
  buckets : a.durabilityBucketCounts = h.bucketCounts
  p50 : nearestRank h.bucketCounts h.sampleCount 50 = .ok a.durabilityLagP50Ns
  p95 : nearestRank h.bucketCounts h.sampleCount 95 = .ok a.durabilityLagP95Ns
  p99 : nearestRank h.bucketCounts h.sampleCount 99 = .ok a.durabilityLagP99Ns
  maximum : a.durabilityLagMaxNs = h.lagMaxNs
  samples : a.durabilitySampleCount = h.sampleCount
  accepted : a.acceptedRecordCount = h.sampleCount
  durable : a.durableRecordCount = h.sampleCount

theorem exists_aggregate (hL : Distinguishes L)
    (h : validateWorkerRounds L rounds expectedWorkers requireNonoverlap = .ok v) :
    ∃ final p50 p95 p99, FinalRound rounds final ∧
      finalSnapshots v.workerSequences = .ok (sampledMetrics final) ∧
      FieldsAgree (bucketSums ((sampledMetrics final).map (·.durability.bucketCounts)))
        ((sampledMetrics final).map (·.durability.sampleCount)).sum p50 p95 p99
        (Storage.maximum ((sampledMetrics final).map (·.durability.lagMaxNs))) ∧
      aggregateFinalWorkerSnapshots L v =
        .ok (aggregateOf rounds (sampledMetrics final) p50 p95 p99) := by
  obtain ⟨final, hfinal, hsnapshots⟩ := exists_finalRound hL h
  have hagrees : ∀ s ∈ (sampledMetrics final).map (·.durability), HistogramAgrees s :=
    List.forall_mem_map.mpr hfinal.agrees
  obtain ⟨p50, p95, p99, hfields⟩ := exists_fieldsAgree_bucketSums hagrees
  rw [List.map_map, List.map_map, List.map_map] at hfields
  refine ⟨final, p50, p95, p99, hfinal, hsnapshots, hfields, ?_⟩
  obtain ⟨rfl, -, scan, -, hv⟩ := of_validateWorkerRounds h
  have hagain : validateWorkerRounds L v.rounds v.expectedWorkers v.requireNonoverlap = .ok v := by
    rw [hv] at h ⊢
    exact h
  have hrounds : v.rounds = rounds := by rw [hv]
  have hrank (percent : Nat) (q : Option Nat) (hq : nearestRank
      (bucketSums ((sampledMetrics final).map (·.durability.bucketCounts)))
      ((sampledMetrics final).map (·.durability.sampleCount)).sum percent = .ok q) :
      aggregateNearestRank
        (bucketSums ((sampledMetrics final).map (·.durability.bucketCounts))) percent = .ok q := by
    rw [aggregateNearestRank, nearestRankOr_ok_iff]
    exact hfields.sum.symm ▸ hq
  unfold aggregateFinalWorkerSnapshots
  rw [hagain, ok_bind, hsnapshots, ok_bind]
  dsimp only
  rw [hrank 50 _ hfields.p50, ok_bind, hrank 95 _ hfields.p95, ok_bind, hrank 99 _ hfields.p99,
    ok_bind, hrounds]
  exact check_bind_eq_ok.mpr ⟨aggregateOf_valid hfinal hfields, rfl⟩

/-- Accepted rounds have an aggregate that passes its validation. When the final snapshots hold
some lags, it reports one histogram of all of them. Rounds before the final one can be left out. -/
theorem aggregate_of_validated (hL : Distinguishes L)
    (h : validateWorkerRounds L rounds expectedWorkers requireNonoverlap = .ok v) :
    (∃ a, aggregateFinalWorkerSnapshots L v = .ok a ∧ a.validate = .ok () ∧
      ∀ snapshots lags, finalSnapshots v.workerSequences = .ok snapshots →
        List.Forall₂ (fun m l => HistogramHolds m.durability l) snapshots lags →
        ∃ h, Histogram.ofLags lags.flatten = .ok h ∧ a.Reports h) ∧
    ∀ thin : List WorkerRound, thin.Sublist rounds → thin.getLast? = rounds.getLast? →
      ∃ v', validateWorkerRounds L (reindexed thin) expectedWorkers requireNonoverlap = .ok v' := by
  refine ⟨?_, fun thin hthin hlast => exists_validated_reindexed hL h hthin hlast⟩
  obtain ⟨final, p50, p95, p99, hfinal, hsnapshots, hfields, haggregate⟩ := exists_aggregate hL h
  refine ⟨_, haggregate, aggregateOf_valid hfinal hfields, fun snapshots lags hok hholds => ?_⟩
  obtain rfl : sampledMetrics final = snapshots := Except.ok.inj (hsnapshots.symm.trans hok)
  obtain ⟨merged, hadd, hbuckets, hsamples, hmax⟩ :=
    exists_ofLags_flatten (List.forall₂_map_left_iff.mpr hholds)
  rw [List.map_map] at hbuckets hsamples hmax
  refine ⟨merged, hadd, ?_⟩
  have hclosed := fun m hm => of_finalChecks (hfinal.closed m hm)
  have hdurable : ((sampledMetrics final).map (·.durableRecordCount)).sum = merged.sampleCount :=
    (congrArg List.sum (List.map_congr_left fun m hm => (hclosed m hm).2.1)).trans hsamples
  have haccepted : ((sampledMetrics final).map (·.acceptedRecordCount)).sum =
      merged.sampleCount :=
    (congrArg List.sum (List.map_congr_left fun m hm => (hclosed m hm).1)).trans hdurable
  have hfields' := hfields
  rw [show bucketSums ((sampledMetrics final).map (·.durability.bucketCounts)) =
    merged.bucketCounts from hbuckets, show ((sampledMetrics final).map
      (·.durability.sampleCount)).sum = merged.sampleCount from hsamples] at hfields'
  exact ⟨hbuckets, hfields'.p50, hfields'.p95, hfields'.p99, hmax, hsamples, haccepted, hdurable⟩

/-! ## Two rounds -/

/-- A configuration hash. -/
def benchConfig : String := "aaaaaaaaaaaaaaaaaaaaaaaaaaaaaaaaaaaaaaaaaaaaaaaaaaaaaaaaaaaaaaaa"

/-- The counts of one lag of at most a tenth of a millisecond. -/
def oneLagCounts : List Nat := 0 :: 1 :: List.replicate 20 0

/-- The histogram of one lag of a tenth of a millisecond. -/
def oneLag : HistogramSnapshot :=
  ⟨oneLagCounts, 1, 100000, some 100000, some 100000, some 100000, some 100000⟩

/-- The histogram of no lag. -/
def noLag : HistogramSnapshot := ⟨List.replicate 22 0, 0, 0, none, none, none, none⟩

/-- The metrics of a worker whose only record is still queued. -/
def queuedMetrics : MetricsSnapshot :=
  { observedMonotonicNs := 10, configSha256 := benchConfig, configGeneration := 0
    lifecycle := .accepting, admission := .opened, publication := .idle, criticalReason := none
    acceptanceOrdinalHighWater := some 0, acceptedRecordCount := 1, durableRecordCount := 0
    unpersistedRecordCount := 1, uncertainRecordCount := 0, queuedRecords := 1, queuedBytes := 100
    bufferedRecords := 0, bufferedBytes := 0, inFlightRecords := 0, inFlightBytes := 0
    residentRecordBytes := 100, residentControlRecords := 0, residentControlBytes := 0
    oldestUnpersistedAgeNs := some 7, enqueueHighWaterCount := 0, normalOverflowCount := 0
    controlOverflowCount := 0, notAcceptingCount := 0, activeLogicalGenerationCount := 1
    retiringGenerationCount := 0, openFileDescriptorCount := 1, syncInflight := 0
    durability := noLag, durabilityHistogramSeries := [], syncCount := 0, syncDurationTotalNs := 0
    syncDurationMaxNs := 0, sloBreachCount := 0, writeFailureCount := 0, syncFailureCount := 0
    publicationFailureCount := 0 }

/-- The metrics of a worker that is closed after it has made its only record durable. -/
def closedMetrics : MetricsSnapshot :=
  { queuedMetrics with
    observedMonotonicNs := 20, lifecycle := .closed, admission := .closed, durableRecordCount := 1
    unpersistedRecordCount := 0, queuedRecords := 0, queuedBytes := 0, residentRecordBytes := 0
    oldestUnpersistedAgeNs := none, activeLogicalGenerationCount := 0
    openFileDescriptorCount := 0, durability := oneLag
    durabilityHistogramSeries := [⟨some .spot, "trade", oneLagCounts, 1, some 100000, some 100000,
      some 100000, some 100000⟩]
    syncCount := 1, syncDurationTotalNs := 5, syncDurationMaxNs := 5 }

/-- A round in which every worker has some metrics. -/
def uniformRound (index : Nat) (kind : String) (scheduled : Nat) (metrics : MetricsSnapshot) :
    WorkerRound where
  roundIndex := index
  roundKind := kind
  scheduledMonotonicNs := scheduled
  expectedWorkerKeys := canonicalWorkerPairs
  samples := canonicalWorkerPairs.map fun key =>
    ⟨index, kind, scheduled, scheduled + 1, scheduled + 2,
      ⟨key.exchange, key.workerInstanceId, 1, metrics⟩⟩

/-- A round before the workers are closed and the final one. -/
def twoRounds : List WorkerRound :=
  [uniformRound 0 "periodic" 100 queuedMetrics, uniformRound 1 "final" 200 closedMetrics]

theorem queuedMetrics_grows : Grows queuedMetrics closedMetrics :=
  growthChecks_iff.mp (by decide +kernel)

theorem queuedMetrics_progress (key : WorkerKey) :
    Progress compactLibraries ⟨key.exchange, key.workerInstanceId, 1, queuedMetrics⟩
      ⟨key.exchange, key.workerInstanceId, 1, closedMetrics⟩ where
  critical := nofun
  observed := show 10 ≤ 20 by decide
  same := nofun
  grows := queuedMetrics_grows

theorem twoRounds_accepted : ∃ v,
    validateWorkerRounds compactLibraries twoRounds canonicalWorkerPairs true = .ok v := by
  have hqueued : (uniformRound 0 "periodic" 100 queuedMetrics).checks.run = .ok () := by
    decide +kernel
  have hclosed : (uniformRound 1 "final" 200 closedMetrics).checks.run = .ok () := by
    decide +kernel
  rw [exists_validated_iff compactLibraries_distinguishes]
  refine ⟨rfl, [uniformRound 0 "periodic" 100 queuedMetrics],
    uniformRound 1 "final" 200 closedMetrics, rfl, by decide, ?_, ?_, ?_⟩
  · rw [List.forall_mem_singleton]
    exact ⟨by decide, fun _ => by decide, nofun, hqueued⟩
  · exact ⟨by decide, nofun, fun _ => by decide, hclosed⟩
  · refine .cons_cons ⟨hqueued, hclosed, by decide, ?_, fun _ => by decide⟩ (.singleton _)
    rw [uniformRound, uniformRound, List.forall₂_map_left_iff, List.forall₂_map_right_iff,
      List.forall₂_same]
    exact fun key _ => ⟨show 101 < 201 by decide, rfl, rfl, rfl, rfl, queuedMetrics_progress key⟩

theorem closedMetrics_holds : HistogramHolds closedMetrics.durability [100000] :=
  ⟨⟨oneLagCounts, 1, 100000, some 100000⟩, by decide, rfl, rfl, rfl⟩

theorem aggregate_of_twoRounds : ∃ v a h,
    validateWorkerRounds compactLibraries twoRounds canonicalWorkerPairs true = .ok v ∧
      aggregateFinalWorkerSnapshots compactLibraries v = .ok a ∧
      Histogram.ofLags [100000, 100000, 100000, 100000, 100000] = .ok h ∧ a.Reports h ∧
      ∃ v', validateWorkerRounds compactLibraries
        (reindexed [uniformRound 1 "final" 200 closedMetrics]) canonicalWorkerPairs true =
          .ok v' := by
  obtain ⟨v, hv⟩ := twoRounds_accepted
  obtain ⟨final, hfinal, hsnapshots⟩ := exists_finalRound compactLibraries_distinguishes hv
  obtain rfl : uniformRound 1 "final" 200 closedMetrics = final := Option.some.inj hfinal.last
  obtain ⟨⟨a, haggregate, -, hreports⟩, hthin⟩ :=
    aggregate_of_validated compactLibraries_distinguishes hv
  have hholds : List.Forall₂ (fun m l => HistogramHolds m.durability l)
      (List.replicate 5 closedMetrics) (List.replicate 5 [100000]) :=
    .cons closedMetrics_holds <| .cons closedMetrics_holds <| .cons closedMetrics_holds <|
      .cons closedMetrics_holds <| .cons closedMetrics_holds .nil
  obtain ⟨h, hadd, hreport⟩ := hreports _ _ hsnapshots hholds
  exact ⟨v, a, h, hv, haggregate, hadd, hreport, hthin _ (.cons _ (.refl _)) rfl⟩

end CryptoCollector.Benchmarks
