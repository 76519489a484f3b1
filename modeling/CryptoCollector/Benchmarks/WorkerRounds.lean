import CryptoCollector.Benchmarks.Progression

/-!
# Worker rounds

`benchmarks/contracts.py: GateWorkerKeyV1, GateWorkerSampleV1, GateSamplingRoundV1` with their
validation, and `validate_worker_rounds` of `benchmarks/aggregation.py`. Which rounds are accepted
is said without the loop: each of them is sound by itself (`Sound`), and each follows the one
before it (`Follows`).

* `exists_validated_iff`: the rounds that `validate_worker_rounds` accepts.
* `Follows.trans`: rounds between two others can be left out.
-/

namespace CryptoCollector.Benchmarks

open Lib Storage

/-- `GateWorkerKeyV1`: the pair of an exchange and a worker, as in `_worker_pairs`. -/
structure WorkerKey where
  exchange : Exchange
  workerInstanceId : String
  deriving DecidableEq

/-- The validation of `GateWorkerKeyV1`. -/
def WorkerKey.checks (k : WorkerKey) : Checks :=
  [(k.workerInstanceId ≠ "", "String should have at least 1 character"),
    (k.workerInstanceId = workerInstanceIdOf k.exchange,
      "worker instance ID does not match its exchange")]

/-- `_canonical_worker_pairs`. -/
def canonicalWorkerPairs : List WorkerKey :=
  canonicalExchanges.map fun exchange => ⟨exchange, workerInstanceIdOf exchange⟩

/-- The worker of a snapshot. -/
def WorkerSnapshot.key (s : WorkerSnapshot) : WorkerKey := ⟨s.exchange, s.workerInstanceId⟩

/-- `GateWorkerSampleV1`. -/
structure WorkerSample where
  roundIndex : Nat
  roundKind : String
  scheduledMonotonicNs : Nat
  requestStartedMonotonicNs : Nat
  requestCompletedMonotonicNs : Nat
  snapshot : WorkerSnapshot

/-- The validation of `GateWorkerSampleV1`. -/
def WorkerSample.checks (s : WorkerSample) : Checks :=
  s.snapshot.checks ++
    ([(s.roundKind ≠ "", "String should have at least 1 character"),
      (s.scheduledMonotonicNs ≤ s.requestStartedMonotonicNs &&
        s.requestStartedMonotonicNs ≤ s.requestCompletedMonotonicNs,
        "worker sample request timing is invalid"),
      (s.snapshot.workerInstanceId = workerInstanceIdOf s.snapshot.exchange,
        "worker snapshot identity is not canonical"),
      (s.roundKind ≠ "final" || s.snapshot.metrics.lifecycle = .closed,
        "final worker sample requires a CLOSED snapshot")] : Checks)

/-- `GateSamplingRoundV1`. -/
structure WorkerRound where
  roundIndex : Nat
  roundKind : String
  scheduledMonotonicNs : Nat
  expectedWorkerKeys : List WorkerKey
  samples : List WorkerSample

namespace WorkerRound

/-- Whether a sample repeats the facts of its round. -/
def isParentOf (r : WorkerRound) (s : WorkerSample) : Bool :=
  s.roundIndex = r.roundIndex && s.roundKind = r.roundKind &&
    s.scheduledMonotonicNs = r.scheduledMonotonicNs

/-- The validation of `GateSamplingRoundV1`. -/
def checks (r : WorkerRound) : Checks :=
  r.expectedWorkerKeys.flatMap WorkerKey.checks ++ r.samples.flatMap WorkerSample.checks ++
    ([(r.roundKind ≠ "", "String should have at least 1 character"),
      (r.expectedWorkerKeys = canonicalWorkerPairs,
        "sampling round must declare five canonical workers"),
      (r.samples.map (fun s => s.snapshot.key) = r.expectedWorkerKeys,
        "sampling round must contain one ordered sample per worker"),
      (r.samples.all r.isParentOf, "worker sample parent fields do not match their round")] : Checks)

/-- `interval_start` and `interval_end`. -/
def interval (r : WorkerRound) : Option (Nat × Nat) :=
  match (r.samples.map WorkerSample.requestStartedMonotonicNs).min?,
    (r.samples.map WorkerSample.requestCompletedMonotonicNs).max? with
  | some start, some finish => some (start, finish)
  | _, _ => none

end WorkerRound

/-- `_FINAL_ZERO_FIELDS`. -/
def finalZeroFields (s : MetricsSnapshot) : List Nat :=
  [s.unpersistedRecordCount, s.uncertainRecordCount, s.queuedRecords, s.queuedBytes,
    s.bufferedRecords, s.bufferedBytes, s.inFlightRecords, s.inFlightBytes, s.residentRecordBytes,
    s.residentControlRecords, s.residentControlBytes, s.activeLogicalGenerationCount,
    s.retiringGenerationCount, s.openFileDescriptorCount, s.syncInflight]

/-- `_validate_final_snapshot`. -/
def finalChecks (s : MetricsSnapshot) : Checks :=
  [(s.lifecycle = .closed ∧ s.admission = .closed ∧ s.publication = .idle ∧
      s.criticalReason = none, "final worker snapshot is not in the CLOSED barrier state"),
    ((finalZeroFields s).all (· = 0), "final worker snapshot has a nonzero terminal gauge"),
    (s.oldestUnpersistedAgeNs = none, "final worker snapshot retains an oldest unpersisted age"),
    (s.acceptedRecordCount = s.durableRecordCount ∧
      s.durableRecordCount = s.durability.sampleCount,
      "final worker snapshot counts do not agree")]

/-! ## The loop -/

/-- The comparison of a sample with the last one of its worker. -/
def compareSamples (L : JsonLibraries) (prior s : WorkerSample) : Except Err Unit := do
  if s.requestStartedMonotonicNs ≤ prior.requestStartedMonotonicNs then
    throw (.valueError "worker request start time did not increase")
  if s.snapshot.key ≠ prior.snapshot.key then throw (.valueError "worker identity was replaced")
  if s.snapshot.metrics.configSha256 ≠ prior.snapshot.metrics.configSha256 ∨
      s.snapshot.metrics.configGeneration ≠ prior.snapshot.metrics.configGeneration then
    throw (.valueError "worker config changed during sampling")
  if s.snapshot.durabilityHistogramSchemaVersion ≠
      prior.snapshot.durabilityHistogramSchemaVersion then
    throw (.valueError "worker histogram schema changed")
  validateSnapshotProgression L prior.snapshot s.snapshot

/-- `_validate_final_snapshot`, in the last round. -/
def checkFinal (final : Bool) (s : WorkerSample) : Except Err Unit :=
  if final then (finalChecks s.snapshot.metrics).run else .ok ()

/-- The comparison with the last sample of the worker, if there is one. -/
def comparePrior (L : JsonLibraries) (prior : Option WorkerSample) (s : WorkerSample) :
    Except Err Unit :=
  match prior with
  | some prior => compareSamples L prior s
  | none => .ok ()

/-- One sample of a round. -/
def checkSample (L : JsonLibraries) (final : Bool) (r : WorkerRound) (prior : Option WorkerSample)
    (s : WorkerSample) : Except Err Unit := do
  if ¬ r.isParentOf s then throw (.valueError "worker sample parent round facts changed")
  if ¬ (r.scheduledMonotonicNs ≤ s.requestStartedMonotonicNs ∧
      s.requestStartedMonotonicNs ≤ s.requestCompletedMonotonicNs) then
    throw (.valueError "worker sample request timing is invalid")
  if ¬ final ∧ s.snapshot.metrics.lifecycle = .closed then
    throw (.valueError "a non-final worker sample cannot already be CLOSED")
  checkFinal final s
  comparePrior L prior s
  revalidate s.snapshot.checks "worker snapshot" "WriterMetricsSnapshotV1"
  revalidate s.checks "worker sample" "GateWorkerSampleV1"

/-- What the loop over the rounds changes. -/
structure WorkerScan where
  sequences : List (List WorkerSample)
  previousScheduled : Option Nat := none
  previousIntervalEnd : Option Nat := none

/-- One round of the loop, after its samples. -/
def closeWorkerRound (requireNonoverlap : Bool) (scan : WorkerScan) (r : WorkerRound) :
    Except Err WorkerScan :=
  match r.interval with
  | none => .error (.assertionError "")
  | some (start, finish) => do
    if requireNonoverlap ∧ ∃ finish ∈ scan.previousIntervalEnd, start < finish then
      throw (.valueError "worker sampling round intervals overlap")
    revalidate r.checks "worker round" "GateSamplingRoundV1"
    pure
      { sequences := List.zipWith (fun sequence s => sequence ++ [s]) scan.sequences r.samples
        previousScheduled := some r.scheduledMonotonicNs
        previousIntervalEnd := some finish }

/-- One round of the loop of `validate_worker_rounds`, with the index that the round must have. -/
def workerRoundStep (L : JsonLibraries) (workers : List WorkerKey) (lastIndex : Nat)
    (requireNonoverlap : Bool) (scan : WorkerScan) (indexed : WorkerRound × Nat) :
    Except Err WorkerScan := do
  let r := indexed.1
  if r.roundIndex ≠ indexed.2 then
    throw (.valueError "worker round indices must be zero-based and consecutive")
  if ¬ (indexed.2 = lastIndex ↔ r.roundKind = "final") then
    throw (.valueError "exactly the final worker round must have kind final")
  if ∃ previous ∈ scan.previousScheduled, r.scheduledMonotonicNs ≤ previous then
    throw (.valueError "worker round scheduled time must strictly increase")
  if r.expectedWorkerKeys ≠ workers then
    throw (.valueError "worker round expected workers changed")
  if r.samples.length ≠ workers.length then
    throw (.valueError "worker round has a missing or extra worker sample")
  if r.samples.map (fun s => s.snapshot.key) ≠ workers then
    throw (.valueError "worker round samples are missing, duplicate, or replaced")
  ((scan.sequences.map List.getLast?).zip r.samples).forM fun x =>
    checkSample L (indexed.2 = lastIndex) r x.1 x.2
  closeWorkerRound requireNonoverlap scan r

/-- `ValidatedWorkerSequences`. -/
structure ValidatedWorkerSequences where
  expectedWorkers : List WorkerKey
  rounds : List WorkerRound
  workerSequences : List (List WorkerSample)
  requireNonoverlap : Bool

/-- `_validate_expected_workers`. -/
def validateExpectedWorkers (expectedWorkers : List WorkerKey) : Except Err (List WorkerKey) := do
  if expectedWorkers ≠ canonicalWorkerPairs then
    throw (.valueError "expected workers must be the five canonical workers")
  expectedWorkers.forM fun key => revalidate key.checks "expected worker" "GateWorkerKeyV1"
  pure expectedWorkers

/-- `validate_worker_rounds`. -/
def validateWorkerRounds (L : JsonLibraries) (rounds : List WorkerRound)
    (expectedWorkers : List WorkerKey) (requireNonoverlap : Bool) :
    Except Err ValidatedWorkerSequences := do
  let workers ← validateExpectedWorkers expectedWorkers
  if rounds.isEmpty then throw (.valueError "worker sampling rounds cannot be empty")
  let scan ← rounds.zipIdx.foldlM
    (workerRoundStep L workers (rounds.length - 1) requireNonoverlap)
    { sequences := List.replicate workers.length [] }
  pure ⟨workers, rounds, scan.sequences, requireNonoverlap⟩

/-! ## Rounds that follow each other -/

/-- What a round must satisfy by itself. -/
structure Sound (final : Bool) (r : WorkerRound) : Prop where
  kind : final = true ↔ r.roundKind = "final"
  lifecycle : final = false → ∀ s ∈ r.samples, s.snapshot.metrics.lifecycle ≠ .closed
  final : final = true → ∀ s ∈ r.samples, (finalChecks s.snapshot.metrics).run = .ok ()
  valid : r.checks.run = .ok ()

/-- A sample follows the one before it. -/
structure SampleFollows (L : JsonLibraries) (prior s : WorkerSample) : Prop where
  started : prior.requestStartedMonotonicNs < s.requestStartedMonotonicNs
  key : s.snapshot.key = prior.snapshot.key
  configSha256 : s.snapshot.metrics.configSha256 = prior.snapshot.metrics.configSha256
  configGeneration : s.snapshot.metrics.configGeneration = prior.snapshot.metrics.configGeneration
  schema : s.snapshot.durabilityHistogramSchemaVersion =
    prior.snapshot.durabilityHistogramSchemaVersion
  progress : Progress L prior.snapshot s.snapshot

/-- A valid round follows a valid round. -/
structure Follows (L : JsonLibraries) (requireNonoverlap : Bool) (prior r : WorkerRound) :
    Prop where
  left : prior.checks.run = .ok ()
  right : r.checks.run = .ok ()
  scheduled : prior.scheduledMonotonicNs < r.scheduledMonotonicNs
  samples : List.Forall₂ (SampleFollows L) prior.samples r.samples
  interval : requireNonoverlap = true → ∀ i ∈ prior.interval, ∀ j ∈ r.interval, i.2 ≤ j.1

theorem SampleFollows.trans {L : JsonLibraries} {a b c : WorkerSample}
    (hab : SampleFollows L a b) (hbc : SampleFollows L b c) : SampleFollows L a c where
  started := hab.started.trans hbc.started
  key := hbc.key.trans hab.key
  configSha256 := hbc.configSha256.trans hab.configSha256
  configGeneration := hbc.configGeneration.trans hab.configGeneration
  schema := hbc.schema.trans hab.schema
  progress := hab.progress.trans hbc.progress

/-- What the validation of a round says about it. -/
structure ValidRound (r : WorkerRound) : Prop where
  keys : r.expectedWorkerKeys = canonicalWorkerPairs
  observed : r.samples.map (fun s => s.snapshot.key) = canonicalWorkerPairs
  parents : ∀ s ∈ r.samples, r.isParentOf s = true
  samples : ∀ s ∈ r.samples, s.checks.run = .ok ()

theorem validRound_of_checks {r : WorkerRound} (h : r.checks.run = .ok ()) : ValidRound r := by
  rw [Checks.run_eq_ok, WorkerRound.checks, List.forall_mem_append, List.forall_mem_append] at h
  obtain ⟨⟨-, hsamples⟩, hround⟩ := h
  simp only [List.forall_mem_cons, List.not_mem_nil, false_implies, implies_true, and_true,
    decide_eq_true_eq, List.all_eq_true] at hround
  obtain ⟨-, hkeys, hobserved, hparents⟩ := hround
  refine ⟨hkeys, hobserved.trans hkeys, hparents, fun s hs => Checks.run_eq_ok.mpr fun c hc => ?_⟩
  exact hsamples c (List.mem_flatMap.mpr ⟨s, hs, hc⟩)

theorem ValidRound.length {r : WorkerRound} (h : ValidRound r) : r.samples.length = 5 := by
  have := congrArg List.length h.observed
  rwa [List.length_map] at this

/-- What the validation of a sample says about it. -/
theorem of_sampleChecks {s : WorkerSample} (h : s.checks.run = .ok ()) :
    s.snapshot.checks.run = .ok () ∧ s.scheduledMonotonicNs ≤ s.requestStartedMonotonicNs ∧
      s.requestStartedMonotonicNs ≤ s.requestCompletedMonotonicNs := by
  rw [Checks.run_eq_ok, WorkerSample.checks, List.forall_mem_append] at h
  obtain ⟨hsnapshot, hsample⟩ := h
  simp only [List.forall_mem_cons, List.not_mem_nil, false_implies, implies_true, and_true,
    Bool.and_eq_true, decide_eq_true_eq] at hsample
  exact ⟨Checks.run_eq_ok.mpr hsnapshot, hsample.2.1⟩

/-- The interval of a round whose samples are there. -/
theorem exists_interval {r : WorkerRound} (h : ValidRound r) :
    ∃ start finish, r.interval = some (start, finish) ∧ start ≤ finish := by
  have hne : r.samples ≠ [] := by
    intro hnil
    have := h.length
    rw [hnil] at this
    cases this
  obtain ⟨start, hstart⟩ := Option.isSome_iff_exists.mp (List.isSome_min?_of_ne_nil
    (l := r.samples.map WorkerSample.requestStartedMonotonicNs) (by simpa using hne))
  obtain ⟨finish, hfinish⟩ := Option.isSome_iff_exists.mp (List.isSome_max?_of_ne_nil
    (l := r.samples.map WorkerSample.requestCompletedMonotonicNs) (by simpa using hne))
  refine ⟨start, finish, by rw [WorkerRound.interval, hstart, hfinish], ?_⟩
  obtain ⟨hmem, -⟩ := List.min?_eq_some_iff.mp hstart
  obtain ⟨-, hle⟩ := List.max?_eq_some_iff.mp hfinish
  obtain ⟨s, hs, rfl⟩ := List.mem_map.mp hmem
  obtain ⟨-, -, htiming⟩ := of_sampleChecks (h.samples s hs)
  exact htiming.trans (hle _ (List.mem_map_of_mem hs))

/-- A round between two others can be left out. -/
theorem Follows.trans {L : JsonLibraries} {requireNonoverlap : Bool} {a b c : WorkerRound}
    (hab : Follows L requireNonoverlap a b) (hbc : Follows L requireNonoverlap b c) :
    Follows L requireNonoverlap a c where
  left := hab.left
  right := hbc.right
  scheduled := hab.scheduled.trans hbc.scheduled
  samples := forall₂_trans (R := SampleFollows L) (fun _ _ _ => SampleFollows.trans) hab.samples hbc.samples
  interval hoverlap i hi j hj := by
    obtain ⟨start, finish, hb, hle⟩ := exists_interval (validRound_of_checks hab.right)
    have hbefore := hab.interval hoverlap i hi _ hb
    have hafter := hbc.interval hoverlap _ hb j hj
    exact (hbefore.trans hle).trans hafter

instance instTransFollows (L : JsonLibraries) (requireNonoverlap : Bool) :
    Trans (Follows L requireNonoverlap) (Follows L requireNonoverlap)
      (Follows L requireNonoverlap) := ⟨Follows.trans⟩

/-! ## The loop accepts rounds that follow each other -/

theorem compareSamples_eq_ok {L : JsonLibraries} (hL : Distinguishes L) {prior s : WorkerSample} :
    compareSamples L prior s = .ok () ↔ SampleFollows L prior s := by
  unfold compareSamples
  simp only [throw_bind_eq_ok, validateSnapshotProgression_eq_ok hL, not_le, not_not, not_or]
  constructor
  · rintro ⟨hstarted, hkey, ⟨hsha, hgeneration⟩, hschema, hprogress⟩
    exact ⟨hstarted, hkey, hsha, hgeneration, hschema, hprogress⟩
  · intro h
    exact ⟨h.started, h.key, ⟨h.configSha256, h.configGeneration⟩, h.schema, h.progress⟩

theorem comparePrior_eq_ok {L : JsonLibraries} (hL : Distinguishes L) {prior : Option WorkerSample}
    {s : WorkerSample} :
    comparePrior L prior s = .ok () ↔ ∀ p ∈ prior, SampleFollows L p s := by
  cases prior with
  | none => simp [comparePrior]
  | some p => simp [comparePrior, compareSamples_eq_ok hL]

theorem checkFinal_eq_ok {final : Bool} {s : WorkerSample} :
    checkFinal final s = .ok () ↔
      (final = true → (finalChecks s.snapshot.metrics).run = .ok ()) := by
  cases final <;> simp [checkFinal]

/-- A sample of a valid round is accepted when it suits the round and follows its prior sample. -/
theorem checkSample_eq_ok {L : JsonLibraries} (hL : Distinguishes L) {final : Bool}
    {r : WorkerRound} {prior : Option WorkerSample} {s : WorkerSample}
    (hparent : r.isParentOf s = true) (hvalid : s.checks.run = .ok ()) :
    checkSample L final r prior s = .ok () ↔
      (final = false → s.snapshot.metrics.lifecycle ≠ .closed) ∧
        (final = true → (finalChecks s.snapshot.metrics).run = .ok ()) ∧
        ∀ p ∈ prior, SampleFollows L p s := by
  obtain ⟨hsnapshot, hscheduled, htiming⟩ := of_sampleChecks hvalid
  have hparent' := hparent
  simp only [WorkerRound.isParentOf, Bool.and_eq_true, decide_eq_true_eq] at hparent'
  rw [hparent'.2] at hscheduled
  unfold checkSample
  simp only [throw_bind_eq_ok, check_bind_eq_ok, revalidate_eq_ok, hparent, hvalid, hsnapshot,
    hscheduled, htiming, checkFinal_eq_ok, comparePrior_eq_ok hL]
  simp

/-- The last sample of every worker after some rounds. -/
def lastSamples (last : Option WorkerRound) : List (Option WorkerSample) :=
  match last with
  | some p => p.samples.map some
  | none => List.replicate canonicalWorkerPairs.length none

/-- What the scan of some rounds knows about them. -/
structure WorkersScanned (done : List WorkerRound) (scan : WorkerScan) : Prop where
  lasts : scan.sequences.map List.getLast? = lastSamples done.getLast?
  scheduled : scan.previousScheduled = done.getLast?.map WorkerRound.scheduledMonotonicNs
  finish : scan.previousIntervalEnd = done.getLast?.bind fun p => p.interval.map Prod.snd
  valid : ∀ p ∈ done.getLast?, p.checks.run = .ok ()

theorem length_lastSamples {last : Option WorkerRound}
    (hvalid : ∀ p ∈ last, p.checks.run = .ok ()) : (lastSamples last).length = 5 := by
  cases last with
  | none => rfl
  | some p =>
    rw [lastSamples, List.length_map]
    exact (validRound_of_checks (hvalid p rfl)).length

/-- The samples of a round, each with the last sample of its worker. -/
theorem forall_zip_lastSamples {last : Option WorkerRound}
    (hvalid : ∀ p ∈ last, p.checks.run = .ok ()) {samples : List WorkerSample}
    (hlength : samples.length = 5) {P : WorkerSample → Prop}
    {R : WorkerSample → WorkerSample → Prop} :
    (∀ x ∈ (lastSamples last).zip samples, P x.2 ∧ ∀ p ∈ x.1, R p x.2) ↔
      (∀ s ∈ samples, P s) ∧ ∀ p ∈ last, List.Forall₂ R p.samples samples := by
  have hsame : (lastSamples last).length = samples.length :=
    (length_lastSamples hvalid).trans hlength.symm
  have hsamples : (∀ x ∈ (lastSamples last).zip samples, P x.2) ↔ ∀ s ∈ samples, P s := by
    rw [← List.forall_mem_map (f := Prod.snd), List.map_snd_zip hsame.ge]
  have hpriors : (∀ x ∈ (lastSamples last).zip samples, ∀ p ∈ x.1, R p x.2) ↔
      ∀ p ∈ last, List.Forall₂ R p.samples samples := by
    cases last with
    | none =>
      refine iff_of_true (fun x hx p hp => ?_) nofun
      have hnone := (List.of_mem_zip hx).1
      rw [lastSamples, List.mem_replicate] at hnone
      rw [hnone.2] at hp
      cases hp
    | some p =>
      rw [lastSamples, List.length_map] at hsame
      simp only [lastSamples, List.zip_map_left, List.forall_mem_map, Prod.map_fst, Prod.map_snd,
        Option.mem_some_iff, forall_eq', List.forall₂_iff_zip, hsame, true_and, Prod.forall, id]
  simp only [forall_and, hsamples, hpriors]

/-- The samples of a valid round are accepted when they suit the round and follow the samples of
the round before it. -/
theorem checkSamples_iff {L : JsonLibraries} (hL : Distinguishes L) {final : Bool}
    {last : Option WorkerRound} (hlast : ∀ p ∈ last, p.checks.run = .ok ()) {r : WorkerRound}
    (h : ValidRound r) :
    (∀ x ∈ (lastSamples last).zip r.samples, checkSample L final r x.1 x.2 = .ok ()) ↔
      (∀ s ∈ r.samples, (final = false → s.snapshot.metrics.lifecycle ≠ .closed) ∧
        (final = true → (finalChecks s.snapshot.metrics).run = .ok ())) ∧
      ∀ p ∈ last, List.Forall₂ (SampleFollows L) p.samples r.samples := by
  rw [← forall_zip_lastSamples hlast h.length]
  refine forall₂_congr fun x hx => ?_
  have hmem := (List.of_mem_zip hx).2
  rw [checkSample_eq_ok hL (h.parents _ hmem) (h.samples _ hmem), and_assoc]

/-- What a round leaves behind when it is accepted. -/
theorem of_closeWorkerRound {requireNonoverlap : Bool} {scan scan' : WorkerScan} {r : WorkerRound}
    (h : closeWorkerRound requireNonoverlap scan r = .ok scan') :
    r.checks.run = .ok () ∧
      (requireNonoverlap = true → ∀ previous ∈ scan.previousIntervalEnd, ∀ i ∈ r.interval,
        previous ≤ i.1) ∧
      scan' =
        { sequences := List.zipWith (fun sequence s => sequence ++ [s]) scan.sequences r.samples
          previousScheduled := some r.scheduledMonotonicNs
          previousIntervalEnd := r.interval.map Prod.snd } := by
  unfold closeWorkerRound at h
  cases hinterval : r.interval with
  | none =>
    rw [hinterval] at h
    cases h
  | some i =>
    obtain ⟨start, finish⟩ := i
    rw [hinterval] at h
    dsimp only at h
    rw [throw_bind_eq_ok, check_bind_eq_ok, revalidate_eq_ok] at h
    obtain ⟨hoverlap, hvalid, h⟩ := h
    cases h
    refine ⟨hvalid, fun hrequire previous hprevious j hj => ?_, rfl⟩
    obtain rfl := Option.mem_some_iff.mp hj
    exact not_lt.mp fun hlt => hoverlap ⟨hrequire, previous, hprevious, hlt⟩

theorem exists_closeWorkerRound {requireNonoverlap : Bool} {scan : WorkerScan} {r : WorkerRound}
    (hvalid : r.checks.run = .ok ())
    (hoverlap : requireNonoverlap = true → ∀ previous ∈ scan.previousIntervalEnd, ∀ i ∈ r.interval,
      previous ≤ i.1) :
    ∃ scan', closeWorkerRound requireNonoverlap scan r = .ok scan' := by
  obtain ⟨start, finish, hinterval, -⟩ := exists_interval (validRound_of_checks hvalid)
  unfold closeWorkerRound
  rw [hinterval]
  refine ⟨_, throw_bind_eq_ok.mpr ⟨?_, check_bind_eq_ok.mpr ⟨revalidate_eq_ok.mpr hvalid, rfl⟩⟩⟩
  rintro ⟨hrequire, previous, hprevious, hlt⟩
  exact absurd (hoverlap hrequire previous hprevious _ hinterval) (not_le.mpr hlt)

/-- A round of the loop is accepted when it has its index, is sound by itself and follows the round
before it. -/
theorem exists_step_iff {L : JsonLibraries} (hL : Distinguishes L) {lastIndex index : Nat}
    {requireNonoverlap : Bool} {done : List WorkerRound} {scan : WorkerScan}
    (hscan : WorkersScanned done scan) {r : WorkerRound} :
    (∃ scan', workerRoundStep L canonicalWorkerPairs lastIndex requireNonoverlap scan (r, index) =
        .ok scan') ↔
      r.roundIndex = index ∧ Sound (decide (index = lastIndex)) r ∧
        ∀ p ∈ done.getLast?, Follows L requireNonoverlap p r := by
  unfold workerRoundStep
  simp only [throw_bind_eq_ok, check_bind_eq_ok, forM_eq_ok, not_not, hscan.lasts, hscan.scheduled,
    exists_and_left]
  constructor
  · rintro ⟨hindex, hkind, hscheduled, -, -, -, hsamples, scan', hclose⟩
    obtain ⟨hvalid, hoverlap, -⟩ := of_closeWorkerRound hclose
    obtain ⟨hsuit, hfollow⟩ :=
      (checkSamples_iff hL hscan.valid (validRound_of_checks hvalid)).mp hsamples
    refine ⟨hindex, ⟨by simpa using hkind, fun h s hs => (hsuit s hs).1 h,
      fun h s hs => (hsuit s hs).2 h, hvalid⟩, fun p hp => ?_⟩
    refine ⟨hscan.valid p hp, hvalid, ?_, hfollow p hp, fun hrequire i hi j hj => ?_⟩
    · refine not_le.mp fun hle => hscheduled ⟨_, ?_, hle⟩
      exact Option.mem_map_of_mem _ hp
    · refine hoverlap hrequire i.2 ?_ j hj
      rw [hscan.finish]
      exact Option.mem_bind_iff.mpr ⟨p, hp, Option.mem_map_of_mem _ hi⟩
  · rintro ⟨hindex, hsound, hfollow⟩
    have hround := validRound_of_checks hsound.valid
    refine ⟨hindex, by simpa using hsound.kind, ?_, hround.keys, hround.length, hround.observed,
      ?_, exists_closeWorkerRound hsound.valid ?_⟩
    · rintro ⟨previous, hprevious, hle⟩
      obtain ⟨p, hp, rfl⟩ := Option.mem_map.mp hprevious
      exact absurd (hfollow p hp).scheduled (not_lt.mpr hle)
    · rw [checkSamples_iff hL hscan.valid hround]
      exact ⟨fun s hs => ⟨fun h => hsound.lifecycle h s hs, fun h => hsound.final h s hs⟩,
        fun p hp => (hfollow p hp).samples⟩
    · intro hrequire previous hprevious j hj
      rw [hscan.finish] at hprevious
      obtain ⟨p, hp, hmem⟩ := Option.mem_bind_iff.mp hprevious
      obtain ⟨i, hi, rfl⟩ := Option.mem_map.mp hmem
      exact (hfollow p hp).interval hrequire i hi j hj

theorem map_getLast?_zipWith_concat {α : Type} {xss : List (List α)} {ys : List α}
    (h : xss.length = ys.length) :
    (List.zipWith (fun xs y => xs ++ [y]) xss ys).map List.getLast? = ys.map some := by
  induction xss generalizing ys with
  | nil =>
    cases ys with
    | nil => rfl
    | cons y ys => simp at h
  | cons xs xss ih =>
    cases ys with
    | nil => simp at h
    | cons y ys => simp [ih (Nat.succ.inj h)]

/-- One more round is scanned. -/
theorem workersScanned_step {L : JsonLibraries} {lastIndex index : Nat} {requireNonoverlap : Bool}
    {done : List WorkerRound} {scan scan' : WorkerScan} (hscan : WorkersScanned done scan)
    {r : WorkerRound} (h : workerRoundStep L canonicalWorkerPairs lastIndex requireNonoverlap scan
      (r, index) = .ok scan') : WorkersScanned (done ++ [r]) scan' := by
  unfold workerRoundStep at h
  simp only [throw_bind_eq_ok, check_bind_eq_ok] at h
  obtain ⟨-, -, -, -, -, -, -, hclose⟩ := h
  obtain ⟨hvalid, -, rfl⟩ := of_closeWorkerRound hclose
  have hlength : scan.sequences.length = r.samples.length := by
    have hlasts := congrArg List.length hscan.lasts
    rw [List.length_map, length_lastSamples hscan.valid] at hlasts
    exact hlasts.trans (validRound_of_checks hvalid).length.symm
  constructor <;> rw [List.getLast?_concat]
  · exact map_getLast?_zipWith_concat hlength
  · rfl
  · rfl
  · rintro p hp
    rwa [← Option.mem_some_iff.mp hp]

/-- The loop accepts rounds that are sound and of which each follows the one before it. -/
theorem exists_scan_iff {L : JsonLibraries} (hL : Distinguishes L) {lastIndex : Nat}
    {requireNonoverlap : Bool} {done rest : List WorkerRound} {scan : WorkerScan}
    (hscan : WorkersScanned done scan) :
    (∃ scan', (rest.zipIdx done.length).foldlM
        (workerRoundStep L canonicalWorkerPairs lastIndex requireNonoverlap) scan = .ok scan') ↔
      (∀ x ∈ rest.zipIdx done.length, x.1.roundIndex = x.2 ∧
        Sound (decide (x.2 = lastIndex)) x.1) ∧
      (done.getLast?.toList ++ rest).IsChain (Follows L requireNonoverlap) := by
  induction rest generalizing done scan with
  | nil =>
    refine iff_of_true ⟨scan, rfl⟩ ⟨by simp, ?_⟩
    cases done.getLast? <;> simp
  | cons r rest ih =>
    rw [List.zipIdx_cons, List.forall_mem_cons]
    have hchain : (done.getLast?.toList ++ r :: rest).IsChain (Follows L requireNonoverlap) ↔
        (∀ p ∈ done.getLast?, Follows L requireNonoverlap p r) ∧
          (r :: rest).IsChain (Follows L requireNonoverlap) := by
      cases done.getLast? <;> simp
    have hnext {scan' : WorkerScan} (h : WorkersScanned (done ++ [r]) scan') := ih h
    simp only [List.length_append, List.length_singleton, List.getLast?_concat, Option.toList_some,
      List.singleton_append] at hnext
    rw [hchain]
    constructor
    · rintro ⟨scan'', h⟩
      obtain ⟨scan', hstep, hrest⟩ := bind_eq_ok.mp h
      obtain ⟨hindex, hsound, hfollow⟩ := (exists_step_iff hL hscan).mp ⟨scan', hstep⟩
      obtain ⟨hall, htail⟩ := (hnext (workersScanned_step hscan hstep)).mp ⟨scan'', hrest⟩
      exact ⟨⟨⟨hindex, hsound⟩, hall⟩, hfollow, htail⟩
    · rintro ⟨⟨⟨hindex, hsound⟩, hall⟩, hfollow, htail⟩
      obtain ⟨scan', hstep⟩ := (exists_step_iff hL hscan).mpr ⟨hindex, hsound, hfollow⟩
      obtain ⟨scan'', hrest⟩ := (hnext (workersScanned_step hscan hstep)).mpr ⟨hall, htail⟩
      exact ⟨scan'', bind_eq_ok.mpr ⟨scan', hstep, hrest⟩⟩

theorem workersScanned_foldlM {L : JsonLibraries} {lastIndex : Nat} {requireNonoverlap : Bool}
    {done rest : List WorkerRound} {scan scan' : WorkerScan} (hscan : WorkersScanned done scan)
    {index : Nat} (h : (rest.zipIdx index).foldlM
      (workerRoundStep L canonicalWorkerPairs lastIndex requireNonoverlap) scan = .ok scan') :
    WorkersScanned (done ++ rest) scan' := by
  induction rest generalizing done scan index with
  | nil =>
    cases h
    rwa [List.append_nil]
  | cons r rest ih =>
    obtain ⟨next, hstep, h⟩ := bind_eq_ok.mp h
    have := ih (workersScanned_step hscan hstep) h
    rwa [List.append_assoc] at this

/-! ## Accepted rounds -/

/-- What `validate_worker_rounds` demands of some rounds and a final one. -/
structure AcceptedRounds (L : JsonLibraries) (requireNonoverlap : Bool) (init : List WorkerRound)
    (final : WorkerRound) : Prop where
  indices : ∀ x ∈ (init ++ [final]).zipIdx, x.1.roundIndex = x.2
  earlier : ∀ r ∈ init, Sound false r
  last : Sound true final
  chain : (init ++ [final]).IsChain (Follows L requireNonoverlap)

theorem workersScanned_nil :
    WorkersScanned [] { sequences := List.replicate canonicalWorkerPairs.length [] } := by
  constructor
  · rfl
  · rfl
  · rfl
  · nofun

/-- Whether rounds are sound, when the last index is that of the final round. -/
theorem forall_sound_iff {init : List WorkerRound} {final : WorkerRound} :
    (∀ x ∈ (init ++ [final]).zipIdx, x.1.roundIndex = x.2 ∧
        Sound (decide (x.2 = init.length)) x.1) ↔
      (∀ x ∈ (init ++ [final]).zipIdx, x.1.roundIndex = x.2) ∧
        (∀ r ∈ init, Sound false r) ∧ Sound true final := by
  have hinit : (∀ x ∈ init.zipIdx, Sound (decide (x.2 = init.length)) x.1) ↔
      ∀ r ∈ init, Sound false r := by
    have hfst : (∀ r ∈ init, Sound false r) ↔ ∀ x ∈ init.zipIdx, Sound false x.1 := by
      rw [← List.forall_mem_map (f := Prod.fst), List.zipIdx_map_fst]
    rw [hfst]
    refine forall₂_congr fun x hx => ?_
    have hlt := (List.mem_zipIdx hx).2.1
    rw [decide_eq_false (by simpa using hlt.ne)]
  simp only [forall_and, List.zipIdx_append, List.forall_mem_append, hinit, List.zipIdx_cons,
    List.zipIdx_nil, List.forall_mem_singleton, Nat.zero_add, decide_true]

theorem validateExpectedWorkers_eq_ok {expectedWorkers workers : List WorkerKey} :
    validateExpectedWorkers expectedWorkers = .ok workers ↔
      expectedWorkers = canonicalWorkerPairs ∧ workers = canonicalWorkerPairs := by
  have hcanonical : canonicalWorkerPairs.forM
      (fun key => revalidate key.checks "expected worker" "GateWorkerKeyV1") = .ok () := by decide
  unfold validateExpectedWorkers
  rw [throw_bind_eq_ok, not_not, check_bind_eq_ok]
  constructor
  · rintro ⟨rfl, -, h⟩
    exact ⟨rfl, (Except.ok.inj h).symm⟩
  · rintro ⟨rfl, rfl⟩
    exact ⟨rfl, hcanonical, rfl⟩

/-- What `validate_worker_rounds` returns. -/
theorem of_validateWorkerRounds {L : JsonLibraries} {rounds : List WorkerRound}
    {expectedWorkers : List WorkerKey} {requireNonoverlap : Bool} {v : ValidatedWorkerSequences}
    (h : validateWorkerRounds L rounds expectedWorkers requireNonoverlap = .ok v) :
    expectedWorkers = canonicalWorkerPairs ∧ rounds ≠ [] ∧
      ∃ scan, rounds.zipIdx.foldlM
          (workerRoundStep L canonicalWorkerPairs (rounds.length - 1) requireNonoverlap)
          { sequences := List.replicate canonicalWorkerPairs.length [] } = .ok scan ∧
        v = ⟨canonicalWorkerPairs, rounds, scan.sequences, requireNonoverlap⟩ := by
  unfold validateWorkerRounds at h
  obtain ⟨workers, hworkers, h⟩ := bind_eq_ok.mp h
  obtain ⟨rfl, rfl⟩ := validateExpectedWorkers_eq_ok.mp hworkers
  rw [throw_bind_eq_ok] at h
  obtain ⟨hne, h⟩ := h
  obtain ⟨scan, hscan, h⟩ := bind_eq_ok.mp h
  exact ⟨rfl, by simpa using hne, scan, hscan, (Except.ok.inj h).symm⟩

/-- The rounds that are accepted. -/
theorem exists_validated_iff {L : JsonLibraries} (hL : Distinguishes L) {rounds : List WorkerRound}
    {expectedWorkers : List WorkerKey} {requireNonoverlap : Bool} :
    (∃ v, validateWorkerRounds L rounds expectedWorkers requireNonoverlap = .ok v) ↔
      expectedWorkers = canonicalWorkerPairs ∧ ∃ init final, rounds = init ++ [final] ∧
        AcceptedRounds L requireNonoverlap init final := by
  have hlength (init : List WorkerRound) (final : WorkerRound) :
      (init ++ [final]).length - 1 = init.length := by simp
  constructor
  · rintro ⟨v, h⟩
    obtain ⟨hworkers, hne, scan, hscan, -⟩ := of_validateWorkerRounds h
    obtain ⟨init, final, rfl⟩ := (List.eq_nil_or_concat' rounds).resolve_left hne
    rw [hlength] at hscan
    obtain ⟨hall, hchain⟩ := (exists_scan_iff hL workersScanned_nil).mp ⟨scan, hscan⟩
    obtain ⟨hindices, hearlier, hlast⟩ := forall_sound_iff.mp hall
    exact ⟨hworkers, init, final, rfl, hindices, hearlier, hlast, hchain⟩
  · rintro ⟨rfl, init, final, rfl, h⟩
    have hall := forall_sound_iff.mpr ⟨h.indices, h.earlier, h.last⟩
    obtain ⟨scan, hscan⟩ := (exists_scan_iff hL workersScanned_nil).mpr
      ⟨hall, h.chain⟩
    refine ⟨⟨canonicalWorkerPairs, init ++ [final], scan.sequences, requireNonoverlap⟩, ?_⟩
    unfold validateWorkerRounds
    refine bind_eq_ok.mpr ⟨_, validateExpectedWorkers_eq_ok.mpr ⟨rfl, rfl⟩, ?_⟩
    rw [throw_bind_eq_ok, hlength]
    exact ⟨by simp, bind_eq_ok.mpr ⟨scan, hscan, rfl⟩⟩

end CryptoCollector.Benchmarks
