import CryptoCollector.Benchmarks.Contracts
import CryptoCollector.Benchmarks.Documents
import CryptoCollector.Lib.Ranking
import Mathlib.Data.List.Forall2

/-!
# Progression of snapshots

`storage/models.py: WriterMetricsSnapshotV1` with the worker that it is of, and the comparison of
two snapshots of one worker in `benchmarks/aggregation.py`. What an accepted comparison says is
`Progress`.

* `Progress.trans`: snapshots between two others can be left out.
-/

namespace CryptoCollector.Benchmarks

open Lib Storage

/-! ## Snapshots -/

/-- The value of a lifecycle. -/
def lifecycleValue : WriterLifecycle → String
  | .starting => "starting"
  | .accepting => "accepting"
  | .rotating => "rotating"
  | .critical => "critical"
  | .closing => "closing"
  | .closed => "closed"

/-- The value of an admission state. -/
def admissionValue : AdmissionState → String
  | .opened => "open"
  | .closed => "closed"

/-- The value of a publication state. -/
def publicationValue : PublicationState → String
  | .idle => "idle"
  | .sealing => "sealing"
  | .finalSync => "final_sync"
  | .publishing => "publishing"
  | .failed => "failed"

/-- The dictionary that `model_dump(mode="json")` makes of a series. A series carries the exchange
of its snapshot, as the validation of the snapshot demands. -/
def seriesJson (exchange : Exchange) (s : HistogramSeries) : Json :=
  .object [("schema_version", .int 1), ("exchange", .str exchange.value),
    ("market", .ofOption (fun m => .str (Market.value m)) s.market),
    ("logical_stream", .str s.logicalStream), ("bucket_counts", .list (s.bucketCounts.map .ofNat)),
    ("sample_count", .ofNat s.sampleCount), ("lag_p50_ns", .ofOption .ofNat s.lagP50Ns),
    ("lag_p95_ns", .ofOption .ofNat s.lagP95Ns), ("lag_p99_ns", .ofOption .ofNat s.lagP99Ns),
    ("lag_max_ns", .ofOption .ofNat s.lagMaxNs)]

/-- `WriterMetricsSnapshotV1`. The total of the lags is not one of its fields. -/
structure WorkerSnapshot where
  exchange : Exchange
  workerInstanceId : String
  durabilityHistogramSchemaVersion : Nat
  metrics : MetricsSnapshot

namespace WorkerSnapshot

/-- The validation of `WriterMetricsSnapshotV1` and of its series. -/
def checks (s : WorkerSnapshot) : Checks :=
  [(s.workerInstanceId ≠ "" &&
      s.metrics.durabilityHistogramSeries.all fun series => series.logicalStream ≠ "",
      "String should have at least 1 character"),
    (isSha256 s.metrics.configSha256, "String should match pattern"),
    (s.durabilityHistogramSchemaVersion = 1, "Input should be 1")] ++
    s.metrics.durabilityHistogramSeries.flatMap HistogramSeries.checks ++ s.metrics.checks

/-- The dictionary that `model_dump(mode="json")` makes. -/
def toJson (s : WorkerSnapshot) : Json :=
  let m := s.metrics
  .object [("schema_version", .int 1), ("observed_monotonic_ns", .ofNat m.observedMonotonicNs),
    ("exchange", .str s.exchange.value), ("worker_instance_id", .str s.workerInstanceId),
    ("config_sha256", .str m.configSha256), ("config_generation", .ofNat m.configGeneration),
    ("lifecycle", .str (lifecycleValue m.lifecycle)),
    ("admission_state", .str (admissionValue m.admission)),
    ("publication_state", .str (publicationValue m.publication)),
    ("critical_reason", .ofOption (fun r => .str (CriticalReason.value r)) m.criticalReason),
    ("acceptance_ordinal_high_water", .ofOption .ofNat m.acceptanceOrdinalHighWater),
    ("accepted_record_count", .ofNat m.acceptedRecordCount),
    ("durable_record_count", .ofNat m.durableRecordCount),
    ("unpersisted_record_count", .ofNat m.unpersistedRecordCount),
    ("uncertain_record_count", .ofNat m.uncertainRecordCount),
    ("queued_records", .ofNat m.queuedRecords), ("queued_bytes", .ofNat m.queuedBytes),
    ("buffered_records", .ofNat m.bufferedRecords), ("buffered_bytes", .ofNat m.bufferedBytes),
    ("in_flight_records", .ofNat m.inFlightRecords), ("in_flight_bytes", .ofNat m.inFlightBytes),
    ("resident_record_bytes", .ofNat m.residentRecordBytes),
    ("resident_control_records", .ofNat m.residentControlRecords),
    ("resident_control_bytes", .ofNat m.residentControlBytes),
    ("oldest_unpersisted_age_ns", .ofOption .ofNat m.oldestUnpersistedAgeNs),
    ("enqueue_high_water_count", .ofNat m.enqueueHighWaterCount),
    ("normal_overflow_count", .ofNat m.normalOverflowCount),
    ("control_overflow_count", .ofNat m.controlOverflowCount),
    ("not_accepting_count", .ofNat m.notAcceptingCount),
    ("active_logical_generation_count", .ofNat m.activeLogicalGenerationCount),
    ("retiring_generation_count", .ofNat m.retiringGenerationCount),
    ("open_file_descriptor_count", .ofNat m.openFileDescriptorCount),
    ("sync_inflight", .ofNat m.syncInflight),
    ("durability_histogram_schema_version", .ofNat s.durabilityHistogramSchemaVersion),
    ("durability_bucket_counts", .list (m.durability.bucketCounts.map .ofNat)),
    ("durability_sample_count", .ofNat m.durability.sampleCount),
    ("durability_lag_p50_ns", .ofOption .ofNat m.durability.lagP50Ns),
    ("durability_lag_p95_ns", .ofOption .ofNat m.durability.lagP95Ns),
    ("durability_lag_p99_ns", .ofOption .ofNat m.durability.lagP99Ns),
    ("durability_lag_max_ns", .ofOption .ofNat m.durability.lagMaxNs),
    ("durability_histogram_series",
      .list (m.durabilityHistogramSeries.map (seriesJson s.exchange))),
    ("sync_count", .ofNat m.syncCount),
    ("sync_duration_total_ns", .ofNat m.syncDurationTotalNs),
    ("sync_duration_max_ns", .ofNat m.syncDurationMaxNs),
    ("slo_breach_count", .ofNat m.sloBreachCount),
    ("write_failure_count", .ofNat m.writeFailureCount),
    ("sync_failure_count", .ofNat m.syncFailureCount),
    ("publication_failure_count", .ofNat m.publicationFailureCount)]

/-- `canonical_bytes`. -/
def canonicalBytes (L : JsonLibraries) (s : WorkerSnapshot) : Except Err Bytes :=
  match L.simplejsonDumps s.toJson with
  | some text => .ok (text ++ [10])
  | none => .error (.valueError "not serializable")

end WorkerSnapshot

/-! ## The comparison -/

/-- `_nondecreasing_optional_maximum`. -/
def nondecreasingOptionalMaximum (previous current : Option Nat) : Bool :=
  match previous, current with
  | none, _ => true
  | some _, none => false
  | some p, some c => p ≤ c

/-- `_CUMULATIVE_FIELDS` with their values. -/
def cumulative (s : MetricsSnapshot) : List (String × Nat) :=
  [("accepted_record_count", s.acceptedRecordCount),
    ("durable_record_count", s.durableRecordCount),
    ("uncertain_record_count", s.uncertainRecordCount),
    ("enqueue_high_water_count", s.enqueueHighWaterCount),
    ("normal_overflow_count", s.normalOverflowCount),
    ("control_overflow_count", s.controlOverflowCount),
    ("not_accepting_count", s.notAcceptingCount),
    ("durability_sample_count", s.durability.sampleCount),
    ("sync_count", s.syncCount),
    ("sync_duration_total_ns", s.syncDurationTotalNs),
    ("slo_breach_count", s.sloBreachCount),
    ("write_failure_count", s.writeFailureCount),
    ("sync_failure_count", s.syncFailureCount),
    ("publication_failure_count", s.publicationFailureCount)]

/-- The series of a snapshot by their keys. -/
def seriesByKey (s : MetricsSnapshot) : Dict (String × String) HistogramSeries :=
  .ofList (s.durabilityHistogramSeries.map fun series => (series.key, series))

/-- The comparison of the counts of buckets, which are zipped strictly. -/
def bucketProgression (prior present : List Nat) (message : String) : Checks :=
  [((prior.zip present).all fun c => c.1 ≤ c.2, message),
    (prior.length = present.length, if present.length < prior.length
      then "zip() argument 2 is shorter than argument 1"
      else "zip() argument 2 is longer than argument 1")]

/-- The comparison of one series. -/
def seriesProgression (prior present : HistogramSeries) : Checks :=
  ([(prior.sampleCount ≤ present.sampleCount,
      "worker series cumulative sample count decreased")] : Checks) ++
    bucketProgression prior.bucketCounts present.bucketCounts
      "worker series bucket count decreased" ++
    [(nondecreasingOptionalMaximum prior.lagMaxNs present.lagMaxNs,
      "worker series cumulative maximum decreased")]

/-- The comparison of two snapshots that were observed at different times. -/
def growthChecks (previous current : MetricsSnapshot) : Checks :=
  (((cumulative previous).zip (cumulative current)).map fun c =>
      (decide (c.1.2 ≤ c.2.2), "worker cumulative field decreased: " ++ c.1.1)) ++
    [((seriesByKey previous).keys.all (seriesByKey current).contains,
      "worker durability histogram series was removed")] ++
    (seriesByKey previous).entries.flatMap (fun e =>
      match (seriesByKey current).get? e.1 with
      | some present => seriesProgression e.2 present
      -- every key is present
      | none => []) ++
    bucketProgression previous.durability.bucketCounts current.durability.bucketCounts
      "worker durability bucket count decreased" ++
    [(nondecreasingOptionalMaximum previous.durability.lagMaxNs current.durability.lagMaxNs,
        "worker cumulative maximum decreased: durability_lag_max_ns"),
      (nondecreasingOptionalMaximum (some previous.syncDurationMaxNs)
          (some current.syncDurationMaxNs),
        "worker cumulative maximum decreased: sync_duration_max_ns")]

/-- `_validate_snapshot_progression`. -/
def validateSnapshotProgression (L : JsonLibraries) (previous current : WorkerSnapshot) :
    Except Err Unit := do
  if previous.metrics.lifecycle = .critical ∧ current.metrics.lifecycle ≠ .critical then
    throw (.valueError "a CRITICAL worker lifecycle cannot recover")
  if current.metrics.observedMonotonicNs < previous.metrics.observedMonotonicNs then
    throw (.valueError "worker snapshot observed time decreased")
  if current.metrics.observedMonotonicNs = previous.metrics.observedMonotonicNs then
    let bytes ← current.canonicalBytes L
    let previousBytes ← previous.canonicalBytes L
    if bytes ≠ previousBytes then
      throw (.valueError "equal observed times require identical snapshot bytes")
  else (growthChecks previous.metrics current.metrics).run

/-! ## What an accepted comparison says -/

/-- A series has grown. -/
structure SeriesGrows (prior present : HistogramSeries) : Prop where
  samples : prior.sampleCount ≤ present.sampleCount
  buckets : List.Forall₂ (· ≤ ·) prior.bucketCounts present.bucketCounts
  maximum : nondecreasingOptionalMaximum prior.lagMaxNs present.lagMaxNs = true

/-- The cumulative facts of a snapshot have grown. -/
structure Grows (previous current : MetricsSnapshot) : Prop where
  cumulative : List.Forall₂ (fun a b => a.2 ≤ b.2) (cumulative previous) (cumulative current)
  series : ∀ key prior, (seriesByKey previous).get? key = some prior →
    ∃ present, (seriesByKey current).get? key = some present ∧ SeriesGrows prior present
  buckets : List.Forall₂ (· ≤ ·) previous.durability.bucketCounts current.durability.bucketCounts
  maximum : nondecreasingOptionalMaximum previous.durability.lagMaxNs
    current.durability.lagMaxNs = true
  sync : previous.syncDurationMaxNs ≤ current.syncDurationMaxNs

theorem nondecreasingOptionalMaximum_refl (o : Option Nat) :
    nondecreasingOptionalMaximum o o = true := by
  cases o <;> simp [nondecreasingOptionalMaximum]

theorem nondecreasingOptionalMaximum_trans {a b c : Option Nat}
    (hab : nondecreasingOptionalMaximum a b = true)
    (hbc : nondecreasingOptionalMaximum b c = true) :
    nondecreasingOptionalMaximum a c = true := by
  cases a with
  | none => rfl
  | some a =>
    cases b with
    | none => cases hab
    | some b =>
      cases c with
      | none => cases hbc
      | some c =>
        simp only [nondecreasingOptionalMaximum, decide_eq_true_eq] at hab hbc ⊢
        exact hab.trans hbc

theorem SeriesGrows.refl (s : HistogramSeries) : SeriesGrows s s :=
  ⟨le_rfl, List.forall₂_same.mpr fun _ _ => le_rfl, nondecreasingOptionalMaximum_refl _⟩

theorem SeriesGrows.trans {a b c : HistogramSeries} (hab : SeriesGrows a b)
    (hbc : SeriesGrows b c) : SeriesGrows a c where
  samples := hab.samples.trans hbc.samples
  buckets := forall₂_trans (R := (· ≤ ·)) (fun _ _ _ => le_trans) hab.buckets hbc.buckets
  maximum := nondecreasingOptionalMaximum_trans hab.maximum hbc.maximum

theorem Grows.trans {a b c : MetricsSnapshot} (hab : Grows a b) (hbc : Grows b c) :
    Grows a c where
  cumulative := forall₂_trans (R := fun (a b : String × Nat) => a.2 ≤ b.2) (fun _ _ _ => le_trans) hab.cumulative hbc.cumulative
  series key prior hprior := by
    obtain ⟨middle, hmiddle, hgrows⟩ := hab.series key prior hprior
    obtain ⟨present, hpresent, hgrows'⟩ := hbc.series key middle hmiddle
    exact ⟨present, hpresent, hgrows.trans hgrows'⟩
  buckets := forall₂_trans (R := (· ≤ ·)) (fun _ _ _ => le_trans) hab.buckets hbc.buckets
  maximum := nondecreasingOptionalMaximum_trans hab.maximum hbc.maximum
  sync := hab.sync.trans hbc.sync

/-- The comparison of buckets passes when no count decreases. -/
theorem bucketProgression_iff {prior present : List Nat} {message : String} :
    (∀ c ∈ bucketProgression prior present message, c.1 = true) ↔
      List.Forall₂ (· ≤ ·) prior present := by
  simp only [bucketProgression, List.forall_mem_cons, List.not_mem_nil, false_implies,
    implies_true, and_true, decide_eq_true_eq, List.all_eq_true]
  rw [List.forall₂_iff_zip]
  constructor
  · rintro ⟨hall, hlength⟩
    exact ⟨hlength, fun {a b} hmem => hall (a, b) hmem⟩
  · rintro ⟨hlength, hall⟩
    exact ⟨fun c hc => hall hc, hlength⟩

theorem seriesProgression_iff {prior present : HistogramSeries} :
    (∀ c ∈ seriesProgression prior present, c.1 = true) ↔ SeriesGrows prior present := by
  simp only [seriesProgression, List.forall_mem_append, bucketProgression_iff,
    List.forall_mem_singleton, decide_eq_true_eq]
  constructor
  · rintro ⟨⟨hsamples, hbuckets⟩, hmax⟩
    exact ⟨hsamples, hbuckets, hmax⟩
  · intro h
    exact ⟨⟨h.samples, h.buckets⟩, h.maximum⟩

theorem cumulativeChecks_iff {previous current : MetricsSnapshot} :
    (∀ c ∈ ((cumulative previous).zip (cumulative current)).map fun c =>
      (decide (c.1.2 ≤ c.2.2), "worker cumulative field decreased: " ++ c.1.1), c.1 = true) ↔
      List.Forall₂ (fun a b => a.2 ≤ b.2) (cumulative previous) (cumulative current) := by
  rw [List.forall₂_iff_zip, List.forall_mem_map]
  constructor
  · intro h
    exact ⟨rfl, fun {a b} hmem => of_decide_eq_true (h (a, b) hmem)⟩
  · rintro ⟨-, h⟩ c hc
    exact decide_eq_true (h hc)

/-- The comparison of the series passes when each of them is there and has grown. -/
theorem seriesChecks_iff {d d' : Dict (String × String) HistogramSeries} :
    (d.keys.all d'.contains = true ∧
      ∀ c ∈ d.entries.flatMap (fun e =>
        match d'.get? e.1 with
        | some present => seriesProgression e.2 present
        | none => []), c.1 = true) ↔
      ∀ key prior, d.get? key = some prior →
        ∃ present, d'.get? key = some present ∧ SeriesGrows prior present := by
  rw [List.all_eq_true]
  simp only [Dict.contains_iff, List.mem_flatMap, forall_exists_index, and_imp]
  constructor
  · rintro ⟨hkeys, hall⟩ key prior hprior
    obtain ⟨present, hpresent⟩ := Dict.exists_of_mem_keys (hkeys key (Dict.mem_keys_of_get? hprior))
    refine ⟨present, hpresent, seriesProgression_iff.mp fun c hc => ?_⟩
    refine hall c (key, prior) (Dict.get?_eq_some.mp hprior) ?_
    rw [hpresent]
    exact hc
  · intro h
    refine ⟨fun key hkey => ?_, fun c e he hc => ?_⟩
    · obtain ⟨prior, hprior⟩ := Dict.exists_of_mem_keys hkey
      obtain ⟨present, hpresent, -⟩ := h key prior hprior
      exact Dict.mem_keys_of_get? hpresent
    · obtain ⟨present, hpresent, hgrows⟩ := h e.1 e.2 (Dict.get?_eq_some.mpr he)
      rw [hpresent] at hc
      exact seriesProgression_iff.mpr hgrows c hc

theorem growthChecks_iff {previous current : MetricsSnapshot} :
    (growthChecks previous current).run = .ok () ↔ Grows previous current := by
  rw [Checks.run_eq_ok, growthChecks]
  simp only [List.forall_mem_append, cumulativeChecks_iff, bucketProgression_iff,
    List.forall_mem_singleton, List.forall_mem_cons]
  constructor
  · rintro ⟨⟨⟨⟨hcumulative, hkeys⟩, hseries⟩, hbuckets⟩, hmax, hsync⟩
    exact ⟨hcumulative, seriesChecks_iff.mp ⟨hkeys, hseries⟩, hbuckets, hmax,
      of_decide_eq_true hsync⟩
  · intro h
    obtain ⟨hkeys, hseries⟩ := seriesChecks_iff.mpr h.series
    exact ⟨⟨⟨⟨h.cumulative, hkeys⟩, hseries⟩, h.buckets⟩, h.maximum, decide_eq_true h.sync⟩

/-! ## Snapshots with the same bytes -/

theorem map_ofNat_injective : Function.Injective (List.map Json.ofNat) :=
  List.map_injective_iff.mpr Json.ofNat_injective

theorem seriesJson_injective (exchange : Exchange) :
    Function.Injective (seriesJson exchange) := by
  intro s t h
  simp only [seriesJson, Json.object.injEq, List.cons.injEq, Prod.mk.injEq, true_and, and_true,
    Json.str.injEq, Json.list.injEq] at h
  obtain ⟨hmarket, hstream, hbuckets, hsamples, h50, h95, h99, hmax⟩ := h
  cases s
  cases t
  simp only [HistogramSeries.mk.injEq]
  exact ⟨Json.ofOption_injective (fun _ _ h => Market.value_injective (Json.str.inj h)) nofun hmarket,
    hstream, map_ofNat_injective hbuckets, Json.ofNat_injective hsamples,
    Json.ofOption_ofNat_injective h50, Json.ofOption_ofNat_injective h95,
    Json.ofOption_ofNat_injective h99, Json.ofOption_ofNat_injective hmax⟩

theorem exactFields_iff {fields : List (String × Json)} :
    Json.ExactFields fields ↔ ∀ field ∈ fields, Json.Exact field.2 := by
  induction fields with
  | nil => simp [Json.ExactFields]
  | cons field fields ih => simp [Json.ExactFields, ih]

theorem exactItems_iff {items : List Json} : Json.ExactItems items ↔ ∀ j ∈ items, j.Exact := by
  induction items with
  | nil => simp [Json.ExactItems]
  | cons j items ih => simp [Json.ExactItems, ih]

theorem exact_ofOption {α : Type} {f : α → Json} (hf : ∀ a, (f a).Exact) (o : Option α) :
    (Json.ofOption f o).Exact := by
  cases o with
  | none => trivial
  | some a => exact hf a

theorem exact_list_ofNat (ns : List Nat) : (Json.list (ns.map .ofNat)).Exact := by
  refine exactItems_iff.mpr fun j hj => ?_
  obtain ⟨n, -, rfl⟩ := List.mem_map.mp hj
  trivial

theorem exact_seriesJson (exchange : Exchange) (s : HistogramSeries) :
    (seriesJson exchange s).Exact := by
  refine exactFields_iff.mpr ?_
  simp only [List.forall_mem_cons, List.not_mem_nil, false_implies, implies_true, and_true]
  have hnat (o : Option Nat) : (Json.ofOption .ofNat o).Exact := exact_ofOption (f := .ofNat) (fun _ => trivial) o
  have hmarket : (Json.ofOption (fun m => .str (Market.value m)) s.market).Exact :=
    exact_ofOption (f := fun m => .str (Market.value m)) (fun _ => trivial) _
  exact ⟨trivial, trivial, hmarket, trivial, exact_list_ofNat _, trivial, hnat _, hnat _, hnat _,
    hnat _⟩

namespace WorkerSnapshot

/-- The dictionary of a snapshot holds no decimal numbers. -/
theorem exact_toJson (s : WorkerSnapshot) : s.toJson.Exact := by
  refine exactFields_iff.mpr ?_
  have hnat (n : Nat) : (Json.ofNat n).Exact := trivial
  have hstr (t : String) : (Json.str t).Exact := trivial
  have hoption (o : Option Nat) : (Json.ofOption .ofNat o).Exact :=
    exact_ofOption (f := .ofNat) (fun _ => trivial) o
  have hreason (o : Option CriticalReason) :
      (Json.ofOption (fun r => .str r.value) o).Exact :=
    exact_ofOption (f := fun r => .str (CriticalReason.value r)) (fun _ => trivial) o
  have hseries : (Json.list
      (s.metrics.durabilityHistogramSeries.map (seriesJson s.exchange))).Exact := by
    refine exactItems_iff.mpr fun j hj => ?_
    obtain ⟨series, -, rfl⟩ := List.mem_map.mp hj
    exact exact_seriesJson _ _
  have hone : (Json.int 1).Exact := trivial
  simp only [List.forall_mem_cons, hnat, hstr, hoption, hreason, hseries, hone, exact_list_ofNat,
    List.not_mem_nil, false_implies, implies_true, and_true]

/-- Snapshots with the same dictionary have the same cumulative facts. -/
theorem grows_of_toJson {s t : WorkerSnapshot} (h : s.toJson = t.toJson) :
    Grows s.metrics t.metrics := by
  simp only [toJson, Json.object.injEq, List.cons.injEq, Prod.mk.injEq, true_and, and_true,
    Json.str.injEq, Json.list.injEq, Json.ofNat_injective.eq_iff,
    map_ofNat_injective.eq_iff, Json.ofOption_ofNat_injective.eq_iff] at h
  obtain ⟨-, hexchange, -, -, -, -, -, -, -, -, haccepted, hdurable, -, huncertain, -, -, -, -, -,
    -, -, -, -, -, henqueue, hnormal, hcontrol, hnot, -, -, -, -, -, hbuckets, hsamples, -, -, -,
    hmax, hseries, hsync, htotal, hsyncmax, hslo, hwrite, hfailure, hpublication⟩ := h
  have hcumulative : cumulative s.metrics = cumulative t.metrics := by
    rw [cumulative, cumulative, haccepted, hdurable, huncertain, henqueue, hnormal, hcontrol, hnot,
      hsamples, hsync, htotal, hslo, hwrite, hfailure, hpublication]
  have hkeys : seriesByKey s.metrics = seriesByKey t.metrics := by
    rw [Exchange.value_injective hexchange] at hseries
    rw [seriesByKey, seriesByKey, List.map_injective_iff.mpr (seriesJson_injective _) hseries]
  constructor
  · rw [hcumulative]
    exact List.forall₂_same.mpr fun _ _ => le_rfl
  · intro key prior hprior
    rw [hkeys] at hprior
    exact ⟨prior, hprior, .refl prior⟩
  · rw [hbuckets]
    exact List.forall₂_same.mpr fun _ _ => le_rfl
  · rw [hmax]
    exact nondecreasingOptionalMaximum_refl _
  · exact hsyncmax.le

/-- Snapshots with the same bytes have the same cumulative facts. -/
theorem grows_of_canonicalBytes {L : JsonLibraries} (hL : Distinguishes L) {s t : WorkerSnapshot}
    {bytes : Bytes} (hs : s.canonicalBytes L = .ok bytes) (ht : t.canonicalBytes L = .ok bytes) :
    Grows s.metrics t.metrics := by
  unfold canonicalBytes at hs ht
  cases htext : L.simplejsonDumps s.toJson with
  | none => simp [htext] at hs
  | some text =>
    cases htext' : L.simplejsonDumps t.toJson with
    | none => simp [htext'] at ht
    | some text' =>
      rw [htext] at hs
      rw [htext'] at ht
      have heq : text = text' :=
        List.append_cancel_right ((Except.ok.inj hs).trans (Except.ok.inj ht).symm)
      subst heq
      exact grows_of_toJson (hL _ _ _ s.exact_toJson t.exact_toJson htext htext')

end WorkerSnapshot

/-! ## Progress -/

/-- What an accepted comparison of two snapshots says. -/
structure Progress (L : JsonLibraries) (previous current : WorkerSnapshot) : Prop where
  critical : previous.metrics.lifecycle = .critical → current.metrics.lifecycle = .critical
  observed : previous.metrics.observedMonotonicNs ≤ current.metrics.observedMonotonicNs
  same : current.metrics.observedMonotonicNs = previous.metrics.observedMonotonicNs →
    ∃ bytes, current.canonicalBytes L = .ok bytes ∧ previous.canonicalBytes L = .ok bytes
  grows : Grows previous.metrics current.metrics

theorem validateSnapshotProgression_eq_ok {L : JsonLibraries} (hL : Distinguishes L)
    {previous current : WorkerSnapshot} :
    validateSnapshotProgression L previous current = .ok () ↔ Progress L previous current := by
  unfold validateSnapshotProgression
  rw [throw_bind_eq_ok, throw_bind_eq_ok, not_and_not_right, not_lt]
  by_cases heq : current.metrics.observedMonotonicNs = previous.metrics.observedMonotonicNs
  · rw [if_pos heq]
    simp only [bind_eq_ok, throw_eq_ok, not_not]
    constructor
    · rintro ⟨hcritical, hobserved, bytes, hcurrent, previousBytes, hprevious, rfl⟩
      exact ⟨hcritical, hobserved, fun _ => ⟨bytes, hcurrent, hprevious⟩,
        WorkerSnapshot.grows_of_canonicalBytes hL hprevious hcurrent⟩
    · intro h
      obtain ⟨bytes, hcurrent, hprevious⟩ := h.same heq
      exact ⟨h.critical, h.observed, bytes, hcurrent, bytes, hprevious, rfl⟩
  · rw [if_neg heq, growthChecks_iff]
    constructor
    · rintro ⟨hcritical, hobserved, hgrows⟩
      exact ⟨hcritical, hobserved, fun h => absurd h heq, hgrows⟩
    · intro h
      exact ⟨h.critical, h.observed, h.grows⟩

/-- A snapshot between two others can be left out. -/
theorem Progress.trans {L : JsonLibraries} {a b c : WorkerSnapshot} (hab : Progress L a b)
    (hbc : Progress L b c) : Progress L a c where
  critical h := hbc.critical (hab.critical h)
  observed := hab.observed.trans hbc.observed
  same h := by
    have hle := hab.observed
    have hle' := hbc.observed
    obtain ⟨bytes, hb, ha⟩ := hab.same (by omega)
    obtain ⟨bytes', hc, hb'⟩ := hbc.same (by omega)
    obtain rfl : bytes' = bytes := Except.ok.inj (hb'.symm.trans hb)
    exact ⟨bytes', hc, ha⟩
  grows := hab.grows.trans hbc.grows

end CryptoCollector.Benchmarks
