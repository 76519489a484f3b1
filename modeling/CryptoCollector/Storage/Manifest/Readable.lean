import CryptoCollector.Storage.Json
import CryptoCollector.Storage.Manifest.Valid

/-!
# Published parts are readable

A part that was allocated, filled and frozen is published as a manifest beside its frames. The
manifest passes its validation, it is loaded back from its bytes and its reader returns the rows
in the order in which they were appended, exactly when the key of the part is one that the
manifest accepts and the rows are of the hour of the path (`readable_iff`).
-/

namespace CryptoCollector.Storage

open Lib
open ManifestFields (raise)

namespace ActivePart

/-! ## Publication -/

/-- The bytes of a frame before compression. -/
def plain (frame : List Row) : Bytes := frame.flatMap (·.encodedJsonl)

/-- The file of a part: its frames, each compressed on its own. -/
def file (codec : PartCodec) (a : ActivePart) : Bytes :=
  a.written.flatMap fun frame => codec.compress (plain frame)

/-- The manifest that a frozen part publishes beside its file. -/
def publish (codec : PartCodec) (a : ActivePart) (summary : PartSummary) :
    Except Err RawManifest :=
  a.buildManifest summary (a.file codec).length (codec.sha256 (a.file codec)).hex

/-- The compressor and the JSON codec return what they were given, for the data of one part. -/
structure RoundTrips (codec : PartCodec) (a : ActivePart) (summary : PartSummary) : Prop where
  compressed : ∀ frame ∈ a.written, codec.compress (plain frame) ≠ []
  decompressed : codec.decompress (a.file codec) = .ok (a.written.flatMap plain)
  rows : ∀ r ∈ a.rows, codec.decodeObject r.encodedJsonl.dropLast = .ok r.envelope
  manifest : ∀ m, a.publish codec summary = .ok m →
    codec.parseManifest (codec.manifestBytes m.toManifestFields) = .ok m.toManifestFields

/-- A published part is readable: its manifest is valid and is loaded from its own bytes, and the
reader of the written frames returns the appended envelopes in order. -/
def Readable (codec : PartCodec) (a : ActivePart) (summary : PartSummary) : Prop :=
  ∃ m : RawManifest, a.publish codec summary = .ok m ∧
    loadRawManifest codec (codec.manifestBytes m.toManifestFields) = .ok m ∧
    readManifest codec (codec.manifestBytes m.toManifestFields) (a.file codec) =
      .ok (a.rows.map (·.envelope)) ∧
    m.recordCount = a.lags.length ∧ m.durabilitySampleCount = some a.lags.length ∧
    m.sloBreachCount = some (a.lags.countP (a.durabilitySloNs < ·))

section Publication

variable {codec : PartCodec} {a : ActivePart} {summary : PartSummary}

theorem file_ne_nil (hs : a.Summarised summary) (hcodec : a.RoundTrips codec summary) :
    a.file codec ≠ [] := by
  intro hnil
  have hnone : a.written = [] := by
    rw [List.eq_nil_iff_forall_not_mem]
    intro frame hframe
    exact hcodec.compressed frame hframe (List.flatMap_eq_nil_iff.1 hnil frame hframe)
  exact hs.nonempty (by rw [hs.written, hnone, List.flatten_nil])

theorem publish_iff {reason : CloseReason} {closedAtNs : Nat}
    (hreason : a.part.closeReason = some reason) (hclosed : a.part.closedAtNs = some closedAtNs)
    {m : RawManifest} :
    a.publish codec summary = .ok m ↔ m.toManifestFields =
      a.manifestFields summary (a.file codec).length (codec.sha256 (a.file codec)).hex reason
        closedAtNs := by
  unfold publish buildManifest
  rw [hreason, hclosed]
  exact RawManifest.create_eq_ok

/-- Only the layout can refuse the manifest of a part. -/
theorem validate_manifestFields {reason : CloseReason} {closedAtNs : Nat} (hk : a.Kept)
    (hs : a.Summarised summary) (hl : a.Laid) (hcodec : a.RoundTrips codec summary)
    (hreason : a.part.closeReason = some reason) :
    (a.manifestFields summary (a.file codec).length (codec.sha256 (a.file codec)).hex reason
        closedAtNs).validate =
      (a.manifestFields summary (a.file codec).length (codec.sha256 (a.file codec)).hex reason
        closedAtNs).validateLayout := by
  have hsize : (a.file codec).length ≠ 0 := by
    simpa using file_ne_nil hs hcodec
  have hsha := (codec.sha256 (a.file codec)).wellFormed
  have hnormal : reason ≠ .recovery := by
    rintro rfl
    exact hk.normal hreason
  unfold ManifestFields.validate
  rw [validateFields_manifestFields hk hs hl hsize hsha, validateSortedFacts_manifestFields hs,
    validateRowFacts_manifestFields hk hs]
  have hnormal' : (a.manifestFields summary (a.file codec).length
      (codec.sha256 (a.file codec)).hex reason closedAtNs).closeReason ≠ .recovery := hnormal
  rw [if_neg hnormal', validateNormalManifest_manifestFields hs]
  simp only [raise, ok_bind]
  cases ManifestFields.validateLayout _ <;> rfl

/-- The reader accepts the file of a part whose manifest is valid. -/
theorem readManifest_ok (hk : a.Kept) (hs : a.Summarised summary)
    (hcodec : a.RoundTrips codec summary) {reason : CloseReason} {closedAtNs : Nat}
    {m : RawManifest}
    (hload : loadRawManifest codec (codec.manifestBytes m.toManifestFields) = .ok m)
    (hm : m.toManifestFields = a.manifestFields summary (a.file codec).length
      (codec.sha256 (a.file codec)).hex reason closedAtNs) :
    readManifest codec (codec.manifestBytes m.toManifestFields) (a.file codec) =
      .ok (a.rows.map (·.envelope)) := by
  have hbuffered : ∀ r ∈ a.rows, r.validateBuffered = none := fun r hr => (hk.owned r hr).buffered
  have hplain : a.written.flatMap plain = a.rows.flatMap (·.encodedJsonl) := by
    rw [hs.written, List.flatten_eq_flatMap, List.flatMap_assoc]
    rfl
  have hnames : ∀ r ∈ a.rows, Names m.toManifestFields r.envelope := by
    intro r hr
    have howns := hk.owned r hr
    have hkey : summary.key = r.envelope.key := hs.key.trans howns.key.symm
    rw [Names, hm]
    simp only [manifestFields, hs.exchange, hs.worker, hs.config, hkey, howns.exchange,
      howns.worker, howns.config, EnvelopeFields.key]
  have hcount : m.recordCount = a.rows.length := by
    rw [hm]
    exact hs.recordCount
  have hrows : (readLines (a.written.flatMap plain)).foldlM
      (readRow codec m.toManifestFields) [] = .ok (a.rows.map (·.envelope)) := by
    rw [hplain, readLines_flatMap hbuffered]
    refine foldlM_readRow hbuffered hcodec.rows hnames ?_ ?_
    · rw [List.nil_append, List.pairwise_map]
      exact hk.increasing
    · simp [hcount]
  have hfacts : observedFacts (a.rows.map (·.envelope)) = m.expectedFacts := by
    rw [hm]
    simp only [observedFacts, ManifestFields.expectedFacts, manifestFields, hs.firstReceived,
      hs.lastReceived, hs.sequenceFirst, hs.sequenceLast, hs.wireSymbols,
      hs.connectionGenerations, hs.egressIds, hs.requestedIntervals, hs.effectiveIntervals,
      hs.firstEventTime, hs.lastEventTime, List.head?_map, List.getLast?_map, Option.map_map,
      Function.comp_def]
  have hcomplete : validateCompleteRows m.toManifestFields (a.rows.map (·.envelope)) = none := by
    simp [validateCompleteRows, hcount, hfacts, hs.nonempty]
  have hsize : m.fileSizeBytes = (a.file codec).length := by
    rw [hm]
    rfl
  have hsha : m.fileSha256 = (codec.sha256 (a.file codec)).hex := by
    rw [hm]
    rfl
  unfold readManifest
  rw [hload, ok_bind, hsize, hsha, hcodec.decompressed]
  simp only [ne_eq, not_true_eq_false, decide_false, refuseIf, raise, ok_bind, hrows, hcomplete]
  rfl

theorem loadRawManifest_ok (hcodec : a.RoundTrips codec summary) {m : RawManifest}
    (hm : a.publish codec summary = .ok m) :
    loadRawManifest codec (codec.manifestBytes m.toManifestFields) = .ok m := by
  unfold loadRawManifest
  rw [hcodec.manifest m hm, ok_bind, RawManifest.create_of_valid m.valid]
  simp [refuseIf, raise]

/-- A part whose manifest passes its validation is readable. -/
theorem readable_of_publish (hk : a.Kept) (hs : a.Summarised summary)
    (hcodec : a.RoundTrips codec summary) {reason : CloseReason} {closedAtNs : Nat}
    (hreason : a.part.closeReason = some reason) (hclosed : a.part.closedAtNs = some closedAtNs)
    {m : RawManifest} (hm : a.publish codec summary = .ok m) : a.Readable codec summary := by
  have hload := loadRawManifest_ok hcodec hm
  have hfields := (publish_iff hreason hclosed).1 hm
  refine ⟨m, hm, hload, readManifest_ok hk hs hcodec hload hfields, ?_, ?_, ?_⟩
  · rw [hfields]
    exact hs.recordCount.trans hs.samples.symm
  · rw [hfields]
    exact congrArg some hs.sampleCount
  · rw [hfields]
    exact congrArg some hs.breaches

/-- A part that is frozen and retired after its allocation and any operations is readable exactly
when its key is in scope and its first and last rows are of the hour of the record it was
allocated for. -/
theorem readable_iff {first : Row} {start sequence created level limit slo : Nat}
    {a₀ : ActivePart} (hallocate : allocate first start sequence created level limit slo = .ok a₀)
    (ops : List PartOp) (hfreeze : (a₀.run ops).freezeSummary = .ok summary)
    (hretired : (a₀.run ops).part.closeReason.isSome)
    (hcodec : (a₀.run ops).RoundTrips codec summary) :
    (a₀.run ops).Readable codec summary ↔ first.envelope.key.InScope ∧
      ∀ r ∈ (a₀.run ops).rows.head?.toList ++ (a₀.run ops).rows.getLast?.toList,
        utcStorageHour r.envelope.receivedAtNs = utcStorageHour first.envelope.receivedAtNs := by
  have hk : (a₀.run ops).Kept := (kept_allocate hallocate).run ops
  have hs : (a₀.run ops).Summarised summary := hk.summarised hfreeze
  have hfixed := fixed_run a₀ ops
  generalize a₀.run ops = a at *
  obtain ⟨hdata, hmanifest, hlevel, hlevel', hlimit, ha₀⟩ := allocate_ok hallocate
  obtain ⟨hour, hhour, scope, hscope, hjoined⟩ : ∃ hour,
      utcStorageHour first.envelope.receivedAtNs = .ok hour ∧ ∃ scope,
      scopeSegments first.envelope.toEnvelopeFields = .ok scope ∧
      a₀.dataRelativePath = joinPath (scope ++ hour ++ [partName start sequence]) := by
    simp only [rawDataPath, bind_eq_ok] at hdata
    obtain ⟨hour, hhour, scope, hscope, hpath⟩ := hdata
    exact ⟨hour, hhour, scope, hscope, (Except.ok.inj hpath).symm⟩
  rw [ha₀] at hfixed
  simp only [fixed, Prod.mk.injEq] at hfixed
  obtain ⟨hexchange, hworker, hpath, hpath', hzstd, hmax, -, hplace, hconfig⟩ := hfixed
  have hplaced : Placed first.envelope start sequence scope hour a.dataRelativePath
      a.manifestRelativePath :=
    ⟨hscope, hhour, hpath.trans hjoined, by rw [hpath, hpath']; exact hmanifest⟩
  have hl : a.Laid := ⟨hplaced.normalized.1, hplaced.normalized.2, by omega, by omega⟩
  obtain ⟨reason, hreason⟩ := Option.isSome_iff_exists.1 hretired
  obtain ⟨closedAtNs, hclosed⟩ := Option.isSome_iff_exists.1 (hk.closed ▸ hretired)
  have hkey : summary.key = first.envelope.key := by
    rw [hs.key]
    exact congrArg PartPath.key hplace
  have hscoped : Scoped (a.manifestFields summary (a.file codec).length
      (codec.sha256 (a.file codec)).hex reason closedAtNs) first.envelope.toEnvelopeFields := by
    refine ⟨hs.exchange.trans hexchange, ?_, ?_, ?_⟩
    · exact congrArg LogicalKey.market hkey
    · exact congrArg LogicalKey.instrumentKey hkey
    · exact congrArg LogicalKey.logicalStream hkey
  have hlayout := Placed.validateLayout_iff (m := a.manifestFields summary (a.file codec).length
    (codec.sha256 (a.file codec)).hex reason closedAtNs) hplaced hscoped
  rw [← validate_manifestFields hk hs hl hcodec hreason] at hlayout
  have hends : (∀ r ∈ a.rows.head?.toList ++ a.rows.getLast?.toList,
      utcStorageHour r.envelope.receivedAtNs = utcStorageHour first.envelope.receivedAtNs) ↔
      utcStorageHour summary.firstReceivedAtNs = .ok hour ∧
        utcStorageHour summary.lastReceivedAtNs = .ok hour := by
    obtain ⟨r, hr, hfirst⟩ : ∃ r, a.rows.head? = some r ∧
        summary.firstReceivedAtNs = r.envelope.receivedAtNs := by
      have := hs.firstReceived
      cases hhead : a.rows.head? with
      | none => simp [hhead] at this
      | some r => exact ⟨r, rfl, by simpa [hhead] using this⟩
    obtain ⟨t, ht, hlast⟩ : ∃ t, a.rows.getLast? = some t ∧
        summary.lastReceivedAtNs = t.envelope.receivedAtNs := by
      have := hs.lastReceived
      cases hhead : a.rows.getLast? with
      | none => simp [hhead] at this
      | some t => exact ⟨t, rfl, by simpa [hhead] using this⟩
    simp [hr, ht, hfirst, hlast, hhour]
  rw [hends]
  constructor
  · rintro ⟨m, hm, -⟩
    have hfields := (publish_iff hreason hclosed).1 hm
    have hvalid := m.valid
    rw [hfields] at hvalid
    exact hlayout.1 hvalid
  · intro hcondition
    have hvalid := hlayout.2 hcondition
    have hpublish : a.publish codec summary = .ok ⟨_, hvalid⟩ :=
      (publish_iff hreason hclosed).2 rfl
    exact readable_of_publish hk hs hcodec hreason hclosed hpublish

end Publication

/-! ## Two status parts -/

/-- A status record of the spot market, for the market or for one instrument. -/
def statusFields (instrument : Option String) : EnvelopeFields where
  exchange := .binance
  market := some .spot
  instrumentKey := instrument
  wireSymbol := instrument
  logicalStream := "status"
  nativeChannel := some "status"
  transport := .websocket
  eventTimeNs := none
  eventTimeSource := none
  integrityMode := none
  coverage := none
  restMetadata := none
  payload := .null
  receivedAtNs := 1709164800000000000
  monotonicNs := 1000
  workerInstanceId := "w"
  connectionId := some "c"
  connectionGeneration := some 0
  writerSequence := 1
  egressId := some "e"
  configSha256 := "0000000000000000000000000000000000000000000000000000000000000000"

/-- The row of a status record; `name` is its instrument in JSON. -/
def statusRow (instrument : Option String) (valid : (statusFields instrument).validate = none)
    (name : String) : Row where
  envelope := ⟨statusFields instrument, valid⟩
  encodedJsonl := jsonLine
    [("exchange", "\"binance\""), ("market", "\"spot\""), ("instrument_key", name),
     ("wire_symbol", name), ("logical_stream", "\"status\""),
     ("native_channel", "\"status\""), ("transport", "\"websocket\""),
     ("event_time_ns", "null"), ("event_time_source", "null"), ("integrity_mode", "null"),
     ("coverage", "null"), ("rest_metadata", "null"), ("payload", "null"),
     ("schema_version", "1"), ("received_at_ns", "1709164800000000000"),
     ("monotonic_ns", "1000"), ("worker_instance_id", "\"w\""), ("connection_id", "\"c\""),
     ("connection_generation", "0"), ("writer_sequence", "1"), ("egress_id", "\"e\""),
     ("config_sha256", "\"0000000000000000000000000000000000000000000000000000000000000000\"")]
  identity :=
    { key := (statusFields instrument).key
      writerSequence := 1
      configGeneration := 1
      acceptanceOrdinal := 1
      configSha256 := (statusFields instrument).configSha256
      exchange := .binance
      workerInstanceId := "w" }

/-- The status of the whole market. -/
def marketStatus : Row := statusRow none (by decide +kernel) "null"

/-- The status of one instrument. -/
def instrumentStatus : Row := statusRow (some "BTC-USDT") (by decide +kernel) "\"BTC-USDT\""

/-- The completion of the sync that made the row durable. -/
def statusCompletion : FileDurabilityResult where
  generationId := 0
  wasDirty := true
  recordCount := 1
  syncCompletedMonotonicNs := some 2000000
  syncDurationNs := 500000
  lagP50Ns := some 2500000
  lagP95Ns := some 2500000
  lagP99Ns := some 2500000
  lagMaxNs := some 1999000
  fits := by decide

/-- The part allocated for a status row. -/
def statusPart (r : Row) : Except Err ActivePart :=
  allocate r 1709164800000000000 0 1709164800000000000 3 1048576 5000000000

/-- The row is appended and made durable, and the part is retired. -/
def statusOps (r : Row) : List PartOp :=
  [.append r, .sealForSync false, .complete statusCompletion,
    .retire .shutdown 1709164800000000000]

theorem eq_of_mem_statusOps {r s : Row}
    (h : .append s ∈ statusOps r ∨ .sealOversized s ∈ statusOps r) : s = r := by
  simpa [statusOps] using h

/-- The rows of a status part. -/
theorem eq_of_mem_rows {r s : Row} {a : ActivePart} (ha : statusPart r = .ok a)
    (hs : s ∈ (a.run (statusOps r)).rows) : s = r := by
  have hnone : a.rows = [] := by
    rw [(allocate_ok ha).2.2.2.2.2]
  rcases mem_rows_run hs with hs | hs
  · simp [hnone] at hs
  · exact eq_of_mem_statusOps hs

/-- The frame of the market status. -/
def marketFrame : Bytes :=
  [40, 181, 47, 253, 100, 30, 1, 45, 9, 0, 198, 18, 54, 31, 96, 105, 211, 6, 3, 61, 221, 45,
   178, 243, 114, 9, 170, 192, 106, 50, 42, 7, 4, 193, 3, 70, 236, 175, 66, 37, 64, 50, 24,
   72, 115, 45, 0, 42, 0, 46, 0, 136, 38, 137, 34, 86, 195, 233, 139, 140, 157, 36, 81, 18,
   89, 115, 69, 234, 252, 82, 182, 57, 209, 142, 181, 46, 216, 144, 245, 21, 123, 203, 142,
   93, 229, 37, 34, 12, 217, 145, 188, 132, 74, 184, 41, 4, 170, 14, 93, 169, 105, 92, 228,
   157, 120, 181, 138, 50, 103, 250, 194, 94, 110, 71, 41, 35, 206, 172, 46, 56, 111, 59, 121,
   166, 47, 216, 151, 118, 140, 149, 190, 94, 247, 109, 78, 201, 41, 12, 10, 83, 91, 83, 151,
   29, 163, 64, 224, 96, 48, 48, 8, 12, 125, 233, 248, 130, 87, 95, 59, 6, 100, 169, 200, 251,
   37, 221, 122, 66, 241, 113, 154, 52, 183, 184, 190, 227, 250, 43, 53, 127, 145, 219, 47, 1,
   0, 11, 102, 200, 14, 3, 1, 151, 224, 132, 224, 193, 153, 191, 200, 175, 32, 156, 211, 190,
   113, 145, 221, 62, 143, 168, 84, 108, 245, 76, 85, 118, 140, 49, 100, 7, 166, 180, 87, 172,
   50, 118, 12, 195, 8, 29, 0, 205, 15, 192, 49, 239, 1, 179, 32, 6, 46, 22, 171, 116, 99, 42,
   33, 154, 80, 1, 4, 82, 184, 65, 246, 34, 3, 67, 212, 38, 163, 134, 199, 247, 248, 48, 205,
   201, 124, 6, 206, 247, 103, 106, 35, 103, 249, 60, 73, 225, 24, 64, 34, 153, 25, 131, 252,
   24, 101, 198, 1, 239, 225, 1, 70, 171, 9, 108, 21, 49, 98, 154, 1, 153, 220, 227, 198]

/-- Its digest. -/
def marketSha256 : Sha256 :=
  ⟨"e2fbbc19f2c0a2b5054e1d1a373cc74cbb26516777327ef69708b5820442a469", by decide +kernel⟩

/-- The packages on the data of the part of the market status, whose manifest has `fields`. -/
def marketCodec (fields : ManifestFields) : PartCodec where
  compress _ := marketFrame
  decompress _ := .ok marketStatus.encodedJsonl
  decodeObject _ := .ok marketStatus.envelope
  manifestBytes _ := jsonLine
    [("schema_version", "1"), ("exchange", "\"binance\""), ("market", "\"spot\""),
     ("instrument_key", "null"), ("logical_stream", "\"status\""), ("wire_symbols", "[]"),
     ("data_relative_path",
       "\"raw/binance/spot/_market/status/2024/02/29/00/part-1709164800000000000-0.jsonl.zst\""),
     ("manifest_relative_path",
       "\"raw/binance/spot/_market/status/2024/02/29/00/part-1709164800000000000-0.manifest.json\""),
     ("file_size_bytes", "307"),
     ("file_sha256", "\"e2fbbc19f2c0a2b5054e1d1a373cc74cbb26516777327ef69708b5820442a469\""),
     ("zstd_level", "3"), ("zstd_write_checksum", "true"), ("zstd_write_content_size", "true"),
     ("max_plain_frame_bytes", "1048576"), ("record_count", "1"),
     ("first_received_at_ns", "1709164800000000000"),
     ("last_received_at_ns", "1709164800000000000"), ("first_event_time_ns", "null"),
     ("last_event_time_ns", "null"), ("worker_instance_id", "\"w\""),
     ("connection_generations", "[0]"), ("writer_sequence_first", "1"),
     ("writer_sequence_last", "1"),
     ("config_sha256", "\"0000000000000000000000000000000000000000000000000000000000000000\""),
     ("egress_ids", "[\"e\"]"), ("requested_intervals_ns", "[]"),
     ("effective_intervals_ns", "[]"), ("gap_count", "0"), ("reconnect_count", "0"),
     ("parse_error_count", "0"), ("checksum_error_count", "0"), ("queue_overflow_count", "0"),
     ("control_event_ids", "[]"), ("durability_measurement", "\"measured\""),
     ("durability_sample_count", "1"), ("durability_lag_p50_ns", "2500000"),
     ("durability_lag_p95_ns", "2500000"), ("durability_lag_p99_ns", "2500000"),
     ("durability_lag_max_ns", "1999000"), ("sync_count", "1"),
     ("sync_duration_total_ns", "500000"), ("sync_duration_max_ns", "500000"),
     ("slo_breach_count", "0"), ("write_failure_count", "0"), ("sync_failure_count", "0"),
     ("close_reason", "\"shutdown\""), ("created_at_ns", "1709164800000000000"),
     ("closed_at_ns", "1709164800000000000"), ("recovery_transaction_id", "null"),
     ("recovery_source_state", "null"), ("recovery_source_relative_path", "null"),
     ("recovery_source_bytes", "null"), ("recovery_source_sha256", "null"),
     ("recovery_control_event_id", "null"), ("recovered_frame_count", "null"),
     ("recovered_record_count", "null"), ("recovered_bytes", "null"),
     ("recovered_sha256", "null"), ("quarantined_suffix_relative_path", "null"),
     ("quarantined_suffix_bytes", "null"), ("quarantined_suffix_sha256", "null"),
     ("unavailable_fields", "[]")]
  parseManifest _ := .ok fields
  sha256 _ := marketSha256

/-- The frame of the instrument status. -/
def instrumentFrame : Bytes :=
  [40, 181, 47, 253, 100, 42, 1, 125, 9, 0, 198, 211, 57, 33, 80, 75, 212, 6, 163, 69, 251,
   101, 91, 113, 11, 91, 65, 88, 166, 79, 164, 164, 18, 161, 193, 74, 237, 197, 129, 200, 53,
   5, 59, 170, 154, 232, 48, 50, 0, 45, 0, 48, 0, 77, 163, 139, 22, 177, 250, 50, 232, 210,
   41, 20, 22, 24, 2, 18, 20, 8, 151, 92, 116, 70, 117, 190, 57, 219, 156, 236, 210, 181, 54,
   248, 146, 235, 51, 139, 237, 210, 125, 37, 38, 91, 92, 114, 95, 18, 25, 235, 225, 7, 17,
   77, 69, 205, 118, 121, 39, 251, 90, 71, 185, 105, 156, 76, 142, 83, 189, 177, 126, 126,
   102, 41, 47, 14, 173, 54, 56, 113, 187, 121, 170, 63, 172, 49, 47, 29, 59, 141, 221, 240,
   219, 172, 26, 92, 108, 209, 139, 165, 182, 166, 182, 75, 135, 193, 64, 2, 57, 56, 10, 144,
   70, 165, 252, 97, 95, 223, 75, 72, 114, 169, 140, 247, 143, 194, 118, 198, 98, 5, 181, 137,
   176, 129, 141, 10, 246, 155, 106, 254, 46, 184, 127, 116, 41, 26, 0, 17, 119, 201, 37, 8,
   4, 144, 193, 106, 97, 13, 103, 254, 46, 191, 132, 228, 29, 135, 179, 218, 55, 219, 228,
   112, 159, 95, 86, 42, 235, 245, 76, 93, 151, 14, 186, 228, 20, 166, 212, 158, 89, 133, 46,
   29, 199, 17, 27, 0, 205, 15, 192, 49, 239, 1, 179, 32, 70, 222, 45, 168, 18, 162, 9, 21,
   64, 32, 133, 27, 100, 53, 50, 240, 68, 109, 50, 106, 120, 124, 143, 15, 211, 156, 204, 103,
   224, 124, 127, 166, 54, 114, 150, 207, 147, 40, 112, 238, 255, 24, 152, 240, 193, 255, 16,
   240, 30, 30, 120, 180, 26, 194, 150, 58, 44, 79, 51, 200, 34, 171, 161]

/-- Its digest. -/
def instrumentSha256 : Sha256 :=
  ⟨"08a0a59e14084892b2e3ca79067c2f20efd98bf68aba30a68e0d557106f9c691", by decide +kernel⟩

/-- The packages on the data of the part of the instrument status, which has no manifest. -/
def instrumentCodec : PartCodec where
  compress _ := instrumentFrame
  decompress _ := .ok instrumentStatus.encodedJsonl
  decodeObject _ := .ok instrumentStatus.envelope
  manifestBytes _ := []
  parseManifest _ := .error (.valueError "Invalid JSON")
  sha256 _ := instrumentSha256

/-- The part of the market status is published and read. -/
theorem marketStatus_readable : ∃ a summary codec, statusPart marketStatus = .ok a ∧
    (a.run (statusOps marketStatus)).freezeSummary = .ok summary ∧
    (a.run (statusOps marketStatus)).RoundTrips codec summary ∧
    (a.run (statusOps marketStatus)).Readable codec summary := by
  obtain ⟨a, ha, hrun⟩ := ok_of_map (show (statusPart marketStatus).toOption.map (fun a =>
      let b := a.run (statusOps marketStatus)
      (b.freezeSummary.toOption.map fun _ => (), decide (b.part.closeReason = some .shutdown),
        decide (b.part.closedAtNs = some 1709164800000000000),
        decide (b.written.flatMap plain = marketStatus.encodedJsonl))) =
      some (some (), true, true, true) by decide +kernel)
  simp only [Prod.mk.injEq, decide_eq_true_eq] at hrun
  obtain ⟨hfreeze, hreason, hclosed, hplain⟩ := hrun
  obtain ⟨summary, hfreeze, -⟩ := ok_of_map hfreeze
  have hrows : ∀ r ∈ (a.run (statusOps marketStatus)).rows, r = marketStatus :=
    fun r hr => eq_of_mem_rows ha hr
  let codec := marketCodec ((a.run (statusOps marketStatus)).manifestFields summary
    ((a.run (statusOps marketStatus)).written.flatMap fun _ => marketFrame).length
    marketSha256.hex .shutdown 1709164800000000000)
  have hcodec : (a.run (statusOps marketStatus)).RoundTrips codec summary := {
    compressed := fun _ _ => by
      change marketFrame ≠ []
      exact List.cons_ne_nil _ _
    decompressed := by
      rw [hplain]
      rfl
    rows := by
      intro r hr
      rw [hrows r hr]
      rfl
    manifest := by
      intro m hm
      rw [(publish_iff hreason hclosed).1 hm]
      rfl }
  refine ⟨a, summary, codec, ha, hfreeze, hcodec,
    (readable_iff ha (statusOps marketStatus) hfreeze (by simp [hreason]) hcodec).2 ⟨?_, ?_⟩⟩
  · decide
  · intro r hr
    have hmem : r ∈ (a.run (statusOps marketStatus)).rows := by
      rcases List.mem_append.1 hr with hr | hr
      · exact List.mem_of_head? (by simpa using hr)
      · exact List.mem_of_getLast? (by simpa using hr)
    rw [hrows r hmem]

/-- The part of the instrument status has no manifest. -/
theorem instrumentStatus_unreadable : ∃ a summary, statusPart instrumentStatus = .ok a ∧
    (a.run (statusOps instrumentStatus)).freezeSummary = .ok summary ∧
    (a.run (statusOps instrumentStatus)).part.closeReason.isSome ∧
    (a.run (statusOps instrumentStatus)).RoundTrips instrumentCodec summary ∧
    ¬(a.run (statusOps instrumentStatus)).Readable instrumentCodec summary := by
  obtain ⟨a, ha, hrun⟩ := ok_of_map (show (statusPart instrumentStatus).toOption.map (fun a =>
      let b := a.run (statusOps instrumentStatus)
      (b.freezeSummary.toOption.map fun summary =>
          (b.publish instrumentCodec summary).toOption.isNone,
        b.part.closeReason.isSome,
        decide (b.written.flatMap plain = instrumentStatus.encodedJsonl))) =
      some (some true, true, true) by decide +kernel)
  simp only [Prod.mk.injEq, decide_eq_true_eq] at hrun
  obtain ⟨hfreeze, hretired, hplain⟩ := hrun
  obtain ⟨summary, hfreeze, hrefused⟩ := ok_of_map hfreeze
  have hnone : ∀ m,
      (a.run (statusOps instrumentStatus)).publish instrumentCodec summary ≠ .ok m := by
    intro m hm
    simp [hm, Except.toOption] at hrefused
  refine ⟨a, summary, ha, hfreeze, hretired, ?_, ?_⟩
  · exact {
      compressed := fun _ _ => by
        change instrumentFrame ≠ []
        exact List.cons_ne_nil _ _
      decompressed := by
        rw [hplain]
        rfl
      rows := by
        intro r hr
        rw [eq_of_mem_rows ha hr]
        rfl
      manifest := fun m hm => absurd hm (hnone m) }
  · rintro ⟨m, hm, -⟩
    exact hnone m hm

end ActivePart

end CryptoCollector.Storage
