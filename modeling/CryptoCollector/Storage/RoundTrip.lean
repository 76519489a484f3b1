import CryptoCollector.Storage.Serialize

/-!
# Accepted lines are read back

`storage/ingress.py: RawIngress.try_accept` of a native draft, with the line that
`_build_candidate` encodes.

* `valid_buildEnvelope`: the envelope, which nothing has validated, is one that pydantic accepts.
* `accepted_roundTrips`: the line of an accepted draft is read back as that envelope.
-/

namespace CryptoCollector.Storage

open Lib

/-- A validated `NativeEventDraft`, with all of the fields of its metadata. The keys of its
dictionaries are distinct. -/
structure ValidDraft where
  draft : NativeEventDraft
  rest : Option ValidRest
  rest_eq : draft.restMetadata = rest.map ValidRest.toRestMetadata
  valid : draft.validate = none
  distinct_payload : draft.payload.Distinct
  distinct_rest : ∀ r ∈ rest, (Json.object r.dump).Distinct

/-- A validated `SourceContext`. -/
structure ValidSource extends SourceContext where
  nonempty : some "" ∉ [connectionId, egressId]

/-- What the ingress of a worker reads, with what its constructor has checked. -/
structure WorkerIngress where
  admission : Admission
  workerInstanceId : String
  worker_normalized : normalized workerInstanceId = true
  config_wellFormed : isSha256 admission.ingress.configSha256 = true

namespace WorkerIngress

variable (w : WorkerIngress) (d : ValidDraft) (source : ValidSource)

/-- The envelope of `_build_candidate`. -/
def buildEnvelope : EnvelopeRecord where
  fields := d.draft.toEnvelopeFields w.admission.clock.timeNs
    w.admission.clock.afterTime.monotonicNs w.workerInstanceId source.toSourceContext
    ((w.admission.ingress.nextSequences.get? d.draft.key).getD 0) w.admission.ingress.configSha256
  rest := d.rest
  rest_eq := d.rest_eq

end WorkerIngress

namespace JsonLibraries

variable {L : JsonLibraries} {e : EnvelopeRecord} {line : Bytes}

/-- An encoded line ends with a newline. -/
theorem exists_text_of_encodeEnvelope (h : L.encodeEnvelope e = .ok line) :
    ∃ text, line = text ++ [10] := by
  unfold encodeEnvelope at h
  dsimp only at h
  split at h
  · obtain ⟨-, h⟩ := checked_eq_ok.mp h
    obtain ⟨-, -, h⟩ := bind_eq_ok.mp h
    split at h
    · next text _ =>
      cases h
      exact ⟨text, rfl⟩
    · cases h
  · cases h

theorem exists_text_of_encodeTrusted (h : L.encodeTrustedEnvelope e = .ok line) :
    ∃ text, line = text ++ [10] := by
  unfold encodeTrustedEnvelope at h
  split at h
  · next text _ =>
    cases h
    exact ⟨text, rfl⟩
  · exact exists_text_of_encodeEnvelope h

end JsonLibraries

namespace WorkerIngress

variable (w : WorkerIngress) (d : ValidDraft) (source : ValidSource) (L : JsonLibraries)

/-- The line of `_build_candidate`. -/
def candidateLine : Except Err Bytes := L.encodeTrustedEnvelope (w.buildEnvelope d source)

variable {w d source L}

theorem length_pos_of_candidateLine {line : Bytes} (h : w.candidateLine d source L = .ok line) :
    0 < line.length := by
  obtain ⟨text, rfl⟩ := JsonLibraries.exists_text_of_encodeTrusted h
  simp

variable (w d source L)

/-- `try_accept` of a native draft. The line is encoded while the candidate is built, and admission
counts its bytes. -/
def tryAccept (cfg : IngressConfig) (resolver : Option ControlAssociationResolver)
    (shard : String) (associationBytes : Nat) (fault : Option Fault) :
    Except Err EnqueueResult × Admission :=
  match h : w.candidateLine d source L with
  | .ok line =>
    RawIngress.tryAcceptWith cfg resolver
      ⟨d.draft.toDraft source.toSourceContext line.length (length_pos_of_candidateLine h)
        associationBytes, shard, none, fault⟩ w.admission
  | .error e =>
    RawIngress.tryAcceptWith cfg resolver
      ⟨d.draft.toDraft source.toSourceContext 1 one_pos associationBytes, shard, some e, fault⟩
      w.admission

theorem tryAccept_of_line {w : WorkerIngress} {d : ValidDraft} {source : ValidSource}
    {L : JsonLibraries} {line : Bytes} (h : w.candidateLine d source L = .ok line)
    (cfg : IngressConfig) (resolver : Option ControlAssociationResolver) (shard : String)
    (associationBytes : Nat) (fault : Option Fault) :
    w.tryAccept d source L cfg resolver shard associationBytes fault =
      RawIngress.tryAcceptWith cfg resolver
        ⟨d.draft.toDraft source.toSourceContext line.length (length_pos_of_candidateLine h)
          associationBytes, shard, none, fault⟩ w.admission := by
  unfold tryAccept
  split
  · next other hother =>
    cases h.symm.trans hother
    rfl
  · next e he => cases h.symm.trans he

/-! ## Accepted envelopes -/

end WorkerIngress

namespace RawIngress

theorem sourceValid_of_validate {d : Draft} {shard : String} {capacityClass : CapacityClass}
    (h : validate d shard = .ok capacityClass) : d.sourceValid = true := by
  unfold validate at h
  dsimp only at h
  generalize (if d.key.logicalStream = "_control" then CapacityClass.control
    else CapacityClass.normal) = c at h
  split at h
  · cases h
  split at h
  · cases h
  split at h
  · cases h
  split at h
  · cases h
  split at h
  · cases h
  next hsource => simpa using hsource

/-- A draft is accepted only when its source is valid and its candidate could be built. -/
theorem of_accepted {cfg : IngressConfig} {resolver : Option ControlAssociationResolver} {o : Offer}
    {a : Admission} {status : EnqueueStatus} {record : Record}
    (h : (tryAcceptWith cfg resolver o a).1 = .ok ⟨status, some record⟩) :
    o.draft.sourceValid = true ∧ o.buildError = none := by
  unfold tryAcceptWith at h
  split at h
  · cases h
  split at h
  · cases h
  next hvalidate =>
  split at h
  · cases h
  dsimp only at h
  split at h
  · cases h
  next hbuild => exact ⟨sourceValid_of_validate hvalidate, hbuild⟩

end RawIngress

namespace WorkerIngress

variable {w : WorkerIngress} {d : ValidDraft} {source : ValidSource} {L : JsonLibraries}

/-- An accepted draft has a valid source and an encoded line. -/
theorem exists_line_of_accepted {cfg : IngressConfig}
    {resolver : Option ControlAssociationResolver} {shard : String} {associationBytes : Nat}
    {fault : Option Fault} {status : EnqueueStatus} {record : Record}
    (h : (w.tryAccept d source L cfg resolver shard associationBytes fault).1 =
      .ok ⟨status, some record⟩) :
    d.draft.validateSource source.toSourceContext = none ∧
      ∃ line, w.candidateLine d source L = .ok line := by
  unfold tryAccept at h
  split at h
  · next line hline =>
    have hsource := (RawIngress.of_accepted h).1
    exact ⟨Option.isNone_iff_eq_none.mp hsource, line, hline⟩
  · have hbuild := (RawIngress.of_accepted h).2
    cases hbuild

/-- The envelope of a valid draft with a valid source is one that pydantic accepts. -/
theorem valid_buildEnvelope (h : d.draft.validateSource source.toSourceContext = none) :
    (w.buildEnvelope d source).fields.validate = none := by
  have hdraft := d.valid
  unfold NativeEventDraft.validate at hdraft
  split at hdraft
  · cases hdraft
  next hnonempty =>
  have hfields : (w.buildEnvelope d source).fields.validateFields = none := by
    have hempty : ¬ [d.draft.instrumentKey, d.draft.wireSymbol, some d.draft.logicalStream,
        d.draft.nativeChannel, d.draft.eventTimeSource, some w.workerInstanceId,
        source.connectionId, source.egressId].contains (some "") = true := by
      have hworker : w.workerInstanceId ≠ "" := by
        intro hworker
        have hnormalized := w.worker_normalized
        rw [hworker] at hnormalized
        cases hnormalized
      have hsource := source.nonempty
      simp only [List.contains_cons, List.contains_nil, Bool.or_false, Bool.or_eq_true, beq_iff_eq,
        List.mem_cons, List.not_mem_nil, or_false, Option.some.injEq] at hnonempty hsource ⊢
      tauto
    rw [EnvelopeFields.validateFields]
    refine (if_neg hempty).trans (if_neg ?_)
    have hconfig : isSha256 (w.buildEnvelope d source).fields.configSha256 = true :=
      w.config_wellFormed
    simp [hconfig]
  rw [EnvelopeFields.validate, orElse_eq_none, orElse_eq_none]
  exact ⟨hfields, hdraft, h⟩

/-- The names in the envelope are distinct. -/
theorem distinct_buildEnvelope : (w.buildEnvelope d source).Distinct :=
  EnvelopeRecord.distinct_of_parts d.distinct_payload d.distinct_rest

/-! ## Lines -/

end WorkerIngress

/-- What the line of an envelope gives back: the envelope itself, by way of either library, and
again when what was decoded is encoded. -/
structure JsonLibraries.RoundTrips (L : JsonLibraries) (e : EnvelopeRecord) (line : Bytes)
    (decoded : ValidEnvelope) : Prop where
  newline : ∃ text, line = text ++ [10] ∧ 10 ∉ text
  decodes : L.decodeEnvelopeJsonl line = .ok decoded
  equal : decoded.equal e = true
  simplejson : ∃ line' decoded', L.encodeEnvelope e = .ok line' ∧
    L.decodeEnvelopeJsonl line' = .ok decoded' ∧ decoded.equal decoded'.toEnvelopeRecord = true
  again : ∃ line' decoded', L.encodeEnvelope decoded.toEnvelopeRecord = .ok line' ∧
    L.decodeEnvelopeJsonl line' = .ok decoded' ∧ decoded'.equal decoded.toEnvelopeRecord = true

/-- A valid envelope whose names are distinct is read back from the line that is encoded for it. -/
theorem JsonLibraries.Documented.exists_roundTrips {L : JsonLibraries} (hL : L.Documented)
    {e : ValidEnvelope} {line : Bytes} (he : e.Distinct)
    (h : L.encodeTrustedEnvelope e.toEnvelopeRecord = .ok line) :
    ∃ decoded, L.RoundTrips e.toEnvelopeRecord line decoded := by
  obtain ⟨⟨text, rfl, hholds⟩, hdumps⟩ := hL.written_of_encodeTrusted he h
  obtain ⟨decoded, hdecode, hagrees, hloads⟩ := L.decode_of_holds hholds
  have hdistinct := hagrees.symm.distinct he
  refine ⟨decoded, ⟨⟨text, rfl, ?_⟩, hdecode, hagrees.equal hdistinct, ?_, ?_⟩⟩
  · intro hnewline
    exact absurd (hholds.1.ge_space 10 hnewline) (by decide)
  · obtain ⟨other, decoded', hencode, hdecode', hagrees'⟩ := hL.again he hdumps
    exact ⟨_, decoded', hencode, hdecode', (hagrees.trans hagrees'.symm).equal hdistinct⟩
  · obtain ⟨other, decoded', hencode, hdecode', hagrees'⟩ :=
      hL.again hdistinct (hL.simplejson_writes_read text _ hloads)
    exact ⟨_, decoded', hencode, hdecode', hagrees'.equal (hagrees'.symm.distinct hdistinct)⟩

namespace WorkerIngress

variable {w : WorkerIngress} {d : ValidDraft} {source : ValidSource} {L : JsonLibraries}

/-- The line of every draft that an ingress accepts is read back as the accepted envelope. -/
theorem accepted_roundTrips (hL : L.Documented) {cfg : IngressConfig}
    {resolver : Option ControlAssociationResolver} {shard : String} {associationBytes : Nat}
    {fault : Option Fault} {status : EnqueueStatus} {record : Record}
    (h : (w.tryAccept d source L cfg resolver shard associationBytes fault).1 =
      .ok ⟨status, some record⟩) :
    ∃ line decoded, w.candidateLine d source L = .ok line ∧
      L.RoundTrips (w.buildEnvelope d source) line decoded := by
  obtain ⟨hsource, line, hline⟩ := exists_line_of_accepted h
  obtain ⟨decoded, hdecoded⟩ := hL.exists_roundTrips
    (e := ⟨w.buildEnvelope d source, valid_buildEnvelope hsource⟩) distinct_buildEnvelope
    hline
  exact ⟨line, decoded, hline, hdecoded⟩

end WorkerIngress

/-! ### A priced trade -/

/-- A trade whose price is a decimal without a fraction. -/
def pricedTrade : NativeEventDraft where
  exchange := .binance
  market := some .spot
  instrumentKey := some "BTC-USDT"
  wireSymbol := some "BTCUSDT"
  logicalStream := "trade"
  nativeChannel := some "trade"
  transport := .websocket
  eventTimeNs := none
  eventTimeSource := none
  payload := .object [("p", .decimal false 100 0)]

theorem pricedTrade_rest : pricedTrade.restMetadata =
    (none : Option ValidRest).map ValidRest.toRestMetadata := rfl

theorem pricedTrade_valid : pricedTrade.validate = none := rfl

theorem pricedTrade_distinct : pricedTrade.payload.Distinct := by
  simp [pricedTrade, Json.Distinct, Json.DistinctFields]

theorem distinct_no_rest : ∀ r ∈ (none : Option ValidRest), (Json.object r.dump).Distinct := nofun

/-- The draft of the trade. -/
def pricedDraft : ValidDraft :=
  ⟨pricedTrade, none, pricedTrade_rest, pricedTrade_valid, pricedTrade_distinct, distinct_no_rest⟩

theorem paired_c : (some "c").isNone = (some 0).isNone := rfl

/-- The connection of the trade. -/
def pricedContext : SourceContext := ⟨some "c", some 0, some "e", paired_c⟩

theorem pricedContext_nonempty :
    some "" ∉ [pricedContext.connectionId, pricedContext.egressId] := by
  decide

/-- The source of the trade. -/
def pricedSource : ValidSource := ⟨pricedContext, pricedContext_nonempty⟩

/-- An ingress before its first record, at time zero. -/
def freshAdmission : Admission where
  ingress := { configSha256 := String.ofList (List.replicate 64 '0'), configGeneration := 0 }
  budget := { workerMaxBytes := 4096, controlReserveBytes := 1024 }
  clock := ⟨0, [], []⟩

theorem normalized_w : normalized "w" = true := rfl

theorem isSha256_freshAdmission : isSha256 freshAdmission.ingress.configSha256 = true := by
  decide +kernel

/-- The worker of the trade. -/
def freshWorker : WorkerIngress := ⟨freshAdmission, "w", normalized_w, isSha256_freshAdmission⟩

/-- The envelope of the trade, as it is accepted. -/
def pricedEnvelope : EnvelopeRecord := freshWorker.buildEnvelope pricedDraft pricedSource

theorem pricedEnvelope_rest : pricedEnvelope.rest.map ValidRest.toRestMetadata =
    pricedEnvelope.rest.map ValidRest.toRestMetadata := rfl

/-- The envelope of the trade, as it is read back: its price is an integer. -/
def readEnvelope : EnvelopeRecord :=
  pricedEnvelope.withRead (.object [("p", .int 100)]) pricedEnvelope.rest pricedEnvelope_rest

/-- The text of an object. -/
def objectText (fields : List (String × Bytes)) : Bytes :=
  [123] ++ [44].intercalate (fields.map fun field =>
    ([34] ++ ascii field.1 ++ [34]) ++ [58] ++ field.2) ++ [125]

/-- The text of a string without escapes. -/
def quoted (s : String) : Bytes := [34] ++ ascii s ++ [34]

/-- The fields of the line of the trade before its payload, and after it. -/
def pricedFields : List (String × Bytes) × List (String × Bytes) :=
  ([("exchange", quoted "binance"), ("market", quoted "spot"),
    ("instrument_key", quoted "BTC-USDT"), ("wire_symbol", quoted "BTCUSDT"),
    ("logical_stream", quoted "trade"), ("native_channel", quoted "trade"),
    ("transport", quoted "websocket"), ("event_time_ns", ascii "null"),
    ("event_time_source", ascii "null"), ("integrity_mode", ascii "null"),
    ("coverage", ascii "null"), ("rest_metadata", ascii "null")],
   [("schema_version", ascii "1"), ("received_at_ns", ascii "0"), ("monotonic_ns", ascii "0"),
    ("worker_instance_id", quoted "w"), ("connection_id", quoted "c"),
    ("connection_generation", ascii "0"), ("writer_sequence", ascii "0"),
    ("egress_id", quoted "e"),
    ("config_sha256", quoted (String.ofList (List.replicate 64 '0')))])

/-- The line of the trade without its newline. -/
def pricedText : Bytes :=
  objectText (pricedFields.1 ++ [("payload", objectText [("p", ascii "100")])] ++ pricedFields.2)

/-- The libraries on the trade: orjson refuses the decimal, and simplejson writes the trade as it
was accepted and as it is read back with one text. -/
def pricedLibraries : JsonLibraries where
  orjsonDumps _ := none
  simplejsonDumps j :=
    if j = pricedEnvelope.toJson ∨ j = readEnvelope.toJson then some pricedText else none
  simplejsonLoads text := if text = pricedText then some readEnvelope.toJson else none

/-- Whether a text is a word or a quoted text without escapes. -/
def isAtomText (text : Bytes) : Bool :=
  text.all isWordByte ||
    (text = [34] ++ text.tail.dropLast ++ [34] && text.tail.dropLast.all (32 ≤ ·))

theorem jsonText_of_isAtomText {text : Bytes} (h : isAtomText text = true) : JsonText text := by
  rw [isAtomText, Bool.or_eq_true, Bool.and_eq_true] at h
  obtain h | ⟨hquoted, h⟩ := h
  · exact .word text (List.all_eq_true.mp h)
  · rw [of_decide_eq_true hquoted]
    exact .str _ fun b hb => of_decide_eq_true (List.all_eq_true.mp h b hb)

theorem jsonText_objectText {fields : List (String × Bytes)}
    (h : ∀ field ∈ fields, JsonText (quoted field.1) ∧ JsonText field.2) :
    JsonText (objectText fields) := by
  have htext := JsonText.object (fields.map fun field => (quoted field.1, field.2))
    (List.forall_mem_map.mpr fun field hfield => (h field hfield).1)
    (List.forall_mem_map.mpr fun field hfield => (h field hfield).2)
  rw [List.map_map] at htext
  exact htext

theorem jsonText_pricedText : JsonText pricedText := by
  have hatoms : ∀ field ∈ pricedFields.1 ++ pricedFields.2,
      isAtomText (quoted field.1) = true ∧ isAtomText field.2 = true := by
    decide +kernel
  have hatom : ∀ field ∈ pricedFields.1 ++ pricedFields.2,
      JsonText (quoted field.1) ∧ JsonText field.2 := fun field hfield =>
    ⟨jsonText_of_isAtomText (hatoms field hfield).1, jsonText_of_isAtomText (hatoms field hfield).2⟩
  refine jsonText_objectText fun field hfield => ?_
  simp only [List.mem_append, List.mem_singleton] at hfield
  obtain (hfield | rfl) | hfield := hfield
  · exact hatom field (List.mem_append_left _ hfield)
  · refine ⟨jsonText_of_isAtomText (by decide +kernel), jsonText_objectText fun field hfield => ?_⟩
    rw [List.mem_singleton.mp hfield]
    exact ⟨jsonText_of_isAtomText (by decide +kernel), jsonText_of_isAtomText (by decide +kernel)⟩
  · exact hatom field (List.mem_append_right _ hfield)

theorem distinct_pricedEnvelope : pricedEnvelope.Distinct := WorkerIngress.distinct_buildEnvelope

/-- The price is read back as an integer of the same value. -/
theorem reads_pricedEnvelope : Json.Reads pricedEnvelope.toJson readEnvelope.toJson := by
  refine Json.readsFields_iff.mpr (envelopeSchema.forall₂_dump fun f => ?_)
  by_cases hpayload : f = .payload
  · rw [hpayload]
    exact ⟨rfl, rfl, rfl⟩
  by_cases hrest : f = .restMetadata
  · rw [hrest]
    exact Json.reads_self _
  rw [readEnvelope, EnvelopeRecord.get_withRead _ _ hrest hpayload]
  exact Json.reads_self _

theorem pricedLibraries_documented : pricedLibraries.Documented := by
  have hloads : pricedLibraries.simplejsonLoads pricedText = some readEnvelope.toJson := by
    simp [pricedLibraries]
  refine ⟨nofun, ?_, nofun, ?_⟩
  · intro j text htext hdistinct
    obtain ⟨hj, htext⟩ := Option.ite_none_right_eq_some.mp htext
    cases htext
    refine ⟨jsonText_pricedText, _, hloads, ?_⟩
    obtain rfl | rfl := hj
    · exact reads_pricedEnvelope
    · exact Json.reads_self _
  · intro text j hj
    obtain ⟨-, hj⟩ := Option.ite_none_right_eq_some.mp hj
    cases hj
    simp [pricedLibraries]

theorem pricedTrade_line :
    freshWorker.candidateLine pricedDraft pricedSource pricedLibraries =
      .ok (pricedText ++ [10]) := by
  have hsource : pricedTrade.validateSource pricedContext = none := rfl
  have hdumps : pricedLibraries.simplejsonDumps pricedEnvelope.toJson = some pricedText := by
    simp [pricedLibraries]
  have hencode := pricedLibraries.encodeEnvelope_eq
    ⟨pricedEnvelope, WorkerIngress.valid_buildEnvelope hsource⟩
  rw [hdumps] at hencode
  exact hencode

/-- A fresh ingress has room for the line. -/
theorem pricedTrade_accepted {n : Nat} (hpos : 0 < n) (hn : n = 535) :
    ∃ status record, (RawIngress.tryAcceptWith ⟨4096, 1024, 10, 4096, 3000⟩ none
      ⟨pricedTrade.toDraft pricedContext n hpos 0, "s", none, none⟩ freshAdmission).1 =
        .ok ⟨status, some record⟩ := by
  subst hn
  have hresult : (RawIngress.tryAcceptWith ⟨4096, 1024, 10, 4096, 3000⟩ none
      ⟨pricedTrade.toDraft pricedContext 535 (by decide) 0, "s", none, none⟩
      freshAdmission).1.toOption.map (·.record.isSome) = some true := by
    decide +kernel
  obtain ⟨⟨status, record⟩, hok, hsome⟩ := ok_of_map hresult
  obtain ⟨record, rfl⟩ := Option.isSome_iff_exists.mp hsome
  exact ⟨status, record, hok⟩

/-- The line of a priced trade, which simplejson has written, is read back. -/
theorem pricedTrade_roundTrips :
    ∃ line decoded, freshWorker.candidateLine pricedDraft pricedSource pricedLibraries = .ok line ∧
      pricedLibraries.RoundTrips pricedEnvelope line decoded := by
  have haccepted : ∃ status record, (freshWorker.tryAccept pricedDraft pricedSource pricedLibraries
      ⟨4096, 1024, 10, 4096, 3000⟩ none "s" 0 none).1 = .ok ⟨status, some record⟩ := by
    rw [WorkerIngress.tryAccept_of_line pricedTrade_line]
    exact pricedTrade_accepted _ (by decide +kernel)
  obtain ⟨status, record, h⟩ := haccepted
  exact WorkerIngress.accepted_roundTrips pricedLibraries_documented h

end CryptoCollector.Storage
