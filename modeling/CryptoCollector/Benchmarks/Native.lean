import CryptoCollector.Lib.Numerals
import CryptoCollector.Storage.Decode

/-!
# Native fields

`model_dump(mode="json")`, in which a decimal becomes a string, and the projection of an envelope
on its native fields that the verifier hashes.

* `eq_of_reads_jsonMode`: what is read of a value in JSON mode is the value itself.
* `eq_of_nativeProjection`: envelopes of one projection have the same native fields.
-/

namespace CryptoCollector.Storage

open Lib

namespace Json

/-! ## JSON mode -/

mutual

/-- A value as `model_dump(mode="json")` gives it. -/
def jsonMode : Json → Json
  | .decimal negative coefficient exponent =>
    .str (String.ofList (Decimal.text ⟨negative, coefficient, exponent⟩))
  | .list items => .list (jsonModeItems items)
  | .object fields => .object (jsonModeFields fields)
  | .null => .null
  | .bool b => .bool b
  | .int n => .int n
  | .str s => .str s

/-- The items in JSON mode. -/
def jsonModeItems : List Json → List Json
  | [] => []
  | item :: items => jsonMode item :: jsonModeItems items

/-- The fields in JSON mode. -/
def jsonModeFields : List (String × Json) → List (String × Json)
  | [] => []
  | (name, field) :: fields => (name, jsonMode field) :: jsonModeFields fields

end

theorem jsonModeFields_eq_map (fields : List (String × Json)) :
    jsonModeFields fields = fields.map fun field => (field.1, field.2.jsonMode) := by
  induction fields with
  | nil => rfl
  | cons field fields ih => rw [jsonModeFields, ih, List.map_cons]

theorem jsonMode_of_atom {j : Json} (h : j.Atom) : j.jsonMode = j := by
  cases j with
  | list items => exact h.elim
  | object fields => exact h.elim
  | decimal negative coefficient exponent => exact h.elim
  | _ => rw [jsonMode]

mutual

/-- What is read of a value in JSON mode is the value itself: it has no decimals. -/
theorem eq_of_reads_jsonMode : (j b : Json) → Reads j.jsonMode b → b = j.jsonMode
  | .list items, b, h => by
    rw [jsonMode] at h ⊢
    cases b with
    | list others => rw [eq_of_readsItems_jsonMode items others h]
    | _ => simp [Reads] at h
  | .object fields, b, h => by
    rw [jsonMode] at h ⊢
    cases b with
    | object others => rw [eq_of_readsFields_jsonMode fields others h]
    | _ => simp [Reads] at h
  | .decimal _ _ _, _, h => by
    rw [jsonMode] at h ⊢
    exact eq_of_reads (a := .str _) trivial h
  | .null, _, h => eq_of_reads (a := .null) trivial (by rwa [jsonMode] at h)
  | .bool _, _, h => eq_of_reads (a := .bool _) trivial (by rwa [jsonMode] at h)
  | .int _, _, h => eq_of_reads (a := .int _) trivial (by rwa [jsonMode] at h)
  | .str _, _, h => eq_of_reads (a := .str _) trivial (by rwa [jsonMode] at h)

theorem eq_of_readsItems_jsonMode : (items others : List Json) →
    ReadsItems (jsonModeItems items) others → others = jsonModeItems items
  | [], _, h => h
  | _ :: _, [], h => h.elim
  | item :: items, other :: others, h => by
    rw [jsonModeItems, eq_of_reads_jsonMode item other h.1,
      eq_of_readsItems_jsonMode items others h.2]

theorem eq_of_readsFields_jsonMode : (fields others : List (String × Json)) →
    ReadsFields (jsonModeFields fields) others → others = jsonModeFields fields
  | [], _, h => h
  | _ :: _, [], h => h.elim
  | (name, field) :: fields, (otherName, other) :: others, h => by
    rw [jsonModeFields, ← h.1, eq_of_reads_jsonMode field other h.2.1,
      eq_of_readsFields_jsonMode fields others h.2.2]

end

mutual

/-- JSON mode keeps the names. -/
theorem distinct_jsonMode : (j : Json) → j.Distinct → j.jsonMode.Distinct
  | .list items, h => by
    rw [jsonMode]
    exact distinctItems_jsonMode items h
  | .object fields, h => by
    rw [jsonMode]
    refine ⟨?_, distinctFields_jsonMode fields h.2⟩
    rw [jsonModeFields_eq_map, List.map_map]
    exact h.1
  | .decimal _ _ _, _ => by
    rw [jsonMode]
    trivial
  | .null, h => h
  | .bool _, h => h
  | .int _, h => h
  | .str _, h => h

theorem distinctItems_jsonMode : (items : List Json) → DistinctItems items →
    DistinctItems (jsonModeItems items)
  | [], _ => trivial
  | item :: items, h => ⟨distinct_jsonMode item h.1, distinctItems_jsonMode items h.2⟩

theorem distinctFields_jsonMode : (fields : List (String × Json)) → DistinctFields fields →
    DistinctFields (jsonModeFields fields)
  | [], _ => trivial
  | (_, field) :: fields, h => ⟨distinct_jsonMode field h.1, distinctFields_jsonMode fields h.2⟩

end

end Json

/-! ## The projection -/

/-- The fields of `NativeEventDraft` but its payload. -/
def draftFields : List EnvelopeField :=
  [.exchange, .market, .instrumentKey, .wireSymbol, .logicalStream, .nativeChannel, .transport,
    .eventTimeNs, .eventTimeSource, .integrityMode, .coverage, .restMetadata]

/-- The fields of `SourceContext`. -/
def sourceFields : List EnvelopeField := [.connectionId, .connectionGeneration, .egressId]

namespace EnvelopeRecord

/-- The fields of an object, from those of an envelope. -/
def project (e : EnvelopeRecord) (fields : List EnvelopeField) : Json :=
  .object (fields.map fun f => (f.name, (e.get f).toJson))

/-- What `_observed_native_sha256` hashes. -/
def nativeProjection (e : EnvelopeRecord) : Json :=
  .object [("draft", (e.project draftFields).jsonMode), ("source", e.project sourceFields)]

theorem atom_of_mem_sourceFields (e : EnvelopeRecord) {f : EnvelopeField} (hf : f ∈ sourceFields) :
    (e.get f).toJson.Atom := by
  refine e.atom_get ?_ ?_ <;> rintro rfl <;> exact absurd hf (by decide)

theorem jsonMode_project (e : EnvelopeRecord) (fields : List EnvelopeField) :
    (e.project fields).jsonMode =
      .object (fields.map fun f => (f.name, (e.get f).toJson.jsonMode)) := by
  rw [project, Json.jsonMode, Json.jsonModeFields_eq_map, List.map_map]
  rfl

/-- The source fields have no decimals. -/
theorem jsonMode_source (e : EnvelopeRecord) :
    (e.project sourceFields).jsonMode = e.project sourceFields := by
  rw [jsonMode_project, project]
  congr 1
  refine List.map_congr_left fun f hf => ?_
  rw [Json.jsonMode_of_atom (e.atom_of_mem_sourceFields hf)]

/-- The native fields of an envelope. -/
def nativeFields (e : EnvelopeRecord) : Json :=
  .object [("draft", e.project draftFields), ("source", e.project sourceFields)]

/-- The projection is the native fields in JSON mode. -/
theorem nativeProjection_eq (e : EnvelopeRecord) :
    e.nativeProjection = e.nativeFields.jsonMode := by
  rw [nativeProjection, nativeFields, Json.jsonMode, Json.jsonModeFields, Json.jsonModeFields,
    Json.jsonModeFields, jsonMode_source]

theorem distinct_project {e : EnvelopeRecord} (he : e.Distinct) {fields : List EnvelopeField}
    (hnames : (fields.map EnvelopeField.name).Nodup) : (e.project fields).Distinct := by
  refine ⟨?_, Json.distinctFields_iff.mpr fun field hfield => ?_⟩
  · rw [List.map_map]
    exact hnames
  · obtain ⟨f, -, rfl⟩ := List.mem_map.mp hfield
    exact distinct_iff.mp he f

theorem distinct_nativeFields {e : EnvelopeRecord} (he : e.Distinct) : e.nativeFields.Distinct :=
  ⟨by simp, distinct_project he (by decide), distinct_project he (by decide), trivial⟩

/-- Envelopes of one projection agree on the fields of the draft in JSON mode. -/
theorem draft_of_nativeProjection {e f : EnvelopeRecord}
    (h : e.nativeProjection = f.nativeProjection) {field : EnvelopeField}
    (hfield : field ∈ draftFields) :
    (e.get field).toJson.jsonMode = (f.get field).toJson.jsonMode := by
  rw [nativeProjection, nativeProjection, jsonMode_project, jsonMode_project] at h
  simp only [Json.object.injEq, List.cons.injEq, Prod.mk.injEq, true_and] at h
  have hentry := List.map_inj_left.mp h.1 field hfield
  exact congrArg Prod.snd hentry

theorem source_of_nativeProjection {e f : EnvelopeRecord}
    (h : e.nativeProjection = f.nativeProjection) {field : EnvelopeField}
    (hfield : field ∈ sourceFields) : (e.get field).toJson = (f.get field).toJson := by
  rw [nativeProjection, nativeProjection, project, project, project, project] at h
  simp only [Json.object.injEq, List.cons.injEq, Prod.mk.injEq, true_and, and_true] at h
  have hentry := List.map_inj_left.mp h.2 field hfield
  exact congrArg Prod.snd hentry

/-- Envelopes of one projection agree on every native field but the metadata. -/
theorem get_of_nativeProjection {e f : EnvelopeRecord}
    (h : e.nativeProjection = f.nativeProjection) {field : EnvelopeField}
    (hfield : field ∈ draftFields ++ sourceFields) (hrest : field ≠ .restMetadata) :
    (e.get field).toJson = (f.get field).toJson := by
  have hpayload : field ≠ .payload := by
    rintro rfl
    exact absurd hfield (by decide)
  obtain hdraft | hsource := List.mem_append.mp hfield
  · have heq := draft_of_nativeProjection h hdraft
    rwa [Json.jsonMode_of_atom (e.atom_get hrest hpayload),
      Json.jsonMode_of_atom (f.atom_get hrest hpayload)] at heq
  · exact source_of_nativeProjection h hsource

end EnvelopeRecord

/-! ## Native fields are read off -/

theorem Json.ofOption_injective {α : Type} {f : α → Json} (hf : Function.Injective f)
    (hnull : ∀ a, f a ≠ .null) : Function.Injective (Json.ofOption f) := by
  intro a b h
  cases a with
  | none =>
    cases b with
    | none => rfl
    | some b => exact absurd h.symm (hnull b)
  | some a =>
    cases b with
    | none => exact absurd h (hnull a)
    | some b => exact congrArg some (hf h)

theorem Json.ofOption_str_injective : Function.Injective (Json.ofOption Json.str) :=
  Json.ofOption_injective (fun _ _ h => by simpa using h) nofun

theorem Json.ofNat_injective : Function.Injective Json.ofNat := fun _ _ h => by
  simpa [Json.ofNat] using h

theorem Json.ofOption_ofNat_injective : Function.Injective (Json.ofOption Json.ofNat) :=
  Json.ofOption_injective Json.ofNat_injective nofun

theorem WireValue.toJson_member_injective {α : Type} (member : α → Member)
    (hmember : ∀ a b, (member a).value = (member b).value → a = b) :
    Function.Injective fun o => (WireValue.ofOption (fun a => .member (member a)) o).toJson := by
  have heq : (fun o => (WireValue.ofOption (fun a => .member (member a)) o).toJson) =
      Json.ofOption fun a => .str (member a).value := by
    funext o
    cases o <;> rfl
  rw [heq]
  exact Json.ofOption_injective (fun a b h => hmember a b (by simpa using h)) nofun

namespace RestRecord

/-- Metadata of one dictionary in JSON mode is one, where the parameters of the second are not
rewritten. -/
theorem eq_of_jsonMode_dump {r s : RestRecord}
    (h : (Json.object r.dump).jsonMode = (Json.object s.dump).jsonMode)
    (hparams : ∀ params, (Json.object params).jsonMode = (Json.object s.params).jsonMode →
      params = s.params) : r = s := by
  have hdump : ∀ r : RestRecord, Json.jsonModeFields r.dump =
      restSchema.dump fun f => (r.get f).jsonMode := by
    intro r
    rw [Json.jsonModeFields_eq_map, dump, restSchema.map_dump]
    rfl
  rw [Json.jsonMode, Json.jsonMode, hdump, hdump, Json.object.injEq] at h
  have hget := congrFun (restSchema.dump_injective h)
  have hatom : ∀ f, f ≠ .params → f ≠ .rateLimitHeaders → r.get f = s.get f := by
    intro f hf hf'
    have heq := hget f
    rwa [Json.jsonMode_of_atom (r.atom_get hf hf'),
      Json.jsonMode_of_atom (s.atom_get hf hf')] at heq
  have hheaders : r.rateLimitHeaders = s.rateLimitHeaders := by
    have hplain : ∀ headers, (Json.ofHeaders headers).jsonMode = Json.ofHeaders headers := by
      intro headers
      rw [Json.ofHeaders, Json.jsonMode, Json.jsonModeFields_eq_map, List.map_map]
      rfl
    have heq := hget .rateLimitHeaders
    rw [get, get, hplain, hplain, Json.ofHeaders, Json.ofHeaders, Json.object.injEq] at heq
    refine List.map_injective_iff.mpr (fun a b hab => ?_) heq
    simpa [Prod.ext_iff] using hab
  obtain ⟨_, _, _, _, params, _, _, _, _, _⟩ := r
  obtain ⟨_, _, _, _, _, _, _, _, _, _⟩ := s
  have hsame : params = _ := hparams params (hget .params)
  rw [mk.injEq]
  exact ⟨Json.ofNat_injective (hatom .requestStartedAtNs (by decide) (by decide)),
    Json.ofNat_injective (hatom .requestEndedAtNs (by decide) (by decide)),
    Json.str.inj (hatom .method (by decide) (by decide)),
    Json.str.inj (hatom .path (by decide) (by decide)), hsame,
    Json.ofNat_injective (hatom .status (by decide) (by decide)),
    Json.ofNat_injective (hatom .attempt (by decide) (by decide)), hheaders,
    Json.ofOption_ofNat_injective (hatom .requestedIntervalNs (by decide) (by decide)),
    Json.ofOption_ofNat_injective (hatom .effectiveIntervalNs (by decide) (by decide))⟩

end RestRecord

namespace EnvelopeRecord

/-- Envelopes of one projection have the same metadata, where the parameters of the second are not
rewritten. -/
theorem rest_of_nativeProjection {e f : EnvelopeRecord}
    (h : e.nativeProjection = f.nativeProjection)
    (hparams : ∀ r ∈ f.rest, ∀ params,
      (Json.object params).jsonMode = (Json.object r.params).jsonMode → params = r.params) :
    e.rest = f.rest := by
  have heq := @draft_of_nativeProjection _ _ h .restMetadata (by decide)
  rw [get, get] at heq
  cases hr : e.rest with
  | none =>
    cases hs : f.rest with
    | none => rfl
    | some s =>
      rw [hr, hs] at heq
      simp [WireValue.ofOption, WireValue.toJson, Json.jsonMode] at heq
  | some r =>
    cases hs : f.rest with
    | none =>
      rw [hr, hs] at heq
      simp [WireValue.ofOption, WireValue.toJson, Json.jsonMode] at heq
    | some s =>
      rw [hr, hs] at heq
      have hrecord := RestRecord.eq_of_jsonMode_dump heq (hparams s hs)
      obtain ⟨r, _⟩ := r
      obtain ⟨s, _⟩ := s
      obtain rfl : r = s := hrecord
      rfl

/-- The fields that the native draft and the source do not give. -/
def withOwn (native own : EnvelopeFields) : EnvelopeFields :=
  { native with
    payload := own.payload
    receivedAtNs := own.receivedAtNs
    monotonicNs := own.monotonicNs
    workerInstanceId := own.workerInstanceId
    writerSequence := own.writerSequence
    configSha256 := own.configSha256 }

/-- Envelopes of one projection have the same native fields. -/
theorem eq_of_nativeProjection {e f : EnvelopeRecord}
    (h : e.nativeProjection = f.nativeProjection) (hrest : e.rest = f.rest) :
    e.fields = withOwn f.fields e.fields := by
  have hmetadata : e.fields.restMetadata = f.fields.restMetadata := by
    rw [e.rest_eq, f.rest_eq, hrest]
  have hget : ∀ field ∈ draftFields ++ sourceFields, field ≠ .restMetadata →
      (e.get field).toJson = (f.get field).toJson :=
    fun field hfield => get_of_nativeProjection h hfield
  have hexchange : e.fields.exchange = f.fields.exchange :=
    Exchange.value_injective (Json.str.inj (hget .exchange (by decide) (by decide)))
  have htransport : e.fields.transport = f.fields.transport :=
    Transport.value_injective (Json.str.inj (hget .transport (by decide) (by decide)))
  have hmarket : e.fields.market = f.fields.market :=
    WireValue.toJson_member_injective .market
      (fun _ _ h => Market.value_injective h) (hget .market (by decide) (by decide))
  have hintegrity : e.fields.integrityMode = f.fields.integrityMode :=
    WireValue.toJson_member_injective .integrityMode
      (fun _ _ h => IntegrityMode.value_injective h) (hget .integrityMode (by decide) (by decide))
  have hcoverage : e.fields.coverage = f.fields.coverage :=
    WireValue.toJson_member_injective .coverage
      (fun _ _ h => CoverageMode.value_injective h) (hget .coverage (by decide) (by decide))
  have hinstrument : e.fields.instrumentKey = f.fields.instrumentKey :=
    Json.ofOption_str_injective (hget .instrumentKey (by decide) (by decide))
  have hsymbol : e.fields.wireSymbol = f.fields.wireSymbol :=
    Json.ofOption_str_injective (hget .wireSymbol (by decide) (by decide))
  have hstream : e.fields.logicalStream = f.fields.logicalStream :=
    Json.str.inj (hget .logicalStream (by decide) (by decide))
  have hchannel : e.fields.nativeChannel = f.fields.nativeChannel :=
    Json.ofOption_str_injective (hget .nativeChannel (by decide) (by decide))
  have htime : e.fields.eventTimeNs = f.fields.eventTimeNs :=
    Json.ofOption_ofNat_injective (hget .eventTimeNs (by decide) (by decide))
  have htimeSource : e.fields.eventTimeSource = f.fields.eventTimeSource :=
    Json.ofOption_str_injective (hget .eventTimeSource (by decide) (by decide))
  have hconnection : e.fields.connectionId = f.fields.connectionId :=
    Json.ofOption_str_injective (hget .connectionId (by decide) (by decide))
  have hgeneration : e.fields.connectionGeneration = f.fields.connectionGeneration :=
    Json.ofOption_ofNat_injective (hget .connectionGeneration (by decide) (by decide))
  have hegress : e.fields.egressId = f.fields.egressId :=
    Json.ofOption_str_injective (hget .egressId (by decide) (by decide))
  rw [withOwn, ← hexchange, ← htransport, ← hmarket, ← hintegrity, ← hcoverage, ← hinstrument,
    ← hsymbol, ← hstream, ← hchannel, ← htime, ← htimeSource, ← hconnection, ← hgeneration,
    ← hegress, ← hmetadata]

end EnvelopeRecord

end CryptoCollector.Storage
