import CryptoCollector.Lib.Texts
import CryptoCollector.Storage.ControlDraft
import CryptoCollector.Storage.Wire

/-!
# Encoding and decoding envelopes

`storage/serialize.py` and `domain/json_codec.py`, with the two JSON libraries as parameters. An
accepted envelope is written without validation by the first library that can write it, and read
back through the conversion of its enumerations and the validation of every field.

* `decodeFields_of_reads`: what is read of a written envelope is validated to an envelope that is
  equal to it.
-/

namespace CryptoCollector.Storage

open Lib

/-! ## Enumerations -/

/-- `_ENUM_FIELDS`. -/
def enumFields : List EnvelopeField := [.exchange, .market, .transport, .integrityMode, .coverage]

/-- `_ENUM_TYPES`: the member of the enumeration of a field. -/
def enumMember (f : EnvelopeField) (value : String) : Option Member :=
  match f with
  | .exchange => (Exchange.ofValue value).map .exchange
  | .market => (Market.ofValue value).map .market
  | .transport => (Transport.ofValue value).map .transport
  | .integrityMode => (IntegrityMode.ofValue value).map .integrityMode
  | .coverage => (CoverageMode.ofValue value).map .coverage
  | _ => none

/-- One round of the loop of `decode_envelope_jsonl`. -/
def convertEnum (wire : List (String × WireValue)) (f : EnvelopeField) :
    Except Err (List (String × WireValue)) :=
  match wire.lookup f.name with
  | none | some (.json .null) => .ok wire
  | some (.json (.str value)) =>
    match enumMember f value with
    | some m => .ok (assign wire f.name (.member m))
    | none => .error (.valueError (value ++ " is not a valid " ++ f.name))
  | some _ => .error (.valueError ("not a valid " ++ f.name))

/-- `decode_envelope_jsonl`, after the object has been read. -/
def decodeFields (fields : List (String × Json)) : Except Err ValidEnvelope := do
  let wire ← enumFields.foldlM convertEnum (fields.map fun field => (field.1, .json field.2))
  EnvelopeRecord.modelValidate wire

theorem convertEnum_member {current : EnvelopeField → WireValue} {f : EnvelopeField} {m : Member}
    (hcurrent : current f = .json (.str m.value)) (hmember : enumMember f m.value = some m) :
    convertEnum (envelopeSchema.dump current) f =
      .ok (envelopeSchema.dump (Function.update current f (.member m))) := by
  have hlookup := envelopeSchema.lookup_dump current f
  have hassign := envelopeSchema.assign_dump current f (.member m)
  rw [show envelopeSchema.name f = f.name from rfl] at hlookup hassign
  rw [convertEnum, hlookup, hcurrent]
  dsimp only
  rw [hmember]
  dsimp only
  rw [hassign]

theorem convertEnum_null {current : EnvelopeField → WireValue} {f : EnvelopeField}
    (hcurrent : current f = .json .null) :
    convertEnum (envelopeSchema.dump current) f =
      .ok (envelopeSchema.dump (Function.update current f (.json .null))) := by
  have hlookup := envelopeSchema.lookup_dump current f
  rw [show envelopeSchema.name f = f.name from rfl] at hlookup
  have hsame : Function.update current f (.json .null) = current := by
    rw [← hcurrent, Function.update_eq_self]
  rw [hsame, convertEnum, hlookup, hcurrent]

/-- A member or null comes back through its string. -/
theorem convertEnum_ofOption {α : Type} {current : EnvelopeField → WireValue} {f : EnvelopeField}
    {member : α → Member} (hmember : ∀ a, enumMember f (member a).value = some (member a))
    {o : Option α}
    (hcurrent : current f = .json (WireValue.ofOption (fun a => .member (member a)) o).toJson) :
    convertEnum (envelopeSchema.dump current) f =
      .ok (envelopeSchema.dump (Function.update current f
        (WireValue.ofOption (fun a => .member (member a)) o).dumped)) := by
  cases o with
  | none => exact convertEnum_null hcurrent
  | some a => exact convertEnum_member hcurrent (hmember a)

/-- The enumerations of an envelope come back through their strings. -/
theorem convertEnum_toJson (e : EnvelopeRecord) {f : EnvelopeField} (hf : f ∈ enumFields)
    {current : EnvelopeField → WireValue} (hcurrent : current f = .json (e.get f).toJson) :
    convertEnum (envelopeSchema.dump current) f =
      .ok (envelopeSchema.dump (Function.update current f (e.get f).dumped)) := by
  simp only [enumFields, List.mem_cons, List.not_mem_nil, or_false] at hf
  obtain rfl | rfl | rfl | rfl | rfl := hf
  · exact convertEnum_member hcurrent (by cases e.fields.exchange <;> decide)
  · exact convertEnum_ofOption (fun m => by cases m <;> decide) hcurrent
  · exact convertEnum_member hcurrent (by cases e.fields.transport <;> decide)
  · exact convertEnum_ofOption (fun i => by cases i <;> decide) hcurrent
  · exact convertEnum_ofOption (fun c => by cases c <;> decide) hcurrent

/-! ## What is read of a written envelope -/

namespace EnvelopeRecord

/-- Apart from its metadata and its payload, an envelope has no parts. -/
theorem atom_get (e : EnvelopeRecord) {f : EnvelopeField} (hrest : f ≠ .restMetadata)
    (hpayload : f ≠ .payload) : (e.get f).toJson.Atom := by
  have hoption : ∀ {α : Type} (member : α → Member) (o : Option α),
      (WireValue.ofOption (fun a => .member (member a)) o).toJson.Atom := by
    intro α member o
    cases o <;> trivial
  cases f with
  | restMetadata => exact absurd rfl hrest
  | payload => exact absurd rfl hpayload
  | market => exact hoption Member.market _
  | integrityMode => exact hoption Member.integrityMode _
  | coverage => exact hoption Member.coverage _
  | instrumentKey => exact Json.atom_ofOption Json.atom_str _
  | wireSymbol => exact Json.atom_ofOption Json.atom_str _
  | nativeChannel => exact Json.atom_ofOption Json.atom_str _
  | eventTimeNs => exact Json.atom_ofOption Json.atom_ofNat _
  | eventTimeSource => exact Json.atom_ofOption Json.atom_str _
  | connectionId => exact Json.atom_ofOption Json.atom_str _
  | connectionGeneration => exact Json.atom_ofOption Json.atom_ofNat _
  | egressId => exact Json.atom_ofOption Json.atom_str _
  | _ => trivial

/-- A field that is no enumeration is dumped as JSON. -/
theorem dumped_get (e : EnvelopeRecord) {f : EnvelopeField} (hf : f ∉ enumFields) :
    (e.get f).dumped = .json (e.get f).toJson := by
  cases f with
  | restMetadata => rw [get]; cases e.rest <;> rfl
  | _ => first | rfl | exact absurd (by decide) hf

/-- An envelope with another payload and other metadata for the same validation. -/
def withRead (e : EnvelopeRecord) (payload : Json) (rest : Option ValidRest)
    (h : rest.map ValidRest.toRestMetadata = e.rest.map ValidRest.toRestMetadata) :
    EnvelopeRecord where
  fields := { e.fields with payload }
  rest
  rest_eq := e.rest_eq.trans h.symm

theorem get_withRead (e : EnvelopeRecord) {payload : Json} {rest : Option ValidRest}
    (h : rest.map ValidRest.toRestMetadata = e.rest.map ValidRest.toRestMetadata)
    {f : EnvelopeField} (hrest : f ≠ .restMetadata) (hpayload : f ≠ .payload) :
    (e.withRead payload rest h).get f = e.get f := by
  cases f with
  | restMetadata => exact absurd rfl hrest
  | payload => exact absurd rfl hpayload
  | _ => rfl

end EnvelopeRecord

/-- What is read of optional metadata. -/
theorem exists_rest_of_reads {rest : Option ValidRest} {b : Json}
    (h : Json.Reads (WireValue.ofOption .model rest).toJson b) :
    ∃ other : Option ValidRest, b = (WireValue.ofOption .model other).toJson ∧
      other.map ValidRest.toRestMetadata = rest.map ValidRest.toRestMetadata := by
  cases rest with
  | none => exact ⟨none, Json.eq_of_reads (a := .null) trivial h, rfl⟩
  | some r =>
    obtain ⟨s, hs, hmetadata, -⟩ := ValidRest.exists_of_reads h
    exact ⟨some s, hs, congrArg some hmetadata⟩

/-- What is read of a written envelope is the dictionary of an envelope that is validated as the
written one is. -/
theorem exists_of_reads {e : EnvelopeRecord} {fields : List (String × Json)}
    (h : Json.Reads e.toJson (.object fields)) :
    ∃ e' : EnvelopeRecord,
      enumFields.foldlM convertEnum (fields.map fun field => (field.1, .json field.2)) =
        .ok e'.modelDump ∧
      { e'.fields with payload := .null } = { e.fields with payload := .null } ∧
      e'.toJson = .object fields := by
  obtain ⟨get, rfl, hget⟩ := envelopeSchema.exists_dump (Json.readsFields_iff.mp h)
  obtain ⟨rest, hrest, hmetadata⟩ := exists_rest_of_reads (hget .restMetadata)
  let e' := e.withRead (get .payload) rest hmetadata
  have hjson : ∀ f, (e'.get f).toJson = get f := by
    intro f
    by_cases hr : f = .restMetadata
    · rw [hr, hrest]
      rfl
    by_cases hp : f = .payload
    · rw [hp]
      rfl
    rw [e.get_withRead hmetadata hr hp]
    exact (Json.eq_of_reads (e.atom_get hr hp) (hget f)).symm
  refine ⟨e', ?_, rfl, congrArg (Json.object ∘ envelopeSchema.dump) (funext hjson)⟩
  rw [envelopeSchema.map_dump, envelopeSchema.foldlM_assign _ fun f => (e'.get f).dumped]
  · refine congrArg (Except.ok ∘ envelopeSchema.dump) (funext fun f => ?_)
    by_cases hf : f ∈ enumFields
    · exact if_pos hf
    · rw [if_neg hf, Function.comp, ← hjson f, e'.dumped_get hf]
  · intro f hf current hcurrent
    refine convertEnum_toJson e' hf ?_
    rw [hcurrent, hjson]
    rfl
  · decide

/-! ## Envelopes that differ in their decimals -/

theorem Json.valueFields_dump {F : Type} (S : Schema F) (get : F → Json) :
    Json.valueFields (S.dump get) = S.dump fun f => (get f).value := by
  have hmap : ∀ fields : List (String × Json),
      Json.valueFields fields = fields.map fun field => (field.1, field.2.value) := by
    intro fields
    induction fields with
    | nil => rfl
    | cons field fields ih => rw [Json.valueFields, ih, List.map_cons]
  rw [hmap, S.map_dump]
  rfl

theorem Json.distinctFields_iff {fields : List (String × Json)} :
    Json.DistinctFields fields ↔ ∀ field ∈ fields, field.2.Distinct := by
  induction fields with
  | nil => simp [Json.DistinctFields]
  | cons field fields ih => simp [Json.DistinctFields, ih]

theorem Json.distinct_dump {F : Type} (S : Schema F) (get : F → Json) :
    (Json.object (S.dump get)).Distinct ↔ ∀ f, (get f).Distinct := by
  rw [Json.Distinct, S.map_fst_dump, Json.distinctFields_iff]
  constructor
  · intro h f
    exact h.2 _ (List.mem_map_of_mem (S.complete f))
  · intro h
    refine ⟨S.nodup, fun field hfield => ?_⟩
    obtain ⟨f, -, rfl⟩ := List.mem_map.mp hfield
    exact h f

namespace EnvelopeRecord

/-- Two envelopes that are the same but for the way in which the numbers of their payloads and of
their metadata are written. -/
structure Agrees (e f : EnvelopeRecord) : Prop where
  fields : { e.fields with payload := .null } = { f.fields with payload := .null }
  value : e.toJson.value = f.toJson.value

theorem Agrees.symm {e f : EnvelopeRecord} (h : e.Agrees f) : f.Agrees e :=
  ⟨h.fields.symm, h.value.symm⟩

theorem Agrees.trans {e f g : EnvelopeRecord} (h : e.Agrees f) (h' : f.Agrees g) : e.Agrees g :=
  ⟨h.fields.trans h'.fields, h.value.trans h'.value⟩

theorem Agrees.get {e f : EnvelopeRecord} (h : e.Agrees f) (field : EnvelopeField) :
    (e.get field).toJson.value = (f.get field).toJson.value := by
  have hvalue := h.value
  rw [toJson, toJson, Json.value, Json.value, JsonValue.object.injEq, Json.valueFields_dump,
    Json.valueFields_dump] at hvalue
  exact congrFun (envelopeSchema.dump_injective hvalue) field

/-- The validation of an envelope does not look into the payload. -/
theorem Agrees.validate_eq {e f : EnvelopeRecord} (h : e.Agrees f) :
    e.fields.validate = f.fields.validate := by
  have hvalidate := congrArg EnvelopeFields.validate h.fields
  exact hvalidate

/-- The names in every part of an envelope are distinct. -/
def Distinct (e : EnvelopeRecord) : Prop := e.toJson.Distinct

theorem Agrees.distinct {e f : EnvelopeRecord} (h : e.Agrees f) (he : e.Distinct) : f.Distinct :=
  Json.distinct_of_value _ _ h.value.symm he

/-- The values of every field have distinct names. -/
theorem distinct_iff {e : EnvelopeRecord} :
    e.Distinct ↔ ∀ field, (e.get field).toJson.Distinct :=
  Json.distinct_dump envelopeSchema _

/-- The names are distinct when those of the payload and of the metadata are. -/
theorem distinct_of_parts {e : EnvelopeRecord} (hpayload : e.fields.payload.Distinct)
    (hrest : ∀ r ∈ e.rest, (Json.object r.dump).Distinct) : e.Distinct := by
  rw [distinct_iff]
  intro f
  by_cases hfrest : f = .restMetadata
  · rw [hfrest]
    change (WireValue.ofOption .model e.rest).toJson.Distinct
    cases hr : e.rest with
    | none => trivial
    | some r => exact hrest r hr
  by_cases hfpayload : f = .payload
  · rw [hfpayload]
    exact hpayload
  · exact Json.distinct_of_atom (e.atom_get hfrest hfpayload)

/-- Envelopes that agree are equal. -/
theorem Agrees.equal {e f : EnvelopeRecord} (h : e.Agrees f) (he : e.Distinct) :
    e.equal f = true := by
  have hpayload : e.fields.payload.equal f.fields.payload = true :=
    Json.equal_of_value _ (distinct_iff.mp he .payload) _ (h.get .payload).symm
  have hrest := h.get .restMetadata
  have hdistinct := distinct_iff.mp he .restMetadata
  simp only [EnvelopeRecord.get] at hrest hdistinct
  rw [EnvelopeRecord.equal, Bool.and_eq_true]
  constructor
  · have hfields := h.fields
    simp only [EnvelopeFields.mk.injEq] at hfields
    simp [EnvelopeFields.equal, hfields, hpayload]
  · cases hr : e.rest with
    | none =>
      cases hs : f.rest with
      | none => rfl
      | some s => simp [hr, hs, WireValue.ofOption, WireValue.toJson, Json.value] at hrest
    | some r =>
      cases hs : f.rest with
      | none => simp [hr, hs, WireValue.ofOption, WireValue.toJson, Json.value] at hrest
      | some s =>
        rw [hr, hs] at hrest
        rw [hr] at hdistinct
        exact Json.equal_of_value _ hdistinct _ hrest.symm

end EnvelopeRecord

/-! ## Encoding and decoding -/

/-- The JSON libraries. `orjsonDumps` is `none` where `orjson.dumps` raises `TypeError`; the others
are `none` where they raise. For simplejson, the member of an enumeration is a string. -/
structure JsonLibraries where
  orjsonDumps : List (String × WireValue) → Option Bytes
  simplejsonDumps : Json → Option Bytes
  simplejsonLoads : Bytes → Option Json

namespace JsonLibraries

variable (L : JsonLibraries)

/-- A text holds what was written. -/
def Holds (text : Bytes) (written : Json) : Prop :=
  JsonText text ∧ ∃ read, L.simplejsonLoads text = some read ∧ Json.Reads written read

/-- What the libraries promise of dictionaries whose keys are distinct. A library may refuse any
value; what it writes is a text of JSON that parses to the written value. simplejson writes what
orjson writes and what it has itself read. -/
structure Documented : Prop where
  orjson_holds : ∀ wire text, L.orjsonDumps wire = some text →
    (Json.object (wire.map fun entry => (entry.1, entry.2.toJson))).Distinct →
    L.Holds text (.object (wire.map fun entry => (entry.1, entry.2.toJson)))
  simplejson_holds : ∀ j text, L.simplejsonDumps j = some text → j.Distinct → L.Holds text j
  simplejson_writes_as_orjson : ∀ wire text, L.orjsonDumps wire = some text →
    (L.simplejsonDumps (.object (wire.map fun entry => (entry.1, entry.2.toJson)))).isSome
  simplejson_writes_read : ∀ text j, L.simplejsonLoads text = some j → (L.simplejsonDumps j).isSome

end JsonLibraries

/-- The name of the Python type of a value that is not JSON. -/
def WireValue.typeName : WireValue → Option String
  | .json _ => none
  | .member (.exchange _) => some "Exchange"
  | .member (.market _) => some "Market"
  | .member (.transport _) => some "Transport"
  | .member (.integrityMode _) => some "IntegrityMode"
  | .member (.coverage _) => some "CoverageMode"
  | .model _ => some "RestMetadata"

/-- `validate_json_payload` of the dictionary of an envelope. -/
def validateJsonPayload (wire : List (String × WireValue)) : Option Err :=
  wire.findSome? fun entry => entry.2.typeName.map fun name =>
    .valueError ("JSON value at $." ++ entry.1 ++ " has unsupported type " ++ name)

/-- A member in an enumeration field becomes its value. -/
def jsonDomainValue (name : String) (value : WireValue) : WireValue :=
  match value with
  | .member m =>
    if (enumFields.map EnvelopeField.name).contains name then .json (.str m.value) else .member m
  | value => value

/-- `json_domain_wire`. -/
def jsonDomainWire (wire : List (String × WireValue)) : List (String × WireValue) :=
  wire.map fun entry => (entry.1, jsonDomainValue entry.1 entry.2)

namespace JsonLibraries

variable (L : JsonLibraries)

/-- `encode_envelope`. -/
def encodeEnvelope (e : EnvelopeRecord) : Except Err Bytes :=
  let wire := e.modelDump
  match wire.lookup EnvelopeField.schemaVersion.name with
  | some (.json (.int 1)) =>
    checked (validateJsonPayload (jsonDomainWire wire)) do
      let _ ← EnvelopeRecord.modelValidate wire
      match L.simplejsonDumps (.object (wire.map fun entry => (entry.1, entry.2.toJson))) with
      | some text => .ok (text ++ [10])
      | none => .error (.valueError "not serializable")
  | _ => .error (.valueError
      "schema_version must be the integer 1; binary float and bool are invalid")

/-- `_encode_trusted_envelope`. -/
def encodeTrustedEnvelope (e : EnvelopeRecord) : Except Err Bytes :=
  match L.orjsonDumps e.dict with
  | some text => .ok (text ++ [10])
  | none => L.encodeEnvelope e

/-- `decode_json` of a text, and the validation of what it holds. -/
def decodeText (text : Bytes) : Except Err ValidEnvelope :=
  match L.simplejsonLoads text with
  | some (.object fields) => decodeFields fields
  | some _ => .error (.valueError "raw envelope line must contain one JSON object")
  | none => .error (.valueError "invalid JSON")

/-- `decode_envelope_jsonl`. -/
def decodeEnvelopeJsonl (line : Bytes) : Except Err ValidEnvelope :=
  if line.getLast? ≠ some 10 then
    .error (.valueError "raw envelope line must end with newline")
  else L.decodeText line.dropLast

/-- The decoder of the manifests, with these libraries. -/
theorem decodeEnvelopeJsonl_eq (line : Bytes) :
    Storage.decodeEnvelopeJsonl (fun text => ValidEnvelope.toRawEnvelope <$> L.decodeText text)
        line =
      ValidEnvelope.toRawEnvelope <$> L.decodeEnvelopeJsonl line := by
  unfold Storage.decodeEnvelopeJsonl decodeEnvelopeJsonl
  split <;> rfl

/-! ## Round trips -/

theorem toJson_modelDump (e : EnvelopeRecord) :
    Json.object (e.modelDump.map fun entry => (entry.1, entry.2.toJson)) = e.toJson := by
  rw [EnvelopeRecord.modelDump, envelopeSchema.map_dump, EnvelopeRecord.toJson]
  exact congrArg (Json.object ∘ envelopeSchema.dump) (funext fun f => (e.get f).toJson_dumped)

theorem toJson_dict (e : EnvelopeRecord) :
    Json.object (e.dict.map fun entry => (entry.1, entry.2.toJson)) = e.toJson := by
  rw [EnvelopeRecord.dict, envelopeSchema.map_dump]
  rfl

theorem typeName_jsonDomainValue (e : EnvelopeRecord) (f : EnvelopeField) :
    (jsonDomainValue f.name (e.get f).dumped).typeName = none := by
  by_cases hf : f ∈ enumFields
  · have hname : (enumFields.map EnvelopeField.name).contains f.name = true :=
      List.contains_iff_mem.mpr (List.mem_map_of_mem hf)
    cases hget : e.get f with
    | json j => rfl
    | member m =>
      rw [WireValue.dumped_member, jsonDomainValue, if_pos hname]
      rfl
    | model r => rfl
  · rw [e.dumped_get hf]
    rfl

/-- Once the enumeration fields are strings, a dumped envelope is JSON. -/
theorem validateJsonPayload_modelDump (e : EnvelopeRecord) :
    validateJsonPayload (jsonDomainWire e.modelDump) = none := by
  rw [validateJsonPayload, List.findSome?_eq_none_iff]
  intro entry hentry
  obtain ⟨source, hsource, rfl⟩ := List.mem_map.mp hentry
  obtain ⟨f, -, rfl⟩ := List.mem_map.mp hsource
  rw [Option.map_eq_none_iff]
  exact typeName_jsonDomainValue e f

/-- An envelope that is valid is written by simplejson as it is. -/
theorem encodeEnvelope_eq (e : ValidEnvelope) :
    L.encodeEnvelope e.toEnvelopeRecord =
      match L.simplejsonDumps e.toJson with
      | some text => .ok (text ++ [10])
      | none => .error (.valueError "not serializable") := by
  have hversion : e.modelDump.lookup EnvelopeField.schemaVersion.name = some (.json (.int 1)) :=
    envelopeSchema.lookup_dump _ .schemaVersion
  rw [encodeEnvelope, hversion, validateJsonPayload_modelDump,
    EnvelopeRecord.modelValidate_modelDump, toJson_modelDump]
  rfl

/-- A text that holds a valid envelope is decoded to an envelope that agrees with it. -/
theorem decode_of_holds {e : ValidEnvelope} {text : Bytes} (h : L.Holds text e.toJson) :
    ∃ e' : ValidEnvelope, L.decodeEnvelopeJsonl (text ++ [10]) = .ok e' ∧
      e'.Agrees e.toEnvelopeRecord ∧ L.simplejsonLoads text = some e'.toJson := by
  obtain ⟨-, read, hread, hreads⟩ := h
  obtain ⟨fields, rfl, -⟩ := Json.exists_fields_of_reads hreads
  obtain ⟨e', hwire, hfields, hjson⟩ := exists_of_reads hreads
  have hagrees : e'.Agrees e.toEnvelopeRecord :=
    ⟨hfields, by rw [hjson]; exact Json.value_of_reads _ _ hreads⟩
  have hvalid : e'.fields.validate = none := hagrees.validate_eq.trans e.valid
  refine ⟨⟨e', hvalid⟩, ?_, hagrees, hread.trans (congrArg some hjson.symm)⟩
  rw [decodeEnvelopeJsonl, if_neg (by simp), List.dropLast_concat, decodeText, hread]
  dsimp only
  rw [decodeFields, hwire, ok_bind]
  exact EnvelopeRecord.modelValidate_modelDump ⟨e', hvalid⟩

namespace Documented

variable {L : JsonLibraries} (hL : L.Documented)

include hL

/-- Either library has written the envelope, and simplejson can write it. -/
theorem written_of_encodeTrusted {e : ValidEnvelope} {line : Bytes} (he : e.Distinct)
    (h : L.encodeTrustedEnvelope e.toEnvelopeRecord = .ok line) :
    (∃ text, line = text ++ [10] ∧ L.Holds text e.toJson) ∧
      (L.simplejsonDumps e.toJson).isSome := by
  rw [encodeTrustedEnvelope] at h
  cases horjson : L.orjsonDumps e.dict with
  | some text =>
    rw [horjson, Except.ok.injEq] at h
    have hholds := hL.orjson_holds _ text horjson
    have hdumps := hL.simplejson_writes_as_orjson _ text horjson
    rw [toJson_dict] at hholds hdumps
    exact ⟨⟨text, h.symm, hholds he⟩, hdumps⟩
  | none =>
    rw [horjson] at h
    dsimp only at h
    rw [L.encodeEnvelope_eq e] at h
    cases hdumps : L.simplejsonDumps e.toJson with
    | some text =>
      rw [hdumps, Except.ok.injEq] at h
      exact ⟨⟨text, h.symm, hL.simplejson_holds _ text hdumps he⟩, rfl⟩
    | none =>
      rw [hdumps] at h
      cases h

/-- What has been decoded is encoded and decoded to an envelope that agrees with it. -/
theorem again {e : ValidEnvelope} (he : e.Distinct)
    (h : (L.simplejsonDumps e.toJson).isSome) :
    ∃ text e', L.encodeEnvelope e.toEnvelopeRecord = .ok (text ++ [10]) ∧
      L.decodeEnvelopeJsonl (text ++ [10]) = .ok e' ∧ e'.Agrees e.toEnvelopeRecord := by
  obtain ⟨text, htext⟩ := Option.isSome_iff_exists.mp h
  obtain ⟨e', hdecode, hagrees, -⟩ := L.decode_of_holds (hL.simplejson_holds _ text htext he)
  refine ⟨text, e', ?_, hdecode, hagrees⟩
  rw [L.encodeEnvelope_eq e, htext]

end Documented

end JsonLibraries

end CryptoCollector.Storage
