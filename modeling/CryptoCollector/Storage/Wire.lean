import CryptoCollector.Lib.Schema
import CryptoCollector.Storage.Values

/-!
# Envelopes as dictionaries

`domain/envelope.py: RestMetadata, RawEnvelope` with all of their fields, the dictionaries that
`model_dump` makes of them, and `model_validate`, which makes a model of a dictionary. A dictionary
of an envelope holds JSON, members of enumerations and, before it is dumped, a model.

* `RestRecord.modelValidate_dump`, `EnvelopeRecord.modelValidate_dump`: a model is validated from
  its own dictionary.
* `ValidRest.exists_of_reads`: what is read of written metadata is the dictionary of metadata.
-/

namespace CryptoCollector.Storage

open Lib

/-! ## Strict fields -/

/-- A required field. -/
def required {V α : Type} (entries : List (String × V)) (name : String)
    (read : V → Except Err α) : Except Err α :=
  match entries.lookup name with
  | some value => read value
  | none => .error (.valueError (name ++ ": Field required"))

/-- A field with a default. -/
def optional {V α : Type} (entries : List (String × V)) (name : String)
    (read : V → Except Err α) (default : α) : Except Err α :=
  match entries.lookup name with
  | some value => read value
  | none => .ok default

/-- `extra="forbid"`. -/
def forbidExtra {V : Type} (names : List String) (entries : List (String × V)) : Except Err Unit :=
  if entries.all fun entry => names.contains entry.1 then .ok ()
  else .error (.valueError "Extra inputs are not permitted")

namespace Json

/-- A strict string. -/
def readString : Json → Except Err String
  | .str s => .ok s
  | _ => .error (.valueError "Input should be a valid string")

/-- A strict `NonNegativeInt`. -/
def readNat : Json → Except Err Nat
  | .int n =>
    if 0 ≤ n then .ok n.toNat
    else .error (.valueError "Input should be greater than or equal to 0")
  | _ => .error (.valueError "Input should be a valid integer")

/-- A value that may be null. -/
def readNullable {α : Type} (read : Json → Except Err α) : Json → Except Err (Option α)
  | .null => .ok none
  | value => some <$> read value

/-- A dictionary of JSON. -/
def readParams : Json → Except Err (List (String × Json))
  | .object fields => .ok fields
  | _ => .error (.valueError "Input should be a valid dictionary")

/-- A dictionary of strings. -/
def readHeaders : Json → Except Err (List (String × String))
  | .object fields => fields.mapM fun field => (fun s => (field.1, s)) <$> field.2.readString
  | _ => .error (.valueError "Input should be a valid dictionary")

/-- A natural number. -/
def ofNat (n : Nat) : Json := .int n

/-- A value or null. -/
def ofOption {α : Type} (f : α → Json) : Option α → Json
  | none => .null
  | some a => f a

/-- A dictionary of strings. -/
def ofHeaders (headers : List (String × String)) : Json :=
  .object (headers.map fun header => (header.1, .str header.2))

theorem atom_str (s : String) : (str s).Atom := trivial

theorem atom_ofNat (n : Nat) : (ofNat n).Atom := trivial

theorem atom_ofOption {α : Type} {f : α → Json} (h : ∀ a, (f a).Atom) (o : Option α) :
    (ofOption f o).Atom := by
  cases o with
  | none => trivial
  | some a => exact h a

@[simp] theorem readString_str (s : String) : readString (.str s) = .ok s := rfl

@[simp] theorem readNat_ofNat (n : Nat) : readNat (ofNat n) = .ok n := by simp [readNat, ofNat]

@[simp] theorem readNullable_string (s : Option String) :
    readNullable readString (ofOption .str s) = .ok s := by
  cases s <;> rfl

@[simp] theorem readNullable_nat (n : Option Nat) :
    readNullable readNat (ofOption ofNat n) = .ok n := by
  cases n with
  | none => rfl
  | some n => simp [ofOption, ofNat, readNullable, readNat, Functor.map, Except.map]

@[simp] theorem readParams_object (fields : List (String × Json)) :
    readParams (.object fields) = .ok fields := rfl

@[simp] theorem readHeaders_ofHeaders (headers : List (String × String)) :
    readHeaders (ofHeaders headers) = .ok headers := by
  rw [ofHeaders, readHeaders, mapM_eq_ok (g := fun field => (field.1, match field.2 with
    | .str s => s
    | _ => ""))]
  · simp [List.map_map, Function.comp_def]
  · intro field hfield
    obtain ⟨header, -, rfl⟩ := List.mem_map.mp hfield
    rfl

end Json

/-! ## Rest metadata -/

/-- `RestMetadata`, with all of its fields. -/
structure RestRecord where
  requestStartedAtNs : Nat
  requestEndedAtNs : Nat
  method : String
  path : String
  params : List (String × Json)
  status : Nat
  attempt : Nat
  rateLimitHeaders : List (String × String)
  requestedIntervalNs : Option Nat := none
  effectiveIntervalNs : Option Nat := none

/-- The fields of `RestMetadata`. -/
inductive RestField where
  | requestStartedAtNs
  | requestEndedAtNs
  | method
  | path
  | params
  | status
  | attempt
  | rateLimitHeaders
  | requestedIntervalNs
  | effectiveIntervalNs
  deriving DecidableEq

/-- The name of a field. -/
def RestField.name : RestField → String
  | .requestStartedAtNs => "request_started_at_ns"
  | .requestEndedAtNs => "request_ended_at_ns"
  | .method => "method"
  | .path => "path"
  | .params => "params"
  | .status => "status"
  | .attempt => "attempt"
  | .rateLimitHeaders => "rate_limit_headers"
  | .requestedIntervalNs => "requested_interval_ns"
  | .effectiveIntervalNs => "effective_interval_ns"

/-- `RestMetadata.model_fields`. -/
def RestField.all : List RestField :=
  [.requestStartedAtNs, .requestEndedAtNs, .method, .path, .params, .status, .attempt,
    .rateLimitHeaders, .requestedIntervalNs, .effectiveIntervalNs]

theorem RestField.mem_all (f : RestField) : f ∈ RestField.all := by cases f <;> decide

theorem RestField.nodup_names : (RestField.all.map RestField.name).Nodup := by decide

/-- The fields of `RestMetadata` and their names. -/
def restSchema : Schema RestField := ⟨RestField.all, RestField.name, RestField.mem_all,
  RestField.nodup_names⟩

namespace RestRecord

/-- The constraints on single fields. -/
def validateFields (r : RestRecord) : Option Err :=
  if r.method = "" ∨ r.path = "" then
    some (.valueError "String should have at least 1 character")
  else if 599 < r.status then
    some (.valueError "Input should be less than or equal to 599")
  else if r.attempt = 0 ∨ r.requestedIntervalNs = some 0 ∨ r.effectiveIntervalNs = some 0 then
    some (.valueError "Input should be greater than 0")
  else none

/-- `validate_request_times`. -/
def validateRequestTimes (r : RestRecord) : Option Err :=
  if r.requestEndedAtNs < r.requestStartedAtNs then
    some (.valueError "request_ended_at_ns must not precede request_started_at_ns")
  else if r.requestedIntervalNs.isNone != r.effectiveIntervalNs.isNone then
    some (.valueError "requested and effective interval metadata must be paired")
  else
    match r.requestedIntervalNs, r.effectiveIntervalNs with
    | some requested, some effective =>
      if effective < requested then
        some (.valueError "effective interval metadata must not be below requested interval")
      else none
    | _, _ => none

/-- The validation of `RestMetadata`. -/
def validate (r : RestRecord) : Option Err := r.validateFields <|> r.validateRequestTimes

/-- The value of a field. -/
def get (r : RestRecord) : RestField → Json
  | .requestStartedAtNs => .ofNat r.requestStartedAtNs
  | .requestEndedAtNs => .ofNat r.requestEndedAtNs
  | .method => .str r.method
  | .path => .str r.path
  | .params => .object r.params
  | .status => .ofNat r.status
  | .attempt => .ofNat r.attempt
  | .rateLimitHeaders => .ofHeaders r.rateLimitHeaders
  | .requestedIntervalNs => .ofOption .ofNat r.requestedIntervalNs
  | .effectiveIntervalNs => .ofOption .ofNat r.effectiveIntervalNs

/-- `model_dump`. -/
def dump (r : RestRecord) : List (String × Json) := restSchema.dump r.get

/-- `==` of rest metadata: that of the dictionaries. -/
def equal (r s : RestRecord) : Bool := (Json.object r.dump).equal (.object s.dump)

end RestRecord

/-- A validated `RestMetadata`. -/
structure ValidRest extends RestRecord where
  valid : toRestRecord.validate = none

namespace RestRecord

/-- A model of fields that pass its validation. -/
def construct (r : RestRecord) : Except Err ValidRest :=
  match h : r.validate with
  | none => .ok ⟨r, h⟩
  | some e => .error e

/-- `RestMetadata.model_validate`. -/
def modelValidate (fields : List (String × Json)) : Except Err ValidRest := do
  forbidExtra restSchema.names fields
  let requestStartedAtNs ← required fields RestField.requestStartedAtNs.name Json.readNat
  let requestEndedAtNs ← required fields RestField.requestEndedAtNs.name Json.readNat
  let method ← required fields RestField.method.name Json.readString
  let path ← required fields RestField.path.name Json.readString
  let params ← required fields RestField.params.name Json.readParams
  let status ← required fields RestField.status.name Json.readNat
  let attempt ← required fields RestField.attempt.name Json.readNat
  let rateLimitHeaders ← required fields RestField.rateLimitHeaders.name Json.readHeaders
  let requestedIntervalNs ←
    optional fields RestField.requestedIntervalNs.name (Json.readNullable Json.readNat) none
  let effectiveIntervalNs ←
    optional fields RestField.effectiveIntervalNs.name (Json.readNullable Json.readNat) none
  construct { requestStartedAtNs, requestEndedAtNs, method, path, params, status, attempt,
              rateLimitHeaders, requestedIntervalNs, effectiveIntervalNs }

theorem construct_valid (r : ValidRest) : construct r.toRestRecord = .ok r := by
  unfold construct
  split
  · rfl
  · rename_i e h
    rw [r.valid] at h
    cases h

@[simp] theorem required_dump {α : Type} (get : RestField → Json) (f : RestField)
    (read : Json → Except Err α) : required (restSchema.dump get) f.name read = read (get f) := by
  rw [required, show f.name = restSchema.name f from rfl, restSchema.lookup_dump]

@[simp] theorem optional_dump {α : Type} (get : RestField → Json) (f : RestField)
    (read : Json → Except Err α) (default : α) :
    optional (restSchema.dump get) f.name read default = read (get f) := by
  rw [optional, show f.name = restSchema.name f from rfl, restSchema.lookup_dump]

/-- Metadata is validated from its own dictionary. -/
theorem modelValidate_dump (r : ValidRest) : modelValidate r.dump = .ok r := by
  have hextra : forbidExtra restSchema.names r.dump = .ok () := by
    rw [forbidExtra, dump, if_pos (restSchema.all_known _)]
  rw [modelValidate, hextra]
  simp only [dump, required_dump, optional_dump, get, Json.readNat_ofNat, Json.readString_str,
    Json.readParams_object, Json.readHeaders_ofHeaders, Json.readNullable_nat, ok_bind]
  exact construct_valid r

end RestRecord

/-- What validation says about metadata. -/
theorem RestRecord.validate_eq_none {r : RestRecord} (h : r.validate = none) :
    r.requestStartedAtNs ≤ r.requestEndedAtNs ∧ (∀ n ∈ r.requestedIntervalNs, 0 < n) ∧
      r.requestedIntervalNs.isNone = r.effectiveIntervalNs.isNone ∧
      ∀ n ∈ r.requestedIntervalNs, ∀ m ∈ r.effectiveIntervalNs, n ≤ m := by
  rw [validate, orElse_eq_none] at h
  obtain ⟨hfields, htimes⟩ := h
  rw [validateFields] at hfields
  split at hfields
  · cases hfields
  split at hfields
  · cases hfields
  split at hfields
  · cases hfields
  next hpos =>
  rw [validateRequestTimes] at htimes
  split at htimes
  · cases htimes
  next hended =>
  split at htimes
  · cases htimes
  next hpaired =>
  refine ⟨by omega, ?_, by simpa using hpaired, ?_⟩
  · intro n hn
    refine Nat.pos_of_ne_zero ?_
    rintro rfl
    exact hpos (.inr (.inl hn))
  · intro n hn m hm
    rw [Option.mem_def.mp hn, Option.mem_def.mp hm] at htimes
    dsimp only at htimes
    split at htimes
    · cases htimes
    · omega

/-- The metadata that validation and the manifests read. -/
def ValidRest.toRestMetadata (r : ValidRest) : RestMetadata where
  requestStartedAtNs := r.requestStartedAtNs
  requestEndedAtNs := r.requestEndedAtNs
  requestedIntervalNs := r.requestedIntervalNs
  effectiveIntervalNs := r.effectiveIntervalNs
  ordered := (RestRecord.validate_eq_none r.valid).1
  requested_pos := (RestRecord.validate_eq_none r.valid).2.1
  paired := (RestRecord.validate_eq_none r.valid).2.2.1
  covered := (RestRecord.validate_eq_none r.valid).2.2.2

/-- Strings come back as they are. -/
theorem Json.eq_of_reads_strings {headers : List (String × String)}
    {others : List (String × Json)}
    (h : Json.ReadsFields (headers.map fun header => (header.1, .str header.2)) others) :
    others = headers.map fun header => (header.1, .str header.2) := by
  induction headers generalizing others with
  | nil => simpa [Json.ReadsFields] using h
  | cons header headers ih =>
    cases others with
    | nil => exact h.elim
    | cons other others =>
      obtain ⟨hname, hvalue, hrest⟩ := h
      have hstr : other.2 = .str header.2 := Json.eq_of_reads (a := .str header.2) trivial hvalue
      rw [List.map_cons, ih hrest, ← hstr, ← hname]

namespace RestRecord

/-- Apart from its two dictionaries, metadata has no parts. -/
theorem atom_get (r : RestRecord) {f : RestField} (hparams : f ≠ .params)
    (hheaders : f ≠ .rateLimitHeaders) : (r.get f).Atom := by
  cases f with
  | params => exact absurd rfl hparams
  | rateLimitHeaders => exact absurd rfl hheaders
  | requestedIntervalNs => exact Json.atom_ofOption Json.atom_ofNat _
  | effectiveIntervalNs => exact Json.atom_ofOption Json.atom_ofNat _
  | _ => trivial

theorem get_with_params (r : RestRecord) (params : List (String × Json)) {f : RestField}
    (hparams : f ≠ .params) : ({ r with params } : RestRecord).get f = r.get f := by
  cases f with
  | params => exact absurd rfl hparams
  | _ => rfl

end RestRecord

/-- What is read of written metadata is the dictionary of metadata of the same value. -/
theorem ValidRest.exists_of_reads {r : ValidRest} {b : Json} (h : Json.Reads (.object r.dump) b) :
    ∃ s : ValidRest, b = .object s.dump ∧ s.toRestMetadata = r.toRestMetadata ∧
      (Json.object s.dump).value = (Json.object r.dump).value := by
  obtain ⟨fields, rfl, hfields⟩ := Json.exists_fields_of_reads h
  have hvalue := Json.value_of_reads _ _ h
  obtain ⟨get, rfl, hget⟩ := restSchema.exists_dump (Json.readsFields_iff.mp hfields)
  obtain ⟨params, hparams, -⟩ := Json.exists_fields_of_reads (hget .params)
  obtain ⟨headers, hheaders, hreads⟩ := Json.exists_fields_of_reads (hget .rateLimitHeaders)
  rw [Json.eq_of_reads_strings hreads] at hheaders
  have hdump : restSchema.dump get = ({ r with params } : ValidRest).dump := by
    refine congrArg restSchema.dump (funext fun f => ?_)
    by_cases hf : f = .params
    · rw [hf, hparams]
      rfl
    by_cases hf' : f = .rateLimitHeaders
    · rw [hf', hheaders]
      rfl
    rw [Json.eq_of_reads (r.atom_get hf hf') (hget f)]
    exact (r.get_with_params params hf).symm
  exact ⟨{ r with params }, by rw [hdump], rfl, by rw [← hdump]; exact hvalue⟩

/-! ## Envelopes -/

/-- A member of one of the enumerations of an envelope. -/
inductive Member where
  | exchange (e : Exchange)
  | market (m : Market)
  | transport (t : Transport)
  | integrityMode (i : IntegrityMode)
  | coverage (c : CoverageMode)
  deriving DecidableEq

/-- The string that a member is. -/
def Member.value : Member → String
  | .exchange e => e.value
  | .market m => m.value
  | .transport t => t.value
  | .integrityMode i => i.value
  | .coverage c => c.value

/-- The exchange that a member is. -/
def Member.exchange? : Member → Option Exchange
  | .exchange e => some e
  | _ => none

/-- The market that a member is. -/
def Member.market? : Member → Option Market
  | .market m => some m
  | _ => none

/-- The transport that a member is. -/
def Member.transport? : Member → Option Transport
  | .transport t => some t
  | _ => none

/-- The integrity mode that a member is. -/
def Member.integrityMode? : Member → Option IntegrityMode
  | .integrityMode i => some i
  | _ => none

/-- The coverage mode that a member is. -/
def Member.coverage? : Member → Option CoverageMode
  | .coverage c => some c
  | _ => none

/-- A value in the dictionary of an envelope. -/
inductive WireValue where
  | json (j : Json)
  | member (m : Member)
  | model (r : ValidRest)

namespace WireValue

/-- The value that `model_dump` gives: a model becomes its dictionary. -/
def dumped : WireValue → WireValue
  | .model r => .json (.object r.dump)
  | value => value

/-- The value as JSON. A member is a string. -/
def toJson : WireValue → Json
  | .json j => j
  | .member m => .str m.value
  | .model r => .object r.dump

@[simp] theorem toJson_dumped (v : WireValue) : v.dumped.toJson = v.toJson := by
  cases v <;> rfl

/-- A value or null. -/
def ofOption {α : Type} (f : α → WireValue) : Option α → WireValue
  | none => .json .null
  | some a => f a

/-- A strict field that is read from JSON. -/
def readJson {α : Type} (read : Json → Except Err α) : WireValue → Except Err α
  | .json j => read j
  | .member _ | .model _ => .error (.valueError "Input should be valid JSON")

/-- A strict string. -/
def readString : WireValue → Except Err String := readJson Json.readString

/-- A strict `NonNegativeInt`. -/
def readNat : WireValue → Except Err Nat := readJson Json.readNat

/-- A strict string or null. -/
def readStringOrNull : WireValue → Except Err (Option String) :=
  readJson (Json.readNullable Json.readString)

/-- A strict `NonNegativeInt` or null. -/
def readNatOrNull : WireValue → Except Err (Option Nat) := readJson (Json.readNullable Json.readNat)

/-- A strict enumeration takes its own members only. -/
def readMember {α : Type} (ofMember : Member → Option α) : WireValue → Except Err α
  | .member m =>
    match ofMember m with
    | some a => .ok a
    | none => .error (.valueError "Input should be an instance of the enumeration")
  | .json _ | .model _ => .error (.valueError "Input should be an instance of the enumeration")

/-- A model, from an instance or from its dictionary. -/
def readRest : WireValue → Except Err ValidRest
  | .json (.object fields) => RestRecord.modelValidate fields
  | .model r => .ok r
  | _ => .error (.valueError "Input should be a valid dictionary or instance of RestMetadata")

/-- A value that may be null. -/
def readNullable {α : Type} (read : WireValue → Except Err α) : WireValue → Except Err (Option α)
  | .json .null => .ok none
  | value => some <$> read value

@[simp] theorem dumped_json (j : Json) : (json j).dumped = json j := rfl

@[simp] theorem dumped_member (m : Member) : (member m).dumped = member m := rfl

theorem readNullable_ofOption {α : Type} {read : WireValue → Except Err α} {f : α → WireValue}
    (hnull : ∀ a, (f a).dumped ≠ .json .null) (hread : ∀ a, read (f a).dumped = .ok a)
    (o : Option α) : readNullable read (ofOption f o).dumped = .ok o := by
  cases o with
  | none => rfl
  | some a =>
    rw [ofOption, readNullable.eq_2 _ _ fun h => hnull a h, hread]
    rfl

@[simp] theorem readNullable_model (r : Option ValidRest) :
    readNullable readRest (ofOption model r).dumped = .ok r :=
  readNullable_ofOption (fun _ h => by simp [dumped] at h) RestRecord.modelValidate_dump r

/-- `Literal[1]`. -/
def readVersion : WireValue → Except Err Unit
  | .json (.int 1) => .ok ()
  | _ => .error (.valueError "Input should be 1")

theorem readMember_exchange (e : Exchange) :
    readMember Member.exchange? (member (.exchange e)) = .ok e := rfl

theorem readMember_transport (t : Transport) :
    readMember Member.transport? (member (.transport t)) = .ok t := rfl

theorem readNullable_market (m : Option Market) :
    readNullable (readMember Member.market?) (ofOption (fun m => member (.market m)) m).dumped =
      .ok m :=
  readNullable_ofOption (fun _ h => by simp [dumped] at h) (fun _ => rfl) m

theorem readNullable_integrityMode (i : Option IntegrityMode) :
    readNullable (readMember Member.integrityMode?)
      (ofOption (fun i => member (.integrityMode i)) i).dumped = .ok i :=
  readNullable_ofOption (fun _ h => by simp [dumped] at h) (fun _ => rfl) i

theorem readNullable_coverage (c : Option CoverageMode) :
    readNullable (readMember Member.coverage?)
      (ofOption (fun c => member (.coverage c)) c).dumped = .ok c :=
  readNullable_ofOption (fun _ h => by simp [dumped] at h) (fun _ => rfl) c

end WireValue

/-- The fields of `RawEnvelope`. -/
inductive EnvelopeField where
  | exchange
  | market
  | instrumentKey
  | wireSymbol
  | logicalStream
  | nativeChannel
  | transport
  | eventTimeNs
  | eventTimeSource
  | integrityMode
  | coverage
  | restMetadata
  | payload
  | schemaVersion
  | receivedAtNs
  | monotonicNs
  | workerInstanceId
  | connectionId
  | connectionGeneration
  | writerSequence
  | egressId
  | configSha256
  deriving DecidableEq

/-- The name of a field. -/
def EnvelopeField.name : EnvelopeField → String
  | .exchange => "exchange"
  | .market => "market"
  | .instrumentKey => "instrument_key"
  | .wireSymbol => "wire_symbol"
  | .logicalStream => "logical_stream"
  | .nativeChannel => "native_channel"
  | .transport => "transport"
  | .eventTimeNs => "event_time_ns"
  | .eventTimeSource => "event_time_source"
  | .integrityMode => "integrity_mode"
  | .coverage => "coverage"
  | .restMetadata => "rest_metadata"
  | .payload => "payload"
  | .schemaVersion => "schema_version"
  | .receivedAtNs => "received_at_ns"
  | .monotonicNs => "monotonic_ns"
  | .workerInstanceId => "worker_instance_id"
  | .connectionId => "connection_id"
  | .connectionGeneration => "connection_generation"
  | .writerSequence => "writer_sequence"
  | .egressId => "egress_id"
  | .configSha256 => "config_sha256"

/-- `_TRUSTED_RAW_ENVELOPE_FIELDS`. -/
def EnvelopeField.trusted : List EnvelopeField :=
  [.exchange, .market, .instrumentKey, .wireSymbol, .logicalStream, .nativeChannel, .transport,
    .eventTimeNs, .eventTimeSource, .integrityMode, .coverage, .restMetadata, .payload,
    .schemaVersion, .receivedAtNs, .monotonicNs, .workerInstanceId, .connectionId,
    .connectionGeneration, .writerSequence, .egressId, .configSha256]

theorem EnvelopeField.mem_trusted (f : EnvelopeField) : f ∈ EnvelopeField.trusted := by
  cases f <;> decide

theorem EnvelopeField.nodup_names : (EnvelopeField.trusted.map EnvelopeField.name).Nodup := by
  decide

/-- The fields of `RawEnvelope` and their names. -/
def envelopeSchema : Schema EnvelopeField := ⟨EnvelopeField.trusted, EnvelopeField.name,
  EnvelopeField.mem_trusted, EnvelopeField.nodup_names⟩

/-- An envelope with all of the fields of its metadata. Nothing has validated it. -/
structure EnvelopeRecord where
  fields : EnvelopeFields
  rest : Option ValidRest
  rest_eq : fields.restMetadata = rest.map ValidRest.toRestMetadata

/-- An envelope that pydantic has validated. -/
structure ValidEnvelope extends EnvelopeRecord where
  valid : toEnvelopeRecord.fields.validate = none

/-- The envelope that the manifests read. -/
def ValidEnvelope.toRawEnvelope (e : ValidEnvelope) : RawEnvelope := ⟨e.fields, e.valid⟩

namespace EnvelopeRecord

/-- The value of a field. -/
def get (e : EnvelopeRecord) : EnvelopeField → WireValue
  | .exchange => .member (.exchange e.fields.exchange)
  | .market => .ofOption (fun m => .member (.market m)) e.fields.market
  | .instrumentKey => .json (.ofOption .str e.fields.instrumentKey)
  | .wireSymbol => .json (.ofOption .str e.fields.wireSymbol)
  | .logicalStream => .json (.str e.fields.logicalStream)
  | .nativeChannel => .json (.ofOption .str e.fields.nativeChannel)
  | .transport => .member (.transport e.fields.transport)
  | .eventTimeNs => .json (.ofOption .ofNat e.fields.eventTimeNs)
  | .eventTimeSource => .json (.ofOption .str e.fields.eventTimeSource)
  | .integrityMode => .ofOption (fun i => .member (.integrityMode i)) e.fields.integrityMode
  | .coverage => .ofOption (fun c => .member (.coverage c)) e.fields.coverage
  | .restMetadata => .ofOption .model e.rest
  | .payload => .json e.fields.payload
  | .schemaVersion => .json (.int 1)
  | .receivedAtNs => .json (.ofNat e.fields.receivedAtNs)
  | .monotonicNs => .json (.ofNat e.fields.monotonicNs)
  | .workerInstanceId => .json (.str e.fields.workerInstanceId)
  | .connectionId => .json (.ofOption .str e.fields.connectionId)
  | .connectionGeneration => .json (.ofOption .ofNat e.fields.connectionGeneration)
  | .writerSequence => .json (.ofNat e.fields.writerSequence)
  | .egressId => .json (.ofOption .str e.fields.egressId)
  | .configSha256 => .json (.str e.fields.configSha256)

/-- `__dict__`. -/
def dict (e : EnvelopeRecord) : List (String × WireValue) := envelopeSchema.dump e.get

/-- `model_dump(mode="python")`. -/
def modelDump (e : EnvelopeRecord) : List (String × WireValue) :=
  envelopeSchema.dump fun f => (e.get f).dumped

/-- The dictionary as JSON. -/
def toJson (e : EnvelopeRecord) : Json := .object (envelopeSchema.dump fun f => (e.get f).toJson)

/-- `==` of envelopes. -/
def equal (e f : EnvelopeRecord) : Bool :=
  e.fields.equal f.fields &&
    match e.rest, f.rest with
    | none, none => true
    | some r, some s => r.equal s.toRestRecord
    | _, _ => false

/-- A model of fields that pass its validation. -/
def construct (e : EnvelopeRecord) : Except Err ValidEnvelope :=
  match h : e.fields.validate with
  | none => .ok ⟨e, h⟩
  | some err => .error err

open WireValue in
/-- `RawEnvelope.model_validate`. -/
def modelValidate (wire : List (String × WireValue)) : Except Err ValidEnvelope := do
  forbidExtra envelopeSchema.names wire
  let exchange ← required wire EnvelopeField.exchange.name (readMember Member.exchange?)
  let market ← required wire EnvelopeField.market.name (readNullable (readMember Member.market?))
  let instrumentKey ← required wire EnvelopeField.instrumentKey.name readStringOrNull
  let wireSymbol ← required wire EnvelopeField.wireSymbol.name readStringOrNull
  let logicalStream ← required wire EnvelopeField.logicalStream.name WireValue.readString
  let nativeChannel ← required wire EnvelopeField.nativeChannel.name readStringOrNull
  let transport ← required wire EnvelopeField.transport.name (readMember Member.transport?)
  let eventTimeNs ← required wire EnvelopeField.eventTimeNs.name readNatOrNull
  let eventTimeSource ← required wire EnvelopeField.eventTimeSource.name readStringOrNull
  let integrityMode ←
    optional wire EnvelopeField.integrityMode.name
      (readNullable (readMember Member.integrityMode?)) none
  let coverage ←
    optional wire EnvelopeField.coverage.name (readNullable (readMember Member.coverage?)) none
  let rest ← optional wire EnvelopeField.restMetadata.name (readNullable readRest) none
  let payload ← required wire EnvelopeField.payload.name (readJson .ok)
  optional wire EnvelopeField.schemaVersion.name readVersion ()
  let receivedAtNs ← required wire EnvelopeField.receivedAtNs.name readNat
  let monotonicNs ← required wire EnvelopeField.monotonicNs.name readNat
  let workerInstanceId ← required wire EnvelopeField.workerInstanceId.name WireValue.readString
  let connectionId ← required wire EnvelopeField.connectionId.name readStringOrNull
  let connectionGeneration ← required wire EnvelopeField.connectionGeneration.name readNatOrNull
  let writerSequence ← required wire EnvelopeField.writerSequence.name readNat
  let egressId ← required wire EnvelopeField.egressId.name readStringOrNull
  let configSha256 ← required wire EnvelopeField.configSha256.name WireValue.readString
  construct
    { fields := {
        exchange, market, instrumentKey, wireSymbol, logicalStream, nativeChannel, transport,
        eventTimeNs, eventTimeSource, integrityMode, coverage,
        restMetadata := rest.map ValidRest.toRestMetadata, payload, receivedAtNs, monotonicNs,
        workerInstanceId, connectionId, connectionGeneration, writerSequence, egressId,
        configSha256 }
      rest
      rest_eq := rfl }

theorem construct_valid (e : ValidEnvelope) : construct e.toEnvelopeRecord = .ok e := by
  unfold construct
  split
  · rfl
  · rename_i err h
    rw [e.valid] at h
    cases h

@[simp] theorem required_dump {α : Type} (get : EnvelopeField → WireValue) (f : EnvelopeField)
    (read : WireValue → Except Err α) :
    required (envelopeSchema.dump get) f.name read = read (get f) := by
  rw [required, show f.name = envelopeSchema.name f from rfl, envelopeSchema.lookup_dump]

@[simp] theorem optional_dump {α : Type} (get : EnvelopeField → WireValue) (f : EnvelopeField)
    (read : WireValue → Except Err α) (default : α) :
    optional (envelopeSchema.dump get) f.name read default = read (get f) := by
  rw [optional, show f.name = envelopeSchema.name f from rfl, envelopeSchema.lookup_dump]

theorem with_own_rest (e : EnvelopeRecord) :
    (⟨{ e.fields with restMetadata := e.rest.map ValidRest.toRestMetadata }, e.rest, rfl⟩ :
      EnvelopeRecord) = e := by
  obtain ⟨fields, rest, h⟩ := e
  simp only [mk.injEq, and_true]
  rw [← h]

/-- An envelope is validated from its own dictionary. -/
theorem modelValidate_modelDump (e : ValidEnvelope) : modelValidate e.modelDump = .ok e := by
  have hextra : forbidExtra envelopeSchema.names e.modelDump = .ok () := by
    rw [forbidExtra, modelDump, if_pos (envelopeSchema.all_known _)]
  rw [modelValidate, hextra]
  simp only [modelDump, required_dump, optional_dump, get, ok_bind, WireValue.dumped_json,
    WireValue.dumped_member, WireValue.readNullable_model, WireValue.readString,
    WireValue.readNat, WireValue.readStringOrNull, WireValue.readNatOrNull, WireValue.readJson,
    WireValue.readVersion, Json.readNat_ofNat, Json.readString_str, Json.readNullable_string,
    Json.readNullable_nat,
    WireValue.readMember_exchange, WireValue.readMember_transport, WireValue.readNullable_market,
    WireValue.readNullable_integrityMode, WireValue.readNullable_coverage]
  exact (congrArg construct (with_own_rest e.toEnvelopeRecord)).trans (construct_valid e)

end EnvelopeRecord

end CryptoCollector.Storage
