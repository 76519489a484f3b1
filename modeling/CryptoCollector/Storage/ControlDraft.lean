import CryptoCollector.Storage.Admission
import CryptoCollector.Storage.Envelope
import Mathlib.Data.List.Sort

/-!
# Control drafts

`domain/envelope.py: NativeEventDraft, SourceContext` and `storage/models.py: validate_control_draft`,
and the draft that `RawIngress.try_accept` makes of a native draft.

* `validateControlDraft_of_no_kind`: a payload without a `kind` is refused.
* `tryAcceptWith_refused`: no ingress accepts a refused control draft.
-/

namespace CryptoCollector.Storage

/-- `SourceContext`. -/
structure SourceContext where
  connectionId : Option String
  connectionGeneration : Option Nat
  egressId : Option String
  paired : connectionId.isNone = connectionGeneration.isNone

/-- `SourceContext.internal`. -/
def SourceContext.internal : SourceContext := ⟨none, none, none, rfl⟩

/-- `NativeEventDraft`. -/
structure NativeEventDraft where
  exchange : Exchange
  market : Option Market
  instrumentKey : Option String
  wireSymbol : Option String
  logicalStream : String
  nativeChannel : Option String
  transport : Transport
  eventTimeNs : Option Nat
  eventTimeSource : Option String
  integrityMode : Option IntegrityMode := none
  coverage : Option CoverageMode := none
  restMetadata : Option RestMetadata := none
  payload : Json

namespace NativeEventDraft

/-- `_construct_envelope_from_validated_parts`. -/
def toEnvelopeFields (d : NativeEventDraft) (receivedAtNs monotonicNs : Nat)
    (workerInstanceId : String) (source : SourceContext) (writerSequence : Nat)
    (configSha256 : String) : EnvelopeFields where
  exchange := d.exchange
  market := d.market
  instrumentKey := d.instrumentKey
  wireSymbol := d.wireSymbol
  logicalStream := d.logicalStream
  nativeChannel := d.nativeChannel
  transport := d.transport
  eventTimeNs := d.eventTimeNs
  eventTimeSource := d.eventTimeSource
  integrityMode := d.integrityMode
  coverage := d.coverage
  restMetadata := d.restMetadata
  payload := d.payload
  receivedAtNs
  monotonicNs
  workerInstanceId
  connectionId := source.connectionId
  connectionGeneration := source.connectionGeneration
  writerSequence
  egressId := source.egressId
  configSha256

/-- The validation of `NativeEventDraft`: nonempty strings and `validate_scope_and_transport`. -/
def validate (d : NativeEventDraft) : Option Err :=
  if [d.instrumentKey, d.wireSymbol, some d.logicalStream, d.nativeChannel,
      d.eventTimeSource].contains (some "") then
    some (.valueError "String should have at least 1 character")
  else (d.toEnvelopeFields 0 0 "" .internal 0 "").validateScopeAndTransport

/-- `validate_source`. -/
def validateSource (d : NativeEventDraft) (source : SourceContext) : Option Err :=
  (d.toEnvelopeFields 0 0 "" source 0 "").validateSourceFields

/-- `_sequence_key`. -/
def key (d : NativeEventDraft) : LogicalKey := ⟨d.market, d.instrumentKey, d.logicalStream⟩

end NativeEventDraft

/-! ## `validate_control_draft` -/

/-- `StorageScopeError`. -/
structure StorageScopeError where
  message : String
  deriving DecidableEq

/-- A field of a JSON object, `none` where it is missing. -/
def Json.field (fields : List (String × Json)) (name : String) : Option Json := fields.lookup name

/-- The names of the fields of an object are exactly these. -/
def Json.hasFields (fields : List (String × Json)) (names : List String) : Bool :=
  (fields.map Prod.fst).all names.contains && names.all (fields.map Prod.fst).contains

/-- A nonempty JSON string. -/
def Json.nonemptyString : Json → Option String
  | .str s => if s = "" then none else some s
  | _ => none

/-- The scope that `StorageLogicalTargetV1.validate_scope` accepts. -/
def isTargetScope (k : LogicalKey) : Bool :=
  if k.logicalStream = "_control" then k.market.isNone && k.instrumentKey.isNone
  else if k.market.isNone then false
  else if marketScopedStreams.contains k.logicalStream then k.instrumentKey.isNone
  else k.instrumentKey.isSome

/-- `StorageLogicalTargetV1`, from its JSON. -/
def parseLogicalTarget : Json → Option LogicalKey
  | .object fields =>
    if !Json.hasFields fields ["market", "instrument_key", "logical_stream"] then none
    else do
      let market ← match Json.field fields "market" with
        | some .null => some none
        | some (.str value) => (Market.ofValue value).map some
        | _ => none
      let instrumentKey ← match Json.field fields "instrument_key" with
        | some .null => some none
        | some value => value.nonemptyString.map some
        | none => none
      let logicalStream ← (Json.field fields "logical_stream").bind Json.nonemptyString
      let key : LogicalKey := ⟨market, instrumentKey, logicalStream⟩
      if isTargetScope key then some key else none
  | _ => none

/-- The order in which targets are sorted. -/
def targetKey (k : LogicalKey) : List String :=
  [(k.market.map Market.value).getD "", k.instrumentKey.getD "", k.logicalStream]

/-- `StorageControlRequestV1.validate_request`. -/
def validateControlRequest (affected : List Market) (targets : List LogicalKey) : Bool :=
  !targets.isEmpty && decide ((affected.map Market.value).Pairwise (· < ·)) &&
    decide ((targets.map targetKey).Pairwise (· < ·)) &&
    (targets.filterMap (·.market)).all affected.contains

/-- A market, from its JSON. -/
def parseMarket : Json → Option Market
  | .str value => Market.ofValue value
  | _ => none

/-- `_parse_control_request`. -/
def parseControlRequest : Json → Except StorageScopeError ControlRequest
  | .object fields =>
    if !Json.hasFields fields ["schema_version", "control_event_id", "affected_markets",
        "target_logical_identities"] then
      .error ⟨"storage_association has missing or extra fields"⟩
    else
      match Json.field fields "affected_markets", Json.field fields "target_logical_identities" with
      | some (.list affectedRaw), some (.list targetsRaw) =>
        match affectedRaw.mapM parseMarket, targetsRaw.mapM parseLogicalTarget,
            Json.field fields "schema_version",
            (Json.field fields "control_event_id").bind Json.nonemptyString with
        | some affected, some targets, some (.int 1), some controlEventId =>
          if validateControlRequest affected targets then .ok ⟨controlEventId, targets⟩
          else .error ⟨"invalid storage_association"⟩
        | _, _, _, _ => .error ⟨"invalid storage_association"⟩
      | _, _ => .error ⟨"storage_association arrays must be JSON arrays"⟩
  | _ => .error ⟨"storage_association must be an object"⟩

/-- `validate_control_draft`. -/
def validateControlDraft (d : NativeEventDraft) : Except StorageScopeError ControlDraft :=
  if d.logicalStream ≠ "_control" then .error ⟨"control draft must use the _control stream"⟩
  else if d.market.isSome ∨ d.instrumentKey.isSome ∨ d.wireSymbol.isSome ∨
      d.nativeChannel.isSome ∨ d.transport ≠ .internal then
    .error ⟨"control draft must use exchange-only internal scope"⟩
  else
    match d.payload with
    | .object fields =>
      match Json.field fields "kind" with
      | some (.str kind) =>
        if !normalized kind then .error ⟨"control payload requires a normalized kind"⟩
        else
          match Json.field fields "storage_association" with
          | none => .ok ⟨kind, none⟩
          | some value => (parseControlRequest value).map fun request => ⟨kind, some request⟩
      | _ => .error ⟨"control payload requires a normalized kind"⟩
    | _ => .error ⟨"control payload must be an object"⟩

/-- A control payload without a `kind` is refused. -/
theorem validateControlDraft_of_no_kind {d : NativeEventDraft} {fields : List (String × Json)}
    (hstream : d.logicalStream = "_control") (hmarket : d.market = none)
    (hkey : d.instrumentKey = none) (hsymbol : d.wireSymbol = none)
    (hchannel : d.nativeChannel = none) (htransport : d.transport = .internal)
    (hpayload : d.payload = .object fields) (hkind : "kind" ∉ fields.map Prod.fst) :
    validateControlDraft d = .error ⟨"control payload requires a normalized kind"⟩ := by
  have hfield : Json.field fields "kind" = none := by
    rw [Json.field, List.lookup_eq_none_iff]
    intro p hp
    rw [bne_iff_ne]
    rintro heq
    exact hkind (heq ▸ List.mem_map_of_mem hp)
  simp [validateControlDraft, hstream, hmarket, hkey, hsymbol, hchannel, htransport, hpayload,
    hfield]

/-! ## Admission of a native draft -/

/-- A native draft as `try_accept` sees it, with the lengths of what is written for it. -/
def NativeEventDraft.toDraft (d : NativeEventDraft) (source : SourceContext) (lineBytes : Nat)
    (hline : 0 < lineBytes) (associationBytes : Nat) : Draft where
  key := d.key
  control := (validateControlDraft d).toOption
  sourceValid := (d.validateSource source).isNone
  lineBytes
  line_pos := hline
  associationBytes

namespace RawIngress

/-- Admission refuses a control draft that `validate_control_draft` refuses. -/
theorem tryAcceptWith_refused (cfg : IngressConfig)
    (resolver : Option ControlAssociationResolver) {o : Offer} (w : Admission)
    (hstream : o.draft.key.logicalStream = "_control") (hcontrol : o.draft.control = none) :
    (∃ e, (tryAcceptWith cfg resolver o w).1 = .error e) ∨
      (tryAcceptWith cfg resolver o w).1 = .ok ⟨.notAccepting, none⟩ := by
  have hvalidate : ∃ e, validate o.draft o.shard = .error e := by
    by_cases hshard : normalized o.shard = true
    · exact ⟨.draftRejected, by simp [validate, hshard, hstream, hcontrol]⟩
    · exact ⟨.valueError "shard must be a normalized nonempty string", by
        simp [validate, hshard]⟩
  obtain ⟨e, he⟩ := hvalidate
  unfold tryAcceptWith
  rw [he]
  by_cases hsuperseded : w.ingress.superseded = true
  · rw [if_pos hsuperseded]
    exact .inr rfl
  · rw [if_neg hsuperseded]
    exact .inl ⟨e, rfl⟩

end RawIngress

end CryptoCollector.Storage
