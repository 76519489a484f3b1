import CryptoCollector.Benchmarks.Native
import CryptoCollector.Storage.Layout

/-!
# Planned events

`benchmarks/oracle.py`: the facts of the events of a workload plan and the native draft that is
built of an event. The events of a plan are those that `iter_plan_events` yields, in its order.

* `eq_of_nativeSha256`: an envelope whose native fields have the digest of a planned event has the
  native fields of its draft.
-/

namespace CryptoCollector.Benchmarks

open Lib Storage

/-! ## Identities -/

/-- `StreamGroup`. -/
inductive StreamGroup where
  | trade
  | bookLive
  | ticker
  | bbo
  | derivative
  | candle1m
  | bookDeepSnapshot
  | control
  deriving DecidableEq

/-- The literal of a stream group. -/
def StreamGroup.value : StreamGroup → String
  | .trade => "trade"
  | .bookLive => "book_live"
  | .ticker => "ticker"
  | .bbo => "bbo"
  | .derivative => "derivative"
  | .candle1m => "candle_1m"
  | .bookDeepSnapshot => "book_deep_snapshot"
  | .control => "control"

/-- `_STREAM_GROUPS`. -/
def StreamGroup.all : List StreamGroup :=
  [.trade, .bookLive, .ticker, .bbo, .derivative, .candle1m, .bookDeepSnapshot, .control]

/-- `LogicalStream`. -/
inductive LogicalStream where
  | trade
  | bookLive
  | ticker
  | bbo
  | funding
  | openInterest
  | candle1m
  | bookDeepSnapshot
  | control
  deriving DecidableEq

/-- The literal of a logical stream. -/
def LogicalStream.value : LogicalStream → String
  | .trade => "trade"
  | .bookLive => "book_live"
  | .ticker => "ticker"
  | .bbo => "bbo"
  | .funding => "funding"
  | .openInterest => "open_interest"
  | .candle1m => "candle_1m"
  | .bookDeepSnapshot => "book_deep_snapshot"
  | .control => "_control"

/-- The market, the lane and the symbol of an identity that is no control identity. -/
structure IdentityScope where
  market : Market
  laneIndex : Nat
  symbolIndex : Nat
  deriving DecidableEq

/-- `_IdentityFacts`. -/
structure IdentityFacts where
  streamGroup : StreamGroup
  logicalStream : LogicalStream
  exchange : Exchange
  scope : Option IdentityScope
  identityIndex : Nat
  deriving DecidableEq

/-- `str.upper` of an ASCII text. -/
def upper (s : String) : String := String.ofList (s.toList.map Char.toUpper)

namespace IdentityFacts

/-- The market of an identity. -/
def market (i : IdentityFacts) : Option Market := i.scope.map (·.market)

/-- The instrument key that `_identity_facts_at` makes. -/
def instrumentKey (i : IdentityFacts) : Option String :=
  i.scope.map fun scope =>
    "GATE-" ++ (upper i.exchange.value ++ "-" ++ upper scope.market.value ++ "-L" ++
      padded 4 scope.laneIndex ++ "-S" ++ padded 4 scope.symbolIndex)

/-- The canonical identity that `_identity_facts_at` makes. -/
def canonicalIdentity (i : IdentityFacts) : String :=
  "gate-identity-v1:" ++ i.exchange.value ++ ":" ++
    match i.market, i.instrumentKey with
    | some market, some instrumentKey =>
      market.value ++ ":" ++ instrumentKey ++ ":" ++ i.logicalStream.value
    | _, _ => "-:-:_control"

end IdentityFacts

/-! ## Events -/

/-- `ONE_SECOND_NS`. -/
def oneSecondNs : Nat := 1000000000

/-- `PlannedEventV1`, as `_scheduled_event_values` makes it. The other fields are made of these. -/
structure PlannedEvent where
  plannedEventId : Sha256
  identity : IdentityFacts
  localSequence : Nat
  transport : Transport
  dueOffsetNs : Nat
  payloadCanonicalBytes : Bytes

namespace PlannedEvent

/-- The field `deadline_offset_ns`. -/
def deadlineOffsetNs (e : PlannedEvent) : Nat := e.dueOffsetNs + oneSecondNs

/-- The field `payload_bytes`. -/
def payloadBytes (e : PlannedEvent) : Nat := e.payloadCanonicalBytes.length

/-- The property `payload`. -/
def payload (L : JsonLibraries) (e : PlannedEvent) : Except Err Json := do
  match ← L.decodeJson e.payloadCanonicalBytes with
  | .object fields => return .object fields
  | _ => throw (.valueError "planned payload must decode to an object")

end PlannedEvent

/-- `WorkloadPlanV1`, with the events that `iter_plan_events` yields. -/
structure WorkloadPlan (Digest : Type) where
  workloadPlanSha256 : Digest
  durationSeconds : Nat
  /-- `payload_max_bytes` of the streams. -/
  payloadMaxBytes : List Nat
  events : List PlannedEvent

/-! ## Native drafts -/

/-- What `build_native_draft` returns, but the shard. -/
structure GateDraft where
  draft : NativeEventDraft
  rest : Option ValidRest
  rest_eq : draft.restMetadata = rest.map ValidRest.toRestMetadata
  source : SourceContext

theorem paired_gate_connection (id : String) : (some id).isNone = (some 0).isNone := rfl

theorem paired_no_connection : (none : Option String).isNone = (none : Option Nat).isNone := rfl

/-- `_source_for_gate_event`. -/
def sourceForGateEvent (exchange : Exchange) (market : Option Market) (transport : Transport) :
    Except Err SourceContext :=
  match transport, market with
  | .internal, _ => .ok .internal
  | .websocket, some market =>
    .ok ⟨some ("gate-ws-v1-" ++ exchange.value ++ "-" ++ market.value), some 0,
      some ("gate-egress-v1-" ++ exchange.value), paired_gate_connection _⟩
  | .websocket, none => .error (.valueError "WebSocket event requires a market")
  | .rest, _ => .ok ⟨none, none, some ("gate-egress-v1-" ++ exchange.value), paired_no_connection⟩

/-- The metadata of a planned request. -/
def gateRequest (instrumentKey : String) (eventTimeNs : Nat) : RestRecord where
  requestStartedAtNs := eventTimeNs
  requestEndedAtNs := eventTimeNs
  method := "GET"
  path := "/gate/v1/book-deep-snapshot"
  params := [("instrument", .str instrumentKey)]
  status := 200
  attempt := 1
  rateLimitHeaders := []

theorem validate_gateRequest (instrumentKey : String) (eventTimeNs : Nat) :
    (gateRequest instrumentKey eventTimeNs).validate = none := by
  simp [RestRecord.validate, RestRecord.validateFields, RestRecord.validateRequestTimes, gateRequest]

/-- The metadata that `build_native_draft` makes for an event. -/
def restForGateEvent (transport : Transport) (instrumentKey : Option String)
    (eventTimeNs : Option Nat) : Except Err (Option ValidRest) :=
  match transport, instrumentKey, eventTimeNs with
  | .rest, some key, some time => .ok (some ⟨gateRequest key time, validate_gateRequest key time⟩)
  | .rest, _, _ => .error (.valueError "REST event requires instrument and event time")
  | _, _, _ => .ok none

/-- The integrity mode of a stream. -/
def gateIntegrityMode : LogicalStream → Option IntegrityMode
  | .bookLive => some .sequenceVerified
  | .bookDeepSnapshot => some .snapshotChain
  | _ => none

/-- The coverage of a stream. -/
def gateCoverage : LogicalStream → Option CoverageMode
  | .bookLive | .bookDeepSnapshot => some .complete
  | _ => none

/-- The draft of an event, from its metadata and its payload. -/
def gateDraft (e : PlannedEvent) (eventTimeNs : Option Nat) (rest : Option ValidRest)
    (payload : Json) : NativeEventDraft where
  exchange := e.identity.exchange
  market := e.identity.market
  instrumentKey := e.identity.instrumentKey
  wireSymbol := e.identity.instrumentKey
  logicalStream := e.identity.logicalStream.value
  nativeChannel :=
    if e.identity.logicalStream = .control then none
    else some ("gate.v1." ++ e.identity.logicalStream.value)
  transport := e.transport
  eventTimeNs
  eventTimeSource := if e.identity.logicalStream = .control then none else some "gate_due_time"
  integrityMode := gateIntegrityMode e.identity.logicalStream
  coverage := gateCoverage e.identity.logicalStream
  restMetadata := rest.map ValidRest.toRestMetadata
  payload

/-- `build_native_draft`. What orjson reads is what simplejson reads: a payload with a number that
orjson rounds is read again by simplejson. -/
def buildNativeDraft (L : JsonLibraries) (e : PlannedEvent) (admissionStartedUtcNs : Nat) :
    Except Err GateDraft := do
  let eventTimeNs :=
    if e.identity.logicalStream = .control then none
    else some (admissionStartedUtcNs + e.dueOffsetNs)
  let source ← sourceForGateEvent e.identity.exchange e.identity.market e.transport
  let rest ← restForGateEvent e.transport e.identity.instrumentKey eventTimeNs
  let payload ← e.payload L
  let draft := gateDraft e eventTimeNs rest payload
  checked (draft.validateSource source) (.ok ⟨draft, rest, rfl, source⟩)

namespace GateDraft

/-- The draft as an envelope. -/
def toRecord (d : GateDraft) : EnvelopeRecord where
  fields := d.draft.toEnvelopeFields 0 0 "" d.source 0 ""
  rest := d.rest
  rest_eq := d.rest_eq

end GateDraft

section Digests

variable {Digest : Type} (sha256 : Bytes → Digest) (L : JsonLibraries)

/-- The digest of the native fields of an envelope: `_observed_native_sha256`. -/
def observedNativeSha256 (e : EnvelopeRecord) : Except Err Digest :=
  sha256 <$> L.encodeJson e.nativeProjection

/-- `_expected_native_sha256`. -/
def expectedNativeSha256 (e : PlannedEvent) (admissionStartedUtcNs : Nat) : Except Err Digest := do
  let d ← buildNativeDraft L e admissionStartedUtcNs
  observedNativeSha256 sha256 L d.toRecord

end Digests

/-! ## What a draft is -/

/-- What `build_native_draft` says of its result. -/
structure GateDraft.Of (L : JsonLibraries) (e : PlannedEvent) (admissionStartedUtcNs : Nat)
    (d : GateDraft) : Prop where
  built : buildNativeDraft L e admissionStartedUtcNs = .ok d
  exchange : d.draft.exchange = e.identity.exchange
  market : d.draft.market = e.identity.market
  instrumentKey : d.draft.instrumentKey = e.identity.instrumentKey
  logicalStream : d.draft.logicalStream = e.identity.logicalStream.value
  payload : e.payload L = .ok d.draft.payload
  params : ∀ r ∈ d.rest, ∃ key ∈ e.identity.instrumentKey, r.params = [("instrument", .str key)]
  headers : ∀ r ∈ d.rest, r.rateLimitHeaders = []

theorem of_buildNativeDraft {L : JsonLibraries} {e : PlannedEvent} {admissionStartedUtcNs : Nat}
    {d : GateDraft} (h : buildNativeDraft L e admissionStartedUtcNs = .ok d) :
    d.Of L e admissionStartedUtcNs := by
  have hbuilt := h
  obtain ⟨source, -, h⟩ := bind_eq_ok.mp h
  obtain ⟨rest, hrest, h⟩ := bind_eq_ok.mp h
  obtain ⟨payload, hpayload, h⟩ := bind_eq_ok.mp h
  obtain ⟨-, h⟩ := checked_eq_ok.mp h
  cases h
  have hrequest : ∀ r ∈ rest, ∃ key ∈ e.identity.instrumentKey, ∃ time,
      r.toRestRecord = gateRequest key time := by
    intro r hr
    unfold restForGateEvent at hrest
    split at hrest
    · rename_i key time _ hkey _
      cases hrest
      cases hr
      exact ⟨key, hkey, time, rfl⟩
    · cases hrest
    · cases hrest
      cases hr
  refine ⟨hbuilt, rfl, rfl, rfl, rfl, hpayload, fun r hr => ?_, fun r hr => ?_⟩
  · obtain ⟨key, hkey, time, heq⟩ := hrequest r hr
    exact ⟨key, hkey, congrArg RestRecord.params heq⟩
  · obtain ⟨key, -, time, heq⟩ := hrequest r hr
    exact congrArg RestRecord.rateLimitHeaders heq

theorem GateDraft.Of.distinct_rest {L : JsonLibraries} {e : PlannedEvent}
    {admissionStartedUtcNs : Nat} {d : GateDraft} (h : d.Of L e admissionStartedUtcNs) :
    ∀ r ∈ d.rest, (Json.object r.dump).Distinct := by
  intro r hr
  obtain ⟨key, -, hparams⟩ := h.params r hr
  refine (Json.distinct_dump restSchema _).mpr fun f => ?_
  by_cases hfparams : f = .params
  · rw [hfparams, RestRecord.get, hparams]
    exact ⟨by simp, trivial, trivial⟩
  by_cases hfheaders : f = .rateLimitHeaders
  · rw [hfheaders, RestRecord.get, h.headers r hr]
    exact ⟨List.nodup_nil, trivial⟩
  · exact Json.distinct_of_atom (r.atom_get hfparams hfheaders)

theorem PlannedEvent.distinct_payload {L : JsonLibraries} (hL : L.Lawful) {e : PlannedEvent}
    {payload : Json} (h : e.payload L = .ok payload) : payload.Distinct := by
  obtain ⟨j, hj, h⟩ := bind_eq_ok.mp h
  have hdistinct := hL.loads_distinct _ _ (JsonLibraries.decodeJson_eq_ok.mp hj)
  split at h
  · cases h
    exact hdistinct
  · cases h

/-! ## Digests of native fields -/

/-- The text of a decimal begins with a sign or a digit. -/
theorem head_text (d : Decimal) : ∃ c cs, d.text = c :: cs ∧ (c = '-' ∨ c.isDigit = true) := by
  have hparts := d.partsOf_parts
  obtain ⟨c, cs, hwhole⟩ := List.exists_cons_of_ne_nil hparts.ne_nil
  have hdigit : c.isDigit = true := hparts.digits c (by simp [hwhole])
  rw [Decimal.text, hwhole]
  cases d.negative with
  | true => exact ⟨'-', _, rfl, .inl rfl⟩
  | false => exact ⟨c, _, rfl, .inr hdigit⟩

/-- A planned instrument key is no decimal. -/
theorem instrumentKey_ne_text {i : IdentityFacts} {key : String} (h : key ∈ i.instrumentKey)
    (d : Decimal) : String.ofList d.text ≠ key := by
  intro heq
  obtain ⟨scope, -, rfl⟩ := Option.mem_map.mp h
  obtain ⟨c, cs, htext, hc⟩ := head_text d
  have hlist := congrArg String.toList heq
  rw [String.toList_ofList, htext, String.toList_append] at hlist
  obtain rfl : c = 'G' := (List.cons.inj hlist).1
  revert hc
  decide

/-- A planned parameter comes from no other value in JSON mode. -/
theorem params_of_jsonMode {i : IdentityFacts} {key : String} (hkey : key ∈ i.instrumentKey)
    {params : List (String × Json)}
    (h : (Json.object params).jsonMode = (Json.object [("instrument", .str key)]).jsonMode) :
    params = [("instrument", .str key)] := by
  rw [Json.jsonMode, Json.jsonMode, Json.object.injEq] at h
  cases params with
  | nil => cases h
  | cons field params =>
    obtain ⟨name, value⟩ := field
    rw [Json.jsonModeFields, Json.jsonModeFields, Json.jsonModeFields, List.cons.injEq,
      Prod.mk.injEq, Json.jsonMode] at h
    obtain ⟨⟨rfl, hvalue⟩, hrest⟩ := h
    cases params with
    | nil =>
      cases value with
      | decimal negative coefficient exponent =>
        rw [Json.jsonMode, Json.str.injEq] at hvalue
        exact absurd hvalue (instrumentKey_ne_text hkey _)
      | str s =>
        rw [Json.jsonMode] at hvalue
        rw [hvalue]
      | _ => simp [Json.jsonMode] at hvalue
    | cons field params => cases hrest

section Digests

variable {Digest : Type} {sha256 : Bytes → Digest} {L : JsonLibraries}

/-- Values of one digest are equal in JSON mode. -/
theorem jsonMode_of_sha256 (hsha : Function.Injective sha256) (hL : L.Documented) {a b : Json}
    {digest : Digest} (ha : sha256 <$> L.encodeJson a.jsonMode = .ok digest)
    (hb : sha256 <$> L.encodeJson b.jsonMode = .ok digest) (hda : a.Distinct) (hdb : b.Distinct) :
    a.jsonMode = b.jsonMode := by
  obtain ⟨text, htext, rfl⟩ := map_eq_ok.mp ha
  obtain ⟨other, hother, heq⟩ := map_eq_ok.mp hb
  obtain rfl := hsha heq
  obtain ⟨read, -, hra, hrb⟩ := hL.exists_reads htext hother (Json.distinct_jsonMode _ hda)
    (Json.distinct_jsonMode _ hdb)
  rw [← Json.eq_of_reads_jsonMode _ _ hra, ← Json.eq_of_reads_jsonMode _ _ hrb]

/-- An envelope whose native fields have the digest of a planned event has the native fields of its
draft. -/
theorem eq_of_nativeSha256 (hsha : Function.Injective sha256) (hL : L.Lawful) {p : PlannedEvent}
    {admissionStartedUtcNs : Nat} {e : EnvelopeRecord} {digest : Digest}
    (hexpected : expectedNativeSha256 sha256 L p admissionStartedUtcNs = .ok digest)
    (hobserved : observedNativeSha256 sha256 L e = .ok digest) (he : e.Distinct) :
    ∃ d : GateDraft, d.Of L p admissionStartedUtcNs ∧ e.rest = d.rest ∧
      e.fields = EnvelopeRecord.withOwn d.toRecord.fields e.fields := by
  obtain ⟨d, hd, hexpected⟩ := bind_eq_ok.mp hexpected
  have hof := of_buildNativeDraft hd
  have hdistinct : d.toRecord.Distinct :=
    EnvelopeRecord.distinct_of_parts (PlannedEvent.distinct_payload hL hof.payload) hof.distinct_rest
  have hprojection : e.nativeProjection = d.toRecord.nativeProjection := by
    rw [observedNativeSha256, EnvelopeRecord.nativeProjection_eq] at hexpected hobserved
    rw [EnvelopeRecord.nativeProjection_eq, EnvelopeRecord.nativeProjection_eq]
    exact jsonMode_of_sha256 hsha hL.toDocumented hobserved hexpected
      (EnvelopeRecord.distinct_nativeFields he) (EnvelopeRecord.distinct_nativeFields hdistinct)
  have hrest : e.rest = d.rest := by
    refine EnvelopeRecord.rest_of_nativeProjection hprojection fun r hr params hparams => ?_
    obtain ⟨key, hkey, heq⟩ := hof.params r hr
    rw [heq] at hparams ⊢
    exact params_of_jsonMode hkey hparams
  exact ⟨d, hof, hrest, EnvelopeRecord.eq_of_nativeProjection hprojection hrest⟩

end Digests

end CryptoCollector.Benchmarks
