import CryptoCollector.Storage.Types
import Mathlib.Data.Finset.Sort

/-!
# Raw envelopes

`domain/envelope.py` with the enumerations of `domain/types.py`. A validated model is a structure
that carries the result of its validation, so that an envelope that pydantic refuses cannot be
built. Counts and times are non-negative in the source and natural numbers here.
-/

namespace CryptoCollector.Storage

/-- `domain/types.py: Exchange`. -/
inductive Exchange where
  | binance
  | okx
  | bybit
  | bitget
  | kraken
  deriving DecidableEq

/-- The wire value of an exchange. -/
def Exchange.value : Exchange → String
  | .binance => "binance"
  | .okx => "okx"
  | .bybit => "bybit"
  | .bitget => "bitget"
  | .kraken => "kraken"

/-- `Exchange(value)`. -/
def Exchange.ofValue (s : String) : Option Exchange :=
  [.binance, .okx, .bybit, .bitget, .kraken].find? (·.value = s)

theorem Exchange.value_injective : Function.Injective Exchange.value := by
  intro a b h
  cases a <;> cases b <;> first | rfl | exact absurd h (by decide)

/-- `Market(value)`. -/
def Market.ofValue (s : String) : Option Market :=
  [.spot, .perpetual].find? (·.value = s)

theorem Market.value_injective : Function.Injective Market.value := by
  intro a b h
  cases a <;> cases b <;> first | rfl | exact absurd h (by decide)

/-- `domain/types.py: Transport`. -/
inductive Transport where
  | rest
  | websocket
  | internal
  deriving DecidableEq

/-- The wire value of a transport. -/
def Transport.value : Transport → String
  | .rest => "rest"
  | .websocket => "websocket"
  | .internal => "internal"

/-- `Transport(value)`. -/
def Transport.ofValue (s : String) : Option Transport :=
  [.rest, .websocket, .internal].find? (·.value = s)

theorem Transport.value_injective : Function.Injective Transport.value := by
  intro a b h
  cases a <;> cases b <;> first | rfl | exact absurd h (by decide)

/-- `domain/types.py: IntegrityMode`. -/
inductive IntegrityMode where
  | sequenceVerified
  | checksumVerified
  | snapshotChain
  | bestEffort
  | invalid
  deriving DecidableEq

/-- The wire value of an integrity mode. -/
def IntegrityMode.value : IntegrityMode → String
  | .sequenceVerified => "sequence_verified"
  | .checksumVerified => "checksum_verified"
  | .snapshotChain => "snapshot_chain"
  | .bestEffort => "best_effort"
  | .invalid => "invalid"

/-- `IntegrityMode(value)`. -/
def IntegrityMode.ofValue (s : String) : Option IntegrityMode :=
  [.sequenceVerified, .checksumVerified, .snapshotChain, .bestEffort, .invalid].find?
    (·.value = s)

theorem IntegrityMode.value_injective : Function.Injective IntegrityMode.value := by
  intro a b h
  cases a <;> cases b <;> first | rfl | exact absurd h (by decide)

/-- `domain/types.py: CoverageMode`. -/
inductive CoverageMode where
  | complete
  | lossyWindow
  | unknown
  deriving DecidableEq

/-- The wire value of a coverage mode. -/
def CoverageMode.value : CoverageMode → String
  | .complete => "complete"
  | .lossyWindow => "lossy_window"
  | .unknown => "unknown"

/-- `CoverageMode(value)`. -/
def CoverageMode.ofValue (s : String) : Option CoverageMode :=
  [.complete, .lossyWindow, .unknown].find? (·.value = s)

theorem CoverageMode.value_injective : Function.Injective CoverageMode.value := by
  intro a b h
  cases a <;> cases b <;> first | rfl | exact absurd h (by decide)

/-- `json_codec.py: JsonPayload`. A decimal is its sign, its coefficient and its exponent; the keys
of an object are unique. -/
inductive Json where
  | null
  | bool (b : Bool)
  | int (n : Int)
  | decimal (negative : Bool) (coefficient : Nat) (exponent : Int)
  | str (s : String)
  | list (items : List Json)
  | object (fields : List (String × Json))

/-- `MARKET_SCOPED_STREAMS`. -/
def marketScopedStreams : List String := ["instrument", "status", "insurance_fund"]

/-- `BOOK_STREAMS`. -/
def bookStreams : List String := ["book_deep_snapshot", "book_live", "book_live_bootstrap"]

/-- A SHA-256 digest in lower case hexadecimal. -/
structure Sha256 where
  hex : String
  wellFormed : isSha256 hex = true
  deriving DecidableEq

/-- A byte string. -/
abbrev Bytes := List UInt8

/-- `RestMetadata`, the fields that validation and the manifests read. -/
@[ext]
structure RestMetadata where
  requestStartedAtNs : Nat
  requestEndedAtNs : Nat
  requestedIntervalNs : Option Nat
  effectiveIntervalNs : Option Nat
  ordered : requestStartedAtNs ≤ requestEndedAtNs
  /-- The intervals are positive, paired and ordered. -/
  requested_pos : ∀ r ∈ requestedIntervalNs, 0 < r
  paired : requestedIntervalNs.isNone = effectiveIntervalNs.isNone
  covered : ∀ r ∈ requestedIntervalNs, ∀ e ∈ effectiveIntervalNs, r ≤ e

instance : DecidableEq RestMetadata := fun _ _ => decidable_of_iff' _ RestMetadata.ext_iff

/-- The fields of `RawEnvelope`, those of `NativeEventDraft` first. -/
structure EnvelopeFields where
  exchange : Exchange
  market : Option Market
  instrumentKey : Option String
  wireSymbol : Option String
  logicalStream : String
  nativeChannel : Option String
  transport : Transport
  eventTimeNs : Option Nat
  eventTimeSource : Option String
  integrityMode : Option IntegrityMode
  coverage : Option CoverageMode
  restMetadata : Option RestMetadata
  payload : Json
  receivedAtNs : Nat
  monotonicNs : Nat
  workerInstanceId : String
  connectionId : Option String
  connectionGeneration : Option Nat
  writerSequence : Nat
  egressId : Option String
  configSha256 : String

namespace EnvelopeFields

/-- The constraints on single fields: nonempty strings and the digest. -/
def validateFields (e : EnvelopeFields) : Option Err :=
  if [e.instrumentKey, e.wireSymbol, some e.logicalStream, e.nativeChannel, e.eventTimeSource,
      some e.workerInstanceId, e.connectionId, e.egressId].contains (some "") then
    some (.valueError "String should have at least 1 character")
  else if !isSha256 e.configSha256 then some (.valueError "String should match pattern")
  else none

/-- `validate_scope_and_transport`. -/
def validateScopeAndTransport (e : EnvelopeFields) : Option Err :=
  let isControl : Bool := e.logicalStream = "_control"
  if e.market.isNone && !isControl then
    some (.valueError "market may be null only for exchange _control records")
  else if e.instrumentKey.isNone != e.wireSymbol.isNone then
    some (.valueError "instrument_key and wire_symbol must be present together")
  else if !isControl && !marketScopedStreams.contains e.logicalStream &&
      e.instrumentKey.isNone then
    some (.valueError ("instrument_key and wire_symbol are required for " ++ e.logicalStream))
  else if e.nativeChannel.isNone && !isControl then
    some (.valueError "native_channel may be null only for _control records")
  else if e.eventTimeNs.isNone != e.eventTimeSource.isNone then
    some (.valueError "event_time_ns and event_time_source must be present together")
  else if e.transport = .rest && e.restMetadata.isNone then
    some (.valueError "REST records require rest_metadata")
  else if e.transport ≠ .rest && e.restMetadata.isSome then
    some (.valueError "rest_metadata is valid only for REST records")
  else if e.transport = .internal && !isControl then
    some (.valueError "internal transport is reserved for _control records")
  else if e.logicalStream = "book_live_bootstrap" && e.transport ≠ .rest then
    some (.valueError "book_live_bootstrap must use REST transport")
  else if e.integrityMode.isSome && !bookStreams.contains e.logicalStream then
    some (.valueError "integrity_mode is valid only for book records")
  else none

/-- `validate_source_fields`: the pairing of `SourceContext` and its `validate_for`. -/
def validateSourceFields (e : EnvelopeFields) : Option Err :=
  let hasConnection := e.connectionId.isSome
  if e.connectionId.isNone != e.connectionGeneration.isNone then
    some (.valueError "source context connection_id and connection_generation must be paired")
  else if e.transport = .internal then
    if hasConnection || e.egressId.isSome then
      some (.valueError "internal source context must be entirely null")
    else none
  else if e.transport = .websocket || e.logicalStream = "book_live_bootstrap" then
    if !hasConnection || e.egressId.isNone then
      some (.valueError "WebSocket/bootstrap source context requires connection and egress")
    else none
  else if hasConnection || e.egressId.isNone then
    some (.valueError "routine REST source context requires only a non-null egress_id")
  else none

/-- The validation of `RawEnvelope`. -/
def validate (e : EnvelopeFields) : Option Err :=
  e.validateFields <|> e.validateScopeAndTransport <|> e.validateSourceFields

/-- The logical key of an envelope. -/
def key (e : EnvelopeFields) : LogicalKey := ⟨e.market, e.instrumentKey, e.logicalStream⟩

end EnvelopeFields

/-- `RawEnvelope`. -/
structure RawEnvelope extends EnvelopeFields where
  valid : toEnvelopeFields.validate = none

namespace RawEnvelope

/-- The requested interval of the rest metadata, where there is one. -/
def requestedIntervalNs (e : RawEnvelope) : Option Nat := e.restMetadata.bind (·.requestedIntervalNs)

/-- The effective interval of the rest metadata, where there is one. -/
def effectiveIntervalNs (e : RawEnvelope) : Option Nat := e.restMetadata.bind (·.effectiveIntervalNs)

/-- The intervals come in pairs. -/
theorem intervals_paired (e : RawEnvelope) :
    e.requestedIntervalNs.isNone = e.effectiveIntervalNs.isNone := by
  unfold requestedIntervalNs effectiveIntervalNs
  cases h : e.restMetadata with
  | none => rfl
  | some m => exact m.paired

end RawEnvelope

/-- `serialize.py: decode_envelope_jsonl`. `decodeObject` stands for the JSON decoder and for the
validation of the decoded fields. -/
def decodeEnvelopeJsonl (decodeObject : Bytes → Except Err RawEnvelope) (line : Bytes) :
    Except Err RawEnvelope :=
  if line.getLast? ≠ some 10 then
    .error (.valueError "raw envelope line must end with newline")
  else decodeObject line.dropLast

/-- Add the value of an optional field to a set. -/
def collect {α : Type} [DecidableEq α] (value : Option α) (values : Finset α) : Finset α :=
  match value with
  | some v => insert v values
  | none => values

/-- Collecting the values of rows in turn collects all of them. -/
theorem foldl_collect {α β : Type} [DecidableEq α] (f : β → Option α) (rows : List β)
    (values : Finset α) :
    rows.foldl (fun s r => collect (f r) s) values = (rows.filterMap f).toFinset ∪ values := by
  induction rows generalizing values with
  | nil => simp
  | cons r rows ih =>
    rw [List.foldl_cons, ih]
    cases h : f r with
    | none => simp [collect, h]
    | some v =>
      ext x
      simp only [collect, List.filterMap_cons_some h, List.toFinset_cons, Finset.mem_union,
        Finset.mem_insert]
      tauto

end CryptoCollector.Storage
