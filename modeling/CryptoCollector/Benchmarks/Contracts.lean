import CryptoCollector.Benchmarks.Plan
import CryptoCollector.Storage.Ingress
import CryptoCollector.Storage.Manifest.Reader
import CryptoCollector.Storage.Service.Metrics

/-!
# Evidence documents

`benchmarks/contracts.py`: the rows of the admission trace with their validation, and the facts of
the run index, of the candidate report and of the inventories that the verifier compares. A trace
row that pydantic refuses cannot be built.
-/

namespace CryptoCollector.Benchmarks

open Lib Storage

/-- `hashlib.sha256`: `digest` and its `hexdigest`. -/
structure HashLibrary (Digest : Type) where
  sha256 : Bytes → Digest
  hexdigest : Digest → String

/-- `CANONICAL_EXCHANGES`. -/
def canonicalExchanges : List Exchange := [.binance, .okx, .bybit, .bitget, .kraken]

/-- `_worker_instance_id`. -/
def workerInstanceIdOf (exchange : Exchange) : String := "gate-worker-v1-" ++ exchange.value

/-- `_revalidate`: a value that does not pass its validation is refused under a label. -/
def revalidate (checks : Checks) (label modelType : String) : Except Err Unit :=
  match checks.run with
  | .ok () => .ok ()
  | .error _ => .error (.valueError (label ++ " is not a valid " ++ modelType))

theorem revalidate_eq_ok {checks : Checks} {label modelType : String} :
    revalidate checks label modelType = .ok () ↔ checks.run = .ok () := by
  unfold revalidate
  cases checks.run <;> simp

/-- `max` of some numbers, or zero. -/
def maximumOf (xs : List Nat) : Nat := xs.max?.getD 0

/-- `GateCandidateReportV1`, the fields that the verifier of rows reads. -/
structure CandidateReport where
  /-- Whether the mode is `qualification`. -/
  qualification : Bool
  admissionStartedMonotonicNs : Nat
  admissionScheduledEndMonotonicNs : Nat
  admissionEndedMonotonicNs : Nat
  admissionStartedUtcNs : Nat
  admissionEndedUtcNs : Nat

/-! ## The admission trace -/

/-- `AcceptedRecordIdentityV1`, with the exchange and the worker. -/
structure AcceptedIdentity where
  exchange : Exchange
  market : Option Market
  instrumentKey : Option String
  logicalStream : String
  workerInstanceId : String
  writerSequence : Nat
  acceptanceOrdinal : Nat
  configSha256 : String
  configGeneration : Nat
  deriving DecidableEq

namespace AcceptedIdentity

/-- The constraints on single fields. -/
def validate (i : AcceptedIdentity) : Option Err :=
  refuseIf ([i.instrumentKey, some i.logicalStream, some i.workerInstanceId].contains (some ""))
    "String should have at least 1 character" <|>
  refuseIf (!isSha256 i.configSha256) "String should match pattern"

/-- The dictionary that `model_dump(mode="json")` makes. -/
def toJson (i : AcceptedIdentity) : Json :=
  .object [("schema_version", .int 1), ("exchange", .str i.exchange.value),
    ("market", .ofOption (fun m => .str (Market.value m)) i.market),
    ("instrument_key", .ofOption .str i.instrumentKey), ("logical_stream", .str i.logicalStream),
    ("worker_instance_id", .str i.workerInstanceId), ("writer_sequence", .ofNat i.writerSequence),
    ("acceptance_ordinal", .ofNat i.acceptanceOrdinal), ("config_sha256", .str i.configSha256),
    ("config_generation", .ofNat i.configGeneration)]

end AcceptedIdentity

/-- The literal of an enqueue status. -/
def enqueueStatusValue : EnqueueStatus → String
  | .accepted => "accepted"
  | .acceptedHighWater => "accepted_high_water"
  | .overflow => "overflow"
  | .controlOverflow => "control_overflow"
  | .notAccepting => "not_accepting"

/-- The fields of `GateAdmissionTraceV1`. -/
structure TraceFields (Digest : Type) where
  plannedEventId : Sha256
  streamGroup : StreamGroup
  logicalStream : LogicalStream
  exchange : Exchange
  market : Option Market
  instrumentKey : Option String
  canonicalIdentity : String
  identityIndex : Nat
  localSequence : Nat
  dueMonotonicNs : Nat
  deadlineMonotonicNs : Nat
  attemptStartedMonotonicNs : Nat
  admissionCompletedMonotonicNs : Nat
  enqueueStatus : EnqueueStatus
  payloadBytes : Nat
  payloadSha256 : Digest
  acceptedIdentity : Option AcceptedIdentity

namespace TraceFields

variable {Digest : Type} (t : TraceFields Digest)

/-- The constraints on single fields. -/
def validateFields : Option Err :=
  refuseIf ([t.instrumentKey, some t.canonicalIdentity].contains (some ""))
    "String should have at least 1 character" <|>
  refuseIf (t.deadlineMonotonicNs = 0 || t.payloadBytes = 0) "Input should be greater than 0" <|>
  t.acceptedIdentity.bind AcceptedIdentity.validate

/-- The canonical identity of the routing fields. -/
def expectedIdentity : Except Err String :=
  if t.streamGroup = .control then
    if t.logicalStream ≠ .control || t.market.isSome || t.instrumentKey.isSome then
      .error (.valueError "control trace routing fields are invalid")
    else .ok ("gate-identity-v1:" ++ t.exchange.value ++ ":-:-:_control")
  else if t.streamGroup = .derivative &&
      !([.funding, .openInterest] : List LogicalStream).contains t.logicalStream then
    .error (.valueError "derivative trace logical stream is invalid")
  else if t.streamGroup ≠ .derivative && t.logicalStream.value ≠ t.streamGroup.value then
    .error (.valueError "trace stream group and logical stream must agree")
  else
    match t.market, t.instrumentKey with
    | some market, some instrumentKey =>
      .ok ("gate-identity-v1:" ++ t.exchange.value ++ ":" ++ market.value ++ ":" ++
        instrumentKey ++ ":" ++ t.logicalStream.value)
    | _, _ => .error (.valueError "non-control trace requires market and instrument")

/-- Whether the enqueue status is one of the accepted ones. -/
def isAccepted : Bool := [.accepted, .acceptedHighWater].contains t.enqueueStatus

/-- The checks on the identity of an accepted row. -/
def validateIdentity (identity : AcceptedIdentity) : Option Err :=
  refuseIf ((identity.exchange, identity.market, identity.instrumentKey, identity.logicalStream) ≠
      (t.exchange, t.market, t.instrumentKey, t.logicalStream.value))
    "accepted identity routing must match the trace" <|>
  refuseIf (identity.workerInstanceId ≠ workerInstanceIdOf t.exchange)
    "accepted identity worker instance ID does not match its exchange"

/-- `validate_trace`. -/
def validateTrace : Option Err :=
  refuseIf (t.deadlineMonotonicNs ≤ t.dueMonotonicNs) "trace due time must precede its deadline" <|>
  refuseIf (t.admissionCompletedMonotonicNs < t.attemptStartedMonotonicNs)
    "trace attempt start must not follow admission completion" <|>
  (match t.expectedIdentity with
    | .error e => some e
    | .ok expected =>
      refuseIf (t.canonicalIdentity ≠ expected)
        "trace canonical identity does not match routing fields") <|>
  refuseIf (t.isAccepted != t.acceptedIdentity.isSome)
    "trace enqueue status and accepted identity must agree" <|>
  t.acceptedIdentity.bind t.validateIdentity

/-- The validation of `GateAdmissionTraceV1`. -/
def validate : Option Err := t.validateFields <|> t.validateTrace

/-- `canonical_bytes`. -/
def canonicalBytes (H : HashLibrary Digest) (L : JsonLibraries) : Except Err Bytes :=
  (· ++ [10]) <$> L.encodeJson (.object [("schema_version", .int 1),
    ("record_type", .str "gate_admission_trace_v1"),
    ("planned_event_id", .str t.plannedEventId.hex), ("stream_group", .str t.streamGroup.value),
    ("logical_stream", .str t.logicalStream.value), ("exchange", .str t.exchange.value),
    ("market", .ofOption (fun m => .str (Market.value m)) t.market),
    ("instrument_key", .ofOption .str t.instrumentKey),
    ("canonical_identity", .str t.canonicalIdentity), ("identity_index", .ofNat t.identityIndex),
    ("local_sequence", .ofNat t.localSequence), ("due_monotonic_ns", .ofNat t.dueMonotonicNs),
    ("deadline_monotonic_ns", .ofNat t.deadlineMonotonicNs),
    ("attempt_started_monotonic_ns", .ofNat t.attemptStartedMonotonicNs),
    ("admission_completed_monotonic_ns", .ofNat t.admissionCompletedMonotonicNs),
    ("enqueue_status", .str (enqueueStatusValue t.enqueueStatus)),
    ("payload_bytes", .ofNat t.payloadBytes),
    ("payload_sha256", .str (H.hexdigest t.payloadSha256)),
    ("accepted_identity", .ofOption AcceptedIdentity.toJson t.acceptedIdentity)])

end TraceFields

/-- `GateAdmissionTraceV1`: a row that passed the validation. -/
structure AdmissionTrace (Digest : Type) extends TraceFields Digest where
  valid : toTraceFields.validate = none

namespace AdmissionTrace

variable {Digest : Type} (t : AdmissionTrace Digest)

theorem validateTrace_eq_none : t.validateTrace = none := (orElse_eq_none.mp t.valid).2

/-- A row is accepted when it has an identity. -/
theorem isAccepted_eq : t.isAccepted = t.acceptedIdentity.isSome := by
  have h := t.validateTrace_eq_none
  rw [TraceFields.validateTrace, orElse_eq_none, orElse_eq_none, orElse_eq_none,
    orElse_eq_none] at h
  simpa using h.2.2.2.1

/-- What the validation says of the identity of an accepted row. -/
structure Routes (identity : AcceptedIdentity) : Prop where
  exchange : identity.exchange = t.exchange
  market : identity.market = t.market
  instrumentKey : identity.instrumentKey = t.instrumentKey
  logicalStream : identity.logicalStream = t.logicalStream.value
  workerInstanceId : identity.workerInstanceId = workerInstanceIdOf t.exchange
  config_wellFormed : isSha256 identity.configSha256 = true

theorem routes {identity : AcceptedIdentity} (hidentity : t.acceptedIdentity = some identity) :
    t.Routes identity := by
  have htrace := t.validateTrace_eq_none
  have hfields := (orElse_eq_none.mp t.valid).1
  rw [TraceFields.validateTrace, orElse_eq_none, orElse_eq_none, orElse_eq_none, orElse_eq_none,
    hidentity, Option.bind_some, TraceFields.validateIdentity, orElse_eq_none] at htrace
  rw [TraceFields.validateFields, orElse_eq_none, orElse_eq_none, hidentity, Option.bind_some,
    AcceptedIdentity.validate, orElse_eq_none] at hfields
  obtain ⟨-, -, -, -, hroute, hworker⟩ := htrace
  simp only [ne_eq, refuseIf_eq_none, decide_eq_false_iff_not, not_not, Prod.mk.injEq]
    at hroute hworker
  obtain ⟨hexchange, hmarket, hinstrument, hstream⟩ := hroute
  exact ⟨hexchange, hmarket, hinstrument, hstream, hworker, by simpa using hfields.2.2.2⟩

end AdmissionTrace

end CryptoCollector.Benchmarks
