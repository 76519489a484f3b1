import CryptoCollector.Scheduler.Interval
import CryptoCollector.Scheduler.Rest
import CryptoCollector.Storage.ControlDraft

/-!
# The publication of interval changes

`scheduler/interval_observability.py: IntervalChange, IntervalChangePublisher` and
`IntervalController.activate` with a publisher. The control sink is a parameter, or the ingress of
the raw writer (`ingressSinks`).

* `controlRecord_valid`: the control draft of a change can be built.
* `controlRecord_refused`: its payload names the change under `type` and has no `kind`.
* `publication_refused`: no change reaches the raw writer, so that none is activated.
-/

namespace CryptoCollector.Scheduler

open Storage

/-- `IntervalDirection`. -/
inductive IntervalDirection where
  | stretch
  | recover
  deriving DecidableEq

/-- The literal of a direction. -/
def IntervalDirection.value : IntervalDirection → String
  | .stretch => "stretch"
  | .recover => "recover"

/-- `_ENDPOINT_ID`. -/
def isEndpointId (s : String) : Bool :=
  match s.toList with
  | [] => false
  | c :: cs => ('a' ≤ c && c ≤ 'z') && cs.length ≤ 63 && cs.all fun c =>
      ('a' ≤ c && c ≤ 'z') || ('0' ≤ c && c ≤ '9') || c = '_' || c = '-'

/-- `IntervalChange`, all its fields and the checks of `__post_init__`. -/
structure ReportedIntervalChange extends IntervalChange where
  eventId : String
  exchange : Exchange
  endpoint : String
  requestedNs : Nat
  healthyEgressCount : Nat
  affectedInstrumentKeys : List String
  configSha256 : Sha256
  cause : String
  direction : IntervalDirection
  eventId_ne : eventId ≠ ""
  endpoint_bounded : isEndpointId endpoint = true
  requested_pos : 0 < requestedNs
  requested_le_previous : requestedNs ≤ previousEffectiveNs
  requested_le_effective : requestedNs ≤ effectiveNs
  changed : effectiveNs ≠ previousEffectiveNs
  keys_ne : affectedInstrumentKeys ≠ []
  keys_nonempty : "" ∉ affectedInstrumentKeys
  keys_sorted : affectedInstrumentKeys.Pairwise (· < ·)
  cause_ne : cause ≠ ""
  directed : match direction with
    | .stretch => previousEffectiveNs < effectiveNs
    | .recover => effectiveNs < previousEffectiveNs

namespace ReportedIntervalChange

/-- `context`. -/
def context (change : ReportedIntervalChange) : List (String × Json) :=
  [("event_id", .str change.eventId),
    ("requested_interval_ns", .int change.requestedNs),
    ("previous_effective_interval_ns", .int change.previousEffectiveNs),
    ("effective_interval_ns", .int change.effectiveNs),
    ("endpoint", .str change.endpoint),
    ("healthy_egress_count", .int change.healthyEgressCount),
    ("affected_instrument_keys", .list (change.affectedInstrumentKeys.map .str)),
    ("config_sha256", .str change.configSha256.hex),
    ("cause", .str change.cause),
    ("direction", .str change.direction.value)]

/-- `_control_record`. -/
def controlRecord (change : ReportedIntervalChange) : NativeEventDraft where
  exchange := change.exchange
  market := none
  instrumentKey := none
  wireSymbol := none
  logicalStream := "_control"
  nativeChannel := none
  transport := .internal
  eventTimeNs := none
  eventTimeSource := none
  payload := .object (change.context ++
    [("type", .str "effective_interval_changed"), ("exchange", .str change.exchange.value)])

/-- The record that is logged. -/
def logRecord (change : ReportedIntervalChange) : List (String × Json) :=
  change.context ++
    [("event", .str "effective_interval_changed"), ("exchange", .str change.exchange.value)]

/-- The control draft passes the validation of `NativeEventDraft`. -/
theorem controlRecord_valid (change : ReportedIntervalChange) :
    change.controlRecord.validate = none := by
  simp [NativeEventDraft.validate, controlRecord, NativeEventDraft.toEnvelopeFields,
    EnvelopeFields.validateScopeAndTransport]

/-- The payload has no `kind`. -/
theorem controlRecord_refused (change : ReportedIntervalChange) :
    validateControlDraft change.controlRecord =
      .error ⟨"control payload requires a normalized kind"⟩ :=
  validateControlDraft_of_no_kind rfl rfl rfl rfl rfl rfl rfl (by simp [context])

end ReportedIntervalChange

/-! ## The publisher -/

/-- `_control_result_accepted`. -/
def controlResultAccepted (r : EnqueueResult) : Bool :=
  r.status = .accepted || r.status = .acceptedHighWater

/-- `IntervalSinks`, with the state of the sinks. A sink that raises answers false. -/
structure IntervalSinks (σ : Type) where
  logs : List (String × Json) → σ → Bool × σ
  controls : NativeEventDraft → Storage.SourceContext → String → σ → Except Err EnqueueResult × σ
  metrics : ReportedIntervalChange → σ → Bool × σ
  /-- `enter`, with its reason and the id of the event. -/
  critical : String → String → σ → Bool × σ

/-- `PublishedIntervalChange`. -/
structure PublishedIntervalChange where
  eventId : String
  restIntervals : RestIntervalContext
  control : NativeEventDraft
  degradedSinks : List String

/-- What `publish` raises. -/
inductive PublicationError where
  | valueError (message : String)
  | intervalPublication (message : String)
  deriving DecidableEq

variable {σ : Type}

/-- `IntervalChangePublisher.publish`; `allowed` is `allowed_metric_series`. -/
def publish (sinks : IntervalSinks σ) (allowed : List (Exchange × String))
    (change : ReportedIntervalChange) (s : σ) :
    Except PublicationError PublishedIntervalChange × σ :=
  if (change.exchange, change.endpoint) ∉ allowed then
    (.error (.valueError "interval metric series is not registered"), s)
  else
    let failed (message : String) (s : σ) :=
      (.error (.intervalPublication message),
        (sinks.critical "interval_control_enqueue_failed" change.eventId s).2)
    match sinks.controls change.controlRecord .internal "_control" s with
    | (.error _, s) => failed "interval control enqueue failed" s
    | (.ok result, s) =>
      if !controlResultAccepted result then failed "interval control enqueue was rejected" s
      else
        let (logged, s) := sinks.logs change.logRecord s
        let (observed, s) := sinks.metrics change s
        let degraded :=
          (if logged then [] else ["logs"]) ++ (if observed then [] else ["metrics"])
        let (degraded, s) :=
          if degraded = [] then (degraded, s)
          else
            let (entered, s) :=
              sinks.critical "interval_observability_publish_failed" change.eventId s
            (if entered then degraded else degraded ++ ["critical"], s)
        (.ok {
          eventId := change.eventId
          restIntervals := {
            requestedIntervalNs := change.requestedNs
            effectiveIntervalNs := change.effectiveNs
            changeEventId := some change.eventId }
          control := change.controlRecord
          degradedSinks := degraded }, s)

/-- What `activate` raises. -/
inductive ActivationError where
  | controller (e : IntervalError)
  | publisher (e : PublicationError)
  deriving DecidableEq

/-- `IntervalController.activate`, with a publisher that does not call the controller. -/
def activate (sinks : IntervalSinks σ) (allowed : List (Exchange × String))
    (p : IntervalProposal) (change : ReportedIntervalChange) (c : IntervalController) (s : σ) :
    Except ActivationError PublishedIntervalChange × IntervalController × σ :=
  match c.validateActivation p change.toIntervalChange with
  | some e => (.error (.controller e), c, s)
  | none =>
    match publish sinks allowed change s with
    | (.error e, s) => (.error (.publisher e), { c with activationInProgress := false }, s)
    | (.ok published, s) =>
      (.ok published, { c.applyProposal p with activationInProgress := false }, s)

/-- An activation is the call of the controller with a publisher that raises or not. -/
theorem activate_exec (sinks : IntervalSinks σ) (allowed : List (Exchange × String))
    (p : IntervalProposal) (change : ReportedIntervalChange) (c : IntervalController) (s : σ) :
    (activate sinks allowed p change c s).2.1 =
      ((IntervalController.Op.activate p change.toIntervalChange []
        ((publish sinks allowed change s).1 matches .error _)).exec c).2 := by
  unfold activate IntervalController.Op.exec
  cases c.validateActivation p change.toIntervalChange with
  | some e => rfl
  | none =>
    cases hpublish : publish sinks allowed change s with
    | mk result s' =>
      cases result with
      | error e => rfl
      | ok published => rfl

/-- Where the control sink accepts nothing, nothing is published. -/
theorem publish_error {sinks : IntervalSinks σ} (allowed : List (Exchange × String))
    {change : ReportedIntervalChange} {s : σ}
    (hcontrols : ∀ result,
      (sinks.controls change.controlRecord .internal "_control" s).1 = .ok result →
        controlResultAccepted result = false) :
    ∃ e, (publish sinks allowed change s).1 = .error e := by
  unfold publish
  by_cases hallowed : (change.exchange, change.endpoint) ∉ allowed
  · rw [if_pos hallowed]
    exact ⟨_, rfl⟩
  · rw [if_neg hallowed]
    cases hemit : sinks.controls change.controlRecord .internal "_control" s with
    | mk answer s' =>
      cases answer with
      | error e => exact ⟨_, rfl⟩
      | ok result =>
        have hrejected := hcontrols result (by rw [hemit])
        exact ⟨.intervalPublication "interval control enqueue was rejected", by
          simp [hrejected]⟩

/-! ## A control sink backed by the ingress -/

/-- The log, metric and critical sinks. -/
structure ObserverSinks (τ : Type) where
  logs : List (String × Json) → τ → Bool × τ
  metrics : ReportedIntervalChange → τ → Bool × τ
  critical : String → String → τ → Bool × τ

/-- What the ingress needs to accept a draft: its configuration, its resolver, the length of the
line and of the association, and what may strike a call of `try_accept`. -/
structure IngressSide where
  cfg : IngressConfig
  resolver : Option ControlAssociationResolver
  lineBytes : NativeEventDraft → Nat
  line_pos : ∀ d, 0 < lineBytes d
  associationBytes : NativeEventDraft → Nat
  buildError : Option Err := none
  fault : Option Fault := none

/-- The call of `try_accept` for a draft. -/
def IngressSide.offer (i : IngressSide) (d : NativeEventDraft) (source : Storage.SourceContext)
    (shard : String) : Offer :=
  ⟨d.toDraft source (i.lineBytes d) (i.line_pos d) (i.associationBytes d), shard, i.buildError,
    i.fault⟩

/-- The sinks whose control sink is `RawIngress.try_accept`. -/
def ingressSinks {τ : Type} (i : IngressSide) (observers : ObserverSinks τ) :
    IntervalSinks (Admission × τ) where
  logs record s := ((observers.logs record s.2).1, s.1, (observers.logs record s.2).2)
  controls d source shard s :=
    let (answer, w) := RawIngress.tryAcceptWith i.cfg i.resolver (i.offer d source shard) s.1
    (answer, w, s.2)
  metrics change s := ((observers.metrics change s.2).1, s.1, (observers.metrics change s.2).2)
  critical reason eventId s :=
    ((observers.critical reason eventId s.2).1, s.1, (observers.critical reason eventId s.2).2)

/-- The ingress accepts the control draft of no change. -/
theorem controls_rejected {τ : Type} (i : IngressSide) (observers : ObserverSinks τ)
    (change : ReportedIntervalChange) (s : Admission × τ) (result : EnqueueResult)
    (h : ((ingressSinks i observers).controls change.controlRecord .internal "_control" s).1 =
      .ok result) : controlResultAccepted result = false := by
  have hrefused := RawIngress.tryAcceptWith_refused i.cfg i.resolver
    (o := i.offer change.controlRecord .internal "_control") s.1 rfl
    (by rw [IngressSide.offer, NativeEventDraft.toDraft, change.controlRecord_refused]; rfl)
  obtain ⟨e, he⟩ | hsuperseded := hrefused
  · exact absurd (he.symm.trans h) (by simp)
  · cases hsuperseded.symm.trans h
    rfl

/-- No change is classified, published or activated: the controller keeps its interval, whatever
the capacity of the ingress. -/
theorem publication_refused {τ : Type} (i : IngressSide) (observers : ObserverSinks τ)
    (allowed : List (Exchange × String)) (p : IntervalProposal) (change : ReportedIntervalChange)
    (c : IntervalController) (s : Admission × τ) :
    (¬ ∃ control, validateControlDraft change.controlRecord = .ok control) ∧
    (¬ ∃ published, (publish (ingressSinks i observers) allowed change s).1 = .ok published) ∧
    ¬ ((∃ published, (activate (ingressSinks i observers) allowed p change c s).1 =
        .ok published) ∨
      (activate (ingressSinks i observers) allowed p change c s).2.1.currentNs ≠ c.currentNs ∨
      (activate (ingressSinks i observers) allowed p change c s).2.1.revision ≠ c.revision) := by
  obtain ⟨e, he⟩ := publish_error allowed (controls_rejected i observers change s)
  refine ⟨?_, ?_, ?_⟩
  · rintro ⟨control, hcontrol⟩
    rw [change.controlRecord_refused] at hcontrol
    cases hcontrol
  · rintro ⟨published, hpublished⟩
    rw [he] at hpublished
    cases hpublished
  · unfold activate
    cases c.validateActivation p change.toIntervalChange with
    | some e => simp
    | none =>
      cases hpublish : publish (ingressSinks i observers) allowed change s with
      | mk answer s' =>
        rw [hpublish] at he
        obtain rfl : answer = .error e := he
        simp

/-- A change from one second to two. -/
def doubledInterval : ReportedIntervalChange where
  previousEffectiveNs := 1000000000
  effectiveNs := 2000000000
  eventId := "e1"
  exchange := .okx
  endpoint := "books"
  requestedNs := 1000000000
  healthyEgressCount := 1
  affectedInstrumentKeys := ["BTC-USDT"]
  configSha256 := ⟨String.ofList (List.replicate 64 'a'), by decide +kernel⟩
  cause := "overload"
  direction := .stretch
  eventId_ne := by decide
  endpoint_bounded := by decide
  requested_pos := by decide
  requested_le_previous := by decide
  requested_le_effective := by decide
  changed := by decide
  keys_ne := by decide
  keys_nonempty := by decide
  keys_sorted := List.pairwise_singleton _ _
  cause_ne := by decide
  directed := by decide

/-- The change from one second to two is refused, and the control draft of every change with it. -/
theorem doubledInterval_refused :
    ¬ ∀ change : ReportedIntervalChange,
      ∃ control, validateControlDraft change.controlRecord = .ok control := by
  intro h
  obtain ⟨control, hcontrol⟩ := h doubledInterval
  have hrefused : validateControlDraft doubledInterval.controlRecord =
      .error ⟨"control payload requires a normalized kind"⟩ := rfl
  rw [hrefused] at hcontrol
  cases hcontrol

end CryptoCollector.Scheduler
