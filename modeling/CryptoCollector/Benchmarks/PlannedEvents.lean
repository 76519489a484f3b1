import CryptoCollector.Benchmarks.Payloads
import CryptoCollector.Benchmarks.Schedules

/-!
# The events of a plan

`benchmarks/oracle.py: PlannedEventV1, iter_plan_events`. An event is made of its scheduled values
without a validation; here the validation is a function of the fields.

* `validate_of_buildEvent`: an event that is built passes the validation.
-/

namespace CryptoCollector.Benchmarks

open Lib Storage

/-! ## Validation -/

/-- `PlannedEventV1`, with fields that may be invalid. -/
structure PlannedEventV1 where
  schemaVersion : Nat
  recordType : String
  algorithms : Algorithms
  plannedEventId : String
  streamGroup : StreamGroup
  logicalStream : LogicalStream
  exchange : Exchange
  market : Option Market
  laneIndex : Option Nat
  symbolIndex : Option Nat
  instrumentKey : Option String
  canonicalIdentity : String
  identityIndex : Nat
  localSequence : Nat
  transport : Transport
  dueOffsetNs : Nat
  deadlineOffsetNs : Nat
  payloadBytes : Nat
  payloadSha256 : String
  payloadCanonicalBytes : Bytes

/-- `expected_transport`. -/
def LogicalStream.transport : LogicalStream → Transport
  | .control => .internal
  | .bookDeepSnapshot => .rest
  | _ => .websocket

/-- `==` of two tuples of dictionary items. -/
def sameItems (xs ys : List (String × Json)) : Bool :=
  xs.length = ys.length && (xs.zip ys).all fun pair =>
    pair.1.1 = pair.2.1 && pair.1.2.equal pair.2.2

/-- Whether an item is not `(name, value)`. -/
def differs (item : Option (String × Json)) (name : String) (value : Json) : Bool :=
  !item.any fun item => item.1 = name && item.2.equal value

namespace PlannedEventV1

variable (e : PlannedEventV1)

/-- The constraints on single fields. -/
def validateFields : Option Err :=
  refuseIf (e.schemaVersion ≠ 1) "schema version must be the integer one" <|>
  refuseIf (e.recordType ≠ "planned_event_v1") "Input should be 'planned_event_v1'" <|>
  e.algorithms.validate <|>
  refuseIf (!isSha256 e.plannedEventId || !isSha256 e.payloadSha256)
    "String should match pattern" <|>
  refuseIf ([e.instrumentKey, some e.canonicalIdentity].contains (some ""))
    "String should have at least 1 character" <|>
  refuseIf (e.deadlineOffsetNs = 0 || e.payloadBytes = 0) "Input should be greater than 0"

/-- The checks of the names in `_validate_identity_fields`. -/
def validateNames : Option Err :=
  match e.streamGroup with
  | .control =>
    refuseIf (e.logicalStream ≠ .control) "control group must use the _control logical stream"
  | .derivative =>
    refuseIf (!([.funding, .openInterest] : List LogicalStream).contains e.logicalStream)
      "derivative group has an invalid logical stream"
  | _ =>
    refuseIf (e.logicalStream.value ≠ e.streamGroup.value)
      "ordinary group and logical stream must match"

/-- The checks of the scope in `_validate_identity_fields`. -/
def validateScope : Option Err :=
  if e.logicalStream = .control then
    refuseIf (e.market.isSome || e.laneIndex.isSome || e.symbolIndex.isSome ||
        e.instrumentKey.isSome)
      "control identity must have no market or instrument" <|>
    refuseIf (e.canonicalIdentity ≠
        e.algorithms.identity ++ ":" ++ e.exchange.value ++ ":-:-:_control")
      "canonical identity does not match its component fields"
  else
    match e.market, e.laneIndex, e.symbolIndex, e.instrumentKey with
    | some market, some laneIndex, some symbolIndex, some instrumentKey =>
      let expectedInstrument := "GATE-" ++ upper e.exchange.value ++ "-" ++ upper market.value ++
        "-L" ++ padded 4 laneIndex ++ "-S" ++ padded 4 symbolIndex
      refuseIf (maxLaneOrSymbol < laneIndex || maxLaneOrSymbol < symbolIndex)
        "identity lane and symbol must fit four digits" <|>
      refuseIf (instrumentKey ≠ expectedInstrument)
        "instrument key does not match canonical identity fields" <|>
      refuseIf (e.canonicalIdentity ≠ e.algorithms.identity ++ ":" ++ e.exchange.value ++ ":" ++
          market.value ++ ":" ++ expectedInstrument ++ ":" ++ e.logicalStream.value)
        "canonical identity does not match its component fields"
    | _, _, _, _ =>
      some (.valueError "scalable identity requires market and instrument fields")

/-- The checks of the items of the payload. -/
def validateItems (items : List (String × Json)) : Option Err :=
  refuseIf (!sameItems (items.take 5)
      [("algorithm", .str e.algorithms.payload), ("event_id", .str e.plannedEventId),
        ("stream", .str e.logicalStream.value), ("identity", .str e.canonicalIdentity),
        ("local_sequence", .ofNat e.localSequence)])
    "payload identity prefix does not match the event" <|>
  refuseIf (!items.getLast?.any fun item =>
      item.1 = "padding" && match item.2 with | .str _ => true | _ => false)
    "payload must end with string padding" <|>
  (if e.logicalStream = .control then
    refuseIf (differs items[items.length - 3]? "kind" (.str controlKind))
      "control payload has invalid control kind" <|>
    refuseIf (differs items[items.length - 2]? "affected_markets"
        (.list [.str "spot", .str "perpetual"]))
      "control payload has invalid affected markets"
  else none) <|>
  refuseIf (
    let valueItems :=
      if e.logicalStream = .control then (items.take (items.length - 3)).drop 5
      else (items.take (items.length - 1)).drop 5
    match valueItems with
    | [item] => !payloadValueKeys.contains item.1
    | _ => true)
    "payload must contain one canonical value key"

/-- The checks of the payload. -/
def validatePayload (L : JsonLibraries) : Option Err :=
  match L.decodeJson e.payloadCanonicalBytes with
  | .error _ => some (.valueError "payload must be canonical JSON")
  | .ok (.object items) =>
    match L.encodeJson (.object items) with
    | .error error => some error
    | .ok text =>
      refuseIf (text ≠ e.payloadCanonicalBytes) "payload must use canonical JSON bytes" <|>
      e.validateItems items
  | .ok _ => some (.valueError "payload must use canonical JSON bytes")

/-- `validate_event`. -/
def validateEvent (H : Hashlib) (L : JsonLibraries) : Option Err :=
  e.validateNames <|> e.validateScope <|>
  refuseIf (e.transport ≠ e.logicalStream.transport)
    "event transport does not match its logical stream" <|>
  refuseIf (e.deadlineOffsetNs ≠ e.dueOffsetNs + oneSecondNs)
    "event deadline must be exactly one second after due time" <|>
  refuseIf (e.payloadCanonicalBytes.length ≠ e.payloadBytes)
    "payload byte count does not match canonical payload" <|>
  refuseIf (H.hexdigest e.payloadCanonicalBytes ≠ e.payloadSha256)
    "payload SHA does not match canonical payload" <|>
  e.validatePayload L

/-- The validation of `PlannedEventV1`. -/
def validate (H : Hashlib) (L : JsonLibraries) : Option Err :=
  e.validateFields <|> e.validateEvent H L

end PlannedEventV1

/-! ## Building -/

/-- The items that a loop yields before it raises, and what it raises. -/
def yielded {α β ε : Type} (f : α → Except ε β) : List α → List β × Option ε
  | [] => ([], none)
  | a :: as =>
    match f a with
    | .error e => ([], some e)
    | .ok b => (b :: (yielded f as).1, (yielded f as).2)

theorem exists_of_mem_yielded {α β ε : Type} {f : α → Except ε β} {xs : List α} {b : β}
    (h : b ∈ (yielded f xs).1) : ∃ a ∈ xs, f a = .ok b := by
  induction xs with
  | nil => cases h
  | cons a as ih =>
    cases hf : f a with
    | error e => simp [yielded, hf] at h
    | ok c =>
      simp only [yielded, hf, List.mem_cons] at h
      obtain rfl | h := h
      · exact ⟨a, List.mem_cons_self, hf⟩
      · obtain ⟨a', ha', hb⟩ := ih h
        exact ⟨a', List.mem_cons_of_mem _ ha', hb⟩

section Building

variable (H : Hashlib) (L : PayloadLibraries)

/-- The event of scheduled values: `_scheduled_event_values`. -/
def eventOf (s : StreamPlanFields) (eventId : String) (identity : IdentityFacts)
    (localSequence dueOffsetNs : Nat) (transport : Transport) (payload : Bytes) :
    PlannedEventV1 where
  schemaVersion := 1
  recordType := "planned_event_v1"
  algorithms := s.algorithms
  plannedEventId := eventId
  streamGroup := s.streamGroup
  logicalStream := identity.logicalStream
  exchange := identity.exchange
  market := identity.market
  laneIndex := identity.scope.map (·.laneIndex)
  symbolIndex := identity.scope.map (·.symbolIndex)
  instrumentKey := identity.instrumentKey
  canonicalIdentity := identity.canonicalIdentity
  identityIndex := identity.identityIndex
  localSequence
  transport
  dueOffsetNs
  deadlineOffsetNs := dueOffsetNs + oneSecondNs
  payloadBytes := payload.length
  payloadSha256 := H.hexdigest payload
  payloadCanonicalBytes := payload

/-- `_build_event`. -/
def buildEvent (scheduled : ScheduledEvent H) : Except GenerationError PlannedEventV1 := do
  let s := scheduled.summary.toStreamPlanFields
  let (computedId, identity, localSequence) ← s.eventFactsAt H scheduled.ordinal
  if scheduled.eventId ≠ computedId then
    throw (.assertionError "event ID changed between ordering and construction")
  let payload ← payloadBytes H L s computedId identity localSequence
  let logicalIndex ← tupleIndex s.logicalStreams identity.logicalStream
  let transport ← index s.transports logicalIndex
  return eventOf H s computedId identity localSequence scheduled.dueOffsetNs transport payload

/-- `iter_plan_events`: the events that it yields, and what it raises after them. The schedule does
not raise, so that it is computed ahead of the events. -/
def iterPlanEvents {H : Hashlib} (L : PayloadLibraries) (p : WorkloadPlanV1 H) :
    List PlannedEventV1 × Option GenerationError :=
  match planSchedule p with
  | .error e => ([], some e)
  | .ok scheduled => yielded (buildEvent H L) scheduled

/-- `iter_exchange_plan_events`. -/
def iterExchangePlanEvents {H : Hashlib} (L : PayloadLibraries) (p : WorkloadPlanV1 H)
    (exchange : Exchange) : List PlannedEventV1 × Option GenerationError :=
  if p.streams.any fun s => exchange ∉ s.exchanges then
    ([], some (.valueError "exchange is absent from the plan"))
  else
    match exchangePlanSchedule p exchange with
    | .error e => ([], some e)
    | .ok scheduled => yielded (buildEvent H L) scheduled

end Building

/-! ## What is built -/

section Built

variable {H : Hashlib} {L : PayloadLibraries}

theorem StreamGroup.control_iff {g : StreamGroup} {l : LogicalStream} (hl : l ∈ g.logicalStreams) :
    l = .control ↔ g = .control := by
  revert hl
  cases g <;> cases l <;> decide

/-- The transport of a logical stream is the one that is paired with it. -/
theorem transport_of_index {g : StreamGroup} {l : LogicalStream} (hl : l ∈ g.logicalStreams) :
    g.transports[g.logicalStreams.idxOf l]? = some l.transport := by
  revert hl
  cases g <;> cases l <;> decide

/-- The parts of an event that is built. -/
theorem exists_of_buildEvent {scheduled : ScheduledEvent H} {e : PlannedEventV1}
    (h : buildEvent H L scheduled = .ok e) : ∃ identity localSequence payload,
      scheduled.summary.identityFactsAt identity.identityIndex = .ok identity ∧
      payloadBytes H L scheduled.summary.toStreamPlanFields
        (scheduled.summary.plannedEventId H identity.canonicalIdentity localSequence) identity
        localSequence = .ok payload ∧
      e = eventOf H scheduled.summary.toStreamPlanFields
        (scheduled.summary.plannedEventId H identity.canonicalIdentity localSequence) identity
        localSequence scheduled.dueOffsetNs identity.logicalStream.transport payload := by
  have hlawful := scheduled.summary.lawful
  obtain ⟨⟨eventId, identity, localSequence⟩, hfacts, h⟩ := bind_eq_ok.mp h
  obtain ⟨-, h⟩ := throw_bind_eq_ok.mp h
  obtain ⟨payload, hpayload, h⟩ := bind_eq_ok.mp h
  obtain ⟨logicalIndex, hindex, h⟩ := bind_eq_ok.mp h
  obtain ⟨transport, htransport, h⟩ := bind_eq_ok.mp h
  obtain ⟨hidentity, rfl⟩ := StreamPlanFields.identityAt_of_eventFactsAt hlawful hfacts
  unfold tupleIndex at hindex
  split_ifs at hindex with hmem
  cases hindex
  rw [index_eq_ok, hlawful.transports, hlawful.logicalStreams,
    transport_of_index (hlawful.logicalStreams ▸ hmem)] at htransport
  cases htransport
  cases h
  exact ⟨identity, localSequence, payload, hidentity, hpayload, rfl⟩

variable {s : StreamPlanFields} {identity : IdentityFacts}

/-- The names of an identity pass their checks. -/
theorem validateNames_eq_none {e : PlannedEventV1}
    (h : e.logicalStream ∈ e.streamGroup.logicalStreams) : e.validateNames = none := by
  unfold PlannedEventV1.validateNames
  generalize e.streamGroup = g at h
  generalize e.logicalStream = l at h
  revert h
  cases g <;> cases l <;> decide

/-- The scope of an identity passes its checks. -/
theorem validateScope_eventOf (hs : s.Lawful) {i : Nat} (hi : s.IdentityAt i identity)
    {eventId : String} {localSequence due : Nat} {transport : Transport} {payload : Bytes} :
    (eventOf H s eventId identity localSequence due transport payload).validateScope = none := by
  have halgorithm : s.algorithms.identity = "gate-identity-v1" := congrArg _ hs.algorithms
  have hcontrol := StreamGroup.control_iff (hs.logicalStreams ▸ hi.logicalStream)
  unfold PlannedEventV1.validateScope eventOf
  dsimp only
  rw [halgorithm]
  cases hscope : identity.scope with
  | none =>
    have hgroup : s.streamGroup = .control := hi.streamGroup.symm.trans (hi.unscoped hscope)
    have hcanonical : identity.canonicalIdentity =
        "gate-identity-v1" ++ ":" ++ identity.exchange.value ++ ":-:-:_control" := by
      unfold IdentityFacts.canonicalIdentity IdentityFacts.market
      rw [hscope]
      dsimp only [Option.map_none]
      simp only [String.append_assoc, String.reduceAppend]
    rw [if_pos (hcontrol.mpr hgroup), hcanonical, IdentityFacts.market, IdentityFacts.instrumentKey,
      hscope, orElse_eq_none, refuseIf_eq_none, refuseIf_eq_none]
    exact ⟨rfl, decide_eq_false (not_not.mpr rfl)⟩
  | some scope =>
    obtain ⟨hgroup, hlane, hsymbol⟩ := hi.scope scope hscope
    have hlane' := hlane.trans_le hs.multiplier_le
    have hsymbol' := hsymbol.trans_le hs.symbols_le
    have hkey : identity.instrumentKey = some ("GATE-" ++ upper identity.exchange.value ++ "-" ++
        upper scope.market.value ++ "-L" ++ padded 4 scope.laneIndex ++ "-S" ++
        padded 4 scope.symbolIndex) := by
      simp only [IdentityFacts.instrumentKey, hscope, Option.map_some, String.append_assoc]
    have hmarket : identity.market = some scope.market := by
      rw [IdentityFacts.market, hscope, Option.map_some]
    have hcanonical : identity.canonicalIdentity = "gate-identity-v1" ++ ":" ++
        identity.exchange.value ++ ":" ++ scope.market.value ++ ":" ++
        ("GATE-" ++ upper identity.exchange.value ++ "-" ++ upper scope.market.value ++ "-L" ++
          padded 4 scope.laneIndex ++ "-S" ++ padded 4 scope.symbolIndex) ++ ":" ++
        identity.logicalStream.value := by
      unfold IdentityFacts.canonicalIdentity
      rw [hmarket, hkey]
      dsimp only
      simp only [String.append_assoc, String.reduceAppend]
    rw [if_neg (hcontrol.not.mpr (hi.streamGroup ▸ hgroup)), hmarket, hkey, hcanonical]
    dsimp only [Option.map_some]
    rw [orElse_eq_none, orElse_eq_none, refuseIf_eq_none, refuseIf_eq_none, refuseIf_eq_none]
    refine ⟨?_, decide_eq_false (not_not.mpr rfl), decide_eq_false (not_not.mpr rfl)⟩
    rw [Bool.or_eq_false_iff, decide_eq_false_iff_not, decide_eq_false_iff_not, maxLaneOrSymbol]
    omega

theorem canonicalIdentity_ne_empty (i : IdentityFacts) : i.canonicalIdentity ≠ "" := by
  intro h
  have hlist := congrArg String.toList h
  unfold IdentityFacts.canonicalIdentity at hlist
  rw [String.toList_append, String.toList_append, String.toList_append] at hlist
  have hname := (List.append_eq_nil_iff.mp (List.append_eq_nil_iff.mp
    (List.append_eq_nil_iff.mp hlist).1).1).1
  exact absurd hname (by decide)

theorem instrumentKey_ne_empty (i : IdentityFacts) : i.instrumentKey ≠ some "" := by
  intro h
  obtain ⟨scope, -, hkey⟩ := Option.map_eq_some_iff.mp h
  have hlist := congrArg String.toList hkey
  rw [String.toList_append] at hlist
  exact absurd (List.append_eq_nil_iff.mp hlist).1 (by decide)

/-- The single fields of an event pass their checks. -/
theorem validateFields_eventOf (hs : s.Lawful) {canonicalIdentity : String}
    {localSequence due : Nat} {transport : Transport} {payload : Bytes}
    (hpayload : 0 < payload.length) :
    (eventOf H s (s.plannedEventId H canonicalIdentity localSequence) identity localSequence due
      transport payload).validateFields = none := by
  have hcontains : [identity.instrumentKey, some identity.canonicalIdentity].contains (some "") =
      false := by
    simp only [List.contains_cons, List.contains_nil, Bool.or_false, Bool.or_eq_false_iff,
      beq_eq_false_iff_ne]
    exact ⟨(instrumentKey_ne_empty identity).symm,
      fun h => canonicalIdentity_ne_empty identity (Option.some.inj h).symm⟩
  unfold PlannedEventV1.validateFields eventOf
  dsimp only
  rw [orElse_eq_none, orElse_eq_none, orElse_eq_none, orElse_eq_none, orElse_eq_none,
    Algorithms.validate_eq_none, refuseIf_eq_none, refuseIf_eq_none, refuseIf_eq_none,
    refuseIf_eq_none, refuseIf_eq_none, hcontains, StreamPlanFields.plannedEventId,
    H.isSha256_hexdigest, H.isSha256_hexdigest]
  refine ⟨rfl, rfl, hs.algorithms, rfl, rfl, ?_⟩
  rw [Bool.or_eq_false_iff, decide_eq_false_iff_not, decide_eq_false_iff_not, oneSecondNs]
  omega

theorem sameItems_self {xs : List (String × Json)} (h : ∀ x ∈ xs, x.2.equal x.2 = true) :
    sameItems xs xs = true := by
  rw [sameItems, Bool.and_eq_true, List.all_eq_true]
  refine ⟨decide_eq_true rfl, ?_⟩
  induction xs with
  | nil => exact fun _ hpair => absurd hpair List.not_mem_nil
  | cons x xs ih =>
    rw [List.forall_mem_cons] at h
    rw [List.zip_cons_cons, List.forall_mem_cons, Bool.and_eq_true]
    exact ⟨⟨decide_eq_true rfl, h.1⟩, ih h.2⟩

theorem differs_self {name : String} {value : Json} (h : value.equal value = true) :
    differs (some (name, value)) name value = false := by
  simp [differs, h]

/-- The items of a payload pass their checks. -/
theorem validateItems_eventOf {eventId padding : String} {localSequence due : Nat}
    {transport : Transport} {payload : Bytes} :
    (eventOf H s eventId identity localSequence due transport payload).validateItems
      (payloadFields H s eventId identity localSequence padding) = none := by
  have hkey : payloadValueKeys.contains (payloadValueKey H s eventId) = true :=
    List.contains_iff_mem.mpr (payloadValueKey_mem H s eventId)
  have hinitial : sameItems ((payloadFields H s eventId identity localSequence padding).take 5)
      [("algorithm", .str s.algorithms.payload), ("event_id", .str eventId),
        ("stream", .str identity.logicalStream.value),
        ("identity", .str identity.canonicalIdentity), ("local_sequence", .ofNat localSequence)] =
      true := by
    refine sameItems_self fun item hitem => Json.equal_self _ ?_
    change item ∈ [_, _, _, _, _] at hitem
    simp only [List.mem_cons, List.not_mem_nil, or_false] at hitem
    obtain rfl | rfl | rfl | rfl | rfl := hitem <;> trivial
  unfold PlannedEventV1.validateItems eventOf
  dsimp only
  rw [hinitial, orElse_eq_none, orElse_eq_none, orElse_eq_none, refuseIf_eq_none, refuseIf_eq_none,
    refuseIf_eq_none]
  by_cases hcontrol : identity.logicalStream = .control
  · have hitems : payloadFields H s eventId identity localSequence padding =
        (payloadFields H s eventId identity localSequence padding).take 5 ++
          [(payloadValueKey H s eventId, payloadValue H s eventId), ("kind", .str controlKind),
            ("affected_markets", .list [.str "spot", .str "perpetual"]),
            ("padding", .str padding)] := by
      unfold payloadFields
      rw [if_pos hcontrol]
      rfl
    have hkind : (Json.str controlKind).equal (.str controlKind) = true := Json.equal_self _ trivial
    have hmarkets : (Json.list [.str "spot", .str "perpetual"]).equal
        (.list [.str "spot", .str "perpetual"]) = true :=
      Json.equal_self _ ⟨trivial, trivial, trivial⟩
    rw [if_pos hcontrol, if_pos hcontrol, orElse_eq_none, refuseIf_eq_none, refuseIf_eq_none]
    rw [hitems]
    refine ⟨rfl, rfl, ⟨differs_self hkind, differs_self hmarkets⟩, ?_⟩
    change (!payloadValueKeys.contains (payloadValueKey H s eventId)) = false
    rw [hkey]
    rfl
  · have hitems : payloadFields H s eventId identity localSequence padding =
        (payloadFields H s eventId identity localSequence padding).take 5 ++
          [(payloadValueKey H s eventId, payloadValue H s eventId),
            ("padding", .str padding)] := by
      unfold payloadFields
      rw [if_neg hcontrol]
      rfl
    rw [if_neg hcontrol, if_neg hcontrol, hitems]
    refine ⟨rfl, rfl, rfl, ?_⟩
    change (!payloadValueKeys.contains (payloadValueKey H s eventId)) = false
    rw [hkey]
    rfl

/-- A payload that is decoded to its items and encoded from them passes its checks. -/
theorem validatePayload_eq_none {L : JsonLibraries} {e : PlannedEventV1}
    {items : List (String × Json)}
    (hdecode : L.decodeJson e.payloadCanonicalBytes = .ok (.object items))
    (hencode : L.encodeJson (.object items) = .ok e.payloadCanonicalBytes)
    (hitems : e.validateItems items = none) : e.validatePayload L = none := by
  unfold PlannedEventV1.validatePayload
  rw [hdecode]
  dsimp only
  rw [hencode]
  dsimp only
  rw [orElse_eq_none, refuseIf_eq_none]
  exact ⟨decide_eq_false (not_not.mpr rfl), hitems⟩

/-- The payload passes its checks. -/
theorem validatePayload_eventOf (hL : L.Documented) (hs : s.Lawful) {canonicalIdentity : String}
    {localSequence due : Nat} {transport : Transport} {payload : Bytes}
    (h : payloadBytes H L s (s.plannedEventId H canonicalIdentity localSequence) identity
      localSequence = .ok payload) :
    (eventOf H s (s.plannedEventId H canonicalIdentity localSequence) identity localSequence due
      transport payload).validatePayload L.toJsonLibraries = none := by
  obtain ⟨padding, hplain, hfits, rfl, -⟩ :=
    exists_padding hL hs (isPlainText_hexdigest H _) h
  exact validatePayload_eq_none
    (JsonLibraries.decodeJson_eq_ok.mpr (hL.simplejson_loads _ hplain hfits))
    (JsonLibraries.encodeJson_eq_ok.mpr (hL.simplejson_dumps _ hplain hfits)) validateItems_eventOf

/-- An event that is built passes the validation. -/
theorem validate_of_buildEvent (hL : L.Documented) {scheduled : ScheduledEvent H}
    {e : PlannedEventV1} (h : buildEvent H L scheduled = .ok e) :
    e.validate H L.toJsonLibraries = none := by
  have hs := scheduled.summary.lawful
  obtain ⟨identity, localSequence, payload, hidentity, hpayload, rfl⟩ := exists_of_buildEvent h
  have hi := StreamPlanFields.identityAt_of_eq_ok hs hidentity
  obtain ⟨-, -, -, -, hlength⟩ := exists_padding hL hs (isPlainText_hexdigest H _) hpayload
  have hpos : 0 < payload.length := by
    rw [hlength]
    exact payloadTargetBytes_pos hs
  unfold PlannedEventV1.validate PlannedEventV1.validateEvent
  rw [orElse_eq_none, orElse_eq_none, orElse_eq_none, orElse_eq_none, orElse_eq_none,
    orElse_eq_none, orElse_eq_none, refuseIf_eq_none, refuseIf_eq_none, refuseIf_eq_none,
    refuseIf_eq_none]
  exact ⟨validateFields_eventOf hs hpos, validateNames_eq_none (hs.logicalStreams ▸ hi.logicalStream),
    validateScope_eventOf hs hi, decide_eq_false (not_not.mpr rfl),
    decide_eq_false (not_not.mpr rfl), decide_eq_false (not_not.mpr rfl),
    decide_eq_false (not_not.mpr rfl), validatePayload_eventOf hL hs hpayload⟩

end Built

end CryptoCollector.Benchmarks
