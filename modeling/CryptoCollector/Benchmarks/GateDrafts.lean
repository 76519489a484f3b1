import CryptoCollector.Benchmarks.PlannedEvents
import CryptoCollector.Storage.ControlDraft

/-!
# Drafts of planned events

`benchmarks/oracle.py: build_native_draft`, with drafts and sources that no validation has seen.

* `PlannedEventV1.exists_admissible`: the draft and the source of an event that is built pass the
  validations that they bypass, and those of the ingress.
-/

namespace CryptoCollector.Benchmarks

open Lib Storage

/-! ## Unvalidated sources and drafts -/

/-- `SourceContext`, with fields that may be invalid. -/
structure SourceFields where
  connectionId : Option String
  connectionGeneration : Option Nat
  egressId : Option String

namespace SourceFields

variable (s : SourceFields)

/-- `SourceContext.model_validate`. -/
def modelValidate : Except Err SourceContext :=
  if [s.connectionId, s.egressId].contains (some "") then
    .error (.valueError "String should have at least 1 character")
  else if h : s.connectionId.isNone = s.connectionGeneration.isNone then
    .ok ⟨s.connectionId, s.connectionGeneration, s.egressId, h⟩
  else
    .error (.valueError
      "source context connection_id and connection_generation must be paired")

/-- `validate_for`. -/
def validateFor (transport : Transport) (logicalStream : String) : Option Err :=
  let hasConnection := s.connectionId.isSome
  if transport = .internal then
    refuseIf (hasConnection || s.egressId.isSome) "internal source context must be entirely null"
  else if transport = .websocket || logicalStream = "book_live_bootstrap" then
    refuseIf (!hasConnection || s.egressId.isNone)
      "WebSocket/bootstrap source context requires connection and egress"
  else
    refuseIf (hasConnection || s.egressId.isNone)
      "routine REST source context requires only a non-null egress_id"

end SourceFields

/-- A source that fits its transport is accepted with its draft. -/
theorem validateSource_of_validateFor {s : SourceFields} {source : SourceContext}
    {d : NativeEventDraft} (hsource : s.modelValidate = .ok source)
    (h : s.validateFor d.transport d.logicalStream = none) : d.validateSource source = none := by
  unfold SourceFields.modelValidate at hsource
  split_ifs at hsource with hempty hpaired
  cases hsource
  have hpair : ¬ (s.connectionId.isNone != s.connectionGeneration.isNone) = true := by
    simpa using hpaired
  exact (if_neg hpair).trans h

/-- `NativeEventDraft`, with fields that may be invalid. -/
structure DraftFields where
  exchange : Exchange
  market : Option Market
  instrumentKey : Option String
  wireSymbol : Option String
  logicalStream : String
  nativeChannel : Option String
  transport : Transport
  eventTimeNs : Option Nat
  eventTimeSource : Option String
  integrityMode : Option IntegrityMode
  coverage : Option CoverageMode
  restMetadata : Option RestRecord
  payload : Json

namespace DraftFields

variable (d : DraftFields)

/-- The draft with metadata that passed their validation. -/
def withRest (rest : Option ValidRest) : NativeEventDraft where
  exchange := d.exchange
  market := d.market
  instrumentKey := d.instrumentKey
  wireSymbol := d.wireSymbol
  logicalStream := d.logicalStream
  nativeChannel := d.nativeChannel
  transport := d.transport
  eventTimeNs := d.eventTimeNs
  eventTimeSource := d.eventTimeSource
  integrityMode := d.integrityMode
  coverage := d.coverage
  restMetadata := rest.map ValidRest.toRestMetadata
  payload := d.payload

/-- `RestMetadata.model_validate` of the metadata, where there are any. -/
def validateRest : Except Err (Option ValidRest) :=
  match d.restMetadata with
  | none => .ok none
  | some rest => some <$> rest.construct

/-- `NativeEventDraft.model_validate`. -/
def modelValidate : Except Err NativeEventDraft := do
  let rest ← d.validateRest
  checked (d.withRest rest).validate (.ok (d.withRest rest))

end DraftFields

/-- What `build_native_draft` returns. -/
structure NativeDraft where
  draft : DraftFields
  source : SourceFields
  shard : String

/-! ## Building -/

/-- `_source_values_for_gate_event`. -/
def sourceValuesForGateEvent (exchange : Exchange) (market : Option Market)
    (transport : Transport) : Except Err SourceFields :=
  match transport with
  | .internal => .ok ⟨none, none, none⟩
  | .websocket =>
    match market with
    | none => .error (.valueError "WebSocket event requires a market")
    | some market =>
      .ok ⟨some ("gate-ws-v1-" ++ exchange.value ++ "-" ++ market.value), some 0,
        some ("gate-egress-v1-" ++ exchange.value)⟩
  | .rest => .ok ⟨none, none, some ("gate-egress-v1-" ++ exchange.value)⟩

namespace PlannedEventV1

variable (L : PayloadLibraries) (e : PlannedEventV1)

/-- The property `payload`. -/
def payload : Except Err Json := do
  match ← L.decodeJson e.payloadCanonicalBytes with
  | .object fields => return .object fields
  | _ => throw (.valueError "planned payload must decode to an object")

/-- The payload of the draft: what orjson reads, or what simplejson reads where orjson reads a
float. -/
def draftPayload : Except Err Json := do
  match L.orjsonLoads e.payloadCanonicalBytes with
  | none => throw (.valueError "invalid JSON")
  | some value =>
    let payload ← match value.lossless with
      | some payload => pure payload
      | none => e.payload L
    match payload with
    | .object fields => return .object fields
    | _ => throw (.assertionError "planned payload must decode to an object")

/-- The field `rest_metadata` of the draft. -/
def draftRest (eventTimeNs : Option Nat) : Except Err (Option RestRecord) :=
  if e.transport = .rest then
    match e.instrumentKey, eventTimeNs with
    | some instrumentKey, some eventTimeNs => .ok (some (gateRequest instrumentKey eventTimeNs))
    | _, _ => .error (.valueError "REST event requires instrument and event time")
  else .ok none

/-- The draft, from its metadata and its payload. -/
def draftOf (eventTimeNs : Option Nat) (restMetadata : Option RestRecord) (payload : Json) :
    DraftFields where
  exchange := e.exchange
  market := e.market
  instrumentKey := e.instrumentKey
  wireSymbol := e.instrumentKey
  logicalStream := e.logicalStream.value
  nativeChannel :=
    if e.logicalStream = .control then none else some ("gate.v1." ++ e.logicalStream.value)
  transport := e.transport
  eventTimeNs
  eventTimeSource := if e.logicalStream = .control then none else some "gate_due_time"
  integrityMode := gateIntegrityMode e.logicalStream
  coverage := gateCoverage e.logicalStream
  restMetadata
  payload

/-- The shard of the draft. -/
def draftShard : String :=
  if e.logicalStream = .control then "_control"
  else "gate-" ++ e.logicalStream.value ++ "-" ++ toString e.identityIndex

/-- `build_native_draft`. -/
def buildNativeDraft (admissionStartedUtcNs : Int) : Except Err NativeDraft := do
  if admissionStartedUtcNs < 0 then
    throw (.valueError "admission UTC anchor must be non-negative")
  let eventTimeNs :=
    if e.logicalStream = .control then none
    else some (admissionStartedUtcNs.toNat + e.dueOffsetNs)
  let source ← sourceValuesForGateEvent e.exchange e.market e.transport
  let restMetadata ← e.draftRest eventTimeNs
  let payload ← e.draftPayload L
  let draft := e.draftOf eventTimeNs restMetadata payload
  checked (source.validateFor draft.transport draft.logicalStream)
    (.ok ⟨draft, source, e.draftShard⟩)

end PlannedEventV1

/-! ## What a draft passes -/

/-- The validations that the draft of an event has bypassed, and those of the ingress. -/
structure NativeDraft.Admissible (L : PayloadLibraries) (e : PlannedEventV1) (d : NativeDraft) :
    Prop where
  /-- `NativeEventDraft`, `SourceContext` and `validate_source`, and `_validate_shard`, `_classify`,
  `_validate_class_shard` and `_validate_source` of the ingress. -/
  accepted : ∃ draft source, d.draft.modelValidate = .ok draft ∧
    d.source.modelValidate = .ok source ∧ draft.validateSource source = none ∧
    ∀ lineBytes hline associationBytes, ∃ capacityClass,
      RawIngress.validate (draft.toDraft source lineBytes hline associationBytes) d.shard =
        .ok capacityClass
  /-- `RestMetadata`. -/
  rest : ∀ r ∈ d.draft.restMetadata, r.validate = none
  payload : L.decodeJson e.payloadCanonicalBytes = .ok d.draft.payload

/-- What the draft of an event is made of: its routing, and a payload that both loaders read. -/
structure PlannedEventV1.Routed (L : PayloadLibraries) (e : PlannedEventV1)
    (fields : List (String × Json)) : Prop where
  transport : e.transport = e.logicalStream.transport
  exchangeScope : e.logicalStream = .control → e.market = none ∧ e.instrumentKey = none
  instrumentScope : e.logicalStream ≠ .control →
    ∃ market key, e.market = some market ∧ e.instrumentKey = some key ∧ key ≠ ""
  orjson : ∃ value, L.orjsonLoads e.payloadCanonicalBytes = some value ∧
    value.lossless = some (.object fields)
  simplejson : L.decodeJson e.payloadCanonicalBytes = .ok (.object fields)
  control : e.logicalStream = .control → fields.lookup "kind" = some (.str controlKind) ∧
    fields.lookup "storage_association" = none

theorem RawIngress.validate_control {d : Draft} (hstream : d.key.logicalStream = "_control")
    (hcontrol : d.control.isNone = false) (hsource : d.sourceValid = true) :
    RawIngress.validate d "_control" = .ok .control := by
  have hnormalized : normalized "_control" = true := by decide
  simp [RawIngress.validate, hnormalized, hstream, hsource, hcontrol]

theorem RawIngress.validate_normal {d : Draft} {shard : String}
    (hstream : d.key.logicalStream ≠ "_control") (hnormalized : normalized shard = true)
    (hshard : shard ≠ "_control") (hsource : d.sourceValid = true) :
    RawIngress.validate d shard = .ok .normal := by
  simp [RawIngress.validate, hnormalized, hstream, hsource, hshard]

section Drafts

variable {H : Hashlib} {L : PayloadLibraries} {e : PlannedEventV1} {fields : List (String × Json)}

/-- An event that is built is routed. -/
theorem exists_routed (hL : L.Documented) {scheduled : ScheduledEvent H}
    (h : buildEvent H L scheduled = .ok e) : ∃ fields, e.Routed L fields := by
  have hs := scheduled.summary.lawful
  obtain ⟨identity, localSequence, payload, hidentity, hpayload, rfl⟩ := exists_of_buildEvent h
  have hi := StreamPlanFields.identityAt_of_eq_ok hs hidentity
  have hcontrol := StreamGroup.control_iff (hs.logicalStreams ▸ hi.logicalStream)
  obtain ⟨padding, hplain, hfits, rfl, -⟩ :=
    exists_padding hL hs (isPlainText_hexdigest H _) hpayload
  refine ⟨_, ⟨rfl, fun hstream => ?_, fun hstream => ?_, hL.orjson_loads _ hplain hfits,
    JsonLibraries.decodeJson_eq_ok.mpr (hL.simplejson_loads _ hplain hfits), fun hstream =>
      lookup_of_control hplain.names_nodup hstream⟩⟩
  · have hgroup := hi.streamGroup.trans (hcontrol.mp hstream)
    have hscope : identity.scope = none := by
      cases hscope : identity.scope with
      | none => rfl
      | some scope => exact absurd hgroup (hi.scope scope hscope).1
    exact ⟨congrArg (Option.map _) hscope, congrArg (Option.map _) hscope⟩
  · cases hscope : identity.scope with
    | none =>
      exact absurd (hcontrol.mpr (hi.streamGroup.symm.trans (hi.unscoped hscope))) hstream
    | some scope =>
      obtain ⟨key, hkey⟩ : ∃ key, identity.instrumentKey = some key :=
        ⟨_, congrArg (Option.map _) hscope⟩
      refine ⟨scope.market, key, congrArg (Option.map _) hscope, hkey, ?_⟩
      rintro rfl
      exact instrumentKey_ne_empty identity hkey

/-- The payload of the draft of a routed event. -/
theorem draftPayload_of_routed (h : e.Routed L fields) : e.draftPayload L = .ok (.object fields) := by
  obtain ⟨value, hvalue, hlossless⟩ := h.orjson
  rw [PlannedEventV1.draftPayload, hvalue]
  dsimp only
  rw [hlossless]
  rfl

/-- What `build_native_draft` makes of a routed event. -/
theorem buildNativeDraft_of_routed (h : e.Routed L fields) {start : Int} (hstart : 0 ≤ start)
    {eventTimeNs : Option Nat} {source : SourceFields} {rest : Option RestRecord}
    (htime : (if e.logicalStream = .control then none
      else some (start.toNat + e.dueOffsetNs)) = eventTimeNs)
    (hsource : sourceValuesForGateEvent e.exchange e.market e.transport = .ok source)
    (hrest : e.draftRest eventTimeNs = .ok rest)
    (hvalid : source.validateFor e.transport e.logicalStream.value = none) :
    e.buildNativeDraft L start =
      .ok ⟨e.draftOf eventTimeNs rest (.object fields), source, e.draftShard⟩ := by
  unfold PlannedEventV1.buildNativeDraft
  refine throw_bind_eq_ok.mpr ⟨not_lt.mpr hstart, ?_⟩
  dsimp only
  rw [htime, hsource, ok_bind, hrest, ok_bind, draftPayload_of_routed h, ok_bind]
  exact checked_eq_ok.mpr ⟨hvalid, rfl⟩

/-- The draft of a control event. -/
theorem exists_admissible_control (h : e.Routed L fields) (hstream : e.logicalStream = .control)
    {start : Int} (hstart : 0 ≤ start) :
    ∃ d, e.buildNativeDraft L start = .ok d ∧ d.Admissible L e := by
  obtain ⟨hmarket, hkey⟩ := h.exchangeScope hstream
  have htransport : e.transport = .internal := by rw [h.transport, hstream]; rfl
  obtain ⟨hkind, hassociation⟩ := h.control hstream
  have hsource : sourceValuesForGateEvent e.exchange e.market e.transport =
      .ok ⟨none, none, none⟩ := by
    rw [htransport]
    rfl
  have hrest : e.draftRest none = .ok none := by
    unfold PlannedEventV1.draftRest
    rw [htransport]
    rfl
  have hvalid : SourceFields.validateFor ⟨none, none, none⟩ e.transport e.logicalStream.value =
      none := by
    rw [htransport]
    rfl
  have hbuilt := buildNativeDraft_of_routed h hstart (if_pos hstream) hsource hrest hvalid
  have hdraft : (e.draftOf none none (.object fields)).withRest none =
      { exchange := e.exchange, market := none, instrumentKey := none, wireSymbol := none,
        logicalStream := "_control", nativeChannel := none, transport := .internal,
        eventTimeNs := none, eventTimeSource := none, payload := .object fields } := by
    rw [DraftFields.withRest, PlannedEventV1.draftOf, hmarket, hkey, htransport, hstream]
    rfl
  refine ⟨_, hbuilt, ⟨(e.draftOf none none (.object fields)).withRest none, .internal, ?_, rfl, ?_,
    fun lineBytes hline associationBytes => ⟨.control, ?_⟩⟩, fun r hr => ?_, h.simplejson⟩
  · refine bind_eq_ok.mpr ⟨none, rfl, checked_eq_ok.mpr ⟨?_, rfl⟩⟩
    rw [hdraft]
    rfl
  · rw [hdraft]
    rfl
  · have hcontrol : validateControlDraft ((e.draftOf none none (.object fields)).withRest none) =
        .ok ⟨controlKind, none⟩ := by
      have hnormalized : normalized controlKind = true := by decide
      rw [hdraft]
      simp [validateControlDraft, Json.field, hkind, hassociation, hnormalized]
    have hshard : e.draftShard = "_control" := if_pos hstream
    rw [hshard]
    refine RawIngress.validate_control ?_ ?_ ?_
    · rw [hdraft]
      rfl
    · rw [NativeEventDraft.toDraft, hcontrol]
      rfl
    · rw [hdraft]
      rfl
  · cases hr

theorem isSpace_of_isDigit {c : Char} (h : c.isDigit = true) : isSpace c = false := by
  simp only [Char.isDigit, Bool.and_eq_true, decide_eq_true_eq, UInt32.le_iff_toNat_le] at h
  have hlow : 48 ≤ c.toNat := h.1
  have hhigh : c.toNat ≤ 57 := h.2
  simp [isSpace]
  omega

theorem normalized_draftShard (hstream : e.logicalStream ≠ .control) :
    normalized e.draftShard = true ∧ e.draftShard ≠ "_control" := by
  have hshard : e.draftShard.toList = 'g' :: ("ate-".toList ++ e.logicalStream.value.toList ++
      "-".toList ++ Nat.toDigits 10 e.identityIndex) := by
    have hdigits : (toString e.identityIndex).toList = Nat.toDigits 10 e.identityIndex := by
      change (Nat.repr e.identityIndex).toList = _
      rw [Nat.repr_eq_ofList_toDigits, String.toList_ofList]
    unfold PlannedEventV1.draftShard
    rw [if_neg hstream, String.toList_append, String.toList_append, String.toList_append, hdigits]
    rfl
  constructor
  · obtain ⟨last, hlast⟩ := List.getLast?_isSome.mpr
      (Nat.toDigits_ne_nil (n := e.identityIndex) (b := 10)) |> Option.isSome_iff_exists.mp
    have hdigit : last.isDigit = true :=
      isDigit_of_mem_toDigits (List.mem_of_getLast? hlast)
    have hend : e.draftShard.toList.getLast? = some last := by
      rw [hshard, ← List.cons_append, List.getLast?_append, hlast]
      rfl
    have hhead : e.draftShard.toList.head? = some 'g' := by rw [hshard]; rfl
    have hg : isSpace 'g' = false := by decide
    rw [normalized, hhead, hend]
    dsimp only
    rw [hg, isSpace_of_isDigit hdigit]
    rfl
  · intro heq
    rw [heq] at hshard
    exact absurd hshard (by simp)

/-- The draft of an instrument passes its validation. -/
theorem validate_withRest {market : Market} {key : String} {time : Nat} {record : Option RestRecord}
    {rest : Option ValidRest} {payload : Json} (hstream : e.logicalStream ≠ .control)
    (htransport : e.transport = e.logicalStream.transport) (hmarket : e.market = some market)
    (hkey : e.instrumentKey = some key) (hne : key ≠ "")
    (hrest : rest.isSome = decide (e.logicalStream = .bookDeepSnapshot)) :
    ((e.draftOf (some time) record payload).withRest rest).validate = none := by
  unfold NativeEventDraft.validate DraftFields.withRest PlannedEventV1.draftOf
  dsimp only
  rw [hmarket, hkey, htransport, if_neg hstream, if_neg hstream]
  generalize e.logicalStream = l at hstream hrest
  have hchannel : "gate.v1." ++ l.value ≠ "" := by
    intro h
    have hlist := congrArg String.toList h
    rw [String.toList_append] at hlist
    exact absurd (List.append_eq_nil_iff.mp hlist).1 (by decide)
  have hname : l.value ≠ "" := by cases l <;> decide
  have hcontains : [some key, some key, some l.value, some ("gate.v1." ++ l.value),
      some "gate_due_time"].contains (some "") = false := by
    simp [hne.symm, hchannel.symm, hname.symm]
  rw [hcontains, if_neg Bool.false_ne_true]
  cases rest with
  | none =>
    cases l with
    | control => exact absurd rfl hstream
    | bookDeepSnapshot => cases hrest
    | _ => rfl
  | some rest =>
    cases l with
    | bookDeepSnapshot => rfl
    | _ => cases hrest

/-- The source of an event of an instrument. -/
theorem exists_source {market : Market} (hstream : e.logicalStream ≠ .control)
    (htransport : e.transport = e.logicalStream.transport) (hmarket : e.market = some market) :
    ∃ s source, sourceValuesForGateEvent e.exchange e.market e.transport = .ok s ∧
      s.modelValidate = .ok source ∧ s.validateFor e.transport e.logicalStream.value = none := by
  have hegress : some ("gate-egress-v1-" ++ e.exchange.value) ≠ some "" := by
    cases e.exchange <;> decide
  have hconnection : some ("gate-ws-v1-" ++ e.exchange.value ++ "-" ++ market.value) ≠ some "" := by
    cases e.exchange <;> cases market <;> decide
  rw [htransport, hmarket]
  generalize e.logicalStream = l at hstream
  cases l with
  | control => exact absurd rfl hstream
  | bookDeepSnapshot =>
    refine ⟨_, ⟨none, none, some ("gate-egress-v1-" ++ e.exchange.value), rfl⟩, rfl, ?_, rfl⟩
    simp [SourceFields.modelValidate, hegress.symm]
  | _ =>
    refine ⟨_, ⟨some ("gate-ws-v1-" ++ e.exchange.value ++ "-" ++ market.value), some 0,
      some ("gate-egress-v1-" ++ e.exchange.value), rfl⟩, rfl, ?_, rfl⟩
    simp [SourceFields.modelValidate, hegress.symm, hconnection.symm]

/-- The metadata of an event of an instrument. -/
theorem exists_rest {key : String} (time : Nat)
    (htransport : e.transport = e.logicalStream.transport) (hkey : e.instrumentKey = some key) :
    ∃ record rest, e.draftRest (some time) = .ok record ∧ (∀ r ∈ record, r.validate = none) ∧
      (∀ payload, (e.draftOf (some time) record payload).validateRest = .ok rest) ∧
      rest.isSome = decide (e.logicalStream = .bookDeepSnapshot) := by
  by_cases hsnapshot : e.logicalStream = .bookDeepSnapshot
  · have hrest : e.transport = .rest := by rw [htransport, hsnapshot]; rfl
    refine ⟨some (gateRequest key time),
      some ⟨gateRequest key time, validate_gateRequest key time⟩, ?_, fun r hr => ?_,
      fun payload => ?_, ?_⟩
    · unfold PlannedEventV1.draftRest
      rw [if_pos hrest, hkey]
    · cases hr
      exact validate_gateRequest key time
    · unfold DraftFields.validateRest PlannedEventV1.draftOf
      dsimp only
      rw [RestRecord.construct_valid ⟨gateRequest key time, validate_gateRequest key time⟩]
      rfl
    · rw [hsnapshot]
      rfl
  · have hrest : e.transport ≠ .rest := by
      rw [htransport]
      revert hsnapshot
      cases e.logicalStream <;> decide
    refine ⟨none, none, ?_, fun r hr => absurd hr (Option.not_mem_none r), fun _ => rfl, ?_⟩
    · unfold PlannedEventV1.draftRest
      rw [if_neg hrest]
    · exact (decide_eq_false hsnapshot).symm

/-- The draft of an event of an instrument. -/
theorem exists_admissible_instrument (h : e.Routed L fields) (hstream : e.logicalStream ≠ .control)
    {start : Int} (hstart : 0 ≤ start) :
    ∃ d, e.buildNativeDraft L start = .ok d ∧ d.Admissible L e := by
  obtain ⟨market, key, hmarket, hkey, hne⟩ := h.instrumentScope hstream
  obtain ⟨s, source, hs, hsource, hfor⟩ := exists_source hstream h.transport hmarket
  obtain ⟨record, rest, hrecord, hvalid, hrest, hisSome⟩ :=
    exists_rest (start.toNat + e.dueOffsetNs) h.transport hkey
  have hbuilt := buildNativeDraft_of_routed h hstart (if_neg hstream) hs hrecord hfor
  have hdraft : ((e.draftOf (some (start.toNat + e.dueOffsetNs)) record
      (.object fields)).withRest rest).validate = none :=
    validate_withRest hstream h.transport hmarket hkey hne hisSome
  obtain ⟨hnormalized, hshard⟩ := normalized_draftShard hstream
  have hsourced : NativeEventDraft.validateSource ((e.draftOf (some (start.toNat + e.dueOffsetNs))
      record (.object fields)).withRest rest) source = none :=
    validateSource_of_validateFor hsource hfor
  have hname : e.logicalStream.value ≠ "_control" := by
    revert hstream
    cases e.logicalStream <;> decide
  refine ⟨_, hbuilt, ⟨_, source, bind_eq_ok.mpr ⟨rest, hrest _, checked_eq_ok.mpr ⟨hdraft, rfl⟩⟩,
    hsource, hsourced, fun lineBytes hline associationBytes => ⟨.normal, ?_⟩⟩, hvalid, h.simplejson⟩
  refine RawIngress.validate_normal hname hnormalized hshard ?_
  rw [NativeEventDraft.toDraft, hsourced]
  rfl

/-- The draft and the source of an event that is built pass the validations that they bypass, and
those of the ingress. -/
theorem exists_admissible (hL : L.Documented) {scheduled : ScheduledEvent H}
    (h : buildEvent H L scheduled = .ok e) {start : Int} (hstart : 0 ≤ start) :
    ∃ d, e.buildNativeDraft L start = .ok d ∧ d.Admissible L e := by
  obtain ⟨fields, hrouted⟩ := exists_routed hL h
  by_cases hstream : e.logicalStream = .control
  · exact exists_admissible_control hrouted hstream hstart
  · exact exists_admissible_instrument hrouted hstream hstart

end Drafts

end CryptoCollector.Benchmarks
