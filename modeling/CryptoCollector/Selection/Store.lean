import CryptoCollector.Selection.Changes
import CryptoCollector.Selection.Listing
import CryptoCollector.Selection.Rows

/-!
# The catalog store

`selection/catalog_store.py: CatalogStore`. The tables of one scope, and the transactions on them.
A transaction that raises leaves the tables as they were. The events of other scopes have other
identities, so that the tables of a scope stand for themselves.
-/

namespace CryptoCollector.Selection

open Lib
open Storage (Err Json)

/-! ## Tables -/

/-- The exceptions of a catalog store. -/
inductive CatalogError where
  | raised (error : Err)
  | staleCatalogSnapshot (message : String)
  | catalogSnapshotConflict (message : String)
  | staleTurnoverSnapshot (message : String)
  | turnoverSnapshotConflict (message : String)
  | catalogRevisionConflict (message : String)
  | selectionStateConflict (message : String)
  | announcementHintConflict (message : String)
  | integrityError (table : String)
  | overflowError
  deriving DecidableEq

/-- An exception of a value. -/
def raising {α : Type} (x : Except Err α) : Except CatalogError α := x.mapError .raised

/-- Raise under a condition. -/
def refuse (condition : Bool) (error : CatalogError) : Except CatalogError Unit :=
  if condition then .error error else .ok ()

@[simp] theorem refuse_eq_ok {condition : Bool} {error : CatalogError} {u : Unit} :
    refuse condition error = .ok u ↔ condition = false := by
  cases condition <;> simp [refuse]

theorem raising_eq_ok {α : Type} {x : Except Err α} {a : α} :
    raising x = .ok a ↔ x = .ok a := by
  cases x <;> simp [raising, Except.mapError]

/-- The turnover columns of `catalog_scope_state`. They are `NULL` until the first turnover
snapshot, together and with revision zero. -/
structure TurnoverHeader (codec : CatalogCodec) where
  lastObservedAtNs : Int
  snapshotDigest : codec.Digest
  revision : Int
  snapshotId : String
  pageRawReferencesJson : codec.Blob
  catalogRevision : Int
  coveredKeysJson : codec.Blob

/-- The row of a scope in `catalog_scope_state`. -/
structure ScopeRow (codec : CatalogCodec) where
  lastObservedAtNs : Int
  snapshotDigest : codec.Digest
  revision : Int
  snapshotId : String
  pageRawReferencesJson : codec.Blob
  turnover : Option (TurnoverHeader codec)

/-- `turnover_revision`. -/
def ScopeRow.turnoverRevision {codec : CatalogCodec} (row : ScopeRow codec) : Int :=
  row.turnover.elim 0 (·.revision)

/-- The `CHECK` constraints of `catalog_scope_state`. -/
def ScopeRow.allowed {codec : CatalogCodec} (row : ScopeRow codec) : Bool :=
  decide (0 ≤ row.lastObservedAtNs) && decide (0 < row.revision) &&
    row.turnover.all fun t => decide (0 < t.revision) && decide (0 < t.catalogRevision)

/-- A row of `catalog_announcement_hint`, after its scope and its identity. -/
structure HintRow where
  candidateInstrumentKey : Option String
  candidateCanonicalPair : Option String
  announcedAtNs : Int
  rawReference : String
  confirmedAtNs : Option Int
  deriving DecidableEq

/-- The `CHECK` constraints of `catalog_announcement_hint`. -/
def HintRow.allowed (row : HintRow) : Bool :=
  decide (0 ≤ row.announcedAtNs) &&
    (row.confirmedAtNs.all fun t => decide (row.announcedAtNs ≤ t)) &&
    (row.candidateInstrumentKey.isSome || row.candidateCanonicalPair.isSome)

/-- `_hint_from_row`. -/
def HintRow.toHint (scope : CatalogScope) (hintId : String) (row : HintRow) :
    Except Err StoredAnnouncementHint :=
  construct HintFields.check {
    scope
    hintId
    announcedAtNs := row.announcedAtNs
    rawReference := row.rawReference
    candidateInstrumentKey := row.candidateInstrumentKey
    candidateCanonicalPair := row.candidateCanonicalPair
    confirmedAtNs := row.confirmedAtNs }

/-- A row of `catalog_change_outbox`. -/
structure OutboxRow (codec : CatalogCodec) where
  eventId : codec.Digest
  catalogRevision : Int
  eventOrdinal : Nat
  kind : String
  instrumentKey : String
  payloadJson : codec.Blob

/-- A row of `selection_state`, after its scope and its policy. -/
structure SelectionRow (codec : CatalogCodec) where
  stateRevision : Int
  catalogRevision : Int
  turnoverRevision : Int
  entriesJson : codec.Blob

/-- A row of `selection_change_outbox`. -/
structure SelectionOutboxRow (codec : CatalogCodec) where
  eventId : codec.Digest
  policyId : codec.Digest
  stateRevision : Int
  catalogRevision : Int
  eventOrdinal : Nat
  kind : String
  instrumentKey : String
  payloadJson : codec.Blob

/-- The tables of a scope. -/
structure Tables (codec : CatalogCodec) where
  state : Option (ScopeRow codec)
  instruments : Dict String (InstrumentRow codec)
  hints : Dict String HintRow
  outbox : List (OutboxRow codec)
  selectionStates : Dict codec.Digest (SelectionRow codec)
  selectionOutbox : List (SelectionOutboxRow codec)

variable {codec : CatalogCodec}

/-- The tables of a scope that was never written. -/
def Tables.initial (codec : CatalogCodec) : Tables codec where
  state := none
  instruments := .empty
  hints := .empty
  outbox := []
  selectionStates := .empty
  selectionOutbox := []

/-- A transaction commits what it returns, or rolls back. -/
def transact {α : Type} (body : Tables codec → Except CatalogError (α × Tables codec))
    (t : Tables codec) : Except CatalogError α × Tables codec :=
  match body t with
  | .ok (a, t') => (.ok a, t')
  | .error e => (.error e, t)

/-- `_load_prior_records`. -/
def loadPriorRecords (scope : CatalogScope) (t : Tables codec) :
    Except CatalogError (Dict String CatalogInstrument) :=
  raising (t.instruments.mapValuesM fun key row => row.toInstrument scope key)

/-! ## Digests -/

/-- `_complete_catalog_digest`. -/
def completeCatalogDigest (codec : CatalogCodec) (s : CatalogSnapshotFields)
    (initialLookbackNs : Int) : Except Err codec.Digest := do
  let instruments ← (sortedBy (·.1.instrumentKey) s.instruments).mapM recordPayload
  return codec.sha256 (codec.encodeJson (.object [
    ("authoritative_empty", .bool s.authoritativeEmpty),
    ("initial_lookback_ns", .int initialLookbackNs),
    ("instruments", .list instruments),
    ("pages", .list (s.pages.map snapshotPagePayload)),
    ("reported_total_count", optionalInt s.reportedTotalCount),
    ("snapshot_id", .str s.snapshotId)]))

/-- `_turnover_snapshot_digest`. -/
def turnoverSnapshotDigest (codec : CatalogCodec) (s : TurnoverSnapshotFields) : codec.Digest :=
  codec.sha256 (codec.encodeJson (.object [
    ("authoritative_empty", .bool s.authoritativeEmpty),
    ("catalog_revision", .int s.catalogRevision),
    ("covered_instrument_keys", .list ((sortedBy id s.coveredInstrumentKeys).map .str)),
    ("observations", .list ((sortedBy (·.1.instrumentKey) s.observations).map fun o => .object [
      ("currency", .str o.1.currency),
      ("instrument_key", .str o.1.instrumentKey),
      ("method", .str o.1.method.value),
      ("raw_reference", .str o.1.rawReference),
      ("value", .str (decimalStr o.1.value))])),
    ("pages", .list (s.pages.map snapshotPagePayload)),
    ("reported_total_count", optionalInt s.reportedTotalCount),
    ("snapshot_id", .str s.snapshotId)]))

/-- The identity of an event, whose digest is its `_control_event_id`. -/
def controlEventIdentity (scope : CatalogScope) (revision : Int) (ordinal : Nat)
    (kind instrumentKey : String) : Json := .object [
  ("exchange", .str scope.exchange.value),
  ("instrument_key", .str instrumentKey),
  ("kind", .str kind),
  ("market", .str scope.market.value),
  ("ordinal", .int ordinal),
  ("revision", .int revision)]

/-- `_control_event_id`. -/
def controlEventId (codec : CatalogCodec) (scope : CatalogScope) (revision : Int) (ordinal : Nat)
    (kind instrumentKey : String) : codec.Digest :=
  codec.sha256 (codec.encodeJson (controlEventIdentity scope revision ordinal kind instrumentKey))

/-! ## The transition of a snapshot -/

/-- What a snapshot does to one of its instruments. -/
structure Outcome where
  previous : Option CatalogInstrument
  current : CatalogInstrument
  isNewListing : Bool

/-- The tuple of `_provider_fields`. -/
structure ProviderFields where
  canonicalPair : String
  wireSymbols : WireSymbols
  baseAsset : String
  quoteAsset : String
  settlementAsset : Option String
  status : String
  lifecyclePhase : LifecyclePhase
  tradable : Bool
  lifecycle : Option Json
  tradableAtNs : Option Int
  tradableAtSource : Option TradableAtSource
  rawCatalogReference : String
  present : Bool
  lastTerminalSeenNs : Option Int
  deriving DecidableEq

/-- `_provider_fields`. The node of a lifecycle was made for the digest of its snapshot, so it can
be made. -/
def providerFields (c : CatalogFields) : ProviderFields where
  canonicalPair := c.canonicalPair
  wireSymbols := c.wireSymbols
  baseAsset := c.baseAsset
  quoteAsset := c.quoteAsset
  settlementAsset := c.settlementAsset
  status := c.status
  lifecyclePhase := c.lifecyclePhase
  tradable := c.tradable
  lifecycle := (typedJsonNode c.lifecycle.1).toOption
  tradableAtNs := c.tradableAtNs
  tradableAtSource := c.tradableAtSource
  rawCatalogReference := c.rawCatalogReference
  present := c.present
  lastTerminalSeenNs := c.lastTerminalSeenNs

/-- The outcome of an instrument of a snapshot. -/
def outcome (lookback observedAt : Int) (isInitial : Bool) (prior : Dict String CatalogInstrument)
    (record : InstrumentRecord) : Except Err Outcome := do
  let previous := prior.get? record.1.instrumentKey
  let (current, isNewListing) ← transition lookback observedAt isInitial record previous
  return { previous, current, isNewListing }

namespace Outcome

/-- The instrument was not there before. -/
def isAdded (o : Outcome) : Bool := !o.previous.any (·.1.present)

/-- The instrument was there, and its provider fields differ. -/
def isUpdated (o : Outcome) : Bool :=
  o.previous.any fun p =>
    p.1.present && decide (providerFields p.1 ≠ providerFields o.current.1)

/-- The delta of an outcome. -/
def delta (kind : InstrumentChange) (o : Outcome) : CatalogDelta :=
  .instrument kind o.current.1.instrumentKey o.previous o.current

end Outcome

/-- `_with_presence(record, present=False)`. -/
def withoutPresence (item : CatalogInstrument) : Except Err CatalogInstrument :=
  construct CatalogFields.check { item.1 with present := false }

/-- The instruments that a snapshot no longer reports, before and after. -/
def removedInstruments (prior : Dict String CatalogInstrument) (outcomes : List Outcome) :
    Except Err (List (CatalogInstrument × CatalogInstrument)) :=
  let gone := prior.entries.filter fun entry =>
    entry.2.1.present && decide (entry.1 ∉ outcomes.map (·.current.1.instrumentKey))
  (sortedBy Prod.fst gone).mapM fun entry => (withoutPresence entry.2).map (entry.2, ·)

/-- `_resolve_announcement_target`. -/
def resolveAnnouncementTarget (row : HintRow) (current : List CatalogInstrument) :
    Option String :=
  match row.candidateInstrumentKey with
  | some key =>
    ((current.find? (·.1.instrumentKey = key)).filter fun item =>
      item.1.present && item.1.tradable &&
        row.candidateCanonicalPair.all fun pair => decide (item.1.canonicalPair = pair)).map
      (·.1.instrumentKey)
  | none =>
    match row.candidateCanonicalPair with
    | none => none
    | some pair =>
      match current.filter fun item =>
        item.1.present && item.1.tradable && decide (item.1.canonicalPair = pair) with
      | [item] => some item.1.instrumentKey
      | _ => none

/-- The hints that a snapshot confirms, with the keys of their instruments. -/
def confirmedMatches (observedAt : Int) (hints : Dict String HintRow)
    (current : List CatalogInstrument) : List ((String × HintRow) × String) :=
  (sortedBy Prod.fst (hints.entries.filter fun entry =>
    entry.2.confirmedAtNs.isNone && decide (entry.2.announcedAtNs ≤ observedAt))).filterMap
    fun entry => (resolveAnnouncementTarget entry.2 current).map (entry, ·)

/-- The delta of a confirmed hint. -/
def announcementDelta (scope : CatalogScope) (observedAt : Int)
    (confirmed : (String × HintRow) × String) : Except Err CatalogDelta := do
  let previous ← confirmed.1.2.toHint scope confirmed.1.1
  let current ← construct HintFields.check { previous.1 with confirmedAtNs := some observedAt }
  return .announcement confirmed.2 previous current

/-- A delta whose checks pass. -/
def checkedDelta (delta : CatalogDelta) : Except Err CatalogDelta := checked delta.check (.ok delta)

/-- The deltas of instruments of a kind, by their keys. -/
def outcomeDeltas (kind : InstrumentChange) (outcomes : List Outcome) : List CatalogDelta :=
  (sortedBy (·.current.1.instrumentKey) outcomes).map (·.delta kind)

/-- The delta of an instrument that is no longer reported. -/
def removedDelta (item : CatalogInstrument × CatalogInstrument) : CatalogDelta :=
  .instrument .removed item.2.1.instrumentKey (some item.1) item.2

/-- `catalog_deltas`. -/
def catalogDeltas (outcomes : List Outcome)
    (removed : List (CatalogInstrument × CatalogInstrument)) (announcements : List CatalogDelta) :
    List CatalogDelta :=
  outcomeDeltas .added (outcomes.filter (·.isAdded)) ++
    outcomeDeltas .updated (outcomes.filter (·.isUpdated)) ++
    (sortedBy (·.2.1.instrumentKey) removed).map removedDelta ++
    outcomeDeltas .newListing (outcomes.filter (·.isNewListing)) ++
    announcements

/-! ## Writes -/

/-- Upsert the row of an instrument. -/
def upsertInstrument (rows : Dict String (InstrumentRow codec)) (item : CatalogInstrument) :
    Except CatalogError (Dict String (InstrumentRow codec)) := do
  let key := item.1.instrumentKey
  let row ← raising (InstrumentRow.ofInstrument codec item)
  let row := { row with
    firstSeenNs := (rows.get? key).elim row.firstSeenNs (·.firstSeenNs)
    present := 1 }
  if row.allowed then .ok (rows.set key row) else .error (.integrityError "catalog_instrument")

/-- `UPDATE catalog_instrument SET present = 0`. -/
def removeInstrument (rows : Dict String (InstrumentRow codec)) (key : String) :
    Except CatalogError (Dict String (InstrumentRow codec)) :=
  let rows := rows.update key fun row => { row with present := 0 }
  if (rows.get? key).all (·.allowed) then .ok rows
  else .error (.integrityError "catalog_instrument")

/-- Confirm a hint. -/
def confirmHint (observedAt : Int) (hints : Dict String HintRow) (hintId : String) :
    Except CatalogError (Dict String HintRow) :=
  let hints := hints.update hintId fun row => { row with confirmedAtNs := some observedAt }
  if (hints.get? hintId).all (·.allowed) then .ok hints
  else .error (.integrityError "catalog_announcement_hint")

/-- The event of a delta. -/
def eventRow (codec : CatalogCodec) (scope : CatalogScope) (revision : Int) (ordinal : Nat)
    (delta : CatalogDelta) : Except Err (OutboxRow codec) := do
  let payload ← delta.payload
  return {
    eventId := controlEventId codec scope revision ordinal delta.kind delta.instrumentKey
    catalogRevision := revision
    eventOrdinal := ordinal
    kind := delta.kind
    instrumentKey := delta.instrumentKey
    payloadJson := codec.encodeJson payload }

/-- Insert an event. -/
def insertEvent (outbox : List (OutboxRow codec)) (row : OutboxRow codec) :
    Except CatalogError (List (OutboxRow codec)) :=
  if row.eventId ∈ outbox.map (·.eventId) ∨
      (row.catalogRevision, row.eventOrdinal) ∈
        outbox.map (fun other => (other.catalogRevision, other.eventOrdinal)) ∨
      row.catalogRevision ≤ 0 then
    .error (.integrityError "catalog_change_outbox")
  else .ok (outbox ++ [row])

/-- The events of deltas, numbered from zero on. -/
def eventRows (codec : CatalogCodec) (scope : CatalogScope) (revision : Int)
    (deltas : List CatalogDelta) : Except Err (List (OutboxRow codec)) :=
  deltas.zipIdx.mapM fun delta => eventRow codec scope revision delta.2 delta.1

/-- Upsert the catalog columns of the row of the scope. -/
def upsertScope (t : Tables codec) (row : ScopeRow codec) :
    Except CatalogError (Option (ScopeRow codec)) :=
  let row := { row with turnover := t.state.bind (·.turnover) }
  if row.allowed then .ok (some row) else .error (.integrityError "catalog_scope_state")

/-! ## `apply_catalog_snapshot` -/

/-- The checks of a record of a snapshot. -/
def snapshotRecordCheck (observedAt : Int) (record : InstrumentRecord) : Option Err :=
  if record.1.tradableAtSource = some .firstTradableSeen then
    some (.valueError "first_tradable_seen time is owned by CatalogStore")
  else if record.1.turnover.any fun t => t.1.observedAtNs.any fun n => decide (observedAt < n) then
    some (.valueError "turnover observed_at_ns must not be after catalog observation")
  else none

/-- The result for a snapshot that was applied before. -/
def idempotentChanges (scope : CatalogScope) (observedAt : Int) (state : ScopeRow codec) :
    CatalogChanges codec where
  scope
  observedAtNs := observedAt
  isInitialBaseline := false
  idempotent := true
  added := []
  updated := []
  removed := []
  newListings := []
  confirmedAnnouncementHints := []
  revision := state.revision
  digestSha256 := state.snapshotDigest
  controlEventIds := []
  deltas := []

/-- A result whose checks pass. -/
def checkedChanges (changes : CatalogChanges codec) :
    Except CatalogError (CatalogChanges codec) :=
  raising (checked changes.check (.ok changes))

/-- What a snapshot is planned to change. -/
structure Plan (codec : CatalogCodec) where
  revision : Int
  outcomes : List Outcome
  removed : List (CatalogInstrument × CatalogInstrument)
  confirmed : List ((String × HintRow) × String)
  deltas : List CatalogDelta
  events : List (OutboxRow codec)

/-- Plan the changes of a snapshot. -/
def planSnapshot (s : CatalogSnapshotFields) (lookback : Int) (t : Tables codec) :
    Except CatalogError (Plan codec) := do
  let revision := t.state.elim 1 (·.revision + 1)
  let prior ← loadPriorRecords s.scope t
  let ordered := sortedBy (·.1.instrumentKey) s.instruments
  let outcomes ← raising
    (ordered.mapM (outcome lookback s.observedAtNs t.state.isNone prior))
  let removed ← raising (removedInstruments prior outcomes)
  let confirmed := confirmedMatches s.observedAtNs t.hints (outcomes.map (·.current))
  let announcements ← raising (confirmed.mapM (announcementDelta s.scope s.observedAtNs))
  let deltas ← raising ((catalogDeltas outcomes removed announcements).mapM checkedDelta)
  let events ← raising (eventRows codec s.scope revision deltas)
  return { revision, outcomes, removed, confirmed, deltas, events }

/-- Write the changes of a snapshot. -/
def writePlan (s : CatalogSnapshotFields) (digest : codec.Digest) (p : Plan codec)
    (t : Tables codec) : Except CatalogError (Tables codec) := do
  refuse (maxInt64 < p.revision) .overflowError
  let rows ← (p.removed.map (·.2.1.instrumentKey)).foldlM removeInstrument t.instruments
  let rows ← (p.outcomes.map (·.current)).foldlM upsertInstrument rows
  let hints ← (p.confirmed.map (·.1.1)).foldlM (confirmHint s.observedAtNs) t.hints
  let outbox ← p.events.foldlM insertEvent t.outbox
  let state ← upsertScope t {
    lastObservedAtNs := s.observedAtNs
    snapshotDigest := digest
    revision := p.revision
    snapshotId := s.snapshotId
    pageRawReferencesJson :=
      codec.encodeJson (.list (s.pages.map fun page => .str page.1.rawReference))
    turnover := none }
  return { t with state, instruments := rows, hints, outbox }

/-- The result of a snapshot. -/
def planChanges (s : CatalogSnapshotFields) (digest : codec.Digest) (isInitial : Bool)
    (p : Plan codec) : CatalogChanges codec where
  scope := s.scope
  observedAtNs := s.observedAtNs
  isInitialBaseline := isInitial
  idempotent := false
  added := (p.outcomes.filter (·.isAdded)).map (·.current)
  updated := (p.outcomes.filter (·.isUpdated)).map (·.current)
  removed := p.removed.map (·.2)
  newListings := (p.outcomes.filter (·.isNewListing)).map (·.current)
  confirmedAnnouncementHints := p.deltas.filterMap (·.hintOf)
  revision := p.revision
  digestSha256 := digest
  controlEventIds := p.events.map (·.eventId)
  deltas := p.deltas

/-- Apply a snapshot that was not applied before. -/
def applyNewSnapshot (s : CatalogSnapshotFields) (lookback : Int) (digest : codec.Digest)
    (t : Tables codec) : Except CatalogError (CatalogChanges codec × Tables codec) := do
  let p ← planSnapshot s lookback t
  let t' ← writePlan s digest p t
  let changes ← checkedChanges (planChanges s digest t.state.isNone p)
  return (changes, t')

/-- `apply_catalog_snapshot`, `_apply_snapshot`. -/
def applyCatalogSnapshot (snapshot : CompleteCatalogSnapshot) (initialLookbackNs : Int)
    (t : Tables codec) : Except CatalogError (CatalogChanges codec × Tables codec) := do
  let s := snapshot.1
  raising (checked (nonnegativeInt initialLookbackNs "initial_lookback_ns") (.ok ()))
  let digest ← raising (completeCatalogDigest codec s initialLookbackNs)
  raising (checked (s.instruments.findSome? (snapshotRecordCheck s.observedAtNs)) (.ok ()))
  match t.state with
  | none => applyNewSnapshot s initialLookbackNs digest t
  | some state =>
    if s.observedAtNs < state.lastObservedAtNs then
      .error (.staleCatalogSnapshot "catalog snapshot observed_at_ns moved backwards")
    else if s.observedAtNs = state.lastObservedAtNs then
      if digest ≠ state.snapshotDigest then
        .error (.catalogSnapshotConflict "same-time catalog snapshot has conflicting contents")
      else do
        let changes ← checkedChanges (idempotentChanges s.scope s.observedAtNs state)
        return (changes, t)
    else applyNewSnapshot s initialLookbackNs digest t

/-! ## `apply_turnover_snapshot` -/

/-- The turnover columns of a row. -/
def InstrumentRow.turnoverColumns (row : InstrumentRow codec) :=
  (row.turnoverValue, row.turnoverMethod, row.turnoverCurrency, row.turnoverObservedAtNs,
    row.turnoverRawReference)

/-- The observation of an instrument in a turnover snapshot. -/
def observationOf (s : TurnoverSnapshotFields) (key : String) : Option TurnoverObservation :=
  if key ∈ s.coveredInstrumentKeys then s.observations.find? (·.1.instrumentKey = key) else none

/-- The turnover of an observation. -/
def observedTurnover (s : TurnoverSnapshotFields) (o : TurnoverObservation) : TurnoverFields where
  value := o.1.value
  method := o.1.method
  currency := o.1.currency
  observedAtNs := some s.observedAtNs
  rawReference := some o.1.rawReference

/-- The row of an instrument after a turnover snapshot. -/
def observedRow (s : TurnoverSnapshotFields) (key : String) (row : InstrumentRow codec) :
    Except CatalogError (InstrumentRow codec) :=
  let observation := observationOf s key
  if observation.any fun o => decide (o.1.currency ≠ row.quoteAsset) then
    .error (.raised (.valueError "turnover currency must match the catalog quote_asset"))
  else
    let row := row.withTurnover (observation.map (observedTurnover s))
    if row.allowed then .ok row else .error (.integrityError "catalog_instrument")

/-- The keys of the rows whose turnover columns change. -/
def changedKeys (before after : Dict String (InstrumentRow codec)) : List String :=
  sortedBy id (before.keys.filter fun key =>
    decide ((before.get? key).map (·.turnoverColumns) ≠
      (after.get? key).map (·.turnoverColumns)))

/-- A turnover result whose checks pass. -/
def checkedTurnover (changes : TurnoverChanges) : Except CatalogError TurnoverChanges :=
  raising (checked changes.check (.ok changes))

/-- The keys that a turnover snapshot covers and that are not present. -/
def outsideKeys (s : TurnoverSnapshotFields) (t : Tables codec) : List String :=
  s.coveredInstrumentKeys.filter fun key => !(t.instruments.get? key).any (·.present ≠ 0)

/-- Apply a turnover snapshot that was not applied before. -/
def applyNewTurnover (s : TurnoverSnapshotFields) (state : ScopeRow codec) (t : Tables codec) :
    Except CatalogError (TurnoverChanges × Tables codec) := do
  refuse (outsideKeys s t ≠ []) (.catalogRevisionConflict
    ("turnover coverage contains keys outside the current catalog: " ++
      String.intercalate ", " (sortedBy id (outsideKeys s t))))
  let rows ← t.instruments.mapValuesM (observedRow s)
  let revision := state.turnoverRevision + 1
  refuse (maxInt64 < revision) .overflowError
  let header : TurnoverHeader codec := {
    lastObservedAtNs := s.observedAtNs
    snapshotDigest := turnoverSnapshotDigest codec s
    revision
    snapshotId := s.snapshotId
    pageRawReferencesJson :=
      codec.encodeJson (.list (s.pages.map fun page => .str page.1.rawReference))
    catalogRevision := s.catalogRevision
    coveredKeysJson :=
      codec.encodeJson (.list ((sortedBy id s.coveredInstrumentKeys).map .str)) }
  let row := { state with turnover := some header }
  refuse (!row.allowed) (.integrityError "catalog_scope_state")
  let changes ← checkedTurnover {
    scope := s.scope
    catalogRevision := state.revision
    observedAtNs := s.observedAtNs
    revision
    idempotent := false
    changedInstrumentKeys := changedKeys t.instruments rows }
  return (changes, { t with state := some row, instruments := rows })

/-- `apply_turnover_snapshot`. -/
def applyTurnoverSnapshot (snapshot : CompleteTurnoverSnapshot) (t : Tables codec) :
    Except CatalogError (TurnoverChanges × Tables codec) :=
  let s := snapshot.1
  match t.state with
  | none => .error (.catalogRevisionConflict
      "turnover snapshot requires an existing catalog revision")
  | some state =>
    if s.catalogRevision ≠ state.revision then
      .error (.catalogRevisionConflict
        "turnover snapshot catalog revision does not match current catalog")
    else if s.observedAtNs < state.lastObservedAtNs then
      .error (.staleTurnoverSnapshot "turnover snapshot cannot predate its bound catalog revision")
    else
      match state.turnover with
      | none => applyNewTurnover s state t
      | some header =>
        if s.observedAtNs < header.lastObservedAtNs then
          .error (.staleTurnoverSnapshot "turnover snapshot observed_at_ns moved backwards")
        else if s.observedAtNs = header.lastObservedAtNs then
          if turnoverSnapshotDigest codec s ≠ header.snapshotDigest then
            .error (.turnoverSnapshotConflict
              "same-time turnover snapshot has conflicting contents")
          else do
            let changes ← checkedTurnover {
              scope := s.scope
              catalogRevision := state.revision
              observedAtNs := s.observedAtNs
              revision := header.revision
              idempotent := true
              changedInstrumentKeys := [] }
            return (changes, t)
        else applyNewTurnover s state t

/-! ## `record_announcement_hint` -/

/-- `record_announcement_hint`. -/
def recordAnnouncementHint (hint : AnnouncementHint) (t : Tables codec) :
    Except CatalogError (Bool × Tables codec) :=
  let h := hint.1.1
  match t.hints.get? h.hintId with
  | some existing =>
    if (existing.candidateInstrumentKey, existing.candidateCanonicalPair, existing.announcedAtNs,
        existing.rawReference) ≠
        (h.candidateInstrumentKey, h.candidateCanonicalPair, h.announcedAtNs, h.rawReference) then
      .error (.announcementHintConflict "announcement hint ID has conflicting contents")
    else .ok (false, t)
  | none =>
    let row : HintRow := {
      candidateInstrumentKey := h.candidateInstrumentKey
      candidateCanonicalPair := h.candidateCanonicalPair
      announcedAtNs := h.announcedAtNs
      rawReference := h.rawReference
      confirmedAtNs := none }
    if row.allowed then .ok (true, { t with hints := t.hints.set h.hintId row })
    else .error (.integrityError "catalog_announcement_hint")

/-! ## Loads -/

/-- The instruments of rows, by their keys. -/
def loadInstruments (scope : CatalogScope) (rows : List (String × InstrumentRow codec)) :
    Except CatalogError (List CatalogInstrument) :=
  raising ((sortedBy Prod.fst rows).mapM fun row => row.2.toInstrument scope row.1)

/-- `load_catalog`. -/
def loadCatalog (scope : CatalogScope) (includeMissing : Bool) (t : Tables codec) :
    Except CatalogError (CatalogSnapshot codec) := do
  let rows := t.instruments.entries.filter fun row => includeMissing || decide (row.2.present = 1)
  let instruments ← loadInstruments scope rows
  let snapshot : CatalogSnapshot codec := {
    scope
    observedAtNs := t.state.map (·.lastObservedAtNs)
    revision := t.state.elim 0 (·.revision)
    digestSha256 := t.state.map (·.snapshotDigest)
    complete := t.state.isSome
    instruments }
  raising (checked snapshot.check (.ok snapshot))

/-- `_decode_string_array`. -/
def decodeStringArray (codec : CatalogCodec) (blob : codec.Blob) (field : String) :
    Except Err (List String) := do
  match ← codec.decodeJson blob with
  | .list items =>
    if items.all fun item => (textOf item).isSome then
      let result := items.map fun item => (textOf item).getD ""
      if result.Nodup ∧ "" ∉ result then .ok result
      else .error (.runtimeError (field ++ " must contain unique non-empty strings"))
    else .error (.runtimeError (field ++ " must be a JSON string array"))
  | _ => .error (.runtimeError (field ++ " must be a JSON string array"))

/-- `load_view`. -/
def loadView (scope : CatalogScope) (t : Tables codec) :
    Except CatalogError (CatalogView codec) := do
  let header := t.state.bind (·.turnover)
  let catalogPageRawReferences ← raising (t.state.elim (.ok []) fun row =>
    decodeStringArray codec row.pageRawReferencesJson "catalog page references")
  let turnoverPageRawReferences ← raising (header.elim (.ok []) fun h =>
    decodeStringArray codec h.pageRawReferencesJson "turnover page references")
  let turnoverCoveredInstrumentKeys ← raising (header.elim (.ok []) fun h =>
    decodeStringArray codec h.coveredKeysJson "turnover covered instrument keys")
  let instruments ← loadInstruments scope t.instruments.entries
  let view : CatalogView codec := {
    scope
    catalogObservedAtNs := t.state.map (·.lastObservedAtNs)
    catalogRevision := t.state.elim 0 (·.revision)
    catalogDigestSha256 := t.state.map (·.snapshotDigest)
    catalogSnapshotId := t.state.map (·.snapshotId)
    catalogPageRawReferences
    turnoverObservedAtNs := header.map (·.lastObservedAtNs)
    turnoverRevision := t.state.elim 0 (·.turnoverRevision)
    turnoverDigestSha256 := header.map (·.snapshotDigest)
    turnoverCatalogRevision := header.map (·.catalogRevision)
    turnoverSnapshotId := header.map (·.snapshotId)
    turnoverPageRawReferences
    turnoverCoveredInstrumentKeys
    instruments }
  raising (checked view.check (.ok view))

end CryptoCollector.Selection
