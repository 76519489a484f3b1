import CryptoCollector.Selection.Snapshots

/-!
# Changes and views of the catalog

`selection/models.py: CatalogDelta, CatalogChanges, TurnoverChanges, CatalogSnapshot, CatalogView`
and the JSON payloads of `selection/catalog_store.py`.
-/

namespace CryptoCollector.Selection

open Lib
open Storage (Err Json refuseIf refuseIf_eq_none)

/-! ## Payloads -/

/-- An optional text in JSON. -/
def optionalText (value : Option String) : Json := value.elim .null .str

/-- An optional integer in JSON. -/
def optionalInt (value : Option Int) : Json := value.elim .null .int

/-- `turnover` in `_record_payload`. -/
def turnoverPayload (turnover : Option Turnover) : Json :=
  turnover.elim .null fun t => .object [
    ("value", .str (decimalStr t.1.value)),
    ("method", .str t.1.method.value),
    ("currency", .str t.1.currency),
    ("observed_at_ns", optionalInt t.1.observedAtNs),
    ("raw_reference", optionalText t.1.rawReference)]

/-- `_record_payload`, after the node of the lifecycle. -/
def recordPayloadFields (r : RecordFields) (lifecycle : Json) : List (String × Json) := [
  ("exchange", .str r.exchange.value),
  ("market", .str r.market.value),
  ("instrument_key", .str r.instrumentKey),
  ("canonical_pair", .str r.canonicalPair),
  ("wire_symbols", .object (r.wireSymbols.1.map fun item => (item.1, .str item.2))),
  ("base_asset", .str r.baseAsset),
  ("quote_asset", .str r.quoteAsset),
  ("settlement_asset", optionalText r.settlementAsset),
  ("status", .str r.status),
  ("lifecycle_phase", .str r.lifecyclePhase.value),
  ("tradable", .bool r.tradable),
  ("lifecycle", lifecycle),
  ("tradable_at_ns", optionalInt r.tradableAtNs),
  ("tradable_at_source", optionalText (r.tradableAtSource.map (·.value))),
  ("turnover", turnoverPayload r.turnover),
  ("raw_catalog_reference", .str r.rawCatalogReference)]

/-- `_record_payload`. -/
def recordPayload (record : InstrumentRecord) : Except Err Json := do
  return .object (recordPayloadFields record.1 (← typedJsonNode record.1.lifecycle.1))

/-- What `_catalog_instrument_payload` adds. -/
def historyPayloadFields (c : CatalogFields) : List (String × Json) := [
  ("first_seen_ns", .int c.firstSeenNs),
  ("first_tradable_seen_ns", optionalInt c.firstTradableSeenNs),
  ("last_seen_ns", .int c.lastSeenNs),
  ("last_terminal_seen_ns", optionalInt c.lastTerminalSeenNs),
  ("listing_generation", .int c.listingGeneration),
  ("listing_state", .str c.listingState.value),
  ("new_listing_eligible", .bool c.newListingEligible),
  ("new_listing_source", optionalText (c.newListingSource.map (·.value))),
  ("new_listing_started_at_ns", optionalInt c.newListingStartedAtNs),
  ("present", .bool c.present)]

/-- `_catalog_instrument_payload`. -/
def catalogInstrumentPayload (item : CatalogInstrument) : Except Err Json := do
  return .object (recordPayloadFields item.1.toRecordFields
    (← typedJsonNode item.1.lifecycle.1) ++ historyPayloadFields item.1)

/-! ## Deltas -/

/-- The kinds of the deltas of instruments. -/
inductive InstrumentChange where
  | added
  | updated
  | removed
  | newListing
  deriving DecidableEq

/-- The kind of a delta of an instrument. -/
def InstrumentChange.value : InstrumentChange → String
  | added => "added"
  | updated => "updated"
  | removed => "removed"
  | newListing => "new_listing"

/-- `CatalogDelta`. The types of its values follow from its kind. -/
inductive CatalogDelta where
  | instrument (kind : InstrumentChange) (instrumentKey : String)
      (previous : Option CatalogInstrument) (current : CatalogInstrument)
  | announcement (instrumentKey : String) (previous current : StoredAnnouncementHint)
  deriving DecidableEq

namespace CatalogDelta

/-- `kind`. -/
def kind : CatalogDelta → String
  | instrument kind _ _ _ => kind.value
  | announcement _ _ _ => "announcement_confirmed"

/-- `instrument_key`. -/
def instrumentKey : CatalogDelta → String
  | instrument _ key _ _ => key
  | announcement key _ _ => key

/-- `CatalogDelta.scope`. -/
def scope : CatalogDelta → CatalogScope
  | instrument _ _ _ current => current.1.scope
  | announcement _ _ current => current.1.scope

/-- `CatalogDelta.identity_key`. -/
def identityKey : CatalogDelta → String
  | instrument _ key _ _ => key
  | announcement _ _ current => current.1.hintId

/-- `CatalogDelta.__post_init__`. -/
def check : CatalogDelta → Option Err
  | announcement key previous current =>
    nonemptyString key "instrument_key" <|>
      refuseIf (current.1.candidateInstrumentKey.any fun candidate => decide (candidate ≠ key))
        "announcement key must match the explicit instrument candidate" <|>
      refuseIf (decide (previous.1.scope ≠ current.1.scope) ||
          decide (previous.1.hintId ≠ current.1.hintId))
        "announcement delta values must share identity" <|>
      refuseIf (previous.1.confirmedAtNs.isSome || current.1.confirmedAtNs.isNone)
        "announcement delta must record first confirmation"
  | instrument kind key previous current =>
    nonemptyString key "instrument_key" <|>
      refuseIf (decide (current.1.instrumentKey ≠ key))
        "current instrument key must match catalog delta" <|>
      refuseIf (previous.any fun p => decide (p.1.instrumentKey ≠ key))
        "previous instrument key must match catalog delta" <|>
      refuseIf (previous.any fun p => decide (p.1.scope ≠ current.1.scope))
        "catalog delta values must share one scope" <|>
      refuseIf ((decide (kind = .updated) || decide (kind = .removed)) && previous.isNone)
        (kind.value ++ " catalog delta requires a previous value") <|>
      refuseIf (decide (kind = .removed) && previous.any fun p => !p.1.present || current.1.present)
        "removed catalog delta must transition to non-present"

/-- The payload of the event of a delta. -/
def payload : CatalogDelta → Except Err Json
  | instrument _ _ previous current => do
    let current ← catalogInstrumentPayload current
    let previous ← previous.elim (.ok .null) catalogInstrumentPayload
    return .object [("current", current), ("previous", previous)]
  | announcement _ previous current => .ok (.object [
      ("current", announcementHintPayload current), ("previous", announcementHintPayload previous)])

/-- The current instrument of a delta of a kind. -/
def currentOf (kind : InstrumentChange) : CatalogDelta → Option CatalogInstrument
  | instrument kind' _ _ current => if kind' = kind then some current else none
  | announcement _ _ _ => none

/-- The current hint of an announcement. -/
def hintOf : CatalogDelta → Option StoredAnnouncementHint
  | instrument _ _ _ _ => none
  | announcement _ _ current => some current

end CatalogDelta

/-- `CatalogChanges`. -/
structure CatalogChanges (codec : CatalogCodec) where
  scope : CatalogScope
  observedAtNs : Int
  isInitialBaseline : Bool
  idempotent : Bool
  added : List CatalogInstrument
  updated : List CatalogInstrument
  removed : List CatalogInstrument
  newListings : List CatalogInstrument
  confirmedAnnouncementHints : List StoredAnnouncementHint
  revision : Int
  digestSha256 : codec.Digest
  controlEventIds : List codec.Digest
  deltas : List CatalogDelta

namespace CatalogChanges

variable {codec : CatalogCodec}

/-- `CatalogChanges.__post_init__`. -/
def check (c : CatalogChanges codec) : Option Err :=
  nonnegativeInt c.observedAtNs "observed_at_ns" <|>
    refuseIf (c.isInitialBaseline && c.idempotent) "an initial baseline cannot be idempotent" <|>
    positiveInt c.revision "revision" <|>
    refuseIf (c.added.any fun item => decide (item.1.scope ≠ c.scope))
      "added contains a cross-scope instrument" <|>
    refuseIf (c.updated.any fun item => decide (item.1.scope ≠ c.scope))
      "updated contains a cross-scope instrument" <|>
    refuseIf (c.removed.any fun item => decide (item.1.scope ≠ c.scope))
      "removed contains a cross-scope instrument" <|>
    refuseIf (c.newListings.any fun item => decide (item.1.scope ≠ c.scope))
      "new_listings contains a cross-scope instrument" <|>
    refuseIf (c.confirmedAnnouncementHints.any fun hint => decide (hint.1.scope ≠ c.scope))
      "confirmed announcement hint scope mismatch" <|>
    refuseIf (c.deltas.any fun delta => decide (delta.scope ≠ c.scope))
      "catalog delta scope mismatch" <|>
    refuseIf (decide ¬ (c.deltas.map fun delta => (delta.kind, delta.identityKey)).Nodup)
      "catalog deltas must have unique kind/key identities" <|>
    refuseIf (decide (c.added ≠ c.deltas.filterMap (·.currentOf .added)))
      "added must agree with catalog deltas" <|>
    refuseIf (decide (c.updated ≠ c.deltas.filterMap (·.currentOf .updated)))
      "updated must agree with catalog deltas" <|>
    refuseIf (decide (c.removed ≠ c.deltas.filterMap (·.currentOf .removed)))
      "removed must agree with catalog deltas" <|>
    refuseIf (decide (c.newListings ≠ c.deltas.filterMap (·.currentOf .newListing)))
      "new_listings must agree with catalog deltas" <|>
    refuseIf (decide (c.confirmedAnnouncementHints ≠ c.deltas.filterMap (·.hintOf)))
      "confirmed_announcement_hints must agree with catalog deltas" <|>
    refuseIf (decide ¬ c.controlEventIds.Nodup) "control_event_ids must be unique" <|>
    refuseIf (c.idempotent && !(c.added.isEmpty && c.updated.isEmpty && c.removed.isEmpty &&
        c.newListings.isEmpty && c.confirmedAnnouncementHints.isEmpty &&
        c.controlEventIds.isEmpty && c.deltas.isEmpty))
      "idempotent catalog changes cannot contain deltas"

end CatalogChanges

/-- `TurnoverChanges`. -/
structure TurnoverChanges where
  scope : CatalogScope
  catalogRevision : Int
  observedAtNs : Int
  revision : Int
  idempotent : Bool
  changedInstrumentKeys : List String
  deriving DecidableEq

/-- `TurnoverChanges.__post_init__`. -/
def TurnoverChanges.check (c : TurnoverChanges) : Option Err :=
  positiveInt c.catalogRevision "catalog_revision" <|>
    nonnegativeInt c.observedAtNs "observed_at_ns" <|>
    positiveInt c.revision "revision" <|>
    c.changedInstrumentKeys.findSome? (nonemptyString · "changed instrument key") <|>
    refuseIf (decide ¬ c.changedInstrumentKeys.Pairwise (· < ·))
      "changed_instrument_keys must be sorted and unique" <|>
    refuseIf (c.idempotent && !c.changedInstrumentKeys.isEmpty)
      "idempotent turnover changes cannot contain deltas"

/-! ## Views -/

/-- `CatalogSnapshot`. -/
structure CatalogSnapshot (codec : CatalogCodec) where
  scope : CatalogScope
  observedAtNs : Option Int
  revision : Int
  digestSha256 : Option codec.Digest
  complete : Bool
  instruments : List CatalogInstrument

/-- The checks of the instruments of a view, after those with the keys that came before. -/
def viewInstrumentsCheck (scope : CatalogScope) (mismatch duplicate : String)
    (more : CatalogInstrument → Option Err) (keys : List String) :
    List CatalogInstrument → Option Err
  | [] => none
  | item :: items =>
    refuseIf (decide (item.1.scope ≠ scope)) mismatch <|>
      refuseIf (decide (item.1.instrumentKey ∈ keys)) duplicate <|>
      more item <|>
      viewInstrumentsCheck scope mismatch duplicate more (item.1.instrumentKey :: keys) items

/-- `CatalogSnapshot.__post_init__`. -/
def CatalogSnapshot.check {codec : CatalogCodec} (s : CatalogSnapshot codec) : Option Err :=
  optionalNonnegativeInt s.observedAtNs "observed_at_ns" <|>
    nonnegativeInt s.revision "revision" <|>
    refuseIf (s.observedAtNs.isNone != decide (s.revision = 0))
      "empty catalog state must use revision zero" <|>
    refuseIf (decide (s.revision = 0) != s.digestSha256.isNone)
      "catalog digest must exist exactly when revision exists" <|>
    refuseIf (decide (s.revision = 0) && s.complete)
      "revision-zero catalog state must be incomplete" <|>
    refuseIf (decide (0 < s.revision) && !s.complete)
      "persisted catalog revisions must be complete" <|>
    refuseIf (decide (s.revision = 0) && !s.instruments.isEmpty)
      "revision-zero catalog state cannot contain instruments" <|>
    viewInstrumentsCheck s.scope "instrument scope does not match catalog scope"
      "catalog instrument keys must be unique" (fun _ => none) [] s.instruments

/-- `CatalogView`. -/
structure CatalogView (codec : CatalogCodec) where
  scope : CatalogScope
  catalogObservedAtNs : Option Int
  catalogRevision : Int
  catalogDigestSha256 : Option codec.Digest
  catalogSnapshotId : Option String
  catalogPageRawReferences : List String
  turnoverObservedAtNs : Option Int
  turnoverRevision : Int
  turnoverDigestSha256 : Option codec.Digest
  turnoverCatalogRevision : Option Int
  turnoverSnapshotId : Option String
  turnoverPageRawReferences : List String
  turnoverCoveredInstrumentKeys : List String
  instruments : List CatalogInstrument

/-- The instrument of a list with a key. -/
def instrumentOf (items : List CatalogInstrument) (key : String) : Option CatalogInstrument :=
  items.find? (·.1.instrumentKey = key)

/-- `_nonempty_string` of a value that may be missing. -/
def requiredString (value : Option String) (field : String) : Option Err :=
  nonemptyString (value.getD "") field

/-- `_nonempty_string_tuple`. -/
def nonemptyStringTuple (values : List String) (field : String) : Option Err :=
  refuseIf values.isEmpty (field ++ " must be a non-empty tuple") <|>
    values.findSome? (nonemptyString · (field ++ " item")) <|>
    refuseIf (decide ¬ values.Nodup) (field ++ " must not contain duplicates")

namespace CatalogView

variable {codec : CatalogCodec}

/-- The checks of the catalog header of a view. -/
def catalogCheck (v : CatalogView codec) : Option Err :=
  optionalNonnegativeInt v.catalogObservedAtNs "catalog_observed_at_ns" <|>
    nonnegativeInt v.catalogRevision "catalog_revision" <|>
    refuseIf (decide (v.catalogRevision = 0) != v.catalogObservedAtNs.isNone)
      "empty catalog state must use revision zero" <|>
    refuseIf (decide (v.catalogRevision = 0) != v.catalogDigestSha256.isNone)
      "catalog digest must exist exactly with a catalog revision" <|>
    if v.catalogRevision = 0 then
      refuseIf v.catalogSnapshotId.isSome "empty catalog state cannot carry a snapshot ID" <|>
        refuseIf (!v.catalogPageRawReferences.isEmpty)
          "empty catalog state cannot carry page references"
    else
      requiredString v.catalogSnapshotId "catalog_snapshot_id" <|>
        nonemptyStringTuple v.catalogPageRawReferences "catalog_page_raw_references"

/-- The checks of the turnover header of a view. -/
def turnoverCheck (v : CatalogView codec) : Option Err :=
  optionalNonnegativeInt v.turnoverObservedAtNs "turnover_observed_at_ns" <|>
    nonnegativeInt v.turnoverRevision "turnover_revision" <|>
    optionalNonnegativeInt v.turnoverCatalogRevision "turnover_catalog_revision" <|>
    refuseIf (decide (v.turnoverRevision = 0) != v.turnoverObservedAtNs.isNone)
      "turnover observation must exist exactly with its revision" <|>
    refuseIf (decide (v.turnoverRevision = 0) != v.turnoverDigestSha256.isNone)
      "turnover digest must exist exactly with its revision" <|>
    refuseIf (decide (v.turnoverRevision = 0) != v.turnoverCatalogRevision.isNone)
      "turnover catalog binding must exist exactly with its revision" <|>
    refuseIf (decide (v.turnoverCatalogRevision = some 0))
      "turnover_catalog_revision must be positive" <|>
    refuseIf (v.turnoverCatalogRevision.any fun n => decide (v.catalogRevision < n))
      "turnover cannot bind a future catalog revision" <|>
    refuseIf (decide (v.turnoverCatalogRevision = some v.catalogRevision) &&
        v.catalogObservedAtNs.any fun c => v.turnoverObservedAtNs.any fun t => decide (t < c))
      "turnover observation cannot predate its bound catalog observation" <|>
    if v.turnoverRevision = 0 then
      refuseIf v.turnoverSnapshotId.isSome "empty turnover state cannot carry a snapshot ID" <|>
        refuseIf (!v.turnoverPageRawReferences.isEmpty)
          "empty turnover state cannot carry page references" <|>
        refuseIf (!v.turnoverCoveredInstrumentKeys.isEmpty)
          "empty turnover state cannot carry coverage"
    else
      requiredString v.turnoverSnapshotId "turnover_snapshot_id" <|>
        nonemptyStringTuple v.turnoverPageRawReferences "turnover_page_raw_references" <|>
        v.turnoverCoveredInstrumentKeys.findSome?
          (nonemptyString · "turnover covered instrument key") <|>
        refuseIf (decide ¬ v.turnoverCoveredInstrumentKeys.Nodup)
          "turnover coverage must contain unique keys"

/-- The presence of an instrument agrees with the time of the catalog. -/
def presenceCheck (v : CatalogView codec) (item : CatalogInstrument) : Option Err :=
  v.catalogObservedAtNs.bind fun observed =>
    refuseIf (item.1.present && decide (item.1.lastSeenNs ≠ observed))
        "present instrument last_seen_ns must equal catalog_observed_at_ns" <|>
      refuseIf (!item.1.present && decide (observed ≤ item.1.lastSeenNs))
        "missing instrument last_seen_ns must precede catalog_observed_at_ns"

/-- The turnover of an instrument agrees with the turnover header. -/
def turnoverValueCheck (v : CatalogView codec) (item : CatalogInstrument) : Option Err :=
  if v.turnoverRevision = 0 then
    refuseIf item.1.turnover.isSome "turnover values require a turnover revision"
  else if item.1.instrumentKey ∉ v.turnoverCoveredInstrumentKeys then
    refuseIf item.1.turnover.isSome "turnover outside the latest snapshot coverage is invalid"
  else
    refuseIf (item.1.turnover.any fun t => decide (t.1.observedAtNs ≠ v.turnoverObservedAtNs))
      "turnover observation must match the view observation header"

/-- `CatalogView.__post_init__`. -/
def check (v : CatalogView codec) : Option Err :=
  v.catalogCheck <|>
    v.turnoverCheck <|>
    viewInstrumentsCheck v.scope "instrument scope does not match catalog view scope"
      "catalog view instrument keys must be unique" v.presenceCheck [] v.instruments <|>
    refuseIf (decide (v.catalogRevision = 0) && !v.instruments.isEmpty)
      "empty catalog state cannot contain instruments" <|>
    refuseIf (v.turnoverCoveredInstrumentKeys.any fun key =>
        decide (key ∉ v.instruments.map (·.1.instrumentKey)))
      "turnover coverage must belong to catalog instruments" <|>
    refuseIf (decide (v.turnoverCatalogRevision = some v.catalogRevision) &&
        v.turnoverCoveredInstrumentKeys.any fun key =>
          decide (key ∉ (v.instruments.filter (·.1.present)).map (·.1.instrumentKey)))
      ("turnover coverage bound to the current catalog must contain only " ++
        "present instruments") <|>
    v.instruments.findSome? v.turnoverValueCheck

end CatalogView

end CryptoCollector.Selection
