import CryptoCollector.Lib.StableSort
import CryptoCollector.Selection.Clients
import CryptoCollector.Selection.Commits
import CryptoCollector.Selection.Equality
import CryptoCollector.Selection.Outbox
import Mathlib.Data.Prod.Lex

/-!
# Pending changes

`selection/catalog_store.py: CatalogStore.pending_changes, ack_change`. The events of the catalog
and of the selections are read as one list and acknowledged one by one.

* `exists_pendingChanges`: what is pending can be read.
* `filter_pendingRows`: the pending events of a policy come in the order of their states.
-/

namespace CryptoCollector.Storage.Json

/-- Fields that come in the order of their names keep it. -/
theorem freezeFields_of_pairwise {fields : List (String × Json)}
    (h : (fields.map Prod.fst).Pairwise (· < ·)) :
    freezeFields fields = fields.map fun field => (field.1, field.2.freezeJson) := by
  induction fields with
  | nil => rfl
  | cons field fields ih =>
    obtain ⟨hhead, htail⟩ := List.pairwise_cons.1 h
    rw [freezeFields, ih htail, List.map_cons]
    exact insertField_of_lt (by simpa [List.map_map, Function.comp_def] using hhead)

end CryptoCollector.Storage.Json

namespace CryptoCollector.Selection

open Lib
open Storage (Err Json)

variable {codec : TextCodec}

/-! ## `pending_changes` -/

/-- The attributes of a `CatalogControlChange`. -/
structure ControlChangeFields (codec : TextCodec) where
  eventId : codec.Digest
  scope : CatalogScope
  catalogRevision : Int
  kind : String
  instrumentKey : String
  payload : FrozenJson

/-- `CatalogControlChange.__post_init__`. -/
def ControlChangeFields.check (c : ControlChangeFields codec) : Option Err :=
  positiveInt c.catalogRevision "catalog_revision" <|>
    nonemptyString c.kind "kind" <|>
    nonemptyString c.instrumentKey "instrument_key"

/-- `CatalogControlChange`. -/
abbrev ControlChange (codec : TextCodec) :=
  {c : ControlChangeFields codec // c.check = none}

/-- A row of the union of the two outboxes. -/
structure PendingRow (codec : TextCodec) where
  eventId : codec.Digest
  catalogRevision : Int
  kind : String
  instrumentKey : String
  payloadJson : codec.Blob
  streamOrder : Nat
  streamRevision : Int
  eventOrdinal : Nat

/-- A row of `catalog_change_outbox` in the union. -/
def OutboxRow.pending (row : OutboxRow codec.toCatalogCodec) : PendingRow codec where
  eventId := row.eventId
  catalogRevision := row.catalogRevision
  kind := row.kind
  instrumentKey := row.instrumentKey
  payloadJson := row.payloadJson
  streamOrder := 0
  streamRevision := row.catalogRevision
  eventOrdinal := row.eventOrdinal

/-- A row of `selection_change_outbox` in the union. -/
def SelectionOutboxRow.pending (row : SelectionOutboxRow codec.toCatalogCodec) :
    PendingRow codec where
  eventId := row.eventId
  catalogRevision := row.catalogRevision
  kind := row.kind
  instrumentKey := row.instrumentKey
  payloadJson := row.payloadJson
  streamOrder := 1
  streamRevision := row.stateRevision
  eventOrdinal := row.eventOrdinal

/-- The columns that the union is ordered by. -/
def PendingRow.rank (row : PendingRow codec) : Int ×ₗ Nat ×ₗ Int ×ₗ Nat ×ₗ String :=
  toLex (row.catalogRevision, toLex (row.streamOrder, toLex (row.streamRevision,
    toLex (row.eventOrdinal, codec.hexdigest row.eventId))))

/-- The rows of the union in their order. -/
def pendingRows (t : Store codec) : List (PendingRow codec) :=
  sortedBy PendingRow.rank (t.outbox.map (·.pending) ++ t.selectionOutbox.map (·.pending))

/-- The change of a row. -/
def PendingRow.change (scope : CatalogScope) (row : PendingRow codec) :
    Except Err (ControlChange codec) := do
  match ← codec.decodeJson row.payloadJson with
  | .object fields => construct ControlChangeFields.check {
      eventId := row.eventId
      scope
      catalogRevision := row.catalogRevision
      kind := row.kind
      instrumentKey := row.instrumentKey
      payload := freezeJson (.object fields) }
  | _ => .error (.runtimeError "catalog outbox payload must be a JSON object")

/-- `pending_changes`. -/
def pendingChanges (scope : CatalogScope) (t : Store codec) :
    Except CatalogError (List (ControlChange codec)) :=
  raising ((pendingRows t).mapM (·.change scope))

/-! ## `ack_change` -/

/-- `ack_change`. -/
def ackChange (eventId : codec.Digest) (t : Store codec) : Bool × Store codec :=
  let outbox := t.outbox.filter fun row => decide (row.eventId ≠ eventId)
  let selectionOutbox := t.selectionOutbox.filter fun row => decide (row.eventId ≠ eventId)
  (decide (outbox.length + selectionOutbox.length <
      t.outbox.length + t.selectionOutbox.length),
    { t with outbox, selectionOutbox })

/-! ## Rows that can be read -/

/-- A row whose payload is a plain object can be read. -/
theorem exists_change {row : PendingRow codec} {fields : List (String × Json)}
    (hjson : row.payloadJson = codec.encodeJson (.object fields))
    (hplain : (Json.object fields).Plain)
    (hrevision : 0 < row.catalogRevision ∧ row.catalogRevision ≤ maxInt64)
    (hkind : row.kind ≠ "") (hkey : row.instrumentKey ≠ "") (scope : CatalogScope) :
    ∃ c, row.change scope = .ok c ∧ c.1 = {
      eventId := row.eventId
      scope
      catalogRevision := row.catalogRevision
      kind := row.kind
      instrumentKey := row.instrumentKey
      payload := freezeJson (.object fields) } := by
  have hcheck : ControlChangeFields.check {
      eventId := row.eventId
      scope
      catalogRevision := row.catalogRevision
      kind := row.kind
      instrumentKey := row.instrumentKey
      payload := freezeJson (.object fields) } = none := by
    simp [ControlChangeFields.check, hrevision, hkind, hkey]
  refine ⟨⟨_, hcheck⟩, ?_, rfl⟩
  rw [PendingRow.change, hjson, codec.decodeJson_encodeJson _ hplain, ok_bind]
  exact construct_of_valid hcheck

/-- The kinds of the events of selections. -/
def selectionKinds : List String := ["selection_added", "selection_removed", "selection_updated"]

theorem selectionKind_mem (d : SelectionDelta) : selectionKind d ∈ selectionKinds := by
  unfold selectionKind selectionKinds
  split_ifs <;> decide

/-- The kinds of the events of the catalog are others. -/
theorem kind_not_mem (delta : CatalogDelta) : delta.kind ∉ selectionKinds ∧ delta.kind ≠ "" := by
  have hkinds : ∀ kind : InstrumentChange, kind.value ∉ selectionKinds ∧ kind.value ≠ "" := by
    intro kind
    cases kind <;> decide
  have hconfirmed : "announcement_confirmed" ∉ selectionKinds ∧ "announcement_confirmed" ≠ "" := by
    decide
  cases delta with
  | instrument kind _ _ _ => exact hkinds kind
  | announcement _ _ _ => exact hconfirmed

theorem plain_announcementHintPayload (hint : StoredAnnouncementHint) :
    (announcementHintPayload hint).Plain := by
  have hcheck := hint.2
  simp only [HintFields.check, orElse_eq_none, nonnegativeInt_eq_none,
    optionalNonnegativeInt_eq_none] at hcheck
  obtain ⟨-, -, -, -, -, hannounced, hconfirmed, -⟩ := hcheck
  have hnodup : ["announced_at_ns", "candidate_canonical_pair", "candidate_instrument_key",
      "confirmed_at_ns", "hint_id", "raw_reference"].Nodup := by decide
  exact ⟨hnodup, plain_int hannounced, plain_optionalText _, plain_optionalText _,
    plain_optionalInt hconfirmed, trivial, trivial, trivial⟩

/-- The payload of a delta of the catalog is a plain object. -/
theorem exists_fields_of_payload {delta : CatalogDelta} {payload : Json}
    (h : delta.payload = .ok payload) :
    ∃ fields, payload = .object fields ∧ (Json.object fields).Plain := by
  have hnodup : ["current", "previous"].Nodup := by decide
  cases delta with
  | instrument kind key previous current =>
    obtain ⟨current', hcurrent, h⟩ := bind_eq_ok.1 h
    obtain ⟨previous', hprevious, h⟩ := bind_eq_ok.1 h
    cases h
    refine ⟨_, rfl, hnodup, plain_catalogInstrumentPayload hcurrent, ?_, trivial⟩
    cases previous with
    | none =>
      cases hprevious
      trivial
    | some p => exact plain_catalogInstrumentPayload hprevious
  | announcement key previous current =>
    cases h
    exact ⟨_, rfl, hnodup, plain_announcementHintPayload current,
      plain_announcementHintPayload previous, trivial⟩

/-- A row of the outbox of the catalog: its identity, and what is read of it. -/
structure CatalogRow (scope : CatalogScope) (row : OutboxRow codec.toCatalogCodec) : Prop where
  eventId : row.eventId = controlEventId codec.toCatalogCodec scope row.catalogRevision
    row.eventOrdinal row.kind row.instrumentKey
  revision : 0 < row.catalogRevision ∧ row.catalogRevision ≤ maxInt64
  ordinal : (row.eventOrdinal : Int) ≤ maxInt64
  kind : row.kind ∉ selectionKinds
  change : ∃ c, row.pending.change scope = .ok c ∧ c.1.kind = row.kind ∧ c.1.eventId = row.eventId

theorem catalogRow_of_eventRow {scope : CatalogScope} {revision : Int} {ordinal : Nat}
    {delta : CatalogDelta} {row : OutboxRow codec.toCatalogCodec}
    (h : eventRow codec.toCatalogCodec scope revision ordinal delta = .ok row)
    (hrevision : 0 < revision ∧ revision ≤ maxInt64) (hordinal : (ordinal : Int) ≤ maxInt64)
    (hkey : delta.instrumentKey ≠ "") : CatalogRow scope row := by
  obtain ⟨payload, hpayload, h⟩ := bind_eq_ok.1 h
  have hrow := (Except.ok.inj h).symm
  obtain ⟨fields, rfl, hplain⟩ := exists_fields_of_payload hpayload
  obtain ⟨hkind, hne⟩ := kind_not_mem delta
  have hjson : row.pending.payloadJson = codec.encodeJson (.object fields) := by rw [hrow]; rfl
  have hkind' : row.kind = delta.kind := by rw [hrow]
  have hkey' : row.instrumentKey = delta.instrumentKey := by rw [hrow]
  have hrevision' : row.catalogRevision = revision := by rw [hrow]
  have hordinal' : row.eventOrdinal = ordinal := by rw [hrow]
  obtain ⟨c, hc, hfields⟩ := exists_change hjson hplain
    (show 0 < row.catalogRevision ∧ row.catalogRevision ≤ maxInt64 from hrevision' ▸ hrevision)
    (show row.kind ≠ "" from hkind' ▸ hne) (show row.instrumentKey ≠ "" from hkey' ▸ hkey) scope
  refine ⟨?_, hrevision' ▸ hrevision, hordinal' ▸ hordinal, hkind' ▸ hkind, c, hc, ?_, ?_⟩
  · rw [hrow]
  · rw [hfields]
    rfl
  · rw [hfields]
    rfl

/-! ## Events of selections -/

/-- A row of the outbox of the selections and the delta that it tells. -/
structure Told (scope : CatalogScope) (row : SelectionOutboxRow codec.toCatalogCodec)
    (r : ResultFields codec.toCatalogCodec) (d : SelectionDelta) : Prop where
  row_eq : selectionEventRow r row.stateRevision (d, row.eventOrdinal) = .ok row
  scope_eq : r.scope = scope
  stateRevision : 0 < row.stateRevision ∧ row.stateRevision ≤ maxInt64
  catalogRevision : 0 < r.catalogRevision ∧ r.catalogRevision ≤ maxInt64
  turnoverRevision : 0 ≤ r.turnoverRevision ∧ r.turnoverRevision ≤ maxInt64
  ordinal : (row.eventOrdinal : Int) ≤ maxInt64

/-- What a change says about a key of a policy. -/
structure Says (c : ControlChange codec) (policyId : codec.Digest) (key : String)
    (current : Json) : Prop where
  kind : c.1.kind ∈ selectionKinds
  key_eq : c.1.instrumentKey = key
  fields : ∃ fields, c.1.payload.1 = .object fields ∧
    fieldOf fields "policy_id" = .str (codec.hexdigest policyId) ∧
    fieldOf fields "current" = current.freezeJson

theorem plain_optionalEntryPayload {e : Option SelectionEntry} {payload : Json}
    (h : optionalEntryPayload e = .ok payload) : payload.Plain := by
  cases e with
  | none =>
    cases h
    trivial
  | some e => exact plain_selectionEntryPayload h

/-- The key of a delta is not empty. -/
theorem instrumentKey_ne (d : SelectionDelta) : d.1.instrumentKey ≠ "" := by
  have hcheck := d.2
  simp only [DeltaFields.check, orElse_eq_none, Storage.refuseIf_eq_none,
    decide_eq_false_iff_not] at hcheck
  exact hcheck.1

/-- The fields of the payload of an event come in the order of their names. -/
theorem freezeJson_selectionPayload (catalog state turnover : Int) (policy : String)
    (current previous : Json) :
    (Json.object [
      ("catalog_revision", .int catalog), ("current", current), ("policy_id", .str policy),
      ("previous", previous), ("state_revision", .int state),
      ("turnover_revision", .int turnover)]).freezeJson = .object [
        ("catalog_revision", .int catalog), ("current", current.freezeJson),
        ("policy_id", .str policy), ("previous", previous.freezeJson),
        ("state_revision", .int state), ("turnover_revision", .int turnover)] := by
  have hnames : ["catalog_revision", "current", "policy_id", "previous", "state_revision",
      "turnover_revision"].Pairwise (· < ·) := by decide
  exact congrArg Json.object (Json.freezeFields_of_pairwise hnames)

/-- What is read of a row that tells a delta. -/
theorem Told.change {scope : CatalogScope} {row : SelectionOutboxRow codec.toCatalogCodec}
    {r : ResultFields codec.toCatalogCodec} {d : SelectionDelta} (h : Told scope row r d) :
    ∃ c current, row.pending.change scope = .ok c ∧ c.1.eventId = row.eventId ∧
      optionalEntryPayload d.1.current = .ok current ∧
      Says c row.policyId d.1.instrumentKey current := by
  have hrow := h.row_eq
  obtain ⟨payload, hpayload, hrow⟩ := bind_eq_ok.1 hrow
  obtain ⟨current, hcurrent, hpayload⟩ := bind_eq_ok.1 hpayload
  obtain ⟨previous, hprevious, hpayload⟩ := bind_eq_ok.1 hpayload
  have hpayload := (Except.ok.inj hpayload).symm
  have hrow := (Except.ok.inj hrow).symm
  have hnodup : ["catalog_revision", "current", "policy_id", "previous", "state_revision",
      "turnover_revision"].Nodup := by decide
  have hplain : (Json.object [
      ("catalog_revision", .int r.catalogRevision), ("current", current),
      ("policy_id", .str (codec.hexdigest r.policyId)), ("previous", previous),
      ("state_revision", .int row.stateRevision),
      ("turnover_revision", .int r.turnoverRevision)]).Plain :=
    ⟨hnodup, plain_int ⟨h.catalogRevision.1.le, h.catalogRevision.2⟩,
      plain_optionalEntryPayload hcurrent, trivial, plain_optionalEntryPayload hprevious,
      plain_int ⟨h.stateRevision.1.le, h.stateRevision.2⟩, plain_int h.turnoverRevision, trivial⟩
  have hjson : row.pending.payloadJson = codec.encodeJson payload := by rw [hrow]; rfl
  have hcatalog : row.catalogRevision = r.catalogRevision := by rw [hrow]
  have hkind : row.kind = selectionKind d := by rw [hrow]
  have hkey : row.instrumentKey = d.1.instrumentKey := by rw [hrow]
  have hpolicy : row.policyId = r.policyId := by rw [hrow]
  have hkindMem : row.kind ∈ selectionKinds := hkind ▸ selectionKind_mem d
  rw [hpayload] at hjson
  obtain ⟨c, hc, hfields⟩ := exists_change hjson hplain
    (show 0 < row.catalogRevision ∧ row.catalogRevision ≤ maxInt64 from
      hcatalog ▸ h.catalogRevision)
    (show row.kind ≠ "" from fun hnone => by rw [hnone] at hkindMem; exact absurd hkindMem (by decide))
    (show row.instrumentKey ≠ "" from hkey ▸ instrumentKey_ne d) scope
  refine ⟨c, current, hc, by rw [hfields]; rfl, hcurrent, ?_, ?_,
    [("catalog_revision", .int r.catalogRevision), ("current", current.freezeJson),
      ("policy_id", .str (codec.hexdigest r.policyId)), ("previous", previous.freezeJson),
      ("state_revision", .int row.stateRevision), ("turnover_revision", .int r.turnoverRevision)],
    ?_, ?_, rfl⟩
  · rw [hfields]
    exact hkindMem
  · rw [hfields]
    exact hkey
  · rw [hfields]
    exact freezeJson_selectionPayload _ _ _ _ _ _
  · rw [hpolicy]
    rfl

/-! ## Identities -/

theorem plain_selectionEventIdentity {scope : CatalogScope} {policyId : codec.Digest}
    {stateRevision : Int} {ordinal : Nat} (hrevision : 0 ≤ stateRevision ∧ stateRevision ≤ maxInt64)
    (hordinal : (ordinal : Int) ≤ maxInt64) (kind key : String) :
    (selectionEventIdentity codec scope policyId stateRevision ordinal kind key).Plain := by
  have hnodup : ["exchange", "instrument_key", "kind", "market", "ordinal", "policy_id",
      "state_revision"].Nodup := by decide
  exact ⟨hnodup, trivial, trivial, trivial, trivial,
    plain_int ⟨Int.natCast_nonneg _, hordinal⟩, trivial, plain_int hrevision, trivial⟩

theorem plain_controlEventIdentity {scope : CatalogScope} {revision : Int} {ordinal : Nat}
    (hrevision : 0 ≤ revision ∧ revision ≤ maxInt64) (hordinal : (ordinal : Int) ≤ maxInt64)
    (kind key : String) : (controlEventIdentity scope revision ordinal kind key).Plain := by
  have hnodup : ["exchange", "instrument_key", "kind", "market", "ordinal", "revision"].Nodup := by
    decide
  exact ⟨hnodup, trivial, trivial, trivial, trivial,
    plain_int ⟨Int.natCast_nonneg _, hordinal⟩, plain_int hrevision, trivial⟩

theorem Told.identity {scope : CatalogScope} {row : SelectionOutboxRow codec.toCatalogCodec}
    {r : ResultFields codec.toCatalogCodec} {d : SelectionDelta} (h : Told scope row r d) :
    row.eventId = codec.sha256 (codec.encodeJson (selectionEventIdentity codec scope row.policyId
      row.stateRevision row.eventOrdinal row.kind row.instrumentKey)) := by
  obtain ⟨payload, -, hrow⟩ := bind_eq_ok.1 h.row_eq
  have hrow := (Except.ok.inj hrow).symm
  have hpolicy : row.policyId = r.policyId := by rw [hrow]
  have hkind : row.kind = selectionKind d := by rw [hrow]
  have hkey : row.instrumentKey = d.1.instrumentKey := by rw [hrow]
  rw [hpolicy, hkind, hkey, ← h.scope_eq]
  exact congrArg (·.eventId) hrow

/-- Events of selections with one identity are of one policy, of one state and in one place. -/
theorem Told.eq_of_eventId {scope : CatalogScope}
    {row row' : SelectionOutboxRow codec.toCatalogCodec} {r r' : ResultFields codec.toCatalogCodec}
    {d d' : SelectionDelta} (h : Told scope row r d) (h' : Told scope row' r' d')
    (hid : row.eventId = row'.eventId) : row.policyId = row'.policyId ∧
      row.stateRevision = row'.stateRevision ∧ row.eventOrdinal = row'.eventOrdinal := by
  rw [h.identity, h'.identity] at hid
  have hsame := CatalogCodec.encodeJson_inj
    (plain_selectionEventIdentity ⟨h.stateRevision.1.le, h.stateRevision.2⟩ h.ordinal _ _)
    (plain_selectionEventIdentity ⟨h'.stateRevision.1.le, h'.stateRevision.2⟩ h'.ordinal _ _)
    (codec.sha256_injective hid)
  simp only [selectionEventIdentity, Json.object.injEq, List.cons.injEq, Prod.mk.injEq,
    Json.int.injEq, Json.str.injEq, Int.natCast_inj] at hsame
  obtain ⟨-, -, -, -, hordinal, hpolicy, hrevision, -⟩ := hsame
  exact ⟨codec.hexdigest_injective hpolicy.2, hrevision.2, hordinal.2⟩

/-- An event of the catalog is no event of a selection. -/
theorem eventId_ne {scope : CatalogScope} {row : OutboxRow codec.toCatalogCodec}
    (h : CatalogRow scope row) {row' : SelectionOutboxRow codec.toCatalogCodec}
    {r : ResultFields codec.toCatalogCodec} {d : SelectionDelta} (h' : Told scope row' r d) :
    row.eventId ≠ row'.eventId := by
  intro hid
  rw [h.eventId, h'.identity] at hid
  have hsame := CatalogCodec.encodeJson_inj
    (plain_controlEventIdentity ⟨h.revision.1.le, h.revision.2⟩ h.ordinal _ _)
    (plain_selectionEventIdentity ⟨h'.stateRevision.1.le, h'.stateRevision.2⟩ h'.ordinal _ _)
    (codec.sha256_injective hid)
  simp [controlEventIdentity, selectionEventIdentity] at hsame

/-! ## Orders -/

/-- The events of a policy that are pending, in the order in which they were written. -/
def feedOf (t : Store codec) (policyId : codec.Digest) :
    List (SelectionOutboxRow codec.toCatalogCodec) :=
  t.selectionOutbox.filter fun row => decide (row.policyId = policyId)

/-- An event of a policy comes before another one. -/
def Before (a b : SelectionOutboxRow codec.toCatalogCodec) : Prop :=
  a.catalogRevision ≤ b.catalogRevision ∧ (a.stateRevision < b.stateRevision ∨
    a.stateRevision = b.stateRevision ∧ a.eventOrdinal < b.eventOrdinal)

theorem rank_le_of_before {a b : SelectionOutboxRow codec.toCatalogCodec} (h : Before a b) :
    a.pending.rank ≤ b.pending.rank := by
  obtain ⟨hcatalog, hplace⟩ := h
  simp only [PendingRow.rank, SelectionOutboxRow.pending, Prod.Lex.toLex_le_toLex, lt_irrefl,
    false_or, true_and]
  rcases hcatalog.lt_or_eq with hlt | heq
  · exact .inl hlt
  · refine .inr ⟨heq, ?_⟩
    rcases hplace with hlt | ⟨heq, hlt⟩
    · exact .inl hlt
    · exact .inr ⟨heq, .inl hlt⟩

/-- What holds of the rows of the outboxes. -/
structure Tables.Readable (scope : CatalogScope) (t : Store codec) : Prop where
  catalog : ∀ row ∈ t.outbox, CatalogRow scope row
  selection : ∀ row ∈ t.selectionOutbox, ∃ r d, Told scope row r d
  order : ∀ policyId, (feedOf t policyId).Pairwise Before
  earlier : ∀ row ∈ t.selectionOutbox, row.catalogRevision ≤ t.catalogRevision ∧
    row.stateRevision ≤ t.stateRevision row.policyId

/-- A field of the payload of a change. -/
def payloadField (c : ControlChange codec) (name : String) : Json :=
  match c.1.payload.1 with
  | .object fields => fieldOf fields name
  | _ => .null

/-- A change is of the selection of a policy. -/
def isOfPolicy (policy : String) (c : ControlChange codec) : Bool :=
  decide (c.1.kind ∈ selectionKinds) && decide (payloadField c "policy_id" = .str policy)

/-- A row is of the selection of a policy. -/
def PendingRow.isOfPolicy (scope : CatalogScope) (policy : String) (row : PendingRow codec) :
    Bool :=
  ((row.change scope).toOption.any fun c => Selection.isOfPolicy policy c)

section Readable

variable {scope : CatalogScope} {t : Store codec}

theorem isOfPolicy_of_says {c : ControlChange codec} {policyId : codec.Digest} {key : String}
    {current : Json} (h : Says c policyId key current) (other : codec.Digest) :
    isOfPolicy (codec.hexdigest other) c = decide (policyId = other) := by
  obtain ⟨fields, hfields, hpolicy, -⟩ := h.fields
  have hfield : payloadField c "policy_id" = .str (codec.hexdigest policyId) := by
    rw [payloadField, hfields]
    exact hpolicy
  have hinjective := codec.hexdigest_injective.eq_iff (a := policyId) (b := other)
  rw [isOfPolicy, hfield, decide_eq_true h.kind, Bool.true_and]
  simp [hinjective]

/-- What is pending can be read. -/
theorem exists_pendingChanges (ht : t.Readable scope) :
    ∃ changes, pendingChanges scope t = .ok changes ∧
      List.Forall₂ (fun row c => row.change scope = .ok c) (pendingRows t) changes := by
  have hrows : ∀ row ∈ pendingRows t, ∃ c, row.change scope = .ok c := by
    intro row hrow
    rcases List.mem_append.1 (mem_sortedBy.1 hrow) with hrow | hrow
    · obtain ⟨row, hmem, rfl⟩ := List.mem_map.1 hrow
      obtain ⟨c, hc, -⟩ := (ht.catalog row hmem).change
      exact ⟨c, hc⟩
    · obtain ⟨row, hmem, rfl⟩ := List.mem_map.1 hrow
      obtain ⟨r, d, htold⟩ := ht.selection row hmem
      obtain ⟨c, current, hc, -⟩ := htold.change
      exact ⟨c, hc⟩
  obtain ⟨changes, hchanges⟩ := mapM_total hrows
  exact ⟨changes, by rw [pendingChanges, hchanges]; rfl, forall₂_of_mapM hchanges⟩

/-- The pending events of a policy come in the order in which they were written. -/
theorem filter_pendingRows (ht : t.Readable scope) (policyId : codec.Digest) :
    (pendingRows t).filter (·.isOfPolicy scope (codec.hexdigest policyId)) =
      (feedOf t policyId).map (·.pending) := by
  have hcatalog : ∀ row ∈ t.outbox.map OutboxRow.pending,
      ¬ (row.isOfPolicy scope (codec.hexdigest policyId)) = true := by
    intro row hrow
    obtain ⟨row, hmem, rfl⟩ := List.mem_map.1 hrow
    have hcatalogRow := ht.catalog row hmem
    obtain ⟨c, hc, hkind, -⟩ := hcatalogRow.change
    simp [PendingRow.isOfPolicy, hc, Except.toOption, isOfPolicy, hkind, hcatalogRow.kind]
  have hselection : ∀ row ∈ t.selectionOutbox,
      (row.pending.isOfPolicy scope (codec.hexdigest policyId)) =
        decide (row.policyId = policyId) := by
    intro row hrow
    obtain ⟨r, d, htold⟩ := ht.selection row hrow
    obtain ⟨c, current, hc, -, -, hsays⟩ := htold.change
    simp [PendingRow.isOfPolicy, hc, Except.toOption, isOfPolicy_of_says hsays]
  have hfeed : (t.selectionOutbox.map SelectionOutboxRow.pending).filter
      (·.isOfPolicy scope (codec.hexdigest policyId)) = (feedOf t policyId).map (·.pending) := by
    rw [List.filter_map, feedOf]
    exact congrArg _ (List.filter_congr hselection)
  rw [pendingRows, filter_sortedBy, List.filter_append, List.filter_eq_nil_iff.2 hcatalog,
    List.nil_append, hfeed]
  exact sortedBy_eq_self (List.pairwise_map.2 ((ht.order policyId).imp rank_le_of_before))

end Readable

end CryptoCollector.Selection
