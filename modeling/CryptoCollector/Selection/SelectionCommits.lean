import CryptoCollector.Selection.Entries

/-!
# Commits of selections

`selection/catalog_store.py: CatalogStore.commit_selection, load_selection_state`. A commit stores
the next state of a selection, one revision later, and an event for each of its deltas.

* `commits_of_commitSelection`: what a commit that returns has checked, and what it writes.
* `loadSelectionState_of_commits`: the state that is loaded after a commit is the committed one.
-/

namespace CryptoCollector.Selection

open Lib
open Storage (Err Json refuseIf)

/-! ## Events -/

/-- A codec whose digests are texts. -/
structure TextCodec extends CatalogCodec where
  hexdigest : Digest → String
  hexdigest_injective : Function.Injective hexdigest

variable {codec : TextCodec}

/-- The tables of a store whose digests are texts. -/
abbrev Store (codec : TextCodec) := Tables codec.toCatalogCodec

/-- The kind of the event of a delta. -/
def selectionKind (d : SelectionDelta) : String :=
  if d.1.previous.isNone then "selection_added"
  else if d.1.current.isNone then "selection_removed"
  else "selection_updated"

/-- The identity of an event, whose digest is its `_selection_event_id`. -/
def selectionEventIdentity (codec : TextCodec) (scope : CatalogScope) (policyId : codec.Digest)
    (stateRevision : Int) (ordinal : Nat) (kind instrumentKey : String) : Json := .object [
  ("exchange", .str scope.exchange.value),
  ("instrument_key", .str instrumentKey),
  ("kind", .str kind),
  ("market", .str scope.market.value),
  ("ordinal", .int ordinal),
  ("policy_id", .str (codec.hexdigest policyId)),
  ("state_revision", .int stateRevision)]

/-- `_selection_event_id`. -/
def selectionEventId (codec : TextCodec) (scope : CatalogScope) (policyId : codec.Digest)
    (stateRevision : Int) (ordinal : Nat) (kind instrumentKey : String) : codec.Digest :=
  codec.sha256 (codec.encodeJson
    (selectionEventIdentity codec scope policyId stateRevision ordinal kind instrumentKey))

/-- An entry of a delta in the payload of its event. -/
def optionalEntryPayload (e : Option SelectionEntry) : Except Err Json :=
  e.elim (.ok .null) selectionEntryPayload

/-- The payload of the event of a delta. -/
def selectionPayload (r : ResultFields codec.toCatalogCodec) (stateRevision : Int)
    (d : SelectionDelta) : Except Err Json := do
  let current ← optionalEntryPayload d.1.current
  let previous ← optionalEntryPayload d.1.previous
  return .object [
    ("catalog_revision", .int r.catalogRevision),
    ("current", current),
    ("policy_id", .str (codec.hexdigest r.policyId)),
    ("previous", previous),
    ("state_revision", .int stateRevision),
    ("turnover_revision", .int r.turnoverRevision)]

/-- The event of a delta. -/
def selectionEventRow (r : ResultFields codec.toCatalogCodec) (stateRevision : Int)
    (delta : SelectionDelta × Nat) : Except Err (SelectionOutboxRow codec.toCatalogCodec) := do
  let payload ← selectionPayload r stateRevision delta.1
  return {
    eventId := selectionEventId codec r.scope r.policyId stateRevision delta.2
      (selectionKind delta.1) delta.1.1.instrumentKey
    policyId := r.policyId
    stateRevision
    catalogRevision := r.catalogRevision
    eventOrdinal := delta.2
    kind := selectionKind delta.1
    instrumentKey := delta.1.1.instrumentKey
    payloadJson := codec.encodeJson payload }

/-- The constraints of `selection_change_outbox` that a row violates among others. -/
def refusesEvent (outbox : List (SelectionOutboxRow codec.toCatalogCodec))
    (row : SelectionOutboxRow codec.toCatalogCodec) : Bool :=
  outbox.any (fun other => decide (other.eventId = row.eventId) ||
      decide ((other.policyId, other.stateRevision, other.eventOrdinal) =
        (row.policyId, row.stateRevision, row.eventOrdinal))) ||
    decide (row.stateRevision ≤ 0) || decide (row.catalogRevision ≤ 0)

/-- Insert the event of a delta. The ordinal has to be an integer of 64 bits. -/
def insertSelectionEvent (r : ResultFields codec.toCatalogCodec) (stateRevision : Int)
    (outbox : List (SelectionOutboxRow codec.toCatalogCodec)) (delta : SelectionDelta × Nat) :
    Except CatalogError (List (SelectionOutboxRow codec.toCatalogCodec)) := do
  let row ← raising (selectionEventRow r stateRevision delta)
  refuse (decide (maxInt64 < row.eventOrdinal)) .overflowError
  if refusesEvent outbox row then .error (.integrityError "selection_change_outbox")
  else .ok (outbox ++ [row])

/-! ## Loads -/

/-- `load_selection_state`. -/
def loadSelectionState (scope : CatalogScope) (policyId : codec.Digest) (t : Store codec) :
    Except CatalogError (Option (SelectionState codec.toCatalogCodec)) :=
  (t.selectionStates.get? policyId).elim (.ok none) fun row =>
    some <$> raising (selectionStateFromRow scope policyId row)

/-! ## `commit_selection` -/

/-- The checks of the expected revisions. -/
def expectationsCheck (expectedCatalog expectedTurnover : Int) (expectedState : Option Int) :
    Option Err :=
  positiveInt expectedCatalog "expected_catalog_revision" <|>
    nonnegativeInt expectedTurnover "expected_turnover_revision" <|>
    expectedState.bind (positiveInt · "expected_state_revision")

/-- The conflict of an entry of a result with the current catalog. -/
def entryConflict (current : Dict String CatalogInstrument) (e : String × SelectionEntry) :
    Option CatalogError :=
  if !(current.get? e.1).any fun item => item.1.equal e.2.1.instrument.1 then
    some (.selectionStateConflict "selection entry does not match the current catalog")
  else if !e.2.1.instrument.1.present || !e.2.1.instrument.1.tradable then
    some (.selectionStateConflict "selection entry must be present and tradable")
  else none

/-- `required_delta_keys`. -/
def requiredDeltaKeys (previous entries : Dict String SelectionEntry) : List String :=
  (previous.keys ∪ entries.keys).filter fun key =>
    !equalEntry (previous.get? key) (entries.get? key)

/-- The deltas are of the keys whose entries differ. -/
def sameDeltaKeys (deltas : List SelectionDelta) (previous entries : Dict String SelectionEntry) :
    Bool :=
  (deltas.all fun d => decide (d.1.instrumentKey ∈ requiredDeltaKeys previous entries)) &&
    (requiredDeltaKeys previous entries).all fun key =>
      decide (key ∈ deltas.map (·.1.instrumentKey))

/-- A delta has the entries of its key. -/
def sameDeltaValues (previous entries : Dict String SelectionEntry) (d : SelectionDelta) : Bool :=
  equalEntry d.1.previous (previous.get? d.1.instrumentKey) &&
    equalEntry d.1.current (entries.get? d.1.instrumentKey)

/-- The `CHECK` constraints of `selection_state`. -/
def SelectionRow.allowed (row : SelectionRow codec.toCatalogCodec) : Bool :=
  decide (0 < row.stateRevision) && decide (0 < row.catalogRevision) &&
    decide (0 ≤ row.turnoverRevision)

/-- The revisions of a result and of the catalog that a commit expects. -/
def revisionConflict (r : ResultFields codec.toCatalogCodec)
    (expectedCatalog expectedTurnover : Int) (t : Store codec) : Option CatalogError :=
  if t.state.map (·.revision) ≠ some expectedCatalog then
    some (.catalogRevisionConflict "expected catalog revision does not match current catalog")
  else if t.state.map (·.turnoverRevision) ≠ some expectedTurnover then
    some (.catalogRevisionConflict "expected turnover revision does not match current turnover")
  else if r.catalogRevision ≠ expectedCatalog ∨
      r.nextState.1.catalogRevision ≠ expectedCatalog then
    some (.catalogRevisionConflict
      "selection result catalog revision does not match expectation")
  else if r.turnoverRevision ≠ expectedTurnover ∨
      r.nextState.1.turnoverRevision ≠ expectedTurnover then
    some (.catalogRevisionConflict
      "selection result turnover revision does not match expectation")
  else none

/-- The revision of a state that may be missing. -/
def revisionOf (previous : Option (SelectionState codec.toCatalogCodec)) : Int :=
  previous.elim 0 (·.1.revision)

/-- The conflict of a result with the stored state of its policy. -/
def stateConflict (r : ResultFields codec.toCatalogCodec)
    (previous : Option (SelectionState codec.toCatalogCodec)) (expectedState : Option Int) :
    Option CatalogError :=
  if previous.map (·.1.revision) ≠ expectedState then
    some (.selectionStateConflict
      "expected state revision does not match persisted state revision")
  else if r.nextState.1.revision ≠ revisionOf previous then
    some (.selectionStateConflict
      "selection result was not derived from the expected state revision")
  else if !sameDeltaKeys r.deltas (previousEntries previous) r.entries then
    some (.selectionStateConflict
      "selection deltas do not match the persisted previous state")
  else if !r.deltas.all (sameDeltaValues (previousEntries previous) r.entries) then
    some (.selectionStateConflict
      "selection delta values do not match the persisted state")
  else none

/-- Store a state and insert the events of its deltas. -/
def writeSelection (r : ResultFields codec.toCatalogCodec)
    (persisted : SelectionState codec.toCatalogCodec) (t : Store codec) :
    Except CatalogError (Store codec) := do
  let payload ← raising (selectionStateEntriesPayload persisted.1.entries)
  let row : SelectionRow codec.toCatalogCodec := {
    stateRevision := persisted.1.revision
    catalogRevision := r.catalogRevision
    turnoverRevision := r.turnoverRevision
    entriesJson := codec.encodeJson payload }
  refuse (!row.allowed) (.integrityError "selection_state")
  let outbox ← r.deltas.zipIdx.foldlM (insertSelectionEvent r persisted.1.revision)
    t.selectionOutbox
  return { t with
    selectionStates := t.selectionStates.set r.policyId row
    selectionOutbox := outbox }

/-- `commit_selection`. -/
def commitSelection (result : SelectionResult codec.toCatalogCodec)
    (expectedCatalog expectedTurnover : Int) (expectedState : Option Int) (t : Store codec) :
    Except CatalogError (SelectionState codec.toCatalogCodec × Store codec) := do
  let r := result.1
  raising (checked (expectationsCheck expectedCatalog expectedTurnover expectedState) (.ok ()))
  checked (revisionConflict r expectedCatalog expectedTurnover t) (.ok ())
  let current ← loadPriorRecords r.scope t
  checked (r.entries.entries.findSome? (entryConflict current)) (.ok ())
  let previous ← loadSelectionState r.scope r.policyId t
  checked (stateConflict r previous expectedState) (.ok ())
  let persisted ← raising (selectionState { r.nextState.1 with
    revision := revisionOf previous + 1 })
  let t' ← writeSelection r persisted t
  return (persisted, t')

/-! ## What a commit does -/

/-- The events of the deltas of a result. -/
def EventsOf (r : ResultFields codec.toCatalogCodec) (stateRevision : Int)
    (deltas : List (SelectionDelta × Nat))
    (events : List (SelectionOutboxRow codec.toCatalogCodec)) : Prop :=
  List.Forall₂ (fun delta row => selectionEventRow r stateRevision delta = .ok row) deltas events

/-- The rows that a commit writes. -/
structure SelectionWritten (r : ResultFields codec.toCatalogCodec)
    (persisted : SelectionState codec.toCatalogCodec) (payload : Json)
    (events : List (SelectionOutboxRow codec.toCatalogCodec)) (t t' : Store codec) : Prop where
  encoded : selectionStateEntriesPayload persisted.1.entries = .ok payload
  told : EventsOf r persisted.1.revision r.deltas.zipIdx events
  ordinals : ∀ row ∈ events, (row.eventOrdinal : Int) ≤ maxInt64
  tables : t' = { t with
    selectionStates := t.selectionStates.set r.policyId {
      stateRevision := persisted.1.revision
      catalogRevision := r.catalogRevision
      turnoverRevision := r.turnoverRevision
      entriesJson := codec.encodeJson payload }
    selectionOutbox := t.selectionOutbox ++ events }

/-- What a commit that returns has checked, and what it writes. -/
structure SelectionCommitted (r : ResultFields codec.toCatalogCodec)
    (previous : Option (SelectionState codec.toCatalogCodec))
    (persisted : SelectionState codec.toCatalogCodec) (t t' : Store codec) : Prop where
  catalogRevision : t.state.map (·.revision) = some r.catalogRevision
  turnoverRevision : t.state.map (·.turnoverRevision) = some r.turnoverRevision
  current : ∃ current, loadPriorRecords r.scope t = .ok current ∧
    ∀ e ∈ r.entries.entries, entryConflict current e = none
  loaded : loadSelectionState r.scope r.policyId t = .ok previous
  revision : r.nextState.1.revision = revisionOf previous
  keys : sameDeltaKeys r.deltas (previousEntries previous) r.entries = true
  values : ∀ d ∈ r.deltas, sameDeltaValues (previousEntries previous) r.entries d = true
  stored : persisted.1 = { r.nextState.1 with
    revision := revisionOf previous + 1
    entries := r.nextState.1.entries.sorted }
  written : ∃ payload events, SelectionWritten r persisted payload events t t'

theorem exists_foldlM_insertSelectionEvent {r : ResultFields codec.toCatalogCodec}
    {stateRevision : Int} {deltas : List (SelectionDelta × Nat)}
    {outbox outbox' : List (SelectionOutboxRow codec.toCatalogCodec)}
    (h : deltas.foldlM (insertSelectionEvent r stateRevision) outbox = .ok outbox') :
    ∃ events, outbox' = outbox ++ events ∧ EventsOf r stateRevision deltas events ∧
      ∀ row ∈ events, (row.eventOrdinal : Int) ≤ maxInt64 := by
  induction deltas generalizing outbox with
  | nil =>
    cases h
    exact ⟨[], (List.append_nil _).symm, .nil, by simp⟩
  | cons delta deltas ih =>
    rw [List.foldlM_cons] at h
    obtain ⟨next, hnext, h⟩ := bind_eq_ok.1 h
    obtain ⟨row, hrow, hnext⟩ := bind_eq_ok.1 hnext
    obtain ⟨_, hordinal, hnext⟩ := bind_eq_ok.1 hnext
    obtain ⟨events, rfl, hevents, hordinals⟩ := ih h
    split_ifs at hnext
    cases hnext
    refine ⟨row :: events, by simp, .cons (raising_eq_ok.1 hrow) hevents, ?_⟩
    rw [List.forall_mem_cons]
    exact ⟨by simpa using hordinal, hordinals⟩

theorem written_of_writeSelection {r : ResultFields codec.toCatalogCodec}
    {persisted : SelectionState codec.toCatalogCodec} {t t' : Store codec}
    (h : writeSelection r persisted t = .ok t') :
    ∃ payload events, SelectionWritten r persisted payload events t t' := by
  obtain ⟨payload, hpayload, h⟩ := bind_eq_ok.1 h
  obtain ⟨_, -, h⟩ := bind_eq_ok.1 h
  obtain ⟨outbox, houtbox, h⟩ := bind_eq_ok.1 h
  obtain ⟨events, rfl, hevents, hordinals⟩ := exists_foldlM_insertSelectionEvent houtbox
  cases h
  exact ⟨payload, events, raising_eq_ok.1 hpayload, hevents, hordinals, rfl⟩

theorem ite_some_eq_none {α : Type} {c : Prop} [Decidable c] {a : α} {x : Option α} :
    (if c then some a else x) = none ↔ ¬ c ∧ x = none := by
  split_ifs with hc <;> simp [hc]

/-- What a commit that returns has checked, and what it writes. -/
theorem committed_of_commitSelection {result : SelectionResult codec.toCatalogCodec}
    {expectedCatalog expectedTurnover : Int} {expectedState : Option Int} {t t' : Store codec}
    {persisted : SelectionState codec.toCatalogCodec}
    (h : commitSelection result expectedCatalog expectedTurnover expectedState t =
      .ok (persisted, t')) : ∃ previous, SelectionCommitted result.1 previous persisted t t' := by
  obtain ⟨_, -, h⟩ := bind_eq_ok.1 h
  obtain ⟨_, hrevisions, h⟩ := bind_eq_ok.1 h
  obtain ⟨current, hcurrent, h⟩ := bind_eq_ok.1 h
  obtain ⟨_, hentries, h⟩ := bind_eq_ok.1 h
  obtain ⟨previous, hprevious, h⟩ := bind_eq_ok.1 h
  obtain ⟨_, hstate, h⟩ := bind_eq_ok.1 h
  obtain ⟨persisted', hpersisted, h⟩ := bind_eq_ok.1 h
  obtain ⟨written, hwritten, h⟩ := bind_eq_ok.1 h
  cases h
  have hrevisions := (checked_eq_ok.1 hrevisions).1
  have hstate := (checked_eq_ok.1 hstate).1
  simp only [revisionConflict, ite_some_eq_none, not_not, not_or] at hrevisions
  simp only [stateConflict, ite_some_eq_none, not_not, Bool.not_eq_true', Bool.not_eq_false,
    List.all_eq_true] at hstate
  obtain ⟨hcatalog, hturnover, ⟨hcatalog', -⟩, ⟨hturnover', -⟩, -⟩ := hrevisions
  obtain ⟨-, hrevision, hkeys, hvalues, -⟩ := hstate
  exact ⟨previous, {
    catalogRevision := by rw [hcatalog, hcatalog']
    turnoverRevision := by rw [hturnover, hturnover']
    current := ⟨current, hcurrent,
      List.findSome?_eq_none_iff.1 (checked_eq_ok.1 hentries).1⟩
    loaded := hprevious
    revision := hrevision
    keys := hkeys
    values := hvalues
    stored := construct_eq_ok.1 (raising_eq_ok.1 hpersisted)
    written := written_of_writeSelection hwritten }⟩

/-- The next state of a result has its scope, its policy and its revisions. -/
theorem nextState_of_check (result : SelectionResult codec.toCatalogCodec) :
    (result.1.nextState.1.scope, result.1.nextState.1.catalogRevision,
      result.1.nextState.1.turnoverRevision, result.1.nextState.1.policyId) =
        (result.1.scope, result.1.catalogRevision, result.1.turnoverRevision,
          result.1.policyId) ∧
      equalEntries result.1.nextState.1.entries result.1.entries = true := by
  have h := result.2
  simp only [ResultFields.check, orElse_eq_none, Storage.refuseIf_eq_none, Bool.or_eq_false_iff,
    decide_eq_false_iff_not, not_not, Bool.not_eq_false'] at h
  exact h.2.2.2.1

/-- The state that is loaded after a commit is the committed one. -/
theorem loadSelectionState_of_committed {result : SelectionResult codec.toCatalogCodec}
    {previous : Option (SelectionState codec.toCatalogCodec)}
    {persisted : SelectionState codec.toCatalogCodec} {t t' : Store codec}
    (h : SelectionCommitted result.1 previous persisted t t') :
    loadSelectionState result.1.scope result.1.policyId t' = .ok (some persisted) := by
  obtain ⟨payload, events, hwritten⟩ := h.written
  obtain ⟨hsame, -⟩ := nextState_of_check result
  simp only [Prod.mk.injEq] at hsame
  obtain ⟨hscope, hcatalog, hturnover, hpolicy⟩ := hsame
  have hsorted : persisted.1.entries.sorted = persisted.1.entries := by
    rw [h.stored]
    exact Dict.sorted_eq_self (Dict.pairwise_keys_sorted _)
  have hrow := selectionStateFromRow_payload hsorted hwritten.encoded
  have hscope' : persisted.1.scope = result.1.scope := by rw [h.stored, hscope]
  have hcatalog' : persisted.1.catalogRevision = result.1.catalogRevision := by
    rw [h.stored, hcatalog]
  have hturnover' : persisted.1.turnoverRevision = result.1.turnoverRevision := by
    rw [h.stored, hturnover]
  have hpolicy' : persisted.1.policyId = result.1.policyId := by rw [h.stored, hpolicy]
  rw [hscope', hcatalog', hturnover', hpolicy'] at hrow
  rw [loadSelectionState, hwritten.tables]
  simp only [Dict.get?_set_self, Option.elim_some, hrow]
  rfl

/-- A commit keeps the states of the other policies. -/
theorem loadSelectionState_of_ne {r : ResultFields codec.toCatalogCodec}
    {previous : Option (SelectionState codec.toCatalogCodec)}
    {persisted : SelectionState codec.toCatalogCodec} {t t' : Store codec}
    (h : SelectionCommitted r previous persisted t t') (scope : CatalogScope)
    {policyId : codec.Digest} (hpolicy : policyId ≠ r.policyId) :
    loadSelectionState scope policyId t' = loadSelectionState scope policyId t := by
  obtain ⟨payload, events, hwritten⟩ := h.written
  rw [loadSelectionState, loadSelectionState, hwritten.tables]
  simp only [Dict.get?_set_ne _ _ hpolicy]

end CryptoCollector.Selection
