import CryptoCollector.Selection.Store

/-!
# What a snapshot writes

A row is the row of one instrument, so the tables record instruments. `Movement` says what applying
a snapshot does to the record of a key.

* `moved_of_applyNewSnapshot`: the records before and after a snapshot.
* `outbox_of_applyNewSnapshot`: its events come after those of the tables.
-/

namespace CryptoCollector.Selection

open Lib
open Storage (Err Json)

variable {codec : CatalogCodec}

/-! ## Records -/

/-- The row is the row of an instrument of a scope and a key. -/
structure RowOf (scope : CatalogScope) (key : String) (row : InstrumentRow codec)
    (item : CatalogInstrument) : Prop where
  row_eq : InstrumentRow.ofInstrument codec item = .ok row
  key_eq : item.1.instrumentKey = key
  scope_eq : item.1.scope = scope

/-- What the tables record under a key. -/
def Records (scope : CatalogScope) (t : Tables codec) (key : String) :
    Option CatalogInstrument → Prop
  | none => t.instruments.get? key = none
  | some item => ∃ row, t.instruments.get? key = some row ∧ RowOf scope key row item

/-- The tables record something under every key. -/
def Tables.Encoded (scope : CatalogScope) (t : Tables codec) : Prop :=
  ∀ key, ∃ r, Records scope t key r

theorem RowOf.unique {scope : CatalogScope} {key : String} {row : InstrumentRow codec}
    {item other : CatalogInstrument} (h : RowOf scope key row item)
    (h' : RowOf scope key row other) : item = other :=
  InstrumentRow.ofInstrument_inj h.row_eq h'.row_eq (h.scope_eq.trans h'.scope_eq.symm)
    (h.key_eq.trans h'.key_eq.symm)

/-- The tables record one thing under a key. -/
theorem Records.unique {scope : CatalogScope} {t : Tables codec} {key : String}
    {r r' : Option CatalogInstrument} (h : Records scope t key r) (h' : Records scope t key r') :
    r = r' := by
  cases r with
  | none =>
    cases r' with
    | none => rfl
    | some item =>
      obtain ⟨row, hrow, -⟩ := h'
      rw [Records] at h
      simp [h] at hrow
  | some item =>
    obtain ⟨row, hrow, hitem⟩ := h
    cases r' with
    | none =>
      rw [Records] at h'
      simp [h'] at hrow
    | some other =>
      obtain ⟨row', hrow', hother⟩ := h'
      rw [hrow] at hrow'
      cases hrow'
      rw [hitem.unique hother]

theorem RowOf.toInstrument {scope : CatalogScope} {key : String} {row : InstrumentRow codec}
    {item other : CatalogInstrument} (h : RowOf scope key row item)
    (hload : row.toInstrument scope key = .ok other) : other = item := by
  have hrow := InstrumentRow.toInstrument_ofInstrument h.row_eq
  rw [h.scope_eq, h.key_eq, hload] at hrow
  split_ifs at hrow
  exact Except.ok.inj hrow

/-- The prior records are what the tables record. -/
theorem records_of_loadPriorRecords {scope : CatalogScope} {t : Tables codec}
    {prior : Dict String CatalogInstrument} (ht : t.Encoded scope)
    (h : loadPriorRecords scope t = .ok prior) (key : String) :
    Records scope t key (prior.get? key) := by
  have hload := raising_eq_ok.1 h
  cases hprior : prior.get? key with
  | none =>
    rw [Dict.get?_eq_none, Dict.keys_of_mapValuesM hload] at hprior
    exact Dict.get?_eq_none.2 hprior
  | some item =>
    obtain ⟨row, hrow, hitem⟩ := Dict.exists_of_mapValuesM hload hprior
    obtain ⟨r, hr⟩ := ht key
    cases r with
    | none =>
      rw [Records] at hr
      simp [hr] at hrow
    | some other =>
      obtain ⟨row', hrow', hother⟩ := hr
      rw [hrow] at hrow'
      cases hrow'
      rw [hother.toInstrument hitem]
      exact ⟨row, hrow, hother⟩

/-! ## Folds of writes -/

theorem get?_foldlM_removeInstrument {keys : List String}
    {rows rows' : Dict String (InstrumentRow codec)}
    (h : keys.foldlM removeInstrument rows = .ok rows') (key : String) :
    rows'.get? key = if key ∈ keys then (rows.get? key).map fun row => { row with present := 0 }
      else rows.get? key := by
  induction keys generalizing rows with
  | nil =>
    cases h
    simp
  | cons first keys ih =>
    obtain ⟨middle, hmiddle, h⟩ := bind_eq_ok.1 h
    unfold removeInstrument at hmiddle
    dsimp only at hmiddle
    split_ifs at hmiddle
    cases hmiddle
    rw [ih h, Dict.get?_update]
    by_cases hfirst : key = first <;> by_cases hkey : key ∈ keys <;>
      simp [hfirst, hkey, Option.map_map, Function.comp_def]

/-- The row that an upsert writes over another row. -/
def upserted (old : Option (InstrumentRow codec)) (row : InstrumentRow codec) :
    InstrumentRow codec :=
  { row with firstSeenNs := old.elim row.firstSeenNs (·.firstSeenNs), present := 1 }

theorem upsertInstrument_eq_ok {rows rows' : Dict String (InstrumentRow codec)}
    {item : CatalogInstrument} (h : upsertInstrument rows item = .ok rows') :
    ∃ row, InstrumentRow.ofInstrument codec item = .ok row ∧
      rows' = rows.set item.1.instrumentKey (upserted (rows.get? item.1.instrumentKey) row) := by
  obtain ⟨row, hrow, h⟩ := bind_eq_ok.1 h
  dsimp only at h
  split_ifs at h
  cases h
  exact ⟨row, raising_eq_ok.1 hrow, rfl⟩

theorem get?_foldlM_upsertInstrument {items : List CatalogInstrument}
    {rows rows' : Dict String (InstrumentRow codec)}
    (hnodup : (items.map (·.1.instrumentKey)).Nodup)
    (h : items.foldlM upsertInstrument rows = .ok rows') :
    (∀ key ∉ items.map (·.1.instrumentKey), rows'.get? key = rows.get? key) ∧
      ∀ item ∈ items, ∃ row, InstrumentRow.ofInstrument codec item = .ok row ∧
        rows'.get? item.1.instrumentKey =
          some (upserted (rows.get? item.1.instrumentKey) row) := by
  induction items generalizing rows with
  | nil =>
    cases h
    simp
  | cons first items ih =>
    obtain ⟨middle, hmiddle, h⟩ := bind_eq_ok.1 h
    obtain ⟨row, hrow, rfl⟩ := upsertInstrument_eq_ok hmiddle
    rw [List.map_cons, List.nodup_cons] at hnodup
    obtain ⟨hout, hin⟩ := ih hnodup.2 h
    refine ⟨?_, ?_⟩
    · intro key hkey
      rw [List.map_cons, List.mem_cons, not_or] at hkey
      rw [hout key hkey.2, Dict.get?_set_ne _ _ hkey.1]
    · intro item hitem
      rcases List.mem_cons.1 hitem with rfl | hitem
      · exact ⟨row, hrow, by rw [hout _ hnodup.1, Dict.get?_set_self]⟩
      · have hne : item.1.instrumentKey ≠ first.1.instrumentKey := fun heq =>
          hnodup.1 (heq ▸ List.mem_map_of_mem hitem)
        obtain ⟨row', hrow', hget⟩ := hin item hitem
        exact ⟨row', hrow', by rw [hget, Dict.get?_set_ne _ _ hne]⟩

theorem foldlM_insertEvent {events outbox outbox' : List (OutboxRow codec)}
    (h : events.foldlM insertEvent outbox = .ok outbox') : outbox' = outbox ++ events := by
  induction events generalizing outbox with
  | nil =>
    cases h
    simp
  | cons event events ih =>
    obtain ⟨middle, hmiddle, h⟩ := bind_eq_ok.1 h
    unfold insertEvent at hmiddle
    split_ifs at hmiddle
    cases hmiddle
    rw [ih h, List.append_assoc, List.singleton_append]

/-! ## Plans -/

/-- What a plan was made of. -/
structure Planned (s : CatalogSnapshotFields) (lookback : Int) (t : Tables codec)
    (prior : Dict String CatalogInstrument) (announcements : List CatalogDelta)
    (p : Plan codec) : Prop where
  prior_eq : loadPriorRecords s.scope t = .ok prior
  revision : p.revision = t.state.elim 1 (·.revision + 1)
  outcomes : List.Forall₂
    (fun record o => outcome lookback s.observedAtNs t.state.isNone prior record = .ok o)
    (sortedBy (·.1.instrumentKey) s.instruments) p.outcomes
  removed : removedInstruments prior p.outcomes = .ok p.removed
  confirmed : p.confirmed =
    confirmedMatches s.observedAtNs t.hints (p.outcomes.map (·.current))
  announcements_eq : p.confirmed.mapM (announcementDelta s.scope s.observedAtNs) =
    .ok announcements
  deltas : p.deltas = catalogDeltas p.outcomes p.removed announcements
  events : eventRows codec s.scope p.revision p.deltas = .ok p.events

theorem mapM_checkedDelta {deltas deltas' : List CatalogDelta}
    (h : deltas.mapM checkedDelta = .ok deltas') : deltas' = deltas := by
  have hall := forall₂_of_mapM h
  clear h
  induction hall with
  | nil => rfl
  | cons hdelta _ ih =>
    obtain ⟨-, hdelta⟩ := checked_eq_ok.1 hdelta
    rw [ih, Except.ok.inj hdelta]

theorem planned_of_planSnapshot {s : CatalogSnapshotFields} {lookback : Int} {t : Tables codec}
    {p : Plan codec} (h : planSnapshot s lookback t = .ok p) :
    ∃ prior announcements, Planned s lookback t prior announcements p := by
  obtain ⟨prior, hprior, h⟩ := bind_eq_ok.1 h
  obtain ⟨outcomes, houtcomes, h⟩ := bind_eq_ok.1 h
  obtain ⟨removed, hremoved, h⟩ := bind_eq_ok.1 h
  obtain ⟨announcements, hannouncements, h⟩ := bind_eq_ok.1 h
  obtain ⟨deltas, hdeltas, h⟩ := bind_eq_ok.1 h
  obtain ⟨events, hevents, h⟩ := bind_eq_ok.1 h
  cases h
  exact ⟨prior, announcements, {
    prior_eq := hprior
    revision := rfl
    outcomes := forall₂_of_mapM (raising_eq_ok.1 houtcomes)
    removed := raising_eq_ok.1 hremoved
    confirmed := rfl
    announcements_eq := raising_eq_ok.1 hannouncements
    deltas := mapM_checkedDelta (raising_eq_ok.1 hdeltas)
    events := raising_eq_ok.1 hevents }⟩

/-- What was written for a plan. -/
structure Written (s : CatalogSnapshotFields) (digest : codec.Digest) (p : Plan codec)
    (t t' : Tables codec) : Prop where
  revision : p.revision ≤ maxInt64
  instruments : ∃ rows,
    (p.removed.map (·.2.1.instrumentKey)).foldlM removeInstrument t.instruments = .ok rows ∧
      (p.outcomes.map (·.current)).foldlM upsertInstrument rows = .ok t'.instruments
  hints : (p.confirmed.map (·.1.1)).foldlM (confirmHint s.observedAtNs) t.hints = .ok t'.hints
  outbox : t'.outbox = t.outbox ++ p.events
  state : t'.state = some {
    lastObservedAtNs := s.observedAtNs
    snapshotDigest := digest
    revision := p.revision
    snapshotId := s.snapshotId
    pageRawReferencesJson :=
      codec.encodeJson (.list (s.pages.map fun page => .str page.1.rawReference))
    turnover := t.state.bind (·.turnover) }
  selectionStates : t'.selectionStates = t.selectionStates
  selectionOutbox : t'.selectionOutbox = t.selectionOutbox

theorem written_of_writePlan {s : CatalogSnapshotFields} {digest : codec.Digest} {p : Plan codec}
    {t t' : Tables codec} (h : writePlan s digest p t = .ok t') : Written s digest p t t' := by
  obtain ⟨_, hrevision, h⟩ := bind_eq_ok.1 h
  obtain ⟨removed, hremoved, h⟩ := bind_eq_ok.1 h
  obtain ⟨rows, hrows, h⟩ := bind_eq_ok.1 h
  obtain ⟨hints, hhints, h⟩ := bind_eq_ok.1 h
  obtain ⟨outbox, houtbox, h⟩ := bind_eq_ok.1 h
  obtain ⟨state, hstate, h⟩ := bind_eq_ok.1 h
  cases h
  unfold upsertScope at hstate
  dsimp only at hstate
  split_ifs at hstate
  exact {
    revision := by simpa using hrevision
    instruments := ⟨removed, hremoved, hrows⟩
    hints := hhints
    outbox := foldlM_insertEvent houtbox
    state := (Except.ok.inj hstate).symm
    selectionStates := rfl
    selectionOutbox := rfl }

theorem applyNewSnapshot_eq_ok {s : CatalogSnapshotFields} {lookback : Int}
    {digest : codec.Digest} {t t' : Tables codec} {changes : CatalogChanges codec}
    (h : applyNewSnapshot s lookback digest t = .ok (changes, t')) :
    ∃ prior announcements p, Planned s lookback t prior announcements p ∧
      Written s digest p t t' ∧ changes = planChanges s digest t.state.isNone p := by
  obtain ⟨p, hp, h⟩ := bind_eq_ok.1 h
  obtain ⟨t'', ht, h⟩ := bind_eq_ok.1 h
  obtain ⟨changes', hchanges, h⟩ := bind_eq_ok.1 h
  cases h
  obtain ⟨prior, announcements, hplanned⟩ := planned_of_planSnapshot hp
  obtain ⟨-, hchanges⟩ := checked_eq_ok.1 (raising_eq_ok.1 hchanges)
  exact ⟨prior, announcements, p, hplanned, written_of_writePlan ht,
    (Except.ok.inj hchanges).symm⟩

/-! ## Movements -/

/-- What applying a snapshot does to the record of a key; whether that is a new listing. -/
inductive Movement (s : CatalogSnapshotFields) (lookback : Int) (isInitial : Bool) (key : String) :
    Option CatalogInstrument → Bool → Option CatalogInstrument → Prop
  | seen {r : Option CatalogInstrument} {isNew : Bool} {n : CatalogInstrument}
      (record : InstrumentRecord) (hrecord : record ∈ s.instruments)
      (hkey : record.1.instrumentKey = key)
      (h : transition lookback s.observedAtNs isInitial record r = .ok (n, isNew)) :
      Movement s lookback isInitial key r isNew (some n)
  | removed {o n : CatalogInstrument} (hkey : key ∉ s.instruments.map (·.1.instrumentKey))
      (hpresent : o.1.present = true) (h : n.1 = { o.1 with present := false }) :
      Movement s lookback isInitial key (some o) false (some n)
  | kept {r : Option CatalogInstrument} (hkey : key ∉ s.instruments.map (·.1.instrumentKey))
      (hpresent : ∀ o ∈ r, o.1.present = false) : Movement s lookback isInitial key r false r

theorem outcome_eq_ok {lookback observedAt : Int} {isInitial : Bool}
    {prior : Dict String CatalogInstrument} {record : InstrumentRecord} {o : Outcome}
    (h : outcome lookback observedAt isInitial prior record = .ok o) :
    o.previous = prior.get? record.1.instrumentKey ∧
      transition lookback observedAt isInitial record (prior.get? record.1.instrumentKey) =
        .ok (o.current, o.isNewListing) := by
  obtain ⟨⟨item, isNew⟩, htransition, h⟩ := bind_eq_ok.1 h
  cases h
  exact ⟨rfl, htransition⟩

theorem removed_of_removedInstruments {prior : Dict String CatalogInstrument}
    {outcomes : List Outcome} {removed : List (CatalogInstrument × CatalogInstrument)}
    (h : removedInstruments prior outcomes = .ok removed) :
    List.Forall₂ (fun entry item => item.1 = entry.2 ∧
        item.2.1 = { entry.2.1 with present := false })
      (sortedBy Prod.fst (prior.entries.filter fun entry => entry.2.1.present &&
        decide (entry.1 ∉ outcomes.map (·.current.1.instrumentKey)))) removed := by
  refine (forall₂_of_mapM h).imp ?_
  intro entry item hitem
  cases hpresence : withoutPresence entry.2 with
  | error e => simp [hpresence, Except.map] at hitem
  | ok other =>
    simp only [hpresence, Except.map, Except.ok.injEq] at hitem
    rw [← hitem]
    exact ⟨rfl, construct_eq_ok.1 hpresence⟩

namespace Planned

variable {s : CatalogSnapshotFields} {lookback : Int} {t : Tables codec}
  {prior : Dict String CatalogInstrument} {announcements : List CatalogDelta} {p : Plan codec}

theorem keys_eq (h : Planned s lookback t prior announcements p) :
    p.outcomes.map (·.current.1.instrumentKey) =
      (sortedBy (·.1.instrumentKey) s.instruments).map (·.1.instrumentKey) :=
  map_eq_of_forall₂ h.outcomes fun _ _ ho =>
    (identity_of_transition (outcome_eq_ok ho).2).1

theorem keys_perm (h : Planned s lookback t prior announcements p) :
    (p.outcomes.map (·.current.1.instrumentKey)).Perm (s.instruments.map (·.1.instrumentKey)) :=
  h.keys_eq ▸ (sortedBy_perm _ _).map _

theorem keys_nodup (h : Planned s lookback t prior announcements p) (hs : s.Valid) :
    (p.outcomes.map (·.current.1.instrumentKey)).Nodup :=
  h.keys_perm.nodup_iff.2 hs.keys

theorem outcome_of_mem (h : Planned s lookback t prior announcements p)
    {record : InstrumentRecord} (hrecord : record ∈ s.instruments) :
    ∃ o ∈ p.outcomes, o.previous = prior.get? record.1.instrumentKey ∧
      transition lookback s.observedAtNs t.state.isNone record
        (prior.get? record.1.instrumentKey) = .ok (o.current, o.isNewListing) := by
  obtain ⟨o, ho, houtcome⟩ := exists_right_of_forall₂ h.outcomes (mem_sortedBy.2 hrecord)
  exact ⟨o, ho, outcome_eq_ok houtcome⟩

theorem record_of_mem (h : Planned s lookback t prior announcements p) {o : Outcome}
    (ho : o ∈ p.outcomes) : ∃ record ∈ s.instruments,
      o.previous = prior.get? record.1.instrumentKey ∧
      transition lookback s.observedAtNs t.state.isNone record
        (prior.get? record.1.instrumentKey) = .ok (o.current, o.isNewListing) := by
  obtain ⟨record, hrecord, houtcome⟩ := exists_left_of_forall₂ h.outcomes ho
  exact ⟨record, mem_sortedBy.1 hrecord, outcome_eq_ok houtcome⟩

theorem mem_keys_iff (h : Planned s lookback t prior announcements p) {key : String} :
    key ∈ p.outcomes.map (·.current.1.instrumentKey) ↔
      key ∈ s.instruments.map (·.1.instrumentKey) :=
  h.keys_perm.mem_iff

/-- What is removed was recorded as present and is not reported. -/
theorem of_mem_removed (h : Planned s lookback t prior announcements p) (ht : t.Encoded s.scope)
    {item : CatalogInstrument × CatalogInstrument} (hitem : item ∈ p.removed) :
    prior.get? item.1.1.instrumentKey = some item.1 ∧ item.1.1.present = true ∧
      item.1.1.instrumentKey ∉ s.instruments.map (·.1.instrumentKey) ∧
      item.2.1 = { item.1.1 with present := false } := by
  obtain ⟨entry, hentry, hold, hnew⟩ :=
    exists_left_of_forall₂ (removed_of_removedInstruments h.removed) hitem
  simp only [mem_sortedBy, List.mem_filter, Bool.and_eq_true, decide_eq_true_eq] at hentry
  obtain ⟨hmem, hpresent, hkey⟩ := hentry
  have hget : prior.get? entry.1 = some entry.2 := Dict.get?_eq_some.2 hmem
  have hrecords := records_of_loadPriorRecords ht h.prior_eq entry.1
  rw [hget] at hrecords
  obtain ⟨row, -, hrow⟩ := hrecords
  rw [hold, hrow.key_eq]
  exact ⟨hget, hpresent, fun hmem => hkey (h.mem_keys_iff.2 hmem), hnew⟩

/-- What was recorded as present and is not reported is removed. -/
theorem mem_removed (h : Planned s lookback t prior announcements p) {key : String}
    {old : CatalogInstrument} (hold : prior.get? key = some old) (hpresent : old.1.present = true)
    (hkey : key ∉ s.instruments.map (·.1.instrumentKey)) :
    ∃ item ∈ p.removed, item.1 = old ∧ item.2.1 = { old.1 with present := false } := by
  have hentry : (key, old) ∈ sortedBy Prod.fst (prior.entries.filter fun entry =>
      entry.2.1.present &&
        decide (entry.1 ∉ p.outcomes.map (·.current.1.instrumentKey))) := by
    simp only [mem_sortedBy, List.mem_filter, Bool.and_eq_true, decide_eq_true_eq]
    exact ⟨Dict.get?_eq_some.1 hold, hpresent, fun hmem => hkey (h.mem_keys_iff.1 hmem)⟩
  obtain ⟨item, hitem, heq, hnew⟩ :=
    exists_right_of_forall₂ (removed_of_removedInstruments h.removed) hentry
  exact ⟨item, hitem, heq, hnew⟩

end Planned

/-- The row of an instrument that was seen again is the row of its record. -/
theorem upserted_ofInstrument {old : Option (InstrumentRow codec)} {row : InstrumentRow codec}
    {item : CatalogInstrument} (hrow : InstrumentRow.ofInstrument codec item = .ok row)
    (hpresent : item.1.present = true)
    (hfirst : ∀ before ∈ old, before.firstSeenNs = item.1.firstSeenNs) :
    upserted old row = row := by
  obtain ⟨hseen, hpresence⟩ := InstrumentRow.seen_ofInstrument hrow
  have hone : row.present = 1 := by rw [hpresence, hpresent]; rfl
  have hsame : old.elim row.firstSeenNs (·.firstSeenNs) = row.firstSeenNs := by
    cases old with
    | none => rfl
    | some before => exact (hfirst before rfl).trans hseen.symm
  rw [upserted, hsame, ← hone]

/-- What a transition records is present, and it was first seen when the prior record was. -/
theorem seen_of_transition {lookback observedAt : Int} {isInitial : Bool}
    {record : InstrumentRecord} {old : Option CatalogInstrument} {item : CatalogInstrument}
    {isNew : Bool} (h : transition lookback observedAt isInitial record old = .ok (item, isNew)) :
    item.1.present = true ∧ item.1.lastSeenNs = observedAt ∧
      ∀ o ∈ old, item.1.firstSeenNs = o.1.firstSeenNs := by
  cases old with
  | none =>
    have := sighted_of_transition h
    exact ⟨this.present, this.lastSeenNs, by simp⟩
  | some o =>
    have := resighted_of_transition h
    refine ⟨this.present, this.lastSeenNs, ?_⟩
    intro o' ho'
    cases ho'
    exact this.firstSeenNs

/-- The upsert of an outcome writes the row of its instrument. -/
theorem Planned.upserted_eq {s : CatalogSnapshotFields} {lookback : Int} {t : Tables codec}
    {prior : Dict String CatalogInstrument} {announcements : List CatalogDelta} {p : Plan codec}
    (ht : t.Encoded s.scope) (h : Planned s lookback t prior announcements p)
    {rows : Dict String (InstrumentRow codec)}
    (hremoved : (p.removed.map (·.2.1.instrumentKey)).foldlM removeInstrument t.instruments =
      .ok rows) {o : Outcome} (ho : o ∈ p.outcomes) {row : InstrumentRow codec}
    (hrow : InstrumentRow.ofInstrument codec o.current = .ok row) :
    upserted (rows.get? o.current.1.instrumentKey) row = row := by
  obtain ⟨record, hrecord, -, htransition⟩ := h.record_of_mem ho
  have hidentity := (identity_of_transition htransition).1
  obtain ⟨hpresent, -, hfirst⟩ := seen_of_transition htransition
  have hnot : record.1.instrumentKey ∉ p.removed.map (·.2.1.instrumentKey) := by
    intro hmem
    obtain ⟨item, hitem, heq⟩ := List.mem_map.1 hmem
    obtain ⟨-, -, hgone, hnew⟩ := h.of_mem_removed ht hitem
    rw [hnew] at heq
    exact hgone (heq ▸ List.mem_map_of_mem hrecord)
  have hrows := get?_foldlM_removeInstrument hremoved record.1.instrumentKey
  have hprior := records_of_loadPriorRecords ht h.prior_eq record.1.instrumentKey
  rw [if_neg hnot] at hrows
  rw [hidentity]
  refine upserted_ofInstrument hrow hpresent ?_
  intro before hbefore
  rw [Option.mem_def, hrows] at hbefore
  cases hold : prior.get? record.1.instrumentKey with
  | none =>
    rw [hold, Records, hbefore] at hprior
    cases hprior
  | some old =>
    rw [hold] at hprior
    obtain ⟨row', hrow', hof⟩ := hprior
    rw [hbefore] at hrow'
    cases hrow'
    rw [(InstrumentRow.seen_ofInstrument hof.row_eq).1]
    exact (hfirst old hold).symm

/-- The records before and after a snapshot. -/
theorem moved_of_written {s : CatalogSnapshotFields} {lookback : Int} {digest : codec.Digest}
    {t t' : Tables codec} {prior : Dict String CatalogInstrument}
    {announcements : List CatalogDelta} {p : Plan codec} (hs : s.Valid)
    (ht : t.Encoded s.scope) (hplan : Planned s lookback t prior announcements p)
    (hwritten : Written s digest p t t') (key : String) :
    ∃ isNew r', Movement s lookback t.state.isNone key (prior.get? key) isNew r' ∧
      Records s.scope t' key r' ∧
      (isNew = true ↔ key ∈ ((p.outcomes.filter (·.isNewListing)).map (·.current)).map
        (·.1.instrumentKey)) := by
  obtain ⟨rows, hremoved, hupserted⟩ := hwritten.instruments
  have hnodup : ((p.outcomes.map (·.current)).map (·.1.instrumentKey)).Nodup := by
    simpa [Function.comp_def] using hplan.keys_nodup hs
  obtain ⟨hout, hin⟩ := get?_foldlM_upsertInstrument hnodup hupserted
  have hrows := get?_foldlM_removeInstrument hremoved key
  have hprior := records_of_loadPriorRecords ht hplan.prior_eq key
  by_cases hkey : key ∈ s.instruments.map (·.1.instrumentKey)
  · -- The instrument is reported: its record is the current one of an outcome.
    obtain ⟨record, hrecord, rfl⟩ := List.mem_map.1 hkey
    obtain ⟨o, ho, -, htransition⟩ := hplan.outcome_of_mem hrecord
    obtain ⟨hidentity, hscope⟩ := identity_of_transition htransition
    obtain ⟨row, hrow, hget⟩ := hin o.current (List.mem_map_of_mem ho)
    have hsame := hplan.upserted_eq ht hremoved ho hrow
    rw [hidentity] at hsame
    rw [hidentity, hsame] at hget
    refine ⟨o.isNewListing, some o.current, .seen record hrecord rfl htransition,
      ⟨row, hget, hrow, hidentity, hscope.trans (hs.scope record hrecord)⟩, ?_⟩
    constructor
    · intro hnew
      exact hidentity ▸ List.mem_map_of_mem
        (List.mem_map_of_mem (List.mem_filter.2 ⟨ho, hnew⟩))
    · intro hmem
      simp only [List.map_map, List.mem_map, List.mem_filter, Function.comp_apply] at hmem
      obtain ⟨other, ⟨hother, hnew⟩, heq⟩ := hmem
      have hsameKey := keyed_of_nodup_map (hplan.keys_nodup hs) other hother o ho
        (heq.trans hidentity.symm)
      rw [← hsameKey]
      exact hnew
  · -- The instrument is not reported.
    have hold := hout key (by
      simpa [Function.comp_def] using fun h => hkey (hplan.mem_keys_iff.1 h))
    have hnotNew : key ∉ ((p.outcomes.filter (·.isNewListing)).map (·.current)).map
        (·.1.instrumentKey) := by
      intro hmem
      simp only [List.map_map, List.mem_map, List.mem_filter, Function.comp_apply] at hmem
      obtain ⟨other, ⟨hother, -⟩, heq⟩ := hmem
      exact hkey (hplan.mem_keys_iff.1 (heq ▸ List.mem_map_of_mem hother))
    have hfalse : false = true ↔ key ∈ ((p.outcomes.filter (·.isNewListing)).map
        (·.current)).map (·.1.instrumentKey) := by
      simpa using hnotNew
    by_cases hremove : key ∈ p.removed.map (·.2.1.instrumentKey)
    · obtain ⟨item, hitem, hitemKey⟩ := List.mem_map.1 hremove
      obtain ⟨hget, hpresent, -, hnew⟩ := hplan.of_mem_removed ht hitem
      have hsameKey : item.1.1.instrumentKey = key := by
        rw [← hitemKey, hnew]
      rw [hsameKey] at hget
      rw [hget] at hprior ⊢
      obtain ⟨row, hrow, hof⟩ := hprior
      rw [if_pos hremove, hrow] at hrows
      refine ⟨false, some item.2, .removed hkey hpresent hnew,
        ⟨_, hold.trans hrows, InstrumentRow.ofInstrument_removed hof.row_eq hnew, hitemKey, ?_⟩,
        hfalse⟩
      rw [hnew]
      exact hof.scope_eq
    · rw [if_neg hremove] at hrows
      refine ⟨false, prior.get? key, .kept hkey ?_, ?_, hfalse⟩
      · intro o ho
        cases hpresent : o.1.present
        · rfl
        · obtain ⟨item, hitem, -, hnew⟩ := hplan.mem_removed ho hpresent hkey
          obtain ⟨hget, -, -, hnew'⟩ := hplan.of_mem_removed ht hitem
          have hrecords := hprior
          rw [ho] at hrecords
          obtain ⟨row, -, hof⟩ := hrecords
          refine absurd (List.mem_map.2 ⟨item, hitem, ?_⟩) hremove
          rw [hnew]
          exact hof.key_eq
      · cases hr : prior.get? key with
        | none =>
          rw [hr, Records] at hprior
          rw [Records, hold, hrows, hprior]
        | some item =>
          rw [hr] at hprior
          obtain ⟨row, hrow, hof⟩ := hprior
          exact ⟨row, hold.trans (hrows.trans hrow), hof⟩

end CryptoCollector.Selection
