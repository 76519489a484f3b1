import CryptoCollector.Selection.Reload
import CryptoCollector.Selection.Totality

/-!
# Writes that commit

A snapshot that matches the tables is planned, written and reported without an error, and the
tables stay loadable.

* `exists_plan`: the plan of a snapshot.
* `exists_written`: its write.
* `check_planChanges`: its report.
* `loadable_written`: the tables after it.
-/

namespace CryptoCollector.Selection

open Lib
open Storage (Err Json)

variable {codec : CatalogCodec}

/-! ## Plans -/

section Plans

variable {s : CatalogSnapshotFields} {t : Tables codec}

/-- What a snapshot has to be for its plan to be made. -/
structure Plannable (s : CatalogSnapshotFields) (t : Tables codec) : Prop where
  later : ∀ state ∈ t.state, state.lastObservedAtNs < s.observedAtNs
  sources : ∀ record ∈ s.instruments, record.1.tradableAtSource ≠ some .firstTradableSeen
  lifecycles : ∀ record ∈ s.instruments, Reloads record.1.lifecycle
  revision : ∀ state ∈ t.state, state.revision < maxInt64
  count : (3 * s.instruments.length + t.instruments.entries.length + t.hints.entries.length : Int) ≤
    maxInt64

/-- What is known of an instrument that was recorded before a snapshot. -/
structure Prior (s : CatalogSnapshotFields) (key : String) (o : CatalogInstrument) : Prop where
  key_eq : o.1.instrumentKey = key
  scope_eq : o.1.scope = s.scope
  earlier : o.1.lastSeenNs < s.observedAtNs
  lifecycle : Reloads o.1.lifecycle
  generation : o.1.listingGeneration < maxInt64

theorem prior_of_loadable (ht : t.Loadable s.scope) (hs : Plannable s t)
    {prior : Dict String CatalogInstrument} (hprior : loadPriorRecords s.scope t = .ok prior)
    {key : String} {o : CatalogInstrument} (ho : prior.get? key = some o) : Prior s key o := by
  have hrecords := records_of_loadPriorRecords ht.sound.encoded hprior key
  rw [ho] at hrecords
  obtain ⟨state, hstate, hle⟩ := ht.sound.seen key o hrecords
  have hkept := ht.kept state hstate key o hrecords
  obtain ⟨row, -, hof⟩ := hrecords
  exact {
    key_eq := hof.key_eq
    scope_eq := hof.scope_eq
    earlier := hle.trans_lt (hs.later state hstate)
    lifecycle := hkept.lifecycle
    generation := hkept.generation.trans_lt (hs.revision state hstate) }

/-- An outcome whose deltas can be made. -/
structure Outcome.Fits (scope : CatalogScope) (o : Outcome) : Prop where
  scope_eq : o.current.1.scope = scope
  lifecycle : Reloads o.current.1.lifecycle
  previous : ∀ p ∈ o.previous, p.1.instrumentKey = o.current.1.instrumentKey ∧
    p.1.scope = scope ∧ Reloads p.1.lifecycle

theorem exists_outcomes (lookback : Int) (hvalid : s.Valid) (hs : Plannable s t)
    {prior : Dict String CatalogInstrument}
    (hprior : ∀ key o, prior.get? key = some o → Prior s key o) :
    ∃ outcomes, (sortedBy (·.1.instrumentKey) s.instruments).mapM
        (outcome lookback s.observedAtNs t.state.isNone prior) = .ok outcomes ∧
      ∀ o ∈ outcomes, o.Fits s.scope := by
  have htotal : ∀ record ∈ sortedBy (·.1.instrumentKey) s.instruments,
      ∃ o, outcome lookback s.observedAtNs t.state.isNone prior record = .ok o := by
    intro record hrecord
    have hold : ∀ o ∈ prior.get? record.1.instrumentKey,
        o.1.lastSeenNs < s.observedAtNs ∧ o.1.listingGeneration < maxInt64 := fun o ho =>
      ⟨(hprior _ o ho).earlier, (hprior _ o ho).generation⟩
    obtain ⟨n, isNew, htransition⟩ := transition_total lookback t.state.isNone
      hvalid.observedAtNs (hs.sources record (mem_sortedBy.1 hrecord)) hold
    exact ⟨⟨prior.get? record.1.instrumentKey, n, isNew⟩, by
      simp only [outcome, htransition, ok_bind]
      rfl⟩
  obtain ⟨outcomes, houtcomes⟩ := mapM_total htotal
  refine ⟨outcomes, houtcomes, ?_⟩
  intro o ho
  obtain ⟨record, hrecord, houtcome⟩ := exists_left_of_forall₂ (forall₂_of_mapM houtcomes) ho
  rw [mem_sortedBy] at hrecord
  obtain ⟨hprevious, htransition⟩ := outcome_eq_ok houtcome
  obtain ⟨hkey, hscope⟩ := identity_of_transition htransition
  have hlifecycle := lifecycle_of_transition htransition
  refine ⟨hscope.trans (hvalid.scope record hrecord), hlifecycle ▸ hs.lifecycles record hrecord, ?_⟩
  intro p hp
  rw [hprevious] at hp
  have hknown := hprior _ p hp
  exact ⟨hknown.key_eq.trans hkey.symm, hknown.scope_eq, hknown.lifecycle⟩

/-- An instrument that is no longer present passes its checks. -/
theorem valid_withoutPresence {c : CatalogFields} (h : c.Valid) :
    CatalogFields.Valid { c with present := false } := { h with record := h.record }

theorem exists_removed {prior : Dict String CatalogInstrument} (outcomes : List Outcome) :
    ∃ removed, removedInstruments prior outcomes = .ok removed := by
  refine mapM_total ?_
  intro entry _
  have hcheck := CatalogFields.check_eq_none.2
    (valid_withoutPresence (CatalogFields.check_eq_none.1 entry.2.2))
  exact ⟨(entry.2, ⟨_, hcheck⟩), by rw [withoutPresence, construct_of_valid hcheck]; rfl⟩

/-- The attributes of the hint of a row. -/
def HintRow.fields (scope : CatalogScope) (hintId : String) (row : HintRow) : HintFields where
  scope
  hintId
  announcedAtNs := row.announcedAtNs
  rawReference := row.rawReference
  candidateInstrumentKey := row.candidateInstrumentKey
  candidateCanonicalPair := row.candidateCanonicalPair
  confirmedAtNs := row.confirmedAtNs

theorem HintRow.holds_iff {scope : CatalogScope} {hintId : String} {row : HintRow} :
    row.Holds scope hintId ↔ (row.fields scope hintId).check = none := by
  constructor
  · rintro ⟨hint, hhint⟩
    have hsame : hint.1 = row.fields scope hintId := construct_eq_ok.1 hhint
    rw [← hsame]
    exact hint.2
  · intro h
    exact ⟨⟨_, h⟩, construct_of_valid h⟩

/-- A hint that is confirmed no earlier than it was announced. -/
theorem HintFields.check_confirmed {h : HintFields} {observedAt : Int} (hcheck : h.check = none)
    (hobserved : 0 ≤ observedAt ∧ observedAt ≤ maxInt64) (hle : h.announcedAtNs ≤ observedAt) :
    HintFields.check { h with confirmedAtNs := some observedAt } = none := by
  simp only [HintFields.check, orElse_eq_none, nonemptyString_eq_none, nonnegativeInt_eq_none,
    optionalNonnegativeInt_eq_none] at hcheck ⊢
  obtain ⟨h1, h2, h3, h4, h5, h6, -, -⟩ := hcheck
  refine ⟨h1, h2, h3, h4, h5, h6, ?_, ?_⟩
  · rintro n ⟨⟩
    exact hobserved
  · simpa using hle

/-- The target of an announcement is an instrument of the snapshot, and its explicit candidate. -/
theorem resolveAnnouncementTarget_eq_some {row : HintRow} {current : List CatalogInstrument}
    {key : String} (h : resolveAnnouncementTarget row current = some key) :
    key ≠ "" ∧ ∀ candidate ∈ row.candidateInstrumentKey, candidate = key := by
  have hne : ∀ item : CatalogInstrument, item.1.instrumentKey ≠ "" := fun item =>
    (CatalogFields.check_eq_none.1 item.2).record.instrumentKey
  unfold resolveAnnouncementTarget at h
  split at h
  · rename_i candidate hcandidate
    obtain ⟨item, hitem, rfl⟩ := Option.map_eq_some_iff.1 h
    obtain ⟨hfind, -⟩ := Option.filter_eq_some_iff.1 hitem
    have hkey : item.1.instrumentKey = candidate := by simpa using List.find?_some hfind
    refine ⟨hne item, ?_⟩
    intro other hother
    rw [hcandidate] at hother
    cases hother
    exact hkey.symm
  · rename_i hcandidate
    split at h
    · cases h
    · split at h
      · cases h
        refine ⟨hne _, ?_⟩
        rw [hcandidate]
        nofun
      · cases h

/-- A confirmed hint of some tables. -/
structure ConfirmedHint (scope : CatalogScope) (observedAt : Int) (t : Tables codec)
    (confirmed : (String × HintRow) × String) : Prop where
  entry : confirmed.1 ∈ t.hints.entries
  unconfirmed : confirmed.1.2.confirmedAtNs = none
  announced : confirmed.1.2.announcedAtNs ≤ observedAt
  target : confirmed.2 ≠ ""
  candidate : ∀ candidate ∈ confirmed.1.2.candidateInstrumentKey, candidate = confirmed.2

theorem confirmedHint_of_mem {scope : CatalogScope} {observedAt : Int}
    {current : List CatalogInstrument} {confirmed : (String × HintRow) × String}
    (h : confirmed ∈ confirmedMatches observedAt t.hints current) :
    ConfirmedHint scope observedAt t confirmed := by
  obtain ⟨entry, hentry, hmatch⟩ := List.mem_filterMap.1 h
  obtain ⟨key, hkey, rfl⟩ := Option.map_eq_some_iff.1 hmatch
  obtain ⟨hmem, hfits⟩ := List.mem_filter.1 (mem_sortedBy.1 hentry)
  simp only [Bool.and_eq_true, Option.isNone_iff_eq_none, decide_eq_true_eq] at hfits
  obtain ⟨hne, hcandidate⟩ := resolveAnnouncementTarget_eq_some hkey
  exact ⟨hmem, hfits.1, hfits.2, hne, hcandidate⟩

/-- The delta of a confirmed hint. -/
theorem exists_announcementDelta {scope : CatalogScope} {observedAt : Int}
    (ht : t.Loadable scope) (hobserved : 0 ≤ observedAt ∧ observedAt ≤ maxInt64)
    {confirmed : (String × HintRow) × String} (h : ConfirmedHint scope observedAt t confirmed) :
    ∃ previous current : StoredAnnouncementHint,
      announcementDelta scope observedAt confirmed =
        .ok (.announcement confirmed.2 previous current) ∧
      previous.1 = confirmed.1.2.fields scope confirmed.1.1 ∧
      current.1 = { confirmed.1.2.fields scope confirmed.1.1 with
        confirmedAtNs := some observedAt } := by
  have hholds := ht.hints confirmed.1.1 confirmed.1.2 (Dict.get?_eq_some.2 h.entry)
  have hcheck := HintRow.holds_iff.1 hholds
  have hcurrent := HintFields.check_confirmed hcheck hobserved h.announced
  refine ⟨⟨_, hcheck⟩, ⟨_, hcurrent⟩, ?_, rfl, rfl⟩
  have hprevious : confirmed.1.2.toHint scope confirmed.1.1 = .ok ⟨_, hcheck⟩ :=
    construct_of_valid hcheck
  rw [announcementDelta, hprevious, ok_bind, construct_of_valid hcurrent]
  rfl

/-! ## Deltas -/

/-- A delta that passes its checks and has a payload. -/
structure CatalogDelta.Fits (scope : CatalogScope) (delta : CatalogDelta) : Prop where
  check : delta.check = none
  scope_eq : delta.scope = scope
  payload : ∃ payload, delta.payload = .ok payload

theorem exists_catalogInstrumentPayload {item : CatalogInstrument}
    (h : Reloads item.1.lifecycle) : ∃ payload, catalogInstrumentPayload item = .ok payload := by
  obtain ⟨-, node, hnode⟩ := h
  exact ⟨_, by rw [catalogInstrumentPayload, hnode, ok_bind]; rfl⟩

/-- The delta of an instrument. -/
theorem fits_instrument {scope : CatalogScope} {kind : InstrumentChange}
    {previous : Option CatalogInstrument} {current : CatalogInstrument}
    (hscope : current.1.scope = scope) (hlifecycle : Reloads current.1.lifecycle)
    (hprevious : ∀ p ∈ previous, p.1.instrumentKey = current.1.instrumentKey ∧
      p.1.scope = scope ∧ Reloads p.1.lifecycle)
    (hneeded : kind = .updated ∨ kind = .removed → previous.isSome = true)
    (hremoved : kind = .removed → ∀ p ∈ previous, p.1.present = true ∧ current.1.present = false) :
    (CatalogDelta.instrument kind current.1.instrumentKey previous current).Fits scope where
  check := by
    have hkey := (CatalogFields.check_eq_none.1 current.2).record.instrumentKey
    simp only [CatalogDelta.check, orElse_eq_none, nonemptyString_eq_none,
      Storage.refuseIf_eq_none]
    refine ⟨hkey, by simp, ?_, ?_, ?_, ?_⟩
    · cases previous with
      | none => rfl
      | some p => simp [(hprevious p rfl).1]
    · cases previous with
      | none => rfl
      | some p => simp [(hprevious p rfl).2.1, hscope]
    · by_cases hkind : kind = .updated ∨ kind = .removed
      · have hsome := hneeded hkind
        cases previous with
        | none => cases hsome
        | some p => simp
      · rw [not_or] at hkind
        simp [hkind.1, hkind.2]
    · by_cases hkind : kind = .removed
      · cases previous with
        | none => simp
        | some p => simp [hremoved hkind p rfl]
      · simp [hkind]
  scope_eq := hscope
  payload := by
    obtain ⟨payload, hpayload⟩ := exists_catalogInstrumentPayload hlifecycle
    cases previous with
    | none =>
      exact ⟨_, by rw [CatalogDelta.payload, hpayload, ok_bind]; rfl⟩
    | some p =>
      obtain ⟨payload', hpayload'⟩ := exists_catalogInstrumentPayload (hprevious p rfl).2.2
      exact ⟨_, by rw [CatalogDelta.payload, hpayload, ok_bind, Option.elim_some, hpayload']; rfl⟩

/-- The deltas of a snapshot. -/
theorem fits_catalogDeltas {scope : CatalogScope} {observedAt : Int} (ht : t.Loadable scope)
    (hobserved : 0 ≤ observedAt ∧ observedAt ≤ maxInt64) {outcomes : List Outcome}
    {removed : List (CatalogInstrument × CatalogInstrument)}
    {confirmed : List ((String × HintRow) × String)} {announcements : List CatalogDelta}
    (houtcomes : ∀ o ∈ outcomes, o.Fits scope)
    (hremoved : ∀ item ∈ removed, item.1.1.scope = scope ∧ Reloads item.1.1.lifecycle ∧
      item.1.1.present = true ∧ item.2.1 = { item.1.1 with present := false })
    (hconfirmed : ∀ entry ∈ confirmed, ConfirmedHint scope observedAt t entry)
    (hannouncements : confirmed.mapM (announcementDelta scope observedAt) = .ok announcements) :
    ∀ delta ∈ catalogDeltas outcomes removed announcements, delta.Fits scope := by
  have hdeltas : ∀ kind, ∀ q : Outcome → Bool, kind ≠ .removed →
      (∀ o, q o = true → kind = .updated → o.previous.isSome = true) →
      ∀ delta ∈ outcomeDeltas kind (outcomes.filter q), delta.Fits scope := by
    intro kind q hkind hsome delta hdelta
    obtain ⟨o, ho, rfl⟩ := List.mem_map.1 hdelta
    obtain ⟨ho, hq⟩ := List.mem_filter.1 (mem_sortedBy.1 ho)
    have hfits := houtcomes o ho
    refine fits_instrument hfits.scope_eq hfits.lifecycle hfits.previous ?_ ?_
    · rintro (hupdated | hremoved)
      · exact hsome o hq hupdated
      · exact absurd hremoved hkind
    · exact fun h => absurd h hkind
  intro delta hdelta
  simp only [catalogDeltas, List.mem_append] at hdelta
  rcases hdelta with (((hdelta | hdelta) | hdelta) | hdelta) | hdelta
  · exact hdeltas .added _ (by decide) (fun _ _ h => absurd h (by decide)) delta hdelta
  · refine hdeltas .updated _ (by decide) ?_ delta hdelta
    intro o hq _
    obtain ⟨p, hp, -⟩ := (Option.any_eq_true _ _).1 hq
    rw [hp]
    rfl
  · obtain ⟨item, hitem, rfl⟩ := List.mem_map.1 hdelta
    obtain ⟨hscope, hlifecycle, hpresent, hnew⟩ := hremoved item (mem_sortedBy.1 hitem)
    have hlater : Reloads item.2.1.lifecycle := by
      rw [hnew]
      exact hlifecycle
    refine fits_instrument (by rw [hnew]; exact hscope) hlater ?_ (fun _ => rfl) ?_
    · rintro p ⟨⟩
      exact ⟨by rw [hnew], hscope, hlifecycle⟩
    · rintro - p ⟨⟩
      exact ⟨hpresent, by rw [hnew]⟩
  · exact hdeltas .newListing _ (by decide) (fun _ _ h => absurd h (by decide)) delta hdelta
  · obtain ⟨entry, hentry, hannounced⟩ :=
      exists_left_of_forall₂ (forall₂_of_mapM hannouncements) hdelta
    have hhint := hconfirmed entry hentry
    obtain ⟨previous, current, hok, hprevious, hcurrent⟩ :=
      exists_announcementDelta ht hobserved hhint
    rw [hannounced] at hok
    cases hok
    refine ⟨?_, ?_, ⟨_, rfl⟩⟩
    · simp only [CatalogDelta.check, orElse_eq_none, nonemptyString_eq_none,
        Storage.refuseIf_eq_none]
      refine ⟨hhint.target, ?_, ?_, ?_⟩
      · rw [hcurrent, Option.any_eq_false]
        intro candidate hcandidate
        simp [hhint.candidate candidate hcandidate]
      · simp [hprevious, hcurrent, HintRow.fields]
      · simp [hprevious, hcurrent, HintRow.fields, hhint.unconfirmed]
    · change current.1.scope = scope
      rw [hcurrent]
      rfl

/-- The plan of a snapshot. -/
theorem exists_plan (lookback : Int) (hvalid : s.Valid) (ht : t.Loadable s.scope)
    (hs : Plannable s t) : ∃ p, planSnapshot s lookback t = .ok p ∧
      (∀ o ∈ p.outcomes, o.Fits s.scope) ∧ ∀ delta ∈ p.deltas, delta.Fits s.scope := by
  obtain ⟨prior, hprior⟩ := exists_loadPriorRecords ht
  have hknown : ∀ key o, prior.get? key = some o → Prior s key o := fun key o ho =>
    prior_of_loadable ht hs hprior ho
  obtain ⟨outcomes, houtcomes, hfits⟩ := exists_outcomes lookback hvalid hs hknown
  obtain ⟨removed, hremoved⟩ : ∃ removed, removedInstruments prior outcomes = .ok removed :=
    exists_removed outcomes
  have hconfirmed : ∀ entry ∈ confirmedMatches s.observedAtNs t.hints (outcomes.map (·.current)),
      ConfirmedHint s.scope s.observedAtNs t entry := fun entry hentry =>
    confirmedHint_of_mem hentry
  obtain ⟨announcements, hannouncements⟩ := mapM_total
    (f := announcementDelta s.scope s.observedAtNs) fun entry hentry => by
      obtain ⟨previous, current, hok, -⟩ :=
        exists_announcementDelta ht hvalid.observedAtNs (hconfirmed entry hentry)
      exact ⟨_, hok⟩
  have hgone : ∀ item ∈ removed, item.1.1.scope = s.scope ∧ Reloads item.1.1.lifecycle ∧
      item.1.1.present = true ∧ item.2.1 = { item.1.1 with present := false } := by
    intro item hitem
    obtain ⟨entry, hentry, hold, hnew⟩ :=
      exists_left_of_forall₂ (removed_of_removedInstruments hremoved) hitem
    obtain ⟨hmem, hpresent⟩ := List.mem_filter.1 (mem_sortedBy.1 hentry)
    have hentryKnown := hknown entry.1 entry.2 (Dict.get?_eq_some.2 hmem)
    rw [Bool.and_eq_true] at hpresent
    rw [hold]
    exact ⟨hentryKnown.scope_eq, hentryKnown.lifecycle, hpresent.1, hnew⟩
  have hdeltas := fits_catalogDeltas ht hvalid.observedAtNs hfits hgone hconfirmed hannouncements
  have hchecked : (catalogDeltas outcomes removed announcements).mapM checkedDelta =
      .ok (catalogDeltas outcomes removed announcements) := by
    have hid : ∀ delta ∈ catalogDeltas outcomes removed announcements,
        checkedDelta delta = .ok (id delta) := by
      intro delta hdelta
      rw [checkedDelta, (hdeltas delta hdelta).check]
      rfl
    simpa using mapM_eq_ok hid
  obtain ⟨events, hevents⟩ : ∃ events, eventRows codec s.scope (t.state.elim 1 (·.revision + 1))
      (catalogDeltas outcomes removed announcements) = .ok events := by
    refine mapM_total ?_
    intro delta hdelta
    obtain ⟨payload, hpayload⟩ := (hdeltas delta.1 (List.fst_mem_of_mem_zipIdx hdelta)).payload
    exact ⟨_, by rw [eventRow, hpayload]; rfl⟩
  refine ⟨⟨t.state.elim 1 (·.revision + 1), outcomes, removed,
    confirmedMatches s.observedAtNs t.hints (outcomes.map (·.current)),
    catalogDeltas outcomes removed announcements, events⟩, ?_, hfits, hdeltas⟩
  simp only [planSnapshot, hprior, houtcomes, hremoved, hannouncements, hchecked, hevents,
    raising, Except.mapError, ok_bind]
  rfl

end Plans

/-! ## Writes -/

section Writes

variable {scope : CatalogScope}

/-- Every row is the row of an instrument. -/
def EncodedRows (scope : CatalogScope) (rows : Dict String (InstrumentRow codec)) : Prop :=
  ∀ key row, rows.get? key = some row → ∃ item, RowOf scope key row item

theorem exists_foldlM_remove {rows : Dict String (InstrumentRow codec)}
    (hrows : EncodedRows scope rows) (keys : List String) :
    ∃ rows', keys.foldlM removeInstrument rows = .ok rows' := by
  have hstep : ∀ rows : Dict String (InstrumentRow codec), ∀ key ∈ keys, EncodedRows scope rows →
      ∃ rows', removeInstrument rows key = .ok rows' ∧ EncodedRows scope rows' := by
    intro rows key _ hrows
    have hkept : EncodedRows scope (rows.update key fun row => { row with present := 0 }) := by
      intro other row hrow
      rw [Dict.get?_update] at hrow
      split at hrow
      · obtain ⟨before, hbefore, rfl⟩ := Option.map_eq_some_iff.1 hrow
        obtain ⟨item, hof⟩ := hrows other before hbefore
        have hcheck := CatalogFields.check_eq_none.2
          (valid_withoutPresence (CatalogFields.check_eq_none.1 item.2))
        exact ⟨⟨_, hcheck⟩, InstrumentRow.ofInstrument_removed hof.row_eq rfl, hof.key_eq,
          hof.scope_eq⟩
      · exact hrows other row hrow
    refine ⟨_, if_pos ?_, hkept⟩
    cases hget : (rows.update key fun row => { row with present := 0 }).get? key with
    | none => rfl
    | some row =>
      obtain ⟨item, hof⟩ := hkept key row hget
      exact InstrumentRow.allowed_ofInstrument hof.row_eq
  obtain ⟨rows', hfold, -⟩ := foldlM_total hrows hstep
  exact ⟨rows', hfold⟩

theorem exists_foldlM_upsert {items : List CatalogInstrument}
    {rows : Dict String (InstrumentRow codec)}
    (hnodup : (items.map (·.1.instrumentKey)).Nodup)
    (h : ∀ item ∈ items, ∃ row, InstrumentRow.ofInstrument codec item = .ok row ∧
      upserted (rows.get? item.1.instrumentKey) row = row) :
    ∃ rows', items.foldlM upsertInstrument rows = .ok rows' := by
  induction items generalizing rows with
  | nil => exact ⟨rows, rfl⟩
  | cons item items ih =>
    rw [List.map_cons, List.nodup_cons] at hnodup
    obtain ⟨row, hrow, hsame⟩ := h item List.mem_cons_self
    have hallowed := InstrumentRow.allowed_ofInstrument hrow
    have hupsert : upsertInstrument rows item = .ok (rows.set item.1.instrumentKey row) := by
      rw [upsertInstrument, hrow]
      change (if (upserted (rows.get? item.1.instrumentKey) row).allowed = true then
        Except.ok (rows.set item.1.instrumentKey
          (upserted (rows.get? item.1.instrumentKey) row)) else _) = _
      rw [hsame, if_pos hallowed]
    rw [List.foldlM_cons, hupsert, ok_bind]
    refine ih hnodup.2 ?_
    intro other hother
    have hne : other.1.instrumentKey ≠ item.1.instrumentKey := fun heq =>
      hnodup.1 (heq ▸ List.mem_map_of_mem hother)
    rw [Dict.get?_set_ne _ _ hne]
    exact h other (List.mem_cons_of_mem _ hother)

/-- Every hint can be read, and was announced when it was before. -/
structure SameHints (scope : CatalogScope) (before hints : Dict String HintRow) : Prop where
  holds : ∀ hintId row, hints.get? hintId = some row → row.Holds scope hintId
  announced : ∀ hintId,
    (hints.get? hintId).map (·.announcedAtNs) = (before.get? hintId).map (·.announcedAtNs)

theorem HintRow.allowed_of_holds {hintId : String} {row : HintRow} (h : row.Holds scope hintId) :
    row.allowed = true := by
  have hcheck := HintRow.holds_iff.1 h
  simp only [HintFields.check, HintRow.fields, orElse_eq_none, nonnegativeInt_eq_none,
    Storage.refuseIf_eq_none] at hcheck
  obtain ⟨-, -, -, -, hcandidate, hannounced, -, hconfirmed⟩ := hcheck
  simp only [HintRow.allowed, Bool.and_eq_true, decide_eq_true_eq]
  refine ⟨⟨hannounced.1, ?_⟩, ?_⟩
  · cases hsome : row.confirmedAtNs with
    | none => rfl
    | some t =>
      rw [hsome, Option.any_some] at hconfirmed
      exact decide_eq_true (not_lt.1 (of_decide_eq_false hconfirmed))
  · cases hkey : row.candidateInstrumentKey <;> cases hpair : row.candidateCanonicalPair <;>
      simp_all

theorem exists_foldlM_confirm {hints : Dict String HintRow} {observedAt : Int}
    (hobserved : 0 ≤ observedAt ∧ observedAt ≤ maxInt64)
    (hholds : ∀ hintId row, hints.get? hintId = some row → row.Holds scope hintId)
    {ids : List String}
    (hids : ∀ hintId ∈ ids, ∀ row, hints.get? hintId = some row →
      row.announcedAtNs ≤ observedAt) :
    ∃ hints', ids.foldlM (confirmHint observedAt) hints = .ok hints' ∧
      SameHints scope hints hints' := by
  have hstep : ∀ current : Dict String HintRow, ∀ hintId ∈ ids, SameHints scope hints current →
      ∃ next, confirmHint observedAt current hintId = .ok next ∧ SameHints scope hints next := by
    intro current hintId hmem hsame
    have hkept : SameHints scope hints
        (current.update hintId fun row => { row with confirmedAtNs := some observedAt }) := by
      refine ⟨?_, ?_⟩
      · intro other row hrow
        rw [Dict.get?_update] at hrow
        split at hrow
        · rename_i heq
          subst heq
          obtain ⟨before, hbefore, rfl⟩ := Option.map_eq_some_iff.1 hrow
          have hcheck := HintRow.holds_iff.1 (hsame.holds _ before hbefore)
          have hsome := hsame.announced other
          rw [hbefore] at hsome
          obtain ⟨first, hfirst, hannounced⟩ := Option.map_eq_some_iff.1 hsome.symm
          have hle := hids other hmem first hfirst
          rw [hannounced] at hle
          exact HintRow.holds_iff.2 (HintFields.check_confirmed hcheck hobserved hle)
        · exact hsame.holds other row hrow
      · intro other
        rw [← hsame.announced other, Dict.get?_update]
        split
        · rw [Option.map_map]
          rfl
        · rfl
    refine ⟨_, if_pos ?_, hkept⟩
    cases hget : (current.update hintId fun row =>
        { row with confirmedAtNs := some observedAt }).get? hintId with
    | none => rfl
    | some row => exact HintRow.allowed_of_holds (hkept.holds hintId row hget)
  exact foldlM_total ⟨hholds, fun _ => rfl⟩ hstep

theorem exists_foldlM_insert {events outbox : List (OutboxRow codec)}
    (hids : (events.map (·.eventId)).Nodup)
    (hordinals : (events.map fun row => (row.catalogRevision, row.eventOrdinal)).Nodup)
    (hnew : ∀ row ∈ events, row.eventId ∉ outbox.map (·.eventId) ∧
      (row.catalogRevision, row.eventOrdinal) ∉
        outbox.map (fun other => (other.catalogRevision, other.eventOrdinal)) ∧
      0 < row.catalogRevision) :
    ∃ outbox', events.foldlM insertEvent outbox = .ok outbox' := by
  induction events generalizing outbox with
  | nil => exact ⟨outbox, rfl⟩
  | cons row events ih =>
    rw [List.map_cons, List.nodup_cons] at hids hordinals
    obtain ⟨hid, hordinal, hpositive⟩ := hnew row List.mem_cons_self
    have hinsert : insertEvent outbox row = .ok (outbox ++ [row]) := by
      unfold insertEvent
      rw [if_neg]
      rintro (h | h | h)
      · exact hid h
      · exact hordinal h
      · omega
    rw [List.foldlM_cons, hinsert, ok_bind]
    refine ih hids.2 hordinals.2 ?_
    intro other hother
    obtain ⟨hid', hordinal', hpositive'⟩ := hnew other (List.mem_cons_of_mem _ hother)
    refine ⟨?_, ?_, hpositive'⟩
    · rw [List.map_append, List.mem_append, not_or]
      refine ⟨hid', ?_⟩
      intro h
      have heq : other.eventId = row.eventId := List.mem_singleton.1 h
      exact hids.1 (List.mem_map.2 ⟨other, hother, heq⟩)
    · rw [List.map_append, List.mem_append, not_or]
      refine ⟨hordinal', ?_⟩
      intro h
      have heq : (other.catalogRevision, other.eventOrdinal) =
        (row.catalogRevision, row.eventOrdinal) := List.mem_singleton.1 h
      exact hordinals.1 (List.mem_map.2 ⟨other, hother, heq⟩)

end Writes

/-! ## Events -/

section Events

variable {s : CatalogSnapshotFields} {lookback : Int} {t : Tables codec}
  {prior : Dict String CatalogInstrument} {announcements : List CatalogDelta} {p : Plan codec}

/-- An event has one revision and one ordinal. -/
theorem controlEventId_inj {scope : CatalogScope} {revision revision' : Int} {ordinal ordinal' : Nat}
    {kind kind' key key' : String} (hrevision : 0 ≤ revision ∧ revision ≤ maxInt64)
    (hrevision' : 0 ≤ revision' ∧ revision' ≤ maxInt64) (hordinal : (ordinal : Int) ≤ maxInt64)
    (hordinal' : (ordinal' : Int) ≤ maxInt64)
    (h : controlEventId codec scope revision ordinal kind key =
      controlEventId codec scope revision' ordinal' kind' key') :
    revision = revision' ∧ ordinal = ordinal' := by
  have hplain : ∀ (revision : Int) (ordinal : Nat) (kind key : String),
      0 ≤ revision ∧ revision ≤ maxInt64 → (ordinal : Int) ≤ maxInt64 →
      (controlEventIdentity scope revision ordinal kind key).Plain := by
    intro revision ordinal kind key hrevision hordinal
    exact ⟨by simp, trivial, trivial, trivial, trivial,
      plain_int ⟨Int.natCast_nonneg _, hordinal⟩, plain_int hrevision, trivial⟩
  have hsame := CatalogCodec.encodeJson_inj (hplain revision ordinal kind key hrevision hordinal)
    (hplain revision' ordinal' kind' key' hrevision' hordinal') (codec.sha256_injective h)
  simp only [controlEventIdentity, Json.object.injEq, List.cons.injEq, Prod.mk.injEq,
    Json.int.injEq, Int.natCast_inj] at hsame
  exact ⟨hsame.2.2.2.2.2.1.2, hsame.2.2.2.2.1.2⟩

/-- The events of a plan: their identities, and their ordinals in order. -/
theorem events_of_planned (h : Planned s lookback t prior announcements p) :
    (∀ row ∈ p.events, row.catalogRevision = p.revision ∧ ∃ kind key, row.eventId =
      controlEventId codec s.scope row.catalogRevision row.eventOrdinal kind key) ∧
    p.events.length = p.deltas.length := by
  have hall := forall₂_of_mapM h.events
  constructor
  · intro row hrow
    obtain ⟨delta, -, hevent⟩ := exists_left_of_forall₂ hall hrow
    obtain ⟨payload, -, hevent⟩ := bind_eq_ok.1 hevent
    cases hevent
    exact ⟨rfl, _, _, rfl⟩
  · simpa using hall.length_eq.symm

/-- There are not more events than changes. -/
theorem length_events_le (h : Planned s lookback t prior announcements p) :
    p.events.length ≤
      3 * s.instruments.length + t.instruments.entries.length + t.hints.entries.length := by
  have houtcomes : p.outcomes.length = s.instruments.length := by
    have := h.outcomes.length_eq
    simpa using this.symm
  have hkind : ∀ kind, ∀ q : Outcome → Bool,
      (outcomeDeltas kind (p.outcomes.filter q)).length ≤ s.instruments.length := by
    intro kind q
    rw [outcomeDeltas, List.length_map, length_sortedBy, ← houtcomes]
    exact List.length_filter_le _ _
  have hremoved : p.removed.length ≤ t.instruments.entries.length := by
    have hlength := (removed_of_removedInstruments h.removed).length_eq
    rw [length_sortedBy] at hlength
    have hkeys := congrArg List.length (Dict.keys_of_mapValuesM (raising_eq_ok.1 h.prior_eq))
    rw [Dict.keys, Dict.keys, List.length_map, List.length_map] at hkeys
    rw [← hlength, ← hkeys]
    exact List.length_filter_le _ _
  have hannouncements : announcements.length ≤ t.hints.entries.length := by
    have hlength := (forall₂_of_mapM h.announcements_eq).length_eq
    have hconfirmed : p.confirmed.length ≤ t.hints.entries.length := by
      rw [h.confirmed, confirmedMatches]
      refine (List.length_filterMap_le _ _).trans ?_
      rw [length_sortedBy]
      exact List.length_filter_le _ _
    omega
  have hadded := hkind .added (·.isAdded)
  have hupdated := hkind .updated (·.isUpdated)
  have hlisted := hkind .newListing (·.isNewListing)
  rw [(events_of_planned h).2, h.deltas, catalogDeltas]
  simp only [List.length_append, List.length_map, length_sortedBy]
  omega

/-- The events of a plan are new. -/
theorem fresh_events (ht : t.Loadable s.scope) (hs : Plannable s t)
    (h : Planned s lookback t prior announcements p) (hrevision : p.revision ≤ maxInt64) :
    (p.events.map (·.eventId)).Nodup ∧
      (p.events.map fun row => (row.catalogRevision, row.eventOrdinal)).Nodup ∧
      ∀ row ∈ p.events, (row.eventOrdinal : Int) ≤ maxInt64 ∧
        row.eventId ∉ t.outbox.map (·.eventId) ∧
        (row.catalogRevision, row.eventOrdinal) ∉
          t.outbox.map (fun other => (other.catalogRevision, other.eventOrdinal)) ∧
        0 < row.catalogRevision := by
  obtain ⟨hids, -⟩ := events_of_planned h
  have hordinals := (tells_of_eventRows h.events).2
  obtain ⟨hpositive, hearlier⟩ := revision_of_planned h ht.announced
  have hordinal : ∀ row ∈ p.events, (row.eventOrdinal : Int) ≤ maxInt64 := by
    intro row hrow
    have hmem : row.eventOrdinal ∈ p.events.map (·.eventOrdinal) := List.mem_map_of_mem hrow
    rw [hordinals, List.mem_range] at hmem
    have hlength := length_events_le h
    have hcount := hs.count
    omega
  have hkeyed : (p.events.map (·.eventOrdinal)).Nodup := hordinals ▸ List.nodup_range
  have hnodup : p.events.Nodup := List.Nodup.of_map _ hkeyed
  refine ⟨?_, ?_, ?_⟩
  · refine hnodup.map_on ?_
    intro row hrow other hother hid
    obtain ⟨hrow', kind, key, hrowId⟩ := hids row hrow
    obtain ⟨hother', kind', key', hotherId⟩ := hids other hother
    rw [hrowId, hotherId] at hid
    have hsame := (controlEventId_inj ⟨by omega, by omega⟩ ⟨by omega, by omega⟩ (hordinal row hrow)
      (hordinal other hother) hid).2
    exact List.inj_on_of_nodup_map hkeyed hrow hother hsame
  · refine hnodup.map_on ?_
    intro row hrow other hother hsame
    exact List.inj_on_of_nodup_map hkeyed hrow hother (Prod.mk.inj hsame).2
  · intro row hrow
    obtain ⟨hrow', kind, key, hrowId⟩ := hids row hrow
    refine ⟨hordinal row hrow, ?_, ?_, by omega⟩
    · intro hmem
      obtain ⟨other, hother, hid⟩ := List.mem_map.1 hmem
      obtain ⟨hotherPositive, hotherOrdinal, kind', key', hotherId⟩ := ht.events other hother
      have hlt := hearlier other hother
      rw [hrowId, hotherId] at hid
      have hsame := (controlEventId_inj ⟨by omega, by omega⟩ ⟨by omega, by omega⟩ hotherOrdinal
        (hordinal row hrow) hid).1
      omega
    · intro hmem
      obtain ⟨other, hother, hsame⟩ := List.mem_map.1 hmem
      have hlt := hearlier other hother
      have := (Prod.mk.inj hsame).1
      omega

theorem revision_le (hs : Plannable s t) (h : Planned s lookback t prior announcements p) :
    p.revision ≤ maxInt64 := by
  rw [h.revision]
  cases hstate : t.state with
  | none =>
    change (1 : Int) ≤ maxInt64
    decide
  | some state =>
    have := hs.revision state hstate
    change state.revision + 1 ≤ maxInt64
    omega

/-- The plan of a snapshot is written. -/
theorem exists_written (digest : codec.Digest) (hvalid : s.Valid) (ht : t.Loadable s.scope)
    (hs : Plannable s t) (hfits : ∀ o ∈ p.outcomes, o.Fits s.scope)
    (h : Planned s lookback t prior announcements p) :
    ∃ t', writePlan s digest p t = .ok t' ∧ SameHints s.scope t.hints t'.hints := by
  have hencoded : EncodedRows s.scope t.instruments := by
    intro key row hrow
    obtain ⟨item, -, row', hrow', hof⟩ := exists_toInstrument ht (Dict.get?_eq_some.1 hrow)
    rw [hrow] at hrow'
    cases hrow'
    exact ⟨item, hof⟩
  have hrevision := revision_le hs h
  obtain ⟨rows, hrows⟩ := exists_foldlM_remove hencoded (p.removed.map (·.2.1.instrumentKey))
  have hnodup : ((p.outcomes.map (·.current)).map (·.1.instrumentKey)).Nodup := by
    simpa [Function.comp_def] using h.keys_nodup hvalid
  have hcurrent : ∀ item ∈ p.outcomes.map (·.current), ∃ row,
      InstrumentRow.ofInstrument codec item = .ok row ∧
      upserted (rows.get? item.1.instrumentKey) row = row := by
    intro item hitem
    obtain ⟨o, ho, rfl⟩ := List.mem_map.1 hitem
    obtain ⟨-, node, hnode⟩ := (hfits o ho).lifecycle
    obtain ⟨row, hrow⟩ : ∃ row, InstrumentRow.ofInstrument codec o.current = .ok row :=
      ⟨_, by rw [InstrumentRow.ofInstrument, CatalogCodec.encodeTypedJson, hnode]; rfl⟩
    exact ⟨row, hrow, h.upserted_eq ht.sound.encoded hrows ho hrow⟩
  obtain ⟨rows', hrows'⟩ := exists_foldlM_upsert hnodup hcurrent
  have hannounced : ∀ hintId ∈ p.confirmed.map (·.1.1), ∀ row, t.hints.get? hintId = some row →
      row.announcedAtNs ≤ s.observedAtNs := by
    intro hintId hmem row hrow
    obtain ⟨confirmed, hconfirmed, rfl⟩ := List.mem_map.1 hmem
    rw [h.confirmed] at hconfirmed
    have hhint : ConfirmedHint s.scope s.observedAtNs t confirmed :=
      confirmedHint_of_mem hconfirmed
    have hentry : t.hints.get? confirmed.1.1 = some confirmed.1.2 :=
      Dict.get?_eq_some.2 hhint.entry
    rw [hrow] at hentry
    cases hentry
    exact hhint.announced
  obtain ⟨hints, hhints, hsame⟩ :=
    exists_foldlM_confirm hvalid.observedAtNs ht.hints hannounced
  obtain ⟨hids, hordinals, hnew⟩ := fresh_events ht hs h hrevision
  obtain ⟨outbox, houtbox⟩ := exists_foldlM_insert hids hordinals fun row hrow =>
    (hnew row hrow).2
  have hpositive := (revision_of_planned h ht.announced).1
  have hheader : ∀ header ∈ t.state.bind (·.turnover),
      0 < header.revision ∧ 0 < header.catalogRevision := by
    intro header hmem
    obtain ⟨state, hstate, hturnover⟩ := Option.bind_eq_some_iff.1 hmem
    obtain ⟨covered, hholds⟩ := ht.turnover state hstate header hturnover
    exact ⟨hholds.revision.1, hholds.catalogRevision.1⟩
  have hscope : ∃ state, upsertScope t {
      lastObservedAtNs := s.observedAtNs
      snapshotDigest := digest
      revision := p.revision
      snapshotId := s.snapshotId
      pageRawReferencesJson :=
        codec.encodeJson (.list (s.pages.map fun page => .str page.1.rawReference))
      turnover := none } = .ok state := by
    refine ⟨_, if_pos ?_⟩
    simp only [ScopeRow.allowed, Bool.and_eq_true, decide_eq_true_eq]
    refine ⟨⟨hvalid.observedAtNs.1, hpositive⟩, ?_⟩
    cases hturnover : t.state.bind (·.turnover) with
    | none => rfl
    | some header => simpa using hheader header hturnover
  obtain ⟨state, hstate⟩ := hscope
  refine ⟨{ t with state, instruments := rows', hints, outbox }, ?_, hsame⟩
  have hrefuse : refuse (maxInt64 < p.revision) .overflowError = .ok () :=
    refuse_eq_ok.2 (by simpa using hrevision)
  rw [writePlan, hrefuse, ok_bind, hrows, ok_bind, hrows',
    ok_bind, hhints, ok_bind, houtbox, ok_bind, hstate]
  rfl

end Events

/-! ## Reports -/

section Reports

variable {s : CatalogSnapshotFields} {lookback : Int} {t : Tables codec}
  {prior : Dict String CatalogInstrument} {announcements : List CatalogDelta} {p : Plan codec}

theorem sorted_outcomes (h : Planned s lookback t prior announcements p) (q : Outcome → Bool) :
    sortedBy (·.current.1.instrumentKey) (p.outcomes.filter q) = p.outcomes.filter q := by
  refine sortedBy_eq_self (List.Pairwise.filter _ ?_)
  rw [← List.pairwise_map (f := fun o : Outcome => o.current.1.instrumentKey)
    (R := (· ≤ ·)), h.keys_eq, List.pairwise_map]
  exact pairwise_sortedBy _ _

theorem sorted_removed (ht : t.Encoded s.scope) (h : Planned s lookback t prior announcements p) :
    sortedBy (·.2.1.instrumentKey) p.removed = p.removed := by
  refine sortedBy_eq_self ?_
  rw [← List.pairwise_map (f := fun item : CatalogInstrument × CatalogInstrument =>
    item.2.1.instrumentKey) (R := (· ≤ ·)), keys_removed h ht, List.pairwise_map]
  exact pairwise_sortedBy _ _

/-- The current instruments of the deltas of a kind. -/
theorem filterMap_outcomeDeltas (kind kind' : InstrumentChange) (outcomes : List Outcome) :
    (outcomeDeltas kind outcomes).filterMap (·.currentOf kind') =
      if kind = kind' then (sortedBy (·.current.1.instrumentKey) outcomes).map (·.current)
      else [] := by
  rw [outcomeDeltas, List.filterMap_map]
  by_cases hkind : kind = kind'
  · simp [Outcome.delta, CatalogDelta.currentOf, hkind]
  · simp [Outcome.delta, CatalogDelta.currentOf, hkind]

theorem filterMap_removedDeltas (kind : InstrumentChange)
    (removed : List (CatalogInstrument × CatalogInstrument)) :
    (removed.map removedDelta).filterMap (·.currentOf kind) =
      if kind = .removed then removed.map (·.2) else [] := by
  rw [List.filterMap_map]
  by_cases hkind : kind = .removed
  · simp [removedDelta, CatalogDelta.currentOf, hkind]
  · have hne : InstrumentChange.removed ≠ kind := fun heq => hkind heq.symm
    simp [removedDelta, CatalogDelta.currentOf, hkind, hne]

theorem filterMap_announcements (h : Planned s lookback t prior announcements p)
    (kind : InstrumentChange) : announcements.filterMap (·.currentOf kind) = [] := by
  rw [List.filterMap_eq_nil_iff]
  intro delta hdelta
  obtain ⟨confirmed, -, hconfirmed⟩ :=
    exists_left_of_forall₂ (forall₂_of_mapM h.announcements_eq) hdelta
  obtain ⟨previous, -, hconfirmed⟩ := bind_eq_ok.1 hconfirmed
  obtain ⟨current, -, hconfirmed⟩ := bind_eq_ok.1 hconfirmed
  cases hconfirmed
  rfl

/-- The lists of a report are those of its deltas. -/
theorem currents_of_planned (ht : t.Encoded s.scope)
    (h : Planned s lookback t prior announcements p) :
    (p.outcomes.filter (·.isAdded)).map (·.current) = p.deltas.filterMap (·.currentOf .added) ∧
    (p.outcomes.filter (·.isUpdated)).map (·.current) =
      p.deltas.filterMap (·.currentOf .updated) ∧
    p.removed.map (·.2) = p.deltas.filterMap (·.currentOf .removed) ∧
    (p.outcomes.filter (·.isNewListing)).map (·.current) =
      p.deltas.filterMap (·.currentOf .newListing) := by
  rw [h.deltas, catalogDeltas]
  simp only [List.filterMap_append, filterMap_outcomeDeltas, filterMap_removedDeltas,
    filterMap_announcements h, sorted_outcomes h, sorted_removed ht h]
  simp

theorem map_fst_filterMap {α β : Type} (f : α → Option β) (xs : List α) :
    (xs.filterMap fun x => (f x).map (x, ·)).map Prod.fst = xs.filter fun x => (f x).isSome := by
  induction xs with
  | nil => rfl
  | cons x xs ih => cases hx : f x <;> simp [hx, ih]

/-- The hints that a snapshot confirms have different identities. -/
theorem nodup_announcements (hvalid : s.Valid) (ht : t.Loadable s.scope)
    (h : Planned s lookback t prior announcements p) :
    (announcements.map (·.identityKey)).Nodup ∧
      ∀ delta ∈ announcements, delta.kind = "announcement_confirmed" := by
  have hconfirmed : ∀ confirmed ∈ p.confirmed,
      ConfirmedHint s.scope s.observedAtNs t confirmed := by
    intro confirmed hmem
    rw [h.confirmed] at hmem
    exact confirmedHint_of_mem hmem
  have hall := (List.forall₂_and_left _ _).2 ⟨hconfirmed, forall₂_of_mapM h.announcements_eq⟩
  have hdelta : ∀ confirmed delta, (ConfirmedHint s.scope s.observedAtNs t confirmed ∧
      announcementDelta s.scope s.observedAtNs confirmed = .ok delta) →
      delta.identityKey = confirmed.1.1 ∧ delta.kind = "announcement_confirmed" := by
    rintro confirmed delta ⟨hhint, hok⟩
    obtain ⟨previous, current, hok', -, hcurrent⟩ :=
      exists_announcementDelta ht hvalid.observedAtNs hhint
    rw [hok] at hok'
    cases hok'
    refine ⟨?_, rfl⟩
    change current.1.hintId = confirmed.1.1
    rw [hcurrent]
    rfl
  constructor
  · have hkeys : announcements.map (·.identityKey) =
        p.confirmed.map (fun confirmed => confirmed.1.1) :=
      map_eq_of_forall₂ hall fun confirmed delta hok => (hdelta confirmed delta hok).1
    have hentries : p.confirmed.map (fun confirmed => confirmed.1.1) =
        (p.confirmed.map Prod.fst).map Prod.fst := by
      rw [List.map_map]
      rfl
    rw [hkeys, hentries, h.confirmed, confirmedMatches, map_fst_filterMap]
    exact (nodup_map_sortedBy (t.hints.nodup.sublist (List.filter_sublist.map _))).sublist
      (List.filter_sublist.map _)
  · intro delta hmem
    obtain ⟨confirmed, -, hok⟩ := exists_left_of_forall₂ hall hmem
    exact (hdelta confirmed delta hok).2

/-- Keys that are distinct within a kind are distinct with their kinds. -/
theorem nodup_kinds (parts : List (String × List String)) (hkinds : (parts.map Prod.fst).Nodup)
    (hkeys : ∀ part ∈ parts, part.2.Nodup) :
    (parts.flatMap fun part => part.2.map (part.1, ·)).Nodup := by
  rw [List.nodup_flatMap]
  constructor
  · intro part hpart
    exact (hkeys part hpart).map fun _ _ heq => (Prod.mk.inj heq).2
  · rw [List.Nodup, List.pairwise_map] at hkinds
    refine hkinds.imp ?_
    intro part other hne identity hmem hmem'
    obtain ⟨key, -, rfl⟩ := List.mem_map.1 hmem
    obtain ⟨key', -, heq⟩ := List.mem_map.1 hmem'
    exact hne (Prod.mk.inj heq).1.symm

/-- The deltas of a snapshot have different identities. -/
theorem nodup_identities (hvalid : s.Valid) (ht : t.Loadable s.scope)
    (h : Planned s lookback t prior announcements p) :
    (p.deltas.map fun delta => (delta.kind, delta.identityKey)).Nodup := by
  have hnodup := h.keys_nodup hvalid
  obtain ⟨hhints, hkind⟩ := nodup_announcements hvalid ht h
  have houtcomes : ∀ q : Outcome → Bool,
      ((p.outcomes.filter q).map (·.current.1.instrumentKey)).Nodup := fun q =>
    hnodup.sublist (List.filter_sublist.map _)
  have hdeltas : ∀ kind, ∀ q : Outcome → Bool,
      (outcomeDeltas kind (p.outcomes.filter q)).map
        (fun delta => (delta.kind, delta.identityKey)) =
      ((p.outcomes.filter q).map (·.current.1.instrumentKey)).map (kind.value, ·) := by
    intro kind q
    rw [outcomeDeltas, sorted_outcomes h, List.map_map, List.map_map]
    rfl
  have hremoved : (p.removed.map removedDelta).map
        (fun delta => (delta.kind, delta.identityKey)) =
      (p.removed.map (·.2.1.instrumentKey)).map ("removed", ·) := by
    rw [List.map_map, List.map_map]
    rfl
  have hannounced : announcements.map (fun delta => (delta.kind, delta.identityKey)) =
      (announcements.map (·.identityKey)).map ("announcement_confirmed", ·) := by
    rw [List.map_map]
    refine List.map_congr_left ?_
    intro delta hdelta
    exact Prod.ext (hkind delta hdelta) rfl
  have hparts := nodup_kinds [
    ("added", (p.outcomes.filter (·.isAdded)).map (·.current.1.instrumentKey)),
    ("updated", (p.outcomes.filter (·.isUpdated)).map (·.current.1.instrumentKey)),
    ("removed", p.removed.map (·.2.1.instrumentKey)),
    ("new_listing", (p.outcomes.filter (·.isNewListing)).map (·.current.1.instrumentKey)),
    ("announcement_confirmed", announcements.map (·.identityKey))] (by simp) (by
      simp only [List.forall_mem_cons]
      exact ⟨houtcomes _, houtcomes _, keys_nodup_removed h ht.sound.encoded, houtcomes _, hhints,
        by simp⟩)
  rw [h.deltas, catalogDeltas]
  simp only [List.map_append, hdeltas, hremoved, hannounced, sorted_removed ht.sound.encoded h]
  simpa [InstrumentChange.value] using hparts

/-- The report of a snapshot passes its checks. -/
theorem check_planChanges (digest : codec.Digest) (isInitial : Bool) (hvalid : s.Valid)
    (ht : t.Loadable s.scope) (hs : Plannable s t) (hoks : ∀ o ∈ p.outcomes, o.Fits s.scope)
    (hfits : ∀ delta ∈ p.deltas, delta.Fits s.scope)
    (h : Planned s lookback t prior announcements p) :
    (planChanges s digest isInitial p).check = none := by
  obtain ⟨hadded, hupdated, hremoved, hlisted⟩ := currents_of_planned ht.sound.encoded h
  have hrevision := revision_le hs h
  have hpositive := (revision_of_planned h ht.announced).1
  have hids := (fresh_events ht hs h hrevision).1
  have hidentities := nodup_identities hvalid ht h
  have houtcomes : ∀ q : Outcome → Bool,
      ((p.outcomes.filter q).map (·.current)).any
        (fun item => decide (item.1.scope ≠ s.scope)) = false := by
    intro q
    rw [List.any_eq_false]
    intro item hitem
    obtain ⟨o, ho, rfl⟩ := List.mem_map.1 hitem
    simp [(hoks o (List.mem_filter.1 ho).1).scope_eq]
  have hgone : (p.removed.map (·.2)).any (fun item => decide (item.1.scope ≠ s.scope)) = false := by
    rw [List.any_eq_false, hremoved]
    intro item hitem
    obtain ⟨delta, hdelta, hcurrent⟩ := List.mem_filterMap.1 hitem
    have hscope := (hfits delta hdelta).scope_eq
    cases delta with
    | announcement => cases hcurrent
    | instrument kind =>
      simp only [CatalogDelta.currentOf] at hcurrent
      split at hcurrent
      · cases hcurrent
        simpa [CatalogDelta.scope] using hscope
      · cases hcurrent
  have hhints : (p.deltas.filterMap (·.hintOf)).any
      (fun hint => decide (hint.1.scope ≠ s.scope)) = false := by
    rw [List.any_eq_false]
    intro hint hhint
    obtain ⟨delta, hdelta, hcurrent⟩ := List.mem_filterMap.1 hhint
    have hscope := (hfits delta hdelta).scope_eq
    cases delta with
    | announcement =>
      cases hcurrent
      simpa [CatalogDelta.scope] using hscope
    | instrument => cases hcurrent
  have hscopes : p.deltas.any (fun delta => decide (delta.scope ≠ s.scope)) = false := by
    rw [List.any_eq_false]
    intro delta hdelta
    simp [(hfits delta hdelta).scope_eq]
  simp only [CatalogChanges.check, planChanges, orElse_eq_none, nonnegativeInt_eq_none,
    positiveInt_eq_none, Storage.refuseIf_eq_none]
  refine ⟨hvalid.observedAtNs, Bool.and_false _, ⟨hpositive, hrevision⟩, houtcomes _, houtcomes _,
    hgone, houtcomes _, hhints, hscopes, ?_, ?_, ?_, ?_, ?_, ?_, ?_, rfl⟩
  · exact decide_eq_false (not_not.2 hidentities)
  · exact decide_eq_false (not_not.2 hadded)
  · exact decide_eq_false (not_not.2 hupdated)
  · exact decide_eq_false (not_not.2 hremoved)
  · exact decide_eq_false (not_not.2 hlisted)
  · exact decide_eq_false (not_not.2 rfl)
  · exact decide_eq_false (not_not.2 hids)

end Reports

end CryptoCollector.Selection
