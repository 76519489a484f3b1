import CryptoCollector.Selection.Commits

/-!
# Reloading after every run

When the writes match the tables and the lifecycles are objects, every write commits and both loads
return what it computed. A snapshot with another lifecycle commits too, and then nothing can be
loaded.

* `commits_of_matches`: a write that matches the tables and can be stored commits.
* `run_reloads`: the law of the runs.
-/

namespace CryptoCollector.Selection

open Lib
open Storage (Err Json)

variable {codec : CatalogCodec} {scope : CatalogScope}

/-! ## Snapshots -/

theorem exists_digest {s : CatalogSnapshotFields} (lookback : Int)
    (h : ∀ record ∈ s.instruments, Reloads record.1.lifecycle) :
    ∃ digest, completeCatalogDigest codec s lookback = .ok digest := by
  have hpayloads : ∀ record ∈ sortedBy (·.1.instrumentKey) s.instruments,
      ∃ payload, recordPayload record = .ok payload := by
    intro record hrecord
    obtain ⟨-, node, hnode⟩ := h record (mem_sortedBy.1 hrecord)
    exact ⟨_, by rw [recordPayload, hnode, ok_bind]; rfl⟩
  obtain ⟨instruments, hinstruments⟩ := mapM_total hpayloads
  exact ⟨_, by rw [completeCatalogDigest, hinstruments, ok_bind]; rfl⟩

/-- A snapshot that matches the tables is applied. -/
theorem exists_applyCatalogSnapshot {s : CompleteCatalogSnapshot} {lookback : Int}
    {t : Tables codec} (hlookback : 0 ≤ lookback ∧ lookback ≤ maxInt64)
    (ht : t.Loadable s.1.scope) (hs : Plannable s.1 t) :
    ∃ digest prior announcements p t', completeCatalogDigest codec s.1 lookback = .ok digest ∧
      Planned s.1 lookback t prior announcements p ∧ Written s.1 digest p t t' ∧
      (∀ o ∈ p.outcomes, o.Fits s.1.scope) ∧ SameHints s.1.scope t.hints t'.hints ∧
      applyCatalogSnapshot s lookback t =
        .ok (planChanges s.1 digest t.state.isNone p, t') := by
  have hvalid := CatalogSnapshotFields.valid_of_check s.2
  obtain ⟨digest, hdigest⟩ : ∃ digest, completeCatalogDigest codec s lookback = .ok digest :=
    exists_digest lookback hs.lifecycles
  obtain ⟨p, hp, hoks, hfits⟩ := exists_plan lookback hvalid ht hs
  obtain ⟨prior, announcements, hplanned⟩ := planned_of_planSnapshot hp
  obtain ⟨t', ht', hhints⟩ := exists_written digest hvalid ht hs hoks hplanned
  have hcheck := check_planChanges digest t.state.isNone hvalid ht hs hoks hfits hplanned
  refine ⟨digest, prior, announcements, p, t', hdigest, hplanned, written_of_writePlan ht', hoks,
    hhints, ?_⟩
  have hrecords : s.1.instruments.findSome? (snapshotRecordCheck s.1.observedAtNs) = none := by
    rw [List.findSome?_eq_none_iff]
    intro record hrecord
    simp [snapshotRecordCheck, hs.sources record hrecord, hvalid.turnover record hrecord]
  have hnonnegative : nonnegativeInt lookback "initial_lookback_ns" = none :=
    nonnegativeInt_eq_none.2 hlookback
  have happly : applyNewSnapshot s.1 lookback digest t =
      .ok (planChanges s.1 digest t.state.isNone p, t') := by
    rw [applyNewSnapshot, hp, ok_bind, ht', ok_bind]
    simp only [checkedChanges, hcheck, checked, raising, Except.mapError, ok_bind]
    rfl
  unfold applyCatalogSnapshot
  simp only [hnonnegative, hdigest, hrecords, checked, raising, Except.mapError, ok_bind]
  cases hstate : t.state with
  | none =>
    rw [hstate] at happly
    exact happly
  | some state =>
    have hlater := hs.later state hstate
    rw [hstate] at happly
    simp only [if_neg (not_lt.2 hlater.le), if_neg hlater.ne']
    exact happly

/-- The references of complete pages are texts. -/
theorem references_of_pages {pages : List SnapshotPage} (h : completeSnapshotPages pages = none) :
    References codec (codec.encodeJson (.list (pages.map fun page => .str page.1.rawReference))) := by
  simp only [completeSnapshotPages, orElse_eq_none, Storage.refuseIf_eq_none,
    decide_eq_false_iff_not, not_not] at h
  obtain ⟨hne, -, -, -, hnodup, -⟩ := h
  refine ⟨pages.map (·.1.rawReference), ?_, ?_, hnodup, ?_⟩
  · intro hnil
    rw [List.map_eq_nil_iff] at hnil
    rw [hnil] at hne
    cases hne
  · rw [List.map_map]
    rfl
  · intro hmem
    obtain ⟨page, -, hempty⟩ := List.mem_map.1 hmem
    have hpage := page.2
    simp only [PageFields.check, orElse_eq_none, nonemptyString_eq_none] at hpage
    exact hpage.1 hempty

/-- What a snapshot keeps of the turnover of an instrument. -/
theorem turnover_of_transition {lookback observedAt : Int} {isInitial : Bool}
    {record : InstrumentRecord} {old : Option CatalogInstrument} {item : CatalogInstrument}
    {isNew : Bool} (h : transition lookback observedAt isInitial record old = .ok (item, isNew))
    (hrecord : record.1.turnover = none) :
    ∀ x ∈ item.1.turnover, ∃ o ∈ old, x ∈ o.1.turnover := by
  obtain ⟨d, -, -, hitem⟩ := transition_eq_ok h
  have hturnover : item.1.turnover = materializedTurnover record.1 (old.map (·.1)) := by
    rw [hitem]
    unfold decidedFields
    split_ifs <;> rfl
  intro x hx
  rw [hturnover] at hx
  cases old with
  | none =>
    rw [Option.map_none, materializedTurnover, hrecord] at hx
    cases hx
  | some o =>
    refine ⟨o, rfl, ?_⟩
    simp only [Option.map_some, materializedTurnover, hrecord, Option.isSome_none,
      Bool.false_or, decide_eq_true_eq] at hx
    split at hx
    · cases hx
    · exact hx

section Snapshots

variable {s : CatalogSnapshotFields} {lookback : Int} {digest : codec.Digest}
  {t t' : Tables codec} {prior : Dict String CatalogInstrument}
  {announcements : List CatalogDelta} {p : Plan codec}

/-- What is recorded after a snapshot was recorded before, or was reported. -/
theorem kept_of_movement (ht : t.Loadable s.scope) (hvalid : s.Valid) (hs : Plannable s t)
    (hplan : Planned s lookback t prior announcements p) {key : String} {isNew : Bool}
    {n : CatalogInstrument}
    (hmoved : Movement s lookback t.state.isNone key (prior.get? key) isNew (some n)) :
    Reloads n.1.lifecycle ∧ n.1.listingGeneration ≤ p.revision ∧
      (n.1.present = true → n.1.lastSeenNs = s.observedAtNs) ∧
      (n.1.present = false → n.1.lastSeenNs < s.observedAtNs) ∧
      ∀ x ∈ n.1.turnover, ∃ o, Records s.scope t key (some o) ∧ x ∈ o.1.turnover := by
  have hrecords := records_of_loadPriorRecords ht.sound.encoded hplan.prior_eq key
  have hold : ∀ o ∈ prior.get? key, Records s.scope t key (some o) ∧
      Reloads o.1.lifecycle ∧ o.1.listingGeneration + 1 ≤ p.revision ∧
      o.1.lastSeenNs < s.observedAtNs := by
    intro o ho
    rw [Option.mem_def] at ho
    have hprior := prior_of_loadable ht hs hplan.prior_eq ho
    rw [ho] at hrecords
    obtain ⟨state, hstate, -⟩ := ht.sound.seen key o hrecords
    have hkept := ht.kept state hstate key o hrecords
    refine ⟨hrecords, hprior.lifecycle, ?_, hprior.earlier⟩
    rw [hplan.revision, hstate]
    exact Int.add_le_add_right hkept.generation 1
  have hpositive := (revision_of_planned hplan ht.announced).1
  generalize prior.get? key = r at hmoved hold
  cases hmoved with
  | @seen _ _ _ record hrecord hkey htransition =>
    obtain ⟨hpresent, hlast, -⟩ := seen_of_transition htransition
    refine ⟨lifecycle_of_transition htransition ▸ hs.lifecycles record hrecord, ?_,
      fun _ => hlast, fun h => absurd (hpresent.symm.trans h) nofun, ?_⟩
    · cases r with
      | none =>
        rw [(sighted_of_transition htransition).generation]
        split <;> omega
      | some o =>
        have hle := (hold o rfl).2.2.1
        rw [(resighted_of_transition htransition).generation]
        split <;> omega
    · intro x hx
      obtain ⟨o, ho, hmem⟩ :=
        turnover_of_transition htransition (hvalid.turnover record hrecord) x hx
      exact ⟨o, (hold o ho).1, hmem⟩
  | @removed o _ hkey hpresent hn =>
    obtain ⟨hrecord, hlifecycle, hgeneration, hearlier⟩ := hold o rfl
    rw [hn]
    refine ⟨hlifecycle, ?_, nofun, fun _ => hearlier, fun x hx => ⟨o, hrecord, hx⟩⟩
    change o.1.listingGeneration ≤ p.revision
    omega
  | kept hkey hpresent =>
    obtain ⟨hrecord, hlifecycle, hgeneration, hearlier⟩ := hold n rfl
    exact ⟨hlifecycle, by omega, fun h => absurd ((hpresent n rfl).symm.trans h) nofun,
      fun _ => hearlier, fun x hx => ⟨n, hrecord, hx⟩⟩

/-- What was recorded before a snapshot is recorded after it. -/
theorem isSome_of_movement {isInitial isNew : Bool} {key : String} {o : CatalogInstrument}
    {r' : Option CatalogInstrument}
    (hmoved : Movement s lookback isInitial key (some o) isNew r') : ∃ n, r' = some n := by
  cases hmoved with
  | seen => exact ⟨_, rfl⟩
  | removed => exact ⟨_, rfl⟩
  | kept => exact ⟨_, rfl⟩

/-- The tables after a snapshot can be loaded. -/
theorem loadable_written (hvalid : s.Valid) (ht : t.Loadable s.scope) (hs : Plannable s t)
    (hplan : Planned s lookback t prior announcements p) (hwritten : Written s digest p t t')
    (hhints : SameHints s.scope t.hints t'.hints) (hsound : t'.Sound s.scope)
    (hannounced : t'.Announced) : t'.Loadable s.scope := by
  have hmoved := moved_of_written hvalid ht.sound.encoded hplan hwritten
  have hkept : ∀ key o, Records s.scope t' key (some o) → ∃ isNew,
      Movement s lookback t.state.isNone key (prior.get? key) isNew (some o) := by
    intro key o ho
    obtain ⟨isNew, r', hmovement, hr', -⟩ := hmoved key
    cases hr'.unique ho
    exact ⟨isNew, hmovement⟩
  refine ⟨hsound, hannounced, ?_, ?_, ?_, ?_, hhints.holds, ?_⟩
  · intro state hstate
    rw [hwritten.state] at hstate
    cases hstate
    exact ⟨hvalid.observedAtNs, hvalid.snapshotId, references_of_pages hvalid.pages⟩
  · intro state hstate key o ho
    rw [hwritten.state] at hstate
    cases hstate
    obtain ⟨isNew, hmovement⟩ := hkept key o ho
    obtain ⟨hlifecycle, hgeneration, hpresent, hmissing, -⟩ :=
      kept_of_movement ht hvalid hs hplan hmovement
    exact ⟨hlifecycle, hgeneration, hpresent, hmissing⟩
  · intro state hstate header hheader
    rw [hwritten.state] at hstate
    cases hstate
    obtain ⟨before, hbefore, hturnover⟩ := Option.bind_eq_some_iff.1 hheader
    obtain ⟨covered, hholds⟩ := ht.turnover before hbefore header hturnover
    have hrevision : p.revision = before.revision + 1 := by
      rw [hplan.revision, hbefore]
      rfl
    have hbound := hholds.catalogRevision
    refine ⟨covered, { hholds with catalogRevision := ?_, later := ?_, members := ?_, turnover := ?_ }⟩
    · change 0 < header.catalogRevision ∧ header.catalogRevision ≤ p.revision
      omega
    · intro h
      change header.catalogRevision = p.revision at h
      omega
    · intro key hkey
      obtain ⟨o, ho, -⟩ := hholds.members key hkey
      have hprior := records_of_loadPriorRecords ht.sound.encoded hplan.prior_eq key
      obtain ⟨isNew, r', hmovement, hr', -⟩ := hmoved key
      rw [hprior.unique ho] at hmovement
      obtain ⟨n, rfl⟩ := isSome_of_movement hmovement
      refine ⟨n, hr', fun h => ?_⟩
      change header.catalogRevision = p.revision at h
      omega
    · intro key o ho x hx
      obtain ⟨isNew, hmovement⟩ := hkept key o ho
      obtain ⟨-, -, -, -, hcarried⟩ := kept_of_movement ht hvalid hs hplan hmovement
      obtain ⟨o', ho', hx'⟩ := hcarried x hx
      exact hholds.turnover key o' ho' x hx'
  · intro state hstate hnone key o ho
    rw [hwritten.state] at hstate
    cases hstate
    obtain ⟨isNew, hmovement⟩ := hkept key o ho
    obtain ⟨-, -, -, -, hcarried⟩ := kept_of_movement ht hvalid hs hplan hmovement
    cases hvalue : o.1.turnover with
    | none => rfl
    | some x =>
      obtain ⟨o', ho', hx'⟩ := hcarried x hvalue
      obtain ⟨before, hbefore, -⟩ := ht.sound.seen key o' ho'
      rw [hbefore] at hnone
      rw [ht.untraded before hbefore hnone key o' ho'] at hx'
      cases hx'
  · intro row hrow
    rw [hwritten.outbox] at hrow
    rcases List.mem_append.1 hrow with hrow | hrow
    · exact ht.events row hrow
    · obtain ⟨hordinal, -, -, hpositive⟩ :=
        (fresh_events ht hs hplan hwritten.revision).2.2 row hrow
      exact ⟨hpositive, hordinal, ((events_of_planned hplan).1 row hrow).2⟩

end Snapshots

/-! ## Turnover -/

section Turnover

variable {s : TurnoverSnapshotFields} {state : ScopeRow codec} {t t' : Tables codec}

/-- What a turnover snapshot has to be for its tables. -/
structure Observable (scope : CatalogScope) (s : TurnoverSnapshotFields) (state : ScopeRow codec)
    (t : Tables codec) : Prop where
  state_eq : t.state = some state
  catalogRevision : s.catalogRevision = state.revision
  later : state.lastObservedAtNs ≤ s.observedAtNs
  covered : ∀ key ∈ s.coveredInstrumentKeys, ∃ o, Records scope t key (some o) ∧
    o.1.present = true
  currency : ∀ x ∈ s.observations, ∀ o, Records scope t x.1.instrumentKey (some o) →
    x.1.currency = o.1.quoteAsset
  revision : state.turnoverRevision < maxInt64

theorem observationOf_eq_some {key : String} {x : TurnoverObservation}
    (h : observationOf s key = some x) :
    key ∈ s.coveredInstrumentKeys ∧ x ∈ s.observations ∧ x.1.instrumentKey = key := by
  unfold observationOf at h
  split at h
  · rename_i hkey
    exact ⟨hkey, List.mem_of_find?_eq_some h, by simpa using List.find?_some h⟩
  · cases h

theorem exists_observedRow (hvalid : s.Valid) (ht : t.Loadable scope)
    (hs : Observable scope s state t) {key : String} {row : InstrumentRow codec}
    (hrow : (key, row) ∈ t.instruments.entries) : ∃ row', observedRow s key row = .ok row' := by
  obtain ⟨item, -, hrecords⟩ := exists_toInstrument ht hrow
  have hrecorded := hrecords
  obtain ⟨row', hrow', hof⟩ := hrecords
  rw [Dict.get?_eq_some.2 hrow] at hrow'
  cases hrow'
  let turnover : Option Turnover := (observationOf s key).map fun o =>
    ⟨observedTurnover s o, check_observedTurnover hvalid o⟩
  have hmap : turnover.map (·.1) = (observationOf s key).map (observedTurnover s) := by
    simp [turnover, Option.map_map, Function.comp_def]
  have hcurrency : ∀ x, observationOf s key = some x → x.1.currency = item.1.quoteAsset := by
    intro x hx
    obtain ⟨-, hmem, hkey⟩ := observationOf_eq_some hx
    exact hs.currency x hmem item (hkey ▸ hrecorded)
  have hquote : row.quoteAsset = item.1.quoteAsset := by
    obtain ⟨blob, -, h⟩ := bind_eq_ok.1 hof.row_eq
    cases h
    rfl
  have hobserved : CatalogFields.Valid { item.1 with turnover } := by
    refine (CatalogFields.check_eq_none.1 item.2).withTurnover ?_
    intro x hx
    obtain ⟨o, ho, rfl⟩ := Option.map_eq_some_iff.1 hx
    exact hcurrency o ho
  let other : CatalogInstrument := ⟨_, CatalogFields.check_eq_none.2 hobserved⟩
  have hnew : InstrumentRow.ofInstrument codec other = .ok (row.withTurnover _) :=
    InstrumentRow.ofInstrument_withTurnover hof.row_eq rfl
  rw [hmap] at hnew
  have hany : (observationOf s key).any (fun o => decide (o.1.currency ≠ row.quoteAsset)) =
      false := by
    cases hx : observationOf s key with
    | none => rfl
    | some x => simp [hquote, hcurrency x hx]
  refine ⟨row.withTurnover ((observationOf s key).map (observedTurnover s)), ?_⟩
  unfold observedRow
  dsimp only
  rw [hany, if_neg Bool.false_ne_true, if_pos (InstrumentRow.allowed_ofInstrument hnew)]

/-- A turnover snapshot that matches the tables is applied. -/
theorem exists_applyNewTurnover (hvalid : s.Valid) (ht : t.Loadable scope)
    (hs : Observable scope s state t) :
    ∃ changes t', applyNewTurnover s state t = .ok (changes, t') := by
  obtain ⟨rows, hrows⟩ := Dict.mapValuesM_total (f := observedRow s) (d := t.instruments)
    fun e he => exists_observedRow hvalid ht hs he
  have houtside : outsideKeys s t = [] := by
    rw [outsideKeys, List.filter_eq_nil_iff]
    intro key hkey
    obtain ⟨o, ⟨row, hrow, hof⟩, hpresent⟩ := hs.covered key hkey
    have hone := (InstrumentRow.seen_ofInstrument hof.row_eq).2
    rw [hpresent] at hone
    simp [hrow, hone, intOfBool]
  obtain ⟨hpositive, hmax⟩ := ht.announced.revision state hs.state_eq
  have hnonneg : 0 ≤ state.turnoverRevision := by
    unfold ScopeRow.turnoverRevision
    cases hheader : state.turnover with
    | none => exact le_refl _
    | some header =>
      obtain ⟨covered, hholds⟩ := ht.turnover state hs.state_eq header hheader
      exact hholds.revision.1.le
  have hrevision := hs.revision
  have hobserved := (ht.state state hs.state_eq).observed
  let row : ScopeRow codec := { state with turnover := some {
    lastObservedAtNs := s.observedAtNs
    snapshotDigest := turnoverSnapshotDigest codec s
    revision := state.turnoverRevision + 1
    snapshotId := s.snapshotId
    pageRawReferencesJson :=
      codec.encodeJson (.list (s.pages.map fun page => .str page.1.rawReference))
    catalogRevision := s.catalogRevision
    coveredKeysJson :=
      codec.encodeJson (.list ((sortedBy id s.coveredInstrumentKeys).map .str)) } }
  have hallowed : row.allowed = true := by
    simp only [ScopeRow.allowed, row, Option.all_some, Bool.and_eq_true, decide_eq_true_eq]
    exact ⟨⟨hobserved.1, hpositive⟩, by omega, hvalid.catalogRevision⟩
  let changes : TurnoverChanges := {
    scope := s.scope
    catalogRevision := state.revision
    observedAtNs := s.observedAtNs
    revision := state.turnoverRevision + 1
    idempotent := false
    changedInstrumentKeys := changedKeys t.instruments rows }
  have hkeys : ∀ key ∈ changes.changedInstrumentKeys, key ≠ "" := by
    intro key hkey
    obtain ⟨hmem, -⟩ := List.mem_filter.1 (mem_sortedBy.1 hkey)
    obtain ⟨row, hrow⟩ := Dict.exists_of_mem_keys hmem
    obtain ⟨item, -, row', -, hof⟩ := exists_toInstrument ht (Dict.get?_eq_some.1 hrow)
    rw [← hof.key_eq]
    exact (CatalogFields.check_eq_none.1 item.2).record.instrumentKey
  have hsorted : changes.changedInstrumentKeys.Pairwise (· < ·) := by
    have hle := pairwise_sortedBy id (t.instruments.keys.filter fun key =>
      decide ((t.instruments.get? key).map (·.turnoverColumns) ≠
        (rows.get? key).map (·.turnoverColumns)))
    have hnodup : changes.changedInstrumentKeys.Nodup :=
      (sortedBy_perm id _).nodup_iff.2 (t.instruments.nodup.sublist List.filter_sublist)
    exact hle.imp₂ (fun _ _ h hne => lt_of_le_of_ne h hne) hnodup
  have hnext : 0 < changes.revision ∧ changes.revision ≤ maxInt64 := by
    change 0 < state.turnoverRevision + 1 ∧ state.turnoverRevision + 1 ≤ maxInt64
    omega
  have hcheck : changes.check = none := by
    simp only [TurnoverChanges.check, orElse_eq_none, positiveInt_eq_none, nonnegativeInt_eq_none,
      Storage.refuseIf_eq_none, List.findSome?_eq_none_iff, nonemptyString_eq_none]
    exact ⟨⟨hpositive, hmax⟩, hvalid.observedAtNs, hnext, hkeys,
      decide_eq_false (not_not.2 hsorted), rfl⟩
  have hinside : refuse (outsideKeys s t ≠ []) (.catalogRevisionConflict
      ("turnover coverage contains keys outside the current catalog: " ++
        String.intercalate ", " (sortedBy id (outsideKeys s t)))) = .ok () :=
    refuse_eq_ok.2 (by simp [houtside])
  have hmaxRevision : refuse (maxInt64 < state.turnoverRevision + 1) .overflowError = .ok () :=
    refuse_eq_ok.2 (by simpa using by omega)
  have hrow : refuse (!row.allowed) (.integrityError "catalog_scope_state") = .ok () :=
    refuse_eq_ok.2 (by simp [hallowed])
  have hchanges : checkedTurnover changes = .ok changes := by
    rw [checkedTurnover, hcheck]
    rfl
  refine ⟨changes, { t with state := some row, instruments := rows }, ?_⟩
  rw [applyNewTurnover, hinside, ok_bind, hrows, ok_bind]
  dsimp only
  rw [hmaxRevision, ok_bind]
  change (refuse (!row.allowed) _ >>= fun _ => checkedTurnover changes >>= _) = _
  rw [hrow, ok_bind, hchanges]
  rfl

/-- The tables after a turnover snapshot can be loaded. -/
theorem loadable_turnoverWritten (hvalid : s.Valid) (ht : t.Loadable scope)
    (hs : Observable scope s state t) (h : TurnoverWritten s state t t')
    (hsound : t'.Sound scope) (hannounced : t'.Announced) : t'.Loadable scope := by
  have hrecorded := exists_of_turnoverWritten hvalid ht.sound.encoded h
  have hkept : ∀ key n, Records scope t' key (some n) → ∃ o turnover,
      Records scope t key (some o) ∧ n.1 = { o.1 with turnover } ∧
        turnover.map (·.1) = (observationOf s key).map (observedTurnover s) := by
    intro key n hn
    rcases hrecorded key with ⟨-, hnone⟩ | ⟨o, n', turnover, ho, hn', hsame, hturnover⟩
    · cases hnone.unique hn
    · cases hn'.unique hn
      exact ⟨o, turnover, ho, hsame, hturnover⟩
  have hstate := ht.state state hs.state_eq
  have hnonneg : 0 ≤ state.turnoverRevision := by
    unfold ScopeRow.turnoverRevision
    cases hheader : state.turnover with
    | none => exact le_refl _
    | some header =>
      obtain ⟨covered, hholds⟩ := ht.turnover state hs.state_eq header hheader
      exact hholds.revision.1.le
  have hrevision := h.revision
  refine ⟨hsound, hannounced, ?_, ?_, ?_, ?_, ?_, ?_⟩
  · intro other hother
    rw [h.state] at hother
    cases hother
    exact ⟨hstate.observed, hstate.snapshotId, hstate.pages⟩
  · intro other hother key n hn
    rw [h.state] at hother
    cases hother
    obtain ⟨o, turnover, ho, hsame, -⟩ := hkept key n hn
    have := ht.kept state hs.state_eq key o ho
    exact ⟨by rw [hsame]; exact this.lifecycle, by rw [hsame]; exact this.generation,
      by rw [hsame]; exact this.present, by rw [hsame]; exact this.missing⟩
  · intro other hother header hheader
    rw [h.state] at hother
    cases hother
    cases hheader
    have hmem : ∀ key, key ∈ sortedBy id s.coveredInstrumentKeys ↔
        key ∈ s.coveredInstrumentKeys := fun key => mem_sortedBy
    refine ⟨sortedBy id s.coveredInstrumentKeys, {
      observed := hvalid.observedAtNs
      revision := ⟨by change 0 < state.turnoverRevision + 1; omega, hrevision⟩
      snapshotId := hvalid.snapshotId
      pages := references_of_pages hvalid.pages
      texts := ⟨rfl, (sortedBy_perm id _).nodup_iff.2 hvalid.covered_nodup, fun h =>
        hvalid.covered_ne "" ((hmem "").1 h) rfl⟩
      catalogRevision := ⟨hvalid.catalogRevision, hs.catalogRevision.le⟩
      later := fun _ => hs.later
      members := ?_
      turnover := ?_ }⟩
    · intro key hkey
      obtain ⟨o, ho, hpresent⟩ := hs.covered key ((hmem key).1 hkey)
      rcases hrecorded key with ⟨hnone, -⟩ | ⟨o', n, turnover, ho', hn, hsame, -⟩
      · cases hnone.unique ho
      · cases ho'.unique ho
        exact ⟨n, hn, fun _ => by rw [hsame]; exact hpresent⟩
    · intro key n hn x hx
      obtain ⟨o, turnover, -, hsame, hturnover⟩ := hkept key n hn
      have hvalue : turnover = some x := by
        rw [hsame] at hx
        exact hx
      rw [hvalue, Option.map_some] at hturnover
      obtain ⟨observation, hobservation, hfields⟩ := Option.map_eq_some_iff.1 hturnover.symm
      refine ⟨(hmem key).2 (observationOf_eq_some hobservation).1, ?_⟩
      rw [← hfields]
      rfl
  · intro other hother hnone
    rw [h.state] at hother
    cases hother
    cases hnone
  · rw [h.hints]
    exact ht.hints
  · rw [h.outbox]
    exact ht.events

end Turnover

/-! ## Hints -/

theorem holds_ofHint {h : AnnouncementHint} (hscope : h.1.1.scope = scope) :
    HintRow.Holds scope h.1.1.hintId {
      candidateInstrumentKey := h.1.1.candidateInstrumentKey
      candidateCanonicalPair := h.1.1.candidateCanonicalPair
      announcedAtNs := h.1.1.announcedAtNs
      rawReference := h.1.1.rawReference
      confirmedAtNs := none } := by
  rw [HintRow.holds_iff]
  have hsame : HintRow.fields scope h.1.1.hintId {
      candidateInstrumentKey := h.1.1.candidateInstrumentKey
      candidateCanonicalPair := h.1.1.candidateCanonicalPair
      announcedAtNs := h.1.1.announcedAtNs
      rawReference := h.1.1.rawReference
      confirmedAtNs := none } = h.1.1 := by
    have hunconfirmed := h.2
    generalize h.1.1 = fields at *
    cases fields
    simp_all [HintRow.fields]
  rw [hsame]
  exact h.1.2

/-- A hint that was not recorded with other contents is recorded. -/
theorem exists_recordAnnouncementHint {t : Tables codec} (ht : t.Loadable scope)
    {h : AnnouncementHint} (hscope : h.1.1.scope = scope)
    (hsame : ∀ row, t.hints.get? h.1.1.hintId = some row →
      (row.candidateInstrumentKey, row.candidateCanonicalPair, row.announcedAtNs,
        row.rawReference) = (h.1.1.candidateInstrumentKey, h.1.1.candidateCanonicalPair,
        h.1.1.announcedAtNs, h.1.1.rawReference)) :
    ∃ isNew hints, recordAnnouncementHint h t = .ok (isNew, { t with hints }) ∧
      ∀ hintId row, hints.get? hintId = some row → row.Holds scope hintId := by
  have hholds := holds_ofHint hscope
  unfold recordAnnouncementHint
  dsimp only
  cases hget : t.hints.get? h.1.1.hintId with
  | some row =>
    refine ⟨false, t.hints, ?_, ht.hints⟩
    dsimp only
    rw [if_neg (not_not.2 (hsame row hget))]
  | none =>
    refine ⟨true, _, if_pos (HintRow.allowed_of_holds hholds), ?_⟩
    intro hintId row hrow
    by_cases hkey : hintId = h.1.1.hintId
    · subst hkey
      rw [Dict.get?_set_self] at hrow
      cases hrow
      exact hholds
    · rw [Dict.get?_set_ne _ _ hkey] at hrow
      exact ht.hints hintId row hrow

/-! ## Writes -/

/-- What a turnover snapshot has to be to match the tables. -/
structure TurnoverSnapshotFields.Matches (scope : CatalogScope) (s : TurnoverSnapshotFields)
    (state : ScopeRow codec) (t : Tables codec) : Prop where
  catalogRevision : s.catalogRevision = state.revision
  later : state.lastObservedAtNs ≤ s.observedAtNs
  header : ∀ header ∈ state.turnover, header.lastObservedAtNs < s.observedAtNs ∨
    header.lastObservedAtNs = s.observedAtNs ∧ turnoverSnapshotDigest codec s = header.snapshotDigest
  covered : ∀ key ∈ s.coveredInstrumentKeys, ∃ o, Records scope t key (some o) ∧
    o.1.present = true
  currency : ∀ x ∈ s.observations, ∀ o, Records scope t x.1.instrumentKey (some o) →
    x.1.currency = o.1.quoteAsset

/-- The snapshot was applied before. -/
def TurnoverSnapshotFields.Replays (s : TurnoverSnapshotFields) (state : ScopeRow codec) : Prop :=
  ∃ header ∈ state.turnover, header.lastObservedAtNs = s.observedAtNs

namespace CatalogOp

/-- The write matches the tables: a snapshot is later than the last one and brings no source that
the store owns, a turnover snapshot is about the current revision, and a hint does not contradict
a recorded one. -/
def Matches : CatalogOp scope → Tables codec → Prop
  | .snapshot s lookback _, t => (0 ≤ lookback ∧ lookback ≤ maxInt64) ∧
      (∀ state ∈ t.state, state.lastObservedAtNs < s.1.observedAtNs) ∧
      ∀ record ∈ s.1.instruments, record.1.tradableAtSource ≠ some .firstTradableSeen
  | .turnover s _, t => ∃ state, t.state = some state ∧ s.1.Matches scope state t
  | .hint h _, t => ∀ row, t.hints.get? h.1.1.hintId = some row →
      (row.candidateInstrumentKey, row.candidateCanonicalPair, row.announcedAtNs,
        row.rawReference) = (h.1.1.candidateInstrumentKey, h.1.1.candidateCanonicalPair,
        h.1.1.announcedAtNs, h.1.1.rawReference)

/-- The lifecycles of a snapshot are objects whose integers can be rendered, and the counters of
the store stay 64-bit integers. -/
def Storable : CatalogOp scope → Tables codec → Prop
  | .snapshot s _ _, t => (∀ record ∈ s.1.instruments, Reloads record.1.lifecycle) ∧
      (∀ state ∈ t.state, state.revision < maxInt64) ∧
      (3 * s.1.instruments.length + t.instruments.entries.length + t.hints.entries.length : Int) ≤
        maxInt64
  | .turnover s _, t => ∀ state ∈ t.state, ¬ s.1.Replays state → state.turnoverRevision < maxInt64
  | .hint _ _, _ => True

/-- What a write computes for a key: the transition of a reported record, the removal of one that
is no longer reported, the turnover of an observation. -/
def Computes : CatalogOp scope → Tables codec → String → Option CatalogInstrument →
    Option CatalogInstrument → Prop
  | .snapshot s lookback _, t, key, r, r' =>
      ∃ isNew, Movement s.1 lookback t.state.isNone key r isNew r'
  | .turnover s _, t, key, r, r' =>
      ((∃ state ∈ t.state, s.1.Replays state) ∧ r' = r) ∨ (r = none ∧ r' = none) ∨
        ∃ o n turnover, r = some o ∧ r' = some n ∧ n.1 = { o.1 with turnover } ∧
          turnover.map (·.1) = (observationOf s.1 key).map (observedTurnover s.1)
  | .hint _ _, _, _, r, r' => r' = r

end CatalogOp

/-- A write commits what it computes, and leaves tables that can be loaded. -/
structure Commits (op : CatalogOp scope) (t : Tables codec) : Prop where
  committed : ∃ result, (op.exec t).1 = .ok result
  loadable : (op.exec t).2.Loadable scope
  computed : ∀ key r r', Records scope t key r → Records scope (op.exec t).2 key r' →
    op.Computes t key r r'

theorem commits_snapshot {t : Tables codec} (ht : t.Loadable scope) {s : CompleteCatalogSnapshot}
    {lookback : Int} {hscope : s.1.scope = scope}
    (hmatches : (CatalogOp.snapshot s lookback hscope).Matches t)
    (hstorable : (CatalogOp.snapshot s lookback hscope).Storable t) :
    Commits (.snapshot s lookback hscope) t := by
  cases hscope
  obtain ⟨hlookback, hlater, hsources⟩ := hmatches
  obtain ⟨hlifecycles, hrevision, hcount⟩ := hstorable
  have hs : Plannable s.1 t := ⟨hlater, hsources, hlifecycles, hrevision, hcount⟩
  have hvalid := CatalogSnapshotFields.valid_of_check s.2
  obtain ⟨digest, prior, announcements, p, t', -, hplan, hwritten, -, hhints, happly⟩ :=
    exists_applyCatalogSnapshot hlookback ht hs
  have hexec : (CatalogOp.snapshot s lookback rfl).exec t =
      (.ok (.changes (planChanges s.1 digest t.state.isNone p)), t') :=
    exec_of_body (by simp [CatalogOp.body, happly])
  have hsound := sound_exec ht.sound (.snapshot s lookback rfl)
  have hannounced := announced_exec ht.announced (.snapshot s lookback rfl)
  rw [hexec] at hsound hannounced
  refine ⟨⟨_, by rw [hexec]⟩, ?_, ?_⟩
  · rw [hexec]
    exact loadable_written hvalid ht hs hplan hwritten hhints hsound hannounced
  · intro key r r' hr hr'
    rw [hexec] at hr'
    obtain ⟨isNew, n, hmovement, hn, -⟩ :=
      moved_of_written hvalid ht.sound.encoded hplan hwritten key
    rw [hn.unique hr', (records_of_loadPriorRecords ht.sound.encoded hplan.prior_eq key).unique hr]
      at hmovement
    exact ⟨isNew, hmovement⟩

/-- A turnover snapshot that was applied before changes nothing. -/
theorem applyTurnoverSnapshot_replay {t : Tables codec} (ht : t.Loadable scope)
    {s : CompleteTurnoverSnapshot} {state : ScopeRow codec} (hstate : t.state = some state)
    (hs : s.1.Matches scope state t) (hreplays : s.1.Replays state) :
    ∃ changes, applyTurnoverSnapshot s t = .ok (changes, t) := by
  obtain ⟨header, hheader, htime⟩ := hreplays
  obtain ⟨covered, hholds⟩ := ht.turnover state hstate header hheader
  have hdigest : turnoverSnapshotDigest codec s.1 = header.snapshotDigest := by
    rcases hs.header header hheader with hlt | ⟨-, hdigest⟩
    · omega
    · exact hdigest
  have hvalid := TurnoverSnapshotFields.valid_of_check s.2
  have hpositive := ht.announced.revision state hstate
  let changes : TurnoverChanges := {
    scope := s.1.scope
    catalogRevision := state.revision
    observedAtNs := s.1.observedAtNs
    revision := header.revision
    idempotent := true
    changedInstrumentKeys := [] }
  have hcheck : changes.check = none := by
    simp [TurnoverChanges.check, changes, hpositive, hvalid.observedAtNs, hholds.revision]
  refine ⟨changes, ?_⟩
  unfold applyTurnoverSnapshot
  simp only [hstate, hs.catalogRevision, Option.mem_def.1 hheader, ne_eq, not_true_eq_false, if_false,
    if_neg (not_lt.2 hs.later), htime, lt_irrefl, if_true, hdigest]
  have hchanges : checkedTurnover changes = .ok changes := by
    rw [checkedTurnover, hcheck]
    rfl
  change (checkedTurnover changes >>= _) = _
  rw [hchanges]
  rfl

theorem commits_turnover {t : Tables codec} (ht : t.Loadable scope) {s : CompleteTurnoverSnapshot}
    {hscope : s.1.scope = scope} (hmatches : (CatalogOp.turnover s hscope).Matches t)
    (hstorable : (CatalogOp.turnover s hscope).Storable t) : Commits (.turnover s hscope) t := by
  obtain ⟨state, hstate, hs⟩ := hmatches
  have hvalid := TurnoverSnapshotFields.valid_of_check s.2
  by_cases hreplays : s.1.Replays state
  · obtain ⟨changes, happly⟩ := applyTurnoverSnapshot_replay ht hstate hs hreplays
    have hexec : (CatalogOp.turnover s hscope).exec t = (.ok (.turnoverChanges changes), t) :=
      exec_of_body (by simp [CatalogOp.body, happly])
    refine ⟨⟨_, by rw [hexec]⟩, by rw [hexec]; exact ht, ?_⟩
    intro key r r' hr hr'
    rw [hexec] at hr'
    exact .inl ⟨⟨state, hstate, hreplays⟩, hr'.unique hr⟩
  · have hobservable : Observable scope s.1 state t := {
      state_eq := hstate
      catalogRevision := hs.catalogRevision
      later := hs.later
      covered := hs.covered
      currency := hs.currency
      revision := hstorable state hstate hreplays }
    obtain ⟨changes, t', hnew⟩ := exists_applyNewTurnover hvalid ht hobservable
    have happly : applyTurnoverSnapshot s t = .ok (changes, t') := by
      unfold applyTurnoverSnapshot
      simp only [hstate, hs.catalogRevision, ne_eq, not_true_eq_false, if_false,
        if_neg (not_lt.2 hs.later)]
      cases hheader : state.turnover with
      | none => exact hnew
      | some header =>
        have hlater : header.lastObservedAtNs < s.1.observedAtNs := by
          rcases hs.header header hheader with hlt | ⟨heq, -⟩
          · exact hlt
          · exact absurd ⟨header, hheader, heq⟩ hreplays
        simp only [if_neg (not_lt.2 hlater.le), if_neg hlater.ne']
        exact hnew
    have hexec : (CatalogOp.turnover s hscope).exec t = (.ok (.turnoverChanges changes), t') :=
      exec_of_body (by simp [CatalogOp.body, happly])
    have hsound := sound_exec ht.sound (.turnover s hscope)
    have hannounced := announced_exec ht.announced (.turnover s hscope)
    rw [hexec] at hsound hannounced
    have hwritten := applyNewTurnover_eq_ok hnew
    refine ⟨⟨_, by rw [hexec]⟩, ?_, ?_⟩
    · rw [hexec]
      exact loadable_turnoverWritten hvalid ht hobservable hwritten hsound hannounced
    · intro key r r' hr hr'
      rw [hexec] at hr'
      rcases exists_of_turnoverWritten hvalid ht.sound.encoded hwritten key with
        ⟨hnone, hnone'⟩ | ⟨o, n, turnover, ho, hn, hsame, hturnover⟩
      · exact .inr (.inl ⟨hr.unique hnone, hr'.unique hnone'⟩)
      · exact .inr (.inr ⟨o, n, turnover, hr.unique ho, hr'.unique hn, hsame, hturnover⟩)

theorem commits_hint {t : Tables codec} (ht : t.Loadable scope) {h : AnnouncementHint}
    {hscope : h.1.1.scope = scope} (hmatches : (CatalogOp.hint h hscope).Matches t) :
    Commits (.hint h hscope) t := by
  obtain ⟨isNew, hints, hrecord, hholds⟩ := exists_recordAnnouncementHint ht hscope hmatches
  have hexec : (CatalogOp.hint h hscope).exec t = (.ok (.recorded isNew), { t with hints }) :=
    exec_of_body (by simp [CatalogOp.body, hrecord])
  have hsound := sound_exec ht.sound (.hint h hscope)
  have hannounced := announced_exec ht.announced (.hint h hscope)
  rw [hexec] at hsound hannounced
  refine ⟨⟨_, by rw [hexec]⟩, ?_, ?_⟩
  · rw [hexec]
    refine { ht with sound := hsound, announced := hannounced, turnover := ?_, hints := hholds }
    intro state hstate header hheader
    obtain ⟨covered, hheld⟩ := ht.turnover state hstate header hheader
    exact ⟨covered, { hheld with members := hheld.members, turnover := hheld.turnover }⟩
  · intro key r r' hr hr'
    rw [hexec] at hr'
    exact hr'.unique hr

/-- A write that matches the tables and can be stored commits. -/
theorem commits_of_matches {t : Tables codec} (ht : t.Loadable scope) {op : CatalogOp scope}
    (hmatches : op.Matches t) (hstorable : op.Storable t) : Commits op t := by
  cases op with
  | snapshot s lookback hscope => exact commits_snapshot ht hmatches hstorable
  | turnover s hscope => exact commits_turnover ht hmatches hstorable
  | hint h hscope => exact commits_hint ht hmatches

/-! ## Runs -/

theorem loadable_initial : (Tables.initial codec).Loadable scope where
  sound := sound_initial
  announced := @announced_after codec scope []
  state := by simp [Tables.initial]
  kept := by simp [Tables.initial]
  turnover := by simp [Tables.initial]
  untraded := by simp [Tables.initial]
  hints := by
    intro hintId row hrow
    cases hrow
  events := by simp [Tables.initial]

/-- Every write of the run matches its tables and can be stored. -/
def Fitting (codec : CatalogCodec) (ops : List (CatalogOp scope)) : Prop :=
  ∀ before op after, ops = before ++ op :: after →
    op.Matches (Tables.after codec before) ∧ op.Storable (Tables.after codec before)

theorem Fitting.before {before after : List (CatalogOp scope)}
    (h : Fitting codec (before ++ after)) : Fitting codec before := by
  rintro first op rest rfl
  exact h first op (rest ++ after) (by simp)

theorem after_append (ops : List (CatalogOp scope)) (op : CatalogOp scope) :
    Tables.after codec (ops ++ [op]) = (op.exec (Tables.after codec ops)).2 := by
  simp [Tables.after]

theorem loadable_after (ops : List (CatalogOp scope)) (h : Fitting codec ops) :
    (Tables.after codec ops).Loadable scope := by
  induction ops using List.reverseRecOn with
  | nil => exact loadable_initial
  | append_singleton ops op ih =>
    obtain ⟨hmatches, hstorable⟩ := h ops op [] rfl
    rw [after_append]
    exact (commits_of_matches (ih h.before) hmatches hstorable).loadable

/-- In a run whose writes match their tables and can be stored, every write commits, and the loads
after it return what it computed of what the loads before it returned. The rows decode to the
instruments that they were made of. -/
theorem run_reloads (codec : CatalogCodec) (scope : CatalogScope) (ops : List (CatalogOp scope))
    (hrun : Fitting codec ops) (before after : List (CatalogOp scope)) (op : CatalogOp scope)
    (hops : ops = before ++ op :: after) :
    let t := Tables.after codec before
    let t' := Tables.after codec (before ++ [op])
    (∃ result, op.exec t = (.ok result, t')) ∧
      ∃ view view', loadView scope t = .ok view ∧ loadView scope t' = .ok view' ∧
        (∀ key, op.Computes t key (instrumentOf view.instruments key)
          (instrumentOf view'.instruments key)) ∧
        (∀ key row, t'.instruments.get? key = some row → ∃ item ∈ view'.instruments,
          InstrumentRow.ofInstrument codec item = .ok row ∧
            row.toInstrument scope key = .ok item) ∧
        ∀ includeMissing, ∃ snapshot, loadCatalog scope includeMissing t' = .ok snapshot ∧
          ∀ item, item ∈ snapshot.instruments ↔
            item ∈ view'.instruments ∧ (includeMissing || item.1.present) = true := by
  intro t t'
  obtain ⟨hmatches, hstorable⟩ := hrun before op after hops
  have hbefore : t.Loadable scope := loadable_after before (hops ▸ hrun).before
  have hcommits := commits_of_matches hbefore hmatches hstorable
  have hnext : t' = (op.exec t).2 := after_append before op
  have hafter : t'.Loadable scope := hnext ▸ hcommits.loadable
  obtain ⟨result, hresult⟩ := hcommits.committed
  obtain ⟨view, hview, -, hmembers⟩ := exists_loadView hbefore
  obtain ⟨view', hview', hlisted, hmembers'⟩ := exists_loadView hafter
  refine ⟨⟨result, Prod.ext hresult hnext.symm⟩, view, view', hview, hview', ?_, ?_, ?_⟩
  · intro key
    obtain ⟨r, hr⟩ := hbefore.sound.encoded key
    obtain ⟨r', hr'⟩ := hafter.sound.encoded key
    rw [hmembers key r hr, hmembers' key r' hr']
    exact hcommits.computed key r r' hr (hnext ▸ hr')
  · intro key row hrow
    obtain ⟨item, hload, hrecords⟩ := exists_toInstrument hafter (Dict.get?_eq_some.1 hrow)
    have hitem := (hlisted item).2 ⟨key, hrecords⟩
    obtain ⟨row', hrow', hof⟩ := hrecords
    rw [hrow] at hrow'
    cases hrow'
    exact ⟨item, hitem, hof.row_eq, hload⟩
  · intro includeMissing
    obtain ⟨snapshot, hsnapshot, hitems⟩ := exists_loadCatalog hafter includeMissing
    refine ⟨snapshot, hsnapshot, fun item => ?_⟩
    rw [hitems, hlisted]
    exact and_comm

theorem matches_listedSnapshot (lifecycle : FrozenJson) :
    (CatalogOp.snapshot (listedSnapshot lifecycle) 0 rfl).Matches (Tables.initial codec) := by
  refine ⟨by decide, by simp [Tables.initial], ?_⟩
  intro record hrecord
  obtain rfl := List.mem_singleton.1 hrecord
  intro h
  cases h

theorem run_reloads_object :
    let op : CatalogOp ⟨.okx, .spot⟩ := .snapshot (listedSnapshot (freezeJson (.object []))) 0 rfl
    ∃ result, op.exec (Tables.initial .plain) = (.ok result, Tables.after .plain [op]) := by
  intro op
  refine (run_reloads .plain ⟨.okx, .spot⟩ [op] ?_ [] [] op rfl).1
  intro before other after hops
  obtain ⟨rfl, rfl, rfl⟩ : before = [] ∧ other = op ∧ after = [] := by
    cases before with
    | nil => simpa [eq_comm] using hops
    | cons first rest => simp at hops
  refine ⟨matches_listedSnapshot _, ?_, by simp [Tables.after, Tables.initial], by decide⟩
  intro record hrecord
  obtain rfl := List.mem_singleton.1 hrecord
  exact ⟨rfl, _, rfl⟩

/-- A snapshot whose lifecycle is `None` matches the tables and commits, and then nothing can be
loaded. -/
theorem null_lifecycle_not_reloaded :
    let op : CatalogOp ⟨.okx, .spot⟩ := .snapshot (listedSnapshot (freezeJson .null)) 0 rfl
    let t := Tables.after .plain [op]
    op.Matches (Tables.initial .plain) ∧ (op.exec (Tables.initial .plain)).1.isOk = true ∧
      (loadView ⟨.okx, .spot⟩ t).isOk = false ∧
      (loadCatalog ⟨.okx, .spot⟩ true t).isOk = false := by
  intro op t
  exact ⟨matches_listedSnapshot _, by decide +kernel, by decide +kernel, by decide +kernel⟩

end CryptoCollector.Selection
