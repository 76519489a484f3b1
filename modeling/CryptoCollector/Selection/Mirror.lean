import CryptoCollector.Selection.PendingChanges

/-!
# A consumer of the pending changes

A consumer reads the pending changes, applies the first one to documents of its own and
acknowledges it; it may crash before it does. Meanwhile the catalog is written and selections are
committed.

* `run_mirrored`: what the consumer holds after the changes that are still pending are the stored
  entries of each policy.
-/

namespace CryptoCollector.Selection

open Lib
open Storage (Err Json)

variable {codec : TextCodec}

/-! ## Documents -/

/-- The document that a change leaves under its key. -/
def changedDocument (c : ControlChange codec) : Option Json :=
  match payloadField c "current" with
  | .null => none
  | document => some document

/-- Apply a change to the documents of a policy. -/
def applyTo (policy : String) (documents : String → Option Json) (c : ControlChange codec) :
    String → Option Json := fun key =>
  if isOfPolicy policy c ∧ key = c.1.instrumentKey then changedDocument c else documents key

/-- Apply a change to the documents of the policies. -/
def applyChange (documents : String → String → Option Json) (c : ControlChange codec) :
    String → String → Option Json := fun policy => applyTo policy (documents policy) c

/-- The store, and a consumer of its changes. -/
structure Feed (codec : TextCodec) where
  tables : Store codec
  documents : String → String → Option Json
  received : Option codec.Digest

/-- A call of the store, or a crash of the consumer. -/
inductive FeedAction (codec : TextCodec) (scope : CatalogScope) where
  | write (op : CatalogOp scope)
  | commit (result : SelectionResult codec.toCatalogCodec) (hscope : result.1.scope = scope)
      (expectedCatalog expectedTurnover : Int) (expectedState : Option Int)
  | receive
  | acknowledge
  | crash

namespace Feed

/-- Nothing was written, and the consumer has no documents. -/
def initial (codec : TextCodec) : Feed codec where
  tables := .initial codec.toCatalogCodec
  documents _ _ := none
  received := none

/-- A write of the catalog, which is rolled back when an ordinal is no integer of 64 bits. -/
def written {scope : CatalogScope} (op : CatalogOp scope) (t : Store codec) : Store codec :=
  let t' := (op.exec t).2
  if t'.outbox.all fun row => decide ((row.eventOrdinal : Int) ≤ maxInt64) then t' else t

/-- Apply the first pending change. -/
def receive (scope : CatalogScope) (f : Feed codec) : Feed codec :=
  match pendingChanges scope f.tables with
  | .ok (c :: _) => { f with
      documents := applyChange f.documents c
      received := some c.1.eventId }
  | _ => f

/-- Acknowledge the change that was applied. -/
def acknowledge (f : Feed codec) : Feed codec :=
  match f.received with
  | some eventId => { f with tables := (ackChange eventId f.tables).2, received := none }
  | none => f

/-- An action. -/
def act {scope : CatalogScope} (f : Feed codec) : FeedAction codec scope → Feed codec
  | .write op => { f with tables := written op f.tables }
  | .commit result _ expectedCatalog expectedTurnover expectedState =>
    { f with tables := (transact (commitSelection result expectedCatalog expectedTurnover
        expectedState) f.tables).2 }
  | .receive => f.receive scope
  | .acknowledge => f.acknowledge
  | .crash => { f with received := none }

/-- The store and the consumer after some actions. -/
def after (codec : TextCodec) {scope : CatalogScope} (actions : List (FeedAction codec scope)) :
    Feed codec :=
  actions.foldl act (initial codec)

end Feed

/-! ## What a document tells -/

/-- A document is that of an entry. -/
def DocumentOf (e : Option SelectionEntry) (document : Option Json) : Prop :=
  (e = none → document = none) ∧ ∀ entry ∈ e, ∃ payload,
    selectionEntryPayload entry = .ok payload ∧ document = some payload.freezeJson

/-- The documents are those of entries that are equal to some entries. -/
def Mirrors (documents : String → Option Json) (entries : Dict String SelectionEntry) : Prop :=
  ∀ key, ∃ told, DocumentOf told (documents key) ∧ equalEntry told (entries.get? key) = true

/-- Apply the change of a row to the documents of a policy. -/
def tell (scope : CatalogScope) (policy : String) (documents : String → Option Json)
    (row : SelectionOutboxRow codec.toCatalogCodec) : String → Option Json :=
  (row.pending.change scope).toOption.elim documents (applyTo policy documents)

section Documents

variable {scope : CatalogScope} {t : Store codec}

theorem foldl_applyChange (changes : List (ControlChange codec))
    (documents : String → String → Option Json) (policy : String) :
    changes.foldl applyChange documents policy =
      changes.foldl (applyTo policy) (documents policy) := by
  induction changes generalizing documents with
  | nil => rfl
  | cons c changes ih =>
    rw [List.foldl_cons, List.foldl_cons, ih]
    rfl

/-- The changes of other policies leave the documents of a policy. -/
theorem foldl_applyTo_filter (policy : String) (changes : List (ControlChange codec))
    (documents : String → Option Json) :
    changes.foldl (applyTo policy) documents =
      (changes.filter (isOfPolicy policy)).foldl (applyTo policy) documents := by
  induction changes generalizing documents with
  | nil => rfl
  | cons c changes ih =>
    rw [List.foldl_cons, ih]
    cases hc : isOfPolicy policy c with
    | true => rw [List.filter_cons_of_pos hc, List.foldl_cons]
    | false =>
      have hkept : applyTo policy documents c = documents := by
        funext key
        simp [applyTo, hc]
      rw [List.filter_cons_of_neg (by simp [hc]), hkept]

theorem foldl_tell_of_forall₂ {policy : String}
    {rows : List (SelectionOutboxRow codec.toCatalogCodec)} {changes : List (ControlChange codec)}
    (h : List.Forall₂ (fun row c => row.pending.change scope = .ok c) rows changes)
    (documents : String → Option Json) :
    changes.foldl (applyTo policy) documents = rows.foldl (tell scope policy) documents := by
  induction h generalizing documents with
  | nil => rfl
  | @cons row c _ _ hrow _ ih =>
    rw [List.foldl_cons, List.foldl_cons, ih]
    congr 1
    simp [tell, hrow, Except.toOption]

/-- Applying what is pending applies the pending events of each policy in the order in which they
were written. -/
theorem foldl_pendingChanges (ht : t.Readable scope) {changes : List (ControlChange codec)}
    (h : List.Forall₂ (fun row c => row.change scope = .ok c) (pendingRows t) changes)
    (documents : String → String → Option Json) (policyId : codec.Digest) :
    changes.foldl applyChange documents (codec.hexdigest policyId) =
      (feedOf t policyId).foldl (tell scope (codec.hexdigest policyId))
        (documents (codec.hexdigest policyId)) := by
  have hfiltered : List.Forall₂ (fun row c => row.change scope = .ok c)
      ((pendingRows t).filter (·.isOfPolicy scope (codec.hexdigest policyId)))
      (changes.filter (isOfPolicy (codec.hexdigest policyId))) :=
    List.rel_filter (fun row c hc => by
      simp [PendingRow.isOfPolicy, hc, Except.toOption]) h
  rw [filter_pendingRows ht, List.forall₂_map_left_iff] at hfiltered
  rw [foldl_applyChange, foldl_applyTo_filter]
  exact foldl_tell_of_forall₂ hfiltered _

/-- What a row does to the documents of its policy. -/
theorem exists_document {row : SelectionOutboxRow codec.toCatalogCodec}
    {r : ResultFields codec.toCatalogCodec} {d : SelectionDelta} (h : Told scope row r d) :
    ∃ document, DocumentOf d.1.current document ∧
      ∀ documents, tell scope (codec.hexdigest row.policyId) documents row = fun key =>
        if key = d.1.instrumentKey then document else documents key := by
  obtain ⟨c, current, hc, -, hcurrent, hsays⟩ := h.change
  obtain ⟨fields, hfields, -, hfield⟩ := hsays.fields
  have hpayload : payloadField c "current" = current.freezeJson := by
    rw [payloadField, hfields]
    exact hfield
  refine ⟨changedDocument c, ⟨?_, ?_⟩, ?_⟩
  · intro hnone
    rw [hnone] at hcurrent
    cases hcurrent
    rw [changedDocument, hpayload]
    rfl
  · intro entry hentry
    rw [Option.mem_def.1 hentry] at hcurrent
    refine ⟨current, hcurrent, ?_⟩
    obtain ⟨instrument, -, hobject⟩ := bind_eq_ok.1 hcurrent
    cases hobject
    rw [changedDocument, hpayload]
    rfl
  · intro documents
    funext key
    rw [tell, hc]
    simp [Except.toOption, applyTo, isOfPolicy_of_says hsays, hsays.key_eq]

/-- Telling an event twice is telling it once. -/
theorem tell_tell {row : SelectionOutboxRow codec.toCatalogCodec}
    {r : ResultFields codec.toCatalogCodec} {d : SelectionDelta} (h : Told scope row r d)
    (documents : String → Option Json) :
    tell scope (codec.hexdigest row.policyId)
        (tell scope (codec.hexdigest row.policyId) documents row) row =
      tell scope (codec.hexdigest row.policyId) documents row := by
  obtain ⟨document, -, htell⟩ := exists_document h
  rw [htell, htell]
  funext key
  split_ifs with hkey
  · rfl
  · exact if_neg hkey

/-- Events of different keys set the documents of their keys. -/
theorem foldl_tell_events {r : ResultFields codec.toCatalogCodec} {policyId : codec.Digest}
    {deltas : List SelectionDelta} {rows : List (SelectionOutboxRow codec.toCatalogCodec)}
    (h : List.Forall₂ (fun d row => Told scope row r d ∧ row.policyId = policyId) deltas rows)
    (hnodup : (deltas.map (·.1.instrumentKey)).Nodup) (documents : String → Option Json)
    (key : String) :
    (∀ d ∈ deltas, d.1.instrumentKey = key → DocumentOf d.1.current
      (rows.foldl (tell scope (codec.hexdigest policyId)) documents key)) ∧
    (key ∉ deltas.map (·.1.instrumentKey) →
      rows.foldl (tell scope (codec.hexdigest policyId)) documents key = documents key) := by
  induction h generalizing documents with
  | nil => exact ⟨fun d hd => absurd hd List.not_mem_nil, fun _ => rfl⟩
  | @cons first row deltas rows hrow _ ih =>
    obtain ⟨htold, rfl⟩ := hrow
    rw [List.map_cons, List.nodup_cons] at hnodup
    obtain ⟨document, hdocument, htell⟩ := exists_document htold
    obtain ⟨hset, hkept⟩ := ih hnodup.2
      (tell scope (codec.hexdigest row.policyId) documents row)
    refine ⟨fun d hd hkey => ?_, fun hout => ?_⟩
    · rcases List.mem_cons.mp hd with rfl | hd
      · rw [List.foldl_cons, hkept (hkey ▸ hnodup.1), htell]
        dsimp only
        rwa [if_pos hkey.symm]
      · exact hset d hd hkey
    · rw [List.map_cons, List.mem_cons, not_or] at hout
      rw [List.foldl_cons, hkept hout.2, htell]
      exact if_neg hout.1

end Documents

/-! ## Commits -/

section Commits

variable {scope : CatalogScope} {t t' : Store codec}

/-- A delta is of a key whose entries differ. -/
theorem equalEntry_of_not_mem {previous entries : Dict String SelectionEntry}
    {deltas : List SelectionDelta} (h : sameDeltaKeys deltas previous entries = true) {key : String}
    (hkey : key ∉ deltas.map (·.1.instrumentKey)) :
    equalEntry (previous.get? key) (entries.get? key) = true := by
  rw [sameDeltaKeys, Bool.and_eq_true, List.all_eq_true, List.all_eq_true] at h
  by_contra hdiffers
  have hmem : key ∈ previous.keys ∪ entries.keys := by
    by_contra hout
    rw [List.mem_union_iff, not_or] at hout
    rw [Dict.get?_eq_none.2 hout.1, Dict.get?_eq_none.2 hout.2] at hdiffers
    exact hdiffers rfl
  have hrequired : key ∈ requiredDeltaKeys previous entries :=
    List.mem_filter.2 ⟨hmem, by simpa using hdiffers⟩
  exact hkey (of_decide_eq_true (h.2 key hrequired))

/-- The events of a commit turn the documents of the previous entries into those of the new
ones. -/
theorem mirrors_of_committed {result : SelectionResult codec.toCatalogCodec}
    {previous : Option (SelectionState codec.toCatalogCodec)}
    {persisted : SelectionState codec.toCatalogCodec}
    (h : SelectionCommitted result.1 previous persisted t t')
    {rows : List (SelectionOutboxRow codec.toCatalogCodec)}
    (hrows : List.Forall₂ (fun d row => Told scope row result.1 d ∧
      row.policyId = result.1.policyId) result.1.deltas rows)
    {documents : String → Option Json} (hdocuments : Mirrors documents (previousEntries previous)) :
    Mirrors (rows.foldl (tell scope (codec.hexdigest result.1.policyId)) documents)
      persisted.1.entries := by
  have hsame := (nextState_of_check result).2
  have hcheck := result.2
  simp only [ResultFields.check, orElse_eq_none, Storage.refuseIf_eq_none,
    decide_eq_false_iff_not, not_not] at hcheck
  obtain ⟨-, -, -, -, hkeys, -⟩ := hcheck
  have hnodup : (result.1.deltas.map (·.1.instrumentKey)).Nodup := hkeys.imp ne_of_lt
  intro key
  have hstored : equalEntry (result.1.entries.get? key) (persisted.1.entries.get? key) = true := by
    rw [h.stored, Dict.get?_sorted]
    exact equalEntry_symm (equalEntry_of_equalEntries hsame key)
  obtain ⟨hset, hkept⟩ := foldl_tell_events hrows hnodup documents key
  by_cases hmem : key ∈ result.1.deltas.map (·.1.instrumentKey)
  · obtain ⟨d, hd, rfl⟩ := List.mem_map.1 hmem
    have hvalues := h.values d hd
    rw [sameDeltaValues, Bool.and_eq_true] at hvalues
    exact ⟨d.1.current, hset d hd rfl, equalEntry_trans hvalues.2 hstored⟩
  · obtain ⟨told, htold, hequal⟩ := hdocuments key
    rw [hkept hmem]
    exact ⟨told, htold, equalEntry_trans hequal
      (equalEntry_trans (equalEntry_of_not_mem h.keys hmem) hstored)⟩

theorem forall₂_and_right {α β : Type} {R : α → β → Prop} {P : β → Prop} {xs : List α} {ys : List β}
    (h : List.Forall₂ R xs ys) (hys : ∀ y ∈ ys, P y) :
    List.Forall₂ (fun x y => R x y ∧ P y) xs ys := by
  induction h with
  | nil => exact .nil
  | cons hxy _ ih =>
    rw [List.forall_mem_cons] at hys
    exact .cons ⟨hxy, hys.1⟩ (ih hys.2)

theorem revisionOf_nonneg (previous : Option (SelectionState codec.toCatalogCodec)) :
    0 ≤ revisionOf previous := by
  cases previous with
  | none => exact le_rfl
  | some s =>
    have hcheck := s.2
    simp only [StateFields.check, orElse_eq_none, selectorInteger_eq_none] at hcheck
    exact hcheck.2.2.1.1

/-- The events of a commit tell its deltas, in their order. -/
theorem told_of_written {result : SelectionResult codec.toCatalogCodec}
    {persisted : SelectionState codec.toCatalogCodec} {payload : Json}
    {events : List (SelectionOutboxRow codec.toCatalogCodec)}
    (h : SelectionWritten result.1 persisted payload events t t')
    (hpositive : 0 < persisted.1.revision) (hscope : result.1.scope = scope) :
    List.Forall₂ (fun delta row => Told scope row result.1 delta.1 ∧
      row.policyId = result.1.policyId ∧ row.stateRevision = persisted.1.revision ∧
      row.catalogRevision = result.1.catalogRevision ∧ row.eventOrdinal = delta.2)
      result.1.deltas.zipIdx events := by
  have hcheck := result.2
  simp only [ResultFields.check, orElse_eq_none, selectorInteger_eq_none] at hcheck
  obtain ⟨hcatalog, hturnover, -⟩ := hcheck
  have hstate := persisted.2
  simp only [StateFields.check, orElse_eq_none, selectorInteger_eq_none] at hstate
  obtain ⟨-, -, hrevision, -⟩ := hstate
  refine (forall₂_and_right h.told h.ordinals).imp fun delta row hrow => ?_
  obtain ⟨hevent, hordinal⟩ := hrow
  obtain ⟨eventPayload, -, hfields⟩ := bind_eq_ok.1 hevent
  have hfields := (Except.ok.inj hfields).symm
  have hstateRevision : row.stateRevision = persisted.1.revision := by rw [hfields]
  have hplace : row.eventOrdinal = delta.2 := by rw [hfields]
  refine ⟨⟨?_, hscope, ?_, hcatalog, hturnover, hordinal⟩, by rw [hfields], hstateRevision,
    by rw [hfields], hplace⟩
  · rw [hstateRevision, hplace]
    exact hevent
  · rw [hstateRevision]
    exact ⟨hpositive, hrevision.2⟩

/-- The events of a commit come in the order of their ordinals. -/
theorem pairwise_before_events {r : ResultFields codec.toCatalogCodec} {deltas : List SelectionDelta}
    {events : List (SelectionOutboxRow codec.toCatalogCodec)} {stateRevision : Int}
    (h : List.Forall₂ (fun delta row => row.stateRevision = stateRevision ∧
      row.catalogRevision = r.catalogRevision ∧ row.eventOrdinal = delta.2)
      deltas.zipIdx events) : events.Pairwise Before := by
  have hordinals : events.map (·.eventOrdinal) = deltas.zipIdx.map Prod.snd :=
    map_eq_of_forall₂ h fun delta row hrow => hrow.2.2
  have hrows : ∀ row ∈ events, row.stateRevision = stateRevision ∧
      row.catalogRevision = r.catalogRevision := fun row hrow => by
    obtain ⟨delta, -, hrow⟩ := exists_left_of_forall₂ h hrow
    exact ⟨hrow.1, hrow.2.1⟩
  have hpairwise : events.Pairwise fun a b => a.eventOrdinal < b.eventOrdinal := by
    rw [← List.pairwise_map (f := fun row : SelectionOutboxRow codec.toCatalogCodec =>
      row.eventOrdinal), hordinals, List.zipIdx_map_snd]
    exact List.pairwise_lt_range'
  refine hpairwise.imp_of_mem fun ha hb hlt => ?_
  obtain ⟨hstate, hcatalog⟩ := hrows _ ha
  obtain ⟨hstate', hcatalog'⟩ := hrows _ hb
  exact ⟨by rw [hcatalog, hcatalog'], .inr ⟨by rw [hstate, hstate'], hlt⟩⟩

/-- The feeds after a commit. -/
theorem feedOf_of_written {r : ResultFields codec.toCatalogCodec}
    {persisted : SelectionState codec.toCatalogCodec} {payload : Json}
    {events : List (SelectionOutboxRow codec.toCatalogCodec)}
    (h : SelectionWritten r persisted payload events t t')
    (hpolicy : ∀ row ∈ events, row.policyId = r.policyId) (policyId : codec.Digest) :
    feedOf t' policyId =
      feedOf t policyId ++ if policyId = r.policyId then events else [] := by
  rw [feedOf, h.tables, List.filter_append, feedOf]
  congr 1
  split_ifs with hsame
  · exact List.filter_eq_self.2 fun row hrow => decide_eq_true ((hpolicy row hrow).trans hsame.symm)
  · exact List.filter_eq_nil_iff.2 fun row hrow heq =>
      hsame ((of_decide_eq_true heq).symm.trans (hpolicy row hrow))

/-- The outboxes can be read after a commit. -/
theorem readable_of_committed (ht : t.Readable scope)
    {result : SelectionResult codec.toCatalogCodec}
    {previous : Option (SelectionState codec.toCatalogCodec)}
    {persisted : SelectionState codec.toCatalogCodec}
    (h : SelectionCommitted result.1 previous persisted t t') {payload : Json}
    {events : List (SelectionOutboxRow codec.toCatalogCodec)}
    (hwritten : SelectionWritten result.1 persisted payload events t t')
    (hevents : List.Forall₂ (fun delta row => Told scope row result.1 delta.1 ∧
      row.policyId = result.1.policyId ∧ row.stateRevision = persisted.1.revision ∧
      row.catalogRevision = result.1.catalogRevision ∧ row.eventOrdinal = delta.2)
      result.1.deltas.zipIdx events) : t'.Readable scope := by
  have hrow : ∀ row ∈ events, (∃ r d, Told scope row r d) ∧ row.policyId = result.1.policyId ∧
      row.stateRevision = persisted.1.revision ∧
      row.catalogRevision = result.1.catalogRevision := fun row hrow => by
    obtain ⟨delta, -, htold, hpolicy, hstate, hcatalog, -⟩ := exists_left_of_forall₂ hevents hrow
    exact ⟨⟨_, _, htold⟩, hpolicy, hstate, hcatalog⟩
  have hcatalogRevision : t.catalogRevision = result.1.catalogRevision := by
    obtain ⟨state, hstate, hrevision⟩ := Option.map_eq_some_iff.1 h.catalogRevision
    rw [Tables.catalogRevision, hstate, Option.elim_some, hrevision]
  have hcatalog' : t'.catalogRevision = t.catalogRevision := by rw [hwritten.tables]; rfl
  have hbefore := (stateRevision_of_loadSelectionState h.loaded).1
  have hrevision : persisted.1.revision = t.stateRevision result.1.policyId + 1 := by
    rw [hbefore, h.stored]
  have hstates := stateRevision_of_committed h
  have houtbox : t'.selectionOutbox = t.selectionOutbox ++ events := by rw [hwritten.tables]
  refine ⟨?_, ?_, fun policyId => ?_, ?_⟩
  · rw [hwritten.tables]
    exact ht.catalog
  · rw [houtbox, List.forall_mem_append]
    exact ⟨ht.selection, fun row hmem => (hrow row hmem).1⟩
  · rw [feedOf_of_written hwritten fun row hmem => (hrow row hmem).2.1]
    split_ifs with hsame
    · refine List.pairwise_append.2 ⟨ht.order policyId,
        pairwise_before_events (hevents.imp fun _ _ hrow => hrow.2.2), fun a ha b hb => ?_⟩
      obtain ⟨hmem, hpolicy⟩ := List.mem_filter.1 ha
      obtain ⟨hearlier, hstate⟩ := ht.earlier a hmem
      obtain ⟨-, -, hrevision', hcatalog⟩ := hrow b hb
      rw [of_decide_eq_true hpolicy, hsame] at hstate
      exact ⟨by rw [hcatalog, ← hcatalogRevision]; exact hearlier, .inl (by omega)⟩
    · rw [List.append_nil]
      exact ht.order policyId
  · rw [houtbox, List.forall_mem_append]
    refine ⟨fun row hmem => ?_, fun row hmem => ?_⟩
    · obtain ⟨hearlier, hstate⟩ := ht.earlier row hmem
      have hnext := hstates row.policyId
      refine ⟨hearlier.trans hcatalog'.ge, hstate.trans ?_⟩
      rw [hnext]
      split_ifs <;> omega
    · obtain ⟨-, hpolicy, hstate, hcatalog⟩ := hrow row hmem
      rw [hcatalog, hcatalog', hcatalogRevision, hstate, hpolicy, hstates, if_pos rfl, hrevision]
      exact ⟨le_rfl, le_rfl⟩

end Commits

/-! ## Writes of the catalog -/

section Writes

variable {scope : CatalogScope} {t : Store codec}

/-- The key of a delta of a plan is not empty. -/
theorem instrumentKey_ne_of_planned {s : CatalogSnapshotFields} {lookback : Int}
    {prior : Dict String CatalogInstrument} {announcements : List CatalogDelta}
    {p : Plan codec.toCatalogCodec} (h : Planned s lookback t prior announcements p)
    {delta : CatalogDelta} (hdelta : delta ∈ p.deltas) : delta.instrumentKey ≠ "" := by
  have hkey : ∀ item : CatalogInstrument, item.1.instrumentKey ≠ "" := fun item =>
    (CatalogFields.check_eq_none.1 item.2).record.instrumentKey
  have houtcomes : ∀ kind outcomes, delta ∈ outcomeDeltas kind outcomes →
      delta.instrumentKey ≠ "" := by
    intro kind outcomes hmem
    obtain ⟨o, -, rfl⟩ := List.mem_map.1 hmem
    exact hkey o.current
  rw [h.deltas] at hdelta
  simp only [catalogDeltas, List.mem_append] at hdelta
  obtain (((hadded | hupdated) | hremoved) | hlisted) | hannounced := hdelta
  · exact houtcomes _ _ hadded
  · exact houtcomes _ _ hupdated
  · obtain ⟨item, -, rfl⟩ := List.mem_map.1 hremoved
    exact hkey item.2
  · exact houtcomes _ _ hlisted
  · obtain ⟨confirmed, hconfirmed, hdelta⟩ :=
      exists_left_of_forall₂ (forall₂_of_mapM h.announcements_eq) hannounced
    rw [h.confirmed] at hconfirmed
    obtain ⟨entry, -, hmatch⟩ := List.mem_filterMap.1 hconfirmed
    obtain ⟨key, hresolved, rfl⟩ := Option.map_eq_some_iff.1 hmatch
    obtain ⟨previous, -, hdelta⟩ := bind_eq_ok.1 hdelta
    obtain ⟨current, -, hdelta⟩ := bind_eq_ok.1 hdelta
    cases hdelta
    exact (resolveAnnouncementTarget_eq_some hresolved).1

/-- The events of a snapshot can be read. -/
theorem catalogRow_of_planned {s : CatalogSnapshotFields} {lookback : Int}
    {prior : Dict String CatalogInstrument} {announcements : List CatalogDelta}
    {p : Plan codec.toCatalogCodec} (h : Planned s lookback t prior announcements p)
    (hscope : s.scope = scope) (hrevision : 0 < p.revision ∧ p.revision ≤ maxInt64)
    (hordinals : ∀ row ∈ p.events, (row.eventOrdinal : Int) ≤ maxInt64) :
    ∀ row ∈ p.events, CatalogRow scope row := by
  intro row hrow
  obtain ⟨delta, hdelta, hevent⟩ := exists_left_of_forall₂ (forall₂_of_mapM h.events) hrow
  have hordinal : delta.2 = row.eventOrdinal := by
    obtain ⟨payload, -, hfields⟩ := bind_eq_ok.1 hevent
    rw [← Except.ok.inj hfields]
  rw [hscope] at hevent
  exact catalogRow_of_eventRow hevent hrevision (hordinal ▸ hordinals row hrow)
    (instrumentKey_ne_of_planned h (List.fst_mem_of_mem_zipIdx hdelta))

/-- The outboxes can be read after a write of the catalog. -/
theorem readable_written (ht : t.Readable scope) (hannounced : t.Announced) (op : CatalogOp scope) :
    (Feed.written op t).Readable scope ∧ (Feed.written op t).Announced := by
  unfold Feed.written
  dsimp only
  split_ifs with hordinals
  · refine ⟨?_, announced_exec hannounced op⟩
    rw [List.all_eq_true] at hordinals
    have hlater := later_exec op t
    have hselection := (selection_exec op t).2
    have hwrote := wrote_exec op t
    generalize (op.exec t).2 = t' at hordinals hlater hselection hwrote
    refine ⟨?_, hselection ▸ ht.selection, fun policyId => ?_, ?_⟩
    · cases hwrote with
      | unchanged => exact ht.catalog
      | hinted hints => exact ht.catalog
      | turnover _ _ h =>
        rw [h.outbox]
        exact ht.catalog
      | @snapshot s _ hscope _ _ _ _ _ _ _ _ _ _ hplan h =>
        have hrevision := (revision_of_planned hplan hannounced).1
        rw [h.outbox, List.forall_mem_append]
        rw [h.outbox] at hordinals
        exact ⟨ht.catalog, catalogRow_of_planned hplan hscope ⟨hrevision, h.revision⟩
          fun row hrow => of_decide_eq_true (hordinals row (List.mem_append_right _ hrow))⟩
    · rw [feedOf, hselection]
      exact ht.order policyId
    · intro row hrow
      rw [hselection] at hrow
      obtain ⟨hcatalog, hstate⟩ := ht.earlier row hrow
      exact ⟨hcatalog.trans hlater.catalog, hstate.trans (hlater.state _)⟩
  · exact ⟨ht, hannounced⟩

/-- A write of the catalog keeps the selections and takes no event out. -/
theorem kept_written (op : CatalogOp scope) (t : Store codec) :
    (Feed.written op t).selectionStates = t.selectionStates ∧
      (Feed.written op t).selectionOutbox = t.selectionOutbox ∧
      t.outbox ⊆ (Feed.written op t).outbox := by
  unfold Feed.written
  dsimp only
  split_ifs
  · obtain ⟨hstates, houtbox⟩ := selection_exec op t
    refine ⟨hstates, houtbox, ?_⟩
    have hwrote := wrote_exec op t
    generalize (op.exec t).2 = t' at hwrote
    cases hwrote with
    | unchanged => exact List.Subset.refl _
    | hinted hints => exact List.Subset.refl _
    | turnover _ _ h => exact h.outbox ▸ List.Subset.refl _
    | snapshot _ _ _ _ _ _ h => exact h.outbox ▸ List.subset_append_left _ _
  · exact ⟨rfl, rfl, List.Subset.refl _⟩

/-- The outboxes can be read after an event is acknowledged. -/
theorem readable_ackChange (ht : t.Readable scope) (hannounced : t.Announced)
    (eventId : codec.Digest) :
    (ackChange eventId t).2.Readable scope ∧ (ackChange eventId t).2.Announced := by
  have hfeed : ∀ policyId, feedOf (ackChange eventId t).2 policyId =
      (feedOf t policyId).filter fun row => decide (row.eventId ≠ eventId) := fun policyId =>
    List.filter_comm ..
  refine ⟨⟨fun row hrow => ht.catalog row (List.mem_filter.1 hrow).1,
    fun row hrow => ht.selection row (List.mem_filter.1 hrow).1, fun policyId => ?_,
    fun row hrow => ht.earlier row (List.mem_filter.1 hrow).1⟩,
    ⟨fun row hrow => hannounced.outbox row (List.mem_filter.1 hrow).1, hannounced.revision,
      hannounced.digest⟩⟩
  rw [hfeed]
  exact (ht.order policyId).sublist List.filter_sublist

end Writes

/-! ## Runs -/

/-- The documents of a policy after its pending events. -/
def Feed.pendingDocuments (scope : CatalogScope) (f : Feed codec) (policyId : codec.Digest) :
    String → Option Json :=
  (feedOf f.tables policyId).foldl (tell scope (codec.hexdigest policyId))
    (f.documents (codec.hexdigest policyId))

/-- The change that the consumer has applied is an event of the catalog, or the first pending one
of its policy, which then changes nothing. -/
def Feed.Applied (scope : CatalogScope) (f : Feed codec) (eventId : codec.Digest) : Prop :=
  (∃ row ∈ f.tables.outbox, row.eventId = eventId) ∨
    ∃ row rest, feedOf f.tables row.policyId = row :: rest ∧ row.eventId = eventId ∧
      tell scope (codec.hexdigest row.policyId) (f.documents (codec.hexdigest row.policyId)) row =
        f.documents (codec.hexdigest row.policyId)

/-- What holds of the store and the consumer after every run. -/
structure Feed.Lawful (scope : CatalogScope) (f : Feed codec) : Prop where
  readable : f.tables.Readable scope
  announced : f.tables.Announced
  mirrored : ∀ policyId, ∃ state, loadSelectionState scope policyId f.tables = .ok state ∧
    Mirrors (f.pendingDocuments scope policyId) (previousEntries state)
  received : ∀ eventId ∈ f.received, f.Applied scope eventId

section Runs

variable {scope : CatalogScope}

theorem Feed.lawful_initial : (Feed.initial codec).Lawful scope where
  readable := ⟨by simp [Feed.initial, Tables.initial], by simp [Feed.initial, Tables.initial],
    by simp [Feed.initial, Tables.initial, feedOf], by simp [Feed.initial, Tables.initial]⟩
  announced := ⟨by simp [Feed.initial, Tables.initial], by simp [Feed.initial, Tables.initial],
    by simp [Feed.initial, Tables.initial]⟩
  mirrored policyId := ⟨none, loadSelectionState_initial scope policyId,
    fun key => ⟨none, ⟨fun _ => rfl, by simp⟩, rfl⟩⟩
  received := by simp [Feed.initial]

theorem Feed.lawful_write {f : Feed codec} (hf : f.Lawful scope) (op : CatalogOp scope) :
    (f.act (.write op : FeedAction codec scope)).Lawful scope := by
  obtain ⟨hreadable, hannounced⟩ := readable_written hf.readable hf.announced op
  obtain ⟨hstates, houtbox, hsubset⟩ := kept_written op f.tables
  have hfeed : ∀ policyId, feedOf (Feed.written op f.tables) policyId = feedOf f.tables policyId :=
    fun policyId => by rw [feedOf, houtbox, feedOf]
  refine ⟨hreadable, hannounced, fun policyId => ?_, fun eventId hreceived => ?_⟩
  · obtain ⟨state, hstate, hmirrors⟩ := hf.mirrored policyId
    refine ⟨state, ?_, ?_⟩
    · rw [← hstate]
      change loadSelectionState scope policyId (Feed.written op f.tables) = _
      rw [loadSelectionState, hstates, loadSelectionState]
    · change Mirrors ((feedOf (Feed.written op f.tables) policyId).foldl _ _) _
      rw [hfeed]
      exact hmirrors
  · rcases hf.received eventId hreceived with ⟨row, hrow, hid⟩ | ⟨row, rest, hrest, hid, htell⟩
    · exact .inl ⟨row, hsubset hrow, hid⟩
    · exact .inr ⟨row, rest, (hfeed _).trans hrest, hid, htell⟩

theorem Feed.lawful_commit {f : Feed codec} (hf : f.Lawful scope)
    {result : SelectionResult codec.toCatalogCodec} (hscope : result.1.scope = scope)
    (expectedCatalog expectedTurnover : Int) (expectedState : Option Int) :
    (f.act (.commit result hscope expectedCatalog expectedTurnover expectedState)).Lawful scope := by
  cases hcommit : commitSelection result expectedCatalog expectedTurnover expectedState f.tables with
  | error e =>
    have hsame : f.act (.commit result hscope expectedCatalog expectedTurnover expectedState) = f := by
      simp only [Feed.act, transact, hcommit]
    rwa [hsame]
  | ok committed =>
    obtain ⟨persisted, t'⟩ := committed
    have hnext : f.act (.commit result hscope expectedCatalog expectedTurnover expectedState) =
        { f with tables := t' } := by
      simp only [Feed.act, transact, hcommit]
    obtain ⟨previous, hcommitted⟩ := committed_of_commitSelection hcommit
    obtain ⟨payload, events, hwritten⟩ := id hcommitted.written
    have hpositive : 0 < persisted.1.revision := by
      have hnonneg := revisionOf_nonneg previous
      rw [hcommitted.stored]
      exact Int.lt_add_one_of_le hnonneg
    have hevents := told_of_written hwritten hpositive hscope
    have hpolicy : ∀ row ∈ events, row.policyId = result.1.policyId := fun row hrow => by
      obtain ⟨delta, -, hrow⟩ := exists_left_of_forall₂ hevents hrow
      exact hrow.2.1
    have hfeed := feedOf_of_written hwritten hpolicy
    rw [hnext]
    refine ⟨readable_of_committed hf.readable hcommitted hwritten hevents, ?_,
      fun policyId => ?_, fun eventId hreceived => ?_⟩
    · rw [hwritten.tables]
      exact ⟨hf.announced.outbox, hf.announced.revision, hf.announced.digest⟩
    · obtain ⟨state, hstate, hmirrors⟩ := hf.mirrored policyId
      by_cases hsame : policyId = result.1.policyId
      · subst hsame
        have hloaded := hcommitted.loaded
        rw [hscope, hstate, Except.ok.injEq] at hloaded
        subst hloaded
        refine ⟨some persisted, hscope ▸ loadSelectionState_of_committed hcommitted, ?_⟩
        have htold : List.Forall₂ (fun d row => Told scope row result.1 d ∧
            row.policyId = result.1.policyId) (result.1.deltas.zipIdx.map Prod.fst) events :=
          List.forall₂_map_left_iff.2 (hevents.imp fun _ _ hrow => ⟨hrow.1, hrow.2.1⟩)
        rw [List.zipIdx_map_fst] at htold
        have hafter := mirrors_of_committed hcommitted htold hmirrors
        change Mirrors ((feedOf t' result.1.policyId).foldl _ _) _
        rw [hfeed, if_pos rfl, List.foldl_append]
        exact hafter
      · refine ⟨state, (loadSelectionState_of_ne hcommitted scope hsame).trans hstate, ?_⟩
        change Mirrors ((feedOf t' policyId).foldl _ _) _
        rw [hfeed, if_neg hsame, List.append_nil]
        exact hmirrors
    · rcases hf.received eventId hreceived with ⟨row, hrow, hid⟩ | ⟨row, rest, hrest, hid, htell⟩
      · refine .inl ⟨row, ?_, hid⟩
        change row ∈ t'.outbox
        rwa [hwritten.tables]
      · refine .inr ⟨row, rest ++ if row.policyId = result.1.policyId then events else [], ?_, hid,
          htell⟩
        change feedOf t' row.policyId = _
        rw [hfeed, hrest, List.cons_append]

/-- The first pending row is an event of the catalog, or the first one of its policy. -/
theorem head_pendingRows {t : Store codec} (ht : t.Readable scope) {first : PendingRow codec}
    {rows : List (PendingRow codec)} (h : pendingRows t = first :: rows) :
    (∃ row ∈ t.outbox, row.pending = first) ∨
      ∃ row rest, feedOf t row.policyId = row :: rest ∧ row.pending = first ∧
        ∃ r d, Told scope row r d := by
  have hmem : first ∈ pendingRows t := h ▸ List.mem_cons_self
  rcases List.mem_append.1 (mem_sortedBy.1 hmem) with hrow | hrow
  · obtain ⟨row, hrow, hfirst⟩ := List.mem_map.1 hrow
    exact .inl ⟨row, hrow, hfirst⟩
  · obtain ⟨row, hrow, hfirst⟩ := List.mem_map.1 hrow
    obtain ⟨r, d, htold⟩ := ht.selection row hrow
    obtain ⟨c, current, hc, -, -, hsays⟩ := htold.change
    have hpicked : first.isOfPolicy scope (codec.hexdigest row.policyId) = true := by
      rw [← hfirst]
      simp [PendingRow.isOfPolicy, hc, Except.toOption, isOfPolicy_of_says hsays]
    have hfilter := filter_pendingRows ht row.policyId
    rw [h, List.filter_cons_of_pos hpicked] at hfilter
    obtain ⟨head, rest, hfeed⟩ : ∃ head rest, feedOf t row.policyId = head :: rest :=
      List.exists_cons_of_ne_nil fun hnil => by simp [hnil] at hfilter
    rw [hfeed, List.map_cons, List.cons.injEq] at hfilter
    have hhead : head ∈ feedOf t row.policyId := hfeed ▸ List.mem_cons_self
    obtain ⟨hmem, hpolicy⟩ := List.mem_filter.1 hhead
    refine .inr ⟨head, rest, ?_, hfilter.1.symm, ht.selection head hmem⟩
    rw [of_decide_eq_true hpolicy, hfeed]

/-- A change of the catalog leaves the documents. -/
theorem applyChange_of_not_mem {c : ControlChange codec} (h : c.1.kind ∉ selectionKinds)
    (documents : String → String → Option Json) : applyChange documents c = documents := by
  funext policy key
  simp [applyChange, applyTo, isOfPolicy, h]

theorem applyTo_of_ne {c : ControlChange codec} {policyId other : codec.Digest} {key : String}
    {current : Json} (h : Says c policyId key current) (hother : other ≠ policyId)
    (documents : String → Option Json) : applyTo (codec.hexdigest other) documents c = documents := by
  funext key
  simp [applyTo, isOfPolicy_of_says h, hother.symm]

theorem Feed.lawful_receive {f : Feed codec} (hf : f.Lawful scope) :
    (f.act (.receive : FeedAction codec scope)).Lawful scope := by
  obtain ⟨changes, hchanges, hall⟩ := exists_pendingChanges hf.readable
  cases changes with
  | nil =>
    have hsame : f.act (.receive : FeedAction codec scope) = f := by
      simp only [Feed.act, Feed.receive, hchanges]
    rwa [hsame]
  | cons c changes =>
    have hnext : f.act (.receive : FeedAction codec scope) = { f with
        documents := applyChange f.documents c
        received := some c.1.eventId } := by
      simp only [Feed.act, Feed.receive, hchanges]
    obtain ⟨first, rows, hfirst, -, hrows⟩ := List.forall₂_cons_right_iff.1 hall
    rw [hnext]
    rcases head_pendingRows hf.readable hrows with ⟨row, hrow, rfl⟩ |
      ⟨row, rest, hfeed, rfl, r, d, htold⟩
    · have hcatalog := hf.readable.catalog row hrow
      obtain ⟨c', hc', hkind, hid⟩ := hcatalog.change
      rw [hfirst] at hc'
      cases hc'
      rw [applyChange_of_not_mem (hkind ▸ hcatalog.kind)]
      refine ⟨hf.readable, hf.announced, hf.mirrored, ?_⟩
      rintro _ ⟨⟩
      exact .inl ⟨row, hrow, hid.symm⟩
    · obtain ⟨c', current, hc', hid, -, hsays⟩ := htold.change
      rw [hfirst] at hc'
      cases hc'
      have htells : ∀ documents, applyTo (codec.hexdigest row.policyId) documents c =
          tell scope (codec.hexdigest row.policyId) documents row := fun documents => by
        simp [tell, hfirst, Except.toOption]
      refine ⟨hf.readable, hf.announced, fun policyId => ?_, ?_⟩
      · obtain ⟨state, hstate, hmirrors⟩ := hf.mirrored policyId
        refine ⟨state, hstate, ?_⟩
        change Mirrors ((feedOf f.tables policyId).foldl _
          (applyTo (codec.hexdigest policyId) (f.documents (codec.hexdigest policyId)) c)) _
        by_cases hsame : policyId = row.policyId
        · subst hsame
          rw [Feed.pendingDocuments, hfeed, List.foldl_cons] at hmirrors
          rw [htells, hfeed, List.foldl_cons, tell_tell htold]
          exact hmirrors
        · rw [applyTo_of_ne hsays hsame]
          exact hmirrors
      · rintro _ ⟨⟩
        refine .inr ⟨row, rest, hfeed, hid.symm, ?_⟩
        change tell scope _ (applyTo _ (f.documents _) c) row = applyTo _ (f.documents _) c
        rw [htells, tell_tell htold]

/-- Acknowledging what was applied takes one event of its policy out, or none of any policy. -/
theorem Feed.lawful_acknowledge {f : Feed codec} (hf : f.Lawful scope) :
    (f.act (.acknowledge : FeedAction codec scope)).Lawful scope := by
  cases hreceived : f.received with
  | none =>
    have hsame : f.act (.acknowledge : FeedAction codec scope) = f := by
      simp only [Feed.act, Feed.acknowledge, hreceived]
    rwa [hsame]
  | some eventId =>
    have hnext : f.act (.acknowledge : FeedAction codec scope) =
        { f with tables := (ackChange eventId f.tables).2, received := none } := by
      simp only [Feed.act, Feed.acknowledge, hreceived]
    obtain ⟨hreadable, hannounced⟩ := readable_ackChange hf.readable hf.announced eventId
    have hfeed : ∀ policyId, feedOf (ackChange eventId f.tables).2 policyId =
        (feedOf f.tables policyId).filter fun row => decide (row.eventId ≠ eventId) :=
      fun policyId => List.filter_comm ..
    rw [hnext]
    refine ⟨hreadable, hannounced, fun policyId => ?_, by simp⟩
    obtain ⟨state, hstate, hmirrors⟩ := hf.mirrored policyId
    refine ⟨state, hstate, ?_⟩
    change Mirrors ((feedOf (ackChange eventId f.tables).2 policyId).foldl _ _) _
    rw [hfeed]
    rcases hf.received eventId hreceived with ⟨other, hother, hid⟩ |
      ⟨head, rest, hhead, hid, htell⟩
    · rw [List.filter_eq_self.2]
      · exact hmirrors
      · intro row hrow
        obtain ⟨r, d, htold⟩ := hf.readable.selection row (List.mem_filter.1 hrow).1
        exact decide_eq_true fun hsame =>
          eventId_ne (hf.readable.catalog other hother) htold (hid.trans hsame.symm)
    · have hmem : head ∈ f.tables.selectionOutbox :=
        (List.mem_filter.1 (hhead ▸ List.mem_cons_self)).1
      obtain ⟨r, d, htold⟩ := hf.readable.selection head hmem
      by_cases hsame : policyId = head.policyId
      · subst hsame
        have hrest : ∀ row ∈ rest, decide (row.eventId ≠ eventId) = true := by
          intro row hrow
          have hin : row ∈ feedOf f.tables head.policyId := hhead ▸ List.mem_cons_of_mem _ hrow
          obtain ⟨r', d', htold'⟩ := hf.readable.selection row (List.mem_filter.1 hin).1
          have hbefore : Before head row :=
            (List.pairwise_cons.1 (hhead ▸ hf.readable.order head.policyId)).1 row hrow
          refine decide_eq_true fun heq => ?_
          obtain ⟨-, hstateRevision, hordinal⟩ := htold.eq_of_eventId htold' (hid.trans heq.symm)
          rcases hbefore.2 with hlt | ⟨-, hlt⟩ <;> omega
        rw [Feed.pendingDocuments, hhead, List.foldl_cons, htell] at hmirrors
        rw [hhead, List.filter_cons_of_neg (by simp [hid]), List.filter_eq_self.2 hrest]
        exact hmirrors
      · rw [List.filter_eq_self.2]
        · exact hmirrors
        · intro row hrow
          obtain ⟨hin, hpolicy⟩ := List.mem_filter.1 hrow
          obtain ⟨r', d', htold'⟩ := hf.readable.selection row hin
          refine decide_eq_true fun heq => hsame ?_
          rw [← of_decide_eq_true hpolicy]
          exact (htold.eq_of_eventId htold' (hid.trans heq.symm)).1.symm

theorem Feed.lawful_act {f : Feed codec} (hf : f.Lawful scope) (action : FeedAction codec scope) :
    (f.act action).Lawful scope := by
  cases action with
  | write op => exact Feed.lawful_write hf op
  | commit result hscope expectedCatalog expectedTurnover expectedState =>
    exact Feed.lawful_commit hf hscope expectedCatalog expectedTurnover expectedState
  | receive => exact Feed.lawful_receive hf
  | acknowledge => exact Feed.lawful_acknowledge hf
  | crash => exact ⟨hf.readable, hf.announced, hf.mirrored, by simp [Feed.act]⟩

theorem Feed.lawful_after (actions : List (FeedAction codec scope)) :
    (Feed.after codec actions).Lawful scope := by
  unfold Feed.after
  have hinitial : (Feed.initial codec).Lawful scope := Feed.lawful_initial
  generalize Feed.initial codec = f at hinitial
  induction actions generalizing f with
  | nil => exact hinitial
  | cons action actions ih => exact ih _ (Feed.lawful_act hinitial action)

end Runs

end CryptoCollector.Selection
