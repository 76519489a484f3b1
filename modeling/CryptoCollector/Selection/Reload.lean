import CryptoCollector.Selection.Outbox

/-!
# Loading the catalog

What the tables must be like for a catalog to be loaded, and that it is: the decoders accept every
row, and the views pass their checks.

* `Tables.Loadable`: the invariant of the tables.
* `exists_loadInstruments`: the instruments that are loaded are those that are recorded.
* `exists_loadView`, `exists_loadCatalog`: both loads return.
-/

namespace CryptoCollector.Selection

open Lib
open Storage (Err Json)

variable {codec : CatalogCodec} {scope : CatalogScope}

/-! ## Loadable tables -/

/-- The texts of a JSON array. -/
def Texts (codec : CatalogCodec) (blob : codec.Blob) (texts : List String) : Prop :=
  blob = codec.encodeJson (.list (texts.map .str)) ∧ texts.Nodup ∧ "" ∉ texts

/-- The page references of a header. -/
def References (codec : CatalogCodec) (blob : codec.Blob) : Prop :=
  ∃ texts, texts ≠ [] ∧ Texts codec blob texts

/-- The lifecycle is an object that has a typed node. -/
def Reloads (lifecycle : FrozenJson) : Prop :=
  InstrumentRow.isObject lifecycle.1 = true ∧ ∃ node, typedJsonNode lifecycle.1 = .ok node

/-- The catalog columns of the row of a scope. -/
structure ScopeRow.Holds (state : ScopeRow codec) : Prop where
  observed : 0 ≤ state.lastObservedAtNs ∧ state.lastObservedAtNs ≤ maxInt64
  snapshotId : state.snapshotId ≠ ""
  pages : References codec state.pageRawReferencesJson

/-- The turnover columns of the row of a scope, with the keys that they cover. -/
structure TurnoverHeader.Holds (scope : CatalogScope) (t : Tables codec) (state : ScopeRow codec)
    (header : TurnoverHeader codec) (covered : List String) : Prop where
  observed : 0 ≤ header.lastObservedAtNs ∧ header.lastObservedAtNs ≤ maxInt64
  revision : 0 < header.revision ∧ header.revision ≤ maxInt64
  snapshotId : header.snapshotId ≠ ""
  pages : References codec header.pageRawReferencesJson
  texts : Texts codec header.coveredKeysJson covered
  catalogRevision : 0 < header.catalogRevision ∧ header.catalogRevision ≤ state.revision
  later : header.catalogRevision = state.revision →
    state.lastObservedAtNs ≤ header.lastObservedAtNs
  members : ∀ key ∈ covered, ∃ o, Records scope t key (some o) ∧
    (header.catalogRevision = state.revision → o.1.present = true)
  turnover : ∀ key o, Records scope t key (some o) → ∀ x ∈ o.1.turnover,
    key ∈ covered ∧ x.1.observedAtNs = some header.lastObservedAtNs

/-- What is recorded of an instrument. -/
structure ScopeRow.Kept (state : ScopeRow codec) (o : CatalogInstrument) : Prop where
  lifecycle : Reloads o.1.lifecycle
  generation : o.1.listingGeneration ≤ state.revision
  present : o.1.present = true → o.1.lastSeenNs = state.lastObservedAtNs
  missing : o.1.present = false → o.1.lastSeenNs < state.lastObservedAtNs

/-- The row is the row of a hint. -/
def HintRow.Holds (scope : CatalogScope) (hintId : String) (row : HintRow) : Prop :=
  ∃ hint, row.toHint scope hintId = .ok hint

/-- The tables can be loaded. -/
structure Tables.Loadable (scope : CatalogScope) (t : Tables codec) : Prop where
  sound : t.Sound scope
  announced : t.Announced
  state : ∀ state ∈ t.state, state.Holds
  kept : ∀ state ∈ t.state, ∀ key o, Records scope t key (some o) → state.Kept o
  turnover : ∀ state ∈ t.state, ∀ header ∈ state.turnover,
    ∃ covered, header.Holds scope t state covered
  untraded : ∀ state ∈ t.state, state.turnover = none →
    ∀ key o, Records scope t key (some o) → o.1.turnover = none
  hints : ∀ hintId row, t.hints.get? hintId = some row → row.Holds scope hintId
  events : ∀ row ∈ t.outbox, 0 < row.catalogRevision ∧ (row.eventOrdinal : Int) ≤ maxInt64 ∧
    ∃ kind key, row.eventId =
      controlEventId codec scope row.catalogRevision row.eventOrdinal kind key

/-! ## Instruments -/

theorem RowOf.toInstrument_eq {key : String} {row : InstrumentRow codec}
    {item : CatalogInstrument} (h : RowOf scope key row item)
    (hobject : InstrumentRow.isObject item.1.lifecycle.1 = true) :
    row.toInstrument scope key = .ok item := by
  have hrow := InstrumentRow.toInstrument_ofInstrument h.row_eq
  rwa [h.scope_eq, h.key_eq, if_pos hobject] at hrow

/-- Every row decodes to what is recorded. -/
theorem exists_toInstrument {t : Tables codec} (ht : t.Loadable scope) {key : String}
    {row : InstrumentRow codec} (hrow : (key, row) ∈ t.instruments.entries) :
    ∃ item, row.toInstrument scope key = .ok item ∧ Records scope t key (some item) := by
  obtain ⟨r, hr⟩ := ht.sound.encoded key
  have hget := Dict.get?_eq_some.2 hrow
  cases r with
  | none =>
    rw [Records, hget] at hr
    cases hr
  | some item =>
    have hrecords := hr
    obtain ⟨row', hrow', hof⟩ := hr
    rw [hget] at hrow'
    cases hrow'
    obtain ⟨state, hstate, -⟩ := ht.sound.seen key item hrecords
    have hkept := ht.kept state hstate key item hrecords
    exact ⟨item, hof.toInstrument_eq hkept.lifecycle.1, hrecords⟩

theorem exists_loadPriorRecords {t : Tables codec} (ht : t.Loadable scope) :
    ∃ prior, loadPriorRecords scope t = .ok prior := by
  obtain ⟨prior, hprior⟩ := Dict.mapValuesM_total
    (f := fun key (row : InstrumentRow codec) => row.toInstrument scope key)
    (d := t.instruments) fun e he => by
      obtain ⟨item, hitem, -⟩ := exists_toInstrument ht he
      exact ⟨item, hitem⟩
  exact ⟨prior, by rw [loadPriorRecords, hprior]; rfl⟩

/-- The instruments of some rows are what is recorded under their keys. -/
theorem exists_loadInstruments {t : Tables codec} (ht : t.Loadable scope)
    (p : String × InstrumentRow codec → Bool) :
    ∃ items, loadInstruments scope (t.instruments.entries.filter p) = .ok items ∧
      (items.map (·.1.instrumentKey)).Nodup ∧
      ∀ item, item ∈ items ↔ ∃ key row, Records scope t key (some item) ∧
        t.instruments.get? key = some row ∧ p (key, row) = true := by
  have hrows : ∀ row ∈ sortedBy Prod.fst (t.instruments.entries.filter p),
      ∃ item, row.2.toInstrument scope row.1 = .ok item := by
    intro row hrow
    have hmem := (List.mem_filter.1 (mem_sortedBy.1 hrow)).1
    obtain ⟨item, hitem, -⟩ := exists_toInstrument ht hmem
    exact ⟨item, hitem⟩
  obtain ⟨items, hitems⟩ := mapM_total hrows
  have hall := forall₂_of_mapM hitems
  refine ⟨items, by rw [loadInstruments, hitems]; rfl, ?_, ?_⟩
  · have hkeys : ∀ row ∈ sortedBy Prod.fst (t.instruments.entries.filter p), ∀ item,
        row.2.toInstrument scope row.1 = .ok item → item.1.instrumentKey = row.1 := by
      intro row hrow item hitem
      have hmem := (List.mem_filter.1 (mem_sortedBy.1 hrow)).1
      obtain ⟨item', hitem', hrecords⟩ := exists_toInstrument ht hmem
      rw [hitem] at hitem'
      cases hitem'
      obtain ⟨row', -, hof⟩ := hrecords
      exact hof.key_eq
    have hmapped : items.map (·.1.instrumentKey) =
        (sortedBy Prod.fst (t.instruments.entries.filter p)).map Prod.fst :=
      map_eq_of_forall₂ ((List.forall₂_and_left _ _).2 ⟨hkeys, hall⟩) fun row item h =>
        h.1 item h.2
    rw [hmapped]
    exact nodup_map_sortedBy (t.instruments.nodup.sublist (List.filter_sublist.map _))
  · intro item
    constructor
    · intro hitem
      obtain ⟨row, hrow, hload⟩ := exists_left_of_forall₂ hall hitem
      obtain ⟨hmem, hp⟩ := List.mem_filter.1 (mem_sortedBy.1 hrow)
      obtain ⟨item', hitem', hrecords⟩ := exists_toInstrument ht hmem
      rw [hload] at hitem'
      cases hitem'
      exact ⟨row.1, row.2, hrecords, Dict.get?_eq_some.2 hmem, hp⟩
    · rintro ⟨key, row, hrecords, hget, hp⟩
      have hmem := Dict.get?_eq_some.1 hget
      obtain ⟨item', hitem', hload⟩ := exists_right_of_forall₂ hall
        (mem_sortedBy.2 (List.mem_filter.2 ⟨hmem, hp⟩))
      obtain ⟨item'', hload', hrecords'⟩ := exists_toInstrument ht hmem
      rw [hload] at hload'
      cases hload'
      cases hrecords.unique hrecords'
      exact hitem'

/-- All instruments: the one with a key is what is recorded under it. -/
theorem instrumentOf_eq {t : Tables codec} {items : List CatalogInstrument}
    (hnodup : (items.map (·.1.instrumentKey)).Nodup)
    (hitems : ∀ item, item ∈ items ↔ ∃ key, Records scope t key (some item)) {key : String}
    {r : Option CatalogInstrument} (hr : Records scope t key r) :
    instrumentOf items key = r := by
  have hkey : ∀ item, ∀ key', Records scope t key' (some item) → item.1.instrumentKey = key' := by
    rintro item key' ⟨row, -, hof⟩
    exact hof.key_eq
  cases r with
  | none =>
    rw [instrumentOf, List.find?_eq_none]
    intro item hitem hsame
    obtain ⟨key', hrecords⟩ := (hitems item).1 hitem
    obtain rfl := (hkey item key' hrecords).symm.trans (of_decide_eq_true hsame)
    cases hrecords.unique hr
  | some item =>
    have hmem := (hitems item).2 ⟨key, hr⟩
    rw [instrumentOf, ← hkey item key hr]
    exact find?_key_of_mem hnodup hmem

/-! ## Views -/

theorem decodeStringArray_of_texts {blob : codec.Blob} {texts : List String}
    (h : Texts codec blob texts) (field : String) :
    decodeStringArray codec blob field = .ok texts := by
  obtain ⟨rfl, hnodup, hempty⟩ := h
  have hplain : (Json.list (texts.map .str)).Plain := by
    refine Json.plainItems_iff.2 ?_
    intro item hitem
    obtain ⟨text, -, rfl⟩ := List.mem_map.1 hitem
    trivial
  have hall : (texts.map Json.str).all (fun item => (textOf item).isSome) = true := by
    simp [textOf]
  have hmap : (texts.map Json.str).map (fun item => (textOf item).getD "") = texts := by
    simp [textOf, Function.comp_def]
  rw [decodeStringArray, codec.decodeJson_encodeJson _ hplain, ok_bind]
  simp only [hall, if_true, hmap]
  rw [if_pos ⟨hnodup, hempty⟩]

theorem nonemptyStringTuple_of_texts {blob : codec.Blob} {texts : List String}
    (h : Texts codec blob texts) (hne : texts ≠ []) (field : String) :
    nonemptyStringTuple texts field = none := by
  obtain ⟨-, hnodup, hempty⟩ := h
  simp only [nonemptyStringTuple, orElse_eq_none, Storage.refuseIf_eq_none,
    List.findSome?_eq_none_iff, nonemptyString_eq_none, decide_eq_false_iff_not, not_not]
  refine ⟨by simpa using hne, ?_, hnodup⟩
  rintro text htext rfl
  exact hempty htext

theorem viewInstrumentsCheck_eq_none {mismatch duplicate : String}
    {more : CatalogInstrument → Option Err} {items : List CatalogInstrument}
    (hscope : ∀ item ∈ items, item.1.scope = scope)
    (hnodup : (items.map (·.1.instrumentKey)).Nodup)
    (hmore : ∀ item ∈ items, more item = none) {keys : List String}
    (hkeys : ∀ item ∈ items, item.1.instrumentKey ∉ keys) :
    viewInstrumentsCheck scope mismatch duplicate more keys items = none := by
  induction items generalizing keys with
  | nil => rfl
  | cons item items ih =>
    rw [List.map_cons, List.nodup_cons] at hnodup
    have hscope' := hscope item List.mem_cons_self
    have hkey := hkeys item List.mem_cons_self
    have hitem := hmore item List.mem_cons_self
    simp only [viewInstrumentsCheck, orElse_eq_none, Storage.refuseIf_eq_none,
      decide_eq_false_iff_not, not_not]
    refine ⟨hscope', hkey, hitem,
      ih (fun other hother => hscope other (List.mem_cons_of_mem _ hother)) hnodup.2
        (fun other hother => hmore other (List.mem_cons_of_mem _ hother)) ?_⟩
    intro other hother hmem
    rcases List.mem_cons.1 hmem with heq | hmem
    · exact hnodup.1 (heq ▸ List.mem_map_of_mem hother)
    · exact hkeys other (List.mem_cons_of_mem _ hother) hmem

/-- `load_catalog` returns what is recorded. -/
theorem exists_loadCatalog {t : Tables codec} (ht : t.Loadable scope) (includeMissing : Bool) :
    ∃ snapshot, loadCatalog scope includeMissing t = .ok snapshot ∧
      ∀ item, item ∈ snapshot.instruments ↔ (includeMissing || item.1.present) = true ∧
        ∃ key, Records scope t key (some item) := by
  obtain ⟨items, hitems, hnodup, hmem⟩ := exists_loadInstruments ht
    fun row => includeMissing || decide (row.2.present = 1)
  have hpresent : ∀ key row item, Records scope t key (some item) →
      t.instruments.get? key = some row → (row.present = 1 ↔ item.1.present = true) := by
    rintro key row item ⟨row', hrow', hof⟩ hrow
    rw [hrow] at hrow'
    cases hrow'
    rw [(InstrumentRow.seen_ofInstrument hof.row_eq).2]
    cases item.1.present <;> decide
  have hlisted : ∀ item, item ∈ items ↔ (includeMissing || item.1.present) = true ∧
      ∃ key, Records scope t key (some item) := by
    intro item
    rw [hmem]
    constructor
    · rintro ⟨key, row, hrecords, hrow, hp⟩
      refine ⟨?_, key, hrecords⟩
      have := hpresent key row item hrecords hrow
      simpa [this] using hp
    · rintro ⟨hp, key, hrecords⟩
      obtain ⟨row, hrow, hof⟩ := hrecords
      have := hpresent key row item ⟨row, hrow, hof⟩ hrow
      exact ⟨key, row, ⟨row, hrow, hof⟩, hrow, by simpa [this] using hp⟩
  have hscope : ∀ item ∈ items, item.1.scope = scope := by
    intro item hitem
    obtain ⟨-, key, row, -, hof⟩ := (hlisted item).1 hitem
    exact hof.scope_eq
  have hinstruments : viewInstrumentsCheck scope "instrument scope does not match catalog scope"
      "catalog instrument keys must be unique" (fun _ => none) [] items = none :=
    viewInstrumentsCheck_eq_none hscope hnodup (fun _ _ => rfl) (by simp)
  let snapshot : CatalogSnapshot codec := {
    scope
    observedAtNs := t.state.map (·.lastObservedAtNs)
    revision := t.state.elim 0 (·.revision)
    digestSha256 := t.state.map (·.snapshotDigest)
    complete := t.state.isSome
    instruments := items }
  have hcheck : snapshot.check = none := by
    cases hstate : t.state with
    | none =>
      have hempty : items = [] := by
        rw [List.eq_nil_iff_forall_not_mem]
        intro item hitem
        obtain ⟨-, key, hrecords⟩ := (hlisted item).1 hitem
        obtain ⟨state, hsome, -⟩ := ht.sound.seen key item hrecords
        rw [hstate] at hsome
        cases hsome
      have hrange : (0 : Int) ≤ 0 ∧ (0 : Int) ≤ maxInt64 := ⟨le_refl _, by decide⟩
      simp [CatalogSnapshot.check, snapshot, hstate, hempty, viewInstrumentsCheck, hrange,
        Storage.refuseIf]
    | some state =>
      obtain ⟨hpositive, hle⟩ := ht.announced.revision state hstate
      have hobserved := (ht.state state hstate).observed
      have hrevision : state.revision ≠ 0 := by omega
      simp only [CatalogSnapshot.check, snapshot, hstate, hinstruments, orElse_eq_none,
        optionalNonnegativeInt_eq_none, nonnegativeInt_eq_none, Storage.refuseIf_eq_none]
      simp [hrevision, hpositive, hle, hpositive.le, hobserved]
  refine ⟨snapshot, ?_, hlisted⟩
  have hload : loadCatalog scope includeMissing t =
      raising (checked snapshot.check (.ok snapshot)) := by
    rw [loadCatalog, hitems]
    rfl
  rw [hload, hcheck]
  rfl

/-- The texts that a header column decodes to, or none without a header. -/
theorem exists_decoded {α : Type} (header : Option α) {column : α → codec.Blob} (field : String)
    (h : ∀ a ∈ header, References codec (column a)) :
    ∃ texts, raising (header.elim (.ok []) fun a => decodeStringArray codec (column a) field) =
      .ok texts ∧ (header = none → texts = []) ∧
      (∀ a ∈ header, texts ≠ [] ∧ Texts codec (column a) texts) := by
  cases header with
  | none => exact ⟨[], rfl, fun _ => rfl, by simp⟩
  | some a =>
    obtain ⟨texts, hne, htexts⟩ := h a rfl
    refine ⟨texts, ?_, by simp, ?_⟩
    · rw [Option.elim_some, decodeStringArray_of_texts htexts]
      rfl
    · rintro b ⟨⟩
      exact ⟨hne, htexts⟩

/-- The keys that a header covers. -/
theorem exists_covered {t : Tables codec} (ht : t.Loadable scope) :
    ∃ covered, raising ((t.state.bind (·.turnover)).elim (.ok []) fun h =>
        decodeStringArray codec h.coveredKeysJson "turnover covered instrument keys") =
      .ok covered ∧ (t.state.bind (·.turnover) = none → covered = []) ∧
      ∀ state ∈ t.state, ∀ header ∈ state.turnover, header.Holds scope t state covered := by
  cases hstate : t.state with
  | none => exact ⟨[], rfl, fun _ => rfl, by simp⟩
  | some state =>
    cases hheader : state.turnover with
    | none =>
      refine ⟨[], ?_, fun _ => rfl, ?_⟩
      · rw [Option.bind_some, hheader]
        rfl
      · rintro _ ⟨⟩ header hmem
        rw [hheader] at hmem
        cases hmem
    | some header =>
      obtain ⟨covered, hholds⟩ := ht.turnover state hstate header hheader
      refine ⟨covered, ?_, ?_, ?_⟩
      · rw [Option.bind_some, hheader, Option.elim_some, decodeStringArray_of_texts hholds.texts]
        rfl
      · rw [Option.bind_some, hheader]
        nofun
      · rintro _ ⟨⟩ other hother
        rw [hheader] at hother
        cases hother
        exact hholds

theorem catalogCheck_eq_none {t : Tables codec} (ht : t.Loadable scope) {v : CatalogView codec}
    (hobserved : v.catalogObservedAtNs = t.state.map (·.lastObservedAtNs))
    (hrevision : v.catalogRevision = t.state.elim 0 (·.revision))
    (hdigest : v.catalogDigestSha256 = t.state.map (·.snapshotDigest))
    (hid : v.catalogSnapshotId = t.state.map (·.snapshotId))
    (hnone : t.state = none → v.catalogPageRawReferences = [])
    (hpages : ∀ state ∈ t.state, v.catalogPageRawReferences ≠ [] ∧
      Texts codec state.pageRawReferencesJson v.catalogPageRawReferences) :
    v.catalogCheck = none := by
  cases hstate : t.state with
  | none =>
    simp only [hstate, Option.map_none, Option.elim_none] at hobserved hrevision hdigest hid
    have hrange : (0 : Int) ≤ 0 ∧ (0 : Int) ≤ maxInt64 := ⟨le_refl _, by decide⟩
    simp [CatalogView.catalogCheck, hobserved, hrevision, hdigest, hid, hnone hstate, hrange,
      Storage.refuseIf]
  | some state =>
    obtain ⟨hpositive, hle⟩ := ht.announced.revision state hstate
    have hholds := ht.state state hstate
    obtain ⟨hne, htexts⟩ := hpages state hstate
    have hnonzero : state.revision ≠ 0 := by omega
    have htuple := nonemptyStringTuple_of_texts htexts hne "catalog_page_raw_references"
    simp only [hstate, Option.map_some, Option.elim_some] at hobserved hrevision hdigest hid
    simp [CatalogView.catalogCheck, hobserved, hrevision, hdigest, hid, hnonzero, htuple,
      requiredString, hholds.snapshotId, hholds.observed, hpositive.le, hle]

theorem turnoverCheck_eq_none {t : Tables codec} (ht : t.Loadable scope) {v : CatalogView codec}
    {header : Option (TurnoverHeader codec)} (hheader : header = t.state.bind (·.turnover))
    (hcovered : ∀ state ∈ t.state, ∀ header ∈ state.turnover,
      header.Holds scope t state v.turnoverCoveredInstrumentKeys)
    (hcatalogObserved : v.catalogObservedAtNs = t.state.map (·.lastObservedAtNs))
    (hcatalogRevision : v.catalogRevision = t.state.elim 0 (·.revision))
    (hobserved : v.turnoverObservedAtNs = header.map (·.lastObservedAtNs))
    (hrevision : v.turnoverRevision = header.elim 0 (·.revision))
    (hdigest : v.turnoverDigestSha256 = header.map (·.snapshotDigest))
    (hbound : v.turnoverCatalogRevision = header.map (·.catalogRevision))
    (hid : v.turnoverSnapshotId = header.map (·.snapshotId))
    (hnone : header = none →
      v.turnoverPageRawReferences = [] ∧ v.turnoverCoveredInstrumentKeys = [])
    (hpages : ∀ h ∈ header, v.turnoverPageRawReferences ≠ [] ∧
      Texts codec h.pageRawReferencesJson v.turnoverPageRawReferences) :
    v.turnoverCheck = none := by
  cases hcase : header with
  | none =>
    obtain ⟨hpagesNil, hcoveredNil⟩ := hnone hcase
    simp only [hcase, Option.map_none, Option.elim_none] at hobserved hrevision hdigest hbound hid
    have hrange : (0 : Int) ≤ 0 ∧ (0 : Int) ≤ maxInt64 := ⟨le_refl _, by decide⟩
    simp [CatalogView.turnoverCheck, hobserved, hrevision, hdigest, hbound, hid, hpagesNil,
      hcoveredNil, hrange, Storage.refuseIf]
  | some h =>
    obtain ⟨state, hstate, hturnover⟩ := Option.bind_eq_some_iff.1 (hheader.symm.trans hcase)
    have hholds := hcovered state hstate h hturnover
    obtain ⟨hpositive, hle⟩ := hholds.revision
    obtain ⟨hboundPositive, hboundLe⟩ := hholds.catalogRevision
    obtain ⟨hne, htexts⟩ := hpages h hcase
    have hnonzero : h.revision ≠ 0 := by omega
    have htuple := nonemptyStringTuple_of_texts htexts hne "turnover_page_raw_references"
    have hmax := (ht.announced.revision state hstate).2
    have hlater := hholds.later
    have hempty : v.turnoverCoveredInstrumentKeys.findSome?
        (nonemptyString · "turnover covered instrument key") = none := by
      rw [List.findSome?_eq_none_iff]
      rintro key hkey
      rw [nonemptyString_eq_none]
      rintro rfl
      exact hholds.texts.2.2 hkey
    simp only [hcase, Option.map_some, Option.elim_some] at hobserved hrevision hdigest hbound hid
    simp only [hstate, Option.map_some, Option.elim_some] at hcatalogObserved hcatalogRevision
    simp only [CatalogView.turnoverCheck, hobserved, hrevision, hdigest, hbound, hid,
      hcatalogObserved, hcatalogRevision, if_neg hnonzero, htuple, hempty, requiredString,
      orElse_eq_none, optionalNonnegativeInt_eq_none, nonnegativeInt_eq_none,
      Storage.refuseIf_eq_none, Option.getD_some, nonemptyString_eq_none]
    refine ⟨?_, ⟨hpositive.le, hle⟩, ?_, ?_, ?_, ?_, ?_, ?_, ?_, hholds.snapshotId, trivial,
      trivial, ?_⟩
    · rintro n ⟨⟩
      exact hholds.observed
    · rintro n ⟨⟩
      omega
    · simp [hnonzero]
    · simp [hnonzero]
    · simp [hnonzero]
    · simpa using hboundPositive.ne'
    · simpa using hboundLe
    · simpa using hlater
    · simpa using hholds.texts.2.1

/-- The instruments of a view agree with its headers. -/
theorem presenceCheck_eq_none {t : Tables codec} (ht : t.Loadable scope) {v : CatalogView codec}
    (hobserved : v.catalogObservedAtNs = t.state.map (·.lastObservedAtNs)) {key : String}
    {item : CatalogInstrument} (hitem : Records scope t key (some item)) :
    v.presenceCheck item = none := by
  cases hstate : t.state with
  | none => simp [CatalogView.presenceCheck, hobserved, hstate]
  | some state =>
    have hkept := ht.kept state hstate key item hitem
    simp only [CatalogView.presenceCheck, hobserved, hstate, Option.map_some, Option.bind_some,
      orElse_eq_none, Storage.refuseIf_eq_none]
    cases hpresent : item.1.present with
    | true => simp [hkept.present hpresent]
    | false => simp [hkept.missing hpresent]

theorem turnoverValueCheck_eq_none {t : Tables codec} (ht : t.Loadable scope)
    {v : CatalogView codec}
    (hcovered : ∀ state ∈ t.state, ∀ header ∈ state.turnover,
      header.Holds scope t state v.turnoverCoveredInstrumentKeys)
    (hobserved : v.turnoverObservedAtNs = (t.state.bind (·.turnover)).map (·.lastObservedAtNs))
    (hrevision : v.turnoverRevision = t.state.elim 0 (·.turnoverRevision)) {key : String}
    {item : CatalogInstrument} (hitem : Records scope t key (some item)) :
    v.turnoverValueCheck item = none := by
  obtain ⟨state, hstate, -⟩ := ht.sound.seen key item hitem
  have hkey : item.1.instrumentKey = key := by
    obtain ⟨row, -, hof⟩ := hitem
    exact hof.key_eq
  simp only [hstate, Option.bind_some] at hobserved
  simp only [hstate, Option.elim_some, ScopeRow.turnoverRevision] at hrevision
  cases hheader : state.turnover with
  | none =>
    have hnone := ht.untraded state hstate hheader key item hitem
    simp only [hheader, Option.elim_none] at hrevision
    simp [CatalogView.turnoverValueCheck, hrevision, hnone]
  | some header =>
    have hholds := hcovered state hstate header hheader
    have hturnover := hholds.turnover key item hitem
    have hnonzero : header.revision ≠ 0 := hholds.revision.1.ne'
    simp only [hheader, Option.map_some, Option.elim_some] at hobserved hrevision
    simp only [CatalogView.turnoverValueCheck, hrevision, if_neg hnonzero, hobserved, hkey]
    cases hvalue : item.1.turnover with
    | none => simp [Storage.refuseIf]
    | some x =>
      obtain ⟨hmem, htime⟩ := hturnover x hvalue
      simp [hmem, htime]

/-- The coverage of a view belongs to its instruments. -/
theorem covered_of_holds {t : Tables codec} {state : ScopeRow codec}
    {header : TurnoverHeader codec} {covered : List String}
    (h : header.Holds scope t state covered) {items : List CatalogInstrument}
    (hlisted : ∀ item, item ∈ items ↔ ∃ key, Records scope t key (some item)) {key : String}
    (hkey : key ∈ covered) :
    key ∈ items.map (·.1.instrumentKey) ∧ (header.catalogRevision = state.revision →
      key ∈ (items.filter (·.1.present)).map (·.1.instrumentKey)) := by
  obtain ⟨o, hrecords, hpresent⟩ := h.members key hkey
  have hmem := (hlisted o).2 ⟨key, hrecords⟩
  obtain ⟨row, -, hof⟩ := hrecords
  refine ⟨List.mem_map.2 ⟨o, hmem, hof.key_eq⟩, fun hbound => ?_⟩
  exact List.mem_map.2 ⟨o, List.mem_filter.2 ⟨hmem, hpresent hbound⟩, hof.key_eq⟩

/-- `load_view` returns what is recorded. -/
theorem exists_loadView {t : Tables codec} (ht : t.Loadable scope) :
    ∃ view, loadView scope t = .ok view ∧
      (∀ item, item ∈ view.instruments ↔ ∃ key, Records scope t key (some item)) ∧
      ∀ key r, Records scope t key r → instrumentOf view.instruments key = r := by
  obtain ⟨items, hitems, hnodup, hmem⟩ := exists_loadInstruments ht fun _ => true
  have hlisted : ∀ item, item ∈ items ↔ ∃ key, Records scope t key (some item) := by
    intro item
    rw [hmem]
    constructor
    · rintro ⟨key, row, hrecords, -⟩
      exact ⟨key, hrecords⟩
    · rintro ⟨key, row, hrow, hof⟩
      exact ⟨key, row, ⟨row, hrow, hof⟩, hrow, rfl⟩
  rw [List.filter_true] at hitems
  have hscope : ∀ item ∈ items, item.1.scope = scope := by
    intro item hitem
    obtain ⟨key, row, -, hof⟩ := (hlisted item).1 hitem
    exact hof.scope_eq
  obtain ⟨pages, hpages, hpagesNil, hpagesTexts⟩ := exists_decoded t.state
    "catalog page references" fun state hstate => (ht.state state hstate).pages
  obtain ⟨turnoverPages, hturnoverPages, hturnoverNil, hturnoverTexts⟩ :=
    exists_decoded (t.state.bind (·.turnover)) "turnover page references" fun header hheader => by
        obtain ⟨state, hstate, hturnover⟩ := Option.bind_eq_some_iff.1 hheader
        obtain ⟨covered, hholds⟩ := ht.turnover state hstate header hturnover
        exact hholds.pages
  obtain ⟨covered, hcovered, hcoveredNil, hholds⟩ := exists_covered ht
  let header := t.state.bind (·.turnover)
  let view : CatalogView codec := {
    scope
    catalogObservedAtNs := t.state.map (·.lastObservedAtNs)
    catalogRevision := t.state.elim 0 (·.revision)
    catalogDigestSha256 := t.state.map (·.snapshotDigest)
    catalogSnapshotId := t.state.map (·.snapshotId)
    catalogPageRawReferences := pages
    turnoverObservedAtNs := header.map (·.lastObservedAtNs)
    turnoverRevision := t.state.elim 0 (·.turnoverRevision)
    turnoverDigestSha256 := header.map (·.snapshotDigest)
    turnoverCatalogRevision := header.map (·.catalogRevision)
    turnoverSnapshotId := header.map (·.snapshotId)
    turnoverPageRawReferences := turnoverPages
    turnoverCoveredInstrumentKeys := covered
    instruments := items }
  have hrevision : view.turnoverRevision = header.elim 0 (·.revision) := by
    cases hstate : t.state <;> simp [view, header, hstate, ScopeRow.turnoverRevision]
  have hcatalog : view.catalogCheck = none :=
    catalogCheck_eq_none ht rfl rfl rfl rfl hpagesNil hpagesTexts
  have hturnover : view.turnoverCheck = none :=
    turnoverCheck_eq_none ht rfl hholds rfl rfl rfl hrevision rfl rfl rfl
      (fun h => ⟨hturnoverNil h, hcoveredNil h⟩) hturnoverTexts
  have hinstruments : viewInstrumentsCheck scope
      "instrument scope does not match catalog view scope"
      "catalog view instrument keys must be unique" view.presenceCheck [] items = none := by
    refine viewInstrumentsCheck_eq_none hscope hnodup ?_ (by simp)
    intro item hitem
    obtain ⟨key, hrecords⟩ := (hlisted item).1 hitem
    exact presenceCheck_eq_none ht rfl hrecords
  have hvalues : items.findSome? view.turnoverValueCheck = none := by
    rw [List.findSome?_eq_none_iff]
    intro item hitem
    obtain ⟨key, hrecords⟩ := (hlisted item).1 hitem
    exact turnoverValueCheck_eq_none ht hholds rfl rfl hrecords
  have hbelongs : ∀ key ∈ covered, key ∈ items.map (·.1.instrumentKey) ∧
      (view.turnoverCatalogRevision = some view.catalogRevision →
        key ∈ (items.filter (·.1.present)).map (·.1.instrumentKey)) := by
    intro key hkey
    cases hheader : t.state.bind (·.turnover) with
    | none =>
      rw [hcoveredNil hheader] at hkey
      cases hkey
    | some h =>
      obtain ⟨state, hstate, hstateTurnover⟩ := Option.bind_eq_some_iff.1 hheader
      obtain ⟨hmember, hpresent⟩ :=
        covered_of_holds (hholds state hstate h hstateTurnover) hlisted hkey
      refine ⟨hmember, fun hbound => hpresent ?_⟩
      simpa [view, header, hheader, hstate] using hbound
  have hempty : view.catalogRevision = 0 → items = [] := by
    intro hzero
    rw [List.eq_nil_iff_forall_not_mem]
    intro item hitem
    obtain ⟨key, hrecords⟩ := (hlisted item).1 hitem
    obtain ⟨state, hstate, -⟩ := ht.sound.seen key item hrecords
    have hpositive := (ht.announced.revision state hstate).1
    simp only [view, hstate, Option.elim_some] at hzero
    omega
  have hcheck : view.check = none := by
    simp only [CatalogView.check, orElse_eq_none, Storage.refuseIf_eq_none]
    refine ⟨hcatalog, hturnover, hinstruments, ?_, ?_, ?_, hvalues⟩
    · by_cases hzero : view.catalogRevision = 0
      · simp [view, hempty hzero]
      · simp [hzero]
    · rw [List.any_eq_false]
      intro key hkey
      simpa using (hbelongs key hkey).1
    · by_cases hbound : view.turnoverCatalogRevision = some view.catalogRevision
      · rw [Bool.and_eq_false_iff]
        refine .inr ?_
        rw [List.any_eq_false]
        intro key hkey
        rw [decide_eq_true_eq, not_not]
        exact (hbelongs key hkey).2 hbound
      · simp [hbound]
  refine ⟨view, ?_, hlisted, fun key r hr => instrumentOf_eq hnodup hlisted hr⟩
  have hload : loadView scope t = raising (checked view.check (.ok view)) := by
    rw [loadView, hpages, hturnoverPages, hcovered, hitems]
    rfl
  rw [hload, hcheck]
  rfl

end CryptoCollector.Selection
