import CryptoCollector.Selection.Store

/-!
# Payloads and digests

The JSON payloads of the catalog are plain, so that the codec decodes them. A digest of a snapshot
determines what its records are.

* `plain_recordPayload`, `plain_catalogInstrumentPayload`: the payloads of instruments are plain.
* `payloads_of_digest`: snapshots with one digest have the same payloads.
-/

namespace CryptoCollector.Selection

open Lib
open Storage (Err Json)

variable {codec : CatalogCodec}

/-! ## Plain values -/

theorem plain_optionalText (value : Option String) : (optionalText value).Plain := by
  cases value <;> trivial

theorem plain_int {n : Int} (h : 0 ≤ n ∧ n ≤ maxInt64) : (Json.int n).Plain := by
  unfold maxInt64 at h
  simp only [Json.Plain]
  omega

theorem plain_optionalInt {value : Option Int} (h : ∀ n ∈ value, 0 ≤ n ∧ n ≤ maxInt64) :
    (optionalInt value).Plain := by
  cases value with
  | none => trivial
  | some n => exact plain_int (h n rfl)

theorem plain_turnoverPayload (turnover : Option Turnover) : (turnoverPayload turnover).Plain := by
  cases turnover with
  | none => trivial
  | some t =>
    have ht := TurnoverFields.check_eq_none.1 t.2
    exact ⟨by simp, trivial, trivial, trivial, plain_optionalInt ht.observedAtNs,
      plain_optionalText _, trivial⟩

theorem plain_recordPayloadFields {r : RecordFields} (hr : r.Valid) {node : Json}
    (hnode : node.Plain) : Json.PlainFields (recordPayloadFields r node) :=
  ⟨trivial, trivial, trivial, trivial, WireSymbols.plain_toJson r.wireSymbols, trivial, trivial,
    plain_optionalText _, trivial, trivial, trivial, hnode, plain_optionalInt hr.tradableAtNs,
    plain_optionalText _, plain_turnoverPayload _, trivial, trivial⟩

theorem plain_recordPayload {record : InstrumentRecord} {payload : Json}
    (h : recordPayload record = .ok payload) : payload.Plain := by
  obtain ⟨node, hnode, h⟩ := bind_eq_ok.1 h
  cases h
  exact ⟨by simp [recordPayloadFields], plain_recordPayloadFields
    (RecordFields.check_eq_none.1 record.2) (plain_typedJsonNode hnode)⟩

theorem plain_catalogInstrumentPayload {item : CatalogInstrument} {payload : Json}
    (h : catalogInstrumentPayload item = .ok payload) : payload.Plain := by
  obtain ⟨node, hnode, h⟩ := bind_eq_ok.1 h
  cases h
  have hvalid := CatalogFields.check_eq_none.1 item.2
  have hfirst := hvalid.firstSeenNs
  have hseen := hvalid.seen
  have hlast := hvalid.lastSeenNs
  have hbetween : ∀ t : Int, item.1.firstSeenNs ≤ t ∧ t ≤ item.1.lastSeenNs →
      0 ≤ t ∧ t ≤ maxInt64 := fun t ht => ⟨hfirst.trans ht.1, ht.2.trans hlast⟩
  refine ⟨by simp [recordPayloadFields, historyPayloadFields], ?_⟩
  rw [Json.plainFields_iff]
  intro field hfield
  rcases List.mem_append.1 hfield with hfield | hfield
  · exact Json.plainFields_iff.1 (plain_recordPayloadFields hvalid.record
      (plain_typedJsonNode hnode)) field hfield
  · have hhistory : Json.PlainFields (historyPayloadFields item.1) :=
      ⟨plain_int ⟨hfirst, hseen.trans hlast⟩,
        plain_optionalInt fun t ht => hbetween t (hvalid.firstTradable t ht),
        plain_int ⟨hfirst.trans hseen, hlast⟩,
        plain_optionalInt fun t ht => hbetween t (hvalid.terminal t ht),
        plain_int hvalid.generation, trivial, trivial, plain_optionalText _,
        plain_optionalInt hvalid.started, trivial, trivial⟩
    exact Json.plainFields_iff.1 hhistory field hfield

theorem plain_snapshotPagePayload (page : SnapshotPage) : (snapshotPagePayload page).Plain :=
  ⟨by simp, trivial, plain_optionalText _, plain_optionalText _, trivial⟩

/-! ## Digests -/

/-- The contents of a digest of a snapshot are plain. -/
theorem plain_digestContents {s : CompleteCatalogSnapshot} {lookback : Int}
    (hlookback : 0 ≤ lookback ∧ lookback ≤ maxInt64) {instruments : List Json}
    (h : (sortedBy (·.1.instrumentKey) s.1.instruments).mapM recordPayload = .ok instruments) :
    (Json.object [
      ("authoritative_empty", .bool s.1.authoritativeEmpty),
      ("initial_lookback_ns", .int lookback),
      ("instruments", .list instruments),
      ("pages", .list (s.1.pages.map snapshotPagePayload)),
      ("reported_total_count", optionalInt s.1.reportedTotalCount),
      ("snapshot_id", .str s.1.snapshotId)]).Plain := by
  have hcount : ∀ n ∈ s.1.reportedTotalCount, 0 ≤ n ∧ n ≤ maxInt64 := by
    have hs := s.2
    simp only [CatalogSnapshotFields.check, orElse_eq_none, optionalNonnegativeInt_eq_none] at hs
    exact hs.2.2.2.1
  have hinstruments : Json.PlainItems instruments := by
    rw [Json.plainItems_iff]
    intro payload hpayload
    obtain ⟨record, -, hrecord⟩ := exists_left_of_forall₂ (forall₂_of_mapM h) hpayload
    exact plain_recordPayload hrecord
  have hpages : Json.PlainItems (s.1.pages.map snapshotPagePayload) := by
    rw [Json.plainItems_iff]
    intro payload hpayload
    obtain ⟨page, -, rfl⟩ := List.mem_map.1 hpayload
    exact plain_snapshotPagePayload page
  exact ⟨by simp, trivial, plain_int hlookback, hinstruments, hpages, plain_optionalInt hcount,
    trivial, trivial⟩

/-- Snapshots with one digest have the same payloads. -/
theorem payloads_of_digest {s s' : CompleteCatalogSnapshot} {lookback lookback' : Int}
    (hlookback : 0 ≤ lookback ∧ lookback ≤ maxInt64)
    (hlookback' : 0 ≤ lookback' ∧ lookback' ≤ maxInt64) {digest : codec.Digest}
    (h : completeCatalogDigest codec s.1 lookback = .ok digest)
    (h' : completeCatalogDigest codec s'.1 lookback' = .ok digest) :
    ∃ instruments,
      (sortedBy (·.1.instrumentKey) s.1.instruments).mapM recordPayload = .ok instruments ∧
      (sortedBy (·.1.instrumentKey) s'.1.instruments).mapM recordPayload = .ok instruments := by
  obtain ⟨instruments, hinstruments, h⟩ := bind_eq_ok.1 h
  obtain ⟨instruments', hinstruments', h'⟩ := bind_eq_ok.1 h'
  cases h
  have hsame := CatalogCodec.encodeJson_inj (plain_digestContents hlookback' hinstruments')
    (plain_digestContents hlookback hinstruments)
    (codec.sha256_injective (Except.ok.inj h'))
  simp only [Json.object.injEq, List.cons.injEq, Prod.mk.injEq, Json.list.injEq] at hsame
  obtain ⟨-, -, ⟨-, rfl⟩, -⟩ := hsame
  exact ⟨_, hinstruments, hinstruments'⟩

/-- Records with one payload have the same source of their listing time. -/
theorem source_of_recordPayload {record record' : InstrumentRecord} {payload : Json}
    (h : recordPayload record = .ok payload) (h' : recordPayload record' = .ok payload) :
    record.1.tradableAtSource = record'.1.tradableAtSource := by
  obtain ⟨node, -, h⟩ := bind_eq_ok.1 h
  obtain ⟨node', -, h'⟩ := bind_eq_ok.1 h'
  cases h
  have hsame := Except.ok.inj h'
  simp only [Json.object.injEq, recordPayloadFields, List.cons.injEq, Prod.mk.injEq] at hsame
  obtain ⟨-, -, -, -, -, -, -, -, -, -, -, -, -, ⟨-, hsource⟩, -⟩ := hsame
  cases hleft : record.1.tradableAtSource with
  | none =>
    cases hright : record'.1.tradableAtSource with
    | none => rfl
    | some a => simp [hleft, hright, optionalText] at hsource
  | some a =>
    cases hright : record'.1.tradableAtSource with
    | none => simp [hleft, hright, optionalText] at hsource
    | some b =>
      simp only [hleft, hright, optionalText, Option.map_some, Option.elim_some,
        Json.str.injEq] at hsource
      rw [← TradableAtSource.ofValue_value a, ← TradableAtSource.ofValue_value b, hsource]

/-- The checks of the records of a snapshot follow from its digest. -/
theorem snapshotRecordCheck_of_digest {s s' : CompleteCatalogSnapshot} {lookback lookback' : Int}
    (hlookback : 0 ≤ lookback ∧ lookback ≤ maxInt64)
    (hlookback' : 0 ≤ lookback' ∧ lookback' ≤ maxInt64) {digest : codec.Digest}
    (h : completeCatalogDigest codec s.1 lookback = .ok digest)
    (h' : completeCatalogDigest codec s'.1 lookback' = .ok digest)
    (hrecords : ∀ record ∈ s.1.instruments,
      snapshotRecordCheck s.1.observedAtNs record = none) :
    ∀ record ∈ s'.1.instruments, snapshotRecordCheck s'.1.observedAtNs record = none := by
  intro record' hrecord'
  obtain ⟨instruments, hall, hall'⟩ := payloads_of_digest hlookback hlookback' h h'
  obtain ⟨payload, hmem, hpayload'⟩ := exists_right_of_forall₂ (forall₂_of_mapM hall')
    (mem_sortedBy.2 hrecord')
  obtain ⟨record, hrecord, hpayload⟩ := exists_left_of_forall₂ (forall₂_of_mapM hall) hmem
  have hcheck := hrecords record (mem_sortedBy.1 hrecord)
  have hturnover := (CatalogSnapshotFields.valid_of_check s'.2).turnover record' hrecord'
  have hsource : record.1.tradableAtSource ≠ some .firstTradableSeen := by
    intro hfirst
    simp [snapshotRecordCheck, hfirst] at hcheck
  rw [source_of_recordPayload hpayload hpayload'] at hsource
  simp [snapshotRecordCheck, hsource, hturnover]

end CryptoCollector.Selection
