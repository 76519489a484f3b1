import CryptoCollector.Selection.Models
import Mathlib.Data.List.Dedup

/-!
# Snapshots and changes of the catalog

`selection/models.py`: the complete snapshots that are applied to a catalog, the changes that an
application reports, and the views that are loaded from it.
-/

namespace CryptoCollector.Selection

open Lib
open Storage (Err Json refuseIf refuseIf_eq_none)

/-! ## Pages -/

/-- The attributes of a `SnapshotPage`. -/
structure PageFields where
  rawReference : String
  requestCursor : Option String
  nextCursor : Option String
  deriving DecidableEq

/-- `SnapshotPage.__post_init__`. -/
def PageFields.check (p : PageFields) : Option Err :=
  nonemptyString p.rawReference "page raw_reference" <|>
    optionalNonemptyString p.requestCursor "page request_cursor" <|>
    optionalNonemptyString p.nextCursor "page next_cursor" <|>
    refuseIf (p.requestCursor.isSome && decide (p.requestCursor = p.nextCursor))
      "a page cursor must advance"

/-- `SnapshotPage`. -/
abbrev SnapshotPage := {p : PageFields // p.check = none}

/-- Each page begins where the page before it ends. -/
def pageChainCheck : List SnapshotPage → Option Err
  | current :: following :: pages =>
    refuseIf current.1.nextCursor.isNone "snapshot pages continue after a terminal page" <|>
      refuseIf (decide (following.1.requestCursor ≠ current.1.nextCursor))
        "snapshot page cursor chain is not contiguous" <|>
      pageChainCheck (following :: pages)
  | _ => none

/-- `_complete_snapshot_pages`. -/
def completeSnapshotPages (pages : List SnapshotPage) : Option Err :=
  refuseIf pages.isEmpty "pages must be a non-empty tuple" <|>
    refuseIf ((pages.head?.bind (·.1.requestCursor)).isSome)
      "the first snapshot page must use the initial cursor" <|>
    pageChainCheck pages <|>
    refuseIf ((pages.getLast?.bind (·.1.nextCursor)).isSome)
      "snapshot pages lack terminal cursor evidence" <|>
    refuseIf (decide ¬ (pages.map (·.1.rawReference)).Nodup)
      "snapshot page raw references must be unique" <|>
    refuseIf (decide ¬ (pages.filterMap (·.1.requestCursor)).Nodup)
      "snapshot request cursors must be unique"

/-- `_snapshot_page_payload`. -/
def snapshotPagePayload (page : SnapshotPage) : Json := .object [
  ("raw_reference", .str page.1.rawReference),
  ("request_cursor", page.1.requestCursor.elim .null .str),
  ("next_cursor", page.1.nextCursor.elim .null .str)]

/-! ## Complete snapshots -/

/-- The attributes of a `CompleteCatalogSnapshot`. -/
structure CatalogSnapshotFields where
  scope : CatalogScope
  observedAtNs : Int
  snapshotId : String
  pages : List SnapshotPage
  reportedTotalCount : Option Int
  authoritativeEmpty : Bool
  instruments : List InstrumentRecord
  deriving DecidableEq

/-- The checks of the instruments of a snapshot, after those with the keys that came before. -/
def snapshotInstrumentsCheck (scope : CatalogScope) (keys : List String) :
    List InstrumentRecord → Option Err
  | [] => none
  | item :: items =>
    refuseIf (decide (item.1.scope ≠ scope)) "instrument scope does not match snapshot scope" <|>
      refuseIf (decide (item.1.instrumentKey ∈ keys))
        "snapshot instrument keys must be unique" <|>
      refuseIf item.1.turnover.isSome
        "catalog snapshots cannot carry turnover observations" <|>
      snapshotInstrumentsCheck scope (item.1.instrumentKey :: keys) items

/-- `CompleteCatalogSnapshot.__init__`. -/
def CatalogSnapshotFields.check (s : CatalogSnapshotFields) : Option Err :=
  nonnegativeInt s.observedAtNs "observed_at_ns" <|>
    nonemptyString s.snapshotId "snapshot_id" <|>
    completeSnapshotPages s.pages <|>
    optionalNonnegativeInt s.reportedTotalCount "reported_total_count" <|>
    snapshotInstrumentsCheck s.scope [] s.instruments <|>
    refuseIf (s.reportedTotalCount.any fun n : Int => decide (n ≠ s.instruments.length))
      "reported_total_count must equal the instrument count" <|>
    refuseIf (s.instruments.isEmpty && !s.authoritativeEmpty)
      "empty catalog requires an explicit authoritative_empty fact" <|>
    refuseIf (!s.instruments.isEmpty && s.authoritativeEmpty)
      "authoritative_empty cannot accompany catalog instruments"

/-- `CompleteCatalogSnapshot`. -/
abbrev CompleteCatalogSnapshot := {s : CatalogSnapshotFields // s.check = none}

/-- What the checks say about the instruments of a snapshot. -/
structure CatalogSnapshotFields.Valid (s : CatalogSnapshotFields) : Prop where
  observedAtNs : 0 ≤ s.observedAtNs ∧ s.observedAtNs ≤ maxInt64
  snapshotId : s.snapshotId ≠ ""
  pages : completeSnapshotPages s.pages = none
  scope : ∀ item ∈ s.instruments, item.1.scope = s.scope
  keys : (s.instruments.map (·.1.instrumentKey)).Nodup
  turnover : ∀ item ∈ s.instruments, item.1.turnover = none

theorem snapshotInstrumentsCheck_eq_none {scope : CatalogScope} {keys : List String}
    {items : List InstrumentRecord} (h : snapshotInstrumentsCheck scope keys items = none) :
    (∀ item ∈ items, item.1.scope = scope) ∧
      (items.map (·.1.instrumentKey)).Nodup ∧
      (∀ item ∈ items, item.1.instrumentKey ∉ keys) ∧
      ∀ item ∈ items, item.1.turnover = none := by
  induction items generalizing keys with
  | nil => simp
  | cons item items ih =>
    simp only [snapshotInstrumentsCheck, orElse_eq_none, refuseIf_eq_none,
      decide_eq_false_iff_not, not_not] at h
    obtain ⟨hscope, hkey, hturnover, h⟩ := h
    obtain ⟨hscopes, hnodup, hfresh, hturnovers⟩ := ih h
    have hnew : item.1.instrumentKey ∉ items.map (·.1.instrumentKey) := by
      intro hmem
      obtain ⟨other, hother, heq⟩ := List.mem_map.1 hmem
      exact hfresh other hother (heq ▸ List.mem_cons_self)
    refine ⟨?_, ?_, ?_, ?_⟩
    · rw [List.forall_mem_cons]
      exact ⟨hscope, hscopes⟩
    · rw [List.map_cons, List.nodup_cons]
      exact ⟨hnew, hnodup⟩
    · rw [List.forall_mem_cons]
      exact ⟨hkey, fun other hother hmem =>
        hfresh other hother (List.mem_cons_of_mem _ hmem)⟩
    · rw [List.forall_mem_cons]
      exact ⟨by simpa using hturnover, hturnovers⟩

theorem CatalogSnapshotFields.valid_of_check {s : CatalogSnapshotFields} (h : s.check = none) :
    s.Valid := by
  simp only [check, orElse_eq_none, nonnegativeInt_eq_none, nonemptyString_eq_none] at h
  obtain ⟨hobserved, hid, hpages, -, hitems, -⟩ := h
  obtain ⟨hscope, hkeys, -, hturnover⟩ := snapshotInstrumentsCheck_eq_none hitems
  exact ⟨hobserved, hid, hpages, hscope, hkeys, hturnover⟩

/-- The attributes of a `TurnoverObservation`. -/
structure ObservationFields where
  instrumentKey : String
  value : Decimal
  method : TurnoverMethod
  currency : String
  rawReference : String
  deriving DecidableEq

/-- `TurnoverObservation.__init__`. -/
def ObservationFields.check (o : ObservationFields) : Option Err :=
  TurnoverFields.check ⟨o.value, o.method, o.currency, none, none⟩ <|>
    nonemptyString o.instrumentKey "instrument_key" <|>
    nonemptyString o.rawReference "raw_reference"

/-- `TurnoverObservation`. -/
abbrev TurnoverObservation := {o : ObservationFields // o.check = none}

/-- The attributes of a `CompleteTurnoverSnapshot`. -/
structure TurnoverSnapshotFields where
  scope : CatalogScope
  catalogRevision : Int
  observedAtNs : Int
  snapshotId : String
  pages : List SnapshotPage
  reportedTotalCount : Option Int
  authoritativeEmpty : Bool
  coveredInstrumentKeys : List String
  observations : List TurnoverObservation
  deriving DecidableEq

/-- `CompleteTurnoverSnapshot.__init__`. -/
def TurnoverSnapshotFields.check (s : TurnoverSnapshotFields) : Option Err :=
  nonnegativeInt s.catalogRevision "catalog_revision" <|>
    refuseIf (decide (s.catalogRevision = 0)) "turnover snapshot requires a catalog revision" <|>
    nonnegativeInt s.observedAtNs "observed_at_ns" <|>
    nonemptyString s.snapshotId "snapshot_id" <|>
    completeSnapshotPages s.pages <|>
    optionalNonnegativeInt s.reportedTotalCount "reported_total_count" <|>
    s.coveredInstrumentKeys.findSome? (nonemptyString · "covered_instrument_keys") <|>
    refuseIf (decide ¬ s.coveredInstrumentKeys.Nodup)
      "covered_instrument_keys must be unique" <|>
    refuseIf (s.coveredInstrumentKeys.isEmpty && !s.authoritativeEmpty)
      "empty turnover coverage requires an explicit authoritative_empty fact" <|>
    refuseIf (!s.coveredInstrumentKeys.isEmpty && s.authoritativeEmpty)
      "authoritative_empty cannot accompany turnover coverage" <|>
    refuseIf (decide ¬ (s.observations.map (·.1.instrumentKey)).Nodup)
      "turnover observation keys must be unique" <|>
    refuseIf (s.observations.any fun o => decide (o.1.instrumentKey ∉ s.coveredInstrumentKeys))
      "turnover observations must belong to covered_instrument_keys" <|>
    refuseIf (s.reportedTotalCount.any fun n : Int => decide (n ≠ s.coveredInstrumentKeys.length))
      "reported_total_count must equal the coverage count"

/-- `CompleteTurnoverSnapshot`. -/
abbrev CompleteTurnoverSnapshot := {s : TurnoverSnapshotFields // s.check = none}

/-- What the checks say about a turnover snapshot. -/
structure TurnoverSnapshotFields.Valid (s : TurnoverSnapshotFields) : Prop where
  catalogRevision : 0 < s.catalogRevision
  observedAtNs : 0 ≤ s.observedAtNs ∧ s.observedAtNs ≤ maxInt64
  snapshotId : s.snapshotId ≠ ""
  pages : completeSnapshotPages s.pages = none
  covered_ne : ∀ key ∈ s.coveredInstrumentKeys, key ≠ ""
  covered_nodup : s.coveredInstrumentKeys.Nodup
  observed_nodup : (s.observations.map (·.1.instrumentKey)).Nodup
  observed_covered : ∀ o ∈ s.observations, o.1.instrumentKey ∈ s.coveredInstrumentKeys

theorem TurnoverSnapshotFields.valid_of_check {s : TurnoverSnapshotFields} (h : s.check = none) :
    s.Valid := by
  simp only [check, orElse_eq_none, nonnegativeInt_eq_none, nonemptyString_eq_none,
    refuseIf_eq_none, decide_eq_false_iff_not, not_not, List.findSome?_eq_none_iff,
    List.any_eq_false, decide_eq_true_eq] at h
  obtain ⟨hrevision, hpositive, hobserved, hid, hpages, -, hkeys, hnodup, -, -, hobservations,
    hcovered, -⟩ := h
  exact ⟨by omega, hobserved, hid, hpages, hkeys, hnodup, hobservations, hcovered⟩

/-! ## Announcement hints -/

/-- The attributes of a `StoredAnnouncementHint`. -/
structure HintFields where
  scope : CatalogScope
  hintId : String
  announcedAtNs : Int
  rawReference : String
  candidateInstrumentKey : Option String
  candidateCanonicalPair : Option String
  confirmedAtNs : Option Int
  deriving DecidableEq

/-- `AnnouncementHint.__post_init__` and `StoredAnnouncementHint.__post_init__`. -/
def HintFields.check (h : HintFields) : Option Err :=
  nonemptyString h.hintId "hint_id" <|>
    nonemptyString h.rawReference "raw_reference" <|>
    optionalNonemptyString h.candidateInstrumentKey "candidate_instrument_key" <|>
    optionalNonemptyString h.candidateCanonicalPair "candidate_canonical_pair" <|>
    refuseIf (h.candidateInstrumentKey.isNone && h.candidateCanonicalPair.isNone)
      "announcement hint requires a candidate" <|>
    nonnegativeInt h.announcedAtNs "announced_at_ns" <|>
    optionalNonnegativeInt h.confirmedAtNs "confirmed_at_ns" <|>
    refuseIf (h.confirmedAtNs.any fun t => decide (t < h.announcedAtNs))
      "confirmed_at_ns must not precede announced_at_ns"

/-- `StoredAnnouncementHint`. -/
abbrev StoredAnnouncementHint := {h : HintFields // h.check = none}

/-- `AnnouncementHint`: a hint that is not confirmed. -/
abbrev AnnouncementHint := {h : StoredAnnouncementHint // h.1.confirmedAtNs = none}

/-- `_announcement_hint_payload`. -/
def announcementHintPayload (hint : StoredAnnouncementHint) : Json := .object [
  ("announced_at_ns", .int hint.1.announcedAtNs),
  ("candidate_canonical_pair", hint.1.candidateCanonicalPair.elim .null .str),
  ("candidate_instrument_key", hint.1.candidateInstrumentKey.elim .null .str),
  ("confirmed_at_ns", hint.1.confirmedAtNs.elim .null .int),
  ("hint_id", .str hint.1.hintId),
  ("raw_reference", .str hint.1.rawReference)]

end CryptoCollector.Selection
