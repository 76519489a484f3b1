import CryptoCollector.Selection.Payloads
import CryptoCollector.Selection.Runs
import Mathlib.Data.List.Forall2

/-!
# Announced changes

Every change of the record of an instrument has an event in the outbox of its revision. The store
compares the provider fields of the records; what it decides itself, such as the listing state and
the times of an episode, does not change while they stay the same.

* `settled_iff`: the provider fields differ exactly when the records do.
* `changes_of_movement`: the deltas of a key.
* `announced_after`: what holds of the outbox and of the digest after every run.
* `changes_announced`: the law of the outbox.
-/

namespace CryptoCollector.Selection

open Lib
open Storage (Err Json)

variable {codec : CatalogCodec}

/-! ## Settled records -/

/-- A record apart from its last sight and its turnover. -/
def CatalogFields.settled (c : CatalogFields) : CatalogFields :=
  { c with lastSeenNs := 0, turnover := none }

/-- The records under a key differ in more than the last sight and the turnover. -/
def Differ (r r' : Option CatalogInstrument) : Prop :=
  r.map (·.1.settled) ≠ r'.map (·.1.settled)

theorem settled_of_providerFields {observedAt : Int} {isNew : Bool} {o n : CatalogInstrument}
    (hseen : Resighted observedAt isNew o.1 n.1)
    (hkey : n.1.instrumentKey = o.1.instrumentKey) (hscope : n.1.scope = o.1.scope)
    (hearlier : o.1.lastSeenNs < observedAt)
    (htraded : o.1.tradable = true → o.1.firstTradableSeenNs.isSome = true)
    {node : Json} (hnode : typedJsonNode n.1.lifecycle.1 = .ok node)
    (h : providerFields o.1 = providerFields n.1) : o.1.settled = n.1.settled := by
  have ho := CatalogFields.check_eq_none.1 o.2
  have hn := CatalogFields.check_eq_none.1 n.2
  simp only [providerFields, ProviderFields.mk.injEq] at h
  obtain ⟨hpair, hwire, hbase, hquote, hsettlement, hstatus, hphase, htradable, hlifecycle, hat,
    hsource, hraw, hpresent, hterminal⟩ := h
  -- A new listing is tradable, and an instrument that awaited it was not.
  have hnew : isNew = false := by
    cases isNew with
    | false => rfl
    | true =>
      obtain ⟨hawaits, hnow⟩ := hseen.awaited rfl
      rw [ho.awaitsTrading (htradable.trans hnow)] at hawaits
      cases hawaits
  subst hnew
  have hnode' : typedJsonNode o.1.lifecycle.1 = .ok node := by
    rw [hnode] at hlifecycle
    cases hold : typedJsonNode o.1.lifecycle.1 with
    | error e => simp [hold, Except.toOption] at hlifecycle
    | ok other => simpa [hold, Except.toOption] using hlifecycle
  have hfrozen : o.1.lifecycle = n.1.lifecycle := by
    have hdecode := decodeTypedJsonNode_typedJsonNode o.1.lifecycle.2 hnode'
    rw [decodeTypedJsonNode_typedJsonNode n.1.lifecycle.2 hnode] at hdecode
    exact Subtype.ext (Except.ok.inj hdecode).symm
  -- A delisted instrument that is seen again has another terminal observation.
  have hdelisted : n.1.lifecyclePhase ≠ .delisted := by
    intro hdelisted
    have hold := ho.terminal_delisted (hphase.trans hdelisted)
    have hnow := hn.terminal_delisted hdelisted
    rw [hold, hnow, hseen.lastSeenNs] at hterminal
    have := Option.some.inj hterminal
    omega
  have hstate : n.1.listingState = o.1.listingState := by simpa [hdelisted] using hseen.state
  have hgeneration : n.1.listingGeneration = o.1.listingGeneration := by
    simpa using hseen.generation
  have hfirst : n.1.firstTradableSeenNs = o.1.firstTradableSeenNs := by
    rw [hseen.firstTradable]
    refine if_neg ?_
    rw [Bool.false_or, Bool.and_eq_true, not_and]
    intro hnow
    have := htraded (htradable.trans hnow)
    simpa [Option.isSome_iff_ne_none] using this
  obtain ⟨hstarted, hstartedSource⟩ := hseen.started rfl
  have heligible : n.1.newListingEligible = o.1.newListingEligible := by
    rw [ho.eligible, hn.eligible, hstate]
  have hfirstSeen := hseen.firstSeenNs
  simp only [RecordFields.scope, CatalogScope.mk.injEq] at hscope
  clear hseen ho hn hnode hnode' hearlier htraded
  obtain ⟨o, hcheck⟩ := o
  obtain ⟨n, hcheck'⟩ := n
  dsimp only at *
  obtain ⟨ro, _⟩ := o
  obtain ⟨rn, _⟩ := n
  cases ro
  cases rn
  simp_all [CatalogFields.settled]

/-- The provider fields differ exactly when the records do. -/
theorem settled_iff {observedAt : Int} {isNew : Bool} {o n : CatalogInstrument}
    (hseen : Resighted observedAt isNew o.1 n.1)
    (hkey : n.1.instrumentKey = o.1.instrumentKey) (hscope : n.1.scope = o.1.scope)
    (hearlier : o.1.lastSeenNs < observedAt)
    (htraded : o.1.tradable = true → o.1.firstTradableSeenNs.isSome = true)
    {node : Json} (hnode : typedJsonNode n.1.lifecycle.1 = .ok node) :
    providerFields o.1 = providerFields n.1 ↔ o.1.settled = n.1.settled := by
  constructor
  · exact settled_of_providerFields hseen hkey hscope hearlier htraded hnode
  · intro h
    have hfields : providerFields o.1.settled = providerFields n.1.settled :=
      congrArg providerFields h
    exact hfields

theorem lifecycle_of_transition {lookback observedAt : Int} {isInitial : Bool}
    {record : InstrumentRecord} {old : Option CatalogInstrument} {item : CatalogInstrument}
    {isNew : Bool} (h : transition lookback observedAt isInitial record old = .ok (item, isNew)) :
    item.1.lifecycle = record.1.lifecycle := by
  obtain ⟨d, -, -, hitem⟩ := transition_eq_ok h
  rw [hitem]
  unfold decidedFields
  split_ifs <;> rfl

/-- An instrument that is seen is added or updated exactly when its record differs. -/
theorem differ_of_transition {lookback observedAt : Int} {isInitial : Bool}
    {record : InstrumentRecord} {old : Option CatalogInstrument} {n : CatalogInstrument}
    {isNew : Bool} (h : transition lookback observedAt isInitial record old = .ok (n, isNew))
    (hold : ∀ o ∈ old, o.1.instrumentKey = record.1.instrumentKey ∧ o.1.scope = record.1.scope ∧
      o.1.lastSeenNs < observedAt ∧
      (o.1.tradable = true → o.1.firstTradableSeenNs.isSome = true))
    {node : Json} (hnode : typedJsonNode record.1.lifecycle.1 = .ok node) :
    Differ old (some n) ↔
      (Outcome.isAdded ⟨old, n, isNew⟩ || Outcome.isUpdated ⟨old, n, isNew⟩) = true := by
  obtain ⟨hkey, hscope⟩ := identity_of_transition h
  obtain ⟨hpresent, -, -⟩ := seen_of_transition h
  cases old with
  | none => simp [Differ, Outcome.isAdded]
  | some o =>
    obtain ⟨hkey', hscope', hearlier, htraded⟩ := hold o rfl
    cases hwas : o.1.present with
    | false =>
      have hdiffer : Differ (some o) (some n) := by
        intro heq
        have hsettled := congrArg CatalogFields.present (Option.some.inj heq)
        change o.1.present = n.1.present at hsettled
        rw [hwas, hpresent] at hsettled
        cases hsettled
      simp [Outcome.isAdded, hwas, hdiffer]
    | true =>
      have hfields := settled_iff (resighted_of_transition h) (hkey.trans hkey'.symm)
        (hscope.trans hscope'.symm) hearlier htraded
        ((congrArg (fun j : FrozenJson => typedJsonNode j.1) (lifecycle_of_transition h)).trans
          hnode)
      simp [Outcome.isAdded, Outcome.isUpdated, hwas, Differ, hfields]

/-! ## Deltas of a key -/

/-- The delta says that the record of a key changed. -/
def CatalogDelta.isChangeOf (key : String) : CatalogDelta → Bool
  | .instrument kind key' _ _ => decide (key' = key) && decide (kind ≠ .newListing)
  | .announcement _ _ _ => false

/-- The delta says that a key is a new listing. -/
def CatalogDelta.isListingOf (key : String) : CatalogDelta → Bool
  | .instrument kind key' _ _ => decide (key' = key) && decide (kind = .newListing)
  | .announcement _ _ _ => false

/-- The deltas of a kind that concern a key. -/
theorem filter_outcomeDeltas {kind : InstrumentChange} {key : String} {p : CatalogDelta → Bool}
    (hp : ∀ o : Outcome, p (o.delta kind) = decide (o.current.1.instrumentKey = key))
    {outcomes : List Outcome} {o : Outcome}
    (hnodup : (outcomes.map (·.current.1.instrumentKey)).Nodup) (ho : o ∈ outcomes)
    (hkey : o.current.1.instrumentKey = key) (q : Outcome → Bool) :
    (outcomeDeltas kind (outcomes.filter q)).filter p = if q o then [o.delta kind] else [] := by
  have hfiltered : ((outcomes.filter q).map (·.current.1.instrumentKey)).Nodup :=
    hnodup.sublist (List.filter_sublist.map _)
  have hcomp : p ∘ Outcome.delta kind =
      fun other => decide (other.current.1.instrumentKey = o.current.1.instrumentKey) := by
    funext other
    rw [hkey]
    exact hp other
  rw [outcomeDeltas, List.filter_map, hcomp]
  cases hq : q o with
  | true =>
    have hmem : o ∈ sortedBy (·.current.1.instrumentKey) (outcomes.filter q) :=
      mem_sortedBy.2 (List.mem_filter.2 ⟨ho, hq⟩)
    rw [filter_key_of_mem (nodup_map_sortedBy hfiltered) hmem]
    rfl
  | false =>
    rw [filter_key_of_not_mem]
    · rfl
    · intro hmem
      obtain ⟨other, hother, hsame⟩ := List.mem_map.1 hmem
      obtain ⟨hother, hqother⟩ := List.mem_filter.1 (mem_sortedBy.1 hother)
      rw [keyed_of_nodup_map hnodup other hother o ho hsame, hq] at hqother
      cases hqother

/-- No delta of a kind concerns a key that was not reported. -/
theorem filter_outcomeDeltas_of_not_mem {kind : InstrumentChange} {key : String}
    {p : CatalogDelta → Bool}
    (hp : ∀ o : Outcome, o.current.1.instrumentKey ≠ key → p (o.delta kind) = false)
    {outcomes : List Outcome} (hkey : key ∉ outcomes.map (·.current.1.instrumentKey))
    (q : Outcome → Bool) : (outcomeDeltas kind (outcomes.filter q)).filter p = [] := by
  rw [outcomeDeltas, List.filter_map, List.map_eq_nil_iff, List.filter_eq_nil_iff]
  intro o ho
  have hmem := (List.mem_filter.1 (mem_sortedBy.1 ho)).1
  rw [Function.comp_apply, hp o fun heq => hkey (heq ▸ List.mem_map_of_mem hmem)]
  exact Bool.false_ne_true

/-- The keys of the instruments that are no longer reported, in their order. -/
theorem keys_removed {s : CatalogSnapshotFields} {lookback : Int} {t : Tables codec}
    {prior : Dict String CatalogInstrument} {announcements : List CatalogDelta} {p : Plan codec}
    (h : Planned s lookback t prior announcements p) (ht : t.Encoded s.scope) :
    p.removed.map (·.2.1.instrumentKey) =
      (sortedBy Prod.fst (prior.entries.filter fun entry => entry.2.1.present &&
        decide (entry.1 ∉ p.outcomes.map (·.current.1.instrumentKey)))).map Prod.fst := by
  have hentries : ∀ entry ∈ sortedBy Prod.fst (prior.entries.filter fun entry =>
      entry.2.1.present && decide (entry.1 ∉ p.outcomes.map (·.current.1.instrumentKey))),
      entry.2.1.instrumentKey = entry.1 := by
    intro entry hentry
    have hmem := (List.mem_filter.1 (mem_sortedBy.1 hentry)).1
    have hrecords := records_of_loadPriorRecords ht h.prior_eq entry.1
    rw [Dict.get?_eq_some.2 hmem] at hrecords
    obtain ⟨row, -, hrow⟩ := hrecords
    exact hrow.key_eq
  have hall := (List.forall₂_and_left _ _).2 ⟨hentries, removed_of_removedInstruments h.removed⟩
  refine map_eq_of_forall₂ hall ?_
  intro entry item hitem
  rw [hitem.2.2]
  exact hitem.1

theorem keys_nodup_removed {s : CatalogSnapshotFields} {lookback : Int} {t : Tables codec}
    {prior : Dict String CatalogInstrument} {announcements : List CatalogDelta} {p : Plan codec}
    (h : Planned s lookback t prior announcements p) (ht : t.Encoded s.scope) :
    (p.removed.map (·.2.1.instrumentKey)).Nodup := by
  rw [keys_removed h ht]
  exact nodup_map_sortedBy (prior.nodup.sublist (List.filter_sublist.map _))

/-- The deltas that no longer reported instruments have of a key. -/
theorem filter_removedDeltas_of_not_mem {key : String} {p : CatalogDelta → Bool}
    (hp : ∀ item, item.2.1.instrumentKey ≠ key → p (removedDelta item) = false)
    {removed : List (CatalogInstrument × CatalogInstrument)}
    (hkey : key ∉ removed.map (·.2.1.instrumentKey)) :
    ((sortedBy (·.2.1.instrumentKey) removed).map removedDelta).filter p = [] := by
  rw [List.filter_map, List.map_eq_nil_iff, List.filter_eq_nil_iff]
  intro item hitem
  have hmem := mem_sortedBy.1 hitem
  rw [Function.comp_apply, hp item fun heq => hkey (heq ▸ List.mem_map_of_mem hmem)]
  exact Bool.false_ne_true

theorem filter_removedDeltas {key : String}
    {removed : List (CatalogInstrument × CatalogInstrument)}
    (hnodup : (removed.map (·.2.1.instrumentKey)).Nodup)
    {item : CatalogInstrument × CatalogInstrument} (hitem : item ∈ removed)
    (hkey : item.2.1.instrumentKey = key) :
    ((sortedBy (·.2.1.instrumentKey) removed).map removedDelta).filter (·.isChangeOf key) =
      [removedDelta item] := by
  have hcomp : (fun delta : CatalogDelta => delta.isChangeOf key) ∘ removedDelta =
      fun other => decide (other.2.1.instrumentKey = item.2.1.instrumentKey) := by
    funext other
    simp [removedDelta, CatalogDelta.isChangeOf, hkey]
  rw [List.filter_map, hcomp,
    filter_key_of_mem (nodup_map_sortedBy hnodup) (mem_sortedBy.2 hitem)]
  rfl

section Planned

variable {s : CatalogSnapshotFields} {lookback : Int} {t : Tables codec}
  {prior : Dict String CatalogInstrument} {announcements : List CatalogDelta} {p : Plan codec}

/-- An announcement says nothing about the record of an instrument. -/
theorem filter_announcements (h : Planned s lookback t prior announcements p)
    {q : CatalogDelta → Bool}
    (hq : ∀ key previous current, q (.announcement key previous current) = false) :
    announcements.filter q = [] := by
  rw [List.filter_eq_nil_iff]
  intro delta hdelta
  obtain ⟨confirmed, -, hconfirmed⟩ :=
    exists_left_of_forall₂ (forall₂_of_mapM h.announcements_eq) hdelta
  obtain ⟨previous, -, hconfirmed⟩ := bind_eq_ok.1 hconfirmed
  obtain ⟨current, -, hconfirmed⟩ := bind_eq_ok.1 hconfirmed
  cases hconfirmed
  rw [hq]
  exact Bool.false_ne_true

/-- The deltas that say that the record of a key changed. -/
theorem filter_isChangeOf (h : Planned s lookback t prior announcements p) (key : String) :
    p.deltas.filter (·.isChangeOf key) =
      (outcomeDeltas .added (p.outcomes.filter (·.isAdded))).filter (·.isChangeOf key) ++
      (outcomeDeltas .updated (p.outcomes.filter (·.isUpdated))).filter (·.isChangeOf key) ++
      ((sortedBy (·.2.1.instrumentKey) p.removed).map removedDelta).filter
        (·.isChangeOf key) := by
  have hnew : (outcomeDeltas .newListing (p.outcomes.filter (·.isNewListing))).filter
      (·.isChangeOf key) = [] := by
    rw [outcomeDeltas, List.filter_map, List.map_eq_nil_iff, List.filter_eq_nil_iff]
    intro o _
    simp [Outcome.delta, CatalogDelta.isChangeOf]
  have hannouncements := filter_announcements h (q := (·.isChangeOf key)) fun _ _ _ => rfl
  rw [h.deltas, catalogDeltas]
  simp only [List.filter_append, hnew, hannouncements, List.append_nil]

/-- The deltas that say that a key is a new listing. -/
theorem filter_isListingOf (h : Planned s lookback t prior announcements p) (key : String) :
    p.deltas.filter (·.isListingOf key) =
      (outcomeDeltas .newListing (p.outcomes.filter (·.isNewListing))).filter
        (·.isListingOf key) := by
  have hother : ∀ kind ≠ InstrumentChange.newListing, ∀ outcomes : List Outcome,
      (outcomeDeltas kind outcomes).filter (·.isListingOf key) = [] := by
    intro kind hkind outcomes
    rw [outcomeDeltas, List.filter_map, List.map_eq_nil_iff, List.filter_eq_nil_iff]
    intro o _
    simp [Outcome.delta, CatalogDelta.isListingOf, hkind]
  have hremoved : ((sortedBy (·.2.1.instrumentKey) p.removed).map removedDelta).filter
      (·.isListingOf key) = [] := by
    rw [List.filter_map, List.map_eq_nil_iff, List.filter_eq_nil_iff]
    intro item _
    simp [removedDelta, CatalogDelta.isListingOf]
  have hannouncements := filter_announcements h (q := (·.isListingOf key)) fun _ _ _ => rfl
  rw [h.deltas, catalogDeltas]
  simp only [List.filter_append, hother .added (by decide), hother .updated (by decide), hremoved,
    hannouncements, List.append_nil, List.nil_append]

/-- The deltas of a key that a snapshot reports. -/
theorem changes_of_seen (hs : s.Valid) (ht : t.Encoded s.scope)
    (h : Planned s lookback t prior announcements p) {record : InstrumentRecord}
    (hrecord : record ∈ s.instruments)
    (hold : ∀ o ∈ prior.get? record.1.instrumentKey,
      o.1.instrumentKey = record.1.instrumentKey ∧ o.1.scope = record.1.scope ∧
        o.1.lastSeenNs < s.observedAtNs ∧
        (o.1.tradable = true → o.1.firstTradableSeenNs.isSome = true))
    {node : Json} (hnode : typedJsonNode record.1.lifecycle.1 = .ok node) {isNew : Bool}
    {n : CatalogInstrument}
    (htransition : transition lookback s.observedAtNs t.state.isNone record
      (prior.get? record.1.instrumentKey) = .ok (n, isNew)) :
    let key := record.1.instrumentKey
    (Differ (prior.get? key) (some n) → ∃ kind, kind ≠ .newListing ∧
      p.deltas.filter (·.isChangeOf key) = [.instrument kind key (prior.get? key) n]) ∧
    (¬ Differ (prior.get? key) (some n) → p.deltas.filter (·.isChangeOf key) = []) ∧
    p.deltas.filter (·.isListingOf key) =
      if isNew then [.instrument .newListing key (prior.get? key) n] else [] := by
  intro key
  obtain ⟨o, ho, hprevious, houtcome⟩ := h.outcome_of_mem hrecord
  rw [htransition] at houtcome
  have hdiffer := differ_of_transition htransition hold hnode
  cases houtcome
  obtain ⟨hkey, hscope⟩ := identity_of_transition htransition
  have hnodup := h.keys_nodup hs
  have hdelta : ∀ kind, o.delta kind = .instrument kind key (prior.get? key) o.current := by
    intro kind
    rw [Outcome.delta, hkey, hprevious]
  have hchanges : ∀ kind ≠ InstrumentChange.newListing, ∀ other : Outcome,
      (other.delta kind).isChangeOf key = decide (other.current.1.instrumentKey = key) := by
    intro kind hkind other
    simp [Outcome.delta, CatalogDelta.isChangeOf, hkind]
  have hlistings : ∀ other : Outcome, (other.delta .newListing).isListingOf key =
      decide (other.current.1.instrumentKey = key) := by
    intro other
    simp [Outcome.delta, CatalogDelta.isListingOf]
  have hremoved : key ∉ p.removed.map (·.2.1.instrumentKey) := by
    intro hmem
    obtain ⟨item, hitem, heq⟩ := List.mem_map.1 hmem
    obtain ⟨-, -, hgone, hnew⟩ := h.of_mem_removed ht hitem
    rw [hnew] at heq
    exact hgone (heq ▸ List.mem_map_of_mem hrecord)
  have hgone := filter_removedDeltas_of_not_mem (p := (·.isChangeOf key)) (by
    intro item hne
    simp [removedDelta, CatalogDelta.isChangeOf, hne]) hremoved
  have hchange : p.deltas.filter (·.isChangeOf key) =
      (if o.isAdded then [.instrument .added key (prior.get? key) o.current] else []) ++
        if o.isUpdated then [.instrument .updated key (prior.get? key) o.current] else [] := by
    rw [filter_isChangeOf h, filter_outcomeDeltas (hchanges .added (by decide)) hnodup ho hkey,
      filter_outcomeDeltas (hchanges .updated (by decide)) hnodup ho hkey, hgone,
      List.append_nil, hdelta, hdelta]
  have hlisting : p.deltas.filter (·.isListingOf key) = if o.isNewListing then
      [.instrument .newListing key (prior.get? key) o.current] else [] := by
    rw [filter_isListingOf h, filter_outcomeDeltas hlistings hnodup ho hkey, hdelta]
  have hsame : o = ⟨prior.get? key, o.current, o.isNewListing⟩ := by
    cases o
    cases hprevious
    rfl
  rw [← hsame] at hdiffer
  refine ⟨?_, ?_, hlisting⟩
  · intro hdiffers
    rw [hchange]
    have hone : o.isAdded = false ∨ o.isUpdated = false := by
      rw [Outcome.isAdded, Outcome.isUpdated]
      cases o.previous with
      | none => exact .inr rfl
      | some old => cases hwas : old.1.present <;> simp [hwas]
    have hsome := hdiffer.1 hdiffers
    rcases hone with hadded | hupdated
    · have hupdated : o.isUpdated = true := by simpa [hadded] using hsome
      exact ⟨.updated, by decide, by simp [hadded, hupdated]⟩
    · have hadded : o.isAdded = true := by simpa [hupdated] using hsome
      exact ⟨.added, by decide, by simp [hadded, hupdated]⟩
  · intro hdiffers
    have hneither : (o.isAdded || o.isUpdated) = false := by
      rw [← Bool.not_eq_true, ← hdiffer]
      exact hdiffers
    rw [Bool.or_eq_false_iff] at hneither
    rw [hchange, hneither.1, hneither.2]
    rfl

/-- No delta concerns a key that is neither reported nor removed. -/
theorem filter_outcomes_of_not_mem (h : Planned s lookback t prior announcements p) {key : String}
    (hkey : key ∉ s.instruments.map (·.1.instrumentKey)) :
    p.deltas.filter (·.isChangeOf key) =
      ((sortedBy (·.2.1.instrumentKey) p.removed).map removedDelta).filter (·.isChangeOf key) ∧
    p.deltas.filter (·.isListingOf key) = [] := by
  have hout : key ∉ p.outcomes.map (·.current.1.instrumentKey) := fun hmem =>
    hkey (h.mem_keys_iff.1 hmem)
  have hchanges : ∀ kind, ∀ o : Outcome, o.current.1.instrumentKey ≠ key →
      (o.delta kind).isChangeOf key = false := by
    intro kind o hne
    simp [Outcome.delta, CatalogDelta.isChangeOf, hne]
  have hlistings : ∀ o : Outcome, o.current.1.instrumentKey ≠ key →
      (o.delta .newListing).isListingOf key = false := by
    intro o hne
    simp [Outcome.delta, CatalogDelta.isListingOf, hne]
  constructor
  · rw [filter_isChangeOf h, filter_outcomeDeltas_of_not_mem (hchanges .added) hout,
      filter_outcomeDeltas_of_not_mem (hchanges .updated) hout, List.nil_append, List.nil_append]
  · rw [filter_isListingOf h, filter_outcomeDeltas_of_not_mem hlistings hout]

/-- The deltas of a key, for what a snapshot does to its record. -/
theorem changes_of_movement (hs : s.Valid) (ht : t.Encoded s.scope)
    (h : Planned s lookback t prior announcements p) {key : String}
    (hold : ∀ o ∈ prior.get? key, o.1.instrumentKey = key ∧ o.1.scope = s.scope ∧
      o.1.lastSeenNs < s.observedAtNs ∧
      (o.1.tradable = true → o.1.firstTradableSeenNs.isSome = true))
    (hnodes : ∀ record ∈ s.instruments, ∃ node, typedJsonNode record.1.lifecycle.1 = .ok node)
    {isNew : Bool} {r' : Option CatalogInstrument}
    (hmoved : Movement s lookback t.state.isNone key (prior.get? key) isNew r') :
    (Differ (prior.get? key) r' → ∃ kind n, kind ≠ .newListing ∧ r' = some n ∧
      p.deltas.filter (·.isChangeOf key) = [.instrument kind key (prior.get? key) n]) ∧
    (¬ Differ (prior.get? key) r' → p.deltas.filter (·.isChangeOf key) = []) ∧
    (isNew = true → ∃ n, r' = some n ∧
      p.deltas.filter (·.isListingOf key) = [.instrument .newListing key (prior.get? key) n]) ∧
    (isNew = false → p.deltas.filter (·.isListingOf key) = []) := by
  generalize hr : prior.get? key = r at *
  cases hmoved with
  | @seen _ _ n record hrecord hkey htransition =>
    subst hkey
    subst hr
    have hscope := hs.scope record hrecord
    obtain ⟨node, hnode⟩ := hnodes record hrecord
    rw [← hscope] at hold
    obtain ⟨hdiffer, hsame, hlisting⟩ := changes_of_seen hs ht h hrecord hold hnode htransition
    refine ⟨?_, hsame, ?_, ?_⟩
    · intro hdiffers
      obtain ⟨kind, hkind, hdeltas⟩ := hdiffer hdiffers
      exact ⟨kind, n, hkind, rfl, hdeltas⟩
    · rintro rfl
      exact ⟨n, rfl, hlisting⟩
    · rintro rfl
      exact hlisting
  | @removed o n hkey hpresent hn =>
    obtain ⟨hchanges, hlistings⟩ := filter_outcomes_of_not_mem h hkey
    obtain ⟨item, hitem, hitemOld, hitemNew⟩ := h.mem_removed hr hpresent hkey
    have hitemKey : item.2.1.instrumentKey = key := by
      rw [hitemNew]
      exact (hold o rfl).1
    have hdelta : removedDelta item = .instrument .removed key (some o) n := by
      rw [removedDelta, hitemKey, hitemOld, Subtype.ext (hitemNew.trans hn.symm)]
    have hdiffers : Differ (some o) (some n) := by
      intro heq
      have hsettled := congrArg CatalogFields.present (Option.some.inj heq)
      change o.1.present = n.1.present at hsettled
      rw [hn, hpresent] at hsettled
      cases hsettled
    refine ⟨fun _ => ⟨.removed, n, by decide, rfl, ?_⟩, fun hsame => absurd hdiffers hsame,
      nofun, fun _ => hlistings⟩
    rw [hchanges, filter_removedDeltas (keys_nodup_removed h ht) hitem hitemKey, hdelta]
  | kept hkey hpresent =>
    obtain ⟨hchanges, hlistings⟩ := filter_outcomes_of_not_mem h hkey
    have hremoved : key ∉ p.removed.map (·.2.1.instrumentKey) := by
      intro hmem
      obtain ⟨item, hitem, heq⟩ := List.mem_map.1 hmem
      obtain ⟨hget, hwas, -, hnew⟩ := h.of_mem_removed ht hitem
      rw [hnew] at heq
      change item.1.1.instrumentKey = key at heq
      rw [heq, hr] at hget
      rw [hpresent item.1 hget] at hwas
      cases hwas
    refine ⟨fun hdiffer => absurd rfl hdiffer, fun _ => ?_, nofun, fun _ => hlistings⟩
    rw [hchanges]
    refine filter_removedDeltas_of_not_mem ?_ hremoved
    intro item hne
    simp [removedDelta, CatalogDelta.isChangeOf, hne]

end Planned

/-! ## Events -/

namespace OutboxRow

/-- The event says that the record of a key changed. -/
def isChangeOf (key : String) (row : OutboxRow codec) : Bool :=
  decide (row.instrumentKey = key) &&
    (decide (row.kind = "added") || decide (row.kind = "updated") || decide (row.kind = "removed"))

/-- The event says that a key is a new listing. -/
def isListingOf (key : String) (row : OutboxRow codec) : Bool :=
  decide (row.instrumentKey = key) && decide (row.kind = "new_listing")

/-- The event carries the records of its instrument before and after. -/
def Carries (row : OutboxRow codec) (previous : Option CatalogInstrument)
    (current : CatalogInstrument) : Prop :=
  ∃ kind payload, row.kind = kind.value ∧
    (CatalogDelta.instrument kind row.instrumentKey previous current).payload = .ok payload ∧
    row.payloadJson = codec.encodeJson payload

/-- The event of a delta. -/
def Tells (revision : Int) (delta : CatalogDelta) (row : OutboxRow codec) : Prop :=
  row.catalogRevision = revision ∧ row.kind = delta.kind ∧
    row.instrumentKey = delta.instrumentKey ∧
    ∃ payload, delta.payload = .ok payload ∧ row.payloadJson = codec.encodeJson payload

theorem Tells.isChangeOf_eq {revision : Int} {delta : CatalogDelta} {row : OutboxRow codec}
    (h : Tells revision delta row) (key : String) : row.isChangeOf key = delta.isChangeOf key := by
  obtain ⟨-, hkind, hkey, -⟩ := h
  rw [isChangeOf, hkind, hkey]
  cases delta with
  | announcement => exact Bool.and_false _
  | instrument kind key' _ _ =>
    have hvalue : (decide (kind.value = "added") || decide (kind.value = "updated") ||
        decide (kind.value = "removed")) = decide (kind ≠ .newListing) := by
      cases kind <;> decide
    exact congrArg (decide (key' = key) && ·) hvalue

theorem Tells.isListingOf_eq {revision : Int} {delta : CatalogDelta} {row : OutboxRow codec}
    (h : Tells revision delta row) (key : String) :
    row.isListingOf key = delta.isListingOf key := by
  obtain ⟨-, hkind, hkey, -⟩ := h
  rw [isListingOf, hkind, hkey]
  cases delta with
  | announcement => exact Bool.and_false _
  | instrument kind key' _ _ =>
    have hvalue : decide (kind.value = "new_listing") = decide (kind = .newListing) := by
      cases kind <;> decide
    exact congrArg (decide (key' = key) && ·) hvalue

theorem Tells.carries {revision : Int} {kind : InstrumentChange} {key : String}
    {previous : Option CatalogInstrument} {current : CatalogInstrument} {row : OutboxRow codec}
    (h : Tells revision (.instrument kind key previous current) row) :
    row.Carries previous current := by
  obtain ⟨-, hkind, hkey, payload, hpayload, hjson⟩ := h
  exact ⟨kind, payload, hkind, hpayload, hjson⟩

end OutboxRow

/-- Each event tells its delta, and their ordinals count from zero on. -/
theorem tells_of_eventRows {scope : CatalogScope} {revision : Int} {deltas : List CatalogDelta}
    {events : List (OutboxRow codec)} (h : eventRows codec scope revision deltas = .ok events) :
    List.Forall₂ (OutboxRow.Tells revision) deltas events ∧
      events.map (·.eventOrdinal) = List.range events.length := by
  have hall := forall₂_of_mapM h
  have htells : ∀ (delta : CatalogDelta × Nat) row, eventRow codec scope revision delta.2 delta.1 = .ok row →
      OutboxRow.Tells revision delta.1 row ∧ row.eventOrdinal = delta.2 := by
    intro delta row hrow
    obtain ⟨payload, hpayload, hrow⟩ := bind_eq_ok.1 hrow
    cases hrow
    exact ⟨⟨rfl, rfl, rfl, payload, hpayload, rfl⟩, rfl⟩
  constructor
  · have hmapped : List.Forall₂ (OutboxRow.Tells revision) (deltas.zipIdx.map Prod.fst) events :=
      List.forall₂_map_left_iff.2 (hall.imp fun delta row hrow => (htells delta row hrow).1)
    simpa using hmapped
  · have hordinals : events.map (·.eventOrdinal) = deltas.zipIdx.map Prod.snd :=
      map_eq_of_forall₂ hall fun delta row hrow => (htells delta row hrow).2
    have hlength : deltas.length = events.length := by simpa using hall.length_eq
    rw [hordinals, List.zipIdx_map_snd, hlength, List.range_eq_range']

/-- The events of deltas that a predicate picks. -/
theorem filter_of_tells {revision : Int} {deltas : List CatalogDelta}
    {events : List (OutboxRow codec)} (h : List.Forall₂ (OutboxRow.Tells revision) deltas events)
    {p : CatalogDelta → Bool} {q : OutboxRow codec → Bool}
    (hpq : ∀ delta row, OutboxRow.Tells revision delta row → q row = p delta) :
    List.Forall₂ (OutboxRow.Tells revision) (deltas.filter p) (events.filter q) :=
  List.rel_filter (fun delta row hrow => by simp [hpq delta row hrow]) h

/-! ## Runs -/

section Runs

variable {scope : CatalogScope}

/-- What holds of the outbox and of the digest after every run. -/
structure Tables.Announced (t : Tables codec) : Prop where
  outbox : ∀ row ∈ t.outbox, ∃ state, t.state = some state ∧ row.catalogRevision ≤ state.revision
  revision : ∀ state ∈ t.state, 0 < state.revision ∧ state.revision ≤ maxInt64
  digest : ∀ state ∈ t.state, ∃ (s : CompleteCatalogSnapshot) (lookback : Int),
    (0 ≤ lookback ∧ lookback ≤ maxInt64) ∧
    completeCatalogDigest codec s.1 lookback = .ok state.snapshotDigest ∧
    ∀ record ∈ s.1.instruments, snapshotRecordCheck s.1.observedAtNs record = none

theorem revision_of_planned {s : CatalogSnapshotFields} {lookback : Int} {t : Tables codec}
    {prior : Dict String CatalogInstrument} {announcements : List CatalogDelta} {p : Plan codec}
    (h : Planned s lookback t prior announcements p) (ht : t.Announced) :
    0 < p.revision ∧ ∀ row ∈ t.outbox, row.catalogRevision < p.revision := by
  rw [h.revision]
  cases hstate : t.state with
  | none =>
    refine ⟨by simp, ?_⟩
    intro row hrow
    obtain ⟨state, hsome, -⟩ := ht.outbox row hrow
    rw [hstate] at hsome
    cases hsome
  | some state =>
    have hpositive := (ht.revision state hstate).1
    refine ⟨by simpa using by omega, ?_⟩
    intro row hrow
    obtain ⟨other, hsome, hle⟩ := ht.outbox row hrow
    rw [hstate] at hsome
    cases hsome
    simpa using Int.lt_add_one_of_le hle

theorem announced_exec {t : Tables codec} (ht : t.Announced) (op : CatalogOp scope) :
    (op.exec t).2.Announced := by
  have hwrote := wrote_exec op t
  generalize (op.exec t).2 = t' at hwrote
  cases hwrote with
  | unchanged => exact ht
  | hinted hints => exact ⟨ht.outbox, ht.revision, ht.digest⟩
  | @turnover s hscope state _ hop hstate h =>
    refine ⟨?_, ?_, ?_⟩
    · intro row hrow
      rw [h.outbox] at hrow
      obtain ⟨other, hother, hle⟩ := ht.outbox row hrow
      rw [hstate] at hother
      cases hother
      exact ⟨_, h.state, hle⟩
    · intro other hother
      rw [h.state] at hother
      cases hother
      exact ht.revision state hstate
    · intro other hother
      rw [h.state] at hother
      cases hother
      exact ht.digest state hstate
  | @snapshot s lookback hscope digest _ _ p _ hop hlookback hdigest hrecords hlater hplan h =>
    obtain ⟨hpositive, hearlier⟩ := revision_of_planned hplan ht
    refine ⟨?_, ?_, ?_⟩
    · intro row hrow
      refine ⟨_, h.state, ?_⟩
      rw [h.outbox] at hrow
      rcases List.mem_append.1 hrow with hrow | hrow
      · exact (hearlier row hrow).le
      · obtain ⟨delta, -, htells⟩ :=
          exists_left_of_forall₂ (tells_of_eventRows hplan.events).1 hrow
        exact htells.1.le
    · intro other hother
      rw [h.state] at hother
      cases hother
      exact ⟨hpositive, h.revision⟩
    · intro other hother
      rw [h.state] at hother
      cases hother
      exact ⟨s, lookback, hlookback, hdigest, hrecords⟩

theorem announced_after (ops : List (CatalogOp scope)) : (Tables.after codec ops).Announced := by
  unfold Tables.after
  have hinitial : (Tables.initial codec).Announced := ⟨by simp [Tables.initial],
    by simp [Tables.initial], by simp [Tables.initial]⟩
  generalize Tables.initial codec = t at hinitial
  induction ops generalizing t with
  | nil => exact hinitial
  | cons op ops ih => exact ih _ (announced_exec hinitial op)

/-! ## Replays -/

theorem check_idempotentChanges (scope : CatalogScope) {observedAt : Int} {state : ScopeRow codec}
    (hobserved : 0 ≤ observedAt ∧ observedAt ≤ maxInt64)
    (hrevision : 0 < state.revision ∧ state.revision ≤ maxInt64) :
    (idempotentChanges scope observedAt state).check = none := by
  simp [CatalogChanges.check, idempotentChanges, hobserved, hrevision, Storage.refuseIf]

theorem applyCatalogSnapshot_replay {t : Tables codec} (ht : t.Announced)
    {s : CompleteCatalogSnapshot} {lookback : Int} {state : ScopeRow codec}
    (hstate : t.state = some state) (hsame : s.1.observedAtNs = state.lastObservedAtNs)
    (hlookback : 0 ≤ lookback ∧ lookback ≤ maxInt64)
    (hdigest : completeCatalogDigest codec s.1 lookback = .ok state.snapshotDigest) :
    applyCatalogSnapshot s lookback t =
      .ok (idempotentChanges s.1.scope s.1.observedAtNs state, t) := by
  have hs := CatalogSnapshotFields.valid_of_check s.2
  obtain ⟨s', lookback', hlookback', hdigest', hrecords'⟩ := ht.digest state hstate
  have hrecords := List.findSome?_eq_none_iff.2
    (snapshotRecordCheck_of_digest hlookback' hlookback hdigest' hdigest hrecords')
  have hcheck := check_idempotentChanges s.1.scope hs.observedAtNs (ht.revision state hstate)
  have hnonnegative : nonnegativeInt lookback "initial_lookback_ns" = none :=
    nonnegativeInt_eq_none.2 hlookback
  unfold applyCatalogSnapshot
  simp only [hnonnegative, hdigest, hrecords, hstate, checked, raising, Except.mapError, ok_bind]
  rw [if_neg (by omega), if_pos hsame, if_neg (not_not.2 rfl)]
  simp only [checkedChanges, hcheck, checked, raising, Except.mapError, ok_bind]
  rfl

/-- A snapshot at the time of the last one changes nothing. It is accepted exactly when its digest
is the one that was applied. -/
theorem exec_replay {t : Tables codec} (ht : t.Announced) {s : CompleteCatalogSnapshot}
    {lookback : Int} (hscope : s.1.scope = scope) {state : ScopeRow codec}
    (hstate : t.state = some state) (hsame : s.1.observedAtNs = state.lastObservedAtNs) :
    let op := CatalogOp.snapshot s lookback hscope
    let accepted := (0 ≤ lookback ∧ lookback ≤ maxInt64) ∧
      completeCatalogDigest codec s.1 lookback = .ok state.snapshotDigest
    (op.exec t).2 = t ∧
      (accepted → (op.exec t).1 =
        .ok (.changes (idempotentChanges scope s.1.observedAtNs state))) ∧
      (¬ accepted → ∃ e, (op.exec t).1 = .error e) := by
  intro op accepted
  cases happly : applyCatalogSnapshot s lookback t with
  | error e =>
    have hbody : op.body t = .error e := by
      change (applyCatalogSnapshot s lookback t >>= _) = _
      rw [happly, error_bind]
    rw [exec_of_error hbody]
    refine ⟨rfl, ?_, fun _ => ⟨e, rfl⟩⟩
    rintro ⟨hlookback, hdigest⟩
    rw [applyCatalogSnapshot_replay ht hstate hsame hlookback hdigest] at happly
    cases happly
  | ok result =>
    obtain ⟨c, t'⟩ := result
    have hbody : op.body t = .ok (.changes c, t') := by
      change (applyCatalogSnapshot s lookback t >>= _) = _
      rw [happly, ok_bind]
      rfl
    rw [exec_of_body hbody]
    obtain ⟨hlookback, happly⟩ := applyCatalogSnapshot_eq_ok happly
    rcases happly with ⟨other, hother, -, hdigest, rfl, rfl⟩ | ⟨digest, -, -, hlater, -⟩
    · rw [hstate] at hother
      cases hother
      refine ⟨rfl, fun _ => ?_, fun hnot => absurd ⟨hlookback, hdigest⟩ hnot⟩
      rw [hscope]
    · have := hlater state hstate
      omega

/-! ## The law of the outbox -/

/-- The events of a revision. -/
def Tables.eventsOf (t : Tables codec) (revision : Int) : List (OutboxRow codec) :=
  t.outbox.filter fun row => decide (row.catalogRevision = revision)

theorem eventsOf_of_written {s : CatalogSnapshotFields} {lookback : Int} {digest : codec.Digest}
    {t t' : Tables codec} {prior : Dict String CatalogInstrument}
    {announcements : List CatalogDelta} {p : Plan codec}
    (hplan : Planned s lookback t prior announcements p) (h : Written s digest p t t')
    (ht : t.Announced) : t'.eventsOf p.revision = p.events := by
  have hearlier := (revision_of_planned hplan ht).2
  have htells := (tells_of_eventRows hplan.events).1
  rw [Tables.eventsOf, h.outbox, List.filter_append, List.filter_eq_nil_iff.2,
    List.filter_eq_self.2, List.nil_append]
  · intro row hrow
    obtain ⟨delta, -, hdelta⟩ := exists_left_of_forall₂ htells hrow
    exact decide_eq_true hdelta.1
  · intro row hrow hsame
    have := hearlier row hrow
    have := of_decide_eq_true hsame
    omega

/-- An event that tells the only delta. -/
theorem exists_event {revision : Int} {kind : InstrumentChange} {key : String}
    {previous : Option CatalogInstrument} {current : CatalogInstrument}
    {events : List (OutboxRow codec)} (h : List.Forall₂ (OutboxRow.Tells revision)
      [.instrument kind key previous current] events) :
    ∃ event, events = [event] ∧ event.Carries previous current := by
  cases h with
  | cons htells hrest =>
    cases hrest
    exact ⟨_, rfl, htells.carries⟩

/-- The lifecycles of a snapshot with a digest have nodes. -/
theorem exists_node_of_digest {s : CatalogSnapshotFields} {lookback : Int} {digest : codec.Digest}
    (h : completeCatalogDigest codec s lookback = .ok digest) :
    ∀ record ∈ s.instruments, ∃ node, typedJsonNode record.1.lifecycle.1 = .ok node := by
  intro record hrecord
  obtain ⟨instruments, hinstruments, -⟩ := bind_eq_ok.1 h
  obtain ⟨payload, -, hpayload⟩ := exists_right_of_forall₂ (forall₂_of_mapM hinstruments)
    (mem_sortedBy.2 hrecord)
  obtain ⟨node, hnode, -⟩ := bind_eq_ok.1 hpayload
  exact ⟨node, hnode⟩

/-- The law of the outbox, after every run. A snapshot that is applied adds the events of its
revision, numbered from zero on: one for each instrument whose record differs, with its records
before and after, one for each new listing, and none for an instrument that stays as it was. A
snapshot at the time of the last one changes nothing, and it is accepted exactly when its digest is
the one that was applied. -/
theorem changes_announced (codec : CatalogCodec) (scope : CatalogScope)
    (ops : List (CatalogOp scope)) (s : CompleteCatalogSnapshot) (lookback : Int)
    (hscope : s.1.scope = scope) :
    let op := CatalogOp.snapshot s lookback hscope
    let t := Tables.after codec ops
    let t' := (op.exec t).2
    (∀ changes, (op.exec t).1 = .ok (.changes changes) → changes.idempotent = false →
      let events := t'.eventsOf changes.revision
      t'.outbox = t.outbox ++ events ∧
      events.map (·.eventOrdinal) = List.range events.length ∧
      ∀ key r r', Records scope t key r → Records scope t' key r' →
        (Differ r r' → ∃ event n, r' = some n ∧ events.filter (·.isChangeOf key) = [event] ∧
          event.Carries r n) ∧
        (¬ Differ r r' → events.filter (·.isChangeOf key) = []) ∧
        (op.Reports t key → ∃ event n, r' = some n ∧
          events.filter (·.isListingOf key) = [event] ∧ event.Carries r n) ∧
        (¬ op.Reports t key → events.filter (·.isListingOf key) = [])) ∧
    ∀ state, t.state = some state → s.1.observedAtNs = state.lastObservedAtNs →
      let accepted := (0 ≤ lookback ∧ lookback ≤ maxInt64) ∧
        completeCatalogDigest codec s.1 lookback = .ok state.snapshotDigest
      t' = t ∧
      (accepted → (op.exec t).1 =
        .ok (.changes (idempotentChanges scope s.1.observedAtNs state))) ∧
      (¬ accepted → ∃ e, (op.exec t).1 = .error e) := by
  intro op t t'
  have hsound : t.Sound scope := sound_after ops
  have hannounced : t.Announced := announced_after ops
  refine ⟨?_, fun state hstate hsame => exec_replay hannounced hscope hstate hsame⟩
  intro changes hchanges hnew events
  cases hbody : op.body t with
  | error e =>
    rw [exec_of_error hbody] at hchanges
    cases hchanges
  | ok result =>
    obtain ⟨c, t''⟩ := result
    have hexec := exec_of_body hbody
    obtain ⟨⟨c', t'''⟩, happly, hbody⟩ := bind_eq_ok.1 hbody
    cases hbody
    rw [hexec] at hchanges
    cases hchanges
    have hafter : t' = t'' := congrArg Prod.snd hexec
    rcases (applyCatalogSnapshot_eq_ok happly).2 with ⟨state, -, -, -, rfl, -⟩ |
      ⟨digest, hdigest, -, hlater, happly⟩
    · cases hnew
    obtain ⟨prior, announcements, p, hplan, hwritten, rfl⟩ := applyNewSnapshot_eq_ok happly
    have hs := CatalogSnapshotFields.valid_of_check s.2
    have hencoded : t.Encoded s.1.scope := hscope ▸ hsound.encoded
    have hevents : events = p.events := by
      change t'.eventsOf p.revision = p.events
      rw [hafter]
      exact eventsOf_of_written hplan hwritten hannounced
    obtain ⟨htells, hordinals⟩ := tells_of_eventRows hplan.events
    rw [hevents]
    refine ⟨by rw [hafter]; exact hwritten.outbox, hordinals, ?_⟩
    intro key r r' hr hr'
    obtain ⟨isNew, r'', hmoved, hrecords, hlisted⟩ :=
      moved_of_written hs hencoded hplan hwritten key
    have hprior := records_of_loadPriorRecords hencoded hplan.prior_eq key
    rw [hscope] at hrecords hprior
    rw [hafter] at hr'
    cases hrecords.unique hr'
    cases hprior.unique hr
    have hreports : op.Reports t key ↔ isNew = true := by
      rw [hlisted]
      constructor
      · rintro ⟨c, hc, hmem⟩
        rw [hexec] at hc
        cases hc
        exact hmem
      · exact fun hmem => ⟨_, by rw [hexec], hmem⟩
    have hold : ∀ o ∈ prior.get? key, o.1.instrumentKey = key ∧ o.1.scope = s.1.scope ∧
        o.1.lastSeenNs < s.1.observedAtNs ∧
        (o.1.tradable = true → o.1.firstTradableSeenNs.isSome = true) := by
      intro o ho
      rw [Option.mem_def] at ho
      rw [ho] at hprior
      obtain ⟨state, hstate, hle⟩ := hsound.seen key o hprior
      have htraded := hsound.traded key o hprior
      obtain ⟨row, -, hrow⟩ := hprior
      exact ⟨hrow.key_eq, hscope ▸ hrow.scope_eq, hle.trans_lt (hlater state hstate), htraded⟩
    obtain ⟨hdiffer, hsame, hlisting, hunlisted⟩ := changes_of_movement hs hencoded hplan hold
      (exists_node_of_digest hdigest) hmoved
    have hchange := filter_of_tells htells (p := (·.isChangeOf key)) fun delta row hrow =>
      hrow.isChangeOf_eq key
    have hlist := filter_of_tells htells (p := (·.isListingOf key)) fun delta row hrow =>
      hrow.isListingOf_eq key
    refine ⟨?_, ?_, ?_, ?_⟩
    · intro hdiffers
      obtain ⟨kind, n, -, hn, hdeltas⟩ := hdiffer hdiffers
      rw [hdeltas] at hchange
      obtain ⟨event, hevent, hcarries⟩ := exists_event hchange
      exact ⟨event, n, hn, hevent, hcarries⟩
    · intro hdiffers
      rw [hsame hdiffers] at hchange
      exact List.forall₂_nil_left_iff.1 hchange
    · intro hreported
      obtain ⟨n, hn, hdeltas⟩ := hlisting (hreports.1 hreported)
      rw [hdeltas] at hlist
      obtain ⟨event, hevent, hcarries⟩ := exists_event hlist
      exact ⟨event, n, hn, hevent, hcarries⟩
    · intro hreported
      have hnot : isNew = false := by
        rw [← Bool.not_eq_true, ← hreports]
        exact hreported
      rw [hunlisted hnot] at hlist
      exact List.forall₂_nil_left_iff.1 hlist

end Runs

theorem sorted_wireSymbols : ([("ws", "BTC-USDT")].map Prod.fst).Pairwise (· < ·) := by decide

/-- A record with a lifecycle. -/
def listedRecord (lifecycle : FrozenJson) : InstrumentRecord :=
  ⟨{ exchange := .okx
     market := .spot
     instrumentKey := "BTC-USDT"
     canonicalPair := "BTC-USDT"
     wireSymbols := ⟨[("ws", "BTC-USDT")], sorted_wireSymbols⟩
     baseAsset := "BTC"
     quoteAsset := "USDT"
     settlementAsset := none
     status := "live"
     lifecyclePhase := .tradable
     tradable := true
     lifecycle
     tradableAtNs := none
     tradableAtSource := none
     turnover := none
     rawCatalogReference := "raw-1" }, rfl⟩

/-- A snapshot of that record. -/
def listedSnapshot (lifecycle : FrozenJson) : CompleteCatalogSnapshot :=
  ⟨{ scope := ⟨.okx, .spot⟩
     observedAtNs := 1
     snapshotId := "catalog-1"
     pages := [⟨⟨"page-1", none, none⟩, rfl⟩]
     reportedTotalCount := none
     authoritativeEmpty := false
     instruments := [listedRecord lifecycle] }, rfl⟩

/-- The first snapshot of a scope adds the events of its revision. -/
theorem changes_announced_listed :
    let op : CatalogOp ⟨.okx, .spot⟩ := .snapshot (listedSnapshot (freezeJson (.object []))) 0 rfl
    let t' := Tables.after .plain [op]
    ∃ changes, (op.exec (Tables.initial .plain)).1 = .ok (.changes changes) ∧
      t'.outbox = t'.eventsOf changes.revision ∧
      (t'.eventsOf changes.revision).map (·.eventOrdinal) =
        List.range (t'.eventsOf changes.revision).length := by
  intro op t'
  have hnew : ((op.exec (Tables.initial .plain)).1.toOption.map fun
      | .changes changes => changes.idempotent
      | _ => true) = some false := by decide +kernel
  cases hresult : (op.exec (Tables.initial .plain)).1 with
  | error e =>
    rw [hresult] at hnew
    cases hnew
  | ok result =>
    rw [hresult] at hnew
    cases result with
    | changes changes =>
      obtain ⟨houtbox, hordinals, -⟩ :=
        (changes_announced .plain ⟨.okx, .spot⟩ [] (listedSnapshot (freezeJson (.object []))) 0
          rfl).1 changes hresult (Option.some.inj hnew)
      exact ⟨changes, rfl, houtbox, hordinals⟩
    | _ => cases hnew

end CryptoCollector.Selection
