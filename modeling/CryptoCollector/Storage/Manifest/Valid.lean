import CryptoCollector.Storage.Manifest.Rows
import CryptoCollector.Storage.Segments

/-!
# The manifest of a frozen part is valid

The summary of a frozen part is about its rows (`ActivePart.Summarised`). The fields that it gives
to the manifest pass every check except the layout, and the layout is accepted for the keys in
scope and the hour of the path (`Placed.validateLayout_iff`).
-/

namespace CryptoCollector.Storage

open Lib
open ManifestFields (raise)

namespace ActivePart

/-! ## The summary of a frozen part -/

/-- What the rows, the facts and the histogram of a part put into its summary. -/
structure Summarised (a : ActivePart) (summary : PartSummary) : Prop where
  written : a.rows = a.written.flatten
  samples : a.lags.length = a.rows.length
  exchange : summary.exchange = a.exchange
  key : summary.key = a.part.key
  worker : summary.workerInstanceId = a.workerInstanceId
  config : summary.configSha256 = a.part.configSha256
  recordCount : summary.recordCount = a.rows.length
  nonempty : a.rows ≠ []
  firstReceived : some summary.firstReceivedAtNs = a.rows.head?.map (·.envelope.receivedAtNs)
  lastReceived : some summary.lastReceivedAtNs = a.rows.getLast?.map (·.envelope.receivedAtNs)
  sequenceFirst : some summary.writerSequenceFirst = a.rows.head?.map (·.envelope.writerSequence)
  sequenceLast : some summary.writerSequenceLast =
    a.rows.getLast?.map (·.envelope.writerSequence)
  wireSymbols : summary.wireSymbols = sortedValues (·.wireSymbol) (a.rows.map (·.envelope))
  connectionGenerations : summary.connectionGenerations =
    sortedValues (·.connectionGeneration) (a.rows.map (·.envelope))
  egressIds : summary.egressIds = sortedValues (·.egressId) (a.rows.map (·.envelope))
  requestedIntervals : summary.requestedIntervalsNs =
    sortedValues (·.requestedIntervalNs) (a.rows.map (·.envelope))
  effectiveIntervals : summary.effectiveIntervalsNs =
    sortedValues (·.effectiveIntervalNs) (a.rows.map (·.envelope))
  firstEventTime : summary.firstEventTimeNs =
    ((a.rows.map (·.envelope)).filterMap (·.eventTimeNs)).head?
  lastEventTime : summary.lastEventTimeNs =
    ((a.rows.map (·.envelope)).filterMap (·.eventTimeNs)).getLast?
  events : "" ∉ summary.controlEventIds
  eventsSorted : ManifestFields.isSortedUnique summary.controlEventIds = true
  sampleCount : summary.durabilitySampleCount = a.lags.length
  breaches : summary.sloBreachCount = a.lags.countP (a.durabilitySloNs < ·)
  median_le : summary.durabilityLagP50Ns ≤ summary.durabilityLagP95Ns
  tail_le : summary.durabilityLagP95Ns ≤ summary.durabilityLagP99Ns

theorem assertSome_eq_ok {α : Type} {value : Option α} {v : α} :
    assertSome value = .ok v ↔ value = some v := by
  cases value <;> simp [assertSome]

theorem isSortedUnique_sort {α : Type} [LinearOrder α] (s : Finset α) :
    ManifestFields.isSortedUnique (s.sort (· ≤ ·)) = true := by
  simp only [ManifestFields.isSortedUnique, Bool.and_eq_true, decide_eq_true_eq]
  exact ⟨Finset.pairwise_sort s (· ≤ ·), Finset.sort_nodup s (· ≤ ·)⟩

/-- What freezing a part has checked. -/
theorem part_freezeSummary_ok {p q : Part} (h : p.freezeSummary = (none, q)) :
    p.pending = [] ∧ p.claimed = none ∧ p.accumulator.recordCount ≠ 0 ∧
      (∃ s, p.accumulator.histogram.snapshot = .ok s ∧
        s.sampleCount = p.accumulator.recordCount) ∧
      p.accumulator.writeFailureCount = 0 ∧ p.accumulator.syncFailureCount = 0 ∧
      q = { p with accumulator := { p.accumulator with frozen := true } } := by
  unfold Part.freezeSummary at h
  split at h
  · simp at h
  · next hquiet =>
    obtain ⟨hpending, hclaimed⟩ : p.pending = [] ∧ p.claimed = none := by simpa using hquiet
    split at h
    · simp at h
    · next hfreeze =>
      unfold PartAccumulator.validateFreeze at hfreeze
      split at hfreeze
      · simp at hfreeze
      · split at hfreeze
        · simp at hfreeze
        · next hcount =>
          split at hfreeze
          · simp at hfreeze
          · next s hs =>
            split_ifs at hfreeze with hsamples hfailed
            obtain ⟨hwrite, hsync⟩ : p.accumulator.writeFailureCount = 0 ∧
                p.accumulator.syncFailureCount = 0 := by simpa using hfailed
            have hsame : s.sampleCount = p.accumulator.recordCount := by simpa using hsamples
            exact ⟨hpending, hclaimed, hcount, ⟨s, hs, hsame⟩, hwrite, hsync,
              (Prod.ext_iff.1 h).2.symm⟩

/-- The summary of a frozen part is about its rows. -/
theorem Kept.summarised {a : ActivePart} (hk : a.Kept) {summary : PartSummary}
    (h : a.freezeSummary = .ok summary) : a.Summarised summary := by
  unfold freezeSummary at h
  split at h
  · simp at h
  · next part hpart =>
    obtain ⟨hpending, hclaimed, hcount, ⟨s, hs, hsamples⟩, hwrite, hsync, rfl⟩ :=
      part_freezeSummary_ok hpart
    simp only [bind_eq_ok, assertSome_eq_ok] at h
    obtain ⟨d, hd, first, hfirst, last, hlast, seqFirst, hseqFirst, seqLast, hseqLast, p50, hp50,
      p95, hp95, p99, hp99, lagMax, -, h⟩ := h
    obtain rfl : s = d := by simpa [hs] using hd
    obtain rfl := Except.ok.inj h
    obtain ⟨hsampleCount, -, h50, h95, h99⟩ := Histogram.snapshot_ok hs
    have hrows : a.pending = [] := by simpa [hk.pending] using hpending
    have hlags : a.lags.length = a.rows.length := by
      rw [← hk.histogram.samples, ← hsampleCount, hsamples, hk.recordCount]
    have hfacts : FactsOf a.facts (a.rows.map (·.envelope)) := by
      rw [hk.facts]
      exact factsOf_foldl _
    rw [hp50] at h50
    rw [hp95] at h95
    rw [hp99] at h99
    exact {
      written := by
        rw [hk.rows hwrite hsync, hrows, hk.unclaimed hclaimed]
        simp
      samples := hlags
      exchange := rfl
      key := rfl
      worker := rfl
      config := rfl
      recordCount := hk.recordCount
      nonempty := by
        intro hnil
        exact hcount (by rw [hk.recordCount, hnil, List.length_nil])
      firstReceived := hfirst.symm.trans hk.firstReceived
      lastReceived := hlast.symm.trans hk.lastReceived
      sequenceFirst := hseqFirst.symm.trans hk.sequenceFirst
      sequenceLast := hseqLast.symm.trans hk.sequenceLast
      wireSymbols := hfacts.wireSymbols
      connectionGenerations := hfacts.connectionGenerations
      egressIds := hfacts.egressIds
      requestedIntervals := hfacts.requestedIntervalsNs
      effectiveIntervals := hfacts.effectiveIntervalsNs
      firstEventTime := hfacts.firstEventTimeNs
      lastEventTime := hfacts.lastEventTimeNs
      events := by
        change "" ∉ a.part.accumulator.controlEventIds.toFinset.sort (· ≤ ·)
        rw [Finset.mem_sort, List.mem_toFinset]
        exact hk.events
      eventsSorted := by
        simp only [ManifestFields.isSortedUnique, Bool.and_eq_true, decide_eq_true_eq]
        exact ⟨Finset.pairwise_sort _ (· ≤ ·), Finset.sort_nodup _ (· ≤ ·)⟩
      sampleCount := hsampleCount.trans hk.histogram.samples
      breaches := hk.breaches
      median_le := nearestRank_mono (by decide) h50 h95
      tail_le := nearestRank_mono (by decide) h95 h99 }

/-! ## The fields of the manifest -/

section Fields

variable {a : ActivePart} {summary : PartSummary}

theorem mem_sortedValues {α : Type} [LinearOrder α] {field : RawEnvelope → Option α}
    {rows : List Row} {v : α} (h : v ∈ sortedValues field (rows.map (·.envelope))) :
    ∃ r ∈ rows, field r.envelope = some v := by
  rw [sortedValues, Finset.mem_sort, List.mem_toFinset, List.mem_filterMap] at h
  obtain ⟨e, he, hv⟩ := h
  obtain ⟨r, hr, rfl⟩ := List.mem_map.1 he
  exact ⟨r, hr, hv⟩

theorem sortedValues_eq_nil {α : Type} [LinearOrder α] {field : RawEnvelope → Option α}
    {rows : List RawEnvelope} : sortedValues field rows = [] ↔ ∀ e ∈ rows, field e = none := by
  rw [sortedValues, ← List.toFinset_eq_empty_iff, Finset.sort_toFinset,
    List.toFinset_eq_empty_iff, List.filterMap_eq_nil_iff]

/-- The texts of an envelope are nonempty and its digest is one. -/
theorem envelope_fields (e : RawEnvelope) :
    e.instrumentKey ≠ some "" ∧ e.wireSymbol ≠ some "" ∧ e.logicalStream ≠ "" ∧
      e.workerInstanceId ≠ "" ∧ e.egressId ≠ some "" ∧ isSha256 e.configSha256 = true := by
  have hvalid := e.valid
  unfold EnvelopeFields.validate at hvalid
  rw [orElse_eq_none] at hvalid
  have hfields := hvalid.1
  unfold EnvelopeFields.validateFields at hfields
  split_ifs at hfields with hempty hsha
  simp only [List.contains_eq_mem, List.mem_cons, List.not_mem_nil, or_false, decide_eq_true_eq,
    not_or] at hempty
  obtain ⟨hkey, hsymbol, hstream, -, -, hworker, -, hegress⟩ := hempty
  refine ⟨Ne.symm hkey, Ne.symm hsymbol, ?_, ?_, Ne.symm hegress, by simpa using hsha⟩
  · rintro h
    exact hstream (by rw [h])
  · rintro h
    exact hworker (by rw [h])

/-- The scope of an envelope. -/
theorem envelope_scope (e : RawEnvelope) :
    e.instrumentKey.isNone = e.wireSymbol.isNone ∧
      (e.logicalStream ≠ "_control" → e.logicalStream ∉ marketScopedStreams →
        e.instrumentKey.isSome) := by
  have hvalid := e.valid
  unfold EnvelopeFields.validate at hvalid
  rw [orElse_eq_none] at hvalid
  have hscope := (orElse_eq_none.1 hvalid.2).1
  unfold EnvelopeFields.validateScopeAndTransport at hscope
  dsimp only at hscope
  split at hscope
  · simp at hscope
  · split at hscope
    · simp at hscope
    · next hpaired =>
      split at hscope
      · simp at hscope
      · next hrequired =>
        refine ⟨by simpa using hpaired, ?_⟩
        intro hcontrol hmarket
        by_contra hnone
        exact hrequired (by simp_all)

theorem interval_pos (e : RawEnvelope) :
    e.requestedIntervalNs ≠ some 0 ∧ e.effectiveIntervalNs ≠ some 0 := by
  unfold RawEnvelope.requestedIntervalNs RawEnvelope.effectiveIntervalNs
  cases hrest : e.restMetadata with
  | none => simp
  | some m =>
    have hrequested : m.requestedIntervalNs ≠ some 0 := by
      intro h
      exact absurd (m.requested_pos 0 h) (by simp)
    refine ⟨hrequested, ?_⟩
    intro heffective
    cases hr : m.requestedIntervalNs with
    | none =>
      have hpaired := m.paired
      rw [hr, show m.effectiveIntervalNs = some 0 from heffective] at hpaired
      simp at hpaired
    | some r =>
      have hle := m.covered r hr 0 heffective
      have hpos := m.requested_pos r hr
      omega

/-- What the allocation of a part has checked. -/
structure Laid (a : ActivePart) : Prop where
  data : isNormalizedRelativePath a.dataRelativePath = true
  manifest : isNormalizedRelativePath a.manifestRelativePath = true
  level : 1 ≤ a.zstdLevel ∧ a.zstdLevel ≤ 22
  limit : 1 ≤ a.maxPlainFrameBytes

variable {size closedAtNs : Nat} {sha : String} {reason : CloseReason}

theorem validateFields_manifestFields (hk : a.Kept) (hs : a.Summarised summary) (hl : a.Laid)
    (hsize : size ≠ 0) (hsha : isSha256 sha = true) :
    (a.manifestFields summary size sha reason closedAtNs).validateFields = none := by
  obtain ⟨first, hfirst⟩ := List.exists_mem_of_ne_nil _ hs.nonempty
  have howns := hk.owned first hfirst
  obtain ⟨hkey, -, hstream, hworker, -, hconfig⟩ := envelope_fields first.envelope
  have hsummaryKey : summary.key = first.envelope.key := hs.key.trans howns.key.symm
  have hsymbols : "" ∉ summary.wireSymbols := by
    intro hmem
    rw [hs.wireSymbols] at hmem
    obtain ⟨r, -, hr⟩ := mem_sortedValues hmem
    exact (envelope_fields r.envelope).2.1 hr
  have hegress : "" ∉ summary.egressIds := by
    intro hmem
    rw [hs.egressIds] at hmem
    obtain ⟨r, -, hr⟩ := mem_sortedValues hmem
    exact (envelope_fields r.envelope).2.2.2.2.1 hr
  have hrequested : 0 ∉ summary.requestedIntervalsNs := by
    intro hmem
    rw [hs.requestedIntervals] at hmem
    obtain ⟨r, -, hr⟩ := mem_sortedValues hmem
    exact absurd (interval_pos r.envelope).1 (by simp [hr])
  have heffective : 0 ∉ summary.effectiveIntervalsNs := by
    intro hmem
    rw [hs.effectiveIntervals] at hmem
    obtain ⟨r, -, hr⟩ := mem_sortedValues hmem
    exact absurd (interval_pos r.envelope).2 (by simp [hr])
  have hcount : summary.recordCount ≠ 0 := by
    rw [hs.recordCount]
    simpa using hs.nonempty
  have hworker' : summary.workerInstanceId ≠ "" := by
    rw [hs.worker, ← howns.worker]
    exact hworker
  have hconfig' : isSha256 summary.configSha256 = true := by
    rw [hs.config, ← howns.config]
    exact hconfig
  have hstream' : summary.key.logicalStream ≠ "" := by
    rw [hsummaryKey]
    exact hstream
  have hkey' : summary.key.instrumentKey ≠ some "" := by
    rw [hsummaryKey]
    exact hkey
  have hlevel := hl.level
  have hlimit := hl.limit
  simp only [ManifestFields.validateFields, manifestFields, orElse_eq_none, refuseIf_eq_none]
  refine ⟨?_, ?_, ?_, ?_, ?_, ?_⟩
  · have hmem : "" ∉ summary.key.instrumentKey.toList := by simpa using hkey'
    simp [hmem, hsymbols, hegress, hs.events, hworker'.symm, hstream'.symm]
  · simp [hl.data, hl.manifest]
  · simp [hsha, hconfig']
  · simp
  · simp [hsize.symm, hcount.symm, hrequested, heffective]
    omega
  · simp
    omega

theorem validateSortedFacts_manifestFields (hs : a.Summarised summary) :
    (a.manifestFields summary size sha reason closedAtNs).validateSortedFacts = none := by
  simp only [ManifestFields.validateSortedFacts, manifestFields, orElse_eq_none, refuseIf_eq_none,
    Bool.not_eq_false']
  refine ⟨?_, ?_, ?_, ?_, ?_, by decide, hs.eventsSorted⟩
  · rw [hs.wireSymbols]
    exact isSortedUnique_sort _
  · rw [hs.connectionGenerations]
    exact isSortedUnique_sort _
  · rw [hs.egressIds]
    exact isSortedUnique_sort _
  · rw [hs.requestedIntervals]
    exact isSortedUnique_sort _
  · rw [hs.effectiveIntervals]
    exact isSortedUnique_sort _

/-- The wire symbols of a part exist exactly when its key names an instrument. -/
theorem wireSymbols_iff (hk : a.Kept) (hs : a.Summarised summary) :
    summary.wireSymbols = [] ↔ summary.key.instrumentKey = none := by
  have hrow : ∀ r ∈ a.rows,
      (r.envelope.wireSymbol = none ↔ summary.key.instrumentKey = none) := by
    intro r hr
    have hkey : summary.key = r.envelope.key := hs.key.trans (hk.owned r hr).key.symm
    have hpaired := (envelope_scope r.envelope).1
    rw [hkey, ← Option.isNone_iff_eq_none, ← Option.isNone_iff_eq_none, ← hpaired]
    rfl
  obtain ⟨first, hfirst⟩ := List.exists_mem_of_ne_nil _ hs.nonempty
  rw [hs.wireSymbols, sortedValues_eq_nil]
  constructor
  · intro h
    exact (hrow first hfirst).1 (h first.envelope (List.mem_map_of_mem hfirst))
  · intro h e he
    obtain ⟨r, hr, rfl⟩ := List.mem_map.1 he
    exact (hrow r hr).2 h

theorem intervals_iff (hs : a.Summarised summary) :
    summary.requestedIntervalsNs = [] ↔ summary.effectiveIntervalsNs = [] := by
  have hpaired : ∀ e : RawEnvelope,
      e.requestedIntervalNs = none ↔ e.effectiveIntervalNs = none := by
    intro e
    rw [← Option.isNone_iff_eq_none, ← Option.isNone_iff_eq_none, e.intervals_paired]
  rw [hs.requestedIntervals, hs.effectiveIntervals, sortedValues_eq_nil, sortedValues_eq_nil]
  exact forall₂_congr fun e _ => hpaired e

theorem sequences_le (hk : a.Kept) (hs : a.Summarised summary) :
    summary.writerSequenceFirst ≤ summary.writerSequenceLast := by
  have hfirst := hs.sequenceFirst
  have hlast := hs.sequenceLast
  obtain ⟨r, rows, hrows⟩ := List.exists_cons_of_ne_nil hs.nonempty
  have hincreasing := hk.increasing
  rw [hrows] at hfirst hlast hincreasing
  have hf : summary.writerSequenceFirst = r.envelope.writerSequence := by simpa using hfirst
  rcases List.eq_nil_or_concat rows with rfl | ⟨init, last, rfl⟩
  · have hl : summary.writerSequenceLast = r.envelope.writerSequence := by simpa using hlast
    omega
  · have hlt := (List.pairwise_cons.1 hincreasing).1 last (by simp)
    rw [List.concat_eq_append, ← List.cons_append, List.getLast?_concat] at hlast
    have hl : summary.writerSequenceLast = last.envelope.writerSequence := by simpa using hlast
    omega

theorem validateRowFacts_manifestFields (hk : a.Kept) (hs : a.Summarised summary) :
    (a.manifestFields summary size sha reason closedAtNs).validateRowFacts = none := by
  have hevents : summary.firstEventTimeNs.isNone = summary.lastEventTimeNs.isNone := by
    rw [hs.firstEventTime, hs.lastEventTime]
    cases (a.rows.map (·.envelope)).filterMap (·.eventTimeNs) with
    | nil => rfl
    | cons t ts => simp [List.getLast?_cons]
  have hsymbols := wireSymbols_iff hk hs
  have hintervals := intervals_iff hs
  simp only [ManifestFields.validateRowFacts, manifestFields, orElse_eq_none, refuseIf_eq_none]
  refine ⟨by simpa using hevents, decide_eq_false (Nat.not_lt.2 (sequences_le hk hs)), ?_,
    ?_, ?_⟩
  · cases hkey : summary.key.instrumentKey with
    | none => simp [hsymbols.2 hkey]
    | some k => simp
  · cases hkey : summary.key.instrumentKey with
    | none => simp
    | some k =>
      have : summary.wireSymbols ≠ [] := fun h => by simp [hsymbols.1 h] at hkey
      simpa using this
  · have : summary.requestedIntervalsNs.isEmpty = summary.effectiveIntervalsNs.isEmpty := by
      rw [Bool.eq_iff_iff, List.isEmpty_iff, List.isEmpty_iff]
      exact hintervals
    simp [this]

theorem validateNormalManifest_manifestFields (hs : a.Summarised summary) :
    (a.manifestFields summary size sha reason closedAtNs).validateNormalManifest = none := by
  have hsamples : summary.durabilitySampleCount = summary.recordCount := by
    rw [hs.sampleCount, hs.recordCount, hs.samples]
  simp [ManifestFields.validateNormalManifest, manifestFields,
    ManifestFields.hasControlSummaries, ManifestFields.hasDurability, ManifestFields.hasNoLineage,
    hsamples, hs.median_le, hs.tail_le]

end Fields

end ActivePart

/-! ## The layout -/

/-- The keys whose manifests `_validate_layout` accepts: control records name neither a market nor
an instrument, and the market-scoped streams name no instrument. -/
def LogicalKey.InScope (k : LogicalKey) : Prop :=
  (k.logicalStream = "_control" → k.market = none ∧ k.instrumentKey = none) ∧
    (k.logicalStream ∈ marketScopedStreams → k.instrumentKey = none)

instance (k : LogicalKey) : Decidable k.InScope :=
  inferInstanceAs (Decidable (_ ∧ _))

/-- The manifest names the key of an envelope. -/
structure Scoped (m : ManifestFields) (e : EnvelopeFields) : Prop where
  exchange : m.exchange = e.exchange
  market : m.market = e.market
  instrumentKey : m.instrumentKey = e.instrumentKey
  logicalStream : m.logicalStream = e.logicalStream

section Layout

variable {m : ManifestFields} {e : RawEnvelope} {scope hour : List String}

/-- For the keys in scope, the manifest expects the directories of the path. -/
theorem expectedScope_of_inScope (hm : Scoped m e.toEnvelopeFields)
    (hscope : scopeSegments e.toEnvelopeFields = .ok scope) (hin : e.key.InScope) :
    m.expectedScope = .ok scope := by
  obtain ⟨hcontrol, hmarket⟩ := hin
  unfold ManifestFields.expectedScope
  rw [hm.exchange, hm.market, hm.instrumentKey, hm.logicalStream]
  unfold scopeSegments at hscope
  by_cases hstream : e.logicalStream = "_control"
  · obtain ⟨hm0, hk0⟩ := hcontrol hstream
    have hm0' : e.market = none := hm0
    have hk0' : e.instrumentKey = none := hk0
    rw [if_pos hstream] at hscope ⊢
    rw [← hscope, hm0', hk0']
    rfl
  · rw [if_neg hstream] at hscope ⊢
    cases hmk : e.market with
    | none => simp [hmk] at hscope
    | some market =>
      simp only [hmk, bind_eq_ok] at hscope ⊢
      obtain ⟨stream, hsegment, hscope⟩ := hscope
      obtain rfl : stream = e.logicalStream :=
        (isSegment_pathSegment (ActivePart.envelope_fields e).2.2.1 hsegment).1
      by_cases hms : e.logicalStream ∈ marketScopedStreams
      · have hk0 : e.instrumentKey = none := hmarket hms
        rw [if_pos (by simpa using hms), hk0]
        simpa [hk0, pure, Except.pure] using hscope
      · obtain ⟨key, hkey⟩ := Option.isSome_iff_exists.1
          ((ActivePart.envelope_scope e).2 hstream hms)
        rw [if_neg (by simpa using hms), hkey]
        simpa [hkey] using hscope

/-- For the other keys, the manifest is refused. -/
theorem expectedScope_of_not_inScope (hm : Scoped m e.toEnvelopeFields) (hin : ¬e.key.InScope) :
    ∃ message, m.expectedScope = .error (.valueError message) := by
  unfold ManifestFields.expectedScope
  rw [hm.market, hm.instrumentKey, hm.logicalStream]
  by_cases hstream : e.logicalStream = "_control"
  · have hnamed : e.market.isSome || e.instrumentKey.isSome := by
      by_contra hnone
      refine hin ⟨fun _ => ?_, fun hms => ?_⟩
      · simpa [EnvelopeFields.key] using hnone
      · exact absurd (hstream ▸ hms : "_control" ∈ marketScopedStreams) (by decide)
    rw [if_pos hstream, if_pos hnamed]
    exact ⟨_, rfl⟩
  · rw [if_neg hstream]
    cases hmk : e.market with
    | none => exact ⟨_, rfl⟩
    | some market =>
      have hnamed : e.logicalStream ∈ marketScopedStreams ∧ e.instrumentKey.isSome := by
        by_contra hnone
        refine hin ⟨fun h => absurd h hstream, fun hms => ?_⟩
        by_contra hkey
        exact hnone ⟨hms, Option.isSome_iff_ne_none.2 hkey⟩
      dsimp only
      rw [if_pos (by simpa using hnamed.1), if_pos hnamed.2]
      exact ⟨_, rfl⟩

theorem isSegment_of_scopeSegments (hscope : scopeSegments e.toEnvelopeFields = .ok scope)
    {s : String} (hs : s ∈ scope) : IsSegment s := by
  have hfixed : ∀ t ∈ ["raw", "_control", "_market"], IsSegment t := by
    intro t ht
    simp only [List.mem_cons, List.not_mem_nil, or_false] at ht
    rcases ht with rfl | rfl | rfl <;> exact ⟨by decide, chars_of_all (by decide)⟩
  unfold scopeSegments at hscope
  split_ifs at hscope with hstream
  · obtain rfl := Except.ok.inj hscope
    simp only [List.mem_cons, List.not_mem_nil, or_false] at hs
    rcases hs with rfl | rfl | rfl
    · exact hfixed _ (by simp)
    · exact isSegment_exchange _
    · exact hfixed _ (by simp)
  · split at hscope
    · simp at hscope
    · simp only [bind_eq_ok] at hscope
      obtain ⟨stream, hsegment, hscope⟩ := hscope
      have hstream' := (isSegment_pathSegment (ActivePart.envelope_fields e).2.2.1 hsegment).2
      split at hscope
      · obtain rfl := Except.ok.inj hscope
        simp only [List.mem_cons, List.not_mem_nil, or_false] at hs
        rcases hs with rfl | rfl | rfl | rfl | rfl
        · exact hfixed _ (by simp)
        · exact isSegment_exchange _
        · exact isSegment_market _
        · exact hfixed _ (by simp)
        · exact hstream'
      · simp only [bind_eq_ok] at hscope
        obtain ⟨encoded, hencoded, hscope⟩ := hscope
        obtain rfl := Except.ok.inj hscope
        simp only [List.mem_cons, List.not_mem_nil, or_false] at hs
        rcases hs with rfl | rfl | rfl | rfl | rfl
        · exact hfixed _ (by simp)
        · exact isSegment_exchange _
        · exact isSegment_market _
        · exact isSegment_encodeInstrumentKey hencoded
        · exact hstream'

/-- The paths of a part. -/
structure Placed (e : RawEnvelope) (start sequence : Nat) (scope hour : List String)
    (data manifest : String) : Prop where
  inScope : scopeSegments e.toEnvelopeFields = .ok scope
  inHour : utcStorageHour e.receivedAtNs = .ok hour
  joined : data = joinPath (scope ++ hour ++ [partName start sequence])
  sibling : manifestPathForData data = .ok manifest

namespace Placed

variable {start sequence : Nat} {data manifest : String}

theorem isSegment (h : Placed e start sequence scope hour data manifest) {s : String}
    (hs : s ∈ scope ++ hour) : IsSegment s := by
  rcases List.mem_append.1 hs with hs | hs
  · exact isSegment_of_scopeSegments h.inScope hs
  · exact isSegment_of_utcStorageHour h.inHour hs

theorem isSegment_file (h : Placed e start sequence scope hour data manifest) {name s : String}
    (hname : IsSegment name) (hs : s ∈ scope ++ hour ++ [name]) : IsSegment s := by
  rcases List.mem_append.1 hs with hs | hs
  · exact h.isSegment hs
  · obtain rfl : s = name := by simpa using hs
    exact hname

theorem segments_data (h : Placed e start sequence scope hour data manifest) :
    segments data = scope ++ hour ++ [partName start sequence] := by
  rw [h.joined]
  exact segments_joinPath (by simp) fun s hs => h.isSegment_file (isSegment_partName _ _) hs

theorem manifest_eq (h : Placed e start sequence scope hour data manifest) :
    manifest = joinPath (scope ++ hour ++ [partStem start sequence ++ ".manifest.json"]) := by
  have hsibling := siblingPath_joinPath (fun d hd => h.isSegment hd) start sequence ".manifest.json"
  rw [← h.joined] at hsibling
  exact Except.ok.inj (h.sibling.symm.trans hsibling)

theorem normalized (h : Placed e start sequence scope hour data manifest) :
    isNormalizedRelativePath data = true ∧ isNormalizedRelativePath manifest = true := by
  constructor
  · rw [h.joined]
    exact isNormalizedRelativePath_joinPath (by simp) fun s hs =>
      h.isSegment_file (isSegment_partName _ _) hs
  · rw [h.manifest_eq]
    exact isNormalizedRelativePath_joinPath (by simp) fun s hs =>
      h.isSegment_file (isSegment_partStem_append _ _ (chars_of_all (by decide))) hs

/-- The layout of a manifest is accepted exactly for the keys in scope, and when the first and the
last row are of the hour of the path. -/
theorem validateLayout_iff (h : Placed e start sequence scope hour m.dataRelativePath
    m.manifestRelativePath) (hm : Scoped m e.toEnvelopeFields) :
    m.validateLayout = .ok () ↔ e.key.InScope ∧
      utcStorageHour m.firstReceivedAtNs = .ok hour ∧
      utcStorageHour m.lastReceivedAtNs = .ok hour := by
  by_cases hin : e.key.InScope
  · have hscope := expectedScope_of_inScope hm h.inScope hin
    have hdirs : (segments m.dataRelativePath).dropLast = scope ++ hour := by
      rw [h.segments_data]
      simp
    have hname : parsePartName ((segments m.dataRelativePath).getLastD "") =
        some (start, sequence) := by
      rw [h.segments_data, List.getLastD_concat]
      exact parsePartName_partName start sequence
    unfold ManifestFields.validateLayout
    simp only [hscope, ok_bind, hdirs, hname, h.sibling]
    cases hfirst : utcStorageHour m.firstReceivedAtNs with
    | error err => simp
    | ok firstHour =>
      cases hlast : utcStorageHour m.lastReceivedAtNs with
      | error err => simp
      | ok lastHour =>
        by_cases hsame : firstHour = lastHour
        · subst hsame
          by_cases hhour : firstHour = hour
          · subst hhour
            simp [hin, pure, Except.pure]
          · simp [hhour, Ne.symm hhour, throw, throwThe, MonadExceptOf.throw]
        · simp only [ok_bind, ne_eq, hsame, not_false_eq_true, if_true, throw, throwThe,
            MonadExceptOf.throw, Except.ok.injEq]
          constructor
          · intro habsurd
            cases habsurd
          · rintro ⟨-, rfl, rfl⟩
            exact absurd rfl hsame
  · obtain ⟨message, hscope⟩ := expectedScope_of_not_inScope hm hin
    unfold ManifestFields.validateLayout
    simp [hscope, hin]

end Placed

end Layout

end CryptoCollector.Storage
