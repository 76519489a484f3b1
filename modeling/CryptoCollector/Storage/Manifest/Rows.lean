import CryptoCollector.Storage.Manifest.Reader
import CryptoCollector.Storage.Manifest.Written

/-!
# The rows of a part as its reader sees them

The reader takes the lines of the decompressed file, decodes each of them and collects the facts
of the rows once more. Over the rows that a part owns it returns their envelopes in the order in
which they were appended (`foldlM_readRow`), and the facts it observes are those that the
accumulator of the part collected (`observed_first`, `observed_sets`).
-/

namespace CryptoCollector.Storage

open Lib
open ManifestFields (raise)

/-! ## Lines -/

theorem readLines_line {line rest : Bytes} (hline : 10 ∉ line) :
    readLines (line ++ 10 :: rest) = (line ++ [10]) :: readLines rest := by
  induction line with
  | nil => simp [readLines]
  | cons b line ih =>
    have hb : b ≠ 10 := fun h => hline (by simp [h])
    have htail : 10 ∉ line := fun h => hline (by simp [h])
    rw [List.cons_append, readLines, if_neg hb, ih htail]
    rfl

/-- A buffered row is one line. -/
theorem Row.isLine {r : Row} (h : r.validateBuffered = none) :
    ∃ line, 10 ∉ line ∧ r.encodedJsonl = line ++ [10] := by
  unfold Row.validateBuffered at h
  rw [orElse_eq_none, refuseIf_eq_none] at h
  obtain ⟨hlast, hinner⟩ : r.encodedJsonl.getLast? = some 10 ∧ 10 ∉ r.encodedJsonl.dropLast := by
    simpa using h.1
  refine ⟨r.encodedJsonl.dropLast, hinner, ?_⟩
  obtain ⟨init, hinit⟩ := List.getLast?_eq_some_iff.1 hlast
  rw [hinit]
  simp

/-- The lines of concatenated rows are the rows. -/
theorem readLines_flatMap {rows : List Row} (h : ∀ r ∈ rows, r.validateBuffered = none) :
    readLines (rows.flatMap (·.encodedJsonl)) = rows.map (·.encodedJsonl) := by
  induction rows with
  | nil => rfl
  | cons r rows ih =>
    obtain ⟨line, hline, hr⟩ := Row.isLine (h r (by simp))
    have hrest := ih fun s hs => h s (List.mem_cons_of_mem _ hs)
    rw [List.flatMap_cons, hr, List.append_assoc, List.singleton_append, readLines_line hline,
      hrest, List.map_cons, hr]

/-! ## Rows -/

section Rows

variable {codec : PartCodec} {m : ManifestFields}

/-- The manifest names the identity of a row. -/
def Names (m : ManifestFields) (e : RawEnvelope) : Prop :=
  (m.exchange, m.market, m.instrumentKey, m.logicalStream, m.workerInstanceId, m.configSha256) =
    (e.exchange, e.market, e.instrumentKey, e.logicalStream, e.workerInstanceId, e.configSha256)

theorem readRow_ok {before : List RawEnvelope} {r : Row} (hline : r.validateBuffered = none)
    (hdecode : codec.decodeObject r.encodedJsonl.dropLast = .ok r.envelope)
    (hnames : Names m r.envelope)
    (horder : ∀ last ∈ before.getLast?, last.writerSequence < r.envelope.writerSequence)
    (hcount : before.length < m.recordCount) :
    readRow codec m before r.encodedJsonl = .ok (before ++ [r.envelope]) := by
  have hend : r.encodedJsonl.getLast? = some 10 := by
    obtain ⟨line, -, hr⟩ := Row.isLine hline
    simp [hr]
  have hidentity : validateRowIdentity m before r.envelope = none := by
    unfold validateRowIdentity
    rw [orElse_eq_none, refuseIf_eq_none, refuseIf_eq_none]
    refine ⟨by simpa [Names] using hnames, ?_⟩
    cases hlast : before.getLast? with
    | none => rfl
    | some last =>
      have := horder last hlast
      simpa using this
  have hdec : decodeEnvelopeJsonl codec.decodeObject r.encodedJsonl = .ok r.envelope := by
    simp [decodeEnvelopeJsonl, hend, hdecode]
  have hroom : refuseIf (m.recordCount < (before ++ [r.envelope]).length)
      "raw source has more rows than its manifest" = none := by
    rw [refuseIf_eq_none, decide_eq_false_iff_not, List.length_append, List.length_singleton]
    omega
  simp only [readRow, hdec, hidentity, hroom, raise, ok_bind]
  rfl

/-- The rows of a part are read back one by one. -/
theorem foldlM_readRow {before : List RawEnvelope} {rows : List Row}
    (hline : ∀ r ∈ rows, r.validateBuffered = none)
    (hdecode : ∀ r ∈ rows, codec.decodeObject r.encodedJsonl.dropLast = .ok r.envelope)
    (hnames : ∀ r ∈ rows, Names m r.envelope)
    (horder : (before ++ rows.map (·.envelope)).Pairwise fun e f =>
      e.writerSequence < f.writerSequence)
    (hcount : before.length + rows.length ≤ m.recordCount) :
    (rows.map (·.encodedJsonl)).foldlM (readRow codec m) before =
      .ok (before ++ rows.map (·.envelope)) := by
  induction rows generalizing before with
  | nil => simp [pure, Except.pure]
  | cons r rows ih =>
    have hlast : ∀ last ∈ before.getLast?, last.writerSequence < r.envelope.writerSequence := by
      intro last hmem
      rw [List.pairwise_append] at horder
      exact horder.2.2 last (List.mem_of_getLast? hmem) r.envelope (by simp)
    have hroom : before.length < m.recordCount := by
      simp only [List.length_cons] at hcount
      omega
    have hread := readRow_ok (hline r (by simp)) (hdecode r (by simp)) (hnames r (by simp)) hlast
      hroom
    rw [List.map_cons, List.foldlM_cons, hread, ok_bind, ih]
    · simp
    · exact fun s hs => hline s (List.mem_cons_of_mem _ hs)
    · exact fun s hs => hdecode s (List.mem_cons_of_mem _ hs)
    · exact fun s hs => hnames s (List.mem_cons_of_mem _ hs)
    · simpa using horder
    · simp only [List.length_append, List.length_cons, List.length_nil] at hcount ⊢
      omega

end Rows

/-! ## Facts -/

/-- A field of the facts that collects the values of a field of the envelopes. -/
theorem foldl_facts_set {α : Type} [DecidableEq α] (get : PartFacts → Finset α)
    (field : RawEnvelope → Option α)
    (hget : ∀ f e, get (f.appendValidated e) = collect (field e) (get f)) (es : List RawEnvelope)
    (f : PartFacts) :
    get (es.foldl PartFacts.appendValidated f) = (es.filterMap field).toFinset ∪ get f := by
  have hfold : get (es.foldl PartFacts.appendValidated f) =
      es.foldl (fun s e => collect (field e) s) (get f) := by
    induction es generalizing f with
    | nil => rfl
    | cons e es ih => rw [List.foldl_cons, List.foldl_cons, ih, hget]
  rw [hfold, foldl_collect]

theorem foldl_facts_firstEventTime (es : List RawEnvelope) (f : PartFacts) :
    (es.foldl PartFacts.appendValidated f).firstEventTimeNs =
      (f.firstEventTimeNs <|> (es.filterMap (·.eventTimeNs)).head?) := by
  induction es generalizing f with
  | nil => simp
  | cons e es ih =>
    rw [List.foldl_cons, ih]
    cases hf : f.firstEventTimeNs <;> cases he : e.eventTimeNs <;>
      simp [PartFacts.appendValidated, hf, he]

theorem foldl_facts_lastEventTime (es : List RawEnvelope) (f : PartFacts) :
    (es.foldl PartFacts.appendValidated f).lastEventTimeNs =
      ((es.filterMap (·.eventTimeNs)).getLast? <|> f.lastEventTimeNs) := by
  induction es using List.reverseRecOn with
  | nil => simp
  | append_singleton es e ih =>
    rw [List.foldl_append, List.foldl_cons, List.foldl_nil]
    change (e.eventTimeNs <|> (es.foldl PartFacts.appendValidated f).lastEventTimeNs) = _
    rw [ih]
    cases he : e.eventTimeNs <;> simp [he]

/-- The facts that a part collected are those that its reader observes. -/
structure FactsOf (f : PartFacts) (es : List RawEnvelope) : Prop where
  wireSymbols : f.wireSymbols.sort (· ≤ ·) = sortedValues (·.wireSymbol) es
  connectionGenerations :
    f.connectionGenerations.sort (· ≤ ·) = sortedValues (·.connectionGeneration) es
  egressIds : f.egressIds.sort (· ≤ ·) = sortedValues (·.egressId) es
  requestedIntervalsNs :
    f.requestedIntervalsNs.sort (· ≤ ·) = sortedValues (·.requestedIntervalNs) es
  effectiveIntervalsNs :
    f.effectiveIntervalsNs.sort (· ≤ ·) = sortedValues (·.effectiveIntervalNs) es
  firstEventTimeNs : f.firstEventTimeNs = (es.filterMap (·.eventTimeNs)).head?
  lastEventTimeNs : f.lastEventTimeNs = (es.filterMap (·.eventTimeNs)).getLast?

theorem factsOf_foldl (es : List RawEnvelope) :
    FactsOf (es.foldl PartFacts.appendValidated {}) es where
  wireSymbols := by
    rw [foldl_facts_set PartFacts.wireSymbols (·.wireSymbol) (fun _ _ => rfl) es {}]
    simp [sortedValues]
  connectionGenerations := by
    rw [foldl_facts_set PartFacts.connectionGenerations (·.connectionGeneration)
      (fun _ _ => rfl) es {}]
    simp [sortedValues]
  egressIds := by
    rw [foldl_facts_set PartFacts.egressIds (·.egressId) (fun _ _ => rfl) es {}]
    simp [sortedValues]
  requestedIntervalsNs := by
    rw [foldl_facts_set PartFacts.requestedIntervalsNs (·.requestedIntervalNs)
      (fun _ _ => rfl) es {}]
    simp [sortedValues]
  effectiveIntervalsNs := by
    rw [foldl_facts_set PartFacts.effectiveIntervalsNs (·.effectiveIntervalNs)
      (fun _ _ => rfl) es {}]
    simp [sortedValues]
  firstEventTimeNs := by
    rw [foldl_facts_firstEventTime]
    rfl
  lastEventTimeNs := by
    rw [foldl_facts_lastEventTime]
    simp

end CryptoCollector.Storage
