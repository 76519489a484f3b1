import CryptoCollector.Storage.Lags
import CryptoCollector.Storage.Manifest.Part

/-!
# What a part keeps of its rows

`ActivePart.Kept` ties the accumulator, the facts and the frames of a part to the rows that were
appended to it. Every operation keeps it (`Kept.step`), so it holds after every run
(`Kept.run`).
-/

namespace CryptoCollector.Storage

open Lib

namespace ActivePart

/-- A row that passed the checks of the part. -/
structure Owns (a : ActivePart) (r : Row) : Prop where
  exchange : r.envelope.exchange = a.exchange
  worker : r.envelope.workerInstanceId = a.workerInstanceId
  key : r.envelope.key = a.part.key
  config : r.envelope.configSha256 = a.part.configSha256
  buffered : r.validateBuffered = none

/-- What no operation changes. -/
def fixed (a : ActivePart) :=
  (a.exchange, a.workerInstanceId, a.dataRelativePath, a.manifestRelativePath, a.zstdLevel,
    a.maxPlainFrameBytes, a.durabilitySloNs, a.part.path, a.part.configSha256)

theorem Owns.of_fixed {a b : ActivePart} {r : Row} (h : a.Owns r) (hfixed : b.fixed = a.fixed) :
    b.Owns r := by
  simp only [fixed, Prod.mk.injEq] at hfixed
  obtain ⟨hexchange, hworker, -, -, -, -, -, hpath, hconfig⟩ := hfixed
  have hkey : b.part.key = a.part.key := congrArg PartPath.key hpath
  exact ⟨h.exchange.trans hexchange.symm, h.worker.trans hworker.symm, h.key.trans hkey.symm,
    h.config.trans hconfig.symm, h.buffered⟩

/-- The accumulator, the facts and the frames belong to the rows appended. -/
structure Kept (a : ActivePart) : Prop where
  pending : a.part.pending = a.pending.map Row.toRecord
  claimed : ∀ c, a.part.claimed = some c → c.rows = a.claimed.map Row.toRecord
  unclaimed : a.part.claimed = none → a.claimed = []
  /-- Without a failure, the rows are those written, those in flight and those pending. -/
  rows : a.part.accumulator.writeFailureCount = 0 → a.part.accumulator.syncFailureCount = 0 →
    a.rows = a.written.flatten ++ a.claimed ++ a.pending
  frames : [] ∉ a.written
  owned : ∀ r ∈ a.rows, a.Owns r
  increasing : a.rows.Pairwise fun r s => r.envelope.writerSequence < s.envelope.writerSequence
  recordCount : a.part.accumulator.recordCount = a.rows.length
  firstReceived : a.part.accumulator.firstReceivedAtNs =
    a.rows.head?.map (·.envelope.receivedAtNs)
  lastReceived : a.part.accumulator.lastReceivedAtNs =
    a.rows.getLast?.map (·.envelope.receivedAtNs)
  sequenceFirst : a.part.accumulator.writerSequenceFirst =
    a.rows.head?.map (·.envelope.writerSequence)
  sequenceLast : a.part.accumulator.writerSequenceLast =
    a.rows.getLast?.map (·.envelope.writerSequence)
  facts : a.facts = (a.rows.map (·.envelope)).foldl PartFacts.appendValidated {}
  histogram : a.part.accumulator.histogram.Describes a.lags
  breaches : a.part.accumulator.sloBreachCount = a.lags.countP (a.durabilitySloNs < ·)
  events : "" ∉ a.part.accumulator.controlEventIds
  normal : a.part.closeReason ≠ some .recovery
  closed : a.part.closeReason.isSome = a.part.closedAtNs.isSome

/-- What an allocation checks and what it makes. -/
theorem allocate_ok {first : Row} {start sequence created level limit slo : Nat} {a : ActivePart}
    (h : allocate first start sequence created level limit slo = .ok a) :
    rawDataPath first.envelope.toEnvelopeFields start sequence = .ok a.dataRelativePath ∧
      manifestPathForData a.dataRelativePath = .ok a.manifestRelativePath ∧
      1 ≤ level ∧ level ≤ 22 ∧ 1 ≤ limit ∧
      a = { part := {
              path := ⟨first.envelope.key, start, sequence⟩
              createdAtNs := created
              receivedHour := first.envelope.receivedAtNs / hourNs
              configSha256 := first.envelope.configSha256
              configGeneration := first.identity.configGeneration }
            exchange := first.envelope.exchange
            workerInstanceId := first.envelope.workerInstanceId
            dataRelativePath := a.dataRelativePath
            manifestRelativePath := a.manifestRelativePath
            zstdLevel := level
            maxPlainFrameBytes := limit
            durabilitySloNs := slo } := by
  unfold allocate at h
  simp only [bind_eq_ok, ManifestFields.raise_eq_ok, refuseIf_eq_none] at h
  obtain ⟨path, hpath, _, hlevel, _, hlimit, _, -, _, -, manifestPath, hmanifest, ha⟩ := h
  obtain rfl : _ = a := by simpa [pure, Except.pure] using ha
  simp only [Bool.or_eq_false_iff, decide_eq_false_iff_not] at hlevel hlimit
  exact ⟨hpath, hmanifest, by omega, by omega, by omega, rfl⟩

theorem kept_allocate {first : Row} {start sequence created level limit slo : Nat} {a : ActivePart}
    (h : allocate first start sequence created level limit slo = .ok a) : a.Kept := by
  rw [(allocate_ok h).2.2.2.2.2]
  exact {
    pending := rfl
    claimed := by simp
    unclaimed := fun _ => rfl
    rows := fun _ _ => rfl
    frames := by simp
    owned := by simp
    increasing := by simp
    recordCount := rfl
    firstReceived := rfl
    lastReceived := rfl
    sequenceFirst := rfl
    sequenceLast := rfl
    facts := rfl
    histogram := Histogram.describes_nil
    breaches := rfl
    events := by simp
    normal := by simp
    closed := rfl }

/-! ## Rows enter the part -/

/-- The checks that a row passed before it is appended. -/
theorem validated {a : ActivePart} {r : Row}
    (h : (a.validateRecord r <|> r.validateBuffered) = none) :
    a.Owns r ∧ r.toRecord.identity.writerSequence = r.envelope.writerSequence ∧
      ∀ last ∈ a.part.accumulator.writerSequenceLast, last < r.envelope.writerSequence := by
  rw [orElse_eq_none] at h
  obtain ⟨hrecord, hbuffered⟩ := h
  unfold validateRecord at hrecord
  split_ifs at hrecord with hfrozen hpair hseed
  have hpair' : r.isPair = true := by simpa using hpair
  simp only [Row.isPair, decide_eq_true_eq, Prod.mk.injEq] at hpair'
  obtain ⟨-, hkey, -, hsequence, hconfig⟩ := hpair'
  obtain ⟨hexchange, hworker⟩ := not_or.1 hseed
  unfold Part.validateRecord at hrecord
  split_ifs at hrecord with hforeign horder
  have hpart : a.part.key = r.identity.key ∧ a.part.configSha256 = r.identity.configSha256 := by
    constructor
    · by_contra hne
      exact hforeign (.inl hne)
    · by_contra hne
      exact hforeign (.inr (.inl hne))
  refine ⟨⟨?_, ?_, ?_, ?_, hbuffered⟩, hsequence, ?_⟩
  · simpa [eq_comm] using hexchange
  · simpa [eq_comm] using hworker
  · rw [← hkey, hpart.1]
  · rw [← hconfig, hpart.2]
  · intro last hlast
    have hlt : ¬r.toRecord.identity.writerSequence ≤ last := by
      intro hle
      rw [Option.mem_def] at hlast
      rw [hlast] at horder
      exact horder (by simpa using hle)
    rw [← hsequence]
    exact Nat.lt_of_not_le hlt

theorem getLast?_writerSequence_lt {rows : List Row} {n : Nat}
    (hrows : rows.Pairwise fun r s => r.envelope.writerSequence < s.envelope.writerSequence)
    (hlast : ∀ last ∈ rows.getLast?.map (·.envelope.writerSequence), last < n) :
    ∀ r ∈ rows, r.envelope.writerSequence < n := by
  intro r hr
  rcases List.eq_nil_or_concat rows with rfl | ⟨init, last, rfl⟩
  · simp at hr
  · have hn : last.envelope.writerSequence < n := hlast _ (by simp)
    rw [List.concat_eq_append, List.mem_append, List.mem_singleton] at hr
    rw [List.concat_eq_append, List.pairwise_append] at hrows
    rcases hr with hr | rfl
    · exact Nat.lt_trans (hrows.2.2 r hr last (by simp)) hn
    · exact hn

/-- A validated row enters the accumulator and the facts. -/
theorem Kept.record {a : ActivePart} (h : a.Kept) {r : Row}
    (hr : (a.validateRecord r <|> r.validateBuffered) = none) {part : Part}
    {pending claimed : List Row}
    (hpart : part = { a.part.record r.toRecord with
      pending := part.pending, claimed := part.claimed, nextClaimId := part.nextClaimId })
    (hpending : part.pending = pending.map Row.toRecord)
    (hclaimed : ∀ c, part.claimed = some c → c.rows = claimed.map Row.toRecord)
    (hunclaimed : part.claimed = none → claimed = [])
    (hrows : a.claimed ++ a.pending ++ [r] = claimed ++ pending) :
    Kept { a.record r part with pending, claimed } := by
  obtain ⟨howns, hsequence, hlast⟩ := validated hr
  have hacc : part.accumulator = a.part.accumulator.appendValidated r.toRecord := by
    rw [hpart]
    rfl
  have hfixed : fixed { a.record r part with pending, claimed } = a.fixed := by
    unfold fixed
    rw [hpart]
    rfl
  have hreason : part.closeReason = a.part.closeReason ∧ part.closedAtNs = a.part.closedAtNs := by
    rw [hpart]
    exact ⟨rfl, rfl⟩
  have hempty : a.part.accumulator.recordCount = 0 ↔ a.rows = [] := by
    rw [h.recordCount, List.length_eq_zero_iff]
  refine
    { pending := hpending
      claimed := hclaimed
      unclaimed := hunclaimed
      rows := ?_
      frames := h.frames
      owned := ?_
      increasing := ?_
      recordCount := ?_
      firstReceived := ?_
      lastReceived := ?_
      sequenceFirst := ?_
      sequenceLast := ?_
      facts := ?_
      histogram := ?_
      breaches := ?_
      events := ?_
      normal := ?_
      closed := ?_ }
  · intro hw hs
    change part.accumulator.writeFailureCount = 0 at hw
    change part.accumulator.syncFailureCount = 0 at hs
    rw [hacc] at hw hs
    change a.rows ++ [r] = a.written.flatten ++ claimed ++ pending
    rw [h.rows hw hs, List.append_assoc a.written.flatten claimed, ← hrows]
    simp
  · intro s hs
    have hs' : s ∈ a.rows ++ [r] := hs
    have hown : a.Owns s := by
      rcases List.mem_append.1 hs' with hs' | hs'
      · exact h.owned s hs'
      · obtain rfl : s = r := by simpa using hs'
        exact howns
    exact hown.of_fixed hfixed
  · change (a.rows ++ [r]).Pairwise _
    rw [List.pairwise_append]
    refine ⟨h.increasing, by simp, ?_⟩
    intro s hs t ht
    obtain rfl : t = r := by simpa using ht
    refine getLast?_writerSequence_lt h.increasing ?_ s hs
    rw [← h.sequenceLast]
    exact hlast
  · change part.accumulator.recordCount = (a.rows ++ [r]).length
    rw [hacc]
    simp [PartAccumulator.appendValidated, h.recordCount]
  · change part.accumulator.firstReceivedAtNs = (a.rows ++ [r]).head?.map _
    rw [hacc, PartAccumulator.appendValidated]
    by_cases hnil : a.rows = []
    · simp [hempty.2 hnil, hnil, Row.toRecord]
    · have hne : a.part.accumulator.recordCount ≠ 0 := fun h0 => hnil (hempty.1 h0)
      simp only [hne, if_false, h.firstReceived]
      rw [List.head?_append_of_ne_nil _ hnil]
  · change part.accumulator.lastReceivedAtNs = (a.rows ++ [r]).getLast?.map _
    rw [hacc]
    simp [PartAccumulator.appendValidated, Row.toRecord]
  · change part.accumulator.writerSequenceFirst = (a.rows ++ [r]).head?.map _
    rw [hacc, PartAccumulator.appendValidated]
    by_cases hnil : a.rows = []
    · simp [hempty.2 hnil, hnil, hsequence]
    · have hne : a.part.accumulator.recordCount ≠ 0 := fun h0 => hnil (hempty.1 h0)
      simp only [hne, if_false, h.sequenceFirst]
      rw [List.head?_append_of_ne_nil _ hnil]
  · change part.accumulator.writerSequenceLast = (a.rows ++ [r]).getLast?.map _
    rw [hacc]
    simp [PartAccumulator.appendValidated, hsequence]
  · change a.facts.appendValidated r.envelope = ((a.rows ++ [r]).map _).foldl _ {}
    rw [List.map_append, List.foldl_append, ← h.facts]
    rfl
  · change part.accumulator.histogram.Describes a.lags
    rw [hacc]
    exact h.histogram
  · change part.accumulator.sloBreachCount = _
    rw [hacc]
    exact h.breaches
  · change "" ∉ part.accumulator.controlEventIds
    rw [hacc]
    exact h.events
  · change part.closeReason ≠ _
    rw [hreason.1]
    exact h.normal
  · change part.closeReason.isSome = part.closedAtNs.isSome
    rw [hreason.1, hreason.2]
    exact h.closed

theorem part_appendAccepted_ok {p q : Part} {limit : Nat} {r : Record}
    (h : p.appendAccepted limit r = (none, q)) :
    q = { p.record r with pending := p.pending ++ [r] } := by
  unfold Part.appendAccepted at h
  split at h
  · simp at h
  · split at h
    · simp at h
    · split at h
      · simp at h
      · exact (Prod.ext_iff.1 h).2.symm

theorem part_sealOversized_ok {p q : Part} {limit : Nat} {r : Record}
    (h : p.sealOversized limit r = (none, q)) :
    q = { p.record r with
      claimed := some ⟨p.nextClaimId, [r]⟩, nextClaimId := p.nextClaimId + 1 } := by
  unfold Part.sealOversized at h
  split at h
  · simp at h
  · split at h
    · simp at h
    · split at h
      · simp at h
      · split at h
        · simp at h
        · exact (Prod.ext_iff.1 h).2.symm

theorem Kept.appendAccepted {a : ActivePart} (h : a.Kept) (r : Row) :
    (a.appendAccepted r).2.Kept := by
  unfold ActivePart.appendAccepted
  split_ifs with hretired
  · exact h
  · split
    · exact h
    · next hvalid =>
      split
      · exact h
      · next part hpart =>
        obtain rfl := part_appendAccepted_ok hpart
        refine h.record hvalid rfl ?_ h.claimed h.unclaimed ?_
        · simp [h.pending]
        · change a.claimed ++ a.pending ++ [r] = a.claimed ++ (a.pending ++ [r])
          simp

theorem Kept.sealOversized {a : ActivePart} (h : a.Kept) (r : Row) :
    (a.sealOversized r).2.Kept := by
  unfold ActivePart.sealOversized
  split_ifs with hretired hbusy hsmall
  · exact h
  · exact h
  · exact h
  · obtain ⟨hpending, hclaimed⟩ : a.part.pending = [] ∧ a.part.claimed = none := by
      simpa using hbusy
    have hnone : a.pending = [] := by
      simpa [h.pending] using hpending
    split
    · exact h
    · next hvalid =>
      split
      · exact h
      · next part hpart =>
        obtain rfl := part_sealOversized_ok hpart
        refine h.record hvalid rfl ?_ ?_ ?_ ?_
        · change a.part.pending = a.pending.map Row.toRecord
          exact h.pending
        · intro c hc
          obtain rfl := Option.some.inj hc
          rfl
        · intro hc
          simp at hc
        · change a.claimed ++ a.pending ++ [r] = [r] ++ a.pending
          simp [h.unclaimed hclaimed, hnone]

theorem Kept.sealForSync {a : ActivePart} (h : a.Kept) (forceSync : Bool) :
    (a.sealForSync forceSync).2.Kept := by
  unfold ActivePart.sealForSync
  split_ifs with hclaimed hordered hnothing
  · exact h
  · exact h
  · exact h
  · have hnone : a.part.claimed = none := by simpa using hclaimed
    have hsome : ¬(a.part.pending.isEmpty ∧ !forceSync) := by
      simpa [h.pending] using hnothing
    have hseal : (a.part.sealForSync forceSync).2 = { a.part with
        pending := []
        claimed := some ⟨a.part.nextClaimId, a.part.pending⟩
        nextClaimId := a.part.nextClaimId + 1 } := by
      simp only [Part.sealForSync, hnone]
      rw [if_neg (by simp), if_neg hsome]
    dsimp only
    rw [hseal]
    exact { h with
      pending := rfl
      claimed := by
        intro c hc
        obtain rfl := Option.some.inj hc
        exact h.pending
      unclaimed := by
        intro hc
        simp at hc
      rows := by
        intro hw hs
        rw [h.rows hw hs, h.unclaimed hnone]
        simp
      owned := fun r hr => (h.owned r hr).of_fixed rfl }

/-! ## Claims settle -/

theorem accumulator_applyCompletion_ok {acc acc' : PartAccumulator} {slo : Nat}
    {result : FileDurabilityResult} {claims : List Record}
    (h : acc.applyCompletion slo result claims = (none, acc')) :
    ∃ t, result.syncCompletedMonotonicNs = some t ∧
      acc' = acc.credit slo t result.syncDurationNs claims := by
  unfold PartAccumulator.applyCompletion at h
  split at h
  · simp at h
  · split at h
    · simp at h
    · split at h
      · simp at h
      · next t ht =>
        split at h
        · simp at h
        · split at h
          · simp at h
          · split at h
            · simp at h
            · exact ⟨t, ht, (Prod.ext_iff.1 h).2.symm⟩

/-- What a completion that is applied has checked and changed. -/
theorem applyCompletion_ok {a : ActivePart} {result : FileDurabilityResult} {part : Part}
    (hpart : a.part.applyCompletion a.durabilitySloNs result = (none, part)) :
    ∃ c t, a.part.claimed = some c ∧ result.syncCompletedMonotonicNs = some t ∧
      part = { a.part with
        accumulator := a.part.accumulator.credit a.durabilitySloNs t result.syncDurationNs c.rows
        claimed := none
        claimBatch := none } := by
  unfold Part.applyCompletion at hpart
  cases hclaimed : a.part.claimed with
  | none => simp [hclaimed] at hpart
  | some c =>
    simp only [hclaimed] at hpart
    split at hpart
    · simp at hpart
    · split at hpart
      · simp at hpart
      · next acc hacc =>
        obtain ⟨t, ht, rfl⟩ := accumulator_applyCompletion_ok hacc
        exact ⟨c, t, rfl, ht, (Prod.ext_iff.1 hpart).2.symm⟩

theorem Kept.applyCompletion {a : ActivePart} (h : a.Kept) (result : FileDurabilityResult) :
    (a.applyCompletion result).2.Kept := by
  unfold ActivePart.applyCompletion
  split
  · exact h
  · next part hpart =>
    obtain ⟨c, t, hclaimed, ht, rfl⟩ := applyCompletion_ok hpart
    have hrows : c.rows = a.claimed.map Row.toRecord := h.claimed c hclaimed
    have hwritten : (if a.claimed.isEmpty then a.written else a.written ++ [a.claimed]).flatten =
        a.written.flatten ++ a.claimed := by
      split_ifs with hempty
      · rw [List.isEmpty_iff.1 hempty]
        simp
      · simp
    exact { h with
      pending := h.pending
      claimed := by
        intro c hc
        simp at hc
      unclaimed := fun _ => rfl
      rows := by
        intro hw hs
        change a.rows = (if a.claimed.isEmpty then a.written else a.written ++ [a.claimed]).flatten
          ++ [] ++ a.pending
        rw [h.rows hw hs, hwritten]
        simp
      frames := by
        change [] ∉ (if a.claimed.isEmpty then a.written else a.written ++ [a.claimed])
        split_ifs with hempty
        · exact h.frames
        · have hne : a.claimed ≠ [] := fun h0 => hempty (by simp [h0])
          simp [h.frames, hne.symm]
      owned := fun r hr => (h.owned r hr).of_fixed rfl
      histogram := by
        change Histogram.Describes (a.part.accumulator.histogram.addAll (lagsAt t c.rows))
          (a.lags ++ lagsAt (result.syncCompletedMonotonicNs.getD 0) (a.claimed.map Row.toRecord))
        rw [ht, hrows]
        refine h.histogram.addAll ?_
        intro l hl
        obtain ⟨r, -, rfl⟩ := List.mem_map.1 hl
        exact (Nat.sub_le _ _).trans (result.fits t ht)
      breaches := by
        change a.part.accumulator.sloBreachCount + (lagsAt t c.rows).countP _ = List.countP _
          (a.lags ++ lagsAt (result.syncCompletedMonotonicNs.getD 0) (a.claimed.map Row.toRecord))
        rw [ht, hrows, h.breaches, List.countP_append]
        rfl }

theorem Kept.applyFailure {a : ActivePart} (h : a.Kept) (e : Err) :
    (a.applyFailure e).2.Kept := by
  unfold ActivePart.applyFailure
  split
  · exact h
  · next part hpart =>
    unfold Part.applyFailure at hpart
    split at hpart
    · simp at hpart
    · obtain rfl := (Prod.ext_iff.1 hpart).2
      have hfailed : (a.part.accumulator.applyFailure e).writeFailureCount ≠ 0 ∨
          (a.part.accumulator.applyFailure e).syncFailureCount ≠ 0 := by
        unfold PartAccumulator.applyFailure
        split_ifs
        · left
          simp
        · right
          simp
      have hsame : ∃ w s, a.part.accumulator.applyFailure e =
          { a.part.accumulator with writeFailureCount := w, syncFailureCount := s } := by
        unfold PartAccumulator.applyFailure
        split_ifs
        · exact ⟨_, _, rfl⟩
        · exact ⟨_, _, rfl⟩
      obtain ⟨w, s, hacc⟩ := hsame
      exact {
        pending := h.pending
        claimed := by
          intro c hc
          simp at hc
        unclaimed := fun _ => rfl
        rows := by
          intro hw hs
          rcases hfailed with hne | hne
          · exact absurd hw hne
          · exact absurd hs hne
        frames := h.frames
        owned := fun r hr => (h.owned r hr).of_fixed rfl
        increasing := h.increasing
        recordCount := by
          dsimp only
          rw [hacc]
          exact h.recordCount
        firstReceived := by
          dsimp only
          rw [hacc]
          exact h.firstReceived
        lastReceived := by
          dsimp only
          rw [hacc]
          exact h.lastReceived
        sequenceFirst := by
          dsimp only
          rw [hacc]
          exact h.sequenceFirst
        sequenceLast := by
          dsimp only
          rw [hacc]
          exact h.sequenceLast
        facts := h.facts
        histogram := by
          dsimp only
          rw [hacc]
          exact h.histogram
        breaches := by
          dsimp only
          rw [hacc]
          exact h.breaches
        events := by
          dsimp only
          rw [hacc]
          exact h.events
        normal := h.normal
        closed := h.closed }

theorem Kept.foldDurableControl {a : ActivePart} (h : a.Kept) {association : ControlAssociation}
    (hnamed : association.controlEventId ≠ "") : (a.foldDurableControl association).2.Kept := by
  cases hcheck : a.part.accumulator.validateDurableControl association a.part.target with
  | some e =>
    have hsame : a.foldDurableControl association = (some e, a) := by
      simp [ActivePart.foldDurableControl, Part.foldDurableControl, hcheck]
    rw [hsame]
    exact h
  | none =>
    have hfold : (a.foldDurableControl association).2 = { a with
        part := { a.part with accumulator := a.part.accumulator.fold association } } := by
      simp [ActivePart.foldDurableControl, Part.foldDurableControl, hcheck]
    rw [hfold]
    exact { h with
      owned := fun r hr => (h.owned r hr).of_fixed rfl
      events := by
        change "" ∉ a.part.accumulator.controlEventIds ++ [association.controlEventId]
        simp [h.events, hnamed.symm] }

theorem Kept.retire {a : ActivePart} (h : a.Kept) (reason : CloseReason) (closedAtNs : Nat) :
    (a.retire reason closedAtNs).2.Kept := by
  unfold ActivePart.retire
  split
  · exact h
  · next hvalid =>
    unfold Part.validateRetirement at hvalid
    split_ifs at hvalid with hreason hother
    unfold Part.retire
    split_ifs with hclosed
    · exact h
    · exact { h with
        owned := fun r hr => (h.owned r hr).of_fixed rfl
        normal := by simpa using hreason
        closed := rfl }

theorem Kept.step {a : ActivePart} (h : a.Kept) (op : PartOp) : (a.step op).Kept := by
  cases op with
  | append r => exact h.appendAccepted r
  | sealOversized r => exact h.sealOversized r
  | sealForSync forceSync => exact h.sealForSync forceSync
  | complete result => exact h.applyCompletion result
  | fail e => exact h.applyFailure e
  | fold association named => exact h.foldDurableControl named
  | retire reason closedAtNs => exact h.retire reason closedAtNs

/-- The part keeps its rows over every sequence of operations. -/
theorem Kept.run {a : ActivePart} (h : a.Kept) (ops : List PartOp) : (a.run ops).Kept := by
  induction ops generalizing a with
  | nil => exact h
  | cons op ops ih => exact ih (h.step op)

/-! ## What stays -/

theorem fixed_step (a : ActivePart) (op : PartOp) : (a.step op).fixed = a.fixed := by
  cases op with
  | append r =>
    change (a.appendAccepted r).2.fixed = a.fixed
    unfold ActivePart.appendAccepted
    split_ifs with hretired
    · rfl
    · split
      · rfl
      · split
        · rfl
        · next part hpart =>
          obtain rfl := part_appendAccepted_ok hpart
          rfl
  | sealOversized r =>
    change (a.sealOversized r).2.fixed = a.fixed
    unfold ActivePart.sealOversized
    split_ifs with hretired hbusy hsmall
    · rfl
    · rfl
    · rfl
    · split
      · rfl
      · split
        · rfl
        · next part hpart =>
          obtain rfl := part_sealOversized_ok hpart
          rfl
  | sealForSync forceSync =>
    change (a.sealForSync forceSync).2.fixed = a.fixed
    unfold ActivePart.sealForSync Part.sealForSync
    split_ifs <;> rfl
  | complete result =>
    change (a.applyCompletion result).2.fixed = a.fixed
    unfold ActivePart.applyCompletion
    split
    · rfl
    · next part hpart =>
      obtain ⟨c, t, -, -, rfl⟩ := applyCompletion_ok hpart
      rfl
  | fail e =>
    change (a.applyFailure e).2.fixed = a.fixed
    unfold ActivePart.applyFailure
    split
    · rfl
    · next part hpart =>
      unfold Part.applyFailure at hpart
      split at hpart
      · simp at hpart
      · obtain rfl := (Prod.ext_iff.1 hpart).2
        rfl
  | fold association named =>
    change (a.foldDurableControl association).2.fixed = a.fixed
    unfold ActivePart.foldDurableControl Part.foldDurableControl
    cases a.part.accumulator.validateDurableControl association a.part.target <;> rfl
  | retire reason closedAtNs =>
    change (a.retire reason closedAtNs).2.fixed = a.fixed
    unfold ActivePart.retire
    split
    · rfl
    · unfold Part.retire
      split_ifs <;> rfl

/-- The rows of a part were appended to it. -/
theorem mem_rows_step {a : ActivePart} {op : PartOp} {s : Row} (h : s ∈ (a.step op).rows) :
    s ∈ a.rows ∨ op = .append s ∨ op = .sealOversized s := by
  cases op with
  | append r =>
    change s ∈ (a.appendAccepted r).2.rows at h
    unfold ActivePart.appendAccepted at h
    split_ifs at h with hretired
    · exact .inl h
    · split at h
      · exact .inl h
      · split at h
        · exact .inl h
        · rcases List.mem_append.1 h with h | h
          · exact .inl h
          · obtain rfl : s = r := by simpa using h
            exact .inr (.inl rfl)
  | sealOversized r =>
    change s ∈ (a.sealOversized r).2.rows at h
    unfold ActivePart.sealOversized at h
    split_ifs at h with hretired hbusy hsmall
    · exact .inl h
    · exact .inl h
    · exact .inl h
    · split at h
      · exact .inl h
      · split at h
        · exact .inl h
        · rcases List.mem_append.1 h with h | h
          · exact .inl h
          · obtain rfl : s = r := by simpa using h
            exact .inr (.inr rfl)
  | sealForSync forceSync =>
    change s ∈ (a.sealForSync forceSync).2.rows at h
    unfold ActivePart.sealForSync at h
    split_ifs at h <;> exact .inl h
  | complete result =>
    change s ∈ (a.applyCompletion result).2.rows at h
    unfold ActivePart.applyCompletion at h
    split at h <;> exact .inl h
  | fail e =>
    change s ∈ (a.applyFailure e).2.rows at h
    unfold ActivePart.applyFailure at h
    split at h <;> exact .inl h
  | fold association named => exact .inl h
  | retire reason closedAtNs =>
    change s ∈ (a.retire reason closedAtNs).2.rows at h
    unfold ActivePart.retire at h
    split at h <;> exact .inl h

theorem mem_rows_run {a : ActivePart} {ops : List PartOp} {s : Row} (h : s ∈ (a.run ops).rows) :
    s ∈ a.rows ∨ .append s ∈ ops ∨ .sealOversized s ∈ ops := by
  induction ops generalizing a with
  | nil => exact .inl h
  | cons op ops ih =>
    rcases ih h with h | h | h
    · rcases mem_rows_step h with h | rfl | rfl
      · exact .inl h
      · simp
      · simp
    · simp [h]
    · simp [h]

theorem fixed_run (a : ActivePart) (ops : List PartOp) : (a.run ops).fixed = a.fixed := by
  induction ops generalizing a with
  | nil => rfl
  | cons op ops ih => exact (ih (a.step op)).trans (a.fixed_step op)

end ActivePart

end CryptoCollector.Storage
